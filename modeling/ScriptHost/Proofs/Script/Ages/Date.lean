/-
The functions on dates age. What they are shown of the time is none of the machine, and a date is an object that was
not there before.
-/
import ScriptHost.Proofs.Script.Ages.Native

namespace ScriptHost.Script.Engine

open Run (Ages)

variable {e : Engine}

theorem ages_makeDate (t : Option Int) : (makeDate t).Ages := .bind (.alloc _) fun _ => .pure _

theorem ages_ownTime? (v : Value) : (ownTime? v).Ages := by
  cases v with
  | object r => exact .bind (.object r) fun _ => .pure _
  | _ => exact .pure _

theorem ages_needDate (v : Value) : (needDate v).Ages := by
  refine .bind (ages_ownTime? v) fun own => ?_
  cases own with
  | some t => exact .pure t
  | none => exact .typeError _

/-- The time of a value may be a matter of what its own functions give. -/
theorem ages_toTime (he : e.Ages) (v : Value) : (e.toTime v).Ages := by
  refine .bind (ages_ownTime? v) fun own => ?_
  cases own with
  | some t => exact .pure t
  | none => exact .bind (ages_toPrimitive he _ _) fun _ => .pure _

/-- What arguments stand for may be a matter of what their own functions give. -/
theorem ages_wholeParts? (he : e.Ages) : ∀ args : List Value, (e.wholeParts? args).Ages
  | [] => .pure _
  | v :: vs => by
    refine .bind (ages_toNumber he v) fun x => ?_
    split
    · exact .bind (ages_wholeParts? he vs) fun _ => .pure _
    · exact .pure _

theorem ages_dateOfParts (he : e.Ages) (args : List Value) : (e.dateOfParts args).Ages := by
  refine .bind (ages_wholeParts? he _) fun parts => ?_
  cases parts with
  | none => exact ages_makeDate none
  | some parts => exact .bind (.ask _) fun _ => ages_makeDate _

theorem ages_timeOfParts (he : e.Ages) (args : List Value) : (e.timeOfParts args).Ages := by
  refine .bind (ages_wholeParts? he _) fun parts => ?_
  rcases parts with _ | _ | _ <;> exact .pure _

theorem ages_constructDate (he : e.Ages) (args : List Value) : (e.constructDate args).Ages := by
  rcases args with _ | ⟨v, _ | ⟨v', vs⟩⟩
  · exact .bind .clock fun _ => ages_makeDate _
  · exact .bind (ages_toTime he v) fun _ => ages_makeDate _
  · exact ages_dateOfParts he (v :: v' :: vs)

theorem ages_timePart (part : Moment.Part) (universal : Bool) (t : Option Int) :
    (timePart part universal t).Ages := by
  cases t with
  | none => exact .pure _
  | some t =>
    cases universal with
    | true => exact .pure _
    | false => exact .bind (.ask _) fun _ => .pure _

theorem ages_zoneOffset (t : Option Int) : (zoneOffset t).Ages := by
  cases t with
  | none => exact .pure _
  | some t => exact .bind (.ask _) fun _ => .pure _

theorem ages_localText (t : Option Int) : (localText t).Ages := by
  cases t with
  | none => exact .pure _
  | some t => exact .bind (.ask _) fun _ => .pure _

theorem ages_isoText (this : Value) : (isoText this).Ages := by
  refine .bind (ages_needDate this) fun t => ?_
  cases t with
  | none => exact .rangeError _
  | some t => exact .pure _

theorem ages_dateJson (he : e.Ages) (this : Value) : (e.dateJson this).Ages := by
  refine .bind (ages_toObject this) fun r => .bind (ages_toPrimitive he _ _) fun p => ?_
  split
  · exact .pure _
  · refine .bind (ages_get he _ _) fun f => .bind (ages_isCallable f) fun callable => ?_
    split
    · exact he.call _ _ _
    · exact .typeError _

end ScriptHost.Script.Engine
