/-
The functions on dates run alike on twins: what they are shown of the time is the same on both, since both count
their readings alike.
-/
import ScriptHost.Proofs.Script.Twins.Native

namespace ScriptHost.Script.Engine

variable {σ : Shift} {e d : Engine}

theorem primitiveTime?_value (v : Value) : primitiveTime? (σ.value v) = primitiveTime? v := by
  cases v <;> rfl

theorem isUnbounded_value (v : Value) : isUnbounded (σ.value v) = isUnbounded v := by
  cases v <;> rfl

theorem twins_makeDate (t : Option Int) : Run.Twins σ σ.value (makeDate t) (makeDate t) :=
  .bind (.alloc { kind := .date t, parent := some .dateParent }) fun _ => .pure rfl

theorem twins_ownTime? (v : Value) : Run.Twins σ id (ownTime? v) (ownTime? (σ.value v)) := by
  cases v with
  | object r =>
    refine .bind (.object r) fun o => .pure ?_
    obtain ⟨kind, _, _, _⟩ := o
    cases kind <;> rfl
  | _ => exact .pure rfl

theorem twins_needDate (v : Value) : Run.Twins σ id (needDate v) (needDate (σ.value v)) := by
  refine .bind_same (twins_ownTime? v) fun own => ?_
  cases own with
  | some t => exact .pure rfl
  | none => exact .typeError _

theorem twins_toTime (he : Twins σ e d) (v : Value) : Run.Twins σ id (e.toTime v) (d.toTime (σ.value v)) := by
  refine .bind_same (twins_ownTime? v) fun own => ?_
  cases own with
  | some t => exact .pure rfl
  | none => exact .bind (twins_toPrimitive he .any v) fun p => .pure (primitiveTime?_value p)

theorem twins_wholeParts? (he : Twins σ e d) : ∀ args : List Value,
    Run.Twins σ id (e.wholeParts? args) (d.wholeParts? (args.map σ.value))
  | [] => .pure rfl
  | v :: vs => by
    refine .bind_same (twins_toNumber he v) fun x => .ite Iff.rfl ?_ (.pure rfl)
    exact .bind_same (twins_wholeParts? he vs) fun _ => .pure rfl

theorem twins_dateOfParts (he : Twins σ e d) (args : List Value) :
    Run.Twins σ σ.value (e.dateOfParts args) (d.dateOfParts (args.map σ.value)) := by
  unfold dateOfParts
  rw [← List.map_take]
  refine .bind_same (twins_wholeParts? he _) fun parts => ?_
  cases parts with
  | none => exact twins_makeDate none
  | some parts => exact .bind_same (.ask (.zone (partsTime parts))) fun _ => twins_makeDate _

theorem twins_timeOfParts (he : Twins σ e d) (args : List Value) :
    Run.Twins σ σ.value (e.timeOfParts args) (d.timeOfParts (args.map σ.value)) := by
  unfold timeOfParts
  rw [← List.map_take]
  refine .bind_same (twins_wholeParts? he _) fun parts => ?_
  rcases parts with _ | _ | _ <;> exact .pure rfl

theorem twins_constructDate (he : Twins σ e d) (args : List Value) :
    Run.Twins σ σ.value (e.constructDate args) (d.constructDate (args.map σ.value)) := by
  rcases args with _ | ⟨v, _ | ⟨v', vs⟩⟩
  · exact .bind_same .clock fun _ => twins_makeDate _
  · exact .bind_same (twins_toTime he v) fun _ => twins_makeDate _
  · exact twins_dateOfParts he (v :: v' :: vs)

theorem twins_timePart (part : Moment.Part) (universal : Bool) (t : Option Int) :
    Run.Twins σ σ.value (timePart part universal t) (timePart part universal t) := by
  cases t with
  | none => exact .pure rfl
  | some t => exact .ite Iff.rfl (.pure rfl) (.bind_same (.ask (.zone t)) fun _ => .pure rfl)

theorem twins_zoneOffset (t : Option Int) : Run.Twins σ σ.value (zoneOffset t) (zoneOffset t) := by
  cases t with
  | none => exact .pure rfl
  | some t => exact .bind_same (.ask (.zone t)) fun _ => .pure rfl

theorem twins_localText (t : Option Int) : Run.Twins σ σ.value (localText t) (localText t) := by
  cases t with
  | none => exact .pure rfl
  | some t => exact .bind_same (.ask (.zone t)) fun _ => .pure rfl

theorem twins_isoText (this : Value) : Run.Twins σ σ.value (isoText this) (isoText (σ.value this)) := by
  refine .bind_same (twins_needDate this) fun t => ?_
  cases t with
  | none => exact .rangeError _
  | some t => exact .pure rfl

theorem twins_dateJson (he : Twins σ e d) (this : Value) :
    Run.Twins σ σ.value (e.dateJson this) (d.dateJson (σ.value this)) := by
  refine .bind (twins_toObject this) fun r => .bind (twins_toPrimitive he .number (.object r)) fun p =>
    .ite (by rw [isUnbounded_value]) (.pure rfl) ?_
  refine .bind (twins_get he (.object r) _) fun f => .bind_same (twins_isCallable f) fun callable =>
    .ite Iff.rfl ?_ (.typeError _)
  exact he.call f (.object r) []

end ScriptHost.Script.Engine
