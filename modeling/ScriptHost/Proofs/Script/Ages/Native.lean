/-
The functions of the library age: those on objects, lists, functions, errors and primitive
values.
-/
import ScriptHost.Proofs.Script.Ages.Function

namespace ScriptHost.Script

open Run (Ages AgesFrom)

namespace Engine

variable {e : Engine}

/-! ## Lists of values -/

theorem ages_needFunction (v : Value) : (needFunction v).Ages := by
  refine .bind (ages_isCallable v) fun callable => ?_
  split
  · exact .typeError _
  · exact .pure _

theorem ages_needObject (v : Value) : (needObject v).Ages := by
  cases v with
  | object r => exact .pure r
  | _ => exact .typeError _

section Lists

variable (he : e.Ages)
include he

theorem ages_lengthOf (r : Ref) : (e.lengthOf r).Ages :=
  .bind (ages_get he _ _) fun v => ages_toLength he v

theorem ages_itemsFrom (r : Ref) : ∀ i n, (e.itemsFrom r i n).Ages
  | _, 0 => .pure _
  | i, n + 1 => .bind (ages_get he _ _) fun _ => .bind (ages_itemsFrom r (i + 1) n) fun _ => .pure _

theorem ages_itemsOf (r : Ref) : (e.itemsOf r).Ages :=
  .bind (ages_lengthOf he r) fun n => ages_itemsFrom he r 0 n

theorem ages_toWhole (v : Value) : (e.toWhole v).Ages := .bind (ages_toNumber he v) fun _ => .pure _

end Lists

/-! ## Objects -/

theorem ages_objectOf (v : Value) : (objectOf v).Ages := by
  unfold objectOf
  split
  · exact .bind .allocPlain fun _ => .pure _
  · exact .bind (ages_toObject v) fun _ => .pure _

theorem ages_objectKeys (v : Value) : (e.objectKeys v).Ages :=
  .bind (ages_toObject v) fun _ => .bind (.look _) fun _ => .bind (.allocArray _) fun _ => .pure _

theorem ages_describe (s : Slot) : (describe s).Ages :=
  .construct fun _ _ new => .bind (.forM fun (_, _) _ => .update new _) fun _ => .of_ages (.pure _)

theorem ages_accessorPart (message : Text) (part : Option Value) : (accessorPart message part).Ages := by
  unfold accessorPart
  split
  · exact .pure _
  · exact .pure _
  · refine .bind (ages_isCallable _) fun callable => ?_
    split
    · exact .pure _
    · exact .typeError _
  · exact .typeError _

theorem ages_parentValue (v : Value) : (parentValue v).Ages := by
  refine .bind (ages_toObject v) fun r => .bind (.object r) fun o => ?_
  split <;> exact .pure _

theorem ages_setParent (this v : Value) : (setParent this v).Ages := by
  unfold setParent
  extract_lets answer set
  have done : ∀ x, (answer x).Ages := fun _ => .pure _
  have changed : ∀ x, (set x).Ages := by
    intro x
    dsimp only [set]
    split
    · refine .bind (.look _) fun around => ?_
      split
      · exact .bind (.typeError _) done
      · refine .bind (.object _) fun o => ?_
        split
        · exact .bind (.typeError _) done
        · exact .bind (.update _ fun _ => .of_slots rfl rfl) done
    · exact .bind (.update _ fun _ => .of_slots rfl rfl) fun _ => .pure _
    · exact .pure _
  split
  · exact .bind (.typeError _) changed
  · exact changed ()

theorem ages_kindText (this : Value) : (kindText this).Ages := by
  unfold kindText
  cases this with
  | undefined => exact .bind (.pure _) fun _ => .pure _
  | null => exact .bind (.pure _) fun _ => .pure _
  | _ =>
    exact .bind (ages_toObject _) fun r => .bind (.object r) fun _ => .bind (.pure _) fun _ => .pure _

section Objects

variable (he : e.Ages)
include he

theorem ages_objectDescriptor (v k : Value) : (e.objectDescriptor v k).Ages := by
  refine .bind (ages_toObject v) fun r => .bind (ages_toKey he k) fun key => .bind (.look _) fun s => ?_
  split
  · exact ages_describe _
  · exact .pure _

theorem ages_descriptionPart (r : Ref) (k : Key) : (e.descriptionPart r k).Ages := by
  refine .bind (ages_has r k) fun has => ?_
  split
  · exact .bind (ages_get he _ _) fun _ => .pure _
  · exact .pure _

theorem ages_toDescription (v : Value) : (e.toDescription v).Ages := by
  have part : ∀ r k, (e.descriptionPart r k).Ages := ages_descriptionPart he
  refine .bind (ages_needObject v) fun r => .bind (part r _) fun _ => .bind (part r _) fun _ =>
    .bind (part r _) fun _ => .bind (part r _) fun _ => .bind (part r _) fun g =>
    .bind (ages_accessorPart _ g) fun _ => .bind (part r _) fun s =>
    .bind (ages_accessorPart _ s) fun _ => ?_
  dsimp only
  split
  · exact .bind (.typeError _) fun _ => .pure _
  · exact .pure _

theorem ages_objectDefine (v k d : Value) : (e.objectDefine v k d).Ages :=
  .bind (ages_needObject v) fun r => .bind (ages_toKey he k) fun key =>
    .bind (ages_toDescription he d) fun d => .bind (ages_define r key d) fun _ => .pure _

theorem ages_objectCreate (parent properties : Value) : (e.objectCreate parent properties).Ages := by
  unfold objectCreate
  extract_lets create
  have created : ∀ parent, (create parent).Ages := by
    refine fun parent => .bind (.alloc _) fun r => ?_
    split
    · exact .bind (ages_toObject _) fun source => .bind (.look _) fun ks =>
        .bind (.forM (fun k => .bind (ages_get he _ _) fun v => .bind (ages_toDescription he v) fun d =>
          ages_define r k d) ks) fun _ => .pure _
    · exact .pure _
  split
  · exact .bind (.pure _) created
  · exact .bind (.pure _) created
  · exact .bind (.typeError _) created

theorem ages_hasOwn (this k : Value) : (e.hasOwn this k).Ages :=
  .bind (ages_toKey he k) fun _ => .bind (ages_toObject this) fun _ => .bind (.look _) fun _ => .pure _

end Objects

/-! ## Arrays -/

theorem ages_arrayOf (args : List Value) : (arrayOf args).Ages := by
  unfold arrayOf
  split
  · split
    · exact .bind (.alloc _) fun _ => .pure _
    · exact .rangeError _
  · exact .bind (.allocArray _) fun _ => .pure _

theorem ages_isArray (v : Value) : (isArray v).Ages := by
  cases v with
  | object r =>
    refine .bind (.object r) fun o => ?_
    split <;> exact .pure _
  | _ => exact .pure _

section Arrays

variable (he : e.Ages)
include he

theorem ages_pushItems (r : Ref) : ∀ n vs, (e.pushItems r n vs).Ages
  | _, [] => .pure _
  | n, _ :: rest => .bind (ages_putObject he _ _ _ _) fun _ => ages_pushItems r (n + 1) rest

theorem ages_push (this : Value) (args : List Value) : (e.push this args).Ages :=
  .bind (ages_toObject this) fun r => .bind (ages_lengthOf he r) fun n =>
    .bind (ages_pushItems he r n args) fun _ => .bind (ages_putObject he _ _ _ _) fun _ => .pure _

theorem agesFrom_visit {m : Machine} (r : Ref) (f this : Value) {take : Nat → Value → Run Unit}
    (ht : ∀ i v, (take i v).AgesFrom m) : ∀ i n, (e.visit r f this take i n).AgesFrom m
  | _, 0 => .of_ages (.pure _)
  | i, n + 1 => by
    refine .bind (.of_ages (ages_has r _)) fun has => ?_
    dsimp only
    split
    · exact .bind (.of_ages (ages_get he _ _)) fun _ => .bind (.of_ages (he.call _ _ _)) fun _ =>
        .bind (ht _ _) fun _ => agesFrom_visit r f this ht (i + 1) n
    · exact agesFrom_visit r f this ht (i + 1) n

theorem ages_forEach (this : Value) (args : List Value) : (e.forEach this args).Ages :=
  .bind (ages_toObject this) fun r => .bind (ages_lengthOf he r) fun n =>
    .bind (ages_needFunction _) fun _ => .bind (AgesFrom.ages fun _ =>
      agesFrom_visit he r _ _ (fun _ _ => .of_ages (.pure _)) 0 n) fun _ => .pure _

/-- The list of what the function gives is made first. -/
theorem ages_map (this : Value) (args : List Value) : (e.map this args).Ages :=
  .bind (ages_toObject this) fun r => .bind (ages_lengthOf he r) fun n =>
    .bind (ages_needFunction _) fun _ => .construct fun _ _ new =>
      .bind (agesFrom_visit he r _ _ (fun _ _ => .update new _) 0 n) fun _ => .of_ages (.pure _)

theorem ages_itemTexts (r : Ref) : ∀ i n, (e.itemTexts r i n).Ages
  | _, 0 => .pure _
  | i, n + 1 => by
    refine .bind (ages_get he _ _) fun v => ?_
    extract_lets others
    have texts : ∀ s, (others s).Ages := fun s => .bind (ages_itemTexts r (i + 1) n) fun _ => .pure _
    split
    · exact .bind (.pure _) texts
    · exact .bind (ages_toUnits he v) texts

theorem ages_join (this separator : Value) : (e.join this separator).Ages := by
  refine .bind (ages_toObject this) fun r => .bind (ages_lengthOf he r) fun n => ?_
  extract_lets joinBy
  have joined : ∀ sep, (joinBy sep).Ages := fun _ => .bind (ages_itemTexts he r 0 n) fun _ => .pure _
  split
  · exact .bind (.pure _) joined
  · exact .bind (ages_toUnits he _) joined

theorem ages_arrayText (this : Value) : (e.arrayText this).Ages := by
  refine .bind (ages_toObject this) fun r => .bind (ages_get he _ _) fun f =>
    .bind (ages_isCallable f) fun callable => ?_
  split
  · exact he.call _ _ _
  · exact ages_kindText _

theorem ages_indexFrom (r : Ref) (v : Value) : ∀ i n, (e.indexFrom r v i n).Ages
  | _, 0 => .pure _
  | i, n + 1 => by
    refine .bind (ages_has r _) fun has => ?_
    split
    · refine .bind (ages_get he _ _) fun w => ?_
      split
      · exact .pure _
      · exact ages_indexFrom r v (i + 1) n
    · exact ages_indexFrom r v (i + 1) n

theorem ages_indexOf (this : Value) (args : List Value) : (e.indexOf this args).Ages := by
  refine .bind (ages_toObject this) fun r => .bind (ages_lengthOf he r) fun n =>
    .bind (ages_toWhole he _) fun x => .bind (ages_indexFrom he r _ _ _) fun found => ?_
  split <;> exact .pure _

end Arrays

/-! ## Functions, errors and primitive values -/

theorem ages_primitiveOf (this : Value) (p : Value → Bool) (message : Text) :
    (primitiveOf this p message).Ages := by
  have taken : ∀ v, (if p v then return v else Run.typeError message : Run Value).Ages := by
    intro v
    split
    · exact .pure _
    · exact .typeError _
  cases this with
  | object r =>
    refine .bind (.object r) fun o => ?_
    split
    · exact taken _
    · exact .typeError _
  | _ => exact taken _

theorem ages_boxed (v : Value) : (boxed v).Ages := .bind (ages_toObject v) fun _ => .pure _

section Functions

variable (he : e.Ages)
include he

theorem ages_functionOf (args : List Value) : (e.functionOf args).Ages :=
  .bind (.mapM (fun v => ages_toUnits he v) args) fun _ => ages_runGlobally he _

theorem ages_callWith (f : Value) (args : List Value) : (e.callWith f args).Ages :=
  .bind (ages_needFunction f) fun _ => he.call _ _ _

theorem ages_applyWith (f : Value) (args : List Value) : (e.applyWith f args).Ages := by
  refine .bind (ages_needFunction f) fun _ => ?_
  split
  · exact he.call _ _ _
  · exact he.call _ _ _
  · exact .bind (ages_itemsOf he _) fun _ => he.call _ _ _
  · exact .typeError _

theorem ages_functionText (f : Value) : (e.functionText f).Ages := by
  refine .bind (ages_needFunction f) fun _ => ?_
  extract_lets describe
  have described : ∀ kind, (describe kind).Ages := by
    intro kind
    dsimp only [describe]
    split
    · exact .pure _
    · exact .pure _
    · exact .bind (ages_get he _ _) fun _ => .bind (ages_toUnits he _) fun _ => .pure _
  split
  · exact .bind (.object _) fun o => .bind (.pure _) described
  · exact .bind (.pure _) described

theorem ages_errorOf (k : ErrorKind) (message : Value) : (e.errorOf k message).Ages := by
  refine .construct fun _ _ new => ?_
  dsimp only
  split
  · exact .bind (.of_ages (ages_toUnits he _)) fun _ => .bind (.update new _) fun _ => .of_ages (.pure _)
  · exact .of_ages (.pure _)

theorem ages_errorText (this : Value) : (e.errorText this).Ages := by
  refine .bind (.discard (ages_needObject this)) fun _ => ?_
  extract_lets part
  have text : ∀ k missing, (part k missing).Ages := by
    refine fun k missing => .bind (ages_get he _ _) fun v => ?_
    split
    · exact .pure _
    · exact ages_toUnits he v
  refine .bind (text _ _) fun name => .bind (text _ _) fun message => ?_
  split
  · exact .pure _
  · split <;> exact .pure _

theorem ages_stringOf (args : List Value) : (e.stringOf args).Ages := by
  cases args with
  | nil => exact .pure _
  | cons v _ => exact .bind (ages_toUnits he v) fun _ => .pure _

theorem ages_numberOf (args : List Value) : (e.numberOf args).Ages := by
  cases args with
  | nil => exact .pure _
  | cons v _ => exact .bind (ages_toNumber he v) fun _ => .pure _

theorem ages_maxOf : ∀ vs best, (e.maxOf vs best).Ages
  | [], _ => .pure _
  | v :: rest, _ => .bind (ages_toNumber he v) fun _ => ages_maxOf rest _

theorem ages_thisUnits (this : Value) : (e.thisUnits this).Ages := by
  unfold thisUnits
  split
  · exact .typeError _
  · exact ages_toUnits he this

theorem ages_charAt (this place : Value) : (e.charAt this place).Ages :=
  .bind (ages_thisUnits he this) fun _ => .bind (ages_toWhole he place) fun _ => .pure _

theorem ages_repeatUnits (this count : Value) : (e.repeatUnits this count).Ages := by
  refine .bind (ages_thisUnits he this) fun s => .bind (ages_toWhole he count) fun x => ?_
  split
  · exact .rangeError _
  · dsimp only
    split
    · exact .rangeError _
    · exact .pure _

end Functions

end Engine

end ScriptHost.Script
