/-
The functions that every script finds come to the same on twins: those on objects, lists, functions, errors and
primitive values.
-/
import ScriptHost.Proofs.Script.Twins.Function

namespace ScriptHost.Script

open Engine (Description)

namespace Engine

variable {σ : Shift} {e d : Engine}

/-! ## Lists of values -/

theorem arg_values (args : List Value) (n : Nat) : arg (args.map σ.value) n = σ.value (arg args n) := by
  simp only [arg, List.getD_eq_getElem?_getD, List.getElem?_map]
  cases args[n]? <;> rfl

theorem twins_needFunction (v : Value) : Run.Twins σ id (needFunction v) (needFunction (σ.value v)) :=
  .bind_same (twins_isCallable v) fun _ => .ite Iff.rfl (.typeError _) (.pure rfl)

theorem twins_needObject (v : Value) : Run.Twins σ σ.ref (needObject v) (needObject (σ.value v)) := by
  cases v with
  | object r => exact .pure rfl
  | _ => exact .typeError _

section Lists

variable (he : Twins σ e d)
include he

theorem twins_lengthOf (r : Ref) : Run.Twins σ id (e.lengthOf r) (d.lengthOf (σ.ref r)) :=
  .bind (twins_get he (.object r) _) fun v => twins_toLength he v

theorem twins_itemsFrom (r : Ref) :
    ∀ i n, Run.Twins σ (List.map σ.value) (e.itemsFrom r i n) (d.itemsFrom (σ.ref r) i n)
  | _, 0 => .pure rfl
  | i, n + 1 => .bind (twins_get he (.object r) _) fun _ => .bind (twins_itemsFrom r (i + 1) n) fun _ => .pure rfl

theorem twins_itemsOf (r : Ref) : Run.Twins σ (List.map σ.value) (e.itemsOf r) (d.itemsOf (σ.ref r)) :=
  .bind_same (twins_lengthOf he r) fun n => twins_itemsFrom he r 0 n

theorem twins_toWhole (v : Value) : Run.Twins σ id (e.toWhole v) (d.toWhole (σ.value v)) :=
  .bind_same (twins_toNumber he v) fun _ => .pure rfl

end Lists

/-! ## Objects -/

theorem twins_objectOf (v : Value) : Run.Twins σ σ.value (objectOf v) (objectOf (σ.value v)) :=
  .ite (by simp) (.bind .allocPlain fun _ => .pure rfl) (.bind (twins_toObject v) fun _ => .pure rfl)

theorem twins_enumerableKeys (he : Binds σ e d) (r : Ref) : Run.Twins σ id
    (Run.look fun m => e.enumerableKeys m r) (Run.look fun m => d.enumerableKeys m (σ.ref r)) :=
  .look fun t => he.enumerableKeys t r

theorem twins_objectKeys (he : Binds σ e d) (v : Value) :
    Run.Twins σ σ.value (e.objectKeys v) (d.objectKeys (σ.value v)) := by
  refine .bind (twins_toObject v) fun r => .bind_same (twins_enumerableKeys he r) fun ks => ?_
  have made := Run.Twins.allocArray (σ := σ) (ks.map fun k => .string k.units)
  rw [List.map_map] at made
  exact .bind made fun _ => .pure rfl

theorem twins_describe (s : Slot) : Run.Twins σ σ.value (describe s) (describe (σ.slot s)) := by
  have told : ∀ entries : List (Key × Value), Run.Twins σ σ.value
      (do
        let r ← Run.allocPlain
        entries.forM fun x => Run.update r (Obj.put x.1 (.plain x.2))
        return .object r)
      (do
        let r ← Run.allocPlain
        (entries.map (Prod.map id σ.value)).forM fun x => Run.update r (Obj.put x.1 (.plain x.2))
        return .object r) := fun entries =>
    .bind .allocPlain fun r => .bind_same
        (.forM_map (f := Prod.map id σ.value) (fun x => .put r x.1 (.plain x.2)) entries) fun _ => .pure rfl
  rcases s with ⟨v, w, en, co⟩ | ⟨g, s, en, co⟩
  · exact told [("value", v), ("writable", .bool w), ("enumerable", .bool en), ("configurable", .bool co)]
  · rcases g with _ | g <;> rcases s with _ | s
    · exact told [("get", .undefined), ("set", .undefined), ("enumerable", .bool en), ("configurable", .bool co)]
    · exact told [("get", .undefined), ("set", .object s), ("enumerable", .bool en), ("configurable", .bool co)]
    · exact told [("get", .object g), ("set", .undefined), ("enumerable", .bool en), ("configurable", .bool co)]
    · exact told [("get", .object g), ("set", .object s), ("enumerable", .bool en), ("configurable", .bool co)]

theorem twins_accessorPart (message : Text) (part : Option Value) : Run.Twins σ (Option.map (Option.map σ.ref))
    (accessorPart message part) (accessorPart message (part.map σ.value)) := by
  rcases part with _ | _ | _ | _ | _ | _ | r
  · exact .pure rfl
  · exact .pure rfl
  · exact .typeError _
  · exact .typeError _
  · exact .typeError _
  · exact .typeError _
  · exact .bind_same (twins_isCallable (.object r)) fun _ => .ite Iff.rfl (.pure rfl) (.typeError _)

theorem twins_parentValue (v : Value) : Run.Twins σ σ.value (parentValue v) (parentValue (σ.value v)) := by
  refine .bind (twins_toObject v) fun r => .bind (.object r) fun o => ?_
  dsimp only [Shift.obj]
  cases o.parent <;> exact .pure rfl

theorem twins_setParent (this v : Value) :
    Run.Twins σ σ.value (setParent this v) (setParent (σ.value this) (σ.value v)) := by
  have given : ∀ (r : Ref) (p : Option Ref), Run.Twins σ id
      (Run.update r fun o => { o with parent := p }) (Run.update (σ.ref r) fun o => { o with parent := p.map σ.ref }) :=
    fun r parent => .update (p := fun o => { o with parent }) (fun _ => rfl) r
  unfold setParent
  extract_lets answer set set'
  have done : ∀ x, Run.Twins σ σ.value (answer x) (answer x) := fun _ => .pure rfl
  have changed : ∀ x, Run.Twins σ σ.value (set x) (set' x) := by
    intro x
    cases this with
    | object r =>
      cases v with
      | object p =>
        have around : Run.Twins σ id (Run.look fun m => p == r || isAncestor m r (m.heap.size + 1) p)
            (Run.look fun m => σ.ref p == σ.ref r || isAncestor m (σ.ref r) (m.heap.size + 1) (σ.ref p)) :=
          .look fun t => by rw [isAncestor_twin t, Shift.ref_beq]; rfl
        refine .bind_same around fun _ => .ite Iff.rfl (.bind_same (.typeError _) done) ?_
        refine .bind (.object r) fun o => .ite Iff.rfl (.bind_same (.typeError _) done) ?_
        exact .bind_same (given r (some p)) done
      | null => exact .bind_same (given r none) fun _ => .pure rfl
      | _ => exact .pure rfl
    | _ => cases v <;> exact .pure rfl
  exact .ite (by simp) (.bind_same (.typeError _) changed) (changed ())

theorem kindName_obj (o : Obj) : kindName (σ.obj o) = kindName o := by
  obtain ⟨kind, _, _, _⟩ := o
  cases kind with
  | boxed v => cases v <;> rfl
  | _ => rfl

theorem twins_kindText (this : Value) : Run.Twins σ σ.value (kindText this) (kindText (σ.value this)) := by
  have named : ∀ v : Value, Run.Twins σ id (do return kindName (← Run.object (← toObject v)))
      (do return kindName (← Run.object (← toObject (σ.value v)))) := fun v =>
    .bind (twins_toObject v) fun r => .bind (.object r) fun o => .pure (kindName_obj o)
  cases this with
  | undefined => exact .pure rfl
  | null => exact .pure rfl
  | object r => exact .bind (twins_toObject (.object r)) fun r => .bind (.object r) fun o =>
      .bind_same (.pure (kindName_obj o)) fun _ => .pure rfl
  | bool b => exact .bind (twins_toObject (.bool b)) fun r => .bind (.object r) fun o =>
      .bind_same (.pure (kindName_obj o)) fun _ => .pure rfl
  | number x => exact .bind (twins_toObject (.number x)) fun r => .bind (.object r) fun o =>
      .bind_same (.pure (kindName_obj o)) fun _ => .pure rfl
  | string s => exact .bind (twins_toObject (.string s)) fun r => .bind (.object r) fun o =>
      .bind_same (.pure (kindName_obj o)) fun _ => .pure rfl

section Objects

variable (he : Twins σ e d)
include he

theorem twins_objectDescriptor (v k : Value) :
    Run.Twins σ σ.value (e.objectDescriptor v k) (d.objectDescriptor (σ.value v) (σ.value k)) := by
  refine .bind (twins_toObject v) fun r => .bind_same (twins_toKey he k) fun key =>
    .bind (twins_own? he.toBinds r key) fun found => ?_
  rcases found with _ | s
  · exact .pure rfl
  · exact twins_describe s

theorem twins_descriptionPart (r : Ref) (k : Key) :
    Run.Twins σ (Option.map σ.value) (e.descriptionPart r k) (d.descriptionPart (σ.ref r) k) :=
  .bind_same (twins_has he.toBinds r k) fun _ =>
    .ite Iff.rfl (.bind (twins_get he (.object r) k) fun _ => .pure rfl) (.pure rfl)

theorem twins_toDescription (v : Value) :
    Run.Twins σ σ.description (e.toDescription v) (d.toDescription (σ.value v)) := by
  have truth : ∀ v : Option Value, (v.map σ.value).map Value.truthy = v.map Value.truthy := fun v => by
    rw [Option.map_map]
    congr 1
    exact funext fun _ => Shift.truthy_value _
  have part : ∀ r k, Run.Twins σ (Option.map σ.value) (e.descriptionPart r k) (d.descriptionPart (σ.ref r) k) :=
    twins_descriptionPart he
  refine .bind (twins_needObject v) fun r => .bind (part r _) fun _ => .bind (part r _) fun _ =>
    .bind (part r _) fun _ => .bind (part r _) fun _ => .bind (part r _) fun g =>
    .bind (twins_accessorPart _ g) fun _ => .bind (part r _) fun s =>
    .bind (twins_accessorPart _ s) fun _ => ?_
  simp only [truth]
  refine .ite ?_ (.bind_same (.typeError _) fun _ => .pure rfl) (.pure rfl)
  simp [Description.isAccessor, Description.isData]

theorem twins_objectDefine (v k c : Value) :
    Run.Twins σ σ.value (e.objectDefine v k c) (d.objectDefine (σ.value v) (σ.value k) (σ.value c)) :=
  .bind (twins_needObject v) fun r => .bind_same (twins_toKey he k) fun key =>
    .bind (twins_toDescription he c) fun c => .bind_same (twins_define he.toBinds r key c) fun _ => .pure rfl

theorem twins_objectCreate (parent properties : Value) : Run.Twins σ σ.value
    (e.objectCreate parent properties) (d.objectCreate (σ.value parent) (σ.value properties)) := by
  unfold objectCreate
  extract_lets create create'
  have created : ∀ parent, Run.Twins σ σ.value (create parent) (create' (parent.map σ.ref)) := by
    refine fun parent => .bind (.alloc { parent }) fun r => .ite (by simp) ?_ (.pure rfl)
    refine .bind (twins_toObject properties) fun source => .bind_same (twins_enumerableKeys he.toBinds source) fun ks =>
      .bind_same (.forM (fun k => ?_) ks) fun _ => .pure rfl
    exact .bind (twins_get he (.object source) k) fun v => .bind (twins_toDescription he v) fun c =>
      twins_define he.toBinds r k c
  cases parent with
  | object p => exact .bind (f := Option.map σ.ref) (.pure rfl) created
  | null => exact .bind (f := Option.map σ.ref) (.pure rfl) created
  | _ => exact .bind (f := Option.map σ.ref) (.typeError _) created

theorem twins_hasOwn (this k : Value) :
    Run.Twins σ σ.value (e.hasOwn this k) (d.hasOwn (σ.value this) (σ.value k)) := by
  refine .bind_same (twins_toKey he k) fun key => .bind (twins_toObject this) fun r => ?_
  have has : Run.Twins σ id (Run.look fun m => (e.own? m r key).isSome)
      (Run.look fun m => (d.own? m (σ.ref r) key).isSome) :=
    .look fun t => by rw [he.own? t, Option.isSome_map]; rfl
  exact .bind_same has fun _ => .pure rfl

end Objects

/-! ## Arrays -/

theorem twins_arrayOf (args : List Value) : Run.Twins σ σ.value (arrayOf args) (arrayOf (args.map σ.value)) := by
  have general : ∀ args : List Value, Run.Twins σ σ.value (do return .object (← Run.allocArray args))
      (do return .object (← Run.allocArray (args.map σ.value))) := fun args =>
    .bind (.allocArray args) fun _ => .pure rfl
  rcases args with _ | ⟨v, _ | ⟨w, rest⟩⟩
  · exact general []
  · cases v with
    | number x =>
      dsimp only [arrayOf, List.map, Shift.value]
      cases Number.toNat32? x with
      | some n => exact .bind (.alloc { kind := .array n false, parent := some .arrayParent }) fun _ => .pure rfl
      | none => exact .rangeError _
    | _ => exact general _
  · cases v <;> exact general _

theorem twins_isArray (v : Value) : Run.Twins σ id (isArray v) (isArray (σ.value v)) := by
  cases v with
  | object r =>
    refine .bind (.object r) fun o => ?_
    obtain ⟨kind, _, _, _⟩ := o
    cases kind <;> exact .pure rfl
  | _ => exact .pure rfl

section Arrays

variable (he : Twins σ e d)
include he

theorem twins_pushItems (r : Ref) :
    ∀ n vs, Run.Twins σ id (e.pushItems r n vs) (d.pushItems (σ.ref r) n (vs.map σ.value))
  | _, [] => .pure rfl
  | n, v :: rest => .bind_same (twins_putObject he r _ v true) fun _ => twins_pushItems r (n + 1) rest

theorem twins_push (this : Value) (args : List Value) :
    Run.Twins σ σ.value (e.push this args) (d.push (σ.value this) (args.map σ.value)) :=
  .bind (twins_toObject this) fun r => .bind_same (twins_lengthOf he r) fun n =>
    .bind_same (twins_pushItems he r n args) fun n =>
      .bind_same (twins_putObject he r _ (.number (Number.ofNat n)) true) fun _ => .pure rfl

theorem twins_visit (r : Ref) (g this : Value) {take take' : Nat → Value → Run Unit}
    (ht : ∀ i v, Run.Twins σ id (take i v) (take' i (σ.value v))) : ∀ i n, Run.Twins σ id
      (e.visit r g this take i n) (d.visit (σ.ref r) (σ.value g) (σ.value this) take' i n)
  | _, 0 => .pure rfl
  | i, n + 1 => by
    refine .bind_same (twins_has he.toBinds r _) fun _ => .ite Iff.rfl ?_ (twins_visit r g this ht (i + 1) n)
    exact .bind (twins_get he (.object r) _) fun v =>
      .bind (he.call g this [v, .number (Number.ofNat i), .object r]) fun outcome =>
        .bind_same (ht _ outcome) fun _ => twins_visit r g this ht (i + 1) n

theorem twins_forEach (this : Value) (args : List Value) :
    Run.Twins σ σ.value (e.forEach this args) (d.forEach (σ.value this) (args.map σ.value)) := by
  refine .bind (twins_toObject this) fun r => .bind_same (twins_lengthOf he r) fun n => ?_
  rw [arg_values, arg_values]
  exact .bind_same (twins_needFunction _) fun _ => .bind_same (twins_visit he r _ _ (fun _ _ => .pure rfl) 0 n) fun _ =>
    .pure rfl

theorem twins_map (this : Value) (args : List Value) :
    Run.Twins σ σ.value (e.map this args) (d.map (σ.value this) (args.map σ.value)) := by
  refine .bind (twins_toObject this) fun r => .bind_same (twins_lengthOf he r) fun n => ?_
  rw [arg_values, arg_values]
  exact .bind_same (twins_needFunction _) fun _ =>
    .bind (.alloc { kind := .array n false, parent := some .arrayParent }) fun mapped =>
      .bind_same (twins_visit he r _ _ (fun i v => .place mapped (.ofNat i) (.plain v)) 0 n) fun _ => .pure rfl

theorem twins_itemTexts (r : Ref) : ∀ i n, Run.Twins σ id (e.itemTexts r i n) (d.itemTexts (σ.ref r) i n)
  | _, 0 => .pure rfl
  | i, n + 1 => by
    refine .bind (twins_get he (.object r) _) fun v => ?_
    extract_lets others others'
    have texts : ∀ s, Run.Twins σ id (others s) (others' s) := fun _ =>
      .bind_same (twins_itemTexts r (i + 1) n) fun _ => .pure rfl
    exact .ite (by simp) (.bind_same (.pure rfl) texts) (.bind_same (twins_toUnits he v) texts)

theorem twins_join (this separator : Value) :
    Run.Twins σ σ.value (e.join this separator) (d.join (σ.value this) (σ.value separator)) := by
  refine .bind (twins_toObject this) fun r => .bind_same (twins_lengthOf he r) fun n => ?_
  extract_lets joinBy joinBy'
  have joined : ∀ sep, Run.Twins σ σ.value (joinBy sep) (joinBy' sep) := fun _ =>
    .bind_same (twins_itemTexts he r 0 n) fun _ => .pure rfl
  exact .ite (by simp) (.bind_same (.pure rfl) joined) (.bind_same (twins_toUnits he separator) joined)

theorem twins_arrayText (this : Value) : Run.Twins σ σ.value (e.arrayText this) (d.arrayText (σ.value this)) :=
  .bind (twins_toObject this) fun r => .bind (twins_get he (.object r) _) fun g =>
    .bind_same (twins_isCallable g) fun _ => .ite Iff.rfl (he.call g (.object r) []) (twins_kindText (.object r))

theorem twins_indexFrom (r : Ref) (v : Value) :
    ∀ i n, Run.Twins σ id (e.indexFrom r v i n) (d.indexFrom (σ.ref r) (σ.value v) i n)
  | _, 0 => .pure rfl
  | i, n + 1 => by
    refine .bind_same (twins_has he.toBinds r _) fun _ => .ite Iff.rfl ?_ (twins_indexFrom r v (i + 1) n)
    exact .bind (twins_get he (.object r) _) fun w =>
      .ite (by simp) (.pure rfl) (twins_indexFrom r v (i + 1) n)

theorem twins_indexOf (this : Value) (args : List Value) :
    Run.Twins σ σ.value (e.indexOf this args) (d.indexOf (σ.value this) (args.map σ.value)) := by
  refine .bind (twins_toObject this) fun r => .bind_same (twins_lengthOf he r) fun n => ?_
  rw [arg_values, arg_values]
  refine .bind_same (twins_toWhole he _) fun x => .bind_same (twins_indexFrom he r _ _ _) fun found => ?_
  cases found <;> exact .pure rfl

end Arrays

/-! ## Functions, errors and primitive values -/

theorem twins_primitiveOf (this : Value) {p : Value → Bool} (same : ∀ v, p (σ.value v) = p v) (message : Text) :
    Run.Twins σ σ.value (primitiveOf this p message) (primitiveOf (σ.value this) p message) := by
  have taken : ∀ v, Run.Twins σ σ.value (if p v then return v else Run.typeError message)
      (if p (σ.value v) then return σ.value v else Run.typeError message) := fun v =>
    .ite (by rw [same]) (.pure rfl) (.typeError _)
  cases this with
  | object r =>
    refine .bind (.object r) fun o => ?_
    obtain ⟨kind, _, _, _⟩ := o
    cases kind with
    | boxed v => exact taken v
    | _ => exact .typeError _
  | undefined => exact taken .undefined
  | null => exact taken .null
  | bool b => exact taken (.bool b)
  | number x => exact taken (.number x)
  | string s => exact taken (.string s)

theorem isString_value (v : Value) : isString (σ.value v) = isString v := by
  cases v <;> rfl

theorem isNumber_value (v : Value) : isNumber (σ.value v) = isNumber v := by
  cases v <;> rfl

theorem isBool_value (v : Value) : isBool (σ.value v) = isBool v := by
  cases v <;> rfl

theorem twins_boxed (v : Value) : Run.Twins σ σ.value (boxed v) (boxed (σ.value v)) :=
  .bind (twins_toObject v) fun _ => .pure rfl

section Functions

variable (he : Twins σ e d)
include he

theorem twins_functionOf (args : List Value) :
    Run.Twins σ σ.value (e.functionOf args) (d.functionOf (args.map σ.value)) :=
  .bind_same (.mapM_map (fun v => twins_toUnits he v) args) fun _ => twins_runGlobally he _

theorem twins_callWith (g : Value) (args : List Value) :
    Run.Twins σ σ.value (e.callWith g args) (d.callWith (σ.value g) (args.map σ.value)) := by
  refine .bind_same (twins_needFunction g) fun _ => ?_
  rw [arg_values, ← List.map_drop]
  exact he.call g _ _

theorem twins_applyWith (g : Value) (args : List Value) :
    Run.Twins σ σ.value (e.applyWith g args) (d.applyWith (σ.value g) (args.map σ.value)) := by
  refine .bind_same (twins_needFunction g) fun _ => ?_
  rw [arg_values, arg_values]
  cases arg args 1 with
  | undefined => exact he.call g _ []
  | null => exact he.call g _ []
  | object r => exact .bind (twins_itemsOf he r) fun items => he.call g _ items
  | _ => exact .typeError _

theorem twins_functionText (g : Value) : Run.Twins σ σ.value (e.functionText g) (d.functionText (σ.value g)) := by
  refine .bind_same (twins_needFunction g) fun _ => ?_
  extract_lets describe describe'
  have described : ∀ kind, Run.Twins σ σ.value (describe kind) (describe' (σ.kind kind)) := by
    intro kind
    cases kind with
    | closure => exact .pure rfl
    | host => exact .pure rfl
    | _ => exact .bind (twins_get he g _) fun v => .bind_same (twins_toUnits he v) fun _ => .pure rfl
  cases g with
  | object r => exact .bind (.object r) fun o => .bind (f := σ.kind) (.pure rfl) described
  | _ => exact .bind (f := σ.kind) (.pure rfl) described

theorem twins_errorOf (k : ErrorKind) (message : Value) :
    Run.Twins σ σ.value (e.errorOf k message) (d.errorOf k (σ.value message)) := by
  have made := Run.Twins.alloc (σ := σ) { kind := .error, parent := some (.errorParent k) }
  simp only [Shift.obj, Option.map_some, Shift.ref_errorParent] at made
  refine .bind made fun r => .ite (by simp) ?_ (.pure rfl)
  exact .bind_same (twins_toUnits he message) fun s => .bind_same (.put r _ (.hidden (.string s))) fun _ => .pure rfl

theorem twins_errorText (this : Value) : Run.Twins σ σ.value (e.errorText this) (d.errorText (σ.value this)) := by
  refine .bind_same (.discard (twins_needObject this)) fun _ => ?_
  extract_lets part part'
  have text : ∀ k missing, Run.Twins σ id (part k missing) (part' k missing) := fun k missing =>
    .bind (twins_get he this k) fun v => .ite (by simp) (.pure rfl) (twins_toUnits he v)
  exact .bind_same (text _ _) fun name => .bind_same (text _ _) fun message =>
    .ite Iff.rfl (.pure rfl) (.ite Iff.rfl (.pure rfl) (.pure rfl))

theorem twins_stringOf (args : List Value) : Run.Twins σ σ.value (e.stringOf args) (d.stringOf (args.map σ.value)) := by
  cases args with
  | nil => exact .pure rfl
  | cons v _ => exact .bind_same (twins_toUnits he v) fun _ => .pure rfl

theorem twins_numberOf (args : List Value) : Run.Twins σ σ.value (e.numberOf args) (d.numberOf (args.map σ.value)) := by
  cases args with
  | nil => exact .pure rfl
  | cons v _ => exact .bind_same (twins_toNumber he v) fun _ => .pure rfl

theorem twins_maxOf : ∀ vs best, Run.Twins σ id (e.maxOf vs best) (d.maxOf (vs.map σ.value) best)
  | [], _ => .pure rfl
  | v :: rest, _ => .bind_same (twins_toNumber he v) fun _ => twins_maxOf rest _

theorem twins_thisUnits (this : Value) : Run.Twins σ id (e.thisUnits this) (d.thisUnits (σ.value this)) :=
  .ite (by simp) (.typeError _) (twins_toUnits he this)

theorem twins_charAt (this place : Value) :
    Run.Twins σ σ.value (e.charAt this place) (d.charAt (σ.value this) (σ.value place)) :=
  .bind_same (twins_thisUnits he this) fun _ => .bind_same (twins_toWhole he place) fun _ => .pure rfl

theorem twins_repeatUnits (this count : Value) :
    Run.Twins σ σ.value (e.repeatUnits this count) (d.repeatUnits (σ.value this) (σ.value count)) :=
  .bind_same (twins_thisUnits he this) fun _ => .bind_same (twins_toWhole he count) fun _ =>
    .ite Iff.rfl (.rangeError _) (.ite Iff.rfl (.rangeError _) (.pure rfl))

end Functions

end Engine

end ScriptHost.Script
