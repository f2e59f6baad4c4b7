/-
Objects and names age: reading and writing properties, converting values, and finding, assigning and
declaring names lead to later machines. Each proof follows its definition. What could change the kind of
an object is setting the length of a list, and that is done to lists only.
-/
import ScriptHost.Proofs.Script.Later

namespace ScriptHost.Script

open Run (Ages AgesAt)

/-! ## Objects that change -/

namespace Obj

/-- A list with a length that may not change any more, if a description says so. -/
def fixedBy (d : Engine.Description) (o : Obj) : Obj :=
  match o.kind with
  | .array n f => { o with kind := .array n (f || d.writable == some false) }
  | _ => o

theorem becomes_fixedBy (d : Engine.Description) (o : Obj) : o.Becomes (o.fixedBy d) := by
  unfold fixedBy
  split
  · next h => exact .of_slots (by rw [h]; rfl) rfl
  · exact .refl o

end Obj

/-- A fixed property that is to be kept as it is comes out as it is. -/
theorem Engine.Description.appliedTo_fixed {d : Engine.Description} {f : Ref} {en : Bool}
    (kept : d.keeps (.data (.object f) false en false) = true) :
    d.appliedTo (.data (.object f) false en false) = .data (.object f) false en false := by
  obtain ⟨value, writable, get, set, enumerable, configurable⟩ := d
  simp only [keeps, isAccessor, Bool.and_eq_true, bne_iff_ne, ne_eq, Bool.not_eq_true', Bool.or_eq_false_iff,
    Option.isSome_eq_false_iff, Option.isNone_iff_eq_none, Bool.false_or] at kept
  obtain ⟨⟨⟨co, en'⟩, rfl, rfl⟩, wr, va⟩ := kept
  have sameValue : ∀ v, Value.same v (.object f) = true → v = .object f := by
    intro v same
    cases v with
    | object g => exact congrArg _ (by simpa [Value.same, Value.strictEq] using same)
    | _ => cases same
  have value_eq : value.getD (.object f) = .object f := by
    cases value with
    | none => rfl
    | some v => exact sameValue v va
  have writable_eq : writable.getD false = false := by
    rcases writable with _ | _ | _
    · rfl
    · rfl
    · exact absurd rfl wr
  have enumerable_eq : enumerable.getD en = en := by
    cases enumerable with
    | none => rfl
    | some b => simpa using en'
  have configurable_eq : configurable.getD false = false := by
    rcases configurable with _ | _ | _
    · rfl
    · rfl
    · exact absurd rfl co
  show Slot.data _ _ (enumerable.getD en) (configurable.getD false) = _
  rw [value_eq, writable_eq, enumerable_eq, configurable_eq]

namespace Engine

/-! ## Properties -/

theorem ages_isCallable (v : Value) : (isCallable v).Ages := by
  cases v with
  | object r => exact .bind (.object r) fun _ => .pure _
  | _ => exact .pure _

theorem agesAt_defineLength {m : Machine} {r : Ref} {n : Nat} {fixed : Bool}
    (list : (m.object r).kind = .array n fixed) (d : Description) : (defineLength r d).AgesAt m := by
  -- what is put in place is the list itself or a part of it
  have store : ∀ (o : Obj) (all : Bool), (m.object r).Becomes o →
      (Run.update r (fun _ => o.fixedBy d) >>= fun _ =>
        if !all then Run.typeError "not configurable" else pure ()).AgesAt m := by
    intro o all becomes
    refine AgesAt.bind (.update (becomes.trans (Obj.becomes_fixedBy d o))) fun _ l _ => ?_
    split
    · exact Ages.typeError _ l
    · exact Ages.pure _ l
  refine .object ?_
  simp only [list]
  split
  · exact Ages.typeError _ m
  · rcases d.value with _ | v <;> rcases d.length? with _ | l
    · exact store (m.object r) true (.refl _)
    · exact store (m.object r) true (.refl _)
    · exact Ages.rangeError (α := Unit) _ m
    · exact store ((m.object r).truncate l).1 ((m.object r).truncate l).2 (Obj.becomes_truncate list l)

variable {e : Engine}

/-- A fixed property is what an engine finds. -/
theorem eq_of_fixes {m : Machine} {r f : Ref} {k : Key} {en : Bool} {s : Slot}
    (found : e.own? m r k = some s) (fixes : (m.object r).Fixes k f en) :
    s = .data (.object f) false en false :=
  Option.some.inj (found.symm.trans fixes.own?)

/-- Nothing is fixed under a key where an engine finds nothing. -/
theorem not_fixes_of_none {m : Machine} {r : Ref} {k : Key} (found : e.own? m r k = none) (f : Ref) (en : Bool) :
    ¬ (m.object r).Fixes k f en := fun fixes => by
  rw [fixes.own?] at found
  cases found

/-- A definition changes nothing that is fixed: it is refused, or repeats what is there. -/
theorem ages_define (r : Ref) (k : Key) (d : Description) : (e.define r k d).Ages := by
  refine fun m => .object ?_
  extract_lets slot
  have placed : ∀ x, (slot x).Ages := by
    refine fun _ l => .look ?_
    split
    · next found =>
      split
      · exact .update (Obj.becomes_place fun f en fixes => absurd fixes (not_fixes_of_none found f en))
      · exact Ages.typeError _ l
    · next s found =>
      split
      · next may =>
        refine .update (Obj.becomes_place fun f en fixes => ?_)
        cases eq_of_fixes found fixes
        exact Description.appliedTo_fixed (by simpa [Slot.configurable] using may)
      · exact Ages.typeError _ l
  split
  · next n fixed kind =>
    split
    · exact agesAt_defineLength kind d
    · split
      · split
        · exact Ages.bind (.typeError _) placed m
        · exact placed () m
      · exact placed () m
  · exact placed () m

/-- What is fixed is not removed. -/
theorem ages_remove (r : Ref) (k : Key) : (e.remove r k).Ages := by
  refine fun m => .look ?_
  split
  · exact Ages.pure _ m
  · next s found =>
    split
    · next gone =>
      refine AgesAt.bind (.update (Obj.becomes_remove fun f en fixes => ?_)) fun _ l _ => Ages.pure _ l
      cases eq_of_fixes found fixes
      cases gone
    · exact Ages.pure _ m

theorem ages_has (r : Ref) (k : Key) : (e.has r k).Ages := .look _

theorem ages_toObject (v : Value) : (toObject v).Ages := by
  cases v with
  | object r => exact .pure r
  | undefined => exact .typeError _
  | null => exact .typeError _
  | _ => exact .alloc _

theorem ages_refuse (strict : Bool) (message : Text) : (refuse strict message).Ages := by
  unfold refuse
  split
  · exact .typeError _
  · exact .pure _

/-- A property is only added where there is none. -/
theorem agesAt_addSlot {m : Machine} {r : Ref} {k : Key} (missing : e.own? m r k = none) (v : Value)
    (strict : Bool) : (addSlot r k v strict).AgesAt m := by
  have placed : (Run.update r (Obj.place k (.plain v))).AgesAt m :=
    .update (Obj.becomes_place fun f en fixes => absurd fixes (not_fixes_of_none missing f en))
  refine .object ?_
  split
  · exact ages_refuse _ _ m
  · split
    · split
      · exact ages_refuse _ _ m
      · exact placed
    · exact placed

variable (he : e.Ages)
include he

/-- Reading may call a getter. -/
theorem ages_getFrom (start : Ref) (k : Key) (receiver : Value) : (e.getFrom start k receiver).Ages := by
  refine .bind (.look _) fun found => ?_
  split
  · exact .pure _
  · exact he.call _ _ _
  · exact .pure _
  · exact .pure _

theorem ages_get (v : Value) (k : Key) : (e.get v k).Ages := by
  cases v with
  | string s =>
    simp only [get]
    split
    · exact .pure _
    · exact ages_getFrom he _ _ _
  | undefined => exact .typeError _
  | null => exact .typeError _
  | _ => exact ages_getFrom he _ _ _

/-! ## Conversions -/

theorem ages_askFor (v : Value) : ∀ ks, (e.askFor v ks).Ages
  | [] => .typeError _
  | k :: rest => by
    refine .bind (ages_get he v k) fun f => .bind (ages_isCallable f) fun callable => ?_
    dsimp only
    split
    · refine .bind (he.call f v []) fun p => ?_
      split
      · exact .pure p
      · exact ages_askFor v rest
    · exact ages_askFor v rest

/-- A conversion may call methods of the object. -/
theorem ages_toPrimitive (hint : Hint) (v : Value) : (e.toPrimitive hint v).Ages := by
  cases v with
  | object r =>
    cases hint with
    | any => exact .bind (.look _) fun order => ages_askFor he _ _
    | _ => exact ages_askFor he _ _
  | _ => exact .pure _

theorem ages_toUnits (v : Value) : (e.toUnits v).Ages := by
  cases v with
  | object r => exact .bind (ages_toPrimitive he _ _) fun _ => .pure _
  | _ => exact .pure _

theorem ages_toNumber (v : Value) : (e.toNumber v).Ages := by
  cases v with
  | object r => exact .bind (ages_toPrimitive he _ _) fun _ => .pure _
  | _ => exact .pure _

theorem ages_toKey (v : Value) : (e.toKey v).Ages := by
  cases v with
  | string s => exact .pure _
  | number x =>
    simp only [toKey]
    split <;> exact .pure _
  | _ => exact .bind (ages_toUnits he _) fun _ => .pure _

theorem ages_toLength (v : Value) : (e.toLength v).Ages := .bind (ages_toNumber he v) fun _ => .pure _

/-! ## Assigning to properties -/

/-- The value that is to be the length is converted first, which leaves the list a list. -/
theorem agesAt_putLength {m : Machine} {r : Ref} {n : Nat} {fixed : Bool}
    (list : (m.object r).kind = .array n fixed) (v : Value) (strict : Bool) :
    (e.putLength r v strict).AgesAt m := by
  refine AgesAt.bind (ages_toNumber he v m) fun x l later => ?_
  obtain ⟨n', fixed', list'⟩ := later.array list
  cases Number.toNat32? x with
  | none => exact Ages.rangeError _ l
  | some size =>
    refine AgesAt.object (AgesAt.bind (.update (Obj.becomes_truncate list' size)) fun _ l' _ => ?_)
    split
    · exact ages_refuse _ _ l'
    · exact Ages.pure _ l'

theorem ages_callSetter (setter : Option Ref) (this v : Value) (strict : Bool) :
    (e.callSetter setter this v strict).Ages := by
  cases setter with
  | none => exact ages_refuse _ _
  | some s => exact (he.call _ _ _).discard

/-- Writing a property goes by its writability, or calls what is set there. -/
theorem ages_putObject (r : Ref) (k : Key) (v : Value) (strict : Bool) :
    (e.putObject r k v strict).Ages := by
  refine fun m => .look ?_
  split
  · next w en co found =>
    have put : (Run.update r (Obj.put k (.data v true en co))).AgesAt m :=
      .update (Obj.becomes_put fun f en fixes => nomatch eq_of_fixes found fixes)
    refine .object ?_
    cases kind : (m.object r).kind with
    | array n fixed =>
      dsimp only
      split
      · exact agesAt_putLength he kind v strict
      · exact put
    | _ => exact put
  · exact ages_refuse _ _ m
  · exact ages_callSetter he _ _ _ _ m
  · next missing =>
    refine .look ?_
    split
    · exact ages_refuse _ _ m
    · exact ages_callSetter he _ _ _ _ m
    · exact agesAt_addSlot missing v strict

theorem ages_putPrimitive (target : Value) (k : Key) (v : Value) (strict : Bool) :
    (e.putPrimitive target k v strict).Ages := by
  refine .bind (.look _) fun found => ?_
  split
  · exact (he.call _ _ _).discard
  · exact ages_refuse _ _

theorem ages_put (target : Value) (k : Key) (v : Value) (strict : Bool) :
    (e.put target k v strict).Ages := by
  cases target with
  | object r => exact ages_putObject he _ _ _ _
  | undefined => exact .typeError _
  | null => exact .typeError _
  | _ => exact ages_putPrimitive he _ _ _ _

/-! ## Names -/

omit he in
theorem ages_holder (r : ScopeRef) (n : Utf16) : (e.holder r n).Ages := .look _

omit he in
theorem ages_notInitialized {α : Type} (n : Utf16) : (notInitialized n : Run α).Ages := .throwNew _ _

omit he in
theorem ages_notDefined {α : Type} (n : Utf16) : (notDefined n : Run α).Ages := .throwNew _ _

theorem ages_readHolder (n : Utf16) (h : Holder) : (e.readHolder n h).Ages := by
  cases h with
  | binding r b =>
    simp only [readHolder]
    split
    · exact .pure _
    · exact ages_notInitialized n
  | property r =>
    simp only [readHolder]
    exact ages_get he _ _
  | nowhere => exact ages_notDefined n

theorem ages_readName (r : ScopeRef) (n : Utf16) : (e.readName r n).Ages :=
  .bind (ages_holder r n) fun h => ages_readHolder he n h

/-- A name is written where it is held. -/
theorem ages_writeHolder (n : Utf16) (v : Value) (strict : Bool) (h : Holder) :
    (e.writeHolder n v strict h).Ages := by
  cases h with
  | binding r b =>
    simp only [writeHolder]
    split
    · exact ages_notInitialized n
    · exact .bindName r n v
    · exact .typeError _
    · exact ages_refuse _ _
  | property r => exact ages_putObject he _ _ _ _
  | nowhere =>
    simp only [writeHolder]
    split
    · exact ages_notDefined n
    · exact ages_putObject he _ _ _ _

theorem ages_writeName (r : ScopeRef) (n : Utf16) (v : Value) (strict : Bool) :
    (e.writeName r n v strict).Ages :=
  .bind (ages_holder r n) fun h => ages_writeHolder he n v strict h

omit he in
theorem ages_deleteName (r : ScopeRef) (n : Utf16) : (e.deleteName r n).Ages := by
  refine .bind (ages_holder r n) fun h => ?_
  split
  · exact .pure _
  · exact ages_remove _ _
  · split
    · exact .bind (.changeBindings _ _) fun _ => .pure _
    · exact .pure _

/-! ## Declaring -/

omit he in
/-- Names are checked without a change; where all may be declared, none stands for what is fixed. -/
theorem checkGlobals_apply (m : Machine) : ∀ names : List Utf16,
    (e.checkGlobals names m = .value ⟨⟩ m ∧ ∀ n ∈ names, ∀ f en, ¬ (m.object .global).Fixes (.ofUnits n) f en) ∨
      ∃ v l, e.checkGlobals names m = .thrown v l ∧ m.Later l
  | [] => .inl ⟨rfl, nofun⟩
  | n :: names => by
    have may : ∃ b, e.mayDeclare n m = .value b m ∧
        (b = true → ∀ f en, ¬ (m.object .global).Fixes (.ofUnits n) f en) := by
      unfold mayDeclare
      rw [Run.bind_apply, Run.look_apply, Result.follow_value]
      rcases found : e.own? m .global (.ofUnits n) with _ | s
      · exact ⟨true, rfl, fun _ => not_fixes_of_none found⟩
      · have fixed : s.configurable = true ∨ (∃ v c, s = .data v true true c) →
            ∀ f en, ¬ (m.object .global).Fixes (.ofUnits n) f en := by
          rintro (free | ⟨v, c, rfl⟩) f en fixes
          · cases eq_of_fixes found fixes
            cases free
          · cases eq_of_fixes found fixes
        rcases s with ⟨v, _ | _, _ | _, c⟩ | _
        case data.true.true => exact ⟨true, rfl, fun _ => fixed (.inr ⟨v, c, rfl⟩)⟩
        all_goals exact ⟨_, rfl, fun free => fixed (.inl free)⟩
    obtain ⟨b, told, free⟩ := may
    have check : e.checkGlobals (n :: names) m =
        ((if !b then Run.typeError ("cannot define variable '" ++ Run.shownName n ++ "'") else pure ()) >>=
          fun _ => e.checkGlobals names) m := by
      show ((e.mayDeclare n >>= _) >>= fun _ => e.checkGlobals names) m = _
      simp only [Run.bind_apply, told, Result.follow_value]
    rw [check]
    cases b with
    | false => exact .inr ⟨_, _, rfl, .grown _ m⟩
    | true =>
      obtain ⟨passed, others⟩ | thrown := checkGlobals_apply m names
      · refine .inl ⟨passed, fun n' among => ?_⟩
        rcases List.mem_cons.mp among with rfl | among
        · exact free rfl
        · exact others n' among
      · exact .inr thrown

omit he in
/-- A global function is declared over a name only that is not fixed. -/
theorem agesFrom_declareGlobalFunction {m : Machine} {n : Utf16}
    (free : ∀ f en, ¬ (m.object .global).Fixes (.ofUnits n) f en) (f : Ref) :
    (e.declareGlobalFunction n f).AgesFrom m := by
  refine .bind (.of_ages (.look _)) fun found => ?_
  split <;> exact .put free _

omit he in
theorem ages_declareGlobalVar (n : Utf16) : (e.declareGlobalVar n).Ages := by
  refine fun m => .look ?_
  split
  · next missing =>
    have missing : e.own? m .global (.ofUnits n) = none := Option.isNone_iff_eq_none.mp missing
    exact .update (Obj.becomes_put fun f en fixes => absurd fixes (not_fixes_of_none missing f en))
  · exact Ages.pure _ m

omit he in
theorem ages_declareVar (r : ScopeRef) (n : Utf16) : (e.declareVar r n).Ages := by
  refine .bind (.scope r) fun s => ?_
  split
  · exact .changeBindings _ _
  · exact ages_declareGlobalVar n

omit he in
/-- A function is declared in a scope of names, or under a name that was free on `m`. -/
theorem agesFrom_declareFunction {m : Machine} {r : ScopeRef} {n : Utf16}
    (may : (∃ bs outer, m.scope r = .names bs outer) ∨ ∀ f en, ¬ (m.object .global).Fixes (.ofUnits n) f en)
    (f : Ref) : (e.declareFunction r n f).AgesFrom m := by
  intro l later
  have bound : (do
      Run.changeBindings r (addBinding { name := n, value := some .undefined, deletable := true })
      Run.bindName r n (.object f) : Run Unit).AgesFrom m :=
    .of_ages (.bind (.changeBindings _ _) fun _ => .bindName _ _ _)
  have read : Run.scope r l = .value (l.scope r) l := rfl
  unfold declareFunction
  rw [Run.bind_apply, read, Result.follow_value]
  rcases may with ⟨bs, outer, names⟩ | free
  · obtain ⟨bs', names'⟩ := later.names names
    rw [names']
    exact bound l later
  · cases l.scope r with
    | names => exact bound l later
    | _ => exact agesFrom_declareGlobalFunction free f l later

/-! ## Operators -/

theorem ages_addValues (a b : Value) : (e.addValues a b).Ages := by
  unfold addValues
  split
  · exact .pure _
  · exact .pure _
  · refine .bind (ages_toPrimitive he _ _) fun p => .bind (ages_toPrimitive he _ _) fun q => ?_
    split <;> exact .pure _

theorem ages_looseEq (a b : Value) : (e.looseEq a b).Ages := by
  unfold looseEq
  split
  all_goals first
    | exact .pure _
    | exact .bind (ages_toPrimitive he _ _) fun _ => .pure _

theorem ages_compare (a b : Value) (test : Value → Value → Bool) : (e.compare a b test).Ages :=
  .bind (ages_toPrimitive he _ _) fun _ => .bind (ages_toPrimitive he _ _) fun _ => .pure _

theorem ages_isInstance (v f : Value) : (e.isInstance v f).Ages := by
  refine .bind (ages_isCallable f) fun callable => ?_
  extract_lets inherits
  have told : ∀ x, (inherits x).Ages := by
    intro x
    dsimp only [inherits]
    split
    · refine .bind (ages_get he _ _) fun p => ?_
      split
      · exact .look _
      · exact .typeError _
    · exact .pure _
  split
  · exact .bind (.typeError _) told
  · exact told ()

theorem ages_binary (op : BinaryOp) (a b : Value) : (e.binary op a b).Ages := by
  cases op with
  | add => exact ages_addValues he a b
  | less => exact ages_compare he a b _
  | greater => exact ages_compare he a b _
  | lessEq => exact ages_compare he a b _
  | greaterEq => exact ages_compare he a b _
  | eq => exact .bind (ages_looseEq he a b) fun _ => .pure _
  | notEq => exact .bind (ages_looseEq he a b) fun _ => .pure _
  | strictEq => exact .pure _
  | notStrictEq => exact .pure _
  | isInstance => exact .bind (ages_isInstance he a b) fun _ => .pure _
  | isIn =>
    cases b with
    | object r => exact .bind (ages_toKey he a) fun _ => .bind (ages_has _ _) fun _ => .pure _
    | _ => exact .typeError _
  | _ => exact .bind (ages_toNumber he a) fun _ => .bind (ages_toNumber he b) fun _ => .pure _

theorem ages_unary (op : UnaryOp) (v : Value) : (e.unary op v).Ages := by
  cases op with
  | not => exact .pure _
  | void => exact .pure _
  | _ => exact .bind (ages_toNumber he v) fun _ => .pure _

omit he in
theorem ages_typeName (v : Value) : (typeName v).Ages := by
  cases v with
  | object r => exact .bind (ages_isCallable _) fun _ => .pure _
  | _ => exact .pure _

end Engine

end ScriptHost.Script
