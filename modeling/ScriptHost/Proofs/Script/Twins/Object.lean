/-
Objects and names on twins: reading and writing properties, converting values, and finding, assigning and
declaring names come to the same on twins. Each proof follows its definition.
-/
import ScriptHost.Proofs.Script.Ages.Object
import ScriptHost.Proofs.Script.Twins.Run

namespace ScriptHost.Script

open Engine (Description)

namespace Shift

variable {σ : Shift}

/-! ## Descriptions -/

variable (σ) in
def description (d : Description) : Description :=
  { d with
    value := d.value.map σ.value
    get := d.get.map (Option.map σ.ref)
    set := d.set.map (Option.map σ.ref) }

@[simp] theorem isAccessor_description (d : Description) : (σ.description d).isAccessor = d.isAccessor := by
  simp [Description.isAccessor, description]

@[simp] theorem isData_description (d : Description) : (σ.description d).isData = d.isData := by
  simp [Description.isData, description]

theorem fresh_description (d : Description) : (σ.description d).fresh = σ.slot d.fresh := by
  unfold Description.fresh
  rw [isAccessor_description]
  obtain ⟨value, _, get, set, _, _⟩ := d
  split
  · rcases get with _ | _ <;> rcases set with _ | _ <;> rfl
  · rcases value with _ | _ <;> rfl

/-- Two references that may be missing are shifted to the same only if they are. -/
theorem map_ref_beq (r q : Option Ref) : (r.map σ.ref == q.map σ.ref) = (r == q) := by
  rcases r with _ | r <;> rcases q with _ | q <;> first | rfl | exact ref_beq r q

theorem keeps_description (d : Description) (s : Slot) : (σ.description d).keeps (σ.slot s) = d.keeps s := by
  obtain ⟨value, _, get, set, _, _⟩ := d
  rcases s with ⟨v, _, _, _⟩ | ⟨g, s, _, _⟩
  · rcases value with _ | w
    · simp [Description.keeps, slot, description, Description.isAccessor]
    · simp [Description.keeps, slot, description, Description.isAccessor]
  · rcases get with _ | g' <;> rcases set with _ | s' <;>
      simp [Description.keeps, slot, description, Description.isData, map_ref_beq]

theorem appliedTo_description (d : Description) (s : Slot) :
    (σ.description d).appliedTo (σ.slot s) = σ.slot (d.appliedTo s) := by
  have accessor := isAccessor_description (σ := σ) d
  have data := isData_description (σ := σ) d
  rcases s with ⟨v, w, en, c⟩ | ⟨g, s, en, c⟩
  · simp only [Description.appliedTo, slot, accessor]
    obtain ⟨value, _, get, set, _, _⟩ := d
    split
    · rcases get with _ | _ <;> rcases set with _ | _ <;> rfl
    · rcases value with _ | _ <;> rfl
  · simp only [Description.appliedTo, slot, data]
    obtain ⟨value, _, get, set, _, _⟩ := d
    split
    · rcases value with _ | _ <;> rfl
    · rcases get with _ | _ <;> rcases set with _ | _ <;> rfl

theorem length?_description (d : Description) : (σ.description d).length? = d.length? := by
  obtain ⟨value, _, _, _, _, _⟩ := d
  rcases value with _ | _ | _ | _ | _ | _ | _ <;> rfl

/-! ## Holders -/

variable (σ) in
def holder : Holder → Holder
  | .binding s b => .binding (σ.scopeRef s) (σ.binding b)
  | .property r => .property (σ.ref r)
  | .nowhere => .nowhere

end Shift

namespace Engine

variable {σ : Shift} {α β : Type} {f : α → β}

/-! ## Properties -/

theorem twins_isCallable (v : Value) : Run.Twins σ id (isCallable v) (isCallable (σ.value v)) := by
  cases v with
  | object r => exact .bind (.object r) fun o => .pure (by simp)
  | _ => exact .pure rfl

theorem fixedBy_obj (c : Description) (o : Obj) : (σ.obj o).fixedBy (σ.description c) = σ.obj (o.fixedBy c) := by
  obtain ⟨kind, _, _, _⟩ := o
  cases kind <;> rfl

theorem twins_defineLength (r : Ref) (c : Description) :
    Run.Twins σ id (defineLength r c) (defineLength (σ.ref r) (σ.description c)) := by
  refine .bind (.object r) fun o => ?_
  dsimp only
  -- what is put in place is shifted as a whole
  have store : ∀ (p : Obj) (all : Bool), Run.Twins σ id
      (Run.update r (fun _ => p.fixedBy c) >>= fun _ =>
        if !all then Run.typeError "not configurable" else pure ())
      (Run.update (σ.ref r) (fun _ => (σ.obj p).fixedBy (σ.description c)) >>= fun _ =>
        if !all then Run.typeError "not configurable" else pure ()) := by
    intro p all
    rw [fixedBy_obj]
    exact .bind_same (.store r _) fun _ => .ite Iff.rfl (.typeError _) (.pure rfl)
  have kept : ∀ (n : Nat) (fixed : Bool),
    (σ.description c).keeps (.data (.number (Float.ofNat n)) (!fixed) false false) =
      c.keeps (.data (.number (Float.ofNat n)) (!fixed) false false) := fun n fixed =>
    Shift.keeps_description c (.data (.number (Float.ofNat n)) (!fixed) false false)
  rw [Shift.length?_description]
  refine .ite (Iff.of_eq (congrArg (fun b => (!b) = true) ?_)) (.typeError _) ?_
  · obtain ⟨kind, _, _, _⟩ := o
    cases kind <;> exact kept _ _
  have value : (σ.description c).value = c.value.map σ.value := rfl
  rw [value]
  rcases c.value with _ | v <;> rcases c.length? with _ | l
  · exact store o true
  · exact store o true
  · exact .bind (f := fun x : Obj × Bool => (σ.obj x.1, x.2)) (.rangeError _) fun x => store x.1 x.2
  · refine .bind (f := fun x : Obj × Bool => (σ.obj x.1, x.2)) (.pure (Shift.truncate_obj l o)) fun x => store x.1 x.2

variable {e d : Engine}

section Looks

variable (he : Binds σ e d)
include he

theorem twins_own? (r : Ref) (k : Key) : Run.Twins σ (Option.map σ.slot) (Run.look fun m => e.own? m r k)
    (Run.look fun m => d.own? m (σ.ref r) k) := .look fun t => he.own? t r k

theorem twins_find? (r : Ref) (k : Key) : Run.Twins σ (Option.map (Prod.map σ.ref σ.slot))
    (Run.look fun m => e.find? m r k) (Run.look fun m => d.find? m (σ.ref r) k) := .look fun t => he.find? t r k

theorem twins_define (r : Ref) (k : Key) (c : Description) :
    Run.Twins σ id (e.define r k c) (d.define (σ.ref r) k (σ.description c)) := by
  refine .bind (.object r) fun o => ?_
  extract_lets slot slot'
  have placed : ∀ x, Run.Twins σ id (slot x) (slot' x) := by
    refine fun _ => .bind (twins_own? he r k) fun found => ?_
    rcases found with _ | s
    · refine .ite Iff.rfl ?_ (.typeError _)
      rw [Shift.fresh_description]
      exact .place r k _
    · dsimp only [Option.map_some]
      rw [Shift.keeps_description, Shift.configurable_slot, Shift.appliedTo_description]
      exact .ite Iff.rfl (.place r k _) (.typeError _)
  obtain ⟨kind, parent, slots, extensible⟩ := o
  cases kind with
  | array n fixed =>
    dsimp only [Shift.obj, Shift.kind]
    refine .ite Iff.rfl (twins_defineLength r c) ?_
    cases k with
    | index i => exact .ite Iff.rfl (.bind_same (.typeError _) placed) (placed ⟨⟩)
    | name s => exact placed ⟨⟩
  | _ => exact placed ⟨⟩

theorem twins_remove (r : Ref) (k : Key) : Run.Twins σ id (e.remove r k) (d.remove (σ.ref r) k) := by
  refine .bind (twins_own? he r k) fun found => ?_
  rcases found with _ | s
  · exact .pure rfl
  · refine .ite (by rw [Shift.configurable_slot]) ?_ (.pure rfl)
    exact .bind_same (.update (fun o => (Shift.remove_obj k o).symm) r) fun _ => .pure rfl

theorem twins_has (r : Ref) (k : Key) : Run.Twins σ id (e.has r k) (d.has (σ.ref r) k) :=
  .look fun t => by rw [he.find? t, Option.isSome_map]; rfl

end Looks

theorem twins_toObject (v : Value) : Run.Twins σ σ.ref (toObject v) (toObject (σ.value v)) := by
  cases v with
  | object r => exact .pure rfl
  | undefined => exact .typeError _
  | null => exact .typeError _
  | _ => exact .alloc _

theorem twins_refuse (strict : Bool) (message : Text) :
    Run.Twins σ id (refuse strict message) (refuse strict message) := .ite Iff.rfl (.typeError _) (.pure rfl)

theorem twins_addSlot (r : Ref) (k : Key) (v : Value) (strict : Bool) :
    Run.Twins σ id (addSlot r k v strict) (addSlot (σ.ref r) k (σ.value v) strict) := by
  have placed : Run.Twins σ id (Run.update r (Obj.place k (.plain v)))
      (Run.update (σ.ref r) (Obj.place k (.plain (σ.value v)))) := .place r k (.plain v)
  refine .bind (.object r) fun o => .ite Iff.rfl (twins_refuse _ _) ?_
  obtain ⟨kind, parent, slots, extensible⟩ := o
  cases kind with
  | array n fixed =>
    cases k with
    | index i =>
      cases fixed with
      | true => exact .ite Iff.rfl (twins_refuse _ _) placed
      | false => exact placed
    | name s => cases fixed <;> exact placed
  | _ => exact placed

section

variable (he : Twins σ e d)
include he

theorem twins_getFrom (start : Ref) (k : Key) (receiver : Value) : Run.Twins σ σ.value
    (e.getFrom start k receiver) (d.getFrom (σ.ref start) k (σ.value receiver)) := by
  refine .bind (twins_find? he.toBinds start k) fun found => ?_
  rcases found with _ | ⟨_, ⟨v, _, _, _⟩ | ⟨_ | g, _, _, _⟩⟩
  · exact .pure rfl
  · exact .pure rfl
  · exact .pure rfl
  · exact he.call (.object g) receiver []

theorem twins_get (v : Value) (k : Key) : Run.Twins σ σ.value (e.get v k) (d.get (σ.value v) k) := by
  cases v with
  | object r => exact twins_getFrom he r k _
  | string s =>
    simp only [get, Shift.value]
    rcases named : Obj.stringSlot? s k with _ | ⟨x, _, _, _⟩ | _
    · exact twins_getFrom he .stringParent k (.string s)
    · have primitive : σ.value x = x := by
        cases k with
        | index n =>
          obtain ⟨u, _, e⟩ := Option.map_eq_some_iff.mp named
          cases e
          rfl
        | name t =>
          simp only [Obj.stringSlot?] at named
          split at named
          · cases named
            rfl
          · cases named
      exact .pure primitive.symm
    · exact twins_getFrom he .stringParent k (.string s)
  | number x => exact twins_getFrom he .numberParent k (.number x)
  | bool b => exact twins_getFrom he .booleanParent k (.bool b)
  | undefined => exact .typeError _
  | null => exact .typeError _

/-! ## Conversions -/

theorem twins_askFor (v : Value) : ∀ ks, Run.Twins σ σ.value (e.askFor v ks) (d.askFor (σ.value v) ks)
  | [] => .typeError _
  | k :: rest => by
    refine .bind (twins_get he v k) fun f => .bind_same (twins_isCallable f) fun callable => ?_
    dsimp only
    refine .ite Iff.rfl (.bind (he.call f v []) fun p => ?_) (twins_askFor v rest)
    exact .ite (by simp) (.pure rfl) (twins_askFor v rest)

theorem twins_toPrimitive (hint : Hint) (v : Value) :
    Run.Twins σ σ.value (e.toPrimitive hint v) (d.toPrimitive hint (σ.value v)) := by
  cases v with
  | object r =>
    cases hint with
    | any => exact .bind_same (.look fun t => likes_twin t r) fun _ => twins_askFor he (.object r) _
    | _ => exact twins_askFor he (.object r) _
  | _ => exact .pure rfl

theorem twins_toUnits (v : Value) : Run.Twins σ id (e.toUnits v) (d.toUnits (σ.value v)) := by
  cases v with
  | object r => exact .bind (twins_toPrimitive he _ (.object r)) fun _ => .pure (by simp)
  | _ => exact .pure rfl

theorem twins_toNumber (v : Value) : Run.Twins σ id (e.toNumber v) (d.toNumber (σ.value v)) := by
  cases v with
  | object r => exact .bind (twins_toPrimitive he _ (.object r)) fun _ => .pure (by simp)
  | _ => exact .pure rfl

theorem twins_toKey (v : Value) : Run.Twins σ id (e.toKey v) (d.toKey (σ.value v)) := by
  cases v with
  | string s => exact .pure rfl
  | number x =>
    simp only [toKey, Shift.value]
    split <;> exact .pure rfl
  | object r => exact .bind_same (twins_toUnits he (.object r)) fun _ => .pure rfl
  | bool b => exact .bind_same (twins_toUnits he (.bool b)) fun _ => .pure rfl
  | undefined => exact .bind_same (twins_toUnits he .undefined) fun _ => .pure rfl
  | null => exact .bind_same (twins_toUnits he .null) fun _ => .pure rfl

theorem twins_toLength (v : Value) : Run.Twins σ id (e.toLength v) (d.toLength (σ.value v)) :=
  .bind_same (twins_toNumber he v) fun _ => .pure rfl

/-! ## Assigning to properties -/

theorem twins_putLength (r : Ref) (v : Value) (strict : Bool) :
    Run.Twins σ id (e.putLength r v strict) (d.putLength (σ.ref r) (σ.value v) strict) := by
  refine .bind_same (twins_toNumber he v) fun x => ?_
  cases Number.toNat32? x with
  | none => exact .rangeError _
  | some n =>
    refine .bind (.object r) fun o => ?_
    rw [Shift.truncate_obj]
    exact .bind_same (.store r _) fun _ => .ite Iff.rfl (twins_refuse _ _) (.pure rfl)

theorem twins_callSetter (setter : Option Ref) (this v : Value) (strict : Bool) : Run.Twins σ id
    (e.callSetter setter this v strict) (d.callSetter (setter.map σ.ref) (σ.value this) (σ.value v) strict) := by
  cases setter with
  | none => exact twins_refuse _ _
  | some s => exact .discard (he.call (.object s) this [v])

theorem twins_putObject (r : Ref) (k : Key) (v : Value) (strict : Bool) : Run.Twins σ id
    (e.putObject r k v strict) (d.putObject (σ.ref r) k (σ.value v) strict) := by
  refine .bind (twins_own? he.toBinds r k) fun found => ?_
  rcases found with _ | ⟨w, _ | _, en, co⟩ | ⟨g, s, _, _⟩
  · refine .bind (twins_find? he.toBinds r k) fun further => ?_
    rcases further with _ | ⟨_, ⟨_, _ | _, _, _⟩ | ⟨_, s, _, _⟩⟩
    · exact twins_addSlot r k v strict
    · exact twins_refuse _ _
    · exact twins_addSlot r k v strict
    · exact twins_callSetter he s (.object r) v strict
  · exact twins_refuse _ _
  · have put : Run.Twins σ id (Run.update r (Obj.put k (.data v true en co)))
        (Run.update (σ.ref r) (Obj.put k (.data (σ.value v) true en co))) := .put r k (.data v true en co)
    refine .bind (.object r) fun o => ?_
    obtain ⟨kind, parent, slots, extensible⟩ := o
    cases kind with
    | array n fixed => exact .ite Iff.rfl (twins_putLength he r v strict) put
    | _ => exact put
  · exact twins_callSetter he s (.object r) v strict

omit he in
theorem parentOf_value (v : Value) : parentOf (σ.value v) = parentOf v := by
  cases v <;> rfl

omit he in
theorem ref_parentOf (v : Value) : σ.ref (parentOf v) = parentOf v := by
  cases v <;> rfl

theorem twins_putPrimitive (target : Value) (k : Key) (v : Value) (strict : Bool) : Run.Twins σ id
    (e.putPrimitive target k v strict) (d.putPrimitive (σ.value target) k (σ.value v) strict) := by
  have looked := twins_find? he.toBinds (parentOf target) k
  rw [ref_parentOf] at looked
  unfold putPrimitive
  rw [parentOf_value]
  refine .bind looked fun found => ?_
  rcases found with _ | ⟨_, ⟨_, _, _, _⟩ | ⟨_, _ | s, _, _⟩⟩
  · exact twins_refuse _ _
  · exact twins_refuse _ _
  · exact twins_refuse _ _
  · exact .discard (he.call (.object s) target [v])

theorem twins_put (target : Value) (k : Key) (v : Value) (strict : Bool) : Run.Twins σ id
    (e.put target k v strict) (d.put (σ.value target) k (σ.value v) strict) := by
  cases target with
  | object r => exact twins_putObject he r k v strict
  | undefined => exact .typeError _
  | null => exact .typeError _
  | bool b => exact twins_putPrimitive he (.bool b) k v strict
  | number x => exact twins_putPrimitive he (.number x) k v strict
  | string s => exact twins_putPrimitive he (.string s) k v strict

/-! ## Names -/

omit he in
theorem twins_holder (he : Binds σ e d) (r : ScopeRef) (n : Utf16) :
    Run.Twins σ σ.holder (e.holder r n) (d.holder (σ.scopeRef r) n) := .look fun t => by
  rw [he.holder t]
  generalize e.holderUpTo _ n _ _ r = h
  cases h <;> rfl

omit he in
theorem twins_notInitialized (n : Utf16) : Run.Twins σ f (notInitialized n) (notInitialized n) := .throwNew _ _

omit he in
theorem twins_notDefined (n : Utf16) : Run.Twins σ f (notDefined n) (notDefined n) := .throwNew _ _

theorem twins_readHolder (n : Utf16) (h : Holder) :
    Run.Twins σ σ.value (e.readHolder n h) (d.readHolder n (σ.holder h)) := by
  cases h with
  | binding r b =>
    obtain ⟨_, _ | v, _, _⟩ := b
    · exact twins_notInitialized n
    · exact .pure rfl
  | property r => exact twins_get he (.object r) _
  | nowhere => exact twins_notDefined n

theorem twins_readName (r : ScopeRef) (n : Utf16) :
    Run.Twins σ σ.value (e.readName r n) (d.readName (σ.scopeRef r) n) :=
  .bind (twins_holder he.toBinds r n) fun h => twins_readHolder he n h

theorem twins_writeHolder (n : Utf16) (v : Value) (strict : Bool) (h : Holder) : Run.Twins σ id
    (e.writeHolder n v strict h) (d.writeHolder n (σ.value v) strict (σ.holder h)) := by
  cases h with
  | binding r b =>
    obtain ⟨_, _ | w, rule, _⟩ := b
    · exact twins_notInitialized n
    · cases rule with
      | changeable => exact .bindName r n v
      | fixed => exact .typeError _
      | quiet => exact twins_refuse _ _
  | property r => exact twins_putObject he r _ v strict
  | nowhere => exact .ite Iff.rfl (twins_notDefined n) (twins_putObject he .global _ v false)

theorem twins_writeName (r : ScopeRef) (n : Utf16) (v : Value) (strict : Bool) : Run.Twins σ id
    (e.writeName r n v strict) (d.writeName (σ.scopeRef r) n (σ.value v) strict) :=
  .bind (twins_holder he.toBinds r n) fun h => twins_writeHolder he n v strict h

omit he in
theorem twins_deleteName (he : Binds σ e d) (r : ScopeRef) (n : Utf16) :
    Run.Twins σ id (e.deleteName r n) (d.deleteName (σ.scopeRef r) n) := by
  refine .bind (twins_holder he r n) fun h => ?_
  cases h with
  | nowhere => exact .pure rfl
  | property o => exact twins_remove he o _
  | binding s b =>
    refine .ite Iff.rfl (.bind_same (.changeBindings (fun bs => ?_) s) fun _ => .pure rfl) (.pure rfl)
    rw [List.filter_map]
    rfl

end

/-! ## Declaring -/

section Declaring

variable (hb : Binds σ e d)
include hb

theorem twins_mayDeclare (n : Utf16) : Run.Twins σ id (e.mayDeclare n) (d.mayDeclare n) := by
  refine .bind (twins_own? hb .global _) fun found => ?_
  rcases found with _ | ⟨_, _ | _, _ | _, _⟩ | ⟨_, _, _, _⟩ <;> exact .pure rfl

theorem twins_checkGlobals (names : List Utf16) : Run.Twins σ id (e.checkGlobals names) (d.checkGlobals names) :=
  .forM (fun n => .bind_same (twins_mayDeclare hb n) fun _ => .ite Iff.rfl (.typeError _) (.pure rfl)) names

theorem twins_declareGlobalFunction (n : Utf16) (f : Ref) :
    Run.Twins σ id (e.declareGlobalFunction n f) (d.declareGlobalFunction n (σ.ref f)) := by
  refine .bind (twins_own? hb .global _) fun found => ?_
  rcases found with _ | ⟨v, w, en, _ | _⟩ | ⟨_, _, _, _⟩
  · exact .put .global _ (.plain (.object f))
  · exact .put .global _ (.data (.object f) w en false)
  · exact .put .global _ (.plain (.object f))
  · exact .put .global _ (.plain (.object f))

theorem twins_declareGlobalVar (n : Utf16) : Run.Twins σ id (e.declareGlobalVar n) (d.declareGlobalVar n) := by
  have missing : Run.Twins σ id (Run.look fun m => (e.own? m .global (.ofUnits n)).isNone)
      (Run.look fun m => (d.own? m .global (.ofUnits n)).isNone) := .look fun t => by
    have same := hb.own? t .global (.ofUnits n)
    rw [show σ.ref .global = .global from rfl] at same
    rw [same, Option.isNone_map]
    rfl
  exact .bind_same missing fun _ => .ite Iff.rfl (.put .global _ (.plain .undefined)) (.pure rfl)

theorem twins_declareVar (r : ScopeRef) (n : Utf16) :
    Run.Twins σ id (e.declareVar r n) (d.declareVar (σ.scopeRef r) n) := by
  refine .bind (.scope r) fun s => ?_
  cases s with
  | names => exact .addBinding r { name := n, value := some .undefined, deletable := true }
  | _ => exact twins_declareGlobalVar hb n

theorem twins_declareFunction (r : ScopeRef) (n : Utf16) (f : Ref) :
    Run.Twins σ id (e.declareFunction r n f) (d.declareFunction (σ.scopeRef r) n (σ.ref f)) := by
  refine .bind (.scope r) fun s => ?_
  cases s with
  | names =>
    exact .bind_same (.addBinding r { name := n, value := some .undefined, deletable := true }) fun _ =>
      .bindName r n (.object f)
  | _ => exact twins_declareGlobalFunction hb n f

end Declaring

/-! ## Operators -/

/-- What addition makes of two primitive values. -/
def addPrimitives (p q : Value) : Run Value :=
  match p, q with
  | .string s, _ => return .string (s ++ q.primitiveUnits)
  | _, .string t => return .string (p.primitiveUnits ++ t)
  | _, _ => return .number (p.primitiveNumber + q.primitiveNumber)

theorem twins_addPrimitives (p q : Value) :
    Run.Twins σ σ.value (addPrimitives p q) (addPrimitives (σ.value p) (σ.value q)) := by
  cases p <;> cases q <;> exact .pure rfl

section

variable (he : Twins σ e d)
include he

theorem twins_addValues (a b : Value) :
    Run.Twins σ σ.value (e.addValues a b) (d.addValues (σ.value a) (σ.value b)) := by
  have general : Run.Twins σ σ.value
      (do
        let p ← e.toPrimitive .any a
        let q ← e.toPrimitive .any b
        addPrimitives p q)
      (do
        let p ← d.toPrimitive .any (σ.value a)
        let q ← d.toPrimitive .any (σ.value b)
        addPrimitives p q) :=
    .bind (twins_toPrimitive he _ a) fun p => .bind (twins_toPrimitive he _ b) fun q => twins_addPrimitives p q
  cases a <;> cases b <;> exact general

theorem twins_looseEq (a b : Value) : Run.Twins σ id (e.looseEq a b) (d.looseEq (σ.value a) (σ.value b)) := by
  have primitive : ∀ p q : Value, looseEq.primitiveEq (σ.value p) (σ.value q) = looseEq.primitiveEq p q := by
    intro p q
    cases p <;> cases q <;> rfl
  cases a with
  | object r =>
    cases b with
    | object q => exact .pure (Shift.ref_beq r q)
    | undefined => exact .pure rfl
    | null => exact .pure rfl
    | bool b => exact .bind (twins_toPrimitive he _ (.object r)) fun p => .pure (primitive p (.bool b))
    | number x => exact .bind (twins_toPrimitive he _ (.object r)) fun p => .pure (primitive p (.number x))
    | string s => exact .bind (twins_toPrimitive he _ (.object r)) fun p => .pure (primitive p (.string s))
  | undefined => cases b <;> exact .pure rfl
  | null => cases b <;> exact .pure rfl
  | bool b' =>
    cases b with
    | object q => exact .bind (twins_toPrimitive he _ (.object q)) fun p => .pure (primitive (.bool b') p)
    | _ => exact .pure rfl
  | number x =>
    cases b with
    | object q => exact .bind (twins_toPrimitive he _ (.object q)) fun p => .pure (primitive (.number x) p)
    | _ => exact .pure rfl
  | string s =>
    cases b with
    | object q => exact .bind (twins_toPrimitive he _ (.object q)) fun p => .pure (primitive (.string s) p)
    | _ => exact .pure rfl

theorem twins_compare (a b : Value) {test : Value → Value → Bool}
    (same : ∀ p q, test (σ.value p) (σ.value q) = test p q) :
    Run.Twins σ σ.value (e.compare a b test) (d.compare (σ.value a) (σ.value b) test) :=
  .bind (twins_toPrimitive he _ a) fun p => .bind (twins_toPrimitive he _ b) fun q =>
    .pure (congrArg Value.bool (same p q))

theorem twins_isInstance (v f : Value) : Run.Twins σ id (e.isInstance v f) (d.isInstance (σ.value v) (σ.value f)) := by
  refine .bind_same (twins_isCallable f) fun callable => ?_
  extract_lets inherits inherits'
  have told : ∀ x, Run.Twins σ id (inherits x) (inherits' x) := by
    intro x
    cases v with
    | object r =>
      refine .bind (twins_get he f _) fun p => ?_
      cases p with
      | object q => exact .look fun t => isAncestor_twin t q r
      | _ => exact .typeError _
    | _ => exact .pure rfl
  exact .ite Iff.rfl (.bind_same (.typeError _) told) (told ⟨⟩)

theorem twins_binary (op : BinaryOp) (a b : Value) :
    Run.Twins σ σ.value (e.binary op a b) (d.binary op (σ.value a) (σ.value b)) := by
  have numbers : Run.Twins σ σ.value
      (do
        let x ← e.toNumber a
        let y ← e.toNumber b
        return .number (op.onNumbers x y))
      (do
        let x ← d.toNumber (σ.value a)
        let y ← d.toNumber (σ.value b)
        return .number (op.onNumbers x y)) :=
    .bind_same (twins_toNumber he a) fun _ => .bind_same (twins_toNumber he b) fun _ => .pure rfl
  cases op with
  | add => exact twins_addValues he a b
  | less => exact twins_compare he a b fun p q => by rw [Shift.less?_value]
  | greater => exact twins_compare he a b fun p q => by rw [Shift.less?_value]
  | lessEq => exact twins_compare he a b fun p q => by rw [Shift.less?_value]
  | greaterEq => exact twins_compare he a b fun p q => by rw [Shift.less?_value]
  | eq => exact .bind_same (twins_looseEq he a b) fun _ => .pure rfl
  | notEq => exact .bind_same (twins_looseEq he a b) fun _ => .pure rfl
  | strictEq => exact .pure (congrArg Value.bool (Shift.strictEq_value a b))
  | notStrictEq => exact .pure (congrArg (fun b => Value.bool !b) (Shift.strictEq_value a b))
  | isInstance => exact .bind_same (twins_isInstance he a b) fun _ => .pure rfl
  | isIn =>
    cases b with
    | object r =>
      exact .bind_same (twins_toKey he a) fun k => .bind_same (twins_has he.toBinds r k) fun _ => .pure rfl
    | _ => exact .typeError _
  | _ => exact numbers

theorem twins_unary (op : UnaryOp) (v : Value) : Run.Twins σ σ.value (e.unary op v) (d.unary op (σ.value v)) := by
  cases op with
  | not => exact .pure (congrArg (fun b => Value.bool !b) (Shift.truthy_value v))
  | void => exact .pure rfl
  | _ => exact .bind_same (twins_toNumber he v) fun _ => .pure rfl

omit he in
theorem twins_typeName (v : Value) : Run.Twins σ id (typeName v) (typeName (σ.value v)) := by
  cases v with
  | object r => exact .bind_same (twins_isCallable (.object r)) fun _ => .pure rfl
  | _ => exact .pure rfl

end

end Engine

end ScriptHost.Script
