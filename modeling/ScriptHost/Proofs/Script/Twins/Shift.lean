/-
Machines that differ by objects and scopes that nothing leads to. Such a machine holds what another one holds,
but what came after the others is found further up. A shift says from where on and by how much, and takes what
refers to objects and scopes of the one machine to what refers to those of its twin. Whatever looks at objects
finds the same on both, up to the shift.
-/
import ScriptHost.Proofs.Script.Later

namespace ScriptHost.Script

/-- From where on objects and scopes are found further up, and by how much. -/
structure Shift where
  objects : Nat
  moreObjects : Nat
  scopes : Nat
  moreScopes : Nat

namespace Shift

variable (σ : Shift)

/-! ## What is shifted -/

/-- The objects that every machine has stay where they are. -/
def ref (r : Ref) : Ref :=
  bif r.index.blt 17 || r.index.blt σ.objects then r else ⟨r.index + σ.moreObjects⟩

def scopeRef (r : ScopeRef) : ScopeRef :=
  bif r.index.blt 1 || r.index.blt σ.scopes then r else ⟨r.index + σ.moreScopes⟩

def value : Value → Value
  | .undefined => .undefined
  | .null => .null
  | .bool b => .bool b
  | .number x => .number x
  | .string s => .string s
  | .object r => .object (σ.ref r)

def slot : Slot → Slot
  | .data v writable enumerable configurable => .data (σ.value v) writable enumerable configurable
  | .accessor get set enumerable configurable => .accessor (get.map σ.ref) (set.map σ.ref) enumerable configurable

def entry (e : Key × Slot) : Key × Slot := (e.1, σ.slot e.2)

def reaction (x : Reaction) : Reaction where
  onValue := x.onValue.map σ.value
  onError := x.onError.map σ.value
  outcome := σ.ref x.outcome

def promiseState : PromiseState → PromiseState
  | .pending reactions => .pending (reactions.map σ.reaction)
  | .fulfilled v => .fulfilled (σ.value v)
  | .rejected v => .rejected (σ.value v)

def kind : Kind → Kind
  | .plain => .plain
  | .array n fixed => .array n fixed
  | .closure code scope => .closure code (σ.scopeRef scope)
  | .native f => .native f
  | .host name => .host name
  | .settler promise rejects latch => .settler (σ.ref promise) rejects (σ.ref latch)
  | .latch used => .latch used
  | .boxed v => .boxed (σ.value v)
  | .error => .error
  | .arguments => .arguments
  | .library name => .library name
  | .promise state => .promise (σ.promiseState state)
  | .date time => .date time

def obj (o : Obj) : Obj where
  kind := σ.kind o.kind
  parent := o.parent.map σ.ref
  slots := o.slots.map σ.entry
  extensible := o.extensible

def binding (b : Binding) : Binding := { b with value := b.value.map σ.value }

def scope : Scope → Scope
  | .names bs outer => .names (bs.map σ.binding) (σ.scopeRef outer)
  | .object r outer => .object (σ.ref r) (σ.scopeRef outer)
  | .global => .global

def job : Job → Job
  | .react reaction rejected v => .react (σ.reaction reaction) rejected (σ.value v)
  | .adopt promise source f => .adopt (σ.ref promise) (σ.value source) (σ.value f)

def frame (f : Frame) : Frame :=
  { f with scope := σ.scopeRef f.scope, vars := σ.scopeRef f.vars, this := σ.value f.this }

def completion : Completion → Completion
  | .normal => .normal
  | .break label => .break label
  | .continue label => .continue label
  | .return v => .return (σ.value v)

def rule (r : JsonRule) : JsonRule := { r with replacer := r.replacer.map σ.value }

/-! ## References -/

variable {σ}

/-- What was there before the shift stays where it is, -/
theorem ref_kept {r : Ref} (h : r.index < σ.objects) : σ.ref r = r := by
  simp [ref, cond_eq_ite, Nat.blt_eq, h]

/-- and what came later is further on. -/
theorem ref_further {r : Ref} (builtin : 17 ≤ r.index) (h : σ.objects ≤ r.index) :
    σ.ref r = ⟨r.index + σ.moreObjects⟩ := by
  simp [ref, cond_eq_ite, Nat.blt_eq, Nat.not_lt.mpr builtin, Nat.not_lt.mpr h]

theorem scopeRef_further {r : ScopeRef} (outermost : 1 ≤ r.index) (h : σ.scopes ≤ r.index) :
    σ.scopeRef r = ⟨r.index + σ.moreScopes⟩ := by
  simp [scopeRef, cond_eq_ite, Nat.blt_eq, Nat.not_lt.mpr outermost, Nat.not_lt.mpr h]

/-- Every reference is either where it was or moved up. -/
theorem ref_cases (r : Ref) :
    (r.index < 17 ∨ r.index < σ.objects) ∧ σ.ref r = r ∨
      (17 ≤ r.index ∧ σ.objects ≤ r.index) ∧ σ.ref r = ⟨r.index + σ.moreObjects⟩ := by
  by_cases h : r.index < 17 ∨ r.index < σ.objects
  · refine .inl ⟨h, ?_⟩
    simp [ref, cond_eq_ite, Nat.blt_eq, h]
  · obtain ⟨builtin, low⟩ := not_or.mp h
    exact .inr ⟨⟨Nat.le_of_not_lt builtin, Nat.le_of_not_lt low⟩,
      ref_further (Nat.le_of_not_lt builtin) (Nat.le_of_not_lt low)⟩

theorem scopeRef_cases (r : ScopeRef) :
    (r.index < 1 ∨ r.index < σ.scopes) ∧ σ.scopeRef r = r ∨
      (1 ≤ r.index ∧ σ.scopes ≤ r.index) ∧ σ.scopeRef r = ⟨r.index + σ.moreScopes⟩ := by
  by_cases h : r.index < 1 ∨ r.index < σ.scopes
  · refine .inl ⟨h, ?_⟩
    simp only [scopeRef, cond_eq_ite, Bool.or_eq_true, Nat.blt_eq, h, if_true]
  · obtain ⟨outermost, low⟩ := not_or.mp h
    exact .inr ⟨⟨Nat.le_of_not_lt outermost, Nat.le_of_not_lt low⟩,
      scopeRef_further (Nat.le_of_not_lt outermost) (Nat.le_of_not_lt low)⟩

/-- Different objects stay different, -/
theorem ref_injective : Function.Injective σ.ref := by
  intro r q same
  obtain ⟨r⟩ := r
  obtain ⟨q⟩ := q
  rcases ref_cases (σ := σ) ⟨r⟩ with ⟨here, e⟩ | ⟨here, e⟩ <;>
    rcases ref_cases (σ := σ) ⟨q⟩ with ⟨there, e'⟩ | ⟨there, e'⟩ <;>
    rw [e, e', Ref.mk.injEq] at same <;> simp only at here there same <;> congr 1 <;> omega

/-- and different scopes. -/
theorem scopeRef_injective : Function.Injective σ.scopeRef := by
  intro r q same
  obtain ⟨r⟩ := r
  obtain ⟨q⟩ := q
  rcases scopeRef_cases (σ := σ) ⟨r⟩ with ⟨here, e⟩ | ⟨here, e⟩ <;>
    rcases scopeRef_cases (σ := σ) ⟨q⟩ with ⟨there, e'⟩ | ⟨there, e'⟩ <;>
    rw [e, e', ScopeRef.mk.injEq] at same <;> simp only at here there same <;> congr 1 <;> omega

@[simp] theorem ref_eq {r q : Ref} : σ.ref r = σ.ref q ↔ r = q := ref_injective.eq_iff

@[simp] theorem scopeRef_eq {r q : ScopeRef} : σ.scopeRef r = σ.scopeRef q ↔ r = q := scopeRef_injective.eq_iff

theorem ref_beq (r q : Ref) : (σ.ref r == σ.ref q) = (r == q) := by
  rw [Bool.eq_iff_iff, beq_iff_eq, beq_iff_eq, ref_eq]

@[simp] theorem ref_global {r : Ref} : σ.ref r = .global ↔ r = .global :=
  ref_injective.eq_iff (b := Ref.global)

theorem ref_errorParent (k : ErrorKind) : σ.ref (.errorParent k) = .errorParent k := by
  cases k <;> rfl

/-! ## Values -/

@[simp] theorem ref?_value (v : Value) : (σ.value v).ref? = v.ref?.map σ.ref := by
  cases v <;> rfl

@[simp] theorem isNullish_value (v : Value) : (σ.value v).isNullish = v.isNullish := by
  cases v <;> rfl

@[simp] theorem isUndefined_value (v : Value) : (σ.value v).isUndefined = v.isUndefined := by
  cases v <;> rfl

/-- What a condition sees of a value is not shifted. -/
@[simp] theorem truthy_value (v : Value) : (σ.value v).truthy = v.truthy := by
  cases v <;> rfl

@[simp] theorem primitiveUnits_value (v : Value) : (σ.value v).primitiveUnits = v.primitiveUnits := by
  cases v <;> rfl

@[simp] theorem primitiveNumber_value (v : Value) : (σ.value v).primitiveNumber = v.primitiveNumber := by
  cases v <;> rfl

@[simp] theorem strictEq_value (v w : Value) : Value.strictEq (σ.value v) (σ.value w) = Value.strictEq v w := by
  cases v <;> cases w <;> first | rfl | exact ref_beq _ _

@[simp] theorem same_value (v w : Value) : Value.same (σ.value v) (σ.value w) = Value.same v w := by
  cases v <;> cases w <;> first | rfl | exact ref_beq _ _

@[simp] theorem less?_value (v w : Value) : (σ.value v).less? (σ.value w) = v.less? w := by
  cases v <;> cases w <;> rfl

theorem value_constant (c : Primitive) : σ.value c.value = c.value := by
  cases c <;> rfl

/-! ## Objects -/

@[simp] theorem enumerable_slot (s : Slot) : (σ.slot s).enumerable = s.enumerable := by
  cases s <;> rfl

@[simp] theorem configurable_slot (s : Slot) : (σ.slot s).configurable = s.configurable := by
  cases s <;> rfl

theorem slot?_slots (slots : List (Key × Slot)) (k : Key) :
    (slots.map σ.entry).find? (·.1 = k) = (slots.find? (·.1 = k)).map σ.entry := by
  rw [List.find?_map]
  rfl

@[simp] theorem slot?_obj (o : Obj) (k : Key) : (σ.obj o).slot? k = (o.slot? k).map σ.slot := by
  simp only [Obj.slot?, obj, slot?_slots]
  cases o.slots.find? (·.1 = k) <;> rfl

theorem replaceSlot_slots (k : Key) (s : Slot) : ∀ slots : List (Key × Slot),
    Obj.replaceSlot k (σ.slot s) (slots.map σ.entry) = (Obj.replaceSlot k s slots).map σ.entry
  | [] => rfl
  | e :: rest => by
    simp only [List.map_cons, Obj.replaceSlot]
    have key : (σ.entry e).1 = e.1 := rfl
    rw [key]
    split
    · rfl
    · rw [replaceSlot_slots k s rest, List.map_cons]

theorem put_obj (k : Key) (s : Slot) (o : Obj) : σ.obj (o.put k s) = (σ.obj o).put k (σ.slot s) := by
  have among : ((σ.obj o).slots.any (·.1 = k)) = o.slots.any (·.1 = k) := by
    simp only [obj, List.any_map]
    rfl
  unfold Obj.put
  rw [among]
  split
  · simp only [obj, replaceSlot_slots]
  · rfl

theorem remove_obj (k : Key) (o : Obj) : σ.obj (o.remove k) = (σ.obj o).remove k := by
  simp only [Obj.remove, obj, List.filter_map]
  rfl

@[simp] theorem isCallable_obj (o : Obj) : (σ.obj o).isCallable = o.isCallable := by
  obtain ⟨kind, _, _, _⟩ := o
  cases kind <;> rfl

/-- Folding over slots by their keys alone. -/
theorem foldl_slots {β : Type} {f : β → Key × Slot → β} (h : ∀ b e, f b (σ.entry e) = f b e)
    (slots : List (Key × Slot)) (b : β) : (slots.map σ.entry).foldl f b = slots.foldl f b := by
  rw [List.foldl_map]
  simp only [h]

@[simp] theorem keys_obj (o : Obj) : (σ.obj o).keys = o.keys := by
  simp only [Obj.keys, obj]
  rw [foldl_slots (fun _ _ => rfl), foldl_slots (fun _ _ => rfl)]

theorem own?_obj (o : Obj) (k : Key) : (σ.obj o).own? k = (o.own? k).map σ.slot := by
  have slot? := slot?_obj (σ := σ) o k
  obtain ⟨kind, parent, slots, extensible⟩ := o
  cases kind with
  | array n fixed =>
    simp only [Obj.own?, obj, Shift.kind]
    split
    · rfl
    · exact slot?
  | boxed v =>
    cases v with
    | string s =>
      simp only [Obj.own?, obj, Shift.kind, value]
      rcases named : Obj.stringSlot? s k with _ | ⟨v, _, _, _⟩ | _
      · exact slot?
      · have primitive : σ.value v = v := by
          cases k with
          | index n =>
            obtain ⟨u, _, e⟩ := Option.map_eq_some_iff.mp named
            cases e
            rfl
          | name s =>
            simp only [Obj.stringSlot?] at named
            split at named
            · cases named
              rfl
            · cases named
        simp only [Option.map_some, slot, primitive]
      · cases k with
        | index n =>
          obtain ⟨u, _, e⟩ := Option.map_eq_some_iff.mp named
          cases e
        | name s =>
          simp only [Obj.stringSlot?] at named
          split at named <;> cases named
    | _ => exact slot?
  | _ => exact slot?

@[simp] theorem ownKeys_obj (o : Obj) : (σ.obj o).ownKeys = o.ownKeys := by
  have keys := keys_obj (σ := σ) o
  obtain ⟨kind, parent, slots, extensible⟩ := o
  cases kind with
  | array n fixed =>
    simp only [Obj.ownKeys, obj, Shift.kind]
    simp only [obj, Shift.kind] at keys
    rw [keys]
  | boxed v =>
    cases v with
    | string s =>
      simp only [Obj.ownKeys, obj, Shift.kind, value]
      simp only [obj, Shift.kind, value] at keys
      rw [keys]
    | _ => exact keys
  | _ => exact keys

theorem truncate_obj (n : Nat) (o : Obj) :
    (σ.obj o).truncate n = (σ.obj (o.truncate n).1, (o.truncate n).2) := by
  have stays : (σ.obj o).stays n = o.stays n :=
    foldl_slots (fun _ e => by simp only [Obj.stayStep, entry, configurable_slot]) _ _
  have fixed : (σ.obj o).isFixed = o.isFixed := by
    obtain ⟨kind, _, _, _⟩ := o
    cases kind <;> rfl
  rw [Obj.truncate_eq, Obj.truncate_eq, stays, fixed]
  simp only [obj, List.filter_map]
  rfl

theorem place_obj (k : Key) (s : Slot) (o : Obj) : σ.obj (o.place k s) = (σ.obj o).place k (σ.slot s) := by
  unfold Obj.place
  rw [← put_obj]
  generalize o.put k s = p
  obtain ⟨kind, parent, slots, extensible⟩ := p
  cases kind with
  | array n fixed =>
    cases k with
    | index i =>
      show σ.obj (if n ≤ i then _ else _) = if n ≤ i then _ else _
      rw [apply_ite σ.obj]
      rfl
    | name s => rfl
  | _ => rfl

/-! ## Scopes -/

theorem binding?_bindings (bs : List Binding) (n : Utf16) :
    Scope.binding? (bs.map σ.binding) n = (Scope.binding? bs n).map σ.binding := by
  rw [Scope.binding?, List.find?_map]
  rfl

theorem rebind_bindings (n : Utf16) (v : Value) : ∀ bs : List Binding,
    Scope.rebind n (σ.value v) (bs.map σ.binding) = (Scope.rebind n v bs).map σ.binding
  | [] => rfl
  | b :: rest => by
    simp only [List.map_cons, Scope.rebind]
    have name : (σ.binding b).name = b.name := rfl
    rw [name]
    split
    · rfl
    · rw [rebind_bindings n v rest, List.map_cons]

theorem addBinding_bindings (b : Binding) (bs : List Binding) :
    Engine.addBinding (σ.binding b) (bs.map σ.binding) = (Engine.addBinding b bs).map σ.binding := by
  have among : ((bs.map σ.binding).any (·.name = (σ.binding b).name)) = bs.any (·.name = b.name) := by
    simp only [List.any_map]
    rfl
  unfold Engine.addBinding
  rw [among]
  split
  · rfl
  · rw [List.map_append]
    rfl

end Shift

/-! ## Twins -/

/-- `n` is `m` with further objects and scopes in between. -/
structure Machine.Twin (σ : Shift) (m n : Machine) : Prop where
  builtin : 17 ≤ m.heap.size
  low : σ.objects ≤ m.heap.size
  size : n.heap.size = m.heap.size + σ.moreObjects
  object : ∀ r, n.object (σ.ref r) = σ.obj (m.object r)
  outermost : 1 ≤ m.scopes.size
  lowScopes : σ.scopes ≤ m.scopes.size
  sizeScopes : n.scopes.size = m.scopes.size + σ.moreScopes
  scope : ∀ r, n.scope (σ.scopeRef r) = σ.scope (m.scope r)
  jobs : n.jobs = m.jobs.map σ.job
  unhandled : n.unhandled = m.unhandled.map σ.ref
  result : n.result = σ.value m.result
  readings : n.readings = m.readings

namespace Machine.Twin

variable {σ : Shift} {m n : Machine} (t : m.Twin σ n)
include t

theorem next : n.next = σ.ref m.next := by
  have further : σ.ref m.next = ⟨m.heap.size + σ.moreObjects⟩ := Shift.ref_further t.builtin t.low
  rw [further]
  exact congrArg Ref.mk t.size

theorem nextScope : (⟨n.scopes.size⟩ : ScopeRef) = σ.scopeRef ⟨m.scopes.size⟩ := by
  have further : σ.scopeRef ⟨m.scopes.size⟩ = ⟨m.scopes.size + σ.moreScopes⟩ :=
    Shift.scopeRef_further t.outermost t.lowScopes
  rw [further]
  exact congrArg ScopeRef.mk t.sizeScopes

/-- A shifted reference is within the twin where it was within the machine. -/
theorem within (r : Ref) : (σ.ref r).index < n.heap.size ↔ r.index < m.heap.size := by
  have builtin := t.builtin
  have low := t.low
  rw [t.size]
  rcases Shift.ref_cases (σ := σ) r with ⟨here, e⟩ | ⟨here, e⟩
  · rw [e]
    omega
  · rw [e]
    simp only
    omega

theorem grown (o : Obj) : (m.grown o).Twin σ (n.grown (σ.obj o)) where
  builtin := by rw [Machine.grown_size]; exact Nat.le_succ_of_le t.builtin
  low := by rw [Machine.grown_size]; exact Nat.le_succ_of_le t.low
  size := by rw [Machine.grown_size, Machine.grown_size, t.size]; omega
  object r := by
    by_cases new : r = m.next
    · rw [new, Machine.object_next, ← t.next, Machine.object_next]
    · have other : σ.ref r ≠ n.next := by
        rw [t.next]
        exact fun same => new (Shift.ref_injective same)
      rw [Machine.object_grown_of_ne _ new, Machine.object_grown_of_ne _ other, t.object]
  outermost := t.outermost
  lowScopes := t.lowScopes
  sizeScopes := t.sizeScopes
  scope := t.scope
  jobs := t.jobs
  unhandled := t.unhandled
  result := t.result
  readings := t.readings

theorem updated {f g : Obj → Obj} (h : ∀ o, g (σ.obj o) = σ.obj (f o)) (r : Ref) :
    (m.updated r f).Twin σ (n.updated (σ.ref r) g) where
  builtin := by rw [Machine.updated_size]; exact t.builtin
  low := by rw [Machine.updated_size]; exact t.low
  size := by rw [Machine.updated_size, Machine.updated_size, t.size]
  object q := by
    by_cases here : q = r
    · subst here
      by_cases inside : q.index < m.heap.size
      · rw [Machine.updated_object _ inside, Machine.updated_object _ ((t.within q).mpr inside), t.object, h]
      · have outside : ¬ (σ.ref q).index < n.heap.size := fun there => inside ((t.within q).mp there)
        have missing : ∀ {l : Machine} {p : Ref} (f : Obj → Obj), ¬ p.index < l.heap.size →
            (l.updated p f).object p = l.object p := by
          intro l p f out
          have out' : ¬ p.index < (l.updated p f).heap.size := by rwa [Machine.updated_size]
          rw [Machine.object, Machine.object, Array.getElem?_eq_none (Nat.le_of_not_lt out),
            Array.getElem?_eq_none (Nat.le_of_not_lt out')]
        rw [missing f inside, missing g outside, t.object]
    · have other : σ.ref q ≠ σ.ref r := fun same => here (Shift.ref_injective same)
      rw [Machine.updated_object_of_ne _ here, Machine.updated_object_of_ne _ other, t.object]
  outermost := t.outermost
  lowScopes := t.lowScopes
  sizeScopes := t.sizeScopes
  scope := t.scope
  jobs := t.jobs
  unhandled := t.unhandled
  result := t.result
  readings := t.readings

end Machine.Twin

end ScriptHost.Script
