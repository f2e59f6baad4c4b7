/-
Running and looking up, step by step: what follows an action that ends with a value, machines that grew
by an object, and where the search for a property along the parents of an object ends.
-/
import ScriptHost.Script.Property
import Mathlib.Tactic.ByContra

namespace ScriptHost.Script

/-! ## Running -/

namespace Result

variable {α β : Type} (value : α → Machine → Result β) (thrown : Value → Machine → Result β)

@[simp] theorem follow_value (a : α) (m : Machine) :
    (Result.value a m).follow value thrown = value a m := rfl

@[simp] theorem follow_thrown (v : Value) (m : Machine) :
    (Result.thrown v m).follow value thrown = thrown v m := rfl

@[simp] theorem follow_spent (m : Machine) : (Result.spent m).follow value thrown = .spent m := rfl

@[simp] theorem follow_ask (q : Question) (next : q.Answer → Result α) :
    (Result.ask q next).follow value thrown = .ask q fun r => (next r).follow value thrown := rfl

end Result

namespace Run

variable {α β : Type} (m : Machine)

@[simp] theorem pure_apply (a : α) : (Pure.pure a : Run α) m = .value a m := rfl

/-- An action is followed by what is done with its value, unless it throws or does not end. -/
@[simp] theorem bind_apply (x : Run α) (f : α → Run β) :
    (x >>= f) m = (x m).follow (fun a m => f a m) .thrown := by
  show Run.bind x f m = _
  unfold Run.bind
  cases x m <;> rfl

@[simp] theorem discard_apply (x : Run α) :
    discard x m = (x m).follow (fun _ m => .value () m) .thrown := bind_apply m x fun _ => Pure.pure ()

@[simp] theorem look_apply (f : Machine → α) : look f m = .value (f m) m := rfl

@[simp] theorem object_apply (r : Ref) : object r m = .value (m.object r) m := rfl

@[simp] theorem ask_apply (q : Question) : ask q m = .ask q fun r => .value r m := rfl

end Run

/-! ## Machines that grew -/

namespace Machine

/-- A machine with one more object. -/
def grown (o : Obj) (m : Machine) : Machine := { m with heap := m.heap.push o }

/-- The reference of the next object. -/
def next (m : Machine) : Ref := ⟨m.heap.size⟩

/-- `n` is `m` with more objects: everything that was there is as it was. -/
def Extends (m n : Machine) : Prop := ∃ os : Array Obj, n = { m with heap := m.heap ++ os }

variable {m n : Machine} (o p : Obj) {r : Ref}

theorem Extends.refl (m : Machine) : m.Extends m := ⟨#[], by simp⟩

theorem extends_grown (m : Machine) : m.Extends (m.grown o) := ⟨#[o], by simp [grown]⟩

theorem Extends.trans {l : Machine} (h : l.Extends m) (g : m.Extends n) : l.Extends n := by
  obtain ⟨os, rfl⟩ := h
  obtain ⟨ps, rfl⟩ := g
  exact ⟨os ++ ps, by simp⟩

theorem Extends.size (h : m.Extends n) : m.heap.size ≤ n.heap.size := by
  obtain ⟨os, rfl⟩ := h
  simp

/-- Every object of a machine is there, unchanged, in one that extends it. -/
theorem Extends.object (h : m.Extends n) (hr : r.index < m.heap.size) : n.object r = m.object r := by
  obtain ⟨os, rfl⟩ := h
  simp [Machine.object, Array.getElem?_append_left hr]

/-- Every object of `m` is in `n` as it was; all else may differ. -/
def Within (m n : Machine) : Prop := ∀ r : Ref, r.index < m.heap.size → n.object r = m.object r

/-- Objects that were there are as they were. -/
theorem Extends.within (h : m.Extends n) : m.Within n := fun _ inside => h.object inside

/-- A new object leaves those before it, -/
theorem object_grown (h : r.index < m.heap.size) : (m.grown o).object r = m.object r :=
  (extends_grown o m).object h

theorem object_grown_of_ne (h : r ≠ m.next) : (m.grown o).object r = m.object r := by
  have other : r.index ≠ m.heap.size := fun same => h (congrArg Ref.mk same)
  simp [Machine.object, grown, Array.getElem?_push, other]

/-- and stands behind them. -/
@[simp] theorem object_next (m : Machine) : (m.grown o).object m.next = o := by
  simp [Machine.object, grown, next]

/-- An object that has a parent is there. -/
theorem lt_of_parent {q : Ref} (h : (m.object r).parent = some q) : r.index < m.heap.size := by
  by_contra hr
  rw [Machine.object, Array.getElem?_eq_none (Nat.le_of_not_lt hr)] at h
  cases h

/-- An object of a kind of its own is there. -/
theorem lt_of_kind (h : (m.object r).kind ≠ .plain) : r.index < m.heap.size := by
  by_contra hr
  apply h
  rw [Machine.object, Array.getElem?_eq_none (Nat.le_of_not_lt hr)]
  rfl

/-! ### Changed objects -/

/-- A machine with one object changed. -/
def updated (q : Ref) (f : Obj → Obj) (m : Machine) : Machine :=
  { m with heap := m.heap.modify q.index f }

variable {q : Ref} (f : Obj → Obj)

/-- The object at the place is changed, -/
theorem updated_object (there : q.index < m.heap.size) : (m.updated q f).object q = f (m.object q) := by
  simp [object, updated, Array.getElem?_modify, Array.getElem?_eq_getElem there]

/-- and no other one is. -/
theorem updated_object_of_ne (other : r ≠ q) : (m.updated q f).object r = m.object r := by
  have apart : q.index ≠ r.index := fun same => other (congrArg Ref.mk same.symm)
  simp [object, updated, Array.getElem?_modify, apart]

theorem update_apply (q : Ref) (f : Obj → Obj) (m : Machine) : Run.update q f m = .value () (m.updated q f) := rfl

/-- What becomes of an object depends on that object alone. -/
theorem updated_congr {f g : Obj → Obj} (same : f (m.object q) = g (m.object q)) : m.updated q f = m.updated q g := by
  have heap : m.heap.modify q.index f = m.heap.modify q.index g := by
    apply Array.ext_getElem?
    intro i
    rw [Array.getElem?_modify, Array.getElem?_modify]
    split
    · next here =>
      subst here
      rcases there : m.heap[q.index]? with _ | o
      · rfl
      · have object : m.object q = o := by rw [Machine.object, there]; rfl
        rw [object] at same
        exact congrArg some same
    · rfl
  rw [updated, updated, heap]

/-- What an object is changed to last is what it is. -/
theorem updated_updated (m : Machine) : (m.updated q f).updated q (fun _ => o) = m.updated q fun _ => o := by
  have heap : (m.heap.modify q.index f).modify q.index (fun _ => o) = m.heap.modify q.index fun _ => o := by
    apply Array.ext_getElem?
    intro i
    simp only [Array.getElem?_modify]
    split
    · cases m.heap[i]? <;> rfl
    · rfl
  simp only [updated, heap]

theorem updated_self (same : o = m.object q) : (m.updated q fun _ => o) = m := by
  rw [updated_congr (g := id) same]
  have heap : m.heap.modify q.index id = m.heap := by
    apply Array.ext_getElem?
    intro i
    rw [Array.getElem?_modify]
    split
    · cases m.heap[i]? <;> rfl
    · rfl
  rw [updated, heap]

/-- The newest object changes where it is. -/
theorem updated_next (m : Machine) : (m.grown o).updated m.next f = m.grown (f o) := by
  have changed : (m.heap.push o).modify m.heap.size f = m.heap.push (f o) := by
    apply Array.ext_getElem?
    intro i
    simp only [Array.getElem?_modify, Array.getElem?_push]
    split <;> split <;> simp_all
  simp only [updated, grown, next, changed]

theorem update_next (m : Machine) : Run.update m.next f (m.grown o) = .value () (m.grown (f o)) := by
  rw [update_apply, updated_next]

/-- What is changed on a machine is changed on those that extend it. -/
theorem Extends.updated (h : m.Extends n) (there : q.index < m.heap.size) :
    (m.updated q f).Extends (n.updated q f) := by
  obtain ⟨os, rfl⟩ := h
  refine ⟨os, ?_⟩
  have heap : (m.heap ++ os).modify q.index f = m.heap.modify q.index f ++ os := by
    apply Array.ext_getElem?
    intro i
    simp only [Array.getElem?_modify, Array.getElem?_append, Array.size_modify]
    split
    · next here => subst here; simp [there]
    · rfl
  simp only [Machine.updated, heap]

/-- A new object can be changed at will. -/
theorem Extends.changed (h : m.Extends n) (new : m.heap.size ≤ q.index) : m.Extends (n.updated q f) := by
  obtain ⟨os, rfl⟩ := h
  refine ⟨os.modify (q.index - m.heap.size) f, ?_⟩
  have heap : (m.heap ++ os).modify q.index f = m.heap ++ os.modify (q.index - m.heap.size) f := by
    apply Array.ext_getElem?
    intro i
    simp only [Array.getElem?_modify, Array.getElem?_append]
    by_cases before : i < m.heap.size
    · have other : q.index ≠ i := by omega
      simp [before, other]
    · by_cases here : q.index = i
      · simp [before, here]
      · have other : q.index - m.heap.size ≠ i - m.heap.size := by omega
        simp [before, here, other]
  simp only [Machine.updated, heap]

@[simp] theorem updated_size (m : Machine) : (m.updated q f).heap.size = m.heap.size :=
  Array.size_modify

@[simp] theorem grown_size (m : Machine) : (m.grown o).heap.size = m.heap.size + 1 := Array.size_push _

end Machine

/-! ## Looking up -/

namespace Engine

variable {e : Engine} {m : Machine} {r p : Ref} {k : Key} {s : Slot}

/-- A search ends at an object that has the property itself, -/
theorem find?_of_own (h : e.own? m r k = some s) : e.find? m r k = some (r, s) := by
  simp [find?, findUpTo, h]

/-- or goes on to its parent. -/
theorem find?_of_parent (hr : e.own? m r k = none) (parent : (m.object r).parent = some p)
    (hp : e.own? m p k = some s) : e.find? m r k = some (p, s) := by
  obtain ⟨n, hn⟩ := Nat.exists_eq_add_of_lt (Machine.lt_of_parent parent)
  simp [find?, findUpTo, hr, parent, hp, hn]

/-- Engines with the same functions of the host see the same properties. -/
theorem own?_of_bindings {d : Engine} (same : d.bindings = e.bindings) : d.own? = e.own? := by
  funext m r k
  rw [own?, own?, same]

theorem find?_of_bindings {d : Engine} (same : d.bindings = e.bindings) : d.find? = e.find? := by
  have upTo : ∀ m k levels r, d.findUpTo m k levels r = e.findUpTo m k levels r := by
    intro m k levels
    induction levels with
    | zero => exact fun _ => rfl
    | succ levels ih =>
      intro r
      simp only [findUpTo, own?_of_bindings same, ih]
  funext m r k
  rw [find?, find?, upTo]

/-- Nothing is found where no object along the parents has the property. -/
inductive Lacks (e : Engine) (m : Machine) (k : Key) : Ref → Prop
  | root {r : Ref} (own : e.own? m r k = none) (parent : (m.object r).parent = none) : Lacks e m k r
  | above {r p : Ref} (own : e.own? m r k = none) (parent : (m.object r).parent = some p)
      (rest : Lacks e m k p) : Lacks e m k r

theorem Lacks.findUpTo (h : Lacks e m k r) : ∀ n, e.findUpTo m k n r = none := by
  induction h with
  | root own parent => rintro (_ | n) <;> simp [Engine.findUpTo, own, parent]
  | above own parent _ ih => rintro (_ | n) <;> simp [Engine.findUpTo, own, parent, ih]

/-- Where no object along the chain has the property, none is found. -/
theorem Lacks.find? (h : Lacks e m k r) : e.find? m r k = none := h.findUpTo _

/-- What an object itself has depends on the object alone. -/
theorem own?_congr {n : Machine} (same : (n.object r).own? k = (m.object r).own? k) :
    e.own? n r k = e.own? m r k := by
  rw [own?, own?, same]

theorem own?_grown (o : Obj) (h : r.index < m.heap.size) (k : Key) :
    e.own? (m.grown o) r k = e.own? m r k :=
  own?_congr (by rw [Machine.object_grown o h])

/-- No object but the global one has functions of the host beside its own properties. -/
theorem own?_of_ne (h : r ≠ .global) : e.own? m r k = (m.object r).own? k := by
  unfold own?
  rw [if_neg h]
  cases (m.object r).own? k <;> rfl

/-- What the global object has is found before the names that the engine knows by itself. -/
theorem own?_of_object (there : (m.object r).own? k = some s) : e.own? m r k = some s := by
  rw [own?, there]

/-- A data property that is found is read, -/
theorem get_of_find {q : Ref} {v : Value} {w en c : Bool}
    (h : e.find? m r k = some (q, .data v w en c)) : e.get (.object r) k m = .value v m := by
  simp [get, getFrom, h]

/-- and one that is lacking is undefined. -/
theorem get_of_lacks (h : Lacks e m k r) : e.get (.object r) k m = .value .undefined m := by
  simp [get, getFrom, h.find?]

end Engine

end ScriptHost.Script
