/-
Machines that refer to nothing but what they hold. Whatever is added behind such a machine leaves a twin of it: what
the machine makes from then on is found behind what was added.
-/
import ScriptHost.Proofs.Script.Twins.Shift

namespace ScriptHost.Script

/-! ## Staying within bounds -/

section Bounds

variable (objects scopes : Nat)

def Ref.under (r : Ref) : Bool := r.index < objects

def Value.under : Value → Bool
  | .object r => r.under objects
  | _ => true

def Slot.under : Slot → Bool
  | .data v _ _ _ => v.under objects
  | .accessor get set _ _ => get.all (·.under objects) && set.all (·.under objects)

/-- Promises are left aside. -/
def Kind.under : Kind → Bool
  | .closure _ scope => scope.index < scopes
  | .settler p _ once => p.under objects && once.under objects
  | .boxed v => v.under objects
  | .promise _ => false
  | _ => true

def Obj.under (o : Obj) : Bool :=
  o.kind.under objects scopes && o.parent.all (·.under objects) && o.slots.all (·.2.under objects)

def Scope.under : Scope → Bool
  | .names bs outer => bs.all (·.value.all (·.under objects)) && outer.index < scopes
  | .object r outer => r.under objects && outer.index < scopes
  | .global => true

end Bounds

/-- A machine that refers to nothing but what it holds, and on which nothing waits. -/
structure Machine.Contained (m : Machine) : Prop where
  builtin : 17 ≤ m.heap.size
  outermost : 1 ≤ m.scopes.size
  objects : m.heap.all (Obj.under m.heap.size m.scopes.size) = true
  scopes : m.scopes.all (Scope.under m.heap.size m.scopes.size) = true
  jobs : m.jobs.isEmpty = true
  unhandled : m.unhandled.isEmpty = true
  result : m.result.isUndefined = true

instance (m : Machine) : Decidable m.Contained :=
  decidable_of_iff (17 ≤ m.heap.size ∧ 1 ≤ m.scopes.size ∧ m.heap.all (Obj.under m.heap.size m.scopes.size) = true ∧
      m.scopes.all (Scope.under m.heap.size m.scopes.size) = true ∧ m.jobs.isEmpty = true ∧
      m.unhandled.isEmpty = true ∧ m.result.isUndefined = true)
    ⟨fun ⟨a, b, c, d, e, f, g⟩ => ⟨a, b, c, d, e, f, g⟩, fun ⟨a, b, c, d, e, f, g⟩ => ⟨a, b, c, d, e, f, g⟩⟩

namespace Shift

variable {σ : Shift}

theorem ref_under {r : Ref} (h : r.under σ.objects = true) : σ.ref r = r := ref_kept (of_decide_eq_true h)

theorem scopeRef_under {r : ScopeRef} (h : r.index < σ.scopes) : σ.scopeRef r = r := by
  simp [scopeRef, cond_eq_ite, Nat.blt_eq, h]

theorem refs_under {r : Option Ref} (h : r.all (·.under σ.objects) = true) : r.map σ.ref = r := by
  cases r with
  | none => rfl
  | some r => exact congrArg some (ref_under h)

/-- A value that refers to what was there before the shift is not changed by it, -/
theorem value_under {v : Value} (h : v.under σ.objects = true) : σ.value v = v := by
  cases v with
  | object r => exact congrArg Value.object (ref_under h)
  | _ => rfl

theorem entry_under {e : Key × Slot} (h : e.2.under σ.objects = true) : σ.entry e = e := by
  obtain ⟨k, ⟨v, _, _, _⟩ | ⟨get, set, _, _⟩⟩ := e
  · simp only [entry, slot, value_under (show v.under σ.objects = true from h)]
  · obtain ⟨g, s⟩ := Bool.and_eq_true_iff.mp h
    simp only [entry, slot, refs_under g, refs_under s]

/-- What a kind refers to is not moved if all of it was there before. -/
theorem kind_under {k : Kind} (h : k.under σ.objects σ.scopes = true) : σ.kind k = k := by
  cases k with
  | closure code scope => simp only [kind, scopeRef_under (of_decide_eq_true h)]
  | settler p rejects latch =>
    obtain ⟨g, s⟩ := Bool.and_eq_true_iff.mp h
    simp only [kind, ref_under g, ref_under s]
  | boxed v => exact congrArg Kind.boxed (value_under h)
  | promise s => cases h
  | _ => rfl

theorem map_under {α : Type} {f : α → α} {p : α → Bool} (same : ∀ {a}, p a = true → f a = a) {as : List α}
    (h : as.all p = true) : as.map f = as :=
  (List.map_congr_left fun a among => same (List.all_eq_true.mp h a among)).trans (List.map_id as)

/-- nor is an object that does so, -/
theorem obj_under {o : Obj} (h : o.under σ.objects σ.scopes = true) : σ.obj o = o := by
  simp only [Obj.under, Bool.and_eq_true] at h
  obtain ⟨⟨k, p⟩, s⟩ := h
  simp only [obj, kind_under k, refs_under p, map_under entry_under s]

theorem binding_under {b : Binding} (h : b.value.all (·.under σ.objects) = true) : σ.binding b = b := by
  obtain ⟨name, _ | v, rule, deletable⟩ := b
  · rfl
  · simp only [binding, Option.map_some, value_under h]

/-- nor a scope. -/
theorem scope_under {s : Scope} (h : s.under σ.objects σ.scopes = true) : σ.scope s = s := by
  cases s with
  | names bs outer =>
    obtain ⟨b, o⟩ := Bool.and_eq_true_iff.mp h
    simp only [scope, map_under binding_under b, scopeRef_under (of_decide_eq_true o)]
  | object r outer =>
    obtain ⟨g, o⟩ := Bool.and_eq_true_iff.mp h
    simp only [scope, ref_under g, scopeRef_under (of_decide_eq_true o)]
  | global => rfl

end Shift

namespace Machine.Contained

variable {m : Machine} (h : m.Contained)
include h

theorem undefined : m.result = .undefined := by
  have result := h.result
  generalize m.result = v at result
  cases v <;> first | rfl | cases result

/-- Behind a machine that contains what it refers to everything can be added. -/
theorem twin (os : Array Obj) (ss : Array Scope) : m.Twin ⟨m.heap.size, os.size, m.scopes.size, ss.size⟩
    { m with heap := m.heap ++ os, scopes := m.scopes ++ ss } where
  builtin := h.builtin
  low := Nat.le_refl _
  size := Array.size_append
  outermost := h.outermost
  lowScopes := Nat.le_refl _
  sizeScopes := Array.size_append
  object r := by
    by_cases inside : r.index < m.heap.size
    · have under := Array.all_eq_true.mp h.objects r.index inside
      rw [Shift.ref_kept inside, Machine.object, Machine.object, Array.getElem?_append_left inside,
        Array.getElem?_eq_getElem inside, Option.getD_some, Shift.obj_under under]
    · have beyond := Nat.le_of_not_lt inside
      have further := Shift.ref_further (σ := ⟨m.heap.size, os.size, m.scopes.size, ss.size⟩)
        (Nat.le_trans h.builtin beyond) beyond
      have outside : (m.heap ++ os).size ≤ r.index + os.size := by
        rw [Array.size_append]
        omega
      rw [further, Machine.object, Machine.object, Array.getElem?_eq_none beyond, Array.getElem?_eq_none outside]
      rfl
  scope r := by
    by_cases inside : r.index < m.scopes.size
    · have under := Array.all_eq_true.mp h.scopes r.index inside
      rw [Shift.scopeRef_under inside, Machine.scope, Machine.scope, Array.getElem?_append_left inside,
        Array.getElem?_eq_getElem inside, Option.getD_some, Shift.scope_under under]
    · have beyond := Nat.le_of_not_lt inside
      have further := Shift.scopeRef_further (σ := ⟨m.heap.size, os.size, m.scopes.size, ss.size⟩)
        (Nat.le_trans h.outermost beyond) beyond
      have outside : (m.scopes ++ ss).size ≤ r.index + ss.size := by
        rw [Array.size_append]
        omega
      rw [further, Machine.scope, Machine.scope, Array.getElem?_eq_none beyond, Array.getElem?_eq_none outside]
      rfl
  jobs := by
    show m.jobs = _
    rw [List.isEmpty_iff.mp h.jobs]
    rfl
  unhandled := by
    show m.unhandled = _
    rw [List.isEmpty_iff.mp h.unhandled]
    rfl
  result := by
    show m.result = _
    rw [h.undefined]
    rfl
  readings := rfl

end Machine.Contained

end ScriptHost.Script
