/-
Searches along chains. Properties are looked for on an object and its parents, names in a scope and those around
it. The search is cut off after as many steps as there are objects or scopes, and one more: a chain that goes on
longer has come back to where it was, so nothing is missed, and a search that may go further ends the same. So
searches on twins end the same, though there are more objects to be passed on one of them.
-/
import ScriptHost.Proofs.Script.Twins.Shift
import Mathlib.Data.Fintype.Pigeonhole

namespace ScriptHost.Script

/-! ## Chains -/

section Chains

variable {α β : Type} (next : α → Option α)

/-- The place that is reached after so many steps. -/
def along : Nat → α → Option α
  | 0, a => some a
  | n + 1, a => (next a).bind (along n)

/-- The first thing found along a chain, at so many places. -/
def seek (found : α → Option β) : Nat → α → Option β
  | 0, _ => none
  | n + 1, a => (found a).or ((next a).bind (seek found n))

variable {next} {found : α → Option β} {place : α → Nat} {size : Nat} {n : Nat} {a b : α}

theorem along_add (i j : Nat) (a : α) : along next (i + j) a = (along next i a).bind (along next j) := by
  induction i generalizing a with
  | zero => rw [Nat.zero_add]; rfl
  | succ i ih =>
    rw [Nat.succ_add]
    simp only [along]
    rcases next a with _ | p
    · rfl
    · exact ih p

/-- What comes before a place that is reached is reached. -/
theorem along_before {i j : Nat} (le : i ≤ j) (reached : along next j a = some b) : ∃ c, along next i a = some c := by
  obtain ⟨k, rfl⟩ := Nat.exists_eq_add_of_le le
  rw [along_add] at reached
  rcases e : along next i a with _ | c
  · simp [e] at reached
  · exact ⟨c, rfl⟩

/-- Places with something behind them are among `size` ones, so a chain has been everywhere after `size` steps. -/
theorem along_early (injective : Function.Injective place) (inside : ∀ c p, next c = some p → place c < size) :
    ∀ (i : Nat) {b : α}, along next i a = some b → ∃ j ≤ size, along next j a = some b := by
  intro i
  induction i using Nat.strong_induction_on with
  | _ i ih =>
    intro b reached
    by_cases short : i ≤ size
    · exact ⟨i, short, reached⟩
    -- the first `size + 1` places have something behind them, so two of them are the same
    have go : ∀ k : Fin (size + 1), ∃ c, along next k a = some c ∧ place c < size := by
      intro k
      have lt : k.val + 1 ≤ i := by omega
      obtain ⟨c, here⟩ := along_before (Nat.le_of_succ_le lt) reached
      obtain ⟨p, behind⟩ := along_before lt reached
      rw [along_add, here] at behind
      rcases e : next c with _ | q
      · simp [along, e] at behind
      · exact ⟨c, here, inside c q e⟩
    choose at_ reaches small using go
    obtain ⟨k, l, other, same⟩ := Fintype.exists_ne_map_eq_of_card_lt
      (fun k : Fin (size + 1) => (⟨place (at_ k), small k⟩ : Fin size)) (by simp)
    have again : at_ k = at_ l := injective (congrArg Fin.val same)
    wlog before : k < l generalizing k l
    · exact this l k (Ne.symm other) same.symm again.symm (lt_of_le_of_ne (not_lt.mp before) (Ne.symm other))
    -- from there on the chain repeats what it did between them
    have split : i = l.val + (i - l.val) := by omega
    rw [split, along_add, reaches l, ← again, ← reaches k, ← along_add] at reached
    exact ih (k.val + (i - l.val)) (by have : k.val < l.val := before; omega) reached

theorem seek_eq_none : seek next found n a = none ↔ ∀ i < n, ∀ c, along next i a = some c → found c = none := by
  induction n generalizing a with
  | zero => exact ⟨fun _ i lt => absurd lt (Nat.not_lt_zero i), fun _ => rfl⟩
  | succ n ih =>
    rw [seek, Option.or_eq_none_iff]
    constructor
    · rintro ⟨here, rest⟩ (_ | i) lt c reached
      · cases reached
        exact here
      · rw [along] at reached
        rcases e : next a with _ | p
        · rw [e] at reached
          cases reached
        · rw [e] at reached rest
          exact ih.mp rest i (Nat.lt_of_succ_lt_succ lt) c reached
    · intro nothing
      refine ⟨nothing 0 (Nat.succ_pos n) a rfl, ?_⟩
      rcases e : next a with _ | p
      · rfl
      · refine ih.mpr fun i lt c reached => nothing (i + 1) (Nat.succ_lt_succ lt) c ?_
        rw [along, e]
        exact reached

/-- What is found stays found by a longer search. -/
theorem seek_add {x : β} (k : Nat) (h : seek next found n a = some x) : seek next found (n + k) a = some x := by
  induction n generalizing a with
  | zero => cases h
  | succ n ih =>
    rw [Nat.succ_add]
    rw [seek] at h ⊢
    rcases here : found a with _ | y
    · rw [here, Option.none_or] at h
      rw [Option.none_or]
      rcases e : next a with _ | p
      · rw [e] at h
        cases h
      · rw [e] at h
        exact ih h
    · rw [here] at h
      exact h

/-- A search of more than `size` steps finds what every longer one does. -/
theorem seek_enough (injective : Function.Injective place) (inside : ∀ c p, next c = some p → place c < size)
    (k : Nat) : seek next found (size + 1 + k) a = seek next found (size + 1) a := by
  rcases h : seek next found (size + 1) a with _ | x
  · rw [seek_eq_none] at h ⊢
    intro i _ c reached
    obtain ⟨j, le, early⟩ := along_early injective inside i reached
    exact h j (Nat.lt_succ_of_le le) c early
  · exact seek_add k h

variable (next found) in
/-- Searches along chains that go alike find alike. -/
theorem seek_map {γ δ : Type} {next' : γ → Option γ} {found' : γ → Option δ} {f : α → γ} {g : β → δ}
    (step : ∀ a, next' (f a) = (next a).map f) (here : ∀ a, found' (f a) = (found a).map g) (n : Nat) (a : α) :
    seek next' found' n (f a) = (seek next found n a).map g := by
  induction n generalizing a with
  | zero => rfl
  | succ n ih =>
    rw [seek, seek, here, step]
    rcases found a with _ | x
    · rcases next a with _ | p
      · rfl
      · exact ih p
    · rfl

end Chains

namespace Engine

variable {e : Engine} {m : Machine}

/-! ## Properties -/

/-- The parent of the object at a reference. -/
def parentAt (m : Machine) (r : Ref) : Option Ref := (m.object r).parent

theorem parentAt_inside {r p : Ref} (h : parentAt m r = some p) : r.index < m.heap.size := by
  by_contra out
  rw [parentAt, Machine.object, Array.getElem?_eq_none (Nat.le_of_not_lt out)] at h
  cases h

theorem index_injective : Function.Injective Ref.index := fun ⟨_⟩ ⟨_⟩ same => congrArg Ref.mk same

theorem findUpTo_eq_seek (k : Key) (n : Nat) (r : Ref) :
    e.findUpTo m k n r = seek (parentAt m) (fun r => (e.own? m r k).map (r, ·)) n r := by
  induction n generalizing r with
  | zero => rfl
  | succ n ih =>
    rw [findUpTo, seek, parentAt]
    rcases e.own? m r k with _ | s
    · rcases (m.object r).parent with _ | p
      · rfl
      · exact ih p
    · rfl

theorem isAncestor_eq_seek (parent : Ref) (n : Nat) (r : Ref) : isAncestor m parent n r =
    (seek (parentAt m) (fun r => if parentAt m r = some parent then some () else none) n r).isSome := by
  induction n generalizing r with
  | zero => rfl
  | succ n ih =>
    rw [isAncestor, seek, parentAt]
    rcases (m.object r).parent with _ | p
    · rfl
    · simp only [ih, Option.some.injEq, beq_eq_decide]
      by_cases here : p = parent
      · simp [here]
      · simp [here]

/-! ## Names -/

/-- The scope around the one at a reference. -/
def outerAt (m : Machine) (r : ScopeRef) : Option ScopeRef :=
  match m.scope r with
  | .names _ outer => some outer
  | .object _ outer => some outer
  | .global => none

/-- What one scope has under a name. -/
def heldAt (e : Engine) (m : Machine) (n : Utf16) (k : Key) (r : ScopeRef) : Option Holder :=
  match m.scope r with
  | .names bs _ => (Scope.binding? bs n).map (.binding r)
  | .object o _ => if (e.find? m o k).isSome then some (.property o) else none
  | .global => some (if (e.find? m .global k).isSome then .property .global else .nowhere)

theorem outerAt_inside {r p : ScopeRef} (h : outerAt m r = some p) : r.index < m.scopes.size := by
  by_contra out
  rw [outerAt, Machine.scope, Array.getElem?_eq_none (Nat.le_of_not_lt out)] at h
  cases h

theorem scopeIndex_injective : Function.Injective ScopeRef.index := fun ⟨_⟩ ⟨_⟩ same => congrArg ScopeRef.mk same

theorem holderUpTo_eq_seek (n : Utf16) (k : Key) (fuel : Nat) (r : ScopeRef) :
    e.holderUpTo m n k fuel r = (seek (outerAt m) (heldAt e m n k) fuel r).getD .nowhere := by
  induction fuel generalizing r with
  | zero => rfl
  | succ fuel ih =>
    have scope : m.scopes[r.index]?.getD .global = m.scope r := rfl
    rw [holderUpTo, seek, heldAt, outerAt, scope]
    rcases m.scope r with ⟨bs, outer⟩ | ⟨o, outer⟩ | _
    · simp only [ih]
      cases Scope.binding? bs n <;> rfl
    · simp only [ih]
      cases (e.find? m o k).isSome <;> rfl
    · cases (e.find? m .global k).isSome <;> rfl

/-! ## Keys -/

/-- The keys of a chain of objects are all seen when each of its objects has been passed. -/
theorem loopKeys_seen (n : Nat) {r : Ref} {seen : List Key}
    (h : ∀ i q, along (parentAt m) i r = some q → ∀ k ∈ e.ownKeys m q, k ∈ seen) : e.loopKeys m n r seen = [] := by
  induction n generalizing r seen with
  | zero => rfl
  | succ n ih =>
    have none_new : (e.enumerableKeys m r).filter (fun k => !seen.contains k) = [] := by
      rw [List.filter_eq_nil_iff]
      intro k among
      simpa using h 0 r rfl k (List.mem_of_mem_filter among)
    rw [loopKeys, none_new]
    rcases parent : (m.object r).parent with _ | p
    · rfl
    · refine (List.nil_append _).trans (ih fun i q reached k among => List.mem_append_right _ ?_)
      refine h (i + 1) q ?_ k among
      rw [along, parentAt, parent]
      exact reached

/-- The first keys, and those that are found behind them. -/
theorem loopKeys_add (n k : Nat) (r : Ref) (seen : List Key) :
    ∃ seen', (∀ i < n, ∀ q, along (parentAt m) i r = some q → ∀ key ∈ e.ownKeys m q, key ∈ seen') ∧
      e.loopKeys m (n + k) r seen = e.loopKeys m n r seen ++
        ((along (parentAt m) n r).map fun q => e.loopKeys m k q seen').getD [] := by
  suffices h : ∃ seen', (∀ key ∈ seen, key ∈ seen') ∧
      (∀ i < n, ∀ q, along (parentAt m) i r = some q → ∀ key ∈ e.ownKeys m q, key ∈ seen') ∧
      e.loopKeys m (n + k) r seen = e.loopKeys m n r seen ++
        ((along (parentAt m) n r).map fun q => e.loopKeys m k q seen').getD [] by
    obtain ⟨seen', _, rest⟩ := h
    exact ⟨seen', rest⟩
  induction n generalizing r seen with
  | zero => exact ⟨seen, fun _ h => h, fun i lt => absurd lt (Nat.not_lt_zero i), by rw [Nat.zero_add]; rfl⟩
  | succ n ih =>
    rcases parent : (m.object r).parent with _ | p
    · refine ⟨e.ownKeys m r ++ seen, fun _ => List.mem_append_right _, ?_, ?_⟩
      · rintro (_ | i) _ q reached key among
        · cases reached
          exact List.mem_append_left _ among
        · rw [along, parentAt, parent] at reached
          cases reached
      · rw [Nat.succ_add, loopKeys, loopKeys, along, parentAt, parent]
        simp
    · obtain ⟨seen', kept, passed, e'⟩ := ih p (e.ownKeys m r ++ seen)
      refine ⟨seen', fun key among => kept key (List.mem_append_right _ among), ?_, ?_⟩
      · rintro (_ | i) lt q reached key among
        · cases reached
          exact kept key (List.mem_append_left _ among)
        · rw [along, parentAt, parent] at reached
          exact passed i (Nat.lt_of_succ_lt_succ lt) q reached key among
      · rw [Nat.succ_add, loopKeys, loopKeys, along, parentAt, parent]
        simp only [e', List.append_assoc]
        rfl

/-- Objects behind the last place that a chain can have give no more keys. -/
theorem loopKeys_enough (k : Nat) (r : Ref) :
    e.loopKeys m (m.heap.size + 1 + k) r [] = e.loopKeys m (m.heap.size + 1) r [] := by
  obtain ⟨seen', passed, e'⟩ := loopKeys_add (e := e) (m := m) (m.heap.size + 1) k r []
  rw [e']
  rcases last : along (parentAt m) (m.heap.size + 1) r with _ | q
  · simp
  · have nothing : e.loopKeys m k q seen' = [] := by
      refine loopKeys_seen k fun i p reached key among => ?_
      have from_start : along (parentAt m) (m.heap.size + 1 + i) r = some p := by
        rw [along_add, last]
        exact reached
      obtain ⟨j, le, early⟩ := along_early index_injective (fun _ _ => parentAt_inside) _ from_start
      exact passed j (Nat.lt_succ_of_le le) p early key among
    simp [nothing]

end Engine

end ScriptHost.Script
