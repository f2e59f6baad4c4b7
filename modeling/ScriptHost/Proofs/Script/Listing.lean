/-
Lists of values as objects, and how they grow. A list has each of its items under its place, and nothing
else but its length; a value that is put behind the last item makes the list of one more, wherever the
list stands in the heap, as long as no item is inherited at that place.
-/
import ScriptHost.Proofs.Script.Crossing
import ScriptHost.Proofs.Script.Slots
import ScriptHost.Proofs.Script.Whole

namespace ScriptHost.Script

open Machine

variable {vs : List Value} {v : Value} {i : Nat}

theorem Key.ofNat_eq (small : i < Key.indexLimit) : Key.ofNat i = .index i := if_pos small

/-! ## Items -/

theorem itemSlots_append (v : Value) : ∀ (vs : List Value) (i : Nat) (acc : List (Key × Slot)),
    Run.itemSlots i (vs ++ [v]) acc = (Key.ofNat (i + vs.length), .plain v) :: Run.itemSlots i vs acc
  | [], _, _ => rfl
  | u :: vs, i, acc => by
    rw [List.cons_append, Run.itemSlots, Run.itemSlots, itemSlots_append v vs (i + 1)]
    congr 3
    rw [List.length_cons, Nat.add_assoc, Nat.add_comm 1]

theorem mem_itemSlots {x : Key × Slot} : ∀ {vs : List Value} {i : Nat} {acc : List (Key × Slot)},
    x ∈ Run.itemSlots i vs acc → x ∈ acc ∨ ∃ k, i ≤ k ∧ k < i + vs.length ∧ ∃ v, x = (Key.ofNat k, .plain v)
  | [], _, _, there => .inl there
  | v :: vs, i, acc, there => by
    have among : x ∈ Run.itemSlots (i + 1) vs ((Key.ofNat i, .plain v) :: acc) := there
    rcases mem_itemSlots among with there | ⟨k, start, inside, item⟩
    · rcases List.mem_cons.mp there with rfl | there
      · exact .inr ⟨i, Nat.le_refl i, by simp, v, rfl⟩
      · exact .inl there
    · exact .inr ⟨k, by omega, by rw [List.length_cons]; omega, item⟩

namespace Obj

/-- A list has its items under their places. -/
theorem slot?_listing (room : vs.length ≤ Key.indexLimit) :
    ∀ {i : Nat}, i < Key.indexLimit → (listing vs).slot? (.index i) = vs[i]?.map .plain := by
  induction vs using List.reverseRecOn with
  | nil => exact fun _ => rfl
  | append_singleton vs v ih =>
    intro i small
    have before : vs.length < Key.indexLimit := by
      rw [List.length_append, List.length_singleton] at room
      omega
    have rest := ih (Nat.le_of_lt before) small
    have slots : (listing (vs ++ [v])).slots = (.index vs.length, .plain v) :: (listing vs).slots := by
      show Run.itemSlots 0 (vs ++ [v]) [] = _
      rw [itemSlots_append, Nat.zero_add, Key.ofNat_eq before]
      rfl
    rw [slot?, slots, List.find?_cons]
    by_cases last : i = vs.length
    · subst last
      simp
    · have other : (Key.index vs.length = Key.index i) = False := by simp [Ne.symm last]
      simp only [other, decide_false]
      show (listing vs).slot? (.index i) = _
      rw [rest]
      congr 1
      rcases Nat.lt_or_gt_of_ne last with inside | outside
      · rw [List.getElem?_append_left inside]
      · rw [List.getElem?_eq_none (by omega), List.getElem?_eq_none (by simp; omega)]

theorem own?_listing (room : vs.length ≤ Key.indexLimit) (small : i < Key.indexLimit) :
    (listing vs).own? (.index i) = vs[i]?.map .plain := slot?_listing room small

/-- Of names a list has none but its length. -/
theorem own?_listing_name (room : vs.length ≤ Key.indexLimit) {s : Utf16} (other : Key.name s ≠ .length) :
    (listing vs).own? (.name s) = none := by
  have byKind : (listing vs).own? (.name s) = (listing vs).slot? (.name s) := if_neg other
  rw [byKind, slot?]
  have missing : (listing vs).slots.find? (·.1 = Key.name s) = none := by
    rw [List.find?_eq_none]
    intro x there
    rcases mem_itemSlots there with there | ⟨k, _, inside, v, rfl⟩
    · cases there
    · rw [Key.ofNat_eq (by omega)]
      simp
  rw [missing]

/-- The next item makes the list of one more. -/
theorem place_listing (room : vs.length < Key.indexLimit) (v : Value) :
    (listing vs).place (Key.ofNat vs.length) (.plain v) = listing (vs ++ [v]) := by
  have missing : (listing vs).slots.any (·.1 = Key.ofNat vs.length) = false := by
    rw [List.any_eq_false]
    intro x there
    rcases mem_itemSlots there with there | ⟨k, _, inside, u, rfl⟩
    · cases there
    · rw [Key.ofNat_eq room, Key.ofNat_eq (by omega)]
      simp
      omega
  have behind : (listing vs).put (.index vs.length) (.plain v) =
      { listing vs with slots := (.index vs.length, .plain v) :: (listing vs).slots } := by
    rw [Key.ofNat_eq room] at missing
    rw [put, missing]
    rfl
  have slots : (listing (vs ++ [v])).slots = (.index vs.length, .plain v) :: (listing vs).slots := by
    show Run.itemSlots 0 (vs ++ [v]) [] = _
    rw [itemSlots_append, Nat.zero_add, Key.ofNat_eq room]
    rfl
  have grown : listing (vs ++ [v]) =
      { listing vs with
        kind := .array (vs.length + 1) false
        slots := (.index vs.length, .plain v) :: (listing vs).slots } := by
    rw [← slots, listing, List.length_append]
    rfl
  rw [Key.ofNat_eq room, grown]
  unfold place
  rw [behind]
  exact if_pos (Nat.le_refl vs.length)

/-- A list is as long as it is, and is not cut off there. -/
theorem truncate_listing (room : vs.length ≤ Key.indexLimit) :
    (listing vs).truncate vs.length = (listing vs, true) := by
  have items : ∀ x ∈ (listing vs).slots, ∃ k v, k < vs.length ∧ x = (.index k, .plain v) := by
    intro x there
    rcases mem_itemSlots there with there | ⟨k, _, inside, u, rfl⟩
    · cases there
    · exact ⟨k, u, by omega, by rw [Key.ofNat_eq (by omega)]⟩
  have stays : (listing vs).stays vs.length = vs.length := by
    have step : ∀ (xs : List (Key × Slot)) acc, (∀ x ∈ xs, ∃ k v, k < vs.length ∧ x = (.index k, .plain v)) →
        xs.foldl (stayStep vs.length) acc = acc := by
      intro xs
      induction xs with
      | nil => exact fun _ _ => rfl
      | cons x xs ih =>
        intro acc items
        obtain ⟨k, v, _, rfl⟩ := items x List.mem_cons_self
        have kept : stayStep vs.length acc (.index k, .plain v) = acc := by
          simp [stayStep, Slot.plain, Slot.configurable]
        rw [List.foldl_cons, kept]
        exact ih acc fun y there => items y (List.mem_cons_of_mem _ there)
    exact step _ _ items
  have kept : ((listing vs).truncate vs.length).1.slots = (listing vs).slots := by
    rw [slots_truncate, stays, List.filter_eq_self]
    intro x there
    obtain ⟨k, v, inside, rfl⟩ := items x there
    exact decide_eq_true inside
  have shortened : (listing vs).truncate vs.length =
      ({ listing vs with kind := .array ((listing vs).stays vs.length) false
                         slots := ((listing vs).truncate vs.length).1.slots },
        decide ((listing vs).stays vs.length = vs.length)) := rfl
  rw [shortened, kept, stays, decide_eq_true (Eq.refl vs.length)]
  rfl

end Obj

/-! ## Pushing -/

namespace Engine

variable {e : Engine} {m : Machine} {r : Ref}

theorem lengthOf_listing (other : r ≠ .global) (list : m.object r = .listing vs) (room : vs.length < 2 ^ 53) :
    e.lengthOf r m = .value vs.length m := by
  have own : e.own? m r .length = some (.data (.number (Float.ofNat vs.length)) true false false) := by
    rw [own?_of_ne other, list]
    rfl
  rw [lengthOf, Run.bind_apply, get_of_find (find?_of_own own)]
  exact toLength_ofNat room

/-- A value that is pushed goes behind the last item. -/
theorem push_listing (other : r ≠ .global) (list : m.object r = .listing vs)
    (room : vs.length < Key.indexLimit) (there : r.index < m.heap.size)
    (noItem : e.Lacks m (.index vs.length) .arrayParent) (v : Value) :
    e.push (.object r) [v] m =
      .value (.number (Number.ofNat (vs.length + 1))) (m.updated r fun _ => .listing (vs ++ [v])) := by
  have limit : Key.indexLimit = 4294967295 := rfl
  have own : e.own? m r (.index vs.length) = none := by
    rw [own?_of_ne other, list, Obj.own?_listing (Nat.le_of_lt room) room, List.getElem?_eq_none (Nat.le_refl _)]
    rfl
  have nowhere : e.find? m r (.index vs.length) = none :=
    (Lacks.above own (by rw [list]; rfl) noItem).find?
  have placed : e.putObject r (Key.ofNat vs.length) v true m =
      .value () (m.updated r fun _ => .listing (vs ++ [v])) := by
    have grown : m.updated r (Obj.place (.index vs.length) (.plain v)) =
        m.updated r fun _ => .listing (vs ++ [v]) := updated_congr (by
      rw [list, ← Key.ofNat_eq room]
      exact Obj.place_listing room v)
    rw [Key.ofNat_eq room, putObject, Run.bind_apply, Run.look_apply, own, Result.follow_value]
    simp only [Run.bind_apply, Run.look_apply, nowhere, Result.follow_value]
    rw [addSlot, Run.bind_apply, Run.object_apply, list, Result.follow_value]
    exact congrArg (Result.value ()) grown
  -- the length that is assigned is the one there is, so nothing is cut off
  have measured : e.putObject r .length (.number (Number.ofNat (vs.length + 1))) true
      (m.updated r fun _ => .listing (vs ++ [v])) = .value () (m.updated r fun _ => .listing (vs ++ [v])) := by
    have here : (m.updated r fun _ => .listing (vs ++ [v])).object r = .listing (vs ++ [v]) :=
      updated_object _ there
    have size : (vs ++ [v]).length = vs.length + 1 := by simp
    have uncut := Obj.truncate_listing (show (vs ++ [v]).length ≤ Key.indexLimit by rw [size]; omega)
    have own : e.own? (m.updated r fun _ => .listing (vs ++ [v])) r .length =
        some (.data (.number (Float.ofNat (vs ++ [v]).length)) true false false) := by
      rw [own?_of_ne other, here]
      rfl
    have whole : Number.ofNat (vs.length + 1) = Float.ofNat (vs.length + 1) :=
      if_pos (show vs.length + 1 < 2 ^ 53 by omega)
    have wanted : Number.toNat32? (Number.ofNat (vs.length + 1)) = some (vs ++ [v]).length := by
      rw [whole, Number.toNat32?_ofNat (by omega), size]
    rw [putObject, Run.bind_apply, Run.look_apply, own, Result.follow_value]
    simp only [Run.bind_apply, Run.object_apply, here, Result.follow_value]
    show e.putLength r (.number (Number.ofNat (vs.length + 1))) true (m.updated r fun _ => .listing (vs ++ [v])) = _
    simp only [putLength, toNumber, Run.bind_apply, Run.pure_apply, Run.object_apply, Result.follow_value, wanted,
      here, uncut, update_apply, updated_updated]
    rfl
  simp only [push, toObject, pushItems, Run.bind_apply, Run.pure_apply, Result.follow_value,
    lengthOf_listing other list (by omega), placed, measured]

end Engine

end ScriptHost.Script
