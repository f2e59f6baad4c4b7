/-
Paths and the file tree. A text names a place in the tree if the system has bytes for it: no zero character
stands in it, and no surrogate but those that stand for single bytes. What such a path leads to is a file or
a fault of the system's own; any other path is refused before the tree is looked at.
-/
import ScriptHost.Files
import ScriptHost.Proofs.Text.Utf8
import Mathlib.Tactic.ByContra

namespace ScriptHost

namespace Utf8

theorem byte_ne_zero {n : Nat} (low : 0 < n) (high : n < 0x100) : 0 ≠ UInt8.ofNat n := fun same => by
  have value := toNat_byte high
  rw [← same] at value
  exact absurd value (Nat.ne_of_lt low)

/-- Only the zero character has a zero byte. -/
theorem zero_mem_encodePoint {c : CodePoint} : 0 ∈ encodePoint c ↔ c.val = 0 := by
  constructor
  · intro inside
    by_contra other
    have limit := c.lt
    simp only [encodePoint] at inside
    split_ifs at inside <;> simp only [List.mem_cons, List.not_mem_nil, or_false] at inside
    · exact byte_ne_zero (by omega) (by omega) inside
    · rcases inside with h | h <;> exact byte_ne_zero (by omega) (by omega) h
    · rcases inside with h | h | h <;> exact byte_ne_zero (by omega) (by omega) h
    · rcases inside with h | h | h | h <;> exact byte_ne_zero (by omega) (by omega) h
  · intro zero
    rw [encodePoint_ascii (by omega), zero]
    exact List.mem_singleton.mpr rfl

end Utf8

namespace Files

/-- The system has bytes for the path. -/
def Nameable (path : Text) : Prop :=
  ∀ c ∈ path, c.val ≠ 0 ∧ (c.isSurrogate = true → 0xDC80 ≤ c.val ∧ c.val ≤ 0xDCFF)

instance (path : Text) : Decidable (Nameable path) :=
  inferInstanceAs (Decidable (∀ c ∈ path, c.val ≠ 0 ∧ (c.isSurrogate = true → 0xDC80 ≤ c.val ∧ c.val ≤ 0xDCFF)))

theorem nameable_cons {c : CodePoint} {rest : Text} : Nameable (c :: rest) ↔
    (c.val ≠ 0 ∧ (c.isSurrogate = true → 0xDC80 ≤ c.val ∧ c.val ≤ 0xDCFF)) ∧ Nameable rest :=
  List.forall_mem_cons

/-- The surrogates that stand for single bytes. -/
def standsForByte (c : CodePoint) : Bool := 0xDC80 ≤ c.val && c.val ≤ 0xDCFF

theorem exists_map_ok {ε : Type} {x : Except ε Bytes} {f : Bytes → Bytes} :
    (∃ bytes, x.map f = .ok bytes ∧ 0 ∉ bytes) ↔ ∃ bytes, x = .ok bytes ∧ 0 ∉ f bytes := by
  cases x <;> simp [Except.map]

theorem pathBytes_go (path : Text) : ∀ (pos : Nat) (rest : Text),
    (∃ bytes, pathBytes.go path standsForByte pos rest = .ok bytes ∧ 0 ∉ bytes) ↔ Nameable rest
  | _, [] => by
    constructor
    · intro _ c inside
      cases inside
    · exact fun _ => ⟨[], rfl, List.not_mem_nil⟩
  | pos, c :: rest => by
    have ih := pathBytes_go path (pos + 1) rest
    rw [nameable_cons, ← ih, pathBytes.go]
    by_cases surrogate : c.isSurrogate = true
    · rw [if_pos surrogate]
      have high := (CodePoint.isSurrogate_iff.mp surrogate).1
      by_cases stands : standsForByte c = true
      · rw [if_pos stands, exists_map_ok]
        simp only [standsForByte, Bool.and_eq_true, decide_eq_true_eq] at stands
        have byte := Utf8.byte_ne_zero (show 0 < c.val - 0xDC00 by omega) (by omega)
        simp only [List.mem_cons, byte, false_or]
        exact ⟨fun read => ⟨⟨by omega, fun _ => stands⟩, read⟩, fun both => both.2⟩
      · rw [if_neg stands]
        simp only [standsForByte, Bool.and_eq_true, decide_eq_true_eq] at stands
        constructor
        · rintro ⟨_, ⟨⟩, _⟩
        · exact fun both => absurd (both.1.2 surrogate) stands
    · rw [if_neg surrogate, exists_map_ok]
      simp only [List.mem_append, not_or, Utf8.zero_mem_encodePoint]
      constructor
      · rintro ⟨bytes, read, zero, others⟩
        exact ⟨⟨zero, fun h => absurd h surrogate⟩, bytes, read, others⟩
      · rintro ⟨⟨zero, -⟩, bytes, read, others⟩
        exact ⟨bytes, read, zero, others⟩

/-- The paths that the system has bytes for are those that it looks for in the tree. -/
theorem pathBytes_nameable {path : Text} :
    (∃ bytes, pathBytes path = .ok bytes ∧ 0 ∉ bytes) ↔ Nameable path := pathBytes_go path 0 path

variable {f : Files} {path : Text}

/-- Such a path leads to a file, or to a fault of the system's. -/
theorem read_of_nameable (nameable : Nameable path) :
    (∃ content, f.read path = .ok content) ∨ ∃ fault, f.read path = .error (.system fault) := by
  obtain ⟨bytes, spelled, whole⟩ := pathBytes_nameable.mpr nameable
  have nonzero : bytes.contains 0 = false := by simpa using whole
  simp only [read, spelled, nonzero, Bool.false_eq_true, if_false]
  split
  · exact .inl ⟨_, rfl⟩
  · exact .inr ⟨_, rfl⟩
  · exact .inr ⟨_, rfl⟩

/-- Every other path is refused with a fault of another kind. -/
theorem read_of_not_nameable (other : ¬ Nameable path) :
    ∃ fault, f.read path = .error fault ∧ fault.isOwn = false ∧ fault.isSystem = false := by
  unfold read
  cases spelled : pathBytes path with
  | error e => exact ⟨_, rfl, rfl, rfl⟩
  | ok bytes =>
    have zero : bytes.contains 0 = true := by
      by_contra whole
      exact other (pathBytes_nameable.mp ⟨bytes, spelled, by simpa using whole⟩)
    dsimp only
    rw [if_pos zero]
    exact ⟨_, rfl, rfl, rfl⟩

end Files

end ScriptHost
