/-
Rounding. A rational number that lies in the interval of a double rounds to that double, whatever mantissa and
exponent it is handed least with, as long as these keep enough bits. So products and quotients of doubles are rounded,
and a decimal becomes the double in whose interval it lies.
-/
import ScriptHost.Decimal.Read
import ScriptHost.Proofs.Script.Whole
import Mathlib.Tactic.FieldSimp
import Mathlib.Tactic.GCongr
import Mathlib.Tactic.Linarith
import Mathlib.Tactic.LinearCombination

namespace ScriptHost.Decimal

open Float.Model (Format UnpackedFloat totalExponent)
open Float.Model.UnpackedFloat (Accuracy ExtendedMantissa Sign accuracyOfFraction divCore roundWithAccuracy)

/-! ## Nearest numbers -/

/-- A natural number is the nearest to a rational one, of two the even one. -/
def Nearest (n : ℕ) (y : ℚ) : Prop :=
  (n - 1 / 2 < y ∧ y < n + 1 / 2) ∨ (n % 2 = 0 ∧ n - 1 / 2 ≤ y ∧ y ≤ n + 1 / 2)

theorem Nearest.within {n : ℕ} {y : ℚ} (h : Nearest n y) : n - 1 / 2 ≤ y ∧ y ≤ n + 1 / 2 := by
  rcases h with ⟨low, high⟩ | ⟨-, low, high⟩
  · exact ⟨low.le, high.le⟩
  · exact ⟨low, high⟩

/-- There is only one. -/
theorem Nearest.unique {m n : ℕ} {y : ℚ} (a : Nearest m y) (b : Nearest n y) : m = n := by
  -- two that differ are a half away each, and both even
  have apart : ∀ {m n : ℕ}, Nearest m y → Nearest n y → ¬ m < n := by
    intro m n a b less
    have next : (m : ℚ) + 1 ≤ n := by exact_mod_cast less
    rcases a with ⟨-, high⟩ | ⟨even, -, high⟩
    · linarith [b.within.1]
    · rcases b with ⟨low, -⟩ | ⟨even', low, -⟩
      · linarith
      · have same : (n : ℚ) = m + 1 := by linarith
        have same' : n = m + 1 := by exact_mod_cast same
        omega
  exact Nat.le_antisymm (Nat.not_lt.mp (apart b a)) (Nat.not_lt.mp (apart a b))

/-! ## Mantissas with what was cut off -/

/-- What was cut off is so much of a unit. -/
def Cuts (t : ℚ) : Accuracy → Prop
  | .exact => t = 0
  | .inexact .lt => 0 < t ∧ t < 1 / 2
  | .inexact .eq => t = 1 / 2
  | .inexact .gt => 1 / 2 < t ∧ t < 1

theorem Cuts.bounds {t : ℚ} {a : Accuracy} (h : Cuts t a) : 0 ≤ t ∧ t < 1 := by
  rcases a with _ | _ | _ | _ <;> simp only [Cuts] at h <;> constructor <;> linarith

/-- A mantissa stands for a number, of which nothing or something was cut off. -/
def Holds (em : ExtendedMantissa) (y : ℚ) : Prop := ∃ t, y = em.mantissa + t ∧ Cuts t em.accuracy

theorem holds_ofMantissaAndAccuracy {m : ℕ} {a : Accuracy} {t : ℚ} (cut : Cuts t a) :
    Holds (.ofMantissaAndAccuracy m a) (m + t) := by
  rcases a with _ | _ | _ | _ <;> exact ⟨t, rfl, cut⟩

theorem Holds.shiftRightOne {em : ExtendedMantissa} {y : ℚ} (h : Holds em y) : Holds em.shiftRightOne (y / 2) := by
  obtain ⟨t, rfl, cut⟩ := h
  obtain ⟨m, round, sticky⟩ := em
  -- the last bit becomes the one that tells whether it is a half
  have split : (m : ℚ) = 2 * (m / 2 : ℕ) + (m % 2 : ℕ) := by exact_mod_cast (Nat.div_add_mod m 2).symm
  refine ⟨((m % 2 : ℕ) + t) / 2, ?_, ?_⟩
  · show ((m : ℚ) + t) / 2 = ((m / 2 : ℕ) : ℚ) + _
    rw [split]
    ring
  · rcases Nat.mod_two_eq_zero_or_one m with last | last
    · have bit : (m % 2 != 0) = false := by rw [last]; rfl
      cases round <;> cases sticky <;> rw [last] <;>
        simp only [ExtendedMantissa.shiftRightOne, bit, ExtendedMantissa.accuracy, Bool.or_false, Bool.or_true, Cuts]
          at cut ⊢ <;>
        push_cast <;> first | linarith | constructor <;> linarith
    · have bit : (m % 2 != 0) = true := by rw [last]; rfl
      cases round <;> cases sticky <;> rw [last] <;>
        simp only [ExtendedMantissa.shiftRightOne, bit, ExtendedMantissa.accuracy, Bool.or_false, Bool.or_true, Cuts]
          at cut ⊢ <;>
        push_cast <;> first | linarith | constructor <;> linarith

theorem Holds.shiftRight {em : ExtendedMantissa} {y : ℚ} (h : Holds em y) (k : ℕ) : Holds (em >>> k) (y / 2 ^ k) := by
  induction k with
  | zero =>
    rw [pow_zero, div_one]
    exact h
  | succ k ih =>
    have step := ih.shiftRightOne
    rw [div_div, ← pow_succ] at step
    exact step

/-- Rounding takes the nearest. -/
theorem Holds.nearest {em : ExtendedMantissa} {y : ℚ} (h : Holds em y) : Nearest em.roundedMantissa y := by
  obtain ⟨t, rfl, cut⟩ := h
  rw [ExtendedMantissa.roundedMantissa]
  generalize em.accuracy = a at cut
  rcases a with _ | _ | _ | _ <;> simp only [Cuts] at cut <;> simp only [Accuracy.roundToNearestEven]
  · exact .inl ⟨by linarith, by linarith⟩
  · exact .inl ⟨by linarith, by linarith⟩
  · refine .inr ⟨by omega, ?_⟩
    rcases Nat.mod_two_eq_zero_or_one em.mantissa with last | last <;> rw [last, cut] <;> push_cast <;>
      constructor <;> linarith
  · refine .inl ?_
    push_cast
    constructor <;> linarith

/-! ## Intervals -/

namespace Binary

variable {b : Binary} {v : ℚ}

/-- The parts of a double that is not zero. -/
structure Canonical (b : Binary) : Prop where
  pos : 0 < b.mantissa
  size : b.mantissa < 2 ^ 53
  low : -1074 ≤ b.exponent
  high : b.exponent ≤ 971
  full : b.mantissa < 2 ^ 52 → b.exponent = -1074

/-- How far the interval of a double reaches down: half as far where the double below is nearer. -/
def reach (b : Binary) : ℚ := if b.mantissa = 2 ^ 52 ∧ b.exponent ≠ -1074 then 1 / 4 else 1 / 2

/-- A rational number lies in the interval of a double. -/
def Rounds (b : Binary) (v : ℚ) : Prop :=
  ((b.mantissa - b.reach) * 2 ^ b.exponent < v ∧ v < (b.mantissa + 1 / 2) * 2 ^ b.exponent) ∨
    (b.mantissa % 2 = 0 ∧ (b.mantissa - b.reach) * 2 ^ b.exponent ≤ v ∧ v ≤ (b.mantissa + 1 / 2) * 2 ^ b.exponent)

theorem reach_bounds (b : Binary) : 1 / 4 ≤ b.reach ∧ b.reach ≤ 1 / 2 := by
  unfold reach
  split <;> norm_num

theorem Rounds.within (h : b.Rounds v) :
    (b.mantissa - b.reach) * 2 ^ b.exponent ≤ v ∧ v ≤ (b.mantissa + 1 / 2) * 2 ^ b.exponent := by
  rcases h with ⟨low, high⟩ | ⟨-, low, high⟩
  · exact ⟨low.le, high.le⟩
  · exact ⟨low, high⟩

theorem two_zpow_pos (e : ℤ) : (0 : ℚ) < 2 ^ e := zpow_pos (by norm_num) e

/-- In units of its own last place, a number in the interval is nearest to the mantissa. -/
theorem Rounds.nearest (h : b.Rounds v) : Nearest b.mantissa (v / 2 ^ b.exponent) := by
  have pos := two_zpow_pos b.exponent
  have reach := b.reach_bounds.2
  rcases h with ⟨low, high⟩ | ⟨even, low, high⟩
  · rw [← lt_div_iff₀ pos] at low
    rw [← div_lt_iff₀ pos] at high
    exact .inl ⟨by linarith, high⟩
  · rw [← le_div_iff₀ pos] at low
    rw [← div_le_iff₀ pos] at high
    exact .inr ⟨even, by linarith, high⟩

/-! ## Rounding to a double -/

theorem targetExponent_eq (m : ℕ) (e : ℤ) :
    Format.binary64.targetExponent (totalExponent m e) = max ((m.log2 : ℤ) + e - 52) (-1074) := by
  rw [Script.Number.targetExponent_binary64, totalExponent]
  omega

theorem zpow_lt_zpow {i j : ℤ} (h : (2 : ℚ) ^ i < 2 ^ j) : i < j := (zpow_lt_zpow_iff_right₀ (by norm_num)).mp h

section Rounding

variable {m : ℕ} {e : ℤ} {a : Accuracy} {t : ℚ}

/-- What a mantissa stands for has the size of the mantissa. -/
theorem bounds_of_cuts (cut : Cuts t a) (value : v = (m + t) * 2 ^ e) :
    v < 2 ^ ((m.log2 : ℤ) + 1 + e) ∧ (m ≠ 0 → 2 ^ ((m.log2 : ℤ) + e) ≤ v) := by
  have pos := two_zpow_pos e
  obtain ⟨low, high⟩ := cut.bounds
  constructor
  · have most : (m : ℚ) + 1 ≤ 2 ^ (m.log2 + 1) := by exact_mod_cast Nat.lt_log2_self
    rw [value, zpow_add₀ (by norm_num)]
    have exponent : (2 : ℚ) ^ ((m.log2 : ℤ) + 1) = 2 ^ (m.log2 + 1) := by
      rw [← zpow_natCast]
      norm_cast
    rw [exponent]
    exact mul_lt_mul_of_pos_right (by linarith) pos
  · intro some
    have least : (2 : ℚ) ^ m.log2 ≤ m := by exact_mod_cast Nat.log2_self_le some
    rw [value, zpow_add₀ (by norm_num), zpow_natCast]
    exact mul_le_mul_of_nonneg_right (by linarith) pos.le

/-- The number is cut off where the double ends, or one place further down if it lies below a power of two. -/
theorem targetExponent_place (h : b.Canonical) (rounds : b.Rounds v) (cut : Cuts t a) (value : v = (m + t) * 2 ^ e)
    (enough : e ≤ Format.binary64.targetExponent (totalExponent m e)) :
    Format.binary64.targetExponent (totalExponent m e) = b.exponent ∨
      (Format.binary64.targetExponent (totalExponent m e) = b.exponent - 1 ∧ b.mantissa = 2 ^ 52 ∧
        b.exponent ≠ -1074 ∧ v < 2 ^ 52 * 2 ^ b.exponent) := by
  rw [targetExponent_eq] at enough ⊢
  obtain ⟨under, least⟩ := bounds_of_cuts cut value
  obtain ⟨low, high⟩ := rounds.within
  have pos := two_zpow_pos b.exponent
  have size : (b.mantissa : ℚ) + 1 ≤ 2 ^ 53 := by exact_mod_cast h.size
  obtain ⟨reach, reach'⟩ := b.reach_bounds
  have above : ∀ n : ℕ, (2 : ℚ) ^ ((n : ℤ) + b.exponent) = 2 ^ n * 2 ^ b.exponent := fun n => by
    rw [zpow_add₀ (by norm_num), zpow_natCast]
  have := h.low
  by_cases full : b.mantissa < 2 ^ 52
  · -- a double without its first bit: its place is the last that there is
    have last := h.full full
    have small : v < 2 ^ (((52 : ℕ) : ℤ) + b.exponent) := by
      rw [above]
      have le : (b.mantissa : ℚ) + 1 ≤ 2 ^ 52 := by exact_mod_cast full
      exact lt_of_le_of_lt high (mul_lt_mul_of_pos_right (by linarith) pos)
    by_cases none : m = 0
    · subst none
      norm_num at enough ⊢
      omega
    · have := zpow_lt_zpow (lt_of_le_of_lt (least none) small)
      omega
  · have normal : (2 : ℚ) ^ 52 ≤ b.mantissa := by exact_mod_cast Nat.not_lt.mp full
    have small : v < 2 ^ (((53 : ℕ) : ℤ) + b.exponent) := by
      rw [above]
      exact lt_of_le_of_lt high (mul_lt_mul_of_pos_right (by linarith) pos)
    have large : 2 ^ (((51 : ℕ) : ℤ) + b.exponent) < v := by
      rw [above]
      exact lt_of_lt_of_le (mul_lt_mul_of_pos_right (by linarith) pos) low
    have up := zpow_lt_zpow (large.trans under)
    have down : (m.log2 : ℤ) + e - 52 ≤ b.exponent := by
      by_cases none : m = 0
      · subst none
        norm_num at enough ⊢
        omega
      · have := zpow_lt_zpow (lt_of_le_of_lt (least none) small)
        omega
    by_cases reached : 2 ^ (((52 : ℕ) : ℤ) + b.exponent) ≤ v
    · have := zpow_lt_zpow (lt_of_le_of_lt reached under)
      omega
    · rw [above, not_le] at reached
      by_cases last : b.exponent = -1074
      · omega
      · have power : b.mantissa = 2 ^ 52 := by
          by_contra other
          have more : (2 : ℚ) ^ 52 + 1 ≤ b.mantissa := by
            have := lt_of_le_of_ne (Nat.not_lt.mp full) (Ne.symm other)
            exact_mod_cast this
          have : (2 : ℚ) ^ 52 * 2 ^ b.exponent < v :=
            lt_of_lt_of_le (mul_lt_mul_of_pos_right (by linarith) pos) low
          linarith
        have below : (m.log2 : ℤ) + e - 52 < b.exponent := by
          by_cases none : m = 0
          · subst none
            norm_num at enough ⊢
            omega
          · have small : v < 2 ^ (((52 : ℕ) : ℤ) + b.exponent) := by
              rw [above]
              exact reached
            have := zpow_lt_zpow (lt_of_le_of_lt (least none) small)
            omega
        exact .inr ⟨by omega, power, last, reached⟩

/-- Cutting a number off at its place leaves a mantissa that stands for it. -/
theorem holds_shiftToTargetExponent (cut : Cuts t a) (value : v = (m + t) * 2 ^ e)
    (enough : e ≤ Format.binary64.targetExponent (totalExponent m e)) :
    ∃ em, UnpackedFloat.shiftToTargetExponent Format.binary64 m e a =
        (em, Format.binary64.targetExponent (totalExponent m e)) ∧
      Holds em (v / 2 ^ Format.binary64.targetExponent (totalExponent m e)) := by
  generalize target : Format.binary64.targetExponent (totalExponent m e) = place at enough
  obtain ⟨k, rfl⟩ : ∃ k : ℕ, place = e + k := ⟨(place - e).toNat, by omega⟩
  have amount : (e + k - e).toNat = k := by omega
  refine ⟨ExtendedMantissa.ofMantissaAndAccuracy m a >>> k, ?_, ?_⟩
  · simp only [UnpackedFloat.shiftToTargetExponent, UnpackedFloat.shiftToExponent, target, amount]
  · have held := (holds_ofMantissaAndAccuracy (m := m) cut).shiftRight k
    have same : v / 2 ^ (e + (k : ℤ)) = (m + t) / 2 ^ k := by
      rw [value, zpow_add₀ (by norm_num), zpow_natCast]
      field_simp
    rwa [same]

/-- A mantissa of a double is not moved. -/
theorem shiftToTargetExponent_canonical (h : b.Canonical) :
    UnpackedFloat.shiftToTargetExponent Format.binary64 b.mantissa b.exponent .exact =
      (⟨b.mantissa, false, false⟩, b.exponent) := by
  have target : Format.binary64.targetExponent (totalExponent b.mantissa b.exponent) = b.exponent := by
    rw [targetExponent_eq]
    have := h.low
    have most : b.mantissa.log2 ≤ 52 := Script.Number.log2_le h.size
    by_cases full : b.mantissa < 2 ^ 52
    · have := h.full full
      omega
    · have least : 52 ≤ b.mantissa.log2 := (Nat.le_log2 h.pos.ne').mpr (Nat.not_lt.mp full)
      omega
  simp only [UnpackedFloat.shiftToTargetExponent, UnpackedFloat.shiftToExponent, target, sub_self, Int.toNat_zero,
    Nat.cast_zero, add_zero]
  rfl

/-- Where rounding reaches a power of two, one more place is cut off. -/
theorem shiftToTargetExponent_carry (low : -1074 ≤ e) :
    UnpackedFloat.shiftToTargetExponent Format.binary64 (2 ^ 53) (e - 1) .exact = (⟨2 ^ 52, false, false⟩, e) := by
  have target : Format.binary64.targetExponent (totalExponent (2 ^ 53) (e - 1)) = e := by
    rw [targetExponent_eq, Nat.log2_two_pow]
    omega
  have amount : (e - (e - 1)).toNat = 1 := by omega
  simp only [UnpackedFloat.shiftToTargetExponent, UnpackedFloat.shiftToExponent, target, amount]
  exact Prod.ext rfl (by simp)

/-- A number in the interval of a double is rounded to that double. -/
theorem roundWithAccuracy_eq (h : b.Canonical) (rounds : b.Rounds v) (cut : Cuts t a) (value : v = (m + t) * 2 ^ e)
    (enough : e ≤ Format.binary64.targetExponent (totalExponent m e)) :
    roundWithAccuracy Format.binary64 .positive m e a = .finite .positive b.mantissa b.exponent h.pos := by
  obtain ⟨em, shifted, held⟩ := holds_shiftToTargetExponent cut value enough
  rcases targetExponent_place h rounds cut value enough with place | ⟨place, power, last, below⟩
  · rw [place] at shifted held
    have rounded : em.roundedMantissa = b.mantissa := held.nearest.unique rounds.nearest
    have again := shiftToTargetExponent_canonical h
    rw [← rounded] at again
    exact Script.Number.roundWithAccuracy_of_shifts shifted again rounded h.pos
  · rw [place] at shifted held
    have pos := two_zpow_pos b.exponent
    have half : (2 : ℚ) ^ (b.exponent - 1) = 2 ^ b.exponent / 2 := by rw [zpow_sub_one₀ (by norm_num)]; ring
    have reach : b.reach = 1 / 4 := if_pos ⟨power, last⟩
    have near : Nearest (2 ^ 53) (v / 2 ^ (b.exponent - 1)) := by
      have low := rounds.within.1
      rw [reach, power] at low
      refine .inr ⟨by norm_num, ?_, ?_⟩
      · rw [half, le_div_iff₀ (by linarith)]
        push_cast at low ⊢
        linarith
      · rw [half, div_le_iff₀ (by linarith)]
        push_cast
        linarith
    have rounded : em.roundedMantissa = 2 ^ 53 := held.nearest.unique near
    have again := shiftToTargetExponent_carry h.low
    rw [← rounded] at again
    exact Script.Number.roundWithAccuracy_of_shifts shifted again power.symm h.pos

end Rounding

end Binary

end ScriptHost.Decimal
