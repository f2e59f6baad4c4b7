/-
Doubles and their parts. The parts of a double that is finite and not zero are canonical, and give back its bits. So a
decimal becomes the double in whose interval it lies, by way of a product or a quotient.
-/
import ScriptHost.Proofs.Decimal.Rounding

namespace ScriptHost.Decimal

open Float.Model (Format UnpackedFloat totalExponent)
open Float.Model.UnpackedFloat (Accuracy Sign accuracyOfFraction divCore roundWithAccuracy)

namespace Binary

variable {b : Binary} {v : ℚ}

/-! ## Bits -/

/-- A canonical double with a sign. -/
def Canonical.unpacked (h : b.Canonical) (s : Sign) : UnpackedFloat := .finite s b.mantissa b.exponent h.pos

/-- The double that has these parts. -/
def Canonical.float (h : b.Canonical) (s : Sign) : Float := .ofModel (.pack (h.unpacked s))

theorem toNat_packComponents (s : Sign) (exponent : BitVec 11) (mantissa : BitVec 52) :
    (UnpackedFloat.packComponents Format.binary64 s exponent mantissa).toNat =
      s.toBitVec.toNat * 2 ^ 63 + exponent.toNat * 2 ^ 52 + mantissa.toNat := by
  rw [UnpackedFloat.packComponents, BitVec.toNat_append, ← Nat.shiftLeft_add_eq_or_of_lt mantissa.isLt,
    BitVec.toNat_append, ← Nat.shiftLeft_add_eq_or_of_lt exponent.isLt, Nat.shiftLeft_eq, Nat.shiftLeft_eq]
  show (_ * 2 ^ 11 + _) * 2 ^ 52 + _ = _
  ring

/-- The components that a canonical double is packed from. -/
theorem Canonical.pack_eq (h : b.Canonical) (s : Sign) :
    UnpackedFloat.pack Format.binary64 (h.unpacked s) =
      UnpackedFloat.packComponents Format.binary64 s
        (BitVec.ofNat 11 (if b.mantissa < 2 ^ 52 then 0 else (b.exponent + 1075).toNat))
        (BitVec.ofNat 52 b.mantissa) := by
  have := h.low
  have := h.high
  have biased : (b.exponent + Format.binary64.exponentBias + Format.binary64.mantissaBitsWithoutImplicit).toNat =
      (b.exponent + 1075).toNat := by
    simp only [Format.exponentBias]
    omega
  have most : ¬ 2 ^ Format.binary64.exponentBits ≤ (b.exponent + 1075).toNat + 1 := by
    have width : 2 ^ Format.binary64.exponentBits = 2048 := rfl
    rw [width]
    omega
  have bits : Format.binary64.mantissaBits = 53 := rfl
  refine Eq.trans (if_neg (biased ▸ most)) ?_
  rw [biased, bits]
  by_cases full : b.mantissa < 2 ^ 52
  · have short : ¬ b.mantissa.log2 + 1 = 53 := by
      have := (Nat.log2_lt h.pos.ne').mpr full
      omega
    rw [if_neg short, if_pos full]
  · have long : b.mantissa.log2 + 1 = 53 := by
      have := (Nat.le_log2 h.pos.ne').mpr (Nat.not_lt.mp full)
      have := Script.Number.log2_le h.size
      omega
    rw [if_pos long, if_neg full]

/-- The bits of a canonical double as a number: its mantissa runs on into its exponent. -/
theorem Canonical.toNat_pack (h : b.Canonical) (s : Sign) :
    (UnpackedFloat.pack Format.binary64 (h.unpacked s)).toNat =
      s.toBitVec.toNat * 2 ^ 63 + (b.exponent + 1074).toNat * 2 ^ 52 + b.mantissa := by
  have := h.low
  have := h.high
  have := h.size
  rw [h.pack_eq, toNat_packComponents, BitVec.toNat_ofNat, BitVec.toNat_ofNat]
  by_cases full : b.mantissa < 2 ^ 52
  · have last := h.full full
    rw [if_pos full]
    omega
  · rw [if_neg full]
    omega

/-- The parts of a double that is finite and not zero. -/
theorem canonical_of_decode {x : Float} {negative : Bool} (decoded : decode x = .finite negative b)
    (some : b.mantissa ≠ 0) :
    b.Canonical ∧ x.toBits.toNat =
      (if negative then 1 else 0) * 2 ^ 63 + (b.exponent + 1074).toNat * 2 ^ 52 + b.mantissa := by
  have bound := x.toBits.toNat_lt
  unfold decode at decoded
  generalize x.toBits.toNat = n at decoded bound
  norm_num at decoded
  split at decoded
  · split at decoded <;> cases decoded
  · have sign : (if (n / 9223372036854775808 == 1) = true then 1 else 0) = n / 9223372036854775808 := by
      split
      all_goals simp_all
      all_goals omega
    split at decoded <;> obtain ⟨rfl, rfl⟩ := Decoded.finite.inj decoded
    all_goals
      dsimp only at some
      refine ⟨⟨?_, ?_, ?_, ?_, ?_⟩, ?_⟩ <;> try rw [sign]
      all_goals dsimp only
      all_goals omega

/-- The sign that a flag stands for. -/
def signOf (negative : Bool) : Sign := if negative then .negative else .positive

/-- A double that is finite and not zero is made of its parts. -/
theorem eq_float_of_decode {x : Float} {negative : Bool} (decoded : decode x = .finite negative b)
    (some : b.mantissa ≠ 0) :
    ∃ h : b.Canonical, x = h.float (signOf negative) := by
  obtain ⟨h, bits⟩ := canonical_of_decode decoded some
  refine ⟨h, ?_⟩
  have packed := h.toNat_pack (signOf negative)
  have same : x.toBits.toBitVec = UnpackedFloat.pack Format.binary64 (h.unpacked (signOf negative)) := by
    refine BitVec.eq_of_toNat_eq ?_
    rw [packed]
    refine Eq.trans bits ?_
    cases negative <;> rfl
  obtain ⟨⟨word, valid⟩⟩ := x
  obtain rfl : word = ⟨UnpackedFloat.pack Format.binary64 (h.unpacked (signOf negative))⟩ :=
    congrArg UInt64.ofBitVec same
  rfl

/-- The first bit is missing where the exponent has no bits. -/
theorem unpack_of_components_low {b : BitVec Format.binary64.numBits} {s : Sign} {m : ℕ} {e : ℤ} {pos : 0 < m}
    (none : UnpackedFloat.unpackExponent b = 0#11) (sign : Sign.ofBitVec (UnpackedFloat.unpackSign b) = s)
    (mantissa : (UnpackedFloat.unpackMantissa b).toNat = m)
    (exponent : ((UnpackedFloat.unpackExponent b).toNat : ℤ) -
      (Format.binary64.exponentBias + Format.binary64.mantissaBitsWithoutImplicit) + 1 = e) :
    UnpackedFloat.unpack Format.binary64 b = .finite s m e pos := by
  subst sign mantissa exponent
  have notInfinite : UnpackedFloat.unpackExponent b ≠ -1#11 := by
    rw [none]
    decide
  have some : UnpackedFloat.unpackMantissa b ≠ 0#52 := fun same => by
    rw [same] at pos
    exact absurd pos (by decide)
  exact (if_neg notInfinite).trans ((if_pos none).trans (dif_neg some))

/-- What was packed is unpacked. -/
theorem Canonical.unpack_pack (h : b.Canonical) (s : Sign) :
    (Float.Model.pack (h.unpacked s)).unpack = h.unpacked s := by
  have := h.low
  have := h.high
  have small := h.size
  have sign : Sign.ofBitVec s.toBitVec = s := by cases s <;> rfl
  by_cases full : b.mantissa < 2 ^ 52
  · have mantissa : (BitVec.ofNat 52 b.mantissa).toNat = b.mantissa := by
      rw [BitVec.toNat_ofNat]
      exact Nat.mod_eq_of_lt full
    have packed := h.pack_eq s
    rw [if_pos full] at packed
    show UnpackedFloat.unpack Format.binary64 (UnpackedFloat.pack Format.binary64 (h.unpacked s)) = _
    rw [packed]
    apply unpack_of_components_low
    · rw [UnpackedFloat.unpackExponent_packComponents]
    · rw [Script.Number.unpackSign_packComponents, sign]
    · rwa [UnpackedFloat.unpackMantissa_packComponents]
    · rw [UnpackedFloat.unpackExponent_packComponents, h.full full]
      rfl
  · have exponent : (BitVec.ofNat 11 (b.exponent + 1075).toNat).toNat = (b.exponent + 1075).toNat := by
      rw [BitVec.toNat_ofNat]
      exact Nat.mod_eq_of_lt (by omega)
    have notInfinite : BitVec.ofNat 11 (b.exponent + 1075).toNat ≠ -1#11 := fun same => by
      have := congrArg BitVec.toNat same
      rw [exponent] at this
      norm_num at this
      omega
    have notZero : BitVec.ofNat 11 (b.exponent + 1075).toNat ≠ 0#11 := fun same => by
      have := congrArg BitVec.toNat same
      rw [exponent] at this
      norm_num at this
      omega
    have whole : (1#1 ++ BitVec.ofNat 52 b.mantissa).toNat = b.mantissa := by
      have rest : (BitVec.ofNat 52 b.mantissa).toNat = b.mantissa - 2 ^ 52 := by
        rw [BitVec.toNat_ofNat]
        omega
      rw [BitVec.toNat_append, ← Nat.shiftLeft_add_eq_or_of_lt (BitVec.isLt _), rest]
      norm_num
      omega
    have packed := h.pack_eq s
    rw [if_neg full] at packed
    have biased : (((b.exponent + 1075).toNat : ℕ) : ℤ) -
        (Format.binary64.exponentBias + Format.binary64.mantissaBitsWithoutImplicit) = b.exponent := by
      simp only [Format.exponentBias]
      omega
    show UnpackedFloat.unpack Format.binary64 (UnpackedFloat.pack Format.binary64 (h.unpacked s)) = _
    rw [packed]
    apply Script.Number.unpack_of_components
    · rwa [UnpackedFloat.unpackExponent_packComponents]
    · rwa [UnpackedFloat.unpackExponent_packComponents]
    · rw [Script.Number.unpackSign_packComponents, sign]
    · refine Eq.trans ?_ whole
      rw [UnpackedFloat.unpackMantissa_packComponents]
    · rwa [UnpackedFloat.unpackExponent_packComponents, exponent]

/-- The negative of a positive double has its parts. -/
theorem Canonical.neg_float (h : b.Canonical) : -h.float .positive = h.float .negative := by
  show Float.ofModel (Float.Model.pack (Float.Model.pack (h.unpacked .positive)).unpack.neg) = _
  rw [h.unpack_pack]
  rfl

/-! ## Products and quotients -/

section Rounding

variable {m n : ℕ} {e i : ℤ}

/-- A mantissa with enough bits may be cut off. -/
theorem enough_of_size (size : 52 ≤ m.log2) : e ≤ Format.binary64.targetExponent (totalExponent m e) := by
  rw [targetExponent_eq]
  omega

/-- A product that lies in the interval of a double is rounded to it. -/
theorem mul_eq (h : b.Canonical) {pos : 0 < m} {pos' : 0 < n} (rounds : b.Rounds (m * 2 ^ e * (n * 2 ^ i)))
    (size : 52 ≤ (m * n).log2) :
    UnpackedFloat.mul Format.binary64 (.finite .positive m e pos)
        (.finite .positive n i pos') = h.unpacked .positive := by
  have value : (m * 2 ^ e * (n * 2 ^ i) : ℚ) = ((m * n : ℕ) + 0) * 2 ^ (e + i) := by
    rw [zpow_add₀ (by norm_num)]
    push_cast
    ring
  exact roundWithAccuracy_eq h rounds (a := .exact) rfl value (enough_of_size size)

theorem cuts_accuracyOfFraction (less : m < n) : Cuts (m / n) (accuracyOfFraction m n) := by
  have pos : (0 : ℚ) < n := by exact_mod_cast Nat.zero_lt_of_lt less
  unfold accuracyOfFraction
  split
  · rename_i none
    simp [Cuts, none]
  · rename_i some
    have some : (0 : ℚ) < m := by exact_mod_cast Nat.pos_of_ne_zero some
    rcases order : compare (2 * m) n with _ | _ | _
    · have : (2 : ℚ) * m < n := by exact_mod_cast Nat.compare_eq_lt.mp order
      exact ⟨div_pos some pos, by rw [div_lt_iff₀ pos]; linarith⟩
    · have : (2 : ℚ) * m = n := by exact_mod_cast Nat.compare_eq_eq.mp order
      show (m / n : ℚ) = 1 / 2
      rw [div_eq_iff pos.ne']
      linarith
    · have : (n : ℚ) < 2 * m := by exact_mod_cast Nat.compare_eq_gt.mp order
      have : (m : ℚ) < n := by exact_mod_cast less
      exact ⟨by rw [lt_div_iff₀ pos]; linarith, by rw [div_lt_iff₀ pos]; linarith⟩

/-- A quotient that lies in the interval of a double is rounded to it. -/
theorem div_eq (h : b.Canonical) {pos : 0 < m} {pos' : 0 < n} (rounds : b.Rounds (m * 2 ^ e / (n * 2 ^ i))) :
    UnpackedFloat.div Format.binary64 (.finite .positive m e pos)
      (.finite .positive n i pos') = h.unpacked .positive := by
  let place : ℤ := min (e - i) (Format.binary64.targetExponent (totalExponent m e - totalExponent n i))
  obtain ⟨k, shift⟩ : ∃ k : ℕ, e - i = place + k := ⟨(e - i - place).toNat, by omega⟩
  have amount : (e - i - place).toNat = k := by omega
  have some' : (0 : ℚ) < n := by exact_mod_cast pos'
  have whole : ((m * 2 ^ k : ℕ) : ℚ) = (m * 2 ^ k / n : ℕ) * n + (m * 2 ^ k % n : ℕ) := by
    exact_mod_cast (Nat.div_add_mod' (m * 2 ^ k) n).symm
  have value : (m * 2 ^ e / (n * 2 ^ i) : ℚ) = ((m * 2 ^ k / n : ℕ) + (m * 2 ^ k % n : ℕ) / n) * 2 ^ place := by
    have scale : (2 : ℚ) ^ e = 2 ^ place * 2 ^ k * 2 ^ i := by
      rw [← zpow_natCast, ← zpow_add₀ (by norm_num), ← zpow_add₀ (by norm_num)]
      congr 1
      omega
    have pos := two_zpow_pos i
    push_cast at whole
    rw [scale]
    field_simp
    linarith
  have cut := cuts_accuracyOfFraction (Nat.mod_lt (m * 2 ^ k) pos')
  have divided : divCore Format.binary64 m e n i =
      (m * 2 ^ k / n, place, accuracyOfFraction (m * 2 ^ k % n) n) := by
    have shifted : (e - i - min (e - i)
      (Format.binary64.targetExponent (totalExponent m e - totalExponent n i))).toNat = k := amount
    simp only [divCore, shifted, Nat.shiftLeft_eq]
    rfl
  have parts : UnpackedFloat.div Format.binary64 (.finite .positive m e pos) (.finite .positive n i pos') =
      (fun q : ℕ × ℤ × Accuracy => roundWithAccuracy Format.binary64 .positive q.1 q.2.1 q.2.2)
        (divCore Format.binary64 m e n i) := rfl
  rw [parts, divided]
  dsimp only
  refine roundWithAccuracy_eq h rounds cut value ?_
  -- either the place is the last that there is, or the quotient has as many bits as a double
  by_contra short
  rw [targetExponent_eq, not_le] at short
  have least : Format.binary64.targetExponent (totalExponent m e - totalExponent n i) =
      max ((m.log2 : ℤ) + e - n.log2 - i - 53) (-1074) := by
    rw [Script.Number.targetExponent_binary64, totalExponent, totalExponent]
    omega
  have under : (m * 2 ^ e / (n * 2 ^ i) : ℚ) < 2 ^ (52 + place) := by
    have few : ((m * 2 ^ k / n : ℕ) : ℚ) + 1 ≤ 2 ^ 52 := by
      have : m * 2 ^ k / n < 2 ^ 52 := by
        by_cases none : m * 2 ^ k / n = 0
        · rw [none]
          norm_num
        · exact (Nat.log2_lt none).mp (by omega)
      exact_mod_cast this
    rw [value, zpow_add₀ (by norm_num)]
    exact mul_lt_mul_of_pos_right (by linarith [cut.bounds.2]) (two_zpow_pos place)
  have reached : (2 : ℚ) ^ (m.log2 + e - (n.log2 + 1 + i)) < m * 2 ^ e / (n * 2 ^ i) := by
    have top := (bounds_of_cuts (m := m) (e := e) (t := 0) (a := .exact) rfl rfl).2 pos.ne'
    have bottom := (bounds_of_cuts (m := n) (e := i) (t := 0) (a := .exact) rfl rfl).1
    rw [add_zero] at top bottom
    rw [zpow_sub₀ (by norm_num)]
    exact div_lt_div₀' top bottom (lt_of_lt_of_le (two_zpow_pos _) top) (mul_pos some' (two_zpow_pos i))
  have := zpow_lt_zpow (reached.trans under)
  omega

end Rounding

end Binary

/-! ## Decimals -/

/-- A number has as many digits as tell how many powers of ten lie below it. -/
theorem digitCount_bounds {n : ℕ} (some : 0 < n) : 10 ^ (digitCount n - 1) ≤ n ∧ n < 10 ^ digitCount n := by
  have pos : 0 < digitCount n := Nat.length_toDigits_pos
  refine ⟨?_, (Nat.length_toDigits_le_iff (by norm_num) pos).mp le_rfl⟩
  by_contra less
  rcases Nat.eq_zero_or_pos (digitCount n - 1) with none | more
  · rw [none] at less
    omega
  · have := (Nat.length_toDigits_le_iff (b := 10) (by norm_num) more).mpr (Nat.not_le.mp less)
    unfold digitCount at pos this
    omega

namespace Binary

variable {b : Binary} {v : ℚ}

/-- A double is this power of ten, with all the bits that it can have. -/
def isPowerOfTen (i : ℕ) : UnpackedFloat → Bool
  | .finite .positive p e _ => 52 ≤ p.log2 && -52 ≤ e && p * 2 ^ (e + 52).toNat == 10 ^ i * 2 ^ 52
  | _ => false

theorem isPowerOfTen_table : ∀ (i : ℕ) (few : i < Float.exactlyRepresentablePowersOfTen.size),
    isPowerOfTen i Float.exactlyRepresentablePowersOfTen[i].toModel.unpack = true := by decide +kernel

theorem eq_finite_of_isPowerOfTen {i : ℕ} {x : UnpackedFloat} (h : isPowerOfTen i x = true) :
    ∃ p e pos, x = .finite .positive p e pos ∧ 52 ≤ p.log2 ∧ (p * 2 ^ e : ℚ) = 10 ^ i := by
  match x, h with
  | .finite .positive p e pos, h =>
    have parts : (52 ≤ p.log2 && -52 ≤ e && p * 2 ^ (e + 52).toNat == 10 ^ i * 2 ^ 52) = true := h
    simp only [Bool.and_eq_true, decide_eq_true_eq, beq_iff_eq] at parts
    obtain ⟨⟨size, low⟩, same⟩ := parts
    refine ⟨p, e, pos, rfl, size, ?_⟩
    have same : (p * 2 ^ (e + 52).toNat : ℚ) = 10 ^ i * 2 ^ 52 := by exact_mod_cast same
    have up : (2 : ℚ) ^ (e + 52).toNat = 2 ^ e * 2 ^ 52 := by
      rw [← zpow_natCast, Int.toNat_of_nonneg (by omega), zpow_add₀ (by norm_num)]
      norm_cast
    rw [up, ← mul_assoc] at same
    exact mul_right_cancel₀ (by norm_num) same

theorem powerOfTen_unpack {i : ℕ} (few : i < Float.exactlyRepresentablePowersOfTen.size) : ∃ p e pos,
    Float.exactlyRepresentablePowersOfTen[i].toModel.unpack = .finite .positive p e pos ∧ 52 ≤ p.log2 ∧
      (p * 2 ^ e : ℚ) = 10 ^ i :=
  eq_finite_of_isPowerOfTen (isPowerOfTen_table i few)

section Reading

variable {digits e : ℕ}

/-- A natural number that is a double, as one. -/
theorem lead_value (small : digits < 2 ^ 53) :
    ((Script.Number.lead digits : ℕ) * 2 ^ ((digits.log2 : ℤ) - 52) : ℚ) = digits := by
  have most := Script.Number.log2_le small
  rw [Script.Number.lead]
  push_cast
  rw [mul_assoc, ← zpow_natCast, ← zpow_add₀ (by norm_num)]
  have none : ((52 - digits.log2 : ℕ) : ℤ) + ((digits.log2 : ℤ) - 52) = 0 := by omega
  rw [none, zpow_zero, mul_one]

theorem unpack_toFloat (some : 0 < digits) (small : digits < 2 ^ 53) :
    digits.toUInt64.toFloat.toModel.unpack = Script.Number.unpacked digits some small := by
  have word : digits.toUInt64.toNat = digits := by
    rw [Nat.toUInt64_eq, UInt64.toNat_ofNat']
    exact Nat.mod_eq_of_lt (by omega)
  show (Float.Model.pack (UnpackedFloat.ofNat Format.binary64 digits.toUInt64.toNat)).unpack = _
  rw [word, Script.Number.unpackedOfNat some small, Script.Number.unpack_pack some small]

/-- A decimal that is a whole number and lies in the interval of a double becomes that double. -/
theorem ofScientific_up (h : b.Canonical) (some : 0 < digits) (rounds : b.Rounds (digits * 10 ^ e)) (limit : e ≤ 2048) :
    Float.ofScientific digits false e = h.float .positive := by
  unfold Float.ofScientific
  split
  · rename_i fast
    obtain ⟨small, few⟩ := fast
    obtain ⟨p, r, pos, power, size, value⟩ := powerOfTen_unpack (Nat.lt_succ_of_le few)
    have operands := congrArg₂ (UnpackedFloat.mul Format.binary64) (unpack_toFloat some small) power
    refine congrArg (Float.ofModel ∘ Float.Model.pack) (operands.trans (mul_eq h ?_ ?_))
    · rw [lead_value small, value]
      exact rounds
    · have least := (Script.Number.lead_bounds some small).1
      exact (Nat.le_log2 (by positivity)).mpr (least.trans (Nat.le_mul_of_pos_right _ pos))
  · refine congrArg (Float.ofModel ∘ Float.Model.pack) ?_
    have low : ¬ (2 ^ Format.binary64.exponentBits : ℤ) < (e : ℤ) := by
      show ¬ (2048 : ℤ) < e
      omega
    have high : ¬ (e : ℤ) < -((2 ^ Format.binary64.exponentBits : ℤ) + digits.log2) := by
      show ¬ (e : ℤ) < -(2048 + digits.log2)
      omega
    show UnpackedFloat.ofScientific Format.binary64 digits (e : ℤ) = _
    rw [UnpackedFloat.ofScientific, dif_neg some.ne', if_neg low, if_neg high, if_pos (by omega)]
    refine mul_eq h ?_ ?_
    · rw [Int.toNat_natCast, Nat.shiftLeft_eq]
      have same : (((digits * 2 ^ Format.binary64.mantissaBits : ℕ) : ℚ) * 2 ^ (-(Format.binary64.mantissaBits : ℤ)) *
          (((10 ^ e : ℕ) : ℚ) * 2 ^ (0 : ℤ))) = digits * 10 ^ e := by
        push_cast
        rw [zpow_neg, zpow_natCast, mul_one]
        field_simp
      rw [same]
      exact rounds
    · rw [Nat.shiftLeft_eq, Nat.le_log2 (by positivity)]
      have bits : Format.binary64.mantissaBits = 53 := rfl
      rw [bits]
      have : 1 ≤ 10 ^ (e : ℤ).toNat := Nat.one_le_pow _ _ (by norm_num)
      nlinarith

/-- A decimal with a fraction that lies in the interval of a double becomes that double. -/
theorem ofScientific_down (h : b.Canonical) (some : 0 < digits) (rounds : b.Rounds (digits / 10 ^ e))
    (limit : e ≤ 2048 + digits.log2) (fraction : 0 < e) : Float.ofScientific digits true e = h.float .positive := by
  unfold Float.ofScientific
  split
  · rename_i fast
    obtain ⟨small, few⟩ := fast
    obtain ⟨p, r, pos, power, size, value⟩ := powerOfTen_unpack (Nat.lt_succ_of_le few)
    have operands := congrArg₂ (UnpackedFloat.div Format.binary64) (unpack_toFloat some small) power
    refine congrArg (Float.ofModel ∘ Float.Model.pack) (operands.trans (div_eq h ?_))
    rw [lead_value small, value]
    exact rounds
  · refine congrArg (Float.ofModel ∘ Float.Model.pack) ?_
    have low : ¬ (2 ^ Format.binary64.exponentBits : ℤ) < (-e : ℤ) := by
      show ¬ (2048 : ℤ) < -e
      omega
    have high : ¬ (-e : ℤ) < -((2 ^ Format.binary64.exponentBits : ℤ) + digits.log2) := by
      show ¬ (-e : ℤ) < -(2048 + digits.log2)
      omega
    have exponent : Int.negOfNat e = -(e : ℤ) := Int.negOfNat_eq
    show UnpackedFloat.ofScientific Format.binary64 digits (Int.negOfNat e) = _
    rw [exponent, UnpackedFloat.ofScientific, dif_neg some.ne', if_neg low, if_neg high, if_neg (by omega)]
    refine div_eq h ?_
    have same : ((digits : ℚ) * 2 ^ (0 : ℤ) / (((10 ^ (- -(e : ℤ)).toNat : ℕ) : ℚ) * 2 ^ (0 : ℤ))) =
      digits / 10 ^ e := by
      rw [neg_neg, Int.toNat_natCast]
      push_cast
      rw [mul_one, mul_one]
    rw [same]
    exact rounds

/-- What lies in the interval of a double is neither too large nor too small for one. -/
theorem Rounds.size (h : b.Canonical) (rounds : b.Rounds v) : 2 ^ (-1076 : ℤ) < v ∧ v < 2 ^ (1024 : ℤ) := by
  obtain ⟨low, high⟩ := rounds.within
  have reach := b.reach_bounds.2
  have one : (1 : ℚ) ≤ b.mantissa := by exact_mod_cast h.pos
  have most : (b.mantissa : ℚ) + 1 ≤ 2 ^ 53 := by exact_mod_cast h.size
  constructor
  · calc (2 : ℚ) ^ (-1076 : ℤ) < 2 ^ (-1075 : ℤ) := zpow_lt_zpow_right₀ (by norm_num) (by norm_num)
      _ = 1 / 2 * 2 ^ (-1074 : ℤ) := by rw [one_div, ← zpow_neg_one, ← zpow_add₀ (by norm_num)]; rfl
      _ ≤ 1 / 2 * 2 ^ b.exponent := by
        have := zpow_le_zpow_right₀ (a := (2 : ℚ)) (by norm_num) h.low
        linarith
      _ ≤ (b.mantissa - b.reach) * 2 ^ b.exponent :=
        mul_le_mul_of_nonneg_right (by linarith) (two_zpow_pos _).le
      _ ≤ v := low
  · calc v ≤ (b.mantissa + 1 / 2) * 2 ^ b.exponent := high
      _ < 2 ^ 53 * 2 ^ b.exponent := mul_lt_mul_of_pos_right (by linarith) (two_zpow_pos _)
      _ ≤ 2 ^ 53 * 2 ^ (971 : ℤ) := by
        have := zpow_le_zpow_right₀ (a := (2 : ℚ)) (by norm_num) h.high
        linarith
      _ = 2 ^ (1024 : ℤ) := by rw [← zpow_natCast, ← zpow_add₀ (by norm_num)]; rfl

end Reading

/-- Powers of ten lie further out than those of eight. -/
theorem two_zpow_lt_ten {i j : ℤ} (pos : 0 < j) (le : i ≤ 3 * j) : (2 : ℚ) ^ i < 10 ^ j := by
  obtain ⟨n, rfl⟩ : ∃ n : ℕ, j = n := ⟨j.toNat, by omega⟩
  calc (2 : ℚ) ^ i ≤ 2 ^ (3 * (n : ℤ)) := zpow_le_zpow_right₀ (by norm_num) le
    _ = 8 ^ n := by rw [zpow_mul, zpow_natCast]; norm_num
    _ < 10 ^ n := pow_lt_pow_left₀ (by norm_num) (by norm_num) (by omega)
    _ = 10 ^ (n : ℤ) := (zpow_natCast _ _).symm

theorem ten_zpow_lt_two {i j : ℤ} (neg : j < 0) (le : 3 * j ≤ i) : (10 : ℚ) ^ j < 2 ^ i := by
  have less := two_zpow_lt_ten (i := -i) (j := -j) (by omega) (by omega)
  rw [zpow_neg, zpow_neg] at less
  exact (inv_lt_inv₀ (zpow_pos (by norm_num) _) (zpow_pos (by norm_num) _)).mp less

/-- A decimal that lies in the interval of a double becomes that double. -/
theorem toFloat_eq (h : b.Canonical) {digits : ℕ} {e : ℤ} (some : 0 < digits) (rounds : b.Rounds (digits * 10 ^ e)) :
    toFloat digits e = h.float .positive := by
  obtain ⟨small, large⟩ := rounds.size h
  obtain ⟨low, high⟩ := digitCount_bounds some
  have low' : (10 : ℚ) ^ ((digitCount digits - 1 : ℕ) : ℤ) ≤ digits := by
    rw [zpow_natCast]
    exact_mod_cast low
  have high' : (digits : ℚ) < 10 ^ (digitCount digits : ℤ) := by
    rw [zpow_natCast]
    exact_mod_cast high
  have pos : (0 : ℚ) < 10 ^ e := zpow_pos (by norm_num) e
  have counted : 0 < digitCount digits := Nat.length_toDigits_pos
  have notLarge : ¬ 400 < (digitCount digits : ℤ) + e := fun more => by
    have reached : (10 : ℚ) ^ (((digitCount digits - 1 : ℕ) : ℤ) + e) ≤ digits * 10 ^ e := by
      rw [zpow_add₀ (by norm_num)]
      exact mul_le_mul_of_nonneg_right low' pos.le
    have := two_zpow_lt_ten (i := 1024) (j := ((digitCount digits - 1 : ℕ) : ℤ) + e) (by omega) (by omega)
    linarith
  have notSmall : ¬ (digitCount digits : ℤ) + e < -400 := fun less => by
    have under : (digits : ℚ) * 10 ^ e < 10 ^ ((digitCount digits : ℤ) + e) := by
      rw [zpow_add₀ (by norm_num)]
      exact mul_lt_mul_of_pos_right high' pos
    have := ten_zpow_lt_two (i := -1076) (j := (digitCount digits : ℤ) + e) (by omega) (by omega)
    linarith
  rw [toFloat, if_neg some.ne', if_neg notLarge, if_neg notSmall]
  split
  · rename_i fraction
    have few : digitCount digits ≤ digits.log2 + 1 := by
      have power : 2 ^ (digitCount digits - 1) ≤ digits :=
        (Nat.pow_le_pow_left (by norm_num) _).trans low
      have := (Nat.le_log2 some.ne').mpr power
      omega
    refine ofScientific_down h some ?_ (by omega) (by omega)
    have same : (digits : ℚ) / 10 ^ (-e).toNat = digits * 10 ^ e := by
      rw [← zpow_natCast, Int.toNat_of_nonneg (by omega), zpow_neg, div_inv_eq_mul]
    rw [same]
    exact rounds
  · rename_i whole
    refine ofScientific_up h some ?_ (by omega)
    have same : (digits : ℚ) * 10 ^ e.toNat = digits * 10 ^ e := by
      rw [← zpow_natCast, Int.toNat_of_nonneg (by omega)]
    rw [same]
    exact rounds

end Binary

end ScriptHost.Decimal
