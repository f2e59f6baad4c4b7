/-
Whole numbers as doubles. A natural number below 2^53 is a double without rounding: its 53 leading bits
are the mantissa, and what was moved up comes down again when it is read. So lengths and places of lists,
which are below 2^32, come back as they are.
-/
import ScriptHost.Script.Convert
import Mathlib.Tactic.NormNum
import Mathlib.Tactic.Positivity
import Mathlib.Tactic.Ring

namespace ScriptHost.Script

namespace Number

open Float.Model (Format UnpackedFloat totalExponent)
open Float.Model.UnpackedFloat (ExtendedMantissa Sign)

/-! ## Mantissas -/

/-- A number moved up until it has 53 bits. -/
def lead (n : Nat) : Nat := n * 2 ^ (52 - n.log2)

variable {n : Nat}

theorem log2_le (small : n < 2 ^ 53) : n.log2 ≤ 52 := by
  rcases Nat.eq_zero_or_pos n with rfl | pos
  · simp
  · exact Nat.le_of_lt_succ ((Nat.log2_lt pos.ne').mpr small)

/-- What is moved up has 53 bits. -/
theorem lead_bounds (pos : 0 < n) (small : n < 2 ^ 53) : 2 ^ 52 ≤ lead n ∧ lead n < 2 ^ 53 := by
  have le := log2_le small
  have low : 2 ^ n.log2 ≤ n := Nat.log2_self_le pos.ne'
  have high : n < 2 ^ (n.log2 + 1) := Nat.lt_log2_self
  have split : 2 ^ n.log2 * 2 ^ (52 - n.log2) = 2 ^ 52 := by rw [← pow_add]; congr 1; omega
  constructor
  · rw [← split]
    exact Nat.mul_le_mul_right _ low
  · have up : 2 ^ (n.log2 + 1) * 2 ^ (52 - n.log2) = 2 ^ 53 := by rw [← pow_add]; congr 1; omega
    rw [← up]
    exact Nat.mul_lt_mul_of_pos_right high (by positivity)

theorem log2_lead (pos : 0 < n) (small : n < 2 ^ 53) : (lead n).log2 = 52 := by
  obtain ⟨low, high⟩ := lead_bounds pos small
  have some_pos : lead n ≠ 0 := by omega
  exact (Nat.log2_eq_iff some_pos).mpr ⟨low, high⟩

theorem lead_pos (pos : 0 < n) (small : n < 2 ^ 53) : 0 < lead n :=
  Nat.lt_of_lt_of_le (by norm_num) (lead_bounds pos small).1

/-- A positive natural number as sign, mantissa and exponent. -/
def unpacked (n : Nat) (pos : 0 < n) (small : n < 2 ^ 53) : UnpackedFloat :=
  .finite .positive (lead n) (n.log2 - 52) (lead_pos pos small)

/-! ## Rounding -/

theorem targetExponent_binary64 (x : Int) : Format.binary64.targetExponent x = max (x - 53) (-1074) := rfl

/-- The target of rounding is the exponent with which 53 bits remain, unless that is too small. -/
theorem targetExponent_eq {mantissa : Nat} {exponent : Int} (le : -1074 ≤ (mantissa.log2 : Int) + exponent - 52) :
    Format.binary64.targetExponent (totalExponent mantissa exponent) = mantissa.log2 + exponent - 52 := by
  rw [targetExponent_binary64, totalExponent]
  omega

/-- What has 53 bits is not shifted. -/
theorem shiftToTargetExponent_lead {mantissa : Nat} {exponent : Int} (bits : mantissa.log2 = 52)
    (le : -1074 ≤ exponent) :
    UnpackedFloat.shiftToTargetExponent Format.binary64 mantissa exponent .exact =
      (⟨mantissa, false, false⟩, exponent) := by
  have target : Format.binary64.targetExponent (totalExponent mantissa exponent) = exponent := by
    rw [targetExponent_eq (by omega)]
    omega
  simp only [UnpackedFloat.shiftToTargetExponent, UnpackedFloat.shiftToExponent, target,
    sub_self, Int.toNat_zero, Nat.cast_zero, add_zero]
  rfl

/-- Moving down as far as was moved up loses nothing. -/
theorem repeat_shiftRightOne (m : Nat) : ∀ k, Nat.repeat ExtendedMantissa.shiftRightOne k ⟨m * 2 ^ k, false, false⟩ =
    ⟨m, false, false⟩ := by
  intro k
  induction k generalizing m with
  | zero => simp [Nat.repeat]
  | succ k ih =>
    have step : m * 2 ^ (k + 1) = (m * 2) * 2 ^ k := by rw [pow_succ]; ring
    rw [Nat.repeat, step, ih (m * 2)]
    simp [ExtendedMantissa.shiftRightOne]

/-- Rounding shifts twice, since the first time may carry past the bits that there are. -/
theorem roundWithAccuracy_of_shifts {spec : Format} {s : Sign} {m k : Nat} {e e' e'' : Int}
    {a : UnpackedFloat.Accuracy} {em em' : ExtendedMantissa}
    (shifted : UnpackedFloat.shiftToTargetExponent spec m e a = (em, e'))
    (again : UnpackedFloat.shiftToTargetExponent spec em.roundedMantissa e' .exact = (em', e''))
    (whole : em'.mantissa = k) (pos : 0 < k) :
    UnpackedFloat.roundWithAccuracy spec s m e a = .finite s k e'' pos := by
  subst whole
  unfold UnpackedFloat.roundWithAccuracy
  rw [shifted]
  dsimp only
  rw [again]
  exact dif_neg pos.ne'

/-- What was moved up and has 53 bits comes down to them, and nothing is rounded. -/
theorem roundWithAccuracy_lead {mantissa : Nat} {exponent : Int} (bits : mantissa.log2 = 52)
    (le : -1074 ≤ exponent) (pos : 0 < mantissa) (k : Nat) :
    UnpackedFloat.roundWithAccuracy Format.binary64 .positive (mantissa * 2 ^ k) (exponent - k) .exact =
      .finite .positive mantissa exponent pos := by
  have size : (mantissa * 2 ^ k).log2 = 52 + k := by
    have low : 2 ^ 52 ≤ mantissa := bits ▸ Nat.log2_self_le pos.ne'
    have high : mantissa < 2 ^ 53 := (Nat.log2_lt pos.ne').mp (by omega)
    refine (Nat.log2_eq_iff (by positivity)).mpr ⟨?_, ?_⟩
    · rw [pow_add]
      exact Nat.mul_le_mul_right _ low
    · rw [show 52 + k + 1 = 53 + k by omega, pow_add]
      exact Nat.mul_lt_mul_of_pos_right high (by positivity)
  have target : Format.binary64.targetExponent (totalExponent (mantissa * 2 ^ k) (exponent - k)) = exponent := by
    rw [targetExponent_eq (by rw [size]; push_cast; omega), size]
    push_cast
    omega
  have shifted : UnpackedFloat.shiftToTargetExponent Format.binary64 (mantissa * 2 ^ k) (exponent - k)
      .exact = (⟨mantissa, false, false⟩, exponent) := by
    have amount : (exponent - (exponent - k)).toNat = k := by omega
    simp only [UnpackedFloat.shiftToTargetExponent, UnpackedFloat.shiftToExponent, target,
      amount, sub_add_cancel]
    exact congrArg (·, exponent) (repeat_shiftRightOne mantissa k)
  exact roundWithAccuracy_of_shifts shifted (shiftToTargetExponent_lead bits le) rfl pos

/-- A positive natural number below 2^53 is not rounded. -/
theorem unpackedOfNat (pos : 0 < n) (small : n < 2 ^ 53) :
    UnpackedFloat.ofNat Format.binary64 n = unpacked n pos small := by
  have le := log2_le small
  have target : Format.binary64.targetExponent (totalExponent n 0) = n.log2 - 52 := by
    rw [targetExponent_eq (by omega), add_zero]
  have positive : compare (n : Int) 0 = .gt := by
    rw [compare_gt_iff_gt]
    exact_mod_cast pos
  have amount : (0 - ((n.log2 : Int) - 52)).toNat = 52 - n.log2 := by omega
  have exponent : (0 : Int) - ((52 - n.log2 : Nat) : Int) = n.log2 - 52 := by omega
  have low : -1074 ≤ (n.log2 : Int) - 52 := by omega
  have kept := roundWithAccuracy_lead (log2_lead pos small) low (lead_pos pos small) 0
  rw [pow_zero, mul_one, Nat.cast_zero, sub_zero] at kept
  simp only [UnpackedFloat.ofNat, UnpackedFloat.ofInt,
    UnpackedFloat.normalize, positive, UnpackedFloat.round, Int.toNat_natCast, target,
    UnpackedFloat.decreaseExponent, amount, exponent, Nat.shiftLeft_eq]
  exact kept

/-! ## Bits -/

/-- The bits of a positive natural number: its exponent, and its mantissa without the first bit. -/
theorem pack_unpacked (pos : 0 < n) (small : n < 2 ^ 53) :
    UnpackedFloat.pack Format.binary64 (unpacked n pos small) =
      UnpackedFloat.packComponents Format.binary64 .positive (BitVec.ofNat 11 (n.log2 + 1023))
        (BitVec.ofNat 52 (lead n)) := by
  have le := log2_le small
  have biased : ((n.log2 : Int) - 52 + Format.binary64.exponentBias +
    Format.binary64.mantissaBitsWithoutImplicit).toNat =
      n.log2 + 1023 := by
    simp only [Format.exponentBias]
    omega
  have most : ¬ 2 ^ Format.binary64.exponentBits ≤ n.log2 + 1023 + 1 := by
    have width : 2 ^ Format.binary64.exponentBits = 2048 := rfl
    rw [width]
    omega
  have bits : (lead n).log2 + 1 = Format.binary64.mantissaBits := congrArg (· + 1) (log2_lead pos small)
  rw [← biased] at most ⊢
  exact (if_neg most).trans (if_pos bits)

theorem unpackSign_packComponents {spec : Format} {sign : Sign} {exponent : BitVec spec.exponentBits}
    {mantissa : BitVec spec.mantissaBitsWithoutImplicit} :
    UnpackedFloat.unpackSign
      (UnpackedFloat.packComponents spec sign exponent mantissa) = sign.toBitVec := by
  unfold UnpackedFloat.unpackSign
  ext i hi
  obtain rfl : i = 0 := by omega
  simp [UnpackedFloat.packComponents, BitVec.getLsbD_append, BitVec.getLsbD_eq_getElem, BitVec.getElem_append]

/-- What is unpacked has its first bit hidden, unless all bits of the exponent are alike. -/
theorem unpack_of_components {b : BitVec Format.binary64.numBits} {s : Sign} {m : Nat} {e : Int} {pos : 0 < m}
    (notInfinite : UnpackedFloat.unpackExponent b ≠ -1#11) (notZero : UnpackedFloat.unpackExponent b ≠ 0#11)
    (sign : Sign.ofBitVec (UnpackedFloat.unpackSign b) = s)
    (whole : (1#1 ++ UnpackedFloat.unpackMantissa b).toNat = m)
    (exponent : ((UnpackedFloat.unpackExponent b).toNat : Int) -
      (Format.binary64.exponentBias + Format.binary64.mantissaBitsWithoutImplicit) = e) :
    UnpackedFloat.unpack Format.binary64 b = .finite s m e pos := by
  subst sign whole exponent
  exact (if_neg notInfinite).trans (if_neg notZero)

theorem toNat_exponent (small : n < 2 ^ 53) : (BitVec.ofNat 11 (n.log2 + 1023)).toNat = n.log2 + 1023 := by
  have le := log2_le small
  rw [BitVec.toNat_ofNat]
  exact Nat.mod_eq_of_lt (by norm_num; omega)

theorem toNat_mantissa (pos : 0 < n) (small : n < 2 ^ 53) :
    (BitVec.ofNat 52 (lead n)).toNat = lead n - 2 ^ 52 := by
  obtain ⟨low, high⟩ := lead_bounds pos small
  rw [BitVec.toNat_ofNat, Nat.mod_eq_sub_mod low]
  exact Nat.mod_eq_of_lt (by omega)

/-- The bits of a positive whole number are taken apart into what they were made of. -/
theorem unpack_pack (pos : 0 < n) (small : n < 2 ^ 53) :
    (Float.Model.pack (unpacked n pos small)).unpack = unpacked n pos small := by
  have exponent := toNat_exponent small
  have le := log2_le small
  have notInfinite : BitVec.ofNat 11 (n.log2 + 1023) ≠ -1#11 := fun same => by
    have := congrArg BitVec.toNat same
    rw [exponent] at this
    norm_num at this
    omega
  have notZero : BitVec.ofNat 11 (n.log2 + 1023) ≠ 0#11 := fun same => by
    have := congrArg BitVec.toNat same
    rw [exponent] at this
    norm_num at this
  have whole : (1#1 ++ BitVec.ofNat 52 (lead n)).toNat = lead n := by
    rw [BitVec.toNat_append, toNat_mantissa pos small, ← Nat.shiftLeft_add_eq_or_of_lt]
    · have := (lead_bounds pos small).1
      norm_num
      omega
    · have := (lead_bounds pos small).2
      omega
  have biased : ((n.log2 + 1023 : Nat) : Int) -
      (Format.binary64.exponentBias + Format.binary64.mantissaBitsWithoutImplicit) = n.log2 - 52 := by
    simp only [Format.exponentBias]
    omega
  show UnpackedFloat.unpack Format.binary64 (UnpackedFloat.pack Format.binary64 (unpacked n pos small)) = _
  rw [pack_unpacked]
  apply unpack_of_components
  · rwa [UnpackedFloat.unpackExponent_packComponents]
  · rwa [UnpackedFloat.unpackExponent_packComponents]
  · rw [unpackSign_packComponents]
    rfl
  · refine Eq.trans ?_ whole
    rw [UnpackedFloat.unpackMantissa_packComponents]
  · rwa [UnpackedFloat.unpackExponent_packComponents, exponent]

/-! ## Natural numbers as doubles -/

/-- The double of a positive natural number. -/
theorem toModel_ofNat (pos : 0 < n) (small : n < 2 ^ 53) :
    (Float.ofNat n).toModel = .pack (unpacked n pos small) := by
  have word : n.toUInt64.toNat = n := by
    rw [Nat.toUInt64_eq, UInt64.toNat_ofNat']
    exact Nat.mod_eq_of_lt (by omega)
  have one : Float.exactlyRepresentablePowersOfTen[0] = Float.ofBits 4607182418800017408 := rfl
  have one_unpacked : (Float.ofBits 4607182418800017408).toModel.unpack =
      .finite .positive (2 ^ 52) (-52) (by norm_num) := rfl
  have product : Float.ofNat n = n.toUInt64.toFloat * Float.exactlyRepresentablePowersOfTen[0] := by
    show Float.ofScientific n false 0 = _
    rw [Float.ofScientific, dif_pos ⟨small, by omega⟩]
    rfl
  rw [product, one]
  show Float.Model.mul (Float.Model.pack (UnpackedFloat.ofNat Format.binary64 n.toUInt64.toNat)) _ = _
  rw [Float.Model.mul, word, unpackedOfNat pos small, unpack_pack, one_unpacked]
  refine congrArg Float.Model.pack ?_
  exact roundWithAccuracy_lead (log2_lead pos small) (by omega) (lead_pos pos small) 52

/-- Words of 32 bits become the doubles of their numbers, -/
theorem toFloat_uint32 (pos : 0 < n) (small : n < 2 ^ 32) : (UInt32.ofNat n).toFloat = Float.ofNat n := by
  have word : (UInt32.ofNat n).toNat = n := by
    rw [UInt32.toNat_ofNat']
    exact Nat.mod_eq_of_lt (by omega)
  have model : (UInt32.ofNat n).toFloat.toModel = (Float.ofNat n).toModel := by
    rw [toModel_ofNat pos (by omega)]
    show Float.Model.pack (UnpackedFloat.ofNat Format.binary64 (UInt32.ofNat n).toNat) = _
    rw [word, unpackedOfNat pos (by omega)]
  exact congrArg Float.ofModel model

/-- and these become the words again. -/
theorem toUInt32_ofNat (pos : 0 < n) (small : n < 2 ^ 32) : (Float.ofNat n).toUInt32 = UInt32.ofNat n := by
  have le := log2_le (n := n) (by omega)
  have down : UnpackedFloat.roundToInt .positive (lead n) (n.log2 - 52) = n := by
    have up : ((n.log2 : Int) - 52).toNat = 0 := by omega
    have amount : (0 - ((n.log2 : Int) - 52)).toNat = 52 - n.log2 := by omega
    simp only [UnpackedFloat.roundToInt, UnpackedFloat.decreaseExponent, sub_zero, up,
      UnpackedFloat.shiftToExponent, Nat.shiftLeft_zero, Nat.cast_zero, amount]
    exact congrArg (fun m : ExtendedMantissa => (m.mantissa : Int)) (repeat_shiftRightOne n (52 - n.log2))
  show ((Float.ofNat n).toModel.unpack).toUInt32 = _
  rw [toModel_ofNat pos (by omega), unpack_pack]
  show UInt32.ofNatClamp (UnpackedFloat.roundToInt .positive (lead n) (n.log2 - 52)).toNat = _
  rw [down, Int.toNat_natCast]
  have within : n < UInt32.size := small
  rw [UInt32.ofNatClamp, dif_pos within, UInt32.ofNatLT_eq_ofNat]

theorem beq_ofNat (pos : 0 < n) (small : n < 2 ^ 53) : (Float.ofNat n == Float.ofNat n) = true := by
  show ((Float.ofNat n).toModel.unpack).beq ((Float.ofNat n).toModel.unpack) = true
  rw [toModel_ofNat pos small, unpack_pack]
  show (some ((compare ((n.log2 : Int) - 52) (n.log2 - 52)).then (compare (lead n) (lead n))) == some .eq) = true
  simp

/-- A natural number below 2^32 comes back as it is. -/
theorem toNat32?_ofNat (small : n < 2 ^ 32) : toNat32? (Float.ofNat n) = some n := by
  rcases Nat.eq_zero_or_pos n with rfl | pos
  · rfl
  · have word : (UInt32.ofNat n).toNat = n := by
      rw [UInt32.toNat_ofNat']
      exact Nat.mod_eq_of_lt (by omega)
    rw [toNat32?, toUInt32_ofNat pos small, toFloat_uint32 pos small, beq_ofNat pos (by omega), word]
    rfl

/-- The bits of the double, as a number. -/
theorem toBits_ofNat (pos : 0 < n) (small : n < 2 ^ 53) :
    (Float.ofNat n).toBits.toNat = (n.log2 + 1023) * 2 ^ 52 + (lead n - 2 ^ 52) := by
  have exponent := toNat_exponent small
  have mantissa := toNat_mantissa pos small
  show ((Float.ofNat n).toModel.toBits).toNat = _
  rw [toModel_ofNat pos small]
  show (UnpackedFloat.pack Format.binary64 (unpacked n pos small)).toNat = _
  have fits : lead n - 2 ^ 52 < 2 ^ 52 := by
    have := (lead_bounds pos small).2
    omega
  rw [pack_unpacked, UnpackedFloat.packComponents, BitVec.toNat_append, mantissa,
    ← Nat.shiftLeft_add_eq_or_of_lt fits, BitVec.toNat_append, exponent, Nat.shiftLeft_eq]
  simp [Sign.toBitVec]

/-- As mantissa and exponent, the double is what was moved up. -/
theorem decode_ofNat (pos : 0 < n) (small : n < 2 ^ 53) :
    Decimal.decode (Float.ofNat n) = .finite false ⟨lead n, (n.log2 : Int) - 52⟩ := by
  obtain ⟨low, high⟩ := lead_bounds pos small
  have le := log2_le small
  have bits := toBits_ofNat pos small
  have sign : (Float.ofNat n).toBits.toNat / Nat.pow 2 63 = 0 := by
    rw [bits]
    norm_num
    omega
  have exponent : (Float.ofNat n).toBits.toNat / Nat.pow 2 52 % 2048 = n.log2 + 1023 := by
    rw [bits]
    norm_num
    omega
  have fraction : (Float.ofNat n).toBits.toNat % Nat.pow 2 52 = lead n - 2 ^ 52 := by
    rw [bits]
    norm_num
    omega
  have mantissa : Nat.pow 2 52 + (lead n - 2 ^ 52) = lead n := by
    norm_num
    omega
  have scale : ((n.log2 + 1023 : Nat) : Int) - 1075 = n.log2 - 52 := by omega
  simp only [Decimal.decode, sign, exponent, fraction, mantissa, scale]
  rw [if_neg (by omega), if_neg (by omega)]
  rfl

/-- A natural number below 2^53 is the whole part of its double. -/
theorem truncate_ofNat (small : n < 2 ^ 53) : truncate (Float.ofNat n) = n := by
  rcases Nat.eq_zero_or_pos n with rfl | pos
  · decide +kernel
  · have le := log2_le small
    have whole : truncate (Float.ofNat n) =
      (if 0 ≤ (n.log2 : Int) - 52 then lead n * Nat.pow 2 ((n.log2 : Int) - 52).toNat
        else lead n / Nat.pow 2 (-((n.log2 : Int) - 52)).toNat : Nat) := by
      rw [truncate, decode_ofNat pos small]
      rfl
    rw [whole]
    split
    · have all : n.log2 = 52 := by omega
      simp [lead, all]
    · have amount : (-((n.log2 : Int) - 52)).toNat = 52 - n.log2 := by omega
      rw [amount, lead]
      exact congrArg Nat.cast (Nat.mul_div_cancel n (by positivity))

theorem lt_ofNat (pos : 0 < n) (small : n < 2 ^ 53) : (0 : Float) < Float.ofNat n := by
  have less : ((0 : Float).toModel.unpack).lt ((Float.ofNat n).toModel.unpack) = true := by
    rw [toModel_ofNat pos small, unpack_pack]
    rfl
  exact decide_eq_true less

theorem ofNat_ne_infinity (pos : 0 < n) (small : n < 2 ^ 53) : (Float.ofNat n == infinity) = false := by
  show ((Float.ofNat n).toModel.unpack).beq (infinity.toModel.unpack) = false
  rw [toModel_ofNat pos small, unpack_pack]
  rfl

end Number

/-- The length of a list comes back as it is. -/
theorem Engine.toLength_ofNat {e : Engine} {m : Machine} {n : Nat} (small : n < 2 ^ 53) :
    e.toLength (.number (Float.ofNat n)) m = .value n m := by
  rcases Nat.eq_zero_or_pos n with rfl | pos
  · rfl
  · have cut : min n 0x1FFFFFFFFFFFFF = n := by omega
    simp only [toLength, toNumber]
    show Result.value _ m = _
    rw [if_pos (Number.lt_ofNat pos small), Number.ofNat_ne_infinity pos small, Number.truncate_ofNat small]
    simp [cut]

end ScriptHost.Script
