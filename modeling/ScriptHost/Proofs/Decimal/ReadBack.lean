/-
Decimals read back. What is written of a double is digits, perhaps a point with digits behind it, and perhaps an
exponent. Read again, these stand for the number that was written, and that is rounded to the double.
-/
import ScriptHost.Decimal.Read
import ScriptHost.Proofs.Decimal.Shortest

namespace ScriptHost.Decimal

open Float.Model (Format UnpackedFloat)

/-! ## Decimals taken apart -/

/-- The parts of a decimal: the digits before the point, those behind it, and an exponent with its sign. -/
structure Spelling where
  whole : Text
  fraction : Text := []
  exponent : Option (Bool × Text) := none

namespace Spelling

def fractionText (s : Spelling) : Text := if s.fraction.isEmpty then [] else "." ++ s.fraction

def exponentText (s : Spelling) : Text :=
  match s.exponent with
  | some (negative, ds) => (if negative then "e-" else "e+") ++ ds
  | none => []

def text (s : Spelling) : Text := s.whole ++ (s.fractionText ++ s.exponentText)

/-- The exponent as a number. -/
def scale (s : Spelling) : ℤ :=
  match s.exponent with
  | some (negative, ds) => if negative then -digitsValue ds else digitsValue ds
  | none => 0

/-- All digits as one number. -/
def digits (s : Spelling) : ℕ := digitsValue (s.whole ++ s.fraction)

/-- The place of the last digit. -/
def place (s : Spelling) : ℤ := s.scale - s.fraction.length

/-- The parts consist of digits, and there are some where there must be. -/
structure Proper (s : Spelling) : Prop where
  some : s.whole ≠ []
  whole : ∀ c ∈ s.whole, c.isDigit = true
  fraction : ∀ c ∈ s.fraction, c.isDigit = true
  exponent : ∀ e ∈ s.exponent, e.2 ≠ [] ∧ ∀ c ∈ e.2, c.isDigit = true

end Spelling

/-- A decimal is written in ASCII. -/
theorem Spelling.Proper.ascii {s : Spelling} (h : s.Proper) : ∀ c ∈ s.text, c.val < 0x80 := by
  have digit : ∀ c : CodePoint, c.isDigit = true → c.val < 0x80 := by
    intro c digit
    simp only [CodePoint.isDigit, Bool.and_eq_true, decide_eq_true_eq] at digit
    omega
  have marks : (∀ c ∈ Text.ofString ".", c.val < 0x80) ∧ (∀ c ∈ Text.ofString "e-", c.val < 0x80) ∧
    (∀ c ∈ Text.ofString "e+", c.val < 0x80) := by decide
  intro c inside
  rcases List.mem_append.mp inside with inside | inside
  · exact digit c (h.whole c inside)
  · rcases List.mem_append.mp inside with inside | inside
    · unfold Spelling.fractionText at inside
      split at inside
      · cases inside
      · rcases List.mem_append.mp inside with inside | inside
        · exact marks.1 c inside
        · exact digit c (h.fraction c inside)
    · unfold Spelling.exponentText at inside
      split at inside
      · rename_i negative ds exponent
        rcases List.mem_append.mp inside with inside | inside
        · cases negative
          · exact marks.2.2 c inside
          · exact marks.2.1 c inside
        · exact digit c ((h.exponent _ exponent).2 c inside)
      · cases inside

/-- A text does not go on with a decimal before it. -/
def Ends (t : Text) : Prop := ∀ c ∈ t.head?, c.isDigit = false ∧ c.is '.' = false ∧ c.is 'e' = false ∧ c.is 'E' = false

/-! ## Reading -/

section Reading

variable {t ds : Text} {s : Spelling}

/-- Digits end where something else begins. -/
theorem takeWhile_digits (digits : ∀ c ∈ ds, c.isDigit = true) (stop : ∀ c ∈ t.head?, c.isDigit = false) :
    (ds ++ t).takeWhile CodePoint.isDigit = ds := by
  rw [List.takeWhile_append_of_pos digits]
  cases t with
  | nil => simp
  | cons c t => simp [stop c rfl]

theorem exponent?_none (ends : ∀ c ∈ t.head?, c.is 'e' = false ∧ c.is 'E' = false) : exponent? t = none := by
  cases t with
  | nil => rfl
  | cons c t =>
    obtain ⟨small, large⟩ := ends c rfl
    simp [exponent?, small, large]

theorem exponent?_exponentText (proper : s.Proper) (ends : Ends t) :
    (exponent? (s.exponentText ++ t)).getD (0, s.exponentText ++ t) = (s.scale, t) := by
  unfold Spelling.exponentText Spelling.scale
  cases exponent : s.exponent with
  | none =>
    rw [List.nil_append, exponent?_none fun c head => (ends c head).2.2]
    rfl
  | some e =>
    obtain ⟨negative, ds⟩ := e
    obtain ⟨nonempty, digits⟩ := proper.exponent _ exponent
    have taken := takeWhile_digits digits fun c head => (ends c head).1
    have dropped : (ds ++ t).drop ds.length = t := List.drop_left
    have shown : ds.isEmpty = false := by rwa [List.isEmpty_eq_false_iff]
    cases negative
    · show (exponent? (CodePoint.ofChar 'e' :: CodePoint.ofChar '+' :: (ds ++ t))).getD _ = _
      simp only [exponent?]
      rw [if_pos (by decide)]
      simp only [(by decide : (CodePoint.ofChar '+').is '-' = false),
        (by decide : (CodePoint.ofChar '+').is '+' = true),
        if_true, Bool.false_eq_true, if_false, taken, shown, dropped, Option.getD_some]
    · show (exponent? (CodePoint.ofChar 'e' :: CodePoint.ofChar '-' :: (ds ++ t))).getD _ = _
      simp only [exponent?]
      rw [if_pos (by decide)]
      simp only [(by decide : (CodePoint.ofChar '-').is '-' = true), if_true, taken, shown, Bool.false_eq_true,
        if_false, dropped, Option.getD_some]

theorem head_exponentText (ends : Ends t) : ∀ c ∈ (s.exponentText ++ t).head?, c.isDigit = false ∧
    c.is '.' = false := by
  unfold Spelling.exponentText
  split
  · rename_i negative ds _
    cases negative <;> simp [Text.ofString] <;> decide
  · exact fun c head => ⟨(ends c head).1, (ends c head).2.1⟩

/-- A decimal is read up to its end, as the double nearest to it. -/
theorem scan?_text (proper : s.Proper) (ends : Ends t) : scan? (s.text ++ t) = some (toFloat s.digits s.place, t) := by
  have behind := head_exponentText (s := s) ends
  have exponent := exponent?_exponentText proper ends
  have stop : ∀ c ∈ (s.fractionText ++ (s.exponentText ++ t)).head?, c.isDigit = false := by
    unfold Spelling.fractionText
    split
    · exact fun c head => (behind c head).1
    · intro c head
      cases head
      rfl
  have nonempty : s.whole.isEmpty = false := by
    rw [List.isEmpty_eq_false_iff]
    exact proper.some
  have taken := takeWhile_digits proper.whole stop
  have dropped : (s.whole ++ (s.fractionText ++ (s.exponentText ++ t))).drop s.whole.length =
    s.fractionText ++ (s.exponentText ++ t) :=
    List.drop_left
  rw [Spelling.text, List.append_assoc, List.append_assoc, scan?]
  simp only [taken, dropped, nonempty, Bool.false_and, Bool.false_eq_true, if_false]
  generalize s.exponentText ++ t = more at behind exponent
  by_cases fraction : s.fraction = []
  · have none : s.fractionText = [] := if_pos (by rw [fraction]; rfl)
    rw [none, List.nil_append, Spelling.digits, Spelling.place, fraction]
    cases more with
    | nil => rw [exponent]
    | cons c more =>
      simp only [(behind c rfl).2, Bool.false_eq_true, if_false]
      rw [exponent]
  · have shown : s.fractionText = CodePoint.ofChar '.' :: s.fraction :=
      if_neg (by rwa [List.isEmpty_iff])
    have taken := takeWhile_digits proper.fraction fun c head => (behind c head).1
    have dropped : (s.fraction ++ more).drop s.fraction.length = more := List.drop_left
    have mark : (CodePoint.ofChar '.').is '.' = true := by decide
    rw [shown, List.cons_append]
    simp only [mark, if_true, taken, dropped]
    rw [exponent]
    rfl

end Reading

/-! ## Digits -/

section Digits

theorem foldl_digits (acc : ℕ) (t : Text) : t.foldl (fun n c => n * 10 + (c.val - 0x30)) acc =
    acc * 10 ^ t.length + digitsValue t := by
  induction t generalizing acc with
  | nil => simp [digitsValue]
  | cons c t ih =>
    have cons : digitsValue (c :: t) = (0 * 10 + (c.val - 0x30)) * 10 ^ t.length + digitsValue t := ih _
    rw [List.foldl_cons, ih, cons, List.length_cons, pow_succ]
    ring

theorem digitsValue_append (t u : Text) : digitsValue (t ++ u) = digitsValue t * 10 ^ u.length + digitsValue u := by
  rw [digitsValue, List.foldl_append, foldl_digits]
  rfl

theorem digitsValue_zeros (n : ℕ) : digitsValue (List.replicate n (CodePoint.ofChar '0')) = 0 := by
  induction n with
  | zero => rfl
  | succ n ih => exact ih

/-- The decimal digits of a number as code points. -/
def numeral (n : ℕ) : Text := (Nat.toDigits 10 n).map CodePoint.ofChar

theorem ofNat_eq_numeral (n : ℕ) : Text.ofNat n = numeral n := by
  show Text.ofString (toString n) = _
  rw [Text.ofString, Nat.toString_eq_ofList_toDigits, String.toList_ofList]
  rfl

theorem length_numeral (n : ℕ) : (numeral n).length = digitCount n := List.length_map _

theorem digitsValue_numeral (n : ℕ) : digitsValue (numeral n) = n := by
  have value : ∀ d < 10, (CodePoint.ofChar d.digitChar).val - 0x30 = d := by decide
  induction n using Nat.strong_induction_on with
  | _ n ih =>
    rw [numeral, Nat.toDigits_eq_if (by decide)]
    split
    · rename_i small
      simp [digitsValue, value n small]
    · rename_i large
      have before := ih (n / 10) (by omega)
      rw [numeral] at before
      rw [List.map_append, digitsValue_append, before, List.map_singleton]
      simp only [digitsValue, List.foldl_cons, List.foldl_nil, value (n % 10) (Nat.mod_lt n (by decide)),
        List.length_singleton]
      omega

theorem isDigit_numeral (n : ℕ) : ∀ c ∈ numeral n, c.isDigit = true := by
  intro c inside
  obtain ⟨x, among, rfl⟩ := List.mem_map.mp inside
  have digit := Nat.isDigit_of_mem_toDigits (by norm_num) (by norm_num) among
  rw [Char.isDigit_iff_toNat] at digit
  exact Bool.and_eq_true_iff.mpr ⟨decide_eq_true digit.1, decide_eq_true digit.2⟩

/-- A number that is not zero does not begin with one. -/
theorem head_numeral {n : ℕ} (some : 0 < n) : ∀ c ∈ (numeral n).head?, c.is '0' = false := by
  have first : ∀ d < 10, 0 < d → (CodePoint.ofChar d.digitChar).is '0' = false := by decide
  induction n using Nat.strong_induction_on with
  | _ n ih =>
    rw [numeral, Nat.toDigits_eq_if (by decide)]
    split
    · rename_i small
      intro c head
      cases head
      exact first n small some
    · rename_i large
      have before := ih (n / 10) (by omega) (by omega)
      rw [numeral] at before
      have nonempty : Nat.toDigits 10 (n / 10) ≠ [] := Nat.toDigits_ne_nil
      obtain ⟨x, more, same⟩ := List.exists_cons_of_ne_nil nonempty
      rw [same] at before ⊢
      exact before

/-- Exact digits are all of them. -/
theorem Digits.Exact.count_eq {d : Digits} (h : d.Exact) : digitCount d.digits = d.count := by
  have some := h.some
  refine Nat.le_antisymm ((Nat.length_toDigits_le_iff (by norm_num) some).mpr h.high) ?_
  by_contra less
  have high := (digitCount_bounds h.pos).2
  have le : 10 ^ digitCount d.digits ≤ 10 ^ (d.count - 1) := Nat.pow_le_pow_right (by norm_num) (by omega)
  have := h.low
  omega

theorem Digits.Exact.chars_eq {d : Digits} (h : d.Exact) : d.chars.map CodePoint.ofChar = numeral d.digits := by
  have none : d.count - (Nat.toDigits 10 d.digits).length = 0 := by
    have same : (Nat.toDigits 10 d.digits).length = d.count := h.count_eq
    omega
  simp only [Digits.chars, none, List.replicate_zero, List.nil_append, numeral]

end Digits

/-! ## Writing -/

/-- What is written of exact digits are the parts of a decimal that stands for the same number. -/
structure Writes (s : Spelling) (d : Digits) : Prop where
  proper : s.Proper
  some : 0 < s.digits
  value : (s.digits * 10 ^ s.place : ℚ) = d.value
  first : 1 < s.whole.length → ∀ c ∈ s.whole.head?, c.is '0' = false

theorem numeral_ne_nil (n : ℕ) : numeral n ≠ [] := by
  simp [numeral, Nat.toDigits_ne_nil]

theorem isDigit_zeros (n : ℕ) : ∀ c ∈ List.replicate n (CodePoint.ofChar '0'), c.isDigit = true := by
  intro c inside
  rw [List.eq_of_mem_replicate inside]
  rfl

section Layouts

variable {d : Digits}

theorem Digits.Exact.length_numeral (h : d.Exact) : (numeral d.digits).length = d.count :=
  (Decimal.length_numeral _).trans h.count_eq

/-- A whole number, with zeros up to the point. -/
theorem writes_whole (h : d.Exact) (whole : (d.count : ℤ) ≤ d.point) :
    Writes ⟨numeral d.digits ++ List.replicate (d.point.toNat - d.count) (CodePoint.ofChar '0'), [], none⟩ d := by
  have value : digitsValue (numeral d.digits ++ List.replicate (d.point.toNat - d.count) (CodePoint.ofChar '0') ++ []) =
      d.digits * 10 ^ (d.point.toNat - d.count) := by
    rw [List.append_nil, digitsValue_append, digitsValue_numeral, digitsValue_zeros, List.length_replicate, add_zero]
  refine ⟨⟨?_, ?_, ?_, ?_⟩, ?_, ?_, ?_⟩
  · simp [numeral_ne_nil]
  · intro c inside
    rcases List.mem_append.mp inside with inside | inside
    · exact isDigit_numeral _ c inside
    · exact isDigit_zeros _ c inside
  · simp
  · simp
  · rw [Spelling.digits, value]
    exact Nat.mul_pos h.pos (by positivity)
  · rw [Spelling.digits, value, Spelling.place, Digits.value]
    have place : d.point - d.count = ((d.point.toNat - d.count : ℕ) : ℤ) := by omega
    rw [place, zpow_natCast]
    simp [Spelling.scale]
  · intro _ c head
    obtain ⟨x, more, same⟩ := List.exists_cons_of_ne_nil (numeral_ne_nil d.digits)
    have first := head_numeral h.pos
    rw [same] at head first
    exact first c head

/-- Digits around a point. -/
theorem writes_point (h : d.Exact) {n : ℕ} (some : 0 < n) {e : Option (Bool × Text)}
    (proper : ∀ p ∈ e, p.2 ≠ [] ∧ ∀ c ∈ p.2, c.isDigit = true)
    (place : (⟨(numeral d.digits).take n, (numeral d.digits).drop n, e⟩ : Spelling).place = d.point - d.count) :
    Writes ⟨(numeral d.digits).take n, (numeral d.digits).drop n, e⟩ d := by
  have value : Spelling.digits ⟨(numeral d.digits).take n, (numeral d.digits).drop n, e⟩ = d.digits := by
    rw [Spelling.digits, List.take_append_drop, digitsValue_numeral]
  refine ⟨⟨?_, ?_, ?_, proper⟩, ?_, ?_, ?_⟩
  · simp [numeral_ne_nil, some.ne']
  · exact fun c inside => isDigit_numeral _ c (List.mem_of_mem_take inside)
  · exact fun c inside => isDigit_numeral _ c (List.mem_of_mem_drop inside)
  · rw [value]
    exact h.pos
  · rw [value, place, Digits.value]
  · intro _ c head
    rw [List.head?_take, if_neg some.ne'] at head
    exact head_numeral h.pos c head

/-- A fraction below one, with zeros behind the point. -/
theorem writes_fraction (h : d.Exact) (below : d.point ≤ 0) :
    Writes ⟨"0", List.replicate (-d.point).toNat (CodePoint.ofChar '0') ++ numeral d.digits, none⟩ d := by
  have value : Spelling.digits ⟨"0", List.replicate (-d.point).toNat (CodePoint.ofChar '0') ++ numeral d.digits,
    none⟩ = d.digits := by
    have zero : digitsValue "0" = 0 := rfl
    rw [Spelling.digits, digitsValue_append, digitsValue_append, digitsValue_zeros, digitsValue_numeral, zero]
    simp
  have zero : (Text.ofString "0" : Text) ≠ [] ∧ (∀ c ∈ Text.ofString "0", c.isDigit = true) ∧
    ¬ 1 < (Text.ofString "0").length := by
    decide
  refine ⟨⟨zero.1, zero.2.1, ?_, by simp⟩, ?_, ?_, fun long => absurd long zero.2.2⟩
  · intro c inside
    rcases List.mem_append.mp inside with inside | inside
    · exact isDigit_zeros _ c inside
    · exact isDigit_numeral _ c inside
  · rw [value]
    exact h.pos
  · rw [value, Spelling.place, Digits.value]
    have place : (Spelling.scale ⟨"0", List.replicate (-d.point).toNat (CodePoint.ofChar '0') ++ numeral d.digits,
      none⟩ : ℤ) -
        ((List.replicate (-d.point).toNat (CodePoint.ofChar '0') ++ numeral d.digits).length : ℕ) =
        d.point - d.count := by
      rw [List.length_append, List.length_replicate, h.length_numeral]
      show (0 : ℤ) - _ = _
      omega
    rw [place]

/-- What scripts write of exact digits is taken apart again. -/
theorem magnitude_writes (h : d.Exact) : ∃ s, Layout.script.magnitude d = s.text ∧ Writes s d := by
  have count := h.length_numeral
  have counted := h.some
  have chars := h.chars_eq
  unfold Layout.magnitude
  simp only [chars]
  split
  · split
    · rename_i whole
      refine ⟨_, ?_, writes_whole h whole⟩
      rw [Spelling.text]
      show _ ++ ([] : Text) = _ ++ ([] ++ [])
      simp
    · split
      · rename_i part above
        have rest : (numeral d.digits).drop d.point.toNat ≠ [] := by
          rw [ne_eq, List.drop_eq_nil_iff, count]
          omega
        refine ⟨_, ?_, writes_point (n := d.point.toNat) (e := none) h (by omega) (by simp) ?_⟩
        · rw [Spelling.text, Spelling.fractionText, if_neg (by simpa using rest)]
          simp [Spelling.exponentText]
        · rw [Spelling.place, List.length_drop, count]
          show (0 : ℤ) - _ = _
          omega
      · rename_i below
        refine ⟨_, ?_, writes_fraction h (by omega)⟩
        rw [Spelling.text, Spelling.fractionText, if_neg (by simp [numeral_ne_nil])]
        simp [Spelling.exponentText, Text.ofString]
  · have shown : ¬ (numeral (d.point - 1).natAbs) = [] := numeral_ne_nil _
    have padding : Layout.script.exponentDigits - (Text.ofNat (d.point - 1).natAbs).length = 0 := by
      rw [ofNat_eq_numeral]
      have := List.length_pos_of_ne_nil (numeral_ne_nil (d.point - 1).natAbs)
      show 1 - _ = 0
      omega
    refine ⟨_, ?_, writes_point (n := 1)
      (e := some (decide (d.point - 1 < 0), numeral (d.point - 1).natAbs)) h one_pos ?_ ?_⟩
    · rw [padding, ofNat_eq_numeral, Spelling.text]
      simp only [Spelling.exponentText, Spelling.fractionText, decide_eq_true_eq, List.replicate_zero, List.append_nil]
      rw [← List.append_assoc, ← List.append_assoc]
      congr 2
      split
      · rename_i single
        rw [List.drop_eq_nil_of_le (by omega), List.take_of_length_le (by omega)]
        simp
      · rename_i several
        have rest : (numeral d.digits).drop 1 ≠ [] := by
          rw [ne_eq, List.drop_eq_nil_iff, count]
          omega
        rw [if_neg (by simpa using rest), List.append_assoc]
    · rintro p ⟨⟩
      exact ⟨numeral_ne_nil _, isDigit_numeral _⟩
    · rw [Spelling.place, List.length_drop, count]
      simp only [Spelling.scale, digitsValue_numeral, decide_eq_true_eq]
      split <;> omega

end Layouts

/-! ## Doubles -/

section Doubles

variable {x : Float}

theorem decode_of_isFinite (finite : x.isFinite = true) : ∃ negative b, decode x = .finite negative b := by
  have field : (@UnpackedFloat.unpackExponent Format.binary64 x.toBits.toBitVec).toNat =
      x.toBits.toNat / 2 ^ 52 % 2048 := by
    simp [UnpackedFloat.unpackExponent, BitVec.extractLsb, BitVec.extractLsb', Nat.shiftRight_eq_div_pow]
  have other : x.toBits.toNat / Nat.pow 2 52 % 2048 ≠ 2047 := by
    intro all
    have ones : @UnpackedFloat.unpackExponent Format.binary64 x.toBits.toBitVec = -1#11 :=
      BitVec.eq_of_toNat_eq (field.trans all)
    have infinite : (UnpackedFloat.unpack Format.binary64 x.toBits.toBitVec).isFinite = false := by
      refine (congrArg UnpackedFloat.isFinite (if_pos ones)).trans ?_
      split <;> rfl
    exact Bool.false_ne_true (infinite.symm.trans finite)
  simp only [decode]
  rw [if_neg other]
  split
  · exact ⟨_, _, rfl⟩
  · exact ⟨_, _, rfl⟩

/-- A double as it is read back: zero has no sign. -/
def unsignedZero (x : Float) : Float := if x == 0 then 0 else x

theorem unsignedZero_of_mantissa {negative : Bool} {b : Binary} (decoded : decode x = .finite negative b)
    (none : b.mantissa = 0) : unsignedZero x = 0 := by
  have bits : x.toBits = 0 ∨ x.toBits = 0x8000000000000000 := by
    have bound := x.toBits.toNat_lt
    unfold decode at decoded
    have last : (0x8000000000000000 : UInt64).toNat = 2 ^ 63 := rfl
    rw [← UInt64.toNat_inj, ← UInt64.toNat_inj, last]
    generalize x.toBits.toNat = n at decoded bound
    norm_num at decoded bound ⊢
    split at decoded
    · split at decoded <;> cases decoded
    · split at decoded <;> obtain ⟨-, rfl⟩ := Decoded.finite.inj decoded <;> dsimp only at none <;> omega
  have same : (x == 0) = true := by
    show (UnpackedFloat.unpack Format.binary64 x.toBits.toBitVec).beq (0 : Float).toModel.unpack = true
    rcases bits with bits | bits <;> rw [bits] <;> decide +kernel
  rw [unsignedZero, same, if_pos rfl]

theorem unsignedZero_float {b : Binary} (h : b.Canonical) (negative : Bool) :
    unsignedZero (h.float (Binary.signOf negative)) = h.float (Binary.signOf negative) := by
  have other : (h.float (Binary.signOf negative) == 0) = false := by
    show ((Float.Model.pack (h.unpacked (Binary.signOf negative))).unpack).beq ((0 : Float).toModel.unpack) = false
    rw [h.unpack_pack]
    cases negative <;> rfl
  rw [unsignedZero, other, if_neg Bool.false_ne_true]

/-- What is written of a double, with its sign and the parts of its decimal, reads back as that double. -/
structure Shown (x : Float) (negative : Bool) (s : Spelling) : Prop where
  proper : s.Proper
  first : 1 < s.whole.length → ∀ c ∈ s.whole.head?, c.is '0' = false
  text : Layout.script.write x = (if negative then "-" else "") ++ s.text
  value : (if negative then -toFloat s.digits s.place else toFloat s.digits s.place) = unsignedZero x

/-- Every finite double reads back, but for the sign of zero. -/
theorem exists_shown (finite : x.isFinite = true) : ∃ negative s, Shown x negative s := by
  obtain ⟨negative, b, decoded⟩ := decode_of_isFinite finite
  by_cases none : b.mantissa = 0
  · refine ⟨false, ⟨"0", [], Option.none⟩, ⟨by decide, by decide, by decide, by decide⟩, by decide, ?_, ?_⟩
    · have shortest : b.shortest = ⟨0, 1, 1⟩ := if_pos none
      rw [Layout.write, decoded]
      simp only [shortest, none]
      cases negative <;> rfl
    · rw [unsignedZero_of_mantissa decoded none]
      rfl
  · obtain ⟨h, rfl⟩ := Binary.eq_float_of_decode decoded none
    obtain ⟨exact_, rounds⟩ := Binary.shortest_spells h
    obtain ⟨s, text, writes⟩ := magnitude_writes exact_
    have value : toFloat s.digits s.place = h.float .positive :=
      Binary.toFloat_eq h writes.some (writes.value ▸ rounds)
    refine ⟨negative, s, writes.proper, writes.first, ?_, ?_⟩
    · have signed : (b.mantissa != 0) = true := by simpa using none
      rw [Layout.write, decoded]
      simp only [signed, Bool.true_or, Bool.and_true, text]
      cases negative <;> rfl
    · rw [value, unsignedZero_float, h.neg_float]
      cases negative <;> rfl

end Doubles

end ScriptHost.Decimal
