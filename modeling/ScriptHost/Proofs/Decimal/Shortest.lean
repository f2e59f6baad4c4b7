/-
Shortest decimals. A hit of the search lies in the interval of the double, whose ends are compared as natural numbers.
Seventeen digits always hit: the grid of the last turn is finer than the interval is wide.
-/
import ScriptHost.Proofs.Decimal.Double

namespace ScriptHost.Decimal

/-! ## Digits -/

/-- What digits stand for. -/
def Digits.value (d : Digits) : ℚ := d.digits * 10 ^ (d.point - d.count)

/-- There are as many digits as are counted, and the first one is not zero. -/
structure Digits.Exact (d : Digits) : Prop where
  some : 0 < d.count
  low : 10 ^ (d.count - 1) ≤ d.digits
  high : d.digits < 10 ^ d.count

theorem Digits.Exact.pos {d : Digits} (h : d.Exact) : 0 < d.digits := lt_of_lt_of_le (by positivity) h.low

theorem ten_zpow_pos (e : ℤ) : (0 : ℚ) < 10 ^ e := zpow_pos (by norm_num) e

/-- Zeros at the end may be dropped. -/
theorem Digits.trim_spec {d : Digits} (h : d.Exact) (fuel : ℕ) : (d.trim fuel).Exact ∧
    (d.trim fuel).value = d.value := by
  fun_induction Digits.trim d fuel with
  | case1 d => exact ⟨h, rfl⟩
  | case2 d fuel last ih =>
    obtain ⟨more, zero⟩ := last
    have count : d.count = d.count - 1 + 1 := by omega
    have count' : d.count - 1 = d.count - 1 - 1 + 1 := by omega
    have digits : d.digits = 10 * (d.digits / 10) := by omega
    have shorter : Digits.Exact ⟨d.digits / 10, d.count - 1, d.point⟩ := by
      have low := h.low
      have high := h.high
      rw [count', pow_succ] at low
      rw [count, pow_succ] at high
      exact ⟨by dsimp only; omega, by dsimp only; omega, by dsimp only; omega⟩
    obtain ⟨exact_, same⟩ := ih shorter
    refine ⟨exact_, same.trans ?_⟩
    have whole : (d.digits : ℚ) = 10 * (d.digits / 10 : ℕ) := by exact_mod_cast digits
    have place : d.point - ((d.count - 1 : ℕ) : ℤ) = d.point - d.count + 1 := by omega
    rw [Digits.value, Digits.value, whole, place, zpow_add_one₀ (by norm_num)]
    ring
  | case3 d fuel last => exact ⟨h, rfl⟩

/-! ## The first place -/

/-- The place of the first digit. -/
def PlaceOf (v : ℚ) (point : ℤ) : Prop := 10 ^ (point - 1) ≤ v ∧ v < 10 ^ point

theorem leadingZeros_spec {den fuel : ℕ} : ∀ {num : ℕ}, num < den → den ≤ num * 10 ^ fuel →
    0 < leadingZeros den fuel num ∧ den ≤ num * 10 ^ leadingZeros den fuel num ∧
      num * 10 ^ (leadingZeros den fuel num - 1) < den := by
  induction fuel with
  | zero => intro num less enough; omega
  | succ fuel ih =>
    intro num less enough
    rw [leadingZeros, if_neg (by omega)]
    rcases Nat.lt_or_ge (num * 10) den with again | reached
    · obtain ⟨some, high, low⟩ := ih again (by rw [pow_succ] at enough; linarith)
      refine ⟨by omega, ?_, ?_⟩
      · rw [pow_succ]
        linarith
      · rw [Nat.add_sub_cancel]
        obtain ⟨k, same⟩ : ∃ k, leadingZeros den fuel (num * 10) = k + 1 := ⟨_, (Nat.sub_add_cancel some).symm⟩
        rw [same] at low ⊢
        rw [Nat.add_sub_cancel] at low
        rw [pow_succ]
        linarith
    · have none : leadingZeros den fuel (num * 10) = 0 := by cases fuel <;> simp [leadingZeros, reached]
      rw [none]
      exact ⟨by norm_num, by rwa [zero_add, pow_one], by simpa using less⟩

theorem pointOf_spec {num den : ℕ} (pos : 0 < den) (enough : den ≤ num * 10 ^ 400) :
    PlaceOf (num / den) (pointOf num den) := by
  have pos' : (0 : ℚ) < den := by exact_mod_cast pos
  unfold pointOf
  split
  · rename_i whole
    have some : 0 < num / den := Nat.div_pos whole pos
    obtain ⟨low, high⟩ := digitCount_bounds some
    have counted : 0 < digitCount (num / den) := Nat.length_toDigits_pos
    constructor
    · have least : 10 ^ (digitCount (num / den) - 1) * den ≤ num := (Nat.le_div_iff_mul_le pos).mp low
      have place : (digitCount (num / den) : ℤ) - 1 = (digitCount (num / den) - 1 : ℕ) := by omega
      rw [place, zpow_natCast, le_div_iff₀ pos']
      exact_mod_cast least
    · have most : num < 10 ^ digitCount (num / den) * den := (Nat.div_lt_iff_lt_mul pos).mp high
      rw [zpow_natCast, div_lt_iff₀ pos']
      exact_mod_cast most
  · rename_i fraction
    obtain ⟨some, high, low⟩ := leadingZeros_spec (Nat.not_le.mp fraction) enough
    generalize leadingZeros den 400 num = k at some high low
    have high' : (den : ℚ) ≤ num * 10 ^ k := by exact_mod_cast high
    have low' : (num : ℚ) * 10 ^ (k - 1) < den := by exact_mod_cast low
    constructor
    · have place : (1 - (k : ℤ) - 1) = -(k : ℤ) := by omega
      rw [place, zpow_neg, zpow_natCast, inv_le_iff_one_le_mul₀ (by positivity), div_mul_eq_mul_div,
        le_div_iff₀ pos', one_mul]
      exact high'
    · have place : (1 - (k : ℤ)) = -((k - 1 : ℕ) : ℤ) := by omega
      rw [place, zpow_neg, zpow_natCast, div_lt_iff₀ pos', lt_inv_mul_iff₀ (by positivity)]
      linarith

/-! ## The interval -/

namespace Binary

variable {b : Binary} {v : ℚ}

/-- The value of a double. -/
def value (b : Binary) : ℚ := b.mantissa * 2 ^ b.exponent

/-- The numbers that the ends of an interval and the value in it are compared by. -/
structure Measures (b : Binary) (i : Interval) : Prop where
  pos : 0 < i.den
  low : (i.low : ℚ) = (b.mantissa - b.reach) * 2 ^ b.exponent * i.den
  value : (i.value : ℚ) = b.value * i.den
  high : (i.high : ℚ) = (b.mantissa + 1 / 2) * 2 ^ b.exponent * i.den
  closed : i.closed = (b.mantissa % 2 == 0)

theorem measures_interval (h : b.Canonical) : Measures b b.interval := by
  have least := h.pos
  let below : ℕ := if b.mantissa = Nat.pow 2 52 ∧ b.exponent ≠ -1074 then 1 else 2
  have below_le : below ≤ 4 * b.mantissa := by
    show (if _ then 1 else 2) ≤ _
    split <;> omega
  have reach : (b.reach : ℚ) = below / 4 := by
    show (if _ then _ else _) = ((if _ then 1 else 2 : ℕ) : ℚ) / 4
    split
    · rename_i power
      rw [if_pos (by simpa only [Nat.pow_eq] using power)]
      norm_num
    · rename_i power
      rw [if_neg (by simpa only [Nat.pow_eq] using power)]
      norm_num
  have scaled : ∀ n : ℕ, ((if 0 ≤ b.exponent then n * Nat.pow 2 b.exponent.toNat else n : ℕ) : ℚ) =
      n / 4 * 2 ^ b.exponent * b.interval.den := by
    intro n
    show _ = _ * ((if 0 ≤ b.exponent then 4 else 4 * Nat.pow 2 (-b.exponent).toNat : ℕ) : ℚ)
    split
    · rename_i whole
      have power : (2 : ℚ) ^ b.exponent = 2 ^ b.exponent.toNat := by
        rw [← zpow_natCast, Int.toNat_of_nonneg whole]
      rw [power, Nat.pow_eq]
      push_cast
      ring
    · rename_i fraction
      have power : (2 : ℚ) ^ b.exponent * 2 ^ (-b.exponent).toNat = 1 := by
        rw [← zpow_natCast, Int.toNat_of_nonneg (by omega), ← zpow_add₀ (by norm_num), add_neg_cancel, zpow_zero]
      rw [Nat.pow_eq]
      push_cast
      linear_combination (-(n : ℚ)) * power
  refine ⟨?_, ?_, ?_, ?_, rfl⟩
  · show 0 < (if _ then 4 else _)
    split
    · norm_num
    · exact Nat.mul_pos (by norm_num) (Nat.pow_pos (by norm_num))
  · refine (scaled (4 * b.mantissa - below)).trans ?_
    rw [reach]
    push_cast [below_le]
    ring
  · refine (scaled (4 * b.mantissa)).trans ?_
    rw [Binary.value]
    push_cast
    ring
  · refine (scaled (4 * b.mantissa + 2)).trans ?_
    push_cast
    ring

/-- A decimal is tried by comparing natural numbers. -/
theorem Measures.holds_iff {i : Interval} (measures : Measures b i) (d : ℕ) (e : ℤ) :
    i.holds d e = true ↔ b.Rounds (d * 10 ^ e) := by
  -- what is compared is the decimal and the ends, all of them times one number
  have compares : ∀ p scale : ℕ, 0 < scale → (p : ℚ) = d * 10 ^ e * (i.den * scale) →
      ((if i.closed then decide (i.low * scale ≤ p) && decide (p ≤ i.high * scale)
        else decide (i.low * scale < p) && decide (p < i.high * scale)) = true ↔ b.Rounds (d * 10 ^ e)) := by
    intro p scale some same
    have pos : (0 : ℚ) < i.den * scale := by exact_mod_cast Nat.mul_pos measures.pos some
    have low : ((i.low * scale : ℕ) : ℚ) = (b.mantissa - b.reach) * 2 ^ b.exponent * (i.den * scale) := by
      push_cast
      rw [measures.low]
      ring
    have high : ((i.high * scale : ℕ) : ℚ) = (b.mantissa + 1 / 2) * 2 ^ b.exponent * (i.den * scale) := by
      push_cast
      rw [measures.high]
      ring
    have closed : i.closed = true ↔ b.mantissa % 2 = 0 := by rw [measures.closed, beq_iff_eq]
    have le : i.low * scale ≤ p ↔ (b.mantissa - b.reach) * 2 ^ b.exponent ≤ d * 10 ^ e := by
      rw [← Nat.cast_le (α := ℚ), low, same, mul_le_mul_iff_left₀ pos]
    have le' : p ≤ i.high * scale ↔ (d * 10 ^ e : ℚ) ≤ (b.mantissa + 1 / 2) * 2 ^ b.exponent := by
      rw [← Nat.cast_le (α := ℚ), high, same, mul_le_mul_iff_left₀ pos]
    have lt : i.low * scale < p ↔ (b.mantissa - b.reach) * 2 ^ b.exponent < d * 10 ^ e := by
      rw [← Nat.cast_lt (α := ℚ), low, same, mul_lt_mul_iff_left₀ pos]
    have lt' : p < i.high * scale ↔ (d * 10 ^ e : ℚ) < (b.mantissa + 1 / 2) * 2 ^ b.exponent := by
      rw [← Nat.cast_lt (α := ℚ), high, same, mul_lt_mul_iff_left₀ pos]
    split
    · rename_i even
      rw [Bool.and_eq_true, decide_eq_true_eq, decide_eq_true_eq, le, le']
      exact ⟨fun h => .inr ⟨closed.mp even, h⟩, fun h => h.within⟩
    · rename_i odd
      rw [Bool.and_eq_true, decide_eq_true_eq, decide_eq_true_eq, lt, lt']
      refine ⟨.inl, fun h => ?_⟩
      rcases h with h | ⟨even, -⟩
      · exact h
      · exact absurd (closed.mpr even) odd
  unfold Interval.holds
  by_cases whole : 0 ≤ e
  · rw [if_pos whole]
    refine compares (d * Nat.pow 10 e.toNat * i.den) 1 (by norm_num) ?_
    have power : (10 : ℚ) ^ e = 10 ^ e.toNat := by rw [← zpow_natCast, Int.toNat_of_nonneg whole]
    rw [power, Nat.pow_eq]
    push_cast
    ring
  · rw [if_neg whole]
    refine compares (d * i.den) (Nat.pow 10 (-e).toNat) (Nat.pow_pos (by norm_num)) ?_
    have power : (10 : ℚ) ^ e * 10 ^ (-e).toNat = 1 := by
      rw [← zpow_natCast, Int.toNat_of_nonneg (by omega), ← zpow_add₀ (by norm_num), add_neg_cancel, zpow_zero]
    rw [Nat.pow_eq]
    push_cast
    linear_combination (-(d * i.den : ℚ)) * power

/-! ## The grid -/

/-- The number on a grid that lies below or at the value. -/
def Below (v : ℚ) (e : ℤ) (d : ℕ) : Prop := d * 10 ^ e ≤ v ∧ v < (d + 1) * 10 ^ e

theorem below_div {num den : ℕ} {e : ℤ} (pos : 0 < den) (same : (num : ℚ) = v / 10 ^ e * den) :
    Below v e (num / den) := by
  have pos' : (0 : ℚ) < den := by exact_mod_cast pos
  have grid := ten_zpow_pos e
  have whole : (num : ℚ) = (num / den : ℕ) * den + (num % den : ℕ) := by exact_mod_cast (Nat.div_add_mod' num den).symm
  have part : ((num % den : ℕ) : ℚ) < den := by exact_mod_cast Nat.mod_lt num pos
  have part' : (0 : ℚ) ≤ (num % den : ℕ) := Nat.cast_nonneg _
  have least : ((num / den : ℕ) : ℚ) * den ≤ v / 10 ^ e * den := by linarith
  have most : v / 10 ^ e * den < ((num / den : ℕ) + 1 : ℚ) * den := by linarith
  exact ⟨(le_div_iff₀ grid).mp (le_of_mul_le_mul_right least pos'),
    (div_lt_iff₀ grid).mp (lt_of_mul_lt_mul_right most pos'.le)⟩

/-- What is hit on a grid is the point below the value or the next one, and lies in the interval; there is no hit only
if neither does. -/
inductive Hits (b : Binary) (e : ℤ) (d : ℕ) : Option ℕ → Prop
  | down (inside : b.Rounds (d * 10 ^ e)) : Hits b e d (some d)
  | up (inside : b.Rounds ((d + 1 : ℕ) * 10 ^ e)) : Hits b e d (some (d + 1))
  | none (down : b.Rounds (d * 10 ^ e) → d = 0) (up : ¬ b.Rounds ((d + 1 : ℕ) * 10 ^ e)) : Hits b e d none

theorem Measures.onGrid_hits {i : Interval} (measures : Measures b i) (e : ℤ) :
    ∃ d, Below b.value e d ∧ Hits b e d (i.onGrid e) := by
  have hits : ∀ num den : ℕ, Hits b e (num / den)
      (let d := num / den
       let twice := 2 * (num % den)
       let down := i.holds d e && d != 0
       let up := i.holds (d + 1) e
       if down && up then
         if twice < den then some d else if den < twice then some (d + 1)
         else some (if d % 2 == 0 then d else d + 1)
       else if down then some d
       else if up then some (d + 1)
       else none) := by
    intro num den
    generalize num / den = d
    have below := measures.holds_iff d e
    have above := measures.holds_iff (d + 1) e
    dsimp only
    rcases down : i.holds d e && d != 0 with _ | _
    · rcases up : i.holds (d + 1) e with _ | _
      · refine .none (fun inside => ?_) fun inside => ?_
        · simpa [below.mpr inside] using down
        · rw [above.mpr inside] at up
          cases up
      · exact .up (above.mp up)
    · have inside := below.mp (Bool.and_eq_true_iff.mp down).1
      rcases up : i.holds (d + 1) e with _ | _
      · exact .down inside
      · have inside' := above.mp up
        simp only [Bool.and_self, if_true]
        split
        · exact .down inside
        · split
          · exact .up inside'
          · split
            · exact .down inside
            · exact .up inside'
  unfold Interval.onGrid
  by_cases whole : 0 ≤ e
  · rw [if_pos whole]
    refine ⟨_, ?_, hits i.value (i.den * Nat.pow 10 e.toNat)⟩
    refine below_div (Nat.mul_pos measures.pos (Nat.pow_pos (by norm_num))) ?_
    have power : (10 : ℚ) ^ e = 10 ^ e.toNat := by rw [← zpow_natCast, Int.toNat_of_nonneg whole]
    rw [measures.value, power, Nat.pow_eq]
    push_cast
    field_simp
  · rw [if_neg whole]
    refine ⟨_, ?_, hits (i.value * Nat.pow 10 (-e).toNat) i.den⟩
    refine below_div measures.pos ?_
    have power : (10 : ℚ) ^ e = (10 ^ (-e).toNat)⁻¹ := by
      rw [← zpow_natCast, Int.toNat_of_nonneg (by omega), zpow_neg, inv_inv]
    rw [power, Nat.pow_eq]
    push_cast
    rw [measures.value]
    field_simp

/-- A grid of seventeen digits is finer than the interval is wide. -/
theorem fine {point : ℤ} {d : ℕ} (h : b.Canonical) (place : PlaceOf b.value point)
    (below : Below b.value (point - 17) d) :
    b.Rounds (d * 10 ^ (point - 17)) ∨ b.Rounds ((d + 1 : ℕ) * 10 ^ (point - 17)) := by
  have ulp := two_zpow_pos b.exponent
  have spaced : (10 : ℚ) ^ (point - 17) * 10 ^ 16 ≤ b.mantissa * 2 ^ b.exponent := by
    rw [← zpow_natCast, ← zpow_add₀ (by norm_num)]
    have same : point - 17 + ((16 : ℕ) : ℤ) = point - 1 := by norm_num; ring
    rw [same]
    exact place.1
  have size : (b.mantissa : ℚ) + 1 ≤ 2 ^ 53 := by exact_mod_cast h.size
  -- the spacing is less than both ends are apart
  have narrow : (10 : ℚ) ^ (point - 17) < (b.reach + 1 / 2) * 2 ^ b.exponent := by
    by_cases power : b.mantissa = 2 ^ 52 ∧ b.exponent ≠ -1074
    · have reach : b.reach = 1 / 4 := if_pos power
      rw [power.1] at spaced
      rw [reach]
      push_cast at spaced
      nlinarith
    · have reach : b.reach = 1 / 2 := if_neg power
      rw [reach]
      nlinarith
  obtain ⟨low, high⟩ := below
  rw [value] at low high
  have := b.reach_bounds.1
  by_cases near : (b.mantissa - b.reach) * 2 ^ b.exponent < d * 10 ^ (point - 17)
  · exact .inl (.inl ⟨near, by nlinarith⟩)
  · rw [not_lt] at near
    refine .inr (.inl ⟨?_, ?_⟩)
    · push_cast
      nlinarith
    · push_cast
      linarith

/-! ## The search -/

/-- On a grid of so many digits, the point below the value has so many. -/
theorem Below.digits {point : ℤ} {count d : ℕ} (some : 0 < count) (place : PlaceOf v point)
    (below : Below v (point - count) d) : 10 ^ (count - 1) ≤ d ∧ d < 10 ^ count := by
  have grid := ten_zpow_pos (point - count)
  constructor
  · have first : (10 : ℚ) ^ (point - 1) = 10 ^ (count - 1) * 10 ^ (point - count) := by
      rw [← zpow_natCast, ← zpow_add₀ (by norm_num)]
      congr 1
      omega
    have less : (10 : ℚ) ^ (count - 1) * 10 ^ (point - count) < (d + 1) * 10 ^ (point - count) :=
      first ▸ lt_of_le_of_lt place.1 below.2
    have less' : (10 : ℚ) ^ (count - 1) < d + 1 := lt_of_mul_lt_mul_right less grid.le
    exact Nat.lt_succ_iff.mp (by exact_mod_cast less')
  · have next : (10 : ℚ) ^ point = 10 ^ count * 10 ^ (point - count) := by
      rw [← zpow_natCast, ← zpow_add₀ (by norm_num)]
      congr 1
      omega
    have less : (d : ℚ) * 10 ^ (point - count) < 10 ^ count * 10 ^ (point - count) :=
      next ▸ lt_of_le_of_lt below.1 place.2
    exact_mod_cast lt_of_mul_lt_mul_right less grid.le

/-- Digits with all that is asked of them: they are exact, and stand for a number in the interval. -/
def Spells (b : Binary) (d : Digits) : Prop := d.Exact ∧ b.Rounds d.value

/-- What is taken of a hit: one that has become a power of ten has one digit more. -/
theorem spells_hit {point : ℤ} {count d : ℕ} (some : 0 < count) (low : 10 ^ (count - 1) ≤ d) (high : d ≤ 10 ^ count)
    (inside : b.Rounds (d * 10 ^ (point - count))) :
    Spells b (if d = Nat.pow 10 count then ⟨Nat.pow 10 (count - 1), count, point + 1⟩ else ⟨d, count, point⟩) := by
  rw [Nat.pow_eq, Nat.pow_eq]
  split
  · rename_i power
    refine ⟨⟨some, le_rfl, Nat.pow_lt_pow_right (by norm_num) (Nat.sub_lt some Nat.one_pos)⟩, ?_⟩
    have same : Digits.value ⟨10 ^ (count - 1), count, point + 1⟩ = d * 10 ^ (point - count) := by
      rw [Digits.value, power]
      push_cast
      rw [← zpow_natCast, ← zpow_natCast, ← zpow_add₀ (by norm_num), ← zpow_add₀ (by norm_num)]
      congr 1
      omega
    rw [same]
    exact inside
  · rename_i other
    exact ⟨⟨some, low, lt_of_le_of_ne high other⟩, inside⟩

theorem Measures.search_spells (h : b.Canonical) {i : Interval} (measures : Measures b i) {point : ℤ}
    (place : PlaceOf b.value point) :
    ∀ fuel : ℕ, ∀ count : ℕ, 0 < fuel → 0 < count → fuel + count = 18 → Spells b (i.search point fuel count) := by
  intro fuel
  induction fuel with
  | zero => intro count some; cases some
  | succ fuel ih =>
    intro count _ counted turns
    obtain ⟨d, below, hits⟩ := measures.onGrid_hits (point - count)
    obtain ⟨low, high⟩ := below.digits counted place
    rw [Interval.search]
    generalize i.onGrid (point - count) = hit at hits
    cases hits with
    | down inside => exact spells_hit counted low high.le inside
    | up inside => exact spells_hit counted (low.trans (Nat.le_succ d)) high inside
    | none down up =>
      -- the last turn hits
      have more : 0 < fuel := by
        by_contra last
        obtain rfl : count = 17 := by omega
        rcases fine h place below with inside | inside
        · have := down inside
          omega
        · exact up inside
      exact ih (count + 1) more (Nat.succ_pos count) (by omega)

/-- The shortest decimal of a double lies in its interval. -/
theorem shortest_spells (h : b.Canonical) : Spells b b.shortest := by
  have measures := measures_interval h
  have den : (0 : ℚ) < b.interval.den := by exact_mod_cast measures.pos
  have value : (b.interval.value / b.interval.den : ℚ) = b.value := by
    rw [measures.value, mul_div_cancel_right₀ _ den.ne']
  have enough : b.interval.den ≤ b.interval.value * 10 ^ 400 := by
    have least : (1 : ℚ) ≤ b.mantissa := by exact_mod_cast h.pos
    have small : (10 : ℚ) ^ (-400 : ℤ) ≤ b.value := by
      calc (10 : ℚ) ^ (-400 : ℤ) ≤ 2 ^ (-1074 : ℤ) := (ten_zpow_lt_two (by norm_num) (by norm_num)).le
        _ ≤ 2 ^ b.exponent := zpow_le_zpow_right₀ (by norm_num) h.low
        _ ≤ b.mantissa * 2 ^ b.exponent := le_mul_of_one_le_left (two_zpow_pos _).le least
    have power : (10 : ℚ) ^ (-400 : ℤ) * 10 ^ 400 = 1 := by
      rw [← zpow_natCast, ← zpow_add₀ (by norm_num)]
      rfl
    have reached : (b.interval.den : ℚ) ≤ b.interval.value * 10 ^ 400 := by
      rw [measures.value]
      calc (b.interval.den : ℚ) = 10 ^ (-400 : ℤ) * 10 ^ 400 * b.interval.den := by rw [power, one_mul]
        _ = 10 ^ (-400 : ℤ) * b.interval.den * 10 ^ 400 := mul_right_comm _ _ _
        _ ≤ b.value * b.interval.den * 10 ^ 400 :=
          mul_le_mul_of_nonneg_right (mul_le_mul_of_nonneg_right small den.le) (pow_nonneg (by norm_num) _)
    exact_mod_cast reached
  have place := pointOf_spec measures.pos enough
  rw [value] at place
  obtain ⟨counted, inside⟩ := measures.search_spells h place 17 1 (by norm_num) (by norm_num) (by norm_num)
  rw [shortest, if_neg h.pos.ne']
  obtain ⟨counted', same⟩ := Digits.trim_spec counted 20
  exact ⟨counted', same ▸ inside⟩

end Binary

end ScriptHost.Decimal
