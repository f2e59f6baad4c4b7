/-
Whole numbers in settings documents. A run of digits that is no date, no time of day and no number in another base is
read as a whole number only if it is short enough. A longer one is no fault in the document's form, and ends the reading
of it all the same.
-/
import ScriptHost.Toml.Document
import Mathlib.Data.List.Basic

namespace ScriptHost.Toml

variable {ds : Text} {d : CodePoint}

/-! ## Digits and marks -/

/-- A digit is no mark that is none. -/
theorem is_of_digit {x : Char} (digit : d.isDigit = true) (other : (CodePoint.ofChar x).isDigit = false) :
    d.is x = false := by
  have val : (CodePoint.ofChar x).val = x.toNat := rfl
  simp only [CodePoint.isDigit, CodePoint.is, val] at *
  by_contra same
  rw [Bool.not_eq_false, beq_iff_eq] at same
  rw [same, other] at digit
  cases digit

theorem startsWith_of_digit (mark : String) {x : Char} {rest : Text}
    (marked : Text.ofString mark = CodePoint.ofChar x :: rest) (digit : d.isDigit = true)
    (other : (CodePoint.ofChar x).isDigit = false) : startsWith mark (d :: ds) = false := by
  have ne : d ≠ CodePoint.ofChar x := by
    rintro rfl
    rw [digit] at other
    cases other
  simp [startsWith, marked, after?, ne]

theorem digitRun_of_digits : ∀ {ds : Text}, (∀ c ∈ ds, c.isDigit = true) → digitRun CodePoint.isDigit ds = (ds, [])
  | [], _ => rfl
  | [c], digits => by
    have first := digits c List.mem_cons_self
    simp [digitRun, first]
  | c :: d :: rest, digits => by
    obtain ⟨first, others⟩ := List.forall_mem_cons.mp digits
    have plain : d.is '_' = false := is_of_digit (others d List.mem_cons_self) (by decide)
    unfold digitRun
    rw [if_pos first, if_neg (by simp [plain]), digitRun_of_digits others]

theorem joinLineEnds_of_plain : ∀ {t : Text}, (∀ c ∈ t, c.is '\r' = false) → joinLineEnds t = t
  | [], _ => rfl
  | [_], _ => rfl
  | c :: d :: rest, plain => by
    obtain ⟨first, others⟩ := List.forall_mem_cons.mp plain
    unfold joinLineEnds
    rw [first, Bool.false_and, if_neg Bool.false_ne_true, joinLineEnds_of_plain others]

theorem skipBlanks_of_digit (digit : d.isDigit = true) : skipBlanks (d :: ds) = d :: ds := by
  have solid : isBlank d = false := by
    simp [isBlank, is_of_digit digit (x := ' ') (by decide), is_of_digit digit (x := '\t') (by decide)]
  simp [skipBlanks, solid]

/-! ## Values -/

/-- Among digits no mark ends the first part of a date or of a time of day. -/
theorem fixedNumber?_after {count low high : Nat} {mark : CodePoint} {t : Text} (digits : ∀ c ∈ ds, c.isDigit = true)
    (other : mark.isDigit = false) {n : Nat} {rest : Text} (found : fixedNumber? count low high ds = some (n, rest)) :
    after? (mark :: t) rest = none := by
  unfold fixedNumber? at found
  dsimp only at found
  split at found
  · split at found
    · cases found
      cases left : ds.drop count with
      | nil => rfl
      | cons c rest =>
        have digit : c.isDigit = true := by
          refine digits c (List.mem_of_mem_drop (i := count) ?_)
          rw [left]
          exact List.mem_cons_self
        have ne : c ≠ mark := by
          rintro rfl
          rw [digit] at other
          cases other
        simp [after?, ne]
    · cases found
  · cases found

theorem moment?_of_digits (digits : ∀ c ∈ ds, c.isDigit = true) : moment? ds = none := by
  unfold moment?
  simp only [Option.bind_eq_bind]
  cases found : fixedNumber? 4 0 9999 ds with
  | none => rfl
  | some year =>
    have unmarked : after? (Text.ofString "-") year.2 = none := fixedNumber?_after digits (by decide) found
    simp [unmarked]

theorem localTime?_of_digits (digits : ∀ c ∈ ds, c.isDigit = true) : localTime? ds = none := by
  unfold localTime? timeOfDay?
  simp only [Option.bind_eq_bind]
  cases found : fixedNumber? 2 0 23 ds with
  | none => rfl
  | some hour =>
    have unmarked : after? (Text.ofString ":") hour.2 = none := fixedNumber?_after digits (by decide) found
    simp [unmarked]

theorem basedNumber?_of_first (first : d.is '0' = false) : basedNumber? (d :: ds) = none := by
  unfold basedNumber?
  split
  · next same =>
    cases same
    simp [first]
  · rfl

theorem decimalNumber?_long (digits : ∀ c ∈ d :: ds, c.isDigit = true) (first : d.is '0' = false)
    (long : digitLimit < (d :: ds).length) : decimalNumber? (d :: ds) = some (.error (d :: ds).length, []) := by
  have digit := digits d List.mem_cons_self
  have plus : d.is '+' = false := is_of_digit digit (by decide)
  have minus : d.is '-' = false := is_of_digit digit (by decide)
  rw [List.length_cons] at long
  simp [decimalNumber?, plus, minus, first, digitRun_of_digits digits, digitsAfter, long]

theorem plainValue_long (digits : ∀ c ∈ d :: ds, c.isDigit = true) (first : d.is '0' = false)
    (long : digitLimit < (d :: ds).length) : plainValue (d :: ds) = .error (.tooLong (d :: ds).length) := by
  unfold plainValue
  rw [moment?_of_digits digits, localTime?_of_digits digits, basedNumber?_of_first first,
    decimalNumber?_long digits first long]
  rfl

theorem value_of_digit {fuel : Nat} (digit : d.isDigit = true) : value (fuel + 1) (d :: ds) = plainValue (d :: ds) := by
  unfold value
  simp [is_of_digit digit (x := '"') (by decide), is_of_digit digit (x := '\'') (by decide),
    startsWith_of_digit "true" rfl digit (by decide), startsWith_of_digit "false" rfl digit (by decide),
    is_of_digit digit (x := '[') (by decide), is_of_digit digit (x := '{') (by decide)]

/-! ## Documents -/

/-- A document that sets one name to a whole number with too many digits. -/
theorem read?_long (digits : ∀ c ∈ d :: ds, c.isDigit = true) (first : d.is '0' = false)
    (long : digitLimit < (d :: ds).length) :
    read? ("a=" ++ d :: ds) = .error (.tooLong (d :: ds).length) := by
  have digit := digits d List.mem_cons_self
  have joined : joinLineEnds ("a=" ++ d :: ds) = "a=" ++ d :: ds := by
    have named : ∀ c ∈ ("a=" : Text), c.is '\r' = false := by decide
    refine joinLineEnds_of_plain fun c inside => ?_
    rcases List.mem_append.mp inside with inside | inside
    · exact named c inside
    · exact is_of_digit (digits c inside) (by decide)
  have named : key ("a=" ++ d :: ds) = .ok (["a"], "=" ++ d :: ds) := rfl
  have valued (fuel : Nat) : keyAndValue (fuel + 2) ("a=" ++ d :: ds) = .error (.tooLong (d :: ds).length) := by
    unfold keyAndValue
    rw [named]
    change (value (fuel + 1) (skipBlanks (d :: ds)) >>= _) = _
    rw [skipBlanks_of_digit digit, value_of_digit digit, plainValue_long digits first long]
    rfl
  have entered : enter {} (CodePoint.ofChar 'a' :: ("=" ++ d :: ds)) = .error (.tooLong (d :: ds).length) := by
    unfold enter
    change (keyAndValue (_ + 2) ("a=" ++ d :: ds) >>= _) = _
    rw [valued]
    rfl
  have stated (fuel : Nat) : statements (fuel + 1) {} ("a=" ++ d :: ds) = .error (.tooLong (d :: ds).length) := by
    have skipped : skipBlanks ("a=" ++ d :: ds) = CodePoint.ofChar 'a' :: ("=" ++ d :: ds) := rfl
    unfold statements
    rw [skipped]
    dsimp only
    rw [if_neg (by decide), if_pos (by decide), entered]
    rfl
  unfold read?
  dsimp only
  rw [joined, stated]
  rfl

end ScriptHost.Toml
