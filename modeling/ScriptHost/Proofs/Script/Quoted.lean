/-
Strings in quotes. A string that was put in quotes consists of code points that stand for themselves and of escapes.
The reader of trees and the reader of programs know the same escapes, so both read the string back.
-/
import ScriptHost.Proofs.Isolate.Lifecycle
import ScriptHost.Proofs.Text.Utf16
import ScriptHost.Script.Json
import Mathlib.Data.List.TakeWhile

namespace ScriptHost

/-! ## Hexadecimal digits -/

namespace Text

open Script

theorem isHexDigit_digitChar {d : Nat} (small : d < 16) : Token.isHexDigit (CodePoint.ofChar d.digitChar) = true := by
  rw [Token.isHexDigit, hexValue_digitChar small]
  rfl

/-- A number in hexadecimal digits has no other characters, -/
theorem isHexDigit_hex (width n : Nat) : ∀ c ∈ hex width n, Token.isHexDigit c = true := by
  have digits : ∀ c ∈ (Nat.toDigits 16 n).map CodePoint.ofChar, Token.isHexDigit c = true := by
    induction n using Nat.strong_induction_on with
    | _ n ih =>
      rw [Nat.toDigits_eq_if (by decide)]
      split
      · rename_i small
        intro c inside
        obtain rfl := List.mem_singleton.mp inside
        exact isHexDigit_digitChar small
      · rename_i large
        intro c inside
        rw [List.map_append, List.mem_append, List.map_singleton, List.mem_singleton] at inside
        rcases inside with inside | rfl
        · exact ih (n / 16) (by omega) c inside
        · exact isHexDigit_digitChar (Nat.mod_lt n (by decide))
  intro c inside
  rcases List.mem_append.mp inside with inside | inside
  · rw [List.eq_of_mem_replicate inside]
    rfl
  · exact digits c inside

/-- and four of them where it fits a unit. -/
theorem length_hex {n : Nat} (small : n < 0x10000) : (hex 4 n).length = 4 := by
  have most : (Nat.toDigits 16 n).length ≤ 4 := (Nat.length_toDigits_le_iff (by decide) (by decide)).mpr small
  simp only [hex, List.length_append, List.length_replicate, List.length_map]
  omega

end Text

namespace CodePoint

variable {c : CodePoint}

theorem isHexDigit_small (digit : Script.Token.isHexDigit c = true) : c.val < 0x67 := by
  simp only [Script.Token.isHexDigit, hexValue?] at digit
  split at digit
  · omega
  · split at digit
    · omega
    · split at digit
      · omega
      · cases digit

theorem is_eq_false {x : Char} (other : c ≠ ofChar x) : c.is x = false := by
  refine beq_eq_false_iff_ne.mpr fun same => other ?_
  cases c
  simpa [ofChar] using same

end CodePoint

namespace Script

/-! ## Escapes -/

/-- The units that have letters of their own behind a backslash. -/
def letters : List (UInt16 × Char) :=
  [(0x22, '"'), (0x5C, '\\'), (0x08, 'b'), (0x09, 't'), (0x0A, 'n'), (0x0C, 'f'), (0x0D, 'r')]

/-- A unit and what spells it behind a backslash. -/
inductive Escape : UInt16 → Text → Prop
  | letter {u : UInt16} {c : Char} (among : (u, c) ∈ letters) : Escape u [CodePoint.ofChar c]
  | code (u : UInt16) : Escape u (CodePoint.ofChar 'u' :: Text.hex 4 u.toNat)

/-- A string and what stands for it between quotes. -/
inductive Escaped : Utf16 → Text → Prop
  | nil : Escaped [] []
  | plain {c : CodePoint} {us : Utf16} {t : Text} (open_ : c.is '"' = false) (unmarked : c.is '\\' = false)
      (shown : 0x20 ≤ c.val) (rest : Escaped us t) : Escaped (c.toUnits ++ us) (c :: t)
  | escape {u : UInt16} {e : Text} {us : Utf16} {t : Text} (spelled : Escape u e) (rest : Escaped us t) :
      Escaped (u :: us) (CodePoint.ofChar '\\' :: (e ++ t))

/-! ## Reading them -/

/-- Four digits at the start of a text are all that is taken there. -/
theorem take_hex (u : UInt16) (t : Text) :
    ((Text.hex 4 u.toNat ++ t).take 4).takeWhile Token.isHexDigit = Text.hex 4 u.toNat := by
  have length : (Text.hex 4 u.toNat).length = 4 := Text.length_hex u.toNat_lt
  rw [List.take_append_of_le_length (by omega), List.take_of_length_le (by omega)]
  exact List.takeWhile_eq_self_iff.mpr (Text.isHexDigit_hex 4 u.toNat)

/-- The reader of trees knows the escape. -/
theorem Escape.readEscape {u : UInt16} {e : Text} (h : Escape u e) (t : Text) :
    Json.readEscape (e ++ t) = .ok ([u], e.length) := by
  cases h with
  | letter among =>
    simp only [letters, List.mem_cons, Prod.mk.injEq, List.not_mem_nil, or_false] at among
    rcases among with ⟨rfl, rfl⟩ | ⟨rfl, rfl⟩ | ⟨rfl, rfl⟩ | ⟨rfl, rfl⟩ | ⟨rfl, rfl⟩ | ⟨rfl, rfl⟩ | ⟨rfl, rfl⟩ <;> rfl
  | code =>
    have digits := take_hex u t
    have length : (Text.hex 4 u.toNat).length = 4 := Text.length_hex u.toNat_lt
    have read : ∀ x : Text, Json.readEscape (CodePoint.ofChar 'u' :: x) =
        if ((x.take 4).takeWhile Token.isHexDigit).length = 4 then
          .ok ([UInt16.ofNat (Token.hexValue ((x.take 4).takeWhile Token.isHexDigit))], 5)
        else .error (.at (CodePoint.ofChar 'u' :: x) "Bad Unicode escape") := fun _ => rfl
    rw [List.cons_append, read, digits, if_pos length, Text.hexValue_hex, UInt16.ofNat_toNat, List.length_cons, length]

/-- The reader of programs knows the escape, and it is no octal one. -/
theorem Escape.escape? {u : UInt16} {e : Text} (h : Escape u e) (t : Text) :
    Token.escape? (e ++ t) = some ([u], e.length, false) := by
  cases h with
  | letter among =>
    simp only [letters, List.mem_cons, Prod.mk.injEq, List.not_mem_nil, or_false] at among
    rcases among with ⟨rfl, rfl⟩ | ⟨rfl, rfl⟩ | ⟨rfl, rfl⟩ | ⟨rfl, rfl⟩ | ⟨rfl, rfl⟩ | ⟨rfl, rfl⟩ | ⟨rfl, rfl⟩ <;> rfl
  | code =>
    have digits := take_hex u t
    have length : (Text.hex 4 u.toNat).length = 4 := Text.length_hex u.toNat_lt
    have read : ∀ x : Text, Token.escape? (CodePoint.ofChar 'u' :: x) =
        (Token.unicodeEscape? (CodePoint.ofChar 'u' :: x)).map fun p => (p.1.toUnits, p.2, false) := fun _ => rfl
    obtain ⟨d, ds, shape⟩ := List.exists_cons_of_ne_nil (List.ne_nil_of_length_eq_add_one length)
    have digit : d.is '\x7b' = false := by
      have small := CodePoint.isHexDigit_small
        (Text.isHexDigit_hex 4 u.toNat d (by rw [shape]; exact List.mem_cons_self))
      exact beq_eq_false_iff_ne.mpr (Nat.ne_of_lt (Nat.lt_of_lt_of_le small (by decide)))
    have point : Token.unicodeEscape? (CodePoint.ofChar 'u' :: (Text.hex 4 u.toNat ++ t)) = some
      (CodePoint.ofNat u.toNat, 5) := by
      have value := Text.hexValue_hex 4 u.toNat
      rw [shape] at digits length value ⊢
      have plain : Token.unicodeEscape? (CodePoint.ofChar 'u' :: (d :: ds ++ t)) =
          if d.is '\x7b' then _ else
            if (((d :: ds ++ t).take 4).takeWhile Token.isHexDigit).length = 4 then
              some (CodePoint.ofNat (Token.hexValue (((d :: ds ++ t).take 4).takeWhile Token.isHexDigit)), 5)
            else none := rfl
      rw [plain, if_neg (by simp [digit]), digits, if_pos length, value]
    have small : (CodePoint.ofNat u.toNat).val < 0x10000 := by
      have := u.toNat_lt
      rw [CodePoint.val_ofNat (by omega)]
      omega
    have same : (CodePoint.ofNat u.toNat).toUnits = [u] := by
      have := u.toNat_lt
      rw [CodePoint.toUnits_small small, CodePoint.val_ofNat (by omega), UInt16.ofNat_toNat]
    rw [List.cons_append, read, point, Option.map_some]
    dsimp only
    rw [same, List.length_cons, length]

/-- What was taken already is passed, -/
theorem readString_skip (before : Utf16) :
    ∀ e t : Text, Json.readString before e.length (e ++ t) = Json.readString before 0 t
  | [], _ => rfl
  | _ :: e, t => readString_skip before e t

/-- in programs as well. -/
theorem scanString_skip (quote : CodePoint) (p : Token.Partial) :
    ∀ e t : Text, Token.scanString quote e.length p (e ++ t) = Token.scanString quote 0 p t
  | [], _ => rfl
  | _ :: e, t => scanString_skip quote p e t

/-- The reader of trees reads back what was put in quotes. -/
theorem Escaped.readString {us : Utf16} {e : Text} (h : Escaped us e) (before : Utf16) (t : Text) :
    Json.readString before 0 (e ++ CodePoint.ofChar '"' :: t) = .ok (before.reverse ++ us, t) := by
  induction h generalizing before with
  | nil => simp [Json.readString, (by decide : (CodePoint.ofChar '"').is '"' = true)]
  | plain open_ unmarked shown rest ih =>
    rw [List.cons_append, Json.readString, if_neg (by simp [open_]), if_neg (by omega), if_neg (by simp [unmarked]), ih]
    simp
  | escape spelled rest ih =>
    have next := readString_skip
    rw [List.cons_append, Json.readString, if_neg (by decide), if_neg (by decide), if_pos (by decide),
      List.append_assoc, spelled.readEscape]
    dsimp only
    rw [readString_skip, ih]
    simp

/-- The reader of programs reads back what was put in quotes. -/
theorem Escaped.scanString {us : Utf16} {e : Text} (h : Escaped us e) (p : Token.Partial) (t : Text) : ∃ plain,
    Token.scanString (CodePoint.ofChar '"') 0 p (e ++ CodePoint.ofChar '"' :: t) =
      (.string (p.units.reverse ++ us) plain p.legacy, t) := by
  induction h generalizing p with
  | nil => exact ⟨p.plain, by simp [Token.scanString]⟩
  | @plain c us e open_ unmarked shown rest ih =>
    obtain ⟨plain, read⟩ := ih (p.push c.toUnits)
    refine ⟨plain, ?_⟩
    have other : c ≠ CodePoint.ofChar '"' := by
      rintro rfl
      exact Bool.false_ne_true open_.symm
    have inside : ¬ (c.is '\n' || c.is '\r') = true := by
      simp only [CodePoint.is, Bool.or_eq_true, beq_iff_eq]
      show ¬ (c.val = 0x0A ∨ c.val = 0x0D)
      omega
    rw [List.cons_append, Token.scanString, if_neg other, if_neg inside, if_neg (by simp [unmarked]), read]
    simp [Token.Partial.push]
  | @escape u e us e' spelled rest ih =>
    obtain ⟨plain, read⟩ := ih { p.push [u] with plain := false, legacy := p.legacy || false }
    refine ⟨plain, ?_⟩
    have more : (e ++ (e' ++ CodePoint.ofChar '"' :: t)).isEmpty = false := by simp
    rw [List.cons_append, Token.scanString, if_neg (by decide), if_neg (by decide), if_pos (by decide),
      List.append_assoc, if_neg (by simp), spelled.escape?]
    dsimp only
    rw [scanString_skip, read]
    simp [Token.Partial.push]

/-! ## Putting in quotes -/

namespace Json

/-- Units that are an escape for one unit. -/
def Marks (us : Utf16) (u : UInt16) : Prop := ∃ e, Escape u e ∧ us = Text.toUtf16 (CodePoint.ofChar '\\' :: e) ∧
  ∀ c ∈ CodePoint.ofChar '\\' :: e, c.isSurrogate = false

/-- A letter behind a backslash is a mark for its unit. -/
theorem marks_letter {u : UInt16} {c : Char} (among : (u, c) ∈ letters) :
    Marks (Text.toUtf16 [CodePoint.ofChar '\\', CodePoint.ofChar c]) u := by
  refine ⟨_, .letter among, rfl, ?_⟩
  have plain : ∀ x ∈ letters, (CodePoint.ofChar x.2).isSurrogate = false := by decide
  exact List.forall_mem_cons.mpr ⟨rfl, List.forall_mem_singleton.mpr (plain _ among)⟩

/-- So are four digits behind a backslash and a letter. -/
theorem marks_spelledUnit (u : UInt16) : Marks (spelledUnit u) u := by
  refine ⟨_, .code u, rfl, ?_⟩
  intro c inside
  rcases List.mem_cons.mp inside with rfl | inside
  · rfl
  · rcases List.mem_cons.mp inside with rfl | inside
    · rfl
    · have small := CodePoint.isHexDigit_small (Text.isHexDigit_hex 4 u.toNat c inside)
      exact CodePoint.isSurrogate_eq_false_iff.mpr (.inl (by omega))

/-- A unit is put in quotes as an escape, or as it is. -/
theorem quotedUnit_cases (u : UInt16) : Marks (quotedUnit u) u ∨
    (quotedUnit u = [u] ∧ u ≠ 0x22 ∧ u ≠ 0x5C ∧ ¬ u < 0x20) := by
  unfold quotedUnit
  split
  · rename_i same
    exact .inl (same ▸ marks_letter (c := '"') (by decide))
  · rename_i open_
    split
    · rename_i same
      exact .inl (same ▸ marks_letter (c := '\\') (by decide))
    · rename_i mark
      split
      · rename_i same
        exact .inl (same ▸ marks_letter (c := 'b') (by decide))
      · split
        · rename_i same
          exact .inl (same ▸ marks_letter (c := 't') (by decide))
        · split
          · rename_i same
            exact .inl (same ▸ marks_letter (c := 'n') (by decide))
          · split
            · rename_i same
              exact .inl (same ▸ marks_letter (c := 'f') (by decide))
            · split
              · rename_i same
                exact .inl (same ▸ marks_letter (c := 'r') (by decide))
              · split
                · exact .inl (marks_spelledUnit u)
                · rename_i shown
                  exact .inr ⟨rfl, open_, mark, shown⟩

/-- Units between quotes, as they are written and as text. -/
structure Between (s us : Utf16) : Prop where
  whole : Utf16.Whole us
  escaped : Escaped s (Utf16.toText us)

theorem between_marks {us vs s : Utf16} {u : UInt16} (marks : Marks us u) (rest : Between s vs) :
    Between (u :: s) (us ++ vs) := by
  obtain ⟨e, spelled, rfl, plain⟩ := marks
  refine ⟨(Text.whole_toUtf16 plain).append rest.whole, ?_⟩
  rw [Text.toText_toUtf16 plain]
  exact .escape spelled rest.escaped

/-- A unit that needs no mark stands for itself, -/
theorem between_unit {vs s : Utf16} {u : UInt16} (lead : ¬ Utf16.Leads u) (open_ : u ≠ 0x22) (mark : u ≠ 0x5C)
    (shown : ¬ u < 0x20)
    (rest : Between s vs) : Between (u :: s) (u :: vs) := by
  refine ⟨Utf16.whole_cons lead rest.whole, ?_⟩
  have is : ∀ (n : UInt16) (c : Char), u ≠ n → n.toNat = c.toNat → (CodePoint.ofUnit u).is c = false := by
    intro n c other same
    refine beq_eq_false_iff_ne.mpr fun equal => other (UInt16.toNat_inj.mp ?_)
    rw [same]
    exact equal
  have escaped := Escaped.plain (c := CodePoint.ofUnit u) (is 0x22 '"' open_ rfl) (is 0x5C '\\' mark rfl)
    (Nat.not_lt.mp fun less => shown (UInt16.lt_iff_toNat_lt.mpr less)) rest.escaped
  rw [CodePoint.toUnits_ofUnit] at escaped
  rw [Utf16.toText_cons lead]
  exact escaped

/-- and so does a pair of units, as one character. -/
theorem between_pair {vs s : Utf16} {u v : UInt16} {c : CodePoint} (pair : CodePoint.ofPair? u v = some c)
    (rest : Between s vs) :
    Between (u :: v :: s) (u :: v :: vs) := by
  refine ⟨Utf16.whole_pair pair rest.whole, ?_⟩
  obtain ⟨val, -⟩ := CodePoint.val_of_pair pair
  have is : ∀ x : Char, x.toNat < 0x10000 → c.is x = false := fun x small =>
    beq_eq_false_iff_ne.mpr (by omega)
  have escaped := Escaped.plain (c := c) (is '"' (by decide)) (is '\\' (by decide)) (by omega) rest.escaped
  rw [CodePoint.toUnits_of_pair pair] at escaped
  rw [Utf16.toText_pair pair]
  exact escaped

theorem isHigh_iff (u : UInt16) : isHigh u = true ↔ Utf16.Leads u := by
  simp [isHigh, Utf16.Leads, UInt16.le_iff_toNat_le, UInt16.lt_iff_toNat_lt]

theorem isLow_iff (u : UInt16) : isLow u = true ↔ 0xDC00 ≤ u.toNat ∧ u.toNat < 0xE000 := by
  simp [isLow, UInt16.le_iff_toNat_le, UInt16.lt_iff_toNat_lt]

/-- What is put in quotes is the string, whatever its units are. -/
theorem between_quotedUnits : ∀ s : Utf16, Between s (quotedUnits false s)
  | [] => ⟨Utf16.whole_nil, .nil⟩
  | u :: rest => by
    unfold quotedUnits
    by_cases high : isHigh u = true
    · rw [if_pos high]
      match rest with
      | [] => exact between_marks (marks_spelledUnit u) ⟨Utf16.whole_nil, .nil⟩
      | v :: rest =>
        by_cases low : isLow v = true
        · have plain : ¬ isHigh v = true := by
            rw [isHigh_iff, Utf16.Leads]
            have := (isLow_iff v).mp low
            omega
          rw [if_pos (by simpa using low), quotedUnits, if_neg plain, if_pos low, if_pos rfl]
          exact between_pair (dif_pos ⟨(isHigh_iff u).mp high, (isLow_iff v).mp low⟩) (between_quotedUnits rest)
        · rw [if_neg (by simpa using low)]
          exact between_marks (marks_spelledUnit u) (between_quotedUnits (v :: rest))
    · rw [if_neg high]
      split
      · exact between_marks (marks_spelledUnit u) (between_quotedUnits rest)
      · rcases quotedUnit_cases u with marks | ⟨same, open_, mark, shown⟩
        · exact between_marks marks (between_quotedUnits rest)
        · rw [same]
          exact between_unit (fun lead => high ((isHigh_iff u).mpr lead)) open_ mark shown (between_quotedUnits rest)

end Json

end Script

end ScriptHost
