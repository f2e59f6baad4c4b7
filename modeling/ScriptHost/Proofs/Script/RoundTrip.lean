/-
Trees read back. What is written of a tree reads as that tree, but for the numbers that have no notation: zero loses its
sign, and what is no finite number becomes nothing.
-/
import ScriptHost.Proofs.Decimal.ReadBack
import ScriptHost.Proofs.Script.Quoted

namespace ScriptHost.Script.Json

open Decimal (Shown Spelling unsignedZero)
open Utf16 (Whole)

/-! ## The text of a tree -/

mutual

/-- A tree as it is read back. -/
def settled : Json → Json
  | number x => if x.isFinite then number (unsignedZero x) else null
  | array items => array (settledItems items)
  | object entries => object (settledEntries entries)
  | j => j

def settledItems : List Json → List Json
  | [] => []
  | j :: rest => j.settled :: settledItems rest

def settledEntries : List (Utf16 × Json) → List (Utf16 × Json)
  | [] => []
  | (k, j) :: rest => (k, j.settled) :: settledEntries rest

end

/-- What is written of a tree, as text. -/
def text (j : Json) : Text := Utf16.toText (j.write [] [])

/-- What stands between the quotes around a string. -/
def inner (s : Utf16) : Text := Utf16.toText (quotedUnits false s)

/-- What follows the first item of a list. -/
def itemsTail : List Json → Text
  | [] => "]"
  | j :: rest => "," ++ (j.text ++ itemsTail rest)

/-- An entry of an object. -/
def entryText (k : Utf16) (j : Json) : Text := "\"" ++ (inner k ++ ("\":" ++ j.text))

/-- What follows the first entry of an object. -/
def entriesTail : List (Utf16 × Json) → Text
  | [] => "\x7d"
  | (k, j) :: rest => "," ++ (entryText k j ++ entriesTail rest)

/-! ## Putting it together -/

theorem whole_ofString {s : String} (plain : ∀ c ∈ Text.ofString s, c.isSurrogate = false) : Whole (Utf16.ofString s) :=
  Text.whole_toUtf16 plain

theorem toText_ofString {s : String} (plain : ∀ c ∈ Text.ofString s, c.isSurrogate = false) (us : Utf16) :
    Utf16.toText (Utf16.ofString s ++ us) = Text.ofString s ++ Utf16.toText us :=
  Text.toText_toUtf16 plain us

theorem whole_quoted (s : Utf16) : Whole (quoted s) :=
  (whole_ofString (by decide)).append ((between_quotedUnits s).whole.append (whole_ofString (by decide)))

/-- A quoted string is quoted as a text just as in units. -/
theorem toText_quoted (s us : Utf16) :
    Utf16.toText (quoted s ++ us) = "\"" ++ (inner s ++ ("\"" ++ Utf16.toText us)) := by
  rw [quoted, List.append_assoc, toText_ofString (by decide), List.append_assoc, (between_quotedUnits s).whole,
    toText_ofString (by decide)]
  rfl

theorem whole_intercalate {sep : Utf16} (separates : Whole sep) : ∀ {parts : List Utf16}, (∀ us ∈ parts, Whole us) →
    Whole (List.intercalate sep parts)
  | [], _ => Utf16.whole_nil
  | [us], all => by
    rw [List.intercalate_singleton]
    exact all us List.mem_cons_self
  | us :: vs :: rest, all => by
    rw [List.intercalate_cons_cons]
    exact ((all us List.mem_cons_self).append separates).append
      (whole_intercalate separates fun ws inside => all ws (List.mem_cons_of_mem _ inside))

theorem whole_enclosed {opening closing : String} (first : ∀ c ∈ Text.ofString opening, c.isSurrogate = false)
    (last : ∀ c ∈ Text.ofString closing, c.isSurrogate = false)
    (both : ∀ c ∈ Text.ofString (opening ++ closing), c.isSurrogate = false)
    {parts : List Utf16} (all : ∀ us ∈ parts, Whole us) : Whole (enclosed opening closing [] [] parts) := by
  unfold enclosed
  split
  · exact whole_ofString both
  · rw [if_pos List.isEmpty_nil]
    exact ((whole_ofString first).append (whole_intercalate (whole_ofString (by decide)) all)).append
      (whole_ofString last)

/-- Numbers are written without surrogates. -/
theorem plain_number {x : Float} (finite : x.isFinite = true) : ∀ c ∈ Number.text x, c.isSurrogate = false := by
  obtain ⟨negative, s, shown⟩ := Decimal.exists_shown finite
  intro c inside
  have inside : c ∈ (if negative then Text.ofString "-" else Text.ofString "") ++ s.text := by
    have text := shown.text
    cases negative <;> exact text ▸ inside
  have mark : ∀ c ∈ Text.ofString "-", c.isSurrogate = false := by decide
  rcases List.mem_append.mp inside with inside | inside
  · cases negative
    · cases inside
    · exact mark c inside
  · have := shown.proper.ascii c inside
    exact CodePoint.isSurrogate_eq_false_iff.mpr (.inl (by omega))

mutual

/-- What is written for a tree is whole: no pair of units goes across its end. -/
theorem whole_write : ∀ j : Json, Whole (j.write [] [])
  | null => whole_ofString (s := "null") (by decide)
  | bool true => whole_ofString (s := "true") (by decide)
  | bool false => whole_ofString (s := "false") (by decide)
  | number x => by
    rw [write]
    split
    · rename_i finite
      exact Text.whole_toUtf16 (plain_number finite)
    · exact whole_ofString (by decide)
  | string s => whole_quoted s
  | array items => whole_enclosed (by decide) (by decide) (by decide) (whole_items items)
  | object entries => whole_enclosed (by decide) (by decide) (by decide) (whole_entries entries)

theorem whole_items : ∀ items : List Json, ∀ us ∈ writeItems [] [] items, Whole us
  | [] => fun _ inside => absurd inside List.not_mem_nil
  | j :: rest => List.forall_mem_cons.mpr ⟨whole_write j, whole_items rest⟩

theorem whole_entries : ∀ entries : List (Utf16 × Json), ∀ us ∈ writeEntries [] [] entries, Whole us
  | [] => fun _ inside => absurd inside List.not_mem_nil
  | (k, j) :: rest => List.forall_mem_cons.mpr
    ⟨((whole_quoted k).append (whole_ofString (by decide))).append (whole_write j), whole_entries rest⟩

end

/-- So it is read as a text piece by piece. -/
theorem toText_write (j : Json) (us : Utf16) : Utf16.toText (j.write [] [] ++ us) = j.text ++ Utf16.toText us :=
  whole_write j us

theorem toText_items (us : Utf16) : ∀ (j : Json) (rest : List Json),
    Utf16.toText (List.intercalate (Utf16.ofString ",") (writeItems [] [] (j :: rest)) ++ (Utf16.ofString "]" ++ us)) =
      j.text ++ (itemsTail rest ++ Utf16.toText us)
  | j, [] => by
    rw [writeItems, writeItems, List.intercalate_singleton, toText_write, toText_ofString (by decide)]
    rfl
  | j, k :: rest => by
    have next := toText_items us k rest
    rw [writeItems] at next ⊢
    rw [writeItems, List.intercalate_cons_cons, List.append_assoc, List.append_assoc, toText_write,
      toText_ofString (by decide), next]
    simp [itemsTail]

theorem toText_entries (us : Utf16) : ∀ (k : Utf16) (j : Json) (rest : List (Utf16 × Json)),
    Utf16.toText (List.intercalate (Utf16.ofString ",")
      (writeEntries [] [] ((k, j) :: rest)) ++ (Utf16.ofString "\x7d" ++ us)) =
      entryText k j ++ (entriesTail rest ++ Utf16.toText us)
  | k, j, [] => by
    rw [writeEntries, writeEntries, List.intercalate_singleton]
    show Utf16.toText (quoted k ++ Utf16.ofString ":" ++ _ ++ _) = _
    rw [List.append_assoc, List.append_assoc, toText_quoted, toText_ofString (by decide), toText_write,
      toText_ofString (by decide)]
    simp [entryText, entriesTail, Text.ofString]
  | k, j, (l, i) :: rest => by
    have next := toText_entries us l i rest
    rw [writeEntries] at next ⊢
    rw [writeEntries, List.intercalate_cons_cons]
    show Utf16.toText (quoted k ++ Utf16.ofString ":" ++ _ ++ _ ++ _ ++ _) = _
    rw [List.append_assoc, List.append_assoc, List.append_assoc, List.append_assoc, toText_quoted,
      toText_ofString (by decide), toText_write, toText_ofString (by decide), next]
    simp [entryText, entriesTail, Text.ofString]

/-- The text of a list is that of its first item and its tail, -/
theorem text_array (j : Json) (rest : List Json) : text (array (j :: rest)) = "[" ++ (j.text ++ itemsTail rest) := by
  have tail := toText_items [] j rest
  rw [List.append_nil] at tail
  have shape : write [] [] (array (j :: rest)) =
      Utf16.ofString "[" ++ (List.intercalate (Utf16.ofString ",")
        (writeItems [] [] (j :: rest)) ++ Utf16.ofString "]") :=
    List.append_assoc ..
  rw [text, shape, toText_ofString (by decide), tail]
  simp [Utf16.toText]

/-- and that of an object likewise of its first entry. -/
theorem text_object (k : Utf16) (j : Json) (rest : List (Utf16 × Json)) :
    text (object ((k, j) :: rest)) = "\x7b" ++ (entryText k j ++ entriesTail rest) := by
  have tail := toText_entries [] k j rest
  rw [List.append_nil] at tail
  have shape : write [] [] (object ((k, j) :: rest)) =
      Utf16.ofString "\x7b" ++ (List.intercalate (Utf16.ofString ",")
        (writeEntries [] [] ((k, j) :: rest)) ++ Utf16.ofString "\x7d") :=
    List.append_assoc ..
  rw [text, shape, toText_ofString (by decide), tail]
  simp [Utf16.toText]

theorem text_string (s : Utf16) : text (string s) = "\"" ++ (inner s ++ "\"") := by
  have quotes := toText_quoted s []
  rw [List.append_nil] at quotes
  rw [text, write, quotes]
  rfl

/-- A finite number is written by its shortest decimal. -/
theorem text_number {x : Float} (finite : x.isFinite = true) : text (number x) = Number.text x := by
  have back := Text.toText_toUtf16 (plain_number finite) []
  rw [List.append_nil] at back
  rw [text, write, if_pos finite, back]
  exact List.append_nil _

/-! ## Reading it -/

/-- A text is at its end, or goes on with what may follow an item of a list or an entry of an object. -/
def Follows (t : Text) : Prop := ∀ c ∈ t.head?, c.is ',' = true ∨ c.is ']' = true ∨ c.is '\x7d' = true

theorem Follows.ends {t : Text} (h : Follows t) : Decimal.Ends t := by
  intro c head
  have val : c.val = 0x2C ∨ c.val = 0x5D ∨ c.val = 0x7D := by
    simpa [CodePoint.is] using h c head
  simp only [CodePoint.isDigit, CodePoint.is, Bool.and_eq_false_iff, decide_eq_false_iff_not, beq_eq_false_iff_ne]
  have points : '.'.toNat = 0x2E ∧ 'e'.toNat = 0x65 ∧ 'E'.toNat = 0x45 := by decide
  omega

theorem follows_itemsTail (items : List Json) (t : Text) : Follows (itemsTail items ++ t) := by
  cases items with
  | nil =>
    rintro c ⟨⟩
    exact .inr (.inl rfl)
  | cons j rest =>
    rintro c ⟨⟩
    exact .inl rfl

theorem follows_entriesTail (entries : List (Utf16 × Json)) (t : Text) : Follows (entriesTail entries ++ t) := by
  cases entries with
  | nil =>
    rintro c ⟨⟩
    exact .inr (.inr rfl)
  | cons j rest =>
    rintro c ⟨⟩
    exact .inl rfl

/-- A decimal is read as a number, with the sign before it. -/
theorem readNumber_spelling {s : Spelling} (proper : s.Proper)
    (first : 1 < s.whole.length → ∀ c ∈ s.whole.head?, c.is '0' = false)
    {c : CodePoint} {t u : Text} (follows : Follows t) (body : (if c.is '-' then u else c :: u) = s.text ++ t) :
    readNumber (c :: u) = .ok (if (s.text ++ t).length = (c :: u).length then Decimal.toFloat s.digits s.place
      else -Decimal.toFloat s.digits s.place, t) := by
  have behind := Decimal.head_exponentText (s := s) follows.ends
  have rest : s.text ++ t = s.whole ++ (s.fractionText ++ (s.exponentText ++ t)) := by
    rw [Spelling.text, List.append_assoc, List.append_assoc]
  have point : ∀ c ∈ (s.fractionText ++ (s.exponentText ++ t)).head?, c.isDigit = false ∧
      (c.is '.' = true → ∃ d ∈ ((s.fractionText ++ (s.exponentText ++ t)).drop 1).head?, d.isDigit = true) := by
    intro c head
    by_cases none : s.fraction = []
    · have empty : s.fractionText = [] := if_pos (by rw [none]; rfl)
      rw [empty, List.nil_append] at head
      obtain ⟨digit, mark⟩ := behind c head
      exact ⟨digit, fun is => absurd is (by simp [mark])⟩
    · have shown : s.fractionText = CodePoint.ofChar '.' :: s.fraction := if_neg (by rwa [List.isEmpty_iff])
      obtain ⟨d, ds, digits⟩ := List.exists_cons_of_ne_nil none
      rw [shown] at head ⊢
      cases head
      refine ⟨rfl, fun _ => ⟨d, ?_, proper.fraction d (by rw [digits]; exact List.mem_cons_self)⟩⟩
      rw [digits]
      rfl
  have scanned := Decimal.scan?_text proper follows.ends
  have taken := Decimal.takeWhile_digits proper.whole fun c head => (point c head).1
  have dropped : (s.whole ++ (s.fractionText ++ (s.exponentText ++ t))).drop s.whole.length =
      s.fractionText ++ (s.exponentText ++ t) := List.drop_left
  have nonempty : s.whole.isEmpty = false := by
    rw [List.isEmpty_eq_false_iff]
    exact proper.some
  have tidy : (decide (1 < s.whole.length) && s.whole.head?.any (·.is '0')) = false := by
    by_cases long : 1 < s.whole.length
    · have zero := first long
      rcases head : s.whole.head? with _ | c
      · simp
      · simp [zero c head]
    · simp [long]
  rw [rest] at body scanned ⊢
  unfold readNumber
  dsimp only
  rw [body, taken, dropped, nonempty, tidy, scanned]
  generalize s.fractionText ++ (s.exponentText ++ t) = more at point
  cases more with
  | nil => rfl
  | cons c more =>
    have right : (c.is '.' && !more.head?.any (·.isDigit)) = false := by
      rcases mark : c.is '.' with _ | _
      · rfl
      · obtain ⟨d, head, digit⟩ := (point c rfl).2 mark
        have head : more.head? = some d := head
        simp [head, digit]
    simp only [right, Bool.or_self, Bool.false_eq_true, if_false]

/-- Numbers are read back. -/
theorem readNumber_text {x : Float} (finite : x.isFinite = true) {t : Text} (follows : Follows t) :
    ∃ c rest, Number.text x = c :: rest ∧ (c.is '-' = true ∨ c.isDigit = true) ∧
      readNumber (c :: rest ++ t) = .ok (unsignedZero x, t) := by
  obtain ⟨negative, s, shown⟩ := Decimal.exists_shown finite
  have proper := shown.proper
  have value := shown.value
  have text : Number.text x = _ := shown.text
  obtain ⟨d, ds, whole⟩ := List.exists_cons_of_ne_nil proper.some
  have digit : d.isDigit = true := proper.whole d (by rw [whole]; exact List.mem_cons_self)
  cases negative with
  | true =>
    refine ⟨_, _, text, .inl rfl, ?_⟩
    have read := readNumber_spelling proper shown.first follows (c := CodePoint.ofChar '-') (u := s.text ++ t) rfl
    rw [if_neg (by simp)] at read
    rw [← value]
    exact read
  | false =>
    have unsigned : d.is '-' = false := by
      simp only [CodePoint.isDigit, Bool.and_eq_true, decide_eq_true_eq] at digit
      exact beq_eq_false_iff_ne.mpr (Nat.ne_of_gt (Nat.lt_of_lt_of_le (by decide : '-'.toNat < 0x30) digit.1))
    have shape : s.text = d :: (ds ++ (s.fractionText ++ s.exponentText)) := by
      rw [Spelling.text, whole]
      rfl
    refine ⟨d, _, text.trans shape, .inr digit, ?_⟩
    have read := readNumber_spelling proper shown.first follows (c := d)
      (u := ds ++ (s.fractionText ++ s.exponentText) ++ t) (by
      rw [shape, unsigned]
      rfl)
    rw [shape, List.cons_append, if_pos rfl] at read
    rw [← value]
    exact read

/-- What does not begin with a blank is not skipped. -/
theorem skipBlanks_solid {c : CodePoint} (solid : isBlank c = false) (t : Text) : skipBlanks (c :: t) = c :: t := by
  simp [skipBlanks, solid]

/-- A point that a number may begin with is none that anything else begins with. -/
theorem opens_number {c : CodePoint} (first : c.is '-' = true ∨ c.isDigit = true) : isBlank c = false ∧
    c.is ']' = false ∧
    c.is '\x7b' = false ∧ c.is '[' = false ∧ c.is '"' = false := by
  simp only [CodePoint.is, beq_iff_eq, CodePoint.isDigit, Bool.and_eq_true, decide_eq_true_eq] at first
  simp only [isBlank, CodePoint.is, Bool.or_eq_false_iff, decide_eq_false_iff_not, beq_eq_false_iff_ne]
  have points : '-'.toNat = 0x2D ∧ ']'.toNat = 0x5D ∧ '\x7b'.toNat = 0x7B ∧
    '['.toNat = 0x5B ∧ '"'.toNat = 0x22 := by decide
  omega

/-- A tree begins neither with a blank nor with the end of a list. -/
theorem head_text (j : Json) : ∃ c rest, j.text = c :: rest ∧ isBlank c = false ∧ c.is ']' = false := by
  match j with
  | null => exact ⟨_, _, rfl, by decide, by decide⟩
  | bool true => exact ⟨_, _, rfl, by decide, by decide⟩
  | bool false => exact ⟨_, _, rfl, by decide, by decide⟩
  | string s => exact ⟨_, _, text_string s, by decide, by decide⟩
  | array [] => exact ⟨_, _, rfl, by decide, by decide⟩
  | array (j :: rest) => exact ⟨_, _, text_array j rest, by decide, by decide⟩
  | object [] => exact ⟨_, _, rfl, by decide, by decide⟩
  | object ((k, j) :: rest) => exact ⟨_, _, text_object k j rest, by decide, by decide⟩
  | number x =>
    by_cases finite : x.isFinite = true
    · obtain ⟨c, rest, shape, first, -⟩ := readNumber_text finite (t := []) nofun
      have opens := opens_number first
      exact ⟨c, rest, (text_number finite).trans shape, opens.1, opens.2.1⟩
    · have none : text (number x) = Utf16.toText (Utf16.ofString "null") := by rw [text, write, if_neg finite]
      exact ⟨_, _, none, by decide, by decide⟩

mutual

/-- A tree is read back from the start of a text. -/
theorem readTree_text : ∀ (j : Json) {fuel : Nat} {t : Text}, 2 * j.text.length ≤ fuel → Follows t →
    readTree fuel (j.text ++ t) = .ok (j.settled, t)
  | j, 0, t, enough, _ => by
    obtain ⟨c, rest, shape, -⟩ := head_text j
    rw [shape] at enough
    cases enough
  | null, fuel + 1, t, _, _ => rfl
  | bool true, fuel + 1, t, _, _ => rfl
  | bool false, fuel + 1, t, _, _ => rfl
  | string s, fuel + 1, t, _, _ => by
    have read := (between_quotedUnits s).escaped.readString [] t
    have shape : text (string s) ++ t = CodePoint.ofChar '"' :: (inner s ++ CodePoint.ofChar '"' :: t) := by
      rw [text_string]
      simp [Text.ofString]
    rw [shape, readTree, skipBlanks_solid (by decide)]
    dsimp only
    rw [if_neg (by decide), if_neg (by decide), if_pos (by decide), inner, read]
    rfl
  | number x, fuel + 1, t, _, follows => by
    by_cases finite : x.isFinite = true
    · obtain ⟨c, rest, shape, first, read⟩ := readNumber_text finite follows
      obtain ⟨solid, -, brace, bracket, quote⟩ := opens_number first
      rw [text_number finite, shape, List.cons_append, readTree, skipBlanks_solid solid]
      dsimp only
      rw [if_neg (by simp [brace]), if_neg (by simp [bracket]), if_neg (by simp [quote]), if_pos (by simpa using first),
        ← List.cons_append, read, settled, if_pos finite]
      rfl
    · have none : text (number x) = Utf16.toText (Utf16.ofString "null") := by rw [text, write, if_neg finite]
      rw [none, settled, if_neg finite]
      rfl
  | array [], fuel + 1, t, _, _ => rfl
  | array (j :: rest), fuel + 1, t, enough, _ => by
    have shape : text (array (j :: rest)) ++ t = CodePoint.ofChar '[' :: (j.text ++ (itemsTail rest ++ t)) := by
      rw [text_array]
      simp [Text.ofString]
    have length : (text (array (j :: rest))).length = (j.text ++ itemsTail rest).length + 1 := by
      rw [text_array]
      rfl
    have read : readItems fuel [] (j.text ++ (itemsTail rest ++ t)) = _ := readItems_text j rest [] (by omega)
    obtain ⟨c, more, first, solid, notEnd⟩ := head_text j
    rw [shape, readTree, skipBlanks_solid (by decide)]
    dsimp only
    rw [if_neg (by decide), if_pos (by decide)]
    rw [first, List.cons_append] at read ⊢
    rw [skipBlanks_solid solid]
    dsimp only
    rw [if_neg (by simp [notEnd]), read]
    rfl
  | object [], fuel + 1, t, _, _ => rfl
  | object ((k, j) :: rest), fuel + 1, t, enough, _ => by
    have shape : text (object ((k, j) :: rest)) ++ t =
      CodePoint.ofChar '\x7b' :: (entryText k j ++ (entriesTail rest ++ t)) := by
      rw [text_object]
      simp [Text.ofString]
    have length : (text (object ((k, j) :: rest))).length = (entryText k j ++ entriesTail rest).length + 1 := by
      rw [text_object]
      rfl
    have read : readEntries fuel [] (entryText k j ++ (entriesTail rest ++ t)) = _ :=
      readEntries_text k j rest [] (by omega)
    have first : entryText k j = CodePoint.ofChar '"' :: (inner k ++ ("\":" ++ j.text)) := rfl
    rw [shape, readTree, skipBlanks_solid (by decide)]
    dsimp only
    rw [if_pos (by decide)]
    rw [first, List.cons_append] at read ⊢
    rw [skipBlanks_solid (by decide)]
    dsimp only
    rw [if_neg (by decide), read]
    rfl

/-- Items are read back behind those before them, each with the fuel for its own text, -/
theorem readItems_text : ∀ (j : Json) (rest : List Json) {fuel : Nat} (before : List Json) {t : Text},
    2 * (j.text ++ itemsTail rest).length + 1 ≤ fuel →
    readItems fuel before (j.text ++ (itemsTail rest ++ t)) = .ok
        (array (before.reverse ++ settledItems (j :: rest)), t)
  | j, rest, fuel + 1, before, t, enough => by
    rw [List.length_append] at enough
    rw [readItems, readTree_text j (by omega) (follows_itemsTail rest t)]
    match rest with
    | [] =>
      have shape : itemsTail [] ++ t = CodePoint.ofChar ']' :: t := rfl
      dsimp only
      rw [shape, skipBlanks_solid (by decide)]
      dsimp only
      rw [if_neg (by decide), if_pos (by decide), List.reverse_cons]
      rfl
    | k :: rest =>
      have read : readItems fuel (j.settled :: before) (k.text ++ (itemsTail rest ++ t)) = _ :=
        readItems_text k rest _ (by
        have length : (itemsTail (k :: rest)).length = (k.text ++ itemsTail rest).length + 1 := rfl
        omega)
      have shape : itemsTail (k :: rest) ++ t = CodePoint.ofChar ',' :: (k.text ++ (itemsTail rest ++ t)) := by
        simp [itemsTail, Text.ofString]
      dsimp only
      rw [shape, skipBlanks_solid (by decide)]
      dsimp only
      rw [if_pos (by decide), read, List.reverse_cons, List.append_assoc]
      rfl

/-- and so are entries. -/
theorem readEntries_text : ∀ (k : Utf16) (j : Json) (rest : List (Utf16 × Json)) {fuel : Nat}
    (before : List (Utf16 × Json)) {t : Text}, 2 * (entryText k j ++ entriesTail rest).length + 1 ≤ fuel →
    readEntries fuel before (entryText k j ++ (entriesTail rest ++ t)) =
      .ok (object (before.reverse ++ settledEntries ((k, j) :: rest)), t)
  | k, j, rest, fuel + 1, before, t, enough => by
    have key := (between_quotedUnits k).escaped.readString []
      (CodePoint.ofChar ':' :: (j.text ++ (entriesTail rest ++ t)))
    have shape : entryText k j ++ (entriesTail rest ++ t) =
        CodePoint.ofChar '"' :: (inner k ++ CodePoint.ofChar '"' :: CodePoint.ofChar ':' ::
          (j.text ++ (entriesTail rest ++ t))) := by
      simp [entryText, Text.ofString]
    have length : j.text.length < (entryText k j).length := by
      simp [entryText, Text.ofString]
      omega
    rw [List.length_append] at enough
    rw [List.reverse_nil, List.nil_append] at key
    rw [shape, readEntries, skipBlanks_solid (by decide)]
    dsimp only
    rw [if_neg (by decide), inner, key]
    dsimp only
    rw [skipBlanks_solid (by decide)]
    dsimp only
    rw [if_neg (by decide), readTree_text j (by omega) (follows_entriesTail rest t)]
    match rest with
    | [] =>
      have shape : entriesTail [] ++ t = CodePoint.ofChar '\x7d' :: t := rfl
      dsimp only
      rw [shape, skipBlanks_solid (by decide)]
      dsimp only
      rw [if_neg (by decide), if_pos (by decide), List.reverse_cons]
      rfl
    | (l, i) :: rest =>
      have read : readEntries fuel ((k, j.settled) :: before) (entryText l i ++ (entriesTail rest ++ t)) = _ :=
        readEntries_text l i rest _ (by
        have length : (entriesTail ((l, i) :: rest)).length = (entryText l i ++ entriesTail rest).length + 1 := rfl
        omega)
      have shape : entriesTail ((l, i) :: rest) ++ t =
        CodePoint.ofChar ',' :: (entryText l i ++ (entriesTail rest ++ t)) := by
        simp [entriesTail, Text.ofString]
      dsimp only
      rw [shape, skipBlanks_solid (by decide)]
      dsimp only
      rw [if_pos (by decide), read, List.reverse_cons, List.append_assoc]
      rfl

end

/-- What is written of a tree is read as that tree, but for the sign of zero and numbers that are not finite. -/
theorem read_write (j : Json) : read (Utf16.toText (j.write [] [])) = .ok j.settled := by
  have tree : readTree (2 * j.text.length + 2) (j.text ++ []) = _ := readTree_text j (by omega) nofun
  rw [List.append_nil] at tree
  show read j.text = _
  rw [read, tree]
  rfl

end ScriptHost.Script.Json
