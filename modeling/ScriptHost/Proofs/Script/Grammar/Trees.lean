/-
Trees in programs. Where what is written of a tree stands in the source of a program, it is read as an expression, and
that expression is a literal of the tree as it is read back.
-/
import ScriptHost.Proofs.Script.Grammar.Pieces
import ScriptHost.Proofs.Script.Literal
import ScriptHost.Proofs.Script.Tidy

namespace ScriptHost.Script

open Decimal (Shown Spelling unsignedZero)
open Engine (Literal LiteralEntries LiteralItems)
open Grammar Parse
open Token (First)

/-! ## What follows -/

/-- A text goes on with what follows an item of a list or an entry of an object. -/
inductive Closing : Text → Prop
  | comma (v : Text) : Closing ("," ++ v)
  | bracket (v : Text) : Closing ("]" ++ v)
  | brace (v : Text) : Closing ("\x7d" ++ v)

namespace Closing

variable {u : Text}

theorem closed (h : Closing u) : Closed u := by
  cases h with
  | comma v => exact ⟨⟨.mark ",", false, _, v⟩, ⟨rfl, rfl, trivial⟩, ",", by decide, rfl⟩
  | bracket v => exact ⟨⟨.mark "]", false, _, v⟩, ⟨rfl, rfl, trivial⟩, "]", by decide, rfl⟩
  | brace v => exact ⟨⟨.mark "\x7d", false, _, v⟩, ⟨rfl, rfl, trivial⟩, "\x7d", by decide, rfl⟩

/-- No name goes on. -/
theorem stops (h : Closing u) : ∀ c ∈ u.head?, c.isNamePart = false ∧ c.is '\\' = false := by
  cases h <;> rintro c ⟨⟩ <;> decide

theorem ends (h : Closing u) : Decimal.Ends u := by
  cases h <;> rintro c ⟨⟩ <;> decide

theorem itemsTail (items : List Json) (t : Text) : Closing (Json.itemsTail items ++ t) := by
  cases items with
  | nil => exact .bracket t
  | cons j rest => exact .comma _

theorem entriesTail (entries : List (Utf16 × Json)) (t : Text) : Closing (Json.entriesTail entries ++ t) := by
  cases entries with
  | nil => exact .brace t
  | cons j rest => exact .comma _

end Closing

/-! ## Its tokens -/

/-- A string in quotes. -/
theorem first_quoted (s : Utf16) (u : Text) :
    ∃ plain, First (CodePoint.ofChar '"' :: (Json.inner s ++ CodePoint.ofChar '"' :: u))
    ⟨.string s plain false, false, CodePoint.ofChar '"' :: (Json.inner s ++ CodePoint.ofChar '"' :: u), u⟩ := by
  obtain ⟨plain, read⟩ := (Json.between_quotedUnits s).escaped.scanString {} u
  exact ⟨plain, rfl, read, trivial⟩

/-- A digit begins nothing but a number. -/
theorem digit_apart {c : CodePoint} (digit : c.isDigit = true) : Token.isBlank c = false ∧ Token.isLineEnd c = false ∧
    c.is '/' = false ∧ c.isNameStart = false ∧ c.is '\\' = false ∧ c.is '"' = false ∧ c.is '\'' = false := by
  obtain ⟨n, lt⟩ := c
  simp only [CodePoint.isDigit, Bool.and_eq_true, decide_eq_true_eq] at digit
  obtain ⟨low, high⟩ := digit
  interval_cases n <;> exact ⟨rfl, rfl, rfl, rfl, rfl, rfl, rfl⟩

/-- What may follow the first digits of a decimal. -/
theorem head_behind (s : Spelling) {u : Text} (closing : Closing u) :
    ∀ m ∈ (s.fractionText ++ (s.exponentText ++ u)).head?, m ∈ (['.', 'e', ',', ']', '\x7d'] :
      List Char).map CodePoint.ofChar := by
  have exponent : ∀ m ∈ (s.exponentText ++ u).head?, m ∈ (['.', 'e', ',', ']', '\x7d'] :
    List Char).map CodePoint.ofChar := by
    unfold Spelling.exponentText
    split
    · next negative ds _ =>
      cases negative <;> rintro m ⟨⟩ <;> decide
    · cases closing <;> rintro m ⟨⟩ <;> decide
  unfold Spelling.fractionText
  split
  · exact exponent
  · rintro m ⟨⟩
    decide

/-- A decimal. -/
theorem first_spelling {s : Spelling} (proper : s.Proper)
    (first : 1 < s.whole.length → ∀ c ∈ s.whole.head?, c.is '0' = false)
    {u : Text} (closing : Closing u) :
    First (s.text ++ u) ⟨.number (Decimal.toFloat s.digits s.place) false, false, s.text ++ u, u⟩ := by
  have scanned := Decimal.scan?_text proper closing.ends
  have behind := head_behind s closing
  have shape : s.text ++ u = s.whole ++ (s.fractionText ++ (s.exponentText ++ u)) := by
    rw [Spelling.text, List.append_assoc, List.append_assoc]
  obtain ⟨d, ds, whole⟩ := List.exists_cons_of_ne_nil proper.some
  obtain ⟨blank, line, slash, name, escape, quote, quote'⟩ :=
    digit_apart (proper.whole d (by rw [whole]; exact List.mem_cons_self))
  have digit : d.isDigit = true := proper.whole d (by rw [whole]; exact List.mem_cons_self)
  have number : Token.scanNumber (s.text ++ u) = some (Decimal.toFloat s.digits s.place, false, u) := by
    rw [shape, whole, List.cons_append] at scanned ⊢
    by_cases zero : d.is '0' = true
    · have single : ds = [] := by
        by_contra more
        have long : 1 < s.whole.length := by
          rw [whole, List.length_cons]
          exact Nat.succ_lt_succ (List.length_pos_iff.mpr more)
        have other := first long d (by rw [whole]; rfl)
        rw [zero] at other
        cases other
      subst single
      rw [List.nil_append] at scanned ⊢
      rcases rest : s.fractionText ++ (s.exponentText ++ u) with _ | ⟨m, more⟩
      · rw [rest] at scanned
        simp only [Token.scanNumber, scanned]
        rfl
      · rw [rest] at scanned behind
        have among := behind m rfl
        have apart : ∀ m ∈ (['.', 'e', ',', ']', '\x7d'] : List Char).map CodePoint.ofChar, m.is 'x' = false ∧
          m.is 'X' = false ∧
            m.is 'o' = false ∧ m.is 'O' = false ∧ m.is 'b' = false ∧ m.is 'B' = false ∧ m.isDigit = false := by decide
        obtain ⟨x, x', o, o', b, b', digit⟩ := apart m among
        simp only [Token.scanNumber, scanned, zero, x, x', o, o', b, b', digit]
        rfl
    · unfold Token.scanNumber
      rw [scanned]
      dsimp only
      split
      · next z m more same =>
        obtain ⟨rfl, -⟩ := List.cons.inj same
        rw [if_pos (by simpa using zero)]
        rfl
      · rfl
  have stops : u.head?.any (·.isNamePart) = false := by
    rcases u with _ | ⟨c, v⟩
    · rfl
    · exact (closing.stops c rfl).1
  rw [shape, whole] at *
  refine ⟨?_, ?_, trivial⟩
  · simp [Token.skipGap, blank, line, slash]
  · rw [List.cons_append] at number ⊢
    simp only [Token.scan, name, escape, quote, quote', digit, number, stops]
    rfl

theorem first_word {u : Text} (closing : Closing u) {w : String} (among : w ∈ ["null", "true", "false"]) :
    First (Text.ofString w ++ u) ⟨.word w, false, Text.ofString w ++ u, u⟩ := by
  simp only [List.mem_cons, List.not_mem_nil, or_false] at among
  obtain rfl | rfl | rfl := among <;> cases closing <;> exact ⟨rfl, rfl, trivial⟩

/-- The mark of a negative number. -/
theorem first_minus {c : CodePoint} (digit : c.isDigit = true) (t : Text) :
    First (Text.ofString "-" ++ c :: t) ⟨.mark "-", false, Text.ofString "-" ++ c :: t, c :: t⟩ := by
  have second : ∀ p ∈ Token.longMarks, ∃ a b rest, p.1 = a :: b :: rest ∧ b.isDigit = false := by
    have checked : ∀ p ∈ Token.longMarks, (p.1.drop 1).head?.any (fun b => !b.isDigit) = true := by decide +kernel
    rintro ⟨m, s⟩ among
    have long := checked _ among
    match m, long with
    | a :: b :: rest, long => exact ⟨a, b, rest, rfl, by simpa using long⟩
  have alone : Token.longMarks.find? (·.1.isPrefixOf (Text.ofString "-" ++ c :: t)) = none := by
    refine List.find?_eq_none.mpr fun p among => ?_
    obtain ⟨a, b, rest, shape, other⟩ := second p among
    have apart : (b == c) = false := beq_eq_false_iff_ne.mpr fun same => by
      rw [same, digit] at other
      cases other
    rw [shape]
    show ¬ (a == CodePoint.ofChar '-' && (b == c && rest.isPrefixOf t)) = true
    simp [apart]
  refine ⟨rfl, ?_, trivial⟩
  show Token.scan (CodePoint.ofChar '-' :: c :: t) = _
  unfold Token.scan
  dsimp only
  have mark : ((CodePoint.ofChar '-').isDigit || ((CodePoint.ofChar '-').is '.' && (c :: t).head?.any (·.isDigit))) =
    false := rfl
  rw [if_neg (by decide), if_neg (by decide), if_neg (by decide), mark, if_neg (by decide), if_neg (by decide)]
  rw [show (CodePoint.ofChar '-' :: c :: t) = Text.ofString "-" ++ c :: t from rfl, alone]
  rfl

/-! ## Reading it -/

/-- A lexeme is a constant. -/
inductive Lexeme.Is : Lexeme → Primitive → Prop
  | null : Is (.word "null") .null
  | true : Is (.word "true") (.bool true)
  | false : Is (.word "false") (.bool false)
  | number (x : Float) : Is (.number x Bool.false) (.number x)
  | string (s : Utf16) (plain : Bool) : Is (.string s plain Bool.false) (.string s)

section Reading

variable {g : Grammar} {c : Context} {r : Reading} {e : Expr} {p : Primitive} {tok : Token} {t u : Text}

theorem Lexeme.Is.begins (h : tok.lexeme.Is p) : tok.Begins := by
  obtain ⟨lexeme, line, start, behind⟩ := tok
  cases h
  · exact Token.begins_of_is (s := "null") rfl (by decide)
  · exact Token.begins_of_is (s := "true") rfl (by decide)
  · exact Token.begins_of_is (s := "false") rfl (by decide)
  · exact fun _ _ => rfl
  · exact fun _ _ => rfl

/-- A token for a constant is read as that constant. -/
theorem primary_constant (h : tok.lexeme.Is p) {ts : List Token} (fine : Fine ts) :
    primary g c (r.at (tok :: ts)) = .ok (.constant p, r.at ts) := by
  have plain : ∀ e : Expr, (advance >>= fun _ => pure e : Parse Expr) (r.at (tok :: ts)) = .ok (e, r.at ts) := fun e =>
    bind_ok (advance_at fine)
  obtain ⟨lexeme, line, start, behind⟩ := tok
  cases h <;> exact plain _

section Closed

variable (first : First t tok)
include first

theorem primary_of_constant (h : tok.lexeme.Is p) (closed : Closed tok.behind) :
    primary g c (r.on t) = .ok (.constant p, r.on tok.behind) := by
  rw [first.on]
  exact primary_constant h closed.fine

variable (some : 0 < r.budget)
include some

/-- Before a text that closes, the constant is the whole expression. -/
theorem assignment_of_constant (h : tok.lexeme.Is p) (closed : Closed tok.behind) :
    assignmentExpression g c (r.on t) = .ok (.constant p, r.on tok.behind) :=
  assignment_of_primary some first h.begins closed (primary_of_constant first h closed)

/-- A constant with a minus before it. -/
theorem assignment_of_negative (minus : tok.lexeme = .mark "-") {tok' : Token} (behind : First tok.behind tok')
    (h : tok'.lexeme.Is p) (closed : Closed tok'.behind) (d : Nat) :
    (ofDepth (d + 2)).assignment c (r.on t) = .ok (.unary .minus (.constant p), r.on tok'.behind) := by
  have left := leftHandSide_of_closed (g := ofDepth d) (c := c) some behind h.begins closed
    (primary_of_constant behind h closed)
  obtain ⟨last, first', closes⟩ := closed
  rw [behind.on, first'.on] at left
  have operand := unary_closed closes h.begins left .refused
  rw [← behind.on] at operand
  have op : unaryOp? tok = Option.some (.unary .minus) := by
    simp [unaryOp?, Token.is, minus]
  show assignmentExpression (ofDepth (d + 1)) c _ = _
  rw [first.on, first'.on]
  refine assignment_of_unary closes some ?_
  rw [unaryExpression, bind_ok peek_at, op]
  dsimp only
  rw [bind_ok (advance_at behind.fine)]
  exact bind_ok operand

end Closed

/-! ### Lists and objects -/

/-- A tree is read as an expression, wherever what is written of it stands. -/
structure ReadAs (j : Json) (e : Expr) : Prop where
  literal : Literal e j.settled (j.height + 2)
  plain : ∀ n, named n e = e
  /-- The tree takes a token at least, which does not end a list, and one more for every level. -/
  first : ∀ {u : Text}, Closing u → ∃ tok, First (j.text ++ u) tok ∧ tok.is "]" = false ∧ tok.is "," = false ∧
    (Token.ofSource u).length + j.height ≤ (Token.ofSource tok.behind).length
  read : ∀ {u : Text} {d : Nat} {c : Context} {r : Reading}, Closing u → j.height + 2 ≤ d →
    (Token.ofSource (j.text ++ u)).length ≤ r.budget → (ofDepth d).assignment c (r.on (j.text ++ u)) = .ok (e, r.on u)

/-- A tree takes more tokens than it is high, so as many turns as there are tokens are enough for it. -/
theorem ReadAs.length_lt {j : Json} (h : ReadAs j e) (closing : Closing u) :
    (Token.ofSource u).length + j.height < (Token.ofSource (j.text ++ u)).length := by
  obtain ⟨tok, first, -, -, more⟩ := h.first closing
  rw [first.ofSource]
  exact Nat.lt_succ_of_le more

section Turns

variable {j : Json} {d n : Nat} {before : List (Option Expr)}

theorem first_comma (u : Text) : First ("," ++ u) ⟨.mark ",", false, "," ++ u, u⟩ := ⟨rfl, rfl, trivial⟩

theorem first_bracket (u : Text) : First ("]" ++ u) ⟨.mark "]", false, "]" ++ u, u⟩ := ⟨rfl, rfl, trivial⟩

variable (h : ReadAs j e) (deep : j.height + 2 ≤ d)
include h deep

/-- An item is read, and what stands between it and the next one. -/
theorem itemTurn {v : Text} (closing : Closing v) (budget : (Token.ofSource (j.text ++ v)).length ≤ r.budget) :
    arrayTurn (ofDepth d) c before (r.on (j.text ++ v)) =
      (do
        if !(← sees "]") then expect ","
        return .inl (some e :: before) : Parse (Sum (List (Option Expr)) (List (Option Expr)))) (r.on v) := by
  have read := h.read (c := c) closing deep budget
  obtain ⟨tok, first, bracket, comma, -⟩ := h.first closing
  rw [first.on] at read ⊢
  rw [arrayTurn, bind_ok (accept_other bracket), if_neg (by decide), bind_ok (accept_other comma), if_neg (by decide),
    bind_ok read]

/-- The last item of a list is read, and the bracket behind it is left. -/
theorem itemTurn_last (budget : (Token.ofSource (j.text ++ ("]" ++ u))).length ≤ r.budget) :
    arrayTurn (ofDepth d) c before (r.on (j.text ++ ("]" ++ u))) = .ok (.inl (some e :: before), r.on ("]" ++ u)) := by
  rw [itemTurn h deep (.bracket u) budget, (first_bracket u).on]
  rfl

/-- An item that another one follows is read with the comma behind it. -/
theorem itemTurn_next {v : Text} (fine : Fine (Token.ofSource v))
    (budget : (Token.ofSource (j.text ++ ("," ++ v))).length ≤ r.budget) :
    arrayTurn (ofDepth d) c before (r.on (j.text ++ ("," ++ v))) = .ok (.inl (some e :: before), r.on v) := by
  rw [itemTurn h deep (.comma v) budget, (first_comma v).on, bind_ok sees_at, show Token.is _ "]" = false from rfl]
  rw [if_pos (by decide), bind_ok (expect_at rfl fine)]
  rfl

end Turns

/-- The items of a list are read one by one. -/
theorem iterate_items {d : Nat} {rest : List Json} {es : List Expr} (all : List.Forall₂ ReadAs rest es)
    (closing : Closing u) :
    ∀ {j : Json} {e : Expr}, ReadAs j e → Json.heights (j :: rest) + 2 ≤ d → ∀ {n : Nat} {before : List (Option Expr)},
      (Token.ofSource (j.text ++ (Json.itemsTail rest ++ u))).length ≤ r.budget →
      (Token.ofSource (j.text ++ (Json.itemsTail rest ++ u))).length ≤ n →
      iterateUpTo (arrayTurn (ofDepth d) c) n before (r.on (j.text ++ (Json.itemsTail rest ++ u))) =
        .ok (before.reverse ++ (some e :: es.map some), r.on u) := by
  induction all with
  | nil =>
    intro j e h deep n before budget enough
    have longer := h.length_lt (.bracket u)
    rw [(first_bracket u).ofSource, List.length_cons] at longer
    have shape : Json.itemsTail [] ++ u = "]" ++ u := rfl
    rw [shape] at budget enough ⊢
    obtain ⟨n, rfl⟩ : ∃ k, n = k + 2 := ⟨n - 2, by omega⟩
    have last : arrayTurn (ofDepth d) c before _ = _ := itemTurn_last h (by simpa [Json.heights] using deep) budget
    rw [iterateUpTo_next last, iterateUpTo_done (arrayTurn_end (first_bracket u) rfl closing.closed.fine)]
    simp
  | @cons k e' rest es h' all ih =>
    intro j e h deep n before budget enough
    have shape : Json.itemsTail (k :: rest) ++ u = "," ++ (k.text ++ (Json.itemsTail rest ++ u)) := by
      simp [Json.itemsTail]
    have deeper : j.height + 2 ≤ d ∧ Json.heights (k :: rest) + 2 ≤ d := by
      rw [Json.heights] at deep
      omega
    have longer := h.length_lt (.comma (k.text ++ (Json.itemsTail rest ++ u)))
    rw [(first_comma _).ofSource, List.length_cons] at longer
    rw [shape] at budget enough ⊢
    obtain ⟨n, rfl⟩ : ∃ k, n = k + 1 := ⟨n - 1, by omega⟩
    obtain ⟨tok, first, -⟩ := h'.first (.itemsTail rest u)
    have next : arrayTurn (ofDepth d) c before _ = _ := itemTurn_next h deeper.1 first.fine budget
    rw [iterateUpTo_next next, ih h' deeper.2 (by dsimp only at longer; omega) (by dsimp only at longer; omega)]
    simp

/-! ### Objects -/

/-- The entry that a tree under a key is read as. -/
def entryOf (k : Utf16) (e : Expr) : Entry := if k = Json.parentKey then .parent e else .value (.ofUnits k) e

/-- Entries are read as expressions under their keys. -/
def EntryReadAs (p : Utf16 × Json) (entry : Entry) : Prop := ∃ e, ReadAs p.2 e ∧ entry = entryOf p.1 e

theorem first_colon (u : Text) : First (":" ++ u) ⟨.mark ":", false, ":" ++ u, u⟩ := ⟨rfl, rfl, trivial⟩

theorem first_brace (u : Text) : First ("\x7d" ++ u) ⟨.mark "\x7d", false, "\x7d" ++ u, u⟩ := ⟨rfl, rfl, trivial⟩

/-- An entry begins with its key. -/
theorem first_entry (k : Utf16) (j : Json) (v : Text) : ∃ plain, First (Json.entryText k j ++ v)
    ⟨.string k plain false, false, Json.entryText k j ++ v, ":" ++ (j.text ++ v)⟩ := by
  have shape : Json.entryText k j ++ v = CodePoint.ofChar '"' :: (Json.inner k ++ CodePoint.ofChar '"' ::
    (":" ++ (j.text ++ v))) := by
    simp [Json.entryText, Text.ofString]
  rw [shape]
  exact first_quoted k _

/-- A string, a colon and the text of a tree are read as an entry. -/
theorem objectEntry_read {k : Utf16} {j : Json} {d : Nat} {v : Text} (h : ReadAs j e) (closing : Closing v)
    (deep : j.height + 2 ≤ d)
    (budget : (Token.ofSource (j.text ++ v)).length ≤ r.budget) :
    objectEntry (ofDepth d) c (r.on (Json.entryText k j ++ v)) = .ok (entryOf k e, r.on v) := by
  obtain ⟨plain, first⟩ := first_entry k j v
  obtain ⟨tok, behind, -⟩ := h.first closing
  have colon := first_colon (j.text ++ v)
  have read := h.read (c := c) closing deep budget
  have noWord : ∀ w ts, announces w
    (r.at (⟨.string k plain false, false, Json.entryText k j ++ v, ":" ++ (j.text ++ v)⟩ :: ts)) =
      .ok (false, r.at _) := fun w ts => rfl
  have name : propertyName (r.at (⟨.string k plain false, false, Json.entryText k j ++ v, ":" ++ (j.text ++ v)⟩ ::
      Token.ofSource (":" ++ (j.text ++ v)))) = .ok (k, r.on (":" ++ (j.text ++ v))) := by
    rw [propertyName, bind_ok (a := some k) rfl]
    exact bind_ok (advance_at colon.fine)
  rw [first.on, objectEntry, bind_ok peek_at, bind_ok (noWord _ _), if_neg (by decide), bind_ok (noWord _ _),
    if_neg (by decide)]
  dsimp only
  rw [bind_ok name, colon.on, bind_ok peek_at]
  rw [if_neg (by simp), if_neg (by simp [Token.is]), bind_ok (expect_at rfl behind.fine)]
  refine (bind_ok read).trans ?_
  rw [h.plain, entryOf, Json.parentKey]
  split <;> rfl

section Turns

variable {d : Nat} {before : List Entry}

variable {k : Utf16} {j : Json} (h : ReadAs j e) (deep : j.height + 2 ≤ d)
include h deep

/-- The last entry of an object is read, and the brace behind it is left. -/
theorem entryTurn_last (budget : (Token.ofSource (j.text ++ ("\x7d" ++ u))).length ≤ r.budget) :
    objectTurn (ofDepth d) c before (r.on (Json.entryText k j ++ ("\x7d" ++ u))) =
      .ok (.inl (entryOf k e :: before), r.on ("\x7d" ++ u)) := by
  obtain ⟨plain, first⟩ := first_entry k j ("\x7d" ++ u)
  exact objectTurn_last first rfl (objectEntry_read h (.brace u) deep budget) (first_brace u) rfl

/-- An entry that another one follows is read with the comma behind it. -/
theorem entryTurn_next {v : Text} (fine : Fine (Token.ofSource v))
    (budget : (Token.ofSource (j.text ++ ("," ++ v))).length ≤ r.budget) :
    objectTurn (ofDepth d) c before (r.on (Json.entryText k j ++ ("," ++ v))) = .ok
      (.inl (entryOf k e :: before), r.on v) := by
  obtain ⟨plain, first⟩ := first_entry k j ("," ++ v)
  exact objectTurn_next first rfl (objectEntry_read h (.comma v) deep budget) (first_comma v) rfl fine

end Turns

/-- An entry takes a token more than its tree. -/
theorem length_entry (k : Utf16) (j : Json) (v : Text) :
    (Token.ofSource (j.text ++ v)).length + 2 = (Token.ofSource (Json.entryText k j ++ v)).length := by
  obtain ⟨plain, first⟩ := first_entry k j v
  rw [first.ofSource, List.length_cons, (first_colon _).ofSource, List.length_cons]

/-- The entries of an object are read one by one. -/
theorem iterate_entries {d : Nat} {rest : List (Utf16 × Json)} {es : List Entry}
    (all : List.Forall₂ EntryReadAs rest es)
    (closing : Closing u) : ∀ {k : Utf16} {j : Json} {e : Expr}, ReadAs j e →
    Json.entryHeights ((k, j) :: rest) + 2 ≤ d →
      ∀ {n : Nat} {before : List Entry},
        (Token.ofSource (Json.entryText k j ++ (Json.entriesTail rest ++ u))).length ≤ r.budget →
      (Token.ofSource (Json.entryText k j ++ (Json.entriesTail rest ++ u))).length ≤ n →
      iterateUpTo (objectTurn (ofDepth d) c) n before (r.on (Json.entryText k j ++ (Json.entriesTail rest ++ u))) =
        .ok (before.reverse ++ (entryOf k e :: es), r.on u) := by
  induction all with
  | nil =>
    intro k j e h deep n before budget enough
    have longer := h.length_lt (.brace u)
    rw [(first_brace u).ofSource, List.length_cons] at longer
    have shape : Json.entriesTail [] ++ u = "\x7d" ++ u := rfl
    rw [shape, ← length_entry] at budget enough
    rw [shape]
    obtain ⟨n, rfl⟩ : ∃ k, n = k + 2 := ⟨n - 2, by omega⟩
    have last : objectTurn (ofDepth d) c before (r.on _) = _ := entryTurn_last (k := k)
      (u := u) h (by simpa [Json.entryHeights] using deep) (by omega)
    rw [iterateUpTo_next last, iterateUpTo_done (objectTurn_end (first_brace u) rfl closing.closed.fine)]
    simp
  | @cons p entry rest es h' all ih =>
    obtain ⟨k', j'⟩ := p
    obtain ⟨e', h', rfl⟩ := h'
    dsimp only at h' ih ⊢
    intro k j e h deep n before budget enough
    have shape : Json.entriesTail ((k', j') :: rest) ++ u =
      "," ++ (Json.entryText k' j' ++ (Json.entriesTail rest ++ u)) := by
      simp [Json.entriesTail]
    have deeper : j.height + 2 ≤ d ∧ Json.entryHeights ((k', j') :: rest) + 2 ≤ d := by
      rw [Json.entryHeights] at deep
      omega
    have longer := h.length_lt (.comma (Json.entryText k' j' ++ (Json.entriesTail rest ++ u)))
    rw [(first_comma _).ofSource, List.length_cons] at longer
    dsimp only at longer
    rw [shape, ← length_entry] at budget enough
    rw [shape]
    obtain ⟨n, rfl⟩ : ∃ k, n = k + 1 := ⟨n - 1, by omega⟩
    obtain ⟨plain, first⟩ := first_entry k' j' (Json.entriesTail rest ++ u)
    have next : objectTurn (ofDepth d) c before (r.on _) = _ := entryTurn_next (k := k) h deeper.1 first.fine (by omega)
    rw [iterateUpTo_next next, ih h' deeper.2 (by omega) (by omega)]
    simp

/-! ### Whole trees -/

/-- The items that are read are literals of the items of the tree, -/
theorem literalItems {items : List Json} {es : List Expr} (all : List.Forall₂ ReadAs items es) {levels : Nat}
    (deep : Json.heights items + 2 ≤ levels) : LiteralItems (es.map some) (Json.settledItems items) levels := by
  induction all with
  | nil => exact .nil levels
  | cons h _ ih =>
    rw [Json.heights] at deep
    exact .cons (h.literal.deeper (by omega)) (ih (by omega))

/-- and so are the entries. -/
theorem literalEntries {entries : List (Utf16 × Json)} {es : List Entry} (all : List.Forall₂ EntryReadAs entries es)
    {levels : Nat}
    (deep : Json.entryHeights entries + 2 ≤ levels) : LiteralEntries es (Json.settledEntries entries) levels := by
  induction all with
  | nil => exact .nil levels
  | @cons p entry _ _ h _ ih =>
    obtain ⟨k, j⟩ := p
    obtain ⟨e, h, rfl⟩ := h
    rw [Json.entryHeights] at deep
    have first : Literal e j.settled levels := h.literal.deeper (by dsimp only; omega)
    have rest := ih (by omega)
    unfold entryOf
    split
    · next parent =>
      subst parent
      exact .parent first rest
    · exact .value first rest

theorem length_items {items : List Json} {es : List Expr} (all : List.Forall₂ ReadAs items es) (u : Text) :
    (Token.ofSource u).length + Json.heights items < (Token.ofSource (Json.itemsTail items ++ u)).length := by
  induction all with
  | nil =>
    rw [show Json.itemsTail [] ++ u = "]" ++ u from rfl, (first_bracket u).ofSource]
    exact Nat.lt_succ_self _
  | @cons j e rest _ h _ ih =>
    have longer := h.length_lt (.itemsTail rest u)
    have shape : Json.itemsTail (j :: rest) ++ u = "," ++ (j.text ++ (Json.itemsTail rest ++ u)) := by
      simp [Json.itemsTail]
    rw [shape, (first_comma _).ofSource, List.length_cons, Json.heights]
    dsimp only
    omega

theorem length_entries {entries : List (Utf16 × Json)} {es : List Entry} (all : List.Forall₂ EntryReadAs entries es)
    (u : Text) :
    (Token.ofSource u).length + Json.entryHeights entries < (Token.ofSource
    (Json.entriesTail entries ++ u)).length := by
  induction all with
  | nil =>
    rw [show Json.entriesTail [] ++ u = "\x7d" ++ u from rfl, (first_brace u).ofSource]
    exact Nat.lt_succ_self _
  | @cons p e rest _ h _ ih =>
    obtain ⟨k, j⟩ := p
    obtain ⟨e, h, rfl⟩ := h
    dsimp only at h
    have longer := h.length_lt (.entriesTail rest u)
    have shape : Json.entriesTail ((k, j) :: rest) ++ u =
      "," ++ (Json.entryText k j ++ (Json.entriesTail rest ++ u)) := by
      simp [Json.entriesTail]
    rw [shape, (first_comma _).ofSource, List.length_cons, ← length_entry, Json.entryHeights]
    omega

/-- Constants are read as they are. -/
theorem ReadAs.constant {j : Json} (level : j.height = 0) (settles : ∀ m, j.settled.toValue m = .value p.value m)
    (first : ∀ {u : Text}, Closing u → ∃ tok, First (j.text ++ u) tok ∧ tok.lexeme.Is p ∧ tok.behind = u) :
    ReadAs j (.constant p) where
  literal := (Literal.constant settles).deeper (by omega)
  plain _ := rfl
  first closing := by
    obtain ⟨tok, here, is, rfl⟩ := first closing
    refine ⟨tok, here, ?_, ?_, by rw [level, Nat.add_zero]⟩
    all_goals
      obtain ⟨lexeme, line, start, behind⟩ := tok
      cases is <;> rfl
  read := by
    intro u d c r closing deep budget
    obtain ⟨tok, here, is, rfl⟩ := first closing
    obtain ⟨d, rfl⟩ : ∃ k, d = k + 1 := ⟨d - 1, by omega⟩
    rw [here.ofSource, List.length_cons] at budget
    exact assignment_of_constant here (by omega) is closing.closed

/-- What begins with a mark that encloses a tree. -/
theorem ReadAs.enclosed {j : Json} {m : String} {inside : Text} (literal : Literal e j.settled (j.height + 2))
    (plain : ∀ n, named n e = e)
    (mark : m = "[" ∨ m = "\x7b") (first : ∀ u, First (j.text ++ u) ⟨.mark m, false, j.text ++ u, inside ++ u⟩)
    (more : ∀ u, (Token.ofSource u).length + j.height ≤ (Token.ofSource (inside ++ u)).length)
    (read : ∀ {u : Text} {d : Nat} {c : Context} {r : Reading}, Closing u → j.height + 1 ≤ d →
      (Token.ofSource (inside ++ u)).length < r.budget → primary (ofDepth d) c (r.on (j.text ++ u)) = .ok (e, r.on u)) :
    ReadAs j e where
  literal := literal
  plain := plain
  first _ := ⟨_, first _, by obtain rfl | rfl := mark <;> rfl, by obtain rfl | rfl := mark <;> rfl, more _⟩
  read := by
    intro u d c r closing deep budget
    obtain ⟨d, rfl⟩ : ∃ k, d = k + 1 := ⟨d - 1, by omega⟩
    rw [(first u).ofSource, List.length_cons] at budget
    refine assignment_of_primary (by omega) (first u) ?_ closing.closed (read closing (by omega) budget)
    exact Token.begins_of_is (s := m) (by simp [Token.is]) (by obtain rfl | rfl := mark <;> decide)

theorem ReadAs.noItems : ReadAs (.array []) (.array []) := by
  have first : ∀ u, First (Json.text (.array []) ++ u) ⟨.mark "[", false, Json.text (.array []) ++ u, "]" ++ u⟩ :=
    fun u =>
    ⟨rfl, rfl, trivial⟩
  refine .enclosed (Literal.array (.nil _) rfl) (fun _ => rfl)
    (.inl rfl) first (fun u => ?_) fun {u d c r} closing deep budget => ?_
  · rw [(first_bracket u).ofSource]
    exact Nat.le_refl _
  · exact primary_list (first u) rfl (first_bracket u).fine (iterate_done (by show 0 < r.budget; omega)
      (arrayTurn_end (first_bracket u) rfl closing.closed.fine))

/-- A list is read where its items are. -/
theorem ReadAs.items {j : Json} {rest : List Json} {es : List Expr} (h : ReadAs j e)
    (all : List.Forall₂ ReadAs rest es) :
    ReadAs (.array (j :: rest)) (.array (some e :: es.map some)) := by
  have first : ∀ u, First (Json.text (.array (j :: rest)) ++ u) ⟨.mark "[", false, Json.text (.array (j :: rest)) ++ u,
      (j.text ++ Json.itemsTail rest) ++ u⟩ := fun u => by
    rw [Json.text_array]
    exact ⟨rfl, rfl, trivial⟩
  refine .enclosed ?_ (fun _ => rfl) (.inl rfl) first (fun u => ?_) fun {u d c r} closing deep budget => ?_
  · refine Literal.array (literalItems (.cons h all) (Nat.le_refl _)) ?_
    rw [← List.map_cons, List.length_map, Json.length_settled, (List.Forall₂.cons h all).length_eq]
  · have longer := h.length_lt (.itemsTail rest u)
    have more := length_items all u
    rw [List.append_assoc, Json.height, Json.heights]
    omega
  · obtain ⟨tok, inner, -⟩ := h.first (.itemsTail rest u)
    rw [List.append_assoc] at budget
    refine primary_list (first u) rfl (by rw [List.append_assoc]; exact inner.fine) ?_
    rw [arrayItems_eq, iterate_apply, List.append_assoc]
    exact iterate_items all closing h deep (Nat.le_of_lt budget) (Nat.le_of_lt budget)

theorem ReadAs.noEntries : ReadAs (.object []) (.object []) := by
  have first : ∀ u, First (Json.text (.object []) ++ u)
    ⟨.mark "\x7b", false, Json.text (.object []) ++ u, "\x7d" ++ u⟩ := fun u =>
    ⟨rfl, rfl, trivial⟩
  refine .enclosed (Literal.object (.nil _)) (fun _ => rfl)
    (.inr rfl) first (fun u => ?_) fun {u d c r} closing deep budget => ?_
  · rw [(first_brace u).ofSource]
    exact Nat.le_refl _
  · exact primary_object (first u) rfl (first_brace u).fine (iterate_done (by show 0 < r.budget; omega)
      (objectTurn_end (first_brace u) rfl closing.closed.fine))

/-- An object is read where the trees in its entries are. -/
theorem ReadAs.entries {k : Utf16} {j : Json} {rest : List (Utf16 × Json)} {es : List Entry} (h : ReadAs j e)
    (all : List.Forall₂ EntryReadAs rest es) : ReadAs (.object ((k, j) :: rest)) (.object (entryOf k e :: es)) := by
  have first : ∀ u, First (Json.text (.object ((k, j) :: rest)) ++ u)
    ⟨.mark "\x7b", false, Json.text (.object ((k, j) :: rest)) ++ u,
      (Json.entryText k j ++ Json.entriesTail rest) ++ u⟩ := fun u => by
    rw [Json.text_object]
    exact ⟨rfl, rfl, trivial⟩
  refine .enclosed ?_ (fun _ => rfl) (.inr rfl) first (fun u => ?_) fun {u d c r} closing deep budget => ?_
  · have whole : List.Forall₂ EntryReadAs ((k, j) :: rest) _ := .cons ⟨e, h, rfl⟩ all
    exact Literal.object (literalEntries whole (Nat.le_refl _))
  · have longer := h.length_lt (.entriesTail rest u)
    have more := length_entries all u
    rw [List.append_assoc, ← length_entry, Json.height, Json.entryHeights]
    omega
  · obtain ⟨plain, inner⟩ := first_entry k j (Json.entriesTail rest ++ u)
    rw [List.append_assoc] at budget
    refine primary_object (first u) rfl (by rw [List.append_assoc]; exact inner.fine) ?_
    rw [objectEntries_eq, iterate_apply, List.append_assoc]
    exact iterate_entries all closing h deep (Nat.le_of_lt budget) (Nat.le_of_lt budget)

/-- The shortest decimal of a number is read back as the number, behind a minus if it is negative. -/
theorem ReadAs.number {x : Float} (finite : x.isFinite = true) : ∃ e, ReadAs (.number x) e := by
  obtain ⟨negative, s, shown⟩ := Decimal.exists_shown finite
  have value := shown.value
  have settled : (Json.number x).settled = .number (unsignedZero x) := if_pos finite
  have digits : ∀ u, Closing u →
    First (s.text ++ u) ⟨.number (Decimal.toFloat s.digits s.place) false, false, s.text ++ u, u⟩ := fun u =>
    first_spelling shown.proper shown.first
  have text : (Json.number x).text = _ := (Json.text_number finite).trans shown.text
  cases negative with
  | false =>
    refine ⟨_, .constant (p := .number (Decimal.toFloat s.digits s.place)) rfl (fun m => ?_) fun closing =>
      ⟨_, by rw [text]; exact digits _ closing, .number _, rfl⟩⟩
    rw [settled, ← value]
    rfl
  | true =>
    obtain ⟨c, more, whole⟩ := List.exists_cons_of_ne_nil shown.proper.some
    have digit : c.isDigit = true := shown.proper.whole c (by rw [whole]; exact List.mem_cons_self)
    have shape : ∀ u, (Json.number x).text ++ u = "-" ++ (s.text ++ u) := fun u => by
      rw [text, if_pos rfl, List.append_assoc]
    have minus : ∀ u, First ("-" ++ (s.text ++ u)) ⟨.mark "-", false, "-" ++ (s.text ++ u), s.text ++ u⟩ := fun u => by
      rw [Spelling.text, whole]
      exact first_minus digit _
    refine ⟨.unary .minus (.constant (.number (Decimal.toFloat s.digits s.place))), ?_, fun _ => rfl, ?_, ?_⟩
    · rw [settled]
      exact .negative value
    · intro u closing
      rw [shape]
      refine ⟨_, minus u, rfl, rfl, ?_⟩
      dsimp only
      rw [(digits u closing).ofSource]
      exact Nat.le_succ _
    · intro u d c r closing deep budget
      obtain ⟨d, rfl⟩ : ∃ k, d = k + 2 := ⟨d - 2, by omega⟩
      rw [shape, (minus u).ofSource, List.length_cons] at budget
      rw [shape]
      exact assignment_of_negative (minus u) (by omega) rfl (digits u closing) (.number _) closing.closed d

theorem ReadAs.null : ReadAs .null (.constant .null) :=
  .constant (p := .null) rfl (fun _ => rfl) fun closing => ⟨_, first_word closing (w := "null") (by decide), .null, rfl⟩

/-- What is no finite number is written as nothing. -/
theorem ReadAs.infinite {x : Float} (infinite : ¬ x.isFinite = true) : ReadAs (.number x) (.constant .null) := by
  have text : (Json.number x).text = Json.text .null := by
    rw [Json.text, Json.write, if_neg infinite]
    rfl
  have settled : (Json.number x).settled = .null := if_neg infinite
  refine ⟨?_, ReadAs.null.plain, ?_, ?_⟩
  · rw [settled]
    exact ReadAs.null.literal
  · rw [text]
    exact ReadAs.null.first
  · rw [text]
    exact ReadAs.null.read

mutual

/-- Every tree is read. -/
theorem exists_readAs : ∀ j : Json, ∃ e, ReadAs j e
  | .null => ⟨_, .null⟩
  | .bool true => ⟨_, .constant (p := .bool true) rfl (fun _ => rfl) fun closing =>
    ⟨_, first_word closing (w := "true") (by decide), .true, rfl⟩⟩
  | .bool false => ⟨_, .constant (p := .bool false) rfl (fun _ => rfl) fun closing =>
    ⟨_, first_word closing (w := "false") (by decide), .false, rfl⟩⟩
  | .string s => ⟨_, .constant (p := .string s) rfl (fun _ => rfl) fun {u} _ => by
      obtain ⟨plain, first⟩ := first_quoted s u
      have shape : (Json.string s).text ++ u = CodePoint.ofChar '"' :: (Json.inner s ++ CodePoint.ofChar '"' :: u) := by
        rw [Json.text_string]
        simp [Text.ofString]
      rw [shape]
      exact ⟨_, first, .string s plain, rfl⟩⟩
  | .number x => by
    by_cases finite : x.isFinite = true
    · exact ReadAs.number finite
    · exact ⟨_, .infinite finite⟩
  | .array [] => ⟨_, .noItems⟩
  | .array (j :: rest) => by
    obtain ⟨e, h⟩ := exists_readAs j
    obtain ⟨es, all⟩ := exists_readAll rest
    exact ⟨_, h.items all⟩
  | .object [] => ⟨_, .noEntries⟩
  | .object ((k, j) :: rest) => by
    obtain ⟨e, h⟩ := exists_readAs j
    obtain ⟨es, all⟩ := exists_readEntries rest
    exact ⟨_, h.entries (k := k) all⟩

/-- Every item of a list can be read, -/
theorem exists_readAll : ∀ items : List Json, ∃ es, List.Forall₂ ReadAs items es
  | [] => ⟨_, .nil⟩
  | j :: rest => by
    obtain ⟨e, h⟩ := exists_readAs j
    obtain ⟨es, all⟩ := exists_readAll rest
    exact ⟨_, .cons h all⟩

/-- and every entry of an object. -/
theorem exists_readEntries : ∀ entries : List (Utf16 × Json), ∃ es, List.Forall₂ EntryReadAs entries es
  | [] => ⟨_, .nil⟩
  | (k, j) :: rest => by
    obtain ⟨e, h⟩ := exists_readAs j
    obtain ⟨es, all⟩ := exists_readEntries rest
    exact ⟨_, .cons ⟨e, h, rfl⟩ all⟩

end

end Reading

end ScriptHost.Script
