/-
Pieces of programs. Where the text at hand begins with known tokens, a production is read piece by piece: operands with
their members and calls, lists, objects, and statements of a few forms.
-/
import ScriptHost.Proofs.Script.Grammar.Readings
import ScriptHost.Proofs.Script.Grammar.Tokens

namespace ScriptHost.Script

open Grammar Parse
open Token (First)

/-! ## Readings at texts -/

/-- A reading at the tokens of a text. -/
def Reading.on (r : Reading) (t : Text) : Reading := r.at (Token.ofSource t)

/-- A reading at a text stands at its first token and those behind it. -/
theorem Token.First.on {t : Text} {tok : Token} (h : First t tok) (r : Reading) :
    r.on t = r.at (tok :: Token.ofSource tok.behind) := congrArg r.at h.ofSource

theorem Token.First.fine {t : Text} {tok : Token} (h : First t tok) : Fine (Token.ofSource t) := fun complaint bad => by
  rw [h.ofSource] at bad
  have solid := h.solid
  rw [show tok.lexeme = _ from bad] at solid
  exact solid

/-- A text begins with a mark that no expression goes on with. -/
def Closed (u : Text) : Prop := ∃ tok, First u tok ∧ tok.Closes

theorem Closed.fine {u : Text} : Closed u → Fine (Token.ofSource u)
  | ⟨_, first, _⟩ => first.fine

/-! ### Texts of pieces -/

/-- A text that is put together from pieces. -/
def spell (ws : List String) (u : Text) : Text := ws.foldr (fun w t => Text.ofString w ++ t) u

theorem spell_append (ws vs : List String) (u : Text) : spell (ws ++ vs) u = spell ws (spell vs u) := List.foldr_append

/-- What follows the pieces is left as it is. -/
theorem spell_eq_append (ws : List String) (u : Text) : spell ws u = spell ws [] ++ u := by
  induction ws with
  | nil => rfl
  | cons w ws ih =>
    show Text.ofString w ++ spell ws u = (Text.ofString w ++ spell ws []) ++ u
    rw [ih, List.append_assoc]

section Pieces

variable {g : Grammar} {c : Context} {r s : Reading} {e e' : Expr} {tok : Token} {m : String} {n : Utf16}
    {t u v w : Text}

theorem closed_of_mark (first : First u tok) (mark : tok.lexeme = .mark m) (among : m ∈ Token.closers) : Closed u :=
  ⟨tok, first, m, among, by rw [Token.is, mark]; exact beq_self_eq_true m⟩

theorem begins_mark (is : tok.lexeme = .mark m) (apart : m ∉ Token.openers) : tok.Begins :=
  Token.begins_of_is (s := m) (by simp [Token.is, is]) apart

theorem Token.First.length {lexeme : Lexeme} {line : Bool} {start : Text} (first : First t ⟨lexeme, line, start, u⟩) :
    (Token.ofSource t).length = (Token.ofSource u).length + 1 := congrArg List.length first.ofSource

/-! ### Steps -/

/-- A mark that is expected or not is passed where it comes first. -/
theorem accept_first (first : First t tok) (is : tok.is m = true) (fine : Fine (Token.ofSource tok.behind)) :
    accept m (r.on t) = .ok (true, r.on tok.behind) := by
  rw [first.on]
  exact accept_at is fine

theorem expect_first (first : First t tok) (is : tok.is m = true) (fine : Fine (Token.ofSource tok.behind)) :
    expect m (r.on t) = .ok ((), r.on tok.behind) := by
  rw [first.on]
  exact expect_at is fine

theorem advance_first (first : First t tok) (fine : Fine (Token.ofSource tok.behind)) :
    advance (r.on t) = .ok ((), r.on tok.behind) := by
  rw [first.on]
  exact advance_at fine

/-- Before a text that closes no mark is passed that does not close. -/
theorem accept_closed (closed : Closed u) (apart : m ∉ Token.closers) : accept m (r.on u) = .ok (false, r.on u) := by
  obtain ⟨tok, first, closes⟩ := closed
  rw [first.on]
  exact accept_other (closes.is_eq_false apart)

theorem peek_first (first : First t tok) : peek (r.on t) = .ok (tok, r.on t) := by
  rw [first.on]
  rfl

theorem usable_of_sloppy (sloppy : c.strict = false) (n : Utf16) : usable c n = true := by
  rw [usable.eq_1, sloppy]
  rfl

/-- In sloppy code every name is one that can be used. -/
theorem name?_first (first : First t tok) (called : tok.lexeme = .name n false) (sloppy : c.strict = false) :
    name? c (r.on t) = .ok (some n, r.on t) := by
  rw [name?, bind_ok (peek_first first), called]
  dsimp only
  rw [usable_of_sloppy sloppy]
  rfl

/-! ### Operands -/

section Closed

variable (some : 0 < r.budget) (first : First t tok) (begins : tok.Begins) (closed : Closed u)
include some first begins closed

/-- What is left of an operand before a text that closes is the whole expression. -/
theorem assignment_closed (read : leftHandSide g c (r.on t) = .ok (e, r.on u)) :
    assignmentExpression g c (r.on t) = .ok (e, r.on u) := by
  obtain ⟨last, first', closes⟩ := closed
  rw [first.on, first'.on] at read ⊢
  exact assignment_of_leftHandSide closes some begins read

/-- What is read as a primary expression before a text that closes has no members and no calls behind it. -/
theorem leftHandSide_of_closed (read : primary g c (r.on t) = .ok (e, r.on u)) :
    leftHandSide g c (r.on t) = .ok (e, r.on u) := by
  obtain ⟨last, first', closes⟩ := closed
  rw [first.on, first'.on] at read ⊢
  rw [leftHandSide_of_primary some begins read, suffixes_closed some closes]

/-- What is a whole operand before a text that closes is the whole expression. -/
theorem assignment_of_primary (read : primary g c (r.on t) = .ok (e, r.on u)) :
    assignmentExpression g c (r.on t) = .ok (e, r.on u) :=
  assignment_closed some first begins closed (leftHandSide_of_closed some first begins closed read)

end Closed

/-- A name. -/
theorem primary_name (first : First t tok) (name : tok.lexeme = .name n false) (sloppy : c.strict = false)
    (free : isRestricted n = false) (fine : Fine (Token.ofSource tok.behind)) :
    primary g c (r.on t) = .ok (.name n, r.on tok.behind) := by
  have noted : noteName n = (pure () : Parse Unit) := if_neg (by simp [free])
  have usable := usable_of_sloppy sloppy n
  rw [first.on, primary, bind_ok peek_at, name]
  dsimp only
  rw [if_pos usable, noted, pure_bind]
  exact bind_ok (advance_at fine)

theorem begins_of_name (name : tok.lexeme = .name n false) : tok.Begins := fun s _ => by
  rw [Token.is, name]

/-- A name before a text that closes. -/
theorem assignment_name {line : Bool} {start : Text} (some : 0 < r.budget) (sloppy : c.strict = false)
    (first : First t ⟨.name n false, line, start, u⟩) (free : isRestricted n = false) (closed : Closed u) :
    assignmentExpression g c (r.on t) = .ok (.name n, r.on u) :=
  assignment_of_primary some first (begins_of_name rfl) closed (primary_name first rfl sloppy free closed.fine)

/-- An expression that no comma follows is a whole one. -/
theorem expression_closed (some : 0 < r.budget) {last : Token} (closing : First u last) (other : last.is "," = false)
    (read : g.assignment c (r.on t) = .ok (e, r.on u)) : expression g c (r.on t) = .ok (e, r.on u) := by
  rw [closing.on] at read ⊢
  exact expression_of_assignment some read other

/-- An expression in parentheses. -/
theorem primary_paren (some : 0 < r.budget) (opening : First t tok) (is : tok.lexeme = .mark "(")
    (fine : Fine (Token.ofSource tok.behind))
    (read : g.assignment { c with allowIn := true } (r.on tok.behind) = .ok (e, r.on u)) {close : Token}
    (closing : First u close)
    (is' : close.is ")" = true) (fine' : Fine (Token.ofSource close.behind)) :
    primary g c (r.on t) = .ok (e, r.on close.behind) := by
  have whole := expression_closed some closing (Token.is_of_is is' ",") read
  rw [opening.on, primary, bind_ok peek_at, is]
  show (advance >>= fun _ => expression g { c with allowIn := true } >>= fun e => expect ")" >>= fun _ => pure e) _ = _
  rw [bind_ok (advance_at fine)]
  refine (bind_ok whole).trans ?_
  exact bind_ok (expect_first closing is' fine')

/-- A function without a name. -/
theorem primary_function (first : First t tok) (word : tok.lexeme = .word "function") {par : Token}
    (opening : First tok.behind par)
    (is : par.lexeme = .mark "(") {code : Code}
    (read : functionFrom g { c with allowIn := true } tok.start [] false (r.on tok.behind) = .ok (code, s)) :
    primary g c (r.on t) = .ok (.function code, s) := by
  have nameless : name? { c with allowIn := true } (r.on tok.behind) = .ok (none, r.on tok.behind) := by
    rw [opening.on, name?, bind_ok peek_at, is]
    rfl
  rw [first.on, primary, bind_ok peek_at, word]
  show functionExpression g { c with allowIn := true } _ = _
  rw [functionExpression, bind_ok peek_at, bind_ok (advance_at opening.fine)]
  refine (bind_ok nameless).trans ?_
  exact bind_ok read

/-! ### Members and calls -/

/-- A turn over members and calls. -/
def suffixTurn (g : Grammar) (c : Context) (e : Expr) : Parse (Sum Expr Expr) := do
  let called ← accept "("
  if called then return .inl (.call e (← arguments g c))
  else if (← accept ".") then
    let t ← peek
    match t.lexeme with
    | .name n _ =>
      advance
      return .inl (.member e (.constant (.string n)))
    | .word w =>
      advance
      return .inl (.member e (.constant (.string (Utf16.ofString w))))
    | _ => complain "expecting field name"
  else if (← accept "[") then
    let k ← expression g { c with allowIn := true }
    expect "]"
    return .inl (.member e k)
  else return .inr e

/-- A point and a name make a member of what is before them, whereupon the turns go on. -/
theorem suffixTurn_member (point : First t tok) (is : tok.is "." = true) {name : Token} (first : First tok.behind name)
    (named : name.lexeme = .name n false) (fine : Fine (Token.ofSource name.behind)) :
    suffixTurn g c e (r.on t) = .ok (.inl (.member e (.constant (.string n))), r.on name.behind) := by
  rw [point.on, suffixTurn, bind_ok (accept_other (Token.is_of_is is "(")), if_neg (by decide),
    bind_ok (accept_at is first.fine), if_pos rfl, first.ofSource, bind_ok peek_at, named]
  exact bind_ok (advance_at fine)

/-- So do arguments make a call. -/
theorem suffixTurn_call {args : List Expr} (opening : First t tok) (is : tok.is "(" = true)
    (fine : Fine (Token.ofSource tok.behind))
    (read : arguments g c (r.on tok.behind) = .ok (args, s)) :
    suffixTurn g c e (r.on t) = .ok (.inl (.call e args), s) := by
  rw [opening.on, suffixTurn, bind_ok (accept_at is fine), if_pos rfl]
  exact bind_ok read

/-- The turns end before a text that closes. -/
theorem suffixTurn_end (closed : Closed u) : suffixTurn g c e (r.on u) = .ok (.inr e, r.on u) := by
  rw [suffixTurn, bind_ok (accept_closed closed (by decide)), if_neg (by decide),
    bind_ok (accept_closed closed (by decide)), if_neg (by decide), bind_ok (accept_closed closed (by decide))]
  rfl

/-- A single argument. -/
theorem arguments_one (some : 1 < r.budget) (first : First t tok) (other : tok.is ")" = false)
    (read : g.assignment { c with allowIn := true } (r.on t) = .ok (e, r.on u)) {close : Token}
    (closing : First u close)
    (is : close.is ")" = true) (fine : Fine (Token.ofSource close.behind)) :
    arguments g c (r.on t) = .ok ([e], r.on close.behind) := by
  obtain ⟨k, budget⟩ : ∃ k, r.budget = k + 2 := ⟨r.budget - 2, by omega⟩
  rw [closing.on] at read
  show iterateUpTo _ r.budget [] (r.on t) = _
  rw [budget, first.on, iterateUpTo_next (x := [e]) (s := r.on u), iterateUpTo_done (b := [e]) (s := r.on close.behind)]
  · rw [bind_ok (accept_first closing is fine)]
    rfl
  · rw [bind_ok (accept_other other), if_neg (by decide), ← first.on, bind_ok read, bind_ok sees_at, is, closing.on]
    rfl

section Suffixes

variable (some : 2 < r.budget) (first : First t tok) (begins : tok.Begins)
    (read : primary g c (r.on t) = .ok (e, r.on u))
include some first begins read

/-- Behind a primary expression members and calls are read turn by turn. -/
theorem leftHandSide_suffixes : leftHandSide g c (r.on t) = iterateUpTo (suffixTurn g c) r.budget e (r.on u) := by
  rw [first.on] at read ⊢
  rw [leftHandSide_of_primary (by show 0 < r.budget; omega) begins read]
  rfl

/-- A call. -/
theorem leftHandSide_call {par : Token} (opening : First u par) (is : par.is "(" = true)
    (fine : Fine (Token.ofSource par.behind))
    {args : List Expr} (given : arguments g c (r.on par.behind) = .ok (args, r.on v)) (closed : Closed v) :
    leftHandSide g c (r.on t) = .ok (.call e args, r.on v) := by
  obtain ⟨k, budget⟩ : ∃ k, r.budget = k + 2 := ⟨r.budget - 2, by omega⟩
  rw [leftHandSide_suffixes some first begins read, budget, iterateUpTo_next (suffixTurn_call opening is fine given),
    iterateUpTo_done (suffixTurn_end closed)]

variable {point name : Token} (behind : First u point) (is : point.is "." = true) (behind' : First point.behind name)
  (called : name.lexeme = .name n false)
include behind is behind' called

/-- A member. -/
theorem leftHandSide_member (closed : Closed name.behind) :
    leftHandSide g c (r.on t) = .ok (.member e (.constant (.string n)), r.on name.behind) := by
  obtain ⟨k, budget⟩ : ∃ k, r.budget = k + 2 := ⟨r.budget - 2, by omega⟩
  rw [leftHandSide_suffixes some first begins read, budget,
    iterateUpTo_next (suffixTurn_member behind is behind' called closed.fine),
    iterateUpTo_done (suffixTurn_end closed)]

/-- A call of a member. -/
theorem leftHandSide_callMember {par : Token} (opening : First name.behind par) (is' : par.is "(" = true)
    (fine : Fine (Token.ofSource par.behind)) {args : List Expr}
    (given : arguments g c (r.on par.behind) = .ok (args, r.on v))
    (closed : Closed v) : leftHandSide g c (r.on t) = .ok (.call (.member e (.constant (.string n))) args, r.on v) := by
  obtain ⟨k, budget⟩ : ∃ k, r.budget = k + 3 := ⟨r.budget - 3, by omega⟩
  rw [leftHandSide_suffixes some first begins read, budget,
    iterateUpTo_next (suffixTurn_member behind is behind' called opening.fine),
    iterateUpTo_next (suffixTurn_call opening is' fine given), iterateUpTo_done (suffixTurn_end closed)]

end Suffixes

/-! ### Lists -/

/-- A turn over the items of a list. -/
def arrayTurn (g : Grammar) (c : Context) (items : List (Option Expr)) :
    Parse (Sum (List (Option Expr)) (List (Option Expr))) := do
  if (← accept "]") then return .inr items.reverse
  else if (← accept ",") then return .inl (none :: items)
  else
    let e ← g.assignment c
    if !(← sees "]") then expect ","
    return .inl (some e :: items)

theorem arrayItems_eq : arrayItems g c = iterate [] (arrayTurn g c) := rfl

/-- The list ends. -/
theorem arrayTurn_end {before : List (Option Expr)} (closing : First t tok) (is : tok.is "]" = true)
    (fine : Fine (Token.ofSource tok.behind)) :
    arrayTurn g c before (r.on t) = .ok (.inr before.reverse, r.on tok.behind) := by
  rw [arrayTurn, bind_ok (accept_first closing is fine), if_pos rfl]
  rfl

theorem primary_list {items : List (Option Expr)} (first : First t tok) (is : tok.lexeme = .mark "[")
    (fine : Fine (Token.ofSource tok.behind))
    (read : arrayItems g { c with allowIn := true } (r.on tok.behind) = .ok (items, s)) :
    primary g c (r.on t) = .ok (.array items, s) := by
  rw [first.on, primary, bind_ok peek_at, is]
  show (advance >>= fun _ => arrayItems g { c with allowIn := true } >>= fun items => pure (Expr.array items)) _ = _
  rw [bind_ok (advance_at fine)]
  exact bind_ok read

/-! ### Objects -/

/-- A turn over the entries of an object. -/
def objectTurn (g : Grammar) (c : Context) (entries : List Entry) : Parse (Sum (List Entry) (List Entry)) := do
  if (← accept "\x7d") then return .inr entries.reverse
  let e ← objectEntry g c
  if !(← sees "\x7d") then
    if (← sees ",") then advance else expect "\x7d"
  return .inl (e :: entries)

theorem objectEntries_eq : objectEntries g c = iterate [] (objectTurn g c) := rfl

section Turns

variable {before : List Entry} {entry : Entry}

/-- The object ends. -/
theorem objectTurn_end (closing : First t tok) (is : tok.is "\x7d" = true) (fine : Fine (Token.ofSource tok.behind)) :
    objectTurn g c before (r.on t) = .ok (.inr before.reverse, r.on tok.behind) := by
  rw [objectTurn, bind_ok (accept_first closing is fine), if_pos rfl]
  rfl

variable (first : First t tok) (other : tok.is "\x7d" = false) (read : objectEntry g c (r.on t) = .ok (entry, r.on u))
include first other read

/-- An entry that ends the object. -/
theorem objectTurn_last {close : Token} (closing : First u close) (is : close.is "\x7d" = true) :
    objectTurn g c before (r.on t) = .ok (.inl (entry :: before), r.on u) := by
  rw [closing.on, first.on] at read
  rw [closing.on, first.on, objectTurn, bind_ok (accept_other other), if_neg (by decide), bind_ok read,
    bind_ok sees_at, is]
  rfl

/-- An entry behind which another one follows. -/
theorem objectTurn_next {comma : Token} (behind : First u comma) (is : comma.is "," = true)
    (fine : Fine (Token.ofSource comma.behind)) :
    objectTurn g c before (r.on t) = .ok (.inl (entry :: before), r.on comma.behind) := by
  rw [behind.on, first.on] at read
  rw [first.on, objectTurn, bind_ok (accept_other other), if_neg (by decide), bind_ok read, bind_ok sees_at,
    show comma.is "\x7d" = false from Token.is_of_is is "\x7d", if_pos (by decide), bind_ok sees_at, is, if_pos rfl,
      bind_ok (advance_at fine)]
  rfl

end Turns

theorem primary_object {entries : List Entry} (first : First t tok) (is : tok.lexeme = .mark "\x7b")
    (fine : Fine (Token.ofSource tok.behind))
    (read : objectEntries g { c with allowIn := true } (r.on tok.behind) = .ok (entries, s)) :
    primary g c (r.on t) = .ok (.object entries, s) := by
  rw [first.on, primary, bind_ok peek_at, is]
  show (advance >>= fun _ => objectEntries g { c with allowIn := true } >>= fun entries =>
    pure (Expr.object entries)) _ = _
  rw [bind_ok (advance_at fine)]
  exact bind_ok read

/-- The words that an entry does not begin with if it is a name with a value. -/
def entryWords : List Utf16 := ["get", "set", "__proto__"].map Utf16.ofString

/-- A value under a name. -/
theorem objectEntry_name (first : First t tok) (name : tok.lexeme = .name n false) (free : n ∉ entryWords)
    {colon : Token}
    (behind : First tok.behind colon) (is : colon.is ":" = true) (fine : Fine (Token.ofSource colon.behind))
    (read : g.assignment c (r.on colon.behind) = .ok (e, s)) :
    objectEntry g c (r.on t) = .ok (.value (.ofUnits n) (named n e), s) := by
  have noWord : ∀ w, n ≠ Utf16.ofString w → announces w (r.on t) = .ok (false, r.on t) := fun w other => by
    rw [first.on, announces, bind_ok peek_at, name]
    dsimp only
    rw [if_neg other]
    rfl
  have property : propertyName (r.on t) = .ok (n, r.on tok.behind) := by
    rw [first.on, propertyName, bind_ok (a := some n) (s := r.at (tok :: Token.ofSource tok.behind))]
    · exact bind_ok (advance_at behind.fine)
    · rw [propertyName?, bind_ok peek_at, name]
      rfl
  have peeked : peek (r.on t) = .ok (tok, r.on t) := by
    rw [first.on]
    rfl
  simp only [entryWords, List.map_cons, List.map_nil, List.mem_cons, List.not_mem_nil, or_false, not_or] at free
  rw [objectEntry, bind_ok peeked, bind_ok (noWord _ free.1), if_neg (by decide), bind_ok (noWord _ free.2.1),
    if_neg (by decide)]
  rw [bind_ok property, behind.on, bind_ok peek_at, if_neg (by simp [Token.is_of_is is]),
    if_neg (by simp [Token.is_of_is is]), bind_ok (expect_at is fine)]
  refine (bind_ok read).trans ?_
  rw [if_neg free.2.2]
  rfl

/-! ### Statements -/

/-- A turn over statements. -/
def statementTurn (g : Grammar) (c : Context) (ss : List Stmt) : Parse (Sum (List Stmt) (List Stmt)) := do
  let t ← peek
  if t.is "\x7d" || (t.lexeme matches .finish) then return .inr ss.reverse
  else return .inl ((← g.statement c false) :: ss)

theorem statements_eq : statements g c = iterate [] (statementTurn g c) := rfl

section Turns

variable {before : List Stmt} {stmt : Stmt} {ts : List Token}

/-- The statements end before a closing brace and at the end of the text. -/
theorem statementTurn_end (last : tok.is "\x7d" = true ∨ tok.lexeme = .finish) :
    statementTurn g c before (r.at (tok :: ts)) = .ok (.inr before.reverse, r.at (tok :: ts)) := by
  have ends : (tok.is "\x7d" || (tok.lexeme matches .finish)) = true := by
    rcases last with is | finish
    · simp [is]
    · simp [finish]
  rw [statementTurn, bind_ok peek_at, if_pos ends]
  rfl

/-- Where something else comes first, a statement is read, whereupon the turns go on. -/
theorem statementTurn_next (first : First t tok) (other : tok.is "\x7d" = false)
    (read : g.statement c false (r.on t) = .ok (stmt, s)) :
    statementTurn g c before (r.on t) = .ok (.inl (stmt :: before), s) := by
  have more : (tok.lexeme matches .finish) = false := by
    have solid := first.solid
    split
    · next finish => rw [finish] at solid; exact solid.elim
    · rfl
  rw [first.on] at read
  rw [first.on, statementTurn, bind_ok peek_at, if_neg (by simp [other, more])]
  exact bind_ok read

end Turns

/-- A statement is read from one text up to another one. -/
structure ReadsStatement (g : Grammar) (c : Context) (r : Reading) (t : Text) (stmt : Stmt) (r' : Reading)
    (u : Text) : Prop where
  first : ∃ tok, First t tok ∧ tok.is "\x7d" = false
  read : g.statement c false (r.on t) = .ok (stmt, r'.on u)

namespace ReadsStatement

variable {r' : Reading} {stmt : Stmt} (h : ReadsStatement g c r t stmt r' u)
include h

theorem fine : Fine (Token.ofSource t) := by
  obtain ⟨tok, first, -⟩ := h.first
  exact first.fine

theorem next (k : Nat) (before : List Stmt) : iterateUpTo (statementTurn g c) (k + 1) before (r.on t) =
    iterateUpTo (statementTurn g c) k (stmt :: before) (r'.on u) := by
  obtain ⟨tok, first, other⟩ := h.first
  exact iterateUpTo_next (statementTurn_next first other h.read)

end ReadsStatement

section Statements

variable {single : Bool} {semicolon : Token} (some : 0 < r.budget) (sloppy : c.strict = false) (first : First t tok)
  (closing : First u semicolon) (is : semicolon.is ";" = true) (fine : Fine (Token.ofSource semicolon.behind))
include some sloppy first closing is fine

/-- A variable with its value. -/
theorem statement_var (word : tok.lexeme = .word "var") {name eq : Token} (behind : First tok.behind name)
    (called : name.lexeme = .name n false) (behind' : First name.behind eq) (is' : eq.is "=" = true)
    (fine' : Fine (Token.ofSource eq.behind))
    (read : g.assignment c (r.on eq.behind) = .ok (e, r.on u)) :
    anyStatement g c single (r.on t) =
      .ok (.vars [(n, Option.some (named n e))], { r with vars := n :: r.vars }.on semicolon.behind) := by
  have label : labelAhead? c (r.on t) = .ok (none, r.on t) := by
    rw [first.on, labelAhead?, bind_ok (a := none) (s := r.on t)]
    · rw [first.on]
      rfl
    · rw [first.on, name?, bind_ok peek_at, word]
      rfl
  have declared : declares c (r.on t) = .ok (.vars, r.on t) := by
    rw [first.on, declares, bind_ok peek_at, if_pos (by rw [Token.is, word]; rfl)]
    rfl
  have known : name? c (r.on tok.behind) = .ok (Option.some n, r.on tok.behind) := name?_first behind called sloppy
  have bound : bindings g c false (r.on tok.behind) = .ok ([(n, Option.some (named n e))], r.on u) := by
    refine iterate_done some ?_
    rw [bind_ok known]
    dsimp only
    rw [if_neg (by simp [sloppy]), behind.on, bind_ok (advance_at behind'.fine)]
    refine (bind_ok (accept_first behind' is' fine')).trans ?_
    rw [if_pos rfl, bind_ok read, pure_bind, closing.on, bind_ok (accept_other (Token.is_of_is is ","))]
    rfl
  have opened := peek_first (r := r) first
  have noted : ([(n, Option.some (named n e))].forM fun p => declareVar p.1 : Parse PUnit) (r.on u) =
      .ok (⟨⟩, { r with vars := n :: r.vars }.on u) := rfl
  have ended : endStatement ({ r with vars := n :: r.vars }.on u) = .ok
    ((), { r with vars := n :: r.vars }.on semicolon.behind) := by
    rw [closing.on, endStatement_at is fine]
    rfl
  rw [anyStatement, bind_ok opened, bind_ok label]
  dsimp only
  rw [bind_ok declared]
  dsimp only
  rw [first.on, bind_ok (advance_at behind.fine)]
  refine (bind_ok bound).trans ?_
  rw [bind_ok noted, bind_ok ended]
  rfl

/-- An expression that begins with a name. -/
theorem statement_expression (name : tok.lexeme = .name n false) (free : n ≠ Utf16.ofString "let")
    {next : Token} (behind : First tok.behind next) (other : next.is ":" = false)
    (read : g.assignment c (r.on t) = .ok (e, r.on u)) :
    anyStatement g c single (r.on t) = .ok (.expression e, r.on semicolon.behind) := by
  have opened := peek_first (r := r) first
  have label : labelAhead? c (r.on t) = .ok (none, r.on t) := by
    rw [labelAhead?, bind_ok (name?_first first name sloppy), first.on, behind.ofSource]
    show Except.ok (if next.is ":" then _ else _, _) = _
    rw [other]
    rfl
  have mark : ∀ m, tok.is m = false := fun m => by rw [Token.is, name]
  have declared : declares c (r.on t) = .ok (.nothing, r.on t) := by
    rw [declares, bind_ok opened, mark, mark, if_neg (by decide), if_neg (by decide), bind_ok (a := false)
      (s := r.on t)]
    · rfl
    · rw [seesLet, bind_ok opened, name]
      dsimp only
      rw [if_neg free]
      rfl
  have whole := expression_closed some closing (Token.is_of_is is ",") read
  have ended : endStatement (r.on u) = .ok ((), r.on semicolon.behind) := by
    rw [closing.on, endStatement_at is fine]
    rfl
  rw [anyStatement, bind_ok opened, bind_ok label]
  dsimp only
  rw [bind_ok declared]
  dsimp only
  rw [name]
  show expressionStatement g c (r.on t) = _
  rw [expressionStatement, bind_ok whole, bind_ok ended]
  rfl

omit sloppy in
/-- A value that a function returns. -/
theorem statement_return (word : tok.lexeme = .word "return") (inside : c.inFunction = true) {next : Token}
    (behind : First tok.behind next) (value : next.is ";" = false ∧ next.is "\x7d" = false ∧ next.afterLine = false)
    (read : g.assignment c (r.on tok.behind) = .ok (e, r.on u)) :
    anyStatement g c single (r.on t) = .ok (.return (Option.some e), r.on semicolon.behind) := by
  have opened := peek_first (r := r) first
  have label : labelAhead? c (r.on t) = .ok (none, r.on t) := by
    rw [first.on, labelAhead?, bind_ok (a := none) (s := r.on t)]
    · rw [first.on]
      rfl
    · rw [first.on, name?, bind_ok peek_at, word]
      rfl
  have mark : ∀ m, tok.is m = ("return" == m) := fun m => by rw [Token.is, word]
  have declared : declares c (r.on t) = .ok (.nothing, r.on t) := by
    rw [declares, bind_ok opened, mark, mark, if_neg (by decide), if_neg (by decide), bind_ok (a := false)
      (s := r.on t)]
    · rfl
    · rw [seesLet, bind_ok opened, word]
      rfl
  have whole := expression_closed some closing (Token.is_of_is is ",") read
  have ended : endStatement (r.on u) = .ok ((), r.on semicolon.behind) := by
    rw [closing.on, endStatement_at is fine]
    rfl
  rw [anyStatement, bind_ok opened, bind_ok label]
  dsimp only
  rw [bind_ok declared]
  dsimp only
  rw [word]
  show returnStatement g c (r.on t) = _
  rw [returnStatement, inside, if_neg (by decide)]
  dsimp only
  rw [bind_ok (advance_first first behind.fine), bind_ok (peek_first behind), value.1, value.2.1, value.2.2,
    if_neg (by decide)]
  refine (bind_ok whole).trans ?_
  rw [pure_bind, bind_ok ended]
  rfl

end Statements

/-! ### Functions -/

/-- A reading as a function begins it. -/
def Reading.entering (r : Reading) : Reading :=
  { r with vars := [], inner := [], lexicals := [], functions := [], usesArguments := false }

/-- A function of one parameter that declares nothing. -/
theorem functionFrom_plain {start : Text} {ss : List Stmt} {name par brace close : Token} (some : 1 < r.budget)
    (opening : First t tok) (is : tok.is "(" = true) (first : First tok.behind name)
    (called : name.lexeme = .name n false)
    (free : isRestricted n = false) (closing : First name.behind par) (is' : par.is ")" = true)
    (inside : First par.behind brace)
    (is'' : brace.is "\x7b" = true) (fine : Fine (Token.ofSource brace.behind)) (sloppy : c.strict = false)
    (sloppy' : asksStrict (Token.ofSource brace.behind) = false)
    (read : statements g { inFunction := true } (r.entering.on brace.behind) = .ok (ss, r.entering.on u))
    (last : First u close)
    (ends : close.is "\x7d" = true) (fine' : Fine (Token.ofSource close.behind)) :
    functionFrom g c start [] false (r.on t) =
      .ok (.mk [] [n] [] false false false (.mk [] [] ss) (Text.toUtf16 (Token.between start close.behind)),
        r.on close.behind) := by
  have known : name? c (r.entering.on tok.behind) = .ok (Option.some n, r.entering.on tok.behind) :=
    name?_first first called sloppy
  have noted : noteName n = (pure () : Parse Unit) := if_neg (by simp [free])
  have given : parameters c (r.entering.on tok.behind) = .ok ([n], r.entering.on par.behind) := by
    obtain ⟨k, budget⟩ : ∃ k, r.budget = k + 2 := ⟨r.budget - 2, by omega⟩
    show iterateUpTo _ r.budget [] _ = _
    rw [budget, iterateUpTo_next (x := [n]) (s := r.entering.on name.behind), iterateUpTo_done (b := [n])
      (s := r.entering.on par.behind)]
    · rw [bind_ok (accept_first closing is' inside.fine)]
      rfl
    · have other : name.is ")" = false := by rw [Token.is, called]
      rw [first.on, bind_ok (accept_other other), if_neg (by decide), ← first.on, bind_ok known]
      dsimp only
      rw [first.on, bind_ok (advance_at closing.fine), noted, pure_bind, closing.ofSource, bind_ok sees_at, is',
        closing.on]
      rfl
  have entered : (set { r.on t with vars := [], inner := [], lexicals := [], functions := [], usesArguments := false } :
    Parse PUnit) (r.on t) = .ok (⟨⟩, r.entering.on t) := rfl
  have got : ∀ l : Reading, (get : Parse Reading) l = .ok (l, l) := fun _ => rfl
  have closed : closeBlock c true { r.entering.on brace.behind with vars := [] } ss (r.entering.on u) =
    .ok (.mk [] [] ss, r.entering.on u) := rfl
  rw [functionFrom, bind_ok (got _), bind_ok entered]
  refine (bind_ok (expect_first opening is first.fine)).trans ?_
  rw [bind_ok given]
  refine (bind_ok (expect_first inside is'' fine)).trans ?_
  rw [bind_ok (got _)]
  dsimp only
  rw [show (r.entering.on brace.behind).tokens = Token.ofSource brace.behind from rfl, sloppy, sloppy', Bool.or_false]
  rw [if_neg (by simp), if_neg (by simp), bind_ok (got _)]
  refine (bind_ok read).trans ?_
  rw [bind_ok (peek_first last), if_neg (by simp [ends])]
  refine (bind_ok closed).trans ?_
  rw [bind_ok (got _)]
  have left : (set { r.entering.on u with
        vars := r.vars, inner := r.inner, lexicals := r.lexicals, functions := r.functions,
            usesArguments := r.usesArguments } :
      Parse PUnit) (r.entering.on u) = .ok (⟨⟩, r.on u) := rfl
  refine (bind_ok left).trans ?_
  rw [bind_ok (advance_first last fine')]
  rfl

/-! ### Functions in other places -/

/-- What one reader reads as a function, another one reads too, and leaves what was declared around as it is there. -/
def Leaves (o' : Reading) (ownName : Bool) (p q : Parse Code) : Prop := ∀ l code s, p l = .ok (code, s) →
  q l = .ok (code, { o' with tokens := s.tokens, budget := s.budget }) ∧ code.ownName = ownName

namespace Leaves

variable {α : Type} {o o' : Reading} {ownName : Bool} {p : Parse α} {f f' : α → Parse Code}

theorem bind (rest : ∀ a, Leaves o' ownName (f a) (f' a)) : Leaves o' ownName (p >>= f) (p >>= f') :=
  fun l code s read => by
  rcases first : p l with complaint | ⟨a, m⟩
  · change (p l >>= fun x => f x.1 x.2) = _ at read
    rw [first] at read
    cases read
  · rw [bind_ok first] at read ⊢
    exact rest a m code s read

theorem check {p : Prop} [Decidable p] {complaint : Text} {f f' : Unit → Parse Code}
    (rest : ∀ u, Leaves o' ownName (f u) (f' u)) :
    Leaves o' ownName (if p then complain complaint >>= f else f ())
      (if p then complain complaint >>= f' else f' ()) := by
  split
  · exact bind rest
  · exact rest ()

/-- What was declared around is put back. -/
theorem last (r : Reading) {code : Code} (own : code.ownName = ownName) : Leaves o' ownName
    (set { r with
      vars := o.vars, inner := o.inner, lexicals := o.lexicals, functions := o.functions,
          usesArguments := o.usesArguments } >>=
        fun _ => advance >>= fun _ => pure code)
    (set { r with
      vars := o'.vars, inner := o'.inner, lexicals := o'.lexicals, functions := o'.functions,
          usesArguments := o'.usesArguments } >>=
        fun _ => advance >>= fun _ => pure code) := fun l c s read => by
  have stepped (x : Reading) (same : x.tokens = r.tokens) :
      (set x >>= fun _ => advance >>= fun _ => pure code : Parse Code) l =
        (advance r).map fun y => (code, { x with tokens := y.2.tokens }) := by
    rw [bind_ok (show (set x : Parse PUnit) l = .ok (⟨⟩, x) from rfl)]
    change (advance x >>= fun y => pure (code, y.2)) = _
    unfold advance
    rw [same]
    dsimp only
    split <;> rfl
  have back (x : Reading) := stepped { r with
    vars := x.vars, inner := x.inner, lexicals := x.lexicals, functions := x.functions,
        usesArguments := x.usesArguments } rfl
  have first := (back o).symm.trans read
  rcases moved : advance r with complaint | ⟨⟨⟩, m⟩
  · rw [moved] at first
    cases first
  · rw [moved] at first
    cases first
    refine ⟨(back o').trans ?_, own⟩
    rw [moved]
    rfl

end Leaves

/-- What is read of a function once what was declared around is set aside. -/
def functionInside (g : Grammar) (c : Context) (start : Text) (name : Utf16) (ownName : Bool) (outer : Reading) :
    Parse Code := do
  expect "("
  let ps ← parameters c
  expect "\x7b"
  let strict := c.strict || asksStrict (← get).tokens
  if strict && (ps.any isRestricted || ps.any fun p => 1 < ps.count p) then
    complain "invalid argument name in strict code"
  if strict && isRestricted name then complain "invalid function name in strict code"
  let opened ← get
  let ss ← statements g { strict, inFunction := true }
  let close ← peek
  if !close.is "\x7d" then complain "unexpected token in expression: ''"
  let body ← closeBlock c true { opened with vars := [] } ss
  let r ← get
  let names := body.lexicals.map (·.name)
  if ps.any names.contains then complain "invalid redefinition of parameter name"
  let vars := distinct (r.vars.reverse ++ r.inner.reverse.filter fun n => !names.contains n)
  let code := Code.mk name ps vars strict ownName r.usesArguments body
    (Text.toUtf16 (Token.between start close.behind))
  set { r with
    vars := outer.vars, inner := outer.inner, lexicals := outer.lexicals
    functions := outer.functions, usesArguments := outer.usesArguments }
  advance
  return code

theorem functionFrom_apply {start : Text} {ownName : Bool} (o : Reading) :
    functionFrom g c start n ownName o = functionInside g c start n ownName o o.entering := rfl

/-- The code of a function does not depend on what was declared around it, and that is there again behind it. -/
theorem leaves_functionInside (start : Text) (ownName : Bool) (o o' : Reading) :
    Leaves o' ownName (functionInside g c start n ownName o) (functionInside g c start n ownName o') :=
  .bind fun _ => .bind fun _ => .bind fun _ => .bind fun _ => .check fun _ => .check fun _ => .bind fun _ =>
      .bind fun _ =>
    .bind fun _ => .check fun _ => .bind fun _ => .bind fun _ => .check fun _ => .last _ rfl

/-- A function is read alike wherever it stands. -/
theorem functionFrom_elsewhere {start : Text} {ownName : Bool} {code : Code} {o o' l : Reading}
    (tokens : o'.tokens = o.tokens)
    (budget : o'.budget = o.budget) (read : functionFrom g c start n ownName o = .ok (code, l)) :
    functionFrom g c start n ownName o' = .ok (code, { o' with tokens := l.tokens, budget := l.budget }) := by
  have same : o'.entering = o.entering := by
    rw [Reading.entering, tokens, budget]
    rfl
  rw [functionFrom_apply] at read ⊢
  rw [same]
  exact (leaves_functionInside start ownName o o' _ code l read).1

/-- Code tells whether its function binds its own name just as it was asked to. -/
theorem ownName_functionFrom {start : Text} {ownName : Bool} {code : Code} {o l : Reading}
    (read : functionFrom g c start n ownName o = .ok (code, l)) : code.ownName = ownName :=
  (leaves_functionInside start ownName o o _ code l read).2

/-! ### Programs -/

/-- A program whose first token is no string does not ask for strict mode. -/
theorem asksStrict_of_first (first : First t tok)
    (plain : ∀ units whole legacy, tok.lexeme ≠ .string units whole legacy) :
    asksStrict (Token.ofSource t) = false := by
  rw [first.ofSource]
  unfold asksStrict
  split
  · next t' u' rest same =>
    obtain ⟨rfl, -⟩ := List.cons.inj same
    split
    · next units whole legacy string => exact absurd string (plain units whole legacy)
    · rfl
  · rfl

/-- The reading of a program that has declared variables so far. -/
def Reading.declaring (names : List Utf16) (turns : Nat) : Reading := { tokens := [], budget := turns, vars := names }

/-- A program that begins with no string is what its statements are read as. -/
theorem ofSource_of_statements {ss : List Stmt} {names : List Utf16} {last : Token} {k : Nat} (first : First t tok)
    (plain : ∀ units whole legacy, tok.lexeme ≠ .string units whole legacy) (count : (Token.ofSource t).length = k)
    (read : statements (ofDepth (3 * k + 8)) {} ((Reading.declaring [] (k + 8)).on t) =
      .ok (ss, (Reading.declaring names (k + 8)).at [last])) (finish : last.lexeme = .finish) :
    Program.ofSource false t = .ok ⟨distinct names.reverse, false, .mk [] [] ss⟩ := by
  have whole : program (ofDepth (3 * k + 8)) false ((Reading.declaring [] (k + 8)).on t) =
      .ok (⟨distinct names.reverse, false, .mk [] [] ss⟩, (Reading.declaring names (k + 8)).at [last]) := by
    have sloppy : (false || asksStrict ((Reading.declaring [] (k + 8)).on t).tokens) = false :=
      asksStrict_of_first first plain
    have closed : closeBlock {} true ((Reading.declaring [] (k + 8)).on t) ss
      ((Reading.declaring names (k + 8)).at [last]) =
      .ok (.mk [] [] ss, (Reading.declaring names (k + 8)).at [last]) := rfl
    rw [program, bind_ok (show (get : Parse Reading) _ = .ok (_, _) from rfl)]
    dsimp only
    rw [sloppy, bind_ok read, bind_ok peek_at, finish]
    dsimp only
    rw [bind_ok closed, bind_ok (show (get : Parse Reading) _ = .ok (_, _) from rfl)]
    show Except.ok (Program.mk (distinct (names.reverse ++ [])) false (.mk [] [] ss), _) = _
    rw [List.append_nil]
  have solid := first.solid
  unfold Program.ofSource
  dsimp only
  split
  · next complaint line start behind rest same =>
    rw [first.ofSource] at same
    obtain ⟨rfl, -⟩ := List.cons.inj same
    exact solid.elim
  · rw [count]
    exact congrArg (Except.map Prod.fst) whole

end Pieces

end ScriptHost.Script
