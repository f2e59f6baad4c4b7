/-
Actions: the program around a body as a source. It is read as four statements: a list, an object with the bindings as
they are pasted in, a call on the body, and the reply.
-/
import ScriptHost.Proofs.Script.Grammar.Depth
import ScriptHost.Proofs.Script.Grammar.Trees
import ScriptHost.Proofs.Session.Action.Answer

namespace ScriptHost.Session.Action

open Script
open Script.Grammar Script.Parse
open Script.Token (First)
open Engine (Literal)

/-! ## Its pieces -/

/-- The list that is emitted to. -/
def listPieces : List String := ["\nvar", " emitting", " =", " [", "]", ";"]

/-- The function that a body emits by, from its parameter on. -/
def outPieces : List String := ["(", "x", ")", " \x7b", " emitting", ".", "push", "(", "x", ")", ";", " \x7d"]

/-- What the body gets; its bindings stand before the eighth piece. -/
def envPieces : List String :=
  ["\nvar", " env", " =", " \x7b", "\n  bindings", ":", " ", ",", "\n  out", ":",
  " function"] ++ outPieces ++ ["\n\x7d", ";"]

/-- The call on the body, up to the parenthesis before the parameter of its function, -/
def callPieces : List String := ["\nvar", " bs", " =", " (", "function", "("]

/-- and from the end of that function on. -/
def calledPieces : List String := [")", "(", "env", ")", ";"]

/-- The reply. -/
def replyPieces : List String :=
  ["\nJSON", ".", "stringify", "(", "\x7b", "bs", ":", " bs", ",", " emitted", ":", " emitting", "\x7d", ")", ";"]

/-! ### The body -/

/-- What is put behind the function of a body. -/
def closing : String := ")(env);\nJSON.stringify(\x7bbs: bs, emitted: emitting\x7d);\n"

/-- The function of a body from its parameter on, with what is put behind it. -/
def bodyText (src : Utf16) : Text := "(_) \x7b\n" ++ Utf16.toText (src ++ Utf16.ofString ("\n\x7d" ++ closing))

/-- A text is read as the function of a body up to another text. -/
def ReadsFunction (t : Text) (code : Code) (u : Text) : Prop :=
  let tokens := Token.ofSource t
  ∃ s, functionFrom (ofDepth (3 * tokens.length + 8)) {} ("function" ++ t)
      [] false { tokens, budget := tokens.length + 8 } =
    .ok (code, s) ∧ s.tokens = Token.ofSource u

/-- A body is read as a function, which ends where it is meant to. -/
def Reads (src : Utf16) (code : Code) : Prop := ReadsFunction (bodyText src) code closing

/-- It is read so wherever it stands, if there is room enough. -/
theorem ReadsFunction.there {t u : Text} {code : Code} (h : ReadsFunction t code u) {r : Reading} {d : Nat}
    (deep : 3 * (Token.ofSource t).length + 8 ≤ d) (turns : (Token.ofSource t).length + 8 ≤ r.budget) :
    functionFrom (ofDepth d) {} ("function" ++ t) [] false (r.on t) = .ok (code, r.on u) := by
  obtain ⟨s, read, rest⟩ := h
  let alone : Reading := { tokens := Token.ofSource t, budget := (Token.ofSource t).length + 8 }
  have grown := functionFrom_deeper (r := alone) (s := s) deep turns read
  have tokens : (r.on t).tokens = (alone.turning r.budget).tokens := rfl
  have budget : (r.on t).budget = (alone.turning r.budget).budget := rfl
  have here := functionFrom_elsewhere tokens budget grown
  change _ = Except.ok (code, r.at s.tokens) at here
  rw [here, rest]
  rfl

theorem ReadsFunction.ownName {t u : Text} {code : Code} (h : ReadsFunction t code u) : code.ownName = false := by
  obtain ⟨s, read, -⟩ := h
  exact ownName_functionFrom read

section Pieces

variable {g : Grammar} {c : Context} {r : Reading} {d : Nat} {u v : Text}

section Statements

variable (turns : 2 < r.budget) (sloppy : c.strict = false)
include turns sloppy

/-- The list that is emitted to. -/
theorem reads_emitting (fine : Fine (Token.ofSource u)) :
    ReadsStatement (ofDepth (d + 2)) c r (spell listPieces u) (.vars [(emittingName, some (.array []))])
      { r with vars := emittingName :: r.vars } u ∧
      (Token.ofSource u).length < (Token.ofSource (spell listPieces u)).length := by
  let t (n : Nat) : Text := spell (listPieces.drop n) u
  have var : First (t 0) ⟨.word "var", true, "var" ++ t 1, t 1⟩ := ⟨rfl, rfl, trivial⟩
  have name : First (t 1) ⟨.name emittingName false, false, "emitting" ++ t 2, t 2⟩ := ⟨rfl, rfl, trivial⟩
  have eq : First (t 2) ⟨.mark "=", false, "=" ++ t 3, t 3⟩ := ⟨rfl, rfl, trivial⟩
  have opening : First (t 3) ⟨.mark "[", false, "[" ++ t 4, t 4⟩ := ⟨rfl, rfl, trivial⟩
  have close : First (t 4) ⟨.mark "]", false, t 4, t 5⟩ := ⟨rfl, rfl, trivial⟩
  have semicolon : First (t 5) ⟨.mark ";", false, t 5, u⟩ := ⟨rfl, rfl, trivial⟩
  have some : 0 < r.budget := by omega
  have ends : Closed (t 5) := closed_of_mark semicolon rfl (by decide)
  have items : arrayItems (ofDepth d) { c with allowIn := true } (r.on (t 4)) = .ok ([], r.on (t 5)) :=
    iterate_done some (arrayTurn_end close rfl semicolon.fine)
  refine ⟨⟨⟨_, var, rfl⟩, statement_var
    (g := ofDepth (d + 1)) some sloppy var semicolon rfl fine rfl name rfl eq rfl opening.fine
    (assignment_of_primary some opening (begins_mark rfl (by decide)) ends
    (primary_list opening rfl close.fine items))⟩, ?_⟩
  have length : (Token.ofSource (t 0)).length = (Token.ofSource u).length + 6 := by
    rw [var.length, name.length, eq.length, opening.length, close.length, semicolon.length]
  exact Nat.lt_of_lt_of_eq (by omega) length.symm

/-- The function that a body emits by. -/
theorem reads_out (closed : Closed u) :
    (ofDepth (d + 4)).assignment c (r.on (spell (" function" :: outPieces) u)) = .ok
    (.function (outCode.named []), r.on u) ∧
      (Token.ofSource u).length < (Token.ofSource (spell (" function" :: outPieces) u)).length := by
  let t (n : Nat) : Text := spell ((" function" :: outPieces).drop n) u
  have word : First (t 0) ⟨.word "function", false, "function" ++ t 1, t 1⟩ := ⟨rfl, rfl, trivial⟩
  have opening : First (t 1) ⟨.mark "(", false, t 1, t 2⟩ := ⟨rfl, rfl, trivial⟩
  have item : First (t 2) ⟨.name itemName false, false, t 2, t 3⟩ := ⟨rfl, rfl, trivial⟩
  have close : First (t 3) ⟨.mark ")", false, t 3, t 4⟩ := ⟨rfl, rfl, trivial⟩
  have brace : First (t 4) ⟨.mark "\x7b", false, "\x7b" ++ t 5, t 5⟩ := ⟨rfl, rfl, trivial⟩
  have list : First (t 5) ⟨.name emittingName false, false, "emitting" ++ t 6, t 6⟩ := ⟨rfl, rfl, trivial⟩
  have point : First (t 6) ⟨.mark ".", false, t 6, t 7⟩ := ⟨rfl, rfl, trivial⟩
  have push : First (t 7) ⟨.name "push" false, false, t 7, t 8⟩ := ⟨rfl, rfl, trivial⟩
  have opening' : First (t 8) ⟨.mark "(", false, t 8, t 9⟩ := ⟨rfl, rfl, trivial⟩
  have item' : First (t 9) ⟨.name itemName false, false, t 9, t 10⟩ := ⟨rfl, rfl, trivial⟩
  have close' : First (t 10) ⟨.mark ")", false, t 10, t 11⟩ := ⟨rfl, rfl, trivial⟩
  have semicolon : First (t 11) ⟨.mark ";", false, t 11, t 12⟩ := ⟨rfl, rfl, trivial⟩
  have brace' : First (t 12) ⟨.mark "\x7d", false, "\x7d" ++ u, u⟩ := ⟨rfl, rfl, trivial⟩
  have some : 0 < r.budget := by omega
  have given : arguments (ofDepth (d + 1)) { inFunction := true }
    (r.entering.on (t 9)) = .ok ([.name itemName], r.entering.on (t 11)) :=
    arguments_one (r := r.entering) (Nat.lt_of_succ_lt turns) item' rfl
      (assignment_name (r := r.entering) some rfl item' (by decide) (closed_of_mark close' rfl (by decide))) close'
      rfl semicolon.fine
  have ends : Closed (t 11) := closed_of_mark semicolon rfl (by decide)
  have pushed := leftHandSide_callMember (r := r.entering) (c := { inFunction := true }) turns list (begins_of_name rfl)
    (primary_name list rfl rfl (by decide) point.fine) point rfl push rfl opening' rfl item'.fine given ends
  have statement : anyStatement (ofDepth (d + 2)) { inFunction := true } false (r.entering.on (t 5)) = _ :=
    statement_expression some rfl list semicolon rfl brace'.fine rfl (by decide) point rfl
      (assignment_closed some list (begins_of_name rfl) ends pushed)
  have body : Grammar.statements (ofDepth (d + 3)) { inFunction := true } (r.entering.on (t 5)) =
      .ok ([.expression (.call (.member (.name emittingName) (text "push")) [.name itemName])],
        r.entering.on (t 12)) := by
    obtain ⟨k, budget⟩ : ∃ k, (r.entering.on (t 5)).budget = k + 2 := ⟨r.budget - 2, by show r.budget = _; omega⟩
    rw [statements_eq, iterate_apply, budget, iterateUpTo_next (statementTurn_next list rfl statement), brace'.on,
      iterateUpTo_done (statementTurn_end (.inl rfl))]
    rfl
  have source : Text.toUtf16 (Token.between ("function" ++ t 1) u) =
    Utf16.ofString "function(x) \x7b emitting.push(x); \x7d" := by
    have shape : ("function" : Text) ++ t 1 = spell ("function" :: outPieces) [] ++ u :=
      spell_eq_append ("function" :: outPieces) u
    rw [shape, Token.between, List.length_append, Nat.add_sub_cancel, List.take_left]
    decide +kernel
  have same : outCode.named [] = .mk [] [itemName] [] false false false
      (.mk [] [] [.expression (.call (.member (.name emittingName) (text "push")) [.name itemName])])
      (Text.toUtf16 (Token.between ("function" ++ t 1) u)) := by
    rw [source]
    rfl
  have made : functionFrom (ofDepth (d + 3)) { c with allowIn := true } ("function" ++ t 1) [] false (r.on (t 1)) =
      .ok (outCode.named [], r.on u) := by
    rw [same]
    exact functionFrom_plain (Nat.lt_of_succ_lt turns) opening rfl item rfl
      (by decide) close rfl brace rfl list.fine sloppy rfl body
      brace' rfl closed.fine
  refine ⟨assignment_of_primary some word (Token.begins_of_is (s := "function") rfl (by decide)) closed
    (primary_function word rfl opening rfl made), ?_⟩
  have length : (Token.ofSource (t 0)).length = (Token.ofSource u).length + 13 := by
    rw [word.length, opening.length, item.length, close.length, brace.length, list.length, point.length, push.length,
      opening'.length, item'.length, close'.length, semicolon.length, brace'.length]
  exact Nat.lt_of_lt_of_eq (by omega) length.symm

/-- What the body gets, with the expression that its bindings are read as. -/
theorem reads_env {j : Json} {e : Expr} (h : ReadAs j e) (fine : Fine (Token.ofSource u))
    (budget : (Token.ofSource (spell (envPieces.take 7) (j.text ++ spell (envPieces.drop 7) u))).length ≤ r.budget)
    (deep : (Token.ofSource (spell (envPieces.take 7) (j.text ++ spell (envPieces.drop 7) u))).length ≤ d) :
    ReadsStatement (ofDepth (d + 6)) c r (spell (envPieces.take 7) (j.text ++ spell (envPieces.drop 7) u))
      (.vars [(envName, some (envExpr e))]) { r with vars := envName :: r.vars } u ∧
        (Token.ofSource u).length < (Token.ofSource
        (spell (envPieces.take 7) (j.text ++ spell (envPieces.drop 7) u))).length := by
  let t (n : Nat) : Text := spell ((envPieces.take 7).drop n) (j.text ++ spell (envPieces.drop 7) u)
  let t' (n : Nat) : Text := spell (envPieces.drop n) u
  have closing : Closing (t' 7) := .comma (t' 8)
  obtain ⟨tok, tree, -⟩ := h.first closing
  have spaced : First (t 6) tok := tree.blank rfl
  have var : First (t 0) ⟨.word "var", true, "var" ++ t 1, t 1⟩ := ⟨rfl, rfl, trivial⟩
  have name : First (t 1) ⟨.name envName false, false, "env" ++ t 2, t 2⟩ := ⟨rfl, rfl, trivial⟩
  have eq : First (t 2) ⟨.mark "=", false, "=" ++ t 3, t 3⟩ := ⟨rfl, rfl, trivial⟩
  have opening : First (t 3) ⟨.mark "\x7b", false, "\x7b" ++ t 4, t 4⟩ := ⟨rfl, rfl, trivial⟩
  have bindings : First (t 4) ⟨.name "bindings" false, true, "bindings" ++ t 5, t 5⟩ := ⟨rfl, rfl, trivial⟩
  have colon : First (t 5) ⟨.mark ":", false, t 5, t 6⟩ := ⟨rfl, rfl, trivial⟩
  have comma : First (t' 7) ⟨.mark ",", false, t' 7, t' 8⟩ := ⟨rfl, rfl, trivial⟩
  have out : First (t' 8) ⟨.name "out" false, true, "out" ++ t' 9, t' 9⟩ := ⟨rfl, rfl, trivial⟩
  have colon' : First (t' 9) ⟨.mark ":", false, t' 9, t' 10⟩ := ⟨rfl, rfl, trivial⟩
  have word : First (t' 10) ⟨.word "function", false, "function" ++ t' 11, t' 11⟩ := ⟨rfl, rfl, trivial⟩
  have close : First (t' 23) ⟨.mark "\x7d", true, "\x7d" ++ t' 24, t' 24⟩ := ⟨rfl, rfl, trivial⟩
  have semicolon : First (t' 24) ⟨.mark ";", false, t' 24, u⟩ := ⟨rfl, rfl, trivial⟩
  have some : 0 < r.budget := by omega
  have ends : Closed (t' 24) := closed_of_mark semicolon rfl (by decide)
  have same : r.on (t 6) = r.on (j.text ++ t' 7) := by rw [spaced.on, tree.on]
  have length : (Token.ofSource (t 0)).length = (Token.ofSource (j.text ++ t' 7)).length + 6 := by
    rw [var.length, name.length, eq.length, opening.length, bindings.length, colon.length]
    exact congrArg (·.tokens.length + 6) same
  have longer := h.length_lt closing
  change (Token.ofSource (t 0)).length ≤ _ at budget deep
  obtain ⟨function, shorter⟩ := reads_out (c := { c with allowIn := true })
    (d := d) turns sloppy (closed_of_mark close rfl (by decide))
  have first : objectEntry (ofDepth (d + 4)) { c with allowIn := true }
    (r.on (t 4)) = .ok (.value "bindings" e, r.on (t' 7)) := by
    have read := h.read (d := d + 4) (r := r) (c := { c with allowIn := true }) closing (by omega) (by omega)
    rw [← same] at read
    have entry := objectEntry_name bindings rfl (by decide) colon rfl spaced.fine read
    rwa [h.plain] at entry
  have second : objectEntry (ofDepth (d + 4)) { c with allowIn := true } (r.on (t' 8)) =
      .ok (.value "out" (.function outCode), r.on (t' 23)) :=
    objectEntry_name (e := .function (outCode.named [])) out rfl (by decide) colon' rfl word.fine function
  have entries : objectEntries (ofDepth (d + 4)) { c with allowIn := true } (r.on (t 4)) =
      .ok ([.value "bindings" e, .value "out" (.function outCode)], r.on (t' 24)) := by
    obtain ⟨k, enough⟩ : ∃ k, (r.on (t 4)).budget = k + 3 := ⟨r.budget - 3, by show r.budget = _; omega⟩
    rw [objectEntries_eq, iterate_apply, enough,
      iterateUpTo_next (objectTurn_next bindings rfl first comma rfl out.fine),
      iterateUpTo_next (objectTurn_last out rfl second close rfl),
        iterateUpTo_done (objectTurn_end close rfl semicolon.fine)]
    rfl
  refine ⟨⟨⟨_, var, rfl⟩, statement_var
    (g := ofDepth (d + 5)) some sloppy var semicolon rfl fine rfl name rfl eq rfl opening.fine
    (assignment_of_primary some opening (begins_mark rfl (by decide)) ends
    (primary_object opening rfl bindings.fine entries))⟩, ?_⟩
  have behind : (Token.ofSource (t' 7)).length = (Token.ofSource (t' 10)).length + 3 := by
    rw [comma.length, out.length, colon'.length]
  have behind' : (Token.ofSource (t' 23)).length = (Token.ofSource u).length + 2 := by
    rw [close.length, semicolon.length]
  have shorter' : (Token.ofSource (t' 23)).length < (Token.ofSource (t' 10)).length := shorter
  exact Nat.lt_of_lt_of_eq (by omega) length.symm

omit sloppy in
/-- The call on the body, whose function is read there as it is read alone. -/
theorem reads_call {code : Code} (fine : Fine (Token.ofSource u))
    (read : ReadsFunction (spell ["("] v) code (spell calledPieces u))
    (budget : (Token.ofSource (spell callPieces v)).length + 3 ≤ r.budget)
    (deep : 3 * (Token.ofSource (spell callPieces v)).length ≤ d) :
    ReadsStatement (ofDepth (d + 3)) {} r (spell callPieces v)
        (.vars [(bsName, some (.call (.function code) [.name envName]))])
      { r with vars := bsName :: r.vars } u := by
  let t (n : Nat) : Text := spell (callPieces.drop n) v
  let t' (n : Nat) : Text := spell (calledPieces.drop n) u
  let function : Text := "function" ++ spell ["("] v
  have var : First (t 0) ⟨.word "var", true, "var" ++ t 1, t 1⟩ := ⟨rfl, rfl, trivial⟩
  have name : First (t 1) ⟨.name bsName false, false, "bs" ++ t 2, t 2⟩ := ⟨rfl, rfl, trivial⟩
  have eq : First (t 2) ⟨.mark "=", false, "=" ++ t 3, t 3⟩ := ⟨rfl, rfl, trivial⟩
  have opening : First (t 3) ⟨.mark "(", false, "(" ++ function, function⟩ := ⟨rfl, rfl, trivial⟩
  have word : First function ⟨.word "function", false, function, spell ["("] v⟩ := ⟨rfl, rfl, trivial⟩
  have opens : First (spell ["("] v) ⟨.mark "(", false, spell ["("] v, v⟩ := ⟨rfl, rfl, trivial⟩
  have close : First (t' 0) ⟨.mark ")", false, t' 0, t' 1⟩ := ⟨rfl, rfl, trivial⟩
  have opening' : First (t' 1) ⟨.mark "(", false, t' 1, t' 2⟩ := ⟨rfl, rfl, trivial⟩
  have env : First (t' 2) ⟨.name envName false, false, t' 2, t' 3⟩ := ⟨rfl, rfl, trivial⟩
  have close' : First (t' 3) ⟨.mark ")", false, t' 3, t' 4⟩ := ⟨rfl, rfl, trivial⟩
  have semicolon : First (t' 4) ⟨.mark ";", false, t' 4, u⟩ := ⟨rfl, rfl, trivial⟩
  have some : 0 < r.budget := by omega
  have ends : Closed (t' 0) := closed_of_mark close rfl (by decide)
  have ends' : Closed (t' 4) := closed_of_mark semicolon rfl (by decide)
  have length : (Token.ofSource (t 0)).length = (Token.ofSource (spell ["("] v)).length + 5 := by
    rw [var.length, name.length, eq.length, opening.length, word.length]
  change (Token.ofSource (t 0)).length + 3 ≤ _ at budget
  change 3 * (Token.ofSource (t 0)).length ≤ _ at deep
  rw [length] at budget deep
  have made := read.there (d := d) (r := r) (Nat.le_trans (by omega) deep) (Nat.le_trans (by omega) budget)
  have begins : Token.Begins ⟨.word "function", false, function, spell ["("] v⟩ :=
    Token.begins_of_is (s := "function") rfl (by decide)
  have operand : primary (ofDepth d) {} (r.on function) = .ok (.function code, r.on (t' 0)) :=
    primary_function word rfl opens rfl made
  have made' := assignment_of_primary some word begins ends operand
  have callee : primary (ofDepth (d + 1)) {} (r.on (t 3)) = _ :=
    primary_paren some opening rfl word.fine made' close rfl opening'.fine
  have argument : assignmentExpression (ofDepth d) {} (r.on (t' 2)) = .ok (.name envName, r.on (t' 3)) :=
    assignment_name some rfl env (by decide) (closed_of_mark close' rfl (by decide))
  have given : arguments (ofDepth (d + 1)) {} (r.on (t' 2)) = _ :=
    arguments_one (Nat.lt_of_succ_lt turns) env rfl argument close' rfl semicolon.fine
  have called : leftHandSide (ofDepth (d + 1)) {}
    (r.on (t 3)) = .ok (.call (.function code) [.name envName], r.on (t' 4)) :=
    leftHandSide_call turns opening (begins_mark rfl (by decide)) callee opening' rfl env.fine given ends'
  exact ⟨⟨_, var, rfl⟩, statement_var
    (g := ofDepth (d + 2)) some rfl var semicolon rfl fine rfl name rfl eq rfl opening.fine
    (assignment_closed some opening (begins_mark rfl (by decide)) ends' called)⟩

/-- The reply. -/
theorem reads_reply (fine : Fine (Token.ofSource u)) :
    ReadsStatement (ofDepth (d + 4)) c r (spell replyPieces u) (.expression replyExpr) r u := by
  let t (n : Nat) : Text := spell (replyPieces.drop n) u
  have library : First (t 0) ⟨.name "JSON" false, true, "JSON" ++ t 1, t 1⟩ := ⟨rfl, rfl, trivial⟩
  have point : First (t 1) ⟨.mark ".", false, t 1, t 2⟩ := ⟨rfl, rfl, trivial⟩
  have writes : First (t 2) ⟨.name "stringify" false, false, t 2, t 3⟩ := ⟨rfl, rfl, trivial⟩
  have opening : First (t 3) ⟨.mark "(", false, t 3, t 4⟩ := ⟨rfl, rfl, trivial⟩
  have brace : First (t 4) ⟨.mark "\x7b", false, t 4, t 5⟩ := ⟨rfl, rfl, trivial⟩
  have bs : First (t 5) ⟨.name bsName false, false, t 5, t 6⟩ := ⟨rfl, rfl, trivial⟩
  have colon : First (t 6) ⟨.mark ":", false, t 6, t 7⟩ := ⟨rfl, rfl, trivial⟩
  have bs' : First (t 7) ⟨.name bsName false, false, "bs" ++ t 8, t 8⟩ := ⟨rfl, rfl, trivial⟩
  have comma : First (t 8) ⟨.mark ",", false, t 8, t 9⟩ := ⟨rfl, rfl, trivial⟩
  have emitted : First (t 9) ⟨.name "emitted" false, false, "emitted" ++ t 10, t 10⟩ := ⟨rfl, rfl, trivial⟩
  have colon' : First (t 10) ⟨.mark ":", false, t 10, t 11⟩ := ⟨rfl, rfl, trivial⟩
  have list : First (t 11) ⟨.name emittingName false, false, "emitting" ++ t 12, t 12⟩ := ⟨rfl, rfl, trivial⟩
  have brace' : First (t 12) ⟨.mark "\x7d", false, t 12, t 13⟩ := ⟨rfl, rfl, trivial⟩
  have close : First (t 13) ⟨.mark ")", false, t 13, t 14⟩ := ⟨rfl, rfl, trivial⟩
  have semicolon : First (t 14) ⟨.mark ";", false, t 14, u⟩ := ⟨rfl, rfl, trivial⟩
  have some : 0 < r.budget := by omega
  have ends : Closed (t 14) := closed_of_mark semicolon rfl (by decide)
  have first : objectEntry (ofDepth (d + 1)) { c with allowIn := true }
    (r.on (t 5)) = .ok (.value "bs" (.name bsName), r.on (t 8)) :=
    objectEntry_name (e := .name bsName) bs rfl (by decide) colon rfl bs'.fine
      (assignment_name some sloppy bs' (by decide) (closed_of_mark comma rfl (by decide)))
  have second : objectEntry (ofDepth (d + 1)) { c with allowIn := true } (r.on (t 9)) =
      .ok (.value "emitted" (.name emittingName), r.on (t 12)) :=
    objectEntry_name (e := .name emittingName) emitted rfl (by decide) colon' rfl list.fine
      (assignment_name some sloppy list (by decide) (closed_of_mark brace' rfl (by decide)))
  have entries : objectEntries (ofDepth (d + 1)) { c with allowIn := true } (r.on (t 5)) =
      .ok ([.value "bs" (.name bsName), .value "emitted" (.name emittingName)], r.on (t 13)) := by
    obtain ⟨k, enough⟩ : ∃ k, (r.on (t 5)).budget = k + 3 := ⟨r.budget - 3, by show r.budget = _; omega⟩
    rw [objectEntries_eq, iterate_apply, enough, iterateUpTo_next (objectTurn_next bs rfl first comma rfl emitted.fine),
      iterateUpTo_next (objectTurn_last emitted rfl second brace' rfl),
        iterateUpTo_done (objectTurn_end brace' rfl close.fine)]
    rfl
  have object : assignmentExpression (ofDepth (d + 1)) { c with allowIn := true } (r.on (t 4)) =
      .ok (.object [.value "bs" (.name bsName), .value "emitted" (.name emittingName)], r.on (t 13)) :=
    assignment_of_primary some brace (begins_mark rfl (by decide)) (closed_of_mark close rfl (by decide))
        (primary_object brace rfl bs.fine entries)
  have given : arguments (ofDepth (d + 2)) c (r.on (t 4)) =
      .ok ([.object [.value "bs" (.name bsName), .value "emitted" (.name emittingName)]], r.on (t 14)) :=
    arguments_one (Nat.lt_of_succ_lt turns) brace rfl object close rfl semicolon.fine
  have called : leftHandSide (ofDepth (d + 2)) c (r.on (t 0)) = .ok (replyExpr, r.on (t 14)) :=
    leftHandSide_callMember turns library (begins_of_name rfl)
      (primary_name library rfl sloppy (by decide) point.fine) point rfl writes
      rfl opening rfl brace.fine given ends
  have whole : assignmentExpression (ofDepth (d + 2)) c (r.on (t 0)) = .ok (replyExpr, r.on (t 14)) :=
    assignment_closed some library (begins_of_name rfl) ends called
  exact ⟨⟨_, library, rfl⟩,
    statement_expression (g := ofDepth (d + 3)) some sloppy library semicolon rfl fine rfl (by decide) point rfl whole⟩

end Statements

end Pieces

/-! ## The whole program -/

/-- A program begins with what is put before the bindings, and goes on behind them. -/
theorem sourceText_eq (j : Json) (src : Utf16) : ∃ v, bodyText src = spell ["("] v ∧
    sourceText j src = spell listPieces
      (spell (envPieces.take 7) (j.text ++ spell (envPieces.drop 7) (spell callPieces v))) := by
  let before : String := "\nvar emitting = [];\nvar env = \x7b\n  bindings: "
  let between : String := ",\n  out: function(x) \x7b emitting.push(x); \x7d\n\x7d;\nvar bs = (function(_) \x7b\n"
  have shape : program (j.write [] []) src = Utf16.ofString before ++ (j.write [] [] ++
      (Utf16.ofString between ++ (src ++ Utf16.ofString ("\n\x7d" ++ closing)))) := by
    have first : Utf16.ofString before =
      "\n" ++ ("var emitting = [];\n" ++ ("var env = \x7b\n" ++ "  bindings: ")) := by
      decide +kernel
    have second : Utf16.ofString between = ",\n" ++ ("  out: function(x) \x7b emitting.push(x); \x7d\n" ++ ("\x7d;\n" ++
      "var bs = (function(_) \x7b\n")) := by decide +kernel
    have third : Utf16.ofString ("\n\x7d" ++ closing) =
      "\n\x7d)(env);\n" ++ "JSON.stringify(\x7bbs: bs, emitted: emitting\x7d);\n" := by
      decide +kernel
    rw [first, second, third, program]
    simp only [List.append_assoc]
  have first : Text.ofString before = spell (listPieces ++ envPieces.take 7) [] := by decide +kernel
  have second : Text.ofString between = spell (envPieces.drop 7 ++ callPieces) [] ++ "_) \x7b\n" := by decide +kernel
  refine ⟨"_) \x7b\n" ++ Utf16.toText (src ++ Utf16.ofString ("\n\x7d" ++ closing)), rfl, ?_⟩
  rw [sourceText, shape, Json.toText_ofString (by decide +kernel), Json.toText_write,
    Json.toText_ofString (by decide +kernel), first, second]
  rw [← spell_append, ← spell_append, spell_eq_append (listPieces ++ _) (j.text ++ _),
    spell_eq_append (envPieces.drop 7 ++ callPieces) ("_) \x7b\n" ++ _), List.append_assoc]

section Program

variable {j : Json} {e : Expr} {code : Code} {v : Text}

theorem first_list (u : Text) :
    First (spell listPieces u) ⟨.word "var", true, "var" ++ spell (listPieces.drop 1) u, spell (listPieces.drop 1) u⟩ :=
  ⟨rfl, rfl, trivial⟩

theorem first_env (u : Text) : First (spell (envPieces.take 7) u)
    ⟨.word "var", true, "var" ++ spell ((envPieces.take 7).drop 1) u, spell ((envPieces.take 7).drop 1) u⟩ :=
    ⟨rfl, rfl, trivial⟩

theorem first_call (v : Text) :
    First (spell callPieces v) ⟨.word "var", true, "var" ++ spell (callPieces.drop 1) v, spell (callPieces.drop 1) v⟩ :=
  ⟨rfl, rfl, trivial⟩

/-- The four statements. -/
theorem statements_read (h : ReadAs j e) (reads : ReadsFunction (spell ["("] v) code closing) {t : Text}
    (source : t = spell listPieces
    (spell (envPieces.take 7) (j.text ++ spell (envPieces.drop 7) (spell callPieces v)))) {k : Nat}
    (count : (Token.ofSource t).length = k) :
    Grammar.statements (ofDepth (3 * k + 8)) {} ((Reading.declaring [] (k + 8)).on t) =
      .ok ((acting e code).body.statements, (Reading.declaring [bsName, envName, emittingName] (k + 8)).at
        [⟨.finish, true, [], []⟩]) := by
  have ends : (closing : Text) = spell calledPieces (spell replyPieces "\n") := by decide +kernel
  have fine : Fine (Token.ofSource "\n") := fun _ bad => by cases bad
  have turns : 2 < k + 8 := by omega
  -- the readings between the statements
  let r (names : List Utf16) : Reading := Reading.declaring names (k + 8)
  let g := ofDepth (3 * k + 8)
  let behind := spell callPieces v
  let inside := spell (envPieces.take 7) (j.text ++ spell (envPieces.drop 7) behind)
  obtain ⟨list, shorter⟩ : ReadsStatement g {} (r []) (spell listPieces inside)
    (.vars [(emittingName, some (.array []))])
      (r [emittingName]) inside ∧ _ := reads_emitting (d := 3 * k + 6) turns rfl (first_env _).fine
  rw [← source] at list shorter
  rw [count] at shorter
  obtain ⟨env, shorter'⟩ : ReadsStatement g {} (r [emittingName]) inside (.vars [(envName, some (envExpr e))])
      (r [envName, emittingName]) behind ∧ (Token.ofSource behind).length < (Token.ofSource inside).length :=
    reads_env (d := 3 * k + 2) turns rfl h (first_call v).fine (by show (Token.ofSource inside).length ≤ k + 8; omega)
      (by show (Token.ofSource inside).length ≤ _; omega)
  have reply : ReadsStatement g {} (r [bsName, envName, emittingName]) (spell replyPieces "\n") (.expression replyExpr)
    (r [bsName, envName, emittingName]) "\n" := reads_reply (d := 3 * k + 4) turns rfl fine
  rw [ends] at reads
  have call : ReadsStatement g {}
    (r [envName, emittingName]) behind (.vars [(bsName, some (.call (.function code) [.name envName]))])
      (r [bsName, envName, emittingName]) (spell replyPieces "\n") :=
    reads_call (d := 3 * k + 5) turns reply.fine reads (by show (Token.ofSource behind).length + 3 ≤ k + 8; omega)
      (by show 3 * (Token.ofSource behind).length ≤ _; omega)
  have whole : Grammar.statements g {} ((r []).on t) = iterateUpTo (statementTurn g {}) (k + 8) [] ((r []).on t) := rfl
  have finish : Token.ofSource "\n" = [⟨.finish, true, [], []⟩] := rfl
  rw [whole, list.next, env.next, call.next, reply.next, Reading.on, finish,
    iterateUpTo_done (statementTurn_end (.inr rfl))]
  rfl

end Program

/-- The program around a body is read as a list, an object with the bindings as they are read back, a call on the
body, and the reply. -/
theorem ofSource_sourceText (j : Json) {src : Utf16} {code : Code} (reads : Reads src code) : ∃ literal,
    Literal literal j.settled (j.height + 2) ∧
      Program.ofSource false (sourceText j src) = .ok (acting literal code) := by
  obtain ⟨literal, h⟩ := exists_readAs j
  obtain ⟨v, body, source⟩ := sourceText_eq j src
  have first := first_list (spell (envPieces.take 7) (j.text ++ spell (envPieces.drop 7) (spell callPieces v)))
  rw [← source] at first
  rw [Reads, body] at reads
  have read := statements_read h reads source rfl
  exact ⟨literal, h.literal, ofSource_of_statements first nofun rfl read rfl⟩

end ScriptHost.Session.Action
