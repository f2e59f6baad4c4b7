/-
Actions: bodies that emit trees, one after the other, and return the bindings that they were given. Each tree is written
as a text that the body parses, so that any tree can be emitted.
-/
import ScriptHost.Proofs.Session.Action.Source

namespace ScriptHost.Session.Action

open Script
open Script.Grammar Script.Parse
open Script.Token (First)

/-! ## The body -/

/-- A body that emits trees and returns its bindings. -/
def emittingSource : List Json → Utf16
  | [] => Utf16.ofString "return _.bindings;"
  | j :: js => Utf16.ofString "_.out(JSON.parse(" ++
      ((Json.string (j.write [] [])).write [] [] ++ (Utf16.ofString "));\n" ++ emittingSource js))

/-- The expression that emits the tree that a text spells. -/
def emitExpr (s : Utf16) : Expr :=
  .call (.member (.name givenName) (Action.text "out")) [libraryCall "JSON" "parse" [.constant (.string s)]]

/-- The expression for the bindings. -/
def boundExpr : Expr := .member (.name givenName) (Action.text "bindings")

/-- The statements of the body. -/
def emittingStatements : List Json → List Stmt
  | [] => [.return (some boundExpr)]
  | j :: js => .expression (emitExpr (j.write [] [])) :: emittingStatements js

/-- The function of the body. -/
def emittingCode (js : List Json) : Code := .mk [] [givenName] [] false false false (.mk [] [] (emittingStatements js))
  (Text.toUtf16 (Token.between ("function" ++ bodyText (emittingSource js)) closing))

/-! ## Its pieces -/

/-- What stands before the text of a tree, -/
def emitPieces : List String := ["\n_", ".", "out", "(", "JSON", ".", "parse", "("]

/-- and behind it. -/
def emittedPieces : List String := [")", ")", ";"]

/-- The last statement. -/
def boundPieces : List String := ["\nreturn", " _", ".", "bindings", ";"]

/-- The text of a string in quotes. -/
def quotedText (s : Utf16) (u : Text) : Text := CodePoint.ofChar '"' :: (Json.inner s ++ CodePoint.ofChar '"' :: u)

/-- The statements as they are written. -/
def emittingText : List Json → Text
  | [] => spell boundPieces (spell ["\n\x7d"] closing)
  | j :: js => spell emitPieces (quotedText (j.write [] []) (spell emittedPieces (emittingText js)))

theorem bodyText_emittingSource (js : List Json) : bodyText (emittingSource js) = spell ["(", "_", ")", " \x7b"]
    (emittingText js) := by
  have statements : ∀ js, Text.ofString "\n" ++ Utf16.toText
    (emittingSource js ++ Utf16.ofString ("\n\x7d" ++ closing)) =
      emittingText js := by
    intro js
    induction js with
    | nil => decide +kernel
    | cons j js ih =>
      have quoted : Json.text (.string (j.write [] [])) ++ (Text.ofString "));\n" ++ Utf16.toText (emittingSource js ++
          Utf16.ofString ("\n\x7d" ++ closing))) = quotedText (j.write [] [])
            (spell emittedPieces (emittingText js)) := by
        rw [← ih, Json.text_string, quotedText]
        simp [spell, emittedPieces, Text.ofString]
      rw [emittingSource, List.append_assoc, List.append_assoc, List.append_assoc,
        Json.toText_ofString (by decide +kernel), Json.toText_write, Json.toText_ofString (by decide +kernel), quoted]
      rfl
  rw [← statements]
  rfl

/-! ## Reading it -/

section Reading

variable {c : Context} {r : Reading} {d : Nat} (turns : 2 < r.budget) (sloppy : c.strict = false)
include turns sloppy

/-- A tree is emitted. -/
theorem reads_emit (s : Utf16) {u : Text} (fine : Fine (Token.ofSource u)) :
    ReadsStatement (ofDepth (d + 4)) c r (spell emitPieces (quotedText s (spell emittedPieces u)))
      (.expression (emitExpr s)) r u ∧
      (Token.ofSource u).length < (Token.ofSource
      (spell emitPieces (quotedText s (spell emittedPieces u)))).length := by
  let t (n : Nat) : Text := spell (emitPieces.drop n) (quotedText s (spell emittedPieces u))
  let t' (n : Nat) : Text := spell (emittedPieces.drop n) u
  obtain ⟨plain, quoted⟩ := first_quoted s (t' 0)
  have given : First (t 0) ⟨.name givenName false, true, "_" ++ t 1, t 1⟩ := ⟨rfl, rfl, trivial⟩
  have point : First (t 1) ⟨.mark ".", false, t 1, t 2⟩ := ⟨rfl, rfl, trivial⟩
  have out : First (t 2) ⟨.name "out" false, false, t 2, t 3⟩ := ⟨rfl, rfl, trivial⟩
  have opening : First (t 3) ⟨.mark "(", false, t 3, t 4⟩ := ⟨rfl, rfl, trivial⟩
  have library : First (t 4) ⟨.name "JSON" false, false, t 4, t 5⟩ := ⟨rfl, rfl, trivial⟩
  have point' : First (t 5) ⟨.mark ".", false, t 5, t 6⟩ := ⟨rfl, rfl, trivial⟩
  have reads : First (t 6) ⟨.name "parse" false, false, t 6, t 7⟩ := ⟨rfl, rfl, trivial⟩
  have opening' : First (t 7) ⟨.mark "(", false, t 7, t 8⟩ := ⟨rfl, rfl, trivial⟩
  have string : First (t 8) ⟨.string s plain false, false, t 8, t' 0⟩ := quoted
  have close : First (t' 0) ⟨.mark ")", false, t' 0, t' 1⟩ := ⟨rfl, rfl, trivial⟩
  have close' : First (t' 1) ⟨.mark ")", false, t' 1, t' 2⟩ := ⟨rfl, rfl, trivial⟩
  have semicolon : First (t' 2) ⟨.mark ";", false, t' 2, u⟩ := ⟨rfl, rfl, trivial⟩
  have some : 0 < r.budget := by omega
  have text : arguments (ofDepth (d + 1)) { c with allowIn := true }
    (r.on (t 8)) = .ok ([.constant (.string s)], r.on (t' 1)) :=
    arguments_one (Nat.lt_of_succ_lt turns) string rfl
      (assignment_of_constant string some (.string s plain) (closed_of_mark close rfl (by decide))) close rfl
      close'.fine
  have parsed : leftHandSide (ofDepth (d + 1)) { c with allowIn := true } (r.on (t 4)) =
      .ok (libraryCall "JSON" "parse" [.constant (.string s)], r.on (t' 1)) :=
    leftHandSide_callMember (c := { c with allowIn := true }) turns library (begins_of_name rfl)
      (primary_name library rfl sloppy (by decide) point'.fine) point' rfl reads rfl opening' rfl string.fine text
      (closed_of_mark close' rfl (by decide))
  have tree : assignmentExpression (ofDepth (d + 1)) { c with allowIn := true } (r.on (t 4)) = _ :=
    assignment_closed some library (begins_of_name rfl) (closed_of_mark close' rfl (by decide)) parsed
  have argument : arguments (ofDepth (d + 2)) c (r.on (t 4)) =
      .ok ([libraryCall "JSON" "parse" [.constant (.string s)]], r.on (t' 2)) :=
    arguments_one (Nat.lt_of_succ_lt turns) library rfl tree close' rfl semicolon.fine
  have ends : Closed (t' 2) := closed_of_mark semicolon rfl (by decide)
  have emitted : leftHandSide (ofDepth (d + 2)) c (r.on (t 0)) = .ok (emitExpr s, r.on (t' 2)) :=
    leftHandSide_callMember turns given (begins_of_name rfl)
      (primary_name given rfl sloppy (by decide) point.fine) point rfl out rfl
      opening rfl library.fine argument ends
  have whole : assignmentExpression (ofDepth (d + 2)) c (r.on (t 0)) = .ok (emitExpr s, r.on (t' 2)) :=
    assignment_closed some given (begins_of_name rfl) ends emitted
  refine ⟨⟨⟨_, given, rfl⟩,
    statement_expression (g := ofDepth (d + 3)) some sloppy given semicolon rfl fine rfl (by decide) point rfl whole⟩,
      ?_⟩
  have length : (Token.ofSource (t 0)).length = (Token.ofSource u).length + 12 := by
    rw [given.length, point.length, out.length, opening.length, library.length, point'.length, reads.length,
      opening'.length, string.length, close.length, close'.length, semicolon.length]
  exact Nat.lt_of_lt_of_eq (by omega) length.symm

/-- The bindings are returned. -/
theorem reads_bound (inside : c.inFunction = true) {u : Text} (fine : Fine (Token.ofSource u)) :
    ReadsStatement (ofDepth (d + 2)) c r (spell boundPieces u) (.return (some boundExpr)) r u := by
  let t (n : Nat) : Text := spell (boundPieces.drop n) u
  have word : First (t 0) ⟨.word "return", true, "return" ++ t 1, t 1⟩ := ⟨rfl, rfl, trivial⟩
  have given : First (t 1) ⟨.name givenName false, false, "_" ++ t 2, t 2⟩ := ⟨rfl, rfl, trivial⟩
  have point : First (t 2) ⟨.mark ".", false, t 2, t 3⟩ := ⟨rfl, rfl, trivial⟩
  have bindings : First (t 3) ⟨.name "bindings" false, false, t 3, t 4⟩ := ⟨rfl, rfl, trivial⟩
  have semicolon : First (t 4) ⟨.mark ";", false, t 4, u⟩ := ⟨rfl, rfl, trivial⟩
  have some : 0 < r.budget := by omega
  have ends : Closed (t 4) := closed_of_mark semicolon rfl (by decide)
  have member : leftHandSide (ofDepth d) c (r.on (t 1)) = .ok (boundExpr, r.on (t 4)) :=
    leftHandSide_member turns given (begins_of_name rfl)
      (primary_name given rfl sloppy (by decide) point.fine) point rfl bindings rfl ends
  exact ⟨⟨_, word, rfl⟩, statement_return
    (g := ofDepth (d + 1)) some word semicolon rfl fine rfl inside given ⟨rfl, rfl, rfl⟩
    (assignment_closed some given (begins_of_name rfl) ends member)⟩

end Reading

/-- The first token of the statements is no string. -/
theorem first_emitting (js : List Json) : ∃ tok, First (emittingText js) tok ∧
    ∀ units whole legacy, tok.lexeme ≠ .string units whole legacy := by
  cases js with
  | nil => exact ⟨⟨.word "return", true, "return" ++ spell (boundPieces.drop 1) _, spell (boundPieces.drop 1) _⟩,
      ⟨rfl, rfl, trivial⟩, nofun⟩
  | cons j js => exact ⟨⟨.name givenName false, true, "_" ++ spell (emitPieces.drop 1) _,
      spell (emitPieces.drop 1) _⟩, ⟨rfl, rfl, trivial⟩, nofun⟩

theorem fine_emitting (js : List Json) : Fine (Token.ofSource (emittingText js)) := by
  obtain ⟨tok, first, -⟩ := first_emitting js
  exact first.fine

/-- The brace behind the statements. -/
theorem first_ending : First (spell ["\n\x7d"] closing) ⟨.mark "\x7d", true, "\x7d" ++ (closing : Text), closing⟩ :=
  ⟨rfl, rfl, trivial⟩

/-- The statements are read one by one. -/
theorem iterate_emitting {c : Context} {r : Reading} {d : Nat} (turns : 2 < r.budget) (sloppy : c.strict = false)
    (inside : c.inFunction = true) : ∀ (js : List Json) {n : Nat} {before : List Stmt},
    (Token.ofSource (emittingText js)).length < n →
      iterateUpTo (statementTurn (ofDepth (d + 4)) c) n before (r.on (emittingText js)) =
        .ok (before.reverse ++ emittingStatements js, r.on (spell ["\n\x7d"] closing))
  | [], n, before, enough => by
    have bound := reads_bound (d := d + 2) turns sloppy inside first_ending.fine
    have some : 0 < (Token.ofSource (emittingText [])).length := by
      obtain ⟨tok, first, -⟩ := first_emitting []
      rw [first.ofSource]
      exact Nat.succ_pos _
    obtain ⟨k, rfl⟩ : ∃ k, n = k + 2 := ⟨n - 2, by omega⟩
    refine (bound.next (k + 1) before).trans ?_
    rw [first_ending.on, iterateUpTo_done (statementTurn_end (.inl rfl)), List.reverse_cons]
    rfl
  | j :: js, n, before, enough => by
    obtain ⟨emit, shorter⟩ := reads_emit (d := d) turns sloppy (j.write [] []) (fine_emitting js)
    change (Token.ofSource (emittingText js)).length < (Token.ofSource (emittingText (j :: js))).length at shorter
    obtain ⟨k, rfl⟩ : ∃ k, n = k + 1 := ⟨n - 1, by omega⟩
    refine (emit.next k before).trans ?_
    rw [iterate_emitting turns sloppy inside js (by omega), List.reverse_cons, List.append_assoc]
    rfl

/-- The body is read as a function. -/
theorem reads_emittingSource (js : List Json) : Reads (emittingSource js) (emittingCode js) := by
  let t (n : Nat) : Text := spell (["(", "_", ")", " \x7b"].drop n) (emittingText js)
  have opening : First (t 0) ⟨.mark "(", false, t 0, t 1⟩ := ⟨rfl, rfl, trivial⟩
  have given : First (t 1) ⟨.name givenName false, false, t 1, t 2⟩ := ⟨rfl, rfl, trivial⟩
  have close : First (t 2) ⟨.mark ")", false, t 2, t 3⟩ := ⟨rfl, rfl, trivial⟩
  have brace : First (t 3) ⟨.mark "\x7b", false, "\x7b" ++ emittingText js, emittingText js⟩ := ⟨rfl, rfl, trivial⟩
  obtain ⟨tok, first, plain⟩ := first_emitting js
  let k := (Token.ofSource (bodyText (emittingSource js))).length
  let r : Reading := { tokens := [], budget := k + 8 }
  have count : k = (Token.ofSource (emittingText js)).length + 4 := by
    show (Token.ofSource (bodyText (emittingSource js))).length = _
    rw [bodyText_emittingSource]
    exact opening.length.trans (by rw [given.length, close.length, brace.length])
  have statements : Grammar.statements (ofDepth (3 * k + 8)) { inFunction := true } (r.entering.on (emittingText js)) =
      .ok (emittingStatements js, r.entering.on (spell ["\n\x7d"] closing)) := by
    rw [statements_eq, iterate_apply]
    exact iterate_emitting (d := 3 * k + 4) (r := r.entering) (by show 2 < k + 8; omega) rfl rfl js
      (by show _ < k + 8; omega)
  have fine : Fine (Token.ofSource closing) := fun _ bad => by cases bad
  have read : functionFrom (ofDepth (3 * k + 8)) {} ("function" ++ bodyText (emittingSource js))
    [] false (r.on (t 0)) = _ :=
    functionFrom_plain (by show 1 < k + 8; omega) opening rfl given
    rfl (by decide) close rfl brace rfl first.fine rfl
        (asksStrict_of_first first plain) statements first_ending rfl fine
  refine ⟨r.on closing, ?_, rfl⟩
  rw [show t 0 = bodyText (emittingSource js) from (bodyText_emittingSource js).symm] at read
  exact read

end ScriptHost.Session.Action
