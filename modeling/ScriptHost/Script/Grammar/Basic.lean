/-
Reading tokens. A reader stands at a token, sees it and moves on; it collects what the source declares
on the way. A complaint ends the reading with its text. The productions that refer to each other in a
circle are fields of one record, so that each of them is a plain function of that record.

The grammar is a part of that of the language: the statements, operators and literals of its fifth edition, and
beside them `let`, `const`, `**`, and methods, getters, setters and names alone in objects. Regular expressions,
templates, arrow functions, classes, generators, asynchronous functions, patterns, spread items, defaults of
parameters, `of` loops and modules are not read; a source with any of them has a token that is not expected.
-/
import ScriptHost.Script.Token
import ScriptHost.Script.Tree

namespace ScriptHost.Script

/-- Where a reader is, and what was declared since the innermost function or block began; the last
declared comes first. -/
structure Reading where
  tokens : List Token
  /-- An upper bound for the turns of any loop of the reader. -/
  budget : Nat
  vars : List Utf16 := []
  /-- Names of functions declared inside blocks. -/
  inner : List Utf16 := []
  lexicals : List Lexical := []
  functions : List Code := []
  usesArguments : Bool := false

/-- A reader: it ends with a result or a complaint. -/
abbrev Parse := StateT Reading (Except Text)

/-- What surrounds a piece of source. -/
structure Context where
  strict : Bool := false
  inFunction : Bool := false
  /-- Whether statements are those of a function or program itself, not of a block inside. -/
  top : Bool := true
  /-- Whether the operator `in` may appear. -/
  allowIn : Bool := true
  inLoop : Bool := false
  inSwitch : Bool := false
  /-- The labels around, and whether each names a loop. -/
  labels : List (Utf16 × Bool) := []

/-- What becomes of a power mark behind an operand. -/
inductive Power where
  /-- It is read with its exponent. -/
  | taken
  /-- It is refused: the base would have an operator before it. -/
  | refused
  /-- It is left to whoever asked for the operand. -/
  | left

/-- The productions that refer to each other in a circle. -/
structure Grammar where
  assignment : Context → Parse Expr
  /-- An operand with the operators on one value around it. -/
  unary : Context → Power → Parse Expr
  /-- A statement; `single` if no declaration may stand there. -/
  statement : Context → Bool → Parse Stmt

/-- Whether a token is a mark or a word. -/
def Token.is (t : Token) (s : String) : Bool :=
  match t.lexeme with
  | .mark m => m == s
  | .word w => w == s
  | _ => false

namespace Parse

/-- The token at hand. -/
def peek : Parse Token := fun r => .ok (r.tokens.headD default, r)

/-- The token behind the one at hand. -/
def peekSecond : Parse Token := fun r => .ok ((r.tokens.drop 1).headD default, r)

/-- Ends with a complaint. -/
def complain {α : Type} (t : Text) : Parse α := fun _ => .error t

/-- Moves on to the next token, whose complaint, if it is one, is raised. -/
def advance : Parse Unit := fun r =>
  let rest := r.tokens.drop 1
  match (rest.headD default).lexeme with
  | .bad t => .error t
  | _ => .ok ((), { r with tokens := rest })

/-- Whether the token at hand is `s`. -/
def sees (s : String) : Parse Bool := return (← peek).is s

/-- Moves past the token at hand if it is `s`. -/
def accept (s : String) : Parse Bool := do
  if (← sees s) then
    advance
    return true
  else return false

/-- Complains of the token at hand. -/
def unexpected {α : Type} : Parse α := do
  let t ← peek
  match t.lexeme with
  | .finish => complain "Unexpected end of input"
  | .number .. => complain "Unexpected number"
  | .string .. => complain "Unexpected string"
  | .name n _ => complain ("Unexpected identifier '" ++ Utf16.toText n ++ "'")
  | _ => complain ("Unexpected token '" ++ t.text ++ "'")

/-- Moves past `s`, which must be at hand. -/
def expect (s : String) : Parse Unit := do
  if (← sees s) then advance else unexpected

/-- The end of a statement: a semicolon, or nothing before a line end, a closing brace or the end. -/
def endStatement : Parse Unit := do
  let t ← peek
  if t.is ";" then advance
  else if t.is "\x7d" || t.afterLine || (t.lexeme matches .finish) then return ()
  else complain "expecting ';'"

/-- Takes steps until one yields a result; there are at most `n`. -/
def iterateUpTo {α β : Type} (step : α → Parse (Sum α β)) : Nat → α → Parse β
  | 0, _ => complain "stack overflow"
  | n + 1, a => do
    match (← step a) with
    | .inl a => iterateUpTo step n a
    | .inr b => return b

/-- Takes steps until one yields a result. -/
def iterate {α β : Type} (start : α) (step : α → Parse (Sum α β)) : Parse β := do
  let budget := (← get).budget
  iterateUpTo step budget start

/-! ## Names -/

/-- Words that are names except in strict code. -/
def strictWords : List Utf16 :=
  ["implements", "interface", "let", "package", "private", "protected", "public", "static",
    "yield"].map Utf16.ofString

/-- Whether a name may be used in its context. -/
def usable (ctx : Context) (n : Utf16) : Bool := !(ctx.strict && strictWords.contains n)

/-- The name at hand, if it is one. -/
def name? (ctx : Context) : Parse (Option Utf16) := do
  match (← peek).lexeme with
  | .name n _ => return if usable ctx n then some n else none
  | _ => return none

/-- The names that strict code may not bind. -/
def isRestricted (n : Utf16) : Bool := n = Utf16.ofString "eval" ∨ n = Utf16.ofString "arguments"

/-- Notes that the function at hand may look at its arguments. -/
def noteName (n : Utf16) : Parse Unit :=
  if isRestricted n then modify fun r => { r with usesArguments := true } else return ()

def declareVar (n : Utf16) : Parse Unit := modify fun r => { r with vars := n :: r.vars }

def declareLexical (l : Lexical) : Parse Unit := modify fun r => { r with lexicals := l :: r.lexicals }

/-- The names, each once, in the order in which they come first. -/
def distinct (ns : List Utf16) : List Utf16 :=
  (ns.foldl (fun acc n => if acc.contains n then acc else n :: acc) []).reverse

/-- Complains if a variable declared since `start` has one of these names, or if two of them are one. -/
def keepApart (start : Reading) (names : List Utf16) : Parse Unit := do
  let r ← get
  let since := r.vars.take (r.vars.length - start.vars.length)
  if names.any fun n => 1 < names.count n || since.contains n then
    complain "invalid redefinition of lexical identifier"

/-- The lexicals and functions declared in a block, which must not clash; at the top of a function or
program functions are variables. -/
def closeBlock (ctx : Context) (top : Bool) (start : Reading) (statements : List Stmt) : Parse Block := do
  let r ← get
  let names := r.lexicals.map (·.name)
  let functions := r.functions.map (·.name)
  keepApart start names
  if names.any functions.contains then complain "invalid redefinition of lexical identifier"
  if !top then keepApart start (if ctx.strict then functions else distinct functions)
  set { r with lexicals := start.lexicals, functions := start.functions }
  return .mk r.lexicals.reverse r.functions.reverse statements

/-- Begins a block. -/
def openBlock : Parse Reading := do
  let r ← get
  set { r with lexicals := [], functions := [] }
  return r

end Parse

end ScriptHost.Script
