/-
Reading statements and programs. A program reads as the list of its statements with all that it
declares, or as the first complaint.
-/
import ScriptHost.Script.Grammar.Expression

namespace ScriptHost.Script.Grammar

open Parse

/-! ## Declarations -/

/-- The bindings of a declaration: names with what they start as. -/
def bindings (g : Grammar) (ctx : Context) (fixed : Bool) : Parse (List (Utf16 × Option Expr)) :=
  iterate [] fun found => do
    match (← name? ctx) with
    | none => complain "variable name expected"
    | some n =>
      if ctx.strict && isRestricted n then complain "invalid variable name in strict mode"
      advance
      let start ← if (← accept "=") then do
          let e ← g.assignment ctx
          pure (some (named n e))
        else if fixed then complain "missing initializer for const variable"
        else pure none
      let found := (n, start) :: found
      if (← accept ",") then return .inl found else return .inr found.reverse

/-- Whether the token at hand begins a `let` declaration. -/
def seesLet (ctx : Context) : Parse Bool := do
  match (← peek).lexeme with
  | .name n false =>
    if n = Utf16.ofString "let" then
      let u ← peekSecond
      return ctx.strict || (u.lexeme matches .name ..) || u.is "[" || u.is "\x7b"
    else return false
  | _ => return false

/-- What kind of declaration is at hand: none, of variables, or lexical and perhaps fixed. -/
inductive Declares where
  | nothing
  | vars
  | lexical (fixed : Bool)

def declares (ctx : Context) : Parse Declares := do
  let t ← peek
  if t.is "var" then return .vars
  else if t.is "const" then return .lexical true
  else if (← seesLet ctx) then return .lexical false
  else return .nothing

/-- A function declaration at its word; inside a block the function is known from the block's start. -/
def functionDeclaration (g : Grammar) (ctx : Context) : Parse Stmt := do
  let start := (← peek).start
  advance
  match (← name? ctx) with
  | none => complain "function name expected"
  | some n =>
    advance
    let code ← functionFrom g ctx start n false
    modify fun r => { r with functions := code :: r.functions }
    if ctx.top || ctx.strict then return .empty
    else
      modify fun r => { r with inner := n :: r.inner }
      return .innerFunction n

/-! ## Blocks -/

/-- The context inside a block. -/
def Context.inner (ctx : Context) : Context := { ctx with top := false }

/-- A block with its braces. -/
def block (g : Grammar) (ctx : Context) : Parse Block := do
  expect "\x7b"
  let opened ← openBlock
  let ss ← statements g (Context.inner ctx)
  if !(← sees "\x7d") then complain "unexpected token in expression: ''"
  let b ← closeBlock ctx false opened ss
  advance
  return b

/-- A statement under a condition, where sloppy code may also declare a function. -/
def branch (g : Grammar) (ctx : Context) : Parse Stmt := do
  if (← sees "function") && !ctx.strict then
    let opened ← openBlock
    let s ← functionDeclaration g (Context.inner ctx)
    return .block (← closeBlock ctx false opened [s])
  else g.statement (Context.inner ctx) true

/-- An expression in parentheses. -/
def parenthesized (g : Grammar) (ctx : Context) : Parse Expr := do
  expect "("
  let e ← expression g ctx
  expect ")"
  return e

/-! ## Loops -/

/-- The body of a loop. -/
def loopBody (g : Grammar) (ctx : Context) : Parse Stmt :=
  g.statement { Context.inner ctx with inLoop := true } true

/-- Whether a semicolon stands directly inside the parentheses that begin here. -/
def hasSemicolon : Nat → List Token → Bool
  | _, [] => false
  | depth, t :: rest =>
    if t.is "(" || t.is "[" || t.is "\x7b" then hasSemicolon (depth + 1) rest
    else if t.is ")" || t.is "]" || t.is "\x7d" then
      if depth ≤ 1 then false else hasSemicolon (depth - 1) rest
    else if t.is ";" && depth = 1 then true
    else hasSemicolon depth rest

/-- The target of a loop over keys. -/
def forTarget (g : Grammar) (ctx : Context) : Parse ForTarget := do
  let binding : Parse Utf16 := do
    advance
    match (← name? ctx) with
    | none => complain "variable name expected"
    | some n =>
      advance
      return n
  match (← declares ctx) with
  | .vars =>
    let n ← binding
    declareVar n
    return .var n
  | .lexical fixed => return .lexical ⟨← binding, fixed⟩
  | .nothing =>
    let e ← leftHandSide g { ctx with allowIn := false }
    checkTarget ctx "invalid for in/of left hand-side" e
    return .expression e

/-- A loop over keys behind its opening parenthesis. -/
def forInLoop (g : Grammar) (ctx : Context) : Parse Stmt := do
  let target ← forTarget g ctx
  if !(← accept "in") then complain "expected 'of' or 'in' in for control expression"
  let object ← expression g ctx
  expect ")"
  let opened ← get
  let body ← loopBody g ctx
  match target with
  | .lexical l => keepApart opened [l.name]
  | _ => pure ()
  return .forIn target object body

/-- An expression that may be missing before a mark. -/
def optional (g : Grammar) (ctx : Context) (mark : String) : Parse (Option Expr) := do
  if (← sees mark) then return none else return some (← expression g ctx)

/-- A loop with start, test and update behind its opening parenthesis. -/
def countedLoop (g : Grammar) (ctx : Context) : Parse Stmt := do
  let inside := { ctx with allowIn := false }
  let (start, lexicals) ← match (← declares ctx) with
    | .vars => do
      advance
      let bs ← bindings g inside false
      bs.forM fun (n, _) => declareVar n
      pure (some (Stmt.vars bs), [])
    | .lexical fixed => do
      advance
      let bs ← bindings g inside fixed
      pure (some (Stmt.lexicals bs), bs.map fun (n, _) => Lexical.mk n fixed)
    | .nothing =>
      if (← sees ";") then pure (none, [])
      else do
        let e ← expression g inside
        pure (some (Stmt.discarded e), [])
  expect ";"
  let test ← optional g ctx ";"
  expect ";"
  let update ← optional g ctx ")"
  expect ")"
  let opened ← get
  let body ← loopBody g ctx
  keepApart opened (lexicals.map (·.name))
  return .forLoop start lexicals test update body

/-- A `for` loop at its word. -/
def forLoop (g : Grammar) (ctx : Context) : Parse Stmt := do
  advance
  let semicolon := hasSemicolon 0 (← get).tokens
  expect "("
  if semicolon then countedLoop g ctx else forInLoop g ctx

/-! ## Jumps -/

/-- The label behind `break` or `continue`, if there is one on the same line. -/
def label? (ctx : Context) : Parse (Option Utf16) := do
  if (← peek).afterLine then return none else name? ctx

def jump (ctx : Context) (isContinue : Bool) : Parse Stmt := do
  advance
  match (← label? ctx) with
  | some l =>
    if ctx.labels.any fun (n, isLoop) => n = l && (isLoop || !isContinue) then
      advance
      endStatement
      return if isContinue then .continue (some l) else .break (some l)
    else complain "break/continue label not found"
  | none =>
    if isContinue then
      if ctx.inLoop then
        endStatement
        return .continue none
      else complain "continue must be inside loop"
    else if ctx.inLoop || ctx.inSwitch then
      endStatement
      return .break none
    else complain "break must be inside loop or switch"

def returnStatement (g : Grammar) (ctx : Context) : Parse Stmt := do
  if !ctx.inFunction then complain "return not in a function"
  advance
  let t ← peek
  let e ← if t.is ";" || t.is "\x7d" || t.afterLine then pure none
    else do pure (some (← expression g ctx))
  endStatement
  return .return e

def throwStatement (g : Grammar) (ctx : Context) : Parse Stmt := do
  advance
  if (← peek).afterLine then complain "line terminator not allowed after throw"
  let e ← expression g ctx
  endStatement
  return .throw e

/-! ## Branches -/

/-- The cases of a `switch` behind its opening brace. -/
def cases (g : Grammar) (ctx : Context) : Parse (List (Option Expr × List Stmt)) :=
  iterate ([] : List (Option Expr × List Stmt)) fun found => do
    if (← sees "\x7d") then
      return .inr (found.reverse.map fun (e, ss) => (e, ss.reverse))
    else if (← accept "case") then
      let e ← expression g ctx
      expect ":"
      return .inl ((some e, []) :: found)
    else if (← accept "default") then
      expect ":"
      if found.any (·.1.isNone) then complain "duplicate default"
      return .inl ((none, []) :: found)
    else match found with
      | [] => complain "invalid switch statement"
      | (e, ss) :: before =>
        let s ← g.statement ctx false
        return .inl ((e, s :: ss) :: before)

def switchStatement (g : Grammar) (ctx : Context) : Parse Stmt := do
  advance
  let e ← parenthesized g ctx
  expect "\x7b"
  let opened ← openBlock
  let cs ← cases g { Context.inner ctx with inSwitch := true }
  let b ← closeBlock ctx false opened []
  expect "\x7d"
  return .switch e b.lexicals b.functions cs

/-- The handler of a `try` behind its word. -/
def handler (g : Grammar) (ctx : Context) : Parse (Option Utf16 × Block) := do
  let n ← if (← accept "(") then do
      match (← name? ctx) with
      | none => complain "identifier expected"
      | some n =>
        advance
        expect ")"
        pure (some n)
    else pure none
  let b ← block g ctx
  let inside := b.lexicals.map (·.name) ++ b.functions.map (·.name)
  if n.any inside.contains then complain "invalid redefinition of lexical identifier"
  return (n, b)

def tryStatement (g : Grammar) (ctx : Context) : Parse Stmt := do
  advance
  let body ← block g ctx
  let caught ← if (← accept "catch") then do pure (some (← handler g ctx)) else pure none
  let final ← if (← accept "finally") then do pure (some (← block g ctx)) else pure none
  if caught.isNone && final.isNone then complain "expecting catch or finally"
  return .try body caught final

def ifStatement (g : Grammar) (ctx : Context) : Parse Stmt := do
  advance
  let test ← parenthesized g ctx
  let yes ← branch g ctx
  let no ← if (← accept "else") then do pure (some (← branch g ctx)) else pure none
  return .ifElse test yes no

def doStatement (g : Grammar) (ctx : Context) : Parse Stmt := do
  advance
  let body ← loopBody g ctx
  expect "while"
  let test ← parenthesized g ctx
  discard (accept ";")
  return .doWhile body test

/-! ## Statements -/

def expressionStatement (g : Grammar) (ctx : Context) : Parse Stmt := do
  let e ← expression g ctx
  endStatement
  return .expression e

/-- The name of a label at hand, if one is. -/
def labelAhead? (ctx : Context) : Parse (Option Utf16) := do
  match (← name? ctx) with
  | none => return none
  | some n => return if (← peekSecond).is ":" then some n else none

def labelled (g : Grammar) (ctx : Context) (single : Bool) (l : Utf16) : Parse Stmt := do
  if ctx.labels.any (·.1 = l) then complain "duplicate label name"
  advance
  advance
  let t ← peek
  let isLoop := t.is "for" || t.is "while" || t.is "do"
  let inside := { ctx with labels := (l, isLoop) :: ctx.labels }
  return .labelled l (← g.statement inside single)

def lexicalDeclaration (g : Grammar) (ctx : Context) (fixed : Bool) : Parse Stmt := do
  advance
  let bs ← bindings g ctx fixed
  bs.forM fun (n, _) => declareLexical ⟨n, fixed⟩
  endStatement
  return .lexicals bs

def anyStatement (g : Grammar) (ctx : Context) (single : Bool) : Parse Stmt := do
  let t ← peek
  match (← labelAhead? ctx) with
  | some l => labelled g ctx single l
  | none =>
  match (← declares ctx) with
  | .vars =>
    advance
    let bs ← bindings g ctx false
    bs.forM fun (n, _) => declareVar n
    endStatement
    return .vars bs
  | .lexical fixed =>
    if single then complain "lexical declarations can't appear in single-statement context"
    else lexicalDeclaration g ctx fixed
  | .nothing =>
  match t.lexeme with
  | .mark "\x7b" => return .block (← block g ctx)
  | .mark ";" =>
    advance
    return .empty
  | .word "if" => ifStatement g ctx
  | .word "for" => forLoop g ctx
  | .word "while" =>
    advance
    let test ← parenthesized g ctx
    return .whileDo test (← loopBody g ctx)
  | .word "do" => doStatement g ctx
  | .word "return" => returnStatement g ctx
  | .word "throw" => throwStatement g ctx
  | .word "break" => jump ctx false
  | .word "continue" => jump ctx true
  | .word "switch" => switchStatement g ctx
  | .word "try" => tryStatement g ctx
  | .word "with" =>
    if ctx.strict then complain "invalid keyword: with"
    advance
    let e ← parenthesized g ctx
    return .with e (← g.statement (Context.inner ctx) true)
  | .word "debugger" =>
    advance
    endStatement
    return .empty
  | .word "function" =>
    if single then complain "function declarations can't appear in single-statement context"
    else functionDeclaration g ctx
  | _ => expressionStatement g ctx

/-! ## Programs -/

/-- One turn of the circle of productions. -/
def turn (g : Grammar) : Grammar where
  assignment := assignmentExpression g
  unary := unaryExpression g
  statement := anyStatement g

/-- The productions, up to a depth of nesting. -/
def ofDepth : Nat → Grammar
  | 0 => ⟨fun _ => complain "stack overflow", fun _ _ => complain "stack overflow",
      fun _ _ => complain "stack overflow"⟩
  | depth + 1 => turn (ofDepth depth)

/-- A program from its first token on. -/
def program (g : Grammar) (strict : Bool) : Parse Program := do
  let start ← get
  let strict := strict || asksStrict start.tokens
  let ss ← statements g { strict }
  let t ← peek
  match t.lexeme with
  | .finish =>
    let b ← closeBlock { strict } true start ss
    let r ← get
    let names := b.lexicals.map (·.name)
    return ⟨distinct (r.vars.reverse ++ r.inner.reverse.filter fun n => !names.contains n), strict, b⟩
  | _ => complain ("unexpected token in expression: '" ++ t.text ++ "'")

end ScriptHost.Script.Grammar

namespace ScriptHost.Script

/-- The program that a source spells, or the complaint about it. Every token takes the grammar at most
three levels deeper. -/
def Program.ofSource (strict : Bool) (source : Text) : Except Text Program :=
  let tokens := Token.ofSource source
  match tokens with
  | ⟨.bad t, _, _, _⟩ :: _ => .error t
  | _ =>
    let n := tokens.length
    (Grammar.program (Grammar.ofDepth (3 * n + 8)) strict
      { tokens, budget := n + 8 }).map (·.1)

end ScriptHost.Script
