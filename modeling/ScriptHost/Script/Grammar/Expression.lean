/-
Reading expressions, by the strength of their operators: primary expressions, members and calls,
operators on one value, operators on two values level by level, conditions, assignments, sequences. They
are those that the grammar is said to have; an operand of any other form is a token that is not expected.
-/
import ScriptHost.Script.Grammar.Basic

namespace ScriptHost.Script.Grammar

open Parse

/-- An expression with commas. -/
def expression (g : Grammar) (ctx : Context) : Parse Expr := do
  let first ← g.assignment ctx
  iterate first fun e => do
    if (← accept ",") then return .inl (.sequence e (← g.assignment ctx))
    else return .inr e

/-! ## Functions -/

/-- An anonymous function is named for what it is bound to. -/
def named (n : Utf16) : Expr → Expr
  | .function code => if code.name.isEmpty then .function (code.named n) else .function code
  | e => e

/-- The parameters behind their opening parenthesis. -/
def parameters (ctx : Context) : Parse (List Utf16) :=
  iterate [] fun ps => do
    if (← accept ")") then return .inr ps.reverse
    match (← name? ctx) with
    | none => complain "missing formal parameter"
    | some n =>
      advance
      noteName n
      if !(← sees ")") then expect ","
      return .inl (n :: ps)

/-- Whether a token that follows a string on a new line goes on with the statement. -/
def continuesStatement (t : Token) : Bool :=
  match t.lexeme with
  | .mark m => m != "++" && m != "--"
  | .word w => w == "in" || w == "instanceof"
  | _ => false

/-- Whether the strings at the start ask for strict code. -/
def asksStrict : List Token → Bool
  | t :: u :: rest =>
    match t.lexeme with
    | .string s plain _ =>
      let asks := plain && s = Utf16.ofString "use strict"
      if u.is ";" then asks || asksStrict rest
      else if u.is "\x7d" || (u.lexeme matches .finish) then asks
      else if u.afterLine && !continuesStatement u then asks || asksStrict (u :: rest)
      else false
    | _ => false
  | _ => false

/-- Statements up to one of two ends, which is not passed. -/
def statements (g : Grammar) (ctx : Context) : Parse (List Stmt) :=
  iterate [] fun ss => do
    let t ← peek
    if t.is "\x7d" || (t.lexeme matches .finish) then return .inr ss.reverse
    else return .inl ((← g.statement ctx false) :: ss)

/-- A function from its opening parenthesis on; `start` is where its text begins. -/
def functionFrom (g : Grammar) (ctx : Context) (start : Text) (name : Utf16) (ownName : Bool) :
    Parse Code := do
  let outer ← get
  set { outer with vars := [], inner := [], lexicals := [], functions := [], usesArguments := false }
  expect "("
  let ps ← parameters ctx
  expect "\x7b"
  let strict := ctx.strict || asksStrict (← get).tokens
  if strict && (ps.any isRestricted || ps.any fun p => 1 < ps.count p) then
    complain "invalid argument name in strict code"
  if strict && isRestricted name then complain "invalid function name in strict code"
  let opened ← get
  let ss ← statements g { strict, inFunction := true }
  let close ← peek
  if !close.is "\x7d" then complain "unexpected token in expression: ''"
  let body ← closeBlock ctx true { opened with vars := [] } ss
  let r ← get
  let names := body.lexicals.map (·.name)
  if ps.any names.contains then complain "invalid redefinition of parameter name"
  let vars := distinct (r.vars.reverse ++ r.inner.reverse.filter fun n => !names.contains n)
  let code := Code.mk name ps vars strict ownName r.usesArguments body
    (Text.toUtf16 (Token.between start close.behind))
  set { r with
    vars := outer.vars, inner := outer.inner, lexicals := outer.lexicals
    functions := outer.functions, usesArguments := outer.usesArguments }
  advance
  return code

/-- A function expression at its word. -/
def functionExpression (g : Grammar) (ctx : Context) : Parse Expr := do
  let start := (← peek).start
  advance
  match (← name? ctx) with
  | some n =>
    advance
    return .function (← functionFrom g ctx start n true)
  | none => return .function (← functionFrom g ctx start [] false)

/-! ## Primary expressions -/

/-- The items of an array behind its opening bracket. -/
def arrayItems (g : Grammar) (ctx : Context) : Parse (List (Option Expr)) :=
  iterate [] fun items => do
    if (← accept "]") then return .inr items.reverse
    else if (← accept ",") then return .inl (none :: items)
    else
      let e ← g.assignment ctx
      if !(← sees "]") then expect ","
      return .inl (some e :: items)

/-- The name of a property: a name, a word, a string or a number. -/
def propertyName? : Parse (Option Utf16) := do
  let t ← peek
  match t.lexeme with
  | .name n _ => return some n
  | .word w => return some (Utf16.ofString w)
  | .string s _ _ => return some s
  | .number x _ => return some (Text.toUtf16 (Decimal.Layout.script.write x))
  | _ => return none

/-- Moves past the name of a property. -/
def propertyName : Parse Utf16 := do
  match (← propertyName?) with
  | some n =>
    advance
    return n
  | none => complain "invalid property name"

/-- Whether the token at hand is a plain name that something else than the end of an entry follows. -/
def announces (word : String) : Parse Bool := do
  match (← peek).lexeme with
  | .name n false =>
    if n = Utf16.ofString word then
      let u ← peekSecond
      return !(u.is "," || u.is ":" || u.is "(" || u.is "\x7d")
    else return false
  | _ => return false

/-- An entry of an object. -/
def objectEntry (g : Grammar) (ctx : Context) : Parse Entry := do
  let t ← peek
  if (← announces "get") then
    advance
    let n ← propertyName
    return .getter (.ofUnits n) (← functionFrom g ctx t.start n false)
  else if (← announces "set") then
    advance
    let n ← propertyName
    return .setter (.ofUnits n) (← functionFrom g ctx t.start n false)
  else
    let short := match t.lexeme with
      | .name n _ => usable ctx n
      | _ => false
    let n ← propertyName
    let u ← peek
    if short && (u.is "," || u.is "\x7d") then
      noteName n
      return .value (.ofUnits n) (.name n)
    else if u.is "(" then
      return .value (.ofUnits n) (.function (← functionFrom g ctx t.start n false))
    else
      expect ":"
      let e ← g.assignment ctx
      if n = Utf16.ofString "__proto__" then return .parent e
      else return .value (.ofUnits n) (named n e)

/-- The entries of an object behind its opening brace. -/
def objectEntries (g : Grammar) (ctx : Context) : Parse (List Entry) :=
  iterate [] fun entries => do
    if (← accept "\x7d") then return .inr entries.reverse
    let e ← objectEntry g ctx
    if !(← sees "\x7d") then
      if (← sees ",") then advance else expect "\x7d"
    return .inl (e :: entries)

def primary (g : Grammar) (ctx : Context) : Parse Expr := do
  let t ← peek
  let inside := { ctx with allowIn := true }
  let plain (e : Expr) : Parse Expr := do
    advance
    return e
  let complaint : Parse Expr := complain ("unexpected token in expression: '" ++ t.text ++ "'")
  match t.lexeme with
  | .number x legacy =>
    if legacy && ctx.strict then complain "octal literals are deprecated in strict mode"
    else plain (.constant (.number x))
  | .string s _ legacy =>
    if legacy && ctx.strict then complain "octal escape sequences are not allowed in strict mode"
    else plain (.constant (.string s))
  | .name n _ =>
    if usable ctx n then
      noteName n
      plain (.name n)
    else complaint
  | .word "this" => plain .this
  | .word "null" => plain (.constant .null)
  | .word "true" => plain (.constant (.bool true))
  | .word "false" => plain (.constant (.bool false))
  | .word "function" => functionExpression g inside
  | .mark "(" =>
    advance
    let e ← expression g inside
    expect ")"
    return e
  | .mark "[" =>
    advance
    return .array (← arrayItems g inside)
  | .mark "\x7b" =>
    advance
    return .object (← objectEntries g inside)
  | _ => complaint

/-! ## Members and calls -/

/-- The arguments of a call behind its opening parenthesis. -/
def arguments (g : Grammar) (ctx : Context) : Parse (List Expr) :=
  iterate [] fun args => do
    if (← accept ")") then return .inr args.reverse
    let e ← g.assignment { ctx with allowIn := true }
    if !(← sees ")") then expect ","
    return .inl (e :: args)

/-- Members and, if `calls`, calls behind an expression. -/
def suffixes (g : Grammar) (ctx : Context) (calls : Bool) (start : Expr) : Parse Expr :=
  iterate start fun e => do
    let called ← if calls then accept "(" else pure false
    if called then return .inl (.call e (← arguments g ctx))
    else if (← accept ".") then
      let t ← peek
      match t.lexeme with
      | .name n _ =>
        advance
        return .inl (.member e (.constant (.string n)))
      | .word w =>
        advance
        return .inl (.member e (.constant (.string (Utf16.ofString w))))
      | _ => complain "expecting field name"
    else if (← accept "[") then
      let k ← expression g { ctx with allowIn := true }
      expect "]"
      return .inl (.member e k)
    else return .inr e

/-- A member expression, `new` included; `depth` bounds how many `new` follow each other. -/
def memberExpression (g : Grammar) (ctx : Context) : Nat → Parse Expr
  | 0 => complain "stack overflow"
  | depth + 1 => do
    if (← accept "new") then
      let callee ← memberExpression g ctx depth
      let callee ← suffixes g ctx false callee
      let args ← if (← accept "(") then arguments g ctx else pure []
      return .construct callee args
    else primary g ctx

/-- Members and calls on a primary expression. -/
def leftHandSide (g : Grammar) (ctx : Context) : Parse Expr := do
  let e ← memberExpression g ctx (← get).budget
  suffixes g ctx true e

/-! ## Operators on one value -/

/-- Complains of what cannot be assigned to. -/
def checkTarget (ctx : Context) (complaint : Text) (e : Expr) : Parse Unit :=
  match e with
  | .name n => if ctx.strict && isRestricted n then complain "invalid lvalue in strict mode" else return ()
  | .member _ _ => return ()
  | _ => complain complaint

def updateComplaint : Text := "invalid increment/decrement operand"

/-- The step of an increment or decrement mark. -/
def step? (t : Token) : Option Float :=
  if t.is "++" then some 1 else if t.is "--" then some (-1) else none

/-- A left-hand side with an increment or decrement behind it. -/
def postfixExpression (g : Grammar) (ctx : Context) : Parse Expr := do
  let e ← leftHandSide g ctx
  let t ← peek
  match step? t with
  | some s =>
    if t.afterLine then return e
    else
      checkTarget ctx updateComplaint e
      advance
      return .update s false e
  | none => return e

/-- The operator that a token is, on one value. -/
def unaryOp? (t : Token) : Option (Expr → Expr) :=
  if t.is "!" then some (.unary .not)
  else if t.is "-" then some (.unary .minus)
  else if t.is "+" then some (.unary .plus)
  else if t.is "~" then some (.unary .complement)
  else if t.is "void" then some (.unary .void)
  else if t.is "typeof" then some .typeOf
  else none

/-- What follows an operand: a power, which binds more strongly to its right. -/
def powerExpression (g : Grammar) (ctx : Context) (power : Power) (e : Expr) : Parse Expr := do
  if (← sees "**") then
    match power with
    | .taken =>
      advance
      return .binary .pow e (← g.unary ctx .taken)
    | .refused =>
      complain "unparenthesized unary expression can't appear on the left-hand side of '**'"
    | .left => return e
  else return e

/-- Operators on one value, and powers. -/
def unaryExpression (g : Grammar) (ctx : Context) (power : Power) : Parse Expr := do
  let t ← peek
  match unaryOp? t with
  | some op =>
    advance
    return op (← g.unary ctx .refused)
  | none =>
    match step? t with
    | some s =>
      advance
      let e ← g.unary ctx .left
      checkTarget ctx updateComplaint e
      powerExpression g ctx power (.update s true e)
    | none =>
      if t.is "delete" then
        advance
        let e ← g.unary ctx .refused
        if ctx.strict && (e matches .name _) then
          complain "cannot delete a direct reference in strict mode"
        return .delete e
      else powerExpression g ctx power (← postfixExpression g ctx)

/-! ## Operators on two values -/

/-- The operators of each level, those that bind most strongly first. -/
def binaryLevels : List (List (String × BinaryOp)) := [
  [("*", .mul), ("/", .div), ("%", .rem)],
  [("+", .add), ("-", .sub)],
  [("<<", .shiftLeft), (">>", .shiftRight), (">>>", .shiftRightUnsigned)],
  [("<", .less), (">", .greater), ("<=", .lessEq), (">=", .greaterEq), ("instanceof", .isInstance),
    ("in", .isIn)],
  [("==", .eq), ("!=", .notEq), ("===", .strictEq), ("!==", .notStrictEq)],
  [("&", .bitAnd)], [("^", .bitXor)], [("|", .bitOr)]]

/-- The operator among these that a token is. -/
def operator? (ctx : Context) (ops : List (String × BinaryOp)) (t : Token) : Option BinaryOp :=
  match ops.find? fun (s, _) => t.is s with
  | some (_, .isIn) => if ctx.allowIn then some .isIn else none
  | some (_, op) => some op
  | none => none

/-- Operators on two values; `levels` are those that may appear, the weakest first. -/
def binaryExpression (g : Grammar) (ctx : Context) : List (List (String × BinaryOp)) → Parse Expr
  | [] => unaryExpression g ctx .taken
  | ops :: stronger => do
    let first ← binaryExpression g ctx stronger
    iterate first fun e => do
      match operator? ctx ops (← peek) with
      | some op =>
        advance
        return .inl (.binary op e (← binaryExpression g ctx stronger))
      | none => return .inr e

/-- The levels, the weakest first. -/
def weakestFirst : List (List (String × BinaryOp)) := binaryLevels.reverse

def conjunction (g : Grammar) (ctx : Context) : Parse Expr := do
  let first ← binaryExpression g ctx weakestFirst
  iterate first fun e => do
    if (← accept "&&") then return .inl (.logical .and e (← binaryExpression g ctx weakestFirst))
    else return .inr e

def disjunction (g : Grammar) (ctx : Context) : Parse Expr := do
  let first ← conjunction g ctx
  iterate first fun e => do
    if (← accept "||") then return .inl (.logical .or e (← conjunction g ctx))
    else return .inr e

/-! ## Conditions and assignments -/

def conditional (g : Grammar) (ctx : Context) : Parse Expr := do
  let test ← disjunction g ctx
  if (← accept "?") then
    let yes ← g.assignment { ctx with allowIn := true }
    expect ":"
    return .conditional test yes (← g.assignment ctx)
  else return test

/-- The marks that assign the outcome of an operator. -/
def assigningMarks : List (String × BinaryOp) :=
  [("+=", .add), ("-=", .sub), ("*=", .mul), ("/=", .div), ("%=", .rem), ("**=", .pow),
    ("<<=", .shiftLeft), (">>=", .shiftRight), (">>>=", .shiftRightUnsigned), ("&=", .bitAnd),
    ("^=", .bitXor), ("|=", .bitOr)]

def assignmentComplaint : Text := "invalid assignment left-hand side"

def assignmentExpression (g : Grammar) (ctx : Context) : Parse Expr := do
  let target ← conditional g ctx
  let t ← peek
  if t.is "=" then
    advance
    checkTarget ctx assignmentComplaint target
    let e ← g.assignment ctx
    match target with
    | .name n => return .assign target (named n e)
    | _ => return .assign target e
  else match operator? { ctx with allowIn := true } assigningMarks t with
    | some op =>
      advance
      checkTarget ctx assignmentComplaint target
      return .assignWith op target (← g.assignment ctx)
    | none => return target

end ScriptHost.Script.Grammar
