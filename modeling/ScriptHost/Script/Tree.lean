/-
Program trees. A program, a function body and a block list what they declare beside their statements:
the names bound by `let` and `const`, the functions, and for programs and functions the names bound by
`var` anywhere inside.
-/
import ScriptHost.Script.Value

namespace ScriptHost.Script

/-- Operators on one value. -/
inductive UnaryOp where
  | not | complement | plus | minus | void
deriving DecidableEq

/-- Operators on two values that are both evaluated. -/
inductive BinaryOp where
  | add | sub | mul | div | rem | pow
  | shiftLeft | shiftRight | shiftRightUnsigned
  | bitAnd | bitOr | bitXor
  | less | greater | lessEq | greaterEq
  | eq | notEq | strictEq | notStrictEq
  | isInstance | isIn
deriving DecidableEq

/-- Operators whose second operand may stay unevaluated. -/
inductive LogicalOp where
  | and | or
deriving DecidableEq

/-- A name bound by `let` or `const`. -/
structure Lexical where
  name : Utf16
  fixed : Bool
deriving DecidableEq

mutual

inductive Expr where
  | constant (v : Primitive)
  | name (n : Utf16)
  | this
  /-- An array; missing items are holes. -/
  | array (items : List (Option Expr))
  | object (entries : List Entry)
  | function (code : Code)
  | member (object key : Expr)
  | call (callee : Expr) (arguments : List Expr)
  | construct (callee : Expr) (arguments : List Expr)
  | typeOf (e : Expr)
  | delete (e : Expr)
  | unary (op : UnaryOp) (e : Expr)
  /-- Adds `step` to a target; the value is that before or after. -/
  | update (step : Float) (before : Bool) (target : Expr)
  | binary (op : BinaryOp) (a b : Expr)
  | logical (op : LogicalOp) (a b : Expr)
  | conditional (test yes no : Expr)
  | assign (target value : Expr)
  | assignWith (op : BinaryOp) (target value : Expr)
  | sequence (a b : Expr)

/-- An entry of an object expression. -/
inductive Entry where
  | value (key : Key) (e : Expr)
  | getter (key : Key) (code : Code)
  | setter (key : Key) (code : Code)
  /-- Sets the object that properties are inherited from. -/
  | parent (e : Expr)

inductive Stmt where
  | expression (e : Expr)
  /-- An expression whose value is no result of the program. -/
  | discarded (e : Expr)
  | vars (bindings : List (Utf16 × Option Expr))
  | lexicals (bindings : List (Utf16 × Option Expr))
  /-- A function declared inside a block becomes known to the whole function when it is reached. -/
  | innerFunction (name : Utf16)
  | empty
  | block (b : Block)
  | ifElse (test : Expr) (yes : Stmt) (no : Option Stmt)
  | whileDo (test : Expr) (body : Stmt)
  | doWhile (body : Stmt) (test : Expr)
  | forLoop (start : Option Stmt) (lexicals : List Lexical) (test update : Option Expr) (body : Stmt)
  /-- A loop over the keys of an object; the target takes each key in turn. -/
  | forIn (target : ForTarget) (object : Expr) (body : Stmt)
  | switch (e : Expr) (lexicals : List Lexical) (functions : List Code)
      (cases : List (Option Expr × List Stmt))
  | labelled (label : Utf16) (s : Stmt)
  | break (label : Option Utf16)
  | continue (label : Option Utf16)
  | return (e : Option Expr)
  | throw (e : Expr)
  | try (body : Block) (handler : Option (Option Utf16 × Block)) (final : Option Block)
  | with (object : Expr) (body : Stmt)

/-- What takes the keys of a loop over an object. -/
inductive ForTarget where
  | expression (e : Expr)
  | var (name : Utf16)
  | lexical (l : Lexical)

/-- Statements with what they declare. -/
inductive Block where
  | mk (lexicals : List Lexical) (functions : List Code) (statements : List Stmt)

/-- A function; the text is what it is written as in its source. -/
inductive Code where
  | mk (name : Utf16) (parameters : List Utf16) (vars : List Utf16) (strict : Bool)
      (ownName : Bool) (usesArguments : Bool) (body : Block) (text : Utf16)

end

namespace Block

def lexicals : Block → List Lexical
  | mk ls _ _ => ls

def functions : Block → List Code
  | mk _ fs _ => fs

def statements : Block → List Stmt
  | mk _ _ ss => ss

end Block

namespace Code

def name : Code → Utf16
  | mk n _ _ _ _ _ _ _ => n

def parameters : Code → List Utf16
  | mk _ ps _ _ _ _ _ _ => ps

/-- The names bound by `var` anywhere inside. -/
def vars : Code → List Utf16
  | mk _ _ vs _ _ _ _ _ => vs

def strict : Code → Bool
  | mk _ _ _ s _ _ _ _ => s

/-- Whether the function knows itself by its name, as a named function expression does. -/
def ownName : Code → Bool
  | mk _ _ _ _ o _ _ _ => o

/-- Whether the body may look at the list of arguments. -/
def usesArguments : Code → Bool
  | mk _ _ _ _ _ u _ _ => u

def body : Code → Block
  | mk _ _ _ _ _ _ b _ => b

/-- What the function is written as. -/
def text : Code → Utf16
  | mk _ _ _ _ _ _ _ t => t

/-- The function under another name. -/
def named (name : Utf16) : Code → Code
  | mk _ ps vs s o u b t => mk name ps vs s o u b t

end Code

instance : Inhabited Block := ⟨.mk [] [] []⟩
instance : Inhabited Code := ⟨.mk [] [] [] false false false default []⟩

/-- A program. -/
structure Program where
  vars : List Utf16
  strict : Bool
  body : Block
deriving Inhabited

end ScriptHost.Script
