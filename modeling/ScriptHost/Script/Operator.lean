/-
Operators on two values. Most convert both operands to one kind and then work on primitive values.
-/
import ScriptHost.Script.Convert

namespace ScriptHost.Script

/-- How two primitive values compare; nothing where one of them is no number. -/
def Value.less? (a b : Value) : Option Bool :=
  match a, b with
  | .string s, .string t => some (Utf16.lt s t)
  | _, _ =>
    let x := a.primitiveNumber
    let y := b.primitiveNumber
    if x.isNaN || y.isNaN then none else some (x < y)

/-- The outcome of an operator on two numbers. -/
def BinaryOp.onNumbers (op : BinaryOp) (x y : Float) : Float :=
  match op with
  | .sub => x - y
  | .mul => x * y
  | .div => x / y
  | .rem => Number.remainder x y
  | .pow => Number.power x y
  | .shiftLeft => Number.ofSigned32 (Number.toBits32 x <<< (Number.toBits32 y % 32))
  | .shiftRight =>
    let n := Number.toBits32 x
    let k := Number.toBits32 y % 32
    let fill := if n < 0x80000000 then 0 else 0x100000000 - Nat.pow 2 (32 - k)
    Number.ofSigned32 (n >>> k + fill)
  | .shiftRightUnsigned => Number.ofUnsigned32 (Number.toBits32 x >>> (Number.toBits32 y % 32))
  | .bitAnd => Number.ofSigned32 (Number.toBits32 x &&& Number.toBits32 y)
  | .bitOr => Number.ofSigned32 (Number.toBits32 x ||| Number.toBits32 y)
  | .bitXor => Number.ofSigned32 (Number.toBits32 x ^^^ Number.toBits32 y)
  | _ => x + y

namespace Engine

variable (e : Engine)

/-- Sums of numbers, or strings put together where one operand is a string. -/
def addValues (a b : Value) : Run Value :=
  match a, b with
  | .number x, .number y => return .number (x + y)
  | .string s, .string t => return .string (s ++ t)
  | _, _ => do
    let p ← e.toPrimitive .any a
    let q ← e.toPrimitive .any b
    match p, q with
    | .string s, _ => return .string (s ++ q.primitiveUnits)
    | _, .string t => return .string (p.primitiveUnits ++ t)
    | _, _ => return .number (p.primitiveNumber + q.primitiveNumber)

/-- Equality with conversion. Objects are compared by their primitive values with all but objects. -/
def looseEq (a b : Value) : Run Bool := do
  match a, b with
  | .undefined, .null | .null, .undefined => return true
  | .undefined, _ | .null, _ | _, .undefined | _, .null => return Value.strictEq a b
  | .object r, .object q => return r == q
  | .object _, _ => return primitiveEq (← e.toPrimitive .any a) b
  | _, .object _ => return primitiveEq a (← e.toPrimitive .any b)
  | _, _ => return primitiveEq a b
where
  /-- Strings are compared as they are, all other primitive values as numbers. -/
  primitiveEq (a b : Value) : Bool :=
    match a, b with
    | .string s, .string t => s == t
    | .undefined, _ | .null, _ | _, .undefined | _, .null =>
      a.isNullish && b.isNullish
    | _, _ => a.primitiveNumber == b.primitiveNumber

/-- The comparison of two values by `test`, the left one converted first. -/
def compare (a b : Value) (test : Value → Value → Bool) : Run Value := do
  let p ← e.toPrimitive .number a
  let q ← e.toPrimitive .number b
  return .bool (test p q)

/-- Whether an object inherits from what a function gives to the objects it makes. -/
def isInstance (v f : Value) : Run Bool := do
  if !(← isCallable f) then Run.typeError "invalid 'instanceof' right operand"
  match v with
  | .object r =>
    match (← e.get f "prototype") with
    | .object p => Run.look fun m => isAncestor m p (m.heap.size + 1) r
    | _ => Run.typeError "operand 'prototype' property is not an object"
  | _ => return false

/-- The outcome of an operator on two values. -/
def binary (op : BinaryOp) (a b : Value) : Run Value :=
  match op with
  | .add => e.addValues a b
  | .less => e.compare a b fun p q => (p.less? q).getD false
  | .greater => e.compare a b fun p q => (q.less? p).getD false
  | .lessEq => e.compare a b fun p q => (q.less? p).any (!·)
  | .greaterEq => e.compare a b fun p q => (p.less? q).any (!·)
  | .eq => return .bool (← e.looseEq a b)
  | .notEq => return .bool (!(← e.looseEq a b))
  | .strictEq => return .bool (Value.strictEq a b)
  | .notStrictEq => return .bool (!Value.strictEq a b)
  | .isInstance => return .bool (← e.isInstance a b)
  | .isIn =>
    match b with
    | .object r => do return .bool (← e.has r (← e.toKey a))
    | _ => Run.typeError "invalid 'in' operand"
  | _ => do
    let x ← e.toNumber a
    let y ← e.toNumber b
    return .number (op.onNumbers x y)

/-- The outcome of an operator on one value. -/
def unary (op : UnaryOp) (v : Value) : Run Value :=
  match op with
  | .not => return .bool (!v.truthy)
  | .void => return .undefined
  | .plus => return .number (← e.toNumber v)
  | .minus => return .number (-(← e.toNumber v))
  | .complement => return .number (Number.ofSigned32 (0xFFFFFFFF - Number.toBits32 (← e.toNumber v)))

/-- What kind a value is. -/
def typeName (v : Value) : Run Utf16 :=
  match v with
  | .undefined => return "undefined"
  | .null => return "object"
  | .bool _ => return "boolean"
  | .number _ => return "number"
  | .string _ => return "string"
  | .object _ => return if (← isCallable v) then "function" else "object"

end Engine

end ScriptHost.Script
