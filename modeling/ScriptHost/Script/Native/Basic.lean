/-
What the functions of the library share: their arguments, and lists of values as objects.
-/
import ScriptHost.Script.Function
import ScriptHost.Script.Operator
import ScriptHost.Script.Json

namespace ScriptHost.Script

namespace Engine

variable (e : Engine)

/-- An argument; those that were not given are undefined. -/
def arg (args : List Value) (n : Nat) : Value := args.getD n .undefined

/-- The length of a list-like object. -/
def lengthOf (r : Ref) : Run Nat := do e.toLength (← e.get (.object r) .length)

/-- The items of a list-like object from `i` on, `n` of them. -/
def itemsFrom (r : Ref) : Nat → Nat → Run (List Value)
  | _, 0 => return []
  | i, n + 1 => do
    let v ← e.get (.object r) (.ofNat i)
    return v :: (← itemsFrom r (i + 1) n)

/-- The items of a list-like object. -/
def itemsOf (r : Ref) : Run (List Value) := do e.itemsFrom r 0 (← e.lengthOf r)

/-- A value that must be callable. -/
def needFunction (v : Value) : Run Unit := do
  if !(← isCallable v) then Run.typeError "not a function"

/-- A value that must be an object. -/
def needObject (v : Value) : Run Ref :=
  match v with
  | .object r => return r
  | _ => Run.typeError "not an object"

/-- A whole number, which may be infinite. -/
def toWhole (v : Value) : Run Float := do
  let x ← e.toNumber v
  return if x.isNaN then 0
    else if x == Number.infinity || x == -Number.infinity then x
    else Number.ofInt (Number.truncate x)

end Engine

end ScriptHost.Script
