/-
Functions on lists. They work on whatever has a length and items, arrays among them.
-/
import ScriptHost.Script.Native.Object

namespace ScriptHost.Script.Engine

variable (e : Engine)

/-- An array of the arguments; of a single number, so many holes. -/
def arrayOf (args : List Value) : Run Value := do
  match args with
  | [.number x] =>
    match Number.toNat32? x with
    | some n =>
      return .object (← Run.alloc { kind := .array n false, parent := some .arrayParent })
    | none => Run.rangeError "invalid array length"
  | _ => return .object (← Run.allocArray args)

def isArray (v : Value) : Run Bool :=
  match v with
  | .object r => do
    match (← Run.object r).kind with
    | .array .. => return true
    | _ => return false
  | _ => return false

/-- Puts values behind the last item. -/
def pushItems (r : Ref) : Nat → List Value → Run Nat
  | n, [] => return n
  | n, v :: rest => do
    e.putObject r (.ofNat n) v true
    pushItems r (n + 1) rest

def push (this : Value) (args : List Value) : Run Value := do
  let r ← toObject this
  let n ← e.lengthOf r
  let n ← e.pushItems r n args
  e.putObject r .length (.number (Number.ofNat n)) true
  return .number (Number.ofNat n)

/-- Calls `f` on the items from `i` on, `n` of them; holes are left out. -/
def visit (r : Ref) (f this : Value) (take : Nat → Value → Run Unit) : Nat → Nat → Run Unit
  | _, 0 => return ()
  | i, n + 1 => do
    if (← e.has r (.ofNat i)) then
      let v ← e.get (.object r) (.ofNat i)
      let outcome ← e.call f this [v, .number (Number.ofNat i), .object r]
      take i outcome
    visit r f this take (i + 1) n

def forEach (this : Value) (args : List Value) : Run Value := do
  let r ← toObject this
  let n ← e.lengthOf r
  needFunction (arg args 0)
  e.visit r (arg args 0) (arg args 1) (fun _ _ => return ()) 0 n
  return .undefined

def map (this : Value) (args : List Value) : Run Value := do
  let r ← toObject this
  let n ← e.lengthOf r
  needFunction (arg args 0)
  let mapped ← Run.alloc { kind := .array n false, parent := some .arrayParent }
  e.visit r (arg args 0) (arg args 1)
    (fun i v => Run.update mapped (Obj.place (.ofNat i) (.plain v))) 0 n
  return .object mapped

/-- The strings of the items from `i` on, `n` of them; undefined and null have empty ones. -/
def itemTexts (r : Ref) : Nat → Nat → Run (List Utf16)
  | _, 0 => return []
  | i, n + 1 => do
    let v ← e.get (.object r) (.ofNat i)
    let s ← if v.isNullish then pure [] else e.toUnits v
    return s :: (← itemTexts r (i + 1) n)

def join (this separator : Value) : Run Value := do
  let r ← toObject this
  let n ← e.lengthOf r
  let sep ← if separator.isUndefined then pure (Utf16.ofString ",") else e.toUnits separator
  return .string (List.intercalate sep (← e.itemTexts r 0 n))

/-- A list as text: by its own function that joins, if it has one. -/
def arrayText (this : Value) : Run Value := do
  let r ← toObject this
  let f ← e.get (.object r) "join"
  if (← isCallable f) then e.call f (.object r) [] else kindText (.object r)

/-- The place of the first item from `i` on, among `n`, that is a value. -/
def indexFrom (r : Ref) (v : Value) : Nat → Nat → Run (Option Nat)
  | _, 0 => return none
  | i, n + 1 => do
    if (← e.has r (.ofNat i)) then
      if Value.strictEq (← e.get (.object r) (.ofNat i)) v then return some i
      else indexFrom r v (i + 1) n
    else indexFrom r v (i + 1) n

def indexOf (this : Value) (args : List Value) : Run Value := do
  let r ← toObject this
  let n ← e.lengthOf r
  let start := Number.clampIndex n (← e.toWhole (arg args 1))
  match (← e.indexFrom r (arg args 0) start (n - start)) with
  | some i => return .number (Number.ofNat i)
  | none => return .number (-1)

end ScriptHost.Script.Engine
