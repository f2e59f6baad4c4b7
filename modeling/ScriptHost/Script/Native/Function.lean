/-
Functions on functions, on errors and on primitive values.
-/
import ScriptHost.Script.Native.Basic

namespace ScriptHost.Script.Engine

variable (e : Engine)

/-! ## Functions -/

/-- Makes a function from the texts of its parameters and its body. -/
def functionOf (args : List Value) : Run Value := do
  let parts ← args.mapM fun v => e.toUnits v
  let parameters := List.intercalate (Utf16.ofString ",") parts.dropLast
  let body := parts.getLastD []
  e.runGlobally (Utf16.ofString "(function anonymous(" ++ parameters ++ Utf16.ofString "\n) \x7b\n" ++ body ++
    Utf16.ofString "\n\x7d)")

/-- Calls a function with a receiver. -/
def callWith (f : Value) (args : List Value) : Run Value := do
  needFunction f
  e.call f (arg args 0) (args.drop 1)

/-- Calls a function with a receiver and a list of arguments. -/
def applyWith (f : Value) (args : List Value) : Run Value := do
  needFunction f
  match arg args 1 with
  | .undefined | .null => e.call f (arg args 0) []
  | .object r => do
    let items ← e.itemsOf r
    e.call f (arg args 0) items
  | _ => Run.typeError "not an object"

/-- What the functions of the host are written as. -/
def hostFunctionText : Utf16 := Utf16.ofString <| String.intercalate "\n" [
  "function () \x7b",
  "                var args = [];",
  "                for (var i = 0; i < arguments.length; i++) \x7b",
  "                    args.push(String(arguments[i]));",
  "                \x7d",
  "                var reply = callPython(exportName, args);",
  "                if (reply.error !== undefined) \x7b",
  "                    throw new Error(reply.error);",
  "                \x7d",
  "                return reply.value;",
  "            \x7d"]

/-- What a function is written as; one that no program made shows its name only. -/
def functionText (f : Value) : Run Value := do
  needFunction f
  let kind ← match f with
    | .object r => do pure (← Run.object r).kind
    | _ => pure .plain
  match kind with
  | .closure code _ => return .string code.text
  | .host _ => return .string hostFunctionText
  | _ =>
    let name ← e.toUnits (← e.get f "name")
    return .string (Utf16.ofString "function " ++ name ++
      Utf16.ofString "() \x7b\n    [native code]\n\x7d")

/-! ## Errors -/

/-- Makes an error of a kind, with a message if one is given. -/
def errorOf (k : ErrorKind) (message : Value) : Run Value := do
  let r ← Run.alloc { kind := .error, parent := some (.errorParent k) }
  if !message.isUndefined then
    let s ← e.toUnits message
    Run.update r (Obj.put "message" (.hidden (.string s)))
  return .object r

/-- The name and the message of an error, or the one that is not empty. -/
def errorText (this : Value) : Run Value := do
  discard (needObject this)
  let part (k : Key) (missing : Utf16) : Run Utf16 := do
    let v ← e.get this k
    if v.isUndefined then return missing else e.toUnits v
  let name ← part "name" "Error"
  let message ← part "message" []
  if name.isEmpty then return .string message
  else if message.isEmpty then return .string name
  else return .string (name ++ Utf16.ofString ": " ++ message)

/-! ## Primitive values -/

/-- The primitive value that `this` is or holds, if `p` takes it. -/
def primitiveOf (this : Value) (p : Value → Bool) (message : Text) : Run Value := do
  match this with
  | .object r =>
    match (← Run.object r).kind with
    | .boxed v => if p v then return v else Run.typeError message
    | _ => Run.typeError message
  | v => if p v then return v else Run.typeError message

def isString : Value → Bool
  | .string _ => true
  | _ => false

def isNumber : Value → Bool
  | .number _ => true
  | _ => false

def isBool : Value → Bool
  | .bool _ => true
  | _ => false

/-- A primitive value as an object. -/
def boxed (v : Value) : Run Value := do return .object (← toObject v)

def stringOf (args : List Value) : Run Value :=
  match args with
  | [] => return .string []
  | v :: _ => return .string (← e.toUnits v)

def numberOf (args : List Value) : Run Value :=
  match args with
  | [] => return .number 0
  | v :: _ => return .number (← e.toNumber v)

/-- The greatest of numbers; a zero without sign is greater than one with it. -/
def maxOf : List Value → Float → Run Float
  | [], best => return best
  | v :: rest, best => do
    let x ← e.toNumber v
    let larger := if best.isNaN || x.isNaN then Number.nan
      else if best < x then x
      else if x == 0 && best == 0 && x.toBits == 0 then x
      else best
    maxOf rest larger

/-! ## Strings -/

/-- The string that a function of strings works on. -/
def thisUnits (this : Value) : Run Utf16 :=
  if this.isNullish then Run.typeError "null or undefined are forbidden" else e.toUnits this

/-- The unit at a place, or nothing. -/
def charAt (this place : Value) : Run Value := do
  let s ← e.thisUnits this
  let x ← e.toWhole place
  return .string (if x < 0 then [] else match s[(Number.truncate x).toNat]? with
    | some u => if x == Number.infinity then [] else [u]
    | none => [])

/-- The longest string that there is. -/
def unitLimit : Nat := 0x3FFFFFFF

/-- A string so many times in a row. -/
def repeatUnits (this count : Value) : Run Value := do
  let s ← e.thisUnits this
  let x ← e.toWhole count
  if x < 0 || x == Number.infinity || Number.ofNat 0x7FFFFFFF < x then
    Run.rangeError "invalid repeat count"
  else
    let n := (Number.truncate x).toNat
    if unitLimit < n * s.length then Run.rangeError "invalid string length"
    else return .string (if s.isEmpty then [] else (List.replicate n s).flatten)

end ScriptHost.Script.Engine
