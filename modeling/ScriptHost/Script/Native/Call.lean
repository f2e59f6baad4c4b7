/-
Calling and constructing. What a call does depends on the kind of the function; a value that is no
function refuses.
-/
import ScriptHost.Script.Native.Array
import ScriptHost.Script.Native.Date
import ScriptHost.Script.Native.Function
import ScriptHost.Script.Native.Host
import ScriptHost.Script.Native.Promise

namespace ScriptHost.Script.Engine

variable (e : Engine)

/-- Runs the source in an argument as global code; anything else is its own result. -/
def evalGlobally (v : Value) : Run Value :=
  match v with
  | .string source => e.runGlobally source
  | _ => return v

/-- Calls a function of the library. -/
def callNative (f : Native) (this : Value) (args : List Value) : Run Value :=
  let a := arg args 0
  let b := arg args 1
  match f with
  | .nothing => return .undefined
  | .eval => e.evalGlobally a
  | .object => objectOf a
  | .objectKeys => e.objectKeys a
  | .objectCreate => e.objectCreate a b
  | .objectDescriptor => e.objectDescriptor a b
  | .objectDefine => e.objectDefine a b (arg args 2)
  | .objectParent => parentValue a
  | .toString => kindText this
  | .valueOf => return .object (← toObject this)
  | .hasOwn => e.hasOwn this a
  | .getParent => parentValue this
  | .setParent => setParent this a
  | .function => e.functionOf args
  | .call => e.callWith this args
  | .apply => e.applyWith this args
  | .functionText => e.functionText this
  | .array => arrayOf args
  | .isArray => return .bool (← isArray a)
  | .push => e.push this args
  | .map => e.map this args
  | .forEach => e.forEach this args
  | .join => e.join this a
  | .arrayText => e.arrayText this
  | .indexOf => e.indexOf this args
  | .string => e.stringOf args
  | .stringValue => primitiveOf this isString "not a string"
  | .charAt => e.charAt this a
  | .repeat => e.repeatUnits this a
  | .number => e.numberOf args
  | .numberValue => primitiveOf this isNumber "not a number"
  | .numberText => return .string (← primitiveOf this isNumber "not a number").primitiveUnits
  | .boolean => return .bool a.truthy
  | .booleanValue => primitiveOf this isBool "not a boolean"
  | .booleanText => return .string (← primitiveOf this isBool "not a boolean").primitiveUnits
  | .error kind => e.errorOf kind a
  | .errorText => e.errorText this
  | .max => return .number (← e.maxOf args (-Number.infinity))
  | .random => return .number (Number.ofNat (← Run.chance).toNat / Number.ofNat (Nat.pow 2 52))
  | .date => do localText (within? (← Run.clock))
  | .now => return timeNumber (some (← Run.clock))
  | .timeOfParts => e.timeOfParts args
  | .dateValue => return timeNumber (← needDate this)
  | .datePart part universal => do timePart part universal (← needDate this)
  | .zoneOffset => do zoneOffset (← needDate this)
  | .dateText => do localText (← needDate this)
  | .isoText => isoText this
  | .dateJson => e.dateJson this
  | .parse => e.parseJson args
  | .stringify => e.stringify args
  | .promise => Run.typeError "must be called with new"
  | .resolve => e.promiseOf a
  | .reject => rejectedPromise a
  | .then => thenOf this a b
  | .catch => thenOf this .undefined a

/-- Makes an object by a function of the library. -/
def constructNative (f : Native) (args : List Value) : Run Value :=
  match f with
  | .object => objectOf (arg args 0)
  | .function => e.functionOf args
  | .array => arrayOf args
  | .string => do boxed (← e.stringOf args)
  | .number => do boxed (← e.numberOf args)
  | .boolean => boxed (.bool (arg args 0).truthy)
  | .error kind => e.errorOf kind (arg args 0)
  | .promise => e.promiseBy (arg args 0)
  | .date => e.constructDate args
  | _ => Run.typeError "not a constructor"

/-- Calls a value. -/
def callValue (callee this : Value) (args : List Value) : Run Value :=
  match callee with
  | .object r => do
    match (← Run.object r).kind with
    | .closure code scope => e.callClosure r code scope this args
    | .native f => e.callNative f this args
    | .host name => e.callHost name args
    | .settler p rejects latch => e.callSettler p rejects latch (arg args 0)
    | _ => Run.typeError "not a function"
  | _ => Run.typeError "not a function"

/-- Makes an object by a value. -/
def constructValue (callee : Value) (args : List Value) : Run Value :=
  match callee with
  | .object r => do
    match (← Run.object r).kind with
    | .closure code scope => e.constructClosure r code scope args
    | .native f => e.constructNative f args
    | .host name => do
      let v ← e.callHost name args
      if v.ref?.isSome then return v
      else return .object (← Run.alloc { parent := some (← e.parentForNew callee .objectParent) })
    | .settler .. => Run.typeError "not a constructor"
    | _ => Run.typeError "not a function"
  | _ => Run.typeError "not a function"

end ScriptHost.Script.Engine
