/-
Functions on objects: those of `Object`, and those that every object inherits.
-/
import ScriptHost.Script.Native.Basic

namespace ScriptHost.Script.Engine

variable (e : Engine)

/-- The object of a value; a fresh one for undefined and null. -/
def objectOf (v : Value) : Run Value :=
  if v.isNullish then return .object (← Run.allocPlain) else return .object (← toObject v)

/-- The keys that loops over an object see, its own ones. -/
def objectKeys (v : Value) : Run Value := do
  let r ← toObject v
  let ks ← Run.look fun m => e.enumerableKeys m r
  return .object (← Run.allocArray (ks.map fun k => .string k.units))

/-! ## Descriptions of properties -/

/-- The object that describes a property. -/
def describe (s : Slot) : Run Value := do
  let reference (r : Option Ref) : Value := match r with
    | some r => .object r
    | none => .undefined
  let entries : List (Key × Value) := match s with
    | .data v w en co =>
      [("value", v), ("writable", .bool w), ("enumerable", .bool en), ("configurable", .bool co)]
    | .accessor g s en co =>
      [("get", reference g), ("set", reference s), ("enumerable", .bool en), ("configurable", .bool co)]
  let r ← Run.allocPlain
  entries.forM fun (k, v) => Run.update r (Obj.put k (.plain v))
  return .object r

/-- The description of an own property, if there is one. -/
def objectDescriptor (v k : Value) : Run Value := do
  let r ← toObject v
  let key ← e.toKey k
  match (← Run.look fun m => e.own? m r key) with
  | some s => describe s
  | none => return .undefined

/-- A part of a description, if the object has it. -/
def descriptionPart (r : Ref) (k : Key) : Run (Option Value) := do
  if (← e.has r k) then return some (← e.get (.object r) k) else return none

/-- An accessor in a description: a function, or undefined for none. -/
def accessorPart (message : Text) (part : Option Value) : Run (Option (Option Ref)) :=
  match part with
  | none => return none
  | some .undefined => return some none
  | some (.object f) => do
    if (← isCallable (.object f)) then return some (some f) else Run.typeError message
  | some _ => Run.typeError message

/-- The description that an object spells. -/
def toDescription (v : Value) : Run Description := do
  let r ← needObject v
  let configurable ← e.descriptionPart r "configurable"
  let enumerable ← e.descriptionPart r "enumerable"
  let value ← e.descriptionPart r "value"
  let writable ← e.descriptionPart r "writable"
  let get ← accessorPart "invalid getter" (← e.descriptionPart r "get")
  let set ← accessorPart "invalid setter" (← e.descriptionPart r "set")
  let d : Description :=
    { value, get, set
      writable := writable.map Value.truthy, enumerable := enumerable.map Value.truthy
      configurable := configurable.map Value.truthy }
  if d.isAccessor && d.isData then
    Run.typeError "cannot have setter/getter and value or writable"
  return d

/-- Defines a property as an object describes it. -/
def objectDefine (v k d : Value) : Run Value := do
  let r ← needObject v
  let key ← e.toKey k
  let d ← e.toDescription d
  e.define r key d
  return v

/-- Makes an object with a parent and with properties as they are described. -/
def objectCreate (parent properties : Value) : Run Value := do
  let parent ← match parent with
    | .object p => pure (some p)
    | .null => pure none
    | _ => Run.typeError "not a prototype"
  let r ← Run.alloc { parent }
  if !properties.isUndefined then
    let source ← toObject properties
    let ks ← Run.look fun m => e.enumerableKeys m source
    ks.forM fun k => do
      let d ← e.toDescription (← e.get (.object source) k)
      e.define r k d
  return .object r

/-! ## Parents -/

/-- The parent of an object. -/
def parentValue (v : Value) : Run Value := do
  let r ← toObject v
  match (← Run.object r).parent with
  | some p => return .object p
  | none => return .null

/-- Gives an object another parent, unless it would become its own. -/
def setParent (this v : Value) : Run Value := do
  if this.isNullish then Run.typeError "cannot convert to object"
  match this, v with
  | .object r, .object p => do
    let around ← Run.look fun m => p == r || isAncestor m r (m.heap.size + 1) p
    if around then Run.typeError "circular prototype chain"
    else if !(← Run.object r).extensible then Run.typeError "object is not extensible"
    else Run.update r fun o => { o with parent := some p }
    return .undefined
  | .object r, .null => do
    Run.update r fun o => { o with parent := none }
    return .undefined
  | _, _ => return .undefined

/-! ## What every object inherits -/

/-- What an object is by its kind. -/
def kindName (o : Obj) : Text :=
  match o.kind with
  | .array .. => "Array"
  | .closure .. | .native _ | .host _ | .settler .. => "Function"
  | .error => "Error"
  | .arguments => "Arguments"
  | .boxed (.bool _) => "Boolean"
  | .boxed (.number _) => "Number"
  | .boxed (.string _) => "String"
  | .promise _ => "Promise"
  | .library name => name
  | .date _ => "Date"
  | _ => "Object"

/-- A value by its kind, in brackets. -/
def kindText (this : Value) : Run Value := do
  let name ← match this with
    | .undefined => pure (Text.ofString "Undefined")
    | .null => pure (Text.ofString "Null")
    | _ => do pure (kindName (← Run.object (← toObject this)))
  return .string (Text.toUtf16 ("[object " ++ name ++ "]"))

/-- Whether an object itself has a property. -/
def hasOwn (this k : Value) : Run Value := do
  let key ← e.toKey k
  let r ← toObject this
  return .bool (← Run.look fun m => (e.own? m r key).isSome)

end ScriptHost.Script.Engine
