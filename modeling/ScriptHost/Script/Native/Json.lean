/-
Values and JSON. A value becomes a tree by its own rule, if it has one, or by its kind; functions and
undefined become none. A tree becomes a value of fresh objects.
-/
import ScriptHost.Script.Native.Basic

namespace ScriptHost.Script

namespace Engine

variable (e : Engine)

/-! ## Trees of values -/

/-- The value that stands for `v` under a key: what its function `toJSON` gives, and then what the
replacer gives. -/
def jsonValue (rule : JsonRule) (holder : Value) (k : Key) (v : Value) : Run Value := do
  let v ← match v with
    | .object _ => do
      let f ← e.get v "toJSON"
      if (← isCallable f) then e.call f v [.string k.units] else pure v
    | _ => pure v
  match rule.replacer with
  | some f => e.call f holder [.string k.units, v]
  | none => return v

/-- The tree of an item; those that have none become null. -/
def jsonItem (rule : JsonRule) (around : List Ref) (r : Ref) (i : Nat) : Run Json := do
  let v ← e.get (.object r) (.ofNat i)
  return (← e.json rule around (.object r) (.ofNat i) v).getD .null

/-- The trees of the items from `i` on, `n` of them. -/
def jsonItems (rule : JsonRule) (around : List Ref) (r : Ref) : Nat → Nat → Run (List Json)
  | _, 0 => return []
  | i, n + 1 => do
    let j ← e.jsonItem rule around r i
    return j :: (← jsonItems rule around r (i + 1) n)

/-- The trees of the properties under these keys that have one. -/
def jsonEntries (rule : JsonRule) (around : List Ref) (r : Ref) :
    List Key → Run (List (Utf16 × Json))
  | [] => return []
  | k :: rest => do
    let v ← e.get (.object r) k
    match (← e.json rule around (.object r) k v) with
    | some j => return (k.units, j) :: (← jsonEntries rule around r rest)
    | none => jsonEntries rule around r rest

/-- The tree of an object that is no function. -/
def jsonObject (rule : JsonRule) (around : List Ref) (r : Ref) : Run Json := do
  if around.contains r then Run.typeError "circular reference"
  else match (← Run.object r).kind with
    | .array .. => return .array (← e.jsonItems rule (r :: around) r 0 (← e.lengthOf r))
    | _ =>
      let ks ← match rule.keys with
        | some ks => pure ks
        | none => Run.look fun m => e.enumerableKeys m r
      return .object (← e.jsonEntries rule (r :: around) r ks)

/-- The tree of a primitive value. -/
def jsonPrimitive : Value → Option Json
  | .null => some .null
  | .bool b => some (.bool b)
  | .number x => some (if x.isFinite then .number x else .null)
  | .string s => some (.string s)
  | _ => none

/-- The tree of a value under a key, given the objects around it. -/
def jsonTree (rule : JsonRule) (around : List Ref) (holder : Value) (k : Key) (v : Value) :
    Run (Option Json) := do
  let v ← e.jsonValue rule holder k v
  match v with
  | .object r =>
    let o ← Run.object r
    match o.kind with
    | .boxed (.number _) => return jsonPrimitive (.number (← e.toNumber v))
    | .boxed (.string _) => return some (.string (← e.toUnits v))
    | .boxed p => return jsonPrimitive p
    | _ => if o.isCallable then return none else return some (← e.jsonObject rule around r)
  | p => return jsonPrimitive p

/-- The gap that an argument asks for: so many blanks, or the start of a string. -/
def gapOf : Value → Utf16
  | .number x => List.replicate (Number.clampIndex 10 (if x < 0 then 0 else x)) 0x20
  | .string s => s.take 10
  | _ => []

/-- The rule that an argument asks for: a function, or a list of keys. -/
def ruleOf (replacer : Value) : Run JsonRule := do
  if (← isCallable replacer) then return { replacer := some replacer }
  match replacer with
  | .object r =>
    match (← Run.object r).kind with
    | .array .. =>
      let names ← e.itemsOf r
      let ks := names.filterMap fun v =>
        match v with
        | .string s => some (Key.ofUnits s)
        | .number _ => some (Key.ofUnits v.primitiveUnits)
        | _ => none
      return { keys := some (ks.foldl (fun acc k => if acc.contains k then acc else acc ++ [k]) []) }
    | _ => return {}
  | _ => return {}

/-- A value as JSON text; undefined where it has no tree. -/
def stringify (args : List Value) : Run Value := do
  let rule ← e.ruleOf (arg args 1)
  let v := arg args 0
  let holder ← Run.allocPlain
  Run.update holder (Obj.put (.name []) (.plain v))
  match (← e.json rule [] (.object holder) (.name []) v) with
  | some j => return .string (j.write (gapOf (arg args 2)) [])
  | none => return .undefined

end Engine

/-! ## Values of trees -/

namespace Json

mutual

/-- The value of a tree. -/
def toValue : Json → Run Value
  | null => return .null
  | bool b => return .bool b
  | number x => return .number x
  | string s => return .string s
  | array items => do return .object (← Run.allocArray (← toValues items))
  | object entries => do
    let r ← Run.allocPlain
    fill r entries
    return .object r

def toValues : List Json → Run (List Value)
  | [] => return []
  | j :: rest => do
    let v ← toValue j
    return v :: (← toValues rest)

/-- Gives the object at `r` the entries as properties; of two under one key the last counts. -/
def fill (r : Ref) : List (Utf16 × Json) → Run Unit
  | [] => return ()
  | (k, j) :: rest => do
    let v ← toValue j
    Run.update r (Obj.put (.ofUnits k) (.plain v))
    fill r rest

end

end Json

namespace Engine

variable (e : Engine)

/-! ## Revising values -/

/-- Puts what `revise` makes of each property of the object at `r` in its place; undefined removes it. -/
def reviseEach (revise : Ref → Key → Run Value) (r : Ref) : List Key → Run Unit
  | [] => return ()
  | k :: rest => do
    let v ← revise r k
    if v.isUndefined then discard (e.remove r k)
    else e.define r k ⟨some v, some true, none, none, some true, some true⟩
    reviseEach revise r rest

/-- What the function `f` makes of a property, the parts of its value first; values of more levels than
given are too deep. -/
def revise (f : Value) : Nat → Ref → Key → Run Value
  | 0, _, _ => Run.tooDeep
  | levels + 1, holder, k => do
    let v ← e.get (.object holder) k
    match v with
    | .object r =>
      let ks ← match (← Run.object r).kind with
        | .array .. => do pure ((List.range (← e.lengthOf r)).map Key.ofNat)
        | _ => Run.look fun m => e.enumerableKeys m r
      e.reviseEach (revise f levels) r ks
    | _ => pure ()
    e.call f (.object holder) [.string k.units, v]

/-- How many levels are revised. -/
def revisedLevels : Nat := 1000

/-- The value that a JSON text spells, revised by a function if one is given. -/
def parseJson (args : List Value) : Run Value := do
  let s ← e.toUnits (arg args 0)
  match Json.read (Utf16.toText s) with
  | .ok j =>
    let v ← j.toValue
    if (← isCallable (arg args 1)) then
      let holder ← Run.allocPlain
      Run.update holder (Obj.put (.name []) (.plain v))
      e.revise (arg args 1) revisedLevels holder (.name [])
    else return v
  | .error complaint => Run.throwNew .syntaxError complaint

end Engine

/-! ## Data -/

namespace Value

mutual

/-- The value of a datum of the host. -/
def ofDatum : Datum → Run Value
  | .nothing | .other _ _ => return .null
  | .bool b => return .bool b
  | .int n => return .number (Number.ofInt n)
  | .real x => return .number x
  | .text t => return .string (Text.toUtf16 t)
  | .list items => do return .object (← Run.allocArray (← ofData items))
  | .table entries => do
    let r ← Run.allocPlain
    fillFrom r entries
    return .object r

def ofData : List Datum → Run (List Value)
  | [] => return []
  | d :: rest => do
    let v ← ofDatum d
    return v :: (← ofData rest)

/-- Gives the object at `r` the entries as properties. -/
def fillFrom (r : Ref) : List (Text × Datum) → Run Unit
  | [] => return ()
  | (k, d) :: rest => do
    let v ← ofDatum d
    Run.update r (Obj.put (.ofUnits (Text.toUtf16 k)) (.plain v))
    fillFrom r rest

end

end Value

end ScriptHost.Script
