/-
Conversions. Primitive values convert by tables; an object is first asked for a primitive value, by its
own functions and in an order that depends on what is wanted.
-/
import ScriptHost.Script.Number
import ScriptHost.Script.Property

namespace ScriptHost.Script

/-- What a primitive value of an object is wanted for. -/
inductive Hint where
  | string
  | number
  /-- Either will do. -/
  | any
deriving DecidableEq

namespace Value

/-- The string of a primitive value. -/
def primitiveUnits : Value → Utf16
  | undefined => "undefined"
  | null => "null"
  | bool b => if b then "true" else "false"
  | number x => Text.toUtf16 (Number.text x)
  | string s => s
  | object _ => "[object]"

/-- The number of a primitive value. -/
def primitiveNumber : Value → Float
  | undefined => Number.nan
  | null => 0
  | bool b => if b then 1 else 0
  | number x => x
  | string s => Number.ofText (Utf16.toText s)
  | object _ => Number.nan

end Value

namespace Engine

variable (e : Engine)

/-- Asks an object for a primitive value by these of its functions. -/
def askFor (v : Value) : List Key → Run Value
  | [] => Run.typeError "toPrimitive"
  | k :: rest => do
    let f ← e.get v k
    if (← isCallable f) then
      let p ← e.call f v []
      if (p.ref?).isNone then return p
    askFor v rest

/-- The functions that give primitive values, in the order for a hint. -/
def askingOrder : Hint → List Key
  | .string => ["toString", "valueOf"]
  | _ => ["valueOf", "toString"]

/-- Whether `parent` is among the parents of the object at `r`, of which at most so many are seen. -/
def isAncestor (m : Machine) (parent : Ref) : Nat → Ref → Bool
  | 0, _ => false
  | n + 1, r =>
    match (m.object r).parent with
    | some p => p == parent || isAncestor m parent n p
    | none => false

/-- What a primitive value of an object is wanted for where either will do: dates are strings first. -/
def likes (m : Machine) (r : Ref) : Hint :=
  if r = .dateParent || isAncestor m .dateParent (m.heap.size + 1) r then .string else .number

/-- The primitive value of a value. -/
def toPrimitive (hint : Hint) (v : Value) : Run Value :=
  match v, hint with
  | .object r, .any => do e.askFor v (askingOrder (← Run.look fun m => likes m r))
  | .object _, _ => e.askFor v (askingOrder hint)
  | _, _ => return v

/-- The string of a value. -/
def toUnits (v : Value) : Run Utf16 :=
  match v with
  | .string s => return s
  | .object _ => return (← e.toPrimitive .string v).primitiveUnits
  | _ => return v.primitiveUnits

/-- The number of a value. -/
def toNumber (v : Value) : Run Float :=
  match v with
  | .number x => return x
  | .object _ => return (← e.toPrimitive .number v).primitiveNumber
  | _ => return v.primitiveNumber

/-- The key that a value stands for. -/
def toKey (v : Value) : Run Key :=
  match v with
  | .string s => return .ofUnits s
  | .number x =>
    match Number.toNat32? x with
    | some n => return .ofNat n
    | none => return .ofUnits v.primitiveUnits
  | _ => return .ofUnits (← e.toUnits v)

/-- The length that a value stands for: not negative, and not beyond the safe integers. -/
def toLength (v : Value) : Run Nat := do
  let x ← e.toNumber v
  let limit : Nat := 0x1FFFFFFFFFFFFF
  return if 0 < x then min (if x == Number.infinity then limit else (Number.truncate x).toNat) limit
    else 0

/-- The parent of primitive values of a kind. -/
def parentOf (v : Value) : Ref :=
  match v with
  | .string _ => .stringParent
  | .number _ => .numberParent
  | _ => .booleanParent

/-- The object of a value. -/
def toObject (v : Value) : Run Ref :=
  match v with
  | .object r => return r
  | .undefined | .null => Run.typeError "cannot convert to object"
  | _ => Run.alloc { kind := .boxed v, parent := some (parentOf v) }

/-! ## Assigning to properties -/

/-- Refuses an assignment: strict code throws, other code goes on. -/
def refuse (strict : Bool) (message : Text) : Run Unit :=
  if strict then Run.typeError message else return ()

/-- Assigns the length of the array at `r`. -/
def putLength (r : Ref) (v : Value) (strict : Bool) : Run Unit := do
  let x ← e.toNumber v
  match Number.toNat32? x with
  | none => Run.rangeError "invalid array length"
  | some n =>
    let (o, all) := (← Run.object r).truncate n
    Run.update r fun _ => o
    if !all then refuse strict "not configurable"

def readOnlyMessage (k : Key) : Text := "'" ++ Run.shownName k.units ++ "' is read-only"

/-- Calls a setter, if there is one. -/
def callSetter (setter : Option Ref) (this v : Value) (strict : Bool) : Run Unit :=
  match setter with
  | some s => do discard (e.call (.object s) this [v])
  | none => refuse strict "no setter for property"

/-- Gives the object at `r` a property that it does not have yet. -/
def addSlot (r : Ref) (k : Key) (v : Value) (strict : Bool) : Run Unit := do
  let o ← Run.object r
  if !o.extensible then refuse strict "object is not extensible"
  else match o.kind, k with
    | .array n true, .index i =>
      if n ≤ i then refuse strict "array is not extensible" else Run.update r (Obj.place k (.plain v))
    | _, _ => Run.update r (Obj.place k (.plain v))

/-- Assigns to a property of the object at `r`. -/
def putObject (r : Ref) (k : Key) (v : Value) (strict : Bool) : Run Unit := do
  match (← Run.look fun m => e.own? m r k) with
  | some (.data _ true en co) =>
    match (← Run.object r).kind with
    | .array .. =>
      if k = .length then e.putLength r v strict else Run.update r (Obj.put k (.data v true en co))
    | _ => Run.update r (Obj.put k (.data v true en co))
  | some (.data _ false _ _) => refuse strict (readOnlyMessage k)
  | some (.accessor _ s _ _) => e.callSetter s (.object r) v strict
  | none =>
    match (← Run.look fun m => e.find? m r k) with
    | some (_, .data _ false _ _) => refuse strict (readOnlyMessage k)
    | some (_, .accessor _ s _ _) => e.callSetter s (.object r) v strict
    | _ => addSlot r k v strict

/-- Assigns to a property of a primitive value, which keeps nothing. -/
def putPrimitive (target : Value) (k : Key) (v : Value) (strict : Bool) : Run Unit := do
  match (← Run.look fun m => e.find? m (parentOf target) k) with
  | some (_, .accessor _ (some s) _ _) => discard (e.call (.object s) target [v])
  | _ => refuse strict "not an object"

/-- Assigns to a property of any value. -/
def put (target : Value) (k : Key) (v : Value) (strict : Bool) : Run Unit :=
  match target with
  | .object r => e.putObject r k v strict
  | .undefined | .null =>
    Run.typeError ("cannot set property '" ++ Run.shownName k.units ++ "' of " ++ nullishName target)
  | _ => e.putPrimitive target k v strict

end Engine

end ScriptHost.Script
