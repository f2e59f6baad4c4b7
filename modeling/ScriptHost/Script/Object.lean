/-
Objects. An object has properties in the order in which they came, a parent that it inherits further
ones from, and a kind that says what else it can do. A property holds a value or a pair of accessors.
-/
import ScriptHost.Script.Native
import ScriptHost.Script.Tree

namespace ScriptHost.Script

/-- A reference to a scope: its place among the scopes. -/
structure ScopeRef where
  index : Nat
deriving DecidableEq, Inhabited

/-- What a property is. -/
inductive Slot where
  | data (value : Value) (writable enumerable configurable : Bool)
  | accessor (get set : Option Ref) (enumerable configurable : Bool)

namespace Slot

def enumerable : Slot → Bool
  | data _ _ e _ | accessor _ _ e _ => e

def configurable : Slot → Bool
  | data _ _ _ c | accessor _ _ _ c => c

/-- A property as assignment makes it. -/
def plain (v : Value) : Slot := data v true true true

/-- A property that loops over keys do not see. -/
def hidden (v : Value) : Slot := data v true false true

end Slot

/-- What waits for a promise to settle: the handlers, and the promise of their outcome. -/
structure Reaction where
  onValue : Option Value
  onError : Option Value
  outcome : Ref

/-- The state of a promise. -/
inductive PromiseState where
  | pending (reactions : List Reaction)
  | fulfilled (v : Value)
  | rejected (reason : Value)

/-- What an object is beside its properties. -/
inductive Kind where
  | plain
  /-- A list; `fixed` if its length may not change. -/
  | array (length : Nat) (fixed : Bool)
  /-- A function of a program with the scope that it was made in. -/
  | closure (code : Code) (scope : ScopeRef)
  | native (f : Native)
  /-- A function of the host. -/
  | host (name : Text)
  /-- Settles a promise once; the latch knows whether that has happened. -/
  | settler (promise : Ref) (rejects : Bool) (latch : Ref)
  | latch (used : Bool)
  /-- A primitive value as an object. -/
  | boxed (v : Value)
  | error
  | arguments
  /-- A collection of functions, with what it is called. -/
  | library (name : Text)
  | promise (state : PromiseState)
  /-- A date with its time, in milliseconds since the start of 1970, if it has one. -/
  | date (time : Option Int)

/-- An object. The newest property comes first. -/
structure Obj where
  kind : Kind := .plain
  parent : Option Ref
  slots : List (Key × Slot) := []
  extensible : Bool := true

instance : Inhabited Obj := ⟨{ parent := none }⟩

namespace Obj

/-- The property under a key. -/
def slot? (o : Obj) (k : Key) : Option Slot :=
  match o.slots.find? (·.1 = k) with
  | some (_, s) => some s
  | none => none

/-- `slots` with another property under a key that is among them. -/
def replaceSlot (k : Key) (s : Slot) : List (Key × Slot) → List (Key × Slot)
  | [] => []
  | e :: rest => if e.1 = k then (k, s) :: rest else e :: replaceSlot k s rest

/-- The object with a property: at its old place, or as the newest. -/
def put (k : Key) (s : Slot) (o : Obj) : Obj :=
  if o.slots.any (·.1 = k) then { o with slots := replaceSlot k s o.slots }
  else { o with slots := (k, s) :: o.slots }

/-- The object without the property under a key. -/
def remove (k : Key) (o : Obj) : Obj := { o with slots := o.slots.filter (·.1 ≠ k) }

/-- Whether the object can be called. -/
def isCallable (o : Obj) : Bool :=
  match o.kind with
  | .closure .. | .native _ | .host _ | .settler .. => true
  | _ => false

/-- `n` among numbers in order. -/
def insertOrdered (n : Nat) : List Nat → List Nat
  | [] => [n]
  | m :: rest => if n ≤ m then n :: m :: rest else m :: insertOrdered n rest

/-- The keys of the properties: indices in their order, then names in the order in which they came. -/
def keys (o : Obj) : List Key :=
  let indices := o.slots.foldl (fun acc (k, _) =>
    match k with
    | .index n => insertOrdered n acc
    | .name _ => acc) []
  let names := o.slots.foldl (fun acc (k, _) =>
    match k with
    | .index _ => acc
    | .name _ => k :: acc) []
  indices.map Key.index ++ names

end Obj

end ScriptHost.Script
