/-
Properties. A property is looked for on an object and then on its parents, the nearest first. What may
be changed or removed is a matter of the property: one that is neither writable nor configurable stays,
and so do the global names of the host's functions.
-/
import ScriptHost.Script.Machine

namespace ScriptHost.Script

/-- The key of the length of lists, strings and functions. -/
def Key.length : Key := .name (Utf16.ofString "length")

namespace Obj

/-- The property of a string under a key. -/
def stringSlot? (s : Utf16) (k : Key) : Option Slot :=
  match k with
  | .index n => (s[n]?).map fun u => .data (.string [u]) false true false
  | .name _ =>
    if k = .length then some (.data (.number (Float.ofNat s.length)) false false false) else none

/-- The property that an object itself has under a key. -/
def own? (o : Obj) (k : Key) : Option Slot :=
  match o.kind with
  | .array n fixed =>
    if k = .length then some (.data (.number (Float.ofNat n)) (!fixed) false false) else o.slot? k
  | .boxed (.string s) =>
    match stringSlot? s k with
    | some slot => some slot
    | none => o.slot? k
  | _ => o.slot? k

/-- The keys of all properties that an object itself has. -/
def ownKeys (o : Obj) : List Key :=
  match o.kind with
  | .array .. =>
    let ks := o.keys
    ks.filter (fun k => match k with
      | .index _ => true
      | .name _ => false) ++ Key.length :: ks.filter fun k => match k with
      | .index _ => false
      | .name _ => true
  | .boxed (.string s) => (List.range s.length).map Key.index ++ Key.length :: o.keys
  | _ => o.keys

/-- The array without the items from `n` on; items that may not go stay, and those before them. The
second part says whether all went. -/
def truncate (n : Nat) (o : Obj) : Obj × Bool :=
  let stays := o.slots.foldl (fun acc (k, s) =>
    match k with
    | .index i => if n ≤ i && !s.configurable then max acc (i + 1) else acc
    | .name _ => acc) n
  let fixed := match o.kind with
    | .array _ f => f
    | _ => false
  ({ o with
    kind := .array stays fixed
    slots := o.slots.filter fun (k, _) => match k with
      | .index i => i < stays
      | .name _ => true }, stays = n)

/-- The object with a property, an array grown to hold it. -/
def place (k : Key) (s : Slot) (o : Obj) : Obj :=
  let o := o.put k s
  match o.kind, k with
  | .array n fixed, .index i => if n ≤ i then { o with kind := .array (i + 1) fixed } else o
  | _, _ => o

end Obj

namespace Engine

variable (e : Engine)

/-! ## Looking -/

/-- The property that the object at `r` itself has. A function of the host has its global name even on
a machine whose global object has no property for it. -/
def own? (m : Machine) (r : Ref) (k : Key) : Option Slot :=
  match (m.object r).own? k with
  | some s => some s
  | none =>
    if r = .global then
      (e.bindings.find? (·.1 = k)).map fun (_, f) => .data (.object f) false false false
    else none

/-- The nearest property along at most so many parents, with the object that has it. -/
def findUpTo (m : Machine) (k : Key) : Nat → Ref → Option (Ref × Slot)
  | 0, _ => none
  | n + 1, r =>
    match e.own? m r k with
    | some s => some (r, s)
    | none =>
      match (m.object r).parent with
      | some p => findUpTo m k n p
      | none => none

/-- The nearest property of the object at `r` or its parents. -/
def find? (m : Machine) (r : Ref) (k : Key) : Option (Ref × Slot) := e.findUpTo m k (m.heap.size + 1) r

/-- Whether the object at `r` or one of its parents has a property. -/
def has (r : Ref) (k : Key) : Run Bool := Run.look fun m => (e.find? m r k).isSome

/-- All keys of the object at `r`. -/
def ownKeys (m : Machine) (r : Ref) : List Key :=
  let ks := (m.object r).ownKeys
  if r = .global then ks ++ (e.bindings.map (·.1)).filter fun k => !ks.contains k else ks

/-- The keys of the object at `r` that loops over keys see. -/
def enumerableKeys (m : Machine) (r : Ref) : List Key :=
  (e.ownKeys m r).filter fun k => (e.own? m r k).any (·.enumerable)

/-! ## Reading -/

/-- The value of the nearest property from `start` on; a getter is called on `receiver`. -/
def getFrom (start : Ref) (k : Key) (receiver : Value) : Run Value := do
  match (← Run.look fun m => e.find? m start k) with
  | some (_, .data v _ _ _) => return v
  | some (_, .accessor (some g) _ _ _) => e.call (.object g) receiver []
  | some (_, .accessor none _ _ _) | none => return .undefined

/-- Undefined or null as errors show it. -/
def nullishName (v : Value) : Text := if v.isUndefined then "undefined" else "null"

/-- The value of a property of any value. -/
def get (v : Value) (k : Key) : Run Value :=
  match v with
  | .object r => e.getFrom r k v
  | .string s =>
    match Obj.stringSlot? s k with
    | some (.data x _ _ _) => return x
    | _ => e.getFrom .stringParent k v
  | .number _ => e.getFrom .numberParent k v
  | .bool _ => e.getFrom .booleanParent k v
  | .undefined | .null =>
    Run.typeError ("cannot read property '" ++ Run.shownName k.units ++ "' of " ++ nullishName v)

/-- Whether a value can be called. -/
def isCallable (v : Value) : Run Bool :=
  match v with
  | .object r => return (← Run.object r).isCallable
  | _ => return false

/-! ## Defining -/

/-- What is asked of a property; what is left out stays as it is. -/
structure Description where
  value : Option Value := none
  writable : Option Bool := none
  get : Option (Option Ref) := none
  set : Option (Option Ref) := none
  enumerable : Option Bool := none
  configurable : Option Bool := none

namespace Description

def isAccessor (d : Description) : Bool := d.get.isSome || d.set.isSome

def isData (d : Description) : Bool := d.value.isSome || d.writable.isSome

/-- The new property that a description asks for. -/
def fresh (d : Description) : Slot :=
  if d.isAccessor then
    .accessor (d.get.getD none) (d.set.getD none) (d.enumerable.getD false) (d.configurable.getD false)
  else
    .data (d.value.getD .undefined) (d.writable.getD false) (d.enumerable.getD false)
      (d.configurable.getD false)

/-- Whether a property that may not be configured stays what it is. -/
def keeps (d : Description) : Slot → Bool
  | .data v writable enumerable _ =>
    d.configurable != some true && (d.enumerable.all (· == enumerable)) && !d.isAccessor &&
      (writable || (d.writable != some true && d.value.all (Value.same · v)))
  | .accessor g s enumerable _ =>
    d.configurable != some true && (d.enumerable.all (· == enumerable)) && !d.isData &&
      d.get.all (· == g) && d.set.all (· == s)

/-- The property `s` changed as asked. -/
def appliedTo (d : Description) (s : Slot) : Slot :=
  let en := d.enumerable.getD s.enumerable
  let co := d.configurable.getD s.configurable
  match s with
  | .data v writable _ _ =>
    if d.isAccessor then .accessor (d.get.getD none) (d.set.getD none) en co
    else .data (d.value.getD v) (d.writable.getD writable) en co
  | .accessor g t _ _ =>
    if d.isData then .data (d.value.getD .undefined) (d.writable.getD false) en co
    else .accessor (d.get.getD g) (d.set.getD t) en co

end Description

/-- The length that a description asks an array to have. -/
def Description.length? (d : Description) : Option Nat :=
  match d.value with
  | some (.number x) => if 0 ≤ x && x.toUInt32.toFloat == x then some x.toUInt32.toNat else none
  | _ => none

/-- Defines the length of an array. -/
def defineLength (r : Ref) (d : Description) : Run Unit := do
  let o ← Run.object r
  let fixed := match o.kind with
    | .array _ f => f
    | _ => false
  let n := match o.kind with
    | .array n _ => n
    | _ => 0
  if !d.keeps (.data (.number (Float.ofNat n)) (!fixed) false false) then
    Run.typeError "property is not configurable"
  else
    let (o, all) ← match d.value, d.length? with
      | none, _ => pure (o, true)
      | some _, none => Run.rangeError "invalid array length"
      | some _, some l => pure (o.truncate l)
    let o := match o.kind with
      | .array n f => { o with kind := .array n (f || d.writable == some false) }
      | _ => o
    Run.update r fun _ => o
    if !all then Run.typeError "not configurable"

/-- Defines a property of the object at `r` as asked, or throws. -/
def define (r : Ref) (k : Key) (d : Description) : Run Unit := do
  let o ← Run.object r
  match o.kind with
  | .array n fixed =>
    if k = .length then return (← defineLength r d)
    match k with
    | .index i => if n ≤ i && fixed then Run.typeError "array is not extensible"
    | .name _ => pure ()
  | _ => pure ()
  match (← Run.look fun m => e.own? m r k) with
  | none =>
    if o.extensible then Run.update r (Obj.place k d.fresh)
    else Run.typeError "object is not extensible"
  | some s =>
    if s.configurable || d.keeps s then Run.update r (Obj.place k (d.appliedTo s))
    else Run.typeError "property is not configurable"

/-- Removes a property of the object at `r` and says whether it is gone. -/
def remove (r : Ref) (k : Key) : Run Bool := do
  match (← Run.look fun m => e.own? m r k) with
  | none => return true
  | some s =>
    if s.configurable then
      Run.update r (Obj.remove k)
      return true
    else return false

end Engine

end ScriptHost.Script
