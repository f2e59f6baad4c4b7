/-
Values of scripts. A value is one of five primitive kinds or a reference to an object of the heap.
Properties are known by keys: array indices are keys of their own, all other names are strings, and
every string has exactly one key.
-/
import ScriptHost.Text.Utf16

namespace ScriptHost.Script

/-- A reference to an object: its place in the heap. -/
structure Ref where
  index : Nat
deriving DecidableEq, Inhabited

/-- A value. -/
inductive Value where
  | undefined
  | null
  | bool (b : Bool)
  | number (x : Float)
  | string (s : Utf16)
  | object (r : Ref)
deriving Inhabited

/-- A value that is no object. -/
inductive Primitive where
  | undefined
  | null
  | bool (b : Bool)
  | number (x : Float)
  | string (s : Utf16)
deriving Inhabited

namespace Primitive

/-- As one of all values. -/
def value : Primitive → Value
  | undefined => .undefined
  | null => .null
  | bool b => .bool b
  | number x => .number x
  | string s => .string s

end Primitive

namespace Value

instance : Coe Utf16 Value := ⟨string⟩

/-- Undefined and null have no properties. -/
def isNullish : Value → Bool
  | undefined | null => true
  | _ => false

def isUndefined : Value → Bool
  | undefined => true
  | _ => false

/-- The reference of an object. -/
def ref? : Value → Option Ref
  | object r => some r
  | _ => none

/-- Undefined, null, false, zero, not-a-number and the empty string count as false. -/
def truthy : Value → Bool
  | undefined | null => false
  | bool b => b
  | number x => !(x == 0 || x.isNaN)
  | string s => !s.isEmpty
  | object _ => true

/-- Equality without conversion: numbers by value, objects by identity. -/
def strictEq : Value → Value → Bool
  | undefined, undefined => true
  | null, null => true
  | bool a, bool b => a == b
  | number x, number y => x == y
  | string s, string t => s == t
  | object r, object q => r == q
  | _, _ => false

/-- Equality that tells the two zeros apart and takes not-a-number for itself. -/
def same : Value → Value → Bool
  | number x, number y => if x.isNaN then y.isNaN else x.toBits == y.toBits
  | a, b => strictEq a b

end Value

/-! ## Keys -/

/-- The key of a property. -/
inductive Key where
  /-- An array index: below 2^32 - 1. -/
  | index (n : Nat)
  | name (s : Utf16)
deriving DecidableEq

namespace Key

/-- The least number that is no array index. -/
def indexLimit : Nat := 0xFFFFFFFF

/-- The value of decimal units; nothing if one is no digit. -/
def digits? : Utf16 → Nat → Option Nat
  | [], n => some n
  | u :: rest, n =>
    if 0x30 ≤ u.toNat ∧ u.toNat ≤ 0x39 then digits? rest (n * 10 + (u.toNat - 0x30)) else none

/-- The array index that a string spells in its only form, without zeros before it. -/
def index? (s : Utf16) : Option Nat :=
  match s with
  | [] => none
  | u :: rest =>
    if u.toNat = 0x30 then if rest.isEmpty then some 0 else none
    else if 10 < s.length then none
    else match digits? s 0 with
      | some n => if n < indexLimit then some n else none
      | none => none

/-- The key of a string. -/
def ofUnits (s : Utf16) : Key :=
  match index? s with
  | some n => index n
  | none => name s

/-- The key of a number of a list. -/
def ofNat (n : Nat) : Key := if n < indexLimit then index n else name (Text.ofNat n).toUtf16

/-- The string of a key. -/
def units : Key → Utf16
  | index n => (Text.ofNat n).toUtf16
  | name s => s

/-- The text of a key. -/
def text (k : Key) : Text := Utf16.toText k.units

instance : Coe String Key := ⟨fun s => ofUnits (Utf16.ofString s)⟩

end Key

end ScriptHost.Script
