/-
UTF-16. Scripts hold their strings as 16-bit units; the host holds code points. A code point above
U+FFFF is a pair of units, every other one is a single unit, surrogates that stand alone included.
Reading units back joins each high surrogate with a low one that follows it.
-/
import ScriptHost.Text.Basic

namespace ScriptHost

/-- A string of a script: UTF-16 units in order. -/
abbrev Utf16 := List UInt16

namespace CodePoint

/-- The units of one code point. -/
def toUnits (c : CodePoint) : Utf16 :=
  if c.val < 0x10000 then [UInt16.ofNat c.val]
  else
    let n := c.val - 0x10000
    [UInt16.ofNat (0xD800 + n / 0x400), UInt16.ofNat (0xDC00 + n % 0x400)]

/-- The code point of a unit that stands alone. -/
def ofUnit (u : UInt16) : CodePoint :=
  ⟨u.toNat, by have h := u.toNat_lt; omega⟩

/-- The code point of a pair of units, if they are a high and a low surrogate. -/
def ofPair? (u v : UInt16) : Option CodePoint :=
  if h : (0xD800 ≤ u.toNat ∧ u.toNat < 0xDC00) ∧ (0xDC00 ≤ v.toNat ∧ v.toNat < 0xE000) then
    some ⟨0x10000 + (u.toNat - 0xD800) * 0x400 + (v.toNat - 0xDC00), by omega⟩
  else none

end CodePoint

/-- The units of a text. -/
def Text.toUtf16 (t : Text) : Utf16 := t.flatMap CodePoint.toUnits

namespace Utf16

/-- The units of a string. -/
def ofString (s : String) : Utf16 := (Text.ofString s).toUtf16

instance : Coe String Utf16 := ⟨ofString⟩

/-- The text that the units spell. -/
def toText : Utf16 → Text
  | [] => []
  | [u] => [CodePoint.ofUnit u]
  | u :: v :: rest =>
    match CodePoint.ofPair? u v with
    | some c => c :: toText rest
    | none => CodePoint.ofUnit u :: toText (v :: rest)

/-- Lexicographic order by unit. -/
def lt : Utf16 → Utf16 → Bool
  | [], [] => false
  | [], _ :: _ => true
  | _ :: _, [] => false
  | a :: s, b :: t => a < b || (a == b && lt s t)

end Utf16

end ScriptHost
