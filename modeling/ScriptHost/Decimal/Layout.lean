/-
How a double is written. The digits are the shortest that read back; a layout says where positional
notation ends and how everything else is spelled. Two layouts are in use: that of scripts and that
of host values.
-/
import ScriptHost.Decimal.Shortest
import ScriptHost.Text.Basic

namespace ScriptHost.Decimal

/-- The decisions of a number format. -/
structure Layout where
  /-- Positional notation is used for first digits at places above this … -/
  below : Int
  /-- … up to this one. -/
  above : Int
  /-- What follows a whole number in positional notation. -/
  wholeMark : String
  /-- The least number of digits of an exponent. -/
  exponentDigits : Nat
  /-- Whether a negative zero shows its sign. -/
  signedZero : Bool
  notANumber : String
  infinity : String

/-- Scripts write numbers from 10^-7 (exclusive) to below 10^21 positionally and mark nothing. -/
def Layout.script : Layout := ⟨-6, 21, "", 1, false, "NaN", "Infinity"⟩

/-- Host values are positional from 10^-4 to below 10^16, and whole numbers end in `.0`. -/
def Layout.host : Layout := ⟨-4, 16, ".0", 2, true, "nan", "inf"⟩

/-- The digits of `d` in a layout, without sign. -/
def Layout.magnitude (l : Layout) (d : Digits) : Text :=
  let cs := d.chars.map CodePoint.ofChar
  let zeros (n : Nat) : Text := List.replicate n (CodePoint.ofChar '0')
  if l.below < d.point ∧ d.point ≤ l.above then
    if (d.count : Int) ≤ d.point then cs ++ zeros (d.point.toNat - d.count) ++ l.wholeMark
    else if 0 < d.point then cs.take d.point.toNat ++ "." ++ cs.drop d.point.toNat
    else "0." ++ zeros (-d.point).toNat ++ cs
  else
    let e := d.point - 1
    let shown := Text.ofNat e.natAbs
    let mark : Text := if d.count = 1 then cs else cs.take 1 ++ "." ++ cs.drop 1
    mark ++ (if e < 0 then "e-" else "e+") ++ zeros (l.exponentDigits - shown.length) ++ shown

/-- A double written in a layout. -/
def Layout.write (l : Layout) (x : Float) : Text :=
  match decode x with
  | .notANumber => l.notANumber
  | .infinite negative => (if negative then "-" else "") ++ Text.ofString l.infinity
  | .finite negative b =>
    let sign : Text := if negative && (b.mantissa != 0 || l.signedZero) then "-" else ""
    sign ++ l.magnitude b.shortest

/-- The double nearest to `digits · 10^exponent`; far outside the range it is infinite or zero. -/
def toFloat (digits : Nat) (exponent : Int) : Float :=
  if digits = 0 then 0
  else
    let size := (digitCount digits : Int) + exponent
    if 400 < size then Float.ofBits 0x7FF0000000000000
    else if size < -400 then 0
    else if exponent < 0 then Float.ofScientific digits true (-exponent).toNat
    else Float.ofScientific digits false exponent.toNat

end ScriptHost.Decimal
