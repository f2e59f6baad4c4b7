/-
Arithmetic of scripts. All numbers are doubles; the operators on bits work on whole numbers modulo
2^32. Remainders are exact, and strings spell numbers with blanks around them.
-/
import ScriptHost.Decimal.Read
import ScriptHost.Script.Token

namespace ScriptHost.Script.Number

/-- Not a number. -/
def nan : Float := Float.ofBits 0x7FF8000000000000

def infinity : Float := Float.ofBits 0x7FF0000000000000

/-- The double of a natural number, rounded to the nearest. -/
def ofNat (n : Nat) : Float := if n < Nat.pow 2 53 then Float.ofNat n else Decimal.toFloat n 0

/-- The double of an integer. -/
def ofInt (n : Int) : Float := if n < 0 then -ofNat n.natAbs else ofNat n.natAbs

/-- The whole part of a double; zero for infinities and what is no number. -/
def truncate (x : Float) : Int :=
  match Decimal.decode x with
  | .finite negative b =>
    let n := if 0 ≤ b.exponent then b.mantissa * Nat.pow 2 b.exponent.toNat
      else b.mantissa / Nat.pow 2 (-b.exponent).toNat
    if negative then -n else n
  | _ => 0

/-- The whole part modulo 2^32, from 0 on. -/
def toBits32 (x : Float) : Nat := (truncate x % 0x100000000).toNat

/-- The number of 32 bits whose first one is the sign. -/
def ofSigned32 (n : Nat) : Float :=
  let n := n % 0x100000000
  if n < 0x80000000 then ofNat n else ofInt (n - 0x100000000 : Int)

/-- The number of 32 bits. -/
def ofUnsigned32 (n : Nat) : Float := ofNat (n % 0x100000000)

/-- The natural number below 2^32 that a double is. -/
def toNat32? (x : Float) : Option Nat :=
  let n := x.toUInt32
  if n.toFloat == x then some n.toNat else none

/-- A whole number between the ends of a range of `n`, counted from the end if it is negative. -/
def clampIndex (n : Nat) (x : Float) : Nat :=
  if x.isNaN then 0
  else if x == infinity then n
  else if x == -infinity then 0
  else
    let i := truncate x
    if i < 0 then (n + i).toNat else min i.toNat n

/-- The remainder of a division, with the sign of the dividend; it is exact. -/
def remainder (x y : Float) : Float :=
  match Decimal.decode x, Decimal.decode y with
  | .finite negative a, .finite _ b =>
    if b.mantissa = 0 then nan
    else
      let low := min a.exponent b.exponent
      let scaled (z : Decimal.Binary) : Nat := z.mantissa * Nat.pow 2 (z.exponent - low).toNat
      let m := scaled a % scaled b
      let r := if 0 ≤ low then ofNat (m * Nat.pow 2 low.toNat) else Float.scaleB (ofNat m) low
      if negative then -r else r
  | .finite _ _, .infinite _ => x
  | _, _ => nan

/-- A power; one to an infinite power is no number. -/
def power (x y : Float) : Float :=
  if y.isNaN then nan
  else if (x == 1 || x == -1) && (y == infinity || y == -infinity) then nan
  else Float.pow x y

/-- What a number is written as. -/
def text (x : Float) : Text := Decimal.Layout.script.write x

/-- Without blanks and line ends around it. -/
def trim (t : Text) : Text :=
  let blank (c : CodePoint) : Bool := Token.isBlank c || Token.isLineEnd c
  ((t.dropWhile blank).reverse.dropWhile blank).reverse

/-- The number that digits of a base spell, all of them. -/
def based (base : Nat) (digit : CodePoint → Bool) (ds : Text) : Float :=
  match Token.scanBased base digit ds with
  | some (x, []) => x
  | _ => nan

/-- A decimal or the word for infinity. -/
def unsigned (t : Text) : Float :=
  if t = Text.ofString "Infinity" then infinity else (Decimal.read? t).getD nan

/-- The number that a string spells. -/
def ofText (t : Text) : Float :=
  match trim t with
  | [] => 0
  | c :: rest =>
    let whole := c :: rest
    if c.is '-' then -unsigned rest
    else if c.is '+' then unsigned rest
    else match rest with
      | m :: ds =>
        if !c.is '0' then unsigned whole
        else if m.is 'x' || m.is 'X' then based 16 Token.isHexDigit ds
        else if m.is 'o' || m.is 'O' then based 8 Token.isOctalDigit ds
        else if m.is 'b' || m.is 'B' then based 2 (fun c => c.is '0' || c.is '1') ds
        else unsigned whole
      | [] => unsigned whole

end ScriptHost.Script.Number
