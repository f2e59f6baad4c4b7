/-
Shortest decimals. A positive double is m · 2^q; the reals that round to it form an interval, closed
exactly if m is even. For one digit, two digits and so on, the two neighbours of the value on that
decimal grid are tried, and the first grid with a hit wins; of two hits the nearer is taken, of an
exact tie the even one. All comparisons are between natural numbers.
-/
namespace ScriptHost.Decimal

/-- A positive decimal: `digits` read as a number, whose first digit stands `point` places left of
the decimal point: 0.d₁d₂… · 10^point. -/
structure Digits where
  digits : Nat
  count : Nat
  point : Int
deriving DecidableEq

/-! ## The double -/

/-- A finite double without its sign: `mantissa · 2^(exponent)`. -/
structure Binary where
  mantissa : Nat
  exponent : Int
deriving DecidableEq

inductive Decoded where
  | finite (negative : Bool) (magnitude : Binary)
  | infinite (negative : Bool)
  | notANumber

/-- The parts of a double. -/
def decode (x : Float) : Decoded :=
  let bits := x.toBits.toNat
  let negative := bits / Nat.pow 2 63 == 1
  let exponent : Nat := bits / Nat.pow 2 52 % 2048
  let fraction := bits % Nat.pow 2 52
  if exponent = 2047 then if fraction = 0 then .infinite negative else .notANumber
  else if exponent = 0 then .finite negative ⟨fraction, -1074⟩
  else .finite negative ⟨Nat.pow 2 52 + fraction, (exponent : Int) - 1075⟩

/-- A fraction of natural numbers. -/
structure Ratio where
  num : Nat
  den : Nat

/-- `n · 2^e` as a fraction. -/
def Ratio.scaled (n : Nat) (e : Int) : Ratio :=
  if 0 ≤ e then ⟨n * Nat.pow 2 e.toNat, 1⟩ else ⟨n, Nat.pow 2 (-e).toNat⟩

/-! ## The interval -/

/-- Four times the value and four times the ends of its interval, over one denominator. -/
structure Interval where
  low : Nat
  value : Nat
  high : Nat
  den : Nat
  closed : Bool

/-- The interval of the reals that round to a double. Below a power of two the neighbour is at half
the distance. -/
def Binary.interval (b : Binary) : Interval :=
  let below := if b.mantissa = Nat.pow 2 52 ∧ b.exponent ≠ -1074 then 1 else 2
  let scale (n : Nat) : Nat := if 0 ≤ b.exponent then n * Nat.pow 2 b.exponent.toNat else n
  { low := scale (4 * b.mantissa - below), value := scale (4 * b.mantissa),
    high := scale (4 * b.mantissa + 2),
    den := if 0 ≤ b.exponent then 4 else 4 * Nat.pow 2 (-b.exponent).toNat
    closed := b.mantissa % 2 == 0 }

/-- The point `d · 10^e` against the interval, scaled to its denominator: is it inside? -/
def Interval.holds (i : Interval) (d : Nat) (e : Int) : Bool :=
  let (p, scale) := if 0 ≤ e then (d * Nat.pow 10 e.toNat * i.den, 1)
    else (d * i.den, Nat.pow 10 (-e).toNat)
  if i.closed then i.low * scale ≤ p && p ≤ i.high * scale
  else i.low * scale < p && p < i.high * scale

/-! ## The search -/

/-- How many decimal digits a number has. -/
def digitCount (n : Nat) : Nat := (Nat.toDigits 10 n).length

/-- How often a fraction below one must be multiplied by ten to reach one; `fuel` bounds the count. -/
def leadingZeros (den : Nat) : Nat → Nat → Nat
  | 0, _ => 0
  | fuel + 1, num => if den ≤ num then 0 else leadingZeros den fuel (num * 10) + 1

/-- The place of the first digit of `num / den`. -/
def pointOf (num den : Nat) : Int :=
  if den ≤ num then digitCount (num / den) else 1 - (leadingZeros den 400 num : Int)

/-- The nearer of the two grid points around the value that lies in the interval. -/
def Interval.onGrid (i : Interval) (e : Int) : Option Nat :=
  let (num, den) := if 0 ≤ e then (i.value, i.den * Nat.pow 10 e.toNat)
    else (i.value * Nat.pow 10 (-e).toNat, i.den)
  let d := num / den
  let twice := 2 * (num % den)
  let down := i.holds d e && d != 0
  let up := i.holds (d + 1) e
  if down && up then
    if twice < den then some d else if den < twice then some (d + 1)
    else some (if d % 2 == 0 then d else d + 1)
  else if down then some d
  else if up then some (d + 1)
  else none

/-- The first grid with a hit, from `count` digits on. -/
def Interval.search (i : Interval) (point : Int) : Nat → Nat → Digits
  | 0, count => ⟨i.value / i.den, count, point⟩
  | fuel + 1, count =>
    match i.onGrid (point - count) with
    | some d =>
      if d = Nat.pow 10 count then ⟨Nat.pow 10 (count - 1), count, point + 1⟩ else ⟨d, count, point⟩
    | none => i.search point fuel (count + 1)

/-- Drops zeros at the end. -/
def Digits.trim (d : Digits) : Nat → Digits
  | 0 => d
  | fuel + 1 =>
    if 1 < d.count ∧ d.digits % 10 = 0 then trim ⟨d.digits / 10, d.count - 1, d.point⟩ fuel else d

/-- The shortest decimal that reads back as the double; zero has the single digit 0. -/
def Binary.shortest (b : Binary) : Digits :=
  if b.mantissa = 0 then ⟨0, 1, 1⟩
  else
    let i := b.interval
    (i.search (pointOf i.value i.den) 17 1).trim 20

/-- The digits as characters, first to last. -/
def Digits.chars (d : Digits) : List Char :=
  let cs := Nat.toDigits 10 d.digits
  List.replicate (d.count - cs.length) '0' ++ cs

end ScriptHost.Decimal
