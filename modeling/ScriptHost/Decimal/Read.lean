/-
Reading decimals. A decimal is digits with at most one point among them and perhaps an exponent; it
stands for the double nearest to it.
-/
import ScriptHost.Decimal.Layout

namespace ScriptHost.Decimal

/-- The number that decimal digits spell. -/
def digitsValue (ds : Text) : Nat := ds.foldl (fun n c => n * 10 + (c.val - 0x30)) 0

/-- An exponent: its letter, perhaps a sign, and digits. -/
def exponent? (t : Text) : Option (Int × Text) :=
  match t with
  | c :: rest =>
    if c.is 'e' || c.is 'E' then
      let (negative, ds) := match rest with
        | s :: more => if s.is '-' then (true, more) else if s.is '+' then (false, more) else (false, rest)
        | [] => (false, [])
      let digits := ds.takeWhile CodePoint.isDigit
      if digits.isEmpty then none
      else
        let n : Int := digitsValue digits
        some (if negative then -n else n, ds.drop digits.length)
    else none
  | [] => none

/-- The longest decimal at the start of a text, and what follows it. -/
def scan? (t : Text) : Option (Float × Text) :=
  let whole := t.takeWhile CodePoint.isDigit
  let rest := t.drop whole.length
  let (fraction, rest) := match rest with
    | c :: more =>
      if c.is '.' then
        let f := more.takeWhile CodePoint.isDigit
        if whole.isEmpty && f.isEmpty then ([], rest) else (f, more.drop f.length)
      else ([], rest)
    | [] => ([], [])
  if whole.isEmpty && fraction.isEmpty then none
  else
    let (e, rest) := (exponent? rest).getD (0, rest)
    some (toFloat (digitsValue (whole ++ fraction)) (e - fraction.length), rest)

/-- The double that all of a text spells. -/
def read? (t : Text) : Option Float :=
  match scan? t with
  | some (x, []) => some x
  | _ => none

/-- The double that a text spells with a sign or a name for infinity or not-a-number, in any case. -/
def readSigned? (t : Text) : Option Float :=
  let (negative, body) := match t with
    | c :: rest => if c.is '-' then (true, rest) else if c.is '+' then (false, rest) else (false, t)
    | [] => (false, [])
  let lower := Text.toAsciiLower body
  let magnitude :=
    if lower = Text.ofString "inf" ∨ lower = Text.ofString "infinity" then
      some (Float.ofBits 0x7FF0000000000000)
    else if lower = Text.ofString "nan" then some (Float.ofBits 0x7FF8000000000000)
    else read? body
  magnitude.map fun x => if negative then -x else x

end ScriptHost.Decimal
