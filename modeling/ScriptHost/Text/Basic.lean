/-
Texts. A text is a list of code points, and a code point may be a surrogate: paths, sources and
results of scripts can hold surrogates that stand alone, which `String` has no room for. This
module holds the two types, the embedding of `String`, and the few searches the host needs.
-/
namespace ScriptHost

/-- A code point: any number below 0x110000, surrogates included. -/
structure CodePoint where
  val : Nat
  lt : val < 0x110000
deriving DecidableEq

/-- A text: code points in order. -/
abbrev Text := List CodePoint

/-- A run of bytes. -/
abbrev Bytes := List UInt8

namespace CodePoint

/-- The code point of a character. -/
def ofChar (c : Char) : CodePoint :=
  ⟨c.toNat, by
    have h : c.toNat.isValidChar := c.valid
    cases h with
    | inl h => omega
    | inr h => omega⟩

instance : Coe Char CodePoint := ⟨ofChar⟩

/-- The code point of a number, U+FFFD for a number that is none. -/
def ofNat (n : Nat) : CodePoint := if h : n < 0x110000 then ⟨n, h⟩ else ⟨0xFFFD, by omega⟩

/-- The code point of a number known to be small. -/
def ofByte (b : UInt8) : CodePoint :=
  ⟨b.toNat, by have h := b.toNat_lt; omega⟩

/-- The character of a code point, if it is not a surrogate. -/
def toChar? (c : CodePoint) : Option Char :=
  if h : c.val.isValidChar then some (Char.ofNatAux c.val h) else none

def isSurrogate (c : CodePoint) : Bool := 0xD800 ≤ c.val && c.val ≤ 0xDFFF

/-- Whether `c` is the character `x`. -/
def is (c : CodePoint) (x : Char) : Bool := c.val == x.toNat

def isDigit (c : CodePoint) : Bool := 0x30 ≤ c.val && c.val ≤ 0x39

/-- Letters of the ASCII alphabet. -/
def isAsciiLetter (c : CodePoint) : Bool :=
  (0x41 ≤ c.val && c.val ≤ 0x5A) || (0x61 ≤ c.val && c.val ≤ 0x7A)

/-- ASCII lower case; every other code point is unchanged. -/
def toAsciiLower (c : CodePoint) : CodePoint :=
  if 0x41 ≤ c.val ∧ c.val ≤ 0x5A then ofNat (c.val + 32) else c

/-- The value of a hexadecimal digit. -/
def hexValue? (c : CodePoint) : Option Nat :=
  if 0x30 ≤ c.val ∧ c.val ≤ 0x39 then some (c.val - 0x30)
  else if 0x41 ≤ c.val ∧ c.val ≤ 0x46 then some (c.val - 0x37)
  else if 0x61 ≤ c.val ∧ c.val ≤ 0x66 then some (c.val - 0x57)
  else none

end CodePoint

namespace Text

/-- The text of a string. -/
def ofString (s : String) : Text := s.toList.map CodePoint.ofChar

instance : Coe String Text := ⟨ofString⟩

/-- The text as a string, if no surrogate stands in it. -/
def toString? (t : Text) : Option String :=
  (t.mapM CodePoint.toChar?).map String.ofList

/-- The decimal digits of a number. -/
def ofNat (n : Nat) : Text := ofString (toString n)

/-- The decimal digits of an integer, with a minus sign if it is negative. -/
def ofInt (n : Int) : Text := ofString (toString n)

/-- `parts` with `sep` between neighbours. -/
def join (sep : Text) (parts : List Text) : Text := List.intercalate sep parts

/-- The text before and after the first `c`, if there is one. -/
def cut? (c : CodePoint) : Text → Option (Text × Text)
  | [] => none
  | x :: rest => if x = c then some ([], rest) else (cut? c rest).map fun (a, b) => (x :: a, b)

/-- The parts between the `c`s; one more part than there are `c`s. -/
def split (c : CodePoint) : Text → List Text
  | [] => [[]]
  | x :: rest =>
    if x = c then [] :: split c rest
    else match split c rest with
      | [] => [[x]]
      | part :: parts => (x :: part) :: parts

/-- ASCII letters in lower case. -/
def toAsciiLower (t : Text) : Text := t.map CodePoint.toAsciiLower

/-- `t` filled with blanks on the right up to `width` code points. -/
def padRight (width : Nat) (t : Text) : Text := t ++ List.replicate (width - t.length) (CodePoint.ofChar ' ')

/-- Lexicographic order by code point. -/
def le : Text → Text → Bool
  | [], _ => true
  | _ :: _, [] => false
  | a :: s, b :: t => a.val < b.val || (a = b && le s t)

/-- A number in lower case hexadecimal, with zeros before it up to `width` digits. -/
def hex (width n : Nat) : Text :=
  let digits := (Nat.toDigits 16 n).map CodePoint.ofChar
  List.replicate (width - digits.length) (CodePoint.ofChar '0') ++ digits

end Text

end ScriptHost
