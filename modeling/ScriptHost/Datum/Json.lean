/-
The JSON form of data. It is all ASCII: what lies beyond is escaped by its UTF-16 units, so that texts with
surrogates that stand alone have a form too.
-/
import ScriptHost.Datum
import ScriptHost.Text.Utf16

namespace ScriptHost.Datum

/-! ## Texts -/

/-- The escapes that have a letter of their own. -/
def jsonLetters : List (Nat × Char) :=
  [(0x22, '"'), (0x5C, '\\'), (0x0A, 'n'), (0x0D, 'r'), (0x09, 't'), (0x0C, 'f'), (0x08, 'b')]

/-- One unit of a text between quotes. -/
def jsonUnit (u : UInt16) : Text :=
  let n := u.toNat
  match jsonLetters.find? (·.1 = n) with
  | some (_, c) => [CodePoint.ofChar '\\', CodePoint.ofChar c]
  | none => if 0x20 ≤ n ∧ n < 0x7F then [CodePoint.ofNat n] else "\\u" ++ Text.hex 4 n

/-- A text between quotes. -/
def jsonText (t : Text) : Text := "\"" ++ t.toUtf16.flatMap jsonUnit ++ "\""

/-! ## Data -/

/-- A real number; those that are not finite are named. -/
def jsonReal (x : Float) : Text :=
  match Decimal.decode x with
  | .notANumber => "NaN"
  | .infinite negative => if negative then "-Infinity" else "Infinity"
  | .finite .. => Decimal.Layout.host.write x

mutual

/-- The JSON form of a datum. -/
def json : Datum → Text
  | nothing => "null"
  | bool b => if b then "true" else "false"
  | int n => Text.ofInt n
  | real x => jsonReal x
  | text t => jsonText t
  | list items => "[" ++ jsonItems items ++ "]"
  | table entries => "\x7b" ++ jsonEntries entries ++ "\x7d"
  | other _ w => jsonText w

/-- The items of a list, with commas between. -/
def jsonItems : List Datum → Text
  | [] => []
  | [d] => d.json
  | d :: rest => d.json ++ ", " ++ jsonItems rest

/-- The entries of a table, with commas between. -/
def jsonEntries : List (Text × Datum) → Text
  | [] => []
  | [(k, d)] => jsonText k ++ ": " ++ d.json
  | (k, d) :: rest => jsonText k ++ ": " ++ d.json ++ ", " ++ jsonEntries rest

end

end ScriptHost.Datum
