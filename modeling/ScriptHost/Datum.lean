/-
Data. The values that cross between a script and its host, that settings are read from, and that log
records carry: nothing, truth values, whole and real numbers, texts, lists, and tables in order.
-/
import ScriptHost.Text.Quoted
import ScriptHost.Decimal.Layout

namespace ScriptHost

/-- A datum. -/
inductive Datum where
  | nothing
  | bool (b : Bool)
  | int (n : Int)
  | real (x : Float)
  | text (t : Text)
  | list (items : List Datum)
  | table (entries : List (Text × Datum))
  /-- A value of some other kind, known by its kind and its written form only. -/
  | other (kind written : Text)
deriving Inhabited

namespace Datum

instance : Coe Text Datum := ⟨text⟩

/-! ## Written forms -/

mutual

/-- The full written form: texts are quoted, lists in brackets, tables in braces. -/
def written : Datum → Text
  | nothing => "None"
  | bool b => if b then "True" else "False"
  | int n => Text.ofInt n
  | real x => Decimal.Layout.host.write x
  | text t => t.quoted
  | list items => "[" ++ writtenItems items ++ "]"
  | table entries => "\x7b" ++ writtenEntries entries ++ "\x7d"
  | other _ w => w

/-- The items of a list, with commas between. -/
def writtenItems : List Datum → Text
  | [] => []
  | [d] => d.written
  | d :: rest => d.written ++ ", " ++ writtenItems rest

/-- The entries of a table, with commas between. -/
def writtenEntries : List (Text × Datum) → Text
  | [] => []
  | [(k, d)] => k.quoted ++ ": " ++ d.written
  | (k, d) :: rest => k.quoted ++ ": " ++ d.written ++ ", " ++ writtenEntries rest

end

/-- The plain form: a text is itself, all else as written. -/
def shown : Datum → Text
  | text t => t
  | d => d.written

/-- What a datum is called by its kind. -/
def kindName : Datum → Text
  | nothing => "NoneType"
  | bool _ => "bool"
  | int _ => "int"
  | real _ => "float"
  | text _ => "str"
  | list _ => "list"
  | table _ => "dict"
  | other kind _ => kind

/-- Nothing, false, zero and everything empty count as false. -/
def truthy : Datum → Bool
  | nothing => false
  | bool b => b
  | int n => n != 0
  | real x => x != 0
  | text t => !t.isEmpty
  | list items => !items.isEmpty
  | table entries => !entries.isEmpty
  | other _ _ => true

/-- The entry of a table under a key. -/
def lookup? (key : Text) (entries : List (Text × Datum)) : Option Datum :=
  (entries.find? (·.1 = key)).map (·.2)

end Datum

end ScriptHost
