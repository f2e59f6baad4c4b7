/-
Validation. A model reads its fields from a table of data; each field that does not fit is a problem,
and the problems of a model are told together, in the order of its fields. Truth values are read
laxly, from numbers and words; texts are not.
-/
import ScriptHost.Decimal.Read
import ScriptHost.Datum
import ScriptHost.Text.Utf8

namespace ScriptHost.Validation

/-- Why a datum does not fit a field. -/
inductive Misfit where
  | missing
  | notText
  | unreadableText
  | tooShort
  | notBool
  | unclearBool
  | notReal
  | unclearReal
  | negative
  /-- A rule of the field's own is broken. -/
  | rule (text : Text)

namespace Misfit

def kind : Misfit → Text
  | missing => "missing"
  | notText => "string_type"
  | unreadableText => "string_unicode"
  | tooShort => "string_too_short"
  | notBool => "bool_type"
  | unclearBool => "bool_parsing"
  | notReal => "float_type"
  | unclearReal => "float_parsing"
  | negative => "greater_than_equal"
  | rule _ => "value_error"

def message : Misfit → Text
  | missing => "Field required"
  | notText => "Input should be a valid string"
  | unreadableText =>
    "Input should be a valid string, unable to parse raw data as a unicode string"
  | tooShort => "String should have at least 1 character"
  | notBool => "Input should be a valid boolean"
  | unclearBool => "Input should be a valid boolean, unable to interpret input"
  | notReal => "Input should be a valid number"
  | unclearReal => "Input should be a valid number, unable to parse string as a number"
  | negative => "Input should be greater than or equal to 0"
  | rule text => "Value error, " ++ text

end Misfit

/-- A misfit with its field and the datum that was given. -/
structure Problem where
  field : Text
  misfit : Misfit
  input : Datum

/-! ## Telling problems -/

/-- A written form of more than 50 bytes, shortened in the middle to 25 and 24 of them. -/
def shortened (t : Text) : Text :=
  if (Utf8.encode t).length ≤ 50 then t
  else Utf8.upTo 25 t ++ "..." ++ (Utf8.upTo 24 t.reverse).reverse

def Problem.lines (p : Problem) : Text :=
  p.field ++ "\n  " ++ p.misfit.message ++ " [type=" ++ p.misfit.kind ++ ", input_value=" ++
    shortened p.input.written ++ ", input_type=" ++ p.input.kindName ++ "]"

/-- The problems of a model told together. -/
def report (model : String) (problems : List Problem) : Text :=
  let n := problems.length
  Text.ofNat n ++ (if n = 1 then " validation error for " else " validation errors for ") ++ model ++
    "\n" ++ Text.join "\n" (problems.map Problem.lines)

/-! ## Reading fields -/

def textOf : Datum → Except Misfit Text
  | .text t => .ok t
  | _ => .error .notText

/-- A text without surrogates and with something in it. -/
def filledTextOf (d : Datum) : Except Misfit Text :=
  match textOf d with
  | .error e => .error e
  | .ok t =>
    if t.any CodePoint.isSurrogate then .error .unreadableText
    else if t.isEmpty then .error .tooShort
    else .ok t

def yesWords : List String := ["1", "on", "t", "true", "y", "yes"]

def noWords : List String := ["0", "off", "f", "false", "n", "no"]

/-- The truth value of a whole number. -/
def boolOfInt (n : Int) : Except Misfit Bool :=
  if n = 0 then .ok false else if n = 1 then .ok true else .error .unclearBool

/-- A truth value: itself, a number that is 0 or 1, or one of twelve words in any case. -/
def boolOf : Datum → Except Misfit Bool
  | .bool b => .ok b
  | .int n => if -0x8000000000000000 ≤ n ∧ n < 0x8000000000000000 then boolOfInt n else .error .notBool
  | .real x =>
    if x == 0 then .ok false
    else if x == 1 then .ok true
    else match Decimal.decode x with
      | .finite _ b =>
        -- whole numbers of less than 64 bits are unclear, all others no truth values
        let whole := if 0 ≤ b.exponent then true else b.mantissa % Nat.pow 2 (-b.exponent).toNat = 0
        let small := b.exponent < 11
        if whole && small then .error .unclearBool else .error .notBool
      | _ => .error .notBool
  | .text t =>
    let word := Text.toAsciiLower t
    if t.any CodePoint.isSurrogate then .error .unreadableText
    else if yesWords.any (fun w => Text.ofString w = word) then .ok true
    else if noWords.any (fun w => Text.ofString w = word) then .ok false
    else .error .unclearBool
  | _ => .error .notBool

/-- White space: the characters that Unicode says are blank. -/
def isBlank (c : CodePoint) : Bool :=
  c.val = 0x20 || (0x09 ≤ c.val && c.val ≤ 0x0D) || c.val = 0x85 || c.val = 0xA0 || c.val = 0x1680 ||
    (0x2000 ≤ c.val && c.val ≤ 0x200A) || c.val = 0x2028 || c.val = 0x2029 || c.val = 0x202F ||
    c.val = 0x205F || c.val = 0x3000

def trim (t : Text) : Text := ((t.dropWhile isBlank).reverse.dropWhile isBlank).reverse

/-- `t` without its underscores, if each stands alone between two other characters. -/
def joined? (t : Text) : Option Text :=
  let parts := Text.split '_' t
  if parts.any List.isEmpty then none else some parts.flatten

/-- The real number of a text: with blanks around it, or with underscores in it. -/
def realOfText (t : Text) : Except Misfit Float :=
  if t.any CodePoint.isSurrogate then .error .unreadableText
  else match (Decimal.readSigned? (trim t)).or ((joined? t).bind Decimal.readSigned?) with
    | some x => .ok x
    | none => .error .unclearReal

/-- A real number that is not below zero: itself, a truth value, a text of one, or a whole number
that is not beyond all doubles. -/
def measureOf (d : Datum) : Except Misfit Float :=
  let found : Except Misfit Float := match d with
    | .real x => .ok x
    | .int n =>
      let size := Decimal.toFloat n.natAbs 0
      if size.isInf then .error .notReal else .ok (if 0 ≤ n then size else -size)
    | .bool b => .ok (if b then 1 else 0)
    | .text t => realOfText t
    | _ => .error .notReal
  match found with
  | .error e => .error e
  | .ok x => if x < 0 then .error .negative else .ok x

/-- The datum of a field, if it is given, read. -/
def field {α : Type} (data : List (Text × Datum)) (name : String) (read : Datum → Except Misfit α)
    (default : Option α) : Except Problem α :=
  match Datum.lookup? (Text.ofString name) data with
  | some d => (read d).mapError fun m => ⟨Text.ofString name, m, d⟩
  | none =>
    match default with
    | some a => .ok a
    | none => .error ⟨Text.ofString name, .missing, .table data⟩

/-- The problem of a field, if it has one. -/
def problemOf {α : Type} : Except Problem α → List Problem
  | .ok _ => []
  | .error p => [p]

end ScriptHost.Validation
