/-
JSON. A text either spells a tree or is refused with what was expected and where. Writing a tree puts
its parts together without blanks, or on lines of their own behind a gap for each level.
-/
import ScriptHost.Script.Machine
import ScriptHost.Script.Number

namespace ScriptHost.Script

namespace Json

/-! ## Writing -/

/-- A unit inside quotes. -/
def quotedUnit (u : UInt16) : Utf16 :=
  if u = 0x22 then "\\\""
  else if u = 0x5C then "\\\\"
  else if u = 0x08 then "\\b"
  else if u = 0x09 then "\\t"
  else if u = 0x0A then "\\n"
  else if u = 0x0C then "\\f"
  else if u = 0x0D then "\\r"
  else if u < 0x20 then Text.toUtf16 ("\\u" ++ Text.hex 4 u.toNat)
  else [u]

/-- A surrogate that stands alone, spelled out. -/
def spelledUnit (u : UInt16) : Utf16 := Text.toUtf16 ("\\u" ++ Text.hex 4 u.toNat)

def isHigh (u : UInt16) : Bool := 0xD800 ≤ u && u < 0xDC00

def isLow (u : UInt16) : Bool := 0xDC00 ≤ u && u < 0xE000

/-- Units inside quotes; surrogates that stand alone are spelled out. `joined` says that a high
surrogate came before a low one. -/
def quotedUnits (joined : Bool) : Utf16 → Utf16
  | [] => []
  | u :: rest =>
    if isHigh u then
      if rest.head?.any isLow then u :: quotedUnits true rest
      else spelledUnit u ++ quotedUnits false rest
    else if isLow u then (if joined then [u] else spelledUnit u) ++ quotedUnits false rest
    else quotedUnit u ++ quotedUnits false rest

/-- A string in quotes. -/
def quoted (s : Utf16) : Utf16 := "\"" ++ (quotedUnits false s ++ "\"")

/-- The parts of a list or object between its marks; with a gap each stands on a line of its own. -/
def enclosed (opening closing : String) (gap around : Utf16) (parts : List Utf16) : Utf16 :=
  if parts.isEmpty then Utf16.ofString (opening ++ closing)
  else if gap.isEmpty then
    Utf16.ofString opening ++ List.intercalate (Utf16.ofString ",") parts ++ Utf16.ofString closing
  else
    let line : Utf16 := "\n" ++ (around ++ gap)
    Utf16.ofString opening ++ line ++ List.intercalate (Utf16.ofString "," ++ line) parts ++ "\n" ++ around ++
      Utf16.ofString closing

mutual

/-- A tree as text; `around` is the gap of the levels around it. -/
def write (gap around : Utf16) : Json → Utf16
  | null => "null"
  | bool b => if b then "true" else "false"
  | number x => if x.isFinite then Text.toUtf16 (Number.text x) else "null"
  | string s => quoted s
  | array items => enclosed "[" "]" gap around (writeItems gap (around ++ gap) items)
  | object entries => enclosed "\x7b" "\x7d" gap around (writeEntries gap (around ++ gap) entries)

def writeItems (gap around : Utf16) : List Json → List Utf16
  | [] => []
  | j :: rest => write gap around j :: writeItems gap around rest

def writeEntries (gap around : Utf16) : List (Utf16 × Json) → List Utf16
  | [] => []
  | (k, j) :: rest =>
    let colon : Utf16 := if gap.isEmpty then ":" else ": "
    (quoted k ++ colon ++ write gap around j) :: writeEntries gap around rest

end

/-! ## Reading -/

/-- Why a text spells no tree: it ends too early, or something else was expected at a place, given by
what is left there. -/
inductive Refusal where
  | ended
  | at (rest : Text) (expected : Text)

/-- The place of what is left of a text, as it is told. -/
def place (whole rest : Text) : Text :=
  let before := whole.take (whole.length - rest.length)
  let line := before.countP (·.is '\n') + 1
  let column := (before.reverse.takeWhile fun c => !c.is '\n').length + 1
  "position " ++ Text.ofNat before.length ++ " (line " ++ Text.ofNat line ++ " column " ++
    Text.ofNat column ++ ")"

def Refusal.message (whole : Text) : Refusal → Text
  | ended => "Unexpected end of JSON input"
  | «at» rest expected => expected ++ " in JSON at " ++ place whole rest

def isBlank (c : CodePoint) : Bool := c.val = 0x20 || c.val = 0x09 || c.val = 0x0A || c.val = 0x0D

def skipBlanks (t : Text) : Text := t.dropWhile isBlank

/-- The units of an escape behind its backslash and what follows. -/
def readEscape (t : Text) : Except Refusal (Utf16 × Nat) :=
  match t with
  | [] => .error .ended
  | c :: rest =>
    let single (n : Nat) : Except Refusal (Utf16 × Nat) := .ok ([UInt16.ofNat n], 1)
    if c.is '"' then single 0x22
    else if c.is '\\' then single 0x5C
    else if c.is '/' then single 0x2F
    else if c.is 'b' then single 0x08
    else if c.is 'f' then single 0x0C
    else if c.is 'n' then single 0x0A
    else if c.is 'r' then single 0x0D
    else if c.is 't' then single 0x09
    else if c.is 'u' then
      let ds := (rest.take 4).takeWhile Token.isHexDigit
      if ds.length = 4 then .ok ([UInt16.ofNat (Token.hexValue ds)], 5)
      else .error (.at t "Bad Unicode escape")
    else .error (.at t "Bad escaped character")

/-- The string behind its opening quote; the units before are in reverse, and `skip` code points belong
to an escape read before. -/
def readString (before : Utf16) : Nat → Text → Except Refusal (Utf16 × Text)
  | _, [] => .error .ended
  | skip + 1, _ :: rest => readString before skip rest
  | 0, c :: rest =>
    if c.is '"' then .ok (before.reverse, rest)
    else if c.val < 0x20 then .error (.at (c :: rest) "Bad control character in string literal")
    else if c.is '\\' then
      match readEscape rest with
      | .error r => .error r
      | .ok (us, n) => readString (us.reverse ++ before) n rest
    else readString (c.toUnits.reverse ++ before) 0 rest

/-- The number at the start of a text: no zeros before it, digits on both sides of a point. -/
def readNumber (t : Text) : Except Refusal (Float × Text) :=
  let body := match t with
    | c :: rest => if c.is '-' then rest else t
    | [] => t
  let whole := body.takeWhile CodePoint.isDigit
  let rest := body.drop whole.length
  let fractionWrong := match rest with
    | c :: more => c.is '.' && !more.head?.any (·.isDigit)
    | [] => false
  let wrong := whole.isEmpty || fractionWrong ||
    (1 < whole.length && whole.head?.any (·.is '0'))
  if wrong then
    if rest.isEmpty && whole.isEmpty then .error .ended else .error (.at rest "Unexpected number")
  else match Decimal.scan? body with
    | some (x, behind) => .ok (if body.length = t.length then x else -x, behind)
    | none => .error (.at rest "Unexpected number")

/-- The words that stand for values. -/
def words : List (Text × Json) := [("null", null), ("true", bool true), ("false", bool false)]

mutual

/-- The tree at the start of a text, blanks skipped; `fuel` bounds the steps. -/
def readTree : Nat → Text → Except Refusal (Json × Text)
  | 0, _ => .error .ended
  | fuel + 1, t =>
    match skipBlanks t with
    | [] => .error .ended
    | c :: rest =>
      if c.is '\x7b' then
        match skipBlanks rest with
        | d :: more => if d.is '\x7d' then .ok (object [], more) else readEntries fuel [] rest
        | [] => .error .ended
      else if c.is '[' then
        match skipBlanks rest with
        | d :: more => if d.is ']' then .ok (array [], more) else readItems fuel [] rest
        | [] => .error .ended
      else if c.is '"' then (readString [] 0 rest).map fun (s, behind) => (string s, behind)
      else if c.is '-' || c.isDigit then
        (readNumber (c :: rest)).map fun (x, behind) => (number x, behind)
      else match words.find? fun (w, _) => w.isPrefixOf (c :: rest) with
        | some (w, j) => .ok (j, (c :: rest).drop w.length)
        | none => .error (.at (c :: rest) ("Unexpected token '" ++ [c] ++ "'"))

/-- The items of a list, at least one; those before are in reverse. -/
def readItems : Nat → List Json → Text → Except Refusal (Json × Text)
  | 0, _, _ => .error .ended
  | fuel + 1, before, t =>
    match readTree fuel t with
    | .error r => .error r
    | .ok (j, behind) =>
      match skipBlanks behind with
      | [] => .error .ended
      | c :: rest =>
        if c.is ',' then readItems fuel (j :: before) rest
        else if c.is ']' then .ok (array (j :: before).reverse, rest)
        else .error (.at (c :: rest) "Expected ',' or ']' after array element")

/-- The entries of an object, at least one; those before are in reverse. -/
def readEntries : Nat → List (Utf16 × Json) → Text → Except Refusal (Json × Text)
  | 0, _, _ => .error .ended
  | fuel + 1, before, t =>
    match skipBlanks t with
    | [] => .error .ended
    | q :: rest =>
      if !q.is '"' then
        .error (.at (q :: rest) (if before.isEmpty then "Expected property name or '\x7d'"
          else "Expected double-quoted property name"))
      else match readString [] 0 rest with
        | .error r => .error r
        | .ok (k, behind) =>
          match skipBlanks behind with
          | [] => .error .ended
          | c :: more =>
            if !c.is ':' then .error (.at (c :: more) "Expected ':' after property name")
            else match readTree fuel more with
              | .error r => .error r
              | .ok (j, behind) =>
                match skipBlanks behind with
                | [] => .error .ended
                | c :: rest =>
                  if c.is ',' then readEntries fuel ((k, j) :: before) rest
                  else if c.is '\x7d' then .ok (object ((k, j) :: before).reverse, rest)
                  else .error (.at (c :: rest) "Expected ',' or '\x7d' after property value")

end

/-- The tree that a text spells, or why it spells none. -/
def read (t : Text) : Except Text Json :=
  let told (r : Refusal) : Text := r.message t
  match readTree (2 * t.length + 2) t with
  | .error r => .error (told r)
  | .ok (j, behind) =>
    match skipBlanks behind with
    | [] => .ok j
    | rest => .error (told (.at rest "Unexpected non-whitespace character after JSON"))

/-! ## Data -/

/-- A number as the host sees it: whole where it is written with digits alone. -/
def numberDatum (x : Float) : Datum :=
  if (Number.text x).all fun c => c.isDigit || c.is '-' then .int (Number.truncate x)
  else if x.isFinite then .real x
  else .nothing

mutual

/-- A tree as the host sees it. -/
def toDatum : Json → Datum
  | null => .nothing
  | bool b => .bool b
  | number x => numberDatum x
  | string s => .text (Utf16.toText s)
  | array items => .list (toData items)
  | object entries => .table (toTable entries)

def toData : List Json → List Datum
  | [] => []
  | j :: rest => toDatum j :: toData rest

def toTable : List (Utf16 × Json) → List (Text × Datum)
  | [] => []
  | (k, j) :: rest => (Utf16.toText k, toDatum j) :: toTable rest

end

end Json

end ScriptHost.Script
