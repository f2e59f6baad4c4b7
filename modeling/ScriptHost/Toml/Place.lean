/-
Places in a settings document. A reader works on what is left of the document, so a place is what is
left there; line and column are counted only when a fault is told.
-/
import ScriptHost.Datum

namespace ScriptHost.Toml

/-- Why the reading of a document ends. -/
inductive Fault where
  /-- What is wrong with it, and what is left of it there. -/
  | malformed (problem rest : Text)
  /-- A whole number has so many digits, which are too many. -/
  | tooLong (digits : Nat)

/-- A reader of one part of a document. -/
abbrev Reader (α : Type) := Text → Except Fault (α × Text)

def fail {α : Type} (rest : Text) (problem : Text) : Except Fault α := .error (.malformed problem rest)

/-- The line after this prefix of a document, and the column on it, both from one. -/
def lineAndColumn : Nat → Nat → Text → Nat × Nat
  | line, column, [] => (line, column)
  | line, column, c :: rest =>
    if c.is '\n' then lineAndColumn (line + 1) 1 rest else lineAndColumn line (column + 1) rest

/-- A problem as told of the whole document, with its place. -/
def told (document problem rest : Text) : Text :=
  let place : Text :=
    if rest.isEmpty then "end of document"
    else
      let (line, column) := lineAndColumn 1 1 (document.take (document.length - rest.length))
      "line " ++ Text.ofNat line ++ ", column " ++ Text.ofNat column
  problem ++ " (at " ++ place ++ ")"

/-! ## Marks -/

def isBlank (c : CodePoint) : Bool := c.is ' ' || c.is '\t'

def isBlankOrLine (c : CodePoint) : Bool := isBlank c || c.is '\n'

def isControl (c : CodePoint) : Bool := c.val < 0x20 || c.val = 0x7F

/-- Controls that may not stand in comments and one-line strings. -/
def isIllegal (c : CodePoint) : Bool := isControl c && !c.is '\t'

/-- Controls that may not stand in strings of several lines. -/
def isIllegalInLines (c : CodePoint) : Bool := isIllegal c && !c.is '\n'

def isBareKey (c : CodePoint) : Bool := c.isAsciiLetter || c.isDigit || c.is '-' || c.is '_'

def skipBlanks (t : Text) : Text := t.dropWhile isBlank

/-- What is left after `mark`, if the text begins with it. -/
def after? : Text → Text → Option Text
  | [], rest => some rest
  | _ :: _, [] => none
  | m :: mark, c :: rest => if c = m then after? mark rest else none

def startsWith (mark : String) (t : Text) : Bool := (after? (Text.ofString mark) t).isSome

/-- The text before the first `mark` and what begins with it, if there is one. -/
def splitAt? (mark : Text) : Text → Option (Text × Text)
  | [] => if mark.isEmpty then some ([], []) else none
  | c :: rest =>
    if (after? mark (c :: rest)).isSome then some ([], c :: rest)
    else (splitAt? mark rest).map fun (a, b) => (c :: a, b)

/-- What begins with the first illegal code point, if there is one. -/
def firstIllegal? (illegal : CodePoint → Bool) (t : Text) : Option Text :=
  match t.dropWhile (!illegal ·) with
  | [] => none
  | rest => some rest

/-- The text up to `mark` or, where that is allowed, the end; it may hold nothing illegal. -/
def upTo (mark : Text) (illegal : CodePoint → Bool) (endAllowed : Bool) : Reader Text := fun t =>
  let found : Except Fault (Text × Text) := match splitAt? mark t with
    | some parts => .ok parts
    | none => if endAllowed then .ok (t, []) else fail [] ("Expected " ++ mark.quoted)
  match found with
  | .error e => .error e
  | .ok (body, rest) =>
    match firstIllegal? illegal body with
    | none => .ok (body, rest)
    | some bad =>
      fail (bad ++ rest) ("Found invalid character " ++ Text.quoted (bad.take 1))

/-- What is left after a comment, if one stands here. -/
def skipComment (t : Text) : Except Fault Text :=
  match t with
  | c :: rest =>
    if c.is '#' then (upTo "\n" isIllegal true rest).map (·.2) else .ok t
  | [] => .ok []

/-- What is left after blanks, line ends and comments; `fuel` is at least the length of the text. -/
def skipBetween : Nat → Text → Except Fault Text
  | 0, t => .ok t
  | fuel + 1, t => do
    let rest ← skipComment (t.dropWhile isBlankOrLine)
    if rest.length = t.length then .ok rest else skipBetween fuel rest

end ScriptHost.Toml
