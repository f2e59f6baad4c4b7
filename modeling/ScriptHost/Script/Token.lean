/-
Tokens. A source is cut into names, numbers, strings and marks; blanks, line ends and comments stand
between them and count only as to whether a line ended. A piece of source that is no token becomes a
token of its own that holds the complaint: it is raised when a reader comes to it, not before.
-/
import ScriptHost.Text.Letter
import ScriptHost.Decimal.Read
import ScriptHost.Text.Utf16

namespace ScriptHost.Script

/-- What a token is. -/
inductive Lexeme where
  /-- A name; `escaped` if it is not written plainly. -/
  | name (s : Utf16) (escaped : Bool)
  /-- A word that no name may be. -/
  | word (s : String)
  /-- A number; `legacy` if it is written in octal by a leading zero. -/
  | number (x : Float) (legacy : Bool)
  /-- A string; `plain` if nothing in it is escaped, `legacy` if it has octal escapes. -/
  | string (s : Utf16) (plain legacy : Bool)
  | mark (s : String)
  | finish
  | bad (complaint : Text)
deriving Inhabited

/-- A token with its place: the source from its first code point on, and that behind it. -/
structure Token where
  lexeme : Lexeme
  /-- Whether a line ended before the token. -/
  afterLine : Bool
  start : Text
  behind : Text
deriving Inhabited

namespace Token

/-- The source between two places of which the second lies behind the first. -/
def between (start behind : Text) : Text := start.take (start.length - behind.length)

/-- The source of a token. -/
def text (t : Token) : Text := between t.start t.behind

/-! ## Classes of code points -/

def isLineEnd (c : CodePoint) : Bool :=
  c.val = 0x0A || c.val = 0x0D || c.val = 0x2028 || c.val = 0x2029

def isBlank (c : CodePoint) : Bool :=
  c.val = 0x20 || c.val = 0x09 || c.val = 0x0B || c.val = 0x0C || c.val = 0xA0 || c.val = 0xFEFF ||
    c.val = 0x1680 || (0x2000 ≤ c.val && c.val ≤ 0x200A) || c.val = 0x202F || c.val = 0x205F ||
    c.val = 0x3000

def isOctalDigit (c : CodePoint) : Bool := 0x30 ≤ c.val && c.val ≤ 0x37

def isHexDigit (c : CodePoint) : Bool := c.hexValue?.isSome

/-! ## Between tokens -/

/-- Where a walk between tokens is. -/
inductive Gap where
  | open
  | lineComment
  /-- At the second mark of a comment's start or end. -/
  | entering | leaving
  | comment
deriving DecidableEq

/-- Walks over blanks, line ends and comments, and says whether a line ended and what follows;
nothing if a comment does not end. -/
def skipGap : Gap → Bool → Text → Option (Bool × Text)
  | .entering, _, [] | .comment, _, [] => none
  | _, line, [] => some (line, [])
  | .lineComment, line, c :: rest =>
    if isLineEnd c then skipGap .open true rest else skipGap .lineComment line rest
  | .entering, line, _ :: rest => skipGap .comment line rest
  | .leaving, line, _ :: rest => skipGap .open line rest
  | .comment, line, c :: rest =>
    if c.is '*' && rest.head?.any (·.is '/') then skipGap .leaving line rest
    else skipGap .comment (line || isLineEnd c) rest
  | .open, line, c :: rest =>
    if isBlank c then skipGap .open line rest
    else if isLineEnd c then skipGap .open true rest
    else if c.is '/' && rest.head?.any (·.is '/') then skipGap .lineComment line rest
    else if c.is '/' && rest.head?.any (·.is '*') then skipGap .entering line rest
    else some (line, c :: rest)

/-! ## Escapes -/

/-- The value of hexadecimal digits. -/
def hexValue (ds : Text) : Nat := ds.foldl (fun n c => n * 16 + c.hexValue?.getD 0) 0

/-- The code point that `u` and digits spell, and how many code points they take with the `u`. -/
def unicodeEscape? (t : Text) : Option (CodePoint × Nat) :=
  match t with
  | u :: rest =>
    if !u.is 'u' then none
    else match rest with
      | b :: more =>
        if b.is '\x7b' then
          let ds := more.takeWhile isHexDigit
          let n := hexValue ds
          if ds.isEmpty || 0x10FFFF < n || !(more.drop ds.length).head?.any (·.is '\x7d') then none
          else some (CodePoint.ofNat n, ds.length + 3)
        else
          let ds := (rest.take 4).takeWhile isHexDigit
          if ds.length = 4 then some (CodePoint.ofNat (hexValue ds), 5) else none
      | [] => none
  | [] => none

/-- The units of an escape behind its backslash, how many code points it takes, and whether it is
octal. -/
def escape? (t : Text) : Option (Utf16 × Nat × Bool) :=
  match t with
  | [] => none
  | c :: rest =>
    let plain (n : Nat) : Option (Utf16 × Nat × Bool) := some ([UInt16.ofNat n], 1, false)
    if c.is 'n' then plain 0x0A
    else if c.is 't' then plain 0x09
    else if c.is 'r' then plain 0x0D
    else if c.is 'b' then plain 0x08
    else if c.is 'v' then plain 0x0B
    else if c.is 'f' then plain 0x0C
    else if c.is 'x' then
      let ds := (rest.take 2).takeWhile isHexDigit
      if ds.length = 2 then some ([UInt16.ofNat (hexValue ds)], 3, false) else none
    else if c.is 'u' then (unicodeEscape? t).map fun (p, n) => (p.toUnits, n, false)
    else if isOctalDigit c then
      let ds := (t.take (if c.val ≤ 0x33 then 3 else 2)).takeWhile isOctalDigit
      let value := ds.foldl (fun n d => n * 8 + (d.val - 0x30)) 0
      let following := (t.drop ds.length).head?
      some ([UInt16.ofNat value], ds.length, value != 0 || 1 < ds.length || following.any (·.isDigit))
    else if c.val = 0x0D then some ([], if rest.head?.any (·.val = 0x0A) then 2 else 1, false)
    else if isLineEnd c then some ([], 1, false)
    else some (c.toUnits, 1, false)

/-! ## Marks and words -/

/-- Strings with the texts they are found by. -/
def spelled (l : List String) : List (Text × String) := l.map fun s => (Text.ofString s, s)

/-- The marks of more than one code point, the longer ones first. -/
def longMarks : List (Text × String) := spelled
  [">>>=", "===", "!==", ">>>", "<<=", ">>=", "**=", "...", "==", "!=", "<=", ">=", "&&", "||", "++",
    "--", "<<", ">>", "+=", "-=", "*=", "/=", "%=", "&=", "|=", "^=", "**", "=>"]

/-- The words that no name may be. -/
def words : List (Utf16 × String) :=
  ["null", "false", "true", "if", "else", "return", "var", "this", "delete", "void", "typeof", "new",
    "in", "instanceof", "do", "while", "for", "break", "continue", "switch", "case", "default",
    "throw", "try", "catch", "finally", "function", "debugger", "with", "class", "const", "enum",
    "export", "extends", "import", "super"].map fun s => (Utf16.ofString s, s)

/-! ## Strings, names and numbers -/

/-- A string or name while it is read; the units are in reverse. -/
structure Partial where
  units : Utf16 := []
  plain : Bool := true
  legacy : Bool := false

def Partial.push (p : Partial) (us : Utf16) : Partial := { p with units := us.reverse ++ p.units }

/-- The string behind its opening quote; `skip` code points belong to an escape read before. -/
def scanString (quote : CodePoint) : Nat → Partial → Text → Lexeme × Text
  | _, _, [] => (.bad "unexpected end of string", [])
  | skip + 1, p, _ :: rest => scanString quote skip p rest
  | 0, p, c :: rest =>
    if c = quote then (.string p.units.reverse p.plain p.legacy, rest)
    else if c.is '\n' || c.is '\r' then (.bad "unexpected end of string", rest)
    else if c.is '\\' then
      if rest.isEmpty then (.bad "unexpected end of string", [])
      else match escape? rest with
        | none => (.bad "malformed escape sequence in string literal", rest)
        | some (us, n, octal) =>
          scanString quote n { p.push us with plain := false, legacy := p.legacy || octal } rest
    else scanString quote 0 (p.push c.toUnits) rest

/-- The lexeme of a name as it is read: a word stands for itself if it is written plainly. -/
def nameOrWord (p : Partial) : Lexeme :=
  let s := p.units.reverse
  if p.plain then
    match words.find? (·.1 = s) with
    | some (_, w) => .word w
    | none => .name s false
  else .name s true

/-- The name at the start of a text. -/
def scanName : Nat → Partial → Text → Lexeme × Text
  | _, p, [] => (nameOrWord p, [])
  | skip + 1, p, _ :: rest => scanName skip p rest
  | 0, p, c :: rest =>
    if c.isNamePart then scanName 0 (p.push c.toUnits) rest
    else if c.is '\\' then
      match unicodeEscape? rest with
      | some (x, n) =>
        if x.isNamePart then scanName n { p.push x.toUnits with plain := false } rest
        else (.bad "invalid Unicode escape", rest)
      | none => (.bad "invalid Unicode escape", rest)
    else (nameOrWord p, c :: rest)

/-- A whole number in a base behind its two-letter mark. -/
def scanBased (base : Nat) (digit : CodePoint → Bool) (t : Text) : Option (Float × Text) :=
  let ds := t.takeWhile digit
  if ds.isEmpty then none
  else some (Decimal.toFloat (ds.foldl (fun n c => n * base + c.hexValue?.getD 0) 0) 0, t.drop ds.length)

/-- The number at the start of a text, whether it is octal by a leading zero, and what follows. -/
def scanNumber (t : Text) : Option (Float × Bool × Text) :=
  let decimal := (Decimal.scan? t).map fun (x, rest) => (x, false, rest)
  match t with
  | z :: m :: rest =>
    if !z.is '0' then decimal
    else if m.is 'x' || m.is 'X' then (scanBased 16 isHexDigit rest).map fun (x, r) => (x, false, r)
    else if m.is 'o' || m.is 'O' then (scanBased 8 isOctalDigit rest).map fun (x, r) => (x, false, r)
    else if m.is 'b' || m.is 'B' then
      (scanBased 2 (fun c => c.is '0' || c.is '1') rest).map fun (x, r) => (x, false, r)
    else if m.isDigit then
      let ds := (m :: rest).takeWhile CodePoint.isDigit
      if ds.all isOctalDigit then (scanBased 8 isOctalDigit (m :: rest)).map fun (x, r) => (x, true, r)
      else (Decimal.scan? t).map fun (x, r) => (x, true, r)
    else decimal
  | _ => decimal

/-! ## Tokens -/

/-- The token at the start of a text that does not begin with a gap, and what follows. -/
def scan (t : Text) : Lexeme × Text :=
  match t with
  | [] => (.finish, [])
  | c :: rest =>
    if c.isNameStart then scanName 0 {} t
    else if c.is '\\' then
      match unicodeEscape? rest with
      | some (x, _) => if x.isNameStart then scanName 0 {} t else (.bad "unexpected character", rest)
      | none => (.bad "unexpected character", rest)
    else if c.is '"' || c.is '\'' then scanString c 0 {} rest
    else if c.isDigit || (c.is '.' && rest.head?.any (·.isDigit)) then
      match scanNumber t with
      | some (x, legacy, behind) =>
        if behind.head?.any (·.isNamePart) then (.bad "invalid number literal", behind)
        else (.number x legacy, behind)
      | none => (.bad "invalid number literal", rest)
    else if 0x80 ≤ c.val then (.bad "unexpected character", rest)
    else match longMarks.find? (·.1.isPrefixOf t) with
      | some (m, s) => (.mark s, t.drop m.length)
      | none => (.mark (String.singleton (Char.ofNat c.val)), rest)

/-- The tokens of a text, with one for its end; there are at most `fuel` before it. -/
def scanAll : Nat → Text → List Token
  | 0, t => [⟨.finish, false, t, t⟩]
  | fuel + 1, t =>
    match skipGap .open false t with
    | none => [⟨.bad "unexpected end of comment", false, t, []⟩]
    | some (line, start) =>
      let (lexeme, behind) := scan start
      match lexeme with
      | .finish => [⟨lexeme, line, start, behind⟩]
      | .bad _ => [⟨lexeme, line, start, behind⟩]
      | _ => ⟨lexeme, line, start, behind⟩ :: scanAll fuel behind

/-- The tokens of a source. -/
def ofSource (t : Text) : List Token := scanAll (t.length + 1) t

end Token

end ScriptHost.Script
