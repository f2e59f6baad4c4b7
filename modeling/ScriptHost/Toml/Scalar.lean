/-
The simple values of a settings document: strings on one line and on several, numbers, and moments.
A moment is kept as its kind and its written form, since no setting takes one.
-/
import ScriptHost.Toml.Place

namespace ScriptHost.Toml

/-! ## Strings -/

/-- A string between apostrophes, the first behind. -/
def literalString : Reader Text := fun t => do
  let (body, rest) ← upTo "'" isIllegal false t
  return (body, rest.drop 1)

/-- The code point of `count` hexadecimal digits. -/
def hexPoint (count : Nat) : Reader Text := fun t =>
  match (t.take count).mapM CodePoint.hexValue? with
  | some ds =>
    if ds.length ≠ count then fail t "Invalid hex value"
    else
      let n := ds.foldl (fun n d => n * 16 + d) 0
      let rest := t.drop count
      if n < 0xD800 ∨ (0xE000 ≤ n ∧ n < 0x110000) then .ok ([CodePoint.ofNat n], rest)
      else fail rest "Escaped character is not a Unicode scalar value"
  | none => fail t "Invalid hex value"

/-- What stands for an escape, its backslash behind. In a string of several lines a backslash at the
end of a line drops the white space after it. -/
def escape (lines : Bool) : Reader Text := fun t =>
  match t with
  | [] => fail [] "Unescaped '\\' in a string"
  | c :: rest =>
    if lines && isBlankOrLine c then
      if c.is '\n' then .ok ([], rest.dropWhile isBlankOrLine)
      else match skipBlanks rest with
        | [] => .ok ([], [])
        | d :: more =>
          if d.is '\n' then .ok ([], more.dropWhile isBlankOrLine)
          else fail (d :: more) "Unescaped '\\' in a string"
    else if c.is 'u' then hexPoint 4 rest
    else if c.is 'U' then hexPoint 8 rest
    else if c.is 'b' then .ok ([CodePoint.ofChar '\x08'], rest)
    else if c.is 't' then .ok ("\t", rest)
    else if c.is 'n' then .ok ("\n", rest)
    else if c.is 'f' then .ok ([CodePoint.ofChar '\x0c'], rest)
    else if c.is 'r' then .ok ("\r", rest)
    else if c.is '"' || c.is '\\' then .ok ([c], rest)
    else fail rest "Unescaped '\\' in a string"

/-- The body of a string between double quotes, the first of them behind. -/
def basicBody (lines : Bool) : Nat → Reader Text
  | 0, _ => fail [] "Unterminated string"
  | _ + 1, [] => fail [] "Unterminated string"
  | fuel + 1, c :: rest =>
    if c.is '"' then
      if !lines then .ok ([], rest)
      else match rest with
        | d :: e :: more =>
          if d.is '"' && e.is '"' then .ok ([], more)
          else (basicBody lines fuel rest).map fun (b, r) => (c :: b, r)
        | _ => (basicBody lines fuel rest).map fun (b, r) => (c :: b, r)
    else if c.is '\\' then do
      let (part, rest) ← escape lines rest
      let (body, rest) ← basicBody lines fuel rest
      return (part ++ body, rest)
    else if (if lines then isIllegalInLines c else isIllegal c) then
      fail (c :: rest) ("Illegal character " ++ Text.quoted [c])
    else (basicBody lines fuel rest).map fun (b, r) => (c :: b, r)

def basicString : Reader Text := fun t => basicBody false (t.length + 1) t

/-- A string of several lines, its opening quotes behind: a line end right after them is dropped,
and up to two quotes more than the closing three belong to the string. -/
def stringOfLines (quote : Char) : Reader Text := fun t => do
  let t := match t with
    | c :: rest => if c.is '\n' then rest else t
    | [] => []
  let (body, rest) ←
    if quote = '"' then basicBody true (t.length + 1) t
    else do
      let (body, rest) ← upTo "'''" isIllegalInLines false t
      pure (body, rest.drop 3)
  match rest with
  | c :: more =>
    if c.is quote then
      match more with
      | d :: more' => if d.is quote then return (body ++ [c, d], more') else return (body ++ [c], more)
      | [] => return (body ++ [c], more)
    else return (body, rest)
  | [] => return (body, rest)

/-! ## Numbers -/

/-- Digits of a class with single underscores between them; none if the text begins with no digit. -/
def digitRun (ok : CodePoint → Bool) : Text → Text × Text
  | [] => ([], [])
  | [c] => if ok c then ([c], []) else ([], [c])
  | c :: d :: rest =>
    if ok c then
      if d.is '_' then
        match rest with
        | e :: _ => if ok e then
            let (ds, r) := digitRun ok rest
            (c :: ds, r)
          else ([c], d :: rest)
        | [] => ([c], d :: rest)
      else
        let (ds, r) := digitRun ok (d :: rest)
        (c :: ds, r)
    else ([], c :: d :: rest)

/-- The number that digits spell in a base. -/
def valueIn (base : Nat) (ds : Text) : Nat :=
  ds.foldl (fun n c => n * base + (c.hexValue?.getD 0)) 0

/-- A number in base 16, 8 or 2, its leading zero and letter included. -/
def basedNumber? (t : Text) : Option (Datum × Text) :=
  let read (base : Nat) (ok : CodePoint → Bool) (rest : Text) : Option (Datum × Text) :=
    match digitRun ok rest with
    | ([], _) => none
    | (ds, r) => some (.int (valueIn base ds), r)
  match t with
  | z :: x :: rest =>
    if !z.is '0' then none
    else if x.is 'x' then read 16 (·.hexValue?.isSome) rest
    else if x.is 'b' then read 2 (fun c => c.is '0' || c.is '1') rest
    else if x.is 'o' then read 8 (fun c => c.isDigit && c.val < 0x38) rest
    else none
  | _ => none

/-- The digits after `mark`, if it is followed by any. -/
def digitsAfter (mark : CodePoint → Bool) (t : Text) : Option (Text × Text) :=
  match t with
  | c :: rest =>
    if mark c then
      match digitRun CodePoint.isDigit rest with
      | ([], _) => none
      | found => some found
    else none
  | [] => none

/-- How many digits a whole decimal number may have. -/
def digitLimit : Nat := 4300

/-- A decimal number: whole, or real if it has a fraction or an exponent. Of a whole number with too
many digits only how many they are. -/
def decimalNumber? (t : Text) : Option (Except Nat Datum × Text) := do
  let (negative, t) := match t with
    | c :: rest => if c.is '-' then (true, rest) else if c.is '+' then (false, rest) else (false, t)
    | [] => (false, [])
  let (whole, rest) ← match t with
    | c :: rest => if c.is '0' then some ([c], rest) else
        match digitRun CodePoint.isDigit t with
        | ([], _) => none
        | found => some found
    | [] => none
  let (fraction, rest) := (digitsAfter (·.is '.') rest).getD ([], rest)
  let exponent : Option (Int × Text) := match rest with
    | c :: more =>
      if c.is 'e' || c.is 'E' then
        match more with
        | s :: ds =>
          if s.is '-' then match digitRun CodePoint.isDigit ds with
            | ([], _) => none
            | (ds, r) => some (-(valueIn 10 ds : Int), r)
          else match digitRun CodePoint.isDigit (if s.is '+' then ds else more) with
            | ([], _) => none
            | (ds, r) => some ((valueIn 10 ds : Int), r)
        | [] => none
      else none
    | [] => none
  if fraction.isEmpty && exponent.isNone then
    if digitLimit < whole.length then some (.error whole.length, rest)
    else
      let n := (valueIn 10 whole : Int)
      some (.ok (.int (if negative then -n else n)), rest)
  else
    let (e, rest) := exponent.getD (0, rest)
    let x := Decimal.toFloat (valueIn 10 (whole ++ fraction)) (e - fraction.length)
    some (.ok (.real (if negative then -x else x)), rest)

/-- Infinity and not-a-number, with or without sign. -/
def namedNumber? (t : Text) : Option (Datum × Text) :=
  let infinity := Float.ofBits 0x7FF0000000000000
  let missing := Float.ofBits 0x7FF8000000000000
  [("inf", infinity), ("nan", missing), ("+inf", infinity), ("-inf", -infinity), ("+nan", missing),
    ("-nan", missing)].findSome? fun (name, x) =>
      (after? (Text.ofString name) t).map fun rest => (.real x, rest)

/-! ## Moments -/

/-- A number of exactly `count` digits within bounds. -/
def fixedNumber? (count low high : Nat) (t : Text) : Option (Nat × Text) :=
  let ds := t.take count
  if ds.length = count ∧ ds.all CodePoint.isDigit then
    let n := valueIn 10 ds
    if low ≤ n ∧ n ≤ high then some (n, t.drop count) else none
  else none

/-- A time of day: hour, minute, second, microsecond. -/
structure TimeOfDay where
  hour : Nat
  minute : Nat
  second : Nat
  micro : Nat

def timeOfDay? (t : Text) : Option (TimeOfDay × Text) := do
  let (hour, t) ← fixedNumber? 2 0 23 t
  let t ← after? ":" t
  let (minute, t) ← fixedNumber? 2 0 59 t
  let t ← after? ":" t
  let (second, t) ← fixedNumber? 2 0 59 t
  let fraction := match after? "." t with
    | some more => more.takeWhile CodePoint.isDigit
    | none => []
  if fraction.isEmpty then some (⟨hour, minute, second, 0⟩, t)
  else
    let six := fraction.take 6
    let micro := valueIn 10 six * Nat.pow 10 (6 - six.length)
    some (⟨hour, minute, second, micro⟩, t.drop (1 + fraction.length))

/-- The fields of a time of day as they are written; seconds only if they are not all zero. -/
def TimeOfDay.fields (d : TimeOfDay) : List Nat :=
  [d.hour, d.minute] ++ (if d.micro ≠ 0 then [d.second, d.micro]
    else if d.second ≠ 0 then [d.second] else [])

def fieldsText (ns : List Nat) : Text := Text.join ", " (ns.map Text.ofNat)

/-- The written form of an offset from universal time, in minutes. -/
def offsetText (minutes : Int) : Text :=
  if minutes = 0 then "datetime.timezone.utc"
  else
    let seconds := minutes * 60
    let inside : Text := if seconds < 0 then
        "days=-1, seconds=" ++ Text.ofInt (seconds + 86400)
      else "seconds=" ++ Text.ofInt seconds
    "datetime.timezone(datetime.timedelta(" ++ inside ++ "))"

def offset? (t : Text) : Option (Int × Text) := do
  match t with
  | c :: rest =>
    if c.is 'Z' || c.is 'z' then some (0, rest)
    else if c.is '+' || c.is '-' then
      let (hours, r) ← fixedNumber? 2 0 23 rest
      let r ← after? ":" r
      let (minutes, r) ← fixedNumber? 2 0 59 r
      let n : Int := hours * 60 + minutes
      some (if c.is '-' then -n else n, r)
    else none
  | [] => none

def daysIn (year month : Nat) : Nat :=
  if month = 2 then if year % 4 = 0 ∧ (year % 100 ≠ 0 ∨ year % 400 = 0) then 29 else 28
  else if month = 4 ∨ month = 6 ∨ month = 9 ∨ month = 11 then 30 else 31

/-- A date, with a time of day and an offset if they follow; `none` inside for a day that no
calendar has. -/
def moment? (t : Text) : Option (Option Datum × Text) := do
  let (year, t) ← fixedNumber? 4 0 9999 t
  let t ← after? "-" t
  let (month, t) ← fixedNumber? 2 1 12 t
  let t ← after? "-" t
  let (day, t) ← fixedNumber? 2 1 31 t
  let valid : Bool := year ≠ 0 && day ≤ daysIn year month
  let time := match t with
    | c :: rest => if c.is 'T' || c.is 't' || c.is ' ' then timeOfDay? rest else none
    | [] => none
  match time with
  | none =>
    let d : Datum := .other "date" ("datetime.date(" ++ fieldsText [year, month, day] ++ ")")
    some (if valid then some d else none, t)
  | some (time, rest) =>
    let (zone, rest) : Text × Text := match offset? rest with
      | some (minutes, r) => (", tzinfo=" ++ offsetText minutes, r)
      | none => ([], rest)
    let d : Datum := .other "datetime" ("datetime.datetime(" ++
      fieldsText ([year, month, day] ++ time.fields) ++ zone ++ ")")
    some (if valid then some d else none, rest)

/-- A time of day on its own. -/
def localTime? (t : Text) : Option (Datum × Text) :=
  (timeOfDay? t).map fun (d, rest) =>
    (.other "time" ("datetime.time(" ++ fieldsText d.fields ++ ")"), rest)

end ScriptHost.Toml
