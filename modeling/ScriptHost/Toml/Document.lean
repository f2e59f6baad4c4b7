/-
Settings documents. A document is read statement by statement into one table; beside the table the
reader keeps which names are closed: a table that was declared, and everything inside an inline
value. Main function: `Toml.read?`, the table of a document or the first fault in it.
-/
import ScriptHost.Toml.Scalar

namespace ScriptHost.Toml

/-- A dotted name, outermost part first. -/
abbrev Key := List Text

/-- How a name is closed. -/
inductive Mark where
  /-- Declared as a table; it may not be declared again. -/
  | declared
  /-- Inside an inline value; nothing may be added to it. -/
  | frozen
deriving DecidableEq

/-- A mark on a name, and on every name below it if it is deep. -/
structure Closing where
  key : Key
  mark : Mark
  deep : Bool

def isMarked (closings : List Closing) (mark : Mark) (key : Key) : Bool :=
  !key.isEmpty && closings.any fun c =>
    c.mark = mark && (c.key = key || (c.deep && c.key.isPrefixOf key))

/-- Entries of a table, in order. -/
abbrev Entries := List (Text × Datum)

/-- A key as it is told in faults: its parts in parentheses, a single part with a comma after it. -/
def Key.told (key : Key) : Text :=
  match key with
  | [k] => "(" ++ k.quoted ++ ",)"
  | ks => "(" ++ Text.join ", " (ks.map Text.quoted) ++ ")"

/-! ## The table -/

/-- `f` on the entry under a key, which is made if it is missing. -/
def changeEntry (key : Text) (f : Option Datum → Option Datum) : Entries → Option Entries
  | [] => (f none).map fun d => [(key, d)]
  | (k, d) :: rest =>
    if k = key then (f (some d)).map fun d => (k, d) :: rest
    else (changeEntry key f rest).map ((k, d) :: ·)

/-- `f` on the entries of the table behind a path, which is made as far as it is missing. Of an array
of tables the last is meant if `arrays` is set. Fails if something else stands in the way. -/
def changeTable (arrays : Bool) (f : Entries → Option Entries) : Key → Entries → Option Entries
  | [], entries => f entries
  | k :: path, entries =>
    changeEntry k (fun old =>
      match old with
      | none => (changeTable arrays f path []).map .table
      | some (.table inner) => (changeTable arrays f path inner).map .table
      | some (.list items) =>
        if arrays then
          match items.reverse with
          | .table inner :: before =>
            (changeTable arrays f path inner).map fun t => .list (before.reverse ++ [.table t])
          | _ => none
        else none
      | some _ => none) entries

/-- A new empty table at the end of the array of tables under a key. -/
def appendTable (key : Text) : Entries → Option Entries :=
  changeEntry key fun old =>
    match old with
    | none => some (.list [.table []])
    | some (.list items) => some (.list (items ++ [.table []]))
    | some _ => none

/-! ## Keys and values -/

/-- One part of a key: bare, or a string on one line. -/
def keyPart : Reader Text := fun t =>
  match t with
  | c :: rest =>
    if isBareKey c then .ok (t.takeWhile isBareKey, t.dropWhile isBareKey)
    else if c.is '\'' then literalString rest
    else if c.is '"' then basicString rest
    else fail t "Invalid initial character for a key part"
  | [] => fail [] "Invalid initial character for a key part"

/-- The parts of a key after the first; `fuel` is at least the length of the text. -/
def keyParts : Nat → Reader Key
  | 0, t => .ok ([], t)
  | fuel + 1, t =>
    match t with
    | c :: rest =>
      if c.is '.' then do
        let (part, rest) ← keyPart (skipBlanks rest)
        let (parts, rest) ← keyParts fuel (skipBlanks rest)
        return (part :: parts, rest)
      else .ok ([], t)
    | [] => .ok ([], [])

def key : Reader Key := fun t => do
  let (part, rest) ← keyPart t
  let (parts, rest) ← keyParts rest.length (skipBlanks rest)
  return (part :: parts, rest)

/-- A moment, number or named number. -/
def plainValue : Reader Datum := fun t =>
  match moment? t with
  | some (some d, rest) => .ok (d, rest)
  | some (none, _) => fail t "Invalid date or datetime"
  | none =>
    match (localTime? t).or (basedNumber? t), decimalNumber? t with
    | some found, _ => .ok found
    | none, some (.ok d, rest) => .ok (d, rest)
    | none, some (.error digits, _) => .error (.tooLong digits)
    | none, none =>
      match namedNumber? t with
      | some found => .ok found
      | none => fail t "Invalid value"

def isCompound : Datum → Bool
  | .table _ => true
  | .list _ => true
  | _ => false

mutual

/-- A value; `fuel` is at least the length of the text. -/
def value : Nat → Reader Datum
  | 0, t => fail t "Invalid value"
  | fuel + 1, t =>
    match t with
    | c :: rest =>
      if c.is '"' then
        if startsWith "\"\"\"" t then (stringOfLines '"' (t.drop 3)).map fun (s, r) => (.text s, r)
        else (basicString rest).map fun (s, r) => (.text s, r)
      else if c.is '\'' then
        if startsWith "'''" t then (stringOfLines '\'' (t.drop 3)).map fun (s, r) => (.text s, r)
        else (literalString rest).map fun (s, r) => (.text s, r)
      else if startsWith "true" t then .ok (.bool true, t.drop 4)
      else if startsWith "false" t then .ok (.bool false, t.drop 5)
      else if c.is '[' then do
        let rest ← skipBetween rest.length rest
        if startsWith "]" rest then return (.list [], rest.drop 1)
        let (items, rest) ← arrayItems fuel rest
        return (.list items, rest)
      else if c.is '{' then do
        let rest := skipBlanks rest
        if startsWith "\x7d" rest then return (.table [], rest.drop 1)
        let (entries, rest) ← inlineEntries fuel [] [] rest
        return (.table entries, rest)
      else plainValue t
    | [] => plainValue []

/-- The items of an array from the next one on, with the closing bracket. -/
def arrayItems : Nat → Reader (List Datum)
  | 0, t => fail t "Unclosed array"
  | fuel + 1, t => do
    let (item, rest) ← value fuel t
    let rest ← skipBetween rest.length rest
    match rest with
    | c :: more =>
      if c.is ']' then return ([item], more)
      else if c.is ',' then
        let more ← skipBetween more.length more
        if startsWith "]" more then return ([item], more.drop 1)
        let (items, rest) ← arrayItems fuel more
        return (item :: items, rest)
      else fail rest "Unclosed array"
    | [] => fail [] "Unclosed array"

/-- A key, an equals sign and a value. -/
def keyAndValue : Nat → Reader (Key × Datum)
  | 0, t => fail t "Invalid value"
  | fuel + 1, t => do
    let (k, rest) ← key t
    match rest with
    | c :: more =>
      if c.is '=' then
        let (v, rest) ← value fuel (skipBlanks more)
        return ((k, v), rest)
      else fail rest "Expected '=' after a key in a key/value pair"
    | [] => fail [] "Expected '=' after a key in a key/value pair"

/-- The entries of an inline table from the next one on, with the closing brace. -/
def inlineEntries : Nat → List Closing → Entries → Reader Entries
  | 0, _, _, t => fail t "Unclosed inline table"
  | fuel + 1, closings, entries, t => do
    let ((k, v), rest) ← keyAndValue fuel t
    if isMarked closings .frozen k then
      fail rest ("Cannot mutate immutable namespace " ++ k.told)
    else
      let stem := k.getLastD []
      -- a path that is blocked and a name that is taken are told apart
      match changeTable false (fun inner => some inner) k.dropLast entries with
      | none => fail rest "Cannot overwrite a value"
      | some _ =>
        let put (inner : Entries) : Option Entries :=
          if inner.any (·.1 = stem) then none else some (inner ++ [(stem, v)])
        match changeTable false put k.dropLast entries with
        | none => fail rest ("Duplicate inline table key " ++ stem.quoted)
        | some entries =>
          match skipBlanks rest with
          | c :: more =>
            if c.is '}' then return (entries, more)
            else if c.is ',' then
              let closings := if isCompound v then ⟨k, .frozen, true⟩ :: closings else closings
              inlineEntries fuel closings entries (skipBlanks more)
            else fail (c :: more) "Unclosed inline table"
          | [] => fail [] "Unclosed inline table"

end

/-! ## Statements -/

/-- What is read so far. -/
structure Progress where
  entries : Entries := []
  closings : List Closing := []
  /-- Tables opened by dotted keys; they are closed by the next declaration. -/
  opened : List Key := []
  header : Key := []

/-- Declares a table. -/
def declareTable (p : Progress) : Reader Progress := fun t => do
  let (k, rest) ← key (skipBlanks t)
  if isMarked p.closings .declared k || isMarked p.closings .frozen k then
    fail rest ("Cannot declare " ++ k.told ++ " twice")
  else
    let closings := ⟨k, .declared, false⟩ :: p.closings
    match changeTable true some k p.entries with
    | none => fail rest "Cannot overwrite a value"
    | some entries =>
      match after? "]" rest with
      | none => fail rest "Expected ']' at the end of a table declaration"
      | some rest => return ({ p with entries, closings, header := k }, rest)

/-- Declares the next table of an array of tables. -/
def declareItem (p : Progress) : Reader Progress := fun t => do
  let (k, rest) ← key (skipBlanks t)
  if isMarked p.closings .frozen k then
    fail rest ("Cannot mutate immutable namespace " ++ k.told)
  else
    let closings := ⟨k, .declared, false⟩ :: p.closings.filter fun c => !k.isPrefixOf c.key
    match changeTable true (appendTable (k.getLastD [])) k.dropLast p.entries with
    | none => fail rest "Cannot overwrite a value"
    | some entries =>
      match after? "]]" rest with
      | none => fail rest "Expected ']]' at the end of an array declaration"
      | some rest => return ({ p with entries, closings, header := k }, rest)

/-- The tables that a dotted key passes through, outermost first. -/
def passedTables (header key : Key) : List Key :=
  (List.range (key.length - 1)).map fun i => header ++ key.take (i + 1)

/-- Enters a key with its value. -/
def enter (p : Progress) : Reader Progress := fun t => do
  let ((k, v), rest) ← keyAndValue (3 * t.length + 3) t
  let passed := passedTables p.header k
  let parent := p.header ++ k.dropLast
  match passed.find? (isMarked p.closings .declared) with
  | some taken => fail rest ("Cannot redefine namespace " ++ Key.told taken)
  | none =>
    if isMarked p.closings .frozen parent then
      fail rest ("Cannot mutate immutable namespace " ++ Key.told parent)
    else
      let stem := k.getLastD []
      let put (inner : Entries) : Option Entries :=
        if inner.any (·.1 = stem) then none else some (inner ++ [(stem, v)])
      match changeTable true put parent p.entries with
      | none => fail rest "Cannot overwrite a value"
      | some entries =>
        let closings := if isCompound v then ⟨p.header ++ k, .frozen, true⟩ :: p.closings
          else p.closings
        return ({ p with entries, closings, opened := passed ++ p.opened }, rest)

/-- The statements from here to the end; `fuel` is above the length of the text. -/
def statements : Nat → Progress → Text → Except Fault Entries
  | 0, p, _ => .ok p.entries
  | fuel + 1, p, t =>
    match skipBlanks t with
    | [] => .ok p.entries
    | c :: rest => do
      if c.is '\n' then statements fuel p rest
      else
        let (p, left) ←
          if isBareKey c || c.is '\'' || c.is '"' then
            (enter p (c :: rest)).map fun (p, r) => (p, skipBlanks r)
          else if c.is '[' then
            let p := { p with
              closings := p.opened.map (⟨·, .declared, false⟩) ++ p.closings, opened := [] }
            let declared := match after? "[" rest with
              | some more => declareItem p more
              | none => declareTable p rest
            declared.map fun (p, r) => (p, skipBlanks r)
          else if c.is '#' then .ok (p, c :: rest)
          else fail (c :: rest) "Invalid statement"
        match ← skipComment left with
        | [] => return p.entries
        | d :: more =>
          if d.is '\n' then statements fuel p more
          else fail (d :: more) "Expected newline or end of document after a statement"

/-- Line ends of two marks become line ends of one. -/
def joinLineEnds : Text → Text
  | [] => []
  | [c] => [c]
  | c :: d :: rest =>
    if c.is '\r' && d.is '\n' then d :: joinLineEnds rest else c :: joinLineEnds (d :: rest)

/-- Why a document gives no table. -/
inductive Failure where
  /-- The message of the first fault in it. -/
  | malformed (message : Text)
  | tooLong (digits : Nat)
deriving DecidableEq

/-- The table of a document, or why there is none. -/
def read? (document : Text) : Except Failure Entries :=
  let t := joinLineEnds document
  (statements (t.length + 1) {} t).mapError fun f =>
    match f with
    | .malformed problem rest => .malformed (told t problem rest)
    | .tooLong digits => .tooLong digits

end ScriptHost.Toml
