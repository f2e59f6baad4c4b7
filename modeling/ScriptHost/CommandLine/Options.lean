/-
The options of the command line. Options may stand before and after the paths, which must come in one
run; a long option may be cut short as long as it stays the only one it could be, and takes its value
from behind an equals sign or from the next argument. After a double dash everything is a path.

All arguments are sorted into options and words first; only then are they taken in order, so an option
that could be several is complained of before anything else happens.
-/
import ScriptHost.Settings.Load

namespace ScriptHost.CommandLine

/-- The options. -/
inductive Flag where
  | help | config | bootstrap | haltOnError | logJson | logLevel | version
deriving DecidableEq

/-- What the options were found to say. -/
structure Options where
  paths : List Text := []
  config : Text := Settings.defaultPath
  bootstrap : Option Text := none
  haltOnError : Bool := false
  logJson : Bool := false
  logLevel : Option Text := none

/-- What the command line asks for. -/
inductive Request where
  | run (o : Options)
  | help
  | version
  /-- It is misused; the text says how. -/
  | misuse (text : Text)
  /-- It breaks the reading of options. -/
  | broken (f : Fault)

namespace Flag

/-- The option strings, in order. -/
def table : List (Text × Flag) :=
  [("-h", help), ("--help", help), ("--config", config), ("--bootstrap", bootstrap),
    ("--halt-on-error", haltOnError), ("--log-json", logJson), ("--log-level", logLevel),
    ("--version", version)].map fun (s, o) => (Text.ofString s, o)

/-- Whether an option takes a value. -/
def takesValue : Flag → Bool
  | config | bootstrap | logLevel => true
  | _ => false

/-- An option as complaints call it. -/
def shown (o : Flag) : Text :=
  Text.join "/" ((table.filter (·.2 = o)).map (·.1))

/-- The option of an option string. -/
def find? (s : Text) : Option Flag := (table.find? (·.1 = s)).map (·.2)

end Flag

/-! ## Sorting arguments -/

/-- What stands in one argument with an option: whether an equals sign stands between, and what. -/
structure Attached where
  equals : Bool
  text : Text

/-- An option as it was found. -/
structure Found where
  option : Flag
  /-- The option string that it was found under. -/
  name : Text
  attached : Option Attached := none

/-- An argument after sorting. -/
inductive Item where
  | word (t : Text)
  /-- The double dash. -/
  | dashes
  | option (f : Found)
  | unknown (t : Text)

def dash : CodePoint := CodePoint.ofChar '-'

def isDash (c : CodePoint) : Bool := c = dash

def equalsSign : CodePoint := CodePoint.ofChar '='

/-- A text up to its first equals sign, and what follows that. -/
def cutEquals (t : Text) : Text × Option Attached :=
  match Text.cut? equalsSign t with
  | some (name, rest) => (name, some ⟨true, rest⟩)
  | none => (t, none)

/-- The options that a long argument could be. -/
def longCandidates (t : Text) : List Found :=
  let (start, attached) := cutEquals t
  (Flag.table.filter fun (s, _) => start.isPrefixOf s).map fun (s, o) => ⟨o, s, attached⟩

/-- The options that a short argument could be. -/
def shortCandidates (t : Text) : List Found :=
  Flag.table.filterMap fun (s, o) =>
    if s = t.take 2 then some ⟨o, s, some ⟨false, t.drop 2⟩⟩
    else if t.isPrefixOf s then some ⟨o, s, none⟩
    else none

/-- Whether an argument looks like a negative number. -/
def isNegativeNumber (t : Text) : Bool :=
  match t with
  | [] => false
  | c :: body =>
    let whole := body.takeWhile CodePoint.isDigit
    let rest := body.drop whole.length
    isDash c && match rest with
      | [] => !whole.isEmpty
      | p :: fraction => p.is '.' && !fraction.isEmpty && fraction.all CodePoint.isDigit

/-- An argument that starts with a dash and is no option in full. -/
def sortDashed (t : Text) : Except Text Item :=
  let candidates := if t.take 2 = [dash, dash] then longCandidates t else shortCandidates t
  match candidates with
  | [f] => .ok (.option f)
  | [] =>
    if isNegativeNumber t || t.contains (CodePoint.ofChar ' ') then .ok (.word t) else .ok (.unknown t)
  | fs => .error ("ambiguous option: " ++ t ++ " could match " ++ Text.join ", " (fs.map (·.name)))

/-- An argument before any double dash. -/
def sortArgument (t : Text) : Except Text Item :=
  match t with
  | [] => .ok (.word t)
  | c :: rest =>
    if !isDash c then .ok (.word t)
    else match Flag.find? t with
      | some o => .ok (.option ⟨o, t, none⟩)
      | none =>
        if rest.isEmpty then .ok (.word t)
        else
          let (name, attached) := cutEquals t
          match attached, Flag.find? name with
          | some a, some o => .ok (.option ⟨o, name, some a⟩)
          | _, _ => sortDashed t

/-- All arguments, sorted; or the complaint about one that could be several options. -/
def sortArguments : List Text → Except Text (List Item)
  | [] => .ok []
  | t :: rest =>
    if t = [dash, dash] then .ok (.dashes :: rest.map Item.word)
    else match sortArgument t, sortArguments rest with
      | .error e, _ => .error e
      | .ok _, .error e => .error e
      | .ok i, .ok is => .ok (i :: is)

/-! ## Taking arguments -/

/-- What was taken so far. -/
structure Taken where
  options : Options := {}
  /-- Whether a run of paths was taken. -/
  sawPaths : Bool := false
  /-- What nothing took. -/
  extra : List Text := []

/-- The texts of a run of words; the first double dash in it is dropped. -/
def Item.texts : List Item → List Text
  | [] => []
  | .dashes :: rest => texts rest
  | .word t :: rest | .unknown t :: rest => t :: texts rest
  | .option f :: rest => f.name :: texts rest

/-- The texts of a run of words as they stand. -/
def Item.allTexts : List Item → List Text
  | [] => []
  | .dashes :: rest => [dash, dash] :: allTexts rest
  | .word t :: rest | .unknown t :: rest => t :: allTexts rest
  | .option f :: rest => f.name :: allTexts rest

def Item.isOption : Item → Bool
  | .option _ | .unknown _ => true
  | _ => false

/-- Takes a run of words: the first run are the paths, any other is left over. -/
def Taken.words (t : Taken) (run : List Item) : Taken :=
  if t.sawPaths then { t with extra := t.extra ++ Item.allTexts run }
  else { t with sawPaths := true, options := { t.options with paths := Item.texts run } }

/-- Sets an option that takes a value. -/
def Options.set (o : Flag) (value : Text) (os : Options) : Options :=
  match o with
  | .config => { os with config := value }
  | .bootstrap => { os with bootstrap := some value }
  | .logLevel => { os with logLevel := some value }
  | _ => os

/-- What an option that takes no value asks for at once, or the options with it set. -/
def Options.flag (o : Flag) (os : Options) : Except Request Options :=
  match o with
  | .help => .error .help
  | .version => .error .version
  | .haltOnError => .ok { os with haltOnError := true }
  | .logJson => .ok { os with logJson := true }
  | _ => .ok os

def complaint (o : Flag) (text : Text) : Request :=
  .misuse ("argument " ++ o.shown ++ ": " ++ text)

/-- An option that takes no value, with something attached to it. To a short option other short ones
may be attached, but nothing behind an equals sign or a dash. -/
def attachedToFlag (o : Flag) (short equals : Bool) : Text → Request
  | [] => complaint o ("ignored explicit argument " ++ Text.quoted [])
  | c :: rest =>
    if !short || equals || isDash c then
      complaint o ("ignored explicit argument " ++ Text.quoted (c :: rest))
    else match Flag.find? [dash, c], rest with
      | none, _ => .help
      | some _, [] => .help
      | some next, e :: more =>
        if e = equalsSign then attachedToFlag next short true more
        else attachedToFlag next short false (e :: more)

/-- Takes an option, with its value from what follows if it needs one; yields what is left. -/
def Taken.option (t : Taken) (f : Found) (rest : List Item) : Except Request (Taken × List Item) :=
  if f.option.takesValue then
    match f.attached with
    | some a =>
      if a.text = [dash, dash] then
        .error (.broken (.value (some "not enough values to unpack (expected 1, got 0)")))
      else .ok ({ t with options := t.options.set f.option a.text }, rest)
    | none =>
      match rest with
      | .word v :: more => .ok ({ t with options := t.options.set f.option v }, more)
      | _ => .error (complaint f.option "expected one argument")
  else match f.attached with
    | some a => .error (attachedToFlag f.option (f.name.take 2 ≠ [dash, dash]) a.equals a.text)
    | none => (t.options.flag f.option).map fun os => ({ t with options := os }, rest)

/-- Takes all arguments in order; `fuel` is at least their number. -/
def take : Nat → Taken → List Item → Except Request Taken
  | 0, t, _ => .ok t
  | _, t, [] => .ok t
  | fuel + 1, t, .option f :: rest =>
    match t.option f rest with
    | .error r => .error r
    | .ok (t, rest) => take fuel t rest
  | fuel + 1, t, .unknown x :: rest => take fuel { t with extra := t.extra ++ [x] } rest
  | fuel + 1, t, i :: rest =>
    let items := i :: rest
    let run := items.takeWhile fun i => !i.isOption
    take fuel (t.words run) (items.drop run.length)

/-- What a command line asks for. -/
def Request.ofArguments (arguments : List Text) : Request :=
  match sortArguments arguments with
  | .error text => .misuse text
  | .ok items =>
    match take (items.length + 1) {} items with
    | .error r => r
    | .ok t =>
      if t.extra.isEmpty then .run t.options
      else .misuse ("unrecognized arguments: " ++ Text.join " " t.extra)

/-! ## Help -/

def usageLines : List String := [
  "usage: jshost [-h] [--config FILE] [--bootstrap FILE] [--halt-on-error]",
  "              [--log-json] [--log-level LEVEL] [--version]",
  "              [PATH ...]"]

def helpLines : List String := usageLines ++ [
  "",
  "Evaluate JavaScript files in a host runtime with print, sandbox and readfile",
  "",
  "positional arguments:",
  "  PATH               Source files to evaluate, in order",
  "",
  "options:",
  "  -h, --help         show this help message and exit",
  "  --config FILE      TOML configuration file (default: config/jshost.toml)",
  "  --bootstrap FILE   Bootstrap script to evaluate instead of the bundled one",
  "  --halt-on-error    Stop at the first file whose evaluation fails",
  "  --log-json         Emit logs as JSON",
  "  --log-level LEVEL  Minimum log level (default: INFO)",
  "  --version          show program's version number and exit"]

def versionLine : String := "jshost 0.1.0"

end ScriptHost.CommandLine
