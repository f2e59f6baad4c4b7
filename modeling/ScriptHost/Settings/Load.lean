/-
Settings files. A file may be absent, which gives the defaults. Its settings stand at its top level,
or in its table `jshost`, which then replaces all else. Unknown keys are refused, and a relative
bootstrap path is seen from the directory of the file.
-/
import ScriptHost.Settings.Basic
import ScriptHost.Toml.Document
import ScriptHost.World

namespace ScriptHost.Settings

/-- Where settings are looked for. -/
def defaultPath : Text := "config/jshost.toml"

/-- The table that settings may stand in. -/
def tableName : Text := "jshost"

/-- The entries that count: those of the settings table, if there is one, or all. -/
def settingsTable (entries : List (Text × Datum)) : List (Text × Datum) :=
  match Datum.lookup? tableName entries with
  | some (.table inner) => inner
  | _ => entries

/-- The keys that are no settings, in order. -/
def unknownKeys (entries : List (Text × Datum)) : List Text :=
  ((entries.map (·.1)).filter fun k => !keys.any fun known => Text.ofString known = k).mergeSort Text.le

/-- The entries with the bootstrap path seen from a directory. -/
def anchor (directory : Text) (entries : List (Text × Datum)) : List (Text × Datum) :=
  entries.map fun (k, d) =>
    match d with
    | .text p => if k = Text.ofString "bootstrap_path" then (k, .text (Path.join directory p)) else (k, d)
    | _ => (k, d)

/-- The fault of the document at a path that gives no table. -/
def failed (path : Text) : Toml.Failure → Fault
  | .malformed message => .settings ("Malformed configuration file " ++ path ++ ": " ++ message)
  | .tooLong digits => .value (some ("Exceeds the limit (" ++ Text.ofNat Toml.digitLimit ++
      " digits) for integer string conversion: value has " ++ Text.ofNat digits ++
      " digits; use sys.set_int_max_str_digits() to increase the limit"))

/-- The settings in a document at a path; `working` is the working directory. -/
def ofDocument (codecs : Codecs) (working path document : Text) : Except Fault Settings :=
  match Toml.read? document with
  | .error failure => .error (failed path failure)
  | .ok entries =>
    let entries := settingsTable entries
    match unknownKeys entries with
    | [] =>
      let directory := Path.directory (Path.absolute working path)
      ofEntries (overlay (toEntries {}) (anchor directory entries)) codecs
    | unknown => .error (.settings
        ("Unknown configuration keys in " ++ path ++ ": " ++ Text.join ", " unknown))

/-- The working directory as a text. -/
def workingText (f : Files) : Text :=
  "/" ++ Text.join "/" (f.working.map fun c => (Utf8.readPassing c).getD [])

/-- The settings in the file at a path. -/
def load (path : Text) : Action Settings := do
  let files ← Action.look (·.files)
  if files.has path then
    match files.read path with
    | .error f => Action.raise f
    | .ok content =>
      match Utf8.decode content.bytes with
      | .error d => Action.raise (.decoding d)
      | .ok document => Action.ofExcept (ofDocument files.codecs (workingText files) path document)
  else Action.ofExcept (ofEntries (toEntries {}) files.codecs)

end ScriptHost.Settings
