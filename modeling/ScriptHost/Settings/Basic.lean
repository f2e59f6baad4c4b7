/-
Settings of a host: which bootstrap to use, how to read sources, when to stop, and how to log. They
are read from a table of data, unknown keys aside, and can be written back to one.
-/
import ScriptHost.Settings.Validation
import ScriptHost.Codecs
import ScriptHost.Log.Record

namespace ScriptHost

/-- The settings of a host. -/
structure Settings where
  /-- The bootstrap file; none for the bundled bootstrap. -/
  bootstrapPath : Option Text := none
  stripTerminator : Bool := true
  /-- The name of the encoding of sources. -/
  encoding : Text := "utf-8"
  /-- Whether the first source that throws ends a run. -/
  haltOnError : Bool := false
  /-- The name of the least level that is logged. -/
  logLevel : Text := "INFO"
  logJson : Bool := false
deriving DecidableEq

namespace Settings

open Validation

/-! ## The rules of the fields -/

/-- A path or nothing. -/
def bootstrapPathOf : Datum → Except Misfit (Option Text)
  | .nothing => .ok none
  | d => (textOf d).map some

/-- The name of an encoding that is known on a system with these codecs, whether or not it reads texts. -/
def encodingOf (codecs : Codecs) (d : Datum) : Except Misfit Text :=
  match filledTextOf d with
  | .error e => .error e
  | .ok name =>
    if name.contains (CodePoint.ofByte 0) then .error (.rule "embedded null character")
    else if (codecs.find? name).isSome then .ok name
    else .error (.rule ("Unknown encoding: " ++ name))

/-- The capital form of a code point, as far as it lies in ASCII. -/
def capital (c : CodePoint) : Text :=
  if 0x61 ≤ c.val ∧ c.val ≤ 0x7A then [CodePoint.ofNat (c.val - 32)]
  else if c.val = 0x131 then "I"
  else if c.val = 0x17F then "S"
  else if c.val = 0xDF then "SS"
  else if c.val = 0xFB00 then "FF"
  else if c.val = 0xFB01 then "FI"
  else if c.val = 0xFB02 then "FL"
  else if c.val = 0xFB03 then "FFI"
  else if c.val = 0xFB04 then "FFL"
  else if c.val = 0xFB05 ∨ c.val = 0xFB06 then "ST"
  else [c]

/-- The name of a log level, in any case, in capitals. -/
def logLevelOf (d : Datum) : Except Misfit Text :=
  match textOf d with
  | .error e => .error e
  | .ok v =>
    let name := v.flatMap capital
    if (Log.levelNumber? name).isSome then .ok name
    else .error (.rule ("Unknown log level: " ++ v))

/-! ## Reading and writing -/

/-- The keys of settings. -/
def keys : List String :=
  ["bootstrap_path", "strip_trailing_terminator", "encoding", "halt_on_error", "log_level", "log_json"]

/-- The settings of a table, or all problems with it, on a system with these codecs. -/
def validate (codecs : Codecs) (data : List (Text × Datum)) : Except (List Problem) Settings :=
  let start : Settings := {}
  let path := field data "bootstrap_path" bootstrapPathOf (some start.bootstrapPath)
  let strip := field data "strip_trailing_terminator" boolOf (some start.stripTerminator)
  let encoding := field data "encoding" (encodingOf codecs) (some start.encoding)
  let halt := field data "halt_on_error" boolOf (some start.haltOnError)
  let level := field data "log_level" logLevelOf (some start.logLevel)
  let json := field data "log_json" boolOf (some start.logJson)
  match path, strip, encoding, halt, level, json with
  | .ok p, .ok s, .ok e, .ok h, .ok l, .ok j => .ok ⟨p, s, e, h, l, j⟩
  | _, _, _, _, _, _ => .error (problemOf path ++ problemOf strip ++ problemOf encoding ++
      problemOf halt ++ problemOf level ++ problemOf json)

/-- The settings of a table. -/
def ofEntries (data : List (Text × Datum)) (codecs : Codecs := .none) : Except Fault Settings :=
  (validate codecs data).mapError fun ps =>
    .settings ("Invalid host configuration: " ++ report "HostConfig" ps)

/-- The table of settings. -/
def toEntries (s : Settings) : List (Text × Datum) := [
  ("bootstrap_path", match s.bootstrapPath with
    | some p => .text p
    | none => .nothing),
  ("strip_trailing_terminator", .bool s.stripTerminator),
  ("encoding", .text s.encoding),
  ("halt_on_error", .bool s.haltOnError),
  ("log_level", .text s.logLevel),
  ("log_json", .bool s.logJson)]

/-- `upper` laid on `under`: its entries win, and new ones follow. -/
def overlay (under upper : List (Text × Datum)) : List (Text × Datum) :=
  under.map (fun (k, d) => (k, (Datum.lookup? k upper).getD d)) ++
    upper.filter fun (k, _) => !under.any (·.1 = k)

/-- The number of the least level that is logged. -/
def logLevelNumber (s : Settings) : Int := (Log.levelNumber? s.logLevel).getD 0

end Settings

end ScriptHost
