/-
The program. It runs its command line on a tree of files that grows: a run asks for paths, what the disk
holds there is added to the tree, and the command line is run again, until a run asks for nothing new. Only
the last run is shown. All of them are shown the same of time and chance: the clock stands at the time when
the program began, and local time is universal time.
-/
import ScriptHost.CommandLine.Run
import ScriptHost.Datum.Json
import ScriptHost.Isolate.Engine

namespace ScriptHost.CommandLine

/-! ## What a run asks for -/

/-- The path of the settings file of a command line. -/
def settingsAsked (arguments : List Text) : List Text :=
  match Request.ofArguments arguments with
  | .run o => [o.config]
  | _ => []

/-- The paths that a run has read, or tried to. -/
def pathsRead (w : World) : List Text :=
  w.events.filterMap fun e =>
    match e with
    | .readStarted path => some path
    | _ => none

/-! ## The disk -/

/-- What the disk holds at a path. -/
def entryOnDisk (path : String) : IO (Option Entry) := do
  try
    let bytes ← IO.FS.readBinFile path
    return some (.file bytes.toList bytes.size)
  catch e =>
    match e with
    | .inappropriateType .. | .illegalOperation .. => return some .directory
    | _ => return none

/-- The components of an absolute path. -/
def placeOf (path : Text) : List Component :=
  (Files.components (Utf8.encode (Path.normal path))).filter fun c => !c.isEmpty

/-- The tree with what the disk holds along a path. -/
def addFromDisk (working : Text) (files : Files) (path : Text) : IO Files := do
  let steps := (Text.split Path.slash (Path.join working path)).filter fun c => !c.isEmpty
  let mut files := files
  for n in List.range steps.length do
    let along := Text.ofString "/" ++ Text.join "/" (steps.take (n + 1))
    match along.toString? with
    | none => pure ()
    | some name =>
      match (← entryOnDisk name) with
      | none => pure ()
      | some e => files := files.put (placeOf along) e
  return files

/-! ## The clock and chance -/

/-- The milliseconds since the start of 1970, by the stamp of a file that is made for it. -/
def now : IO Int :=
  IO.FS.withTempFile fun _ path => do
    let stamp := (← path.metadata).modified
    return stamp.sec * 1000 + (stamp.nsec.toNat / 1000000 : Nat)

/-- What is shown to the scripts of the isolate at a place, from a time and a seed. -/
def sensesFrom (time : Int) (seed : Nat) (place : Nat) : Senses where
  time _ := time
  chance n := BitVec.ofNat 52 (hash (seed, place, n)).toNat

/-! ## Runs -/

/-- Runs a command line until it asks for no new paths. -/
partial def settle (arguments : List Text) (working : Text) (senses : Nat → Senses) (known : List Text)
    (files : Files) : IO (Ended × World) := do
  let (ended, w) := run Isolate.Engine.factory arguments { files, output := .bytes [] [], senses }
  let asked := (settingsAsked arguments ++ pathsRead w).filter fun p => !known.contains p
  if asked.isEmpty then return (ended, w)
  else
    let files ← asked.foldlM (addFromDisk working) files
    settle arguments working senses (known ++ asked) files

/-! ## Showing a run -/

/-- The text of a line beside the output. -/
def ErrorLine.shown : ErrorLine → Text
  | .log (.console t) => t
  | .log (.object fields) => (Datum.table fields).json
  | .text t => t

/-- Writes bytes to a stream. -/
def writeBytes (stream : IO.FS.Stream) (bytes : Bytes) : IO Unit := do
  stream.write ⟨bytes.toArray⟩
  stream.flush

/-- The exit code of a run, and what is told of a fault that ended it. -/
def Exit.told : Exit → Nat × Text
  | .code n | .early n => (n.toNat, [])
  | .fault f => (1, f.described ++ "\n")

end ScriptHost.CommandLine

open ScriptHost in
/-- Runs the command line of the process. -/
def main (arguments : List String) : IO UInt32 := do
  let working := Text.ofString (← IO.currentDir).toString
  let here := CommandLine.placeOf working
  let texts := arguments.map Text.ofString
  let start ← CommandLine.addFromDisk working { entries := [], working := here } []
  let senses := CommandLine.sensesFrom (← CommandLine.now) (← IO.rand 0 0xFFFFFFFFFFFFF)
  let (ended, w) ← CommandLine.settle texts working senses [] start
  match w.output with
  | .bytes written _ => CommandLine.writeBytes (← IO.getStdout) written
  | .text written => CommandLine.writeBytes (← IO.getStdout) (Utf8.encode written)
  let lines := (CommandLine.errorLines ended.style w).map fun l => l.shown ++ Text.ofString "\n"
  let (code, told) := ended.exit.told
  CommandLine.writeBytes (← IO.getStderr) (Utf8.encode (lines.flatten ++ told))
  return UInt32.ofNat code
