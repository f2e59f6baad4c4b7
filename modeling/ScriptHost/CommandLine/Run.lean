/-
Running the command line. The files named are evaluated in one session, in order, and each result is
written on a line of its own; errors and logs are reported beside the output. The run ends with an exit
code, or with a fault that nothing here expects.
-/
import ScriptHost.CommandLine.Options
import ScriptHost.Log.Line
import ScriptHost.Session

namespace ScriptHost.CommandLine

/-- How a run ends. -/
inductive Exit where
  | code (n : Int)
  /-- It was over before anything was run. -/
  | early (n : Int)
  | fault (f : Fault)

/-- A run with the style that its log is written in. -/
structure Ended where
  exit : Exit
  style : Log.Style := ⟨20, false⟩

/-- What is written where no text of a result could be made. -/
def nullResult : Text := "null"

variable {ι : Type} (F : Factory ι)

/-! ## Settings -/

/-- The settings that options give. -/
def overrides (o : Options) : List (Text × Datum) :=
  (o.bootstrap.map fun p => (Text.ofString "bootstrap_path", Datum.text p)).toList ++
    (if o.haltOnError then [(Text.ofString "halt_on_error", Datum.bool true)] else []) ++
    (if o.logJson then [(Text.ofString "log_json", Datum.bool true)] else []) ++
    (o.logLevel.map fun l => (Text.ofString "log_level", Datum.text l)).toList

/-- The settings of the file that the options name, under what the options give. -/
def settings (o : Options) : Action Settings := do
  let s ← Settings.load o.config
  let codecs ← Action.look (·.files.codecs)
  Action.ofExcept (Settings.ofEntries (Settings.overlay s.toEntries (overrides o)) codecs)

/-- The style of the log that settings ask for. -/
def styleOf (s : Settings) : Log.Style := ⟨s.logLevelNumber, s.logJson⟩

/-! ## Evaluating files -/

def errorLine (t : Text) : Action Unit := Action.notify (.line ("ERROR: " ++ t))

/-- Evaluates the files in order. An unreadable one ends the run, one that throws if the settings say
so; the exit code is that of the run. -/
def runPaths : List Text → Step ι Int
  | [] => return 0
  | path :: rest => do
    match (← Step.attempt (Session.evaluateFile F path)) with
    | .ok value =>
      Step.act (Action.writeLine value)
      runPaths rest
    | .error (.script origin text stringified) =>
      let f := Fault.script origin text stringified
      Step.act (errorLine f.message)
      if (← Step.session).settings.haltOnError then return 1
      else
        Step.act (Action.writeLine (if stringified then text else nullResult))
        runPaths rest
    | .error (.unread p reason) =>
      let f := Fault.unread p reason
      Step.act (errorLine f.message)
      return 1
    | .error f => Step.raise f

/-- Opens a session and evaluates the files in it. -/
def runSession (paths : List Text) : Step ι Int := do
  match (← Step.attempt (Session.start F)) with
  | .ok () => Session.within F (runPaths F paths)
  | .error (.bootstrap text exitCode) =>
    Step.act (errorLine text)
    return exitCode
  | .error (.unread p reason) =>
    let f := Fault.unread p reason
    Step.act (errorLine f.message)
    return 1
  | .error f => Step.raise f

/-! ## The command line -/

/-- The complaint about a command line, under a line or more on how to use it. -/
def complain (text : Text) : Action Unit := do
  usageLines.forM fun l => Action.notify (.line (Text.ofString l))
  Action.notify (.line ("jshost: error: " ++ text))

/-- Writes text to the output as it stands. -/
def writeText (t : Text) : Action Unit :=
  Action.change fun w => { w with output := (w.output.write t).flush }

/-- Runs the files that options name. -/
def runOptions (o : Options) (w : World) : Ended × World :=
  if o.paths.isEmpty then
    let (_, w) := complain "at least one PATH is required" w
    ({ exit := .code 1 }, w)
  else match settings o w with
    | (.error f, w) =>
      if f.isSystem || (f matches .settings _) then
        let (_, w) := errorLine f.message w
        ({ exit := .code 1 }, w)
      else ({ exit := .fault f }, w)
    | (.ok s, w) =>
      let ((r, _), w) := runSession F o.paths { settings := s } w
      match r with
      | .ok n => ({ exit := .code n, style := styleOf s }, w)
      | .error f => ({ exit := .fault f, style := styleOf s }, w)

/-- Runs a command line. -/
def run (arguments : List Text) (w : World) : Ended × World :=
  match Request.ofArguments arguments with
  | .run o => runOptions F o w
  | .help =>
    let (_, w) := writeText (helpLines.map fun l => Text.ofString l ++ "\n").flatten w
    ({ exit := .early 0 }, w)
  | .version =>
    let (_, w) := writeText (versionLine ++ "\n") w
    ({ exit := .early 0 }, w)
  | .misuse text =>
    let (_, w) := complain text w
    ({ exit := .early 2 }, w)
  | .broken f => ({ exit := .fault f }, w)

/-! ## What is written beside the output -/

/-- A line beside the output. -/
inductive ErrorLine where
  | log (l : Log.Line)
  | text (t : Text)

/-- The lines that a notice becomes: a log line if its level is high enough, or the lines of a text. -/
def linesOf (style : Log.Style) : Notice → List ErrorLine
  | .event e => ((style.line? e.record).map ErrorLine.log).toList
  | .line t => (Text.split (CodePoint.ofChar '\n') t).map ErrorLine.text

/-- The lines that were written beside the output. -/
def errorLines (style : Log.Style) (w : World) : List ErrorLine := w.notices.flatMap (linesOf style)

end ScriptHost.CommandLine
