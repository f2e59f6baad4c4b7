/-
Sessions. A session owns one isolate, into which the functions of the host are bound: one that writes a
line, one that evaluates in a sandbox, and one that reads a source. It is opened once, by evaluating the
bootstrap, then evaluates sources and files one after the other, and cannot be opened again after it
was closed.
-/
import ScriptHost.Bootstrap
import ScriptHost.Sandbox
import ScriptHost.Settings.Basic

namespace ScriptHost

/-- A session; it is open while it has an isolate. -/
structure Session (ι : Type) where
  settings : Settings
  isolate : Option (Isolate ι) := none
  tornDown : Bool := false

/-- A step of a session: it ends with a result or a fault, and leaves a session and a world. -/
abbrev Step (ι α : Type) := Session ι → World → (Except Fault α × Session ι) × World

namespace Step

variable {ι α β : Type}

@[inline] def pure (a : α) : Step ι α := fun s w => ((.ok a, s), w)

@[inline] def bind (x : Step ι α) (f : α → Step ι β) : Step ι β := fun s w =>
  match x s w with
  | ((.ok a, s), w) => f a s w
  | ((.error e, s), w) => ((.error e, s), w)

instance : Monad (Step ι) where
  pure := Step.pure
  bind := Step.bind

/-- Ends with a fault. -/
@[inline] def raise (f : Fault) : Step ι α := fun s w => ((.error f, s), w)

/-- The result or the fault of a step, as a result. -/
@[inline] def attempt (x : Step ι α) : Step ι (Except Fault α) := fun s w =>
  let ((r, s), w) := x s w
  ((.ok r, s), w)

/-- An action of the host, which leaves the session as it is. -/
@[inline] def act (x : Action α) : Step ι α := fun s w =>
  let (r, w) := x w
  ((r, s), w)

/-- The session at hand. -/
@[inline] def session : Step ι (Session ι) := fun s w => ((.ok s, s), w)

/-- Changes the session. -/
@[inline] def change (f : Session ι → Session ι) : Step ι Unit := fun s w => ((.ok (), f s), w)

section Apply

variable (s : Session ι) (w : World)

@[simp] theorem pure_apply (a : α) : (Pure.pure a : Step ι α) s w = ((.ok a, s), w) := rfl

@[simp] theorem bind_apply (x : Step ι α) (f : α → Step ι β) :
    (x >>= f) s w = match x s w with
      | ((.ok a, s), w) => f a s w
      | ((.error e, s), w) => ((.error e, s), w) := rfl

@[simp] theorem raise_apply (f : Fault) : (raise f : Step ι α) s w = ((.error f, s), w) := rfl

@[simp] theorem attempt_apply (x : Step ι α) :
    attempt x s w = ((.ok (x s w).1.1, (x s w).1.2), (x s w).2) := rfl

@[simp] theorem act_apply (x : Action α) : (act x : Step ι α) s w = (((x w).1, s), (x w).2) := rfl

@[simp] theorem session_apply : session s w = ((.ok s, s), w) := rfl

@[simp] theorem change_apply (f : Session ι → Session ι) : change f s w = ((.ok (), f s), w) := rfl

end Apply

end Step

namespace Session

variable {ι : Type} (F : Factory ι)

def purpose : Text := "host"

/-- What a source is called that has no name of its own. -/
def defaultOrigin : Text := "<source>"

def isOpen (s : Session ι) : Bool := s.isolate.isSome

/-! ## The functions of the host -/

/-- Writes its arguments in a line, with blanks between. -/
def printFunction : HostFunction := fun arguments => do
  Action.writeLine (Text.join " " arguments)
  return .nothing

/-- How the sources of a session are read. -/
def reading (settings : Settings) : Source.Reading := ⟨settings.stripTerminator, settings.encoding⟩

/-- Reads the source at the path that is its first argument. -/
def readFunction (settings : Settings) : HostFunction := fun arguments => do
  return .text (← Source.read (reading settings) (arguments.headD Sandbox.missingSource))

/-- A function of the host under its name; every call on it becomes part of the history. -/
def recorded (name : Text) (f : HostFunction) : Text × HostFunction := (name, fun arguments => do
  Action.occur (.called name arguments)
  let ended ← Action.attempt (f arguments)
  Action.occur (.returned name)
  Action.ofExcept ended)

/-- The functions that are bound into the isolate of a session. -/
def functions (settings : Settings) : Functions :=
  [recorded "print" printFunction, recorded "sandbox" (Sandbox.function F),
    recorded "readfile" (readFunction settings)]

/-! ## Opening and closing -/

/-- Closes a session for good. -/
def tearDown : Step ι Unit := do
  let s ← Step.session
  Step.change fun s => { s with isolate := none, tornDown := true }
  match s.isolate with
  | none => return ()
  | some i => Step.act (i.close F)

/-- Evaluates a source in the isolate of an open session. -/
def evaluateIn (i : Isolate ι) (source : Text) : Step ι Evaluation := fun s w =>
  let ((r, i), w) := i.evaluate F source w
  ((r, { s with isolate := some i }), w)

/-- Makes the isolate of a session and evaluates the bootstrap in it. -/
def boot (source origin : Text) : Step ι Unit := do
  let s ← Step.session
  let i ← Step.act (Isolate.create F purpose (some (functions F s.settings)))
  Step.change fun s => { s with isolate := some i }
  let e ← evaluateIn F i source
  if e.ok then Step.act (Action.report (.bootstrapCompleted origin e.duration))
  else
    Step.act (Action.report (.bootstrapFailed origin e.value))
    tearDown F
    Step.raise (.bootstrap ("bootstrap " ++ origin ++ " failed: " ++ e.value) 1)

/-- Opens a session; an open one stays as it is. -/
def start : Step ι Unit := do
  let s ← Step.session
  if s.tornDown then Step.raise (.closed "host runtime has been torn down")
  else if s.isOpen then return ()
  else
    let (source, origin) ← Step.act (Bootstrap.load s.settings.bootstrapPath s.settings.encoding)
    boot F source origin

/-! ## Evaluating -/

/-- What became of an evaluation: its text, or the fault that a failed one is; either is reported. -/
def conclude (origin : Text) (e : Evaluation) : Action Text := do
  if e.ok then
    Action.report (.evaluationCompleted origin e.duration)
    return e.value
  else
    Action.report (.evaluationFailed origin e.value)
    Action.raise (.script origin e.value e.stringified)

/-- Evaluates a source. -/
def evaluateSource (source origin : Text) : Step ι Text := do
  match (← Step.session).isolate with
  | none => Step.raise (.closed "host runtime is not initialized")
  | some i =>
    let e ← evaluateIn F i source
    Step.act (conclude origin e)

/-- Reads a file and evaluates what it holds. -/
def evaluateFile (path : Text) : Step ι Text := do
  let s ← Step.session
  let source ← Step.act (Source.read (reading s.settings) path)
  evaluateSource F source path

/-- Runs a step in an open session and closes the session afterwards, whatever came of the step; a
fault of closing wins. -/
def within {α : Type} (x : Step ι α) : Step ι α := do
  start F
  let ended ← Step.attempt x
  tearDown F
  match ended with
  | .ok a => return a
  | .error f => Step.raise f

end Session

end ScriptHost
