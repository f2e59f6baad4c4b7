/-
Evaluating a source for its text. The names that lead out of the engine are removed from the global
object, the source runs as global code, and what it ends with is made a string by the function that the
global name `String` stood for before. The outcome is an array of three: whether the source ended
without an error, the text, and whether the text is that of the outcome itself. It leaves the engine as
a tree, when the jobs of the program have run and no rejection is left over.
-/
import ScriptHost.Script.Engine
import ScriptHost.Script.Fresh

namespace ScriptHost.Script

/-- What an evaluation hands to the host. -/
inductive Outcome where
  | reply (d : Datum)
  /-- It failed where no handler inside the engine could see it. -/
  | failed (text : Text)

/-- The global names that are removed before every program. -/
def strippedNames : List String :=
  ["dukpy", "call_python", "require", "console", "process", "_dukpy_cjs_source_compiles",
    "_dukpy_eval_cjs_source", "print", "alert"]

namespace Engine

variable (e : Engine)

def evalName : Utf16 := "eval"

/-- Removes the stripped names; the functions of the host stay. -/
def strip : List String → Run Unit
  | [] => return ()
  | n :: rest => do
    discard (e.remove .global n)
    strip rest

/-- Runs a source by the function that the global name `eval` stands for. -/
def runByName (source : Utf16) : Run Value := do
  let f ← e.readName .global evalName
  e.call f .undefined [.string source]

/-- The array of an outcome. -/
def outcomeArray (ok : Bool) (text : Value) (stringified : Bool) : Run Ref :=
  Run.allocArray [.bool ok, text, .bool stringified]

/-- The array of what a source ended with, made a string by `convert`. -/
def describeOutcome (convert : Value) (ended : Except Value Value) : Run Ref := do
  let (ok, outcome) := match ended with
    | .ok v => (true, v)
    | .error v => (false, v)
  match (← Run.attempt (e.call convert .undefined [outcome])) with
  | .ok text => outcomeArray ok text true
  | .error second =>
    match (← Run.attempt (e.call convert .undefined [second])) with
    | .ok text => outcomeArray false text false
    | .error _ => outcomeArray false (.string "Error") false

/-- Evaluates a source to the array of its outcome. -/
def evaluateToArray (source : Utf16) : Run Ref := do
  let convert ← e.readName .global stringName
  e.strip strippedNames
  let ended ← Run.attempt (e.runByName source)
  e.describeOutcome convert ended

/-- The text of what was thrown. -/
def thrownText (v : Value) : Run Text := do
  match (← Run.attempt (e.toUnits v)) with
  | .ok s => return if s.isEmpty then "JSRuntimeError" else Utf16.toText s
  | .error _ => return "JSRuntimeError"

/-- Runs the jobs of a program and takes the first rejection that is left over. -/
def leftOver : Run (Option Value) := do
  e.runJobs
  match (← Run.look (·.unhandled)) with
  | [] => return none
  | r :: _ =>
    Run.change fun m => { m with unhandled := [] }
    match (← Run.promiseState? r) with
    | some (.rejected v) => return some v
    | _ => return none

/-- Evaluates a source to its outcome; what is thrown past the handlers is not yet seen. -/
def evaluateOpenly (source : Utf16) : Run Outcome := do
  let r ← e.evaluateToArray source
  match (← e.leftOver) with
  | some reason => return .failed (← e.thrownText reason)
  | none =>
    match (← e.json {} [] .undefined (.name []) (.object r)) with
    | some tree => return .reply tree.toDatum
    | none => return .failed "Invalid Result Value"

/-- Evaluates a source to its outcome. -/
def evaluate (source : Utf16) : Run Outcome := do
  match (← Run.attempt (e.evaluateOpenly source)) with
  | .ok o => return o
  | .error v => return .failed (← e.thrownText v)

end Engine

/-! ## Machines with functions of the host -/

/-- A machine with the references of the host's functions, and with what is shown to it. -/
structure Bound where
  machine : Machine
  bindings : List (Key × Ref)
  senses : Senses

namespace Bound

/-- A function of the host as an object. -/
def functionObject (name : Text) : Obj where
  kind := .host name
  parent := some .functionParent
  slots := [("name", .data (.string (Utf16.ofString "value")) false false true),
    (.length, .data (.number 0) false false true)]

/-- The key of the global name of a function of the host. -/
def key (name : Text) : Key := Key.ofUnits (Text.toUtf16 name)

/-- Adds a function of the host: its object, and a global property that can be neither changed nor
removed. -/
def add (b : Bound) (name : Text) : Bound :=
  let (f, heap) := Fresh.add (functionObject name) b.machine.heap
  { b with
    machine := { b.machine with
      heap := Fresh.putIn .global (key name) (.data (.object f) false false false) heap }
    bindings := b.bindings ++ [(key name, f)] }

/-- A fresh machine with functions of the host under these names. -/
def fresh (senses : Senses) (names : List Text) : Bound := names.foldl add ⟨Machine.fresh, [], senses⟩

/-- What an evaluation is told that never ends. -/
def interrupted : Text := "InternalError: interrupted"

/-- Evaluates a source, with a host that answers. -/
def evaluate {σ : Type} (b : Bound) (host : Host σ) (source : Text) (w : σ) : Outcome × Bound × σ :=
  let (o, m, w) := ((Engine.make b.bindings).evaluate (Text.toUtf16 source) b.machine).settle host w
  (o.getD (.failed interrupted), { b with machine := m }, w)

end Bound

end ScriptHost.Script
