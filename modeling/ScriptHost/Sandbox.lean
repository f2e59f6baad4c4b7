/-
Sandboxes. A source from anywhere is evaluated in an isolate of its own, without functions of the host,
which is closed before the evaluation is told. Whatever keeps the isolate from being made or from
evaluating becomes a failed evaluation; a failed evaluation is reported.
-/
import ScriptHost.Isolate

namespace ScriptHost.Sandbox

variable {ι : Type} (F : Factory ι)

def purpose : Text := "sandbox"

/-- What stands for a source that was not given. -/
def missingSource : Text := "undefined"

/-- Evaluates a source in an isolate that was made for it, and closes the isolate. -/
def evaluateIn (i : Isolate ι) (source : Text) : Action Evaluation := do
  match (← i.evaluateLast F source) with
  | .ok e => return e
  | .error f => return .ofFault f

/-- The evaluation of a source before it is reported. -/
def evaluateUnreported (source : Text) : Action Evaluation := do
  match (← Action.attempt (Isolate.create F purpose none)) with
  | .error f => return .ofFault f
  | .ok i => evaluateIn F i source

/-- Evaluates a source; what is no text is evaluated as it is shown. -/
def evaluate (source : Datum) : Action Evaluation := do
  let text := source.shown
  Action.occur (.requested text)
  let ended ← Action.attempt (evaluateUnreported F text)
  Action.occur (.answered ended)
  let e ← Action.ofExcept ended
  if !e.ok then Action.report (.sandboxFailed e.value text)
  return e

/-- Evaluates a source to the text that is handed back. -/
def call (source : Datum) : Action Text := do return (← evaluate F source).display

/-- The function that scripts call: it evaluates its first argument. -/
def function : HostFunction := fun arguments => do
  return .text (← call F (.text (arguments.headD missingSource)))

end ScriptHost.Sandbox
