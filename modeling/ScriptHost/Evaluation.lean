/-
Evaluations. Evaluating a source yields a text, whether it ended without an error, whether the text is
that of the outcome itself, and how long it took; the same four are read from a table of data.
-/
import ScriptHost.Settings.Validation
import ScriptHost.Fault

namespace ScriptHost

/-- What evaluating a source yields. -/
structure Evaluation where
  ok : Bool
  value : Text
  stringified : Bool := true
  duration : Float := 0.0

namespace Evaluation

open Validation

/-- The evaluation that a table tells of, or all problems with it. -/
def validate (data : List (Text × Datum)) : Except (List Problem) Evaluation :=
  let ok := field data "ok" boolOf none
  let value := field data "value" textOf none
  let stringified := field data "stringified" boolOf (some true)
  let duration := field data "duration_ms" measureOf (some 0.0)
  match ok, value, stringified, duration with
  | .ok o, .ok v, .ok s, .ok d => .ok ⟨o, v, s, d⟩
  | _, _, _, _ => .error (problemOf ok ++ problemOf value ++ problemOf stringified ++ problemOf duration)

/-- The evaluation that a table tells of. -/
def ofEntries (data : List (Text × Datum)) : Except Fault Evaluation :=
  (validate data).mapError fun ps => .validation (report "EvaluationResult" ps)

/-- The text that is handed back to scripts. -/
def display (e : Evaluation) : Text := e.value

/-- The evaluation that stands for a fault. -/
def ofFault (f : Fault) : Evaluation := { ok := false, value := f.described }

end Evaluation

end ScriptHost
