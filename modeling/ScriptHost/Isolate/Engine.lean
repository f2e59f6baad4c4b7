/-
Isolates on the script engine. Each runs on a machine of its own. What an evaluation leaves the engine
as should be a list of three: whether it went well, the text, and whether the text is that of the
outcome; a script can put something else in its place, which is then taken apart as far as it goes.
-/
import ScriptHost.Bridge

namespace ScriptHost.Isolate.Engine

open Script (Bound Outcome)

/-! ## Replies -/

/-- The parts of a datum that can be taken apart. -/
def parts : Datum → Except Fault (List Datum)
  | .list items => .ok items
  | .text t => .ok (t.map fun c => .text [c])
  | .table entries => .ok (entries.map fun (k, _) => .text k)
  | d => .error (.kind (some ("cannot unpack non-iterable " ++ d.kindName ++ " object")))

/-- The three parts of a reply. -/
def three (d : Datum) : Except Fault (Datum × Datum × Datum) :=
  match parts d with
  | .error f => .error f
  | .ok [a, b, c] => .ok (a, b, c)
  | .ok ds =>
    if ds.length < 3 then
      .error (.value (some ("not enough values to unpack (expected 3, got " ++ Text.ofNat ds.length ++ ")")))
    else .error (.value (some "too many values to unpack (expected 3)"))

/-- The evaluation that an outcome tells of. -/
def evaluationOf : Outcome → Except Fault Evaluation
  | .failed text => .ok { ok := false, value := text }
  | .reply d => (three d).map fun (ok, text, stringified) =>
    { ok := ok.truthy, value := text.shown, stringified := stringified.truthy }

/-! ## The factory -/

/-- What answers the questions of scripts: functions of the host, and what is shown to their machine. -/
def host (functions : Functions) (b : Bound) : Script.Host World := .sensing b.senses (Bridge.answer functions)

/-- Runs a source on a machine with functions of the host, which may be none. -/
def run (functions : Functions) (source : Text) (b : Bound) (w : World) :
    (Except Fault Evaluation × Bound) × World :=
  let (o, b, w) := b.evaluate (host functions b) source w
  ((evaluationOf o, b), w)

/-- The factory of isolates on the engine. -/
def factory : Factory Bound where
  make functions := return Bound.fresh (← Action.look World.upcoming) (functions.map (·.1))
  run := run
  release _ _ := return ()
  announces := true

end ScriptHost.Isolate.Engine
