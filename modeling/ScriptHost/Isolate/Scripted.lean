/-
Isolates that follow a script: for each source it is written down which functions of the host are called
and how the evaluation ends. A source that nothing is written down for ends with itself as its value.
-/
import ScriptHost.Isolate

namespace ScriptHost.Isolate.Scripted

/-- What happens on a source. -/
structure Scene where
  ok : Bool := true
  value : Text := []
  stringified : Bool := true
  /-- The calls on functions of the host, in order. -/
  calls : List (Text × List Text) := []
  /-- What ends the evaluation in place of a result. -/
  raised : Option Fault := none

/-- What happens on each source, and what letting go of an isolate ends with. -/
structure Plot where
  scenes : List (Text × Scene)
  releaseFault : Option Fault := none

/-- Calls a function by its name and records what comes of it. -/
def callByName (functions : Functions) (name : Text) (arguments : List Text) : Action Unit := do
  let f : HostFunction := match functions.find? (·.1 = name) with
    | some (_, f) => f
    | none => fun _ => Action.raise (.missingKey (some name))
  let outcome ← Action.attempt (f arguments)
  Action.change fun w => { w with calls := w.calls ++ [⟨name, arguments, outcome⟩] }

/-- Plays a scene. -/
def Scene.play (s : Scene) (functions : Functions) : Action Evaluation := do
  s.calls.forM fun (name, arguments) => callByName functions name arguments
  match s.raised with
  | some f => Action.raise f
  | none => return { ok := s.ok, value := s.value, stringified := s.stringified }

/-- Evaluates a source. -/
def Plot.evaluate (p : Plot) (functions : Functions) (source : Text) : Action Evaluation :=
  match p.scenes.find? (·.1 = source) with
  | some (_, s) => s.play functions
  | none => return { ok := true, value := source }

/-- Takes the next refusal of the world, if it has one. -/
def nextRefusal : Action (Option Fault) := fun w =>
  match w.refusals with
  | [] => (.ok none, w)
  | r :: rest => (.ok r, { w with refusals := rest })

/-- The factory of isolates that follow a script. -/
def factory (p : Plot) : Factory Unit where
  make _ := do
    match (← nextRefusal) with
    | some f => Action.raise f
    | none => return ()
  run functions source _ w :=
    let (r, w) := p.evaluate functions source w
    ((r, ()), w)
  release _ _ :=
    match p.releaseFault with
    | some f => Action.raise f
    | none => return ()
  announces := false

end ScriptHost.Isolate.Scripted
