/-
Isolates. An isolate runs sources one after the other, each on what the ones before it left, and acts
on the host only through the functions that it was given when it was made. It is closed once, lets go
of what it runs on then, and runs nothing afterwards.

What an isolate runs on is a matter of the factory that makes it. The record of an isolate in the world
says what became of it; the isolate itself is the place of that record with what it runs on.
-/
import ScriptHost.Evaluation
import ScriptHost.World

namespace ScriptHost

/-- A function of the host: it takes texts. -/
abbrev HostFunction := List Text → Action Datum

/-- The functions of the host under their names. -/
abbrev Functions := List (Text × HostFunction)

/-- What makes isolates and runs them; `ι` is what an isolate runs on. -/
structure Factory (ι : Type) where
  /-- Makes what an isolate with these functions runs on. -/
  make : Functions → Action ι
  /-- Runs a source. What the isolate runs on comes out changed even where the run ends with a fault. -/
  run : Functions → Text → ι → World → (Except Fault Evaluation × ι) × World
  /-- Lets go of what an isolate with these functions runs on. -/
  release : Functions → ι → Action Unit
  /-- Whether making an isolate is reported. -/
  announces : Bool

/-- An isolate. -/
structure Isolate (ι : Type) where
  /-- The place of its record. -/
  place : Nat
  purpose : Text
  functions : Functions
  core : ι

namespace Isolate

variable {ι : Type} (F : Factory ι)

/-- The identifier of an isolate: its number among all that were made. -/
def id (i : Isolate ι) : Text := Text.hex 12 (i.place + 1)

/-- Whether an isolate is closed. -/
def isClosed (i : Isolate ι) (w : World) : Bool := (w.isolate? i.place).any (·.closed)

/-- Makes an isolate, which has a record from then on. -/
def create (purpose : Text) (functions : Option Functions) : Action (Isolate ι) := do
  let given := functions.getD []
  let names := functions.map (·.map (·.1))
  Action.occur (.asked purpose names)
  match (← Action.attempt (F.make given)) with
  | .error f =>
    Action.occur (.refused f)
    Action.raise f
  | .ok core =>
    let place ← Action.look (·.isolates.length)
    Action.change (World.addIsolate { purpose, functions := names })
    Action.occur (.made place purpose names)
    let i : Isolate ι := { place, purpose, functions := given, core }
    if F.announces then Action.report (.isolateCreated i.id purpose)
    return i

/-- The fault of using a closed isolate. -/
def closedFault (i : Isolate ι) : Fault :=
  .closed (i.purpose ++ " isolate " ++ i.id ++ " has been destroyed")

/-- Evaluates a source, unless the isolate is closed. -/
def evaluate (i : Isolate ι) (source : Text) (w : World) :
    (Except Fault Evaluation × Isolate ι) × World :=
  if i.isClosed w then ((.error i.closedFault, i), w)
  else
    let w := w.updateIsolate i.place fun r => { r with sources := r.sources ++ [source] }
    let ((r, core), w) := F.run i.functions source i.core (w.happen (.given i.place source))
    ((r, { i with core }), w.happen (.gave i.place r))

/-- Lets go of what an isolate runs on, which is counted. -/
def release (i : Isolate ι) : Action Unit := do
  Action.change (World.updateIsolate i.place fun r => { r with releases := r.releases + 1 })
  F.release i.functions i.core

/-- Closes an isolate; closing it again does nothing. -/
def close (i : Isolate ι) : Action Unit := do
  if (← Action.look i.isClosed) then return ()
  else
    Action.change (World.updateIsolate i.place fun r => { r with closed := true })
    Action.occur (.closed i.place)
    let released ← Action.attempt (i.release F)
    Action.occur (.released i.place released)
    Action.report (.isolateDestroyed i.id i.purpose)
    Action.ofExcept released

/-- Evaluates a source and closes the isolate, whatever came of the source; a fault of closing wins. -/
def evaluateLast (i : Isolate ι) (source : Text) : Action (Except Fault Evaluation) := fun w =>
  let ((r, i), w) := i.evaluate F source w
  match i.close F w with
  | (.error f, w) => (.error f, w)
  | (.ok (), w) => (.ok r, w)

end Isolate

end ScriptHost
