/-
Promises. A promise is pending until it is fulfilled or rejected, once and for all; what waits for it is
run as jobs when the program has ended. A rejection that nothing waits for is kept in a list, which it
leaves as soon as something does.
-/
import ScriptHost.Script.Native.Basic

namespace ScriptHost.Script

namespace Run

/-- Makes a pending promise. -/
def allocPromise : Run Ref := alloc { kind := .promise (.pending []), parent := some .promiseParent }

/-- The state of the promise at `r`, if there is one. -/
def promiseState? (r : Ref) : Run (Option PromiseState) := do
  match (← object r).kind with
  | .promise s => return some s
  | _ => return none

def enqueue (j : Job) : Run Unit := change fun m => { m with jobs := m.jobs ++ [j] }

/-- Gives a pending promise its outcome and lets what waits for it run. -/
def settle (r : Ref) (rejected : Bool) (v : Value) : Run Unit := do
  match (← promiseState? r) with
  | some (.pending reactions) =>
    let state := if rejected then PromiseState.rejected v else .fulfilled v
    update r fun o => { o with kind := .promise state }
    reactions.forM fun reaction => enqueue (.react reaction rejected v)
    if rejected && reactions.isEmpty then
      change fun m => { m with unhandled := m.unhandled ++ [r] }
  | _ => return ()

/-- Makes the two functions that settle a promise, of which only one has an effect, and only once. -/
def allocSettlers (p : Ref) : Run (Value × Value) := do
  let latch ← alloc { kind := .latch false, parent := none }
  let settler (rejects : Bool) : Run Value := do
    return .object (← alloc
      { kind := .settler p rejects latch, parent := some .functionParent
        slots := [("name", .data (.string []) false false true),
          (.length, .data (.number 1) false false true)] })
  let resolve ← settler false
  let reject ← settler true
  return (resolve, reject)

end Run

namespace Engine

variable (e : Engine)

/-- Resolves a promise: to the outcome of an object that has a function `then`, or to the value. -/
def resolve (p : Ref) (v : Value) : Run Unit := do
  match v with
  | .object r =>
    if r = p then
      let err ← Run.allocError .typeError "promise self resolution"
      Run.settle p true (.object err)
    else match (← Run.attempt (e.get v "then")) with
      | .error thrown => Run.settle p true thrown
      | .ok f =>
        if (← isCallable f) then Run.enqueue (.adopt p v f) else Run.settle p false v
  | _ => Run.settle p false v

/-- Calls a function that settles a promise. -/
def callSettler (p : Ref) (rejects : Bool) (latch : Ref) (v : Value) : Run Value := do
  match (← Run.object latch).kind with
  | .latch false =>
    Run.update latch fun o => { o with kind := .latch true }
    if rejects then Run.settle p true v else e.resolve p v
    return .undefined
  | _ => return .undefined

/-- Waits for a promise: makes the promise of what the handlers give. -/
def thenOf (this onValue onError : Value) : Run Value := do
  let handler (f : Value) : Run (Option Value) := do
    return if (← isCallable f) then some f else none
  match this with
  | .object r =>
    match (← Run.promiseState? r) with
    | none => Run.typeError "not an object"
    | some state =>
      let outcome ← Run.allocPromise
      let reaction : Reaction := ⟨← handler onValue, ← handler onError, outcome⟩
      match state with
      | .pending reactions =>
        Run.update r fun o => { o with kind := .promise (.pending (reactions ++ [reaction])) }
      | .fulfilled v => Run.enqueue (.react reaction false v)
      | .rejected v =>
        Run.change fun m => { m with unhandled := m.unhandled.filter (· ≠ r) }
        Run.enqueue (.react reaction true v)
      return .object outcome
  | _ => Run.typeError "not an object"

/-- A promise of a value; a promise is its own. -/
def promiseOf (v : Value) : Run Value := do
  let own ← match v with
    | .object r => do pure (← Run.promiseState? r).isSome
    | _ => pure false
  if own then return v
  else
    let p ← Run.allocPromise
    e.resolve p v
    return .object p

/-- A rejected promise. -/
def rejectedPromise (v : Value) : Run Value := do
  let p ← Run.allocPromise
  Run.settle p true v
  return .object p

/-- A promise that a function settles. -/
def promiseBy (f : Value) : Run Value := do
  needFunction f
  let p ← Run.allocPromise
  let (resolve, reject) ← Run.allocSettlers p
  match (← Run.attempt (e.call f .undefined [resolve, reject])) with
  | .ok _ => return .object p
  | .error thrown =>
    discard (e.call reject .undefined [thrown])
    return .object p

/-! ## Jobs -/

def runJob : Job → Run Unit
  | .react reaction rejected v => do
    match (if rejected then reaction.onError else reaction.onValue) with
    | none => if rejected then Run.settle reaction.outcome true v else e.resolve reaction.outcome v
    | some f =>
      match (← Run.attempt (e.call f .undefined [v])) with
      | .ok w => e.resolve reaction.outcome w
      | .error thrown => Run.settle reaction.outcome true thrown
  | .adopt p source f => do
    let (resolve, reject) ← Run.allocSettlers p
    match (← Run.attempt (e.call f source [resolve, reject])) with
    | .ok _ => return ()
    | .error thrown => discard (e.call reject .undefined [thrown])

/-- Runs jobs until none waits. -/
def runJobs : Run Unit :=
  Run.loop () fun _ => do
    match (← Run.look (·.jobs)) with
    | [] => return .inr ()
    | j :: rest =>
      Run.change fun m => { m with jobs := rest }
      e.runJob j
      return .inl ()

end Engine

end ScriptHost.Script
