/-
The operations that a caller has on a session, as data. A block runs its operations in an open session,
up to the first that ends with a fault unless that fault is caught, and may end with a fault of its own;
the session is closed afterwards. Every operation is a path of moves from whatever stage it is begun in,
so that what moves keep is kept by all operations, in any order and after any faults.
-/
import ScriptHost.Proofs.Session.Moves

namespace ScriptHost.Session

open History

variable {ι : Type}

/-- An operation on a session. -/
inductive Operation where
  | start
  | evaluateSource (source origin : Text)
  | evaluateFile (path : Text)
  /-- The evaluation of a source in a sandbox, for its text. -/
  | sandbox (source : Datum)
  /-- The evaluation of a source in a sandbox. -/
  | evaluateSandbox (source : Datum)
  /-- A call on one of the functions of the host, by its name. -/
  | call (name : Text) (arguments : List Text)
  | tearDown
  /-- A block in an open session, which may end with a fault of its own. -/
  | within (body : List Operation) (fault : Option Fault)
  /-- Operations of which the first fault is caught. -/
  | trying (body : List Operation)

/-- Calls a function of the host by its name. -/
def callByName (F : Factory ι) (name : Text) (arguments : List Text) : Step ι Datum := do
  let s ← Step.session
  match (functions F s.settings).find? (·.1 = name) with
  | none => Step.raise (.missingKey (some name))
  | some (_, f) => Step.act (f arguments)

/-- Ends with a fault, if there is one. -/
def endWith : Option Fault → Step ι Unit
  | none => return ()
  | some f => Step.raise f

mutual

/-- Performs an operation. -/
def perform (F : Factory ι) : Operation → Step ι Unit
  | .start => start F
  | .evaluateSource source origin => do discard (evaluateSource F source origin)
  | .evaluateFile path => do discard (evaluateFile F path)
  | .sandbox source => do discard (Step.act (Sandbox.call F source))
  | .evaluateSandbox source => do discard (Step.act (Sandbox.evaluate F source))
  | .call name arguments => do discard (callByName F name arguments)
  | .tearDown => tearDown F
  | .within body fault => within F do
      performAll F body
      endWith fault
  | .trying body => do discard (Step.attempt (performAll F body))

/-- Performs operations in order, up to the first that ends with a fault. -/
def performAll (F : Factory ι) : List Operation → Step ι Unit
  | [] => return ()
  | o :: rest => do
    perform F o
    performAll F rest

end

variable {F : Factory ι}

/-- What some step of these operations leaves, where each is performed whatever the ones before ended
with, and where the operations inside blocks have steps of their own. -/
inductive Passes (F : Factory ι) : List Operation → Session ι → World → Session ι → World → Prop
  | step (o : Operation) (rest : List Operation) (s : Session ι) (w : World) :
      Passes F (o :: rest) s w (perform F o s w).1.2 (perform F o s w).2
  | later {o : Operation} {rest : List Operation} {s s' : Session ι} {w w' : World}
      (next : Passes F rest (perform F o s w).1.2 (perform F o s w).2 s' w') :
      Passes F (o :: rest) s w s' w'
  | opened (body : List Operation) (fault : Option Fault) (rest : List Operation) (s : Session ι)
      (w : World) :
      Passes F (.within body fault :: rest) s w (start F s w).1.2 (start F s w).2
  | within {body : List Operation} {fault : Option Fault} {rest : List Operation} {s s' : Session ι}
      {w w' : World} (inner : Passes F body (start F s w).1.2 (start F s w).2 s' w') :
      Passes F (.within body fault :: rest) s w s' w'
  | trying {body rest : List Operation} {s s' : Session ι} {w w' : World}
      (inner : Passes F body s w s' w') : Passes F (.trying body :: rest) s w s' w'

/-! ## Operations in moves -/

theorem moves_discard {α : Type} {x : Step ι α} (hx : Moves F x) : Moves F (discard x) :=
  .bind hx fun _ => .pure _

theorem moves_callByName (hF : F.Confined) (name : Text) (arguments : List Text) :
    Moves F (callByName F name arguments) := by
  refine .session fun s w st => ?_
  cases hf : (functions F s.settings).find? (·.1 = name) with
  | none => exact Moves.raise _ st
  | some p => exact moves_function hF (List.mem_of_find?_eq_some hf) arguments st

theorem moves_endWith (fault : Option Fault) : Moves F (endWith fault) := by
  cases fault with
  | none => exact .pure ()
  | some f => exact .raise f

mutual

theorem moves_perform (hF : F.Confined) : ∀ o : Operation, Moves F (perform F o)
  | .start => moves_start hF
  | .evaluateSource source origin => moves_discard (moves_evaluateSource hF source origin)
  | .evaluateFile path => moves_discard (moves_evaluateFile hF path)
  | .sandbox source => moves_discard (moves_call hF source)
  | .evaluateSandbox source => moves_discard (moves_evaluate hF source)
  | .call name arguments => moves_discard (moves_callByName hF name arguments)
  | .tearDown => moves_tearDown hF
  | .within body fault =>
    moves_within hF (.bind (moves_performAll hF body) fun _ => moves_endWith fault)
  | .trying body => moves_discard (moves_performAll hF body).attempt

theorem moves_performAll (hF : F.Confined) : ∀ body : List Operation, Moves F (performAll F body)
  | [] => .pure ()
  | o :: rest => .bind (moves_perform hF o) fun _ => moves_performAll hF rest

end

/-- Whatever steps of operations leave is at the end of a path. -/
theorem Passes.path (hF : F.Confined) {operations : List Operation} {s s' : Session ι} {w w' : World}
    (p : Passes F operations s w s' w') (st : Stage F s w) : ∃ h, Path F s w h s' w' := by
  induction p with
  | step o _ _ _ => exact moves_perform hF o st
  | @later o _ _ _ _ _ _ ih =>
    obtain ⟨h, p⟩ := moves_perform hF o st
    obtain ⟨g, q⟩ := ih (st.path p)
    exact ⟨h ++ g, p.trans q⟩
  | opened _ _ _ _ _ => exact moves_start hF st
  | within _ ih =>
    obtain ⟨h, p⟩ := moves_start hF st
    obtain ⟨g, q⟩ := ih (st.path p)
    exact ⟨h ++ g, p.trans q⟩
  | trying _ ih => exact ih st

end ScriptHost.Session
