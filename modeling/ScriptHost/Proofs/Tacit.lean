/-
Actions that report no end of an evaluation. A session tells in its log how each of its evaluations ended; nothing
that is done in the course of one tells the like: no reading of a source, no sandbox, no line of output, and so no
isolate, whatever functions of a session it calls.
-/
import ScriptHost.Proofs.Session.Functions
import ScriptHost.Proofs.Spared

namespace ScriptHost

/-- Whether an event tells how an evaluation ended. -/
def Event.concludes : Event → Bool
  | evaluationCompleted .. | evaluationFailed .. => true
  | _ => false

/-- The events that tell how evaluations ended, the first first. -/
def World.evaluations (w : World) : List Event := w.events.filter (·.concludes)

theorem World.tell_evaluations (w : World) (e : Event) :
    (w.tell (.event e)).evaluations = w.evaluations ++ if e.concludes then [e] else [] :=
  w.those_tell Event.concludes e

/-- An action that tells of no end of an evaluation, whatever it ends with. -/
def Action.Tacit {α : Type} (x : Action α) : Prop := ∀ w : World, (x w).2.evaluations = w.evaluations

open ScriptHost.Action

theorem Action.Tacit.of_spares {α : Type} {x : Action α} (h : Spares Event.concludes x) : Tacit x := h

/-! ## Sources -/

theorem Source.tacit_read (how : Reading) (path : Text) : Tacit (read how path) := by
  refine .of_spares (spares_read ?_ how path)
  intro e reads
  cases e with
  | evaluationCompleted | evaluationFailed => cases reads
  | _ => rfl

/-! ## Isolates -/

/-- Functions that tell of no end of an evaluation. -/
def Functions.Tacit (functions : Functions) : Prop :=
  ∀ p ∈ functions, ∀ arguments : List Text, Action.Tacit (p.2 arguments)

theorem Isolate.tacit_evaluate {ι : Type} {F : Factory ι} (hF : F.Confined) {i : Isolate ι}
    (tacit : i.functions.Tacit) (source : Text) (w : World) :
    (i.evaluate F source w).2.evaluations = w.evaluations :=
  spares_evaluate (hF.spares tacit) source w

/-! ## Functions of a session -/

theorem Sandbox.tacit_evaluate {ι : Type} {F : Factory ι} (hF : F.Confined) (source : Datum) :
    Tacit (evaluate F source) := fun _ =>
  those_evaluate (hF.spares Functions.spare_nil) (fun _ _ => rfl) (fun _ _ => rfl) fun _ _ _ => rfl

namespace Session

variable {ι : Type} {F : Factory ι}

theorem tacit_recorded {name : Text} {f : HostFunction} (tacit : ∀ arguments, Tacit (f arguments))
    (arguments : List Text) : Tacit ((recorded name f).2 arguments) :=
  .of_spares (.bind (.occur _) fun _ => .bind (.attempt (tacit arguments)) fun _ =>
    .bind (.occur _) fun _ => .ofExcept _)

/-- No function of a session tells of an end of an evaluation. -/
theorem tacit_functions (hF : F.Confined) (settings : Settings) : (functions F settings).Tacit := by
  intro p bound
  simp only [functions, List.mem_cons, List.not_mem_nil, or_false] at bound
  rcases bound with rfl | rfl | rfl
  · refine tacit_recorded fun arguments => .of_spares ?_
    exact .bind (.writeLine _) fun _ => .pure _
  · refine tacit_recorded fun arguments => .of_spares ?_
    exact .bind (.bind (Sandbox.tacit_evaluate hF _) fun _ => .pure _) fun _ => .pure _
  · refine tacit_recorded fun arguments => .of_spares ?_
    exact .bind (Source.tacit_read _ _) fun _ => .pure _

end Session

end ScriptHost
