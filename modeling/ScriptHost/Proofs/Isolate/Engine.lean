/-
Isolates on the engine. A script reaches the world by the answers to what it asks, and an answer does no
more than the function that was asked for, so the factory is confined. In an isolate without functions
every call has an answer that no world has a part in: what a source evaluates to in a fresh one is a
matter of the source, and of what is shown for the questions that it asks.
-/
import ScriptHost.Isolate.Engine
import ScriptHost.Proofs.Sandbox
import ScriptHost.Proofs.Script.Settle

namespace ScriptHost

open Script (Bound Host Machine Question Reply)

/-- Two senses answer a question alike; calls are none of theirs. -/
def Senses.Agrees (S T : Senses) : Question → Prop
  | .call .. => True
  | .clock n => S.time n = T.time n
  | .chance n => S.chance n = T.chance n
  | .zone t => S.zone t = T.zone t

namespace Bridge

theorem acts_call {functions : Functions} {name : Text} {f : HostFunction}
    (bound : (name, f) ∈ functions) (arguments : Datum) (w : World) :
    Acts functions w (call f arguments w).2 := by
  unfold call
  cases argumentsOf arguments with
  | error fault => exact .rest
  | ok items =>
    have acted := Acts.rest.call (w := w) bound (items.map Datum.shown)
    rcases h : f (items.map Datum.shown) w with ⟨fault | d, w'⟩
    · rw [h] at acted
      simp only [h]
      split <;> exact acted
    · rw [h] at acted
      simpa only [h] using acted

theorem acts_answer (functions : Functions) (name : Text) (arguments : Datum) (w : World) :
    Acts functions w (answer functions name arguments w).2 := by
  unfold answer
  cases hf : functions.find? (·.1 = name) with
  | none => exact .rest
  | some p =>
    obtain ⟨n, f⟩ := p
    have acted := acts_call (List.mem_of_find?_eq_some hf) arguments w
    rcases h : call f arguments w with ⟨fault | r, w'⟩
    all_goals
      rw [h] at acted
      simpa only [h] using acted

/-- The answer to a question after a function that is not there. -/
def unknown (name : Text) : Reply := .failed (failureMessage name (.missingKey (some name)))

end Bridge

namespace Isolate.Engine

/-- To answer a question no more is done than by the function that was called, if one was. -/
theorem acts_host (functions : Functions) (b : Bound) (q : Question) (w : World) :
    Acts functions w (host functions b q w).2 := by
  cases q with
  | call name d => exact Bridge.acts_answer functions name d w
  | _ => exact .rest

/-- Isolates on the engine are confined. -/
theorem confined : factory.Confined where
  make _ _ := .rest
  run functions _ b w :=
    Script.Result.settle_keeps (P := Acts functions w)
      (fun q w' acted => acted.trans (acts_host functions b q w')) _ .rest
  release _ _ _ := .rest

theorem quiet (functions : Functions) : factory.Quiet functions where
  make _ := ⟨_, rfl⟩
  release _ _ := rfl

/-! ## Without functions -/

/-- A host without functions. -/
def nobody (S : Senses) : Host Unit := .sensing S fun name _ u => (Bridge.unknown name, u)

/-- What programs run on without functions, whatever is shown to them. -/
def bare : Bound := Bound.fresh {} []

/-- What a source comes to there when it is shown `S`, where nothing is around it. -/
def alone (S : Senses) (source : Text) : Except Fault Evaluation :=
  evaluationOf (bare.evaluate (nobody S) source ()).1

/-- The run of a source there. -/
def bareRun (source : Text) : Script.Result Script.Outcome :=
  (Script.Engine.make bare.bindings).evaluate (Text.toUtf16 source) bare.machine

/-- What a source asks there, before it ends. -/
def questions (S : Senses) (source : Text) : List Question := (bareRun source).questions (nobody S) ()

theorem alone_eq (S : Senses) (source : Text) : alone S source =
    evaluationOf (((bareRun source).settle (nobody S) ()).1.getD (.failed Bound.interrupted)) := by
  simp only [alone, Bound.evaluate, bareRun]

/-- A fresh isolate without functions comes to the same in every world, and leaves the world alone. -/
theorem run_fresh (S : Senses) (source : Text) (w : World) :
    ∃ core, factory.run [] source (Bound.fresh S []) w = ((alone S source, core), w) := by
  have fresh : Bound.fresh S [] = { bare with senses := S } := rfl
  have ended := Script.Result.settle_still (f := host [] (Bound.fresh S [])) (g := nobody S)
    (fun q w => by cases q <;> rfl) (fun q w u => by cases q <;> rfl) (bareRun source) w ()
  simp only [fresh, bareRun] at ended
  simp only [factory, run, alone_eq, fresh, Bound.evaluate, bareRun, ended]
  exact ⟨_, rfl⟩

theorem settled (S : Senses) (source : Text) : Sandbox.Settled factory S source (alone S source) := by
  rintro u v core rfl made
  obtain ⟨core', ran⟩ := run_fresh u.upcoming source v
  obtain rfl : Bound.fresh u.upcoming [] = core := Except.ok.inj made
  rw [ran]

/-- Where what is shown is the same for all that a source asks, the source comes to the same. -/
theorem alone_of_questions {S T : Senses} {source : Text} (same : ∀ q ∈ questions S source, S.Agrees T q) :
    alone S source = alone T source := by
  have answered : ∀ q ∈ (bareRun source).questions (nobody S) (), ∀ u, nobody S q u = nobody T q u := by
    intro q asked u
    have agrees := same q asked
    cases q with
    | call name d => rfl
    | clock n => exact congrArg (·, u) agrees
    | chance n => exact congrArg (·, u) agrees
    | zone t => exact congrArg (·, u) agrees
  rw [alone_eq, alone_eq, Script.Result.settle_of_questions (bareRun source) () answered]

end Isolate.Engine

end ScriptHost
