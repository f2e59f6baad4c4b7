/-
Coercion over histories. A source that does nothing but state a literal is reported with the string of the
literal, so an isolate answers with that string whatever ran in it before, as long as the functions are
still found that evaluations need, nothing waits, and lists meet no rule. The first is no small matter: the
names `String` and `eval` are looked up when an evaluation begins, and every program can change them.
-/
import ScriptHost.Proofs.Isolate.Report

namespace ScriptHost

open Script (Bound Holds Machine Reply Value)

/-! ## Literals -/

namespace Script

variable {e d : Engine} {m : Machine}

/-- The value of statements that do nothing but state literals: that of the last, or `v` before any. -/
def literalOf : List Stmt → Value → Option Value
  | [], v => some v
  | .empty :: rest, v => literalOf rest v
  | .expression (.constant c) :: rest, _ => literalOf rest c.value
  | _ :: _, _ => none

/-- The literal that a source states, if it does nothing else: it declares nothing, and its statements are
literals. -/
def spelled (source : Utf16) : Option Value :=
  match Program.ofSource false (Utf16.toText source) with
  | .ok p =>
    if p.vars.isEmpty && p.body.lexicals.isEmpty && p.body.functions.isEmpty then
      literalOf p.body.statements .undefined
    else none
  | .error _ => none

namespace Engine

/-- A program without declarations declares nothing. -/
theorem declareProgram_nothing {p : Program} (vars : p.vars = []) (functions : p.body.functions = [])
    (frame : Frame) (m : Machine) : e.declareProgram frame p m = .value () m := by
  unfold declareProgram
  have looked : Run.scope frame.vars m = .value (m.scope frame.vars) m := rfl
  rw [vars, functions, Run.bind_apply, looked, Result.follow_value]
  cases m.scope frame.vars <;> rfl

end Engine

end Script

/-! ## Histories -/

namespace Isolate

/-- An isolate, and the world, when sources were evaluated in it one after the other. -/
def evaluateAll {ι : Type} (F : Factory ι) (i : Isolate ι) : List Text → World → Isolate ι × World
  | [], w => (i, w)
  | source :: rest, w =>
    let ((_, i), w) := i.evaluate F source w
    i.evaluateAll F rest w

namespace Engine

/-- What an isolate on the engine keeps through an evaluation: its functions with their bindings, and
all that machines never lose. -/
structure Keeps (i j : Isolate Bound) : Prop where
  functions : j.functions = i.functions
  bindings : j.core.bindings = i.core.bindings
  later : i.core.machine.Later j.core.machine

theorem Keeps.trans {i j k : Isolate Bound} (a : Keeps i j) (b : Keeps j k) : Keeps i k :=
  ⟨b.functions.trans a.functions, b.bindings.trans a.bindings, a.later.trans b.later⟩

theorem evaluate_keeps (i : Isolate Bound) (source : Text) (w : World) :
    Keeps i (i.evaluate factory source w).1.2 := by
  cases closed : i.isClosed w with
  | true =>
    simp only [Isolate.evaluate, closed, if_true]
    exact ⟨rfl, rfl, .refl _⟩
  | false =>
    have aged : i.core.machine.Later (((Script.Engine.make i.core.bindings).evaluate (Text.toUtf16 source)
        i.core.machine).settle (host i.functions i.core) (i.receiving source w)).2.1 :=
      (Script.Engine.ages_evaluate (Script.Engine.ofDepth_ages _ _) _ _).settle
    rw [evaluate_settled closed rfl]
    exact ⟨rfl, rfl, aged⟩

theorem evaluateAll_keeps (sources : List Text) : ∀ (i : Isolate Bound) (w : World),
    Keeps i (i.evaluateAll factory sources w).1 := by
  induction sources with
  | nil => exact fun i w => ⟨rfl, rfl, .refl _⟩
  | cons source rest ih => exact fun i w => (evaluate_keeps i source w).trans (ih _ _)

/-- Evaluations find the functions that they need, nothing waits, and lists meet no rule. -/
structure Steady (b : Bound) : Prop where
  converts : Holds b.machine .string ((inner b).own? b.machine .global "String")
  evaluates : Holds b.machine .eval ((inner b).own? b.machine .global "eval")
  still : b.machine.jobs = [] ∧ b.machine.unhandled = []
  unruled : (inner b).unruledLists b.machine = true

/-- The outermost scope of an isolate is always that of the global object. -/
theorem Keeps.scope {purpose : Text} {functions : Option Functions} {i k : Isolate Bound} {v w : World}
    (kept : Keeps i k) (made : Isolate.create factory purpose functions v = (.ok i, w)) :
    k.core.machine.scopes[0]? = some .global := by
  refine kept.later.global ?_
  rw [(made_fresh made).2.1]
  exact scope_fresh _ _

/-- Steady isolates are ready for the next evaluation. -/
theorem Steady.ready {k : Isolate Bound} (steady : Steady k.core) (scope : k.core.machine.scopes[0]? = some .global) :
    (inner k.core).Ready k.core.machine := ⟨scope, steady.converts, steady.evaluates⟩

instance (b : Bound) : Decidable (Steady b) :=
  decidable_of_iff
    (Holds b.machine .string ((inner b).own? b.machine .global "String") ∧
      Holds b.machine .eval ((inner b).own? b.machine .global "eval") ∧
      (b.machine.jobs.isEmpty = true ∧ b.machine.unhandled.isEmpty = true) ∧
      (inner b).unruledLists b.machine = true)
    ⟨fun ⟨converts, evaluates, still, unruled⟩ =>
        ⟨converts, evaluates, by simpa using still, unruled⟩,
      fun ⟨converts, evaluates, still, unruled⟩ =>
        ⟨converts, evaluates, by simpa using still, unruled⟩⟩

/-- Not every isolate is steady: here a program has taken the function away that makes strings. -/
example :
    ((((firstIsolate.evaluateAll factory ["String = null"] firstWorld).1.evaluate factory "5"
      (firstIsolate.evaluateAll factory ["String = null"] firstWorld).2).1.1.toOption.map fun e =>
        (e.ok, e.value, e.stringified)) = some (false, ("Error" : Text), false)) := by
  decide +kernel

end Engine

end Isolate

end ScriptHost
