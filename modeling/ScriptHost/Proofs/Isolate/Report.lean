/-
What isolates answer. On a machine where the functions are found that evaluations need, the answer is the
report on the program. Two things can come between them, both after the program has ended: its jobs may
leave a rejection over, which makes the answer a failure, and the list of the report may meet a rule for
writing lists out. The machine of a fresh isolate is such a machine.
-/
import ScriptHost.Proofs.Isolate
import ScriptHost.Proofs.Isolate.Engine
import ScriptHost.Proofs.Script.Report
import ScriptHost.Proofs.Script.Bound

namespace ScriptHost

open Script (Bound Holds Key Machine Outcome Report)

/-- The evaluation that a report comes to. -/
def Script.Report.evaluation (r : Report) : Evaluation :=
  { ok := r.ok, value := Utf16.toText r.text, stringified := r.stringified }

namespace Isolate.Engine

/-- The engine that the programs of an isolate run on. -/
def inner (b : Bound) : Script.Engine := .ofDepth b.bindings (Script.Engine.depthLimit - 1)

theorem ofDepth_pred (bindings : List (Key × Script.Ref)) {depth : Nat} (h : 0 < depth) :
    Script.Engine.ofDepth bindings depth = (Script.Engine.ofDepth bindings (depth - 1)).above := by
  obtain ⟨n, rfl⟩ := Nat.exists_eq_succ_of_ne_zero h.ne'
  rfl

theorem make_eq (b : Bound) : Script.Engine.make b.bindings = (inner b).above :=
  ofDepth_pred b.bindings (by decide)

/-- The engine of the level below. -/
def innermost (b : Bound) : Script.Engine := .ofDepth b.bindings (Script.Engine.depthLimit - 2)

theorem inner_eq (b : Bound) : inner b = (innermost b).above := ofDepth_pred b.bindings (by decide)

theorem innermost_ages (b : Bound) : (innermost b).Ages := Script.Engine.ofDepth_ages _ _

/-! ## Answers -/

/-- How the answer to a source goes with the report on its program, and with the machine and the world as
they are then. -/
structure Answered (i : Isolate Bound) (source : Text) (w : World) (report : Report) (n : Machine)
    (u : World) : Prop where
  /-- A report that all went well is of a program that gave a value, and its text is that of the value. -/
  honest : report.ok = true → report.stringified = true ∧ ∃ v l x,
    ((inner i.core).program (Text.toUtf16 source) i.core.machine).ended (host i.functions i.core)
      (i.receiving source w) = (some (.ok v), l, x) ∧
    ((inner i.core).toUnits v l).ended (host i.functions i.core) x = (some (.ok report.text), n, u)
  /-- Where the jobs leave no rejection over and the report meets no rule, it is the answer, and nothing
  waits any more. -/
  whole : ∀ n' u', ((Script.Engine.make i.core.bindings).leftOver (n.grown report.object)).ended
      (host i.functions i.core) u = (some (.ok none), n', u') →
    n'.object n.next = report.object → (inner i.core).unruled n' n.next = true →
    (n'.jobs = [] ∧ n'.unhandled = []) ∧
    i.evaluate factory source w = ((.ok report.evaluation, { i with core := { i.core with machine := n' } }),
      u'.happen (.gave i.place (.ok report.evaluation)))
  /-- Where no jobs wait and no rejection was left behind, it is enough that lists meet no rule. -/
  plain : n.jobs = [] → n.unhandled = [] → (inner i.core).unruledLists n = true →
    i.evaluate factory source w =
      ((.ok report.evaluation, { i with core := { i.core with machine := n.grown report.object } }),
        u.happen (.gave i.place (.ok report.evaluation)))
  /-- Where the jobs leave a rejection over, or never end, the answer is a failure. -/
  spoiled : (∀ n' u', ((Script.Engine.make i.core.bindings).leftOver (n.grown report.object)).ended
      (host i.functions i.core) u ≠ (some (.ok none), n', u')) →
    ∃ t, (i.evaluate factory source w).1.1 = .ok { ok := false, value := t }

/-- An open isolate answers with what its engine makes of the source. -/
theorem evaluate_settled {i : Isolate Bound} {source : Text} {w u : World} {o : Option Outcome} {n : Machine}
    (opened : i.isClosed w = false)
    (settled : ((Script.Engine.make i.core.bindings).evaluate (Text.toUtf16 source) i.core.machine).settle
      (host i.functions i.core) (i.receiving source w) = (o, n, u)) :
    i.evaluate factory source w =
      ((evaluationOf (o.getD (.failed Bound.interrupted)), { i with core := { i.core with machine := n } }),
        u.happen (.gave i.place (evaluationOf (o.getD (.failed Bound.interrupted))))) := by
  refine Isolate.evaluate_of_open opened ?_
  simp only [factory, run, Bound.evaluate, settled]

/-- On a machine where evaluations find what they need, the answer goes with the report. -/
theorem answered_of_ready {i : Isolate Bound} {source : Text} {w u : World} {report : Report} {n : Machine}
    (ready : (inner i.core).Ready i.core.machine) (opened : i.isClosed w = false)
    (reported : (inner i.core).report (host i.functions i.core) (Text.toUtf16 source) i.core.machine
      (i.receiving source w) = some (report, n, u)) : Answered i source w report n u := by
  have ages := innermost_ages i.core
  rw [inner_eq] at ready reported
  have whole : ∀ n' u', ((Script.Engine.make i.core.bindings).leftOver (n.grown report.object)).ended
      (host i.functions i.core) u = (some (.ok none), n', u') →
      n'.object n.next = report.object → (inner i.core).unruled n' n.next = true →
      (n'.jobs = [] ∧ n'.unhandled = []) ∧
      i.evaluate factory source w =
        ((.ok report.evaluation, { i with core := { i.core with machine := n' } }),
          u'.happen (.gave i.place (.ok report.evaluation))) := by
    intro n' u' jobs there unruled
    refine ⟨Script.Engine.leftOver_done jobs, ?_⟩
    rw [make_eq, inner_eq] at jobs
    rw [inner_eq] at unruled
    have settled := Script.Engine.evaluate_report ages ready reported jobs there unruled
    rw [← inner_eq, ← make_eq] at settled
    exact evaluate_settled opened settled
  refine ⟨fun ok => ?_, whole, fun jobs unhandled unruled => ?_, fun jobs => ?_⟩
  · rw [inner_eq]
    exact Script.Engine.report_ok reported ok
  · refine (whole (n.grown report.object) u ?_ (Machine.object_next _ n) ?_).2
    · rw [Script.Engine.leftOver_still (m := n.grown report.object) jobs unhandled]
      rfl
    · rw [← unruled]
      exact Script.Engine.unruled_report (.refl n) (by simp) rfl report
  · rcases settled : ((Script.Engine.make i.core.bindings).evaluate (Text.toUtf16 source)
      i.core.machine).settle (host i.functions i.core) (i.receiving source w) with ⟨o, l, x⟩
    rw [evaluate_settled opened settled]
    rcases o with _ | o
    · exact ⟨_, rfl⟩
    · rw [make_eq, inner_eq] at jobs settled
      obtain ⟨t, rfl⟩ := Script.Engine.evaluate_spoiled ages ready reported jobs (congrArg Prod.fst settled)
      exact ⟨t, rfl⟩

/-! ## Fresh isolates -/

theorem scope_fresh (S : Senses) (names : List Text) : (Bound.fresh S names).machine.scopes[0]? = some .global := by
  rw [(Bound.added_fresh S names).scopes]
  rfl

/-- The names that evaluations look up. -/
def lookedUp : List Key := ["String", "eval"]

/-- In a fresh isolate evaluations find what they need, unless a function of the host has its name. -/
theorem ready_fresh {S : Senses} {names : List Text}
    (free : ∀ name ∈ names, Key.ofUnits (Text.toUtf16 name) ∉ lookedUp) :
    (inner (Bound.fresh S names)).Ready (Bound.fresh S names).machine := by
  have added := Bound.added_fresh S names
  have fresh : Holds Machine.fresh .string ((Machine.fresh.object .global).own? "String") ∧
      Holds Machine.fresh .eval ((Machine.fresh.object .global).own? "eval") := by decide +kernel
  have global_there : Script.Ref.global.index < Machine.fresh.heap.size := by decide +kernel
  have kept : ∀ {n : Script.Native} {k : Key}, k ∈ lookedUp →
      Holds Machine.fresh n ((Machine.fresh.object .global).own? k) →
      Holds (Bound.fresh S names).machine n
        ((inner (Bound.fresh S names)).own? (Bound.fresh S names).machine .global k) := by
    rintro n k looked ⟨f, w, en, c, found, kind⟩
    have unbound : k ∉ names.map Bound.key := fun among => by
      obtain ⟨name, there, rfl⟩ := List.mem_map.mp among
      exact free name there looked
    refine ⟨f, w, en, c, ?_, ?_⟩
    · exact Script.Engine.own?_of_object ((added.own .global global_there k unbound).trans found)
    · rw [added.kind f (Machine.lt_of_kind (by simp [kind])), kind]
  exact ⟨scope_fresh S names, kept List.mem_cons_self fresh.1,
    kept (List.mem_cons_of_mem _ List.mem_cons_self) fresh.2⟩

/-- An isolate that was just made is fresh and open. -/
theorem made_fresh {purpose : Text} {functions : Option Functions} {i : Isolate Bound} {v w : World}
    (made : Isolate.create factory purpose functions v = (.ok i, w)) :
    i.functions = functions.getD [] ∧ i.core = Bound.fresh v.upcoming (i.functions.map (·.1)) ∧
      i.isClosed w = false := by
  have makes : factory.make (functions.getD []) (v.happen (.asked purpose (functions.map (·.map (·.1))))) =
      (.ok (Bound.fresh v.upcoming ((functions.getD []).map (·.1))),
        v.happen (.asked purpose (functions.map (·.map (·.1))))) := rfl
  rw [Isolate.create_of_ok purpose functions makes] at made
  cases made
  exact ⟨rfl, rfl, Isolate.isClosed_entered rfl _⟩

/-- The first program of an isolate is answered with the report on it: with whether it gave a value that
became a string, with that string or the string of what was thrown, and with whether the text is that of
its own outcome. That fails only where jobs leave a rejection over or a rule for lists is met. -/
theorem answered_first {purpose : Text} {functions : Option Functions} {i : Isolate Bound} {v w : World}
    (made : Isolate.create factory purpose functions v = (.ok i, w))
    (free : ∀ f ∈ functions.getD [], Key.ofUnits (Text.toUtf16 f.1) ∉ lookedUp)
    {source : Text} {report : Report} {n : Machine} {u : World}
    (reported : (inner i.core).report (host i.functions i.core) (Text.toUtf16 source) i.core.machine
      (i.receiving source w) = some (report, n, u)) : Answered i source w report n u := by
  obtain ⟨functions_eq, fresh, opened⟩ := made_fresh made
  refine answered_of_ready ?_ opened reported
  rw [fresh, functions_eq]
  refine ready_fresh fun name among => ?_
  obtain ⟨f, bound, rfl⟩ := List.mem_map.mp among
  exact free f bound

/-- The first isolate that is made there, without functions. -/
def firstIsolate : Isolate Bound := ⟨0, "sandbox", [], Bound.fresh {} []⟩

/-- The world then. -/
def firstWorld : World := firstIsolate.entered factory none (World.blank.happen (.asked "sandbox" none))

/-- A program that changes what makes strings and lists, and throws what becomes no string. -/
def stubborn : Text :=
  "String = function () \x7b return 'mine' \x7d; Array = null; " ++
    "throw \x7b toString: function () \x7b throw 'second' \x7d \x7d"

theorem answered_first_stubborn : Isolate.create factory "sandbox" none World.blank = (.ok firstIsolate, firstWorld) ∧
    (firstIsolate.evaluate factory stubborn firstWorld).1.1 =
      .ok { ok := false, value := "second", stringified := false } := by
  have made : Isolate.create factory "sandbox" none World.blank = (.ok firstIsolate, firstWorld) := rfl
  have settled : ((inner firstIsolate.core).report (host [] firstIsolate.core) (Text.toUtf16 stubborn)
      firstIsolate.core.machine (firstIsolate.receiving stubborn firstWorld)).any (fun (r, n, _) =>
        !r.ok && r.text == Text.toUtf16 "second" && !r.stringified && n.jobs.isEmpty &&
          n.unhandled.isEmpty && (inner firstIsolate.core).unruledLists n) = true := by decide +kernel
  obtain ⟨⟨⟨ok, text, stringified⟩, n, u⟩, reported, told⟩ := Option.any_eq_true _ _ |>.mp settled
  simp only [Bool.and_eq_true, Bool.not_eq_true', beq_iff_eq, List.isEmpty_iff] at told
  obtain ⟨⟨⟨⟨⟨rfl, rfl⟩, rfl⟩, jobs⟩, unhandled⟩, unruled⟩ := told
  refine ⟨made, ?_⟩
  rw [(answered_first made (by simp) reported).plain jobs unhandled unruled]
  rfl

/-- A rule for lists can make a program that throws look as if it went well. -/
example : ((firstIsolate.evaluate factory
      "Array.prototype.toJSON = function () \x7b return [true, 'fine', true] \x7d; throw 1"
      firstWorld).1.1.toOption.map fun e => (e.ok, e.value)) = some (true, ("fine" : Text)) := by
  decide +kernel

/-- A rejection that is left over makes the answer a failure, though the program gave a value. -/
example : ((firstIsolate.evaluate factory "Promise.reject('late'); 5" firstWorld).1.1.toOption.map
      fun e => (e.ok, e.value)) = some (false, ("late" : Text)) := by
  decide +kernel

end Isolate.Engine

end ScriptHost
