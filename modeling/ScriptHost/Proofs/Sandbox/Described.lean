/-
How sandboxes describe failures. A program that throws is answered with the string that is made of what it threw, or
else of what making that string threw. Where no string comes of either, where a rejection is left over, and where the
program cannot be read in the first place, there is always a description that is not empty. The string itself can be
empty, and then so is the answer.
-/
import ScriptHost.Proofs.Isolate.Report
import ScriptHost.Proofs.Sandbox.Warning
import ScriptHost.Proofs.Script.Errors
import ScriptHost.Proofs.Script.Written

namespace ScriptHost

theorem Utf16.toText_eq_nil {s : Utf16} : Utf16.toText s = [] ↔ s = [] := by
  rcases s with _ | ⟨u, _ | ⟨v, rest⟩⟩
  · exact ⟨fun _ => rfl, fun _ => rfl⟩
  · exact ⟨nofun, nofun⟩
  · unfold toText
    cases CodePoint.ofPair? u v <;> exact ⟨nofun, nofun⟩

open Script (Bound ErrorKind Key Machine Obj Outcome Ref Report Reply Value)

namespace Script.Engine

variable {σ : Type} {e : Engine} {m : Machine} {host : Host σ} {w u : σ} {n : Machine}

/-! ## What no handler inside the engine sees -/

/-- What is told of something thrown is never empty. -/
theorem gives_thrownText (v : Value) (m : Machine) : (e.thrownText v m).Gives (· ≠ []) := by
  have unknown : ("JSRuntimeError" : Text) ≠ [] := by decide
  unfold thrownText
  refine Run.gives_bind fun r n => ?_
  cases r with
  | error second => exact unknown
  | ok s =>
    cases s with
    | nil => exact unknown
    | cons c rest => exact fun empty => List.cons_ne_nil c rest (Utf16.toText_eq_nil.1 empty)

/-- Nor is the text of any failure. -/
theorem gives_evaluate (source : Utf16) (m : Machine) :
    (e.evaluate source m).Gives fun o => ∀ t, o = .failed t → t ≠ [] := by
  have invalid : ("Invalid Result Value" : Text) ≠ [] := by decide
  have told : ∀ v m, ((do return .failed (← e.thrownText v) : Run Outcome) m).Gives
      fun o => ∀ t, o = .failed t → t ≠ [] := fun v m =>
    .bind (gives_thrownText v m) fun s n full t => by
      rintro ⟨⟩
      exact full
  have openly : (e.evaluateOpenly source m).Gives fun o => ∀ t, o = .failed t → t ≠ [] := by
    unfold evaluateOpenly
    refine Run.gives_bind fun r n => Run.gives_bind fun left n => ?_
    cases left with
    | some reason =>
      -- a rejection that is left over is told of as if it had been thrown
      exact told reason n
    | none =>
      refine Run.gives_bind fun tree n => ?_
      cases tree with
      | some tree => nofun
      | none =>
        rintro t ⟨⟩
        exact invalid
  unfold evaluate
  refine .bind openly.attempt fun r n given => ?_
  cases r with
  | ok o => exact given o rfl
  | error v => exact told v n

/-! ## What was thrown -/

/-- The string that is made of a thrown value is empty, or else the one that is made of what making it throws. -/
def Silent (e : Engine) (host : Host σ) (v : Value) (m : Machine) (w : σ) : Prop :=
  (∃ n u, (e.toUnits v m).ended host w = (some (.ok []), n, u)) ∨
    ∃ second n u n' u', (e.toUnits v m).ended host w = (some (.error second), n, u) ∧
      (e.toUnits second n).ended host u = (some (.ok []), n', u')

/-- The report on a program that threw has an empty text just where what it threw is silent. -/
theorem reportOn_error {v : Value} {report : Report} (reported : e.reportOn host (.error v) m w = some (report, n, u)) :
    report.ok = false ∧ (report.text = [] ↔ e.Silent host v m w) := by
  have named : Utf16.ofString "Error" ≠ [] := by decide
  unfold reportOn at reported
  unfold Silent
  split at reported
  · next s l x first =>
    cases reported
    change (e.toUnits v m).ended host w = _ at first
    exact ⟨rfl, by simp [first]⟩
  · next second l x first =>
    change (e.toUnits v m).ended host w = _ at first
    split at reported
    · next s l' x' again =>
      cases reported
      simp [first, again]
    · next third l' x' again =>
      cases reported
      simp [first, again, named]
    · cases reported
  · cases reported

end Script.Engine

/-! ## Sandboxes -/

namespace Sandbox

open Isolate.Engine Script.Engine

variable {S : Senses}

/-- The answer to a program follows from what the engine makes of it. -/
theorem alone_of_settled {source : Text} {o : Option Outcome} {n : Machine}
    (settled : ((Script.Engine.make bare.bindings).evaluate (Text.toUtf16 source) bare.machine).settle (nobody S) () =
      (o, n, ())) : alone S source = evaluationOf (o.getD (.failed Bound.interrupted)) := by
  have ran : (bare.evaluate (nobody S) source ()).1 = o.getD (.failed Bound.interrupted) := by
    simp only [Bound.evaluate, settled]
  exact congrArg evaluationOf ran

/-- A failure that no handler inside the engine sees has a text. -/
theorem alone_of_failed {source : Text} {o : Option Outcome} {n : Machine}
    (settled : ((Script.Engine.make bare.bindings).evaluate (Text.toUtf16 source) bare.machine).settle (nobody S) () =
      (o, n, ())) (failed : ∀ outcome, o = some outcome → ∃ t, outcome = .failed t) :
    ∃ t, t ≠ [] ∧ alone S source = .ok { ok := false, value := t } := by
  rw [alone_of_settled settled]
  cases o with
  | none =>
    have full : Bound.interrupted ≠ [] := by decide
    exact ⟨_, full, rfl⟩
  | some outcome =>
    obtain ⟨t, rfl⟩ := failed outcome rfl
    rw [Script.Result.settle_eq_ended] at settled
    rcases ended : ((Script.Engine.make bare.bindings).evaluate (Text.toUtf16 source) bare.machine).ended
      (nobody S) () with
      ⟨_ | _ | outcome, l, x⟩
    · rw [ended] at settled
      cases settled
    · rw [ended] at settled
      cases settled
    · rw [ended] at settled
      cases settled
      exact ⟨t, (gives_evaluate _ _).ended ended t rfl, rfl⟩

/-- In a sandbox evaluations find what they need, -/
theorem ready_bare : (inner bare).Ready bare.machine :=
  ready_fresh fun _ among => absurd among List.not_mem_nil

/-- lists meet no rule, -/
theorem intact_bare : Script.Intact (inner bare) bare.machine := by
  have intact : Script.Intact (bottom bare.bindings) bare.machine := by decide +kernel
  exact intact.of_bindings (ofDepth_bindings _ _)

/-- and errors tell their names. -/
theorem tells_bare : (innermost bare).Tells bare.machine .syntaxError := by
  have tells : (bottom bare.bindings).Tells bare.machine .syntaxError := by decide +kernel
  exact tells.of_bindings (ofDepth_bindings _ _)

/-- How the text `t` that is handed back goes with the report on a program that ended. -/
structure Told (S : Senses) (report : Report) (n : Machine) (t : Text) : Prop where
  /-- It is that of the report, where the jobs leave no rejection over and the report meets no rule. -/
  whole : ∀ n', ((Script.Engine.make bare.bindings).leftOver (n.grown report.object)).ended (nobody S) () =
    (some (.ok none), n', ()) → n'.object n.next = report.object → (inner bare).unruled n' n.next = true →
    t = Utf16.toText report.text
  /-- Where no jobs wait and no rejection was left behind, it is enough that lists meet no rule. -/
  plain : n.jobs = [] → n.unhandled = [] → (inner bare).unruledLists n = true → t = Utf16.toText report.text
  /-- Where the jobs leave a rejection over, or never end, it is never empty. -/
  spoiled : (∀ n', ((Script.Engine.make bare.bindings).leftOver (n.grown report.object)).ended (nobody S) () ≠
    (some (.ok none), n', ())) → t ≠ []

theorem told_of_report {source : Text} {report : Report} {n : Machine}
    (reported : (inner bare).report (nobody S) (Text.toUtf16 source) bare.machine () = some (report, n, ())) :
    Told S report n (Evaluation.ofOutcome (alone S source)).value := by
  have ages := innermost_ages bare
  have ready := ready_bare
  rw [inner_eq] at ready reported
  have whole : ∀ n', ((Script.Engine.make bare.bindings).leftOver (n.grown report.object)).ended (nobody S) () =
      (some (.ok none), n', ()) → n'.object n.next = report.object → (inner bare).unruled n' n.next = true →
      (Evaluation.ofOutcome (alone S source)).value = Utf16.toText report.text := by
    intro n' jobs there unruled
    rw [make_eq, inner_eq] at jobs
    rw [inner_eq] at unruled
    have settled := evaluate_report ages ready reported jobs there unruled
    rw [← inner_eq, ← make_eq] at settled
    rw [alone_of_settled settled]
    rfl
  refine ⟨whole, fun jobs unhandled unruled => ?_, fun jobs => ?_⟩
  · refine whole (n.grown report.object) ?_ (Machine.object_next _ n) ?_
    · rw [leftOver_still (m := n.grown report.object) jobs unhandled]
      rfl
    · rw [← unruled]
      exact unruled_report (.refl n) (by simp) rfl report
  · rcases settled : ((Script.Engine.make bare.bindings).evaluate (Text.toUtf16 source) bare.machine).settle
      (nobody S) ()
      with ⟨o, l, ⟨⟩⟩
    obtain ⟨t, full, answer⟩ := alone_of_failed settled (by
      rintro outcome rfl
      rw [make_eq, inner_eq] at jobs settled
      exact evaluate_spoiled ages ready reported (fun n' _ => jobs n') (congrArg Prod.fst settled))
    rw [answer]
    exact full

/-- A program that cannot be read is answered with the name of the error and what there is to complain. -/
theorem told_of_complaint {source complaint : Text}
    (unread : Script.Program.ofSource false (Utf16.toText (Text.toUtf16 source)) = .error complaint) :
    (Evaluation.ofOutcome (alone S source)).value =
      Utf16.toText (ErrorKind.syntaxError.shown (Text.toUtf16 complaint)) := by
  obtain ⟨l, strip, gone⟩ := strip_apply (inner bare) Script.strippedNames bare.machine
  have tells : (innermost bare).Tells l .syntaxError := by
    refine tells_bare.stripped ⟨gone.rest, gone.kind, gone.parent, ?_, gone.others⟩
    have same : (innermost bare).own? = (inner bare).own? := own?_of_bindings
      ((ofDepth_bindings _ _).trans (ofDepth_bindings _ _).symm)
    rw [same]
    exact gone.own
  have program : (inner bare).program (Text.toUtf16 source) bare.machine =
      .thrown (.object l.next) (l.grown (.failure .syntaxError complaint)) := by
    have strict : globalFrame.strict = false := rfl
    rw [Script.Engine.program, Script.Run.bind_apply, strip, Script.Result.follow_value, runGlobally, runSource, strict,
      unread]
    exact throwNew_apply _ _ _
  have units : (inner bare).toUnits (.object l.next) (l.grown (.failure .syntaxError complaint)) =
      .value (ErrorKind.syntaxError.shown (Text.toUtf16 complaint)) (l.grown (.failure .syntaxError complaint)) := by
    rw [inner_eq]
    exact toUnits_failure tells complaint
  have reported : (inner bare).report (nobody S) (Text.toUtf16 source) bare.machine () =
      some (⟨false, ErrorKind.syntaxError.shown (Text.toUtf16 complaint), true⟩,
        l.grown (.failure .syntaxError complaint), ()) := by
    rw [Script.Engine.report, program]
    simp only [Script.Result.ended, reportOn, outcomeOf, units]
    rfl
  obtain ⟨heap, -, rest⟩ := gone.rest
  refine (told_of_report reported).plain ?_ ?_ ?_
  · rw [rest]
    rfl
  · rw [rest]
    rfl
  · have intact := (intact_bare.stripped gone).grown (.failure .syntaxError complaint)
    exact unruled_listing (intact.grown _) intact.next_ne (Machine.object_next _ _) (Nat.zero_le _)

/-- Every program that fails in a sandbox is described by the text that is handed back. One that cannot be read has a
description that names the error and is not empty. That of one that throws is empty where what it threw is silent, and
only there, unless a rejection is left over or a rule for lists is met. -/
theorem failures_described (source : Text) (w : World) : ∃ t w',
    Sandbox.call factory (.text source) w = (.ok t, w') ∧
    (∀ rest, Sandbox.function factory (source :: rest) w = (.ok (.text t), w')) ∧
    (∀ complaint, Script.Program.ofSource false (Utf16.toText (Text.toUtf16 source)) = .error complaint →
      t = Utf16.toText (ErrorKind.syntaxError.shown (Text.toUtf16 complaint)) ∧ t ≠ []) ∧
    ∀ v l report n,
      ((inner bare).program (Text.toUtf16 source) bare.machine).ended
      (nobody w.upcoming) () = (some (.error v), l, ()) →
      (inner bare).reportOn (nobody w.upcoming) (.error v) l () = some (report, n, ()) →
      (report.text = [] ↔ (inner bare).Silent (nobody w.upcoming) v l ()) ∧ Told w.upcoming report n t := by
  have settles : Settled factory w.upcoming (Datum.text source).shown (alone w.upcoming source) :=
    settled w.upcoming source
  obtain ⟨w', returned, _⟩ := evaluate_of_settled confined (quiet []) settles
  refine ⟨(Evaluation.ofOutcome (alone w.upcoming source)).value, w', call_of_ok returned, fun rest => ?_,
    fun complaint unread => ?_, fun v l report n thrown reported => ⟨(reportOn_error reported).2, ?_⟩⟩
  · refine function_of_ok ?_
    exact returned
  · have told := told_of_complaint (S := w.upcoming) unread
    refine ⟨told, ?_⟩
    rw [told]
    exact fun empty => ErrorKind.shown_ne_nil _ _ (Utf16.toText_eq_nil.1 empty)
  · refine told_of_report ?_
    rw [Script.Engine.report, thrown]
    exact reported

/-- The string that a program threw, if it threw one. -/
def thrownUnits? {α : Type} : Option (Except Value α) → Option Utf16
  | some (.error (.string s)) => some s
  | _ => none

theorem eq_of_thrownUnits {α : Type} {r : Option (Except Value α)} {s : Utf16} (threw : thrownUnits? r = some s) :
    r = some (.error (.string s)) := by
  unfold thrownUnits? at threw
  split at threw
  · cases threw
    rfl
  · cases threw

/-- A program that throws an empty string is described by an empty text, and one that cannot be read is not. -/
theorem failures_described_silent :
    (Sandbox.call factory (.text "throw ''") World.blank).1 = .ok [] ∧
      ∃ t, (Sandbox.call factory (.text "throw") World.blank).1 = .ok t ∧ t ≠ [] := by
  constructor
  · obtain ⟨t, w', call, _, _, thrown⟩ := failures_described "throw ''" World.blank
    have ended : thrownUnits? (((inner bare).program (Text.toUtf16 "throw ''") bare.machine).ended
      (nobody World.blank.upcoming) ()).1 =
        some [] ∧
      (let l := (((inner bare).program (Text.toUtf16 "throw ''") bare.machine).ended
          (nobody World.blank.upcoming) ()).2.1
      l.jobs.isEmpty && l.unhandled.isEmpty && (inner bare).unruledLists l) = true := by decide +kernel
    rcases came : ((inner bare).program (Text.toUtf16 "throw ''") bare.machine).ended (nobody World.blank.upcoming) ()
      with ⟨r, l, ⟨⟩⟩
    rw [came] at ended
    obtain ⟨empty, rest⟩ := ended
    obtain rfl := eq_of_thrownUnits empty
    simp only [Bool.and_eq_true, List.isEmpty_iff] at rest
    have told := (thrown _ l ⟨false, [], true⟩ l came rfl).2.plain rest.1.1 rest.1.2 rest.2
    rw [call, told]
    rfl
  · obtain ⟨t, w', call, _, unread, _⟩ := failures_described "throw" World.blank
    have complains : (Script.Program.ofSource false (Utf16.toText (Text.toUtf16 "throw"))).isOk = false := by
      decide +kernel
    rcases parsed : Script.Program.ofSource false (Utf16.toText (Text.toUtf16 "throw")) with complaint | tree
    · exact ⟨t, by rw [call], (unread complaint parsed).2⟩
    · rw [parsed] at complains
      cases complains

end Sandbox

end ScriptHost
