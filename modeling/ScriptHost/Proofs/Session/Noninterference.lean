/-
What sandboxes on the engine depend on, and what they leave. A source runs on a fresh machine without
functions, so what it comes to in a session and a world is a matter of the source and of what the world
shows to that machine of the time, of chance and of the place, and of that only as far as the source asks
for it: a source that does not ask comes to the same everywhere. Nothing but the record of one closed
sandbox, and the history of making and closing it, is left. A script that calls for a sandbox has its
string evaluated likewise, on a machine where what the call goes through is as it was in the beginning;
where a script has changed that, another text may be handed over, which is then evaluated in the same way.
-/
import ScriptHost.Proofs.Isolate.Engine
import ScriptHost.Proofs.Script.HostCall
import ScriptHost.Proofs.Script.Bound
import ScriptHost.Proofs.Session.Functions

namespace ScriptHost

open Isolate.Engine (factory alone)
open Script (Bound Engine Intact Machine Question Ref Reply Value)

/-- The evaluation of a source in a sandbox on the engine that is shown `S`. -/
def Sandbox.evaluation (S : Senses) (t : Text) : Evaluation := .ofOutcome (alone S t)

/-- What a source asks for in such a sandbox. -/
def Sandbox.questions (S : Senses) (t : Text) : List Question := Isolate.Engine.questions S t

/-- Where what is shown is the same for all that it asks, a source has the same evaluation. -/
theorem Sandbox.evaluation_of_questions {S T : Senses} {t : Text}
    (same : ∀ q ∈ Sandbox.questions S t, S.Agrees T q) : Sandbox.evaluation S t = Sandbox.evaluation T t :=
  congrArg Evaluation.ofOutcome (Isolate.Engine.alone_of_questions same)

/-- Something that a function of the host did, or that was done to call it. -/
def Occurrence.ofFunction : Occurrence → Bool
  | .called .. | .returned _ | .reading _ => true
  | _ => false

namespace Session

/-- `w` is `v` after the source `t` was evaluated in a sandbox: what was there is as it was, and there is
one more isolate, which is closed. What is reported of it is left aside. -/
structure Evaluated (t : Text) (v w : World) : Prop where
  files : w.files = v.files
  output : w.output = v.output
  isolates : w.isolates = v.isolates ++ [Sandbox.record t]
  senses : w.senses = v.senses
  /-- No function of the host was called and no file was read. -/
  history : ∃ h, w.history = v.history ++ h ∧ ∀ o ∈ h, o.ofFunction = false

theorem evaluated_of_served {t : Text} {n : Nat} {outcome : Except Fault Evaluation} {v w : World}
    (s : v.Served (Sandbox.smooth n t outcome) w) : Evaluated t v w where
  files := s.files
  output := s.output
  isolates := s.isolates
  senses := s.senses
  history := ⟨_, s.history, by simp [Sandbox.smooth, Occurrence.ofFunction]⟩

/-- A sandbox evaluates a source to its evaluation, by what the world shows to it. -/
theorem evaluate_sandbox (source : Datum) (w : World) :
    ∃ w', Sandbox.evaluate factory source w = (.ok (Sandbox.evaluation w.upcoming source.shown), w') ∧
      Evaluated source.shown w w' := by
  obtain ⟨w', e, served⟩ := Sandbox.evaluate_of_settled (w := w) Isolate.Engine.confined
    (Isolate.Engine.quiet []) (Isolate.Engine.settled w.upcoming source.shown)
  exact ⟨w', e, evaluated_of_served served⟩

theorem call_sandbox (source : Datum) (w : World) :
    ∃ w', Sandbox.call factory source w = (.ok (Sandbox.evaluation w.upcoming source.shown).display, w') ∧
      Evaluated source.shown w w' := by
  obtain ⟨w', e, left⟩ := evaluate_sandbox source w
  exact ⟨w', by simp [Sandbox.call, e], left⟩

/-- `w` is `v` after a function that evaluates in a sandbox was called and evaluated `t`. -/
def Called (arguments : List Text) (t : Text) (v w : World) : Prop :=
  ∃ w', Evaluated t (v.happen (.called "sandbox" arguments)) w' ∧ w = w'.happen (.returned "sandbox")

theorem Called.isolates {arguments : List Text} {t : Text} {v w : World} (called : Called arguments t v w) :
    w.isolates = v.isolates ++ [Sandbox.record t] := by
  obtain ⟨w', left, rfl⟩ := called
  exact left.isolates

/-- What was evaluated can be told from the record that is left. -/
theorem Called.source {arguments : List Text} {t u : Text} {v w : World} (a : Called arguments t v w)
    (b : Called arguments u v w) : t = u := by
  have same : Sandbox.record t = Sandbox.record u :=
    List.singleton_inj.1 (List.append_cancel_left (a.isolates.symm.trans b.isolates))
  have sources : [t] = [u] := congrArg IsolateRecord.sources same
  exact List.singleton_inj.1 sources

/-- The source that a list of arguments asks a sandbox to evaluate. -/
def sourceOf (arguments : List Text) : Text := arguments.headD Sandbox.missingSource

/-- The function of a session that evaluates in a sandbox, called with any arguments. -/
theorem function_sandbox (arguments : List Text) (w : World) :
    ∃ w', (recorded "sandbox" (Sandbox.function factory)).2 arguments w =
        (.ok (.text (Sandbox.evaluation w.upcoming (sourceOf arguments)).display), w') ∧
      Called arguments (sourceOf arguments) w w' := by
  obtain ⟨w', e, left⟩ := call_sandbox (.text (arguments.headD Sandbox.missingSource))
    (w.happen (.called "sandbox" arguments))
  refine ⟨w'.happen (.returned "sandbox"), ?_, w', left, rfl⟩
  rw [recorded_apply, Sandbox.function, Action.bind_apply, e]
  rfl

theorem answer_sandbox (settings : Settings) {d : Datum} {items : List Datum}
    (list : Bridge.argumentsOf d = .ok items) (w : World) :
    ∃ w', Bridge.answer (functions factory settings) "sandbox" d w =
        (.value (.text (Sandbox.evaluation w.upcoming (sourceOf (items.map Datum.shown))).display), w') ∧
      Called (items.map Datum.shown) (sourceOf (items.map Datum.shown)) w w' := by
  obtain ⟨w', ran, called⟩ := function_sandbox (items.map Datum.shown) w
  have found : (functions factory settings).find? (·.1 = ("sandbox" : Text)) =
      some (recorded "sandbox" (Sandbox.function factory)) := rfl
  refine ⟨w', ?_, called⟩
  simp only [Bridge.answer, found, Bridge.call, list, ran]
  rfl

/-! ## Calls by scripts -/

section Calls

variable (S : Senses) (settings : Settings)

/-- What answers the questions of scripts of a session that are shown `S`. -/
abbrev host : Script.Host World := .sensing S (Bridge.answer (functions factory settings))

/-- A call for a sandbox, after whose answer a script ends, is settled as that of a source exactly where it
hands over that source and the script ends with what the source comes to, the machine being as it was. -/
theorem settle_asked {m n : Machine} {t : Text} {d : Datum} {items : List Datum}
    {next : Reply → Script.Result Value} {v : Value} {w : World} (list : Bridge.argumentsOf d = .ok items)
    (back : next (.value (.text (Sandbox.evaluation w.upcoming (sourceOf (items.map Datum.shown))).display)) =
      .value v n) :
    (∃ n' w', (Script.Result.ask (.call "sandbox" d) next).settle (host S settings) w =
        (some (.string (Text.toUtf16 (Sandbox.evaluation w.upcoming t).display)), n', w') ∧
      m.Extends n' ∧ Called (items.map Datum.shown) t w w') ↔
    sourceOf (items.map Datum.shown) = t ∧
      v = .string (Text.toUtf16 (Sandbox.evaluation w.upcoming t).display) ∧ m.Extends n := by
  obtain ⟨w', answered, called⟩ := answer_sandbox settings list w
  have settled : (Script.Result.ask (.call "sandbox" d) next).settle (host S settings) w = (some v, n, w') := by
    rw [Script.Result.settle_ask, host, Script.Host.sensing, answered]
    show (next (.value (.text (Sandbox.evaluation w.upcoming (sourceOf _)).display))).settle _ _ = _
    rw [back]
    rfl
  rw [settled]
  constructor
  · rintro ⟨n', w'', ends, more, called'⟩
    cases ends
    exact ⟨called.source called', rfl, more⟩
  · rintro ⟨rfl, rfl, more⟩
    exact ⟨n, w', rfl, more, called⟩

/-- On an intact machine a string is evaluated as it is and its text comes back. -/
theorem settle_string {e : Engine} {m : Machine} (h : Intact e m) (u : Utf16) (w : World) :
    ∃ n w', (e.above.above.callHost "sandbox" [.string u] m).settle (host S settings) w =
        (some (.string (Text.toUtf16 (Sandbox.evaluation w.upcoming (Utf16.toText u)).display)), n, w') ∧
      m.Extends n ∧ Called [Utf16.toText u] (Utf16.toText u) w w' := by
  obtain ⟨next, asks, back⟩ := Engine.callHost_string h "sandbox" u
  obtain ⟨n, value, more⟩ := back (Sandbox.evaluation w.upcoming (Utf16.toText u)).display
  have list : Bridge.argumentsOf (.list [.text (Utf16.toText u)]) = .ok [.text (Utf16.toText u)] := rfl
  rw [asks]
  exact (settle_asked S settings list value).2 ⟨rfl, rfl, more⟩

end Calls

/-! ## Noninterference -/

/-- A source has one evaluation, however and wherever a sandbox is asked for it, among worlds that show the same for
what it asks. -/
structure Noninterference (t : Text) : Prop where
  /-- No more of what is shown counts than the answers to what the source asks: the time and chance at its readings,
  and the zone. One that asks nothing has one evaluation in all worlds. -/
  shown : ∀ S T : Senses, (∀ q ∈ Sandbox.questions S t, S.Agrees T q) →
    Sandbox.evaluation S t = Sandbox.evaluation T t
  /-- The host asks for the evaluation. The session stays as it is, the machine of its isolate included. -/
  evaluate : ∀ (source : Datum) (s : Session Bound) (w : World), source.shown = t →
    ∃ w', Step.act (Sandbox.evaluate factory source) s w = ((.ok (Sandbox.evaluation w.upcoming t), s), w') ∧
      Evaluated t w w'
  /-- The host asks for the text. -/
  call : ∀ (source : Datum) (s : Session Bound) (w : World), source.shown = t →
    ∃ w', Step.act (Sandbox.call factory source) s w =
        ((.ok (Sandbox.evaluation w.upcoming t).display, s), w') ∧
      Evaluated t w w'
  /-- So two sessions have the same evaluation of it, in worlds that show the same for what it asks. -/
  agree : ∀ (source : Datum) (r s : Session Bound) (v w : World), source.shown = t →
    (∀ q ∈ Sandbox.questions v.upcoming t, v.upcoming.Agrees w.upcoming q) →
    (Step.act (Sandbox.evaluate factory source) r v).1.1 = (Step.act (Sandbox.evaluate factory source) s w).1.1
  /-- A script calls the function with the source, on a machine where what such a call goes through is
  as it was in the beginning. Everything on the machine stays as it is; the list of arguments and the
  object of the answer are new. -/
  script : ∀ (S : Senses) (settings : Settings) (bindings : List (Script.Key × Ref)) (depth : Nat) (m : Machine)
    (f : Ref) (this : Value) (u : Utf16) (w : World), Intact (Engine.bottom bindings) m →
    (m.object f).kind = .host "sandbox" → Utf16.toText u = t →
    ∃ n w', ((Engine.ofDepth bindings (depth + 3)).call (.object f) this [.string u] m).settle
        (host S settings) w = (some (.string (Text.toUtf16 (Sandbox.evaluation w.upcoming t).display)), n, w') ∧
      m.Extends n ∧ Called [t] t w w'
  /-- A script of a session asks, whatever it did before and whatever its machine is by then. The
  first of the arguments that it hands over is what is evaluated. -/
  asked : ∀ (S : Senses) (settings : Settings) (d : Datum) (items : List Datum) (w : World),
    Bridge.argumentsOf d = .ok items → sourceOf (items.map Datum.shown) = t →
    ∃ w', host S settings (.call "sandbox" d) w =
        (.value (.text (Sandbox.evaluation w.upcoming t).display), w') ∧
      Called (items.map Datum.shown) t w w'
  /-- So a call that hands arguments over, and ends with a value when it is answered, is answered for the
  source exactly where the first of the arguments is the source and the value is the answer; and it
  leaves the machine as it was exactly where it does so itself. -/
  exactly : ∀ (S : Senses) (settings : Settings) (m n : Machine) (d : Datum) (items : List Datum)
    (next : Reply → Script.Result Value) (v : Value) (w : World), Bridge.argumentsOf d = .ok items →
    next (.value (.text (Sandbox.evaluation w.upcoming (sourceOf (items.map Datum.shown))).display)) =
      .value v n →
    ((∃ n' w', (Script.Result.ask (.call "sandbox" d) next).settle (host S settings) w =
        (some (.string (Text.toUtf16 (Sandbox.evaluation w.upcoming t).display)), n', w') ∧
      m.Extends n' ∧ Called (items.map Datum.shown) t w w') ↔
    sourceOf (items.map Datum.shown) = t ∧
      v = .string (Text.toUtf16 (Sandbox.evaluation w.upcoming t).display) ∧ m.Extends n)

/-- Sandboxes do not interfere with sessions, nor sessions with sandboxes. What a source comes to depends
on the source and on what is shown for the questions that it asks, so any two sessions agree on it where
these have the same answers, whatever was evaluated in either of them. -/
theorem sandbox_noninterference (t : Text) : Noninterference t where
  shown := fun _ _ => Sandbox.evaluation_of_questions
  evaluate := by
    rintro source s w rfl
    obtain ⟨w', e, left⟩ := evaluate_sandbox source w
    exact ⟨w', by rw [Step.act_apply, e], left⟩
  call := by
    rintro source s w rfl
    obtain ⟨w', e, left⟩ := call_sandbox source w
    exact ⟨w', by rw [Step.act_apply, e], left⟩
  agree := by
    rintro source r s v w rfl same
    obtain ⟨v', here, -⟩ := evaluate_sandbox source v
    obtain ⟨w', there, -⟩ := evaluate_sandbox source w
    rw [Step.act_apply, Step.act_apply, here, there, Sandbox.evaluation_of_questions same]
  script := by
    rintro S settings bindings depth m f this u w intact kind rfl
    -- one level is spent on the call, and two on what it calls
    have called : (Engine.ofDepth bindings (depth + 3)).call (.object f) this [.string u] m =
        (Engine.ofDepth bindings depth).above.above.callHost "sandbox" [.string u] m :=
      Engine.callValue_host kind this _
    rw [called]
    exact settle_string S settings (intact.of_bindings (Engine.ofDepth_bindings bindings depth)) u w
  asked := by
    rintro S settings d items w list rfl
    exact answer_sandbox settings list w
  exactly := by
    intro S settings m n d items next v w list back
    exact settle_asked S settings list back

/-- The isolate of a session before anything was evaluated in it. -/
def begun : Bound := Bound.fresh {} ((functions factory {}).map (·.1))

/-- The function that evaluates in a sandbox, there. -/
def begunSandbox : Ref := (Machine.fresh.grown (Bound.functionObject "print")).next

theorem begunSandbox_kind : (begun.machine.object begunSandbox).kind = .host "sandbox" := by
  decide +kernel

/-- A sum asks nothing, so it has one evaluation whatever is shown. -/
theorem sandbox_noninterference_begun : Intact (Engine.bottom begun.bindings) begun.machine ∧
    (∀ S settings w, ∃ n w', ((Engine.make begun.bindings).call (.object begunSandbox) .undefined
        [.string "1 + 1"] begun.machine).settle (host S settings) w =
          (some (.string (Text.toUtf16 (Sandbox.evaluation w.upcoming "1 + 1").display)), n, w') ∧
      begun.machine.Extends n ∧ Called ["1 + 1"] "1 + 1" w w') ∧
    ∀ S T, Sandbox.evaluation S "1 + 1" = Sandbox.evaluation T "1 + 1" := by
  have intact : Intact (Engine.bottom begun.bindings) begun.machine := by decide +kernel
  have nothing : (Isolate.Engine.bareRun "1 + 1").asksNothing = true := by decide +kernel
  refine ⟨intact, fun S settings w => ?_, fun S T => (sandbox_noninterference "1 + 1").shown S T fun q asked => ?_⟩
  · exact (sandbox_noninterference "1 + 1").script S settings begun.bindings 19997 begun.machine begunSandbox .undefined
      "1 + 1" w intact begunSandbox_kind rfl
  · rw [Sandbox.questions, Isolate.Engine.questions, Script.Result.questions_of_asksNothing nothing] at asked
    exact absurd asked List.not_mem_nil

/-- What asks for the time has the evaluation that the clock gives it. -/
example : (Sandbox.evaluation {} "Date.now()").value = ("0" : Text) ∧
    (Sandbox.evaluation { time := fun _ => 1 } "Date.now()").value = ("1" : Text) := by
  decide +kernel

/-- Not every machine hands a source over as it is: here `2` is evaluated for `1`. -/
example : (Isolate.Engine.evaluationOf (begun.evaluate (host {} {})
      "String = function () \x7b return '2' \x7d; sandbox('1')"
      World.blank).1).toOption.map (·.value) = some ("2" : Text) := by
  decide +kernel

end Session

end ScriptHost
