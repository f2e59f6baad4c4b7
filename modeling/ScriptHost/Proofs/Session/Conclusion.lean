/-
How evaluations end. An evaluation in the isolate of a session returns a text, or ends with the fault of a failed
evaluation just where the isolate gave one, or with whatever other fault it met; the log tells of the first two
once each and of the third not at all, whatever was read, printed or evaluated in sandboxes meanwhile. In all three
cases the session is left as it was, but for what its isolate runs on. A file that cannot be read is not evaluated.
-/
import ScriptHost.Proofs.CommandLine.Paths
import ScriptHost.Proofs.Files
import ScriptHost.Proofs.Session.Operation
import ScriptHost.Proofs.Source.Terminator
import ScriptHost.Proofs.Tacit

namespace ScriptHost

/-- A factory whose isolates end no run with the fault that a host makes of a failed evaluation. -/
def Factory.Unscripted {ι : Type} (F : Factory ι) : Prop :=
  ∀ (functions : Functions) (source : Text) (core : ι) (w : World) (origin text : Text) (stringified : Bool),
    (F.run functions source core w).1.1 ≠ .error (.script origin text stringified)

/-- Isolates that follow a script end as it says. -/
theorem Isolate.Scripted.unscripted {p : Plot}
    (written : ∀ q ∈ p.scenes, ∀ origin text stringified, q.2.raised ≠ some (.script origin text stringified)) :
    (factory p).Unscripted := by
  intro functions source core w origin text stringified ended
  have ended : (p.evaluate functions source w).1 = .error (.script origin text stringified) := ended
  unfold Plot.evaluate at ended
  cases found : p.scenes.find? (·.1 = source) with
  | none =>
    rw [found] at ended
    cases ended
  | some q =>
    rw [found] at ended
    obtain ⟨w', -, called⟩ := acts_calls functions q.2.calls w
    dsimp only at ended
    unfold Scene.play at ended
    rw [Action.bind_apply, called] at ended
    cases raised : q.2.raised with
    | none =>
      simp only [raised] at ended
      cases ended
    | some f =>
      simp only [raised] at ended
      cases ended
      exact written q (List.mem_of_find?_eq_some found) origin text stringified raised

namespace Source

variable {how : Reading} {path : Text} {w : World} {f : Fault}

/-- No fault of the host's own ends a reading, but that of a source that cannot be read. -/
theorem read_own (ended : (read how path w).1 = .error f) :
    f.isOwn = false ∨ ∃ reason, f = .unread path reason := by
  cases found : w.files.read path with
  | error fault =>
    rw [read_of_fault found] at ended
    cases ended
    by_cases nameable : Files.Nameable path
    · obtain ⟨content, other⟩ | ⟨g, same⟩ := Files.read_of_nameable nameable (f := w.files)
      · rw [found] at other
        cases other
      · rw [found] at same
        cases same
        exact .inr ⟨_, rfl⟩
    · obtain ⟨g, same, own, system⟩ := Files.read_of_not_nameable nameable (f := w.files)
      rw [found] at same
      cases same
      left
      cases fault with
      | system => cases system
      | _ => exact own
  | ok content =>
    rw [read_of_found found] at ended
    cases decoded : decode w.files.codecs how.encoding (how.kept content.bytes) with
    | ok t => simp [decoded, Except.mapError] at ended
    | error g =>
      simp only [decoded, Except.mapError] at ended
      cases ended
      have own := decode_foreign decoded
      cases g with
      | decoding d => exact .inr ⟨_, rfl⟩
      | _ => exact .inl own

end Source

namespace Session

open History

variable {ι : Type} {F : Factory ι} {s s' : Session ι} {w w' : World} {origin : Text}

/-! ## What an evaluation comes to -/

/-- From `w` to `w'` something happened to the isolate of a session, and last of all it was done with a source. -/
def Came (s : Session ι) (w w' : World) (outcome : Except Fault Evaluation) : Prop :=
  ∃ i h, s.isolate = some i ∧ w'.history = w.history ++ (h ++ [.gave i.place outcome])

theorem Came.unique {a b : Except Fault Evaluation} (ca : Came s w w' a) (cb : Came s w w' b) : a = b := by
  obtain ⟨i, h, isolate, grown⟩ := ca
  obtain ⟨j, g, isolate', grown'⟩ := cb
  -- both end with what was given last
  have same := List.append_cancel_left (grown.symm.trans grown')
  have last := (List.append_inj' same rfl).2
  injection last with last
  injection last

/-- What a call comes to that evaluates under a name: its end, what it adds to the log, and what it leaves. -/
structure Concluded (origin : Text) (s : Session ι) (w : World) (r : (Except Fault Text × Session ι) × World) :
    Prop where
  /-- A text is what the isolate gave, and is told once. -/
  returned : ∀ t, r.1.1 = .ok t → ∃ e, Came s w r.2 (.ok e) ∧ e.ok = true ∧ e.value = t ∧
    r.2.evaluations = w.evaluations ++ [.evaluationCompleted origin e.duration]
  /-- The fault of a failed evaluation tells what the isolate gave, and that it gave it. -/
  threw : ∀ name text stringified, r.1.1 = .error (.script name text stringified) ↔
    name = origin ∧ ∃ e, Came s w r.2 (.ok e) ∧ e.ok = false ∧ e.value = text ∧ e.stringified = stringified
  failed : ∀ name text stringified, r.1.1 = .error (.script name text stringified) →
    r.2.evaluations = w.evaluations ++ [.evaluationFailed origin text]
  /-- Of any other fault nothing is told. -/
  broke : ∀ f, r.1.1 = .error f → (∀ name text stringified, f ≠ .script name text stringified) →
    r.2.evaluations = w.evaluations
  /-- The session is as it was, but for what its isolate runs on, and the isolate is open. -/
  kept : ∃ core : Isolate ι → ι, r.1.2 = { s with isolate := s.isolate.map fun i => { i with core := core i } }
  unclosed : ∀ i, s.isolate = some i → i.isClosed r.2 = false

/-- A call that never came to evaluate. -/
theorem concluded_of_unevaluated {f : Fault} (other : ∀ name text stringified, f ≠ .script name text stringified)
    (tacit : w'.evaluations = w.evaluations) (uncame : ∀ e, ¬ Came s w w' (.ok e))
    (unclosed : ∀ i, s.isolate = some i → i.isClosed w' = false) :
    Concluded origin s w ((.error f, s), w') where
  returned := by
    rintro t ⟨⟩
  threw name text stringified := by
    constructor
    · intro ended
      exact absurd (Except.error.inj ended) (other name text stringified)
    · rintro ⟨-, e, came, -⟩
      exact absurd came (uncame e)
  failed name text stringified ended := absurd (Except.error.inj ended) (other name text stringified)
  broke _ _ _ := tacit
  kept := by
    refine ⟨fun i => i.core, ?_⟩
    cases s with
    | mk settings isolate tornDown => cases isolate <;> rfl
  unclosed := unclosed

/-- What follows an evaluation in the isolate of a session. -/
def finish (origin : Text) : Except Fault Evaluation → Step ι Text
  | .ok e => Step.act (conclude origin e)
  | .error f => Step.raise f

section Came

variable {i : Isolate ι} {core : ι} {v : World}

theorem kept_core (isolate : s.isolate = some i) (core : ι) :
    ∃ core' : Isolate ι → ι, ({ s with isolate := some { i with core } } : Session ι) =
      { s with isolate := s.isolate.map fun i => { i with core := core' i } } := by
  refine ⟨fun _ => core, ?_⟩
  rw [isolate]
  rfl

theorem unclosed_of_isolate (isolate : s.isolate = some i) (open' : i.isClosed v = false) :
    ∀ j, s.isolate = some j → j.isClosed v = false := by
  intro j same
  cases isolate.symm.trans same
  exact open'

/-- The isolate broke off, and the call with it. -/
theorem concluded_of_broken {f : Fault} (isolate : s.isolate = some i) (came : Came s w v (.error f))
    (tacit : v.evaluations = w.evaluations) (open' : i.isClosed v = false)
    (other : ∀ name text stringified, f ≠ .script name text stringified) :
    Concluded origin s w (finish origin (.error f) { s with isolate := some { i with core } } v) where
  returned := by
    rintro t ⟨⟩
  threw name text stringified := by
    constructor
    · intro ended
      exact absurd (Except.error.inj ended) (other name text stringified)
    · -- what the isolate came to was no result
      rintro ⟨-, e, came', -⟩
      cases came.unique came'
  failed name text stringified ended := absurd (Except.error.inj ended) (other name text stringified)
  broke _ _ _ := tacit
  kept := kept_core isolate core
  unclosed := unclosed_of_isolate isolate open'

/-- The isolate gave a value, which is told of and returned. -/
theorem concluded_of_value {e : Evaluation} (isolate : s.isolate = some i) (came : Came s w v (.ok e))
    (tacit : v.evaluations = w.evaluations) (open' : i.isClosed v = false) (ok : e.ok = true) :
    Concluded origin s w (finish origin (.ok e) { s with isolate := some { i with core } } v) := by
  have ran : finish origin (.ok e) { s with isolate := some { i with core } } v =
      ((.ok e.value, { s with isolate := some { i with core } }),
        v.tell (.event (.evaluationCompleted origin e.duration))) := by
    simp [finish, conclude, ok]
  rw [ran]
  refine ⟨?_, ?_, ?_, ?_, kept_core isolate core, unclosed_of_isolate isolate open'⟩
  · rintro t ⟨⟩
    refine ⟨e, came, ok, rfl, ?_⟩
    rw [World.tell_evaluations, tacit]
    rfl
  · intro name text stringified
    constructor
    · rintro ⟨⟩
    · rintro ⟨-, e', came', failed, -⟩
      cases came.unique came'
      rw [ok] at failed
      cases failed
  · rintro name text stringified ⟨⟩
  · rintro f ⟨⟩

/-- The isolate gave what was thrown, which is told of and raised. -/
theorem concluded_of_thrown {e : Evaluation} (isolate : s.isolate = some i) (came : Came s w v (.ok e))
    (tacit : v.evaluations = w.evaluations) (open' : i.isClosed v = false) (failed : e.ok = false) :
    Concluded origin s w (finish origin (.ok e) { s with isolate := some { i with core } } v) := by
  have ran : finish origin (.ok e) { s with isolate := some { i with core } } v =
      ((.error (.script origin e.value e.stringified), { s with isolate := some { i with core } }),
        v.tell (.event (.evaluationFailed origin e.value))) := by
    simp [finish, conclude, failed]
  rw [ran]
  refine ⟨?_, ?_, ?_, ?_, kept_core isolate core, unclosed_of_isolate isolate open'⟩
  · rintro t ⟨⟩
  · intro name text stringified
    constructor
    · rintro ⟨⟩
      exact ⟨rfl, e, came, failed, rfl, rfl⟩
    · rintro ⟨rfl, e', came', -, rfl, rfl⟩
      cases came.unique came'
      rfl
  · rintro name text stringified ⟨⟩
    rw [World.tell_evaluations, tacit]
    rfl
  · rintro f ⟨⟩ other
    exact absurd rfl (other origin e.value e.stringified)

/-- A call that evaluated, by what its isolate came to. -/
theorem concluded_of_came {outcome : Except Fault Evaluation} (isolate : s.isolate = some i)
    (came : Came s w v outcome) (tacit : v.evaluations = w.evaluations) (open' : i.isClosed v = false)
    (other : ∀ name text stringified, outcome ≠ .error (.script name text stringified)) :
    Concluded origin s w (finish origin outcome { s with isolate := some { i with core } } v) := by
  cases outcome with
  | error f =>
    refine concluded_of_broken isolate came tacit open' fun name text stringified same => ?_
    exact other name text stringified (by rw [same])
  | ok e =>
    cases ok : e.ok with
    | true => exact concluded_of_value isolate came tacit open' ok
    | false => exact concluded_of_thrown isolate came tacit open' ok

end Came

/-! ## Calls -/

/-- What an evaluation in the isolate of an open session comes to. -/
theorem evaluateIn_came (hF : F.Confined) (unscripted : F.Unscripted) (st : Stage F s w) {i : Isolate ι}
    (isolate : s.isolate = some i) (source : Text) :
    ∃ outcome core v, evaluateIn F i source s w = ((outcome, { s with isolate := some { i with core } }), v) ∧
      (∃ h, v.history = w.history ++ (h ++ [.gave i.place outcome])) ∧ v.evaluations = w.evaluations ∧
      i.isClosed v = false ∧ ∀ name text stringified, outcome ≠ .error (.script name text stringified) := by
  obtain ⟨outcome, core, h, v, ran, -, t⟩ := evaluateIn_spec hF st isolate source
  have tacit : (evaluateIn F i source s w).2.evaluations = w.evaluations := by
    obtain ⟨_, _, _, _, _, bound⟩ := st.isolate isolate
    exact Isolate.tacit_evaluate hF (by rw [bound]; exact tacit_functions hF s.settings) source w
  have came : (evaluateIn F i source s w).1.1 =
      (F.run i.functions source i.core (Isolate.receiving i source w)).1.1 := by
    rw [evaluateIn, Isolate.evaluate_of_open (st.isClosed isolate) rfl]
  rw [ran] at tacit came
  refine ⟨outcome, core, v, ran, ⟨.given i.place source :: h, t.grew.history⟩, tacit,
    (st.transition t).isClosed (i := { i with core }) rfl, ?_⟩
  intro name text stringified threw
  exact unscripted _ _ _ _ name text stringified (came.symm.trans threw)

/-- An evaluation from `v` on, as it is seen from an earlier world since which none has ended. -/
theorem concluded_evaluateSource (hF : F.Confined) (unscripted : F.Unscripted) {v : World} (st : Stage F s v)
    {g : History} (grown : v.history = w.history ++ g) (tacit : v.evaluations = w.evaluations)
    (source origin : Text) : Concluded origin s w (evaluateSource F source origin s v) := by
  cases isolate : s.isolate with
  | none =>
    have ran : evaluateSource F source origin s v =
        ((.error (.closed "host runtime is not initialized"), s), v) := by
      simp [evaluateSource, isolate]
    rw [ran]
    refine concluded_of_unevaluated (by simp) tacit ?_ ?_
    · rintro e ⟨i, -, some, -⟩
      rw [isolate] at some
      cases some
    · intro i some
      rw [isolate] at some
      cases some
  | some i =>
    obtain ⟨outcome, core, v', ran, ⟨h, more⟩, tacit', open', other⟩ :=
      evaluateIn_came hF unscripted st isolate source
    have came : Came s w v' outcome := by
      refine ⟨i, g ++ h, isolate, ?_⟩
      rw [more, grown, List.append_assoc, List.append_assoc]
    have same : evaluateSource F source origin s v =
        finish origin outcome { s with isolate := some { i with core } } v' := by
      unfold evaluateSource
      simp only [Step.bind_apply, Step.session_apply, isolate, ran]
      cases outcome <;> rfl
    rw [same]
    exact concluded_of_came isolate came (tacit'.trans tacit) open' other

theorem concluded_evaluateFile (hF : F.Confined) (unscripted : F.Unscripted) (st : Stage F s w) (path : Text) :
    Concluded path s w (evaluateFile F path s w) := by
  have served := Source.read_served (reading s.settings) path w
  have tacit := Source.tacit_read (reading s.settings) path w
  have own : ∀ f, (Source.read (reading s.settings) path w).1 = .error f →
      f.isOwn = false ∨ ∃ reason, f = .unread path reason := fun _ => Source.read_own
  unfold evaluateFile
  simp only [Step.bind_apply, Step.session_apply, Step.act_apply]
  generalize Source.read (reading s.settings) path w = r at served tacit own ⊢
  obtain ⟨f | source, v⟩ := r
  · refine concluded_of_unevaluated ?_ tacit ?_ fun i isolate => (st.served served).isClosed isolate
    · rintro name text stringified rfl
      rcases own _ rfl with foreign | ⟨reason, other⟩
      · cases foreign
      · cases other
    · -- the last that happened is that the file was to be read
      rintro e ⟨i, h, -, grown⟩
      have last := congrArg List.getLast? (List.append_cancel_left (served.history.symm.trans grown))
      rw [List.getLast?_concat] at last
      cases last
  · exact concluded_evaluateSource hF unscripted (st.served served) served.history tacit source path

/-! ## All runs -/

/-- Between any two steps of any operations, every evaluation of a source or of a file ends as its isolate did, tells
of its end just once, or not at all where it broke off, and leaves the session as it was. A file that cannot be read
ends with the fault that kept it from being read; no isolate is given anything then, and nothing is written. -/
theorem evaluations_concluded (hF : F.Confined) (unscripted : F.Unscripted) {settings : Settings} {w₀ : World}
    (new : w₀.isolates = []) {operations : List Operation} (passes : Passes F operations { settings } w₀ s w) :
    (∀ source origin, Concluded origin s w (evaluateSource F source origin s w)) ∧
      (∀ path, Concluded path s w (evaluateFile F path s w)) ∧
      ∀ path f, Source.outcome (reading settings) w₀.files path = .error f →
        ∃ w', evaluateFile F path s w = ((.error f, s), w') ∧ w'.isolates = w.isolates ∧ w'.output = w.output := by
  have fresh : Stage F { settings } w₀ := stage_new settings new
  obtain ⟨h, moved⟩ := passes.path hF fresh
  have st := fresh.path moved
  refine ⟨?_, ?_, ?_⟩
  · intro source origin
    exact concluded_evaluateSource hF unscripted st (List.append_nil _).symm rfl source origin
  · exact concluded_evaluateFile hF unscripted st
  · intro path f unread
    have unread' : Source.outcome (reading s.settings) w.files path = .error f := by
      rw [moved.settings, moved.grew.files]
      exact unread
    obtain ⟨w', ran, served⟩ := evaluateFile_of_unread unread'
    refine ⟨w', ran, ?_, served.output⟩
    rw [served.isolates]
    exact List.append_nil _

/-- Isolates in which one source prints, asks for a sandbox that fails and fails itself, and another breaks off. -/
def upset : Isolate.Scripted.Plot where
  scenes := [
    ("fail", { ok := false, value := "3", stringified := false, calls := [("print", ["x"]), ("sandbox", ["fail"])] }),
    ("break", { raised := some (.memory none) })]

/-- The failing source in a file, the other by itself, and a file that is not there. -/
theorem evaluations_concluded_upset :
    let F := Isolate.Scripted.factory upset
    let w₀ := Source.shelf [0x61] [0x66, 0x61, 0x69, 0x6C, 0x0A]
    let opened := start F { settings := {} } w₀
    (evaluateFile F "a" opened.1.2 opened.2).1.1 = .error (.script "a" "3" false) ∧
      (evaluateFile F "a" opened.1.2 opened.2).2.evaluations = [.evaluationFailed "a" "3"] ∧
      (evaluateSource F "break" "s" opened.1.2 opened.2).1.1 = .error (.memory none) ∧
      (evaluateSource F "break" "s" opened.1.2 opened.2).2.evaluations = [] ∧
      (evaluateFile F "gone" opened.1.2 opened.2).2.isolates = opened.2.isolates := by
  intro F w₀ opened
  have unscripted : F.Unscripted := by
    refine Isolate.Scripted.unscripted ?_
    simp [upset]
  have new : w₀.isolates = [] := rfl
  obtain ⟨sources, files, unread⟩ := evaluations_concluded (Isolate.Scripted.confined upset) unscripted new
    (Passes.step .start [] { settings := {} } w₀)
  have quiet : opened.2.evaluations = [] := rfl
  have failing : (evaluateFile F "a" opened.1.2 opened.2).1.1 = .error (.script "a" "3" false) := rfl
  have breaking : (evaluateSource F "break" "s" opened.1.2 opened.2).1.1 = .error (.memory none) := rfl
  have told := (files "a").failed _ _ _ failing
  have untold := (sources "break" "s").broke _ breaking (by simp)
  obtain ⟨w', ran, isolates, -⟩ := unread "gone" _ rfl
  refine ⟨failing, told.trans ?_, breaking, untold.trans quiet, ?_⟩
  · show opened.2.evaluations ++ _ = _
    rw [quiet]
    rfl
  · exact (congrArg (·.2.isolates) ran).trans isolates

end Session

end ScriptHost
