/-
The contract of a run. Unless the bootstrap cannot be read or fails, which ends the run before any file
is looked at, the files are processed in order; the output is what the bootstrap and the files put into
it, the exit code tells whether all files were processed, and every isolate is closed in the end.
-/
import ScriptHost.Proofs.CommandLine.Paths
import ScriptHost.Proofs.Session.Lifecycle

namespace ScriptHost.CommandLine

open History Session

variable {ι : Type} {F : Factory ι} {settings : Settings} {files : Files} {w : World}

/-! ## The bootstrap -/

/-- What happens when the bootstrap is loaded. -/
def loading : Option Text → History
  | none => []
  | some path => [.reading path]

/-- What loading the bootstrap comes to. -/
def loaded (settings : Settings) (files : Files) : Except Fault (Text × Text) :=
  match settings.bootstrapPath with
  | none => .ok (Bootstrap.bundled, Bootstrap.bundledOrigin)
  | some path => (Source.outcome ⟨true, settings.encoding⟩ files path).map fun source => (source, path)

/-- What happens when a session is opened in which `calls` are made while the bootstrap runs. -/
def opening (settings : Settings) (place : Nat) (source : Text) (calls : History)
    (outcome : Except Fault Evaluation) : History :=
  loading settings.bootstrapPath ++ .asked purpose (some functionNames) ::
    .made place purpose (some functionNames) :: .given place source :: (calls ++ [.gave place outcome])

/-- What happens when it is closed. -/
def closing (place : Nat) : History := [.closed place, .released place (.ok ())]

theorem load_apply (settings : Settings) (w : World) :
    ∃ w', Bootstrap.load settings.bootstrapPath settings.encoding w =
        (loaded settings w.files, w') ∧
      w.Served (loading settings.bootstrapPath) w' := by
  unfold loaded
  cases settings.bootstrapPath with
  | none => exact ⟨w, rfl, .refl w⟩
  | some path =>
    have served := Source.read_served ⟨true, settings.encoding⟩ path w
    have result := Source.read_eq_outcome ⟨true, settings.encoding⟩ path w
    rcases hr : Source.read ⟨true, settings.encoding⟩ path w with ⟨r, w'⟩
    rw [hr] at served result
    simp only at served result
    refine ⟨w', ?_, served⟩
    show _ = ((Source.outcome ⟨true, settings.encoding⟩ w.files path).map _, w')
    rw [← result]
    cases r <;> simp [Bootstrap.load, hr, Except.map]

theorem start_of_error {f : Fault} (unread : loaded settings w.files = .error f) :
    ∃ w', start F { settings } w = ((.error f, { settings }), w') ∧
      w.Served (loading settings.bootstrapPath) w' := by
  obtain ⟨w', e, served⟩ := load_apply settings w
  rw [unread] at e
  exact ⟨w', by simp [start, isOpen, e], served⟩

/-- A new session has its isolate made and the bootstrap evaluated in it. -/
theorem start_of_loaded (hF : F.Confined) (quiet : F.Quiet (functions F settings))
    (st : Stage F { settings } w) {source origin : Text}
    (found : loaded settings w.files = .ok (source, origin)) :
    ∃ outcome i calls w', i.place = w.isolates.length ∧ (∃ n, Calls n calls) ∧
      w.Grew (opening settings i.place source calls outcome) w' ∧
      Stage F { settings, isolate := some i } w' ∧
      start F { settings } w = Session.settle F origin outcome { settings, isolate := some i } w' := by
  obtain ⟨w₁, e₁, served⟩ := load_apply settings w
  rw [found] at e₁
  have same : w₁.isolates.length = w.isolates.length := by
    rw [served.isolates]
    cases settings.bootstrapPath <;> simp [loading, sandboxes]
  have st₁ := st.served served
  have started : start F { settings } w = boot F source origin { settings } w₁ := by
    simp [start, isOpen, e₁]
  rcases create_spec hF (s := { settings }) rfl rfl w₁ with
    ⟨f, _, _, _, ⟨v, no⟩, _⟩ | ⟨i, h, w₂, e₂, place, ⟨v, made⟩, t⟩
  · obtain ⟨core, e⟩ := quiet.make v
    rw [e] at no
    cases no
  · obtain ⟨core, e⟩ := quiet.make v
    rw [e] at made
    obtain rfl := made.eq_nil
    rw [same] at place
    have st₂ := st₁.transition t
    obtain ⟨outcome, core, calls, w₃, e₃, hc, t'⟩ := evaluateIn_spec hF st₂ rfl source
    refine ⟨outcome, { i with core }, calls, w₃, place, ⟨_, hc⟩, ?_, st₂.transition t', ?_⟩
    · simpa [opening] using (served.toGrew.trans t.grew).trans t'.grew
    · rw [started, boot_of_ok e₂ e₃]

/-- Closing the session leaves nothing open. -/
theorem tearDown_quiet (hF : F.Confined) {t : Session ι} (quiet : F.Quiet (functions F t.settings))
    (st : Stage F t w) {i : Isolate ι} (isolate : t.isolate = some i) :
    ∃ w', tearDown F t w = ((.ok (), { t with isolate := none, tornDown := true }), w') ∧
      w.Grew (closing i.place) w' ∧ ∀ r ∈ w'.isolates, r.closed = true := by
  obtain ⟨released, h, w', e, ⟨v, same, served⟩, t'⟩ := tearDown_of_some hF st isolate
  rw [quiet.release] at same served
  subst same
  obtain rfl := served.eq_nil
  exact ⟨w', e, t'.grew, (st.transition t').lifecycle.tornDown rfl⟩

/-! ## The contract -/

/-- What a run with these settings on these files does: what happens, the lines that it writes, and its
exit code. -/
inductive Contract (settings : Settings) (files : Files) (paths : List Text) :
    History → List Text → Int → Prop
  /-- The bootstrap cannot be read. -/
  | unreadable {path reason : Text} (unread : loaded settings files = .error (.unread path reason)) :
      Contract settings files paths (loading settings.bootstrapPath) [] 1
  /-- The bootstrap fails. -/
  | failed {source origin : Text} {calls : History} {e : Evaluation}
      (found : loaded settings files = .ok (source, origin)) (called : ∃ n, Calls n calls)
      (failed : e.ok = false) :
      Contract settings files paths (opening settings 0 source calls (.ok e) ++ closing 0)
        calls.printed 1
  /-- The files are processed, up to an ending. -/
  | driven {source origin : Text} {calls : History} {e : Evaluation} {steps : List Processed}
      {ending : Ending} (found : loaded settings files = .ok (source, origin))
      (called : ∃ n, Calls n calls) (ok : e.ok = true)
      (driven : Driven settings files paths steps ending) :
      Contract settings files paths
        (opening settings 0 source calls (.ok e) ++ drivenHistory 0 steps ending ++ closing 0)
        (calls.printed ++ drivenLines steps ending) ending.code

theorem closing_printed (place : Nat) : (closing place).printed = [] := rfl

theorem opening_printed (source : Text) (calls : History) (outcome : Except Fault Evaluation) :
    (opening settings 0 source calls outcome).printed = calls.printed := by
  cases hp : settings.bootstrapPath <;> simp [opening, loading, printed, hp]

theorem mem_opening (settings : Settings) (place : Nat) (source : Text) (calls : History)
    (outcome : Except Fault Evaluation) :
    .made place purpose (some functionNames) ∈ opening settings place source calls outcome ∧
      .gave place outcome ∈ opening settings place source calls outcome := by
  simp [opening]

/-! ## Sessions -/

variable {t t' : Session ι} {w' : World}

theorem runSession_of_error (paths : List Text) {f : Fault} (e : start F t w = ((.error f, t'), w')) :
    (runSession F paths t w).2.history = w'.history := by
  cases f <;> simp [runSession, e, errorLine]

theorem runSession_of_bootstrap (paths : List Text) {text : Text} {code : Int}
    (e : start F t w = ((.error (.bootstrap text code), t'), w')) :
    ∃ n, runSession F paths t w = ((.ok code, t'), w'.tell n) :=
  ⟨_, by simp [runSession, e, errorLine]; rfl⟩

theorem runSession_of_unread (paths : List Text) {p reason : Text}
    (e : start F t w = ((.error (.unread p reason), t'), w')) :
    ∃ n, runSession F paths t w = ((.ok 1, t'), w'.tell n) :=
  ⟨_, by simp [runSession, e, errorLine]; rfl⟩

theorem runSession_of_ok (paths : List Text) (e : start F t w = ((.ok (), t'), w')) :
    runSession F paths t w = within F (runPaths F paths) t' w' := by
  simp [runSession, e]

/-- In an open session a block is run and the session is closed. -/
theorem within_of_open {α : Type} {x : Step ι α} {i : Isolate ι} (isolate : t.isolate = some i)
    (kept : t.tornDown = false) :
    (within F x t w).2 = (tearDown F (x t w).1.2 (x t w).2).2 ∧
      ∀ a t' w', tearDown F (x t w).1.2 (x t w).2 = ((.ok (), t'), w') → (x t w).1.1 = .ok a →
        within F x t w = ((.ok a, t'), w') := by
  have started : start F t w = ((.ok (), t), w) := by simp [start, isOpen, isolate, kept]
  simp only [within, Step.bind_apply, started, Step.attempt_apply]
  refine ⟨?_, ?_⟩
  · rcases tearDown F (x t w).1.2 (x t w).2 with ⟨⟨_ | _, _⟩, _⟩
    · rfl
    · cases (x t w).1.1 <;> rfl
  · intro a t' w' e result
    rw [e, result]
    rfl

theorem settle_of_ok {e : Evaluation} (ok : e.ok = true) (origin : Text) (t : Session ι) (w : World) :
    ∃ n, Session.settle F origin (.ok e) t w = ((.ok (), t), w.tell n) :=
  ⟨_, by simp [Session.settle, ok]; rfl⟩

theorem settle_of_failed (hF : F.Confined) (quiet : F.Quiet (functions F t.settings))
    (st : Stage F t w) {i : Isolate ι} (isolate : t.isolate = some i) {e : Evaluation}
    (failed : e.ok = false) (origin : Text) :
    ∃ text t' w', Session.settle F origin (.ok e) t w = ((.error (.bootstrap text 1), t'), w') ∧
      w.Grew (closing i.place) w' ∧ ∀ r ∈ w'.isolates, r.closed = true := by
  have st' : Stage F t (w.tell (.event (.bootstrapFailed origin e.value))) := st.of_isolates rfl
  obtain ⟨w', torn, grew, closed⟩ := tearDown_quiet hF quiet st' isolate
  refine ⟨"bootstrap " ++ origin ++ " failed: " ++ e.value, { t with isolate := none, tornDown := true },
    w', ?_, ⟨grew.files, grew.history, grew.output, grew.senses⟩, closed⟩
  simp [Session.settle, failed, torn]

theorem within_keeps {α : Type} (hF : F.Confined) {x : Step ι α} (hx : Keeps F x) :
    Keeps F (within F x) := by
  refine .bind (.of_moves (moves_start hF)) fun _ => .bind hx.attempt fun ended =>
    .bind (.of_moves (moves_tearDown hF)) fun _ => ?_
  cases ended with
  | ok a => exact .pure a
  | error f => exact .raise f

/-- In an open session the files are processed and the session is closed. -/
theorem within_runPaths (hF : F.Confined) (quiet : F.Quiet (functions F t.settings)) (st : Stage F t w)
    {i : Isolate ι} (isolate : t.isolate = some i) (kept : t.tornDown = false) {paths : List Text}
    (readable : ∀ path ∈ paths, ∀ f, Source.outcome (reading t.settings) w.files path = .error f →
      ∃ p reason, f = .unread p reason)
    (returned : ∀ f, .gave i.place (.error f) ∉ (within F (runPaths F paths) t w).2.history) :
    ∃ steps ending t' w', within F (runPaths F paths) t w = ((.ok ending.code, t'), w') ∧
      Driven t.settings w.files paths steps ending ∧
      w.Wrote (drivenHistory i.place steps ending ++ closing i.place) (drivenLines steps ending) w' ∧
      ∀ r ∈ w'.isolates, r.closed = true := by
  obtain ⟨torn, ends⟩ := within_of_open (F := F) (x := runPaths F paths) (w := w) isolate kept
  -- closing the session hides nothing that happened before
  have after := (Keeps.of_moves (moves_tearDown hF) (runPaths_keeps hF paths st).1).2
  rw [torn] at returned
  obtain ⟨steps, ending, t', w₁, j, e₁, driven, more, st₁, isolate', same, settings⟩ :=
    runPaths_spec hF paths st isolate readable fun f gave => returned f (after.subset gave)
  obtain ⟨w₂, e₂, grew, closed⟩ := tearDown_quiet hF (settings ▸ quiet) st₁ isolate'
  rw [e₁] at ends
  rw [same] at grew
  have all := more.trans grew.wrote
  rw [closing_printed, List.append_nil] at all
  exact ⟨steps, ending, _, w₂, ends _ _ _ e₂ rfl, driven, all, closed⟩

/-- A session in which files are processed ends as the contract says, where every evaluation in its own
isolate returns a result and files are unreadable at worst. -/
theorem runSession_contract (hF : F.Confined) (quiet : F.Quiet (functions F settings))
    (paths : List Text) (new : w.isolates = [])
    (booting : ∀ f, loaded settings w.files = .error f → ∃ p reason, f = .unread p reason)
    (readable : ∀ path ∈ paths, ∀ f, Source.outcome (reading settings) w.files path = .error f →
      ∃ p reason, f = .unread p reason)
    (returned : ∀ place names, .made place purpose names ∈ (runSession F paths { settings } w).2.history →
      ∀ f, .gave place (.error f) ∉ (runSession F paths { settings } w).2.history) :
    ∃ h lines code t w', runSession F paths { settings } w = ((.ok code, t), w') ∧
      Contract settings w.files paths h lines code ∧ w.Wrote h lines w' ∧
      ∀ r ∈ w'.isolates, r.closed = true := by
  have st : Stage F { settings } w := stage_new settings new
  cases found : loaded settings w.files with
  | error f =>
    obtain ⟨p, reason, rfl⟩ := booting f found
    obtain ⟨w', e, served⟩ := start_of_error (F := F) found
    obtain ⟨n, run⟩ := runSession_of_unread paths e
    have lines : (loading settings.bootstrapPath).printed = [] := by
      cases settings.bootstrapPath <;> rfl
    have none : w'.isolates = [] := by
      rw [served.isolates, new]
      cases settings.bootstrapPath <;> rfl
    refine ⟨_, [], 1, { settings }, w'.tell n, run, .unreadable found, ?_, ?_⟩
    · exact lines ▸ served.toGrew.wrote.tell n
    · simp [none]
  | ok b =>
    obtain ⟨source, origin⟩ := b
    obtain ⟨outcome, i, calls, w', place, called, grew, st', e⟩ := start_of_loaded hF quiet st found
    rw [new, List.length_nil] at place
    rw [place] at grew
    obtain ⟨made₀, gave₀⟩ := mem_opening settings 0 source calls outcome
    have made : .made 0 purpose (some functionNames) ∈ w'.history :=
      grew.history ▸ List.mem_append_right _ made₀
    have gave : .gave 0 outcome ∈ w'.history := grew.history ▸ List.mem_append_right _ gave₀
    have wrote : w.Wrote (opening settings 0 source calls outcome) calls.printed w' :=
      opening_printed source calls outcome ▸ grew.wrote
    cases outcome with
    | error f =>
      have same := runSession_of_error paths e
      rw [same] at returned
      exact absurd gave (returned 0 _ made f)
    | ok r =>
      cases ok : r.ok
      · obtain ⟨text, t', w'', e', grew', closed⟩ := settle_of_failed (F := F)
          (t := { settings, isolate := some i }) hF quiet st' rfl ok origin
        rw [e'] at e
        obtain ⟨n, run⟩ := runSession_of_bootstrap paths e
        rw [place] at grew'
        have all := wrote.trans grew'.wrote
        rw [closing_printed, List.append_nil] at all
        exact ⟨_, _, 1, t', w''.tell n, run, .failed found called ok, all.tell n, closed⟩
      · obtain ⟨n, e'⟩ := settle_of_ok (F := F) ok origin { settings, isolate := some i } w'
        rw [e'] at e
        have run := runSession_of_ok paths e
        have st'' : Stage F { settings, isolate := some i } (w'.tell n) := st'.of_isolates rfl
        have before := (within_keeps hF (runPaths_keeps hF paths) st'').2
        rw [run] at returned
        have files : (w'.tell n).files = w.files := grew.files
        have kept : ∀ f, .gave i.place (.error f) ∉
            (within F (runPaths F paths) { settings, isolate := some i } (w'.tell n)).2.history := by
          rw [place]
          exact returned 0 _ (before.subset made)
        obtain ⟨steps, ending, t', w₁, e₁, driven, more, closed⟩ :=
          within_runPaths (t := { settings, isolate := some i }) hF quiet st'' rfl rfl
            (by rwa [files]) kept
        rw [place] at more
        rw [files] at driven
        refine ⟨_, _, _, _, w₁, run.trans e₁, .driven found called ok driven, ?_, closed⟩
        simpa using (wrote.tell n).trans more

/-! ## Command lines -/

theorem load_snd (path : Text) (w : World) : (Settings.load path w).2 = w := by
  simp only [Settings.load, Action.bind_apply, Action.look_apply]
  split
  · cases w.files.read path with
    | error f => rfl
    | ok content => cases h : Utf8.decode content.bytes <;> simp [h]
  · rfl

/-- Finding the settings changes nothing. -/
theorem settings_snd (o : Options) (w : World) : (CommandLine.settings o w).2 = w := by
  have same := load_snd o.config w
  simp only [CommandLine.settings, Action.bind_apply]
  generalize Settings.load o.config w = r at same ⊢
  obtain ⟨e | s, w'⟩ := r <;> exact same

/-- A command line that names files runs them in a new session, if the settings are valid. -/
theorem run_of_valid {arguments : List Text} {o : Options} {settings : Settings}
    (request : Request.ofArguments arguments = .run o) (nonempty : o.paths ≠ [])
    (valid : (CommandLine.settings o w).1 = .ok settings) :
    (run F arguments w).2 = (runSession F o.paths { settings } w).2 ∧
      ∀ code t w', runSession F o.paths { settings } w = ((.ok code, t), w') →
        (run F arguments w).1.exit = .code code := by
  have found : CommandLine.settings o w = (.ok settings, w) := Prod.ext valid (settings_snd o w)
  have none : o.paths.isEmpty = false := by simpa using nonempty
  rw [run, request]
  simp only [runOptions, none, found]
  rcases runSession F o.paths { settings } w with ⟨⟨r, t⟩, w'⟩
  cases r with
  | error f => exact ⟨rfl, by rintro _ _ _ ⟨⟩⟩
  | ok n => exact ⟨rfl, by rintro _ _ _ ⟨⟩; rfl⟩

/-- A run of a command line that names files, with valid settings, ends as the contract says, where every
evaluation in the isolate of its session returns a result and files are unreadable at worst. -/
theorem run_contract (hF : F.Confined) {settings : Settings}
    (quiet : F.Quiet (functions F settings)) {arguments : List Text} {o : Options}
    (request : Request.ofArguments arguments = .run o) (nonempty : o.paths ≠ [])
    (valid : (CommandLine.settings o w).1 = .ok settings) (new : w.isolates = [])
    (blank : w.history = [])
    (booting : ∀ f, loaded settings w.files = .error f → ∃ p reason, f = .unread p reason)
    (readable : ∀ path ∈ o.paths, ∀ f, Source.outcome (reading settings) w.files path = .error f →
      ∃ p reason, f = .unread p reason)
    (returned : ∀ place names, .made place purpose names ∈ (run F arguments w).2.history →
      ∀ f, .gave place (.error f) ∉ (run F arguments w).2.history) :
    ∃ h lines code, Contract settings w.files o.paths h lines code ∧
      (run F arguments w).1.exit = .code code ∧ (run F arguments w).2.history = h ∧
      (run F arguments w).2.output = w.output.writeLines lines ∧
      ∀ r ∈ (run F arguments w).2.isolates, r.closed = true := by
  obtain ⟨world, exit⟩ := run_of_valid (F := F) request nonempty valid
  rw [world] at returned ⊢
  obtain ⟨h, lines, code, t, w', e, contract, wrote, closed⟩ :=
    runSession_contract hF quiet o.paths new booting readable returned
  have last : (runSession F o.paths { settings } w).2 = w' := by rw [e]
  rw [last]
  exact ⟨h, lines, code, contract, exit code t w' e, by simpa [blank] using wrote.history, wrote.output,
    closed⟩

/-- Isolates that come and go without more ado and follow a script. -/
def steady (p : Isolate.Scripted.Plot) : Factory Unit where
  make _ := return ()
  run := (Isolate.Scripted.factory p).run
  release _ _ := return ()
  announces := true

/-- One source prints and has a value, one fails. -/
def medley : Isolate.Scripted.Plot where
  scenes := [("p", { value := "2", calls := [("print", ["1"])] }), ("t", { ok := false, value := "3" })]

/-- Files `a` and `b` with these sources, and an empty file `c`. -/
def drawer : World := .holding [([[0x61]], .file [0x70] 1), ([[0x62]], .file [0x74] 1), ([[0x63]], .file [] 0)]

theorem run_contract_drawer : ∃ h lines code,
    Contract { bootstrapPath := some "c" } drawer.files ["a", "b", "d"] h lines code ∧
    (run (steady medley) ["--bootstrap", "c", "a", "b", "d"] drawer).1.exit = .code code ∧
    (run (steady medley) ["--bootstrap", "c", "a", "b", "d"] drawer).2.history = h ∧
    (run (steady medley) ["--bootstrap", "c", "a", "b", "d"] drawer).2.output =
      drawer.output.writeLines lines ∧
    ∀ r ∈ (run (steady medley) ["--bootstrap", "c", "a", "b", "d"] drawer).2.isolates,
      r.closed = true := by
  have confined : (steady medley).Confined :=
    ⟨fun _ _ => .rest, (Isolate.Scripted.confined medley).run, fun _ _ _ => .rest⟩
  have quiet : (steady medley).Quiet
      (functions (steady medley) { bootstrapPath := some ("c" : Text) }) :=
    ⟨fun _ => ⟨(), rfl⟩, fun _ _ => rfl⟩
  have request : Request.ofArguments ["--bootstrap", "c", "a", "b", "d"] =
      .run { paths := ["a", "b", "d"], bootstrap := some "c" } := rfl
  have valid : (settings { paths := ["a", "b", "d"], bootstrap := some "c" } drawer).1 =
      .ok { bootstrapPath := some ("c" : Text) } := by
    have read : (settings { paths := ["a", "b", "d"], bootstrap := some "c" } drawer).1.toOption =
        some { bootstrapPath := some ("c" : Text) } := by decide +kernel
    rcases h : (settings { paths := ["a", "b", "d"], bootstrap := some "c" } drawer).1 with f | s
    · rw [h] at read
      cases read
    · rw [h] at read
      exact congrArg Except.ok (Option.some.inj read)
  refine run_contract confined quiet request (by simp) valid rfl rfl ?_ ?_ ?_
  · rintro f ⟨⟩
  · intro path hp f e
    simp only [List.mem_cons, List.not_mem_nil, or_false] at hp
    rcases hp with rfl | rfl | rfl
    · cases e
    · cases e
    · cases e
      exact ⟨_, _, rfl⟩
  · rw [(run_of_valid request (by simp) valid).1]
    have returned : (runSession (steady medley) ["a", "b", "d"] { settings := { bootstrapPath := some "c" } }
        drawer).2.history.all (fun o => !(o matches .gave _ (.error _))) = true := rfl
    intro _ _ _ f gave
    cases List.all_eq_true.1 returned _ gave

end ScriptHost.CommandLine
