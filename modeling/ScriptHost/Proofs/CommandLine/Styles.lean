/-
Runs in different styles of the log. Settings of the log choose which events become lines beside the output, and what
these look like, and nothing else: no step of a session looks at them or at what was reported. So two runs on the same
files whose settings are otherwise the same end the same, write the same output, and do the same with the same
isolates; beside the output the same texts are written, and of the same events each style takes its own.
-/
import ScriptHost.Proofs.CommandLine.Run
import ScriptHost.Proofs.Unlogged

namespace ScriptHost

open ScriptHost.Action

variable {ι α β : Type} {F : Factory ι}

/-- Settings with another style of the log. -/
def Settings.styled (s : Settings) (level : Text) (json : Bool) : Settings :=
  { s with logLevel := level, logJson := json }

/-- A session with another style of the log. -/
def Session.styled (s : Session ι) (level : Text) (json : Bool) : Session ι :=
  { s with settings := s.settings.styled level json }

/-- A session whose isolate, if it has one, has functions that do not look at the log. -/
def Session.Unlogged (s : Session ι) : Prop := ∀ i, s.isolate = some i → i.functions.Unlogged

/-! ## Steps -/

namespace Step

/-- A step that looks neither at the log nor at the style that is asked for, and leaves isolates that do not. -/
def Unlogged (x : Step ι α) : Prop :=
  ∀ s : Session ι, s.Unlogged → ∀ (level : Text) (json : Bool) (log : List Notice) (w : World),
    x (s.styled level json) (w.preceded log) =
      (((x s w).1.1, (x s w).1.2.styled level json), (x s w).2.preceded log) ∧ (x s w).1.2.Unlogged

namespace Unlogged

theorem pure (a : α) : Unlogged (Pure.pure a : Step ι α) := fun _ fine _ _ _ _ => ⟨rfl, fine⟩

theorem raise (f : Fault) : Unlogged (Step.raise f : Step ι α) := fun _ fine _ _ _ _ => ⟨rfl, fine⟩

/-- What follows need only be such a step for what comes of the first. -/
theorem bind_of {x : Step ι α} {f : α → Step ι β} (hx : Unlogged x)
    (hf : ∀ a, (∃ s w, (x s w).1.1 = .ok a) → Unlogged (f a)) : Unlogged (x >>= f) := by
  intro s fine level json log w
  obtain ⟨same, fine'⟩ := hx s fine level json log w
  have came : ∀ a, (x s w).1.1 = .ok a → Unlogged (f a) := fun a yields => hf a ⟨s, w, yields⟩
  rw [Step.bind_apply, Step.bind_apply, same]
  generalize x s w = r at fine' came ⊢
  obtain ⟨⟨e | a, s'⟩, w'⟩ := r
  · exact ⟨rfl, fine'⟩
  · exact came a rfl s' fine' level json log w'

theorem bind {x : Step ι α} {f : α → Step ι β} (hx : Unlogged x) (hf : ∀ a, Unlogged (f a)) : Unlogged (x >>= f) :=
  hx.bind_of fun a _ => hf a

theorem attempt {x : Step ι α} (hx : Unlogged x) : Unlogged (Step.attempt x) := by
  intro s fine level json log w
  obtain ⟨same, fine'⟩ := hx s fine level json log w
  rw [Step.attempt_apply, Step.attempt_apply, same]
  exact ⟨rfl, fine'⟩

theorem act {x : Action α} (hx : Action.Unlogged x) : Unlogged (Step.act x : Step ι α) := by
  intro s fine level json log w
  rw [Step.act_apply, Step.act_apply, hx log w]
  exact ⟨rfl, fine⟩

/-- A step that depends on the session at hand, but not on the style that it asks for. -/
theorem session {f : Session ι → Step ι β} (same : ∀ s level json, f (s.styled level json) = f s)
    (hf : ∀ s, s.Unlogged → Unlogged (f s)) : Unlogged (Step.session >>= f) := by
  intro s fine level json log w
  rw [Step.bind_apply, Step.bind_apply, Step.session_apply, Step.session_apply]
  dsimp only
  rw [same]
  exact hf s fine s fine level json log w

theorem change {f : Session ι → Session ι} (same : ∀ s level json, f (s.styled level json) = (f s).styled level json)
    (fine : ∀ s, s.Unlogged → (f s).Unlogged) : Unlogged (Step.change f) := by
  intro s hs level json log w
  rw [Step.change_apply, Step.change_apply, same]
  exact ⟨rfl, fine s hs⟩

end Unlogged

end Step

open Step

/-! ## Sessions -/

namespace Session

theorem unlogged_tearDown (hF : F.Unlogged) : Step.Unlogged (tearDown F) := by
  unfold tearDown
  refine .session (fun _ _ _ => rfl) fun s fine => ?_
  refine .bind (.change (fun _ _ _ => rfl) fun _ _ _ none => by cases none) fun _ => ?_
  cases isolate : s.isolate with
  | none => exact .pure _
  | some i => exact .act (Isolate.unlogged_close hF (fine i isolate))

theorem unlogged_evaluateIn (hF : F.Unlogged) {i : Isolate ι} (unlogged : i.functions.Unlogged) (source : Text) :
    Step.Unlogged (evaluateIn F i source) := by
  intro s fine level json log w
  obtain ⟨core, same⟩ := Isolate.evaluate_same (F := F) i source w
  rw [evaluateIn, evaluateIn, Isolate.unlogged_evaluate hF unlogged source log w]
  generalize i.evaluate F source w = r at same ⊢
  obtain ⟨⟨outcome, j⟩, v⟩ := r
  obtain rfl : j = { i with core } := same
  refine ⟨rfl, ?_⟩
  rintro _ ⟨⟩
  exact unlogged

theorem unlogged_boot (hF : F.Unlogged) (source origin : Text) : Step.Unlogged (boot F source origin) := by
  unfold boot
  refine .session (fun _ _ _ => rfl) fun s fine => ?_
  have given : ((some (functions F s.settings)).getD []).Unlogged := unlogged_functions hF s.settings
  refine Step.Unlogged.bind_of (.act (Isolate.unlogged_create hF given purpose)) ?_
  rintro i ⟨_, w, made⟩
  -- the isolate has the functions that it was given
  have bound : i.functions.Unlogged := by
    obtain ⟨core, u, _, rfl, _⟩ := Isolate.create_made (Prod.ext made rfl)
    exact given
  refine .bind (.change (fun _ _ _ => rfl) fun _ _ => ?_) fun _ =>
    .bind (unlogged_evaluateIn hF bound source) fun e => ?_
  · rintro _ ⟨⟩
    exact bound
  · split
    · exact .act (.report _)
    · exact .bind (.act (.report _)) fun _ => .bind (unlogged_tearDown hF) fun _ => .raise _

theorem unlogged_load (path : Option Text) (encoding : Text) : Action.Unlogged (Bootstrap.load path encoding) := by
  unfold Bootstrap.load
  split
  · exact .pure _
  · exact .bind (Source.unlogged_read _ _) fun _ => .pure _

theorem unlogged_start (hF : F.Unlogged) : Step.Unlogged (start F) := by
  unfold start
  refine .session (fun _ _ _ => rfl) fun s _ => ?_
  split
  · exact .raise _
  · split
    · exact .pure _
    · exact .bind (.act (unlogged_load _ _)) fun (source, origin) => unlogged_boot hF source origin

theorem unlogged_conclude (origin : Text) (e : Evaluation) : Action.Unlogged (conclude origin e) := by
  unfold conclude
  split
  · exact .bind (.report _) fun _ => .pure _
  · exact .bind (.report _) fun _ => .raise _

theorem unlogged_evaluateSource (hF : F.Unlogged) (source origin : Text) :
    Step.Unlogged (evaluateSource F source origin) := by
  unfold evaluateSource
  refine .session (fun _ _ _ => rfl) fun s fine => ?_
  cases isolate : s.isolate with
  | none => exact .raise _
  | some i =>
    exact .bind (unlogged_evaluateIn hF (fine i isolate) source) fun e => .act (unlogged_conclude origin e)

theorem unlogged_evaluateFile (hF : F.Unlogged) (path : Text) : Step.Unlogged (evaluateFile F path) := by
  unfold evaluateFile
  refine .session (fun _ _ _ => rfl) fun s _ => ?_
  exact .bind (.act (Source.unlogged_read _ _)) fun source => unlogged_evaluateSource hF source path

theorem unlogged_within (hF : F.Unlogged) {x : Step ι α} (hx : Step.Unlogged x) : Step.Unlogged (within F x) := by
  unfold within
  refine .bind (unlogged_start hF) fun _ => .bind hx.attempt fun ended => .bind (unlogged_tearDown hF) fun _ => ?_
  cases ended with
  | ok a => exact .pure _
  | error f => exact .raise _

end Session

/-! ## Command lines -/

namespace CommandLine

theorem unlogged_errorLine (t : Text) : Action.Unlogged (errorLine t) := .notify _

theorem unlogged_runPaths (hF : F.Unlogged) (paths : List Text) : Step.Unlogged (runPaths F paths) := by
  induction paths with
  | nil => exact .pure _
  | cons path rest others =>
    unfold runPaths
    refine .bind (Session.unlogged_evaluateFile hF path).attempt fun r => ?_
    split
    · exact .bind (.act (.writeLine _)) fun _ => others
    · refine .bind (.act (unlogged_errorLine _)) fun _ => .session (fun _ _ _ => rfl) fun s _ => ?_
      split
      · exact .pure _
      · exact .bind (.act (.writeLine _)) fun _ => others
    · exact .bind (.act (unlogged_errorLine _)) fun _ => .pure _
    · exact .raise _

theorem unlogged_runSession (hF : F.Unlogged) (paths : List Text) : Step.Unlogged (runSession F paths) := by
  unfold runSession
  refine .bind (Session.unlogged_start hF).attempt fun r => ?_
  split
  · exact Session.unlogged_within hF (unlogged_runPaths hF paths)
  · exact .bind (.act (unlogged_errorLine _)) fun _ => .pure _
  · exact .bind (.act (unlogged_errorLine _)) fun _ => .pure _
  · exact .raise _

theorem unlogged_complain (text : Text) : Action.Unlogged (complain text) := by
  have each : ∀ ls : List String,
      Action.Unlogged (ls.forM fun l => Action.notify (.line (Text.ofString l)) : Action Unit) := by
    intro ls
    induction ls with
    | nil => exact .pure _
    | cons l ls ih => exact .bind (.notify _) fun _ => ih
  exact .bind (each usageLines) fun _ => .notify _

/-! ## Beside the output -/

/-- The lines of the log among lines beside the output. -/
def logged (lines : List ErrorLine) : List Log.Line :=
  lines.filterMap fun
    | .log l => some l
    | .text _ => none

/-- The texts among lines beside the output. -/
def said (lines : List ErrorLine) : List Text :=
  lines.filterMap fun
    | .log _ => none
    | .text t => some t

/-- The events among notices. -/
def eventsOf (notices : List Notice) : List Event :=
  notices.filterMap fun
    | .event e => some e
    | .line _ => none

/-- Of what was reported a style takes the lines of its events, -/
theorem logged_linesOf (style : Log.Style) (notices : List Notice) :
    logged (notices.flatMap (linesOf style)) = (eventsOf notices).filterMap fun e => style.line? e.record := by
  induction notices with
  | nil => rfl
  | cons n rest ih =>
    have split : logged ((n :: rest).flatMap (linesOf style)) =
        logged (linesOf style n) ++ logged (rest.flatMap (linesOf style)) := by
      rw [List.flatMap_cons, logged, List.filterMap_append]
      rfl
    rw [split, ih]
    cases n with
    | event e => cases line : style.line? e.record <;> simp [logged, linesOf, eventsOf, line]
    | line t =>
      have none : logged (linesOf style (.line t)) = [] := by
        simp [logged, linesOf]
      rw [none]
      rfl

/-- and every style takes the same texts. -/
theorem said_linesOf (style other : Log.Style) (notices : List Notice) :
    said (notices.flatMap (linesOf style)) = said (notices.flatMap (linesOf other)) := by
  induction notices with
  | nil => rfl
  | cons n rest ih =>
    have split : ∀ style : Log.Style, said ((n :: rest).flatMap (linesOf style)) =
        said (linesOf style n) ++ said (rest.flatMap (linesOf style)) := by
      intro style
      rw [List.flatMap_cons, said, List.filterMap_append]
      rfl
    have untold : ∀ (style : Log.Style) (e : Event), said (linesOf style (.event e)) = [] := by
      intro style e
      cases line : style.line? e.record <;> simp [said, linesOf, line]
    rw [split, split, ih]
    cases n with
    | event e => rw [untold, untold]
    | line t => rfl

/-- No event is above the level of errors. -/
theorem line?_of_above {style : Log.Style} (above : 40 < style.least) (e : Event) : style.line? e.record = none := by
  have shown : e.record.shownLevel = e.level := by cases e <;> rfl
  have level : e.level ≤ 40 := by cases e <;> simp [Event.level]
  unfold Log.Style.line?
  rw [shown, if_pos (Int.lt_of_le_of_lt level above)]

/-! ## Two runs -/

/-- How a run that ended as `y`, from `w`, goes with one that ended as `x`, from `v`, when both told `told`. -/
structure Restyled (told : List Notice) (v : World) (x : Ended × World) (w : World) (y : Ended × World) : Prop where
  exit : y.1.exit = x.1.exit
  /-- The log aside they leave the same: the same output, the same isolates with what was evaluated in them, and the
  same history. -/
  world : y.2 = { x.2 with notices := w.notices ++ told }
  /-- What was told came after what had been told before, and nothing of that was looked at. -/
  notices : x.2.notices = v.notices ++ told
  /-- Beside the output each has the lines that its style takes of what was told, -/
  lines : errorLines x.1.style x.2 = errorLines x.1.style v ++ told.flatMap (linesOf x.1.style) ∧
    errorLines y.1.style y.2 = errorLines y.1.style w ++ told.flatMap (linesOf y.1.style)
  /-- which are the same texts, -/
  texts : said (told.flatMap (linesOf y.1.style)) = said (told.flatMap (linesOf x.1.style))
  /-- and the lines of the same events, those below the level left out. -/
  log : ∀ style, logged (told.flatMap (linesOf style)) = (eventsOf told).filterMap fun e => style.line? e.record
  /-- A style above the level of errors has none of them. -/
  silent : ∀ style : Log.Style, 40 < style.least → logged (told.flatMap (linesOf style)) = []

/-- The world without what was reported. -/
def unreported (w : World) : World := { w with notices := [] }

theorem preceded_unreported (w : World) : (unreported w).preceded w.notices = w := by
  simp [unreported, World.preceded]

/-- Runs that leave the same of the same world, but for what had been told before, go together. -/
theorem Restyled.of_preceded {v w base : World} {x y : Ended} (exit : y.exit = x.exit) :
    Restyled base.notices v (x, base.preceded v.notices) w (y, base.preceded w.notices) where
  exit := exit
  world := rfl
  notices := rfl
  lines := ⟨List.flatMap_append, List.flatMap_append⟩
  texts := said_linesOf _ _ _
  log style := logged_linesOf style _
  silent style above := by
    rw [logged_linesOf, List.filterMap_eq_nil_iff]
    exact fun e _ => line?_of_above above e

/-- Two runs on the same files and paths, whose settings are valid and differ in the style of the log only, go
together, whatever had been reported before. -/
theorem run_restyled (hF : F.Unlogged) {a b : List Text} {o p : Options} {s t : Settings} {v w : World}
    (asked : Request.ofArguments a = .run o) (asked' : Request.ofArguments b = .run p) (paths : p.paths = o.paths)
    (valid : (settings o v).1 = .ok s) (valid' : (settings p w).1 = .ok t)
    (alike : t = s.styled t.logLevel t.logJson) (same : w = { v with notices := w.notices }) :
    ∃ told, Restyled told v (run F a v) w (run F b w) := by
  -- each run is the run on the world without reports, with what had been reported put before
  have base : unreported w = unreported v := by
    rw [same]
    rfl
  have found : settings o v = (.ok s, v) := Prod.ext valid (settings_snd o v)
  have found' : settings p w = (.ok t, w) := Prod.ext valid' (settings_snd p w)
  rw [run, run, asked, asked']
  dsimp only
  rw [runOptions, runOptions, paths]
  cases none : o.paths.isEmpty with
  | true =>
    have complained := unlogged_complain "at least one PATH is required"
    have first := complained v.notices (unreported v)
    have second := complained w.notices (unreported w)
    rw [preceded_unreported] at first second
    rw [base] at second
    simp only [first, second, if_true]
    exact ⟨_, .of_preceded rfl⟩
  | false =>
    have fine : ({ settings := s } : Session ι).Unlogged := by
      intro i none
      cases none
    have ran := unlogged_runSession hF o.paths { settings := s } fine
    have first := (ran s.logLevel s.logJson v.notices (unreported v)).1
    have second := (ran t.logLevel t.logJson w.notices (unreported w)).1
    have styled : ({ settings := s } : Session ι).styled t.logLevel t.logJson = { settings := t } := by
      rw [alike]
      rfl
    have unstyled : ({ settings := s } : Session ι).styled s.logLevel s.logJson = { settings := s } := rfl
    rw [preceded_unreported, unstyled] at first
    rw [preceded_unreported, styled, base] at second
    simp only [found, found', first, second, Bool.false_eq_true, if_false]
    cases (runSession F o.paths { settings := s } (unreported v)).1.1 with
    | ok n => exact ⟨_, .of_preceded rfl⟩
    | error f => exact ⟨_, .of_preceded rfl⟩

/-- A file `a` with a program. -/
def shelf : World := .holding [([[0x61]], .file [0x31] 1)]

/-- The same file is run with the log as it is by default, and with objects for all events. -/
theorem run_restyled_shelf : ∃ told, Restyled told shelf (run Isolate.Engine.factory ["a"] shelf)
    (shelf.tell (.line "before"))
    (run Isolate.Engine.factory ["--log-json", "--log-level", "debug", "a"] (shelf.tell (.line "before"))) := by
  have plain : (settings { paths := ["a"] } shelf).1.toOption = some {} := by decide +kernel
  have objects : (settings { paths := ["a"], logJson := true, logLevel := some "debug" }
      (shelf.tell (.line "before"))).1.toOption = some { logLevel := "DEBUG", logJson := true } := by decide +kernel
  have valid : ∀ {r : Except Fault Settings} {s : Settings}, r.toOption = some s → r = .ok s := by
    rintro (f | t) s read
    · cases read
    · cases read
      rfl
  have asked : Request.ofArguments ["a"] = .run { paths := ["a"] } := rfl
  have asked' : Request.ofArguments ["--log-json", "--log-level", "debug", "a"] =
      .run { paths := ["a"], logJson := true, logLevel := some "debug" } := rfl
  exact run_restyled Isolate.Engine.unlogged asked asked' rfl (valid plain) (valid objects) rfl rfl

end CommandLine

end ScriptHost
