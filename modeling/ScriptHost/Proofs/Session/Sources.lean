/-
The three ways in which a session comes by the source at a path: as a file to evaluate, as the text that a function
of the host returns to a script, and as the bootstrap. Over every run the first two come to the same text or to the
same fault. The bootstrap is read in the same encoding, but always without its terminator, whatever the settings say,
so it is what the others come to just as far as dropping the terminator makes no difference. In none of the three ways
does an accepted encoding end the reading of a file with a fault of another kind than an unreadable source has, unless
its name stands for a transform that gives no text.
-/
import ScriptHost.Proofs.Session.Delivery
import ScriptHost.Proofs.Source.Accepted
import ScriptHost.Proofs.Source.Terminator

namespace ScriptHost

/-- The sources that isolates of sessions were given, the first first. -/
def World.received (w : World) : List Text := w.hosts.flatMap (·.sources)

namespace Session

open CommandLine History Source

variable {ι α : Type} {F : Factory ι} {s s' : Session ι} {w w' : World} {path : Text}

/-! ## What is received -/

theorem received_of_hosts (same : w'.hosts = w.hosts) : w'.received = w.received := by
  unfold World.received
  rw [same]

theorem conclude_received (origin : Text) (e : Evaluation) (w : World) :
    (conclude origin e w).2.received = w.received := by
  obtain ⟨n, told⟩ := conclude_apply origin e w
  rw [told]
  rfl

theorem tearDown_received (hF : F.Confined) (st : Stage F s w) : (tearDown F s w).2.received = w.received := by
  cases isolate : s.isolate with
  | none => rw [tearDown_of_none isolate]
  | some i =>
    obtain ⟨released, h, w', torn, -, t⟩ := tearDown_of_some hF st isolate
    obtain ⟨sources, had, has⟩ := t.hosts_closed st isolate
    rw [torn]
    unfold World.received
    rw [had, has]
    rfl

/-- What follows the evaluation of the bootstrap gives nothing more. -/
theorem settle_received (hF : F.Confined) (st : Stage F s w) (origin : Text) (outcome : Except Fault Evaluation) :
    (settle F origin outcome s w).2.received = w.received := by
  unfold settle
  split
  · rfl
  · next e =>
    split
    · rfl
    · have told : Stage F s (w.tell (.event (.bootstrapFailed origin e.value))) := st.of_isolates rfl
      have kept := tearDown_received hF told
      simp only [Step.bind_apply, Step.act_apply, Action.report_apply]
      generalize tearDown F s _ = r at kept ⊢
      obtain ⟨⟨f | u, t⟩, v⟩ := r
      · exact kept
      · exact kept

/-- The isolate of an open session is given one source more. -/
theorem evaluateIn_received (hF : F.Confined) (st : Stage F s w) {i : Isolate ι} (isolate : s.isolate = some i)
    (source : Text) : (evaluateIn F i source s w).2.received = w.received ++ [source] := by
  obtain ⟨outcome, core, g, w', ran, -, t⟩ := evaluateIn_spec hF st isolate source
  obtain ⟨sources, had, has⟩ := t.hosts_evaluated st isolate
  rw [ran]
  unfold World.received
  rw [had, has]
  simp [record]

theorem evaluateSource_received (hF : F.Confined) (st : Stage F s w) (isOpen : s.isOpen = true) (source origin : Text) :
    (evaluateSource F source origin s w).2.received = w.received ++ [source] := by
  obtain ⟨i, isolate⟩ := Option.isSome_iff_exists.mp isOpen
  have given := evaluateIn_received hF st isolate source
  unfold evaluateSource
  simp only [Step.bind_apply, Step.session_apply, isolate]
  generalize evaluateIn F i source s w = r at given ⊢
  obtain ⟨⟨f | e, t⟩, v⟩ := r
  · exact given
  · exact (conclude_received origin e v).trans given

/-! ## How a source is obtained -/

/-- A step gives to the isolate of a session the source that was found, or ends with the fault that kept it from
being found and gives nothing. -/
inductive Hands (w : World) (r : (Except Fault α × Session ι) × World) : Except Fault Text → Prop
  | given {t : Text} (received : r.2.received = w.received ++ [t]) : Hands w r (.ok t)
  | failed {f : Fault} (ended : r.1.1 = .error f) (received : r.2.received = w.received) : Hands w r (.error f)

/-- What the source at a path is for a session in each of the three ways: `found` as a file and for a script, and
`boot` as the bootstrap. -/
structure Obtained (F : Factory ι) (path : Text) (found boot : Except Fault Text) (s : Session ι) (w : World) :
    Prop where
  file : s.isOpen = true → Hands w (evaluateFile F path s w) found
  /-- Whatever else the world has become by the time a script asks. -/
  script : ∀ (rest : List Text) (v : World), v.files = w.files →
    (callByName F "readfile" (path :: rest) s v).1.1 = found.map .text
  /-- A bootstrap that was found is given to the isolate, if one can be made. -/
  bootstrap : s.settings.bootstrapPath = some path → s.isOpen = false → s.tornDown = false →
    Hands w (start F s w) boot ∨
      (∃ t, boot = .ok t) ∧
        ∃ f, (start F s w).1.1 = .error f ∧ (start F s w).2.history.getLast? = some (.refused f)

theorem evaluateFile_hands (hF : F.Confined) (st : Stage F s w) (isOpen : s.isOpen = true) (path : Text) :
    Hands w (evaluateFile F path s w) (outcome (reading s.settings) w.files path) := by
  cases came : outcome (reading s.settings) w.files path with
  | error f =>
    obtain ⟨w', ran, served⟩ := evaluateFile_of_unread came
    refine .failed ?_ ?_
    · rw [ran]
    · rw [ran]
      exact received_of_hosts (served_hosts served)
  | ok t =>
    have served := Source.read_served (reading s.settings) path w
    have read := Source.read_eq_outcome (reading s.settings) path w
    rw [came] at read
    refine .given ?_
    unfold evaluateFile
    simp only [Step.bind_apply, Step.session_apply, Step.act_apply]
    generalize Source.read (reading s.settings) path w = r at served read ⊢
    obtain ⟨_, v⟩ := r
    cases read
    -- reading gives nothing to an isolate, so what is given is the one source evaluated after it
    rw [← received_of_hosts (served_hosts served)]
    exact evaluateSource_received hF (st.served served) isOpen t path

theorem callByName_readfile (path : Text) (rest : List Text) (s : Session ι) (w : World) :
    (callByName F "readfile" (path :: rest) s w).1.1 =
      (outcome (reading s.settings) w.files path).map .text := by
  have found : (functions F s.settings).find? (·.1 = Text.ofString "readfile") =
      some (recorded "readfile" (readFunction s.settings)) := rfl
  have read := Source.read_eq_outcome (reading s.settings) path (w.happen (.called "readfile" (path :: rest)))
  rw [World.happen_files] at read
  unfold callByName
  simp only [Step.bind_apply, Step.session_apply, found, Step.act_apply, recorded_apply, readFunction,
    List.headD_cons, Action.bind_apply]
  rw [← read]
  rcases Source.read (reading s.settings) path _ with ⟨f | t, v⟩
  · rfl
  · rfl

theorem boot_hands (hF : F.Confined) (st : Stage F s w) (isolate : s.isolate = none) (kept : s.tornDown = false)
    (source origin : Text) :
    (boot F source origin s w).2.received = w.received ++ [source] ∨
      ∃ f, (boot F source origin s w).1.1 = .error f ∧
        (boot F source origin s w).2.history.getLast? = some (.refused f) := by
  -- a session that is neither open nor torn down has made no isolate yet
  have nothing : w.hosts = [] := by
    cases st with
    | fresh _ _ rest => exact rest.hosts
    | running _ _ yes => rw [isolate] at yes; cases yes
    | past _ torn => rw [kept] at torn; cases torn
  rcases create_spec hF isolate kept w with ⟨f, h, w', made, -, t⟩ | ⟨i, h, w₁, made, -, -, t⟩
  · refine .inr ⟨f, ?_, ?_⟩
    · rw [boot_of_error made]
    · rw [boot_of_error made, t.grew.history, ← List.cons_append, ← List.append_assoc]
      exact List.getLast?_concat
  · left
    have st₁ := st.transition t
    have given := evaluateIn_received hF st₁ rfl source
    obtain ⟨outcome, core, g, w₂, ran, -, t'⟩ := evaluateIn_spec hF st₁ rfl source
    rw [ran] at given
    rw [boot_of_ok made ran, settle_received hF (st₁.transition t') origin outcome, given]
    unfold World.received
    rw [t.hosts_opened st isolate kept rfl, nothing]
    rfl

theorem start_hands (hF : F.Confined) (st : Stage F s w) (configured : s.settings.bootstrapPath = some path)
    (shut : s.isOpen = false) (kept : s.tornDown = false) :
    Hands w (start F s w) (outcome ⟨true, s.settings.encoding⟩ w.files path) ∨
      (∃ t, outcome ⟨true, s.settings.encoding⟩ w.files path = .ok t) ∧
        ∃ f, (start F s w).1.1 = .error f ∧ (start F s w).2.history.getLast? = some (.refused f) := by
  have isolate : s.isolate = none := by simpa [isOpen] using shut
  obtain ⟨w₁, read, served⟩ := load_apply s.settings w
  unfold loaded at read
  rw [configured] at read
  cases came : outcome ⟨true, s.settings.encoding⟩ w.files path with
  | error f =>
    have ran : start F s w = ((.error f, s), w₁) := by
      simp [start, kept, shut, configured, read, came, Except.map]
    rw [ran]
    exact .inl (.failed rfl (received_of_hosts (served_hosts served)))
  | ok t =>
    have ran : start F s w = boot F t path s w₁ := by
      simp [start, kept, shut, configured, read, came, Except.map]
    rw [ran]
    rcases boot_hands hF (st.served served) isolate kept t path with given | refused
    · refine .inl (.given ?_)
      rw [given, received_of_hosts (served_hosts served)]
    · exact .inr ⟨⟨t, rfl⟩, refused⟩

/-- Whatever situation a session is in, it comes by a source in the three ways as its settings and the files say. -/
theorem Stage.obtained (hF : F.Confined) (st : Stage F s w) (path : Text) :
    Obtained F path (outcome (reading s.settings) w.files path) (outcome ⟨true, s.settings.encoding⟩ w.files path)
      s w where
  file isOpen := evaluateFile_hands hF st isOpen path
  script rest v same := by
    rw [← same]
    exact callByName_readfile path rest s v
  bootstrap configured shut kept := start_hands hF st configured shut kept

/-! ## Terminators -/

section Terminators

variable {encoding : Text} (strip : Bool)

/-- Where there is no terminator, it is the same to drop it and to keep it. -/
theorem outcome_of_unended {content : Files.Content} (stands : w.files.read path = .ok content)
    (unended : ∀ b ∈ content.bytes.getLast?, isTerminator b = false) :
    outcome ⟨true, encoding⟩ w.files path = outcome ⟨strip, encoding⟩ w.files path := by
  have same : Reading.kept ⟨strip, encoding⟩ content.bytes = Reading.kept ⟨true, encoding⟩ content.bytes := by
    unfold Reading.kept
    rw [stripTerminator_of_open unended]
    simp
  rw [← Source.read_eq_outcome, ← Source.read_eq_outcome, read_of_found stands, read_of_found stands, same]

theorem outcome_of_missing (missing : ∀ content, w.files.read path ≠ .ok content) :
    outcome ⟨true, encoding⟩ w.files path = outcome ⟨strip, encoding⟩ w.files path := by
  cases stands : w.files.read path with
  | ok content => exact absurd stands (missing content)
  | error f => rw [← Source.read_eq_outcome, ← Source.read_eq_outcome, read_of_fault stands, read_of_fault stands]

/-- In encodings based on ASCII, a file without its terminator is the text without its own. -/
theorem outcome_of_based {e : Encoding} (named : Named encoding e) (based : e ∈ Encoding.asciiBased) :
    (outcome ⟨true, encoding⟩ w.files path).toOption =
      (outcome ⟨false, encoding⟩ w.files path).toOption.map Text.dropTerminator := by
  rw [← Source.read_eq_outcome, ← Source.read_eq_outcome]
  cases stands : w.files.read path with
  | error f =>
    rw [read_of_fault stands, read_of_fault stands]
    rfl
  | ok content =>
    rw [read_of_named named stands, read_of_named named stands, Except.toOption_mapError, Except.toOption_mapError]
    exact stripTerminator_ended (Encoding.ended_of_mem based) content.bytes

end Terminators

/-! ## All runs -/

section Runs

variable {settings : Settings} {w₀ : World} {operations : List Operation}

/-- The files and the settings stay as they are, so over a run every source is what it was at the beginning. -/
theorem passes_obtained (hF : F.Confined) (new : w₀.isolates = [])
    (passes : Passes F operations { settings } w₀ s w) (path : Text) :
    Obtained F path (outcome (reading settings) w₀.files path) (outcome ⟨true, settings.encoding⟩ w₀.files path)
      s w := by
  have fresh : Stage F { settings } w₀ := stage_new settings new
  obtain ⟨h, moved⟩ := passes.path hF fresh
  have obtained := (fresh.path moved).obtained hF path
  rw [moved.settings, moved.grew.files] at obtained
  exact obtained

/-- Between any two steps of any operations, the file at a path is for evaluation what it is for scripts: the same
text or the same fault. For the bootstrap it is that too where the settings say that terminators are dropped, and
where no file with a terminator stands there; otherwise, in encodings based on ASCII, it is the text without its
terminator. -/
theorem sources_agree (hF : F.Confined) (settings : Settings) (new : w₀.isolates = []) (path : Text) :
    let found := outcome (reading settings) w₀.files path
    let boot := outcome ⟨true, settings.encoding⟩ w₀.files path
    (∀ ⦃operations s w⦄, Passes F operations { settings } w₀ s w → Obtained F path found boot s w) ∧
      (settings.stripTerminator = true → boot = found) ∧
      (∀ content, w₀.files.read path = .ok content → (∀ b ∈ content.bytes.getLast?, isTerminator b = false) →
        boot = found) ∧
      ((∀ content, w₀.files.read path ≠ .ok content) → boot = found) ∧
      ∀ e ∈ Encoding.asciiBased, Named settings.encoding e → settings.stripTerminator = false →
        boot.toOption = found.toOption.map Text.dropTerminator := by
  intro found boot
  refine ⟨fun _ _ _ passes => passes_obtained hF new passes path, ?_, ?_, ?_, ?_⟩
  · intro strips
    simp only [found, boot, reading, strips]
  · intro content stands unended
    exact outcome_of_unended settings.stripTerminator stands unended
  · intro missing
    exact outcome_of_missing settings.stripTerminator missing
  · intro e based named kept
    simp only [found, boot, reading, kept]
    exact outcome_of_based named based

/-- A file with a line end that is to be kept is the bootstrap, and is then evaluated and asked for. -/
theorem sources_agree_kept :
    let F := Isolate.Scripted.factory { scenes := [] }
    let settings : Settings := { bootstrapPath := some "b", stripTerminator := false }
    let w₀ := shelf [0x62] [0x31, 0x0A]
    let opened := start F { settings } w₀
    let one : Text := "1"
    let line : Text := "1\n"
    opened.2.received = [one] ∧ (evaluateFile F "b" opened.1.2 opened.2).2.received = [one, line] ∧
      (callByName F "readfile" ["b"] opened.1.2 opened.2).1.1 = .ok (.text line) ∧
      some one = (some line).map Text.dropTerminator := by
  intro F settings w₀ opened one line
  have new : w₀.isolates = [] := rfl
  -- the session before it is started, and as it was started
  obtain ⟨obtained, -, -, -, dropped⟩ := sources_agree (Isolate.Scripted.confined { scenes := [] }) settings new "b"
  have before := obtained (Passes.step (.trying []) [] { settings } w₀)
  have after := obtained (Passes.step .start [] { settings } w₀)
  have booted : opened.2.received = [one] := by
    rcases before.bootstrap rfl rfl rfl with handed | ⟨-, f, failed, -⟩
    · cases handed with
      | given received => exact received
    · cases failed
  have evaluated : (evaluateFile F "b" opened.1.2 opened.2).2.received = opened.2.received ++ [line] := by
    cases after.file rfl with
    | given received => exact received
  rw [booted] at evaluated
  exact ⟨booted, evaluated, after.script [] _ rfl, dropped .utf8 (by decide) named_utf8 rfl⟩

/-- Under whatever encoding settings were accepted with, and whatever codecs are installed, between any two steps of any
operations, a file that stands at a path is read in each of the three ways, or counts as unreadable, unless bytes are
left to decode and the encoding is a transform of bytes, or its codec fails without saying which bytes it cannot read:
then reading ends with the fault that decoding does. -/
theorem accepted_answered (hF : F.Confined) {data : List (Text × Datum)}
    (accepted : Settings.ofEntries data w₀.files.codecs = .ok settings) (new : w₀.isolates = [])
    {content : Files.Content}
    (stands : w₀.files.read path = .ok content) :
    (∀ (strip : Bool) (w : World), w.files = w₀.files → Reading.Ends ⟨strip, settings.encoding⟩ w₀.files.codecs path
      content.bytes (read ⟨strip, settings.encoding⟩ path w).1) ∧
    ∀ ⦃operations s w⦄, Passes F operations { settings } w₀ s w → ∃ found boot, Obtained F path found boot s w ∧
      (reading settings).Ends w₀.files.codecs path content.bytes found ∧
      Reading.Ends ⟨true, settings.encoding⟩ w₀.files.codecs path content.bytes boot := by
  have known := Settings.accepted_encoding accepted
  have ends : ∀ how : Reading, how.encoding = settings.encoding → ∀ w : World, w.files = w₀.files →
      how.Ends w₀.files.codecs path content.bytes (read how path w).1 := by
    intro how name w same
    rw [← same] at known stands ⊢
    exact read_ends how (name ▸ known) stands
  constructor
  · exact fun strip w same => ends _ rfl w same
  · intro operations s w passes
    exact ⟨_, _, passes_obtained hF new passes path, ends _ rfl _ rfl, ends _ rfl _ rfl⟩

/-- A system on which a codec is installed that reads nothing. -/
def unreading : Codecs := fun name =>
  if name = "undefined" then
    some (.text (fun _ => .error (.coding (some "undefined encoding"))) (by rintro _ _ ⟨⟩; rfl))
  else none

/-- The digits of a byte are no text in the encoding that reads digits, whether or not they are to end in something;
a lone line end is, where it is dropped, for a script as well. In an encoding that reads nothing it is neither read nor
unreadable, where it is kept. -/
theorem accepted_answered_hex :
    let F := Isolate.Scripted.factory { scenes := [] }
    let settings : Settings := { encoding := "hex" }
    let digits := shelf [0x61] [0x36, 0x31]
    let line := shelf [0x61] [0x0A]
    let odd : World := { line with files := { line.files with codecs := unreading } }
    Settings.ofEntries [("encoding", .text "hex")] = .ok settings ∧
      (read ⟨true, "hex"⟩ "a" digits).1 = .error (transformFault "hex") ∧
      (read ⟨false, "hex"⟩ "a" line).1 = .error (transformFault "hex") ∧
      (∃ found, Answered "a" found ∧ (callByName F "readfile" ["a"] { settings } line).1.1 = found.map .text) ∧
      Settings.ofEntries [("encoding", .text "undefined")] unreading = .ok { encoding := "undefined" } ∧
      (read ⟨false, "undefined"⟩ "a" odd).1 = .error (.coding (some "undefined encoding")) := by
  intro F settings digits line odd
  have accepted : Settings.ofEntries [("encoding", .text "hex")] = .ok settings := rfl
  have installed : Settings.ofEntries [("encoding", .text "undefined")] unreading = .ok { encoding := "undefined" } :=
    rfl
  have confined := Isolate.Scripted.confined { scenes := [] }
  have pair : digits.files.read "a" = .ok ⟨[0x36, 0x31], 2⟩ := rfl
  have lone : line.files.read "a" = .ok ⟨[0x0A], 1⟩ := rfl
  have lone' : odd.files.read "a" = .ok ⟨[0x0A], 1⟩ := rfl
  obtain ⟨spelled, -⟩ := accepted_answered confined accepted rfl pair
  obtain ⟨ended, runs⟩ := accepted_answered confined accepted rfl lone
  obtain ⟨failed, -⟩ := accepted_answered confined installed rfl lone'
  obtain ⟨found, boot, obtained, answered, -⟩ := runs (Passes.step (.trying []) [] { settings } line)
  exact ⟨accepted, spelled true digits rfl, ended false line rfl, ⟨found, answered, obtained.script [] _ rfl⟩,
    installed, failed false odd rfl⟩

end Runs

end Session

end ScriptHost
