/-
Loading settings and what it ends with. The file is absent, or it cannot be read, or it is no document, or it has keys
that are no settings, or its settings are accepted or not; each of these ways has one outcome. So loading ends with
settings, with a fault of theirs or with a fault of the system, but for two kinds of files: those whose bytes spell no
text, and documents with a whole number of more digits than are ever read. A command line tells every fault of the
first kinds and ends with exit code 1; faults of the other two pass it by. Documents are read however deeply their lists
and tables nest; an interpreter with a limit on recursion gives up on one that nests some hundred levels.
-/
import ScriptHost.Proofs.Settings.Merge
import ScriptHost.Proofs.Toml.Digits

namespace ScriptHost

/-- A file that is there is kept from being read by the system alone. -/
theorem Files.system_of_has {files : Files} {path : Text} {f : Fault} (there : files.has path = true)
    (found : files.read path = .error f) : ∃ fault, f = .system fault := by
  unfold Files.has at there
  unfold Files.read at found
  cases spelled : Files.pathBytes path with
  | error e => simp [spelled] at there
  | ok bytes =>
    simp only [spelled, Bool.and_eq_true, Bool.not_eq_true'] at there found
    rw [there.1, if_neg Bool.false_ne_true] at found
    split at found
    · cases found
    · cases found
      exact ⟨_, rfl⟩
    · cases found
      exact ⟨_, rfl⟩

namespace Settings

variable {files : Files} {path : Text} {w : World} {s : Settings} {f : Fault}

/-! ## Ways of loading -/

/-- What loading settings comes to, by what stands at the path. -/
inductive Loads (files : Files) (path : Text) : Except Fault Settings → Prop
  | absent (gone : files.has path = false) : Loads files path (.ok {})
  | unread {fault : SystemFault} (found : files.read path = .error (.system fault)) :
    Loads files path (.error (.system fault))
  | undecoded {content : Files.Content} {d : DecodingFault} (found : files.read path = .ok content)
    (garbled : Utf8.decode content.bytes = .error d) : Loads files path (.error (.decoding d))
  | unparsed {content : Files.Content} {document : Text} {failure : Toml.Failure}
    (found : files.read path = .ok content) (decoded : Utf8.decode content.bytes = .ok document)
    (broken : Toml.read? document = .error failure) : Loads files path (.error (failed path failure))
  | strange {entries : List (Text × Datum)} (holds : Holds files path entries)
    (strange : strangers (settingsTable entries) ≠ []) :
    Loads files path (.error (.settings ("Unknown configuration keys in " ++ path ++ ": " ++
      Text.join ", " (unknownKeys (settingsTable entries)))))
  | known {entries : List (Text × Datum)} (holds : Holds files path entries)
    (known : strangers (settingsTable entries) = []) :
    Loads files path (ofEntries (merged (directoryOf files path) (settingsTable entries)) files.codecs)

theorem load_of_broken {content : Files.Content} {document : Text} {failure : Toml.Failure}
    (found : w.files.read path = .ok content) (decoded : Utf8.decode content.bytes = .ok document)
    (broken : Toml.read? document = .error failure) : (load path w).1 = .error (failed path failure) := by
  simp only [load, Action.bind_apply, Action.look_apply, has_of_read found, if_true, found, decoded, ofDocument, broken,
    Action.ofExcept_apply]

theorem load_cases (path : Text) (w : World) : Loads w.files path (load path w).1 := by
  by_cases there : w.files.has path = true
  · cases found : w.files.read path with
    | error f =>
      obtain ⟨fault, rfl⟩ := Files.system_of_has there found
      have loaded : (load path w).1 = .error (.system fault) := by
        simp only [load, Action.bind_apply, Action.look_apply, there, if_true, found, Action.raise_apply]
      rw [loaded]
      exact .unread found
    | ok content =>
      cases decoded : Utf8.decode content.bytes with
      | error d =>
        have loaded : (load path w).1 = .error (.decoding d) := by
          simp only [load, Action.bind_apply, Action.look_apply, there, if_true, found, decoded, Action.raise_apply]
        rw [loaded]
        exact .undecoded found decoded
      | ok document =>
        cases parsed : Toml.read? document with
        | error failure =>
          rw [load_of_broken found decoded parsed]
          exact .unparsed found decoded parsed
        | ok entries =>
          have holds : Holds w.files path entries := ⟨content, document, found, decoded, parsed⟩
          by_cases strange : strangers (settingsTable entries) = []
          · rw [load_of_known holds rfl strange]
            exact .known holds strange
          · rw [load_of_strange holds rfl strange]
            exact .strange holds strange
  · have gone : w.files.has path = false := by simpa using there
    have loaded : (load path w).1 = .ok {} := by
      simp only [load, Action.bind_apply, Action.look_apply, gone]
      rfl
    rw [loaded]
    exact .absent gone

/-- Settings that do not fit are refused with a fault of settings. -/
theorem ofEntries_fault {codecs : Codecs} {data : List (Text × Datum)} (refused : ofEntries data codecs = .error f) :
    ∃ text, f = .settings text := by
  unfold ofEntries at refused
  cases valid : validate codecs data with
  | ok s =>
    rw [valid] at refused
    cases refused
  | error ps =>
    rw [valid] at refused
    cases refused
    exact ⟨_, rfl⟩

/-! ## Faults that are told -/

/-- A fault of settings or of the system. -/
inductive Told : Fault → Prop
  | settings (text : Text) : Told (.settings text)
  | system (fault : SystemFault) : Told (.system fault)

/-- The bytes of the file at the path are not those of any text. -/
def Garbled (files : Files) (path : Text) : Prop :=
  ∃ content, files.read path = .ok content ∧
    ∀ t : Text, (∀ c ∈ t, c.isSurrogate = false) → content.bytes ≠ Utf8.encode t

/-- The document at the path has a whole number of too many digits. -/
def Unwieldy (files : Files) (path : Text) : Prop :=
  ∃ content document digits, files.read path = .ok content ∧ Utf8.decode content.bytes = .ok document ∧
    Toml.read? document = .error (.tooLong digits)

section Found

variable {content : Files.Content} {document : Text}

theorem not_garbled_of_unfound (unfound : ∀ content, files.read path ≠ .ok content) :
    ¬ Garbled files path ∧ ¬ Unwieldy files path := by
  constructor
  · rintro ⟨content, found, -⟩
    exact unfound content found
  · rintro ⟨content, _, _, found, -⟩
    exact unfound content found

theorem garbled_of_undecoded {d : DecodingFault} (found : files.read path = .ok content)
    (undecoded : Utf8.decode content.bytes = .error d) : Garbled files path := by
  refine ⟨content, found, fun t plain spelled => ?_⟩
  rw [Utf8.decode_eq_ok_iff.mpr ⟨spelled.symm, plain⟩] at undecoded
  cases undecoded

theorem not_garbled_of_decoded (found : files.read path = .ok content)
    (decoded : Utf8.decode content.bytes = .ok document) : ¬ Garbled files path := by
  rintro ⟨content', found', foreign⟩
  rw [found] at found'
  cases found'
  obtain ⟨spelled, plain⟩ := Utf8.decode_eq_ok_iff.mp decoded
  exact foreign document plain spelled.symm

/-- A document that was found is the only one at its path. -/
theorem unwieldy_of_decoded (found : files.read path = .ok content)
    (decoded : Utf8.decode content.bytes = .ok document) :
    Unwieldy files path ↔ ∃ digits, Toml.read? document = .error (.tooLong digits) := by
  constructor
  · rintro ⟨content', document', digits, found', decoded', long⟩
    rw [found] at found'
    cases found'
    rw [decoded] at decoded'
    cases decoded'
    exact ⟨digits, long⟩
  · rintro ⟨digits, long⟩
    exact ⟨content, document, digits, found, decoded, long⟩

/-- A file that holds a table is of neither kind. -/
theorem not_garbled_of_holds {entries : List (Text × Datum)} (holds : Holds files path entries) :
    ¬ Garbled files path ∧ ¬ Unwieldy files path := by
  obtain ⟨content, document, found, decoded, parsed⟩ := holds
  refine ⟨not_garbled_of_decoded found decoded, fun unwieldy => ?_⟩
  obtain ⟨digits, long⟩ := (unwieldy_of_decoded found decoded).mp unwieldy
  rw [parsed] at long
  cases long

/-- A file that sets one name to a whole number with too many digits. -/
theorem unwieldy_of_digits {d : CodePoint} {ds : Text} (found : files.read path = .ok content)
    (spelled : Utf8.encode ("a=" ++ d :: ds) = content.bytes) (digits : ∀ c ∈ d :: ds, c.isDigit = true)
    (first : d.is '0' = false) (long : Toml.digitLimit < (d :: ds).length) :
    ¬ Garbled files path ∧ Unwieldy files path := by
  have decoded : Utf8.decode content.bytes = .ok ("a=" ++ d :: ds) := by
    refine Utf8.decode_eq_ok_iff.mpr ⟨spelled, fun c inside => ?_⟩
    have named : ∀ c ∈ ("a=" : Text), c.isSurrogate = false := by decide
    rcases List.mem_append.mp inside with inside | inside
    · exact named c inside
    · have digit := digits c inside
      simp only [CodePoint.isDigit, Bool.and_eq_true, decide_eq_true_eq] at digit
      simp [CodePoint.isSurrogate]
      omega
  exact ⟨not_garbled_of_decoded found decoded, _, _, _, found, decoded, Toml.read?_long digits first long⟩

end Found

/-- Settings or a fault that is told, from a file of neither kind. -/
def Ordinary (files : Files) (path : Text) (r : Except Fault Settings) : Prop :=
  (¬ Garbled files path ∧ ¬ Unwieldy files path) ∧ ((∃ s, r = .ok s) ∨ ∃ f, r = .error f ∧ Told f)

/-- Loading ends with settings or with a fault that is told, but for the two kinds of files. -/
theorem load_outcome (path : Text) (w : World) : Ordinary w.files path (load path w).1 ∨
    (Garbled w.files path ∧ ∃ d, (load path w).1 = .error (.decoding d)) ∨
    (Unwieldy w.files path ∧ ∃ text, (load path w).1 = .error (.value text)) := by
  have way := load_cases path w
  generalize (load path w).1 = r at way
  cases way with
  | absent gone =>
    have unfound : ∀ content, w.files.read path ≠ .ok content := by
      intro content found
      rw [has_of_read found] at gone
      cases gone
    exact .inl ⟨not_garbled_of_unfound unfound, .inl ⟨_, rfl⟩⟩
  | unread found =>
    have unfound : ∀ content, w.files.read path ≠ .ok content := by
      intro content
      rw [found]
      rintro ⟨⟩
    exact .inl ⟨not_garbled_of_unfound unfound, .inr ⟨_, rfl, .system _⟩⟩
  | undecoded found undecoded => exact .inr (.inl ⟨garbled_of_undecoded found undecoded, _, rfl⟩)
  | unparsed found decoded broken =>
    have long := unwieldy_of_decoded found decoded
    rw [broken] at long
    rename_i failure
    cases failure with
    | malformed message =>
      have short : ¬ Unwieldy w.files path := fun unwieldy => by
        obtain ⟨digits, ⟨⟩⟩ := long.mp unwieldy
      exact .inl ⟨⟨not_garbled_of_decoded found decoded, short⟩, .inr ⟨_, rfl, .settings _⟩⟩
    | tooLong digits => exact .inr (.inr ⟨long.mpr ⟨digits, rfl⟩, _, rfl⟩)
  | strange holds strange =>
    exact .inl ⟨not_garbled_of_holds holds, .inr ⟨_, rfl, .settings _⟩⟩
  | known holds known =>
    refine .inl ⟨not_garbled_of_holds holds, ?_⟩
    rename_i entries
    cases came : ofEntries (merged (directoryOf w.files path) (settingsTable entries)) w.files.codecs with
    | ok s => exact .inl ⟨s, rfl⟩
    | error f =>
      obtain ⟨text, rfl⟩ := ofEntries_fault came
      exact .inr ⟨_, rfl, .settings text⟩

/-! ## The command line -/

section Run

open CommandLine (Options Request run settings_snd)

variable {ι : Type} {F : Factory ι} {arguments : List Text} {o : Options}

theorem settings_of_load_error (bad : (load o.config w).1 = .error f) : CommandLine.settings o w = (.error f, w) := by
  refine Prod.ext ?_ (settings_snd o w)
  unfold CommandLine.settings
  rw [Action.bind_apply]
  generalize load o.config w = r at bad
  obtain ⟨r, v⟩ := r
  dsimp only at bad
  rw [bad]

/-- A fault of the settings file that is told is a line beside the output, and ends a run with exit code 1. -/
theorem run_of_told (request : Request.ofArguments arguments = .run o) (nonempty : o.paths ≠ [])
    (bad : (load o.config w).1 = .error f) (told : Told f) :
    run F arguments w = ({ exit := .code 1 }, w.tell (.line ("ERROR: " ++ f.message))) := by
  have none : o.paths.isEmpty = false := by simpa using nonempty
  rw [run, request]
  simp only [CommandLine.runOptions, none, settings_of_load_error bad]
  cases told with
  | settings text => rfl
  | system fault => rfl

/-- Any other is what a run ends with. -/
theorem run_of_untold (request : Request.ofArguments arguments = .run o) (nonempty : o.paths ≠ [])
    (bad : (load o.config w).1 = .error f) (untold : ¬ Told f) : run F arguments w = ({ exit := .fault f }, w) := by
  have none : o.paths.isEmpty = false := by simpa using nonempty
  rw [run, request]
  simp only [CommandLine.runOptions, none, settings_of_load_error bad]
  cases f with
  | settings text => exact absurd (.settings text) untold
  | system fault => exact absurd (.system fault) untold
  | _ => rfl

/-- Loading settings changes nothing and ends with settings, with a fault of theirs or with one of the system, just
where the file is not one of two kinds: its bytes are those of no text, and decoding them is the fault; or a whole
number in its document is too long, which is a fault of its value. (This is about documents that nest within the limit
on recursion, if there is one: a third kind are those that nest more deeply.) A command line that names files to run
tells a fault of the settings file in a line beside the output and ends with exit code 1, save that the two kinds
break it off. -/
theorem load_documented (path : Text) (w : World) :
    (load path w).2 = w ∧
    (Ordinary w.files path (load path w).1 ∨
      (Garbled w.files path ∧ ∃ d, (load path w).1 = .error (.decoding d)) ∨
      (Unwieldy w.files path ∧ ∃ text, (load path w).1 = .error (.value text))) ∧
    ∀ (ι : Type) (F : Factory ι) (arguments : List Text) (o : Options), Request.ofArguments arguments = .run o →
      o.paths ≠ [] → o.config = path → ∀ f, (load path w).1 = .error f →
        (¬ Garbled w.files path → ¬ Unwieldy w.files path →
          run F arguments w = ({ exit := .code 1 }, w.tell (.line ("ERROR: " ++ f.message)))) ∧
        (Garbled w.files path ∨ Unwieldy w.files path → run F arguments w = ({ exit := .fault f }, w)) := by
  have outcome := load_outcome path w
  refine ⟨CommandLine.load_snd path w, outcome, ?_⟩
  rintro ι F arguments o request nonempty rfl f bad
  rw [bad] at outcome
  constructor
  · intro whole short
    rcases outcome with ⟨-, ⟨s, ⟨⟩⟩ | ⟨_, ⟨⟩, told⟩⟩ | ⟨garbled, -⟩ | ⟨unwieldy, -⟩
    · exact run_of_told request nonempty bad told
    · exact absurd garbled whole
    · exact absurd unwieldy short
  · intro odd
    rcases outcome with ⟨⟨whole, short⟩, -⟩ | ⟨-, _, ⟨⟩⟩ | ⟨-, _, ⟨⟩⟩
    · exact absurd odd (not_or.mpr ⟨whole, short⟩)
    · exact run_of_untold request nonempty bad (by rintro ⟨⟩)
    · exact run_of_untold request nonempty bad (by rintro ⟨⟩)

/-- A document without a value, a file of one byte that begins no character, and a document with one digit too many. -/
theorem load_documented_broken :
    let malformed := desk "log_level = "
    let garbled := Source.shelf [0x74] [0xFF]
    let ones (n : Nat) : Text := List.replicate n (CodePoint.ofChar '1')
    let unwieldy := Source.shelf [0x74] (Utf8.encode ("a=" ++ ones (Toml.digitLimit + 1)))
    let text : Text := "Malformed configuration file t: Invalid value (at end of document)"
    let started := run (CommandLine.steady CommandLine.medley) ["--config", "t", "a"]
    (load "t" malformed).1 = .error (.settings text) ∧
    started malformed = ({ exit := .code 1 }, malformed.tell (.line ("ERROR: " ++ text))) ∧
    (∃ d, (load "t" garbled).1 = .error (.decoding d) ∧ started garbled = ({ exit := .fault (.decoding d) }, garbled)) ∧
    ∃ t, (load "t" unwieldy).1 = .error (.value t) ∧ started unwieldy = ({ exit := .fault (.value t) }, unwieldy) := by
  intro malformed garbled ones unwieldy text started
  have request : Request.ofArguments ["--config", "t", "a"] = .run { paths := ["a"], config := "t" } := rfl
  obtain ⟨-, -, told⟩ := load_documented "t" malformed
  obtain ⟨-, -, torn⟩ := load_documented "t" garbled
  obtain ⟨-, outcome, overlong⟩ := load_documented "t" unwieldy
  have found : malformed.files.read "t" = .ok ⟨Utf8.encode "log_level = ", _⟩ := rfl
  have decoded : Utf8.decode (Utf8.encode "log_level = ") = .ok "log_level = " :=
    Utf8.decode_eq_ok_iff.mpr ⟨rfl, by decide⟩
  have parsed : Toml.read? "log_level = " = .error (.malformed "Invalid value (at end of document)") := by
    decide +kernel
  have bad : (load "t" malformed).1 = .error (.settings text) := load_of_broken found decoded parsed
  refine ⟨bad, ?_, ?_, ?_⟩
  · refine (told _ _ _ _ request (by simp) rfl _ bad).1 (not_garbled_of_decoded found decoded) ?_
    rw [unwieldy_of_decoded found decoded]
    rintro ⟨digits, long⟩
    rw [parsed] at long
    cases long
  · have found : garbled.files.read "t" = .ok ⟨[0xFF], 1⟩ := rfl
    have undecoded : Utf8.decode [0xFF] = .error ⟨"utf-8", [0xFF], 0, 1, "invalid start byte"⟩ := rfl
    have bad : (load "t" garbled).1 = .error (.decoding _) := rfl
    exact ⟨_, bad, (torn _ _ _ _ request (by simp) rfl _ bad).2 (.inl (garbled_of_undecoded found undecoded))⟩
  · have found : unwieldy.files.read "t" = .ok ⟨Utf8.encode _, _⟩ := rfl
    have digits : ∀ c ∈ CodePoint.ofChar '1' :: ones Toml.digitLimit, c.isDigit = true := by
      intro c inside
      rw [← List.replicate_succ] at inside
      rw [List.eq_of_mem_replicate inside]
      rfl
    have many : Toml.digitLimit < (CodePoint.ofChar '1' :: ones Toml.digitLimit).length := by
      rw [List.length_cons, List.length_replicate]
      exact Nat.lt_succ_self _
    obtain ⟨whole, long⟩ := unwieldy_of_digits found rfl digits (by decide) many
    rcases outcome with ⟨⟨-, short⟩, -⟩ | ⟨garbled, -⟩ | ⟨-, t, bad⟩
    · exact absurd long short
    · exact absurd garbled whole
    · exact ⟨t, bad, (overlong _ _ _ _ request (by simp) rfl _ bad).2 (.inr long)⟩

end Run

end Settings

end ScriptHost
