/-
Settings in two stages. Settings that were accepted can be written back to a table, and a second table be laid on that:
what comes of it is the same, down to the text of a fault, as if the second table had been laid on the first right
away. It is so because each field accepts what it was read as, as it is. So settings that were accepted are accepted
again unchanged, a second table spoils only what it sets itself, and the options of a command line set the fields they
name and leave all others to the file.
-/
import ScriptHost.Proofs.Settings.Loading

namespace ScriptHost

/-! ## Tables laid on tables -/

namespace Datum

/-- What is found in a table laid on another: what the upper one has, or else what the one below has. -/
theorem lookup?_overlay (key : Text) (under upper : List (Text × Datum)) :
    lookup? key (Settings.overlay under upper) = (lookup? key upper).or (lookup? key under) := by
  unfold Settings.overlay
  rw [lookup?_append, lookup?_map fun k d => (lookup? k upper).getD d]
  cases below : lookup? key under with
  | none =>
    rw [Option.map_none, Option.none_or, Option.or_none]
    refine lookup?_filter (fun d => ?_) upper
    simp [any_key, below]
  | some d => cases lookup? key upper <;> rfl

end Datum

namespace Validation

open Settings (overlay)

section Field

variable {α : Type} {under under' upper : List (Text × Datum)} {name : String} {read : Datum → Except Misfit α}
  {default a : α} {d : Datum}

/-- A field that the upper table has is read from its entry alone. -/
theorem field_overlay_given (given : Datum.lookup? name upper = some d) :
    field (overlay under upper) name read (some default) =
      (read d).mapError fun m => ⟨Text.ofString name, m, d⟩ := by
  unfold field
  rw [Datum.lookup?_overlay, given]
  rfl

/-- A field that the upper table does not have is read from the table below. -/
theorem field_overlay_absent (absent : Datum.lookup? name upper = none) :
    field (overlay under upper) name read (some default) = field under name read (some default) := by
  unfold field
  rw [Datum.lookup?_overlay, absent]
  rfl

/-- It makes no difference on which of two tables with the same value for a field a third is laid. -/
theorem field_overlay (fits : field under name read (some default) = .ok a)
    (again : field under' name read (some default) = .ok a) :
    field (overlay under upper) name read (some default) = field (overlay under' upper) name read (some default) := by
  cases given : Datum.lookup? name upper with
  | some d => rw [field_overlay_given given, field_overlay_given given]
  | none => rw [field_overlay_absent given, field_overlay_absent given, fits, again]

/-- A field with a problem has it by an entry of the upper table, if it fits below. -/
theorem mem_problemOf_overlay (fits : field under name read (some default) = .ok a) {p : Problem}
    (spoilt : p ∈ problemOf (field (overlay under upper) name read (some default))) :
    Datum.lookup? p.field upper = some p.input := by
  cases given : Datum.lookup? name upper with
  | none =>
    rw [field_overlay_absent given, fits] at spoilt
    cases spoilt
  | some d =>
    rw [field_overlay_given given] at spoilt
    cases came : read d with
    | ok b =>
      rw [came] at spoilt
      cases spoilt
    | error m =>
      rw [came] at spoilt
      obtain rfl := List.mem_singleton.mp spoilt
      exact given

end Field

end Validation

namespace Settings

open Validation

section Table

variable {codecs : Codecs} {data under under' upper : List (Text × Datum)} {s : Settings} {d : Datum}

/-! ## Fields read again -/

theorem eq_text_of_textOf {v : Text} (fits : textOf d = .ok v) : d = .text v := by
  cases d <;> cases fits
  rfl

theorem eq_text_of_encodingOf {name : Text} (fits : encodingOf codecs d = .ok name) : d = .text name := by
  unfold encodingOf filledTextOf at fits
  cases came : textOf d with
  | error m => simp [came] at fits
  | ok v =>
    obtain rfl := eq_text_of_textOf came
    simp only [came] at fits
    -- whichever test the name passes, it comes out as it went in
    split at fits
    · cases fits
    · next filled =>
      split at filled
      · cases filled
      · split at filled
        · cases filled
        · cases filled
          split at fits
          · cases fits
          · split at fits
            · cases fits
              rfl
            · cases fits

/-- A level name in capitals is one in capitals. -/
theorem capital_level : ∀ level ∈ Log.levels, (Text.ofString level.1).flatMap capital = Text.ofString level.1 := by
  decide

theorem logLevelOf_again {name : Text} (fits : logLevelOf d = .ok name) : logLevelOf (.text name) = .ok name := by
  unfold logLevelOf at fits
  cases came : textOf d with
  | error m => simp [came] at fits
  | ok v =>
    simp only [came] at fits
    split at fits
    · next known =>
      cases fits
      -- the capitals of a known level are among the levels
      unfold Log.levelNumber? at known
      rw [Option.isSome_map] at known
      obtain ⟨level, found⟩ := Option.isSome_iff_exists.mp known
      have same : Text.ofString level.1 = v.flatMap capital := by simpa using List.find?_some found
      have kept := capital_level level (List.mem_of_find?_eq_some found)
      rw [same] at kept
      simp only [logLevelOf, textOf, kept]
      rw [if_pos]
      rw [Log.levelNumber?, Option.isSome_map, found]
      rfl
    · cases fits

/-- Settings that a table gives are what their own table gives. -/
theorem Reads.again (reads : Reads codecs data s) : Reads codecs s.toEntries s where
  bootstrapPath := by
    cases path : s.bootstrapPath with
    | none => simp [field, toEntries, path, Datum.lookup?, bootstrapPathOf, Except.mapError]
    | some p => simp [field, toEntries, path, Datum.lookup?, bootstrapPathOf, textOf, Except.map, Except.mapError]
  stripTerminator := rfl
  encoding := by
    have fits : encodingOf codecs (.text s.encoding) = .ok s.encoding := by
      obtain ⟨d, -, fits⟩ | ⟨-, same⟩ := field_eq_ok reads.encoding
      · exact eq_text_of_encodingOf fits ▸ fits
      · rw [same]
        rfl
    have found : Datum.lookup? "encoding" s.toEntries = some (.text s.encoding) := rfl
    simp [field, found, fits, Except.mapError]
  haltOnError := rfl
  logLevel := by
    have fits : logLevelOf (.text s.logLevel) = .ok s.logLevel := by
      obtain ⟨d, -, fits⟩ | ⟨-, same⟩ := field_eq_ok reads.logLevel
      · exact logLevelOf_again fits
      · rw [same]
        rfl
    have found : Datum.lookup? "log_level" s.toEntries = some (.text s.logLevel) := rfl
    simp [field, found, fits, Except.mapError]
  logJson := rfl

/-! ## Two stages -/

theorem validate_overlay (reads : Reads codecs under s) (again : Reads codecs under' s) :
    validate codecs (overlay under upper) = validate codecs (overlay under' upper) := by
  unfold validate
  dsimp only
  rw [field_overlay reads.bootstrapPath again.bootstrapPath, field_overlay reads.stripTerminator again.stripTerminator,
    field_overlay reads.encoding again.encoding, field_overlay reads.haltOnError again.haltOnError,
    field_overlay reads.logLevel again.logLevel, field_overlay reads.logJson again.logJson]

/-- What is wrong with a table laid on one that was accepted is wrong with its own entries. -/
theorem mem_problems_overlay (reads : Reads codecs under s) {ps : List Problem}
    (refused : validate codecs (overlay under upper) = .error ps) {p : Problem} (told : p ∈ ps) :
    Datum.lookup? p.field upper = some p.input := by
  unfold validate at refused
  dsimp only at refused
  split at refused
  · cases refused
  · cases refused
    simp only [List.mem_append] at told
    rcases told with ((((told | told) | told) | told) | told) | told
    · exact mem_problemOf_overlay reads.bootstrapPath told
    · exact mem_problemOf_overlay reads.stripTerminator told
    · exact mem_problemOf_overlay reads.encoding told
    · exact mem_problemOf_overlay reads.haltOnError told
    · exact mem_problemOf_overlay reads.logLevel told
    · exact mem_problemOf_overlay reads.logJson told

end Table

/-! ## Options of a command line -/

open CommandLine (Options overrides)

variable {codecs : Codecs} {o : Options} {w : World} {s : Settings}

/-- Settings that were loaded from a file were accepted. -/
theorem reads_of_load {path : Text} (loaded : (load path w).1 = .ok s) : ∃ data, Reads w.files.codecs data s := by
  have way := load_cases path w
  rw [loaded] at way
  generalize outcome : (Except.ok s : Except Fault Settings) = r at way
  cases way with
  | absent gone =>
    cases outcome
    exact ⟨toEntries {}, ofEntries_eq_ok.mp rfl⟩
  | known holds known => exact ⟨_, ofEntries_eq_ok.mp outcome.symm⟩
  | _ => cases outcome

/-- The log level under options: theirs, if it is one, or that of the settings. -/
def levelUnder (o : Options) (s : Settings) : Except Problem Text :=
  match o.logLevel with
  | none => .ok s.logLevel
  | some l => (logLevelOf (.text l)).mapError fun m => ⟨"log_level", m, .text l⟩

/-- Settings under options, with the log level that comes of both. -/
def beneath (o : Options) (s : Settings) (level : Text) : Settings :=
  { s with
    bootstrapPath := o.bootstrap.or s.bootstrapPath
    haltOnError := o.haltOnError || s.haltOnError
    logLevel := level
    logJson := o.logJson || s.logJson }

theorem lookup?_overrides (o : Options) :
    Datum.lookup? "bootstrap_path" (overrides o) = o.bootstrap.map .text ∧
    Datum.lookup? "strip_trailing_terminator" (overrides o) = none ∧
    Datum.lookup? "encoding" (overrides o) = none ∧
    Datum.lookup? "halt_on_error" (overrides o) = (if o.haltOnError then some (.bool true) else none) ∧
    Datum.lookup? "log_level" (overrides o) = o.logLevel.map .text ∧
    Datum.lookup? "log_json" (overrides o) = (if o.logJson then some (.bool true) else none) := by
  obtain ⟨paths, config, bootstrap, halt, json, level⟩ := o
  cases bootstrap <;> cases halt <;> cases json <;> cases level <;> exact ⟨rfl, rfl, rfl, rfl, rfl, rfl⟩

/-- What a switch does to a truth value that is read from below. -/
theorem field_switch {under upper : List (Text × Datum)} {name : String} {default b on : Bool}
    (fits : field under name boolOf (some default) = .ok b)
    (given : Datum.lookup? name upper = if on then some (.bool true) else none) :
    field (overlay under upper) name boolOf (some default) = .ok (on || b) := by
  cases on with
  | true =>
    rw [field_overlay_given (d := .bool true) given]
    rfl
  | false => rw [field_overlay_absent given, fits, Bool.false_or]

theorem field_levelUnder (reads : Reads codecs s.toEntries s) :
    field (overlay s.toEntries (overrides o)) "log_level" logLevelOf (some "INFO") = levelUnder o s := by
  have given := (lookup?_overrides o).2.2.2.2.1
  unfold levelUnder
  cases level : o.logLevel with
  | none =>
    rw [level] at given
    rw [field_overlay_absent given, reads.logLevel]
  | some l =>
    rw [level] at given
    exact field_overlay_given given

/-- The settings under options, if the log level is one. -/
theorem validate_overrides (reads : Reads codecs s.toEntries s) :
    validate codecs (overlay s.toEntries (overrides o)) =
    match levelUnder o s with
    | .ok level => .ok (beneath o s level)
    | .error p => .error [p] := by
  obtain ⟨path, strip, encoding, halt, -, json⟩ := lookup?_overrides o
  have first : field (overlay s.toEntries (overrides o)) "bootstrap_path" bootstrapPathOf (some none) =
      .ok (o.bootstrap.or s.bootstrapPath) := by
    cases given : o.bootstrap with
    | none =>
      rw [given] at path
      rw [field_overlay_absent path, reads.bootstrapPath, Option.none_or]
    | some p =>
      rw [given] at path
      rw [field_overlay_given path]
      rfl
  unfold validate
  dsimp only
  rw [first, field_overlay_absent strip, field_overlay_absent encoding, field_switch reads.haltOnError halt,
    field_switch reads.logJson json, field_levelUnder reads, reads.stripTerminator, reads.encoding]
  cases levelUnder o s with
  | ok level => rfl
  | error p => rfl

/-- The settings of a command line are those of its file, but for the fields that its options name. -/
theorem settings_of_loaded (loaded : (load o.config w).1 = .ok s) : (CommandLine.settings o w).1 =
    match levelUnder o s with
    | .ok level => .ok (beneath o s level)
    | .error p => .error (.settings ("Invalid host configuration: " ++ report "HostConfig" [p])) := by
  obtain ⟨data, reads⟩ := reads_of_load loaded
  have found : load o.config w = (.ok s, w) := Prod.ext loaded (CommandLine.load_snd o.config w)
  unfold CommandLine.settings
  rw [Action.bind_apply, found]
  simp only [Action.bind_apply, Action.look_apply, Action.ofExcept_apply]
  rw [ofEntries, validate_overrides reads.again]
  cases levelUnder o s with
  | ok level => rfl
  | error p => rfl

/-- Settings that a table gives, written back and laid under another table, give the same with it as the two tables
laid on each other, be it settings or a fault with its text. So they are accepted again as they are; what is wrong with
a second table is wrong with entries of its own; and of the settings loaded for a command line exactly the fields that
its options name are those of the options, all others those of the file. -/
theorem stages_agree {data : List (Text × Datum)} (accepted : ofEntries data codecs = .ok s)
    (upper : List (Text × Datum)) :
    ofEntries (overlay s.toEntries upper) codecs = ofEntries (overlay data upper) codecs ∧
    ofEntries s.toEntries codecs = .ok s ∧
    (∀ ps, validate codecs (overlay data upper) = .error ps → ∀ p ∈ ps, Datum.lookup? p.field upper = some p.input) ∧
    ∀ (o : Options) (w : World) (loaded : Settings), (load o.config w).1 = .ok loaded →
      (CommandLine.settings o w).1 = match levelUnder o loaded with
        | .ok level => .ok (beneath o loaded level)
        | .error p => .error (.settings ("Invalid host configuration: " ++ report "HostConfig" [p])) := by
  have reads := ofEntries_eq_ok.mp accepted
  refine ⟨?_, ofEntries_eq_ok.mpr reads.again, ?_, ?_⟩
  · rw [ofEntries, ofEntries, validate_overlay reads.again reads]
  · intro ps refused p told
    exact mem_problems_overlay reads refused told
  · intro o w loaded found
    exact settings_of_loaded found

/-- Words for truth values and a level in small letters below, a truth value that is none above; and a file that asks
for logs as objects, under options that name a level and a bootstrap. -/
theorem stages_agree_words :
    let data : List (Text × Datum) := [("strip_trailing_terminator", .text "Off"), ("log_level", .text "debug")]
    let s : Settings := { stripTerminator := false, logLevel := "DEBUG" }
    let upper : List (Text × Datum) := [("halt_on_error", .text "maybe"), ("log_json", .int 1)]
    let o : Options := { config := "t", bootstrap := some "b", logLevel := some "Warning" }
    let w := desk "log_json = 1"
    ofEntries data = .ok s ∧ ofEntries (overlay s.toEntries upper) = ofEntries (overlay data upper) ∧
      ofEntries s.toEntries = .ok s ∧ (load o.config w).1 = .ok { logJson := true } ∧
      (CommandLine.settings o w).1 = .ok { bootstrapPath := some "b", logLevel := "WARNING", logJson := true } := by
  intro data s upper o w
  have accepted : ofEntries data = .ok s := ofEntries_eq_ok.mpr ⟨rfl, rfl, rfl, rfl, rfl, rfl⟩
  have holds : Holds w.files "t" [("log_json", .int 1)] := holds_desk (by decide) (by decide +kernel)
  have merging : ofEntries (merged (directoryOf w.files "t") [("log_json", .int 1)]) = .ok { logJson := true } :=
    ofEntries_eq_ok.mpr ⟨rfl, rfl, rfl, rfl, rfl, rfl⟩
  have loaded : (load o.config w).1 = .ok { logJson := true } :=
    (congrArg Prod.fst (load_of_known holds rfl rfl)).trans merging
  obtain ⟨agree, again, -, options⟩ := stages_agree accepted upper
  exact ⟨accepted, agree, again, loaded, options o w _ loaded⟩

end Settings

end ScriptHost
