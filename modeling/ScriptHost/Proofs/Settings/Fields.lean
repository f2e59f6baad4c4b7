/-
The fields of settings. A table gives settings just where each of the six fields fits, and each field is read from
the entry under its own key alone, or is its default where there is none. So settings depend on a table only by what
is found under the keys, and what a field may be is known of all settings that were accepted.
-/
import ScriptHost.Settings.Basic

namespace ScriptHost

open Validation

/-! ## Single fields -/

section Field

variable {α : Type} {data : List (Text × Datum)} {name : String} {read : Datum → Except Misfit α} {default a : α}

/-- A field that fits is what its entry is read as, or its default. -/
theorem Validation.field_eq_ok (fits : field data name read (some default) = .ok a) :
    (∃ d, Datum.lookup? name data = some d ∧ read d = .ok a) ∨ Datum.lookup? name data = none ∧ a = default := by
  unfold field at fits
  cases found : Datum.lookup? name data with
  | none =>
    rw [found] at fits
    cases fits
    exact .inr ⟨rfl, rfl⟩
  | some d =>
    rw [found] at fits
    dsimp only at fits
    refine .inl ⟨d, rfl, ?_⟩
    cases came : read d with
    | error m =>
      rw [came] at fits
      cases fits
    | ok b =>
      rw [came] at fits
      cases fits
      rfl

end Field

namespace Settings

variable {codecs : Codecs} {data : List (Text × Datum)} {s : Settings}

/-- The settings that a table gives, field by field. -/
structure Reads (codecs : Codecs) (data : List (Text × Datum)) (s : Settings) : Prop where
  bootstrapPath : field data "bootstrap_path" bootstrapPathOf (some none) = .ok s.bootstrapPath
  stripTerminator : field data "strip_trailing_terminator" boolOf (some true) = .ok s.stripTerminator
  encoding : field data "encoding" (encodingOf codecs) (some "utf-8") = .ok s.encoding
  haltOnError : field data "halt_on_error" boolOf (some false) = .ok s.haltOnError
  logLevel : field data "log_level" logLevelOf (some "INFO") = .ok s.logLevel
  logJson : field data "log_json" boolOf (some false) = .ok s.logJson

/-- Settings are accepted where all their fields fit. -/
theorem ofEntries_eq_ok : ofEntries data codecs = .ok s ↔ Reads codecs data s := by
  constructor
  · intro accepted
    cases valid : validate codecs data with
    | error ps =>
      rw [ofEntries, valid] at accepted
      cases accepted
    | ok s' =>
      rw [ofEntries, valid] at accepted
      cases accepted
      unfold validate at valid
      dsimp only at valid
      split at valid
      · next path strip encoding halt level json =>
        cases valid
        exact ⟨path, strip, encoding, halt, level, json⟩
      · cases valid
  · intro reads
    have valid : validate codecs data = .ok s := by
      unfold validate
      dsimp only
      rw [reads.bootstrapPath, reads.stripTerminator, reads.encoding, reads.haltOnError, reads.logLevel, reads.logJson]
    rw [ofEntries, valid]
    rfl

/-! ## Encodings -/

/-- A name of an encoding that settings may have. -/
structure Accepted (codecs : Codecs) (name : Text) : Prop where
  known : (codecs.find? name).isSome
  plain : ∀ c ∈ name, c.isSurrogate = false
  whole : name.contains (CodePoint.ofByte 0) = false

theorem filledTextOf_plain {d : Datum} {t : Text} (filled : filledTextOf d = .ok t) :
    ∀ c ∈ t, c.isSurrogate = false := by
  unfold filledTextOf at filled
  split at filled
  · cases filled
  · next u _ =>
    split at filled
    · cases filled
    · next plain =>
      split at filled
      · cases filled
      · cases filled
        intro c inside
        cases surrogate : c.isSurrogate with
        | false => rfl
        | true => exact absurd (List.any_eq_true.mpr ⟨c, inside, surrogate⟩) plain

theorem accepted_of_encodingOf {d : Datum} {name : Text} (fits : encodingOf codecs d = .ok name) :
    Accepted codecs name := by
  unfold encodingOf at fits
  -- the datum is a text without surrogates, and the text is the name
  cases filled : filledTextOf d with
  | error m => simp [filled] at fits
  | ok t =>
    simp only [filled] at fits
    split at fits
    · cases fits
    · next whole =>
      split at fits
      · next known =>
        cases fits
        exact ⟨known, filledTextOf_plain filled, by simpa using whole⟩
      · cases fits

/-- Whatever settings were accepted, their encoding is known by its name. -/
theorem accepted_encoding (accepted : ofEntries data codecs = .ok s) :
    Accepted codecs s.encoding := by
  obtain ⟨d, -, fits⟩ | ⟨-, same⟩ := field_eq_ok (ofEntries_eq_ok.mp accepted).encoding
  · exact accepted_of_encodingOf fits
  · rw [same]
    exact ⟨rfl, by decide, by decide⟩

end Settings

end ScriptHost
