/-
What is written in a settings file and what comes of it. Each entry of the table that the settings stand in is heeded:
a key that is no setting is told among the keys that are none, and one that is determines its field of whatever
settings come of the file. The table is the document, unless there is one for settings in it. Then it alone is heeded,
and whatever stands beside it is lost without a word.
-/
import ScriptHost.Proofs.Settings.Loading
import ScriptHost.Proofs.Toml.Distinct

namespace ScriptHost

namespace Settings

variable {codecs : Codecs} {T entries : List (Text × Datum)} {directory path k : Text} {d : Datum} {s : Settings}
    {w : World}

theorem distinct_settingsTable (distinct : Toml.Distinct (.table entries)) :
    Toml.Distinct (.table (settingsTable entries)) := by
  unfold settingsTable
  split
  · next inner found => exact distinct.of_table.2 _ (Datum.mem_of_lookup? found)
  · exact distinct

/-! ## Settings and the entries they come from -/

/-- The field of settings under a key is what a datum is read as; a bootstrap path is seen from a directory. -/
inductive Determines (codecs : Codecs) (directory : Text) (s : Settings) : Text → Datum → Prop
  | bootstrapPath {d : Datum} (read : bootstrapPathOf (rebased directory d) = .ok s.bootstrapPath) :
    Determines codecs directory s "bootstrap_path" d
  | stripTerminator {d : Datum} (read : Validation.boolOf d = .ok s.stripTerminator) :
    Determines codecs directory s "strip_trailing_terminator" d
  | encoding {d : Datum} (read : encodingOf codecs d = .ok s.encoding) : Determines codecs directory s "encoding" d
  | haltOnError {d : Datum} (read : Validation.boolOf d = .ok s.haltOnError) :
      Determines codecs directory s "halt_on_error" d
  | logLevel {d : Datum} (read : logLevelOf d = .ok s.logLevel) : Determines codecs directory s "log_level" d
  | logJson {d : Datum} (read : Validation.boolOf d = .ok s.logJson) : Determines codecs directory s "log_json" d

/-- Under the key of a setting the table on the defaults has what the table has there. -/
theorem lookup?_merged {default : Datum} (standard : Datum.lookup? k (toEntries {}) = some default)
    (given : Datum.lookup? k T = some d) : Datum.lookup? k (merged directory T) =
      some (if k = Text.ofString "bootstrap_path" then rebased directory d else d) := by
  let laid (k : Text) (default : Datum) : Datum := (Datum.lookup? k T).elim default fun d =>
    if k = Text.ofString "bootstrap_path" then rebased directory d else d
  have laying : merged directory T = (toEntries {}).map fun e => (e.1, laid e.1 e.2) := by
    refine List.map_congr_left fun e _ => ?_
    simp only [laid]
    cases Datum.lookup? e.1 T <;> rfl
  calc Datum.lookup? k (merged directory T)
      = (Datum.lookup? k (toEntries {})).map (laid k) := by rw [laying, Datum.lookup?_map laid k (toEntries {})]
    _ = some (laid k default) := by rw [standard, Option.map_some]
    _ = _ := by simp only [laid, given, Option.elim_some]

theorem read_of_merged {α : Type} {name : String} {read : Datum → Except Validation.Misfit α} {a start : α}
    {default : Datum} (given : Datum.lookup? name T = some d)
    (standard : Datum.lookup? name (toEntries {}) = some default)
    (fits : Validation.field (merged directory T) name read (some start) = .ok a) :
    read (if Text.ofString name = Text.ofString "bootstrap_path" then rebased directory d else d) = .ok a := by
  obtain ⟨d', found, fits⟩ | ⟨none, -⟩ := Validation.field_eq_ok fits
  · rw [lookup?_merged standard given] at found
    cases found
    exact fits
  · rw [lookup?_merged standard given] at none
    cases none

theorem determines_of_merged (accepted : ofEntries (merged directory T) codecs = .ok s) (key : isKey k = true)
    (given : Datum.lookup? k T = some d) : Determines codecs directory s k d := by
  have reads := ofEntries_eq_ok.mp accepted
  obtain ⟨name, known, same⟩ := List.any_eq_true.mp key
  obtain rfl := of_decide_eq_true same
  simp only [keys, List.mem_cons, List.not_mem_nil, or_false] at known
  rcases known with rfl | rfl | rfl | rfl | rfl | rfl
  · exact .bootstrapPath (read_of_merged given rfl reads.bootstrapPath)
  · exact .stripTerminator (read_of_merged given rfl reads.stripTerminator)
  · exact .encoding (read_of_merged given rfl reads.encoding)
  · exact .haltOnError (read_of_merged given rfl reads.haltOnError)
  · exact .logLevel (read_of_merged given rfl reads.logLevel)
  · exact .logJson (read_of_merged given rfl reads.logJson)

theorem isKey_of_determines (determines : Determines codecs directory s k d) : isKey k = true := by
  cases determines with
  | _ => rfl

/-! ## Entries that are heeded -/

/-- How what is loaded from a path heeds an entry. -/
inductive Heeded (codecs : Codecs) (path directory k : Text) (d : Datum) : Except Fault Settings → Prop
  | strange {ks : List Text} (told : k ∈ ks) : Heeded codecs path directory k d
    (.error (.settings ("Unknown configuration keys in " ++ path ++ ": " ++ Text.join ", " ks)))
  | refused {text : Text} (key : isKey k = true) : Heeded codecs path directory k d (.error (.settings text))
  | settled {s : Settings} (determines : Determines codecs directory s k d) : Heeded codecs path directory k d (.ok s)

theorem heeded_of_mem (holds : Holds w.files path entries) (inside : (k, d) ∈ settingsTable entries) :
    Heeded w.files.codecs path (directoryOf w.files path) k d (load path w).1 := by
  have distinct : Toml.Distinct (.table entries) := by
    obtain ⟨_, _, -, -, parsed⟩ := holds
    exact Toml.read?_distinct parsed
  -- the table has no other entry under the key, so it is this one that the field is read from
  have given := Datum.lookup?_of_mem (distinct_settingsTable distinct).of_table.1 inside
  by_cases known : strangers (settingsTable entries) = []
  · have key : isKey k = true := by
      simpa using List.filter_eq_nil_iff.mp known k (List.mem_map_of_mem inside)
    rw [load_of_known holds rfl known]
    cases came : ofEntries (merged (directoryOf w.files path) (settingsTable entries)) w.files.codecs with
    | error f =>
      obtain ⟨text, rfl⟩ := ofEntries_fault came
      exact .refused key
    | ok s => exact .settled (determines_of_merged came key given)
  · rw [load_of_strange holds rfl known]
    by_cases key : isKey k = true
    · exact .refused key
    · refine .strange ((unknownKeys_perm _).mem_iff.mpr (List.mem_filter.mpr ⟨List.mem_map_of_mem inside, ?_⟩))
      simpa using key

/-- Of a file without a table for settings every entry is heeded. Of one that has such a table its entries are, and
nothing else is: what is loaded is the same for any other document with that table in it. -/
theorem load_heeds (holds : Holds w.files path entries) :
    ((∀ T, Datum.lookup? tableName entries ≠ some (.table T)) →
      ∀ k d, (k, d) ∈ entries → Heeded w.files.codecs path (directoryOf w.files path) k d (load path w).1) ∧
    ∀ T, Datum.lookup? tableName entries = some (.table T) →
      (∀ k d, (k, d) ∈ T → Heeded w.files.codecs path (directoryOf w.files path) k d (load path w).1) ∧
      ∀ (v : World) (entries' : List (Text × Datum)), v.files.working = w.files.working →
        v.files.codecs = w.files.codecs → Holds v.files path entries' →
          Datum.lookup? tableName entries' = some (.table T) →
        (load path v).1 = (load path w).1 := by
  constructor
  · intro flat k d inside
    have table : settingsTable entries = entries := by
      unfold settingsTable
      split
      · next T nested => exact absurd nested (flat T)
      · rfl
    exact heeded_of_mem holds (by rwa [table])
  · intro T nested
    have table {entries : List (Text × Datum)} (nested : Datum.lookup? tableName entries = some (.table T)) :
        settingsTable entries = T := by
      unfold settingsTable
      rw [nested]
    constructor
    · intro k d inside
      exact heeded_of_mem holds (by rwa [table nested])
    · intro v entries' working codecs holds' nested'
      have same : directoryOf v.files path = directoryOf w.files path := by
        unfold directoryOf workingText
        rw [working]
      rw [load_of_holds holds (table nested), load_of_holds holds' (table nested'), same, codecs]

/-- A setting at the top level, and the same in a table for settings beside a key that is none, which is not told. -/
theorem load_heeds_beside :
    let flat := desk "log_json = true"
    let nested := desk "[jshost]\nlog_json = true"
    let mixed := desk "log = 'a'\n[jshost]\nlog_json = true"
    Heeded .none "t" "/" "log_json" (.bool true) (load "t" flat).1 ∧ Heeded .none "t" "/" "log_json" (.bool true)
        (load "t" mixed).1 ∧
      (load "t" mixed).1 = (load "t" nested).1 ∧ ¬ Heeded .none "t" "/" "log" (.text "a") (load "t" mixed).1 := by
  intro flat nested mixed
  have holds : Holds flat.files "t" [("log_json", .bool true)] := holds_desk (by decide) (by decide +kernel)
  have holds' : Holds nested.files "t" [("jshost", .table [("log_json", .bool true)])] :=
    holds_desk (by decide) (by decide +kernel)
  have holds'' : Holds mixed.files "t" [("log", .text "a"), ("jshost", .table [("log_json", .bool true)])] :=
    holds_desk (by decide) (by decide +kernel)
  have lone : Datum.lookup? tableName [("jshost", .table [("log_json", .bool true)])] =
      some (.table [("log_json", .bool true)]) := rfl
  have beside : Datum.lookup? tableName [("log", .text "a"), ("jshost", .table [("log_json", .bool true)])] =
      some (.table [("log_json", .bool true)]) := rfl
  have same : (load "t" mixed).1 = (load "t" nested).1 :=
    ((load_heeds holds').2 _ lone).2 mixed _ rfl rfl holds'' beside
  have heeded := ((load_heeds holds'').2 _ beside).1 _ _ List.mem_cons_self
  refine ⟨(load_heeds holds).1 (by rintro T ⟨⟩) _ _ List.mem_cons_self, heeded, same, ?_⟩
  have accepted : ofEntries (merged "/" [("log_json", .bool true)]) = .ok { logJson := true } :=
    ofEntries_eq_ok.mpr ⟨rfl, rfl, rfl, rfl, rfl, rfl⟩
  have loaded : (load "t" mixed).1 = .ok { logJson := true } := by
    rw [load_of_known holds'' rfl rfl]
    exact accepted
  rw [loaded]
  rintro (_ | _ | determines)
  cases isKey_of_determines determines

end Settings

end ScriptHost
