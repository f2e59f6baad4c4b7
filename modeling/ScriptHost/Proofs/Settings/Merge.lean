/-
Settings files, laid on the defaults. It makes no difference whether the settings stand at the top level of a file or
in the table for them: either a file is refused for the keys that are no settings, all of them, in order, or it gives
what its settings give with the defaults for all others. A bootstrap path is seen from the directory of the file, and
so is absolute in what comes of it. Nothing that is loaded changes the world, or what any file gives later.
-/
import ScriptHost.Proofs.CommandLine.Run
import ScriptHost.Proofs.Datum
import ScriptHost.Proofs.Path
import ScriptHost.Proofs.Settings.Fields
import ScriptHost.Proofs.Source.Terminator

namespace ScriptHost

/-! ## The order of keys -/

namespace Text

theorem le_total : ∀ s t : Text, (le s t || le t s) = true
  | [], _ => rfl
  | _ :: _, [] => rfl
  | a :: s, b :: t => by
    have rest := le_total s t
    rcases Nat.lt_trichotomy a.val b.val with less | same | more
    · simp [le, less]
    · have same : a = b := by
        cases a
        cases b
        simpa using same
      subst same
      simpa [le] using rest
    · simp [le, more]

/-- By the first marks that differ. -/
theorem le_trans : ∀ {s t u : Text}, le s t = true → le t u = true → le s u = true
  | [], _, _, _, _ => rfl
  | _ :: _, [], _, below, _ => by cases below
  | _ :: _, _ :: _, [], _, below => by cases below
  | a :: s, b :: t, c :: u, first, second => by
    simp only [le, Bool.or_eq_true, Bool.and_eq_true, decide_eq_true_eq] at first second ⊢
    rcases first with first | ⟨rfl, first⟩
    · rcases second with second | ⟨rfl, -⟩
      · exact .inl (Nat.lt_trans first second)
      · exact .inl first
    · rcases second with second | ⟨rfl, second⟩
      · exact .inl second
      · exact .inr ⟨rfl, le_trans first second⟩

end Text

namespace Settings

open Validation

variable {T entries : List (Text × Datum)} {directory path : Text} {files : Files} {v w : World}

/-! ## Keys -/

/-- Whether a key is that of a setting. -/
def isKey (k : Text) : Bool := keys.any fun name => Text.ofString name = k

/-- The keys of a table that are no settings. -/
def strangers (T : List (Text × Datum)) : List Text := (T.map (·.1)).filter fun k => !isKey k

theorem unknownKeys_perm (T : List (Text × Datum)) : (unknownKeys T).Perm (strangers T) :=
  List.mergeSort_perm _ _

theorem unknownKeys_sorted (T : List (Text × Datum)) : (unknownKeys T).Pairwise fun a b => Text.le a b = true :=
  @List.pairwise_mergeSort _ Text.le (fun _ _ _ => Text.le_trans) Text.le_total _

/-! ## The settings of a table -/

/-- A datum for the bootstrap path, seen from a directory. -/
def rebased (directory : Text) : Datum → Datum
  | .text p => if Path.isAbsolute p then .text p else .text (Path.join directory p)
  | d => d

/-- The defaults, each overridden by what a table has under its key. -/
def merged (directory : Text) (T : List (Text × Datum)) : List (Text × Datum) :=
  (toEntries {}).map fun (k, default) => (k, match Datum.lookup? k T with
    | none => default
    | some d => if k = Text.ofString "bootstrap_path" then rebased directory d else d)

theorem anchor_eq (directory : Text) (T : List (Text × Datum)) : anchor directory T =
    T.map fun (k, d) => (k, if k = Text.ofString "bootstrap_path" then rebased directory d else d) := by
  unfold anchor
  refine List.map_congr_left fun entry _ => ?_
  obtain ⟨k, d⟩ := entry
  dsimp only
  cases d with
  | text p =>
    dsimp only
    by_cases key : k = Text.ofString "bootstrap_path"
    · rw [if_pos key, if_pos key]
      by_cases absolute : Path.isAbsolute p = true
      · simp [rebased, Path.join, absolute]
      · simp [rebased, absolute]
    · rw [if_neg key, if_neg key]
  | _ => simp [rebased]

/-- Where all keys are those of settings, nothing follows the settings. -/
theorem overlay_anchor (known : strangers T = []) (directory : Text) :
    overlay (toEntries {}) (anchor directory T) = merged directory T := by
  have none_left : (anchor directory T).filter (fun (k, _) => !(toEntries {}).any (·.1 = k)) = [] := by
    rw [List.filter_eq_nil_iff]
    intro entry inside
    rw [anchor_eq, List.mem_map] at inside
    obtain ⟨⟨k, d⟩, inside, rfl⟩ := inside
    have key : isKey k = true := by
      simpa using List.filter_eq_nil_iff.mp known k (List.mem_map_of_mem inside)
    have among : (toEntries {}).any (·.1 = k) = isKey k := rfl
    simp [among, key]
  -- under the key of a setting both have what the table has there, seen from the directory
  unfold overlay merged
  rw [none_left, List.append_nil, anchor_eq]
  refine List.map_congr_left fun entry _ => ?_
  obtain ⟨k, default⟩ := entry
  dsimp only
  rw [Datum.lookup?_map fun k d => if k = Text.ofString "bootstrap_path" then rebased directory d else d]
  cases Datum.lookup? k T with
  | none => rfl
  | some d => rfl

theorem rebased_absolute (rooted : Path.isAbsolute directory = true) {d : Datum} {p : Text}
    (fits : bootstrapPathOf (rebased directory d) = .ok (some p)) : Path.isAbsolute p = true := by
  cases d with
  | text q =>
    by_cases absolute : Path.isAbsolute q = true
    · rw [rebased, if_pos absolute] at fits
      cases fits
      exact absolute
    · rw [rebased, if_neg absolute] at fits
      cases fits
      exact Path.isAbsolute_join rooted q
  | _ => cases fits

/-- A bootstrap path that comes of a table is absolute. -/
theorem merged_absolute (rooted : Path.isAbsolute directory = true) {codecs : Codecs} {settings : Settings} {p : Text}
    (accepted : ofEntries (merged directory T) codecs = .ok settings) (named : settings.bootstrapPath = some p) :
    Path.isAbsolute p = true := by
  -- the defaults have the key, so it is found whether or not the table has it
  have first : Datum.lookup? "bootstrap_path" (merged directory T) =
      some (match Datum.lookup? "bootstrap_path" T with
        | none => .nothing
        | some d => rebased directory d) := rfl
  obtain ⟨d, found, fits⟩ | ⟨none, -⟩ := field_eq_ok (ofEntries_eq_ok.mp accepted).bootstrapPath
  · rw [first] at found
    rw [named] at fits
    cases found
    cases given : Datum.lookup? "bootstrap_path" T with
    | none =>
      rw [given] at fits
      cases fits
    | some d =>
      rw [given] at fits
      exact rebased_absolute rooted fits
  · rw [first] at none
    cases none

/-! ## Files -/

/-- A file stands at the path, and its document is the table. -/
def Holds (files : Files) (path : Text) (entries : List (Text × Datum)) : Prop :=
  ∃ content document, files.read path = .ok content ∧ Utf8.decode content.bytes = .ok document ∧
    Toml.read? document = .ok entries

/-- The settings of a document are the table: it is all of it, or its table for them. -/
def Stands (T entries : List (Text × Datum)) : Prop :=
  entries = T ∨ Datum.lookup? tableName entries = some (.table T)

theorem settingsTable_of_stands (unnested : Datum.lookup? tableName T = none) (stands : Stands T entries) :
    settingsTable entries = T := by
  unfold settingsTable
  rcases stands with rfl | nested
  · rw [unnested]
  · rw [nested]

theorem has_of_read {content : Files.Content} (found : files.read path = .ok content) : files.has path = true := by
  unfold Files.read at found
  unfold Files.has
  cases spelled : Files.pathBytes path with
  | error e => simp [spelled] at found
  | ok bytes =>
    simp only [spelled] at found ⊢
    split at found
    · cases found
    · next whole =>
      split at found
      · next place =>
        rw [Bool.eq_false_iff.mpr whole, place]
        rfl
      · cases found
      · cases found

/-- The directory that a file lies in, as it is seen from the root. -/
def directoryOf (files : Files) (path : Text) : Text := Path.directory (Path.absolute (workingText files) path)

theorem isAbsolute_directoryOf (files : Files) (path : Text) : Path.isAbsolute (directoryOf files path) = true := by
  have working : Path.isAbsolute (workingText files) = true := rfl
  exact Path.isAbsolute_directory (Path.isAbsolute_absolute working path)

/-- What loading a file comes to whose settings are a table. -/
theorem load_of_holds (holds : Holds w.files path entries) (table : settingsTable entries = T) :
    load path w = (match unknownKeys T with
      | [] => ofEntries (overlay (toEntries {}) (anchor (directoryOf w.files path) T)) w.files.codecs
      | unknown => .error (.settings ("Unknown configuration keys in " ++ path ++ ": " ++ Text.join ", " unknown)),
          w) := by
  obtain ⟨content, document, found, decoded, parsed⟩ := holds
  unfold load
  simp only [Action.bind_apply, Action.look_apply, has_of_read found, if_true, found, decoded, Action.ofExcept_apply,
    ofDocument, parsed, table]
  rfl

theorem load_of_known (holds : Holds w.files path entries) (table : settingsTable entries = T)
    (known : strangers T = []) :
    load path w = (ofEntries (merged (directoryOf w.files path) T) w.files.codecs, w) := by
  have none : unknownKeys T = [] := List.Perm.eq_nil (known ▸ unknownKeys_perm T)
  rw [load_of_holds holds table, none]
  dsimp only
  rw [overlay_anchor known]

theorem load_of_strange (holds : Holds w.files path entries) (table : settingsTable entries = T)
    (strange : strangers T ≠ []) :
    load path w = (.error (.settings
      ("Unknown configuration keys in " ++ path ++ ": " ++ Text.join ", " (unknownKeys T))), w) := by
  rw [load_of_holds holds table]
  cases some : unknownKeys T with
  | nil =>
    have perm := unknownKeys_perm T
    rw [some] at perm
    exact absurd perm.nil_eq.symm strange
  | cons k rest => rfl

/-- Loading a file gives, for a table of settings that has no table for settings itself, the same whether the table
is the whole document or the table for settings in it: where some of its keys are no settings, the fault that tells
them all in order, and otherwise the settings that the defaults give with each overridden by the table, the bootstrap
path seen from the directory of the file and so absolute. The world stays as it was, and so do the defaults. -/
theorem load_merges (unnested : Datum.lookup? tableName T = none) (holds : Holds w.files path entries)
    (stands : Stands T entries) :
    (strangers T ≠ [] → ∃ ks, ks.Perm (strangers T) ∧ ks.Pairwise (fun a b => Text.le a b = true) ∧
      load path w = (.error (.settings
        ("Unknown configuration keys in " ++ path ++ ": " ++ Text.join ", " ks)), w)) ∧
    (strangers T = [] → load path w = (ofEntries (merged (directoryOf w.files path) T) w.files.codecs, w) ∧
      ∀ settings p, (load path w).1 = .ok settings → settings.bootstrapPath = some p → Path.isAbsolute p = true) ∧
    (∀ (v : World) (entries' : List (Text × Datum)), v.files.working = w.files.working →
      v.files.codecs = w.files.codecs → Holds v.files path entries' → Stands T entries' →
      (load path v).1 = (load path w).1) ∧
    ∀ other, w.files.has other = false → load other (load path w).2 = (.ok {}, w) := by
  have table := settingsTable_of_stands unnested stands
  refine ⟨?_, ?_, ?_, ?_⟩
  · intro strange
    exact ⟨unknownKeys T, unknownKeys_perm T, unknownKeys_sorted T, load_of_strange holds table strange⟩
  · intro known
    have loaded := load_of_known holds table known
    refine ⟨loaded, ?_⟩
    intro settings p accepted named
    rw [loaded] at accepted
    exact merged_absolute (isAbsolute_directoryOf w.files path) accepted named
  · intro v entries' working codecs holds' stands'
    have same : directoryOf v.files path = directoryOf w.files path := by
      unfold directoryOf workingText
      rw [working]
    rw [load_of_holds holds table, load_of_holds holds' (settingsTable_of_stands unnested stands'), same, codecs]
  · intro other absent
    rw [CommandLine.load_snd]
    unfold load
    simp only [Action.bind_apply, Action.look_apply, absent]
    rfl

/-- A world with a file `t` that holds a document, in the root. -/
def desk (document : String) : World := Source.shelf [0x74] (Utf8.encode (Text.ofString document))

theorem holds_desk {document : String} {entries : List (Text × Datum)}
    (plain : ∀ c ∈ Text.ofString document, c.isSurrogate = false)
    (parsed : Toml.read? (Text.ofString document) = .ok entries) : Holds (desk document).files "t" entries :=
  ⟨⟨Utf8.encode (Text.ofString document), _⟩, Text.ofString document, rfl,
    Utf8.decode_eq_ok_iff.mpr ⟨rfl, plain⟩, parsed⟩

/-- A relative bootstrap path, at the top level and in the table for settings, beside which another key is of no
account; and two keys that are no settings. -/
theorem load_merges_layouts :
    let top := desk "bootstrap_path = 'b'"
    let nested := desk "z = 'a'\n[jshost]\nbootstrap_path = 'b'"
    let strange := desk "z = 'a'\nlog = 'a'"
    load "t" top = (.ok { bootstrapPath := some "/b" }, top) ∧ (load "t" nested).1 = (load "t" top).1 ∧
      (∃ ks, ks.Perm [("z" : Text), "log"] ∧ ks.Pairwise (fun a b => Text.le a b = true) ∧
        load "t" strange = (.error (.settings
          ("Unknown configuration keys in " ++ "t" ++ ": " ++ Text.join ", " ks)), strange)) ∧
      load "gone" (load "t" strange).2 = (.ok {}, strange) := by
  intro top nested strange
  have holds : Holds top.files "t" [("bootstrap_path", .text "b")] := holds_desk (by decide) (by decide +kernel)
  have holds' : Holds nested.files "t" [("z", .text "a"), ("jshost", .table [("bootstrap_path", .text "b")])] :=
    holds_desk (by decide) (by decide +kernel)
  have holds'' : Holds strange.files "t" [("z", .text "a"), ("log", .text "a")] :=
    holds_desk (by decide) (by decide +kernel)
  obtain ⟨-, known, same, -⟩ := load_merges rfl holds (.inl rfl)
  obtain ⟨refused, -, -, after⟩ := load_merges rfl holds'' (.inl rfl)
  have directory : directoryOf top.files "t" = "/" := rfl
  have accepted : ofEntries (merged "/" [("bootstrap_path", .text "b")]) top.files.codecs =
      .ok { bootstrapPath := some "/b" } := ofEntries_eq_ok.mpr ⟨rfl, rfl, rfl, rfl, rfl, rfl⟩
  exact ⟨by rw [(known rfl).1, directory, accepted], same nested _ rfl rfl holds' (.inr rfl), refused (by decide),
    after "gone" rfl⟩

end Settings

end ScriptHost
