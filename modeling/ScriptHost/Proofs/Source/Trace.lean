/-
The log of a reading. Every reading reports its start. Where the system does not open the file, one failure follows,
with the reason that the fault has too. Where it does, a shortage is reported if fewer bytes came than the file claims
to have, then the completion with the number of bytes as they came, and one failure if they could not be decoded, whose
text the fault repeats behind the name of the encoding. So a failure is in the log just where the fault of reading is
one of an unread source, and the fault has the path in full where the log may have cut it.
-/
import ScriptHost.Proofs.Source.Decoding

namespace ScriptHost.Source

variable {how : Reading} {codecs : Codecs} {path : Text} {w : World}

/-! ## Decoding -/

/-- What decoding the bytes of a file comes to, and what it reports. -/
inductive Decodes (codecs : Codecs) (how : Reading) (path : Text) (bytes : Bytes) :
    Except Fault Text → List Event → Prop
  | text {t : Text} (came : decode codecs how.encoding (how.kept bytes) = .ok t) :
      Decodes codecs how path bytes (.ok t) []
  | undecoded {d : DecodingFault} (came : decode codecs how.encoding (how.kept bytes) = .error (.decoding d)) :
    Decodes codecs how path bytes (.error (.unread path ("not valid " ++ how.encoding ++ ": " ++ d.message)))
      [.readFailed path d.message]
  /-- The name stands for no encoding of texts, or for one that does not say which bytes it cannot read. -/
  | misnamed {f : Fault} (came : decode codecs how.encoding (how.kept bytes) = .error f) (other : ∀ d, f ≠ .decoding d)
    (foreign : f.isOwn = false) : Decodes codecs how path bytes (.error f) []

theorem decoded_reports (how : Reading) (codecs : Codecs) (path : Text) (bytes : Bytes) (w : World) : ∃ failures,
    (decoded how codecs path bytes w).2.notices = w.notices ++ failures.map .event ∧
      Decodes codecs how path bytes (decoded how codecs path bytes w).1 failures := by
  have kept : (if how.strip then stripTerminator bytes else bytes) = how.kept bytes := rfl
  unfold decoded
  rw [kept]
  cases came : decode codecs how.encoding (how.kept bytes) with
  | ok t => exact ⟨[], (List.append_nil _).symm, .text came⟩
  | error f =>
    cases f with
    | decoding d => exact ⟨[.readFailed path d.message], rfl, .undecoded came⟩
    | _ => exact ⟨[], (List.append_nil _).symm, .misnamed came (by rintro _ ⟨⟩) (decode_foreign came)⟩

/-! ## Reading -/

/-- The event of a file that gave fewer bytes than it claims to have. -/
def shortage (path : Text) (content : Files.Content) : List Event :=
  if content.bytes.length < content.claimed then [.readShort path content.claimed content.bytes.length] else []

/-- What reading a source comes to and what it reports, by what was found at its path. -/
inductive Traced (codecs : Codecs) (how : Reading) (path : Text) : Except Fault Files.Content → Except Fault Text →
    List Event → Prop
  | unopened (fault : SystemFault) : Traced codecs how path (.error (.system fault))
    (.error (.unread path (reasonOf fault))) [.readStarted path, .readFailed path (reasonOf fault)]
  /-- The path is none that the system could look for. -/
  | refused {f : Fault} (foreign : f.isOwn = false) (other : f.isSystem = false) :
    Traced codecs how path (.error f) (.error f) [.readStarted path]
  | opened {content : Files.Content} {r : Except Fault Text} {failures : List Event}
    (decodes : Decodes codecs how path content.bytes r failures) : Traced codecs how path (.ok content) r
      (.readStarted path :: (shortage path content ++ .readCompleted path content.bytes.length :: failures))

theorem taken_reports (how : Reading) (codecs : Codecs) (path : Text) (content : Files.Content) (w : World) :
    ∃ failures, (taken how codecs path (.ok content) w).2.notices =
      w.notices ++ (shortage path content ++ .readCompleted path content.bytes.length :: failures).map .event ∧
    Decodes codecs how path content.bytes (taken how codecs path (.ok content) w).1 failures := by
  unfold taken shortage
  dsimp only
  split
  · next short =>
    obtain ⟨failures, notices, decodes⟩ := decoded_reports how codecs path content.bytes
      ((w.tell (.event (.readShort path content.claimed content.bytes.length))).tell
        (.event (.readCompleted path content.bytes.length)))
    exact ⟨failures, by simpa using notices, decodes⟩
  · next whole =>
    obtain ⟨failures, notices, decodes⟩ := decoded_reports how codecs path content.bytes
      (w.tell (.event (.readCompleted path content.bytes.length)))
    exact ⟨failures, by simpa using notices, decodes⟩

/-- What the file tree refuses is never a fault of the host's own. -/
theorem foreign_of_read {files : Files} {f : Fault} (found : files.read path = .error f) : f.isOwn = false := by
  unfold Files.read at found
  split at found
  · cases found
    rfl
  · split at found
    · cases found
      rfl
    · split at found
      · cases found
      · cases found
        rfl
      · cases found
        rfl

theorem read_reports (how : Reading) (path : Text) (w : World) : ∃ log,
    (read how path w).2.notices = w.notices ++ log.map .event ∧
      Traced w.files.codecs how path (w.files.read path) (read how path w).1 log := by
  have begun : read how path w =
      taken how w.files.codecs path (w.files.read path)
        ((w.happen (.reading path)).tell (.event (.readStarted path))) := rfl
  rw [begun]
  cases found : w.files.read path with
  | ok content =>
    obtain ⟨failures, notices, decodes⟩ := taken_reports how w.files.codecs path content
      ((w.happen (.reading path)).tell (.event (.readStarted path)))
    exact ⟨_, by simpa using notices, .opened decodes⟩
  | error f =>
    have foreign := foreign_of_read found
    cases f with
    | system fault =>
      exact ⟨[.readStarted path, .readFailed path (reasonOf fault)], by simp [taken], .unopened fault⟩
    | _ => exact ⟨[.readStarted path], rfl, .refused foreign rfl⟩

/-! ## Failures -/

/-- The fault of an unread source has the path that was asked for. -/
theorem Traced.path_eq {found : Except Fault Files.Content} {log : List Event} {p reason : Text}
    (traced : Traced codecs how path found (.error (.unread p reason)) log) : p = path := by
  cases traced with
  | unopened fault => rfl
  | refused foreign other => cases foreign
  | opened decodes =>
    cases decodes with
    | undecoded came => rfl
    | misnamed came other foreign => cases foreign

theorem readFailed_not_mem_shortage (path error : Text) (content : Files.Content) :
    .readFailed path error ∉ shortage path content := by
  unfold shortage
  split
  · simp
  · simp

/-- A failure is reported just where reading ends with the fault of an unread source. -/
theorem Traced.failed_iff {found : Except Fault Files.Content} {r : Except Fault Text} {log : List Event}
    (traced : Traced codecs how path found r log) :
    (∃ error, .readFailed path error ∈ log) ↔ ∃ p reason, r = .error (.unread p reason) := by
  cases traced with
  | unopened fault => exact ⟨fun _ => ⟨path, _, rfl⟩, fun _ => ⟨reasonOf fault, by simp⟩⟩
  | refused foreign other =>
    constructor
    · rintro ⟨error, told⟩
      simp at told
    · rintro ⟨p, reason, same⟩
      cases same
      cases foreign
  | opened decodes =>
    cases decodes with
    | text came =>
      constructor
      · rintro ⟨error, told⟩
        simp [readFailed_not_mem_shortage] at told
      · rintro ⟨p, reason, ⟨⟩⟩
    | @undecoded d came => exact ⟨fun _ => ⟨path, _, rfl⟩, fun _ => ⟨d.message, by simp⟩⟩
    | misnamed came other foreign =>
      constructor
      · rintro ⟨error, told⟩
        simp [readFailed_not_mem_shortage] at told
      · rintro ⟨p, reason, same⟩
        cases same
        cases foreign

/-! ## Records -/

/-- What the record of an event has under a key. -/
def told (e : Event) (key : Text) : Option Datum := Datum.lookup? key e.record.fields

theorem told_event (e : Event) : told e "event" = some (.text e.name) := by
  cases e <;> rfl

theorem told_path_of_mem_shortage {content : Files.Content} {e : Event} (inside : e ∈ shortage path content) :
    told e "path" = some (.text (Log.cut Log.pathLimit path)) := by
  unfold shortage at inside
  split at inside
  · obtain rfl := List.mem_singleton.mp inside
    rfl
  · cases inside

/-- Every record of a reading has the path, cut where it is long. -/
theorem Traced.told_path {found : Except Fault Files.Content} {r : Except Fault Text} {log : List Event}
    (traced : Traced codecs how path found r log) {e : Event} (inside : e ∈ log) :
    told e "path" = some (.text (Log.cut Log.pathLimit path)) := by
  cases traced with
  | unopened fault =>
    simp only [List.mem_cons, List.not_mem_nil, or_false] at inside
    rcases inside with rfl | rfl
    · rfl
    · rfl
  | refused foreign other =>
    obtain rfl := List.mem_singleton.mp inside
    rfl
  | opened decodes =>
    simp only [List.mem_cons, List.mem_append] at inside
    rcases inside with rfl | inside | rfl | inside
    · rfl
    · exact told_path_of_mem_shortage inside
    · rfl
    · cases decodes with
      | undecoded came =>
        obtain rfl := List.mem_singleton.mp inside
        rfl
      | text came => cases inside
      | misnamed came other foreign => cases inside

/-- The log of every reading accounts for it: the start; then, where the system does not open the file, one failure with
the reason that the fault has, and where it does, a shortage if and only if fewer bytes came than the file claims to
have, one completion with the number of bytes before any was dropped, and one failure if and only if they could not be
decoded, with the text that the fault repeats. A failure is reported just where reading ends with the fault of an unread
source, which has the whole path; the records have it cut, and the number and the text as they are. -/
theorem read_traced (how : Reading) (path : Text) (w : World) : ∃ log,
    (read how path w).2.notices = w.notices ++ log.map .event ∧
    Traced w.files.codecs how path (w.files.read path) (read how path w).1 log ∧
    ((∃ error, .readFailed path error ∈ log) ↔ ∃ p reason, (read how path w).1 = .error (.unread p reason)) ∧
    (∀ p reason, (read how path w).1 = .error (.unread p reason) → p = path) ∧
    (∀ e ∈ log, told e "event" = some (.text e.name) ∧ told e "path" = some (.text (Log.cut Log.pathLimit path))) ∧
    (∀ n, .readCompleted path n ∈ log → told (.readCompleted path n) "bytes" = some (.int n)) ∧
    ∀ error, .readFailed path error ∈ log → told (.readFailed path error) "error" = some (.text error) := by
  obtain ⟨log, notices, traced⟩ := read_reports how path w
  refine ⟨log, notices, traced, traced.failed_iff, ?_, ?_, ?_, ?_⟩
  · intro p reason ended
    rw [ended] at traced
    exact traced.path_eq
  · intro e inside
    exact ⟨told_event e, traced.told_path inside⟩
  · intro n _
    rfl
  · intro error _
    rfl

/-- A file that claims five bytes and has two, the second of which begins no character. -/
example : (read ⟨true, "utf-8"⟩ "f" (.holding [([[0x66]], .file [0x61, 0xFF] 5)])).2.events =
    [.readStarted "f", .readShort "f" 5 2, .readCompleted "f" 2,
      .readFailed "f" "'utf-8' codec can't decode byte 0xff in position 1: invalid start byte"] := rfl

end ScriptHost.Source
