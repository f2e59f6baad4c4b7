/-
What reading a source comes to, by what stands at its path: the text of a file, as far as its bytes spell one,
or the fault that keeps it from being read. Reports do not bear on it, and neither does the size that the
system claims a file to have.
-/
import ScriptHost.Source

namespace ScriptHost.Source

/-! ## Names of encodings -/

/-- A name by which sources are decoded in an encoding. -/
structure Named (name : Text) (e : Encoding) : Prop where
  found : Encoding.find? name = some (.text e)
  plain : Utf8.strictFault? name = none
  whole : name.contains (CodePoint.ofByte 0) = false

instance (name : Text) (e : Encoding) : Decidable (Named name e) :=
  decidable_of_iff (Encoding.find? name = some (.text e) ∧ Utf8.strictFault? name = none ∧
    name.contains (CodePoint.ofByte 0) = false) ⟨fun ⟨a, b, c⟩ => ⟨a, b, c⟩, fun ⟨a, b, c⟩ => ⟨a, b, c⟩⟩

theorem named_utf8 : Named "utf-8" .utf8 := by decide

/-- Decoding ends with no fault of the host's own. -/
theorem decode_foreign {codecs : Codecs} {name : Text} {bytes : Bytes} {f : Fault}
    (ended : decode codecs name bytes = .error f) : f.isOwn = false := by
  unfold decode at ended
  split at ended
  · cases ended
    rfl
  · split at ended
    · cases ended
      rfl
    · split at ended
      · cases ended
      · split at ended
        · cases ended
          rfl
        · cases ended
          rfl
        · next foreign _ => exact foreign _ _ ended

/-- No bytes are no text in every encoding. -/
theorem decode_nil (e : Encoding) : e.decode [] = .ok [] := by
  rcases e with _ | _ | _ | _ | _ | order | order <;> first | rfl | (cases order <;> rfl)

theorem decode_named {name : Text} {e : Encoding} (named : Named name e) (codecs : Codecs) (bytes : Bytes) :
    decode codecs name bytes = (e.decode bytes).mapError .decoding := by
  rw [decode, named.plain]
  dsimp only
  rw [if_neg (by rw [named.whole]; decide), Codecs.find?, named.found]
  cases bytes with
  | nil => rw [decode_nil]; rfl
  | cons b rest => rfl

/-! ## What stands at a path -/

/-- The bytes of a file that are decoded. -/
def Reading.kept (how : Reading) (bytes : Bytes) : Bytes := if how.strip then stripTerminator bytes else bytes

variable {how : Reading} {codecs : Codecs} {path : Text} {w : World}

/-- The fault of a source that was found and cannot be decoded. -/
def undecoded (encoding path : Text) : Fault → Fault
  | .decoding d => .unread path ("not valid " ++ encoding ++ ": " ++ d.message)
  | f => f

/-- The fault of a source that was not found. -/
def unopened (path : Text) : Fault → Fault
  | .system f => .unread path (reasonOf f)
  | f => f

theorem decoded_fst (bytes : Bytes) : (decoded how codecs path bytes w).1 =
    (decode codecs how.encoding (how.kept bytes)).mapError (undecoded how.encoding path) := by
  have kept : (if how.strip then stripTerminator bytes else bytes) = how.kept bytes := rfl
  rw [decoded, kept]
  rcases decode codecs how.encoding (how.kept bytes) with f | t
  · cases f <;> rfl
  · rfl

theorem read_of_found {content : Files.Content} (found : w.files.read path = .ok content) :
    (read how path w).1 =
      (decode w.files.codecs how.encoding (how.kept content.bytes)).mapError (undecoded how.encoding path) := by
  simp only [read, Action.bind_apply, Action.occur_apply, Action.report_apply, Action.look_apply,
    World.tell_files, World.happen_files, found, taken]
  split
  · exact decoded_fst content.bytes
  · exact decoded_fst content.bytes

theorem read_of_fault {f : Fault} (found : w.files.read path = .error f) :
    (read how path w).1 = .error (unopened path f) := by
  simp only [read, Action.bind_apply, Action.occur_apply, Action.report_apply, Action.look_apply,
    World.tell_files, World.happen_files, found]
  cases f <;> rfl

/-- A file that was found is read as its bytes are decoded, and if they are not, it counts as unreadable. -/
theorem read_of_named {name : Text} {e : Encoding} (named : Named name e) {strip : Bool} {content : Files.Content}
    (found : w.files.read path = .ok content) :
    (read ⟨strip, name⟩ path w).1 = (e.decode (Reading.kept ⟨strip, name⟩ content.bytes)).mapError fun d =>
      .unread path ("not valid " ++ name ++ ": " ++ d.message) := by
  rw [read_of_found found, decode_named named]
  rcases e.decode (Reading.kept ⟨strip, name⟩ content.bytes) with d | t <;> rfl

end ScriptHost.Source
