/-
Sources in the encodings that settings accept. A name may be accepted and stand for a transform of bytes that gives
no text, or for an installed codec that fails with faults of its own. Under every other accepted name a file that was
found is read, or counts as unreadable; under such a name it is so just where nothing is left to decode or the codec
says which bytes it cannot read, and otherwise reading it ends with the fault that decoding it does.
-/
import ScriptHost.Proofs.Settings.Fields
import ScriptHost.Proofs.Source.Decoding
import Mathlib.Data.List.TakeWhile

namespace ScriptHost

/-- The fault that decoding bytes by a codec ends with, unless it is that of bytes that cannot be decoded. -/
def Codec.stray? (name : Text) (bytes : Bytes) : Codec → Option Fault
  | .transform => some (Source.transformFault name)
  | .text decode _ =>
    match decode bytes with
    | .error (.decoding _) | .ok _ => none
    | .error f => some f

namespace Source

/-! ## What reading ends with -/

/-- A source was read or counts as unreadable. -/
def Answered (path : Text) (r : Except Fault Text) : Prop :=
  (∃ t, r = .ok t) ∨ ∃ reason, r = .error (.unread path reason)

/-- The fault that the bytes of a file stray into when they are decoded: of the codec, if there are bytes to decode. -/
def Reading.stray? (how : Reading) (codecs : Codecs) (bytes : Bytes) : Option Fault :=
  if how.kept bytes = [] then none
  else (codecs.find? how.encoding).bind (Codec.stray? how.encoding (how.kept bytes))

/-- What reading a file ends with: as it should, but for the faults of decoding that are none of its bytes. -/
def Reading.Ends (how : Reading) (codecs : Codecs) (path : Text) (bytes : Bytes) (r : Except Fault Text) : Prop :=
  match how.stray? codecs bytes with
  | some f => r = .error f
  | none => Answered path r

/-- By the names of the table nothing goes astray but bytes that a transform is left with. -/
theorem Reading.stray?_of_table {how : Reading} {named : Encoding.Named}
    (known : Encoding.find? how.encoding = some named)
    (codecs : Codecs) (bytes : Bytes) : how.stray? codecs bytes =
      if named = .transform ∧ how.kept bytes ≠ [] then some (transformFault how.encoding) else none := by
  have found : codecs.find? how.encoding = some named.codec := by
    rw [Codecs.find?, known]
  unfold stray?
  rw [found]
  by_cases nothing : how.kept bytes = []
  · simp [nothing]
  · cases named with
    | transform => simp [nothing, Encoding.Named.codec, Codec.stray?]
    | text e => cases came : e.decode (how.kept bytes) <;>
        simp [Encoding.Named.codec, Encoding.codec, Codec.stray?, came, Except.mapError]

/-! ## Accepted names -/

theorem strictFault?_of_plain {t : Text} (plain : ∀ c ∈ t, c.isSurrogate = false) : Utf8.strictFault? t = none := by
  have all : t.dropWhile (fun c => !c.isSurrogate) = [] := by
    rw [List.dropWhile_eq_nil_iff]
    intro c inside
    simp [plain c inside]
  rw [Utf8.strictFault?, all]

/-- Under an accepted name bytes are decoded by the codec that it stands for. -/
theorem decode_accepted {codecs : Codecs} {name : Text} (accepted : Settings.Accepted codecs name) (bytes : Bytes) :
    ∃ codec, codecs.find? name = some codec ∧ decode codecs name bytes = if bytes = [] then .ok [] else match codec with
      | .transform => .error (transformFault name)
      | .text read _ => read bytes := by
  obtain ⟨codec, found⟩ := Option.isSome_iff_exists.mp accepted.known
  refine ⟨codec, found, ?_⟩
  rw [decode, strictFault?_of_plain accepted.plain]
  dsimp only
  rw [if_neg (by rw [accepted.whole]; decide), found]
  cases bytes with
  | nil => rfl
  | cons b rest => cases codec <;> rfl

/-! ## Reading -/

/-- What reading a file ends with under an accepted name. -/
theorem read_ends (how : Reading) {path : Text} {w : World} {content : Files.Content}
    (accepted : Settings.Accepted w.files.codecs how.encoding) (found : w.files.read path = .ok content) :
    how.Ends w.files.codecs path content.bytes (read how path w).1 := by
  obtain ⟨codec, known, decodes⟩ := decode_accepted accepted (how.kept content.bytes)
  rw [read_of_found found, decodes]
  unfold Reading.Ends Reading.stray?
  by_cases nothing : how.kept content.bytes = []
  · rw [if_pos nothing, if_pos nothing]
    exact .inl ⟨[], rfl⟩
  · rw [if_neg nothing, if_neg nothing, known, Option.bind_some]
    cases codec with
    | transform => rfl
    | text read foreign =>
      dsimp only [Codec.stray?]
      rcases read (how.kept content.bytes) with f | t
      · cases f with
        | decoding d => exact .inr ⟨_, rfl⟩
        | _ => rfl
      · exact .inl ⟨t, rfl⟩

end Source

end ScriptHost
