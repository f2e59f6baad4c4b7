/-
Codecs: what the names of encodings stand for. Some names every system knows, those of the table of encodings. What
others stand for is a matter of what is installed: a codec that reads bytes as a text or ends with a fault of whatever
kind, or a transform that gives no text.
-/
import ScriptHost.Fault
import ScriptHost.Text.Encoding

namespace ScriptHost

/-- What the name of an encoding stands for. -/
inductive Codec where
  /-- It reads bytes as a text or ends with a fault, which is none of the host's own. -/
  | text (decode : Bytes → Except Fault Text) (foreign : ∀ bytes f, decode bytes = .error f → f.isOwn = false)
  /-- A transform of bytes that gives no text. -/
  | transform

/-- The codecs that are installed on a system, beside those that every system has. -/
abbrev Codecs := Text → Option Codec

/-- The codec of an encoding, which ends with no fault but that of bytes that cannot be decoded. -/
def Encoding.codec (e : Encoding) : Codec :=
  .text (fun bytes => (e.decode bytes).mapError .decoding) fun bytes f ended => by
    cases came : e.decode bytes with
    | ok t =>
      rw [came] at ended
      cases ended
    | error d =>
      rw [came] at ended
      cases ended
      rfl

/-- What a name of the table stands for. -/
def Encoding.Named.codec : Encoding.Named → Codec
  | .text e => e.codec
  | .transform => .transform

namespace Codecs

/-- A system has no further codecs. -/
def none : Codecs := fun _ => .none

/-- What a name stands for. -/
def find? (codecs : Codecs) (name : Text) : Option Codec :=
  match Encoding.find? name with
  | some named => some named.codec
  | .none => codecs name

end Codecs

end ScriptHost
