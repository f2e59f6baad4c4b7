/-
Where a host writes its lines. A text stream takes the text as it is; a byte stream takes UTF-8 with
surrogates passed through, after what was pending on the text layer above it.
-/
import ScriptHost.Text.Utf8

namespace ScriptHost

/-- An output with all that was written to it. -/
inductive Output where
  | text (written : Text)
  /-- Bytes, and those that a text layer above them holds back. -/
  | bytes (written pending : Bytes)

namespace Output

/-- Writes to the text layer of an output. -/
def write (t : Text) : Output → Output
  | text written => text (written ++ t)
  | bytes written pending => bytes written (pending ++ Utf8.encode t)

/-- Lets pending bytes through. -/
def flush : Output → Output
  | text written => text written
  | bytes written pending => bytes (written ++ pending) []

/-- Hands bytes to what lies under the text layer, past what is pending there. -/
def pass (b : Bytes) : Output → Output
  | text written => text written
  | bytes written pending => bytes (written ++ b) pending

/-- Writes a text and a line end, and lets everything through. Bytes go past the text layer, so what was
pending there is let through before them. -/
def writeLine (t : Text) : Output → Output
  | text written => flush (write (t ++ "\n") (text written))
  | bytes written pending => flush (pass (Utf8.encode (t ++ "\n")) (flush (bytes written pending)))

/-- The text that was written; bytes are read with surrogates passed through. -/
def shown : Output → Text
  | text written => written
  | bytes written _ => (Utf8.readPassing written).getD []

end Output

end ScriptHost
