/-
Sources. A source is a file read in full, without the one terminator it may end with, and decoded.
Every reading reports its start, and then either its completion with the number of bytes or its
failure; a decoding failure comes after the completion.
-/
import ScriptHost.World

namespace ScriptHost.Source

/-! ## The terminator -/

/-- Drops the last byte. -/
def dropLastIf (p : UInt8 → Bool) (bytes : Bytes) : Option Bytes :=
  match bytes.getLast? with
  | some b => if p b then some bytes.dropLast else none
  | none => none

/-- A line end or a zero byte ends a source. -/
def isTerminator (b : UInt8) : Bool := b = 0x0A || b = 0x00

/-- Drops one terminator at the end, and a carriage return before it. -/
def stripTerminator (bytes : Bytes) : Bytes :=
  match dropLastIf isTerminator bytes with
  | none => bytes
  | some rest => (dropLastIf (· = 0x0D) rest).getD rest

/-! ## Decoding -/

/-- The fault of decoding by a name that stands for a transform. -/
def transformFault (name : Text) : Fault :=
  .lookup (some ("'" ++ name ++ "' is not a text encoding; use codecs.decode() to handle arbitrary codecs"))

/-- The text of bytes in a named encoding. No bytes are no text in every encoding, known or not. -/
def decode (codecs : Codecs) (encoding : Text) (bytes : Bytes) : Except Fault Text :=
  match Utf8.strictFault? encoding with
  | some e => .error (.encoding e)
  | none =>
    if encoding.contains (CodePoint.ofByte 0) then .error (.value (some "embedded null character"))
    else if bytes.isEmpty then .ok []
    else match codecs.find? encoding with
      | none => .error (.lookup (some ("unknown encoding: " ++ encoding)))
      | some .transform => .error (transformFault encoding)
      | some (.text decode _) => decode bytes

/-! ## Reading -/

/-- How sources are read. -/
structure Reading where
  strip : Bool
  encoding : Text

/-- The text of the bytes of a file; bytes that cannot be decoded are reported. -/
def decoded (how : Reading) (codecs : Codecs) (path : Text) (bytes : Bytes) : Action Text :=
  match decode codecs how.encoding (if how.strip then stripTerminator bytes else bytes) with
  | .ok t => return t
  | .error (.decoding d) => do
    Action.report (.readFailed path d.message)
    Action.raise (.unread path ("not valid " ++ how.encoding ++ ": " ++ d.message))
  | .error f => Action.raise f

/-- Why the system does not open a file. -/
def reasonOf : SystemFault → Text
  | .numbered _ text _ => text
  | .plain text => text.getD []

/-- The text of what was found at a path; a file that cannot be opened is reported. -/
def taken (how : Reading) (codecs : Codecs) (path : Text) : Except Fault Files.Content → Action Text
  | .error (.system f) => do
    Action.report (.readFailed path (reasonOf f))
    Action.raise (.unread path (reasonOf f))
  | .error f => Action.raise f
  | .ok content => do
    if content.bytes.length < content.claimed then
      Action.report (.readShort path content.claimed content.bytes.length)
    Action.report (.readCompleted path content.bytes.length)
    decoded how codecs path content.bytes

/-- Reads the source at a path. -/
def read (how : Reading) (path : Text) : Action Text := do
  Action.occur (.reading path)
  Action.report (.readStarted path)
  let files ← Action.look (·.files)
  taken how files.codecs path (files.read path)

end ScriptHost.Source
