/-
Faults: everything that can end an operation of the host without a result. A fault is a cause with
what belongs to it; its message, its label and the labels of the wider kinds it belongs to are
functions of the cause. Faults of the host's own and of the system are reported to scripts as plain
errors, every other one as a failure inside the call.
-/
import ScriptHost.Datum
import ScriptHost.Text.Utf8

namespace ScriptHost

/-- A fault of the system: a text alone, or a number with a text and perhaps the file it is about. -/
inductive SystemFault where
  | plain (text : Option Text)
  | numbered (code : Int) (text : Text) (file : Option Text)
deriving DecidableEq

/-- A fault. -/
inductive Fault where
  /-- An isolate or a session is used before it is open or after it was closed. -/
  | closed (text : Text)
  /-- A source cannot be opened, read or decoded. -/
  | unread (path reason : Text)
  /-- The bootstrap does not evaluate. -/
  | bootstrap (text : Text) (exitCode : Int)
  /-- A source evaluated for its value throws. -/
  | script (origin text : Text) (stringified : Bool)
  /-- The settings are not valid. -/
  | settings (text : Text)
  /-- Any other fault of the host's own. -/
  | host (text : Option Text)
  | system (fault : SystemFault)
  | value (text : Option Text)
  | kind (text : Option Text)
  | running (text : Option Text)
  | memory (text : Option Text)
  | missingKey (key : Option Text)
  | lookup (text : Option Text)
  /-- Something lacks an operation. -/
  | lacking (text : Text)
  | decoding (fault : DecodingFault)
  | encoding (fault : EncodingFault)
  /-- Coding a text fails for no byte or character of it. -/
  | coding (text : Option Text)
  /-- Data that do not fit a model. -/
  | validation (text : Text)

/-! ## System faults -/

/-- The label of a system fault by its number. -/
def SystemFault.label : SystemFault → Text
  | plain _ => "OSError"
  | numbered code _ _ =>
    if code = 2 then "FileNotFoundError"
    else if code = 1 ∨ code = 13 then "PermissionError"
    else if code = 3 then "ProcessLookupError"
    else if code = 4 then "InterruptedError"
    else if code = 10 then "ChildProcessError"
    else if code = 11 ∨ code = 114 ∨ code = 115 then "BlockingIOError"
    else if code = 17 then "FileExistsError"
    else if code = 20 then "NotADirectoryError"
    else if code = 21 then "IsADirectoryError"
    else if code = 32 ∨ code = 108 then "BrokenPipeError"
    else if code = 103 then "ConnectionAbortedError"
    else if code = 104 then "ConnectionResetError"
    else if code = 110 then "TimeoutError"
    else if code = 111 then "ConnectionRefusedError"
    else "OSError"

/-- The wider kinds of a system fault between its label and the common one. -/
def SystemFault.between : SystemFault → List Text
  | plain _ => []
  | numbered code _ _ =>
    if [32, 103, 104, 108, 111].contains code then ["ConnectionError", "OSError"]
    else if [1, 2, 3, 4, 10, 11, 13, 17, 20, 21, 110, 114, 115].contains code then ["OSError"]
    else []

def SystemFault.message : SystemFault → Text
  | plain text => text.getD []
  | numbered code text file =>
    let head : Text := "[Errno " ++ Text.ofInt code ++ "] " ++ text
    match file with
    | none => head
    | some f => head ++ ": " ++ f.quoted

/-! ## Coding faults -/

/-- "byte 0x… in position …" or "bytes in position …-…". -/
def DecodingFault.message (f : DecodingFault) : Text :=
  let place : Text :=
    if f.stop = f.start + 1 then
      let byte := (f.bytes[f.start]?).getD 0
      "byte 0x" ++ Text.hex 2 byte.toNat ++ " in position " ++ Text.ofNat f.start
    else "bytes in position " ++ Text.ofNat f.start ++ "-" ++ Text.ofNat (f.stop - 1)
  "'" ++ f.codec ++ "' codec can't decode " ++ place ++ ": " ++ f.reason

/-- The escaped form of one code point by its number. -/
def escapedPoint (c : CodePoint) : Text :=
  if c.val < 0x100 then "\\x" ++ Text.hex 2 c.val
  else if c.val < 0x10000 then "\\u" ++ Text.hex 4 c.val
  else "\\U" ++ Text.hex 8 c.val

def EncodingFault.message (f : EncodingFault) : Text :=
  let place : Text :=
    if f.stop = f.start + 1 then
      let point := (f.text[f.start]?).getD 'x'
      "character '" ++ escapedPoint point ++ "' in position " ++ Text.ofNat f.start
    else "characters in position " ++ Text.ofNat f.start ++ "-" ++ Text.ofNat (f.stop - 1)
  "'utf-8' codec can't encode " ++ place ++ ": surrogates not allowed"

namespace Fault

/-! ## What is told of a fault -/

def message : Fault → Text
  | closed text => text
  | unread path reason => "couldn't read '" ++ path ++ "': " ++ reason
  | bootstrap text _ => text
  | script origin text _ => origin ++ ": " ++ text
  | settings text => text
  | host text => text.getD []
  | system f => f.message
  | value text => text.getD []
  | kind text => text.getD []
  | running text => text.getD []
  | memory text => text.getD []
  | missingKey key => match key with
    | some k => k.quoted
    | none => []
  | lookup text => text.getD []
  | lacking text => text
  | decoding f => f.message
  | encoding f => f.message
  | coding text => text.getD []
  | validation text => text

/-- The labels of a fault, the narrowest first. -/
def labels : Fault → List Text
  | closed _ => ["IsolateClosedError", "JSHostError", "Exception"]
  | unread .. => ["FileReadError", "JSHostError", "Exception"]
  | bootstrap .. => ["BootstrapError", "JSHostError", "Exception"]
  | script .. => ["ScriptEvaluationError", "JSHostError", "Exception"]
  | settings _ => ["ConfigValidationError", "JSHostError", "Exception"]
  | host _ => ["JSHostError", "Exception"]
  | system f => f.label :: (f.between ++ [Text.ofString "Exception"])
  | value _ => ["ValueError", "Exception"]
  | kind _ => ["TypeError", "Exception"]
  | running _ => ["RuntimeError", "Exception"]
  | memory _ => ["MemoryError", "Exception"]
  | missingKey _ => ["KeyError", "LookupError", "Exception"]
  | lookup _ => ["LookupError", "Exception"]
  | lacking _ => ["AttributeError", "Exception"]
  | decoding _ => ["UnicodeDecodeError", "UnicodeError", "ValueError", "Exception"]
  | encoding _ => ["UnicodeEncodeError", "UnicodeError", "ValueError", "Exception"]
  | coding _ => ["UnicodeError", "ValueError", "Exception"]
  | validation _ => ["ValidationError", "ValueError", "Exception"]

/-- The narrowest label of a fault. -/
def label (f : Fault) : Text := f.labels.headD []

/-- The label and the message, as a sandbox shows a fault. -/
def described (f : Fault) : Text := f.label ++ ": " ++ f.message

/-- Whether the fault is of the host's own. -/
def isOwn : Fault → Bool
  | closed _ | unread .. | bootstrap .. | script .. | settings _ | host _ => true
  | _ => false

def isSystem : Fault → Bool
  | system _ => true
  | _ => false

/-- The label with the arguments of a fault in parentheses. -/
def detailed (f : Fault) : Text :=
  let arguments : List Text := match f with
    | decoding d => [d.codec.quoted, "b" ++ Text.quoted (d.bytes.map CodePoint.ofByte),
        Text.ofNat d.start, Text.ofNat d.stop, d.reason.quoted]
    | encoding e => [Text.quoted "utf-8", e.text.quoted, Text.ofNat e.start, Text.ofNat e.stop,
        Text.quoted "surrogates not allowed"]
    | value text | kind text | running text | memory text | missingKey text | lookup text
    | host text | coding text | system (.plain text) => (text.map Text.quoted).toList
    | system (.numbered code text _) => [Text.ofInt code, text.quoted]
    | _ => [f.message.quoted]
  f.label ++ "(" ++ Text.join ", " arguments ++ ")"

end Fault

end ScriptHost
