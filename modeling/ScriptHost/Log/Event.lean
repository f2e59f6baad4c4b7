/-
The events a host reports: the steps of reading a file, of the bootstrap, of an isolate's life, and
of evaluating sources. Every event has a level, a name and the fields that tell about it.
-/
import ScriptHost.Log.Record

namespace ScriptHost

/-- An event. -/
inductive Event where
  | readStarted (path : Text)
  | readCompleted (path : Text) (bytes : Nat)
  /-- Fewer bytes came than the file claims to have. -/
  | readShort (path : Text) (expected read : Nat)
  | readFailed (path error : Text)
  | bootstrapCompleted (origin : Text) (duration : Float)
  | bootstrapFailed (origin error : Text)
  | isolateCreated (id purpose : Text)
  | isolateDestroyed (id purpose : Text)
  | sandboxFailed (result source : Text)
  | evaluationCompleted (origin : Text) (duration : Float)
  | evaluationFailed (origin error : Text)

namespace Event

def level : Event → Int
  | isolateCreated .. | isolateDestroyed .. => 10
  | readStarted .. | readCompleted .. | bootstrapCompleted .. | evaluationCompleted .. => 20
  | readShort .. | sandboxFailed .. => 30
  | readFailed .. | bootstrapFailed .. | evaluationFailed .. => 40

def name : Event → Text
  | readStarted .. => "file.read.start"
  | readCompleted .. => "file.read.complete"
  | readShort .. => "file.read.short"
  | readFailed .. => "file.read.failed"
  | bootstrapCompleted .. => "bootstrap.complete"
  | bootstrapFailed .. => "bootstrap.failed"
  | isolateCreated .. => "isolate.created"
  | isolateDestroyed .. => "isolate.destroyed"
  | sandboxFailed .. => "sandbox.evaluation.failed"
  | evaluationCompleted .. => "evaluation.complete"
  | evaluationFailed .. => "evaluation.failed"

/-- The fields that tell about an event; paths, origins and sources are cut to their limits. -/
def fields : Event → Log.Fields
  | readStarted path => [("path", .text (Log.cut Log.pathLimit path))]
  | readCompleted path bytes => [("path", .text (Log.cut Log.pathLimit path)), ("bytes", .int bytes)]
  | readShort path expected read =>
    [("path", .text (Log.cut Log.pathLimit path)), ("expected_bytes", .int expected),
      ("read_bytes", .int read)]
  | readFailed path error => [("path", .text (Log.cut Log.pathLimit path)), ("error", .text error)]
  | bootstrapCompleted origin duration | evaluationCompleted origin duration =>
    [("origin", .text (Log.cut Log.pathLimit origin)), ("duration_ms", .real duration)]
  | bootstrapFailed origin error | evaluationFailed origin error =>
    [("origin", .text (Log.cut Log.pathLimit origin)), ("error", .text error)]
  | isolateCreated id purpose | isolateDestroyed id purpose =>
    [("isolate_id", .text id), ("purpose", .text purpose)]
  | sandboxFailed result source =>
    [("result", .text result), ("source", .text (Log.cut Log.sourceLimit source))]

/-- The record of an event. -/
def record (e : Event) : Log.Record :=
  .make e.level ("jshost." ++ e.name) (("event", .text e.name) :: e.fields)

end Event

end ScriptHost
