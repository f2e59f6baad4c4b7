/-
What happens to the isolates of a host, to requests for a sandbox and to the functions of the host, as
occurrences in their order. A history is only ever added to, and nothing that runs looks at it.
-/
import ScriptHost.Evaluation

namespace ScriptHost

/-- Something that happened. -/
inductive Occurrence where
  /-- A factory was asked for an isolate with functions under these names, if with any at all. -/
  | asked (purpose : Text) (functions : Option (List Text))
  /-- It made none. -/
  | refused (f : Fault)
  /-- It made the isolate at a place, which has functions under these names, if any were given. -/
  | made (place : Nat) (purpose : Text) (functions : Option (List Text))
  /-- A source was given to the isolate at a place. -/
  | given (place : Nat) (source : Text)
  /-- The isolate at a place was done with a source. -/
  | gave (place : Nat) (outcome : Except Fault Evaluation)
  /-- The isolate at a place was closed. -/
  | closed (place : Nat)
  /-- What it ran on was let go of. -/
  | released (place : Nat) (outcome : Except Fault Unit)
  /-- A sandbox was asked to evaluate a source. -/
  | requested (source : Text)
  /-- The request came to its end. -/
  | answered (outcome : Except Fault Evaluation)
  /-- A function of the host was called. -/
  | called (name : Text) (arguments : List Text)
  /-- The function came to its end. -/
  | returned (name : Text)
  /-- A file was to be read. -/
  | reading (path : Text)

/-- What happened, the first first. -/
abbrev History := List Occurrence

end ScriptHost
