/-
The bridge between isolates and functions of the host. Arguments become texts; a function that ends
with a fault of the host's own or of the system refuses, and the caller is told why; every other fault
passes through.
-/
import ScriptHost.Isolate
import ScriptHost.Script.Outcome

namespace ScriptHost.Bridge

open Script (Reply)

/-- The items of a datum as a list of arguments. -/
def argumentsOf : Datum → Except Fault (List Datum)
  | .list items => .ok items
  | .text t => .ok (t.map fun c => .text [c])
  | .table entries => .ok (entries.map fun (k, _) => .text k)
  | d => .error (.kind (some ("'" ++ d.kindName ++ "' object is not iterable")))

/-- The reply to a datum that a function gave. -/
def replyOf : Datum → Reply
  | .nothing => .nothing
  | d => .value d

/-- Calls a function of the host with a list of arguments. -/
def call (f : HostFunction) (arguments : Datum) : Action Reply := fun w =>
  match argumentsOf arguments with
  | .error fault => (.error fault, w)
  | .ok items =>
    match f (items.map Datum.shown) w with
    | (.ok d, w) => (.ok (replyOf d), w)
    | (.error fault, w) =>
      if fault.isOwn || fault.isSystem then (.ok (.refused fault.message), w) else (.error fault, w)

/-- The name under which functions of the host are told apart in failures. -/
def exportedName (name : Text) : Text := "jshost." ++ name

/-- The message of a failure inside a function of the host. -/
def failureMessage (name : Text) (fault : Fault) : Text :=
  "Error while calling Python Function (" ++ exportedName name ++ "): " ++ fault.detailed

/-- Answers a script that calls a function of the host. -/
def answer (functions : Functions) (name : Text) (arguments : Datum) (w : World) : Reply × World :=
  match functions.find? (·.1 = name) with
  | none => (.failed (failureMessage name (.missingKey (some name))), w)
  | some (_, f) =>
    match call f arguments w with
    | (.ok r, w) => (r, w)
    | (.error fault, w) => (.failed (failureMessage name fault), w)

end ScriptHost.Bridge
