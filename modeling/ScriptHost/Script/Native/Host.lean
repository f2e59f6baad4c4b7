/-
Functions of the host as scripts see them. The arguments become strings by the function that the global
name `String` stands for when the call is made; they cross to the host as a tree, and its answer comes
back as an object whose entries say whether the call throws and what it gives.
-/
import ScriptHost.Script.Native.Json

namespace ScriptHost.Script.Engine

variable (e : Engine)

def stringName : Utf16 := "String"

def errorName : Utf16 := "Error"

/-- Puts the string of each argument behind the last item of a list. -/
def collect (list : Ref) : List Value → Run Unit
  | [] => return ()
  | v :: rest => do
    let put ← e.get (.object list) "push"
    let f ← e.readName .global stringName
    let s ← e.call f .undefined [v]
    discard (e.call put (.object list) [s])
    collect list rest

/-- The object of an answer. -/
def replyObject (entries : List (Key × Value)) : Run Value := do
  let r ← Run.allocPlain
  entries.forM fun (k, v) => Run.update r (Obj.put k (.plain v))
  return .object r

/-- Asks the host and makes the object of its answer. -/
def ask (name : Text) (list : Ref) : Run Value := do
  let tree ← e.json {} [] .undefined (.name []) (.object list)
  match (← Run.ask (.call name ((tree.map Json.toDatum).getD .nothing))) with
  | .failed message => Run.throwNew .internalError message
  | .refused message => replyObject [("error", .string (Text.toUtf16 message))]
  | .nothing => replyObject []
  | .value d => do
    let v ← Value.ofDatum d
    replyObject [("value", v)]

/-- Calls a function of the host. -/
def callHost (name : Text) (args : List Value) : Run Value := do
  let list ← Run.allocArray []
  e.collect list args
  let reply ← e.ask name list
  let err ← e.get reply "error"
  if err.isUndefined then e.get reply "value"
  else
    let f ← e.readName .global errorName
    let message ← e.get reply "error"
    Run.throwValue (← e.construct f [message])

end ScriptHost.Script.Engine
