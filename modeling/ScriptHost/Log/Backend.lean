/-
Where records go. A structured logger has one operation per level name and takes the event apart from
the other fields; a levelled logger takes the message with all fields beside it, and refuses fields
that its own records have. Both drop nothing and invent nothing.
-/
import ScriptHost.Log.Record

namespace ScriptHost.Log

/-! ## Structured loggers -/

/-- A call on a structured logger. -/
structure StructuredCall where
  operation : Text
  event : Datum
  fields : Fields

/-- The call that a record becomes on a logger with these operations: that of its level, or `info`;
nothing if it has neither. -/
def Record.structured? (operations : List Text) (r : Record) : Option StructuredCall :=
  let wanted := levelName r.level
  let operation : Text := if operations.contains wanted then wanted else "info"
  if operations.contains operation then
    let (event, fields) := r.split
    some { operation, event, fields }
  else none

/-! ## Levelled loggers -/

/-- The fields that records of a levelled logger have of their own. -/
def ownFields : List String :=
  ["message", "asctime", "name", "msg", "args", "levelname", "levelno", "pathname", "filename",
    "module", "exc_info", "exc_text", "stack_info", "lineno", "funcName", "created", "msecs",
    "relativeCreated", "thread", "threadName", "processName", "process"]

/-- An entry of a levelled logger. -/
structure LevelledEntry where
  level : Int
  message : Text
  extra : Fields

/-- The entry that a record becomes on a logger with this threshold; nothing below it; refused, with
the field, where a field of the logger's own would be overwritten. -/
def Record.levelled (threshold : Int) (r : Record) : Except Text (Option LevelledEntry) :=
  if r.level < threshold ∨ r.level ≤ 0 then .ok none
  else match r.fields.find? fun (k, _) => ownFields.any fun own => Text.ofString own = k with
    | some (k, _) => .error k
    | none => .ok (some ⟨r.level, r.message, r.fields⟩)

end ScriptHost.Log
