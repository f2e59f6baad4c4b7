/-
Log records. A record has a level, a message and fields in order; two of the fields are filled in
where the caller leaves them out: the message itself, and the event, which is the message behind its
first full stop. Long texts are cut to a limit with a mark at the end.
-/
import ScriptHost.Datum

namespace ScriptHost.Log

/-! ## Levels -/

/-- The level names and their numbers. -/
def levels : List (String × Int) :=
  [("CRITICAL", 50), ("FATAL", 50), ("ERROR", 40), ("WARN", 30), ("WARNING", 30), ("INFO", 20),
    ("DEBUG", 10), ("NOTSET", 0)]

/-- The number of a level name. -/
def levelNumber? (name : Text) : Option Int :=
  (levels.find? fun (n, _) => Text.ofString n = name).map (·.2)

/-- The name of a level number in lower case; numbers without a name are spelled out. -/
def levelName (level : Int) : Text :=
  if level = 50 then "critical" else if level = 40 then "error" else if level = 30 then "warning"
  else if level = 20 then "info" else if level = 10 then "debug" else if level = 0 then "notset"
  else "level " ++ Text.ofInt level

/-! ## Cutting -/

/-- What marks a text that was cut. -/
def cutMark : Text := "...[truncated]"

/-- The first `n` code points; a negative `n` counts from the end. -/
def takeSigned (n : Int) (t : Text) : Text :=
  if 0 ≤ n then t.take n.toNat else t.take (t.length - (-n).toNat)

/-- A text of more than `limit` code points, cut so that it ends in the mark. -/
def cut (limit : Int) (t : Text) : Text :=
  if (t.length : Int) ≤ limit then t else takeSigned (limit - cutMark.length) t ++ cutMark

def pathLimit : Int := 140

def sourceLimit : Int := 400

/-! ## Records -/

/-- The fields of a record, in order. -/
abbrev Fields := List (Text × Datum)

structure Record where
  level : Int
  message : Text
  fields : Fields

/-- `fields` with a default for one of them. -/
def Fields.withDefault (key : Text) (d : Datum) (fields : Fields) : Fields :=
  if fields.any (·.1 = key) then fields else fields ++ [(key, d)]

/-- The message behind its first full stop, or all of it. -/
def eventOf (message : Text) : Text :=
  match Text.cut? '.' message with
  | some (_, rest) => rest
  | none => message

/-- The record of a message with its fields. -/
def Record.make (level : Int) (message : Text) (fields : Fields) : Record :=
  { level, message
    fields := (fields.withDefault "log_message" message).withDefault "event" (eventOf message) }

/-- The event of a record, or its message where the event is nothing, and the other fields. -/
def Record.split (r : Record) : Datum × Fields :=
  let event := match Datum.lookup? "event" r.fields with
    | some .nothing | none => .text r.message
    | some d => d
  (event, r.fields.filter (·.1 ≠ Text.ofString "event"))

end ScriptHost.Log
