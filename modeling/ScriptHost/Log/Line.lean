/-
Log lines. Records at or above a level become lines: either an object with all fields, or a line for
the console, on which the event is filled up to a width and the other fields follow in the order of
their names.
-/
import ScriptHost.Log.Record

namespace ScriptHost.Log

/-- How records are written. -/
structure Style where
  /-- The least level that is written. -/
  least : Int
  /-- Objects instead of console lines. -/
  json : Bool
deriving DecidableEq

/-- A line of the log, without its time. -/
inductive Line where
  | console (text : Text)
  | object (fields : Fields)

/-- The width that levels are filled up to. -/
def levelWidth : Nat := 9

/-- The width that events are filled up to. -/
def eventWidth : Nat := 30

/-- Texts that hold one of these marks are quoted on the console. -/
def needsQuotes (t : Text) : Bool :=
  t.any fun c => c.is ' ' || c.is '\t' || c.is '=' || c.is '\r' || c.is '\n' || c.is '"' || c.is '\''

/-- The value of a field on the console. -/
def consoleValue : Datum → Text
  | .text t => if needsQuotes t then t.quoted else t
  | d => d.written

/-- Fields in the order of their names. -/
def sorted (fields : Fields) : Fields := fields.mergeSort fun a b => Text.le a.1 b.1

/-- The level that a record is written at: its own, if lines can be of that level, or that of `info`. -/
def Record.shownLevel (r : Record) : Int :=
  if [10, 20, 30, 40, 50].contains r.level then r.level else 20

/-- The fields that a line has of its own. -/
def lineFields : List String := ["level", "timestamp"]

/-- The event of a record and the other fields, but for those that a line has of its own. -/
def Record.parts (r : Record) : Datum × Fields :=
  let (event, rest) := r.split
  (event, rest.filter fun (k, _) => !lineFields.any fun own => Text.ofString own = k)

/-- The console line of a record. -/
def Record.console (r : Record) : Text :=
  let (event, rest) := r.parts
  let fields := (sorted rest).map fun (k, d) => k ++ "=" ++ consoleValue d
  let head : Text := "[" ++ Text.padRight levelWidth (levelName r.shownLevel) ++ "] "
  match fields with
  | [] => head ++ event.shown
  | _ => head ++ Text.padRight eventWidth event.shown ++ " " ++ Text.join " " fields

/-- The object of a record. -/
def Record.object (r : Record) : Fields :=
  let (event, rest) := r.parts
  rest ++ [(Text.ofString "event", event), (Text.ofString "level", .text (levelName r.shownLevel))]

/-- The line of a record, if its level is high enough. -/
def Style.line? (s : Style) (r : Record) : Option Line :=
  if r.shownLevel < s.least then none
  else some (if s.json then .object r.object else .console r.console)

end ScriptHost.Log
