/-
Dates. A date keeps a time, or none where it was made of something that is no time. It is made of the time that the
clock shows, of another date, of a number or of the parts of a local time; texts are not read as times. Whatever is
local asks how far local time is ahead.
-/
import ScriptHost.Calendar
import ScriptHost.Script.Native.Basic

namespace ScriptHost.Script.Engine

variable (e : Engine)

/-- How far from the start of 1970 a date may be, either way. -/
def timeLimit : Nat := 8640000000000000

/-- A time that is not out of reach. -/
def within? (t : Int) : Option Int := if t.natAbs ≤ timeLimit then some t else none

/-- The time that a number stands for. -/
def timeOf? (x : Float) : Option Int := if x.isFinite then within? (Number.truncate x) else none

/-- The number of a time. -/
def timeNumber (t : Option Int) : Value := .number ((t.map Number.ofInt).getD Number.nan)

/-! ## Making dates -/

/-- The time of an object that is a date. -/
def dateOf? (o : Obj) : Option (Option Int) :=
  match o.kind with
  | .date t => some t
  | _ => none

/-- The time of a primitive value. -/
def primitiveTime? (v : Value) : Option Int :=
  match v with
  | .string _ => none
  | _ => timeOf? v.primitiveNumber

/-- The time of a value that is a date. -/
def ownTime? (v : Value) : Run (Option (Option Int)) :=
  match v with
  | .object r => do return dateOf? (← Run.object r)
  | _ => return none

/-- The time that a value stands for. -/
def toTime (v : Value) : Run (Option Int) := do
  match (← ownTime? v) with
  | some t => return t
  | none => return primitiveTime? (← e.toPrimitive .any v)

/-- Makes a date. -/
def makeDate (t : Option Int) : Run Value := do
  return .object (← Run.alloc { kind := .date t, parent := some .dateParent })

/-- The whole numbers that arguments stand for, unless one of them stands for none; those after it are not looked at. -/
def wholeParts? : List Value → Run (Option (List Int))
  | [] => return some []
  | v :: vs => do
    let x ← e.toNumber v
    if x.isFinite then return (← wholeParts? vs).map (Number.truncate x :: ·) else return none

/-- The time of parts, as many as are given; the years before 100 are those of the twentieth century. -/
def partsTime (parts : List Int) : Int :=
  let part (n : Nat) (missing : Int) : Int := parts.getD n missing
  let year := part 0 0
  Moment.timeOf (if 0 ≤ year ∧ year < 100 then 1900 + year else year) (part 1 0) (part 2 1) (part 3 0) (part 4 0)
    (part 5 0) (part 6 0)

/-- The date of the parts of a local time. -/
def dateOfParts (args : List Value) : Run Value := do
  match (← e.wholeParts? (args.take 7)) with
  | none => makeDate none
  | some parts =>
    let ahead ← Run.ask (.zone (partsTime parts))
    makeDate (within? (partsTime parts - ahead * 60000))

/-- The date of the arguments, of the present time without any. -/
def constructDate (args : List Value) : Run Value := do
  match args with
  | [] => makeDate (within? (← Run.clock))
  | [v] => makeDate (← e.toTime v)
  | _ => e.dateOfParts args

/-- The time of the parts of a universal time. -/
def timeOfParts (args : List Value) : Run Value := do
  match (← e.wholeParts? (args.take 7)) with
  | some (year :: parts) => return timeNumber (within? (partsTime (year :: parts)))
  | _ => return timeNumber none

/-! ## What dates are asked for -/

/-- The time of a value that must be a date. -/
def needDate (v : Value) : Run (Option Int) := do
  match (← ownTime? v) with
  | some t => return t
  | none => Run.typeError "not a Date object"

/-- A part of a time. -/
def timePart (part : Moment.Part) (universal : Bool) (t : Option Int) : Run Value := do
  match t with
  | none => return timeNumber none
  | some t =>
    if universal then return .number (Number.ofInt ((Moment.ofTime t).part part))
    else
      let ahead ← Run.ask (.zone t)
      return .number (Number.ofInt ((Moment.ofTime (t + ahead * 60000)).part part))

/-- By how many minutes universal time is ahead at a time. -/
def zoneOffset (t : Option Int) : Run Value := do
  match t with
  | none => return timeNumber none
  | some t => return .number (Number.ofInt (-(← Run.ask (.zone t))))

/-- A time as local text. -/
def localText (t : Option Int) : Run Value := do
  match t with
  | none => return .string "Invalid Date"
  | some t =>
    let ahead ← Run.ask (.zone t)
    return .string (Text.toUtf16 ((Moment.ofTime (t + ahead * 60000)).zonedText ahead))

/-- A date as text in universal time. -/
def isoText (this : Value) : Run Value := do
  match (← needDate this) with
  | none => Run.rangeError "Date value is NaN"
  | some t => return .string (Text.toUtf16 (Moment.ofTime t).isoText)

/-- Whether a value is a number beyond all bounds, or none at all. -/
def isUnbounded : Value → Bool
  | .number x => !x.isFinite
  | _ => false

/-- What stands for a date in JSON: nothing without a time, otherwise what its function `toISOString` gives. -/
def dateJson (this : Value) : Run Value := do
  let r ← toObject this
  if isUnbounded (← e.toPrimitive .number (.object r)) then return .null
  else
    let f ← e.get (.object r) "toISOString"
    if (← isCallable f) then e.call f (.object r) [] else Run.typeError "object needs toISOString method"

end ScriptHost.Script.Engine
