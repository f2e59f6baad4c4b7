/-
The calendar: years, months, days and the time of day of a number of milliseconds since the start of 1970, and how
they are written. Days have no leap seconds, and the rule for leap years holds for all years.
-/
import ScriptHost.Text.Basic

namespace ScriptHost

/-- A moment of the calendar. -/
structure Moment where
  year : Int
  /-- From 1 on, as is the day. -/
  month : Nat
  day : Nat
  /-- From 0 on, which is a Sunday. -/
  weekday : Nat
  hour : Nat
  minute : Nat
  second : Nat
  milli : Nat
deriving DecidableEq

namespace Moment

/-- A part of a moment. -/
inductive Part where
  | year | month | day | weekday | hour | minute | second | milli
deriving DecidableEq

/-- All parts, the year first. -/
def Part.all : List Part := [.year, .month, .day, .weekday, .hour, .minute, .second, .milli]

/-- A part as a number, in which the months are counted from 0 on. -/
def part (m : Moment) : Part → Int
  | .year => m.year
  | .month => m.month - 1
  | .day => m.day
  | .weekday => m.weekday
  | .hour => m.hour
  | .minute => m.minute
  | .second => m.second
  | .milli => m.milli

/-- How many milliseconds a day has. -/
def dayLength : Int := 86400000

/-- The year, month and day of a number of days since the start of 1970. Years are counted from March on in it, so
that a leap day is the last day of one, and in eras of 400, which all have the same number of days. -/
def dateOf (days : Int) : Int × Nat × Nat :=
  let d := days + 719468
  let era := d / 146097
  let ofEra := (d % 146097).toNat
  let yearOfEra := (ofEra - ofEra / 1460 + ofEra / 36524 - ofEra / 146096) / 365
  let ofYear := ofEra - (365 * yearOfEra + yearOfEra / 4 - yearOfEra / 100)
  let fromMarch := (5 * ofYear + 2) / 153
  let day := ofYear - (153 * fromMarch + 2) / 5 + 1
  let month := if fromMarch < 10 then fromMarch + 3 else fromMarch - 9
  (era * 400 + yearOfEra + if month ≤ 2 then 1 else 0, month, day)

/-- The moment at a time, in milliseconds since the start of 1970. -/
def ofTime (t : Int) : Moment :=
  let days := t / dayLength
  let inDay := (t % dayLength).toNat
  let (year, month, day) := dateOf days
  { year, month, day, weekday := ((days + 4) % 7).toNat
    hour := inDay / 3600000, minute := inDay / 60000 % 60, second := inDay / 1000 % 60, milli := inDay % 1000 }

example : ofTime 951827696789 = ⟨2000, 2, 29, 2, 12, 34, 56, 789⟩ := by decide

example : ofTime (-1) = ⟨1969, 12, 31, 3, 23, 59, 59, 999⟩ := by decide

/-- How many days after the start of 1970 a month of a year starts. Months are counted from 0 on, and years from
March on in it. -/
def daysTo (year : Int) (month : Nat) : Int :=
  let y := if month < 2 then year - 1 else year
  365 * y + y / 4 - y / 100 + y / 400 + ((153 * ((month + 10) % 12) + 2) / 5 : Nat) - 719468

/-- The time of parts, in the order in which they are written; each may go past what the calendar has of it. -/
def timeOf (year month day hour minute second milli : Int) : Int :=
  (daysTo (year + month / 12) (month % 12).toNat + (day - 1)) * dayLength +
    (hour * 3600000 + minute * 60000 + second * 1000 + milli)

example : timeOf 1999 13 29 12 34 56 789 = 951827696789 := by decide

/-! ## As text -/

/-- The digits of a number, with zeros before them up to a width. -/
def digits (width n : Nat) : Text :=
  List.replicate (width - (Text.ofNat n).length) (CodePoint.ofChar '0') ++ Text.ofNat n

/-- The time of day, to the second. -/
def clockText (m : Moment) : Text := digits 2 m.hour ++ ":" ++ digits 2 m.minute ++ ":" ++ digits 2 m.second

/-- As one word in universal time; years of more than four digits have a sign and six. -/
def isoText (m : Moment) : Text :=
  let year : Text :=
    if 0 ≤ m.year ∧ m.year ≤ 9999 then digits 4 m.year.toNat
    else (if m.year < 0 then "-" else "+") ++ digits 6 m.year.natAbs
  year ++ "-" ++ digits 2 m.month ++ "-" ++ digits 2 m.day ++ "T" ++ m.clockText ++ "." ++ digits 3 m.milli ++ "Z"

def weekdays : List String := ["Sun", "Mon", "Tue", "Wed", "Thu", "Fri", "Sat"]

def months : List String := ["Jan", "Feb", "Mar", "Apr", "May", "Jun", "Jul", "Aug", "Sep", "Oct", "Nov", "Dec"]

/-- In words, with the minutes by which it is ahead of universal time. -/
def zonedText (m : Moment) (ahead : Int) : Text :=
  let year : Text := (if m.year < 0 then "-" else "") ++ digits 4 m.year.natAbs
  Text.ofString (weekdays.getD m.weekday "") ++ " " ++ Text.ofString (months.getD (m.month - 1) "") ++ " " ++
    digits 2 m.day ++ " " ++ year ++ " " ++ m.clockText ++ " GMT" ++ (if ahead < 0 then "-" else "+") ++
    digits 2 (ahead.natAbs / 60) ++ digits 2 (ahead.natAbs % 60)

end Moment

end ScriptHost
