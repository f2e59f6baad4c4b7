/-
The functions that scripts find, as far as they are modelled: of the standard library, those of objects,
functions, arrays, strings, numbers, booleans, errors, promises, dates, mathematics and JSON that are
listed here, and of these only. Each is known by a constant of its own; what it does is told where its
family is, and under which name it is found is told where a fresh machine is built.
-/
import ScriptHost.Calendar
import ScriptHost.Text.Basic

namespace ScriptHost.Script

/-- The kinds of errors. -/
inductive ErrorKind where
  | error | typeError | rangeError | referenceError | syntaxError | evalError | uriError | internalError
deriving DecidableEq

namespace ErrorKind

def all : List ErrorKind :=
  [error, typeError, rangeError, referenceError, syntaxError, evalError, uriError, internalError]

def name : ErrorKind → String
  | error => "Error"
  | typeError => "TypeError"
  | rangeError => "RangeError"
  | referenceError => "ReferenceError"
  | syntaxError => "SyntaxError"
  | evalError => "EvalError"
  | uriError => "URIError"
  | internalError => "InternalError"

/-- The place of a kind among all kinds. -/
def index : ErrorKind → Nat
  | error => 0
  | typeError => 1
  | rangeError => 2
  | referenceError => 3
  | syntaxError => 4
  | evalError => 5
  | uriError => 6
  | internalError => 7

end ErrorKind

/-- A function that scripts find. -/
inductive Native where
  /-- Does nothing. -/
  | nothing
  /-- Runs a source as global code. -/
  | eval
  | object | objectKeys | objectCreate | objectDescriptor | objectDefine | objectParent
  | toString | valueOf | hasOwn | getParent | setParent
  | function | call | apply | functionText
  | array | isArray | push | map | forEach | join | arrayText | indexOf
  | string | stringValue | charAt | repeat
  | number | numberValue | numberText
  | boolean | booleanValue | booleanText
  | error (kind : ErrorKind)
  | errorText
  | max | random
  | date | now | timeOfParts | dateValue
  | datePart (part : Moment.Part) (universal : Bool)
  | zoneOffset | dateText | isoText | dateJson
  | parse | stringify
  | promise | resolve | reject | then | catch
deriving DecidableEq

end ScriptHost.Script
