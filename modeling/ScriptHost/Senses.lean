/-
Senses: what is shown to a script of the time, of chance, and of where on earth it runs. Nothing in a script or
in the host decides on them; each reading of the clock or of chance has an answer of its own.
-/

namespace ScriptHost

/-- What is shown at each reading, the first of which is number 0. -/
structure Senses where
  /-- The milliseconds since the start of 1970. -/
  time : Nat → Int := fun _ => 0
  /-- Random bits, as many as a random number is made of. -/
  chance : Nat → BitVec 52 := fun _ => 0#52
  /-- By how many minutes local time is ahead of universal time, at a time. -/
  zone : Int → Int := fun _ => 0

end ScriptHost
