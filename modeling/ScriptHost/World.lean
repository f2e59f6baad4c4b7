/-
The world a host acts on: its files, the output it writes, what it has reported, the isolates made so far, what is
shown to each of the time and of chance, and the history of all of that. An action of the host either yields a result
or ends with a fault, and leaves a world in both cases.
-/
import ScriptHost.Files
import ScriptHost.History
import ScriptHost.Output
import ScriptHost.Path
import ScriptHost.Senses
import ScriptHost.Log.Event

namespace ScriptHost

/-- What is known of an isolate from outside. -/
structure IsolateRecord where
  purpose : Text
  /-- The names of the functions bound into it, if any were given. -/
  functions : Option (List Text)
  /-- The sources given to it, the first first. -/
  sources : List Text := []
  closed : Bool := false
  /-- How often its engine was let go. -/
  releases : Nat := 0

/-- A call that a program made on a bound function, with what came of it. -/
structure CallRecord where
  name : Text
  arguments : List Text
  outcome : Except Fault Datum

/-- What is reported beside the output: an event for the log, or a line for the user. -/
inductive Notice where
  | event (e : Event)
  | line (t : Text)

/-- The world. -/
structure World where
  files : Files
  output : Output
  /-- What was reported, the first first. -/
  notices : List Notice := []
  /-- The isolates made, the first first. -/
  isolates : List IsolateRecord := []
  /-- Calls on bound functions, the first first. -/
  calls : List CallRecord := []
  /-- What the next isolates fail with instead of being made; past the end all succeed. -/
  refusals : List (Option Fault) := []
  /-- What is shown to the scripts of an isolate, by its place. -/
  senses : Nat → Senses := fun _ => {}
  /-- What happened, the first first. -/
  history : History := []

namespace World

/-- The world with these entries under its root, in which nothing has happened. -/
def holding (entries : List (List Component × Entry)) : World :=
  { files := { entries, working := [] }, output := .text [] }

/-- The world without files. -/
def blank : World := holding []

/-- What is shown to the scripts of the isolate that is made next. -/
def upcoming (w : World) : Senses := w.senses w.isolates.length

/-- The events reported, the first first. -/
def events (w : World) : List Event :=
  w.notices.filterMap fun n =>
    match n with
    | .event e => some e
    | .line _ => none

/-- The world after something happened. -/
def happen (o : Occurrence) (w : World) : World := { w with history := w.history ++ [o] }

/-- The world with one more notice. -/
def tell (n : Notice) (w : World) : World := { w with notices := w.notices ++ [n] }

/-- The world with one more line of output. -/
def print (t : Text) (w : World) : World := { w with output := w.output.writeLine t }

/-- The world with one more isolate. -/
def addIsolate (r : IsolateRecord) (w : World) : World := { w with isolates := w.isolates ++ [r] }

/-- Changes the record of the isolate at a place. -/
def updateIsolate (place : Nat) (f : IsolateRecord → IsolateRecord) (w : World) : World :=
  { w with isolates := w.isolates.modify place f }

/-- The record of the isolate at a place. -/
def isolate? (w : World) (place : Nat) : Option IsolateRecord := w.isolates[place]?

section Fields

variable (w : World) (o : Occurrence) (n : Notice) (t : Text) (r : IsolateRecord) (place : Nat)
  (f : IsolateRecord → IsolateRecord)

@[simp] theorem happen_history : (w.happen o).history = w.history ++ [o] := rfl
@[simp] theorem happen_isolates : (w.happen o).isolates = w.isolates := rfl
@[simp] theorem happen_files : (w.happen o).files = w.files := rfl
@[simp] theorem happen_output : (w.happen o).output = w.output := rfl
@[simp] theorem happen_notices : (w.happen o).notices = w.notices := rfl

@[simp] theorem tell_history : (w.tell n).history = w.history := rfl
@[simp] theorem tell_isolates : (w.tell n).isolates = w.isolates := rfl
@[simp] theorem tell_files : (w.tell n).files = w.files := rfl
@[simp] theorem tell_output : (w.tell n).output = w.output := rfl
@[simp] theorem tell_notices : (w.tell n).notices = w.notices ++ [n] := rfl

@[simp] theorem print_history : (w.print t).history = w.history := rfl
@[simp] theorem print_isolates : (w.print t).isolates = w.isolates := rfl
@[simp] theorem print_files : (w.print t).files = w.files := rfl
@[simp] theorem print_output : (w.print t).output = w.output.writeLine t := rfl
@[simp] theorem print_notices : (w.print t).notices = w.notices := rfl

@[simp] theorem addIsolate_history : (w.addIsolate r).history = w.history := rfl
@[simp] theorem addIsolate_isolates : (w.addIsolate r).isolates = w.isolates ++ [r] := rfl
@[simp] theorem addIsolate_files : (w.addIsolate r).files = w.files := rfl
@[simp] theorem addIsolate_output : (w.addIsolate r).output = w.output := rfl
@[simp] theorem addIsolate_notices : (w.addIsolate r).notices = w.notices := rfl

@[simp] theorem updateIsolate_history : (w.updateIsolate place f).history = w.history := rfl
@[simp] theorem updateIsolate_isolates :
    (w.updateIsolate place f).isolates = w.isolates.modify place f := rfl
@[simp] theorem updateIsolate_files : (w.updateIsolate place f).files = w.files := rfl
@[simp] theorem updateIsolate_output : (w.updateIsolate place f).output = w.output := rfl
@[simp] theorem updateIsolate_notices : (w.updateIsolate place f).notices = w.notices := rfl

end Fields

end World

/-- An action of the host. -/
abbrev Action (α : Type) := World → Except Fault α × World

namespace Action

@[inline] def pure {α : Type} (a : α) : Action α := fun w => (.ok a, w)

@[inline] def bind {α β : Type} (x : Action α) (f : α → Action β) : Action β := fun w =>
  match x w with
  | (.ok a, w) => f a w
  | (.error e, w) => (.error e, w)

instance : Monad Action where
  pure := pure
  bind := bind

/-- Ends with a fault. -/
@[inline] def raise {α : Type} (f : Fault) : Action α := fun w => (.error f, w)

/-- The result or the fault of an action, as a result. -/
@[inline] def attempt {α : Type} (x : Action α) : Action (Except Fault α) := fun w =>
  let (r, w) := x w
  (.ok r, w)

/-- Ends as `r` says. -/
@[inline] def ofExcept {α : Type} (r : Except Fault α) : Action α := fun w => (r, w)

/-- Changes the world. -/
@[inline] def change (f : World → World) : Action Unit := fun w => (.ok (), f w)

/-- Looks at the world. -/
@[inline] def look {α : Type} (f : World → α) : Action α := fun w => (.ok (f w), w)

/-- Adds to what was reported. -/
def notify (n : Notice) : Action Unit := change (World.tell n)

/-- Reports an event. -/
def report (e : Event) : Action Unit := notify (.event e)

/-- Adds to the history. -/
def occur (o : Occurrence) : Action Unit := change (World.happen o)

/-- Writes a line to the output. -/
def writeLine (t : Text) : Action Unit := change (World.print t)

/-! ## What actions leave -/

section Apply

variable {α β : Type} (w : World)

@[simp] theorem pure_apply (a : α) : (Pure.pure a : Action α) w = (.ok a, w) := rfl

@[simp] theorem bind_apply (x : Action α) (f : α → Action β) :
    (x >>= f) w = match x w with
      | (.ok a, w) => f a w
      | (.error e, w) => (.error e, w) := rfl

@[simp] theorem raise_apply (f : Fault) : (raise f : Action α) w = (.error f, w) := rfl

@[simp] theorem attempt_apply (x : Action α) : attempt x w = (.ok (x w).1, (x w).2) := rfl

@[simp] theorem ofExcept_apply (r : Except Fault α) : ofExcept r w = (r, w) := rfl

@[simp] theorem change_apply (f : World → World) : change f w = (.ok (), f w) := rfl

@[simp] theorem look_apply (f : World → α) : look f w = (.ok (f w), w) := rfl

@[simp] theorem notify_apply (n : Notice) : notify n w = (.ok (), w.tell n) := rfl

@[simp] theorem report_apply (e : Event) : report e w = (.ok (), w.tell (.event e)) := rfl

@[simp] theorem occur_apply (o : Occurrence) : occur o w = (.ok (), w.happen o) := rfl

@[simp] theorem writeLine_apply (t : Text) : writeLine t w = (.ok (), w.print t) := rfl

/-- What is made of a result leaves the world alone. -/
theorem bind_pure_snd (x : Action α) (f : α → β) :
    ((x >>= fun a => Pure.pure (f a)) w).2 = (x w).2 := by
  rw [bind_apply]
  rcases x w with ⟨_ | _, _⟩ <;> rfl

end Apply

end Action

end ScriptHost
