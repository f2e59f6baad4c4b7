/-
The two kinds of loggers. A record at a usual level, with no field that a levelled logger has of its own, is taken by
both, if the levelled one is enabled for it and the structured one has the five usual operations. Each gets it once, and
both get the same: the operation is named for the level, the event stands among the fields of one and apart from those
of the other, and all else is the same. Hence it makes no difference which of them a host reports to.
-/
import ScriptHost.Log.Backend
import ScriptHost.Log.Event
import ScriptHost.Proofs.Log.Record

namespace ScriptHost

namespace Log

variable {threshold level : Int} {message : Text} {fields : Fields} {named : List Text} {r : Record}

/-- The usual operations of a structured logger, each with the number of its level. -/
def operations : List (Int × Text) :=
  [(10, "debug"), (20, "info"), (30, "warning"), (40, "error"), (50, "critical")]

/-- A levelled logger takes what is at its threshold or above, but nothing without a level. -/
def Enabled (threshold level : Int) : Prop := threshold ≤ level ∧ 0 < level

/-- None of the fields is one that a levelled logger has of its own. -/
def Fields.Foreign (fields : Fields) : Prop := ∀ f ∈ fields, ∀ own ∈ ownFields, f.1 ≠ Text.ofString own

/-! ## Levelled loggers -/

theorem Fields.foreign_cons {k : Text} (free : ∀ own ∈ ownFields, k ≠ Text.ofString own) (d : Datum)
    (foreign : fields.Foreign) : Fields.Foreign ((k, d) :: fields) :=
  List.forall_mem_cons.mpr ⟨free, foreign⟩

/-- The fields that every record has are none of a levelled logger's own. -/
theorem Fields.foreign_make (foreign : fields.Foreign) : (Record.make level message fields).fields.Foreign := by
  intro f inside
  rcases Record.mem_make inside with inside | rfl | rfl
  · exact foreign f inside
  · show ∀ own ∈ ownFields, Text.ofString "log_message" ≠ Text.ofString own
    decide
  · show ∀ own ∈ ownFields, Text.ofString "event" ≠ Text.ofString own
    decide

theorem Record.levelled_of_foreign (enabled : Enabled threshold r.level) (foreign : r.fields.Foreign) :
    r.levelled threshold = .ok (some ⟨r.level, r.message, r.fields⟩) := by
  obtain ⟨above, some⟩ := enabled
  have free : ∀ f ∈ r.fields, ¬(ownFields.any fun own => Text.ofString own = f.1) = true := by
    intro f inside own
    obtain ⟨name, among, same⟩ := List.any_eq_true.mp own
    exact foreign f inside name among (of_decide_eq_true same).symm
  rw [levelled, if_neg (by omega), List.find?_eq_none.mpr free]

/-! ## Structured loggers -/

theorem Record.structured?_of_mem (has : levelName r.level ∈ named) :
    r.structured? named = some ⟨levelName r.level, r.split.1, r.split.2⟩ := by
  have own : (if named.contains (levelName r.level) then levelName r.level else "info") = levelName r.level :=
    if_pos (List.contains_iff_mem.mpr has)
  unfold structured?
  dsimp only
  rw [own, if_pos (List.contains_iff_mem.mpr has)]

/-- The levels that have names are those of the usual operations, but for the one that stands for none. -/
theorem mem_operations (known : ∃ name, (name, level) ∈ levels) (some : 0 < level) :
    (level, levelName level) ∈ operations := by
  have each : ∀ l ∈ levels, 0 < l.2 → (l.2, levelName l.2) ∈ operations := by decide
  obtain ⟨name, known⟩ := known
  exact each _ known some

/-- An event that is given is taken apart from the other fields, and one that is not is made of the message. -/
theorem Record.split_make (given : Datum.lookup? "event" fields ≠ some .nothing) :
    (make level message fields).split.1 = (Datum.lookup? "event" fields).getD (.text (eventOf message)) := by
  unfold split
  rw [lookup?_make_event]
  cases found : Datum.lookup? "event" fields with
  | none => rfl
  | some d =>
    cases d with
    | nothing => exact absurd found given
    | _ => rfl

/-! ## Both -/

/-- A call on a structured logger and an entry of a levelled one that tell the same of a message with fields. -/
structure Alike (level : Int) (message : Text) (fields : Fields) (c : StructuredCall) (e : LevelledEntry) : Prop where
  number : e.level = level
  text : e.message = message
  /-- The operation is that of the level. -/
  operation : (e.level, c.operation) ∈ operations
  /-- The event of the call is among the fields of the entry. -/
  event : Datum.lookup? "event" e.extra = some c.event
  /-- It is the one that was given, or else the message without what stands before its first full stop. -/
  given : ∀ d, Datum.lookup? "event" fields = some d → c.event = d
  dotted : Datum.lookup? "event" fields = none → ∀ first rest, CodePoint.ofChar '.' ∉ first →
    message = first ++ CodePoint.ofChar '.' :: rest → c.event = .text rest
  undotted : Datum.lookup? "event" fields = none → CodePoint.ofChar '.' ∉ message → c.event = .text message
  /-- All other fields are the same: the message, unless another one was given, -/
  others : c.fields = e.extra.filter (·.1 ≠ Text.ofString "event")
  logged : Datum.lookup? "log_message" c.fields = some ((Datum.lookup? "log_message" fields).getD (.text message))
  /-- and those that were given. -/
  kept : ∀ k, k ≠ Text.ofString "event" → k ≠ Text.ofString "log_message" →
    Datum.lookup? k c.fields = Datum.lookup? k fields

/-- Loggers of both kinds take the record of a message with fields, and get it alike. -/
def Carried (named : List Text) (threshold level : Int) (message : Text) (fields : Fields) : Prop :=
  ∃ c e, (Record.make level message fields).structured? named = some c ∧
    (Record.make level message fields).levelled threshold = .ok (some e) ∧ Alike level message fields c e

theorem carried (standard : ∀ o ∈ operations, o.2 ∈ named) (known : ∃ name, (name, level) ∈ levels)
    (enabled : Enabled threshold level) (foreign : fields.Foreign)
    (given : Datum.lookup? "event" fields ≠ some .nothing) : Carried named threshold level message fields := by
  have operation := mem_operations known enabled.2
  have event : (Record.make level message fields).split.1 = _ := Record.split_make given
  have kept (k : Text) (other : k ≠ Text.ofString "event") :
      Datum.lookup? k (Record.make level message fields).split.2 =
        Datum.lookup? k (Record.make level message fields).fields :=
    Datum.lookup?_filter (fun _ => decide_eq_true other) _
  refine ⟨_, _, Record.structured?_of_mem (standard _ operation),
    Record.levelled_of_foreign enabled (Fields.foreign_make foreign), rfl, rfl, operation, ?_, ?_, ?_, ?_, rfl, ?_, ?_⟩
  · rw [Record.lookup?_make_event, event]
  · intro d found
    rw [event, found]
    rfl
  · rintro found first rest undotted rfl
    rw [event, found, Option.getD_none, eventOf_append undotted]
  · intro found undotted
    rw [event, found, Option.getD_none, eventOf_of_undotted undotted]
  · rw [kept _ (by decide), Record.lookup?_make_message]
  · intro k notEvent notMessage
    rw [kept k notEvent, Record.lookup?_make_of_ne notEvent notMessage]

end Log

open Log

/-! ## Events -/

namespace Event

/-- The keys of the fields that events tell. -/
def keys : List Text :=
  ["path", "bytes", "expected_bytes", "read_bytes", "error", "origin", "duration_ms", "isolate_id", "purpose", "result",
    "source"]

theorem key_mem (e : Event) : ∀ k ∈ e.fields.map (·.1), k ∈ keys := by
  cases e <;> simp [fields, keys]

theorem known (e : Event) : ∃ name, (name, e.level) ∈ levels := by
  have each : ∀ level ∈ ([10, 20, 30, 40] : List Int), ∃ l ∈ levels, l.2 = level := by decide
  have usual : e.level ∈ ([10, 20, 30, 40] : List Int) := by cases e <;> simp [level]
  obtain ⟨⟨name, _⟩, among, rfl⟩ := each _ usual
  exact ⟨name, among⟩

/-- Whatever the fields of an event hold, a levelled logger has none of them of its own. -/
theorem foreign (e : Event) {told : Fields} (same : told.map (·.1) = e.fields.map (·.1)) : told.Foreign := by
  have free : ∀ k ∈ keys, ∀ own ∈ ownFields, k ≠ Text.ofString own := by decide
  intro f inside
  refine free f.1 (e.key_mem f.1 ?_)
  rw [← same]
  exact List.mem_map_of_mem inside

end Event

namespace Log

/-- Loggers of both kinds carry the same, if the structured one has the usual operations and the levelled one is enabled
for the level: of every message at a level with a name and every fields that are none of a levelled logger's own and
give an event or leave it out, and so of every event, whatever is told in its fields. -/
theorem backends_agree {named : List Text} (standard : ∀ o ∈ operations, o.2 ∈ named) (threshold : Int) :
    (∀ (level : Int) (message : Text) (fields : Fields), (∃ name, (name, level) ∈ levels) → Enabled threshold level →
      fields.Foreign → Datum.lookup? "event" fields ≠ some .nothing → Carried named threshold level message fields) ∧
      ∀ e : Event, Enabled threshold e.level → ∀ told : Fields, told.map (·.1) = e.fields.map (·.1) →
        Carried named threshold e.level ("jshost." ++ e.name) (("event", .text e.name) :: told) := by
  refine ⟨fun _ _ _ known enabled foreign given => carried standard known enabled foreign given, ?_⟩
  intro e enabled told same
  have foreign : Fields.Foreign ((Text.ofString "event", .text e.name) :: told) :=
    Fields.foreign_cons (by decide) _ (e.foreign same)
  refine carried standard e.known enabled foreign ?_
  rw [Datum.lookup?_cons, if_pos rfl]
  rintro ⟨⟩

/-- A structured logger with six operations, and a levelled one that is enabled for warnings and what is above them: a
warning that gives its event and its message among its fields, and a short reading of a file with no path that came to
fewer than no bytes. -/
theorem backends_agree_overridden :
    let named : List Text := ["critical", "error", "warning", "info", "debug", "trace"]
    (∃ e, (Record.make 30 "a.b.c" [("event", .text "x"), ("log_message", .int 3)]).levelled 30 = .ok (some e) ∧
        Alike 30 "a.b.c" [("event", .text "x"), ("log_message", .int 3)]
          ⟨"warning", .text "x", [("log_message", .int 3)]⟩ e) ∧
      Carried named 30 30 "jshost.file.read.short" [("event", .text "file.read.short"), ("path", .nothing),
        ("expected_bytes", .int 0), ("read_bytes", .int (-1))] := by
  intro named
  have standard : ∀ o ∈ operations, o.2 ∈ named := by decide
  obtain ⟨messages, events⟩ := backends_agree standard 30
  have enabled : Enabled 30 30 := ⟨by decide, by decide⟩
  constructor
  · have free : ∀ k ∈ (["event", "log_message"] : List Text), ∀ own ∈ ownFields, k ≠ Text.ofString own := by decide
    have foreign : Fields.Foreign [("event", .text "x"), ("log_message", .int 3)] :=
      Fields.foreign_cons (free _ (by decide)) _ (Fields.foreign_cons (free _ (by decide)) _ (by rintro f ⟨⟩))
    obtain ⟨c, e, called, entered, alike⟩ := messages 30 "a.b.c" _ ⟨"WARN", by decide⟩ enabled foreign (by rintro ⟨⟩)
    obtain rfl : _ = c := Option.some.inj called
    exact ⟨e, entered, alike⟩
  · exact events (.readShort [] 0 0) enabled _ rfl

end Log

end ScriptHost
