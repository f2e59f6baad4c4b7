/-
Records. A default adds its field where there is none and leaves all others as they are. The event of a message is what
stands behind its first full stop. A text that is cut has as many code points as the limit if it had more, and starts
as it did before; what was cut once is not cut again.
-/
import ScriptHost.Log.Record
import ScriptHost.Proofs.Datum

namespace ScriptHost

/-! ## Messages -/

namespace Text

variable {c : CodePoint}

theorem cut?_append {first : Text} (absent : c ∉ first) (rest : Text) :
    cut? c (first ++ c :: rest) = some (first, rest) := by
  induction first with
  | nil => exact if_pos rfl
  | cons x first ih =>
    rw [List.mem_cons, not_or] at absent
    rw [List.cons_append, cut?, if_neg (Ne.symm absent.1), ih absent.2]
    rfl

theorem cut?_of_not_mem {t : Text} (absent : c ∉ t) : cut? c t = none := by
  induction t with
  | nil => rfl
  | cons x t ih =>
    rw [List.mem_cons, not_or] at absent
    rw [cut?, if_neg (Ne.symm absent.1), ih absent.2]
    rfl

end Text

namespace Log

theorem eventOf_append {first : Text} (undotted : CodePoint.ofChar '.' ∉ first) (rest : Text) :
    eventOf (first ++ CodePoint.ofChar '.' :: rest) = rest := by
  rw [eventOf, Text.cut?_append undotted]

theorem eventOf_of_undotted {message : Text} (undotted : CodePoint.ofChar '.' ∉ message) :
    eventOf message = message := by
  rw [eventOf, Text.cut?_of_not_mem undotted]

/-! ## Defaults -/

namespace Fields

variable {key : Text} {d : Datum} {fields : Fields} {f : Text × Datum}

theorem mem_withDefault (inside : f ∈ fields.withDefault key d) : f ∈ fields ∨ f = (key, d) := by
  unfold withDefault at inside
  split at inside
  · exact .inl inside
  · simpa using inside

/-- Under the key of a default is what was there, or else the default. -/
theorem lookup?_withDefault (key : Text) (d : Datum) (fields : Fields) :
    Datum.lookup? key (fields.withDefault key d) = some ((Datum.lookup? key fields).getD d) := by
  unfold withDefault
  rw [Datum.any_key]
  cases found : Datum.lookup? key fields with
  | none =>
    show Datum.lookup? key (fields ++ [(key, d)]) = some d
    rw [Datum.lookup?_append, found, Datum.lookup?_cons, if_pos rfl]
    rfl
  | some given => exact found

theorem lookup?_withDefault_of_ne {k : Text} (other : k ≠ key) (d : Datum) (fields : Fields) :
    Datum.lookup? k (fields.withDefault key d) = Datum.lookup? k fields := by
  unfold withDefault
  split
  · rfl
  · rw [Datum.lookup?_append, Datum.lookup?_cons, if_neg other.symm]
    exact Option.or_none

end Fields

namespace Record

variable {level : Int} {message : Text} {fields : Fields} {f : Text × Datum}

/-- A record has the fields that it was made of and two of its own. -/
theorem mem_make (inside : f ∈ (make level message fields).fields) :
    f ∈ fields ∨ f = (Text.ofString "log_message", .text message) ∨
      f = (Text.ofString "event", .text (eventOf message)) := by
  rcases Fields.mem_withDefault inside with inside | own
  · exact (Fields.mem_withDefault inside).imp_right .inl
  · exact .inr (.inr own)

theorem lookup?_make_event (level : Int) (message : Text) (fields : Fields) :
    Datum.lookup? "event" (make level message fields).fields =
      some ((Datum.lookup? "event" fields).getD (.text (eventOf message))) := by
  unfold make
  rw [Fields.lookup?_withDefault, Fields.lookup?_withDefault_of_ne (by decide)]

theorem lookup?_make_message (level : Int) (message : Text) (fields : Fields) :
    Datum.lookup? "log_message" (make level message fields).fields =
      some ((Datum.lookup? "log_message" fields).getD (.text message)) := by
  unfold make
  rw [Fields.lookup?_withDefault_of_ne (by decide), Fields.lookup?_withDefault]

theorem lookup?_make_of_ne {k : Text} (notEvent : k ≠ Text.ofString "event")
    (notMessage : k ≠ Text.ofString "log_message") :
    Datum.lookup? k (make level message fields).fields = Datum.lookup? k fields := by
  unfold make
  rw [Fields.lookup?_withDefault_of_ne notEvent, Fields.lookup?_withDefault_of_ne notMessage]

end Record

/-! ## Cutting -/

section Cut

variable {limit : Int} {t : Text}

theorem cut_of_le (fits : (t.length : Int) ≤ limit) : cut limit t = t := if_pos fits

/-- Where there is room for the mark, it stands behind as much of a long text as fits beside it. -/
theorem cut_of_lt (room : (cutMark.length : Int) ≤ limit) (long : limit < t.length) :
    cut limit t = t.take (limit.toNat - cutMark.length) ++ cutMark := by
  have kept : (limit - cutMark.length).toNat = limit.toNat - cutMark.length := by omega
  rw [cut, if_neg (by omega), takeSigned, if_pos (by omega), kept]

theorem length_cut_of_lt (room : (cutMark.length : Int) ≤ limit) (long : limit < t.length) :
    ((cut limit t).length : Int) = limit := by
  rw [cut_of_lt room long, List.length_append, List.length_take]
  omega

theorem length_cut_le (room : (cutMark.length : Int) ≤ limit) (t : Text) : ((cut limit t).length : Int) ≤ limit := by
  rcases Int.lt_or_le limit t.length with long | fits
  · exact Int.le_of_eq (length_cut_of_lt room long)
  · rwa [cut_of_le fits]

/-- A text stays whole just where it fits. -/
theorem cut_eq_self_iff (room : (cutMark.length : Int) ≤ limit) : cut limit t = t ↔ (t.length : Int) ≤ limit := by
  constructor
  · intro whole
    rw [← whole]
    exact length_cut_le room t
  · exact cut_of_le

theorem cut_cut (room : (cutMark.length : Int) ≤ limit) (t : Text) : cut limit (cut limit t) = cut limit t :=
  cut_of_le (length_cut_le room t)

end Cut

end Log

end ScriptHost
