/-
Names in settings documents. In the table of a document, and in every table inside it, each name stands once: what the
reader puts into a table is put under a name that is not there yet, and whatever else it changes it changes in place.
So a document that sets the same thing twice is a fault and has no table, and nothing that was read is lost to what
comes after it.
-/
import ScriptHost.Toml.Document
import Mathlib.Data.List.Nodup

namespace ScriptHost.Toml

/-- No table in a datum has a name twice. -/
inductive Distinct : Datum → Prop
  | simple {d : Datum} (plain : isCompound d = false) : Distinct d
  | list {items : List Datum} (each : ∀ d ∈ items, Distinct d) : Distinct (.list items)
  | table {entries : Entries} (names : (entries.map (·.1)).Nodup) (each : ∀ e ∈ entries, Distinct e.2) :
    Distinct (.table entries)

namespace Distinct

variable {items : List Datum} {entries rest : Entries} {k : Text} {d : Datum}

theorem of_list (distinct : Distinct (.list items)) : ∀ d ∈ items, Distinct d := by
  cases distinct with
  | simple plain => cases plain
  | list each => exact each

theorem of_table (distinct : Distinct (.table entries)) :
    (entries.map (·.1)).Nodup ∧ ∀ e ∈ entries, Distinct e.2 := by
  cases distinct with
  | simple plain => cases plain
  | table names each => exact ⟨names, each⟩

theorem nil : Distinct (.table []) := .table List.nodup_nil fun e none => by cases none

theorem cons_iff : Distinct (.table ((k, d) :: rest)) ↔
    k ∉ rest.map (·.1) ∧ Distinct d ∧ Distinct (.table rest) := by
  constructor
  · intro distinct
    obtain ⟨names, each⟩ := distinct.of_table
    rw [List.map_cons, List.nodup_cons] at names
    rw [List.forall_mem_cons] at each
    exact ⟨names.1, each.1, .table names.2 each.2⟩
  · rintro ⟨new, first, others⟩
    obtain ⟨names, each⟩ := others.of_table
    exact .table (List.nodup_cons.mpr ⟨new, names⟩) (List.forall_mem_cons.mpr ⟨first, each⟩)

/-- One more name at the end. -/
theorem concat (distinct : Distinct (.table entries)) (new : entries.any (·.1 = k) = false) (first : Distinct d) :
    Distinct (.table (entries ++ [(k, d)])) := by
  obtain ⟨names, each⟩ := distinct.of_table
  refine .table ?_ ?_
  · rw [List.map_append, List.nodup_append]
    refine ⟨names, List.nodup_singleton _, ?_⟩
    rintro _ inside _ last rfl
    obtain rfl := List.mem_singleton.mp last
    obtain ⟨e, inside, same⟩ := List.mem_map.mp inside
    have other := List.any_eq_false.mp new e inside
    exact other (by simpa using same)
  · intro e inside
    rcases List.mem_append.mp inside with inside | last
    · exact each e inside
    · obtain rfl := List.mem_singleton.mp last
      exact first

end Distinct

/-! ## Changes of a table -/

section Change

variable {entries changed : Entries} {key : Text} {arrays : Bool}

/-- A change of an entry keeps all names and adds at most the one it is made under. -/
theorem changeEntry_distinct {f : Option Datum → Option Datum}
    (tame : ∀ old d, (∀ o ∈ old, Distinct o) → f old = some d → Distinct d) :
    ∀ {entries changed : Entries}, Distinct (.table entries) → changeEntry key f entries = some changed →
      Distinct (.table changed) ∧ ∀ k ∈ changed.map (·.1), k = key ∨ k ∈ entries.map (·.1)
  | [], changed, _, done => by
    obtain ⟨d, came, rfl⟩ := Option.map_eq_some_iff.mp done
    have first : Distinct d := tame none d (fun o none => by cases none) came
    refine ⟨Distinct.cons_iff.mpr ⟨List.not_mem_nil, first, .nil⟩, ?_⟩
    intro k inside
    exact .inl (List.mem_singleton.mp inside)
  | (k, d) :: rest, changed, distinct, done => by
    obtain ⟨new, first, others⟩ := Distinct.cons_iff.mp distinct
    unfold changeEntry at done
    split at done
    · next same =>
      obtain ⟨d', came, rfl⟩ := Option.map_eq_some_iff.mp done
      have first' : Distinct d' := tame (some d) d' (fun o here => Option.some.inj here ▸ first) came
      exact ⟨Distinct.cons_iff.mpr ⟨new, first', others⟩, fun k inside => .inr inside⟩
    · next other =>
      obtain ⟨rest', came, rfl⟩ := Option.map_eq_some_iff.mp done
      obtain ⟨distinct', names⟩ := changeEntry_distinct tame others came
      refine ⟨Distinct.cons_iff.mpr ⟨fun inside => ?_, first, distinct'⟩, ?_⟩
      · rcases names k inside with same | inside
        · exact other same
        · exact new inside
      · intro k' inside
        rcases List.mem_cons.mp inside with rfl | inside
        · exact .inr List.mem_cons_self
        · exact (names k' inside).imp_right (List.mem_cons_of_mem k)

/-- A change of the table behind a path. -/
theorem changeTable_distinct {f : Entries → Option Entries}
    (tame : ∀ inner inner', Distinct (.table inner) → f inner = some inner' → Distinct (.table inner')) :
    ∀ {path : Key} {entries changed : Entries}, Distinct (.table entries) →
      changeTable arrays f path entries = some changed → Distinct (.table changed)
  | [], _, _, distinct, done => tame _ _ distinct done
  | k :: path, entries, changed, distinct, done => by
    refine (changeEntry_distinct ?_ distinct done).1
    intro old d before came
    -- what stands under the first name of the path: nothing, a table, an array of tables, or something in the way
    split at came
    · obtain ⟨inner', made, rfl⟩ := Option.map_eq_some_iff.mp came
      exact changeTable_distinct tame .nil made
    · obtain ⟨inner', made, rfl⟩ := Option.map_eq_some_iff.mp came
      exact changeTable_distinct tame (before _ rfl) made
    · next items =>
      have each := (before _ rfl).of_list
      split at came
      · split at came
        · next inner ahead reversed =>
          obtain ⟨inner', made, rfl⟩ := Option.map_eq_some_iff.mp came
          have order : items = ahead.reverse ++ [.table inner] := by
            rw [← List.reverse_reverse items, reversed, List.reverse_cons]
          rw [order] at each
          have last := changeTable_distinct tame (each (.table inner) (by simp)) made
          refine .list fun d inside => ?_
          rcases List.mem_append.mp inside with inside | final
          · exact each d (List.mem_append_left _ inside)
          · obtain rfl := List.mem_singleton.mp final
            exact last
        · cases came
      · cases came
    · cases came

theorem appendTable_distinct (distinct : Distinct (.table entries)) (done : appendTable key entries = some changed) :
    Distinct (.table changed) := by
  refine (changeEntry_distinct ?_ distinct done).1
  intro old d before came
  split at came
  · cases came
    exact .list (by simpa using Distinct.nil)
  · next items =>
    cases came
    have each := (before _ rfl).of_list
    refine .list fun d inside => ?_
    rcases List.mem_append.mp inside with inside | last
    · exact each d inside
    · obtain rfl := List.mem_singleton.mp last
      exact .nil
  · cases came

/-- What both kinds of statements do with a value: it is put under a name that is not there yet. -/
theorem put_distinct {d : Datum} (first : Distinct d) (inner inner' : Entries) (distinct : Distinct (.table inner))
    (done : (if inner.any (·.1 = key) then none else some (inner ++ [(key, d)])) = some inner') :
    Distinct (.table inner') := by
  split at done
  · cases done
  · next new =>
    cases done
    exact distinct.concat (eq_false_of_ne_true new) first

end Change

/-! ## What readers yield -/

/-- Whatever the reading of a document yields has a property. -/
def Yields {α : Type} (P : α → Prop) (x : Except Fault α) : Prop := ∀ a, x = .ok a → P a

namespace Yields

variable {α β : Type} {P : α → Prop} {Q : β → Prop} {x : Except Fault β}

theorem ok {a : α} (holds : P a) : Yields P (.ok a) := by
  rintro _ ⟨⟩
  exact holds

theorem fail (rest problem : Text) : Yields P (Toml.fail rest problem) := by
  rintro _ ⟨⟩

theorem map {f : β → α} (yields : Yields (fun b => P (f b)) x) : Yields P (x.map f) := by
  cases x with
  | error e => rintro _ ⟨⟩
  | ok b => exact ok (yields b rfl)

theorem bind {f : β → Except Fault α} (yields : Yields Q x) (next : ∀ b, Q b → Yields P (f b)) :
    Yields P (x >>= f) := by
  cases x with
  | error e => rintro _ ⟨⟩
  | ok b => exact next b (yields b rfl)

/-- Of the first part nothing needs to be known. -/
theorem after {f : β → Except Fault α} (next : ∀ b, Yields P (f b)) : Yields P (x >>= f) := by
  cases x with
  | error e => rintro _ ⟨⟩
  | ok b => exact next b

end Yields

/-! ## Values -/

section Plain

variable {t rest : Text} {d : Datum}

theorem moment?_simple (came : moment? t = some (some d, rest)) : isCompound d = false := by
  simp only [moment?, Option.bind_eq_bind, Option.bind_eq_some_iff] at came
  obtain ⟨year, -, -, -, month, -, -, -, day, -, came⟩ := came
  -- a date, or a date with a time of day; either only on a day that there is
  split at came
  · split at came
    · cases came
      rfl
    · cases came
  · split at came
    · cases came
      rfl
    · cases came

theorem localTime?_simple (came : localTime? t = some (d, rest)) : isCompound d = false := by
  obtain ⟨time, -, made⟩ := Option.map_eq_some_iff.mp came
  cases made
  rfl

/-- A run of digits is a whole number, in each base. -/
theorem based_simple {base : Nat} {run : Text × Text}
    (came : (match run with
      | ([], _) => none
      | (ds, r) => some (Datum.int (valueIn base ds), r)) = some (d, rest)) : isCompound d = false := by
  split at came
  · cases came
  · cases came
    rfl

theorem basedNumber?_simple (came : basedNumber? t = some (d, rest)) : isCompound d = false := by
  unfold basedNumber? at came
  split at came
  · simp only [] at came
    split at came
    · cases came
    · split at came
      · exact based_simple came
      · split at came
        · exact based_simple came
        · split at came
          · exact based_simple came
          · cases came
  · cases came

/-- A decimal number is whole, if it is short enough, or real. -/
theorem decimal_simple {real : Bool} {digits : Nat} {n : Int} {x : Float} {after after' : Text}
    (came : (if real = true then
        if digitLimit < digits then some (.error digits, after) else some (.ok (Datum.int n), after)
      else some (.ok (Datum.real x), after')) = some (Except.ok d, rest)) : isCompound d = false := by
  split at came
  · split at came
    · cases came
    · cases came
      rfl
  · cases came
    rfl

theorem decimalNumber?_simple (came : decimalNumber? t = some (.ok d, rest)) : isCompound d = false := by
  simp only [decimalNumber?, Option.bind_eq_bind] at came
  split at came
  · split at came
    · exact decimal_simple came
    · split at came
      · cases came
      · exact decimal_simple came
  · cases came

theorem namedNumber?_simple (came : namedNumber? t = some (d, rest)) : isCompound d = false := by
  obtain ⟨entry, -, came⟩ := List.exists_of_findSome?_eq_some came
  obtain ⟨left, -, made⟩ := Option.map_eq_some_iff.mp came
  cases made
  rfl

theorem plainValue_yields (t : Text) : Yields (fun r => Distinct r.1) (plainValue t) := by
  unfold plainValue
  split
  · next moment => exact .ok (.simple (moment?_simple moment))
  · exact .fail _ _
  · split
    · next found =>
      refine .ok (.simple ?_)
      rcases Option.or_eq_some_iff.mp found with time | ⟨-, based⟩
      · exact localTime?_simple time
      · exact basedNumber?_simple based
    · next decimal => exact .ok (.simple (decimalNumber?_simple decimal))
    · rintro _ ⟨⟩
    · split
      · next named => exact .ok (.simple (namedNumber?_simple named))
      · exact .fail _ _

end Plain

/-- Values, items, keys with their values and inline tables, by the fuel that all four of them spend. -/
structure Nested (fuel : Nat) : Prop where
  value : ∀ t, Yields (fun r => Distinct r.1) (value fuel t)
  items : ∀ t, Yields (fun r => ∀ d ∈ r.1, Distinct d) (arrayItems fuel t)
  pair : ∀ t, Yields (fun r => Distinct r.1.2) (keyAndValue fuel t)
  inline : ∀ closings entries t, Distinct (.table entries) →
    Yields (fun r => Distinct (.table r.1)) (inlineEntries fuel closings entries t)

theorem Nested.zero : Nested 0 where
  value _ := by unfold Toml.value; exact .fail _ _
  items _ := by unfold arrayItems; exact .fail _ _
  pair _ := by unfold keyAndValue; exact .fail _ _
  inline _ _ _ _ := by unfold inlineEntries; exact .fail _ _

theorem text_yields (x : Except Fault (Text × Text)) :
    Yields (fun r => Distinct r.1) (x.map fun (s, r) => (Datum.text s, r)) :=
  .map fun _ _ => .simple rfl

theorem Nested.value_succ {fuel : Nat} (less : Nested fuel) (t : Text) :
    Yields (fun r => Distinct r.1) (Toml.value (fuel + 1) t) := by
  unfold Toml.value
  -- by the first mark: strings in double quotes, in single ones, truth values, arrays, inline tables, all others
  split
  · split
    · split
      · exact text_yields _
      · exact text_yields _
    · split
      · split
        · exact text_yields _
        · exact text_yields _
      · split
        · exact .ok (.simple rfl)
        · split
          · exact .ok (.simple rfl)
          · split
            · refine .after fun rest => ?_
              split
              · exact .ok (.list fun d none => by cases none)
              · refine .bind (less.items rest) ?_
                rintro ⟨items, left⟩ each
                exact .ok (.list each)
            · split
              · simp only []
                split
                · exact .ok .nil
                · refine .bind (less.inline [] [] _ .nil) ?_
                  rintro ⟨entries, left⟩ distinct
                  exact .ok distinct
              · exact plainValue_yields _
  · exact plainValue_yields _

theorem Nested.items_succ {fuel : Nat} (less : Nested fuel) (t : Text) :
    Yields (fun r => ∀ d ∈ r.1, Distinct d) (arrayItems (fuel + 1) t) := by
  unfold arrayItems
  refine .bind (less.value t) ?_
  rintro ⟨item, rest⟩ first
  refine .after fun rest => ?_
  have single : ∀ d ∈ [item], Distinct d := by simpa using first
  split
  · split
    · exact .ok single
    · split
      · refine .after fun more => ?_
        split
        · exact .ok single
        · refine .bind (less.items more) ?_
          rintro ⟨items, left⟩ others
          exact .ok (List.forall_mem_cons.mpr ⟨first, others⟩)
      · exact .fail _ _
  · exact .fail _ _

theorem Nested.pair_succ {fuel : Nat} (less : Nested fuel) (t : Text) :
    Yields (fun r => Distinct r.1.2) (keyAndValue (fuel + 1) t) := by
  unfold keyAndValue
  refine .after ?_
  rintro ⟨k, rest⟩
  simp only []
  split
  · split
    · refine .bind (less.value _) ?_
      rintro ⟨v, left⟩ first
      exact .ok first
    · exact .fail _ _
  · exact .fail _ _

theorem Nested.inline_succ {fuel : Nat} (less : Nested fuel) (closings : List Closing) (entries : Entries) (t : Text)
    (distinct : Distinct (.table entries)) :
    Yields (fun r => Distinct (.table r.1)) (inlineEntries (fuel + 1) closings entries t) := by
  -- what is read so far is handed on, so the invariant is that of its names, and the value's own comes with the pair
  unfold inlineEntries
  refine .bind (less.pair t) ?_
  rintro ⟨⟨k, v⟩, rest⟩ first
  simp only []
  split
  · exact .fail _ _
  · split
    · exact .fail _ _
    · split
      · exact .fail _ _
      · next entries' put =>
        have distinct' : Distinct (.table entries') := changeTable_distinct (put_distinct first) distinct put
        split
        · split
          · exact .ok distinct'
          · split
            · exact less.inline _ _ _ distinct'
            · exact .fail _ _
        · exact .fail _ _

theorem nested (fuel : Nat) : Nested fuel := by
  induction fuel with
  | zero => exact .zero
  | succ fuel less => exact ⟨less.value_succ, less.items_succ, less.pair_succ, less.inline_succ⟩

/-! ## Statements -/

/-- What a statement leaves is a table whose names stand once. -/
def Keeps (p : Progress) (x : Except Fault (Progress × Text)) : Prop :=
  Distinct (.table p.entries) → Yields (fun r => Distinct (.table r.1.entries)) x

theorem enter_keeps (p : Progress) (t : Text) : Keeps p (enter p t) := by
  intro distinct
  unfold enter
  refine .bind ((nested _).pair t) ?_
  rintro ⟨⟨k, v⟩, rest⟩ first
  simp only []
  split
  · exact .fail _ _
  · split
    · exact .fail _ _
    · split
      · exact .fail _ _
      · next put => exact .ok (changeTable_distinct (put_distinct first) distinct put)

theorem declareTable_keeps (p : Progress) (t : Text) : Keeps p (declareTable p t) := by
  intro distinct
  unfold declareTable
  refine .after ?_
  rintro ⟨k, rest⟩
  simp only []
  split
  · exact .fail _ _
  · split
    · exact .fail _ _
    · next made =>
      split
      · exact .fail _ _
      · refine .ok (changeTable_distinct ?_ distinct made)
        rintro inner _ before ⟨⟩
        exact before

theorem declareItem_keeps (p : Progress) (t : Text) : Keeps p (declareItem p t) := by
  intro distinct
  unfold declareItem
  refine .after ?_
  rintro ⟨k, rest⟩
  simp only []
  split
  · exact .fail _ _
  · split
    · exact .fail _ _
    · next made =>
      split
      · exact .fail _ _
      · exact .ok (changeTable_distinct (fun _ _ before done => appendTable_distinct before done) distinct made)

/-- Every kind of statement ends the same way: with its line, or with the document. -/
theorem yields_close {fuel : Nat} {p : Progress} (distinct : Distinct (.table p.entries))
    (further : ∀ t, Yields (fun entries => Distinct (.table entries)) (statements fuel p t)) (left : Text) :
    Yields (fun entries => Distinct (.table entries)) (skipComment left >>= fun left =>
      match left with
      | [] => pure p.entries
      | d :: more => if d.is '\n' then statements fuel p more
          else fail (d :: more) "Expected newline or end of document after a statement") := by
  refine .after fun left => ?_
  split
  · exact .ok distinct
  · split
    · exact further _
    · exact .fail _ _

theorem statements_yields (fuel : Nat) :
    ∀ p t, Distinct (.table p.entries) → Yields (fun entries => Distinct (.table entries)) (statements fuel p t) := by
  induction fuel with
  | zero => exact fun p t distinct => .ok distinct
  | succ fuel further =>
    intro p t distinct
    unfold statements
    split
    · exact .ok distinct
    · next c rest _ =>
      have close (r : Progress × Text) (distinct' : Distinct (.table r.1.entries)) :=
        yields_close distinct' (fun t => further r.1 t distinct') r.2
      split
      · exact further p rest distinct
      · simp only []
        split
        · exact .bind (.map (enter_keeps p _ distinct)) close
        · split
          · split
            · refine .bind (.map (declareItem_keeps _ _ ?_)) close
              exact distinct
            · refine .bind (.map (declareTable_keeps _ _ ?_)) close
              exact distinct
          · split
            · exact close (p, c :: rest) distinct
            · exact .bind (.fail _ _) close

/-- The table of a document has each of its names once, and so has every table inside it. -/
theorem read?_distinct {document : Text} {entries : Entries} (came : read? document = .ok entries) :
    Distinct (.table entries) := by
  unfold read? at came
  cases result : statements ((joinLineEnds document).length + 1) {} (joinLineEnds document) with
  | error f =>
    simp only [result] at came
    cases came
  | ok read =>
    simp only [result] at came
    cases came
    exact statements_yields _ {} _ .nil entries result

end ScriptHost.Toml
