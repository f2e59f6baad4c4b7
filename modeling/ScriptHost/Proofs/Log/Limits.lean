/-
Fields with limits. Paths, origins and sources come into records by way of the one function that cuts them, whichever
event tells of them. So however long a path or a source of a run is, no record of the run, and no line that is written
of one, has more of it than the limit.
-/
import ScriptHost.CommandLine.Run
import ScriptHost.Isolate.Scripted
import ScriptHost.Proofs.Log.Record

namespace ScriptHost

namespace Log

/-! ## Cutting -/

/-- What cutting a text to a limit comes to. -/
structure Cuts (limit : Int) (t u : Text) : Prop where
  within : (u.length : Int) ≤ limit
  whole : u = t ↔ (t.length : Int) ≤ limit
  marked : limit < t.length → (u.length : Int) = limit ∧ ∃ front, front <+: t ∧ u = front ++ cutMark
  again : cut limit u = u

theorem cuts_cut {limit : Int} (room : (cutMark.length : Int) ≤ limit) (t : Text) : Cuts limit t (cut limit t) where
  within := length_cut_le room t
  whole := cut_eq_self_iff room
  marked long := ⟨length_cut_of_lt room long, _, List.take_prefix _ t, cut_of_lt room long⟩
  again := cut_cut room t

/-! ## Fields -/

/-- The fields that have limits, each with the number of code points that it may have. -/
def limits : List (Text × Int) := [("path", 140), ("origin", 140), ("source", 400)]

/-- A field that keeps its limit, if it has one. -/
def Limited (f : Text × Datum) : Prop :=
  ∀ limit, (f.1, limit) ∈ limits → ∃ t, f.2 = .text t ∧ (t.length : Int) ≤ limit

variable {k : Text}

theorem limited_other (free : k ∉ limits.map (·.1)) (d : Datum) : Limited (k, d) :=
  fun _ limited => absurd (List.mem_map_of_mem limited) free

/-- There is room for the mark in every field with a limit. -/
theorem limited_cut {limit : Int} (limited : (k, limit) ∈ limits) (t : Text) :
    Limited (k, .text (cut limit t)) := by
  have room : ∀ p ∈ limits, (cutMark.length : Int) ≤ p.2 := by decide
  have once : ∀ p ∈ limits, ∀ q ∈ limits, p.1 = q.1 → p.2 = q.2 := by decide
  intro other limited'
  obtain rfl : limit = other := once _ limited _ limited' rfl
  exact ⟨_, rfl, length_cut_le (room _ limited) t⟩

theorem limited_path (t : Text) : Limited ("path", .text (cut pathLimit t)) := limited_cut (by decide) t

theorem limited_origin (t : Text) : Limited ("origin", .text (cut pathLimit t)) := limited_cut (by decide) t

theorem limited_source (t : Text) : Limited ("source", .text (cut sourceLimit t)) := limited_cut (by decide) t

end Log

open Log

/-! ## Records -/

/-- Whatever an event tells, its fields keep their limits. -/
theorem Event.limited_fields (e : Event) : ∀ f ∈ e.fields, Limited f := by
  -- most events tell one field and then another one that has no limit
  have beside {f : Text × Datum} (limited : Limited f) {k : Text} (free : k ∉ limits.map (·.1)) (d : Datum) :
      ∀ g ∈ [f, (k, d)], Limited g :=
    List.forall_mem_cons.mpr ⟨limited, List.forall_mem_singleton.mpr (limited_other free d)⟩
  cases e with
  | readStarted path => exact List.forall_mem_singleton.mpr (limited_path path)
  | readCompleted path bytes => exact beside (limited_path path) (by decide) _
  | readShort path expected read =>
    exact List.forall_mem_cons.mpr ⟨limited_path path, beside (limited_other (by decide) _) (by decide) _⟩
  | readFailed path error => exact beside (limited_path path) (by decide) _
  | bootstrapCompleted origin duration => exact beside (limited_origin origin) (by decide) _
  | bootstrapFailed origin error => exact beside (limited_origin origin) (by decide) _
  | isolateCreated id purpose => exact beside (limited_other (by decide) _) (by decide) _
  | isolateDestroyed id purpose => exact beside (limited_other (by decide) _) (by decide) _
  | sandboxFailed result source =>
    exact List.forall_mem_cons.mpr ⟨limited_other (by decide) _,
      List.forall_mem_singleton.mpr (limited_source source)⟩
  | evaluationCompleted origin duration => exact beside (limited_origin origin) (by decide) _
  | evaluationFailed origin error => exact beside (limited_origin origin) (by decide) _

/-- The fields that every record has beside those of its event have no limits. -/
theorem Event.limited_record (e : Event) : ∀ f ∈ e.record.fields, Limited f := by
  intro f inside
  rcases Record.mem_make inside with inside | rfl | rfl
  · rcases List.mem_cons.mp inside with rfl | inside
    · exact limited_other (by decide) _
    · exact e.limited_fields f inside
  · exact limited_other (by decide) _
  · exact limited_other (by decide) _

/-! ## Lines -/

/-- The object of a record has fields of the record, its event and its level. -/
theorem Log.Record.mem_object {r : Record} {f : Text × Datum} (inside : f ∈ r.object) :
    f ∈ r.fields ∨ f.1 = Text.ofString "event" ∨ f.1 = Text.ofString "level" := by
  unfold object parts split at inside
  simp only [List.mem_append, List.mem_filter, List.mem_cons, List.not_mem_nil, or_false] at inside
  rcases inside with ⟨⟨inside, -⟩, -⟩ | rfl | rfl
  · exact .inl inside
  · exact .inr (.inl rfl)
  · exact .inr (.inr rfl)

theorem Event.limited_object (e : Event) : ∀ f ∈ e.record.object, Limited f := by
  rintro ⟨k, d⟩ inside
  rcases Record.mem_object inside with inside | rfl | rfl
  · exact e.limited_record _ inside
  · exact limited_other (by decide) d
  · exact limited_other (by decide) d

namespace CommandLine

/-- An object beside the output is that of an event. -/
theorem event_of_object {style : Style} {notices : List Notice} {shown : Fields}
    (written : ErrorLine.log (.object shown) ∈ notices.flatMap (linesOf style)) :
    ∃ e, .event e ∈ notices ∧ shown = e.record.object := by
  obtain ⟨n, inside, written⟩ := List.mem_flatMap.mp written
  cases n with
  | line t => simp [linesOf] at written
  | event e =>
    refine ⟨e, inside, ?_⟩
    simp only [linesOf, Option.mem_toList, Option.map_eq_some_iff, ErrorLine.log.injEq, exists_eq_right] at written
    unfold Style.line? at written
    split at written
    · cases written
    · split at written
      · cases written
        rfl
      · cases written

/-- A limit that has room for the mark is kept by every text that was cut to it; a text is cut just where it is longer,
has as many code points as the limit then and starts as it did before; and to cut it again changes nothing. Hence,
whatever was done in a world, each record of it has at most 140 code points of a path and of an origin, and at most
400 of a source, and so has each object that a run of a command line writes beside its output. -/
theorem limits_kept {ι : Type} (F : Factory ι) :
    (∀ (limit : Int) (t : Text), (cutMark.length : Int) ≤ limit → Cuts limit t (cut limit t)) ∧
      (∀ (w : World), ∀ e ∈ w.events, ∀ f ∈ e.record.fields, Limited f) ∧
      ∀ (arguments : List Text) (w : World) (shown : Fields),
        .log (.object shown) ∈ errorLines (run F arguments w).1.style (run F arguments w).2 →
          ∀ f ∈ shown, Limited f := by
  refine ⟨fun limit t room => cuts_cut room t, fun _ e _ => e.limited_record, ?_⟩
  intro arguments w shown written
  obtain ⟨e, -, rfl⟩ := event_of_object written
  exact e.limited_object

/-- A text of the same letter all over. -/
def letters (n : Nat) : Text := List.replicate n (CodePoint.ofChar 'p')

/-- A limit that leaves room for the mark alone, with a text of one code point more; a source that is too long; and a
run with objects for its log, on a path that is too long. -/
theorem limits_kept_long :
    Cuts 14 (letters 15) cutMark ∧
      Limited ("source", .text (cut sourceLimit (letters 500))) ∧
      ∃ r, r = run (Isolate.Scripted.factory { scenes := [] }) ["--log-json", letters 200] World.blank ∧
        ∃ shown t, .log (.object shown) ∈ errorLines r.1.style r.2 ∧ (Text.ofString "path", .text t) ∈ shown ∧
          (t.length : Int) ≤ 140 := by
  obtain ⟨cuts, records, lines⟩ := limits_kept (Isolate.Scripted.factory { scenes := [] })
  refine ⟨?_, ?_, _, rfl, ?_⟩
  · have marked : cut 14 (letters 15) = cutMark := by decide
    rw [← marked]
    exact cuts 14 (letters 15) (by decide)
  · exact records (World.blank.tell (.event (.sandboxFailed "no" (letters 500)))) _ List.mem_cons_self _
      (Datum.mem_of_lookup? rfl)
  · have kept := lines ["--log-json", letters 200] World.blank
    -- the run is evaluated for one bit of it only: among its lines is an object with a path
    have told : let r := run (Isolate.Scripted.factory { scenes := [] }) ["--log-json", letters 200] World.blank
        (errorLines r.1.style r.2).any (fun
          | .log (.object shown) => shown.any (·.1 = Text.ofString "path")
          | _ => false) = true := by decide +kernel
    generalize run (Isolate.Scripted.factory { scenes := [] })
        ["--log-json", letters 200] World.blank = r at kept told ⊢
    obtain ⟨l, written, told⟩ := List.any_eq_true.mp told
    cases l with
    | text t => cases told
    | log l =>
      cases l with
      | console t => cases told
      | object shown =>
        obtain ⟨⟨k, d⟩, inside, path⟩ := List.any_eq_true.mp told
        obtain rfl : k = Text.ofString "path" := of_decide_eq_true path
        have limited : (Text.ofString "path", (140 : Int)) ∈ limits := by decide
        obtain ⟨t, same, short⟩ := kept shown written _ inside 140 limited
        subst same
        exact ⟨shown, t, written, inside, short⟩

end CommandLine

end ScriptHost
