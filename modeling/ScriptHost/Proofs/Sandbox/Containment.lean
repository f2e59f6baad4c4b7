/-
What a request for a sandbox ends with, on every factory. Making the isolate, running the source in it and
letting go of it can each end with a fault. The first two become a failed evaluation; a fault of letting
go does not, and takes the place of whatever the source came to. In every case the isolate that was made
is closed, provided that running and letting go leave the records of isolates in place.
-/
import ScriptHost.Proofs.Sandbox

namespace ScriptHost

/-! ## Records that stay -/

/-- Every isolate keeps a record, and one that was closed is still closed. -/
def World.Lasts (v w : World) : Prop :=
  ∀ place r, v.isolate? place = some r →
    ∃ r', w.isolate? place = some r' ∧ (r.closed = true → r'.closed = true)

namespace World.Lasts

variable {u v w : World}

theorem of_isolates (same : w.isolates = v.isolates) : v.Lasts w := by
  intro place r found
  exact ⟨r, by rwa [isolate?, same], id⟩

theorem trans (a : u.Lasts v) (b : v.Lasts w) : u.Lasts w := by
  intro place r found
  obtain ⟨r', found', closed'⟩ := a place r found
  obtain ⟨r'', found'', closed''⟩ := b place r' found'
  exact ⟨r'', found'', closed'' ∘ closed'⟩

end World.Lasts

namespace Factory

variable {ι : Type}

/-- A factory on which running and letting go of an isolate with these functions take no record away and
open no isolate again. -/
structure Lasting (F : Factory ι) (functions : Functions) : Prop where
  run : ∀ (source : Text) (core : ι) (w : World), w.Lasts (F.run functions source core w).2
  release : ∀ (core : ι) (w : World), w.Lasts (F.release functions core w).2

theorem Confined.lasting {F : Factory ι} (hF : F.Confined) : F.Lasting [] where
  run source core w := .of_isolates (hF.run [] source core w).alike.isolates
  release core w := .of_isolates (hF.release [] core w).alike.isolates

end Factory

namespace Isolate

variable {ι : Type} {F : Factory ι} {i : Isolate ι} {v w : World}

theorem isClosed_lasts (lasts : v.Lasts w) (closed : i.isClosed v = true) : i.isClosed w = true := by
  rw [isClosed, Option.any_eq_true] at closed
  obtain ⟨r, found, yes⟩ := closed
  obtain ⟨r', found', keeps⟩ := lasts i.place r found
  rw [isClosed, found']
  exact keeps yes

/-- An isolate with a record is closed by being closed. -/
theorem isClosed_closing {r : IsolateRecord} (found : w.isolate? i.place = some r) :
    i.isClosed (closing i w) = true := by
  rw [World.isolate?] at found
  simp [isClosed, closing, World.isolate?, found]

/-- Closing an isolate that is closed does nothing. -/
theorem close_of_closed (closed : i.isClosed w = true) : i.close F w = (.ok (), w) := by
  simp [close, closed]

end Isolate

namespace Sandbox

variable {ι : Type} {F : Factory ι} {source : Datum} {t : Text} {w : World}

/-! ## The parts of a request -/

/-- What the parts of a request end with. -/
inductive Parts where
  /-- No isolate was made. -/
  | refused (f : Fault)
  /-- The isolate closed itself while it ran, so that nothing is left to let go of. -/
  | left (outcome : Except Fault Evaluation)
  /-- The isolate ran and was let go of. -/
  | released (outcome : Except Fault Evaluation) (ended : Except Fault Unit)

/-- The fault that something ended with, if any. -/
def faultsOf {α : Type} : Except Fault α → List Fault
  | .ok _ => []
  | .error f => [f]

/-- The faults of the parts. -/
def Parts.faults : Parts → List Fault
  | refused f => [f]
  | left outcome => faultsOf outcome
  | released outcome ended => faultsOf outcome ++ faultsOf ended

/-- What a request with these parts is answered with. -/
def Parts.answer : Parts → Except Fault Evaluation
  | refused f => .ok (.ofFault f)
  | left outcome => .ok (.ofOutcome outcome)
  | released outcome ended => ended.map fun _ => .ofOutcome outcome

/-- The world in which a factory is asked for the isolate of a request. -/
def asking (t : Text) (w : World) : World := (w.happen (.requested t)).happen (.asked purpose none)

/-- The isolate of a request when it was just made, if it was. -/
def isolateOf (F : Factory ι) (t : Text) (w : World) : Option (Isolate ι) :=
  match F.make [] (asking t w) with
  | (.error _, _) => none
  | (.ok core, v) => some (isolateAt v.isolates.length core)

/-- The parts of a request whose isolate was just made. -/
def partsIn (F : Factory ι) (t : Text) (core : ι) (v : World) : Parts :=
  let i := isolateAt v.isolates.length core
  let ((outcome, core), u) := F.run [] t core (i.receiving t (i.entered F none v))
  let i := { i with core }
  let u := u.happen (.gave i.place outcome)
  if i.isClosed u then .left outcome else .released outcome (F.release [] core (i.closing u)).1

/-- The parts of a request, as the factory has them. -/
def parts (F : Factory ι) (t : Text) (w : World) : Parts :=
  match F.make [] (asking t w) with
  | (.error f, _) => .refused f
  | (.ok core, v) => partsIn F t core v

/-- A request with a fault is answered with a failed evaluation or a fault. -/
theorem Parts.answer_of_faults {p : Parts} {e : Evaluation} (faulty : p.faults ≠ [])
    (answered : p.answer = .ok e) : e.ok = false := by
  rcases p with f | _ | ⟨_ | outcome, _ | _⟩
  · cases answered
    rfl
  · rename_i outcome
    cases outcome with
    | error f =>
      cases answered
      rfl
    | ok e => exact absurd rfl faulty
  · cases answered
  · cases answered
    rfl
  · cases answered
  · exact absurd rfl faulty

theorem Parts.answer_eq_error {p : Parts} {f : Fault} :
    p.answer = .error f ↔ ∃ outcome, p = .released outcome (.error f) := by
  constructor
  · intro answered
    rcases p with _ | _ | ⟨outcome, g | _⟩
    · cases answered
    · cases answered
    · cases answered
      exact ⟨outcome, rfl⟩
    · cases answered
  · rintro ⟨outcome, rfl⟩
    rfl

/-! ## Requests -/

/-- An isolate that was just made answers as its parts say, and is closed. -/
theorem evaluateIn_parts (core : ι) (t : Text) (v : World) :
    let i := isolateAt v.isolates.length core
    ∃ w', evaluateIn F i t (i.entered F none v) = ((partsIn F t core v).answer, w') ∧
      (F.Lasting [] → i.isClosed w' = true) := by
  intro i
  have opened : i.isClosed (i.entered F none v) = false := Isolate.isClosed_entered rfl none
  have begun : (i.receiving t (i.entered F none v)).isolate? i.place =
      some { purpose := purpose, functions := none, sources := [t] } := by
    simp [World.isolate?, Isolate.receiving, Isolate.entered_isolates, i, isolateAt]
  rcases ran : F.run [] t core (i.receiving t (i.entered F none v)) with ⟨⟨outcome, core'⟩, u⟩
  have evaluated := Isolate.evaluate_of_open (F := F) (i := i) opened ran
  set j : Isolate ι := { i with core := core' } with hj
  -- whether there is something left to let go of depends on what the run did to the record
  cases closed : j.isClosed (u.happen (.gave i.place outcome)) with
  | true =>
    have same : partsIn F t core v = .left outcome := by
      simp only [partsIn, ← hj, ← show i = isolateAt _ core from rfl, ran, closed]
      rfl
    refine ⟨u.happen (.gave i.place outcome), ?_, fun _ => closed⟩
    rw [same, evaluateIn, Action.bind_apply, Isolate.evaluateLast, evaluated]
    simp only
    rw [Isolate.close_of_closed closed]
    cases outcome <;> rfl
  | false =>
    rcases gone : F.release [] core' (j.closing (u.happen (.gave i.place outcome))) with ⟨ended, u'⟩
    have same : partsIn F t core v = .released outcome ended := by
      simp only [partsIn, ← hj, ← show i = isolateAt _ core from rfl, ran, closed, gone]
      rfl
    have shut := Isolate.close_of_open (F := F) (i := j) closed gone
    refine ⟨(u'.happen (.released i.place ended)).tell (.event (.isolateDestroyed i.id i.purpose)), ?_,
      fun lasting => ?_⟩
    · rw [same, evaluateIn, Action.bind_apply, Isolate.evaluateLast, evaluated]
      simp only
      rw [shut]
      cases ended <;> cases outcome <;> rfl
    · -- the record that the isolate had when it was made is there after the run, and is marked then
      have lasts := lasting.run t core (i.receiving t (i.entered F none v))
      rw [ran] at lasts
      obtain ⟨r, found, _⟩ := lasts _ _ begun
      have kept := lasting.release core' (j.closing (u.happen (.gave i.place outcome)))
      rw [gone] at kept
      exact Isolate.isClosed_lasts (i := j) (kept.trans (.of_isolates rfl))
        (Isolate.isClosed_closing (r := r) found)

/-- The world that a request leaves, and what it is answered with. -/
theorem evaluate_parts (source : Datum) (w : World) :
    (evaluate F source w).1 = (parts F source.shown w).answer ∧
      (F.Lasting [] → ∀ i, isolateOf F source.shown w = some i →
        i.isClosed (evaluate F source w).2 = true) := by
  -- what is reported of an evaluation changes neither
  have reported : ∀ answer w', evaluateUnreported F source.shown (w.happen (.requested source.shown)) =
      (answer, w') → (evaluate F source w).1 = answer ∧
        ∀ i : Isolate ι, i.isClosed w' = true → i.isClosed (evaluate F source w).2 = true := by
    intro answer w' e
    cases answer with
    | error f => simp [evaluate, e, Isolate.isClosed, World.isolate?]
    | ok r => cases ok : r.ok <;> simp [evaluate, e, ok, Isolate.isClosed, World.isolate?]
  rcases made : F.make [] (asking source.shown w) with ⟨f | core, v⟩
  · have no : isolateOf F source.shown w = none := by simp [isolateOf, made]
    have e : evaluateUnreported F source.shown (w.happen (.requested source.shown)) =
        (.ok (.ofFault f), v.happen (.refused f)) := by
      simp [evaluateUnreported, Isolate.create_of_error (F := F) purpose none made]
    refine ⟨?_, fun _ i some => ?_⟩
    · rw [(reported _ _ e).1, parts, made]
      rfl
    · rw [no] at some
      cases some
  · obtain ⟨w', e, closed⟩ := evaluateIn_parts (F := F) core source.shown v
    have e : evaluateUnreported F source.shown (w.happen (.requested source.shown)) =
        ((partsIn F source.shown core v).answer, w') := by
      rw [evaluateUnreported, Action.bind_apply, Action.attempt_apply,
        Isolate.create_of_ok (F := F) purpose none made]
      exact e
    refine ⟨?_, fun lasting i some => ?_⟩
    · rw [(reported _ _ e).1, parts, made]
    · have same : isolateAt v.isolates.length core = i := by simpa [isolateOf, made] using some
      exact (reported _ _ e).2 i (same ▸ closed lasting)

/-- A request for a sandbox as its caller sees it. -/
structure Contained (F : Factory ι) (source : Datum) (w : World) : Prop where
  /-- What the request is answered with is a matter of what its parts end with. -/
  answered : (evaluate F source w).1 = (parts F source.shown w).answer
  /-- A result is returned, and a failed one if any part ended with a fault, unless that part was letting
  go of the isolate. -/
  returns : (∀ outcome f, parts F source.shown w ≠ .released outcome (.error f)) →
    ∃ e, (evaluate F source w).1 = .ok e ∧ ((parts F source.shown w).faults ≠ [] → e.ok = false)
  /-- The fault of letting go of the isolate, and no other, is what a request ends with. -/
  raises : ∀ f, (evaluate F source w).1 = .error f ↔
    ∃ outcome, parts F source.shown w = .released outcome (.error f)
  /-- The text handed back is that of the evaluation, and there is one whenever there is a result. -/
  call : (Sandbox.call F source w).1 = (evaluate F source w).1.map Evaluation.display
  /-- A script gets the same for its first argument. -/
  function : ∀ arguments, source = .text (arguments.headD missingSource) →
    (Sandbox.function F arguments w).1 = (Sandbox.call F source w).1.map .text
  /-- The isolate that was made, if any, is closed, whatever any part ended with. -/
  closed : ∀ i, isolateOf F source.shown w = some i → i.isClosed (evaluate F source w).2 = true

/-- Where running and letting go of isolates leave their records in place, a request for a sandbox is
contained but for the fault of letting go. -/
theorem evaluate_contained (lasting : F.Lasting []) (source : Datum) (w : World) :
    Contained F source w := by
  obtain ⟨answered, closed⟩ := evaluate_parts (F := F) source w
  have call : (Sandbox.call F source w).1 = (evaluate F source w).1.map Evaluation.display := by
    rw [Sandbox.call, Action.bind_apply]
    rcases evaluate F source w with ⟨_ | _, _⟩ <;> rfl
  refine ⟨answered, fun kept => ?_, fun f => ?_, call, fun arguments same => ?_, closed lasting⟩
  · cases h : (parts F source.shown w).answer with
    | error f =>
      obtain ⟨outcome, released⟩ := Parts.answer_eq_error.1 h
      exact absurd released (kept outcome f)
    | ok e => exact ⟨e, answered.trans h, fun faulty => Parts.answer_of_faults faulty h⟩
  · rw [answered]
    exact Parts.answer_eq_error
  · rw [Sandbox.function, ← same, Action.bind_apply]
    rcases Sandbox.call F source w with ⟨_ | _, _⟩ <;> rfl

/-- Isolates that run out of memory, and cannot be let go of. -/
def stuck : Isolate.Scripted.Plot where
  scenes := [("1", { raised := some (.memory (some "heap exhausted")) })]
  releaseFault := some (.running (some "stuck"))

/-- The fault of letting go takes the place of the evaluation that failed before it. -/
theorem evaluate_contained_stuck : ∃ w : World, (Isolate.Scripted.factory stuck).Lasting [] ∧
    Contained (Isolate.Scripted.factory stuck) (.text "1") w ∧
    parts (Isolate.Scripted.factory stuck) "1" w =
      .released (.error (.memory (some "heap exhausted"))) (.error (.running (some "stuck"))) ∧
    (evaluate (Isolate.Scripted.factory stuck) (.text "1") w).1 = .error (.running (some "stuck")) ∧
    (isolateOf (Isolate.Scripted.factory stuck) "1" w).isSome := by
  have lasting := (Isolate.Scripted.confined stuck).lasting
  have contained := evaluate_contained lasting (.text "1") World.blank
  have released : parts (Isolate.Scripted.factory stuck) "1" World.blank =
      .released (.error (.memory (some "heap exhausted"))) (.error (.running (some "stuck"))) := rfl
  exact ⟨_, lasting, contained, released, (contained.raises _).2 ⟨_, released⟩, rfl⟩

end Sandbox

end ScriptHost
