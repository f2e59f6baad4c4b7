/-
What a session lets its scripts do, over every run. The history of a run is orderly and tells of its
isolates what their records say, so whatever is allowed in an orderly history is all that happens in any
run: sandboxes come from requests, evaluate the one source that was asked for, and are alone while they
are open.
-/
import ScriptHost.Proofs.Orderly
import ScriptHost.Proofs.Session.Operation

namespace ScriptHost.Session

open History

variable {ι : Type} {F : Factory ι} {s s' : Session ι} {w w' : World} {h : History}

/-! ## Stages and open isolates -/

theorem Sandboxes.closed {rs : List IsolateRecord} (hr : Sandboxes rs) : ∀ r ∈ rs, r.closed = true := by
  intro r hr'
  obtain ⟨t, rfl⟩ := hr r hr'
  rfl

theorem hosted_nil : Hosted [] := ⟨by simp, by simp⟩

theorem Sandboxes.hosted {rs : List IsolateRecord} (hr : Sandboxes rs) : Hosted rs :=
  hosted_nil.append hr.closed

/-- Among sandboxes, the record of the isolate of a session is the only one that may be open. -/
theorem hosted_around {before after : List IsolateRecord} (hb : Sandboxes before)
    (ha : Sandboxes after) (sources : List Text) (closed : Bool) :
    Hosted (before ++ record sources closed :: after) := by
  have mid : Hosted (before ++ [record sources closed]) := by
    refine ⟨fun r hr kind => ?_, ?_⟩
    · rcases List.mem_append.1 hr with hr | hr
      · exact hb.closed r hr
      · obtain rfl := List.mem_singleton.1 hr
        exact absurd kind.symm purpose_ne
    · have none : before.countP (fun r => !r.closed) = 0 := by
        rw [List.countP_eq_zero]
        intro r hr
        simp [hb.closed r hr]
      rw [List.countP_append, none, Nat.zero_add]
      exact List.countP_le_length
  simpa using mid.append ha.closed

theorem Stage.hosted (st : Stage F s w) : Hosted w.isolates := by
  rcases st.records with rest | ⟨place, sources, closed, holds⟩
  · exact rest.hosted
  · obtain ⟨before, after, e, _, b, c⟩ := holds.split
    rw [e]
    exact hosted_around b c sources closed

/-! ## Histories of runs -/

/-- A history is orderly, and tells of the isolates what their records say. -/
structure Told (w : World) : Prop where
  orderly : Orderly [] w.history
  records : w.history.records = w.isolates

theorem Told.grew (told : Told w) (grew : w.Grew h w')
    (next : Orderly w.history h ∧ History.records (w.history ++ h) = w'.isolates) : Told w' := by
  refine ⟨?_, ?_⟩
  · rw [grew.history]
    exact told.orderly.append (by simpa using next.1)
  · rw [grew.history]
    exact next.2

/-- Between two occurrences that concern the session's own isolate, of which the first changes its record,
functions are called. -/
theorem between_own {o o' : Occurrence} {before after : List IsolateRecord} {sources : List Text}
    {closed : Bool} (b : Sandboxes before) (c : Sandboxes after) (plain : o.Plain) (inner : o.Inner)
    (plain' : o'.Plain) (rest : ∀ rs, recordsNext rs o' = rs)
    (next : recordsNext w.history.records o = before ++ record sources closed :: after)
    (calls : Calls (before ++ record sources closed :: after).length h)
    (isolates : w'.isolates = before ++ record sources closed :: (after ++ h.sandboxes)) :
    Orderly w.history (o :: (h ++ [o'])) ∧
      History.records (w.history ++ o :: (h ++ [o'])) = w'.isolates := by
  have hosted := hosted_around b c sources closed
  have same : w'.isolates = recordsNext (recordsNext w.history.records o ++ h.sandboxes) o' := by
    rw [isolates, next, rest]
    simp
  rw [← next] at hosted calls
  rw [same]
  refine calls.between plain (.inl inner) hosted plain' ?_
  rw [rest]
  exact (hosted.append (closed_sandboxes h)).few

theorem Told.transition (told : Told w) (st : Stage F s w) (t : Transition F s w h s' w') : Told w' := by
  have hosted : Hosted w.history.records := told.records ▸ st.hosted
  refine told.grew t.grew ?_
  -- a move is calls or a request where the session is at rest, or calls between two occurrences about
  -- its own isolate
  cases t with
  | called calls served =>
    rw [← told.records] at calls
    rw [served.isolates, ← told.records]
    exact calls.orderly hosted
  | requested request served =>
    rw [← told.records] at request
    rw [served.isolates, ← told.records]
    exact ⟨request.orderly hosted, request.records⟩
  | read served =>
    rw [served.isolates, ← told.records, records_concat]
    exact ⟨⟨.of_plain trivial (.inr hosted) hosted.few, trivial⟩, (List.append_nil _).symm⟩
  | @refused h f _ _ _ calls served =>
    have e : w'.isolates = recordsNext (recordsNext w.history.records
        (.asked purpose (some functionNames)) ++ h.sandboxes) (.refused f) := by
      rw [served.isolates, told.records]
      simp [recordsNext, sandboxes]
    rw [← told.records] at calls
    rw [e]
    exact calls.between purpose_ne.symm (.inr hosted) hosted trivial
      (hosted.append (closed_sandboxes h)).few
  | @opened h _ _ _ _ calls _ isolates =>
    have length : (w.isolates ++ h.sandboxes).length = w.isolates.length + History.made h := by
      rw [List.length_append, calls.length_sandboxes]
    have e : w'.isolates = recordsNext (recordsNext w.history.records
        (.asked purpose (some functionNames)) ++ h.sandboxes)
        (.made (w.isolates.length + History.made h) purpose (some functionNames)) := by
      rw [isolates, told.records]
      rfl
    rw [← told.records] at calls
    rw [e]
    exact calls.between purpose_ne.symm (.inr hosted) hosted trivial
      ((hosted.append (closed_sandboxes h)).few_concat _)
  | @evaluated i source h outcome _ _ before after sources isolate place isolates calls _ isolates' =>
    obtain ⟨b, c⟩ := st.around isolate place isolates
    have given : recordsNext w.history.records (.given i.place source) =
        before ++ record (sources ++ [source]) false :: after := by
      rw [told.records, isolates, place]
      exact modify_append_cons _ _ after before
    exact between_own b c trivial trivial trivial (fun _ => rfl) given
      (by simpa [isolates] using calls) isolates'
  | @closed i h released _ before after sources isolate place isolates calls _ isolates' =>
    obtain ⟨b, c⟩ := st.around isolate place isolates
    have shut : recordsNext w.history.records (.closed i.place) =
        before ++ record sources true :: after := by
      rw [told.records, isolates, place]
      exact modify_append_cons _ _ after before
    exact between_own b c trivial trivial trivial (fun _ => rfl) shut
      (by simpa [isolates] using calls) isolates'
  | ended isolate => exact ⟨trivial, by simpa using told.records⟩

theorem Told.path (told : Told w) (st : Stage F s w) (p : Path F s w h s' w') : Told w' := by
  induction p with
  | none => exact told
  | more before move ih => exact ih.transition (st.path before) move

theorem Stage.sandboxes (st : Stage F s w) :
    ∀ r ∈ w.isolates, r.purpose = Sandbox.purpose → ∃ t, r = Sandbox.record t := by
  rcases st.records with rest | ⟨place, sources, closed, holds⟩
  · exact fun r hr _ => rest r hr
  · exact holds.forall (fun same => absurd same.symm purpose_ne) fun t _ => ⟨t, rfl⟩

/-! ## What is confined -/

theorem discard_snd {α : Type} (x : Step ι α) (s : Session ι) (w : World) :
    ((discard x : Step ι Unit) s w).2 = (x s w).2 := by
  show ((x >>= fun _ => pure ()) s w).2 = _
  rw [Step.bind_apply]
  rcases x s w with ⟨⟨_ | _, _⟩, _⟩ <;> rfl

/-- What scripts were able to do in a session so far, and what a request for a sandbox does now. -/
structure Confinement (F : Factory ι) (s : Session ι) (w : World) : Prop where
  /-- Everything that happened was allowed when it happened. -/
  allowed : ∀ before o after, w.history = before ++ o :: after → Allowed before o after
  /-- What happened is what the records of the isolates say. -/
  records : w.history.records = w.isolates
  /-- Every sandbox had no functions, was given one source, and is closed. -/
  sandboxes : ∀ r ∈ w.isolates, r.purpose = Sandbox.purpose → ∃ t, r = Sandbox.record t
  /-- A sandbox that ends with a fault is told of as a failed evaluation. -/
  evaluated : ∀ source : Datum, ∃ r, Request w.isolates.length source.shown r ∧
    (perform F (.evaluateSandbox source) s w).2.history = w.history ++ r ∧
    r.getLast? = some (.answered (Sandbox.evaluate F source w).1) ∧
    ∀ place f e, .gave place (.error f) ∈ r → (Sandbox.evaluate F source w).1 = .ok e → e.ok = false
  sandboxed : ∀ source : Datum, ∃ r, Request w.isolates.length source.shown r ∧
    (perform F (.sandbox source) s w).2.history = w.history ++ r
  called : ∀ arguments : List Text, ∃ r,
    Request w.isolates.length (arguments.headD Sandbox.missingSource) r ∧
    (perform F (.call "sandbox" arguments) s w).2.history =
      w.history ++ .called "sandbox" arguments :: (r ++ [.returned "sandbox"])

/-- In any run of any operations on a new session, what scripts do is confined. -/
theorem passes_confinement (hF : F.Confined) (settings : Settings) {w : World} (new : w.isolates = [])
    (blank : w.history = []) {operations : List Operation}
    (passes : Passes F operations { settings } w s' w') : Confinement F s' w' := by
  have start : Stage F { settings } w := stage_new settings new
  have told : Told w := ⟨by rw [blank]; trivial, by rw [blank, new]; rfl⟩
  obtain ⟨h, p⟩ := passes.path hF start
  have told := told.path start p
  refine ⟨fun before o after e => ?_, told.records, (start.path p).sandboxes, ?_, ?_, ?_⟩
  · simpa using told.orderly.allowed e
  · intro source
    obtain ⟨r, request, served, last⟩ := Sandbox.evaluate_spec hF source w'
    refine ⟨r, request, (congrArg World.history (discard_snd _ s' w')).trans served.history, last, ?_⟩
    intro place f e gave result
    exact request.contained gave (result ▸ last)
  · intro source
    obtain ⟨r, request, served, _⟩ := Sandbox.evaluate_spec hF source w'
    rw [← Action.bind_pure_snd w' _ Evaluation.display] at served
    exact ⟨r, request, (congrArg World.history (discard_snd _ s' w')).trans served.history⟩
  · intro arguments
    obtain ⟨r, request, served⟩ := sandbox_served hF arguments w'
    exact ⟨r, request, (congrArg World.history (discard_snd _ s' w')).trans served.history⟩

/-- A sandbox that tries to print, and ends with a fault for want of a function that does. -/
def thief : Isolate.Scripted.Plot where
  scenes := [("ask", { calls := [("sandbox", ["steal"])] }),
    ("steal", { calls := [("print", ["caught"])], raised := some (.missingKey (some "print")) })]

theorem passes_confinement_thief : ∃ (s' : Session Unit) (w' : World),
    Passes (Isolate.Scripted.factory thief) [.within [.evaluateSource "ask" defaultOrigin] none]
      { settings := {} } World.blank s' w' ∧
    Confinement (Isolate.Scripted.factory thief) s' w' ∧
    w'.isolates = [record [Bootstrap.bundled, "ask"] true, Sandbox.record "steal"] ∧
    w'.history.printed = [] := by
  have passes := Passes.step (F := Isolate.Scripted.factory thief)
    (.within [.evaluateSource "ask" defaultOrigin] none) [] { settings := {} }
    World.blank
  exact ⟨_, _, passes,
    passes_confinement (Isolate.Scripted.confined thief) {} rfl rfl passes, rfl, rfl⟩

end ScriptHost.Session
