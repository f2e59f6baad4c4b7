/-
What the operations of a session come to, in moves. Making the isolate, evaluating in it and closing the
session are one move each, of which the outcome is told as well; every other operation is put together of
these, so that it is a path whatever its parts end with.
-/
import ScriptHost.Proofs.Session.Transition

namespace ScriptHost.Session

open History

variable {ι α β : Type} {F : Factory ι} {s : Session ι} {w : World}

/-! ## Single moves -/

/-- The isolate of a session is made, or it is not. -/
theorem create_spec (hF : F.Confined) (isolate : s.isolate = none) (kept : s.tornDown = false)
    (w : World) :
    (∃ f h w', Isolate.create F purpose (some (functions F s.settings)) w = (.error f, w') ∧
        (∃ v, (F.make (functions F s.settings) v).1 = .error f) ∧
        Transition F s w (.asked purpose (some functionNames) :: (h ++ [.refused f])) s w') ∨
      ∃ i h w', Isolate.create F purpose (some (functions F s.settings)) w = (.ok i, w') ∧
        i.place = w.isolates.length + History.made h ∧
        (∃ v : World, v.Served h (F.make (functions F s.settings) v).2) ∧
        Transition F s w (.asked purpose (some functionNames) ::
            (h ++ [.made i.place purpose (some functionNames)]))
          { s with isolate := some i } w' := by
  -- what the factory does while it makes the isolate is calls on the functions it was given
  set w₀ := w.happen (.asked purpose (some functionNames)) with hw₀
  rcases hm : F.make (functions F s.settings) w₀ with ⟨made, w₁⟩
  have acts := hF.make (functions F s.settings) w₀
  rw [hm] at acts
  obtain ⟨h, calls, served⟩ := acts_served hF acts
  have s₁ : w.Served (.asked purpose (some functionNames) :: h) w₁ :=
    ((World.Served.refl w).happen rfl rfl).trans served
  cases made with
  | error f =>
    have hcreate := Isolate.create_of_error purpose (some (functions F s.settings)) hm
    refine .inl ⟨f, h, _, hcreate, ⟨w₀, by rw [hm]⟩, .refused isolate kept calls ?_⟩
    exact s₁.happen rfl rfl
  | ok core =>
    have hcreate := Isolate.create_of_ok purpose (some (functions F s.settings)) hm
    have place : w₁.isolates.length = w.isolates.length + History.made h := by
      rw [served.isolates, List.length_append, calls.length_sandboxes, hw₀, World.happen_isolates]
    rw [place] at hcreate
    set i : Isolate ι := ⟨w.isolates.length + History.made h, purpose, functions F s.settings, core⟩
    refine .inr ⟨i, h, Isolate.entered F i (some functionNames) w₁, hcreate, rfl,
      ⟨w₀, by rwa [hm]⟩, .opened isolate kept calls ?_ ?_⟩
    · exact s₁.toGrew.trans (Isolate.entered_grew (F := F) i (some functionNames) w₁)
    · rw [Isolate.entered_isolates, served.isolates]
      rfl

/-- A source is evaluated in the isolate of an open session. -/
theorem evaluateIn_spec (hF : F.Confined) (st : Stage F s w) {i : Isolate ι}
    (isolate : s.isolate = some i) (source : Text) :
    ∃ outcome core h w', evaluateIn F i source s w =
        ((outcome, { s with isolate := some { i with core } }), w') ∧
      Calls w.isolates.length h ∧
      Transition F s w (.given i.place source :: (h ++ [.gave i.place outcome]))
        { s with isolate := some { i with core } } w' := by
  obtain ⟨before, after, sources, isolates, place, bound⟩ := st.isolate isolate
  -- the run leaves calls, and so does nothing to the record of the isolate beyond the source given
  rcases hr : F.run i.functions source i.core (Isolate.receiving i source w) with
    ⟨⟨outcome, core⟩, w₁⟩
  have acts := hF.run i.functions source i.core (Isolate.receiving i source w)
  rw [hr, bound] at acts
  obtain ⟨h, calls, served⟩ := acts_served hF acts
  have hrun := Isolate.evaluate_of_open (F := F) (st.isClosed isolate) hr
  have received : (Isolate.receiving i source w).isolates =
      before ++ record (sources ++ [source]) false :: after := by
    rw [Isolate.receiving, World.happen_isolates, World.updateIsolate_isolates, isolates, place]
    exact modify_append_cons _ _ after before
  have calls : Calls w.isolates.length h := by
    simpa [received, isolates] using calls
  refine ⟨outcome, core, h, w₁.happen (.gave i.place outcome), ?_, calls,
    .evaluated isolate place isolates calls ?_ ?_⟩
  · rw [evaluateIn, hrun]
  · have g : w.Grew [.given i.place source] (Isolate.receiving i source w) := ⟨rfl, rfl, rfl, rfl⟩
    exact (g.trans served.toGrew).happen rfl
  · rw [World.happen_isolates, served.isolates, received]
    simp

/-- A session without an isolate is closed. -/
theorem tearDown_of_none (isolate : s.isolate = none) (w : World) :
    tearDown F s w = ((.ok (), { s with isolate := none, tornDown := true }), w) := by
  simp [tearDown, isolate]

/-- A session with an isolate is closed, which ends as letting go of the isolate does. -/
theorem tearDown_of_some (hF : F.Confined) (st : Stage F s w) {i : Isolate ι}
    (isolate : s.isolate = some i) :
    ∃ released h w', tearDown F s w = ((released, { s with isolate := none, tornDown := true }), w') ∧
      (∃ v : World, released = (F.release (functions F s.settings) i.core v).1 ∧
        v.Served h (F.release (functions F s.settings) i.core v).2) ∧
      Transition F s w (.closed i.place :: (h ++ [.released i.place released]))
        { s with isolate := none, tornDown := true } w' := by
  obtain ⟨before, after, sources, isolates, place, bound⟩ := st.isolate isolate
  -- the record is marked first, so whatever is called while letting go finds the isolate closed
  rcases hr : F.release i.functions i.core (Isolate.closing i w) with ⟨released, w₁⟩
  have acts := hF.release i.functions i.core (Isolate.closing i w)
  rw [hr, bound] at acts
  obtain ⟨h, calls, served⟩ := acts_served hF acts
  have hclose := Isolate.close_of_open (F := F) (st.isClosed isolate) hr
  have shut : (Isolate.closing i w).isolates = before ++ record sources true :: after := by
    simp only [Isolate.closing, World.updateIsolate_isolates, World.happen_isolates, isolates, place]
    rw [modify_append_cons, modify_append_cons]
    rfl
  have calls : Calls w.isolates.length h := by
    simpa [shut, isolates] using calls
  refine ⟨released, h, (w₁.happen (.released i.place released)).tell
    (.event (.isolateDestroyed i.id i.purpose)), ?_,
    ⟨Isolate.closing i w, by rw [← bound, hr], by rw [← bound]; rwa [hr]⟩,
    .closed isolate place isolates calls ?_ ?_⟩
  · simp [tearDown, isolate, hclose]
  · have g : w.Grew [.closed i.place] (Isolate.closing i w) := ⟨rfl, rfl, rfl, rfl⟩
    exact ((g.trans served.toGrew).happen rfl).tell _
  · rw [World.tell_isolates, World.happen_isolates, served.isolates, shut]
    simp

/-! ## Steps in moves -/

/-- A step is a path from every stage, whatever it ends with. -/
def Moves (F : Factory ι) (x : Step ι α) : Prop :=
  ∀ ⦃s : Session ι⦄ ⦃w : World⦄, Stage F s w → ∃ h, Path F s w h (x s w).1.2 (x s w).2

namespace Moves

theorem pure (a : α) : Moves F (Pure.pure a) := fun _ _ _ => ⟨[], .none⟩

theorem raise (f : Fault) : Moves F (Step.raise f : Step ι α) := fun _ _ _ => ⟨[], .none⟩

theorem bind {x : Step ι α} {f : α → Step ι β} (hx : Moves F x) (hf : ∀ a, Moves F (f a)) :
    Moves F (x >>= f) := by
  intro s w st
  obtain ⟨h, p⟩ := hx st
  rw [Step.bind_apply]
  generalize x s w = r at p ⊢
  obtain ⟨⟨e | a, s'⟩, w'⟩ := r
  · exact ⟨h, p⟩
  · obtain ⟨g, q⟩ := hf a (st.path p)
    exact ⟨h ++ g, p.trans q⟩

theorem attempt {x : Step ι α} (hx : Moves F x) : Moves F (Step.attempt x) := fun _ _ st => hx st

/-- A step that depends on the session at hand. -/
theorem session {f : Session ι → Step ι β}
    (hf : ∀ ⦃s w⦄, Stage F s w → ∃ h, Path F s w h (f s s w).1.2 (f s s w).2) :
    Moves F (Step.session >>= f) := fun _ _ st => hf st

/-- What is done to the world besides is one move. -/
theorem act {x : Action α} (hx : ∀ s w, ∃ h, Transition F s w h s (x w).2) : Moves F (Step.act x) := by
  intro s w _
  obtain ⟨h, t⟩ := hx s w
  exact ⟨h, t.path⟩

end Moves

theorem Transition.tell (n : Notice) (s : Session ι) (w : World) :
    Transition F s w [] s (w.tell n) := .called .none ((World.Served.refl w).tell n)

theorem moves_report (e : Event) : Moves F (Step.act (Action.report e)) :=
  .act fun s w => ⟨[], .tell _ s w⟩

theorem moves_conclude (origin : Text) (e : Evaluation) : Moves F (Step.act (conclude origin e)) := by
  refine .act fun s w => ⟨[], ?_⟩
  cases hk : e.ok
  · simpa [conclude, hk] using Transition.tell (.event (.evaluationFailed origin e.value)) s w
  · simpa [conclude, hk] using Transition.tell (.event (.evaluationCompleted origin e.duration)) s w

theorem moves_read (how : Source.Reading) (path : Text) : Moves F (Step.act (Source.read how path)) :=
  .act fun _ w => ⟨_, .read (Source.read_served how path w)⟩

theorem moves_load (path : Option Text) (encoding : Text) :
    Moves F (Step.act (Bootstrap.load path encoding)) := by
  cases path with
  | none => exact fun _ _ _ => ⟨[], .none⟩
  | some p =>
    refine .act fun s w => ⟨[.reading p], .read ?_⟩
    have served := Source.read_served ⟨true, encoding⟩ p w
    rwa [← Action.bind_pure_snd w _ fun source => (source, p)] at served

theorem moves_evaluate (hF : F.Confined) (source : Datum) :
    Moves F (Step.act (Sandbox.evaluate F source)) := by
  refine .act fun s w => ?_
  obtain ⟨r, request, served, _⟩ := Sandbox.evaluate_spec hF source w
  exact ⟨r, .requested request served⟩

theorem moves_call (hF : F.Confined) (source : Datum) :
    Moves F (Step.act (Sandbox.call F source)) := by
  refine .act fun s w => ?_
  obtain ⟨r, request, served, _⟩ := Sandbox.evaluate_spec hF source w
  rw [← Action.bind_pure_snd w _ Evaluation.display] at served
  exact ⟨r, .requested request served⟩

theorem moves_function (hF : F.Confined) {settings : Settings} {name : Text} {f : HostFunction}
    (bound : (name, f) ∈ functions F settings) (arguments : List Text) :
    Moves F (Step.act (f arguments)) := by
  refine .act fun s w => ?_
  obtain ⟨c, call, served⟩ := function_served hF bound arguments w
  exact ⟨c, .called (.single call) served⟩

theorem moves_tearDown (hF : F.Confined) : Moves F (tearDown F) := by
  intro s w st
  cases isolate : s.isolate with
  | none =>
    rw [tearDown_of_none isolate]
    exact ⟨[], (Transition.ended isolate).path⟩
  | some i =>
    obtain ⟨released, h, w', e, _, t⟩ := tearDown_of_some hF st isolate
    rw [e]
    exact ⟨_, t.path⟩

/-- What follows the evaluation of the bootstrap. -/
def settle (F : Factory ι) (origin : Text) : Except Fault Evaluation → Step ι Unit
  | .error f => Step.raise f
  | .ok e =>
    if e.ok then Step.act (Action.report (.bootstrapCompleted origin e.duration))
    else do
      Step.act (Action.report (.bootstrapFailed origin e.value))
      tearDown F
      Step.raise (.bootstrap ("bootstrap " ++ origin ++ " failed: " ++ e.value) 1)

theorem moves_settle (hF : F.Confined) (origin : Text) (outcome : Except Fault Evaluation) :
    Moves F (settle F origin outcome) := by
  unfold settle
  split
  · exact .raise _
  · split
    · exact moves_report _
    · exact .bind (moves_report _) fun _ => .bind (moves_tearDown hF) fun _ => .raise _

theorem boot_of_error {source origin : Text} {f : Fault} {w' : World}
    (e : Isolate.create F purpose (some (functions F s.settings)) w = (.error f, w')) :
    boot F source origin s w = ((.error f, s), w') := by
  simp [boot, e]

theorem boot_of_ok {source origin : Text} {i j : Isolate ι} {w' w'' : World}
    {outcome : Except Fault Evaluation}
    (e : Isolate.create F purpose (some (functions F s.settings)) w = (.ok i, w'))
    (e' : evaluateIn F i source { s with isolate := some i } w' =
      ((outcome, { s with isolate := some j }), w'')) :
    boot F source origin s w = settle F origin outcome { s with isolate := some j } w'' := by
  cases outcome <;> simp [boot, settle, e, e']

/-- A session that is not open is opened, or not. -/
theorem boot_path (hF : F.Confined) (st : Stage F s w) (isolate : s.isolate = none)
    (kept : s.tornDown = false) (source origin : Text) :
    ∃ h, Path F s w h (boot F source origin s w).1.2 (boot F source origin s w).2 := by
  rcases create_spec hF isolate kept w with ⟨f, h, w', e, _, t⟩ | ⟨i, h, w', e, _, _, t⟩
  · rw [boot_of_error e]
    exact ⟨_, t.path⟩
  · obtain ⟨outcome, core, g, w'', e', _, t'⟩ := evaluateIn_spec hF (st.transition t) rfl source
    rw [boot_of_ok e e']
    have p := t.path.trans t'.path
    obtain ⟨h', q⟩ := moves_settle hF origin outcome (st.path p)
    exact ⟨_, p.trans q⟩

theorem moves_start (hF : F.Confined) : Moves F (start F) := by
  refine .session fun s w st => ?_
  split
  · exact Moves.raise _ st
  · next kept =>
    split
    · exact Moves.pure _ st
    · next shut =>
      have isolate : s.isolate = none := by simpa [isOpen] using shut
      have kept : s.tornDown = false := by simpa using kept
      -- reading the bootstrap leaves the session as it is
      obtain ⟨h, p⟩ := moves_load (F := F) s.settings.bootstrapPath s.settings.encoding st
      rw [Step.bind_apply]
      rw [Step.act_apply] at p ⊢
      generalize Bootstrap.load s.settings.bootstrapPath s.settings.encoding w = r at p ⊢
      obtain ⟨e | ⟨source, origin⟩, w'⟩ := r
      · exact ⟨h, p⟩
      · obtain ⟨g, q⟩ := boot_path hF (st.path p) isolate kept source origin
        exact ⟨_, p.trans q⟩

theorem moves_evaluateSource (hF : F.Confined) (source origin : Text) :
    Moves F (evaluateSource F source origin) := by
  refine .session fun s w st => ?_
  cases isolate : s.isolate with
  | none => exact Moves.raise _ st
  | some i =>
    obtain ⟨outcome, core, h, w', e, _, t⟩ := evaluateIn_spec hF st isolate source
    simp only [Step.bind_apply, e]
    cases outcome with
    | error f => exact ⟨_, t.path⟩
    | ok r =>
      obtain ⟨g, q⟩ := moves_conclude (F := F) origin r (st.transition t)
      exact ⟨_, t.path.trans q⟩

theorem moves_evaluateFile (hF : F.Confined) (path : Text) : Moves F (evaluateFile F path) :=
  .session fun s _ st => Moves.bind (moves_read (reading s.settings) path)
    (fun source => moves_evaluateSource hF source path) st

theorem moves_within (hF : F.Confined) {x : Step ι α} (hx : Moves F x) : Moves F (within F x) := by
  refine .bind (moves_start hF) fun _ => .bind hx.attempt fun ended =>
    .bind (moves_tearDown hF) fun _ => ?_
  cases ended with
  | ok a => exact .pure a
  | error f => exact .raise f

end ScriptHost.Session
