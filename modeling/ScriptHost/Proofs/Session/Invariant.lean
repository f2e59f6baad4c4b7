/-
Invariants of sessions. What opening a session keeps, and every move that opens none, is kept by every
operation; so it holds between any two steps of a run, whatever faults the steps end with. Opening is
kept apart because an invariant may be broken while it lasts.
-/
import ScriptHost.Proofs.Session.Operation

namespace ScriptHost.Session

open History

variable {ι α β : Type} {F : Factory ι} {P : Session ι → World → Prop} {s s' : Session ι} {w w' : World}

/-- A property of a session and its world that opening keeps, and every move that opens no session. -/
structure Invariant (F : Factory ι) (P : Session ι → World → Prop) : Prop where
  start : ∀ ⦃s w⦄, Stage F s w → P s w → P (start F s w).1.2 (start F s w).2
  move : ∀ ⦃s s' w w' h⦄, Stage F s w → P s w → Transition F s w h s' w' →
    (s.isolate = none → s'.isolate = none) → P s' w'

/-- A step keeps the stages and a property, whatever it ends with. -/
def Preserves (F : Factory ι) (P : Session ι → World → Prop) (x : Step ι α) : Prop :=
  ∀ ⦃s w⦄, Stage F s w → P s w → Stage F (x s w).1.2 (x s w).2 ∧ P (x s w).1.2 (x s w).2

namespace Preserves

theorem pure (a : α) : Preserves F P (Pure.pure a) := fun _ _ st h => ⟨st, h⟩

theorem raise (f : Fault) : Preserves F P (Step.raise f : Step ι α) := fun _ _ st h => ⟨st, h⟩

theorem bind {x : Step ι α} {f : α → Step ι β} (hx : Preserves F P x) (hf : ∀ a, Preserves F P (f a)) :
    Preserves F P (x >>= f) := by
  intro s w st h
  have kept := hx st h
  rw [Step.bind_apply]
  generalize x s w = r at kept ⊢
  obtain ⟨⟨e | a, s'⟩, w'⟩ := r
  · exact kept
  · exact hf a kept.1 kept.2

theorem attempt {x : Step ι α} (hx : Preserves F P x) : Preserves F P (Step.attempt x) :=
  fun _ _ st h => hx st h

theorem discard {x : Step ι α} (hx : Preserves F P x) : Preserves F P (Functor.discard x) :=
  .bind hx fun _ => .pure _

/-- A step that depends on the session at hand. -/
theorem session {f : Session ι → Step ι β}
    (hf : ∀ ⦃s w⦄, Stage F s w → P s w → Stage F (f s s w).1.2 (f s s w).2 ∧ P (f s s w).1.2 (f s s w).2) :
    Preserves F P (Step.session >>= f) := fun _ _ st h => hf st h

end Preserves

namespace Invariant

variable (inv : Invariant F P)
include inv

/-- What is done to the world besides is a move that opens nothing. -/
theorem act {x : Action α} (hx : ∀ s w, ∃ h, Transition F s w h s (x w).2) :
    Preserves F P (Step.act x) := by
  intro s w st holds
  obtain ⟨h, t⟩ := hx s w
  exact ⟨st.transition t, inv.move st holds t id⟩

theorem opening (hF : F.Confined) : Preserves F P (Session.start F) := by
  intro s w st holds
  obtain ⟨h, p⟩ := moves_start hF st
  exact ⟨st.path p, inv.start st holds⟩

theorem tearDown (hF : F.Confined) : Preserves F P (Session.tearDown F) := by
  intro s w st holds
  cases isolate : s.isolate with
  | none =>
    rw [tearDown_of_none isolate]
    have t : Transition F s w [] { s with isolate := none, tornDown := true } w := .ended isolate
    exact ⟨st.transition t, inv.move st holds t fun _ => rfl⟩
  | some i =>
    obtain ⟨released, h, w', e, _, t⟩ := tearDown_of_some hF st isolate
    rw [e]
    exact ⟨st.transition t, inv.move st holds t fun _ => rfl⟩

theorem conclude (origin : Text) (e : Evaluation) :
    Preserves F P (Step.act (Session.conclude origin e)) := by
  refine inv.act fun s w => ⟨[], ?_⟩
  cases ok : e.ok
  · simpa [Session.conclude, ok] using Transition.tell (.event (.evaluationFailed origin e.value)) s w
  · simpa [Session.conclude, ok] using
      Transition.tell (.event (.evaluationCompleted origin e.duration)) s w

theorem evaluateSource (hF : F.Confined) (source origin : Text) :
    Preserves F P (Session.evaluateSource F source origin) := by
  refine .session fun s w st holds => ?_
  cases isolate : s.isolate with
  | none => exact Preserves.raise _ st holds
  | some i =>
    obtain ⟨outcome, core, h, w', e, _, t⟩ := evaluateIn_spec hF st isolate source
    have kept := inv.move st holds t fun no => by rw [isolate] at no; cases no
    simp only [Step.bind_apply, e]
    cases outcome with
    | error f => exact ⟨st.transition t, kept⟩
    | ok r => exact inv.conclude origin r (st.transition t) kept

theorem evaluateFile (hF : F.Confined) (path : Text) : Preserves F P (Session.evaluateFile F path) :=
  .session fun s _ st holds => Preserves.bind
    (inv.act fun _ w => ⟨_, .read (Source.read_served (reading s.settings) path w)⟩)
    (fun source => inv.evaluateSource hF source path) st holds

theorem sandbox (hF : F.Confined) (source : Datum) :
    Preserves F P (Step.act (Sandbox.evaluate F source)) := by
  refine inv.act fun s w => ?_
  obtain ⟨r, request, served, _⟩ := Sandbox.evaluate_spec hF source w
  exact ⟨r, .requested request served⟩

theorem sandboxCall (hF : F.Confined) (source : Datum) :
    Preserves F P (Step.act (Sandbox.call F source)) := by
  refine inv.act fun s w => ?_
  obtain ⟨r, request, served, _⟩ := Sandbox.evaluate_spec hF source w
  rw [← Action.bind_pure_snd w _ Evaluation.display] at served
  exact ⟨r, .requested request served⟩

theorem callByName (hF : F.Confined) (name : Text) (arguments : List Text) :
    Preserves F P (Session.callByName F name arguments) := by
  refine .session fun s w st holds => ?_
  cases found : (functions F s.settings).find? (·.1 = name) with
  | none => exact Preserves.raise _ st holds
  | some p =>
    refine inv.act (fun _ w => ?_) st holds
    obtain ⟨c, call, served⟩ := function_served hF (List.mem_of_find?_eq_some found) arguments w
    exact ⟨c, .called (.single call) served⟩

theorem within (hF : F.Confined) {x : Step ι α} (hx : Preserves F P x) :
    Preserves F P (Session.within F x) := by
  refine .bind (inv.opening hF) fun _ => .bind hx.attempt fun ended =>
    .bind (inv.tearDown hF) fun _ => ?_
  cases ended with
  | ok a => exact .pure a
  | error f => exact .raise f

omit inv in
theorem endWith (fault : Option Fault) : Preserves F P (Session.endWith fault) := by
  cases fault with
  | none => exact .pure ()
  | some f => exact .raise f

omit inv

mutual

theorem perform (inv : Invariant F P) (hF : F.Confined) :
    ∀ o : Operation, Preserves F P (Session.perform F o)
  | .start => inv.opening hF
  | .evaluateSource source origin => (inv.evaluateSource hF source origin).discard
  | .evaluateFile path => (inv.evaluateFile hF path).discard
  | .sandbox source => (inv.sandboxCall hF source).discard
  | .evaluateSandbox source => (inv.sandbox hF source).discard
  | .call name arguments => (inv.callByName hF name arguments).discard
  | .tearDown => inv.tearDown hF
  | .within body fault =>
    inv.within hF (.bind (Invariant.performAll inv hF body) fun _ => endWith fault)
  | .trying body => (Invariant.performAll inv hF body).attempt.discard

theorem performAll (inv : Invariant F P) (hF : F.Confined) :
    ∀ body : List Operation, Preserves F P (Session.performAll F body)
  | [] => .pure ()
  | o :: rest => .bind (Invariant.perform inv hF o) fun _ => Invariant.performAll inv hF rest

end

/-- An invariant holds between any two steps of a run. -/
theorem passes (inv : Invariant F P) (hF : F.Confined) {operations : List Operation} (p : Passes F operations s w s' w')
    (st : Stage F s w) (holds : P s w) : Stage F s' w' ∧ P s' w' := by
  induction p with
  | step o _ _ _ => exact inv.perform hF o st holds
  | @later o _ _ _ _ _ _ ih =>
    obtain ⟨st', holds'⟩ := inv.perform hF o st holds
    exact ih st' holds'
  | opened _ _ _ _ _ => exact inv.opening hF st holds
  | within _ ih =>
    obtain ⟨st', holds'⟩ := inv.opening hF st holds
    exact ih st' holds'
  | trying _ ih => exact ih st holds

end Invariant

end ScriptHost.Session
