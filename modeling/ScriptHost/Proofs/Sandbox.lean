/-
Requests for a sandbox, on a confined factory. Whatever making, running and letting go of the isolate end
with, a request leaves one of the two shapes of history, and one more record, of a sandbox that was given
the source alone and is closed; or no record, where no isolate was made. What a request is answered with
comes from the factory: where that makes and lets go of isolates without more ado, the answer is what
came of the source.
-/
import ScriptHost.Proofs.Isolate
import Mathlib.Tactic.Set

namespace ScriptHost

open History

/-- Changing the element behind a list. -/
theorem modify_append_cons {α : Type} (f : α → α) (x : α) (post : List α) :
    ∀ pre : List α, (pre ++ x :: post).modify pre.length f = pre ++ f x :: post
  | [] => rfl
  | _ :: pre => by simp [modify_append_cons f x post pre]

namespace Sandbox

variable {ι : Type} {F : Factory ι}

/-- The isolate of a sandbox. -/
def isolateAt (place : Nat) (core : ι) : Isolate ι := ⟨place, purpose, [], core⟩

/-- The history of a request, with what the factory did to make it so, in a world that shows `S` to the isolate. -/
inductive Course (F : Factory ι) (S : Senses) (n : Nat) (t : Text) : History → Prop
  | refused {u : World} {f : Fault} (made : (F.make [] u).1 = .error f) : Course F S n t
      [.requested t, .asked purpose none, .refused f, .answered (.ok (.ofFault f))]
  | served {u v w : World} {core core' : ι} {outcome : Except Fault Evaluation}
      {released : Except Fault Unit} (shown : u.upcoming = S) (made : (F.make [] u).1 = .ok core)
      (ran : (F.run [] t core v).1 = (outcome, core')) (left : (F.release [] core' w).1 = released) :
      Course F S n t
      [.requested t, .asked purpose none, .made n purpose none, .given n t, .gave n outcome, .closed n,
        .released n released, .answered (released.map fun _ => .ofOutcome outcome)]

theorem Course.request {S : Senses} {n : Nat} {t : Text} {h : History} (c : Course F S n t h) : Request n t h := by
  cases c with
  | refused => exact .refused _
  | served => exact .served _ _

/-- An isolate that was just made for a source evaluates it and is closed, whatever comes of either. -/
theorem evaluateIn_spec (hF : F.Confined) (core : ι) (t : Text) {w : World} {before : List IsolateRecord}
    (hw : w.isolates = before ++ [{ purpose := purpose, functions := none }]) :
    ∃ outcome released w', evaluateIn F (isolateAt before.length core) t w =
        (released.map fun _ => .ofOutcome outcome, w') ∧
      (∃ u v core', (F.run [] t core u).1 = (outcome, core') ∧ (F.release [] core' v).1 = released) ∧
      w.Grew [.given before.length t, .gave before.length outcome, .closed before.length,
        .released before.length released] w' ∧
      w'.isolates = before ++ [record t] := by
  set i : Isolate ι := isolateAt before.length core with hi
  -- the run of the source
  have hopen : i.isClosed w = false := by
    simp [Isolate.isClosed, World.isolate?, hw, hi, isolateAt]
  rcases hr : F.run [] t core (Isolate.receiving i t w) with ⟨⟨outcome, core'⟩, w₁⟩
  have a₁ : (Isolate.receiving i t w).Alike w₁ := by
    have := (hF.run [] t core (Isolate.receiving i t w)).alike
    rwa [hr] at this
  have hrun := Isolate.evaluate_of_open (F := F) hopen hr
  have hiso₁ : w₁.isolates = before ++ [{ purpose := purpose, functions := none, sources := [t] }] := by
    rw [a₁.isolates, Isolate.receiving, World.happen_isolates, World.updateIsolate_isolates, hw]
    exact modify_append_cons _ _ [] before
  -- closing the isolate
  set w₂ := w₁.happen (.gave i.place outcome) with hw₂
  set i' : Isolate ι := { i with core := core' } with hi'
  have hopen' : i'.isClosed w₂ = false := by
    simp [Isolate.isClosed, World.isolate?, hw₂, hiso₁, hi', hi, isolateAt]
  rcases hc : F.release [] core' (Isolate.closing i' w₂) with ⟨released, w₃⟩
  have a₃ : (Isolate.closing i' w₂).Alike w₃ := by
    have := (hF.release [] core' (Isolate.closing i' w₂)).alike
    rwa [hc] at this
  have hclose := Isolate.close_of_open (F := F) hopen' hc
  refine ⟨outcome, released, (w₃.happen (.released i'.place released)).tell
    (.event (.isolateDestroyed i'.id i'.purpose)), ?_,
    ⟨_, _, core', congrArg Prod.fst hr, congrArg Prod.fst hc⟩, ?_, ?_⟩
  · rw [evaluateIn, Action.bind_apply, Isolate.evaluateLast, hrun]
    simp only
    rw [hclose]
    cases released <;> cases outcome <;> rfl
  · refine ⟨?_, ?_, ?_, ?_⟩
    · exact a₃.files.trans a₁.files
    · simp [a₃.history, a₁.history, Isolate.closing, Isolate.receiving, hw₂, hi', hi, isolateAt]
    · exact a₃.output.trans a₁.output
    · exact a₃.senses.trans a₁.senses
  · rw [World.tell_isolates, World.happen_isolates, a₃.isolates]
    simp only [Isolate.closing, World.updateIsolate_isolates, World.happen_isolates, hw₂, hiso₁]
    show ((before ++ _ :: []).modify before.length _).modify before.length _ = _
    rw [modify_append_cons, modify_append_cons]
    rfl

/-- The evaluation of a source before it is reported. -/
theorem evaluateUnreported_spec (hF : F.Confined) (t : Text) (w : World) :
    ∃ answer r w', evaluateUnreported F t w = (answer, w') ∧ w.Served r w' ∧
      Course F w.upcoming w.isolates.length t (.requested t :: (r ++ [.answered answer])) := by
  set w₀ := w.happen (.asked purpose none) with hw₀
  rcases hm : F.make [] w₀ with ⟨made, w₁⟩
  have a : w₀.Alike w₁ := by
    have := (hF.make [] w₀).alike
    rwa [hm] at this
  have s₁ : w.Served [.asked purpose none] w₁ :=
    ((World.Served.refl w).happen rfl rfl).trans a.served
  cases made with
  | error f =>
    have hcreate := Isolate.create_of_error purpose none hm
    refine ⟨.ok (.ofFault f), _, _, ?_, s₁.happen (o := .refused f) rfl rfl,
      .refused (congrArg Prod.fst hm)⟩
    simp [evaluateUnreported, hcreate]
  | ok core =>
    have hcreate := Isolate.create_of_ok purpose none hm
    have hlen : w₁.isolates.length = w.isolates.length := by rw [a.isolates, hw₀, World.happen_isolates]
    set i : Isolate ι := isolateAt w₁.isolates.length core with hi
    obtain ⟨outcome, released, w₂, he, ⟨_, _, _, ran, left⟩, g, hiso⟩ := evaluateIn_spec hF core t
      (Isolate.entered_isolates (F := F) i none w₁)
    refine ⟨released.map fun _ => .ofOutcome outcome, _, w₂, ?_,
      ⟨(s₁.toGrew.trans (Isolate.entered_grew (F := F) i none w₁)).trans g, ?_⟩, ?_⟩
    · rw [evaluateUnreported, Action.bind_apply, Action.attempt_apply, hcreate]
      exact he
    · rw [hiso, s₁.isolates]
      simp [sandboxes]
    · rw [← hlen]
      exact .served (u := w₀) rfl (congrArg Prod.fst hm) ran left

/-- A request leaves its history and at most one more record, that of a closed sandbox. -/
theorem evaluate_course (hF : F.Confined) (source : Datum) (w : World) :
    ∃ r, Course F w.upcoming w.isolates.length source.shown r ∧ w.Served r (evaluate F source w).2 ∧
      r.getLast? = some (.answered (evaluate F source w).1) := by
  obtain ⟨answer, r, w', he, s, hr⟩ :=
    evaluateUnreported_spec hF source.shown (w.happen (.requested source.shown))
  have served : w.Served (.requested source.shown :: (r ++ [.answered answer]))
      (w'.happen (.answered answer)) :=
    (((World.Served.refl w).happen rfl rfl).trans s).happen rfl rfl
  have last : (Occurrence.requested source.shown :: (r ++ [.answered answer])).getLast? =
      some (.answered answer) := List.getLast?_concat (l := _ :: r)
  refine ⟨_, hr, ?_⟩
  cases answer with
  | error f => simpa [evaluate, he] using And.intro served last
  | ok e =>
    cases hk : e.ok
    · simpa [evaluate, he, hk] using And.intro (served.tell (.event (.sandboxFailed e.value source.shown))) last
    · simpa [evaluate, he, hk] using And.intro served last

theorem evaluate_spec (hF : F.Confined) (source : Datum) (w : World) :
    ∃ r, Request w.isolates.length source.shown r ∧ w.Served r (evaluate F source w).2 ∧
      r.getLast? = some (.answered (evaluate F source w).1) := by
  obtain ⟨r, course, rest⟩ := evaluate_course hF source w
  exact ⟨r, course.request, rest⟩

/-! ## Requests that nothing stands in the way of -/

/-- The history of a request whose isolate was made, came to an outcome and was let go of. -/
def smooth (n : Nat) (t : Text) (outcome : Except Fault Evaluation) : History :=
  [.requested t, .asked purpose none, .made n purpose none, .given n t, .gave n outcome, .closed n,
    .released n (.ok ()), .answered (.ok (.ofOutcome outcome))]

/-- A factory on which a source comes to one outcome in every isolate that was just made without functions and is
shown `S`. -/
def Settled (F : Factory ι) (S : Senses) (t : Text) (outcome : Except Fault Evaluation) : Prop :=
  ∀ u v core, u.upcoming = S → (F.make [] u).1 = .ok core → (F.run [] t core v).1.1 = outcome

theorem Course.eq_smooth {S : Senses} {n : Nat} {t : Text} {h : History} {outcome : Except Fault Evaluation}
    (quiet : F.Quiet []) (settled : Settled F S t outcome) (c : Course F S n t h) :
    h = smooth n t outcome := by
  cases c with
  | @refused u f made =>
    -- a factory that makes every isolate refuses none
    obtain ⟨core, e⟩ := quiet.make u
    rw [e] at made
    cases made
  | @served u v w core core' outcome' released shown made ran left =>
    have same : outcome' = outcome := by rw [← settled u v core shown made, ran]
    have done : released = .ok () := by rw [← left, quiet.release]
    rw [same, done]
    rfl

/-- Such a request is answered with the outcome of its source. -/
theorem evaluate_of_settled (hF : F.Confined) (quiet : F.Quiet []) {source : Datum}
    {outcome : Except Fault Evaluation} {w : World} (settled : Settled F w.upcoming source.shown outcome) :
    ∃ w', evaluate F source w = (.ok (.ofOutcome outcome), w') ∧
      w.Served (smooth w.isolates.length source.shown outcome) w' := by
  obtain ⟨r, course, served, last⟩ := evaluate_course hF source w
  obtain rfl := course.eq_smooth quiet settled
  refine ⟨_, Prod.ext ?_ rfl, served⟩
  have answered := Option.some.inj last
  injection answered with answered
  exact answered.symm

end Sandbox

end ScriptHost
