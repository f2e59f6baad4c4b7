/-
Actions that report no event of a kind. Such actions are closed under being put together; a confined isolate does
nothing but put together calls on its functions, and making, running and closing an isolate add two events of their
own at most. So what kinds of events a request for a sandbox can report is known from the factory, and reading a
source reports of that alone.
-/
import ScriptHost.Proofs.Isolate
import ScriptHost.Sandbox
import ScriptHost.Source

namespace ScriptHost

variable {p : Event → Bool}

/-- The events of a kind that were reported, the first first. -/
def World.those (p : Event → Bool) (w : World) : List Event := w.events.filter p

namespace World

variable (w : World)

theorem those_tell (p : Event → Bool) (e : Event) :
    (w.tell (.event e)).those p = w.those p ++ if p e then [e] else [] := by
  unfold those events
  rw [tell_notices, List.filterMap_append, List.filter_append]
  cases among : p e with
  | true => simp [among]
  | false => simp [among]

theorem those_tell_other {e : Event} (other : p e = false) : (w.tell (.event e)).those p = w.those p := by
  rw [those_tell, other]
  exact List.append_nil _

end World

namespace Action

variable {α β : Type}

/-- An action that reports no event of a kind, whatever it ends with. -/
def Spares (p : Event → Bool) (x : Action α) : Prop := ∀ w : World, (x w).2.those p = w.those p

namespace Spares

theorem pure (a : α) : Spares p (Pure.pure a : Action α) := fun _ => rfl

theorem raise (f : Fault) : Spares p (Action.raise f : Action α) := fun _ => rfl

theorem bind {x : Action α} {f : α → Action β} (hx : Spares p x) (hf : ∀ a, Spares p (f a)) :
    Spares p (x >>= f) := by
  intro w
  have kept := hx w
  rw [Action.bind_apply]
  generalize x w = r at kept ⊢
  obtain ⟨e | a, v⟩ := r
  · exact kept
  · exact (hf a v).trans kept

theorem attempt {x : Action α} (hx : Spares p x) : Spares p (Action.attempt x) := fun w => hx w

theorem ofExcept (r : Except Fault α) : Spares p (Action.ofExcept r) := fun _ => rfl

theorem look {f : World → α} : Spares p (Action.look f) := fun _ => rfl

theorem occur (o : Occurrence) : Spares p (Action.occur o) := fun _ => rfl

theorem writeLine (t : Text) : Spares p (Action.writeLine t) := fun _ => rfl

theorem report {e : Event} (other : p e = false) : Spares p (Action.report e) :=
  fun w => w.those_tell_other other

end Spares

end Action

open ScriptHost.Action

/-! ## Factories -/

/-- Functions that lead from every world to one that `R` relates to it. -/
def Functions.Along (R : World → World → Prop) (functions : Functions) : Prop :=
  ∀ f ∈ functions, ∀ (arguments : List Text) (w : World), R w (f.2 arguments w).2

/-- What is put together of calls on such functions leads to no other worlds, where nothing comes of records of the
isolate's own. -/
theorem Acts.along {functions : Functions} {R : World → World → Prop} {v w : World} (acts : Acts functions v w)
    (along : functions.Along R) (refl : ∀ w, R w w) (trans : ∀ {u v w}, R u v → R v w → R u w)
    (keep : ∀ w calls refusals, R w { w with calls, refusals }) : R v w := by
  induction acts with
  | rest => exact refl _
  | call _ bound arguments ih => exact trans ih (along _ bound arguments _)
  | keep _ calls refusals ih => exact trans ih (keep _ calls refusals)

/-- Functions that report no event of a kind. -/
def Functions.Spare (p : Event → Bool) (functions : Functions) : Prop :=
  functions.Along fun v w => w.those p = v.those p

theorem Functions.spare_nil : Functions.Spare p [] := by
  intro f none
  cases none

theorem Acts.those {functions : Functions} {v w : World} (acts : Acts functions v w)
    (spare : functions.Spare p) : w.those p = v.those p :=
  acts.along spare (fun _ => rfl) (fun a b => b.trans a) fun _ _ _ => rfl

namespace Factory

variable {ι : Type} {F : Factory ι} {functions : Functions}

/-- A factory that reports no event of a kind where it makes, runs and lets go of isolates with these functions. -/
structure Spares (F : Factory ι) (p : Event → Bool) (functions : Functions) : Prop where
  make : Action.Spares p (F.make functions)
  run : ∀ (source : Text) (core : ι) (w : World), (F.run functions source core w).2.those p = w.those p
  release : ∀ core : ι, Action.Spares p (F.release functions core)

theorem Confined.spares (hF : F.Confined) (spare : functions.Spare p) : F.Spares p functions where
  make w := (hF.make functions w).those spare
  run source core w := (hF.run functions source core w).those spare
  release core w := (hF.release functions core w).those spare

end Factory

/-! ## Isolates -/

namespace Isolate

variable {ι : Type} {F : Factory ι} {i : Isolate ι}

theorem spares_create {functions : Option Functions} (spares : F.Spares p (functions.getD []))
    (created : ∀ id purpose, p (.isolateCreated id purpose) = false) (purpose : Text) :
    Spares p (create F purpose functions) := by
  unfold create
  refine .bind (.occur _) fun _ => .bind (.attempt spares.make) fun made => ?_
  cases made with
  | error f => exact .bind (.occur _) fun _ => .raise f
  | ok core =>
    refine .bind .look fun place => .bind (fun _ => rfl) fun _ => .bind (.occur _) fun _ => ?_
    dsimp only
    split
    · exact .bind (.report (created _ _)) fun _ => .pure _
    · exact .pure _

theorem spares_evaluate (spares : F.Spares p i.functions) (source : Text) (w : World) :
    (i.evaluate F source w).2.those p = w.those p := by
  unfold evaluate
  split
  · rfl
  · exact spares.run ..

/-- An isolate that evaluated a source is the same but for what it runs on. -/
theorem evaluate_same (i : Isolate ι) (source : Text) (w : World) :
    ∃ core, (i.evaluate F source w).1.2 = { i with core } := by
  unfold evaluate
  split
  · exact ⟨i.core, rfl⟩
  · exact ⟨_, rfl⟩

theorem spares_close (spares : F.Spares p i.functions) (destroyed : p (.isolateDestroyed i.id i.purpose) = false) :
    Spares p (i.close F) := by
  unfold close
  refine .bind .look fun closed => ?_
  split
  · exact .pure _
  · refine .bind (fun _ => rfl) fun _ => .bind (.occur _) fun _ => .bind (.attempt ?_) fun released =>
      .bind (.occur _) fun _ => .bind (.report destroyed) fun _ => .ofExcept _
    unfold release
    exact .bind (fun _ => rfl) fun _ => spares.release _

theorem spares_evaluateLast (spares : F.Spares p i.functions)
    (destroyed : p (.isolateDestroyed i.id i.purpose) = false) (source : Text) :
    Spares p (i.evaluateLast F source) := by
  intro w
  have ran := spares_evaluate spares source w
  -- what is closed is the isolate after the evaluation, which is the same but for what it runs on
  obtain ⟨core, same⟩ := evaluate_same (F := F) i source w
  unfold evaluateLast
  generalize i.evaluate F source w = r at ran same ⊢
  obtain ⟨⟨outcome, j⟩, v⟩ := r
  obtain rfl : j = { i with core } := same
  have shut := spares_close (F := F) (i := { i with core }) spares destroyed v
  dsimp only
  generalize close F { i with core } v = r at shut ⊢
  obtain ⟨f | u, v'⟩ := r
  · exact shut.trans ran
  · exact shut.trans ran

/-- An isolate that was just made, in a world that its factory left, has its place after all others there. -/
theorem create_made {purpose : Text} {functions : Option Functions} {i : Isolate ι} {v w : World}
    (created : create F purpose functions v = (.ok i, w)) :
    ∃ core u, F.make (functions.getD []) (v.happen (.asked purpose (functions.map (·.map (·.1))))) = (.ok core, u) ∧
      i = ⟨u.isolates.length, purpose, functions.getD [], core⟩ ∧
      w = entered F i (functions.map (·.map (·.1))) u := by
  rcases makes : F.make (functions.getD []) (v.happen (.asked purpose (functions.map (·.map (·.1))))) with
    ⟨f | core, u⟩
  · rw [create_of_error purpose functions makes] at created
    cases created
  · rw [create_of_ok purpose functions makes] at created
    cases created
    exact ⟨core, u, makes, rfl, rfl⟩

end Isolate

/-! ## Requests for a sandbox -/

/-- Before it is answered, a request for a sandbox reports of its isolate at most. -/
theorem Sandbox.those_evaluateUnreported {ι : Type} {F : Factory ι} (spares : F.Spares p [])
    (created : ∀ id purpose, p (.isolateCreated id purpose) = false) {w : World}
    (destroyed : ∀ i v, Isolate.create F purpose none w = (.ok i, v) → p (.isolateDestroyed i.id i.purpose) = false)
    (source : Text) : (evaluateUnreported F source w).2.those p = w.those p := by
  have making : (Isolate.create F purpose none w).2.those p = w.those p :=
    Isolate.spares_create spares created purpose w
  rw [evaluateUnreported, Action.bind_apply, Action.attempt_apply]
  rcases made : Isolate.create F purpose none w with ⟨f | i, v⟩
  · rw [made] at making
    exact making
  · rw [made] at making
    -- the isolate has no functions
    have bare : i.functions = [] := by
      obtain ⟨core, u, _, rfl, _⟩ := Isolate.create_made made
      rfl
    have last : Spares p (evaluateIn F i source) := by
      unfold evaluateIn
      refine .bind (Isolate.spares_evaluateLast (by rw [bare]; exact spares) (destroyed i v made) source) fun r => ?_
      cases r with
      | ok e => exact .pure _
      | error f => exact .pure _
    exact (last v).trans making

/-- A request for a sandbox reports of its isolate at most, and of its failure. -/
theorem Sandbox.those_evaluate {ι : Type} {F : Factory ι} (spares : F.Spares p [])
    (created : ∀ id purpose, p (.isolateCreated id purpose) = false)
    (failed : ∀ result source, p (.sandboxFailed result source) = false) {source : Datum} {w : World}
    (destroyed : ∀ i v, Isolate.create F purpose none (w.happen (.requested source.shown)) = (.ok i, v) →
      p (.isolateDestroyed i.id i.purpose) = false) :
    (evaluate F source w).2.those p = w.those p := by
  have before := those_evaluateUnreported spares created destroyed source.shown
  have after : ∀ r, Spares p (do
      Action.occur (.answered r)
      let e ← Action.ofExcept r
      if !e.ok then Action.report (.sandboxFailed e.value source.shown)
      return e : Action Evaluation) := by
    intro r
    refine .bind (.occur _) fun _ => .bind (.ofExcept r) fun e => ?_
    split
    · exact .bind (.report (failed _ _)) fun _ => .pure _
    · exact .pure _
  exact (after _ _).trans before

/-! ## Reading sources -/

/-- Whether an event tells of reading a source. -/
def Event.reads : Event → Bool
  | readStarted .. | readCompleted .. | readShort .. | readFailed .. => true
  | _ => false

namespace Source

theorem spares_decoded (others : ∀ e : Event, e.reads = true → p e = false) (how : Reading) (codecs : Codecs)
    (path : Text) (bytes : Bytes) : Spares p (decoded how codecs path bytes) := by
  unfold decoded
  split
  · exact .pure _
  · exact .bind (.report (others _ rfl)) fun _ => .raise _
  · exact .raise _

/-- Reading a source reports of nothing else. -/
theorem spares_read (others : ∀ e : Event, e.reads = true → p e = false) (how : Reading) (path : Text) :
    Spares p (read how path) := by
  unfold read
  refine .bind (.occur _) fun _ => .bind (.report (others _ rfl)) fun _ => .bind .look fun found => ?_
  unfold taken
  split
  · exact .bind (.report (others _ rfl)) fun _ => .raise _
  · exact .raise _
  · split
    · exact .bind (.report (others _ rfl)) fun _ => .bind (.report (others _ rfl)) fun _ =>
        spares_decoded others how _ path _
    · exact .bind (.report (others _ rfl)) fun _ => spares_decoded others how _ path _

end Source

end ScriptHost
