/-
What a session can do, said once: `Transition` lists every way in which a session and its world can move,
with the history of the move, and `Stage` the three situations a session can be in. Every move keeps the
stages. The operations of a session are taken apart into moves, each with what it comes to, so that
everything else about runs of a session follows from the list of moves.
-/
import ScriptHost.Proofs.Session.Functions

namespace ScriptHost.Session

open History

variable {ι : Type}

/-- The names of the functions that are bound into the isolate of a session. -/
def functionNames : List Text := ["print", "sandbox", "readfile"]

theorem purpose_ne : Sandbox.purpose ≠ purpose := by decide

/-- The record of the isolate of a session. -/
def record (sources : List Text) (closed : Bool) : IsolateRecord where
  purpose := purpose
  functions := some functionNames
  sources := sources
  closed := closed
  releases := if closed then 1 else 0

/-- Records of sandboxes that are closed. -/
def Sandboxes (rs : List IsolateRecord) : Prop := ∀ r ∈ rs, ∃ t, r = Sandbox.record t

/-- Where among all isolates that of a session is: between sandboxes that were made before and after it. -/
structure Holds (w : World) (place : Nat) (sources : List Text) (closed : Bool) : Prop where
  split : ∃ before after, w.isolates = before ++ record sources closed :: after ∧
    place = before.length ∧ Sandboxes before ∧ Sandboxes after

/-- The situations of a session: not yet open, open with its isolate, and closed for good. -/
inductive Stage (F : Factory ι) (s : Session ι) (w : World) : Prop
  | fresh (isolate : s.isolate = none) (kept : s.tornDown = false) (rest : Sandboxes w.isolates)
  | running (i : Isolate ι) (sources : List Text) (isolate : s.isolate = some i)
      (kept : s.tornDown = false) (bound : i.functions = functions F s.settings)
      (holds : Holds w i.place sources false)
  | past (isolate : s.isolate = none) (kept : s.tornDown = true)
      (rest : Sandboxes w.isolates ∨ ∃ place sources, Holds w place sources true)

/-! ## Moves -/

/-- What a session and its world can become in one move, with the history of the move. -/
inductive Transition (F : Factory ι) (s : Session ι) (w : World) : History → Session ι → World → Prop
  /-- Functions of the host are called. -/
  | called {h : History} {w' : World} (calls : Calls w.isolates.length h) (served : w.Served h w') :
      Transition F s w h s w'
  /-- A sandbox is asked to evaluate a source. -/
  | requested {t : Text} {h : History} {w' : World} (request : Request w.isolates.length t h)
      (served : w.Served h w') : Transition F s w h s w'
  /-- A file is read. -/
  | read {path : Text} {w' : World} (served : w.Served [.reading path] w') :
      Transition F s w [.reading path] s w'
  /-- The isolate of the session cannot be made. -/
  | refused {h : History} {f : Fault} {w' : World} (isolate : s.isolate = none)
      (kept : s.tornDown = false) (calls : Calls w.isolates.length h)
      (served : w.Served (.asked purpose (some functionNames) :: (h ++ [.refused f])) w') :
      Transition F s w (.asked purpose (some functionNames) :: (h ++ [.refused f])) s w'
  /-- The isolate of the session is made. -/
  | opened {h : History} {core : ι} {w' : World} (isolate : s.isolate = none)
      (kept : s.tornDown = false) (calls : Calls w.isolates.length h)
      (grew : w.Grew (.asked purpose (some functionNames) ::
        (h ++ [.made (w.isolates.length + History.made h) purpose (some functionNames)])) w')
      (isolates : w'.isolates = w.isolates ++ h.sandboxes ++ [record [] false]) :
      Transition F s w (.asked purpose (some functionNames) ::
          (h ++ [.made (w.isolates.length + History.made h) purpose (some functionNames)]))
        { s with
          isolate := some
            ⟨w.isolates.length + History.made h, purpose, functions F s.settings, core⟩ } w'
  /-- A source is given to the isolate of the session. -/
  | evaluated {i : Isolate ι} {source : Text} {h : History} {outcome : Except Fault Evaluation}
      {core : ι} {w' : World} {before after : List IsolateRecord} {sources : List Text}
      (isolate : s.isolate = some i) (place : i.place = before.length)
      (isolates : w.isolates = before ++ record sources false :: after)
      (calls : Calls w.isolates.length h)
      (grew : w.Grew (.given i.place source :: (h ++ [.gave i.place outcome])) w')
      (isolates' : w'.isolates =
        before ++ record (sources ++ [source]) false :: (after ++ h.sandboxes)) :
      Transition F s w (.given i.place source :: (h ++ [.gave i.place outcome]))
        { s with isolate := some { i with core } } w'
  /-- The isolate of the session is closed. -/
  | closed {i : Isolate ι} {h : History} {released : Except Fault Unit} {w' : World}
      {before after : List IsolateRecord} {sources : List Text} (isolate : s.isolate = some i)
      (place : i.place = before.length)
      (isolates : w.isolates = before ++ record sources false :: after)
      (calls : Calls w.isolates.length h)
      (grew : w.Grew (.closed i.place :: (h ++ [.released i.place released])) w')
      (isolates' : w'.isolates = before ++ record sources true :: (after ++ h.sandboxes)) :
      Transition F s w (.closed i.place :: (h ++ [.released i.place released]))
        { s with isolate := none, tornDown := true } w'
  /-- A session without an isolate is closed. -/
  | ended (isolate : s.isolate = none) :
      Transition F s w [] { s with isolate := none, tornDown := true } w

/-- Moves one after the other. -/
inductive Path (F : Factory ι) (s : Session ι) (w : World) : History → Session ι → World → Prop
  | none : Path F s w [] s w
  | more {h g : History} {s' s'' : Session ι} {w' w'' : World} (before : Path F s w h s' w')
      (move : Transition F s' w' g s'' w'') : Path F s w (h ++ g) s'' w''

variable {F : Factory ι} {s s' s'' : Session ι} {w w' w'' : World} {h g : History}

theorem Transition.path (t : Transition F s w h s' w') : Path F s w h s' w' := .more .none t

theorem Path.trans (p : Path F s w h s' w') (q : Path F s' w' g s'' w'') :
    Path F s w (h ++ g) s'' w'' := by
  induction q with
  | none => simpa using p
  | more _ move ih =>
    rw [← List.append_assoc]
    exact .more ih move

theorem Transition.grew (t : Transition F s w h s' w') : w.Grew h w' := by
  cases t with
  | called _ served => exact served.toGrew
  | requested _ served => exact served.toGrew
  | read served => exact served.toGrew
  | refused _ _ _ served => exact served.toGrew
  | opened _ _ _ grew _ => exact grew
  | evaluated _ _ _ _ grew _ => exact grew
  | closed _ _ _ _ grew _ => exact grew
  | ended _ => exact .refl _

theorem Path.grew (p : Path F s w h s' w') : w.Grew h w' := by
  induction p with
  | none => exact .refl _
  | more _ move ih => exact ih.trans move.grew

theorem Transition.settings (t : Transition F s w h s' w') : s'.settings = s.settings := by
  cases t <;> rfl

theorem Path.settings (p : Path F s w h s' w') : s'.settings = s.settings := by
  induction p with
  | none => rfl
  | more _ move ih => exact move.settings.trans ih

/-! ## Stages are kept -/

theorem stage_new (settings : Settings) {w : World} (new : w.isolates = []) :
    Stage F { settings } w :=
  .fresh rfl rfl (by rw [new]; intro r hr; cases hr)

theorem sandboxes_all (h : History) : Sandboxes h.sandboxes := fun _ hr => mem_sandboxes hr

theorem Sandboxes.append {rs qs : List IsolateRecord} (a : Sandboxes rs) (b : Sandboxes qs) :
    Sandboxes (rs ++ qs) := by
  intro r hr
  rcases List.mem_append.1 hr with hr | hr
  · exact a r hr
  · exact b r hr

theorem Holds.append {place : Nat} {sources : List Text} {closed : Bool}
    (a : Holds w place sources closed) {rs : List IsolateRecord} (hw : w'.isolates = w.isolates ++ rs)
    (hr : Sandboxes rs) : Holds w' place sources closed := by
  obtain ⟨before, after, e, p, b, c⟩ := a.split
  exact ⟨before, after ++ rs, by simp [hw, e], p, b, c.append hr⟩

/-- What holds of the record of the session's isolate and of those of closed sandboxes holds of all. -/
theorem Holds.forall {place : Nat} {sources : List Text} {closed : Bool}
    (a : Holds w place sources closed) {P : IsolateRecord → Prop} (own : P (record sources closed))
    (rest : ∀ t, P (Sandbox.record t)) : ∀ r ∈ w.isolates, P r := by
  obtain ⟨before, after, e, _, b, c⟩ := a.split
  intro r hr
  rw [e, List.mem_append, List.mem_cons] at hr
  rcases hr with hr | rfl | hr
  · obtain ⟨t, rfl⟩ := b r hr
    exact rest t
  · exact own
  · obtain ⟨t, rfl⟩ := c r hr
    exact rest t

theorem Stage.served (st : Stage F s w) (hs : w.Served h w') : Stage F s w' := by
  have hr := sandboxes_all h
  cases st with
  | fresh isolate kept rest => exact .fresh isolate kept (hs.isolates ▸ rest.append hr)
  | running i sources isolate kept bound holds =>
    exact .running i sources isolate kept bound (holds.append hs.isolates hr)
  | past isolate kept rest =>
    refine .past isolate kept ?_
    rcases rest with rest | ⟨place, sources, holds⟩
    · exact .inl (hs.isolates ▸ rest.append hr)
    · exact .inr ⟨place, sources, holds.append hs.isolates hr⟩

/-- In every stage the isolates are sandboxes, but for at most one of the session's own. -/
theorem Stage.records (st : Stage F s w) :
    Sandboxes w.isolates ∨ ∃ place sources closed, Holds w place sources closed := by
  cases st with
  | fresh _ _ rest => exact .inl rest
  | running _ _ _ _ _ holds => exact .inr ⟨_, _, _, holds⟩
  | past _ _ rest =>
    rcases rest with rest | ⟨_, _, holds⟩
    · exact .inl rest
    · exact .inr ⟨_, _, _, holds⟩

/-- An isolate of a session has the record of one that is open, among all isolates. -/
theorem Stage.isolate {i : Isolate ι} (st : Stage F s w) (isolate : s.isolate = some i) :
    ∃ before after sources, w.isolates = before ++ record sources false :: after ∧
      i.place = before.length ∧ i.functions = functions F s.settings := by
  cases st with
  | fresh no => rw [isolate] at no; cases no
  | past no => rw [isolate] at no; cases no
  | running j sources isolate' _ bound holds =>
    rw [isolate] at isolate'
    cases isolate'
    obtain ⟨before, after, e, p, _, _⟩ := holds.split
    exact ⟨before, after, sources, e, p, bound⟩

/-- The isolate of a session is open. -/
theorem Stage.isClosed {i : Isolate ι} (st : Stage F s w) (isolate : s.isolate = some i) :
    i.isClosed w = false := by
  obtain ⟨before, after, sources, isolates, place, _⟩ := st.isolate isolate
  rw [Isolate.isClosed_eq (r := record sources false)]
  · rfl
  · simp [isolates, place]

/-- The records around that of a session are sandboxes. -/
theorem Stage.around {i : Isolate ι} {before after : List IsolateRecord} {sources : List Text}
    (st : Stage F s w) (isolate : s.isolate = some i) (place : i.place = before.length)
    (isolates : w.isolates = before ++ record sources false :: after) :
    Sandboxes before ∧ Sandboxes after := by
  cases st with
  | fresh no => rw [isolate] at no; cases no
  | past no => rw [isolate] at no; cases no
  | running j sources' isolate' _ _ holds =>
    rw [isolate] at isolate'
    cases isolate'
    obtain ⟨before', after', e, p, b, c⟩ := holds.split
    have := List.append_inj (isolates.symm.trans e) (place.symm.trans p)
    obtain ⟨rfl, this⟩ := this
    cases this
    exact ⟨b, c⟩

theorem Stage.transition (st : Stage F s w) (t : Transition F s w h s' w') : Stage F s' w' := by
  cases t with
  | called _ served => exact st.served served
  | requested _ served => exact st.served served
  | read served => exact st.served served
  | refused _ _ _ served => exact st.served served
  | @opened h core _ isolate kept calls _ isolates =>
    cases st with
    | fresh _ _ rest =>
      refine .running _ [] rfl kept rfl ⟨_, [], isolates, ?_, rest.append (sandboxes_all _), ?_⟩
      · simp [calls.length_sandboxes]
      · intro r hr; cases hr
    | running _ _ yes => rw [isolate] at yes; cases yes
    | past _ no => rw [kept] at no; cases no
  | @evaluated i source h _ core _ before after sources isolate place isolates _ _ isolates' =>
    obtain ⟨b, c⟩ := st.around isolate place isolates
    cases st with
    | fresh no => rw [isolate] at no; cases no
    | past no => rw [isolate] at no; cases no
    | running j _ isolate' kept bound _ =>
      rw [isolate] at isolate'
      cases isolate'
      exact .running _ (sources ++ [source]) rfl kept bound
        ⟨before, _, isolates', place, b, c.append (sandboxes_all _)⟩
  | @closed i h _ _ before after sources isolate place isolates _ _ isolates' =>
    obtain ⟨b, c⟩ := st.around isolate place isolates
    exact .past rfl rfl (.inr ⟨i.place, sources,
      ⟨before, _, isolates', place, b, c.append (sandboxes_all _)⟩⟩)
  | ended isolate =>
    cases st with
    | fresh _ _ rest => exact .past rfl rfl (.inl rest)
    | running _ _ yes => rw [isolate] at yes; cases yes
    | past _ _ rest => exact .past rfl rfl rest

theorem Stage.path (st : Stage F s w) (p : Path F s w h s' w') : Stage F s' w' := by
  induction p with
  | none => exact st
  | more _ move ih => exact ih.transition move

end ScriptHost.Session
