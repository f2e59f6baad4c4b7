/-
The lifecycle of the isolates of a session, over every sequence of operations with every fault: one
isolate of its own at most, sandboxes closed between the steps, nothing let go of twice or while it is
open, and nothing of its own made or used after the session was closed.
-/
import ScriptHost.Proofs.Session.Operation

namespace ScriptHost

/-- The records of the isolates that sessions made for themselves. -/
def World.hosts (w : World) : List IsolateRecord := w.isolates.filter (·.purpose = Session.purpose)

namespace Session

open History

variable {ι : Type} {F : Factory ι} {s s' : Session ι} {w w' : World} {h : History}

/-- What holds of a session and the isolates made for it between any two steps. -/
structure Lifecycle (s : Session ι) (w : World) : Prop where
  /-- Each isolate is the session's own or a sandbox. -/
  kinds : ∀ r ∈ w.isolates, r.purpose = purpose ∨ r.purpose = Sandbox.purpose
  single : w.hosts.length ≤ 1
  isOpen : s.isOpen = true ↔ ∃ r ∈ w.hosts, r.closed = false
  sandboxes : ∀ r ∈ w.isolates, r.purpose = Sandbox.purpose → r.closed = true
  releases : ∀ r ∈ w.isolates, r.releases = if r.closed then 1 else 0
  tornDown : s.tornDown = true → ∀ r ∈ w.isolates, r.closed = true

/-! ## Stages and records -/

theorem Sandboxes.hosts {rs : List IsolateRecord} (h : Sandboxes rs) :
    rs.filter (·.purpose = purpose) = [] := by
  refine List.filter_eq_nil_iff.2 fun r hr => ?_
  obtain ⟨t, rfl⟩ := h r hr
  rw [decide_eq_true_iff]
  exact purpose_ne

theorem Holds.hosts {place : Nat} {sources : List Text} {closed : Bool}
    (a : Holds w place sources closed) : w.hosts = [record sources closed] := by
  obtain ⟨before, after, e, _, b, c⟩ := a.split
  rw [World.hosts, e, List.filter_append, b.hosts, List.filter_cons_of_pos (by rfl), c.hosts]
  rfl

theorem Sandboxes.lifecycle (rest : Sandboxes w.isolates) (isolate : s.isolate = none) :
    Lifecycle s w := by
  have each : ∀ r ∈ w.isolates, r.purpose = Sandbox.purpose ∧ r.closed = true ∧ r.releases = 1 := by
    intro r hr
    obtain ⟨t, rfl⟩ := rest r hr
    exact ⟨rfl, rfl, rfl⟩
  have hosts : w.hosts = [] := rest.hosts
  refine ⟨fun r hr => .inr (each r hr).1, by simp [hosts], ?_, fun r hr _ => (each r hr).2.1, ?_,
    fun _ r hr => (each r hr).2.1⟩
  · simp [isOpen, isolate, hosts]
  · intro r hr
    rw [(each r hr).2.1, (each r hr).2.2]
    rfl

theorem Holds.lifecycle {place : Nat} {sources : List Text} {closed : Bool}
    (a : Holds w place sources closed) (isOpen : s.isOpen = !closed)
    (kept : s.tornDown = true → closed = true) : Lifecycle s w where
  kinds := a.forall (.inl rfl) fun _ => .inr rfl
  single := by rw [a.hosts]; exact Nat.le_refl 1
  isOpen := by rw [a.hosts, isOpen]; simp [record]
  sandboxes := a.forall (fun same => absurd same.symm purpose_ne) fun _ _ => rfl
  releases := a.forall rfl fun _ => rfl
  tornDown yes := a.forall (kept yes) fun _ => rfl

theorem Stage.lifecycle (st : Stage F s w) : Lifecycle s w := by
  cases st with
  | fresh isolate _ rest => exact rest.lifecycle isolate
  | running i sources isolate kept _ holds =>
    exact holds.lifecycle (by simp [isOpen, isolate]) (by simp [kept])
  | past isolate kept rest =>
    rcases rest with rest | ⟨place, sources, holds⟩
    · exact rest.lifecycle isolate
    · exact holds.lifecycle (by simp [isOpen, isolate]) fun _ => rfl

/-! ## After the end -/

theorem served_hosts (hs : w.Served h w') : w'.hosts = w.hosts := by
  rw [World.hosts, hs.isolates, List.filter_append, (sandboxes_all h).hosts, List.append_nil]
  rfl

/-- A closed session has no isolate of its own. -/
theorem Stage.isolate_none (st : Stage F s w) (torn : s.tornDown = true) : s.isolate = none := by
  cases st with
  | fresh _ kept _ => rw [torn] at kept; cases kept
  | running _ _ _ kept _ _ => rw [torn] at kept; cases kept
  | past isolate _ _ => exact isolate

/-- A closed session stays closed in every move, and no isolate of its own is made or changed. -/
theorem Transition.torn (st : Stage F s w) (torn : s.tornDown = true) (t : Transition F s w h s' w') :
    s'.tornDown = true ∧ w'.hosts = w.hosts := by
  have no := st.isolate_none torn
  cases t with
  | called _ served => exact ⟨torn, served_hosts served⟩
  | requested _ served => exact ⟨torn, served_hosts served⟩
  | read served => exact ⟨torn, served_hosts served⟩
  | refused _ kept => rw [torn] at kept; cases kept
  | opened _ kept => rw [torn] at kept; cases kept
  | evaluated isolate => rw [no] at isolate; cases isolate
  | closed isolate => rw [no] at isolate; cases isolate
  | ended _ => exact ⟨rfl, rfl⟩

theorem Path.torn (st : Stage F s w) (torn : s.tornDown = true) (p : Path F s w h s' w') :
    s'.tornDown = true ∧ w'.hosts = w.hosts := by
  induction p with
  | none => exact ⟨torn, rfl⟩
  | more before move ih =>
    obtain ⟨torn', same⟩ := ih
    obtain ⟨torn'', same'⟩ := move.torn (st.path before) torn'
    exact ⟨torn'', same'.trans same⟩

theorem tearDown_tornDown (s : Session ι) (w : World) : (tearDown F s w).1.2.tornDown = true := by
  cases isolate : s.isolate <;> simp [tearDown, isolate]

/-! ## All runs -/

/-- Between any two steps of any operations on a new session the lifecycle is kept. Closing the session
always counts, and after it was closed no operation makes, closes or uses an isolate of the session's
own, opens the session again or evaluates a source in it. -/
theorem passes_lifecycle (hF : F.Confined) (settings : Settings) {w : World} (new : w.isolates = [])
    {operations : List Operation} (passes : Passes F operations { settings } w s' w') :
    Lifecycle s' w' ∧ (tearDown F s' w').1.2.tornDown = true ∧
      (s'.tornDown = true →
        (start F s' w').1.1 = .error (.closed "host runtime has been torn down") ∧
        (∀ source origin, (evaluateSource F source origin s' w').1.1 =
          .error (.closed "host runtime is not initialized")) ∧
        ∀ more s'' w'', Passes F more s' w' s'' w'' →
          s''.tornDown = true ∧ s''.isOpen = false ∧ w''.hosts = w'.hosts) := by
  obtain ⟨h, p⟩ := passes.path hF (stage_new settings new)
  have st := (stage_new settings new).path p
  refine ⟨st.lifecycle, tearDown_tornDown s' w', fun torn => ⟨?_, ?_, ?_⟩⟩
  · simp [start, torn]
  · intro source origin
    simp [evaluateSource, st.isolate_none torn]
  · intro more s'' w'' later
    obtain ⟨g, q⟩ := later.path hF st
    obtain ⟨torn', same⟩ := q.torn st torn
    exact ⟨torn', by simp [isOpen, (st.path q).isolate_none torn'], same⟩

/-- An isolate that asks for a sandbox, ends with a fault, and with another when it is let go of. -/
def stubborn : Isolate.Scripted.Plot where
  scenes := [("ask", { calls := [("sandbox", ["1"])], raised := some (.value none) })]
  releaseFault := some (.running none)

theorem passes_lifecycle_stubborn : ∃ (s' : Session Unit) (w' : World),
    Passes (Isolate.Scripted.factory stubborn) [.within [.evaluateSource "ask" defaultOrigin] none]
      { settings := {} } World.blank s' w' ∧
    Lifecycle s' w' ∧ s'.tornDown = true ∧
    w'.isolates = [record [Bootstrap.bundled, "ask"] true, Sandbox.record "1"] := by
  have passes := Passes.step (F := Isolate.Scripted.factory stubborn)
    (.within [.evaluateSource "ask" defaultOrigin] none) [] { settings := {} }
    World.blank
  exact ⟨_, _, passes,
    (passes_lifecycle (Isolate.Scripted.confined stubborn) {} rfl passes).1, rfl, rfl⟩

end Session

end ScriptHost
