/-
What runs on twins end with when hosts answer alike: the same, up to the shift. A shift by nothing relates a machine
to itself alone, so what ends on the engine that gives up ends so on the engine of every greater depth.
-/
import ScriptHost.Proofs.Script.Steps
import ScriptHost.Proofs.Script.Twins.Evaluate

namespace ScriptHost.Script

variable {α β σ τ : Type}

/-- Hosts that answer alike and stay related while they do. -/
def Alike (R : σ → τ → Prop) (host : Host σ) (host' : Host τ) : Prop :=
  ∀ q v w, R v w → (host q v).1 = (host' q w).1 ∧ R (host q v).2 (host' q w).2

section Ends

variable {R : σ → τ → Prop} {host : Host σ} {host' : Host τ} {s : Shift}
  {f : α → β} {m n : Machine} {v v' : σ} {w : τ}

/-- What the first of two results ends with, the second one ends with as well. -/
theorem Result.Twins.ended {x : Result α} {y : Result β} (twins : x.Twins s f y) (alike : Alike R host host')
    {r : Except Value α} : ∀ {v : σ} {w : τ}, R v w → x.ended host v = (some r, m, v') →
      ∃ n w', y.ended host' w = (some (Run.Twins.ended s f r), n, w') ∧ m.Twin s n ∧ R v' w' := by
  induction twins with
  | value same twin =>
    intro v w related ended
    cases ended
    exact ⟨_, w, by rw [Result.ended, same]; rfl, twin, related⟩
  | thrown same twin =>
    intro v w related ended
    cases ended
    exact ⟨_, w, by rw [Result.ended, same]; rfl, twin, related⟩
  | spent => nofun
  | @ask q _ _ _ ih =>
    intro v w related ended
    obtain ⟨same, still⟩ := alike q v w related
    have next := ih (host q v).1 still ended
    rw [same] at next
    exact next

end Ends

/-! ## No shift -/

/-- The shift by nothing. -/
def Shift.still : Shift := ⟨0, 0, 0, 0⟩

namespace Shift

theorem map_still {f : α → α} (same : ∀ a, f a = a) (as : List α) : as.map f = as := by
  rw [show f = id from funext same, List.map_id]

theorem ref_still (r : Ref) : still.ref r = r := by
  unfold ref
  cases r.index.blt 17 || r.index.blt still.objects <;> rfl

theorem scopeRef_still (r : ScopeRef) : still.scopeRef r = r := by
  unfold scopeRef
  cases r.index.blt 1 || r.index.blt still.scopes <;> rfl

theorem refs_still : Option.map still.ref = id := by
  rw [show still.ref = id from funext ref_still, Option.map_id]

/-- A shift by nothing leaves values, -/
theorem value_still (v : Value) : still.value v = v := by
  cases v <;> simp only [value, ref_still]

theorem values_still : Option.map still.value = id := by
  rw [show still.value = id from funext value_still, Option.map_id]

theorem entry_still (e : Key × Slot) : still.entry e = e := by
  obtain ⟨k, _ | _⟩ := e <;> simp [entry, slot, value_still, refs_still]

theorem reaction_still (x : Reaction) : still.reaction x = x := by
  simp [reaction, values_still, ref_still]

theorem kind_still (k : Kind) : still.kind k = k := by
  cases k with
  | promise s => cases s <;> simp only [kind, promiseState, value_still, map_still reaction_still]
  | _ => simp only [kind, ref_still, scopeRef_still, value_still]

/-- objects, -/
theorem obj_still (o : Obj) : still.obj o = o := by
  simp only [obj, kind_still, refs_still, id, map_still entry_still]

theorem binding_still (b : Binding) : still.binding b = b := by
  simp only [binding, values_still, id]

/-- scopes, -/
theorem scope_still (s : Scope) : still.scope s = s := by
  cases s <;> simp only [scope, map_still binding_still, scopeRef_still, ref_still]

/-- and jobs as they are. -/
theorem job_still (j : Job) : still.job j = j := by
  cases j <;> simp [job, reaction_still, value_still, ref_still]

theorem ended_still (r : Except Value α) {f : α → α} (same : ∀ a, f a = a) : Run.Twins.ended still f r = r := by
  cases r <;> simp only [Run.Twins.ended, same, value_still]

end Shift

namespace Machine

variable {m n : Machine}

/-- So every machine is its own twin. -/
theorem twin_still (builtin : 17 ≤ m.heap.size) (outermost : 1 ≤ m.scopes.size) : m.Twin .still m where
  builtin := builtin
  low := Nat.zero_le _
  size := rfl
  object r := by rw [Shift.ref_still, Shift.obj_still]
  outermost := outermost
  lowScopes := Nat.zero_le _
  sizeScopes := rfl
  scope r := by rw [Shift.scopeRef_still, Shift.scope_still]
  jobs := (Shift.map_still Shift.job_still _).symm
  unhandled := (Shift.map_still Shift.ref_still _).symm
  result := (Shift.value_still _).symm
  readings := rfl

/-- A machine is its only twin that is shifted by nothing. -/
theorem Twin.eq (t : m.Twin .still n) : n = m := by
  have heap : n.heap = m.heap := by
    refine Array.ext t.size fun i there here => ?_
    have same := t.object ⟨i⟩
    rw [Shift.ref_still, Shift.obj_still] at same
    rwa [Machine.object, Machine.object, Array.getElem?_eq_getElem here, Array.getElem?_eq_getElem there] at same
  have scopes : n.scopes = m.scopes := by
    refine Array.ext t.sizeScopes fun i there here => ?_
    have same := t.scope ⟨i⟩
    rw [Shift.scopeRef_still, Shift.scope_still] at same
    rwa [Machine.scope, Machine.scope, Array.getElem?_eq_getElem here, Array.getElem?_eq_getElem there] at same
  have jobs : n.jobs = m.jobs := t.jobs.trans (Shift.map_still Shift.job_still _)
  have unhandled : n.unhandled = m.unhandled := t.unhandled.trans (Shift.map_still Shift.ref_still _)
  have result : n.result = m.result := t.result.trans (Shift.value_still _)
  have readings : n.readings = m.readings := t.readings
  cases m
  cases n
  simp_all

end Machine

/-- What the engine that gives up brings to an end, every engine of enough levels does. -/
theorem Engine.comes_of_within {b : List (Key × Ref)} {host : Host σ} {k : Nat} {m n : Machine}
    {w u : σ} {x : Engine → Run α} {f : α → α} (same : ∀ a, f a = a)
    (twins : ∀ {e d : Engine}, e.Twins .still d → Run.Twins .still f (x e) (x d)) (builtin : 17 ≤ m.heap.size)
    (outermost : 1 ≤ m.scopes.size) {r : Except Value α} (ended : (x (within b k) m).ended host w = (some r, n, u)) :
    Comes b host k x m w (some r, n, u) := by
  intro d enough
  have deeper : (within b k).Twins .still (ofDepth b d) :=
    within_twins (fun _ _ => Shift.ref_still _) (ofDepth_bindings b) (fun _ => rfl) enough
  have alike : Alike Eq host host := by
    rintro _ _ _ rfl
    exact ⟨rfl, rfl⟩
  obtain ⟨n', u', ends, twin, rfl⟩ := (twins deeper m m (Machine.twin_still builtin outermost)).ended alike rfl ended
  rw [ends, twin.eq, Shift.ended_still r same]

end ScriptHost.Script
