/-
Settling scripts. What a script ends with is told by its tree and the answers along one branch of it, so
two hosts that answer alike take it down the same branch, whatever else they keep. A host that changes
nothing is as it was when the script ends, and a property that every answer keeps holds then. Answers to
questions off the branch are of no account.
-/
import ScriptHost.Script.Machine

namespace ScriptHost.Script.Result

variable {α σ τ : Type}

section Equations

variable (host : Host σ) (w : σ)

@[simp] theorem settle_value (a : α) (m : Machine) : (value a m).settle host w = (some a, m, w) := rfl

@[simp] theorem settle_thrown (v : Value) (m : Machine) :
    (thrown v m : Result α).settle host w = (none, m, w) := rfl

@[simp] theorem settle_spent (m : Machine) : (spent m : Result α).settle host w = (none, m, w) := rfl

@[simp] theorem settle_ask (q : Question) (next : q.Answer → Result α) :
    (ask q next).settle host w = (next (host q w).1).settle host (host q w).2 := rfl

end Equations

/-- Hosts that answer alike, and stay related while they do, take a script to the same end. -/
theorem settle_related {R : σ → τ → Prop} {f : Host σ} {g : Host τ}
    (h : ∀ q v w, R v w → (f q v).1 = (g q w).1 ∧ R (f q v).2 (g q w).2)
    (x : Result α) : ∀ v w, R v w →
      (x.settle f v).1 = (x.settle g w).1 ∧ (x.settle f v).2.1 = (x.settle g w).2.1 ∧
        R (x.settle f v).2.2 (x.settle g w).2.2 := by
  -- along the tree: the relation is handed from each question to what follows its answer
  induction x with
  | value a m => exact fun v w hv => ⟨rfl, rfl, hv⟩
  | thrown t m => exact fun v w hv => ⟨rfl, rfl, hv⟩
  | spent m => exact fun v w hv => ⟨rfl, rfl, hv⟩
  | ask q next ih =>
    intro v w hv
    obtain ⟨same, related⟩ := h q v w hv
    rw [settle_ask, settle_ask, same]
    exact ih _ _ _ related

/-- What every answer of a host keeps is kept by a script. -/
theorem settle_keeps {P : σ → Prop} {host : Host σ} (h : ∀ q w, P w → P (host q w).2) (x : Result α)
    {w : σ} (hw : P w) : P (x.settle host w).2.2 := by
  -- a host is related to itself on the states that have the property
  refine (settle_related (R := fun v w => v = w ∧ P v) (f := host) (g := host) ?_ x w w
    ⟨rfl, hw⟩).2.2.2
  rintro q v _ ⟨rfl, hv⟩
  exact ⟨rfl, rfl, h q v hv⟩

/-- A host that changes nothing takes a script to the end that any other host with its answers does. -/
theorem settle_still {f : Host σ} {g : Host τ} (hf : ∀ q w, (f q w).2 = w)
    (same : ∀ q w u, (f q w).1 = (g q u).1) (x : Result α) (w : σ) (u : τ) :
    x.settle f w = ((x.settle g u).1, (x.settle g u).2.1, w) := by
  obtain ⟨value, machine, _⟩ := settle_related (R := fun _ _ => True) (f := f) (g := g)
    (fun q v w _ => ⟨same q v w, trivial⟩) x w u trivial
  have still : (x.settle f w).2.2 = w :=
    settle_keeps (P := (· = w)) (fun q v hv => by rw [hf, hv]) x rfl
  rw [← value, ← machine]
  exact Prod.ext rfl (Prod.ext rfl still)

/-! ## Questions -/

/-- The questions that a script asks a host, the first first. -/
def questions (host : Host σ) : Result α → σ → List Question
  | .value .., _ | .thrown .., _ | .spent _, _ => []
  | .ask q next, w => q :: (next (host q w).1).questions host (host q w).2

/-- Whether a script ends without a question. -/
def asksNothing : Result α → Bool
  | .ask .. => false
  | _ => true

theorem questions_of_asksNothing {x : Result α} (nothing : x.asksNothing = true) (host : Host σ) (w : σ) :
    x.questions host w = [] := by
  cases x with
  | ask q next => cases nothing
  | _ => rfl

/-- Two hosts that answer alike what is asked of the first take a script to the same end. -/
theorem settle_of_questions {f g : Host σ} (x : Result α) :
    ∀ w, (∀ q ∈ x.questions f w, ∀ u, f q u = g q u) → x.settle f w = x.settle g w := by
  -- along the tree: the answer to each question decides which ones are asked after it
  induction x with
  | value a m => exact fun _ _ => rfl
  | thrown v m => exact fun _ _ => rfl
  | spent m => exact fun _ _ => rfl
  | ask q next ih =>
    intro w alike
    have first : f q w = g q w := alike q List.mem_cons_self w
    rw [settle_ask, settle_ask, ← first]
    exact ih _ _ fun p later => alike p (List.mem_cons_of_mem _ later)

end ScriptHost.Script.Result
