/-
What a run ends with when a host answers: with a value or with what it throws, or never. Runs in a row end
as the last of them does, begun where the one before it ended.
-/
import ScriptHost.Proofs.Script.Later

namespace ScriptHost.Script

variable {α β σ : Type}

/-- What a script ends with when a host answers, with the machine that is left and what became of the
host; none if it took more turns of a loop than there are. -/
def Result.ended (host : Host σ) :
    Result α → σ → Option (Except Value α) × Machine × σ
  | .value a m, w => (some (.ok a), m, w)
  | .thrown v m, w => (some (.error v), m, w)
  | .spent m, w => (none, m, w)
  | .ask q next, w =>
    let (r, w) := host q w
    (next r).ended host w

section Ends

variable {host : Host σ} {m n : Machine} {w u : σ}

namespace Result

/-- What a host settles a script to is the value that it ends with. -/
theorem settle_eq_ended (x : Result α) (w : σ) :
    x.settle host w = ((x.ended host w).1.bind Except.toOption, (x.ended host w).2) := by
  induction x generalizing w with
  | value a m => rfl
  | thrown v m => rfl
  | spent m => rfl
  | ask q next ih => exact ih _ _

/-- What follows a script begins where it ended, and with what. -/
theorem ended_follow (value : α → Machine → Result β) (thrown : Value → Machine → Result β)
    (x : Result α) (w : σ) :
    (x.follow value thrown).ended host w = match x.ended host w with
      | (some (.ok a), m, w) => (value a m).ended host w
      | (some (.error v), m, w) => (thrown v m).ended host w
      | (none, m, w) => (none, m, w) := by
  induction x generalizing w with
  | value a m => rfl
  | thrown v m => rfl
  | spent m => rfl
  | ask q next ih => exact ih _ _

theorem Ends.ended {P : Machine → Prop} {x : Result α} (ends : x.Ends P) (w : σ) :
    P (x.ended host w).2.1 := by
  induction x generalizing w with
  | value a m => exact ends
  | thrown v m => exact ends
  | spent m => exact ends
  | ask q next ih => exact ih _ (ends _) _

end Result

/-- Every value that a script can end with has a property, whatever the host answers. -/
def Result.Gives (P : α → Prop) : Result α → Prop
  | .value a _ => P a
  | .thrown _ _ => True
  | .spent _ => True
  | .ask _ next => ∀ r, (next r).Gives P

namespace Result.Gives

theorem ended {P : α → Prop} {x : Result α} (gives : x.Gives P) {a : α}
    (h : x.ended host w = (some (.ok a), n, u)) : P a := by
  induction x generalizing w with
  | value b m =>
    cases h
    exact gives
  | thrown v m => cases h
  | spent m => cases h
  | ask q next ih => exact ih _ (gives _) h

theorem any (x : Result α) : x.Gives fun _ => True := by
  induction x with
  | value a m => trivial
  | thrown v m => trivial
  | spent m => trivial
  | ask q next ih => exact ih

/-- A run gives what its last part gives of what the first part gives. -/
theorem bind {P : α → Prop} {Q : β → Prop} {x : Run α} {f : α → Run β} (hx : (x m).Gives P)
    (hf : ∀ a n, P a → (f a n).Gives Q) : ((x >>= f) m).Gives Q := by
  rw [Run.bind_apply]
  generalize x m = r at hx ⊢
  induction r with
  | value a n => exact hf a n hx
  | thrown v n => trivial
  | spent n => trivial
  | ask q next ih => exact fun r => ih r (hx r)

theorem attempt {P : α → Prop} {x : Run α} (hx : (x m).Gives P) :
    (Run.attempt x m).Gives fun r => ∀ a, r = .ok a → P a := by
  rw [Run.attempt_apply]
  generalize x m = r at hx ⊢
  induction r with
  | value a n =>
    rintro _ ⟨⟩
    exact hx
  | thrown v n => nofun
  | spent n => trivial
  | ask q next ih => exact fun r => ih r (hx r)

end Result.Gives

namespace Run

variable {x : Run α}

/-- A run gives what its last part gives. -/
theorem gives_bind {P : β → Prop} {f : α → Run β} (hf : ∀ a n, (f a n).Gives P) :
    ((x >>= f) m).Gives P := .bind (.any (x m)) fun a n _ => hf a n

theorem ended_bind (f : α → Run β) {a : α} (h : (x m).ended host w = (some (.ok a), n, u)) :
    ((x >>= f) m).ended host w = (f a n).ended host u := by
  rw [bind_apply, Result.ended_follow, h]

theorem ended_bind_error (f : α → Run β) {v : Value} (h : (x m).ended host w = (some (.error v), n, u)) :
    ((x >>= f) m).ended host w = (some (.error v), n, u) := by
  rw [bind_apply, Result.ended_follow, h]
  rfl

theorem ended_bind_none (f : α → Run β) (h : (x m).ended host w = (none, n, u)) :
    ((x >>= f) m).ended host w = (none, n, u) := by
  rw [bind_apply, Result.ended_follow, h]

theorem ended_catching (handle : Value → Run α) {a : α} (h : (x m).ended host w = (some (.ok a), n, u)) :
    (catching x handle m).ended host w = (some (.ok a), n, u) := by
  rw [catching_apply]
  exact (Result.ended_follow _ _ _ _).trans (by rw [h]; rfl)

theorem ended_catching_error (handle : Value → Run α) {v : Value}
    (h : (x m).ended host w = (some (.error v), n, u)) :
    (catching x handle m).ended host w = (handle v n).ended host u := by
  rw [catching_apply]
  exact (Result.ended_follow _ _ _ _).trans (by rw [h])

/-- What is attempted ends with a value, if it ends. -/
theorem ended_attempt (x : Run α) (m : Machine) (w : σ) :
    (attempt x m).ended host w = ((((x m).ended host w).1.map Except.ok), ((x m).ended host w).2) := by
  rw [attempt_apply, Result.ended_follow]
  rcases (x m).ended host w with ⟨_ | _ | _, _, _⟩ <;> rfl

/-- What follows an attempt begins where that ended. -/
theorem ended_attempt_bind (f : Except Value α → Run β) {r : Except Value α}
    (h : (x m).ended host w = (some r, n, u)) :
    ((attempt x >>= f) m).ended host w = (f r n).ended host u := by
  refine ended_bind f ?_
  rw [ended_attempt, h]
  rfl

theorem ended_attempt_bind_none (f : Except Value α → Run β) (h : (x m).ended host w = (none, n, u)) :
    ((attempt x >>= f) m).ended host w = (none, n, u) := by
  refine ended_bind_none f ?_
  rw [ended_attempt, h]
  rfl

/-- A run that ends leaves a later machine. -/
theorem Ages.ended (ages : x.Ages) {r : Option (Except Value α)} (h : (x m).ended host w = (r, n, u)) :
    m.Later n := by
  have later : m.Later ((x m).ended host w).2.1 := (ages m).ended w
  rw [h] at later
  exact later

/-- A loop takes its first turn, and then the others. -/
theorem loop_apply (turn : α → Run (Sum α β)) (start : α) (m : Machine) :
    loop start turn m = (turn start m).follow (fun s m => match s with
      | .inl a => turns turn (turnLimit - 1) a m
      | .inr b => .value b m) .thrown := turns_succ turn (turnLimit - 1) start m

/-- What a turn that yields a result always leaves, the loop leaves too. -/
theorem ended_turns {P : Machine → Prop} {turn : α → Run (Sum α β)}
    (last : ∀ {a b m n w u}, (turn a m).ended host w = (some (.ok (.inr b)), n, u) → P n) :
    ∀ (k : Nat) (a : α) (m : Machine) (w : σ) {b : β},
      (turns turn k a m).ended host w = (some (.ok b), n, u) → P n := by
  intro k
  induction k with
  | zero => nofun
  | succ k ih =>
    intro a m w b ended
    rw [turns_succ, Result.ended_follow] at ended
    rcases turned : (turn a m).ended host w with ⟨_ | v | a' | b', x, y⟩ <;> rw [turned] at ended
    · cases ended
    · cases ended
    · exact ih a' x y ended
    · cases ended
      exact last turned

end Run

end Ends

end ScriptHost.Script
