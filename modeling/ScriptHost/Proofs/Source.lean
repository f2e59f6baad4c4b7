/-
Reading a source leaves the world as it is but for what it reports, and what it comes to depends on the
files alone.
-/
import ScriptHost.Proofs.Isolate

namespace ScriptHost

namespace Source

/-- What reading a path comes to with these files. -/
def outcome (how : Reading) (files : Files) (path : Text) : Except Fault Text :=
  (read how path { files, output := .text [] }).1

/-- `x` adds to what was reported and comes to what depends on the files alone. -/
structure Reports {α : Type} (x : Action α) : Prop where
  served : ∀ w : World, w.Served [] (x w).2
  same : ∀ v w : World, v.files = w.files → (x v).1 = (x w).1

namespace Reports

variable {α β : Type}

theorem pure (a : α) : Reports (Pure.pure a : Action α) := ⟨fun w => .refl w, fun _ _ _ => rfl⟩

theorem raise (f : Fault) : Reports (Action.raise f : Action α) := ⟨fun w => .refl w, fun _ _ _ => rfl⟩

theorem report (e : Event) : Reports (Action.report e) :=
  ⟨fun w => (World.Served.refl w).tell _, fun _ _ _ => rfl⟩

theorem bind {x : Action α} {f : α → Action β} (hx : Reports x) (hf : ∀ a, Reports (f a)) :
    Reports (x >>= f) where
  served w := by
    have h := hx.served w
    rw [Action.bind_apply]
    generalize x w = p at h ⊢
    obtain ⟨e | a, w'⟩ := p
    · exact h
    · exact h.trans ((hf a).served w')
  same v w hvw := by
    have h := hx.same v w hvw
    have files : (x v).2.files = (x w).2.files :=
      (hx.served v).files.trans (hvw.trans (hx.served w).files.symm)
    rw [Action.bind_apply, Action.bind_apply]
    generalize x v = p at h files ⊢
    generalize x w = q at h files ⊢
    obtain ⟨e | a, v'⟩ := p <;> obtain ⟨e' | a', w'⟩ := q <;> cases h
    · rfl
    · exact (hf a).same v' w' files

end Reports

theorem reports_decoded (how : Reading) (codecs : Codecs) (path : Text) (bytes : Bytes) :
    Reports (decoded how codecs path bytes) := by
  unfold decoded
  split
  · exact .pure _
  · exact .bind (.report _) fun _ => .raise _
  · exact .raise _

theorem reports_taken (how : Reading) (codecs : Codecs) (path : Text) (found : Except Fault Files.Content) :
    Reports (taken how codecs path found) := by
  unfold taken
  split
  · exact .bind (.report _) fun _ => .raise _
  · exact .raise _
  · split
    · exact .bind (.report _) fun _ => .bind (.report _) fun _ => reports_decoded ..
    · exact .bind (.report _) fun _ => reports_decoded ..

theorem read_served (how : Reading) (path : Text) (w : World) :
    w.Served [.reading path] (read how path w).2 :=
  ((World.Served.refl w).happen rfl rfl).trans
    ((Reports.bind (.report (.readStarted path)) fun _ =>
      reports_taken how w.files.codecs path (w.files.read path)).served
      (w.happen (.reading path)))

theorem read_eq_outcome (how : Reading) (path : Text) (w : World) :
    (read how path w).1 = outcome how w.files path :=
  (Reports.bind (.report (.readStarted path)) fun _ =>
      reports_taken how w.files.codecs path (w.files.read path)).same
    (w.happen (.reading path)) (World.happen (.reading path) { files := w.files, output := .text [] }) rfl

end Source

end ScriptHost
