/-
Confined factories. An isolate acts on the world only by calling the functions that it was given; beside
that it may keep records of its own, which nothing else looks at. A factory is confined if making,
running and letting go of an isolate do no more than that. So an isolate without functions changes
nothing in the world that a host can see, and what is kept by every function is kept by every isolate.
-/
import ScriptHost.Isolate.Scripted

namespace ScriptHost

/-- What a world can become while an isolate with these functions acts on it. -/
inductive Acts (functions : Functions) (w : World) : World → Prop
  | rest : Acts functions w w
  | call {w' : World} {name : Text} {f : HostFunction} (before : Acts functions w w')
      (bound : (name, f) ∈ functions) (arguments : List Text) : Acts functions w (f arguments w').2
  /-- Records of the isolate's own: calls it made, and refusals still to come. -/
  | keep {w' : World} (before : Acts functions w w') (calls : List CallRecord)
      (refusals : List (Option Fault)) : Acts functions w { w' with calls, refusals }

namespace Acts

variable {functions : Functions} {u v w : World}

theorem trans (h : Acts functions u v) (g : Acts functions v w) : Acts functions u w := by
  induction g with
  | rest => exact h
  | call _ bound arguments ih => exact ih.call bound arguments
  | keep _ calls refusals ih => exact ih.keep calls refusals

end Acts

/-- The parts of a world that a host looks at are the same. -/
structure World.Alike (v w : World) : Prop where
  files : w.files = v.files
  output : w.output = v.output
  notices : w.notices = v.notices
  isolates : w.isolates = v.isolates
  history : w.history = v.history
  senses : w.senses = v.senses

/-- Without functions an isolate changes nothing that a host looks at. -/
theorem Acts.alike {v w : World} (h : Acts [] v w) : v.Alike w := by
  induction h with
  | rest => exact ⟨rfl, rfl, rfl, rfl, rfl, rfl⟩
  | call _ bound _ _ => cases bound
  | keep _ _ _ ih => exact ⟨ih.files, ih.output, ih.notices, ih.isolates, ih.history, ih.senses⟩

namespace Factory

variable {ι : Type}

/-- A factory whose isolates act on the world through their functions only. -/
structure Confined (F : Factory ι) : Prop where
  make : ∀ functions w, Acts functions w (F.make functions w).2
  run : ∀ functions source core w, Acts functions w (F.run functions source core w).2
  release : ∀ functions core w, Acts functions w (F.release functions core w).2

/-- A factory that makes isolates with these functions and lets go of them without more ado. -/
structure Quiet (F : Factory ι) (functions : Functions) : Prop where
  make : ∀ w, ∃ core, F.make functions w = (.ok core, w)
  release : ∀ core w, F.release functions core w = (.ok (), w)

end Factory

/-! ## Isolates that follow a script -/

namespace Isolate.Scripted

theorem acts_callByName (functions : Functions) (name : Text) (arguments : List Text) (w : World) :
    Acts functions w (callByName functions name arguments w).2 := by
  unfold callByName
  cases hf : functions.find? (·.1 = name) with
  | none => exact Acts.rest.keep _ _
  | some p =>
    obtain ⟨n, f⟩ := p
    exact (Acts.rest.call (List.mem_of_find?_eq_some hf) arguments).keep _ _

theorem acts_calls (functions : Functions) :
    ∀ (calls : List (Text × List Text)) (w : World),
      ∃ w', Acts functions w w' ∧
        (calls.forM fun (name, arguments) => callByName functions name arguments : Action Unit) w =
          (.ok (), w')
  | [], w => ⟨w, .rest, rfl⟩
  | (name, arguments) :: rest, w => by
    obtain ⟨w', h, e⟩ := acts_calls functions rest (callByName functions name arguments w).2
    exact ⟨w', (acts_callByName functions name arguments w).trans h, e⟩

theorem acts_play (s : Scene) (functions : Functions) (w : World) :
    Acts functions w (s.play functions w).2 := by
  obtain ⟨w', h, e⟩ := acts_calls functions s.calls w
  unfold Scene.play
  rw [Action.bind_apply, e]
  cases s.raised <;> exact h

/-- Whatever is written down for them, isolates that follow a script are confined. -/
theorem confined (p : Plot) : (factory p).Confined where
  make functions w := by
    rcases hw : w.refusals with _ | ⟨_ | f, rest⟩ <;>
      simp only [factory, nextRefusal, Action.bind_apply, hw]
    · exact .rest
    · exact Acts.rest.keep w.calls rest
    · exact Acts.rest.keep w.calls rest
  run functions source core w := by
    show Acts functions w (p.evaluate functions source w).2
    unfold Plot.evaluate
    cases p.scenes.find? (·.1 = source) with
    | none => exact .rest
    | some s => exact acts_play s.2 functions w
  release functions core w := by
    simp only [factory]
    cases p.releaseFault <;> exact .rest

end Isolate.Scripted

end ScriptHost
