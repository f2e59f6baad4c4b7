/-
The functions of a session. A call on any of them leaves the history of one call, and no isolate but
closed sandboxes; so does, for as many calls as it makes, whatever a confined isolate does that these
functions are bound into.
-/
import ScriptHost.Proofs.Sandbox
import ScriptHost.Proofs.Source

namespace ScriptHost.Session

open History

variable {ι : Type} {F : Factory ι}

theorem recorded_apply (name : Text) (f : HostFunction) (arguments : List Text) (w : World) :
    (recorded name f).2 arguments w =
      ((f arguments (w.happen (.called name arguments))).1,
        (f arguments (w.happen (.called name arguments))).2.happen (.returned name)) := rfl

theorem print_served (arguments : List Text) (w : World) :
    w.Served [.called "print" arguments, .returned "print"]
      ((recorded "print" printFunction).2 arguments w).2 := by
  refine ⟨⟨rfl, ?_, ?_, rfl⟩, ?_⟩
  · simp [recorded_apply, printFunction]
  · simp [recorded_apply, printFunction, printed, Output.writeLines]
  · simp [recorded_apply, printFunction, sandboxes]

theorem sandboxFunction_snd (arguments : List Text) (w : World) :
    (Sandbox.function F arguments w).2 =
      (Sandbox.evaluate F (.text (arguments.headD Sandbox.missingSource)) w).2 :=
  (Action.bind_pure_snd _ _ _).trans (Action.bind_pure_snd _ _ _)

theorem sandbox_served (hF : F.Confined) (arguments : List Text) (w : World) :
    ∃ r, Request w.isolates.length (arguments.headD Sandbox.missingSource) r ∧
      w.Served (.called "sandbox" arguments :: (r ++ [.returned "sandbox"]))
        ((recorded "sandbox" (Sandbox.function F)).2 arguments w).2 := by
  obtain ⟨r, hr, s, _⟩ := Sandbox.evaluate_spec hF
    (.text (arguments.headD Sandbox.missingSource)) (w.happen (.called "sandbox" arguments))
  refine ⟨r, hr, ?_⟩
  rw [recorded_apply, sandboxFunction_snd]
  exact (((World.Served.refl w).happen (printed_called (by decide) arguments) rfl).trans
    s).happen rfl rfl

theorem readFunction_snd (settings : Settings) (arguments : List Text) (w : World) :
    (readFunction settings arguments w).2 =
      (Source.read (reading settings) (arguments.headD Sandbox.missingSource) w).2 :=
  Action.bind_pure_snd _ _ _

theorem read_served (settings : Settings) (arguments : List Text) (w : World) :
    w.Served [.called "readfile" arguments, .reading (arguments.headD Sandbox.missingSource),
        .returned "readfile"]
      ((recorded "readfile" (readFunction settings)).2 arguments w).2 := by
  rw [recorded_apply, readFunction_snd]
  exact (((World.Served.refl w).happen (printed_called (by decide) arguments) rfl).trans
    (Source.read_served ..)).happen rfl rfl

/-- A call on a function of a session leaves the history of a call. -/
theorem function_served (hF : F.Confined) {settings : Settings} {name : Text} {f : HostFunction}
    (bound : (name, f) ∈ functions F settings) (arguments : List Text) (w : World) :
    ∃ c, Call w.isolates.length c ∧ w.Served c (f arguments w).2 := by
  simp only [functions, List.mem_cons, List.not_mem_nil, or_false] at bound
  rcases bound with h | h | h <;> cases h
  · exact ⟨_, .print arguments, print_served arguments w⟩
  · obtain ⟨r, hr, s⟩ := sandbox_served hF arguments w
    exact ⟨_, .sandbox arguments hr, s⟩
  · exact ⟨_, .read arguments, read_served settings arguments w⟩

/-- Whatever a confined isolate does that has the functions of a session, it leaves calls on them. -/
theorem acts_served (hF : F.Confined) {settings : Settings} {v w : World}
    (h : Acts (functions F settings) v w) : ∃ c, Calls v.isolates.length c ∧ v.Served c w := by
  induction h with
  | rest => exact ⟨[], .none, .refl v⟩
  | @call w' name f _ bound arguments ih =>
    obtain ⟨c, hc, s⟩ := ih
    obtain ⟨d, hd, t⟩ := function_served hF bound arguments w'
    refine ⟨c ++ d, .more hc ?_, s.trans t⟩
    rwa [s.isolates, List.length_append, hc.length_sandboxes] at hd
  | keep _ _ _ ih =>
    obtain ⟨c, hc, s⟩ := ih
    exact ⟨c, hc, ⟨⟨s.files, s.history, s.output, s.senses⟩, s.isolates⟩⟩

end ScriptHost.Session
