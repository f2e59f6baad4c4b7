/-
Actions that do not look at the log. Whatever was reported before, such an action does the same, ends the same, and
adds the same to the log. Such actions are closed under being put together, so everything that a host does is one of
them, provided that isolates are made and run by such actions where they have such functions; isolates on the engine
are, and so are isolates that follow a script.
-/
import ScriptHost.Proofs.Spared
import ScriptHost.Proofs.Script.Settle
import ScriptHost.Isolate.Engine
import ScriptHost.Session

namespace ScriptHost

/-- The world with a log before its own. -/
def World.preceded (log : List Notice) (w : World) : World := { w with notices := log ++ w.notices }

theorem World.preceded_tell (log : List Notice) (w : World) (n : Notice) :
    (w.preceded log).tell n = (w.tell n).preceded log := by
  simp [preceded, tell]

namespace Action

variable {α β : Type}

/-- An action that does not look at the log. -/
def Unlogged (x : Action α) : Prop :=
  ∀ (log : List Notice) (w : World), x (w.preceded log) = ((x w).1, (x w).2.preceded log)

namespace Unlogged

theorem pure (a : α) : Unlogged (Pure.pure a : Action α) := fun _ _ => rfl

theorem raise (f : Fault) : Unlogged (Action.raise f : Action α) := fun _ _ => rfl

theorem ofExcept (r : Except Fault α) : Unlogged (Action.ofExcept r) := fun _ _ => rfl

theorem bind {x : Action α} {f : α → Action β} (hx : Unlogged x) (hf : ∀ a, Unlogged (f a)) : Unlogged (x >>= f) := by
  intro log w
  rw [Action.bind_apply, Action.bind_apply, hx log w]
  rcases x w with ⟨e | a, v⟩
  · rfl
  · exact hf a log v

theorem attempt {x : Action α} (hx : Unlogged x) : Unlogged (Action.attempt x) := by
  intro log w
  rw [Action.attempt_apply, Action.attempt_apply, hx log w]

theorem look {f : World → α} (same : ∀ (log : List Notice) (w : World), f (w.preceded log) = f w) :
    Unlogged (Action.look f) := by
  intro log w
  rw [Action.look_apply, Action.look_apply, same]

theorem change {f : World → World} (same : ∀ (log : List Notice) (w : World), f (w.preceded log) = (f w).preceded log) :
    Unlogged (Action.change f) := by
  intro log w
  rw [Action.change_apply, Action.change_apply, same]

theorem occur (o : Occurrence) : Unlogged (Action.occur o) := fun _ _ => rfl

theorem writeLine (t : Text) : Unlogged (Action.writeLine t) := fun _ _ => rfl

theorem notify (n : Notice) : Unlogged (Action.notify n) := change fun log w => w.preceded_tell log n

theorem report (e : Event) : Unlogged (Action.report e) := notify (.event e)

end Unlogged

end Action

open ScriptHost.Action

/-- Functions that do not look at the log. -/
def Functions.Unlogged (functions : Functions) : Prop :=
  ∀ f ∈ functions, ∀ arguments : List Text, Action.Unlogged (f.2 arguments)

theorem Functions.unlogged_nil : Functions.Unlogged [] := by
  intro f none
  cases none

/-- A factory that does not look at the log where functions do not. -/
structure Factory.Unlogged {ι : Type} (F : Factory ι) : Prop where
  make : ∀ {functions : Functions}, functions.Unlogged → Action.Unlogged (F.make functions)
  run : ∀ {functions : Functions}, functions.Unlogged → ∀ (source : Text) (core : ι) (log : List Notice) (w : World),
    F.run functions source core (w.preceded log) =
      ((F.run functions source core w).1, (F.run functions source core w).2.preceded log)
  release : ∀ {functions : Functions}, functions.Unlogged → ∀ core : ι, Action.Unlogged (F.release functions core)

/-! ## Isolates -/

namespace Isolate

variable {ι : Type} {F : Factory ι} {i : Isolate ι}

theorem unlogged_create (hF : F.Unlogged) {functions : Option Functions} (unlogged : (functions.getD []).Unlogged)
    (purpose : Text) : Unlogged (create F purpose functions) := by
  unfold create
  refine .bind (.occur _) fun _ => .bind (.attempt (hF.make unlogged)) fun made => ?_
  cases made with
  | error f => exact .bind (.occur _) fun _ => .raise f
  | ok core =>
    refine .bind (.look fun _ _ => rfl) fun place =>
      .bind (.change fun _ _ => rfl) fun _ => .bind (.occur _) fun _ => ?_
    dsimp only
    split
    · exact .bind (.report _) fun _ => .pure _
    · exact .pure _

theorem unlogged_evaluate (hF : F.Unlogged) (unlogged : i.functions.Unlogged) (source : Text) (log : List Notice)
    (w : World) : i.evaluate F source (w.preceded log) =
      ((i.evaluate F source w).1, (i.evaluate F source w).2.preceded log) := by
  have same : i.isClosed (w.preceded log) = i.isClosed w := rfl
  cases closed : i.isClosed w with
  | true => simp [evaluate, same, closed]
  | false =>
    rcases came : F.run i.functions source i.core (i.receiving source w) with ⟨⟨r, core⟩, v⟩
    have ran := hF.run unlogged source i.core log (i.receiving source w)
    rw [came] at ran
    rw [evaluate_of_open (same.trans closed) ran, evaluate_of_open closed came]
    rfl

theorem unlogged_close (hF : F.Unlogged) (unlogged : i.functions.Unlogged) : Unlogged (i.close F) := by
  unfold close
  refine .bind (.look fun _ _ => rfl) fun closed => ?_
  split
  · exact .pure _
  · refine .bind (.change fun _ _ => rfl) fun _ => .bind (.occur _) fun _ => .bind (.attempt ?_) fun released =>
      .bind (.occur _) fun _ => .bind (.report _) fun _ => .ofExcept _
    unfold release
    exact .bind (.change fun _ _ => rfl) fun _ => hF.release unlogged _

theorem unlogged_evaluateLast (hF : F.Unlogged) (unlogged : i.functions.Unlogged) (source : Text) :
    Unlogged (i.evaluateLast F source) := by
  intro log w
  obtain ⟨core, same⟩ := evaluate_same (F := F) i source w
  rw [evaluateLast, evaluateLast, unlogged_evaluate hF unlogged source log w]
  generalize i.evaluate F source w = r at same ⊢
  obtain ⟨⟨outcome, j⟩, v⟩ := r
  obtain rfl : j = { i with core } := same
  dsimp only
  rw [unlogged_close (i := { i with core }) hF unlogged log v]
  rcases close F { i with core } v with ⟨_ | _, u⟩
  · rfl
  · rfl

end Isolate

/-! ## Sandboxes -/

namespace Sandbox

variable {ι : Type} {F : Factory ι}

theorem unlogged_evaluateUnreported (hF : F.Unlogged) (source : Text) : Unlogged (evaluateUnreported F source) := by
  intro log w
  have none_unlogged : ((none : Option Functions).getD []).Unlogged := Functions.unlogged_nil
  have created := Isolate.unlogged_create hF none_unlogged purpose log w
  rw [evaluateUnreported, Action.bind_apply, Action.bind_apply, Action.attempt_apply, Action.attempt_apply, created]
  rcases made : Isolate.create F purpose none w with ⟨f | i, v⟩
  · rfl
  · -- the isolate has no functions
    have bare : i.functions.Unlogged := by
      obtain ⟨core, u, _, rfl, _⟩ := Isolate.create_made made
      exact Functions.unlogged_nil
    have last : Unlogged (evaluateIn F i source) := by
      unfold evaluateIn
      refine .bind (Isolate.unlogged_evaluateLast hF bare source) fun r => ?_
      cases r with
      | ok e => exact .pure _
      | error f => exact .pure _
    exact last log v

theorem unlogged_evaluate (hF : F.Unlogged) (source : Datum) : Unlogged (evaluate F source) := by
  unfold evaluate
  refine .bind (.occur _) fun _ => .bind (.attempt (unlogged_evaluateUnreported hF _)) fun ended =>
    .bind (.occur _) fun _ => .bind (.ofExcept _) fun e => ?_
  split
  · exact .bind (.report _) fun _ => .pure _
  · exact .pure _

theorem unlogged_function (hF : F.Unlogged) (arguments : List Text) : Unlogged (Sandbox.function F arguments) :=
  .bind (.bind (unlogged_evaluate hF _) fun _ => .pure _) fun _ => .pure _

end Sandbox

/-! ## Sources -/

theorem Source.unlogged_decoded (how : Reading) (codecs : Codecs) (path : Text) (bytes : Bytes) :
    Unlogged (decoded how codecs path bytes) := by
  unfold decoded
  split
  · exact .pure _
  · exact .bind (.report _) fun _ => .raise _
  · exact .raise _

theorem Source.unlogged_read (how : Reading) (path : Text) : Unlogged (read how path) := by
  unfold read
  refine .bind (.occur _) fun _ => .bind (.report _) fun _ => .bind (.look fun _ _ => rfl) fun found => ?_
  unfold taken
  split
  · exact .bind (.report _) fun _ => .raise _
  · exact .raise _
  · split
    · exact .bind (.report _) fun _ => .bind (.report _) fun _ => unlogged_decoded how _ path _
    · exact .bind (.report _) fun _ => unlogged_decoded how _ path _

/-! ## Functions of a session -/

namespace Session

variable {ι : Type} {F : Factory ι}

theorem unlogged_recorded {name : Text} {f : HostFunction} (unlogged : ∀ arguments, Unlogged (f arguments))
    (arguments : List Text) : Unlogged ((recorded name f).2 arguments) :=
  .bind (.occur _) fun _ => .bind (.attempt (unlogged arguments)) fun _ => .bind (.occur _) fun _ => .ofExcept _

/-- No function of a session looks at the log. -/
theorem unlogged_functions (hF : F.Unlogged) (settings : Settings) : (functions F settings).Unlogged := by
  intro f bound
  simp only [functions, List.mem_cons, List.not_mem_nil, or_false] at bound
  rcases bound with rfl | rfl | rfl
  · refine unlogged_recorded fun arguments => ?_
    exact .bind (.writeLine _) fun _ => .pure _
  · exact unlogged_recorded (Sandbox.unlogged_function hF)
  · refine unlogged_recorded fun arguments => ?_
    exact .bind (Source.unlogged_read _ _) fun _ => .pure _

end Session

/-! ## Factories -/

theorem Bridge.unlogged_answer {functions : Functions} (unlogged : functions.Unlogged) (name : Text) (d : Datum)
    (log : List Notice) (w : World) : answer functions name d (w.preceded log) =
      ((answer functions name d w).1, (answer functions name d w).2.preceded log) := by
  unfold answer
  cases found : functions.find? (·.1 = name) with
  | none => rfl
  | some f =>
    have called : Action.Unlogged (call f.2 d) := by
      intro log w
      unfold call
      cases argumentsOf d with
      | error fault => rfl
      | ok items =>
        have same := unlogged f (List.mem_of_find?_eq_some found) (items.map Datum.shown) log w
        dsimp only
        rw [same]
        rcases f.2 (items.map Datum.shown) w with ⟨fault | r, v⟩
        · dsimp only
          split <;> rfl
        · rfl
    dsimp only
    rw [called log w]
    rcases call f.2 d w with ⟨fault | r, v⟩
    · rfl
    · rfl

/-- Isolates on the engine reach the world by the answers to what they ask. -/
theorem Isolate.Engine.unlogged : factory.Unlogged where
  make _ := .bind (.look fun _ _ => rfl) fun _ => .pure _
  run {functions} unlogged source b log w := by
    -- the machines of the two runs are the same at every question, and the worlds but for the log
    obtain ⟨same, machine, world⟩ := Script.Result.settle_related (R := fun v w => v = World.preceded log w)
      (f := host functions b) (g := host functions b)
      (by
        rintro q _ w rfl
        cases q with
        | call name d =>
          have answered := Bridge.unlogged_answer unlogged name d log w
          rw [host, Script.Host.sensing, answered]
          exact ⟨rfl, rfl⟩
        | _ => exact ⟨rfl, rfl⟩)
      ((Script.Engine.make b.bindings).evaluate (Text.toUtf16 source) b.machine) (w.preceded log) w rfl
    simp only [factory, run, Script.Bound.evaluate, same, machine, world]
  release _ _ := .pure _

namespace Isolate.Scripted

theorem unlogged_callByName {functions : Functions} (unlogged : functions.Unlogged) (name : Text)
    (arguments : List Text) : Unlogged (callByName functions name arguments) := by
  unfold callByName
  refine .bind (.attempt ?_) fun outcome => .change fun _ _ => rfl
  cases found : functions.find? (·.1 = name) with
  | none => exact .raise _
  | some f => exact unlogged f (List.mem_of_find?_eq_some found) arguments

theorem unlogged_calls {functions : Functions} (unlogged : functions.Unlogged) : ∀ calls : List (Text × List Text),
    Unlogged (calls.forM fun (name, arguments) => callByName functions name arguments : Action Unit)
  | [] => .pure _
  | (name, arguments) :: rest =>
    .bind (unlogged_callByName unlogged name arguments) fun _ => unlogged_calls unlogged rest

/-- Whatever is written down for them, isolates that follow a script do not look at the log. -/
theorem unlogged (p : Plot) : (factory p).Unlogged where
  make _ := by
    have next : Unlogged nextRefusal := by
      intro log w
      rcases refusals : w.refusals with _ | ⟨r, rest⟩
      · simp [nextRefusal, World.preceded, refusals]
      · simp [nextRefusal, World.preceded, refusals]
    refine .bind next fun r => ?_
    cases r with
    | none => exact .pure _
    | some f => exact .raise f
  run {functions} unlogged source core log w := by
    have played : Unlogged (p.evaluate functions source) := by
      unfold Plot.evaluate
      split
      · refine .bind (unlogged_calls unlogged _) fun _ => ?_
        split
        · exact .raise _
        · exact .pure _
      · exact .pure _
    simp only [factory, played log w]
  release _ _ := by
    simp only [factory]
    split
    · exact .raise _
    · exact .pure _

end Isolate.Scripted

end ScriptHost
