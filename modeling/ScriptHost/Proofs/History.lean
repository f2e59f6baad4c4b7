/-
Histories. A request for a sandbox and a call on a function of the host each leave a piece of history of
a fixed shape, which depends on how many isolates were made before. From a history alone one reads off
which isolates are open after it, which lines were printed, and which sandboxes were made and closed.
-/
import ScriptHost.Session

namespace ScriptHost

/-- The record of a sandbox that evaluated `source` and was closed. -/
def Sandbox.record (source : Text) : IsolateRecord :=
  { purpose := Sandbox.purpose, functions := none, sources := [source], closed := true, releases := 1 }

/-- The evaluation that an outcome counts as: a fault is a failed one. -/
def Evaluation.ofOutcome : Except Fault Evaluation → Evaluation
  | .ok e => e
  | .error f => .ofFault f

namespace History

/-! ## Shapes -/

/-- The history of one request for the evaluation of `t` after `n` isolates were made. The factory is
asked once, for an isolate without functions; one that is made is given `t` alone and is closed before
the request is answered, with the outcome unless letting go of the isolate ends with a fault. -/
inductive Request (n : Nat) (t : Text) : History → Prop
  | refused (f : Fault) : Request n t
      [.requested t, .asked Sandbox.purpose none, .refused f, .answered (.ok (.ofFault f))]
  | served (outcome : Except Fault Evaluation) (released : Except Fault Unit) : Request n t
      [.requested t, .asked Sandbox.purpose none, .made n Sandbox.purpose none, .given n t,
        .gave n outcome, .closed n, .released n released,
        .answered (released.map fun _ => .ofOutcome outcome)]

/-- The history of one call on a function of a session. -/
inductive Call (n : Nat) : History → Prop
  | print (args : List Text) : Call n [.called "print" args, .returned "print"]
  | read (args : List Text) : Call n
      [.called "readfile" args, .reading (args.headD Sandbox.missingSource), .returned "readfile"]
  | sandbox (args : List Text) {r : History} (h : Request n (args.headD Sandbox.missingSource) r) :
      Call n (.called "sandbox" args :: (r ++ [.returned "sandbox"]))

/-! ## What a history tells -/

/-- How many isolates were made. -/
def made (h : History) : Nat :=
  h.countP fun o => match o with
    | .made .. => true
    | _ => false

/-- The lines that were printed. -/
def printed (h : History) : List Text :=
  h.filterMap fun o => match o with
    | .called name args => if name = "print" then some (Text.join " " args) else none
    | _ => none

/-- The records of the isolates that were given a source, as sandboxes. -/
def sandboxes (h : History) : List IsolateRecord :=
  h.filterMap fun o => match o with
    | .given _ t => some (Sandbox.record t)
    | _ => none

/-- The records of all isolates after one more occurrence. -/
def recordsNext (rs : List IsolateRecord) : Occurrence → List IsolateRecord
  | .made _ purpose functions => rs ++ [{ purpose, functions }]
  | .given place source => rs.modify place fun r => { r with sources := r.sources ++ [source] }
  | .closed place => rs.modify place fun r => { r with closed := true, releases := r.releases + 1 }
  | _ => rs

/-- The records of the isolates that were made in a history, as it tells of them. -/
def records (h : History) : List IsolateRecord := h.foldl recordsNext []

/-- Calls one after the other. -/
inductive Calls (n : Nat) : History → Prop
  | none : Calls n []
  | more {h c : History} (before : Calls n h) (call : Call (n + made h) c) : Calls n (h ++ c)

section Append

variable (h g : History)

@[simp] theorem made_append : made (h ++ g) = made h + made g := List.countP_append

@[simp] theorem printed_append : printed (h ++ g) = printed h ++ printed g := List.filterMap_append

@[simp] theorem sandboxes_append : sandboxes (h ++ g) = sandboxes h ++ sandboxes g :=
  List.filterMap_append

theorem records_append : records (h ++ g) = g.foldl recordsNext (records h) := by
  simp [records]

@[simp] theorem records_concat (o : Occurrence) :
    records (h ++ [o]) = recordsNext (records h) o := by
  simp [records]

end Append

/-- Only the function that prints prints. -/
theorem printed_called {name : Text} (h : name ≠ "print") (args : List Text) :
    printed [.called name args] = [] := by
  simp [printed, h]

theorem Calls.single {n : Nat} {c : History} (h : Call n c) : Calls n c := by
  simpa using Calls.more .none (by simpa [made] using h)

/-! ## As many sandboxes as isolates -/

theorem Request.length_sandboxes {n : Nat} {t : Text} {r : History} (h : Request n t r) :
    (sandboxes r).length = made r := by
  cases h <;> simp [sandboxes, made]

theorem Call.length_sandboxes {n : Nat} {c : History} (h : Call n c) :
    (sandboxes c).length = made c := by
  cases h with
  | print => simp [sandboxes, made]
  | read => simp [sandboxes, made]
  | sandbox args h => simpa [sandboxes, made] using h.length_sandboxes

theorem Calls.length_sandboxes {n : Nat} {h : History} (hc : Calls n h) :
    (sandboxes h).length = made h := by
  induction hc with
  | none => rfl
  | more _ call ih => simp [ih, call.length_sandboxes]

theorem mem_sandboxes {h : History} {r : IsolateRecord} (hr : r ∈ sandboxes h) :
    ∃ t, r = Sandbox.record t := by
  obtain ⟨o, _, ho⟩ := List.mem_filterMap.1 hr
  split at ho
  · exact ⟨_, (Option.some.inj ho).symm⟩
  · cases ho

end History

end ScriptHost
