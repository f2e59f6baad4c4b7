/-
What an evaluation reports of a program: whether it ended with a value that became a string, the string,
and whether it is that of the outcome itself. Where the global names `String` and `eval` stand for the
functions that they did at first, evaluating a source leaves that report as a list. The list waits until
the jobs have run. It crosses as it is, unless it meets a rule for writing lists out.
-/
import ScriptHost.Proofs.Script.Ages.Evaluate
import ScriptHost.Proofs.Script.Ended
import ScriptHost.Proofs.Script.HostCall

namespace ScriptHost.Script

variable {σ : Type}

/-! ## Reports -/

/-- What is reported of a program. -/
structure Report where
  ok : Bool
  text : Utf16
  stringified : Bool

namespace Report

/-- The report as a list. -/
def object (r : Report) : Obj := .listing [.bool r.ok, .string r.text, .bool r.stringified]

/-- The report as the host sees it. -/
def datum (r : Report) : Datum := .list [.bool r.ok, .text (Utf16.toText r.text), .bool r.stringified]

end Report

namespace Engine

/-- The program of a source, begun without the names that lead out of the engine. -/
def program (e : Engine) (source : Utf16) : Run Value := do
  e.strip strippedNames
  e.runGlobally source

/-- The value that a program gave or threw. -/
def outcomeOf : Except Value Value → Value
  | .ok v => v
  | .error v => v

/-- The report on a program that ended; none where making a string of its outcome never ends. -/
def reportOn (e : Engine) (host : Host σ) (ended : Except Value Value)
    (m : Machine) (w : σ) : Option (Report × Machine × σ) :=
  match (e.toUnits (outcomeOf ended) m).ended host w with
  | (some (.ok s), m, w) => some (⟨ended.isOk, s, true⟩, m, w)
  | (some (.error second), m, w) =>
    match (e.toUnits second m).ended host w with
    | (some (.ok s), m, w) => some (⟨false, s, false⟩, m, w)
    | (some (.error _), m, w) => some (⟨false, Utf16.ofString "Error", false⟩, m, w)
    | (none, _, _) => none
  | (none, _, _) => none

/-- The report on the program of a source, with the machine and the host as they are then; none if it
never ends. -/
def report (e : Engine) (host : Host σ) (source : Utf16) (m : Machine) (w : σ) :
    Option (Report × Machine × σ) :=
  match (e.program source m).ended host w with
  | (some ended, m, w) => e.reportOn host ended m w
  | (none, _, _) => none

/-- A machine on which evaluations find what they did at first: the function that makes strings, and
that which evaluates sources. -/
structure Ready (e : Engine) (m : Machine) : Prop where
  scope : m.scopes[0]? = some .global
  converts : Holds m .string (e.own? m .global "String")
  evaluates : Holds m .eval (e.own? m .global "eval")

/-- Lists that are made now meet no rule. -/
def unruledLists (e : Engine) (m : Machine) : Bool := e.unruled (m.grown (.listing [])) m.next

end Engine

/-! ## Removing names -/

/-- A changed heap has the objects that it had, or what they were changed to. -/
theorem Machine.object_modify (m : Machine) (q r : Ref) (f : Obj → Obj) :
    { m with heap := m.heap.modify q.index f }.object r = m.object r ∨
      { m with heap := m.heap.modify q.index f }.object r = f (m.object r) := by
  rcases found : m.heap[r.index]? with _ | o
  · exact .inl (by simp [object, Array.getElem?_modify, found])
  · by_cases here : q.index = r.index
    · exact .inr (by simp [object, Array.getElem?_modify, found, here])
    · exact .inl (by simp [object, Array.getElem?_modify, found, here])

namespace Engine

/-- `n` is `m` without some of these global names: all else is found as before. -/
structure Stripped (e : Engine) (names : List String) (m n : Machine) : Prop where
  rest : ∃ heap : Array Obj, heap.size = m.heap.size ∧ n = { m with heap }
  kind : ∀ r, (n.object r).kind = (m.object r).kind
  parent : ∀ r, (n.object r).parent = (m.object r).parent
  own : ∀ k : Key, (∀ s ∈ names, k ≠ s) → ∀ r, e.own? n r k = e.own? m r k
  others : ∀ r ≠ .global, n.object r = m.object r

variable {e d : Engine} {m n : Machine}

namespace Stripped

theorem refl (m : Machine) : e.Stripped [] m m :=
  ⟨⟨m.heap, rfl, rfl⟩, fun _ => rfl, fun _ => rfl, fun _ _ _ => rfl, fun _ _ => rfl⟩

theorem trans {l : Machine} {s : String} {names : List String} (a : e.Stripped [s] l m)
    (b : e.Stripped names m n) : e.Stripped (s :: names) l n where
  rest := by
    obtain ⟨heap, size, rfl⟩ := a.rest
    obtain ⟨heap', size', rfl⟩ := b.rest
    exact ⟨heap', size'.trans size, rfl⟩
  kind r := (b.kind r).trans (a.kind r)
  parent r := (b.parent r).trans (a.parent r)
  own k other r := by
    rw [b.own k fun t there => other t (List.mem_cons_of_mem s there)]
    exact a.own k (fun t there => other t (by simp_all)) r
  others r other := (b.others r other).trans (a.others r other)

end Stripped

/-- Removing a global name removes it or leaves it, and nothing else changes. -/
theorem remove_apply (e : Engine) (s : String) (m : Machine) :
    ∃ b n, e.remove .global s m = .value b n ∧ e.Stripped [s] m n := by
  have same : e.Stripped [s] m m :=
    ⟨⟨m.heap, rfl, rfl⟩, fun _ => rfl, fun _ => rfl, fun _ _ _ => rfl, fun _ _ => rfl⟩
  unfold remove
  rw [Run.bind_apply, Run.look_apply, Result.follow_value]
  rcases e.own? m .global s with _ | slot
  · exact ⟨true, m, rfl, same⟩
  · dsimp only
    split
    · have gone : ∀ r, (m.updated .global (Obj.remove s)).object r = m.object r ∨
          (m.updated .global (Obj.remove s)).object r = (m.object r).remove s := fun r =>
        Machine.object_modify m .global r (Obj.remove s)
      refine ⟨true, m.updated .global (Obj.remove s), rfl, ⟨_, Machine.updated_size _ m, rfl⟩, fun r => ?_,
        fun r => ?_, fun k other r => own?_congr ?_, fun r other => Machine.updated_object_of_ne _ other⟩
      · rcases gone r with h | h <;> rw [h]
        rfl
      · rcases gone r with h | h <;> rw [h]
        rfl
      · rcases gone r with h | h <;> rw [h]
        rw [Obj.own?_remove (other s (List.mem_singleton_self s))]
    · exact ⟨false, m, rfl, same⟩

/-- Stripping ends with a value, whatever the names stand for. -/
theorem strip_apply (e : Engine) : ∀ (names : List String) (m : Machine),
    ∃ n, e.strip names m = .value () n ∧ e.Stripped names m n
  | [], m => ⟨m, rfl, .refl m⟩
  | s :: names, m => by
    obtain ⟨b, l, removed, first⟩ := remove_apply e s m
    obtain ⟨n, stripped, others⟩ := strip_apply e names l
    refine ⟨n, ?_, first.trans others⟩
    simp only [strip, Run.bind_apply, Run.discard_apply, removed, Result.follow_value, stripped]

/-! ## Crossing over -/

/-- Where only other names were removed, the list of a report meets the rules that lists did before. -/
theorem unruled_report {l : Machine} {names : List String} (gone : e.Stripped names m l)
    (other : ∀ s ∈ names, ("toJSON" : Key) ≠ s) (heap : n.heap = l.heap) (report : Report) :
    e.unruled (n.grown report.object) n.next = e.unruledLists m := by
  have size : n.heap.size = m.heap.size := by
    obtain ⟨_, size, rfl⟩ := gone.rest
    rw [heap, size]
  have object : ∀ r, n.object r = l.object r := fun r => by rw [Machine.object, heap, Machine.object]
  have next : n.next = m.next := congrArg Ref.mk size
  have at_next : (n.grown report.object).object m.next = report.object := next ▸ Machine.object_next _ n
  have before : ∀ r ≠ m.next, (n.grown report.object).object r = l.object r ∧
      (m.grown (.listing [])).object r = m.object r := fun r ne =>
    ⟨(Machine.object_grown_of_ne _ (next ▸ ne)).trans (object r), Machine.object_grown_of_ne _ ne⟩
  have noRule : report.object.own? "toJSON" = none := rfl
  have noRule' : (Obj.listing []).own? "toJSON" = none := rfl
  rw [unruledLists, next]
  -- the new lists differ in their items, and all that was there before is the same for both
  refine unruled_congr (by simp [Machine.grown, size]) (fun r => ?_) (fun r => ?_) (fun r => ?_) _
  · by_cases ne : r = m.next
    · rw [own?, own?, ne, at_next, Machine.object_next, noRule, noRule']
    · rw [own?_congr (m := l) (by rw [(before r ne).1]), gone.own "toJSON" other r]
      exact (own?_congr (by rw [(before r ne).2])).symm
  · by_cases ne : r = m.next
    · rw [ne, at_next, Machine.object_next]
      rfl
    · rw [(before r ne).1, (before r ne).2, gone.parent]
  · by_cases ne : r = m.next
    · rw [ne, at_next, Machine.object_next]
      rfl
    · rw [(before r ne).1, (before r ne).2, Obj.isCallable, gone.kind, Obj.isCallable]

theorem toLength_three : e.toLength (.number (Float.ofNat 3)) m = .value 3 m := rfl

/-- A report crosses as it is where it meets no rule. -/
theorem jsonTree_report {r : Ref} (other : r ≠ .global) (report : Report)
    (there : m.object r = report.object) (unruled : (above e).unruled m r = true) :
    (above e).jsonTree {} [] .undefined (.name []) (.object r) m =
      .value (some (.array [.bool report.ok, .string report.text, .bool report.stringified])) m := by
  refine jsonTree_list other there unruled (by simp [Value.ref?]) ?_ toLength_three
  rintro (_ | _ | _ | i) v at_i <;> cases at_i <;> rfl

/-! ## What is left over -/

/-- Where nothing waits and no rejection was left behind, nothing is left over. -/
theorem leftOver_still (jobs : m.jobs = []) (unhandled : m.unhandled = []) :
    e.leftOver m = .value none m := by
  have ran : e.runJobs m = .value () m := by
    rw [runJobs, Run.loop_apply]
    simp only [Run.bind_apply, Run.look_apply, Result.follow_value, jobs]
    rfl
  simp only [leftOver, Run.bind_apply, ran, Run.look_apply, Result.follow_value, unhandled]
  rfl

/-- Running the jobs ends when none waits. -/
theorem runJobs_done {host : Host σ} {w u : σ}
    (ended : (e.runJobs m).ended host w = (some (.ok ()), n, u)) : n.jobs = [] := by
  refine Run.ended_turns (P := (·.jobs = [])) (fun {a b m n w u} turned => ?_) _ () m w ended
  rw [Run.bind_apply, Run.look_apply, Result.follow_value] at turned
  rcases jobs : m.jobs with _ | ⟨j, rest⟩ <;> rw [jobs] at turned
  · cases turned
    exact jobs
  · -- a turn that runs a job asks for another one
    have more : ((do
        Run.change fun m => { m with jobs := rest }
        e.runJob j
        return .inl () : Run (Unit ⊕ Unit)) m).Gives (· = .inl ()) :=
      Run.gives_bind fun _ _ => Run.gives_bind fun _ _ => rfl
    exact absurd (more.ended turned) nofun

/-- When what is left over has been taken, no job waits and no rejection is left behind. -/
theorem leftOver_done {host : Host σ} {w u : σ} {o : Option Value}
    (ended : (e.leftOver m).ended host w = (some (.ok o), n, u)) : n.jobs = [] ∧ n.unhandled = [] := by
  rcases ran : (e.runJobs m).ended host w with ⟨_ | _ | _, l, x⟩
  · rw [leftOver, Run.ended_bind_none _ ran] at ended
    cases ended
  · rw [leftOver, Run.ended_bind_error _ ran] at ended
    cases ended
  · have jobs := runJobs_done ran
    rw [leftOver, Run.ended_bind _ ran, Run.bind_apply, Run.look_apply, Result.follow_value] at ended
    rcases unhandled : l.unhandled with _ | ⟨r, rest⟩ <;> rw [unhandled] at ended
    · cases ended
      exact ⟨jobs, unhandled⟩
    · dsimp only at ended
      rw [Run.bind_apply, Run.change, Result.follow_value, Run.bind_apply] at ended
      obtain ⟨s, -, state⟩ | state := Run.promiseState?_apply r { l with unhandled := [] } <;>
        rw [state] at ended
      · cases s <;> cases ended <;> exact ⟨jobs, rfl⟩
      · cases ended
        exact ⟨jobs, rfl⟩

/-! ## Evaluating -/

section Evaluating

variable {host : Host σ} {w u : σ} {source : Utf16} {report : Report}

/-- Calling the function that makes strings makes a string. -/
theorem ended_call_string {f : Ref} (kind : (m.object f).kind = .native .string) {v : Value}
    {r : Except Value Utf16} (ended : (d.toUnits v m).ended host w = (some r, n, u)) :
    ((above d).call (.object f) .undefined [v] m).ended host w = (some (r.map Value.string), n, u) := by
  have call : (above d).call (.object f) .undefined [v] m =
      (d.toUnits v >>= fun s => pure (.string s)) m := callValue_native kind _ _
  rw [call]
  cases r with
  | ok s => exact Run.ended_bind _ ended
  | error thrown => exact Run.ended_bind_error _ ended

/-- The list that describes what a program ended with is that of the report on it. -/
theorem describeOutcome_report (hd : d.Ages) {f : Ref} (kind : (m.object f).kind = .native .string)
    {ended : Except Value Value} (reported : d.reportOn host ended m w = some (report, n, u)) :
    ((above d).describeOutcome (.object f) ended m).ended host w =
      (some (.ok n.next), n.grown report.object, u) := by
  have described : (above d).describeOutcome (.object f) ended = (do
      match (← Run.attempt ((above d).call (.object f) .undefined [outcomeOf ended])) with
      | .ok text => outcomeArray ended.isOk text true
      | .error second =>
        match (← Run.attempt ((above d).call (.object f) .undefined [second])) with
        | .ok text => outcomeArray false text false
        | .error _ => outcomeArray false (.string "Error") false) := by
    cases ended <;> rfl
  rw [described]
  unfold reportOn at reported
  split at reported
  · next s n₁ w₁ first =>
    cases reported
    rw [Run.ended_attempt_bind _ (ended_call_string kind first)]
    rfl
  · next second n₁ w₁ first =>
    have kind' := ((ages_toUnits hd _).ended first).native kind
    rw [Run.ended_attempt_bind _ (ended_call_string kind first)]
    dsimp only [Except.map]
    split at reported
    · next s n₂ w₂ again =>
      cases reported
      rw [Run.ended_attempt_bind _ (ended_call_string kind' again)]
      rfl
    · next third n₂ w₂ again =>
      cases reported
      rw [Run.ended_attempt_bind _ (ended_call_string kind' again)]
      rfl
    · cases reported
  · cases reported

theorem Ready.readName (ready : d.Ready m) {k : Utf16} {f : Ref} {v en c : Bool}
    (own : d.own? m .global (.ofUnits k) = some (.data (.object f) v en c)) :
    (above d).readName .global k m = .value (.object f) m :=
  readName_global (e := above d) (by rw [ready.scope]; rfl) own

/-- Stripping takes away neither of the functions that an evaluation needs. -/
theorem Ready.stripped (ready : d.Ready m) (gone : d.Stripped strippedNames m n) : d.Ready n where
  scope := by
    obtain ⟨heap, -, rfl⟩ := gone.rest
    exact ready.scope
  converts := by
    obtain ⟨f, w, en, c, own, kind⟩ := ready.converts
    rw [gone.own _ (by decide +kernel)]
    exact ⟨f, w, en, c, own, (gone.kind f).trans kind⟩
  evaluates := by
    obtain ⟨f, w, en, c, own, kind⟩ := ready.evaluates
    rw [gone.own _ (by decide +kernel)]
    exact ⟨f, w, en, c, own, (gone.kind f).trans kind⟩

/-- Evaluating a source leaves the report on its program as the newest object. -/
theorem evaluateToArray_report (hd : d.Ages) (ready : d.Ready m)
    (reported : d.report host source m w = some (report, n, u)) :
    ((above d).evaluateToArray source m).ended host w =
      (some (.ok n.next), n.grown report.object, u) := by
  obtain ⟨f, _, _, _, string, string_kind⟩ := ready.converts
  obtain ⟨l, strip, gone⟩ := strip_apply d strippedNames m
  have ready' := ready.stripped gone
  obtain ⟨g, _, _, _, eval, eval_kind⟩ := ready'.evaluates
  have read : (above d).readName .global stringName m = .value (.object f) m := ready.readName string
  have strip' : (above d).strip strippedNames m = .value () l := strip
  have read_eval : (above d).readName .global evalName l = .value (.object g) l := ready'.readName eval
  -- the function that evaluates sources runs this one as the program
  have call : (above d).call (.object g) .undefined [.string source] l = d.runGlobally source l :=
    callValue_native eval_kind _ _
  have run : (above d).runByName source l = d.program source m := by
    simp only [runByName, program, Run.bind_apply, read_eval, strip, call, Result.follow_value]
  unfold Engine.report at reported
  split at reported
  · next ended n₁ w₁ program =>
    have kind : (n₁.object f).kind = .native .string :=
      (Run.Ages.ended (.bind (ages_strip _) fun _ => ages_runGlobally hd source) program).native string_kind
    have ran : ((above d).runByName source l).ended host w = (some ended, n₁, w₁) := by rw [run, program]
    rw [evaluateToArray, Run.bind_apply, read, Result.follow_value]
    simp only [Run.bind_apply, strip', Result.follow_value]
    rw [← Run.bind_apply, Run.ended_attempt_bind _ ran]
    exact describeOutcome_report hd kind reported
  · cases reported

/-- The newest object of a later machine is not the global one. -/
theorem Ready.next_ne (ready : d.Ready m) (later : m.Later n) : n.next ≠ .global := by
  obtain ⟨f, _, _, _, -, kind⟩ := ready.converts
  have there : f.index < m.heap.size := Machine.lt_of_kind (by rw [kind]; nofun)
  have grown := (later.kinds .global (Nat.lt_of_le_of_lt (Nat.zero_le _) there)).1
  intro same
  rw [← same] at grown
  exact Nat.lt_irrefl _ grown

/-- Only of a program that gave a value, which became a string, is it reported that all went well. -/
theorem report_ok (reported : d.report host source m w = some (report, n, u)) (ok : report.ok = true) :
    report.stringified = true ∧ ∃ v l x, (d.program source m).ended host w = (some (.ok v), l, x) ∧
      (d.toUnits v l).ended host x = (some (.ok report.text), n, u) := by
  unfold Engine.report at reported
  split at reported
  · next ended l x program =>
    unfold reportOn at reported
    split at reported
    · next s _ _ first =>
      cases reported
      cases ended with
      | ok v => exact ⟨rfl, v, l, x, program, first⟩
      | error v => cases ok
    · split at reported <;> cases reported <;> cases ok
    · cases reported
  · cases reported

/-- A report leads from a machine to later ones only. -/
theorem report_ages (hd : d.Ages) (reported : d.report host source m w = some (report, n, u)) :
    m.Later n := by
  unfold Engine.report at reported
  split at reported
  · next ended n₁ w₁ program =>
    have ran : m.Later n₁ := Run.Ages.ended (.bind (ages_strip _) fun _ => ages_runGlobally hd source) program
    unfold reportOn at reported
    split at reported
    · next first =>
      cases reported
      exact ran.trans ((ages_toUnits hd _).ended first)
    · next first =>
      have converted := ran.trans ((ages_toUnits hd _).ended first)
      split at reported
      · next again =>
        cases reported
        exact converted.trans ((ages_toUnits hd _).ended again)
      · next again =>
        cases reported
        exact converted.trans ((ages_toUnits hd _).ended again)
      · cases reported
    · cases reported
  · cases reported

section Answers

variable (hd : d.Ages) (ready : (above d).Ready m)
  (reported : (above d).report host source m w = some (report, n, u))
include hd ready reported

/-- Where the jobs leave no rejection over and the report meets no rule, it is the answer. -/
theorem evaluate_report {n' : Machine} {u' : σ}
    (jobs : ((above (above d)).leftOver (n.grown report.object)).ended host u = (some (.ok none), n', u'))
    (there : n'.object n.next = report.object) (unruled : (above d).unruled n' n.next = true) :
    ((above (above d)).evaluate source m).settle host w = (some (.reply report.datum), n', u') := by
  have he := above_ages hd
  have list := evaluateToArray_report he ready reported
  have crossed : (above (above d)).json {} [] .undefined (.name []) (.object n.next) n' =
      .value (some (.array [.bool report.ok, .string report.text, .bool report.stringified])) n' :=
    jsonTree_report (ready.next_ne (report_ages he reported)) report there unruled
  have opened : ((above (above d)).evaluateOpenly source m).ended host w =
      (some (.ok (.reply report.datum)), n', u') := by
    rw [evaluateOpenly, Run.ended_bind _ list, Run.ended_bind _ jobs]
    simp only [Run.bind_apply, crossed, Result.follow_value]
    rfl
  rw [Result.settle_eq_ended, Engine.evaluate, Run.ended_attempt_bind _ opened]
  rfl

omit hd ready reported in
/-- What is told of something thrown is a failure. -/
theorem gives_failed (v : Value) (m : Machine) :
    ((do return .failed (← e.thrownText v) : Run Outcome) m).Gives fun o => ∃ t, o = .failed t :=
  Run.gives_bind fun t _ => ⟨t, rfl⟩

/-- Where the jobs do anything else, the evaluation fails, if it ends. -/
theorem evaluate_spoiled
    (jobs : ∀ n' u', ((above (above d)).leftOver (n.grown report.object)).ended host u ≠
      (some (.ok none), n', u')) {o : Outcome}
    (settled : (((above (above d)).evaluate source m).settle host w).1 = some o) : ∃ t, o = .failed t := by
  have list := evaluateToArray_report (above_ages hd) ready reported
  have opened : ∀ o n' u', ((above (above d)).evaluateOpenly source m).ended host w = (some (.ok o), n', u') →
      ∃ t, o = .failed t := by
    intro o n' u' ended
    rw [evaluateOpenly, Run.ended_bind _ list] at ended
    rcases left : ((above (above d)).leftOver (n.grown report.object)).ended host u with ⟨_ | v | _ | v, x, y⟩
    · rw [Run.ended_bind_none _ left] at ended
      cases ended
    · rw [Run.ended_bind_error _ left] at ended
      cases ended
    · exact absurd left (jobs x y)
    · rw [Run.ended_bind _ left] at ended
      exact (gives_failed v x).ended ended
  rw [Result.settle_eq_ended, Engine.evaluate] at settled
  rcases openly : ((above (above d)).evaluateOpenly source m).ended host w with ⟨_ | v | o', n', u'⟩
  · rw [Run.ended_attempt_bind_none _ openly] at settled
    cases settled
  · rw [Run.ended_attempt_bind _ openly] at settled
    rcases told : ((do return .failed (← (above (above d)).thrownText v) : Run Outcome) n').ended host u' with
      ⟨_ | _ | o', _, _⟩ <;> rw [told] at settled <;> cases settled
    exact (gives_failed v n').ended told
  · rw [Run.ended_attempt_bind _ openly] at settled
    cases settled
    exact opened _ _ _ openly

end Answers

end Evaluating

end Engine

end ScriptHost.Script
