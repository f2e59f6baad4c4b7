/-
Orderly histories. What may happen when is a rule about an occurrence between what happened before it and
what happens after it: requests for a sandbox are whole, a factory is asked for a sandbox by requests
only and never with functions, nothing but the run of a sandbox goes on while one is open, and few
isolates are open at a time. Requests and calls keep the rule wherever at most a host is open.
-/
import ScriptHost.Proofs.Sandbox

namespace ScriptHost

/-- What concerns an isolate that is open. -/
def Occurrence.Inner : Occurrence → Prop
  | .given .. | .gave .. | .closed .. => True
  | _ => False

/-- Not a request for a sandbox, and nothing that one begins with. -/
def Occurrence.Plain : Occurrence → Prop
  | .requested _ => False
  | .asked purpose _ => purpose ≠ Sandbox.purpose
  | .called name _ => name ≠ "sandbox"
  | _ => True

namespace History

/-- At most one sandbox is open, and at most two isolates in all. -/
structure Few (rs : List IsolateRecord) : Prop where
  sandboxes : rs.countP (fun r => r.purpose = Sandbox.purpose && !r.closed) ≤ 1
  all : rs.countP (fun r => !r.closed) ≤ 2

/-- No sandbox is open, and at most one isolate at all. -/
structure Hosted (rs : List IsolateRecord) : Prop where
  sandboxes : ∀ r ∈ rs, r.purpose = Sandbox.purpose → r.closed = true
  all : rs.countP (fun r => !r.closed) ≤ 1

/-- What holds of an occurrence between what happened before and after it. -/
structure Allowed (before : History) (o : Occurrence) (after : History) : Prop where
  /-- A request takes its whole course. -/
  whole : ∀ t, o = .requested t →
    ∃ r rest, o :: after = r ++ rest ∧ Request before.records.length t r
  /-- A sandbox is made on request only, and without functions. -/
  asked : ∀ functions, o = .asked Sandbox.purpose functions →
    functions = none ∧ ∃ t, before.getLast? = some (.requested t)
  /-- A script that calls for a sandbox has its argument evaluated. -/
  argument : ∀ arguments, o = .called "sandbox" arguments →
    after.head? = some (.requested (arguments.headD Sandbox.missingSource))
  /-- Nothing happens while a sandbox is open but that it is given a source, is done with it or closed. -/
  alone : ¬ o.Inner → ∀ r ∈ before.records, r.purpose = Sandbox.purpose → r.closed = true
  few : Few (recordsNext before.records o)

/-- Every occurrence of a history is allowed after `before`. -/
def Orderly (before : History) : History → Prop
  | [] => True
  | o :: rest => Allowed before o rest ∧ Orderly (before ++ [o]) rest

/-! ## Few isolates -/

section Few

variable {rs qs : List IsolateRecord}

theorem Hosted.few (h : Hosted rs) : Few rs where
  sandboxes := by
    refine Nat.le_trans (List.countP_mono_left fun r _ hr => ?_) h.all
    simpa using (Bool.and_eq_true_iff.1 hr).2
  all := Nat.le_trans h.all (by decide)

theorem Hosted.few_concat (h : Hosted rs) (r : IsolateRecord) : Few (rs ++ [r]) where
  sandboxes := by
    have none : rs.countP (fun r => r.purpose = Sandbox.purpose && !r.closed) = 0 := by
      rw [List.countP_eq_zero]
      intro r hr both
      obtain ⟨kind, opened⟩ := Bool.and_eq_true_iff.1 both
      rw [h.sandboxes r hr (of_decide_eq_true kind)] at opened
      cases opened
    rw [List.countP_append, none, Nat.zero_add]
    exact List.countP_le_length
  all := by
    rw [List.countP_append]
    exact Nat.add_le_add h.all List.countP_le_length

theorem Hosted.append (h : Hosted rs) (closed : ∀ r ∈ qs, r.closed = true) : Hosted (rs ++ qs) where
  sandboxes r hr kind := by
    rcases List.mem_append.1 hr with hr | hr
    · exact h.sandboxes r hr kind
    · exact closed r hr
  all := by
    have none : qs.countP (fun r => !r.closed) = 0 := by
      rw [List.countP_eq_zero]
      intro r hr
      simp [closed r hr]
    rw [List.countP_append, none]
    exact h.all

theorem closed_sandboxes (h : History) : ∀ r ∈ h.sandboxes, r.closed = true := by
  intro r hr
  obtain ⟨t, rfl⟩ := mem_sandboxes hr
  rfl

end Few

/-! ## Putting histories together -/

section Orderly

variable {before h g : History} {o : Occurrence}

theorem Allowed.append (a : Allowed before o h) (g : History) : Allowed before o (h ++ g) where
  whole t ht := by
    obtain ⟨r, rest, e, request⟩ := a.whole t ht
    exact ⟨r, rest ++ g, by rw [← List.cons_append, e, List.append_assoc], request⟩
  asked := a.asked
  argument arguments ho := by rw [List.head?_append, a.argument arguments ho]; rfl
  alone := a.alone
  few := a.few

theorem Orderly.append (hh : Orderly before h) (hg : Orderly (before ++ h) g) :
    Orderly before (h ++ g) := by
  induction h generalizing before with
  | nil => simpa using hg
  | cons o rest ih =>
    obtain ⟨allowed, others⟩ := hh
    exact ⟨allowed.append g, ih others (by simpa using hg)⟩

/-- In an orderly history every occurrence is allowed where it stands. -/
theorem Orderly.allowed (hh : Orderly before h) {pre post : History} (e : h = pre ++ o :: post) :
    Allowed (before ++ pre) o post := by
  induction pre generalizing before h with
  | nil =>
    subst e
    simpa using hh.1
  | cons p pre ih =>
    subst e
    simpa using ih hh.2 rfl

theorem Allowed.of_plain (plain : o.Plain) (alone : o.Inner ∨ Hosted before.records)
    (few : Few (recordsNext before.records o)) : Allowed before o h where
  whole t ht := by rw [ht] at plain; cases plain
  asked _ ho := by rw [ho] at plain; exact absurd rfl plain
  argument _ ho := by rw [ho] at plain; exact absurd rfl plain
  alone inner := by
    rcases alone with yes | hosted
    · exact absurd yes inner
    · exact hosted.sandboxes
  few := few

end Orderly

/-! ## Requests and calls -/

section Requests

variable {before : History} {t : Text} {r c : History}

theorem Request.records (hr : Request before.records.length t r) :
    History.records (before ++ r) = before.records ++ r.sandboxes := by
  rw [records_append]
  cases hr with
  | refused f => simp [recordsNext, sandboxes]
  | served outcome released =>
    simp [recordsNext, modify_append_cons, sandboxes, Sandbox.record]

/-- A sandbox that ends with a fault is answered for with a failed evaluation. -/
theorem Request.contained {n place : Nat} {f : Fault} {e : Evaluation} (hr : Request n t r)
    (gave : .gave place (.error f) ∈ r) (last : r.getLast? = some (.answered (.ok e))) :
    e.ok = false := by
  cases hr with
  | refused g => simp at gave
  | served outcome released =>
    have same : outcome = .error f := by
      simp only [List.mem_cons, Occurrence.gave.injEq, reduceCtorEq, false_or, List.not_mem_nil,
        or_false] at gave
      exact gave.2.symm
    have answer : (released.map fun _ => Evaluation.ofOutcome outcome) = .ok e := by
      simpa using last
    cases released with
    | error g => cases answer
    | ok u =>
      cases answer
      rw [same]
      rfl

/-- A request is orderly where at most a host is open. -/
theorem Request.orderly (hosted : Hosted before.records) (hr : Request before.records.length t r) :
    Orderly before r := by
  have few := hosted.few
  have begins : ∀ {rest : History}, r = .requested t :: rest → Allowed before (.requested t) rest := by
    intro rest e
    refine ⟨?_, by simp, by simp, fun _ => hosted.sandboxes, few⟩
    rintro t' ⟨⟩
    exact ⟨r, [], by rw [e, List.append_nil], hr⟩
  have asks : ∀ {rest : History},
      Allowed (before ++ [.requested t]) (.asked Sandbox.purpose none) rest := by
    intro rest
    refine ⟨by simp, by simp, by simp, fun _ => ?_, ?_⟩
    · rw [records_concat]
      exact hosted.sandboxes
    · rw [records_concat]
      exact few
  -- from the request on every occurrence is plain; the sandbox is open from its making to its closing
  cases hr with
  | refused f =>
    refine ⟨begins rfl, asks, .of_plain trivial (.inr ?_) ?_, .of_plain trivial (.inr ?_) ?_,
      trivial⟩ <;>
      simpa only [records_concat, recordsNext]
  | served outcome released =>
    have served : Hosted (before.records ++ [Sandbox.record t]) :=
      hosted.append (by simp [Sandbox.record])
    refine ⟨begins rfl, asks, .of_plain trivial (.inr ?_) ?_, .of_plain trivial (.inl trivial) ?_,
      .of_plain trivial (.inl trivial) ?_, .of_plain trivial (.inl trivial) ?_,
      .of_plain trivial (.inr ?_) ?_, .of_plain trivial (.inr ?_) ?_, trivial⟩ <;>
      simp only [records_concat, recordsNext, modify_append_cons]
    all_goals first
      | exact hosted
      | exact hosted.few_concat _
      | exact served

/-- A call on a function of a session is orderly where at most a host is open. -/
theorem Call.orderly (hosted : Hosted before.records) (hc : Call before.records.length c) :
    Orderly before c ∧ records (before ++ c) = before.records ++ c.sandboxes := by
  have few := hosted.few
  cases hc with
  | print args =>
    have plain : ("print" : Text) ≠ "sandbox" := by decide
    refine ⟨⟨.of_plain plain (.inr hosted) few, .of_plain trivial (.inr ?_) ?_, trivial⟩, ?_⟩
    · simpa only [records_concat, recordsNext]
    · simpa only [records_concat, recordsNext]
    · simp [records_append, recordsNext, sandboxes]
  | read args =>
    have plain : ("readfile" : Text) ≠ "sandbox" := by decide
    refine ⟨⟨.of_plain plain (.inr hosted) few, .of_plain trivial (.inr ?_) ?_,
      .of_plain trivial (.inr ?_) ?_, trivial⟩, ?_⟩
    iterate 4 simpa only [records_concat, recordsNext]
    simp [records_append, recordsNext, sandboxes]
  | @sandbox args r hr =>
    -- the request is orderly after the call, which changes no record
    have called : records (before ++ [.called "sandbox" args]) = before.records := records_concat ..
    have hr' := hr
    have hosted' := hosted
    rw [← called] at hr' hosted'
    have served : records (before ++ [.called "sandbox" args] ++ r) = before.records ++ r.sandboxes := by
      rw [hr'.records, called]
    have after := hosted.append (closed_sandboxes r)
    refine ⟨⟨⟨by simp, by simp, ?_, fun _ => hosted.sandboxes, few⟩, (hr'.orderly hosted').append
      ⟨.of_plain trivial (.inr ?_) ?_, trivial⟩⟩, ?_⟩
    · rintro _ ⟨⟩
      cases hr <;> rfl
    · rwa [served]
    · rw [served]
      exact after.few
    · have split : before ++ .called "sandbox" args :: (r ++ [.returned "sandbox"]) =
          before ++ [.called "sandbox" args] ++ r ++ [.returned "sandbox"] := by simp
      rw [split, records_concat, served]
      simp [recordsNext, sandboxes]

/-- So are calls one after the other. -/
theorem Calls.orderly (hosted : Hosted before.records) (hc : Calls before.records.length c) :
    Orderly before c ∧ records (before ++ c) = before.records ++ c.sandboxes := by
  induction hc with
  | none => exact ⟨trivial, by simp [sandboxes]⟩
  | @more h c hcs call ih =>
    obtain ⟨orderly, same⟩ := ih
    have length : before.records.length + History.made h = (records (before ++ h)).length := by
      rw [same, List.length_append, hcs.length_sandboxes]
    rw [length] at call
    have hosted' : Hosted (records (before ++ h)) := by
      rw [same]
      exact hosted.append (closed_sandboxes h)
    obtain ⟨orderly', same'⟩ := call.orderly hosted'
    refine ⟨orderly.append orderly', ?_⟩
    rw [← List.append_assoc, same', same, sandboxes_append, List.append_assoc]

/-- Calls between two occurrences that are neither requests nor calls. -/
theorem Calls.between {o o' : Occurrence} (plain : o.Plain) (alone : o.Inner ∨ Hosted before.records)
    (hosted : Hosted (recordsNext before.records o))
    (calls : Calls (recordsNext before.records o).length c) (plain' : o'.Plain)
    (few : Few (recordsNext (recordsNext before.records o ++ c.sandboxes) o')) :
    Orderly before (o :: (c ++ [o'])) ∧ records (before ++ o :: (c ++ [o'])) =
      recordsNext (recordsNext before.records o ++ c.sandboxes) o' := by
  have first : records (before ++ [o]) = recordsNext before.records o := records_concat ..
  rw [← first] at hosted calls
  obtain ⟨orderly, same⟩ := calls.orderly hosted
  rw [first] at same
  have split : before ++ o :: (c ++ [o']) = before ++ [o] ++ c ++ [o'] := by simp
  refine ⟨⟨.of_plain plain alone (first ▸ hosted.few), orderly.append ⟨?_, trivial⟩⟩, ?_⟩
  · refine .of_plain plain' (.inr ?_) ?_
    · rw [same]
      exact (first ▸ hosted).append (closed_sandboxes c)
    · rwa [same]
  · rw [split, records_concat, same]

end Requests

end History

end ScriptHost
