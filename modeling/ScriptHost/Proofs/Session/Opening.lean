/-
Opening a session is all or nothing, as far as the evaluation of the bootstrap yields a result. Whatever
fault opening ends with, the session is then closed with all its isolates, or it is the very fault that
the evaluation of the bootstrap itself ended with; that one leaves the session open. So over every run, an
isolate of a session is given the bootstrap first, and anything else only after the bootstrap ended well
or with a fault. The history of a run carries the argument: it tells what every isolate was given and what
came of it.
-/
import ScriptHost.Proofs.CommandLine.Run
import ScriptHost.Proofs.Session.Invariant

namespace ScriptHost

/-- The place of the isolate that something happened to, if it happened to one. -/
def Occurrence.place? : Occurrence → Option Nat
  | .made place .. | .given place _ | .gave place _ | .closed place | .released place _ => some place
  | _ => none

namespace History

/-- What the first source that was given to the isolate at a place came to. -/
def first (place : Nat) (h : History) : Option (Except Fault Evaluation) :=
  h.findSome? fun o => match o with
    | .gave p outcome => if p = place then some outcome else none
    | _ => none

/-- The isolate at a place was made for a session. -/
def Own (place : Nat) (h : History) : Prop := ∃ names, .made place Session.purpose names ∈ h

/-- What happened to isolates happened to those at the places from `n` up to `m`, none of which was made
for a session. -/
structure Foreign (n m : Nat) (h : History) : Prop where
  places : ∀ o ∈ h, ∀ place, o.place? = some place → n ≤ place ∧ place < m
  own : ∀ place, ¬ Own place h

variable {n m k place : Nat} {t : Text} {h g : History}

theorem first_append (place : Nat) (h g : History) :
    first place (h ++ g) = (first place h).or (first place g) := List.findSome?_append

theorem first_append_of_some {outcome : Except Fault Evaluation} (found : first place h = some outcome)
    (g : History) : first place (h ++ g) = some outcome := by
  rw [first_append, found, Option.some_or]

theorem first_of_none (no : ∀ o ∈ h, o.place? = some place → ∃ purpose names, o = .made place purpose names) :
    first place h = none := by
  rw [first, List.findSome?_eq_none_iff]
  intro o mem
  cases o with
  | gave p outcome =>
    by_cases here : p = place
    · obtain ⟨_, _, made⟩ := no _ mem (by rw [Occurrence.place?, here])
      cases made
    · simp [here]
  | _ => rfl

theorem Own.append_left (own : Own place h) (g : History) : Own place (h ++ g) := by
  obtain ⟨names, mem⟩ := own
  exact ⟨names, List.mem_append_left g mem⟩

theorem own_append : Own place (h ++ g) ↔ Own place h ∨ Own place g := by
  simp [Own, exists_or]

namespace Foreign

theorem nil : Foreign n m [] := ⟨by simp, by simp [Own]⟩

theorem single {o : Occurrence} (none : o.place? = none) : Foreign n m [o] := by
  refine ⟨by simp [none], ?_⟩
  rintro place ⟨names, mem⟩
  obtain rfl := List.mem_singleton.1 mem
  cases none

theorem append (a : Foreign n m h) (b : Foreign m k g) (le : n ≤ m) (le' : m ≤ k) :
    Foreign n k (h ++ g) := by
  refine ⟨fun o mem place at' => ?_, fun place own => ?_⟩
  · rcases List.mem_append.1 mem with mem | mem
    · have := a.places o mem place at'
      omega
    · have := b.places o mem place at'
      omega
  · rcases own_append.1 own with own | own
    · exact a.own place own
    · exact b.own place own

end Foreign

theorem Request.foreign (r : Request n t h) : Foreign n (n + made h) h := by
  have ne := Session.purpose_ne
  cases r <;> refine ⟨?_, ?_⟩ <;> simp [Occurrence.place?, Own, made, ne.symm]

theorem Call.foreign (c : Call n h) : Foreign n (n + made h) h := by
  cases c with
  | print args => exact (Foreign.single rfl).append (.single rfl) (Nat.le_refl _) (Nat.le_add_right _ _)
  | read args =>
    exact (Foreign.single rfl).append ((Foreign.single rfl).append (.single rfl) (Nat.le_refl _)
      (Nat.le_add_right _ _)) (Nat.le_refl _) (Nat.le_add_right _ _)
  | @sandbox args r request =>
    have same : made (.called "sandbox" args :: (r ++ [.returned "sandbox"])) = made r := by
      simp [made]
    rw [same]
    exact (Foreign.single rfl).append (request.foreign.append (.single rfl) (Nat.le_add_right _ _)
      (Nat.le_refl _)) (Nat.le_refl _) (Nat.le_add_right _ _)

theorem Calls.foreign (c : Calls n h) : Foreign n (n + made h) h := by
  induction c with
  | none => exact .nil
  | @more h c _ call ih =>
    rw [made_append, ← Nat.add_assoc]
    exact ih.append call.foreign (Nat.le_add_right _ _) (Nat.le_add_right _ _)

end History

namespace Session

open CommandLine History

variable {ι : Type} {F : Factory ι} {s s' : Session ι} {w w' : World} {h g : History} {n m : Nat}
  {settings : Settings} {files : Files}

/-! ## What an isolate of a session may be given -/

/-- An outcome that is not a failed evaluation. -/
def Sound (outcome : Except Fault Evaluation) : Prop := ∀ e, outcome = .ok e → e.ok = true

/-- Why a source was given to an isolate of a session after `before`: it is the bootstrap, and the first
source that the isolate is given, or the bootstrap has come to an end that is not a failure. -/
def Justified (settings : Settings) (files : Files) (place : Nat) (source : Text) (before : History) :
    Prop :=
  ((∀ t, .given place t ∉ before) ∧ ∃ origin, loaded settings files = .ok (source, origin)) ∨
    ∃ outcome, first place before = some outcome ∧ Sound outcome

/-- A history in which `n` isolates were made and those of sessions were given nothing without reason. -/
structure Recorded (settings : Settings) (files : Files) (n : Nat) (h : History) : Prop where
  places : ∀ o ∈ h, ∀ place, o.place? = some place → place < n
  given : ∀ before place source after, h = before ++ .given place source :: after → Own place before →
    Justified settings files place source before

namespace Recorded

theorem append (a : Recorded settings files n h) (le : n ≤ m)
    (places : ∀ o ∈ g, ∀ place, o.place? = some place → place < m)
    (given : ∀ before place source after, g = before ++ .given place source :: after →
      Own place (h ++ before) → Justified settings files place source (h ++ before)) :
    Recorded settings files m (h ++ g) := by
  refine ⟨fun o mem place at' => ?_, fun before place source after e own => ?_⟩
  · rcases List.mem_append.1 mem with mem | mem
    · exact Nat.lt_of_lt_of_le (a.places o mem place at') le
    · exact places o mem place at'
  · rcases List.append_eq_append_iff.1 e with ⟨mid, rfl, added⟩ | ⟨_ | ⟨o, mid⟩, rfl, added⟩
    · exact given mid place source after added own
    · simpa using given [] place source after added.symm (by simpa using own)
    · obtain ⟨rfl, rfl⟩ := List.cons_eq_cons.1 added
      exact a.given before place source mid rfl own

/-- Nothing is given to isolates of sessions where none is made and all others are new. -/
theorem foreign (a : Recorded settings files n h) (b : Foreign n m g) (le : n ≤ m) :
    Recorded settings files m (h ++ g) := by
  refine a.append le (fun o mem place at' => (b.places o mem place at').2) ?_
  rintro before place source after rfl own
  have new := (b.places (.given place source) (by simp) place rfl).1
  rcases own_append.1 own with ⟨names, mem⟩ | own
  · exact absurd (a.places _ mem place rfl) (Nat.not_lt.2 new)
  · exact absurd (own.append_left _) (b.own place)

theorem concat (a : Recorded settings files n h) (le : n ≤ m) {o : Occurrence}
    (inside : ∀ place, o.place? = some place → place < m)
    (given : ∀ place source, o = .given place source → Justified settings files place source h) :
    Recorded settings files m (h ++ [o]) := by
  refine a.append le (by simpa using inside) ?_
  intro before place source after e _
  rcases before with _ | ⟨_, _ | _⟩ <;> cases e
  simpa using given place source rfl

/-- Between two occurrences functions are called. -/
theorem between (a : Recorded settings files n h) (le : n ≤ m) {o o' : Occurrence}
    (inside : ∀ place, o.place? = some place → place < m)
    (given : ∀ place source, o = .given place source → Justified settings files place source h)
    (calls : Calls m g) {k : Nat} (le' : m + made g ≤ k)
    (inside' : ∀ place, o'.place? = some place → place < k) (plain : ∀ place t, o' ≠ .given place t) :
    Recorded settings files k (h ++ o :: (g ++ [o'])) := by
  have all := (((a.concat le inside given).foreign calls.foreign (Nat.le_add_right _ _)).concat le'
    inside' fun place t e => absurd e (plain place t))
  simpa using all

/-- Every move keeps it, in which what is given to the session's isolate is given for a reason. -/
theorem transition (a : Recorded s.settings w.files w.isolates.length w.history)
    (t : Transition F s w h s' w')
    (given : ∀ i source, s.isolate = some i → h.head? = some (.given i.place source) →
      Justified s.settings w.files i.place source w.history) :
    Recorded s'.settings w'.files w'.isolates.length w'.history := by
  rw [t.settings, t.grew.files, t.grew.history]
  cases t with
  | called calls served =>
    rw [served.isolates, List.length_append, calls.length_sandboxes]
    exact a.foreign calls.foreign (Nat.le_add_right _ _)
  | requested request served =>
    rw [served.isolates, List.length_append, request.length_sandboxes]
    exact a.foreign request.foreign (Nat.le_add_right _ _)
  | read served =>
    rw [served.isolates]
    exact a.foreign (.single rfl) (Nat.le_of_eq (by simp [sandboxes]))
  | @refused h f _ _ _ calls served =>
    refine a.between (Nat.le_refl _) (by simp [Occurrence.place?]) (by simp) calls ?_
      (by simp [Occurrence.place?]) (by simp)
    rw [served.isolates, List.length_append, ← calls.length_sandboxes]
    simp [sandboxes]
  | @opened h _ _ _ _ calls _ isolates =>
    have length : w'.isolates.length = w.isolates.length + made h + 1 := by
      rw [isolates, List.length_append, List.length_append, calls.length_sandboxes]
      rfl
    rw [length]
    refine a.between (Nat.le_refl _) (by simp [Occurrence.place?]) (by simp) calls (Nat.le_succ _) ?_
      (by simp)
    rintro place ⟨⟩
    exact Nat.lt_succ_self _
  | @evaluated i source h outcome _ _ before after sources isolate place isolates calls _ isolates' =>
    have inside : i.place < w.isolates.length := by simp [isolates, place]
    have length : w'.isolates.length = w.isolates.length + made h := by
      rw [isolates', isolates, ← calls.length_sandboxes]
      simp
      omega
    rw [length]
    refine a.between (Nat.le_refl _) ?_ ?_ calls (Nat.le_refl _) ?_ (by simp)
    · rintro _ ⟨⟩
      exact inside
    · rintro _ _ ⟨⟩
      exact given i source isolate rfl
    · rintro _ ⟨⟩
      exact Nat.lt_of_lt_of_le inside (Nat.le_add_right _ _)
  | @closed i h released _ before after sources isolate place isolates calls _ isolates' =>
    have inside : i.place < w.isolates.length := by simp [isolates, place]
    have length : w'.isolates.length = w.isolates.length + made h := by
      rw [isolates', isolates, ← calls.length_sandboxes]
      simp
      omega
    rw [length]
    refine a.between (Nat.le_refl _) ?_ (by simp) calls (Nat.le_refl _) ?_ (by simp)
    · rintro _ ⟨⟩
      exact inside
    · rintro _ ⟨⟩
      exact Nat.lt_of_lt_of_le inside (Nat.le_add_right _ _)
  | ended isolate => simpa using a

end Recorded

/-! ## Opening -/

/-- The isolate of an open session was given the bootstrap, which did not fail, and nothing was given
without reason to the isolates of sessions. -/
structure Trusted (s : Session ι) (w : World) : Prop where
  recorded : Recorded s.settings w.files w.isolates.length w.history
  current : ∀ i, s.isolate = some i → ∃ outcome, first i.place w.history = some outcome ∧ Sound outcome

/-- A move that opens no session leaves the place of the session's isolate as it is. -/
theorem Transition.place (t : Transition F s w h s' w') (opens : s.isolate = none → s'.isolate = none)
    {j : Isolate ι} (isolate : s'.isolate = some j) : ∃ i, s.isolate = some i ∧ i.place = j.place := by
  cases t with
  | called | requested | read | refused => exact ⟨j, isolate, rfl⟩
  | opened no => rw [opens no] at isolate; cases isolate
  | evaluated had =>
    cases isolate
    exact ⟨_, had, rfl⟩
  | closed => cases isolate
  | ended => cases isolate

/-- What happens when the isolate of a session is made. -/
theorem Transition.making {i : Isolate ι} (t : Transition F s w h s' w') (no : s.isolate = none)
    (isolate : s'.isolate = some i) : ∃ g, Calls w.isolates.length g ∧
      i.place = w.isolates.length + made g ∧
      h = .asked purpose (some functionNames) :: (g ++ [.made i.place purpose (some functionNames)]) := by
  cases t with
  | called | requested | read | refused => rw [no] at isolate; cases isolate
  | opened _ _ calls =>
    cases isolate
    exact ⟨_, calls, rfl, rfl⟩
  | evaluated had => rw [no] at had; cases had
  | closed => cases isolate
  | ended => cases isolate

/-- What opening a session ends with, and what it leaves. -/
structure Opened (r : (Except Fault Unit × Session ι) × World) : Prop where
  trusted : Trusted r.1.2 r.2
  /-- A fault leaves the session closed, unless it is what the bootstrap itself ended with. -/
  raised : ∀ f, r.1.1 = .error f → r.1.2.isOpen = false ∨
    ∃ i, r.1.2.isolate = some i ∧ r.2.history.getLast? = some (.gave i.place (.error f))
  returned : r.1.1 = .ok () → r.1.2.isOpen = true

theorem Trusted.move (tr : Trusted s w) (t : Transition F s w h s' w')
    (opens : s.isolate = none → s'.isolate = none) : Trusted s' w' := by
  refine ⟨tr.recorded.transition t fun i _ isolate _ => .inr (tr.current i isolate), fun j isolate => ?_⟩
  obtain ⟨i, had, place⟩ := t.place opens isolate
  obtain ⟨outcome, found, sound⟩ := tr.current i had
  rw [t.grew.history, ← place]
  exact ⟨outcome, first_append_of_some found h, sound⟩

/-- After the bootstrap came to an end the session is open or closed. -/
theorem settle_opened (hF : F.Confined) (st : Stage F s w)
    (told : Recorded s.settings w.files w.isolates.length w.history) {i : Isolate ι}
    (isolate : s.isolate = some i) {outcome : Except Fault Evaluation}
    (found : first i.place w.history = some outcome)
    (last : w.history.getLast? = some (.gave i.place outcome)) (origin : Text) :
    Opened (settle F origin outcome s w) := by
  have current : Sound outcome → ∀ j, s.isolate = some j →
      ∃ o, first j.place w.history = some o ∧ Sound o := by
    intro sound j same
    obtain rfl := Option.some.inj (isolate.symm.trans same)
    exact ⟨outcome, found, sound⟩
  cases outcome with
  | error f =>
    refine ⟨⟨told, current (by simp [Sound])⟩, fun g e => .inr ⟨i, isolate, ?_⟩, fun e => (by cases e)⟩
    obtain rfl : f = g := Except.error.inj e
    exact last
  | ok e =>
    cases ok : e.ok with
    | true =>
      have sound : Sound (.ok e) := by
        rintro _ ⟨⟩
        exact ok
      simp only [settle, ok, if_true, Step.act_apply, Action.report_apply]
      exact ⟨⟨told, current sound⟩, fun f e => (by cases e), fun _ => by simp [isOpen, isolate]⟩
    | false =>
      have st' : Stage F s (w.tell (.event (.bootstrapFailed origin e.value))) := st.of_isolates rfl
      obtain ⟨released, h, w', torn, _, t⟩ := tearDown_of_some hF st' isolate
      have told' : Recorded s.settings (w.tell (.event (.bootstrapFailed origin e.value))).files
          (w.tell (.event (.bootstrapFailed origin e.value))).isolates.length
          (w.tell (.event (.bootstrapFailed origin e.value))).history := told
      have shut : Trusted { s with isolate := none, tornDown := true } w' :=
        ⟨told'.transition t fun _ _ _ head => (by cases head), fun _ no => (by cases no)⟩
      have ends : ∃ f, settle F origin (.ok e) s w =
          ((.error f, { s with isolate := none, tornDown := true }), w') := by
        cases released with
        | error f => exact ⟨f, by simp [settle, ok, torn]⟩
        | ok u => exact ⟨_, by simp [settle, ok, torn]; rfl⟩
      obtain ⟨f, ends⟩ := ends
      rw [ends]
      exact ⟨shut, fun _ _ => .inl rfl, fun e => (by cases e)⟩

/-- The isolate of a session is made and given the bootstrap, or the session stays closed. -/
theorem boot_opened (hF : F.Confined) (st : Stage F s w) (isolate : s.isolate = none)
    (kept : s.tornDown = false) (told : Recorded s.settings w.files w.isolates.length w.history)
    {source origin : Text} (found : loaded s.settings w.files = .ok (source, origin)) :
    Opened (boot F source origin s w) := by
  rcases create_spec hF isolate kept w with ⟨f, h, w', e, _, t⟩ | ⟨i, h, w₁, e, _, _, t⟩
  · rw [boot_of_error e]
    refine ⟨⟨told.transition t fun i _ some => ?_, fun i some => ?_⟩, fun _ _ => .inl ?_, fun e => (by cases e)⟩
    · rw [isolate] at some
      cases some
    · rw [isolate] at some
      cases some
    · simp [isOpen, isolate]
  · have told₁ := told.transition t fun i _ some => by rw [isolate] at some; cases some
    obtain ⟨g, calls, place, shape⟩ := t.making isolate rfl
    -- nothing but its making has happened to the new isolate
    have new : ∀ o ∈ w₁.history, o.place? = some i.place → ∃ purpose names, o = .made i.place purpose names := by
      intro o mem at'
      rw [t.grew.history, shape] at mem
      simp only [List.mem_append, List.mem_cons, List.not_mem_nil, or_false] at mem
      rcases mem with mem | rfl | mem | rfl
      · have := told.places o mem _ at'
        omega
      · cases at'
      · have := (calls.foreign.places o mem _ at').2
        omega
      · exact ⟨_, _, rfl⟩
    have inside : i.place < w₁.isolates.length :=
      told₁.places (.made i.place purpose (some functionNames))
        (by rw [t.grew.history]; simp) _ rfl
    obtain ⟨outcome, core, g', w₂, e', calls', t'⟩ := evaluateIn_spec hF (st.transition t) rfl source
    have told₂ := told₁.transition t' fun j _ same head => by
      obtain rfl := Option.some.inj same
      cases head
      refine .inl ⟨fun u mem => ?_, origin, t.grew.files ▸ found⟩
      obtain ⟨_, _, no⟩ := new _ mem rfl
      cases no
    rw [boot_of_ok e e']
    refine settle_opened hF ((st.transition t).transition t') told₂ rfl ?_ ?_ origin
    · have others : first i.place g' = none := by
        refine first_of_none fun o mem at' => ?_
        have := (calls'.foreign.places o mem _ at').1
        omega
      rw [t'.grew.history, first_append, first_of_none new, Option.none_or]
      show (first i.place (g' ++ [.gave i.place outcome])) = _
      rw [first_append, others, Option.none_or]
      simp [first]
    · rw [t'.grew.history, ← List.cons_append, ← List.append_assoc]
      exact List.getLast?_concat

theorem start_opened (hF : F.Confined) (st : Stage F s w) (tr : Trusted s w) : Opened (start F s w) := by
  by_cases torn : s.tornDown = true
  · have e : start F s w = ((.error (.closed "host runtime has been torn down"), s), w) := by
      simp [start, torn]
    rw [e]
    exact ⟨tr, fun _ _ => .inl (by simp [isOpen, st.isolate_none torn]), fun e => (by cases e)⟩
  have kept : s.tornDown = false := by simpa using torn
  cases isolate : s.isolate with
  | some i =>
    have e : start F s w = ((.ok (), s), w) := by simp [start, isOpen, kept, isolate]
    rw [e]
    exact ⟨tr, fun _ e => (by cases e), fun _ => by simp [isOpen, isolate]⟩
  | none =>
    obtain ⟨w₁, e₁, served⟩ := load_apply s.settings w
    have told : Recorded s.settings w₁.files w₁.isolates.length w₁.history := by
      have foreign : Foreign w.isolates.length w₁.isolates.length (loading s.settings.bootstrapPath) := by
        cases s.settings.bootstrapPath with
        | none => exact .nil
        | some path => exact .single rfl
      rw [served.files, served.history]
      exact tr.recorded.foreign foreign (by simp [served.isolates])
    cases found : loaded s.settings w.files with
    | error f =>
      have e : start F s w = ((.error f, s), w₁) := by simp [start, isOpen, kept, isolate, e₁, found]
      rw [e]
      refine ⟨⟨told, fun i some => ?_⟩, fun _ _ => .inl (by simp [isOpen, isolate]), fun e => (by cases e)⟩
      rw [isolate] at some
      cases some
    | ok b =>
      obtain ⟨source, origin⟩ := b
      have e : start F s w = boot F source origin s w₁ := by
        simp [start, isOpen, kept, isolate, e₁, found]
      rw [e]
      exact boot_opened hF (st.served served) isolate kept told (served.files ▸ found)

/-- That a session trusts its isolate is kept by every operation. -/
theorem trusted_invariant (hF : F.Confined) : Invariant F Trusted where
  start _ _ st tr := (start_opened hF st tr).trusted
  move _ _ _ _ _ _ tr t opens := tr.move t opens

/-! ## All runs -/

/-- All or nothing, as far as it goes: what isolates of sessions were given so far, and what opening the
session does now. -/
structure Opening (F : Factory ι) (s : Session ι) (w : World) : Prop where
  /-- An isolate of a session is given the bootstrap first, and nothing else unless that came to an end
  that is not a failed evaluation. -/
  given : ∀ before place source after, w.history = before ++ .given place source :: after →
    Own place before → Justified s.settings w.files place source before
  /-- Opening that ends with a fault leaves the session closed with all isolates, unless the fault is what
  the evaluation of the bootstrap ended with, which was then the last that happened. -/
  raises : ∀ f, (start F s w).1.1 = .error f →
    ((start F s w).1.2.isOpen = false ∧ ∀ r ∈ (start F s w).2.isolates, r.closed = true) ∨
      ∃ i, (start F s w).1.2.isolate = some i ∧
        (start F s w).2.history.getLast? = some (.gave i.place (.error f))
  /-- Opening that returns leaves the session open, on a bootstrap that came to such an end. -/
  returns : (start F s w).1.1 = .ok () → ∃ i outcome, (start F s w).1.2.isolate = some i ∧
    first i.place (start F s w).2.history = some outcome ∧ Sound outcome

theorem Recorded.new (settings : Settings) (files : Files) : Recorded settings files 0 [] :=
  ⟨by simp, by simp⟩

/-- Between any two steps of any operations on a new session, opening is all or nothing unless the
evaluation of the bootstrap ends with a fault. -/
theorem passes_opening (hF : F.Confined) (settings : Settings) {w : World} (new : w.isolates = [])
    (blank : w.history = []) {operations : List Operation}
    (passes : Passes F operations { settings } w s' w') : Opening F s' w' := by
  have fresh : Trusted ({ settings } : Session ι) w := by
    refine ⟨?_, fun i no => by cases no⟩
    rw [blank, new]
    exact Recorded.new settings w.files
  obtain ⟨st, tr⟩ := (trusted_invariant hF).passes hF passes (stage_new settings new) fresh
  have opened := start_opened hF st tr
  obtain ⟨h, p⟩ := moves_start hF st
  have lifecycle := (st.path p).lifecycle
  refine ⟨tr.recorded.given, fun f e => ?_, fun e => ?_⟩
  · rcases opened.raised f e with shut | leaking
    · refine .inl ⟨shut, fun r mem => ?_⟩
      rcases lifecycle.kinds r mem with own | sandbox
      · cases closed : r.closed
        · have open' := lifecycle.isOpen.2
            ⟨r, List.mem_filter.2 ⟨mem, decide_eq_true own⟩, closed⟩
          rw [shut] at open'
          cases open'
        · rfl
      · exact lifecycle.sandboxes r mem sandbox
    · exact .inr leaking
  · obtain ⟨i, isolate⟩ := Option.isSome_iff_exists.1 (opened.returned e)
    obtain ⟨outcome, found, sound⟩ := opened.trusted.current i isolate
    exact ⟨i, outcome, isolate, found, sound⟩

/-- Isolates in which one source runs out of memory. -/
def leaking : Isolate.Scripted.Plot where
  scenes := [("1", { raised := some (.memory (some "heap exhausted")) })]

/-- A world with one file, which holds that source. -/
def leakingWorld : World := .holding [([[0x62]], .file [0x31] 1)]

/-- The session is open after all, and is given another source. -/
theorem passes_opening_leaking : ∃ (s' : Session Unit) (w' : World),
    Passes (Isolate.Scripted.factory leaking) [.trying [.start], .evaluateSource "2" defaultOrigin]
      { settings := { bootstrapPath := some "b" } } leakingWorld s' w' ∧
    Opening (Isolate.Scripted.factory leaking) s' w' ∧ s'.isOpen = true ∧
    w'.isolates = [record ["1", "2"] false] := by
  have passes := Passes.later (Passes.step (F := Isolate.Scripted.factory leaking)
    (.evaluateSource "2" defaultOrigin) []
    (perform (Isolate.Scripted.factory leaking) (.trying [.start])
      { settings := { bootstrapPath := some "b" } } leakingWorld).1.2 _)
  exact ⟨_, _, passes, passes_opening (Isolate.Scripted.confined leaking) _ rfl rfl passes, rfl, rfl⟩

end Session

end ScriptHost
