/-
What the isolate of a session is given, over every run. Which sources a run of operations hands over is read
off the operations and the situations they are begun in, whatever the evaluations end with; the isolate was
given the bootstrap and then exactly those, once each and in their order. Moves carry the argument: only one
kind of them gives a source to the isolate, and it gives one.
-/
import ScriptHost.Proofs.Session.Opening

namespace ScriptHost.Session

open CommandLine History

variable {ι α β : Type}

/-! ## What operations hand over -/

/-- The source at a path, where it can be read. -/
def readable (settings : Settings) (files : Files) (path : Text) : List Text :=
  (Source.outcome (reading settings) files path).toOption.toList

mutual

/-- The sources that an operation hands to the isolate of a session: those of its evaluations that are
begun while the session is open. -/
def handed (F : Factory ι) : Operation → Session ι → World → List Text
  | .evaluateSource source _, s, _ => if s.isOpen then [source] else []
  | .evaluateFile path, s, w => if s.isOpen then readable s.settings w.files path else []
  | .within body _, s, w =>
    match start F s w with
    | ((.ok _, s), w) => handedBy F body s w
    | _ => []
  | .trying body, s, w => handedBy F body s w
  | .start, _, _ | .sandbox _, _, _ | .evaluateSandbox _, _, _ | .call _ _, _, _ | .tearDown, _, _ => []

/-- Those that operations hand over up to the first that ends with a fault. -/
def handedBy (F : Factory ι) : List Operation → Session ι → World → List Text
  | [], _, _ => []
  | o :: rest, s, w => handed F o s w ++
    match perform F o s w with
    | ((.ok _, s), w) => handedBy F rest s w
    | _ => []

end

/-- What operations leave that are performed one after the other, whatever each of them ends with. -/
def performEach (F : Factory ι) : List Operation → Session ι → World → Session ι × World
  | [], s, w => (s, w)
  | o :: rest, s, w => performEach F rest (perform F o s w).1.2 (perform F o s w).2

/-- The sources that they hand over. -/
def handedEach (F : Factory ι) : List Operation → Session ι → World → List Text
  | [], _, _ => []
  | o :: rest, s, w => handed F o s w ++ handedEach F rest (perform F o s w).1.2 (perform F o s w).2

variable {F : Factory ι} {s s' : Session ι} {w w' : World} {h : History} {settings : Settings} {files : Files}
  {texts : List Text}

/-! ## What moves give -/

/-- Where a session has no isolate before and after a move, those of sessions stay as they are. -/
theorem Transition.hosts_kept (t : Transition F s w h s' w') (no : s.isolate = none) (no' : s'.isolate = none) :
    w'.hosts = w.hosts := by
  cases t with
  | called _ served => exact served_hosts served
  | requested _ served => exact served_hosts served
  | read served => exact served_hosts served
  | refused _ _ _ served => exact served_hosts served
  | opened => cases no'
  | evaluated isolate => rw [no] at isolate; cases isolate
  | closed isolate => rw [no] at isolate; cases isolate
  | ended => rfl

/-- The isolate of a session is new and the only one when it was just made. -/
theorem Transition.hosts_opened (t : Transition F s w h s' w') (st : Stage F s w) (no : s.isolate = none)
    (kept : s.tornDown = false) {i : Isolate ι} (isolate : s'.isolate = some i) :
    w'.hosts = [record [] false] := by
  have none_before : w.hosts = [] := by
    cases st with
    | fresh _ _ rest => exact rest.hosts
    | running _ _ yes => rw [no] at yes; cases yes
    | past _ torn => rw [kept] at torn; cases torn
  cases t with
  | called | requested | read | refused => rw [no] at isolate; cases isolate
  | @opened h _ _ _ _ _ _ isolates =>
    rw [World.hosts] at none_before
    rw [World.hosts, isolates, List.filter_append, List.filter_append, none_before, (sandboxes_all h).hosts]
    rfl
  | evaluated yes => rw [no] at yes; cases yes
  | closed => cases isolate
  | ended => cases isolate

/-- What is around the isolate of an open session are sandboxes, so it is the only one of its kind. -/
theorem Stage.hosts {i : Isolate ι} {before after : List IsolateRecord} {sources : List Text} (st : Stage F s w)
    (isolate : s.isolate = some i) (place : i.place = before.length)
    (isolates : w.isolates = before ++ record sources false :: after) : w.hosts = [record sources false] := by
  obtain ⟨b, c⟩ := st.around isolate place isolates
  have holds : Holds w i.place sources false := ⟨before, after, isolates, place, b, c⟩
  exact holds.hosts

/-- The isolate of a session is given one source more when one is given to it. -/
theorem Transition.hosts_evaluated {source : Text} {g : History} {i : Isolate ι}
    (t : Transition F s w (.given i.place source :: g) s' w') (st : Stage F s w) (isolate : s.isolate = some i) :
    ∃ sources, w.hosts = [record sources false] ∧ w'.hosts = [record (sources ++ [source]) false] := by
  -- what others do is done to isolates that were made later
  obtain ⟨_, _, _, isolates, place, _⟩ := st.isolate isolate
  have inside : i.place < w.isolates.length := by simp [isolates, place]
  have given : .given i.place source ∈ Occurrence.given i.place source :: g := List.mem_cons_self
  have st' := st.transition t
  generalize e : (Occurrence.given i.place source :: g) = h at t given
  cases t with
  | called calls =>
    have := (calls.foreign.places _ given i.place rfl).1
    omega
  | requested request =>
    have := (request.foreign.places _ given i.place rfl).1
    omega
  | read => cases e
  | refused no => rw [isolate] at no; cases no
  | opened no => rw [isolate] at no; cases no
  | @evaluated j source' _ _ _ _ before after sources same place isolates _ _ isolates' =>
    obtain rfl := Option.some.inj (isolate.symm.trans same)
    cases e
    exact ⟨sources, st.hosts isolate place isolates, st'.hosts rfl place isolates'⟩
  | closed => cases e
  | ended => cases e

/-- Closing the isolate of a session leaves what it was given. -/
theorem Transition.hosts_closed {g : History} {i : Isolate ι} (t : Transition F s w (.closed i.place :: g) s' w')
    (st : Stage F s w) (isolate : s.isolate = some i) :
    ∃ sources, w.hosts = [record sources false] ∧ w'.hosts = [record sources true] := by
  obtain ⟨_, _, _, isolates, place, _⟩ := st.isolate isolate
  have inside : i.place < w.isolates.length := by simp [isolates, place]
  have among : .closed i.place ∈ Occurrence.closed i.place :: g := List.mem_cons_self
  generalize e : (Occurrence.closed i.place :: g) = h at t among
  cases t with
  | called calls =>
    have := (calls.foreign.places _ among i.place rfl).1
    omega
  | requested request =>
    have := (request.foreign.places _ among i.place rfl).1
    omega
  | read => cases e
  | refused no => rw [isolate] at no; cases no
  | opened no => rw [isolate] at no; cases no
  | evaluated => cases e
  | @closed j _ _ _ before after sources same place isolates _ _ isolates' =>
    obtain ⟨b, c⟩ := st.around same place isolates
    have holds : Holds w' j.place sources true := ⟨before, _, isolates', place, b, c.append (sandboxes_all _)⟩
    exact ⟨sources, st.hosts same place isolates, holds.hosts⟩
  | ended => cases e

/-! ## What was delivered -/

/-- The isolates of sessions were given nothing, as there is none, or there is one and it was given the
bootstrap and then these texts. -/
structure Delivered (F : Factory ι) (settings : Settings) (files : Files) (s : Session ι) (w : World)
    (texts : List Text) : Prop where
  stage : Stage F s w
  settings_eq : s.settings = settings
  files_eq : w.files = files
  hosts : w.hosts = [] ∧ texts = [] ∨
    ∃ source origin closed, loaded settings files = .ok (source, origin) ∧
      w.hosts = [record (source :: texts) closed]

/-- A step gives these texts to the isolate of a session, whatever it ends with. -/
def Delivers (F : Factory ι) (settings : Settings) (files : Files) (given : Session ι → World → List Text)
    (x : Step ι α) : Prop :=
  ∀ ⦃s w texts⦄, Delivered F settings files s w texts →
    Delivered F settings files (x s w).1.2 (x s w).2 (texts ++ given s w)

namespace Delivered

theorem moved (d : Delivered F settings files s w texts) (t : Transition F s w h s' w') {more : List Text}
    (hosts : w'.hosts = [] ∧ more = [] ∨ ∃ source origin closed, loaded settings files = .ok (source, origin) ∧
      w'.hosts = [record (source :: more) closed]) : Delivered F settings files s' w' more :=
  ⟨d.stage.transition t, t.settings.trans d.settings_eq, t.grew.files.trans d.files_eq, hosts⟩

theorem served (d : Delivered F settings files s w texts) (served : w.Served h w') :
    Delivered F settings files s w' texts :=
  ⟨d.stage.served served, d.settings_eq, served.files.trans d.files_eq, by rw [served_hosts served]; exact d.hosts⟩

theorem evaluated (d : Delivered F settings files s w texts) {source : Text} {g : History} {i : Isolate ι}
    (isolate : s.isolate = some i) (t : Transition F s w (.given i.place source :: g) s' w') :
    Delivered F settings files s' w' (texts ++ [source]) := by
  obtain ⟨sources, had, has⟩ := t.hosts_evaluated d.stage isolate
  refine d.moved t (.inr ?_)
  rcases d.hosts with ⟨none, _⟩ | ⟨bootstrap, origin, closed, found, one⟩
  · rw [had] at none
    cases none
  · rw [had] at one
    cases one
    exact ⟨bootstrap, origin, false, found, has⟩

theorem closed (d : Delivered F settings files s w texts) {g : History} {i : Isolate ι}
    (isolate : s.isolate = some i) (t : Transition F s w (.closed i.place :: g) s' w') :
    Delivered F settings files s' w' texts := by
  obtain ⟨sources, had, has⟩ := t.hosts_closed d.stage isolate
  refine d.moved t (.inr ?_)
  rcases d.hosts with ⟨none, _⟩ | ⟨bootstrap, origin, closed, found, one⟩
  · rw [had] at none
    cases none
  · rw [had] at one
    cases one
    exact ⟨bootstrap, origin, true, found, has⟩

end Delivered

/-! ## Steps -/

theorem delivers_raise (f : Fault) :
    Delivers F settings files (fun _ _ => []) (Step.raise f : Step ι α) := by
  intro s w texts d
  simpa using d

/-- What is done to the world beside leaves the isolates of sessions alone. -/
theorem delivers_act {x : Action α} (served : ∀ w : World, ∃ h, w.Served h (x w).2) :
    Delivers F settings files (fun _ _ => []) (Step.act x) := by
  intro s w texts d
  obtain ⟨h, served⟩ := served w
  simpa using d.served served

theorem delivers_tearDown (hF : F.Confined) : Delivers F settings files (fun _ _ => []) (tearDown F) := by
  intro s w texts d
  rw [List.append_nil]
  cases isolate : s.isolate with
  | none =>
    rw [tearDown_of_none isolate]
    have t : Transition F s w [] { s with isolate := none, tornDown := true } w := .ended isolate
    exact d.moved t d.hosts
  | some i =>
    obtain ⟨_, _, _, e, _, t⟩ := tearDown_of_some hF d.stage isolate
    rw [e]
    exact d.closed isolate t

theorem delivers_bind {given : Session ι → World → List Text} {x : Step ι α} {f : α → Step ι β}
    (hx : Delivers F settings files given x) (hf : ∀ a, Delivers F settings files (fun _ _ => []) (f a)) :
    Delivers F settings files given (x >>= f) := by
  intro s w texts d
  have left := hx d
  rw [Step.bind_apply]
  generalize x s w = r at left ⊢
  obtain ⟨⟨e | a, s'⟩, w'⟩ := r
  · exact left
  · simpa using hf a left

theorem delivers_discard {given : Session ι → World → List Text} {x : Step ι α}
    (hx : Delivers F settings files given x) : Delivers F settings files given (discard x) :=
  delivers_bind hx fun _ _ _ _ d => by
    rw [List.append_nil]
    exact d

theorem delivers_conclude (origin : Text) (e : Evaluation) :
    Delivers F settings files (fun _ _ => []) (Step.act (conclude origin e)) := by
  refine delivers_act fun w => ⟨[], ?_⟩
  unfold conclude
  split
  · exact (World.Served.refl w).tell _
  · exact (World.Served.refl w).tell _

theorem delivers_evaluateSource (hF : F.Confined) (source origin : Text) :
    Delivers F settings files (fun s _ => if s.isOpen then [source] else []) (evaluateSource F source origin) := by
  intro s w texts d
  cases isolate : s.isolate with
  | none => simpa [evaluateSource, isOpen, isolate] using d
  | some i =>
    obtain ⟨outcome, core, g, w₁, e, _, t⟩ := evaluateIn_spec hF d.stage isolate source
    have left := d.evaluated isolate t
    have isOpen : s.isOpen = true := by simp [isOpen, isolate]
    simp only [evaluateSource, Step.bind_apply, Step.session_apply, isolate, e, isOpen, if_true]
    cases outcome with
    | error f => exact left
    | ok r => simpa using delivers_conclude origin r left

theorem delivers_evaluateFile (hF : F.Confined) (path : Text) :
    Delivers F settings files (fun s w => if s.isOpen then readable s.settings w.files path else [])
      (evaluateFile F path) := by
  intro s w texts d
  have served := Source.read_served (reading s.settings) path w
  have result := Source.read_eq_outcome (reading s.settings) path w
  have left := d.served served
  simp only [evaluateFile, Step.bind_apply, Step.session_apply, Step.act_apply, readable, ← result]
  generalize Source.read (reading s.settings) path w = r at left ⊢
  obtain ⟨f | source, w'⟩ := r
  · have nothing : (if s.isOpen then (Except.error f : Except Fault Text).toOption.toList else []) = [] := by
      split <;> rfl
    rw [nothing, List.append_nil]
    exact left
  · exact delivers_evaluateSource hF source path left

/-- What follows the evaluation of the bootstrap gives nothing more. -/
theorem delivers_settle (hF : F.Confined) (origin : Text) (outcome : Except Fault Evaluation) :
    Delivers F settings files (fun _ _ => []) (settle F origin outcome) := by
  have reports : ∀ e : Event, Delivers F settings files (fun _ _ => []) (Step.act (Action.report e)) := fun e =>
    delivers_act fun w => ⟨[], (World.Served.refl w).tell _⟩
  unfold settle
  split
  · exact delivers_raise _
  · split
    · exact reports _
    · exact delivers_bind (reports _) fun _ => delivers_bind (delivers_tearDown hF) fun _ => delivers_raise _

/-- An isolate that is made for a session is given the bootstrap first. -/
theorem Delivered.booted (hF : F.Confined) (d : Delivered F settings files s w texts) (no : s.isolate = none)
    (kept : s.tornDown = false) {source origin : Text} (found : loaded settings files = .ok (source, origin)) :
    Delivered F settings files (boot F source origin s w).1.2 (boot F source origin s w).2 texts := by
  have nothing : texts = [] := by
    rcases d.hosts with ⟨_, nothing⟩ | ⟨_, _, _, _, one⟩
    · exact nothing
    · cases d.stage with
      | fresh _ _ rest => rw [World.hosts, rest.hosts] at one; cases one
      | running _ _ yes => rw [no] at yes; cases yes
      | past _ torn => rw [kept] at torn; cases torn
  subst nothing
  rcases create_spec hF no kept w with ⟨f, h, w₁, e, _, t⟩ | ⟨i, h, w₁, e, _, _, t⟩
  · rw [boot_of_error e]
    exact d.moved t (by rw [t.hosts_kept no no]; exact d.hosts)
  · have st := d.stage.transition t
    obtain ⟨outcome, core, g, w₂, e', _, t'⟩ := evaluateIn_spec hF st rfl source
    obtain ⟨sources, had, has⟩ := t'.hosts_evaluated st rfl
    rw [t.hosts_opened d.stage no kept rfl] at had
    cases had
    have left : Delivered F settings files _ w₂ [] := ⟨st.transition t', d.settings_eq,
      t'.grew.files.trans (t.grew.files.trans d.files_eq), .inr ⟨source, origin, false, found, has⟩⟩
    rw [boot_of_ok e e']
    exact delivers_settle hF origin outcome left

/-- Opening a session hands over nothing but the bootstrap, to an isolate that was just made. -/
theorem delivers_start (hF : F.Confined) : Delivers F settings files (fun _ _ => []) (start F) := by
  intro s w texts d
  rw [List.append_nil]
  unfold start
  simp only [Step.bind_apply, Step.session_apply]
  split
  · exact d
  · next kept =>
    split
    · exact d
    · next shut =>
      have no : s.isolate = none := by simpa [isOpen] using shut
      have kept : s.tornDown = false := by simpa using kept
      obtain ⟨w₁, e, served⟩ := load_apply s.settings w
      have left := d.served served
      rw [Step.bind_apply, Step.act_apply, e]
      cases found : loaded s.settings w.files with
      | error f => exact left
      | ok b =>
        rw [d.settings_eq, d.files_eq] at found
        exact left.booted hF no kept found

theorem delivers_callByName (hF : F.Confined) (name : Text) (arguments : List Text) :
    Delivers F settings files (fun _ _ => []) (callByName F name arguments) := by
  intro s w texts d
  simp only [callByName, Step.bind_apply, Step.session_apply]
  cases found : (functions F s.settings).find? (·.1 = name) with
  | none => exact delivers_raise _ d
  | some p =>
    obtain ⟨c, _, served⟩ := function_served hF (List.mem_of_find?_eq_some found) arguments w
    rw [List.append_nil]
    exact d.served served

/-! ## Operations -/

mutual

/-- Every operation gives to the isolate what it hands over. -/
theorem delivers_perform (hF : F.Confined) : ∀ o : Operation, Delivers F settings files (handed F o) (perform F o)
  | .start => delivers_start hF
  | .evaluateSource source origin => delivers_discard (delivers_evaluateSource hF source origin)
  | .evaluateFile path => delivers_discard (delivers_evaluateFile hF path)
  | .sandbox source => delivers_discard <| delivers_act fun w => by
      obtain ⟨r, _, served, _⟩ := Sandbox.evaluate_spec hF source w
      rw [← Action.bind_pure_snd w _ Evaluation.display] at served
      exact ⟨r, served⟩
  | .evaluateSandbox source => delivers_discard <| delivers_act fun w => by
      obtain ⟨r, _, served, _⟩ := Sandbox.evaluate_spec hF source w
      exact ⟨r, served⟩
  | .call name arguments => delivers_discard (delivers_callByName hF name arguments)
  | .tearDown => delivers_tearDown hF
  | .within body fault => by
    intro s w texts d
    have opened := delivers_start hF d
    rw [List.append_nil] at opened
    unfold perform within handed
    rw [Step.bind_apply]
    generalize start F s w = r at opened ⊢
    obtain ⟨⟨f | _, s₁⟩, w₁⟩ := r
    · simpa using opened
    · -- the block ends in some way, and the session is closed
      have inner : Delivers F settings files (handedBy F body)
          (performAll F body >>= fun _ => endWith fault) := by
        refine delivers_bind (delivers_performAll hF body) fun _ => ?_
        cases fault with
        | none => exact fun _ _ _ d => by simpa [endWith] using d
        | some f => exact delivers_raise f
      have ended : Delivers F settings files (handedBy F body) (Step.attempt
          (performAll F body >>= fun _ => endWith fault)) := fun _ _ _ d => inner d
      refine delivers_bind ended (fun r => delivers_bind (delivers_tearDown hF) fun _ => ?_) opened
      cases r with
      | ok _ => exact fun _ _ _ d => by simpa using d
      | error f => exact delivers_raise f
  | .trying body => delivers_discard fun _ _ _ d => delivers_performAll hF body d

theorem delivers_performAll (hF : F.Confined) :
    ∀ body : List Operation, Delivers F settings files (handedBy F body) (performAll F body)
  | [] => fun _ _ _ d => by simpa [performAll, handedBy] using d
  | o :: rest => by
    intro s w texts d
    have left := delivers_perform hF o d
    unfold performAll handedBy
    rw [Step.bind_apply]
    generalize perform F o s w = r at left ⊢
    obtain ⟨⟨f | _, s'⟩, w'⟩ := r
    · simpa using left
    · rw [← List.append_assoc]
      exact delivers_performAll hF rest left

end

theorem Delivered.each (hF : F.Confined) : ∀ (operations : List Operation) {s : Session ι} {w : World}
    {texts : List Text}, Delivered F settings files s w texts →
    Delivered F settings files (performEach F operations s w).1 (performEach F operations s w).2
      (texts ++ handedEach F operations s w)
  | [], _, _, _, d => by simpa [performEach, handedEach] using d
  | o :: rest, s, w, texts, d => by
    rw [performEach, handedEach, ← List.append_assoc]
    exact Delivered.each hF rest (delivers_perform hF o d)

/-! ## All runs -/

/-- Over any operations on a new session, no evaluation is lost, made twice or out of turn: the isolate of
the session, if one was made, was given the bootstrap and then the sources that the operations handed over;
and if none was made, they handed over none. -/
theorem performEach_delivers (hF : F.Confined) (settings : Settings) {w : World} (new : w.isolates = [])
    (operations : List Operation) :
    let after := (performEach F operations { settings } w).2
    let given := handedEach F operations { settings } w
    (after.hosts = [] ∧ given = []) ∨
      ∃ source origin closed, loaded settings w.files = .ok (source, origin) ∧
        after.hosts = [record (source :: given) closed] := by
  have fresh : Delivered F settings w.files { settings } w [] :=
    ⟨stage_new settings new, rfl, rfl, .inl ⟨by rw [World.hosts, new]; rfl, rfl⟩⟩
  exact (fresh.each hF operations).hosts

/-- Isolates in which one source asks for a sandbox and fails, and another ends with a fault. -/
def troubled : Isolate.Scripted.Plot where
  scenes := [("ask", { ok := false, calls := [("sandbox", ["1"])] }), ("break", { raised := some (.value none) })]

/-- Evaluations before the session is open and after it was closed, and of a file that is not there, are
handed to no isolate; those that fail are. -/
theorem performEach_delivers_troubled :
    let operations : List Operation := [.evaluateSource "early" defaultOrigin, .start, .start,
      .evaluateSource "ask" defaultOrigin, .evaluateFile "missing",
      .within [.sandbox (.text "2"), .evaluateSource "break" defaultOrigin, .evaluateSource "unreached" defaultOrigin]
        none, .evaluateSource "late" defaultOrigin]
    let w := World.blank
    handedEach (Isolate.Scripted.factory troubled) operations { settings := {} } w = [("ask" : Text), "break"] ∧
      (performEach (Isolate.Scripted.factory troubled) operations { settings := {} } w).2.hosts =
        [record [Bootstrap.bundled, "ask", "break"] true] := by
  intro operations w
  have given : handedEach (Isolate.Scripted.factory troubled) operations
    { settings := {} } w = [("ask" : Text), "break"] := by
    decide +kernel
  refine ⟨given, ?_⟩
  rcases performEach_delivers (Isolate.Scripted.confined troubled) {} (w := w) rfl operations with
    ⟨_, nothing⟩ | ⟨source, origin, closed, found, one⟩
  · rw [given] at nothing
    cases nothing
  · rw [given] at one
    cases found
    have shut : closed = true := by
      have closed_all : ((performEach (Isolate.Scripted.factory troubled) operations { settings := {} } w).2.hosts.map
        (·.closed)) = [true] := by decide +kernel
      rw [one] at closed_all
      simpa [record] using closed_all
    rw [one, shut]

end ScriptHost.Session
