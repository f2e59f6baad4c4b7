/-
Loading a file agrees with evaluating it. In a session that has evaluated the bundled bootstrap, a source that is the
call of `load` on the path of a file comes to what the evaluation of that file comes to: the same text or the same
fault, the same output, and the same machine but for where its objects are kept. The call itself takes six levels of
the engine, so it is said of texts that leave those six.
-/
import ScriptHost.Proofs.Isolate.Report
import ScriptHost.Proofs.Session.Load.Evaluation
import ScriptHost.Proofs.Session.Moves
import ScriptHost.Proofs.Session.Noninterference

namespace ScriptHost.Session.Load

open Isolate.Engine (factory evaluationOf evaluate_settled)
open Script (Alike Bound Engine Machine Outcome)

variable {settings : Settings} {s : Session Bound} {v w w' : World}

/-! ## Worlds that match -/

/-- Two worlds with the same files and the same output, that show the same to the isolates to come. -/
structure Matches (v w : World) : Prop where
  files : v.files = w.files
  output : v.output = w.output
  senses : v.senses = w.senses
  places : v.isolates.length = w.isolates.length

theorem Matches.upcoming (same : Matches v w) : v.upcoming = w.upcoming := by
  rw [World.upcoming, World.upcoming, same.senses, same.places]

theorem Matches.trans {u : World} (same : Matches u v) (same' : Matches v w) : Matches u w :=
  ⟨same.files.trans same'.files, same.output.trans same'.output, same.senses.trans same'.senses,
    same.places.trans same'.places⟩

theorem Matches.symm (same : Matches v w) : Matches w v :=
  ⟨same.files.symm, same.output.symm, same.senses.symm, same.places.symm⟩

theorem Matches.happen (same : Matches v w) (o o' : Occurrence) : Matches (v.happen o) (w.happen o') :=
  ⟨same.files, same.output, same.senses, same.places⟩

/-- Each of them after a source was evaluated in a sandbox. -/
theorem Matches.evaluated {t t' : Text} {v' w' : World} (same : Matches v w) (left : Evaluated t v v')
    (left' : Evaluated t' w w') : Matches v' w' where
  files := left.files.trans (same.files.trans left'.files.symm)
  output := left.output.trans (same.output.trans left'.output.symm)
  senses := left.senses.trans (same.senses.trans left'.senses.symm)
  places := by rw [left.isolates, left'.isolates, List.length_append, List.length_append, same.places]; rfl

theorem matches_receiving (i : Isolate Bound) (source : Text) (w : World) : Matches w (i.receiving source w) :=
  ⟨rfl, rfl, rfl, by simp [Isolate.receiving]⟩

/-- An action that comes to the same in worlds that match, and leaves worlds that match. -/
def Matched {α : Type} (x : Action α) : Prop := ∀ ⦃v w⦄, Matches v w → (x v).1 = (x w).1 ∧ Matches (x v).2 (x w).2

theorem matched_print (arguments : List Text) : Matched (printFunction arguments) := fun _ _ same =>
  ⟨rfl, same.files, congrArg (Output.writeLine (Text.join " " arguments)) same.output, same.senses, same.places⟩

theorem matched_sandbox (arguments : List Text) : Matched (Sandbox.function factory arguments) := by
  intro v w same
  obtain ⟨v', answered, left⟩ := call_sandbox (.text (arguments.headD Sandbox.missingSource)) v
  obtain ⟨w', answered', left'⟩ := call_sandbox (.text (arguments.headD Sandbox.missingSource)) w
  simp only [Sandbox.function, Action.bind_apply, answered, answered', same.upcoming]
  exact ⟨rfl, same.evaluated left left'⟩

/-- Reading a file leaves a world that matches. -/
theorem matches_read (how : Source.Reading) (path : Text) (w : World) : Matches w (Source.read how path w).2 := by
  have left := Source.read_served how path w
  refine ⟨left.files.symm, left.output.symm, left.senses.symm, ?_⟩
  exact congrArg List.length (left.isolates.trans (List.append_nil _)).symm

theorem matched_bind {α β : Type} {x : Action α} {f : α → Action β} (hx : Matched x) (hf : ∀ a, Matched (f a)) :
    Matched (x >>= f) := by
  intro v w same
  obtain ⟨answer, left⟩ := hx same
  rw [Action.bind_apply, Action.bind_apply]
  generalize x v = p at answer left ⊢
  generalize x w = q at answer left ⊢
  obtain ⟨e | a, v'⟩ := p <;> obtain ⟨e' | a', w'⟩ := q <;> cases answer
  · exact ⟨rfl, left⟩
  · exact hf a left

theorem matched_read (arguments : List Text) : Matched (readFunction settings arguments) := by
  refine matched_bind (fun v w same => ⟨?_, ?_⟩) fun _ _ _ same => ⟨rfl, same⟩
  · rw [Source.read_eq_outcome, Source.read_eq_outcome, same.files]
  · exact (matches_read _ _ v).symm.trans (same.trans (matches_read _ _ w))

theorem matched_recorded {name : Text} {f : HostFunction} (matched : ∀ arguments, Matched (f arguments))
    (arguments : List Text) : Matched ((recorded name f).2 arguments) := by
  intro v w same
  obtain ⟨answer, left⟩ := matched arguments (same.happen (.called name arguments) (.called name arguments))
  exact ⟨answer, left.happen _ _⟩

theorem matched_functions {name : Text} {f : HostFunction} (bound : (name, f) ∈ functions factory settings)
    (arguments : List Text) : Matched (f arguments) := by
  simp only [functions, List.mem_cons, List.not_mem_nil, or_false] at bound
  rcases bound with h | h | h <;> cases h
  · exact matched_recorded matched_print arguments
  · exact matched_recorded matched_sandbox arguments
  · exact matched_recorded matched_read arguments

theorem matched_call (name : Text) (d : Datum) (same : Matches v w) :
    (Bridge.answer (functions factory settings) name d v).1 = (Bridge.answer (functions factory settings) name d w).1 ∧
      Matches (Bridge.answer (functions factory settings) name d v).2
        (Bridge.answer (functions factory settings) name d w).2 := by
  unfold Bridge.answer
  cases found : (functions factory settings).find? (·.1 = name) with
  | none => exact ⟨rfl, same⟩
  | some bound =>
    obtain ⟨_, f⟩ := bound
    dsimp only
    unfold Bridge.call
    cases Bridge.argumentsOf d with
    | error fault => exact ⟨rfl, same⟩
    | ok items =>
      obtain ⟨answer, left⟩ := matched_functions (List.mem_of_find?_eq_some found) (items.map Datum.shown) same
      dsimp only
      generalize f (items.map Datum.shown) v = p at answer left ⊢
      generalize f (items.map Datum.shown) w = q at answer left ⊢
      obtain ⟨fault | a, v'⟩ := p <;> obtain ⟨fault' | a', w'⟩ := q <;> cases answer
      · dsimp only
        cases fault.isOwn || fault.isSystem <;> exact ⟨rfl, left⟩
      · exact ⟨rfl, left⟩

/-- Scripts of a session get the same answers in worlds that match. -/
theorem alike (S : Senses) (settings : Settings) : Alike Matches (host S settings) (host S settings) := by
  intro q v w same
  cases q with
  | call name d => exact matched_call name d same
  | _ => exact ⟨rfl, same⟩

/-- A script that asks for what can be read is answered with its text. -/
theorem answer_read {u : Utf16} {t : Text}
    (readable : Source.outcome (reading settings) w.files (Utf16.toText u) = .ok t)
    (S : Senses) (w₀ : World) (same : Matches w w₀) :
    ∃ w', host S settings (.call "readfile" (Script.Engine.crossing [u])) w₀ = (.value (.text t), w') ∧
      Matches w w' := by
  have text : (Source.read (reading settings) (Utf16.toText u) (w₀.happen (.called "readfile" [Utf16.toText u]))).1 =
    .ok t := by
    rw [Source.read_eq_outcome]
    exact same.files ▸ readable
  have asked : Matches w (w₀.happen (.called "readfile" [Utf16.toText u])) :=
    ⟨same.files, same.output, same.senses, same.places⟩
  have left := asked.trans (matches_read (reading settings) (Utf16.toText u) _)
  rcases read : Source.read (reading settings) (Utf16.toText u)
    (w₀.happen (.called "readfile" [Utf16.toText u])) with ⟨r, w'⟩
  rw [read] at text left
  cases text
  refine ⟨w'.happen (.returned "readfile"), ?_, left.files, left.output, left.senses, left.places⟩
  have found : (functions factory settings).find? (·.1 = ("readfile" : Text)) =
      some (recorded "readfile" (readFunction settings)) := rfl
  have list : Bridge.argumentsOf (Script.Engine.crossing [u]) = .ok [.text (Utf16.toText u)] := rfl
  have ran : (recorded "readfile" (readFunction settings)).2 [Utf16.toText u] w₀ =
      (.ok (.text t), w'.happen (.returned "readfile")) := by
    rw [recorded_apply]
    simp only [readFunction, Action.bind_apply, List.headD_cons, read]
    rfl
  show Bridge.answer (functions factory settings) "readfile" (Script.Engine.crossing [u]) w₀ = _
  simp only [Bridge.answer, found, Bridge.call, list, List.map_cons, List.map_nil, Datum.shown, ran]
  rfl

/-! ## New sessions -/

/-- What the evaluation of the bundled bootstrap comes to, which asks the host for nothing. -/
def booting : Script.Result Outcome :=
  (Engine.make begun.bindings).evaluate (Text.toUtf16 Bootstrap.bundled) begun.machine

/-- The machine that this leaves, with what is bound. -/
def bootedOf (b : Bound) : Script.Result Outcome → Bound
  | .value _ m => { b with machine := m }
  | _ => b

theorem bootedOf_eq (b : Bound) (r : Script.Result Outcome) :
    { b with machine := (bootedOf b r).machine } = bootedOf b r := by
  cases r <;> rfl

/-- The machine that the bootstrap leaves. -/
@[irreducible]
def booted : Bound := bootedOf begun booting

/-- Whether it ends well, and leaves a machine on which files can be loaded. -/
def bootsWell : Script.Result Outcome → Bool
  | .value o m => (evaluationOf o).toOption.any (·.ok) && decide (Booted { begun with machine := m })
  | _ => false

theorem booting_bootsWell : bootsWell booting = true := by decide +kernel

theorem boots_of_well {r : Script.Result Outcome} (well : bootsWell r = true) :
    (∃ o e, r = .value o (bootedOf begun r).machine ∧ evaluationOf o = .ok e ∧ e.ok = true) ∧
    Booted (bootedOf begun r) := by
  cases r with
  | value o m =>
    obtain ⟨ok, holds⟩ := Bool.and_eq_true_iff.mp well
    refine ⟨?_, of_decide_eq_true holds⟩
    cases evaluated : evaluationOf o with
    | error f => rw [evaluated] at ok; cases ok
    | ok e =>
      rw [evaluated] at ok
      exact ⟨o, e, rfl, evaluated, ok⟩
  | _ => cases well

theorem booting_eq : ∃ o e, booting = .value o booted.machine ∧ evaluationOf o = .ok e ∧ e.ok = true := by
  unfold booted
  exact (boots_of_well booting_bootsWell).1

theorem booted_holds : Booted booted := by
  unfold booted
  exact (boots_of_well booting_bootsWell).2

theorem booted_eq : { begun with machine := booted.machine } = booted := by
  unfold booted
  exact bootedOf_eq begun booting

theorem evaluateIn_of_evaluate {ι : Type} {F : Factory ι} {i j : Isolate ι} {s : Session ι} {source : Text}
    {r : Except Fault Evaluation} (h : i.evaluate F source w = ((r, j), w')) :
    evaluateIn F i source s w = ((r, { s with isolate := some j }), w') := by
  rw [evaluateIn, h]

/-- The isolate of a session that is shown `S`, when the bundled bootstrap was evaluated in it, and nothing else. -/
def bootedIsolate (S : Senses) (settings : Settings) (place : Nat) : Isolate Bound :=
  { place, purpose, functions := functions factory settings, core := { booted with senses := S } }

theorem fresh_eq_begun (S : Senses) (settings : Settings) :
    Bound.fresh S ((functions factory settings).map (·.1)) = { begun with senses := S } := by
  have names : ∀ settings, (functions factory settings).map (·.1) = functionNames := fun _ => rfl
  rw [begun, names, names]
  exact Bound.fresh_senses S {} functionNames

theorem start_of_load {ι : Type} {F : Factory ι} {source origin : Text}
    (loads : Bootstrap.load settings.bootstrapPath settings.encoding w = (.ok (source, origin), w)) :
    start F { settings } w = boot F source origin { settings } w := by
  simp [start, isOpen, loads]

/-- A session that names no bootstrap opens with the bundled one. -/
theorem start_boots (bundled : settings.bootstrapPath = none) (w : World) : ∃ place w',
    start factory { settings } w =
      ((.ok (), { settings, isolate := some (bootedIsolate w.upcoming settings place) }), w') := by
  let w₁ := w.happen (.asked purpose (some functionNames))
  let made : Isolate Bound :=
    { place := w₁.isolates.length, purpose, functions := functions factory settings
      core := { begun with senses := w.upcoming } }
  let w₂ := Isolate.entered factory made (some functionNames) w₁
  have make : factory.make (functions factory settings) w₁ = (.ok { begun with senses := w.upcoming }, w₁) := by
    rw [← fresh_eq_begun w.upcoming settings]
    rfl
  have created : Isolate.create factory purpose (some (functions factory settings)) w =
      (.ok made, w₂) :=
    Isolate.create_of_ok purpose (some (functions factory settings)) make
  obtain ⟨o, e, ends, evaluated, ok⟩ := booting_eq
  have opened : made.isClosed w₂ = false :=
    Isolate.isClosed_entered rfl _
  have settled : ((Engine.make begun.bindings).evaluate (Text.toUtf16 Bootstrap.bundled) begun.machine).settle
      (Isolate.Engine.host made.functions made.core) (made.receiving Bootstrap.bundled w₂) =
        (some o, booted.machine, made.receiving Bootstrap.bundled w₂) := by
    show booting.settle _ _ = _
    rw [ends, Script.Result.settle]
  have ran := evaluate_settled (i := made) opened settled
  rw [Option.getD_some, evaluated] at ran
  have left : { made with core := { made.core with machine := booted.machine } } =
      bootedIsolate w.upcoming settings w₁.isolates.length := by
    have same := congrArg (fun b : Bound => { b with senses := w.upcoming }) booted_eq
    rw [bootedIsolate, ← same]
  have started : start factory { settings } w =
      boot factory Bootstrap.bundled Bootstrap.bundledOrigin { settings } w :=
    start_of_load (by rw [bundled]; rfl)
  refine ⟨w₁.isolates.length, ?_⟩
  rw [started]
  let w₃ := (made.receiving Bootstrap.bundled w₂).happen (.gave made.place (.ok e))
  have evaluated : evaluateIn factory made Bootstrap.bundled { settings, isolate := some made } w₂ =
      ((.ok e, { settings, isolate := some (bootedIsolate w.upcoming settings w₁.isolates.length) }), w₃) := by
    rw [← left]
    exact evaluateIn_of_evaluate ran
  refine ⟨w₃.tell (.event (.bootstrapCompleted Bootstrap.bundledOrigin e.duration)), ?_⟩
  have boots : boot factory Bootstrap.bundled Bootstrap.bundledOrigin { settings } w =
      Session.settle factory Bootstrap.bundledOrigin (.ok e)
        { settings, isolate := some (bootedIsolate w.upcoming settings w₁.isolates.length) } w₃ :=
    boot_of_ok (s := { settings }) created evaluated
  rw [boots, Session.settle, ok]
  rfl

/-! ## Agreement -/

/-- What an evaluation is told as that came to this. -/
def told (origin : Text) : Except Fault Evaluation → Except Fault Text
  | .error f => .error f
  | .ok e => if e.ok then .ok e.value else .error (.script origin e.value e.stringified)

/-- An open session evaluates a source to what its engine comes to. -/
theorem evaluateSource_of_ended (origin : Text) {i : Isolate Bound} {source : Text} {o : Outcome} {n : Machine}
    {x : World}
    (stage : Stage factory s w) (isolate : s.isolate = some i)
    (ended : ((Engine.make i.core.bindings).evaluate (Text.toUtf16 source) i.core.machine).ended
      (Isolate.Engine.host i.functions i.core) (i.receiving source w) = (some (.ok o), n, x)) :
    ∃ w', evaluateSource factory source origin s w = ((told origin (evaluationOf o),
        { s with isolate := some { i with core := { i.core with machine := n } } }), w') ∧ Matches x w' := by
  have settled : ((Engine.make i.core.bindings).evaluate (Text.toUtf16 source) i.core.machine).settle
      (Isolate.Engine.host i.functions i.core) (i.receiving source w) = (some o, n, x) := by
    rw [Script.Result.settle_eq_ended, ended]
    rfl
  have ran := evaluate_settled (stage.isClosed isolate) settled
  rw [Option.getD_some] at ran
  have given := evaluateIn_of_evaluate (s := s) ran
  simp only [evaluateSource, Step.bind_apply, Step.session_apply, isolate]
  rw [given]
  cases evaluationOf o with
  | error f => exact ⟨x.happen (.gave i.place (.error f)), rfl, rfl, rfl, rfl, rfl⟩
  | ok e =>
    cases ok : e.ok with
    | true =>
      refine ⟨(x.happen (.gave i.place (.ok e))).tell (.event (.evaluationCompleted origin e.duration)), ?_, rfl,
        rfl, rfl, rfl⟩
      simp [told, conclude, ok]
    | false =>
      refine ⟨(x.happen (.gave i.place (.ok e))).tell (.event (.evaluationFailed origin e.value)), ?_, rfl,
        rfl, rfl, rfl⟩
      simp [told, conclude, ok]

/-- Both evaluations return the same text, or raise the same message with the same flag. Where what the program ends
with is put into a reply that can not be taken apart, they end with the same fault of that. -/
inductive SameAnswer (origin path : Text) : Except Fault Text → Except Fault Text → Prop
  | returned (t : Text) : SameAnswer origin path (.ok t) (.ok t)
  | raised (message : Text) (stringified : Bool) :
    SameAnswer origin path (.error (.script origin message stringified)) (.error (.script path message stringified))
  | undivided {d : Datum} {f : Fault} (parts : Isolate.Engine.three d = .error f) :
      SameAnswer origin path (.error f) (.error f)

theorem sameAnswer_told (origin path : Text) (o : Outcome) :
    SameAnswer origin path (told origin (evaluationOf o)) (told path (evaluationOf o)) := by
  cases evaluated : evaluationOf o with
  | ok e =>
    cases ok : e.ok with
    | true => simpa only [told, ok, if_true] using .returned e.value
    | false => simpa only [told, ok] using .raised e.value e.stringified
  | error f =>
    cases o with
    | failed t => cases evaluated
    | reply d =>
      refine .undivided (d := d) ?_
      simp only [evaluationOf] at evaluated
      cases three : Isolate.Engine.three d with
      | error g =>
        rw [three] at evaluated
        exact congrArg Except.error (Except.error.inj evaluated)
      | ok parts =>
        rw [three] at evaluated
        cases evaluated

/-- A text ends when it is evaluated in the isolate of a new session that is shown `S`, and leaves the levels that a
call of `load` takes. -/
def Fits (S : Senses) (settings : Settings) (t : Text) (w : World) : Prop :=
  ∃ o n v, ((Engine.within booted.bindings loadedLimit).evaluate (Text.toUtf16 t) booted.machine).ended
    (host S settings) w = (some (.ok o), n, v)

/-- Two sessions differ in the machines of their isolates alone, and these in where what is shifted is kept; so every
global name stands for the same. -/
def SameState (σ : Script.Shift) (s s' : Session Bound) : Prop :=
  ∃ i n, s'.isolate = some i ∧
    s = { s' with isolate := some { i with core := { i.core with machine := n } } } ∧
    i.core.machine.Twin σ n ∧
    ∀ key, (Engine.bottom i.core.bindings).own? n .global key =
      ((Engine.bottom i.core.bindings).own? i.core.machine .global key).map σ.slot

theorem sameState_of_twin {σ : Script.Shift} {i : Isolate Bound} {l n : Machine}
    (stay : ∀ f ∈ i.core.bindings, σ.ref f.2 = f.2) (twin : n.Twin σ l) :
    SameState σ { s with isolate := some { i with core := { i.core with machine := l } } }
      { s with isolate := some { i with core := { i.core with machine := n } } } := by
  have binds : (Engine.bottom i.core.bindings).Binds σ (Engine.bottom i.core.bindings) := ⟨rfl, stay⟩
  exact ⟨_, l, rfl, rfl, twin, fun key => binds.own? twin .global key⟩

/-- What loading a file and evaluating it have in common. -/
structure Agreement (origin path : Text) (loading evaluating : (Except Fault Text × Session Bound) × World) :
    Prop where
  answer : SameAnswer origin path loading.1.1 evaluating.1.1
  output : loading.2.output = evaluating.2.output
  files : loading.2.files = evaluating.2.files
  sessions : SameState (shift booted.machine) loading.1.2 evaluating.1.2

/-- Whether a script comes to a value without asking for anything. -/
def comesToValue {α : Type} : Script.Result α → Bool
  | .value .. => true
  | _ => false

theorem fits_of_value {t : Text} (value : comesToValue
      ((Engine.within booted.bindings loadedLimit).evaluate (Text.toUtf16 t) booted.machine) = true)
    (S : Senses) (settings : Settings) (w : World) : Fits S settings t w := by
  unfold Fits
  generalize (Engine.within booted.bindings loadedLimit).evaluate (Text.toUtf16 t) booted.machine = r at value
  cases r with
  | value o n => exact ⟨o, n, w, rfl⟩
  | _ => cases value

/-- In a session that has evaluated the bundled bootstrap and nothing else, a source that loads a file agrees with the
evaluation of that file, if the file can be read and what it holds ends and leaves the levels of the call. -/
theorem load_agrees (bundled : settings.bootstrapPath = none) {w₀ w₁ : World}
    (started : start factory { settings } w₀ = ((.ok (), s), w₁)) (stage : Stage factory s w) {source origin t : Text}
    {u : Utf16} (path : loads? (Text.toUtf16 source) = some u)
    (readable : Source.outcome (reading settings) w.files (Utf16.toText u) = .ok t)
    (fits : Fits w₀.upcoming settings t w) :
    Agreement origin (Utf16.toText u) (evaluateSource factory source origin s w)
      (evaluateFile factory (Utf16.toText u) s w) := by
  obtain ⟨place, w', boots⟩ := start_boots bundled w₀
  obtain ⟨rfl, rfl⟩ : { settings, isolate := some (bootedIsolate w₀.upcoming settings place) } = s ∧ w' = w₁ := by
    have same := boots.symm.trans started
    exact ⟨congrArg (·.1.2) same, congrArg Prod.snd same⟩
  obtain ⟨o, n, v, ended⟩ := fits
  let i := bootedIsolate w₀.upcoming settings place
  -- the source that loads
  have given := matches_receiving i source w
  obtain ⟨x, answered, same⟩ := answer_read readable w₀.upcoming (i.receiving source w) given
  obtain ⟨l, y, loaded, twin, left⟩ :=
    booted_holds.evaluate_loads path (alike w₀.upcoming settings) answered same ended
  obtain ⟨wl, loads, leftLoading⟩ := evaluateSource_of_ended origin (i := i) stage rfl loaded
  -- the file
  have read := Source.read_eq_outcome (reading settings) (Utf16.toText u) w
  have served := Source.read_served (reading settings) (Utf16.toText u) w
  have matching := matches_read (reading settings) (Utf16.toText u) w
  rcases reads : Source.read (reading settings) (Utf16.toText u) w with ⟨r, wr⟩
  rw [reads, readable] at read
  rw [reads] at served matching
  cases read
  have given' : Matches w (i.receiving t wr) := matching.trans (matches_receiving i t wr)
  obtain ⟨z, evaluated, left'⟩ := booted_holds.evaluate_within (alike w₀.upcoming settings) given' ended
  obtain ⟨wf, evaluates, leftEvaluating⟩ :=
    evaluateSource_of_ended (Utf16.toText u) (i := i) (stage.served served) rfl evaluated
  have file : evaluateFile factory (Utf16.toText u) { settings, isolate := some i } w =
      evaluateSource factory t (Utf16.toText u) { settings, isolate := some i } wr := by
    simp only [evaluateFile, Step.bind_apply, Step.session_apply, Step.act_apply, reads]
  rw [file, loads, evaluates]
  have matched : Matches wl wf := leftLoading.symm.trans (left.symm.trans (left'.trans leftEvaluating))
  exact {
    answer := sameAnswer_told origin (Utf16.toText u) o
    output := matched.output
    files := matched.files
    sessions := sameState_of_twin (fun f among => Script.Shift.ref_kept (booted_holds.bound f among)) twin }

/-- A program that declares a variable and comes to a number. -/
def summing : Text := "var part = 40; part + 2"

/-- A world with that program in a file. -/
def summingWorld : World := .holding [([[0x73, 0x75, 0x6D]], .file (Utf8.encode summing) 1)]

theorem load_agrees_summing : ∃ s w, start factory { settings := {} } summingWorld = ((.ok (), s), w) ∧
    Agreement defaultOrigin "sum" (evaluateSource factory "load('sum')" defaultOrigin s w)
      (evaluateFile factory "sum" s w) := by
  have bundled : ({} : Settings).bootstrapPath = none := rfl
  obtain ⟨place, w, boots⟩ := start_boots bundled summingWorld
  have fresh : Stage factory { settings := {} } summingWorld := stage_new {} rfl
  obtain ⟨h, path⟩ := moves_start Isolate.Engine.confined fresh
  rw [boots] at path
  have loading : loads? (Text.toUtf16 "load('sum')") = some (Text.toUtf16 "sum") := by decide +kernel
  have readable : Source.outcome (reading {}) w.files (Utf16.toText (Text.toUtf16 "sum")) = .ok summing := by
    rw [path.grew.files]
    rfl
  have fits : Fits summingWorld.upcoming {} summing w := fits_of_value (by decide +kernel) _ {} w
  have agrees : Agreement defaultOrigin _ _ _ := load_agrees bundled boots (fresh.path path) loading readable fits
  have same : Utf16.toText (Text.toUtf16 "sum") = "sum" := rfl
  rw [same] at agrees
  exact ⟨_, w, boots, agrees⟩

end ScriptHost.Session.Load
