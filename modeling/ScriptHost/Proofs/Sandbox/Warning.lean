/-
What is told of failed sandboxes. A request that returns gives back what its isolate came to, or a failure that names
the fault which kept the isolate from being made or broke off its run. Callers get the text alone, so nothing but the
log sets failures apart from values: a request that failed is told of once, after its isolate is gone, with the whole
text and with the source as far as the log takes it, and no other request is told of. Hence the warnings that any
sequence of requests leaves are its failures, one by one and in order.
-/
import ScriptHost.Proofs.Sandbox.Containment
import ScriptHost.Proofs.Source.Trace
import ScriptHost.Proofs.Spared
import Mathlib.Tactic.ByContra

namespace ScriptHost

/-- Whether an event warns of a failed sandbox. -/
def Event.warns : Event → Bool
  | sandboxFailed .. => true
  | _ => false

/-- The warnings of failed sandboxes, the first first. -/
def World.warnings (w : World) : List Event := w.those Event.warns

/-- Closing an open isolate is told of last. -/
theorem Isolate.getLast?_close {ι : Type} {F : Factory ι} {i : Isolate ι} {w : World}
    (opened : i.isClosed w = false) :
    (i.close F w).2.notices.getLast? = some (.event (.isolateDestroyed i.id i.purpose)) := by
  rcases gone : F.release i.functions i.core (closing i w) with ⟨r, w'⟩
  rw [close_of_open opened gone]
  exact List.getLast?_concat

namespace Sandbox

variable {ι : Type} {F : Factory ι} {source : Datum} {t : Text} {e : Evaluation} {w w' : World}

/-! ## One request -/

/-- What the isolate of a request came to, or the fault that kept it from being made. -/
def Parts.outcome : Parts → Except Fault Evaluation
  | refused f => .error f
  | left outcome => outcome
  | released outcome _ => outcome

/-- A request that returns gives back what its isolate came to, or a failure that stands for a fault. -/
theorem Parts.answer_ok {p : Parts} (answered : p.answer = .ok e) : e = .ofOutcome p.outcome := by
  rcases p with f | outcome | ⟨outcome, _ | _⟩
  · cases answered
    rfl
  · cases answered
    rfl
  · cases answered
  · cases answered
    rfl

/-- The world in which a request has ended and nothing was told of it yet. -/
def ended (F : Factory ι) (source : Datum) (w : World) : World :=
  let (r, w) := evaluateUnreported F source.shown (w.happen (.requested source.shown))
  w.happen (.answered r)

/-- What is told of a request that returned. -/
def warningOf (source : Datum) (e : Evaluation) : List Event :=
  if e.ok then [] else [.sandboxFailed e.value source.shown]

/-- A request that returns tells of its failure when it has ended, and a request that ends with a fault tells
nothing. -/
theorem evaluate_ended (source : Datum) (w : World) :
    (∀ f, (evaluate F source w).1 = .error f → (evaluate F source w).2 = ended F source w) ∧
      ∀ e, (evaluate F source w).1 = .ok e → (evaluate F source w).2 =
        if e.ok then ended F source w
        else (ended F source w).tell (.event (.sandboxFailed e.value source.shown)) := by
  unfold ended
  rcases came : evaluateUnreported F source.shown (w.happen (.requested source.shown)) with ⟨f | e, v⟩
  · have ran : evaluate F source w = (.error f, v.happen (.answered (.error f))) := by simp [evaluate, came]
    rw [ran]
    refine ⟨fun _ _ => rfl, ?_⟩
    rintro e ⟨⟩
  · cases ok : e.ok with
    | true =>
      have ran : evaluate F source w = (.ok e, v.happen (.answered (.ok e))) := by simp [evaluate, came, ok]
      rw [ran]
      constructor
      · rintro f ⟨⟩
      · rintro _ ⟨⟩
        rw [if_pos ok]
    | false =>
      have ran : evaluate F source w = (.ok e, (v.happen (.answered (.ok e))).tell
          (.event (.sandboxFailed e.value source.shown))) := by simp [evaluate, came, ok]
      rw [ran]
      constructor
      · rintro f ⟨⟩
      · rintro _ ⟨⟩
        rw [if_neg (by simp [ok])]

theorem ended_warnings (spares : F.Spares Event.warns []) (source : Datum) (w : World) :
    (ended F source w).warnings = w.warnings :=
  those_evaluateUnreported spares (fun _ _ => rfl) (fun _ _ _ => rfl) source.shown

theorem evaluate_warnings (spares : F.Spares Event.warns []) (source : Datum) (w : World) :
    (evaluate F source w).2.warnings = w.warnings ++ (match (evaluate F source w).1 with
      | .ok e => warningOf source e
      | .error _ => []) := by
  obtain ⟨faulty, fine⟩ := evaluate_ended (F := F) source w
  have quiet := ended_warnings spares source w
  cases came : (evaluate F source w).1 with
  | error f =>
    rw [faulty f came, quiet]
    exact (List.append_nil _).symm
  | ok e =>
    rw [fine e came]
    cases ok : e.ok with
    | true => simpa [warningOf, ok] using quiet
    | false =>
      rw [← quiet, if_neg Bool.false_ne_true]
      simp only [warningOf, ok]
      exact (ended F source w).those_tell Event.warns (.sandboxFailed e.value source.shown)

/-- An isolate that did not close itself is told of as destroyed last of all that happened to the request. -/
theorem getLast?_ended {i : Isolate ι} (made : isolateOf F source.shown w = some i)
    (kept : ∀ outcome, parts F source.shown w ≠ .left outcome) :
    (ended F source w).notices.getLast? = some (.event (.isolateDestroyed i.id i.purpose)) := by
  set t := source.shown with ht
  rcases makes : F.make [] (asking t w) with ⟨f | core, v⟩
  · simp [isolateOf, makes] at made
  · obtain rfl : isolateAt v.isolates.length core = i := by simpa [isolateOf, makes] using made
    set i : Isolate ι := isolateAt v.isolates.length core with hi
    have opened : i.isClosed (i.entered F none v) = false := Isolate.isClosed_entered rfl none
    rcases ran : F.run [] t core (i.receiving t (i.entered F none v)) with ⟨⟨outcome, core'⟩, u⟩
    have evaluated := Isolate.evaluate_of_open (F := F) opened ran
    -- it is still open when it has run, since otherwise it would have closed itself
    have unclosed : Isolate.isClosed { i with core := core' } (u.happen (.gave i.place outcome)) = false := by
      by_contra closed
      refine kept outcome ?_
      rw [Bool.not_eq_false] at closed
      simp only [parts, makes, partsIn, ← hi, ran, closed, if_true]
    have last := Isolate.getLast?_close (F := F) unclosed
    have created : Isolate.create F purpose none (w.happen (.requested t)) = (.ok i, i.entered F none v) :=
      Isolate.create_of_ok purpose none makes
    unfold ended evaluateUnreported
    rw [← ht, Action.bind_apply, Action.attempt_apply, created]
    dsimp only
    rw [evaluateIn, Action.bind_apply, Isolate.evaluateLast, evaluated]
    dsimp only
    rcases shut : Isolate.close F { i with core := core' } (u.happen (.gave i.place outcome)) with ⟨_ | _, x⟩
    · rw [shut] at last
      exact last
    · rw [shut] at last
      cases outcome with
      | ok r => exact last
      | error f => exact last

theorem call_of_ok (returned : evaluate F source w = (.ok e, w')) : Sandbox.call F source w = (.ok e.value, w') := by
  rw [Sandbox.call, Action.bind_apply, returned]
  rfl

theorem function_of_ok {arguments : List Text}
    (returned : evaluate F (.text (arguments.headD missingSource)) w = (.ok e, w')) :
    Sandbox.function F arguments w = (.ok (.text e.value), w') := by
  rw [Sandbox.function, Action.bind_apply, call_of_ok returned]
  rfl

/-- A request that returned `e` and left `w'`. -/
structure Signalled (F : Factory ι) (source : Datum) (w : World) (e : Evaluation) (w' : World) : Prop where
  /-- What the isolate came to is returned as it is. -/
  own : ∀ r, (parts F source.shown w).outcome = .ok r → e = r
  /-- A fault of making or running it is returned as a failure that tells its label and its message. -/
  contained : ∀ f, (parts F source.shown w).outcome = .error f →
    e.ok = false ∧ e.stringified = true ∧ e.value = f.label ++ ": " ++ f.message
  /-- A failure is warned of once, a value not at all. -/
  warned : w'.warnings = w.warnings ++ warningOf source e
  /-- The warning comes last, when the isolate is closed and its end was told. -/
  last : ∃ v, w' = (if e.ok then v else v.tell (.event (.sandboxFailed e.value source.shown))) ∧
    ∀ i, isolateOf F source.shown w = some i → i.isClosed v = true ∧
      ((∀ outcome, parts F source.shown w ≠ .left outcome) →
        v.notices.getLast? = some (.event (.isolateDestroyed i.id i.purpose)))
  /-- Its record has the whole text, and the source cut to its limit. -/
  record : ∀ warning ∈ warningOf source e, Source.told warning "event" = some (.text "sandbox.evaluation.failed") ∧
    Source.told warning "result" = some (.text e.value) ∧
    Source.told warning "source" = some (.text (Log.cut Log.sourceLimit source.shown))
  /-- Callers and scripts get the text. -/
  call : Sandbox.call F source w = (.ok e.value, w')
  function : ∀ arguments, source = .text (arguments.headD missingSource) →
    Sandbox.function F arguments w = (.ok (.text e.value), w')

theorem evaluate_signalled (lasting : F.Lasting []) (spares : F.Spares Event.warns [])
    (returned : evaluate F source w = (.ok e, w')) : Signalled F source w e w' := by
  have result : (evaluate F source w).1 = .ok e := by rw [returned]
  have world : (evaluate F source w).2 = w' := by rw [returned]
  obtain ⟨answered, closed⟩ := evaluate_parts (F := F) source w
  have came := Parts.answer_ok (answered.symm.trans result)
  refine ⟨?_, ?_, ?_, ?_, ?_, call_of_ok returned, ?_⟩
  · intro r own
    rw [came, own]
    rfl
  · intro f broken
    rw [came, broken]
    exact ⟨rfl, rfl, rfl⟩
  · have warned := evaluate_warnings spares source w
    rwa [result, world] at warned
  · have left := (evaluate_ended (F := F) source w).2 e result
    rw [world] at left
    refine ⟨ended F source w, left, fun i made => ⟨?_, getLast?_ended made⟩⟩
    -- a warning changes no record of an isolate
    have shut := closed lasting i made
    rw [world, left] at shut
    cases ok : e.ok with
    | true => rwa [ok] at shut
    | false =>
      rw [ok] at shut
      exact shut
  · intro warning among
    unfold warningOf at among
    split at among
    · cases among
    · obtain rfl := List.mem_singleton.mp among
      exact ⟨rfl, rfl, rfl⟩
  · rintro arguments rfl
    exact function_of_ok returned

/-! ## Requests one after the other -/

/-- The ways to ask for a sandbox: for the evaluation of a source, for its text, and as scripts do. -/
inductive Way where
  | evaluation (source : Datum)
  | text (source : Datum)
  | script (arguments : List Text)

namespace Way

/-- The source that is asked for. -/
def asked : Way → Datum
  | evaluation source | text source => source
  | script arguments => .text (arguments.headD missingSource)

/-- Asks for a sandbox, and goes on whatever comes of it. -/
def ask (F : Factory ι) : Way → Action Unit
  | evaluation source => do discard (Action.attempt (evaluate F source))
  | text source => do discard (Action.attempt (Sandbox.call F source))
  | script arguments => do discard (Action.attempt (Sandbox.function F arguments))

/-- Whichever way a sandbox is asked for, it is the source that is evaluated. -/
theorem ask_snd (way : Way) (w : World) : (way.ask F w).2 = (evaluate F way.asked w).2 := by
  cases way with
  | evaluation source => rfl
  | text source =>
    show (Sandbox.call F source w).2 = _
    exact Action.bind_pure_snd w (evaluate F source) _
  | script arguments =>
    show (Sandbox.function F arguments w).2 = _
    exact (Action.bind_pure_snd _ _ _).trans (Action.bind_pure_snd _ _ _)

end Way

/-- The world after one request after the other. -/
def afterEach (F : Factory ι) : List Way → World → World
  | [], w => w
  | way :: rest, w => afterEach F rest (way.ask F w).2

/-- What the requests came to, each with its source; the text is all that most ways hand back of it. -/
def endings (F : Factory ι) : List Way → World → List (Datum × Except Fault Evaluation)
  | [], _ => []
  | way :: rest, w => (way.asked, (evaluate F way.asked w).1) :: endings F rest (way.ask F w).2

/-- The failures among what requests came to. -/
def failures (endings : List (Datum × Except Fault Evaluation)) : List (Datum × Evaluation) :=
  endings.filterMap fun (source, r) =>
    match r with
    | .ok e => if e.ok then none else some (source, e)
    | .error _ => none

/-- What is told of what requests came to. -/
def tellings (endings : List (Datum × Except Fault Evaluation)) : List Event :=
  (failures endings).map fun (source, e) => .sandboxFailed e.value source.shown

theorem tellings_cons (source : Datum) (r : Except Fault Evaluation)
    (rest : List (Datum × Except Fault Evaluation)) :
    tellings ((source, r) :: rest) = (match r with
      | .ok e => warningOf source e
      | .error _ => []) ++ tellings rest := by
  cases r with
  | error f => rfl
  | ok e => cases ok : e.ok <;> simp [tellings, failures, warningOf, ok]

theorem afterEach_warnings (spares : F.Spares Event.warns []) : ∀ (ways : List Way) (w : World),
    (afterEach F ways w).warnings = w.warnings ++
      tellings (endings F ways w)
  | [], w => (List.append_nil _).symm
  | way :: rest, w => by
    have one := evaluate_warnings spares way.asked w
    have others := afterEach_warnings spares rest (way.ask F w).2
    rw [afterEach, others, endings, tellings_cons, way.ask_snd, one, List.append_assoc]

/-- On a factory that does not warn of sandboxes by itself, every request that returns is signalled as it should be,
and the warnings that any sequence of requests leaves are its failures, in order. -/
theorem failures_warned (lasting : F.Lasting []) (spares : F.Spares Event.warns []) :
    (∀ source w e w', evaluate F source w = (.ok e, w') → Signalled F source w e w') ∧
      ∀ ways w, (afterEach F ways w).warnings = w.warnings ++
        (failures (endings F ways w)).map fun (source, e) => .sandboxFailed e.value source.shown :=
  ⟨fun _ _ _ _ returned => evaluate_signalled lasting spares returned, afterEach_warnings spares⟩

/-- Isolates that fail, break off, and have a value. -/
def moody : Isolate.Scripted.Plot where
  scenes := [("fail", { ok := false, value := "3" }), ("break", { raised := some (.value (some "no")) })]

/-- One isolate is not made, one fails, one has a value, and one breaks off. -/
theorem failures_warned_moody :
    let F := Isolate.Scripted.factory moody
    let w : World := { World.blank with refusals := [some (.memory none)] }
    (afterEach F [.text (.text "1"), .script ["fail"], .evaluation (.int 2), .script ["break"]] w).warnings =
        [.sandboxFailed "MemoryError: " "1", .sandboxFailed "3" "fail", .sandboxFailed "ValueError: no" "break"] ∧
      ∃ w', evaluate F (.text "1") w = (.ok (.ofFault (.memory none)), w') ∧
        Signalled F (.text "1") w (.ofFault (.memory none)) w' := by
  intro F w
  have confined := Isolate.Scripted.confined moody
  obtain ⟨one, each⟩ := failures_warned confined.lasting (confined.spares Functions.spare_nil)
  have failed : (failures (endings F [.text (.text "1"), .script ["fail"], .evaluation (.int 2),
      .script ["break"]] w)).map (fun r => (r.2.value, r.1.shown)) =
      ([("MemoryError: ", "1"), ("3", "fail"), ("ValueError: no", "break")] : List (Text × Text)) := by decide +kernel
  refine ⟨?_, _, rfl, one _ w _ _ rfl⟩
  have told := congrArg (List.map fun t => Event.sandboxFailed t.1 t.2) failed
  rw [List.map_map] at told
  exact (each _ w).trans told

end Sandbox

end ScriptHost
