/-
Evaluating a source that loads a file, next to evaluating what the file holds. When the text begins to run, the first
machine is a twin of the second, shifted by what the call has made; so the text does the same on both, and what it
ends with is described alike. The engine that gives up tells how deep the second goes, and the first goes six levels
deeper.
-/
import ScriptHost.Proofs.Isolate.Persistence
import ScriptHost.Proofs.Script.Twins.Contained
import ScriptHost.Proofs.Script.Twins.Ended
import ScriptHost.Proofs.Session.Load.Call

namespace ScriptHost

open Script

namespace Script.Engine

variable {σ : Type} {host : Host σ} {e d : Engine} {m n : Machine} {w u : σ}

/-! ## Names that are kept -/

/-- Where each of the names is missing, or can not be removed, nothing is removed. -/
theorem strip_kept : ∀ {names : List String}, (∀ s ∈ names, (e.own? m .global s).all (!·.configurable) = true) →
    e.strip names m = .value () m
  | [], _ => rfl
  | s :: rest, kept => by
    have kept' := kept s List.mem_cons_self
    have removed : ∃ gone, e.remove .global s m = .value gone m := by
      unfold remove
      rw [Run.bind_apply, Run.look_apply, Result.follow_value]
      cases found : e.own? m .global s with
      | none => exact ⟨true, rfl⟩
      | some slot =>
        rw [found] at kept'
        have fixed : slot.configurable = false := by simpa using kept'
        refine ⟨false, ?_⟩
        dsimp only
        rw [fixed]
        rfl
    obtain ⟨gone, removed⟩ := removed
    rw [strip, Run.bind_apply, Run.discard_apply, removed]
    exact strip_kept fun s among => kept s (List.mem_cons_of_mem _ among)

/-! ## When a program has ended -/

/-- Runs the jobs of a program and writes the array of its outcome. -/
def deliver (e : Engine) (r : Ref) : Run Outcome := do
  match (← e.leftOver) with
  | some reason => return .failed (← e.thrownText reason)
  | none =>
    match (← e.json {} [] .undefined (.name []) (.object r)) with
    | some tree => return .reply tree.toDatum
    | none => return .failed "Invalid Result Value"

/-- What of an evaluation follows the array of its outcome. -/
def catchThrown (e : Engine) (x : Run Outcome) : Run Outcome := do
  match (← Run.attempt x) with
  | .ok o => return o
  | .error v => return .failed (← e.thrownText v)

/-- What of an evaluation comes after the program. -/
def finish (e : Engine) (convert : Value) (ended : Except Value Value) : Run Outcome :=
  e.catchThrown (e.describeOutcome convert ended >>= e.deliver)

theorem evaluate_eq (source : Utf16) : e.evaluate source = e.catchThrown (e.evaluateToArray source >>= e.deliver) := rfl

section Ends

variable {convert : Value} {source : Utf16} {r : Except Value Value}

/-- An evaluation goes on as what comes after its program, begun where the program ended. -/
theorem Starts.evaluate_ended {l : Machine} (starts : e.Starts convert source m l)
    (ran : (e.runGlobally source l).ended host w = (some r, n, u)) :
    (e.above.evaluate source m).ended host w = (e.above.finish convert r n).ended host u := by
  have array : (e.above.evaluateToArray source m).ended host w =
    (e.above.describeOutcome convert r n).ended host u := by
    rw [starts]
    exact Run.ended_attempt_bind _ ran
  have answer : ((e.above.evaluateToArray source >>= e.above.deliver) m).ended host w =
      ((e.above.describeOutcome convert r >>= e.above.deliver) n).ended host u := by
    rw [Run.bind_apply, Run.bind_apply, Result.ended_follow, Result.ended_follow, array]
  rw [evaluate_eq, finish]
  unfold catchThrown
  rw [Run.bind_apply, Run.bind_apply, Result.ended_follow, Result.ended_follow, Run.ended_attempt,
    Run.ended_attempt, answer]

/-- Where an evaluation ends, so does its program. -/
theorem Starts.ran {l x : Machine} {o : Except Value Outcome} {v : σ} (starts : e.Starts convert source m l)
    (ended : (e.above.evaluate source m).ended host w = (some o, x, v)) :
    ∃ r n u, (e.runGlobally source l).ended host w = (some r, n, u) ∧
      (e.above.finish convert r n).ended host u = (some o, x, v) := by
  rcases ran : (e.runGlobally source l).ended host w with ⟨_ | r, n, u⟩
  · have array : (e.above.evaluateToArray source m).ended host w = (none, n, u) := by
      rw [starts]
      exact Run.ended_attempt_bind_none _ ran
    have never : (e.above.evaluate source m).ended host w = (none, n, u) :=
      Run.ended_attempt_bind_none _ (Run.ended_bind_none e.above.deliver array)
    rw [never] at ended
    cases ended
  · exact ⟨r, n, u, rfl, (starts.evaluate_ended ran).symm.trans ended⟩

/-- What runs for itself leaves the result of what surrounds it. -/
theorem withOwnResult_result {x : Run Unit} (ran : (Run.withOwnResult x m).ended host w = (some r, n, u)) :
    n.result = m.result := by
  rcases ended : (x { m with result := .undefined }).ended host w with ⟨_ | _, l, v⟩
  · have never := (Run.ended_attempt_bind_none _ ended).symm.trans ran
    cases never
  · cases (ended_withOwnResult ended).symm.trans ran
    rfl

/-- Entering a block without functions leaves it. -/
theorem enterBlock_result (frame : Frame) (lexicals : List Lexical) (m : Machine) :
    ∃ inside scopes, enterBlock frame lexicals [] m = .value inside { m with scopes } := by
  unfold enterBlock
  cases lexicals with
  | nil => exact ⟨frame, m.scopes, rfl⟩
  | cons => exact ⟨_, _, rfl⟩

/-- So does a program. -/
theorem runProgram_result {frame : Frame} {p : Program} (ran : (e.runProgram frame p m).ended host w = (some r, n, u)) :
    n.result = m.result := by
  obtain ⟨own, outer, began⟩ : ∃ own scopes, e.runProgram frame p m = (do
      let inside ← enterBlock own p.body.lexicals []
      Run.withOwnResult do
        e.declareProgram inside p
        discard (e.execAll inside p.body.statements)) { m with scopes } := by
    unfold runProgram
    cases p.strict with
    | true => exact ⟨_, _, rfl⟩
    | false => exact ⟨_, m.scopes, rfl⟩
  obtain ⟨inside, inner, entered⟩ := enterBlock_result own p.body.lexicals { m with scopes := outer }
  rw [began, Run.bind_apply, entered, Result.follow_value] at ran
  have kept := withOwnResult_result ran
  exact kept

theorem runGlobally_result (ran : (e.runGlobally source m).ended host w = (some r, n, u)) : n.result = m.result := by
  unfold runGlobally runSource at ran
  cases parsed : Program.ofSource globalFrame.strict (Utf16.toText source) with
  | error complaint =>
    rw [parsed] at ran
    cases ran
    rfl
  | ok p =>
    rw [parsed] at ran
    exact runProgram_result ran

end Ends

/-! ## Twins -/

section Twins

variable {s : Shift} (he : Twins s e d)
include he

theorem twins_deliver (r : Ref) : Run.Twins s id (e.deliver r) (d.deliver (s.ref r)) := by
  refine .bind (twins_leftOver he) fun left => ?_
  cases left with
  | some reason => exact .bind_same (twins_thrownText he reason) fun _ => .pure rfl
  | none =>
    refine .bind_same (he.json {} [] .undefined (.name []) (.object r)) fun tree => ?_
    cases tree <;> exact .pure rfl

theorem twins_catchThrown {x y : Run Outcome} (twins : Run.Twins s id x y) :
    Run.Twins s id (e.catchThrown x) (d.catchThrown y) := by
  refine .bind (.attempt twins) fun ended => ?_
  rcases ended with v | o
  · exact .bind_same (twins_thrownText he v) fun _ => .pure rfl
  · exact .pure rfl

theorem twins_finish (convert : Value) (ended : Except Value Value) : Run.Twins s id
    (e.finish convert ended) (d.finish (s.value convert) (Run.Twins.ended s s.value ended)) :=
  twins_catchThrown he (.bind (twins_describeOutcome he convert ended) (twins_deliver he))

theorem twins_evaluate (source : Utf16) : Run.Twins s id (e.evaluate source) (d.evaluate source) := by
  have array : Run.Twins s s.ref (e.evaluateToArray source) (d.evaluateToArray source) :=
    .bind (twins_readName he .global stringName) fun convert =>
      .bind_same (twins_strip he.toBinds strippedNames) fun _ =>
        .bind (.attempt (twins_runByName he source)) fun ended => twins_describeOutcome he convert ended
  exact twins_catchThrown he (.bind array (twins_deliver he))

end Twins

end Script.Engine

namespace Session.Load

open Script.Engine

/-! ## Loading -/

/-- A machine that holds all that it refers to, and on which the function that evaluates a file is as it was made. -/
structure Booted (b : Bound) : Prop extends Loads (.bottom b.bindings) b.machine where
  contained : b.machine.Contained
  /-- The names that are removed before a program are missing, or are those of functions of the host. -/
  kept : ∀ s ∈ strippedNames, ((Engine.bottom b.bindings).own? b.machine .global s).all (!·.configurable) = true
  bound : ∀ f ∈ b.bindings, f.2.index < b.machine.heap.size

instance (b : Bound) : Decidable (Booted b) :=
  decidable_of_iff (Loads (.bottom b.bindings) b.machine ∧ b.machine.Contained ∧
      (∀ s ∈ strippedNames, ((Engine.bottom b.bindings).own? b.machine .global s).all (!·.configurable) = true) ∧
      ∀ f ∈ b.bindings, f.2.index < b.machine.heap.size)
    ⟨fun ⟨a, b, c, d⟩ => ⟨a, b, c, d⟩, fun ⟨a, b, c, d⟩ => ⟨a, b, c, d⟩⟩

/-- What a call of the function shifts: it makes three objects and a scope. -/
def shift (m : Machine) : Shift := ⟨m.heap.size, 3, m.scopes.size, 1⟩

/-- How deep a program can go that is loaded. -/
def loadedLimit : Nat := depthLimit - 6

namespace Booted

variable {σ τ : Type} {b : Bound} (booted : Booted b)
include booted

theorem twin (f : Ref) (u : Utf16) (t : Text) : b.machine.Twin (shift b.machine) (loaded f u t b.machine) := by
  have twin := booted.contained.twin #[.arguments f [.string u], .strings [u], textReply t]
    #[.names (loadBindings u b.machine.next) .global]
  have added : loaded f u t b.machine = { b.machine with
      heap := b.machine.heap ++ #[.arguments f [.string u], .strings [u], textReply t]
      scopes := b.machine.scopes ++ #[.names (loadBindings u b.machine.next) .global] } := by
    simp [loaded, inside, Machine.grown, Machine.opened, ← Array.toList_inj]
  rw [added]
  exact twin

/-- Every program starts on the machine as it is. -/
theorem starts : ∃ c : Ref, c.index < b.machine.heap.size ∧
    ∀ e : Engine, e.bindings = b.bindings → ∀ source, e.Starts (.object c) source b.machine b.machine := by
  obtain ⟨c, w, en, co, string, kind⟩ := booted.converts
  obtain ⟨f, w', en', co', eval, kind'⟩ := booted.evaluates
  refine ⟨c, Machine.lt_of_kind (by rw [kind]; nofun), fun e bindings source => ?_⟩
  have own : e.own? = (Engine.bottom b.bindings).own? := own?_of_bindings bindings
  have plain : e.Plain b.machine (.object c) :=
    ⟨⟨.global, w, en, co, find?_of_own (own ▸ string)⟩, .global, f, w', en', co', find?_of_own (own ▸ eval), kind'⟩
  have strip : e.strip strippedNames b.machine = .value () b.machine := strip_kept (own ▸ booted.kept)
  have gone : e.Stripped strippedNames b.machine b.machine :=
    ⟨⟨_, rfl, rfl⟩, fun _ => rfl, fun _ => rfl, fun _ _ _ => rfl, fun _ _ => rfl⟩
  exact plain.starts booted.outermost source strip gone

section Evaluations

variable {host : Host σ} {host' : Host τ} {R : σ → τ → Prop} {source u : Utf16}
  {t : Text} {o : Outcome} {n : Machine} {v x : σ} {w w' : τ}

/-- What a text comes to that goes only so deep, a source comes to as well that has the text loaded: the machine that
it leaves is a twin of the other one. -/
theorem evaluate_loads (path : loads? source = some u) (alike : Alike R host host')
    (answered : host' (.call "readfile" (crossing [u])) w = (.value (.text t), w')) (related : R v w')
    (ended : ((Engine.within b.bindings loadedLimit).evaluate (Text.toUtf16 t) b.machine).ended host v =
      (some (.ok o), n, x)) :
    ∃ l y, ((make b.bindings).evaluate source b.machine).ended host' w = (some (.ok o), l, y) ∧
      n.Twin (shift b.machine) l ∧ R x y := by
  have stay : ∀ f ∈ b.bindings, (shift b.machine).ref f.2 = f.2 := fun f among => Shift.ref_kept (booted.bound f among)
  obtain ⟨c, before, starts⟩ := booted.starts
  -- the text runs one level below its evaluation
  let inside := Engine.within b.bindings (depthLimit - 7)
  obtain ⟨r, n₁, v₁, ran, finished⟩ := (starts inside (within_bindings _ _) (Text.toUtf16 t)).ran ended
  -- loaded, it runs as it does there
  have alongside : inside.Twins (shift b.machine) inside :=
    within_twins stay (within_bindings b.bindings) (fun _ => rfl) (Nat.le_refl _)
  obtain ⟨f, wr, en, co, held, loader⟩ := booted.loads
  have twin := booted.twin f u t
  obtain ⟨n₂, w₂, ran', twin', related'⟩ :=
    (twins_runGlobally alongside (Text.toUtf16 t) _ _ twin).ended alike related ran
  have builtin : 17 ≤ (loaded f u t b.machine).heap.size :=
    Nat.le_trans booted.contained.builtin (twin.size ▸ Nat.le_add_right _ _)
  have outermost : 1 ≤ (loaded f u t b.machine).scopes.size :=
    Nat.le_trans booted.contained.outermost (twin.sizeScopes ▸ Nat.le_add_right _ _)
  have loaded := comes_of_within Shift.value_still (fun he => twins_runGlobally he _) builtin outermost ran' _
    (Nat.le_refl _)
  have program := runGlobally_loads path booted.toLoads held loader booted.contained.undefined answered loaded
    (by decide)
  have result : n₂.result = .undefined := by
    rw [twin'.result, runGlobally_result ran, booted.contained.undefined]
    rfl
  rw [show { n₂ with result := .undefined } = n₂ by rw [← result]] at program
  have evaluated := (starts (ofDepth b.bindings (depthLimit - 1)) (ofDepth_bindings _ _) source).evaluate_ended
    program
  -- and what comes after it is alike
  have above : (Engine.within b.bindings loadedLimit).Twins (shift b.machine) (make b.bindings) :=
    within_twins stay (ofDepth_bindings b.bindings) (fun _ => rfl) (show loadedLimit ≤ depthLimit by decide)
  obtain ⟨l, y, finished', twin'', related''⟩ :=
    (twins_finish above (.object c) r _ _ twin').ended alike related' finished
  have same : (shift b.machine).value (.object c) = .object c := congrArg Value.object (Shift.ref_kept before)
  rw [same] at finished'
  exact ⟨l, y, evaluated.trans finished', twin'', related''⟩

/-- Of itself the text comes to that as well. -/
theorem evaluate_within (alike : Alike R host host') (related : R v w)
    (ended : ((Engine.within b.bindings loadedLimit).evaluate (Text.toUtf16 t) b.machine).ended host v =
      (some (.ok o), n, x)) :
    ∃ y, ((make b.bindings).evaluate (Text.toUtf16 t) b.machine).ended host' w = (some (.ok o), n, y) ∧ R x y := by
  have deeper : (Engine.within b.bindings loadedLimit).Twins .still (make b.bindings) :=
    within_twins (fun _ _ => Shift.ref_still _) (ofDepth_bindings b.bindings) (fun _ => rfl)
      (show loadedLimit ≤ depthLimit by decide)
  have still := Machine.twin_still booted.contained.builtin booted.contained.outermost
  obtain ⟨l, y, ended', twin, related'⟩ := (twins_evaluate deeper (Text.toUtf16 t) _ _ still).ended alike related ended
  rw [twin.eq] at ended'
  exact ⟨y, ended', related'⟩

end Evaluations

end Booted

end Session.Load

end ScriptHost
