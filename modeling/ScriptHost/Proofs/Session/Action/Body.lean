/-
Actions: what the program around a body comes to. It makes the object that the body gets: the bindings, as they were
pasted in, and a function that adds to a list. What the body returns and what the list holds in the end are written
out together; what the body throws, the program throws.
-/
import ScriptHost.Proofs.Isolate.Coercion
import ScriptHost.Proofs.Script.Calls
import ScriptHost.Proofs.Script.Literal
import ScriptHost.Proofs.Script.Tidy
import ScriptHost.Proofs.Session.Action.Stage
import ScriptHost.Proofs.Session.Load.Call

namespace ScriptHost.Session.Action

open Script (Code Completion Engine Entry Expr Holds Json Key Machine Obj Program Ref Run ScopeRef Slot Spells
    SpellEntries
  SpellItems Stmt Value)
open Script.Engine (Comes Literal bottom globalFrame holding ofDepth)
open Script.Machine

/-! ## The program -/

def emittingName : Utf16 := "emitting"

def envName : Utf16 := "env"

def itemName : Utf16 := "x"

/-- The name of what the body gets. -/
def givenName : Utf16 := "_"

/-- The function that a body emits by. -/
def outCode : Code := .mk "out" [itemName] [] false false false
  (.mk [] [] [.expression (.call (.member (.name emittingName) (text "push")) [.name itemName])])
  (Utf16.ofString "function(x) \x7b emitting.push(x); \x7d")

/-- The expression for what the body gets. -/
def envExpr (bindings : Expr) : Expr := .object [.value "bindings" bindings, .value "out" (.function outCode)]

/-- The expression for the reply. -/
def replyExpr : Expr := libraryCall "JSON" "stringify"
    [.object [.value "bs" (.name bsName), .value "emitted" (.name emittingName)]]

/-- The program around a body, with the expression that the bindings are written as. -/
def acting (bindings : Expr) (body : Code) : Program where
  vars := [emittingName, envName, bsName]
  strict := false
  body := .mk [] [] [
    .vars [(emittingName, some (.array []))],
    .vars [(envName, some (envExpr bindings))],
    .vars [(bsName, some (.call (.function body) [.name envName]))],
    .expression replyExpr]

/-- The tree of a reply. -/
def reply (returned : Json) (emitted : List Json) : Json := .object [(bsName, returned), ("emitted", .array emitted)]

/-! ## Making functions -/

/-- Making a function that does not know itself makes two objects. -/
theorem allocFunction_apply {code : Code} (anonymous : code.ownName = false) (scope : ScopeRef) (m : Machine) :
    ∃ f n, Run.allocFunction code scope m = .value f n ∧ m.Extends n ∧ m.heap.size ≤ f.index ∧
      (n.object f).kind = .closure code scope := by
  let o : Obj := {
    kind := .closure code scope, parent := some .functionParent
    slots := [("prototype", .data (.object m.next) true false false),
      ("name", .data (.string code.name) false false true),
      (.length, .data (.number (Float.ofNat code.parameters.length)) false false true)] }
  let l := (m.grown (.record [])).grown o
  have closure : Run.allocFunction code scope m =
      .value (m.grown (.record [])).next
        (l.updated m.next (Obj.put "constructor" (.hidden (.object (m.grown (.record [])).next)))) := by
    rw [Run.allocFunction, anonymous]
    rfl
  have other : (m.grown (.record [])).next ≠ m.next := by
    intro same
    have := congrArg Ref.index same
    simp [Machine.next] at this
  refine ⟨_, _, closure, ?_, ?_, ?_⟩
  · exact ((extends_grown _ m).trans (extends_grown _ _)).changed _ (Nat.le_refl _)
  · simp [Machine.next]
  · rw [updated_object_of_ne _ other, object_next]

section Program

variable {σ : Type} {b : List (Key × Ref)} {host : Script.Host σ} {k : Nat} {l m n : Machine} {w u : σ}

/-! ## Up to the call -/

/-- The machine on which the variables are declared. -/
def declared (m : Machine) : Machine :=
  assigned (.ofUnits bsName) .undefined
    (assigned (.ofUnits envName) .undefined (assigned (.ofUnits emittingName) .undefined m))

/-- A machine on which the program can begin: its variables are none yet. -/
structure Begins (b : List (Key × Ref)) (m : Machine) : Prop extends Stage (bottom b) m where
  free : ∀ x ∈ [emittingName, envName, bsName], (bottom b).own? m .global (.ofUnits x) = none
  /-- Nothing waits. -/
  still : m.jobs = [] ∧ m.unhandled = []

theorem apart : Key.ofUnits emittingName ≠ .ofUnits envName ∧ Key.ofUnits emittingName ≠ .ofUnits bsName ∧
    Key.ofUnits envName ≠ .ofUnits bsName ∧ Key.ofUnits emittingName ∉ lookedUp ∧ Key.ofUnits envName ∉ lookedUp ∧
    Key.ofUnits bsName ∉ lookedUp := by decide +kernel

/-- The three variables of the program have these values. -/
structure Vars (b : List (Key × Ref)) (m : Machine) (emitting env bs : Value) : Prop extends Stage (bottom b) m where
  emitting : (bottom b).own? m .global (.ofUnits emittingName) = some (.plain emitting)
  env : (bottom b).own? m .global (.ofUnits envName) = some (.plain env)
  bs : (bottom b).own? m .global (.ofUnits bsName) = some (.plain bs)

namespace Vars

variable {emitting env bs v : Value}

theorem carried (h : Vars b m emitting env bs) (extended : m.Extends n) : Vars b n emitting env bs := by
  have own := Engine.own?_within (e := bottom b) extended.within h.global_lt
  exact ⟨h.toStage.carried extended, (own _).trans h.emitting, (own _).trans h.env, (own _).trans h.bs⟩

theorem setEmitting (h : Vars b m emitting env bs) : Vars b (assigned (.ofUnits emittingName) v m) v env bs :=
  ⟨h.toStage.assigned apart.2.2.2.1 v, h.toStage.own?_assigned _ v, (own?_assigned_of_ne apart.1.symm v _).trans h.env,
    (own?_assigned_of_ne apart.2.1.symm v _).trans h.bs⟩

theorem setEnv (h : Vars b m emitting env bs) : Vars b (assigned (.ofUnits envName) v m) emitting v bs :=
  ⟨h.toStage.assigned apart.2.2.2.2.1 v, (own?_assigned_of_ne apart.1 v _).trans h.emitting,
  h.toStage.own?_assigned _ v,
    (own?_assigned_of_ne apart.2.2.1.symm v _).trans h.bs⟩

theorem setBs (h : Vars b m emitting env bs) : Vars b (assigned (.ofUnits bsName) v m) emitting env v :=
  ⟨h.toStage.assigned apart.2.2.2.2.2 v, (own?_assigned_of_ne apart.2.1 v _).trans h.emitting,
    (own?_assigned_of_ne apart.2.2.1 v _).trans h.env, h.toStage.own?_assigned _ v⟩

end Vars

/-- It does not matter what the last program ended with. -/
theorem Begins.cleared (h : Begins b m) : Begins b { m with result := .undefined } :=
  ⟨h.toStage.within (fun _ _ => rfl) (Nat.le_refl _) h.outermost, h.free, h.still⟩

theorem Begins.vars (h : Begins b m) : Vars b (declared m) .undefined .undefined .undefined := by
  obtain ⟨emitting_env, emitting_bs, env_bs, emitting, env, bs⟩ := apart
  have first := h.toStage.assigned emitting .undefined
  have second := first.assigned env .undefined
  refine ⟨second.assigned bs .undefined, ?_, ?_, second.own?_assigned _ _⟩
  · rw [declared, own?_assigned_of_ne emitting_bs, own?_assigned_of_ne emitting_env]
    exact h.toStage.own?_assigned _ _
  · rw [declared, own?_assigned_of_ne env_bs]
    exact first.own?_assigned _ _

/-- The program declares its variables. -/
theorem Begins.declares (h : Begins b m) {e : Engine} (bindings : e.bindings = b) (literal : Expr) (body : Code) :
    e.declareProgram globalFrame (acting literal body) m = .value () (declared m) := by
  obtain ⟨emitting_env, emitting_bs, env_bs, emitting, env, bs⟩ := apart
  have free : ∀ x ∈ [emittingName, envName, bsName], e.own? m .global (.ofUnits x) = none := fun x among => by
    rw [Engine.own?_of_bindings (e := bottom b) bindings]
    exact h.free x among
  have stage : Stage e m := h.toStage.of_bindings bindings
  have first := stage.assigned emitting .undefined
  have second := first.assigned env .undefined
  have scope : Run.scope .global m = .value .global m := by
    show Script.Result.value (m.scopes[0]?.getD .global) m = _
    rw [h.scope]
  have none : e.checkGlobals [] m = .value () m := rfl
  have vars : [emittingName, envName, bsName].forM (fun x => e.declareVar .global x) m = .value () (declared m) := by
    show (e.declareVar .global emittingName >>= fun _ => e.declareVar .global envName >>= fun _ =>
      e.declareVar .global bsName >>= fun _ => pure ()) m = _
    rw [Run.bind_apply, stage.declareVar (free _ (by simp)), Script.Result.follow_value, Run.bind_apply,
      first.declareVar, Script.Result.follow_value, Run.bind_apply, second.declareVar]
    · rfl
    · rw [own?_assigned_of_ne env_bs.symm, own?_assigned_of_ne emitting_bs.symm]
      exact free _ (by simp)
    · rw [own?_assigned_of_ne emitting_env.symm]
      exact free _ (by simp)
  rw [Engine.declareProgram, Run.bind_apply, show globalFrame.vars = .global from rfl, scope,
    Script.Result.follow_value]
  show (e.checkGlobals [] >>= fun _ =>
    [emittingName, envName, bsName].forM (fun x => e.declareVar .global x) >>= fun _ =>
    pure ()) m = _
  rw [Run.bind_apply, none, Script.Result.follow_value, Run.bind_apply, vars]
  rfl

/-- The list is made that takes what the body emits. -/
theorem exec_emitting {env bs v : Value} (h : Vars b m v env bs) :
    Comes b host (k + 2) (·.exec globalFrame (.vars [(emittingName, some (.array []))])) m w
      (some (.ok .normal), assigned (.ofUnits emittingName) (.object m.next) (m.grown (.listing [])), w) := by
  have made : Comes b host (k + 1) (·.eval globalFrame (.array [])) m w
      (some (.ok (.object m.next)), m.grown (.listing []), w) :=
    Script.Engine.comes_eval (.of_value fun _ _ => rfl)
  have vars := h.carried (extends_grown (.listing []) m)
  exact Script.Engine.exec_var made fun e bindings =>
    (vars.toStage.of_bindings bindings).writeName
    ((congrFun (Engine.own?_of_bindings (e := bottom b) bindings) _) ▸ vars.emitting) _ _

/-- What a body finds: a list that takes what it emits, and the object that it is given. -/
structure Finds (b : List (Key × Ref)) (given list out : Ref) (v : Value) (vs : List Value) (l : Machine) : Prop
    extends Vars b l (.object list) (.object given) .undefined where
  lists : l.object list = .listing vs
  holds : l.object given = .record [("bindings", v), ("out", .object out)]
  emits : (l.object out).kind = .closure outCode .global
  beyond : list ≠ .global ∧ given ≠ .global
  still : l.jobs = [] ∧ l.unhandled = []

/-- A machine on which a body is called, with its bindings and the function that it is. -/
structure Poised (b : List (Key × Ref)) (j : Json) (body : Code) (f env : Ref) (l : Machine) : Prop where
  finds : ∃ list out v, Finds b env list out v [] l ∧ (j.Tidy → j.Open → Spells l [list] v j)
  function : (l.object f).kind = .closure body .global

/-- The object is made that the body gets. -/
theorem exec_env {literal : Expr} {j : Json} {levels : Nat} (written : Literal literal j levels) {list v bs : Value}
    (h : Vars b m list v bs) : ∃ n, m.Extends n ∧ (∀ host : Script.Host σ, ∀ w,
      Comes b host (levels + 3) (·.exec globalFrame (.vars [(envName, some (envExpr literal))])) m w
        (some (.ok .normal), assigned (.ofUnits envName) (.object m.next) n, w)) ∧
      ∃ v out, n.object m.next = .record [("bindings", v), ("out", .object out)] ∧
          (n.object out).kind = .closure outCode .global ∧
        (j.Tidy → j.Open → ∀ around : List Ref, (∀ r ∈ around, r.index < m.heap.size) → Spells n around v j) := by
  let m₁ := m.grown (.record [])
  obtain ⟨v, m₂, extends_m₂, made⟩ := written.runs b globalFrame m₁
  have before : m.next.index < m₁.heap.size := by simp [Machine.next, m₁]
  have there : m.next.index < m₂.heap.size := Nat.lt_of_lt_of_le before extends_m₂.size
  have empty : m₂.object m.next = .record [] := (extends_m₂.object before).trans (object_next _ m)
  let m₃ := m₂.updated m.next (Obj.put "bindings" (.plain v))
  have first : m₃.object m.next = .record [("bindings", v)] := by
    rw [updated_object _ there, empty]
    rfl
  have size : m₃.heap.size = m₂.heap.size := updated_size _ _
  obtain ⟨out, m₄, alloc, extends_m₄, new, closure⟩ :=
    allocFunction_apply (show outCode.ownName = false from rfl) .global m₃
  have there' : m.next.index < m₃.heap.size := size ▸ there
  have other : out ≠ m.next := by
    rintro rfl
    exact Nat.lt_irrefl _ (Nat.lt_of_lt_of_le there' new)
  let n := m₄.updated m.next (Obj.put "out" (.plain (.object out)))
  have elsewhere : ∀ r : Ref, r ≠ m.next → r.index < m₂.heap.size → n.object r = m₂.object r := fun r apart inside => by
    rw [updated_object_of_ne _ apart, extends_m₄.object (size ▸ inside), updated_object_of_ne _ apart]
  have extended : m.Extends n :=
    ((((extends_grown _ m).trans extends_m₂).changed _ (Nat.le_refl _)).trans extends_m₄).changed _ (Nat.le_refl _)
  have vars := h.carried extended
  refine ⟨n, extended, fun host w => ?_, v, out, ?_, ?_, fun tidy shown around older => ?_⟩
  · have bindings : Comes b host levels (·.eval globalFrame literal) m₁ w (some (.ok v), m₂, w) := fun d enough => by
      dsimp only
      rw [made d enough]
      rfl
    have function : Comes b host (levels + 1) (·.eval globalFrame (.function outCode)) m₃ w
      (some (.ok (.object out)), m₄, w) :=
      Script.Engine.comes_eval (.of_value fun e _ => by
        show (Run.allocFunction outCode .global >>= fun f => pure (Value.object f)) m₃ = _
        rw [Run.bind_apply, alloc]
        rfl)
    have value : Comes b host (levels + 2) (·.eval globalFrame (envExpr literal)) m w _ := Script.Engine.eval_object
      (Script.Engine.fill_cons (bindings.deeper (Nat.le_succ _))
      (Script.Engine.fill_cons function Script.Engine.fill_nil))
    exact Script.Engine.exec_var value fun e bindings => (vars.toStage.of_bindings bindings).writeName
      ((congrFun (Engine.own?_of_bindings (e := bottom b) bindings) _) ▸ vars.env) _ _
  · rw [updated_object _ (Nat.lt_of_lt_of_le there' extends_m₄.size), extends_m₄.object there', first]
    rfl
  · rw [updated_object_of_ne _ other]
    exact closure
  · obtain ⟨v', n', made', -, spells⟩ := j.toValue_spells m₁ (Nat.lt_of_le_of_lt (Nat.zero_le _) before) tidy
    have same := (made _ (Nat.le_refl _)).symm.trans
      ((written.makes shown b _ globalFrame m₁ (Nat.le_refl _)).trans made')
    cases same
    refine spells n around (fun r inside below => elsewhere r ?_ below) fun q among =>
      .inl (Nat.lt_trans (older q among) before)
    rintro rfl
    exact Nat.not_le_of_lt before inside

/-! ## The call and the reply -/

/-- The expression that calls the body. -/
def callExpr (body : Code) : Expr := .call (.function body) [.name envName]

/-- The function of the body is made and called; the call comes to what the body comes to. -/
theorem eval_call {body : Code} (anonymous : body.ownName = false) {list env bs : Value} (h : Vars b m list env bs) :
    ∃ f l, m.Extends l ∧ (l.object f).kind = .closure body .global ∧ ∀ (host : Script.Host σ) (w : σ) (d : Nat)
      {out : Option (Except Value Value) × Machine × σ},
      ((ofDepth b (d + 1)).call (.object f) .undefined [env] l).ended host w = out →
        ((ofDepth b (d + 2)).eval globalFrame (callExpr body) m).ended host w = out := by
  obtain ⟨f, l, alloc, extended, -, closure⟩ := allocFunction_apply anonymous .global m
  refine ⟨f, l, extended, closure, fun host w d out called => ?_⟩
  have bindings := Script.Engine.ofDepth_bindings b d
  have vars := h.carried extended
  have read : (ofDepth b d).readName .global envName l = .value env l := (vars.toStage.of_bindings bindings).readName
    ((congrFun (Engine.own?_of_bindings (e := bottom b) bindings) _) ▸ vars.env)
  show ((((ofDepth b (d + 1)).eval globalFrame (.function body)) >>= fun f =>
    ((ofDepth b (d + 1)).evalAll globalFrame [.name envName]) >>=
    fun vs => (ofDepth b (d + 1)).call f .undefined vs) m).ended host w = out
  have callee : (ofDepth b (d + 1)).eval globalFrame (.function body) m = .value (.object f) l := by
    show (Run.allocFunction body .global >>= fun f => pure (Value.object f)) m = _
    rw [Run.bind_apply, alloc]
    rfl
  have arguments : (ofDepth b (d + 1)).evalAll globalFrame [.name envName] l = .value [env] l := by
    show ((ofDepth b d).readName .global envName >>= fun v => pure [v]) l = _
    rw [Run.bind_apply, read]
    rfl
  rw [Run.bind_apply, callee, Script.Result.follow_value, Run.bind_apply, arguments]
  exact called

/-- The object that is written out. -/
def replyObject (v list : Value) : Obj := .record [("bs", v), ("emitted", list)]

theorem spells_reply {j : Json} {ms : List Json} {v list : Value} (intact : Script.Intact (bottom b) m)
    (value : Spells m [] v j)
    (gathered : Spells m [] list (.array ms)) :
    Spells (m.grown (replyObject v list)) [] (.object m.next) (reply j ms) := by
  have here : (m.grown (replyObject v list)).object m.next = replyObject v list := object_next _ m
  have kept : ∀ {x : Value} {i : Json}, Spells m [] x i → Spells (m.grown (replyObject v list)) ([] ++ [m.next]) x i :=
    fun spells => spells.kept (by simp [Machine.next]) (extends_grown _ m).within
  have keys : (replyObject v list).keys = ["bs", "emitted"] := rfl
  have bs : (replyObject v list).slot? "bs" = some (.plain v) := rfl
  have emitted : (replyObject v list).slot? "emitted" = some (.plain list) := rfl
  refine .object (by simp) intact.next_ne ?_ ?_
  · rw [here]
    exact Obj.record_plain _
  · rw [here, keys]
    exact .cons ((congrArg (Obj.slot? · _) here).trans bs) (kept value)
      (.cons ((congrArg (Obj.slot? · _) here).trans emitted) (kept gathered) .nil)

/-- The reply is written out. -/
theorem exec_replyExpr {returned : Json} {emitted : List Json} {list env v : Value} (h : Vars b m list env v)
    (value : Spells m [] v returned) (gathered : Spells m [] list (.array emitted)) :
    Comes b host ((reply returned emitted).height + 4) (·.exec globalFrame (.expression replyExpr)) m w
      (some (.ok .normal), { (m.grown (replyObject v list)).grown (holding (.object m.next)) with
        result := .string ((reply returned emitted).write [] []) }, w) := by
  have vars := h.carried (extends_grown (.record []) m)
  have vars' := h.carried (extends_grown (.record [("bs", v)]) m)
  have stage := h.toStage.grown (replyObject v list)
  have spells := spells_reply h.toIntact value gathered
  obtain ⟨q, wr, en, c, held, library⟩ := h.library
  obtain ⟨f, wr', en', c', writes, kind⟩ := library.writes
  have receiver : Comes b host ((reply returned emitted).height + 2) (·.eval globalFrame (.name "JSON")) m w
      (some (.ok (.object q)), m, w) := Script.Engine.eval_name fun e bindings =>
    Script.Engine.readName_global h.scope ((congrFun (Engine.own?_of_bindings (e := bottom b) bindings) m) ▸ held)
  have object : Comes b host ((reply returned emitted).height + 2)
      (·.eval globalFrame (.object [.value "bs" (.name bsName), .value "emitted" (.name emittingName)])) m w
      (some (.ok (.object m.next)), m.grown (replyObject v list), w) := by
    refine Script.Engine.eval_object (Script.Engine.fill_cons (Script.Engine.eval_name fun e bindings =>
      (vars.toStage.of_bindings bindings).readName
          ((congrFun (Engine.own?_of_bindings (e := bottom b) bindings) _) ▸ vars.bs)) ?_)
    rw [updated_next]
    refine Script.Engine.fill_cons (Script.Engine.eval_name fun e bindings =>
      (vars'.toStage.of_bindings bindings).readName
          ((congrFun (Engine.own?_of_bindings (e := bottom b) bindings) _) ▸ vars'.emitting)) ?_
    rw [updated_next]
    exact Script.Engine.fill_nil
  have kept : ((m.grown (replyObject v list)).object f).kind = .native .stringify := by
    rw [object_grown _ (lt_of_kind (by simp [kind]))]
    exact kind
  have found : ∀ e : Engine, e.bindings = b →
    e.get (.object q) (.ofUnits (Utf16.ofString "stringify")) m = .value (.object f) m :=
    fun e bindings => Script.Engine.get_of_find (Script.Engine.find?_of_own
      ((congrFun (Engine.own?_of_bindings (e := bottom b) bindings) m) ▸ writes))
  have written := Script.Engine.eval_callMember (k := (reply returned emitted).height + 1) receiver found
    (Script.Engine.evalAll_cons object Script.Engine.evalAll_nil)
    (Script.Engine.call_stringify (k := (reply returned emitted).height) kept stage.toIntact spells (Nat.le_refl _)
    (.object q))
  refine Script.Engine.comes_exec (written.bind ?_)
  exact .bind (a := ()) (.of_value fun _ _ => rfl) (.of_value fun _ _ => rfl)

/-! ## The whole program -/

section Whole

variable {d : Nat} {x : Utf16} {e : Expr} {frame : Script.Frame} {v : Value}

theorem exec_value (value : ((ofDepth b d).eval frame e m).ended host w = (some (.ok v), n, u))
    (written : (ofDepth b d).writeName frame.scope x v frame.strict n = .value () l) :
    ((ofDepth b (d + 1)).exec frame (.vars [(x, some e)]) m).ended host w = (some (.ok .normal), l, u) := by
  show ((ofDepth b d).execVars frame [(x, some e)] m).ended host w = _
  unfold Engine.execVars
  refine (Run.ended_bind (a := ⟨⟩) (n := l) (u := u) _ ?_).trans rfl
  refine (Run.ended_bind (a := ⟨⟩) (n := l) (u := u) _ ?_).trans rfl
  refine (Run.ended_bind _ value).trans ?_
  rw [written]
  rfl

theorem exec_thrown (thrown : ((ofDepth b d).eval frame e m).ended host w = (some (.error v), n, u)) :
    ((ofDepth b (d + 1)).exec frame (.vars [(x, some e)]) m).ended host w = (some (.error v), n, u) := by
  show ((ofDepth b d).execVars frame [(x, some e)] m).ended host w = _
  unfold Engine.execVars
  exact Run.ended_bind_error _ (Run.ended_bind_error _ (Run.ended_bind_error _ thrown))

/-- The program ends as its statements do. -/
theorem runProgram_statements {e : Engine} (bindings : e.bindings = b) (begins : Begins b m) {literal : Expr}
    {body : Code}
    {c : Except Value Completion} (ran : (e.execAll globalFrame (acting literal body).body.statements
      (declared { m with result := .undefined })).ended host w = (some c, n, u)) :
    (e.runProgram globalFrame (acting literal body) m).ended host w =
      (some (c.map fun _ => n.result), { n with result := m.result }, u) := by
  have begins₀ := begins.cleared
  have whole : ((do
      e.declareProgram globalFrame (acting literal body)
      discard (e.execAll globalFrame (acting literal body).body.statements) : Run Unit)
          { m with result := .undefined }).ended
      host w = (some (c.map fun _ => ()), n, u) := by
    rw [Run.bind_apply, begins₀.declares bindings, Script.Result.follow_value, Run.discard_apply,
      Script.Result.ended_follow, ran]
    cases c <;> rfl
  have result := Script.Engine.ended_withOwnResult whole
  have twice : ∀ v : Value, Except.map (fun _ => v) (Except.map (fun _ => ()) c) = c.map fun _ => v := fun v => by
    cases c <;> rfl
  rw [twice] at result
  exact result

/-- The machine that is left when the reply is written out. -/
def concluded (v list : Value) (n : Machine) : Machine :=
  let m := assigned (.ofUnits bsName) v n
  (m.grown (replyObject v list)).grown (holding (.object m.next))

/-- What the program comes to follows from what the call on the body comes to: it throws what that throws, and otherwise
ends with the text of the reply, where the names and what belongs to them are still what they were. -/
theorem runProgram_acting {literal : Expr} {j : Json} {levels : Nat} {body : Code} (begins : Begins b m)
    (written : Literal literal j levels) (anonymous : body.ownName = false) :
    ∃ f env l, Poised b j body f env l ∧ ∀ (host : Script.Host σ) (w : σ) {d : Nat} {r : Except Value Value}
      {n : Machine} {u : σ}, levels ≤ d →
      ((ofDepth b (d + 1)).call (.object f) .undefined [.object env] l).ended host w = (some r, n, u) →
      (∀ t, r = .error t → ((ofDepth b (d + 3)).runProgram globalFrame (acting literal body) m).ended host w =
        (some (.error t), { n with result := m.result }, u)) ∧
      ∀ v returned emitted list env bs, r = .ok v → (reply returned emitted).height + 1 ≤ d → Vars b n list env bs →
        Spells n [] v returned → Spells n [] list (.array emitted) →
          ((ofDepth b (d + 3)).runProgram globalFrame (acting literal body) m).ended host w =
            (some (.ok (.string ((reply returned emitted).write [] []))),
            { concluded v list n with result := m.result }, u) := by
  have vars := begins.cleared.vars
  have still : (declared { m with result := .undefined }).jobs = [] ∧
    (declared { m with result := .undefined }).unhandled = [] :=
    begins.still
  generalize start : declared { m with result := .undefined } = m₀ at vars still
  let list := m₀.next
  let m₁ := assigned (.ofUnits emittingName) (.object list) (m₀.grown (.listing []))
  have vars₁ : Vars b m₁ (.object list) .undefined .undefined :=
    (vars.carried (extends_grown (.listing []) _)).setEmitting
  obtain ⟨m₂, extended, second, v, out, record, closure, spells⟩ := exec_env (σ := σ) written vars₁
  let env := m₁.next
  let m₃ := assigned (.ofUnits envName) (.object env) m₂
  have vars₃ : Vars b m₃ (.object list) (.object env) .undefined := (vars₁.carried extended).setEnv
  obtain ⟨f, l, extended', function, called⟩ := eval_call (σ := σ) anonymous vars₃
  have beyond : list ≠ .global ∧ env ≠ .global ∧ out ≠ .global := by
    refine ⟨vars.next_ne, vars₁.next_ne, ?_⟩
    rintro rfl
    have plain := (vars₁.carried extended).plain
    rw [closure] at plain
    cases plain
  have kept : ∀ r : Ref, r ≠ .global → r.index < m₂.heap.size → l.object r = m₂.object r := fun r other inside =>
    (extended'.object (by rw [show m₃.heap.size = _ from updated_size _ _]; exact inside)).trans
    (assigned_object other _)
  have there : list.index < m₁.heap.size ∧ env.index < m₂.heap.size := by
    have sizes : m₁.heap.size = m₀.heap.size + 1 := (updated_size _ _).trans (grown_size _ _)
    refine ⟨by simp [list, sizes, Machine.next], lt_of_parent (r := env) (q := .objectParent) ?_⟩
    rw [record]
    rfl
  have waits : l.jobs = m₀.jobs ∧ l.unhandled = m₀.unhandled := by
    obtain ⟨os, rfl⟩ := extended
    obtain ⟨os', rfl⟩ := extended'
    exact ⟨rfl, rfl⟩
  refine ⟨f, env, l, ⟨⟨list, out, v, ⟨vars₃.carried extended', ?_, ?_, ?_, ⟨beyond.1, beyond.2.1⟩, ?_⟩,
    fun tidy shown => ?_⟩, function⟩,
    fun host w {d r n u} enough ended => ⟨?_, ?_⟩⟩
  · rw [kept _ beyond.1 (Nat.lt_of_lt_of_le there.1 extended.size), extended.object there.1, assigned_object beyond.1]
    exact object_next _ m₀
  · rw [kept _ beyond.2.1 there.2]
    exact record
  · rw [kept _ beyond.2.2 (lt_of_kind (by simp [closure]))]
    exact closure
  · rw [waits.1, waits.2]
    exact still
  · have older : ∀ r ∈ [list], r.index < m₁.heap.size := fun r among => List.mem_singleton.mp among ▸ there.1
    have elsewhere : Spells m₃ [list] v j :=
      (spells tidy shown [list] older).elsewhere (fun r other _ => assigned_object other _)
      (List.Subset.refl _)
    have kept : Spells l ([list] ++ []) v j := elsewhere.kept (by simp) extended'.within
    exact kept
  · rintro t rfl
    have first : Comes b host (levels + 3) _ m₀ w _ := exec_emitting vars
    have third := exec_thrown (x := bsName) (called host w d ended)
    refine runProgram_statements (Script.Engine.ofDepth_bindings _ _) begins (c := .error t) ?_
    rw [start]
    refine (Run.ended_bind _ (first _ (by omega))).trans ?_
    refine (Run.ended_bind _ (second host w _ (by omega))).trans ?_
    exact Run.ended_bind_error _ third
  · rintro v returned emitted list' env' bs rfl levels' vars' value gathered
    have bindings := Script.Engine.ofDepth_bindings b (d + 2)
    have stored : (ofDepth b (d + 2)).writeName .global bsName v false n = .value () (assigned (.ofUnits bsName) v n) :=
      (vars'.toStage.of_bindings bindings).writeName
      ((congrFun (Engine.own?_of_bindings (e := bottom b) bindings) _) ▸ vars'.bs) _ _
    have first : Comes b host (levels + 3) _ m₀ w _ := exec_emitting vars
    have third := exec_value (x := bsName) (called host w d ended) stored
    have elsewhere : ∀ r ≠ Ref.global, r ∉ [] → (assigned (.ofUnits bsName) v n).object r = n.object r :=
      fun r other _ =>
      assigned_object other v
    have fourth : Comes b host _ _ (assigned (.ofUnits bsName) v n) u _ :=
      exec_replyExpr vars'.setBs (value.elsewhere elsewhere (List.Subset.refl _))
        (gathered.elsewhere elsewhere (List.Subset.refl _))
    refine runProgram_statements (c := .ok .normal) (Script.Engine.ofDepth_bindings _ _) begins
      (n := { concluded v list' n with
      result := .string ((reply returned emitted).write [] []) }) ?_
    rw [start]
    refine (Run.ended_bind _ (first _ (by omega))).trans ?_
    refine (Run.ended_bind _ (second host w _ (by omega))).trans ?_
    refine (Run.ended_bind _ third).trans ?_
    exact (Run.ended_bind _ (fourth _ (by omega))).trans rfl

end Whole

end Program

end ScriptHost.Session.Action
