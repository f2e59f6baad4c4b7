/-
Evaluating expressions and running statements comes to the same on twins, one form at a time, and so it does by
the engine of every depth. An engine that gives up at its bottom, where others throw, has engines of every
greater depth as twins: what ends before it gives up does not show how deep programs can nest.
-/
import ScriptHost.Proofs.Script.HostCall
import ScriptHost.Proofs.Script.Twins.Call
import ScriptHost.Script.Outcome

namespace ScriptHost.Script

variable {σ : Shift}

namespace Engine

variable {e d : Engine}

theorem twins_isEval (f : Value) : Run.Twins σ id (isEval f) (isEval (σ.value f)) := by
  cases f with
  | object r =>
    refine .bind (.object r) fun o => ?_
    obtain ⟨kind, _, _, _⟩ := o
    cases kind with
    | native f => cases f <;> exact .pure rfl
    | _ => exact .pure rfl
  | _ => exact .pure rfl

theorem pairUp_slot (get set : Option Ref) (s : Option Slot) :
    pairUp (get.map σ.ref) (set.map σ.ref) (s.map σ.slot) = σ.slot (pairUp get set s) := by
  rcases s with _ | ⟨_, _, _, _⟩ | ⟨g, s, _, _⟩
  · rfl
  · rfl
  · rcases get with _ | _ <;> rcases set with _ | _ <;> rfl

section Expressions

variable (he : Twins σ e d) (frame : Frame)
include he

/-! ## Parts of expressions -/

theorem twins_evalAll :
    ∀ xs, Run.Twins σ (List.map σ.value) (e.evalAll frame xs) (d.evalAll (σ.frame frame) xs)
  | [] => .pure rfl
  | x :: rest => .bind (he.eval frame x) fun _ => .bind (twins_evalAll rest) fun _ => .pure rfl

theorem twins_evalItems : ∀ n items acc, Run.Twins σ (List.map σ.entry)
    (e.evalItems frame n items acc) (d.evalItems (σ.frame frame) n items (acc.map σ.entry))
  | _, [], _ => .pure rfl
  | n, none :: rest, acc => twins_evalItems (n + 1) rest acc
  | n, some x :: rest, acc => .bind (he.eval frame x) fun v =>
    twins_evalItems (n + 1) rest ((Key.ofNat n, .plain v) :: acc)

theorem twins_evalArray (items : List (Option Expr)) :
    Run.Twins σ σ.value (e.evalArray frame items) (d.evalArray (σ.frame frame) items) :=
  .bind (twins_evalItems he frame 0 items []) fun slots =>
    .bind (.alloc { kind := .array items.length false, parent := some .arrayParent, slots }) fun _ => .pure rfl

theorem twins_evalEntry (r : Ref) (entry : Entry) :
    Run.Twins σ id (e.evalEntry frame r entry) (d.evalEntry (σ.frame frame) (σ.ref r) entry) := by
  have given : ∀ parent : Option Ref, Run.Twins σ id (Run.update r fun o => { o with parent })
      (Run.update (σ.ref r) fun o => { o with parent := parent.map σ.ref }) :=
    fun parent => .update (p := fun o => { o with parent }) (fun _ => rfl) r
  have paired : ∀ (k : Key) (get set : Option Ref), Run.Twins σ id
      (Run.update r fun o => o.put k (pairUp get set (o.slot? k)))
      (Run.update (σ.ref r) fun o => o.put k (pairUp (get.map σ.ref) (set.map σ.ref) (o.slot? k))) := by
    refine fun k get set => .update (fun o => ?_) r
    rw [Shift.slot?_obj, pairUp_slot, ← Shift.put_obj]
  cases entry with
  | value k x => exact .bind (he.eval frame x) fun v => .put r k (.plain v)
  | getter k code => exact .bind (.allocFunction code frame.scope) fun f => paired k (some f) none
  | setter k code => exact .bind (.allocFunction code frame.scope) fun f => paired k none (some f)
  | parent x =>
    refine .bind (he.eval frame x) fun v => ?_
    cases v with
    | object p => exact given (some p)
    | null => exact given none
    | _ => exact .pure rfl

theorem twins_evalObject (entries : List Entry) :
    Run.Twins σ σ.value (e.evalObject frame entries) (d.evalObject (σ.frame frame) entries) :=
  .bind .allocPlain fun r => .bind_same (.forM (fun entry => twins_evalEntry he frame r entry) entries) fun _ =>
    .pure rfl

theorem twins_evalMember (x k : Expr) :
    Run.Twins σ σ.value (e.evalMember frame x k) (d.evalMember (σ.frame frame) x k) := by
  refine .bind (he.eval frame x) fun o => ?_
  have general : Run.Twins σ σ.value
      (do
        let key ← e.toKey (← e.eval frame k)
        e.get o key)
      (do
        let key ← d.toKey (← d.eval (σ.frame frame) k)
        d.get (σ.value o) key) :=
    .bind (he.eval frame k) fun v => .bind_same (twins_toKey he v) fun key => twins_get he o key
  cases k with
  | constant c =>
    cases c with
    | string s => exact twins_get he o _
    | _ => exact general
  | _ => exact general

/-! ## Calls -/

theorem twins_callName (n : Utf16) (args : List Expr) :
    Run.Twins σ σ.value (e.callName frame n args) (d.callName (σ.frame frame) n args) := by
  refine .bind (twins_holder he.toBinds _ n) fun h => .bind (twins_readHolder he n h) fun f =>
    .bind (twins_evalAll he frame args) fun vs => .bind_same (twins_isEval f) fun isEval => .ite Iff.rfl ?_ ?_
  · rcases vs with _ | ⟨_ | _ | _ | _ | _ | _, _⟩
    · exact .pure rfl
    · exact .pure rfl
    · exact .pure rfl
    · exact .pure rfl
    · exact .pure rfl
    · exact twins_runSource he frame _
    · exact .pure rfl
  · have called : ∀ this, Run.Twins σ σ.value (e.call f this vs) (d.call (σ.value f) (σ.value this) (vs.map σ.value)) :=
      fun this => he.call f this vs
    cases h with
    | property r =>
      dsimp only [Shift.holder]
      by_cases global : r = .global
      · rw [if_pos global, if_pos (Shift.ref_global.mpr global)]
        exact called .undefined
      · rw [if_neg global, if_neg fun same => global (Shift.ref_global.mp same)]
        exact called (.object r)
    | _ => exact called .undefined

theorem twins_callMember (x k : Expr) (args : List Expr) :
    Run.Twins σ σ.value (e.callMember frame x k args) (d.callMember (σ.frame frame) x k args) :=
  .bind (he.eval frame x) fun o => .bind (he.eval frame k) fun v => .bind_same (twins_toKey he v) fun key =>
    .bind (twins_get he o key) fun f => .bind (twins_evalAll he frame args) fun vs => he.call f o vs

theorem twins_evalCall (callee : Expr) (args : List Expr) :
    Run.Twins σ σ.value (e.evalCall frame callee args) (d.evalCall (σ.frame frame) callee args) := by
  cases callee with
  | name n => exact twins_callName he frame n args
  | member x k => exact twins_callMember he frame x k args
  | _ =>
    exact .bind (he.eval frame _) fun f => .bind (twins_evalAll he frame args) fun vs => he.call f .undefined vs

theorem twins_evalConstruct (callee : Expr) (args : List Expr) :
    Run.Twins σ σ.value (e.evalConstruct frame callee args) (d.evalConstruct (σ.frame frame) callee args) :=
  .bind (he.eval frame callee) fun f => .bind (twins_evalAll he frame args) fun vs => he.construct f vs

/-! ## Operators with an effect on their operand -/

theorem twins_evalTypeOf (x : Expr) :
    Run.Twins σ σ.value (e.evalTypeOf frame x) (d.evalTypeOf (σ.frame frame) x) := by
  have named : ∀ v, Run.Twins σ σ.value (do return .string (← typeName v))
    (do return .string (← typeName (σ.value v))) :=
    fun v => .bind_same (twins_typeName v) fun _ => .pure rfl
  cases x with
  | name n =>
    refine .bind (twins_holder he.toBinds _ n) fun h => ?_
    cases h with
    | nowhere => exact .pure rfl
    | binding s b => exact .bind (twins_readHolder he n (.binding s b)) named
    | property r => exact .bind (twins_readHolder he n (.property r)) named
  | _ => exact .bind (he.eval frame _) named

theorem twins_evalDelete (x : Expr) :
    Run.Twins σ σ.value (e.evalDelete frame x) (d.evalDelete (σ.frame frame) x) := by
  cases x with
  | name n => exact .bind_same (twins_deleteName he.toBinds _ n) fun _ => .pure rfl
  | member y k =>
    exact .bind (he.eval frame y) fun o => .bind (he.eval frame k) fun v => .bind_same (twins_toKey he v) fun key =>
      .bind (twins_toObject o) fun r => .bind_same (twins_remove he.toBinds r key) fun _ =>
        .ite Iff.rfl (.bind_same (.typeError _) fun _ => .pure rfl) (.pure rfl)
  | _ => exact .bind_same (he.eval frame _).discard fun _ => .pure rfl

theorem twins_change (target : Expr) {f g : Value → Run (Value × Value)}
    (hf : ∀ v, Run.Twins σ (Prod.map σ.value σ.value) (f v) (g (σ.value v))) :
    Run.Twins σ σ.value (e.change frame target f) (d.change (σ.frame frame) target g) := by
  cases target with
  | name n =>
    exact .bind (twins_readName he _ n) fun v => .bind (hf v) fun (new, _) =>
      .bind_same (twins_writeName he _ n new _) fun _ => .pure rfl
  | member x k =>
    exact .bind (he.eval frame x) fun o => .bind (he.eval frame k) fun kv => .bind_same (twins_toKey he kv) fun key =>
      .bind (twins_get he o key) fun v => .bind (hf v) fun (new, _) =>
        .bind_same (twins_put he o key new _) fun _ => .pure rfl
  | _ => exact .throwNew _ _

theorem twins_evalUpdate (step : Float) (before : Bool) (target : Expr) :
    Run.Twins σ σ.value (e.evalUpdate frame step before target) (d.evalUpdate (σ.frame frame) step before target) :=
  twins_change he frame target fun v => .bind_same (twins_toNumber he v) fun _ => .pure rfl

theorem twins_evalAssignWith (op : BinaryOp) (target value : Expr) :
    Run.Twins σ σ.value (e.evalAssignWith frame op target value) (d.evalAssignWith (σ.frame frame) op target value) :=
  twins_change he frame target fun v => .bind (he.eval frame value) fun w =>
    .bind (twins_binary he op v w) fun _ => .pure rfl

theorem twins_evalAssign (target value : Expr) :
    Run.Twins σ σ.value (e.evalAssign frame target value) (d.evalAssign (σ.frame frame) target value) := by
  cases target with
  | name n => exact .bind (he.eval frame value) fun v => .bind_same (twins_writeName he _ n v _) fun _ => .pure rfl
  | member x k =>
    exact .bind (he.eval frame x) fun o => .bind (he.eval frame k) fun kv => .bind (he.eval frame value) fun v =>
      .bind_same (twins_toKey he kv) fun key => .bind_same (twins_put he o key v _) fun _ => .pure rfl
  | _ => exact .throwNew _ _

/-! ## Other operators -/

theorem twins_evalBinary (op : BinaryOp) (x y : Expr) :
    Run.Twins σ σ.value (e.evalBinary frame op x y) (d.evalBinary (σ.frame frame) op x y) :=
  .bind (he.eval frame x) fun a => .bind (he.eval frame y) fun b => twins_binary he op a b

theorem twins_evalLogical (op : LogicalOp) (x y : Expr) :
    Run.Twins σ σ.value (e.evalLogical frame op x y) (d.evalLogical (σ.frame frame) op x y) := by
  refine .bind (he.eval frame x) fun a => ?_
  cases op
  all_goals exact .ite (by simp) (.pure rfl) (he.eval frame y)

theorem twins_evalConditional (test yes no : Expr) :
    Run.Twins σ σ.value (e.evalConditional frame test yes no) (d.evalConditional (σ.frame frame) test yes no) :=
  .bind (he.eval frame test) fun _ => .ite (by simp) (he.eval frame yes) (he.eval frame no)

theorem twins_evalExpr (x : Expr) : Run.Twins σ σ.value (e.evalExpr frame x) (d.evalExpr (σ.frame frame) x) := by
  cases x with
  | constant c => exact .pure (Shift.value_constant c).symm
  | name n => exact twins_readName he _ n
  | this => exact .pure rfl
  | array items => exact twins_evalArray he frame items
  | object entries => exact twins_evalObject he frame entries
  | function code => exact .bind (.allocFunction code frame.scope) fun _ => .pure rfl
  | member x k => exact twins_evalMember he frame x k
  | call f args => exact twins_evalCall he frame f args
  | construct f args => exact twins_evalConstruct he frame f args
  | typeOf x => exact twins_evalTypeOf he frame x
  | delete x => exact twins_evalDelete he frame x
  | unary op x => exact .bind (he.eval frame x) fun v => twins_unary he op v
  | update step before x => exact twins_evalUpdate he frame step before x
  | binary op x y => exact twins_evalBinary he frame op x y
  | logical op x y => exact twins_evalLogical he frame op x y
  | conditional test yes no => exact twins_evalConditional he frame test yes no
  | assign x y => exact twins_evalAssign he frame x y
  | assignWith op x y => exact twins_evalAssignWith he frame op x y
  | sequence x y => exact .bind_same (he.eval frame x).discard fun _ => he.eval frame y

end Expressions

/-! ## Statements -/

theorem twins_keepResult (frame : Frame) (v : Value) :
    Run.Twins σ id (keepResult frame v) (keepResult (σ.frame frame) (σ.value v)) :=
  .ite Iff.rfl (.setResult v) (.pure rfl)

theorem twins_clearResult (frame : Frame) : Run.Twins σ id (clearResult frame) (clearResult (σ.frame frame)) :=
  twins_keepResult frame .undefined

theorem twins_copyScope (lexicals : List Lexical) (inside : Frame) :
    Run.Twins σ σ.frame (copyScope lexicals inside) (copyScope lexicals (σ.frame inside)) :=
  .ite Iff.rfl (.pure rfl) (.bind (.scope _) fun s => .bind (.allocScope s) fun _ => .pure rfl)

section Statements

variable (he : Twins σ e d) (frame : Frame)
include he

theorem twins_execVars (bindings : List (Utf16 × Option Expr)) :
    Run.Twins σ σ.completion (e.execVars frame bindings) (d.execVars (σ.frame frame) bindings) := by
  refine .bind_same (.forM (fun (n, x) => ?_) bindings) fun _ => .pure rfl
  cases x with
  | some x => exact .bind (he.eval frame x) fun v => twins_writeName he _ n v _
  | none => exact .pure rfl

theorem twins_execLexicals (bindings : List (Utf16 × Option Expr)) :
    Run.Twins σ σ.completion (e.execLexicals frame bindings) (d.execLexicals (σ.frame frame) bindings) := by
  refine .bind_same (.forM (fun (n, x) => ?_) bindings) fun _ => .pure rfl
  cases x with
  | some x => exact .bind (he.eval frame x) fun v => .bindName _ n v
  | none => exact .bindName _ n .undefined

theorem twins_execInnerFunction (n : Utf16) :
    Run.Twins σ σ.completion (e.execInnerFunction frame n) (d.execInnerFunction (σ.frame frame) n) := by
  refine .bind (twins_readName he _ n) fun v => .bind (.scope _) fun s => ?_
  cases s with
  | names => exact .bind_same (.bindName _ n v) fun _ => .pure rfl
  | _ => exact .bind_same (twins_putObject he .global _ v false) fun _ => .pure rfl

/-! ## Loops -/

omit he in
/-- A loop ends alike after completions that are the same up to the shift. -/
theorem loopEnd?_completion (label : Option Utf16) (c : Completion) :
    loopEnd? label (σ.completion c) = (loopEnd? label c).map σ.completion := by
  rcases c with _ | _ | _ | _
  · rfl
  · next l => cases l <;> rfl
  · next l =>
    cases l with
    | none => rfl
    | some l =>
      simp only [loopEnd?, Shift.completion]
      split <;> rfl
  · rfl

theorem twins_whileLoop (label : Option Utf16) (test : Expr) (body : Stmt) : Run.Twins σ σ.completion
    (e.whileLoop frame label test body) (d.whileLoop (σ.frame frame) label test body) := by
  refine .loop (f := id) fun _ => .bind (he.eval frame test) fun v => .ite (by simp) ?_ (.pure rfl)
  refine .bind (he.exec frame body) fun c => ?_
  rw [loopEnd?_completion]
  cases loopEnd? label c <;> exact .pure rfl

theorem twins_doLoop (label : Option Utf16) (body : Stmt) (test : Expr) : Run.Twins σ σ.completion
    (e.doLoop frame label body test) (d.doLoop (σ.frame frame) label body test) := by
  refine .loop (f := id) fun _ => .bind (he.exec frame body) fun c => ?_
  rw [loopEnd?_completion]
  cases loopEnd? label c with
  | some c => exact .pure rfl
  | none => exact .bind (he.eval frame test) fun v => .ite (by simp) (.pure rfl) (.pure rfl)

theorem twins_countedLoop (label : Option Utf16) (start : Option Stmt) (lexicals : List Lexical)
    (test update : Option Expr) (body : Stmt) : Run.Twins σ σ.completion
      (e.countedLoop frame label start lexicals test update body)
      (d.countedLoop (σ.frame frame) label start lexicals test update body) := by
  refine .bind (twins_enterBlock _ _ _) fun inside => ?_
  extract_lets turns turns'
  have turned : ∀ x, Run.Twins σ σ.completion (turns x) (turns' x) := by
    refine fun _ => .bind (twins_copyScope _ _) fun first => .loop fun inside => ?_
    extract_lets turn turn'
    -- after its body a turn ends, or the update is made in bindings of their own
    have once : ∀ goesOn, Run.Twins σ (Sum.map σ.frame σ.completion) (turn goesOn) (turn' goesOn) := by
      refine fun goesOn => .ite Iff.rfl (.pure rfl) (.bind (he.exec inside body) fun c => ?_)
      rw [loopEnd?_completion]
      cases loopEnd? label c with
      | some c => exact .pure rfl
      | none =>
        refine .bind (twins_copyScope lexicals inside) fun next => ?_
        cases update with
        | some u => exact .bind_same (he.eval next u).discard fun _ => .pure rfl
        | none => exact .pure rfl
    cases test with
    | some t => exact .bind (he.eval inside t) fun v => .bind_same (.pure (by simp)) once
    | none => exact .bind_same (.pure rfl) once
  cases start with
  | some s => exact .bind_same (he.exec inside s).discard turned
  | none => exact turned ()

theorem twins_takeKey (k : Key) (target : ForTarget) :
    Run.Twins σ σ.frame (e.takeKey frame k target) (d.takeKey (σ.frame frame) k target) := by
  cases target with
  | var n => exact .bind_same (twins_writeName he _ n (.string k.units) _) fun _ => .pure rfl
  | expression x => exact .bind_same (twins_evalAssign he frame x _).discard fun _ => .pure rfl
  | lexical l =>
    exact .bind (twins_enterBlock _ _ _) fun inside => .bind_same (.bindName inside.scope _ (.string k.units)) fun _ =>
      .pure rfl

theorem twins_overKeys (label : Option Utf16) (target : ForTarget) (body : Stmt) (r : Ref) :
    ∀ ks, Run.Twins σ σ.completion (e.overKeys frame label target body r ks)
      (d.overKeys (σ.frame frame) label target body (σ.ref r) ks)
  | [] => .pure rfl
  | k :: rest => by
    refine .bind_same (twins_has he.toBinds r k) fun _ => .ite Iff.rfl ?_ (twins_overKeys label target body r rest)
    refine .bind (twins_takeKey he frame k target) fun inside => .bind (he.exec inside body) fun c => ?_
    rw [loopEnd?_completion]
    cases loopEnd? label c with
    | some c => exact .pure rfl
    | none => exact twins_overKeys label target body r rest

theorem twins_keyLoop (label : Option Utf16) (target : ForTarget) (object : Expr) (body : Stmt) :
    Run.Twins σ σ.completion (e.keyLoop frame label target object body)
      (d.keyLoop (σ.frame frame) label target object body) := by
  refine .bind (he.eval frame object) fun v => .ite (by simp) (.pure rfl) (.bind (twins_toObject v) fun r => ?_)
  have keys : Run.Twins σ id (Run.look fun m => e.loopKeys m (m.heap.size + 1) r [])
      (Run.look fun m => d.loopKeys m (m.heap.size + 1) (σ.ref r) []) := .look fun t => he.loopKeys t r
  exact .bind_same keys fun ks => twins_overKeys he frame label target body r ks

theorem twins_execLoop (label : Option Utf16) (s : Stmt) :
    Run.Twins σ σ.completion (e.execLoop frame label s) (d.execLoop (σ.frame frame) label s) := by
  cases s with
  | whileDo test body =>
    exact .bind_same (twins_clearResult frame) fun _ => twins_whileLoop he frame label test body
  | doWhile body test =>
    exact .bind_same (twins_clearResult frame) fun _ => twins_doLoop he frame label body test
  | forLoop start lexicals test update body =>
    exact .bind_same (twins_clearResult frame) fun _ =>
      twins_countedLoop he frame label start lexicals test update body
  | forIn target object body =>
    exact .bind_same (twins_clearResult frame) fun _ => twins_keyLoop he frame label target object body
  | _ => exact he.exec frame _

theorem twins_execLabelled (label : Utf16) (s : Stmt) :
    Run.Twins σ σ.completion (e.execLabelled frame label s) (d.execLabelled (σ.frame frame) label s) := by
  refine .bind (twins_execLoop he frame (some label) s) fun c => ?_
  rcases c with _ | _ | _ | _
  · exact .pure rfl
  · next l =>
    cases l with
    | none => exact .pure rfl
    | some l =>
      refine .pure ?_
      by_cases own : l = label
      · simp [own, Shift.completion]
      · simp [own, Shift.completion]
  · exact .pure rfl
  · exact .pure rfl

/-! ## Branches -/

theorem twins_execIf (test : Expr) (yes : Stmt) (no : Option Stmt) :
    Run.Twins σ σ.completion (e.execIf frame test yes no) (d.execIf (σ.frame frame) test yes no) := by
  refine .bind_same (twins_clearResult frame) fun _ => .bind (he.eval frame test) fun v =>
    .ite (by simp) (he.exec frame yes) ?_
  cases no with
  | some s => exact he.exec frame s
  | none => exact .pure rfl

theorem twins_selectCase (v : Value) : ∀ cases, Run.Twins σ id
    (e.selectCase frame v cases) (d.selectCase (σ.frame frame) (σ.value v) cases)
  | [] => .pure rfl
  | (none, _) :: rest => twins_selectCase v rest
  | (some x, _) :: rest => .bind (he.eval frame x) fun _ => .ite (by simp) (.pure rfl) (twins_selectCase v rest)

theorem twins_execSwitch (x : Expr) (lexicals : List Lexical) (functions : List Code)
    (cases : List (Option Expr × List Stmt)) : Run.Twins σ σ.completion
      (e.execSwitch frame x lexicals functions cases) (d.execSwitch (σ.frame frame) x lexicals functions cases) := by
  refine .bind_same (twins_clearResult frame) fun _ => .bind (he.eval frame x) fun v =>
    .bind (twins_enterBlock frame lexicals functions) fun inside =>
    .bind_same (twins_selectCase he inside v cases) fun found =>
    .bind (twins_execAll he inside _) fun c => ?_
  rcases c with _ | _ | _ | _
  · exact .pure rfl
  · next l => cases l <;> exact .pure rfl
  · exact .pure rfl
  · exact .pure rfl

/-! ## Exceptions -/

theorem twins_execHandler (name : Option Utf16) (b : Block) (thrown : Value) : Run.Twins σ σ.completion
    (e.execHandler frame name b thrown) (d.execHandler (σ.frame frame) name b (σ.value thrown)) := by
  cases name with
  | none => exact twins_execBlock he frame b
  | some n =>
    exact .bind (.allocScope (.names [{ name := n, value := some thrown }] frame.scope)) fun scope =>
      twins_execBlock he { frame with scope } b

theorem twins_finallyDo {x y : Run Completion} (hx : Run.Twins σ σ.completion x y) (final : Block) :
    Run.Twins σ σ.completion (e.finallyDo frame x final) (d.finallyDo (σ.frame frame) y final) := by
  refine .bind (.attempt hx) fun ended => .bind .getResult fun result =>
    .bind_same (twins_clearResult frame) fun _ => .bind (twins_execBlock he frame final) fun c => ?_
  cases c with
  | normal =>
    refine .bind_same (twins_keepResult frame result) fun _ => ?_
    rcases ended with thrown | c
    · exact .throwValue thrown
    · exact .pure rfl
  | _ => exact .pure rfl

theorem twins_execTry (body : Block) (handler : Option (Option Utf16 × Block)) (final : Option Block) :
    Run.Twins σ σ.completion (e.execTry frame body handler final) (d.execTry (σ.frame frame) body handler final) := by
  refine .bind_same (twins_clearResult frame) fun _ => ?_
  extract_lets guarded guarded'
  have guards : Run.Twins σ σ.completion guarded guarded' := by
    rcases handler with _ | ⟨n, b⟩
    · exact twins_execBlock he frame body
    · exact .catching (twins_execBlock he frame body) fun v => twins_execHandler he frame n b v
  cases final with
  | some b => exact twins_finallyDo he frame guards b
  | none => exact guards

/-! ## All forms -/

theorem twins_execWith (x : Expr) (body : Stmt) :
    Run.Twins σ σ.completion (e.execWith frame x body) (d.execWith (σ.frame frame) x body) :=
  .bind_same (twins_clearResult frame) fun _ => .bind (he.eval frame x) fun v => .bind (twins_toObject v) fun r =>
    .bind (.allocScope (.object r frame.scope)) fun scope => he.exec { frame with scope } body

theorem twins_execReturn (x : Option Expr) :
    Run.Twins σ σ.completion (e.execReturn frame x) (d.execReturn (σ.frame frame) x) := by
  cases x with
  | some x => exact .bind (he.eval frame x) fun _ => .pure rfl
  | none => exact .pure rfl

theorem twins_execExpression (x : Expr) :
    Run.Twins σ σ.completion (e.execExpression frame x) (d.execExpression (σ.frame frame) x) :=
  .bind (he.eval frame x) fun v => .bind_same (twins_keepResult frame v) fun _ => .pure rfl

theorem twins_execStmt (s : Stmt) :
    Run.Twins σ σ.completion (e.execStmt frame s) (d.execStmt (σ.frame frame) s) := by
  cases s with
  | expression x => exact twins_execExpression he frame x
  | discarded x => exact .bind_same (he.eval frame x).discard fun _ => .pure rfl
  | vars bindings => exact twins_execVars he frame bindings
  | lexicals bindings => exact twins_execLexicals he frame bindings
  | innerFunction n => exact twins_execInnerFunction he frame n
  | empty => exact .pure rfl
  | block b => exact twins_execBlock he frame b
  | ifElse test yes no => exact twins_execIf he frame test yes no
  | switch x lexicals functions cases => exact twins_execSwitch he frame x lexicals functions cases
  | labelled label s => exact twins_execLabelled he frame label s
  | «break» label => exact .pure rfl
  | «continue» label => exact .pure rfl
  | «return» x => exact twins_execReturn he frame x
  | throw x => exact .bind (he.eval frame x) fun v => .throwValue v
  | «try» body handler final => exact twins_execTry he frame body handler final
  | «with» x body => exact twins_execWith he frame x body
  | whileDo test body => exact twins_execLoop he frame none (.whileDo test body)
  | doWhile body test => exact twins_execLoop he frame none (.doWhile body test)
  | forLoop start lexicals test update body =>
    exact twins_execLoop he frame none (.forLoop start lexicals test update body)
  | forIn target object body => exact twins_execLoop he frame none (.forIn target object body)

end Statements

/-! ## Engines -/

/-- The engine that gives up on whatever it is asked for. -/
def spent (bindings : List (Key × Ref)) : Engine where
  bindings
  call _ _ _ m := .spent m
  construct _ _ m := .spent m
  eval _ _ m := .spent m
  exec _ _ m := .spent m
  json _ _ _ _ _ m := .spent m

/-- The engine of a depth that gives up at its bottom. -/
def within (bindings : List (Key × Ref)) : Nat → Engine
  | 0 => spent bindings
  | depth + 1 => above (within bindings depth)

theorem within_bindings (bindings : List (Key × Ref)) : ∀ depth, (within bindings depth).bindings = bindings
  | 0 => rfl
  | depth + 1 => within_bindings bindings depth

theorem above_twins (he : Twins σ e d) : Twins σ e.above d.above where
  bindings := he.bindings
  stay := he.stay
  call := twins_callValue he
  construct := twins_constructValue he
  eval := twins_evalExpr he
  exec := twins_execStmt he
  json := twins_jsonTree he

/-- Whatever is built up of engines as those of every depth are, goes on as the engine that gives up. -/
theorem within_twins {bindings : List (Key × Ref)} (stay : ∀ b ∈ bindings, σ.ref b.2 = b.2) {towers : Nat → Engine}
    (same : ∀ depth, (towers depth).bindings = bindings) (step : ∀ depth, towers (depth + 1) = (towers depth).above) :
    ∀ {depth deeper : Nat}, depth ≤ deeper → Twins σ (within bindings depth) (towers deeper)
  | 0, deeper, _ => {
      bindings := same deeper
      stay
      call := fun _ _ _ _ _ _ => .spent _ _
      construct := fun _ _ _ _ _ => .spent _ _
      eval := fun _ _ _ _ _ => .spent _ _
      exec := fun _ _ _ _ _ => .spent _ _
      json := fun _ _ _ _ _ _ _ _ => .spent _ _ }
  | _ + 1, 0, deep => absurd deep (Nat.not_succ_le_zero _)
  | _ + 1, deeper + 1, deep => by
    rw [step deeper]
    exact above_twins (within_twins stay same step (Nat.le_of_succ_le_succ deep))

/-! ## Whole evaluations -/

section Outcomes

variable (he : Twins σ e d)
include he

theorem twins_runByName (source : Utf16) : Run.Twins σ σ.value (e.runByName source) (d.runByName source) :=
  .bind (twins_readName he .global _) fun f => he.call f .undefined [.string source]

theorem twins_thrownText (v : Value) : Run.Twins σ id (e.thrownText v) (d.thrownText (σ.value v)) := by
  refine .bind (.attempt (twins_toUnits he v)) fun ended => ?_
  rcases ended with _ | s <;> exact .pure rfl

omit he in
theorem twins_outcomeArray (ok : Bool) (text : Value) (stringified : Bool) :
    Run.Twins σ σ.ref (outcomeArray ok text stringified) (outcomeArray ok (σ.value text) stringified) :=
  .allocArray [.bool ok, text, .bool stringified]

/-- What describes an outcome, once it is known whether it is a value. -/
def outcomeBy (e : Engine) (convert : Value) (ok : Bool) (outcome : Value) : Run Ref := do
  match (← Run.attempt (e.call convert .undefined [outcome])) with
  | .ok text => outcomeArray ok text true
  | .error second =>
    match (← Run.attempt (e.call convert .undefined [second])) with
    | .ok text => outcomeArray false text false
    | .error _ => outcomeArray false (.string "Error") false

theorem twins_outcomeBy (convert : Value) (ok : Bool) (outcome : Value) : Run.Twins σ σ.ref
    (e.outcomeBy convert ok outcome) (d.outcomeBy (σ.value convert) ok (σ.value outcome)) := by
  refine .bind (.attempt (he.call convert .undefined [outcome])) fun first => ?_
  rcases first with second | text
  · refine .bind (.attempt (he.call convert .undefined [second])) fun last => ?_
    rcases last with _ | text
    · exact twins_outcomeArray false (.string "Error") false
    · exact twins_outcomeArray false text false
  · exact twins_outcomeArray ok text true

theorem twins_describeOutcome (convert : Value) (ended : Except Value Value) : Run.Twins σ σ.ref
    (e.describeOutcome convert ended) (d.describeOutcome (σ.value convert) (Run.Twins.ended σ σ.value ended)) := by
  rcases ended with v | v
  · exact twins_outcomeBy he convert false v
  · exact twins_outcomeBy he convert true v

theorem twins_leftOver : Run.Twins σ (Option.map σ.value) e.leftOver d.leftOver := by
  have left : Run.Twins σ (List.map σ.ref) (Run.look (·.unhandled)) (Run.look (·.unhandled)) :=
    .look fun t => t.unhandled
  refine .bind_same (twins_runJobs he) fun _ => .bind left fun left => ?_
  cases left with
  | nil => exact .pure rfl
  | cons r _ =>
    refine .bind_same (.unhandled (p := fun _ => []) (q := fun _ => []) fun _ => rfl) fun _ =>
      .bind (.promiseState? r) fun state => ?_
    rcases state with _ | _ | _ | _ <;> exact .pure rfl

omit he in
theorem twins_strip (he : Binds σ e d) : ∀ names, Run.Twins σ id (e.strip names) (d.strip names)
  | [] => .pure rfl
  | n :: rest => .bind_same (twins_remove he .global n).discard fun _ => twins_strip he rest

end Outcomes

end Engine

end ScriptHost.Script
