/-
Evaluating expressions and running statements ages, one form at a time, and so does the engine of every
depth: nothing is left that is not made of ways of aging.
-/
import ScriptHost.Proofs.Script.Ages.Call
import ScriptHost.Script.Outcome

namespace ScriptHost.Script

open Run (Ages AgesFrom)

namespace Run.Ages

variable {β : Type}

/-- What is only the outcome of an expression. -/
theorem returning {α : Type} {x : Run α} {f : α → β} (hx : x.Ages) : (x >>= fun a => Pure.pure (f a)).Ages :=
  hx.bind fun _ => .pure _

end Run.Ages

namespace Engine

variable {e : Engine}

theorem ages_isEval (f : Value) : (isEval f).Ages := by
  cases f with
  | object r =>
    refine .bind (.object r) fun o => ?_
    split <;> exact .pure _
  | _ => exact .pure _

section Expressions

variable (he : e.Ages) (frame : Frame)
include he

/-! ## Parts of expressions -/

theorem ages_evalAll : ∀ xs, (e.evalAll frame xs).Ages
  | [] => .pure _
  | x :: rest => .bind (he.eval frame x) fun _ => .returning (ages_evalAll rest)

theorem ages_evalItems : ∀ n items acc, (e.evalItems frame n items acc).Ages
  | _, [], _ => .pure _
  | n, none :: rest, acc => ages_evalItems (n + 1) rest acc
  | n, some x :: rest, _ => .bind (he.eval frame x) fun _ => ages_evalItems (n + 1) rest _

theorem ages_evalArray (items : List (Option Expr)) : (e.evalArray frame items).Ages :=
  .bind (ages_evalItems he frame 0 items []) fun _ => .returning (.alloc _)

/-- Entries change the object that they are written in, which is newer than `m`. -/
theorem agesFrom_evalEntry {m : Machine} {r : Ref} (new : m.heap.size ≤ r.index) (entry : Entry) :
    (e.evalEntry frame r entry).AgesFrom m := by
  cases entry with
  | value k x => exact .bind (.of_ages (he.eval frame x)) fun _ => .update new _
  | getter k code => exact .bind (.of_ages (.allocFunction _ _)) fun _ => .update new _
  | setter k code => exact .bind (.of_ages (.allocFunction _ _)) fun _ => .update new _
  | parent x =>
    refine .bind (.of_ages (he.eval frame x)) fun v => ?_
    split
    · exact .update new _
    · exact .update new _
    · exact .of_ages (.pure _)

theorem ages_evalObject (entries : List Entry) : (e.evalObject frame entries).Ages :=
  .construct fun _ _ new => .bind (.forM fun entry _ => agesFrom_evalEntry he frame new entry) fun _ =>
    .of_ages (.pure _)

theorem ages_evalMember (x k : Expr) : (e.evalMember frame x k).Ages := by
  refine .bind (he.eval frame x) fun o => ?_
  split
  · exact ages_get he _ _
  · exact .bind (he.eval frame k) fun v => .bind (ages_toKey he v) fun _ => ages_get he _ _

/-! ## Calls -/

theorem ages_callName (n : Utf16) (args : List Expr) : (e.callName frame n args).Ages := by
  refine .bind (ages_holder _ n) fun h => .bind (ages_readHolder he n h) fun f =>
    .bind (ages_evalAll he frame args) fun vs => .bind (ages_isEval f) fun isEval => ?_
  split
  · split
    · exact ages_runSource he _ _
    · exact .pure _
    · exact .pure _
  · exact he.call _ _ _

theorem ages_callMember (x k : Expr) (args : List Expr) : (e.callMember frame x k args).Ages :=
  .bind (he.eval frame x) fun _ => .bind (he.eval frame k) fun v => .bind (ages_toKey he v) fun _ =>
    .bind (ages_get he _ _) fun _ => .bind (ages_evalAll he frame args) fun _ => he.call _ _ _

theorem ages_evalCall (callee : Expr) (args : List Expr) : (e.evalCall frame callee args).Ages := by
  cases callee with
  | name n => exact ages_callName he frame n args
  | member x k => exact ages_callMember he frame x k args
  | _ => exact .bind (he.eval frame _) fun _ => .bind (ages_evalAll he frame args) fun _ => he.call _ _ _

theorem ages_evalConstruct (callee : Expr) (args : List Expr) : (e.evalConstruct frame callee args).Ages :=
  .bind (he.eval frame callee) fun _ => .bind (ages_evalAll he frame args) fun _ => he.construct _ _

/-! ## Operators with an effect on their operand -/

theorem ages_evalTypeOf (x : Expr) : (e.evalTypeOf frame x).Ages := by
  cases x with
  | name n =>
    refine .bind (ages_holder _ n) fun h => ?_
    split
    · exact .pure _
    · exact .bind (ages_readHolder he n _) fun v => .returning (ages_typeName v)
  | _ => exact .bind (he.eval frame _) fun v => .returning (ages_typeName v)

theorem ages_evalDelete (x : Expr) : (e.evalDelete frame x).Ages := by
  cases x with
  | name n => exact .returning (ages_deleteName _ n)
  | member y k =>
    refine .bind (he.eval frame y) fun _ => .bind (he.eval frame k) fun v =>
      .bind (ages_toKey he v) fun _ => .bind (ages_toObject _) fun _ => .bind (ages_remove _ _) fun gone => ?_
    dsimp only
    split
    · exact .bind (.typeError _) fun _ => .pure _
    · exact .pure _
  | _ => exact .returning (he.eval frame _).discard

theorem ages_change (target : Expr) {f : Value → Run (Value × Value)} (hf : ∀ v, (f v).Ages) :
    (e.change frame target f).Ages := by
  cases target with
  | name n =>
    exact .bind (ages_readName he _ n) fun v => .bind (hf v) fun _ =>
      .returning (ages_writeName he _ n _ _)
  | member x k =>
    exact .bind (he.eval frame x) fun _ => .bind (he.eval frame k) fun v =>
      .bind (ages_toKey he v) fun _ => .bind (ages_get he _ _) fun v => .bind (hf v) fun _ =>
      .returning (ages_put he _ _ _ _)
  | _ => exact .throwNew _ _

theorem ages_evalUpdate (step : Float) (before : Bool) (target : Expr) :
    (e.evalUpdate frame step before target).Ages :=
  ages_change he frame target fun v => .returning (ages_toNumber he v)

theorem ages_evalAssignWith (op : BinaryOp) (target value : Expr) :
    (e.evalAssignWith frame op target value).Ages :=
  ages_change he frame target fun v => .bind (he.eval frame value) fun w => .returning (ages_binary he op v w)

theorem ages_evalAssign (target value : Expr) : (e.evalAssign frame target value).Ages := by
  cases target with
  | name n => exact .bind (he.eval frame value) fun v => .returning (ages_writeName he _ n v _)
  | member x k =>
    exact .bind (he.eval frame x) fun _ => .bind (he.eval frame k) fun kv =>
      .bind (he.eval frame value) fun v => .bind (ages_toKey he kv) fun _ => .returning (ages_put he _ _ v _)
  | _ => exact .throwNew _ _

/-! ## Other operators -/

theorem ages_evalBinary (op : BinaryOp) (x y : Expr) : (e.evalBinary frame op x y).Ages :=
  .bind (he.eval frame x) fun a => .bind (he.eval frame y) fun b => ages_binary he op a b

theorem ages_evalLogical (op : LogicalOp) (x y : Expr) : (e.evalLogical frame op x y).Ages := by
  refine .bind (he.eval frame x) fun a => ?_
  cases op
  all_goals
    dsimp only
    split
    · exact .pure a
    · exact he.eval frame y

theorem ages_evalConditional (test yes no : Expr) : (e.evalConditional frame test yes no).Ages := by
  refine .bind (he.eval frame test) fun v => ?_
  split <;> exact he.eval frame _

theorem ages_evalExpr (x : Expr) : (e.evalExpr frame x).Ages := by
  cases x with
  | constant v => exact .pure _
  | name n => exact ages_readName he _ n
  | this => exact .pure _
  | array items => exact ages_evalArray he frame items
  | object entries => exact ages_evalObject he frame entries
  | function code => exact .returning (.allocFunction code _)
  | member x k => exact ages_evalMember he frame x k
  | call f args => exact ages_evalCall he frame f args
  | construct f args => exact ages_evalConstruct he frame f args
  | typeOf x => exact ages_evalTypeOf he frame x
  | delete x => exact ages_evalDelete he frame x
  | unary op x => exact .bind (he.eval frame x) fun v => ages_unary he op v
  | update step before x => exact ages_evalUpdate he frame step before x
  | binary op x y => exact ages_evalBinary he frame op x y
  | logical op x y => exact ages_evalLogical he frame op x y
  | conditional test yes no => exact ages_evalConditional he frame test yes no
  | assign x y => exact ages_evalAssign he frame x y
  | assignWith op x y => exact ages_evalAssignWith he frame op x y
  | sequence x y => exact .bind (he.eval frame x).discard fun _ => he.eval frame y

end Expressions

/-! ## Statements -/

theorem ages_keepResult (frame : Frame) (v : Value) : (keepResult frame v).Ages := by
  unfold keepResult
  split
  · exact .setResult v
  · exact .pure _

theorem ages_clearResult (frame : Frame) : (clearResult frame).Ages := ages_keepResult frame _

theorem ages_copyScope (lexicals : List Lexical) (inside : Frame) : (copyScope lexicals inside).Ages := by
  unfold copyScope
  split
  · exact .pure _
  · exact .bind (.scope _) fun _ => .returning (.allocScope _)

section Statements

variable (he : e.Ages) (frame : Frame)
include he

theorem ages_execVars (bindings : List (Utf16 × Option Expr)) : (e.execVars frame bindings).Ages := by
  refine .returning (.forM (fun (n, x) => ?_) bindings)
  cases x with
  | some x => exact .bind (he.eval frame x) fun v => ages_writeName he _ n v _
  | none => exact .pure _

theorem ages_execLexicals (bindings : List (Utf16 × Option Expr)) : (e.execLexicals frame bindings).Ages := by
  refine .returning (.forM (fun (n, x) => ?_) bindings)
  cases x with
  | some x => exact .bind (he.eval frame x) fun v => .bindName _ n v
  | none => exact .bind (.pure _) fun v => .bindName _ n v

theorem ages_execInnerFunction (n : Utf16) : (e.execInnerFunction frame n).Ages := by
  refine .bind (ages_readName he _ n) fun v => .bind (.scope _) fun s => ?_
  split
  · exact .returning (.bindName _ n v)
  · exact .returning (ages_putObject he _ _ v _)

/-! ## Loops -/

theorem ages_whileLoop (label : Option Utf16) (test : Expr) (body : Stmt) :
    (e.whileLoop frame label test body).Ages := by
  refine .loop fun _ => .bind (he.eval frame test) fun v => ?_
  split
  · refine .bind (he.exec frame body) fun c => ?_
    split <;> exact .pure _
  · exact .pure _

theorem ages_doLoop (label : Option Utf16) (body : Stmt) (test : Expr) :
    (e.doLoop frame label body test).Ages := by
  refine .loop fun _ => .bind (he.exec frame body) fun c => ?_
  split
  · exact .pure _
  · refine .bind (he.eval frame test) fun v => ?_
    split <;> exact .pure _

theorem ages_countedLoop (label : Option Utf16) (start : Option Stmt) (lexicals : List Lexical)
    (test update : Option Expr) (body : Stmt) :
    (e.countedLoop frame label start lexicals test update body).Ages := by
  refine .bind (ages_enterBlock _ _ _) fun inside => ?_
  extract_lets turns
  have turned : ∀ x, (turns x).Ages := by
    refine fun _ => .bind (ages_copyScope _ _) fun first => .loop fun inside => ?_
    extract_lets turn
    -- after its body a turn ends, or the update is made in bindings of their own
    have once : ∀ goesOn, (turn goesOn).Ages := by
      intro goesOn
      dsimp only [turn]
      split
      · exact .pure _
      · refine .bind (he.exec inside body) fun c => ?_
        split
        · exact .pure _
        · refine .bind (ages_copyScope lexicals inside) fun next => ?_
          split
          · exact .returning (he.eval next _).discard
          · exact .pure _
    split
    · exact .bind (he.eval inside _) fun _ => .bind (.pure _) once
    · exact .bind (.pure _) once
  split
  · exact .bind (he.exec inside _).discard turned
  · exact turned ()

theorem ages_takeKey (k : Key) (target : ForTarget) : (e.takeKey frame k target).Ages := by
  cases target with
  | var n => exact .returning (ages_writeName he _ n _ _)
  | expression x => exact .returning (ages_evalAssign he frame x _).discard
  | lexical l => exact .bind (ages_enterBlock _ _ _) fun _ => .returning (.bindName _ _ _)

theorem ages_overKeys (label : Option Utf16) (target : ForTarget) (body : Stmt) (r : Ref) :
    ∀ ks, (e.overKeys frame label target body r ks).Ages
  | [] => .pure _
  | k :: rest => by
    refine .bind (ages_has r k) fun has => ?_
    split
    · refine .bind (ages_takeKey he frame k target) fun inside => .bind (he.exec inside body) fun c => ?_
      split
      · exact .pure _
      · exact ages_overKeys label target body r rest
    · exact ages_overKeys label target body r rest

theorem ages_keyLoop (label : Option Utf16) (target : ForTarget) (object : Expr) (body : Stmt) :
    (e.keyLoop frame label target object body).Ages := by
  refine .bind (he.eval frame object) fun v => ?_
  split
  · exact .pure _
  · exact .bind (ages_toObject v) fun _ => .bind (.look _) fun ks =>
      ages_overKeys he frame label target body _ ks

theorem ages_execLoop (label : Option Utf16) (s : Stmt) : (e.execLoop frame label s).Ages := by
  cases s with
  | whileDo test body => exact .bind (ages_clearResult frame) fun _ => ages_whileLoop he frame label test body
  | doWhile body test => exact .bind (ages_clearResult frame) fun _ => ages_doLoop he frame label body test
  | forLoop start lexicals test update body =>
    exact .bind (ages_clearResult frame) fun _ =>
      ages_countedLoop he frame label start lexicals test update body
  | forIn target object body =>
    exact .bind (ages_clearResult frame) fun _ => ages_keyLoop he frame label target object body
  | _ => exact he.exec frame _

theorem ages_execLabelled (label : Utf16) (s : Stmt) : (e.execLabelled frame label s).Ages := by
  refine .bind (ages_execLoop he frame (some label) s) fun c => ?_
  split <;> exact .pure _

/-! ## Branches -/

theorem ages_execIf (test : Expr) (yes : Stmt) (no : Option Stmt) : (e.execIf frame test yes no).Ages := by
  refine .bind (ages_clearResult frame) fun _ => .bind (he.eval frame test) fun v => ?_
  split
  · exact he.exec frame yes
  · cases no with
    | some s => exact he.exec frame s
    | none => exact .pure _

theorem ages_selectCase (v : Value) : ∀ cases, (e.selectCase frame v cases).Ages
  | [] => .pure _
  | (none, _) :: rest => ages_selectCase v rest
  | (some x, _) :: rest => by
    refine .bind (he.eval frame x) fun w => ?_
    split
    · exact .pure _
    · exact ages_selectCase v rest

theorem ages_execSwitch (x : Expr) (lexicals : List Lexical) (functions : List Code)
    (cases : List (Option Expr × List Stmt)) : (e.execSwitch frame x lexicals functions cases).Ages := by
  refine .bind (ages_clearResult frame) fun _ => .bind (he.eval frame x) fun v =>
    .bind (ages_enterBlock frame lexicals functions) fun inside =>
    .bind (ages_selectCase he inside v cases) fun found =>
    .bind (ages_execAll he inside _) fun c => ?_
  split <;> exact .pure _

/-! ## Exceptions -/

theorem ages_execHandler (name : Option Utf16) (b : Block) (thrown : Value) :
    (e.execHandler frame name b thrown).Ages := by
  cases name with
  | none => exact ages_execBlock he frame b
  | some n => exact .bind (.allocScope _) fun _ => ages_execBlock he _ b

theorem ages_finallyDo {x : Run Completion} (hx : x.Ages) (final : Block) :
    (e.finallyDo frame x final).Ages := by
  refine .bind (.attempt hx) fun ended => .bind (.look _) fun result =>
    .bind (ages_clearResult frame) fun _ => .bind (ages_execBlock he frame final) fun c => ?_
  split
  · refine .bind (ages_keepResult frame _) fun _ => ?_
    split
    · exact .pure _
    · exact .throwValue _
  · exact .pure _

theorem ages_execTry (body : Block) (handler : Option (Option Utf16 × Block)) (final : Option Block) :
    (e.execTry frame body handler final).Ages := by
  refine .bind (ages_clearResult frame) fun _ => ?_
  extract_lets guarded
  have guards : guarded.Ages := by
    dsimp only [guarded]
    split
    · exact .catching (ages_execBlock he frame body) fun v => ages_execHandler he frame _ _ v
    · exact ages_execBlock he frame body
  split
  · exact ages_finallyDo he frame guards _
  · exact guards

/-! ## All forms -/

theorem ages_execWith (x : Expr) (body : Stmt) : (e.execWith frame x body).Ages :=
  .bind (ages_clearResult frame) fun _ => .bind (he.eval frame x) fun _ => .bind (ages_toObject _) fun _ =>
    .bind (.allocScope _) fun _ => he.exec _ body

theorem ages_execReturn (x : Option Expr) : (e.execReturn frame x).Ages := by
  cases x with
  | some x => exact .returning (he.eval frame x)
  | none => exact .pure _

theorem ages_execExpression (x : Expr) : (e.execExpression frame x).Ages :=
  .bind (he.eval frame x) fun v => .returning (ages_keepResult frame v)

theorem ages_execStmt (s : Stmt) : (e.execStmt frame s).Ages := by
  cases s with
  | expression x => exact ages_execExpression he frame x
  | discarded x => exact .returning (he.eval frame x).discard
  | vars bindings => exact ages_execVars he frame bindings
  | lexicals bindings => exact ages_execLexicals he frame bindings
  | innerFunction n => exact ages_execInnerFunction he frame n
  | empty => exact .pure _
  | block b => exact ages_execBlock he frame b
  | ifElse test yes no => exact ages_execIf he frame test yes no
  | switch x lexicals functions cases => exact ages_execSwitch he frame x lexicals functions cases
  | labelled label s => exact ages_execLabelled he frame label s
  | «break» label => exact .pure _
  | «continue» label => exact .pure _
  | «return» x => exact ages_execReturn he frame x
  | throw x => exact .bind (he.eval frame x) fun v => .throwValue v
  | «try» body handler final => exact ages_execTry he frame body handler final
  | «with» x body => exact ages_execWith he frame x body
  | whileDo test body => exact ages_execLoop he frame none (.whileDo test body)
  | doWhile body test => exact ages_execLoop he frame none (.doWhile body test)
  | forLoop start lexicals test update body =>
    exact ages_execLoop he frame none (.forLoop start lexicals test update body)
  | forIn target object body => exact ages_execLoop he frame none (.forIn target object body)

end Statements

/-! ## Engines -/

theorem bottom_ages (bindings : List (Key × Ref)) : (bottom bindings).Ages where
  call _ _ _ := .tooDeep
  construct _ _ := .tooDeep
  eval _ _ := .tooDeep
  exec _ _ := .tooDeep
  json _ _ _ _ _ := .tooDeep

theorem above_ages (he : e.Ages) : e.above.Ages where
  call := ages_callValue he
  construct := ages_constructValue he
  eval := ages_evalExpr he
  exec := ages_execStmt he
  json := ages_jsonTree he

theorem ofDepth_ages (bindings : List (Key × Ref)) : ∀ depth, (ofDepth bindings depth).Ages
  | 0 => bottom_ages bindings
  | depth + 1 => above_ages (ofDepth_ages bindings depth)

/-! ## Whole evaluations -/

section Outcomes

variable (he : e.Ages)
include he

theorem ages_runByName (source : Utf16) : (e.runByName source).Ages :=
  .bind (ages_readName he _ _) fun _ => he.call _ _ _

theorem ages_thrownText (v : Value) : (e.thrownText v).Ages := by
  refine .bind (.attempt (ages_toUnits he v)) fun ended => ?_
  split <;> exact .pure _

theorem ages_describeOutcome (convert : Value) (ended : Except Value Value) :
    (e.describeOutcome convert ended).Ages := by
  refine .bind (.attempt (he.call _ _ _)) fun first => ?_
  split
  · exact .allocArray _
  · refine .bind (.attempt (he.call _ _ _)) fun second => ?_
    split <;> exact .allocArray _

theorem ages_leftOver : e.leftOver.Ages := by
  refine .bind (ages_runJobs he) fun _ => .bind (.look _) fun left => ?_
  split
  · exact .pure _
  · refine .bind (.change fun _ => .of_parts rfl rfl) fun _ => .bind (.promiseState? _) fun s => ?_
    split <;> exact .pure _

end Outcomes

theorem ages_strip : ∀ names, (e.strip names).Ages
  | [] => .pure _
  | n :: rest => .bind (ages_remove .global n).discard fun _ => ages_strip rest

theorem ages_evaluateToArray (he : e.Ages) (source : Utf16) : (e.evaluateToArray source).Ages :=
  .bind (ages_readName he _ _) fun convert => .bind (ages_strip _) fun _ =>
    .bind (.attempt (ages_runByName he source)) fun ended => ages_describeOutcome he convert ended

theorem ages_evaluateOpenly (he : e.Ages) (source : Utf16) : (e.evaluateOpenly source).Ages := by
  refine .bind (ages_evaluateToArray he source) fun r => .bind (ages_leftOver he) fun left => ?_
  split
  · exact .returning (ages_thrownText he _)
  · refine .bind (he.json _ _ _ _ _) fun tree => ?_
    split <;> exact .pure _

theorem ages_evaluate (he : e.Ages) (source : Utf16) : (e.evaluate source).Ages := by
  refine .bind (.attempt (ages_evaluateOpenly he source)) fun ended => ?_
  split
  · exact .pure _
  · exact .returning (ages_thrownText he _)

end Engine

end ScriptHost.Script
