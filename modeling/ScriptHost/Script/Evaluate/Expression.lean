/-
Evaluating expressions. Operands are evaluated from left to right, each through the engine, so that
every function here treats one form of expression.
-/
import ScriptHost.Script.Operator
import ScriptHost.Script.Function

namespace ScriptHost.Script.Engine

variable (e : Engine) (frame : Frame)

/-! ## Lists of expressions -/

/-- The values of expressions, in order. -/
def evalAll : List Expr → Run (List Value)
  | [] => return []
  | x :: rest => do
    let v ← e.eval frame x
    return v :: (← evalAll rest)

/-- The slots of the items of an array; holes have none. The newest comes first. -/
def evalItems : Nat → List (Option Expr) → List (Key × Slot) → Run (List (Key × Slot))
  | _, [], acc => return acc
  | n, none :: rest, acc => evalItems (n + 1) rest acc
  | n, some x :: rest, acc => do
    let v ← e.eval frame x
    evalItems (n + 1) rest ((Key.ofNat n, .plain v) :: acc)

def evalArray (items : List (Option Expr)) : Run Value := do
  let slots ← e.evalItems frame 0 items []
  return .object (← Run.alloc { kind := .array items.length false, parent := some .arrayParent, slots })

/-! ## Objects -/

/-- An accessor beside what there is of its pair. -/
def pairUp (get set : Option Ref) : Option Slot → Slot
  | some (.accessor g s _ _) => .accessor (get.or g) (set.or s) true true
  | _ => .accessor get set true true

/-- Adds an entry to the object at `r`. -/
def evalEntry (r : Ref) : Entry → Run Unit
  | .value k x => do
    let v ← e.eval frame x
    Run.update r (Obj.put k (.plain v))
  | .getter k code => do
    let f ← Run.allocFunction code frame.scope
    Run.update r fun o => o.put k (pairUp (some f) none (o.slot? k))
  | .setter k code => do
    let f ← Run.allocFunction code frame.scope
    Run.update r fun o => o.put k (pairUp none (some f) (o.slot? k))
  | .parent x => do
    match (← e.eval frame x) with
    | .object p => Run.update r fun o => { o with parent := some p }
    | .null => Run.update r fun o => { o with parent := none }
    | _ => return ()

def evalObject (entries : List Entry) : Run Value := do
  let r ← Run.allocPlain
  entries.forM fun entry => e.evalEntry frame r entry
  return .object r

/-! ## Members and calls -/

def evalMember (x k : Expr) : Run Value := do
  let o ← e.eval frame x
  match k with
  | .constant (.string s) => e.get o (.ofUnits s)
  | _ =>
    let key ← e.toKey (← e.eval frame k)
    e.get o key

/-- Whether a value is the function that evaluates sources. -/
def isEval (f : Value) : Run Bool :=
  match f with
  | .object r => do
    match (← Run.object r).kind with
    | .native .eval => return true
    | _ => return false
  | _ => return false

/-- Calls what a name stands for. The function that evaluates sources, called by its name, sees what
the caller sees. -/
def callName (n : Utf16) (args : List Expr) : Run Value := do
  let h ← e.holder frame.scope n
  let f ← e.readHolder n h
  let vs ← e.evalAll frame args
  if n = Utf16.ofString "eval" ∧ (← isEval f) then
    match vs with
    | .string source :: _ => e.runSource frame source
    | v :: _ => return v
    | [] => return .undefined
  else
    let this : Value := match h with
      | .property r => if r = .global then .undefined else .object r
      | _ => .undefined
    e.call f this vs

/-- Calls a member of a value, which is the receiver. -/
def callMember (x k : Expr) (args : List Expr) : Run Value := do
  let o ← e.eval frame x
  let key ← e.toKey (← e.eval frame k)
  let f ← e.get o key
  let vs ← e.evalAll frame args
  e.call f o vs

def evalCall (callee : Expr) (args : List Expr) : Run Value :=
  match callee with
  | .name n => e.callName frame n args
  | .member x k => e.callMember frame x k args
  | _ => do
    let f ← e.eval frame callee
    let vs ← e.evalAll frame args
    e.call f .undefined vs

def evalConstruct (callee : Expr) (args : List Expr) : Run Value := do
  let f ← e.eval frame callee
  let vs ← e.evalAll frame args
  e.construct f vs

/-! ## Operators with an effect on their operand -/

/-- What kind the value of an expression is; a name found nowhere has none. -/
def evalTypeOf (x : Expr) : Run Value :=
  match x with
  | .name n => do
    match (← e.holder frame.scope n) with
    | .nowhere => return .string "undefined"
    | h => return .string (← typeName (← e.readHolder n h))
  | _ => do return .string (← typeName (← e.eval frame x))

def evalDelete (x : Expr) : Run Value :=
  match x with
  | .name n => return .bool (← e.deleteName frame.scope n)
  | .member y k => do
    let o ← e.eval frame y
    let key ← e.toKey (← e.eval frame k)
    let r ← toObject o
    let gone ← e.remove r key
    if frame.strict && !gone then Run.typeError "could not delete property"
    return .bool gone
  | _ => do
    discard (e.eval frame x)
    return .bool true

/-- Replaces the value of a target by `f` of it, which also says what the outcome is. -/
def change (target : Expr) (f : Value → Run (Value × Value)) : Run Value :=
  match target with
  | .name n => do
    let (new, outcome) ← f (← e.readName frame.scope n)
    e.writeName frame.scope n new frame.strict
    return outcome
  | .member x k => do
    let o ← e.eval frame x
    let key ← e.toKey (← e.eval frame k)
    let (new, outcome) ← f (← e.get o key)
    e.put o key new frame.strict
    return outcome
  | _ => Run.throwNew .syntaxError "invalid assignment left-hand side"

def evalUpdate (step : Float) (before : Bool) (target : Expr) : Run Value :=
  e.change frame target fun v => do
    let x ← e.toNumber v
    return (.number (x + step), .number (if before then x + step else x))

def evalAssignWith (op : BinaryOp) (target value : Expr) : Run Value :=
  e.change frame target fun v => do
    let new ← e.binary op v (← e.eval frame value)
    return (new, new)

def evalAssign (target value : Expr) : Run Value :=
  match target with
  | .name n => do
    let v ← e.eval frame value
    e.writeName frame.scope n v frame.strict
    return v
  | .member x k => do
    let o ← e.eval frame x
    let kv ← e.eval frame k
    let v ← e.eval frame value
    e.put o (← e.toKey kv) v frame.strict
    return v
  | _ => Run.throwNew .syntaxError "invalid assignment left-hand side"

/-! ## Other operators -/

def evalBinary (op : BinaryOp) (x y : Expr) : Run Value := do
  let a ← e.eval frame x
  let b ← e.eval frame y
  e.binary op a b

def evalLogical (op : LogicalOp) (x y : Expr) : Run Value := do
  let a ← e.eval frame x
  let done := match op with
    | .and => !a.truthy
    | .or => a.truthy
  if done then return a else e.eval frame y

def evalConditional (test yes no : Expr) : Run Value := do
  if (← e.eval frame test).truthy then e.eval frame yes else e.eval frame no

/-- The value of an expression. -/
def evalExpr : Expr → Run Value
  | .constant v => return v.value
  | .name n => e.readName frame.scope n
  | .this => return frame.this
  | .array items => e.evalArray frame items
  | .object entries => e.evalObject frame entries
  | .function code => do return .object (← Run.allocFunction code frame.scope)
  | .member x k => e.evalMember frame x k
  | .call f args => e.evalCall frame f args
  | .construct f args => e.evalConstruct frame f args
  | .typeOf x => e.evalTypeOf frame x
  | .delete x => e.evalDelete frame x
  | .unary op x => do e.unary op (← e.eval frame x)
  | .update step before x => e.evalUpdate frame step before x
  | .binary op x y => e.evalBinary frame op x y
  | .logical op x y => e.evalLogical frame op x y
  | .conditional test yes no => e.evalConditional frame test yes no
  | .assign x y => e.evalAssign frame x y
  | .assignWith op x y => e.evalAssignWith frame op x y
  | .sequence x y => do
    discard (e.eval frame x)
    e.eval frame y

end ScriptHost.Script.Engine
