/-
Running statements. A statement ends normally or with a jump, which the statements around it let pass
or take. In programs, but not in functions, statements leave the value that is the program's result.
-/
import ScriptHost.Script.Evaluate.Expression

namespace ScriptHost.Script.Engine

variable (e : Engine) (frame : Frame)

/-! ## Results of programs -/

/-- Leaves a value as the result. -/
def keepResult (v : Value) : Run Unit :=
  if frame.keeps then Run.change fun m => { m with result := v } else return ()

/-- Statements with others inside have no result unless one of those leaves it. -/
def clearResult : Run Unit := keepResult frame .undefined

/-! ## Declarations -/

def execVars (bindings : List (Utf16 × Option Expr)) : Run Completion := do
  bindings.forM fun (n, x) =>
    match x with
    | some x => do
      let v ← e.eval frame x
      e.writeName frame.scope n v frame.strict
    | none => return ()
  return .normal

def execLexicals (bindings : List (Utf16 × Option Expr)) : Run Completion := do
  bindings.forM fun (n, x) => do
    let v ← match x with
      | some x => e.eval frame x
      | none => pure .undefined
    Run.bindName frame.scope n v
  return .normal

/-- Makes a function of the block at hand known where variables are. -/
def execInnerFunction (n : Utf16) : Run Completion := do
  let v ← e.readName frame.scope n
  match (← Run.scope frame.vars) with
  | .names .. => Run.bindName frame.vars n v
  | _ => e.putObject .global (.ofUnits n) v false
  return .normal

/-! ## Loops -/

/-- How a loop under a label ends after a turn of its body, if it does. -/
def loopEnd? (label : Option Utf16) : Completion → Option Completion
  | .normal | .continue none => none
  | .continue (some l) => if label = some l then none else some (.continue (some l))
  | .break none => some .normal
  | c => some c

def whileLoop (label : Option Utf16) (test : Expr) (body : Stmt) : Run Completion :=
  Run.loop () fun _ => do
    if (← e.eval frame test).truthy then
      match loopEnd? label (← e.exec frame body) with
      | none => return .inl ()
      | some c => return .inr c
    else return .inr .normal

def doLoop (label : Option Utf16) (body : Stmt) (test : Expr) : Run Completion :=
  Run.loop () fun _ => do
    match loopEnd? label (← e.exec frame body) with
    | some c => return .inr c
    | none =>
      if (← e.eval frame test).truthy then return .inl () else return .inr .normal

/-- A frame whose innermost scope is a copy of that at hand, if the loop has bindings of its own. -/
def copyScope (lexicals : List Lexical) (inside : Frame) : Run Frame := do
  if lexicals.isEmpty then return inside
  else return { inside with scope := (← Run.allocScope (← Run.scope inside.scope)) }

/-- A loop with a start, a test and an update; every turn has bindings of its own. -/
def countedLoop (label : Option Utf16) (start : Option Stmt) (lexicals : List Lexical)
    (test update : Option Expr) (body : Stmt) : Run Completion := do
  let inside ← enterBlock frame lexicals []
  match start with
  | some s => discard (e.exec inside s)
  | none => pure ()
  let first ← copyScope lexicals inside
  Run.loop first fun (inside : Frame) => do
    let goesOn ← match test with
      | some t => do pure (← e.eval inside t).truthy
      | none => pure true
    if !goesOn then return .inr .normal
    match loopEnd? label (← e.exec inside body) with
    | some c => return .inr c
    | none =>
      let next ← copyScope lexicals inside
      match update with
      | some u => discard (e.eval next u)
      | none => pure ()
      return .inl next

/-- The keys that a loop over the object at `r` sees, those of at most so many parents included; a key
seen before hides later ones. -/
def loopKeys (m : Machine) : Nat → Ref → List Key → List Key
  | 0, _, _ => []
  | n + 1, r, seen =>
    let own := (e.enumerableKeys m r).filter fun k => !seen.contains k
    match (m.object r).parent with
    | some p => own ++ loopKeys m n p (e.ownKeys m r ++ seen)
    | none => own

/-- Gives a key to what takes the keys of a loop, and yields the frame of the body. -/
def takeKey (k : Key) : ForTarget → Run Frame
  | .var n => do
    e.writeName frame.scope n (.string k.units) frame.strict
    return frame
  | .expression x => do
    discard (e.evalAssign frame x (.constant (.string k.units)))
    return frame
  | .lexical l => do
    let inside ← enterBlock frame [l] []
    Run.bindName inside.scope l.name (.string k.units)
    return inside

/-- Runs the body of a loop for each key that is still there. -/
def overKeys (label : Option Utf16) (target : ForTarget) (body : Stmt) (r : Ref) :
    List Key → Run Completion
  | [] => return .normal
  | k :: rest => do
    if (← e.has r k) then
      let inside ← e.takeKey frame k target
      match loopEnd? label (← e.exec inside body) with
      | some c => return c
      | none => overKeys label target body r rest
    else overKeys label target body r rest

def keyLoop (label : Option Utf16) (target : ForTarget) (object : Expr) (body : Stmt) :
    Run Completion := do
  let v ← e.eval frame object
  if v.isNullish then return .normal
  else
    let r ← toObject v
    let ks ← Run.look fun m => e.loopKeys m (m.heap.size + 1) r []
    e.overKeys frame label target body r ks

/-- Runs a loop that stands under a label, or another statement. -/
def execLoop (label : Option Utf16) : Stmt → Run Completion
  | .whileDo test body => do
    clearResult frame
    e.whileLoop frame label test body
  | .doWhile body test => do
    clearResult frame
    e.doLoop frame label body test
  | .forLoop start lexicals test update body => do
    clearResult frame
    e.countedLoop frame label start lexicals test update body
  | .forIn target object body => do
    clearResult frame
    e.keyLoop frame label target object body
  | s => e.exec frame s

def execLabelled (label : Utf16) (s : Stmt) : Run Completion := do
  match (← e.execLoop frame (some label) s) with
  | .break (some l) => return if l = label then .normal else .break (some l)
  | c => return c

/-! ## Branches -/

def execIf (test : Expr) (yes : Stmt) (no : Option Stmt) : Run Completion := do
  clearResult frame
  if (← e.eval frame test).truthy then e.exec frame yes
  else match no with
    | some s => e.exec frame s
    | none => return .normal

/-- The statements from the first case on that equals `v`. -/
def selectCase (v : Value) : List (Option Expr × List Stmt) → Run (Option (List Stmt))
  | [] => return none
  | (none, _) :: rest => selectCase v rest
  | (some x, ss) :: rest => do
    if Value.strictEq v (← e.eval frame x) then return some (ss ++ rest.flatMap (·.2))
    else selectCase v rest

/-- The statements from the default case on. -/
def defaultCase (cases : List (Option Expr × List Stmt)) : List Stmt :=
  (cases.dropWhile (·.1.isSome)).flatMap (·.2)

def execSwitch (x : Expr) (lexicals : List Lexical) (functions : List Code)
    (cases : List (Option Expr × List Stmt)) : Run Completion := do
  clearResult frame
  let v ← e.eval frame x
  let inside ← enterBlock frame lexicals functions
  let found ← e.selectCase inside v cases
  match (← e.execAll inside (found.getD (defaultCase cases))) with
  | .break none => return .normal
  | c => return c

/-! ## Exceptions -/

/-- Runs a handler on what was thrown. -/
def execHandler (name : Option Utf16) (b : Block) (thrown : Value) : Run Completion := do
  match name with
  | none => e.execBlock frame b
  | some n =>
    let scope ← Run.allocScope (.names [{ name := n, value := some thrown }] frame.scope)
    e.execBlock { frame with scope } b

/-- Runs `x` and then a last block, whose jumps and errors win and whose result counts only then. -/
def finallyDo (x : Run Completion) (final : Block) : Run Completion := do
  let ended ← Run.attempt x
  let result ← Run.look (·.result)
  clearResult frame
  match (← e.execBlock frame final) with
  | .normal =>
    keepResult frame result
    match ended with
    | .ok c => return c
    | .error v => Run.throwValue v
  | c => return c

def execTry (body : Block) (handler : Option (Option Utf16 × Block)) (final : Option Block) :
    Run Completion := do
  clearResult frame
  let guarded := match handler with
    | some (n, b) => Run.catching (e.execBlock frame body) fun v => e.execHandler frame n b v
    | none => e.execBlock frame body
  match final with
  | some b => e.finallyDo frame guarded b
  | none => guarded

/-! ## Statements -/

def execWith (x : Expr) (body : Stmt) : Run Completion := do
  clearResult frame
  let r ← toObject (← e.eval frame x)
  let scope ← Run.allocScope (.object r frame.scope)
  e.exec { frame with scope } body

def execReturn (x : Option Expr) : Run Completion := do
  match x with
  | some x => return .return (← e.eval frame x)
  | none => return .return .undefined

def execExpression (x : Expr) : Run Completion := do
  let v ← e.eval frame x
  keepResult frame v
  return .normal

def execDiscarded (x : Expr) : Run Completion := do
  discard (e.eval frame x)
  return .normal

/-- Runs a statement. -/
def execStmt : Stmt → Run Completion
  | .expression x => e.execExpression frame x
  | .discarded x => e.execDiscarded frame x
  | .vars bindings => e.execVars frame bindings
  | .lexicals bindings => e.execLexicals frame bindings
  | .innerFunction n => e.execInnerFunction frame n
  | .empty => return .normal
  | .block b => e.execBlock frame b
  | .ifElse test yes no => e.execIf frame test yes no
  | .switch x lexicals functions cases => e.execSwitch frame x lexicals functions cases
  | .labelled label s => e.execLabelled frame label s
  | .break label => return .break label
  | .continue label => return .continue label
  | .return x => e.execReturn frame x
  | .throw x => do Run.throwValue (← e.eval frame x)
  | .try body handler final => e.execTry frame body handler final
  | .with x body => e.execWith frame x body
  | s => e.execLoop frame none s

end ScriptHost.Script.Engine
