/-
Functions and programs. Calling a function makes a scope for its parameters, variables and functions
and runs its body there. Running a program declares its variables and functions in the scope that takes
them and leaves the value of its last statement as its result.
-/
import ScriptHost.Script.Scope
import ScriptHost.Script.Grammar.Statement

namespace ScriptHost.Script

namespace Run

/-- Makes the function of a program that is known in a scope. -/
def allocClosure (code : Code) (scope : ScopeRef) : Run Ref := do
  let p ← allocPlain
  let f ← alloc
    { kind := .closure code scope, parent := some .functionParent
      slots := [("prototype", .data (.object p) true false false),
        ("name", .data (.string code.name) false false true),
        (.length, .data (.number (Float.ofNat code.parameters.length)) false false true)] }
  update p (Obj.put "constructor" (.hidden (.object f)))
  return f

/-- Makes the function of an expression; a named one knows itself. -/
def allocFunction (code : Code) (scope : ScopeRef) : Run Ref := do
  if code.ownName then
    let own ← allocScope (.names [{ name := code.name, value := none, rule := .quiet }] scope)
    let f ← allocClosure code own
    bindName own code.name (.object f)
    return f
  else allocClosure code scope

/-- Makes the list of arguments of a call. -/
def allocArguments (callee : Ref) (args : List Value) (strict : Bool) : Run Ref :=
  let callee : List (Key × Slot) := if strict then [] else [("callee", .hidden (.object callee))]
  alloc
    { kind := .arguments, parent := some .objectParent
      slots := callee ++ (Key.length, .hidden (.number (Float.ofNat args.length))) :: itemSlots 0 args [] }

/-- The value of the last statement of `x`; that of what surrounds it stays as it is. -/
def withOwnResult (x : Run Unit) : Run Value := do
  let before ← look (·.result)
  change fun m => { m with result := .undefined }
  let ended ← attempt x
  let v ← look (·.result)
  change fun m => { m with result := before }
  match ended with
  | .ok () => return v
  | .error thrown => throwValue thrown

end Run

namespace Engine

variable (e : Engine)

/-! ## Blocks -/

/-- The frame inside a block, with the bindings of the block not yet initialised and its functions
made. -/
def enterBlock (frame : Frame) (lexicals : List Lexical) (functions : List Code) : Run Frame := do
  if lexicals.isEmpty && functions.isEmpty then return frame
  else
    let bindings : List Binding := lexicals.map fun l =>
      { name := l.name, value := none, rule := if l.fixed then .fixed else .changeable }
    let scope ← Run.allocScope (.names bindings frame.scope)
    functions.forM fun code => do
      let f ← Run.allocFunction code scope
      Run.changeBindings scope (addBinding { name := code.name, value := none })
      Run.bindName scope code.name (.object f)
    return { frame with scope }

/-- Runs statements in order until one does not end normally. -/
def execAll (frame : Frame) : List Stmt → Run Completion
  | [] => return .normal
  | s :: rest => do
    match (← e.exec frame s) with
    | .normal => execAll frame rest
    | c => return c

/-- Runs a block in a scope of its own. -/
def execBlock (frame : Frame) (b : Block) : Run Completion := do
  let inside ← enterBlock frame b.lexicals b.functions
  e.execAll inside b.statements

/-! ## Calls -/

/-- The receiver of a call as the function sees it: in code that is not strict it is an object. -/
def receiver (strict : Bool) (this : Value) : Run Value :=
  if strict then return this
  else match this with
    | .undefined | .null => return .object .global
    | .object _ => return this
    | _ => return .object (← Engine.toObject this)

/-- The bindings of parameters; of two parameters of one name the last counts. -/
def bindParameters : List Utf16 → List Value → List Binding → List Binding
  | [], _, acc => acc
  | p :: ps, args, acc =>
    let v := args.headD .undefined
    let rest := acc.filter (·.name ≠ p)
    bindParameters ps (args.drop 1) ({ name := p, value := some v } :: rest)

def argumentsName : Utf16 := "arguments"

/-- Calls the function at `f`. -/
def callClosure (f : Ref) (code : Code) (scope : ScopeRef) (this : Value) (args : List Value) :
    Run Value := do
  let this ← receiver code.strict this
  let scope ← Run.allocScope (.names (bindParameters code.parameters args []) scope)
  if code.usesArguments then
    let list ← Run.allocArguments f args code.strict
    Run.changeBindings scope (addBinding { name := argumentsName, value := some (.object list) })
  if !code.vars.isEmpty then
    Run.changeBindings scope fun bs =>
      code.vars.foldl (fun bs n => addBinding { name := n, value := some .undefined } bs) bs
  let frame : Frame := { scope, vars := scope, this, strict := code.strict, keeps := false }
  let frame ← enterBlock frame code.body.lexicals []
  let functions := code.body.functions
  functions.forM fun c => do
    let g ← Run.allocFunction c frame.scope
    Run.changeBindings scope (addBinding { name := c.name, value := none })
    Run.bindName scope c.name (.object g)
  match (← e.execAll frame code.body.statements) with
  | .return v => return v
  | _ => return .undefined

/-- The parent of the objects that a function makes. -/
def parentForNew (f : Value) (fallback : Ref) : Run Ref := do
  match (← e.get f "prototype") with
  | .object p => return p
  | _ => return fallback

/-- Makes an object by the function at `f`. -/
def constructClosure (f : Ref) (code : Code) (scope : ScopeRef) (args : List Value) : Run Value := do
  let p ← e.parentForNew (.object f) .objectParent
  let o ← Run.alloc { parent := some p }
  let v ← e.callClosure f code scope (.object o) args
  return if v.ref?.isSome then v else .object o

/-! ## Programs -/

/-- Declares what a program declares outside its own scope. -/
def declareProgram (frame : Frame) (p : Program) : Run Unit := do
  let functions := p.body.functions
  match (← Run.scope frame.vars) with
  | .names .. => pure ()
  | _ => e.checkGlobals (functions.map (·.name))
  p.vars.forM fun n => e.declareVar frame.vars n
  functions.forM fun code => do
    let f ← Run.allocFunction code frame.scope
    e.declareFunction frame.vars code.name f

/-- Runs a program and takes its result. -/
def runProgram (frame : Frame) (p : Program) : Run Value := do
  let frame : Frame ← if p.strict then do
      let scope ← Run.allocScope (.names [] frame.scope)
      pure { frame with scope, vars := scope, strict := true, keeps := true }
    else pure { frame with keeps := true }
  let frame ← enterBlock frame p.body.lexicals []
  Run.withOwnResult do
    e.declareProgram frame p
    discard (e.execAll frame p.body.statements)

/-- Runs a source; what is no program throws. -/
def runSource (frame : Frame) (source : Utf16) : Run Value :=
  match Program.ofSource frame.strict (Utf16.toText source) with
  | .error complaint => Run.throwNew .syntaxError complaint
  | .ok p => e.runProgram frame p

/-- The frame of global code. -/
def globalFrame : Frame :=
  { scope := .global, vars := .global, this := .object .global, strict := false, keeps := true }

/-- Runs a source as global code. -/
def runGlobally (source : Utf16) : Run Value := e.runSource globalFrame source

end Engine

end ScriptHost.Script
