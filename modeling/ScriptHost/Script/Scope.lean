/-
Names. A name is looked for in the scope at hand and then in those around it; the last one is the
global object, whose properties are the global names. A name bound by `let` or `const` cannot be used
before its declaration is reached.
-/
import ScriptHost.Script.Convert

namespace ScriptHost.Script

namespace Scope

/-- The binding of a name among bindings. -/
def binding? (bindings : List Binding) (n : Utf16) : Option Binding :=
  bindings.find? (·.name = n)

/-- `bindings` with another value for a name. -/
def rebind (n : Utf16) (v : Value) : List Binding → List Binding
  | [] => []
  | b :: rest => if b.name = n then { b with value := some v } :: rest else b :: rebind n v rest

end Scope

namespace Run

/-- Makes a scope. -/
def allocScope (s : Scope) : Run ScopeRef := fun m =>
  .value ⟨m.scopes.size⟩ { m with scopes := m.scopes.push s }

def scope (r : ScopeRef) : Run Scope := look fun m => m.scopes[r.index]?.getD .global

/-- Changes the bindings of a scope. -/
def changeBindings (r : ScopeRef) (f : List Binding → List Binding) : Run Unit :=
  change fun m => { m with scopes := m.scopes.modify r.index fun s =>
    match s with
    | .names bs outer => .names (f bs) outer
    | s => s }

/-- Gives a name its value. -/
def bindName (r : ScopeRef) (n : Utf16) (v : Value) : Run Unit :=
  changeBindings r (Scope.rebind n v)

end Run

/-- Where a name is found. -/
inductive Holder where
  | binding (scope : ScopeRef) (b : Binding)
  | property (r : Ref)
  | nowhere

namespace Engine

variable (e : Engine)

/-- Looks for a name in at most so many scopes. -/
def holderUpTo (m : Machine) (n : Utf16) (k : Key) : Nat → ScopeRef → Holder
  | 0, _ => .nowhere
  | fuel + 1, r =>
    match m.scopes[r.index]?.getD .global with
    | .names bs outer =>
      match Scope.binding? bs n with
      | some b => .binding r b
      | none => holderUpTo m n k fuel outer
    | .object o outer => if (e.find? m o k).isSome then .property o else holderUpTo m n k fuel outer
    | .global => if (e.find? m .global k).isSome then .property .global else .nowhere

/-- Where a name is found from a scope on. -/
def holder (r : ScopeRef) (n : Utf16) : Run Holder :=
  Run.look fun m => e.holderUpTo m n (.ofUnits n) (m.scopes.size + 1) r

def notInitialized {α : Type} (n : Utf16) : Run α :=
  Run.throwNew .referenceError (Run.shownName n ++ " is not initialized")

def notDefined {α : Type} (n : Utf16) : Run α :=
  Run.throwNew .referenceError (Run.shownName n ++ " is not defined")

/-- The value of what was found under a name. -/
def readHolder (n : Utf16) : Holder → Run Value
  | .binding _ b =>
    match b.value with
    | some v => return v
    | none => notInitialized n
  | .property r => e.get (.object r) (.ofUnits n)
  | .nowhere => notDefined n

/-- The value of a name. -/
def readName (r : ScopeRef) (n : Utf16) : Run Value := do e.readHolder n (← e.holder r n)

/-- Assigns to what was found under a name. A name found nowhere becomes a global one, except in
strict code. -/
def writeHolder (n : Utf16) (v : Value) (strict : Bool) : Holder → Run Unit
  | .binding r b =>
    match b.value, b.rule with
    | none, _ => notInitialized n
    | some _, .changeable => Run.bindName r n v
    | some _, .fixed => Run.typeError (readOnlyMessage (.name n))
    | some _, .quiet => refuse strict (readOnlyMessage (.name n))
  | .property r => e.putObject r (.ofUnits n) v strict
  | .nowhere => if strict then notDefined n else e.putObject .global (.ofUnits n) v false

/-- Assigns to a name. -/
def writeName (r : ScopeRef) (n : Utf16) (v : Value) (strict : Bool) : Run Unit := do
  e.writeHolder n v strict (← e.holder r n)

/-- Removes a name and says whether it is gone. -/
def deleteName (r : ScopeRef) (n : Utf16) : Run Bool := do
  match (← e.holder r n) with
  | .nowhere => return true
  | .property o => e.remove o (.ofUnits n)
  | .binding s b =>
    if b.deletable then
      Run.changeBindings s fun bs => bs.filter (·.name ≠ n)
      return true
    else return false

/-! ## Declaring -/

/-- Adds a binding, unless the name is bound already. -/
def addBinding (b : Binding) (bs : List Binding) : List Binding :=
  if bs.any (·.name = b.name) then bs else bs ++ [b]

/-- Whether a function may be declared under a global name: not over a property that is neither free
to change nor open to assignment and loops. -/
def mayDeclare (n : Utf16) : Run Bool := do
  match (← Run.look fun m => e.own? m .global (.ofUnits n)) with
  | some (.data _ true true _) => return true
  | some s => return s.configurable
  | none => return true

/-- Checks all functions that are to be declared under global names. -/
def checkGlobals (names : List Utf16) : Run Unit :=
  names.forM fun n => do
    if !(← e.mayDeclare n) then
      Run.typeError ("cannot define variable '" ++ Run.shownName n ++ "'")

/-- Declares a function under a global name. -/
def declareGlobalFunction (n : Utf16) (f : Ref) : Run Unit := do
  let k := Key.ofUnits n
  match (← Run.look fun m => e.own? m .global k) with
  | some (.data _ w en false) => Run.update .global (Obj.put k (.data (.object f) w en false))
  | _ => Run.update .global (Obj.put k (.plain (.object f)))

/-- Declares a variable under a global name; one that is there stays. -/
def declareGlobalVar (n : Utf16) : Run Unit := do
  let k := Key.ofUnits n
  if (← Run.look fun m => (e.own? m .global k).isNone) then
    Run.update .global (Obj.put k (.plain .undefined))

/-- Declares a variable in the scope that takes them. -/
def declareVar (r : ScopeRef) (n : Utf16) : Run Unit := do
  match (← Run.scope r) with
  | .names .. => Run.changeBindings r (addBinding { name := n, value := some .undefined, deletable := true })
  | _ => e.declareGlobalVar n

/-- Declares a function in the scope that takes variables. -/
def declareFunction (r : ScopeRef) (n : Utf16) (f : Ref) : Run Unit := do
  match (← Run.scope r) with
  | .names .. =>
    Run.changeBindings r (addBinding { name := n, value := some .undefined, deletable := true })
    Run.bindName r n (.object f)
  | _ => e.declareGlobalFunction n f

end Engine

end ScriptHost.Script
