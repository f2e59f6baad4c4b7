/-
The engine. The parts of the evaluator refer to each other through an engine of one depth less, so a
program can nest only so deep: at the bottom every call and every expression throws, as it does where
a stack is used up.
-/
import ScriptHost.Script.Evaluate.Statement
import ScriptHost.Script.Native.Call

namespace ScriptHost.Script.Engine

/-- The engine that evaluates nothing. -/
def bottom (bindings : List (Key × Ref)) : Engine where
  bindings
  call _ _ _ := Run.tooDeep
  construct _ _ := Run.tooDeep
  eval _ _ := Run.tooDeep
  exec _ _ := Run.tooDeep
  json _ _ _ _ _ := Run.tooDeep

/-- The engine whose parts refer to `e`. -/
def above (e : Engine) : Engine where
  bindings := e.bindings
  call callee this args := e.callValue callee this args
  construct callee args := e.constructValue callee args
  eval frame x := e.evalExpr frame x
  exec frame s := e.execStmt frame s
  json rule around holder k v := e.jsonTree rule around holder k v

/-- The engine of a depth. -/
def ofDepth (bindings : List (Key × Ref)) : Nat → Engine
  | 0 => bottom bindings
  | depth + 1 => above (ofDepth bindings depth)

/-- How deep programs can nest. -/
def depthLimit : Nat := 20000

/-- The engine of a machine with these bindings of the host. -/
def make (bindings : List (Key × Ref)) : Engine :=
  ofDepth bindings depthLimit

end ScriptHost.Script.Engine
