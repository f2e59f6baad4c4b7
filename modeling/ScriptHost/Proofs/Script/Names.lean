/-
Names inside of functions. A call opens a scope with the parameters and the variables of the function; a
name is found in the innermost scope that binds it, or is a global one. What the function assigns to its
own names changes that scope alone.
-/
import ScriptHost.Proofs.Script.Steps

namespace ScriptHost.Script

/-! ## Scopes -/

namespace Machine

/-- A machine with the bindings of one scope changed. -/
def rebound (r : ScopeRef) (f : List Binding → List Binding) (m : Machine) : Machine :=
  { m with scopes := m.scopes.modify r.index fun s =>
      match s with
      | .names bs outer => .names (f bs) outer
      | s => s }

variable {m n : Machine} {r : ScopeRef}

theorem Extends.scopes (h : m.Extends n) : n.scopes = m.scopes := by
  obtain ⟨os, rfl⟩ := h
  rfl

/-- A scope that is opened stands at the next place, -/
theorem opened_nextScope (s : Scope) (m : Machine) : (m.opened s).scopes[m.nextScope.index]? = some s := by
  simp [opened, nextScope]

/-- and those before it stand where they stood. -/
theorem opened_before (s : Scope) (there : r.index < m.scopes.size) :
    (m.opened s).scopes[r.index]? = m.scopes[r.index]? := by
  simp [opened, Array.getElem?_push, Nat.ne_of_lt there]

/-- The newest scope changes where it is. -/
theorem rebound_opened (bs : List Binding) (outer : ScopeRef) (f : List Binding → List Binding) (m : Machine) :
    (m.opened (.names bs outer)).rebound m.nextScope f = m.opened (.names (f bs) outer) := by
  have scopes : (m.scopes.push (.names bs outer)).modify m.scopes.size (fun s => match s with
      | .names bs outer => .names (f bs) outer
      | s => s) = m.scopes.push (.names (f bs) outer) := by
    apply Array.ext_getElem?
    intro i
    simp only [Array.getElem?_modify, Array.getElem?_push]
    split <;> split <;> simp_all
  simp only [rebound, opened, nextScope, scopes]

theorem rebound_opened_before (s : Scope) (f : List Binding → List Binding) (there : r.index < m.scopes.size) :
    (m.opened s).rebound r f = (m.rebound r f).opened s := by
  have scopes : ∀ g : Scope → Scope, (m.scopes.push s).modify r.index g = (m.scopes.modify r.index g).push s := by
    intro g
    apply Array.ext_getElem?
    intro i
    simp only [Array.getElem?_modify, Array.getElem?_push, Array.size_modify]
    split
    · next here =>
      subst here
      simp [Nat.ne_of_lt there]
    · rfl
  simp only [rebound, opened, scopes]

end Machine

namespace Engine

open Machine

/-! ## Finding names -/

/-- Where a name is found from a scope on, looking at so many scopes. -/
inductive Found (e : Engine) (m : Machine) (x : Utf16) : Nat → ScopeRef → Holder → Prop
  | bound {r outer : ScopeRef} {bs : List Binding} {b : Binding} (scope : m.scopes[r.index]? = some (.names bs outer))
      (here : Scope.binding? bs x = some b) : Found e m x 1 r (.binding r b)
  | outer {r outer : ScopeRef} {bs : List Binding} {k : Nat} {h : Holder}
      (scope : m.scopes[r.index]? = some (.names bs outer)) (free : Scope.binding? bs x = none)
      (rest : Found e m x k outer h) : Found e m x (k + 1) r h
  | global {r : ScopeRef} {q : Ref} {s : Slot} (scope : m.scopes[r.index]? = some .global)
      (found : e.find? m .global (.ofUnits x) = some (q, s)) : Found e m x 1 r (.property .global)

variable {e : Engine} {m : Machine} {x : Utf16} {k : Nat} {r : ScopeRef} {h : Holder}

/-- A search that may go as far as the name is ends where it is, -/
theorem Found.holderUpTo (found : Found e m x k r h) :
    ∀ fuel, k ≤ fuel → e.holderUpTo m x (.ofUnits x) fuel r = h := by
  induction found with
  | bound scope here =>
    rintro (_ | fuel) enough
    · cases enough
    · simp only [Engine.holderUpTo, scope, Option.getD_some, here]
  | outer scope free _ ih =>
    rintro (_ | fuel) enough
    · cases enough
    · simp only [Engine.holderUpTo, scope, Option.getD_some, free]
      exact ih fuel (Nat.le_of_succ_le_succ enough)
  | global scope found =>
    rintro (_ | fuel) enough
    · cases enough
    · simp only [Engine.holderUpTo, scope, Option.getD_some, found, Option.isSome_some, if_true]

/-- which the search of the engine may, as no chain is longer than there are scopes. -/
theorem Found.holder (found : Found e m x k r h) (enough : k ≤ m.scopes.size + 1) :
    e.holder r x m = .value h m := by
  rw [Engine.holder, Run.look_apply, found.holderUpTo _ enough]

/-- The search for properties goes by the objects alone. -/
theorem find?_opened (s : Scope) (q : Ref) (key : Key) : e.find? (m.opened s) q key = e.find? m q key := by
  have upTo : ∀ n q, e.findUpTo (m.opened s) key n q = e.findUpTo m key n q := by
    intro n
    induction n with
    | zero => exact fun _ => rfl
    | succ n ih =>
      intro q
      simp only [Engine.findUpTo, ih]
      rfl
  exact upTo _ q

/-- A new scope stands in the way of no search that begins further out. -/
theorem Found.opened (s : Scope) (found : Found e m x k r h) : Found e (m.opened s) x k r h := by
  have before : ∀ {r : ScopeRef} {t : Scope}, m.scopes[r.index]? = some t → (m.opened s).scopes[r.index]? = some t :=
    fun there => (opened_before s (Array.getElem?_eq_some_iff.mp there).1).trans there
  induction found with
  | bound scope here => exact .bound (before scope) here
  | outer scope free _ ih => exact .outer (before scope) free ih
  | global scope found => exact .global (before scope) ((find?_opened s _ _).trans found)

/-- A name that is bound to a value in a scope stands for that value. -/
theorem Found.read {q : ScopeRef} {b : Binding} {v : Value} (found : Found e m x k r (.binding q b))
    (enough : k ≤ m.scopes.size + 1) (value : b.value = some v) : e.readName r x m = .value v m := by
  rw [readName, Run.bind_apply, found.holder enough, Result.follow_value, readHolder, value]
  rfl

/-- A global name is read as a property of the global object. -/
theorem Found.get (found : Found e m x k r (.property .global)) (enough : k ≤ m.scopes.size + 1) :
    e.readName r x m = e.get (.object .global) (.ofUnits x) m := by
  rw [readName, Run.bind_apply, found.holder enough, Result.follow_value]
  rfl

/-- A variable takes what is assigned to it. -/
theorem Found.write {q : ScopeRef} {b : Binding} {v : Value} (found : Found e m x k r (.binding q b))
    (enough : k ≤ m.scopes.size + 1) (value : b.value = some v) (rule : b.rule = .changeable) (u : Value)
    (strict : Bool) : e.writeName r x u strict m = .value () (m.rebound q (Scope.rebind x u)) := by
  rw [writeName, Run.bind_apply, found.holder enough, Result.follow_value, writeHolder, value, rule]
  rfl

end Engine

/-! ## Calls -/

/-- The bindings that a call begins with, of a function that does not look at its list of arguments. -/
def Code.bindings (code : Code) (args : List Value) : List Binding :=
  code.vars.foldl (fun bs n => Engine.addBinding { name := n, value := some .undefined } bs)
    (Engine.bindParameters code.parameters args [])

/-- A function that declares nothing but parameters and variables, and is not strict. -/
structure Code.Simple (code : Code) : Prop where
  sloppy : code.strict = false
  arguments : code.usesArguments = false
  lexicals : code.body.lexicals = []
  functions : code.body.functions = []

namespace Engine

/-- Where the body of a function runs that is called without a receiver. -/
def bodyFrame (scope : ScopeRef) :
    Frame := { scope, vars := scope, this := .object .global, strict := false, keeps := false }

/-- Where the body of a function runs that is called on an object. -/
def memberFrame (o : Ref) (scope : ScopeRef) : Frame := { bodyFrame scope with this := .object o }

/-- A call of simple code opens a scope for its parameters and runs the body in it. -/
theorem callClosure_simple {e : Engine} {code : Code} (simple : code.Simple) (f : Ref) (outer : ScopeRef)
    (args : List Value)
    {m : Machine} {this : Value} {o : Ref} (received : receiver false this m = .value (.object o) m) :
    e.callClosure f code outer this args m =
      (e.execAll (memberFrame o m.nextScope) code.body.statements (m.opened (.names (code.bindings args) outer))).follow
        (fun c n => (match c with
          | .return v => (return v : Run Value)
          | _ => return .undefined) n) .thrown := by
  rw [← simple.sloppy] at received
  have opens : Run.allocScope (.names (bindParameters code.parameters args []) outer) m =
    .value m.nextScope (m.opened (.names (bindParameters code.parameters args []) outer)) := rfl
  unfold callClosure
  rw [Run.bind_apply, received, Result.follow_value, Run.bind_apply, opens, Result.follow_value, simple.arguments,
    simple.lexicals, simple.functions, simple.sloppy]
  -- what is left when the scope is open and has its variables
  have ran : ∀ l : Machine, (e.execAll (memberFrame o m.nextScope) code.body.statements >>= fun c => match c with
      | .return v => (return v : Run Value)
      | _ => return .undefined) l = (e.execAll (memberFrame o m.nextScope) code.body.statements l).follow
        (fun c n => (match c with
          | .return v => (return v : Run Value)
          | _ => return .undefined) n) .thrown := fun l => Run.bind_apply l _ _
  rcases vars : code.vars with _ | ⟨x, xs⟩
  · rw [Code.bindings, vars]
    exact ran _
  · let declare (bs : List Binding) : List Binding :=
      (x :: xs).foldl (fun bs n => addBinding { name := n, value := some .undefined } bs) bs
    rw [Code.bindings, vars]
    have declared := Machine.rebound_opened (bindParameters code.parameters args []) outer declare m
    rw [show (x :: xs).foldl _ _ = declare _ from rfl, ← declared]
    exact ran ((m.opened (.names (bindParameters code.parameters args []) outer)).rebound m.nextScope declare)

section Calls

variable {σ : Type} {b : List (Key × Ref)} {host : Host σ} {k : Nat} {m n : Machine} {w u : σ} {f : Ref}
  {code : Code} {outer : ScopeRef} {args : List Value}

/-- A call of a function goes through its statements, with the object that it is called on. -/
theorem ended_call (kind : (m.object f).kind = .closure code outer) (simple : code.Simple) {this : Value} {o : Ref}
    (received : receiver false this m = .value (.object o) m) {c : Completion}
    (ran : Comes b host k (·.execAll (memberFrame o m.nextScope) code.body.statements)
      (m.opened (.names (code.bindings args) outer)) w (some (.ok c), n, u)) :
    Comes b host (k + 1) (·.call (.object f) this args) m w
      (((match c with
        | .return v => (return v : Run Value)
        | _ => return .undefined) n).ended host u) := by
  refine comes_call fun d hd => ?_
  have called : (ofDepth b d).callValue
    (.object f) this args m = (ofDepth b d).callClosure f code outer this args m := by
    simp only [callValue, Run.bind_apply, Run.object_apply, Result.follow_value, kind]
  show ((ofDepth b d).callValue (.object f) this args m).ended host w = _
  rw [called, callClosure_simple simple f outer args received, Result.ended_follow, ran d hd]

/-- A function that returns a value gives it to its caller. -/
theorem call_closure {v : Value} (kind : (m.object f).kind = .closure code outer) (simple : code.Simple)
    (ran : Comes b host k (·.execAll (bodyFrame m.nextScope) code.body.statements)
      (m.opened (.names (code.bindings args) outer)) w (some (.ok (.return v)), n, u)) :
    Comes b host (k + 1) (·.call (.object f) .undefined args) m w (some (.ok v), n, u) :=
  ended_call kind simple (o := .global) rfl ran

/-- A function that is called on an object and comes to its end gives nothing. -/
theorem call_member {o : Ref} (kind : (m.object f).kind = .closure code outer) (simple : code.Simple)
    (ran : Comes b host k (·.execAll (memberFrame o m.nextScope) code.body.statements)
      (m.opened (.names (code.bindings args) outer)) w (some (.ok .normal), n, u)) :
    Comes b host (k + 1) (·.call (.object f) (.object o) args) m w (some (.ok .undefined), n, u) :=
  ended_call kind simple rfl ran

end Calls

end Engine

end ScriptHost.Script
