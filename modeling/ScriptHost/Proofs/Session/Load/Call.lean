/-
Loading: what a call on the function that evaluates a file goes through. It has the file read and hands the text to
the function that evaluates sources, called by no name of its own, so that the text runs as global code. When it
begins to run, two objects and a scope have come up, and nothing else has changed.
-/
import ScriptHost.Proofs.Isolate.Coercion
import ScriptHost.Proofs.Session.Action.Call

namespace ScriptHost

open Script

namespace Script.Engine

variable {σ : Type} {b : List (Key × Ref)} {host : Host σ} {k : Nat} {m n l : Machine} {w u x : σ}
  {frame : Frame}

/-! ## Further forms -/

theorem eval_sequence {e d : Expr} {v : Value} {out : Option (Except Value Value) × Machine × σ}
    (first : Comes b host k (·.eval frame e) m w (some (.ok v), n, u))
    (rest : Comes b host k (·.eval frame d) n u out) :
    Comes b host (k + 1) (·.eval frame (.sequence e d)) m w out := by
  have dropped : Comes b host k (fun a => discard (a.eval frame e)) m w (some (.ok ⟨⟩), n, u) :=
    first.bind (.of_value fun _ _ => rfl)
  exact comes_eval (dropped.bind rest)

section Depth

/-! ## One level above a depth -/

variable {d : Nat}

/-- What is called by no name has no receiver. -/
theorem eval_callSequence {e c : Expr} {args : List Expr} {f : Value} {vs : List Value}
    {out : Option (Except Value Value) × Machine × σ}
    (callee : ((ofDepth b d).eval frame (.sequence e c) m).ended host w = (some (.ok f), n, u))
    (arguments : ((ofDepth b d).evalAll frame args n).ended host u = (some (.ok vs), l, x))
    (called : ((ofDepth b d).call f .undefined vs l).ended host x = out) :
    ((ofDepth b (d + 1)).eval frame (.call (.sequence e c) args) m).ended host w = out :=
  (Run.ended_bind _ callee).trans ((Run.ended_bind _ arguments).trans called)

/-- A call of a function under a global name. -/
theorem eval_globalName {g : Utf16} {args : List Expr} {f : Value} {vs : List Value}
    {out : Option (Except Value Value) × Machine × σ} (other : g ≠ Utf16.ofString "eval")
    (held : (ofDepth b d).holder frame.scope g m = .value (.property .global) m)
    (read : (ofDepth b d).get (.object .global) (.ofUnits g) m = .value f m)
    (arguments : ((ofDepth b d).evalAll frame args m).ended host w = (some (.ok vs), n, u))
    (called : ((ofDepth b d).call f .undefined vs n).ended host u = out) :
    ((ofDepth b (d + 1)).eval frame (.call (.name g) args) m).ended host w = out := by
  show ((ofDepth b d).callName frame g args m).ended host w = out
  obtain ⟨special, asked⟩ := isEval_apply f n
  have reads : (ofDepth b d).readHolder g (.property .global) m = .value f m := read
  rw [callName, Run.bind_apply, held, Result.follow_value, Run.bind_apply, reads, Result.follow_value]
  refine (Run.ended_bind _ arguments).trans ?_
  rw [Run.bind_apply, asked, Result.follow_value, if_neg (fun both => other both.1)]
  exact called

/-- A body that returns what an expression comes to. -/
theorem execAll_returned {e : Expr} {r : Except Value Value}
    (value : ((ofDepth b d).eval frame e m).ended host w = (some r, n, u)) :
    ((ofDepth b (d + 1)).execAll frame [.return (some e)] m).ended host w = (some (r.map .return), n, u) := by
  have returned : ((ofDepth b (d + 1)).exec frame (.return (some e)) m).ended host w = (some (r.map .return),
    n, u) := by
    show ((ofDepth b d).execReturn frame (some e) m).ended host w = _
    cases r with
    | error v => exact Run.ended_bind_error _ value
    | ok v => exact Run.ended_bind _ value
  cases r with
  | error v => exact Run.ended_bind_error _ returned
  | ok v => exact Run.ended_bind _ returned

end Depth

end Script.Engine

namespace Script

/-! ## Functions that list their arguments -/

/-- A function that declares nothing but parameters, is not strict, and may look at the list of its arguments. -/
structure Code.Listing (code : Code) : Prop where
  sloppy : code.strict = false
  arguments : code.usesArguments = true
  vars : code.vars = []
  lexicals : code.body.lexicals = []
  functions : code.body.functions = []

/-- The list of the arguments of a call on `f`. -/
def Obj.arguments (f : Ref) (args : List Value) : Obj where
  kind := .arguments
  parent := some .objectParent
  slots := ("callee", .hidden (.object f)) :: (Key.length, .hidden (.number (Float.ofNat args.length))) ::
    Run.itemSlots 0 args []

namespace Engine

/-- The scope of a call whose list of arguments is `list`. -/
def listingScope (code : Code) (outer : ScopeRef) (args : List Value) (list : Ref) : Scope :=
  .names (addBinding { name := argumentsName, value := some (.object list) }
    (bindParameters code.parameters args [])) outer

/-- The machine on which the body of such a function runs. -/
def listing (f : Ref) (code : Code) (outer : ScopeRef) (args : List Value) (m : Machine) : Machine :=
  (m.opened (listingScope code outer args m.next)).grown (.arguments f args)

theorem callClosure_listing {e : Engine} {code : Code} (lists : code.Listing) (f : Ref) (outer : ScopeRef)
    (args : List Value) (m : Machine) : e.callClosure f code outer .undefined args m =
      (e.execAll (bodyFrame m.nextScope) code.body.statements (listing f code outer args m)).follow
        (fun c n => (match c with
          | .return v => (return v : Run Value)
          | _ => return .undefined) n) .thrown := by
  have receiver : receiver code.strict .undefined m = .value (.object .global) m := by
    rw [lists.sloppy]
    rfl
  have opens : Run.allocScope (.names (bindParameters code.parameters args []) outer) m =
    .value m.nextScope (m.opened (.names (bindParameters code.parameters args []) outer)) := rfl
  have bound := Machine.rebound_opened (bindParameters code.parameters args []) outer
    (addBinding { name := argumentsName, value := some (.object m.next) }) m
  unfold callClosure
  rw [Run.bind_apply, receiver, Result.follow_value, Run.bind_apply, opens, Result.follow_value, lists.arguments,
    lists.vars, lists.lexicals, lists.functions, lists.sloppy, listing, listingScope, ← bound]
  -- what is left when the list is made and bound
  have ran : ∀ l : Machine, (e.execAll (bodyFrame m.nextScope) code.body.statements >>= fun c => match c with
      | .return v => (return v : Run Value)
      | _ => return .undefined) l = (e.execAll (bodyFrame m.nextScope) code.body.statements l).follow
        (fun c n => (match c with
          | .return v => (return v : Run Value)
          | _ => return .undefined) n) .thrown := fun l => Run.bind_apply l _ _
  exact ran (((m.opened (.names (bindParameters code.parameters args []) outer)).rebound m.nextScope
    (addBinding { name := argumentsName, value := some (.object m.next) })).grown (.arguments f args))

end Engine

end Script

namespace Script.Engine

variable {σ : Type} {b : List (Key × Ref)} {host : Host σ} {k : Nat} {m n : Machine} {w u : σ}

/-- A call on such a function ends as its body does, with what that returns or throws. -/
theorem call_listing {d : Nat} {f : Ref} {code : Code} {outer : ScopeRef} {args : List Value} {r : Except Value Value}
    (kind : (m.object f).kind = .closure code outer) (lists : code.Listing)
    (ran : ((ofDepth b d).execAll (bodyFrame m.nextScope) code.body.statements
    (listing f code outer args m)).ended host w =
      (some (r.map .return), n, u)) :
    ((ofDepth b (d + 1)).call (.object f) .undefined args m).ended host w = (some r, n, u) := by
  have called : (ofDepth b d).callValue (.object f) .undefined args m =
      (ofDepth b d).callClosure f code outer .undefined args m := by
    simp only [callValue, Run.bind_apply, Run.object_apply, Result.follow_value, kind]
  show ((ofDepth b d).callValue (.object f) .undefined args m).ended host w = _
  rw [called, callClosure_listing lists, Result.ended_follow, ran]
  cases r <;> rfl

/-! ## Programs of one expression -/

/-- What runs for itself leaves the result of what surrounds it. -/
theorem ended_withOwnResult {y : Run Unit} {r : Except Value Unit}
    (ran : (y { m with result := .undefined }).ended host w = (some r, n, u)) :
    (Run.withOwnResult y m).ended host w = (some (r.map fun _ => n.result), { n with result := m.result }, u) := by
  refine (Run.ended_attempt_bind _ ran).trans ?_
  cases r <;> rfl

/-- A program that is one expression comes to what the expression comes to. -/
theorem runProgram_expression {d : Nat} {p : Program} {e : Expr} (vars : p.vars = []) (sloppy : p.strict = false)
    (lexicals : p.body.lexicals = []) (functions : p.body.functions = []) (one : p.body.statements = [.expression e])
    {r : Except Value Value}
    (value : ((ofDepth b d).eval globalFrame e { m with result := .undefined }).ended host w = (some r, n, u)) :
    ((ofDepth b (d + 1)).runProgram globalFrame p m).ended host w = (some r, { n with result := m.result }, u) := by
  -- the statement leaves its value as the result, or throws
  have stated : ∃ c n', ((ofDepth b (d + 1)).execAll globalFrame [.expression e] { m with result := .undefined }).ended
      host w = (some c, n', u) ∧ (c.map fun _ => n'.result) = r ∧
        { n' with result := m.result } = { n with result := m.result } := by
    rcases r with v | v
    · refine ⟨.error v, n, Run.ended_bind_error _ ?_, rfl, rfl⟩
      exact Run.ended_bind_error _ value
    · refine ⟨.ok .normal, { n with result := v }, Run.ended_bind (a := Completion.normal)
        (n := { n with result := v }) _ ?_, rfl, rfl⟩
      exact Run.ended_bind _ value
  obtain ⟨c, n', stated, result, rest⟩ := stated
  have ran : ((do
      (ofDepth b (d + 1)).declareProgram globalFrame p
      discard ((ofDepth b (d + 1)).execAll globalFrame p.body.statements) : Run Unit)
          { m with result := .undefined }).ended
      host w = (some (c.map fun _ => ()), n', u) := by
    rw [Run.bind_apply, declareProgram_nothing vars functions globalFrame _, Result.follow_value, one,
      Run.discard_apply, Result.ended_follow, stated]
    cases c <;> rfl
  have whole := ended_withOwnResult ran
  have twice : (Except.map (fun _ => n'.result) (Except.map (fun _ => ()) c)) = r := by
    rw [← result]
    cases c <;> rfl
  rw [twice, rest] at whole
  refine Eq.trans ?_ whole
  unfold runProgram
  rw [sloppy, lexicals]
  rfl

end Script.Engine

namespace Session.Load

open ScriptHost.Session.Action (Leads Sees sees_body eval_own eval_global eval_globalCall)
open Script.Engine (Comes bodyFrame textReply globalFrame call_host_text comes_native)

/-! ## The function -/

def pathName : Utf16 := "path"

def functionName : Utf16 := "load"

def loadBody (first : Primitive) : Block := .mk [] [] [.return (some
  (.call (.sequence (.constant first) (.name "eval")) [.call (.name "readfile") [.name pathName]]))]

/-- A function is the one that the bundled bootstrap defines. -/
def isLoad (code : Code) : Bool :=
  !code.strict && code.usesArguments && code.parameters == [pathName] && code.vars.isEmpty &&
    (match code.body with
      | .mk [] [] [.return (some (.call (.sequence (.constant _) (.name f)) [.call (.name g) [.name p]]))] =>
        f == Utf16.ofString "eval" && g == Utf16.ofString "readfile" && p == pathName
      | _ => false)

theorem listing_of_isLoad {code : Code} (load : isLoad code = true) : code.Listing ∧ code.parameters = [pathName] ∧
    ∃ first, code.body = loadBody first := by
  simp only [isLoad, Bool.and_eq_true, Bool.not_eq_true', beq_iff_eq, List.isEmpty_iff] at load
  obtain ⟨⟨⟨⟨sloppy, arguments⟩, parameters⟩, vars⟩, body⟩ := load
  have body : ∃ first, code.body = loadBody first := by
    split at body
    · next first f g p found =>
      simp only [Bool.and_eq_true, beq_iff_eq] at body
      obtain ⟨⟨rfl, rfl⟩, rfl⟩ := body
      exact ⟨first, found⟩
    · cases body
  obtain ⟨first, body⟩ := body
  exact ⟨⟨sloppy, arguments, vars, by rw [body]; rfl, by rw [body]; rfl⟩, parameters, first, body⟩

/-- Something is that function, known where everything global is. -/
def isLoader : Kind → Bool
  | .closure code scope => scope.index == 0 && isLoad code
  | _ => false

/-! ## The machine -/

/-- A machine on which loading finds under global names what it found in the beginning. -/
structure Loads (e : Engine) (m : Machine) : Prop extends Pristine e m 1 where
  outermost : m.scopes[0]? = some .global
  evaluates : Leads (fun f => (m.object f).kind = .native .eval) (e.own? m .global "eval")
  reads : Leads (fun f => (m.object f).kind = .host "readfile") (e.own? m .global "readfile")
  loads : Leads (fun f => isLoader (m.object f).kind = true) (e.own? m .global "load")

instance (e : Engine) (m : Machine) : Decidable (Loads e m) :=
  decidable_of_iff (Pristine e m 1 ∧ m.scopes[0]? = some .global ∧
      Leads (fun f => (m.object f).kind = .native .eval) (e.own? m .global "eval") ∧
      Leads (fun f => (m.object f).kind = .host "readfile") (e.own? m .global "readfile") ∧
      Leads (fun f => isLoader (m.object f).kind = true) (e.own? m .global "load"))
    ⟨fun ⟨a, b, c, d, f⟩ => ⟨a, b, c, d, f⟩, fun ⟨a, b, c, d, f⟩ => ⟨a, b, c, d, f⟩⟩

/-- The bindings that a call of the function begins with, whose list of arguments is `list`. -/
def loadBindings (u : Utf16) (list : Ref) : List Binding :=
  [{ name := pathName, value := some (.string u) }, { name := Engine.argumentsName, value := some (.object list) }]

/-- The machine in the body of the function at `f`. -/
def inside (f : Ref) (u : Utf16) (m : Machine) : Machine :=
  (m.opened (.names (loadBindings u m.next) .global)).grown (.arguments f [.string u])

/-- The machine on which the text of the file begins to run: with the scope of the call, the list of its arguments,
those of the call on the host and the object of the answer. -/
def loaded (f : Ref) (u : Utf16) (t : Text) (m : Machine) : Machine :=
  ((inside f u m).grown (.strings [u])).grown (textReply t)

variable {σ : Type} {b : List (Key × Ref)} {host : Host σ} {d : Nat} {m n : Machine} {w v x : σ}
  {f : Ref} {wr en c : Bool} {u : Utf16} {t : Text} {r : Except Value Value}

/-! ## The call -/

section Call

variable (loads : Loads (.bottom b) m)
    (answered : host (.call "readfile" (Engine.crossing [u])) w = (.value (.text t), v))
  (ran : ((Engine.ofDepth b d).runGlobally (Text.toUtf16 t) (loaded f u t m)).ended host v = (some r, n, x))
  (enough : 5 ≤ d)
include loads answered ran enough

/-- The expression in the body comes to what the text comes to. -/
theorem eval_body (first : Primitive) : ((Engine.ofDepth b (d + 2)).eval (bodyFrame m.nextScope)
    (.call (.sequence (.constant first) (.name "eval")) [.call (.name "readfile") [.name pathName]])
      (inside f u m)).ended host w = (some r, n, x) := by
  have sees : Sees (inside f u m).scopes m.nextScope m.nextScope (loadBindings u m.next) := sees_body loads.outermost _
  obtain ⟨g, wr, en, c, held, kind⟩ := loads.evaluates
  obtain ⟨h, wr', en', c', held', kind'⟩ := loads.reads
  have outermost : (inside f u m).scopes[0]? = some .global :=
    (Machine.opened_before (r := .global) _ (Array.getElem?_eq_some_iff.mp loads.outermost).1).trans loads.outermost
  have within : m.Within (inside f u m) := (Machine.extends_grown (o := .arguments f [.string u]) m).within
  have pristine : Pristine (.bottom b) (inside f u m) 1 := loads.toPristine.within within (by rw [outermost]; rfl)
  have there : g.index < m.heap.size := Machine.lt_of_kind (by rw [kind]; nofun)
  have there' : h.index < m.heap.size := Machine.lt_of_kind (by rw [kind']; nofun)
  have own : ∀ key, (Engine.bottom b).own? (inside f u m) .global key = (Engine.bottom b).own? m .global key :=
    Engine.own?_within within loads.toIntact.global_lt
  have callee : Comes b host 2 (·.eval (bodyFrame m.nextScope) (.sequence (.constant first) (.name "eval")))
      (inside f u m) w (some (.ok (.object g)), inside f u m, w) :=
    Engine.eval_sequence (Engine.eval_constant _ _ _)
      (eval_global (x := "eval") sees (by decide) rfl ((own _).trans held))
  have primitive : ∀ v ∈ [Value.string u], v.ref? = none := by simp [Value.ref?]
  have limit : [Value.string u].length ≤ Key.indexLimit := by show 1 ≤ _; decide
  have kind'' : ((inside f u m).object h).kind = .host "readfile" := (congrArg Obj.kind (within h there')).trans kind'
  have read : Comes b host 5 (·.eval (bodyFrame m.nextScope) (.call (.name "readfile") [.name pathName]))
    (inside f u m) w
      (some (.ok (.string (Text.toUtf16 t))), loaded f u t m, v) :=
    eval_globalCall (k := 4) (x := "readfile") sees (by decide) rfl ((own _).trans held') (by decide)
      (Engine.evalAll_cons (eval_own (k := 3) (x := pathName) sees (by decide) rfl) Engine.evalAll_nil)
      (call_host_text (k := 1) kind'' pristine limit primitive answered .undefined)
  have kept : ((loaded f u t m).object g).kind = .native .eval := by
    rw [← kind]
    have further : (inside f u m).Within (loaded f u t m) :=
      ((Machine.extends_grown _ (inside f u m)).trans (Machine.extends_grown _ _)).within
    have there'' : g.index < (inside f u m).heap.size :=
      Nat.lt_of_lt_of_le there (Machine.extends_grown (o := .arguments f [.string u]) m).size
    exact congrArg Obj.kind ((further g there'').trans (within g there))
  have arguments := Engine.evalAll_cons read Engine.evalAll_nil
  refine Engine.eval_callSequence (callee (d + 1) (by omega)) (arguments (d + 1) (by omega)) ?_
  show ((Engine.ofDepth b d).callValue (.object g) .undefined [.string (Text.toUtf16 t)]
    (loaded f u t m)).ended host v = _
  rw [Engine.callValue_native kept]
  exact ran

/-- A call on the function comes to what the text of the file comes to. -/
theorem call_load (loader : isLoader (m.object f).kind = true) :
    ((Engine.ofDepth b (d + 4)).call (.object f) .undefined [.string u] m).ended host w = (some r, n, x) := by
  obtain ⟨code, kind, load⟩ : ∃ code, (m.object f).kind = .closure code .global ∧ isLoad code = true := by
    cases kind : (m.object f).kind with
    | closure code scope =>
      rw [kind] at loader
      obtain ⟨outer, load⟩ := Bool.and_eq_true_iff.mp loader
      exact ⟨code, by rw [show scope = .global from congrArg ScopeRef.mk (beq_iff_eq.mp outer)], load⟩
    | _ => rw [kind] at loader; cases loader
  obtain ⟨lists, parameters, first, body⟩ := listing_of_isLoad load
  have value := eval_body loads answered ran enough first
  have entered : Engine.listing f code .global [.string u] m = inside f u m := by
    rw [Engine.listing, Engine.listingScope, parameters]
    rfl
  refine Engine.call_listing kind lists ?_
  rw [body, entered]
  exact Engine.execAll_returned value

/-- So does the expression that calls it by its name. -/
theorem eval_load (held : (Engine.bottom b).own? m .global "load" = some (.data (.object f) wr en c))
    (loader : isLoader (m.object f).kind = true) :
    ((Engine.ofDepth b (d + 5)).eval globalFrame (.call (.name functionName) [.constant (.string u)]) m).ended host w =
      (some r, n, x) := by
  have found : (Engine.ofDepth b (d + 4)).find? m .global (.ofUnits functionName) =
      some (.global, .data (.object f) wr en c) :=
    Engine.find?_of_own (congrFun (Engine.own?_of_bindings (e := .bottom b)
        (Engine.ofDepth_bindings b (d + 4))) m ▸ held)
  have arguments : Comes b host 1 (·.evalAll globalFrame [.constant (.string u)]) m w (some (.ok [.string u]), m, w) :=
    Engine.evalAll_cons (Engine.eval_constant _ _ _) Engine.evalAll_nil
  exact Engine.eval_globalName (by decide +kernel)
    ((Engine.Found.global (r := .global) loads.outermost found).holder (Nat.le_add_left _ _)) (Engine.get_of_find found)
    (arguments (d + 4) (by omega)) (call_load loads answered ran enough loader)

end Call

/-! ## Programs that load a file -/

/-- The path that statements load, if they do nothing else. -/
def pathOf : List Stmt → Option Utf16
  | [.expression (.call (.name f) [.constant (.string u)])] => if f = functionName then some u else none
  | _ => none

theorem statements_of_pathOf {ss : List Stmt} (h : pathOf ss = some u) :
    ss = [.expression (.call (.name functionName) [.constant (.string u)])] := by
  unfold pathOf at h
  split at h
  · split at h
    · next same =>
      cases h
      rw [same]
    · cases h
  · cases h

/-- The path whose file a source loads, if it is the call of the function on a string and nothing else, however the
string is written. -/
def loads? (source : Utf16) : Option Utf16 :=
  match Program.ofSource false (Utf16.toText source) with
  | .ok p =>
    if p.vars.isEmpty && !p.strict && p.body.lexicals.isEmpty && p.body.functions.isEmpty then pathOf p.body.statements
    else none
  | .error _ => none

/-- A source that loads a file comes to what the text of the file comes to. -/
theorem runGlobally_loads {source : Utf16} (path : loads? source = some u) (loads : Loads (.bottom b) m)
    (held : (Engine.bottom b).own? m .global "load" = some (.data (.object f) wr en c))
    (loader : isLoader (m.object f).kind = true) (before : m.result = .undefined)
    (answered : host (.call "readfile" (Engine.crossing [u])) w = (.value (.text t), v))
    (ran : ((Engine.ofDepth b d).runGlobally (Text.toUtf16 t) (loaded f u t m)).ended host v = (some r, n, x))
    (enough : 5 ≤ d) :
    ((Engine.ofDepth b (d + 6)).runGlobally source m).ended host w = (some r, { n with result := .undefined }, x) := by
  have here : { m with result := .undefined } = m := by
    rw [← before]
  unfold loads? at path
  split at path
  · next p parsed =>
    split at path
    · next plain =>
      simp only [Bool.and_eq_true, Bool.not_eq_true', List.isEmpty_iff] at plain
      obtain ⟨⟨⟨vars, sloppy⟩, lexicals⟩, functions⟩ := plain
      have value := eval_load loads answered ran enough held loader
      rw [← here] at value
      have program := Engine.runProgram_expression vars sloppy lexicals functions (statements_of_pathOf path) value
      rw [before] at program
      have strict : globalFrame.strict = false := rfl
      show ((Engine.ofDepth b (d + 6)).runSource globalFrame source m).ended host w = _
      rw [Engine.runSource, strict, parsed]
      exact program
    · cases path
  · cases path

end Session.Load

end ScriptHost
