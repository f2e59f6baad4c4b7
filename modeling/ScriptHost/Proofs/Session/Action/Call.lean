/-
Actions: what a call on the function goes through. Its names are found in the scope that the call opened, and the
functions that it calls under global names; statement by statement it puts the program together, has it answered,
and reads the answer or tells it as an error.
-/
import ScriptHost.Proofs.Script.Calls
import ScriptHost.Proofs.Session.Action.Function

namespace ScriptHost.Session.Action

open Script (Binding Code Engine Expr Frame Holds Json Key Machine Obj Ref Scope ScopeRef Slot Spells Value)
open Script.Engine

variable {m n : Machine}

/-! ## Names -/

/-- What is seen from a scope: the bindings of the scope `r`, and the global names that are none of them. The name
that stands for what was thrown is left aside. -/
structure Sees (scopes : Array Scope) (s r : ScopeRef) (bs : List Binding) : Prop where
  own : ∀ {e : Engine} {n : Machine} {x : Utf16} {b : Binding}, n.scopes = scopes → x ≠ thrownName →
    Scope.binding? bs x = some b → ∃ k ≤ n.scopes.size + 1, Found e n x k s (.binding r b)
  others : ∀ {e : Engine} {n : Machine} {x : Utf16} {q : Ref} {slot : Slot}, n.scopes = scopes → x ≠ thrownName →
    Scope.binding? bs x = none → e.find? n .global (.ofUnits x) = some (q, slot) →
    ∃ k ≤ n.scopes.size + 1, Found e n x k s (.property .global)

/-- In the body of the function. -/
theorem sees_body (outermost : m.scopes[0]? = some .global) (bs : List Binding) :
    Sees (m.opened (.names bs .global)).scopes m.nextScope m.nextScope bs := by
  have scope := Machine.opened_nextScope (.names bs .global) m
  have inside : 0 < m.scopes.size := (Array.getElem?_eq_some_iff.mp outermost).1
  have size : (m.opened (.names bs .global)).scopes.size = m.scopes.size + 1 := Array.size_push _
  have global : (m.opened (.names bs .global)).scopes[ScopeRef.global.index]? = some .global :=
    (Machine.opened_before _ inside).trans outermost
  constructor
  · intro e n x b same _ here
    rw [← same] at scope
    exact ⟨1, by omega, .bound scope here⟩
  · intro e n x q slot same _ free found
    rw [← same] at scope size global
    exact ⟨2, by omega, .outer scope free (.global global found)⟩

/-- What is seen from a scope is seen from it when others are opened. -/
theorem Sees.opened {s r : ScopeRef} {bs : List Binding} (sees : Sees m.scopes s r bs) (t : Scope) :
    Sees (m.opened t).scopes s r bs := by
  have size : (m.opened t).scopes.size = m.scopes.size + 1 := Array.size_push _
  have before : ∀ {n : Machine}, n.scopes = (m.opened t).scopes →
    n = ({ n with scopes := m.scopes } : Machine).opened t := by
    intro n same
    cases n
    cases same
    rfl
  constructor
  · intro e n x b same other here
    obtain ⟨k, enough, found⟩ := sees.own (e := e) (n := { n with scopes := m.scopes }) rfl other here
    have found' := found.opened t
    rw [← before same] at found'
    exact ⟨k, by rw [same, size]; exact Nat.le_succ_of_le enough, found'⟩
  · intro e n x q slot same other unbound there
    rw [before same, find?_opened] at there
    obtain ⟨k, enough, found⟩ := sees.others (e := e) (n := { n with scopes := m.scopes }) rfl other unbound there
    have found' := found.opened t
    rw [← before same] at found'
    exact ⟨k, by rw [same, size]; exact Nat.le_succ_of_le enough, found'⟩

/-- In a handler. -/
theorem Sees.handled {s r : ScopeRef} {bs : List Binding} (sees : Sees m.scopes s r bs) (thrown : Value) :
    Sees (m.opened (handlerScope thrownName thrown s)).scopes m.nextScope r bs := by
  have scope := Machine.opened_nextScope (handlerScope thrownName thrown s) m
  have size : (m.opened (handlerScope thrownName thrown s)).scopes.size = m.scopes.size + 1 := Array.size_push _
  have free : ∀ {x : Utf16}, x ≠ thrownName →
    Scope.binding? [{ name := thrownName, value := some thrown }] x = none := by
    intro x other
    simp [Scope.binding?, other.symm]
  -- a machine with these scopes is one on which the handler has opened its own
  have before : ∀ {n : Machine}, n.scopes = (m.opened (handlerScope thrownName thrown s)).scopes →
      n = ({ n with scopes := m.scopes } : Machine).opened (handlerScope thrownName thrown s) := by
    intro n same
    cases n
    cases same
    rfl
  constructor
  · intro e n x b same other here
    obtain ⟨k, enough, found⟩ := sees.own (e := e) (n := { n with scopes := m.scopes }) rfl other here
    have found' := found.opened (handlerScope thrownName thrown s)
    rw [← before same] at found'
    rw [← same] at scope size
    exact ⟨k + 1, by rw [size]; exact Nat.succ_le_succ enough, .outer scope (free other) found'⟩
  · intro e n x q slot same other unbound there
    rw [before same, find?_opened] at there
    obtain ⟨k, enough, found⟩ := sees.others (e := e) (n := { n with scopes := m.scopes }) rfl other unbound there
    have found' := found.opened (handlerScope thrownName thrown s)
    rw [← before same] at found'
    rw [← same] at scope size
    exact ⟨k + 1, by rw [size]; exact Nat.succ_le_succ enough, .outer scope (free other) found'⟩

section Expressions

variable {σ : Type} {b : List (Key × Ref)} {host : Script.Host σ} {k : Nat} {w u : σ} {frame : Frame}
  {r : ScopeRef} {bs : List Binding} {v : Value}

/-- A variable is read. -/
theorem eval_own (sees : Sees m.scopes frame.scope r bs) {x : Utf16} {rule : Script.BindingRule} {d : Bool}
    (other : x ≠ thrownName)
    (here : Scope.binding? bs x = some ⟨x, some v, rule, d⟩) :
    Comes b host (k + 1) (·.eval frame (.name x)) m w (some (.ok v), m, w) := by
  refine eval_name fun e _ => ?_
  obtain ⟨levels, enough, found⟩ := sees.own (e := e) rfl other here
  exact found.read enough rfl

section Global

variable (sees : Sees m.scopes frame.scope r bs) {x : Utf16} (other : x ≠ thrownName)
    (free : Scope.binding? bs x = none)
  {f : Ref} {wr en c : Bool} (held : (Engine.bottom b).own? m .global (.ofUnits x) = some (.data (.object f) wr en c))
include sees other free held

/-- A global name is read. -/
theorem eval_global : Comes b host (k + 1) (·.eval frame (.name x)) m w (some (.ok (.object f)), m, w) := by
  refine eval_name fun e bindings => ?_
  have found := find?_of_own ((congrFun (own?_of_bindings (e := .bottom b) bindings) m ▸ held))
  obtain ⟨levels, enough, holder⟩ := sees.others (e := e) rfl other free found
  rw [holder.get enough]
  exact get_of_find found

/-- A function is called by its global name. -/
theorem eval_globalCall (different : x ≠ Utf16.ofString "eval") {args : List Expr} {vs : List Value}
    {out : Option (Except Value Value) × Machine × σ}
    (arguments : Comes b host k (·.evalAll frame args) m w (some (.ok vs), n, u))
    (called : Comes b host k (·.call (.object f) .undefined vs) n u out) :
    Comes b host (k + 1) (·.eval frame (.call (.name x) args)) m w out := by
  have found : ∀ e : Engine, e.bindings = b →
    e.find? m .global (.ofUnits x) = some (.global, .data (.object f) wr en c) :=
    fun e bindings => find?_of_own ((congrFun (own?_of_bindings (e := .bottom b) bindings) m ▸ held))
  refine eval_callName different (fun e bindings => ?_) (fun e bindings => ?_) arguments called
  · obtain ⟨levels, enough, holder⟩ := sees.others (e := e) rfl other free (found e bindings)
    exact holder.holder enough
  · exact get_of_find (found e bindings)

end Global

/-- A function of the library is called. -/
theorem eval_libraryCall (sees : Sees m.scopes frame.scope r bs) (free : Scope.binding? bs "JSON" = none)
    (there : Leads (Library (.bottom b) m) ((Engine.bottom b).own? m .global "JSON")) {function : String}
    {native : Script.Native}
    (holds : ∀ q, Library (.bottom b) m q → Holds m native ((Engine.bottom b).own? m q function))
    {args : List Expr} {vs : List Value} {out : Option (Except Value Value) × Machine × σ}
    (arguments : Comes b host (k + 1) (·.evalAll frame args) m w (some (.ok vs), n, u))
    (called : ∀ f this, (m.object f).kind = .native native →
      Comes b host (k + 1) (·.call (.object f) this vs) n u out) :
    Comes b host (k + 2) (·.eval frame (libraryCall "JSON" function args)) m w out := by
  obtain ⟨q, wr, en, c, held, library⟩ := there
  obtain ⟨f, wr', en', c', found, kind⟩ := holds q library
  refine eval_callMember (eval_global sees (by decide) free held) (fun e bindings => ?_) arguments
    (called f _ kind)
  have found' := congrFun (own?_of_bindings (e := .bottom b) bindings) m ▸ found
  exact get_of_find (find?_of_own found')

end Expressions

/-! ## The statements -/

section Statements

variable {σ : Type} {b : List (Key × Ref)} {host : Script.Host σ} {k : Nat} {w u : σ} {frame : Frame}
  {r : ScopeRef} {v : Value} {c : Locals} {q : Ref} {src : Utf16}

/-- A string is put behind another one. -/
theorem eval_joinText {e : Expr} {s : Utf16}
    (left : Comes b host (k + 1) (·.eval frame e) m w (some (.ok (.string s)), n, u))
    (t : String) : Comes b host (k + 2) (·.eval frame (.binary .add e (text t))) m w
      (some (.ok (.string (s ++ Utf16.ofString t))), n, u) :=
  eval_join left (eval_constant _ _ _)

/-- The expression for the program gives the program. -/
theorem eval_program (sees : Sees m.scopes frame.scope r { c with bs := .object q }.bindings)
    (equipped : Equipped (.bottom b) m) {tree : Json} (spells : Spells m [] (.object q) tree) :
    Comes b host (tree.height + 12) (·.eval frame programExpr) m w
      (some (.ok (.string (program (tree.write [] []) c.src))), m.grown (holding (.object q)), w) := by
  have opening : Comes b host (tree.height + 4) (·.eval frame (.binary .add (.binary .add (.binary .add (text "\n")
      (text "var emitting = [];\n")) (text "var env = \x7b\n")) (text "  bindings: "))) m w _ :=
    eval_joinText (eval_joinText (eval_joinText (eval_constant _ _ _) _) _) _
  have written : Comes b host (tree.height + 4) (·.eval frame (libraryCall "JSON" "stringify" [.name bsName])) m w
      (some (.ok (.string (tree.write [] []))), m.grown (holding (.object q)), w) :=
    (eval_libraryCall (k := tree.height + 1) sees rfl equipped.library (fun _ library => library.writes)
      (evalAll_cons (eval_own sees (by decide) rfl) evalAll_nil)
      fun f this kind => call_stringify kind equipped.toIntact spells (Nat.le_refl _) this).deeper (by omega)
  have middle := eval_joinText (eval_joinText (eval_joinText (eval_joinText (eval_join opening written) ",\n")
    "  out: function(x) \x7b emitting.push(x); \x7d\n") "\x7d;\n") "var bs = (function(_) \x7b\n"
  have body : Comes b host (tree.height + 9) (·.eval frame (.name srcName)) (m.grown (holding (.object q))) w
      (some (.ok (.string c.src)), _, w) := eval_own (m := m.grown _) sees (by decide) rfl
  exact eval_joinText (eval_joinText (eval_join middle body) _) _

/-- A machine inside of a call on the function. -/
def inside (c : Locals) (l : Machine) : Machine := l.opened (.names c.bindings .global)

/-- Inside of a call, a variable takes a value. -/
theorem write_inside {e : Engine} (outermost : m.scopes[0]? = some .global) {bs : List Binding} {x : Utf16} {d : Bool}
    (other : x ≠ thrownName) (here : Scope.binding? bs x = some ⟨x, some v, .changeable, d⟩) (u : Value)
    (strict : Bool) :
    e.writeName m.nextScope x u strict (m.opened (.names bs .global)) =
      .value () (m.opened (.names (Scope.rebind x u bs) .global)) := by
  obtain ⟨levels, enough, found⟩ := (sees_body outermost bs).own (e := e) rfl other here
  rw [found.write enough rfl rfl, Machine.rebound_opened]

section Body

variable {bs : Value} (equipped : Equipped (.bottom b) m)
include equipped

theorem sees_inside (c : Locals) : Sees (inside c m).scopes m.nextScope m.nextScope c.bindings :=
  sees_body equipped.outermost _

/-- The program is put together. -/
theorem exec_program {tree : Json} (spells : Spells m [] (.object q) tree) :
    Comes b host (tree.height + 13) (·.exec (bodyFrame m.nextScope) (.vars [(codeName, some programExpr)]))
      (inside { c with bs := .object q } m) w (some (.ok .normal),
        inside { c with bs := .object q, code := .string (program (tree.write [] []) c.src) }
          (m.grown (holding (.object q))), w) := by
  have sees := sees_inside equipped { c with bs := .object q }
  have within : m.Within (inside { c with bs := .object q } m) := fun _ _ => rfl
  have spells' : Spells _ ([] ++ []) (.object q) tree := spells.kept (by simp) within
  exact exec_var (eval_program sees (equipped.opened _) spells') fun e _ =>
    write_inside (m := m.grown _) equipped.outermost (by decide) rfl _ _

/-- The program is evaluated, and the answer kept. -/
theorem exec_sandbox {s : Utf16} {t : Text}
    (answered : host (.call "sandbox" (crossing [s])) w = (.value (.text t), u)) :
    Comes b host (k + 5) (·.exec (bodyFrame m.nextScope)
        (.vars [(resultName, some (.call (.name "sandbox") [.name codeName]))]))
      (inside { c with code := .string s } m) w (some (.ok .normal),
        inside { c with code := .string s, result := .string (Text.toUtf16 t) }
          ((m.grown (.strings [s])).grown (textReply t)), u) := by
  have sees := sees_inside equipped { c with code := .string s }
  obtain ⟨f, wr, en, conf, held, kind⟩ := equipped.evaluates
  have pristine := (equipped.opened (.names { c with code := .string s }.bindings .global)).toPristine.fewer
    (show 1 ≤ 2 by decide)
  have argument : Comes b host (k + 3) (·.evalAll (bodyFrame m.nextScope) [.name codeName])
      (inside { c with code := .string s } m) w (some (.ok [.string s]), _, w) :=
    evalAll_cons (eval_own (x := codeName) sees (by decide) rfl) evalAll_nil
  have limit : [Value.string s].length ≤ Key.indexLimit := by show 1 ≤ _; decide
  have primitive : ∀ v ∈ [Value.string s], v.ref? = none := by simp [Value.ref?]
  have called : Comes b host (k + 3) (·.call (.object f) .undefined [.string s])
      (inside { c with code := .string s } m) w (some (.ok (.string (Text.toUtf16 t))), _, u) :=
    call_host_text (m := inside { c with code := .string s } m) kind pristine limit primitive answered .undefined
  exact exec_var (eval_globalCall (m := inside { c with code := .string s } m)
    (x := "sandbox") sees (by decide) rfl held (by decide) argument called) fun e _ =>
    write_inside (m := (m.grown _).grown _) equipped.outermost (by decide) rfl _ _

/-- A text that spells a tree is taken for the reply, and its value returned. -/
theorem exec_reply {s : Utf16} {j : Json} (spelled : Json.read (Utf16.toText s) = .ok j) {u : Value}
    (made : j.toValue (inside { c with result := .string s } m) = .value u n) :
    Comes b host (k + 5) (·.exec (bodyFrame m.nextScope) parsing)
      (inside { c with result := .string s } m) w (some (.ok (.return u)), n, w) := by
  have sees := sees_inside equipped { c with result := .string s }
  have argument : Comes b host (k + 2) (·.evalAll (bodyFrame m.nextScope) [.name resultName])
      (inside { c with result := .string s } m) w (some (.ok [.string s]), _, w) :=
    evalAll_cons (eval_own (x := resultName) sees (by decide) rfl) evalAll_nil
  have parsed := eval_libraryCall (k := k + 1) sees rfl (equipped.opened _).library
    (fun _ library => library.reads) argument
    fun f this kind => call_parse kind spelled made this
  exact exec_try_return rfl (execBlock_plain (execAll_return (exec_return parsed)))

end Body

/-- The bindings and the error are put in an object. -/
theorem eval_told (sees : Sees m.scopes frame.scope r c.bindings) :
    Comes b host (k + 2) (·.eval frame (.object [.value "bs" (.name bsName), .value "error" (.name errName)])) m w
      (some (.ok (.object m.next)), m.grown (.record [("bs", c.bs), ("error", c.err)]), w) := by
  refine eval_object (fill_cons (eval_own (m := m.grown _) sees (by decide) rfl) ?_)
  rw [Machine.updated_next]
  refine fill_cons (eval_own (m := m.grown _) sees (by decide) rfl) ?_
  rw [Machine.updated_next]
  exact fill_nil

/-! ## The handler -/

/-- A machine inside of the handler. -/
def handling (thrown : Value) (c : Locals) (l : Machine) : Machine :=
  (inside c l).opened (handlerScope thrownName thrown l.nextScope)

/-- Where the handler runs. -/
def handlerFrame (l : Machine) : Frame := { bodyFrame l.nextScope with scope := ⟨l.scopes.size + 1⟩ }

section Handler

variable {bs thrown : Value} (equipped : Equipped (.bottom b) m)
include equipped

theorem sees_handling (thrown : Value) (c : Locals) :
    Sees (handling thrown c m).scopes (handlerFrame m).scope m.nextScope c.bindings := by
  have next : (inside c m).nextScope = (handlerFrame m).scope :=
    congrArg ScopeRef.mk (Array.size_push _)
  rw [← next]
  exact (sees_inside equipped c).handled thrown

theorem write_err (c : Locals) (u : Value) (e : Engine) (strict : Bool) :
    e.writeName (handlerFrame m).scope errName u strict (handling thrown c m) =
      .value () (handling thrown { c with err := u } m) := by
  obtain ⟨levels, enough, found⟩ := (sees_handling equipped thrown c).own (e := e) (x := errName) rfl (by decide) rfl
  rw [found.write enough rfl rfl, handling, Machine.rebound_opened_before, inside, Machine.rebound_opened]
  · rfl
  · show _ < (m.scopes.push _).size
    rw [Array.size_push]
    exact Nat.lt_succ_self _

variable {s : Utf16}

/-- The text that came back is that of the error. -/
theorem exec_err : Comes b host (k + 3) (·.exec (handlerFrame m)
      (.vars [(errName, some (.call (.name "String") [.name resultName]))]))
    (handling thrown { c with result := .string s } m) w
    (some (.ok .normal), handling thrown { c with result := .string s, err := .string s } m, w) := by
  have sees := sees_handling equipped thrown { c with result := .string s }
  obtain ⟨f, wr, en, conf, held, kind⟩ := equipped.converts
  have argument : Comes b host (k + 1) (·.evalAll (handlerFrame m) [.name resultName])
      (handling thrown { c with result := .string s } m) w (some (.ok [.string s]), _, w) :=
    evalAll_cons (eval_own (x := resultName) sees (by decide) rfl) evalAll_nil
  have called : Comes b host (k + 1) (·.call (.object f) .undefined [.string s])
      (handling thrown { c with result := .string s } m) w (some (.ok (.string s)), _, w) :=
    call_string (m := handling thrown { c with result := .string s } m) kind .undefined s
  exact exec_var (eval_globalCall (m := handling thrown { c with result := .string s } m)
    (x := "String") sees (by decide) rfl held
    (by decide) argument called) fun e _ => write_err equipped _ _ e _

/-- The texts of the line that is printed. -/
def line (s : Utf16) : List Utf16 := [Utf16.ofString "sandboxedAction error", s]

/-- The error is printed. -/
theorem exec_print (answered : host (.call "print" (crossing (line s))) w = (.nothing, u)) :
    Comes b host (k + 5) (·.exec (handlerFrame m)
        (.expression (.call (.name "print") [text "sandboxedAction error", .name errName])))
      (handling thrown { c with err := .string s } m) w (some (.ok .normal),
        handling thrown { c with err := .string s } ((m.grown (.strings (line s))).grown (.record [])), u) := by
  have sees := sees_handling equipped thrown { c with err := .string s }
  obtain ⟨f, wr, en, conf, held, kind⟩ := equipped.prints
  have equipped' : Equipped (.bottom b) (handling thrown { c with err := .string s } m) :=
    (equipped.opened _).opened _
  have arguments : Comes b host (k + 3) (·.evalAll (handlerFrame m) [text "sandboxedAction error", .name errName])
      (handling thrown { c with err := .string s } m) w (some (.ok ((line s).map .string)), _, w) :=
    evalAll_cons (eval_constant _ _ _)
      (evalAll_cons (eval_own (x := errName) sees (by decide) rfl) evalAll_nil)
  have limit : ((line s).map Value.string).length ≤ Key.indexLimit := by show 2 ≤ _; decide
  have primitive : ∀ v ∈ (line s).map Value.string, v.ref? = none := by simp [line, Value.ref?]
  have called : Comes b host (k + 3) (·.call (.object f) .undefined ((line s).map .string))
      (handling thrown { c with err := .string s } m) w (some (.ok .undefined), _, u) :=
    call_host_nothing (m := handling thrown { c with err := .string s } m) kind equipped'.toPristine limit primitive
        answered .undefined
  exact exec_expression rfl (eval_globalCall (m := handling thrown { c with err := .string s } m) (x := "print") sees
    (by decide) rfl held (by decide) arguments called)

/-- The error becomes a property of the bindings. -/
theorem exec_error {es : List (Utf16 × Json)} (spells : Spells m [] (.object q) (.object es)) :
    Comes b host (k + 3) (·.exec (handlerFrame m)
        (.expression (.assign (.member (.name bsName) (text "error")) (.name errName))))
      (handling thrown { c with bs := .object q, err := .string s } m) w (some (.ok .normal),
        (handling thrown { c with bs := .object q, err := .string s } m).updated q
        (Obj.put "error" (.plain (.string s))), w) := by
  have sees := sees_handling equipped thrown { c with bs := .object q, err := .string s }
  have equipped' : Equipped (.bottom b) (handling thrown { c with bs := .object q, err := .string s } m) :=
    (equipped.opened _).opened _
  have key : ("error" : Key) = .name (Utf16.ofString "error") := by decide +kernel
  refine exec_expression rfl (eval_assignMember (eval_own (x := bsName) sees (by decide) rfl)
    (eval_own (x := errName) sees (by decide) rfl) fun e bindings => ?_)
  have within : m.Within (handling thrown { c with bs := .object q, err := .string s } m) := fun _ _ => rfl
  have spells' : Spells _ ([] ++ []) (.object q) (.object es) := spells.kept (by simp) within
  have intact := equipped'.toIntact.of_bindings bindings
  cases spells' with
  | object _ other plain all =>
    exact put_plain intact other plain all (key ▸ intact.noError) (.string s) false

end Handler

/-! ## The call -/

/-- The machine that is left when an error was told: the bindings have it, and the newest object tells both. -/
def told (q : Ref) (s : Utf16) (l : Machine) : Machine :=
  (l.updated q (Obj.put "error" (.plain (.string s)))).grown
    (.record [("bs", .object q), ("error", .string s)])

/-- What the handler comes to. -/
theorem handler_comes {t : Value} {s : Utf16} (equipped : Equipped (.bottom b) m) {es : List (Utf16 × Json)}
    (spells : Spells m [] (.object q) (.object es))
    (answered : host (.call "print" (crossing (line s))) w = (.nothing, u)) :
    let n := handling t { c with bs := .object q, result := .string s, err := .string s }
      ((m.grown (.strings (line s))).grown (.record []))
    Comes b host (k + 5) (·.execAll (handlerFrame m) handler)
      (handling t { c with bs := .object q, result := .string s } m) w
      (some (.ok (.return (.object n.next))), told q s n, u) := by
  have equipped' := (equipped.grown (.strings (line s))).grown (.record [])
  have extended : m.Extends ((m.grown (.strings (line s))).grown (.record [])) :=
    (Machine.extends_grown _ _).trans (Machine.extends_grown _ _)
  have spells' : Spells _ ([] ++ []) (.object q) (.object es) := spells.kept (by simp) extended.within
  have next : ∀ (f : Obj → Obj) (l : Machine), (l.updated q f).next = l.next := fun f l =>
    congrArg Ref.mk (Machine.updated_size f l)
  let n := (handling t { c with bs := .object q, result := .string s, err := .string s }
    ((m.grown (.strings (line s))).grown (.record []))).updated q (Obj.put "error" (.plain (.string s)))
  have returned : Comes b host (k + 3) (·.exec (handlerFrame m) _) n u (some (.ok (.return (.object n.next))), _, u) :=
    exec_return (eval_told (sees_handling equipped t { c with bs := .object q, result := .string s, err := .string s }))
  rw [next] at returned
  refine execAll_cons (exec_err (k := k + 2) (c := { c with bs := .object q }) equipped) ?_
  refine execAll_cons (exec_print (c := { c with bs := .object q, result := .string s }) equipped answered) ?_
  refine execAll_cons (exec_error (k := k + 2) (c := { c with result := .string s }) equipped' spells') ?_
  exact execAll_return (returned.deeper (by omega))

/-- A text that spells no tree is told as an error. -/
theorem exec_told {s : Utf16} {complaint : Text} (equipped : Equipped (.bottom b) m) {es : List (Utf16 × Json)}
    (spells : Spells m [] (.object q) (.object es)) (refused : Json.read (Utf16.toText s) = .error complaint)
    (answered : host (.call "print" (crossing (line s))) w = (.nothing, u)) :
    let n := handling (.object m.next) { c with bs := .object q, result := .string s, err := .string s }
      (((m.grown (.failure .syntaxError complaint)).grown (.strings (line s))).grown (.record []))
    Comes b host (k + 6) (·.exec (bodyFrame m.nextScope) parsing)
      (inside { c with bs := .object q, result := .string s } m) w
      (some (.ok (.return (.object n.next))), told q s n, u) := by
  have sees := sees_inside equipped { c with bs := .object q, result := .string s }
  have argument : Comes b host (k + 3) (·.evalAll (bodyFrame m.nextScope) [.name resultName])
      (inside { c with bs := .object q, result := .string s } m) w (some (.ok [.string s]), _, w) :=
    evalAll_cons (eval_own (x := resultName) sees (by decide) rfl) evalAll_nil
  have parsed := eval_libraryCall (k := k + 2) sees rfl (equipped.opened _).library
    (fun _ library => library.reads) argument
    fun f this kind => call_parse_error kind refused this
  let l := m.grown (.failure .syntaxError complaint)
  have extended : m.Extends l := Machine.extends_grown _ m
  have spells' : Spells l ([] ++ []) (.object q) (.object es) := spells.kept (by simp) extended.within
  have handled := handler_comes (k := k) (t := .object m.next) (c := c)
    (equipped.grown (.failure .syntaxError complaint)) spells' answered
  have next : (inside { c with bs := .object q, result := .string s } l).nextScope = (handlerFrame l).scope :=
    congrArg ScopeRef.mk (Array.size_push _)
  have frame : handlerFrame l = { bodyFrame m.nextScope with
      scope := (inside { c with bs := .object q, result := .string s } l).nextScope } := by
    rw [next]
    rfl
  rw [frame] at handled
  exact exec_try_error rfl (execBlock_plain (execAll_error (exec_return_error parsed)))
    handled

end Statements

/-- The machine on which the answer `t` to the program `p` has come back. -/
def replied (q : Ref) (p : Utf16) (t : Text) (m : Machine) : Machine :=
  ((m.grown (holding (.object q))).grown (.strings [p])).grown (textReply t)

theorem extends_replied (q : Ref) (p : Utf16) (t : Text) (m : Machine) : m.Extends (replied q p t m) :=
  ((Machine.extends_grown _ _).trans (Machine.extends_grown _ _)).trans (Machine.extends_grown _ _)

/-- What the names of a call stand for then. -/
def answered (q : Ref) (p src : Utf16) (t : Text) : Locals where
  bs := .object q
  src := src
  code := .string p
  result := .string (Text.toUtf16 t)

section Call

variable {b : List (Key × Ref)} {f : Ref} {code : Code} {q : Ref} {es : List (Utf16 × Json)}
  (equipped : Equipped (.bottom b) m) (kind : (m.object f).kind = .closure code .global)
  (action : isAction code = true) (spells : Spells m [] (.object q) (.object es)) (src : Utf16)
include equipped kind action spells

/-- A call on the function puts the program together, has it answered, and ends as its last statement does. -/
theorem call_comes {σ : Type} {host : Script.Host σ} {w u x : σ} {t : Text} {v : Value}
    (reply : host (.call "sandbox" (crossing [program ((Json.object es).write [] []) src])) w = (.value (.text t), u))
    (ended : Comes b host ((Json.object es).height + 13) (·.exec (bodyFrame m.nextScope) parsing)
      (inside (answered q (program ((Json.object es).write [] []) src) src t)
        (replied q (program ((Json.object es).write [] []) src) t m)) u (some (.ok (.return v)), n, x)) :
    Comes b host ((Json.object es).height + 14) (·.call (.object f) .undefined [.object q, .string src]) m w
      (some (.ok v), n, x) := by
  obtain ⟨simple, body, bound⟩ := simple_of_isAction action
  refine call_closure kind simple ?_
  rw [body, bound]
  have given : Comes b host ((Json.object es).height + 12) (·.eval (bodyFrame m.nextScope) (.unary .not (.name bsName)))
      (inside { bs := .object q, src := src } m) w (some (.ok (.bool false)), _, w) :=
    eval_not (eval_own (v := .object q) (x := bsName) (sees_inside equipped _) (by decide) rfl)
  refine execAll_cons (exec_if_not rfl given rfl) ?_
  refine execAll_cons (exec_program (c := { bs := .object q, src := src }) equipped spells) ?_
  refine execAll_cons (exec_sandbox (k := (Json.object es).height + 8) (c := { bs := .object q, src := src })
    (equipped.grown _) reply) ?_
  exact execAll_return ended

end Call

end ScriptHost.Session.Action
