/-
Programs, form by form. What an expression or a statement comes to follows from what its parts come to,
on every engine of enough levels: an engine whose parts come to something on `k` levels brings what they
are parts of to its end on one level more.
-/
import ScriptHost.Proofs.Script.Ended
import ScriptHost.Proofs.Script.HostCall

namespace ScriptHost.Script

variable {α β σ : Type}

namespace Machine

/-- A machine with one more scope. -/
def opened (s : Scope) (m : Machine) : Machine := { m with scopes := m.scopes.push s }

/-- The reference of the next scope. -/
def nextScope (m : Machine) : ScopeRef := ⟨m.scopes.size⟩

end Machine

namespace Engine

/-- On every engine with these functions of the host and at least `k` levels, `x` ends so. -/
def Comes (b : List (Key × Ref)) (host : Host σ) (k : Nat) (x : Engine → Run α)
    (m : Machine) (w : σ) (out : Option (Except Value α) × Machine × σ) : Prop :=
  ∀ d, k ≤ d → (x (ofDepth b d) m).ended host w = out

section Steps

variable {b : List (Key × Ref)} {host : Host σ} {k : Nat} {m n l : Machine} {w u x : σ}
  {frame : Frame}

namespace Comes

variable {out : Option (Except Value β) × Machine × σ}

/-- What ends in one step, by what engines with these functions of the host have in common. -/
theorem of_value {f : Engine → Run α} {a : α} (h : ∀ e : Engine, e.bindings = b → f e m = .value a n) :
    Comes b host k f m w (some (.ok a), n, w) := by
  intro d _
  rw [h _ (ofDepth_bindings b d)]
  rfl

/-- More levels change nothing. -/
theorem deeper {f : Engine → Run α} {out : Option (Except Value α) × Machine × σ} {l : Nat}
    (h : Comes b host k f m w out) (le : k ≤ l) : Comes b host l f m w out := fun d hd => h d (Nat.le_trans le hd)

/-- What comes to a value is followed by what comes of that value, -/
theorem bind {f : Engine → Run α} {g : Engine → α → Run β} {a : α}
    (first : Comes b host k f m w (some (.ok a), n, u)) (rest : Comes b host k (g · a) n u out) :
    Comes b host k (fun e => f e >>= g e) m w out := fun d hd =>
  (Run.ended_bind _ (first d hd)).trans (rest d hd)

/-- and what throws by nothing. -/
theorem bind_error {f : Engine → Run α} {g : Engine → α → Run β} {v : Value}
    (first : Comes b host k f m w (some (.error v), n, u)) :
    Comes b host k (fun e => f e >>= g e) m w (some (.error v), n, u) := fun d hd =>
  Run.ended_bind_error _ (first d hd)

end Comes

/-! ## One level up -/

/-- An evaluation takes one level more than what it does with the expression. -/
theorem comes_eval {e : Expr} {out : Option (Except Value Value) × Machine × σ}
    (h : Comes b host k (·.evalExpr frame e) m w out) : Comes b host (k + 1) (·.eval frame e) m w out := by
  rintro (_ | d) hd
  · cases hd
  · exact h d (Nat.le_of_succ_le_succ hd)

theorem comes_exec {s : Stmt} {out : Option (Except Value Completion) × Machine × σ}
    (h : Comes b host k (·.execStmt frame s) m w out) : Comes b host (k + 1) (·.exec frame s) m w out := by
  rintro (_ | d) hd
  · cases hd
  · exact h d (Nat.le_of_succ_le_succ hd)

theorem comes_call {f this : Value} {args : List Value} {out : Option (Except Value Value) × Machine × σ}
    (h : Comes b host k (·.callValue f this args) m w out) : Comes b host (k + 1) (·.call f this args) m w out := by
  rintro (_ | d) hd
  · cases hd
  · exact h d (Nat.le_of_succ_le_succ hd)

/-! ## Expressions -/

theorem eval_constant (v : Primitive) (m : Machine) (w : σ) :
    Comes b host (k + 1) (·.eval frame (.constant v)) m w (some (.ok v.value), m, w) :=
  comes_eval (.of_value fun _ _ => rfl)

/-- A name stands for what is found under it. -/
theorem eval_name {n : Utf16} {v : Value}
    (found : ∀ e : Engine, e.bindings = b → e.readName frame.scope n m = .value v m) :
    Comes b host (k + 1) (·.eval frame (.name n)) m w (some (.ok v), m, w) :=
  comes_eval (.of_value found)

theorem eval_not {e : Expr} {v : Value} (operand : Comes b host k (·.eval frame e) m w (some (.ok v), n, u)) :
    Comes b host (k + 1) (·.eval frame (.unary .not e)) m w (some (.ok (.bool (!v.truthy))), n, u) :=
  comes_eval (operand.bind (.of_value fun _ _ => rfl))

/-- Two strings are put together. -/
theorem eval_join {e d : Expr} {s t : Utf16} (left : Comes b host k (·.eval frame e) m w (some (.ok (.string s)), n, u))
    (right : Comes b host k (·.eval frame d) n u (some (.ok (.string t)), l, x)) :
    Comes b host (k + 1) (·.eval frame (.binary .add e d)) m w (some (.ok (.string (s ++ t))), l, x) :=
  comes_eval (left.bind (right.bind (.of_value fun _ _ => rfl)))

theorem evalAll_nil : Comes b host k (·.evalAll frame []) m w (some (.ok []), m, w) := .of_value fun _ _ => rfl

/-- Operands are evaluated in their order. -/
theorem evalAll_cons {e : Expr} {es : List Expr} {v : Value} {vs : List Value}
    (first : Comes b host k (·.eval frame e) m w (some (.ok v), n, u))
    (rest : Comes b host k (·.evalAll frame es) n u (some (.ok vs), l, x)) :
    Comes b host k (·.evalAll frame (e :: es)) m w (some (.ok (v :: vs)), l, x) :=
  first.bind (rest.bind (.of_value fun _ _ => rfl))

theorem isEval_apply (f : Value) (m : Machine) : ∃ special, isEval f m = .value special m := by
  rcases f with _ | _ | _ | _ | _ | r
  case object =>
    rw [isEval, Run.bind_apply, Run.object_apply, Result.follow_value]
    generalize (m.object r).kind = kind
    split <;> exact ⟨_, rfl⟩
  all_goals exact ⟨false, rfl⟩

/-- A call of a function under a global name. -/
theorem eval_callName {f : Utf16} {args : List Expr} {v : Value} {vs : List Value}
    {out : Option (Except Value Value) × Machine × σ} (other : f ≠ Utf16.ofString "eval")
    (held : ∀ e : Engine, e.bindings = b → e.holder frame.scope f m = .value (.property .global) m)
    (read : ∀ e : Engine, e.bindings = b → e.get (.object .global) (.ofUnits f) m = .value v m)
    (arguments : Comes b host k (·.evalAll frame args) m w (some (.ok vs), n, u))
    (called : Comes b host k (·.call v .undefined vs) n u out) :
    Comes b host (k + 1) (·.eval frame (.call (.name f) args)) m w out := by
  refine comes_eval ?_
  show Comes b host k (·.callName frame f args) m w out
  obtain ⟨special, asked⟩ := isEval_apply v n
  refine .bind (.of_value held) (.bind (.of_value read) (arguments.bind (.bind (.of_value fun _ _ => asked) ?_)))
  intro d hd
  dsimp only
  rw [if_neg (fun both => other both.1), if_pos rfl]
  exact called d hd

/-- A member of an object. -/
theorem eval_member {object : Expr} {key : Utf16} {o v : Value}
    (target : Comes b host k (·.eval frame object) m w (some (.ok o), n, u))
    (found : ∀ e : Engine, e.bindings = b → e.get o (.ofUnits key) n = .value v n) :
    Comes b host (k + 1) (·.eval frame (.member object (.constant (.string key)))) m w (some (.ok v), n, u) :=
  comes_eval (target.bind (.of_value found))

/-- A call of a member of an object. -/
theorem eval_callMember {object : Expr} {key : Utf16} {args : List Expr} {o f : Value} {vs : List Value}
    {m' : Machine} {w' : σ} {out : Option (Except Value Value) × Machine × σ}
    (receiver : Comes b host (k + 1) (·.eval frame object) m w (some (.ok o), n, u))
    (found : ∀ e : Engine, e.bindings = b → e.get o (.ofUnits key) n = .value f n)
    (arguments : Comes b host (k + 1) (·.evalAll frame args) n u (some (.ok vs), m', w'))
    (called : Comes b host (k + 1) (·.call f o vs) m' w' out) :
    Comes b host (k + 2) (·.eval frame (.call (.member object (.constant (.string key))) args)) m w out := by
  refine comes_eval ?_
  show Comes b host (k + 1) (·.callMember frame object (.constant (.string key)) args) m w out
  refine receiver.bind (.bind (eval_constant _ _ _) ?_)
  exact .bind (.of_value fun _ _ => rfl) (.bind (.of_value found) (arguments.bind called))

/-- An assignment to a member of an object. -/
theorem eval_assignMember {object value : Expr} {key : Utf16} {o v : Value} {m' : Machine} {w' : σ}
    (target : Comes b host (k + 1) (·.eval frame object) m w (some (.ok o), n, u))
    (given : Comes b host (k + 1) (·.eval frame value) n u (some (.ok v), m', w'))
    (assigned : ∀ e : Engine, e.bindings = b → e.put o (.ofUnits key) v frame.strict m' = .value () l) :
    Comes b host (k + 2) (·.eval frame (.assign (.member object (.constant (.string key))) value)) m w
      (some (.ok v), l, w') := by
  refine comes_eval ?_
  show Comes b host (k + 1) (·.evalAssign frame (.member object (.constant (.string key))) value) m w _
  refine target.bind (.bind (eval_constant _ _ _) (given.bind ?_))
  exact .bind (.of_value fun _ _ => rfl) (.bind (.of_value assigned) (.of_value fun _ _ => rfl))

/-! ### Objects -/

theorem fill_nil {r : Ref} : Comes b host k (fun e => ([] : List Entry).forM (e.evalEntry frame r)) m w
    (some (.ok ⟨⟩), m, w) := .of_value fun _ _ => rfl

/-- An entry with a value is put on the object before the entries behind it are. -/
theorem fill_cons {r : Ref} {key : Key} {e : Expr} {entries : List Entry} {v : Value}
    {out : Option (Except Value PUnit) × Machine × σ} (value : Comes b host k (·.eval frame e) m w (some (.ok v), n, u))
    (rest : Comes b host k (fun d => entries.forM (d.evalEntry frame r)) (n.updated r (Obj.put key (.plain v))) u out) :
    Comes b host k (fun d => (Entry.value key e :: entries).forM (d.evalEntry frame r)) m w out :=
  .bind (value.bind (.of_value fun _ _ => rfl)) rest

/-- An object is made, and gets its properties one by one. -/
theorem eval_object {entries : List Entry}
    (filled : Comes b host k (fun e => entries.forM (e.evalEntry frame m.next)) (m.grown (.record [])) w
      (some (.ok ⟨⟩), n, u)) :
    Comes b host (k + 1) (·.eval frame (.object entries)) m w (some (.ok (.object m.next)), n, u) :=
  comes_eval (.bind (.of_value fun _ _ => rfl) (filled.bind (.of_value fun _ _ => rfl)))

/-! ## Statements -/

/-- A variable with a start is written what that comes to. -/
theorem exec_var {name : Utf16} {e : Expr} {v : Value}
    (value : Comes b host k (·.eval frame e) m w (some (.ok v), n, u))
    (written : ∀ e : Engine, e.bindings = b → e.writeName frame.scope name v frame.strict n = .value () l) :
    Comes b host (k + 1) (·.exec frame (.vars [(name, some e)])) m w (some (.ok .normal), l, u) := by
  refine comes_exec ?_
  show Comes b host k (·.execVars frame [(name, some e)]) m w _
  refine .bind (.bind (value.bind (.of_value written)) (.of_value fun _ _ => rfl)) (.of_value fun _ _ => rfl)

theorem exec_expression (keeps : frame.keeps = false) {e : Expr} {v : Value}
    (value : Comes b host k (·.eval frame e) m w (some (.ok v), n, u)) :
    Comes b host (k + 1) (·.exec frame (.expression e)) m w (some (.ok .normal), n, u) := by
  refine comes_exec (value.bind (.bind (a := ()) (.of_value fun _ _ => ?_) (.of_value fun _ _ => rfl)))
  rw [keepResult, keeps]
  rfl

/-- A statement that returns ends the body with what its expression comes to, -/
theorem exec_return {e : Expr} {v : Value} (value : Comes b host k (·.eval frame e) m w (some (.ok v), n, u)) :
    Comes b host (k + 1) (·.exec frame (.return (some e))) m w (some (.ok (.return v)), n, u) :=
  comes_exec (value.bind (.of_value fun _ _ => rfl))

/-- unless that throws. -/
theorem exec_return_error {e : Expr} {v : Value}
    (thrown : Comes b host k (·.eval frame e) m w (some (.error v), n, u)) :
    Comes b host (k + 1) (·.exec frame (.return (some e))) m w (some (.error v), n, u) :=
  comes_exec thrown.bind_error

/-- A branch that is not taken, where there is no other. -/
theorem exec_if_not (keeps : frame.keeps = false) {test : Expr} {yes : Stmt} {v : Value}
    (tested : Comes b host k (·.eval frame test) m w (some (.ok v), n, u)) (no : v.truthy = false) :
    Comes b host (k + 1) (·.exec frame (.ifElse test yes none)) m w (some (.ok .normal), n, u) := by
  refine comes_exec ?_
  show Comes b host k (·.execIf frame test yes none) m w _
  refine .bind (a := ()) (n := m) (u := w) (.of_value fun _ _ => ?_) (tested.bind ?_)
  · rw [clearResult, keepResult, keeps]
    rfl
  · intro d hd
    rw [no]
    rfl

/-- A statement that ends normally is followed by the others, -/
theorem execAll_cons {s : Stmt} {ss : List Stmt} {out : Option (Except Value Completion) × Machine × σ}
    (first : Comes b host k (·.exec frame s) m w (some (.ok .normal), n, u))
    (rest : Comes b host k (·.execAll frame ss) n u out) :
    Comes b host k (·.execAll frame (s :: ss)) m w out := first.bind rest

/-- What a statement throws, or returns with, those behind it do not see. -/
theorem execAll_return {s : Stmt} {ss : List Stmt} {v : Value}
    (first : Comes b host k (·.exec frame s) m w (some (.ok (.return v)), n, u)) :
    Comes b host k (·.execAll frame (s :: ss)) m w (some (.ok (.return v)), n, u) :=
  first.bind (.of_value fun _ _ => rfl)

/-- and one that throws is the last. -/
theorem execAll_error {s : Stmt} {ss : List Stmt} {v : Value}
    (first : Comes b host k (·.exec frame s) m w (some (.error v), n, u)) :
    Comes b host k (·.execAll frame (s :: ss)) m w (some (.error v), n, u) := first.bind_error

/-- A block that declares nothing has no scope of its own. -/
theorem execBlock_plain {ss : List Stmt} {out : Option (Except Value Completion) × Machine × σ}
    (h : Comes b host k (·.execAll frame ss) m w out) : Comes b host k (·.execBlock frame (.mk [] [] ss)) m w out :=
  .bind (.of_value fun _ _ => rfl) h

/-- The scope of a handler. -/
def handlerScope (name : Utf16) (thrown : Value) (outer : ScopeRef) : Scope :=
  .names [{ name, value := some thrown }] outer

section Try

variable (keeps : frame.keeps = false) {body : Block} {name : Utf16} {handler : List Stmt}
include keeps

/-- A body that does not throw keeps its handler from running. -/
theorem exec_try_return {v : Value}
    (ended : Comes b host k (·.execBlock frame body) m w (some (.ok (.return v)), n, u)) :
    Comes b host (k + 1) (·.exec frame (.try body (some (some name, .mk [] [] handler)) none)) m w
      (some (.ok (.return v)), n, u) := by
  refine comes_exec ?_
  show Comes b host k (·.execTry frame body (some (some name, .mk [] [] handler)) none) m w _
  refine .bind (a := ()) (n := m) (u := w) (.of_value fun _ _ => ?_) fun d hd => ?_
  · rw [clearResult, keepResult, keeps]
    rfl
  · exact Run.ended_catching _ (ended d hd)

/-- What a body throws, the handler sees under its name. -/
theorem exec_try_error {t : Value} {out : Option (Except Value Completion) × Machine × σ}
    (thrown : Comes b host k (·.execBlock frame body) m w (some (.error t), n, u))
    (handled : Comes b host k (·.execAll { frame with scope := n.nextScope } handler)
      (n.opened (handlerScope name t frame.scope)) u out) :
    Comes b host (k + 1) (·.exec frame (.try body (some (some name, .mk [] [] handler)) none)) m w out := by
  refine comes_exec ?_
  show Comes b host k (·.execTry frame body (some (some name, .mk [] [] handler)) none) m w _
  refine .bind (a := ()) (n := m) (u := w) (.of_value fun _ _ => ?_) fun d hd => ?_
  · rw [clearResult, keepResult, keeps]
    rfl
  · exact (Run.ended_catching_error _ (thrown d hd)).trans (handled d hd)

end Try

end Steps

end Engine

end ScriptHost.Script
