/-
Reading tokens: what the single steps of a reader do where the next tokens are known, and when an expression is read
that ends before a mark that nothing goes on with.
-/
import ScriptHost.Script.Grammar.Statement
import Mathlib.Data.List.Basic

namespace ScriptHost.Script

variable {α β : Type}

/-! ## Tokens -/

namespace Token

variable {t : Token} {s : String}

/-- A token is one mark or word at most. -/
theorem is_of_is (h : t.is s = true) (s' : String) : t.is s' = (s == s') := by
  unfold Token.is at h ⊢
  split at h
  · rw [beq_iff_eq.mp h]
  · rw [beq_iff_eq.mp h]
  · cases h

/-- The marks that no expression goes on with. -/
def closers : List String := [",", ";", ")", "]", "\x7d", ":"]

/-- No expression goes on with a token. -/
def Closes (t : Token) : Prop := ∃ s ∈ closers, t.is s = true

/-- A token that closes is no other mark. -/
theorem Closes.is_eq_false (h : t.Closes) (other : s ∉ closers) : t.is s = false := by
  obtain ⟨s', among, is⟩ := h
  rw [is_of_is is, beq_eq_false_iff_ne]
  rintro rfl
  exact other among

/-- The marks and words before an operand. -/
def openers : List String := ["!", "-", "+", "~", "void", "typeof", "++", "--", "delete", "new"]

/-- An operand begins with a token. -/
def Begins (t : Token) : Prop := ∀ s ∈ openers, t.is s = false

theorem begins_of_is (h : t.is s = true) (other : s ∉ openers) : t.Begins := fun s' among => by
  rw [is_of_is h, beq_eq_false_iff_ne]
  rintro rfl
  exact other among

end Token

/-! ## Steps -/

/-- A reading at other tokens. -/
def Reading.at (r : Reading) (ts : List Token) : Reading := { r with tokens := ts }

/-- The next token is no complaint. -/
def Fine (ts : List Token) : Prop := ∀ complaint, (ts.headD default).lexeme ≠ .bad complaint

namespace Parse

variable {r s : Reading} {p : Parse α} {a : α} {t : Token} {ts : List Token} {m : String}

/-- A reader that yields something is followed by what is read with that. -/
theorem bind_ok {f : α → Parse β} (h : p r = .ok (a, s)) : (p >>= f) r = f a s := by
  show (p r >>= fun x => f x.1 x.2) = _
  rw [h]
  rfl

theorem peek_at : peek (r.at (t :: ts)) = .ok (t, r.at (t :: ts)) := rfl

theorem sees_at : sees m (r.at (t :: ts)) = .ok (t.is m, r.at (t :: ts)) := rfl

/-- The next token becomes the first one, if it is not one that can not be read. -/
theorem advance_at (fine : Fine ts) : advance (r.at (t :: ts)) = .ok ((), r.at ts) := by
  unfold advance
  dsimp only
  split
  · next bad => exact absurd bad (fine _)
  · rfl

/-- A mark that is there is passed, -/
theorem accept_at (is : t.is m = true) (fine : Fine ts) : accept m (r.at (t :: ts)) = .ok (true, r.at ts) := by
  unfold accept
  rw [bind_ok sees_at, is, if_pos rfl, bind_ok (advance_at fine)]
  rfl

/-- and otherwise everything is left where it is. -/
theorem accept_other (other : t.is m = false) : accept m (r.at (t :: ts)) = .ok (false, r.at (t :: ts)) := by
  unfold accept
  rw [bind_ok sees_at, other]
  rfl

theorem expect_at (is : t.is m = true) (fine : Fine ts) : expect m (r.at (t :: ts)) = .ok ((), r.at ts) := by
  unfold expect
  rw [bind_ok sees_at, is, if_pos rfl, advance_at fine]

theorem endStatement_at (is : t.is ";" = true) (fine : Fine ts) :
    endStatement (r.at (t :: ts)) = .ok ((), r.at ts) := by
  unfold endStatement
  rw [bind_ok peek_at, if_pos is, advance_at fine]

/-! ### Loops -/

section Loops

variable {step : α → Parse (Sum α β)} {b : β} {n : Nat}

/-- Turns end with the one that says so, -/
theorem iterateUpTo_done (stepped : step a r = .ok (.inr b, s)) : iterateUpTo step (n + 1) a r = .ok (b, s) := by
  rw [iterateUpTo, bind_ok stepped]
  rfl

/-- and go on behind each other one. -/
theorem iterateUpTo_next {x : α} (stepped : step a r = .ok (.inl x, s)) :
    iterateUpTo step (n + 1) a r = iterateUpTo step n x s := by
  rw [iterateUpTo, bind_ok stepped]

theorem iterate_apply : iterate a step r = iterateUpTo step r.budget a r := rfl

/-- A loop of which the first turn is the last. -/
theorem iterate_done (some : 0 < r.budget) (stepped : step a r = .ok (.inr b, s)) : iterate a step r = .ok (b, s) := by
  obtain ⟨n, budget⟩ := Nat.exists_eq_add_of_lt some
  rw [iterate_apply, budget, Nat.zero_add, iterateUpTo_done stepped]

end Loops

end Parse

/-! ## Expressions up to a mark -/

namespace Grammar

open Parse

variable {g : Grammar} {c : Context} {r s : Reading} {e : Expr} {t u : Token} {ts us : List Token}

/-- There are no members and no calls before a token that closes. -/
theorem suffixes_closed (some : 0 < r.budget) (closes : t.Closes) (calls : Bool) :
    suffixes g c calls e (r.at (t :: ts)) = .ok (e, r.at (t :: ts)) := by
  have other : ∀ {m : String}, m ∉ Token.closers → accept m (r.at (t :: ts)) = .ok (false, r.at (t :: ts)) :=
    fun apart =>
    accept_other (closes.is_eq_false apart)
  refine iterate_done some ?_
  cases calls with
  | false =>
    rw [if_neg (by decide), pure_bind]
    dsimp only
    rw [if_neg (by decide), bind_ok (other (by decide)), if_neg (by decide),
      bind_ok (other (by decide))]
    rfl
  | true =>
    rw [if_pos rfl, bind_ok (other (by decide))]
    dsimp only
    rw [if_neg (by decide), bind_ok (other (by decide)), if_neg (by decide),
      bind_ok (other (by decide))]
    rfl

/-- What is no `new` expression is a primary one with what follows it. -/
theorem leftHandSide_of_primary (some : 0 < r.budget) (begins : t.Begins)
    (read : primary g c (r.at (t :: ts)) = .ok (e, s)) : leftHandSide g c (r.at (t :: ts)) = suffixes g c true e s := by
  obtain ⟨n, budget⟩ := Nat.exists_eq_add_of_lt some
  have member : memberExpression g c r.budget (r.at (t :: ts)) = .ok (e, s) := by
    rw [budget, Nat.zero_add, memberExpression, bind_ok (accept_other (begins _ (by decide)))]
    exact read
  show (memberExpression g c r.budget >>= fun e => suffixes g c true e) (r.at (t :: ts)) = _
  rw [bind_ok member]

section Closed

variable (closes : u.Closes)
include closes

/-- Without an operator in front, behind, or to a power, an operand is a left-hand side. -/
theorem unary_closed (begins : t.Begins) (read : leftHandSide g c (r.at (t :: ts)) = .ok (e, s.at (u :: us)))
    (power : Power) :
    unaryExpression g c power (r.at (t :: ts)) = .ok (e, s.at (u :: us)) := by
  have op : unaryOp? t = none := by
    simp [unaryOp?, begins "!" (by decide), begins "-" (by decide), begins "+" (by decide), begins "~" (by decide),
      begins "void" (by decide), begins "typeof" (by decide)]
  have step : step? t = none ∧ step? u = none := by
    simp [step?, begins "++" (by decide), begins "--" (by decide), closes.is_eq_false (s := "++") (by decide),
      closes.is_eq_false (s := "--") (by decide)]
  have postfixed : postfixExpression g c (r.at (t :: ts)) = .ok (e, s.at (u :: us)) := by
    rw [postfixExpression, bind_ok read, bind_ok peek_at, step.2]
    rfl
  have powered : powerExpression g c power e (s.at (u :: us)) = .ok (e, s.at (u :: us)) := by
    unfold powerExpression
    rw [bind_ok sees_at, closes.is_eq_false (by decide)]
    rfl
  rw [unaryExpression, bind_ok peek_at, op, step.1]
  dsimp only
  rw [if_neg (by simp [begins "delete" (by decide)]), bind_ok postfixed, powered]

variable (some : 0 < s.budget)
include some

/-- Where no operator of any level follows, there is one operand only. -/
theorem binary_closed (read : unaryExpression g c .taken r = .ok (e, s.at (u :: us))) :
    ∀ levels : List (List (String × BinaryOp)), (∀ ops ∈ levels, ∀ p ∈ ops, p.1 ∉ Token.closers) →
      binaryExpression g c levels r = .ok (e, s.at (u :: us))
  | [], _ => read
  | ops :: stronger, apart => by
    have none : operator? c ops u = none := by
      rw [operator?, List.find?_eq_none.mpr]
      rintro ⟨s, op⟩ among
      simp [closes.is_eq_false (apart ops List.mem_cons_self _ among)]
    rw [binaryExpression, bind_ok (binary_closed read stronger fun ops among =>
      apart ops (List.mem_cons_of_mem _ among))]
    refine iterate_done some ?_
    rw [bind_ok peek_at, none]
    rfl

/-- An operand before a mark that nothing goes on with is the whole expression. -/
theorem assignment_of_unary (read : unaryExpression g c .taken r = .ok (e, s.at (u :: us))) :
    assignmentExpression g c r = .ok (e, s.at (u :: us)) := by
  have other : ∀ {m : String}, m ∉ Token.closers → accept m (s.at (u :: us)) = .ok (false, s.at (u :: us)) :=
    fun apart =>
    accept_other (closes.is_eq_false apart)
  have binary := binary_closed closes some read weakestFirst (by decide)
  have conjoined : conjunction g c r = .ok (e, s.at (u :: us)) := by
    rw [conjunction, bind_ok binary]
    refine iterate_done some ?_
    rw [bind_ok (other (by decide))]
    rfl
  have disjoined : disjunction g c r = .ok (e, s.at (u :: us)) := by
    rw [disjunction, bind_ok conjoined]
    refine iterate_done some ?_
    rw [bind_ok (other (by decide))]
    rfl
  have chosen : conditional g c r = .ok (e, s.at (u :: us)) := by
    rw [conditional, bind_ok disjoined, bind_ok (other (by decide))]
    rfl
  have none : operator? { c with allowIn := true } assigningMarks u = none := by
    have apart : ∀ p ∈ assigningMarks, p.1 ∉ Token.closers := by decide
    rw [operator?, List.find?_eq_none.mpr]
    rintro ⟨s, op⟩ among
    simp [closes.is_eq_false (apart _ among)]
  rw [assignmentExpression, bind_ok chosen, bind_ok peek_at,
    if_neg (by simp [closes.is_eq_false (s := "=") (by decide)]), none]
  rfl

/-- So a left-hand side before a token that closes is the whole of an assignment expression. -/
theorem assignment_of_leftHandSide (begins : t.Begins)
    (read : leftHandSide g c (r.at (t :: ts)) = .ok (e, s.at (u :: us))) :
    assignmentExpression g c (r.at (t :: ts)) = .ok (e, s.at (u :: us)) :=
  assignment_of_unary closes some (unary_closed closes begins read .taken)

end Closed

theorem expression_of_assignment (some : 0 < s.budget) (read : g.assignment c r = .ok (e, s.at (u :: us)))
    (apart : u.is "," = false) :
    expression g c r = .ok (e, s.at (u :: us)) := by
  rw [expression, bind_ok read]
  refine iterate_done some ?_
  rw [bind_ok (accept_other apart)]
  rfl

end Grammar

end ScriptHost.Script
