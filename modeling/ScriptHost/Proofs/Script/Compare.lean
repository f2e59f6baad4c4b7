/-
Trees of programs, compared part by part. The comparison knows the commonest forms, and of these strings but
no numbers; where it finds two trees the same they are equal, so that what a text is parsed to can be told by
running the comparison.
-/
import ScriptHost.Script.Tree

namespace ScriptHost.Script

mutual

/-- Whether two expressions are the same, as far as the comparison knows. -/
def Expr.same : Expr → Expr → Bool
  | .constant (.string s), y => match y with
    | .constant (.string t) => s == t
    | _ => false
  | .name m, y => match y with
    | .name n => m == n
    | _ => false
  | .array items, y => match y with
    | .array others => items.isEmpty && others.isEmpty
    | _ => false
  | .object entries, y => match y with
    | .object others => Entry.allSame entries others
    | _ => false
  | .function c, y => match y with
    | .function d => c.same d
    | _ => false
  | .member x k, y => match y with
    | .member z l => x.same z && k.same l
    | _ => false
  | .call f xs, y => match y with
    | .call g ys => f.same g && Expr.allSame xs ys
    | _ => false
  | .unary op x, y => match y with
    | .unary op' z => op == op' && x.same z
    | _ => false
  | .binary op x x', y => match y with
    | .binary op' z z' => op == op' && x.same z && x'.same z'
    | _ => false
  | .assign x x', y => match y with
    | .assign z z' => x.same z && x'.same z'
    | _ => false
  | _, _ => false
termination_by structural x => x

def Expr.allSame : List Expr → List Expr → Bool
  | [], ys => ys.isEmpty
  | x :: xs, ys => match ys with
    | y :: ys => x.same y && Expr.allSame xs ys
    | [] => false
termination_by structural x => x

def Entry.same : Entry → Entry → Bool
  | .value k x, y => match y with
    | .value l z => k == l && x.same z
    | _ => false
  | _, _ => false
termination_by structural x => x

def Entry.allSame : List Entry → List Entry → Bool
  | [], ys => ys.isEmpty
  | x :: xs, ys => match ys with
    | y :: ys => x.same y && Entry.allSame xs ys
    | [] => false
termination_by structural x => x

def Stmt.same : Stmt → Stmt → Bool
  | .expression x, y => match y with
    | .expression z => x.same z
    | _ => false
  | .vars xs, y => match y with
    | .vars ys => Stmt.varsSame xs ys
    | _ => false
  | .block b, y => match y with
    | .block c => b.same c
    | _ => false
  | .ifElse t s none, y => match y with
    | .ifElse t' s' none => t.same t' && s.same s'
    | _ => false
  | .return (some x), y => match y with
    | .return (some z) => x.same z
    | _ => false
  | .throw x, y => match y with
    | .throw z => x.same z
    | _ => false
  | .try b (some (some n, h)) none, y => match y with
    | .try b' (some (some n', h')) none => b.same b' && n == n' && h.same h'
    | _ => false
  | _, _ => false
termination_by structural x => x

def Stmt.varsSame : List (Utf16 × Option Expr) → List (Utf16 × Option Expr) → Bool
  | [], ys => ys.isEmpty
  | (n, some x) :: xs, ys => match ys with
    | (n', some y) :: ys => n == n' && x.same y && Stmt.varsSame xs ys
    | _ => false
  | _, _ => false
termination_by structural x => x

def Stmt.allSame : List Stmt → List Stmt → Bool
  | [], ys => ys.isEmpty
  | x :: xs, ys => match ys with
    | y :: ys => x.same y && Stmt.allSame xs ys
    | [] => false
termination_by structural x => x

def Block.same : Block → Block → Bool
  | .mk [] [] ss, y => match y with
    | .mk [] [] ss' => Stmt.allSame ss ss'
    | _ => false
  | _, _ => false
termination_by structural x => x

def Code.same : Code → Code → Bool
  | .mk n ps vs s o u b t, y => match y with
    | .mk n' ps' vs' s' o' u' b' t' =>
      n == n' && ps == ps' && vs == vs' && s == s' && o == o' && u == u' && b.same b' && t == t'
termination_by structural x => x

end


mutual

/-- Expressions that compare the same are the same, and so are the parts of all kinds that they have. -/
theorem Expr.eq_of_same : ∀ {x y : Expr}, x.same y = true → x = y
  | .constant (.string s), y, h => by
    cases y with
    | constant v =>
      cases v with
      | string t => rw [eq_of_beq (show (s == t) = true from h)]
      | _ => cases h
    | _ => cases h
  | .name m, y, h => by
    cases y with
    | name n => rw [eq_of_beq (show (m == n) = true from h)]
    | _ => cases h
  | .array items, y, h => by
    cases y with
    | array others =>
      obtain ⟨none, none'⟩ := Bool.and_eq_true_iff.mp (show (items.isEmpty && others.isEmpty) = true from h)
      rw [List.isEmpty_iff.mp none, List.isEmpty_iff.mp none']
    | _ => cases h
  | .object entries, y, h => by
    cases y with
    | object others => rw [Entry.eq_of_allSame h]
    | _ => cases h
  | .function c, y, h => by
    cases y with
    | function d => rw [Code.eq_of_same h]
    | _ => cases h
  | .member x k, y, h => by
    cases y with
    | member z l =>
      obtain ⟨first, second⟩ := Bool.and_eq_true_iff.mp h
      rw [Expr.eq_of_same first, Expr.eq_of_same second]
    | _ => cases h
  | .call f xs, y, h => by
    cases y with
    | call g ys =>
      obtain ⟨first, second⟩ := Bool.and_eq_true_iff.mp h
      rw [Expr.eq_of_same first, Expr.eq_of_allSame second]
    | _ => cases h
  | .unary op x, y, h => by
    cases y with
    | unary op' z =>
      obtain ⟨first, second⟩ := Bool.and_eq_true_iff.mp h
      rw [eq_of_beq first, Expr.eq_of_same second]
    | _ => cases h
  | .binary op x x', y, h => by
    cases y with
    | binary op' z z' =>
      obtain ⟨first, third⟩ := Bool.and_eq_true_iff.mp h
      obtain ⟨first, second⟩ := Bool.and_eq_true_iff.mp first
      rw [eq_of_beq first, Expr.eq_of_same second, Expr.eq_of_same third]
    | _ => cases h
  | .assign x x', y, h => by
    cases y with
    | assign z z' =>
      obtain ⟨first, second⟩ := Bool.and_eq_true_iff.mp h
      rw [Expr.eq_of_same first, Expr.eq_of_same second]
    | _ => cases h
  | .constant .undefined, _, h | .constant .null, _, h | .constant (.bool _), _, h | .constant (.number _), _, h
  | .this, _, h | .construct .., _, h | .typeOf _, _, h | .delete _, _, h
  | .update .., _, h | .logical .., _, h | .conditional .., _, h | .assignWith .., _, h | .sequence .., _,
      h => by cases h

theorem Expr.eq_of_allSame : ∀ {xs ys : List Expr}, Expr.allSame xs ys = true → xs = ys
  | [], _, h => (List.isEmpty_iff.mp h).symm
  | x :: xs, [], h => by cases h
  | x :: xs, y :: ys, h => by
    obtain ⟨first, rest⟩ := Bool.and_eq_true_iff.mp h
    rw [Expr.eq_of_same first, Expr.eq_of_allSame rest]

theorem Entry.eq_of_same : ∀ {x y : Entry}, x.same y = true → x = y
  | .value k x, y, h => by
    cases y with
    | value l z =>
      obtain ⟨first, second⟩ := Bool.and_eq_true_iff.mp h
      rw [eq_of_beq first, Expr.eq_of_same second]
    | _ => cases h
  | .getter .., _, h | .setter .., _, h | .parent _, _, h => by cases h

theorem Entry.eq_of_allSame : ∀ {xs ys : List Entry}, Entry.allSame xs ys = true → xs = ys
  | [], _, h => (List.isEmpty_iff.mp h).symm
  | x :: xs, [], h => by cases h
  | x :: xs, y :: ys, h => by
    obtain ⟨first, rest⟩ := Bool.and_eq_true_iff.mp h
    rw [Entry.eq_of_same first, Entry.eq_of_allSame rest]

/-- Statements likewise, -/
theorem Stmt.eq_of_same : ∀ {x y : Stmt}, x.same y = true → x = y
  | .expression x, y, h => by
    cases y with
    | expression z => rw [Expr.eq_of_same h]
    | _ => cases h
  | .vars xs, y, h => by
    cases y with
    | vars ys => rw [Stmt.eq_of_varsSame h]
    | _ => cases h
  | .block b, y, h => by
    cases y with
    | block c => rw [Block.eq_of_same h]
    | _ => cases h
  | .ifElse t s none, y, h => by
    unfold Stmt.same at h
    split at h
    · next t' s' =>
      obtain ⟨first, second⟩ := Bool.and_eq_true_iff.mp h
      rw [Expr.eq_of_same first, Stmt.eq_of_same second]
    · cases h
  | .return (some x), y, h => by
    unfold Stmt.same at h
    split at h
    · rw [Expr.eq_of_same h]
    · cases h
  | .throw x, y, h => by
    cases y with
    | throw z => rw [Expr.eq_of_same h]
    | _ => cases h
  | .try b (some (some n, c)) none, y, h => by
    unfold Stmt.same at h
    split at h
    · obtain ⟨first, third⟩ := Bool.and_eq_true_iff.mp h
      obtain ⟨first, second⟩ := Bool.and_eq_true_iff.mp first
      rw [Block.eq_of_same first, eq_of_beq second, Block.eq_of_same third]
    · cases h
  | .discarded _, _, h | .lexicals _, _, h | .innerFunction _, _, h | .empty, _, h | .ifElse _ _ (some _), _, h
  | .whileDo .., _, h | .doWhile .., _, h | .forLoop .., _, h | .forIn .., _, h | .switch .., _, h | .labelled .., _, h
  | .break _, _, h | .continue _, _, h | .return none, _, h | .try _ none _, _, h | .try _ (some (none, _)) _, _, h
  | .try _ (some (some _, _)) (some _), _, h | .with .., _, h => by cases h

theorem Stmt.eq_of_varsSame : ∀ {xs ys : List (Utf16 × Option Expr)}, Stmt.varsSame xs ys = true → xs = ys
  | [], _, h => (List.isEmpty_iff.mp h).symm
  | (_, none) :: _, _, h => by cases h
  | (n, some x) :: xs, ys, h => by
    unfold Stmt.varsSame at h
    split at h
    · obtain ⟨first, third⟩ := Bool.and_eq_true_iff.mp h
      obtain ⟨first, second⟩ := Bool.and_eq_true_iff.mp first
      rw [eq_of_beq first, Expr.eq_of_same second, Stmt.eq_of_varsSame third]
    · cases h

theorem Stmt.eq_of_allSame : ∀ {xs ys : List Stmt}, Stmt.allSame xs ys = true → xs = ys
  | [], _, h => (List.isEmpty_iff.mp h).symm
  | x :: xs, [], h => by cases h
  | x :: xs, y :: ys, h => by
    obtain ⟨first, rest⟩ := Bool.and_eq_true_iff.mp h
    rw [Stmt.eq_of_same first, Stmt.eq_of_allSame rest]

theorem Block.eq_of_same : ∀ {b c : Block}, b.same c = true → b = c
  | .mk [] [] ss, y, h => by
    unfold Block.same at h
    split at h
    · rw [Stmt.eq_of_allSame h]
    · cases h
  | .mk (_ :: _) _ _, _, h | .mk [] (_ :: _) _, _, h => by cases h

/-- and with them the code of functions. -/
theorem Code.eq_of_same : ∀ {c d : Code}, c.same d = true → c = d
  | .mk n ps vs s o u b t, .mk n' ps' vs' s' o' u' b' t', h => by
    simp only [Code.same, Bool.and_eq_true, beq_iff_eq] at h
    obtain ⟨⟨⟨⟨⟨⟨⟨rfl, rfl⟩, rfl⟩, rfl⟩, rfl⟩, rfl⟩, body⟩, rfl⟩ := h
    rw [Block.eq_of_same body]

end

end ScriptHost.Script
