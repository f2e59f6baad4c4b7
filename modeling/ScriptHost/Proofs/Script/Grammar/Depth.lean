/-
Depth of nesting and number of turns. What a reader reads with productions of some depth it reads with deeper ones too,
and where more turns are allowed; so bounds that are large enough do not matter.
-/
import ScriptHost.Proofs.Script.Grammar.Readings

namespace ScriptHost.Script

variable {α β : Type}

/-! ## Readers that read more -/

/-- A reading that may take other many turns. -/
def Reading.turning (r : Reading) (n : Nat) : Reading := { r with budget := n }

namespace Parse

/-- From a reading on, what one reader reads another one reads as well in up to `n` turns a loop. -/
def GrowsAt (n : Nat) (r : Reading) (p q : Parse α) : Prop := r.budget ≤ n → ∀ a s, p r = .ok (a, s) →
  s.budget = r.budget ∧ q (r.turning n) = .ok (a, s.turning n)

/-- What one reader reads, another one reads as well, also if more turns are allowed. -/
structure Grows (p q : Parse α) : Prop where
  grows : ∀ n r, GrowsAt n r p q

section Steps

variable {n : Nat} {r s : Reading} {p q : Parse α} {f g : α → Parse β} {a : α}

theorem bind_eq_ok {b : β} (h : (p >>= f) r = .ok (b, s)) : ∃ a l, p r = .ok (a, l) ∧ f a l = .ok (b, s) := by
  change (p r >>= fun x => f x.1 x.2) = .ok (b, s) at h
  rcases read : p r with _ | ⟨a, l⟩
  · rw [read] at h
    cases h
  · rw [read] at h
    exact ⟨a, l, rfl, h⟩

/-! ### At a reading -/

namespace GrowsAt

theorem bind (first : Grows p q) (rest : ∀ a s, s.budget = r.budget → GrowsAt n s (f a) (g a)) :
    GrowsAt n r (p >>= f) (q >>= g) := fun le b s h => by
  obtain ⟨a, l, read, more⟩ := bind_eq_ok h
  obtain ⟨same, grown⟩ := first.grows n r le a l read
  obtain ⟨same', grown'⟩ := rest a l same (same ▸ le) b s more
  exact ⟨same'.trans same, (bind_ok grown).trans grown'⟩

theorem get {f g : Reading → Parse β} (h : GrowsAt n r (f r) (g (r.turning n))) :
    GrowsAt n r (get >>= f) (get >>= g) := h

theorem set {p q : Parse β} (same : s.budget = r.budget) (h : GrowsAt n s p q) :
    GrowsAt n r (set s >>= fun _ => p) (set (s.turning n) >>= fun _ => q) := fun le b l read => by
  obtain ⟨same', grown⟩ := h (same ▸ le) b l read
  exact ⟨same'.trans same, grown⟩

theorem ite {c : Prop} [Decidable c] {p' q' : Parse α} (yes : GrowsAt n r p q) (no : GrowsAt n r p' q') :
    GrowsAt n r (if c then p else p') (if c then q else q') := by
  split
  · exact yes
  · exact no

/-- A complaint reads nothing. -/
theorem complain (t : Text) {q : Parse β} : GrowsAt n r (complain t >>= f) q := fun _ _ _ h => by
  obtain ⟨_, _, read, _⟩ := bind_eq_ok h
  cases read

end GrowsAt

/-! ### At every reading -/

namespace Grows

theorem pure (a : α) : Grows (Pure.pure a) (Pure.pure a) := ⟨fun _ _ _ _ _ h => by
  cases h
  exact ⟨rfl, rfl⟩⟩

theorem complain (t : Text) : Grows (complain (α := α) t) (Parse.complain t) := ⟨nofun⟩

theorem bind (first : Grows p q) (rest : ∀ a, Grows (f a) (g a)) : Grows (p >>= f) (q >>= g) :=
  ⟨fun _ _ => .bind first fun a _ _ => (rest a).grows _ _⟩

theorem ite {c : Prop} [Decidable c] {p' q' : Parse α} (yes : Grows p q) (no : Grows p' q') :
    Grows (if c then p else p') (if c then q else q') := ⟨fun _ _ => .ite (yes.grows _ _) (no.grows _ _)⟩

/-- Two ways that go on alike. -/
theorem join {c : Prop} [Decidable c] {p' q' : Parse α} (yes : Grows p q) (no : Grows p' q')
    (rest : ∀ a, Grows (f a) (g a)) :
    Grows (if c then p >>= f else p' >>= f) (if c then q >>= g else q' >>= g) := ite (bind yes rest) (bind no rest)

/-- A check that may end the reading. -/
theorem check {c : Prop} [Decidable c] {t : Text} {f g : Unit → Parse β} (rest : ∀ u, Grows (f u) (g u)) :
    Grows (if c then Parse.complain t >>= f else f ()) (if c then Parse.complain t >>= g else g ()) :=
  ite (bind (complain t) rest) (rest ())

theorem modify {f : Reading → Reading} (same : ∀ r, (f r).budget = r.budget)
    (apart : ∀ n r, f (r.turning n) = (f r).turning n) : Grows (modify f) (modify f) := ⟨fun n r _ a s h => by
  cases h
  refine ⟨same r, ?_⟩
  show Except.ok (_, f (r.turning n)) = _
  rw [apart]⟩

/-! ### Steps of a reader -/

theorem peek : Grows peek peek := ⟨fun _ _ _ _ _ h => by
  cases h
  exact ⟨rfl, rfl⟩⟩

theorem peekSecond : Grows peekSecond peekSecond := ⟨fun _ _ _ _ _ h => by
  cases h
  exact ⟨rfl, rfl⟩⟩

theorem advance : Grows advance advance := ⟨fun _ _ _ _ _ h => by
  unfold Parse.advance at h ⊢
  dsimp only [Reading.turning] at h ⊢
  split at h
  · cases h
  · cases h
    exact ⟨rfl, rfl⟩⟩

theorem sees (m : String) : Grows (sees m) (sees m) := bind peek fun _ => pure _

theorem accept (m : String) : Grows (accept m) (accept m) :=
  bind (sees m) fun _ => ite (bind advance fun _ => pure _) (pure _)

theorem unexpected : Grows (unexpected (α := α)) unexpected := bind peek fun t => by
  split <;> exact complain _

theorem expect (m : String) : Grows (expect m) (expect m) := bind (sees m) fun _ => ite advance unexpected

theorem endStatement : Grows endStatement endStatement :=
  bind peek fun _ => ite advance (ite (pure _) (complain _))

theorem name? (ctx : Context) : Grows (name? ctx) (name? ctx) := bind peek fun t => by
  split <;> exact pure _

theorem noteName (x : Utf16) : Grows (noteName x) (noteName x) :=
  ite (modify (fun _ => rfl) fun _ _ => rfl) (pure _)

theorem declareVar (x : Utf16) : Grows (declareVar x) (declareVar x) := modify (fun _ => rfl) fun _ _ => rfl

theorem declareLexical (l : Lexical) : Grows (declareLexical l) (declareLexical l) :=
  modify (fun _ => rfl) fun _ _ => rfl

theorem forM {f : α → Parse PUnit} (each : ∀ a, Grows (f a) (f a)) : ∀ as : List α, Grows (as.forM f) (as.forM f)
  | [] => pure _
  | a :: as => bind (each a) fun _ => forM each as

end Grows

/-! ### Loops -/

theorem Grows.iterateUpTo {step step' : α → Parse (Sum α β)} (each : ∀ a, Grows (step a) (step' a)) :
    ∀ {m n : Nat}, m ≤ n → ∀ a, Grows (iterateUpTo step m a) (iterateUpTo step' n a)
  | 0, _, _, _ => ⟨nofun⟩
  | _ + 1, _ + 1, le, a => .bind (each a) fun
    | .inl a => iterateUpTo each (Nat.le_of_succ_le_succ le) a
    | .inr _ => .pure _

theorem Grows.iterate {step step' : α → Parse (Sum α β)} (start : α) (each : ∀ a, Grows (step a) (step' a)) :
    Grows (iterate start step) (iterate start step') :=
  ⟨fun n r le => GrowsAt.get ((Grows.iterateUpTo each le start).grows n r) le⟩

/-! ### Blocks -/

theorem Grows.keepApart (start : Reading) (names : List Utf16) (n : Nat) :
    Grows (keepApart start names) (keepApart (start.turning n) names) :=
  ⟨fun n r => .get (.ite ((Grows.complain _).grows n r) ((Grows.pure _).grows n r))⟩

theorem Grows.closeBlock (ctx : Context) (top : Bool) (start : Reading) (statements : List Stmt) (n : Nat) :
    Grows (closeBlock ctx top start statements) (closeBlock ctx top (start.turning n) statements) := by
  refine ⟨fun m r => ?_⟩
  refine .get ?_
  -- what is set in the end is the reading that the block was closed at
  have last : ∀ s, s.budget = r.budget → GrowsAt m s
      (set { r with lexicals := start.lexicals, functions := start.functions } >>= fun _ =>
        Pure.pure (Block.mk r.lexicals.reverse r.functions.reverse statements))
      (set ({ r with lexicals := start.lexicals, functions := start.functions }.turning m) >>= fun _ =>
        Pure.pure (Block.mk r.lexicals.reverse r.functions.reverse statements)) := fun s same =>
    .set same.symm ((Grows.pure _).grows _ _)
  refine .bind (Grows.keepApart start _ n) fun _ s same => .ite (.complain _) (.ite ?_ (last s same))
  exact .bind (Grows.keepApart start _ n) fun _ l same' => last l (same'.trans same)

theorem Grows.openBlock {f g : Reading → Parse β} (h : ∀ r n, Grows (f r) (g (r.turning n))) :
    Grows (openBlock >>= f) (openBlock >>= g) :=
  ⟨fun n r => (h r n).grows n { r with lexicals := [], functions := [] }⟩

end Steps

end Parse

/-! ## Productions that read more -/

/-- The productions of one grammar read what those of another one read. -/
structure Grammar.Within (g g' : Grammar) : Prop where
  assignment : ∀ ctx, Parse.Grows (g.assignment ctx) (g'.assignment ctx)
  unary : ∀ ctx power, Parse.Grows (g.unary ctx power) (g'.unary ctx power)
  statement : ∀ ctx single, Parse.Grows (g.statement ctx single) (g'.statement ctx single)

namespace Grammar

open Parse (Grows GrowsAt)

section Productions

variable {g g' : Grammar} (h : g.Within g') (ctx : Context)
include h

theorem grows_expression : Grows (expression g ctx) (expression g' ctx) := by
  refine .bind (h.assignment _) fun _ => ?_
  refine .iterate _ fun _ => ?_
  refine .bind (.accept _) fun _ => ?_
  exact .ite (.bind (h.assignment _) fun _ => .pure _) (.pure _)

/-! ### Functions -/

omit h in
theorem grows_parameters : Grows (parameters ctx) (parameters ctx) := by
  refine .iterate _ fun _ => ?_
  refine .bind (.accept _) fun _ => ?_
  refine .ite (.pure _) ?_
  refine .bind (.name? _) fun name => ?_
  cases name with
  | none => exact .complain _
  | some _ =>
    refine .bind .advance fun _ => ?_
    refine .bind (.noteName _) fun _ => ?_
    refine .bind (.sees _) fun _ => ?_
    exact .ite (.bind (.expect _) fun _ => .pure _) (.pure _)

theorem grows_statements : Grows (statements g ctx) (statements g' ctx) := by
  refine .iterate _ fun _ => ?_
  refine .bind .peek fun _ => ?_
  exact .ite (.pure _) (.bind (h.statement _ _) fun _ => .pure _)

theorem grows_functionFrom (start : Text) (name : Utf16) (ownName : Bool) :
    Grows (functionFrom g ctx start name ownName) (functionFrom g' ctx start name ownName) := by
  refine ⟨fun n _ => .get ?_⟩
  refine .set rfl ?_
  refine .bind (.expect _) fun _ _ _ => ?_
  refine .bind (grows_parameters ctx) fun _ _ _ => ?_
  refine .bind (.expect _) fun _ _ _ => ?_
  refine .get ?_
  refine .ite (.complain _) ?_
  refine .ite (.complain _) ?_
  refine .get ?_
  -- the body is read as a block of its own, behind which the reading goes on with the names from before
  refine .bind (grows_statements h _) fun _ _ _ => ?_
  refine .bind .peek fun _ _ _ => ?_
  refine .ite (.complain _) ?_
  refine .bind (.closeBlock _ _ _ _ n) fun _ _ _ => ?_
  refine .get ?_
  refine .ite (.complain _) ?_
  refine .set rfl ?_
  exact (Grows.bind .advance fun _ => .pure _).grows _ _

theorem grows_functionExpression : Grows (functionExpression g ctx) (functionExpression g' ctx) := by
  refine .bind .peek fun _ => ?_
  refine .bind .advance fun _ => ?_
  refine .bind (.name? _) fun name => ?_
  cases name with
  | some _ => exact .bind .advance fun _ => .bind (grows_functionFrom h ..) fun _ => .pure _
  | none => exact .bind (grows_functionFrom h ..) fun _ => .pure _

/-! ### Primary expressions -/

theorem grows_arrayItems : Grows (arrayItems g ctx) (arrayItems g' ctx) := by
  refine .iterate _ fun _ => ?_
  refine .bind (.accept _) fun _ => ?_
  refine .ite (.pure _) ?_
  refine .bind (.accept _) fun _ => ?_
  refine .ite (.pure _) ?_
  refine .bind (h.assignment _) fun _ => ?_
  refine .bind (.sees _) fun _ => ?_
  exact .ite (.bind (.expect _) fun _ => .pure _) (.pure _)

omit h in
theorem grows_propertyName : Grows propertyName propertyName := by
  refine .bind ?_ fun found => ?_
  · exact .bind .peek fun t => by split <;> exact .pure _
  · cases found with
    | some _ => exact .bind .advance fun _ => .pure _
    | none => exact .complain _

omit h in
theorem grows_announces (word : String) : Grows (announces word) (announces word) := by
  refine .bind .peek fun t => ?_
  split
  · exact .ite (.bind .peekSecond fun _ => .pure _) (.pure _)
  · exact .pure _

theorem grows_objectEntry : Grows (objectEntry g ctx) (objectEntry g' ctx) := by
  refine .bind .peek fun _ => ?_
  refine .bind (grows_announces _) fun _ => ?_
  refine .ite ?_ ?_
  -- a getter
  · refine .bind .advance fun _ => ?_
    exact .bind grows_propertyName fun _ => .bind (grows_functionFrom h ..) fun _ => .pure _
  · refine .bind (grows_announces _) fun _ => ?_
    refine .ite ?_ ?_
    -- a setter
    · refine .bind .advance fun _ => ?_
      exact .bind grows_propertyName fun _ => .bind (grows_functionFrom h ..) fun _ => .pure _
    -- a name alone, a method, or a value
    · refine .bind grows_propertyName fun _ => ?_
      refine .bind .peek fun _ => ?_
      refine .ite (.bind (.noteName _) fun _ => .pure _) ?_
      refine .ite (.bind (grows_functionFrom h ..) fun _ => .pure _) ?_
      refine .bind (.expect _) fun _ => ?_
      exact .bind (h.assignment _) fun _ => .ite (.pure _) (.pure _)

theorem grows_objectEntries : Grows (objectEntries g ctx) (objectEntries g' ctx) := by
  refine .iterate _ fun _ => ?_
  refine .bind (.accept _) fun _ => ?_
  refine .ite (.pure _) ?_
  refine .bind (grows_objectEntry h _) fun _ => ?_
  refine .bind (.sees _) fun _ => ?_
  refine .ite ?_ (.pure _)
  refine .bind (.sees _) fun _ => ?_
  exact .ite (.bind .advance fun _ => .pure _) (.bind (.expect _) fun _ => .pure _)

theorem grows_primary : Grows (primary g ctx) (primary g' ctx) := by
  refine .bind .peek fun t => ?_
  have plain : ∀ e : Expr, Grows (Parse.advance >>= fun _ => pure e) (Parse.advance >>= fun _ => pure e) := fun _ =>
    .bind .advance fun _ => .pure _
  dsimp only
  split
  -- constants and names
  · exact .ite (.complain _) (plain _)
  · exact .ite (.complain _) (plain _)
  · exact .ite (.bind (.noteName _) fun _ => plain _) (.complain _)
  · exact plain _
  · exact plain _
  · exact plain _
  · exact plain _
  -- functions, parentheses, lists and objects
  · exact grows_functionExpression h _
  · refine .bind .advance fun _ => ?_
    exact .bind (grows_expression h _) fun _ => .bind (.expect _) fun _ => .pure _
  · exact .bind .advance fun _ => .bind (grows_arrayItems h _) fun _ => .pure _
  · exact .bind .advance fun _ => .bind (grows_objectEntries h _) fun _ => .pure _
  · exact .complain _

/-! ### Members and calls -/

theorem grows_arguments : Grows (arguments g ctx) (arguments g' ctx) := by
  refine .iterate _ fun _ => ?_
  refine .bind (.accept _) fun _ => ?_
  refine .ite (.pure _) ?_
  refine .bind (h.assignment _) fun _ => ?_
  refine .bind (.sees _) fun _ => ?_
  exact .ite (.bind (.expect _) fun _ => .pure _) (.pure _)

theorem grows_suffixes (calls : Bool) (start : Expr) :
    Grows (suffixes g ctx calls start) (suffixes g' ctx calls start) := by
  refine .iterate _ fun _ => ?_
  refine .join (.accept _) (.pure _) fun _ => ?_
  refine .ite (.bind (grows_arguments h _) fun _ => .pure _) ?_
  refine .bind (.accept _) fun _ => ?_
  refine .ite ?_ ?_
  -- a member by its name
  · refine .bind .peek fun t => ?_
    split
    · exact .bind .advance fun _ => .pure _
    · exact .bind .advance fun _ => .pure _
    · exact .complain _
  -- a member by a key
  · refine .bind (.accept _) fun _ => ?_
    refine .ite ?_ (.pure _)
    exact .bind (grows_expression h _) fun _ => .bind (.expect _) fun _ => .pure _

theorem grows_memberExpression : ∀ {m n : Nat}, m ≤ n → Grows (memberExpression g ctx m) (memberExpression g' ctx n)
  | 0, _, _ => ⟨nofun⟩
  | _ + 1, _ + 1, le => by
    refine .bind (.accept _) fun _ => ?_
    refine .ite ?_ (grows_primary h _)
    -- what is made by `new`, with its members and perhaps arguments
    refine .bind (grows_memberExpression (Nat.le_of_succ_le_succ le)) fun _ => ?_
    refine .bind (grows_suffixes h _ _ _) fun _ => ?_
    refine .bind (.accept _) fun _ => ?_
    exact .join (grows_arguments h _) (.pure _) fun _ => .pure _

theorem grows_leftHandSide : Grows (leftHandSide g ctx) (leftHandSide g' ctx) :=
  ⟨fun n r le => GrowsAt.get (((grows_memberExpression h ctx le).bind fun _ => grows_suffixes h _ _ _).grows n r) le⟩

/-! ### Operators -/

omit h in
theorem grows_checkTarget (complaint : Text) (e : Expr) :
    Grows (checkTarget ctx complaint e) (checkTarget ctx complaint e) := by
  unfold checkTarget
  split
  · exact .ite (.complain _) (.pure _)
  · exact .pure _
  · exact .complain _

theorem grows_postfixExpression : Grows (postfixExpression g ctx) (postfixExpression g' ctx) := by
  refine .bind (grows_leftHandSide h _) fun _ => ?_
  refine .bind .peek fun t => ?_
  split
  · refine .ite (.pure _) ?_
    exact .bind (grows_checkTarget _ _ _) fun _ => .bind .advance fun _ => .pure _
  · exact .pure _

theorem grows_powerExpression (power : Power) (e : Expr) :
    Grows (powerExpression g ctx power e) (powerExpression g' ctx power e) := by
  refine .bind (.sees _) fun _ => ?_
  refine .ite ?_ (.pure _)
  split
  · exact .bind .advance fun _ => .bind (h.unary _ _) fun _ => .pure _
  · exact .complain _
  · exact .pure _

theorem grows_unaryExpression (power : Power) : Grows (unaryExpression g ctx power) (unaryExpression g' ctx power) := by
  refine .bind .peek fun t => ?_
  split
  · exact .bind .advance fun _ => .bind (h.unary _ _) fun _ => .pure _
  · split
    -- a step up or down in front of its target
    · refine .bind .advance fun _ => ?_
      refine .bind (h.unary _ _) fun _ => ?_
      refine .bind (grows_checkTarget _ _ _) fun _ => ?_
      exact grows_powerExpression h _ _ _
    -- `delete`, or no operator
    · refine .ite ?_ ?_
      · refine .bind .advance fun _ => ?_
        refine .bind (h.unary _ _) fun _ => ?_
        exact .ite (.bind (.complain _) fun _ => .pure _) (.pure _)
      · exact .bind (grows_postfixExpression h _) fun _ => grows_powerExpression h _ _ _

theorem grows_binaryExpression : ∀ levels, Grows (binaryExpression g ctx levels) (binaryExpression g' ctx levels)
  | [] => grows_unaryExpression h _ _
  | ops :: stronger => by
    refine .bind (grows_binaryExpression stronger) fun _ => ?_
    refine .iterate _ fun _ => ?_
    refine .bind .peek fun t => ?_
    split
    · exact .bind .advance fun _ => .bind (grows_binaryExpression stronger) fun _ => .pure _
    · exact .pure _

theorem grows_conjunction : Grows (conjunction g ctx) (conjunction g' ctx) := by
  refine .bind (grows_binaryExpression h _ _) fun _ => ?_
  refine .iterate _ fun _ => ?_
  refine .bind (.accept _) fun _ => ?_
  exact .ite (.bind (grows_binaryExpression h _ _) fun _ => .pure _) (.pure _)

theorem grows_disjunction : Grows (disjunction g ctx) (disjunction g' ctx) := by
  refine .bind (grows_conjunction h _) fun _ => ?_
  refine .iterate _ fun _ => ?_
  refine .bind (.accept _) fun _ => ?_
  exact .ite (.bind (grows_conjunction h _) fun _ => .pure _) (.pure _)

theorem grows_conditional : Grows (conditional g ctx) (conditional g' ctx) := by
  refine .bind (grows_disjunction h _) fun _ => ?_
  refine .bind (.accept _) fun _ => ?_
  refine .ite ?_ (.pure _)
  refine .bind (h.assignment _) fun _ => ?_
  exact .bind (.expect _) fun _ => .bind (h.assignment _) fun _ => .pure _

theorem grows_assignmentExpression : Grows (assignmentExpression g ctx) (assignmentExpression g' ctx) := by
  refine .bind (grows_conditional h _) fun target => ?_
  refine .bind .peek fun t => ?_
  refine .ite ?_ ?_
  -- a plain assignment names a function that it assigns
  · refine .bind .advance fun _ => ?_
    refine .bind (grows_checkTarget _ _ _) fun _ => ?_
    refine .bind (h.assignment _) fun _ => ?_
    split <;> exact .pure _
  · split
    -- one with an operator
    · refine .bind .advance fun _ => ?_
      refine .bind (grows_checkTarget _ _ _) fun _ => ?_
      exact .bind (h.assignment _) fun _ => .pure _
    · exact .pure _

/-! ### Declarations and blocks -/

theorem grows_bindings (fixed : Bool) : Grows (bindings g ctx fixed) (bindings g' ctx fixed) := by
  refine .iterate _ fun _ => ?_
  refine .bind (.name? _) fun name => ?_
  cases name with
  | none => exact .complain _
  | some _ =>
    refine .check fun _ => ?_
    refine .bind .advance fun _ => ?_
    refine .bind (.accept _) fun _ => ?_
    -- whether or not there is a value, a comma tells whether there is another name
    have next : ∀ found : List (Utf16 × Option Expr),
        let p : Parse (Sum (List (Utf16 × Option Expr)) (List (Utf16 × Option Expr))) := do
          if (← Parse.accept ",") then return .inl found else return .inr found.reverse
        Grows p p := fun _ => .bind (.accept _) fun _ => .ite (.pure _) (.pure _)
    refine .ite ?_ ?_
    · refine .bind (h.assignment _) fun _ => ?_
      exact .bind (.pure _) fun _ => next _
    · exact .join (.complain _) (.pure _) fun _ => next _

omit h in
theorem grows_declares : Grows (declares ctx) (declares ctx) := by
  refine .bind .peek fun _ => ?_
  refine .ite (.pure _) ?_
  refine .ite (.pure _) ?_
  refine .bind ?_ fun _ => ?_
  · refine .bind .peek fun t => ?_
    split
    · exact .ite (.bind .peekSecond fun _ => .pure _) (.pure _)
    · exact .pure _
  · exact .ite (.pure _) (.pure _)

theorem grows_functionDeclaration : Grows (functionDeclaration g ctx) (functionDeclaration g' ctx) := by
  refine .bind .peek fun _ => ?_
  refine .bind .advance fun _ => ?_
  refine .bind (.name? _) fun name => ?_
  cases name with
  | none => exact .complain _
  | some _ =>
    refine .bind .advance fun _ => ?_
    refine .bind (grows_functionFrom h ..) fun _ => ?_
    refine .bind (.modify (fun _ => rfl) fun _ _ => rfl) fun _ => ?_
    exact .ite (.pure _) (.bind (.modify (fun _ => rfl) fun _ _ => rfl) fun _ => .pure _)

theorem grows_block : Grows (block g ctx) (block g' ctx) := by
  refine .bind (.expect _) fun _ => ?_
  refine .openBlock fun _ n => ?_
  refine .bind (grows_statements h _) fun _ => ?_
  refine .bind (.sees _) fun _ => ?_
  refine .check fun _ => ?_
  exact .bind (.closeBlock _ _ _ _ n) fun _ => .bind .advance fun _ => .pure _

theorem grows_branch : Grows (branch g ctx) (branch g' ctx) := by
  refine .bind (.sees _) fun _ => ?_
  refine .ite ?_ (h.statement _ _)
  refine .openBlock fun _ n => ?_
  exact .bind (grows_functionDeclaration h _) fun _ => .bind (.closeBlock _ _ _ _ n) fun _ => .pure _

theorem grows_parenthesized : Grows (parenthesized g ctx) (parenthesized g' ctx) :=
  .bind (.expect _) fun _ => .bind (grows_expression h _) fun _ => .bind (.expect _) fun _ => .pure _

/-! ### Loops -/

omit h in
/-- The name behind the word of a declaration in a loop over keys. -/
theorem grows_targetName :
    let p : Parse Utf16 := do
      Parse.advance
      match (← Parse.name? ctx) with
      | none => Parse.complain "variable name expected"
      | some n =>
        Parse.advance
        return n
    Grows p p := by
  refine .bind .advance fun _ => ?_
  refine .bind (.name? _) fun name => ?_
  cases name with
  | none => exact .complain _
  | some _ => exact .bind .advance fun _ => .pure _

theorem grows_forTarget : Grows (forTarget g ctx) (forTarget g' ctx) := by
  refine .bind (grows_declares _) fun declared => ?_
  cases declared with
  | vars => exact .bind (grows_targetName _) fun _ => .bind (.declareVar _) fun _ => .pure _
  | lexical _ => exact .bind (grows_targetName _) fun _ => .pure _
  | nothing => exact .bind (grows_leftHandSide h _) fun _ => .bind (grows_checkTarget _ _ _) fun _ => .pure _

theorem grows_forInLoop : Grows (forInLoop g ctx) (forInLoop g' ctx) := by
  refine .bind (grows_forTarget h _) fun _ => ?_
  refine .bind (.accept _) fun _ => ?_
  refine .check fun _ => ?_
  refine .bind (grows_expression h _) fun _ => ?_
  refine .bind (.expect _) fun _ => ?_
  refine ⟨fun n _ => .get ?_⟩
  refine .bind (h.statement _ _) fun _ _ _ => ?_
  split
  · exact (Grows.bind (.keepApart _ _ n) fun _ => .pure _).grows _ _
  · exact (Grows.pure _).grows _ _

theorem grows_optional (mark : String) : Grows (optional g ctx mark) (optional g' ctx mark) :=
  .bind (.sees _) fun _ => .ite (.pure _) (.bind (grows_expression h _) fun _ => .pure _)

/-- A counted loop behind its start. -/
theorem grows_countedRest (start : Option Stmt) (lexicals : List Lexical) :
    let p (g : Grammar) : Parse Stmt := do
      Parse.expect ";"
      let test ← optional g ctx ";"
      Parse.expect ";"
      let update ← optional g ctx ")"
      Parse.expect ")"
      let opened ← get
      let body ← loopBody g ctx
      Parse.keepApart opened (lexicals.map (·.name))
      return .forLoop start lexicals test update body
    Grows (p g) (p g') := by
  refine .bind (.expect _) fun _ => ?_
  refine .bind (grows_optional h _ _) fun _ => ?_
  refine .bind (.expect _) fun _ => ?_
  refine .bind (grows_optional h _ _) fun _ => ?_
  refine .bind (.expect _) fun _ => ?_
  -- what the body declares is kept apart from what was there at its start
  refine ⟨fun n _ => .get ?_⟩
  refine .bind (h.statement _ _) fun _ _ _ => ?_
  exact (Grows.bind (.keepApart _ _ n) fun _ => .pure _).grows _ _

theorem grows_countedLoop : Grows (countedLoop g ctx) (countedLoop g' ctx) := by
  refine .bind (grows_declares _) fun declared => ?_
  cases declared with
  | vars =>
    refine .bind .advance fun _ => ?_
    refine .bind (grows_bindings h _ _) fun _ => ?_
    refine .bind (.forM (fun _ => .declareVar _) _) fun _ => ?_
    exact .bind (.pure _) fun _ => grows_countedRest h _ _ _
  | lexical _ =>
    refine .bind .advance fun _ => ?_
    exact .bind (grows_bindings h _ _) fun _ => .bind (.pure _) fun _ => grows_countedRest h _ _ _
  | nothing =>
    -- no start, or an expression
    refine .bind (.sees _) fun _ => ?_
    refine .ite (.bind (.pure _) fun _ => grows_countedRest h _ _ _) ?_
    exact .bind (grows_expression h _) fun _ => .bind (.pure _) fun _ => grows_countedRest h _ _ _

theorem grows_forLoop : Grows (forLoop g ctx) (forLoop g' ctx) := by
  refine .bind .advance fun _ => ?_
  refine ⟨fun _ _ => .get ?_⟩
  refine .bind (.expect _) fun _ _ _ => ?_
  exact .ite ((grows_countedLoop h _).grows _ _) ((grows_forInLoop h _).grows _ _)

/-! ### Jumps -/

omit h in
theorem grows_jump (isContinue : Bool) : Grows (jump ctx isContinue) (jump ctx isContinue) := by
  refine .bind .advance fun _ => ?_
  refine .bind (.bind .peek fun _ => .ite (.pure _) (.name? _)) fun label => ?_
  cases label with
  | some _ => exact .ite (.bind .advance fun _ => .bind .endStatement fun _ => .pure _) (.complain _)
  | none =>
    refine .ite (.ite (.bind .endStatement fun _ => .pure _) (.complain _)) ?_
    exact .ite (.bind .endStatement fun _ => .pure _) (.complain _)

theorem grows_returnStatement : Grows (returnStatement g ctx) (returnStatement g' ctx) := by
  unfold returnStatement
  refine .check fun _ => ?_
  refine .bind .advance fun _ => ?_
  refine .bind .peek fun _ => ?_
  refine .ite ?_ ?_
  · exact .bind (.pure _) fun _ => .bind .endStatement fun _ => .pure _
  · refine .bind (grows_expression h _) fun _ => ?_
    exact .bind (.pure _) fun _ => .bind .endStatement fun _ => .pure _

theorem grows_throwStatement : Grows (throwStatement g ctx) (throwStatement g' ctx) := by
  refine .bind .advance fun _ => ?_
  refine .bind .peek fun _ => ?_
  refine .check fun _ => ?_
  refine .bind (grows_expression h _) fun _ => ?_
  exact .bind .endStatement fun _ => .pure _

/-! ### Branches -/

theorem grows_cases : Grows (cases g ctx) (cases g' ctx) := by
  refine .iterate _ fun found => ?_
  refine .bind (.sees _) fun _ => ?_
  refine .ite (.pure _) ?_
  refine .bind (.accept _) fun _ => ?_
  refine .ite ?_ ?_
  · exact .bind (grows_expression h _) fun _ => .bind (.expect _) fun _ => .pure _
  · refine .bind (.accept _) fun _ => ?_
    refine .ite (.bind (.expect _) fun _ => .check fun _ => .pure _) ?_
    -- a statement belongs to the case before it
    cases found with
    | nil => exact .complain _
    | cons _ _ => exact .bind (h.statement _ _) fun _ => .pure _

theorem grows_switchStatement : Grows (switchStatement g ctx) (switchStatement g' ctx) := by
  refine .bind .advance fun _ => ?_
  refine .bind (grows_parenthesized h _) fun _ => ?_
  refine .bind (.expect _) fun _ => ?_
  refine .openBlock fun _ n => ?_
  refine .bind (grows_cases h _) fun _ => ?_
  exact .bind (.closeBlock _ _ _ _ n) fun _ => .bind (.expect _) fun _ => .pure _

theorem grows_handler : Grows (handler g ctx) (handler g' ctx) := by
  have rest : ∀ n : Option Utf16, Grows _ _ := fun n => .bind (grows_block h ctx) fun b =>
    .check (c := n.any (b.lexicals.map (·.name) ++ b.functions.map (·.name)).contains = true)
      (t := "invalid redefinition of lexical identifier") fun _ => .pure (n, b)
  refine .bind (.accept _) fun _ => ?_
  refine .ite ?_ (.bind (.pure _) rest)
  refine .bind (.name? _) fun name => ?_
  cases name with
  | none => exact .bind (.complain _) rest
  | some _ =>
    refine .bind .advance fun _ => ?_
    exact .bind (.expect _) fun _ => .bind (.pure _) rest

/-- A `try` statement behind its handler. -/
theorem grows_tryRest (body : Block) (caught : Option (Option Utf16 × Block)) :
    let p (g : Grammar) : Parse Stmt := do
      let final ← if (← Parse.accept "finally") then do pure (some (← block g ctx)) else pure none
      if caught.isNone && final.isNone then Parse.complain "expecting catch or finally"
      return .try body caught final
    Grows (p g) (p g') := by
  refine .bind (.accept _) fun _ => ?_
  refine .ite ?_ (.bind (.pure _) fun _ => .check fun _ => .pure _)
  refine .bind (grows_block h _) fun _ => ?_
  exact .bind (.pure _) fun _ => .check fun _ => .pure _

theorem grows_tryStatement : Grows (tryStatement g ctx) (tryStatement g' ctx) := by
  refine .bind .advance fun _ => ?_
  refine .bind (grows_block h _) fun _ => ?_
  refine .bind (.accept _) fun _ => ?_
  refine .ite ?_ (.bind (.pure _) fun _ => grows_tryRest h _ _ _)
  exact .bind (grows_handler h _) fun _ => .bind (.pure _) fun _ => grows_tryRest h _ _ _

theorem grows_ifStatement : Grows (ifStatement g ctx) (ifStatement g' ctx) := by
  refine .bind .advance fun _ => ?_
  refine .bind (grows_parenthesized h _) fun _ => ?_
  refine .bind (grows_branch h _) fun _ => ?_
  refine .bind (.accept _) fun _ => ?_
  refine .ite ?_ (.bind (.pure _) fun _ => .pure _)
  exact .bind (grows_branch h _) fun _ => .bind (.pure _) fun _ => .pure _

theorem grows_doStatement : Grows (doStatement g ctx) (doStatement g' ctx) := by
  refine .bind .advance fun _ => ?_
  refine .bind (h.statement _ _) fun _ => ?_
  refine .bind (.expect _) fun _ => ?_
  refine .bind (grows_parenthesized h _) fun _ => ?_
  exact .bind (.bind (.accept _) fun _ => .pure ()) fun _ => .pure _

/-! ### Statements -/

theorem grows_expressionStatement : Grows (expressionStatement g ctx) (expressionStatement g' ctx) :=
  .bind (grows_expression h _) fun _ => .bind .endStatement fun _ => .pure _

theorem grows_labelled (single : Bool) (l : Utf16) : Grows (labelled g ctx single l) (labelled g' ctx single l) := by
  unfold labelled
  refine .check fun _ => ?_
  refine .bind .advance fun _ => ?_
  refine .bind .advance fun _ => ?_
  exact .bind .peek fun _ => .bind (h.statement _ _) fun _ => .pure _

theorem grows_lexicalDeclaration (fixed : Bool) :
    Grows (lexicalDeclaration g ctx fixed) (lexicalDeclaration g' ctx fixed) := by
  refine .bind .advance fun _ => ?_
  refine .bind (grows_bindings h _ _) fun _ => ?_
  refine .bind (.forM (fun _ => .declareLexical _) _) fun _ => ?_
  exact .bind .endStatement fun _ => .pure _

omit h in
theorem grows_labelAhead? : Grows (labelAhead? ctx) (labelAhead? ctx) := by
  refine .bind (.name? _) fun name => ?_
  cases name with
  | none => exact .pure _
  | some _ => exact .bind .peekSecond fun _ => .pure _

theorem grows_anyStatement (single : Bool) : Grows (anyStatement g ctx single) (anyStatement g' ctx single) := by
  refine .bind .peek fun t => ?_
  refine .bind (grows_labelAhead? _) fun label => ?_
  cases label with
  | some _ => exact grows_labelled h _ _ _
  | none =>
    refine .bind (grows_declares _) fun declared => ?_
    cases declared with
    | vars =>
      refine .bind .advance fun _ => ?_
      refine .bind (grows_bindings h _ _) fun _ => ?_
      refine .bind (.forM (fun _ => .declareVar _) _) fun _ => ?_
      exact .bind .endStatement fun _ => .pure _
    | lexical _ => exact .ite (.complain _) (grows_lexicalDeclaration h _ _)
    | nothing =>
      -- the first token tells which statement it is
      dsimp only
      split
      · exact .bind (grows_block h _) fun _ => .pure _
      · exact .bind .advance fun _ => .pure _
      · exact grows_ifStatement h _
      · exact grows_forLoop h _
      -- `while`
      · refine .bind .advance fun _ => ?_
        exact .bind (grows_parenthesized h _) fun _ => .bind (h.statement _ _) fun _ => .pure _
      · exact grows_doStatement h _
      · exact grows_returnStatement h _
      · exact grows_throwStatement h _
      · exact grows_jump _ _
      · exact grows_jump _ _
      · exact grows_switchStatement h _
      · exact grows_tryStatement h _
      -- `with`
      · refine .check fun _ => ?_
        refine .bind .advance fun _ => ?_
        exact .bind (grows_parenthesized h _) fun _ => .bind (h.statement _ _) fun _ => .pure _
      · exact .bind .advance fun _ => .bind .endStatement fun _ => .pure _
      · exact .ite (.complain _) (grows_functionDeclaration h _)
      · exact grows_expressionStatement h _

end Productions

/-! ## Deeper grammars -/

/-- A turn of the circle keeps what is read. -/
theorem Within.turn {g g' : Grammar} (h : g.Within g') : (turn g).Within (turn g') :=
  ⟨grows_assignmentExpression h, grows_unaryExpression h, grows_anyStatement h⟩

/-- Deeper productions read what those of a smaller depth read. -/
theorem ofDepth_within : ∀ {d d' : Nat}, d ≤ d' → (ofDepth d).Within (ofDepth d')
  | 0, _, _ => ⟨fun _ => ⟨nofun⟩, fun _ _ => ⟨nofun⟩, fun _ _ => ⟨nofun⟩⟩
  | _ + 1, _ + 1, le => (ofDepth_within (Nat.le_of_succ_le_succ le)).turn

section Deeper

variable {d d' n : Nat} (deeper : d ≤ d') {r s : Reading} (more : r.budget ≤ n)
include deeper more

/-- A function is read at every larger depth, in any larger number of turns. -/
theorem functionFrom_deeper {ctx : Context} {start : Text} {name : Utf16} {ownName : Bool} {code : Code}
    (read : functionFrom (ofDepth d) ctx start name ownName r = .ok (code, s)) :
    functionFrom (ofDepth d') ctx start name ownName (r.turning n) = .ok (code, s.turning n) :=
  ((grows_functionFrom (ofDepth_within deeper) ..).grows n r more code s read).2

end Deeper

end Grammar

end ScriptHost.Script
