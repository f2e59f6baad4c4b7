/-
Actions: the function that evaluates them. The bootstrap defines it. It puts a program around the body of an
action, has that evaluated in a sandbox, and reads the text that comes back: a text that spells a tree is taken
for the reply of a body that returned, every other one for the text of an error.
-/
import ScriptHost.Proofs.Script.Arguments
import ScriptHost.Proofs.Script.Bound
import ScriptHost.Proofs.Script.Compare
import ScriptHost.Proofs.Script.Names

namespace ScriptHost.Session.Action

open Script (Binding Block Code Engine Expr Holds Key Kind Machine Obj Pristine Ref Scope Slot Stmt Value)

/-! ## The function -/

/-- The program that is evaluated for an action, given its bindings as text. -/
def program (bindings src : Utf16) : Utf16 :=
  "\n" ++ "var emitting = [];\n" ++ "var env = \x7b\n" ++ "  bindings: " ++ bindings ++ ",\n" ++
    "  out: function(x) \x7b emitting.push(x); \x7d\n" ++ "\x7d;\n" ++ "var bs = (function(_) \x7b\n" ++ src ++
    "\n\x7d)(env);\n" ++ "JSON.stringify(\x7bbs: bs, emitted: emitting\x7d);\n"

/-! ### Its names -/

def bsName : Utf16 := "bs"

def srcName : Utf16 := "src"

def codeName : Utf16 := "code"

def resultName : Utf16 := "result_js"

def errName : Utf16 := "err"

def thrownName : Utf16 := "e"

/-! ### Its body -/

def text (s : String) : Expr := .constant (.string (Utf16.ofString s))

/-- A call of a member of a global object. -/
def libraryCall (library function : String) (arguments : List Expr) : Expr :=
  .call (.member (.name (Utf16.ofString library)) (text function)) arguments

/-- The expression for the program. -/
def programExpr : Expr :=
  let join (a b : Expr) : Expr := .binary .add a b
  join (join (join (join (join (join (join (join (join (join (join
    (text "\n") (text "var emitting = [];\n")) (text "var env = \x7b\n")) (text "  bindings: "))
    (libraryCall "JSON" "stringify" [.name bsName])) (text ",\n"))
    (text "  out: function(x) \x7b emitting.push(x); \x7d\n")) (text "\x7d;\n"))
    (text "var bs = (function(_) \x7b\n")) (.name srcName)) (text "\n\x7d)(env);\n"))
    (text "JSON.stringify(\x7bbs: bs, emitted: emitting\x7d);\n")

/-- What is done with a text that spells no tree. -/
def handler : List Stmt := [
  .vars [(errName, some (.call (.name "String") [.name resultName]))],
  .expression (.call (.name "print") [text "sandboxedAction error", .name errName]),
  .expression (.assign (.member (.name bsName) (text "error")) (.name errName)),
  .return (some (.object [.value "bs" (.name bsName), .value "error" (.name errName)]))]

/-- What is done with the text that came back. -/
def parsing : Stmt := .try (.mk [] [] [.return (some (libraryCall "JSON" "parse" [.name resultName]))])
  (some (some thrownName, .mk [] [] handler)) none

def statements : List Stmt := [
  .ifElse (.unary .not (.name bsName))
    (.block (.mk [] [] [.expression (.assign (.name bsName) (.object []))])) none,
  .vars [(codeName, some programExpr)],
  .vars [(resultName, some (.call (.name "sandbox") [.name codeName]))],
  parsing]

/-- A function is the one that the bundled bootstrap defines. -/
def isAction (code : Code) : Bool :=
  !code.strict && !code.usesArguments && code.parameters == [bsName, srcName] &&
    code.vars == [codeName, resultName, errName] && code.body.same (.mk [] [] statements)

/-- What its names stand for in a call. -/
structure Locals where
  bs : Value
  src : Utf16
  code : Value := .undefined
  result : Value := .undefined
  err : Value := .undefined

/-- The bindings of a call, those of the parameters with the last one first. -/
def Locals.bindings (c : Locals) : List Binding := [
  { name := srcName, value := some (.string c.src) }, { name := bsName, value := some c.bs },
  { name := codeName, value := some c.code }, { name := resultName, value := some c.result },
  { name := errName, value := some c.err }]

theorem simple_of_isAction {code : Code} (action : isAction code = true) : code.Simple ∧
    code.body = .mk [] [] statements ∧
    ∀ bs src, code.bindings [bs, .string src] = ({ bs, src } : Locals).bindings := by
  simp only [isAction, Bool.and_eq_true, Bool.not_eq_true', beq_iff_eq] at action
  obtain ⟨⟨⟨⟨sloppy, arguments⟩, parameters⟩, vars⟩, same⟩ := action
  have body : code.body = .mk [] [] statements := Block.eq_of_same same
  refine ⟨⟨sloppy, arguments, by rw [body]; rfl, by rw [body]; rfl⟩, body, fun bs src => ?_⟩
  rw [Code.bindings, parameters, vars]
  rfl

/-! ## The machine -/

/-- A property holds an object of which something is true. -/
def Leads (P : Ref → Prop) (s : Option Slot) : Prop := ∃ f w en c, s = some (.data (.object f) w en c) ∧ P f

theorem Leads.imp {P Q : Ref → Prop} {s : Option Slot} (h : Leads P s) (le : ∀ f, P f → Q f) : Leads Q s := by
  obtain ⟨f, w, en, c, found, holds⟩ := h
  exact ⟨f, w, en, c, found, le f holds⟩

/-- The collection of functions that write and read trees. -/
structure Library (e : Engine) (m : Machine) (q : Ref) : Prop where
  there : q.index < m.heap.size
  writes : Holds m .stringify (e.own? m q "stringify")
  reads : Holds m .parse (e.own? m q "parse")

/-- A machine on which the function finds under global names what it found in the beginning. -/
structure Equipped (e : Engine) (m : Machine) : Prop extends Pristine e m 2 where
  outermost : m.scopes[0]? = some .global
  library : Leads (Library e m) (e.own? m .global "JSON")
  evaluates : Leads (fun f => (m.object f).kind = .host "sandbox") (e.own? m .global "sandbox")
  prints : Leads (fun f => (m.object f).kind = .host "print") (e.own? m .global "print")

/-! ### Deciding it -/

section Deciding

instance (P : Ref → Prop) [DecidablePred P] (s : Option Slot) : Decidable (Leads P s) :=
  match s with
  | some (.data (.object f) w en c) =>
    decidable_of_iff (P f)
      ⟨fun h => ⟨f, w, en, c, rfl, h⟩, fun ⟨_, _, _, _, same, h⟩ => by cases same; exact h⟩
  | none | some (.accessor ..) | some (.data .undefined ..) | some (.data .null ..)
  | some (.data (.bool _) ..) | some (.data (.number _) ..) | some (.data (.string _) ..) => isFalse nofun

instance (s : Option Scope) : Decidable (s = some .global) :=
  match s with
  | some s => decidable_of_iff (s = .global) ⟨congrArg _, Option.some.inj⟩
  | none => isFalse nofun

variable (e : Engine) (m : Machine)

instance (q : Ref) : Decidable (Library e m q) :=
  decidable_of_iff (q.index < m.heap.size ∧ Holds m .stringify (e.own? m q "stringify") ∧
    Holds m .parse (e.own? m q "parse")) ⟨fun ⟨a, b, c⟩ => ⟨a, b, c⟩, fun ⟨a, b, c⟩ => ⟨a, b, c⟩⟩

instance : Decidable (Equipped e m) :=
  decidable_of_iff (Pristine e m 2 ∧ m.scopes[0]? = some .global ∧
      Leads (Library e m) (e.own? m .global "JSON") ∧
      Leads (fun f => (m.object f).kind = .host "sandbox") (e.own? m .global "sandbox") ∧
      Leads (fun f => (m.object f).kind = .host "print") (e.own? m .global "print"))
    ⟨fun ⟨a, b, c, d, f⟩ => ⟨a, b, c, d, f⟩, fun ⟨a, b, c, d, f⟩ => ⟨a, b, c, d, f⟩⟩

end Deciding

/-! ### Keeping it -/

variable {e : Engine} {m n : Machine}

theorem Library.within {q : Ref} (h : Library e m q) (within : m.Within n) (more : m.heap.size ≤ n.heap.size) :
    Library e n q := by
  refine ⟨Nat.lt_of_lt_of_le h.there more, ?_, ?_⟩
  · rw [Engine.own?_within within h.there]
    exact h.writes.within within
  · rw [Engine.own?_within within h.there]
    exact h.reads.within within

namespace Equipped

/-- New objects and scopes matter to none of it. -/
theorem within (h : Equipped e m) (within : m.Within n) (more : m.heap.size ≤ n.heap.size)
    (outermost : n.scopes[0]? = some .global) : Equipped e n := by
  have own : ∀ k, e.own? n .global k = e.own? m .global k := Engine.own?_within within h.global_lt
  have kept : ∀ {f : Ref} {name : Text}, (m.object f).kind = .host name → (n.object f).kind = .host name := by
    intro f name kind
    rw [within f (Machine.lt_of_kind (by simp [kind]))]
    exact kind
  refine ⟨h.toPristine.within within (by rw [outermost]; rfl), outermost, ?_, ?_, ?_⟩
  · rw [own]
    exact h.library.imp fun _ library => library.within within more
  · rw [own]
    exact h.evaluates.imp fun _ => kept
  · rw [own]
    exact h.prints.imp fun _ => kept

theorem carried (h : Equipped e m) (extended : m.Extends n) : Equipped e n :=
  h.within extended.within extended.size (by rw [extended.scopes]; exact h.outermost)

theorem grown (h : Equipped e m) (o : Obj) : Equipped e (m.grown o) := h.carried (Machine.extends_grown o m)

theorem opened (h : Equipped e m) (s : Scope) : Equipped e (m.opened s) := by
  have inside : 0 < m.scopes.size := (Array.getElem?_eq_some_iff.mp h.outermost).1
  exact h.within (fun _ _ => rfl) (Nat.le_refl _) ((Machine.opened_before s inside).trans h.outermost)

end Equipped

end ScriptHost.Session.Action
