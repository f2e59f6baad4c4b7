/-
Actions: the machine on which the program around a body runs. Its variables are properties of the global object, so
declaring and assigning them changes that object alone, and what the program looks up besides stays where it is.
-/
import ScriptHost.Proofs.Script.Errors
import ScriptHost.Proofs.Session.Action.Function

namespace ScriptHost.Session.Action

open Script (Engine Intact Key Machine Obj Ref Run Slot Value)
open Script.Machine

variable {e : Engine} {m n : Machine} {k : Key} {s : Slot}

/-! ## The machine -/

/-- A machine on which a program finds the collection of functions that write and read trees. -/
structure Stage (e : Engine) (m : Machine) : Prop extends Intact e m where
  outermost : m.scopes[0]? = some .global
  plain : (m.object .global).kind = .plain
  library : Leads (Library e m) (e.own? m .global "JSON")
  /-- Arrays inherit no items. -/
  noItems : ∀ i, e.own? m .arrayParent (.index i) = none ∧ e.own? m .objectParent (.index i) = none

/-! ### Deciding it -/

def isPlain : Script.Kind → Bool
  | .plain => true
  | _ => false

theorem eq_plain {k : Script.Kind} (plain : isPlain k = true) : k = .plain := by
  cases k with
  | plain => rfl
  | _ => cases plain

/-- By their kind, only strings have items of their own. -/
def isBoxed : Script.Kind → Bool
  | .boxed _ => true
  | _ => false

def isName : Key → Bool
  | .name _ => true
  | .index _ => false

/-- An object has no items. -/
def itemless (o : Obj) : Bool := !isBoxed o.kind && o.slots.all fun x => isName x.1

theorem own?_of_itemless {r : Ref} (other : r ≠ .global) (all : itemless (m.object r) = true) (i : Nat) :
    e.own? m r (.index i) = none := by
  rw [itemless, Bool.and_eq_true, List.all_eq_true] at all
  have slot : (m.object r).slot? (.index i) = none := by
    have missing : (m.object r).slots.find? (·.1 = Key.index i) = none := List.find?_eq_none.mpr fun x among => by
      have name := all.2 x among
      rcases x with ⟨k | k, s⟩
      · cases name
      · simp
    rw [Obj.slot?, missing]
  rw [Script.Engine.own?_of_ne other, Obj.own?_eq, slot, Option.or_none]
  have kind := all.1
  generalize (m.object r).kind = k at kind
  cases k with
  | boxed => cases kind
  | _ => rfl

/-! ### Changing global names -/

/-- The machine with another value under a global name. -/
def assigned (k : Key) (v : Value) (m : Machine) : Machine := m.updated .global (Obj.put k (.plain v))

theorem assigned_object {r : Ref} (other : r ≠ .global) (v : Value) : (assigned k v m).object r = m.object r :=
  updated_object_of_ne _ other

theorem own?_assigned_of_ne {l : Key} (other : l ≠ k) (v : Value) (r : Ref) :
    e.own? (assigned k v m) r l = e.own? m r l := by
  rcases object_modify m .global r (Obj.put k (.plain v)) with same | same
  · exact Script.Engine.own?_congr (congrArg (Obj.own? · l) same)
  · exact Script.Engine.own?_congr ((congrArg (Obj.own? · l) same).trans (Obj.own?_put_of_ne other _ _))

theorem Stage.own?_assigned (h : Stage e m) (k : Key) (v : Value) :
    e.own? (assigned k v m) .global k = some (.plain v) := by
  refine Script.Engine.own?_of_object ?_
  rw [assigned, updated_object _ h.global_lt, Obj.own?_eq, Obj.put_kind, h.plain]
  exact (Obj.slot?_put k k (.plain v) _).trans (if_pos rfl)

theorem assigned_kind (v : Value) (r : Ref) : ((assigned k v m).object r).kind = (m.object r).kind := by
  rcases object_modify m .global r (Obj.put k (.plain v)) with same | same
  · exact congrArg Obj.kind same
  · exact (congrArg Obj.kind same).trans (Obj.put_kind _ _ _)

/-- The global names that are looked up besides. -/
def lookedUp : List Key := ["String", "JSON", "push", .first, "toJSON", "error", "stringify", "parse"]

theorem Stage.assigned (h : Stage e m) (other : k ∉ lookedUp) (v : Value) : Stage e (assigned k v m) := by
  have own : ∀ l ∈ lookedUp, ∀ r, e.own? (Action.assigned k v m) r l = e.own? m r l := fun l among r =>
    own?_assigned_of_ne (fun same => other (by rw [← same]; exact among)) v r
  have holds : ∀ {f : Script.Native} {s : Option Slot}, Script.Holds m f s →
    Script.Holds (Action.assigned k v m) f s := by
    rintro f s ⟨r, w, en, c, found, kind⟩
    exact ⟨r, w, en, c, found, (assigned_kind v r).trans kind⟩
  have apart : Ref.arrayParent ≠ .global ∧ Ref.objectParent ≠ .global := by decide
  constructor
  · constructor
    · exact h.scope
    · rw [own _ (by decide)]
      exact holds h.converts
    · rw [own _ (by decide)]
      exact holds h.pushes
    · rw [assigned_object apart.1, h.arrays]
    · rw [assigned_object apart.2, h.objects]
    · rw [own _ (by decide), own _ (by decide)]
      exact h.noItem
    · rw [own _ (by decide), own _ (by decide)]
      exact h.noRule
    · rw [own _ (by decide)]
      exact h.noError
  · exact h.outermost
  · exact (assigned_kind v _).trans h.plain
  · rw [own _ (by decide)]
    refine h.library.imp fun q library => ⟨?_, ?_, ?_⟩
    · exact (updated_size _ m).symm ▸ library.there
    · rw [own _ (by decide)]
      exact holds library.writes
    · rw [own _ (by decide)]
      exact holds library.reads
  · intro i
    have same : ∀ r ≠ Ref.global, e.own? (Action.assigned k v m) r (.index i) = e.own? m r (.index i) := fun r other =>
      Script.Engine.own?_congr (congrArg (Obj.own? · _) (assigned_object other v))
    rw [same _ apart.1, same _ apart.2]
    exact h.noItems i

/-! ### Keeping it -/

/-- New objects and scopes matter to none of it. -/
theorem Stage.within (h : Stage e m) (within : m.Within n) (more : m.heap.size ≤ n.heap.size)
    (outermost : n.scopes[0]? = some .global) : Stage e n := by
  refine ⟨h.toIntact.within within (by rw [outermost]; rfl), outermost, ?_, ?_, fun i => ?_⟩
  · rw [within _ h.global_lt]
    exact h.plain
  · rw [Script.Engine.own?_within within h.global_lt]
    exact h.library.imp fun _ library => library.within within more
  · rw [Script.Engine.own?_within within h.arrayParent_lt, Script.Engine.own?_within within h.objectParent_lt]
    exact h.noItems i

theorem Stage.carried (h : Stage e m) (extended : m.Extends n) : Stage e n :=
  h.within extended.within extended.size (by rw [extended.scopes]; exact h.outermost)

theorem Stage.grown (h : Stage e m) (o : Obj) : Stage e (m.grown o) := h.carried (extends_grown o m)

theorem Stage.opened (h : Stage e m) (s : Script.Scope) : Stage e (m.opened s) := by
  have inside : 0 < m.scopes.size := (Array.getElem?_eq_some_iff.mp h.outermost).1
  exact h.within (fun _ _ => rfl) (Nat.le_refl _) ((Machine.opened_before s inside).trans h.outermost)

/-- A list that takes other values matters to none of it. -/
theorem Stage.listed (h : Stage e m) {r : Ref} {vs : List Value} (there : m.object r = .listing vs)
    (other : r ≠ .global)
    (room : vs.length ≤ Key.indexLimit) (us : List Value) : Stage e (m.updated r fun _ => .listing us) := by
  have own : ∀ {q : Ref}, q ≠ r → ∀ k, e.own? (m.updated r fun _ => .listing us) q k = e.own? m q k := fun apart k =>
    Script.Engine.own?_congr (congrArg (Obj.own? · k) (updated_object_of_ne _ apart))
  -- the collection of functions is no list
  have away : ∀ {q}, Library e m q → q ≠ r := by
    rintro q library rfl
    obtain ⟨f, w, en, c, found, -⟩ := library.writes
    have key : ("stringify" : Key) = .name (Utf16.ofString "stringify") := by decide +kernel
    rw [Script.Engine.own?_of_ne other, there, key, Obj.own?_listing_name room (by decide +kernel)] at found
    cases found
  refine ⟨h.toIntact.updated there other us, h.outermost, ?_, ?_, fun i => ?_⟩
  · rw [updated_object_of_ne _ other.symm]
    exact h.plain
  · rw [own other.symm]
    refine h.library.imp fun q library => ⟨(updated_size _ m).symm ▸ library.there, ?_, ?_⟩
    · rw [own (away library)]
      exact library.writes.updated there _
    · rw [own (away library)]
      exact library.reads.updated there _
  · rw [own (h.arrayParent_ne there), own (h.objectParent_ne there)]
    exact h.noItems i

theorem Stage.of_bindings {d : Engine} (h : Stage e m) (same : d.bindings = e.bindings) : Stage d m := by
  have own : d.own? m = e.own? m := congrFun (Script.Engine.own?_of_bindings same) m
  refine ⟨h.toIntact.of_bindings same, h.outermost, h.plain, own ▸ h.library.imp fun _ library =>
    ⟨library.there, ?_, ?_⟩, own ▸ h.noItems⟩
  · exact own ▸ library.writes
  · exact own ▸ library.reads

/-! ### Declaring and assigning -/

theorem Stage.declareVar (h : Stage e m) {x : Utf16} (free : e.own? m .global (.ofUnits x) = none) :
    e.declareVar .global x m = .value () (Action.assigned (.ofUnits x) .undefined m) := by
  have scope : Run.scope .global m = .value .global m := by
    show Script.Result.value (m.scopes[0]?.getD .global) m = _
    rw [h.scope]
  rw [Script.Engine.declareVar, Run.bind_apply, scope]
  show e.declareGlobalVar x m = _
  rw [Script.Engine.declareGlobalVar, Run.bind_apply, Run.look_apply, Script.Result.follow_value, free]
  rfl

theorem Stage.writeName (h : Stage e m) {x : Utf16} {u : Value}
    (there : e.own? m .global (.ofUnits x) = some (.plain u)) (v : Value)
    (strict : Bool) : e.writeName .global x v strict m = .value () (Action.assigned (.ofUnits x) v m) := by
  have found : Script.Engine.Found e m x 1 .global (.property .global) :=
    .global h.outermost (Script.Engine.find?_of_own there)
  rw [Script.Engine.writeName, Run.bind_apply, found.holder (Nat.le_add_left 1 _)]
  show e.putObject .global (.ofUnits x) v strict m = _
  rw [Script.Engine.putObject, Run.bind_apply, Run.look_apply, Script.Result.follow_value, there]
  dsimp only [Slot.plain]
  rw [Run.bind_apply, Run.object_apply, Script.Result.follow_value, h.plain]
  rfl

theorem Stage.readName (h : Stage e m) {x : Utf16} {v : Value}
    (there : e.own? m .global (.ofUnits x) = some (.plain v)) :
    e.readName .global x m = .value v m := Script.Engine.readName_global h.scope there

end ScriptHost.Session.Action
