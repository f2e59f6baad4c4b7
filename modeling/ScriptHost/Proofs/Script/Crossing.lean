/-
Lists on their way out of the engine. A list crosses as the trees of its items, unless a rule for writing
objects out is found along its parents. Primitive values have no rule, and trees of their own.
-/
import ScriptHost.Script.Engine
import ScriptHost.Proofs.Script.Property

namespace ScriptHost.Script

/-- A list of values as an object. -/
def Obj.listing (vs : List Value) : Obj :=
  { kind := .array vs.length false, parent := some .arrayParent, slots := Run.itemSlots 0 vs [] }

namespace Engine

variable {e : Engine} {m n : Machine} {r : Ref}

/-! ## Rules -/

/-- No rule for writing the object out can be called, and none is to be fetched. -/
def unruled (e : Engine) (m : Machine) (r : Ref) : Bool :=
  match e.find? m r "toJSON" with
  | none => true
  | some (_, .accessor get _ _ _) => get.isNone
  | some (_, .data (.object f) _ _ _) => !(m.object f).isCallable
  | some (_, .data _ _ _ _) => true

theorem unruled_of_lacks (h : e.Lacks m "toJSON" r) : e.unruled m r = true := by
  rw [unruled, h.find?]

/-- What is found depends on what each object has, and on what its parent is. -/
theorem find?_congr {k : Key} (size : n.heap.size = m.heap.size) (own : ∀ r, e.own? n r k = e.own? m r k)
    (parent : ∀ r, (n.object r).parent = (m.object r).parent) (r : Ref) : e.find? n r k = e.find? m r k := by
  have upTo : ∀ levels r, e.findUpTo n k levels r = e.findUpTo m k levels r := by
    intro levels
    induction levels with
    | zero => exact fun _ => rfl
    | succ levels ih =>
      intro r
      simp only [findUpTo, own, parent, ih]
  rw [find?, find?, upTo, size]

/-- Rules depend on what is found under their key, and on what can be called. -/
theorem unruled_congr (size : n.heap.size = m.heap.size)
    (own : ∀ r, e.own? n r "toJSON" = e.own? m r "toJSON")
    (parent : ∀ r, (n.object r).parent = (m.object r).parent)
    (callable : ∀ r, (n.object r).isCallable = (m.object r).isCallable) (r : Ref) :
    e.unruled n r = e.unruled m r := by
  simp only [unruled, find?_congr size own parent, callable]

theorem get_unruled (unruled : e.unruled m r = true) :
    ∃ f, e.get (.object r) "toJSON" m = .value f m ∧ isCallable f m = .value false m := by
  unfold Engine.unruled at unruled
  simp only [get, getFrom, Run.bind_apply, Run.look_apply, Result.follow_value]
  rcases found : e.find? m r "toJSON" with _ | ⟨q, slot⟩ <;> rw [found] at unruled
  · exact ⟨.undefined, rfl, rfl⟩
  · rcases slot with ⟨v, w, en, c⟩ | ⟨g, s, en, c⟩
    · refine ⟨v, rfl, ?_⟩
      cases v with
      | object f =>
        have plain : (m.object f).isCallable = false := by simpa using unruled
        rw [isCallable, Run.bind_apply, Run.object_apply, Result.follow_value, plain]
        rfl
      | _ => rfl
    · obtain rfl : g = none := by simpa using unruled
      exact ⟨.undefined, rfl, rfl⟩

/-- Where no rule is met an object stands for itself. -/
theorem jsonValue_unruled (unruled : e.unruled m r = true) (holder : Value) (k : Key) :
    e.jsonValue {} holder k (.object r) m = .value (.object r) m := by
  obtain ⟨f, got, callable⟩ := get_unruled unruled
  simp only [jsonValue, Run.bind_apply, got, callable, Result.follow_value]
  rfl

/-! ## Lists of primitive values -/

theorem toUnits_primitive {v : Value} (primitive : v.ref? = none) (m : Machine) :
    e.toUnits v m = .value v.primitiveUnits m := by
  cases v with
  | object r => cases primitive
  | _ => rfl

theorem jsonTree_primitive {v : Value} (primitive : v.ref? = none) (around : List Ref) (holder : Value)
    (k : Key) (m : Machine) : e.jsonTree {} around holder k v m = .value (jsonPrimitive v) m := by
  cases v with
  | object r => cases primitive
  | _ => rfl

/-- The tree of a primitive value as an item. -/
def itemTree (v : Value) : Json := (jsonPrimitive v).getD .null

/-- The items of a list of primitive values, from one on. -/
theorem jsonItems_primitive (around : List Ref) {vs : List Value} (primitive : ∀ v ∈ vs, v.ref? = none)
    (items : ∀ i v, vs[i]? = some v → (above e).own? m r (.ofNat i) = some (.plain v)) :
    ∀ k i, i + k = vs.length →
      (above e).jsonItems {} around r i k m = .value ((vs.drop i).map itemTree) m := by
  intro k
  induction k with
  | zero =>
    intro i all
    rw [List.drop_eq_nil_of_le (by omega)]
    rfl
  | succ k ih =>
    intro i all
    have inside : i < vs.length := by omega
    have here : vs[i]? = some vs[i] := List.getElem?_eq_getElem inside
    have item : (above e).jsonItem {} around r i m = .value (itemTree vs[i]) m := by
      have tree : (above e).json {} around (.object r) (.ofNat i) vs[i] m =
          .value (jsonPrimitive vs[i]) m :=
        jsonTree_primitive (e := e) (primitive _ (List.getElem_mem inside)) _ _ _ m
      rw [jsonItem, Run.bind_apply, get_of_find (find?_of_own (items i _ here)), Result.follow_value]
      simp only [Run.bind_apply, tree, Result.follow_value]
      rfl
    rw [jsonItems, Run.bind_apply, item, Result.follow_value]
    simp only [Run.bind_apply, ih (i + 1) (by omega), Result.follow_value, List.drop_eq_getElem_cons inside]
    rfl

/-- A list of primitive values crosses as it is where it meets no rule. -/
theorem jsonTree_list {vs : List Value} (other : r ≠ .global) (there : m.object r = .listing vs)
    (unruled : (above e).unruled m r = true) (primitive : ∀ v ∈ vs, v.ref? = none)
    (items : ∀ i v, vs[i]? = some v → (Obj.listing vs).own? (.ofNat i) = some (.plain v))
    (length : (above e).toLength (.number (Float.ofNat vs.length)) m = .value vs.length m) :
    (above e).jsonTree {} [] .undefined (.name []) (.object r) m =
      .value (some (.array (vs.map itemTree))) m := by
  have own : ∀ k, (above e).own? m r k = (Obj.listing vs).own? k := fun k => by
    rw [own?_of_ne other, there]
  have size : (above e).lengthOf r m = .value vs.length m := by
    have found : (Obj.listing vs).own? .length =
      some (.data (.number (Float.ofNat vs.length)) true false false) := rfl
    rw [lengthOf, Run.bind_apply, get_of_find (find?_of_own ((own .length).trans found))]
    exact length
  have trees : (above e).jsonItems {} [r] r 0 vs.length m = .value (vs.map itemTree) m :=
    jsonItems_primitive [r] primitive (fun i v at_i => (own _).trans (items i v at_i)) _ 0 (Nat.zero_add _)
  have list : (above e).jsonObject {} [] r m = .value (.array (vs.map itemTree)) m := by
    rw [jsonObject, if_neg (by simp), Run.bind_apply, Run.object_apply, there, Result.follow_value]
    simp only [Obj.listing, Run.bind_apply, size, Result.follow_value, trees]
    rfl
  rw [jsonTree, Run.bind_apply, jsonValue_unruled unruled, Result.follow_value]
  simp only [Run.bind_apply, Run.object_apply, there, Result.follow_value]
  show ((above e).jsonObject {} [] r >>= fun t => pure (some t)) m = _
  rw [Run.bind_apply, list]
  rfl

end Engine

end ScriptHost.Script
