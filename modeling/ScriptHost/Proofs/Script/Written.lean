/-
Values that can be written out. A value that is no more than data spells a tree: primitive values and,
without being a part of itself, lists of such values and plain objects with such properties. Writing it out
runs nothing and changes nothing, where objects inherit no rule for it.
-/
import ScriptHost.Proofs.Script.Trees
import ScriptHost.Proofs.Script.Arguments

namespace ScriptHost.Script

open Machine

/-! ## Heights -/

namespace Json

mutual

/-- How many trees are inside of each other. -/
def height : Json → Nat
  | .null | .bool _ | .number _ | .string _ => 0
  | .array items => heights items + 1
  | .object entries => entryHeights entries + 1

def heights : List Json → Nat
  | [] => 0
  | j :: rest => max j.height (heights rest)

def entryHeights : List (Utf16 × Json) → Nat
  | [] => 0
  | (_, j) :: rest => max j.height (entryHeights rest)

end

end Json

/-! ## Spelling trees -/

/-- A plain object: it inherits from the parent of all objects and can take more properties. -/
structure Obj.Plain (o : Obj) : Prop where
  kind : o.kind = .plain
  parent : o.parent = some .objectParent
  extensible : o.extensible = true

mutual

/-- A value spells a tree; it stands inside of the objects `around`, and is none of them. -/
inductive Spells (m : Machine) : List Ref → Value → Json → Prop
  | null {around : List Ref} : Spells m around .null .null
  | bool {around : List Ref} (b : Bool) : Spells m around (.bool b) (.bool b)
  | number {around : List Ref} {x : Float} (finite : x.isFinite = true) : Spells m around (.number x) (.number x)
  | string {around : List Ref} (s : Utf16) : Spells m around (.string s) (.string s)
  | list {around : List Ref} {r : Ref} {vs : List Value} {items : List Json} (apart : r ∉ around) (other : r ≠ .global)
      (there : m.object r = .listing vs) (room : vs.length ≤ Key.indexLimit)
      (all : SpellItems m (r :: around) vs items) : Spells m around (.object r) (.array items)
  | object {around : List Ref} {r : Ref} {entries : List (Utf16 × Json)} (apart : r ∉ around) (other : r ≠ .global)
      (plain : (m.object r).Plain) (all : SpellEntries m (r :: around) r (m.object r).keys entries) :
      Spells m around (.object r) (.object entries)

/-- Values spell trees, one by one. -/
inductive SpellItems (m : Machine) : List Ref → List Value → List Json → Prop
  | nil {around : List Ref} : SpellItems m around [] []
  | cons {around : List Ref} {v : Value} {vs : List Value} {j : Json} {js : List Json} (first : Spells m around v j)
      (rest : SpellItems m around vs js) : SpellItems m around (v :: vs) (j :: js)

/-- The properties under these keys spell trees. -/
inductive SpellEntries (m : Machine) : List Ref → Ref → List Key → List (Utf16 × Json) → Prop
  | nil {around : List Ref} {r : Ref} : SpellEntries m around r [] []
  | cons {around : List Ref} {r : Ref} {k : Key} {ks : List Key} {v : Value} {j : Json} {entries : List (Utf16 × Json)}
      (here : (m.object r).slot? k = some (.plain v)) (first : Spells m around v j)
      (rest : SpellEntries m around r ks entries) : SpellEntries m around r (k :: ks) ((k.units, j) :: entries)

end

namespace Obj

/-- The step that gathers the keys that are names. -/
def addName (acc : List Key) (x : Key × Slot) : List Key :=
  match x.1 with
  | .index _ => acc
  | .name _ => x.1 :: acc

theorem mem_keys_name {o : Obj} {s : Utf16} {slot : Slot} (there : o.slot? (.name s) = some slot) :
    Key.name s ∈ o.keys := by
  have among : ∃ x ∈ o.slots, x.1 = Key.name s := by
    unfold slot? at there
    split at there
    · next k t found => exact ⟨_, List.mem_of_find?_eq_some found, by simpa using List.find?_some found⟩
    · cases there
  have step : ∀ (xs : List (Key × Slot)) (acc : List Key), (∃ x ∈ xs, x.1 = Key.name s) ∨ Key.name s ∈ acc →
      Key.name s ∈ xs.foldl addName acc := by
    intro xs
    induction xs with
    | nil => simp
    | cons x xs ih =>
      rintro acc (⟨⟨k, t⟩, among, named⟩ | before)
      · rcases List.mem_cons.mp among with rfl | among
        · refine ih _ (.inr ?_)
          obtain rfl : k = .name s := named
          exact List.mem_cons_self
        · exact ih _ (.inl ⟨_, among, named⟩)
      · refine ih _ (.inr ?_)
        rcases x with ⟨_ | _, _⟩
        · exact before
        · exact List.mem_cons_of_mem _ before
  exact List.mem_append_right _ (step o.slots [] (.inl among))

end Obj

variable {m n : Machine}

/-- What spells a tree is no function. -/
theorem Spells.not_callable {around : List Ref} {v : Value} {j : Json} (h : Spells m around v j) :
    Engine.isCallable v m = .value false m := by
  cases h with
  | list _ _ there _ _ =>
    rw [Engine.isCallable, Run.bind_apply, Run.object_apply, there]
    rfl
  | object _ _ plain _ =>
    rw [Engine.isCallable, Run.bind_apply, Run.object_apply, Result.follow_value, Obj.isCallable, plain.kind]
    rfl
  | _ => rfl

/-! ## What comes later -/

section Kept

variable {extra : List Ref}

mutual

/-- What spells a tree does so where nothing that was there has changed, and inside of new objects. -/
theorem Spells.kept (fresh : ∀ q ∈ extra, m.heap.size ≤ q.index) (same : m.Within n) :
    ∀ {around : List Ref} {v : Value} {j : Json}, Spells m around v j → Spells n (around ++ extra) v j
  | _, _, _, .null => .null
  | _, _, _, .bool b => .bool b
  | _, _, _, .number finite => .number finite
  | _, _, _, .string s => .string s
  | around, _, _, .list (r := r) apart other there room all => by
    have inside : r.index < m.heap.size := lt_of_parent (by rw [there]; rfl)
    refine .list (fun among => ?_) other ((same r inside).trans there) room (all.kept fresh same)
    rcases List.mem_append.mp among with before | new
    · exact apart before
    · exact Nat.not_le_of_lt inside (fresh r new)
  | around, _, _, .object (r := r) apart other plain all => by
    have inside : r.index < m.heap.size := lt_of_parent plain.parent
    have all' := all.kept fresh same inside
    rw [← same r inside] at plain all'
    refine .object (fun among => ?_) other plain all'
    rcases List.mem_append.mp among with before | new
    · exact apart before
    · exact Nat.not_le_of_lt inside (fresh r new)

theorem SpellItems.kept (fresh : ∀ q ∈ extra, m.heap.size ≤ q.index) (same : m.Within n) :
    ∀ {around : List Ref} {vs : List Value} {js : List Json},
      SpellItems m around vs js → SpellItems n (around ++ extra) vs js
  | _, _, _, .nil => .nil
  | _, _, _, .cons first rest => .cons (first.kept fresh same) (rest.kept fresh same)

theorem SpellEntries.kept (fresh : ∀ q ∈ extra, m.heap.size ≤ q.index) (same : m.Within n) :
    ∀ {around : List Ref} {r : Ref} {ks : List Key} {es : List (Utf16 × Json)},
      SpellEntries m around r ks es → r.index < m.heap.size → SpellEntries n (around ++ extra) r ks es
  | _, _, _, _, .nil, _ => .nil
  | _, r, _, _, .cons here first rest, inside =>
    .cons (by rw [same r inside, here]) (first.kept fresh same) (rest.kept fresh same inside)

end

end Kept

/-! ## Writing out -/

section Entries

variable {b : List (Key × Ref)} {r : Ref} {around : List Ref} {ks : List Key} {es : List (Utf16 × Json)}

theorem SpellEntries.slot : ∀ {ks : List Key} {es : List (Utf16 × Json)}, SpellEntries m around r ks es →
    ∀ k ∈ ks, ∃ v j, (m.object r).slot? k = some (.plain v) ∧ Spells m around v j
  | _, _, .cons here first rest, k, among => by
    rcases List.mem_cons.mp among with rfl | among
    · exact ⟨_, _, here, first⟩
    · exact rest.slot k among

namespace Engine

theorem own?_plain {e : Engine} (other : r ≠ .global) (plain : (m.object r).Plain) (k : Key) :
    e.own? m r k = (m.object r).slot? k := by
  rw [own?_of_ne other, Obj.own?_eq, plain.kind]
  rfl

/-- A list meets no rule where lists inherit none. -/
theorem unruled_listing {e : Engine} (h : Intact e m) {vs : List Value} (other : r ≠ .global)
    (there : m.object r = .listing vs) (room : vs.length ≤ Key.indexLimit) : e.unruled m r = true := by
  have own : e.own? m r "toJSON" = none := by
    rw [own?_of_ne other, there]
    exact Obj.own?_listing_name room (by decide +kernel)
  exact unruled_of_lacks (.above own (by rw [there]; rfl)
    (.above h.noRule.1 h.arrays (.root h.noRule.2 h.objects)))

/-- Nor does an object, since what it has under the key of the rule spells a tree and is no function. -/
theorem unruled_plain {e : Engine} (h : Intact e m) (other : r ≠ .global) (plain : (m.object r).Plain)
    (all : SpellEntries m around r (m.object r).keys es) : e.unruled m r = true := by
  have name : ("toJSON" : Key) = .name (Utf16.ofString "toJSON") := by decide +kernel
  rcases slot : (m.object r).slot? "toJSON" with _ | s
  · exact unruled_of_lacks (.above ((own?_plain other plain _).trans slot) plain.parent (.root h.noRule.2 h.objects))
  · obtain ⟨v, j, here, spells⟩ := all.slot _ (name ▸ Obj.mem_keys_name (name ▸ slot))
    have callable := spells.not_callable
    have found := find?_of_own ((own?_plain (e := e) other plain "toJSON").trans here)
    cases v with
    | object f =>
      rw [isCallable, Run.bind_apply, Run.object_apply, Result.follow_value] at callable
      injection callable with callable
      simp only [unruled, found, Slot.plain, callable, Bool.not_false]
    | _ => simp only [unruled, found, Slot.plain]

/-- What spells a tree takes another property, or another value of one that it has. -/
theorem put_plain {e : Engine} (h : Intact e m) (other : r ≠ .global) (plain : (m.object r).Plain)
    (all : SpellEntries m around r (m.object r).keys es) {name : Utf16}
    (inherited : e.own? m .objectParent (.name name) = none) (v : Value) (strict : Bool) :
    e.put (.object r) (.name name) v strict m = .value () (m.updated r (Obj.put (.name name) (.plain v))) := by
  have placed : ∀ s : Slot, (m.object r).place (.name name) s = (m.object r).put (.name name) s := by
    intro s
    simp only [Obj.place, Obj.put_kind, plain.kind]
  show e.putObject r (.name name) v strict m = _
  rw [putObject, Run.bind_apply, Run.look_apply, Result.follow_value, own?_plain other plain]
  rcases slot : (m.object r).slot? (.name name) with _ | s
  · have lacks : e.Lacks m (.name name) r :=
      .above ((own?_plain other plain _).trans slot) plain.parent (.root inherited h.objects)
    dsimp only
    rw [Run.bind_apply, Run.look_apply, Result.follow_value, lacks.find?]
    dsimp only
    rw [addSlot, Run.bind_apply, Run.object_apply, Result.follow_value, plain.extensible, plain.kind]
    exact (update_apply _ _ m).trans (congrArg _ (updated_congr (placed _)))
  · obtain ⟨u, j, here, -⟩ := all.slot _ (Obj.mem_keys_name slot)
    rw [slot] at here
    cases here
    dsimp only [Slot.plain]
    rw [Run.bind_apply, Run.object_apply, Result.follow_value, plain.kind]
    rfl

/-- All properties of an object that spells a tree are seen by loops over its keys. -/
theorem enumerableKeys_plain {e : Engine} (other : r ≠ .global) (plain : (m.object r).Plain)
    (all : SpellEntries m around r (m.object r).keys es) : e.enumerableKeys m r = (m.object r).keys := by
  have keys : e.ownKeys m r = (m.object r).keys := by
    rw [ownKeys, if_neg other, Obj.ownKeys, plain.kind]
  rw [enumerableKeys, keys, List.filter_eq_self]
  intro k among
  obtain ⟨v, j, here, -⟩ := all.slot k among
  rw [own?_plain other plain, here]
  rfl

section Levels

variable {d : Nat}

theorem jsonTree_object {e : Engine} {j : Json} (unruled : e.unruled m r = true) (holder : Value) (k : Key)
    (kind : (∃ n fixed, (m.object r).kind = .array n fixed) ∨ (m.object r).kind = .plain)
    (tree : e.jsonObject {} around r m = .value j m) :
    e.jsonTree {} around holder k (.object r) m = .value (some j) m := by
  have written : (do return some (← e.jsonObject {} around r) : Run (Option Json)) m = .value (some j) m := by
    rw [Run.bind_apply, tree]
    rfl
  rw [jsonTree, Run.bind_apply, jsonValue_unruled unruled, Result.follow_value]
  dsimp only
  rw [Run.bind_apply, Run.object_apply, Result.follow_value]
  rcases kind with ⟨n, fixed, kind⟩ | kind
  all_goals
    rw [kind, Obj.isCallable, kind]
    exact written

mutual

/-- A value that spells a tree is written out as that, by engines with a level for each of the tree. -/
theorem jsonTree_spells (h : Intact (bottom b) m) : ∀ {around : List Ref} {v : Value} {j : Json} {d : Nat},
    Spells m around v j → j.height ≤ d → ∀ (holder : Value) (k : Key),
      (ofDepth b d).jsonTree {} around holder k v m = .value (some j) m
  | _, _, _, _, .null, _, _, _ | _, _, _, _, .bool _, _, _, _ | _, _, _, _, .string _, _, _, _ => rfl
  | _, _, _, _, .number finite, _, holder, k => by
    rw [jsonTree_primitive rfl, jsonPrimitive, if_pos finite]
  | around, _, _, d + 1, .list (r := r) apart other there room all, levels, holder, k => by
    have intact : Intact (ofDepth b (d + 1)) m := h.of_bindings (ofDepth_bindings b (d + 1))
    refine jsonTree_object (unruled_listing intact other there room) holder k
      (.inl ⟨_, false, by rw [there]; rfl⟩) ?_
    have limit : Key.indexLimit = 4294967295 := rfl
    have items := jsonItems_spells h all (Nat.le_of_succ_le_succ levels) other there room 0 rfl
    rw [jsonObject, if_neg (by simpa using apart), Run.bind_apply, Run.object_apply, there, Result.follow_value]
    simp only [Obj.listing, Run.bind_apply, lengthOf_listing other there (by omega), Result.follow_value]
    rw [items]
    rfl
  | around, _, _, d + 1, .object (r := r) apart other plain all, levels, holder, k => by
    have intact : Intact (ofDepth b (d + 1)) m := h.of_bindings (ofDepth_bindings b (d + 1))
    refine jsonTree_object (unruled_plain intact other plain all) holder k (.inr plain.kind) ?_
    have entries := jsonEntries_spells h all (Nat.le_of_succ_le_succ levels) other plain
    rw [jsonObject, if_neg (by simpa using apart), Run.bind_apply, Run.object_apply, Result.follow_value,
      plain.kind]
    dsimp only
    rw [Run.bind_apply, Run.look_apply, Result.follow_value, enumerableKeys_plain other plain all, Run.bind_apply,
      entries]
    rfl

theorem jsonItems_spells (h : Intact (bottom b) m) : ∀ {around : List Ref} {vs : List Value} {js : List Json} {d : Nat}
    {r : Ref} {us : List Value}, SpellItems m around vs js → Json.heights js ≤ d → r ≠ .global →
      m.object r = .listing us → us.length ≤ Key.indexLimit → ∀ i, us.drop i = vs →
        (ofDepth b (d + 1)).jsonItems {} around r i vs.length m = .value js m
  | _, _, _, _, _, _, .nil, _, _, _, _, _, _ => rfl
  | around, _, _, d, r, us, .cons (v := v) (j := j) first rest, levels, other, there, room, i, at_i => by
    have inside : i < us.length := by
      by_contra out
      rw [List.drop_eq_nil_of_le (Nat.le_of_not_lt out)] at at_i
      cases at_i
    rw [List.drop_eq_getElem_cons inside] at at_i
    injection at_i with here behind
    have item : (m.object r).own? (.ofNat i) = some (.plain v) := by
      rw [there, Key.ofNat_eq (by omega), Obj.own?_listing room (by omega), List.getElem?_eq_getElem inside, here]
      rfl
    have got : (ofDepth b (d + 1)).get (.object r) (.ofNat i) m = .value v m :=
      get_of_find (find?_of_own ((own?_of_ne other).trans item))
    have tree : (ofDepth b (d + 1)).json {} around (.object r) (.ofNat i) v m = .value (some j) m :=
      jsonTree_spells h first (Nat.le_trans (Nat.le_max_left ..) levels) _ _
    have others := jsonItems_spells h rest (Nat.le_trans (Nat.le_max_right ..) levels) other there room (i + 1) behind
    have first_item : (ofDepth b (d + 1)).jsonItem {} around r i m = .value j m := by
      rw [jsonItem, Run.bind_apply, got, Result.follow_value, Run.bind_apply, tree]
      rfl
    rw [List.length_cons, jsonItems, Run.bind_apply, first_item, Result.follow_value, Run.bind_apply, others]
    rfl

theorem jsonEntries_spells (h : Intact (bottom b) m) : ∀ {around : List Ref} {r : Ref} {ks : List Key}
    {es : List (Utf16 × Json)} {d : Nat}, SpellEntries m around r ks es → Json.entryHeights es ≤ d → r ≠ .global →
      (m.object r).Plain → (ofDepth b (d + 1)).jsonEntries {} around r ks m = .value es m
  | _, _, _, _, _, .nil, _, _, _ => rfl
  | around, r, _, _, d, .cons (k := k) (v := v) (j := j) here first rest, levels, other, plain => by
    have got : (ofDepth b (d + 1)).get (.object r) k m = .value v m :=
      get_of_find (find?_of_own ((own?_plain other plain k).trans here))
    have tree : (ofDepth b (d + 1)).json {} around (.object r) k v m = .value (some j) m :=
      jsonTree_spells h first (Nat.le_trans (Nat.le_max_left ..) levels) _ _
    have others := jsonEntries_spells h rest (Nat.le_trans (Nat.le_max_right ..) levels) other plain
    rw [jsonEntries, Run.bind_apply, got, Result.follow_value, Run.bind_apply, tree, Result.follow_value]
    dsimp only
    rw [Run.bind_apply, others]
    rfl

end

end Levels

end Engine

end Entries

end ScriptHost.Script
