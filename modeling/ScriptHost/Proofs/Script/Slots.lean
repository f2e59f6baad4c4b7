/-
The properties that an object itself has, after one of them was put in place or removed and after a list
was shortened. What an object can become is limited: it stays of its kind, and a property that holds an
object and is neither writable nor configurable stays with it, since every change to a property is one
that the property itself allows.
-/
import ScriptHost.Proofs.Script.Property

namespace ScriptHost.Script

/-- What an object has by its kind alone: the length of a list, and what a string holds. -/
def Kind.slot? : Kind → Key → Option Slot
  | .array n fixed, k =>
    if k = .length then some (.data (.number (Float.ofNat n)) (!fixed) false false) else none
  | .boxed (.string s), k => Obj.stringSlot? s k
  | _, _ => none

namespace Obj

variable {o : Obj} {k l : Key} {s : Slot} {f : Ref} {en : Bool}

/-- What an object has by its kind comes before what it was given. -/
theorem own?_eq (o : Obj) (k : Key) : o.own? k = (o.kind.slot? k).or (o.slot? k) := by
  unfold own? Kind.slot?
  cases o.kind with
  | array n fixed =>
    dsimp only
    split <;> rfl
  | boxed v =>
    cases v with
    | string s =>
      dsimp only
      cases stringSlot? s k <;> rfl
    | _ => rfl
  | _ => rfl

/-! ## Putting in place and removing -/

theorem find?_replaceSlot (k l : Key) (s : Slot) (xs : List (Key × Slot)) :
    (replaceSlot k s xs).find? (·.1 = l) =
      if l = k then if xs.any (·.1 = k) then some (k, s) else none else xs.find? (·.1 = l) := by
  induction xs with
  | nil => simp [replaceSlot]
  | cons x rest ih =>
    rw [replaceSlot]
    by_cases here : x.1 = k
    · by_cases same : l = k
      · simp [here, same]
      · simp [here, same, Ne.symm same]
    · rw [if_neg here, List.find?_cons, ih]
      by_cases same : l = k
      · rw [if_pos same, if_pos same, decide_eq_false fun found => here (found.trans same),
          List.any_cons, decide_eq_false here, Bool.false_or]
      · simp [same, List.find?_cons]

/-- A property that is put replaces the one under its key and no other one, -/
theorem slot?_put (k l : Key) (s : Slot) (o : Obj) :
    (o.put k s).slot? l = if l = k then some s else o.slot? l := by
  unfold put
  split
  · next among =>
    rw [slot?, find?_replaceSlot, if_pos among]
    by_cases same : l = k
    · rw [if_pos same, if_pos same]
    · rw [if_neg same, if_neg same, slot?]
  · rw [slot?, List.find?_cons]
    by_cases same : l = k
    · simp [same]
    · simp [same, Ne.symm same, slot?]

theorem put_kind (k : Key) (s : Slot) (o : Obj) : (o.put k s).kind = o.kind := by
  unfold put
  split <;> rfl

theorem put_parent (k : Key) (s : Slot) (o : Obj) : (o.put k s).parent = o.parent := by
  unfold put
  split <;> rfl

/-- also where the object is a list, which grows with it. -/
theorem slot?_place (k l : Key) (s : Slot) (o : Obj) :
    (o.place k s).slot? l = if l = k then some s else o.slot? l := by
  rw [← slot?_put]
  unfold place
  dsimp only
  split
  · split <;> rfl
  · rfl

theorem slot?_remove (ne : l ≠ k) (o : Obj) : (o.remove k).slot? l = o.slot? l := by
  have kept : (o.slots.filter (·.1 ≠ k)).find? (·.1 = l) = o.slots.find? (·.1 = l) := by
    rw [List.find?_filter]
    congr 1
    funext x
    by_cases here : x.1 = l
    · simp [here, ne]
    · simp [here]
  rw [slot?, slot?, remove, kept]

theorem own?_put_of_ne (ne : l ≠ k) (s : Slot) (o : Obj) : (o.put k s).own? l = o.own? l := by
  rw [own?_eq, own?_eq, put_kind, slot?_put, if_neg ne]

/-- Removing one property keeps the others. -/
theorem own?_remove (ne : l ≠ k) (o : Obj) : (o.remove k).own? l = o.own? l := by
  rw [own?_eq, own?_eq, slot?_remove ne]
  rfl

/-! ## Shortening -/

/-- The step that finds how long a list stays. -/
def stayStep (n acc : Nat) (x : Key × Slot) : Nat :=
  match x.1 with
  | .index i => if n ≤ i && !x.2.configurable then max acc (i + 1) else acc
  | .name _ => acc

theorem le_stayStep (n acc : Nat) (x : Key × Slot) : acc ≤ stayStep n acc x := by
  unfold stayStep
  split
  · split
    · exact Nat.le_max_left _ _
    · exact Nat.le_refl _
  · exact Nat.le_refl _

theorem le_foldl_stayStep (n : Nat) (xs : List (Key × Slot)) : ∀ acc, acc ≤ xs.foldl (stayStep n) acc := by
  induction xs with
  | nil => exact fun acc => Nat.le_refl acc
  | cons x rest ih => exact fun acc => Nat.le_trans (le_stayStep n acc x) (ih _)

/-- An item that may not go is among those that stay. -/
theorem lt_foldl_stayStep {n i : Nat} {xs : List (Key × Slot)} (among : (.index i, s) ∈ xs)
    (stays : s.configurable = false) : ∀ acc, n ≤ acc → i < xs.foldl (stayStep n) acc := by
  induction xs with
  | nil => cases among
  | cons x rest ih =>
    intro acc le
    rw [List.foldl_cons]
    rcases List.mem_cons.mp among with rfl | among
    · refine Nat.lt_of_lt_of_le ?_ (le_foldl_stayStep n rest _)
      by_cases far : n ≤ i
      · simp only [stayStep, far, stays, decide_true, Bool.not_false, Bool.and_self, if_true]
        exact Nat.le_max_right _ _
      · exact Nat.lt_of_lt_of_le (Nat.lt_of_not_le far) (Nat.le_trans le (le_stayStep n acc _))
    · exact ih among _ (Nat.le_trans le (le_stayStep n acc x))

theorem mem_of_slot? (there : o.slot? k = some s) : (k, s) ∈ o.slots := by
  rw [slot?] at there
  split at there
  · next found =>
    cases there
    have key := List.find?_some found
    have mem := List.mem_of_find?_eq_some found
    simp only [decide_eq_true_eq] at key
    exact key ▸ mem
  · cases there

/-- How long a list stays that is to have `n` items. -/
def stays (n : Nat) (o : Obj) : Nat := o.slots.foldl (stayStep n) n

theorem slots_truncate (n : Nat) (o : Obj) :
    (o.truncate n).1.slots = o.slots.filter fun x => match x.1 with
      | .index i => decide (i < o.stays n)
      | .name _ => true := rfl

/-- A list that may not change its length. -/
def isFixed (o : Obj) : Bool :=
  match o.kind with
  | .array _ f => f
  | _ => false

/-- What stays of a list that is to have `n` items. -/
def fits (n : Nat) (x : Key × Slot) : Bool :=
  match x.1 with
  | .index i => decide (i < n)
  | .name _ => true

/-- A list that is cut off keeps the slots that fit what stays. -/
theorem truncate_eq (n : Nat) (o : Obj) : o.truncate n =
    ({ o with kind := .array (o.stays n) o.isFixed, slots := o.slots.filter (fits (o.stays n)) },
      decide (o.stays n = n)) := rfl

/-- What may not go is there when the list was shortened. -/
theorem slot?_truncate (n : Nat) (there : o.slot? k = some s) (stuck : s.configurable = false) :
    (o.truncate n).1.slot? k = some s := by
  have kept : ∀ x : Key × Slot, x.1 = k → (match x.1 with
      | .index i => decide (i < o.stays n)
      | .name _ => true) = true := by
    rintro x rfl
    split
    · next i key =>
      refine decide_eq_true (lt_foldl_stayStep ?_ stuck n (Nat.le_refl n))
      exact key ▸ mem_of_slot? there
    · rfl
  rw [← there, slot?, slot?, slots_truncate, List.find?_filter]
  congr 2
  funext x
  by_cases here : x.1 = k
  · simp only [kept x here, true_and, Bool.decide_eq_true]
  · simp [here]

/-! ## Fixed properties -/

/-- A property holds an object and can be neither changed nor removed. -/
def Fixes (o : Obj) (k : Key) (f : Ref) (en : Bool) : Prop :=
  o.own? k = some (.data (.object f) false en false)

/-- What an object has by its kind holds no objects. -/
theorem kind_slot?_ne (kind : Kind) (k : Key) (f : Ref) (w en c : Bool) :
    kind.slot? k ≠ some (.data (.object f) w en c) := by
  unfold Kind.slot?
  split
  · split <;> nofun
  · unfold stringSlot?
    split
    · intro same
      obtain ⟨u, -, same⟩ := Option.map_eq_some_iff.mp same
      cases same
    · split <;> nofun
  · nofun

/-- What is fixed stands in the slots, not in the kind. -/
theorem fixes_iff : o.Fixes k f en ↔
    o.kind.slot? k = none ∧ o.slot? k = some (.data (.object f) false en false) := by
  rw [Fixes, own?_eq]
  rcases byKind : o.kind.slot? k with _ | s
  · simp
  · simp only [Option.some_or, reduceCtorEq, false_and, iff_false]
    exact byKind ▸ kind_slot?_ne o.kind k f false en false

end Obj

/-! ## What objects become -/

/-- What of a kind never changes: all but the length of a list, the state of a promise, and whether a
latch was used. -/
def Kind.sort : Kind → Kind
  | .array .. => .array 0 false
  | .promise _ => .promise (.pending [])
  | .latch _ => .latch false
  | k => k

/-- Which keys an object has by its kind is a matter of the sort. -/
theorem Kind.slot?_eq_none {a b : Kind} (same : b.sort = a.sort) {k : Key} (free : a.slot? k = none) :
    b.slot? k = none := by
  cases a with
  | array n fixed =>
    cases b <;> cases same
    by_cases length : k = .length
    · simp [slot?, length] at free
    · simp [slot?, length]
  | boxed v =>
    cases b <;> cases same
    exact free
  | _ =>
    cases b <;> cases same
    rfl

/-- `p` is what `o` can become. -/
structure Obj.Becomes (o p : Obj) : Prop where
  sort : p.kind.sort = o.kind.sort
  fixes : ∀ {k : Key} {f : Ref} {en : Bool}, o.Fixes k f en → p.Fixes k f en

namespace Obj

variable {o p : Obj} {k : Key} {s : Slot}

theorem Becomes.refl (o : Obj) : o.Becomes o := ⟨rfl, id⟩

theorem Becomes.trans {q : Obj} (a : o.Becomes p) (b : p.Becomes q) : o.Becomes q :=
  ⟨b.sort.trans a.sort, fun fixed => b.fixes (a.fixes fixed)⟩

/-- It is enough that what is fixed is kept. -/
theorem Becomes.of_kept (sort : p.kind.sort = o.kind.sort)
    (kept : ∀ {k f en}, o.Fixes k f en → p.slot? k = o.slot? k) : o.Becomes p where
  sort := sort
  fixes fixed := by
    obtain ⟨free, slot⟩ := fixes_iff.mp fixed
    exact fixes_iff.mpr ⟨Kind.slot?_eq_none sort free, (kept fixed).trans slot⟩

/-- Nothing but the kind and the parent has changed. -/
theorem Becomes.of_slots (sort : p.kind.sort = o.kind.sort) (slots : p.slots = o.slots) : o.Becomes p :=
  .of_kept sort fun _ => by rw [slot?, slot?, slots]

/-- Placing a property makes no object of another sort. -/
theorem place_sort (k : Key) (s : Slot) (o : Obj) : (o.place k s).kind.sort = o.kind.sort := by
  rw [← put_kind k s o]
  unfold place
  cases h : (o.put k s).kind <;> cases k <;> simp only [h]
  split
  · rfl
  · rw [h]

/-- A fixed property is replaced by itself only. -/
theorem becomes_put (same : ∀ f en, o.Fixes k f en → s = .data (.object f) false en false) :
    o.Becomes (o.put k s) := by
  refine .of_kept (by rw [put_kind]) fun {l f en} fixed => ?_
  rw [slot?_put]
  split
  · next here =>
    subst here
    rw [(fixes_iff.mp fixed).2, same f en fixed]
  · rfl

theorem becomes_place (same : ∀ f en, o.Fixes k f en → s = .data (.object f) false en false) :
    o.Becomes (o.place k s) := by
  refine .of_kept (place_sort k s o) fun {l f en} fixed => ?_
  rw [slot?_place]
  split
  · next here =>
    subst here
    rw [(fixes_iff.mp fixed).2, same f en fixed]
  · rfl

/-- A property that is not fixed can be removed. -/
theorem becomes_remove (free : ∀ f en, ¬ o.Fixes k f en) : o.Becomes (o.remove k) := by
  refine .of_kept rfl fun {l f en} fixed => slot?_remove (fun here => ?_) o
  subst here
  exact free f en fixed

/-- A list can be cut off, since its fixed items stay. -/
theorem becomes_truncate {m : Nat} {fixed : Bool} (list : o.kind = .array m fixed) (n : Nat) :
    o.Becomes (o.truncate n).1 := by
  refine .of_kept (by rw [list]; rfl) fun {l f en} fixed => ?_
  rw [(fixes_iff.mp fixed).2]
  exact slot?_truncate n (fixes_iff.mp fixed).2 rfl

end Obj

/-- A fixed property is found by every engine. -/
theorem Obj.Fixes.own? {e : Engine} {m : Machine} {r f : Ref} {k : Key} {en : Bool}
    (fixed : (m.object r).Fixes k f en) : e.own? m r k = some (.data (.object f) false en false) :=
  Engine.own?_of_object fixed

end ScriptHost.Script
