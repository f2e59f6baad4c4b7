/-
Trees as values of scripts. A tree becomes the value that it spells: a string or a number as such, and a
list or an object as one that was not there before, with what its parts become. A datum of the host comes
back as the value of its tree.
-/
import ScriptHost.Proofs.Script.Listing

namespace ScriptHost

open Script (Json)

namespace Datum

mutual

/-- The tree of a datum; what no tree can spell becomes null. -/
def tree : Datum → Json
  | nothing | other .. => .null
  | bool b => .bool b
  | int n => .number (Script.Number.ofInt n)
  | real x => .number x
  | text t => .string (Text.toUtf16 t)
  | list items => .array (trees items)
  | table entries => .object (treeEntries entries)

def trees : List Datum → List Json
  | [] => []
  | d :: rest => d.tree :: trees rest

def treeEntries : List (Text × Datum) → List (Utf16 × Json)
  | [] => []
  | (k, d) :: rest => (Text.toUtf16 k, d.tree) :: treeEntries rest

end

mutual

/-- Whether a tree can spell a datum. -/
def crosses : Datum → Bool
  | nothing | bool _ | int _ | text _ => true
  | real x => x.isFinite
  | list items => allCross items
  | table entries => entriesCross entries
  | other .. => false

def allCross : List Datum → Bool
  | [] => true
  | d :: rest => d.crosses && allCross rest

def entriesCross : List (Text × Datum) → Bool
  | [] => true
  | (_, d) :: rest => d.crosses && entriesCross rest

end

end Datum

namespace Script

open Machine

namespace Value

mutual

/-- A datum becomes the value of its tree, -/
theorem ofDatum_tree : ∀ d : Datum, ofDatum d = d.tree.toValue
  | .nothing | .other .. | .bool _ | .int _ | .real _ | .text _ => rfl
  | .list items => by rw [ofDatum, Datum.tree, Json.toValue, ofData_trees items]
  | .table entries => by
    rw [ofDatum, Datum.tree, Json.toValue]
    simp only [fillFrom_trees]

theorem ofData_trees : ∀ ds : List Datum, ofData ds = Json.toValues (Datum.trees ds)
  | [] => rfl
  | d :: ds => by rw [ofData, Datum.trees, Json.toValues, ofDatum_tree d, ofData_trees ds]

theorem fillFrom_trees (r : Ref) : ∀ es : List (Text × Datum), fillFrom r es = Json.fill r (Datum.treeEntries es)
  | [] => rfl
  | (k, d) :: es => by rw [fillFrom, Datum.treeEntries, Json.fill, ofDatum_tree d, fillFrom_trees r es]

end

end Value

/-- An object that got these properties one after the other. -/
def Obj.record (entries : List (Key × Value)) : Obj :=
  entries.foldl (fun o (k, v) => o.put k (.plain v)) { parent := some .objectParent }

/-- An entry behind the others is put last. -/
theorem Obj.record_concat (entries : List (Key × Value)) (k : Key) (v : Value) :
    Obj.record (entries ++ [(k, v)]) = (Obj.record entries).put k (.plain v) := List.foldl_append

theorem Obj.record_parent (entries : List (Key × Value)) : (Obj.record entries).parent = some .objectParent := by
  induction entries using List.reverseRecOn with
  | nil => rfl
  | append_singleton entries x ih => rw [Obj.record_concat, Obj.put_parent, ih]

mutual

/-- What a tree becomes; the objects that it takes are at `base` or later. -/
def Shows (base : Nat) (m : Machine) : Json → Value → Prop
  | .null, v => v = .null
  | .bool b, v => v = .bool b
  | .number x, v => v = .number x
  | .string s, v => v = .string s
  | .array items, v => ∃ r vs, v = .object r ∧ base ≤ r.index ∧ m.object r = .listing vs ∧ ShowAll base m items vs
  | .object entries, v =>
    ∃ r kvs, v = .object r ∧ base ≤ r.index ∧ m.object r = .record kvs ∧ ShowEntries base m entries kvs

def ShowAll (base : Nat) (m : Machine) : List Json → List Value → Prop
  | [], vs => vs = []
  | j :: rest, vs => ∃ v us, vs = v :: us ∧ Shows base m j v ∧ ShowAll base m rest us

def ShowEntries (base : Nat) (m : Machine) : List (Utf16 × Json) → List (Key × Value) → Prop
  | [], kvs => kvs = []
  | (k, j) :: rest, kvs => ∃ v us, kvs = (.ofUnits k, v) :: us ∧ Shows base m j v ∧ ShowEntries base m rest us

end

/-! ## What comes later -/

section Kept

variable {base base' : Nat} {m n : Machine}

mutual

/-- It is enough that the objects that a tree takes are as they were. -/
theorem Shows.kept (low : base' ≤ base)
    (same : ∀ r : Ref, base ≤ r.index → r.index < m.heap.size → n.object r = m.object r) :
    ∀ {j : Json} {v : Value}, Shows base m j v → Shows base' n j v
  | .null, _, h | .bool _, _, h | .number _, _, h | .string _, _, h => h
  | .array items, _, ⟨r, vs, at_r, new, there, all⟩ =>
    have inside : r.index < m.heap.size := lt_of_parent (by rw [there]; rfl)
    ⟨r, vs, at_r, Nat.le_trans low new, (same r new inside).trans there, ShowAll.kept low same all⟩
  | .object entries, _, ⟨r, kvs, at_r, new, there, all⟩ =>
    have inside : r.index < m.heap.size := lt_of_parent (by rw [there, Obj.record_parent])
    ⟨r, kvs, at_r, Nat.le_trans low new, (same r new inside).trans there, ShowEntries.kept low same all⟩

/-- What shows trees does so as long as its objects are kept. -/
theorem ShowAll.kept (low : base' ≤ base)
    (same : ∀ r : Ref, base ≤ r.index → r.index < m.heap.size → n.object r = m.object r) :
    ∀ {js : List Json} {vs : List Value}, ShowAll base m js vs → ShowAll base' n js vs
  | [], _, h => h
  | _ :: _, _, ⟨v, us, cons, first, rest⟩ => ⟨v, us, cons, first.kept low same, rest.kept low same⟩

theorem ShowEntries.kept (low : base' ≤ base)
    (same : ∀ r : Ref, base ≤ r.index → r.index < m.heap.size → n.object r = m.object r) :
    ∀ {es : List (Utf16 × Json)} {kvs : List (Key × Value)},
      ShowEntries base m es kvs → ShowEntries base' n es kvs
  | [], _, h => h
  | (_, _) :: _, _, ⟨v, us, cons, first, rest⟩ => ⟨v, us, cons, first.kept low same, rest.kept low same⟩

end

end Kept

/-! ## Values of trees -/

namespace Json

/-- A list is made of its items, behind all that they are made of, -/
theorem toValue_array (items : List Json) (m : Machine) :
    toValue (.array items) m = (toValues items m).follow
      (fun vs n => .value (.object n.next) (n.grown (.listing vs))) .thrown := by
  rw [toValue, Run.bind_apply]
  rfl

/-- and an object before its entries, which then fill it. -/
theorem toValue_object (entries : List (Utf16 × Json)) (m : Machine) :
    toValue (.object entries) m = (fill m.next entries (m.grown (.record []))).follow
      (fun _ n => .value (.object m.next) n) .thrown := by
  have plain : Run.allocPlain m = .value m.next (m.grown (.record [])) := rfl
  rw [toValue, Run.bind_apply, plain, Result.follow_value, Run.bind_apply]
  rfl

mutual

/-- A tree becomes a value that shows it, of new objects. -/
theorem toValue_shows : ∀ (j : Json) (m : Machine), ∃ v n, j.toValue m = .value v n ∧
    m.Extends n ∧ Shows m.heap.size n j v
  | .null, m => ⟨.null, m, rfl, .refl m, rfl⟩
  | .bool b, m => ⟨.bool b, m, rfl, .refl m, rfl⟩
  | .number x, m => ⟨.number x, m, rfl, .refl m, rfl⟩
  | .string s, m => ⟨.string s, m, rfl, .refl m, rfl⟩
  | .array items, m => by
    obtain ⟨vs, n, made, extends_n, shown⟩ := toValues_shows items m
    refine ⟨.object n.next, n.grown (.listing vs), ?_, extends_n.trans (extends_grown _ n), ?_⟩
    · rw [toValue_array, made]
      rfl
    · refine ⟨n.next, vs, rfl, extends_n.size, object_next _ n, shown.kept (Nat.le_refl _) ?_⟩
      exact fun r _ inside => object_grown _ inside
  | .object entries, m => by
    obtain ⟨kvs, n, filled, extends_n, shown⟩ := fill_shows entries (m.grown (.record [])) m.next []
      (object_next _ m) (by simp [Machine.next])
    have from_m : m.Extends n := ((extends_grown _ m).changed _ (Nat.le_refl _)).trans extends_n
    have there : n.object m.next = .record kvs := by
      rw [extends_n.object (by simp [Machine.next]), updated_object _ (by simp [Machine.next])]
      rfl
    refine ⟨.object m.next, n, ?_, from_m, m.next, kvs, rfl, Nat.le_refl _, there, ?_⟩
    · rw [toValue_object, filled]
      rfl
    · exact shown.kept (by simp) fun _ _ _ => rfl

/-- Each item shows its tree on the machine that has all of them. -/
theorem toValues_shows : ∀ (js : List Json) (m : Machine), ∃ vs n, toValues js m = .value vs n ∧
    m.Extends n ∧ ShowAll m.heap.size n js vs
  | [], m => ⟨[], m, rfl, .refl m, rfl⟩
  | j :: js, m => by
    obtain ⟨v, n, made, extends_n, shown⟩ := toValue_shows j m
    obtain ⟨vs, l, rest, extends_l, all⟩ := toValues_shows js n
    refine ⟨v :: vs, l, ?_, extends_n.trans extends_l, v, vs, rfl, ?_, ?_⟩
    · rw [toValues, Run.bind_apply, made, Result.follow_value, Run.bind_apply, rest]
      rfl
    · exact shown.kept (Nat.le_refl _) fun r _ inside => extends_l.object inside
    · exact all.kept extends_n.size fun _ _ _ => rfl

/-- Filling an object in makes it the record of all the entries, and leaves what was there besides. -/
theorem fill_shows : ∀ (es : List (Utf16 × Json)) (m : Machine) (r : Ref) (done : List (Key × Value)),
    m.object r = .record done → r.index < m.heap.size → ∃ kvs n, fill r es m = .value () n ∧
      (m.updated r fun _ => .record (done ++ kvs)).Extends n ∧ ShowEntries m.heap.size n es kvs
  | [], m, r, done, here, _ => by
    refine ⟨[], m, rfl, ?_, rfl⟩
    rw [List.append_nil, updated_self _ here.symm]
    exact .refl m
  | (k, j) :: es, m, r, done, here, there => by
    obtain ⟨v, n, made, extends_n, shown⟩ := toValue_shows j m
    let key : Key := .ofUnits k
    have still : n.object r = .record done := (extends_n.object there).trans here
    have there' : r.index < n.heap.size := Nat.lt_of_lt_of_le there extends_n.size
    have put : n.updated r (Obj.put key (.plain v)) = n.updated r fun _ => .record (done ++ [(key, v)]) :=
      updated_congr (by rw [still, Obj.record_concat])
    obtain ⟨kvs, l, filled, extends_l, rest⟩ := fill_shows es
      (n.updated r fun _ => .record (done ++ [(key, v)])) r (done ++ [(key, v)])
      (updated_object _ there') (by simpa using there')
    rw [updated_updated, List.append_assoc, List.singleton_append] at extends_l
    refine ⟨(key, v) :: kvs, l, ?_, (extends_n.updated _ there).trans extends_l, v, kvs, rfl, ?_, ?_⟩
    · rw [fill, Run.bind_apply, made, Result.follow_value, Run.bind_apply, update_apply, put]
      exact filled
    · refine shown.kept (Nat.le_refl _) fun q new inside => ?_
      have other : q ≠ r := fun same => Nat.not_le_of_lt there (same ▸ new)
      rw [extends_l.object (by simpa using inside), updated_object_of_ne _ other]
    · exact rest.kept (by simpa using extends_n.size) fun _ _ _ => rfl

end

end Json

end Script

end ScriptHost
