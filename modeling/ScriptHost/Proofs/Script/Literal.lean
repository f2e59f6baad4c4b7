/-
Literals. An expression that is written as a tree is evaluates as the tree becomes a value: lists and objects are made
anew, with what their parts come to. One key is no key there: what stands under `__proto__` is what the object inherits
from.
-/
import ScriptHost.Proofs.Script.HostCall
import ScriptHost.Proofs.Script.RoundTrip

namespace ScriptHost.Script

open Machine

namespace Json

/-- The key that sets what an object inherits from. -/
def parentKey : Utf16 := Utf16.ofString "__proto__"

mutual

/-- A tree all of whose objects can be written as literals. -/
def Open : Json → Prop
  | null | bool _ | number _ | string _ => True
  | array items => OpenItems items
  | object entries => OpenEntries entries

def OpenItems : List Json → Prop
  | [] => True
  | j :: rest => j.Open ∧ OpenItems rest

def OpenEntries : List (Utf16 × Json) → Prop
  | [] => True
  | (k, j) :: rest => k ≠ parentKey ∧ j.Open ∧ OpenEntries rest

end

mutual

/-- What a tree is read back as is open if the tree is. -/
theorem open_settled : ∀ {j : Json}, j.Open → j.settled.Open
  | null, _ | bool _, _ | string _, _ => trivial
  | number x, _ => by
    unfold settled
    split <;> trivial
  | array _, shown => open_settledItems shown
  | object _, shown => open_settledEntries shown

theorem open_settledItems : ∀ {js : List Json}, OpenItems js → OpenItems (settledItems js)
  | [], _ => trivial
  | _ :: _, ⟨shown, others⟩ => ⟨open_settled shown, open_settledItems others⟩

theorem open_settledEntries : ∀ {es : List (Utf16 × Json)}, OpenEntries es → OpenEntries (settledEntries es)
  | [], _ => trivial
  | _ :: _, ⟨other, shown, others⟩ => ⟨other, open_settled shown, open_settledEntries others⟩

end

end Json

namespace Engine

/-- An expression that a tree is written as: on engines of so many levels it makes new objects only, and the value of
the tree if the tree is open. -/
structure Literal (e : Expr) (j : Json) (levels : Nat) : Prop where
  runs : ∀ (b : List (Key × Ref)) (frame : Frame) (m : Machine), ∃ v n, m.Extends n ∧
    ∀ d, levels ≤ d → (ofDepth b d).eval frame e m = .value v n
  makes : j.Open → ∀ (b : List (Key × Ref)) (d : Nat) (frame : Frame) (m : Machine), levels ≤ d →
    (ofDepth b d).eval frame e m = j.toValue m

/-- Expressions that the items of a list are written as. -/
structure LiteralItems (items : List (Option Expr)) (js : List Json) (levels : Nat) : Prop where
  runs : ∀ (b : List (Key × Ref)) (frame : Frame) (n : Nat) (slots : List (Key × Slot)) (m : Machine), ∃ slots' l,
    m.Extends l ∧ ∀ d, levels ≤ d → (ofDepth b d).evalItems frame n items slots m = .value slots' l
  makes : Json.OpenItems js → ∀ (b : List (Key × Ref)) (d : Nat) (frame : Frame) (n : Nat) (slots : List (Key × Slot))
    (m : Machine), levels ≤ d → (ofDepth b d).evalItems frame n items slots m =
      (Json.toValues js m).follow (fun vs l => .value (Run.itemSlots n vs slots) l) .thrown

/-- Entries that those of an object are written as. -/
structure LiteralEntries (entries : List Entry) (es : List (Utf16 × Json)) (levels : Nat) : Prop where
  runs : ∀ (b : List (Key × Ref)) (frame : Frame) (l m : Machine) (r : Ref), l.Extends m → l.heap.size ≤ r.index →
    ∃ n, l.Extends n ∧ ∀ d, levels ≤ d → entries.forM ((ofDepth b d).evalEntry frame r) m = .value ⟨⟩ n
  makes : Json.OpenEntries es → ∀ (b : List (Key × Ref)) (d : Nat) (frame : Frame) (r : Ref) (m : Machine), levels ≤ d →
    entries.forM ((ofDepth b d).evalEntry frame r) m = Json.fill r es m

namespace Literal

/-- What is the same value on every machine. -/
theorem of_value {e : Expr} {j : Json} {v : Value} {levels : Nat} (made : ∀ m, j.toValue m = .value v m)
    (evaluates : ∀ (b : List (Key × Ref)) (d : Nat) (frame : Frame) (m : Machine), levels ≤ d →
      (ofDepth b d).eval frame e m = .value v m) : Literal e j levels :=
  ⟨fun b frame m => ⟨v, m, .refl m, fun d => evaluates b d frame m⟩,
    fun _ b d frame m enough => (evaluates b d frame m enough).trans (made m).symm⟩

/-- A constant makes its value, -/
theorem constant {c : Primitive} {j : Json} (made : ∀ m, j.toValue m = .value c.value m) :
    Literal (.constant c) j 1 := of_value made fun b d frame m enough => by
  obtain ⟨d, rfl⟩ := Nat.exists_eq_add_of_le' enough
  rfl

/-- and a minus before a number the negative one. -/
theorem negative {x y : Float} (same : -y = x) : Literal (.unary .minus (.constant (.number y))) (.number x) 2 :=
  of_value (v := .number x) (fun _ => rfl) fun b d frame m enough => by
    obtain ⟨d, rfl⟩ := Nat.exists_eq_add_of_le' enough
    rw [← same]
    rfl

/-- More levels do no harm. -/
theorem deeper {e : Expr} {j : Json} {levels more : Nat} (h : Literal e j levels) (le : levels ≤ more) :
    Literal e j more :=
  ⟨fun b frame m => by
    obtain ⟨v, n, extends_n, made⟩ := h.runs b frame m
    exact ⟨v, n, extends_n, fun d enough => made d (Nat.le_trans le enough)⟩,
    fun plain b d frame m enough => h.makes plain b d frame m (Nat.le_trans le enough)⟩

end Literal

theorem LiteralItems.nil (levels : Nat) : LiteralItems [] [] levels :=
  ⟨fun _ _ _ slots m => ⟨slots, m, .refl m, fun _ _ => rfl⟩, fun _ _ _ _ _ _ _ _ => rfl⟩

/-- Items are made one after the other, each beside those that are there. -/
theorem LiteralItems.cons {e : Expr} {j : Json} {items : List (Option Expr)} {js : List Json} {levels : Nat}
    (first : Literal e j levels) (rest : LiteralItems items js levels) :
    LiteralItems (some e :: items) (j :: js) levels := by
  constructor
  · intro b frame n slots m
    obtain ⟨v, l, extends_l, made⟩ := first.runs b frame m
    obtain ⟨slots', k, extends_k, others⟩ := rest.runs b frame (n + 1) ((Key.ofNat n, .plain v) :: slots) l
    refine ⟨slots', k, extends_l.trans extends_k, fun d enough => ?_⟩
    rw [evalItems, Run.bind_apply, made d enough]
    exact others d enough
  · intro plain b d frame n slots m enough
    obtain ⟨v, l, made, -⟩ := j.toValue_shows m
    rw [evalItems, Run.bind_apply, first.makes plain.1 b d frame m enough, Json.toValues, Run.bind_apply, made,
      Result.follow_value, rest.makes plain.2 b d frame (n + 1) _ l enough, Result.follow_value, Run.bind_apply]
    obtain ⟨vs, k, all, -⟩ := Json.toValues_shows js l
    rw [all]
    rfl

/-- A list of literals makes the list of their trees, -/
theorem Literal.array {items : List (Option Expr)} {js : List Json} {levels : Nat} (all : LiteralItems items js levels)
    (count : items.length = js.length) : Literal (.array items) (.array js) (levels + 1) := by
  constructor
  · intro b frame m
    obtain ⟨slots, n, extends_n, made⟩ := all.runs b frame 0 [] m
    refine ⟨.object n.next, n.grown { kind := .array items.length false, parent := some .arrayParent, slots },
      extends_n.trans (extends_grown _ n), fun d enough => ?_⟩
    obtain ⟨d, rfl⟩ : ∃ c, d = c + 1 := ⟨d - 1, by omega⟩
    show (ofDepth b d).evalArray frame items m = _
    rw [evalArray, Run.bind_apply, made d (Nat.le_of_succ_le_succ enough)]
    rfl
  · intro plain b d frame m enough
    obtain ⟨d, rfl⟩ : ∃ c, d = c + 1 := ⟨d - 1, by omega⟩
    obtain ⟨vs, n, made, -, shown⟩ := Json.toValues_shows js m
    show (ofDepth b d).evalArray frame items m = _
    rw [evalArray, Run.bind_apply, all.makes plain b d frame 0 [] m (Nat.le_of_succ_le_succ enough),
      Json.toValue_array, made]
    have length : vs.length = items.length := by
      rw [count]
      clear made count all plain
      induction js generalizing vs with
      | nil =>
        rw [show vs = [] from shown]
        rfl
      | cons j js ih =>
        obtain ⟨v, us, rfl, -, rest⟩ := shown
        rw [List.length_cons, List.length_cons, ih us rest]
    simp only [Result.follow_value]
    rw [Obj.listing, length]
    rfl

theorem forM_entry {b : List (Key × Ref)} {d : Nat} {frame : Frame} {m n : Machine} {r : Ref} {entry : Entry}
    (entries : List Entry)
    (ran : (ofDepth b d).evalEntry frame r entry m = .value ⟨⟩ n) :
    (entry :: entries).forM ((ofDepth b d).evalEntry frame r) m = entries.forM ((ofDepth b d).evalEntry frame r) n := by
  show ((ofDepth b d).evalEntry frame r entry >>= fun _ => entries.forM ((ofDepth b d).evalEntry frame r)) m = _
  rw [Run.bind_apply, ran]
  rfl

theorem LiteralEntries.nil (levels : Nat) : LiteralEntries [] [] levels :=
  ⟨fun _ _ _ m _ extends_m _ => ⟨m, extends_m, fun _ _ => rfl⟩, fun _ _ _ _ _ _ _ => rfl⟩

/-- An entry under a key. -/
theorem LiteralEntries.value {k : Utf16} {e : Expr} {j : Json} {entries : List Entry} {es : List (Utf16 × Json)}
    {levels : Nat}
    (first : Literal e j levels) (rest : LiteralEntries entries es levels) :
    LiteralEntries (.value (.ofUnits k) e :: entries) ((k, j) :: es) levels := by
  constructor
  · intro b frame l m r extends_m new
    obtain ⟨v, n, extends_n, made⟩ := first.runs b frame m
    obtain ⟨n', extends_n', others⟩ := rest.runs b frame l (n.updated r (Obj.put (.ofUnits k) (.plain v))) r
      ((extends_m.trans extends_n).changed _ new) new
    refine ⟨n', extends_n', fun d enough => ?_⟩
    have entry : (ofDepth b d).evalEntry frame r (.value (.ofUnits k) e) m =
        .value ⟨⟩ (n.updated r (Obj.put (.ofUnits k) (.plain v))) := by
      rw [evalEntry, Run.bind_apply, made d enough]
      rfl
    exact (forM_entry entries entry).trans (others d enough)
  · rintro ⟨-, plain, others⟩ b d frame r m enough
    obtain ⟨v, n, made, -⟩ := j.toValue_shows m
    have entry : (ofDepth b d).evalEntry frame r (.value (.ofUnits k) e) m =
        .value ⟨⟩ (n.updated r (Obj.put (.ofUnits k) (.plain v))) := by
      rw [evalEntry, Run.bind_apply, first.makes plain b d frame m enough, made]
      rfl
    rw [forM_entry entries entry, rest.makes others b d frame r _ enough, Json.fill, Run.bind_apply, made]
    rfl

/-- The object at `r` is made to inherit from a value, if that is an object or null. -/
def inherit (r : Ref) : Value → Run Unit
  | .object p => Run.update r fun o => { o with parent := some p }
  | .null => Run.update r fun o => { o with parent := none }
  | _ => return ()

/-- What the object inherits from; no open tree has such an entry. -/
theorem LiteralEntries.parent {e : Expr} {j : Json} {entries : List Entry} {es : List (Utf16 × Json)} {levels : Nat}
    (first : Literal e j levels) (rest : LiteralEntries entries es levels) :
    LiteralEntries (.parent e :: entries) ((Json.parentKey, j) :: es) levels := by
  constructor
  · intro b frame l m r extends_m new
    obtain ⟨v, n, extends_n, made⟩ := first.runs b frame m
    have entry : ∃ n', l.Extends n' ∧ ∀ d, levels ≤ d →
      (ofDepth b d).evalEntry frame r (.parent e) m = .value ⟨⟩ n' := by
      have same : ∀ d, levels ≤ d → (ofDepth b d).evalEntry frame r (.parent e) m = inherit r v n := by
        intro d enough
        rw [evalEntry, Run.bind_apply, made d enough]
        rfl
      cases v
      case object => exact ⟨_, (extends_m.trans extends_n).changed _ new, same⟩
      case null => exact ⟨_, (extends_m.trans extends_n).changed _ new, same⟩
      all_goals exact ⟨_, extends_m.trans extends_n, same⟩
    obtain ⟨n', extends_n', same⟩ := entry
    obtain ⟨n'', extends_n'', others⟩ := rest.runs b frame l n' r extends_n' new
    exact ⟨n'', extends_n'', fun d enough => (forM_entry entries (same d enough)).trans (others d enough)⟩
  · rintro ⟨other, -⟩
    exact absurd rfl other

/-- and an object of literals their entries, in their order. -/
theorem Literal.object {entries : List Entry} {es : List (Utf16 × Json)} {levels : Nat}
    (all : LiteralEntries entries es levels) : Literal (.object entries) (.object es) (levels + 1) := by
  have plain : ∀ m, Run.allocPlain m = .value m.next (m.grown (.record [])) := fun _ => rfl
  constructor
  · intro b frame m
    obtain ⟨n, extends_n, filled⟩ :=
      all.runs b frame m (m.grown (.record [])) m.next (extends_grown _ m) (Nat.le_refl _)
    refine ⟨.object m.next, n, extends_n, fun d enough => ?_⟩
    obtain ⟨d, rfl⟩ : ∃ c, d = c + 1 := ⟨d - 1, by omega⟩
    show (ofDepth b d).evalObject frame entries m = _
    rw [evalObject, Run.bind_apply, plain, Result.follow_value, Run.bind_apply,
      filled d (Nat.le_of_succ_le_succ enough)]
    rfl
  · intro shown b d frame m enough
    obtain ⟨d, rfl⟩ : ∃ c, d = c + 1 := ⟨d - 1, by omega⟩
    show (ofDepth b d).evalObject frame entries m = _
    rw [evalObject, Run.bind_apply, plain, Result.follow_value, Run.bind_apply,
      all.makes shown b d frame m.next _ (Nat.le_of_succ_le_succ enough), Json.toValue_object]
    rfl

end Engine

end ScriptHost.Script
