/-
Trees as objects list them. An object lists its keys by size where they are indices, then those that are names in the
order in which they came. A tree that is put together so is what the value that is made of it spells.
-/
import ScriptHost.Proofs.Script.RoundTrip
import ScriptHost.Proofs.Script.Written

namespace ScriptHost.Script

open Machine

/-! ## Keys -/

namespace Key

theorem toUtf16_append (t u : Text) : Text.toUtf16 (t ++ u) = Text.toUtf16 t ++ Text.toUtf16 u := List.flatMap_append

/-- Digits that follow a number that is not zero are its last. -/
theorem digits?_eq {s : Utf16} : ∀ {acc n : Nat}, 0 < acc → digits? s acc = some n →
    Text.toUtf16 (Text.ofNat acc) ++ s = Text.toUtf16 (Text.ofNat n) := by
  have unit : ∀ d < 10, Text.toUtf16 [CodePoint.ofChar d.digitChar] = [UInt16.ofNat (0x30 + d)] := by decide
  induction s with
  | nil =>
    rintro acc n - ⟨⟩
    exact List.append_nil _
  | cons u rest ih =>
    intro acc n some read
    rw [digits?] at read
    split at read
    · rename_i digit
      rw [← ih (by omega) read]
      have last : Text.ofNat (acc * 10 + (u.toNat - 0x30)) =
          Text.ofNat acc ++ [CodePoint.ofChar (u.toNat - 0x30).digitChar] := by
        have small : (acc * 10 + (u.toNat - 0x30)) % 10 = u.toNat - 0x30 := by omega
        have before : (acc * 10 + (u.toNat - 0x30)) / 10 = acc := by omega
        rw [Decimal.ofNat_eq_numeral, Decimal.ofNat_eq_numeral, Decimal.numeral, Nat.toDigits_eq_if (by decide),
          if_neg (by omega), small, before, List.map_append]
        rfl
      have same : UInt16.ofNat (0x30 + (u.toNat - 0x30)) = u := by
        rw [Nat.add_sub_cancel' digit.1, UInt16.ofNat_toNat]
      rw [last, toUtf16_append, unit _ (by omega), same, List.append_assoc]
      rfl
    · cases read

/-- The string of the key of a string. -/
@[simp] theorem units_ofUnits (s : Utf16) : (ofUnits s).units = s := by
  unfold ofUnits
  cases index : index? s with
  | none => rfl
  | some n =>
    show Text.toUtf16 (Text.ofNat n) = s
    unfold index? at index
    split at index
    · cases index
    · rename_i u rest
      split at index
      · rename_i zero
        split at index
        · rename_i empty
          cases index
          rw [List.isEmpty_iff.mp empty, UInt16.toNat_inj.mp (show u.toNat = (0x30 : UInt16).toNat from zero)]
          decide +kernel
        · cases index
      · rename_i other
        split at index
        · cases index
        · split at index
          · rename_i n' read
            split at index
            · cases index
              rw [digits?] at read
              split at read
              · rename_i digit
                have first := digits?_eq (by omega) read
                have one : Text.toUtf16 (Text.ofNat (0 * 10 + (u.toNat - 0x30))) = [u] := by
                  have unit : ∀ d < 10, Text.toUtf16 (Text.ofNat (0 * 10 + d)) = [UInt16.ofNat (0x30 + d)] := by
                    decide +kernel
                  rw [unit _ (by omega), Nat.add_sub_cancel' digit.1, UInt16.ofNat_toNat]
                rw [← first, one]
                rfl
              · cases read
            · cases index
          · cases index

/-- Keys in the order in which objects list them, each once. -/
def Listed (ks : List Key) : Prop :=
  ∃ (is : List Nat) (ss : List Utf16), ks = is.map index ++ ss.map name ∧ is.Pairwise (· < ·) ∧ ss.Nodup

/-- Keys in the order of an object differ. -/
theorem Listed.nodup {ks : List Key} (h : Listed ks) : ks.Nodup := by
  obtain ⟨is, ss, rfl, sorted, distinct⟩ := h
  refine List.nodup_append.mpr ⟨?_, ?_, ?_⟩
  · exact (List.nodup_map_iff fun _ _ => Key.index.inj).mpr (sorted.imp Nat.ne_of_lt)
  · exact (List.nodup_map_iff fun _ _ => Key.name.inj).mpr distinct
  · rintro k among l among' rfl
    obtain ⟨i, -, rfl⟩ := List.mem_map.mp among
    obtain ⟨s, -, same⟩ := List.mem_map.mp among'
    cases same

end Key

namespace Obj

/-- The step that gathers the keys that are indices. -/
def addIndex (acc : List Nat) (x : Key × Slot) : List Nat :=
  match x.1 with
  | .index n => insertOrdered n acc
  | .name _ => acc

/-- The properties of a record whose keys differ. -/
theorem slots_record {entries : List (Key × Value)} (distinct : (entries.map Prod.fst).Nodup) :
    (record entries).slots = (entries.map fun x => (x.1, Slot.plain x.2)).reverse := by
  induction entries using List.reverseRecOn with
  | nil => rfl
  | append_singleton entries x ih =>
    rw [List.map_append, List.nodup_append] at distinct
    obtain ⟨before, -, apart⟩ := distinct
    have slots := ih before
    have new : (record entries).slots.any (·.1 = x.1) = false := by
      rw [slots, List.any_eq_false]
      intro y among
      obtain ⟨z, inside, rfl⟩ := List.mem_map.mp (List.mem_reverse.mp among)
      simpa using apart z.1 (List.mem_map_of_mem inside) x.1 (by simp)
    rw [record_concat, put, if_neg (by simp [new]), slots, List.map_append, List.reverse_append]
    rfl

theorem record_kind (entries : List (Key × Value)) : (record entries).kind = .plain := by
  induction entries using List.reverseRecOn with
  | nil => rfl
  | append_singleton entries x ih => rw [record_concat, put_kind, ih]

theorem record_extensible (entries : List (Key × Value)) : (record entries).extensible = true := by
  induction entries using List.reverseRecOn with
  | nil => rfl
  | append_singleton entries x ih =>
    rw [record_concat, put]
    split <;> exact ih

theorem record_plain (entries : List (Key × Value)) : (record entries).Plain :=
  ⟨record_kind entries, record_parent entries, record_extensible entries⟩

/-- A record whose keys differ has each of its entries. -/
theorem slot?_record {entries : List (Key × Value)} (distinct : (entries.map Prod.fst).Nodup) {k : Key} {v : Value}
    (among : (k, v) ∈ entries) : (record entries).slot? k = some (.plain v) := by
  induction entries using List.reverseRecOn with
  | nil => cases among
  | append_singleton entries x ih =>
    rw [List.map_append, List.nodup_append] at distinct
    obtain ⟨before, -, apart⟩ := distinct
    rw [record_concat, slot?_put]
    rcases List.mem_append.mp among with inside | last
    · rw [if_neg (apart k (List.mem_map_of_mem inside) x.1 (by simp))]
      exact ih before inside
    · cases List.mem_singleton.mp last
      exact if_pos rfl

/-- A record lists its keys as they are given. -/
theorem keys_record {entries : List (Key × Value)} (listed : Key.Listed (entries.map Prod.fst)) :
    (record entries).keys = entries.map Prod.fst := by
  have slots := slots_record listed.nodup
  obtain ⟨is, ss, keys, sorted, -⟩ := listed
  have shape : (record entries).keys = ((record entries).slots.foldl addIndex []).map Key.index ++
      (record entries).slots.foldl addName [] := rfl
  have indices : ∀ xs : List (Key × Slot), xs.reverse.foldl addIndex [] =
      (xs.map Prod.fst).foldr (fun k acc => addIndex acc (k, .plain .undefined)) [] := by
    intro xs
    rw [List.foldl_reverse, List.foldr_map]
    rfl
  have names : ∀ xs : List (Key × Slot), xs.reverse.foldl addName [] =
      (xs.map Prod.fst).foldr (fun k acc => addName acc (k, .plain .undefined)) [] := by
    intro xs
    rw [List.foldl_reverse, List.foldr_map]
    rfl
  have fst : (entries.map fun x => (x.1, Slot.plain x.2)).map Prod.fst = entries.map Prod.fst := by
    rw [List.map_map]
    rfl
  rw [shape, slots, indices, names, fst, keys, List.foldr_append, List.foldr_append]
  clear keys shape slots fst indices names
  have strings : ∀ (ss : List Utf16) (acc : List Key),
      (ss.map Key.name).foldr (fun k acc => addName acc (k, .plain .undefined)) acc = ss.map Key.name ++ acc := by
    intro ss acc
    induction ss with
    | nil => rfl
    | cons s ss ih =>
      rw [List.map_cons, List.foldr_cons, ih]
      rfl
  have unmoved : ∀ ss : List Utf16,
      (ss.map Key.name).foldr (fun k acc => addIndex acc (k, .plain .undefined)) ([] : List Nat) = [] := by
    intro ss
    induction ss with
    | nil => rfl
    | cons s ss ih =>
      rw [List.map_cons, List.foldr_cons, ih]
      rfl
  have kept : ∀ (is : List Nat) (acc : List Key),
      (is.map Key.index).foldr (fun k acc => addName acc (k, .plain .undefined)) acc = acc := by
    intro is acc
    induction is with
    | nil => rfl
    | cons i is ih =>
      rw [List.map_cons, List.foldr_cons, ih]
      rfl
  have numbers : ∀ is : List Nat, is.Pairwise (· < ·) →
      (is.map Key.index).foldr (fun k acc => addIndex acc (k, .plain .undefined)) [] = is := by
    intro is sorted
    induction is with
    | nil => rfl
    | cons i is ih =>
      rw [List.pairwise_cons] at sorted
      rw [List.map_cons, List.foldr_cons, ih sorted.2]
      show insertOrdered i is = i :: is
      cases is with
      | nil => rfl
      | cons j is => exact if_pos (Nat.le_of_lt (sorted.1 j List.mem_cons_self))
  rw [unmoved, kept, numbers is sorted, strings, List.append_nil]

end Obj

/-! ## Trees -/

namespace Json

mutual

/-- A tree that a value can spell: its numbers are finite, its lists are no longer than lists can be, and its objects
have their keys as objects list them. -/
def Tidy : Json → Prop
  | null | bool _ | string _ => True
  | number x => x.isFinite = true
  | array items => items.length ≤ Key.indexLimit ∧ TidyItems items
  | object entries => Key.Listed (entries.map fun x => .ofUnits x.1) ∧ TidyEntries entries

def TidyItems : List Json → Prop
  | [] => True
  | j :: rest => j.Tidy ∧ TidyItems rest

def TidyEntries : List (Utf16 × Json) → Prop
  | [] => True
  | (_, j) :: rest => j.Tidy ∧ TidyEntries rest

end

end Json

variable {l m n : Machine}

theorem ShowAll.length {base : Nat} : ∀ {js : List Json} {vs : List Value}, ShowAll base m js vs → vs.length = js.length
  | [], _, h => by
    rw [show _ = [] from h]
    rfl
  | _ :: _, _, ⟨_, _, cons, _, rest⟩ => by
    rw [cons, List.length_cons, List.length_cons, rest.length]

/-- What stands before the objects that came up between two machines, or behind them. -/
def Machine.Beside (m n : Machine) (around : List Ref) : Prop :=
  ∀ q ∈ around, q.index < m.heap.size ∨ n.heap.size ≤ q.index

/-- The objects that came up between two machines are on a third one as on the second. -/
def Machine.Shared (m n l : Machine) : Prop := ∀ r : Ref, m.heap.size ≤ r.index → r.index < n.heap.size →
    l.object r = n.object r

namespace Json

theorem ne_global {r : Ref} (nonempty : 0 < r.index) : r ≠ .global := by
  rintro rfl
  exact Nat.lt_irrefl 0 nonempty

mutual

/-- The value of a tidy tree spells it, inside of whatever does not come up with it. -/
theorem toValue_spells : ∀ (j : Json) (m : Machine), 0 < m.heap.size → j.Tidy → ∃ v n, j.toValue m = .value v n ∧
    m.Extends n ∧ ∀ (l : Machine) (around : List Ref), m.Shared n l → m.Beside n around → Spells l around v j
  | null, m, _, _ => ⟨.null, m, rfl, .refl m, fun _ _ _ _ => .null⟩
  | bool b, m, _, _ => ⟨.bool b, m, rfl, .refl m, fun _ _ _ _ => .bool b⟩
  | number x, m, _, finite => ⟨.number x, m, rfl, .refl m, fun _ _ _ _ => .number finite⟩
  | string s, m, _, _ => ⟨.string s, m, rfl, .refl m, fun _ _ _ _ => .string s⟩
  | array items, m, nonempty, ⟨room, tidy⟩ => by
    obtain ⟨vs, n, made, extends_n, length, spells⟩ := toValues_spells items m nonempty tidy
    have size := extends_n.size
    have next : n.next.index = n.heap.size := rfl
    refine ⟨.object n.next, n.grown (.listing vs), ?_, extends_n.trans (extends_grown _ n),
      fun l around shared beside => ?_⟩
    · rw [toValue_array, made]
      rfl
    · have grown : (n.grown (.listing vs)).heap.size = n.heap.size + 1 := grown_size _ _
      refine .list (fun among => ?_) (ne_global (by omega)) ?_ (length ▸ room) (spells l _ (fun r new before => ?_) ?_)
      · have := beside _ among
        omega
      · rw [shared n.next size (by omega), object_next]
      · rw [shared r new (by omega), object_grown _ before]
      · intro q among
        rcases List.mem_cons.mp among with rfl | among
        · exact .inr (Nat.le_refl _)
        · exact (beside q among).imp id fun behind => by omega
  | object entries, m, nonempty, ⟨listed, tidy⟩ => by
    obtain ⟨kvs, n, filled, extends_n, keys, spells⟩ := fill_spells entries (m.grown (.record [])) m.next []
      (object_next _ m) (by simp [Machine.next]) (by simp) tidy
    have from_m : m.Extends n := ((extends_grown _ m).changed _ (Nat.le_refl _)).trans extends_n
    have size := extends_n.size
    rw [updated_size, grown_size] at size
    have there : n.object m.next = .record kvs := by
      rw [extends_n.object (by simp [Machine.next]), updated_object _ (by simp [Machine.next])]
      rfl
    refine ⟨.object m.next, n, ?_, from_m, fun l around shared beside => ?_⟩
    · rw [toValue_object, filled]
      rfl
    · have here : l.object m.next = .record kvs := (shared m.next (Nat.le_refl _) size).trans there
      have listed : Key.Listed (kvs.map Prod.fst) := keys ▸ listed
      have listing : (l.object m.next).keys = kvs.map Prod.fst := by rw [here, Obj.keys_record listed]
      refine .object (fun among => ?_) (ne_global nonempty) (here ▸ Obj.record_plain kvs)
        (listing ▸ spells l _ ?_ ?_ ?_)
      · have := beside _ among
        have next : m.next.index = m.heap.size := rfl
        omega
      · intro r new before
        rw [grown_size] at new
        exact shared r (by omega) before
      · intro q among
        rw [grown_size]
        rcases List.mem_cons.mp among with rfl | among
        · exact .inl (Nat.lt_succ_self _)
        · exact (beside q among).imp Nat.lt_succ_of_lt id
      · intro x among
        rw [here]
        exact Obj.slot?_record listed.nodup among

/-- The items of a tidy list are made so that they spell their trees on every machine that keeps them. -/
theorem toValues_spells : ∀ (js : List Json) (m : Machine), 0 < m.heap.size → TidyItems js → ∃ vs n,
    toValues js m = .value vs n ∧ m.Extends n ∧ vs.length = js.length ∧ ∀ (l : Machine) (around : List Ref),
      m.Shared n l →
      m.Beside n around → SpellItems l around vs js
  | [], m, _, _ => ⟨[], m, rfl, .refl m, rfl, fun _ _ _ _ => .nil⟩
  | j :: js, m, nonempty, ⟨tidy, others⟩ => by
    obtain ⟨v, n, made, extends_n, spells⟩ := toValue_spells j m nonempty tidy
    obtain ⟨vs, k, rest, extends_k, length, all⟩ :=
      toValues_spells js n (Nat.lt_of_lt_of_le nonempty extends_n.size) others
    refine ⟨v :: vs, k, ?_, extends_n.trans extends_k, congrArg (· + 1) length, fun l around shared beside => ?_⟩
    · rw [toValues, Run.bind_apply, made, Result.follow_value, Run.bind_apply, rest]
      rfl
    · refine .cons (spells l around (fun r new before => ?_) ?_) (all l around (fun r new => ?_) ?_)
      · rw [shared r new (Nat.lt_of_lt_of_le before extends_k.size), extends_k.object before]
      · exact fun q among => (beside q among).imp id (Nat.le_trans extends_k.size)
      · exact shared r (Nat.le_trans extends_n.size new)
      · exact fun q among => (beside q among).imp (Nat.lt_of_lt_of_le · extends_n.size) id

/-- An object that is filled in has the entries under their keys. -/
theorem fill_spells : ∀ (es : List (Utf16 × Json)) (m : Machine) (r : Ref) (done : List (Key × Value)),
    m.object r = .record done → r.index < m.heap.size → 0 < m.heap.size → TidyEntries es → ∃ kvs n,
      fill r es m = .value () n ∧ (m.updated r fun _ => .record (done ++ kvs)).Extends n ∧
      kvs.map Prod.fst = (es.map fun x => Key.ofUnits x.1) ∧ ∀ (l : Machine) (around : List Ref), m.Shared n l →
        m.Beside n around → (∀ x ∈ kvs, (l.object r).slot? x.1 = some (.plain x.2)) →
          SpellEntries l around r (kvs.map Prod.fst) es
  | [], m, r, done, here, _, _, _ => by
    refine ⟨[], m, rfl, ?_, rfl, fun _ _ _ _ _ => .nil⟩
    rw [List.append_nil, updated_self _ here.symm]
    exact .refl m
  | (k, j) :: es, m, r, done, here, there, nonempty, ⟨tidy, others⟩ => by
    obtain ⟨v, n, made, extends_n, spells⟩ := toValue_spells j m nonempty tidy
    let key : Key := .ofUnits k
    have still : n.object r = .record done := (extends_n.object there).trans here
    have there' : r.index < n.heap.size := Nat.lt_of_lt_of_le there extends_n.size
    have put : n.updated r (Obj.put key (.plain v)) = n.updated r fun _ => .record (done ++ [(key, v)]) :=
      updated_congr (by rw [still, Obj.record_concat])
    obtain ⟨kvs, l, filled, extends_l, keys, all⟩ := fill_spells es
      (n.updated r fun _ => .record (done ++ [(key, v)])) r (done ++ [(key, v)])
      (updated_object _ there') (by simpa using there')
          (by simpa using Nat.lt_of_lt_of_le nonempty extends_n.size) others
    have size := extends_l.size
    rw [updated_size, updated_size] at size
    rw [updated_updated, List.append_assoc, List.singleton_append] at extends_l
    refine ⟨(key, v) :: kvs, l, ?_, (extends_n.updated _ there).trans extends_l, congrArg (key :: ·) keys,
      fun l' around shared beside slots => ?_⟩
    · rw [fill, Run.bind_apply, made, Result.follow_value, Run.bind_apply, update_apply, put]
      exact filled
    · have first := spells l' around (fun q new before => ?_) fun q among => (beside q among).imp id (Nat.le_trans size)
      · have rest := all l' around (fun q new =>
          shared q (by simpa using Nat.le_trans extends_n.size (by simpa using new)))
          (fun q among => (beside q among).imp
          (fun before => by simpa using Nat.lt_of_lt_of_le before extends_n.size) id)
          fun x among => slots x (List.mem_cons_of_mem _ among)
        have cons := SpellEntries.cons (slots _ List.mem_cons_self) first rest
        rwa [Key.units_ofUnits] at cons
      · have other : q ≠ r := fun same => Nat.not_le_of_lt there (same ▸ new)
        rw [shared q new (Nat.lt_of_lt_of_le before size), extends_l.object (by simpa using before),
          updated_object_of_ne _ other]

end

end Json

/-! ## Trees read back -/

namespace Json

theorem keys_settled {α : Type} (f : Utf16 → α) (es : List (Utf16 × Json)) :
    (settledEntries es).map (fun x => f x.1) = es.map fun x => f x.1 := by
  induction es with
  | nil => rfl
  | cons x es ih => exact congrArg (f x.1 :: ·) ih

theorem length_settled (items : List Json) : (settledItems items).length = items.length := by
  induction items with
  | nil => rfl
  | cons j items ih => exact congrArg (· + 1) ih

mutual

/-- Negative zero goes, and whatever is tidy stays so, -/
theorem tidy_settled : ∀ {j : Json}, j.Tidy → j.settled.Tidy
  | null, _ | bool _, _ | string _, _ => trivial
  | number x, finite => by
    have finite : x.isFinite = true := finite
    rw [settled, if_pos finite]
    show (Decimal.unsignedZero x).isFinite = true
    unfold Decimal.unsignedZero
    split
    · decide
    · exact finite
  | array items, ⟨room, tidy⟩ => ⟨(length_settled items).symm ▸ room, tidy_settledItems tidy⟩
  | object entries, ⟨listed, tidy⟩ => ⟨(keys_settled Key.ofUnits entries).symm ▸ listed, tidy_settledEntries tidy⟩

theorem tidy_settledItems : ∀ {js : List Json}, TidyItems js → TidyItems (settledItems js)
  | [], _ => trivial
  | _ :: _, ⟨tidy, others⟩ => ⟨tidy_settled tidy, tidy_settledItems others⟩

theorem tidy_settledEntries : ∀ {es : List (Utf16 × Json)}, TidyEntries es → TidyEntries (settledEntries es)
  | [], _ => trivial
  | _ :: _, ⟨tidy, others⟩ => ⟨tidy_settled tidy, tidy_settledEntries others⟩

end

mutual

/-- as high as it was. -/
theorem height_settled : ∀ j : Json, j.settled.height = j.height
  | null | bool _ | string _ => rfl
  | number x => by
    unfold settled
    split <;> rfl
  | array items => congrArg (· + 1) (heights_settled items)
  | object entries => congrArg (· + 1) (entryHeights_settled entries)

theorem heights_settled : ∀ js : List Json, heights (settledItems js) = heights js
  | [] => rfl
  | j :: js => by rw [settledItems, heights, heights, height_settled j, heights_settled js]

theorem entryHeights_settled : ∀ es : List (Utf16 × Json), entryHeights (settledEntries es) = entryHeights es
  | [] => rfl
  | (_, j) :: es => by rw [settledEntries, entryHeights, entryHeights, height_settled j, entryHeights_settled es]

end

mutual

/-- What was read back once is read back as it is. -/
theorem settled_settled : ∀ j : Json, j.settled.settled = j.settled
  | null | bool _ | string _ => rfl
  | number x => by
    by_cases finite : x.isFinite = true
    · have zero : (Decimal.unsignedZero x).isFinite = true ∧
        Decimal.unsignedZero (Decimal.unsignedZero x) = Decimal.unsignedZero x := by
        unfold Decimal.unsignedZero
        split
        · decide
        · exact ⟨finite, rfl⟩
      rw [settled, if_pos finite, settled, if_pos zero.1, zero.2]
    · rw [settled, if_neg finite]
      rfl
  | array items => congrArg array (settledItems_settled items)
  | object entries => congrArg object (settledEntries_settled entries)

theorem settledItems_settled : ∀ js : List Json, settledItems (settledItems js) = settledItems js
  | [] => rfl
  | j :: js => by rw [settledItems, settledItems, settled_settled j, settledItems_settled js]

theorem settledEntries_settled : ∀ es : List (Utf16 × Json), settledEntries (settledEntries es) = settledEntries es
  | [] => rfl
  | (_, j) :: es => by rw [settledEntries, settledEntries, settled_settled j, settledEntries_settled es]

end

end Json

/-! ## Elsewhere -/

mutual

/-- What spells a tree does so where nothing but the global object has changed and what the tree stands inside of, and
inside of less. -/
theorem Spells.elsewhere : ∀ {around inside : List Ref} {v : Value} {j : Json}, Spells m around v j →
    (∀ r ≠ Ref.global, r ∉ around → n.object r = m.object r) → inside ⊆ around → Spells n inside v j
  | _, _, _, _, .null, _, _ => .null
  | _, _, _, _, .bool b, _, _ => .bool b
  | _, _, _, _, .number finite, _, _ => .number finite
  | _, _, _, _, .string s, _, _ => .string s
  | _, _, _, _, .list (r := r) apart other there room all, same, fewer =>
    .list (fun among => apart (fewer among)) other ((same r other apart).trans there) room
      (all.elsewhere (fun q other out => same q other fun among => out (List.mem_cons_of_mem _ among))
      (List.cons_subset_cons r fewer))
  | _, _, _, _, .object (r := r) apart other plain all, same, fewer => by
    have here := same r other apart
    have all' := all.elsewhere here (fun q other out => same q other fun among => out (List.mem_cons_of_mem _ among))
      (List.cons_subset_cons r fewer)
    rw [← here] at plain all'
    exact .object (fun among => apart (fewer among)) other plain all'

/-- What is spelled depends on the objects that it goes through only. -/
theorem SpellItems.elsewhere : ∀ {around inside : List Ref} {vs : List Value} {js : List Json},
    SpellItems m around vs js →
    (∀ r ≠ Ref.global, r ∉ around → n.object r = m.object r) → inside ⊆ around → SpellItems n inside vs js
  | _, _, _, _, .nil, _, _ => .nil
  | _, _, _, _, .cons first rest, same, fewer => .cons (first.elsewhere same fewer) (rest.elsewhere same fewer)

theorem SpellEntries.elsewhere : ∀ {around inside : List Ref} {r : Ref} {ks : List Key} {es : List (Utf16 × Json)},
    SpellEntries m around r ks es → n.object r = m.object r → (∀ q ≠ Ref.global, q ∉ around → n.object q = m.object q) →
      inside ⊆ around → SpellEntries n inside r ks es
  | _, _, _, _, _, .nil, _, _, _ => .nil
  | _, _, _, _, _, .cons found first rest, here, same, fewer =>
    .cons (by rw [here, found]) (first.elsewhere same fewer) (rest.elsewhere here same fewer)

end

/-- There are as many values as trees. -/
theorem SpellItems.length {around : List Ref} : ∀ {vs : List Value} {js : List Json}, SpellItems m around vs js →
    vs.length = js.length
  | _, _, .nil => rfl
  | _, _, .cons _ rest => congrArg (· + 1) rest.length

/-- An item more spells a tree more. -/
theorem SpellItems.concat {around : List Ref} {v : Value} {j : Json} (last : Spells m around v j) :
    ∀ {vs : List Value} {js : List Json}, SpellItems m around vs js → SpellItems m around (vs ++ [v]) (js ++ [j])
  | _, _, .nil => .cons last .nil
  | _, _, .cons first rest => .cons first (rest.concat last)

end ScriptHost.Script
