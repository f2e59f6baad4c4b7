/-
Data compared, and tables by their keys. What is found in a table is the first entry under a key, so that entries of
other keys make no difference; where each key stands once, every entry is found.
-/
import ScriptHost.Datum
import Mathlib.Data.List.Nodup

namespace ScriptHost.Datum

variable {entries : List (Text × Datum)} {k : Text} {d : Datum}

/-! ## Equality -/

mutual

/-- Whether two data are the same, found by going through both. -/
def same : Datum → Datum → Bool
  | nothing, nothing => true
  | bool a, bool b => a = b
  | int m, int n => m = n
  | real x, real y => x = y
  | text s, text t => s = t
  | list as, list bs => sameItems as bs
  | table as, table bs => sameEntries as bs
  | other k w, other k' w' => k = k' ∧ w = w'
  | _, _ => false

def sameItems : List Datum → List Datum → Bool
  | [], [] => true
  | a :: as, b :: bs => a.same b && sameItems as bs
  | _, _ => false

def sameEntries : List (Text × Datum) → List (Text × Datum) → Bool
  | [], [] => true
  | (k, a) :: as, (k', b) :: bs => k = k' && a.same b && sameEntries as bs
  | _, _ => false

end

mutual

theorem same_iff : ∀ a b : Datum, a.same b = true ↔ a = b
  | nothing, b => by cases b <;> simp [same]
  | bool _, b => by cases b <;> simp [same]
  | int _, b => by cases b <;> simp [same]
  | real _, b => by cases b <;> simp [same]
  | text _, b => by cases b <;> simp [same]
  | list as, b => by cases b <;> simp [same, sameItems_iff as]
  | table as, b => by cases b <;> simp [same, sameEntries_iff as]
  | other _ _, b => by cases b <;> simp [same]

theorem sameItems_iff : ∀ as bs : List Datum, sameItems as bs = true ↔ as = bs
  | [], bs => by cases bs <;> simp [sameItems]
  | a :: as, bs => by cases bs <;> simp [sameItems, same_iff a, sameItems_iff as]

theorem sameEntries_iff : ∀ as bs : List (Text × Datum), sameEntries as bs = true ↔ as = bs
  | [], bs => by cases bs <;> simp [sameEntries]
  | (k, a) :: as, bs => by
    rcases bs with _ | ⟨⟨k', b⟩, bs⟩
    · simp [sameEntries]
    · simp [sameEntries, same_iff a, sameEntries_iff as]

end

instance : DecidableEq Datum := fun a b => decidable_of_iff _ (same_iff a b)

/-! ## Entries by their keys -/

theorem lookup?_cons (key k : Text) (d : Datum) (rest : List (Text × Datum)) :
    lookup? key ((k, d) :: rest) = if k = key then some d else lookup? key rest := by
  unfold lookup?
  by_cases same : k = key
  · rw [List.find?_cons_of_pos (by simpa using same), if_pos same]
    rfl
  · rw [List.find?_cons_of_neg (by simpa using same), if_neg same]

/-- What is found in a table whose data were changed, each by its key. -/
theorem lookup?_map (g : Text → Datum → Datum) (key : Text) (entries : List (Text × Datum)) :
    lookup? key (entries.map fun x => (x.1, g x.1 x.2)) = (lookup? key entries).map (g key) := by
  induction entries with
  | nil => rfl
  | cons x rest ih =>
    obtain ⟨k, d⟩ := x
    rw [List.map_cons, lookup?_cons, lookup?_cons, ih]
    split
    · next same =>
      rw [← same]
      rfl
    · rfl

/-- Entries of other keys can be left out. -/
theorem lookup?_filter {p : Text × Datum → Bool} {key : Text} (kept : ∀ d, p (key, d) = true)
    (entries : List (Text × Datum)) : lookup? key (entries.filter p) = lookup? key entries := by
  induction entries with
  | nil => rfl
  | cons entry rest ih =>
    obtain ⟨k, d⟩ := entry
    rw [List.filter_cons, lookup?_cons]
    split
    · rw [lookup?_cons, ih]
    · next out =>
      rw [ih, if_neg]
      rintro rfl
      exact out (kept d)

theorem lookup?_append (key : Text) (front back : List (Text × Datum)) :
    lookup? key (front ++ back) = (lookup? key front).or (lookup? key back) := by
  unfold lookup?
  rw [List.find?_append]
  cases front.find? (·.1 = key) <;> rfl

theorem any_key (key : Text) (entries : List (Text × Datum)) :
    entries.any (·.1 = key) = (lookup? key entries).isSome := by
  unfold lookup?
  rw [Option.isSome_map, List.isSome_find?]

theorem mem_of_lookup? (found : lookup? k entries = some d) : (k, d) ∈ entries := by
  obtain ⟨⟨k', d'⟩, here, rfl⟩ := Option.map_eq_some_iff.mp found
  obtain rfl : k' = k := by simpa using List.find?_some here
  exact List.mem_of_find?_eq_some here

/-- Where each key stands once, what stands under it is found. -/
theorem lookup?_of_mem (names : (entries.map (·.1)).Nodup) (inside : (k, d) ∈ entries) :
    lookup? k entries = some d := by
  cases found : lookup? k entries with
  | none =>
    have missing := List.find?_eq_none.mp (Option.map_eq_none_iff.mp found) (k, d) inside
    simp at missing
  | some d' =>
    have same := List.inj_on_of_nodup_map names (mem_of_lookup? found) inside rfl
    cases same
    rfl

end ScriptHost.Datum
