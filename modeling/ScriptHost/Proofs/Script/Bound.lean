/-
Machines with functions of the host. Binding such a function adds its object and gives the global object
a property that can be neither changed nor removed; all else that a machine has stays as it was.
-/
import ScriptHost.Proofs.Script.Slots
import ScriptHost.Script.Outcome

namespace ScriptHost.Script

open Machine

namespace Bound

variable {b c d : Bound} {name : Text} {names : List Text} {r : Ref}

/-- `c` is `b` with functions of the host under these names, and otherwise as it was. -/
structure Added (names : List Text) (b c : Bound) : Prop where
  scopes : c.machine.scopes = b.machine.scopes
  size : b.machine.heap.size ≤ c.machine.heap.size
  kind : ∀ r : Ref, r.index < b.machine.heap.size →
    (c.machine.object r).kind = (b.machine.object r).kind
  own : ∀ r : Ref, r.index < b.machine.heap.size → ∀ k, k ∉ names.map key →
    (c.machine.object r).own? k = (b.machine.object r).own? k
  /-- A function of the host is bound to the key of its name. -/
  bound : ∀ p ∈ c.bindings, p ∈ b.bindings ∨ p.1 ∈ names.map key

theorem Added.refl (b : Bound) : Added [] b b :=
  ⟨rfl, Nat.le_refl _, fun _ _ => rfl, fun _ _ _ _ => rfl, fun _ there => .inl there⟩

theorem Added.trans (first : Added [name] b c) (others : Added names c d) : Added (name :: names) b d where
  scopes := others.scopes.trans first.scopes
  size := Nat.le_trans first.size others.size
  kind r there := (others.kind r (Nat.lt_of_lt_of_le there first.size)).trans (first.kind r there)
  own r there k free := by
    rw [List.map_cons, List.mem_cons, not_or] at free
    rw [others.own r (Nat.lt_of_lt_of_le there first.size) k free.2]
    exact first.own r there k (by simpa using free.1)
  bound p there := by
    rw [List.map_cons, List.mem_cons]
    rcases others.bound p there with there | key
    · rcases first.bound p there with there | key
      · exact .inl there
      · exact .inr (.inl (by simpa using key))
    · exact .inr (.inr key)

/-- What is there when a function was added: its object, and a global property that holds it. -/
theorem add_machine (b : Bound) (name : Text) : (b.add name).machine =
    (b.machine.grown (functionObject name)).updated .global
      (Obj.put (key name) (.data (.object b.machine.next) false false false)) := rfl

/-- A function of the host brings its object and its global name, and nothing else, -/
theorem added_add (b : Bound) (name : Text) : Added [name] b (b.add name) where
  scopes := rfl
  size := by simp [add_machine]
  kind r there := by
    rw [add_machine]
    by_cases here : r = .global
    · subst here
      rw [updated_object _ (by simpa using Nat.lt_succ_of_lt there), Obj.put_kind, object_grown _ there]
    · rw [updated_object_of_ne _ here, object_grown _ there]
  own r there k free := by
    rw [add_machine]
    by_cases here : r = .global
    · subst here
      rw [updated_object _ (by simpa using Nat.lt_succ_of_lt there),
        Obj.own?_put_of_ne (by simpa using free), object_grown _ there]
    · rw [updated_object_of_ne _ here, object_grown _ there]
  bound p there := by
    rcases List.mem_append.mp there with there | there
    · exact .inl there
    · exact .inr (by simp [List.mem_singleton.mp there])

/-- and so do several. -/
theorem added_foldl : ∀ (names : List Text) (b : Bound), Added names b (names.foldl add b)
  | [], b => .refl b
  | name :: names, b => (added_add b name).trans (added_foldl names (b.add name))

/-- A fresh machine with functions of the host is a fresh machine, but for these. -/
theorem added_fresh (senses : Senses) (names : List Text) :
    Added names ⟨Machine.fresh, [], senses⟩ (fresh senses names) :=
  added_foldl names _

/-- What is shown to a machine is no matter of the functions bound on it. -/
theorem foldl_senses (senses : Senses) : ∀ (names : List Text) (b : Bound),
    names.foldl add { b with senses } = { names.foldl add b with senses }
  | [], _ => rfl
  | name :: names, b => foldl_senses senses names (b.add name)

theorem fresh_senses (senses other : Senses) (names : List Text) :
    fresh senses names = { fresh other names with senses } :=
  foldl_senses senses names ⟨Machine.fresh, [], other⟩

/-! ## The functions -/

instance (k : Kind) : Decidable (k = .plain) :=
  match k with
  | .plain => isTrue rfl
  | .array .. | .closure .. | .native _ | .host _ | .settler .. | .latch _ | .boxed _ | .error
  | .arguments | .library _ | .promise _ | .date _ => isFalse nofun

instance (k : Kind) (name : Text) : Decidable (k = .host name) :=
  match k with
  | .host other => decidable_of_iff (other = name) ⟨congrArg _, Kind.host.inj⟩
  | .plain | .array .. | .closure .. | .native _ | .settler .. | .latch _ | .boxed _ | .error
  | .arguments | .library _ | .promise _ | .date _ => isFalse nofun

/-- The name can be neither changed nor removed, -/
theorem add_fixes (there : 0 < b.machine.heap.size) (plain : (b.machine.object .global).kind = .plain) :
    ((b.add name).machine.object .global).Fixes (key name) b.machine.next false ∧
      ((b.add name).machine.object b.machine.next).kind = .host name := by
  have apart : b.machine.next ≠ .global := fun same => by
    have size : b.machine.heap.size = 0 := congrArg Ref.index same
    exact absurd size (Nat.ne_of_gt there)
  have global_there : Ref.global.index < b.machine.heap.size := there
  rw [add_machine]
  constructor
  · rw [updated_object _ (by simp [Ref.global]), object_grown _ global_there, Obj.fixes_iff,
      Obj.put_kind, plain, Obj.slot?_put, if_pos rfl]
    exact ⟨rfl, rfl⟩
  · rw [updated_object_of_ne _ apart, object_next]
    rfl

/-- Each name stands for its function for good, where no other name of the table is the same to scripts. -/
theorem foldl_fixes : ∀ {names : List Text} {b : Bound}, (names.map key).Nodup →
    0 < b.machine.heap.size → (b.machine.object .global).kind = .plain →
    ∀ name ∈ names, ∃ f, ((names.foldl add b).machine.object .global).Fixes (key name) f false ∧
      ((names.foldl add b).machine.object f).kind = .host name
  | [], _, _, _, _, _, among => nomatch among
  | first :: names, b, distinct, there, plain, name, among => by
    obtain ⟨alone, distinct⟩ := List.nodup_cons.mp distinct
    have later := added_add b first
    have there' : 0 < (b.add first).machine.heap.size := Nat.lt_of_lt_of_le there later.size
    rcases List.mem_cons.mp among with rfl | among
    · -- the names that follow leave the property of this one as it is
      obtain ⟨fixed, kind⟩ : ((b.add name).machine.object .global).Fixes (key name) b.machine.next false ∧ _ :=
        add_fixes there plain
      have rest := added_foldl names (b.add name)
      refine ⟨b.machine.next, ?_, ?_⟩
      · rw [List.foldl_cons, Obj.Fixes, rest.own .global there' _ alone]
        exact fixed
      · rw [List.foldl_cons, rest.kind _ (lt_of_kind (by rw [kind]; nofun)), kind]
    · exact foldl_fixes distinct there' ((later.kind .global there).trans plain) name among

/-- whichever of the functions it is of, if they are told apart by name. -/
theorem fresh_fixes {senses : Senses} {names : List Text} (distinct : (names.map key).Nodup) {name : Text}
    (among : name ∈ names) :
    ∃ f, ((fresh senses names).machine.object .global).Fixes (key name) f false ∧
      ((fresh senses names).machine.object f).kind = .host name := by
  have size : 0 < Machine.fresh.heap.size := by decide +kernel
  have plain : (Machine.fresh.object .global).kind = .plain := by decide +kernel
  exact foldl_fixes (b := ⟨Machine.fresh, [], senses⟩) distinct size plain name among

end Bound

end ScriptHost.Script
