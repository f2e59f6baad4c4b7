/-
Errors as scripts show them. An error that the engine makes itself has a message, inherits its name, and becomes a
string by the function that shows errors: the name, with the message behind it unless that is empty. This is so in
every fresh machine, also when the global names were removed that no program gets to see.
-/
import ScriptHost.Proofs.Script.Arguments
import ScriptHost.Proofs.Script.Report

namespace ScriptHost.Script

variable {α : Type} {m n : Machine}

/-- What an error with a message is shown as. -/
def ErrorKind.shown (k : ErrorKind) (message : Utf16) : Utf16 :=
  if message.isEmpty then Utf16.ofString k.name
  else Utf16.ofString k.name ++ Utf16.ofString ": " ++ message

theorem ErrorKind.shown_ne_nil (k : ErrorKind) (message : Utf16) : k.shown message ≠ [] := by
  have named : Utf16.ofString k.name ≠ [] := by cases k <;> decide
  unfold shown
  split
  · exact named
  · simp [named]

/-- What a call on the host goes through is not stripped. -/
theorem Intact.stripped {e : Engine} (intact : Intact e m) (gone : e.Stripped strippedNames m n) : Intact e n := by
  have holds : ∀ {native : Native} {s : Option Slot}, Holds m native s → Holds n native s := by
    rintro native s ⟨f, w, en, c, own, kind⟩
    exact ⟨f, w, en, c, own, (gone.kind f).trans kind⟩
  -- none of the properties that matter has one of the names that were removed
  have own : ∀ {key : Key} (r : Ref), (∀ s ∈ strippedNames, key ≠ s) → e.own? n r key = e.own? m r key :=
    fun r others => gone.own _ others r
  have item : ∀ s ∈ strippedNames, Key.first ≠ s := by decide +kernel
  have rule : ∀ s ∈ strippedNames, ("toJSON" : Key) ≠ s := by decide +kernel
  refine ⟨?_, ?_, ?_, (gone.parent _).trans intact.arrays, (gone.parent _).trans intact.objects, ?_, ?_, ?_⟩
  · obtain ⟨heap, -, rfl⟩ := gone.rest
    exact intact.scope
  · rw [own _ (by decide +kernel)]
    exact holds intact.converts
  · rw [own _ (by decide +kernel)]
    exact holds intact.pushes
  · rw [own _ item, own _ item]
    exact intact.noItem
  · rw [own _ rule, own _ rule]
    exact intact.noRule
  · rw [own _ (by decide +kernel)]
    exact intact.noError

namespace Engine

variable {e d : Engine} {k : ErrorKind}

theorem find?_of_grandparent {r p q : Ref} {key : Key} {s : Slot} (room : 1 < m.heap.size)
    (hr : e.own? m r key = none) (parent : (m.object r).parent = some p) (hp : e.own? m p key = none)
    (parent' : (m.object p).parent = some q) (hq : e.own? m q key = some s) : e.find? m r key = some (q, s) := by
  obtain ⟨levels, enough⟩ := Nat.exists_eq_add_of_le' (Nat.succ_le_of_lt room)
  rw [find?, enough]
  simp only [findUpTo, hr, parent, hp, parent', hq]

theorem throwNew_apply (k : ErrorKind) (message : Text) (m : Machine) :
    (Run.throwNew k message : Run α) m =
      .thrown (.object m.next) (m.grown (.failure k message)) := rfl

/-- A property that holds a string. -/
def Says (t : Utf16) (s : Option Slot) : Prop := ∃ w en c, s = some (.data (.string t) w en c)

instance (t : Utf16) (s : Option Slot) : Decidable (Says t s) :=
  match s with
  | some (.data (.string u) w en c) =>
    decidable_of_iff (u = t) ⟨fun same => ⟨w, en, c, by rw [same]⟩, fun ⟨_, _, _, same⟩ => by cases same; rfl⟩
  | none | some (.accessor ..) | some (.data .undefined ..) | some (.data .null ..) | some (.data (.bool _) ..)
  | some (.data (.number _) ..) | some (.data (.object _) ..) => isFalse nofun

/-- Errors of a kind inherit their name, and are shown as they were at first. -/
structure Tells (e : Engine) (m : Machine) (k : ErrorKind) : Prop where
  parent : (m.object (.errorParent k)).parent = some (.errorParent .error)
  named : Says (Utf16.ofString k.name) (e.own? m (.errorParent k) "name")
  own : e.own? m (.errorParent k) "toString" = none
  shows : Holds m .errorText (e.own? m (.errorParent .error) "toString")

instance (e : Engine) (m : Machine) (k : ErrorKind) : Decidable (e.Tells m k) :=
  decidable_of_iff
    ((m.object (.errorParent k)).parent = some (.errorParent .error) ∧
      Says (Utf16.ofString k.name) (e.own? m (.errorParent k) "name") ∧
      e.own? m (.errorParent k) "toString" = none ∧ Holds m .errorText (e.own? m (.errorParent .error) "toString"))
    ⟨fun ⟨a, b, c, d⟩ => ⟨a, b, c, d⟩, fun ⟨a, b, c, d⟩ => ⟨a, b, c, d⟩⟩

/-- Engines with the same functions of the host see the same properties. -/
theorem Tells.of_bindings (tells : e.Tells m k) (same : d.bindings = e.bindings) : d.Tells m k := by
  have own : d.own? m = e.own? m := congrFun (own?_of_bindings same) m
  exact ⟨tells.parent, own ▸ tells.named, own ▸ tells.own, own ▸ tells.shows⟩

theorem Tells.within (tells : e.Tells m k) (within : m.Within n) : e.Tells n k := by
  have there := Machine.lt_of_parent tells.parent
  have first : (Ref.errorParent .error).index < m.heap.size := Nat.lt_of_le_of_lt (Nat.le_add_right 8 _) there
  refine ⟨?_, ?_, ?_, ?_⟩
  · rw [within _ there]
    exact tells.parent
  · rw [own?_within within there]
    exact tells.named
  · rw [own?_within within there]
    exact tells.own
  · rw [own?_within within first]
    exact tells.shows.within within

theorem Tells.stripped (tells : e.Tells m k) (gone : e.Stripped strippedNames m n) : e.Tells n k := by
  refine ⟨(gone.parent _).trans tells.parent, ?_, ?_, ?_⟩
  · rw [gone.own _ (by decide +kernel)]
    exact tells.named
  · rw [gone.own _ (by decide +kernel)]
    exact tells.own
  · rw [gone.own _ (by decide +kernel)]
    obtain ⟨f, w, en, c, own, kind⟩ := tells.shows
    exact ⟨f, w, en, c, own, (gone.kind f).trans kind⟩

section Failures

variable (tells : d.Tells m k) (message : Text)

include tells

theorem Tells.next_ne : m.next ≠ .global := by
  intro same
  have there := Machine.lt_of_parent tells.parent
  have index : m.heap.size = 0 := congrArg Ref.index same
  omega

/-- The newest object has what it was made with. -/
theorem Tells.own_next (key : Key) :
    d.own? (m.grown (.failure k message)) m.next key = (Obj.failure k message).own? key := by
  rw [own?_of_ne tells.next_ne, Machine.object_next]

/-- An error with a message shows its name, and its message if that is not empty. -/
theorem errorText_failure : d.errorText (.object m.next) (m.grown (.failure k message)) =
    .value (.string (k.shown (Text.toUtf16 message))) (m.grown (.failure k message)) := by
  set n := m.grown (.failure k message) with hn
  have parent : (n.object m.next).parent = some (.errorParent k) := by
    rw [hn, Machine.object_next]
    rfl
  have named : d.get (.object m.next) "name" n = .value (.string (Utf16.ofString k.name)) n := by
    obtain ⟨w, en, c, named⟩ := (tells.within (Machine.extends_grown (.failure k message) m).within).named
    refine get_of_find (find?_of_parent ?_ parent named)
    rw [hn, tells.own_next]
    rfl
  have own : d.own? n m.next "message" = some (.hidden (.string (Text.toUtf16 message))) := by
    rw [hn, tells.own_next]
    rfl
  have told : d.get (.object m.next) "message" n = .value (.string (Text.toUtf16 message)) n :=
    get_of_find (find?_of_own own)
  have part : ∀ {key : Key} {s missing : Utf16}, d.get (.object m.next) key n = .value (.string s) n →
      (do
        let v ← d.get (.object m.next) key
        if v.isUndefined then return missing else d.toUnits v : Run Utf16) n = .value s n := by
    intro key s missing found
    rw [Run.bind_apply, found]
    rfl
  have needed : (discard (needObject (.object m.next)) : Run Unit) n = .value () n := rfl
  have kept : (Utf16.ofString k.name).isEmpty = false := by cases k <;> rfl
  unfold errorText ErrorKind.shown
  dsimp only
  rw [Run.bind_apply, needed, Result.follow_value, Run.bind_apply, part named, Result.follow_value, Run.bind_apply,
    part told, Result.follow_value, kept]
  cases (Text.toUtf16 message).isEmpty <;> rfl

/-- Such an error becomes a string by the function that shows errors. -/
theorem toUnits_failure : (above d).toUnits (.object m.next) (m.grown (.failure k message)) =
    .value (k.shown (Text.toUtf16 message)) (m.grown (.failure k message)) := by
  set n := m.grown (.failure k message) with hn
  have grown := tells.within (Machine.extends_grown (.failure k message) m).within
  have parent : (n.object m.next).parent = some (.errorParent k) := by
    rw [hn, Machine.object_next]
    rfl
  have own : d.own? n m.next "toString" = none := by
    rw [hn, tells.own_next]
    rfl
  -- neither the error nor what errors of its kind inherit from has its own conversion, so that of all errors is found
  obtain ⟨f, w, en, c, shows, kind⟩ := grown.shows
  have found : (above d).get (.object m.next) "toString" n = .value (.object f) n := by
    refine get_of_find (find?_of_grandparent ?_ own parent grown.own grown.parent shows)
    rw [hn, Machine.grown_size]
    exact Nat.succ_lt_succ (Nat.zero_lt_of_lt (Machine.lt_of_parent tells.parent))
  have callable : isCallable (.object f) n = .value true n := by
    rw [isCallable, Run.bind_apply, Run.object_apply, Result.follow_value, Obj.isCallable, kind]
    rfl
  have call : (above d).call (.object f) (.object m.next) [] n =
      .value (.string (k.shown (Text.toUtf16 message))) n :=
    (callValue_native kind _ _).trans (errorText_failure tells message)
  have asked : (above d).askFor (.object m.next) (askingOrder .string) n =
      .value (.string (k.shown (Text.toUtf16 message))) n := by
    rw [askingOrder, askFor, Run.bind_apply, found, Result.follow_value, Run.bind_apply, callable, Result.follow_value,
      if_pos rfl, Run.bind_apply, call]
    rfl
  show (do return (← (above d).askFor (.object m.next) (askingOrder .string)).primitiveUnits : Run Utf16) n = _
  rw [Run.bind_apply, asked]
  rfl

end Failures

end Engine

end ScriptHost.Script
