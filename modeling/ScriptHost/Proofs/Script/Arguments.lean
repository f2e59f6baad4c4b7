/-
Arguments on their way to the host. Each of them becomes a string by the built-in conversion, which can
run anything that scripts can; the strings are gathered in a list, one behind the other. As long as each
conversion leaves alone what the call goes through, the list that crosses is that of the strings, and the
first conversion that throws ends the call with what it throws.
-/
import ScriptHost.Proofs.Script.HostCall
import ScriptHost.Proofs.Script.Ages.Evaluate
import ScriptHost.Proofs.Script.Ended

namespace ScriptHost.Script

open Machine

/-- A machine on which all is as in the beginning that a call with at most so many arguments goes through:
besides what its arguments meet, what the answer is looked at with and errors are made by. -/
structure Pristine (e : Engine) (m : Machine) (most : Nat) : Prop extends Intact e m where
  /-- Arrays inherit none of the items. -/
  noItems : ∀ i < most, e.own? m .arrayParent (.index i) = none ∧ e.own? m .objectParent (.index i) = none
  /-- Objects inherit no value. -/
  noValue : e.own? m .objectParent "value" = none
  /-- The global name `Error` stands for the function that makes errors. -/
  fails : Holds m (.error .error) (e.own? m .global "Error")

instance (e : Engine) (m : Machine) (most : Nat) : Decidable (Pristine e m most) :=
  decidable_of_iff
    (Intact e m ∧
      (∀ i < most, e.own? m .arrayParent (.index i) = none ∧ e.own? m .objectParent (.index i) = none) ∧
      e.own? m .objectParent "value" = none ∧ Holds m (.error .error) (e.own? m .global "Error"))
    ⟨fun ⟨a, b, c, d⟩ => ⟨a, b, c, d⟩, fun ⟨a, b, c, d⟩ => ⟨a, b, c, d⟩⟩

/-! ## Machines with a list -/

variable {e : Engine} {m n : Machine} {list : Ref} {vs us : List Value} {most : Nat}

/-- A changed list is no function. -/
theorem Holds.updated {f : Native} {s : Option Slot} (h : Holds m f s) (there : m.object list = .listing vs)
    (o : Obj) : Holds (m.updated list fun _ => o) f s := by
  obtain ⟨r, w, en, c, found, kind⟩ := h
  refine ⟨r, w, en, c, found, ?_⟩
  have other : r ≠ list := by
    rintro rfl
    rw [there] at kind
    cases kind
  rw [updated_object_of_ne _ other]
  exact kind

namespace Intact

variable (h : Intact e m) (there : m.object list = .listing vs) (other : list ≠ .global)

include h there

theorem arrayParent_ne : Ref.arrayParent ≠ list := by
  rintro rfl
  have parent := h.arrays
  rw [there] at parent
  cases parent

theorem objectParent_ne : Ref.objectParent ≠ list := by
  rintro rfl
  have parent := h.objects
  rw [there] at parent
  cases parent

include other

/-- What has been gathered matters to nothing that a call goes through. -/
theorem updated (us : List Value) : Intact e (m.updated list fun _ => .listing us) := by
  have array := updated_object_of_ne (fun _ => .listing us) (m := m) (h.arrayParent_ne there)
  have object := updated_object_of_ne (fun _ => .listing us) (m := m) (h.objectParent_ne there)
  have own : ∀ k, e.own? (m.updated list fun _ => .listing us) .global k = e.own? m .global k := fun k =>
    Engine.own?_congr (by rw [updated_object_of_ne _ other.symm])
  have own_array : ∀ k, e.own? (m.updated list fun _ => .listing us) .arrayParent k = e.own? m .arrayParent k :=
    fun k => Engine.own?_congr (by rw [array])
  have own_object : ∀ k, e.own? (m.updated list fun _ => .listing us) .objectParent k = e.own? m .objectParent k :=
    fun k => Engine.own?_congr (by rw [object])
  exact {
    scope := h.scope
    converts := by
      rw [own]
      exact h.converts.updated there _
    pushes := by
      rw [own_array]
      exact h.pushes.updated there _
    arrays := by rw [array, h.arrays]
    objects := by rw [object, h.objects]
    noItem := by
      rw [own_array, own_object]
      exact h.noItem
    noRule := by
      rw [own_array, own_object]
      exact h.noRule
    noError := by
      rw [own_object]
      exact h.noError }

end Intact

namespace Pristine

theorem of_bindings {d : Engine} (h : Pristine e m most) (same : d.bindings = e.bindings) : Pristine d m most := by
  have own : d.own? m = e.own? m := congrFun (Engine.own?_of_bindings same) m
  exact ⟨h.toIntact.of_bindings same, own ▸ h.noItems, own ▸ h.noValue, own ▸ h.fails⟩

theorem within (h : Pristine e m most) (within : m.Within n) (scope : n.scopes[0]?.getD .global = .global) :
    Pristine e n most := by
  have own : ∀ {r : Ref}, r.index < m.heap.size → ∀ k, e.own? n r k = e.own? m r k := Engine.own?_within within
  refine ⟨h.toIntact.within within scope, fun i small => ?_, ?_, ?_⟩
  · rw [own h.arrayParent_lt, own h.objectParent_lt]
    exact h.noItems i small
  · rw [own h.objectParent_lt]
    exact h.noValue
  · rw [own h.global_lt]
    exact h.fails.within within

theorem carried (h : Pristine e m most) (extended : m.Extends n) : Pristine e n most :=
  h.within extended.within (h.toIntact.carried extended).scope

/-- It matters to none of it with how few arguments a call is made. -/
theorem fewer (h : Pristine e m most) {few : Nat} (le : few ≤ most) : Pristine e m few :=
  ⟨h.toIntact, fun i small => h.noItems i (Nat.lt_of_lt_of_le small le), h.noValue, h.fails⟩

theorem updated (h : Pristine e m most) (there : m.object list = .listing vs) (other : list ≠ .global)
    (us : List Value) : Pristine e (m.updated list fun _ => .listing us) most := by
  have own_array : ∀ k, e.own? (m.updated list fun _ => .listing us) .arrayParent k = e.own? m .arrayParent k :=
    fun k => Engine.own?_congr (by rw [updated_object_of_ne _ (h.arrayParent_ne there)])
  have own_object : ∀ k, e.own? (m.updated list fun _ => .listing us) .objectParent k = e.own? m .objectParent k :=
    fun k => Engine.own?_congr (by rw [updated_object_of_ne _ (h.objectParent_ne there)])
  refine ⟨h.toIntact.updated there other us, fun i small => ?_, ?_, ?_⟩
  · rw [own_array, own_object]
    exact h.noItems i small
  · rw [own_object]
    exact h.noValue
  · have own := Engine.own?_congr (e := e) (k := "Error") (m := m) (n := m.updated list fun _ => .listing us)
      (by rw [updated_object_of_ne _ other.symm])
    rw [own]
    exact h.fails.updated there _

end Pristine

/-! ## Gathering -/

section Gathering

variable {σ : Type} {host : Host σ} {w u : σ} {args : List Value} {ss : List Utf16}

/-- How gathering the strings of arguments ends, each made by the built-in conversion on the machine and
with the host that the one before it left: with all of them, with what a conversion throws, or never. A
conversion that gives a string leaves alone what the call goes through and what was gathered. -/
inductive Gathers (e : Engine) (host : Host σ) (list : Ref) (most : Nat) :
    List Utf16 → List Value → Machine → σ → Option (Except Value (List Utf16)) × Machine × σ → Prop
  | done {ss : List Utf16} {m : Machine} {w : σ} : Gathers e host list most ss [] m w (some (.ok ss), m, w)
  | next {ss : List Utf16} {s : Utf16} {v : Value} {rest : List Value} {m n : Machine} {w u : σ}
      {out : Option (Except Value (List Utf16)) × Machine × σ}
      (converted : (e.toUnits v m).ended host w = (some (.ok s), n, u))
      (pristine : Pristine e n most) (kept : n.object list = m.object list)
      (gathers : Gathers e host list most (ss ++ [s]) rest (n.updated list fun _ => .strings (ss ++ [s])) u out) :
      Gathers e host list most ss (v :: rest) m w out
  | thrown {ss : List Utf16} {v t : Value} {rest : List Value} {m n : Machine} {w u : σ}
      (threw : (e.toUnits v m).ended host w = (some (.error t), n, u)) :
      Gathers e host list most ss (v :: rest) m w (some (.error t), n, u)
  | spent {ss : List Utf16} {v : Value} {rest : List Value} {m n : Machine} {w u : σ}
      (endless : (e.toUnits v m).ended host w = (none, n, u)) :
      Gathers e host list most ss (v :: rest) m w (none, n, u)

/-- Primitive arguments are gathered whatever else there is. -/
theorem Gathers.primitive (primitive : ∀ v ∈ args, v.ref? = none) (pristine : Pristine e m most)
    (there : m.object list = .strings ss) (other : list ≠ .global) (inside : list.index < m.heap.size) :
    Gathers e host list most ss args m w (some (.ok (ss ++ args.map Value.primitiveUnits)),
      m.updated list fun _ => .strings (ss ++ args.map Value.primitiveUnits), w) := by
  induction args generalizing ss m with
  | nil =>
    rw [List.map_nil, List.append_nil, updated_self _ there.symm]
    exact .done
  | cons v rest ih =>
    have converted : (e.toUnits v m).ended host w = (some (.ok v.primitiveUnits), m, w) := by
      rw [Engine.toUnits_primitive (primitive v List.mem_cons_self)]
      rfl
    have gathers := ih (fun u among => primitive u (List.mem_cons_of_mem _ among))
      (pristine.updated there other _) (updated_object (fun _ => .strings (ss ++ [v.primitiveUnits])) inside)
      (by simpa using inside)
    rw [List.append_assoc, updated_updated] at gathers
    exact .next converted pristine rfl gathers

namespace Engine

/-- The built-in conversion, when it is called by its global name. -/
theorem ended_callString {f : Ref} (kind : (m.object f).kind = .native .string) (v : Value)
    {r : Option (Except Value Utf16)} (converted : ((above e).toUnits v m).ended host w = (r, n, u)) :
    ((above (above e)).call (.object f) .undefined [v] m).ended host w = (r.map (·.map .string), n, u) := by
  have called : (above (above e)).call (.object f) .undefined [v] m =
      ((above e).toUnits v >>= fun s => pure (.string s)) m := callValue_native kind _ _
  rw [called, Run.bind_apply, Result.ended_follow, converted]
  rcases r with _ | _ | _ <;> rfl

/-- The string of the next argument goes behind the others. -/
theorem ended_collect_next (ages : e.Ages) (h : Intact (above e) m) (there : m.object list = .listing vs)
    (other : list ≠ .global) (room : vs.length < Key.indexLimit) {v : Value} {s : Utf16}
    (converted : ((above e).toUnits v m).ended host w = (some (.ok s), n, u)) (h' : Intact (above e) n)
    (noItem : (above e).own? n .arrayParent (.index vs.length) = none ∧
      (above e).own? n .objectParent (.index vs.length) = none)
    (kept : n.object list = m.object list) (rest : List Value) :
    ((above (above e)).collect list (v :: rest) m).ended host w =
      ((above (above e)).collect list rest (n.updated list fun _ => .listing (vs ++ [.string s]))).ended host u := by
  obtain ⟨p, get_push, push_kind⟩ := get_push (h.of_bindings (d := above (above e)) rfl) there other (Nat.le_of_lt room)
  obtain ⟨f, wr, en, c, converts, string_kind⟩ := h.converts
  have read : (above (above e)).readName .global stringName m = .value (.object f) m :=
    readName_global h.scope converts
  have there' : n.object list = .listing vs := kept.trans there
  have inside : list.index < n.heap.size := lt_of_parent (by rw [there']; rfl)
  -- what makes lists grow is the function that it was before the conversion
  have later : m.Later n := (ages_toUnits (above_ages ages) v).ended converted
  have lacks : (above e).Lacks n (.index vs.length) .arrayParent :=
    .above noItem.1 h'.arrays (.root noItem.2 h'.objects)
  have put : (above (above e)).call (.object p) (.object list) [.string s] n =
      .value (.number (Number.ofNat (vs.length + 1))) (n.updated list fun _ => .listing (vs ++ [.string s])) :=
    (callValue_native (later.native push_kind) _ _).trans
      (push_listing other there' room inside lacks (.string s))
  have string := ended_callString string_kind v converted
  rw [collect, Run.bind_apply, get_push, Result.follow_value, Run.bind_apply, read, Result.follow_value,
    Run.ended_bind _ string, Run.bind_apply, Run.discard_apply, put]
  rfl

/-- A conversion that gives no string ends the gathering as it ended. -/
theorem ended_collect_stopped (h : Intact (above e) m) (there : m.object list = .listing vs) (other : list ≠ .global)
    (room : vs.length ≤ Key.indexLimit) {v : Value} {r : Option (Except Value Utf16)}
    (converted : ((above e).toUnits v m).ended host w = (r, n, u))
    (none_made : ∀ s, r ≠ some (.ok s)) (rest : List Value) :
    ((above (above e)).collect list (v :: rest) m).ended host w = (r.map (·.map fun _ => ()), n, u) := by
  obtain ⟨p, get_push, -⟩ := get_push (h.of_bindings (d := above (above e)) rfl) there other room
  obtain ⟨f, wr, en, c, converts, string_kind⟩ := h.converts
  have read : (above (above e)).readName .global stringName m = .value (.object f) m :=
    readName_global h.scope converts
  have string := ended_callString string_kind v converted
  rw [collect, Run.bind_apply, get_push, Result.follow_value, Run.bind_apply, read, Result.follow_value]
  rcases r with _ | t | s
  · exact Run.ended_bind_none _ string
  · exact Run.ended_bind_error _ string
  · exact absurd rfl (none_made s)

/-- Collecting arguments ends as gathering their strings does. -/
theorem ended_collect (ages : e.Ages) (limit : most ≤ Key.indexLimit)
    {out : Option (Except Value (List Utf16)) × Machine × σ}
    (gathers : Gathers (above e) host list most ss args m w out) (pristine : Pristine (above e) m most)
    (there : m.object list = .strings ss) (other : list ≠ .global) (room : ss.length + args.length ≤ most) :
    ((above (above e)).collect list args m).ended host w = (out.1.map (·.map fun _ => ()), out.2) := by
  induction gathers with
  | done => rfl
  | @next ss s v rest m n w u out converted pristine' kept gathers ih =>
    rw [List.length_cons] at room
    have inside : list.index < n.heap.size := lt_of_parent (by rw [kept, there]; rfl)
    have behind : Obj.strings (ss ++ [s]) = .listing (ss.map .string ++ [.string s]) := by
      rw [Obj.strings, List.map_append]
      rfl
    rw [ended_collect_next ages pristine.toIntact there other (by rw [List.length_map]; omega) converted
      pristine'.toIntact (by rw [List.length_map]; exact pristine'.noItems _ (by omega)) kept, ← behind]
    exact ih (pristine'.updated (kept.trans there) other _) (updated_object _ inside)
      (by rw [List.length_append, List.length_singleton]; omega)
  | thrown threw =>
    exact ended_collect_stopped pristine.toIntact there other (by rw [List.length_map]; omega) threw (by simp) _
  | spent endless =>
    exact ended_collect_stopped pristine.toIntact there other (by rw [List.length_map]; omega) endless (by simp) _

end Engine

/-- When all strings are gathered the list holds them, and the call can go on. -/
theorem Gathers.gathered {out : Option (Except Value (List Utf16)) × Machine × σ}
    (gathers : Gathers e host list most ss args m w out) (pristine : Pristine e m most)
    (there : m.object list = .strings ss) (other : list ≠ .global) {ss' : List Utf16}
    (all : out = (some (.ok ss'), n, u)) :
    Pristine e n most ∧ n.object list = .strings ss' ∧ ss'.length = ss.length + args.length := by
  induction gathers with
  | done =>
    cases all
    exact ⟨pristine, there, rfl⟩
  | next _ pristine' kept _ ih =>
    have inside : list.index < _ := lt_of_parent (m := _) (by rw [kept, there]; rfl)
    have ⟨left, holds, length⟩ := ih (pristine'.updated (kept.trans there) other _) (updated_object _ inside) all
    refine ⟨left, holds, ?_⟩
    rw [length, List.length_append, List.length_singleton, List.length_cons]
    omega
  | thrown => cases all
  | spent => cases all

/-! ## Answers -/

/-- An error object with a message. -/
def Obj.failure (k : ErrorKind) (message : Text) : Obj where
  kind := .error
  parent := some (.errorParent k)
  slots := [("message", .hidden (.string (Text.toUtf16 message)))]

namespace Engine

/-- No value comes back as undefined. -/
theorem giveBack_nothing (h : Pristine e m most) :
    e.giveBack .nothing m = .value .undefined (m.grown (.record [])) := by
  have error := get_record_none h.toIntact (o := .record []) (k := "error") rfl rfl h.noError
  have value := get_record_none h.toIntact (o := .record []) (k := "value") rfl rfl h.noValue
  simp only [giveBack, replied, looked, Run.bind_apply, replyObject_apply, error, Result.follow_value]
  exact value

/-- The object of a refusal. -/
def refusal (message : Text) : Obj := .record [("error", .string (Text.toUtf16 message))]

/-- Errors are made of their messages by the function that makes them. -/
theorem constructValue_error {f : Ref} (kind : (m.object f).kind = .native (.error .error)) (message : Text) :
    (above e).constructValue (.object f) [.string (Text.toUtf16 message)] m =
      .value (.object m.next) (m.grown (.failure .error message)) := by
  have made : Run.alloc { kind := .error, parent := some (.errorParent .error) } m =
    .value m.next (m.grown { kind := .error, parent := some (.errorParent .error) }) := rfl
  have units : (above e).toUnits (.string (Text.toUtf16 message)) = pure (Text.toUtf16 message) := rfl
  rw [constructValue, Run.bind_apply, Run.object_apply, Result.follow_value, kind]
  show (above e).errorOf .error (.string (Text.toUtf16 message)) m = _
  rw [errorOf, Run.bind_apply, made, Result.follow_value, units, if_pos (by simp [Value.isUndefined])]
  simp only [Run.bind_apply, Run.pure_apply, Result.follow_value, update_next]
  rfl

/-- A refusal is thrown as an error with its message. -/
theorem giveBack_refused (h : Pristine e m most) (message : Text) : ∃ r n,
    (above (above e)).giveBack (.refused message) m = .thrown (.object r) n ∧
      n.object r = .failure .error message ∧ m.Extends n := by
  have h₂ : Pristine (above (above e)) m most := h.of_bindings rfl
  have extended := extends_grown (refusal message) m
  have error : (above (above e)).get (.object m.next) "error" (m.grown (refusal message)) =
      .value (.string (Text.toUtf16 message)) (m.grown (refusal message)) :=
    get_record h₂.toIntact (o := refusal message) rfl
  obtain ⟨f, w, en, c, found, kind⟩ := (h₂.carried extended).fails
  have read : (above (above e)).readName .global errorName (m.grown (refusal message)) =
      .value (.object f) (m.grown (refusal message)) := readName_global (h₂.carried extended).scope found
  have reply : (above (above e)).giveBack (.refused message) m =
      (above (above e)).looked (.object m.next) (m.grown (refusal message)) := by
    rw [giveBack, Run.bind_apply, replied, replyObject_apply]
    rfl
  refine ⟨(m.grown (refusal message)).next, (m.grown (refusal message)).grown (.failure .error message), ?_,
    object_next _ _, extended.trans (extends_grown _ _)⟩
  rw [reply, looked, Run.bind_apply, error, Result.follow_value, if_neg (by simp [Value.isUndefined]),
    Run.bind_apply, read, Result.follow_value, Run.bind_apply, error, Result.follow_value, Run.bind_apply]
  show (Result.follow _ _ ((above e).constructValue (.object f) _ _)) = _
  rw [constructValue_error kind]
  rfl

/-- A failure is thrown as an internal error. -/
theorem giveBack_failed (message : Text) (m : Machine) :
    e.giveBack (.failed message) m = .thrown (.object m.next) (m.grown (.failure .internalError message)) := rfl

/-- A call on the host whose arguments are gathered asks once, with their texts in order, and goes on from
the reply; one whose arguments are not gathered does not ask, and ends as the gathering. -/
theorem ended_callHost (ages : e.Ages) (limit : args.length ≤ Key.indexLimit)
    (pristine : Pristine (above e) m args.length) (name : Text)
    {out : Option (Except Value (List Utf16)) × Machine × σ}
    (gathers : Gathers (above e) host m.next args.length [] args (m.grown (.strings [])) w out) :
    ((above (above e)).callHost name args m).ended host w = match out with
      | (some (.ok ss), n, u) => ((above (above e)).giveBack (host (.call name (crossing ss)) u).1 n).ended host
          (host (.call name (crossing ss)) u).2
      | (some (.error t), n, u) => (some (.error t), n, u)
      | (none, n, u) => (none, n, u) := by
  have list : Run.allocArray [] m = .value m.next (m.grown (.strings [])) := rfl
  have collected := ended_collect ages limit gathers (pristine.carried (extends_grown _ m)) (object_next _ m)
    pristine.next_ne (by simp)
  rw [callHost, Run.bind_apply, list, Result.follow_value]
  rcases out with ⟨_ | t | ss, n, u⟩
  · exact Run.ended_bind_none _ collected
  · exact Run.ended_bind_error _ collected
  · obtain ⟨left, holds, length⟩ := gathers.gathered (pristine.carried (extends_grown _ m)) (object_next _ m)
      pristine.next_ne rfl
    rw [Run.ended_bind _ collected]
    have room : ss.length ≤ Key.indexLimit := by simpa [length] using limit
    have asks := asked left.toIntact holds pristine.next_ne room name
    exact congrArg (Result.ended host · u) asks

/-- A call with primitive arguments asks once with their texts, and goes on from the reply on a machine with
one more list. -/
theorem ended_callHost_primitive (ages : e.Ages) (limit : args.length ≤ Key.indexLimit)
    (pristine : Pristine (above e) m args.length) (primitive : ∀ v ∈ args, v.ref? = none) (name : Text) :
    ((above (above e)).callHost name args m).ended host w =
      ((above (above e)).giveBack (host (.call name (crossing (args.map Value.primitiveUnits))) w).1
        (m.grown (.strings (args.map Value.primitiveUnits)))).ended host
          (host (.call name (crossing (args.map Value.primitiveUnits))) w).2 := by
  have gathers : Gathers (above e) host m.next args.length [] args (m.grown (.strings [])) w _ :=
    .primitive primitive (pristine.carried (extends_grown (.strings []) m)) (object_next _ m) pristine.next_ne
      (by simp [Machine.next])
  rw [updated_next] at gathers
  rw [ended_callHost ages limit pristine name gathers]
  rfl

end Engine

end Gathering

end ScriptHost.Script
