/-
Calls on functions of the host by scripts. What such a call goes through on its way can be changed by any
script: the function that the global name `String` stands for, the one by which arrays grow, and what
objects inherit. On a machine where that is as it was in the beginning, a string that is handed over
reaches the host unchanged, and a text that the host answers with comes back unchanged; the machine is
left with two more objects and nothing else.
-/
import ScriptHost.Proofs.Script.Trees

namespace ScriptHost.Script

open Machine

/-- The key of the first item of a list. -/
def Key.first : Key := .index 0

/-- A property that holds a function that every script finds. -/
def Holds (m : Machine) (n : Native) (s : Option Slot) : Prop :=
  ∃ f w en c, s = some (.data (.object f) w en c) ∧ (m.object f).kind = .native n

/-- A machine on which what a call on the host goes through is as it was in the beginning. -/
structure Intact (e : Engine) (m : Machine) : Prop where
  /-- The outermost scope is that of the global object. -/
  scope : m.scopes[0]?.getD .global = .global
  /-- The global name `String` stands for the function that makes strings. -/
  converts : Holds m .string (e.own? m .global "String")
  /-- Arrays grow by the function that makes them grow. -/
  pushes : Holds m .push (e.own? m .arrayParent "push")
  arrays : (m.object .arrayParent).parent = some .objectParent
  objects : (m.object .objectParent).parent = none
  /-- Arrays inherit no items and no rule for being written out. -/
  noItem : e.own? m .arrayParent .first = none ∧ e.own? m .objectParent .first = none
  noRule : e.own? m .arrayParent "toJSON" = none ∧ e.own? m .objectParent "toJSON" = none
  /-- Objects inherit no error. -/
  noError : e.own? m .objectParent "error" = none

/-! ## Deciding it -/

instance (k : Kind) (n : Native) : Decidable (k = .native n) :=
  match k with
  | .native f => decidable_of_iff (f = n) ⟨congrArg _, Kind.native.inj⟩
  | .plain | .array .. | .closure .. | .host _ | .settler .. | .latch _ | .boxed _ | .error
  | .arguments | .library _ | .promise _ | .date _ => isFalse nofun

instance (m : Machine) (n : Native) (s : Option Slot) : Decidable (Holds m n s) :=
  match s with
  | some (.data (.object f) w en c) =>
    decidable_of_iff ((m.object f).kind = .native n)
      ⟨fun kind => ⟨f, w, en, c, rfl, kind⟩,
        fun ⟨_, _, _, _, same, kind⟩ => by cases same; exact kind⟩
  | none | some (.accessor ..) | some (.data .undefined ..) | some (.data .null ..)
  | some (.data (.bool _) ..) | some (.data (.number _) ..) | some (.data (.string _) ..) =>
    isFalse nofun

instance (s : Scope) : Decidable (s = .global) :=
  match s with
  | .global => isTrue rfl
  | .names .. | .object .. => isFalse nofun

instance (e : Engine) (m : Machine) : Decidable (Intact e m) :=
  decidable_of_iff
    (m.scopes[0]?.getD .global = .global ∧ Holds m .string (e.own? m .global "String") ∧
      Holds m .push (e.own? m .arrayParent "push") ∧
      (m.object .arrayParent).parent = some .objectParent ∧ (m.object .objectParent).parent = none ∧
      (e.own? m .arrayParent .first = none ∧ e.own? m .objectParent .first = none) ∧
      (e.own? m .arrayParent "toJSON" = none ∧ e.own? m .objectParent "toJSON" = none) ∧
      e.own? m .objectParent "error" = none)
    ⟨fun ⟨a, b, c, d, e, f, g, h⟩ => ⟨a, b, c, d, e, f, g, h⟩,
      fun ⟨a, b, c, d, e, f, g, h⟩ => ⟨a, b, c, d, e, f, g, h⟩⟩

theorem Holds.within {m m' : Machine} {n : Native} {s : Option Slot} (h : Holds m n s)
    (within : m.Within m') : Holds m' n s := by
  obtain ⟨f, w, en, c, found, kind⟩ := h
  refine ⟨f, w, en, c, found, ?_⟩
  rw [within f (lt_of_kind (by rw [kind]; nofun))]
  exact kind

/-- An object that is as it was has the properties that it had. -/
theorem Engine.own?_within {e : Engine} {m n : Machine} (within : m.Within n) {r : Ref} (there : r.index < m.heap.size)
    (k : Key) : e.own? n r k = e.own? m r k := own?_congr (by rw [within r there])

namespace Intact

variable {e : Engine} {m : Machine} (h : Intact e m)

include h

theorem arrayParent_lt : Ref.arrayParent.index < m.heap.size := lt_of_parent h.arrays

theorem objectParent_lt : Ref.objectParent.index < m.heap.size :=
  Nat.lt_trans (by decide) h.arrayParent_lt

theorem global_lt : Ref.global.index < m.heap.size := Nat.lt_trans (by decide) h.arrayParent_lt

theorem next_ne : m.next ≠ .global := by
  intro same
  have := h.global_lt
  rw [← same] at this
  exact Nat.lt_irrefl _ this

/-- Engines with the same functions of the host see the same properties. -/
theorem of_bindings {d : Engine} (same : d.bindings = e.bindings) : Intact d m := by
  have own : d.own? m = e.own? m := congrFun (Engine.own?_of_bindings same) m
  exact ⟨h.scope, own ▸ h.converts, own ▸ h.pushes, h.arrays, h.objects, own ▸ h.noItem,
    own ▸ h.noRule, own ▸ h.noError⟩

theorem within {n : Machine} (within : m.Within n) (scope : n.scopes[0]?.getD .global = .global) : Intact e n := by
  have own : ∀ {r : Ref}, r.index < m.heap.size → ∀ k, e.own? n r k = e.own? m r k := Engine.own?_within within
  refine {
    scope, converts := ?_, pushes := ?_
    arrays := by rw [within _ h.arrayParent_lt, h.arrays]
    objects := by rw [within _ h.objectParent_lt, h.objects]
    noItem := ?_, noRule := ?_, noError := ?_ }
  · rw [own h.global_lt]
    exact h.converts.within within
  · rw [own h.arrayParent_lt]
    exact h.pushes.within within
  · rw [own h.arrayParent_lt, own h.objectParent_lt]
    exact h.noItem
  · rw [own h.arrayParent_lt, own h.objectParent_lt]
    exact h.noRule
  · rw [own h.objectParent_lt]
    exact h.noError

theorem carried {n : Machine} (extended : m.Extends n) : Intact e n :=
  h.within extended.within (by obtain ⟨os, rfl⟩ := extended; exact h.scope)

theorem grown (o : Obj) : Intact e (m.grown o) := h.carried (extends_grown o m)

/-- What the newest object itself has. -/
theorem own_next (o : Obj) (k : Key) : e.own? (m.grown o) m.next k = o.own? k := by
  rw [Engine.own?_of_ne h.next_ne, object_next]

end Intact

/-! ## The list of arguments -/

/-- A list of strings as an object. -/
def Obj.strings (ss : List Utf16) : Obj := .listing (ss.map .string)

namespace Engine

variable {e : Engine} {m : Machine} {list : Ref} {vs : List Value} {ss : List Utf16}

theorem callValue_native {f : Ref} {n : Native} (kind : (m.object f).kind = .native n) (this : Value)
    (args : List Value) : e.callValue (.object f) this args m = e.callNative n this args m := by
  simp only [callValue, Run.bind_apply, Run.object_apply, Result.follow_value, kind]

theorem callValue_host {f : Ref} {name : Text} (kind : (m.object f).kind = .host name) (this : Value)
    (args : List Value) : e.callValue (.object f) this args m = e.callHost name args m := by
  simp only [callValue, Run.bind_apply, Run.object_apply, Result.follow_value, kind]

theorem ofDepth_bindings (bindings : List (Key × Ref)) :
    ∀ depth, (ofDepth bindings depth).bindings = bindings
  | 0 => rfl
  | depth + 1 => ofDepth_bindings bindings depth

theorem readName_found (scope : m.scopes[0]?.getD .global = .global) {n : Utf16} {r : Ref} {v : Value}
    {w en c : Bool} (found : e.find? m .global (.ofUnits n) = some (r, .data v w en c)) :
    e.readName .global n m = .value v m := by
  have holds : e.holder .global n m = .value (.property .global) m := by
    rw [holder, Run.look_apply, holderUpTo]
    simp only [ScopeRef.global, scope, found, Option.isSome_some, if_true]
  rw [readName, Run.bind_apply, holds]
  exact get_of_find found

theorem readName_global (scope : m.scopes[0]?.getD .global = .global) {n : Utf16} {v : Value}
    {w en c : Bool} (own : e.own? m .global (.ofUnits n) = some (.data v w en c)) :
    e.readName .global n m = .value v m := readName_found scope (find?_of_own own)

/-- Lists grow by the function that they inherit. -/
theorem get_push (h : Intact e m) (there : m.object list = .listing vs) (other : list ≠ .global)
    (room : vs.length ≤ Key.indexLimit) :
    ∃ p, e.get (.object list) "push" m = .value (.object p) m ∧ (m.object p).kind = .native .push := by
  obtain ⟨p, w, en, c, pushed, kind⟩ := h.pushes
  have own : e.own? m list "push" = none := by
    rw [own?_of_ne other, there]
    exact Obj.own?_listing_name room (by decide +kernel)
  exact ⟨p, get_of_find (find?_of_parent own (by rw [there]; rfl) pushed), kind⟩

/-- A string is collected into a new list as it is. -/
theorem collect_string (h : Intact e m) (u : Utf16) :
    (above e).collect m.next [.string u] (m.grown (.strings [])) = .value () (m.grown (.strings [u])) := by
  have h₁ : Intact (above e) m := h.of_bindings rfl
  -- making the list has changed nothing that the call goes through
  have h₂ := h₁.grown (.strings [])
  have there : (m.grown (.strings [])).object m.next = .listing [] := object_next _ m
  obtain ⟨p, get_push, push_kind⟩ := get_push h₂ there h₁.next_ne (Nat.zero_le _)
  obtain ⟨f, w, en, c, converts, string_kind⟩ := h₂.converts
  have read : (above e).readName .global stringName (m.grown (.strings [])) =
      .value (.object f) (m.grown (.strings [])) := readName_global h₂.scope converts
  have convert : (above e).call (.object f) .undefined [.string u] (m.grown (.strings [])) =
      .value (.string u) (m.grown (.strings [])) := callValue_native string_kind _ _
  have noItem : e.Lacks (m.grown (.strings [])) (.index 0) .arrayParent :=
    .above h₂.noItem.1 h₂.arrays (.root h₂.noItem.2 h₂.objects)
  have put : (above e).call (.object p) (.object m.next) [.string u] (m.grown (.strings [])) =
      .value (.number (Number.ofNat 1)) (m.grown (.strings [u])) := by
    rw [← updated_next (.strings []) (fun _ => .strings [u])]
    exact (callValue_native push_kind _ _).trans
      (push_listing h₁.next_ne there (by decide) (by simp [Machine.next]) noItem (.string u))
  simp only [collect, Run.bind_apply, Run.discard_apply, Run.pure_apply, get_push, read, convert, put,
    Result.follow_value]

/-! ## Crossing over -/

/-- A list of strings crosses as the list of their texts. -/
theorem jsonTree_strings (h : Intact e m) (there : m.object list = .strings ss) (other : list ≠ .global)
    (room : ss.length ≤ Key.indexLimit) : (above e).jsonTree {} [] .undefined (.name []) (.object list) m =
      .value (some (.array (ss.map .string))) m := by
  have limit : Key.indexLimit = 4294967295 := rfl
  have room' : (ss.map Value.string).length ≤ Key.indexLimit := by simpa using room
  have own : e.own? m list "toJSON" = none := by
    rw [own?_of_ne other, there]
    exact Obj.own?_listing_name room' (by decide +kernel)
  have unruled : (above e).unruled m list = true := unruled_of_lacks (.above own (by rw [there]; rfl)
    (.above h.noRule.1 h.arrays (.root h.noRule.2 h.objects)))
  have primitive : ∀ v ∈ ss.map Value.string, v.ref? = none := by simp [Value.ref?]
  have items : ∀ i v, (ss.map Value.string)[i]? = some v →
      (Obj.strings ss).own? (.ofNat i) = some (.plain v) := by
    intro i v at_i
    have inside : i < Key.indexLimit := by
      have := (List.getElem?_eq_some_iff.mp at_i).1
      omega
    rw [Key.ofNat_eq inside, Obj.strings, Obj.own?_listing room' inside, at_i]
    rfl
  have tree := jsonTree_list other there unruled primitive items
    (toLength_ofNat (e := above e) (m := m) (by omega : (ss.map Value.string).length < 2 ^ 53))
  rw [tree, List.map_map]
  rfl

/-- A list of strings as data. -/
def crossing (ss : List Utf16) : Datum := .list (ss.map fun s => .text (Utf16.toText s))

theorem toData_strings : ∀ ss : List Utf16,
    Json.toData (ss.map .string) = ss.map fun s => .text (Utf16.toText s)
  | [] => rfl
  | s :: ss => by rw [List.map_cons, Json.toData, toData_strings ss]; rfl

/-! ## Answers -/

/-- The object of a reply. -/
def replied : Reply → Run Value
  | .failed message => Run.throwNew .internalError message
  | .refused message => replyObject [("error", .string (Text.toUtf16 message))]
  | .nothing => replyObject []
  | .value d => do
    let v ← Value.ofDatum d
    replyObject [("value", v)]

/-- What a call does with the object of the reply. -/
def looked (e : Engine) (reply : Value) : Run Value := do
  let err ← e.get reply "error"
  if err.isUndefined then e.get reply "value"
  else
    let f ← e.readName .global errorName
    let message ← e.get reply "error"
    Run.throwValue (← e.construct f [message])

/-- How a call goes on from the reply. -/
def giveBack (e : Engine) (r : Reply) : Run Value := replied r >>= e.looked

/-- A call that has gathered its arguments asks once, and goes on from the reply. -/
theorem asked (h : Intact (above e) m) (there : m.object list = .strings ss) (other : list ≠ .global)
    (room : ss.length ≤ Key.indexLimit) (name : Text) :
    ((above (above e)).ask name list >>= (above (above e)).looked) m =
      .ask (.call name (crossing ss)) fun r => (above (above e)).giveBack r m := by
  have tree : (above (above e)).json {} [] .undefined (.name []) (.object list) m =
      .value (some (.array (ss.map .string))) m := jsonTree_strings (h.of_bindings rfl) there other room
  have datum : ((some (Json.array (ss.map .string))).map Json.toDatum).getD .nothing = crossing ss := by
    rw [Option.map_some, Option.getD_some, Json.toDatum, toData_strings]
    rfl
  rw [Run.bind_apply, ask, Run.bind_apply, tree, Result.follow_value, datum, Run.bind_apply, Run.ask_apply]
  rw [Result.follow_ask, Result.follow_ask]
  refine congrArg (Result.ask _) (funext fun r => ?_)
  rw [Result.follow_value, giveBack, Run.bind_apply]
  cases r <;> rfl

theorem forM_put : ∀ (entries : List (Key × Value)) (o : Obj) (m : Machine),
    (entries.forM fun (k, v) => Run.update m.next (Obj.put k (.plain v))) (m.grown o) =
      .value ⟨⟩ (m.grown (entries.foldl (fun o (k, v) => o.put k (.plain v)) o))
  | [], _, _ => rfl
  | (k, v) :: rest, o, m => by
    have first : Run.update m.next (Obj.put k (.plain v)) (m.grown o) = .value () (m.grown (o.put k (.plain v))) :=
      update_next o _ m
    rw [List.forM, Run.bind_apply]
    dsimp only
    rw [first]
    exact forM_put rest _ m

theorem replyObject_apply (entries : List (Key × Value)) (m : Machine) :
    replyObject entries m = .value (.object m.next) (m.grown (.record entries)) := by
  have plain : Run.allocPlain m = .value m.next (m.grown { parent := some .objectParent }) := rfl
  rw [replyObject, Run.bind_apply, plain, Result.follow_value, Run.bind_apply, forM_put]
  rfl

/-- An object that has the property gives it. -/
theorem get_record (h : Intact e m) {o : Obj} {k : Key} {v : Value} (own : o.own? k = some (.plain v)) :
    e.get (.object m.next) k (m.grown o) = .value v (m.grown o) :=
  get_of_find (find?_of_own ((h.own_next _ _).trans own))

/-- An object that lacks the property gives nothing, if objects inherit none. -/
theorem get_record_none (h : Intact e m) {o : Obj} {k : Key} (own : o.own? k = none)
    (parent : o.parent = some .objectParent) (inherited : e.own? m .objectParent k = none) :
    e.get (.object m.next) k (m.grown o) = .value .undefined (m.grown o) := by
  refine get_of_lacks (.above ((h.own_next _ _).trans own) (by rw [object_next, parent]) (.root ?_ ?_))
  · rw [own?_grown o h.objectParent_lt, inherited]
  · rw [object_grown o h.objectParent_lt, h.objects]

/-- A datum comes back as its value. -/
theorem giveBack_value (h : Intact e m) {d : Datum} {v : Value} {n : Machine}
    (made : Value.ofDatum d m = .value v n) (extended : m.Extends n) :
    e.giveBack (.value d) m = .value v (n.grown (.record [("value", v)])) := by
  have h' := h.carried extended
  have error := get_record_none h' (o := .record [("value", v)]) (k := "error") rfl rfl h'.noError
  have value := get_record h' (o := .record [("value", v)]) (k := "value") (v := v) rfl
  simp only [giveBack, replied, looked, Run.bind_apply, made, replyObject_apply, error, Result.follow_value]
  exact value

/-- On an intact machine a call hands its string over as it is, and gives back a text as it is. -/
theorem callHost_string (h : Intact e m) (name : Text) (u : Utf16) :
    ∃ next, (above (above e)).callHost name [.string u] m =
        .ask (.call name (.list [.text (Utf16.toText u)])) next ∧
      ∀ t, ∃ n, next (.value (.text t)) = .value (.string (Text.toUtf16 t)) n ∧ m.Extends n := by
  have h₁ : Intact (above e) m := h.of_bindings rfl
  have list : Run.allocArray [] m = .value m.next (m.grown (.strings [])) := rfl
  have collected : (above (above e)).collect m.next [.string u] (m.grown (.strings [])) =
      .value () (m.grown (.strings [u])) := collect_string h₁ u
  have extended : m.Extends (m.grown (.strings [u])) := extends_grown _ m
  refine ⟨fun r => (above (above e)).giveBack r (m.grown (.strings [u])), ?_, fun t => ?_⟩
  · rw [callHost, Run.bind_apply, list, Result.follow_value, Run.bind_apply, collected]
    exact asked (h₁.grown _) (object_next _ m) h₁.next_ne (by show 1 ≤ _; decide) name
  · have h₂ : Intact (above (above e)) (m.grown (.strings [u])) :=
      (h.of_bindings (d := above (above e)) rfl).carried extended
    exact ⟨_, giveBack_value h₂ rfl (.refl _), extended.trans (extends_grown _ _)⟩

end Engine

end ScriptHost.Script
