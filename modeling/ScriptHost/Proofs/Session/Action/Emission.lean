/-
Actions: what a body that emits trees comes to. Each call on the function that it is given adds the value of a tree to
a list and touches nothing else, so in the end the list spells the trees in their order, and the bindings what they
spelled.
-/
import ScriptHost.Proofs.Session.Action.Call
import ScriptHost.Proofs.Session.Action.Emitting

namespace ScriptHost.Session.Action

open Isolate.Engine (bare)
open Script (Binding Code Engine Json Key Machine Obj Ref Scope ScopeRef SpellItems Spells Value)
open Script.Engine
open Script.Machine

/-! ## What a body finds -/

namespace Finds

variable {b : List (Key × Ref)} {given list out : Ref} {v : Value} {vs : List Value} {m n : Machine}

theorem list_lt (h : Finds b given list out v vs m) : list.index < m.heap.size := lt_of_parent (by rw [h.lists]; rfl)

theorem carried (h : Finds b given list out v vs m) (extended : m.Extends n) : Finds b given list out v vs n where
  toVars := h.toVars.carried extended
  lists := (extended.object h.list_lt).trans h.lists
  holds := (extended.object (lt_of_parent (q := .objectParent) (by rw [h.holds]; rfl))).trans h.holds
  emits := by
    rw [extended.object (lt_of_kind (by rw [h.emits]; nofun))]
    exact h.emits
  beyond := h.beyond
  still := by
    obtain ⟨os, rfl⟩ := extended
    exact h.still

theorem opened (h : Finds b given list out v vs m) (s : Scope) : Finds b given list out v vs (m.opened s) :=
  ⟨⟨h.toStage.opened s, h.emitting, h.env, h.bs⟩, h.lists, h.holds, h.emits, h.beyond, h.still⟩

/-- The list takes other values. -/
theorem listed (h : Finds b given list out v vs m) (room : vs.length ≤ Key.indexLimit) (us : List Value) :
    Finds b given list out v us (m.updated list fun _ => .listing us) := by
  have other : ∀ {r : Ref}, (m.object r).kind ≠ (m.object list).kind →
    (m.updated list fun _ => .listing us).object r = m.object r :=
    fun apart => updated_object_of_ne _ fun same => apart (by rw [same])
  have own : ∀ k, (Engine.bottom b).own?
    (m.updated list fun _ => .listing us) .global k = (Engine.bottom b).own? m .global k := fun k =>
    own?_congr (congrArg (Obj.own? · k) (updated_object_of_ne _ h.beyond.1.symm))
  refine ⟨⟨h.toStage.listed h.lists h.beyond.1 room us, (own _).trans h.emitting, (own _).trans h.env,
    (own _).trans h.bs⟩, updated_object _ h.list_lt, ?_, ?_, h.beyond, h.still⟩
  · rw [other (by rw [h.holds, h.lists]; nofun), h.holds]
  · rw [other (by rw [h.emits, h.lists]; nofun), h.emits]

end Finds

/-! ## Emitting -/

section Emitting

variable {σ : Type} {b : List (Key × Ref)} {host : Script.Host σ} {k : Nat} {w : σ} {m n : Machine}
  {given list out : Ref} {v : Value} {vs : List Value}

/-- The machine on which a value has been emitted. -/
def emitted (list : Ref) (vs : List Value) (x : Value) (m : Machine) : Machine :=
  (m.opened (.names (outCode.bindings [x]) .global)).updated list fun _ => .listing (vs ++ [x])

/-- A call on the function adds a value to the list. -/
theorem call_out (h : Finds b given list out v vs m) (room : vs.length < Key.indexLimit) (x : Value) :
    Comes b host (k + 5) (·.call (.object out) (.object given) [x]) m w
      (some (.ok .undefined), emitted list vs x m, w) := by
  have simple : outCode.Simple := ⟨rfl, rfl, rfl, rfl⟩
  refine call_member h.emits simple ?_
  let m₁ := m.opened (.names (outCode.bindings [x]) .global)
  have h₁ : Finds b given list out v vs m₁ := h.opened _
  have sees : Sees m₁.scopes m.nextScope m.nextScope (outCode.bindings [x]) := sees_body h.outermost _
  obtain ⟨p, wr, en, c, held, kind⟩ := h₁.pushes
  have found : ∀ e : Engine, e.bindings = b →
    e.get (.object list) (.ofUnits (Utf16.ofString "push")) m₁ = .value (.object p) m₁ := by
    intro e bindings
    have own : e.own? m₁ list "push" = none := by
      rw [own?_of_ne h₁.beyond.1, h₁.lists]
      exact Obj.own?_listing_name (Nat.le_of_lt room) (by decide +kernel)
    have held' := congrFun (own?_of_bindings (e := .bottom b) bindings) m₁ ▸ held
    exact get_of_find (find?_of_parent own (by rw [h₁.lists]; rfl) held')
  have receiver : Comes b host (k + 2) (·.eval (memberFrame given m.nextScope) (.name emittingName)) m₁ w
    (some (.ok (.object list)), m₁, w) :=
    eval_global sees (by decide) rfl h₁.emitting
  have argument : Comes b host (k + 2) (·.evalAll (memberFrame given m.nextScope) [.name itemName]) m₁ w
    (some (.ok [x]), m₁, w) :=
    evalAll_cons (eval_own sees (by decide) rfl) evalAll_nil
  have pushed : Comes b host (k + 2) (·.call (.object p) (.object list) [x]) m₁ w
      (some (.ok (.number (Script.Number.ofNat (vs.length + 1)))), emitted list vs x m, w) := by
    refine comes_native kind (.of_value fun e bindings => ?_)
    have stage : Stage e m₁ := h₁.toStage.of_bindings bindings
    have noItem : e.Lacks m₁ (.index vs.length) .arrayParent :=
      .above (stage.noItems _).1 stage.arrays (.root (stage.noItems _).2 stage.objects)
    exact push_listing h₁.beyond.1 h₁.lists room h₁.list_lt noItem x
  exact execAll_cons (exec_expression rfl (eval_callMember receiver found argument pushed)) (.of_value fun _ _ => rfl)

/-- The name of what a body is given stands for an object. -/
def givenBindings (given : Ref) : List Binding := (emittingCode []).bindings [.object given]

/-- A tree is emitted. -/
theorem exec_emit {r : ScopeRef} (sees : Sees m.scopes r r (givenBindings given)) (h : Finds b given list out v vs m)
    (room : vs.length < Key.indexLimit) {s : Utf16} {j : Json} {x : Value}
    (spelled : Json.read (Utf16.toText s) = .ok j)
    (made : j.toValue m = .value x n) (extended : m.Extends n) :
    Comes b host (k + 7) (·.exec (bodyFrame r) (.expression (emitExpr s))) m w
        (some (.ok .normal), emitted list vs x n, w) := by
  have receiver : Comes b host (k + 5) (·.eval (bodyFrame r) (.name givenName)) m w
    (some (.ok (.object given)), m, w) :=
    eval_own sees (by decide) rfl
  have found : ∀ e : Engine, e.bindings = b →
    e.get (.object given) (.ofUnits (Utf16.ofString "out")) m = .value (.object out) m := by
    intro e _
    have own : e.own? m given (.ofUnits (Utf16.ofString "out")) = some (.plain (.object out)) := by
      rw [own?_of_ne h.beyond.2, h.holds]
      rfl
    exact get_of_find (find?_of_own own)
  have argument : Comes b host (k + 5)
    (·.evalAll (bodyFrame r) [libraryCall "JSON" "parse" [.constant (.string s)]]) m w (some (.ok [x]), n, w) :=
    evalAll_cons (eval_libraryCall (k := k + 3) sees rfl h.library (fun _ library => library.reads)
      (evalAll_cons (eval_constant _ _ _) evalAll_nil) fun f this kind => call_parse kind spelled made this) evalAll_nil
  exact exec_expression rfl (eval_callMember receiver found argument (call_out (h.carried extended) room x))

/-- The bindings are returned. -/
theorem exec_bound {r : ScopeRef} (sees : Sees m.scopes r r (givenBindings given)) (h : Finds b given list out v vs m) :
    Comes b host (k + 3) (·.exec (bodyFrame r) (.return (some boundExpr))) m w (some (.ok (.return v)), m, w) := by
  have found : ∀ e : Engine, e.bindings = b →
    e.get (.object given) (.ofUnits (Utf16.ofString "bindings")) m = .value v m := by
    intro e _
    have own : e.own? m given (.ofUnits (Utf16.ofString "bindings")) = some (.plain v) := by
      rw [own?_of_ne h.beyond.2, h.holds]
      rfl
    exact get_of_find (find?_of_own own)
  exact exec_return (eval_member (eval_own (x := givenName) sees (by decide) rfl) found)

end Emitting

/-! ## The whole body -/

/-- A machine inside of a body that was given bindings which spell a tree, and has emitted values that spell these. -/
structure Emits (b : List (Key × Ref)) (j : Json) (given list out : Ref) (v : Value) (r : ScopeRef) (js : List Json)
    (m : Machine) :
    Prop where
  finds : ∃ vs, Finds b given list out v vs m ∧ SpellItems m [list] vs js
  bindings : Spells m [list] v j
  sees : Sees m.scopes r r (givenBindings given)

section Body

variable {b : List (Key × Ref)} {j : Json} {given list out : Ref} {v : Value} {r : ScopeRef} {m : Machine}

/-- A tree is emitted behind the others. -/
theorem Emits.next {js : List Json} (h : Emits b j given list out v r js m) (room : js.length < Key.indexLimit)
    {i : Json} (tidy : i.Tidy) :
    ∃ n, Emits b j given list out v r (js ++ [i.settled]) n ∧ ∀ {σ : Type} (host : Script.Host σ) (w : σ) (k : Nat),
      Comes b host (k + 7) (·.exec (bodyFrame r) (.expression (emitExpr (i.write [] [])))) m w
        (some (.ok .normal), n, w) := by
  obtain ⟨vs, finds, items⟩ := h.finds
  obtain ⟨x, l, made, extended, spells⟩ := i.settled.toValue_spells m (Nat.lt_of_le_of_lt (Nat.zero_le _) finds.list_lt)
    (Json.tidy_settled tidy)
  have few : vs.length < Key.indexLimit := items.length.symm ▸ room
  -- all objects but the list are what they were
  have within : m.Within (l.opened (.names (outCode.bindings [x]) .global)) := extended.within
  have same : ∀ q ≠ Ref.global, q ∉ [list] →
    (emitted list vs x l).object q = (l.opened (.names (outCode.bindings [x]) .global)).object q :=
    fun q _ other => updated_object_of_ne _ fun eq => other (List.mem_singleton.mpr eq)
  have bindings : Spells _ ([list] ++ []) v j := h.bindings.kept (by simp) within
  have before : SpellItems _ ([list] ++ []) vs js := items.kept (by simp) within
  have last : Spells (emitted list vs x l) [list] x i.settled := by
    refine spells _ _ (fun q new _ => updated_object_of_ne _ ?_) fun q among =>
      .inl (List.mem_singleton.mp among ▸ finds.list_lt)
    rintro rfl
    exact Nat.not_lt_of_le new finds.list_lt
  refine ⟨emitted list vs x l, ⟨⟨vs ++ [x], ((finds.carried extended).opened _).listed (Nat.le_of_lt few) _,
    (before.elsewhere same (List.Subset.refl _)).concat last⟩, bindings.elsewhere same (List.Subset.refl _), ?_⟩,
    fun host w k =>
      exec_emit h.sees finds few (Json.read_write i) made extended⟩
  exact Sees.opened (m := l) (by rw [extended.scopes]; exact h.sees) _

/-- The trees are emitted in their order, and the bindings returned. -/
theorem Emits.run : ∀ (is : List Json) {js : List Json} {m : Machine}, Emits b j given list out v r js m →
    Json.TidyItems is →
    js.length + is.length ≤ Key.indexLimit → ∃ n, Emits b j given list out v r (js ++ Json.settledItems is) n ∧
      ∀ {σ : Type} (host : Script.Host σ) (w : σ) (k : Nat),
        Comes b host (k + 7) (·.execAll (bodyFrame r) (emittingStatements is)) m w (some (.ok (.return v)), n, w)
  | [], js, m, h, _, _ => by
    obtain ⟨vs, finds, -⟩ := h.finds
    exact ⟨m, (List.append_nil js).symm ▸ h, fun host w k => execAll_return (exec_bound (k := k + 4) h.sees finds)⟩
  | i :: is, js, m, h, ⟨tidy, others⟩, few => by
    rw [List.length_cons] at few
    obtain ⟨l, after, first⟩ := h.next (by omega) tidy
    obtain ⟨n, ended, rest⟩ := after.run is others (by rw [List.length_append, List.length_singleton]; omega)
    rw [List.append_assoc] at ended
    exact ⟨n, ended, fun host w k => execAll_cons (first host w k) (rest host w k)⟩

/-- A call on the body. -/
theorem Poised.emits {ms : List Json} {f : Ref} {l : Machine} (poised : Poised b j (emittingCode ms) f given l)
    (tidy : j.Tidy)
    (shown : j.Open) (messages : Json.TidyItems ms) (few : ms.length ≤ Key.indexLimit) : ∃ list out v n,
      Emits b j given list out v l.nextScope (Json.settledItems ms) n ∧
      ∀ {σ : Type} (host : Script.Host σ) (w : σ),
        Comes b host 8 (·.call (.object f) .undefined [.object given]) l w (some (.ok v), n, w) := by
  obtain ⟨list, out, v, finds, spells⟩ := poised.finds
  have within : l.Within (l.opened (.names (givenBindings given) .global)) := fun _ _ => rfl
  have bindings : Spells _ ([list] ++ []) v j := (spells tidy shown).kept (by simp) within
  have begun : Emits b j given list out v l.nextScope [] (l.opened (.names (givenBindings given) .global)) :=
    ⟨⟨[], finds.opened _, .nil⟩, bindings, sees_body finds.outermost _⟩
  obtain ⟨n, ended, ran⟩ := begun.run ms messages (by simpa using few)
  exact ⟨list, out, v, n, ended, fun host w => call_closure poised.function ⟨rfl, rfl, rfl, rfl⟩ (ran host w 0)⟩

end Body

/-- What is emitted and what is returned make a reply. -/
theorem Emits.returned {j : Json} {given list out : Ref} {v : Value} {r : ScopeRef} {js : List Json} {n : Machine}
    (h : Emits bare.bindings j given list out v r js n) (few : js.length ≤ Key.indexLimit)
    (shallow : (reply j js).height + 5 ≤ depthLimit) (S : Senses) : Returned S j js v n := by
  obtain ⟨vs, finds, items⟩ := h.finds
  have same : ∀ q ≠ Ref.global, q ∉ [list] → n.object q = n.object q := fun _ _ _ => rfl
  have gathered : Spells n [] (.object list) (.array js) := .list (by simp) finds.beyond.1 finds.lists
    (items.length.symm ▸ few) items
  refine ⟨h.bindings.elsewhere same (List.nil_subset _), shallow, .object list, .object given, .undefined,
    finds.toVars, gathered, Sandbox.stands_of_still finds.still.1 finds.still.2 ?_⟩
  have stage := ((finds.toVars.setBs (v := v)).toStage.grown (replyObject v (.object list))).grown
    (holding (.object (assigned (.ofUnits bsName) v n).next))
  have intact : Script.Intact (Engine.bottom bare.bindings)
    { concluded v (.object list) n with result := .undefined } :=
    stage.toIntact.within (fun _ _ => rfl) stage.scope
  exact intact.of_bindings (ofDepth_bindings bare.bindings _)

end ScriptHost.Session.Action
