/-
Calls on functions that every script finds, and on functions of the host, by programs that hand over
primitive values and values that spell trees.
-/
import ScriptHost.Proofs.Script.Names
import ScriptHost.Proofs.Script.Written

namespace ScriptHost.Script.Engine

open Machine

variable {σ : Type} {b : List (Key × Ref)} {host : Host σ} {k : Nat} {m n : Machine} {w u : σ}
  {f : Ref}

theorem comes_native {f : Ref} {native : Native} (kind : (m.object f).kind = .native native) {this : Value}
    {args : List Value} {out : Option (Except Value Value) × Machine × σ}
    (h : Comes b host k (·.callNative native this args) m w out) :
    Comes b host (k + 1) (·.call (.object f) this args) m w out := by
  refine comes_call fun d hd => ?_
  show ((ofDepth b d).callValue (.object f) this args m).ended host w = out
  rw [callValue_native kind]
  exact h d hd

/-- A string is its own string. -/
theorem call_string (kind : (m.object f).kind = .native .string) (this : Value) (s : Utf16) :
    Comes b host (k + 1) (·.call (.object f) this [.string s]) m w (some (.ok (.string s)), m, w) :=
  comes_native kind (.of_value fun _ _ => rfl)

/-! ## Trees and texts -/

/-- The object that a value stands in while it is written out. -/
def holding (v : Value) : Obj := .record [(.name [], v)]

/-- What spells a tree is made the text of the tree. -/
theorem call_stringify (kind : (m.object f).kind = .native .stringify) (intact : Intact (bottom b) m) {v : Value}
    {j : Json} (spells : Spells m [] v j) (levels : j.height ≤ k) (this : Value) :
    Comes b host (k + 2) (·.call (.object f) this [v]) m w
      (some (.ok (.string (j.write [] []))), m.grown (holding v), w) := by
  refine comes_native kind fun d hd => ?_
  obtain ⟨d, rfl⟩ : ∃ c, d = c + 1 := ⟨d - 1, by omega⟩
  have spells' : Spells (m.grown (holding v)) ([] ++ []) v j :=
    spells.kept (by simp) (extends_grown _ m).within
  have tree : (ofDepth b (d + 1)).json {} [] (.object m.next) (.name []) v (m.grown (holding v)) =
      .value (some j) (m.grown (holding v)) := jsonTree_spells (intact.grown _) spells' (by omega) _ _
  have plain : Run.allocPlain m = .value m.next (m.grown (.record [])) := rfl
  have held : Run.update m.next (Obj.put (.name []) (.plain v)) (m.grown (.record [])) =
      .value () (m.grown (holding v)) := update_next _ _ m
  have written : (ofDepth b (d + 1)).stringify [v] m = .value (.string (j.write [] [])) (m.grown (holding v)) := by
    have rule : ruleOf (ofDepth b (d + 1)) (arg [v] 1) m = .value {} m := rfl
    have first : arg [v] 0 = v := rfl
    rw [stringify, Run.bind_apply, rule, Result.follow_value]
    simp only [first, Run.bind_apply, plain, held, tree, Result.follow_value]
    rfl
  show ((ofDepth b (d + 1)).stringify [v] m).ended host w = _
  rw [written]
  rfl

/-- A text that spells a tree is made the value of the tree. -/
theorem call_parse (kind : (m.object f).kind = .native .parse) {s : Utf16} {j : Json} {v : Value}
    (spelled : Json.read (Utf16.toText s) = .ok j) (made : j.toValue m = .value v n) (this : Value) :
    Comes b host (k + 1) (·.call (.object f) this [.string s]) m w (some (.ok v), n, w) := by
  refine comes_native kind (.of_value fun e _ => ?_)
  have units : e.toUnits (arg [.string s] 0) m = .value s m := rfl
  show e.parseJson [.string s] m = _
  rw [parseJson, Run.bind_apply, units, Result.follow_value, spelled]
  dsimp only
  rw [Run.bind_apply, made]
  rfl

/-- A text that spells none is refused. -/
theorem call_parse_error (kind : (m.object f).kind = .native .parse) {s : Utf16} {complaint : Text}
    (refused : Json.read (Utf16.toText s) = .error complaint) (this : Value) :
    Comes b host (k + 1) (·.call (.object f) this [.string s]) m w
      (some (.error (.object m.next)), m.grown (.failure .syntaxError complaint), w) := by
  refine comes_native kind fun d _ => ?_
  have thrown : (ofDepth b d).parseJson [.string s] m =
      .thrown (.object m.next) (m.grown (.failure .syntaxError complaint)) := by
    have units : (ofDepth b d).toUnits (arg [.string s] 0) m = .value s m := rfl
    rw [parseJson, Run.bind_apply, units, Result.follow_value, refused]
    rfl
  show ((ofDepth b d).parseJson [.string s] m).ended host w = _
  rw [thrown]
  rfl

/-! ## Functions of the host -/

section Host

variable {name : Text} {args : List Value} (kind : (m.object f).kind = .host name)
  (pristine : Pristine (bottom b) m args.length) (limit : args.length ≤ Key.indexLimit)
  (primitive : ∀ v ∈ args, v.ref? = none) {r : Reply}
  (answered : host (.call name (crossing (args.map Value.primitiveUnits))) w = (r, u))
include kind pristine limit primitive answered

theorem call_host {v : Value}
    (back : ∀ e : Engine, e.bindings = b →
      e.giveBack r (m.grown (.strings (args.map Value.primitiveUnits))) = .value v n) (this : Value) :
    Comes b host (k + 3) (·.call (.object f) this args) m w (some (.ok v), n, u) := by
  refine comes_call fun d hd => ?_
  obtain ⟨d, rfl⟩ : ∃ c, d = c + 2 := ⟨d - 2, by omega⟩
  have pristine' : Pristine (above (ofDepth b d)) m args.length :=
    pristine.of_bindings (ofDepth_bindings b (d + 1))
  show ((ofDepth b (d + 2)).callValue (.object f) this args m).ended host w = _
  rw [callValue_host kind]
  refine (ended_callHost_primitive (ofDepth_ages b d) limit pristine' primitive name).trans ?_
  rw [answered]
  show ((ofDepth b (d + 2)).giveBack r _).ended host u = _
  rw [back _ (ofDepth_bindings b (d + 2))]
  rfl

/-- The object of an answer that is a text. -/
def textReply (t : Text) : Obj := .record [("value", .string (Text.toUtf16 t))]

omit answered in
theorem call_host_text {t : Text}
    (answered : host (.call name (crossing (args.map Value.primitiveUnits))) w = (.value (.text t), u)) (this : Value) :
    Comes b host (k + 3) (·.call (.object f) this args) m w (some (.ok (.string (Text.toUtf16 t))),
      (m.grown (.strings (args.map Value.primitiveUnits))).grown (textReply t), u) := by
  refine call_host kind pristine limit primitive answered (fun e bindings => ?_) this
  exact giveBack_value ((pristine.toIntact.grown _).of_bindings bindings) rfl (.refl _)

omit answered in
theorem call_host_nothing (answered : host (.call name (crossing (args.map Value.primitiveUnits))) w = (.nothing, u))
    (this : Value) : Comes b host (k + 3) (·.call (.object f) this args) m w (some (.ok .undefined),
      (m.grown (.strings (args.map Value.primitiveUnits))).grown (.record []), u) := by
  refine call_host kind pristine limit primitive answered (fun e bindings => ?_) this
  exact giveBack_nothing ((pristine.carried (extends_grown _ m)).of_bindings bindings)

end Host

end ScriptHost.Script.Engine
