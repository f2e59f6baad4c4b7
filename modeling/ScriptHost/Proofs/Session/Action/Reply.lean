/-
Actions: what calls on the function come to after the bundled bootstrap, from what the body comes to in its sandbox. A
body that returns is replied for, with what it returned and emitted; for a body that throws an error is told, unless the
string of what it threw spells a tree: that tree is returned then.
-/
import ScriptHost.Proofs.Session.Action.Emission
import ScriptHost.Proofs.Session.Load.Agreement

namespace ScriptHost.Session.Action

open Isolate.Engine (factory)
open Load (booted booting)
open Isolate.Engine (bare nobody)
open Script (Code Engine Expr Json Key Machine Obj Ref Shows Spells Value)
open Script.Engine (Comes depthLimit)

/-! ## The function that is there -/

/-- A function is the one that evaluates actions. -/
def EvaluatesActions (m : Machine) (f : Ref) : Prop := ∃ code, (m.object f).kind = .closure code .global ∧
    isAction code = true

instance (s : Script.ScopeRef) : Decidable (s = .global) :=
  decidable_of_iff (s.index = 0) ⟨fun h => by cases s; exact congrArg _ h, fun h => by rw [h]; rfl⟩

instance (m : Machine) : DecidablePred (EvaluatesActions m) := fun f =>
  match kind : (m.object f).kind with
  | .closure code scope =>
    decidable_of_iff (scope = .global ∧ isAction code = true)
      ⟨fun ⟨same, action⟩ => ⟨code, by rw [kind, same], action⟩, fun ⟨_, same, action⟩ => by
        rw [kind] at same
        cases same
        exact ⟨rfl, action⟩⟩
  | .plain | .native _ | .array .. | .host _ | .settler .. | .latch _ | .boxed _ | .error
  | .arguments | .library _ | .promise _ | .date _ => isFalse fun ⟨_, same, _⟩ => by rw [kind] at same; cases same

/-- The name that the function has. -/
def actionName : Key := "sandboxedAction"

/-- A machine on which the function is there, and finds what it looks up. -/
structure Offers (b : List (Key × Ref)) (m : Machine) : Prop extends Equipped (.bottom b) m where
  offered : Leads (EvaluatesActions m) ((Engine.bottom b).own? m .global actionName)

instance (b : List (Key × Ref)) (m : Machine) : Decidable (Offers b m) :=
  decidable_of_iff (Equipped (.bottom b) m ∧ Leads (EvaluatesActions m) ((Engine.bottom b).own? m .global actionName))
    ⟨fun ⟨a, b⟩ => ⟨a, b⟩, fun ⟨a, b⟩ => ⟨a, b⟩⟩

theorem Offers.carried {b : List (Key × Ref)} {m n : Machine} (h : Offers b m) (extended : m.Extends n) :
    Offers b n := by
  refine ⟨h.toEquipped.carried extended, ?_⟩
  rw [Engine.own?_within extended.within h.global_lt]
  refine h.offered.imp fun f ⟨code, kind, action⟩ => ⟨code, ?_, action⟩
  rw [extended.within f (Machine.lt_of_kind (by simp [kind]))]
  exact kind

/-- Whether a bootstrap leaves the function. -/
def offers : Script.Result Script.Outcome → Bool
  | .value _ m => decide (Offers begun.bindings m)
  | _ => false

theorem booting_offers : offers booting = true := by decide +kernel

theorem offers_of_offers {r : Script.Result Script.Outcome} (h : offers r = true) :
    Offers (Load.bootedOf begun r).bindings (Load.bootedOf begun r).machine := by
  cases r with
  | value o m => exact of_decide_eq_true h
  | _ => cases h

theorem booted_offers : Offers booted.bindings booted.machine := by
  unfold booted
  exact offers_of_offers booting_offers

/-! ## What calls on it come to -/

/-- A tree is returned as new objects, and all that was there is left as it was. -/
structure Gives (m : Machine) (j : Json) (v : Value) (n : Machine) : Prop where
  shows : Shows m.heap.size n j v
  kept : m.Within n

/-- A line is printed for an error, which is returned with the bindings and added to them; all else is left as it was.
-/
def TellsError (m : Machine) (q : Ref) (s : Utf16) (w : World) (v : Value) (n : Machine) (u : World) : Prop :=
  ∃ r : Ref, v = .object r ∧ m.heap.size ≤ r.index ∧ n.object r = .record [("bs", .object q), ("error", .string s)] ∧
    w.Served [.called "print" ((line s).map Utf16.toText), .returned "print"] u ∧
    n.object q = (m.object q).put "error" (.plain (.string s)) ∧
    ∀ p : Ref, p.index < m.heap.size → p ≠ q → n.object p = m.object p

section Told

variable {m n : Machine} {q : Ref} {s : Utf16} {w u : World} {v : Value} (told : Told m q s w v n u)
include told

theorem Told.of_read {j : Json} (spelled : Json.read (Utf16.toText s) = .ok j) : u = w ∧ Gives m j v n := by
  cases told with
  | reply spelled' shows kept =>
    rw [spelled] at spelled'
    cases spelled'
    exact ⟨rfl, shows, kept⟩
  | error refused =>
    rw [spelled] at refused
    cases refused

theorem Told.of_refused {complaint : Text} (refused : Json.read (Utf16.toText s) = .error complaint) :
    TellsError m q s w v n u := by
  cases told with
  | reply spelled =>
    rw [refused] at spelled
    cases spelled
  | error _ printed new result set kept => exact ⟨_, rfl, new, result, printed, set, kept⟩

end Told

/-- A call on the function tells what the body of the action came to in its sandbox. -/
theorem action_ends (S : Senses) (settings : Settings) (w : World) {m : Machine}
    (extended : booted.machine.Extends m) {q : Ref}
    {es : List (Utf16 × Json)} (spells : Spells m [] (.object q) (.object es))
    (shallow : (Json.object es).height + 6 ≤ depthLimit)
    {src : Utf16} {code : Code} (reads : Reads src code) :
    ∃ action, Leads (· = action) ((Engine.bottom booted.bindings).own? m .global actionName) ∧
    ∃ f env l, Poised bare.bindings (Json.object es).settled code f env l ∧ ∀ {r : Except Value Value} {l' : Machine},
      (bodyEngine.call (.object f) .undefined [.object env] l).ended (nobody w.upcoming) () = (some r, l', ()) →
    ∃ u v n u', Called [sourceText (.object es) src] (sourceText (.object es) src) w u ∧
      Comes booted.bindings (host S settings) ((Json.object es).height + 14)
        (·.call (.object action) .undefined [.object q, .string src]) m w (some (.ok v), n, u') ∧
      (∀ x j ms, r = .ok x → Returned w.upcoming j ms x l' → Told m q ((reply j ms).write [] []) u v n u') ∧
      ∀ t s, r = .error t → Threw w.upcoming s t l' → Told m q s u v n u' := by
  have offers := booted_offers.carried extended
  obtain ⟨action, wr, en, c, held, function, kind, isAction⟩ := offers.offered
  obtain ⟨literal, written, parsed⟩ := ofSource_sourceText (.object es) reads
  obtain ⟨f, env, l, poised, ends⟩ := answer_acting parsed written shallow reads.ownName
  refine ⟨action, ⟨action, wr, en, c, held, rfl⟩, f, env, l, poised, fun {r l'} ended => ?_⟩
  obtain ⟨u, v, n, u', called, comes, told⟩ := action_told offers.toEquipped kind isAction spells src S settings w
  obtain ⟨returned, threw⟩ := ends ended
  have answered : ∀ t : Utf16, (Sandbox.evaluation w.upcoming (sourceText (.object es) src)).display = Utf16.toText t →
      answerText w.upcoming (.object es) src = t :=
        fun t display => (congrArg Text.toUtf16 display).trans (Text.toUtf16_toText t)
  exact ⟨u, v, n, u', called, comes, fun x j ms same ended => answered _ (returned x j ms same ended) ▸ told,
    fun t s same ended => answered _ (threw t s same ended) ▸ told⟩

/-- An isolate with bindings to hand over. -/
def handing : Machine := booted.machine.grown (.record [("a", .string (Utf16.ofString "b"))])

/-- The tree that these spell. -/
def handed : List (Utf16 × Json) := [(Key.units "a", .string (Utf16.ofString "b"))]

theorem spells_handed : Spells handing [] (.object booted.machine.next) (.object handed) := by
  have here : handing.object booted.machine.next = .record [("a", .string (Utf16.ofString "b"))] :=
    Script.Machine.object_next _ _
  refine .object (by simp) booted_offers.toIntact.next_ne (here ▸ Obj.record_plain _) ?_
  rw [here]
  exact .cons (by rw [here]; rfl) (.string _) .nil

/-- What a call on the function with bindings at `q` comes to follows from how the body ended in its sandbox, which is
shown `S`. -/
structure Concludes (S : Senses) (m : Machine) (q : Ref) (r : Except Value Value) (l : Machine) (w : World)
    (v : Value) (n : Machine)
    (u : World) : Prop where
  returned : ∀ x j ms, r = .ok x → Returned S j ms x l → u = w ∧ Gives m (reply j.settled (Json.settledItems ms)) v n
  threw : ∀ t s complaint, r = .error t → Threw S s t l → Json.read (Utf16.toText s) = .error complaint →
    TellsError m q s w v n u
  /-- The text of an error and that of a reply can not be told apart. -/
  mistaken : ∀ t s j, r = .error t → Threw S s t l → Json.read (Utf16.toText s) = .ok j → u = w ∧ Gives m j v n

/-- In a host isolate that has evaluated only the bundled bootstrap, the function is there under its name. Given
bindings that spell a tree, and a body that is read as a function, it evaluates a program around the body in a
sandbox, once, where the body is called on what it is to find. A body that returns what spells a tree is replied for
with that tree and those that it emitted. For a body that throws one line is printed, and the error is told and added
to the bindings; but if the string of what it threw spells a tree itself, that tree is returned, as if it were a
reply. -/
theorem action_concludes (S : Senses) (settings : Settings) (w : World) {m : Machine}
    (extended : booted.machine.Extends m) {q : Ref}
    {es : List (Utf16 × Json)} (spells : Spells m [] (.object q) (.object es))
    (shallow : (Json.object es).height + 6 ≤ depthLimit)
    {src : Utf16} {code : Code} (reads : Reads src code) :
    ∃ action, Leads (· = action) ((Engine.bottom booted.bindings).own? m .global actionName) ∧
    ∃ f env l, Poised bare.bindings (Json.object es).settled code f env l ∧ ∀ {r : Except Value Value} {l' : Machine},
      (bodyEngine.call (.object f) .undefined [.object env] l).ended (nobody w.upcoming) () = (some r, l', ()) →
    ∃ u v n u', Called [sourceText (.object es) src] (sourceText (.object es) src) w u ∧
      Comes booted.bindings (host S settings) ((Json.object es).height + 14)
        (·.call (.object action) .undefined [.object q, .string src]) m w (some (.ok v), n, u') ∧
      Concludes w.upcoming m q r l' u v n u' := by
  obtain ⟨action, held, f, env, l, poised, ends⟩ := action_ends S settings w extended spells shallow reads
  refine ⟨action, held, f, env, l, poised, fun {r l'} ended => ?_⟩
  obtain ⟨u, v, n, u', called, comes, returned, threw⟩ := ends ended
  refine ⟨u, v, n, u', called, comes, ?_, ?_, ?_⟩
  · exact fun x j ms same ended => (returned x j ms same ended).of_read (Json.read_write _)
  · exact fun t s complaint same ended refused => (threw t s same ended).of_refused refused
  · exact fun t s j same ended spelled => (threw t s same ended).of_read spelled

/-- A body that emits nothing and returns its bindings. -/
theorem action_concludes_silent : booted.machine.Extends handing ∧ Spells handing [] (.object booted.machine.next)
    (.object handed) ∧
    (Json.object handed).height + 6 ≤ depthLimit ∧ Reads (emittingSource []) (emittingCode []) ∧
    ∃ action, Leads (· = action) ((Engine.bottom booted.bindings).own? handing .global actionName) ∧
    ∃ u v n u', Comes booted.bindings (host {} {}) ((Json.object handed).height + 14)
        (·.call (.object action) .undefined [.object booted.machine.next, .string (emittingSource [])]) handing
        World.blank (some (.ok v), n, u') ∧ u' = u ∧ Gives handing (reply (.object handed) []) v n := by
  have extended : booted.machine.Extends handing := Script.Machine.extends_grown _ _
  refine ⟨extended, spells_handed, by decide, reads_emittingSource [], ?_⟩
  obtain ⟨action, held, f, env, l, poised, ends⟩ := action_concludes {} {} World.blank extended spells_handed
    (by decide) (reads_emittingSource [])
  obtain ⟨list, out, v, n, emits, ran⟩ := poised.emits ⟨⟨[], [_], rfl, by simp, by simp⟩, trivial, trivial⟩
    ⟨by decide, trivial, trivial⟩ trivial (by decide)
  obtain ⟨u, v', n', u', -, comes, concludes⟩ := ends (ran (nobody _) () _ (by decide))
  obtain ⟨same, gives⟩ := concludes.returned _ _ _ rfl (emits.returned (by decide) (by decide) _)
  exact ⟨action, held, u, v', n', u', comes, same, gives⟩

/-! ## What crosses -/

/-- In a host isolate that has evaluated only the bundled bootstrap, bindings and messages cross the sandbox
unchanged, whatever strings and levels they have: a body that emits trees in their order and returns its bindings is
replied for with these trees and those bindings, as they are read back from what is written of them, in new objects.
The bindings that were handed over are left as they were. They have to be open: the key that sets what a literal
inherits from makes no property. -/
theorem bindings_cross (S : Senses) (settings : Settings) (w : World) {m : Machine}
    (extended : booted.machine.Extends m) {q : Ref}
    {es : List (Utf16 × Json)} (spells : Spells m [] (.object q) (.object es)) (tidy : (Json.object es).Tidy)
    (shown : (Json.object es).Open) {ms : List Json} (messages : Json.TidyItems ms) (few : ms.length ≤ Key.indexLimit)
    (shallow : (reply (.object es) ms).height + 6 ≤ depthLimit) :
    ∃ action, Leads (· = action) ((Engine.bottom booted.bindings).own? m .global actionName) ∧
    ∃ u v n, Called [sourceText (.object es) (emittingSource ms)] (sourceText (.object es) (emittingSource ms)) w u ∧
      Comes booted.bindings (host S settings) ((Json.object es).height + 14)
        (·.call (.object action) .undefined [.object q, .string (emittingSource ms)]) m w (some (.ok v), n, u) ∧
      Gives m (reply (Json.object es).settled (Json.settledItems ms)) v n := by
  have heights : (Json.object es).height < (reply (.object es) ms).height := by
    show _ < max (Json.object es).height _ + 1
    omega
  obtain ⟨action, held, f, env, l, poised, ends⟩ :=
    action_ends S settings w extended spells (by omega) (reads_emittingSource ms)
  obtain ⟨list, out, v, n, emits, ran⟩ := poised.emits (Json.tidy_settled tidy) (Json.open_settled shown) messages few
  have height : (reply (Json.object es).settled (Json.settledItems ms)).height = (reply (.object es) ms).height :=
    Json.height_settled (reply (.object es) ms)
  have returned := emits.returned (by rw [Json.length_settled]; exact few) (by rw [height]; omega) w.upcoming
  obtain ⟨u, v', n', u', called, comes, told, -⟩ := ends (ran (nobody _) () _ (by decide))
  obtain ⟨rfl, gives⟩ := (told _ _ _ rfl returned).of_read (Json.read_write _)
  have settled : (reply (Json.object es).settled (Json.settledItems ms)).settled = reply (Json.object es).settled
    (Json.settledItems ms) :=
    Json.settled_settled (reply (.object es) ms)
  rw [settled] at gives
  exact ⟨action, held, _, v', n', called, comes, gives⟩

/-- A message with the key that no bindings may have. -/
theorem bindings_cross_parent : (Json.object handed).Tidy ∧ (Json.object handed).Open ∧
    Json.TidyItems [.object [(Json.parentKey, .null)], .bool true] ∧
    ∃ action, Leads (· = action) ((Engine.bottom booted.bindings).own? handing .global actionName) ∧
    ∃ u v n, Comes booted.bindings (host {} {}) ((Json.object handed).height + 14) (·.call (.object action) .undefined
        [.object booted.machine.next, .string (emittingSource [.object [(Json.parentKey, .null)], .bool true])]) handing
        World.blank (some (.ok v), n, u) ∧
      Gives handing (reply (.object handed) [.object [(Json.parentKey, .null)], .bool true]) v n := by
  have tidy : (Json.object handed).Tidy := ⟨⟨[], [_], rfl, by simp, by simp⟩, trivial, trivial⟩
  have shown : (Json.object handed).Open := ⟨by decide, trivial, trivial⟩
  have messages : Json.TidyItems [.object [(Json.parentKey, .null)], .bool true] :=
    ⟨⟨⟨[], [_], rfl, by simp, by simp⟩, trivial, trivial⟩, trivial, trivial⟩
  obtain ⟨action, held, u, v, n, -, comes, gives⟩ := bindings_cross {} {} World.blank
    (Script.Machine.extends_grown _ _) spells_handed tidy shown messages (by decide) (by decide)
  exact ⟨tidy, shown, messages, action, held, u, v, n, comes, gives⟩

end ScriptHost.Session.Action
