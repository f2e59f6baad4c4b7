/-
Actions: what calls on the function come to. The answer of the sandbox alone decides between a reply and an error;
so a body that throws what spells a tree is taken for one that returned.
-/
import ScriptHost.Proofs.Isolate.HostCalls
import ScriptHost.Proofs.Session.Action.Call
import ScriptHost.Proofs.Session.Noninterference

namespace ScriptHost.Session.Action

open Isolate.Engine (factory)
open Script (Bound Code Engine Json Key Machine Obj Ref Shows Spells Value)
open Script.Engine (Comes)

variable {m : Machine}

/-- How a call on the function with bindings at `q` goes on from the text that comes back: it is taken for the
reply if it spells a tree, whose value is then returned; otherwise a line is printed, and the text is told as an error
and added to the bindings. All else that was there is left as it was. -/
inductive Told (m : Machine) (q : Ref) (s : Utf16) : World → Value → Machine → World → Prop
  | reply {j : Json} {v : Value} {n : Machine} {w : World} (spelled : Json.read (Utf16.toText s) = .ok j)
      (shows : Shows m.heap.size n j v) (kept : m.Within n) : Told m q s w v n w
  | error {complaint : Text} {r : Ref} {n : Machine} {w u : World}
      (refused : Json.read (Utf16.toText s) = .error complaint)
      (printed : w.Served [.called "print" ((line s).map Utf16.toText), .returned "print"] u)
      (new : m.heap.size ≤ r.index) (result : n.object r = .record [("bs", .object q), ("error", .string s)])
      (set : n.object q = (m.object q).put "error" (.plain (.string s)))
      (kept : ∀ p : Ref, p.index < m.heap.size → p ≠ q → n.object p = m.object p) : Told m q s w (.object r) n u

/-- Nothing but the bindings has changed when an error was told. -/
theorem told_kept {l : Machine} (extended : m.Within l) (more : m.heap.size ≤ l.heap.size) {q : Ref}
    (there : q.index < m.heap.size)
    (s : Utf16) : (told q s l).object l.next = .record [("bs", .object q), ("error", .string s)] ∧
      (told q s l).object q = (m.object q).put "error" (.plain (.string s)) ∧
      ∀ p : Ref, p.index < m.heap.size → p ≠ q → (told q s l).object p = m.object p := by
  let changed := l.updated q (Obj.put "error" (.plain (.string s)))
  have size : changed.heap.size = l.heap.size := Machine.updated_size _ l
  have before : ∀ p : Ref, p.index < m.heap.size → (told q s l).object p = changed.object p := fun p inside =>
    Machine.object_grown _ (by rw [size]; exact Nat.lt_of_lt_of_le inside more)
  refine ⟨?_, ?_, fun p inside other => ?_⟩
  · have next : l.next = changed.next := congrArg Ref.mk size.symm
    rw [next]
    exact Machine.object_next _ changed
  · rw [before q there, ← extended q there]
    exact Machine.updated_object _ (Nat.lt_of_lt_of_le there more)
  · rw [before p inside, ← extended p inside]
    exact Machine.updated_object_of_ne _ other

theorem answer_print (S : Senses) (settings : Settings) (ss : List Utf16) (w : World) :
    ∃ u, host S settings (.call "print" (Engine.crossing ss)) w = (.nothing, u) ∧
      w.Served [.called "print" (ss.map Utf16.toText), .returned "print"] u := by
  have found : (functions factory settings).find? (·.1 = ("print" : Text)) =
      some (recorded "print" printFunction) := rfl
  refine ⟨((recorded "print" printFunction).2 (ss.map Utf16.toText) w).2, ?_, print_served _ w⟩
  exact Isolate.Engine.answer_crossing found ss w

/-- The program for an action as a text. -/
def sourceText (bindings : Json) (src : Utf16) : Text := Utf16.toText (program (bindings.write [] []) src)

/-- The text that comes back for it from a sandbox that is shown `S`. -/
def answerText (S : Senses) (bindings : Json) (src : Utf16) : Utf16 :=
  Text.toUtf16 (Sandbox.evaluation S (sourceText bindings src)).display

section Call

variable {b : List (Key × Ref)} {f : Ref} {code : Code} {q : Ref} {es : List (Utf16 × Json)}
  (equipped : Equipped (.bottom b) m) (kind : (m.object f).kind = .closure code .global)
  (action : isAction code = true) (spells : Spells m [] (.object q) (.object es)) (src : Utf16)
include equipped kind action spells

/-- Where the function finds what it looks up, a call on it has the program evaluated in a sandbox, and tells what
comes back. -/
theorem action_told (S : Senses) (settings : Settings) (w : World) : ∃ u v n u',
    Called [sourceText (.object es) src] (sourceText (.object es) src) w u ∧
      Comes b (host S settings) ((Json.object es).height + 14)
        (·.call (.object f) .undefined [.object q, .string src]) m w
        (some (.ok v), n, u') ∧
      Told m q (answerText w.upcoming (.object es) src) u v n u' := by
  let p := program ((Json.object es).write [] []) src
  let t := (Sandbox.evaluation w.upcoming (sourceText (.object es) src)).display
  have crossed : Bridge.argumentsOf (Engine.crossing [p]) = .ok [.text (Utf16.toText p)] := rfl
  obtain ⟨u, reply, called⟩ := answer_sandbox settings crossed w
  have extended := extends_replied q p t m
  have equipped' : Equipped (.bottom b) (replied q p t m) := ((equipped.grown _).grown _).grown _
  rcases read : Json.read (Utf16.toText (answerText w.upcoming (.object es) src)) with complaint | j
  · obtain ⟨u', printed, served⟩ := answer_print S settings (line (answerText w.upcoming (.object es) src)) u
    have spells' : Spells (replied q p t m) ([] ++ []) (.object q) (.object es) := spells.kept (by simp) extended.within
    have there : q.index < m.heap.size := by
      cases spells with
      | object _ _ plain _ => exact Machine.lt_of_parent plain.parent
    let l := (((replied q p t m).grown (.failure .syntaxError complaint)).grown
      (.strings (line (answerText w.upcoming (.object es) src)))).grown (.record [])
    have extended' : m.Extends l :=
      ((extended.trans (Machine.extends_grown _ _)).trans (Machine.extends_grown _ _)).trans
      (Machine.extends_grown _ _)
    obtain ⟨result, set, kept⟩ := told_kept (l := handling (.object (replied q p t m).next)
      { answered q p src t with err := .string (answerText w.upcoming (.object es) src) } l) extended'.within
      extended'.size there (answerText w.upcoming (.object es) src)
    exact ⟨u, _, _, u', called, call_comes (t := t) equipped kind action spells src reply
      (exec_told (k := (Json.object es).height + 7) (c := answered q p src t) equipped' spells' read printed),
      .error read served extended'.size result set kept⟩
  · obtain ⟨v, n, made, extended', shows⟩ := j.toValue_shows (inside (answered q p src t) (replied q p t m))
    refine ⟨u, v, n, u, called, call_comes (t := t) equipped kind action spells src reply
      (exec_reply (k := (Json.object es).height + 8) (c := answered q p src t) equipped' read made), .reply read ?_ ?_⟩
    · exact shows.kept extended.size fun _ _ _ => rfl
    · exact fun r there => (extended'.object (Nat.lt_of_lt_of_le there extended.size)).trans (extended.object there)

end Call

end ScriptHost.Session.Action
