/-
Actions: what a sandbox answers to the program around a body. It is the text of the reply where the body returned, and
the string of what it threw where it threw, as long as what waits when the program has ended does not spoil either.
-/
import ScriptHost.Proofs.Sandbox.Described
import ScriptHost.Proofs.Session.Action.Body
import ScriptHost.Proofs.Session.Action.Result

namespace ScriptHost

open Script (Code Engine Expr Json Key Machine Program Ref Report Spells Value)
open Script.Engine (Literal ofDepth)

/-! ## Sandboxes -/

namespace Sandbox

open Isolate.Engine (bare inner innermost nobody)

variable {S : Senses}

/-- The report on a program is what a sandbox that is shown `S` answers with: the jobs that wait leave no rejection
over, and the list of the report meets no rule. -/
def Stands (S : Senses) (report : Report) (n : Machine) : Prop := ∃ n',
  ((Script.Engine.make bare.bindings).leftOver (n.grown report.object)).ended
  (nobody S) () = (some (.ok none), n', ()) ∧
    n'.object n.next = report.object ∧ (inner bare).unruled n' n.next = true

/-- Where nothing waits, reports stand. -/
theorem stands_of_still {report : Report} {n : Machine} (jobs : n.jobs = []) (unhandled : n.unhandled = [])
    (intact : Script.Intact (inner bare) n) : Stands S report n := by
  refine ⟨n.grown report.object, ?_, Script.Machine.object_next _ n, ?_⟩
  · rw [Script.Engine.leftOver_still (m := n.grown report.object) jobs unhandled]
    rfl
  · refine Script.Engine.unruled_listing (intact.grown _) intact.next_ne (Script.Machine.object_next _ n) ?_
    show 3 ≤ Key.indexLimit
    decide

/-- What a sandbox answers follows from the report on the program. -/
theorem answer_of_report {source : Text} {report : Report} {n : Machine}
    (reported : (inner bare).report (nobody S) (Text.toUtf16 source) bare.machine () = some (report, n, ()))
    (stands : Stands S report n) :
    (evaluation S source).display = Utf16.toText report.text := by
  obtain ⟨n', jobs, there, unruled⟩ := stands
  exact (told_of_report reported).whole n' jobs there unruled

/-- A program that throws is answered with the string of what it threw, -/
theorem answer_of_thrown {source : Text} {l n : Machine} {t : Value} {s : Utf16}
    (thrown : ((inner bare).program (Text.toUtf16 source) bare.machine).ended (nobody S) () = (some (.error t), l, ()))
    (string : ((inner bare).toUnits t l).ended (nobody S) () = (some (.ok s), n, ()))
    (stands : Stands S ⟨false, s, true⟩ n) :
    (evaluation S source).display = Utf16.toText s := by
  refine answer_of_report ?_ stands
  rw [Script.Engine.report, thrown]
  simp only [Script.Engine.reportOn, Script.Engine.outcomeOf, string]
  rfl

/-- and one that ends with a string is answered with that. -/
theorem answer_of_string {source : Text} {n : Machine} {s : Utf16}
    (ended : ((inner bare).program (Text.toUtf16 source) bare.machine).ended
    (nobody S) () = (some (.ok (.string s)), n, ()))
    (stands : Stands S ⟨true, s, true⟩ n) : (evaluation S source).display = Utf16.toText s := by
  refine answer_of_report ?_ stands
  rw [Script.Engine.report, ended]
  rfl

end Sandbox

/-! ## Programs around a body -/

namespace Session.Action

open Isolate.Engine (bare inner nobody)
open Sandbox (Stands)

variable {S : Senses}

theorem Begins.stripped {m n : Machine} {b : List (Key × Ref)} (h : Begins b m)
    (gone : (Script.Engine.bottom b).Stripped Script.strippedNames m n) : Begins b n := by
  have looked : ∀ k ∈ lookedUp, ∀ s ∈ Script.strippedNames, k ≠ s := by decide +kernel
  have named : ∀ x ∈ [emittingName, envName, bsName], ∀ s ∈ Script.strippedNames, Key.ofUnits x ≠ s := by decide +kernel
  have holds : ∀ {f : Script.Native} {s : Option Script.Slot}, Script.Holds m f s → Script.Holds n f s := by
    rintro f s ⟨r, w, en, c, found, kind⟩
    exact ⟨r, w, en, c, found, (gone.kind r).trans kind⟩
  obtain ⟨heap, size, same⟩ := gone.rest
  refine ⟨⟨h.toIntact.stripped gone, ?_, (gone.kind _).trans h.plain, ?_, fun i => ?_⟩, fun x among => ?_, ?_⟩
  · rw [same]
    exact h.outermost
  · rw [gone.own _ (looked _ (by decide))]
    refine h.library.imp fun q library => ⟨?_, ?_, ?_⟩
    · rw [same]
      exact size ▸ library.there
    · rw [gone.own _ (looked _ (by decide))]
      exact holds library.writes
    · rw [gone.own _ (looked _ (by decide))]
      exact holds library.reads
  · have item : ∀ s ∈ Script.strippedNames, Key.index i ≠ s := by
      intro s among same
      have names : ∀ s ∈ Script.strippedNames, isName s = true := by decide +kernel
      have name := names s among
      rw [← same] at name
      cases name
    rw [gone.own _ item, gone.own _ item]
    exact h.noItems i
  · rw [gone.own _ (named x among)]
    exact h.free x among
  · rw [same]
    exact h.still

/-- Programs can begin in a sandbox. -/
theorem begins_bare : Begins bare.bindings bare.machine := by
  have stage : Stage (.bottom bare.bindings) bare.machine := by
    obtain ⟨intact, outermost, plain, library⟩ : Script.Intact (.bottom bare.bindings) bare.machine ∧
        bare.machine.scopes[0]? = some .global ∧ isPlain (bare.machine.object .global).kind = true ∧
        Leads (Library (.bottom bare.bindings) bare.machine)
            ((Script.Engine.bottom bare.bindings).own? bare.machine .global "JSON") := by
      decide +kernel
    have parents : itemless (bare.machine.object .arrayParent) = true ∧
      itemless (bare.machine.object .objectParent) = true := by
      decide +kernel
    exact ⟨intact, outermost, eq_plain plain, library, fun i =>
      ⟨own?_of_itemless (by decide) parents.1 i, own?_of_itemless (by decide) parents.2 i⟩⟩
  have free : ∀ x ∈ [emittingName, envName, bsName],
      ((Script.Engine.bottom bare.bindings).own? bare.machine .global (.ofUnits x)).isNone = true := by decide +kernel
  exact ⟨stage, fun x among => Option.isNone_iff_eq_none.mp (free x among), rfl, rfl⟩

/-- The engine that calls the body. -/
def bodyEngine : Engine := ofDepth bare.bindings (Script.Engine.depthLimit - 3)

/-- A body has returned a value that spells a tree, and emitted what spells these; what the program looks up is still
what it was, and what waits does not spoil the reply. -/
structure Returned (S : Senses) (returned : Json) (emitted : List Json) (v : Value) (n : Machine) : Prop where
  value : Spells n [] v returned
  shallow : (reply returned emitted).height + 5 ≤ Script.Engine.depthLimit
  gathered : ∃ list env bs, Vars bare.bindings n list env bs ∧ Spells n [] list (.array emitted) ∧
    Stands S ⟨true, (reply returned emitted).write [] [], true⟩ { concluded v list n with result := .undefined }

/-- A body has thrown a value that becomes this string, and what waits does not spoil the string. -/
def Threw (S : Senses) (s : Utf16) (t : Value) (n : Machine) : Prop := ∃ n',
  ((inner bare).toUnits t { n with result := .undefined }).ended (nobody S) () = (some (.ok s), n', ()) ∧
  Stands S ⟨false, s, true⟩ n'

/-- The program around a body calls it on what it is to find, and is answered with the text of its reply, or with the
string of what it threw. -/
theorem answer_acting {p : Utf16} {literal : Expr} {j : Json} {levels : Nat} {body : Code}
    (parsed : Program.ofSource false (Utf16.toText p) = .ok (acting literal body)) (written : Literal literal j levels)
    (shallow : levels + 4 ≤ Script.Engine.depthLimit) (anonymous : body.ownName = false) :
    ∃ f env l, Poised bare.bindings j body f env l ∧ ∀ {r : Except Value Value} {n : Machine},
      (bodyEngine.call (.object f) .undefined [.object env] l).ended (nobody S) () = (some r, n, ()) →
        (∀ v returned emitted, r = .ok v → Returned S returned emitted v n →
          (Sandbox.evaluation S (Utf16.toText p)).display = Utf16.toText ((reply returned emitted).write [] [])) ∧
        ∀ t s, r = .error t → Threw S s t n → (Sandbox.evaluation S (Utf16.toText p)).display = Utf16.toText s := by
  obtain ⟨l₀, strip, gone⟩ := Script.Engine.strip_apply (inner bare) Script.strippedNames bare.machine
  have same : (Script.Engine.bottom bare.bindings).own? = (inner bare).own? :=
    Script.Engine.own?_of_bindings (Script.Engine.ofDepth_bindings bare.bindings _).symm
  have begins : Begins bare.bindings l₀ :=
    begins_bare.stripped ⟨gone.rest, gone.kind, gone.parent, by rw [same]; exact gone.own, gone.others⟩
  have result : l₀.result = .undefined := by
    obtain ⟨heap, -, rest⟩ := gone.rest
    rw [rest]
    rfl
  obtain ⟨f, env, l, poised, ends⟩ := runProgram_acting begins written anonymous
  refine ⟨f, env, l, poised, fun {r n} called => ?_⟩
  have depth : inner bare = ofDepth bare.bindings (Script.Engine.depthLimit - 4 + 3) := rfl
  obtain ⟨thrown, returned⟩ := ends (nobody S) () (d := Script.Engine.depthLimit - 4) (by omega) called
  -- what is run is the program that was put together
  have program : (inner bare).program (Text.toUtf16 (Utf16.toText p)) bare.machine =
      (inner bare).runProgram Script.Engine.globalFrame (acting literal body) l₀ := by
    have strict : Script.Engine.globalFrame.strict = false := rfl
    rw [Script.Engine.program, Script.Run.bind_apply, strip, Script.Result.follow_value, Script.Engine.runGlobally,
      Script.Engine.runSource, strict, Text.toUtf16_toText, parsed]
  refine ⟨?_, ?_⟩
  · rintro v tree emitted rfl ⟨value, levels', list, env', bs, vars, gathered, stands⟩
    have ended := returned v tree emitted list env' bs rfl (by omega) vars value gathered
    rw [result, ← depth, ← program] at ended
    exact Sandbox.answer_of_string ended stands
  · rintro t s rfl ⟨n', string, stands⟩
    have ended := thrown t rfl
    rw [result, ← depth, ← program] at ended
    exact Sandbox.answer_of_thrown ended string stands

end Session.Action

end ScriptHost
