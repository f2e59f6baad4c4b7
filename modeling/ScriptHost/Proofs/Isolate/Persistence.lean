/-
What lasts from one program of an isolate to the next. A program starts on the machine that the one before
it left, but for nine global names that are removed first; no other property, object or scope is touched,
whatever ran before. Under one of the nine names a script cannot keep anything: what it declares there is
gone when the next program starts.
-/
import ScriptHost.Proofs.Isolate.Coercion

namespace ScriptHost

open Script (Bound Key Machine Ref Run Value strippedNames)

namespace Script.Engine

variable {e : Engine} {m l : Machine}

/-- The global names that an evaluation looks up are found as plain values: some function or value under
`String`, and under `eval` the function that evaluates sources. -/
structure Plain (e : Engine) (m : Machine) (convert : Value) : Prop where
  converts : ∃ r w en c, e.find? m .global "String" = some (r, .data convert w en c)
  evaluates : ∃ r f w en c, e.find? m .global "eval" = some (r, .data (.object f) w en c) ∧
    (m.object f).kind = .native .eval

/-- The program of a source starts on the machine `l` when the source is evaluated on `m`: all of the
evaluation on `m` is to run the program on `l`, and to describe what it ends with. -/
def Starts (e : Engine) (convert : Value) (source : Utf16) (m l : Machine) : Prop :=
  e.above.evaluateToArray source m = (do
    let ended ← Run.attempt (e.runGlobally source)
    e.above.describeOutcome convert ended) l

/-- Names that are not removed are found as before. -/
theorem Stripped.find? {names : List String} (gone : e.Stripped names m l) {k : Key}
    (other : ∀ s ∈ names, k ≠ s) (r : Ref) : e.find? l r k = e.find? m r k := by
  obtain ⟨heap, size, same⟩ := gone.rest
  exact find?_congr (by rw [same, size]) (gone.own k other) gone.parent r

theorem find?_above (m : Machine) (r : Ref) (k : Key) : e.above.find? m r k = e.find? m r k := by
  rw [find?_of_bindings (d := e.above) (e := e) rfl]

/-- Where the names are plain, programs start when the nine are removed. -/
theorem Plain.starts {convert : Value} (plain : e.Plain m convert) (scope : m.scopes[0]? = some .global)
    (source : Utf16) {l : Machine} (strip : e.strip strippedNames m = .value () l)
    (gone : e.Stripped strippedNames m l) : e.Starts convert source m l := by
  obtain ⟨_, _, _, _, string⟩ := plain.converts
  obtain ⟨_, f, _, _, _, eval, kind⟩ := plain.evaluates
  have scope_l : l.scopes[0]?.getD .global = .global := by
    obtain ⟨heap, -, rfl⟩ := gone.rest
    rw [scope]
    rfl
  have read : e.above.readName .global stringName m = .value convert m :=
    readName_found (by rw [scope]; rfl) ((find?_above m _ _).trans string)
  have strip' : e.above.strip strippedNames m = .value () l := strip
  have found : e.find? l .global "eval" = e.find? m .global "eval" := gone.find? (by decide +kernel) .global
  have read_eval : e.above.readName .global evalName l = .value (.object f) l :=
    readName_found scope_l ((find?_above l _ _).trans (found.trans eval))
  have call : e.above.call (.object f) .undefined [.string source] l = e.runGlobally source l :=
    callValue_native ((gone.kind f).trans kind) _ _
  have ran : e.above.runByName source l = e.runGlobally source l := by
    rw [runByName, Run.bind_apply, read_eval, Result.follow_value, call]
  rw [Starts, evaluateToArray, Run.bind_apply, read, Result.follow_value, Run.bind_apply, strip',
    Result.follow_value, Run.bind_apply, Run.bind_apply, Run.attempt_apply, Run.attempt_apply, ran]

/-- Where the names stand for the functions that they did at first, they are plain. -/
theorem Ready.plain (ready : e.Ready m) : ∃ convert, e.Plain m convert := by
  obtain ⟨c, w, en, co, string, -⟩ := ready.converts
  obtain ⟨f, w', en', co', eval, kind⟩ := ready.evaluates
  exact ⟨.object c, ⟨.global, w, en, co, find?_of_own string⟩, .global, f, w', en', co', find?_of_own eval, kind⟩

end Script.Engine

namespace Isolate.Engine

end Isolate.Engine

end ScriptHost
