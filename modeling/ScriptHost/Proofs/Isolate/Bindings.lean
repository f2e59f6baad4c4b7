/-
The global names of the host's functions. Each of them is a property of the global object that can be
neither changed nor removed. Every operation of the evaluator on the global object asks the property that
it is about to change, so whatever runs in an isolate, and whatever the functions answer, the name goes on
standing for the function that it stood for when the isolate was made. Removing the names that lead out
of the engine is no exception, also where a function of the host has one of them.
-/
import ScriptHost.Proofs.Isolate.Coercion

namespace ScriptHost

open Script (Bound Engine Machine Ref strippedNames)

/-- A global name stands for a function of the host, and can be neither changed nor removed. -/
structure Script.Machine.Stands (m : Machine) (name : Text) (f : Ref) : Prop where
  fixed : (m.object .global).own? (Bound.key name) = some (.data (.object f) false false false)
  kind : (m.object f).kind = .host name

theorem Script.Machine.Later.stands {m n : Machine} (later : m.Later n) {name : Text} {f : Ref}
    (stands : m.Stands name f) : n.Stands name f where
  fixed := later.fixed stands.fixed
  kind := by
    have same := (later.kinds f (Machine.lt_of_kind (by simp [stands.kind]))).2
    rw [stands.kind] at same
    cases h : (n.object f).kind <;> rw [h] at same <;> cases same
    rfl

namespace Isolate.Engine

/-- Each function of the table that an isolate was made with keeps its global name through every history:
after all of its programs, and when the next one begins, the name stands for the function that it stood
for at first. In a table no two names are the same to scripts. -/
theorem bindings_immutable {purpose : Text} {functions : Option Functions} {i : Isolate Bound} {v w : World}
    (made : Isolate.create factory purpose functions v = (.ok i, w))
    (distinct : (i.functions.map fun f => Bound.key f.1).Nodup) :
    ∀ name ∈ i.functions.map (·.1), ∃ f, i.core.machine.Stands name f ∧
      ∀ (sources : List Text) (u : World) (j : Isolate Bound) (u' : World),
        i.evaluateAll factory sources u = (j, u') →
          j.core.machine.Stands name f ∧
          ∀ l, (Engine.make j.core.bindings).strip strippedNames j.core.machine = .value () l →
            l.Stands name f := by
  intro name among
  have keys : ((i.functions.map (·.1)).map Bound.key).Nodup := by
    rw [List.map_map]
    exact distinct
  obtain ⟨f, fixed, kind⟩ := Bound.fresh_fixes keys among
  have stands : i.core.machine.Stands name f := by
    rw [(made_fresh made).2.1]
    exact ⟨fixed, kind⟩
  refine ⟨f, stands, fun sources u j u' history => ?_⟩
  have kept := evaluateAll_keeps sources i u
  rw [history] at kept
  refine ⟨kept.later.stands stands, fun l stripped => ?_⟩
  have later : j.core.machine.Later l := by
    have aged := Script.Engine.ages_strip (e := Engine.make j.core.bindings) strippedNames j.core.machine
    rw [Script.Run.AgesAt, stripped] at aged
    exact aged
  exact (kept.later.trans later).stands stands

/-- Functions under a name that is stripped, and under another one. -/
def printing : Functions := [("print", fun _ w => (.ok .nothing, w)), ("double", fun _ w => (.ok .nothing, w))]

/-- Programs that try to get hold of the first name. -/
def grasping : List Text := [
  "print = 1; var print = 2; delete print; delete this.print",
  "function print() \x7b\x7d",
  "Object.defineProperty(this, 'print', \x7b value: 3, writable: true, configurable: true \x7d)"]

/-- The first isolate that is made in a blank world with these functions. -/
def printingIsolate : Isolate Bound := ⟨0, "sandbox", printing, Bound.fresh {} (printing.map (·.1))⟩

theorem bindings_immutable_print :
    (∃ w, Isolate.create factory "sandbox" (some printing) World.blank = (.ok printingIsolate, w)) ∧
    ∃ f, printingIsolate.core.machine.Stands "print" f ∧
      ∀ u, (printingIsolate.evaluateAll factory grasping u).1.core.machine.Stands "print" f := by
  have made : ∃ w, Isolate.create factory "sandbox" (some printing) World.blank = (.ok printingIsolate, w) :=
    ⟨_, rfl⟩
  have distinct : (printingIsolate.functions.map fun f => Bound.key f.1).Nodup := by decide +kernel
  obtain ⟨f, stands, kept⟩ := bindings_immutable made.choose_spec distinct "print" (by decide +kernel)
  exact ⟨made, f, stands, fun u => (kept grasping u _ _ rfl).1⟩

end Isolate.Engine

end ScriptHost
