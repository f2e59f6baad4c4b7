/-
Calls on functions of the host from scripts. The global name of each function stands for one object through
every history; a call on it makes the arguments strings, one after the other and by the built-in
conversion, and then calls the function once with all of them. What the function ends with is what the call
ends with: a datum comes back as its value, nothing as undefined, and a fault of the host's own or of the
system as an error with its message. All that the call looks up on its way can be changed by scripts, so
this is so wherever that is as it was in the beginning.
-/
import ScriptHost.Proofs.Isolate.Bindings
import ScriptHost.Proofs.Script.Arguments

namespace ScriptHost

open Script (Bound Gathers Machine Obj Pristine Ref Shows Value)

namespace Isolate.Engine

/-- How a call on the function `f` ends, given how the strings of its arguments were gathered. -/
inductive Transparent (name : Text) (f : HostFunction) :
    Option (Except Value (List Utf16)) × Machine × World → Option (Except Value Value) × Machine × World → Prop
  | spent {n : Machine} {u : World} : Transparent name f (none, n, u) (none, n, u)
  /-- What a conversion throws, the call throws; the function is not called. -/
  | thrown {t : Value} {n : Machine} {u : World} :
      Transparent name f (some (.error t), n, u) (some (.error t), n, u)
  | value {ss : List Utf16} {n l : Machine} {u u' : World} {d : Datum} {v : Value}
      (returned : f (ss.map Utf16.toText) u = (.ok d, u')) (given : d ≠ .nothing)
      (shows : d.crosses = true → Shows n.heap.size l d.tree v) :
      Transparent name f (some (.ok ss), n, u) (some (.ok v), l, u')
  | nothing {ss : List Utf16} {n l : Machine} {u u' : World}
      (returned : f (ss.map Utf16.toText) u = (.ok .nothing, u')) :
      Transparent name f (some (.ok ss), n, u) (some (.ok .undefined), l, u')
  | refused {ss : List Utf16} {n l : Machine} {u u' : World} {fault : Fault} {r : Ref}
      (raised : f (ss.map Utf16.toText) u = (.error fault, u'))
      (plain : (fault.isOwn || fault.isSystem) = true) (made : l.object r = .failure .error fault.message) :
      Transparent name f (some (.ok ss), n, u) (some (.error (.object r)), l, u')
  | failed {ss : List Utf16} {n l : Machine} {u u' : World} {fault : Fault} {r : Ref}
      (raised : f (ss.map Utf16.toText) u = (.error fault, u'))
      (inner : (fault.isOwn || fault.isSystem) = false)
      (made : l.object r = .failure .internalError (Bridge.failureMessage name fault)) :
      Transparent name f (some (.ok ss), n, u) (some (.error (.object r)), l, u')

/-- The bridge calls the function of the name once, with the texts. -/
theorem answer_crossing {functions : Functions} {name : Text} {f : HostFunction}
    (found : functions.find? (·.1 = name) = some (name, f)) (ss : List Utf16) (u : World) :
    Bridge.answer functions name (Script.Engine.crossing ss) u = match f (ss.map Utf16.toText) u with
      | (.ok d, u') => (Bridge.replyOf d, u')
      | (.error fault, u') =>
        if fault.isOwn || fault.isSystem then (.refused fault.message, u')
        else (.failed (Bridge.failureMessage name fault), u') := by
  have texts : (ss.map fun s => Datum.text (Utf16.toText s)).map Datum.shown = ss.map Utf16.toText := by
    rw [List.map_map]
    rfl
  simp only [Bridge.answer, found, Bridge.call, Script.Engine.crossing, Bridge.argumentsOf, texts]
  rcases f (ss.map Utf16.toText) u with ⟨fault | d, u'⟩
  · cases plain : fault.isOwn || fault.isSystem <;> simp [plain]
  · rfl

/-- A table without two names that are the same to scripts has one function under each. -/
theorem find?_of_distinct {functions : Functions} (distinct : (functions.map fun f => Bound.key f.1).Nodup)
    {name : Text} {f : HostFunction} (bound : (name, f) ∈ functions) :
    functions.find? (·.1 = name) = some (name, f) := by
  induction functions with
  | nil => cases bound
  | cons g rest ih =>
    obtain ⟨fresh, distinct⟩ := List.nodup_cons.mp distinct
    rcases List.mem_cons.mp bound with rfl | among
    · simp
    · have other : g.1 ≠ name := by
        rintro rfl
        exact fresh (List.mem_map.mpr ⟨_, among, rfl⟩)
      rw [List.find?_cons_of_neg (by simpa using other)]
      exact ih distinct among

/-- What the function ends with, the call ends with. -/
theorem transparent_giveBack {functions : Functions} {b : Bound} {name : Text} {f : HostFunction}
    (found : functions.find? (·.1 = name) = some (name, f)) {e : Script.Engine} {n : Machine} {most : Nat}
    (pristine : Pristine e n most) (ss : List Utf16) (u : World) :
    Transparent name f (some (.ok ss), n, u)
      ((e.above.above.giveBack (host functions b (.call name (Script.Engine.crossing ss)) u).1 n).ended
        (host functions b) (host functions b (.call name (Script.Engine.crossing ss)) u).2) := by
  have pristine₂ : Pristine e.above.above n most := pristine.of_bindings rfl
  have answered : host functions b (.call name (Script.Engine.crossing ss)) u =
      Bridge.answer functions name (Script.Engine.crossing ss) u := rfl
  rw [answered, answer_crossing found]
  rcases returned : f (ss.map Utf16.toText) u with ⟨fault | d, u'⟩
  · cases plain : fault.isOwn || fault.isSystem
    · dsimp only
      rw [if_neg (by simp [plain]), Script.Engine.giveBack_failed]
      exact .failed returned plain (Machine.object_next _ n)
    · obtain ⟨r, l, thrown, made, -⟩ := Script.Engine.giveBack_refused pristine fault.message
      dsimp only
      rw [if_pos plain, thrown]
      exact .refused returned plain made
  · by_cases given : d = .nothing
    · subst given
      simp only [Bridge.replyOf]
      rw [Script.Engine.giveBack_nothing pristine₂]
      exact .nothing returned
    · obtain ⟨v, l, made, extended, shows⟩ := d.tree.toValue_shows n
      rw [← Value.ofDatum_tree] at made
      have reply : Bridge.replyOf d = .value d := by cases d <;> first | rfl | exact absurd rfl given
      dsimp only
      rw [reply, Script.Engine.giveBack_value pristine₂.toIntact made extended]
      refine .value returned given fun _ => shows.kept (Nat.le_refl _) ?_
      exact fun r _ inside => Machine.object_grown _ inside

/-- Calls on functions of the host are transparent, after every history and at every machine that a program
can be on when it makes the call, as long as what the call goes through is there as in the beginning. -/
theorem calls_transparent {purpose : Text} {functions : Option Functions} {i : Isolate Bound} {v w : World}
    (made : Isolate.create factory purpose functions v = (.ok i, w))
    (distinct : (i.functions.map fun f => Bound.key f.1).Nodup) {name : Text} {f : HostFunction}
    (bound : (name, f) ∈ i.functions) :
    ∃ r, i.core.machine.Stands name r ∧
      ∀ (sources : List Text) (u : World) (j : Isolate Bound) (u' : World),
        i.evaluateAll factory sources u = (j, u') →
        ∀ (m : Machine), j.core.machine.Later m → ∀ (this : Value) (args : List Value) (depth : Nat) (x : World),
          args.length ≤ Script.Key.indexLimit → Pristine (.make j.core.bindings) m args.length →
          ∀ out, Gathers (.ofDepth j.core.bindings (depth + 1)) (host j.functions j.core) m.next args.length []
              args (m.grown (.strings [])) x out →
            Transparent name f out (((Script.Engine.ofDepth j.core.bindings (depth + 3)).call (.object r) this
              args m).ended (host j.functions j.core) x) := by
  have keys : ((i.functions.map (·.1)).map Bound.key).Nodup := by
    rw [List.map_map]
    exact distinct
  obtain ⟨r, fixed, kind⟩ := Bound.fresh_fixes keys (List.mem_map.mpr ⟨_, bound, rfl⟩)
  have stands : i.core.machine.Stands name r := by
    rw [(made_fresh made).2.1]
    exact ⟨fixed, kind⟩
  refine ⟨r, stands, fun sources u j u' history m later this args depth x limit pristine out gathers => ?_⟩
  have kept := evaluateAll_keeps sources i u
  rw [history] at kept
  have found : j.functions.find? (·.1 = name) = some (name, f) := by
    rw [kept.functions]
    exact find?_of_distinct distinct bound
  let e : Script.Engine := .ofDepth j.core.bindings depth
  have pristine₁ : Pristine e.above m args.length := pristine.of_bindings
    ((Script.Engine.ofDepth_bindings _ (depth + 1)).trans (Script.Engine.ofDepth_bindings _ _).symm)
  have called : (Script.Engine.ofDepth j.core.bindings (depth + 3)).call (.object r) this args m =
      e.above.above.callHost name args m :=
    Script.Engine.callValue_host ((kept.later.trans later).stands stands).kind this args
  have ended := Script.Engine.ended_callHost (Script.Engine.ofDepth_ages _ _) limit pristine₁ name gathers
  rw [called, ended]
  rcases out with ⟨_ | t | ss, n, y⟩
  · exact .spent
  · exact .thrown
  · obtain ⟨left, -, -⟩ := gathers.gathered (pristine₁.carried (Machine.extends_grown _ m))
      (Machine.object_next _ m) pristine₁.next_ne rfl
    exact transparent_giveBack found (e := e) (left.of_bindings rfl) ss y

/-- A function that returns its arguments. -/
def echoing : Functions := [("echo", fun args w => (.ok (.list (args.map .text)), w))]

/-- The first isolate that is made in a blank world with this function. -/
def echoIsolate : Isolate Bound := ⟨0, "sandbox", echoing, Bound.fresh {} (echoing.map (·.1))⟩

/-- A program that changes much, but nothing that calls go through. -/
def harmless : List Text := ["Array.prototype.join = null; var toString = 1; Number = String; Object = 2"]

/-- The isolate when it has run. -/
def echoAfter : Isolate Bound := (echoIsolate.evaluateAll factory harmless World.blank).1

theorem calls_transparent_echo :
    (∃ w, Isolate.create factory "sandbox" (some echoing) World.blank = (.ok echoIsolate, w)) ∧
    ∃ r, echoIsolate.core.machine.Stands "echo" r ∧
      ∃ v l x, ((Script.Engine.ofDepth echoAfter.core.bindings 3).call (.object r) .undefined
          [.string (Text.toUtf16 "a"), .null, .bool true] echoAfter.core.machine).ended
          (host echoAfter.functions echoAfter.core) World.blank = (some (.ok v), l, x) ∧
        Shows 0 l (Datum.tree (.list [.text "a", .text "null", .text "true"])) v := by
  have made : ∃ w, Isolate.create factory "sandbox" (some echoing) World.blank = (.ok echoIsolate, w) := ⟨_, rfl⟩
  have distinct : (echoIsolate.functions.map fun f => Bound.key f.1).Nodup := by decide +kernel
  obtain ⟨r, stands, transparent⟩ := calls_transparent made.choose_spec distinct List.mem_cons_self
  have pristine : Pristine (.make echoAfter.core.bindings) echoAfter.core.machine 3 := by decide +kernel
  let args : List Value := [.string (Text.toUtf16 "a"), .null, .bool true]
  have grown : Pristine (.ofDepth echoAfter.core.bindings 1)
      (echoAfter.core.machine.grown (.strings [])) args.length :=
    (pristine.carried (Machine.extends_grown _ _)).of_bindings ((Script.Engine.ofDepth_bindings _ 1).trans
      (Script.Engine.ofDepth_bindings _ Script.Engine.depthLimit).symm)
  have primitive : ∀ v ∈ args, v.ref? = none := by simp [args, Value.ref?]
  obtain ⟨n, gathers⟩ : ∃ n, Gathers (.ofDepth echoAfter.core.bindings 1) (host echoAfter.functions echoAfter.core)
      echoAfter.core.machine.next args.length [] args (echoAfter.core.machine.grown (.strings [])) World.blank
      (some (.ok ([] ++ args.map Value.primitiveUnits)), n, World.blank) :=
    ⟨_, .primitive primitive grown (Machine.object_next _ _) pristine.next_ne (by simp [Machine.next])⟩
  have called := transparent harmless World.blank echoAfter _ Prod.mk.eta.symm echoAfter.core.machine (.refl _)
    .undefined args 0 World.blank (by show 3 ≤ _; decide) pristine _ gathers
  refine ⟨made, r, stands, ?_⟩
  generalize ended : ((Script.Engine.ofDepth echoAfter.core.bindings 3).call _ _ _ _).ended _ _ = out at called ⊢
  rcases called with _ | _ | ⟨returned, given, shows⟩ | returned | ⟨raised, _, _⟩ | ⟨raised, _, _⟩
  · cases returned
    exact ⟨_, _, _, rfl, (shows rfl).kept (Nat.zero_le _) fun _ _ _ => rfl⟩
  · cases returned
  · cases raised
  · cases raised

/-- A program that takes the place of `String` decides what later calls hand over. -/
example : (((echoIsolate.evaluateAll factory ["String = function () \x7b return 'mine' \x7d"] World.blank).1.evaluate
    factory "'' + echo('a')" World.blank).1.1.toOption.map fun e => e.value) = some ("mine" : Text) := by
  decide +kernel

end Isolate.Engine

end ScriptHost
