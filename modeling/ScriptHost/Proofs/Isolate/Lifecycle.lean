/-
The life of an isolate. It is open when it is made, and whatever is done with it, in whatever order, what it runs on
is let go of once and its end is told of once: when it is closed, or left, for the first time. This holds where
letting go ends with a fault, and where functions of the host close the isolate in the middle of a run. Afterwards
nothing can be done with it.
-/
import ScriptHost.Proofs.Sandbox.Containment
import ScriptHost.Proofs.Session.Functions
import ScriptHost.Proofs.Spared
import ScriptHost.Script.Token
import Mathlib.Tactic.IntervalCases

namespace ScriptHost

/-! ## Identifiers -/

namespace Text

open Script

/-- The value of a hexadecimal digit is read back. -/
theorem hexValue_digitChar {d : Nat} (small : d < 16) : (CodePoint.ofChar d.digitChar).hexValue? = some d := by
  interval_cases d <;> rfl

/-- The value of hexadecimal digits is read back. -/
theorem hexValue_toDigits (n : Nat) : Token.hexValue ((Nat.toDigits 16 n).map CodePoint.ofChar) = n := by
  induction n using Nat.strong_induction_on with
  | _ n ih =>
    rw [Nat.toDigits_eq_if (by decide)]
    split
    · rename_i small
      simp [Token.hexValue, hexValue_digitChar small]
    · rename_i large
      have before := ih (n / 16) (by omega)
      unfold Token.hexValue at before ⊢
      rw [List.map_append, List.foldl_append, before, List.map_singleton, List.foldl_cons, List.foldl_nil,
        hexValue_digitChar (Nat.mod_lt n (by decide)), Option.getD_some]
      omega

/-- Zeros before the digits do not change their value. -/
theorem hexValue_hex (width n : Nat) : Token.hexValue (hex width n) = n := by
  have zeros : ∀ count, Token.hexValue (List.replicate count (CodePoint.ofChar '0')) = 0 := by
    intro count
    induction count with
    | zero => rfl
    | succ count ih => exact ih
  unfold hex
  have digits := hexValue_toDigits n
  unfold Token.hexValue at digits zeros ⊢
  rw [List.foldl_append, zeros, digits]

theorem hex_injective (width : Nat) : Function.Injective (hex width) :=
  Function.LeftInverse.injective (hexValue_hex width)

end Text

/-- Whether an event tells that the isolate with an identifier was destroyed. -/
def Event.destroys (id : Text) : Event → Bool
  | isolateDestroyed id' _ => id' = id
  | _ => false

namespace Isolate

variable {ι : Type} {F : Factory ι} {i j : Isolate ι} {u v w : World}

theorem id_injective (same : i.id = j.id) : i.place = j.place :=
  Nat.succ.inj (Text.hex_injective 12 same)

/-! ## How an isolate stands -/

/-- How an isolate stands: whether it is closed, how often what it runs on was let go of, and how often its end was
told of. -/
structure Standing where
  closed : Bool
  releases : Nat
  destroyed : Nat

/-- An isolate that stands so, closed. -/
def Standing.shut (s : Standing) : Standing := ⟨true, s.releases + 1, s.destroyed + 1⟩

/-- How an isolate stands, if it has a record. -/
def standing? (i : Isolate ι) (w : World) : Option Standing :=
  (w.isolate? i.place).map fun r => ⟨r.closed, r.releases, (w.those (Event.destroys i.id)).length⟩

/-- An isolate with a record stands as it stood. -/
def Kept (i : Isolate ι) (v w : World) : Prop := ∀ s, i.standing? v = some s → i.standing? w = some s

/-- An isolate with a record stands as it stood, or was closed. -/
def Tended (i : Isolate ι) (v w : World) : Prop :=
  ∀ s, i.standing? v = some s → i.standing? w = some s ∨ s.closed = false ∧ i.standing? w = some s.shut

theorem Kept.refl (i : Isolate ι) (w : World) : i.Kept w w := fun _ found => found

theorem Kept.trans (a : i.Kept u v) (b : i.Kept v w) : i.Kept u w := fun s found => b s (a s found)

theorem Kept.of_eq (same : i.standing? w = i.standing? v) : i.Kept v w := fun _ found => same.trans found

theorem Kept.tended (a : i.Kept v w) : i.Tended v w := fun s found => .inl (a s found)

theorem Tended.refl (i : Isolate ι) (w : World) : i.Tended w w := (Kept.refl i w).tended

/-- What is closed stays as it is. -/
theorem Tended.trans (a : i.Tended u v) (b : i.Tended v w) : i.Tended u w := by
  intro s found
  rcases a s found with same | ⟨opened, closed⟩
  · exact b s same
  · rcases b s.shut closed with same | ⟨opened', _⟩
    · exact .inr ⟨opened, same⟩
    · cases opened'

theorem isClosed_eq_standing (i : Isolate ι) (w : World) : i.isClosed w = (i.standing? w).any (·.closed) := by
  unfold isClosed standing?
  cases w.isolate? i.place <;> rfl

/-- What the record of an isolate and the log have of it. -/
theorem of_standing {s : Standing} (found : i.standing? w = some s) : i.isClosed w = s.closed ∧
    (w.isolate? i.place).map (·.releases) = some s.releases ∧
    (w.those (Event.destroys i.id)).length = s.destroyed := by
  rw [isClosed_eq_standing, found]
  obtain ⟨r, record, rfl⟩ := Option.map_eq_some_iff.1 found
  rw [record]
  exact ⟨rfl, rfl, rfl⟩

/-- Nothing that tends an isolate opens it. -/
theorem Tended.closed_of_closed (a : i.Tended v w) (closed : i.isClosed v = true) : i.isClosed w = true := by
  rw [isClosed_eq_standing, Option.any_eq_true] at closed ⊢
  obtain ⟨s, found, yes⟩ := closed
  rcases a s found with same | ⟨opened, _⟩
  · exact ⟨s, same, yes⟩
  · rw [yes] at opened
    cases opened

/-! ## What factories and functions do to it -/

theorem kept_happen (o : Occurrence) (w : World) : i.Kept w (w.happen o) := .refl i w

/-- Being given a source leaves an isolate as it stands. -/
theorem kept_receiving (source : Text) (w : World) : i.Kept w (i.receiving source w) := by
  refine .of_eq ?_
  unfold standing? receiving World.isolate?
  rw [World.happen_isolates, World.updateIsolate_isolates, List.getElem?_modify_eq]
  cases w.isolates[i.place]? <;> rfl

/-- Telling of its end is counted. -/
theorem standing_destroyed {s : Standing} (found : i.standing? w = some s) :
    i.standing? (w.tell (.event (.isolateDestroyed i.id i.purpose))) =
      some { s with destroyed := s.destroyed + 1 } := by
  unfold standing? at found
  obtain ⟨r, record, rfl⟩ := Option.map_eq_some_iff.1 found
  have among : Event.destroys i.id (.isolateDestroyed i.id i.purpose) = true := decide_eq_true rfl
  have told := w.those_tell (Event.destroys i.id) (.isolateDestroyed i.id i.purpose)
  rw [among, if_pos rfl] at told
  have same : (w.tell (.event (.isolateDestroyed i.id i.purpose))).isolate? i.place = some r := record
  rw [standing?, same, told, List.length_append, Option.map_some]
  rfl

section Confined

variable (hF : F.Confined)

include hF

/-- An evaluation does nothing but what its functions do, where nothing comes of records. -/
theorem evaluate_along {R : World → World → Prop} (along : i.functions.Along R) (refl : ∀ w, R w w)
    (trans : ∀ {u v w}, R u v → R v w → R u w) (keep : ∀ w calls refusals, R w { w with calls, refusals })
    {source : Text} (received : ∀ w, R w (i.receiving source w)) (happened : ∀ o w, R w (w.happen o)) (w : World) :
    R w (i.evaluate F source w).2 := by
  by_cases closed : i.isClosed w = true
  · simp only [evaluate, closed, if_true]
    exact refl w
  · rw [Bool.not_eq_true] at closed
    rw [evaluate_of_open closed rfl]
    have ran := (hF.run i.functions source i.core (i.receiving source w)).along along refl trans keep
    exact trans (trans (received w) ran) (happened _ _)

theorem tended_evaluate (tend : i.functions.Along i.Tended) (source : Text) (w : World) :
    i.Tended w (i.evaluate F source w).2 :=
  evaluate_along hF tend (.refl i) .trans (fun w _ _ => .refl i w) (fun w => (kept_receiving source w).tended)
    (fun o w => (kept_happen o w).tended) w

theorem kept_evaluate (keep : i.functions.Along i.Kept) (source : Text) (w : World) :
    i.Kept w (i.evaluate F source w).2 :=
  evaluate_along hF keep (.refl i) .trans (fun w _ _ => .refl i w) (kept_receiving source) kept_happen w

/-- Closing an open isolate lets go of it once and tells of its end once, whatever letting go ends with. -/
theorem standing_close (tend : i.functions.Along i.Tended) {s : Standing} (found : i.standing? w = some s)
    (opened : s.closed = false) : i.standing? (i.close F w).2 = some s.shut := by
  have unclosed : i.isClosed w = false := (of_standing found).1.trans opened
  rw [close_of_open unclosed rfl]
  -- while it is let go of it counts as closed, so that nothing closes it again, but its end is untold
  have counted : i.standing? (i.closing w) = some ⟨true, s.releases + 1, s.destroyed⟩ := by
    unfold standing? World.isolate? at found
    obtain ⟨r, record, rfl⟩ := Option.map_eq_some_iff.1 found
    simp only [standing?, World.isolate?, closing, World.updateIsolate_isolates, World.happen_isolates,
      List.getElem?_modify_eq, record]
    rfl
  have gone : i.Tended (i.closing w) (F.release i.functions i.core (i.closing w)).2 :=
    (hF.release i.functions i.core (i.closing w)).along tend (.refl i) .trans fun w _ _ => .refl i w
  rcases gone _ counted with same | ⟨never, _⟩
  · exact standing_destroyed (kept_happen _ _ _ same)
  · cases never

theorem tended_close (tend : i.functions.Along i.Tended) (w : World) : i.Tended w (i.close F w).2 := by
  intro s found
  cases closed : s.closed with
  | false => exact .inr ⟨rfl, standing_close hF tend found closed⟩
  | true =>
    rw [close_of_closed ((of_standing found).1.trans closed)]
    exact .inl found

theorem isClosed_close (tend : i.functions.Along i.Tended) {s : Standing} (found : i.standing? w = some s) :
    i.isClosed (i.close F w).2 = true := by
  cases closed : s.closed with
  | false => exact (of_standing (standing_close hF tend found closed)).1
  | true => exact (tended_close hF tend w).closed_of_closed ((of_standing found).1.trans closed)

end Confined

/-! ## Using an isolate -/

/-- What is done with an isolate: a block is entered, and left on whatever way, and sources are evaluated and the
isolate is closed inside of blocks or outside. -/
inductive Use where
  | enter
  | evaluate (source : Text)
  | leave
  | close

namespace Use

/-- Whether an isolate is closed afterwards. -/
def closes : Use → Bool
  | enter | evaluate _ => false
  | leave | close => true

/-- What one use ends with. -/
abbrev Ending := Except Fault (Option Evaluation)

/-- Makes use of an isolate. -/
def perform (F : Factory ι) (i : Isolate ι) (w : World) : Use → (Ending × Isolate ι) × World
  | enter => ((.ok none, i), w)
  | evaluate source =>
    let ((r, i), w) := i.evaluate F source w
    ((r.map some, i), w)
  | leave | close =>
    let (r, w) := i.close F w
    ((r.map fun _ => none, i), w)

/-- Makes one use after the other of an isolate, whatever comes of each. -/
def performEach (F : Factory ι) : List Use → Isolate ι → World → (List Ending × Isolate ι) × World
  | [], i, w => (([], i), w)
  | use :: rest, i, w =>
    let ((r, i), w) := use.perform F i w
    let ((rs, i), w) := performEach F rest i w
    ((r :: rs, i), w)

/-- What a use of a closed isolate ends with. -/
def onceClosed (i : Isolate ι) : Use → Ending
  | evaluate _ => .error i.closedFault
  | enter | leave | close => .ok none

/-- On a closed isolate no use does anything, whatever the factory. -/
theorem perform_closed (closed : i.isClosed w = true) (use : Use) :
    use.perform F i w = ((use.onceClosed i, i), w) := by
  cases use with
  | enter => rfl
  | evaluate source => simp [perform, onceClosed, Isolate.evaluate, closed, Except.map]
  | leave => simp [perform, onceClosed, close_of_closed closed, Except.map]
  | close => simp [perform, onceClosed, close_of_closed closed, Except.map]

theorem performEach_closed (closed : i.isClosed w = true) : ∀ uses : List Use,
    performEach F uses i w = ((uses.map (onceClosed i), i), w)
  | [] => rfl
  | use :: rest => by
    rw [performEach, perform_closed closed]
    dsimp only
    rw [performEach_closed closed rest]
    rfl

/-- An isolate after a use is the same but for what it runs on. -/
theorem perform_same (use : Use) (i : Isolate ι) (w : World) :
    ∃ core, (use.perform F i w).1.2 = { i with core } := by
  cases use with
  | evaluate source => exact evaluate_same i source w
  | enter | leave | close => exact ⟨i.core, rfl⟩

theorem performEach_cons_snd (use : Use) (rest : List Use) (i : Isolate ι) (w : World) :
    (performEach F (use :: rest) i w).2 =
      (performEach F rest (use.perform F i w).1.2 (use.perform F i w).2).2 := rfl

theorem performEach_same (uses : List Use) (i : Isolate ι) (w : World) :
    ∃ core, (performEach F uses i w).1.2 = { i with core } := by
  induction uses generalizing i w with
  | nil => exact ⟨i.core, rfl⟩
  | cons use rest ih =>
    obtain ⟨core, same⟩ := perform_same (F := F) use i w
    obtain ⟨core', others⟩ := ih { i with core } (use.perform F i w).2
    rw [← same] at others
    refine ⟨core', others.trans ?_⟩
    rw [same]

/-- What each use leads to, whatever the isolate runs on by then, they all lead to. -/
theorem performEach_along {R : World → World → Prop} (refl : ∀ w, R w w) (trans : ∀ {u v w}, R u v → R v w → R u w)
    {uses : List Use} (each : ∀ use ∈ uses, ∀ (core : ι) (w : World), R w (use.perform F { i with core } w).2)
    (core : ι) (w : World) : R w (performEach F uses { i with core } w).2 := by
  induction uses generalizing core w with
  | nil => exact refl w
  | cons use rest ih =>
    obtain ⟨core', same⟩ := perform_same (F := F) use { i with core } w
    have others := ih (fun use among => each use (.tail _ among)) core' (use.perform F { i with core } w).2
    rw [performEach_cons_snd, same]
    exact trans (each use (.head _) core w) others

section Confined

variable (hF : F.Confined)

include hF

theorem perform_tended (tend : i.functions.Along i.Tended) (use : Use) (w : World) :
    i.Tended w (use.perform F i w).2 := by
  cases use with
  | enter => exact .refl i w
  | evaluate source => exact tended_evaluate hF tend source w
  | leave | close => exact tended_close hF tend w

theorem perform_closes (tend : i.functions.Along i.Tended) {use : Use} (closes : use.closes = true) {s : Standing}
    (found : i.standing? w = some s) : i.isClosed (use.perform F i w).2 = true := by
  cases use with
  | enter | evaluate source => cases closes
  | leave | close => exact isClosed_close hF tend found

theorem perform_kept (keep : i.functions.Along i.Kept) {use : Use} (opens : use.closes = false) (w : World) :
    i.Kept w (use.perform F i w).2 := by
  cases use with
  | enter => exact .refl i w
  | evaluate source => exact kept_evaluate hF keep source w
  | leave | close => cases opens

theorem performEach_tended (tend : i.functions.Along i.Tended) (uses : List Use) (w : World) :
    i.Tended w (performEach F uses i w).2 :=
  performEach_along (.refl i) .trans
    (fun use _ core w => perform_tended (i := { i with core }) hF tend use w) i.core w

theorem performEach_kept (keep : i.functions.Along i.Kept) {uses : List Use} (opens : uses.any Use.closes = false)
    (w : World) : i.Kept w (performEach F uses i w).2 := by
  rw [List.any_eq_false] at opens
  refine performEach_along (.refl i) .trans (fun use among core w => ?_) i.core w
  exact perform_kept (i := { i with core }) hF keep (Bool.eq_false_iff.2 (opens use among)) w

/-- One use that closes it is enough. -/
theorem performEach_closes (tend : i.functions.Along i.Tended) {uses : List Use} (closes : uses.any Use.closes = true)
    {s : Standing} (found : i.standing? w = some s) : i.isClosed (performEach F uses i w).2 = true := by
  induction uses generalizing i w s with
  | nil => cases closes
  | cons use rest ih =>
    obtain ⟨core, same⟩ := perform_same (F := F) use i w
    rw [performEach_cons_snd, same]
    rw [List.any_cons, Bool.or_eq_true] at closes
    rcases closes with this | later
    · -- the uses after it do not open it
      exact (performEach_tended (i := { i with core }) hF tend rest _).closed_of_closed
        (perform_closes hF tend this found)
    · rcases perform_tended hF tend use w s found with same | ⟨_, shut⟩
      · exact ih (i := { i with core }) tend later same
      · exact ih (i := { i with core }) tend later shut

end Confined

end Use

/-- An isolate `i` that was open in `v` has become `j`, which lived as an isolate should. -/
structure Lived (F : Factory ι) (i : Isolate ι) (v : World) (uses : List Use) (j : Isolate ι) (w : World) : Prop where
  /-- It is the same but for what it runs on. -/
  same : ∃ core, j = { i with core }
  /-- What it runs on was let go of once if it is closed, and not at all if it is open. -/
  releases : (w.isolate? i.place).map (·.releases) = some (if j.isClosed w then 1 else 0)
  /-- Its end was told of as often. -/
  destroyed : (w.those (Event.destroys i.id)).length =
    (v.those (Event.destroys i.id)).length + if j.isClosed w then 1 else 0
  /-- Any use that closes it has closed it for good, -/
  closed : uses.any Use.closes = true → j.isClosed w = true
  /-- and nothing else has, if its functions do not. -/
  unclosed : i.functions.Along i.Kept → uses.any Use.closes = false → j.isClosed w = false
  /-- Once it is closed, all evaluations end with the fault of using it, and nothing ever changes the world or it. -/
  done : j.isClosed w = true → ∀ (G : Factory ι) (more : List Use),
    Use.performEach G more j w = ((more.map (Use.onceClosed i), j), w)

/-- An isolate that was just made is open. -/
theorem standing_created {purpose : Text} {functions : Option Functions}
    (created : create F purpose functions v = (.ok i, w)) :
    i.standing? w = some ⟨false, 0, (w.those (Event.destroys i.id)).length⟩ := by
  obtain ⟨core, u, _, rfl, rfl⟩ := create_made created
  unfold standing? World.isolate?
  rw [entered_isolates, List.getElem?_append_right (Nat.le_refl _), Nat.sub_self]
  rfl

/-- On a confined factory every isolate lives as it should from its making on, whatever is done with it, if the
functions of the host do nothing to it but close it at most. -/
theorem performEach_lived (hF : F.Confined) {purpose : Text} {functions : Option Functions}
    (created : create F purpose functions v = (.ok i, w)) (tend : i.functions.Along i.Tended) (uses : List Use) :
    Lived F i w uses (Use.performEach F uses i w).1.2 (Use.performEach F uses i w).2 := by
  have begun := standing_created created
  have tended := Use.performEach_tended hF tend uses w
  have closes : uses.any Use.closes = true → i.isClosed (Use.performEach F uses i w).2 = true :=
    fun any => Use.performEach_closes hF tend any begun
  have kept : i.functions.Along i.Kept → uses.any Use.closes = false → i.Kept w (Use.performEach F uses i w).2 :=
    fun keep opens => Use.performEach_kept hF keep opens w
  obtain ⟨core, same⟩ := Use.performEach_same (F := F) uses i w
  generalize Use.performEach F uses i w = r at same tended closes kept ⊢
  obtain ⟨⟨rs, j⟩, u⟩ := r
  obtain rfl : j = { i with core } := same
  -- it stands as it was made, or is shut
  obtain ⟨closed, found⟩ : ∃ closed : Bool, i.standing? u = some ⟨closed, if closed then 1 else 0,
      (w.those (Event.destroys i.id)).length + if closed then 1 else 0⟩ := by
    rcases tended _ begun with same | ⟨_, shut⟩
    · exact ⟨false, same⟩
    · exact ⟨true, shut⟩
  obtain ⟨isClosed, releases, destroyed⟩ := of_standing found
  refine ⟨⟨core, rfl⟩, ?_, ?_, closes, fun keep none => ?_, fun closed G more => ?_⟩
  · show _ = some (if i.isClosed u then 1 else 0)
    rw [isClosed]
    exact releases
  · show _ = _ + if i.isClosed u then 1 else 0
    rw [isClosed]
    exact destroyed
  · exact (of_standing (kept keep none _ begun)).1
  · exact Use.performEach_closed (i := { i with core }) closed more

end Isolate

/-! ## The functions of a session -/

namespace Session

variable {ι : Type} {F : Factory ι}

/-- A sandbox is not told of as another isolate, since its place comes after all that were made before. -/
theorem those_destroys_sandbox (hF : F.Confined) {i : Isolate ι} {w : World} (known : i.place < w.isolates.length)
    (source : Datum) :
    (Sandbox.evaluate F source w).2.those (Event.destroys i.id) = w.those (Event.destroys i.id) := by
  refine Sandbox.those_evaluate (hF.spares Functions.spare_nil) (fun _ _ => rfl) (fun _ _ => rfl) ?_
  intro j v created
  obtain ⟨core, u, made, rfl, _⟩ := Isolate.create_made created
  -- making an isolate without functions makes no other
  have alike := (hF.make [] _).alike.isolates.symm.trans (congrArg (·.2.isolates) made)
  refine decide_eq_false fun same => ?_
  have place : u.isolates.length = i.place := Isolate.id_injective same
  rw [← place, ← alike] at known
  exact Nat.lt_irrefl _ known

/-- No function of a session does anything to an isolate that was made before. -/
theorem functions_keep (hF : F.Confined) (settings : Settings) (i : Isolate ι) :
    (functions F settings).Along i.Kept := by
  intro f bound arguments w s found
  obtain ⟨r, record, rfl⟩ := Option.map_eq_some_iff.1 found
  have known : i.place < w.isolates.length := (List.getElem?_eq_some_iff.1 record).1
  obtain ⟨c, _, served⟩ := function_served hF bound arguments w
  have kept : (f.2 arguments w).2.isolate? i.place = some r := by
    rw [World.isolate?, served.isolates, List.getElem?_append_left known]
    exact record
  have untold : (f.2 arguments w).2.those (Event.destroys i.id) = w.those (Event.destroys i.id) := by
    simp only [functions, List.mem_cons, List.not_mem_nil, or_false] at bound
    rcases bound with rfl | rfl | rfl
    · rfl
    · rw [recorded_apply, sandboxFunction_snd]
      exact those_destroys_sandbox hF (w := w.happen (.called "sandbox" arguments)) known _
    · rw [recorded_apply, readFunction_snd]
      refine Source.spares_read (p := Event.destroys i.id) (fun e reads => ?_) _ _ _
      cases e with
      | isolateDestroyed => cases reads
      | _ => rfl
  rw [Isolate.standing?, kept, untold]
  rfl

end Session

namespace Isolate

/-- An isolate runs out of memory in a block, cannot be let go of when the block is left, and is used on. -/
theorem performEach_lived_stuck :
    let F := Scripted.factory Sandbox.stuck
    let uses : List Use := [.enter, .evaluate "1", .leave, .close, .evaluate "2"]
    ∃ (i : Isolate Unit) (w : World),
      create F Session.purpose (some (Session.functions F {})) World.blank = (.ok i, w) ∧
      Lived F i w uses (Use.performEach F uses i w).1.2 (Use.performEach F uses i w).2 ∧
      (Use.performEach F uses i w).1.1 = [.ok none, .error (.memory (some "heap exhausted")),
        .error (.running (some "stuck")), .ok none, .error i.closedFault] ∧
      ((Use.performEach F uses i w).2.those (Event.destroys i.id)).length = 1 := by
  intro F uses
  have confined : F.Confined := Scripted.confined Sandbox.stuck
  have lived := performEach_lived confined
    (rfl : create F Session.purpose (some (Session.functions F {})) World.blank =
      (.ok _, _))
    (fun f bound arguments w => (Session.functions_keep confined {} _ f bound arguments w).tended) uses
  refine ⟨_, _, rfl, lived, rfl, ?_⟩
  have told := lived.destroyed
  rw [if_pos (lived.closed rfl)] at told
  exact told

end Isolate

end ScriptHost
