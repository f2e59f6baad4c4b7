/-
What the evaluator never does to a machine. Objects and scopes are only ever added, and what kind of thing
each of them is stays: a function is the same function for good, a list stays a list, a promise a promise.
A property that holds an object stays as well where it can be neither changed nor removed.
`Machine.Later` says so of two machines, and `Run.Ages` that a run leads from every machine to later ones,
whatever it ends with and whatever the host answers on the way. That is kept by every way of putting runs
together.
-/
import ScriptHost.Proofs.Script.Slots
import ScriptHost.Script.Engine

namespace ScriptHost.Script

/-- What of a scope never changes: all but its bindings. -/
def Scope.shape : Scope → Scope
  | .names _ outer => .names [] outer
  | s => s

/-! ## Later machines -/

namespace Machine

/-- The scope at a reference. -/
def scope (m : Machine) (r : ScopeRef) : Scope := m.scopes[r.index]?.getD .global

/-- `n` has every object and scope of `m`, of the same kind and shape and with what is fixed. -/
structure Later (m n : Machine) : Prop where
  kinds : ∀ r : Ref, r.index < m.heap.size →
    r.index < n.heap.size ∧ (n.object r).kind.sort = (m.object r).kind.sort
  fixed : ∀ {r : Ref} {k : Key} {f : Ref} {en : Bool},
    (m.object r).Fixes k f en → (n.object r).Fixes k f en
  shapes : ∀ r : ScopeRef, r.index < m.scopes.size →
    r.index < n.scopes.size ∧ (n.scope r).shape = (m.scope r).shape

namespace Later

variable {l m n : Machine}

theorem refl (m : Machine) : m.Later m := ⟨fun _ h => ⟨h, rfl⟩, id, fun _ h => ⟨h, rfl⟩⟩

theorem trans (a : l.Later m) (b : m.Later n) : l.Later n where
  kinds r h :=
    have ⟨h', same⟩ := a.kinds r h
    have ⟨h'', same'⟩ := b.kinds r h'
    ⟨h'', same'.trans same⟩
  fixed fixes := b.fixed (a.fixed fixes)
  shapes r h :=
    have ⟨h', same⟩ := a.shapes r h
    have ⟨h'', same'⟩ := b.shapes r h'
    ⟨h'', same'.trans same⟩

theorem size (a : m.Later n) : m.heap.size ≤ n.heap.size := by
  by_contra short
  exact Nat.lt_irrefl _ (a.kinds ⟨n.heap.size⟩ (Nat.lt_of_not_le short)).1

/-- An object that is not there fixes nothing. -/
theorem lt_of_fixes {r f : Ref} {k : Key} {en : Bool} (fixes : (m.object r).Fixes k f en) :
    r.index < m.heap.size := by
  by_contra out
  rw [object, Array.getElem?_eq_none (Nat.le_of_not_lt out)] at fixes
  cases fixes

/-- Only what waits and what was left behind has changed. -/
theorem of_parts (heap : n.heap = m.heap) (scopes : n.scopes = m.scopes) : m.Later n where
  kinds r h := ⟨heap ▸ h, by rw [object, object, heap]⟩
  fixed {r} _ _ _ fixes := by
    rw [object, heap]
    exact fixes
  shapes r h := ⟨scopes ▸ h, by rw [scope, scope, scopes]⟩

theorem grown (o : Obj) (m : Machine) : m.Later (m.grown o) where
  kinds r h := by
    refine ⟨?_, by rw [object_grown o h]⟩
    rw [grown_size]
    exact Nat.lt_succ_of_lt h
  fixed fixes := by
    rw [object_grown o (lt_of_fixes fixes)]
    exact fixes
  shapes _ h := ⟨h, rfl⟩

/-- A changed object is what it can become. -/
theorem update {r : Ref} {f : Obj → Obj} (m : Machine) (becomes : (m.object r).Becomes (f (m.object r))) :
    m.Later (m.updated r f) where
  kinds q h := by
    refine ⟨by simpa using h, ?_⟩
    by_cases here : q = r
    · subst here
      rw [updated_object f h, becomes.sort]
    · rw [updated_object_of_ne f here]
  fixed {q} _ _ _ fixes := by
    by_cases here : q = r
    · subst here
      rw [updated_object f (lt_of_fixes fixes)]
      exact becomes.fixes fixes
    · rw [updated_object_of_ne f here]
      exact fixes
  shapes _ h := ⟨h, rfl⟩

/-- An object that came later than `m` can be changed at will. -/
theorem update_new (a : m.Later n) {r : Ref} (new : m.heap.size ≤ r.index) (f : Obj → Obj) :
    m.Later (n.updated r f) where
  kinds q h := by
    have other : q ≠ r := fun same => Nat.not_le_of_lt h (same ▸ new)
    rw [updated_object_of_ne f other, updated_size]
    exact a.kinds q h
  fixed {q} _ _ _ fixes := by
    have other : q ≠ r := fun same => Nat.not_le_of_lt (lt_of_fixes fixes) (same ▸ new)
    rw [updated_object_of_ne f other]
    exact a.fixed fixes
  shapes := a.shapes

/-- Under a key that fixes nothing on `m`, everything can be put. -/
theorem update_put (a : m.Later n) {r : Ref} {k : Key} (free : ∀ f en, ¬ (m.object r).Fixes k f en) (s : Slot) :
    m.Later (n.updated r (Obj.put k s)) where
  kinds q h := by
    obtain ⟨there, same⟩ := a.kinds q h
    rw [updated_size]
    refine ⟨there, ?_⟩
    by_cases here : q = r
    · subst here
      rw [updated_object _ there, Obj.put_kind, same]
    · rw [updated_object_of_ne _ here, same]
  fixed {q} l f en fixes := by
    have kept := a.fixed fixes
    by_cases here : q = r
    · subst here
      have other : l ≠ k := fun same => free f en (same ▸ fixes)
      rw [updated_object _ (lt_of_fixes kept), Obj.Fixes, Obj.own?_put_of_ne other]
      exact kept
    · rw [updated_object_of_ne _ here]
      exact kept
  shapes := a.shapes

theorem addScope (s : Scope) (m : Machine) : m.Later { m with scopes := m.scopes.push s } where
  kinds _ h := ⟨h, rfl⟩
  fixed := id
  shapes r h := by
    refine ⟨?_, ?_⟩
    · rw [Array.size_push]
      exact Nat.lt_succ_of_lt h
    · simp [scope, Array.getElem?_push, Nat.ne_of_lt h]

/-- The bindings of a scope may change, as long as it is one of the same shape. -/
theorem changeScope {r : ScopeRef} {f : Scope → Scope} (m : Machine) (same : ∀ s, (f s).shape = s.shape) :
    m.Later { m with scopes := m.scopes.modify r.index f } where
  kinds _ h := ⟨h, rfl⟩
  fixed := id
  shapes q h := by
    refine ⟨by simpa using h, ?_⟩
    by_cases here : r.index = q.index
    · simp [scope, Array.getElem?_modify, here, Array.getElem?_eq_getElem h, same]
    · simp [scope, Array.getElem?_modify, here]

/-! ## What stays -/

/-- A function stays the function that it is. -/
theorem native (a : m.Later n) {r : Ref} {f : Native} (kind : (m.object r).kind = .native f) :
    (n.object r).kind = .native f := by
  have same := (a.kinds r (lt_of_kind (by rw [kind]; nofun))).2
  rw [kind] at same
  cases h : (n.object r).kind <;> rw [h] at same <;> cases same
  rfl

/-- A list stays a list. -/
theorem array (a : m.Later n) {r : Ref} {length : Nat} {fixed : Bool}
    (kind : (m.object r).kind = .array length fixed) :
    ∃ length fixed, (n.object r).kind = .array length fixed := by
  have same := (a.kinds r (lt_of_kind (by rw [kind]; nofun))).2
  rw [kind] at same
  cases h : (n.object r).kind <;> rw [h] at same <;> cases same
  exact ⟨_, _, rfl⟩

/-- A promise stays a promise. -/
theorem promise (a : m.Later n) {r : Ref} {s : PromiseState} (kind : (m.object r).kind = .promise s) :
    ∃ s, (n.object r).kind = .promise s := by
  have same := (a.kinds r (lt_of_kind (by rw [kind]; nofun))).2
  rw [kind] at same
  cases h : (n.object r).kind <;> rw [h] at same <;> cases same
  exact ⟨_, rfl⟩

/-- A scope of names stays one. -/
theorem names (a : m.Later n) {r : ScopeRef} {bs : List Binding} {outer : ScopeRef}
    (names : m.scope r = .names bs outer) : ∃ bs, n.scope r = .names bs outer := by
  have there : r.index < m.scopes.size := by
    by_contra out
    rw [scope, Array.getElem?_eq_none (Nat.le_of_not_lt out)] at names
    cases names
  have same := (a.shapes r there).2
  rw [names] at same
  cases h : n.scope r <;> rw [h] at same <;> cases same
  exact ⟨_, rfl⟩

/-- The outermost scope stays that of the global object. -/
theorem global (a : m.Later n) (scope : m.scopes[0]? = some .global) : n.scopes[0]? = some .global := by
  have there : 0 < m.scopes.size := (Array.getElem?_eq_some_iff.mp scope).1
  obtain ⟨there', same⟩ := a.shapes .global there
  have at_m : m.scope .global = .global := by rw [Machine.scope, ScopeRef.global, scope]; rfl
  have at_n : n.scopes[0]? = some (n.scope .global) := by
    rw [Machine.scope, Array.getElem?_eq_getElem there']
    exact Array.getElem?_eq_getElem there'
  rw [at_m] at same
  cases shape : n.scope .global <;> rw [shape] at same <;> cases same
  rw [at_n, shape]

end Later

end Machine

/-! ## Ends of runs -/

/-- Every machine that a script can leave has a property, whatever the host answers. -/
def Result.Ends {α : Type} (P : Machine → Prop) : Result α → Prop
  | .value _ m => P m
  | .thrown _ m => P m
  | .spent m => P m
  | .ask _ next => ∀ r, (next r).Ends P

namespace Result.Ends

variable {α β σ : Type} {P Q : Machine → Prop}

theorem mono (h : ∀ m, P m → Q m) : ∀ {x : Result α}, x.Ends P → x.Ends Q
  | .value _ m, ends => h m ends
  | .thrown _ m, ends => h m ends
  | .spent m, ends => h m ends
  | .ask _ _, ends => fun r => mono h (ends r)

/-- What follows ends well where both ways on do. -/
theorem follow {value : α → Machine → Result β} {thrown : Value → Machine → Result β}
    (hv : ∀ a m, P m → (value a m).Ends Q) (ht : ∀ v m, P m → (thrown v m).Ends Q)
    (hs : ∀ m, P m → Q m) : ∀ {x : Result α}, x.Ends P → (x.follow value thrown).Ends Q
  | .value a m, ends => hv a m ends
  | .thrown v m, ends => ht v m ends
  | .spent m, ends => hs m ends
  | .ask _ _, ends => fun r => follow hv ht hs (ends r)

/-- The machine that is left when a host has answered. -/
theorem settle {host : Host σ} :
    ∀ {x : Result α} {w : σ}, x.Ends P → P (x.settle host w).2.1
  | .value _ _, _, ends => ends
  | .thrown _ _, _, ends => ends
  | .spent _, _, ends => ends
  | .ask q next, w, ends =>
    settle (x := next (host q w).1) (ends (host q w).1)

end Result.Ends

/-- A run leads from machines later than `m` to machines later than `m`; what came after `m` it can
change at will. -/
def Run.AgesFrom {α : Type} (m : Machine) (x : Run α) : Prop := ∀ n, m.Later n → (x n).Ends m.Later

/-- A run leads from a machine to later ones only. -/
def Run.AgesAt {α : Type} (x : Run α) (m : Machine) : Prop := (x m).Ends m.Later

/-- A run leads from every machine to later ones only. -/
def Run.Ages {α : Type} (x : Run α) : Prop := ∀ m, x.AgesAt m

namespace Run

open Machine

variable {α β : Type} {x : Run α}

theorem catching_apply (x : Run α) (handle : Value → Run α) (m : Machine) :
    catching x handle m = (x m).follow .value handle := by
  unfold catching
  cases x m <;> rfl

theorem attempt_apply (x : Run α) (m : Machine) :
    attempt x m = (x m).follow (fun a => .value (.ok a)) (fun v => .value (.error v)) := by
  unfold attempt
  cases x m <;> rfl

/-- A turn, and then the others. -/
theorem turns_succ (turn : α → Run (Sum α β)) (n : Nat) (a : α) (m : Machine) :
    turns turn (n + 1) a m = (turn a m).follow (fun s m => match s with
      | .inl a => turns turn n a m
      | .inr b => .value b m) .thrown := by
  rw [turns]
  dsimp only
  rcases turn a m with ⟨_ | _, _⟩ | _ | _ | _ <;> rfl

namespace AgesAt

variable {m : Machine}

/-- What follows begins on a later machine. -/
theorem bind {f : α → Run β} (hx : x.AgesAt m) (hf : ∀ a n, m.Later n → (f a).AgesAt n) :
    (x >>= f).AgesAt m := by
  rw [AgesAt, bind_apply]
  refine Result.Ends.follow (P := m.Later) (fun a n l => ?_) (fun _ _ l => ?_) (fun _ l => l) hx
  · exact (hf a n l).mono fun _ => l.trans
  · exact l

theorem update {r : Ref} {f : Obj → Obj} (becomes : (m.object r).Becomes (f (m.object r))) :
    (Run.update r f).AgesAt m := Later.update m becomes

/-- What follows a look at the machine begins on the same machine. -/
theorem look {g : Machine → β} {f : β → Run α} (hf : (f (g m)).AgesAt m) : (Run.look g >>= f).AgesAt m := by
  rw [AgesAt, bind_apply, look_apply, Result.follow_value]
  exact hf

theorem object {r : Ref} {f : Obj → Run α} (hf : (f (m.object r)).AgesAt m) :
    (Run.object r >>= f).AgesAt m := by
  rw [AgesAt, bind_apply, object_apply, Result.follow_value]
  exact hf

end AgesAt

namespace Ages

theorem pure (a : α) : (Pure.pure a : Run α).Ages := Later.refl

theorem throwValue (v : Value) : (Run.throwValue v : Run α).Ages := Later.refl

theorem look (f : Machine → α) : (Run.look f).Ages := Later.refl

theorem change {f : Machine → Machine} (hf : ∀ m : Machine, m.Later (f m)) : (Run.change f).Ages := hf

theorem ask (q : Question) : (Run.ask q).Ages := fun m _ => Later.refl m


theorem bind {f : α → Run β} (hx : x.Ages) (hf : ∀ a, (f a).Ages) : (x >>= f).Ages := fun m =>
  (hx m).bind fun a n _ => hf a n

/-- Readings change nothing but their number. -/
theorem reading : Run.reading.Ages := fun _ => Later.of_parts rfl rfl

theorem clock : Run.clock.Ages := .bind .reading fun _ => .ask _

theorem chance : Run.chance.Ages := .bind .reading fun _ => .ask _

theorem discard (hx : x.Ages) : (Functor.discard x).Ages := hx.bind fun _ => .pure _

/-- What is thrown may be handled. -/
theorem catching {handle : Value → Run α} (hx : x.Ages) (hh : ∀ v, (handle v).Ages) :
    (Run.catching x handle).Ages := by
  intro m
  rw [AgesAt, catching_apply]
  refine Result.Ends.follow (P := m.Later) (fun _ _ l => ?_) (fun v n l => ?_) (fun _ l => l) (hx m)
  · exact l
  · exact (hh v n).mono fun _ => l.trans

theorem attempt (hx : x.Ages) : (Run.attempt x).Ages := by
  intro m
  rw [AgesAt, attempt_apply]
  refine Result.Ends.follow (P := m.Later) (fun _ _ l => ?_) (fun _ _ l => ?_) (fun _ l => l) (hx m)
  · exact l
  · exact l

/-- Turn by turn, of which there is only a given number. -/
theorem turns {turn : α → Run (Sum α β)} (ht : ∀ a, (turn a).Ages) :
    ∀ (n : Nat) (a : α), (Run.turns turn n a).Ages
  | 0, _ => Later.refl
  | n + 1, a => by
    intro m
    rw [AgesAt, turns_succ]
    refine Result.Ends.follow (P := m.Later) (fun s n' l => ?_) (fun _ _ l => ?_) (fun _ l => l) (ht a m)
    · cases s with
      | inl a => exact (turns ht n a n').mono fun _ => l.trans
      | inr b => exact l
    · exact l

theorem loop {start : α} {turn : α → Run (Sum α β)} (ht : ∀ a, (turn a).Ages) :
    (Run.loop start turn).Ages := turns ht _ _

theorem forM {f : α → Run PUnit} (hf : ∀ a, (f a).Ages) : ∀ as : List α, (as.forM f).Ages
  | [] => .pure _
  | a :: as => .bind (hf a) fun _ => forM hf as

theorem mapM {f : α → Run β} (hf : ∀ a, (f a).Ages) (as : List α) : (as.mapM f).Ages := by
  have loop : ∀ (as : List α) (acc : List β), (List.mapM.loop f as acc).Ages := by
    intro as
    induction as with
    | nil => exact fun _ => .pure _
    | cons a as ih => exact fun acc => .bind (hf a) fun _ => ih _
  exact loop as []

/-! ## The heap and the scopes -/

/-- A new object leaves those before it as they are. -/
theorem alloc (o : Obj) : (Run.alloc o).Ages := Later.grown o

theorem update {f : Obj → Obj} (r : Ref) (hf : ∀ o : Obj, o.Becomes (f o)) :
    (Run.update r f).Ages := fun m => Later.update m (hf (m.object r))

theorem object (r : Ref) : (Run.object r).Ages := .look _

theorem allocPlain : Run.allocPlain.Ages := .alloc _

theorem allocArray (vs : List Value) : (Run.allocArray vs).Ages := .alloc _

theorem throwNew (k : ErrorKind) (message : Text) : (Run.throwNew k message : Run α).Ages :=
  .bind (.alloc _) fun _ => .throwValue _

theorem typeError (message : Text) : (Run.typeError message : Run α).Ages := .throwNew _ _

theorem rangeError (message : Text) : (Run.rangeError message : Run α).Ages := .throwNew _ _

theorem tooDeep : (Run.tooDeep : Run α).Ages := .rangeError _

theorem allocScope (s : Scope) : (Run.allocScope s).Ages := Later.addScope s

theorem scope (r : ScopeRef) : (Run.scope r).Ages := .look _

/-- What names of a scope are bound to may change. -/
theorem changeBindings (r : ScopeRef) (f : List Binding → List Binding) :
    (Run.changeBindings r f).Ages := fun m =>
  Later.changeScope m fun s => by cases s <;> rfl

theorem bindName (r : ScopeRef) (n : Utf16) (v : Value) : (Run.bindName r n v).Ages :=
  .changeBindings r _

end Ages

/-! ## Objects under construction -/

namespace AgesFrom

variable {m : Machine} {o : Obj}

theorem of_ages (hx : x.Ages) : x.AgesFrom m := fun n l => (hx n).mono fun _ => l.trans

theorem ages (hx : ∀ m, x.AgesFrom m) : x.Ages := fun m => hx m m (.refl m)

theorem bind {f : α → Run β} (hx : x.AgesFrom m) (hf : ∀ a, (f a).AgesFrom m) : (x >>= f).AgesFrom m := by
  intro n l
  rw [bind_apply]
  refine Result.Ends.follow (P := m.Later) (fun a n l => hf a n l) (fun _ _ l => ?_) (fun _ l => l) (hx n l)
  exact l

theorem update {r : Ref} (new : m.heap.size ≤ r.index) (f : Obj → Obj) : (Run.update r f).AgesFrom m :=
  fun _ l => l.update_new new f

/-- A property that is not fixed may be put. -/
theorem put {r : Ref} {k : Key} (free : ∀ f en, ¬ (m.object r).Fixes k f en) (s : Slot) :
    (Run.update r (Obj.put k s)).AgesFrom m := fun _ l => l.update_put free s

theorem forM {f : α → Run PUnit} : ∀ {as : List α}, (∀ a ∈ as, (f a).AgesFrom m) → (as.forM f).AgesFrom m
  | [], _ => of_ages (.pure _)
  | a :: _, hf => .bind (hf a List.mem_cons_self) fun _ =>
      forM fun b among => hf b (List.mem_cons_of_mem a among)

/-- An object that is made now is newer than `m`. -/
theorem alloc {f : Ref → Run α} (hf : ∀ r : Ref, m.heap.size ≤ r.index → (f r).AgesFrom m) :
    (Run.alloc o >>= f).AgesFrom m := fun n l => by
  rw [bind_apply]
  exact hf n.next l.size (n.grown o) (l.trans (.grown o n))

end AgesFrom

/-- What is done with an object that is made now may change that object at will. -/
theorem Ages.construct {o : Obj} {f : Ref → Run α}
    (hf : ∀ (m : Machine) (r : Ref), m.heap.size ≤ r.index → (f r).AgesFrom m) :
    (Run.alloc o >>= f).Ages := AgesFrom.ages fun m => .alloc (hf m)

end Run

/-- The parts of an engine that refer to each other lead to later machines. -/
structure Engine.Ages (e : Engine) : Prop where
  call : ∀ callee this args, (e.call callee this args).Ages
  construct : ∀ callee args, (e.construct callee args).Ages
  eval : ∀ frame x, (e.eval frame x).Ages
  exec : ∀ frame s, (e.exec frame s).Ages
  json : ∀ rule around holder k v, (e.json rule around holder k v).Ages

end ScriptHost.Script
