/-
Runs on twins. Two runs are twins if from machines that are twins they come to results that are: the same values
up to the shift, the same things thrown, the same questions to the host. That is kept by every way of putting
runs together. Where the first run is spent nothing is asked of the second, so the first may belong to an engine
that gives up where the second still goes on.
-/
import ScriptHost.Proofs.Script.Twins.Search

namespace ScriptHost.Script

variable {α β γ δ ε ζ : Type}

/-- Results are the same up to a shift, values by way of `f`. -/
inductive Result.Twins (σ : Shift) (f : α → β) : Result α → Result β → Prop
  | value {a : α} {b : β} {m n : Machine} (same : b = f a) (twin : m.Twin σ n) : Twins σ f (.value a m) (.value b n)
  | thrown {v w : Value} {m n : Machine} (same : w = σ.value v) (twin : m.Twin σ n) :
      Twins σ f (.thrown v m) (.thrown w n)
  | spent (m : Machine) (x : Result β) : Twins σ f (.spent m) x
  | ask {q : Question} {next : q.Answer → Result α} {next' : q.Answer → Result β}
      (answered : ∀ r, Twins σ f (next r) (next' r)) : Twins σ f (.ask q next) (.ask q next')

/-- Twin results are followed by twins, if what is done with twin values is twins. -/
theorem Result.Twins.follow {σ : Shift} {f : α → β} {g : γ → δ} {value : α → Machine → Result γ}
    {thrown : Value → Machine → Result γ} {value' : β → Machine → Result δ} {thrown' : Value → Machine → Result δ}
    (hv : ∀ a {m n}, m.Twin σ n → (value a m).Twins σ g (value' (f a) n))
    (ht : ∀ v {m n}, m.Twin σ n → (thrown v m).Twins σ g (thrown' (σ.value v) n)) {x : Result α} {y : Result β}
    (h : x.Twins σ f y) : (x.follow value thrown).Twins σ g (y.follow value' thrown') := by
  induction h with
  | value same twin =>
    subst same
    exact hv _ twin
  | thrown same twin =>
    subst same
    exact ht _ twin
  | spent m x => exact .spent m _
  | ask _ ih => exact .ask ih

/-- Runs that come to the same up to a shift, from machines that are twins. -/
def Run.Twins (σ : Shift) (f : α → β) (x : Run α) (y : Run β) : Prop :=
  ∀ m n : Machine, m.Twin σ n → (x m).Twins σ f (y n)

namespace Run.Twins

open Machine

variable {σ : Shift} {f : α → β} {g : γ → δ} {x : Run α} {y : Run β}

/-! ## Putting runs together -/

theorem pure {a : α} {b : β} (same : b = f a) : Twins σ f (Pure.pure a) (Pure.pure b) := fun _ _ t => .value same t

theorem throwValue (v : Value) : Twins σ f (Run.throwValue v) (Run.throwValue (σ.value v)) := fun _ _ t => .thrown rfl t

/-- Actions that are twins, one after the other. -/
theorem bind {h : α → Run γ} {k : β → Run δ} (hx : Twins σ f x y) (hk : ∀ a, Twins σ g (h a) (k (f a))) :
    Twins σ g (x >>= h) (y >>= k) := by
  intro m n t
  rw [bind_apply, bind_apply]
  exact (hx m n t).follow (fun a _ _ t => hk a _ _ t) fun _ _ _ t => .thrown rfl t

/-- What follows a run with a result that is the same on twins. -/
theorem bind_same {x y : Run α} {h : α → Run γ} {k : α → Run δ} (hx : Twins σ id x y)
    (hk : ∀ a, Twins σ g (h a) (k a)) : Twins σ g (x >>= h) (y >>= k) := hx.bind hk

theorem discard (hx : Twins σ f x y) : Twins σ id (Functor.discard x) (Functor.discard y) :=
  hx.bind fun _ => .pure rfl

theorem ite {c d : Prop} [Decidable c] [Decidable d] {x' : Run α} {y' : Run β} (same : d ↔ c)
    (hx : Twins σ f x y) (hx' : Twins σ f x' y') : Twins σ f (if c then x else x') (if d then y else y') := by
  by_cases here : c
  · rw [if_pos here, if_pos (same.mpr here)]
    exact hx
  · rw [if_neg here, if_neg fun there => here (same.mp there)]
    exact hx'

theorem catching {handle : Value → Run α} {handle' : Value → Run β} (hx : Twins σ f x y)
    (hh : ∀ v, Twins σ f (handle v) (handle' (σ.value v))) :
    Twins σ f (Run.catching x handle) (Run.catching y handle') := by
  intro m n t
  rw [catching_apply, catching_apply]
  exact (hx m n t).follow (fun a _ _ t => .value rfl t) fun v _ _ t => hh v _ _ t

/-- A value or what was thrown. -/
def ended (σ : Shift) (f : α → β) : Except Value α → Except Value β
  | .ok a => .ok (f a)
  | .error v => .error (σ.value v)

theorem attempt (hx : Twins σ f x y) : Twins σ (ended σ f) (Run.attempt x) (Run.attempt y) := by
  intro m n t
  rw [attempt_apply, attempt_apply]
  refine (hx m n t).follow (fun a _ _ t => ?_) fun v _ _ t => ?_
  · exact .value rfl t
  · exact .value rfl t

theorem turns {turn : α → Run (Sum α γ)} {turn' : β → Run (Sum β δ)}
    (ht : ∀ a, Twins σ (Sum.map f g) (turn a) (turn' (f a))) :
    ∀ (n : Nat) (a : α), Twins σ g (Run.turns turn n a) (Run.turns turn' n (f a))
  | 0, _ => fun _ _ _ => .spent _ _
  | n + 1, a => by
    intro m n' t
    rw [turns_succ, turns_succ]
    refine (ht a m n' t).follow (fun s _ _ t => ?_) fun _ _ _ t => .thrown rfl t
    cases s with
    | inl a => exact turns ht n a _ _ t
    | inr b => exact .value rfl t

theorem loop {start : α} {turn : α → Run (Sum α γ)} {turn' : β → Run (Sum β δ)}
    (ht : ∀ a, Twins σ (Sum.map f g) (turn a) (turn' (f a))) :
    Twins σ g (Run.loop start turn) (Run.loop (f start) turn') := turns ht _ _

/-- The same is done for each of a list and for what each stands for. -/
theorem forM_map {h : α → Run PUnit} {k : β → Run PUnit} (hh : ∀ a, Twins σ id (h a) (k (f a))) :
    ∀ as : List α, Twins σ id (as.forM h) ((as.map f).forM k)
  | [] => .pure rfl
  | a :: as => .bind_same (hh a) fun _ => forM_map hh as

theorem forM {h k : α → Run PUnit} (hh : ∀ a, Twins σ id (h a) (k a)) :
    ∀ as : List α, Twins σ id (as.forM h) (as.forM k)
  | [] => .pure rfl
  | a :: as => .bind_same (hh a) fun _ => forM hh as

theorem mapM_map {h : α → Run γ} {k : β → Run γ} (hh : ∀ a, Twins σ id (h a) (k (f a))) (as : List α) :
    Twins σ id (as.mapM h) ((as.map f).mapM k) := by
  have loop : ∀ (as : List α) (acc : List γ),
      Twins σ id (List.mapM.loop h as acc) (List.mapM.loop k (as.map f) acc) := by
    intro as
    induction as with
    | nil => exact fun _ => .pure rfl
    | cons a as ih => exact fun acc => .bind_same (hh a) fun _ => ih _
  exact loop as []

/-! ## Looking and changing -/

/-- A look at twin machines sees what stands for the same. -/
theorem look {p : Machine → α} {q : Machine → β} (same : ∀ {m n}, m.Twin σ n → q n = f (p m)) :
    Twins σ f (Run.look p) (Run.look q) := fun _ _ t => .value (same t) t

theorem change {p q : Machine → Machine} (twin : ∀ {m n}, m.Twin σ n → (p m).Twin σ (q n)) :
    Twins σ id (Run.change p) (Run.change q) := fun _ _ t => .value rfl (twin t)

/-- A question is the same on both, and asked with the same number of readings. -/
theorem ask (q : Question) : Twins σ id (Run.ask q) (Run.ask q) := fun _ _ t =>
  .ask fun _ => .value rfl t

/-- Twins count their readings alike. -/
theorem reading : Twins σ id Run.reading Run.reading := fun _ _ t =>
  .value t.readings { t with readings := congrArg (· + 1) t.readings }

theorem clock : Twins σ id Run.clock Run.clock := .bind_same .reading fun n => .ask (.clock n)

theorem chance : Twins σ id Run.chance Run.chance := .bind_same .reading fun n => .ask (.chance n)

/-- New objects are twins at the places that stand for each other. -/
theorem alloc (o : Obj) : Twins σ σ.ref (Run.alloc o) (Run.alloc (σ.obj o)) := fun _ _ t => .value t.next (t.grown o)

/-- A change that goes along with the shift is made on twin objects. -/
theorem update {p q : Obj → Obj} (same : ∀ o, q (σ.obj o) = σ.obj (p o)) (r : Ref) :
    Twins σ id (Run.update r p) (Run.update (σ.ref r) q) := fun _ _ t => .value rfl (t.updated same r)

theorem object (r : Ref) : Twins σ σ.obj (Run.object r) (Run.object (σ.ref r)) := .look fun t => t.object r

theorem put (r : Ref) (k : Key) (s : Slot) :
    Twins σ id (Run.update r (Obj.put k s)) (Run.update (σ.ref r) (Obj.put k (σ.slot s))) :=
  .update (fun o => (Shift.put_obj k s o).symm) r

theorem place (r : Ref) (k : Key) (s : Slot) :
    Twins σ id (Run.update r (Obj.place k s)) (Run.update (σ.ref r) (Obj.place k (σ.slot s))) :=
  .update (fun o => (Shift.place_obj k s o).symm) r

theorem store (r : Ref) (o : Obj) :
    Twins σ id (Run.update r fun _ => o) (Run.update (σ.ref r) fun _ => σ.obj o) :=
  .update (p := fun _ => o) (q := fun _ => σ.obj o) (fun _ => rfl) r

theorem allocPlain : Twins σ σ.ref Run.allocPlain Run.allocPlain := .alloc _

theorem itemSlots_values (vs : List Value) : ∀ (n : Nat) (acc : List (Key × Slot)),
    Run.itemSlots n (vs.map σ.value) (acc.map σ.entry) = (Run.itemSlots n vs acc).map σ.entry := by
  induction vs with
  | nil => exact fun _ _ => rfl
  | cons v rest ih => exact fun n acc => ih (n + 1) ((Key.ofNat n, .plain v) :: acc)

theorem allocArray (vs : List Value) : Twins σ σ.ref (Run.allocArray vs) (Run.allocArray (vs.map σ.value)) := by
  have slots := itemSlots_values (σ := σ) vs 0 []
  rw [List.map_nil] at slots
  unfold Run.allocArray
  rw [List.length_map, slots]
  exact .alloc { kind := .array vs.length false, parent := some .arrayParent, slots := Run.itemSlots 0 vs [] }

theorem allocError (k : ErrorKind) (message : Text) :
    Twins σ σ.ref (Run.allocError k message) (Run.allocError k message) := by
  cases k <;> exact .alloc _

theorem throwNew (k : ErrorKind) (message : Text) : Twins σ f (Run.throwNew k message) (Run.throwNew k message) :=
  .bind (.allocError k message) fun r => .throwValue (.object r)

theorem typeError (message : Text) : Twins σ f (Run.typeError message) (Run.typeError message) := .throwNew _ _

theorem rangeError (message : Text) : Twins σ f (Run.rangeError message) (Run.rangeError message) := .throwNew _ _

theorem tooDeep : Twins σ f (Run.tooDeep) (Run.tooDeep) := .rangeError _

/-! ## Scopes -/

theorem scope (r : ScopeRef) : Twins σ σ.scope (Run.scope r) (Run.scope (σ.scopeRef r)) := .look fun t => t.scope r

theorem allocScope (s : Scope) : Twins σ σ.scopeRef (Run.allocScope s) (Run.allocScope (σ.scope s)) := by
  intro m n t
  refine .value t.nextScope { t with
    outermost := by rw [Array.size_push]; exact Nat.le_succ_of_le t.outermost
    lowScopes := by rw [Array.size_push]; exact Nat.le_succ_of_le t.lowScopes
    sizeScopes := by rw [Array.size_push, Array.size_push, t.sizeScopes]; omega
    scope := fun r => ?_ }
  by_cases new : r = ⟨m.scopes.size⟩
  · rw [new, ← t.nextScope]
    simp [Machine.scope]
  · have other : σ.scopeRef r ≠ ⟨n.scopes.size⟩ := by
      rw [t.nextScope]
      exact fun same => new (Shift.scopeRef_injective same)
    have before : ∀ {l : Machine} {q : ScopeRef} (s : Scope), q ≠ ⟨l.scopes.size⟩ →
        ({ l with scopes := l.scopes.push s } : Machine).scope q = l.scope q := by
      intro l q s ne
      have ne : q.index ≠ l.scopes.size := fun same => ne (by cases q; exact congrArg ScopeRef.mk same)
      simp [Machine.scope, Array.getElem?_push, ne]
    rw [before s new, before _ other, t.scope]

theorem changeBindings {p q : List Binding → List Binding}
    (same : ∀ bs, q (bs.map σ.binding) = (p bs).map σ.binding) (r : ScopeRef) :
    Twins σ id (Run.changeBindings r p) (Run.changeBindings (σ.scopeRef r) q) := by
  refine .change fun {m n} t => { t with
    outermost := by rw [Array.size_modify]; exact t.outermost
    lowScopes := by rw [Array.size_modify]; exact t.lowScopes
    sizeScopes := by rw [Array.size_modify, Array.size_modify]; exact t.sizeScopes
    scope := fun s => ?_ }
  have changed : ∀ (l : Machine) (a b : ScopeRef) (h : Scope → Scope), h .global = .global →
      ({ l with scopes := l.scopes.modify a.index h } : Machine).scope b =
        if a = b then h (l.scope b) else l.scope b := by
    intro l a b h global
    simp only [Machine.scope, Array.getElem?_modify]
    by_cases here : a = b
    · subst here
      rw [if_pos rfl, if_pos rfl]
      cases l.scopes[a.index]?
      · exact global.symm
      · rfl
    · have other : a.index ≠ b.index := fun same => here (by cases a; cases b; exact congrArg ScopeRef.mk same)
      rw [if_neg here, if_neg other]
  rw [changed _ _ _ _ rfl, changed _ _ _ _ rfl, t.scope]
  by_cases here : r = s
  · subst here
    rw [if_pos rfl, if_pos rfl]
    cases m.scope r with
    | names bs outer => simp only [Shift.scope, same]
    | _ => rfl
  · rw [if_neg here, if_neg fun same => here (Shift.scopeRef_injective same)]

theorem bindName (r : ScopeRef) (n : Utf16) (v : Value) :
    Twins σ id (Run.bindName r n v) (Run.bindName (σ.scopeRef r) n (σ.value v)) :=
  .changeBindings (Shift.rebind_bindings n v) r

theorem addBinding (r : ScopeRef) (b : Binding) :
    Twins σ id (Run.changeBindings r (Engine.addBinding b))
      (Run.changeBindings (σ.scopeRef r) (Engine.addBinding (σ.binding b))) :=
  .changeBindings (Shift.addBinding_bindings b) r

/-! ## Results of programs -/

theorem getResult : Twins σ σ.value (Run.look (·.result)) (Run.look (·.result)) := .look fun t => t.result

theorem setResult (v : Value) : Twins σ id (Run.change fun m => { m with result := v })
    (Run.change fun m => { m with result := σ.value v }) := .change fun t => { t with result := rfl }

end Run.Twins

/-! ## Looks at objects and scopes -/

namespace Engine

/-- Engines know the same functions of the host, which stay where they are. -/
structure Binds (σ : Shift) (e d : Engine) : Prop where
  bindings : d.bindings = e.bindings
  stay : ∀ b ∈ e.bindings, σ.ref b.2 = b.2

namespace Binds

variable {σ : Shift} {e d : Engine} {m n : Machine} (b : Binds σ e d) (t : m.Twin σ n)
include b t

theorem own? (r : Ref) (k : Key) : d.own? n (σ.ref r) k = (e.own? m r k).map σ.slot := by
  unfold Engine.own?
  rw [t.object, Shift.own?_obj, b.bindings]
  rcases (m.object r).own? k with _ | s
  · simp only [Option.map_none, Shift.ref_global]
    split
    · rcases found : e.bindings.find? (·.1 = k) with _ | ⟨k', f⟩
      · rw [found]
        rfl
      · rw [found]
        simp [Shift.slot, Shift.value, b.stay _ (List.mem_of_find?_eq_some found)]
    · rfl
  · rfl

/-- A search along parents ends alike, though there are more objects to be passed on one machine. -/
theorem find? (r : Ref) (k : Key) : d.find? n (σ.ref r) k = (e.find? m r k).map (Prod.map σ.ref σ.slot) := by
  rw [Engine.find?, Engine.find?, findUpTo_eq_seek, findUpTo_eq_seek, t.size,
    seek_map (parentAt m) (fun r => (e.own? m r k).map (r, ·)) (g := Prod.map σ.ref σ.slot)]
  · rw [Nat.add_right_comm, seek_enough index_injective fun _ _ => parentAt_inside]
  · intro r
    rw [parentAt, t.object]
    rfl
  · intro r
    rw [b.own? t]
    cases e.own? m r k <;> rfl

theorem ownKeys (r : Ref) : d.ownKeys n (σ.ref r) = e.ownKeys m r := by
  simp only [Engine.ownKeys, t.object, Shift.ownKeys_obj, b.bindings, Shift.ref_global]

theorem enumerableKeys (r : Ref) : d.enumerableKeys n (σ.ref r) = e.enumerableKeys m r := by
  simp only [Engine.enumerableKeys, b.ownKeys t, b.own? t, Option.any_map, Shift.enumerable_slot]

/-- A loop over the keys of twins takes the same keys. -/
theorem loopKeys (r : Ref) : d.loopKeys n (n.heap.size + 1) (σ.ref r) [] = e.loopKeys m (m.heap.size + 1) r [] := by
  have step : ∀ (k : Nat) (r : Ref) (seen : List Key), d.loopKeys n k (σ.ref r) seen = e.loopKeys m k r seen := by
    intro k
    induction k with
    | zero => exact fun _ _ => rfl
    | succ k ih =>
      intro r seen
      rw [Engine.loopKeys, Engine.loopKeys, t.object, b.enumerableKeys t, b.ownKeys t, Shift.obj]
      rcases (m.object r).parent with _ | p
      · rfl
      · simp only [Option.map_some, ih]
  rw [step, t.size, Nat.add_right_comm, loopKeys_enough]

/-- A name is held alike. -/
theorem holder (r : ScopeRef) (x : Utf16) (k : Key) :
    d.holderUpTo n x k (n.scopes.size + 1) (σ.scopeRef r) =
      (match e.holderUpTo m x k (m.scopes.size + 1) r with
        | .binding s b => .binding (σ.scopeRef s) (σ.binding b)
        | .property r => .property (σ.ref r)
        | .nowhere => .nowhere) := by
  let shifted : Holder → Holder := fun h => match h with
    | .binding s b => .binding (σ.scopeRef s) (σ.binding b)
    | .property r => .property (σ.ref r)
    | .nowhere => .nowhere
  have global : (σ.ref .global) = .global := rfl
  rw [holderUpTo_eq_seek, holderUpTo_eq_seek, t.sizeScopes,
    seek_map (outerAt m) (heldAt e m x k) (g := shifted)]
  · rw [Nat.add_right_comm, seek_enough scopeIndex_injective fun _ _ => outerAt_inside]
    cases seek (outerAt m) (heldAt e m x k) (m.scopes.size + 1) r <;> rfl
  · intro r
    rw [outerAt, outerAt, t.scope]
    cases m.scope r <;> rfl
  · intro r
    rw [heldAt, heldAt, t.scope]
    rcases m.scope r with ⟨bs, outer⟩ | ⟨o, outer⟩ | _
    · simp only [Shift.scope, Shift.binding?_bindings]
      cases Scope.binding? bs x <;> rfl
    · simp only [Shift.scope, b.find? t, Option.isSome_map]
      split <;> rfl
    · have found := b.find? t .global k
      rw [global] at found
      simp only [Shift.scope, found, Option.isSome_map]
      split <;> rfl

end Binds

theorem isAncestor_twin {σ : Shift} {m n : Machine} (t : m.Twin σ n) (parent r : Ref) :
    isAncestor n (σ.ref parent) (n.heap.size + 1) (σ.ref r) = isAncestor m parent (m.heap.size + 1) r := by
  have step : ∀ r, parentAt n (σ.ref r) = (parentAt m r).map σ.ref := by
    intro r
    rw [parentAt, t.object]
    rfl
  rw [isAncestor_eq_seek, isAncestor_eq_seek, t.size, seek_map (parentAt m)
    (fun r => if parentAt m r = some parent then some () else none) (g := id) step]
  · rw [Nat.add_right_comm, seek_enough index_injective fun _ _ => parentAt_inside, Option.map_id_fun, id]
  · intro r
    rw [step]
    rcases parentAt m r with _ | p
    · rfl
    · simp only [Option.map_some, Option.some.injEq, Shift.ref_eq]
      split <;> rfl

theorem likes_twin {σ : Shift} {m n : Machine} (t : m.Twin σ n) (r : Ref) : likes n (σ.ref r) = likes m r := by
  have parent : σ.ref .dateParent = .dateParent := rfl
  have inherits := isAncestor_twin t .dateParent r
  have here : (σ.ref r = .dateParent) = (r = .dateParent) := by
    nth_rewrite 1 [← parent]
    rw [Shift.ref_eq]
  rw [parent] at inherits
  simp only [likes, inherits, here]

end Engine

/-! ## Engines -/

/-- The parts of two engines that refer to each other are twins. -/
structure Engine.Twins (σ : Shift) (e d : Engine) : Prop extends Engine.Binds σ e d where
  call : ∀ callee this args, Run.Twins σ σ.value (e.call callee this args)
    (d.call (σ.value callee) (σ.value this) (args.map σ.value))
  construct : ∀ callee args, Run.Twins σ σ.value (e.construct callee args)
    (d.construct (σ.value callee) (args.map σ.value))
  eval : ∀ frame x, Run.Twins σ σ.value (e.eval frame x) (d.eval (σ.frame frame) x)
  exec : ∀ frame s, Run.Twins σ σ.completion (e.exec frame s) (d.exec (σ.frame frame) s)
  json : ∀ rule around holder k v, Run.Twins σ id (e.json rule around holder k v)
    (d.json (σ.rule rule) (around.map σ.ref) (σ.value holder) k (σ.value v))

end ScriptHost.Script
