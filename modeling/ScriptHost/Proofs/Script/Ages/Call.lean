/-
The rest of the functions that every script finds age, and so does calling and constructing: JSON, promises
with their jobs, and calls on the host. Settling a promise and using a latch change the state of an object
that is of that kind already, so these begin with its kind.
-/
import ScriptHost.Proofs.Script.Ages.Date

namespace ScriptHost.Script

open Run (Ages AgesAt)

/-! ## JSON -/

namespace Json

mutual

/-- A tree is made of new objects. -/
theorem ages_toValue : ∀ j : Json, j.toValue.Ages
  | null => .pure _
  | bool _ => .pure _
  | number _ => .pure _
  | string _ => .pure _
  | array items => .bind (ages_toValues items) fun _ => .bind (.allocArray _) fun _ => .pure _
  | object entries => .construct fun _ _ new => .bind (agesFrom_fill new entries) fun _ => .of_ages (.pure _)

theorem ages_toValues : ∀ js : List Json, (toValues js).Ages
  | [] => .pure _
  | j :: rest => .bind (ages_toValue j) fun _ => .bind (ages_toValues rest) fun _ => .pure _

theorem agesFrom_fill {m : Machine} {r : Ref} (new : m.heap.size ≤ r.index) :
    ∀ entries : List (Utf16 × Json), (fill r entries).AgesFrom m
  | [] => .of_ages (.pure _)
  | (_, j) :: rest =>
    .bind (.of_ages (ages_toValue j)) fun _ => .bind (.update new _) fun _ => agesFrom_fill new rest

end

end Json

namespace Value

mutual

theorem ages_ofDatum : ∀ d : Datum, (ofDatum d).Ages
  | .nothing => .pure _
  | .other _ _ => .pure _
  | .bool _ => .pure _
  | .int _ => .pure _
  | .real _ => .pure _
  | .text _ => .pure _
  | .list items => .bind (ages_ofData items) fun _ => .bind (.allocArray _) fun _ => .pure _
  | .table entries => .construct fun _ _ new => .bind (agesFrom_fillFrom new entries) fun _ => .of_ages (.pure _)

theorem ages_ofData : ∀ ds : List Datum, (ofData ds).Ages
  | [] => .pure _
  | d :: rest => .bind (ages_ofDatum d) fun _ => .bind (ages_ofData rest) fun _ => .pure _

theorem agesFrom_fillFrom {m : Machine} {r : Ref} (new : m.heap.size ≤ r.index) :
    ∀ entries : List (Text × Datum), (fillFrom r entries).AgesFrom m
  | [] => .of_ages (.pure _)
  | (_, d) :: rest =>
    .bind (.of_ages (ages_ofDatum d)) fun _ => .bind (.update new _) fun _ => agesFrom_fillFrom new rest

end

end Value

namespace Engine

variable {e : Engine}

theorem ages_reviseEach {revise : Ref → Key → Run Value} (hr : ∀ r k, (revise r k).Ages) (r : Ref) :
    ∀ ks, (e.reviseEach revise r ks).Ages
  | [] => .pure _
  | k :: rest => by
    refine .bind (hr r k) fun v => ?_
    dsimp only
    split
    · exact .bind (.discard (ages_remove r k)) fun _ => ages_reviseEach hr r rest
    · exact .bind (ages_define r k _) fun _ => ages_reviseEach hr r rest

section Json

variable (he : e.Ages)
include he

theorem ages_jsonValue (rule : JsonRule) (holder : Value) (k : Key) (v : Value) :
    (e.jsonValue rule holder k v).Ages := by
  unfold jsonValue
  extract_lets replace
  have replaced : ∀ v, (replace v).Ages := by
    intro v
    dsimp only [replace]
    split
    · exact he.call _ _ _
    · exact .pure _
  split
  · refine .bind (ages_get he _ _) fun f => .bind (ages_isCallable f) fun callable => ?_
    split
    · exact .bind (he.call _ _ _) replaced
    · exact .bind (.pure _) replaced
  · exact .bind (.pure _) replaced

theorem ages_jsonItem (rule : JsonRule) (around : List Ref) (r : Ref) (i : Nat) :
    (e.jsonItem rule around r i).Ages :=
  .bind (ages_get he _ _) fun _ => .bind (he.json _ _ _ _ _) fun _ => .pure _

theorem ages_jsonItems (rule : JsonRule) (around : List Ref) (r : Ref) :
    ∀ i n, (e.jsonItems rule around r i n).Ages
  | _, 0 => .pure _
  | i, n + 1 => .bind (ages_jsonItem he rule around r i) fun _ =>
    .bind (ages_jsonItems rule around r (i + 1) n) fun _ => .pure _

theorem ages_jsonEntries (rule : JsonRule) (around : List Ref) (r : Ref) :
    ∀ ks, (e.jsonEntries rule around r ks).Ages
  | [] => .pure _
  | k :: rest => by
    refine .bind (ages_get he _ _) fun v => .bind (he.json _ _ _ _ _) fun j => ?_
    split
    · exact .bind (ages_jsonEntries rule around r rest) fun _ => .pure _
    · exact ages_jsonEntries rule around r rest

theorem ages_jsonObject (rule : JsonRule) (around : List Ref) (r : Ref) :
    (e.jsonObject rule around r).Ages := by
  unfold jsonObject
  split
  · exact .typeError _
  · refine .bind (.object r) fun o => ?_
    have entries : ∀ ks, (do return .object (← e.jsonEntries rule (r :: around) r ks) : Run Json).Ages :=
      fun ks => .bind (ages_jsonEntries he _ _ _ ks) fun _ => .pure _
    split
    · exact .bind (ages_lengthOf he r) fun n => .bind (ages_jsonItems he _ _ _ _ n) fun _ => .pure _
    · cases rule.keys with
      | some ks => exact .bind (.pure _) entries
      | none => exact .bind (.look _) entries

/-- Writing a value down may call its methods. -/
theorem ages_jsonTree (rule : JsonRule) (around : List Ref) (holder : Value) (k : Key) (v : Value) :
    (e.jsonTree rule around holder k v).Ages := by
  refine .bind (ages_jsonValue he rule holder k v) fun v => ?_
  split
  · refine .bind (.object _) fun o => ?_
    split
    · exact .bind (ages_toNumber he _) fun _ => .pure _
    · exact .bind (ages_toUnits he _) fun _ => .pure _
    · exact .pure _
    · split
      · exact .pure _
      · exact .bind (ages_jsonObject he rule around _) fun _ => .pure _
  · exact .pure _

theorem ages_ruleOf (replacer : Value) : (e.ruleOf replacer).Ages := by
  refine .bind (ages_isCallable replacer) fun callable => ?_
  split
  · exact .pure _
  · cases replacer with
    | object r =>
      refine .bind (.object r) fun o => ?_
      split
      · exact .bind (ages_itemsOf he r) fun _ => .pure _
      · exact .pure _
    | _ => exact .pure _

theorem ages_stringify (args : List Value) : (e.stringify args).Ages := by
  refine .bind (ages_ruleOf he _) fun rule => .construct fun _ _ new =>
    .bind (.update new _) fun _ => .bind (.of_ages (he.json _ _ _ _ _)) fun j => .of_ages ?_
  split <;> exact .pure _

theorem ages_revise (f : Value) : ∀ levels r k, (e.revise f levels r k).Ages
  | 0, _, _ => .tooDeep
  | levels + 1, holder, k => by
    refine .bind (ages_get he _ _) fun v => ?_
    cases v with
    | object r =>
      refine .bind (.object r) fun o => ?_
      dsimp only
      have each := ages_reviseEach (e := e) (ages_revise f levels) r
      split
      · exact .bind (ages_lengthOf he r) fun _ => .bind (.pure _) fun ks => .bind (each ks) fun _ =>
          he.call _ _ _
      · exact .bind (.look _) fun ks => .bind (each ks) fun _ => he.call _ _ _
    | _ => exact .bind (.pure _) fun _ => he.call _ _ _

theorem ages_parseJson (args : List Value) : (e.parseJson args).Ages := by
  refine .bind (ages_toUnits he _) fun s => ?_
  split
  · refine .bind (Json.ages_toValue _) fun v => .bind (ages_isCallable _) fun callable => ?_
    split
    · exact .construct fun _ holder new => .bind (.update new _) fun _ =>
        .of_ages (ages_revise he _ _ holder _)
    · exact .pure _
  · exact .throwNew _ _

end Json

end Engine

/-! ## Promises -/

namespace Run

/-- What is at a reference is a promise in a state, or no promise. -/
theorem promiseState?_apply (r : Ref) (m : Machine) :
    (∃ s, (m.object r).kind = .promise s ∧ promiseState? r m = .value (some s) m) ∨
      promiseState? r m = .value none m := by
  unfold promiseState?
  rw [bind_apply, object_apply, Result.follow_value]
  cases (m.object r).kind with
  | promise s => exact .inl ⟨s, rfl, rfl⟩
  | _ => exact .inr rfl

namespace Ages

theorem allocPromise : Run.allocPromise.Ages := .alloc _

theorem enqueue (j : Job) : (Run.enqueue j).Ages := .change fun _ => .of_parts rfl rfl

theorem promiseState? (r : Ref) : (Run.promiseState? r).Ages := by
  refine .bind (.object r) fun o => ?_
  split <;> exact .pure _

theorem settle (r : Ref) (rejected : Bool) (v : Value) : (Run.settle r rejected v).Ages := by
  intro m
  unfold Run.settle
  rw [AgesAt, bind_apply]
  obtain ⟨s, kind, state⟩ | state := promiseState?_apply r m
  · rw [state, Result.follow_value]
    cases s with
    | pending reactions =>
      refine AgesAt.bind (.update (.of_slots (by rw [kind]; rfl) rfl)) fun _ l _ => ?_
      refine Ages.bind (.forM (fun _ => .enqueue _) _) (fun _ => ?_) l
      split
      · exact .change fun _ => .of_parts rfl rfl
      · exact .pure _
    | _ => exact Machine.Later.refl m
  · rw [state, Result.follow_value]
    exact Machine.Later.refl m

theorem allocSettlers (p : Ref) : (Run.allocSettlers p).Ages := by
  refine .bind (.alloc _) fun latch => ?_
  have settler : ∀ o : Obj, (do return .object (← Run.alloc o) : Run Value).Ages :=
    fun o => .bind (.alloc o) fun _ => .pure _
  exact .bind (settler _) fun _ => .bind (settler _) fun _ => .pure _

end Ages

end Run

namespace Engine

variable {e : Engine}

theorem ages_rejectedPromise (v : Value) : (rejectedPromise v).Ages :=
  .bind .allocPromise fun p => .bind (.settle p true v) fun _ => .pure _

/-- The promise that is waited for is one still when the handlers were looked at. -/
theorem ages_thenOf (this onValue onError : Value) : (thenOf this onValue onError).Ages := by
  have handler : ∀ f : Value, (do
      return if (← isCallable f) then some f else none : Run (Option Value)).Ages :=
    fun f => .bind (ages_isCallable f) fun _ => .pure _
  cases this with
  | object r =>
    intro m
    unfold thenOf
    dsimp only
    rw [AgesAt, Run.bind_apply]
    obtain ⟨s, kind, state⟩ | state := Run.promiseState?_apply r m
    · rw [state, Result.follow_value]
      refine AgesAt.bind (Ages.allocPromise m) fun outcome l later => ?_
      refine AgesAt.bind (handler onValue l) fun _ l' later' => ?_
      refine AgesAt.bind (handler onError l') fun _ n later'' => ?_
      obtain ⟨s', kind'⟩ := (later.trans (later'.trans later'')).promise kind
      cases s with
      | pending reactions =>
        exact AgesAt.bind (.update (.of_slots (by rw [kind']; rfl) rfl)) fun _ n' _ => Ages.pure _ n'
      | fulfilled v => exact Ages.bind (.enqueue _) (fun _ => .pure _) n
      | rejected v =>
        refine Ages.bind (.change fun _ => ?_) (fun _ => .bind (.enqueue _) fun _ => .pure _) n
        exact .of_parts rfl rfl
    · rw [state, Result.follow_value]
      exact Ages.typeError (α := Value) _ m
  | _ => exact .typeError _

section Promises

variable (he : e.Ages)
include he

theorem ages_resolve (p : Ref) (v : Value) : (e.resolve p v).Ages := by
  cases v with
  | object r =>
    unfold resolve
    dsimp only
    split
    · exact .bind (.alloc _) fun _ => .settle _ _ _
    · refine .bind (.attempt (ages_get he _ _)) fun ended => ?_
      split
      · exact .settle _ _ _
      · refine .bind (ages_isCallable _) fun callable => ?_
        split
        · exact .enqueue _
        · exact .settle _ _ _
  | _ => exact .settle _ _ _

theorem ages_callSettler (p : Ref) (rejects : Bool) (latch : Ref) (v : Value) :
    (e.callSettler p rejects latch v).Ages := by
  refine fun m => .object ?_
  cases kind : (m.object latch).kind with
  | latch used =>
    cases used with
    | true => exact Machine.Later.refl m
    | false =>
      refine AgesAt.bind (.update (.of_slots (by rw [kind]; rfl) rfl)) fun _ l _ => ?_
      dsimp only
      split
      · exact Ages.bind (.settle _ _ _) (fun _ => .pure _) l
      · exact Ages.bind (ages_resolve he p v) (fun _ => .pure _) l
  | _ => exact Machine.Later.refl m

theorem ages_promiseOf (v : Value) : (e.promiseOf v).Ages := by
  unfold promiseOf
  extract_lets promise
  have made : ∀ own, (promise own).Ages := by
    intro own
    dsimp only [promise]
    split
    · exact .pure _
    · exact .bind .allocPromise fun p => .bind (ages_resolve he p v) fun _ => .pure _
  split
  · exact .bind (.promiseState? _) fun _ => .bind (.pure _) made
  · exact .bind (.pure _) made

theorem ages_promiseBy (f : Value) : (e.promiseBy f).Ages := by
  refine .bind (ages_needFunction f) fun _ => .bind .allocPromise fun p =>
    .bind (.allocSettlers p) fun ⟨_, _⟩ => .bind (.attempt (he.call _ _ _)) fun ended => ?_
  split
  · exact .pure _
  · exact .bind (.discard (he.call _ _ _)) fun _ => .pure _

theorem ages_runJob (j : Job) : (e.runJob j).Ages := by
  cases j with
  | react reaction rejected v =>
    simp only [runJob]
    split
    · split
      · exact .settle _ _ _
      · exact ages_resolve he _ _
    · refine .bind (.attempt (he.call _ _ _)) fun ended => ?_
      split
      · exact ages_resolve he _ _
      · exact .settle _ _ _
  | adopt p source f =>
    refine .bind (.allocSettlers p) fun ⟨_, _⟩ => .bind (.attempt (he.call _ _ _)) fun ended => ?_
    split
    · exact .pure _
    · exact .discard (he.call _ _ _)

/-- Jobs are run one after the other, and each may leave others. -/
theorem ages_runJobs : e.runJobs.Ages := by
  refine .loop fun _ => .bind (.look _) fun jobs => ?_
  split
  · exact .pure _
  · exact .bind (.change fun _ => .of_parts rfl rfl) fun _ => .bind (ages_runJob he _) fun _ => .pure _

end Promises

/-! ## The host -/

theorem ages_replyObject (entries : List (Key × Value)) : (replyObject entries).Ages :=
  .construct fun _ _ new => .bind (.forM fun (_, _) _ => .update new _) fun _ => .of_ages (.pure _)

section Host

variable (he : e.Ages)
include he

theorem ages_collect (list : Ref) : ∀ vs, (e.collect list vs).Ages
  | [] => .pure _
  | _ :: rest => .bind (ages_get he _ _) fun _ => .bind (ages_readName he _ _) fun _ =>
    .bind (he.call _ _ _) fun _ => .bind (.discard (he.call _ _ _)) fun _ => ages_collect list rest

theorem ages_ask (name : Text) (list : Ref) : (e.ask name list).Ages := by
  refine .bind (he.json _ _ _ _ _) fun tree => .bind (.ask _) fun reply => ?_
  cases reply with
  | failed message => exact .throwNew _ _
  | refused message => exact ages_replyObject _
  | nothing => exact ages_replyObject _
  | value x => exact .bind (Value.ages_ofDatum x) fun _ => ages_replyObject _

/-- What the host answers becomes new objects. -/
theorem ages_callHost (name : Text) (args : List Value) : (e.callHost name args).Ages := by
  refine .bind (.allocArray _) fun list => .bind (ages_collect he list args) fun _ =>
    .bind (ages_ask he name list) fun reply => .bind (ages_get he _ _) fun err => ?_
  split
  · exact ages_get he _ _
  · exact .bind (ages_readName he _ _) fun _ => .bind (ages_get he _ _) fun _ =>
      .bind (he.construct _ _) fun _ => .throwValue _

end Host

/-! ## Calling and constructing -/

section Calls

variable (he : e.Ages)
include he

theorem ages_evalGlobally (v : Value) : (e.evalGlobally v).Ages := by
  cases v with
  | string source => exact ages_runGlobally he source
  | _ => exact .pure _

/-- Built-in functions change objects as scripts may. -/
theorem ages_callNative (f : Native) (this : Value) (args : List Value) : (e.callNative f this args).Ages := by
  cases f with
  | nothing => exact .pure _
  | eval => exact ages_evalGlobally he _
  | object => exact ages_objectOf _
  | objectKeys => exact ages_objectKeys _
  | objectCreate => exact ages_objectCreate he _ _
  | objectDescriptor => exact ages_objectDescriptor he _ _
  | objectDefine => exact ages_objectDefine he _ _ _
  | objectParent => exact ages_parentValue _
  | toString => exact ages_kindText _
  | valueOf => exact .bind (ages_toObject _) fun _ => .pure _
  | hasOwn => exact ages_hasOwn he _ _
  | getParent => exact ages_parentValue _
  | setParent => exact ages_setParent _ _
  | function => exact ages_functionOf he _
  | call => exact ages_callWith he _ _
  | apply => exact ages_applyWith he _ _
  | functionText => exact ages_functionText he _
  | array => exact ages_arrayOf _
  | isArray => exact .bind (ages_isArray _) fun _ => .pure _
  | push => exact ages_push he _ _
  | map => exact ages_map he _ _
  | forEach => exact ages_forEach he _ _
  | join => exact ages_join he _ _
  | arrayText => exact ages_arrayText he _
  | indexOf => exact ages_indexOf he _ _
  | string => exact ages_stringOf he _
  | stringValue => exact ages_primitiveOf _ _ _
  | charAt => exact ages_charAt he _ _
  | «repeat» => exact ages_repeatUnits he _ _
  | number => exact ages_numberOf he _
  | numberValue => exact ages_primitiveOf _ _ _
  | numberText => exact .bind (ages_primitiveOf _ _ _) fun _ => .pure _
  | boolean => exact .pure _
  | booleanValue => exact ages_primitiveOf _ _ _
  | booleanText => exact .bind (ages_primitiveOf _ _ _) fun _ => .pure _
  | error kind => exact ages_errorOf he _ _
  | errorText => exact ages_errorText he _
  | max => exact .bind (ages_maxOf he _ _) fun _ => .pure _
  | random => exact .bind .chance fun _ => .pure _
  | date => exact .bind .clock fun _ => ages_localText _
  | now => exact .bind .clock fun _ => .pure _
  | timeOfParts => exact ages_timeOfParts he _
  | dateValue => exact .bind (ages_needDate _) fun _ => .pure _
  | datePart part universal => exact .bind (ages_needDate _) fun _ => ages_timePart part universal _
  | zoneOffset => exact .bind (ages_needDate _) fun _ => ages_zoneOffset _
  | dateText => exact .bind (ages_needDate _) fun _ => ages_localText _
  | isoText => exact ages_isoText _
  | dateJson => exact ages_dateJson he _
  | parse => exact ages_parseJson he _
  | stringify => exact ages_stringify he _
  | promise => exact .typeError _
  | resolve => exact ages_promiseOf he _
  | reject => exact ages_rejectedPromise _
  | «then» => exact ages_thenOf _ _ _
  | «catch» => exact ages_thenOf _ _ _

theorem ages_constructNative (f : Native) (args : List Value) : (e.constructNative f args).Ages := by
  cases f with
  | object => exact ages_objectOf _
  | function => exact ages_functionOf he _
  | array => exact ages_arrayOf _
  | string => exact .bind (ages_stringOf he _) fun _ => ages_boxed _
  | number => exact .bind (ages_numberOf he _) fun _ => ages_boxed _
  | boolean => exact ages_boxed _
  | error kind => exact ages_errorOf he _ _
  | promise => exact ages_promiseBy he _
  | date => exact ages_constructDate he _
  | _ => exact .typeError _

/-- A call goes to code, to a built-in function or to the host. -/
theorem ages_callValue (callee this : Value) (args : List Value) : (e.callValue callee this args).Ages := by
  cases callee with
  | object r =>
    refine .bind (.object r) fun o => ?_
    split
    · exact ages_callClosure he _ _ _ _ _
    · exact ages_callNative he _ _ _
    · exact ages_callHost he _ _
    · exact ages_callSettler he _ _ _ _
    · exact .typeError _
  | _ => exact .typeError _

theorem ages_constructValue (callee : Value) (args : List Value) : (e.constructValue callee args).Ages := by
  cases callee with
  | object r =>
    refine .bind (.object r) fun o => ?_
    split
    · exact ages_constructClosure he _ _ _ _
    · exact ages_constructNative he _ _
    · refine .bind (ages_callHost he _ _) fun v => ?_
      split
      · exact .pure _
      · exact .bind (ages_parentForNew he _ _) fun _ => .bind (.alloc _) fun _ => .pure _
    · exact .typeError _
    · exact .typeError _
  | _ => exact .typeError _

end Calls

end Engine

end ScriptHost.Script
