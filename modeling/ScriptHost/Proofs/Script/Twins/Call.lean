/-
The rest of the functions that every script finds come to the same on twins, and so does calling and
constructing: JSON, promises with their jobs, and calls on the host, which is asked the same.
-/
import ScriptHost.Proofs.Script.Twins.Date

namespace ScriptHost.Script

variable {σ : Shift}

/-! ## JSON -/

namespace Json

mutual

theorem twins_toValue : ∀ j : Json, Run.Twins σ σ.value j.toValue j.toValue
  | null => .pure rfl
  | bool _ => .pure rfl
  | number _ => .pure rfl
  | string _ => .pure rfl
  | array items => .bind (twins_toValues items) fun vs => .bind (.allocArray vs) fun _ => .pure rfl
  | object entries => .bind .allocPlain fun r => .bind_same (twins_fill r entries) fun _ => .pure rfl

theorem twins_toValues : ∀ js : List Json, Run.Twins σ (List.map σ.value) (toValues js) (toValues js)
  | [] => .pure rfl
  | j :: rest => .bind (twins_toValue j) fun _ => .bind (twins_toValues rest) fun _ => .pure rfl

theorem twins_fill (r : Ref) :
    ∀ entries : List (Utf16 × Json), Run.Twins σ id (fill r entries) (fill (σ.ref r) entries)
  | [] => .pure rfl
  | (_, j) :: rest =>
    .bind (twins_toValue j) fun v => .bind_same (.put r _ (.plain v)) fun _ => twins_fill r rest

end

end Json

namespace Value

mutual

theorem twins_ofDatum : ∀ d : Datum, Run.Twins σ σ.value (ofDatum d) (ofDatum d)
  | .nothing => .pure rfl
  | .other _ _ => .pure rfl
  | .bool _ => .pure rfl
  | .int _ => .pure rfl
  | .real _ => .pure rfl
  | .text _ => .pure rfl
  | .list items => .bind (twins_ofData items) fun vs => .bind (.allocArray vs) fun _ => .pure rfl
  | .table entries => .bind .allocPlain fun r => .bind_same (twins_fillFrom r entries) fun _ => .pure rfl

theorem twins_ofData : ∀ ds : List Datum, Run.Twins σ (List.map σ.value) (ofData ds) (ofData ds)
  | [] => .pure rfl
  | d :: rest => .bind (twins_ofDatum d) fun _ => .bind (twins_ofData rest) fun _ => .pure rfl

theorem twins_fillFrom (r : Ref) :
    ∀ entries : List (Text × Datum), Run.Twins σ id (fillFrom r entries) (fillFrom (σ.ref r) entries)
  | [] => .pure rfl
  | (_, d) :: rest =>
    .bind (twins_ofDatum d) fun v => .bind_same (.put r _ (.plain v)) fun _ => twins_fillFrom r rest

end

end Value

namespace Engine

variable {e d : Engine}

theorem twins_reviseEach (he : Binds σ e d) {revise revise' : Ref → Key → Run Value}
    (hr : ∀ r k, Run.Twins σ σ.value (revise r k) (revise' (σ.ref r) k)) (r : Ref) :
    ∀ ks, Run.Twins σ id (e.reviseEach revise r ks) (d.reviseEach revise' (σ.ref r) ks)
  | [] => .pure rfl
  | k :: rest => by
    have others : ∀ x : Unit, Run.Twins σ id (e.reviseEach revise r rest) (d.reviseEach revise' (σ.ref r) rest) :=
      fun _ => twins_reviseEach he hr r rest
    refine .bind (hr r k) fun v => .ite (by simp) ?_ ?_
    · exact .bind_same (.discard (twins_remove he r k)) others
    · exact .bind_same (twins_define he r k ⟨some v, some true, none, none, some true, some true⟩) others

section Json

variable (he : Twins σ e d)
include he

theorem twins_jsonValue (rule : JsonRule) (holder : Value) (k : Key) (v : Value) : Run.Twins σ σ.value
    (e.jsonValue rule holder k v) (d.jsonValue (σ.rule rule) (σ.value holder) k (σ.value v)) := by
  unfold jsonValue
  extract_lets replace replace'
  have replaced : ∀ v, Run.Twins σ σ.value (replace v) (replace' (σ.value v)) := by
    intro v
    obtain ⟨_ | f, keys⟩ := rule
    · exact .pure rfl
    · exact he.call f holder [.string k.units, v]
  cases v with
  | object r =>
    refine .bind (twins_get he (.object r) _) fun f => .bind_same (twins_isCallable f) fun _ => .ite Iff.rfl ?_ ?_
    · exact .bind (he.call f (.object r) [.string k.units]) replaced
    · exact .bind (f := σ.value) (.pure rfl) replaced
  | _ => exact .bind (f := σ.value) (.pure rfl) replaced

theorem twins_jsonItem (rule : JsonRule) (around : List Ref) (r : Ref) (i : Nat) : Run.Twins σ id
    (e.jsonItem rule around r i) (d.jsonItem (σ.rule rule) (around.map σ.ref) (σ.ref r) i) :=
  .bind (twins_get he (.object r) _) fun v => .bind_same (he.json rule around (.object r) _ v) fun _ => .pure rfl

theorem twins_jsonItems (rule : JsonRule) (around : List Ref) (r : Ref) : ∀ i n, Run.Twins σ id
    (e.jsonItems rule around r i n) (d.jsonItems (σ.rule rule) (around.map σ.ref) (σ.ref r) i n)
  | _, 0 => .pure rfl
  | i, n + 1 => .bind_same (twins_jsonItem he rule around r i) fun _ =>
    .bind_same (twins_jsonItems rule around r (i + 1) n) fun _ => .pure rfl

theorem twins_jsonEntries (rule : JsonRule) (around : List Ref) (r : Ref) : ∀ ks, Run.Twins σ id
    (e.jsonEntries rule around r ks) (d.jsonEntries (σ.rule rule) (around.map σ.ref) (σ.ref r) ks)
  | [] => .pure rfl
  | k :: rest => by
    refine .bind (twins_get he (.object r) k) fun v => .bind_same (he.json rule around (.object r) k v) fun j => ?_
    cases j with
    | some j => exact .bind_same (twins_jsonEntries rule around r rest) fun _ => .pure rfl
    | none => exact twins_jsonEntries rule around r rest

omit he in
theorem contains_refs (around : List Ref) (r : Ref) : (around.map σ.ref).contains (σ.ref r) = around.contains r := by
  rw [Bool.eq_iff_iff, List.contains_iff_mem, List.contains_iff_mem, List.mem_map_of_injective Shift.ref_injective]

theorem twins_jsonObject (rule : JsonRule) (around : List Ref) (r : Ref) : Run.Twins σ id
    (e.jsonObject rule around r) (d.jsonObject (σ.rule rule) (around.map σ.ref) (σ.ref r)) := by
  refine .ite (by rw [contains_refs]) (.typeError _) (.bind (.object r) fun o => ?_)
  have entries : ∀ ks, Run.Twins σ id (do return Json.object (← e.jsonEntries rule (r :: around) r ks))
      (do return Json.object (← d.jsonEntries (σ.rule rule) (σ.ref r :: around.map σ.ref) (σ.ref r) ks)) :=
    fun ks => .bind_same (twins_jsonEntries he rule (r :: around) r ks) fun _ => .pure rfl
  obtain ⟨_, keys⟩ := rule
  obtain ⟨kind, _, _, _⟩ := o
  cases kind with
  | array =>
    exact .bind_same (twins_lengthOf he r) fun n => .bind_same (twins_jsonItems he _ (r :: around) r 0 n) fun _ =>
      .pure rfl
  | _ =>
    cases keys with
    | some ks => exact .bind_same (.pure rfl) entries
    | none => exact .bind_same (twins_enumerableKeys he.toBinds r) entries

theorem twins_jsonTree (rule : JsonRule) (around : List Ref) (holder : Value) (k : Key) (v : Value) :
    Run.Twins σ id (e.jsonTree rule around holder k v)
      (d.jsonTree (σ.rule rule) (around.map σ.ref) (σ.value holder) k (σ.value v)) := by
  refine .bind (twins_jsonValue he rule holder k v) fun v => ?_
  cases v with
  | object r =>
    refine .bind (.object r) fun o => ?_
    have tree : Run.Twins σ id (do return some (← e.jsonObject rule around r))
        (do return some (← d.jsonObject (σ.rule rule) (around.map σ.ref) (σ.ref r))) :=
      .bind_same (twins_jsonObject he rule around r) fun _ => .pure rfl
    obtain ⟨kind, _, _, _⟩ := o
    cases kind with
    | boxed p =>
      cases p with
      | number x => exact .bind_same (twins_toNumber he (.object r)) fun _ => .pure rfl
      | string s => exact .bind_same (twins_toUnits he (.object r)) fun _ => .pure rfl
      | _ => exact .pure rfl
    | _ => exact .ite Iff.rfl (.pure rfl) tree
  | _ => exact .pure rfl

omit he in
theorem gapOf_value (v : Value) : gapOf (σ.value v) = gapOf v := by
  cases v <;> rfl

omit he in
theorem filterMap_values {g : Value → Option Key} (same : ∀ v, g (σ.value v) = g v) (vs : List Value) :
    (vs.map σ.value).filterMap g = vs.filterMap g := by
  rw [List.filterMap_map]
  exact congrArg (List.filterMap · vs) (funext same)

theorem twins_ruleOf (replacer : Value) : Run.Twins σ σ.rule (e.ruleOf replacer) (d.ruleOf (σ.value replacer)) := by
  refine .bind_same (twins_isCallable replacer) fun _ => .ite Iff.rfl (.pure rfl) ?_
  cases replacer with
  | object r =>
    refine .bind (.object r) fun o => ?_
    obtain ⟨kind, _, _, _⟩ := o
    cases kind with
    | array =>
      refine .bind (twins_itemsOf he r) fun names => .pure ?_
      rw [filterMap_values fun v => by cases v <;> rfl]
      rfl
    | _ => exact .pure rfl
  | _ => exact .pure rfl

theorem twins_stringify (args : List Value) :
    Run.Twins σ σ.value (e.stringify args) (d.stringify (args.map σ.value)) := by
  unfold stringify
  rw [arg_values, arg_values, arg_values, gapOf_value]
  refine .bind (twins_ruleOf he _) fun rule => .bind .allocPlain fun holder =>
    .bind_same (.put holder _ (.plain (arg args 0))) fun _ =>
    .bind_same (he.json rule [] (.object holder) _ (arg args 0)) fun j => ?_
  cases j <;> exact .pure rfl

theorem twins_revise (f : Value) : ∀ levels r k, Run.Twins σ σ.value
    (e.revise f levels r k) (d.revise (σ.value f) levels (σ.ref r) k)
  | 0, _, _ => .tooDeep
  | levels + 1, holder, k => by
    refine .bind (twins_get he (.object holder) k) fun v => ?_
    have called : ∀ v, Run.Twins σ σ.value (e.call f (.object holder) [.string k.units, v])
        (d.call (σ.value f) (.object (σ.ref holder)) [.string k.units, σ.value v]) :=
      fun v => he.call f (.object holder) [.string k.units, v]
    cases v with
    | object r =>
      refine .bind (.object r) fun o => ?_
      have each := twins_reviseEach he.toBinds (twins_revise f levels) r
      obtain ⟨kind, _, _, _⟩ := o
      cases kind with
      | array =>
        exact .bind_same (twins_lengthOf he r) fun n => .bind_same (.pure rfl) fun ks =>
          .bind_same (each ks) fun _ => called _
      | _ =>
        exact .bind_same (twins_enumerableKeys he.toBinds r) fun ks => .bind_same (each ks) fun _ => called _
    | undefined => exact called .undefined
    | null => exact called .null
    | bool b => exact called (.bool b)
    | number x => exact called (.number x)
    | string s => exact called (.string s)

theorem twins_parseJson (args : List Value) :
    Run.Twins σ σ.value (e.parseJson args) (d.parseJson (args.map σ.value)) := by
  unfold parseJson
  rw [arg_values, arg_values]
  refine .bind_same (twins_toUnits he _) fun s => ?_
  cases Json.read (Utf16.toText s) with
  | error complaint => exact .throwNew _ _
  | ok j =>
    refine .bind (Json.twins_toValue j) fun v => .bind_same (twins_isCallable _) fun _ => .ite Iff.rfl ?_ (.pure rfl)
    exact .bind .allocPlain fun holder => .bind_same (.put holder _ (.plain v)) fun _ =>
      twins_revise he _ _ holder _

end Json

end Engine

/-! ## Promises -/

namespace Run.Twins

theorem allocPromise : Twins σ σ.ref Run.allocPromise Run.allocPromise :=
  .alloc { kind := .promise (.pending []), parent := some .promiseParent }

theorem enqueue (j : Job) : Twins σ id (Run.enqueue j) (Run.enqueue (σ.job j)) :=
  .change fun t => { t with jobs := by simp [t.jobs] }

theorem unhandled {p q : List Ref → List Ref} (same : ∀ rs, q (rs.map σ.ref) = (p rs).map σ.ref) :
    Twins σ id (Run.change fun m => { m with unhandled := p m.unhandled })
      (Run.change fun m => { m with unhandled := q m.unhandled }) :=
  .change fun t => { t with unhandled := by simp only [t.unhandled, same] }

theorem becomes (r : Ref) (k : Kind) : Twins σ id (Run.update r fun o => { o with kind := k })
    (Run.update (σ.ref r) fun o => { o with kind := σ.kind k }) :=
  .update (p := fun o => { o with kind := k }) (fun _ => rfl) r

theorem promiseState? (r : Ref) :
    Twins σ (Option.map σ.promiseState) (Run.promiseState? r) (Run.promiseState? (σ.ref r)) := by
  refine .bind (.object r) fun o => ?_
  obtain ⟨kind, _, _, _⟩ := o
  cases kind <;> exact .pure rfl

theorem settle (r : Ref) (rejected : Bool) (v : Value) :
    Twins σ id (Run.settle r rejected v) (Run.settle (σ.ref r) rejected (σ.value v)) := by
  refine .bind (.promiseState? r) fun state => ?_
  rcases state with _ | reactions | _ | _
  · exact .pure rfl
  · have becomes : Twins σ id
        (Run.update r fun o => { o with kind := .promise (if rejected then .rejected v else .fulfilled v) })
        (Run.update (σ.ref r) fun o =>
          { o with kind := .promise (if rejected then .rejected (σ.value v) else .fulfilled (σ.value v)) }) := by
      cases rejected with
      | true => exact .becomes r (.promise (.rejected v))
      | false => exact .becomes r (.promise (.fulfilled v))
    refine .bind_same becomes fun _ =>
      .bind_same (.forM_map (f := σ.reaction)
          (fun reaction => .enqueue (.react reaction rejected v)) reactions) fun _ =>
        .ite ?_ (.unhandled (p := (· ++ [r])) (q := (· ++ [σ.ref r])) fun rs => ?_) (.pure rfl)
    · rw [List.isEmpty_map]
    · rw [List.map_append, List.map_singleton]
  · exact .pure rfl
  · exact .pure rfl

theorem allocSettlers (p : Ref) :
    Twins σ (Prod.map σ.value σ.value) (Run.allocSettlers p) (Run.allocSettlers (σ.ref p)) := by
  refine .bind (.alloc { kind := .latch false, parent := none }) fun latch => ?_
  have settler : ∀ o : Obj, Twins σ σ.value (do return .object (← Run.alloc o))
      (do return .object (← Run.alloc (σ.obj o))) := fun o => .bind (.alloc o) fun _ => .pure rfl
  have rejecting (rejects : Bool) := settler
    { kind := .settler p rejects latch, parent := some .functionParent
      slots := [("name", .data (.string []) false false true), (.length, .data (.number 1) false false true)] }
  exact .bind (rejecting false) fun _ => .bind (rejecting true) fun _ => .pure rfl

end Run.Twins

namespace Engine

variable {e d : Engine}

theorem twins_rejectedPromise (v : Value) :
    Run.Twins σ σ.value (rejectedPromise v) (rejectedPromise (σ.value v)) :=
  .bind .allocPromise fun p => .bind_same (.settle p true v) fun _ => .pure rfl

theorem twins_thenOf (this onValue onError : Value) : Run.Twins σ σ.value
    (thenOf this onValue onError) (thenOf (σ.value this) (σ.value onValue) (σ.value onError)) := by
  have handler : ∀ f : Value, Run.Twins σ (Option.map σ.value) (do return if (← isCallable f) then some f else none)
      (do return if (← isCallable (σ.value f)) then some (σ.value f) else none) := fun f =>
    .bind_same (twins_isCallable f) fun callable => .pure (by cases callable <;> rfl)
  cases this with
  | object r =>
    refine .bind (.promiseState? r) fun state => ?_
    rcases state with _ | state
    · exact .typeError _
    refine .bind .allocPromise fun outcome => .bind (handler onValue) fun onValue =>
      .bind (handler onError) fun onError => ?_
    have waits : σ.reaction ⟨onValue, onError, outcome⟩ = ⟨onValue.map σ.value, onError.map σ.value, σ.ref outcome⟩ :=
      rfl
    rw [← waits]
    cases state with
    | pending reactions =>
      have appended : ∀ x, reactions.map σ.reaction ++ [σ.reaction x] = (reactions ++ [x]).map σ.reaction := fun x => by
        rw [List.map_append, List.map_singleton]
      dsimp only [Shift.promiseState, Option.map_some]
      rw [appended]
      exact .bind_same (.becomes r (.promise (.pending (reactions ++ [⟨onValue, onError, outcome⟩])))) fun _ =>
        .pure rfl
    | fulfilled v => exact .bind_same (.enqueue (.react ⟨onValue, onError, outcome⟩ false v)) fun _ => .pure rfl
    | rejected v =>
      refine .bind_same (.unhandled fun rs => ?_) fun _ =>
        .bind_same (.enqueue (.react ⟨onValue, onError, outcome⟩ true v)) fun _ => .pure rfl
      rw [List.filter_map]
      congr 1
      exact List.filter_congr fun q _ => by simp
  | _ => exact .typeError _

section Promises

variable (he : Twins σ e d)
include he

theorem twins_resolve (p : Ref) (v : Value) : Run.Twins σ id (e.resolve p v) (d.resolve (σ.ref p) (σ.value v)) := by
  cases v with
  | object r =>
    refine .ite Shift.ref_eq ?_ ?_
    · exact .bind (.allocError _ _) fun err => .settle p true (.object err)
    · refine .bind (.attempt (twins_get he (.object r) _)) fun ended => ?_
      rcases ended with thrown | f
      · exact .settle p true thrown
      · exact .bind_same (twins_isCallable f) fun _ =>
          .ite Iff.rfl (.enqueue (.adopt p (.object r) f)) (.settle p false (.object r))
  | undefined => exact .settle p false .undefined
  | null => exact .settle p false .null
  | bool b => exact .settle p false (.bool b)
  | number x => exact .settle p false (.number x)
  | string s => exact .settle p false (.string s)

theorem twins_callSettler (p : Ref) (rejects : Bool) (latch : Ref) (v : Value) : Run.Twins σ σ.value
    (e.callSettler p rejects latch v) (d.callSettler (σ.ref p) rejects (σ.ref latch) (σ.value v)) := by
  refine .bind (.object latch) fun o => ?_
  obtain ⟨kind, _, _, _⟩ := o
  cases kind with
  | latch used =>
    cases used with
    | true => exact .pure rfl
    | false =>
      refine .bind_same (.becomes latch (.latch true)) fun _ => ?_
      exact .ite Iff.rfl (.bind_same (.settle p true v) fun _ => .pure rfl)
        (.bind_same (twins_resolve he p v) fun _ => .pure rfl)
  | _ => exact .pure rfl

theorem twins_promiseOf (v : Value) : Run.Twins σ σ.value (e.promiseOf v) (d.promiseOf (σ.value v)) := by
  unfold promiseOf
  extract_lets promise promise'
  have made : ∀ own, Run.Twins σ σ.value (promise own) (promise' own) := fun _ =>
    .ite Iff.rfl (.pure rfl) (.bind .allocPromise fun p => .bind_same (twins_resolve he p v) fun _ => .pure rfl)
  cases v with
  | object r =>
    refine .bind (.promiseState? r) fun state => .bind_same (.pure ?_) made
    rw [Option.isSome_map]
    rfl
  | _ => exact .bind_same (.pure rfl) made

theorem twins_promiseBy (f : Value) : Run.Twins σ σ.value (e.promiseBy f) (d.promiseBy (σ.value f)) := by
  refine .bind_same (twins_needFunction f) fun _ => .bind .allocPromise fun p =>
    .bind (.allocSettlers p) fun ⟨resolve, reject⟩ =>
      .bind (.attempt (he.call f .undefined [resolve, reject])) fun ended => ?_
  rcases ended with thrown | _
  · exact .bind_same (.discard (he.call reject .undefined [thrown])) fun _ => .pure rfl
  · exact .pure rfl

/-- A handler is called, and settles the promise of its outcome. -/
def handle (e : Engine) (outcome : Ref) (f v : Value) : Run Unit := do
  match (← Run.attempt (e.call f .undefined [v])) with
  | .ok w => e.resolve outcome w
  | .error thrown => Run.settle outcome true thrown

theorem twins_handle (outcome : Ref) (f v : Value) : Run.Twins σ id (e.handle outcome f v)
    (d.handle (σ.ref outcome) (σ.value f) (σ.value v)) := by
  refine .bind (.attempt (he.call f .undefined [v])) fun ended => ?_
  rcases ended with thrown | w
  · exact .settle outcome true thrown
  · exact twins_resolve he outcome w

theorem twins_runJob (j : Job) : Run.Twins σ id (e.runJob j) (d.runJob (σ.job j)) := by
  cases j with
  | react reaction rejected v =>
    obtain ⟨onValue, onError, outcome⟩ := reaction
    cases rejected with
    | true =>
      rcases onError with _ | f
      · exact .settle outcome true v
      · exact twins_handle he outcome f v
    | false =>
      rcases onValue with _ | f
      · exact twins_resolve he outcome v
      · exact twins_handle he outcome f v
  | adopt p source f =>
    refine .bind (.allocSettlers p) fun ⟨resolve, reject⟩ =>
      .bind (.attempt (he.call f source [resolve, reject])) fun ended => ?_
    rcases ended with thrown | _
    · exact .discard (he.call reject .undefined [thrown])
    · exact .pure rfl

theorem twins_runJobs : Run.Twins σ id e.runJobs d.runJobs := by
  refine .loop (f := id) fun _ => ?_
  have jobs : Run.Twins σ (List.map σ.job) (Run.look (·.jobs)) (Run.look (·.jobs)) := .look fun t => t.jobs
  refine .bind jobs fun jobs => ?_
  cases jobs with
  | nil => exact .pure rfl
  | cons j rest =>
    exact .bind_same (.change fun t => { t with jobs := rfl }) fun _ =>
      .bind_same (twins_runJob he j) fun _ => .pure rfl

end Promises

/-! ## The host -/

theorem twins_replyObject (entries : List (Key × Value)) : Run.Twins σ σ.value
    (replyObject entries) (replyObject (entries.map (Prod.map id σ.value))) :=
  .bind .allocPlain fun r => .bind_same (.forM_map (fun (k, v) => .put r k (.plain v)) entries) fun _ => .pure rfl

section Host

variable (he : Twins σ e d)
include he

theorem twins_collect (list : Ref) :
    ∀ vs, Run.Twins σ id (e.collect list vs) (d.collect (σ.ref list) (vs.map σ.value))
  | [] => .pure rfl
  | v :: rest => .bind (twins_get he (.object list) _) fun put => .bind (twins_readName he .global _) fun f =>
    .bind (he.call f .undefined [v]) fun s => .bind_same (.discard (he.call put (.object list) [s])) fun _ =>
      twins_collect list rest

theorem twins_ask (name : Text) (list : Ref) : Run.Twins σ σ.value (e.ask name list) (d.ask name (σ.ref list)) := by
  refine .bind_same (he.json {} [] .undefined _ (.object list)) fun tree => .bind_same (.ask _) fun reply => ?_
  cases reply with
  | failed message => exact .throwNew _ _
  | refused message => exact twins_replyObject [("error", .string (Text.toUtf16 message))]
  | nothing => exact twins_replyObject []
  | value x => exact .bind (Value.twins_ofDatum x) fun v => twins_replyObject [("value", v)]

theorem twins_callHost (name : Text) (args : List Value) :
    Run.Twins σ σ.value (e.callHost name args) (d.callHost name (args.map σ.value)) := by
  refine .bind (.allocArray []) fun list => .bind_same (twins_collect he list args) fun _ =>
    .bind (twins_ask he name list) fun reply => .bind (twins_get he reply _) fun err => .ite (by simp) ?_ ?_
  · exact twins_get he reply _
  · exact .bind (twins_readName he .global _) fun f => .bind (twins_get he reply _) fun message =>
      .bind (he.construct f [message]) fun thrown => .throwValue thrown

end Host

/-! ## Calling and constructing -/

section Calls

variable (he : Twins σ e d)
include he

theorem twins_evalGlobally (v : Value) : Run.Twins σ σ.value (e.evalGlobally v) (d.evalGlobally (σ.value v)) := by
  cases v with
  | string source => exact twins_runGlobally he source
  | _ => exact .pure rfl

theorem twins_callNative (f : Native) (this : Value) (args : List Value) : Run.Twins σ σ.value
    (e.callNative f this args) (d.callNative f (σ.value this) (args.map σ.value)) := by
  unfold callNative
  simp only [arg_values]
  cases f with
  | nothing => exact .pure rfl
  | eval => exact twins_evalGlobally he _
  | object => exact twins_objectOf _
  | objectKeys => exact twins_objectKeys he.toBinds _
  | objectCreate => exact twins_objectCreate he _ _
  | objectDescriptor => exact twins_objectDescriptor he _ _
  | objectDefine => exact twins_objectDefine he _ _ _
  | objectParent => exact twins_parentValue _
  | toString => exact twins_kindText this
  | valueOf => exact .bind (twins_toObject this) fun _ => .pure rfl
  | hasOwn => exact twins_hasOwn he this _
  | getParent => exact twins_parentValue this
  | setParent => exact twins_setParent this _
  | function => exact twins_functionOf he _
  | call => exact twins_callWith he this args
  | apply => exact twins_applyWith he this args
  | functionText => exact twins_functionText he this
  | array => exact twins_arrayOf _
  | isArray => exact .bind_same (twins_isArray _) fun _ => .pure rfl
  | push => exact twins_push he this args
  | map => exact twins_map he this args
  | forEach => exact twins_forEach he this args
  | join => exact twins_join he this _
  | arrayText => exact twins_arrayText he this
  | indexOf => exact twins_indexOf he this args
  | string => exact twins_stringOf he _
  | stringValue => exact twins_primitiveOf this isString_value _
  | charAt => exact twins_charAt he this _
  | «repeat» => exact twins_repeatUnits he this _
  | number => exact twins_numberOf he _
  | numberValue => exact twins_primitiveOf this isNumber_value _
  | numberText =>
    exact .bind (twins_primitiveOf this isNumber_value _) fun _ =>
      .pure (congrArg Value.string (Shift.primitiveUnits_value _))
  | boolean => exact .pure (congrArg Value.bool (Shift.truthy_value _))
  | booleanValue => exact twins_primitiveOf this isBool_value _
  | booleanText =>
    exact .bind (twins_primitiveOf this isBool_value _) fun _ =>
      .pure (congrArg Value.string (Shift.primitiveUnits_value _))
  | error kind => exact twins_errorOf he kind _
  | errorText => exact twins_errorText he this
  | max => exact .bind_same (twins_maxOf he args _) fun _ => .pure rfl
  | random => exact .bind_same .chance fun _ => .pure rfl
  | date => exact .bind_same .clock fun _ => twins_localText _
  | now => exact .bind_same .clock fun _ => .pure rfl
  | timeOfParts => exact twins_timeOfParts he args
  | dateValue => exact .bind_same (twins_needDate this) fun _ => .pure rfl
  | datePart part universal => exact .bind_same (twins_needDate this) fun _ => twins_timePart part universal _
  | zoneOffset => exact .bind_same (twins_needDate this) fun _ => twins_zoneOffset _
  | dateText => exact .bind_same (twins_needDate this) fun _ => twins_localText _
  | isoText => exact twins_isoText this
  | dateJson => exact twins_dateJson he this
  | parse => exact twins_parseJson he args
  | stringify => exact twins_stringify he args
  | promise => exact .typeError _
  | resolve => exact twins_promiseOf he _
  | reject => exact twins_rejectedPromise _
  | «then» => exact twins_thenOf this _ _
  | «catch» => exact twins_thenOf this .undefined _

theorem twins_constructNative (f : Native) (args : List Value) :
    Run.Twins σ σ.value (e.constructNative f args) (d.constructNative f (args.map σ.value)) := by
  unfold constructNative
  simp only [arg_values]
  cases f with
  | object => exact twins_objectOf _
  | function => exact twins_functionOf he _
  | array => exact twins_arrayOf _
  | string => exact .bind (twins_stringOf he _) fun _ => twins_boxed _
  | number => exact .bind (twins_numberOf he _) fun _ => twins_boxed _
  | boolean =>
    rw [Shift.truthy_value]
    exact twins_boxed (.bool (arg args 0).truthy)
  | error kind => exact twins_errorOf he kind _
  | promise => exact twins_promiseBy he _
  | date => exact twins_constructDate he args
  | _ => exact .typeError _

theorem twins_callValue (callee this : Value) (args : List Value) : Run.Twins σ σ.value
    (e.callValue callee this args) (d.callValue (σ.value callee) (σ.value this) (args.map σ.value)) := by
  cases callee with
  | object r =>
    refine .bind (.object r) fun o => ?_
    obtain ⟨kind, _, _, _⟩ := o
    cases kind with
    | closure code scope => exact twins_callClosure he r code scope this args
    | native f => exact twins_callNative he f this args
    | host name => exact twins_callHost he name args
    | settler p rejects latch =>
      dsimp only [Shift.obj, Shift.kind]
      rw [arg_values]
      exact twins_callSettler he p rejects latch _
    | _ => exact .typeError _
  | _ => exact .typeError _

theorem twins_constructValue (callee : Value) (args : List Value) : Run.Twins σ σ.value
    (e.constructValue callee args) (d.constructValue (σ.value callee) (args.map σ.value)) := by
  cases callee with
  | object r =>
    refine .bind (.object r) fun o => ?_
    obtain ⟨kind, _, _, _⟩ := o
    cases kind with
    | closure code scope => exact twins_constructClosure he r code scope args
    | native f => exact twins_constructNative he f args
    | host name =>
      refine .bind (twins_callHost he name args) fun v => .ite (by simp) (.pure rfl) ?_
      exact .bind (twins_parentForNew he (.object r) .objectParent rfl) fun p =>
        .bind (.alloc { parent := some p }) fun _ => .pure rfl
    | _ => exact .typeError _
  | _ => exact .typeError _

end Calls

end Engine

end ScriptHost.Script
