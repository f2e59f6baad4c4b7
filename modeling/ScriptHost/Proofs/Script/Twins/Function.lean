/-
Functions and programs on twins: making a function, entering a block, calling a function of a program, and
declaring and running what a program holds come to the same on twins.
-/
import ScriptHost.Proofs.Script.Twins.Object

namespace ScriptHost.Script

variable {σ : Shift} {α β : Type} {f : α → β}

/-! ## Making functions -/

namespace Run.Twins

theorem allocClosure (code : Code) (scope : ScopeRef) :
    Twins σ σ.ref (Run.allocClosure code scope) (Run.allocClosure code (σ.scopeRef scope)) := by
  refine .bind .allocPlain fun p => .bind ?_ fun g => .bind_same (.put p _ (.hidden (.object g))) fun _ => .pure rfl
  exact .alloc
    { kind := .closure code scope, parent := some .functionParent
      slots := [("prototype", .data (.object p) true false false),
        ("name", .data (.string code.name) false false true),
        (.length, .data (.number (Float.ofNat code.parameters.length)) false false true)] }

theorem allocFunction (code : Code) (scope : ScopeRef) :
    Twins σ σ.ref (Run.allocFunction code scope) (Run.allocFunction code (σ.scopeRef scope)) := by
  refine .ite Iff.rfl ?_ (.allocClosure code scope)
  refine .bind (.allocScope (.names [{ name := code.name, value := none, rule := .quiet }] scope)) fun own => ?_
  exact .bind (.allocClosure code own) fun g => .bind_same (.bindName own _ (.object g)) fun _ => .pure rfl

theorem allocArguments (callee : Ref) (args : List Value) (strict : Bool) : Twins σ σ.ref
    (Run.allocArguments callee args strict) (Run.allocArguments (σ.ref callee) (args.map σ.value) strict) := by
  have slots := itemSlots_values (σ := σ) args 0 []
  rw [List.map_nil] at slots
  unfold Run.allocArguments
  rw [List.length_map, slots]
  cases strict with
  | true =>
    exact .alloc
      { kind := .arguments, parent := some .objectParent
        slots := (Key.length, .hidden (.number (Float.ofNat args.length))) :: Run.itemSlots 0 args [] }
  | false =>
    exact .alloc
      { kind := .arguments, parent := some .objectParent
        slots := ("callee", .hidden (.object callee)) ::
          (Key.length, .hidden (.number (Float.ofNat args.length))) :: Run.itemSlots 0 args [] }

theorem withOwnResult {x y : Run Unit} (hx : Twins σ id x y) :
    Twins σ σ.value (Run.withOwnResult x) (Run.withOwnResult y) := by
  refine .bind .getResult fun before => .bind_same (.setResult .undefined) fun _ => .bind hx.attempt fun ended =>
    .bind .getResult fun v => .bind_same (.setResult before) fun _ => ?_
  rcases ended with thrown | ⟨⟩
  · exact .throwValue thrown
  · exact .pure rfl

end Run.Twins

namespace Engine

/-! ## Blocks -/

theorem twins_addFunction (code : Code) (inside scope : ScopeRef) : Run.Twins σ id
    (do
      let g ← Run.allocFunction code inside
      Run.changeBindings scope (addBinding { name := code.name, value := none })
      Run.bindName scope code.name (.object g))
    (do
      let g ← Run.allocFunction code (σ.scopeRef inside)
      Run.changeBindings (σ.scopeRef scope) (addBinding { name := code.name, value := none })
      Run.bindName (σ.scopeRef scope) code.name (.object g)) :=
  .bind (.allocFunction code inside) fun g =>
    .bind_same (.addBinding scope { name := code.name, value := none }) fun _ => .bindName scope _ (.object g)

theorem twins_enterBlock (frame : Frame) (lexicals : List Lexical) (functions : List Code) : Run.Twins σ σ.frame
    (enterBlock frame lexicals functions) (enterBlock (σ.frame frame) lexicals functions) := by
  refine .ite Iff.rfl (.pure rfl) ?_
  extract_lets bindings
  have shifted : bindings = bindings.map σ.binding := by
    simp only [bindings, List.map_map]
    rfl
  have entered : Run.Twins σ σ.scopeRef (Run.allocScope (.names bindings frame.scope))
      (Run.allocScope (.names bindings (σ.frame frame).scope)) := by
    have shift := Run.Twins.allocScope (σ := σ) (.names bindings frame.scope)
    rwa [Shift.scope, ← shifted] at shift
  refine .bind entered fun scope => .bind_same (.forM (fun code => ?_) functions) fun _ => .pure rfl
  exact twins_addFunction code scope scope

theorem twins_receiver (strict : Bool) (this : Value) :
    Run.Twins σ σ.value (receiver strict this) (receiver strict (σ.value this)) := by
  refine .ite Iff.rfl (.pure rfl) ?_
  cases this with
  | undefined => exact .pure rfl
  | null => exact .pure rfl
  | object r => exact .pure rfl
  | bool b => exact .bind (twins_toObject (.bool b)) fun _ => .pure rfl
  | number x => exact .bind (twins_toObject (.number x)) fun _ => .pure rfl
  | string s => exact .bind (twins_toObject (.string s)) fun _ => .pure rfl

variable {e d : Engine}

section

variable (he : Twins σ e d)
include he

theorem twins_execAll (frame : Frame) :
    ∀ ss, Run.Twins σ σ.completion (e.execAll frame ss) (d.execAll (σ.frame frame) ss)
  | [] => .pure rfl
  | s :: rest => by
    refine .bind (he.exec frame s) fun c => ?_
    cases c with
    | normal => exact twins_execAll frame rest
    | _ => exact .pure rfl

theorem twins_execBlock (frame : Frame) (b : Block) :
    Run.Twins σ σ.completion (e.execBlock frame b) (d.execBlock (σ.frame frame) b) :=
  .bind (twins_enterBlock _ _ _) fun inside => twins_execAll he inside b.statements

/-! ## Calls -/

omit he in
theorem headD_values (args : List Value) :
    (args.map σ.value).headD .undefined = σ.value (args.headD .undefined) := by
  cases args <;> rfl

omit he in
theorem bindParameters_values : ∀ (ps : List Utf16) (args : List Value) (acc : List Binding),
    bindParameters ps (args.map σ.value) (acc.map σ.binding) = (bindParameters ps args acc).map σ.binding
  | [], _, _ => rfl
  | p :: ps, args, acc => by
    have rest : (acc.map σ.binding).filter (fun b => b.name ≠ p) =
        (acc.filter (fun b => b.name ≠ p)).map σ.binding := by
      rw [List.filter_map]
      rfl
    rw [bindParameters, bindParameters, headD_values, rest, ← List.map_drop]
    exact bindParameters_values ps (args.drop 1)
      ({ name := p, value := some (args.headD .undefined) } :: acc.filter (fun b => b.name ≠ p))

omit he in
theorem addVars_bindings (vars : List Utf16) : ∀ bs : List Binding,
    vars.foldl (fun bs n => addBinding { name := n, value := some .undefined } bs) (bs.map σ.binding) =
      (vars.foldl (fun bs n => addBinding { name := n, value := some .undefined } bs) bs).map σ.binding := by
  induction vars with
  | nil => exact fun _ => rfl
  | cons n rest ih =>
    intro bs
    have added := Shift.addBinding_bindings (σ := σ) { name := n, value := some .undefined } bs
    rw [List.foldl_cons, List.foldl_cons, ← ih, ← added]
    rfl

theorem twins_callClosure (g : Ref) (code : Code) (scope : ScopeRef) (this : Value) (args : List Value) :
    Run.Twins σ σ.value (e.callClosure g code scope this args)
      (d.callClosure (σ.ref g) code (σ.scopeRef scope) (σ.value this) (args.map σ.value)) := by
  have parameters := bindParameters_values (σ := σ) code.parameters args []
  rw [List.map_nil] at parameters
  refine .bind (twins_receiver _ _) fun this => ?_
  rw [parameters]
  refine .bind (.allocScope (.names (bindParameters code.parameters args []) scope)) fun scope => ?_
  extract_lets outside functions body vars outside' body' vars'
  have ran : ∀ x, Run.Twins σ σ.value (body x) (body' x) := by
    intro x
    have entered := twins_enterBlock (σ := σ) outside code.body.lexicals []
    refine .bind entered fun frame => .bind_same (.forM (fun c => ?_) _) fun _ => ?_
    · exact twins_addFunction c frame.scope scope
    · refine .bind (twins_execAll he frame _) fun c => ?_
      cases c <;> exact .pure rfl
  have declared : ∀ x, Run.Twins σ σ.value (vars x) (vars' x) := by
    intro x
    exact .ite Iff.rfl (.bind_same (.changeBindings (addVars_bindings _) _) ran) (ran ())
  refine .ite Iff.rfl ?_ (declared ())
  exact .bind (.allocArguments g args code.strict) fun list =>
    .bind_same (.addBinding scope { name := argumentsName, value := some (.object list) }) declared

theorem twins_parentForNew (g : Value) (fallback : Ref) (kept : σ.ref fallback = fallback) : Run.Twins σ σ.ref
    (e.parentForNew g fallback) (d.parentForNew (σ.value g) fallback) := by
  refine .bind (twins_get he g _) fun p => ?_
  cases p with
  | object r => exact .pure rfl
  | _ => exact .pure kept.symm

theorem twins_constructClosure (g : Ref) (code : Code) (scope : ScopeRef) (args : List Value) : Run.Twins σ σ.value
    (e.constructClosure g code scope args)
    (d.constructClosure (σ.ref g) code (σ.scopeRef scope) (args.map σ.value)) := by
  refine .bind (twins_parentForNew he (.object g) .objectParent rfl) fun p =>
    .bind (.alloc { parent := some p }) fun o =>
    .bind (twins_callClosure he g code scope (.object o) args) fun v => .pure ?_
  cases v <;> rfl

/-! ## Programs -/

theorem twins_declareProgram (frame : Frame) (p : Program) :
    Run.Twins σ id (e.declareProgram frame p) (d.declareProgram (σ.frame frame) p) := by
  refine .bind (.scope frame.vars) fun s => ?_
  extract_lets declare declare'
  have declared : ∀ x, Run.Twins σ id (declare x) (declare' x) := by
    refine fun _ => .bind_same (.forM (fun n => twins_declareVar he.toBinds frame.vars n) _) fun _ =>
      .forM (fun code => ?_) _
    exact .bind (.allocFunction code frame.scope) fun g => twins_declareFunction he.toBinds frame.vars code.name g
  cases s with
  | names => exact declared ()
  | _ => exact .bind_same (twins_checkGlobals he.toBinds _) declared

theorem twins_runProgram (frame : Frame) (p : Program) :
    Run.Twins σ σ.value (e.runProgram frame p) (d.runProgram (σ.frame frame) p) := by
  unfold runProgram
  extract_lets run run'
  have ran : ∀ frame, Run.Twins σ σ.value (run frame) (run' (σ.frame frame)) := fun _ =>
    .bind (twins_enterBlock _ _ _) fun frame => .withOwnResult <|
      .bind_same (twins_declareProgram he frame p) fun _ => (twins_execAll he frame _).discard
  refine .ite Iff.rfl ?_ (.bind (f := σ.frame) (.pure rfl) ran)
  exact .bind (.allocScope (.names [] frame.scope)) fun _ => .bind (f := σ.frame) (.pure rfl) ran

theorem twins_runSource (frame : Frame) (source : Utf16) :
    Run.Twins σ σ.value (e.runSource frame source) (d.runSource (σ.frame frame) source) := by
  unfold runSource
  have strict : (σ.frame frame).strict = frame.strict := rfl
  rw [strict]
  cases Program.ofSource frame.strict (Utf16.toText source) with
  | error complaint => exact .throwNew _ _
  | ok p => exact twins_runProgram he frame p

theorem twins_runGlobally (source : Utf16) : Run.Twins σ σ.value (e.runGlobally source) (d.runGlobally source) :=
  twins_runSource he globalFrame source

end

end Engine

end ScriptHost.Script
