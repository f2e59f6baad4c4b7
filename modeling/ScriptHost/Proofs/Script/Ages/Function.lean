/-
Functions and programs age: making a function, entering a block, calling a function of a program, and
declaring and running what a program holds lead to later machines.
-/
import ScriptHost.Proofs.Script.Ages.Object

namespace ScriptHost.Script

open Run (Ages AgesAt AgesFrom)

/-! ## Making functions -/

namespace Run.Ages

theorem allocClosure (code : Code) (scope : ScopeRef) : (Run.allocClosure code scope).Ages :=
  .construct fun _ _ new => .bind (.of_ages (.alloc _)) fun _ => .bind (.update new _) fun _ =>
    .of_ages (.pure _)

theorem allocFunction (code : Code) (scope : ScopeRef) : (Run.allocFunction code scope).Ages := by
  unfold Run.allocFunction
  split
  · exact .bind (.allocScope _) fun _ => .bind (.allocClosure _ _) fun _ =>
      .bind (.bindName _ _ _) fun _ => .pure _
  · exact .allocClosure _ _

theorem allocArguments (callee : Ref) (args : List Value) (strict : Bool) :
    (Run.allocArguments callee args strict).Ages := .alloc _

/-- The result is no part of the objects and scopes. -/
theorem setResult (v : Value) : (Run.change fun m => { m with result := v }).Ages :=
  .change fun _ => .of_parts rfl rfl

theorem withOwnResult {x : Run Unit} (hx : x.Ages) : (Run.withOwnResult x).Ages := by
  refine .bind (.look _) fun before => .bind (.setResult _) fun _ => .bind hx.attempt fun ended =>
    .bind (.look _) fun v => .bind (.setResult before) fun _ => ?_
  split
  · exact .pure v
  · exact .throwValue _

end Run.Ages

namespace Engine

/-! ## Blocks -/

theorem ages_enterBlock (frame : Frame) (lexicals : List Lexical) (functions : List Code) :
    (enterBlock frame lexicals functions).Ages := by
  unfold enterBlock
  split
  · exact .pure frame
  · refine .bind (.allocScope _) fun scope => .bind (.forM (fun code => ?_) functions) fun _ => .pure _
    exact .bind (.allocFunction code scope) fun _ => .bind (.changeBindings _ _) fun _ => .bindName _ _ _

theorem ages_receiver (strict : Bool) (this : Value) : (receiver strict this).Ages := by
  unfold receiver
  split
  · exact .pure this
  · split
    · exact .pure _
    · exact .pure _
    · exact .pure _
    · exact .bind (ages_toObject _) fun _ => .pure _

variable {e : Engine} (he : e.Ages)
include he

theorem ages_execAll (frame : Frame) : ∀ ss, (e.execAll frame ss).Ages
  | [] => .pure _
  | s :: rest => by
    refine .bind (he.exec frame s) fun c => ?_
    split
    · exact ages_execAll frame rest
    · exact .pure _

theorem ages_execBlock (frame : Frame) (b : Block) : (e.execBlock frame b).Ages :=
  .bind (ages_enterBlock _ _ _) fun inside => ages_execAll he inside b.statements

/-! ## Calls -/

theorem ages_callClosure (f : Ref) (code : Code) (scope : ScopeRef) (this : Value) (args : List Value) :
    (e.callClosure f code scope this args).Ages := by
  refine .bind (ages_receiver _ _) fun this => .bind (.allocScope _) fun scope => ?_
  extract_lets outside functions body vars
  have ran : ∀ x, (body x).Ages := by
    refine fun _ => .bind (ages_enterBlock _ _ _) fun frame => .bind (.forM (fun c => ?_) _) fun _ =>
      .bind (ages_execAll he frame _) fun c => ?_
    · exact .bind (.allocFunction _ _) fun _ => .bind (.changeBindings _ _) fun _ => .bindName _ _ _
    · split <;> exact .pure _
  have declared : ∀ x, (vars x).Ages := by
    intro x
    dsimp only [vars]
    split
    · exact .bind (.changeBindings _ _) ran
    · exact ran ()
  split
  · exact .bind (.allocArguments _ _ _) fun _ => .bind (.changeBindings _ _) declared
  · exact declared ()

theorem ages_parentForNew (f : Value) (fallback : Ref) : (e.parentForNew f fallback).Ages := by
  refine .bind (ages_get he _ _) fun p => ?_
  split <;> exact .pure _

theorem ages_constructClosure (f : Ref) (code : Code) (scope : ScopeRef) (args : List Value) :
    (e.constructClosure f code scope args).Ages :=
  .bind (ages_parentForNew he _ _) fun _ => .bind (.alloc _) fun _ =>
    .bind (ages_callClosure he _ _ _ _ _) fun _ => .pure _

/-! ## Programs -/

omit he in
/-- Functions are declared where their names were checked, or in a scope of names. -/
theorem ages_declareProgram (frame : Frame) (p : Program) : (e.declareProgram frame p).Ages := by
  refine fun m => .look ?_
  extract_lets declare
  have declared : (∀ code ∈ p.body.functions, (∃ bs outer, m.scope frame.vars = .names bs outer) ∨
      ∀ f en, ¬ (m.object .global).Fixes (.ofUnits code.name) f en) → (declare ()).AgesAt m := fun may =>
    AgesFrom.bind (.of_ages (.forM (fun n => ages_declareVar _ n) _)) (fun _ => .forM fun code among =>
      .bind (.of_ages (.allocFunction _ _)) fun f => agesFrom_declareFunction (may code among) f) m (.refl m)
  split
  · next names => exact declared fun _ _ => .inl ⟨_, _, names⟩
  · obtain ⟨passed, free⟩ | ⟨v, l, thrown, later⟩ := checkGlobals_apply (e := e) m (p.body.functions.map (·.name))
    · rw [AgesAt, Run.bind_apply, passed]
      exact declared fun code among => .inr (free _ (List.mem_map_of_mem among))
    · rw [AgesAt, Run.bind_apply, thrown]
      exact later

theorem ages_runProgram (frame : Frame) (p : Program) : (e.runProgram frame p).Ages := by
  unfold runProgram
  extract_lets run
  have ran : ∀ frame, (run frame).Ages := fun _ =>
    .bind (ages_enterBlock _ _ _) fun frame => .withOwnResult <|
      .bind (ages_declareProgram frame p) fun _ => (ages_execAll he frame _).discard
  split
  · exact .bind (.allocScope _) fun _ => .bind (.pure _) ran
  · exact .bind (.pure _) ran

theorem ages_runSource (frame : Frame) (source : Utf16) : (e.runSource frame source).Ages := by
  unfold runSource
  split
  · exact .throwNew _ _
  · exact ages_runProgram he frame _

theorem ages_runGlobally (source : Utf16) : (e.runGlobally source).Ages := ages_runSource he _ source

end Engine

end ScriptHost.Script
