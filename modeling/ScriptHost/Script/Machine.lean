/-
The machine that scripts run on: a heap of objects, scopes that bind names, jobs that wait for the end
of a program, and the value of the last statement. A script ends with a value, with a thrown value, or
by having used up what it was given, and leaves a machine; before that it may ask questions, and goes on
from what is answered: functions of the host, the clock, chance, and where on earth it is. Nothing else
leads out of the machine.
-/
import ScriptHost.Script.Object
import ScriptHost.Datum
import ScriptHost.Senses
import ScriptHost.Text.Utf8

namespace ScriptHost.Script

/-- What a binding allows. -/
inductive BindingRule where
  | changeable
  /-- Assignment throws. -/
  | fixed
  /-- Assignment throws in strict code and is ignored elsewhere. -/
  | quiet
deriving DecidableEq

/-- A name with its value; none before it is initialised. -/
structure Binding where
  name : Utf16
  value : Option Value
  rule : BindingRule := .changeable
  deletable : Bool := false

/-- What binds names: bindings, or the properties of an object. -/
inductive Scope where
  | names (bindings : List Binding) (outer : ScopeRef)
  /-- The object of a `with` statement. -/
  | object (r : Ref) (outer : ScopeRef)
  /-- The global object. -/
  | global

instance : Inhabited Scope := ⟨.global⟩

/-- What is run when a program has ended. -/
inductive Job where
  /-- Hands the outcome of a promise to a handler, whose outcome settles another promise. -/
  | react (reaction : Reaction) (rejected : Bool) (v : Value)
  /-- Asks an object with a `then` function to settle a promise. -/
  | adopt (promise : Ref) (source : Value) (thenFunction : Value)

/-- The machine. -/
structure Machine where
  heap : Array Obj
  scopes : Array Scope
  jobs : List Job
  /-- Promises that were rejected while nothing waited for them, the first first. -/
  unhandled : List Ref
  /-- The value of the last statement that had one. -/
  result : Value
  /-- How often the clock or chance was read. -/
  readings : Nat := 0

/-- The object at a reference. -/
def Machine.object (m : Machine) (r : Ref) : Obj := m.heap[r.index]?.getD default

/-! ## The objects that every machine has -/

namespace Ref

def global : Ref := ⟨0⟩
def objectParent : Ref := ⟨1⟩
def functionParent : Ref := ⟨2⟩
def arrayParent : Ref := ⟨3⟩
def stringParent : Ref := ⟨4⟩
def numberParent : Ref := ⟨5⟩
def booleanParent : Ref := ⟨6⟩
def promiseParent : Ref := ⟨7⟩
def dateParent : Ref := ⟨16⟩

/-- The parent of the errors of a kind. -/
def errorParent (k : ErrorKind) : Ref := ⟨8 + k.index⟩

end Ref

/-- The scope of the global object. -/
def ScopeRef.global : ScopeRef := ⟨0⟩

/-! ## Scripts as actions -/

/-- What a function of the host answers. -/
inductive Reply where
  | value (d : Datum)
  | nothing
  /-- The function refuses; the caller gets an error with this message. -/
  | refused (message : Text)
  /-- The function fails in a way it should not; the caller gets an internal error. -/
  | failed (message : Text)

/-- What a script asks of what is around it. Readings are numbered on each machine, so that each may be
answered in its own way. -/
inductive Question where
  /-- What a function of the host answers. -/
  | call (name : Text) (d : Datum)
  /-- What the clock shows at the `n`-th reading. -/
  | clock (n : Nat)
  /-- Random bits, at the `n`-th reading. -/
  | chance (n : Nat)
  /-- How far local time is ahead at a time. -/
  | zone (time : Int)

/-- What a question is answered by: a reply; the milliseconds since the start of 1970; random bits; minutes. -/
@[reducible] def Question.Answer : Question → Type
  | .call .. => Reply
  | .clock _ => Int
  | .chance _ => BitVec 52
  | .zone _ => Int

/-- What answers, and changes in doing so. -/
abbrev Host (σ : Type) := (q : Question) → σ → q.Answer × σ

/-- The host that shows what senses show, and answers calls by `calls`. -/
def Host.sensing {σ : Type} (S : Senses) (calls : Text → Datum → σ → Reply × σ) : Host σ
  | .call name d, w => calls name d w
  | .clock n, w => (S.time n, w)
  | .chance n, w => (S.chance n, w)
  | .zone t, w => (S.zone t, w)

/-- How a script goes on: it ends, or it asks a question and goes on from the answer. -/
inductive Result (α : Type) where
  | value (a : α) (m : Machine)
  | thrown (v : Value) (m : Machine)
  /-- It took more turns of a loop than there are. -/
  | spent (m : Machine)
  | ask (q : Question) (next : q.Answer → Result α)

namespace Result

variable {α β σ : Type}

/-- What follows a script: `value` after one that ends with a value, `thrown` after one that throws. -/
def follow (value : α → Machine → Result β) (thrown : Value → Machine → Result β) :
    Result α → Result β
  | .value a m => value a m
  | .thrown v m => thrown v m
  | .spent m => .spent m
  | .ask q next => .ask q fun r => (next r).follow value thrown

/-- Lets a host answer until the script ends: the value, if it ends with one, the machine, and what
became of the host. -/
def settle (host : Host σ) : Result α → σ → Option α × Machine × σ
  | .value a m, w => (some a, m, w)
  | .thrown _ m, w => (none, m, w)
  | .spent m, w => (none, m, w)
  | .ask q next, w =>
    let (r, w) := host q w
    (next r).settle host w

end Result

/-- An action on a machine. -/
def Run (α : Type) := Machine → Result α

namespace Run

variable {α β : Type}

@[inline] def pure (a : α) : Run α := fun m => .value a m

@[inline] def bind (x : Run α) (f : α → Run β) : Run β := fun m =>
  match x m with
  | .value a m => f a m
  | .thrown v m => .thrown v m
  | .spent m => .spent m
  | .ask q next => .ask q fun r => (next r).follow f .thrown

instance : Monad Run where
  pure := Run.pure
  bind := Run.bind

/-- Throws a value. -/
@[inline] def throwValue (v : Value) : Run α := fun m => .thrown v m

/-- Runs `x` and, if it throws, `handle` with what it threw. -/
@[inline] def catching (x : Run α) (handle : Value → Run α) : Run α := fun m =>
  match x m with
  | .value a m => .value a m
  | .thrown v m => handle v m
  | .spent m => .spent m
  | .ask q next => .ask q fun r => (next r).follow .value handle

/-- The value or the thrown value of `x`, as a value. -/
@[inline] def attempt (x : Run α) : Run (Except Value α) := fun m =>
  match x m with
  | .value a m => .value (.ok a) m
  | .thrown v m => .value (.error v) m
  | .spent m => .spent m
  | .ask q next => .ask q fun r =>
    (next r).follow (fun a => .value (.ok a)) fun v => .value (.error v)

/-- Looks at the machine. -/
@[inline] def look (f : Machine → α) : Run α := fun m => .value (f m) m

/-- Changes the machine. -/
@[inline] def change (f : Machine → Machine) : Run Unit := fun m => .value () (f m)

/-- Asks a question. -/
@[inline] def ask (q : Question) : Run q.Answer := fun m => .ask q fun r => .value r m

/-- The number of the next reading, which is counted. -/
def reading : Run Nat := fun m => .value m.readings { m with readings := m.readings + 1 }

/-- Reads the clock. -/
def clock : Run Int := do ask (.clock (← reading))

/-- Reads chance. -/
def chance : Run (BitVec 52) := do ask (.chance (← reading))

/-- Takes turns until one yields a result; there are `n`. -/
def turns (turn : α → Run (Sum α β)) : Nat → α → Run β
  | 0, _ => fun m => .spent m
  | n + 1, a => fun m =>
    match turn a m with
    | .value (.inl a) m => turns turn n a m
    | .value (.inr b) m => .value b m
    | .thrown v m => .thrown v m
    | .spent m => .spent m
    | .ask q next => .ask q fun r =>
      (next r).follow (fun s m => match s with
        | .inl a => turns turn n a m
        | .inr b => .value b m) .thrown

/-- How many turns a loop may take. -/
def turnLimit : Nat := Nat.pow 10 15

/-- Takes turns until one yields a result. -/
@[inline] def loop (start : α) (turn : α → Run (Sum α β)) : Run β :=
  turns turn turnLimit start

/-! ## The heap -/

/-- Makes an object. -/
def alloc (o : Obj) : Run Ref := fun m =>
  .value ⟨m.heap.size⟩ { m with heap := m.heap.push o }

/-- Changes an object. -/
def update (r : Ref) (f : Obj → Obj) : Run Unit :=
  change fun m => { m with heap := m.heap.modify r.index f }

/-- The object at a reference. -/
def object (r : Ref) : Run Obj := look (·.object r)

/-- Makes an object without properties. -/
def allocPlain : Run Ref := alloc { parent := some .objectParent }

/-- The slots of the items of a list; the newest comes first. -/
def itemSlots : Nat → List Value → List (Key × Slot) → List (Key × Slot)
  | _, [], acc => acc
  | n, v :: rest, acc => itemSlots (n + 1) rest ((Key.ofNat n, .plain v) :: acc)

/-- Makes an array of values. -/
def allocArray (vs : List Value) : Run Ref :=
  alloc { kind := .array vs.length false, parent := some .arrayParent, slots := itemSlots 0 vs [] }

/-! ## Errors -/

/-- Makes an error with a message. -/
def allocError (k : ErrorKind) (message : Text) : Run Ref :=
  alloc
    { kind := .error, parent := some (.errorParent k)
      slots := [("message", .hidden (.string (Text.toUtf16 message)))] }

/-- Throws an error. -/
def throwNew (k : ErrorKind) (message : Text) : Run α := do
  throwValue (.object (← allocError k message))

def typeError (message : Text) : Run α := throwNew .typeError message

def rangeError (message : Text) : Run α := throwNew .rangeError message

/-- Throws where a script nests too deeply. -/
def tooDeep : Run α := rangeError "Maximum call stack size exceeded"

/-- A name as errors show it. -/
def shownName (n : Utf16) : Text := Utf8.upTo 63 (Utf16.toText n)

end Run

/-! ## The evaluator's circle -/

/-- Where in a program a piece of it is evaluated. -/
structure Frame where
  scope : ScopeRef
  /-- The scope that takes the variables of evaluated sources. -/
  vars : ScopeRef
  this : Value
  strict : Bool
  /-- Whether statements leave their values as the result. -/
  keeps : Bool

/-- How a statement ends. -/
inductive Completion where
  | normal
  | break (label : Option Utf16)
  | continue (label : Option Utf16)
  | return (v : Value)

/-- A value as it is written out in JSON. -/
inductive Json where
  | null
  | bool (b : Bool)
  | number (x : Float)
  | string (s : Utf16)
  | array (items : List Json)
  | object (entries : List (Utf16 × Json))

/-- What steers writing values out in JSON. -/
structure JsonRule where
  /-- Is asked for a replacement of every value. -/
  replacer : Option Value := none
  /-- The only keys that are written. -/
  keys : Option (List Key) := none

/-- What every part of the evaluator refers to: the functions of the host, and the parts that refer to
each other in a circle. -/
structure Engine where
  /-- The global names of the host's functions. -/
  bindings : List (Key × Ref)
  call : (callee this : Value) → List Value → Run Value
  construct : (callee : Value) → List Value → Run Value
  eval : Frame → Expr → Run Value
  exec : Frame → Stmt → Run Completion
  /-- The tree of a value under a key, given the objects around it. -/
  json : JsonRule → (around : List Ref) → (holder : Value) → Key → Value → Run (Option Json)

end ScriptHost.Script
