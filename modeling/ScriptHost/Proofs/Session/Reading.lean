/-
Sources that scripts ask for. The function of a session that reads them never fails a call for a path that the
system has bytes for: the script is given the text of the file or, whatever keeps it from being read, an error
whose message names the path. A path with a zero character or with a surrogate that stands for no byte is the one
exception: looking for it ends with a fault that passes through the bridge.
-/
import ScriptHost.Session
import ScriptHost.Bridge
import ScriptHost.Proofs.Files
import ScriptHost.Proofs.Source.Terminator
import ScriptHost.Proofs.Script.Arguments

namespace ScriptHost.Session

open Script (Engine Machine Pristine Reply)

/-- What the bridge replies to a script that asks for the source at a path. -/
def replyFor (settings : Settings) (path : Text) : Action Reply :=
  Bridge.call (readFunction settings) (.list [.text path])

variable {settings : Settings} {path : Text} {w : World}

/-- The reply to what reading the source came to. -/
def replyTo : Except Fault Text → Except Fault Reply
  | .ok t => .ok (.value (.text t))
  | .error f => if f.isOwn || f.isSystem then .ok (.refused f.message) else .error f

theorem replyFor_fst : (replyFor settings path w).1 = replyTo (Source.read (reading settings) path w).1 := by
  simp only [replyFor, Bridge.call, Bridge.argumentsOf, List.map_cons, List.map_nil, Datum.shown, readFunction,
    List.headD_cons, Action.bind_apply]
  rcases Source.read (reading settings) path w with ⟨f | t, w'⟩
  · dsimp only [replyTo]
    split <;> rfl
  · rfl

/-- A source that cannot be read is refused with a message that names the path. -/
theorem replyTo_unread (path reason : Text) :
    ∃ message, replyTo (.error (.unread path reason)) = .ok (.refused message) ∧ path <:+: message :=
  ⟨_, rfl, "couldn't read '", "': " ++ reason, by simp [Fault.message]⟩

/-- With bytes for the path there is a reply: the text of the file there, or an error that names the path. -/
theorem replyFor_of_nameable (utf8 : settings.encoding = "utf-8") (nameable : Files.Nameable path) :
    (∃ content t, w.files.read path = .ok content ∧
      Utf8.decode ((reading settings).kept content.bytes) = .ok t ∧
      (replyFor settings path w).1 = .ok (.value (.text t))) ∨
    ∃ message, (replyFor settings path w).1 = .ok (.refused message) ∧ path <:+: message := by
  have how : reading settings = ⟨settings.stripTerminator, "utf-8"⟩ := by rw [reading, utf8]
  rw [replyFor_fst, how]
  obtain ⟨content, found⟩ | ⟨fault, found⟩ := Files.read_of_nameable nameable (f := w.files)
  · rw [Source.read_of_named Source.named_utf8 found]
    cases decoded : Encoding.utf8.decode (Source.Reading.kept ⟨settings.stripTerminator, "utf-8"⟩ content.bytes) with
    | ok t => exact .inl ⟨content, t, found, decoded, rfl⟩
    | error d => exact .inr (replyTo_unread path _)
  · rw [Source.read_of_fault found]
    exact .inr (replyTo_unread path _)

/-- Without, what looking for the path comes to passes through the bridge. -/
theorem replyFor_of_not_nameable (other : ¬ Files.Nameable path) :
    ∃ fault, (replyFor settings path w).1 = .error fault := by
  obtain ⟨fault, found, own, system⟩ := Files.read_of_not_nameable other (f := w.files)
  refine ⟨fault, ?_⟩
  have same : Source.unopened path fault = fault := by
    cases fault <;> first | rfl | cases system
  rw [replyFor_fst, Source.read_of_fault found, same, replyTo, own, system]
  rfl

/-- A script that asks for the source at a path is answered with its text or with an error that names the path,
just where the system has bytes for the path; the error is thrown in the script as one that it can catch. -/
theorem reading_contained (utf8 : settings.encoding = "utf-8") (path : Text) (w : World) :
    ((∃ fault, (replyFor settings path w).1 = .error fault) ↔ ¬ Files.Nameable path) ∧
      (Files.Nameable path →
        (∃ content t, w.files.read path = .ok content ∧
          Utf8.decode ((reading settings).kept content.bytes) = .ok t ∧
          (replyFor settings path w).1 = .ok (.value (.text t))) ∨
        ∃ message, (replyFor settings path w).1 = .ok (.refused message) ∧ path <:+: message ∧
          ∀ (e : Engine) (m : Machine) (most : Nat), Pristine e m most →
            ∃ r n, e.above.above.giveBack (.refused message) m = .thrown (.object r) n ∧
              n.object r = .failure .error message) := by
  constructor
  · constructor
    · rintro ⟨fault, failed⟩ nameable
      obtain ⟨_, _, _, _, replied⟩ | ⟨_, replied, _⟩ := replyFor_of_nameable utf8 nameable (w := w) <;>
        · rw [failed] at replied
          cases replied
    · exact replyFor_of_not_nameable
  · intro nameable
    obtain found | ⟨message, replied, names⟩ := replyFor_of_nameable utf8 nameable (w := w)
    · exact .inl found
    · refine .inr ⟨message, replied, names, fun e m most pristine => ?_⟩
      obtain ⟨r, n, thrown, failure, _⟩ := Script.Engine.giveBack_refused pristine message
      exact ⟨r, n, thrown, failure⟩

/-- A file that is not there is an error, and the fresh machine has all that it takes to throw it; a path that
has no bytes is a fault. -/
theorem reading_contained_missing :
    let w := Source.shelf [0x66] [0x61, 0x0A]
    (∃ message r n, (replyFor {} "gone" w).1 = .ok (.refused message) ∧ ("gone" : Text) <:+: message ∧
      (Engine.make []).above.above.giveBack (.refused message) Machine.fresh = .thrown (.object r) n ∧
      n.object r = .failure .error message) ∧
    ∃ fault, (replyFor {} "a\x00b" w).1 = .error fault := by
  intro w
  have utf8 : ({} : Settings).encoding = "utf-8" := rfl
  constructor
  · have nameable : Files.Nameable "gone" := by decide
    have missing : w.files.read "gone" = .error (.system (.numbered 2 PathFault.missing.text (some "gone"))) := rfl
    have pristine : Pristine (.make []) Machine.fresh 0 := by decide +kernel
    obtain ⟨content, _, found, _⟩ | ⟨message, replied, names, throws⟩ :=
      (reading_contained utf8 "gone" w).2 nameable
    · rw [missing] at found
      cases found
    · obtain ⟨r, n, thrown, failure⟩ := throws _ _ _ pristine
      exact ⟨message, r, n, replied, names, thrown, failure⟩
  · exact (reading_contained utf8 "a\x00b" w).1.mpr (by decide)

/-- The function itself does read what is there. -/
example : (replyFor {} "f" (Source.shelf [0x66] [0x61, 0x0A])).1 = .ok (.value (.text "a")) := rfl

end ScriptHost.Session
