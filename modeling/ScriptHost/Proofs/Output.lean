/-
Lines and plain writes between them, in any order. An output stands for the bytes it took, those that its text
layer still holds back included: each write adds its own at the end, so they stay in the order of the writes
however often the layer is flushed. A text output under the same writes says what these bytes spell.
-/
import ScriptHost.World
import ScriptHost.Proofs.Text.Utf8

namespace ScriptHost

/-- What is done to an output: a text is written to its text layer, or a line. -/
inductive Writing where
  | plain (t : Text)
  | line (t : Text)

namespace Writing

def perform : Writing → Action Unit
  | plain t => Action.change fun w => { w with output := w.output.write t }
  | line t => Action.writeLine t

/-- Writes in their order, up to the first that fails. -/
def performAll : List Writing → Action Unit
  | [] => pure ()
  | x :: rest => do
    x.perform
    performAll rest

/-- A plain write is of ASCII text; a line may be any text. -/
def Ascii : Writing → Prop
  | plain t => ∀ c ∈ t, c.val < 0x80
  | line _ => True

/-- The bytes that a write stands for: a plain one its characters, a line the UTF-8 of its text, surrogates
passed through, and a line feed. -/
def bytes : Writing → Bytes
  | plain t => t.map fun c => UInt8.ofNat c.val
  | line t => Utf8.encode t ++ [0x0A]

/-- The text that a write stands for. -/
def text : Writing → Text
  | plain t => t
  | line t => t ++ "\n"

variable {x : Writing} {w : World}

theorem encode_line (t : Text) : Utf8.encode (t ++ "\n") = Utf8.encode t ++ [0x0A] := Utf8.encode_append t "\n"

theorem encode_text (ascii : x.Ascii) : Utf8.encode x.text = x.bytes := by
  cases x with
  | plain t => exact Utf8.encode_ascii ascii
  | line t => exact encode_line t

/-- The bytes that writes stand for spell the texts that they stand for. -/
theorem encode_texts : ∀ {all : List Writing}, (∀ x ∈ all, x.Ascii) →
    Utf8.encode (all.flatMap text) = all.flatMap bytes
  | [], _ => rfl
  | x :: rest, ascii => by
    rw [List.flatMap_cons, List.flatMap_cons, Utf8.encode_append, encode_text (ascii x List.mem_cons_self),
      encode_texts fun y inside => ascii y (.tail x inside)]

theorem performAll_append (all more : List Writing) :
    performAll (all ++ more) w = (performAll all >>= fun _ => performAll more) w := by
  induction all generalizing w with
  | nil => rfl
  | cons x rest ih =>
    rw [List.cons_append, performAll, performAll, Action.bind_apply, Action.bind_apply, Action.bind_apply]
    rcases x.perform w with ⟨_ | _, w'⟩
    · rfl
    · exact ih

/-! ## Text outputs -/

/-- A text output takes the texts as they are. -/
theorem performAll_text : ∀ (all : List Writing) (written : Text),
    performAll all { w with output := .text written } =
      (.ok (), { w with output := .text (written ++ all.flatMap text) })
  | [], written => by simp [performAll]
  | x :: rest, written => by
    have one : x.perform { w with output := .text written } =
        (.ok (), { w with output := .text (written ++ x.text) }) := by cases x <;> rfl
    rw [performAll, Action.bind_apply, one, List.flatMap_cons, ← List.append_assoc]
    exact performAll_text rest _

/-! ## Byte outputs -/

/-- These are the bytes of an output, those that its text layer holds back at their end. -/
def Carries (o : Output) (b : Bytes) : Prop := ∃ written pending, o = .bytes written pending ∧ written ++ pending = b

/-- A write adds its bytes to an output at the end. -/
theorem perform_carries {b : Bytes} (ascii : x.Ascii) (carries : Carries w.output b) :
    ∃ o, x.perform w = (.ok (), { w with output := o }) ∧ Carries o (b ++ x.bytes) := by
  obtain ⟨written, pending, e, rfl⟩ := carries
  cases x with
  | plain t =>
    refine ⟨_, rfl, written, pending ++ Utf8.encode t, by rw [e, Output.write], ?_⟩
    rw [Utf8.encode_ascii ascii, bytes, List.append_assoc]
  | line t =>
    refine ⟨_, rfl, written ++ pending ++ Utf8.encode (t ++ "\n") ++ [], [], by rw [e]; rfl, ?_⟩
    rw [encode_line, bytes, List.append_nil, List.append_nil]

theorem performAll_carries : ∀ {all : List Writing} {w : World} {b : Bytes}, (∀ x ∈ all, x.Ascii) →
    Carries w.output b →
    ∃ o, performAll all w = (.ok (), { w with output := o }) ∧ Carries o (b ++ all.flatMap bytes)
  | [], w, b, _, carries => ⟨w.output, rfl, by simpa using carries⟩
  | x :: rest, w, b, ascii, carries => by
    obtain ⟨o, ran, one⟩ := perform_carries (ascii x List.mem_cons_self) carries
    obtain ⟨o', ran', all⟩ := performAll_carries (w := { w with output := o })
      (fun y inside => ascii y (.tail x inside)) one
    refine ⟨o', ?_, by simpa using all⟩
    rw [performAll, Action.bind_apply, ran]
    exact ran'

/-- A line leaves nothing pending. -/
theorem line_lets_through {b : Bytes} (t : Text) (carries : Carries w.output b) :
    (line t).perform w = (.ok (), { w with output := .bytes (b ++ (line t).bytes) [] }) := by
  obtain ⟨o, ran, written, pending, e, all⟩ := perform_carries (x := line t) trivial carries
  obtain ⟨before, held, e', _⟩ := carries
  have nothing : pending = [] := by
    have : o = w.output.writeLine t := congrArg (fun r => r.2.output) ran.symm
    rw [e', e] at this
    exact (Output.bytes.inj this).2
  rw [nothing, List.append_nil] at all
  rw [ran, e, nothing, all]

/-- Any lines, with ASCII writes anywhere between them and a line at the end, all succeed. A byte output then
holds their bytes, each write's own in the order of the writes and none held back, and these spell the very
text that the same writes leave in a text output. -/
theorem lines_roundtrip {before : List Writing} (ascii : ∀ x ∈ before, x.Ascii) (last : Text) (w : World) :
    let all := before ++ [line last]
    performAll all { w with output := .bytes [] [] } =
        (.ok (), { w with output := .bytes (all.flatMap bytes) [] }) ∧
      performAll all { w with output := .text [] } = (.ok (), { w with output := .text (all.flatMap text) }) ∧
      Utf8.readPassing (all.flatMap bytes) = some (all.flatMap text) := by
  intro all
  refine ⟨?_, performAll_text all [], ?_⟩
  · obtain ⟨o, ran, carries⟩ := performAll_carries (w := { w with output := .bytes [] [] }) ascii ⟨[], [], rfl, rfl⟩
    have ended := line_lets_through (w := { w with output := o }) last carries
    rw [performAll_append, Action.bind_apply, ran]
    simp only [performAll, Action.bind_apply, ended, Action.pure_apply]
    simp [all]
  · have ascii_all : ∀ x ∈ all, x.Ascii := by
      intro x inside
      rcases List.mem_append.mp inside with inside | inside
      · exact ascii x inside
      · cases List.mem_singleton.mp inside
        exact trivial
    rw [← encode_texts ascii_all, Utf8.readPassing_encode]

/-- A high and a low surrogate next to each other, and one alone, with plain writes between and before them. -/
theorem lines_roundtrip_surrogates :
    let high : CodePoint := ⟨0xD83D, by decide⟩
    let low : CodePoint := ⟨0xDE00, by decide⟩
    let before := [plain "~", line [high, low], plain "a", plain "b", line []]
    (∀ x ∈ before, x.Ascii) ∧
      performAll (before ++ [line [low]]) { World.blank with output := .bytes [] [] } =
        (.ok (), { World.blank with output := .bytes [0x7E, 0xED, 0xA0, 0xBD, 0xED, 0xB8, 0x80, 0x0A, 0x61, 0x62,
          0x0A, 0xED, 0xB8, 0x80, 0x0A] [] }) := by
  intro high low before
  have ascii : ∀ x ∈ before, x.Ascii := by
    intro x inside
    simp only [before, List.mem_cons, List.not_mem_nil, or_false] at inside
    rcases inside with rfl | rfl | rfl | rfl | rfl <;> simp only [Ascii] <;> decide
  have ended := (lines_roundtrip ascii [low] World.blank).1
  have written : (before ++ [line [low]]).flatMap bytes = [0x7E, 0xED, 0xA0, 0xBD, 0xED, 0xB8, 0x80, 0x0A, 0x61, 0x62,
    0x0A, 0xED, 0xB8, 0x80, 0x0A] := by decide +kernel
  rw [written] at ended
  exact ⟨ascii, ended⟩

end Writing

end ScriptHost
