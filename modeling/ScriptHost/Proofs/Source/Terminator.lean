/-
The terminator of a source. It is dropped from the bytes of a file, before they are decoded: one line end or one zero
byte, and a carriage return together with either of them. In encodings based on ASCII that is the same as dropping
it from the text: the bytes without it spell a text just where all of them do, and then the text without its
terminator. A line that was written to a file is read back as it was, unless a carriage return at its end is taken for
a part of the terminator; a line with surrogates is written, but not read.
-/
import ScriptHost.Proofs.Output
import ScriptHost.Proofs.Source.Decoding
import ScriptHost.Proofs.Text.Ending

namespace ScriptHost

namespace Text

/-- Drops a carriage return at the end. -/
def dropReturn (t : Text) : Text := if t.getLast? = some (CodePoint.ofChar '\r') then t.dropLast else t

/-- Drops one line feed or zero character at the end, and then a carriage return at the end. -/
def dropTerminator (t : Text) : Text :=
  if t.getLast? = some (CodePoint.ofChar '\n') ∨ t.getLast? = some (CodePoint.ofChar '\x00') then
    dropReturn t.dropLast
  else t

end Text

namespace Source

/-! ## Bytes -/

/-- Drops a carriage return at the end. -/
def dropReturn (bytes : Bytes) : Bytes := (dropLastIf (· = 0x0D) bytes).getD bytes

theorem dropLastIf_concat (p : UInt8 → Bool) (bytes : Bytes) (b : UInt8) :
    dropLastIf p (bytes ++ [b]) = if p b then some bytes else none := by
  simp [dropLastIf]

theorem stripTerminator_concat (bytes : Bytes) (b : UInt8) :
    stripTerminator (bytes ++ [b]) = if isTerminator b then dropReturn bytes else bytes ++ [b] := by
  rw [stripTerminator, dropLastIf_concat]
  cases isTerminator b <;> rfl

theorem dropReturn_concat (bytes : Bytes) (b : UInt8) :
    dropReturn (bytes ++ [b]) = if b = 0x0D then bytes else bytes ++ [b] := by
  rw [dropReturn, dropLastIf_concat]
  by_cases h : b = 0x0D <;> simp [h]

theorem length_dropReturn (bytes : Bytes) :
    (dropReturn bytes).length = bytes.length ∨ (dropReturn bytes).length + 1 = bytes.length := by
  rcases List.eq_nil_or_concat bytes with rfl | ⟨front, b, rfl⟩
  · exact .inl rfl
  · rw [List.concat_eq_append, dropReturn_concat]
    split
    · exact .inr (by simp)
    · exact .inl rfl

/-- What ends in no terminator is kept. -/
theorem stripTerminator_of_open {bytes : Bytes} (unended : ∀ b ∈ bytes.getLast?, isTerminator b = false) :
    stripTerminator bytes = bytes := by
  rcases List.eq_nil_or_concat bytes with rfl | ⟨front, b, rfl⟩
  · rfl
  · rw [List.concat_eq_append] at unended ⊢
    rw [stripTerminator_concat, unended b (by simp)]
    rfl

/-- What ends in no carriage return is kept. -/
theorem dropReturn_of_open {bytes : Bytes} (unended : bytes.getLast? ≠ some 0x0D) : dropReturn bytes = bytes := by
  rcases List.eq_nil_or_concat bytes with rfl | ⟨front, b, rfl⟩
  · rfl
  · rw [List.concat_eq_append] at unended ⊢
    exact (dropReturn_concat front b).trans (if_neg fun same => unended (by simp [same]))

/-- Terminators are characters of ASCII. -/
theorem toNat_of_isTerminator {b : UInt8} (terminator : isTerminator b = true) : b.toNat ≤ 0x0A := by
  simp only [isTerminator, Bool.or_eq_true, decide_eq_true_eq] at terminator
  rcases terminator with rfl | rfl <;> decide

/-- A source with its terminator, if it has one: the bytes of `body` and what is dropped behind them. -/
inductive Terminated (body : Bytes) : Bytes → Prop
  | unended (feed : body.getLast? ≠ some 0x0A) (zero : body.getLast? ≠ some 0x00) : Terminated body body
  | feed (unreturned : body.getLast? ≠ some 0x0D) : Terminated body (body ++ [0x0A])
  | zero (unreturned : body.getLast? ≠ some 0x0D) : Terminated body (body ++ [0x00])
  | returnFeed : Terminated body (body ++ [0x0D, 0x0A])
  /-- A carriage return is not kept before a zero byte either, although the two are no line end. -/
  | returnZero : Terminated body (body ++ [0x0D, 0x00])

theorem stripTerminator_return (body : Bytes) {b : UInt8} (terminator : isTerminator b = true) :
    stripTerminator (body ++ [0x0D, b]) = body := by
  have apart : body ++ [0x0D, b] = (body ++ [0x0D]) ++ [b] := by simp
  rw [apart, stripTerminator_concat, if_pos terminator, dropReturn_concat, if_pos rfl]

theorem stripTerminator_byte {body : Bytes} (unreturned : body.getLast? ≠ some 0x0D) {b : UInt8}
    (terminator : isTerminator b = true) : stripTerminator (body ++ [b]) = body := by
  rw [stripTerminator_concat, if_pos terminator, dropReturn_of_open unreturned]

/-- What is dropped with a terminator is the terminator, and a carriage return before it if there is one. -/
theorem terminated_dropReturn (front : Bytes) {b : UInt8} (terminator : isTerminator b = true) :
    Terminated (dropReturn front) (front ++ [b]) := by
  simp only [isTerminator, Bool.or_eq_true, decide_eq_true_eq] at terminator
  by_cases returned : front.getLast? = some 0x0D
  · obtain ⟨body, rfl⟩ := List.getLast?_eq_some_iff.mp returned
    rw [dropReturn_concat, if_pos rfl, List.append_assoc]
    rcases terminator with rfl | rfl
    · exact .returnFeed
    · exact .returnZero
  · rw [dropReturn_of_open returned]
    rcases terminator with rfl | rfl
    · exact .feed returned
    · exact .zero returned

/-- Just one terminator is dropped: a line end of two bytes, a line feed that no carriage return stands before, or
a zero byte; what ends in neither a line feed nor a zero byte is kept. But a zero byte takes a carriage return before
it along as a line feed does, so that of a source that ends in a carriage return and a zero byte one byte too many is
dropped. -/
theorem stripTerminator_eq_iff {bytes body : Bytes} : stripTerminator bytes = body ↔ Terminated body bytes := by
  constructor
  · rintro rfl
    rcases List.eq_nil_or_concat bytes with rfl | ⟨front, b, rfl⟩
    · exact .unended nofun nofun
    · rw [List.concat_eq_append, stripTerminator_concat]
      split
      · next terminator => exact terminated_dropReturn front terminator
      · next kept =>
        rw [isTerminator, Bool.or_eq_true, decide_eq_true_eq, decide_eq_true_eq, not_or] at kept
        exact .unended (by simpa using kept.1) (by simpa using kept.2)
  · intro terminated
    cases terminated with
    | unended feed zero =>
      refine stripTerminator_of_open fun b last => ?_
      rw [Option.mem_def] at last
      rw [isTerminator, Bool.or_eq_false_iff, decide_eq_false_iff_not, decide_eq_false_iff_not]
      exact ⟨fun same => feed (same ▸ last), fun same => zero (same ▸ last)⟩
    | feed unreturned => exact stripTerminator_byte unreturned (by decide)
    | zero unreturned => exact stripTerminator_byte unreturned (by decide)
    | returnFeed => exact stripTerminator_return body (by decide)
    | returnZero => exact stripTerminator_return body (by decide)

example : stripTerminator [0x61, 0x0D, 0x00] = [0x61] := rfl

/-! ## Bytes and texts -/

theorem dropTerminator_concat (t : Text) {b : UInt8} (terminator : isTerminator b = true) :
    Text.dropTerminator (t ++ [CodePoint.ofByte b]) = t.dropReturn := by
  simp only [isTerminator, Bool.or_eq_true, decide_eq_true_eq] at terminator
  rcases terminator with rfl | rfl <;> simp [Text.dropTerminator, CodePoint.ofByte, CodePoint.ofChar]

section Ended

variable {decode : Bytes → Option Text} (ended : Encoding.AsciiEnded decode)
include ended

/-- An ASCII character that a text ends in is the byte that its bytes end in. -/
theorem getLast?_ended {bytes : Bytes} {t : Text} {c : CodePoint} (read : decode bytes = some t)
    (last : t.getLast? = some c) (ascii : c.val < 0x80) : bytes.getLast? = some (UInt8.ofNat c.val) := by
  obtain ⟨front, rfl⟩ := List.getLast?_eq_some_iff.mp last
  obtain ⟨before, rfl⟩ := ended.ends read ascii
  simp

theorem dropReturn_ended (bytes : Bytes) : decode (dropReturn bytes) = (decode bytes).map Text.dropReturn := by
  by_cases last : bytes.getLast? = some 0x0D
  · obtain ⟨front, rfl⟩ := List.getLast?_eq_some_iff.mp last
    rw [dropReturn_concat, if_pos rfl, ended.concat front (by decide), Option.map_map]
    have undone : Text.dropReturn ∘ (· ++ [CodePoint.ofByte 0x0D]) = id := by
      funext t
      simp [Text.dropReturn, CodePoint.ofByte, CodePoint.ofChar]
    rw [undone, Option.map_id]
    rfl
  · rw [dropReturn_of_open last]
    cases read : decode bytes with
    | none => rfl
    | some t =>
      have kept : t.dropReturn = t := if_neg fun returned => last (getLast?_ended ended read returned (by decide))
      rw [Option.map_some, kept]

/-- To drop the terminator from the bytes is to drop it from the text. -/
theorem stripTerminator_ended (bytes : Bytes) :
    decode (stripTerminator bytes) = (decode bytes).map Text.dropTerminator := by
  by_cases last : ∃ b, bytes.getLast? = some b ∧ isTerminator b = true
  · obtain ⟨b, last, terminator⟩ := last
    obtain ⟨front, rfl⟩ := List.getLast?_eq_some_iff.mp last
    have ascii := toNat_of_isTerminator terminator
    rw [stripTerminator_concat, if_pos terminator, dropReturn_ended ended, ended.concat front (by omega),
      Option.map_map]
    congr 1
    funext t
    exact (dropTerminator_concat t terminator).symm
  · rw [stripTerminator_of_open (by simpa using last)]
    cases read : decode bytes with
    | none => rfl
    | some t =>
      have kept : t.dropTerminator = t := if_neg fun terminated => by
        rcases terminated with feed | zero
        · exact last ⟨_, getLast?_ended ended read feed (by decide), by decide⟩
        · exact last ⟨_, getLast?_ended ended read zero (by decide), by decide⟩
      rw [Option.map_some, kept]

end Ended

/-- In encodings that are based on ASCII, dropping the terminator from the bytes of a file neither makes them
spell a text nor keeps them from spelling one, and the text that they then spell is the one that all of them
spell without its terminator. So a source is read with its terminator dropped just where it is read at all, and
what is read differs by that alone. -/
theorem stripping_textual {name : Text} {e : Encoding} (named : Named name e) (based : e ∈ Encoding.asciiBased) :
    (∀ codecs bytes, (decode codecs name (stripTerminator bytes)).toOption =
        (decode codecs name bytes).toOption.map Text.dropTerminator) ∧
      ∀ (path : Text) (w : World), (read ⟨true, name⟩ path w).1.toOption =
        (read ⟨false, name⟩ path w).1.toOption.map Text.dropTerminator := by
  have stripped : ∀ bytes, (e.decode (stripTerminator bytes)).toOption =
      (e.decode bytes).toOption.map Text.dropTerminator :=
    stripTerminator_ended (Encoding.ended_of_mem based)
  constructor
  · intro codecs bytes
    rw [decode_named named, decode_named named, Except.toOption_mapError, Except.toOption_mapError]
    exact stripped bytes
  · intro path w
    cases found : w.files.read path with
    | error f => rw [read_of_fault found, read_of_fault found]; rfl
    | ok content =>
      rw [read_of_named named found, read_of_named named found, Except.toOption_mapError, Except.toOption_mapError]
      exact stripped content.bytes

/-- A mark, and a line end of two bytes with no text before it; and two bytes of a character of three before
such a line end. -/
theorem stripping_textual_signed :
    Named "utf-8-sig" .utf8Signed ∧ Encoding.utf8Signed ∈ Encoding.asciiBased ∧
      (decode .none "utf-8-sig" (stripTerminator [0xEF, 0xBB, 0xBF, 0x0D, 0x0A])).toOption = some [] ∧
      (decode .none "utf-8-sig" (stripTerminator [0xE2, 0x82, 0x0D, 0x0A])).toOption = none := by
  have named : Named "utf-8-sig" .utf8Signed := by decide
  have based : Encoding.utf8Signed ∈ Encoding.asciiBased := by decide
  obtain ⟨stripped, -⟩ := stripping_textual named based
  exact ⟨named, based, stripped _ _, stripped _ _⟩

/-- The names that these encodings go by. -/
example : (["utf-8", "utf-8-sig", "ascii", "latin-1", "cp1252"] : List Text).map Encoding.find? =
    Encoding.asciiBased.map fun e => some (.text e) := by decide +kernel

/-! ## Lines -/

/-- A line that was written, and nothing else, is read back as it was. -/
theorem line_reads_back {t : Text} (unended : t.getLast? ≠ some (CodePoint.ofChar '\r')) {written pending line : Bytes}
    (wrote : (Output.bytes written pending).writeLine t = .bytes (written ++ pending ++ line) [])
    {path : Text} {w : World} {claimed : Nat} (holds : w.files.read path = .ok ⟨line, claimed⟩) :
    ((∀ c ∈ t, c.isSurrogate = false) → (read ⟨true, "utf-8"⟩ path w).1 = .ok t) ∧
      ((∃ c ∈ t, c.isSurrogate = true) → ∃ reason, (read ⟨true, "utf-8"⟩ path w).1 = .error (.unread path reason)) := by
  have spelled : line = Utf8.encode t ++ [0x0A] := by
    have all : (Output.bytes written pending).writeLine t =
        .bytes (written ++ pending ++ Utf8.encode (t ++ "\n") ++ []) [] := rfl
    rw [all, Writing.encode_line, List.append_nil] at wrote
    injection wrote with same
    exact (List.append_cancel_left same).symm
  have kept : stripTerminator line = Utf8.encode t := by
    rw [spelled, stripTerminator_concat, if_pos (by decide)]
    refine dropReturn_of_open fun returned => unended ?_
    obtain ⟨front, returned⟩ := List.getLast?_eq_some_iff.mp returned
    obtain ⟨u, rfl, -⟩ := (Utf8.encode_eq_concat (by decide)).mp returned
    simp [CodePoint.ofByte, CodePoint.ofChar]
  have came : (read ⟨true, "utf-8"⟩ path w).1 = (Utf8.decode (Utf8.encode t)).mapError fun d =>
      .unread path ("not valid " ++ "utf-8" ++ ": " ++ d.message) :=
    (read_of_named named_utf8 holds).trans (by rw [← kept]; rfl)
  rw [came]
  constructor
  · intro plain
    rw [Utf8.decode_eq_ok_iff.mpr ⟨rfl, plain⟩]
    rfl
  · rintro ⟨c, inside, surrogate⟩
    cases ran : Utf8.decode (Utf8.encode t) with
    | error d => exact ⟨_, rfl⟩
    | ok u =>
      obtain ⟨same, plain⟩ := Utf8.decode_eq_ok_iff.mp ran
      cases Utf8.encode_injective same
      exact absurd surrogate (by simp [plain c inside])

/-- A blank world with one file, in the working directory. -/
def shelf (name : Component) (bytes : Bytes) : World := .holding [([name], .file bytes bytes.length)]

/-- A text with characters of two and of four bytes that ends in a line feed and a zero, written to a stream that
holds back a byte, and a text that ends in a surrogate. -/
theorem line_reads_back_both :
    let zero : Bytes := [0xC3, 0xA9, 0xF0, 0x9F, 0x98, 0x80, 0x0A, 0x00, 0x0A]
    let torn : Bytes := [0xC3, 0xA9, 0xED, 0xA0, 0xBD, 0x0A]
    let half : Text := [CodePoint.ofChar 'é', CodePoint.ofNat 0xD83D]
    ((Output.bytes [0x7E] [0x61]).writeLine "é😀\n\x00" = .bytes ([0x7E, 0x61] ++ zero) [] ∧
      (read ⟨true, "utf-8"⟩ "f" (shelf [0x66] zero)).1 = .ok "é😀\n\x00") ∧
    (Output.bytes [] []).writeLine half = .bytes torn [] ∧
      ∃ reason, (read ⟨true, "utf-8"⟩ "f" (shelf [0x66] torn)).1 = .error (.unread "f" reason) := by
  intro zero torn half
  have wrote : (Output.bytes [0x7E] [0x61]).writeLine "é😀\n\x00" = .bytes ([0x7E] ++ [0x61] ++ zero) [] := rfl
  have holds : (shelf [0x66] zero).files.read "f" = .ok ⟨zero, 9⟩ := rfl
  have wrote' : (Output.bytes [] []).writeLine half = .bytes ([] ++ [] ++ torn) [] := rfl
  have holds' : (shelf [0x66] torn).files.read "f" = .ok ⟨torn, 6⟩ := rfl
  refine ⟨⟨wrote, (line_reads_back (by decide) wrote holds).1 (by decide)⟩, wrote', ?_⟩
  exact (line_reads_back (by decide) wrote' holds').2 ⟨CodePoint.ofNat 0xD83D, by decide, by decide⟩

end Source

end ScriptHost
