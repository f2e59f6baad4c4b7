/-
Sources in units of two and of four bytes. The terminator is a single byte, so in these encodings it is the last
byte of a unit that is dropped, and the rest of the unit stays behind: what is left is no whole number of units,
unless it was a unit of two bytes whose first one passes for a carriage return. A source whose last byte is no
terminator is read in full.
-/
import ScriptHost.Proofs.Source.Terminator
import ScriptHost.Proofs.Text.Wide

namespace ScriptHost

namespace Encoding

theorem eq_of_append_bytes16 {order : ByteOrder} {front before : Bytes} {x y : UInt8} {n : Nat} (h : n < 0x10000)
    (same : front ++ [x, y] = before ++ bytes16 order n) : front = before ∧ pair order x y = n := by
  obtain ⟨a, b, bytes, value⟩ := pair_bytes16 order h
  rw [bytes] at same
  obtain ⟨rfl, last⟩ := List.append_inj' same rfl
  cases last
  exact ⟨rfl, value⟩

/-- A unit that passes for a carriage return and a terminator is no mark and no surrogate. -/
theorem pair_return_lt (order : ByteOrder) {b : UInt8} (terminator : Source.isTerminator b = true) :
    pair order 0x0D b < 0xE00 := by
  have small := Source.toNat_of_isTerminator terminator
  have returned : (0x0D : UInt8).toNat = 0x0D := rfl
  unfold pair
  split <;> omega

/-- A text in units of two whose bytes end in such a unit ends in the code point that it is. -/
theorem Spells.dropLast {given : ByteOrder} {t : Text} {front : Bytes} {b : UInt8}
    (spells : Spells (.utf16 given) t (front ++ [0x0D, b])) (terminator : Source.isTerminator b = true) :
    Spells (.utf16 given) t.dropLast front := by
  generalize all : front ++ [0x0D, b] = bytes at spells
  cases spells with
  | @units _ order head heads t =>
    have low := pair_return_lt order terminator
    rcases List.eq_nil_or_concat t with rfl | ⟨u, c, rfl⟩
    · cases heads with
      | fixed => cases front <;> cases all
      | marked =>
        have mark : front ++ [0x0D, b] = [] ++ bytes16 order 0xFEFF := all.trans (List.append_nil _)
        have value := (eq_of_append_bytes16 (by decide) mark).2
        omega
    · rw [List.concat_eq_append] at all ⊢
      rw [encode16_append, ← List.append_assoc] at all
      by_cases single : c.val < 0x10000
      · rw [encode16_single single] at all
        rw [List.dropLast_concat, (eq_of_append_bytes16 single all).1]
        exact .units heads u
      · obtain ⟨n, k, -, hk, -, pair⟩ := encode16_pair order (Nat.le_of_not_lt single)
        rw [pair, ← List.append_assoc] at all
        have value := (eq_of_append_bytes16 (by omega) all).2
        omega

end Encoding

namespace Source

/-- Bytes that are cut by the terminator, and by no unit of two with it, are no whole number of units. -/
theorem undecoded_of_cut {e : Encoding} {t : Text} {front : Bytes} {b : UInt8}
    (spells : Encoding.Spells e t (front ++ [b])) (plain : ∀ c ∈ t, c.isSurrogate = false)
    (cut : ¬ (e.unit = 2 ∧ front.getLast? = some 0x0D)) : ∃ d, e.decode (dropReturn front) = .error d := by
  have read := spells.decode plain
  cases ran : e.decode (dropReturn front) with
  | error d => exact ⟨d, rfl⟩
  | ok u =>
    exfalso
    rcases spells.wide with ⟨given, rfl⟩ | ⟨given, rfl⟩
    · -- one byte is missing
      have kept : dropReturn front = front := dropReturn_of_open fun returned => cut ⟨rfl, returned⟩
      rw [kept] at ran
      have even := Encoding.even_of_decode16 read
      have even' := Encoding.even_of_decode16 ran
      simp only [List.length_append, List.length_singleton] at even
      omega
    · -- one byte or two are missing
      have whole := Encoding.four_dvd_of_decode32 read
      have whole' := Encoding.four_dvd_of_decode32 ran
      have shorter := length_dropReturn front
      simp only [List.length_append, List.length_singleton] at whole
      omega

/-- A source in units of two or four bytes is read as it was written where nothing is dropped from it. Where the
terminator is dropped, it is read so if its last byte is none; and if it is one, the source counts as unreadable
unless that takes away a unit of two bytes, and then the last code point with it. -/
theorem wide_read {name : Text} {e : Encoding} (named : Named name e) {t : Text}
    (plain : ∀ c ∈ t, c.isSurrogate = false) {bytes : Bytes} (spells : Encoding.Spells e t bytes) {path : Text}
    {w : World} {claimed : Nat} (holds : w.files.read path = .ok ⟨bytes, claimed⟩) :
    (read ⟨false, name⟩ path w).1 = .ok t ∧
      ((∀ b ∈ bytes.getLast?, isTerminator b = false) → (read ⟨true, name⟩ path w).1 = .ok t) ∧
      ∀ front b, bytes = front ++ [b] → isTerminator b = true →
        if e.unit = 2 ∧ front.getLast? = some 0x0D then (read ⟨true, name⟩ path w).1 = .ok t.dropLast
        else ∃ reason, (read ⟨true, name⟩ path w).1 = .error (.unread path reason) := by
  rw [read_of_named named holds, read_of_named named holds]
  refine ⟨?_, fun unended => ?_, ?_⟩
  · show (e.decode bytes).mapError _ = _
    rw [spells.decode plain]
    rfl
  · show (e.decode (stripTerminator bytes)).mapError _ = _
    rw [stripTerminator_of_open unended, spells.decode plain]
    rfl
  · rintro front b rfl terminator
    have kept : Reading.kept ⟨true, name⟩ (front ++ [b]) = dropReturn front := by
      show stripTerminator (front ++ [b]) = _
      rw [stripTerminator_concat, if_pos terminator]
    dsimp only
    rw [kept]
    split
    · next whole =>
      obtain ⟨two, returned⟩ := whole
      obtain ⟨before, rfl⟩ := List.getLast?_eq_some_iff.mp returned
      rcases spells.wide with ⟨given, rfl⟩ | ⟨given, rfl⟩
      · rw [List.append_assoc] at spells
        have left := (spells.dropLast terminator).decode fun c inside => plain c (List.dropLast_subset t inside)
        rw [dropReturn_concat, if_pos rfl, left]
        rfl
      · cases two
    · next cut =>
      obtain ⟨d, failed⟩ := undecoded_of_cut spells plain cut
      exact ⟨_, by rw [failed]; rfl⟩

/-- A letter is read in one order of bytes and not in the other, and behind a mark a letter of another script is
taken for a line end. -/
theorem wide_read_letters :
    let lost : Text := [CodePoint.ofChar 'a', CodePoint.ofNat 0x0D0A]
    (Encoding.Spells (.utf16 .big) "a" [0x00, 0x61] ∧
      (read ⟨true, "utf-16-be"⟩ "f" (shelf [0x66] [0x00, 0x61])).1 = .ok "a") ∧
    (Encoding.Spells (.utf16 .little) "a" [0x61, 0x00] ∧
      ∃ reason, (read ⟨true, "utf-16-le"⟩ "f" (shelf [0x66] [0x61, 0x00])).1 = .error (.unread "f" reason)) ∧
    Encoding.Spells (.utf16 .marked) lost [0xFE, 0xFF, 0x00, 0x61, 0x0D, 0x0A] ∧
      (read ⟨true, "utf-16"⟩ "f" (shelf [0x66] [0xFE, 0xFF, 0x00, 0x61, 0x0D, 0x0A])).1 = .ok "a" := by
  intro lost
  have big : Encoding.Spells (.utf16 .big) "a" [0x00, 0x61] := .units (.fixed (by decide)) ("a" : Text)
  have little : Encoding.Spells (.utf16 .little) "a" [0x61, 0x00] := .units (.fixed (by decide)) ("a" : Text)
  have head : Encoding.Heads (Encoding.bytes16 · 0xFEFF) .marked .big [0xFE, 0xFF] := .marked (by decide)
  have marked : Encoding.Spells (.utf16 .marked) lost [0xFE, 0xFF, 0x00, 0x61, 0x0D, 0x0A] := .units head lost
  have first : (shelf [0x66] [0x00, 0x61]).files.read "f" = .ok ⟨[0x00, 0x61], 2⟩ := rfl
  have second : (shelf [0x66] [0x61, 0x00]).files.read "f" = .ok ⟨[0x61, 0x00], 2⟩ := rfl
  have third : (shelf [0x66] [0xFE, 0xFF, 0x00, 0x61, 0x0D, 0x0A]).files.read "f" =
      .ok ⟨[0xFE, 0xFF, 0x00, 0x61, 0x0D, 0x0A], 6⟩ := rfl
  refine ⟨⟨big, ?_⟩, ⟨little, ?_⟩, marked, ?_⟩
  · have unended : ∀ b ∈ ([0x00, 0x61] : Bytes).getLast?, isTerminator b = false := by
      rintro _ ⟨⟩
      decide
    exact (wide_read (by decide) (by decide) big first).2.1 unended
  · have named : Named "utf-16-le" (.utf16 .little) := by decide
    have cut := (wide_read named (by decide) little second).2.2 [0x61] 0x00 rfl (by decide)
    rwa [if_neg (by decide)] at cut
  · have named : Named "utf-16" (.utf16 .marked) := by decide
    have whole := (wide_read named (by decide) marked third).2.2 [0xFE, 0xFF, 0x00, 0x61, 0x0D] 0x0A rfl (by decide)
    rwa [if_pos (by decide)] at whole

/-- The names that these encodings go by. -/
example : (["utf-16", "utf-16-le", "utf-16-be", "utf-32", "utf-32-le", "utf-32-be"] : List Text).map Encoding.find? =
    [.utf16 .marked, .utf16 .little, .utf16 .big, .utf32 .marked, .utf32 .little, .utf32 .big].map
      fun e => some (.text e) := by decide +kernel

end Source

end ScriptHost
