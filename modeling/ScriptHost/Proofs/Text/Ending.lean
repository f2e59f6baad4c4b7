/-
Encodings based on ASCII. In them a text ends in an ASCII character just where its bytes end in that byte, and
what stands before the byte spells what stands before the character. This holds of readings that fail as well:
a byte of ASCII at the end neither makes the bytes before it a text nor keeps them from being one.
-/
import ScriptHost.Text.Encoding
import ScriptHost.Proofs.Text.Utf8

namespace ScriptHost

theorem Except.toOption_eq_some_iff {ε α : Type} {x : Except ε α} {a : α} : x.toOption = some a ↔ x = .ok a := by
  cases x <;> simp [Except.toOption]

theorem Except.toOption_mapError {ε ε' α : Type} (x : Except ε α) (f : ε → ε') :
    (x.mapError f).toOption = x.toOption := by
  cases x <;> rfl

theorem CodePoint.isSurrogate_ofByte (b : UInt8) : (CodePoint.ofByte b).isSurrogate = false := by
  have small : (ofByte b).val < 0x100 := b.toNat_lt
  exact isSurrogate_eq_false_iff.mpr (.inl (by omega))

namespace Utf8

/-- The last byte of a code point beyond ASCII is a tail byte. -/
theorem encodePoint_beyond {c : CodePoint} (beyond : 0x80 ≤ c.val) :
    ∃ front d, d < 0x40 ∧ encodePoint c = front ++ [UInt8.ofNat (0x80 + d)] := by
  simp only [encodePoint, if_neg (Nat.not_lt.mpr beyond)]
  split
  · exact ⟨[_], c.val % 0x40, by omega, rfl⟩
  · split
    · exact ⟨[_, _], c.val % 0x40, by omega, rfl⟩
    · exact ⟨[_, _, _], c.val % 0x40, by omega, rfl⟩

/-- An ASCII byte at the end of the bytes of a text is a character at the end of the text. -/
theorem encode_eq_concat {t : Text} {bytes : Bytes} {b : UInt8} (ascii : b.toNat < 0x80) :
    encode t = bytes ++ [b] ↔ ∃ u, t = u ++ [CodePoint.ofByte b] ∧ encode u = bytes := by
  constructor
  · intro spelled
    rcases List.eq_nil_or_concat t with rfl | ⟨u, c, rfl⟩
    · simp [encode_nil] at spelled
    · rw [List.concat_eq_append, encode_append, encode_cons, encode_nil, List.append_nil] at spelled
      by_cases small : c.val < 0x80
      · rw [encodePoint_ascii small] at spelled
        obtain ⟨rfl, last⟩ := List.append_inj' spelled rfl
        have same : c.val = b.toNat := by
          rw [← toNat_byte (show c.val < 0x100 by omega), List.singleton_inj.mp last]
        exact ⟨u, by simp [CodePoint.ofByte, ← same], rfl⟩
      · obtain ⟨front, d, hd, tail⟩ := encodePoint_beyond (Nat.le_of_not_lt small)
        rw [tail, ← List.append_assoc] at spelled
        obtain ⟨-, last⟩ := List.append_inj' spelled rfl
        rw [← List.singleton_inj.mp last, toNat_byte (by omega)] at ascii
        omega
  · rintro ⟨u, rfl, rfl⟩
    rw [encode_append, encode_cons, encodePoint_ascii ascii]
    simp [encode_nil, CodePoint.ofByte]

end Utf8

namespace Encoding

/-- A reading in which an ASCII byte at the end is an ASCII character at the end, and the other way round;
readings that fail come to nothing. -/
structure AsciiEnded (read : Bytes → Option Text) : Prop where
  concat : ∀ (bytes : Bytes) {b : UInt8}, b.toNat < 0x80 →
    read (bytes ++ [b]) = (read bytes).map (· ++ [CodePoint.ofByte b])
  ends : ∀ {bytes : Bytes} {t : Text} {c : CodePoint}, read bytes = some (t ++ [c]) → c.val < 0x80 →
    ∃ front, bytes = front ++ [UInt8.ofNat c.val]

theorem ended_utf8 : AsciiEnded fun bytes => (Utf8.decode bytes).toOption where
  concat bytes b ascii := by
    refine Option.ext fun u => ?_
    simp only [Except.toOption_eq_some_iff, Option.map_eq_some_iff, Utf8.decode_eq_ok_iff,
      Utf8.encode_eq_concat ascii]
    constructor
    · rintro ⟨⟨t, rfl, spelled⟩, plain⟩
      exact ⟨t, ⟨spelled, fun c inside => plain c (List.mem_append_left _ inside)⟩, rfl⟩
    · rintro ⟨t, ⟨spelled, plain⟩, rfl⟩
      refine ⟨⟨t, rfl, spelled⟩, fun c inside => ?_⟩
      rcases List.mem_append.mp inside with before | last
      · exact plain c before
      · cases List.mem_singleton.mp last
        exact CodePoint.isSurrogate_ofByte b
  ends {bytes t c} read ascii := by
    obtain ⟨spelled, -⟩ := Utf8.decode_eq_ok_iff.mp (Except.toOption_eq_some_iff.mp read)
    rw [Utf8.encode_append, Utf8.encode_cons, Utf8.encodePoint_ascii ascii, Utf8.encode_nil] at spelled
    exact ⟨_, spelled.symm⟩

/-! ## Signed UTF-8 -/

/-- Signed UTF-8 is UTF-8 after a leading mark. -/
theorem decode_signed (bytes : Bytes) :
    (∃ rest, bytes = 0xEF :: 0xBB :: 0xBF :: rest ∧ decode bytes .utf8Signed = Utf8.decode rest) ∨
      (∀ rest, bytes ≠ 0xEF :: 0xBB :: 0xBF :: rest) ∧ decode bytes .utf8Signed = Utf8.decode bytes := by
  simp only [decode]
  split
  · next rest => exact .inl ⟨rest, rfl, rfl⟩
  · next other => exact .inr ⟨fun rest e => other rest e, rfl⟩

theorem ended_utf8Signed : AsciiEnded fun bytes => (decode bytes .utf8Signed).toOption where
  concat bytes b ascii := by
    rcases decode_signed bytes with ⟨rest, rfl, read⟩ | ⟨unsigned, read⟩
    · rcases decode_signed (0xEF :: 0xBB :: 0xBF :: rest ++ [b]) with ⟨rest', signed, read'⟩ | ⟨unsigned, -⟩
      · cases signed
        rw [read, read']
        exact ended_utf8.concat rest ascii
      · exact absurd rfl (unsigned (rest ++ [b]))
    · rcases decode_signed (bytes ++ [b]) with ⟨rest, signed, -⟩ | ⟨-, read'⟩
      · -- the mark ends in no ASCII byte, so it was there before
        rcases List.eq_nil_or_concat rest with rfl | ⟨front, c, rfl⟩
        · have before : bytes ++ [b] = [0xEF, 0xBB] ++ [0xBF] := signed
          cases (List.append_inj' before rfl).2
          exact absurd ascii (by decide)
        · have before : bytes ++ [b] = (0xEF :: 0xBB :: 0xBF :: front) ++ [c] := by simpa using signed
          exact absurd (List.append_inj' before rfl).1 (unsigned front)
      · rw [read, read']
        exact ended_utf8.concat bytes ascii
  ends {bytes t c} read ascii := by
    rcases decode_signed bytes with ⟨rest, rfl, read'⟩ | ⟨_, read'⟩ <;> rw [read'] at read
    · obtain ⟨front, rfl⟩ := ended_utf8.ends read ascii
      exact ⟨0xEF :: 0xBB :: 0xBF :: front, rfl⟩
    · exact ended_utf8.ends read ascii

/-! ## Tables -/

theorem toOption_decodeTable_go (codec reason : Text) (point : UInt8 → Option CodePoint) (all : Bytes) :
    ∀ (pos : Nat) (bytes : Bytes),
      (decodeTable.go codec reason point all pos bytes).toOption = bytes.mapM point
  | _, [] => rfl
  | pos, b :: rest => by
    have ih := toOption_decodeTable_go codec reason point all (pos + 1) rest
    rw [decodeTable.go, List.mapM_cons, ← ih]
    cases point b with
    | none => rfl
    | some c => cases decodeTable.go codec reason point all (pos + 1) rest <;> rfl

/-- A table is read byte by byte. -/
theorem toOption_decodeTable (codec reason : Text) (point : UInt8 → Option CodePoint) (bytes : Bytes) :
    (decodeTable codec reason point bytes).toOption = bytes.mapM point :=
  toOption_decodeTable_go codec reason point bytes 0 bytes

theorem mapM_concat (point : UInt8 → Option CodePoint) (bytes : Bytes) (b : UInt8) :
    (bytes ++ [b]).mapM point = (bytes.mapM point).bind fun t => (point b).map fun c => t ++ [c] := by
  rw [List.mapM_append, List.mapM_cons, List.mapM_nil]
  cases bytes.mapM point <;> cases point b <;> rfl

/-- Tables that have ASCII in its places, and nowhere else. -/
theorem ended_table {point : UInt8 → Option CodePoint}
    (places : ∀ b, b.toNat < 0x80 → point b = some (CodePoint.ofByte b))
    (only : ∀ b c, point b = some c → c.val < 0x80 → c = CodePoint.ofByte b) :
    AsciiEnded fun bytes => bytes.mapM point where
  concat bytes b ascii := by
    rw [mapM_concat, places b ascii]
    cases bytes.mapM point <;> rfl
  ends {bytes t c} read ascii := by
    rcases List.eq_nil_or_concat bytes with rfl | ⟨front, b, rfl⟩
    · cases t <;> cases read
    · refine ⟨front, ?_⟩
      rw [List.concat_eq_append, mapM_concat] at read
      obtain ⟨u, -, read⟩ := Option.bind_eq_some_iff.mp read
      obtain ⟨c', found, same⟩ := Option.map_eq_some_iff.mp read
      obtain ⟨-, last⟩ := List.append_inj' same rfl
      cases List.singleton_inj.mp last
      rw [List.concat_eq_append, only b c found ascii]
      simp [CodePoint.ofByte]

/-- Latin-1 is the table of the first code points. -/
theorem ended_latin1 : AsciiEnded fun bytes => (decode bytes .latin1).toOption := by
  have table : (fun bytes => (decode bytes .latin1).toOption) = fun bytes : Bytes =>
      bytes.mapM fun b => some (CodePoint.ofByte b) := by
    funext bytes
    exact (List.mapM_pure (m := Option)).symm
  rw [table]
  exact ended_table (fun _ _ => rfl) fun b c same _ => (Option.some.inj same).symm

theorem ended_ascii : AsciiEnded fun bytes => (decode bytes .ascii).toOption := by
  simp only [decode, toOption_decodeTable]
  refine ended_table (fun b small => ?_) fun b c found _ => ?_
  · rw [asciiPoint, if_pos (UInt8.lt_iff_toNat_lt.mpr small)]
  · unfold asciiPoint at found
    split at found <;> cases found
    rfl

/-- The marks of the Windows table lie beyond ASCII. -/
theorem windowsMarks_beyond : ∀ mark ∈ windowsMarks, ∀ n ∈ mark, 0x80 ≤ n ∧ n < 0x110000 := by decide

theorem ended_windows1252 : AsciiEnded fun bytes => (decode bytes .windows1252).toOption := by
  simp only [decode, toOption_decodeTable]
  refine ended_table (fun b small => ?_) fun b c found ascii => ?_
  · refine if_neg fun inside => ?_
    have big : 0x80 ≤ b.toNat := UInt8.le_iff_toNat_le.mp inside.1
    omega
  · unfold windowsPoint at found
    split at found
    · obtain ⟨n, marked, rfl⟩ := Option.map_eq_some_iff.mp found
      cases at_b : windowsMarks[b.toNat - 0x80]? with
      | none => simp [at_b] at marked
      | some mark =>
        rw [at_b, Option.getD_some] at marked
        obtain ⟨beyond, inside⟩ := windowsMarks_beyond mark (List.mem_of_getElem? at_b) n marked
        rw [CodePoint.val_ofNat inside] at ascii
        omega
    · exact (Option.some.inj found).symm

/-! ## All of them -/

/-- The encodings that are based on ASCII. -/
def asciiBased : List Encoding := [.utf8, .utf8Signed, .ascii, .latin1, .windows1252]

theorem ended_of_mem {e : Encoding} (among : e ∈ asciiBased) :
    AsciiEnded fun bytes => (e.decode bytes).toOption := by
  simp only [asciiBased, List.mem_cons, List.not_mem_nil, or_false] at among
  rcases among with rfl | rfl | rfl | rfl | rfl
  · exact ended_utf8
  · exact ended_utf8Signed
  · exact ended_ascii
  · exact ended_latin1
  · exact ended_windows1252

end Encoding

end ScriptHost
