/-
Encodings in units of two and of four bytes. Texts are written in either order of bytes, with a mark before
them where the encoding fixes no order. What is written so is read back, as long as no surrogate stands in it,
and nothing is read whose bytes make no whole number of units.
-/
import ScriptHost.Text.Encoding
import ScriptHost.Text.Utf16
import ScriptHost.Proofs.Text.Utf8

namespace ScriptHost

theorem Except.ok_of_map {ε α β : Type} {x : Except ε α} {f : α → β} {b : β} (h : x.map f = .ok b) :
    ∃ a, x = .ok a := by
  cases x with
  | error e => cases h
  | ok a => exact ⟨a, rfl⟩

namespace Encoding

/-! ## Writing -/

/-- The bytes of a 16-bit number. -/
def bytes16 (order : ByteOrder) (n : Nat) : Bytes :=
  if order = .big then [UInt8.ofNat (n / 0x100), UInt8.ofNat (n % 0x100)]
  else [UInt8.ofNat (n % 0x100), UInt8.ofNat (n / 0x100)]

/-- The bytes of a number of up to 32 bits. -/
def bytes32 (order : ByteOrder) (n : Nat) : Bytes :=
  if order = .big then bytes16 order (n / 0x10000) ++ bytes16 order (n % 0x10000)
  else bytes16 order (n % 0x10000) ++ bytes16 order (n / 0x10000)

/-- The bytes of a text in units of two. -/
def encode16 (order : ByteOrder) (t : Text) : Bytes := t.toUtf16.flatMap fun u => bytes16 order u.toNat

/-- The bytes of a text in units of four. -/
def encode32 (order : ByteOrder) (t : Text) : Bytes := t.flatMap fun c => bytes32 order c.val

/-- What stands before a text where an order of bytes is given, and the order it is then in: nothing, or, where
no order is fixed, the mark that tells it. -/
inductive Heads (mark : ByteOrder → Bytes) : ByteOrder → ByteOrder → Bytes → Prop
  | fixed {order : ByteOrder} (settled : order ≠ .marked) : Heads mark order order []
  | marked {order : ByteOrder} (settled : order ≠ .marked) : Heads mark .marked order (mark order)

/-- These bytes are the text in the encoding. -/
inductive Spells : Encoding → Text → Bytes → Prop
  | units {given order : ByteOrder} {head : Bytes} (heads : Heads (bytes16 · 0xFEFF) given order head) (t : Text) :
      Spells (.utf16 given) t (head ++ encode16 order t)
  | points {given order : ByteOrder} {head : Bytes} (heads : Heads (bytes32 · 0xFEFF) given order head) (t : Text) :
      Spells (.utf32 given) t (head ++ encode32 order t)

theorem Spells.wide {e : Encoding} {t : Text} {bytes : Bytes} (spells : Spells e t bytes) :
    (∃ given, e = .utf16 given) ∨ ∃ given, e = .utf32 given := by
  cases spells with
  | units => exact .inl ⟨_, rfl⟩
  | points => exact .inr ⟨_, rfl⟩

/-- How many bytes there are in a unit. -/
def unit : Encoding → Nat
  | .utf16 _ => 2
  | .utf32 _ => 4
  | _ => 1

/-- A reading that takes one code point after the other reads a text that is written so. -/
theorem decode_flatMap {ε : Type} {write : CodePoint → Bytes} {read : Nat → Bytes → Except ε Text}
    (nil : ∀ pos, read pos [] = .ok [])
    (point : ∀ c : CodePoint, c.isSurrogate = false → ∀ pos rest,
      read pos (write c ++ rest) = (read (pos + (write c).length) rest).map (c :: ·)) :
    ∀ {t : Text} {pos : Nat}, (∀ c ∈ t, c.isSurrogate = false) → read pos (t.flatMap write) = .ok t
  | [], pos, _ => nil pos
  | c :: t, pos, plain => by
    rw [List.flatMap_cons, point c (plain c List.mem_cons_self),
      decode_flatMap nil point fun d inside => plain d (.tail c inside)]
    rfl

/-! ## Units -/

variable {order : ByteOrder} {fault : Nat → Nat → Text → DecodingFault} {pos : Nat} {bytes rest : Bytes} {t : Text}

theorem pair_bytes16 (order : ByteOrder) {n : Nat} (h : n < 0x10000) :
    ∃ a b, bytes16 order n = [a, b] ∧ pair order a b = n := by
  have high : (UInt8.ofNat (n / 0x100)).toNat = n / 0x100 := Utf8.toNat_byte (by omega)
  have low : (UInt8.ofNat (n % 0x100)).toNat = n % 0x100 := Utf8.toNat_byte (by omega)
  unfold bytes16 pair
  split
  · exact ⟨_, _, rfl, by rw [high, low]; omega⟩
  · exact ⟨_, _, rfl, by rw [high, low]; omega⟩

theorem encode16_append (order : ByteOrder) (t u : Text) :
    encode16 order (t ++ u) = encode16 order t ++ encode16 order u := by
  simp [encode16, Text.toUtf16]

theorem encode16_single {c : CodePoint} (h : c.val < 0x10000) : encode16 order [c] = bytes16 order c.val := by
  have unit : (UInt16.ofNat c.val).toNat = c.val := by
    rw [UInt16.toNat_ofNat']
    exact Nat.mod_eq_of_lt h
  simp [encode16, Text.toUtf16, CodePoint.toUnits, h, unit]

/-- A code point beyond the first 65536 takes a high and a low surrogate. -/
theorem encode16_pair (order : ByteOrder) {c : CodePoint} (h : 0x10000 ≤ c.val) :
    ∃ n k, n < 0x400 ∧ k < 0x400 ∧ c.val = 0x10000 + n * 0x400 + k ∧
      encode16 order [c] = bytes16 order (0xD800 + n) ++ bytes16 order (0xDC00 + k) := by
  have limit := c.lt
  refine ⟨(c.val - 0x10000) / 0x400, (c.val - 0x10000) % 0x400, by omega, by omega, by omega, ?_⟩
  have high : (UInt16.ofNat (0xD800 + (c.val - 0x10000) / 0x400)).toNat = 0xD800 + (c.val - 0x10000) / 0x400 := by
    rw [UInt16.toNat_ofNat']
    exact Nat.mod_eq_of_lt (by omega)
  have low : (UInt16.ofNat (0xDC00 + (c.val - 0x10000) % 0x400)).toNat = 0xDC00 + (c.val - 0x10000) % 0x400 := by
    rw [UInt16.toNat_ofNat']
    exact Nat.mod_eq_of_lt (by omega)
  simp only [encode16, Text.toUtf16, List.flatMap_cons, List.flatMap_nil, List.append_nil, CodePoint.toUnits,
    if_neg (Nat.not_lt.mpr h), high, low]

/-! ## Reading in units of two -/

/-- A unit that is no surrogate is a code point. -/
theorem decode16From_unit {a b : UInt8} (outside : pair order a b < 0xD800 ∨ 0xE000 ≤ pair order a b) :
    decode16From order fault pos (a :: b :: rest) =
      (decode16From order fault (pos + 2) rest).map (CodePoint.ofNat (pair order a b) :: ·) := by
  rw [decode16From.eq_def]
  exact if_pos outside

/-- A code point that is no surrogate is read from its bytes, and then what follows them. -/
theorem decode16From_point {c : CodePoint} (plain : c.isSurrogate = false) :
    decode16From order fault pos (encode16 order [c] ++ rest) =
      (decode16From order fault (pos + (encode16 order [c]).length) rest).map (c :: ·) := by
  have outside := CodePoint.isSurrogate_eq_false_iff.mp plain
  by_cases small : c.val < 0x10000
  · obtain ⟨a, b, bytes, value⟩ := pair_bytes16 order small
    rw [encode16_single small, bytes, List.cons_append, List.cons_append, List.nil_append,
      decode16From_unit (by rwa [value]), value, c.ofNat_val]
    rfl
  · obtain ⟨n, k, hn, hk, value, bytes⟩ := encode16_pair order (Nat.le_of_not_lt small)
    obtain ⟨a, b, high, high_value⟩ := pair_bytes16 order (show 0xD800 + n < 0x10000 by omega)
    obtain ⟨a', b', low, low_value⟩ := pair_bytes16 order (show 0xDC00 + k < 0x10000 by omega)
    rw [bytes, high, low]
    simp only [List.cons_append, List.nil_append, decode16From, high_value, low_value, List.length_cons,
      List.length_nil]
    rw [if_neg (by omega), if_neg (by omega), if_pos (by omega), Nat.add_sub_cancel_left, Nat.add_sub_cancel_left,
      ← value, c.ofNat_val]

theorem decode16From_whole (plain : ∀ c ∈ t, c.isSurrogate = false) :
    decode16From order fault pos (encode16 order t) = .ok t := by
  have points : encode16 order t = t.flatMap fun c => encode16 order [c] := by
    simp [encode16, Text.toUtf16, List.flatMap_assoc]
  rw [points]
  exact decode_flatMap (fun _ => by rw [decode16From]) (fun _ plain _ _ => decode16From_point plain) plain

/-- What is read is a whole number of units. -/
theorem even_of_decode16From : ∀ {bytes : Bytes} {pos : Nat} {t : Text},
    decode16From order fault pos bytes = .ok t → 2 ∣ bytes.length
  | [], _, _, _ => ⟨0, rfl⟩
  | [_], _, _, read => by cases read
  | a :: b :: rest, pos, t, read => by
    rw [decode16From.eq_def] at read
    dsimp only at read
    split at read
    · obtain ⟨u, others⟩ := Except.ok_of_map read
      have even := even_of_decode16From others
      simp only [List.length_cons]
      omega
    · split at read
      · cases read
      · split at read
        · next a' b' more =>
          split at read
          · obtain ⟨u, others⟩ := Except.ok_of_map read
            have even := even_of_decode16From others
            simp only [List.length_cons]
            omega
          · cases read
        · cases read

/-! ## Reading in units of four -/

/-- The number of four bytes. -/
def quad (order : ByteOrder) (a b c d : UInt8) : Nat :=
  if order = .big then pair .big a b * 0x10000 + pair .big c d else pair .little c d * 0x10000 + pair .little a b

theorem decode32From_quad (a b c d : UInt8) : decode32From order fault pos (a :: b :: c :: d :: rest) =
    if 0xD800 ≤ quad order a b c d ∧ quad order a b c d < 0xE000 then
      .error (fault pos (pos + 4) "code point in surrogate code point range(0xd800, 0xe000)")
    else if h : quad order a b c d < 0x110000 then
      (decode32From order fault (pos + 4) rest).map (⟨quad order a b c d, h⟩ :: ·)
    else .error (fault pos (pos + 4) "code point not in range(0x110000)") := by
  rw [decode32From]
  rfl

theorem quad_bytes32 (order : ByteOrder) {n : Nat} (h : n < 0x100000000) :
    ∃ a b c d, bytes32 order n = [a, b, c, d] ∧ quad order a b c d = n := by
  unfold bytes32 quad
  split
  · next big =>
    subst big
    obtain ⟨a, b, high, high_value⟩ := pair_bytes16 .big (show n / 0x10000 < 0x10000 by omega)
    obtain ⟨c, d, low, low_value⟩ := pair_bytes16 .big (show n % 0x10000 < 0x10000 by omega)
    exact ⟨a, b, c, d, by rw [high, low]; rfl, by rw [high_value, low_value]; omega⟩
  · next small =>
    have little : bytes16 order = bytes16 .little := by
      funext k
      simp [bytes16, small]
    obtain ⟨a, b, low, low_value⟩ := pair_bytes16 .little (show n % 0x10000 < 0x10000 by omega)
    obtain ⟨c, d, high, high_value⟩ := pair_bytes16 .little (show n / 0x10000 < 0x10000 by omega)
    exact ⟨a, b, c, d, by rw [little, high, low]; rfl, by rw [high_value, low_value]; omega⟩

/-- A code point that is no surrogate is read from its bytes, and then what follows them. -/
theorem decode32From_point {c : CodePoint} (plain : c.isSurrogate = false) :
    decode32From order fault pos (bytes32 order c.val ++ rest) =
      (decode32From order fault (pos + (bytes32 order c.val).length) rest).map (c :: ·) := by
  have limit := c.lt
  have outside := CodePoint.isSurrogate_eq_false_iff.mp plain
  obtain ⟨w, x, y, z, bytes, value⟩ := quad_bytes32 order (show c.val < 0x100000000 by omega)
  rw [bytes]
  simp only [List.cons_append, List.nil_append, decode32From_quad, value]
  rw [if_neg (by omega), dif_pos limit]
  rfl

theorem decode32From_whole (plain : ∀ c ∈ t, c.isSurrogate = false) :
    decode32From order fault pos (encode32 order t) = .ok t :=
  decode_flatMap (fun _ => by rw [decode32From]) (fun _ plain _ _ => decode32From_point plain) plain

/-- What is read is a whole number of units. -/
theorem four_dvd_of_decode32From : ∀ {bytes : Bytes} {pos : Nat} {t : Text},
    decode32From order fault pos bytes = .ok t → 4 ∣ bytes.length
  | [], _, _, _ => ⟨0, rfl⟩
  | [_], _, _, read | [_, _], _, _, read | [_, _, _], _, _, read => by cases read
  | a :: b :: c :: d :: rest, pos, t, read => by
    rw [decode32From_quad] at read
    split at read
    · cases read
    · split at read
      · obtain ⟨u, others⟩ := Except.ok_of_map read
        have whole := four_dvd_of_decode32From others
        simp only [List.length_cons]
        omega
      · cases read

/-! ## Marks -/

theorem settled_cases (settled : order ≠ .marked) : order = .little ∨ order = .big := by
  cases order with
  | little => exact .inl rfl
  | big => exact .inr rfl
  | marked => exact absurd rfl settled

/-- Reading goes past the mark. -/
theorem decode16_heads {given : ByteOrder} {head : Bytes} (heads : Heads (bytes16 · 0xFEFF) given order head)
    (bytes : Bytes) : ∃ fault, decode16 given (head ++ bytes) = decode16From order fault head.length bytes := by
  cases heads with
  | fixed settled => obtain rfl | rfl := settled_cases settled <;> exact ⟨_, rfl⟩
  | marked settled => obtain rfl | rfl := settled_cases settled <;> exact ⟨_, rfl⟩

theorem decode32_heads {given : ByteOrder} {head : Bytes} (heads : Heads (bytes32 · 0xFEFF) given order head)
    (bytes : Bytes) : ∃ fault, decode32 given (head ++ bytes) = decode32From order fault head.length bytes := by
  cases heads with
  | fixed settled => obtain rfl | rfl := settled_cases settled <;> exact ⟨_, rfl⟩
  | marked settled => obtain rfl | rfl := settled_cases settled <;> exact ⟨_, rfl⟩

/-- What is written is read back. -/
theorem Spells.decode {e : Encoding} (spells : Spells e t bytes) (plain : ∀ c ∈ t, c.isSurrogate = false) :
    e.decode bytes = .ok t := by
  cases spells with
  | units heads =>
    obtain ⟨fault, read⟩ := decode16_heads heads (encode16 _ t)
    exact read.trans (decode16From_whole plain)
  | points heads =>
    obtain ⟨fault, read⟩ := decode32_heads heads (encode32 _ t)
    exact read.trans (decode32From_whole plain)

/-- Bytes that are read in units of two are an even number, marks included. -/
theorem even_of_decode16 {given : ByteOrder} (read : decode16 given bytes = .ok t) : 2 ∣ bytes.length := by
  unfold decode16 at read
  split at read
  next order skip at_head =>
  have even := even_of_decode16From read
  split at at_head <;> cases at_head <;> simp only [List.length_drop, List.length_cons] at even ⊢ <;> omega

/-- Bytes that are read in units of four are a multiple of four, marks included. -/
theorem four_dvd_of_decode32 {given : ByteOrder} (read : decode32 given bytes = .ok t) : 4 ∣ bytes.length := by
  unfold decode32 at read
  split at read
  next order skip at_head =>
  have whole := four_dvd_of_decode32From read
  split at at_head <;> cases at_head <;> simp only [List.length_drop, List.length_cons] at whole ⊢ <;> omega

end Encoding

end ScriptHost
