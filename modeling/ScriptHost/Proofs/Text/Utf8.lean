/-
Reading undoes writing. The bytes of a code point are read back as that code point, whatever follows them,
where the reading lets it through: a strict reading refuses the surrogates, a passing one no code point. So
the bytes of a text are read as the text, and no two texts have the same bytes. Nothing else is read: a strict
reading accepts just the bytes of the texts without surrogates.
-/
import ScriptHost.Text.Utf8
import Mathlib.Tactic.SplitIfs

namespace ScriptHost

theorem CodePoint.ofNat_val (c : CodePoint) : CodePoint.ofNat c.val = c := by
  simp [CodePoint.ofNat, c.lt]

theorem CodePoint.val_ofNat {n : Nat} (h : n < 0x110000) : (CodePoint.ofNat n).val = n := by
  simp [CodePoint.ofNat, h]

theorem CodePoint.isSurrogate_iff {c : CodePoint} : c.isSurrogate = true ↔ 0xD800 ≤ c.val ∧ c.val < 0xE000 := by
  simp only [isSurrogate, Bool.and_eq_true, decide_eq_true_eq]
  omega

theorem CodePoint.isSurrogate_eq_false_iff {c : CodePoint} :
    c.isSurrogate = false ↔ c.val < 0xD800 ∨ 0xE000 ≤ c.val := by
  rw [← Bool.not_eq_true, isSurrogate_iff]
  omega

namespace Utf8

/-- A reading lets a code point through: every one, if it is passing, and else those that are no surrogates. -/
def Admits (passing : Bool) (c : CodePoint) : Prop := c.isSurrogate = true → passing = true

theorem admits_passing (c : CodePoint) : Admits true c := fun _ => rfl

/-! ## Bytes -/

theorem encode_nil : encode [] = [] := rfl

theorem encode_cons (c : CodePoint) (t : Text) : encode (c :: t) = encodePoint c ++ encode t := rfl

theorem encode_append (t u : Text) : encode (t ++ u) = encode t ++ encode u := List.flatMap_append

theorem encodePoint_ascii {c : CodePoint} (h : c.val < 0x80) : encodePoint c = [UInt8.ofNat c.val] := by
  simp [encodePoint, h]

/-- The bytes of ASCII text are its code points. -/
theorem encode_ascii {t : Text} (h : ∀ c ∈ t, c.val < 0x80) : encode t = t.map fun c => UInt8.ofNat c.val := by
  induction t with
  | nil => rfl
  | cons c rest ih =>
    rw [encode_cons, encodePoint_ascii (h c List.mem_cons_self), ih fun d inside => h d (.tail c inside)]
    rfl

theorem toNat_byte {n : Nat} (h : n < 0x100) : (UInt8.ofNat n).toNat = n := by
  rw [UInt8.toNat_ofNat']
  exact Nat.mod_eq_of_lt h

/-! ## One code point -/

/-- A tail byte adds its six bits. -/
theorem tails_byte {d : Nat} (h : d < 0x40) (more good acc : Nat) (rest : Bytes) :
    tails (more + 1) good acc (UInt8.ofNat (0x80 + d) :: rest) = tails more (good + 1) (acc * 0x40 + d) rest := by
  have tail : isTail (UInt8.ofNat (0x80 + d)) = true := by
    simp only [isTail, Bool.and_eq_true, decide_eq_true_eq, UInt8.le_iff_toNat_le, UInt8.lt_iff_toNat_lt,
      toNat_byte (show 0x80 + d < 0x100 by omega)]
    constructor
    · show 0x80 ≤ 0x80 + d
      omega
    · show 0x80 + d < 0xC0
      omega
  rw [tails, if_pos tail, toNat_byte (by omega), Nat.add_sub_cancel_left]

/-- The lead byte of two. -/
theorem lead_two {k : Nat} (low : 2 ≤ k) (high : k < 0x20) (passing : Bool) :
    lead? passing (UInt8.ofNat (0xC0 + k)) = some ⟨1, 0x80, 0xC0, k⟩ := by
  simp only [lead?, toNat_byte (show 0xC0 + k < 0x100 by omega)]
  rw [if_neg (by omega), if_pos (by omega), Nat.add_sub_cancel_left]

/-- The lead byte of three, and the range that it leaves to the next: no more than what is spelled with fewer
bytes and, where the reading is strict, the surrogates are missing from it. -/
theorem lead_three {k d : Nat} {passing : Bool} (hk : k < 0x10) (hd : d < 0x40) (long : 0x20 ≤ k * 0x40 + d)
    (admitted : 0x360 ≤ k * 0x40 + d → k * 0x40 + d < 0x380 → passing = true) :
    ∃ low high, lead? passing (UInt8.ofNat (0xE0 + k)) = some ⟨2, low, high, k⟩ ∧ low ≤ 0x80 + d ∧
      0x80 + d < high := by
  simp only [lead?, toNat_byte (show 0xE0 + k < 0x100 by omega)]
  rw [if_neg (by omega), if_neg (by omega)]
  by_cases first : k = 0
  · exact ⟨0xA0, 0xC0, by simp [first], by omega, by omega⟩
  by_cases surrogates : k = 0xD
  · refine ⟨0x80, if passing then 0xC0 else 0xA0, by simp [surrogates], by omega, ?_⟩
    split
    · omega
    · next strict => exact Nat.lt_of_not_le fun big => strict (admitted (by omega) (by omega))
  · refine ⟨0x80, 0xC0, ?_, by omega, by omega⟩
    rw [if_neg (by omega), if_neg (by omega), if_pos (by omega), Nat.add_sub_cancel_left]

/-- The lead byte of four, and the range that it leaves to the next. -/
theorem lead_four {k d : Nat} (hd : d < 0x40) (long : 0x10 ≤ k * 0x40 + d) (inside : k * 0x40 + d < 0x110)
    (passing : Bool) :
    ∃ low high, lead? passing (UInt8.ofNat (0xF0 + k)) = some ⟨3, low, high, k⟩ ∧ low ≤ 0x80 + d ∧
      0x80 + d < high := by
  have hk : k < 5 := by omega
  simp only [lead?, toNat_byte (show 0xF0 + k < 0x100 by omega)]
  rw [if_neg (by omega), if_neg (by omega), if_neg (by omega), if_neg (by omega), if_neg (by omega)]
  by_cases first : k = 0
  · exact ⟨0x90, 0xC0, by simp [first], by omega, by omega⟩
  by_cases last : k = 4
  · exact ⟨0x80, 0x90, by simp [last], by omega, by omega⟩
  · refine ⟨0x80, 0xC0, ?_, by omega, by omega⟩
    rw [if_neg (by omega), if_neg (by omega), if_pos (by omega), Nat.add_sub_cancel_left]

/-- What is read where a lead byte asks for the tail bytes that follow it. -/
theorem readPoint_lead {passing : Bool} {b : UInt8} {l : Lead} {d n : Nat} {more rest : Bytes} (high : 0x80 ≤ b.toNat)
    (lead : lead? passing b = some l) (hd : d < 0x40) (low : l.low ≤ 0x80 + d) (lt : 0x80 + d < l.high)
    (read : tails (l.tails - 1) 2 (l.bits * 0x40 + d) more = .ok (n, rest)) :
    readPoint passing b (UInt8.ofNat (0x80 + d) :: more) = .ok (CodePoint.ofNat n, l.tails + 1, rest) := by
  have other : ¬ b < 0x80 := by
    rw [UInt8.lt_iff_toNat_lt]
    exact Nat.not_lt.mpr high
  have byte : (UInt8.ofNat (0x80 + d)).toNat = 0x80 + d := toNat_byte (by omega)
  simp only [readPoint, if_neg other, lead, byte, if_pos (And.intro low lt), Nat.add_sub_cancel_left, read]

/-- A code point is read from its bytes, whatever follows them. -/
theorem readPoint_encodePoint {passing : Bool} {c : CodePoint} (admitted : Admits passing c) (rest : Bytes) :
    ∃ b more, encodePoint c = b :: more ∧ readPoint passing b (more ++ rest) = .ok (c, more.length + 1, rest) := by
  have limit := c.lt
  have same := c.ofNat_val
  simp only [encodePoint]
  generalize e : c.val = n at limit same
  by_cases one : n < 0x80
  · rw [if_pos one]
    refine ⟨_, _, rfl, ?_⟩
    have byte := toNat_byte (show n < 0x100 by omega)
    have ascii : UInt8.ofNat n < 0x80 := by
      rw [UInt8.lt_iff_toNat_lt, byte]
      exact one
    have point : CodePoint.ofByte (UInt8.ofNat n) = c := by
      rw [← same]
      simp [CodePoint.ofByte, CodePoint.ofNat, limit, byte]
    simp [readPoint, ascii, point]
  by_cases two : n < 0x800
  · rw [if_neg one, if_pos two]
    refine ⟨_, _, rfl, ?_⟩
    have lead := lead_two (show 2 ≤ n / 0x40 by omega) (by omega) passing
    have value : n / 0x40 * 0x40 + n % 0x40 = n := by omega
    have read : readPoint passing _ (_ :: rest) = _ := readPoint_lead (by rw [toNat_byte (by omega)]; omega) lead
      (show n % 0x40 < 0x40 by omega) (by simp only; omega) (by simp only; omega) rfl
    simpa [value, same] using read
  by_cases three : n < 0x10000
  · rw [if_neg one, if_neg two, if_pos three]
    refine ⟨_, _, rfl, ?_⟩
    have value : (n / 0x1000 * 0x40 + n / 0x40 % 0x40) * 0x40 + n % 0x40 = n := by omega
    obtain ⟨low, high, lead, ge, lt⟩ := lead_three (show n / 0x1000 < 0x10 by omega)
      (show n / 0x40 % 0x40 < 0x40 by omega) (by omega) fun from_ upto => admitted <|
        CodePoint.isSurrogate_iff.mpr (by omega)
    have read := readPoint_lead (by rw [toNat_byte (by omega)]; omega) lead (by omega) ge lt
      (tails_byte (show n % 0x40 < 0x40 by omega) 0 2 _ rest)
    simpa [value, same] using read
  · rw [if_neg one, if_neg two, if_neg three]
    refine ⟨_, _, rfl, ?_⟩
    have value : ((n / 0x40000 * 0x40 + n / 0x1000 % 0x40) * 0x40 + n / 0x40 % 0x40) * 0x40 + n % 0x40 = n := by
      omega
    obtain ⟨low, high, lead, ge, lt⟩ := lead_four (show n / 0x1000 % 0x40 < 0x40 by omega)
      (show 0x10 ≤ n / 0x40000 * 0x40 + n / 0x1000 % 0x40 by omega) (by omega) passing
    have read := readPoint_lead (by rw [toNat_byte (by omega)]; omega) lead (by omega) ge lt
      ((tails_byte (show n / 0x40 % 0x40 < 0x40 by omega) 1 2 _ _).trans
        (tails_byte (show n % 0x40 < 0x40 by omega) 0 3 _ rest))
    simpa [value, same] using read

/-! ## Texts -/

theorem length_le_encode (t : Text) : t.length ≤ (encode t).length := by
  induction t with
  | nil => exact Nat.le_refl 0
  | cons c rest ih =>
    obtain ⟨b, more, bytes, _⟩ := readPoint_encodePoint (admits_passing c) []
    rw [encode_cons, bytes, List.length_append, List.length_cons, List.length_cons]
    omega

/-- A text is read from its bytes first, and then what follows them. -/
theorem readFrom_encode {passing : Bool} : ∀ {t : Text}, (∀ c ∈ t, Admits passing c) → ∀ (fuel pos : Nat)
    (rest : Bytes), readFrom passing (t.length + fuel) pos (encode t ++ rest) =
      (readFrom passing fuel (pos + (encode t).length) rest).map (t ++ ·)
  | [], _, fuel, pos, rest => by
    simp only [encode_nil, List.length_nil, Nat.zero_add, Nat.add_zero, List.nil_append]
    cases readFrom passing fuel pos rest <;> rfl
  | c :: t, admitted, fuel, pos, rest => by
    obtain ⟨b, more, bytes, read⟩ := readPoint_encodePoint (admitted c List.mem_cons_self) (encode t ++ rest)
    have ahead := readFrom_encode (fun d inside => admitted d (.tail c inside)) fuel (pos + (more.length + 1)) rest
    have place : pos + (more.length + 1) + (encode t).length = pos + (encode (c :: t)).length := by
      rw [encode_cons, bytes, List.length_append, List.length_cons]
      omega
    rw [place] at ahead
    rw [encode_cons, bytes, List.length_cons, List.cons_append, List.cons_append, List.append_assoc,
      Nat.add_right_comm, readFrom, read]
    simp only [ahead, encode_cons, bytes, List.cons_append]
    cases readFrom passing fuel _ rest <;> rfl

theorem readFrom_nil (passing : Bool) (fuel pos : Nat) : readFrom passing fuel pos [] = .ok [] := by
  cases fuel <;> rfl

/-- Every text is read back from its bytes, surrogates next to each other included. -/
theorem readPassing_encode (t : Text) : readPassing (encode t) = some t := by
  obtain ⟨fuel, enough⟩ := Nat.exists_eq_add_of_le (length_le_encode t)
  have read := readFrom_encode (t := t) (fun c _ => admits_passing c) fuel 0 []
  rw [List.append_nil, ← enough, readFrom_nil] at read
  rw [readPassing, read]
  simp [Except.map, Except.toOption]

/-- Different texts have different bytes. -/
theorem encode_injective : Function.Injective encode := fun t u same => by
  have back := readPassing_encode t
  rw [same, readPassing_encode] at back
  exact (Option.some.inj back).symm

/-! ## What is read was written -/

/-- What a lead byte asks for: its own bits, and a range for the next byte that leaves out what is spelled with
fewer bytes, what lies past the last code point and, where the reading is strict, the surrogates. -/
theorem lead_eq_some {passing : Bool} {b : UInt8} {l : Lead} (lead : lead? passing b = some l) :
    0x80 ≤ l.low ∧ l.high ≤ 0xC0 ∧
      ((l.tails = 1 ∧ b.toNat = 0xC0 + l.bits ∧ 2 ≤ l.bits ∧ l.bits < 0x20) ∨
      (l.tails = 2 ∧ b.toNat = 0xE0 + l.bits ∧ l.bits < 0x10 ∧ (l.bits = 0 → 0xA0 ≤ l.low) ∧
        (l.bits = 0xD → passing = true ∨ l.high ≤ 0xA0)) ∨
      (l.tails = 3 ∧ b.toNat = 0xF0 + l.bits ∧ l.bits < 5 ∧ (l.bits = 0 → 0x90 ≤ l.low) ∧
        (l.bits = 4 → l.high ≤ 0x90))) := by
  simp only [lead?] at lead
  split_ifs at lead <;> cases lead <;> grind

theorem encodePoint_two {c : CodePoint} {k d : Nat} (val : c.val = k * 0x40 + d) (low : 2 ≤ k) (high : k < 0x20)
    (hd : d < 0x40) : encodePoint c = [UInt8.ofNat (0xC0 + k), UInt8.ofNat (0x80 + d)] := by
  have lead : (k * 0x40 + d) / 0x40 = k := by omega
  have tail : (k * 0x40 + d) % 0x40 = d := by omega
  simp only [encodePoint, val]
  rw [if_neg (by omega), if_pos (by omega), lead, tail]

theorem encodePoint_three {c : CodePoint} {k d d' : Nat} (val : c.val = (k * 0x40 + d) * 0x40 + d')
    (low : 0x20 ≤ k * 0x40 + d) (high : k < 0x10) (hd : d < 0x40) (hd' : d' < 0x40) :
    encodePoint c = [UInt8.ofNat (0xE0 + k), UInt8.ofNat (0x80 + d), UInt8.ofNat (0x80 + d')] := by
  have lead : ((k * 0x40 + d) * 0x40 + d') / 0x1000 = k := by omega
  have next : ((k * 0x40 + d) * 0x40 + d') / 0x40 % 0x40 = d := by omega
  have tail : ((k * 0x40 + d) * 0x40 + d') % 0x40 = d' := by omega
  simp only [encodePoint, val]
  rw [if_neg (by omega), if_neg (by omega), if_pos (by omega), lead, next, tail]

theorem encodePoint_four {c : CodePoint} {k d d' d'' : Nat} (val : c.val = ((k * 0x40 + d) * 0x40 + d') * 0x40 + d'')
    (low : 0x10 ≤ k * 0x40 + d) (hd : d < 0x40) (hd' : d' < 0x40) (hd'' : d'' < 0x40) :
    encodePoint c = [UInt8.ofNat (0xF0 + k), UInt8.ofNat (0x80 + d), UInt8.ofNat (0x80 + d'),
      UInt8.ofNat (0x80 + d'')] := by
  have lead : (((k * 0x40 + d) * 0x40 + d') * 0x40 + d'') / 0x40000 = k := by omega
  have next : (((k * 0x40 + d) * 0x40 + d') * 0x40 + d'') / 0x1000 % 0x40 = d := by omega
  have third : (((k * 0x40 + d) * 0x40 + d') * 0x40 + d'') / 0x40 % 0x40 = d' := by omega
  have tail : (((k * 0x40 + d) * 0x40 + d') * 0x40 + d'') % 0x40 = d'' := by omega
  simp only [encodePoint, val]
  rw [if_neg (by omega), if_neg (by omega), if_neg (by omega), lead, next, third, tail]

/-- A tail byte that was read. -/
theorem tails_eq_ok {n good acc value : Nat} {bytes rest : Bytes}
    (read : tails (n + 1) good acc bytes = .ok (value, rest)) :
    ∃ d more, d < 0x40 ∧ bytes = UInt8.ofNat (0x80 + d) :: more ∧
      tails n (good + 1) (acc * 0x40 + d) more = .ok (value, rest) := by
  cases bytes with
  | nil => cases read
  | cons b more =>
    rw [tails] at read
    split at read
    · next tail =>
      simp only [isTail, Bool.and_eq_true, decide_eq_true_eq, UInt8.le_iff_toNat_le, UInt8.lt_iff_toNat_lt] at tail
      obtain ⟨low, high⟩ := tail
      change 0x80 ≤ b.toNat at low
      change b.toNat < 0xC0 at high
      refine ⟨b.toNat - 0x80, more, by omega, ?_, read⟩
      rw [Nat.add_sub_cancel' low, UInt8.ofNat_toNat]
    · cases read

/-- Code points outside of the surrogates are let through by every reading. -/
theorem admits_of_val {passing : Bool} {c : CodePoint} (h : 0xD800 ≤ c.val → c.val < 0xE000 → passing = true) :
    Admits passing c := fun surrogate =>
  have ⟨low, high⟩ := CodePoint.isSurrogate_iff.mp surrogate
  h low high

/-- What was read after a lead byte is spelled by the bytes it was read from, and is let through. -/
theorem encodePoint_of_lead {passing : Bool} {b t : UInt8} {l : Lead} {after more : Bytes} {n : Nat}
    (lead : lead? passing b = some l) (inside : l.low ≤ t.toNat ∧ t.toNat < l.high)
    (read : tails (l.tails - 1) 2 (l.bits * 0x40 + (t.toNat - 0x80)) after = .ok (n, more)) :
    encodePoint (CodePoint.ofNat n) ++ more = b :: t :: after ∧ Admits passing (CodePoint.ofNat n) := by
  obtain ⟨low, high, kind⟩ := lead_eq_some lead
  obtain ⟨d, hd, rfl⟩ : ∃ d, d < 0x40 ∧ t = UInt8.ofNat (0x80 + d) :=
    ⟨t.toNat - 0x80, by omega, by rw [Nat.add_sub_cancel' (by omega), UInt8.ofNat_toNat]⟩
  rw [toNat_byte (by omega)] at inside read
  rw [Nat.add_sub_cancel_left] at read
  rcases kind with ⟨size, first, two, small⟩ | ⟨size, first, small, long, strict⟩ | ⟨size, first, small, long, last⟩
  · rw [size] at read
    cases read
    have val := CodePoint.val_ofNat (show l.bits * 0x40 + d < 0x110000 by omega)
    refine ⟨?_, admits_of_val (by omega)⟩
    rw [encodePoint_two val two small hd, ← first]
    simp
  · rw [size] at read
    obtain ⟨d', after, hd', rfl, ended⟩ := tails_eq_ok read
    cases ended
    have val := CodePoint.val_ofNat (show (l.bits * 0x40 + d) * 0x40 + d' < 0x110000 by omega)
    refine ⟨?_, admits_of_val fun _ _ => (strict (by omega)).resolve_right (by omega)⟩
    rw [encodePoint_three val (by omega) small hd hd', ← first]
    simp
  · rw [size] at read
    obtain ⟨d', after, hd', rfl, third⟩ := tails_eq_ok read
    obtain ⟨d'', after, hd'', rfl, ended⟩ := tails_eq_ok third
    cases ended
    have val := CodePoint.val_ofNat (show ((l.bits * 0x40 + d) * 0x40 + d') * 0x40 + d'' < 0x110000 by omega)
    refine ⟨?_, admits_of_val (by omega)⟩
    rw [encodePoint_four val (by omega) hd hd' hd'', ← first]
    simp

/-- A code point that was read is spelled by the bytes it was read from, and is let through. -/
theorem readPoint_eq_ok {passing : Bool} {b : UInt8} {rest more : Bytes} {c : CodePoint} {used : Nat}
    (read : readPoint passing b rest = .ok (c, used, more)) :
    encodePoint c ++ more = b :: rest ∧ Admits passing c := by
  unfold readPoint at read
  split at read
  · next ascii =>
    cases read
    have small : (CodePoint.ofByte b).val < 0x80 := UInt8.lt_iff_toNat_lt.mp ascii
    refine ⟨?_, admits_of_val (by omega)⟩
    rw [encodePoint_ascii small]
    simp [CodePoint.ofByte]
  · split at read
    · cases read
    · next l lead =>
      split at read
      · cases read
      · split at read
        · next inside =>
          split at read
          · cases read
          · next ran =>
            cases read
            exact encodePoint_of_lead lead inside ran
        · cases read

/-- A text that was read is spelled by the bytes it was read from, as far as the fuel lasts. -/
theorem readFrom_eq_ok {passing : Bool} : ∀ {fuel pos : Nat} {bytes : Bytes} {t : Text}, bytes.length ≤ fuel →
    readFrom passing fuel pos bytes = .ok t → encode t = bytes ∧ ∀ c ∈ t, Admits passing c
  | 0, _, bytes, t, enough, read => by
    cases List.eq_nil_of_length_eq_zero (Nat.le_zero.mp enough)
    cases read
    exact ⟨rfl, by simp⟩
  | _ + 1, _, [], t, _, read => by
    cases read
    exact ⟨rfl, by simp⟩
  | fuel + 1, pos, b :: rest, t, enough, read => by
    rw [readFrom] at read
    split at read
    · cases read
    · next c used more first =>
      split at read
      · cases read
      · next u others =>
        cases read
        obtain ⟨spelled, admitted⟩ := readPoint_eq_ok first
        obtain ⟨x, xs, bytes, -⟩ := readPoint_encodePoint admitted more
        have shorter : more.length ≤ fuel := by
          have sizes := congrArg List.length spelled
          rw [bytes] at sizes
          simp only [List.cons_append, List.length_cons, List.length_append] at sizes enough
          omega
        obtain ⟨ih, all⟩ := readFrom_eq_ok shorter others
        exact ⟨by rw [encode_cons, ih, spelled], List.forall_mem_cons.mpr ⟨admitted, all⟩⟩

/-- A strict reading accepts just the bytes of texts without surrogates, and reads them as these texts. -/
theorem decode_eq_ok_iff {bytes : Bytes} {t : Text} :
    decode bytes = .ok t ↔ encode t = bytes ∧ ∀ c ∈ t, c.isSurrogate = false := by
  constructor
  · intro read
    have read : readFrom false bytes.length 0 bytes = .ok t := by
      unfold decode at read
      rcases ran : readFrom false bytes.length 0 bytes with e | u <;> rw [ran] at read <;> cases read
      rfl
    obtain ⟨spelled, admitted⟩ := readFrom_eq_ok (Nat.le_refl _) read
    exact ⟨spelled, fun c inside => by simpa [Admits] using admitted c inside⟩
  · rintro ⟨rfl, plain⟩
    obtain ⟨fuel, enough⟩ := Nat.exists_eq_add_of_le (length_le_encode t)
    have admitted : ∀ c ∈ t, Admits false c := fun c inside surrogate =>
      absurd (plain c inside) (by simp [surrogate])
    have read := readFrom_encode admitted fuel 0 []
    rw [List.append_nil, ← enough, readFrom_nil] at read
    rw [decode, read]
    simp [Except.map, Except.mapError]

end Utf8

end ScriptHost
