/-
Units as text. Where units are put together the text is put together too, unless a pair would come to be between
them. Texts without surrogates come back as they are.
-/
import ScriptHost.Proofs.Text.Utf8
import ScriptHost.Text.Utf16

namespace ScriptHost

namespace CodePoint

variable {c : CodePoint} {u v : UInt16}

theorem toUnits_small (small : c.val < 0x10000) : c.toUnits = [UInt16.ofNat c.val] := if_pos small

/-- A unit that stands alone comes back as it is. -/
theorem toUnits_ofUnit (u : UInt16) : (ofUnit u).toUnits = [u] := by
  rw [toUnits_small (c := ofUnit u) u.toNat_lt]
  exact congrArg (List.cons · []) UInt16.ofNat_toNat

theorem ofUnit_ofNat (small : c.val < 0x10000) : ofUnit (UInt16.ofNat c.val) = c := by
  obtain ⟨n, lt⟩ := c
  have same : (UInt16.ofNat n).toNat = n := by
    rw [UInt16.toNat_ofNat']
    exact Nat.mod_eq_of_lt small
  simp only [ofUnit, same]

/-- What a pair spells. -/
theorem val_of_pair (pair : ofPair? u v = some c) :
    c.val = 0x10000 + (u.toNat - 0xD800) * 0x400 + (v.toNat - 0xDC00) ∧
      (0xD800 ≤ u.toNat ∧ u.toNat < 0xDC00) ∧ (0xDC00 ≤ v.toNat ∧ v.toNat < 0xE000) := by
  unfold ofPair? at pair
  split at pair
  · rename_i surrogates
    exact ⟨(congrArg val (Option.some.inj pair)).symm, surrogates⟩
  · cases pair

/-- A pair comes back as it is. -/
theorem toUnits_of_pair (pair : ofPair? u v = some c) : c.toUnits = [u, v] := by
  obtain ⟨val, first, second⟩ := val_of_pair pair
  have high : 0xD800 + (c.val - 0x10000) / 0x400 = u.toNat := by omega
  have low : 0xDC00 + (c.val - 0x10000) % 0x400 = v.toNat := by omega
  have large : ¬ c.val < 0x10000 := by omega
  simp only [toUnits, large, if_false, high, low, UInt16.ofNat_toNat]

/-- A code point above the units is a pair. -/
theorem exists_pair (large : 0x10000 ≤ c.val) : ∃ u v, c.toUnits = [u, v] ∧ ofPair? u v = some c := by
  have lt := c.lt
  have high : (UInt16.ofNat (0xD800 + (c.val - 0x10000) / 0x400)).toNat = 0xD800 + (c.val - 0x10000) / 0x400 := by
    rw [UInt16.toNat_ofNat']
    exact Nat.mod_eq_of_lt (by omega)
  have low : (UInt16.ofNat (0xDC00 + (c.val - 0x10000) % 0x400)).toNat = 0xDC00 + (c.val - 0x10000) % 0x400 := by
    rw [UInt16.toNat_ofNat']
    exact Nat.mod_eq_of_lt (by omega)
  refine ⟨_, _, if_neg (by omega), ?_⟩
  unfold ofPair?
  rw [dif_pos (by rw [high, low]; omega)]
  refine congrArg some ?_
  cases c
  simp only [CodePoint.mk.injEq]
  rw [high, low]
  dsimp only at large ⊢
  omega

end CodePoint

namespace Utf16

/-- A unit that a pair may begin with. -/
def Leads (u : UInt16) : Prop := 0xD800 ≤ u.toNat ∧ u.toNat < 0xDC00

variable {us vs : Utf16} {u v : UInt16}

theorem toText_cons (plain : ¬ Leads u) (us : Utf16) : toText (u :: us) = CodePoint.ofUnit u :: toText us := by
  cases us with
  | nil => rfl
  | cons v us =>
    have none : CodePoint.ofPair? u v = none := dif_neg fun both => plain both.1
    rw [toText, none]

theorem toText_pair {c : CodePoint} (pair : CodePoint.ofPair? u v = some c) (us : Utf16) :
    toText (u :: v :: us) = c :: toText us := by
  rw [toText, pair]

/-- Units that can be put before any others. -/
def Whole (us : Utf16) : Prop := ∀ vs, toText (us ++ vs) = toText us ++ toText vs

theorem whole_nil : Whole [] := fun _ => rfl

theorem whole_cons (plain : ¬ Leads u) (whole : Whole us) : Whole (u :: us) := fun vs => by
  rw [List.cons_append, toText_cons plain, toText_cons plain, whole, List.cons_append]

theorem whole_pair {c : CodePoint} (pair : CodePoint.ofPair? u v = some c) (whole : Whole us) :
    Whole (u :: v :: us) := fun ws => by
  rw [List.cons_append, List.cons_append, toText_pair pair, toText_pair pair, whole, List.cons_append]

theorem Whole.append (h : Whole us) (h' : Whole vs) : Whole (us ++ vs) := fun ws => by
  rw [List.append_assoc, h, h', h, List.append_assoc]

end Utf16

namespace Text

/-- Texts without surrogates come back as they are, whatever stands behind them. -/
theorem toText_toUtf16 : ∀ {t : Text}, (∀ c ∈ t, c.isSurrogate = false) →
    ∀ us, Utf16.toText (t.toUtf16 ++ us) = t ++ Utf16.toText us
  | [], _, _ => rfl
  | c :: t, plain, us => by
    obtain ⟨first, others⟩ := List.forall_mem_cons.mp plain
    have rest := toText_toUtf16 others us
    have split : toUtf16 (c :: t) ++ us = c.toUnits ++ (toUtf16 t ++ us) := List.append_assoc ..
    rw [split]
    by_cases small : c.val < 0x10000
    · have lead : ¬ Utf16.Leads (UInt16.ofNat c.val) := by
        have := CodePoint.isSurrogate_eq_false_iff.mp first
        rw [Utf16.Leads, UInt16.toNat_ofNat', Nat.mod_eq_of_lt (by omega)]
        omega
      rw [CodePoint.toUnits_small small, List.singleton_append, Utf16.toText_cons lead,
        CodePoint.ofUnit_ofNat small, rest]
      rfl
    · obtain ⟨u, v, units, pair⟩ := CodePoint.exists_pair (Nat.not_lt.mp small)
      rw [units, List.cons_append, List.cons_append, List.nil_append, Utf16.toText_pair pair, rest]
      rfl

theorem whole_toUtf16 {t : Text} (plain : ∀ c ∈ t, c.isSurrogate = false) : Utf16.Whole t.toUtf16 := fun us => by
  have alone := toText_toUtf16 plain []
  rw [List.append_nil] at alone
  rw [toText_toUtf16 plain, alone]
  simp [Utf16.toText]

/-- Units come back as they are from the text that they are. -/
theorem toUtf16_toText : ∀ us : Utf16, toUtf16 (Utf16.toText us) = us
  | [] => rfl
  | [u] => (List.append_nil _).trans (CodePoint.toUnits_ofUnit u)
  | u :: v :: rest => by
    cases pair : CodePoint.ofPair? u v with
    | none =>
      have split : Utf16.toText (u :: v :: rest) = CodePoint.ofUnit u :: Utf16.toText (v :: rest) := by
        rw [Utf16.toText, pair]
      have others : toUtf16 (CodePoint.ofUnit u :: Utf16.toText (v :: rest)) =
          (CodePoint.ofUnit u).toUnits ++ toUtf16 (Utf16.toText (v :: rest)) := rfl
      rw [split, others, CodePoint.toUnits_ofUnit, toUtf16_toText (v :: rest)]
      rfl
    | some c =>
      have others : toUtf16 (c :: Utf16.toText rest) = c.toUnits ++ toUtf16 (Utf16.toText rest) := rfl
      rw [Utf16.toText_pair pair, others, CodePoint.toUnits_of_pair pair, toUtf16_toText rest]
      rfl

end Text

end ScriptHost
