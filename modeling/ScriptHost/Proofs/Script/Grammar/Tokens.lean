/-
Tokens. Every token takes at least one code point, so a text has the same tokens however many are asked for beyond its
length, and behind its first token it goes on as the text that follows does by itself.
-/
import ScriptHost.Proofs.Script.RoundTrip

namespace ScriptHost.Script

/-- A lexeme other than the end and a complaint. -/
def Lexeme.Solid : Lexeme → Prop
  | .finish | .bad _ => False
  | .name .. | .word _ | .number .. | .string .. | .mark _ => True

namespace Token

variable {t u : Text} {c : CodePoint}

/-! ## Every token takes something -/

theorem isNamePart_of_isNameStart (start : c.isNameStart = true) : c.isNamePart = true := by
  unfold CodePoint.isNamePart
  by_cases ascii : c.val < 0x80
  · rw [if_pos ascii, start, Bool.true_or]
  · rw [CodePoint.isNameStart, if_neg ascii] at start
    rw [if_neg ascii, start, Bool.or_true, Bool.true_or]

/-- What is skipped does not make the text longer. -/
theorem length_skipGap {gap : Gap} {line line' : Bool} (skipped : skipGap gap line t = some (line', u)) :
    u.length ≤ t.length := by
  fun_induction skipGap gap line t <;> grind

/-- Nor does a name, even if it is empty, -/
theorem length_scanName (skip : Nat) (p : Partial) (t : Text) : (scanName skip p t).2.length ≤ t.length := by
  fun_induction scanName skip p t <;> grind

/-- nor a string. -/
theorem length_scanString (quote : CodePoint) (skip : Nat) (p : Partial) (t : Text) :
    (scanString quote skip p t).2.length ≤ t.length := by
  fun_induction scanString quote skip p t <;> grind

theorem length_exponent? {t u : Text} {n : Int} (read : Decimal.exponent? t = some (n, u)) : u.length ≤ t.length := by
  unfold Decimal.exponent? at read
  grind

/-- A decimal takes at least a digit, -/
theorem length_scan? {x : Float} (read : Decimal.scan? t = some (x, u)) : u.length < t.length := by
  have exponent : ∀ rest : Text, ((Decimal.exponent? rest).getD (0, rest)).2.length ≤ rest.length := fun rest => by
    rcases read : Decimal.exponent? rest with _ | ⟨n, u⟩
    · exact Nat.le_refl _
    · exact length_exponent? read
  have digits : ∀ t : Text, (t.takeWhile CodePoint.isDigit).length +
    (t.drop (t.takeWhile CodePoint.isDigit).length).length =
      t.length := fun t => by
    have := (List.takeWhile_sublist (l := t) CodePoint.isDigit).length_le
    rw [List.length_drop]
    omega
  have whole := digits t
  unfold Decimal.scan? at read
  dsimp only at read
  generalize t.takeWhile CodePoint.isDigit = ds at whole read
  generalize t.drop ds.length = rest at whole read
  -- the digits behind a point and what follows them are no more than what followed the digits before it
  have parted : ∀ p : Text × Text, p.1.length + p.2.length ≤ rest.length →
    (if (ds.isEmpty && p.1.isEmpty) = true then none
      else some (Decimal.toFloat (Decimal.digitsValue (ds ++ p.1))
        (((Decimal.exponent? p.2).getD (0, p.2)).1 - p.1.length),
        ((Decimal.exponent? p.2).getD (0, p.2)).2)) = some (x, u) → u.length < t.length := by
    intro p part read
    split at read
    · cases read
    · next some =>
      cases read
      have taken := exponent p.2
      have : 0 < ds.length + p.1.length := by
        rcases ds with _ | ⟨d, ds⟩
        · simpa [List.length_pos_iff] using some
        · simp only [List.length_cons]
          omega
      omega
  refine parted _ ?_ read
  split
  · next c more =>
    have := digits more
    split <;> try split
    all_goals
      simp only [List.length_nil, List.length_cons]
      omega
  · exact Nat.le_refl _

/-- as do digits to another base, -/
theorem length_scanBased {base : Nat} {digit : CodePoint → Bool} {x : Float}
    (read : scanBased base digit t = some (x, u)) :
    u.length < t.length := by
  have taken := (List.takeWhile_sublist (l := t) digit).length_le
  unfold scanBased at read
  dsimp only at read
  split at read
  · cases read
  · next some =>
    cases read
    have : 0 < (t.takeWhile digit).length := List.length_pos_iff.mpr (by simpa using some)
    rw [List.length_drop]
    omega

/-- and so every number makes the text shorter. -/
theorem length_scanNumber {x : Float} {legacy : Bool} (read : scanNumber t = some (x, legacy, u)) :
    u.length < t.length := by
  have decimal : ∀ {b : Bool}, (Decimal.scan? t).map (fun p => (p.1, b, p.2)) = some (x, legacy, u) →
      u.length < t.length := by
    intro b read
    obtain ⟨⟨y, v⟩, scanned, ⟨⟩⟩ := Option.map_eq_some_iff.mp read
    exact length_scan? scanned
  have based : ∀ {base : Nat} {digit : CodePoint → Bool} {b : Bool} {rest : Text}, rest.length < t.length →
      (scanBased base digit rest).map (fun p => (p.1, b, p.2)) = some (x, legacy, u) → u.length < t.length := by
    intro base digit b rest shorter read
    obtain ⟨⟨y, v⟩, scanned, ⟨⟩⟩ := Option.map_eq_some_iff.mp read
    exact Nat.lt_trans (length_scanBased scanned) shorter
  unfold scanNumber at read
  dsimp only at read
  split at read
  · split_ifs at read
    all_goals first
      | exact decimal read
      | exact based (by simp only [List.length_cons]; omega) read
  · exact decimal read

/-- So does a name with a first letter. -/
theorem length_scanName_start {c : CodePoint} (first : c.isNamePart = true ∨ c.is '\\' = true) (p : Partial)
    (rest : Text) :
    (scanName 0 p (c :: rest)).2.length < (c :: rest).length := by
  have shorter : ∀ skip p, (scanName skip p rest).2.length < (c :: rest).length := fun skip p =>
    Nat.lt_succ_of_le (length_scanName skip p rest)
  rw [scanName]
  grind

/-- Each token takes something of the text, so there are no more tokens than characters. -/
theorem length_scan (some : t ≠ []) : (scan t).2.length < t.length := by
  obtain ⟨c, rest, rfl⟩ := List.exists_cons_of_ne_nil some
  have name (first : c.isNamePart = true ∨ c.is '\\' = true) :
    (scanName 0 {} (c :: rest)).2.length < (c :: rest).length :=
    length_scanName_start first {} rest
  have next : rest.length < (c :: rest).length := Nat.lt_succ_self _
  unfold scan
  dsimp only
  split_ifs with start mark quote number high
  · exact name (.inl (isNamePart_of_isNameStart start))
  · split
    · split
      · exact name (.inr mark)
      · exact next
    · exact next
  · exact Nat.lt_succ_of_le (length_scanString _ _ _ _)
  · split
    · next _ _ _ read =>
      split <;> exact length_scanNumber read
    · exact next
  · exact next
  · split
    · next m _ found =>
      have long : ∀ p ∈ longMarks, 0 < p.1.length := by decide +kernel
      rw [List.length_drop]
      exact Nat.sub_lt (Nat.succ_pos _) (long _ (List.mem_of_find?_eq_some found))
    · exact next

/-! ## The first token -/

/-- More tokens may be asked for than a text has. -/
theorem scanAll_enough : ∀ {fuel more : Nat} {t : Text}, t.length < fuel → t.length < more →
    scanAll fuel t = scanAll more t
  | fuel + 1, more + 1, t, enough, enough' => by
    rw [scanAll, scanAll]
    rcases skipped : skipGap .open false t with _ | ⟨line, start⟩
    · rfl
    · have within := length_skipGap skipped
      have going : start ≠ [] → scanAll fuel (scan start).2 = scanAll more (scan start).2 := fun some => by
        have shorter := length_scan some
        exact scanAll_enough (by omega) (by omega)
      dsimp only
      rcases start with _ | ⟨c, rest⟩
      · rfl
      · rw [going (List.cons_ne_nil _ _)]

/-- A text begins with a token. -/
structure First (t : Text) (tok : Token) : Prop where
  gap : skipGap .open false t = some (tok.afterLine, tok.start)
  scanned : scan tok.start = (tok.lexeme, tok.behind)
  solid : tok.lexeme.Solid

namespace First

variable {tok : Token}

/-- Behind its first token a text has the tokens of what follows. -/
theorem ofSource (h : First t tok) : ofSource t = tok :: Token.ofSource tok.behind := by
  obtain ⟨lexeme, line, start, behind⟩ := tok
  obtain ⟨gap, scanned, solid⟩ := h
  dsimp only at gap scanned solid
  have within := length_skipGap gap
  have some : start ≠ [] := by
    rintro rfl
    cases scanned
    exact solid
  have shorter : behind.length < start.length := by
    have := length_scan some
    rwa [scanned] at this
  have rest : scanAll t.length behind = Token.ofSource behind := scanAll_enough (by omega) (Nat.lt_succ_self _)
  rw [Token.ofSource, scanAll, gap]
  dsimp only
  rw [scanned]
  cases lexeme <;> first | exact congrArg _ rest | exact solid.elim

/-- Blanks before it do not matter. -/
theorem blank (h : First t tok) (blank : isBlank c = true) : First (c :: t) tok :=
  ⟨by rw [skipGap, if_pos blank, h.gap], h.scanned, h.solid⟩

end First

end Token

end ScriptHost.Script
