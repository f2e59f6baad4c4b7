/-
Absolute paths. What is joined to an absolute path, its tidy form and the directory that it lies in are absolute, so
that a path that is seen from the directory of a file is absolute, whatever it was.
-/
import ScriptHost.Path
import Mathlib.Data.List.DropRight

namespace ScriptHost.Path

variable {dir p q : Text}

theorem isAbsolute_iff : isAbsolute p = true ↔ ∃ rest, p = slash :: rest := by
  unfold isAbsolute
  cases p with
  | nil => simp
  | cons c rest => simp [eq_comm]

theorem isAbsolute_append (rooted : isAbsolute p = true) (q : Text) : isAbsolute (p ++ q) = true := by
  obtain ⟨rest, rfl⟩ := isAbsolute_iff.mp rooted
  exact isAbsolute_iff.mpr ⟨rest ++ q, rfl⟩

theorem isAbsolute_join (rooted : isAbsolute dir = true) (p : Text) : isAbsolute (join dir p) = true := by
  unfold join
  split
  · next absolute => exact absolute
  · split
    · exact isAbsolute_append rooted p
    · rw [List.append_assoc]
      exact isAbsolute_append rooted _

/-- A path that begins with a slash keeps one. -/
theorem isAbsolute_rootOf (rooted : isAbsolute p = true) : isAbsolute (rootOf p) = true := by
  obtain ⟨rest, rfl⟩ := isAbsolute_iff.mp rooted
  have counted : ((slash :: rest).takeWhile (· = slash)).length = (rest.takeWhile (· = slash)).length + 1 := by
    simp
  unfold rootOf
  rw [counted]
  split
  · next none => cases none
  · rfl
  · rfl

theorem isAbsolute_normal (rooted : isAbsolute p = true) : isAbsolute (normal p) = true := by
  have whole := isAbsolute_append (isAbsolute_rootOf rooted)
    (Text.join "/" (collapse (!(rootOf p).isEmpty) [] (Text.split slash p)))
  unfold normal
  dsimp only
  split
  · next empty =>
    rw [List.isEmpty_iff.mp empty] at whole
    cases whole
  · exact whole

theorem isAbsolute_absolute {working : Text} (rooted : isAbsolute working = true) (p : Text) :
    isAbsolute (absolute working p) = true :=
  isAbsolute_normal (isAbsolute_join rooted p)

/-- What is dropped at the end leaves the beginning, where something stops it. -/
theorem isAbsolute_rdropWhile {drops : CodePoint → Bool} (rooted : isAbsolute p = true)
    (stop : ∃ c ∈ p, drops c = false) : isAbsolute (p.rdropWhile drops) = true := by
  obtain ⟨rest, whole⟩ := List.rdropWhile_prefix drops (l := p)
  cases left : p.rdropWhile drops with
  | nil =>
    obtain ⟨c, inside, stops⟩ := stop
    rw [List.rdropWhile_eq_nil_iff.mp left c inside] at stops
    cases stops
  | cons c kept =>
    obtain ⟨tail, same⟩ := isAbsolute_iff.mp rooted
    rw [left, same] at whole
    cases whole
    exact isAbsolute_iff.mpr ⟨kept, rfl⟩

theorem isAbsolute_directory (rooted : isAbsolute p = true) : isAbsolute (directory p) = true := by
  have head : isAbsolute (p.rdropWhile (· ≠ slash)) = true := by
    refine isAbsolute_rdropWhile rooted ⟨slash, ?_, by simp⟩
    obtain ⟨rest, rfl⟩ := isAbsolute_iff.mp rooted
    exact List.mem_cons_self
  unfold directory
  dsimp only
  split
  · exact head
  · next other =>
    -- a mark other than a slash stands before the last one
    obtain ⟨c, inside, mark⟩ : ∃ c ∈ p.rdropWhile (· ≠ slash), c ≠ slash := by
      simpa [List.rdropWhile] using other
    exact isAbsolute_rdropWhile head ⟨c, inside, by simpa using mark⟩

end ScriptHost.Path
