import Mathlib.Data.List.Infix
import Mathlib.Data.List.TakeWhile

/-!
# Names of files

Paths are lists of characters, as they are built by concatenation and taken apart by searching.

* `baseName` — what is behind the last slash; `rfind` — the last place of a pattern.
* `includeTrailingPathDelimiter` — the prefix of the paths in a directory.
* `baseName_append`, `rfind_append_self` — what is taken apart is what was put together.
-/

namespace AvSession.Lib

abbrev Path := List Char

/-! ## The base name -/

section BaseName

/-- What is behind the last slash, or all without one. -/
def baseName (file : Path) : Path := (file.reverse.takeWhile (· ≠ '/')).reverse

/-- The name of a file is what stands behind the last slash. -/
theorem baseName_append {name : Path} (h : '/' ∉ name) (dir : Path) :
    baseName (dir ++ '/' :: name) = name := by
  have hname : ∀ c ∈ name.reverse, (decide (c ≠ '/')) = true := by
    intro c hc
    have hne : c ≠ '/' := by
      rintro rfl
      exact h (List.mem_reverse.mp hc)
    simpa using hne
  rw [baseName, List.reverse_append, List.reverse_cons, List.append_assoc,
    List.takeWhile_append_of_pos hname]
  simp

/-- The prefix that the paths of all files in a directory have. -/
def includeTrailingPathDelimiter (dir : Path) : Path :=
  if dir.getLast? = some '/' then dir else dir ++ ['/']

end BaseName

/-! ## The last place of a pattern -/

section Rfind

variable {pat : Path}

/-- The last place where the pattern begins. -/
def rfind (pat : Path) : Path → Option ℕ
  | [] => if pat = [] then some 0 else none
  | c :: s =>
    match rfind pat s with
    | some i => some (i + 1)
    | none => if pat.isPrefixOf (c :: s) then some 0 else none

/-- A longer pattern is not found. -/
theorem rfind_eq_none_of_length_lt {s : Path} (h : s.length < pat.length) : rfind pat s = none := by
  induction s with
  | nil =>
    rw [rfind, if_neg]
    rintro rfl
    simp at h
  | cons c s ih =>
    have hbegins : ¬ pat.isPrefixOf (c :: s) = true := by
      intro hpre
      have hle := (List.isPrefixOf_iff_prefix.mp hpre).length_le
      omega
    have hs : s.length < pat.length := by
      rw [List.length_cons] at h
      omega
    rw [rfind, ih hs]
    simp [hbegins]

/-- A pattern at the end is found there. -/
theorem rfind_append_self (hpat : pat ≠ []) (stem : Path) :
    rfind pat (stem ++ pat) = some stem.length := by
  induction stem with
  | nil =>
    obtain ⟨c, rest, rfl⟩ := List.exists_cons_of_ne_nil hpat
    rw [List.nil_append, rfind, rfind_eq_none_of_length_lt (by simp)]
    simp
  | cons c stem ih =>
    rw [List.cons_append, rfind, ih]
    rfl

/-- What is not there is not found. -/
theorem rfind_eq_none {s : Path} (h : ¬ pat <:+: s) : rfind pat s = none := by
  induction s with
  | nil =>
    rw [rfind, if_neg]
    rintro rfl
    exact h (List.infix_refl _)
  | cons c s ih =>
    rw [List.infix_cons_iff, not_or] at h
    rw [rfind, ih h.2]
    simp [List.isPrefixOf_iff_prefix, h.1]

end Rfind

end AvSession.Lib
