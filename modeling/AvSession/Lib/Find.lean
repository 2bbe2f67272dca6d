import Mathlib.Data.List.Infix

/-!
# Searching a text

* `find` — the first place of a pattern, as `std::string::find` gives it.
* `find_eq_none_iff` — a pattern that is not found does not occur.
* `not_infix_of_foldl` — a state machine that watches for a pattern and has not seen it.
-/

namespace AvSession.Lib

variable {α : Type*}

/-! ## The first place of a pattern -/

section Find

variable [BEq α] [LawfulBEq α] {pat s : List α} {n : ℕ}

/-- The first place where the pattern begins. -/
def find (pat : List α) : List α → Option ℕ
  | [] => if pat.isPrefixOf [] then some 0 else none
  | c :: s => if pat.isPrefixOf (c :: s) then some 0 else (find pat s).map (· + 1)

/-- Where a pattern is found it stands. -/
theorem prefix_of_find (h : find pat s = some n) : pat <+: s.drop n := by
  induction s generalizing n with
  | nil =>
    rw [find] at h
    split_ifs at h with hpre
    rw [List.drop_nil]
    exact List.isPrefixOf_iff_prefix.mp hpre
  | cons c s ih =>
    rw [find] at h
    split_ifs at h with hpre
    · rw [← Option.some.inj h, List.drop_zero]
      exact List.isPrefixOf_iff_prefix.mp hpre
    · obtain ⟨m, hm, rfl⟩ := Option.map_eq_some_iff.mp h
      exact ih hm

/-- What is not found does not occur. -/
theorem find_eq_none_iff : find pat s = none ↔ ¬ pat <:+: s := by
  induction s with
  | nil => simp [find, List.isPrefixOf_iff_prefix]
  | cons c s ih =>
    rw [find, List.infix_cons_iff, ← List.isPrefixOf_iff_prefix]
    by_cases hpre : pat.isPrefixOf (c :: s) = true
    · simp [hpre]
    · simp [hpre, ih]

/-- The pattern lies within the text. -/
theorem add_length_le_of_find (hpat : pat ≠ []) (h : find pat s = some n) :
    n + pat.length ≤ s.length := by
  have hle := (prefix_of_find h).length_le
  have hpos := List.length_pos_iff.mpr hpat
  rw [List.length_drop] at hle
  omega

end Find

/-! ## Watching for a pattern -/

section Watch

variable {σ : Type*} {next : σ → α → σ} {found : σ}

/-- A machine that is in one state for good once it has read a pattern, and is not in that state
after a text, has not read the pattern. -/
theorem not_infix_of_foldl {pat text : List α} {q : σ} (hstay : ∀ c, next found c = found)
    (hpat : ∀ q, pat.foldl next q = found) (h : text.foldl next q ≠ found) : ¬ pat <:+: text := by
  rintro ⟨before, after, rfl⟩
  apply h
  rw [List.foldl_append, List.foldl_append, hpat]
  exact List.foldl_fixed' hstay after

end Watch

end AvSession.Lib
