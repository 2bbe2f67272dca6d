import Mathlib.Data.List.Basic
import Mathlib.Data.Int.Notation

/-!
# Slots

A list of flags, one for each slot. The first slot that is free is handed out.

* `firstFree` — the first slot that is not taken.
* `Taken` — an index is that of a slot that is taken; the index may be any integer.
* `taken_take`, `taken_free` — the slots after one is taken or given back.
-/

namespace AvSession.Lib

variable {flags : List Bool} {i : ℕ} {j : ℤ}

/-- The first slot that is not taken. -/
def firstFree (flags : List Bool) : Option ℕ := flags.findIdx? fun taken => taken == false

/-- The index is that of a slot that is taken. -/
def Taken (flags : List Bool) (j : ℤ) : Prop := 0 ≤ j ∧ flags[j.toNat]? = some true

/-- The index is that of a slot. -/
def InRange (flags : List Bool) (j : ℤ) : Prop := 0 ≤ j ∧ j < flags.length

/-- Without slots none is taken. -/
@[simp] theorem not_taken_nil (j : ℤ) : ¬ Taken [] j := by
  simp [Taken]

/-- Without slots none is free. -/
theorem firstFree_nil : firstFree [] = none := rfl

/-- The first free slot is free. -/
theorem getElem?_of_firstFree (h : firstFree flags = some i) : flags[i]? = some false := by
  obtain ⟨hi, hfree, -⟩ := List.findIdx?_eq_some_iff_getElem.mp h
  rw [List.getElem?_eq_getElem hi, beq_iff_eq.mp hfree]

/-- A free slot is a slot. -/
theorem ne_nil_of_firstFree (h : firstFree flags = some i) : flags ≠ [] := by
  rintro rfl
  cases h

/-- A free slot is within range. -/
theorem lt_length_of_firstFree (h : firstFree flags = some i) : i < flags.length :=
  (List.getElem?_eq_some_iff.mp (getElem?_of_firstFree h)).1

/-- A free slot is not taken. -/
theorem not_taken_of_firstFree (h : firstFree flags = some i) : ¬ Taken flags i := by
  rintro ⟨-, htaken⟩
  rw [Int.toNat_natCast, getElem?_of_firstFree h] at htaken
  cases htaken

/-- A taken slot is within range. -/
theorem Taken.inRange (h : Taken flags j) : InRange flags j := by
  obtain ⟨hlow, htaken⟩ := h
  have hlt := (List.getElem?_eq_some_iff.mp htaken).1
  exact ⟨hlow, by omega⟩

/-- A slot is taken. -/
theorem taken_take (hi : i < flags.length) :
    Taken (flags.set i true) j ↔ j = i ∨ Taken flags j := by
  rw [Taken, Taken, List.getElem?_set]
  by_cases hj : i = j.toNat
  · rw [if_pos hj, if_pos hi]
    constructor
    · rintro ⟨hlow, -⟩
      exact Or.inl (by omega)
    · rintro (rfl | ⟨hlow, -⟩)
      · exact ⟨by omega, rfl⟩
      · exact ⟨hlow, rfl⟩
  · rw [if_neg hj]
    constructor
    · exact Or.inr
    · rintro (rfl | h)
      · exact absurd (Int.toNat_natCast i).symm hj
      · exact h

/-- A slot is given back. -/
theorem taken_free (hlow : 0 ≤ j) (k : ℤ) :
    Taken (flags.set j.toNat false) k ↔ k ≠ j ∧ Taken flags k := by
  rw [Taken, Taken, List.getElem?_set]
  by_cases hk : j.toNat = k.toNat
  · rw [if_pos hk]
    constructor
    · rintro ⟨-, htaken⟩
      split_ifs at htaken
      cases htaken
    · rintro ⟨hne, hk0, -⟩
      omega
  · rw [if_neg hk]
    constructor
    · rintro h
      exact ⟨fun heq => hk (congrArg Int.toNat heq.symm), h⟩
    · exact And.right

/-- A slot that was taken and given back at once. -/
theorem free_take (h : firstFree flags = some i) :
    (flags.set i true).set i false = flags := by
  obtain ⟨hi, hfree⟩ := List.getElem?_eq_some_iff.mp (getElem?_of_firstFree h)
  calc (flags.set i true).set i false
      = flags.set i flags[i] := by rw [List.set_set, hfree]
    _ = flags := List.set_getElem_self hi

end AvSession.Lib
