import Mathlib.Data.List.GetD

/-!
# Buffers of a fixed size

A buffer of `n` cells is a `Vector β n`.

* `overwrite v off bs` — the buffer with the cells from `off` on replaced by `bs`.

The front of a buffer grows by what is written right behind it (`take_overwrite`).
-/

namespace AvSession.Lib

variable {β : Type*} {n : ℕ}

/-- The buffer with the cells from `off` on replaced by `bs`, as far as it reaches. -/
def overwrite (v : Vector β n) (off : ℕ) (bs : List β) : Vector β n :=
  v.mapIdx fun i b => if off ≤ i then bs.getD (i - off) b else b

variable {v : Vector β n} {off : ℕ} {bs : List β}

/-- Overwriting replaces the bytes at its place. -/
theorem toList_overwrite (h : off + bs.length ≤ n) :
    (overwrite v off bs).toList = v.toList.take off ++ bs ++ v.toList.drop (off + bs.length) := by
  apply List.ext_getElem
  · simp
    omega
  · intro i hi hi'
    have hin : i < n := by simpa using hi
    have hget : (overwrite v off bs).toList[i] =
        if off ≤ i then bs.getD (i - off) v[i] else v[i] := by
      simp [overwrite]
    rw [hget]
    by_cases hoff : off ≤ i
    · rw [if_pos hoff]
      by_cases hlen : i < off + bs.length
      · rw [List.getD_eq_getElem _ _ (by omega), List.getElem_append_left (by simp; omega),
          List.getElem_append_right (by simp; omega)]
        congr 1
        simp
        omega
      · rw [List.getD_eq_default _ _ (by omega), List.getElem_append_right (by simp; omega)]
        simp only [List.getElem_drop, Vector.getElem_toList]
        congr 1
        simp
        omega
    · rw [if_neg hoff, List.getElem_append_left (by simp; omega),
        List.getElem_append_left (by simp; omega)]
      simp

/-- What is written right behind the front of a buffer makes the front longer. -/
theorem take_overwrite (v : Vector β n) (off : ℕ) (bs : List β) (h : off + bs.length ≤ n) :
    (overwrite v off bs).toList.take (off + bs.length) = v.toList.take off ++ bs := by
  rw [toList_overwrite h]
  apply List.take_left'
  simp
  omega

end AvSession.Lib
