import Mathlib.Data.List.Basic

/-!
# Lists with a cap

A list that grows at its end until it has `N` elements.

* `pushAll` — push the elements of a list as far as there is room.
* `pushAll_eq`, `foldl_pushAll` — what was pushed is a front of what was to be pushed, however it
  was split.
-/

namespace AvSession.Lib

variable {α β : Type*} (N : ℕ)

/-- The elements are pushed one by one, and no more when the cap is reached. -/
def pushAll (l items : List α) : List α :=
  items.foldl (fun l x => if N ≤ l.length then l else l ++ [x]) l

variable {N}

/-- A full list takes nothing. -/
theorem pushAll_of_full {l : List α} (h : N ≤ l.length) (items : List α) :
    pushAll N l items = l := by
  induction items with
  | nil => rfl
  | cons x items ih =>
    rw [pushAll, List.foldl_cons, if_pos h]
    exact ih

/-- A list takes as many items as it has room for. -/
theorem pushAll_eq (l items : List α) : pushAll N l items = l ++ items.take (N - l.length) := by
  induction items generalizing l with
  | nil => simp [pushAll]
  | cons x items ih =>
    by_cases h : N ≤ l.length
    · rw [pushAll_of_full h, Nat.sub_eq_zero_of_le h, List.take_zero, List.append_nil]
    · obtain ⟨k, hk⟩ : ∃ k, N - l.length = k + 1 := ⟨N - l.length - 1, by omega⟩
      have hrest : N - (l ++ [x]).length = k := by
        rw [List.length_append, List.length_singleton]
        omega
      rw [pushAll, List.foldl_cons, if_neg h, ← pushAll, ih, hrest, hk, List.take_succ_cons,
        List.append_assoc, List.singleton_append]

/-- Pushing the parts, until the cap is reached, is pushing the whole. -/
theorem foldl_pushAll (parts : β → List α) (keys : List β) (l : List α) :
    keys.foldl (fun l k => if N ≤ l.length then l else pushAll N l (parts k)) l =
      pushAll N l (keys.flatMap parts) := by
  induction keys generalizing l with
  | nil => rfl
  | cons k keys ih =>
    have hpart : (if N ≤ l.length then l else pushAll N l (parts k)) = pushAll N l (parts k) := by
      by_cases h : N ≤ l.length
      · rw [if_pos h, pushAll_of_full h]
      · rw [if_neg h]
    rw [List.foldl_cons, hpart, ih, List.flatMap_cons, pushAll, pushAll, pushAll, List.foldl_append]

end AvSession.Lib
