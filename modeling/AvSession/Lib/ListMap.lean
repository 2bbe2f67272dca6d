import AvSession.Lib.OrderedMap

/-!
# Maps to lists

A `std::map` from keys to lists, as tables that group their entries by a key are kept: an entry is
pushed to the back of the list of its key, and when the last entry of a key is removed the key goes
with it.

* `listAt` — the list of a key, empty for a key that is absent.
* `push`, `removeFrom` — the two updates; `listAt_push` and `listAt_removeFrom` are the lists after
  them.
* `NoEmpty` — no key maps to an empty list. The updates keep it.
-/

set_option linter.unusedSectionVars false

namespace AvSession.Lib.ListMap

open Std AvSession.Lib.OrderedMap

variable {κ α : Type*} {cmp : κ → κ → Ordering} [TransCmp cmp] [LawfulEqCmp cmp] [DecidableEq κ]
  [DecidableEq α]

/-! ## The updates -/

section updates

variable (t : ExtTreeMap κ (List α) cmp) (k : κ) (a : α)

/-- The list of a key. -/
def listAt : List α := t[k]?.getD []

/-- Push an entry to the back of the list of its key: `m[k].push_back(a)`. -/
def push : ExtTreeMap κ (List α) cmp := t.insert k (listAt t k ++ [a])

/-- Remove every occurrence of an entry from the list of its key, and the key with its last
entry. -/
def removeFrom : ExtTreeMap κ (List α) cmp :=
  match t[k]? with
  | none => t
  | some l => if l.filter (· ≠ a) = [] then t.erase k else t.insert k (l.filter (· ≠ a))

end updates

/-! ## The lists after an update -/

section lists

variable {t : ExtTreeMap κ (List α) cmp} {k k' : κ} {a b : α}

/-- A key with a list has that list. -/
theorem listAt_of_some {l : List α} (h : t[k]? = some l) : listAt t k = l := by
  unfold listAt
  rw [h, Option.getD_some]

/-- A key without a list has the empty one. -/
theorem listAt_of_none (h : t[k]? = none) : listAt t k = [] := by
  unfold listAt
  rw [h, Option.getD_none]

/-- A push appends to its own key's list. -/
theorem listAt_push :
    listAt (push t k a) k' = if k = k' then listAt t k ++ [a] else listAt t k' := by
  have hget : (push t k a)[k']? = if k = k' then some (listAt t k ++ [a]) else t[k']? :=
    getElem?_insert k k' _
  unfold listAt at hget ⊢
  rw [hget]
  split_ifs <;> rfl

/-- A list that becomes empty goes with its key. -/
theorem getElem?_removeFrom : (removeFrom t k a)[k']? =
    if k = k' then
      if (listAt t k).filter (· ≠ a) = [] then none else some ((listAt t k).filter (· ≠ a))
    else t[k']? := by
  unfold removeFrom
  cases h : t[k]? with
  | none =>
      rw [listAt_of_none h]
      by_cases hk : k = k'
      · simp [← hk, h]
      · simp [hk]
  | some l =>
      rw [listAt_of_some h]
      dsimp only
      by_cases hl : l.filter (· ≠ a) = []
      · rw [if_pos hl, getElem?_erase, if_pos hl]
      · rw [if_neg hl, getElem?_insert, if_neg hl]

/-- A removal filters its own key's list. -/
theorem listAt_removeFrom :
    listAt (removeFrom t k a) k' =
      if k = k' then (listAt t k).filter (· ≠ a) else listAt t k' := by
  have hget : (removeFrom t k a)[k']? = _ := getElem?_removeFrom
  split_ifs at hget ⊢ with hk hl
  · rw [listAt_of_none hget, hl]
  · exact listAt_of_some hget
  · unfold listAt
    rw [hget]

/-- The pushed element is in its key's list. -/
theorem mem_listAt_push : b ∈ listAt (push t k a) k' ↔ b ∈ listAt t k' ∨ (k = k' ∧ b = a) := by
  rw [listAt_push]
  split_ifs with hk
  · simp [← hk]
  · simp [hk]

/-- The removed element is not in its key's list. -/
theorem mem_listAt_removeFrom :
    b ∈ listAt (removeFrom t k a) k' ↔ b ∈ listAt t k' ∧ ¬ (k = k' ∧ b = a) := by
  rw [listAt_removeFrom]
  split_ifs with hk
  · simp [← hk]
  · simp [hk]

/-- A removal repeats nothing. -/
theorem nodup_removeFrom (h : ∀ k, (listAt t k).Nodup) (k' : κ) :
    (listAt (removeFrom t k a) k').Nodup := by
  rw [listAt_removeFrom]
  split_ifs
  · exact (h k).filter _
  · exact h k'

end lists

/-! ## No empty list -/

section noEmpty

/-- No key maps to an empty list. -/
def NoEmpty (t : ExtTreeMap κ (List α) cmp) : Prop := ∀ k : κ, t[k]? ≠ some []

variable {t : ExtTreeMap κ (List α) cmp} {k : κ} {a : α}

/-- The empty map has no empty list. -/
theorem noEmpty_empty : NoEmpty (∅ : ExtTreeMap κ (List α) cmp) := by
  intro k
  simp

/-- A push leaves no empty list. -/
theorem NoEmpty.push (h : NoEmpty t) : NoEmpty (push t k a) := by
  intro k' hk'
  have hget : (ListMap.push t k a)[k']? = if k = k' then some (listAt t k ++ [a]) else t[k']? :=
    getElem?_insert k k' _
  rw [hget] at hk'
  split_ifs at hk'
  · simp at hk'
  · exact h k' hk'

/-- A removal leaves no empty list. -/
theorem NoEmpty.removeFrom (h : NoEmpty t) : NoEmpty (removeFrom t k a) := by
  intro k' hk'
  rw [getElem?_removeFrom] at hk'
  split_ifs at hk' with hk hl
  · exact hl (Option.some.inj hk')
  · exact h k' hk'

end noEmpty

end AvSession.Lib.ListMap
