import AvSession.Lib.MaskedRecord

/-!
# Deltas of masked records

A store takes what is set of a record. A receiver who is only sent what has changed takes a part of
the record, and ends up with the same values.

* `merge`, `restrict`, `difference` — what a store has afterwards, the part that is sent, and the
  keys that are sent.
* `merge_merge` — to take a record twice is to take it once.
* `merge_of_unset` — keys that are not set are left alone.
* `same_merge_restrict` — the part is as good as the whole.
-/

namespace AvSession.Lib

namespace MaskedRecord

variable {κ : Type*} {τ : κ → Type*} (initial : ∀ k, τ k) (changed : ∀ k, τ k → τ k → Bool)
  (a b : MaskedRecord κ τ) (d f : κ → Bool) {k : κ}

/-- A record that takes what is set of another. -/
def merge : MaskedRecord κ τ where
  mask := fun k => a.mask k || b.mask k
  val := fun k => if b.mask k then b.val k else a.val k

/-- The part of a record under a mask, in a new record. -/
def restrict : MaskedRecord κ τ where
  mask := fun k => b.mask k && d k
  val := fun k => if b.mask k && d k then b.val k else initial k

/-- The keys that are looked at and have changed. -/
def difference : κ → Bool := fun k => f k && changed k (a.val k) (b.val k)

/-- A merge marks what either marks. -/
@[simp] theorem merge_mask : (a.merge b).mask k = (a.mask k || b.mask k) := rfl

/-- A merge takes the second's marked values. -/
@[simp] theorem merge_val : (a.merge b).val k = if b.mask k then b.val k else a.val k := rfl

/-- A restriction marks what both mark. -/
@[simp] theorem restrict_mask : (b.restrict initial d).mask k = (b.mask k && d k) := rfl

/-- A restriction keeps the marked values. -/
@[simp] theorem restrict_val :
    (b.restrict initial d).val k = if b.mask k && d k then b.val k else initial k := rfl

/-- Merging twice is merging once. -/
theorem merge_merge : (a.merge b).merge b = a.merge b := by
  ext k
  · simp
  · simp only [merge_val]
    split_ifs <;> rfl

variable {a b}

/-- A key that is not set is left alone. -/
theorem merge_of_unset (h : b.mask k = false) :
    (a.merge b).val k = a.val k ∧ (a.merge b).mask k = a.mask k := by
  simp [h]

variable {initial d} in
/-- What is not marked is not kept. -/
theorem restrict_of_unset (h : b.mask k = false) : (b.restrict initial d).mask k = false := by
  simp [h]

/-- **The part is as good as the whole.** A key that is looked at and set has the same value after
the keys that have changed as after all. -/
theorem same_merge_restrict (hf : f k = true) (hb : b.mask k = true) :
    Same changed ((a.merge (b.restrict initial (a.difference changed b f))).val k)
      ((a.merge b).val k) := by
  have hsent : a.difference changed b f k = changed k (a.val k) (b.val k) := by
    simp [difference, hf]
  by_cases hchanged : changed k (a.val k) (b.val k) = true
  · left
    simp [hb, hsent, hchanged]
  · right
    simp [hb, hsent, hchanged]

end MaskedRecord

end AvSession.Lib
