import Mathlib.Logic.Function.Basic
import Mathlib.Data.List.Induction
import Mathlib.Algebra.GroupWithZero.Nat

/-!
# Records with a mask

A record has one value for each key and a mask that says which keys have been set.

* `MaskedRecord` — values and mask; `set` writes a value and its bit.
* `mergeKeys` — one pass over the keys that copies the selected ones from another record.
* `Same`, `same_of_delta` — what a receiver has who is only sent the values that have changed.
* `maskDigits`, `readDigits` — the mask as digits, the last key first, and the reader that flips a
  bit for every `1`.
-/

namespace AvSession.Lib

variable {κ : Type*} {τ : κ → Type*}

/-- A value for each key, and the keys that have been set. -/
structure MaskedRecord (κ : Type*) (τ : κ → Type*) where
  mask : κ → Bool
  val : ∀ k, τ k

namespace MaskedRecord

/-- Two records with the same marks and values are the same. -/
@[ext] theorem ext' {r s : MaskedRecord κ τ} (hmask : ∀ k, r.mask k = s.mask k)
    (hval : ∀ k, r.val k = s.val k) : r = s := by
  obtain ⟨rmask, rval⟩ := r
  obtain ⟨smask, sval⟩ := s
  obtain rfl : rmask = smask := funext hmask
  obtain rfl : rval = sval := funext hval
  rfl

variable [DecidableEq κ]

/-- Write a value, without its bit. -/
def setVal (r : MaskedRecord κ τ) (k : κ) (v : τ k) : MaskedRecord κ τ :=
  { r with val := Function.update r.val k v }

/-- Write a value and its bit. -/
def set (r : MaskedRecord κ τ) (k : κ) (v : τ k) : MaskedRecord κ τ :=
  { mask := Function.update r.mask k true, val := Function.update r.val k v }

section set

variable (r : MaskedRecord κ τ) (k l : κ) (v : τ k)

/-- Assigning marks nothing. -/
@[simp] theorem setVal_mask : (r.setVal k v).mask = r.mask := rfl

/-- The value assigned is there. -/
@[simp] theorem setVal_val_self : (r.setVal k v).val k = v := Function.update_self ..

/-- Assigning leaves the other values. -/
theorem setVal_val_of_ne (h : l ≠ k) : (r.setVal k v).val l = r.val l :=
  Function.update_of_ne h ..

/-- The value set is there. -/
@[simp] theorem set_val_self : (r.set k v).val k = v := Function.update_self ..

/-- Setting leaves the other values. -/
theorem set_val_of_ne (h : l ≠ k) : (r.set k v).val l = r.val l := Function.update_of_ne h ..

/-- The key set is marked. -/
@[simp] theorem set_mask_self : (r.set k v).mask k = true := Function.update_self ..

/-- Setting leaves the other marks. -/
theorem set_mask_of_ne (h : l ≠ k) : (r.set k v).mask l = r.mask l := Function.update_of_ne h ..

/-- Setting marks one key. -/
theorem set_mask : (r.set k v).mask l = (r.mask l || decide (l = k)) := by
  by_cases h : l = k
  · subst h
    rw [set_mask_self, decide_eq_true rfl, Bool.or_true]
  · rw [set_mask_of_ne _ _ _ _ h, decide_eq_false h, Bool.or_false]

end set

/-! ## Copying the selected keys -/

section merge

/-- Copy the selected keys, with their bits. -/
def mergeKeys (keys : List κ) (sel : κ → Bool) (source : MaskedRecord κ τ) :
    MaskedRecord κ τ → MaskedRecord κ τ :=
  keys.foldl fun acc k => if sel k then acc.set k (source.val k) else acc

variable (keys : List κ) (sel : κ → Bool) (source target : MaskedRecord κ τ)

/-- Merging takes the keys one by one. -/
theorem mergeKeys_cons (k : κ) : mergeKeys (k :: keys) sel source target =
    mergeKeys keys sel source (if sel k then target.set k (source.val k) else target) := rfl

/-- Merging takes the selected values of the listed keys. -/
theorem mergeKeys_val (l : κ) : (mergeKeys keys sel source target).val l =
    if l ∈ keys ∧ sel l = true then source.val l else target.val l := by
  induction keys generalizing target with
  | nil => rw [if_neg (fun h => List.not_mem_nil h.1)]; rfl
  | cons k keys ih =>
      rw [mergeKeys_cons, ih]
      by_cases hsel : l ∈ keys ∧ sel l = true
      · rw [if_pos hsel, if_pos ⟨List.mem_cons_of_mem _ hsel.1, hsel.2⟩]
      · rw [if_neg hsel]
        by_cases hlk : l = k
        · subst hlk
          by_cases hl : sel l = true
          · rw [if_pos hl, set_val_self, if_pos ⟨List.mem_cons_self, hl⟩]
          · rw [if_neg hl, if_neg fun h => hl h.2]
        · have hcons : ¬ (l ∈ k :: keys ∧ sel l = true) := by
            rintro ⟨hmem, hl⟩
            exact hsel ⟨(List.mem_cons.mp hmem).resolve_left hlk, hl⟩
          rw [if_neg hcons]
          split
          · exact set_val_of_ne _ _ _ _ hlk
          · rfl

/-- Merging marks the selected ones of the listed keys. -/
theorem mergeKeys_mask (l : κ) : (mergeKeys keys sel source target).mask l =
    (target.mask l || decide (l ∈ keys) && sel l) := by
  induction keys generalizing target with
  | nil => simp [mergeKeys]
  | cons k keys ih =>
      rw [mergeKeys_cons, ih]
      by_cases hk : sel k = true
      · rw [if_pos hk, set_mask]
        by_cases hlk : l = k
        · subst hlk
          simp [hk]
        · simp [hlk]
      · rw [if_neg hk]
        by_cases hlk : l = k
        · subst hlk
          simp [hk]
        · simp [hlk]

/-- Over all keys, the merge takes the selected values and keeps the others. -/
theorem mergeKeys_val_of_complete (hkeys : ∀ k, k ∈ keys) (l : κ) :
    (mergeKeys keys sel source target).val l =
      if sel l = true then source.val l else target.val l := by
  rw [mergeKeys_val]
  simp only [hkeys l, true_and]

/-- Over all keys, the merge adds the selected bits. -/
theorem mergeKeys_mask_of_complete (hkeys : ∀ k, k ∈ keys) (l : κ) :
    (mergeKeys keys sel source target).mask l = (target.mask l || sel l) := by
  rw [mergeKeys_mask]
  simp only [hkeys l, decide_true, Bool.true_and]

end merge

end MaskedRecord

/-! ## Sending what has changed -/

section delta

variable (changed : ∀ k, τ k → τ k → Bool)

/-- Two values are identical, or the comparison finds no change. -/
def Same {k : κ} (a b : τ k) : Prop := a = b ∨ changed k a b = false

/-- A value is the same as itself. -/
theorem Same.refl {k : κ} (a : τ k) : Same changed a a := .inl rfl

variable {changed}

/-- Same, then unchanged, is the same. -/
theorem Same.trans_unchanged {k : κ} {a b c : τ k}
    (htrans : changed k a b = false → changed k b c = false → changed k a c = false)
    (hab : Same changed a b) (hbc : changed k b c = false) : Same changed a c := by
  rcases hab with rfl | hab
  · exact .inr hbc
  · exact .inr (htrans hab hbc)

/-- **One delta.** The store takes a new value if it is set, and the receiver takes it if it is sent.
If whatever is set and has changed is sent, and nothing else is, the two remain the same. -/
theorem same_of_delta {k : κ} {view stored new : τ k} {sent isSet : Prop} [Decidable sent]
    [Decidable isSet]
    (htrans : changed k view stored = false → changed k stored new = false →
      changed k view new = false)
    (hview : Same changed view stored) (hsent : sent → isSet)
    (hunsent : isSet → ¬ sent → changed k stored new = false) :
    Same changed (if sent then new else view) (if isSet then new else stored) := by
  by_cases hs : sent
  · rw [if_pos hs, if_pos (hsent hs)]
    exact .refl changed new
  · rw [if_neg hs]
    split_ifs with hset
    · exact hview.trans_unchanged htrans (hunsent hset hs)
    · exact hview

end delta

/-! ## The mask as a string -/

section string

/-- The digit of a bit. -/
def digit (b : Bool) : Char := if b then '1' else '0'

/-- The digits of a mask, the last key first. -/
def maskDigits (keys : List κ) (mask : κ → Bool) : List Char :=
  (keys.map fun k => digit (mask k)).reverse

/-- How many bytes some characters take. -/
def byteLength (cs : List Char) : ℕ := (cs.map Char.utf8Size).sum

/-- A mask is written with one digit for each key. -/
theorem byteLength_maskDigits (keys : List κ) (mask : κ → Bool) :
    byteLength (maskDigits keys mask) = keys.length := by
  have hdigit : ∀ b, Char.utf8Size (digit b) = 1 := by decide
  unfold byteLength maskDigits
  rw [List.map_reverse, List.sum_reverse, List.map_map]
  induction keys with
  | nil => rfl
  | cons k keys ih =>
      rw [List.map_cons, List.sum_cons, ih, List.length_cons, Nat.add_comm]
      exact congrArg _ (hdigit _)

variable [DecidableEq κ]

/-- Flip the bit at an index. -/
def flipAt (keys : List κ) (mask : κ → Bool) (i : ℕ) : κ → Bool :=
  match keys[i]? with
  | some k => Function.update mask k !mask k
  | none => mask

/-- Flip a bit for every `1`: its index is the number of bytes that follow it. -/
def readDigits (keys : List κ) : List Char → (κ → Bool) → κ → Bool
  | [], mask => mask
  | c :: cs, mask => readDigits keys cs (if c = '1' then flipAt keys mask (byteLength cs) else mask)

/-- The digit one stands for a mark. -/
theorem digit_eq_one {b : Bool} : digit b = '1' ↔ b = true := by
  cases b <;> decide

/-- Reading the digits of the first keys flips exactly the bits that are set. -/
theorem readDigits_maskDigits {keys before : List κ} (hpre : before <+: keys)
    (hnodup : keys.Nodup) (mask start : κ → Bool) (l : κ) :
    readDigits keys (maskDigits before mask) start l =
      if l ∈ before then start l ^^ mask l else start l := by
  induction before using List.reverseRecOn generalizing start with
  | nil => rfl
  | append_singleton before k ih =>
      have hdigits : maskDigits (before ++ [k]) mask =
          digit (mask k) :: maskDigits before mask := by
        unfold maskDigits
        rw [List.map_append, List.reverse_append]
        rfl
      have hbefore : before <+: keys := (List.prefix_append before [k]).trans hpre
      have hfresh : k ∉ before := fun hmem =>
        (List.nodup_append.mp (hpre.sublist.nodup hnodup)).2.2 k hmem k
          (List.mem_singleton_self k) rfl
      have hindex : keys[before.length]? = some k := by
        obtain ⟨rest, rfl⟩ := hpre
        simp
      rw [hdigits, readDigits, byteLength_maskDigits, ih hbefore]
      by_cases hlk : l = k
      · subst hlk
        rw [if_neg hfresh, if_pos (List.mem_append_right _ (List.mem_singleton_self l))]
        by_cases hbit : mask l = true
        · rw [if_pos (digit_eq_one.mpr hbit), hbit, Bool.xor_true]
          simp only [flipAt, hindex, Function.update_self]
        · rw [if_neg (mt digit_eq_one.mp hbit), Bool.eq_false_iff.mpr hbit, Bool.xor_false]
      · have hmem : l ∈ before ++ [k] ↔ l ∈ before := by simp [hlk]
        have hstart : (if digit (mask k) = '1' then flipAt keys start before.length else start) l =
            start l := by
          split
          · simp only [flipAt, hindex, Function.update_of_ne hlk]
          · rfl
        simp only [hmem, hstart]

/-- **A mask survives its string.** -/
theorem readDigits_maskDigits_of_complete {keys : List κ} (hnodup : keys.Nodup)
    (hkeys : ∀ k, k ∈ keys) (mask : κ → Bool) :
    readDigits keys (maskDigits keys mask) (fun _ => false) = mask := by
  funext l
  rw [readDigits_maskDigits List.prefix_rfl hnodup, if_pos (hkeys l), Bool.false_xor]

end string

end AvSession.Lib
