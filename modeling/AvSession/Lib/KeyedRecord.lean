import Mathlib.Data.List.Basic

/-!
# Records that start anew with another key

A record has a key and some values. A patch names a key and sets some of the values; one with
another key first puts all values back to what they are initially.

* `KeyedRecord`, `Patch`, `apply` — records, patches, and what a patch makes of a record.
* `foldl_apply_const_or_same` — patches either do not depend on where they start, or have one key.
* `foldl_apply_replay` — patches that a record has already taken change nothing in the same order.
-/

namespace AvSession.Lib

variable {α : Type*} {ι : Type*} {τ : ι → Type*}

/-- A key and values. -/
@[ext] structure KeyedRecord (α : Type*) {ι : Type*} (τ : ι → Type*) where
  key : α
  val : ∀ i, τ i

/-- A key and some values. -/
structure Patch (α : Type*) {ι : Type*} (τ : ι → Type*) where
  key : α
  val : ∀ i, Option (τ i)

namespace KeyedRecord

variable [DecidableEq α] (initial : ∀ i, τ i) (r : KeyedRecord α τ)

/-- The values that are set are taken, with another key into a new record. -/
def apply (p : Patch α τ) : KeyedRecord α τ where
  key := p.key
  val i := (p.val i).getD (if p.key = r.key then r.val i else initial i)

variable {initial r} {p : Patch α τ} {ps : List (Patch α τ)} {k : α}

/-- A patched record has the patch's key. -/
@[simp] theorem apply_key : (r.apply initial p).key = p.key := rfl

/-- A patch of the same key keeps what it does not set. -/
theorem apply_of_key (h : p.key = r.key) (i : ι) :
    (r.apply initial p).val i = (p.val i).getD (r.val i) := by
  unfold apply
  dsimp only
  rw [if_pos h]

/-- With another key, it does not matter which record there was. -/
theorem apply_of_ne_key (h : p.key ≠ r.key) :
    r.apply initial p = apply initial ⟨p.key, initial⟩ p := by
  unfold apply
  simp only [h, if_false, if_true]

variable (initial) in
/-- Patches of one key set some of the values, whatever they were. -/
theorem exists_foldl_apply_eq (hkey : ∀ p ∈ ps, p.key = k) :
    ∃ w : ∀ i, Option (τ i), ∀ r : KeyedRecord α τ, r.key = k →
      ps.foldl (apply initial) r = ⟨k, fun i => (w i).getD (r.val i)⟩ := by
  induction ps with
  | nil =>
      refine ⟨fun _ => none, fun r hr => ?_⟩
      subst hr
      rfl
  | cons p ps ih =>
      obtain ⟨w, hw⟩ := ih fun q hq => hkey q (List.mem_cons_of_mem p hq)
      have hp := hkey p List.mem_cons_self
      refine ⟨fun i => (w i).or (p.val i), fun r hr => ?_⟩
      rw [List.foldl_cons, hw _ hp]
      congr 1
      funext i
      rw [apply_of_key (hp.trans hr.symm), Option.getD_or]

variable (initial) in
/-- Either it does not matter where some patches start, or they have one key. -/
theorem foldl_apply_const_or_same (p : Patch α τ) (ps : List (Patch α τ)) :
    (∀ r r', (p :: ps).foldl (apply initial) r = (p :: ps).foldl (apply initial) r') ∨
      ∀ q ∈ p :: ps, q.key = p.key := by
  induction ps generalizing p with
  | nil => exact Or.inr fun q hq => congrArg Patch.key (List.mem_singleton.mp hq)
  | cons q ps ih =>
      rcases ih q with hconst | hsame
      · exact Or.inl fun r r' => hconst _ _
      · by_cases hq : q.key = p.key
        · refine Or.inr fun o ho => ?_
          rcases List.mem_cons.mp ho with rfl | ho
          · rfl
          · exact (hsame o ho).trans hq
        · refine Or.inl fun r r' => ?_
          rw [List.foldl_cons, List.foldl_cons, List.foldl_cons, List.foldl_cons,
            apply_of_ne_key (r := r.apply initial p) hq,
            apply_of_ne_key (r := r'.apply initial p) hq]

/-- **Replay.** A record that has taken some patches is left as it is by the same patches. -/
theorem foldl_apply_replay (ps : List (Patch α τ)) (r : KeyedRecord α τ) :
    ps.foldl (apply initial) (ps.foldl (apply initial) r) = ps.foldl (apply initial) r := by
  cases ps with
  | nil => rfl
  | cons p ps =>
      rcases foldl_apply_const_or_same initial p ps with hconst | hsame
      · exact hconst _ _
      · obtain ⟨w, hw⟩ := exists_foldl_apply_eq initial hsame
        obtain ⟨v, hv⟩ : ∃ v, (p :: ps).foldl (apply initial) r =
            (p :: ps).foldl (apply initial) ⟨p.key, v⟩ := by
          by_cases hkey : p.key = r.key
          · exact ⟨r.val, by rw [hkey]⟩
          · exact ⟨initial, by rw [List.foldl_cons, List.foldl_cons, apply_of_ne_key hkey]⟩
        have honce := hw ⟨p.key, v⟩ rfl
        rw [hv, honce, hw _ rfl]
        congr 1
        funext i
        show (w i).getD ((w i).getD (v i)) = (w i).getD (v i)
        cases w i <;> rfl

end KeyedRecord

end AvSession.Lib
