import Mathlib.Data.List.Basic

/-!
# Folding a message block by block

An iterated hash folds a compression function `f : σ → List β → σ` over the blocks of `n` elements
of a message. What does not fill a block waits for the elements that follow it.

* `absorb n f (s, xs)` — the chain value after the complete blocks of `xs`, and the elements that
  wait.

`absorb_append` is the rule for a message that comes in chunks: the pair kept of the message so
far, with a chunk behind the waiting elements, is absorbed to the pair of the longer message.
-/

namespace AvSession.Lib

variable {σ β : Type*}

/-- The complete blocks of `n` elements taken into the chain value, first to last, and the elements
behind them. -/
def absorb (n : ℕ) (f : σ → List β → σ) : σ × List β → σ × List β
  | (s, xs) => if 0 < n ∧ n ≤ xs.length then absorb n f (f s (xs.take n), xs.drop n) else (s, xs)
termination_by p => p.2.length
decreasing_by simp; omega

variable {n : ℕ} {f : σ → List β → σ} {s : σ} {xs ys : List β}

/-- A message shorter than a block waits as it is. -/
theorem absorb_of_lt (h : xs.length < n) : absorb n f (s, xs) = (s, xs) := by
  rw [absorb, if_neg]
  omega

/-- A whole block is absorbed before the rest. -/
theorem absorb_of_le (hn : 0 < n) (h : n ≤ xs.length) :
    absorb n f (s, xs) = absorb n f (f s (xs.take n), xs.drop n) := by
  rw [absorb, if_pos ⟨hn, h⟩]

/-- A first complete block is compressed first. -/
theorem absorb_block (hn : 0 < n) (h : xs.length = n) :
    absorb n f (s, xs ++ ys) = absorb n f (f s xs, ys) := by
  have hle : n ≤ (xs ++ ys).length := by simp [h]
  rw [absorb_of_le hn hle, ← h, List.take_left, List.drop_left]

/-- What waits is what the last complete block leaves. -/
theorem length_absorb (hn : 0 < n) (s : σ) (xs : List β) :
    (absorb n f (s, xs)).2.length = xs.length % n := by
  generalize hp : (s, xs) = p
  induction p using absorb.induct n f generalizing s xs with
  | case1 s' xs' h ih =>
      obtain ⟨rfl, rfl⟩ := Prod.mk.inj hp
      rw [absorb_of_le h.1 h.2, ih _ _ rfl, List.length_drop, Nat.mod_eq_sub_mod h.2]
  | case2 s' xs' h =>
      obtain ⟨rfl, rfl⟩ := Prod.mk.inj hp
      rw [absorb, if_neg h, Nat.mod_eq_of_lt (by omega)]

/-- **Streaming rule.** A chunk taken behind the waiting elements gives what the message with the
chunk gives. -/
theorem absorb_append (s : σ) (xs ys : List β) :
    absorb n f (s, xs ++ ys) =
      absorb n f ((absorb n f (s, xs)).1, (absorb n f (s, xs)).2 ++ ys) := by
  generalize hp : (s, xs) = p
  induction p using absorb.induct n f generalizing s xs with
  | case1 s' xs' h ih =>
      obtain ⟨rfl, rfl⟩ := Prod.mk.inj hp
      have hle : n ≤ (xs ++ ys).length := by
        rw [List.length_append]
        omega
      rw [absorb_of_le h.1 hle, List.take_append_of_le_length h.2,
        List.drop_append_of_le_length h.2, absorb_of_le h.1 h.2]
      exact ih _ _ rfl
  | case2 s' xs' h =>
      obtain ⟨rfl, rfl⟩ := Prod.mk.inj hp
      have hwait : absorb n f (s, xs) = (s, xs) := by rw [absorb, if_neg h]
      rw [hwait]

end AvSession.Lib
