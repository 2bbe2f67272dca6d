import Mathlib.Data.List.TakeWhile
import Mathlib.Order.Basic
import AvSession.Lib.Run
import Mathlib.Order.Lattice

/-!
# Flow limiters

A flow limiter keeps the times of the calls it let through in a queue. A call first drops the times
at the front of the queue that have expired, and is let through when fewer than `N` stay.

* `Limiter.call` — the limiter after a call; `Limiter.refuses` — whether the call is refused.
* `length_window_le` — with times that do not decrease, at most `N` calls are let through in a
  window of times that do not expire within it.
* `refuses_iff` — a call is refused exactly if the queue is full and its front has not expired.
-/

namespace AvSession.Lib

variable {τ : Type*}

/-- The queue, and all times that were let through. -/
structure Limiter (τ : Type*) where
  queue : List τ
  passed : List τ

namespace Limiter

variable (expired : τ → τ → Bool) (N : ℕ) (s : Limiter τ) (now : τ)

def init : Limiter τ := ⟨[], []⟩

/-- The queue without the expired times at its front. -/
def remaining : List τ := s.queue.dropWhile (expired · now)

def refuses : Bool := decide (N ≤ (s.remaining expired now).length)

def call : Limiter τ :=
  if s.refuses expired N now then { s with queue := s.remaining expired now }
  else ⟨s.remaining expired now ++ [now], s.passed ++ [now]⟩

variable {expired N s now}

/-! ## When a call is refused -/

section Refused

/-- The queue never outgrows the limit. -/
theorem length_queue_call (h : s.queue.length ≤ N) :
    (s.call expired N now).queue.length ≤ N := by
  have hle : (s.remaining expired now).length ≤ s.queue.length :=
    (List.dropWhile_suffix _).length_le
  rw [call, refuses]
  by_cases hfull : N ≤ (s.remaining expired now).length
  · simp only [hfull, decide_true, if_true]
    omega
  · simp only [hfull, decide_false, Bool.false_eq_true, if_false, List.length_append,
      List.length_singleton]
    omega

/-- **Refusal.** The queue is full, and its front has not expired. -/
theorem refuses_iff (hN : 0 < N) (h : s.queue.length ≤ N) :
    s.refuses expired N now = true ↔
      s.queue.length = N ∧ ∀ first ∈ s.queue.head?, expired first now = false := by
  rw [refuses, decide_eq_true_iff, remaining]
  rcases hqueue : s.queue with _ | ⟨first, rest⟩
  · simp
    omega
  · rw [hqueue] at h
    by_cases hfirst : expired first now = true
    · have hle : (rest.dropWhile (expired · now)).length ≤ rest.length :=
        (List.dropWhile_suffix _).length_le
      rw [List.dropWhile_cons_of_pos (p := (expired · now)) hfirst]
      simp only [List.length_cons] at h
      simp only [List.head?_cons, Option.mem_some_iff, forall_eq', hfirst, Bool.true_eq_false,
        and_false, iff_false]
      omega
    · have hnot : expired first now = false := by simpa using hfirst
      rw [List.dropWhile_cons_of_neg (p := (expired · now)) hfirst]
      simp only [List.head?_cons, Option.mem_some_iff, forall_eq', hnot, and_true]
      omega

end Refused

/-! ## Windows -/

section Window

variable [LinearOrder τ] {a b : τ}

/-- The times of the window `[a, b]` that were let through are few, and those of them that are no
longer in the queue were dropped at a time behind the window. -/
structure WindowInv (N : ℕ) (a b : τ) (s : Limiter τ) (rest : List τ) : Prop where
  few : (s.passed.filter fun t => a ≤ t ∧ t ≤ b).length ≤ N
  split : ∃ dropped, s.passed = dropped ++ s.queue ∧
    ∀ t ∈ dropped, a ≤ t → ∀ r ∈ rest, b < r
  before : ∀ t ∈ s.passed, ∀ r ∈ rest, t ≤ r
  sorted : rest.Pairwise (· ≤ ·)

variable {rest : List τ}

/-- The times that expire at `now` are dropped at a time behind the window. -/
theorem windowInv_remaining (hfit : ∀ t r, a ≤ t → t ≤ r → r ≤ b → expired t r = false)
    (h : WindowInv N a b s (now :: rest)) :
    ∃ dropped, s.passed = dropped ++ s.remaining expired now ∧
      ∀ t ∈ dropped, a ≤ t → ∀ r ∈ now :: rest, b < r := by
  obtain ⟨dropped, hpassed, hdropped⟩ := h.split
  refine ⟨dropped ++ s.queue.takeWhile (expired · now), ?_, ?_⟩
  · rw [List.append_assoc, remaining, List.takeWhile_append_dropWhile]
    exact hpassed
  · intro t ht hat r hr
    rcases List.mem_append.mp ht with ht | ht
    · exact hdropped t ht hat r hr
    · have hexpired : expired t now = true := List.mem_takeWhile_imp (p := (expired · now)) ht
      have hmem : t ∈ s.passed := by
        rw [hpassed]
        exact List.mem_append_right _ ((List.takeWhile_sublist _).mem ht)
      have hnow : t ≤ now := h.before t hmem now List.mem_cons_self
      have hbehind : b < now := by
        by_contra hle
        have hkept := hfit t now hat hnow (not_lt.mp hle)
        simp [hkept] at hexpired
      rcases List.mem_cons.mp hr with rfl | hr
      · exact hbehind
      · exact lt_of_lt_of_le hbehind (List.rel_of_pairwise_cons h.sorted hr)

/-- Within one window a call keeps the count. -/
theorem windowInv_call (hfit : ∀ t r, a ≤ t → t ≤ r → r ≤ b → expired t r = false)
    (h : WindowInv N a b s (now :: rest)) : WindowInv N a b (s.call expired N now) rest := by
  obtain ⟨dropped, hpassed, hdropped⟩ := windowInv_remaining hfit h
  have hsorted := List.Pairwise.of_cons h.sorted
  rw [call]
  by_cases hrefused : s.refuses expired N now = true
  · rw [if_pos hrefused]
    refine ⟨h.few, ⟨dropped, hpassed, ?_⟩, ?_, hsorted⟩
    · exact fun t ht hat r hr => hdropped t ht hat r (List.mem_cons_of_mem _ hr)
    · exact fun t ht r hr => h.before t ht r (List.mem_cons_of_mem _ hr)
  · rw [if_neg hrefused]
    have hroom : (s.remaining expired now).length < N := by
      rw [refuses, decide_eq_true_iff] at hrefused
      omega
    refine ⟨?_, ⟨dropped, ?_, ?_⟩, ?_, hsorted⟩
    · rw [List.filter_append, List.length_append]
      by_cases hnow : a ≤ now ∧ now ≤ b
      · -- the times of the window are still in the queue, which has room for one more
        have hnone : (dropped.filter fun t => a ≤ t ∧ t ≤ b) = [] := by
          rw [List.filter_eq_nil_iff]
          intro t ht hwindow
          have hwindow : a ≤ t ∧ t ≤ b := by simpa using hwindow
          have hbehind := hdropped t ht hwindow.1 now List.mem_cons_self
          exact absurd hnow.2 (not_le.mpr hbehind)
        have hle : ((s.remaining expired now).filter fun t => a ≤ t ∧ t ≤ b).length ≤
            (s.remaining expired now).length := List.length_filter_le _ _
        rw [hpassed, List.filter_append, hnone, List.nil_append]
        simp only [hnow, decide_true, List.filter_cons_of_pos, List.filter_nil, and_self,
          List.length_singleton]
        omega
      · have hout : ([now].filter fun t => a ≤ t ∧ t ≤ b) = [] := by simp [hnow]
        rw [hout]
        exact h.few
    · rw [hpassed, List.append_assoc]
    · exact fun t ht hat r hr => hdropped t ht hat r (List.mem_cons_of_mem _ hr)
    · intro t ht r hr
      rcases List.mem_append.mp ht with ht | ht
      · exact h.before t ht r (List.mem_cons_of_mem _ hr)
      · rw [List.mem_singleton.mp ht]
        exact List.rel_of_pairwise_cons h.sorted hr

/-- **Windows.** With times that do not decrease, at most `N` calls are let through in a window
within which no time expires. -/
theorem length_window_le (hfit : ∀ t r, a ≤ t → t ≤ r → r ≤ b → expired t r = false)
    {times : List τ} (hsorted : times.Pairwise (· ≤ ·)) :
    ((run (call expired N) init times).passed.filter fun t => a ≤ t ∧ t ≤ b).length ≤ N := by
  have hinit : WindowInv N a b init times :=
    ⟨by simp [init], ⟨[], by simp [init]⟩, by simp [init], hsorted⟩
  generalize (init : Limiter τ) = s at *
  clear hsorted
  induction times generalizing s with
  | nil => exact hinit.few
  | cons now rest ih => exact ih _ (windowInv_call hfit hinit)

end Window

end Limiter

end AvSession.Lib
