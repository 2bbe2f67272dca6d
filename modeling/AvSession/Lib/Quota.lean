import Mathlib.Algebra.GroupWithZero.Nat
import Mathlib.Logic.Function.Basic
import Mathlib.Order.Lattice
import AvSession.Lib.Run

/-!
# Quotas

A quota lets every key through at most `N` times between two clears. It counts only while it is on;
while it is off, everything is let through and nothing is counted.

* `Quota.lets`, `Quota.apply` — whether a key is let through, and the quota after an operation.
* `Limited` — a system whose steps use the quota through the operations `op`.
* `used_run` — without a clear, what is used is the number of the calls, cut off at `N`.
* `lets_run_iff` — without a clear, exactly the first calls are let through.
* `passes_le` — with `m` clears in between, at most `(m + 1) * N` calls of a key are let through.
-/

namespace AvSession.Lib

variable {κ : Type*}

/-- The number of the calls of a key that were counted since the last clear. -/
structure Quota (κ : Type*) where
  on : Bool
  used : κ → ℕ

namespace Quota

/-- What is done with a quota. Once on, another start changes nothing; a stop forgets the counts. -/
inductive Op (κ : Type*)
  | call (k : κ)
  | clear
  | start
  | stop

def init : Quota κ := ⟨false, fun _ => 0⟩

section Ops

variable [DecidableEq κ] (N : ℕ) (q : Quota κ)

def lets (k : κ) : Bool := !q.on || decide (q.used k < N)

/-- A key that is let through is counted, if the quota is on. -/
def call (k : κ) : Quota κ :=
  if q.on && decide (q.used k < N) then { q with used := Function.update q.used k (q.used k + 1) }
  else q

def clear : Quota κ := { q with used := fun _ => 0 }

def apply : Option (Op κ) → Quota κ
  | none => q
  | some (.call k) => q.call N k
  | some .clear => q.clear
  | some .start => { q with on := true }
  | some .stop => ⟨false, fun _ => 0⟩

/-- The counts never pass the bound, and there are none while the quota is off. -/
structure Inv : Prop where
  le : ∀ k, q.used k ≤ N
  off : q.on = false → ∀ k, q.used k = 0

variable {N q} {k k' : κ}

omit [DecidableEq κ] in
/-- At the start nothing is used. -/
theorem inv_init : Inv N (init : Quota κ) := ⟨fun _ => Nat.zero_le N, fun _ _ => rfl⟩

/-- A call switches nothing. -/
@[simp] theorem on_call : (q.call N k).on = q.on := by
  unfold call
  split_ifs <;> rfl

/-- A call uses its own key's quota. -/
theorem used_call_of_ne (h : k' ≠ k) : (q.call N k).used k' = q.used k' := by
  unfold call
  split_ifs
  · exact Function.update_of_ne h _ _
  · rfl

/-- A call counts if it is let through while the quota is on. -/
theorem used_call_self (hon : q.on = true) (hle : q.used k ≤ N) :
    (q.call N k).used k = min N (q.used k + 1) := by
  unfold call
  by_cases hlt : q.used k < N
  · simp only [hon, hlt, decide_true, Bool.and_true, if_true, Function.update_self]
    omega
  · simp only [hlt, decide_false, Bool.and_false, Bool.false_eq_true, if_false]
    omega

/-- Switched off, nothing is counted. -/
theorem call_of_off (h : q.on = false) : q.call N k = q := by
  unfold call
  rw [h]
  rfl

omit [DecidableEq κ] in
/-- A key is let through while its quota lasts. -/
theorem lets_iff (hon : q.on = true) : q.lets N k = true ↔ q.used k < N := by
  unfold lets
  simp [hon]

/-- **One operation.** -/
theorem Inv.apply (h : Inv N q) (o : Option (Op κ)) : Inv N (q.apply N o) := by
  rcases o with _ | k | _ | _ | _
  · exact h
  · refine ⟨?_, ?_⟩
    · intro k'
      by_cases hk : k' = k
      · subst hk
        by_cases hon : q.on = true
        · show (q.call N k').used k' ≤ N
          rw [used_call_self hon (h.le k')]
          exact Nat.min_le_left _ _
        · show (q.call N k').used k' ≤ N
          rw [call_of_off (by simpa using hon)]
          exact h.le k'
      · show (q.call N k).used k' ≤ N
        rw [used_call_of_ne hk]
        exact h.le k'
    · intro hoff k'
      have hoff : q.on = false := by rwa [Quota.apply, on_call] at hoff
      show (q.call N k).used k' = 0
      rw [call_of_off hoff]
      exact h.off hoff k'
  · exact ⟨fun _ => Nat.zero_le N, fun _ _ => rfl⟩
  · exact ⟨h.le, fun hoff => absurd hoff Bool.noConfusion⟩
  · exact ⟨fun _ => Nat.zero_le N, fun _ _ => rfl⟩

end Ops

end Quota

/-! ## Systems that use a quota -/

section Systems

open Quota

variable {σ α : Type*} [DecidableEq κ]

/-- Every step of the system does with its quota what `op` says. -/
def Limited (N : ℕ) (step : σ → α → σ) (quota : σ → Quota κ) (op : σ → α → Option (Op κ)) : Prop :=
  ∀ s a, quota (step s a) = (quota s).apply N (op s a)

variable (N : ℕ) (step : σ → α → σ) (quota : σ → Quota κ) (op : σ → α → Option (Op κ)) (k : κ)

/-- The step is a call of the key. -/
def isCall (s : σ) (a : α) : Bool :=
  match op s a with
  | some (.call k') => decide (k' = k)
  | _ => false

/-- The step is a call of the key that is let through. -/
def isPass (s : σ) (a : α) : Bool := isCall op k s a && (quota s).lets N k

/-- The step clears the quota. -/
def isClear (s : σ) (a : α) : Bool :=
  match op s a with
  | some .clear => true
  | _ => false

/-- The number of the steps of a run for which `count` says so. -/
def countSteps (count : σ → α → Bool) : σ → List α → ℕ
  | _, [] => 0
  | s, a :: as => (count s a).toNat + countSteps count (step s a) as

/-- The quota stays on. -/
def KeepsOn (s : σ) (a : α) : Prop := op s a ≠ some .stop

/-- The quota stays on and is not cleared. -/
def KeepsCounts (s : σ) (a : α) : Prop := op s a ≠ some .stop ∧ op s a ≠ some .clear

variable {N step quota op k} {s : σ} {a : α} {as : List α}

/-- Along a run the quotas are never exceeded. -/
theorem Limited.inv_run (h : Limited N step quota op) (hs : Inv N (quota s)) (as : List α) :
    Inv N (quota (run step s as)) := by
  induction as generalizing s with
  | nil => exact hs
  | cons a as ih =>
      rw [run_cons]
      apply ih
      rw [h s a]
      exact hs.apply _

/-- The limiter stays on while nothing stops it. -/
theorem Limited.on_step (h : Limited N step quota op) (hon : (quota s).on = true)
    (hkeep : KeepsOn op s a) : (quota (step s a)).on = true := by
  rw [h s a]
  cases hop : op s a with
  | none => exact hon
  | some o =>
      cases o with
      | call k => exact on_call.trans hon
      | clear => exact hon
      | start => rfl
      | stop => exact absurd hop hkeep

/-- One step, for one key. -/
theorem Limited.used_step (h : Limited N step quota op) (hs : Inv N (quota s))
    (hon : (quota s).on = true) (hkeep : KeepsOn op s a) :
    (quota (step s a)).used k =
      if isClear op s a then 0 else min N ((quota s).used k + (isCall op k s a).toNat) := by
  have hle := hs.le k
  rw [h s a]
  unfold isClear isCall
  cases hop : op s a with
  | none =>
      simp only [Quota.apply, Bool.false_eq_true, if_false, Bool.toNat_false]
      omega
  | some o =>
      cases o with
      | call k' =>
          simp only [Quota.apply, Bool.false_eq_true, if_false]
          by_cases hk : k' = k
          · subst hk
            rw [used_call_self hon hle]
            simp
          · rw [used_call_of_ne (Ne.symm hk)]
            simp only [hk, decide_false, Bool.toNat_false]
            omega
      | clear => simp [Quota.apply, Quota.clear]
      | start =>
          simp only [Quota.apply, Bool.false_eq_true, if_false, Bool.toNat_false]
          omega
      | stop => exact absurd hop hkeep

/-- **Counts.** While the quota is neither stopped nor cleared, what is used is the number of the
calls, cut off at the bound. -/
theorem Limited.used_run (h : Limited N step quota op) (hs : Inv N (quota s))
    (hon : (quota s).on = true) (hkeep : Meets step (KeepsCounts op) s as) :
    (quota (run step s as)).used k =
      min N ((quota s).used k + countSteps step (isCall op k) s as) := by
  induction as generalizing s with
  | nil => exact (min_eq_right (hs.le k)).symm
  | cons a as ih =>
      obtain ⟨⟨hstop, hclear⟩, hrest⟩ := hkeep
      have hs' : Inv N (quota (step s a)) := by
        rw [h s a]
        exact hs.apply _
      have hnot : isClear op s a = false := by
        unfold isClear
        split
        · next hop => exact absurd hop hclear
        · rfl
      have hused : (quota (step s a)).used k =
          min N ((quota s).used k + (isCall op k s a).toNat) := by
        rw [h.used_step hs hon hstop, hnot, if_neg Bool.false_ne_true]
      rw [run_cons, ih hs' (h.on_step hon hstop) hrest, hused, countSteps]
      omega

/-- **The first calls.** Behind a run that neither stops nor clears the quota, a key is let through
exactly if it has been called fewer than `N` times. -/
theorem Limited.lets_run_iff (h : Limited N step quota op) (hs : Inv N (quota s))
    (hon : (quota s).on = true) (hkeep : Meets step (KeepsCounts op) s as) :
    (quota (run step s as)).lets N k = true ↔
      (quota s).used k + countSteps step (isCall op k) s as < N := by
  have hon' : (quota (run step s as)).on = true := by
    have hstep : ∀ s a, (quota s).on = true → KeepsCounts op s a → (quota (step s a)).on = true :=
      fun s a hs hok => h.on_step hs hok.1
    exact (always_of_meets (P := fun s => (quota s).on = true) hstep hon hkeep).last
  rw [lets_iff hon', h.used_run hs hon hkeep]
  omega

/-- **The bound.** As long as the quota is not stopped, the calls of a key that are let through are
at most `N` more with each clear. -/
theorem Limited.passes_le (h : Limited N step quota op) (hs : Inv N (quota s))
    (hon : (quota s).on = true) (hkeep : Meets step (KeepsOn op) s as) :
    (quota s).used k + countSteps step (isPass N quota op k) s as ≤
      (countSteps step (isClear op) s as + 1) * N := by
  induction as generalizing s with
  | nil =>
      have hle := hs.le k
      simp only [countSteps]
      omega
  | cons a as ih =>
      obtain ⟨hstop, hrest⟩ := hkeep
      have hs' : Inv N (quota (step s a)) := by
        rw [h s a]
        exact hs.apply _
      have hih := ih hs' (h.on_step hon hstop) hrest
      have hle := hs.le k
      rw [h.used_step hs hon hstop] at hih
      rw [countSteps, countSteps]
      by_cases hclear : isClear op s a = true
      · have hcall : isPass N quota op k s a = false := by
          unfold isClear at hclear
          unfold isPass isCall
          split at hclear
          · next hop => rw [hop]; rfl
          · exact absurd hclear Bool.false_ne_true
        rw [if_pos hclear] at hih
        rw [hclear, hcall, Bool.toNat_false, Bool.toNat_true, Nat.add_assoc 1, Nat.add_mul 1]
        omega
      · rw [if_neg hclear] at hih
        rw [Bool.not_eq_true] at hclear
        rw [hclear, Bool.toNat_false, Nat.zero_add]
        by_cases hcall : isCall op k s a = true
        · have hpass : isPass N quota op k s a = decide ((quota s).used k < N) := by
            unfold isPass
            rw [hcall, Bool.true_and, Bool.eq_iff_iff, lets_iff hon, decide_eq_true_iff]
          rw [hpass]
          rw [hcall, Bool.toNat_true] at hih
          by_cases hlt : (quota s).used k < N
          · simp only [hlt, decide_true, Bool.toNat_true]
            omega
          · simp only [hlt, decide_false, Bool.toNat_false]
            omega
        · have hpass : isPass N quota op k s a = false := by
            unfold isPass
            rw [Bool.not_eq_true] at hcall
            rw [hcall, Bool.false_and]
          rw [Bool.not_eq_true] at hcall
          rw [hcall, Bool.toNat_false] at hih
          rw [hpass, Bool.toNat_false]
          omega

end Systems

end AvSession.Lib
