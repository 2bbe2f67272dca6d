import Mathlib.Algebra.Order.Group.Unbundled.Abs
import Mathlib.Data.Int.Order.Basic
import Mathlib.Tactic.Ring
import AvSession.Lib.FlowLimiter

/-!
# Flow control of notifications

A notification is published unless three were published shortly before. The times are readings of
the system clock, which can jump in both directions.

* `removeExpired`, `notifyFlowControl` — over the list of publishing times.
* `few_of_sorted` — with a clock that does not go back, few notifications in any short window.
* `flowControl_iff` — when a call far from all earlier readings is let through.

The distance of two readings is cut to whole seconds and to 32 bits before it is compared.
-/

namespace AvSession.Service.FlowControl

open AvSession.Lib

/-! ## Functions -/

section Functions

def MAX_NOTIFICATION_NUM : ℕ := 3

/-- The ticks of the system clock in a second. Readings are far from the ends of its 64 bits, so
that their distance is exact. -/
def TICKS : ℤ := 1000000

/-- The default of the argument `time` of `RemoveExpired`, in seconds.
Source: avsession_service.h, `AVSessionService::RemoveExpired` -/
def EXPIRY : ℤ := 1

/-- The distance in whole seconds, as an `int32_t`. -/
def durationInSeconds (t now : ℤ) : ℤ := Int.bmod ((now - t).tdiv TICKS) (2 ^ 32)

/-- `std::abs` of an `int32_t`: the least value has no positive counterpart. -/
def abs32 (x : ℤ) : ℤ := if x = -2 ^ 31 then x else |x|

def isExpired (time t now : ℤ) : Bool := decide (time < abs32 (durationInSeconds t now))

/-- The loop stops at the first time that is not expired.
Source: avsession_service.cpp, `AVSessionService::RemoveExpired` -/
def removeExpired (list : List ℤ) (now time : ℤ) : List ℤ := list.dropWhile (isExpired time · now)

/-- Whether the call is refused, and the list.
Source: avsession_service.cpp, `AVSessionService::NotifyFlowControl` -/
def notifyFlowControl (flowControlPublishTimestampList : List ℤ) (now : ℤ) : Bool × List ℤ :=
  let list := removeExpired flowControlPublishTimestampList now EXPIRY
  if MAX_NOTIFICATION_NUM ≤ list.length then (true, list) else (false, list ++ [now])

/-- The list, with the readings of all calls and of those that were let through. -/
structure FlowState where
  timestamps : List ℤ
  readings : List ℤ
  letThrough : List ℤ

def FlowState.init : FlowState := ⟨[], [], []⟩

/-- A call that reads `now`. -/
def step (s : FlowState) (now : ℤ) : FlowState where
  timestamps := (notifyFlowControl s.timestamps now).2
  readings := s.readings ++ [now]
  letThrough :=
    if (notifyFlowControl s.timestamps now).1 then s.letThrough else s.letThrough ++ [now]

end Functions

/-! ## The limiter -/

section Limiter

variable {s : FlowState} {now : ℤ}

def FlowState.limiter (s : FlowState) : Limiter ℤ := ⟨s.timestamps, s.letThrough⟩

/-- A call is a call of the limiter. -/
theorem limiter_step (s : FlowState) (now : ℤ) :
    (step s now).limiter = s.limiter.call (isExpired EXPIRY) MAX_NOTIFICATION_NUM now := by
  simp only [step, FlowState.limiter, notifyFlowControl, removeExpired, Limiter.call,
    Limiter.refuses, Limiter.remaining]
  by_cases hfull : MAX_NOTIFICATION_NUM ≤
      (s.timestamps.dropWhile (isExpired EXPIRY · now)).length
  · simp [hfull]
  · simp [hfull]

/-- A run of notices is a run of the limiter. -/
theorem limiter_run (s : FlowState) (readings : List ℤ) :
    (run step s readings).limiter =
      run (Limiter.call (isExpired EXPIRY) MAX_NOTIFICATION_NUM) s.limiter readings := by
  induction readings generalizing s with
  | nil => rfl
  | cons now readings ih => rw [run_cons, run_cons, ih, limiter_step]

/-- A notice is refused exactly as the limiter refuses. -/
theorem refused_eq (s : FlowState) (now : ℤ) :
    (notifyFlowControl s.timestamps now).1 =
      s.limiter.refuses (isExpired EXPIRY) MAX_NOTIFICATION_NUM now := by
  simp only [notifyFlowControl, removeExpired, FlowState.limiter, Limiter.refuses,
    Limiter.remaining]
  by_cases hfull : MAX_NOTIFICATION_NUM ≤
      (s.timestamps.dropWhile (isExpired EXPIRY · now)).length
  · simp [hfull]
  · simp [hfull]

end Limiter

/-! ## Windows and jumps -/

section Claims

/-- A distance below two seconds does not expire, cut to whole seconds or not. -/
theorem isExpired_of_near {t now : ℤ} (h : t ≤ now) (hnear : (now - t) / TICKS ≤ EXPIRY) :
    isExpired EXPIRY t now = false := by
  have hnonneg : 0 ≤ (now - t).tdiv TICKS := Int.tdiv_nonneg (by omega) (by decide)
  have hle : (now - t).tdiv TICKS ≤ 1 := by
    rw [Int.tdiv_eq_ediv_of_nonneg (by omega)]
    exact hnear
  have hwrap : durationInSeconds t now = (now - t).tdiv TICKS := by
    rw [durationInSeconds, Int.bmod_def]
    omega
  rw [isExpired, decide_eq_false_iff_not, hwrap, abs32, if_neg (by omega), abs_of_nonneg hnonneg]
  exact not_lt.mpr hle

/-- **Windows.** With readings that do not decrease, at most `MAX_NOTIFICATION_NUM` calls are let
through in a window that is not longer than the expiry time in whole seconds. -/
theorem few_of_sorted {readings : List ℤ} (hsorted : readings.Pairwise (· ≤ ·)) {a b : ℤ}
    (hwindow : (b - a) / TICKS ≤ EXPIRY) :
    ((run step .init readings).letThrough.filter fun t => a ≤ t ∧ t ≤ b).length ≤
      MAX_NOTIFICATION_NUM := by
  have hfit : ∀ t r, a ≤ t → t ≤ r → r ≤ b → isExpired EXPIRY t r = false := by
    intro t r hat htr hrb
    apply isExpired_of_near htr
    calc (r - t) / TICKS ≤ (b - a) / TICKS := Int.ediv_le_ediv (by decide) (by omega)
      _ ≤ EXPIRY := hwindow
  have hlimiter := Limiter.length_window_le (N := MAX_NOTIFICATION_NUM) hfit hsorted
  have hrun := limiter_run .init readings
  have hinit : FlowState.init.limiter = Limiter.init := rfl
  rw [hinit] at hrun
  rw [← hrun] at hlimiter
  exact hlimiter

/-- The clock is more than the expiry time and a second away from a reading. -/
def Far (now reading : ℤ) : Prop := (EXPIRY + 1) * TICKS < |now - reading|

/-- A call far from every earlier reading is let through. -/
def LetThrough (s : FlowState) (now : ℤ) : Prop :=
  (∀ r ∈ s.readings, Far now r) → (notifyFlowControl s.timestamps now).1 = false

/-- A number of seconds whose last 32 bits are those of -1, 0, 1 or the least number. -/
def WrapsSmall (seconds : ℤ) : Prop :=
  |Int.bmod seconds (2 ^ 32)| ≤ 1 ∨ Int.bmod seconds (2 ^ 32) = -2 ^ 31

/-- A stamp has not expired while the cut difference is small. -/
theorem isExpired_eq_false_iff (t now : ℤ) :
    isExpired EXPIRY t now = false ↔ WrapsSmall ((now - t).tdiv TICKS) := by
  rw [isExpired, decide_eq_false_iff_not, not_lt, abs32, WrapsSmall, durationInSeconds, EXPIRY]
  by_cases hleast : Int.bmod ((now - t).tdiv TICKS) (2 ^ 32) = -2 ^ 31
  · rw [if_pos hleast]
    constructor
    · intro _
      exact Or.inr hleast
    · intro _
      rw [hleast]
      decide
  · rw [if_neg hleast]
    constructor
    · exact Or.inl
    · intro h
      exact h.resolve_right hleast

/-- A call far from all earlier readings does not find a full list whose first time is a number of
seconds away that is small in 32 bits. -/
def NotWrapped (s : FlowState) (now : ℤ) : Prop :=
  (∀ r ∈ s.readings, Far now r) → s.timestamps.length = MAX_NOTIFICATION_NUM →
    ∀ first ∈ s.timestamps.head?, ¬ WrapsSmall ((now - first).tdiv TICKS)

/-- A notice goes through exactly when no difference has wrapped. -/
theorem letThrough_iff {s : FlowState} (hs : s.timestamps.length ≤ MAX_NOTIFICATION_NUM) (now : ℤ) :
    LetThrough s now ↔ NotWrapped s now := by
  have hrefused : s.limiter.refuses (isExpired EXPIRY) MAX_NOTIFICATION_NUM now = true ↔
      s.timestamps.length = MAX_NOTIFICATION_NUM ∧
        ∀ first ∈ s.timestamps.head?, isExpired EXPIRY first now = false :=
    Limiter.refuses_iff (by decide) hs
  simp only [LetThrough, NotWrapped, refused_eq]
  apply forall_congr'
  intro hfar
  rw [Bool.eq_false_iff, ne_eq, hrefused]
  simp only [isExpired_eq_false_iff, not_and, not_forall]
  apply forall_congr'
  intro hfull
  rcases htimes : s.timestamps with _ | ⟨first, rest⟩
  · rw [htimes] at hfull
    contradiction
  · simp

/-- The stamps never outgrow the limit. -/
theorem length_timestamps_step {s : FlowState} (hs : s.timestamps.length ≤ MAX_NOTIFICATION_NUM)
    (now : ℤ) : (step s now).timestamps.length ≤ MAX_NOTIFICATION_NUM := by
  have h : (s.limiter.call (isExpired EXPIRY) MAX_NOTIFICATION_NUM now).queue.length ≤
      MAX_NOTIFICATION_NUM := Limiter.length_queue_call hs
  rw [← limiter_step] at h
  exact h

/-- The limiter is right on a sequence of calls, the windows for a clock that does not go back,
exactly when no call far from all earlier readings meets a full list with a first time whose
distance is small in 32 bits. -/
theorem flowControl_iff (readings : List ℤ) :
    ((readings.Pairwise (· ≤ ·) → ∀ a b, (b - a) / TICKS ≤ EXPIRY →
        ((run step .init readings).letThrough.filter fun t => a ≤ t ∧ t ≤ b).length ≤
          MAX_NOTIFICATION_NUM) ∧
      Meets step LetThrough .init readings) ↔
    Meets step NotWrapped .init readings := by
  have hmeets : Meets step LetThrough .init readings ↔ Meets step NotWrapped .init readings :=
    meets_congr_of_inv (I := fun s => s.timestamps.length ≤ MAX_NOTIFICATION_NUM)
      (fun s now hs => length_timestamps_step hs now) (fun s now hs => letThrough_iff hs now)
      readings (by simp [FlowState.init])
  rw [← hmeets]
  apply and_iff_right
  intro hsorted a b hwindow
  exact few_of_sorted hsorted hwindow

/-- Three calls, and one 2³² seconds later, which is refused. -/
theorem refused_after_jump : ¬ ∀ readings, Meets step LetThrough .init readings := by
  intro h
  obtain ⟨-, -, -, hlast, -⟩ := h [0, 0, 0, 4294967296000000]
  have hfar : Far 4294967296000000 0 := by
    rw [Far, sub_zero, abs_of_pos (by omega)]
    decide
  have hlet := hlast (by simpa [step, FlowState.init] using hfar)
  revert hlet
  decide

end Claims

end AvSession.Service.FlowControl
