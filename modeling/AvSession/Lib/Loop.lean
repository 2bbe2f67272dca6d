import Mathlib.Data.Nat.Notation

/-!
# Loops

A loop is given by its pass: `none` if its condition does not hold, else the state after the body.

* `loop` — the loop with a bound on the number of passes, `none` if the bound is reached.
* `Ends` — the loop ends, in a certain state.
* `exists_ends_of_measure` — a loop with a decreasing measure ends.
* `not_ends_of_stays` — a loop that stays in a set of states goes on for ever.
-/

namespace AvSession.Lib

variable {σ : Type*} {pass : σ → Option σ} {s s' t : σ}

/-- The loop with a bound on its passes, the last look at the condition included. -/
def loop (pass : σ → Option σ) : ℕ → σ → Option σ
  | 0, _ => none
  | fuel + 1, s =>
    match pass s with
    | none => some s
    | some s' => loop pass fuel s'

/-- The loop started in `s` ends in `t`. -/
def Ends (pass : σ → Option σ) (s t : σ) : Prop := ∃ fuel, loop pass fuel s = some t

/-- A finished loop returns. -/
theorem loop_of_none (h : pass s = none) (fuel : ℕ) : loop pass (fuel + 1) s = some s := by
  simp [loop, h]

/-- Another pass goes on. -/
theorem loop_of_some (h : pass s = some s') (fuel : ℕ) :
    loop pass (fuel + 1) s = loop pass fuel s' := by
  simp [loop, h]

/-- A finished loop ends where it is. -/
theorem ends_of_none (h : pass s = none) : Ends pass s s := ⟨1, loop_of_none h 0⟩

/-- A pass does not change where the loop ends. -/
theorem ends_iff_of_some (h : pass s = some s') : Ends pass s t ↔ Ends pass s' t := by
  constructor
  · rintro ⟨fuel, hend⟩
    cases fuel with
    | zero => cases hend
    | succ fuel => exact ⟨fuel, by rw [← hend, loop_of_some h]⟩
  · rintro ⟨fuel, hend⟩
    exact ⟨fuel + 1, by rw [loop_of_some h, hend]⟩

/-- And nowhere else. -/
theorem ends_iff_of_none (h : pass s = none) : Ends pass s t ↔ t = s := by
  constructor
  · rintro ⟨fuel, hend⟩
    cases fuel with
    | zero => cases hend
    | succ fuel =>
      rw [loop_of_none h] at hend
      exact (Option.some.inj hend).symm
  · rintro rfl
    exact ends_of_none h

/-- **Termination.** A loop ends if a measure decreases with each pass. -/
theorem exists_ends_of_measure (m : σ → ℕ) (hpass : ∀ s s', pass s = some s' → m s' < m s)
    (s : σ) : ∃ t, Ends pass s t := by
  induction hm : m s using Nat.strongRecOn generalizing s with
  | ind n ih =>
    rcases hstep : pass s with _ | s'
    · exact ⟨s, ends_of_none hstep⟩
    · have hlt := hpass s s' hstep
      rw [hm] at hlt
      obtain ⟨t, ht⟩ := ih (m s') hlt s' rfl
      exact ⟨t, (ends_iff_of_some hstep).mpr ht⟩

/-- **Divergence.** A loop does not end in a set of states from which each pass goes on in it. -/
theorem not_ends_of_stays {I : σ → Prop} (hstay : ∀ s, I s → ∃ s', pass s = some s' ∧ I s')
    (hs : I s) : ¬ Ends pass s t := by
  rintro ⟨fuel, hend⟩
  induction fuel generalizing s with
  | zero => cases hend
  | succ fuel ih =>
    obtain ⟨s', hstep, hs'⟩ := hstay s hs
    rw [loop_of_some hstep] at hend
    exact ih hs' hend

end AvSession.Lib
