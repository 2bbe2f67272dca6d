import Mathlib.Data.Nat.Notation

/-!
# A register with notifications

One side writes a value over the last one, the other is notified and looks at what is there by then.
Notifications may arrive late, and several may become one.

* `Register`, `put`, `coalesce`, `arrive`, `found` — the register, and what happens to it.
* `Settles` — either everything has been read and the reader is where it should be, or it will be
  there once it has read what stands in the register.
-/

namespace AvSession.Lib

/-- The value that was written last, and how many notifications are under way. -/
structure Register (ω : Type*) where
  content : Option ω
  pending : ℕ

namespace Register

variable {ω τ : Type*}

/-- Nothing has been written. -/
def init : Register ω := ⟨none, 0⟩

variable (r : Register ω)

/-- A value is written, and the reader will be notified. -/
def put (w : ω) : Register ω := ⟨some w, r.pending + 1⟩

/-- Two notifications become one. -/
def coalesce : Register ω := if 2 ≤ r.pending then { r with pending := r.pending - 1 } else r

/-- A notification arrives, if one is under way. -/
def arrive : Register ω := { r with pending := r.pending - 1 }

/-- What the reader finds then. -/
def found : Option ω := if r.pending = 0 then none else r.content

/-- Either nothing is under way and `now` holds, or the reader will be notified of a value for which
`later` holds. -/
def Settles (now : Prop) (later : ω → Prop) : Prop :=
  (r.pending = 0 ∧ now) ∨ (r.pending ≠ 0 ∧ ∃ w, r.content = some w ∧ later w)

variable {r} {now now' : Prop} {later later' : ω → Prop}

/-- What holds now has settled. -/
theorem settles_init (h : now) : (init : Register ω).Settles now later := Or.inl ⟨rfl, h⟩

/-- With nothing pending it holds now. -/
theorem Settles.quiet (h : r.Settles now later) (hquiet : r.pending = 0) : now := by
  rcases h with ⟨-, hnow⟩ | ⟨hbusy, -⟩
  · exact hnow
  · exact absurd hquiet hbusy

/-- What settles may be weakened. -/
theorem Settles.mono (h : r.Settles now later) (hnow : now → now')
    (hlater : ∀ w, r.content = some w → later w → later' w) : r.Settles now' later' := by
  rcases h with ⟨hquiet, h⟩ | ⟨hbusy, w, hw, h⟩
  · exact Or.inl ⟨hquiet, hnow h⟩
  · exact Or.inr ⟨hbusy, w, hw, hlater w hw h⟩

/-- A value is written. -/
theorem settles_put {w : ω} (hlater : later w) : (r.put w).Settles now later :=
  Or.inr ⟨Nat.succ_ne_zero r.pending, w, rfl, hlater⟩

/-- Coalescing keeps the content. -/
theorem coalesce_content : r.coalesce.content = r.content := by
  unfold coalesce
  split <;> rfl

/-- Coalescing loses no notice altogether. -/
theorem coalesce_pending_eq_zero : r.coalesce.pending = 0 ↔ r.pending = 0 := by
  unfold coalesce
  split
  case isTrue htwo =>
    show r.pending - 1 = 0 ↔ r.pending = 0
    omega
  case isFalse => rfl

/-- Coalescing keeps what settles. -/
theorem Settles.coalesce (h : r.Settles now later) : r.coalesce.Settles now later := by
  unfold Settles
  rw [coalesce_content, ne_eq, coalesce_pending_eq_zero]
  exact h

/-- A notification arrives. With what it finds, the reader is where it should be; and if another
notification is under way, then still after it has read the same again. -/
theorem Settles.arrive (h : r.Settles now later) (hnone : r.found = none → now → now')
    (hfound : ∀ w, r.found = some w → later w → now')
    (hagain : ∀ w, r.found = some w → 2 ≤ r.pending → later w → later' w) :
    r.arrive.Settles now' later' := by
  rcases h with ⟨hquiet, hnow⟩ | ⟨hbusy, w, hw, hlater⟩
  · refine Or.inl ⟨?_, hnone (if_pos hquiet) hnow⟩
    show r.pending - 1 = 0
    rw [hquiet]
  · have hread : r.found = some w := (if_neg hbusy).trans hw
    by_cases hlast : r.pending = 1
    · refine Or.inl ⟨?_, hfound w hread hlater⟩
      show r.pending - 1 = 0
      rw [hlast]
    · refine Or.inr ⟨?_, w, hw, hagain w hread (by omega) hlater⟩
      show r.pending - 1 ≠ 0
      omega

/-! At most one notification is under way: nothing is written while one is. -/

/-- One write is one notice. -/
theorem put_pending_le (hquiet : r.pending = 0) (w : ω) : (r.put w).pending ≤ 1 := by
  show r.pending + 1 ≤ 1
  omega

/-- Coalescing adds no notice. -/
theorem coalesce_pending_le (h : r.pending ≤ 1) : r.coalesce.pending ≤ 1 := by
  unfold coalesce
  rw [if_neg (by omega)]
  exact h

/-- An arrival adds no notice. -/
theorem arrive_pending_le (h : r.pending ≤ 1) : r.arrive.pending ≤ 1 :=
  Nat.le_trans (Nat.sub_le r.pending 1) h

end Register

end AvSession.Lib
