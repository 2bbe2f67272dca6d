import Mathlib.Order.BooleanAlgebra.Set
import Mathlib.Logic.Function.Basic

/-!
# Holders of what goes on

Things go on, and each is known by a key. Holders keep a key each, and some of the holders are
within reach. What no holder within reach keeps can not be ended any more.

* `Holders` — the keys of what goes on, who keeps which, and who is within reach.
* `Holders.InHand` — whatever goes on is kept by a holder within reach.
* `Holders.stop`, `give`, `start`, `within` — the changes, each with what it does to `InHand`.
-/

namespace AvSession.Lib

variable {ρ κ : Type*}

/-- What goes on, who keeps which key, and who is within reach. -/
@[ext]
structure Holders (ρ κ : Type*) where
  reach : Set ρ
  going : Set κ
  handle : ρ → κ

namespace Holders

variable (c : Holders ρ κ)

/-- All that goes on is kept by holders within reach. -/
def InHand : Prop := ∀ k ∈ c.going, ∃ p ∈ c.reach, c.handle p = k

/-! ## Changes -/

/-- What has the key comes to its end. -/
def finish (k : κ) : Holders ρ κ := { c with going := c.going \ {k} }

/-- A holder ends what it keeps. -/
def stop (p : ρ) : Holders ρ κ := c.finish (c.handle p)

/-- Something starts. -/
def start (k : κ) : Holders ρ κ := { c with going := insert k c.going }

/-- Other holders are within reach. -/
def within (reach : Set ρ) : Holders ρ κ := { c with reach }

/-- A holder is given another key. -/
def give [DecidableEq ρ] (p : ρ) (k : κ) : Holders ρ κ :=
  { c with handle := Function.update c.handle p k }

/-- A limited reach keeps the handles. -/
@[simp] theorem handle_within (r : Set ρ) : (c.within r).handle = c.handle := rfl

/-- A stop ends the holder's own stream. -/
@[simp] theorem mem_going_stop {p : ρ} {k : κ} :
    k ∈ (c.stop p).going ↔ k ∈ c.going ∧ k ≠ c.handle p := Iff.rfl

/-- A start adds one stream. -/
@[simp] theorem mem_going_start {k l : κ} : l ∈ (c.start k).going ↔ l = k ∨ l ∈ c.going := Iff.rfl

section give

variable [DecidableEq ρ]

/-- Giving a handle leaves the reach. -/
@[simp] theorem reach_give (p : ρ) (k : κ) : (c.give p k).reach = c.reach := rfl
/-- Giving a handle starts nothing. -/
@[simp] theorem going_give (p : ρ) (k : κ) : (c.give p k).going = c.going := rfl

/-- The handle given is held. -/
@[simp] theorem handle_give_self (p : ρ) (k : κ) : (c.give p k).handle p = k :=
  Function.update_self ..

/-- Nobody else gets it. -/
theorem handle_give_of_ne {p q : ρ} (h : q ≠ p) (k : κ) : (c.give p k).handle q = c.handle q :=
  Function.update_of_ne h ..

/-- The last handle given counts. -/
@[simp] theorem give_give (p : ρ) (k l : κ) : (c.give p k).give p l = c.give p l := by
  simp [give]

/-- A holder that is given its own key. -/
@[simp] theorem give_handle (p : ρ) : c.give p (c.handle p) = c := by
  simp [give]

/-- To end something, and to give out a key. -/
theorem give_finish (p : ρ) (k l : κ) : (c.give p k).finish l = (c.finish l).give p k := rfl

end give

/-- What did not go on can be started and ended. -/
theorem finish_start {k : κ} (h : k ∉ c.going) : (c.start k).finish k = c := by
  simp only [start, finish, Set.insert_sdiff_self_of_notMem h]

/-! ## What is in hand -/

variable {c}

/-- If nothing goes on, all is in hand. -/
theorem inHand_of_not_going (h : ∀ k, k ∉ c.going) : c.InHand :=
  fun k hk => absurd hk (h k)

/-- With no holder within reach, nothing may go on. -/
theorem inHand_within_empty_iff : (c.within ∅).InHand ↔ ∀ k, k ∉ c.going := by
  constructor
  · intro h k hk
    obtain ⟨p, hp, -⟩ := h k hk
    exact hp
  · intro h
    exact inHand_of_not_going h

/-- What nobody reaches does not go on. -/
theorem InHand.not_going (h : c.InHand) (hc : c.reach = ∅) (k : κ) : k ∉ c.going := by
  intro hk
  obtain ⟨p, hp, -⟩ := h k hk
  exact Set.notMem_empty p (hc ▸ hp)

/-- More holders within reach do no harm. -/
theorem InHand.within (h : c.InHand) {r : Set ρ} (hr : c.reach ⊆ r) : (c.within r).InHand := by
  intro k hk
  obtain ⟨p, hp, hpk⟩ := h k hk
  exact ⟨p, hr hp, hpk⟩

/-- A stream that ends leaves all in hand. -/
theorem InHand.finish (h : c.InHand) (k : κ) : (c.finish k).InHand :=
  fun l hl => h l hl.1

/-- A stop leaves all in hand. -/
theorem InHand.stop (h : c.InHand) (p : ρ) : (c.stop p).InHand := h.finish _

/-- A holder may get out of reach exactly when it has ended what it keeps. -/
theorem inHand_insert_iff {p : ρ} {r : Set ρ} (hc : c.reach = insert p r) :
    c.InHand ↔ ((c.stop p).within r).InHand := by
  constructor
  · rintro h k ⟨hk, hne⟩
    obtain ⟨q, hq, hqk⟩ := h k hk
    rw [hc] at hq
    rcases hq with rfl | hq
    · exact absurd hqk.symm hne
    · exact ⟨q, hq, hqk⟩
  · intro h k hk
    rw [hc]
    by_cases hpk : k = c.handle p
    · exact ⟨p, Or.inl rfl, hpk.symm⟩
    · obtain ⟨q, hq, hqk⟩ := h k ⟨hk, hpk⟩
      exact ⟨q, Or.inr hq, hqk⟩

/-- **One holder within reach can end all there is** exactly if all is in its hand. -/
theorem inHand_iff_stop {p : ρ} (hc : c.reach = {p}) :
    c.InHand ↔ ∀ k, k ∉ (c.stop p).going := by
  rw [inHand_insert_iff (hc.trans (insert_empty_eq p).symm), inHand_within_empty_iff]

/-- What starts must be kept already. -/
theorem inHand_start_iff {k : κ} :
    (c.start k).InHand ↔ c.InHand ∧ ∃ p ∈ c.reach, c.handle p = k := by
  constructor
  · intro h
    exact ⟨fun l hl => h l (Or.inr hl), h k (Or.inl rfl)⟩
  · rintro ⟨h, hk⟩ l (rfl | hl)
    · exact hk
    · exact h l hl

section give

variable [DecidableEq ρ]

/-- A holder that has ended what it kept may get out of reach, whatever key it is given. -/
theorem InHand.leave (h : c.InHand) (p : ρ) (k : κ) {r : Set ρ} (hr : c.reach \ {p} ⊆ r) :
    (((c.stop p).give p k).within r).InHand := by
  rintro l ⟨hl, hne⟩
  obtain ⟨q, hq, hql⟩ := h l hl
  have hqp : q ≠ p := by
    rintro rfl
    exact hne hql.symm
  exact ⟨q, hr ⟨hq, hqp⟩, ((c.stop p).handle_give_of_ne hqp k).trans hql⟩

/-- A holder may be given any key once it has ended what it kept. -/
theorem InHand.stop_give (h : c.InHand) (p : ρ) (k : κ) : ((c.stop p).give p k).InHand :=
  h.leave p k Set.sdiff_subset

/-- A holder that is the only one within reach may take a key if nothing else goes on. -/
theorem inHand_give_of_reach_iff {p : ρ} (hc : c.reach = {p}) (k : κ) :
    (c.give p k).InHand ↔ ∀ l ∈ c.going, l = k := by
  have hreach : (c.give p k).reach = {p} := hc
  rw [inHand_iff_stop hreach]
  simp only [mem_going_stop, going_give, handle_give_self, not_and, not_not]

/-- A holder takes another key: what it alone has kept must not go on. -/
theorem inHand_give_iff {p : ρ} {k : κ} (h : c.InHand) (hk : k ∉ c.going)
    (hone : ∀ q, c.handle q = c.handle p → c.handle p ∈ c.going → q = p) :
    (c.give p k).InHand ↔ c.handle p ∉ c.going := by
  constructor
  · intro h' hgoing
    obtain ⟨q, -, hqk⟩ := h' (c.handle p) hgoing
    by_cases hqp : q = p
    · rw [hqp, handle_give_self] at hqk
      exact hk (hqk ▸ hgoing)
    · rw [handle_give_of_ne _ hqp] at hqk
      exact hqp (hone q hqk hgoing)
  · intro h' l hl
    obtain ⟨q, hq, hql⟩ := h l hl
    have hne : q ≠ p := by
      rintro rfl
      exact h' (hql ▸ hl)
    exact ⟨q, hq, (c.handle_give_of_ne hne k).trans hql⟩

/-- A holder takes the key of what it starts: it must be within reach, too. -/
theorem inHand_start_give_iff {p : ρ} {k : κ} (h : c.InHand) (hk : k ∉ c.going)
    (hfresh : ∀ q, c.handle q ≠ k)
    (hone : ∀ q, c.handle q = c.handle p → c.handle p ∈ c.going → q = p) :
    ((c.start k).give p k).InHand ↔ p ∈ c.reach ∧ c.handle p ∉ c.going := by
  have hswap : (c.start k).give p k = (c.give p k).start k := rfl
  have hkept : (∃ q ∈ c.reach, (c.give p k).handle q = k) ↔ p ∈ c.reach := by
    constructor
    · rintro ⟨q, hq, hqk⟩
      by_cases hqp : q = p
      · exact hqp ▸ hq
      · rw [handle_give_of_ne _ hqp] at hqk
        exact absurd hqk (hfresh q)
    · intro hp
      exact ⟨p, hp, c.handle_give_self p k⟩
  rw [hswap, inHand_start_iff, inHand_give_iff h hk hone, reach_give, hkept, and_comm]

end give

end Holders

end AvSession.Lib
