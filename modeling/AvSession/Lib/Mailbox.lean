import AvSession.Lib.LastHit
import AvSession.Lib.Run

/-!
# Variables that messages overwrite

A variable holds a value, and messages are on the way that overwrite it. They come over several
channels. The messages of one channel arrive in the order in which they were sent, those of
different channels in any order.

* `Mailbox` — the value and the messages; `send`, `arrive`.
* `May` — the values that may be left once everything has arrived. `may_iff` says so.
* `may_send` — how they change when one more message is sent.
-/

namespace AvSession.Lib

/-! ## The last of a list -/

section last

variable {β : Type*} (p : β → Bool) (pre post : List β)

/-- The later part is looked at first. -/
theorem findRev?_append : (pre ++ post).findRev? p = (post.findRev? p).or (pre.findRev? p) := by
  simp only [List.findRev?_eq_find?_reverse, List.reverse_append, List.find?_append]

/-- With one more in the middle. -/
theorem findRev?_split (b : β) : (pre ++ b :: post).findRev? p =
    (post.findRev? p).or ((if p b then some b else none).or (pre.findRev? p)) := by
  simp only [List.findRev?_eq_find?_reverse, List.reverse_append, List.reverse_cons,
    List.append_assoc, List.find?_append, List.find?_singleton]

end last

variable {χ α : Type*} [DecidableEq χ]

/-- A variable, and what is on the way to it, in the order in which it was sent. -/
structure Mailbox (χ α : Type*) where
  held : α
  wire : List (χ × α)

namespace Mailbox

/-- A message of a channel. -/
def isOf (c : χ) (m : χ × α) : Bool := decide (m.1 = c)

variable (b : Mailbox χ α)

/-- One more message. -/
def send (c : χ) (a : α) : Mailbox χ α := { b with wire := b.wire ++ [(c, a)] }

/-- The next message of a channel arrives. -/
def arrive (c : χ) : Mailbox χ α :=
  match b.wire.find? (isOf c) with
  | none => b
  | some m => ⟨m.2, b.wire.eraseP (isOf c)⟩

/-- A value that may be left once everything has arrived: the last of a channel, or what is held if
nothing is on the way. -/
def May (a : α) : Prop :=
  (b.wire = [] ∧ a = b.held) ∨ ∃ c m, b.wire.findRev? (isOf c) = some m ∧ a = m.2

/-! ## One message -/

section arrivals

variable {b} {a : α} {c : χ} {m : χ × α}

/-- A message is of its own channel. -/
theorem isOf_iff : isOf c m = true ↔ m.1 = c := decide_eq_true_iff

/-- The first message of a channel arrives. -/
theorem arrive_of_split {pre post : List (χ × α)} (hwire : b.wire = pre ++ m :: post)
    (hpre : ∀ m' ∈ pre, ¬ isOf c m') (hm : isOf c m) : b.arrive c = ⟨m.2, pre ++ post⟩ := by
  have hfind : b.wire.find? (isOf c) = some m := by
    rw [hwire, List.find?_append, List.find?_eq_none.mpr hpre, Option.none_or,
      List.find?_cons_of_pos hm]
  unfold arrive
  rw [hfind, hwire]
  dsimp only
  rw [List.eraseP_append_right _ hpre, List.eraseP_cons_of_pos hm]

/-- From an empty channel nothing arrives. -/
theorem arrive_of_none (hnone : ∀ m ∈ b.wire, ¬ isOf c m) : b.arrive c = b := by
  unfold arrive
  rw [List.find?_eq_none.mpr hnone]

/-- Where the next message of a channel is. -/
theorem exists_split (hm : m ∈ b.wire) (hc : isOf c m) : ∃ pre m' post,
    b.wire = pre ++ m' :: post ∧ (∀ m ∈ pre, ¬ isOf c m) ∧ isOf c m' := by
  obtain ⟨m', hm'⟩ := Option.isSome_iff_exists.mp (List.find?_isSome.mpr ⟨m, hm, hc⟩)
  obtain ⟨hc', pre, post, hwire, hpre⟩ := List.find?_eq_some_iff_append.mp hm'
  exact ⟨pre, m', post, hwire, fun m hm h => by simpa [h] using hpre m hm, hc'⟩

/-- What is last of a channel has been so before. -/
theorem findRev?_arrive {c' : χ} (h : (b.arrive c).wire.findRev? (isOf c') = some m) :
    b.wire.findRev? (isOf c') = some m := by
  by_cases hhit : ∃ m' ∈ b.wire, isOf c m' = true
  · obtain ⟨m₀, hmem, hc₀⟩ := hhit
    obtain ⟨pre, m', post, hwire, hpre, hc⟩ := exists_split hmem hc₀
    rw [arrive_of_split hwire hpre hc, findRev?_append] at h
    rw [hwire, findRev?_split]
    by_cases heq : c' = c
    · subst heq
      rw [findRev?_eq_none_iff.mpr hpre, Option.or_none] at h
      rw [h, Option.some_or]
    · have hne : isOf c' m' = false := by
        rw [Bool.eq_false_iff, Ne, isOf_iff, isOf_iff.mp hc]
        exact Ne.symm heq
      simpa [hne] using h
  · push Not at hhit
    rwa [arrive_of_none hhit] at h

/-- Nothing else may be left than before. -/
theorem May.of_arrive (h : (b.arrive c).May a) : b.May a := by
  rcases h with ⟨hnone, rfl⟩ | ⟨c', m, hlast, rfl⟩
  · by_cases hhit : ∃ m' ∈ b.wire, isOf c m' = true
    · obtain ⟨m₀, hmem, hc₀⟩ := hhit
      obtain ⟨pre, m', post, hwire, hpre, hc⟩ := exists_split hmem hc₀
      rw [arrive_of_split hwire hpre hc] at hnone ⊢
      obtain ⟨rfl, rfl⟩ := List.append_eq_nil_iff.mp hnone
      refine .inr ⟨c, m', ?_, rfl⟩
      rw [hwire, findRev?_split]
      simp [hc, List.findRev?_eq_find?_reverse]
    · push Not at hhit
      rw [arrive_of_none hhit] at hnone ⊢
      exact .inl ⟨hnone, rfl⟩
  · exact .inr ⟨c', m, findRev?_arrive hlast, rfl⟩

end arrivals

/-! ## All messages -/

section all

variable {b} {a a' : α} {c : χ}

/-- An arrival sends nothing. -/
theorem wire_arrive_subset (b : Mailbox χ α) (c : χ) : (b.arrive c).wire ⊆ b.wire := by
  unfold arrive
  split
  · exact List.Subset.refl _
  · exact List.eraseP_subset

/-- An arrival takes one message off the wire. -/
theorem length_arrive {m : χ × α} (hm : m ∈ b.wire) (hc : isOf c m) :
    (b.arrive c).wire.length < b.wire.length := by
  obtain ⟨pre, m', post, hwire, hpre, hc'⟩ := exists_split hm hc
  rw [arrive_of_split hwire hpre hc', hwire]
  simp

/-- Any value that may be left is left by some order of the arrivals. -/
theorem May.exists_arrivals (h : b.May a) :
    ∃ cs, (run arrive b cs).wire = [] ∧ (run arrive b cs).held = a := by
  induction hlength : b.wire.length using Nat.strong_induction_on generalizing b with
  | _ n ih =>
      rcases h with ⟨hnone, rfl⟩ | ⟨c, m, hlast, rfl⟩
      · exact ⟨[], hnone, rfl⟩
      · obtain ⟨hm, pre, post, hwire, hpost⟩ := findRev?_eq_some_iff.mp hlast
        have hmem : m ∈ b.wire := hwire ▸ List.mem_append_right _ List.mem_cons_self
        -- one step, behind which the value is still one of those
        have hnext : ∃ c', (b.arrive c').wire.length < b.wire.length ∧ (b.arrive c').May m.2 := by
          by_cases hother : ∃ m' ∈ b.wire, m'.1 ≠ c
          · obtain ⟨m', hm', hne⟩ := hother
            refine ⟨m'.1, length_arrive hm' (isOf_iff.mpr rfl), .inr ⟨c, m, ?_, rfl⟩⟩
            obtain ⟨pre', m₁, post', hwire', hpre', hc'⟩ :=
              exists_split (c := m'.1) hm' (isOf_iff.mpr rfl)
            have hfalse : isOf c m₁ = false := by
              rw [Bool.eq_false_iff, Ne, isOf_iff, isOf_iff.mp hc']
              exact hne
            rw [hwire', findRev?_split, hfalse] at hlast
            rw [arrive_of_split hwire' hpre' hc', findRev?_append]
            simpa using hlast
          · push Not at hother
            refine ⟨c, length_arrive hmem hm, ?_⟩
            obtain ⟨pre', m₁, post', hwire', hpre', hc'⟩ := exists_split hmem hm
            have hnil : pre' = [] := by
              refine List.eq_nil_iff_forall_not_mem.mpr fun m₂ hm₂ => hpre' m₂ hm₂ ?_
              exact isOf_iff.mpr (hother m₂ (hwire' ▸ List.mem_append_left _ hm₂))
            subst hnil
            rw [arrive_of_split hwire' hpre' hc']
            rw [hwire', findRev?_split] at hlast
            cases hrest : post'.findRev? (isOf c) with
            | some m₂ =>
                rw [hrest, Option.some_or] at hlast
                obtain rfl := Option.some.inj hlast
                exact .inr ⟨c, m₂, hrest, rfl⟩
            | none =>
                rw [hrest, Option.none_or, if_pos hc', Option.some_or] at hlast
                obtain rfl := Option.some.inj hlast
                have hnil : post' = [] := by
                  refine List.eq_nil_iff_forall_not_mem.mpr fun m₂ hm₂ => ?_
                  refine findRev?_eq_none_iff.mp hrest m₂ hm₂ (isOf_iff.mpr (hother m₂ ?_))
                  rw [hwire']
                  exact List.mem_cons_of_mem _ hm₂
                exact .inl ⟨hnil, rfl⟩
        obtain ⟨c', hlt, hmay⟩ := hnext
        obtain ⟨cs, hcs⟩ := ih _ (hlength ▸ hlt) hmay rfl
        exact ⟨c' :: cs, hcs⟩

/-- The values that may be left are those that are left by some order of the arrivals. -/
theorem may_iff : b.May a ↔ ∃ cs, (run arrive b cs).wire = [] ∧ (run arrive b cs).held = a := by
  refine ⟨May.exists_arrivals, ?_⟩
  rintro ⟨cs, hnone, rfl⟩
  induction cs generalizing b with
  | nil => exact .inl ⟨hnone, rfl⟩
  | cons c cs ih => exact (ih hnone).of_arrive

/-- On a quiet wire only the held value may stay. -/
theorem may_of_quiet (h : b.wire = []) : b.May a ↔ a = b.held := by
  refine ⟨?_, fun ha => .inl ⟨h, ha⟩⟩
  rintro (⟨-, ha⟩ | ⟨c, m, hlast, -⟩)
  · exact ha
  · rw [h] at hlast
    cases hlast

/-- Some value may always stay. -/
theorem exists_may (b : Mailbox χ α) : ∃ a, b.May a := by
  cases hwire : b.wire with
  | nil => exact ⟨b.held, .inl ⟨hwire, rfl⟩⟩
  | cons m wire =>
      have hm : m ∈ b.wire := hwire ▸ List.mem_cons_self
      obtain ⟨pre, m', post, hsplit, hc, hpost⟩ := exists_last hm (isOf_iff.mpr rfl : isOf m.1 m)
      exact ⟨m'.2, .inr ⟨m.1, m', findRev?_eq_some_iff.mpr ⟨hc, pre, post, hsplit, hpost⟩, rfl⟩⟩

/-! ### One more message -/

/-- What may stay after a send is the sent value or could stay before. -/
theorem May.of_send (h : (b.send c a).May a') : a' = a ∨ b.May a' := by
  rcases h with ⟨hnone, -⟩ | ⟨c', m, hlast, rfl⟩
  · exact absurd hnone (by simp [send])
  · rw [send, findRev?_concat] at hlast
    split_ifs at hlast with hc
    · exact .inl (congrArg Prod.snd (Option.some.inj hlast)).symm
    · exact .inr (.inr ⟨c', m, hlast, rfl⟩)

/-- A sent value may stay. -/
theorem may_send_self (b : Mailbox χ α) (c : χ) (a : α) : (b.send c a).May a := by
  refine .inr ⟨c, (c, a), ?_, rfl⟩
  have hc : isOf c (c, a) = true := isOf_iff.mpr rfl
  rw [send, findRev?_concat, if_pos hc]

/-- A message that is alone is what is left. -/
theorem may_send_of_quiet (h : b.wire = []) : (b.send c a).May a' ↔ a' = a := by
  refine ⟨?_, fun ha => ha ▸ may_send_self b c a⟩
  rintro (⟨hnone, -⟩ | ⟨c', m, hlast, rfl⟩)
  · exact absurd hnone (by simp [send])
  · rw [send, findRev?_concat, h] at hlast
    split_ifs at hlast
    · exact (congrArg Prod.snd (Option.some.inj hlast)).symm
    · cases hlast

/-- The messages of other channels may still be the last. -/
theorem exists_may_send {m : χ × α} (hm : m ∈ b.wire) (hne : m.1 ≠ c) :
    ∃ a', (b.send c a).May a' ∧ b.May a' := by
  obtain ⟨pre, m', post, hwire, hc, hpost⟩ := exists_last hm (isOf_iff.mpr rfl : isOf m.1 m)
  have hlast : b.wire.findRev? (isOf m.1) = some m' :=
    findRev?_eq_some_iff.mpr ⟨hc, pre, post, hwire, hpost⟩
  refine ⟨m'.2, .inr ⟨m.1, m', ?_, rfl⟩, .inr ⟨m.1, m', hlast, rfl⟩⟩
  rw [send, findRev?_concat, if_neg, hlast]
  rw [isOf_iff]
  exact Ne.symm hne

/-- All that may be left has a property, if the message has it and what may have been left before
has it too. -/
theorem forall_may_send_of_same {P : α → Prop} (h : ∀ a', b.May a' → P a') :
    (∀ a', (b.send c a).May a' → P a') ↔ P a := by
  refine ⟨fun hall => hall a (may_send_self b c a), ?_⟩
  rintro ha a' hmay
  rcases hmay.of_send with rfl | hold
  · exact ha
  · exact h a' hold

/-- If nothing that may have been left before has the property, no other channel may be in use. -/
theorem forall_may_send_of_apart {P : α → Prop} (h : ∀ a', b.May a' → ¬ P a') :
    (∀ a', (b.send c a).May a' → P a') ↔ P a ∧ ∀ m ∈ b.wire, m.1 = c := by
  constructor
  · intro hall
    refine ⟨hall a (may_send_self b c a), ?_⟩
    intro m hm
    by_contra hne
    obtain ⟨a', hnew, hold⟩ := exists_may_send (a := a) hm hne
    exact h a' hold (hall a' hnew)
  · rintro ⟨ha, hsame⟩ a' (⟨hnone, -⟩ | ⟨c', m, hlast, rfl⟩)
    · exact absurd hnone (by simp [send])
    · rw [send, findRev?_concat] at hlast
      split_ifs at hlast with hc
      · rwa [← Option.some.inj hlast]
      · obtain ⟨hm, pre, post, hwire, -⟩ := findRev?_eq_some_iff.mp hlast
        have hmem : m ∈ b.wire := hwire ▸ List.mem_append_right _ List.mem_cons_self
        exact absurd (isOf_iff.mpr ((hsame m hmem).symm.trans (isOf_iff.mp hm))) hc

end all

end Mailbox

end AvSession.Lib
