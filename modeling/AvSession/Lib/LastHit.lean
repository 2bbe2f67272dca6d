import Mathlib.Data.List.Basic
import Mathlib.Data.List.Induction

/-!
# The last element that meets a predicate

A loop that overwrites a variable whenever a test succeeds leaves the last element that met the
test. `List.findRev?` is that element.

* `findRev?_concat` — one more element at the end.
* `findRev?_eq_some_iff` — where the last element is: everything after it fails the test.
* `exists_last` — a list with a hit has a last one.
* `eraseLast` — a loop from the end that removes the first hit it meets.
* `eraseLast_eq_filter_iff` — when such a loop removes all hits.
-/

namespace AvSession.Lib

variable {α β : Type*} {p : α → Bool} {l : List α} {a : α}

/-- The last element is looked at first. -/
theorem findRev?_concat (l : List α) (a : α) :
    (l ++ [a]).findRev? p = if p a then some a else l.findRev? p := by
  simp only [List.findRev?_eq_find?_reverse, List.reverse_append, List.reverse_singleton,
    List.singleton_append, List.find?_cons]
  split <;> simp_all

/-- Nothing is found where nothing fits. -/
theorem findRev?_eq_none_iff : l.findRev? p = none ↔ ∀ b ∈ l, ¬ p b := by
  simp [List.findRev?_eq_find?_reverse]

/-- What is found fits, and nothing behind it does. -/
theorem findRev?_eq_some_iff :
    l.findRev? p = some a ↔ p a ∧ ∃ pre post, l = pre ++ a :: post ∧ ∀ b ∈ post, ¬ p b := by
  induction l using List.reverseRecOn with
  | nil => simp [List.findRev?_eq_find?_reverse]
  | append_singleton l b ih =>
      rw [findRev?_concat]
      constructor
      · intro h
        split_ifs at h with hb
        · obtain rfl := Option.some.inj h
          exact ⟨hb, l, [], rfl, by simp⟩
        · obtain ⟨ha, pre, post, rfl, hpost⟩ := ih.mp h
          refine ⟨ha, pre, post ++ [b], by simp, ?_⟩
          intro c hc
          rcases List.mem_append.mp hc with hc | hc
          · exact hpost c hc
          · rwa [List.mem_singleton.mp hc]
      · rintro ⟨ha, pre, post, hl, hpost⟩
        rcases List.eq_nil_or_concat post with rfl | ⟨post, c, rfl⟩
        · obtain ⟨-, hab⟩ := List.append_inj' hl rfl
          obtain rfl : b = a := by simpa using hab
          rw [if_pos ha]
        · have hl' : l ++ [b] = (pre ++ a :: post) ++ [c] := by simpa using hl
          obtain ⟨rfl, hbc⟩ := List.append_inj' hl' rfl
          obtain rfl : b = c := by simpa using hbc
          rw [if_neg (hpost b (by simp))]
          exact ih.mpr ⟨ha, pre, post, rfl, fun d hd => hpost d (by simp [hd])⟩

/-- A list with a hit has a last one. -/
theorem exists_last (ha : a ∈ l) (hp : p a) :
    ∃ pre b post, l = pre ++ b :: post ∧ p b ∧ ∀ c ∈ post, ¬ p c := by
  cases h : l.findRev? p with
  | none => exact absurd hp (findRev?_eq_none_iff.mp h a ha)
  | some b =>
      obtain ⟨hb, pre, post, hl, hpost⟩ := findRev?_eq_some_iff.mp h
      exact ⟨pre, b, post, hl, hb, hpost⟩

/-- The list without its last hit. -/
def eraseLast (p : α → Bool) (l : List α) : List α := (l.reverse.eraseP p).reverse

/-- The last fitting element is erased. -/
theorem eraseLast_of_split {pre post : List α} (ha : p a) (hpost : ∀ b ∈ post, ¬ p b) :
    eraseLast p (pre ++ a :: post) = pre ++ post := by
  unfold eraseLast
  rw [List.reverse_append, List.reverse_cons, List.append_assoc, List.eraseP_append_right]
  · rw [List.singleton_append, List.eraseP_cons_of_pos ha, List.reverse_append,
      List.reverse_reverse, List.reverse_reverse]
  · exact fun b hb => hpost b (List.mem_reverse.mp hb)

/-- Where nothing fits nothing is erased. -/
theorem eraseLast_of_forall_not (h : ∀ b ∈ l, ¬ p b) : eraseLast p l = l := by
  unfold eraseLast
  rw [List.eraseP_of_forall_not, List.reverse_reverse]
  intro b hb
  exact h b (List.mem_reverse.mp hb)

/-- One hit alone is removed: all elements that meet another predicate are gone exactly if each of
them is a hit and there is at most one. -/
theorem eraseLast_eq_filter_iff {q : α → Bool} (hpq : ∀ a, p a → q a) :
    eraseLast p l = l.filter (fun a => !q a) ↔ (∀ a ∈ l, q a → p a) ∧ l.countP q ≤ 1 := by
  by_cases hhit : ∃ a ∈ l, p a
  · obtain ⟨a, ha, hp⟩ := hhit
    obtain ⟨pre, b, post, rfl, hb, hpost⟩ := exists_last ha hp
    have hfilter : (pre ++ b :: post).filter (fun a => !q a) =
        (pre ++ post).filter fun a => !q a := by
      simp [hpq b hb]
    have hcount : (pre ++ b :: post).countP q = (pre ++ post).countP q + 1 := by
      simp [hpq b hb]
      omega
    rw [eraseLast_of_split hb hpost, hfilter, hcount, eq_comm, List.filter_eq_self]
    constructor
    · intro h
      have hnone : ∀ c ∈ pre ++ post, ¬ q c := by
        intro c hc
        simpa using h c hc
      refine ⟨fun c hc hqc => ?_, ?_⟩
      · rcases List.mem_append.mp hc with hc | hc
        · exact absurd hqc (hnone c (List.mem_append_left _ hc))
        · rcases List.mem_cons.mp hc with rfl | hc
          · exact hb
          · exact absurd hqc (hnone c (List.mem_append_right _ hc))
      · have hzero := List.countP_eq_zero.mpr hnone
        omega
    · rintro ⟨-, hle⟩ c hc
      have hzero : (pre ++ post).countP q = 0 := by omega
      simpa using List.countP_eq_zero.mp hzero c hc
  · have hnot : ∀ a ∈ l, ¬ p a := by
      intro a ha hp
      exact hhit ⟨a, ha, hp⟩
    rw [eraseLast_of_forall_not hnot, eq_comm, List.filter_eq_self]
    constructor
    · intro h
      have hnone : ∀ c ∈ l, ¬ q c := by
        intro c hc
        simpa using h c hc
      refine ⟨fun c hc hqc => absurd hqc (hnone c hc), ?_⟩
      have hzero := List.countP_eq_zero.mpr hnone
      omega
    · rintro ⟨hall, -⟩ c hc
      by_contra hq
      exact hnot c hc (hall c hc (by simpa using hq))

/-- Erasing leaves a part of the list. -/
theorem eraseLast_sublist (p : α → Bool) (l : List α) : (eraseLast p l).Sublist l := by
  have h := (List.eraseP_sublist (p := p) (l := l.reverse)).reverse
  rwa [List.reverse_reverse] at h

end AvSession.Lib
