import Mathlib.Data.List.Basic
import Mathlib.Data.Set.Subsingleton

/-!
# What an output does not tell

A function that masks its input shows some of it. It hides something of an input if another input of
the same length gives the same output.

* `Hides` — there is another input over the alphabet, of the same length, with the same output.
* `hides_of_set` — it is enough that one place is not looked at.
* `hides_of_kept` — a function that looks at the front and at the back.
* `not_hides_of_eq` — an input that the output and the length determine.
-/

namespace AvSession.Lib

variable {α β : Type*}

/-- The input is written in the alphabet. -/
def WrittenIn (A : Set α) (x : List α) : Prop := ∀ c ∈ x, c ∈ A

/-- Another input of the same length has the same output. -/
def Hides (A : Set α) (f : List α → β) (x : List α) : Prop :=
  ∃ y, WrittenIn A y ∧ y.length = x.length ∧ y ≠ x ∧ f y = f x

variable {A B : Set α} {f : List α → β} {x : List α}

/-- Changing one letter stays within the alphabet. -/
theorem WrittenIn.set (hx : WrittenIn A x) {c : α} (hc : c ∈ A) (i : ℕ) :
    WrittenIn A (x.set i c) := by
  intro d hd
  rcases List.mem_or_eq_of_mem_set hd with hmem | rfl
  · exact hx d hmem
  · exact hc

/-- What hides in a small alphabet hides in a larger one. -/
theorem Hides.mono (hAB : A ⊆ B) (h : Hides A f x) : Hides B f x := by
  obtain ⟨y, hy, hlen, hne, heq⟩ := h
  exact ⟨y, fun c hc => hAB (hy c hc), hlen, hne, heq⟩

/-- **One place that is not looked at** is enough. -/
theorem hides_of_set (hA : A.Nontrivial) (hx : WrittenIn A x) {i : ℕ} (hi : i < x.length)
    (h : ∀ c ∈ A, f (x.set i c) = f x) : Hides A f x := by
  obtain ⟨c, hc, hne⟩ := hA.exists_ne x[i]
  refine ⟨x.set i c, hx.set hc i, List.length_set, ?_, h c hc⟩
  intro heq
  apply hne
  have hget : (x.set i c)[i]? = x[i]? := by rw [heq]
  rw [List.getElem?_set_self hi, List.getElem?_eq_getElem hi] at hget
  exact Option.some.inj hget

/-- A function that looks at the front and at the back hides what is between them. -/
theorem hides_of_kept (hA : A.Nontrivial) (hx : WrittenIn A x) {m k : ℕ} (hmk : m < k)
    (hk : k ≤ x.length)
    (h : ∀ y, WrittenIn A y → y.length = x.length → y.take m = x.take m → y.drop k = x.drop k →
      f y = f x) : Hides A f x :=
  hides_of_set hA hx (hmk.trans_le hk) fun c hc =>
    h (x.set m c) (hx.set hc m) List.length_set (List.take_set_of_le (le_refl m))
      (List.drop_set_of_lt hmk)

/-- A function that looks at the length alone hides everything. -/
theorem hides_of_length (hA : A.Nontrivial) (hx : WrittenIn A x) (hne : x ≠ [])
    (h : ∀ y : List α, y.length = x.length → f y = f x) : Hides A f x :=
  hides_of_kept hA hx (List.length_pos_iff.mpr hne) (le_refl _) fun y _ hy _ _ => h y hy

/-- What the output and the length determine is not hidden. -/
theorem not_hides_of_eq (h : ∀ y, y.length = x.length → f y = f x → y = x) : ¬ Hides A f x := by
  rintro ⟨y, -, hlen, hne, heq⟩
  exact hne (h y hlen heq)

end AvSession.Lib
