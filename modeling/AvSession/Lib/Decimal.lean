import Mathlib.Data.Int.Notation
import Mathlib.Data.Nat.Notation
import Mathlib.Logic.Function.Basic

/-!
# The decimal text of a number

The text of an integer is its digits, after a minus sign if it is negative.

* `isDigit_of_mem_toDigits`, `toDigits_injective` — the digits of a natural number.
* `toList_toString` — the two forms of the text of an integer.
* `toString_injective`, `toString_ne_empty` — a number is known from its text.
-/

namespace AvSession.Lib

section digits

variable {m n : ℕ} {c d : Char}

/-- A digit is no other character. -/
theorem digit_ne (hc : c.isDigit = true) (hd : d.isDigit = false) : c ≠ d := by
  rintro rfl
  exact Bool.noConfusion (hc.symm.trans hd)

/-- A number is written in digits. -/
theorem isDigit_of_mem_toDigits (hc : c ∈ Nat.toDigits 10 n) : c.isDigit = true :=
  Nat.isDigit_of_mem_toDigits (by decide) (by decide) hc

/-- Two numbers are written differently. -/
theorem toDigits_injective (h : Nat.toDigits 10 m = Nat.toDigits 10 n) : m = n := by
  have hm : Nat.ofDigitChars 10 (Nat.toDigits 10 m) 0 = m := Nat.ofDigitChars_ten_toDigits
  rw [h, Nat.ofDigitChars_ten_toDigits] at hm
  exact hm.symm

/-- No natural number starts with a minus. -/
theorem minus_cons_ne_toDigits {cs : List Char} : '-' :: cs ≠ Nat.toDigits 10 m := by
  intro h
  have hminus : '-' ∈ Nat.toDigits 10 m := h ▸ List.mem_cons_self
  exact digit_ne (isDigit_of_mem_toDigits hminus) rfl rfl

end digits

/-- The text of a number: its digits, after a sign if it is negative. -/
theorem toList_toString (n : ℤ) :
    (∃ m : ℕ, n = m ∧ (toString n).toList = Nat.toDigits 10 m) ∨
      ∃ m : ℕ, n = -m ∧ (toString n).toList = '-' :: Nat.toDigits 10 m := by
  cases n with
  | ofNat m => exact .inl ⟨m, rfl, Nat.toList_repr⟩
  | negSucc m =>
      refine .inr ⟨m + 1, rfl, ?_⟩
      show ("-" ++ Nat.repr (m + 1)).toList = _
      rw [String.toList_append, Nat.toList_repr]
      rfl

/-- A number is known from its text. -/
theorem toString_injective : Function.Injective (toString : ℤ → String) := by
  intro a b h
  have hlist : (toString a).toList = (toString b).toList := congrArg String.toList h
  rcases toList_toString a with ⟨m, rfl, hm⟩ | ⟨m, rfl, hm⟩ <;>
    rcases toList_toString b with ⟨n, rfl, hn⟩ | ⟨n, rfl, hn⟩ <;> rw [hm, hn] at hlist
  · rw [toDigits_injective hlist]
  · exact absurd hlist.symm minus_cons_ne_toDigits
  · exact absurd hlist minus_cons_ne_toDigits
  · rw [toDigits_injective (List.cons.inj hlist).2]

/-- No number is written as nothing. -/
theorem toString_ne_empty (n : ℤ) : toString n ≠ "" := by
  intro h
  have hlist : (toString n).toList = [] := congrArg String.toList h
  rcases toList_toString n with ⟨m, -, hm⟩ | ⟨m, -, hm⟩
  · rw [hm] at hlist
    exact Nat.toDigits_ne_nil hlist
  · rw [hm] at hlist
    cases hlist

end AvSession.Lib
