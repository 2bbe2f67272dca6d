import Mathlib.Data.Int.Notation
import Mathlib.Data.List.TakeWhile

/-!
# Strings of C

A string that is handed over as a `char *` ends at its first NUL.

* `cStr` — what is left of it; `cStr_eq_self`, for a string without a NUL.
* `strtol` — the number that a string is the text of.
-/

namespace AvSession.Lib

/-- What is read of a string that is handed over as `c_str()`: all before the first NUL. -/
def cStr (value : String) : String :=
  String.ofList (value.toList.takeWhile (· ≠ Char.ofNat 0))

/-- A string without a NUL is read whole. -/
theorem cStr_eq_self {value : String} (h : ∀ c ∈ value.toList, c ≠ Char.ofNat 0) :
    cStr value = value := by
  unfold cStr
  rw [List.takeWhile_eq_self_iff.mpr fun c hc => decide_eq_true (h c hc), String.ofList_toList]

/-- `isspace` in the C locale. -/
def isSpace (c : Char) : Bool := c == ' ' || ('\t' ≤ c && c ≤ '\r')

/-- The number that `strtol` reads with the base 10, if it reads the whole text: digits, after a
sign and after spaces. The number may be out of the range of a `long`. -/
def strtol (value : String) : Option ℤ :=
  match (cStr value).toList.dropWhile isSpace with
  | [] => none
  | c :: cs =>
      let digits := if c = '-' ∨ c = '+' then cs else c :: cs
      if digits = [] ∨ ¬ digits.all Char.isDigit then none
      else some (if c = '-' then -Nat.ofDigitChars 10 digits 0 else Nat.ofDigitChars 10 digits 0)

end AvSession.Lib
