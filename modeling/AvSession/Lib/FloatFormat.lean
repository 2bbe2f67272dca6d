import Mathlib.Data.Nat.Bits
import Mathlib.Tactic.Ring

/-!
# Single and double precision

The bits of the numbers of IEEE 754 in single and in double precision, and the two conversions
between them. A conversion to single precision rounds to nearest, ties to even.

* `pack32`, `pack64` — a number by its sign, its biased exponent and its fraction.
* `toDouble`, `toSingle` — the conversions. A NaN becomes a quiet one.
* `toSingle_toDouble` — a number that is not a NaN survives the way to double precision and back.
-/

namespace AvSession.Lib

/-! ## The formats -/

section formats

/-- Sign, biased exponent and fraction in single precision. -/
def pack32 (sign exponent fraction : ℕ) : BitVec 32 :=
  BitVec.ofNat 32 (sign * 2 ^ 31 + exponent * 2 ^ 23 + fraction)

/-- Sign, biased exponent and fraction in double precision. -/
def pack64 (sign exponent fraction : ℕ) : BitVec 64 :=
  BitVec.ofNat 64 (sign * 2 ^ 63 + exponent * 2 ^ 52 + fraction)

def sign32 (f : BitVec 32) : ℕ := f.toNat / 2 ^ 31

def exponent32 (f : BitVec 32) : ℕ := f.toNat / 2 ^ 23 % 2 ^ 8

def fraction32 (f : BitVec 32) : ℕ := f.toNat % 2 ^ 23

def sign64 (d : BitVec 64) : ℕ := d.toNat / 2 ^ 63

def exponent64 (d : BitVec 64) : ℕ := d.toNat / 2 ^ 52 % 2 ^ 11

def fraction64 (d : BitVec 64) : ℕ := d.toNat % 2 ^ 52

/-- Not a number. -/
def IsNaN32 (f : BitVec 32) : Prop := exponent32 f = 255 ∧ fraction32 f ≠ 0

instance (f : BitVec 32) : Decidable (IsNaN32 f) := inferInstanceAs (Decidable (_ ∧ _))

/-- `n / d`, rounded to nearest, ties to even. -/
def roundHalfEven (n d : ℕ) : ℕ :=
  if 2 * (n % d) < d then n / d
  else if d < 2 * (n % d) then n / d + 1
  else n / d + n / d % 2

/-- The conversion to double precision. It is exact: a subnormal number becomes a normal one. -/
def toDouble (f : BitVec 32) : BitVec 64 :=
  let m := fraction32 f
  if exponent32 f = 255 then
    pack64 (sign32 f) 2047 (if m = 0 then 0 else 2 ^ 51 ||| m * 2 ^ 29)
  else if exponent32 f = 0 then
    if m = 0 then pack64 (sign32 f) 0 0
    else pack64 (sign32 f) (m.log2 + 874) ((m - 2 ^ m.log2) * 2 ^ (52 - m.log2))
  else pack64 (sign32 f) (exponent32 f + 896) (m * 2 ^ 29)

/-- The conversion to single precision. A fraction that is rounded up to the next power of two
carries into the exponent, up to infinity. -/
def toSingle (d : BitVec 64) : BitVec 32 :=
  let m := fraction64 d
  if exponent64 d = 2047 then
    pack32 (sign64 d) 255 (if m = 0 then 0 else 2 ^ 22 ||| m / 2 ^ 29)
  else if exponent64 d > 896 then
    pack32 (sign64 d) 0
      (min (255 * 2 ^ 23) ((exponent64 d - 896) * 2 ^ 23 + roundHalfEven m (2 ^ 29)))
  else pack32 (sign64 d) 0 (roundHalfEven (2 ^ 52 + m) (2 ^ (926 - exponent64 d)))

end formats

/-! ## Fields -/

section fields

variable {s e m : ℕ}

/-- A packed double as a number. -/
theorem toNat_pack64 (hs : s < 2) (he : e < 2 ^ 11) (hm : m < 2 ^ 52) :
    (pack64 s e m).toNat = s * 2 ^ 63 + e * 2 ^ 52 + m := by
  unfold pack64
  rw [BitVec.toNat_ofNat, Nat.mod_eq_of_lt]
  omega

/-- The fields packed are the fields found. -/
theorem fields_pack64 (hs : s < 2) (he : e < 2 ^ 11) (hm : m < 2 ^ 52) :
    sign64 (pack64 s e m) = s ∧ exponent64 (pack64 s e m) = e ∧ fraction64 (pack64 s e m) = m := by
  unfold sign64 exponent64 fraction64
  rw [toNat_pack64 hs he hm]
  refine ⟨?_, ?_, ?_⟩ <;> omega

/-- The sign is one bit. -/
theorem sign32_lt (f : BitVec 32) : sign32 f < 2 := by
  have hlt := f.isLt
  unfold sign32
  omega

/-- The exponent has eight bits. -/
theorem exponent32_lt (f : BitVec 32) : exponent32 f < 2 ^ 8 := Nat.mod_lt _ (by decide)

/-- The fraction has 23 bits. -/
theorem fraction32_lt (f : BitVec 32) : fraction32 f < 2 ^ 23 := Nat.mod_lt _ (by decide)

/-- A number is its fields. -/
theorem pack32_fields (f : BitVec 32) :
    BitVec.ofNat 32 (sign32 f * 2 ^ 31 + exponent32 f * 2 ^ 23 + fraction32 f) = f := by
  have hsum : sign32 f * 2 ^ 31 + exponent32 f * 2 ^ 23 + fraction32 f = f.toNat := by
    have hlt := f.isLt
    unfold sign32 exponent32 fraction32
    omega
  rw [hsum, BitVec.ofNat_toNat, BitVec.setWidth_eq]

end fields

/-! ## There and back -/

section round

/-- A multiple is not rounded. -/
theorem roundHalfEven_mul (q : ℕ) {d : ℕ} (hd : 0 < d) : roundHalfEven (q * d) d = q := by
  unfold roundHalfEven
  rw [Nat.mul_mod_left, Nat.mul_div_cancel q hd, Nat.mul_zero, if_pos hd]

/-- A subnormal number is a multiple of the step that it is rounded to. -/
theorem subnormal_eq {m k : ℕ} (hle : 2 ^ k ≤ m) (hk : k ≤ 52) :
    2 ^ 52 + (m - 2 ^ k) * 2 ^ (52 - k) = m * 2 ^ (52 - k) := by
  have hsplit : 2 ^ 52 = 2 ^ k * 2 ^ (52 - k) := by
    rw [← Nat.pow_add, Nat.add_sub_cancel' hk]
  rw [hsplit, ← Nat.add_mul, Nat.add_sub_cancel' hle]

/-- A normalised fraction fits 52 bits. -/
theorem subnormal_lt {m k : ℕ} (hlt : m < 2 ^ (k + 1)) (hk : k ≤ 52) :
    (m - 2 ^ k) * 2 ^ (52 - k) < 2 ^ 52 := by
  have hsplit : 2 ^ 52 = 2 ^ k * 2 ^ (52 - k) := by
    rw [← Nat.pow_add, Nat.add_sub_cancel' hk]
  rw [hsplit]
  apply Nat.mul_lt_mul_of_pos_right _ (Nat.two_pow_pos _)
  rw [Nat.pow_succ] at hlt
  omega

variable {f : BitVec 32}

/-- An infinity survives the double. -/
theorem toSingle_toDouble_infinite (he : exponent32 f = 255) (hm : fraction32 f = 0) :
    toSingle (toDouble f) = f := by
  have hdouble : toDouble f = pack64 (sign32 f) 2047 0 := by
    unfold toDouble
    simp only [he, hm, if_true]
  obtain ⟨hsign, hexponent, hfraction⟩ :=
    fields_pack64 (sign32_lt f) (e := 2047) (m := 0) (by decide) (by decide)
  rw [hdouble]
  unfold toSingle
  simp only [hsign, hexponent, hfraction, if_true]
  have hfields := pack32_fields f
  rw [he, hm] at hfields
  exact hfields

/-- A subnormal single survives the double. -/
theorem toSingle_toDouble_subnormal (he : exponent32 f = 0) :
    toSingle (toDouble f) = f := by
  have hfields := pack32_fields f
  rw [he] at hfields
  by_cases hm : fraction32 f = 0
  · have hdouble : toDouble f = pack64 (sign32 f) 0 0 := by
      unfold toDouble
      simp only [he, hm, if_true]
      rfl
    obtain ⟨hsign, hexponent, hfraction⟩ :=
      fields_pack64 (sign32_lt f) (e := 0) (m := 0) (by decide) (by decide)
    have hround : roundHalfEven (2 ^ 52 + 0) (2 ^ (926 - 0)) = 0 := by decide +kernel
    rw [hdouble]
    unfold toSingle
    simp only [hsign, hexponent, hfraction]
    rw [if_neg (by decide), if_neg (by decide), hround]
    rw [hm] at hfields
    exact hfields
  · have hle : 2 ^ (fraction32 f).log2 ≤ fraction32 f := Nat.log2_self_le hm
    have hlt : fraction32 f < 2 ^ ((fraction32 f).log2 + 1) := Nat.lt_log2_self
    have hlog : (fraction32 f).log2 < 23 := (Nat.log2_lt hm).mpr (fraction32_lt f)
    set k := (fraction32 f).log2 with hk
    have hdouble : toDouble f =
        pack64 (sign32 f) (k + 874) ((fraction32 f - 2 ^ k) * 2 ^ (52 - k)) := by
      unfold toDouble
      simp only [he, hm, if_false, ← hk]
      rfl
    obtain ⟨hsign, hexponent, hfraction⟩ := fields_pack64 (sign32_lt f) (e := k + 874)
      (by omega) (subnormal_lt hlt (by omega))
    rw [hdouble]
    unfold toSingle
    simp only [hsign, hexponent, hfraction]
    rw [if_neg (by omega), if_neg (by omega), subnormal_eq hle (by omega)]
    have hstep : 926 - (k + 874) = 52 - k := by omega
    rw [hstep, roundHalfEven_mul _ (Nat.two_pow_pos _)]
    exact hfields

/-- A normal single survives the double. -/
theorem toSingle_toDouble_normal (hzero : exponent32 f ≠ 0) (hinfinite : exponent32 f ≠ 255) :
    toSingle (toDouble f) = f := by
  have he := exponent32_lt f
  have hm := fraction32_lt f
  have hdouble : toDouble f =
      pack64 (sign32 f) (exponent32 f + 896) (fraction32 f * 2 ^ 29) := by
    unfold toDouble
    simp only [hzero, hinfinite, if_false]
  obtain ⟨hsign, hexponent, hfraction⟩ := fields_pack64 (sign32_lt f)
    (e := exponent32 f + 896) (m := fraction32 f * 2 ^ 29) (by omega) (by omega)
  rw [hdouble]
  unfold toSingle
  simp only [hsign, hexponent, hfraction]
  rw [if_neg (by omega), if_pos (by omega), roundHalfEven_mul _ (Nat.two_pow_pos _),
    Nat.add_sub_cancel, min_eq_right (by omega)]
  have hfields := pack32_fields f
  unfold pack32
  rw [Nat.zero_mul, Nat.add_zero, ← Nat.add_assoc]
  exact hfields

/-- A number that is not a NaN survives the way to double precision and back. -/
theorem toSingle_toDouble (f : BitVec 32) (h : ¬ IsNaN32 f) : toSingle (toDouble f) = f := by
  by_cases hinfinite : exponent32 f = 255
  · apply toSingle_toDouble_infinite hinfinite
    by_contra hm
    exact h ⟨hinfinite, hm⟩
  · by_cases hzero : exponent32 f = 0
    · exact toSingle_toDouble_subnormal hzero
    · exact toSingle_toDouble_normal hzero hinfinite

end round

end AvSession.Lib
