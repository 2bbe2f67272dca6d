import Mathlib.Data.List.GetD

/-!
# The bytes of a word

* `littleEndian`, `ofLittleEndian` — the bytes of a 32-bit word in memory, the lowest first.
* `byte_of_shift`, `byte_of_mask` — the bits of a byte, by shift and mask.
-/

namespace AvSession.Lib

/-- Shifting a byte to the end and masking it is taking its bits. -/
theorem byte_of_shift {w : ℕ} (x : BitVec w) (k : ℕ) :
    ((x >>> k) &&& 0xFF).setWidth 8 = x.extractLsb' k 8 := by
  apply BitVec.eq_of_getLsbD_eq
  intro i hi
  have hmask : Nat.testBit 255 i = true := by
    rw [show 255 = 2 ^ 8 - 1 from rfl, Nat.testBit_two_pow_sub_one, decide_eq_true hi]
  by_cases hw : i < w
  · simp [hi, hw, hmask, BitVec.getLsbD_ofNat]
  · have hx : x.getLsbD (k + i) = false := x.getLsbD_of_ge _ (by omega)
    simp [hi, hx]

/-- Masking first and shifting then is the same, if the mask is that of the byte. -/
theorem byte_of_mask {w : ℕ} (x mask : BitVec w) {k : ℕ} (hmask : mask >>> k = 0xFF) :
    ((x &&& mask) >>> k).setWidth 8 = x.extractLsb' k 8 := by
  rw [BitVec.ushiftRight_and_distrib, hmask, byte_of_shift]

/-- The bytes of a word in memory. -/
def littleEndian (x : BitVec 32) : List (BitVec 8) :=
  [x.extractLsb' 0 8, x.extractLsb' 8 8, x.extractLsb' 16 8, x.extractLsb' 24 8]

/-- The word in the first four bytes. -/
def ofLittleEndian (bs : List (BitVec 8)) : BitVec 32 :=
  bs.getD 3 0 ++ bs.getD 2 0 ++ bs.getD 1 0 ++ bs.getD 0 0

/-- A word has four bytes. -/
@[simp] theorem length_littleEndian (x : BitVec 32) : (littleEndian x).length = 4 := rfl

/-- Behind a word's bytes comes the rest. -/
@[simp] theorem drop_littleEndian (x : BitVec 32) (rest : List (BitVec 8)) (n : ℕ) :
    (littleEndian x ++ rest).drop (n + 4) = rest.drop n := by
  rw [List.drop_append, length_littleEndian, Nat.add_sub_cancel,
    List.drop_eq_nil_of_le (by simp), List.nil_append]

/-- A word is read back from its bytes. -/
@[simp] theorem ofLittleEndian_append (x : BitVec 32) (rest : List (BitVec 8)) :
    ofLittleEndian (littleEndian x ++ rest) = x := by
  have htwo : x.extractLsb' 24 8 ++ x.extractLsb' 16 8 = x.extractLsb' 16 16 :=
    BitVec.extractLsb'_append_extractLsb'_eq_extractLsb' rfl
  have hthree : x.extractLsb' 16 16 ++ x.extractLsb' 8 8 = x.extractLsb' 8 24 :=
    BitVec.extractLsb'_append_extractLsb'_eq_extractLsb' rfl
  have hfour : x.extractLsb' 8 24 ++ x.extractLsb' 0 8 = x.extractLsb' 0 32 :=
    BitVec.extractLsb'_append_extractLsb'_eq_extractLsb' rfl
  calc ofLittleEndian (littleEndian x ++ rest)
      = x.extractLsb' 24 8 ++ x.extractLsb' 16 8 ++ x.extractLsb' 8 8 ++ x.extractLsb' 0 8 := rfl
    _ = x.extractLsb' 0 32 := by rw [htwo, hthree, hfour]
    _ = x := BitVec.extractLsb'_eq_self

end AvSession.Lib
