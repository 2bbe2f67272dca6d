import Mathlib.Tactic.IntervalCases
import AvSession.Hash.Calculator
import AvSession.Lib.WordBytes
import AvSession.Lib.Run

/-!
# The hash calculator computes SHA-256

The context of the calculator, read as a hash value with the bytes that wait for a block, and what
each function makes of it.

* `chain_algoTransform` — the transform is the compression function of the standard.
* `Holds` — the context is that of a message; `algoUpdate_spec` keeps it, chunk by chunk.
* `algoFinal_spec` — the digest of the message.

The rotations, the 64-bit sums and the literal round constants of the code are brought to the
standard's one by one; the loops over the words and the rounds follow by induction.
-/

namespace AvSession.Hash

open AvSession.Common.Codes AvSession.Lib
open AvSession.Lib.Sha256 (Byte Word Vars H0 compress padding sha256)

/-! ## Words -/

section Words

/-- The macro rotates to the right. -/
theorem ROTR_eq (x : Word) {n : ℕ} (h : n < 32) : ROTR x n = x.rotateRight n := by
  rw [ROTR, BitVec.rotateRight_def, Nat.mod_eq_of_lt h]

/-- The macro is the standard's choice. -/
theorem Ch_eq (x y z : Word) : Ch x y z = Sha256.Ch x y z := rfl

/-- The macro is the standard's majority. -/
theorem Maj_eq (x y z : Word) : Maj x y z = Sha256.Maj x y z := rfl

/-- The macro is the standard's first large sigma. -/
theorem bigSigma0_eq (x : Word) : bigSigma0 x = Sha256.bigSigma0 x := by
  simp [bigSigma0, Sha256.bigSigma0, ROTR_eq]

/-- The macro is the standard's second large sigma. -/
theorem bigSigma1_eq (x : Word) : bigSigma1 x = Sha256.bigSigma1 x := by
  simp [bigSigma1, Sha256.bigSigma1, ROTR_eq]

/-- The macro is the standard's first small sigma. -/
theorem smallSigma0_eq (x : Word) : smallSigma0 x = Sha256.smallSigma0 x := by
  simp [smallSigma0, Sha256.smallSigma0, ROTR_eq, SHR]

/-- The macro is the standard's second small sigma. -/
theorem smallSigma1_eq (x : Word) : smallSigma1 x = Sha256.smallSigma1 x := by
  simp [smallSigma1, Sha256.smallSigma1, ROTR_eq, SHR]

/-- A word kept in 64 bits comes back whole. -/
@[simp] theorem narrow_wide (x : Word) : narrow (wide x) = x := by
  simp [narrow, wide]

/-- A sum in 64 bits, cut to 32, is the sum of the words. -/
@[simp] theorem narrow_add (x y : BitVec 64) : narrow (x + y) = narrow x + narrow y :=
  BitVec.setWidth_add x y (by omega)

/-- The first 64 primes, written out. -/
theorem primes_eq : Sha256.primes =
    [2, 3, 5, 7, 11, 13, 17, 19, 23, 29, 31, 37, 41, 43, 47, 53, 59, 61, 67, 71, 73, 79, 83, 89, 97,
      101, 103, 107, 109, 113, 127, 131, 137, 139, 149, 151, 157, 163, 167, 173, 179, 181, 191, 193,
      197, 199, 211, 223, 227, 229, 233, 239, 241, 251, 257, 263, 269, 271, 277, 281, 283, 293, 307,
      311] := by
  decide +kernel

/-- The table of the code holds the round constants of the standard. -/
theorem K256_eq {t : ℕ} (h : t < 64) : K256.getD t 0 = Sha256.K t := by
  rw [Sha256.K, primes_eq]
  revert t
  decide +kernel

end Words

/-! ## The transform -/

section Transform

def Registers.toVars (r : Registers) : Vars := ⟨r.a, r.b, r.c, r.d, r.e, r.f, r.g, r.h⟩

/-- The hash state as the standard's hash value. -/
def chain (c : AlgoCTX) : Vars := c.registers.toVars

/-- AlgoInit starts from the standard's initial value. -/
theorem chain_algoInit (c : AlgoCTX) : chain (algoInit c) = H0 := by
  have h : chain (algoInit c) = ⟨0x6a09e667, 0xbb67ae85, 0x3c6ef372, 0xa54ff53a, 0x510e527f,
    0x9b05688c, 0x1f83d9ab, 0x5be0cd19⟩ := rfl
  rw [h, H0, primes_eq]
  decide +kernel

/-- Four bytes joined by shifts are the word of the four bytes. -/
theorem getD_loadWords (block : List Byte) {t : ℕ} (h : t < 16) :
    (loadWords block).getD t 0 = Sha256.wordAt block (4 * t) := by
  have hget : (loadWords block).getD t 0 =
      ((block.getD (4 * t) 0).setWidth 32 <<< 24) |||
        ((block.getD (4 * t + 1) 0).setWidth 32 <<< 16) |||
        ((block.getD (4 * t + 2) 0).setWidth 32 <<< 8) |||
        (block.getD (4 * t + 3) 0).setWidth 32 := by
    simp [loadWords, BYTES_PER_WORD, h]
  rw [hget, Sha256.wordAt]
  generalize block.getD (4 * t) 0 = b0
  generalize block.getD (4 * t + 1) 0 = b1
  generalize block.getD (4 * t + 2) 0 = b2
  generalize block.getD (4 * t + 3) 0 = b3
  apply BitVec.eq_of_getLsbD_eq
  intro i hi
  simp only [BitVec.getLsbD_or, BitVec.getLsbD_append, BitVec.getLsbD_shiftLeft,
    BitVec.getLsbD_setWidth]
  -- a byte has no bit from the eighth on
  have h0 := b0.getLsbD_of_ge (i - 24)
  have h1 := b1.getLsbD_of_ge (i - 16)
  have h2 := b2.getLsbD_of_ge (i - 8)
  have h3 := b3.getLsbD_of_ge i
  have e16 : i - 8 - 8 = i - 16 := by omega
  have e24 : i - 16 - 8 = i - 24 := by omega
  simp only [e16, e24]
  grind

/-- The words of the code are the message schedule, as far as they are made. -/
theorem messageWords_aux (block : List Byte) (n : ℕ) :
    (List.range' 16 n).foldl (fun w t => w ++ [extendWord w t]) (loadWords block) =
      (List.range (16 + n)).map (Sha256.schedule block) := by
  induction n with
  | zero =>
      apply List.ext_getElem
      · simp [loadWords]
      · intro t ht ht'
        have hlt : t < 16 := by simpa [loadWords] using ht
        have hword := getD_loadWords block hlt
        rw [List.getD_eq_getElem _ 0 (by simpa [loadWords] using hlt)] at hword
        simp [hword, Sha256.schedule_of_lt hlt]
  | succ n ih =>
      -- the words that `w[16 + n]` is made of are in the list
      have hget : ∀ k, 0 < k → k ≤ 16 → ((List.range (16 + n)).map
          (Sha256.schedule block)).getD (16 + n - k) 0 = Sha256.schedule block (16 + n - k) := by
        intro k hpos hk
        rw [List.getD_eq_getElem _ _ (by simp; omega)]
        simp
      rw [List.range'_concat, List.foldl_append, ih, ← Nat.add_assoc, List.range_succ]
      simp only [List.foldl_cons, List.foldl_nil, List.map_append, List.map_cons, List.map_nil,
        one_mul]
      rw [Sha256.schedule_of_le (by omega), extendWord, hget 2 (by omega) (by omega),
        hget 7 (by omega) (by omega), hget 15 (by omega) (by omega), hget 16 (by omega) (by omega)]
      simp [smallSigma0_eq, smallSigma1_eq]

/-- The message words are the standard's schedule of the block. -/
theorem getD_messageWords (block : List Byte) {t : ℕ} (h : t < 64) :
    (messageWords block).getD t 0 = Sha256.schedule block t := by
  rw [messageWords, messageWords_aux, List.getD_eq_getElem _ _ (by simpa using h)]
  simp

/-- One round of the code is one round of the standard. -/
theorem toVars_transformRound (block : List Byte) (r : Registers) {t : ℕ} (h : t < 64) :
    (transformRound (messageWords block) r t).toVars =
      Sha256.round (Sha256.K t) (Sha256.schedule block t) r.toVars := by
  simp only [transformRound, Registers.toVars, Sha256.round, narrow_add, narrow_wide,
    getD_messageWords block h, K256_eq h, bigSigma0_eq, bigSigma1_eq, Ch_eq, Maj_eq]

/-- The rounds are the standard's rounds, by induction on their number. -/
theorem toVars_rounds (block : List Byte) (r : Registers) {n : ℕ} (hn : n ≤ 64) :
    ((List.range n).foldl (transformRound (messageWords block)) r).toVars =
      Sha256.rounds block r.toVars n := by
  induction n with
  | zero => rfl
  | succ n ih =>
      rw [List.range_succ, List.foldl_append, Sha256.rounds_succ, ← ih (by omega)]
      exact toVars_transformRound block _ (by omega)

/-- A word of the first block is not changed by what stands behind the block. -/
theorem wordAt_take (block : List Byte) {i : ℕ} (h : i + 3 < 64) :
    Sha256.wordAt (block.take 64) i = Sha256.wordAt block i := by
  have hget : ∀ j < 64, (block.take 64).getD j 0 = block.getD j 0 := by
    intro j hj
    simp [List.getD_eq_getElem?_getD, hj]
  simp only [Sha256.wordAt]
  rw [hget i (by omega), hget (i + 1) (by omega), hget (i + 2) (by omega), hget (i + 3) h]

/-- The schedule reads 64 bytes of the block. -/
theorem schedule_take (block : List Byte) (t : ℕ) :
    Sha256.schedule (block.take 64) t = Sha256.schedule block t := by
  induction t using Nat.strong_induction_on with
  | _ t ih =>
      by_cases h : t < 16
      · rw [Sha256.schedule_of_lt h, Sha256.schedule_of_lt h, wordAt_take block (by omega)]
      · have hle : 16 ≤ t := by omega
        rw [Sha256.schedule_of_le hle, Sha256.schedule_of_le hle, ih (t - 2) (by omega),
          ih (t - 7) (by omega), ih (t - 15) (by omega), ih (t - 16) (by omega)]

/-- So does the compression. -/
theorem compress_take (H : Vars) (block : List Byte) :
    compress H (block.take 64) = compress H block := by
  simp only [compress, Sha256.rounds, schedule_take]

/-- **The transform** is the compression function, on the first 64 bytes it is given. -/
theorem chain_algoTransform (c : AlgoCTX) (block : List Byte) :
    chain (algoTransform c block) = compress (chain c) (block.take 64) := by
  rw [compress_take, compress]
  have h := toVars_rounds block c.registers (le_refl 64)
  rw [← chain] at h
  rw [← h]
  simp only [algoTransform, chain, BLOCK_SIZE, narrow_add, narrow_wide, Registers.toVars]
  simp [AlgoCTX.registers, BitVec.add_comm]

/-- A transformation leaves the buffered bytes. -/
@[simp] theorem algoTransform_data (c : AlgoCTX) (block : List Byte) :
    (algoTransform c block).data = c.data := rfl

/-- A transformation leaves the number of buffered bytes. -/
@[simp] theorem algoTransform_num (c : AlgoCTX) (block : List Byte) :
    (algoTransform c block).num = c.num := rfl

/-- A transformation leaves the bit count. -/
@[simp] theorem algoTransform_nbits (c : AlgoCTX) (block : List Byte) :
    (algoTransform c block).nbits = c.nbits := rfl

end Transform

/-! ## The stream -/

section Stream

variable {lib : Securec}

/-- The bytes that wait for a block. -/
def pending (c : AlgoCTX) : List Byte := c.data.toList.take c.num

/-- The pending bytes are as many as the context counts. -/
theorem length_pending {c : AlgoCTX} (h : c.num < 64) : (pending c).length = c.num := by
  simp [pending]
  omega

/-- An empty buffer has no pending bytes. -/
theorem pending_of_num_eq_zero {c : AlgoCTX} (h : c.num = 0) : pending c = [] := by
  simp [pending, h]

/-- A successful update takes the bytes `data` behind the ones that wait in `c`. -/
structure Absorbs (c : AlgoCTX) (data : List Byte) (r : Bool × AlgoCTX) : Prop where
  ok : r.1 = true
  num_lt : r.2.num < 64
  absorbed : absorb 64 compress (chain c, pending c ++ data) = (chain r.2, pending r.2)

/-- The loop over the complete blocks absorbs them, and changes nothing but the hash state. -/
theorem transformBlocks_spec (c : AlgoCTX) (data : List Byte) :
    absorb 64 compress (chain c, data) =
        (chain (transformBlocks c data).1, (transformBlocks c data).2) ∧
      (transformBlocks c data).1.data = c.data ∧ (transformBlocks c data).1.num = c.num ∧
      (transformBlocks c data).1.nbits = c.nbits := by
  induction c, data using transformBlocks.induct with
  | case1 c data h ih =>
      have hle : 64 ≤ data.length := h
      rw [transformBlocks, if_pos h, absorb_of_le (by omega) hle, ← chain_algoTransform]
      simpa [BLOCK_SIZE] using ih
  | case2 c data h =>
      rw [transformBlocks, if_neg h, absorb_of_lt (by simpa [BLOCK_SIZE] using h)]
      simp

/-- From an empty buffer the loop absorbs the data block by block. -/
theorem updateBlocks_spec (hlib : lib.Documented) {c : AlgoCTX} (hc : c.num = 0)
    (data : List Byte) :
    Absorbs c data (updateBlocks lib c data) ∧ (updateBlocks lib c data).2.nbits = c.nbits := by
  obtain ⟨habsorb, hdata, hnum, hnbits⟩ := transformBlocks_spec c data
  have hrest : (transformBlocks c data).2.length < 64 := by
    have h := length_absorb (f := compress) (show 0 < 64 by omega) (chain c) data
    rw [habsorb] at h
    change (transformBlocks c data).2.length = _ at h
    omega
  have hwait : absorb 64 compress (chain c, pending c ++ data) =
      (chain (transformBlocks c data).1, (transformBlocks c data).2) := by
    rw [pending_of_num_eq_zero hc, List.nil_append, habsorb]
  rw [updateBlocks]
  generalize transformBlocks c data = p at *
  obtain ⟨c', rest⟩ := p
  dsimp only at *
  by_cases hpos : 0 < rest.length
  · rw [if_pos hpos, hlib.copy_eq _ _ _ (by decide) (by decide) hrest.le]
    have hmod : rest.length % 4294967296 = rest.length := by omega
    have htake := take_overwrite c'.data 0 rest (by omega)
    refine ⟨⟨rfl, ?_, ?_⟩, hnbits⟩
    · simpa [hmod] using hrest
    · rw [hwait]
      simpa [pending, chain, AlgoCTX.registers, hmod] using htake.symm
  · rw [if_neg hpos]
    have hnil : rest = [] := List.length_eq_zero_iff.mp (by omega)
    have hzero : c'.num = 0 := hnum.trans hc
    refine ⟨⟨rfl, ?_, ?_⟩, hnbits⟩
    · change c'.num < 64
      omega
    · rw [hwait, hnil, pending_of_num_eq_zero hzero]

/-- A chunk that reaches the end of the block fills it behind what waits. -/
theorem toList_fill {c : AlgoCTX} (hc : c.num < 64) {data : List Byte}
    (hlong : 64 - c.num ≤ data.length) :
    (overwrite c.data c.num (data.take (64 - c.num))).toList =
      pending c ++ data.take (64 - c.num) := by
  have hlen : (data.take (64 - c.num)).length = 64 - c.num := by
    rw [List.length_take]
    omega
  have htake := take_overwrite c.data c.num (data.take (64 - c.num)) (by omega)
  rw [hlen, show c.num + (64 - c.num) = 64 by omega, List.take_of_length_le (by simp)] at htake
  exact htake

/-- The block that such a chunk fills is absorbed first. -/
theorem absorb_fill {c : AlgoCTX} (hc : c.num < 64) {data : List Byte}
    (hlong : 64 - c.num ≤ data.length) :
    absorb 64 compress (chain c, pending c ++ data) =
      absorb 64 compress (compress (chain c) (pending c ++ data.take (64 - c.num)),
        data.drop (64 - c.num)) := by
  have hblock : (pending c ++ data.take (64 - c.num)).length = 64 := by
    rw [List.length_append, length_pending hc, List.length_take]
    omega
  rw [← absorb_block (by omega) hblock, List.append_assoc, List.take_append_drop]

/-- **One chunk.** From a context with an incomplete block, an update succeeds, absorbs the chunk
and counts its bits. -/
theorem algoUpdate_spec (hlib : lib.Documented) {c : AlgoCTX} (hc : c.num < 64)
    (data : List Byte) :
    Absorbs c data (algoUpdate lib c data) ∧
      (algoUpdate lib c data).2.nbits = c.nbits + BitVec.ofNat 64 data.length * 8 := by
  by_cases hempty : data.length = 0
  · have hnil : data = [] := List.length_eq_zero_iff.mp hempty
    subst hnil
    refine ⟨⟨rfl, hc, ?_⟩, by simp [algoUpdate]⟩
    rw [List.append_nil, absorb_of_lt (by rw [length_pending hc]; exact hc)]
    rfl
  rw [algoUpdate, if_neg hempty]
  have hroom : (64 + 2 ^ 64 - c.num) % 2 ^ 64 = 64 - c.num := by omega
  have hroomMax : 64 - c.num ≤ Securec.SECUREC_MEM_MAX_LEN := by
    rw [Securec.SECUREC_MEM_MAX_LEN]
    omega
  by_cases hnum : c.num = 0
  · rw [if_neg (by simpa using hnum)]
    obtain ⟨⟨hok, hlt, habs⟩, hbits⟩ := updateBlocks_spec hlib
      (c := { c with nbits := c.nbits + BitVec.ofNat 64 data.length * 8 }) hnum data
    exact ⟨⟨hok, hlt, habs⟩, hbits⟩
  rw [if_pos hnum]
  simp only [BLOCK_SIZE, hroom]
  by_cases hshort : data.length < 64 - c.num
  · -- the chunk does not fill the block
    rw [if_pos hshort, hlib.copy_eq _ _ _ (by omega) hroomMax hshort.le, List.take_length]
    have htake := take_overwrite c.data c.num data (by omega)
    have hmod : (c.num + data.length % 2 ^ 32) % 2 ^ 32 = c.num + data.length := by omega
    refine ⟨⟨rfl, ?_, ?_⟩, rfl⟩
    · change (c.num + data.length % 2 ^ 32) % 2 ^ 32 < 64
      omega
    · rw [absorb_of_lt (by rw [List.length_append, length_pending hc]; omega)]
      simp only [pending, chain, AlgoCTX.registers, hmod, htake]
  · -- the chunk fills it, and goes on behind it
    rw [if_neg hshort, hlib.copy_eq _ _ _ (by omega) hroomMax (le_refl _)]
    have hlong : 64 - c.num ≤ data.length := by omega
    set c' : AlgoCTX := algoTransform
      { c with
        data := overwrite c.data c.num (data.take (64 - c.num))
        nbits := c.nbits + BitVec.ofNat 64 data.length * 8 }
      (overwrite c.data c.num (data.take (64 - c.num))).toList with hc'
    have hchain : chain { c' with num := 0 } =
        compress (chain c) (pending c ++ data.take (64 - c.num)) := by
      have h := chain_algoTransform
        { c with
          data := overwrite c.data c.num (data.take (64 - c.num))
          nbits := c.nbits + BitVec.ofNat 64 data.length * 8 }
        (overwrite c.data c.num (data.take (64 - c.num))).toList
      rw [compress_take, toList_fill hc hlong] at h
      rw [toList_fill hc hlong] at hc'
      rw [hc']
      exact h
    obtain ⟨⟨hok, hlt, habs⟩, hbits⟩ := updateBlocks_spec hlib (c := { c' with num := 0 }) rfl
      (data.drop (64 - c.num))
    rw [pending_of_num_eq_zero (c := { c' with num := 0 }) rfl, List.nil_append, hchain] at habs
    exact ⟨⟨hok, hlt, (absorb_fill hc hlong).trans habs⟩, hbits⟩

end Stream

/-! ## The message -/

section Message

variable {lib : Securec} {c : AlgoCTX} {message : List Byte}

/-- The context is the one of the message `message`. -/
structure Holds (c : AlgoCTX) (message : List Byte) : Prop where
  num_lt : c.num < 64
  absorbed : absorb 64 compress (H0, message) = (chain c, pending c)
  nbits_eq : c.nbits = BitVec.ofNat 64 (8 * message.length)

/-- A fresh context holds the empty message. -/
theorem holds_algoInit (c : AlgoCTX) : Holds (algoInit c) [] := by
  refine ⟨by simp [algoInit], ?_, rfl⟩
  rw [absorb_of_lt (by simp), chain_algoInit, pending_of_num_eq_zero rfl]

/-- An update appends its data to the message held. -/
theorem Holds.algoUpdate (hlib : lib.Documented) (h : Holds c message) (data : List Byte) :
    Holds (algoUpdate lib c data).2 (message ++ data) := by
  obtain ⟨⟨-, hlt, habs⟩, hbits⟩ := algoUpdate_spec hlib h.num_lt data
  refine ⟨hlt, ?_, ?_⟩
  · rw [absorb_append, h.absorbed]
    exact habs
  · have hlen : 8 * (message.length + data.length) = 8 * message.length + data.length * 8 := by
      omega
    rw [hbits, h.nbits_eq, List.length_append, hlen, BitVec.ofNat_add, BitVec.ofNat_mul,
      BitVec.ofNat_mul]
    rfl

/-- The number of waiting bytes is what the message has behind its last block. -/
theorem Holds.num_eq (h : Holds c message) : c.num = message.length % 64 := by
  have hlen := length_absorb (f := compress) (show 0 < 64 by omega) H0 message
  rw [h.absorbed] at hlen
  rw [← length_pending h.num_lt]
  exact hlen

/-- The digest is what the waiting bytes and the padding lead to. -/
theorem Holds.sha256_eq (h : Holds c message) : sha256 message =
    (absorb 64 compress (chain c, pending c ++ padding message.length)).1.bytes := by
  rw [sha256, Sha256.pad, absorb_append, h.absorbed]

/-- The bit count is written as the standard's length field. -/
theorem bitCountBytes_eq (bits : BitVec 64) : bitCountBytes bits = Sha256.lengthBytes bits := by
  have hlast := byte_of_shift bits 0
  rw [BitVec.ushiftRight_zero] at hlast
  simp only [bitCountBytes, byte_of_shift, hlast]
  rfl

/-- A word of the digest is written as in the standard. -/
theorem digestBytes_eq (word : Word) : digestBytes word = Sha256.wordBytes word := by
  have hlast := byte_of_shift word 0
  rw [BitVec.ushiftRight_zero] at hlast
  simp only [digestBytes, byte_of_shift, hlast]
  rfl

/-- The words of the hash state, written out, are the digest. -/
theorem flatMap_digestBytes (c : AlgoCTX) : c.h.toList.flatMap digestBytes = (chain c).bytes := by
  have hwords : c.h.toList = [c.h[0], c.h[1], c.h[2], c.h[3], c.h[4], c.h[5], c.h[6], c.h[7]] := by
    apply List.ext_getElem
    · simp
    · intro i hi hi'
      have hlt : i < 8 := by simpa using hi
      interval_cases i <;> simp
  rw [hwords, Sha256.Vars.bytes, show digestBytes = Sha256.wordBytes from funext digestBytes_eq]
  rfl

/-- A tail too long for the length field is padded, transformed and followed by zeros. -/
theorem padBlock_of_lt (hlib : lib.Documented) (c : AlgoCTX) (tmp : Vector Byte 64) {len : ℕ}
    (h : 56 < len) :
    padBlock lib c tmp len =
      (algoTransform c (overwrite tmp len (List.replicate (64 - len) 0)).toList,
        some (overwrite (overwrite tmp len (List.replicate (64 - len) 0)) 0
          (List.replicate 56 0))) := by
  have hcase : PAD_LENGTH < len := h
  have hmax : 64 - len ≤ Securec.SECUREC_MEM_MAX_LEN := by
    rw [Securec.SECUREC_MEM_MAX_LEN]
    omega
  rw [padBlock, if_pos hcase,
    hlib.set_eq _ _ _ hmax (show BLOCK_SIZE - len ≤ 64 - len from le_refl _)]
  dsimp only
  rw [hlib.set_eq _ _ _ (by decide) (show PAD_LENGTH ≤ 64 by decide)]
  rfl

/-- A tail with room for the length field is padded with zeros in place. -/
theorem padBlock_of_le (hlib : lib.Documented) (c : AlgoCTX) (tmp : Vector Byte 64) {len : ℕ}
    (h : len ≤ 56) :
    padBlock lib c tmp len = (c, some (overwrite tmp len (List.replicate (56 - len) 0))) := by
  have hcase : ¬ PAD_LENGTH < len := Nat.not_lt.mpr h
  have hroom : PAD_LENGTH - len ≤ 64 - len := by
    rw [PAD_LENGTH]
    omega
  have hmax : 64 - len ≤ Securec.SECUREC_MEM_MAX_LEN := by
    rw [Securec.SECUREC_MEM_MAX_LEN]
    omega
  rw [padBlock, if_neg hcase, hlib.set_eq _ _ _ hmax hroom]
  rfl

/-- **The padding.** Behind the bytes `front`, the closing one included, the zeros reach the place
of the bit count, through one more block when it has no room for the count. -/
theorem padBlock_spec (hlib : lib.Documented) (c : AlgoCTX) {tmp : Vector Byte 64} {len : ℕ}
    {front : List Byte} (count : List Byte) (hlen : front.length = len) (hpos : 0 < len)
    (hle : len ≤ 64) (hfront : tmp.toList.take len = front) :
    ∃ c' tmp', padBlock lib c tmp len = (c', some tmp') ∧ c'.nbits = c.nbits ∧
      absorb 64 compress (chain c,
          front ++ (List.replicate (Sha256.zeroBytes (len - 1)) 0 ++ count)) =
        absorb 64 compress (chain c', tmp'.toList.take 56 ++ count) := by
  by_cases h : 56 < len
  · refine ⟨_, _, padBlock_of_lt hlib c tmp h, rfl, ?_⟩
    have hblock : (overwrite tmp len (List.replicate (64 - len) 0)).toList =
        front ++ List.replicate (64 - len) 0 := by
      have htake := take_overwrite tmp len (List.replicate (64 - len) 0)
        (by simp; omega)
      rw [List.length_replicate, show len + (64 - len) = 64 by omega,
        List.take_of_length_le (by simp), hfront] at htake
      exact htake
    have hfull : (front ++ List.replicate (64 - len) (0 : Byte)).length = 64 := by
      simp [hlen]
      omega
    have hzeros := take_overwrite (overwrite tmp len (List.replicate (64 - len) 0)) 0
      (List.replicate 56 0) (by simp)
    rw [List.length_replicate, List.take_zero, List.nil_append, Nat.zero_add] at hzeros
    -- the zeros of both blocks
    have hsum : Sha256.zeroBytes (len - 1) = (64 - len) + 56 := by
      rw [Sha256.zeroBytes]
      omega
    rw [hzeros, hsum, List.replicate_add, List.append_assoc, ← List.append_assoc front,
      absorb_block (by omega) hfull, chain_algoTransform, compress_take, hblock]
  · refine ⟨_, _, padBlock_of_le hlib c tmp (by omega), rfl, ?_⟩
    have hzeros := take_overwrite tmp len (List.replicate (56 - len) 0)
      (by simp; omega)
    rw [List.length_replicate, show len + (56 - len) = 56 by omega, hfront] at hzeros
    have hsum : Sha256.zeroBytes (len - 1) = 56 - len := by
      rw [Sha256.zeroBytes]
      omega
    rw [hzeros, hsum, List.append_assoc]

/-- The bytes that wait are copied to the front of the last block. -/
theorem copied_spec (hlib : lib.Documented) (hc : c.num < 64) (tmp : Vector Byte 64) :
    ∃ tmp', (if 0 < c.num then lib.copy tmp 0 64 c.data.toList c.num else some tmp) = some tmp' ∧
      tmp'.toList.take c.num = pending c := by
  by_cases h : 0 < c.num
  · rw [if_pos h, hlib.copy_eq _ _ _ (by decide) (by decide) hc.le]
    refine ⟨_, rfl, ?_⟩
    have htake := take_overwrite tmp 0 (c.data.toList.take c.num)
      (by simp)
    have hlen : (c.data.toList.take c.num).length = c.num := length_pending hc
    rw [hlen, Nat.zero_add] at htake
    exact htake
  · rw [if_neg h]
    refine ⟨_, rfl, ?_⟩
    rw [pending_of_num_eq_zero (by omega), show c.num = 0 by omega, List.take_zero]

/-- **The digest.** From the context of a message, whatever the array `tmp` holds. -/
theorem algoFinal_spec (hlib : lib.Documented) (h : Holds c message) (tmp : Vector Byte 64) :
    (algoFinal lib tmp c).1 = some (sha256 message) := by
  have hnum := h.num_lt
  obtain ⟨tmp₁, hcopied, hpending⟩ := copied_spec hlib hnum tmp
  have hclose := take_overwrite tmp₁ c.num [(0x80 : Byte)] (by simp; omega)
  rw [hpending] at hclose
  have hlen : (pending c ++ [(0x80 : Byte)]).length = c.num + 1 := by
    simp [length_pending hnum]
  obtain ⟨c', tmp₂, hpad, hbits, habs⟩ :=
    padBlock_spec hlib c (bitCountBytes c.nbits) hlen (by omega) (by omega) hclose
  -- the last block holds what precedes the count, and the count
  have hlast : (overwrite tmp₂ 56 (bitCountBytes c.nbits)).toList =
      tmp₂.toList.take 56 ++ bitCountBytes c.nbits := by
    have htake := take_overwrite tmp₂ 56 (bitCountBytes c.nbits)
      (by simp [bitCountBytes])
    rw [List.take_of_length_le (by simp [bitCountBytes])] at htake
    exact htake
  have hfull : (tmp₂.toList.take 56 ++ bitCountBytes c.nbits).length = 64 := by
    simp [bitCountBytes]
  have hfinal : absorb 64 compress (chain c', tmp₂.toList.take 56 ++ bitCountBytes c.nbits) =
      (compress (chain c') (tmp₂.toList.take 56 ++ bitCountBytes c.nbits), []) := by
    rw [← List.append_nil (tmp₂.toList.take 56 ++ bitCountBytes c.nbits),
      absorb_block (by omega) hfull, absorb_of_lt (by simp), List.append_nil]
  have hpadding : pending c ++ padding message.length =
      pending c ++ [0x80] ++ (List.replicate (Sha256.zeroBytes (c.num + 1 - 1)) 0 ++
        bitCountBytes c.nbits) := by
    have hzero : Sha256.zeroBytes (c.num + 1 - 1) = Sha256.zeroBytes message.length := by
      rw [Nat.add_sub_cancel, h.num_eq, Sha256.zeroBytes, Sha256.zeroBytes, Nat.mod_mod]
    rw [hzero, bitCountBytes_eq, h.nbits_eq, padding, List.append_assoc]
    rfl
  rw [h.sha256_eq, hpadding, habs, hfinal]
  simp only [algoFinal]
  rw [if_neg (by omega), hcopied]
  dsimp only
  rw [hpad]
  dsimp only
  rw [flatMap_digestBytes, chain_algoTransform, compress_take, hbits, hlast]

end Message

/-! ## The interface -/

section Interface

open HashCalculator

variable {lib : Securec}

/-- The context after a chunk. -/
def nextContext (lib : Securec) (c : AlgoCTX) (value : List Byte) : AlgoCTX :=
  (update lib c value).2

/-- Update succeeds and is AlgoUpdate. -/
theorem update_eq (hlib : lib.Documented) {c : AlgoCTX} {message : List Byte} (h : Holds c message)
    (value : List Byte) : update lib c value = (AVSESSION_SUCCESS, (algoUpdate lib c value).2) := by
  have hok := (algoUpdate_spec hlib h.num_lt value).1.ok
  rw [update]
  generalize algoUpdate lib c value = r at *
  obtain ⟨ok, c'⟩ := r
  dsimp only at hok
  subst hok
  rfl

/-- Each value handed over is appended to the message held. -/
theorem Holds.nextContext (hlib : lib.Documented) {c : AlgoCTX} {message : List Byte}
    (h : Holds c message) (value : List Byte) :
    Holds (nextContext lib c value) (message ++ value) := by
  rw [Hash.nextContext, update_eq hlib h]
  exact h.algoUpdate hlib value

/-- All chunks are taken, and the context is the one of the message they make up. -/
theorem Holds.run (hlib : lib.Documented) {c : AlgoCTX} {message : List Byte} (h : Holds c message)
    (chunks : List (List Byte)) :
    Meets (Hash.nextContext lib) (fun c value => (update lib c value).1 = AVSESSION_SUCCESS) c
        chunks ∧
      Holds (run (Hash.nextContext lib) c chunks) (message ++ chunks.flatten) := by
  induction chunks generalizing c message with
  | nil => exact ⟨trivial, by simpa using h⟩
  | cons value chunks ih =>
      obtain ⟨hmeets, hholds⟩ := ih (h.nextContext hlib value)
      rw [List.append_assoc] at hholds
      exact ⟨⟨congrArg Prod.fst (update_eq hlib h value), hmeets⟩, hholds⟩

/-- From any context: every step succeeds, and the result is the digest of the chunks together,
whatever the array of the last step and the vector of the result held before. -/
theorem getResult_of_chunks (lib : Securec) (hlib : lib.Documented) (g_context : AlgoCTX)
    (chunks : List (List Byte)) (tmp : Vector Byte 64) (value : List Byte) :
    (init g_context).1 = AVSESSION_SUCCESS ∧
      Meets (nextContext lib) (fun c value => (update lib c value).1 = AVSESSION_SUCCESS)
        (init g_context).2 chunks ∧
      (getResult lib tmp (run (nextContext lib) (init g_context).2 chunks) value).1 =
        AVSESSION_SUCCESS ∧
      (getResult lib tmp (run (nextContext lib) (init g_context).2 chunks) value).2.1 =
        sha256 chunks.flatten := by
  obtain ⟨hmeets, hholds⟩ := (holds_algoInit g_context).run hlib chunks
  have hfinal := algoFinal_spec hlib hholds tmp
  rw [List.nil_append] at hfinal
  refine ⟨rfl, hmeets, ?_⟩
  simp only [getResult, init]
  generalize algoFinal lib tmp (run (nextContext lib) (algoInit g_context) chunks) = r at *
  obtain ⟨md, c⟩ := r
  dsimp only at hfinal
  subst hfinal
  exact ⟨rfl, rfl⟩

/-- The three bytes of "abc" in two chunks. -/
theorem getResult_of_abc :
    (getResult Securec.strict (Vector.replicate 64 0)
        (run (nextContext Securec.strict) (init AlgoCTX.zero).2 [[97], [98, 99]]) []).2.1 =
      sha256 [97, 98, 99] :=
  (getResult_of_chunks Securec.strict Securec.strict_documented AlgoCTX.zero
    [[97], [98, 99]] (Vector.replicate 64 0) []).2.2.2

/-- The digest of "abc", as the standard's own example gives it. -/
example : (getResult Securec.strict (Vector.replicate 64 0)
    (update Securec.strict (init AlgoCTX.zero).2 [97, 98, 99]).2 []).2.1 =
      [0xba, 0x78, 0x16, 0xbf, 0x8f, 0x01, 0xcf, 0xea, 0x41, 0x41, 0x40, 0xde, 0x5d, 0xae, 0x22,
        0x23, 0xb0, 0x03, 0x61, 0xa3, 0x96, 0x17, 0x7a, 0x9c, 0xb4, 0x10, 0xff, 0x61, 0xf2, 0x00,
        0x15, 0xad] := by
  decide +kernel

end Interface

end AvSession.Hash
