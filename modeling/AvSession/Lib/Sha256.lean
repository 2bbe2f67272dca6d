import Mathlib.Data.List.GetD
import Mathlib.Data.Nat.NthRoot.Defs
import Mathlib.Data.Nat.Prime.Defs
import AvSession.Lib.BlockHash

/-!
# SHA-256

The hash function of FIPS 180-4 on messages of whole bytes, as the standard defines it: the round
constants by their roots, the message schedule by its recurrence, the padding by its length.

* `K`, `H0` — the first 32 bits of the fractional parts of the cube roots of the first 64 primes
  and of the square roots of the first 8.
* `schedule`, `round`, `compress` — the message schedule, one round, the hash of one block.
* `pad`, `sha256` — the padded message and its digest.
-/

namespace AvSession.Lib.Sha256

abbrev Byte := BitVec 8
abbrev Word := BitVec 32

/-! ## Functions and constants -/

section Functions

def Ch (x y z : Word) : Word := (x &&& y) ^^^ (~~~x &&& z)
def Maj (x y z : Word) : Word := (x &&& y) ^^^ (x &&& z) ^^^ (y &&& z)

/-- `Σ₀` -/
def bigSigma0 (x : Word) : Word := x.rotateRight 2 ^^^ x.rotateRight 13 ^^^ x.rotateRight 22
/-- `Σ₁` -/
def bigSigma1 (x : Word) : Word := x.rotateRight 6 ^^^ x.rotateRight 11 ^^^ x.rotateRight 25
/-- `σ₀` -/
def smallSigma0 (x : Word) : Word := x.rotateRight 7 ^^^ x.rotateRight 18 ^^^ x >>> 3
/-- `σ₁` -/
def smallSigma1 (x : Word) : Word := x.rotateRight 17 ^^^ x.rotateRight 19 ^^^ x >>> 10

/-- The first 64 primes. -/
def primes : List ℕ := (List.range 312).filter fun p => decide p.Prime

/-- The first 32 bits of the fractional part of the `e`-th root of `p`. -/
def rootBits (e p : ℕ) : Word := BitVec.ofNat 32 (Nat.nthRoot e (p * 2 ^ (32 * e)))

/-- The round constants. -/
def K (t : ℕ) : Word := rootBits 3 (primes.getD t 0)

end Functions

/-! ## One block -/

section Block

/-- The eight working variables, and the hash value. -/
structure Vars where
  a : Word
  b : Word
  c : Word
  d : Word
  e : Word
  f : Word
  g : Word
  h : Word
deriving DecidableEq

/-- The initial hash value. -/
def H0 : Vars where
  a := rootBits 2 (primes.getD 0 0)
  b := rootBits 2 (primes.getD 1 0)
  c := rootBits 2 (primes.getD 2 0)
  d := rootBits 2 (primes.getD 3 0)
  e := rootBits 2 (primes.getD 4 0)
  f := rootBits 2 (primes.getD 5 0)
  g := rootBits 2 (primes.getD 6 0)
  h := rootBits 2 (primes.getD 7 0)

/-- The word of the four bytes from `i` on, the first the highest. -/
def wordAt (block : List Byte) (i : ℕ) : Word :=
  (block.getD i 0 ++ block.getD (i + 1) 0 ++ block.getD (i + 2) 0 ++ block.getD (i + 3) 0 :
    BitVec (8 + 8 + 8 + 8))

/-- The message schedule `W_t` of a block. -/
def schedule (block : List Byte) (t : ℕ) : Word :=
  if t < 16 then wordAt block (4 * t)
  else smallSigma1 (schedule block (t - 2)) + schedule block (t - 7) +
    smallSigma0 (schedule block (t - 15)) + schedule block (t - 16)

/-- One round, with the constant `k` and the word `w` of the schedule. -/
def round (k w : Word) (v : Vars) : Vars :=
  let T1 := v.h + bigSigma1 v.e + Ch v.e v.f v.g + k + w
  let T2 := bigSigma0 v.a + Maj v.a v.b v.c
  ⟨T1 + T2, v.a, v.b, v.c, v.d + T1, v.e, v.f, v.g⟩

/-- The working variables after the first `n` rounds. -/
def rounds (block : List Byte) (v : Vars) (n : ℕ) : Vars :=
  (List.range n).foldl (fun v t => round (K t) (schedule block t) v) v

/-- The intermediate hash value behind a block. -/
def compress (H : Vars) (block : List Byte) : Vars :=
  let v := rounds block H 64
  ⟨v.a + H.a, v.b + H.b, v.c + H.c, v.d + H.d, v.e + H.e, v.f + H.f, v.g + H.g, v.h + H.h⟩

/-- The first 16 words are those of the block. -/
theorem schedule_of_lt {block : List Byte} {t : ℕ} (h : t < 16) :
    schedule block t = wordAt block (4 * t) := by
  rw [schedule, if_pos h]

/-- The others are computed from earlier ones. -/
theorem schedule_of_le {block : List Byte} {t : ℕ} (h : 16 ≤ t) :
    schedule block t = smallSigma1 (schedule block (t - 2)) + schedule block (t - 7) +
      smallSigma0 (schedule block (t - 15)) + schedule block (t - 16) := by
  rw [schedule, if_neg (by omega)]

/-- One round more. -/
theorem rounds_succ (block : List Byte) (v : Vars) (n : ℕ) :
    rounds block v (n + 1) = round (K n) (schedule block n) (rounds block v n) := by
  simp [rounds, List.range_succ]

end Block

/-! ## The message -/

section Message

/-- The number of zero bytes behind the closing bit: the least that leaves eight bytes of the last
block for the length. -/
def zeroBytes (length : ℕ) : ℕ := (119 - length % 64) % 64

/-- The bytes of a 64-bit number, the highest first. -/
def lengthBytes (bits : BitVec 64) : List Byte :=
  (List.range 8).map fun i => bits.extractLsb' (8 * (7 - i)) 8

/-- What is appended to a message of the given number of bytes. -/
def padding (length : ℕ) : List Byte :=
  0x80 :: (List.replicate (zeroBytes length) 0 ++ lengthBytes (BitVec.ofNat 64 (8 * length)))

def pad (message : List Byte) : List Byte := message ++ padding message.length

/-- The four bytes of a word, the highest first. -/
def wordBytes (w : Word) : List Byte :=
  (List.range 4).map fun i => w.extractLsb' (8 * (3 - i)) 8

def Vars.bytes (v : Vars) : List Byte :=
  [v.a, v.b, v.c, v.d, v.e, v.f, v.g, v.h].flatMap wordBytes

/-- The digest of a message. -/
def sha256 (message : List Byte) : List Byte := (absorb 64 compress (H0, pad message)).1.bytes

/-- The length field has eight bytes. -/
@[simp] theorem length_lengthBytes (bits : BitVec 64) : (lengthBytes bits).length = 8 := by
  simp [lengthBytes]

end Message

end AvSession.Lib.Sha256
