import AvSession.Common.Codes
import AvSession.Lib.Securec
import AvSession.Lib.Sha256

/-!
# The hash calculator

The block hash that names of cached files are made with, over an explicit context.

* `AlgoCTX` — hash state, block buffer, bytes in it, bits processed.
* `algoTransform`, `algoUpdate`, `algoFinal` — one block, one chunk, the digest.
* `HashCalculator.init`, `update`, `getResult` — the interface, with its result codes.

The bounded copy functions are a parameter (`Securec`); `Securec.Documented` is what the code relies
on.
-/

namespace AvSession.Hash

open AvSession.Common.Codes AvSession.Lib
open AvSession.Lib.Sha256 (Byte Word)

/-! ## The block hash -/

section Algo

def BLOCK_SIZE : ℕ := 64
def PAD_LENGTH : ℕ := 56
def BYTES_PER_WORD : ℕ := 4
def SHA256_DIGEST_LENGTH : ℕ := 32

/-! Source: hash_calculator.cpp, the macros -/

def ROTR (x : Word) (n : ℕ) : Word := (x >>> n) ||| (x <<< (32 - n))
def SHR (x : Word) (n : ℕ) : Word := x >>> n
def Ch (x y z : Word) : Word := (x &&& y) ^^^ (~~~x &&& z)
def Maj (x y z : Word) : Word := (x &&& y) ^^^ (x &&& z) ^^^ (y &&& z)
def bigSigma0 (x : Word) : Word := ROTR x 2 ^^^ ROTR x 13 ^^^ ROTR x 22
def bigSigma1 (x : Word) : Word := ROTR x 6 ^^^ ROTR x 11 ^^^ ROTR x 25
def smallSigma0 (x : Word) : Word := ROTR x 7 ^^^ ROTR x 18 ^^^ SHR x 3
def smallSigma1 (x : Word) : Word := ROTR x 17 ^^^ ROTR x 19 ^^^ SHR x 10

/-- Source: hash_calculator.cpp, `K256` -/
def K256 : List Word := [
  0x428a2f98, 0x71374491, 0xb5c0fbcf, 0xe9b5dba5, 0x3956c25b, 0x59f111f1, 0x923f82a4, 0xab1c5ed5,
  0xd807aa98, 0x12835b01, 0x243185be, 0x550c7dc3, 0x72be5d74, 0x80deb1fe, 0x9bdc06a7, 0xc19bf174,
  0xe49b69c1, 0xefbe4786, 0x0fc19dc6, 0x240ca1cc, 0x2de92c6f, 0x4a7484aa, 0x5cb0a9dc, 0x76f988da,
  0x983e5152, 0xa831c66d, 0xb00327c8, 0xbf597fc7, 0xc6e00bf3, 0xd5a79147, 0x06ca6351, 0x14292967,
  0x27b70a85, 0x2e1b2138, 0x4d2c6dfc, 0x53380d13, 0x650a7354, 0x766a0abb, 0x81c2c92e, 0x92722c85,
  0xa2bfe8a1, 0xa81a664b, 0xc24b8b70, 0xc76c51a3, 0xd192e819, 0xd6990624, 0xf40e3585, 0x106aa070,
  0x19a4c116, 0x1e376c08, 0x2748774c, 0x34b0bcb5, 0x391c0cb3, 0x4ed8aa4a, 0x5b9cca4f, 0x682e6ff3,
  0x748f82ee, 0x78a5636f, 0x84c87814, 0x8cc70208, 0x90befffa, 0xa4506ceb, 0xbef9a3f7, 0xc67178f2]

/-- Source: hash_calculator.cpp, `AlgoCTX` -/
structure AlgoCTX where
  /-- hash state h0~h7 -/
  h : Vector Word 8
  /-- msg block buffer -/
  data : Vector Byte 64
  /-- bytes in data[] -/
  num : ℕ
  /-- total bits processed -/
  nbits : BitVec 64

/-- The block buffer keeps what it held. Source: hash_calculator.cpp, `AlgoInit` -/
def algoInit (c : AlgoCTX) : AlgoCTX :=
  { c with
    h := #v[0x6a09e667, 0xbb67ae85, 0x3c6ef372, 0xa54ff53a, 0x510e527f, 0x9b05688c, 0x1f83d9ab,
      0x5be0cd19]
    num := 0
    nbits := 0 }

/-- A sum of 32-bit words in 64 bits. -/
def wide (x : Word) : BitVec 64 := x.setWidth 64

/-- `static_cast<uint32_t>` of a 64-bit sum. -/
def narrow (x : BitVec 64) : Word := x.setWidth 32

/-- The first 16 words of `w`. Source: hash_calculator.cpp, `AlgoTransform` -/
def loadWords (block : List Byte) : List Word :=
  (List.range 16).map fun t =>
    ((block.getD (BYTES_PER_WORD * t) 0).setWidth 32 <<< 24) |||
      ((block.getD (BYTES_PER_WORD * t + 1) 0).setWidth 32 <<< 16) |||
      ((block.getD (BYTES_PER_WORD * t + 2) 0).setWidth 32 <<< 8) |||
      (block.getD (BYTES_PER_WORD * t + 3) 0).setWidth 32

/-- `w[t]` from the words before it. Source: hash_calculator.cpp, `AlgoTransform` -/
def extendWord (w : List Word) (t : ℕ) : Word :=
  narrow (wide (smallSigma1 (w.getD (t - 2) 0)) + wide (w.getD (t - 7) 0) +
    wide (smallSigma0 (w.getD (t - 15) 0)) + wide (w.getD (t - 16) 0))

/-- The words `w[0..64)`. Source: hash_calculator.cpp, `AlgoTransform` -/
def messageWords (block : List Byte) : List Word :=
  (List.range' 16 48).foldl (fun w t => w ++ [extendWord w t]) (loadWords block)

/-- The variables `a` to `h` of `AlgoTransform`. -/
structure Registers where
  a : Word
  b : Word
  c : Word
  d : Word
  e : Word
  f : Word
  g : Word
  h : Word

/-- The body of the loop of the rounds. Source: hash_calculator.cpp, `AlgoTransform` -/
def transformRound (w : List Word) (r : Registers) (t : ℕ) : Registers :=
  let t1 := narrow (wide r.h + wide (bigSigma1 r.e) + wide (Ch r.e r.f r.g) +
    wide (K256.getD t 0) + wide (w.getD t 0))
  let t2 := narrow (wide (bigSigma0 r.a) + wide (Maj r.a r.b r.c))
  { h := r.g, g := r.f, f := r.e, e := narrow (wide r.d + wide t1), d := r.c, c := r.b, b := r.a,
    a := narrow (wide t1 + wide t2) }

/-- The variables `a` to `h` before the rounds. Source: hash_calculator.cpp, `AlgoTransform` -/
def AlgoCTX.registers (ctx : AlgoCTX) : Registers :=
  ⟨ctx.h[0], ctx.h[1], ctx.h[2], ctx.h[3], ctx.h[4], ctx.h[5], ctx.h[6], ctx.h[7]⟩

/-- Source: hash_calculator.cpp, `AlgoTransform` -/
def algoTransform (ctx : AlgoCTX) (block : List Byte) : AlgoCTX :=
  let w := messageWords block
  let r := (List.range BLOCK_SIZE).foldl (transformRound w) ctx.registers
  { ctx with
    h := #v[narrow (wide ctx.h[0] + wide r.a), narrow (wide ctx.h[1] + wide r.b),
      narrow (wide ctx.h[2] + wide r.c), narrow (wide ctx.h[3] + wide r.d),
      narrow (wide ctx.h[4] + wide r.e), narrow (wide ctx.h[5] + wide r.f),
      narrow (wide ctx.h[6] + wide r.g), narrow (wide ctx.h[7] + wide r.h)] }

/-- The loop over the complete blocks of the input, and the input behind them.
Source: hash_calculator.cpp, `AlgoUpdate` -/
def transformBlocks (c : AlgoCTX) (data : List Byte) : AlgoCTX × List Byte :=
  if BLOCK_SIZE ≤ data.length then
    transformBlocks (algoTransform c data) (data.drop BLOCK_SIZE)
  else (c, data)
termination_by data.length
decreasing_by simp [BLOCK_SIZE] at *; omega

/-- The end of `AlgoUpdate`, with an empty block buffer: the complete blocks, then the remainder is
stored. Source: hash_calculator.cpp, `AlgoUpdate` -/
def updateBlocks (lib : Securec) (c : AlgoCTX) (data : List Byte) : Bool × AlgoCTX :=
  let (c, data) := transformBlocks c data
  if 0 < data.length then
    match lib.copy c.data 0 64 data data.length with
    | some buffer => (true, { c with data := buffer, num := data.length % 2 ^ 32 })
    | none => (false, c)
  else (true, c)

/-- Source: hash_calculator.cpp, `AlgoUpdate` -/
def algoUpdate (lib : Securec) (c : AlgoCTX) (data : List Byte) : Bool × AlgoCTX :=
  if data.length = 0 then (true, c)
  else
    let c := { c with nbits := c.nbits + BitVec.ofNat 64 data.length * 8 }
    if c.num ≠ 0 then
      let need := (BLOCK_SIZE + 2 ^ 64 - c.num) % 2 ^ 64
      let room := (64 + 2 ^ 64 - c.num) % 2 ^ 64
      if data.length < need then
        match lib.copy c.data c.num room data data.length with
        | some buffer =>
          (true, { c with data := buffer, num := (c.num + data.length % 2 ^ 32) % 2 ^ 32 })
        | none => (false, c)
      else
        match lib.copy c.data c.num room data need with
        | some buffer =>
          let c := algoTransform { c with data := buffer } buffer.toList
          updateBlocks lib { c with num := 0 } (data.drop need)
        | none => (false, c)
    else updateBlocks lib c data

/-- The bytes `tmp[56..64)`. Source: hash_calculator.cpp, `AlgoFinal` -/
def bitCountBytes (bits : BitVec 64) : List Byte :=
  [((bits >>> 56) &&& 0xFF).setWidth 8, ((bits >>> 48) &&& 0xFF).setWidth 8,
    ((bits >>> 40) &&& 0xFF).setWidth 8, ((bits >>> 32) &&& 0xFF).setWidth 8,
    ((bits >>> 24) &&& 0xFF).setWidth 8, ((bits >>> 16) &&& 0xFF).setWidth 8,
    ((bits >>> 8) &&& 0xFF).setWidth 8, (bits &&& 0xFF).setWidth 8]

/-- The four bytes of `md` for a word of the hash state. Source: hash_calculator.cpp, `AlgoFinal` -/
def digestBytes (word : Word) : List Byte :=
  [((word >>> 24) &&& 0xFF).setWidth 8, ((word >>> 16) &&& 0xFF).setWidth 8,
    ((word >>> 8) &&& 0xFF).setWidth 8, (word &&& 0xFF).setWidth 8]

/-- The zeros behind the closing byte, up to the place of the bit count: the context, after the
transform of a first block that has no room for the count, and `tmp`, `none` when a step fails.
Source: hash_calculator.cpp, `AlgoFinal` -/
def padBlock (lib : Securec) (c : AlgoCTX) (tmp : Vector Byte 64) (len : ℕ) :
    AlgoCTX × Option (Vector Byte 64) :=
  if PAD_LENGTH < len then
    match lib.set tmp len (64 - len) 0 (BLOCK_SIZE - len) with
    | some tmp => (algoTransform c tmp.toList, lib.set tmp 0 64 0 PAD_LENGTH)
    | none => (c, none)
  else (c, lib.set tmp len (64 - len) 0 (PAD_LENGTH - len))

/-- The cleared context. -/
def AlgoCTX.zero : AlgoCTX := ⟨Vector.replicate 8 0, Vector.replicate 64 0, 0, 0⟩

/-- The size of the context in bytes, of which the last call clears them all. -/
def sizeofAlgoCTX : ℕ := 112

/-- The digest, `none` when a step fails, and the context. The array `tmp` comes uninitialised.
Source: hash_calculator.cpp, `AlgoFinal` -/
def algoFinal (lib : Securec) (tmp : Vector Byte 64) (c : AlgoCTX) : Option (List Byte) × AlgoCTX :=
  let len := c.num
  if 64 ≤ len then (none, c)
  else
    let copied := if 0 < len then lib.copy tmp 0 64 c.data.toList len else some tmp
    match copied with
    | none => (none, c)
    | some tmp =>
      match padBlock lib c (overwrite tmp len [0x80]) (len + 1) with
      | (c, none) => (none, c)
      | (c, some tmp) =>
        let tmp := overwrite tmp 56 (bitCountBytes c.nbits)
        let c := algoTransform c tmp.toList
        let md := c.h.toList.flatMap digestBytes
        (some md, if lib.memset_s sizeofAlgoCTX sizeofAlgoCTX then AlgoCTX.zero else c)

end Algo

/-! ## The interface -/

namespace HashCalculator

/-- Source: hash_calculator.cpp, `HashCalculator::Init` -/
def init (g_context : AlgoCTX) : ℤ × AlgoCTX := (AVSESSION_SUCCESS, algoInit g_context)

/-- Source: hash_calculator.cpp, `HashCalculator::Update` -/
def update (lib : Securec) (g_context : AlgoCTX) (value : List Byte) : ℤ × AlgoCTX :=
  match algoUpdate lib g_context value with
  | (true, c) => (AVSESSION_SUCCESS, c)
  | (false, c) => (AVSESSION_ERROR, c)

/-- The result code, `value` and the context. Source: hash_calculator.cpp,
`HashCalculator::GetResult` -/
def getResult (lib : Securec) (tmp : Vector Byte 64) (g_context : AlgoCTX) (value : List Byte) :
    ℤ × List Byte × AlgoCTX :=
  let value := value.take SHA256_DIGEST_LENGTH ++
    List.replicate (SHA256_DIGEST_LENGTH - value.length) 0
  match algoFinal lib tmp g_context with
  | (some md, c) => (AVSESSION_SUCCESS, md, c)
  | (none, c) => (AVSESSION_ERROR, value, c)

end HashCalculator

end AvSession.Hash
