import AvSession.Lib.FixedBuffer

/-!
# Bounded memory functions

`memcpy_s` and `memset_s` take the size of the destination and a count, and fail rather than write
behind the destination. Whether a call succeeds is a parameter.

* `Securec` — the results of the calls; `Securec.Documented` — what is known of them.
* `Securec.copy`, `Securec.set` — the calls on a part of a buffer.
* `Securec.strict` — the functions of one such library.

An empty destination is left open for `memcpy_s`, which may refuse it, and so are sizes beyond
`SECUREC_MEM_MAX_LEN`.
-/

namespace AvSession.Lib

/-- The results of the bounded memory functions: `true` for success, by the size of the destination
and the count. The pointers are not null and the buffers do not overlap. -/
structure Securec where
  memcpy_s : ℕ → ℕ → Bool
  memset_s : ℕ → ℕ → Bool

namespace Securec

def SECUREC_MEM_MAX_LEN : ℕ := 0x7fffffff

/-- A call succeeds exactly when the count does not exceed the size of the destination. -/
structure Documented (lib : Securec) : Prop where
  memcpy_s_eq : ∀ destMax count, 0 < destMax → destMax ≤ SECUREC_MEM_MAX_LEN →
    lib.memcpy_s destMax count = decide (count ≤ destMax)
  memset_s_eq : ∀ destMax count, destMax ≤ SECUREC_MEM_MAX_LEN →
    lib.memset_s destMax count = decide (count ≤ destMax)

variable {β : Type*} {n : ℕ} {lib : Securec}

/-- `memcpy_s(dest + off, destMax, src, count)`; `none` when it fails. -/
def copy (lib : Securec) (dest : Vector β n) (off destMax : ℕ) (src : List β) (count : ℕ) :
    Option (Vector β n) :=
  if lib.memcpy_s destMax count then some (overwrite dest off (src.take count)) else none

/-- `memset_s(dest + off, destMax, c, count)`; `none` when it fails. -/
def set (lib : Securec) (dest : Vector β n) (off destMax : ℕ) (c : β) (count : ℕ) :
    Option (Vector β n) :=
  if lib.memset_s destMax count then some (overwrite dest off (List.replicate count c)) else none

/-- The documented copy within the room succeeds. -/
theorem Documented.memcpy_s_of_le (hlib : lib.Documented) {destMax count : ℕ} (hpos : 0 < destMax)
    (hmax : destMax ≤ SECUREC_MEM_MAX_LEN) (h : count ≤ destMax) :
    lib.memcpy_s destMax count = true := by
  rw [hlib.memcpy_s_eq _ _ hpos hmax]
  simpa using h

/-- It copies the bytes to their place. -/
theorem Documented.copy_eq (hlib : lib.Documented) (dest : Vector β n) (off : ℕ)
    {destMax count : ℕ} (src : List β) (hpos : 0 < destMax) (hmax : destMax ≤ SECUREC_MEM_MAX_LEN)
    (h : count ≤ destMax) :
    lib.copy dest off destMax src count = some (overwrite dest off (src.take count)) := by
  rw [copy, if_pos (hlib.memcpy_s_of_le hpos hmax h)]

/-- The documented fill within the room fills it. -/
theorem Documented.set_eq (hlib : lib.Documented) (dest : Vector β n) (off : ℕ)
    {destMax count : ℕ} (c : β) (hmax : destMax ≤ SECUREC_MEM_MAX_LEN) (h : count ≤ destMax) :
    lib.set dest off destMax c count = some (overwrite dest off (List.replicate count c)) := by
  have hset : lib.memset_s destMax count = true := by
    rw [hlib.memset_s_eq _ _ hmax]
    simpa using h
  rw [set, if_pos hset]

/-- The functions of a library that refuses an empty destination of a copy and too large sizes. -/
def strict : Securec where
  memcpy_s := fun destMax count =>
    decide (0 < destMax ∧ destMax ≤ SECUREC_MEM_MAX_LEN ∧ count ≤ destMax)
  memset_s := fun destMax count => decide (destMax ≤ SECUREC_MEM_MAX_LEN ∧ count ≤ destMax)

/-- The strict library behaves as documented. -/
theorem strict_documented : strict.Documented := by
  constructor
  · intro destMax count hpos hmax
    simp [strict, hpos, hmax]
  · intro destMax count hmax
    simp [strict, hmax]

end Securec

end AvSession.Lib
