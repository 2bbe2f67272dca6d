import AvSession.Lib.Run
import AvSession.Lib.Securec

/-!
# Shared memory

A block of memory that is mapped into two processes, read and written at positions that the peer
may choose.

* `Write`, `Read`, `clearUsedSize` — over the bytes around the mapping, by their offset from its
  base, with what each call does beside its result: sums that overflow, the range it touches.
* `write_spec`, `read_spec` — the calls at positions that are not negative, or the invalid one.
* `inside_iff` — the sequences of calls that stay inside the mapping.

The block has been mapped: its base is not null.
-/

namespace AvSession.Common

open AvSession.Lib

abbrev Byte := BitVec 8

/-! ## Functions -/

section Functions

/-- Source: av_shared_memory_base.h, `AVSharedMemoryBase` -/
structure AVSharedMemoryBase where
  /-- The bytes in memory, by their offset from `base_`. -/
  base : ℤ → Byte
  capacity : BitVec 32
  /-- `Init` refuses the others. -/
  capacity_pos : 0 < capacity.toInt
  size : BitVec 32

def INVALID_POSITION : BitVec 32 := -1

/-- `std::min` of two `int32_t`. -/
def min32 (x y : BitVec 32) : BitVec 32 := if y.slt x then y else x

/-- `length` bytes from `start` on. -/
def bytesAt (memory : ℤ → Byte) (start : ℤ) (length : ℕ) : List Byte :=
  (List.range length).map fun i : ℕ => memory (start + i)

/-- The memory with `length` bytes from `start` on taken from `input`. -/
def put (memory : ℤ → Byte) (start : ℤ) (length : ℕ) (input : ℕ → Byte) : ℤ → Byte :=
  fun a => if start ≤ a ∧ a < start + length then input (a - start).toNat else memory a

/-- A call: the object after it, what it returns and writes to the caller's buffer, whether a sum
or difference overflows, and the range of bytes it touches, by start and length. -/
structure Outcome where
  memory : AVSharedMemoryBase
  returned : BitVec 32 := 0
  out : List Byte := []
  overflow : Bool := false
  touched : Option (ℤ × ℤ) := none

/-- An `int32_t` as the `size_t` argument of a memory function. -/
def sizeOf32 (x : BitVec 32) : ℕ := (x.signExtend 64).toNat

variable (lib : Securec) (m : AVSharedMemoryBase)

/-- Source: av_shared_memory_base.cpp, `AVSharedMemoryBase::Write` -/
def Write (input : Option (ℕ → Byte)) (writeSize position : BitVec 32) : Outcome :=
  match input with
  | none => { memory := m }
  | some input =>
    if writeSize.sle 0 then { memory := m }
    else
      let start := if position = INVALID_POSITION then m.size else min32 position m.capacity
      let unusedSize := m.capacity - start
      let length := min32 writeSize unusedSize
      let overflow := m.capacity.ssubOverflow start || length.saddOverflow start
      if m.capacity.slt (length + start) then { memory := m, overflow }
      else if lib.memcpy_s (sizeOf32 length) (sizeOf32 length) then
        { memory :=
            { m with
              base := put m.base start.toInt (sizeOf32 length) input
              size := start + length }
          returned := length
          overflow
          touched := some (start.toInt, sizeOf32 length) }
      else { memory := m, overflow }

/-- Source: av_shared_memory_base.cpp, `AVSharedMemoryBase::Read`; `out` is whether there is a
buffer. -/
def Read (out : Bool) (readSize position : BitVec 32) : Outcome :=
  if out = false then { memory := m }
  else if readSize.sle 0 then { memory := m }
  else
    let start := if position ≠ INVALID_POSITION then min32 position m.size else 0
    let maxLength := if position ≠ INVALID_POSITION then m.size - start else m.size
    let length := min32 readSize maxLength
    let overflow := (position ≠ INVALID_POSITION && m.size.ssubOverflow start) ||
      length.saddOverflow start
    if m.capacity.slt (length + start) then { memory := m, overflow }
    else if lib.memcpy_s (sizeOf32 length) (sizeOf32 length) then
      { memory := m
        returned := length
        out := bytesAt m.base start.toInt (sizeOf32 length)
        overflow
        touched := some (start.toInt, sizeOf32 length) }
    else { memory := m, overflow }

/-- Source: av_shared_memory_base.cpp, `AVSharedMemoryBase::ClearUsedSize` -/
def ClearUsedSize : Outcome := { memory := { m with size := 0 } }

end Functions

/-! ## Sequences of calls -/

section Sequences

inductive Call
  | write (input : Option (ℕ → Byte)) (writeSize position : BitVec 32)
  | read (out : Bool) (readSize position : BitVec 32)
  | clearUsedSize

/-- The object, and the position and bytes of the last write that stored some. -/
structure State where
  memory : AVSharedMemoryBase
  stored : Option (BitVec 32 × List Byte) := none

def perform (lib : Securec) (m : AVSharedMemoryBase) : Call → Outcome
  | .write input writeSize position => Write lib m input writeSize position
  | .read out readSize position => Read lib m out readSize position
  | .clearUsedSize => ClearUsedSize m

def step (lib : Securec) (s : State) (call : Call) : State where
  memory := (perform lib s.memory call).memory
  stored :=
    match call with
    | .write (some input) writeSize position =>
      let o := Write lib s.memory (some input) writeSize position
      if o.touched.isSome then some (position, (List.range o.returned.toNat).map input)
      else s.stored
    | .write none _ _ | .read _ _ _ => s.stored
    | .clearUsedSize => none

end Sequences

/-! ## Arithmetic -/

section Arithmetic

variable {x y : BitVec 32}

/-- The smaller of two signed lengths. -/
theorem toInt_min32 : (min32 x y).toInt = min x.toInt y.toInt := by
  rw [min32, BitVec.slt_eq_decide]
  by_cases h : y.toInt < x.toInt
  · simp only [h, decide_true, if_true]
    omega
  · simp only [h, decide_false, Bool.false_eq_true, if_false]
    omega

/-- A position is cut at the end, and otherwise left as it is. -/
theorem min32_position {position bound : BitVec 32} (hposition : 0 ≤ position.toInt)
    (hbound : 0 ≤ bound.toInt) :
    0 ≤ (min32 position bound).toInt ∧ (min32 position bound).toInt ≤ bound.toInt ∧
      (position.toInt ≤ bound.toInt → min32 position bound = position) := by
  rw [toInt_min32]
  refine ⟨by omega, by omega, ?_⟩
  intro hle
  rw [← BitVec.toInt_inj, toInt_min32]
  omega

/-- A 32-bit number is within its range. -/
theorem toInt_bounds (x : BitVec 32) : -2147483648 ≤ x.toInt ∧ x.toInt < 2147483648 :=
  ⟨BitVec.le_toInt x, BitVec.toInt_lt⟩

/-- A subtraction without overflow stays within the range. -/
theorem ssubOverflow_eq_false_iff :
    x.ssubOverflow y = false ↔
      -2147483648 ≤ x.toInt - y.toInt ∧ x.toInt - y.toInt < 2147483648 := by
  simp [BitVec.ssubOverflow]
  omega

/-- An addition without overflow stays within the range. -/
theorem saddOverflow_eq_false_iff :
    x.saddOverflow y = false ↔
      -2147483648 ≤ x.toInt + y.toInt ∧ x.toInt + y.toInt < 2147483648 := by
  simp [BitVec.saddOverflow]
  omega

/-- Such a subtraction is that of the integers. -/
theorem toInt_sub_of_fits (h : x.ssubOverflow y = false) : (x - y).toInt = x.toInt - y.toInt :=
  BitVec.toInt_sub_of_not_ssubOverflow (by simp [h])

/-- Such an addition is that of the integers. -/
theorem toInt_add_of_fits (h : x.saddOverflow y = false) : (x + y).toInt = x.toInt + y.toInt :=
  BitVec.toInt_add_of_not_saddOverflow (by simp [h])

/-- A length that is not negative is the size it stands for. -/
theorem sizeOf32_of_nonneg (h : 0 ≤ x.toInt) : (sizeOf32 x : ℤ) = x.toInt := by
  have hx := toInt_bounds x
  rw [sizeOf32, ← BitVec.toInt_eq_toNat_of_msb, BitVec.toInt_signExtend_of_le (by decide)]
  rw [BitVec.msb_signExtend, BitVec.msb_eq_toInt]
  simp [h]

/-- Read without a sign it is the same. -/
theorem toNat_eq_sizeOf32 (h : 0 ≤ x.toInt) : x.toNat = sizeOf32 x := by
  have hsize := sizeOf32_of_nonneg h
  have hx : (x.toNat : ℤ) = x.toInt := by
    rw [← BitVec.toInt_eq_toNat_of_msb]
    rw [BitVec.msb_eq_toInt]
    simp [h]
  omega

end Arithmetic

/-! ## The calls -/

section Calls

variable {lib : Securec} {m : AVSharedMemoryBase} {n position : BitVec 32}

/-- The used size lies between zero and the capacity. -/
def Sized (m : AVSharedMemoryBase) : Prop := 0 ≤ m.size.toInt ∧ m.size.toInt ≤ m.capacity.toInt

/-- The invalid position is minus one. -/
@[simp] theorem toInt_invalidPosition : INVALID_POSITION.toInt = -1 := by decide

/-- No other number is the invalid position. -/
theorem eq_invalidPosition_iff : position = INVALID_POSITION ↔ position.toInt = -1 := by
  rw [← BitVec.toInt_inj, toInt_invalidPosition]

/-- A positive number is not below zero. -/
theorem sle_zero_eq_false (hn : 0 < n.toInt) : n.sle 0 = false := by
  simp [BitVec.sle, hn]

/-- Where the rest behind a start does not overflow, nothing else does, and the range that results
ends with the whole at the latest. -/
theorem fits_of_start {total start : BitVec 32} (hsub : total.ssubOverflow start = false)
    (hn : 0 < n.toInt) :
    (min32 n (total - start)).saddOverflow start = false ∧
      (min32 n (total - start)).toInt = min n.toInt (total.toInt - start.toInt) ∧
      (min32 n (total - start) + start).toInt ≤ total.toInt := by
  have htotal := toInt_bounds total
  have hbounds := toInt_bounds start
  have hlength : (min32 n (total - start)).toInt = min n.toInt (total.toInt - start.toInt) := by
    rw [toInt_min32, toInt_sub_of_fits hsub]
  have hadd : (min32 n (total - start)).saddOverflow start = false := by
    rw [saddOverflow_eq_false_iff]
    omega
  refine ⟨hadd, hlength, ?_⟩
  rw [toInt_add_of_fits hadd]
  omega

/-- What lies inside a mapping is subtracted without overflow. -/
theorem ssubOverflow_of_nonneg {total start : BitVec 32} (hstart : 0 ≤ start.toInt)
    (hle : start.toInt ≤ total.toInt) : total.ssubOverflow start = false := by
  have htotal := toInt_bounds total
  rw [ssubOverflow_eq_false_iff]
  omega

/-- The larger of two numbers is not the smaller. -/
theorem slt_eq_false {x y : BitVec 32} (h : y.toInt ≤ x.toInt) : x.slt y = false := by
  rw [BitVec.slt_eq_decide]
  simpa using h

/-- **A write** at a position that is not negative, or behind what is used. -/
theorem write_spec (lib : Securec) (hm : Sized m) (input : ℕ → Byte) (hn : 0 < n.toInt)
    (hposition : -1 ≤ position.toInt) :
    ∃ start length : BitVec 32, 0 ≤ start.toInt ∧ 0 ≤ length.toInt ∧
      start.toInt + length.toInt ≤ m.capacity.toInt ∧
      (0 ≤ position.toInt → position.toInt ≤ m.capacity.toInt → start = position) ∧
      (start + length).toInt = start.toInt + length.toInt ∧
      Write lib m (some input) n position =
        if lib.memcpy_s (sizeOf32 length) (sizeOf32 length) then
          { memory :=
              { m with
                base := put m.base start.toInt (sizeOf32 length) input
                size := start + length }
            returned := length
            touched := some (start.toInt, sizeOf32 length) }
        else { memory := m } := by
  obtain ⟨hsize, hused⟩ := hm
  obtain ⟨start, hdef⟩ : ∃ start, start =
    if position = INVALID_POSITION then m.size else min32 position m.capacity := ⟨_, rfl⟩
  have hstart : 0 ≤ start.toInt ∧ start.toInt ≤ m.capacity.toInt ∧
      (0 ≤ position.toInt → position.toInt ≤ m.capacity.toInt → start = position) := by
    have hpos := m.capacity_pos
    by_cases hinvalid : position = INVALID_POSITION
    · rw [if_pos hinvalid] at hdef
      rw [eq_invalidPosition_iff] at hinvalid
      rw [hdef]
      exact ⟨hsize, hused, by omega⟩
    · rw [if_neg hinvalid] at hdef
      rw [eq_invalidPosition_iff] at hinvalid
      have h0 : 0 ≤ position.toInt := by omega
      obtain ⟨hlow, hhigh, hsame⟩ := min32_position h0 (Int.le_of_lt hpos)
      rw [hdef]
      exact ⟨hlow, hhigh, fun _ => hsame⟩
  obtain ⟨hlow, hhigh, hsame⟩ := hstart
  have hsub := ssubOverflow_of_nonneg hlow hhigh
  obtain ⟨hadd, hlength, hend⟩ := fits_of_start hsub hn
  have hin : m.capacity.slt (min32 n (m.capacity - start) + start) = false :=
    slt_eq_false hend
  refine ⟨start, min32 n (m.capacity - start), hlow, by omega, by omega, hsame, ?_, ?_⟩
  · rw [BitVec.add_comm, toInt_add_of_fits hadd]
    omega
  · simp only [Write, sle_zero_eq_false hn, ← hdef, hsub, hadd, hin, Bool.false_eq_true, if_false,
      Bool.or_self]

/-- **A read** at a position that is not negative, or from the start. -/
theorem read_spec (lib : Securec) (hm : Sized m) (hn : 0 < n.toInt) (hposition : -1 ≤ position.toInt) :
    ∃ start length : BitVec 32, 0 ≤ start.toInt ∧ 0 ≤ length.toInt ∧
      start.toInt + length.toInt ≤ m.capacity.toInt ∧
      (0 ≤ position.toInt → position.toInt ≤ m.size.toInt →
        start = position ∧ length.toInt = min n.toInt (m.size.toInt - position.toInt)) ∧
      Read lib m true n position =
        if lib.memcpy_s (sizeOf32 length) (sizeOf32 length) then
          { memory := m
            returned := length
            out := bytesAt m.base start.toInt (sizeOf32 length)
            touched := some (start.toInt, sizeOf32 length) }
        else { memory := m } := by
  obtain ⟨hsize, hused⟩ := hm
  obtain ⟨start, hdef⟩ : ∃ start, start =
    if position ≠ INVALID_POSITION then min32 position m.size else 0 := ⟨_, rfl⟩
  have hstart : 0 ≤ start.toInt ∧ start.toInt ≤ m.size.toInt ∧
      (0 ≤ position.toInt → position.toInt ≤ m.size.toInt → start = position) := by
    by_cases hinvalid : position = INVALID_POSITION
    · rw [if_neg (by simpa using hinvalid)] at hdef
      rw [eq_invalidPosition_iff] at hinvalid
      rw [hdef]
      exact ⟨by decide, hsize, by omega⟩
    · rw [if_pos hinvalid] at hdef
      rw [eq_invalidPosition_iff] at hinvalid
      have h0 : 0 ≤ position.toInt := by omega
      obtain ⟨hlow, hhigh, hsame⟩ := min32_position h0 hsize
      rw [hdef]
      exact ⟨hlow, hhigh, fun _ => hsame⟩
  obtain ⟨hlow, hhigh, hsame⟩ := hstart
  have hsub := ssubOverflow_of_nonneg hlow hhigh
  obtain ⟨hadd, hlength, hend⟩ := fits_of_start hsub hn
  -- without a position the start is zero, and nothing is subtracted
  have hmax :
      (if position ≠ INVALID_POSITION then m.size - start else m.size) = m.size - start := by
    by_cases hinvalid : position = INVALID_POSITION
    · rw [if_neg (by simpa using hinvalid)] at hdef ⊢
      rw [hdef]
      simp
    · rw [if_pos hinvalid]
  have hin : m.capacity.slt (min32 n (m.size - start) + start) = false :=
    slt_eq_false (Int.le_trans hend hused)
  refine ⟨start, min32 n (m.size - start), hlow, by omega, by omega, ?_, ?_⟩
  · intro h0 hle
    rw [hlength, hsame h0 hle]
    exact ⟨rfl, rfl⟩
  · simp only [Read, sle_zero_eq_false hn, ← hdef, hmax, hsub, hadd, hin, Bool.false_eq_true,
      if_false, Bool.and_false, Bool.or_self, Bool.true_eq_false]

/-- The documented copy of a positive length into as much room succeeds. -/
theorem memcpy_s_of_pos (hlib : lib.Documented) (length : BitVec 32) (h : 0 < length.toInt) :
    lib.memcpy_s (sizeOf32 length) (sizeOf32 length) = true := by
  have hsize := sizeOf32_of_nonneg (Int.le_of_lt h)
  have hbounds := toInt_bounds length
  have hmax : sizeOf32 length ≤ Securec.SECUREC_MEM_MAX_LEN := by
    rw [Securec.SECUREC_MEM_MAX_LEN]
    omega
  exact hlib.memcpy_s_of_le (by omega) hmax (le_refl _)

/-- **A write below the base.** At another negative position a write overflows, or begins there. -/
theorem write_below (hlib : lib.Documented) (input : ℕ → Byte) (hn : 0 < n.toInt)
    (hposition : position.toInt < -1)
    (hfits : (Write lib m (some input) n position).overflow = false) :
    ∃ r ∈ (Write lib m (some input) n position).touched, r.1 < 0 := by
  have hpos := m.capacity_pos
  have hvalid : position ≠ INVALID_POSITION := by
    rw [ne_eq, eq_invalidPosition_iff]
    omega
  have hstart : min32 position m.capacity = position := by
    rw [← BitVec.toInt_inj, toInt_min32]
    omega
  simp only [Write, sle_zero_eq_false hn, hvalid, hstart, if_false, Bool.false_eq_true] at hfits ⊢
  by_cases hsub : m.capacity.ssubOverflow position = false
  · obtain ⟨hadd, hlength, hend⟩ := fits_of_start hsub hn
    have hcopy := memcpy_s_of_pos hlib (min32 n (m.capacity - position)) (by omega)
    rw [slt_eq_false hend, if_neg (by simp), if_pos hcopy]
    exact ⟨_, rfl, by simpa using (by omega : position.toInt < 0)⟩
  · -- the overflow is noted whatever follows
    rw [Bool.not_eq_false] at hsub
    simp only [hsub, Bool.true_or] at hfits
    split at hfits
    · cases hfits
    · split at hfits <;> cases hfits

/-- **A read below the base**, the same. -/
theorem read_below (hlib : lib.Documented) (hm : Sized m) (hn : 0 < n.toInt)
    (hposition : position.toInt < -1) (hfits : (Read lib m true n position).overflow = false) :
    ∃ r ∈ (Read lib m true n position).touched, r.1 < 0 := by
  obtain ⟨hsize, hused⟩ := hm
  have hvalid : position ≠ INVALID_POSITION := by
    rw [ne_eq, eq_invalidPosition_iff]
    omega
  have hstart : min32 position m.size = position := by
    rw [← BitVec.toInt_inj, toInt_min32]
    omega
  simp only [Read, sle_zero_eq_false hn, hvalid, hstart, if_false, Bool.false_eq_true, ne_eq,
    not_false_eq_true, if_true, decide_true, Bool.true_and, Bool.true_eq_false] at hfits ⊢
  by_cases hsub : m.size.ssubOverflow position = false
  · obtain ⟨hadd, hlength, hend⟩ := fits_of_start hsub hn
    have hcopy := memcpy_s_of_pos hlib (min32 n (m.size - position)) (by omega)
    rw [slt_eq_false (Int.le_trans hend hused), if_neg (by simp), if_pos hcopy]
    exact ⟨_, rfl, by simpa using (by omega : position.toInt < 0)⟩
  · rw [Bool.not_eq_false] at hsub
    simp only [hsub, Bool.true_or] at hfits
    split at hfits
    · cases hfits
    · split at hfits <;> cases hfits

end Calls

/-! ## Runs -/

section Runs

variable {lib : Securec} {s : State}

/-- The object as it is made. Source: av_shared_memory_base.cpp,
`AVSharedMemoryBase::AVSharedMemoryBase` -/
def create (base : ℤ → Byte) (capacity : BitVec 32) (hpos : 0 < capacity.toInt) : State where
  memory := { base, capacity, capacity_pos := hpos, size := 0 }

/-- No sum or difference of the call overflows, and what it touches lies in the mapping. -/
def Inside (lib : Securec) (s : State) (call : Call) : Prop :=
  (perform lib s.memory call).overflow = false ∧
    ∀ r ∈ (perform lib s.memory call).touched, 0 ≤ r.1 ∧ r.1 + r.2 ≤ s.memory.capacity.toInt

/-- A read at the position of the last write, which lies in the mapping, returns what that write
stored, as far as the reader asks for it. -/
def ReadsBack (lib : Securec) (s : State) (call : Call) : Prop :=
  ∀ readSize position bytes, call = .read true readSize position → 0 < readSize.toInt →
    s.stored = some (position, bytes) → 0 ≤ position.toInt →
    position.toInt ≤ s.memory.capacity.toInt →
    (perform lib s.memory call).out = bytes.take readSize.toNat ∧
      (perform lib s.memory call).returned.toNat = (bytes.take readSize.toNat).length

/-- A call that gets as far as its position does not name one below zero, but for the invalid
one. -/
def Allowed : Call → Prop
  | .write (some _) writeSize position => 0 < writeSize.toInt → -1 ≤ position.toInt
  | .read true readSize position => 0 < readSize.toInt → -1 ≤ position.toInt
  | .write none _ _ | .read false _ _ | .clearUsedSize => True

/-- The bytes of the last write are still there, and are the end of what is used. -/
def StoredInv (s : State) : Prop :=
  ∀ position bytes, s.stored = some (position, bytes) → 0 ≤ position.toInt →
    position.toInt ≤ s.memory.capacity.toInt →
    bytesAt s.memory.base position.toInt bytes.length = bytes ∧
      s.memory.size.toInt = position.toInt + bytes.length

/-- The bytes put are found where they were put. -/
theorem bytesAt_put (memory : ℤ → Byte) (start : ℤ) (length : ℕ) (input : ℕ → Byte) :
    bytesAt (put memory start length input) start length = (List.range length).map input := by
  apply List.map_congr_left
  intro i hi
  have hlt : i < length := List.mem_range.mp hi
  rw [put, if_pos (by omega)]
  congr 1
  omega

/-- A call that is not served leaves everything as it is. -/
theorem write_of_not_pos {m : AVSharedMemoryBase} (input : ℕ → Byte) {n position : BitVec 32}
    (hn : ¬ 0 < n.toInt) : Write lib m (some input) n position = { memory := m } := by
  have hsle : n.sle 0 = true := by simpa [BitVec.sle] using hn
  simp only [Write, hsle, if_true]

/-- A read of no length fails and leaves the position. -/
theorem read_of_not_pos {m : AVSharedMemoryBase} (out : Bool) {n position : BitVec 32}
    (hn : ¬ 0 < n.toInt) : Read lib m out n position = { memory := m } := by
  have hsle : n.sle 0 = true := by simpa [BitVec.sle] using hn
  simp only [Read, hsle, if_true, ite_self]

/-- A read writes nothing. -/
theorem memory_read (m : AVSharedMemoryBase) (out : Bool) (n position : BitVec 32) :
    (Read lib m out n position).memory = m := by
  simp only [Read]
  repeat' split
  all_goals rfl

/-- **A write.** It stays inside, keeps the sizes and is what is stored now. -/
theorem write_allowed (hs : Sized s.memory) (hstored : StoredInv s) (input : ℕ → Byte)
    {n position : BitVec 32} (hallowed : Allowed (.write (some input) n position)) :
    Inside lib s (.write (some input) n position) ∧
      Sized (step lib s (.write (some input) n position)).memory ∧
      StoredInv (step lib s (.write (some input) n position)) := by
  by_cases hn : 0 < n.toInt
  · obtain ⟨start, length, hstart, hlength, hend, hsame, hsum, hwrite⟩ :=
      write_spec lib hs input hn (hallowed hn)
    have hsize := sizeOf32_of_nonneg hlength
    rw [Inside, step, StoredInv]
    simp only [perform, hwrite]
    by_cases hcopy : lib.memcpy_s (sizeOf32 length) (sizeOf32 length) = true
    · simp only [hcopy, if_true]
      refine ⟨⟨trivial, ?_⟩, ⟨?_, ?_⟩, ?_⟩
      · rintro r ⟨rfl⟩
        exact ⟨hstart, by simp only [hsize]; omega⟩
      · simp only [hsum]
        omega
      · simp only [hsum]
        omega
      · rintro position' bytes ⟨rfl, rfl⟩ h0 hle
        rw [toNat_eq_sizeOf32 hlength, hsame h0 hle, List.length_map, List.length_range,
          bytesAt_put]
        refine ⟨rfl, ?_⟩
        rw [← hsame h0 hle, hsum, hsize]
    · simp only [hcopy, Bool.false_eq_true, if_false]
      exact ⟨⟨trivial, by simp⟩, hs, hstored⟩
  · rw [Inside, step, StoredInv]
    simp only [perform, write_of_not_pos input hn]
    exact ⟨⟨trivial, by simp⟩, hs, hstored⟩

/-- **A read.** It stays inside, changes nothing and returns what the last write stored. -/
theorem read_allowed (hlib : lib.Documented) (hs : Sized s.memory) (hstored : StoredInv s)
    {n position : BitVec 32} (hn : 0 < n.toInt) (hposition : -1 ≤ position.toInt) :
    Inside lib s (.read true n position) ∧ ReadsBack lib s (.read true n position) := by
  obtain ⟨start, length, hstart, hlength, hend, hsame, hread⟩ :=
    read_spec lib hs hn hposition
  have hsize := sizeOf32_of_nonneg hlength
  constructor
  · rw [Inside]
    simp only [perform, hread]
    by_cases hcopy : lib.memcpy_s (sizeOf32 length) (sizeOf32 length) = true
    · simp only [hcopy, if_true]
      refine ⟨trivial, ?_⟩
      rintro r ⟨rfl⟩
      exact ⟨hstart, by simp only [hsize]; omega⟩
    · simp only [hcopy, Bool.false_eq_true, if_false]
      exact ⟨trivial, by simp⟩
  · rintro n' position' bytes ⟨rfl, rfl⟩ - hbytes h0 hle
    obtain ⟨hcontent, hused⟩ := hstored position bytes hbytes h0 hle
    obtain ⟨hstartEq, hlengthEq⟩ := hsame h0 (by omega)
    have hn' : (n.toNat : ℤ) = n.toInt := by
      rw [toNat_eq_sizeOf32 (Int.le_of_lt hn)]
      exact sizeOf32_of_nonneg (Int.le_of_lt hn)
    have hcount : sizeOf32 length = min n.toNat bytes.length := by omega
    simp only [perform, hread]
    have htake : bytesAt s.memory.base start.toInt (sizeOf32 length) = bytes.take n.toNat := by
      rw [hcount, hstartEq]
      conv_rhs => rw [← hcontent]
      rw [bytesAt, bytesAt, ← List.map_take, List.take_range]
    by_cases hcopy : lib.memcpy_s (sizeOf32 length) (sizeOf32 length) = true
    · simp only [hcopy, if_true]
      refine ⟨htake, ?_⟩
      rw [toNat_eq_sizeOf32 hlength, List.length_take, hcount]
    · -- only an empty copy may fail
      have hzero : sizeOf32 length = 0 := by
        by_contra hne
        exact hcopy (memcpy_s_of_pos hlib length (by omega))
      have hnil : bytes.take n.toNat = [] := by
        rw [← htake, hzero]
        rfl
      simp only [hcopy, Bool.false_eq_true, if_false, hnil]
      exact ⟨trivial, rfl⟩

/-- Only a successful read has anything to bring back. -/
theorem readsBack_of_ne {call : Call} (h : ∀ n position, call ≠ .read true n position) :
    ReadsBack lib s call := by
  intro n position _ hcall
  exact absurd hcall (h n position)

/-- **One allowed call.** -/
theorem step_allowed (hlib : lib.Documented) (hs : Sized s.memory) (hstored : StoredInv s)
    {call : Call} (hallowed : Allowed call) :
    Sized (step lib s call).memory ∧ StoredInv (step lib s call) ∧ Inside lib s call ∧
      ReadsBack lib s call := by
  rcases call with ⟨_ | input, n, position⟩ | ⟨out, n, position⟩ | _
  · exact ⟨hs, hstored, ⟨rfl, by simp [perform, Write]⟩, readsBack_of_ne (by simp)⟩
  · obtain ⟨hinside, hsized, hinv⟩ := write_allowed hs hstored input hallowed
    exact ⟨hsized, hinv, hinside, readsBack_of_ne (by simp)⟩
  · have hsame : (step lib s (.read out n position)).memory = s.memory := memory_read _ _ _ _
    have hinv : StoredInv (step lib s (.read out n position)) := by
      rw [StoredInv, hsame]
      exact hstored
    refine ⟨by rw [hsame]; exact hs, hinv, ?_⟩
    by_cases hserved : out = true ∧ 0 < n.toInt
    · obtain ⟨rfl, hn⟩ := hserved
      exact read_allowed hlib hs hstored hn (hallowed hn)
    · -- the call returns at one of its first two checks
      have hread : Read lib s.memory out n position = { memory := s.memory } := by
        by_cases hn : 0 < n.toInt
        · have hout : out = false := by simpa [hn] using hserved
          rw [Read, if_pos hout]
        · exact read_of_not_pos out hn
      constructor
      · simp only [Inside, perform, hread]
        exact ⟨trivial, by simp⟩
      · rintro n' position' bytes ⟨rfl, rfl⟩ hn
        exact absurd ⟨rfl, hn⟩ hserved
  · have hzero : (0 : BitVec 32).toInt = 0 := by decide
    have hpos := s.memory.capacity_pos
    refine ⟨⟨?_, ?_⟩, ?_, ⟨rfl, by simp [perform, ClearUsedSize]⟩, readsBack_of_ne (by simp)⟩
    · simp only [step, perform, ClearUsedSize, hzero]
      omega
    · simp only [step, perform, ClearUsedSize, hzero]
      omega
    · intro _ _ h
      cases h

/-- A call that is not allowed does not stay inside. -/
theorem allowed_of_inside (hlib : lib.Documented) (hs : Sized s.memory) {call : Call}
    (hinside : Inside lib s call) : Allowed call := by
  obtain ⟨hfits, htouched⟩ := hinside
  rcases call with ⟨_ | input, n, position⟩ | ⟨_ | _, n, position⟩ | _
  · trivial
  · intro hn
    by_contra hposition
    obtain ⟨r, hr, hbelow⟩ := write_below hlib input hn (by omega) hfits
    have hin := (htouched r hr).1
    omega
  · trivial
  · intro hn
    by_contra hposition
    obtain ⟨r, hr, hbelow⟩ := read_below hlib hs hn (by omega) hfits
    have hin := (htouched r hr).1
    omega
  · trivial

/-- The used size stays within the capacity, no call overflows or leaves the mapping and reads
return what was stored, along exactly the sequences of calls that are all allowed. -/
theorem inside_iff (lib : Securec) (hlib : lib.Documented) (base : ℤ → Byte) (capacity : BitVec 32)
    (hpos : 0 < capacity.toInt) (calls : List Call) :
    (Always (step lib) (fun s => Sized s.memory) (create base capacity hpos) calls ∧
      Meets (step lib) (fun s call => Inside lib s call ∧ ReadsBack lib s call)
        (create base capacity hpos) calls) ↔
    ∀ call ∈ calls, Allowed call := by
  rw [← meets_forall_iff (step lib) (create base capacity hpos)]
  apply always_and_meets_iff_of_side (J := StoredInv)
  · intro s call hstored hs hallowed
    exact (step_allowed hlib hs hstored hallowed).2.1
  · intro s call hstored hs
    constructor
    · rintro ⟨-, hinside, -⟩
      exact allowed_of_inside hlib hs hinside
    · intro hallowed
      obtain ⟨hsized, -, hinside, hreads⟩ := step_allowed hlib hs hstored hallowed
      exact ⟨hsized, hinside, hreads⟩
  · intro _ _ h
    cases h
  · have hzero : (0 : BitVec 32).toInt = 0 := by decide
    rw [create, Sized]
    dsimp only
    omega

/-- Sixteen bytes, four of them written at position 8 and read back. -/
theorem inside_of_four :
    Always (step .strict) (fun s => Sized s.memory) (create (fun _ => 0) 16 (by decide))
        [.write (some fun i => BitVec.ofNat 8 i) 4 8, .read true 4 8] ∧
      Meets (step .strict) (fun s call => Inside .strict s call ∧ ReadsBack .strict s call)
        (create (fun _ => 0) 16 (by decide))
        [.write (some fun i => BitVec.ofNat 8 i) 4 8, .read true 4 8] := by
  rw [inside_iff .strict Securec.strict_documented]
  intro call hcall
  rcases List.mem_cons.mp hcall with rfl | hcall
  · intro _
    decide
  · rw [List.mem_singleton.mp hcall]
    intro _
    decide

/-- A write of four bytes at position -2 begins before the mapping. -/
theorem write_before_base : ¬ ∀ calls,
    Always (step .strict) (fun s => Sized s.memory) (create (fun _ => 0) 16 (by decide)) calls ∧
      Meets (step .strict) (fun s call => Inside .strict s call ∧ ReadsBack .strict s call)
        (create (fun _ => 0) 16 (by decide)) calls := by
  intro h
  obtain ⟨-, ⟨⟨-, htouched⟩, -⟩, -⟩ := h [.write (some fun _ => 1) 4 (-2)]
  have hrange := htouched (-2, 4) (by decide)
  exact absurd hrange.1 (by decide)

end Runs

end AvSession.Common
