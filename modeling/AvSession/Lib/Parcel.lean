import Mathlib.Data.Int.Notation
import Mathlib.Data.List.Infix
import Mathlib.Algebra.Group.Nat.Defs

/-!
# Parcels

A parcel is a sequence of typed records. A reader takes them from the front in the order in which
they were written, and a record is read as the type it was written with or not at all.

* `Parcel` — the records written so far, and what the parcel still accepts: a write may fail.
* `Parcel.writeAll` — writes chained by `&&`: the first failure stops them.
* `read` — one read; if it fails, the parcel stays where it is.
* `FieldCodec` — how one field of a value travels. `readFields_writeFields` is the round trip of a
  list of fields.
-/

namespace AvSession.Lib

/-- A record of a parcel. A double is its bits; a blob is a nullable object made of bytes. -/
inductive Token
  | int32 (v : ℤ)
  | int64 (v : ℤ)
  | double (v : BitVec 64)
  | bool (v : Bool)
  | string (v : String)
  | blob (v : Option (List UInt8))
  | raw (v : List UInt8)
deriving DecidableEq

/-- A parcel that is being written. Whether a record is accepted may depend on those before. -/
structure Parcel where
  tokens : List Token
  accepts : List Token → Token → Bool

namespace Parcel

variable (p : Parcel) {ts us : List Token} {t : Token}

/-- The parcel with more records. -/
def push (ts : List Token) : Parcel := { p with tokens := p.tokens ++ ts }

/-- One write. -/
def write (t : Token) : Parcel × Bool :=
  if p.accepts p.tokens t then (p.push [t], true) else (p, false)

/-- Writes chained by `&&`. -/
def writeAll (p : Parcel) : List Token → Parcel × Bool
  | [] => (p, true)
  | t :: ts =>
      let r := p.write t
      if r.2 then r.1.writeAll ts else (r.1, false)

/-- Pushing nothing changes nothing. -/
@[simp] theorem push_nil : p.push [] = p := by
  unfold push
  rw [List.append_nil]

/-- Pushes are joined. -/
@[simp] theorem push_push (ts us : List Token) : (p.push ts).push us = p.push (ts ++ us) := by
  unfold push
  rw [List.append_assoc]

/-- Whether the parcel takes these records one after the other. -/
def acceptsAll (p : Parcel) : List Token → Bool
  | [] => true
  | t :: ts => p.accepts p.tokens t && (p.push [t]).acceptsAll ts

variable {p}

/-- A write that succeeds has pushed its token. -/
theorem write_of_true (h : (p.write t).2 = true) : p.write t = (p.push [t], true) := by
  unfold write at h ⊢
  split_ifs at h ⊢ with haccept
  rfl

/-- A write that fails leaves the parcel. -/
theorem write_of_false (h : (p.write t).2 = false) : p.write t = (p, false) := by
  unfold write at h ⊢
  split_ifs at h ⊢ with haccept
  rfl

/-- A chain of writes leaves a prefix of its records, all of them exactly if it succeeds. -/
theorem writeAll_eq (p : Parcel) (ts : List Token) :
    ∃ us, us <+: ts ∧ (p.writeAll ts).1 = p.push us ∧
      ((p.writeAll ts).2 = true ↔ us = ts) := by
  induction ts generalizing p with
  | nil => exact ⟨[], List.prefix_rfl, (push_nil p).symm, by simp [writeAll]⟩
  | cons t ts ih =>
      unfold writeAll
      cases hw : (p.write t).2 with
      | true =>
          obtain ⟨us, hpre, hparcel, hret⟩ := ih (p.push [t])
          rw [write_of_true hw]
          refine ⟨t :: us, List.cons_prefix_cons.mpr ⟨rfl, hpre⟩, ?_, ?_⟩
          · rw [if_pos rfl, hparcel, push_push]
            rfl
          · rw [if_pos rfl, hret]
            simp
      | false =>
          rw [write_of_false hw]
          exact ⟨[], List.nil_prefix, (push_nil p).symm, by simp⟩

/-- All are written when all are accepted. -/
theorem writeAll_snd (p : Parcel) (ts : List Token) : (p.writeAll ts).2 = p.acceptsAll ts := by
  induction ts generalizing p with
  | nil => rfl
  | cons t ts ih =>
      unfold writeAll acceptsAll write
      by_cases haccept : p.accepts p.tokens t = true
      · rw [if_pos haccept, if_pos rfl, haccept, Bool.true_and]
        exact ih _
      · rw [if_neg haccept, if_neg Bool.false_ne_true, Bool.eq_false_iff.mpr haccept,
          Bool.false_and]

/-- Then all of them are pushed. -/
theorem writeAll_of_true (h : (p.writeAll ts).2 = true) :
    p.writeAll ts = (p.push ts, true) := by
  obtain ⟨us, -, hparcel, hret⟩ := writeAll_eq p ts
  obtain rfl := hret.mp h
  exact Prod.ext hparcel h

end Parcel

/-! ## Reading -/

section reading

variable {α ρ : Type*}

/-- Read one record: `f` says whether it has the type that is asked for. -/
def read (f : Token → Option α) : List Token → Option α × List Token
  | [] => (none, [])
  | t :: ts =>
      match f t with
      | some a => (some a, ts)
      | none => (none, t :: ts)

/-- A token of the right kind is taken. -/
theorem read_cons {f : Token → Option α} {t : Token} {a : α} (h : f t = some a)
    (ts : List Token) : read f (t :: ts) = (some a, ts) := by
  simp only [read, h]

/-- From an empty parcel nothing is read. -/
@[simp] theorem read_nil (f : Token → Option α) : read f [] = (none, []) := rfl

/-- A token of another kind stays. -/
theorem read_of_none {f : Token → Option α} {ts : List Token}
    (h : ∀ t ∈ ts.head?, f t = none) : read f ts = (none, ts) := by
  cases ts with
  | nil => rfl
  | cons t ts => simp only [read, h t rfl]

/-- The record as an `int32_t`. -/
def Token.asInt32 : Token → Option ℤ
  | .int32 v => some v
  | _ => none

/-- The record as an `int64_t`. -/
def Token.asInt64 : Token → Option ℤ
  | .int64 v => some v
  | _ => none

/-- The record as a `double`. -/
def Token.asDouble : Token → Option (BitVec 64)
  | .double v => some v
  | _ => none

/-- The record as a `bool`. -/
def Token.asBool : Token → Option Bool
  | .bool v => some v
  | _ => none

/-- The record as a string. -/
def Token.asString : Token → Option String
  | .string v => some v
  | _ => none

/-- The record as a nullable object made of bytes. -/
def Token.asBlob : Token → Option (Option (List UInt8))
  | .blob v => some v
  | _ => none

/-- The record as raw data of a known size. -/
def Token.asRaw (size : ℤ) : Token → Option (List UInt8)
  | .raw v => if (v.length : ℤ) = size then some v else none
  | _ => none

/-- A written integer is read. -/
@[simp] theorem read_int32 (v : ℤ) (ts : List Token) :
    read Token.asInt32 (.int32 v :: ts) = (some v, ts) := rfl

/-- A written text is read. -/
@[simp] theorem read_string (v : String) (ts : List Token) :
    read Token.asString (.string v :: ts) = (some v, ts) := rfl

/-- A written block is read. -/
@[simp] theorem read_blob (v : Option (List UInt8)) (ts : List Token) :
    read Token.asBlob (.blob v :: ts) = (some v, ts) := rfl

/-- Written bytes are read when their number is asked for. -/
@[simp] theorem read_raw (v : List UInt8) (ts : List Token) :
    read (Token.asRaw v.length) (.raw v :: ts) = (some v, ts) :=
  read_cons (if_pos rfl) ts

/-- Read `n` records of one type. -/
def readMany (f : Token → Option α) : ℕ → List Token → Option (List α) × List Token
  | 0, ts => (some [], ts)
  | n + 1, ts =>
      match read f ts with
      | (some a, ts') =>
          let r := readMany f n ts'
          (r.1.map (a :: ·), r.2)
      | (none, ts') => (none, ts')

/-- A list of records of one type is read back whole. -/
theorem readMany_map {f : Token → Option α} (put : α → Token) (h : ∀ a, f (put a) = some a)
    (as : List α) (ts : List Token) :
    readMany f as.length (as.map put ++ ts) = (some as, ts) := by
  induction as with
  | nil => rfl
  | cons a as ih =>
      show readMany f (as.length + 1) (put a :: (as.map put ++ ts)) = _
      simp only [readMany, read_cons (h a), ih, Option.map_some]

/-- Fewer records than asked for, then one of another type: the read fails. -/
theorem readMany_of_short {f : Token → Option α} (put : α → Token)
    (h : ∀ a, f (put a) = some a) (as : List α) {n : ℕ} (hn : as.length < n) {ts : List Token}
    (hts : ∀ t ∈ ts.head?, f t = none) : (readMany f n (as.map put ++ ts)).1 = none := by
  induction as generalizing n with
  | nil =>
      obtain ⟨n, rfl⟩ := Nat.exists_eq_succ_of_ne_zero (Nat.ne_of_gt hn)
      show (readMany f (n + 1) ts).1 = none
      simp only [readMany, read_of_none hts]
  | cons a as ih =>
      obtain ⟨n, rfl⟩ := Nat.exists_eq_succ_of_ne_zero (Nat.ne_of_gt (Nat.zero_lt_of_lt hn))
      show (readMany f (n + 1) (put a :: (as.map put ++ ts))).1 = none
      simp only [readMany, read_cons (h a), ih (Nat.lt_of_succ_lt_succ hn), Option.map_none]

/-- How one field of a value travels: `put` writes it, `take` reads it into a value, and `copy` is
what should come of it. -/
structure FieldCodec (ρ : Type*) where
  put : ρ → Token
  take : Token → ρ → Option ρ
  copy : ρ → ρ → ρ
  take_put : ∀ r r', take (put r) r' = some (copy r r')

/-- The records of a list of fields. -/
def writeFields (fs : List (FieldCodec ρ)) (r : ρ) : List Token := fs.map fun f => f.put r

/-- Reads chained by `||` of their failures: the first failure stops them. The flag says whether all
succeeded. -/
def readFields : List (FieldCodec ρ) → ρ → List Token → (ρ × List Token) × Bool
  | [], r, ts => ((r, ts), true)
  | f :: fs, r, ts =>
      match read (fun t => f.take t r) ts with
      | (some r', ts') => readFields fs r' ts'
      | (none, ts') => ((r, ts'), false)

/-- **Round trip of a list of fields.** What was written is read back, field by field. -/
theorem readFields_writeFields (fs : List (FieldCodec ρ)) (r r' : ρ) (ts : List Token) :
    readFields fs r' (writeFields fs r ++ ts) =
      ((fs.foldl (fun acc f => f.copy r acc) r', ts), true) := by
  induction fs generalizing r' with
  | nil => rfl
  | cons f fs ih =>
      show readFields (f :: fs) r' (f.put r :: (writeFields fs r ++ ts)) = _
      unfold readFields
      rw [read_cons (f.take_put r r')]
      exact ih (f.copy r r')

/-- A read that succeeds has read a record. -/
theorem exists_of_read {f : Token → Option α} {ts ts' : List Token} {a : α}
    (h : read f ts = (some a, ts')) : ∃ t, f t = some a := by
  cases ts with
  | nil => cases h
  | cons t ts =>
      unfold read at h
      dsimp only at h
      split at h
      case h_1 b ht =>
        obtain rfl := Option.some.inj (Prod.mk.inj h).1
        exact ⟨t, ht⟩
      case h_2 => cases h

/-- What every field keeps is kept, whatever the records are. -/
theorem readFields_keeps {P : ρ → Prop} {fs : List (FieldCodec ρ)}
    (hfs : ∀ f ∈ fs, ∀ t r r', P r → f.take t r = some r' → P r') {r : ρ} (hr : P r)
    (ts : List Token) : P (readFields fs r ts).1.1 := by
  induction fs generalizing r ts with
  | nil => exact hr
  | cons f fs ih =>
      unfold readFields
      cases hread : read (fun t => f.take t r) ts with
      | mk result ts' =>
          cases result with
          | none => exact hr
          | some r' =>
              obtain ⟨t, ht⟩ := exists_of_read hread
              have hrest := fun g hg => hfs g (List.mem_cons_of_mem f hg)
              exact ih hrest (hfs f List.mem_cons_self t r r' hr ht) ts'

end reading

end AvSession.Lib
