import AvSession.Lib.Parcel

/-!
# Writers and readers of parcels

A writer is a list of records and of checks, the first failure of which ends it. A reader takes
records from the front of a parcel, or fails.

* `Put`, `Parcel.run` — writers; `run_fst_of_true` is what a writer that succeeds leaves.
* `Reader` — readers, as programs over the records that are left.
* `Reads` — a reader takes these records and has this value. One rule for each way of putting
  readers together.
* `Answers` — a reader has this value of these records, or refuses them, with the same rules.
* `Yields` — what holds of every value that a reader accepts, with the same rules.
* `readList` — a list behind its length, of which only some lengths are accepted.
-/

namespace AvSession.Lib

/-! ## Writers -/

section writers

/-- One step of a writer: a record is written, or something is checked. -/
inductive Put
  | write (t : Token)
  | check (b : Bool)

/-- The records of a writer. -/
def records : List Put → List Token
  | [] => []
  | .write t :: ps => t :: records ps
  | .check _ :: ps => records ps

/-- The steps of a writer one after the other. The first failure stops them. -/
def Parcel.run (p : Parcel) : List Put → Parcel × Bool
  | [] => (p, true)
  | .write t :: ps =>
      let r := p.write t
      if r.2 then r.1.run ps else (r.1, false)
  | .check b :: ps => if b then p.run ps else (p, false)

/-- The records of two scripts follow one another. -/
theorem records_append (ps qs : List Put) : records (ps ++ qs) = records ps ++ records qs := by
  induction ps with
  | nil => rfl
  | cons q ps ih =>
      cases q with
      | write t => exact congrArg (t :: ·) ih
      | check b => exact ih

/-- A script of writes records its tokens. -/
theorem records_map_write (ts : List Token) : records (ts.map .write) = ts := by
  induction ts with
  | nil => rfl
  | cons t ts ih => exact congrArg (t :: ·) ih

/-- The records of a loop are those of its turns. -/
theorem records_flatMap {α : Type*} (puts : α → List Put) (as : List α) :
    records (as.flatMap puts) = as.flatMap fun a => records (puts a) := by
  induction as with
  | nil => rfl
  | cons a as ih => rw [List.flatMap_cons, List.flatMap_cons, records_append, ih]

/-- A writer that succeeds leaves all its records. -/
theorem Parcel.run_fst_of_true {p : Parcel} {ps : List Put} (h : (p.run ps).2 = true) :
    (p.run ps).1 = p.push (records ps) := by
  induction ps generalizing p with
  | nil => exact (Parcel.push_nil p).symm
  | cons q ps ih =>
      cases q with
      | write t =>
          unfold Parcel.run at h ⊢
          cases hw : (p.write t).2 with
          | true =>
              rw [Parcel.write_of_true hw] at h ⊢
              rw [if_pos rfl] at h
              rw [if_pos rfl, ih h, Parcel.push_push]
              rfl
          | false =>
              rw [Parcel.write_of_false hw, if_neg Bool.false_ne_true] at h
              cases h
      | check b =>
          unfold Parcel.run at h ⊢
          cases b with
          | true => exact ih h
          | false => cases h

/-- What a writer leaves behind what was in the parcel. -/
def Parcel.written (p : Parcel) (ps : List Put) : List Token :=
  (p.run ps).1.tokens.drop p.tokens.length

/-- A script that succeeds has written all its records. -/
theorem Parcel.written_eq {p : Parcel} {ps : List Put} (h : (p.run ps).2 = true) :
    p.written ps = records ps := by
  unfold Parcel.written
  rw [Parcel.run_fst_of_true h]
  exact List.drop_left

/-- The checks of a writer that succeeds have been passed. -/
theorem Parcel.check_of_run {p : Parcel} {ps : List Put} (h : (p.run ps).2 = true) {b : Bool}
    (hb : .check b ∈ ps) : b = true := by
  induction ps generalizing p with
  | nil => exact absurd hb List.not_mem_nil
  | cons q ps ih =>
      cases q with
      | write t =>
          unfold Parcel.run at h
          cases hw : (p.write t).2 with
          | true =>
              rw [Parcel.write_of_true hw, if_pos rfl] at h
              exact ih h ((List.mem_cons.mp hb).resolve_left Put.noConfusion)
          | false =>
              rw [Parcel.write_of_false hw, if_neg Bool.false_ne_true] at h
              cases h
      | check c =>
          unfold Parcel.run at h
          cases c with
          | true =>
              rcases List.mem_cons.mp hb with heq | hmem
              · exact Put.check.inj heq
              · exact ih h hmem
          | false => cases h

end writers

/-! ## Readers -/

section readers

variable {α β : Type}

/-- A program over the records that are left. -/
abbrev Reader (α : Type) := StateT (List Token) Option α

/-- Take a record of some type. -/
def take (f : Token → Option α) : Reader α
  | [] => none
  | t :: ts => (f t).map (·, ts)

/-- Go on only under a condition. -/
def check (b : Bool) : Reader Unit := fun ts => if b then some ((), ts) else none

/-- Take a record of some type, or go on with another value. -/
def takeOr (f : Token → Option α) (a : α) : Reader α := fun ts =>
  some ((read f ts).1.getD a, (read f ts).2)

/-- A value that may be missing. -/
def ofOption (o : Option α) : Reader α := fun ts => o.map (·, ts)

/-- Read a number of values. -/
def takeMany (x : Reader α) : ℕ → Reader (List α)
  | 0 => pure []
  | n + 1 => do
      let a ← x
      let as ← takeMany x n
      pure (a :: as)

/-- A list behind its length. -/
def readList (legal : ℤ → Bool) (x : Reader α) : Reader (List α) := do
  let len ← take Token.asInt32
  check (legal len)
  takeMany x len.toNat

/-- The record as a `uint32_t`. -/
def Token.asUint32 : Token → Option (BitVec 32)
  | .int32 v => some (BitVec.ofInt 32 v)
  | _ => none

/-- The record as a `uint64_t`. -/
def Token.asUint64 : Token → Option (BitVec 64)
  | .int64 v => some (BitVec.ofInt 64 v)
  | _ => none

/-- The record of a `uint32_t`. -/
def uint32 (v : BitVec 32) : Token := .int32 v.toInt

/-- The record of a `uint64_t`. -/
def uint64 (v : BitVec 64) : Token := .int64 v.toInt

/-- `static_cast<int32_t>` of a size. -/
def toInt32 (n : ℕ) : ℤ := (BitVec.ofNat 32 n).toInt

/-- A 32-bit value is read back. -/
theorem asUint32_uint32 (v : BitVec 32) : Token.asUint32 (uint32 v) = some v :=
  congrArg some (BitVec.ofInt_toInt)

/-- A 64-bit value is read back. -/
theorem asUint64_uint64 (v : BitVec 64) : Token.asUint64 (uint64 v) = some v :=
  congrArg some (BitVec.ofInt_toInt)

/-- A number below 2 ^ 31 survives the cut to 32 bits. -/
theorem toInt32_of_lt {n : ℕ} (h : n < 2 ^ 31) : toInt32 n = n := by
  unfold toInt32
  rw [BitVec.toInt_eq_toNat_of_lt, BitVec.toNat_ofNat]
  · omega
  · rw [BitVec.toNat_ofNat]
    omega

/-- A reader takes these records and has this value. -/
def Reads (x : Reader α) (ts : List Token) (a : α) : Prop :=
  ∀ rest, x (ts ++ rest) = some (a, rest)

namespace Reads

variable {x : Reader α} {k : α → Reader β} {ts us : List Token} {a : α} {b : β}

/-- Returning reads nothing. -/
theorem pure (a : α) : Reads (Pure.pure a) [] a := fun _ => rfl

/-- Two readers read their tokens after one another. -/
theorem bind (hx : Reads x ts a) (hk : Reads (k a) us b) : Reads (x >>= k) (ts ++ us) b := by
  intro rest
  show (x (ts ++ us ++ rest)).bind (fun r => k r.1 r.2) = _
  rw [List.append_assoc, hx, Option.bind_some]
  exact hk rest

/-- A reader of one token reads that token. -/
theorem take {f : Token → Option α} {t : Token} (ht : f t = some a) :
    Reads (Lib.take f) [t] a := by
  intro rest
  show (f t).map (·, rest) = _
  rw [ht, Option.map_some]

/-- A token read first stands before the rest. -/
theorem cons {f : Token → Option α} {t : Token} (ht : f t = some a) (hk : Reads (k a) us b) :
    Reads (Lib.take f >>= k) (t :: us) b :=
  (Reads.take ht).bind hk

/-- A reader with a default reads the token when it is there. -/
theorem takeOr {f : Token → Option α} {t : Token} (ht : f t = some a) (d : α) :
    Reads (Lib.takeOr f d) [t] a := by
  intro rest
  show some ((read f (t :: rest)).1.getD d, (read f (t :: rest)).2) = _
  rw [read_cons ht]
  rfl

/-- A check that holds reads nothing. -/
theorem check {c : Bool} {y : Unit → Reader β} (hc : c = true) (hy : Reads (y ()) us b) :
    Reads (Lib.check c >>= y) us b := by
  subst hc
  exact hy

/-- A counted loop reads what the writer's loop has written. -/
theorem takeMany {put : α → List Token} {as : List α} (h : ∀ a ∈ as, Reads x (put a) a) :
    Reads (Lib.takeMany x as.length) (as.flatMap put) as := by
  induction as with
  | nil => exact Reads.pure []
  | cons a as ih =>
      have has : Reads (Lib.takeMany x as.length) (as.flatMap put) as :=
        ih fun a' ha' => h a' (List.mem_cons_of_mem a ha')
      have hcons : Reads (Lib.takeMany x as.length >>= fun as' => Pure.pure (a :: as'))
          (as.flatMap put ++ []) (a :: as) := has.bind (Reads.pure _)
      rw [List.append_nil] at hcons
      rw [List.flatMap_cons]
      exact (h a List.mem_cons_self).bind hcons

/-- A list of an accepted length is read back. -/
theorem readList {legal : ℤ → Bool} {put : α → List Token} {as : List α}
    (hlen : as.length < 2 ^ 31) (hlegal : legal as.length = true)
    (h : ∀ a ∈ as, Reads x (put a) a) :
    Reads (Lib.readList legal x) (.int32 (toInt32 as.length) :: as.flatMap put) as := by
  rw [toInt32_of_lt hlen]
  refine Reads.cons rfl (Reads.check hlegal ?_)
  rw [Int.toNat_natCast]
  exact Reads.takeMany h

end Reads

/-- A reader has this value of these records, or refuses them. -/
def Answers (x : Reader α) (ts : List Token) (o : Option α) : Prop :=
  ∀ rest, x (ts ++ rest) = o.map (·, rest)

namespace Answers

variable {x : Reader α} {k : α → Reader β} {ts us : List Token} {a : α} {o : Option β}

/-- A reader that reads a value answers with it. -/
theorem of_reads (h : Reads x ts a) : Answers x ts (some a) := h

/-- An answer may come after what has been read. -/
theorem bind (hx : Reads x ts a) (hk : Answers (k a) us o) : Answers (x >>= k) (ts ++ us) o := by
  intro rest
  show (x (ts ++ us ++ rest)).bind (fun r => k r.1 r.2) = _
  rw [List.append_assoc, hx, Option.bind_some]
  exact hk rest

/-- An answer may come after a token. -/
theorem cons {f : Token → Option α} {t : Token} (ht : f t = some a) (hk : Answers (k a) us o) :
    Answers (Lib.take f >>= k) (t :: us) o :=
  Answers.bind (Reads.take ht) hk

/-- A computed option is answered as it is. -/
theorem ofOption (o : Option α) : Answers (Lib.ofOption o) [] o := fun _ => rfl

/-- A check that holds leaves the answer. -/
theorem pass {c : Bool} {y : Unit → Reader β} (hc : c = true) (hy : Answers (y ()) us o) :
    Answers (Lib.check c >>= y) us o := by
  subst hc
  exact hy

/-- A check that may fail. -/
theorem check {c : Bool} {y : Unit → Reader β} (hy : Answers (y ()) us o) :
    Answers (Lib.check c >>= y) us (if c then o else none) := by
  intro rest
  cases c with
  | true => exact hy rest
  | false => rfl

end Answers

/-- A value that was written is read back as the same exactly under a condition. -/
def RoundTrips (p : Parcel) (ps : List Put) (x : Reader α) (accepted : Prop) (same : α → Prop) :
    Prop :=
  (accepted → ∃ a, Answers x (p.written ps) (some a) ∧ same a) ∧
    (¬ accepted → Answers x (p.written ps) none)

/-- A written parcel goes round when the reader's answer is the value wherever it is accepted. -/
theorem RoundTrips.of_answers {p : Parcel} {ps : List Put} {x : Reader α} {o : Option α}
    {accepted : Prop} {same : α → Prop} (hwritten : (p.run ps).2 = true)
    (hanswers : Answers x (records ps) o) (haccepted : accepted ↔ o.isSome = true)
    (hsame : ∀ a, o = some a → same a) : RoundTrips p ps x accepted same := by
  rw [← Parcel.written_eq hwritten] at hanswers
  constructor
  · intro h
    obtain ⟨a, rfl⟩ := Option.isSome_iff_exists.mp (haccepted.mp h)
    exact ⟨a, hanswers, hsame a rfl⟩
  · intro h
    obtain rfl : o = none := by
      simpa using mt haccepted.mpr h
    exact hanswers

/-- What holds of every value that is accepted. -/
def Yields (x : Reader α) (P : α → Prop) : Prop :=
  ∀ ts a ts', x ts = some (a, ts') → P a

namespace Yields

variable {x : Reader α} {k : α → Reader β} {P : α → Prop} {Q : β → Prop}

/-- What is returned has the property. -/
theorem pure {a : α} (h : P a) : Yields (Pure.pure a) P := by
  intro ts b ts' hb
  obtain ⟨rfl, -⟩ := Prod.mk.inj (Option.some.inj hb)
  exact h

/-- A property of the first value may be used for the second. -/
theorem bind (hx : Yields x P) (hk : ∀ a, P a → Yields (k a) Q) : Yields (x >>= k) Q := by
  intro ts b ts' hb
  obtain ⟨⟨a, us⟩, ha, hrest⟩ := Option.bind_eq_some_iff.mp hb
  exact hk a (hx ts a us ha) us b ts' hrest

/-- A value about which nothing is to be said. -/
theorem skip (hk : ∀ a, Yields (k a) Q) : Yields (x >>= k) Q :=
  bind (P := fun _ => True) (fun _ _ _ _ => trivial) fun a _ => hk a

/-- Behind a check its condition holds. -/
theorem check {c : Bool} {y : Unit → Reader β} (hy : c = true → Yields (y ()) Q) :
    Yields (Lib.check c >>= y) Q := by
  cases c with
  | true => exact hy rfl
  | false =>
      intro ts b ts' hb
      cases hb

/-- A property may be weakened. -/
theorem mono {P' : α → Prop} (h : Yields x P) (hP : ∀ a, P a → P' a) : Yields x P' :=
  fun ts a ts' ha => hP a (h ts a ts' ha)

/-- A counted loop yields as many values, each with the property. -/
theorem takeMany (h : Yields x P) (n : ℕ) :
    Yields (Lib.takeMany x n) fun as => as.length = n ∧ ∀ a ∈ as, P a := by
  induction n with
  | zero => exact pure ⟨rfl, fun a ha => absurd ha List.not_mem_nil⟩
  | succ n ih =>
      refine bind h fun a ha => bind ih fun as has => pure ⟨congrArg (· + 1) has.1, ?_⟩
      exact List.forall_mem_cons.mpr ⟨ha, has.2⟩

/-- The length of a list that is accepted is an accepted one. -/
theorem readList {legal : ℤ → Bool} (hlegal : ∀ n, legal n = true → 0 ≤ n) (h : Yields x P) :
    Yields (Lib.readList legal x) fun as => legal as.length = true ∧ ∀ a ∈ as, P a := by
  refine skip fun len => check fun hlen => (takeMany h len.toNat).mono ?_
  rintro as ⟨hlength, has⟩
  rw [hlength, Int.toNat_of_nonneg (hlegal len hlen)]
  exact ⟨hlen, has⟩

end Yields

end readers

end AvSession.Lib
