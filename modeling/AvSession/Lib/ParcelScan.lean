import AvSession.Lib.ParcelReader

/-!
# Readers that go on after a failure

Some readers do not look at the result of a read: the value keeps its default, and the next read
starts where the failed one left the parcel. A class that cannot be read is a null pointer.

* `Scan` — programs over the records that are left, which always have a value.
* `Scans` — a scan takes exactly these records and has this value, whatever follows them.
* `nullable`, `scanParcelable` — an object behind a marker, or a null pointer.
* `scanMany` — a loop that drops the null pointers.
-/

namespace AvSession.Lib

section scans

variable {α β : Type}

/-- A program over the records that are left. -/
abbrev Scan (α : Type) := StateM (List Token) α

/-- One read, which may fail. -/
def scan (f : Token → Option α) : Scan (Option α) := fun ts => read f ts

/-- One read, the failure of which leaves the default. -/
def scanOr (f : Token → Option α) (a : α) : Scan α := fun ts =>
  ((read f ts).1.getD a, (read f ts).2)

/-- The writes of a pointer to an object: a marker, and the object unless it is null. -/
def nullable (object : Option (List Put)) : List Put :=
  match object with
  | some ps => .write (.int32 1) :: ps
  | none => [.write (.int32 0)]

/-- A pointer to an object is written. -/
def Parcel.writeParcelable (p : Parcel) (object : Option (Parcel → Parcel × Bool)) :
    Parcel × Bool :=
  match object with
  | some write =>
      let marker := p.write (.int32 1)
      if marker.2 then write marker.1 else (marker.1, false)
  | none => p.write (.int32 0)

/-- A pointer to an object is read. -/
def scanParcelable (x : Scan (Option α)) : Scan (Option α) := do
  let marker ← scanOr Token.asInt32 0
  if marker = 0 then pure none else x

/-- Read a number of objects, without those that are null. -/
def scanMany (x : Scan (Option α)) : ℕ → Scan (List α)
  | 0 => pure []
  | n + 1 => do
      let a ← x
      let as ← scanMany x n
      pure (a.toList ++ as)

/-- A scan takes these records and has this value. -/
def Scans (x : Scan α) (ts : List Token) (a : α) : Prop := ∀ rest, x (ts ++ rest) = (a, rest)

namespace Scans

variable {x : Scan α} {k : α → Scan β} {ts us : List Token} {a : α} {b : β}

/-- Returning scans nothing. -/
theorem pure (a : α) : Scans (Pure.pure a) [] a := fun _ => rfl

/-- Two scans take their tokens after one another. -/
theorem bind (hx : Scans x ts a) (hk : Scans (k a) us b) : Scans (x >>= k) (ts ++ us) b := by
  intro rest
  have hstep : (x >>= k) (ts ++ us ++ rest) =
      k (x (ts ++ us ++ rest)).1 (x (ts ++ us ++ rest)).2 := rfl
  rw [hstep, List.append_assoc, hx]
  exact hk rest

/-- A token scanned first stands before the rest. -/
theorem cons {f : Token → Option α} {k : Option α → Scan β} {t : Token} (ht : f t = some a)
    (hk : Scans (k (some a)) us b) : Scans (scan f >>= k) (t :: us) b := by
  have hread : Scans (scan f) [t] (some a) := fun rest => read_cons ht rest
  exact hread.bind hk

/-- So does one with a default. -/
theorem consOr {f : Token → Option α} {t : Token} {d : α} (ht : f t = some a)
    (hk : Scans (k a) us b) : Scans (scanOr f d >>= k) (t :: us) b := by
  have hread : Scans (scanOr f d) [t] a := by
    intro rest
    show ((read f (t :: rest)).1.getD d, (read f (t :: rest)).2) = _
    rw [read_cons ht]
    rfl
  exact hread.bind hk

/-- A pointer to an object comes back as what its class reads of it. -/
theorem parcelable {γ : Type} {x : Scan (Option α)} {puts : γ → List Put} (object : Option γ)
    (back : γ → Option α) (h : ∀ c, object = some c → Scans x (records (puts c)) (back c)) :
    Scans (scanParcelable x) (records (nullable (object.map puts))) (object.bind back) := by
  cases object with
  | none => exact Scans.consOr rfl (Scans.pure _)
  | some c => exact Scans.consOr rfl (h c rfl)

/-- A list of objects comes back without those that are read as null. -/
theorem many {γ : Type} {x : Scan (Option α)} {put : γ → List Token} {back : γ → Option α}
    (as : List γ) (h : ∀ a ∈ as, Scans x (put a) (back a)) :
    Scans (scanMany x as.length) (as.flatMap put) (as.filterMap back) := by
  induction as with
  | nil => exact Scans.pure []
  | cons a as ih =>
      have has : Scans (scanMany x as.length) (as.flatMap put) (as.filterMap back) :=
        ih fun a' ha' => h a' (List.mem_cons_of_mem a ha')
      have hcons : Scans (scanMany x as.length >>= fun as' => Pure.pure ((back a).toList ++ as'))
          (as.flatMap put ++ []) ((back a).toList ++ as.filterMap back) := has.bind (Scans.pure _)
      rw [List.append_nil] at hcons
      have hfilter : (a :: as).filterMap back = (back a).toList ++ as.filterMap back := by
        cases hback : back a <;> simp [hback]
      rw [List.flatMap_cons, hfilter]
      exact (h a List.mem_cons_self).bind hcons

end Scans

end scans

/-! ## Writers that succeed -/

section writers

variable {p : Parcel} {ps qs : List Put} {t : Token}

/-- The second script runs when the first succeeds. -/
theorem Parcel.run_append (p : Parcel) (ps qs : List Put) : p.run (ps ++ qs) =
    if (p.run ps).2 = true then (p.run ps).1.run qs else ((p.run ps).1, false) := by
  induction ps generalizing p with
  | nil => rfl
  | cons q ps ih =>
      cases q with
      | write t =>
          show (let r := p.write t; if r.2 then r.1.run (ps ++ qs) else (r.1, false)) = _
          by_cases hw : (p.write t).2 = true
          · rw [Parcel.write_of_true hw]
            simp [ih, Parcel.run, Parcel.write_of_true hw]
          · simp [hw, Parcel.run]
      | check b =>
          cases b with
          | true => exact ih p
          | false => simp [Parcel.run]

/-- A script that succeeds has pushed its records. -/
theorem Parcel.run_of_true (h : (p.run ps).2 = true) : p.run ps = (p.push (records ps), true) :=
  Prod.ext (Parcel.run_fst_of_true h) h

/-- The parts of a writer that succeeds succeed, each where the one before has left the parcel. -/
theorem Parcel.run_append_of_true (h : (p.run (ps ++ qs)).2 = true) :
    p.run ps = (p.push (records ps), true) ∧
      p.run (ps ++ qs) = (p.push (records ps)).run qs := by
  rw [Parcel.run_append] at h ⊢
  split_ifs at h ⊢ with hps
  have hrun := Parcel.run_of_true hps
  exact ⟨hrun, congrArg (·.run qs) (congrArg Prod.fst hrun)⟩

/-- A script that succeeds has pushed its first token. -/
theorem Parcel.run_write_of_true (h : (p.run (.write t :: ps)).2 = true) :
    p.write t = (p.push [t], true) ∧ p.run (.write t :: ps) = (p.push [t]).run ps := by
  by_cases hw : (p.write t).2 = true
  · have hwrite := Parcel.write_of_true hw
    refine ⟨hwrite, ?_⟩
    simp [Parcel.run, hwrite]
  · simp [Parcel.run, hw] at h

/-- A pointer is written whole if its object is. -/
theorem Parcel.writeParcelable_of_true {γ : Type} {object : Option γ} {puts : γ → List Put}
    {write : γ → Parcel → Parcel × Bool} (h : (p.run (nullable (object.map puts))).2 = true)
    (hwrite : ∀ c, object = some c → ∀ p : Parcel, (p.run (puts c)).2 = true →
      write c p = (p.push (records (puts c)), true)) :
    p.writeParcelable (object.map write) =
      (p.push (records (nullable (object.map puts))), true) := by
  cases object with
  | none =>
      obtain ⟨hmarker, -⟩ := Parcel.run_write_of_true h
      exact hmarker
  | some c =>
      obtain ⟨hmarker, hrun⟩ := Parcel.run_write_of_true h
      have hobject : ((p.push [.int32 1]).run (puts c)).2 = true :=
        (congrArg Prod.snd hrun).symm.trans h
      have hwritten := hwrite c rfl _ hobject
      rw [Parcel.push_push] at hwritten
      show (if (p.write (.int32 1)).2 = true then write c (p.write (.int32 1)).1
        else ((p.write (.int32 1)).1, false)) = _
      rw [hmarker, if_pos rfl]
      exact hwritten

end writers

end AvSession.Lib
