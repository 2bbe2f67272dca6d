import AvSession.Lib.Parcel

/-!
# Typed records

A reader of fields takes the records in front that have the types it asks for, and stops at the
first that has not.

* `Token.type`, `typedFront` — the types of records, and the records in front that fit a list.
* `read_eq_some_iff`, `readMany_eq_some_iff` — what a read that succeeds has taken.
* `readFields_front` — where a list of reads stops, and whether all succeeded.
* `readFields_getElem` — a field that only one of the reads assigns has the value of its record.
-/

namespace AvSession.Lib

/-! ## Single reads -/

section reads

variable {α : Type*} {f : Token → Option α} {ts ts' : List Token} {a : α}

/-- What is read is the front token. -/
theorem read_eq_some_iff : read f ts = (some a, ts') ↔ ∃ t, ts = t :: ts' ∧ f t = some a := by
  constructor
  · intro h
    cases ts with
    | nil => cases h
    | cons t ts =>
        cases ht : f t with
        | none =>
            simp only [read, ht] at h
            cases h
        | some b =>
            rw [read_cons ht] at h
            obtain ⟨hb, rfl⟩ := Prod.mk.inj h
            exact ⟨t, rfl, ht.trans hb⟩
  · rintro ⟨t, rfl, ht⟩
    exact read_cons ht ts'

/-- Nothing is read where the front token is of another kind. -/
theorem read_eq_none_iff : read f ts = (none, ts') ↔ ts' = ts ∧ ∀ t ∈ ts.head?, f t = none := by
  constructor
  · intro h
    cases ts with
    | nil =>
        obtain ⟨-, rfl⟩ := Prod.mk.inj h
        simp
    | cons t ts =>
        cases ht : f t with
        | none =>
            simp only [read, ht] at h
            obtain ⟨-, rfl⟩ := Prod.mk.inj h
            simp [ht]
        | some b =>
            rw [read_cons ht] at h
            cases h
  · rintro ⟨rfl, h⟩
    exact read_of_none h

/-- What a read of several records that succeeds has taken. -/
theorem readMany_eq_some_iff {put : α → Token} (hput : ∀ t a, f t = some a ↔ t = put a) {n : ℕ}
    {as : List α} : readMany f n ts = (some as, ts') ↔ as.length = n ∧ ts = as.map put ++ ts' := by
  constructor
  · intro h
    induction n generalizing ts as with
    | zero =>
        obtain ⟨has, rfl⟩ := Prod.mk.inj h
        obtain rfl := Option.some.inj has
        exact ⟨rfl, rfl⟩
    | succ n ih =>
        cases hread : read f ts with
        | mk result rest =>
            simp only [readMany, hread] at h
            cases result with
            | none => cases h
            | some a =>
                obtain ⟨has, hrest⟩ := Prod.mk.inj h
                obtain ⟨as', has', rfl⟩ := Option.map_eq_some_iff.mp has
                obtain ⟨hlen, hsplit⟩ := ih (Prod.ext has' hrest)
                obtain ⟨t, rfl, ht⟩ := read_eq_some_iff.mp hread
                obtain rfl := (hput t a).mp ht
                refine ⟨congrArg (· + 1) hlen, ?_⟩
                rw [hsplit]
                rfl
  · rintro ⟨rfl, rfl⟩
    exact readMany_map put (fun a => (hput _ a).mpr rfl) as ts'

/-- Only an integer is read as one. -/
theorem asInt32_eq_some {t : Token} {v : ℤ} : t.asInt32 = some v ↔ t = .int32 v := by
  cases t <;> simp [Token.asInt32]

/-- Only a text is read as one. -/
theorem asString_eq_some {t : Token} {v : String} : t.asString = some v ↔ t = .string v := by
  cases t <;> simp [Token.asString]

/-- Only a block is read as one. -/
theorem asBlob_eq_some {t : Token} {v : Option (List UInt8)} :
    t.asBlob = some v ↔ t = .blob v := by
  cases t <;> simp [Token.asBlob]

/-- Only bytes of the right number are read as such. -/
theorem asRaw_eq_some {t : Token} {size : ℤ} {v : List UInt8} :
    t.asRaw size = some v ↔ t = .raw v ∧ (v.length : ℤ) = size := by
  cases t with
  | raw w =>
      show (if (w.length : ℤ) = size then some w else none) = some v ↔ _
      split_ifs with hsize
      · constructor
        · rintro ⟨⟩
          exact ⟨rfl, hsize⟩
        · rintro ⟨⟨⟩, -⟩
          rfl
      · constructor
        · rintro ⟨⟩
        · rintro ⟨⟨⟩, hlen⟩
          exact absurd hlen hsize
  | _ => simp [Token.asRaw]

end reads

/-! ## Lists of fields -/

section fields

/-- The type of a record. -/
inductive TokenType
  | int32
  | int64
  | double
  | bool
  | string
  | blob
  | raw
deriving DecidableEq

/-- The type that a record was written with. -/
def Token.type : Token → TokenType
  | .int32 _ => .int32
  | .int64 _ => .int64
  | .double _ => .double
  | .bool _ => .bool
  | .string _ => .string
  | .blob _ => .blob
  | .raw _ => .raw

/-- The records in front that have the types of the list. -/
def typedFront : List TokenType → List Token → List Token
  | τ :: τs, t :: ts => if t.type = τ then t :: typedFront τs ts else []
  | _, _ => []

/-- The number in a record. -/
def Token.int32Value (t : Token) : ℤ := t.asInt32.getD 0

variable {ρ β : Type*} {fs gs : List (FieldCodec ρ)} {f : FieldCodec ρ} {τ : TokenType}
  {τs : List TokenType} {t : Token} {ts us rest : List Token} {r : ρ} {π : ρ → β}

/-- An empty parcel has no typed front. -/
@[simp] theorem typedFront_nil : typedFront τs [] = [] := by
  cases τs <;> rfl

/-- A token of the right type belongs to the front. -/
theorem typedFront_cons_of_eq (h : t.type = τ) :
    typedFront (τ :: τs) (t :: ts) = t :: typedFront τs ts := if_pos h

/-- A token of another type ends it. -/
theorem typedFront_cons_of_ne (h : t.type ≠ τ) : typedFront (τ :: τs) (t :: ts) = [] := if_neg h

/-- Records of these types are the front, whatever follows them. -/
theorem typedFront_append (h : us.map Token.type = τs) : typedFront τs (us ++ rest) = us := by
  induction us generalizing τs with
  | nil =>
      subst h
      cases rest <;> rfl
  | cons u us ih =>
      subst h
      exact (typedFront_cons_of_eq rfl).trans (congrArg _ (ih rfl))

/-- The front is a front. -/
theorem typedFront_append_drop (τs : List TokenType) (ts : List Token) :
    typedFront τs ts ++ ts.drop (typedFront τs ts).length = ts := by
  induction τs generalizing ts with
  | nil => rfl
  | cons τ τs ih =>
      cases ts with
      | nil => rfl
      | cons t ts =>
          by_cases ht : t.type = τ
          · rw [typedFront_cons_of_eq ht]
            exact congrArg (t :: ·) (ih ts)
          · rw [typedFront_cons_of_ne ht]
            rfl

/-- A full front has the types asked for. -/
theorem typedFront_type (h : (typedFront τs ts).length = τs.length) :
    (typedFront τs ts).map Token.type = τs := by
  induction τs generalizing ts with
  | nil => rfl
  | cons τ τs ih =>
      cases ts with
      | nil => cases h
      | cons t ts =>
          by_cases ht : t.type = τ
          · rw [typedFront_cons_of_eq ht] at h ⊢
            rw [List.map_cons, ht, ih (Nat.succ.inj h)]
          · rw [typedFront_cons_of_ne ht] at h
            cases h

/-- A field takes the records of one type, whatever has been read before. -/
def FieldCodec.Takes (f : FieldCodec ρ) (τ : TokenType) : Prop :=
  ∀ t r, (f.take t r).isSome = true ↔ t.type = τ

/-- A field that is a record of its type, put into the value. -/
theorem FieldCodec.Takes.of_map {γ : Type*} {as : Token → Option γ} {put : ρ → γ → ρ}
    (has : ∀ t, (as t).isSome = true ↔ t.type = τ)
    (h : ∀ t r, f.take t r = (as t).map (put r)) : f.Takes τ := by
  intro t r
  rw [h, Option.isSome_map]
  exact has t

/-- A token is read as an integer by its type. -/
theorem isSome_asInt32 (t : Token) : t.asInt32.isSome = true ↔ t.type = .int32 := by
  cases t <;> simp [Token.asInt32, Token.type]

/-- A token is read as a long integer by its type. -/
theorem isSome_asInt64 (t : Token) : t.asInt64.isSome = true ↔ t.type = .int64 := by
  cases t <;> simp [Token.asInt64, Token.type]

/-- A token is read as a double by its type. -/
theorem isSome_asDouble (t : Token) : t.asDouble.isSome = true ↔ t.type = .double := by
  cases t <;> simp [Token.asDouble, Token.type]

/-- A token is read as a text by its type. -/
theorem isSome_asString (t : Token) : t.asString.isSome = true ↔ t.type = .string := by
  cases t <;> simp [Token.asString, Token.type]

/-- A token is read as a block by its type. -/
theorem isSome_asBlob (t : Token) : t.asBlob.isSome = true ↔ t.type = .blob := by
  cases t <;> simp [Token.asBlob, Token.type]

/-- A field refuses a token of another type. -/
theorem FieldCodec.Takes.take_eq_none (h : f.Takes τ) (ht : t.type ≠ τ) : f.take t r = none := by
  have hnot := mt (h t r).mp ht
  simpa using hnot

/-- **Where the reads stop.** They take the records in front that fit, and all succeed if there is
one for each field. -/
theorem readFields_front (hfs : List.Forall₂ FieldCodec.Takes fs τs) (r : ρ) (ts : List Token) :
    (readFields fs r ts).1.2 = ts.drop (typedFront τs ts).length ∧
      ((readFields fs r ts).2 = true ↔ (typedFront τs ts).length = τs.length) := by
  induction hfs generalizing r ts with
  | nil => exact ⟨rfl, iff_of_true rfl rfl⟩
  | @cons f τ fs τs hf _ ih =>
      cases ts with
      | nil => exact ⟨rfl, iff_of_false Bool.false_ne_true (by simp)⟩
      | cons t ts =>
          unfold readFields
          by_cases ht : t.type = τ
          · obtain ⟨r', hr'⟩ := Option.isSome_iff_exists.mp ((hf t r).mpr ht)
            rw [typedFront_cons_of_eq ht, read_cons hr']
            simpa using ih r' ts
          · rw [typedFront_cons_of_ne ht, read_of_none]
            · simp
            · intro u hu
              obtain rfl := Option.some.inj hu
              exact hf.take_eq_none ht

/-- What every field keeps, a list of reads keeps. -/
theorem readFields_eq_of_keeps
    (hkeeps : ∀ g ∈ fs, ∀ t r r', g.take t r = some r' → π r' = π r) :
    π (readFields fs r ts).1.1 = π r :=
  readFields_keeps (P := fun r' => π r' = π r)
    (fun g hg t r₁ r₂ h₁ h₂ => (hkeeps g hg t r₁ r₂ h₂).trans h₁) rfl ts

/-- A part of the value that one field alone assigns is what is in its record, or what it was if
the reads have stopped before. -/
theorem readFields_getElem (value : Token → β) (r : ρ) (ts : List Token)
    (hfs : List.Forall₂ FieldCodec.Takes (fs ++ f :: gs) τs)
    (hbefore : ∀ g ∈ fs, ∀ t r r', g.take t r = some r' → π r' = π r)
    (hf : ∀ t r r', f.take t r = some r' → π r' = value t)
    (hafter : ∀ g ∈ gs, ∀ t r r', g.take t r = some r' → π r' = π r) :
    π (readFields (fs ++ f :: gs) r ts).1.1 =
      (((typedFront τs ts)[fs.length]?).map value).getD (π r) := by
  induction fs generalizing r ts τs with
  | nil =>
      obtain - | ⟨hτ, hτs⟩ := hfs
      rename_i τ τs
      cases ts with
      | nil => rfl
      | cons t ts =>
          show π (readFields (f :: gs) r (t :: ts)).1.1 = _
          unfold readFields
          by_cases ht : t.type = τ
          · obtain ⟨r', hr'⟩ := Option.isSome_iff_exists.mp ((hτ t r).mpr ht)
            rw [typedFront_cons_of_eq ht, read_cons hr']
            exact (readFields_eq_of_keeps hafter).trans (hf t r r' hr')
          · rw [typedFront_cons_of_ne ht, read_of_none]
            · rfl
            · intro u hu
              obtain rfl := Option.some.inj hu
              exact hτ.take_eq_none ht
  | cons g fs ih =>
      obtain - | ⟨hτ, hτs⟩ := hfs
      rename_i τ τs
      cases ts with
      | nil => rfl
      | cons t ts =>
          show π (readFields (g :: (fs ++ f :: gs)) r (t :: ts)).1.1 = _
          unfold readFields
          by_cases ht : t.type = τ
          · obtain ⟨r', hr'⟩ := Option.isSome_iff_exists.mp ((hτ t r).mpr ht)
            have hfirst := hbefore g List.mem_cons_self t r r' hr'
            rw [typedFront_cons_of_eq ht, read_cons hr', ← hfirst]
            exact ih _ _ hτs fun g' hg' => hbefore g' (List.mem_cons_of_mem g hg')
          · rw [typedFront_cons_of_ne ht, read_of_none]
            · rfl
            · intro u hu
              obtain rfl := Option.some.inj hu
              exact hτ.take_eq_none ht

end fields

end AvSession.Lib
