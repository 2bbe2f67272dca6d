import Mathlib.Data.List.Basic

/-!
# Characters in a UTF-8 text

* `utf8` — the bytes of a list of characters.
* `charPositions` — the places where a byte is that does not continue a character.
* `charPositions_utf8` — these are the places where the characters begin.
* `eq_of_encode_append_eq` — the first character can be read off the bytes.
-/

namespace AvSession.Lib

open String (utf8EncodeChar)

abbrev Bytes := List UInt8

/-- The bytes of a list of characters. -/
def utf8 (x : List Char) : Bytes := x.flatMap utf8EncodeChar

/-- The byte continues a character. -/
def isContinuation (b : UInt8) : Bool := b &&& 0xC0 == 0x80

/-- The places, counted from `i`, of the bytes that continue no character. -/
def charPositionsFrom (i : ℕ) : Bytes → List ℕ
  | [] => []
  | b :: bs =>
    if isContinuation b then charPositionsFrom (i + 1) bs else i :: charPositionsFrom (i + 1) bs

def charPositions (bytes : Bytes) : List ℕ := charPositionsFrom 0 bytes

/-! ## One character -/

section Encode

variable {c c' : Char} {b : UInt8} {bs u v : Bytes}

/-- The continuation bytes by number. -/
theorem isContinuation_ofNat :
    ∀ n < 256, isContinuation (UInt8.ofNat n) = decide (128 ≤ n ∧ n < 192) := by
  decide +kernel

/-- A byte that continues a character. -/
theorem isContinuation_tail (n : ℕ) : isContinuation (UInt8.ofNat (n % 0x40 + 0x80)) = true := by
  rw [isContinuation_ofNat _ (by omega)]
  simp
  omega

/-- A byte that begins one. -/
theorem isContinuation_lead {n : ℕ} (hlow : n < 128 ∨ 192 ≤ n) (hlt : n < 256) :
    isContinuation (UInt8.ofNat n) = false := by
  rw [isContinuation_ofNat n hlt]
  simp
  omega

/-- A byte that begins a character of three bytes. -/
def isLeadOfThree (b : UInt8) : Bool := 0xE0 ≤ b && b ≤ 0xEF

/-- The leading bytes of three by number. -/
theorem isLeadOfThree_ofNat :
    ∀ n < 256, isLeadOfThree (UInt8.ofNat n) = decide (224 ≤ n ∧ n < 240) := by
  decide +kernel

/-- A byte that begins a character, and bytes that continue it. -/
theorem shape_of_lead {n : ℕ} (hlow : n < 128 ∨ 192 ≤ n) (hlt : n < 256)
    (hbs : ∀ b ∈ bs, isContinuation b = true) (hthree : (224 ≤ n ∧ n < 240) ↔ bs.length = 2) :
    ∃ b bs', UInt8.ofNat n :: bs = b :: bs' ∧ isContinuation b = false ∧
      (∀ b' ∈ bs', isContinuation b' = true) ∧ (isLeadOfThree b = true ↔ bs'.length = 2) := by
  refine ⟨_, _, rfl, isContinuation_lead hlow hlt, hbs, ?_⟩
  rw [isLeadOfThree_ofNat n hlt, decide_eq_true_eq]
  exact hthree

/-- The first byte of a character begins it, the others continue it. -/
theorem encode_eq_cons (c : Char) : ∃ b bs, utf8EncodeChar c = b :: bs ∧
    isContinuation b = false ∧ (∀ b' ∈ bs, isContinuation b' = true) ∧
    (isLeadOfThree b = true ↔ bs.length = 2) := by
  rw [utf8EncodeChar]
  -- how many bytes there are
  split_ifs with h1 h2 h3
  · apply shape_of_lead (by omega) (by omega) (List.forall_mem_nil _)
    exact iff_of_false (by omega) (by simp)
  · apply shape_of_lead (by omega) (by omega)
    · simp only [List.forall_mem_cons, isContinuation_tail, List.not_mem_nil, false_imp_iff,
        implies_true, and_self]
    · exact iff_of_false (by omega) (by simp)
  · apply shape_of_lead (by omega) (by omega)
    · simp only [List.forall_mem_cons, isContinuation_tail, List.not_mem_nil, false_imp_iff,
        implies_true, and_self]
    · exact iff_of_true (by omega) rfl
  · apply shape_of_lead (by omega) (by omega)
    · simp only [List.forall_mem_cons, isContinuation_tail, List.not_mem_nil, false_imp_iff,
        implies_true, and_self]
    · exact iff_of_false (by omega) (by simp)

/-- The first character can be read off the bytes. -/
theorem eq_of_encode_append_eq (h : utf8EncodeChar c ++ u = utf8EncodeChar c' ++ v) : c = c' := by
  have hleft := ByteArray.utf8DecodeChar?_utf8EncodeChar_append (b := u.toByteArray) (c := c)
  have hright := ByteArray.utf8DecodeChar?_utf8EncodeChar_append (b := v.toByteArray) (c := c')
  rw [← List.toByteArray_append, h, List.toByteArray_append, hright] at hleft
  exact (Option.some.inj hleft).symm

end Encode

/-! ## Texts -/

section Text

variable {x y : List Char}

/-- The empty text has no bytes. -/
@[simp] theorem utf8_nil : utf8 [] = [] := rfl

/-- A text's bytes are those of its characters in turn. -/
@[simp] theorem utf8_cons (c : Char) (x : List Char) :
    utf8 (c :: x) = utf8EncodeChar c ++ utf8 x := List.flatMap_cons

/-- The bytes of two texts follow one another. -/
@[simp] theorem utf8_append (x y : List Char) : utf8 (x ++ y) = utf8 x ++ utf8 y :=
  List.flatMap_append

/-- Two texts have different bytes. -/
theorem utf8_injective : Function.Injective utf8 := by
  intro x
  induction x with
  | nil =>
    rintro (_ | ⟨c, y⟩) h
    · rfl
    · rw [utf8_nil, utf8_cons] at h
      exact absurd (List.append_eq_nil_iff.mp h.symm).1 String.utf8EncodeChar_ne_nil
  | cons c x ih =>
    rintro (_ | ⟨c', y⟩) h
    · rw [utf8_nil, utf8_cons] at h
      exact absurd (List.append_eq_nil_iff.mp h).1 String.utf8EncodeChar_ne_nil
    · rw [utf8_cons, utf8_cons] at h
      obtain rfl := eq_of_encode_append_eq h
      rw [ih (List.append_cancel_left h)]

/-- Bytes that continue a character are passed over. -/
theorem charPositionsFrom_append {bs : Bytes} (hbs : ∀ b ∈ bs, isContinuation b = true) (i : ℕ)
    (rest : Bytes) :
    charPositionsFrom i (bs ++ rest) = charPositionsFrom (i + bs.length) rest := by
  induction bs generalizing i with
  | nil => rfl
  | cons b bs ih =>
    obtain ⟨hb, hrest⟩ := List.forall_mem_cons.mp hbs
    rw [List.cons_append, charPositionsFrom, if_pos hb, ih hrest, List.length_cons]
    congr 1
    omega

/-- The positions found are where the characters start. -/
theorem charPositionsFrom_utf8 (x : List Char) (i : ℕ) :
    charPositionsFrom i (utf8 x) =
      (List.range x.length).map fun k => i + (utf8 (x.take k)).length := by
  induction x generalizing i with
  | nil => rfl
  | cons c x ih =>
    obtain ⟨b, bs, hc, hb, hbs, -⟩ := encode_eq_cons c
    have hpass : charPositionsFrom i (utf8 (c :: x)) =
        i :: charPositionsFrom (i + (utf8EncodeChar c).length) (utf8 x) := by
      rw [utf8_cons, hc, List.cons_append, charPositionsFrom, if_neg (by simp [hb]),
        charPositionsFrom_append hbs, List.length_cons]
      congr 2
      omega
    rw [hpass, ih, List.length_cons, List.range_succ_eq_map, List.map_cons, List.map_map]
    congr 1
    apply List.map_congr_left
    intro k _
    simp only [Function.comp_apply, List.take_succ_cons, utf8_cons, List.length_append]
    omega

/-- There are as many as characters. -/
@[simp] theorem length_charPositions (x : List Char) :
    (charPositions (utf8 x)).length = x.length := by
  rw [charPositions, charPositionsFrom_utf8]
  simp

/-- The place of a character is behind the bytes of those before it. -/
theorem getD_charPositions {k : ℕ} (hk : k < x.length) :
    (charPositions (utf8 x)).getD k 0 = (utf8 (x.take k)).length := by
  rw [charPositions, charPositionsFrom_utf8]
  simp [hk]

/-- The text is cut before a character. -/
theorem take_charPositions {k : ℕ} (hk : k < x.length) :
    (utf8 x).take ((charPositions (utf8 x)).getD k 0) = utf8 (x.take k) := by
  have hsplit : utf8 x = utf8 (x.take k) ++ utf8 (x.drop k) := by
    rw [← utf8_append, List.take_append_drop]
  rw [getD_charPositions hk, hsplit, List.take_left]

/-- Cutting at a position cuts between characters. -/
theorem drop_charPositions {k : ℕ} (hk : k < x.length) :
    (utf8 x).drop ((charPositions (utf8 x)).getD k 0) = utf8 (x.drop k) := by
  have hsplit : utf8 x = utf8 (x.take k) ++ utf8 (x.drop k) := by
    rw [← utf8_append, List.take_append_drop]
  rw [getD_charPositions hk, hsplit, List.drop_left]

/-- A text has bytes. -/
theorem utf8_ne_nil (hne : x ≠ []) : utf8 x ≠ [] := by
  obtain ⟨c, rest, rfl⟩ := List.exists_cons_of_ne_nil hne
  rw [utf8_cons]
  exact List.append_ne_nil_of_left_ne_nil String.utf8EncodeChar_ne_nil _

/-- The first byte is that of the first character. -/
theorem take_one_utf8 (x : List Char) : (utf8 x).take 1 = (utf8 (x.take 1)).take 1 := by
  rcases x with _ | ⟨c, x⟩
  · rfl
  · have hpos := List.length_pos_iff.mpr (String.utf8EncodeChar_ne_nil (c := c))
    rw [utf8_cons, List.take_append_of_le_length hpos]
    simp

end Text

end AvSession.Lib
