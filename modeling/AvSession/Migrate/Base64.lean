import Mathlib.Algebra.Order.Floor.Div
import Mathlib.Data.List.Basic
import Mathlib.Tactic.IntervalCases

/-!
# Base64

The loops of `Base64Utils`. The encoder collects three bytes and writes four characters, the decoder
collects four characters and writes three bytes; what is left over at the end is filled up with
zeros and cut again.

* `base64Encode`, `base64Decode` — the two loops.
* `base64Decode_base64Encode` — decoding what was encoded gives the bytes back.
* `decodeChars_eq_foldl` — what the decoder takes up of a text.
* `base64_laws` — the round trips, the length, and characters that are inserted.
-/

namespace AvSession.Migrate

/-! ## The loops -/

section loops

/-- Source: base64_utils.h, `Base64Utils::kBase64Chars` -/
def kBase64Chars : List Char :=
  "ABCDEFGHIJKLMNOPQRSTUVWXYZabcdefghijklmnopqrstuvwxyz0123456789+/".toList

/-- The character of six bits. -/
def base64Char (v : UInt8) : Char := kBase64Chars.getD v.toNat '='

/-- Three bytes as four times six bits. -/
def sextets (b0 b1 b2 : UInt8) : List UInt8 :=
  [(b0 &&& 0xfc) >>> 2,
    ((b0 &&& 0x03) <<< 4) ||| ((b1 &&& 0xf0) >>> 4),
    ((b1 &&& 0x0f) <<< 2) ||| ((b2 &&& 0xc0) >>> 6),
    b2 &&& 0x3f]

/-- Four times six bits as three bytes. -/
def octets (c0 c1 c2 c3 : UInt8) : List UInt8 :=
  [(c0 <<< 2) ||| ((c1 &&& 0x30) >>> 4),
    ((c1 &&& 0x0f) <<< 4) ||| ((c2 &&& 0x3c) >>> 2),
    ((c2 &&& 0x03) <<< 6) ||| c3]

/-- The text so far, and the bytes collected, with one more byte. -/
def encodeByte (acc : List Char × List UInt8) (byte : UInt8) : List Char × List UInt8 :=
  match acc.2 ++ [byte] with
  | [b0, b1, b2] => (acc.1 ++ (sextets b0 b1 b2).map base64Char, [])
  | byte3 => (acc.1, byte3)

/-- What is written for one or two bytes that are left over. -/
def encodeRest (byte3 : List UInt8) : List Char :=
  if byte3 = [] then []
  else
    ((sextets (byte3.getD 0 0) (byte3.getD 1 0) (byte3.getD 2 0)).take (byte3.length + 1)).map
      base64Char ++ List.replicate (3 - byte3.length) '='

/-- Source: base64_utils.h, `Base64Utils::Base64Encode` -/
def base64Encode (data : List UInt8) : String :=
  let acc := data.foldl encodeByte ([], [])
  String.ofList (acc.1 ++ encodeRest acc.2)

/-- The bytes so far, and the sextets collected, with one more sextet. -/
def decodeSextet (acc : List UInt8 × List UInt8) (v : UInt8) : List UInt8 × List UInt8 :=
  match acc.2 ++ [v] with
  | [c0, c1, c2, c3] => (acc.1 ++ octets c0 c1 c2 c3, [])
  | byte4 => (acc.1, byte4)

/-- The loop ends at a `=`, and skips a character that is not one of Base64. -/
def decodeChars : List Char → List UInt8 × List UInt8 → List UInt8 × List UInt8
  | [], acc => acc
  | c :: cs, acc =>
      if c = '=' then acc
      else
        match kBase64Chars.idxOf? c with
        | none => decodeChars cs acc
        | some pos => decodeChars cs (decodeSextet acc (UInt8.ofNat pos))

/-- What is read from up to three sextets that are left over. -/
def decodeRest (byte4 : List UInt8) : List UInt8 :=
  if byte4 = [] then []
  else
    (octets (byte4.getD 0 0) (byte4.getD 1 0) (byte4.getD 2 0) (byte4.getD 3 0)).take
      (byte4.length - 1)

/-- Source: base64_utils.h, `Base64Utils::Base64Decode` -/
def base64Decode (encoded : String) : List UInt8 :=
  let acc := decodeChars encoded.toList ([], [])
  acc.1 ++ decodeRest acc.2

end loops

/-! ## Sextets -/

section sextets

/-- Two bytes with the same bits. -/
theorem eq_of_bits {a b : UInt8}
    (h : ∀ i < 8, a.toBitVec.getLsbD i = b.toBitVec.getLsbD i) : a = b :=
  UInt8.toBitVec_inj.mp (BitVec.eq_of_getLsbD_eq h)

/-- The first octet comes back from its two sextets. -/
theorem octet_first (b0 b1 : UInt8) :
    (((b0 &&& 0xfc) >>> 2) <<< 2) |||
      (((((b0 &&& 0x03) <<< 4) ||| ((b1 &&& 0xf0) >>> 4)) &&& 0x30) >>> 4) = b0 := by
  apply eq_of_bits
  intro i hi
  interval_cases i <;> simp

/-- The second octet comes back from its two sextets. -/
theorem octet_second (b0 b1 b2 : UInt8) :
    (((((b0 &&& 0x03) <<< 4) ||| ((b1 &&& 0xf0) >>> 4)) &&& 0x0f) <<< 4) |||
      (((((b1 &&& 0x0f) <<< 2) ||| ((b2 &&& 0xc0) >>> 6)) &&& 0x3c) >>> 2) = b1 := by
  apply eq_of_bits
  intro i hi
  interval_cases i <;> simp

/-- The third octet comes back from its two sextets. -/
theorem octet_third (b1 b2 : UInt8) :
    (((((b1 &&& 0x0f) <<< 2) ||| ((b2 &&& 0xc0) >>> 6)) &&& 0x03) <<< 6) ||| (b2 &&& 0x3f) =
      b2 := by
  apply eq_of_bits
  intro i hi
  interval_cases i <;> simp

/-- No bit is lost. -/
theorem octets_sextets (b0 b1 b2 : UInt8) :
    octets ((b0 &&& 0xfc) >>> 2) (((b0 &&& 0x03) <<< 4) ||| ((b1 &&& 0xf0) >>> 4))
      (((b1 &&& 0x0f) <<< 2) ||| ((b2 &&& 0xc0) >>> 6)) (b2 &&& 0x3f) = [b0, b1, b2] := by
  unfold octets
  rw [octet_first, octet_second, octet_third]

/-- A value with its two highest bits off. -/
theorem lt_of_bits {v : UInt8} (h : v &&& 0x3f = v) : v.toNat < 64 := by
  have hle : v.toNat &&& 63 ≤ 63 := Nat.and_le_right
  have heq : v.toNat &&& 63 = v.toNat := by
    have hnat := congrArg UInt8.toNat h
    rwa [UInt8.toNat_and] at hnat
  omega

/-- A sextet has six bits. -/
theorem sextets_lt (b0 b1 b2 : UInt8) : ∀ v ∈ sextets b0 b1 b2, v.toNat < 64 := by
  intro v hv
  apply lt_of_bits
  unfold sextets at hv
  simp only [List.mem_cons, List.not_mem_nil, or_false] at hv
  rcases hv with rfl | rfl | rfl | rfl
  all_goals
    apply eq_of_bits
    intro i hi
    interval_cases i <;> simp

/-- Every sextet has its own character, which is not `=`. -/
theorem idxOf_kBase64Chars : ∀ n < 64, kBase64Chars.getD n '=' ≠ '=' ∧
    kBase64Chars.idxOf? (kBase64Chars.getD n '=') = some n := by
  decide +kernel

/-- A character is read as the sextet it was written for. -/
theorem decodeChars_base64Char {v : UInt8} (hv : v.toNat < 64) (cs : List Char)
    (acc : List UInt8 × List UInt8) :
    decodeChars (base64Char v :: cs) acc = decodeChars cs (decodeSextet acc v) := by
  obtain ⟨hne, hidx⟩ := idxOf_kBase64Chars v.toNat hv
  rw [decodeChars]
  unfold base64Char
  rw [if_neg hne]
  simp only [hidx]
  rw [UInt8.ofNat_toNat]

end sextets

/-! ## The text -/

section text

/-- The characters of three bytes give the bytes back. -/
theorem decodeChars_group (b0 b1 b2 : UInt8) (cs : List Char) (decoded : List UInt8) :
    decodeChars ((sextets b0 b1 b2).map base64Char ++ cs) (decoded, []) =
      decodeChars cs (decoded ++ [b0, b1, b2], []) := by
  have hlt := sextets_lt b0 b1 b2
  unfold sextets at hlt ⊢
  simp only [List.mem_cons, List.not_mem_nil, or_false, forall_eq_or_imp, forall_eq] at hlt
  obtain ⟨h0, h1, h2, h3⟩ := hlt
  simp only [List.map_cons, List.map_nil, List.cons_append, List.nil_append]
  rw [decodeChars_base64Char h0, decodeChars_base64Char h1, decodeChars_base64Char h2,
    decodeChars_base64Char h3]
  simp only [decodeSextet, List.nil_append, List.cons_append, octets_sextets]

/-- The text, three bytes at a time. -/
def base64Text : List UInt8 → List Char
  | b0 :: b1 :: b2 :: data => (sextets b0 b1 b2).map base64Char ++ base64Text data
  | byte3 => encodeRest byte3

/-- The encoding loop writes the text, three octets at a time. -/
theorem encode_eq_text (data : List UInt8) (encoded : List Char) :
    (data.foldl encodeByte (encoded, [])).1 ++ encodeRest (data.foldl encodeByte (encoded, [])).2 =
      encoded ++ base64Text data := by
  induction data using base64Text.induct generalizing encoded with
  | case1 b0 b1 b2 data ih =>
      rw [base64Text, ← List.append_assoc]
      exact ih (encoded ++ (sextets b0 b1 b2).map base64Char)
  | case2 byte3 hshort =>
      rcases byte3 with _ | ⟨b0, _ | ⟨b1, _ | ⟨b2, data⟩⟩⟩
      · rfl
      · rfl
      · rfl
      · exact absurd rfl (hshort b0 b1 b2 data)

/-- The characters of one byte that is left over. -/
theorem decodeChars_rest_one (b0 : UInt8) (decoded : List UInt8) :
    decodeChars (encodeRest [b0]) (decoded, []) = (decoded, (sextets b0 0 0).take 2) := by
  have hlt := sextets_lt b0 0 0
  unfold sextets at hlt
  simp only [List.mem_cons, List.not_mem_nil, or_false, forall_eq_or_imp, forall_eq] at hlt
  obtain ⟨h0, h1, -, -⟩ := hlt
  show decodeChars [base64Char ((b0 &&& 0xfc) >>> 2),
    base64Char (((b0 &&& 0x03) <<< 4) ||| (((0 : UInt8) &&& 0xf0) >>> 4)), '=', '=']
      (decoded, []) = _
  rw [decodeChars_base64Char h0, decodeChars_base64Char h1, decodeChars, if_pos rfl]
  rfl

/-- The characters of two bytes that are left over. -/
theorem decodeChars_rest_two (b0 b1 : UInt8) (decoded : List UInt8) :
    decodeChars (encodeRest [b0, b1]) (decoded, []) = (decoded, (sextets b0 b1 0).take 3) := by
  have hlt := sextets_lt b0 b1 0
  unfold sextets at hlt
  simp only [List.mem_cons, List.not_mem_nil, or_false, forall_eq_or_imp, forall_eq] at hlt
  obtain ⟨h0, h1, h2, -⟩ := hlt
  show decodeChars [base64Char ((b0 &&& 0xfc) >>> 2),
    base64Char (((b0 &&& 0x03) <<< 4) ||| ((b1 &&& 0xf0) >>> 4)),
    base64Char (((b1 &&& 0x0f) <<< 2) ||| (((0 : UInt8) &&& 0xc0) >>> 6)), '='] (decoded, []) = _
  rw [decodeChars_base64Char h0, decodeChars_base64Char h1, decodeChars_base64Char h2,
    decodeChars, if_pos rfl]
  rfl

/-- The decoding loop reads the octets back. -/
theorem decode_text (data decoded : List UInt8) :
    (decodeChars (base64Text data) (decoded, [])).1 ++
        decodeRest (decodeChars (base64Text data) (decoded, [])).2 = decoded ++ data := by
  induction data using base64Text.induct generalizing decoded with
  | case1 b0 b1 b2 data ih =>
      rw [base64Text, decodeChars_group, ih, List.append_assoc]
      rfl
  | case2 byte3 hshort =>
      rw [base64Text.eq_2 byte3 hshort]
      rcases byte3 with _ | ⟨b0, _ | ⟨b1, _ | ⟨b2, data⟩⟩⟩
      · rfl
      · rw [decodeChars_rest_one]
        exact congrArg (fun bytes => decoded ++ bytes.take 1) (octets_sextets b0 0 0)
      · rw [decodeChars_rest_two]
        exact congrArg (fun bytes => decoded ++ bytes.take 2) (octets_sextets b0 b1 0)
      · exact absurd rfl (hshort b0 b1 b2 data)

/-- Decoding what was encoded gives the bytes back. -/
theorem base64Decode_base64Encode (data : List UInt8) :
    base64Decode (base64Encode data) = data := by
  unfold base64Decode base64Encode
  dsimp only
  rw [String.toList_ofList, encode_eq_text, List.nil_append]
  exact decode_text data []

/-- Something is written for something. -/
theorem base64Encode_ne_empty {data : List UInt8} (h : data ≠ []) : base64Encode data ≠ "" := by
  intro hempty
  have hdata := base64Decode_base64Encode data
  rw [hempty] at hdata
  exact h hdata.symm

end text

/-! ## Characters in between -/

section inserted

/-- Characters that are neither of Base64 nor `=` are inserted into a text, anywhere in front of its
first `=`. -/
inductive Inserted : List Char → List Char → Prop
  | rest (text : List Char) : Inserted text text
  | keep {c : Char} {text text' : List Char} :
      c ≠ '=' → Inserted text text' → Inserted (c :: text) (c :: text')
  | insert {c : Char} {text text' : List Char} :
      c ∉ kBase64Chars → c ≠ '=' → Inserted text text' → Inserted text (c :: text')

variable {text text' : List Char}

/-- The sextets of a text: those of its characters of Base64 in front of the first `=`. -/
def sextetsOf (text : List Char) : List UInt8 :=
  (text.takeWhile (· ≠ '=')).filterMap fun c => (kBase64Chars.idxOf? c).map UInt8.ofNat

/-- Padding ends the sextets. -/
@[simp] theorem sextetsOf_pad (text : List Char) : sextetsOf ('=' :: text) = [] := rfl

/-- A character gives its own sextet. -/
theorem sextetsOf_cons {c : Char} (hc : c ≠ '=') (text : List Char) :
    sextetsOf (c :: text) =
      ((kBase64Chars.idxOf? c).map UInt8.ofNat).toList ++ sextetsOf text := by
  unfold sextetsOf
  rw [List.takeWhile_cons, if_pos (decide_eq_true hc), List.filterMap_cons]
  cases kBase64Chars.idxOf? c <;> rfl

/-- The loop takes up the sextets one after the other. -/
theorem decodeChars_eq_foldl (text : List Char) (acc : List UInt8 × List UInt8) :
    decodeChars text acc = (sextetsOf text).foldl decodeSextet acc := by
  induction text generalizing acc with
  | nil => rfl
  | cons c text ih =>
      rw [decodeChars]
      by_cases hc : c = '='
      · subst hc
        simp
      · rw [if_neg hc, sextetsOf_cons hc]
        cases kBase64Chars.idxOf? c with
        | none => exact ih acc
        | some pos => exact ih (decodeSextet acc (UInt8.ofNat pos))

/-- The characters inserted are none of the sextets. -/
theorem Inserted.sextetsOf_eq (h : Inserted text text') : sextetsOf text' = sextetsOf text := by
  induction h with
  | rest text => rfl
  | keep hc _ ih => rw [sextetsOf_cons hc, sextetsOf_cons hc, ih]
  | insert hout hc _ ih =>
      rw [sextetsOf_cons hc, List.idxOf?_eq_none_iff.mpr hout, ih]
      rfl

/-- They do not change what is decoded, of whatever text. -/
theorem base64Decode_inserted (h : Inserted text text') :
    base64Decode (String.ofList text') = base64Decode (String.ofList text) := by
  unfold base64Decode
  dsimp only
  rw [String.toList_ofList, String.toList_ofList, decodeChars_eq_foldl, decodeChars_eq_foldl,
    h.sextetsOf_eq]

end inserted

/-! ## The laws of the codec -/

section laws

/-- Three octets are four sextets. -/
theorem length_sextets (b0 b1 b2 : UInt8) : (sextets b0 b1 b2).length = 4 := rfl

/-- The group of one or two bytes that are left over is filled up. -/
theorem length_encodeRest {byte3 : List UInt8} (hne : byte3 ≠ []) (hshort : byte3.length < 3) :
    (encodeRest byte3).length = 4 := by
  unfold encodeRest
  rw [if_neg hne, List.length_append, List.length_map, List.length_take, List.length_replicate,
    length_sextets]
  omega

/-- The text has four characters for each three octets begun. -/
theorem length_base64Text (data : List UInt8) :
    (base64Text data).length = 4 * (data.length ⌈/⌉ 3) := by
  rw [Nat.ceilDiv_eq_add_pred_div]
  induction data using base64Text.induct with
  | case1 b0 b1 b2 data ih =>
      rw [base64Text, List.length_append, List.length_map, length_sextets, ih]
      simp only [List.length_cons]
      omega
  | case2 byte3 hshort =>
      rw [base64Text.eq_2 byte3 hshort]
      rcases byte3 with _ | ⟨b0, _ | ⟨b1, _ | ⟨b2, data⟩⟩⟩
      · rfl
      · rw [length_encodeRest (List.cons_ne_nil b0 []) (by simp)]
        simp
      · rw [length_encodeRest (List.cons_ne_nil b0 [b1]) (by simp)]
        simp
      · exact absurd rfl (hshort b0 b1 b2 data)

/-- The encoder writes this text. -/
theorem toList_base64Encode (data : List UInt8) : (base64Encode data).toList = base64Text data := by
  unfold base64Encode
  dsimp only
  rw [String.toList_ofList, encode_eq_text, List.nil_append]

/-- **The codec.** The bytes come back; four characters are written for every three bytes begun; a
text that was written comes back; and what is inserted in front of the padding is ignored. -/
theorem base64_laws (data : List UInt8) :
    base64Decode (base64Encode data) = data ∧
      (base64Encode data).length = 4 * (data.length ⌈/⌉ 3) ∧
      (∀ text ∈ Set.range base64Encode, base64Encode (base64Decode text) = text) ∧
      ∀ text, Inserted (base64Encode data).toList text →
        base64Decode (String.ofList text) = base64Decode (base64Encode data) := by
  refine ⟨base64Decode_base64Encode data, ?_, ?_, ?_⟩
  · rw [← String.length_toList, toList_base64Encode]
    exact length_base64Text data
  · rintro _ ⟨written, rfl⟩
    rw [base64Decode_base64Encode]
  · intro text hinserted
    have hdecode := base64Decode_inserted hinserted
    rwa [String.ofList_toList] at hdecode

/-- A line break in the text of a byte. -/
theorem base64_laws_lineBreak :
    base64Decode (String.ofList ['A', 'Q', '\n', '=', '=']) = base64Decode (base64Encode [1]) := by
  obtain ⟨-, -, -, hinserted⟩ := base64_laws [1]
  apply hinserted
  have htext : (base64Encode [1]).toList = ['A', 'Q', '=', '='] := by decide +kernel
  rw [htext]
  exact .keep (by decide) (.keep (by decide) (.insert (by decide) (by decide) (.rest _)))

end laws

end AvSession.Migrate
