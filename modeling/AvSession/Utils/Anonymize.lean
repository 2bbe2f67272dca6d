import AvSession.Lib.Hiding
import AvSession.Lib.Utf8

/-!
# Masked identifiers and titles

Identifiers and titles are masked before they are logged or sent: a part at the front and a part at
the back are kept, and asterisks stand for the rest.

* `anonymizeDeviceId`, `getAnonySessionId`, `getAnonymousDeviceId`, `getAnonyNetworkId` — masks that
  count bytes.
* `getAnonyTitle`, `getAnonyDeviceName` — masks that count characters of UTF-8.
* `PartOfTitle` — the titles of which a part is hidden.
* `masks_hide` — the inputs of which something is hidden.
-/

namespace AvSession.Utils

open AvSession.Lib
open String (utf8EncodeChar)

/-! ## Masks of bytes -/

section ByteMasks

def stars (n : ℕ) : Bytes := List.replicate n '*'.toUInt8

/-- The bytes of an ASCII text. -/
def ascii (s : String) : Bytes := s.toList.map Char.toUInt8

/-- Source: softbus_session_utils.h -/
def DEVICE_ANONYMIZE_LENGTH : ℕ := 6

def DEVICE_ANONYMIZE_ID : Bytes := stars 6

/-- Source: avsession_utils.h -/
def DEVICE_ID_MIN_LEN : ℕ := 10

/-- Source: softbus_session_utils.h, `SoftbusSessionUtils::AnonymizeDeviceId` -/
def anonymizeDeviceId (deviceId : Bytes) : Bytes :=
  if deviceId = [] then []
  else if deviceId.length ≤ DEVICE_ANONYMIZE_LENGTH then DEVICE_ANONYMIZE_ID
  else
    let index := min (deviceId.length - DEVICE_ANONYMIZE_LENGTH) DEVICE_ANONYMIZE_LENGTH
    deviceId.take index ++ DEVICE_ANONYMIZE_ID ++ deviceId.drop (deviceId.length - index)

/-- A character that `\w` matches. -/
def isWord (b : UInt8) : Bool :=
  ('0'.toUInt8 ≤ b && b ≤ '9'.toUInt8) || ('A'.toUInt8 ≤ b && b ≤ 'Z'.toUInt8) ||
    ('a'.toUInt8 ≤ b && b ≤ 'z'.toUInt8) || b == '_'.toUInt8

/-- Source: avsession_utils.h, `AVSessionUtils::GetAnonySessionId` -/
def getAnonySessionId (sessionId : Bytes) : Bytes :=
  let PRE_LEN := 3
  let MAX_LEN := 100
  let len := sessionId.length
  if len < PRE_LEN ∨ MAX_LEN < len then ascii "ERROR_LENGTH"
  else if !sessionId.all isWord then ascii "ERROR_CONTENT"
  else sessionId.take PRE_LEN ++ stars 6 ++ sessionId.drop (len - PRE_LEN)

/-- Source: avsession_utils.h, `AVSessionUtils::GetAnonymousDeviceId` -/
def getAnonymousDeviceId (deviceId : Bytes) : Bytes :=
  if deviceId = [] ∨ deviceId.length < DEVICE_ID_MIN_LEN then ascii "unknown"
  else
    let half := DEVICE_ID_MIN_LEN / 2
    deviceId.take half ++ stars 2 ++ deviceId.drop (deviceId.length - half)

/-- Source: avsession_utils.h, `AVSessionUtils::GetAnonyNetworkId` -/
def getAnonyNetworkId (networkId : Bytes) : Bytes :=
  if networkId = [] then []
  else
    let PREFIX_LENGTH := 4
    let SUFFIX_LENGTH := 4
    let totalLength := networkId.length
    if totalLength < PREFIX_LENGTH + SUFFIX_LENGTH then stars totalLength
    else
      networkId.take PREFIX_LENGTH ++ stars (totalLength - PREFIX_LENGTH - SUFFIX_LENGTH) ++
        networkId.drop (totalLength - SUFFIX_LENGTH)

end ByteMasks

/-! ## Masks of characters -/

section CharMasks

/-- How many characters are kept in front and at the back of a title of more than three.
Source: avsession_utils.h, `AVSessionUtils::GetAnonyTitle` -/
def keptOfTitle (charCount : ℕ) (ratio : Rat) : ℤ × ℤ :=
  if charCount ≤ 7 then
    let maskLen := (charCount * ratio).ceil
    let keepFront := (charCount - maskLen).tdiv 2
    let keepBack := charCount - maskLen - keepFront
    (max keepFront 1, max keepBack 1)
  else (2, 2)

/-- The ratio is 0.3 where a caller gives none.
Source: avsession_utils.h, `AVSessionUtils::GetAnonyTitle` -/
def getAnonyTitle (title : Bytes) (ratio : Rat) : Bytes :=
  if title = [] then []
  else
    let charPositions := charPositions title
    let charCount := charPositions.length
    if charCount = 0 then stars 3
    else if charCount ≤ 3 then
      let firstChar := (title.drop (charPositions.getD 0 0)).take 3
      if charCount = 3 ∧ isLeadOfThree (title.headD 0) then firstChar ++ stars 3
      else if charCount = 2 then firstChar ++ stars 3
      else stars 1 ++ title ++ stars 1
    else
      let (keepFront, keepBack) := keptOfTitle charCount ratio
      if charCount ≤ keepFront + keepBack then title.take 1 ++ stars 3
      else
        title.take (charPositions.getD keepFront.toNat 0) ++ stars 3 ++
          title.drop (charPositions.getD (charCount - keepBack).toNat 0)

/-- How many characters are kept in front and at the back of a device name of three or more.
Source: avsession_utils.h, `AVSessionUtils::GetAnonyDeviceName` -/
def keptOfDeviceName (charCount : ℕ) : ℕ × ℕ :=
  if 16 ≤ charCount then (4, 3)
  else if 9 ≤ charCount then (3, 2)
  else if 6 ≤ charCount then (2, 2)
  else (2, 1)

/-- Source: avsession_utils.h, `AVSessionUtils::GetAnonyDeviceName` -/
def getAnonyDeviceName (deviceName : Bytes) : Bytes :=
  if deviceName = [] then []
  else
    let charPositions := charPositions deviceName
    let charCount := charPositions.length
    if charCount = 0 then stars 4
    else
      let first := charPositions.getD 0 0
      let firstCharLen :=
        if 2 ≤ charCount then charPositions.getD 1 0 - first else deviceName.length - first
      let firstChar := (deviceName.drop first).take firstCharLen
      if charCount < 3 then firstChar ++ stars 4
      else
        let (keepFront, keepBack) := keptOfDeviceName charCount
        deviceName.take (charPositions.getD keepFront 0) ++ stars 4 ++
          deviceName.drop (charPositions.getD (charCount - keepBack) 0)

end CharMasks

/-! ## What the masks of bytes hide -/

section HiddenBytes

variable {A : Set UInt8} {x : Bytes}

/-- A device id is shown if the two parts that are kept make up all of it. -/
theorem anonymizeDeviceId_hides (hA : A.Nontrivial) (hx : WrittenIn A x) (hne : x ≠ [])
    (hlen : x.length ≠ 12) : Hides A anonymizeDeviceId x := by
  have hpos := List.length_pos_iff.mpr hne
  have hkept : min (x.length - DEVICE_ANONYMIZE_LENGTH) DEVICE_ANONYMIZE_LENGTH <
      x.length - min (x.length - DEVICE_ANONYMIZE_LENGTH) DEVICE_ANONYMIZE_LENGTH := by
    rw [DEVICE_ANONYMIZE_LENGTH]
    omega
  apply hides_of_kept hA hx hkept (Nat.sub_le _ _)
  intro y _ hy hfront hback
  simp only [anonymizeDeviceId, ← List.length_eq_zero_iff, hy, hfront, hback]

/-- A device id is hidden unless it has the length that is shown. -/
theorem getAnonymousDeviceId_hides (hA : A.Nontrivial) (hx : WrittenIn A x) (hne : x ≠ [])
    (hlen : x.length ≠ DEVICE_ID_MIN_LEN) : Hides A getAnonymousDeviceId x := by
  by_cases hshort : x.length < DEVICE_ID_MIN_LEN
  · apply hides_of_length hA hx hne
    intro y hy
    rw [getAnonymousDeviceId, getAnonymousDeviceId, hy, if_pos (Or.inr hshort),
      if_pos (Or.inr hshort)]
  · have hkept : DEVICE_ID_MIN_LEN / 2 < x.length - DEVICE_ID_MIN_LEN / 2 := by
      rw [DEVICE_ID_MIN_LEN] at hshort hlen ⊢
      omega
    apply hides_of_kept hA hx hkept (Nat.sub_le _ _)
    intro y _ hy hfront hback
    simp only [getAnonymousDeviceId, ← List.length_eq_zero_iff, hy, hfront, hback]

/-- A network id is hidden unless it has the length that is shown. -/
theorem getAnonyNetworkId_hides (hA : A.Nontrivial) (hx : WrittenIn A x) (hne : x ≠ [])
    (hlen : x.length ≠ 8) : Hides A getAnonyNetworkId x := by
  by_cases hshort : x.length < 8
  · apply hides_of_length hA hx hne
    intro y hy
    simp only [getAnonyNetworkId, ← List.length_eq_zero_iff, hy, if_pos hshort]
  · have hkept : 4 < x.length - 4 := by omega
    apply hides_of_kept hA hx hkept (Nat.sub_le _ _)
    intro y _ hy hfront hback
    simp only [getAnonyNetworkId, ← List.length_eq_zero_iff, hy, hfront, hback]

/-- An id that is too short or too long is hidden. -/
theorem getAnonySessionId_hides_of_length (hA : A.Nontrivial) (hx : WrittenIn A x) (hne : x ≠ [])
    (hlen : x.length < 3 ∨ 100 < x.length) : Hides A getAnonySessionId x := by
  apply hides_of_length hA hx hne
  intro y hy
  rw [getAnonySessionId, getAnonySessionId, hy, if_pos hlen, if_pos hlen]

/-- Of an id with a character that is refused, another one is hidden. -/
theorem getAnonySessionId_hides_of_content (hA : A.Nontrivial) (hx : WrittenIn A x)
    (hlen : 2 ≤ x.length) {b : UInt8} (hb : b ∈ x) (hword : isWord b = false) :
    Hides A getAnonySessionId x := by
  obtain ⟨j, hj, rfl⟩ := List.getElem_of_mem hb
  obtain ⟨i, hi, hij⟩ : ∃ i < x.length, i ≠ j := by
    by_cases hzero : j = 0
    · exact ⟨1, by omega, by omega⟩
    · exact ⟨0, by omega, fun heq => hzero heq.symm⟩
  have hrefused (y : Bytes) (hy : y[j]? = some x[j]) : y.all isWord = false := by
    rw [List.all_eq_false]
    exact ⟨x[j], List.mem_of_getElem? hy, by simp [hword]⟩
  apply hides_of_set hA hx hi
  intro c _
  have hset : (x.set i c)[j]? = some x[j] := by
    rw [List.getElem?_set_ne hij, List.getElem?_eq_getElem hj]
  simp only [getAnonySessionId, List.length_set, hrefused _ hset,
    hrefused x (List.getElem?_eq_getElem hj), Bool.not_false, if_true]

/-- The first and the last three characters of an id are kept. -/
theorem getAnonySessionId_hides_of_word (hA : (A ∩ {b | isWord b = true}).Nontrivial)
    (hx : WrittenIn A x) (hlen : 7 ≤ x.length) (hword : ∀ b ∈ x, isWord b = true) :
    Hides A getAnonySessionId x := by
  have hx' : WrittenIn (A ∩ {b | isWord b = true}) x := fun b hb => ⟨hx b hb, hword b hb⟩
  have hkept : 3 < x.length - 3 := by omega
  have hall (y : Bytes) (hy : WrittenIn (A ∩ {b | isWord b = true}) y) : y.all isWord = true :=
    List.all_eq_true.mpr fun b hb => (hy b hb).2
  apply Hides.mono Set.inter_subset_left
  apply hides_of_kept hA hx' hkept (Nat.sub_le _ _)
  intro y hy hy' hfront hback
  simp only [getAnonySessionId, hy', hall y hy, hall x hx', hfront, hback]

/-- What a session id needs for something to be hidden: a length or a character that is refused, or
seven characters and another word character to choose from. -/
def PartOfSessionId (A : Set UInt8) (x : Bytes) : Prop :=
  x.length < 3 ∨ 100 < x.length ∨ (∃ b ∈ x, isWord b = false) ∨
    7 ≤ x.length ∧ (A ∩ {b | isWord b = true}).Nontrivial

/-- A session id is hidden where part of it is cut. -/
theorem getAnonySessionId_hides (hA : A.Nontrivial) (hx : WrittenIn A x) (hne : x ≠ [])
    (hpart : PartOfSessionId A x) : Hides A getAnonySessionId x := by
  by_cases hlen : x.length < 3 ∨ 100 < x.length
  · exact getAnonySessionId_hides_of_length hA hx hne hlen
  · by_cases hword : ∃ b ∈ x, isWord b = false
    · obtain ⟨b, hb, hbad⟩ := hword
      exact getAnonySessionId_hides_of_content hA hx (by omega) hb hbad
    · rcases hpart with h | h | h | ⟨hseven, htwo⟩
      · exact absurd (Or.inl h) hlen
      · exact absurd (Or.inr h) hlen
      · exact absurd h hword
      · apply getAnonySessionId_hides_of_word htwo hx hseven
        intro b hb
        by_contra hbad
        exact hword ⟨b, hb, Bool.not_eq_true _ ▸ hbad⟩

end HiddenBytes

/-! ## What the masks of characters hide -/

section HiddenChars

variable {A : Set Char} {x : List Char}

/-- The title is cut before a character. -/
theorem keptOfTitle_pos (charCount : ℕ) (ratio : Rat) :
    1 ≤ (keptOfTitle charCount ratio).1 ∧ 1 ≤ (keptOfTitle charCount ratio).2 := by
  rw [keptOfTitle]
  split_ifs
  · exact ⟨le_max_right _ _, le_max_right _ _⟩
  · exact ⟨by decide, by decide⟩

/-- A title of more than three characters is cut before the one that is kept last in front, and
before the one that is kept first at the back. -/
theorem getAnonyTitle_utf8 (ratio : Rat) (hlen : 4 ≤ x.length) :
    getAnonyTitle (utf8 x) ratio =
      if x.length ≤ (keptOfTitle x.length ratio).1 + (keptOfTitle x.length ratio).2 then
        (utf8 x).take 1 ++ stars 3
      else
        utf8 (x.take (keptOfTitle x.length ratio).1.toNat) ++ stars 3 ++
          utf8 (x.drop (x.length - (keptOfTitle x.length ratio).2).toNat) := by
  have hne : x ≠ [] := List.ne_nil_of_length_pos (by omega)
  obtain ⟨hfront, hback⟩ := keptOfTitle_pos x.length ratio
  rw [getAnonyTitle, if_neg (utf8_ne_nil hne)]
  dsimp only
  rw [length_charPositions, if_neg (by omega), if_neg (by omega)]
  split_ifs with hall
  · rfl
  · rw [take_charPositions (by omega), drop_charPositions (by omega)]

/-- Between the two parts that are kept a title of more than three characters is hidden. -/
theorem getAnonyTitle_hides_of_length (hA : A.Nontrivial) (hx : WrittenIn A x) (ratio : Rat)
    (hlen : 4 ≤ x.length) : Hides A (fun x => getAnonyTitle (utf8 x) ratio) x := by
  obtain ⟨hfront, hback⟩ := keptOfTitle_pos x.length ratio
  by_cases hall : x.length ≤ (keptOfTitle x.length ratio).1 + (keptOfTitle x.length ratio).2
  · have hone : 1 < x.length := by omega
    apply hides_of_kept hA hx hone (le_refl _)
    intro y _ hy hfront _
    rw [getAnonyTitle_utf8 ratio hlen, getAnonyTitle_utf8 ratio (by omega), hy, if_pos hall,
      if_pos hall, take_one_utf8 y, hfront, ← take_one_utf8]
  · have hkept : (keptOfTitle x.length ratio).1.toNat <
        (x.length - (keptOfTitle x.length ratio).2).toNat := by omega
    apply hides_of_kept hA hx hkept (by omega)
    intro y _ hy hfront hback
    rw [getAnonyTitle_utf8 ratio hlen, getAnonyTitle_utf8 ratio (by omega), hy, if_neg hall,
      if_neg hall, hfront, hback]

/-- A title of one character is shown between stars. -/
theorem getAnonyTitle_one (c : Char) (ratio : Rat) :
    getAnonyTitle (utf8 [c]) ratio = stars 1 ++ utf8 [c] ++ stars 1 := by
  rw [getAnonyTitle, if_neg (utf8_ne_nil (List.cons_ne_nil _ _))]
  dsimp only
  rw [length_charPositions]
  simp

/-- Of two characters the first three bytes are shown. -/
theorem getAnonyTitle_two (c d : Char) (ratio : Rat) :
    getAnonyTitle (utf8 [c, d]) ratio = (utf8 [c, d]).take 3 ++ stars 3 := by
  rw [getAnonyTitle, if_neg (utf8_ne_nil (List.cons_ne_nil _ _))]
  dsimp only
  rw [length_charPositions, getD_charPositions (by simp)]
  simp

/-- Of three characters the first is shown if it has three bytes, and else all of them. -/
theorem getAnonyTitle_three (c d e : Char) (ratio : Rat) :
    getAnonyTitle (utf8 [c, d, e]) ratio =
      if (utf8EncodeChar c).length = 3 then utf8EncodeChar c ++ stars 3
      else stars 1 ++ utf8 [c, d, e] ++ stars 1 := by
  obtain ⟨b, bs, hc, -, -, hlead⟩ := encode_eq_cons c
  rw [getAnonyTitle, if_neg (utf8_ne_nil (List.cons_ne_nil _ _))]
  dsimp only
  rw [length_charPositions, getD_charPositions (by simp)]
  by_cases hthree : bs.length = 2
  · simp [hc, hlead, hthree]
  · simp [hc, hlead, hthree]

/-- Two characters of which the first three bytes agree begin with the same one, if it is short. -/
theorem eq_of_take_three_eq {c c' : Char} {u v : Bytes} (hshort : (utf8EncodeChar c).length ≤ 3)
    (h : (utf8EncodeChar c' ++ u).take 3 = (utf8EncodeChar c ++ v).take 3) : c' = c := by
  have hpre : utf8EncodeChar c <+: (utf8EncodeChar c ++ v).take 3 :=
    List.prefix_take_iff.mpr ⟨List.prefix_append _ _, hshort⟩
  rw [← h] at hpre
  obtain ⟨w, hw⟩ := (List.prefix_take_iff.mp hpre).1
  exact (eq_of_encode_append_eq hw).symm

/-- What a title needs for something to be hidden: four characters, or three of which the first has
three bytes, or two of which the second is not told by the first three bytes. -/
def PartOfTitle (A : Set Char) (x : List Char) : Prop :=
  4 ≤ x.length ∨ (∃ c d e, x = [c, d, e] ∧ (utf8EncodeChar c).length = 3) ∨
    ∃ c d, x = [c, d] ∧ ∃ d' ∈ A, d' ≠ d ∧ (utf8 [c, d']).take 3 = (utf8 [c, d]).take 3

/-- A title of one character is never hidden. -/
theorem getAnonyTitle_hides_one_iff (c : Char) (ratio : Rat) :
    Hides A (fun x => getAnonyTitle (utf8 x) ratio) [c] ↔ PartOfTitle A [c] := by
  have hnot : ¬ Hides A (fun x => getAnonyTitle (utf8 x) ratio) [c] := by
    apply not_hides_of_eq
    intro y hy heq
    obtain ⟨c', rfl⟩ := List.length_eq_one_iff.mp hy
    rw [getAnonyTitle_one, getAnonyTitle_one] at heq
    exact utf8_injective (List.append_cancel_left (List.append_cancel_right heq))
  simp [hnot, PartOfTitle]

/-- A title of two characters hides its second one exactly when the first three bytes do not tell
it. -/
theorem getAnonyTitle_hides_two_iff (hA : A.Nontrivial) {c d : Char} (hx : WrittenIn A [c, d])
    (ratio : Rat) :
    Hides A (fun x => getAnonyTitle (utf8 x) ratio) [c, d] ↔ PartOfTitle A [c, d] := by
  have hpart : PartOfTitle A [c, d] ↔
      ∃ d' ∈ A, d' ≠ d ∧ (utf8 [c, d']).take 3 = (utf8 [c, d]).take 3 := by
    simp [PartOfTitle]
  rw [hpart]
  constructor
  · rintro ⟨y, hy, hlen, hne, heq⟩
    obtain ⟨c', d', rfl⟩ := List.length_eq_two.mp hlen
    dsimp only at heq
    rw [getAnonyTitle_two, getAnonyTitle_two] at heq
    have htake := List.append_cancel_right heq
    by_cases hlong : 3 ≤ (utf8EncodeChar c).length
    · obtain ⟨d'', hd'', hne''⟩ := hA.exists_ne d
      refine ⟨d'', hd'', hne'', ?_⟩
      rw [utf8_cons c [d''], utf8_cons c [d], List.take_append_of_le_length hlong,
        List.take_append_of_le_length hlong]
    · rw [utf8_cons, utf8_cons] at htake
      obtain rfl := eq_of_take_three_eq (by omega) htake
      refine ⟨d', hy d' (by simp), ?_, by rwa [utf8_cons, utf8_cons]⟩
      rintro rfl
      exact hne rfl
  · rintro ⟨d', hd', hne, htake⟩
    have hc := hx c List.mem_cons_self
    refine ⟨[c, d'], List.forall_mem_cons.mpr ⟨hc, by simpa using hd'⟩, rfl, by simpa using hne, ?_⟩
    dsimp only
    rw [getAnonyTitle_two, getAnonyTitle_two, htake]

/-- A title of three characters hides what lies behind a first one of three bytes. -/
theorem getAnonyTitle_hides_three_iff (hA : A.Nontrivial) {c d e : Char}
    (hx : WrittenIn A [c, d, e]) (ratio : Rat) :
    Hides A (fun x => getAnonyTitle (utf8 x) ratio) [c, d, e] ↔ PartOfTitle A [c, d, e] := by
  have hpart : PartOfTitle A [c, d, e] ↔ (utf8EncodeChar c).length = 3 := by
    simp [PartOfTitle]
  rw [hpart]
  by_cases hthree : (utf8EncodeChar c).length = 3
  · refine iff_of_true ?_ hthree
    have hkept : 1 < [c, d, e].length := by simp
    apply hides_of_kept hA hx hkept (le_refl _)
    intro y _ hy hfront _
    obtain ⟨c', d', e', rfl⟩ := List.length_eq_three.mp hy
    obtain rfl : c' = c := by simpa using hfront
    rw [getAnonyTitle_three, getAnonyTitle_three, if_pos hthree, if_pos hthree]
  · refine iff_of_false (not_hides_of_eq fun y hy heq => ?_) hthree
    obtain ⟨c', d', e', rfl⟩ := List.length_eq_three.mp hy
    rw [getAnonyTitle_three, getAnonyTitle_three, if_neg hthree] at heq
    by_cases hthree' : (utf8EncodeChar c').length = 3
    · -- an asterisk begins no character of three bytes
      obtain ⟨b, bs, hc, -, -, hlead⟩ := encode_eq_cons c'
      rw [if_pos hthree', hc, List.append_assoc, List.cons_append] at heq
      have hstar : b = '*'.toUInt8 := (List.cons.inj heq).1
      rw [hc, List.length_cons] at hthree'
      rw [hstar] at hlead
      exact absurd (hlead.mpr (by omega)) (by decide)
    · rw [if_neg hthree'] at heq
      exact utf8_injective (List.append_cancel_left (List.append_cancel_right heq))

/-- **Titles.** Something of a title is hidden exactly if it has such a part. -/
theorem getAnonyTitle_hides_iff (hA : A.Nontrivial) (hx : WrittenIn A x) (hne : x ≠ [])
    (ratio : Rat) : Hides A (fun x => getAnonyTitle (utf8 x) ratio) x ↔ PartOfTitle A x := by
  rcases x with _ | ⟨c, _ | ⟨d, _ | ⟨e, _ | ⟨g, rest⟩⟩⟩⟩
  · exact absurd rfl hne
  · exact getAnonyTitle_hides_one_iff c ratio
  · exact getAnonyTitle_hides_two_iff hA hx ratio
  · exact getAnonyTitle_hides_three_iff hA hx ratio
  · have hlen : 4 ≤ (c :: d :: e :: g :: rest).length := by simp
    exact iff_of_true (getAnonyTitle_hides_of_length hA hx ratio hlen) (Or.inl hlen)

/-- Of two characters the first is shown. -/
theorem getAnonyDeviceName_two (c d : Char) :
    getAnonyDeviceName (utf8 [c, d]) = utf8EncodeChar c ++ stars 4 := by
  rw [getAnonyDeviceName, if_neg (utf8_ne_nil (List.cons_ne_nil _ _))]
  dsimp only
  rw [length_charPositions, getD_charPositions (by simp), getD_charPositions (by simp)]
  simp

/-- The parts that are kept of a device name make up all of it if it has three characters. -/
theorem keptOfDeviceName_lt {charCount : ℕ} (hfour : 4 ≤ charCount) :
    (keptOfDeviceName charCount).1 < charCount - (keptOfDeviceName charCount).2 := by
  rw [keptOfDeviceName]
  split_ifs <;> omega

/-- A device name keeps its two ends around the stars. -/
theorem getAnonyDeviceName_utf8 (hlen : 4 ≤ x.length) :
    getAnonyDeviceName (utf8 x) = utf8 (x.take (keptOfDeviceName x.length).1) ++ stars 4 ++
      utf8 (x.drop (x.length - (keptOfDeviceName x.length).2)) := by
  have hne : x ≠ [] := List.ne_nil_of_length_pos (by omega)
  have hkept := keptOfDeviceName_lt hlen
  have hback : 1 ≤ (keptOfDeviceName x.length).2 := by
    rw [keptOfDeviceName]
    split_ifs <;> omega
  rw [getAnonyDeviceName, if_neg (utf8_ne_nil hne)]
  dsimp only
  rw [length_charPositions, if_neg (by omega), if_neg (by omega), take_charPositions (by omega),
    drop_charPositions (by omega)]

/-- **Device names.** Something is hidden unless there are one or three characters. -/
theorem getAnonyDeviceName_hides (hA : A.Nontrivial) (hx : WrittenIn A x) (hne : x ≠ [])
    (hone : x.length ≠ 1) (hthree : x.length ≠ 3) :
    Hides A (fun x => getAnonyDeviceName (utf8 x)) x := by
  have hpos := List.length_pos_iff.mpr hne
  by_cases htwo : x.length = 2
  · obtain ⟨c, d, rfl⟩ := List.length_eq_two.mp htwo
    have hkept : 1 < [c, d].length := by simp
    apply hides_of_kept hA hx hkept (le_refl _)
    intro y _ hy hfront _
    obtain ⟨c', d', rfl⟩ := List.length_eq_two.mp hy
    obtain rfl : c' = c := by simpa using hfront
    rw [getAnonyDeviceName_two, getAnonyDeviceName_two]
  · have hfour : 4 ≤ x.length := by omega
    apply hides_of_kept hA hx (keptOfDeviceName_lt hfour) (Nat.sub_le _ _)
    intro y _ hy hfront hback
    rw [getAnonyDeviceName_utf8 hfour, getAnonyDeviceName_utf8 (by omega), hy, hfront, hback]

end HiddenChars

/-! ## The masks -/

section Masks

/-- **What the masks hide.** Of an identifier, a title or a device name something is hidden: another
one of the same length is masked to the same text. -/
theorem masks_hide {A : Set UInt8} {B : Set Char} {x : Bytes} {t : List Char}
    (hA : A.Nontrivial) (hx : WrittenIn A x) (hne : x ≠ [])
    (hB : B.Nontrivial) (ht : WrittenIn B t) (htne : t ≠ []) :
    (x.length ≠ 12 → Hides A anonymizeDeviceId x) ∧
      (PartOfSessionId A x → Hides A getAnonySessionId x) ∧
      (x.length ≠ 10 → Hides A getAnonymousDeviceId x) ∧
      (x.length ≠ 8 → Hides A getAnonyNetworkId x) ∧
      (∀ ratio, Hides B (fun t => getAnonyTitle (utf8 t) ratio) t ↔ PartOfTitle B t) ∧
      (t.length ≠ 1 → t.length ≠ 3 → Hides B (fun t => getAnonyDeviceName (utf8 t)) t) :=
  ⟨anonymizeDeviceId_hides hA hx hne, getAnonySessionId_hides hA hx hne,
    getAnonymousDeviceId_hides hA hx hne, getAnonyNetworkId_hides hA hx hne,
    getAnonyTitle_hides_iff hB ht htne, getAnonyDeviceName_hides hB ht htne⟩

/-- An id of fourteen letters. -/
def letterId : Bytes :=
  [0x73, 0x65, 0x73, 0x73, 0x69, 0x6f, 0x6e, 0x6c, 0x65, 0x74, 0x74, 0x65, 0x72, 0x73]

/-- Of an id and of a title of some length each mask hides a part. -/
theorem masks_hide_letters :
    Hides Set.univ anonymizeDeviceId letterId ∧ Hides Set.univ getAnonySessionId letterId ∧
      Hides Set.univ getAnonymousDeviceId letterId ∧ Hides Set.univ getAnonyNetworkId letterId ∧
      Hides Set.univ (fun t => getAnonyTitle (utf8 t) (3 / 10)) ['t', 'i', 't', 'l', 'e'] ∧
      Hides Set.univ (fun t => getAnonyDeviceName (utf8 t)) ['t', 'i', 't', 'l', 'e'] := by
  have hwords : (Set.univ ∩ {b : UInt8 | isWord b = true}).Nontrivial :=
    ⟨0x61, ⟨trivial, by decide⟩, 0x62, ⟨trivial, by decide⟩, by decide⟩
  obtain ⟨hdevice, hsession, hanonymous, hnetwork, htitle, hname⟩ :=
    masks_hide (A := Set.univ) (B := Set.univ) (x := letterId) (t := ['t', 'i', 't', 'l', 'e'])
      ⟨0x61, trivial, 0x62, trivial, by decide⟩ (fun _ _ => trivial) (List.cons_ne_nil _ _)
      ⟨'a', trivial, 'b', trivial, by decide⟩ (fun _ _ => trivial) (List.cons_ne_nil _ _)
  exact ⟨hdevice (by decide), hsession (.inr (.inr (.inr ⟨by decide, hwords⟩))),
    hanonymous (by decide), hnetwork (by decide), (htitle _).mpr (.inl (by decide)),
    hname (by decide) (by decide)⟩

/-- A title of three ASCII characters is shown. -/
theorem title_abc_shown :
    ({'a', 'b', 'c'} : Set Char).Nontrivial ∧
      WrittenIn {'a', 'b', 'c'} ['a', 'b', 'c'] ∧
      ¬ Hides {'a', 'b', 'c'} (fun t => getAnonyTitle (utf8 t) (3 / 10)) ['a', 'b', 'c'] := by
  have hA : ({'a', 'b', 'c'} : Set Char).Nontrivial :=
    ⟨'a', by simp, 'b', by simp, by decide⟩
  have hx : WrittenIn {'a', 'b', 'c'} ['a', 'b', 'c'] := by simp [WrittenIn]
  refine ⟨hA, hx, ?_⟩
  rw [getAnonyTitle_hides_three_iff hA hx]
  simp [PartOfTitle]
  decide

end Masks

end AvSession.Utils
