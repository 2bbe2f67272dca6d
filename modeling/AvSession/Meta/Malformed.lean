import AvSession.Lib.TypedRecords
import AvSession.Meta.Codec
import Mathlib.Data.List.Forall2

/-!
# Malformed metadata

A parcel that does not start with the records of one object should be refused, and one that does
should be read up to the end of these records.

* `ObjectRecords`, `Readable`, `Tidy` — the records of an object, what the reader checks of them,
  and what it does not.
* `RejectsMalformed` — what is asked of the reader.
* `MaskLapse`, `IconLapse` — what it takes for an object although records are missing: it returns
  the flag of success where the mask cannot be used or the icon is not there.
* `accepted_iff` — what is accepted, and how far it is read.
* `rejectsMalformed_iff` — exactly when the reader does what is asked.
-/

namespace AvSession.Meta

open AvSession.Lib

/-! ## The records of an object -/

section records

/-- The types of the records between the mask and the bundle icon. -/
def wireTypes : List TokenType :=
  [.string, .string, .string, .string, .string, .string, .string, .string, .string, .string,
    .int64, .string, .double, .string, .string, .string, .string, .string, .string,
    .int32, .int32, .int32, .int32] ++ [.int32, .int32] ++ [.int32]

/-- The media length among these records. -/
def mediaLengthOf (members : List Token) : ℤ :=
  ((members[leadingKeys.length]?).map Token.int32Value).getD 0

/-- The display tags among these records. -/
def displayTagsOf (members : List Token) : ℤ :=
  ((members[leadingKeys.length + 2]?).map Token.int32Value).getD 0

/-- The size of a mask that is read. -/
def MaskUsable (mask : String) : Prop :=
  0 < byteLength mask.toList ∧ byteLength mask.toList ≤ MetaKey.all.length

instance (mask : String) : Decidable (MaskUsable mask) := inferInstanceAs (Decidable (_ ∧ _))

/-- The mask has the bit of the bundle icon. -/
def IconBit (mask : String) : Prop :=
  readDigits MetaKey.all mask.toList (fun _ => false) .bundleIcon = true

instance (mask : String) : Decidable (IconBit mask) := inferInstanceAs (Decidable (_ = true))

def TagsLegal (displayTags : ℤ) : Prop :=
  0 ≤ displayTags ∧ displayTags ≤ AVMetaData.displayTagAll

/-- A raw block is due for images of this length. -/
def ImagesDue (twoImageLength : ℤ) : Prop :=
  0 < twoImageLength ∧ twoImageLength ≤ maxImageSize

instance (n : ℤ) : Decidable (ImagesDue n) := inferInstanceAs (Decidable (_ ∧ _))

/-- The raw block, if one is due: it has its length, and it can be split at the media length. -/
def ImagesFit (twoImageLength mediaLength : ℤ) (images : List Token) : Prop :=
  if ImagesDue twoImageLength then
    (∃ bytes : List UInt8, images = [.raw bytes] ∧ (bytes.length : ℤ) = twoImageLength) ∧
      0 ≤ mediaLength ∧ mediaLength ≤ twoImageLength
  else images = []

/-- The records of an object. The record of the icon may be missing. -/
structure ObjectRecords where
  twoImageLength : ℤ
  mask : String
  members : List Token
  types : members.map Token.type = wireTypes
  icon : Option (Option (List UInt8))
  drmSchemes : List String
  images : List Token

namespace ObjectRecords

variable (o : ObjectRecords)

/-- The records from the bundle icon on. -/
def tail : List Token :=
  (o.icon.map Token.blob).toList ++
    .int32 o.drmSchemes.length :: (o.drmSchemes.map Token.string ++ o.images)

/-- The records in their order. -/
def tokens : List Token :=
  .int32 o.twoImageLength :: .string o.mask :: (o.members ++ o.tail)

/-- The records of an object, part by part. -/
theorem tokens_append (rest : List Token) : o.tokens ++ rest =
    .int32 o.twoImageLength :: .string o.mask :: (o.members ++ (o.tail ++ rest)) := by
  simp [tokens]

/-- What the reader checks. -/
structure Readable : Prop where
  mask : MaskUsable o.mask
  icon : IconBit o.mask → ∃ bytes, o.icon = some (some bytes)
  drmSchemes : o.drmSchemes.length ≤ maxDrmSchemesLen
  displayTags : TagsLegal (displayTagsOf o.members)
  images : ImagesFit o.twoImageLength (mediaLengthOf o.members) o.images

/-- What the reader does not check: the characters of the mask, the record of an icon without a
bit, and the media length where no raw block is due. -/
structure Tidy : Prop where
  mask : ∀ c ∈ o.mask.toList, c = '0' ∨ c = '1'
  icon : o.icon ≠ none
  mediaLength : 0 ≤ mediaLengthOf o.members ∧ mediaLengthOf o.members ≤ o.twoImageLength

/-- The records of one object, as they should be. -/
def WellFormed : Prop := o.Readable ∧ o.Tidy

end ObjectRecords

/-- What is asked of the reader: what it accepts starts with the records of one object, and what
follows them is left. -/
def RejectsMalformed (ts : List Token) : Prop :=
  ∀ m rest, AVMetaData.unmarshalling ts = (some m, rest) →
    ∃ o : ObjectRecords, o.WellFormed ∧ ts = o.tokens ++ rest

/-- No mask that can be used, and the records after it. -/
inductive MaskUnread : List Token → List Token → Prop
  | missing {ts : List Token} : (∀ t ∈ ts.head?, t.type ≠ .string) → MaskUnread ts ts
  | unusable {mask : String} {ts : List Token} :
      ¬ MaskUsable mask → MaskUnread (.string mask :: ts) ts

/-- No icon, and the records after it. -/
inductive IconUnread : List Token → List Token → Prop
  | missing {ts : List Token} : (∀ t ∈ ts.head?, t.type ≠ .blob) → IconUnread ts ts
  | null {ts : List Token} : IconUnread (.blob none :: ts) ts

/-- Without a mask, all records but the raw block are skipped. -/
def MaskLapse (ts rest : List Token) : Prop :=
  ∃ n us images, ts = .int32 n :: us ∧ MaskUnread us (images ++ rest) ∧ ImagesFit n 0 images

/-- With the bit of an icon and without the icon, the members may be incomplete and the DRM schemes
are skipped. -/
def IconLapse (ts rest : List Token) : Prop :=
  ∃ n mask us images, ts = .int32 n :: .string mask :: us ∧ MaskUsable mask ∧ IconBit mask ∧
    IconUnread (us.drop (typedFront wireTypes us).length) (images ++ rest) ∧
    TagsLegal (displayTagsOf (typedFront wireTypes us)) ∧
    ImagesFit n (mediaLengthOf (typedFront wireTypes us)) images

end records

/-! ## The members -/

section members

variable {r : AVMetaData} {ts : List Token}

/-- A field takes the tokens its reader accepts. -/
theorem KeyCodec.field_takes {c : KeyCodec} {τ : TokenType}
    (h : ∀ t, (c.take t).isSome = true ↔ t.type = τ) : c.field.Takes τ :=
  .of_map h fun _ _ => rfl

/-- Every field of the wire takes its own type. -/
theorem wireFields_takes : List.Forall₂ FieldCodec.Takes wireFields wireTypes := by
  unfold wireFields wireTypes
  refine List.rel_append (List.rel_append ?_ ?_) ?_
  · unfold leadingKeys
    repeat' apply List.Forall₂.cons
    all_goals first
      | exact KeyCodec.field_takes isSome_asString
      | exact KeyCodec.field_takes isSome_asInt32
      | exact KeyCodec.field_takes isSome_asInt64
      | exact KeyCodec.field_takes isSome_asDouble
      | exact .nil
  · exact .cons (.of_map isSome_asInt32 fun _ _ => rfl)
      (.cons (.of_map isSome_asInt32 fun _ _ => rfl) .nil)
  · exact .cons (KeyCodec.field_takes isSome_asInt32) .nil

/-- Reading a member changes no other member and no length. -/
theorem KeyCodec.field_keeps {c : KeyCodec} {t : Token} {r r' : AVMetaData}
    (h : c.field.take t r = some r') :
    r'.mask = r.mask ∧ r'.mediaLength = r.mediaLength ∧ ∀ k, k ≠ c.key → r'.val k = r.val k := by
  obtain ⟨v, -, rfl⟩ := Option.map_eq_some_iff.mp h
  refine ⟨rfl, rfl, ?_⟩
  intro k hk
  exact AVMetaData.setVal_val_of_ne _ _ hk

/-- Reading a length changes nothing else. -/
theorem lengthFields_keep {f : FieldCodec AVMetaData} (hf : f ∈ lengthFields) {t : Token}
    {r r' : AVMetaData} (h : f.take t r = some r') : r'.mask = r.mask ∧ r'.val = r.val := by
  simp only [lengthFields, List.mem_cons, List.not_mem_nil, or_false] at hf
  rcases hf with rfl | rfl
  all_goals
    obtain ⟨v, -, rfl⟩ := Option.map_eq_some_iff.mp h
    exact ⟨rfl, rfl⟩

/-- An integer token has the value read from it. -/
theorem int32Value_of_asInt32 {t : Token} {v : ℤ} (h : t.asInt32 = some v) : t.int32Value = v := by
  simp [Token.int32Value, h]

/-- Reading fields changes no mark. -/
theorem readFields_mask (r : AVMetaData) (ts : List Token) :
    (readFields wireFields r ts).1.1.mask = r.mask := by
  refine readFields_eq_of_keeps (π := fun r : AVMetaData => r.mask) ?_
  intro g hg t r r' h
  unfold wireFields at hg
  simp only [List.mem_append, List.mem_map] at hg
  rcases hg with (⟨c, -, rfl⟩ | hg) | ⟨c, -, rfl⟩
  · exact (KeyCodec.field_keeps h).1
  · exact (lengthFields_keep hg h).1
  · exact (KeyCodec.field_keeps h).1

/-- The length of the media image is that of the typed front. -/
theorem readFields_mediaLength (r : AVMetaData) (ts : List Token) (hr : r.mediaLength = 0) :
    (readFields wireFields r ts).1.1.mediaLength =
      mediaLengthOf (typedFront wireTypes ts) := by
  have hsplit : wireFields = leadingKeys.map KeyCodec.field ++
      lengthFields[0] :: (lengthFields[1] :: trailingKeys.map KeyCodec.field) := by
    unfold wireFields
    rw [List.append_assoc]
    rfl
  have htakes := wireFields_takes
  rw [hsplit] at htakes ⊢
  rw [readFields_getElem (π := fun r : AVMetaData => r.mediaLength) Token.int32Value r ts htakes,
    List.length_map, hr]
  · rfl
  · intro g hg t r r' h
    obtain ⟨c, -, rfl⟩ := List.mem_map.mp hg
    exact (KeyCodec.field_keeps h).2.1
  · intro t r r' h
    obtain ⟨v, hv, rfl⟩ := Option.map_eq_some_iff.mp h
    exact (int32Value_of_asInt32 hv).symm
  · intro g hg t r r' h
    rcases List.mem_cons.mp hg with rfl | hg
    · obtain ⟨v, -, rfl⟩ := Option.map_eq_some_iff.mp h
      rfl
    · obtain ⟨c, -, rfl⟩ := List.mem_map.mp hg
      exact (KeyCodec.field_keeps h).2.1

/-- The display tags are those of the typed front. -/
theorem readFields_displayTags (r : AVMetaData) (ts : List Token)
    (hr : r.val .displayTags = (0 : ℤ)) :
    (readFields wireFields r ts).1.1.val .displayTags =
      displayTagsOf (typedFront wireTypes ts) := by
  have hkeys : ∀ c ∈ leadingKeys, MetaKey.displayTags ≠ c.key := by decide
  have hsplit : wireFields = (leadingKeys.map KeyCodec.field ++ lengthFields) ++
      [(KeyCodec.mk .displayTags .int32 Token.asInt32 fun _ => rfl).field] := rfl
  have htakes := wireFields_takes
  rw [hsplit] at htakes ⊢
  have hread := readFields_getElem (π := fun r : AVMetaData => (r.val .displayTags : ℤ))
    Token.int32Value r ts htakes ?_ ?_ ?_
  · rw [hr, List.length_append, List.length_map] at hread
    exact hread
  · intro g hg t r r' h
    rcases List.mem_append.mp hg with hg | hg
    · obtain ⟨c, hc, rfl⟩ := List.mem_map.mp hg
      exact (KeyCodec.field_keeps h).2.2 _ (hkeys c hc)
    · exact congrFun (lengthFields_keep hg h).2 _
  · intro t r r' h
    obtain ⟨v, hv, rfl⟩ := Option.map_eq_some_iff.mp h
    exact (AVMetaData.setVal_val_self ..).trans (int32Value_of_asInt32 hv).symm
  · intro g hg
    exact absurd hg List.not_mem_nil

end members

/-! ## The parts of the reader -/

section parts

variable {r : AVMetaData} {ts us rest : List Token} {n : ℤ} {mask : String}

/-- The images are accepted when as many bytes lie there and the first length fits. -/
theorem readFromParcel_iff : (∃ m, r.readFromParcel ts n = (some m, rest)) ↔
    (∃ bytes : List UInt8, ts = .raw bytes :: rest ∧ (bytes.length : ℤ) = n) ∧
      0 ≤ r.mediaLength ∧ r.mediaLength ≤ n := by
  unfold AVMetaData.readFromParcel
  cases hread : read (Token.asRaw n) ts with
  | mk buffer ts' =>
      cases buffer with
      | none =>
          obtain ⟨-, hhead⟩ := read_eq_none_iff.mp hread
          refine iff_of_false (by simp) ?_
          rintro ⟨⟨bytes, rfl, hlen⟩, -⟩
          simpa [Token.asRaw, hlen] using hhead _ rfl
      | some buffer =>
          obtain ⟨t, rfl, ht⟩ := read_eq_some_iff.mp hread
          obtain ⟨rfl, hlen⟩ := asRaw_eq_some.mp ht
          by_cases hrange : 0 ≤ r.mediaLength ∧ r.mediaLength ≤ n
          · simp only [hrange, and_self, and_true]
            constructor
            · rintro ⟨m, hm⟩
              refine ⟨buffer, ?_, hlen⟩
              split_ifs at hm
              all_goals
                obtain ⟨-, rfl⟩ := Prod.mk.inj hm
                rfl
            · rintro ⟨bytes, hbytes, -⟩
              obtain ⟨-, rfl⟩ := List.cons.inj hbytes
              split_ifs
              all_goals exact ⟨_, rfl⟩
          · simp [hrange]

/-- Legal tags are those the reader does not refuse. -/
theorem tagsLegal_iff {displayTags : ℤ} :
    TagsLegal displayTags ↔ ¬ (displayTags < 0 ∨ displayTags > AVMetaData.displayTagAll) := by
  unfold TagsLegal
  omega

/-- What is accepted after the members. -/
theorem readTagsAndImages_iff : (∃ m, r.readTagsAndImages ts n = (some m, rest)) ↔
    TagsLegal (r.val .displayTags) ∧
      ∃ images, ts = images ++ rest ∧ ImagesFit n r.mediaLength images := by
  unfold AVMetaData.readTagsAndImages
  by_cases htags : r.val .displayTags < 0 ∨ r.val .displayTags > AVMetaData.displayTagAll
  · rw [if_pos htags]
    refine iff_of_false (by simp) ?_
    rintro ⟨hlegal, -⟩
    exact tagsLegal_iff.mp hlegal htags
  · have hlegal : TagsLegal (r.val .displayTags) := tagsLegal_iff.mpr htags
    rw [if_neg htags]
    by_cases hdue : ImagesDue n
    · have hfit : ∀ images, ImagesFit n r.mediaLength images ↔
          (∃ bytes : List UInt8, images = [.raw bytes] ∧ (bytes.length : ℤ) = n) ∧
            0 ≤ r.mediaLength ∧ r.mediaLength ≤ n := by
        intro images
        unfold ImagesFit
        rw [if_pos hdue]
      rw [if_pos (show 0 < n ∧ n ≤ maxImageSize from hdue), readFromParcel_iff]
      simp only [hfit]
      constructor
      · rintro ⟨⟨bytes, rfl, hlen⟩, hrange⟩
        exact ⟨hlegal, [.raw bytes], rfl, ⟨bytes, rfl, hlen⟩, hrange⟩
      · rintro ⟨-, images, rfl, ⟨bytes, rfl, hlen⟩, hrange⟩
        exact ⟨⟨bytes, rfl, hlen⟩, hrange⟩
    · have hfit : ∀ images, ImagesFit n r.mediaLength images ↔ images = [] := by
        intro images
        unfold ImagesFit
        rw [if_neg hdue]
      rw [if_neg (show ¬ (0 < n ∧ n ≤ maxImageSize) from hdue)]
      simp only [hfit]
      constructor
      · rintro ⟨m, hm⟩
        obtain ⟨-, rfl⟩ := Prod.mk.inj hm
        exact ⟨hlegal, [], rfl, rfl⟩
      · rintro ⟨-, images, rfl, rfl⟩
        exact ⟨r, rfl⟩

/-- What is accepted as DRM schemes. -/
theorem readDrmSchemes_iff (r : AVMetaData) (ts rest : List Token) :
    (r.readDrmSchemes ts).2 = true ∧ (r.readDrmSchemes ts).1.2 = rest ↔
      ∃ drmSchemes : List String, drmSchemes.length ≤ maxDrmSchemesLen ∧
        ts = .int32 drmSchemes.length :: (drmSchemes.map Token.string ++ rest) := by
  constructor
  · unfold AVMetaData.readDrmSchemes
    cases hread : read Token.asInt32 ts with
    | mk count ts' =>
        cases count with
        | none => simp
        | some count =>
            obtain ⟨t, rfl, ht⟩ := read_eq_some_iff.mp hread
            obtain rfl := asInt32_eq_some.mp ht
            dsimp only
            split_ifs with hcount
            · cases hmany : readMany Token.asString count.toNat ts' with
              | mk drmSchemes ts'' =>
                  cases drmSchemes with
                  | none => simp
                  | some drmSchemes =>
                      rintro ⟨-, rfl⟩
                      obtain ⟨hlen, rfl⟩ :=
                        (readMany_eq_some_iff fun _ _ => asString_eq_some).mp hmany
                      refine ⟨drmSchemes, by omega, ?_⟩
                      rw [hlen, Int.toNat_of_nonneg hcount.1]
            · simp
  · rintro ⟨drmSchemes, hlen, rfl⟩
    have hmany : readMany Token.asString drmSchemes.length
        (drmSchemes.map Token.string ++ rest) = (some drmSchemes, rest) :=
      (readMany_eq_some_iff fun _ _ => asString_eq_some).mpr ⟨rfl, rfl⟩
    have hcount : (0 : ℤ) ≤ drmSchemes.length ∧ (drmSchemes.length : ℤ) ≤ maxDrmSchemesLen := by
      omega
    unfold AVMetaData.readDrmSchemes
    simp only [read_int32, if_pos hcount, Int.toNat_natCast, hmany, and_self]

/-- Reading the schemes leaves length and tags. -/
theorem readDrmSchemes_keeps (r : AVMetaData) (ts : List Token) :
    (r.readDrmSchemes ts).1.1.mediaLength = r.mediaLength ∧
      (r.readDrmSchemes ts).1.1.val .displayTags = r.val .displayTags := by
  unfold AVMetaData.readDrmSchemes
  split
  · split_ifs
    · split
      · exact ⟨rfl, AVMetaData.setVal_val_of_ne _ _ (by decide)⟩
      · exact ⟨rfl, rfl⟩
    · exact ⟨rfl, rfl⟩
  · exact ⟨rfl, rfl⟩

/-- An icon is read, or it is not. -/
theorem iconUnread_iff : IconUnread us rest ↔
    (read Token.asBlob us).1.getD none = none ∧ (read Token.asBlob us).2 = rest := by
  constructor
  · intro h
    cases h with
    | missing hhead =>
        rw [read_of_none]
        · exact ⟨rfl, rfl⟩
        · intro t ht
          have hnot := mt (isSome_asBlob t).mp (hhead t ht)
          simpa using hnot
    | null => exact ⟨rfl, rfl⟩
  · cases hread : read Token.asBlob us with
    | mk icon us' =>
        rintro ⟨hicon, rfl⟩
        cases icon with
        | none =>
            obtain ⟨rfl, hhead⟩ := read_eq_none_iff.mp hread
            apply IconUnread.missing
            intro t ht
            exact mt (isSome_asBlob t).mpr (by simp [hhead t ht])
        | some icon =>
            obtain rfl : icon = none := hicon
            obtain ⟨t, rfl, ht⟩ := read_eq_some_iff.mp hread
            obtain rfl := asBlob_eq_some.mp ht
            exact .null

/-- Without a mask, the reader stops at once and reports no failure. -/
theorem unmarshallingExceptImg_of_maskUnread (h : MaskUnread us rest) :
    AVMetaData.init.unmarshallingExceptImg us = ((AVMetaData.init, rest), false) := by
  unfold AVMetaData.unmarshallingExceptImg
  cases h with
  | missing hhead =>
      have hread : read Token.asString us = (none, us) := by
        apply read_of_none
        intro t ht
        have hnot := mt (isSome_asString t).mp (hhead t ht)
        simpa using hnot
      rw [hread]
      rfl
  | @unusable mask _ hmask =>
      unfold MaskUsable at hmask
      simp only [read_string, Option.getD_some]
      apply if_pos
      omega

/-- The mask is missing or it is there and usable. -/
theorem maskUnread_or_usable (us : List Token) :
    (∃ rest, MaskUnread us rest) ∨ ∃ mask vs, us = .string mask :: vs ∧ MaskUsable mask := by
  by_cases hhead : ∀ t ∈ us.head?, t.type ≠ .string
  · exact .inl ⟨us, .missing hhead⟩
  · push Not at hhead
    obtain ⟨t, ht, htype⟩ := hhead
    obtain ⟨mask, hmask⟩ := Option.isSome_iff_exists.mp ((isSome_asString t).mpr htype)
    obtain rfl := asString_eq_some.mp hmask
    obtain ⟨vs, rfl⟩ := List.head?_eq_some_iff.mp ht
    by_cases husable : MaskUsable mask
    · exact .inr ⟨mask, vs, rfl, husable⟩
    · exact .inl ⟨vs, .unusable husable⟩

/-- The object when the members and the icon have been read. -/
def afterIcon (mask : String) (us : List Token) : AVMetaData :=
  (readFields wireFields
    (AVMetaData.init.withMask (readDigits MetaKey.all mask.toList fun _ => false)) us).1.1.setVal
      .bundleIcon ((read Token.asBlob (us.drop (typedFront wireTypes us).length)).1.getD none)

/-- Behind the icon the length is still that of the typed front. -/
theorem afterIcon_mediaLength :
    (afterIcon mask us).mediaLength = mediaLengthOf (typedFront wireTypes us) :=
  readFields_mediaLength _ us rfl

/-- Behind the icon the tags are still those of the typed front. -/
theorem afterIcon_displayTags :
    (afterIcon mask us).val .displayTags = displayTagsOf (typedFront wireTypes us) := by
  unfold afterIcon
  rw [AVMetaData.setVal_val_of_ne _ _ (by decide)]
  exact readFields_displayTags _ us rfl

/-- With a mask, the reader stops and reports no failure if the icon is missing. -/
theorem unmarshallingExceptImg_of_usable (hmask : MaskUsable mask) :
    AVMetaData.init.unmarshallingExceptImg (.string mask :: us) =
      let icon := read Token.asBlob (us.drop (typedFront wireTypes us).length)
      if IconBit mask ∧ icon.1.getD none = none then ((afterIcon mask us, icon.2), false)
      else if (typedFront wireTypes us).length = wireTypes.length then
        (((afterIcon mask us).readDrmSchemes icon.2).1,
          !((afterIcon mask us).readDrmSchemes icon.2).2)
      else ((afterIcon mask us, icon.2), true) := by
  have hsize : ¬ (byteLength mask.toList = 0 ∨ byteLength mask.toList > MetaKey.all.length) := by
    unfold MaskUsable at hmask
    omega
  obtain ⟨hrest, hall⟩ := readFields_front wireFields_takes
    (AVMetaData.init.withMask (readDigits MetaKey.all mask.toList fun _ => false)) us
  have hbit : (afterIcon mask us).mask .bundleIcon = true ↔ IconBit mask := by
    unfold afterIcon IconBit
    rw [AVMetaData.setVal_mask, readFields_mask, AVMetaData.withMask_mask]
  have hicon : (afterIcon mask us).val .bundleIcon =
      (read Token.asBlob (us.drop (typedFront wireTypes us).length)).1.getD none :=
    AVMetaData.setVal_val_self ..
  unfold AVMetaData.unmarshallingExceptImg
  simp only [read_string, Option.getD_some]
  refine (if_neg hsize).trans ?_
  simp only [show AVMetaData.init.mask = fun _ => false from rfl, hrest]
  by_cases hmissing : IconBit mask ∧
      (read Token.asBlob (us.drop (typedFront wireTypes us).length)).1.getD none = none
  · rw [if_pos hmissing]
    apply if_pos
    exact ⟨hbit.mpr hmissing.1, hicon.trans hmissing.2⟩
  · rw [if_neg hmissing]
    refine (if_neg ?_).trans ?_
    · rintro ⟨hset, hnone⟩
      exact hmissing ⟨hbit.mp hset, hicon.symm.trans hnone⟩
    · by_cases hlen : (typedFront wireTypes us).length = wireTypes.length
      · rw [if_pos hlen, if_neg]
        · rfl
        · simp [hall.mpr hlen]
      · rw [if_neg hlen, if_pos]
        · rfl
        · simpa using mt hall.mp hlen

/-- The record of the icon, if there is one. -/
theorem eq_of_read_asBlob {icon : Option (Option (List UInt8))}
    (h : read Token.asBlob us = (icon, rest)) : us = (icon.map Token.blob).toList ++ rest := by
  cases icon with
  | none => exact (read_eq_none_iff.mp h).1.symm
  | some icon =>
      obtain ⟨t, rfl, ht⟩ := read_eq_some_iff.mp h
      obtain rfl := asBlob_eq_some.mp ht
      rfl

/-- The icon is read in front of the schemes. -/
theorem ObjectRecords.read_icon (o : ObjectRecords) (rest : List Token) :
    read Token.asBlob (o.tail ++ rest) = (o.icon,
      .int32 o.drmSchemes.length :: (o.drmSchemes.map Token.string ++ o.images ++ rest)) := by
  unfold ObjectRecords.tail
  cases o.icon with
  | none => rfl
  | some icon => rfl

end parts

/-! ## What is accepted -/

section accepted

variable {ts us rest : List Token} {n : ℤ}

/-- Behind a readable length the object is accepted when its parts are. -/
theorem unmarshalling_int32 : (∃ m, AVMetaData.unmarshalling (.int32 n :: us) = (some m, rest)) ↔
    (AVMetaData.init.unmarshallingExceptImg us).2 = false ∧
      ∃ m, (AVMetaData.init.unmarshallingExceptImg us).1.1.readTagsAndImages
        (AVMetaData.init.unmarshallingExceptImg us).1.2 n = (some m, rest) := by
  unfold AVMetaData.unmarshalling
  simp only [read_int32]
  by_cases hflag : (AVMetaData.init.unmarshallingExceptImg us).2 = true
  · simp [hflag]
  · simp [hflag]

/-- The records of an object are accepted, and no record after them is read. -/
theorem ObjectRecords.Readable.accepted {o : ObjectRecords} (h : o.Readable) (rest : List Token) :
    ∃ m, AVMetaData.unmarshalling (o.tokens ++ rest) = (some m, rest) := by
  have hfront : typedFront wireTypes (o.members ++ (o.tail ++ rest)) = o.members :=
    typedFront_append o.types
  have hlen : o.members.length = wireTypes.length := by
    rw [← o.types, List.length_map]
  have hicon : ¬ (IconBit o.mask ∧ o.icon.getD none = none) := by
    rintro ⟨hbit, hnone⟩
    obtain ⟨bytes, hbytes⟩ := h.icon hbit
    rw [hbytes] at hnone
    cases hnone
  obtain ⟨hread, hrest⟩ := (readDrmSchemes_iff
    (afterIcon o.mask (o.members ++ (o.tail ++ rest))) _ (o.images ++ rest)).mpr
      ⟨o.drmSchemes, h.drmSchemes, rfl⟩
  have hkeeps := readDrmSchemes_keeps (afterIcon o.mask (o.members ++ (o.tail ++ rest)))
    (.int32 o.drmSchemes.length :: (o.drmSchemes.map Token.string ++ (o.images ++ rest)))
  rw [o.tokens_append, unmarshalling_int32, unmarshallingExceptImg_of_usable h.mask]
  simp only [hfront, List.drop_left, o.read_icon, if_neg hicon, List.append_assoc]
  simp only [hlen, if_true, hread, hrest, Bool.not_true, true_and]
  rw [readTagsAndImages_iff, hkeeps.1, hkeeps.2, afterIcon_mediaLength, afterIcon_displayTags,
    hfront]
  exact ⟨h.displayTags, o.images, rfl, h.images⟩

/-- An object whose mask cannot be used is accepted all the same. -/
theorem MaskLapse.accepted (h : MaskLapse ts rest) :
    ∃ m, AVMetaData.unmarshalling ts = (some m, rest) := by
  obtain ⟨n, us, images, rfl, hunread, hfit⟩ := h
  rw [unmarshalling_int32, unmarshallingExceptImg_of_maskUnread hunread]
  refine ⟨rfl, readTagsAndImages_iff.mpr ⟨?_, images, rfl, hfit⟩⟩
  exact tagsLegal_iff.mpr (show ¬ ((0 : ℤ) < 0 ∨ (0 : ℤ) > 1) by decide)

/-- An object without an icon is accepted all the same. -/
theorem IconLapse.accepted (h : IconLapse ts rest) :
    ∃ m, AVMetaData.unmarshalling ts = (some m, rest) := by
  obtain ⟨n, mask, us, images, rfl, hmask, hbit, hunread, htags, hfit⟩ := h
  obtain ⟨hicon, hrest⟩ := iconUnread_iff.mp hunread
  rw [unmarshalling_int32, unmarshallingExceptImg_of_usable hmask]
  simp only [if_pos (And.intro hbit hicon), hrest, true_and]
  rw [readTagsAndImages_iff, afterIcon_mediaLength, afterIcon_displayTags]
  exact ⟨htags, images, rfl, hfit⟩

/-- With a mask that can be used, the icon is missing or everything that is checked is there. -/
theorem accepted_of_usable {mask : String} (hmask : MaskUsable mask)
    (h : ∃ m, AVMetaData.unmarshalling (.int32 n :: .string mask :: us) = (some m, rest)) :
    IconLapse (.int32 n :: .string mask :: us) rest ∨ ∃ o : ObjectRecords, o.Readable ∧
      .int32 n :: .string mask :: us = o.tokens ++ rest := by
  obtain ⟨hflag, himages⟩ := unmarshalling_int32.mp h
  rw [unmarshallingExceptImg_of_usable hmask] at hflag himages
  cases hicon : read Token.asBlob (us.drop (typedFront wireTypes us).length) with
  | mk icon ws =>
      simp only [hicon] at hflag himages
      by_cases hmissing : IconBit mask ∧ icon.getD none = none
      · left
        rw [if_pos hmissing, readTagsAndImages_iff, afterIcon_mediaLength,
          afterIcon_displayTags] at himages
        obtain ⟨htags, images, himages, hfit⟩ := himages
        refine ⟨n, mask, us, images, rfl, hmask, hmissing.1, iconUnread_iff.mpr ?_, htags, hfit⟩
        rw [hicon]
        exact ⟨hmissing.2, himages⟩
      · rw [if_neg hmissing] at hflag himages
        by_cases hlen : (typedFront wireTypes us).length = wireTypes.length
        · right
          rw [if_pos hlen] at hflag himages
          have hdrm : ((afterIcon mask us).readDrmSchemes ws).2 = true := by
            simpa using hflag
          obtain ⟨drmSchemes, hcount, hws⟩ := (readDrmSchemes_iff _ _ _).mp ⟨hdrm, rfl⟩
          have hkeeps := readDrmSchemes_keeps (afterIcon mask us) ws
          rw [readTagsAndImages_iff, hkeeps.1, hkeeps.2, afterIcon_mediaLength,
            afterIcon_displayTags] at himages
          obtain ⟨htags, images, himages, hfit⟩ := himages
          have hus := typedFront_append_drop wireTypes us
          rw [eq_of_read_asBlob hicon, hws, himages] at hus
          refine ⟨⟨n, mask, typedFront wireTypes us, typedFront_type hlen, icon, drmSchemes,
            images⟩, ⟨hmask, ?_, hcount, htags, hfit⟩, ?_⟩
          · intro hbit
            rcases icon with - | - | bytes
            · exact absurd ⟨hbit, rfl⟩ hmissing
            · exact absurd ⟨hbit, rfl⟩ hmissing
            · exact ⟨bytes, rfl⟩
          · rw [ObjectRecords.tokens_append]
            simp only [ObjectRecords.tail, List.cons_append, List.append_assoc]
            rw [hus]
        · rw [if_neg hlen] at hflag
          cases hflag

/-- **What is accepted, and how far it is read.** -/
theorem accepted_iff : (∃ m, AVMetaData.unmarshalling ts = (some m, rest)) ↔
    MaskLapse ts rest ∨ IconLapse ts rest ∨
      ∃ o : ObjectRecords, o.Readable ∧ ts = o.tokens ++ rest := by
  constructor
  · intro haccepted
    cases hread : read Token.asInt32 ts with
    | mk first us =>
        cases first with
        | none =>
            obtain ⟨m, hm⟩ := haccepted
            simp only [AVMetaData.unmarshalling, hread] at hm
            cases hm
        | some n =>
            obtain ⟨t, rfl, ht⟩ := read_eq_some_iff.mp hread
            obtain rfl := asInt32_eq_some.mp ht
            rcases maskUnread_or_usable us with ⟨ts', hunread⟩ | ⟨mask, vs, rfl, hmask⟩
            · obtain ⟨-, himages⟩ := unmarshalling_int32.mp haccepted
              rw [unmarshallingExceptImg_of_maskUnread hunread, readTagsAndImages_iff] at himages
              obtain ⟨-, images, rfl, hfit⟩ := himages
              exact .inl ⟨n, us, images, rfl, hunread, hfit⟩
            · exact .inr (accepted_of_usable hmask haccepted)
  · rintro (hmask | hicon | ⟨o, hreadable, rfl⟩)
    · exact hmask.accepted
    · exact hicon.accepted
    · exact hreadable.accepted rest

/-- A usable mask is read. -/
theorem not_maskUnread {mask : String} (h : MaskUsable mask) :
    ¬ MaskUnread (.string mask :: us) rest := by
  intro hunread
  cases hunread with
  | missing hhead => exact hhead _ rfl rfl
  | unusable hmask => exact hmask h

/-- The records of an object have a mask. -/
theorem MaskLapse.not_readable (h : MaskLapse ts rest) {o : ObjectRecords} (ho : o.Readable)
    (us : List Token) : ts ≠ o.tokens ++ us := by
  obtain ⟨n, vs, images, rfl, hunread, -⟩ := h
  rw [o.tokens_append]
  intro heq
  obtain ⟨-, rfl⟩ := List.cons.inj heq
  exact not_maskUnread ho.mask hunread

/-- The records of an object with the bit of an icon have an icon. -/
theorem IconLapse.not_readable (h : IconLapse ts rest) {o : ObjectRecords} (ho : o.Readable)
    (us : List Token) : ts ≠ o.tokens ++ us := by
  obtain ⟨n, mask, vs, images, rfl, -, hbit, hunread, -⟩ := h
  rw [o.tokens_append]
  intro heq
  obtain ⟨-, heq⟩ := List.cons.inj heq
  obtain ⟨hmask, rfl⟩ := List.cons.inj heq
  obtain rfl := Token.string.inj hmask
  rw [typedFront_append o.types, List.drop_left, iconUnread_iff,
    o.read_icon] at hunread
  obtain ⟨bytes, hbytes⟩ := ho.icon hbit
  rw [hbytes] at hunread
  cases hunread.1

/-- The records say what the object is. -/
theorem ObjectRecords.tidy_of_eq {o o' : ObjectRecords} {us : List Token} (ho : o.Tidy)
    (h : o.tokens ++ rest = o'.tokens ++ us) : o'.Tidy := by
  rw [o.tokens_append, o'.tokens_append] at h
  obtain ⟨hlength, h⟩ := List.cons.inj h
  obtain ⟨hmask, h⟩ := List.cons.inj h
  obtain ⟨hmembers, htail⟩ : o.members = o'.members ∧ o.tail ++ rest = o'.tail ++ us := by
    apply List.append_inj h
    rw [← List.length_map Token.type, o.types, ← o'.types, List.length_map]
  have hicon : o.icon = o'.icon := by
    have hread := congrArg (fun ts => (read Token.asBlob ts).1) htail
    simpa only [ObjectRecords.read_icon] using hread
  have hlength := Token.int32.inj hlength
  have hmask := Token.string.inj hmask
  obtain ⟨hdigits, hsome, hrange⟩ := ho
  exact ⟨hmask ▸ hdigits, hicon ▸ hsome, hmembers ▸ hlength ▸ hrange⟩

/-- **When malformed parcels are refused.** The parcel is none of those that are taken for an object
although its mask, or an icon that its mask says it has, is missing; and if it starts with the
records of an object, these are as they should be. -/
theorem rejectsMalformed_iff (ts : List Token) : RejectsMalformed ts ↔
    ∀ rest, ¬ MaskLapse ts rest ∧ ¬ IconLapse ts rest ∧
      ∀ o : ObjectRecords, o.Readable → ts = o.tokens ++ rest → o.Tidy := by
  constructor
  · intro hrejects rest
    refine ⟨?_, ?_, ?_⟩
    · intro hlapse
      obtain ⟨m, hm⟩ := hlapse.accepted
      obtain ⟨o, hwf, hts⟩ := hrejects m rest hm
      exact hlapse.not_readable hwf.1 rest hts
    · intro hlapse
      obtain ⟨m, hm⟩ := hlapse.accepted
      obtain ⟨o, hwf, hts⟩ := hrejects m rest hm
      exact hlapse.not_readable hwf.1 rest hts
    · rintro o hreadable rfl
      obtain ⟨m, hm⟩ := hreadable.accepted rest
      obtain ⟨o', hwf, heq⟩ := hrejects m rest hm
      exact ObjectRecords.tidy_of_eq hwf.2 heq.symm
  · intro hnone m rest hm
    obtain ⟨hmask, hicon, htidy⟩ := hnone rest
    rcases accepted_iff.mp ⟨m, hm⟩ with hlapse | hlapse | ⟨o, hreadable, hts⟩
    · exact absurd hlapse hmask
    · exact absurd hlapse hicon
    · exact ⟨o, ⟨hreadable, htidy o hreadable hts⟩, hts⟩

/-- Two records, the second an empty mask, are taken for an object. -/
theorem emptyMask_accepted : ¬ ∀ ts, RejectsMalformed ts := by
  intro hclaim
  obtain ⟨o, -, hts⟩ := hclaim [.int32 0, .string ""] AVMetaData.init [] rfl
  have hlen := congrArg List.length hts
  simp [ObjectRecords.tokens, ObjectRecords.tail] at hlen

end accepted

end AvSession.Meta
