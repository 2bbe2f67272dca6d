import AvSession.Lib.Parcel
import AvSession.Meta.MetaData

/-!
# Metadata in a parcel

A metadata object travels as the joint length of its two images, its members in a fixed order, the
DRM schemes, and one raw block with the bytes of both images.

* `marshalling`, `unmarshalling` — the writer and the reader, and `RoundTrip`, what is asked of them.
* `readBack` — what the reader has after the members; `unmarshallingExceptImg_head`.
* `marshalling_eq` — what a writer that reports success has left in the parcel: the result of
  writing the DRM schemes is dropped, so their records may be missing.
* `readFromParcel_spec` — the images that come out of the raw block: it is split at `mediaLength`,
  which the writer sets only for an object with a media image.
* `roundTrip_iff` — exactly when the round trip succeeds.
-/

namespace AvSession.Meta

open AvSession.Lib

/-! ## The writer -/

section writer

/-- The most bytes that the two images may have. -/
def maxImageSize : ℕ := 10 * 1024 * 1024

/-- The most DRM schemes that are written or read. -/
def maxDrmSchemesLen : ℕ := 10

/-- How the member behind a key travels. -/
structure KeyCodec where
  key : MetaKey
  put : key.Field → Token
  take : Token → Option key.Field
  take_put : ∀ v, take (put v) = some v

/-- A member as a field of the object: the reader assigns it without its bit. -/
def KeyCodec.field (c : KeyCodec) : FieldCodec AVMetaData where
  put m := c.put (m.val c.key)
  take t m := (c.take t).map (m.setVal c.key)
  copy m m' := m'.setVal c.key (m.val c.key)
  take_put m m' := by rw [c.take_put, Option.map_some]

/-- The members before the image lengths. -/
def leadingKeys : List KeyCodec :=
  [⟨.assetId, .string, Token.asString, fun _ => rfl⟩,
    ⟨.title, .string, Token.asString, fun _ => rfl⟩,
    ⟨.artist, .string, Token.asString, fun _ => rfl⟩,
    ⟨.author, .string, Token.asString, fun _ => rfl⟩,
    ⟨.avQueueName, .string, Token.asString, fun _ => rfl⟩,
    ⟨.avQueueId, .string, Token.asString, fun _ => rfl⟩,
    ⟨.avQueueImageUri, .string, Token.asString, fun _ => rfl⟩,
    ⟨.album, .string, Token.asString, fun _ => rfl⟩,
    ⟨.writer, .string, Token.asString, fun _ => rfl⟩,
    ⟨.composer, .string, Token.asString, fun _ => rfl⟩,
    ⟨.duration, .int64, Token.asInt64, fun _ => rfl⟩,
    ⟨.mediaImageUri, .string, Token.asString, fun _ => rfl⟩,
    ⟨.publishDate, .double, Token.asDouble, fun _ => rfl⟩,
    ⟨.subTitle, .string, Token.asString, fun _ => rfl⟩,
    ⟨.description, .string, Token.asString, fun _ => rfl⟩,
    ⟨.lyric, .string, Token.asString, fun _ => rfl⟩,
    ⟨.singleLyricText, .string, Token.asString, fun _ => rfl⟩,
    ⟨.previousAssetId, .string, Token.asString, fun _ => rfl⟩,
    ⟨.nextAssetId, .string, Token.asString, fun _ => rfl⟩,
    ⟨.skipIntervals, .int32, Token.asInt32, fun _ => rfl⟩,
    ⟨.fastForwardSkipIntervals, .int32, Token.asInt32, fun _ => rfl⟩,
    ⟨.rewindSkipIntervals, .int32, Token.asInt32, fun _ => rfl⟩,
    ⟨.filter, .int32, Token.asInt32, fun _ => rfl⟩]

/-- The two image lengths. -/
def lengthFields : List (FieldCodec AVMetaData) :=
  [{ put := fun m => .int32 m.mediaLength
     take := fun t m => t.asInt32.map m.setMediaLength
     copy := fun m m' => m'.setMediaLength m.mediaLength
     take_put := fun _ _ => rfl },
    { put := fun m => .int32 m.avQueueLength
      take := fun t m => t.asInt32.map m.setAVQueueLength
      copy := fun m m' => m'.setAVQueueLength m.avQueueLength
      take_put := fun _ _ => rfl }]

/-- The members after the image lengths. -/
def trailingKeys : List KeyCodec := [⟨.displayTags, .int32, Token.asInt32, fun _ => rfl⟩]

/-- The fields between the mask and the bundle icon. -/
def wireFields : List (FieldCodec AVMetaData) :=
  leadingKeys.map KeyCodec.field ++ lengthFields ++ trailingKeys.map KeyCodec.field

namespace AVMetaData

variable (m : AVMetaData) (p : Parcel)

/-- `metaMask_.to_string()`. -/
def maskString : String := String.ofList (maskDigits MetaKey.all m.mask)

/-- The records of the members, with the mask first and the bundle icon last. -/
def memberTokens : List Token :=
  .string m.maskString :: (writeFields wireFields m ++ [.blob (m.val .bundleIcon)])

/-- The records of the DRM schemes. -/
def drmTokens : List Token :=
  .int32 (m.val .drmSchemes).length :: (m.val .drmSchemes).map Token.string

/-- Source: avmeta_data.cpp, AVMetaData::WriteDrmSchemes. -/
def writeDrmSchemes : Parcel × Bool :=
  if (m.val .drmSchemes).length ≤ maxDrmSchemesLen then p.writeAll m.drmTokens else (p, false)

/-- The result of writing the DRM schemes is dropped.
Source: avmeta_data.cpp, AVMetaData::MarshallingExceptImg. -/
def marshallingExceptImg : Parcel × Bool :=
  ((m.writeDrmSchemes (p.writeAll m.memberTokens).1).1, (p.writeAll m.memberTokens).2)

/-- The bytes of an image that are sent: none of an image that is too large. -/
def imageBuffer (image : Option (List UInt8)) : List UInt8 :=
  match image with
  | some buffer => if buffer.length > maxImageSize then [] else buffer
  | none => []

/-- The writer records the lengths of the images that are there. -/
def withLengths : AVMetaData :=
  { m with
    mediaLength :=
      if m.val .mediaImage ≠ none then (imageBuffer (m.val .mediaImage)).length else m.mediaLength
    avQueueLength :=
      if m.val .avQueueImage ≠ none then (imageBuffer (m.val .avQueueImage)).length
      else m.avQueueLength }

/-- The bytes of both images. -/
def twoImages : List UInt8 :=
  imageBuffer (m.val .mediaImage) ++ imageBuffer (m.val .avQueueImage)

/-- Source: avmeta_data.cpp, AVMetaData::WriteToParcel. -/
def marshalling : (AVMetaData × Parcel) × Bool :=
  let size := p.write (.int32 m.twoImages.length)
  if size.2 then
    let members := m.withLengths.marshallingExceptImg size.1
    if members.2 then
      if 0 < m.twoImages.length ∧ m.twoImages.length ≤ maxImageSize then
        let raw := members.1.write (.raw m.twoImages)
        ((m.withLengths, raw.1), raw.2)
      else ((m.withLengths, members.1), true)
    else ((m.withLengths, members.1), false)
  else ((m.withLengths, size.1), false)

end AVMetaData

end writer

/-! ## The reader -/

section reader

namespace AVMetaData

variable (m : AVMetaData) (ts : List Token)

/-- The object with another mask. -/
def withMask (mask : MetaKey → Bool) : AVMetaData := { m with mask }

/-- The mask set is read. -/
@[simp] theorem withMask_mask (mask : MetaKey → Bool) : (m.withMask mask).mask = mask := rfl

/-- Source: avmeta_data.cpp, AVMetaData::ReadDrmSchemes. -/
def readDrmSchemes : (AVMetaData × List Token) × Bool :=
  match read Token.asInt32 ts with
  | (some n, ts') =>
      if 0 ≤ n ∧ n ≤ maxDrmSchemesLen then
        match readMany Token.asString n.toNat ts' with
        | (some drmSchemes, ts'') => ((m.setVal .drmSchemes drmSchemes, ts''), true)
        | (none, ts'') => ((m, ts''), false)
      else ((m, ts'), false)
  | (none, ts') => ((m, ts'), false)

/-- The flag is `true` on failure. A bad mask and a missing icon return `false` as well.
Source: avmeta_data.cpp, AVMetaData::UnmarshallingExceptImg. -/
def unmarshallingExceptImg : (AVMetaData × List Token) × Bool :=
  let mask := read Token.asString ts
  let digits := (mask.1.getD "").toList
  if byteLength digits = 0 ∨ byteLength digits > MetaKey.all.length then ((m, mask.2), false)
  else
    let fields := readFields wireFields (m.withMask (readDigits MetaKey.all digits m.mask)) mask.2
    let icon := read Token.asBlob fields.1.2
    let m' := fields.1.1.setVal .bundleIcon (icon.1.getD none)
    if m'.mask .bundleIcon = true ∧ m'.val .bundleIcon = none then ((m', icon.2), false)
    else if fields.2 = false then ((m', icon.2), true)
    else
      let drm := m'.readDrmSchemes icon.2
      (drm.1, !drm.2)

/-- Source: avmeta_data.cpp, AVMetaData::ReadFromParcel. -/
def readFromParcel (twoImageLength : ℤ) : Option AVMetaData × List Token :=
  match read (Token.asRaw twoImageLength) ts with
  | (some buffer, ts') =>
      if 0 ≤ m.mediaLength ∧ m.mediaLength ≤ twoImageLength then
        let media := buffer.take m.mediaLength.toNat
        let m' := if m.mediaLength > 0 then m.setMediaImage (some media) else m
        if twoImageLength ≤ m.mediaLength then (some m', ts')
        else (some (m'.setAVQueueImage (some (buffer.drop m.mediaLength.toNat))), ts')
      else (none, ts')
  | (none, ts') => (none, ts')

/-- The end of the reader: the display tags are checked, then the images are read. -/
def readTagsAndImages (twoImageLength : ℤ) : Option AVMetaData × List Token :=
  if m.val .displayTags < 0 ∨ m.val .displayTags > displayTagAll then (none, ts)
  else if 0 < twoImageLength ∧ twoImageLength ≤ maxImageSize then
    m.readFromParcel ts twoImageLength
  else (some m, ts)

/-- Source: avmeta_data.cpp, AVMetaData::Unmarshalling. -/
def unmarshalling : Option AVMetaData × List Token :=
  match read Token.asInt32 ts with
  | (some twoImageLength, ts') =>
      let members := init.unmarshallingExceptImg ts'
      if members.2 = true then (none, members.1.2)
      else members.1.1.readTagsAndImages members.1.2 twoImageLength
  | (none, ts') => (none, ts')

end AVMetaData

end reader

/-! ## Reading the members back -/

section members

/-- The fold of the copies of some fields. -/
def copyFields (fs : List (FieldCodec AVMetaData)) (m m' : AVMetaData) : AVMetaData :=
  fs.foldl (fun acc f => f.copy m acc) m'

variable {m m' : AVMetaData}

/-- Fields are copied one list after the other. -/
theorem copyFields_append (fs gs : List (FieldCodec AVMetaData)) :
    copyFields (fs ++ gs) m m' = copyFields gs m (copyFields fs m m') :=
  List.foldl_append

/-- Copying members changes neither the mask nor the lengths. -/
theorem copyFields_keys (cs : List KeyCodec) :
    (copyFields (cs.map KeyCodec.field) m m').mask = m'.mask ∧
      (copyFields (cs.map KeyCodec.field) m m').mediaLength = m'.mediaLength ∧
      (copyFields (cs.map KeyCodec.field) m m').avQueueLength = m'.avQueueLength := by
  induction cs generalizing m' with
  | nil => exact ⟨rfl, rfl, rfl⟩
  | cons c cs ih => exact @ih (m'.setVal c.key (m.val c.key))

/-- Copying members takes the listed values and keeps the others. -/
theorem copyFields_keys_val (cs : List KeyCodec) (k : MetaKey) :
    (copyFields (cs.map KeyCodec.field) m m').val k =
      if k ∈ cs.map KeyCodec.key then m.val k else m'.val k := by
  induction cs generalizing m' with
  | nil => exact (if_neg List.not_mem_nil).symm
  | cons c cs ih =>
      show (copyFields (cs.map KeyCodec.field) m (m'.setVal c.key (m.val c.key))).val k = _
      rw [ih, List.map_cons]
      by_cases hk : k ∈ cs.map KeyCodec.key
      · rw [if_pos hk, if_pos (List.mem_cons_of_mem _ hk)]
      · rw [if_neg hk]
        by_cases hkc : k = c.key
        · subst hkc
          rw [if_pos List.mem_cons_self, AVMetaData.setVal_val_self]
        · rw [AVMetaData.setVal_val_of_ne _ _ hkc, if_neg]
          exact fun hmem => (List.mem_cons.mp hmem).elim hkc hk

/-- The members that travel as records of their own. -/
def IsMember (k : MetaKey) : Prop :=
  k.type ≠ .image ∧ k ≠ .drmSchemes

/-- What the reader has once it has read the members of `m`. -/
def readBack (m : AVMetaData) : AVMetaData :=
  (copyFields wireFields m (AVMetaData.init.withMask m.mask)).setVal .bundleIcon
    (m.val .bundleIcon)

/-- The wire's fields are the leading ones, the two lengths and the trailing ones. -/
theorem copyFields_wireFields : copyFields wireFields m m' =
    copyFields (trailingKeys.map KeyCodec.field) m
      (((copyFields (leadingKeys.map KeyCodec.field) m m').setMediaLength
        m.mediaLength).setAVQueueLength m.avQueueLength) := by
  unfold wireFields
  rw [copyFields_append, copyFields_append]
  generalize copyFields (leadingKeys.map KeyCodec.field) m m' = r
  rfl

/-- The mask is read back. -/
@[simp] theorem readBack_mask : (readBack m).mask = m.mask := by
  unfold readBack
  rw [AVMetaData.setVal_mask, copyFields_wireFields, (copyFields_keys trailingKeys).1,
    AVMetaData.setAVQueueLength_mask, AVMetaData.setMediaLength_mask,
    (copyFields_keys leadingKeys).1, AVMetaData.withMask_mask]

/-- The length of the media image is read back. -/
@[simp] theorem readBack_mediaLength : (readBack m).mediaLength = m.mediaLength := by
  unfold readBack
  rw [AVMetaData.setVal_mediaLength, copyFields_wireFields, (copyFields_keys trailingKeys).2.1,
    AVMetaData.setAVQueueLength_mediaLength, AVMetaData.setMediaLength_mediaLength]

/-- The length of the queue image is read back. -/
@[simp] theorem readBack_avQueueLength : (readBack m).avQueueLength = m.avQueueLength := by
  unfold readBack
  rw [AVMetaData.setVal_avQueueLength, copyFields_wireFields, (copyFields_keys trailingKeys).2.2,
    AVMetaData.setAVQueueLength_avQueueLength]

/-- The bundle icon is read back. -/
@[simp] theorem readBack_bundleIcon : (readBack m).val .bundleIcon = m.val .bundleIcon :=
  AVMetaData.setVal_val_self ..

/-- What the wire carries is read back, the rest has its initial value. -/
theorem readBack_val {k : MetaKey} (hk : k ≠ .bundleIcon) : (readBack m).val k =
    if k ∈ (leadingKeys ++ trailingKeys).map KeyCodec.key then m.val k else k.initial := by
  unfold readBack
  rw [AVMetaData.setVal_val_of_ne _ _ hk, copyFields_wireFields, copyFields_keys_val,
    AVMetaData.setAVQueueLength_val, AVMetaData.setMediaLength_val, copyFields_keys_val,
    List.map_append]
  by_cases htrailing : k ∈ trailingKeys.map KeyCodec.key
  · rw [if_pos htrailing, if_pos (List.mem_append_right _ htrailing)]
  · rw [if_neg htrailing]
    by_cases hleading : k ∈ leadingKeys.map KeyCodec.key
    · rw [if_pos hleading, if_pos (List.mem_append_left _ hleading)]
    · rw [if_neg hleading, if_neg fun h => (List.mem_append.mp h).elim hleading htrailing]
      rfl

/-- The members compared are all read back. -/
theorem readBack_member {k : MetaKey} (hk : IsMember k) : (readBack m).val k = m.val k := by
  obtain ⟨himage, hdrm⟩ := hk
  rw [readBack_val (by rintro rfl; exact himage rfl), if_pos]
  cases k with
  | avQueueImage | mediaImage | bundleIcon => exact absurd rfl himage
  | drmSchemes => exact absurd rfl hdrm
  | _ => decide

/-- The schemes are left to the part behind. -/
@[simp] theorem readBack_drmSchemes : (readBack m).val .drmSchemes = ([] : List String) :=
  (readBack_val (by decide)).trans (if_neg (by decide))

/-- The media image is left to the part behind. -/
@[simp] theorem readBack_mediaImage : (readBack m).val .mediaImage = none :=
  (readBack_val (by decide)).trans (if_neg (by decide))

/-- The queue image is left to the part behind. -/
@[simp] theorem readBack_avQueueImage : (readBack m).val .avQueueImage = none :=
  (readBack_val (by decide)).trans (if_neg (by decide))

/-- The object says that it has an icon, but it has none. -/
def AVMetaData.IconMissing (m : AVMetaData) : Prop :=
  m.mask .bundleIcon = true ∧ m.val .bundleIcon = none

instance (m : AVMetaData) : Decidable m.IconMissing :=
  inferInstanceAs (Decidable (m.mask .bundleIcon = true ∧ m.val .bundleIcon = none))

/-- What the reader makes of the members that were written: with a missing icon it stops there, and
reports no failure. -/
theorem unmarshallingExceptImg_memberTokens (m : AVMetaData) (ts : List Token) :
    AVMetaData.init.unmarshallingExceptImg (m.memberTokens ++ ts) =
      if m.IconMissing then ((readBack m, ts), false)
      else (((readBack m).readDrmSchemes ts).1, !((readBack m).readDrmSchemes ts).2) := by
  have hdigits : m.maskString.toList = maskDigits MetaKey.all m.mask := String.toList_ofList
  have hmask : readDigits MetaKey.all (maskDigits MetaKey.all m.mask) AVMetaData.init.mask =
      m.mask := readDigits_maskDigits_of_complete MetaKey.nodup_all MetaKey.mem_all m.mask
  have hfields : readFields wireFields (AVMetaData.init.withMask m.mask)
      (writeFields wireFields m ++ [.blob (m.val .bundleIcon)] ++ ts) =
      ((copyFields wireFields m (AVMetaData.init.withMask m.mask),
        .blob (m.val .bundleIcon) :: ts), true) := by
    rw [List.append_assoc]
    exact readFields_writeFields ..
  have hback : (copyFields wireFields m (AVMetaData.init.withMask m.mask)).setVal .bundleIcon
      (m.val .bundleIcon) = readBack m := rfl
  unfold AVMetaData.unmarshallingExceptImg AVMetaData.memberTokens
  simp only [List.cons_append, read_string, Option.getD_some, hdigits, byteLength_maskDigits,
    MetaKey.length_all, hmask, hfields, read_blob, hback, readBack_mask, readBack_bundleIcon]
  rw [if_neg (by decide)]
  by_cases hicon : m.IconMissing
  · rw [if_pos hicon]
    exact if_pos hicon
  · rw [if_neg hicon]
    exact (if_neg hicon).trans (if_neg Bool.noConfusion)

end members

/-! ## The DRM schemes and the images -/

section rest

variable {m r : AVMetaData} {us ts : List Token}

/-- A list of schemes within the limit is read back. -/
theorem readDrmSchemes_drmTokens (h : (m.val .drmSchemes).length ≤ maxDrmSchemesLen) :
    r.readDrmSchemes (m.drmTokens ++ ts) =
      ((r.setVal .drmSchemes (m.val .drmSchemes), ts), true) := by
  have hmany : readMany Token.asString (m.val .drmSchemes).length
      ((m.val .drmSchemes).map Token.string ++ ts) = (some (m.val .drmSchemes), ts) :=
    readMany_map Token.string (fun _ => rfl) _ _
  unfold AVMetaData.readDrmSchemes AVMetaData.drmTokens
  simp only [List.cons_append, read_int32, Int.toNat_natCast, hmany]
  rw [if_pos ⟨Int.natCast_nonneg _, Int.ofNat_le.mpr h⟩]

/-- With some of the records missing, the schemes are not read. -/
theorem readDrmSchemes_of_incomplete (hus : us <+: m.drmTokens) (hne : us ≠ m.drmTokens)
    (hint : ∀ t ∈ ts.head?, Token.asInt32 t = none)
    (hstring : ∀ t ∈ ts.head?, Token.asString t = none) :
    (r.readDrmSchemes (us ++ ts)).2 = false := by
  cases us with
  | nil =>
      unfold AVMetaData.readDrmSchemes
      rw [List.nil_append, read_of_none hint]
  | cons t us =>
      obtain ⟨rfl, hstrings⟩ := List.cons_prefix_cons.mp hus
      obtain ⟨schemes, rest, hschemes, rfl⟩ :
          ∃ schemes rest, schemes ++ rest = m.val .drmSchemes ∧ us = schemes.map Token.string := by
        obtain ⟨rest, hrest⟩ := hstrings
        obtain ⟨schemes, rest', hsplit, hmap, -⟩ := List.map_eq_append_iff.mp hrest.symm
        exact ⟨schemes, rest', hsplit.symm, hmap.symm⟩
      have hshort : schemes.length < (m.val .drmSchemes).length := by
        rw [← hschemes, List.length_append]
        have hrest : rest ≠ [] := by
          rintro rfl
          rw [List.append_nil] at hschemes
          exact hne (by rw [hschemes]; rfl)
        have := List.length_pos_iff.mpr hrest
        omega
      have hmany := readMany_of_short Token.string (fun _ => rfl) schemes hshort hstring
      unfold AVMetaData.readDrmSchemes
      simp only [List.cons_append, read_int32, Int.toNat_natCast]
      split_ifs
      · cases hread : readMany Token.asString (m.val .drmSchemes).length
            (schemes.map Token.string ++ ts) with
        | mk result rest' =>
            rw [hread] at hmany
            obtain rfl : result = none := hmany
            rfl
      · rfl

/-- The images that were read. -/
def withImages (r : AVMetaData) (media avQueue : List UInt8) : AVMetaData :=
  let r' := if media = [] then r else r.setMediaImage (some media)
  if avQueue = [] then r' else r'.setAVQueueImage (some avQueue)

/-- The raw block is split at `mediaLength`. -/
theorem readFromParcel_spec (r : AVMetaData) (bytes : List UInt8) (ts : List Token) :
    r.readFromParcel (.raw bytes :: ts) bytes.length =
      if 0 ≤ r.mediaLength ∧ r.mediaLength ≤ bytes.length then
        (some (withImages r (bytes.take r.mediaLength.toNat) (bytes.drop r.mediaLength.toNat)), ts)
      else (none, ts) := by
  unfold AVMetaData.readFromParcel
  simp only [read_raw]
  by_cases hrange : 0 ≤ r.mediaLength ∧ r.mediaLength ≤ bytes.length
  · rw [if_pos hrange, if_pos hrange]
    have htake : bytes.take r.mediaLength.toNat = [] ↔ ¬ r.mediaLength > 0 := by
      rw [List.take_eq_nil_iff, ← List.length_eq_zero_iff]
      omega
    have hdrop : bytes.drop r.mediaLength.toNat = [] ↔ (bytes.length : ℤ) ≤ r.mediaLength := by
      rw [List.drop_eq_nil_iff]
      omega
    unfold withImages
    simp only [htake, hdrop, ite_not]
    split_ifs <;> rfl
  · rw [if_neg hrange, if_neg hrange]

/-- Reading the images touches nothing but the images and their bits. -/
theorem withImages_val {media avQueue : List UInt8} {k : MetaKey} (hmedia : k ≠ .mediaImage)
    (havQueue : k ≠ .avQueueImage) : (withImages r media avQueue).val k = r.val k := by
  have hset : ∀ m : AVMetaData, (if avQueue = [] then m
      else m.setAVQueueImage (some avQueue)).val k = m.val k := by
    intro m
    split_ifs
    · rfl
    · exact AVMetaData.set_val_of_ne _ _ havQueue
  unfold withImages
  rw [hset]
  split_ifs
  · rfl
  · exact AVMetaData.set_val_of_ne _ _ hmedia

/-- The image part changes the two images only. -/
theorem readFromParcel_val {m' : AVMetaData} {n : ℤ} {k : MetaKey}
    (h : (r.readFromParcel ts n).1 = some m') (hmedia : k ≠ .mediaImage)
    (havQueue : k ≠ .avQueueImage) : m'.val k = r.val k := by
  have hset : ∀ (m : AVMetaData) (image : Option (List UInt8)),
      (m.setMediaImage image).val k = m.val k ∧ (m.setAVQueueImage image).val k = m.val k :=
    fun m image => ⟨AVMetaData.set_val_of_ne _ _ hmedia, AVMetaData.set_val_of_ne _ _ havQueue⟩
  unfold AVMetaData.readFromParcel at h
  cases hread : read (Token.asRaw n) ts with
  | mk buffer ts' =>
      rw [hread] at h
      cases buffer with
      | none => cases h
      | some buffer =>
          dsimp only at h
          split_ifs at h
          all_goals
            obtain rfl := Option.some.inj h
            simp only [hset]

/-- The end of the reader touches nothing but the images. -/
theorem readTagsAndImages_val {m' : AVMetaData} {n : ℤ} {k : MetaKey}
    (h : (r.readTagsAndImages ts n).1 = some m') (hmedia : k ≠ .mediaImage)
    (havQueue : k ≠ .avQueueImage) : m'.val k = r.val k := by
  unfold AVMetaData.readTagsAndImages at h
  split_ifs at h
  · exact readFromParcel_val h hmedia havQueue
  · obtain rfl := Option.some.inj h
    rfl

/-- Without images, the records that are left do not matter. -/
theorem readTagsAndImages_zero (r : AVMetaData) (ts ts' : List Token) :
    (r.readTagsAndImages ts 0).1 = (r.readTagsAndImages ts' 0).1 := by
  have hzero : ¬ ((0 : ℤ) < 0 ∧ (0 : ℤ) ≤ maxImageSize) := fun h => absurd h.1 (Int.lt_irrefl 0)
  unfold AVMetaData.readTagsAndImages
  rw [if_neg hzero, if_neg hzero]
  split_ifs <;> rfl

/-- With another record where the raw block is expected, nothing is returned. -/
theorem readTagsAndImages_of_not_raw {n : ℕ}
    (h : ∀ t ∈ ts.head?, Token.asRaw n t = none) (hpos : 0 < n) (hn : n ≤ maxImageSize) :
    (r.readTagsAndImages ts n).1 = none := by
  unfold AVMetaData.readTagsAndImages
  split_ifs with htags hvalid
  · rfl
  · unfold AVMetaData.readFromParcel
    rw [read_of_none h]
  · exact absurd ⟨by omega, by omega⟩ hvalid

end rest

/-! ## The written parcel -/

section written

namespace AVMetaData

variable (m : AVMetaData) (p : Parcel)

/-- The raw block, if there is one. -/
def rawTokens : List Token :=
  if 0 < m.twoImages.length ∧ m.twoImages.length ≤ maxImageSize then [.raw m.twoImages] else []

/-- The image part starts with a raw block. -/
theorem eq_raw_of_mem_head {t : Token} (h : t ∈ m.rawTokens.head?) : ∃ v, t = .raw v := by
  unfold rawTokens at h
  split_ifs at h
  · obtain rfl := Option.some.inj h
    exact ⟨_, rfl⟩
  · cases h

/-- The parcel when the members have been written. -/
def afterMembers : Parcel :=
  p.push (.int32 m.twoImages.length :: m.withLengths.memberTokens)

/-- The DRM schemes are not too many, and the parcel has room for them. -/
def DrmWritten : Prop :=
  (m.val .drmSchemes).length ≤ maxDrmSchemesLen ∧
    (m.afterMembers p).acceptsAll m.drmTokens = true

/-- The records that the writer has added. -/
def written : List Token := (m.marshalling p).1.2.tokens.drop p.tokens.length

variable {m p}

/-- The schemes are written up to where the parcel or the limit stops them. -/
theorem writeDrmSchemes_eq (m : AVMetaData) (p : Parcel) :
    ∃ us, us <+: m.drmTokens ∧ (m.writeDrmSchemes p).1 = p.push us ∧
      (us = m.drmTokens ↔
        (m.val .drmSchemes).length ≤ maxDrmSchemesLen ∧ p.acceptsAll m.drmTokens = true) := by
  unfold writeDrmSchemes
  split_ifs with hlen
  · obtain ⟨us, hus, hparcel, hall⟩ := p.writeAll_eq m.drmTokens
    refine ⟨us, hus, hparcel, ?_⟩
    rw [← hall, Parcel.writeAll_snd]
    exact (and_iff_right hlen).symm
  · refine ⟨[], List.nil_prefix, (p.push_nil).symm, fun h => ?_, fun h => absurd h.1 hlen⟩
    cases h

/-- **What a writer that reports success has written.** Some of the records of the DRM schemes may
be missing. -/
theorem marshalling_eq (h : (m.marshalling p).2 = true) :
    ∃ us, us <+: m.drmTokens ∧ (us = m.drmTokens ↔ m.DrmWritten p) ∧
      (m.marshalling p).1 = (m.withLengths, (m.afterMembers p).push (us ++ m.rawTokens)) := by
  unfold marshalling at h ⊢
  dsimp only at h ⊢
  cases hsize : (p.write (.int32 m.twoImages.length)).2 with
  | false =>
      rw [hsize] at h
      cases h
  | true =>
      rw [hsize, if_pos rfl, Parcel.write_of_true hsize] at h
      rw [if_pos rfl, Parcel.write_of_true hsize]
      cases hmembers : (m.withLengths.marshallingExceptImg
          (p.push [.int32 m.twoImages.length])).2 with
      | false =>
          rw [hmembers] at h
          cases h
      | true =>
          rw [hmembers, if_pos rfl] at h
          rw [if_pos rfl]
          have hparcel := Parcel.writeAll_of_true hmembers
          have hafter : (p.push [.int32 m.twoImages.length]).push m.withLengths.memberTokens =
              m.afterMembers p := Parcel.push_push ..
          obtain ⟨us, hus, hdrm, hall⟩ :=
            writeDrmSchemes_eq m.withLengths (m.afterMembers p)
          have hexcept : (m.withLengths.marshallingExceptImg
              (p.push [.int32 m.twoImages.length])).1 = (m.afterMembers p).push us := by
            unfold marshallingExceptImg
            rw [hparcel, hafter, hdrm]
          rw [hexcept] at h ⊢
          refine ⟨us, hus, hall, ?_⟩
          unfold rawTokens
          split_ifs at h ⊢ with himages
          · rw [Parcel.write_of_true h, Parcel.push_push]
          · rw [List.append_nil]

end AVMetaData

end written

/-! ## The round trip -/

section roundTrip

/-- Two objects with the same mask and the same members. Images are compared as bytes, and an absent
image is empty. -/
structure SameContents (m m' : AVMetaData) : Prop where
  mask : m'.mask = m.mask
  val : ∀ k, k.type ≠ .image → m'.val k = m.val k
  mediaImage : (m'.val .mediaImage).getD [] = (m.val .mediaImage).getD []
  avQueueImage : (m'.val .avQueueImage).getD [] = (m.val .avQueueImage).getD []
  bundleIcon : (m'.val .bundleIcon).getD [] = (m.val .bundleIcon).getD []
  mediaLength : m'.mediaLength = m.mediaLength
  avQueueLength : m'.avQueueLength = m.avQueueLength

/-- What was written is read back. -/
def RoundTrip (m : AVMetaData) (p : Parcel) : Prop :=
  ∃ m', (AVMetaData.unmarshalling (m.written p)).1 = some m' ∧
    SameContents (m.marshalling p).1.1 m'

/-- All that was written before the images has been read. -/
structure Restored (m r : AVMetaData) : Prop where
  mask : r.mask = m.mask
  val : ∀ k, k.type ≠ .image → r.val k = m.val k
  mediaImage : r.val .mediaImage = none
  avQueueImage : r.val .avQueueImage = none
  bundleIcon : r.val .bundleIcon = m.val .bundleIcon
  mediaLength : r.mediaLength = m.mediaLength
  avQueueLength : r.avQueueLength = m.avQueueLength

variable {m r : AVMetaData} {p : Parcel}

/-- Without schemes the read-back object is the written one. -/
theorem restored_readBack (h : m.val .drmSchemes = ([] : List String)) :
    Restored m (readBack m) where
  mask := readBack_mask
  val k hk := by
    by_cases hdrm : k = .drmSchemes
    · subst hdrm
      rw [readBack_drmSchemes, h]
    · exact readBack_member ⟨hk, hdrm⟩
  mediaImage := readBack_mediaImage
  avQueueImage := readBack_avQueueImage
  bundleIcon := readBack_bundleIcon
  mediaLength := readBack_mediaLength
  avQueueLength := readBack_avQueueLength

/-- With the schemes put in it is the written one. -/
theorem restored_readBack_drmSchemes (m : AVMetaData) :
    Restored m ((readBack m).setVal .drmSchemes (m.val .drmSchemes)) where
  mask := (AVMetaData.setVal_mask _ _).trans readBack_mask
  val k hk := by
    by_cases hdrm : k = .drmSchemes
    · subst hdrm
      exact AVMetaData.setVal_val_self ..
    · rw [AVMetaData.setVal_val_of_ne _ _ hdrm]
      exact readBack_member ⟨hk, hdrm⟩
  mediaImage := (AVMetaData.setVal_val_of_ne _ _ (by decide)).trans readBack_mediaImage
  avQueueImage := (AVMetaData.setVal_val_of_ne _ _ (by decide)).trans readBack_avQueueImage
  bundleIcon := (AVMetaData.setVal_val_of_ne _ _ (by decide)).trans readBack_bundleIcon
  mediaLength := (AVMetaData.setVal_mediaLength _ _).trans readBack_mediaLength
  avQueueLength := (AVMetaData.setVal_avQueueLength _ _).trans readBack_avQueueLength

/-- The media image that comes out is the first part of the block. -/
theorem Restored.withImages_mediaImage (h : Restored m r) (media avQueue : List UInt8) :
    ((withImages r media avQueue).val .mediaImage).getD [] = media := by
  have hset : ∀ m : AVMetaData, (if avQueue = [] then m
      else m.setAVQueueImage (some avQueue)).val .mediaImage = m.val .mediaImage := by
    intro m
    split_ifs
    · rfl
    · exact AVMetaData.set_val_of_ne _ _ (by decide)
  unfold withImages
  rw [hset]
  split_ifs with hmedia
  · rw [h.mediaImage, hmedia]
    rfl
  · show ((r.set .mediaImage (some media)).val .mediaImage).getD [] = media
    rw [AVMetaData.set_val_self]
    rfl

/-- The queue image that comes out is the second part of the block. -/
theorem Restored.withImages_avQueueImage (h : Restored m r) (media avQueue : List UInt8) :
    ((withImages r media avQueue).val .avQueueImage).getD [] = avQueue := by
  unfold withImages
  dsimp only
  split_ifs with havQueue hmedia hmedia
  · rw [h.avQueueImage, havQueue]
    rfl
  · show ((r.set .mediaImage (some media)).val .avQueueImage).getD [] = avQueue
    rw [AVMetaData.set_val_of_ne _ _ (by decide), h.avQueueImage, havQueue]
    rfl
  · show ((r.set .avQueueImage (some avQueue)).val .avQueueImage).getD [] = avQueue
    rw [AVMetaData.set_val_self]
    rfl
  · show (((r.setMediaImage (some media)).set .avQueueImage (some avQueue)).val
      .avQueueImage).getD [] = avQueue
    rw [AVMetaData.set_val_self]
    rfl

/-- With the bits of the images in place, reading them changes no bit. -/
theorem withImages_mask {media avQueue : List UInt8}
    (hmedia : media ≠ [] → r.mask .mediaImage = true)
    (havQueue : avQueue ≠ [] → r.mask .avQueueImage = true) :
    (withImages r media avQueue).mask = r.mask := by
  have hset : ∀ (m : AVMetaData) (k : MetaKey) (v : k.Field), m.mask k = true →
      (m.set k v).mask = m.mask := by
    intro m k v hbit
    funext l
    by_cases hlk : l = k
    · subst hlk
      rw [AVMetaData.set_mask_self, hbit]
    · exact AVMetaData.set_mask_of_ne _ _ hlk
  unfold withImages
  dsimp only
  split_ifs with hqueue hempty hempty
  · rfl
  · exact hset _ _ _ (hmedia hempty)
  · exact hset _ _ _ (havQueue hqueue)
  · have hfirst := hset r .mediaImage (some media) (hmedia hempty)
    refine (hset (r.setMediaImage (some media)) _ _ ?_).trans hfirst
    exact (congrFun hfirst _).trans (havQueue hqueue)

/-- If the block is split where it was joined, the contents are the same. -/
theorem Restored.sameContents (h : Restored m r) (hwf : m.WellFormed) :
    SameContents m (withImages r ((m.val .mediaImage).getD []) ((m.val .avQueueImage).getD [])) where
  mask := by
    have hbit : ∀ k, k ≠ .filter → m.val k ≠ k.initial → r.mask k = true := by
      intro k hk hval
      rw [h.mask]
      by_contra hunset
      exact hval (hwf.unset k hk (Bool.eq_false_iff.mpr hunset))
    rw [withImages_mask, h.mask]
    · intro himage
      refine hbit _ (by decide) fun hnone => himage ?_
      rw [hnone]
      rfl
    · intro himage
      refine hbit _ (by decide) fun hnone => himage ?_
      rw [hnone]
      rfl
  val k hk := by
    rw [withImages_val (by rintro rfl; exact hk rfl) (by rintro rfl; exact hk rfl)]
    exact h.val k hk
  mediaImage := h.withImages_mediaImage ..
  avQueueImage := h.withImages_avQueueImage ..
  bundleIcon := by
    rw [withImages_val (by decide) (by decide), h.bundleIcon]
  mediaLength := by
    unfold withImages
    dsimp only
    split_ifs <;> exact h.mediaLength
  avQueueLength := by
    unfold withImages
    dsimp only
    split_ifs <;> exact h.avQueueLength

/-! ### Exactly when it succeeds -/

/-- The condition: the DRM schemes fit (with a missing icon the reader stops before them, so there
must be none, and their count must not stand before a raw block), and without a media image no
length is left from an earlier one. -/
structure Codable (m : AVMetaData) (p : Parcel) : Prop where
  schemes : ¬ m.IconMissing → m.DrmWritten p
  noSchemes : m.IconMissing →
    m.val .drmSchemes = ([] : List String) ∧ (m.twoImages = [] ∨ ¬ m.DrmWritten p)
  split : m.val .mediaImage = none → m.twoImages ≠ [] → m.mediaLength = 0

/-- An image within the limit is kept whole. -/
theorem imageBuffer_of_le {image : Option (List UInt8)}
    (h : (image.getD []).length ≤ maxImageSize) : AVMetaData.imageBuffer image = image.getD [] := by
  cases image with
  | none => rfl
  | some buffer => exact if_neg (Nat.not_lt.mpr h)

variable (hwf : m.WellFormed)
  (hsize : ((m.val .mediaImage).getD []).length + ((m.val .avQueueImage).getD []).length ≤
    maxImageSize)

include hsize in
/-- The two images lie behind one another. -/
theorem twoImages_eq :
    m.twoImages = (m.val .mediaImage).getD [] ++ (m.val .avQueueImage).getD [] := by
  unfold AVMetaData.twoImages
  rw [imageBuffer_of_le (by omega), imageBuffer_of_le (by omega)]

include hwf hsize in
/-- The images come out as they went in exactly if the block is split where it was joined. -/
theorem Restored.images_iff (h : Restored m.withLengths r) :
    (∃ m', (r.readTagsAndImages m.rawTokens m.twoImages.length).1 = some m' ∧
      SameContents m.withLengths m') ↔
      (m.val .mediaImage = none → m.twoImages ≠ [] → m.mediaLength = 0) := by
  have hbytes := twoImages_eq hsize
  have hlen : m.twoImages.length ≤ maxImageSize := by
    rw [hbytes, List.length_append]
    exact hsize
  have htags : ¬ (r.val .displayTags < 0 ∨ r.val .displayTags > AVMetaData.displayTagAll) := by
    rw [h.val .displayTags (by decide), not_or, Int.not_lt, Int.not_lt]
    exact hwf.tags
  have hsame : SameContents m.withLengths
      (withImages r ((m.val .mediaImage).getD []) ((m.val .avQueueImage).getD [])) :=
    h.sameContents ⟨hwf.tags, hwf.unset⟩
  unfold AVMetaData.readTagsAndImages AVMetaData.rawTokens
  rw [if_neg htags]
  by_cases hempty : m.twoImages = []
  · rw [if_neg (by rw [hempty]; decide)]
    obtain ⟨hmedia, havQueue⟩ := List.append_eq_nil_iff.mp (hbytes.symm.trans hempty)
    rw [hmedia, havQueue] at hsame
    exact ⟨fun _ _ hne => absurd hempty hne, fun _ => ⟨r, rfl, hsame⟩⟩
  · have hpos := List.length_pos_iff.mpr hempty
    rw [if_pos ⟨by omega, by omega⟩, if_pos ⟨hpos, hlen⟩, readFromParcel_spec, h.mediaLength]
    by_cases hmedia : m.val .mediaImage = none
    · -- the block is the queue image, and the split is left from an earlier image
      have hlength : m.withLengths.mediaLength = m.mediaLength := if_neg (not_not.mpr hmedia)
      have hqueue : m.twoImages = (m.val .avQueueImage).getD [] := by
        rw [hbytes, hmedia]
        rfl
      rw [hlength]
      constructor
      · rintro ⟨m', hread, hcontents⟩ - -
        split_ifs at hread with hrange
        · obtain rfl := Option.some.inj hread
          have htake : m.twoImages.take m.mediaLength.toNat = [] := by
            rw [← h.withImages_mediaImage (m.twoImages.take m.mediaLength.toNat)
              (m.twoImages.drop m.mediaLength.toNat), hcontents.mediaImage]
            exact congrArg (fun image => Option.getD image []) hmedia
          have hzero := (List.take_eq_nil_iff.mp htake).resolve_right hempty
          omega
      · intro hzero
        rw [hzero hmedia hempty, if_pos ⟨Int.le_refl 0, by omega⟩]
        refine ⟨_, rfl, ?_⟩
        rw [hmedia, ← hqueue] at hsame
        exact hsame
    · -- the split is the length of the media image
      obtain ⟨media, hsome⟩ := Option.ne_none_iff_exists'.mp hmedia
      have hlength : m.withLengths.mediaLength = (media.length : ℤ) := by
        refine (if_pos hmedia).trans ?_
        rw [imageBuffer_of_le (by omega), hsome]
        rfl
      rw [hsome] at hbytes hsame
      change m.twoImages = media ++ (m.val .avQueueImage).getD [] at hbytes
      have hrange : (media.length : ℤ) ≤ m.twoImages.length := by
        rw [hbytes, List.length_append]
        omega
      rw [hlength, if_pos ⟨by omega, hrange⟩, Int.toNat_natCast, hbytes, List.take_left,
        List.drop_left]
      exact ⟨fun _ hnone => absurd hnone hmedia, fun _ => ⟨_, rfl, hsame⟩⟩

include hwf hsize in
/-- Without its icon the members end before the schemes, and the schemes are not looked at. -/
theorem readTagsAndImages_iff_codable {us : List Token} (hus : us <+: m.drmTokens)
    (hall : us = m.drmTokens ↔ m.DrmWritten p) (hmissing : m.IconMissing) :
    (∃ m', ((readBack m.withLengths).readTagsAndImages (us ++ m.rawTokens)
      m.twoImages.length).1 = some m' ∧ SameContents m.withLengths m') ↔ Codable m p := by
  by_cases hdrm : m.val .drmSchemes = ([] : List String)
  · have himages := (restored_readBack (m := m.withLengths) hdrm).images_iff hwf hsize
    by_cases hdrmWritten : m.DrmWritten p
    · by_cases hempty : m.twoImages = []
      · have hread := readTagsAndImages_zero (readBack m.withLengths) (us ++ m.rawTokens)
          m.rawTokens
        have hlen : (m.twoImages.length : ℤ) = 0 := by rw [hempty]; rfl
        rw [hlen] at himages ⊢
        rw [hread]
        refine himages.trans ?_
        exact ⟨fun hsplit => ⟨fun hicon => absurd hmissing hicon,
          fun _ => ⟨hdrm, .inl hempty⟩, hsplit⟩, fun hcodable => hcodable.split⟩
      · -- the count of the schemes stands where the raw block is expected
        obtain rfl := hall.mpr hdrmWritten
        have hpos := List.length_pos_iff.mpr hempty
        have hlen : m.twoImages.length ≤ maxImageSize := by
          rw [twoImages_eq hsize, List.length_append]
          exact hsize
        refine ⟨?_, fun hcodable => ?_⟩
        · rintro ⟨m', hread, -⟩
          rw [readTagsAndImages_of_not_raw (fun t ht => ?_) hpos hlen] at hread
          · cases hread
          · obtain rfl := Option.some.inj ht
            rfl
        · exact ((hcodable.noSchemes hmissing).2.elim hempty (· hdrmWritten)).elim
    · -- the only record of the schemes was refused
      have hnil : us = [] := by
        have hne := mt hall.mp hdrmWritten
        unfold AVMetaData.drmTokens at hus hne
        rw [hdrm] at hus hne
        rcases List.prefix_cons_iff.mp hus with hnil | ⟨us', rfl, hus'⟩
        · exact hnil
        · rw [List.map_nil, List.prefix_nil] at hus'
          exact absurd (by rw [hus', List.map_nil]) hne
      rw [hnil]
      refine himages.trans ?_
      exact ⟨fun hsplit => ⟨fun hicon => absurd hmissing hicon,
        fun _ => ⟨hdrm, .inr hdrmWritten⟩, hsplit⟩, fun hcodable => hcodable.split⟩
  · refine ⟨?_, fun hcodable => absurd (hcodable.noSchemes hmissing).1 hdrm⟩
    rintro ⟨m', hread, hcontents⟩
    have hlost : m'.val .drmSchemes = ([] : List String) :=
      (readTagsAndImages_val hread (by decide) (by decide)).trans readBack_drmSchemes
    exact absurd ((hcontents.val .drmSchemes (by decide)).symm.trans hlost) hdrm

include hwf hsize in
/-- **The codec round trip.** If the writer reports success, the reader gives the object back
exactly if the object is codable. -/
theorem roundTrip_iff_codable (h : (m.marshalling p).2 = true) :
    RoundTrip m p ↔ Codable m p := by
  obtain ⟨us, hus, hall, hparcel⟩ := AVMetaData.marshalling_eq h
  have hwritten : m.written p = .int32 m.twoImages.length ::
      (m.withLengths.memberTokens ++ (us ++ m.rawTokens)) := by
    unfold AVMetaData.written
    rw [hparcel]
    show (p.tokens ++ _ ++ _).drop _ = _
    rw [List.append_assoc, List.drop_left]
    rfl
  have hicon : m.withLengths.IconMissing ↔ m.IconMissing := Iff.rfl
  unfold RoundTrip AVMetaData.unmarshalling
  rw [hwritten, hparcel]
  simp only [read_int32, unmarshallingExceptImg_memberTokens, hicon]
  by_cases hmissing : m.IconMissing
  · rw [if_pos hmissing]
    show (∃ m', ((readBack m.withLengths).readTagsAndImages (us ++ m.rawTokens)
      m.twoImages.length).1 = some m' ∧ SameContents m.withLengths m') ↔ Codable m p
    exact readTagsAndImages_iff_codable hwf hsize hus hall hmissing
  · rw [if_neg hmissing]
    by_cases hdrmWritten : m.DrmWritten p
    · obtain rfl := hall.mpr hdrmWritten
      have hdrm : (readBack m.withLengths).readDrmSchemes (m.drmTokens ++ m.rawTokens) = _ :=
        readDrmSchemes_drmTokens hdrmWritten.1
      rw [hdrm]
      refine ((restored_readBack_drmSchemes m.withLengths).images_iff hwf hsize).trans ?_
      exact ⟨fun hsplit => ⟨fun _ => hdrmWritten, fun hicon => absurd hicon hmissing, hsplit⟩,
        fun hcodable => hcodable.split⟩
    · have hdrm : ((readBack m.withLengths).readDrmSchemes (us ++ m.rawTokens)).2 = false := by
        refine readDrmSchemes_of_incomplete hus (mt hall.mp hdrmWritten) ?_ ?_
        · intro t ht
          obtain ⟨v, rfl⟩ := m.eq_raw_of_mem_head ht
          rfl
        · intro t ht
          obtain ⟨v, rfl⟩ := m.eq_raw_of_mem_head ht
          rfl
      rw [hdrm]
      refine ⟨?_, fun hcodable => absurd (hcodable.schemes hmissing) hdrmWritten⟩
      rintro ⟨m', hread, -⟩
      cases hread

/-- The same for every object that a client can build. -/
theorem roundTrip_iff (m : AVMetaData) (p : Parcel) (hreach : m.Reachable)
    (hsize : ((m.val .mediaImage).getD []).length + ((m.val .avQueueImage).getD []).length ≤
      maxImageSize) (h : (m.marshalling p).2 = true) :
    RoundTrip m p ↔ Codable m p :=
  roundTrip_iff_codable (AVMetaData.wellFormed_of_reachable hreach) hsize h

/-- A parcel that takes everything. -/
def roomyParcel : Parcel := ⟨[], fun _ _ => true⟩

/-- A title, a DRM scheme and a queue image that is larger than the media image. -/
def songWithQueueImage : AVMetaData :=
  (((AVMetaData.init.setTitle "song").setDrmSchemes ["cenc"]).setMediaImage
    (some [1, 2])).setAVQueueImage (some [3, 4, 5])

/-- A song with a queue image goes round. -/
theorem song_roundTrip : RoundTrip songWithQueueImage roomyParcel := by
  refine (roundTrip_iff _ _ ?_ (by decide) rfl).mpr ⟨fun _ => ⟨by decide, rfl⟩, ?_, ?_⟩
  · exact .setter .avQueueImage _ (.setter .mediaImage _ (.setter .drmSchemes _
      (.setter .title _ .init)))
  · intro hmissing
    exact absurd hmissing (by decide)
  · intro hnone
    cases hnone

/-- Eleven DRM schemes. -/
def manySchemes : AVMetaData := AVMetaData.init.setDrmSchemes (List.replicate 11 "cenc")

/-- The writer drops the DRM schemes, reports success, and the reader returns nothing. -/
theorem drmSchemes_lost :
    ¬ ∀ (m : AVMetaData) (p : Parcel), m.Reachable →
      ((m.val .mediaImage).getD []).length + ((m.val .avQueueImage).getD []).length ≤
        maxImageSize → (m.marshalling p).2 = true → RoundTrip m p := by
  intro hclaim
  obtain ⟨m', hread, -⟩ :=
    hclaim manySchemes roomyParcel (.setter .drmSchemes _ .init) (by decide) rfl
  have hnone : (AVMetaData.unmarshalling (manySchemes.written roomyParcel)).1.isNone = true := rfl
  rw [hread] at hnone
  cases hnone

end roundTrip

end AvSession.Meta
