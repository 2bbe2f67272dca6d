import AvSession.Lib.MaskedRecord
import Mathlib.Data.Int.Notation

/-!
# The metadata object

`AVMetaData` has a value for each of twenty-eight keys, a mask of the keys that have been set, and
two lengths that only the parcel codec uses.

* `MetaKey`, `MetaKey.type` — the keys, in the order of the enumeration, and what their values are.
* One setter for each key; `setter` is the table of them.
* `copyFrom`, `copyToByMask`, `getChangedDataMask` — the loops over `cloneActions` and
  `checkActions`.
* `Reachable` — the objects that the public interface can build, and `wellFormed_of_reachable`,
  what holds of them.

A pixel map is its buffer: a null image is `none`. The bits of a double are kept as they are.
-/

namespace AvSession.Meta

open AvSession.Lib

/-! ## Keys and values -/

/-- What a field holds. -/
inductive FieldType
  | string
  | int32
  | int64
  | double
  | image
  | strings
deriving DecidableEq

namespace FieldType

/-- The values of a type. -/
@[reducible] def Val : FieldType → Type
  | string => String
  | int32 => ℤ
  | int64 => ℤ
  | double => BitVec 64
  | image => Option (List UInt8)
  | strings => List String

instance : (t : FieldType) → DecidableEq t.Val
  | string => inferInstanceAs (DecidableEq String)
  | int32 => inferInstanceAs (DecidableEq ℤ)
  | int64 => inferInstanceAs (DecidableEq ℤ)
  | double => inferInstanceAs (DecidableEq (BitVec 64))
  | image => inferInstanceAs (DecidableEq (Option (List UInt8)))
  | strings => inferInstanceAs (DecidableEq (List String))

/-- The empty value of a type. -/
def empty : (t : FieldType) → t.Val
  | string => ""
  | int32 => (0 : ℤ)
  | int64 => (0 : ℤ)
  | double => (0 : BitVec 64)
  | image => none
  | strings => []

end FieldType

/-- Whether a double is not a number. -/
def isNaN (d : BitVec 64) : Bool :=
  decide (d.extractLsb' 52 11 = BitVec.allOnes 11 ∧ d.extractLsb' 0 52 ≠ 0)

/-- `==` of doubles: the two zeros are equal and a NaN equals nothing. -/
def doubleEq (a b : BitVec 64) : Bool :=
  !isNaN a && !isNaN b && (a == b || a <<< 1 == 0 && b <<< 1 == 0)

/-- `!=` as the `Check…Change` functions use it: of null images, and of buffers otherwise. -/
def FieldType.changed : (t : FieldType) → t.Val → t.Val → Bool
  | .double, a, b => !doubleEq a b
  | _, a, b => decide (a ≠ b)

/-- Equality of doubles is symmetric, NaN included. -/
theorem doubleEq_comm (a b : BitVec 64) : doubleEq a b = doubleEq b a := by
  unfold doubleEq
  rw [Bool.and_comm (!isNaN a), BEq.comm (a := a), Bool.and_comm (a <<< 1 == 0)]

/-- Equality of doubles is transitive, NaN included. -/
theorem doubleEq_trans {a b c : BitVec 64} (hab : doubleEq a b = true)
    (hbc : doubleEq b c = true) : doubleEq a c = true := by
  simp only [doubleEq, Bool.and_eq_true, Bool.or_eq_true, beq_iff_eq] at hab hbc ⊢
  obtain ⟨⟨ha, -⟩, hab⟩ := hab
  obtain ⟨⟨-, hc⟩, hbc⟩ := hbc
  refine ⟨⟨ha, hc⟩, ?_⟩
  rcases hab with rfl | ⟨hazero, hbzero⟩
  · exact hbc
  · rcases hbc with rfl | ⟨-, hczero⟩
    · exact .inr ⟨hazero, hbzero⟩
    · exact .inr ⟨hazero, hczero⟩

/-- Two unchanged steps are one. -/
theorem FieldType.changed_trans {t : FieldType} {a b c : t.Val} (hab : t.changed a b = false)
    (hbc : t.changed b c = false) : t.changed a c = false := by
  cases t with
  | double =>
      rw [FieldType.changed, Bool.not_eq_false'] at hab hbc ⊢
      exact doubleEq_trans hab hbc
  | _ =>
      obtain rfl := not_not.mp (of_decide_eq_false hab)
      exact hbc

/-- The keys of a metadata object. Source: avmeta_data.h, META_KEY_ASSET_ID and the following. -/
inductive MetaKey
  | assetId
  | title
  | artist
  | author
  | avQueueName
  | avQueueId
  | avQueueImage
  | avQueueImageUri
  | album
  | writer
  | composer
  | duration
  | mediaImage
  | mediaImageUri
  | publishDate
  | subTitle
  | description
  | lyric
  | previousAssetId
  | nextAssetId
  | skipIntervals
  | filter
  | displayTags
  | drmSchemes
  | bundleIcon
  | singleLyricText
  | fastForwardSkipIntervals
  | rewindSkipIntervals
deriving DecidableEq

namespace MetaKey

/-- All keys, in the order of the enumeration. Their number is `META_KEY_MAX`. -/
def all : List MetaKey :=
  [assetId, title, artist, author, avQueueName, avQueueId, avQueueImage, avQueueImageUri, album,
    writer, composer, duration, mediaImage, mediaImageUri, publishDate, subTitle, description,
    lyric, previousAssetId, nextAssetId, skipIntervals, filter, displayTags, drmSchemes, bundleIcon,
    singleLyricText, fastForwardSkipIntervals, rewindSkipIntervals]

/-- The list of keys has every key. -/
theorem mem_all (k : MetaKey) : k ∈ all := by
  cases k <;> decide

/-- No key is listed twice. -/
theorem nodup_all : all.Nodup := by decide

/-- There are 28 keys. -/
theorem length_all : all.length = 28 := rfl

/-- The type of the member behind a key. -/
@[reducible] def type : MetaKey → FieldType
  | avQueueImage | mediaImage | bundleIcon => .image
  | duration => .int64
  | publishDate => .double
  | skipIntervals | fastForwardSkipIntervals | rewindSkipIntervals | filter | displayTags => .int32
  | drmSchemes => .strings
  | _ => .string

/-- The values of a key. -/
abbrev Field (k : MetaKey) : Type := k.type.Val

/-- The initializer of the member: fifteen seconds to skip, filter 2, empty otherwise.
Source: avmeta_data.h, the private members of AVMetaData. -/
def initial : (k : MetaKey) → k.Field
  | skipIntervals => (15 : ℤ)
  | filter => (2 : ℤ)
  | k => k.type.empty

end MetaKey

/-- Source: avmeta_data.h, AVMetaData. -/
structure AVMetaData extends MaskedRecord MetaKey MetaKey.Field where
  mediaLength : ℤ
  avQueueLength : ℤ

namespace AVMetaData

/-- A new object. -/
def init : AVMetaData where
  mask := fun _ => false
  val := MetaKey.initial
  mediaLength := 0
  avQueueLength := 0

/-! ## Setters -/

section setters

/-- Assign a member and set its bit. -/
def set (m : AVMetaData) (k : MetaKey) (v : k.Field) : AVMetaData :=
  { m with toMaskedRecord := m.toMaskedRecord.set k v }

/-- Assign a member. -/
def setVal (m : AVMetaData) (k : MetaKey) (v : k.Field) : AVMetaData :=
  { m with toMaskedRecord := m.toMaskedRecord.setVal k v }

variable (m : AVMetaData) {k l : MetaKey} (v : k.Field)

/-- A set field holds the value. -/
@[simp] theorem set_val_self : (m.set k v).val k = v := MaskedRecord.set_val_self ..

/-- A set field is marked. -/
@[simp] theorem set_mask_self : (m.set k v).mask k = true := MaskedRecord.set_mask_self ..

/-- Setting a field leaves the other values. -/
theorem set_val_of_ne (h : l ≠ k) : (m.set k v).val l = m.val l :=
  MaskedRecord.set_val_of_ne _ _ _ _ h

/-- Setting a field leaves the other marks. -/
theorem set_mask_of_ne (h : l ≠ k) : (m.set k v).mask l = m.mask l :=
  MaskedRecord.set_mask_of_ne _ _ _ _ h

/-- An assigned field holds the value. -/
@[simp] theorem setVal_val_self : (m.setVal k v).val k = v := MaskedRecord.setVal_val_self ..

/-- Assigning a field leaves the other values. -/
theorem setVal_val_of_ne (h : l ≠ k) : (m.setVal k v).val l = m.val l :=
  MaskedRecord.setVal_val_of_ne _ _ _ _ h

/-- Assigning a field marks nothing. -/
@[simp] theorem setVal_mask : (m.setVal k v).mask = m.mask := rfl

/-- Assigning a field leaves the length of the media image. -/
@[simp] theorem setVal_mediaLength : (m.setVal k v).mediaLength = m.mediaLength := rfl

/-- Assigning a field leaves the length of the queue image. -/
@[simp] theorem setVal_avQueueLength : (m.setVal k v).avQueueLength = m.avQueueLength := rfl

def setAssetId (assetId : String) : AVMetaData := m.set .assetId assetId

def setTitle (title : String) : AVMetaData := m.set .title title

def setArtist (artist : String) : AVMetaData := m.set .artist artist

def setAuthor (author : String) : AVMetaData := m.set .author author

def setAVQueueName (avQueueName : String) : AVMetaData := m.set .avQueueName avQueueName

def setAVQueueId (avQueueId : String) : AVMetaData := m.set .avQueueId avQueueId

def setAVQueueImage (avQueueImage : Option (List UInt8)) : AVMetaData :=
  m.set .avQueueImage avQueueImage

def setAVQueueImageUri (avQueueImageUri : String) : AVMetaData :=
  m.set .avQueueImageUri avQueueImageUri

def setBundleIcon (bundleIcon : Option (List UInt8)) : AVMetaData := m.set .bundleIcon bundleIcon

def setAlbum (album : String) : AVMetaData := m.set .album album

def setWriter (writer : String) : AVMetaData := m.set .writer writer

def setComposer (composer : String) : AVMetaData := m.set .composer composer

/-- An invalid duration is only logged. Source: avmeta_data.cpp, AVMetaData::SetDuration. -/
def setDuration (duration : ℤ) : AVMetaData := m.set .duration duration

def setMediaImage (mediaImage : Option (List UInt8)) : AVMetaData := m.set .mediaImage mediaImage

def setMediaImageUri (mediaImageUri : String) : AVMetaData := m.set .mediaImageUri mediaImageUri

/-- An invalid date is only logged. Source: avmeta_data.cpp, AVMetaData::SetPublishDate. -/
def setPublishDate (date : BitVec 64) : AVMetaData := m.set .publishDate date

def setSubTitle (subTitle : String) : AVMetaData := m.set .subTitle subTitle

def setDescription (description : String) : AVMetaData := m.set .description description

def setLyric (lyric : String) : AVMetaData := m.set .lyric lyric

def setSingleLyricText (singleLyricText : String) : AVMetaData :=
  m.set .singleLyricText singleLyricText

def setPreviousAssetId (assetId : String) : AVMetaData := m.set .previousAssetId assetId

def setNextAssetId (assetId : String) : AVMetaData := m.set .nextAssetId assetId

def setSkipIntervals (skipIntervals : ℤ) : AVMetaData := m.set .skipIntervals skipIntervals

def setFastForwardSkipIntervals (fastForwardSkipIntervals : ℤ) : AVMetaData :=
  m.set .fastForwardSkipIntervals fastForwardSkipIntervals

def setRewindSkipIntervals (rewindSkipIntervals : ℤ) : AVMetaData :=
  m.set .rewindSkipIntervals rewindSkipIntervals

def setFilter (filter : ℤ) : AVMetaData := m.set .filter filter

/-- DISPLAY_TAG_ALL. -/
def displayTagAll : ℤ := 1

/-- The only setter that refuses a value. Source: avmeta_data.cpp, AVMetaData::SetDisplayTags. -/
def setDisplayTags (displayTags : ℤ) : AVMetaData :=
  if displayTags < 0 ∨ displayTags > displayTagAll then m else m.set .displayTags displayTags

def setDrmSchemes (drmSchemes : List String) : AVMetaData := m.set .drmSchemes drmSchemes

def setMediaLength (mediaLength : ℤ) : AVMetaData := { m with mediaLength }

def setAVQueueLength (avQueueLength : ℤ) : AVMetaData := { m with avQueueLength }

section lengths

variable (n : ℤ)

/-- The length of the media image is no marked field. -/
@[simp] theorem setMediaLength_mask : (m.setMediaLength n).mask = m.mask := rfl

/-- The length of the media image is no field. -/
@[simp] theorem setMediaLength_val : (m.setMediaLength n).val = m.val := rfl

/-- The length of the media image is the one set. -/
@[simp] theorem setMediaLength_mediaLength : (m.setMediaLength n).mediaLength = n := rfl

/-- The length of the queue image is no marked field. -/
@[simp] theorem setAVQueueLength_mask : (m.setAVQueueLength n).mask = m.mask := rfl

/-- The length of the queue image is no field. -/
@[simp] theorem setAVQueueLength_val : (m.setAVQueueLength n).val = m.val := rfl

/-- The two lengths are set apart. -/
@[simp] theorem setAVQueueLength_mediaLength :
    (m.setAVQueueLength n).mediaLength = m.mediaLength := rfl

/-- The length of the queue image is the one set. -/
@[simp] theorem setAVQueueLength_avQueueLength :
    (m.setAVQueueLength n).avQueueLength = n := rfl

end lengths

/-- The setter of each key. -/
def setter : (k : MetaKey) → k.Field → AVMetaData
  | .assetId => m.setAssetId
  | .title => m.setTitle
  | .artist => m.setArtist
  | .author => m.setAuthor
  | .avQueueName => m.setAVQueueName
  | .avQueueId => m.setAVQueueId
  | .avQueueImage => m.setAVQueueImage
  | .avQueueImageUri => m.setAVQueueImageUri
  | .album => m.setAlbum
  | .writer => m.setWriter
  | .composer => m.setComposer
  | .duration => m.setDuration
  | .mediaImage => m.setMediaImage
  | .mediaImageUri => m.setMediaImageUri
  | .publishDate => m.setPublishDate
  | .subTitle => m.setSubTitle
  | .description => m.setDescription
  | .lyric => m.setLyric
  | .previousAssetId => m.setPreviousAssetId
  | .nextAssetId => m.setNextAssetId
  | .skipIntervals => m.setSkipIntervals
  | .filter => m.setFilter
  | .displayTags => m.setDisplayTags
  | .drmSchemes => m.setDrmSchemes
  | .bundleIcon => m.setBundleIcon
  | .singleLyricText => m.setSingleLyricText
  | .fastForwardSkipIntervals => m.setFastForwardSkipIntervals
  | .rewindSkipIntervals => m.setRewindSkipIntervals

/-- Every setter but one assigns its member and sets its bit. -/
theorem setter_eq_set {k : MetaKey} (h : k ≠ .displayTags) (v : k.Field) :
    m.setter k v = m.set k v := by
  cases k with
  | displayTags => exact absurd rfl h
  | _ => rfl

end setters

/-! ## Reset and copies -/

section copies

/-- Source: avmeta_data.cpp, AVMetaData::Reset. -/
def reset (m : AVMetaData) : AVMetaData :=
  { m with
    mask := fun _ => false
    val := fun k => if k = .filter then m.val k else k.initial }

/-- Source: avmeta_data.cpp, AVMetaData::ResetToBaseMeta. -/
def resetToBaseMeta (m : AVMetaData) : AVMetaData :=
  { m with
    mask := fun k => decide (k = .assetId ∨ k = .mediaImage ∨ k = .mediaImageUri)
    val := fun k =>
      if k = .assetId ∨ k = .mediaImage ∨ k = .mediaImageUri ∨ k = .filter then m.val k
      else k.initial }

/-- Clone the selected members from another object and set their bits. -/
def cloneKeys (m source : AVMetaData) (sel : MetaKey → Bool) : AVMetaData :=
  { m with
    toMaskedRecord :=
      MaskedRecord.mergeKeys MetaKey.all sel source.toMaskedRecord m.toMaskedRecord }

/-- Source: avmeta_data.cpp, AVMetaData::CopyToByMask. -/
def copyToByMask (m : AVMetaData) (mask : MetaKey → Bool) (metaOut : AVMetaData) :
    AVMetaData × Bool :=
  (metaOut.cloneKeys m fun k => m.mask k && mask k, MetaKey.all.any fun k => m.mask k && mask k)

/-- Source: avmeta_data.cpp, AVMetaData::GetChangedDataMask. -/
def getChangedDataMask (m : AVMetaData) (filter : MetaKey → Bool) (newData : AVMetaData) :
    MetaKey → Bool :=
  fun k => filter k && k.type.changed (m.val k) (newData.val k)

/-- Source: avmeta_data.cpp, AVMetaData::CopyFrom. -/
def copyFrom (m metaIn : AVMetaData) : AVMetaData × Bool :=
  if metaIn.val .assetId = "" then (m, false)
  else if metaIn.val .assetId ≠ m.val .assetId then (metaIn, true)
  else (m.cloneKeys metaIn metaIn.mask, MetaKey.all.any metaIn.mask)

variable (m source : AVMetaData) (sel : MetaKey → Bool) (k : MetaKey)

/-- Cloning takes the selected fields from the source. -/
theorem cloneKeys_val :
    (m.cloneKeys source sel).val k = if sel k = true then source.val k else m.val k :=
  MaskedRecord.mergeKeys_val_of_complete _ _ _ _ MetaKey.mem_all k

/-- Cloning marks the selected fields. -/
theorem cloneKeys_mask : (m.cloneKeys source sel).mask k = (m.mask k || sel k) :=
  MaskedRecord.mergeKeys_mask_of_complete _ _ _ _ MetaKey.mem_all k

/-- A copy takes the whole object if it has another asset id, and otherwise what is set. -/
theorem copyFrom_val : (m.copyFrom source).1.val k =
    if source.val .assetId = "" then m.val k
    else if source.val .assetId ≠ m.val .assetId ∨ source.mask k = true then source.val k
    else m.val k := by
  unfold copyFrom
  by_cases hempty : source.val .assetId = ""
  · rw [if_pos hempty, if_pos hempty]
  · rw [if_neg hempty, if_neg hempty]
    by_cases hasset : source.val .assetId ≠ m.val .assetId
    · rw [if_pos hasset, if_pos (.inl hasset)]
    · rw [if_neg hasset]
      simp only [hasset, false_or]
      exact cloneKeys_val m source source.mask k

/-- Likewise for the bits. -/
theorem copyFrom_mask : (m.copyFrom source).1.mask k =
    if source.val .assetId = "" then m.mask k
    else if source.val .assetId ≠ m.val .assetId then source.mask k
    else m.mask k || source.mask k := by
  unfold copyFrom
  split_ifs
  · rfl
  · rfl
  · exact cloneKeys_mask m source source.mask k

/-- A copy that fails copies nothing. -/
theorem copyFrom_val_of_false (h : (m.copyFrom source).2 = false) :
    (m.copyFrom source).1.val k = m.val k := by
  unfold copyFrom at h ⊢
  split_ifs at h ⊢
  · rfl
  · rw [cloneKeys_val, if_neg]
    have hnone := List.any_eq_false.mp h k (MetaKey.mem_all k)
    exact hnone

end copies

/-! ## The objects that can be built -/

section reachable

/-- The objects that a client can build: any setter with any value, copies of objects built the same
way, and the two resets. -/
inductive Reachable : AVMetaData → Prop
  | init : Reachable init
  | setter {m : AVMetaData} (k : MetaKey) (v : k.Field) : Reachable m → Reachable (m.setter k v)
  | setMediaLength {m : AVMetaData} (n : ℤ) : Reachable m → Reachable (m.setMediaLength n)
  | setAVQueueLength {m : AVMetaData} (n : ℤ) : Reachable m → Reachable (m.setAVQueueLength n)
  | copyFrom {m metaIn : AVMetaData} :
      Reachable m → Reachable metaIn → Reachable (m.copyFrom metaIn).1
  | copyToByMask {m metaOut : AVMetaData} (mask : MetaKey → Bool) :
      Reachable m → Reachable metaOut → Reachable (m.copyToByMask mask metaOut).1
  | reset {m : AVMetaData} : Reachable m → Reachable m.reset
  | resetToBaseMeta {m : AVMetaData} : Reachable m → Reachable m.resetToBaseMeta

/-- What holds of every such object: the display tags are in range, and a member whose bit is not set
still has its initial value. `filter` alone survives a reset without its bit. -/
structure WellFormed (m : AVMetaData) : Prop where
  tags : 0 ≤ m.val .displayTags ∧ m.val .displayTags ≤ displayTagAll
  unset : ∀ k, k ≠ .filter → m.mask k = false → m.val k = k.initial

variable {m source : AVMetaData}

/-- The initial display tags pass the setter's own check. -/
theorem initial_tags : 0 ≤ MetaKey.initial .displayTags ∧
    MetaKey.initial .displayTags ≤ displayTagAll := by decide

/-- A fresh object is well formed. -/
theorem WellFormed.init : WellFormed init := ⟨initial_tags, fun _ _ _ => rfl⟩

/-- Setting a field within the limits leaves the object well formed. -/
theorem WellFormed.set (h : WellFormed m) {k : MetaKey} {v : k.Field}
    (htags : 0 ≤ (m.set k v).val .displayTags ∧ (m.set k v).val .displayTags ≤ displayTagAll) :
    WellFormed (m.set k v) := by
  refine ⟨htags, fun l hl hmask => ?_⟩
  by_cases hlk : l = k
  · subst hlk
    rw [set_mask_self] at hmask
    cases hmask
  · rw [set_mask_of_ne _ _ hlk] at hmask
    rw [set_val_of_ne _ _ hlk]
    exact h.unset l hl hmask

/-- Every setter of the interface leaves the object well formed. -/
theorem WellFormed.setter (h : WellFormed m) (k : MetaKey) (v : k.Field) :
    WellFormed (m.setter k v) := by
  by_cases hk : k = .displayTags
  · subst hk
    show WellFormed (m.setDisplayTags v)
    unfold setDisplayTags
    split_ifs with hrange
    · exact h
    · rw [not_or, Int.not_lt, Int.not_lt] at hrange
      apply h.set
      rw [set_val_self]
      exact hrange
  · rw [setter_eq_set m hk]
    apply h.set
    rw [set_val_of_ne _ _ (Ne.symm hk)]
    exact h.tags

/-- Cloning between well-formed objects gives one. -/
theorem WellFormed.cloneKeys (h : WellFormed m) (hsource : WellFormed source)
    {sel : MetaKey → Bool} : WellFormed (m.cloneKeys source sel) := by
  refine ⟨?_, fun k hk hmask => ?_⟩
  · rw [cloneKeys_val]
    split
    · exact hsource.tags
    · exact h.tags
  · rw [cloneKeys_mask, Bool.or_eq_false_iff] at hmask
    rw [cloneKeys_val, hmask.2, if_neg Bool.false_ne_true]
    exact h.unset k hk hmask.1

/-- CopyFrom between well-formed objects gives one. -/
theorem WellFormed.copyFrom (h : WellFormed m) (hsource : WellFormed source) :
    WellFormed (m.copyFrom source).1 := by
  unfold AVMetaData.copyFrom
  split_ifs
  · exact h
  · exact hsource
  · exact h.cloneKeys hsource

/-- A reset object is well formed. -/
theorem WellFormed.reset (m : AVMetaData) : WellFormed m.reset :=
  ⟨initial_tags, fun _ hk _ => if_neg hk⟩

/-- So is one reset to its base. -/
theorem WellFormed.resetToBaseMeta (m : AVMetaData) : WellFormed m.resetToBaseMeta := by
  refine ⟨initial_tags, fun k hk hmask => ?_⟩
  have hbase := of_decide_eq_false hmask
  refine if_neg ?_
  rintro (hkey | hkey | hkey | hkey)
  · exact hbase (.inl hkey)
  · exact hbase (.inr (.inl hkey))
  · exact hbase (.inr (.inr hkey))
  · exact hk hkey

/-- Every object that a client can build is well formed. -/
theorem wellFormed_of_reachable (h : Reachable m) : WellFormed m := by
  induction h with
  | init => exact .init
  | setter k v _ ih => exact ih.setter k v
  | setMediaLength n _ ih => exact ⟨ih.tags, ih.unset⟩
  | setAVQueueLength n _ ih => exact ⟨ih.tags, ih.unset⟩
  | copyFrom _ _ ih ihIn => exact ih.copyFrom ihIn
  | copyToByMask mask _ _ ih ihOut => exact ihOut.cloneKeys ih
  | reset _ _ => exact .reset _
  | resetToBaseMeta _ _ => exact .resetToBaseMeta _

end reachable

end AVMetaData

end AvSession.Meta
