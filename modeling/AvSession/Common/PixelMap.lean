import Mathlib.Data.Int.Order.Basic
import AvSession.Lib.Securec
import AvSession.Lib.WordBytes
import Mathlib.Algebra.Group.Nat.Defs

/-!
# The pixel map codec

A pixel map travels as a buffer: the length of the image information in two bytes, its raw bytes,
the size of the pixel data in four bytes, and the pixel data.

* `convertAndSetInnerImgBuffer`, `convertFromInner` — the two directions; the second one with the
  ranges of the buffer that it reads.
* `convertFromInner_cases` — the buffers that are accepted, and what is read of each.
* `codec_iff` — what a received buffer may become, and the round trip.

The media library is a parameter (`MediaLib`); `MediaLib.Documented` is what is known of it.
-/

namespace AvSession.Common

open AvSession.Lib

/-! ## The media library -/

section Media

abbrev Word := BitVec 32

/-- The first members of `Media::ImageInfo`, which lie behind each other. -/
structure ImageHeader where
  width : Word := 0
  height : Word := 0
  pixelFormat : Word := 0
  colorSpace : Word := 0
  alphaType : Word := 0
  baseDensity : Word := 0

/-- `Media::ImageInfo`, with the bytes of the string object at its end. -/
structure ImageInfo extends ImageHeader where
  encodedFormat : Vector (BitVec 8) 24 := Vector.replicate 24 0

structure Media.PixelMap where
  info : ImageInfo
  pixels : List (BitVec 8)

structure InitializationOptions where
  alphaType : Word
  pixelFormat : Word
  width : Word
  height : Word

/-- The options name the formats of the source and no size. -/
def InitializationOptions.Keeps (options : InitializationOptions) (source : Media.PixelMap) :
    Prop :=
  options.alphaType = source.info.alphaType ∧ options.pixelFormat = source.info.pixelFormat ∧
    options.width = 0 ∧ options.height = 0

/-- `PixelMap::GetByteCount` by the image information, the images it makes pixel maps of, and
`PixelMap::Create` of a source. -/
structure MediaLib where
  byteCount : ImageInfo → Word
  makes : ImageHeader → Bool
  create : Media.PixelMap → InitializationOptions → Option Media.PixelMap

/-- A pixel map made by the library: it has as many bytes as its information says. -/
def MediaLib.Made (media : MediaLib) (p : Media.PixelMap) : Prop :=
  media.makes p.info.toImageHeader = true ∧ p.pixels.length = (media.byteCount p.info).toNat

/-- The byte count is not negative and does not depend on the encoded format. What is created with
the formats and size of a source has its bytes, and if the source is a pixel map that the library
makes, it is created and has its information. -/
structure MediaLib.Documented (media : MediaLib) : Prop where
  byteCount_nonneg : ∀ info, 0 ≤ (media.byteCount info).toInt
  byteCount_congr : ∀ i j : ImageInfo, i.toImageHeader = j.toImageHeader →
    media.byteCount i = media.byteCount j
  create_copies : ∀ source options, options.Keeps source → ∀ r ∈ media.create source options,
    r.pixels = source.pixels ∧ media.byteCount r.info = media.byteCount source.info
  create_made : ∀ source options, options.Keeps source → media.Made source →
    ∃ r, media.create source options = some r ∧ r.info.toImageHeader = source.info.toImageHeader

end Media

/-! ## Functions -/

section Functions

/-- Source: avsession_pixel_map.h, `AVSessionPixelMap` -/
structure AVSessionPixelMap where
  innerImgBuffer : List (BitVec 8)
  originalWidth : Word := 0
  originalHeight : Word := 0

def MAX_PIXEL_BUFFER_SIZE : ℤ := 1 * 1024 * 1024
def IMAGE_BYTE_SIZE : ℕ := 2
def DATA_BYTE_SIZE : ℕ := 4
def OFFSET_BYTE : ℕ := 8
def DEFAULT_IMAGE_INFO_SIZE : ℕ := 48

/-- The word in four bytes of the buffer. -/
def wordAt (buffer : List (BitVec 8)) (offset : ℕ) : Word := ofLittleEndian (buffer.drop offset)

/-- The bytes of the information in memory. -/
def ImageInfo.raw (info : ImageInfo) : List (BitVec 8) :=
  littleEndian info.width ++ (littleEndian info.height ++ (littleEndian info.pixelFormat ++
    (littleEndian info.colorSpace ++ (littleEndian info.alphaType ++
      (littleEndian info.baseDensity ++ info.encodedFormat.toList)))))

/-- `static_cast<int>` of the size of a vector. -/
def innerImgSize (buffer : List (BitVec 8)) : ℤ := (BitVec.ofNat 32 buffer.length).toInt

/-- The information, and the ranges of the buffer that are read, by offset and length.
Source: avsession_pixel_map_adapter.cpp, `ConvertImageInfoFromInner` -/
def convertImageInfoFromInner (securec : Securec) (buffer : List (BitVec 8))
    (imageInfo : ImageInfo) : ImageInfo × List (ℕ × ℕ) :=
  if ¬ (IMAGE_BYTE_SIZE + DEFAULT_IMAGE_INFO_SIZE : ℤ) < innerImgSize buffer then (imageInfo, [])
  else if securec.memcpy_s 8 8 = false then (imageInfo, [(2, 8)])
  else
    let imageInfo := { imageInfo with width := wordAt buffer 2, height := wordAt buffer 6 }
    if securec.memcpy_s 4 4 = false then (imageInfo, [(2, 8), (10, 4)])
    else
      let imageInfo :=
        { imageInfo with
          pixelFormat := wordAt buffer 10
          colorSpace := wordAt buffer 14
          alphaType := wordAt buffer 18
          baseDensity := wordAt buffer 22
          encodedFormat := Vector.replicate 24 0 }
      (imageInfo, [(2, 8), (10, 4), (14, 4), (18, 4), (22, 4)])

/-- The declared length of the information. -/
def imgBufferSize (buffer : List (BitVec 8)) : BitVec 16 :=
  ((buffer.getD 0 0).setWidth 16 <<< OFFSET_BYTE) + (buffer.getD 1 0).setWidth 16

/-- The bytes behind the header, counted in 64 bits and cut to 32. -/
def imgByteSizeExist (buffer : List (BitVec 8)) : Word :=
  (BitVec.ofNat 64 buffer.length - BitVec.ofNat 64 IMAGE_BYTE_SIZE -
    BitVec.ofNat 64 DEFAULT_IMAGE_INFO_SIZE - BitVec.ofNat 64 DATA_BYTE_SIZE).setWidth 32

/-- The declared size of the pixel data. -/
def dataSize (buffer : List (BitVec 8)) : Word :=
  (List.range DATA_BYTE_SIZE).foldl (fun dataSize i =>
    let tmpValue : Word :=
      (buffer.getD (IMAGE_BYTE_SIZE + DEFAULT_IMAGE_INFO_SIZE + i) 0).setWidth 32
    dataSize + (tmpValue <<< (OFFSET_BYTE * (DATA_BYTE_SIZE - i - 1)))) 0

/-- The pixel map over the buffer, with the information and `dataSize` bytes behind the header. -/
def sourceOf (buffer : List (BitVec 8)) (imageInfo : ImageInfo) : Media.PixelMap where
  info := imageInfo
  pixels := (buffer.drop (IMAGE_BYTE_SIZE + DEFAULT_IMAGE_INFO_SIZE + DATA_BYTE_SIZE)).take
    (dataSize buffer).toNat

/-- What is made of a buffer, and the ranges of it that are read, by offset and length. -/
structure Conversion where
  result : Option Media.PixelMap := none
  reads : List (ℕ × ℕ) := []

/-- Source: avsession_pixel_map_adapter.cpp, `AVSessionPixelMapAdapter::ConvertFromInner` -/
def convertFromInner (media : MediaLib) (securec : Securec)
    (innerPixelMap : Option AVSessionPixelMap) (isSizeLimited : Bool) : Conversion :=
  match innerPixelMap with
  | none => {}
  | some inner =>
    let buffer := inner.innerImgBuffer
    let size := innerImgSize buffer
    if ¬ (IMAGE_BYTE_SIZE + DEFAULT_IMAGE_INFO_SIZE : ℤ) < size then {}
    else
      let reads := [(0, 1), (1, 1)]
      if imgBufferSize buffer ≠ BitVec.ofNat 16 DEFAULT_IMAGE_INFO_SIZE then { reads }
      else
        let (imageInfo, infoReads) := convertImageInfoFromInner securec buffer {}
        let reads := reads ++ infoReads
        if media.byteCount imageInfo ≠ imgByteSizeExist buffer then { reads }
        else
          let reads := reads ++ [(50, 1), (51, 1), (52, 1), (53, 1)]
          if dataSize buffer ≠ imgByteSizeExist buffer then { reads }
          else
            let options : InitializationOptions :=
              { alphaType := imageInfo.alphaType
                pixelFormat := imageInfo.pixelFormat
                width := if isSizeLimited then inner.originalWidth else 0
                height := if isSizeLimited then inner.originalHeight else 0 }
            { result := media.create (sourceOf buffer imageInfo) options
              reads := reads ++ [((size / 2).toNat, 1), ((size / 2 + 1).toNat, 1),
                (54, (dataSize buffer).toNat)] }

/-- The bytes of the size, the highest first. -/
def sizeBytes (pixelDataSize : Word) : List (BitVec 8) :=
  ((List.range DATA_BYTE_SIZE).foldl (fun (acc : Word × List (BitVec 8)) i =>
    let tmpValue : BitVec 8 :=
      ((pixelDataSize &&& acc.1) >>> (OFFSET_BYTE * (DATA_BYTE_SIZE - i - 1))).setWidth 8
    (acc.1 >>> OFFSET_BYTE, acc.2 ++ [tmpValue])) (0xFF000000, [])).2

/-- Source: avsession_pixel_map_adapter.cpp,
`AVSessionPixelMapAdapter::ConvertAndSetInnerImgBuffer` -/
def convertAndSetInnerImgBuffer (media : MediaLib) (pixelMapTemp : Media.PixelMap) :
    AVSessionPixelMap :=
  let imageInfoSize : BitVec 16 := BitVec.ofNat 16 DEFAULT_IMAGE_INFO_SIZE
  let pixelDataSize := media.byteCount pixelMapTemp.info
  { innerImgBuffer :=
      [((imageInfoSize &&& 0xFF00) >>> OFFSET_BYTE).setWidth 8,
        (imageInfoSize &&& 0x00FF).setWidth 8] ++
      pixelMapTemp.info.raw.take DEFAULT_IMAGE_INFO_SIZE ++ sizeBytes pixelDataSize ++
      pixelMapTemp.pixels.take pixelDataSize.toNat }

end Functions

/-! ## The bytes -/

section Bytes

variable {buffer : List (BitVec 8)}

/-- The information that a buffer declares. -/
def infoOf (buffer : List (BitVec 8)) : ImageInfo where
  width := wordAt buffer 2
  height := wordAt buffer 6
  pixelFormat := wordAt buffer 10
  colorSpace := wordAt buffer 14
  alphaType := wordAt buffer 18
  baseDensity := wordAt buffer 22

/-- From a long buffer the information is read out of its header. -/
theorem convertImageInfoFromInner_eq {securec : Securec} (hsecurec : securec.Documented)
    (hlong : 50 < innerImgSize buffer) :
    convertImageInfoFromInner securec buffer {} =
      (infoOf buffer, [(2, 8), (10, 4), (14, 4), (18, 4), (22, 4)]) := by
  have height : securec.memcpy_s 8 8 = true :=
    hsecurec.memcpy_s_of_le (by decide) (by decide) (Nat.le_refl _)
  have hfour : securec.memcpy_s 4 4 = true :=
    hsecurec.memcpy_s_of_le (by decide) (by decide) (Nat.le_refl _)
  have hsize : (IMAGE_BYTE_SIZE + DEFAULT_IMAGE_INFO_SIZE : ℤ) < innerImgSize buffer := hlong
  simp only [convertImageInfoFromInner, hsize, not_true_eq_false, if_false, height, hfour,
    Bool.true_eq_false]
  rfl

/-- A size is written with its highest byte first. -/
theorem sizeBytes_eq (x : Word) :
    sizeBytes x =
      [x.extractLsb' 24 8, x.extractLsb' 16 8, x.extractLsb' 8 8, x.extractLsb' 0 8] := by
  have h1 : (0xFF000000 : Word) >>> 8 = 0x00FF0000 := by decide
  have h2 : (0x00FF0000 : Word) >>> 8 = 0x0000FF00 := by decide
  have h3 : (0x0000FF00 : Word) >>> 8 = 0x000000FF := by decide
  rw [← byte_of_mask x 0xFF000000 (by decide), ← byte_of_mask x 0x00FF0000 (by decide),
    ← byte_of_mask x 0x0000FF00 (by decide), ← byte_of_mask x 0x000000FF (by decide)]
  simp only [sizeBytes, DATA_BYTE_SIZE, OFFSET_BYTE, List.range_succ, List.range_zero,
    List.foldl_append, List.foldl_cons, List.foldl_nil, List.nil_append, h1, h2, h3]
  rfl

/-- The bytes of a size are read as that size. -/
theorem dataSize_of_sizeBytes (front rest : List (BitVec 8)) (x : Word) (h : front.length = 50) :
    dataSize (front ++ (sizeBytes x ++ rest)) = x := by
  have hget : ∀ i, (front ++ (sizeBytes x ++ rest)).getD (50 + i) 0 =
      (sizeBytes x ++ rest).getD i 0 := by
    intro i
    rw [List.getD_append_right _ _ _ _ (by omega), h, Nat.add_sub_cancel_left]
  have hbound : x.toNat < 4294967296 := x.isLt
  have hfold : dataSize (front ++ (sizeBytes x ++ rest)) =
      0 + (x.extractLsb' 24 8).setWidth 32 <<< 24 + (x.extractLsb' 16 8).setWidth 32 <<< 16 +
        (x.extractLsb' 8 8).setWidth 32 <<< 8 + (x.extractLsb' 0 8).setWidth 32 <<< 0 := by
    have h0 := hget 0
    have h1 := hget 1
    have h2 := hget 2
    have h3 := hget 3
    rw [sizeBytes_eq] at h0 h1 h2 h3 ⊢
    simp only [dataSize, DATA_BYTE_SIZE, IMAGE_BYTE_SIZE, DEFAULT_IMAGE_INFO_SIZE, OFFSET_BYTE,
      List.range_succ, List.range_zero, List.foldl_append, List.foldl_cons, List.foldl_nil,
      List.nil_append, h0, h1, h2, h3]
    rfl
  apply BitVec.eq_of_toNat_eq
  rw [hfold]
  simp [Nat.shiftRight_eq_div_pow, Nat.shiftLeft_eq]
  omega

/-- The number of bytes behind the header. -/
theorem toNat_imgByteSizeExist (buffer : List (BitVec 8)) :
    (imgByteSizeExist buffer).toNat = (buffer.length % 2 ^ 64 + 2 ^ 64 - 54) % 2 ^ 32 := by
  simp [imgByteSizeExist, IMAGE_BYTE_SIZE, DEFAULT_IMAGE_INFO_SIZE, DATA_BYTE_SIZE]
  omega

end Bytes

/-! ## What is accepted -/

section Accepted

variable {media : MediaLib} {securec : Securec} {buffer : List (BitVec 8)}

/-- The checks that a buffer passes on its way to the media library. -/
structure Accepted (media : MediaLib) (buffer : List (BitVec 8)) : Prop where
  long : 50 < innerImgSize buffer
  header : imgBufferSize buffer = BitVec.ofNat 16 DEFAULT_IMAGE_INFO_SIZE
  bytes : media.byteCount (infoOf buffer) = imgByteSizeExist buffer
  declared : dataSize buffer = imgByteSizeExist buffer

/-- A long buffer has its whole header. -/
theorem length_of_long (h : 50 < innerImgSize buffer) : 51 ≤ buffer.length := by
  rw [innerImgSize, BitVec.toInt_eq_toNat_bmod, BitVec.toNat_ofNat, Int.bmod_def] at h
  omega

/-- A buffer of 51 to 53 bytes has a huge number of bytes behind the header; no image has. -/
theorem length_of_bytes (hmedia : media.Documented) (hlong : 50 < innerImgSize buffer)
    (hbytes : media.byteCount (infoOf buffer) = imgByteSizeExist buffer) :
    54 ≤ buffer.length ∧ (imgByteSizeExist buffer).toNat ≤ buffer.length - 54 := by
  have hlength := length_of_long hlong
  have hcount := hmedia.byteCount_nonneg (infoOf buffer)
  have hexist := toNat_imgByteSizeExist buffer
  rw [hbytes, BitVec.toInt_eq_toNat_bmod, Int.bmod_def] at hcount
  omega

/-- The options for a buffer. -/
def optionsFor (inner : AVSessionPixelMap) (isSizeLimited : Bool) : InitializationOptions where
  alphaType := (infoOf inner.innerImgBuffer).alphaType
  pixelFormat := (infoOf inner.innerImgBuffer).pixelFormat
  width := if isSizeLimited then inner.originalWidth else 0
  height := if isSizeLimited then inner.originalHeight else 0

/-- The ranges of the header that are read. -/
theorem headerReads_le {n : ℕ} (h : 51 ≤ n) :
    ∀ r ∈ [(0, 1), (1, 1)] ++ [(2, 8), (10, 4), (14, 4), (18, 4), (22, 4)], r.1 + r.2 ≤ n := by
  simp
  omega

/-- **One conversion.** An accepted buffer is handed to the media library, the others are not, and
every range that is read lies in the buffer. -/
theorem convertFromInner_cases (hmedia : media.Documented) (hsecurec : securec.Documented)
    (inner : AVSessionPixelMap) (isSizeLimited : Bool) :
    (∀ r ∈ (convertFromInner media securec (some inner) isSizeLimited).reads,
      r.1 + r.2 ≤ inner.innerImgBuffer.length) ∧
    ((Accepted media inner.innerImgBuffer ∧
        (convertFromInner media securec (some inner) isSizeLimited).result =
          media.create (sourceOf inner.innerImgBuffer (infoOf inner.innerImgBuffer))
            (optionsFor inner isSizeLimited)) ∨
      (¬ Accepted media inner.innerImgBuffer ∧
        (convertFromInner media securec (some inner) isSizeLimited).result = none)) := by
  simp only [convertFromInner, optionsFor]
  generalize inner.innerImgBuffer = buffer
  by_cases hlong : 50 < innerImgSize buffer
  · have hsize : (IMAGE_BYTE_SIZE + DEFAULT_IMAGE_INFO_SIZE : ℤ) < innerImgSize buffer := hlong
    have hlength := length_of_long hlong
    rw [if_neg (not_not.mpr hsize), convertImageInfoFromInner_eq hsecurec hlong]
    by_cases hheader : imgBufferSize buffer = BitVec.ofNat 16 DEFAULT_IMAGE_INFO_SIZE
    · rw [if_neg (not_not.mpr hheader)]
      by_cases hbytes : media.byteCount (infoOf buffer) = imgByteSizeExist buffer
      · obtain ⟨hheaderLength, hexist⟩ := length_of_bytes hmedia hlong hbytes
        rw [if_neg (not_not.mpr hbytes)]
        by_cases hdeclared : dataSize buffer = imgByteSizeExist buffer
        · rw [if_neg (not_not.mpr hdeclared)]
          refine ⟨?_, Or.inl ⟨⟨hlong, hheader, hbytes, hdeclared⟩, rfl⟩⟩
          -- the middle of the buffer, computed from its cut size
          have hcut : innerImgSize buffer ≤ buffer.length := by
            rw [innerImgSize, BitVec.toInt_eq_toNat_bmod, BitVec.toNat_ofNat, Int.bmod_def]
            omega
          simp [hdeclared]
          omega
        · rw [if_pos hdeclared]
          refine ⟨?_, Or.inr ⟨fun h => hdeclared h.declared, rfl⟩⟩
          simp
          omega
      · rw [if_pos hbytes]
        exact ⟨headerReads_le hlength, Or.inr ⟨fun h => hbytes h.bytes, rfl⟩⟩
    · rw [if_pos hheader]
      refine ⟨?_, Or.inr ⟨fun h => hheader h.header, rfl⟩⟩
      simp
      omega
  · have hsize : ¬ (IMAGE_BYTE_SIZE + DEFAULT_IMAGE_INFO_SIZE : ℤ) < innerImgSize buffer := hlong
    rw [if_pos hsize]
    exact ⟨by simp, Or.inr ⟨fun h => hlong h.long, rfl⟩⟩

end Accepted

/-! ## Both directions -/

section Claims

variable {media : MediaLib} {securec : Securec} {buffer : List (BitVec 8)} {p : Media.PixelMap}

/-- A buffer as it arrives. Source: avsession_pixel_map.cpp, `AVSessionPixelMap::Unmarshalling` -/
def received (buffer : List (BitVec 8)) : AVSessionPixelMap := { innerImgBuffer := buffer }

/-- A received map holds the buffer. -/
@[simp] theorem innerImgBuffer_received (buffer : List (BitVec 8)) :
    (received buffer).innerImgBuffer = buffer := rfl

/-- The options made for a map keep its format. -/
theorem keeps_optionsFor (buffer : List (BitVec 8)) (isSizeLimited : Bool) :
    (optionsFor (received buffer) isSizeLimited).Keeps (sourceOf buffer (infoOf buffer)) := by
  simp [InitializationOptions.Keeps, optionsFor, received, sourceOf]

/-- The conversion of a buffer reads inside it, and makes nothing or a pixel map of the bytes
behind the header, as many as declared. -/
def Sound (media : MediaLib) (securec : Securec) (buffer : List (BitVec 8)) (isSizeLimited : Bool) :
    Prop :=
  (∀ r ∈ (convertFromInner media securec (some (received buffer)) isSizeLimited).reads,
      r.1 + r.2 ≤ buffer.length) ∧
    ∀ p ∈ (convertFromInner media securec (some (received buffer)) isSizeLimited).result,
      p.pixels = buffer.drop 54 ∧ media.byteCount p.info = dataSize buffer

/-- The bytes behind the header can be counted in 32 bits, or the buffer is refused by a check or
by the media library. -/
def Fits (media : MediaLib) (buffer : List (BitVec 8)) (isSizeLimited : Bool) : Prop :=
  buffer.length < 2 ^ 32 + 54 ∨ ¬ Accepted media buffer ∨
    media.create (sourceOf buffer (infoOf buffer)) (optionsFor (received buffer) isSizeLimited) =
      none

/-- The pixel data of an accepted buffer reach to its end, if it can be counted in 32 bits. -/
theorem pixels_sourceOf_iff (hmedia : media.Documented) (h : Accepted media buffer) :
    (sourceOf buffer (infoOf buffer)).pixels = buffer.drop 54 ↔ buffer.length < 2 ^ 32 + 54 := by
  obtain ⟨hlength, -⟩ := length_of_bytes hmedia h.long h.bytes
  have hexist := toNat_imgByteSizeExist buffer
  change (buffer.drop 54).take (dataSize buffer).toNat = buffer.drop 54 ↔ _
  rw [h.declared]
  constructor
  · intro htake
    have hlen := congrArg List.length htake
    rw [List.length_take, List.length_drop] at hlen
    omega
  · intro hfits
    apply List.take_of_length_le
    rw [List.length_drop]
    omega

/-- A conversion is sound exactly when the buffer fits. -/
theorem sound_iff (hmedia : media.Documented) (hsecurec : securec.Documented)
    (buffer : List (BitVec 8)) (isSizeLimited : Bool) :
    Sound media securec buffer isSizeLimited ↔ Fits media buffer isSizeLimited := by
  obtain ⟨hreads, hresult⟩ :=
    convertFromInner_cases hmedia hsecurec (received buffer) isSizeLimited
  rw [innerImgBuffer_received] at hreads hresult
  rw [Sound, Fits, and_iff_right hreads]
  rcases hresult with ⟨haccepted, hresult⟩ | ⟨hrefused, hresult⟩
  · rw [hresult]
    rcases hcreate : media.create (sourceOf buffer (infoOf buffer))
      (optionsFor (received buffer) isSizeLimited) with _ | p
    · simp
    · obtain ⟨hpixels, hbytes⟩ :=
        hmedia.create_copies _ _ (keeps_optionsFor buffer isSizeLimited) p hcreate
      have hcount : media.byteCount p.info = dataSize buffer := by
        rw [hbytes, haccepted.declared]
        exact haccepted.bytes
      simp only [Option.mem_some_iff, forall_eq', hcount, and_true, hpixels, haccepted,
        not_true_eq_false, reduceCtorEq, or_false]
      exact pixels_sourceOf_iff hmedia haccepted
  · simp [hresult, hrefused]

/-- What is sent of a pixel map, piece by piece. -/
theorem innerImgBuffer_eq (hp : media.Made p) :
    (convertAndSetInnerImgBuffer media p).innerImgBuffer =
      0 :: 48 :: (p.info.raw ++ (sizeBytes (media.byteCount p.info) ++ p.pixels)) := by
  have hraw : p.info.raw.take DEFAULT_IMAGE_INFO_SIZE = p.info.raw :=
    List.take_of_length_le (by simp [ImageInfo.raw, DEFAULT_IMAGE_INFO_SIZE])
  have hpixels : p.pixels.take (media.byteCount p.info).toNat = p.pixels :=
    List.take_of_length_le (Nat.le_of_eq hp.2)
  rw [convertAndSetInnerImgBuffer]
  dsimp only
  rw [hraw, hpixels]
  simp [DEFAULT_IMAGE_INFO_SIZE, OFFSET_BYTE]

/-- The information is read back. -/
theorem infoOf_sent (info : ImageInfo) (rest : List (BitVec 8)) :
    (infoOf (0 :: 48 :: (info.raw ++ rest))).toImageHeader = info.toImageHeader := by
  simp [infoOf, wordAt, ImageInfo.raw, List.append_assoc]

/-- **A framed buffer** is accepted, if its byte count in 32 bits is that of its information. -/
theorem accepted_framed (hmedia : media.Documented) (info : ImageInfo) (rest : List (BitVec 8))
    (hrest : rest.length % 2 ^ 32 = (media.byteCount info).toNat)
    (hmax : (media.byteCount info).toInt ≤ MAX_PIXEL_BUFFER_SIZE)
    (hbuffer : buffer = 0 :: 48 :: (info.raw ++ (sizeBytes (media.byteCount info) ++ rest))) :
    Accepted media buffer ∧ (infoOf buffer).toImageHeader = info.toImageHeader ∧
      (sourceOf buffer (infoOf buffer)).pixels = rest.take (media.byteCount info).toNat ∧
      buffer.length = 54 + rest.length := by
  have hnonneg := hmedia.byteCount_nonneg info
  have hcount : ((media.byteCount info).toNat : ℤ) ≤ 1048576 := by
    rw [MAX_PIXEL_BUFFER_SIZE, BitVec.toInt_eq_toNat_bmod, Int.bmod_def] at hmax
    rw [BitVec.toInt_eq_toNat_bmod, Int.bmod_def] at hnonneg
    omega
  have hrawLength : info.raw.length = 48 := by simp [ImageInfo.raw]
  have hlength : buffer.length = 54 + rest.length := by
    rw [hbuffer, sizeBytes_eq]
    simp only [List.length_cons, List.length_append, hrawLength, List.length_nil]
    omega
  have hinfo : (infoOf buffer).toImageHeader = info.toImageHeader := by
    rw [hbuffer, infoOf_sent]
  have hdeclared : dataSize buffer = media.byteCount info := by
    rw [hbuffer]
    exact dataSize_of_sizeBytes (0 :: 48 :: info.raw) rest _ (by simp [hrawLength])
  have hexist : imgByteSizeExist buffer = media.byteCount info := by
    apply BitVec.eq_of_toNat_eq
    rw [toNat_imgByteSizeExist, hlength]
    omega
  have hbehind : buffer.drop 54 = rest := by
    rw [hbuffer, sizeBytes_eq, List.drop_succ_cons, List.drop_succ_cons,
      List.drop_append, List.drop_eq_nil_of_le (by simp [hrawLength]), hrawLength]
    rfl
  refine ⟨⟨?_, ?_, ?_, ?_⟩, hinfo, ?_, hlength⟩
  · rw [innerImgSize, hlength, BitVec.toInt_eq_toNat_bmod, BitVec.toNat_ofNat, Int.bmod_def]
    omega
  · rw [hbuffer]
    rfl
  · rw [hexist]
    exact hmedia.byteCount_congr _ _ hinfo
  · rw [hexist, hdeclared]
  · change (buffer.drop 54).take (dataSize buffer).toNat = _
    rw [hbehind, hdeclared]

/-- A framed buffer makes a source that the library can copy. -/
theorem made_framed (hmedia : media.Documented) {info : ImageInfo}
    (hmakes : media.makes info.toImageHeader = true)
    (hinfo : (infoOf buffer).toImageHeader = info.toImageHeader)
    (hpixels : (sourceOf buffer (infoOf buffer)).pixels.length = (media.byteCount info).toNat) :
    media.Made (sourceOf buffer (infoOf buffer)) := by
  constructor
  · change media.makes (infoOf buffer).toImageHeader = true
    rw [hinfo]
    exact hmakes
  · rw [hpixels]
    exact congrArg BitVec.toNat (hmedia.byteCount_congr _ _ hinfo).symm

/-- The conversion of what is made of a pixel map succeeds, with its information and bytes. -/
def RoundTrips (media : MediaLib) (securec : Securec) (p : Media.PixelMap) (isSizeLimited : Bool) :
    Prop :=
  ∃ r, (convertFromInner media securec (some (convertAndSetInnerImgBuffer media p))
      isSizeLimited).result = some r ∧
    r.info.toImageHeader = p.info.toImageHeader ∧ r.pixels = p.pixels

/-- A map that fits goes round. -/
theorem roundTrips (hmedia : media.Documented) (hsecurec : securec.Documented)
    (hp : media.Made p) (hmax : (media.byteCount p.info).toInt ≤ MAX_PIXEL_BUFFER_SIZE)
    (isSizeLimited : Bool) : RoundTrips media securec p isSizeLimited := by
  obtain ⟨buffer, hbuffer⟩ : ∃ buffer,
    buffer = (convertAndSetInnerImgBuffer media p).innerImgBuffer := ⟨_, rfl⟩
  have hsent : convertAndSetInnerImgBuffer media p = received buffer := by
    rw [hbuffer]
    rfl
  rw [innerImgBuffer_eq hp] at hbuffer
  have hbound : p.pixels.length < 2 ^ 32 := by
    rw [hp.2]
    exact BitVec.isLt _
  obtain ⟨haccepted, hinfo, hpixels, -⟩ := accepted_framed hmedia p.info p.pixels
    (by rw [← hp.2]; omega) hmax hbuffer
  rw [List.take_of_length_le (Nat.le_of_eq hp.2)] at hpixels
  have hkeeps := keeps_optionsFor buffer isSizeLimited
  have hmade := made_framed hmedia hp.1 hinfo (by rw [hpixels, hp.2])
  obtain ⟨r, hr, hinfo'⟩ := hmedia.create_made _ _ hkeeps hmade
  obtain ⟨hpixels', -⟩ := hmedia.create_copies _ _ hkeeps r hr
  rw [RoundTrips, hsent]
  rcases (convertFromInner_cases hmedia hsecurec (received buffer) isSizeLimited).2 with
    ⟨-, hresult⟩ | ⟨hrefused, -⟩
  · exact ⟨r, hresult.trans hr, hinfo'.trans hinfo, hpixels'.trans hpixels⟩
  · exact absurd haccepted hrefused

/-- Received buffers are converted safely and to what they declare exactly if their length can be
counted or they are refused, and pixel maps of up to `MAX_PIXEL_BUFFER_SIZE` bytes survive the
way there and back. -/
theorem codec_iff (media : MediaLib) (hmedia : media.Documented) (securec : Securec)
    (hsecurec : securec.Documented) :
    (∀ buffer isSizeLimited,
      Sound media securec buffer isSizeLimited ↔ Fits media buffer isSizeLimited) ∧
    ∀ p isSizeLimited, media.Made p → (media.byteCount p.info).toInt ≤ MAX_PIXEL_BUFFER_SIZE →
      RoundTrips media securec p isSizeLimited := by
  constructor
  · exact sound_iff hmedia hsecurec
  · intro p isSizeLimited hp hmax
    exact roundTrips hmedia hsecurec hp hmax isSizeLimited

/-- A media library that makes images of one pixel with four bytes. -/
def onePixelLib : MediaLib where
  byteCount info := if info.width = 1 ∧ info.height = 1 then 4 else 0
  makes header := decide (header.width = 1 ∧ header.height = 1)
  create source options :=
    if source.info.width = 1 ∧ source.info.height = 1 ∧ source.pixels.length = 4 ∧
      options.alphaType = source.info.alphaType ∧ options.pixelFormat = source.info.pixelFormat then
      some source else none

/-- The library below behaves as documented. -/
theorem onePixelLib_documented : onePixelLib.Documented where
  byteCount_nonneg info := by
    simp only [onePixelLib]
    split <;> decide
  byteCount_congr i j h := by
    simp only [onePixelLib, h]
  create_copies source options _ r hr := by
    simp only [onePixelLib, Option.mem_def] at hr
    split at hr
    · cases hr
      exact ⟨rfl, rfl⟩
    · cases hr
  create_made source options hkeeps hmade := by
    obtain ⟨hmakes, hlength⟩ := hmade
    obtain ⟨halpha, hformat, -, -⟩ := hkeeps
    simp only [onePixelLib, decide_eq_true_eq] at hmakes hlength ⊢
    rw [if_pos hmakes] at hlength
    exact ⟨source, if_pos ⟨hmakes.1, hmakes.2, hlength, halpha, hformat⟩, rfl⟩

def onePixel : ImageInfo := { width := 1, height := 1, pixelFormat := 3, alphaType := 2 }

/-- One pixel, there and back. -/
theorem codec_of_onePixel :
    RoundTrips onePixelLib .strict ⟨onePixel, [10, 20, 30, 40]⟩ true :=
  (codec_iff onePixelLib onePixelLib_documented .strict Securec.strict_documented).2
    ⟨onePixel, [10, 20, 30, 40]⟩ true ⟨by decide, by decide⟩ (by decide)

/-- A frame of one pixel with four bytes, and 2³² more behind it: they are dropped. -/
theorem tail_dropped :
    ¬ ∀ buffer isSizeLimited, Sound onePixelLib .strict buffer isSizeLimited := by
  intro h
  obtain ⟨rest, hrest⟩ : ∃ rest : List (BitVec 8), rest.length = 4294967300 :=
    ⟨List.replicate 4294967300 0, List.length_replicate⟩
  obtain ⟨buffer, hbuffer⟩ : ∃ buffer, buffer = 0 :: 48 :: (onePixel.raw ++
    (sizeBytes (onePixelLib.byteCount onePixel) ++ rest)) := ⟨_, rfl⟩
  have hcount : (onePixelLib.byteCount onePixel).toNat = 4 := by decide
  obtain ⟨haccepted, hinfo, hpixels, hlength⟩ :=
    accepted_framed onePixelLib_documented onePixel rest (by omega) (by decide) hbuffer
  have hmade := made_framed onePixelLib_documented (by decide) hinfo (by
    rw [hpixels, hcount, List.length_take, hrest]
    rfl)
  obtain ⟨r, hcreated, -⟩ :=
    onePixelLib_documented.create_made _ _ (keeps_optionsFor buffer true) hmade
  rcases (sound_iff onePixelLib_documented Securec.strict_documented buffer true).mp
    (h buffer true) with hshort | hrefused | hnone
  · omega
  · exact hrefused haccepted
  · rw [hnone] at hcreated
    cases hcreated

end Claims

end AvSession.Common
