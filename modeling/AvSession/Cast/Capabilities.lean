import AvSession.Common.Codes
import AvSession.Lib.Json
import Std.Data.ExtTreeMap
import Mathlib.Data.List.Basic

/-!
# Capabilities of the remote player

The remote player reports a document of what it supports: decoders with their resolutions, HDR
formats and play speeds. It is read into a record, from which the questions are answered.

* `JsonCapabilities`, `getMediaCapabilities` — the record and how it is read.
* `getRecommendedResolutionLevel` — the best resolution of a decoder.
* `CapabilityDocument` — the documents that are recognised.
* `videoDecoderTypes`, `resolutionsOf`, `speedCodes`, … — what a document lists.
* `ReadCompletely` — the record and the answers say what the document lists.
* `readCompletely_iff` — the documents of which this holds.

Numbers are known by their integer parts.
-/

namespace AvSession.Cast

open Std AvSession.Common.Codes AvSession.Lib

/-! ## Members of a document -/

section Members

/-- A member that is to be an array, if there is one; nothing if it is none. -/
def arrayItem (j : Json) (key : String) : Option (Option (List Json)) :=
  match j.getObjectItem key with
  | none => some none
  | some v => v.asArray.map some

/-- The numbers among some items. -/
def numbers (items : List Json) : List ℤ := items.filterMap Json.asValueint

/-- The strings among some items. -/
def strings (items : List Json) : List String := items.filterMap Json.asString

end Members

/-! ## The player -/

section Player

def videoStr : String := "video"
def audioStr : String := "audio"
def decodeTypeStr : String := "decoderType"
def hdrFormatStr : String := "HDRFormat"
def decodeSupportResolutionStr : String := "decoderSupportResolution"
def decodeOfVideoHevcStr : String := "video/hevc"
def decodeOfVideoAvcStr : String := "video/avc"
def speedStr : String := "speed"

/-- Source: hw_cast_stream_player.h, `JsonCapabilities` -/
structure JsonCapabilities where
  decoderTypes : List String
  hdrFormats : List ℤ
  playSpeeds : List Rat
  decoderSupportResolutions : ExtTreeMap String (List ℤ) compare

/-- The numbers of the enumeration `CastEngine::PlaybackSpeed`. -/
structure PlaybackSpeed where
  SPEED_FORWARD_0_75_X : ℤ
  SPEED_FORWARD_1_00_X : ℤ
  SPEED_FORWARD_1_25_X : ℤ
  SPEED_FORWARD_1_75_X : ℤ
  SPEED_FORWARD_2_00_X : ℤ
  SPEED_FORWARD_0_50_X : ℤ
  SPEED_FORWARD_1_50_X : ℤ
  SPEED_FORWARD_3_00_X : ℤ

variable (e : PlaybackSpeed)

/-- The speeds of the known codes.
Source: hw_cast_stream_player.h, `HwCastStreamPlayer::castPlusSpeedToDouble_` -/
def castPlusSpeedToDouble (code : ℤ) : Option Rat :=
  List.lookup code [(e.SPEED_FORWARD_0_75_X, 3 / 4), (e.SPEED_FORWARD_1_00_X, 1),
    (e.SPEED_FORWARD_1_25_X, 5 / 4), (e.SPEED_FORWARD_1_75_X, 7 / 4), (e.SPEED_FORWARD_2_00_X, 2),
    (e.SPEED_FORWARD_0_50_X, 1 / 2), (e.SPEED_FORWARD_1_50_X, 3 / 2), (e.SPEED_FORWARD_3_00_X, 3)]

/-- The map with the codes that were looked up: an unknown code is entered with zero. -/
structure SpeedMap where
  lookup : ℤ → Option Rat
  agrees : ∀ code, (lookup code).getD 0 = (castPlusSpeedToDouble e code).getD 0

/-- The player; of the stream player the document of its capabilities is kept, as `cJSON_Parse`
gives it. Source: hw_cast_stream_player.h, `HwCastStreamPlayer` -/
structure HwCastStreamPlayer where
  streamPlayer : Option (Option Json)
  jsonCapabilities : JsonCapabilities
  castPlusSpeedToDouble : SpeedMap e

/-- Source: hw_cast_stream_player.cpp, `HwCastStreamPlayer::GetMediaDecodeOfVideoFromCJSON` -/
def getMediaDecodeOfVideoFromCJSON (c : JsonCapabilities) (videoValue : Json) : JsonCapabilities :=
  match videoValue.getObjectItem decodeSupportResolutionStr with
  | none => c
  | some resolutionItem =>
    match arrayItem resolutionItem decodeOfVideoHevcStr with
    | none => c
    | some hevcArray =>
      let decodeToResolution :=
        match hevcArray with
        | none => ∅
        | some items =>
          (∅ : ExtTreeMap String (List ℤ) compare).insert decodeOfVideoHevcStr (numbers items)
      match arrayItem resolutionItem decodeOfVideoAvcStr with
      | none => c
      | some none => c
      -- the levels of avc are read, but not entered
      | some (some _) => { c with decoderSupportResolutions := decodeToResolution }

/-- Source: hw_cast_stream_player.cpp, `HwCastStreamPlayer::GetMediaCapabilitiesOfVideo` -/
def getMediaCapabilitiesOfVideo (c : JsonCapabilities) (videoValue : Json) : JsonCapabilities :=
  match arrayItem videoValue decodeTypeStr with
  | none => c
  | some decodeTypeArray =>
    let c := { c with decoderTypes := c.decoderTypes ++ strings (decodeTypeArray.getD []) }
    let c := getMediaDecodeOfVideoFromCJSON c videoValue
    match arrayItem videoValue hdrFormatStr with
    | none => c
    | some hdrFormatArray =>
      { c with hdrFormats := c.hdrFormats ++ numbers (hdrFormatArray.getD []) }

/-- Source: hw_cast_stream_player.cpp, `HwCastStreamPlayer::GetMediaCapabilitiesOfAudio` -/
def getMediaCapabilitiesOfAudio (c : JsonCapabilities) (audioValue : Json) : JsonCapabilities :=
  match audioValue.getObjectItem decodeTypeStr with
  | none => c
  | some decodeTypeItem =>
    match decodeTypeItem.asString with
    | none => c
    | some str => { c with decoderTypes := c.decoderTypes ++ [str] }

/-- Source: hw_cast_stream_player.cpp, `HwCastStreamPlayer::ClearJsonCapabilities` -/
def clearJsonCapabilities : JsonCapabilities := ⟨[], [], [], ∅⟩

/-- The branches over video and audio.
Source: hw_cast_stream_player.cpp, `HwCastStreamPlayer::GetMediaCapabilities` -/
def videoOrAudio (valueItem : Json) : JsonCapabilities :=
  match valueItem.getObjectItem videoStr with
  | some videoItem => getMediaCapabilitiesOfVideo clearJsonCapabilities videoItem
  | none =>
    match valueItem.getObjectItem audioStr with
    | some audioItem => getMediaCapabilitiesOfAudio clearJsonCapabilities audioItem
    | none => clearJsonCapabilities

variable {e}

/-- `operator[]`: an unknown code is entered with zero. -/
def SpeedMap.enter (m : SpeedMap e) (code : ℤ) : SpeedMap e where
  lookup := fun c => if c = code then some ((m.lookup code).getD 0) else m.lookup c
  agrees := by
    intro c
    by_cases hc : c = code
    · rw [if_pos hc, Option.getD_some, m.agrees, hc]
    · rw [if_neg hc, m.agrees]

/-- The loop over the speeds.
Source: hw_cast_stream_player.cpp, `HwCastStreamPlayer::GetMediaCapabilities` -/
def readSpeeds (m : SpeedMap e) (playSpeeds : List Rat) : List ℤ → SpeedMap e × List Rat
  | [] => (m, playSpeeds)
  | num :: nums => readSpeeds (m.enter num) (playSpeeds ++ [(m.lookup num).getD 0]) nums

/-- Source: hw_cast_stream_player.cpp, `HwCastStreamPlayer::GetMediaCapabilities` -/
def HwCastStreamPlayer.getMediaCapabilities (p : HwCastStreamPlayer e) :
    HwCastStreamPlayer e × ℤ :=
  match p.streamPlayer with
  | none => (p, AVSESSION_ERROR)
  | some none => ({ p with jsonCapabilities := clearJsonCapabilities }, AVSESSION_ERROR)
  | some (some valueItem) =>
    let c := videoOrAudio valueItem
    match arrayItem valueItem speedStr with
    | none => ({ p with jsonCapabilities := c }, AVSESSION_ERROR)
    | some speedArray =>
      let r := readSpeeds p.castPlusSpeedToDouble c.playSpeeds (numbers (speedArray.getD []))
      ({ p with
          jsonCapabilities := { c with playSpeeds := r.2 }
          castPlusSpeedToDouble := r.1 }, AVSESSION_SUCCESS)

/-- The level, or `none` for an error.
Source: hw_cast_stream_player.cpp, `HwCastStreamPlayer::GetRecommendedResolutionLevel` -/
def HwCastStreamPlayer.getRecommendedResolutionLevel (p : HwCastStreamPlayer e)
    (decoderType : String) : HwCastStreamPlayer e × Option ℤ :=
  let p := if p.jsonCapabilities.decoderSupportResolutions.isEmpty then p.getMediaCapabilities.1
    else p
  (p, (p.jsonCapabilities.decoderSupportResolutions[decoderType]?).bind List.max?)

end Player

/-! ## What a document lists -/

section Listed

variable (e : PlaybackSpeed) (doc : Json)

/-- A member of a member that may be missing. -/
def itemOf (j : Option Json) (key : String) : Option Json :=
  j.bind fun j => j.getObjectItem key

def videoItem : Option Json := doc.getObjectItem videoStr

def audioItem : Option Json := doc.getObjectItem audioStr

def resolutionItem : Option Json := itemOf (videoItem doc) decodeSupportResolutionStr

/-- The items of an array that may be missing. -/
def itemsOf (j : Option Json) : List Json := (j.bind Json.asArray).getD []

def videoDecoderTypes : List String := strings (itemsOf (itemOf (videoItem doc) decodeTypeStr))

def audioDecoderTypes : List String :=
  ((itemOf (audioItem doc) decodeTypeStr).bind Json.asString).toList

/-- The levels of a decoder's own array. -/
def resolutionsOf (decoderType : String) : List ℤ :=
  numbers (itemsOf (itemOf (resolutionItem doc) decoderType))

def hdrFormatsOf : List ℤ := numbers (itemsOf (itemOf (videoItem doc) hdrFormatStr))

def speedCodes : List ℤ := numbers (itemsOf (doc.getObjectItem speedStr))

/-- An array or nothing. -/
def IsArrayItem (j : Option Json) : Prop := ∀ v ∈ j, ∃ items, v = .array items

/-- An object or nothing. -/
def IsObjectItem (j : Option Json) : Prop := ∀ v ∈ j, ∃ members, v = .object members

/-- A document that is recognised: an object with video, audio and speed as they are read, or
without them. -/
structure CapabilityDocument : Prop where
  object : ∃ members, doc = .object members
  video : IsObjectItem (videoItem doc)
  videoDecoderTypes : IsArrayItem (itemOf (videoItem doc) decodeTypeStr)
  resolutions : IsObjectItem (resolutionItem doc)
  hevc : IsArrayItem (itemOf (resolutionItem doc) decodeOfVideoHevcStr)
  avc : IsArrayItem (itemOf (resolutionItem doc) decodeOfVideoAvcStr)
  hdrFormats : IsArrayItem (itemOf (videoItem doc) hdrFormatStr)
  audio : IsObjectItem (audioItem doc)
  audioDecoderType : ∀ v ∈ itemOf (audioItem doc) decodeTypeStr, ∃ str, v = .string str
  speed : IsArrayItem (doc.getObjectItem speedStr)

/-- The best level of the two video decoders, an error for others and where none is listed. -/
def recommendedLevel (decoderType : String) : Option ℤ :=
  if decoderType = decodeOfVideoHevcStr ∨ decoderType = decodeOfVideoAvcStr then
    (resolutionsOf doc decoderType).max?
  else none

variable {e}

/-- What is read and answered is what the document lists. -/
structure ReadCompletely (p : HwCastStreamPlayer e) : Prop where
  success : p.getMediaCapabilities.2 = AVSESSION_SUCCESS
  decoderTypes : p.getMediaCapabilities.1.jsonCapabilities.decoderTypes =
    videoDecoderTypes doc ++ audioDecoderTypes doc
  resolutions : ∀ decoderType,
    (p.getMediaCapabilities.1.getRecommendedResolutionLevel decoderType).2 =
      recommendedLevel doc decoderType
  hdrFormats : p.getMediaCapabilities.1.jsonCapabilities.hdrFormats = hdrFormatsOf doc
  playSpeeds : p.getMediaCapabilities.1.jsonCapabilities.playSpeeds =
    (speedCodes doc).filterMap (castPlusSpeedToDouble e)

variable (e)

/-- Video and audio decoders are not both listed, avc has no levels, hevc has some only where avc
has an array too, and the speeds are known. -/
structure Readable : Prop where
  audioAlone : videoItem doc ≠ none → audioDecoderTypes doc = []
  avc : resolutionsOf doc decodeOfVideoAvcStr = []
  hevc : resolutionsOf doc decodeOfVideoHevcStr ≠ [] →
    itemOf (resolutionItem doc) decodeOfVideoAvcStr ≠ none
  speeds : ∀ code ∈ speedCodes doc, castPlusSpeedToDouble e code ≠ none

end Listed

/-! ## What is read -/

section Read

variable {e : PlaybackSpeed} {doc : Json} {p : HwCastStreamPlayer e}

/-- A member that is an array or missing is read. -/
theorem arrayItem_of_isArrayItem {j : Json} {key : String}
    (h : IsArrayItem (j.getObjectItem key)) :
    arrayItem j key = some ((j.getObjectItem key).bind Json.asArray) := by
  rw [arrayItem]
  rcases hitem : j.getObjectItem key with _ | v
  · rfl
  · obtain ⟨items, rfl⟩ := h v hitem
    rfl

/-- The speeds are appended in the order of the document. -/
theorem readSpeeds_snd (m : SpeedMap e) (playSpeeds : List Rat) (nums : List ℤ) :
    (readSpeeds m playSpeeds nums).2 =
      playSpeeds ++ nums.map fun code => (castPlusSpeedToDouble e code).getD 0 := by
  induction nums generalizing m playSpeeds with
  | nil => exact (List.append_nil _).symm
  | cons num nums ih =>
    rw [readSpeeds, ih, m.agrees, List.map_cons, List.append_assoc, List.singleton_append]

/-- The levels as they are read: those of hevc, if there is an array of avc. -/
def readResolutions (doc : Json) : ExtTreeMap String (List ℤ) compare :=
  match itemOf (resolutionItem doc) decodeOfVideoAvcStr,
    itemOf (resolutionItem doc) decodeOfVideoHevcStr with
  | some _, some _ =>
    (∅ : ExtTreeMap String (List ℤ) compare).insert decodeOfVideoHevcStr
      (resolutionsOf doc decodeOfVideoHevcStr)
  | _, _ => ∅

/-- What is read of the resolutions. -/
theorem getMediaDecodeOfVideoFromCJSON_eq (hdoc : CapabilityDocument doc) {videoValue : Json}
    (hvideo : videoItem doc = some videoValue) {c : JsonCapabilities}
    (hc : c.decoderSupportResolutions = ∅) :
    getMediaDecodeOfVideoFromCJSON c videoValue =
      { c with decoderSupportResolutions := readResolutions doc } := by
  have hres : resolutionItem doc = videoValue.getObjectItem decodeSupportResolutionStr := by
    rw [resolutionItem, hvideo]
    rfl
  have hhevc := hdoc.hevc
  have havc := hdoc.avc
  rw [getMediaDecodeOfVideoFromCJSON, readResolutions, resolutionsOf]
  rw [hres] at hhevc havc ⊢
  rcases hr : videoValue.getObjectItem decodeSupportResolutionStr with _ | r
  · exact congrArg (fun res => { c with decoderSupportResolutions := res }) hc
  · rw [hr] at hhevc havc
    change IsArrayItem (r.getObjectItem decodeOfVideoHevcStr) at hhevc
    change IsArrayItem (r.getObjectItem decodeOfVideoAvcStr) at havc
    dsimp only [itemOf, Option.bind_some]
    rw [arrayItem_of_isArrayItem hhevc, arrayItem_of_isArrayItem havc]
    rcases ha : r.getObjectItem decodeOfVideoAvcStr with _ | avc
    · exact congrArg (fun res => { c with decoderSupportResolutions := res }) hc
    · obtain ⟨avcItems, rfl⟩ := havc avc ha
      rcases hh : r.getObjectItem decodeOfVideoHevcStr with _ | hevc
      · rfl
      · obtain ⟨hevcItems, rfl⟩ := hhevc hevc hh
        rfl

/-- What is read of video. -/
theorem getMediaCapabilitiesOfVideo_eq (hdoc : CapabilityDocument doc) {videoValue : Json}
    (hvideo : videoItem doc = some videoValue) :
    getMediaCapabilitiesOfVideo clearJsonCapabilities videoValue =
      ⟨videoDecoderTypes doc, hdrFormatsOf doc, [], readResolutions doc⟩ := by
  have htypes := hdoc.videoDecoderTypes
  have hhdr := hdoc.hdrFormats
  rw [hvideo] at htypes hhdr
  rw [getMediaCapabilitiesOfVideo, arrayItem_of_isArrayItem htypes, arrayItem_of_isArrayItem hhdr]
  dsimp only
  rw [getMediaDecodeOfVideoFromCJSON_eq hdoc hvideo rfl, videoDecoderTypes, hdrFormatsOf, hvideo]
  rfl

/-- What is read of audio. -/
theorem getMediaCapabilitiesOfAudio_eq (hdoc : CapabilityDocument doc) {audioValue : Json}
    (haudio : audioItem doc = some audioValue) :
    getMediaCapabilitiesOfAudio clearJsonCapabilities audioValue =
      ⟨audioDecoderTypes doc, [], [], ∅⟩ := by
  have htype := hdoc.audioDecoderType
  rw [haudio] at htype
  change ∀ v ∈ audioValue.getObjectItem decodeTypeStr, ∃ str, v = .string str at htype
  rw [getMediaCapabilitiesOfAudio, audioDecoderTypes, haudio]
  dsimp only [itemOf, Option.bind_some]
  rcases hitem : audioValue.getObjectItem decodeTypeStr with _ | v
  · rfl
  · obtain ⟨str, rfl⟩ := htype v hitem
    rfl

/-- The decoder types as they are read: those of audio, if there is no video. -/
def readDecoderTypes (doc : Json) : List String :=
  match videoItem doc with
  | some _ => videoDecoderTypes doc
  | none => audioDecoderTypes doc

/-- What is read of a document, the speeds apart. -/
theorem videoOrAudio_eq (hdoc : CapabilityDocument doc) :
    videoOrAudio doc = ⟨readDecoderTypes doc, hdrFormatsOf doc, [], readResolutions doc⟩ := by
  rw [videoOrAudio, readDecoderTypes]
  rcases hvideo : videoItem doc with _ | videoValue
  · have hhdr : hdrFormatsOf doc = [] := by
      rw [hdrFormatsOf, hvideo]
      rfl
    have hres : readResolutions doc = ∅ := by
      rw [readResolutions, resolutionItem, hvideo]
      rfl
    rw [show doc.getObjectItem videoStr = none from hvideo, hhdr, hres]
    dsimp only
    rcases haudio : audioItem doc with _ | audioValue
    · rw [show doc.getObjectItem audioStr = none from haudio, audioDecoderTypes, haudio]
      rfl
    · rw [show doc.getObjectItem audioStr = some audioValue from haudio]
      exact getMediaCapabilitiesOfAudio_eq hdoc haudio
  · rw [show doc.getObjectItem videoStr = some videoValue from hvideo]
    exact getMediaCapabilitiesOfVideo_eq hdoc hvideo

/-- **What is read of a document.** -/
theorem getMediaCapabilities_eq (hdoc : CapabilityDocument doc)
    (hp : p.streamPlayer = some (some doc)) :
    p.getMediaCapabilities.2 = AVSESSION_SUCCESS ∧
      p.getMediaCapabilities.1.streamPlayer = some (some doc) ∧
      p.getMediaCapabilities.1.jsonCapabilities =
        ⟨readDecoderTypes doc, hdrFormatsOf doc,
          (speedCodes doc).map fun code => (castPlusSpeedToDouble e code).getD 0,
          readResolutions doc⟩ := by
  rw [HwCastStreamPlayer.getMediaCapabilities, hp]
  dsimp only
  rw [arrayItem_of_isArrayItem hdoc.speed, videoOrAudio_eq hdoc]
  refine ⟨rfl, rfl, ?_⟩
  dsimp only
  rw [readSpeeds_snd]
  rfl

/-- The questions for a level are answered from what is read. -/
theorem getRecommendedResolutionLevel_eq (hdoc : CapabilityDocument doc)
    (hp : p.streamPlayer = some (some doc)) (decoderType : String) :
    (p.getMediaCapabilities.1.getRecommendedResolutionLevel decoderType).2 =
      ((readResolutions doc)[decoderType]?).bind List.max? := by
  obtain ⟨-, hp', hc⟩ := getMediaCapabilities_eq hdoc hp
  obtain ⟨-, -, hc'⟩ := getMediaCapabilities_eq hdoc hp'
  rw [HwCastStreamPlayer.getRecommendedResolutionLevel]
  dsimp only
  split_ifs
  · rw [hc']
  · rw [hc]

end Read

/-! ## Documents that are read completely -/

section Complete

variable {e : PlaybackSpeed} {doc : Json} {p : HwCastStreamPlayer e}

/-- Both kinds of types are read exactly when no video item hides an audio type. -/
theorem readDecoderTypes_eq_iff :
    readDecoderTypes doc = videoDecoderTypes doc ++ audioDecoderTypes doc ↔
      (videoItem doc ≠ none → audioDecoderTypes doc = []) := by
  rw [readDecoderTypes]
  rcases hvideo : videoItem doc with _ | videoValue
  · have hnone : videoDecoderTypes doc = [] := by
      rw [videoDecoderTypes, hvideo]
      rfl
    simp [hnone]
  · simp

/-- The level of HEVC is the highest read for it, if the AVC item is there. -/
theorem readLevel_hevc :
    ((readResolutions doc)[decodeOfVideoHevcStr]?).bind List.max? =
      if itemOf (resolutionItem doc) decodeOfVideoAvcStr = none then none
      else (resolutionsOf doc decodeOfVideoHevcStr).max? := by
  rw [readResolutions]
  rcases havc : itemOf (resolutionItem doc) decodeOfVideoAvcStr with _ | avc
  · simp
  · rcases hhevc : itemOf (resolutionItem doc) decodeOfVideoHevcStr with _ | hevc
    · have hnone : resolutionsOf doc decodeOfVideoHevcStr = [] := by
        rw [resolutionsOf, hhevc]
        rfl
      simp [hnone]
    · simp

/-- No other type has a level. -/
theorem readLevel_other {decoderType : String} (hne : decoderType ≠ decodeOfVideoHevcStr) :
    ((readResolutions doc)[decoderType]?).bind List.max? = none := by
  rw [readResolutions]
  split
  · simp [hne.symm]
  · simp

/-- The levels are the recommended ones exactly when AVC lists none and HEVC's are reached. -/
theorem readLevel_eq_iff :
    (∀ decoderType, ((readResolutions doc)[decoderType]?).bind List.max? =
        recommendedLevel doc decoderType) ↔
      resolutionsOf doc decodeOfVideoAvcStr = [] ∧
        (resolutionsOf doc decodeOfVideoHevcStr ≠ [] →
          itemOf (resolutionItem doc) decodeOfVideoAvcStr ≠ none) := by
  have havcne : decodeOfVideoAvcStr ≠ decodeOfVideoHevcStr := by decide
  constructor
  · intro h
    have havc := h decodeOfVideoAvcStr
    have hhevc := h decodeOfVideoHevcStr
    rw [readLevel_other havcne, recommendedLevel, if_pos (Or.inr rfl)] at havc
    rw [readLevel_hevc, recommendedLevel, if_pos (Or.inl rfl)] at hhevc
    refine ⟨List.max?_eq_none_iff.mp havc.symm, fun hlevels hnone => ?_⟩
    rw [if_pos hnone] at hhevc
    exact hlevels (List.max?_eq_none_iff.mp hhevc.symm)
  · rintro ⟨havc, hhevc⟩ decoderType
    rw [recommendedLevel]
    by_cases hdecoder : decoderType = decodeOfVideoHevcStr
    · rw [hdecoder, readLevel_hevc, if_pos (Or.inl rfl)]
      by_cases hnone : itemOf (resolutionItem doc) decodeOfVideoAvcStr = none
      · have hlevels : resolutionsOf doc decodeOfVideoHevcStr = [] := by
          by_contra hlevels
          exact hhevc hlevels hnone
        rw [if_pos hnone, hlevels]
        rfl
      · rw [if_neg hnone]
    · rw [readLevel_other hdecoder]
      by_cases havcdecoder : decoderType = decodeOfVideoAvcStr
      · rw [havcdecoder, if_pos (Or.inr rfl), havc]
        rfl
      · rw [if_neg (by simp [hdecoder, havcdecoder])]

/-- Nothing is taken for a missing image if there is none. -/
theorem map_getD_eq_filterMap_iff {α β : Type*} (f : α → Option β) (d : β) (l : List α) :
    (l.map fun a => (f a).getD d) = l.filterMap f ↔ ∀ a ∈ l, f a ≠ none := by
  induction l with
  | nil => simp
  | cons a l ih =>
    rcases hfa : f a with _ | b
    · rw [List.filterMap_cons_none hfa]
      refine iff_of_false (fun heq => ?_) fun h => h a List.mem_cons_self hfa
      have hlen := congrArg List.length heq
      have hle := List.length_filterMap_le f l
      rw [List.length_map, List.length_cons] at hlen
      omega
    · rw [List.filterMap_cons_some hfa, List.map_cons, hfa, Option.getD_some, List.cons.injEq,
        and_iff_right rfl, ih, List.forall_mem_cons, and_iff_right (by simp [hfa])]

/-- **Capabilities.** What is read and answered is what the document lists, exactly if it is
readable. -/
theorem readCompletely_iff (hdoc : CapabilityDocument doc)
    (hp : p.streamPlayer = some (some doc)) : ReadCompletely doc p ↔ Readable e doc := by
  obtain ⟨hsuccess, -, hc⟩ := getMediaCapabilities_eq hdoc hp
  constructor
  · intro h
    have htypes := h.decoderTypes
    have hlevels := h.resolutions
    have hspeeds := h.playSpeeds
    rw [hc] at htypes hspeeds
    simp only [getRecommendedResolutionLevel_eq hdoc hp] at hlevels
    obtain ⟨havc, hhevc⟩ := readLevel_eq_iff.mp hlevels
    exact ⟨readDecoderTypes_eq_iff.mp htypes, havc, hhevc,
      (map_getD_eq_filterMap_iff _ _ _).mp hspeeds⟩
  · intro h
    refine ⟨hsuccess, ?_, ?_, ?_, ?_⟩
    · rw [hc]
      exact readDecoderTypes_eq_iff.mpr h.audioAlone
    · simp only [getRecommendedResolutionLevel_eq hdoc hp]
      exact readLevel_eq_iff.mpr ⟨h.avc, h.hevc⟩
    · rw [hc]
    · rw [hc]
      exact (map_getD_eq_filterMap_iff _ _ _).mpr h.speeds

/-- Codes in the order of the table. -/
def speedsInOrder : PlaybackSpeed := ⟨0, 1, 2, 3, 4, 5, 6, 7⟩

/-- A player that has read nothing yet. -/
def newPlayer (doc : Json) : HwCastStreamPlayer speedsInOrder where
  streamPlayer := some (some doc)
  jsonCapabilities := clearJsonCapabilities
  castPlusSpeedToDouble := ⟨AvSession.Cast.castPlusSpeedToDouble speedsInOrder, fun _ => rfl⟩

/-- The levels of the two decoders of video. -/
def videoLevels : List (String × Json) :=
  [("video/hevc", .array [.number 1, .number 3]), ("video/avc", .array [])]

/-- What is listed of video, with a foreign element among the decoders. -/
def videoMembers : List (String × Json) :=
  [("decoderType", .array [.string "video/avc", .null, .string "video/hevc"]),
    ("decoderSupportResolution", .object videoLevels),
    ("HDRFormat", .array [.number 0, .number 2])]

/-- A document with all that is read of video, and two speeds. -/
def videoDocument : Json :=
  .object [("video", .object videoMembers), ("speed", .array [.number 1, .number 3])]

/-- The document below is a capability document. -/
theorem capabilityDocument_videoDocument : CapabilityDocument videoDocument where
  object := ⟨_, rfl⟩
  video := fun _ h => ⟨_, (Option.some.inj h).symm⟩
  videoDecoderTypes := fun _ h => ⟨_, (Option.some.inj h).symm⟩
  resolutions := fun _ h => ⟨_, (Option.some.inj h).symm⟩
  hevc := fun _ h => ⟨_, (Option.some.inj h).symm⟩
  avc := fun _ h => ⟨_, (Option.some.inj h).symm⟩
  hdrFormats := fun _ h => ⟨_, (Option.some.inj h).symm⟩
  audio := fun _ h => nomatch h
  audioDecoderType := fun _ h => nomatch h
  speed := fun _ h => ⟨_, (Option.some.inj h).symm⟩

/-- The document below is readable. -/
theorem readable_videoDocument : Readable speedsInOrder videoDocument where
  audioAlone := fun _ => rfl
  avc := rfl
  hevc := fun _ h => nomatch h
  speeds := by
    show ∀ code ∈ [(1 : ℤ), 3], castPlusSpeedToDouble speedsInOrder code ≠ none
    simp [castPlusSpeedToDouble, speedsInOrder]

/-- It is read completely. -/
theorem readCompletely_videoDocument : ReadCompletely videoDocument (newPlayer videoDocument) :=
  (readCompletely_iff capabilityDocument_videoDocument rfl).mpr readable_videoDocument

/-- Levels of avc. -/
def avcLevels : Json :=
  .object [("video", .object [("decoderSupportResolution",
    .object [("video/avc", .array [.number 2])])])]

/-- The best level of avc is not found. -/
theorem not_readCompletely_avc : ¬ ReadCompletely avcLevels (newPlayer avcLevels) := by
  intro h
  have havc : (none : Option ℤ) = some 2 := h.resolutions "video/avc"
  cases havc

end Complete

end AvSession.Cast
