import AvSession.Migrate.ValidCommands
import Mathlib.Data.List.Basic

/-!
# The image of a medium, across devices

An image goes to the other device behind the id of its asset and a bar, without any length. The
proxy looks for the first bar. Strings are their bytes.

* `mediaImageMsg` — the message of a server.
* `processMediaImage`, `onBytesRecvForNext` — what the proxy makes of it.
* `processMediaImage_of_bar` — the first bar of a message splits it.
* `mediaImage_iff` — when the asset and the image arrive.
-/

namespace AvSession.Migrate.MediaImage

open AvSession.Migrate.ValidCommands (defaultString)

/-! ## Messages -/

section messages

/-- A `std::string`. -/
abbrev Bytes := List UInt8

/-- The character that is put behind the id of an asset. -/
def bar : UInt8 := 124

/-- MSG_HEAD_MODE_FOR_NEXT of migrate_avsession_constant.h. -/
def msgHeadModeForNext : UInt8 := 101

/-- SYNC_FOCUS_MEDIA_IMAGE of migrate_avsession_constant.h. -/
def syncFocusMediaImage : UInt8 := 16

/-- What `msg` gets behind its two bytes of head.
Source: migrate_avsession_server_for_next.cpp, `MigrateAVSessionServer::DoMediaImageSyncToRemote` -/
def mediaImageStr (curAssetId imgStrMin : Bytes) : Bytes := curAssetId ++ [bar] ++ imgStrMin

/-- Source: migrate_avsession_server_for_next.cpp,
`MigrateAVSessionServer::DoMediaImageSyncToRemote` -/
def mediaImageMsg (curAssetId imgStrMin : Bytes) : Bytes :=
  [msgHeadModeForNext, syncFocusMediaImage] ++ mediaImageStr curAssetId imgStrMin

/-- What a proxy reads and writes of the metadata of its session. -/
structure ImageMetaData where
  assetId : Bytes
  previousAssetId : Bytes
  mediaImageUri : Bytes
  mediaImage : Option Bytes
deriving DecidableEq

/-- The metadata with an asset and its image; an empty image is none.
Source: migrate_avsession_proxy.cpp, `MigrateAVSessionProxy::ProcessMediaImage` -/
def ImageMetaData.setImage (metaData : ImageMetaData) (assetIdForMediaImg imgVec : Bytes) :
    ImageMetaData where
  assetId := if metaData.assetId.isEmpty then assetIdForMediaImg else metaData.assetId
  previousAssetId := assetIdForMediaImg
  mediaImageUri := if imgVec.isEmpty then defaultString else []
  mediaImage := if imgVec.isEmpty then none else some imgVec

/-- The metadata that is set on the remote session, if there is one and the message is not dropped.
Source: migrate_avsession_proxy.cpp, `MigrateAVSessionProxy::ProcessMediaImage` -/
def processMediaImage (remoteSession : Option ImageMetaData) (mediaImageStr : Bytes) :
    Option ImageMetaData :=
  match remoteSession, mediaImageStr.idxOf? bar with
  | some metaData, some insertPos =>
      if 0 < insertPos ∧ insertPos < mediaImageStr.length then
        some (metaData.setImage (mediaImageStr.take insertPos)
          (mediaImageStr.drop (insertPos + 1)))
      else none
  | _, _ => none

/-- A message that is about no media image sets none.
Source: migrate_avsession_proxy.cpp, `MigrateAVSessionProxy::OnBytesRecvForNext` -/
def onBytesRecvForNext (remoteSession : Option ImageMetaData) (data : Bytes) :
    Option ImageMetaData :=
  if 2 < data.length ∧ data[1]? = some syncFocusMediaImage then
    processMediaImage remoteSession (data.drop 2)
  else none

end messages

/-! ## What arrives -/

section arrives

variable {metaData : ImageMetaData} {pre rest assetId image : Bytes}

/-- The first bar ends the asset id. -/
theorem idxOf_bar (h : bar ∉ pre) : (pre ++ bar :: rest).idxOf? bar = some pre.length := by
  rw [List.idxOf?_eq_some_iff]
  refine ⟨by simp, by simp, fun j hj hbar => ?_⟩
  rw [List.getElem_append_left hj] at hbar
  exact h (hbar ▸ List.getElem_mem hj)

/-- The first bar splits a message; nothing may be missing before it. -/
theorem processMediaImage_of_bar (h : bar ∉ pre) :
    processMediaImage (some metaData) (pre ++ bar :: rest) =
      if pre = [] then none else some (metaData.setImage pre rest) := by
  unfold processMediaImage
  rw [idxOf_bar h]
  have hlen : pre.length < (pre ++ bar :: rest).length := by simp
  have hdrop : (pre ++ bar :: rest).drop (pre.length + 1) = rest := by simp
  by_cases hempty : pre = []
  · simp [hempty]
  · have hpos := List.length_pos_iff.mpr hempty
    simp only [hpos, hlen, and_self, if_true, hdrop, List.take_left, if_neg hempty]

/-- A message arrives if its asset is the one before the image, and its bytes are the image. -/
def ImageArrives (set : Option ImageMetaData) (assetId image : Bytes) : Prop :=
  ∃ metaData, set = some metaData ∧ metaData.previousAssetId = assetId ∧
    metaData.mediaImage = some image

/-- **The image that arrives.** Of every asset and every image: the message gives the remote session
exactly this asset for the image and exactly these bytes if and only if the id is not empty and has
no bar, and the image is not empty. -/
theorem mediaImage_iff (metaData : ImageMetaData) (assetId image : Bytes) :
    ImageArrives (onBytesRecvForNext (some metaData) (mediaImageMsg assetId image)) assetId image ↔
      assetId ≠ [] ∧ bar ∉ assetId ∧ image ≠ [] := by
  have hrecv : onBytesRecvForNext (some metaData) (mediaImageMsg assetId image) =
      processMediaImage (some metaData) (assetId ++ bar :: image) := by
    unfold onBytesRecvForNext mediaImageMsg mediaImageStr
    simp
  rw [hrecv]
  by_cases hbar : bar ∈ assetId
  · -- the asset is cut at its first bar, or the message dropped
    obtain ⟨pre, post, rfl, hpre⟩ := List.eq_append_cons_of_mem hbar
    refine iff_of_false ?_ fun h => h.2.1 hbar
    rintro ⟨m, hm, hasset, -⟩
    rw [List.append_assoc, List.cons_append, processMediaImage_of_bar hpre] at hm
    split_ifs at hm
    obtain rfl := Option.some.inj hm
    have hlen : pre.length = (pre ++ bar :: post).length := congrArg List.length hasset
    rw [List.length_append, List.length_cons] at hlen
    omega
  · rw [processMediaImage_of_bar hbar]
    unfold ImageArrives ImageMetaData.setImage
    by_cases hempty : assetId = []
    · simp [hempty]
    · cases image with
      | nil => simp [hempty]
      | cons b image => simp [hempty, hbar]

/-- A session before the first image. -/
def noImage : ImageMetaData := ⟨[], [], [], none⟩

/-- The image of an asset without an id is dropped; of the asset `a|b` the part `b|` is taken for
image data, and that of an asset that begins with a bar is dropped. -/
theorem barredAsset_lost :
    ¬ ImageArrives (onBytesRecvForNext (some noImage) (mediaImageMsg [] [1, 2])) [] [1, 2] ∧
      ¬ ImageArrives (onBytesRecvForNext (some noImage) (mediaImageMsg [97, bar, 98] [1, 2]))
        [97, bar, 98] [1, 2] ∧
      ¬ ImageArrives (onBytesRecvForNext (some noImage) (mediaImageMsg [bar, 97] [1, 2]))
        [bar, 97] [1, 2] := by
  refine ⟨?_, ?_, ?_⟩
  · rintro ⟨m, hm, -⟩
    have hdropped : none = some m := hm
    cases hdropped
  · rintro ⟨m, hm, hasset, -⟩
    obtain rfl := Option.some.inj hm
    exact absurd hasset (by decide)
  · rintro ⟨m, hm, -⟩
    have hdropped : none = some m := hm
    cases hdropped

end arrives

end AvSession.Migrate.MediaImage
