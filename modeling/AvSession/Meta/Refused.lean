import AvSession.Queue.Image

/-!
# Metadata that is refused

A call of `SetAVMetaData` in full: the flags of the session and its lyric title, the callbacks of
the service, the posted delivery and the remote source. `CopyFrom` refuses an object without an
asset id, and one of the stored asset in which nothing is set; the callers of `UpdateMetaData` do
not learn of it.

* `MediaItem`, `CallContext` — the session, and what a call reads of its surroundings.
* `CallContext.setAVMetaData` — the call.
* `item_setAVMetaData` — on the metadata, the file and the tasks it is the call without flags.
* `NoEffect` — what is expected of a call that is refused.
* `refused_effects` — what a refused call does; no refused call meets it.
* Left out: what the callbacks do in the service. The one of the notification reads the images of
  the session from their files.
-/

namespace AvSession.Meta

open AvSession.Lib

variable {ω : Type}

/-! ## The session and its surroundings -/

section session

/-- A callback of the service, or an event of the recommendation service. -/
inductive MediaCallback
  | photoCast
  | ntf (isMediaChange : Bool)
  | stream
  | updateSession (addToFront : Bool)
  | addAVQueueInfo
  | writeAVQueueImage (fileName : String) (image : List UInt8)
  | publishRecommendInfo (assetId : String) (duration : ℤ)
deriving DecidableEq

/-- The session with its flags. `callbacks` are the callbacks so far, and `remoteCalls` the objects
that the remote source was given. -/
structure MediaItem (ω : Type) where
  item : ItemState ω
  isMediaChange : Bool
  isRecommendMediaChange : Bool
  isMediaChangeForMirrorToStream : Bool
  isFirstAddToFront : Bool
  isRecommend : Bool
  lyricTitle : String
  callbacks : List MediaCallback
  remoteCalls : List AVMetaData

/-- A new session. Source: avsession_item.h, the initializers of AVSessionItem. -/
def MediaItem.init (controllers : List Controller) : MediaItem ω where
  item := .init controllers
  isMediaChange := true
  isRecommendMediaChange := false
  isMediaChangeForMirrorToStream := false
  isFirstAddToFront := true
  isRecommend := false
  lyricTitle := ""
  callbacks := []
  remoteCalls := []

/-- What a call reads of the session and of its surroundings. The flags named after a callback say
whether it is set. `castDescription` is the title and the icon of the item that is cast, and
`remoteSource` answers what it is given. -/
structure CallContext where
  uid : Uid
  bundleName : String
  sessionTag : String
  sessionType : SessionType
  isCasting : Bool
  castDescription : Option (String × String)
  supportedCmd : List ℤ
  supportedCastCmds : List ℤ
  requiresUrlCast : Bool
  isStreamToMirrorFromSink : Bool
  isInMirrorToStreamState : Bool
  mirrorCastHandle : ℤ
  serviceCallbackForPhotoCast : Bool
  serviceCallbackForNtf : Bool
  serviceCallbackForStream : Bool
  serviceCallbackForUpdateSession : Bool
  serviceCallbackForAddAVQueueInfo : Bool
  remoteSource : Option (AVMetaData → RetCode)

end session

/-! ## The call -/

namespace CallContext

section call

/-- audioBrokerUid of avsession_item.h. -/
def audioBrokerUid : Uid := 5557

/-- defaultBundleName of avsession_item.h. -/
def defaultBundleName : String := "com.example.himusicdemo"

/-- PLAYBACK_STATE_PLAY of avplayback_state.h. -/
def playbackStatePlay : ℤ := 2

variable (c : CallContext) (s : MediaItem ω) (newData : AVMetaData)

/-- Source: avsession_item.cpp, AVSessionItem::CheckTitleChange. -/
def checkTitleChange (metaData : AVMetaData) : Bool :=
  let isTitleChange := metaData.val .title ≠ newData.val .title
  let isAncoTitleLyric := c.uid = audioBrokerUid ∧ '-' ∈ (newData.val .artist).toList
  let isTitleLyric :=
    (c.bundleName = defaultBundleName ∧ newData.val .description ≠ "") ∨ isAncoTitleLyric
  isTitleChange ∧ ¬ isTitleLyric

/-- The call is taken to be about other media. -/
def IsMediaChange (metaData : AVMetaData) : Prop :=
  metaData.val .assetId ≠ newData.val .assetId ∨ c.checkTitleChange newData metaData = true

instance (metaData : AVMetaData) : Decidable (c.IsMediaChange newData metaData) :=
  inferInstanceAs (Decidable (_ ∨ _))

/-- The first half of UpdateMetaData. Source: avsession_item.cpp, AVSessionItem::UpdateMetaData. -/
def noteMediaChange : MediaItem ω :=
  { s with
    isMediaChange := true
    isRecommendMediaChange := true
    lyricTitle := newData.val .title
    isMediaChangeForMirrorToStream := s.isMediaChangeForMirrorToStream || c.isStreamToMirrorFromSink
    callbacks := s.callbacks ++
      if c.isStreamToMirrorFromSink && c.serviceCallbackForStream then [.stream] else [] }

/-- Whether the image, or its URI, is not the one before.
Source: avsession_item.cpp, AVSessionItem::UpdateMetaData. -/
def imageChanged (oldData copied : AVMetaData) (imageFile : Option (List UInt8)) : Bool :=
  copied.val .mediaImage ≠ none ∧
    (oldData.val .mediaImageUri ≠ copied.val .mediaImageUri ∨
      readImageFromFile imageFile [] ≠ mediaBytes copied)

/-- Source: avsession_item.cpp, AVSessionItem::UpdateMetaData. -/
def updateMetaData (oldData : AVMetaData) : MediaItem ω :=
  let s := if c.IsMediaChange newData oldData then c.noteMediaChange s newData else s
  let copied := oldData.copyFrom newData
  { s with
    item := Meta.updateMetaData s.item newData oldData
    isMediaChange :=
      s.isMediaChange || (copied.2 && imageChanged oldData copied.1 s.item.imageFile) }

/-- Source: avsession_item.cpp, AVSessionItem::IsAppSupportCast. -/
def isAppSupportCast : Bool := c.requiresUrlCast && decide (s.item.metaData.val .filter ≠ (0 : ℤ))

/-- Source: avsession_item.cpp, AVSessionItem::UpdateRecommendInfo. -/
def updateRecommendInfo (needRecommend : Bool) : MediaItem ω :=
  let m := s.item.metaData
  if c.sessionTag = "RemoteCast" then s
  else if needRecommend then
    if s.isRecommendMediaChange ∧ ¬ s.isFirstAddToFront ∧ c.isAppSupportCast s ∧
        m.val .duration ≠ (0 : ℤ) then
      { s with
        isRecommendMediaChange := false
        isRecommend := true
        callbacks :=
          s.callbacks ++ [.publishRecommendInfo (m.val .assetId) (m.val .duration)] }
    else s
  else if s.isRecommend then
    { s with
      isRecommendMediaChange := true
      callbacks := s.callbacks ++ [.publishRecommendInfo (m.val .assetId) (-1)] }
  else s

/-- Whether the session is to leave the front.
Source: avsession_item.cpp, AVSessionItem::HandleFrontSession. -/
def leavesFront : Bool :=
  let isMetaEmpty := s.item.metaData.val .title = "" ∧ s.item.metaData.val .mediaImage = none
  let isCastMetaEmpty := c.castDescription = none ∨ c.castDescription = some ("", "")
  let isSupportedCmdEmpty := c.supportedCmd = []
  let isSupportedCastCmdsEmpty := c.supportedCastCmds = []
  let needRemoveNtfInMirror := c.isInMirrorToStreamState = false ∧ c.mirrorCastHandle ≠ -1 ∧
    (isMetaEmpty ∨ isSupportedCmdEmpty)
  (isMetaEmpty ∧ isCastMetaEmpty) ∨ (isSupportedCmdEmpty ∧ isSupportedCastCmdsEmpty) ∨
    needRemoveNtfInMirror

/-- Source: avsession_item.cpp, AVSessionItem::HandleFrontSession. -/
def handleFrontSession : MediaItem ω :=
  if c.leavesFront s then
    if !s.isFirstAddToFront && c.serviceCallbackForUpdateSession then
      c.updateRecommendInfo { s with
        isFirstAddToFront := true
        callbacks := s.callbacks ++ [.updateSession false] } false
    else s
  else if s.isFirstAddToFront && c.serviceCallbackForUpdateSession then
    c.updateRecommendInfo { s with
      isFirstAddToFront := false
      callbacks := s.callbacks ++ [.updateSession true] } true
  else s

/-- The service is told of other media.
Source: avsession_item.cpp, AVSessionItem::CheckUseAVMetaData. -/
def notifyMediaChange : MediaItem ω :=
  let hasPixelMap := decide (newData.val .mediaImage ≠ none)
  if s.isMediaChange then
    if c.sessionType = .photo then
      if c.serviceCallbackForPhotoCast && c.isCasting then
        { s with isMediaChange := false, callbacks := s.callbacks ++ [.photoCast] }
      else s
    else if c.serviceCallbackForNtf && hasPixelMap then
      { s with isMediaChange := false, callbacks := s.callbacks ++ [.ntf s.isMediaChange] }
    else s
  else s

/-- The service is told of a playlist that plays.
Source: avsession_item.cpp, AVSessionItem::CheckUseAVMetaData. -/
def addAVQueueInfo : MediaItem ω :=
  let playing := decide (s.item.playbackState.val .state = playbackStatePlay)
  if Queue.hasAvQueueInfo s.item.metaData playing && c.serviceCallbackForAddAVQueueInfo then
    { s with callbacks := s.callbacks ++ [.addAVQueueInfo] }
  else s

/-- The end of the function: the session may be recommended.
Source: avsession_item.cpp, AVSessionItem::CheckUseAVMetaData. -/
def recommend : MediaItem ω :=
  c.updateRecommendInfo s
    (c.isAppSupportCast s && decide (s.item.metaData.val .duration ≠ (0 : ℤ)))

/-- The queue image of the call is written. With a bad file name the rest is skipped.
Source: avsession_item.cpp, AVSessionItem::CheckUseAVMetaData. -/
def writeAVQueueImage : MediaItem ω :=
  let m := s.item.metaData
  let image := (newData.val .avQueueImage).getD []
  let fileName := Queue.queueFileName c.bundleName (newData.val .avQueueId)
  if image ≠ [] ∧ m.val .avQueueName ≠ "" ∧ m.val .avQueueId ≠ "" then
    if Queue.isValidFileName fileName then
      c.recommend { s with callbacks := s.callbacks ++ [.writeAVQueueImage fileName image] }
    else s
  else c.recommend s

/-- Source: avsession_item.cpp, AVSessionItem::CheckUseAVMetaData. -/
def checkUseAVMetaData : MediaItem ω :=
  c.writeAVQueueImage
    (c.addAVQueueInfo (c.handleFrontSession (c.notifyMediaChange s newData))) newData

/-- The remote source gets the object.
Source: avsession_item.cpp, AVSessionItem::SetAVMetaData. -/
def setRemoteAVMetaData : MediaItem ω × RetCode :=
  match c.remoteSource with
  | none => (s, .success)
  | some answer => ({ s with remoteCalls := s.remoteCalls ++ [newData] }, answer newData)

/-- The call up to the posted task. Source: avsession_item.cpp, AVSessionItem::SetAVMetaData. -/
def postAVMetaData (queueImage : List UInt8) : MediaItem ω :=
  let item := s.item
  let arrived := { item with
    buffers := Function.update item.buffers item.calls.length (mediaBytes newData) }
  let used := c.checkUseAVMetaData
    (c.updateMetaData { s with item := arrived } newData (comparedData item newData queueImage))
    newData
  { used with
    item := { used.item with
      calls := item.calls ++ [newData]
      tasks := item.tasks ++ item.controllers.map fun controller =>
        ⟨item.calls.length, newData, changedDataMask item newData queueImage, controller⟩ } }

/-- Source: avsession_item.cpp, AVSessionItem::SetAVMetaData. -/
def setAVMetaData (queueImage : List UInt8) : MediaItem ω × RetCode :=
  c.setRemoteAVMetaData (c.postAVMetaData s newData queueImage) newData

end call

/-! ## What the parts of a call leave alone -/

section frames

variable {c : CallContext} {s : MediaItem ω} {newData : AVMetaData}

/-- What is stored, and what the remote source was given. -/
def SameStored (s t : MediaItem ω) : Prop :=
  t.item = s.item ∧ t.lyricTitle = s.lyricTitle ∧ t.remoteCalls = s.remoteCalls ∧
    t.isMediaChangeForMirrorToStream = s.isMediaChangeForMirrorToStream

/-- An item stores what it stores. -/
theorem SameStored.refl (s : MediaItem ω) : SameStored s s := ⟨rfl, rfl, rfl, rfl⟩

/-- Two calls that store nothing new store nothing together. -/
theorem SameStored.trans {s t u : MediaItem ω} (h : SameStored s t) (h' : SameStored t u) :
    SameStored s u :=
  ⟨h'.1.trans h.1, h'.2.1.trans h.2.1, h'.2.2.1.trans h.2.2.1, h'.2.2.2.trans h.2.2.2⟩

/-- The recommendation stores nothing. -/
theorem sameStored_updateRecommendInfo (needRecommend : Bool) :
    SameStored s (c.updateRecommendInfo s needRecommend) := by
  unfold updateRecommendInfo
  dsimp only
  split_ifs <;> exact ⟨rfl, rfl, rfl, rfl⟩

/-- The front session's handling stores nothing. -/
theorem sameStored_handleFrontSession : SameStored s (c.handleFrontSession s) := by
  unfold handleFrontSession
  split_ifs
  · exact SameStored.trans ⟨rfl, rfl, rfl, rfl⟩ (sameStored_updateRecommendInfo _)
  · exact SameStored.refl s
  · exact SameStored.trans ⟨rfl, rfl, rfl, rfl⟩ (sameStored_updateRecommendInfo _)
  · exact SameStored.refl s

/-- The notices of a change store nothing. -/
theorem sameStored_notifyMediaChange : SameStored s (c.notifyMediaChange s newData) := by
  unfold notifyMediaChange
  dsimp only
  split_ifs <;> exact ⟨rfl, rfl, rfl, rfl⟩

/-- The queue's record is stored elsewhere. -/
theorem sameStored_addAVQueueInfo : SameStored s (c.addAVQueueInfo s) := by
  unfold addAVQueueInfo
  dsimp only
  split_ifs <;> exact ⟨rfl, rfl, rfl, rfl⟩

/-- The queue's image is stored elsewhere. -/
theorem sameStored_writeAVQueueImage : SameStored s (c.writeAVQueueImage s newData) := by
  unfold writeAVQueueImage recommend
  dsimp only
  split_ifs
  · exact SameStored.trans ⟨rfl, rfl, rfl, rfl⟩ (sameStored_updateRecommendInfo _)
  · exact SameStored.refl s
  · exact sameStored_updateRecommendInfo _

/-- The service is told of what is stored; none of it changes. -/
theorem sameStored_checkUseAVMetaData : SameStored s (c.checkUseAVMetaData s newData) := by
  have hfront : SameStored s (c.handleFrontSession (c.notifyMediaChange s newData)) :=
    sameStored_notifyMediaChange.trans sameStored_handleFrontSession
  exact hfront.trans (sameStored_addAVQueueInfo.trans sameStored_writeAVQueueImage)

/-- The update takes the lyric title of other media, refused or not. -/
theorem updateMetaData_frame (oldData : AVMetaData) :
    (c.updateMetaData s newData oldData).item = Meta.updateMetaData s.item newData oldData ∧
      (c.updateMetaData s newData oldData).lyricTitle =
        (if c.IsMediaChange newData oldData then newData.val .title else s.lyricTitle) ∧
      (c.updateMetaData s newData oldData).remoteCalls = s.remoteCalls := by
  unfold updateMetaData
  dsimp only
  split_ifs <;> exact ⟨rfl, rfl, rfl⟩

end frames

/-! ## What a call does -/

section calls

variable (c : CallContext) (s : MediaItem ω) (newData : AVMetaData) (queueImage : List UInt8)

/-- Sending to the remote leaves the item. -/
theorem item_setRemoteAVMetaData : (c.setRemoteAVMetaData s newData).1.item = s.item := by
  unfold setRemoteAVMetaData
  cases c.remoteSource <;> rfl

/-- On the metadata, the file and the tasks it is the call without flags. -/
theorem item_setAVMetaData :
    (c.setAVMetaData s newData queueImage).1.item =
      Meta.setAVMetaData s.item newData queueImage := by
  unfold setAVMetaData
  rw [item_setRemoteAVMetaData]
  unfold postAVMetaData
  dsimp only
  rw [sameStored_checkUseAVMetaData.1, (updateMetaData_frame _).1]
  rfl

/-- Whether a call is about other media does not depend on the images. -/
theorem isMediaChange_comparedData :
    c.IsMediaChange newData (comparedData s.item newData queueImage) ↔
      c.IsMediaChange newData s.item.metaData := by
  have hasset : (comparedData s.item newData queueImage).val .assetId = _ :=
    comparedData_val s.item newData queueImage (by decide)
  have htitle : (comparedData s.item newData queueImage).val .title = _ :=
    comparedData_val s.item newData queueImage (by decide)
  unfold IsMediaChange checkTitleChange
  rw [hasset, htitle]

/-- The lyric title is that of the last object about other media. -/
theorem lyricTitle_setAVMetaData :
    (c.setAVMetaData s newData queueImage).1.lyricTitle =
      if c.IsMediaChange newData s.item.metaData then newData.val .title else s.lyricTitle := by
  have hpost : (c.postAVMetaData s newData queueImage).lyricTitle =
      if c.IsMediaChange newData (comparedData s.item newData queueImage) then newData.val .title
      else s.lyricTitle := by
    unfold postAVMetaData
    dsimp only
    rw [sameStored_checkUseAVMetaData.2.1, (updateMetaData_frame _).2.1]
  rw [if_congr (isMediaChange_comparedData c s newData queueImage) rfl rfl] at hpost
  rw [← hpost]
  unfold setAVMetaData setRemoteAVMetaData
  cases c.remoteSource <;> rfl

/-- The remote source gets every object, and answers for the call. -/
theorem remote_setAVMetaData :
    (c.setAVMetaData s newData queueImage).1.remoteCalls =
        s.remoteCalls ++ (if c.remoteSource.isSome then [newData] else []) ∧
      (c.setAVMetaData s newData queueImage).2 =
        (c.remoteSource.map (· newData)).getD .success := by
  have hpost : (c.postAVMetaData s newData queueImage).remoteCalls = s.remoteCalls := by
    unfold postAVMetaData
    dsimp only
    rw [sameStored_checkUseAVMetaData.2.2.1, (updateMetaData_frame _).2.2]
  unfold setAVMetaData setRemoteAVMetaData
  cases c.remoteSource with
  | none => exact ⟨hpost.trans (List.append_nil _).symm, rfl⟩
  | some answer =>
      refine ⟨?_, rfl⟩
      show (c.postAVMetaData s newData queueImage).remoteCalls ++ [newData] = _
      rw [hpost]
      rfl

end calls

end CallContext

/-! ## Refusal -/

section refused

/-- `CopyFrom` refuses an object without an asset id, and one of the stored asset in which nothing is
set. -/
theorem copyFrom_refused_iff {m newData : AVMetaData} :
    (m.copyFrom newData).2 = false ↔ newData.val .assetId = "" ∨
      (newData.val .assetId = m.val .assetId ∧ ∀ k, newData.mask k = false) := by
  unfold AVMetaData.copyFrom
  by_cases hempty : newData.val .assetId = ""
  · rw [if_pos hempty]
    exact iff_of_true rfl (.inl hempty)
  · rw [if_neg hempty, or_iff_right hempty]
    by_cases hasset : newData.val .assetId = m.val .assetId
    · rw [if_neg (not_not.mpr hasset), and_iff_right hasset]
      show MetaKey.all.any newData.mask = false ↔ _
      rw [List.any_eq_false]
      exact forall_congr' fun k =>
        ⟨fun h => Bool.eq_false_iff.mpr (h (MetaKey.mem_all k)),
          fun h _ => Bool.eq_false_iff.mp h⟩
    · rw [if_pos hasset]
      exact iff_of_false Bool.true_eq_false.mp fun h => hasset h.1

variable (c : CallContext) (s : MediaItem ω) (newData : AVMetaData) (queueImage : List UInt8)

/-- What is expected of a call that is refused: what is stored and the flags are as before, the
tasks that are posted deliver nothing, the remote source gets nothing, and the caller learns of
it. -/
structure NoEffect : Prop where
  metaData : (c.setAVMetaData s newData queueImage).1.item.metaData = s.item.metaData
  imageFile : (c.setAVMetaData s newData queueImage).1.item.imageFile = s.item.imageFile
  isMediaChange : (c.setAVMetaData s newData queueImage).1.isMediaChange = s.isMediaChange
  isRecommendMediaChange :
    (c.setAVMetaData s newData queueImage).1.isRecommendMediaChange = s.isRecommendMediaChange
  isMediaChangeForMirrorToStream :
    (c.setAVMetaData s newData queueImage).1.isMediaChangeForMirrorToStream =
      s.isMediaChangeForMirrorToStream
  lyricTitle : (c.setAVMetaData s newData queueImage).1.lyricTitle = s.lyricTitle
  controllers : ∀ t ∈ (c.setAVMetaData s newData queueImage).1.item.tasks.drop s.item.tasks.length,
    ∀ k, sentKeys t.controller t.data t.changedDataMask k = false
  remote : (c.setAVMetaData s newData queueImage).1.remoteCalls = s.remoteCalls
  ret : (c.setAVMetaData s newData queueImage).2 ≠ .success

variable {newData}

/-- A refused call leaves the file, and the members other than images, as they were. -/
theorem stored_of_refused (h : (s.item.metaData.copyFrom newData).2 = false) :
    (c.setAVMetaData s newData queueImage).1.item.imageFile = s.item.imageFile ∧
      ∀ k, k.type ≠ .image →
        (c.setAVMetaData s newData queueImage).1.item.metaData.val k = s.item.metaData.val k := by
  have hasset : (comparedData s.item newData queueImage).val .assetId =
      s.item.metaData.val .assetId := comparedData_val s.item newData queueImage (by decide)
  have hrefused : ((comparedData s.item newData queueImage).copyFrom newData).2 = false := by
    rw [copyFrom_refused_iff, hasset]
    exact copyFrom_refused_iff.mp h
  rw [CallContext.item_setAVMetaData]
  refine ⟨?_, fun k hk => ?_⟩
  · show (updateMetaData _ newData (comparedData s.item newData queueImage)).imageFile = _
    unfold updateMetaData
    rw [if_pos hrefused]
  · show (updateMetaData _ newData (comparedData s.item newData queueImage)).metaData.val k = _
    unfold updateMetaData
    rw [if_pos hrefused]
    exact comparedData_val s.item newData queueImage hk

/-- The lyric title is that of the refused object if it is taken to be about other media. -/
theorem lyricTitle_kept_iff :
    (c.setAVMetaData s newData queueImage).1.lyricTitle = s.lyricTitle ↔
      (c.IsMediaChange newData s.item.metaData → newData.val .title = s.lyricTitle) := by
  rw [CallContext.lyricTitle_setAVMetaData]
  split_ifs with hchange
  · exact ⟨fun h _ => h, fun h => h hchange⟩
  · exact iff_of_true rfl fun h => absurd h hchange

/-- No call is without effect: without a remote source it is reported as a success, and with one it
is passed on. -/
theorem not_noEffect : ¬ NoEffect c s newData queueImage := by
  intro hnone
  obtain ⟨hcalls, hret⟩ := c.remote_setAVMetaData s newData queueImage
  cases hremote : c.remoteSource with
  | none =>
      rw [hremote] at hret
      exact hnone.ret hret
  | some answer =>
      rw [hremote, hnone.remote] at hcalls
      exact List.cons_ne_nil newData [] (List.self_eq_append_right.mp hcalls)

/-- **A refused call.** The file and the members other than images stay; the lyric title stays
exactly if the call is not taken to be about other media, or has that title; the remote source, if
there is one, is given the object and answers for the call, which is a success otherwise. So no
refused call is without effect. -/
theorem refused_effects (h : (s.item.metaData.copyFrom newData).2 = false) :
    ¬ NoEffect c s newData queueImage ∧
      ((c.setAVMetaData s newData queueImage).1.item.imageFile = s.item.imageFile ∧
        ∀ k, k.type ≠ .image → (c.setAVMetaData s newData queueImage).1.item.metaData.val k =
          s.item.metaData.val k) ∧
      ((c.setAVMetaData s newData queueImage).1.lyricTitle = s.lyricTitle ↔
        (c.IsMediaChange newData s.item.metaData → newData.val .title = s.lyricTitle)) ∧
      (c.setAVMetaData s newData queueImage).1.remoteCalls =
        s.remoteCalls ++ (if c.remoteSource.isSome then [newData] else []) ∧
      (c.setAVMetaData s newData queueImage).2 =
        (c.remoteSource.map (· newData)).getD .success :=
  ⟨not_noEffect c s queueImage, stored_of_refused c s queueImage h,
    lyricTitle_kept_iff c s queueImage, c.remote_setAVMetaData s newData queueImage⟩

/-- A call in a new session, of a context without a remote source and without callbacks. -/
def plainContext : CallContext where
  uid := 20010001
  bundleName := "com.example.music"
  sessionTag := "player"
  sessionType := .audio
  isCasting := false
  castDescription := none
  supportedCmd := []
  supportedCastCmds := []
  requiresUrlCast := false
  isStreamToMirrorFromSink := false
  isInMirrorToStreamState := false
  mirrorCastHandle := -1
  serviceCallbackForPhotoCast := false
  serviceCallbackForNtf := false
  serviceCallbackForStream := false
  serviceCallbackForUpdateSession := false
  serviceCallbackForAddAVQueueInfo := false
  remoteSource := none

/-- An object with a title and no asset id. -/
def untitledAsset : AVMetaData := AVMetaData.init.setTitle "song"

/-- The refused call below has its effects. -/
theorem untitledAsset_effects :
    ¬ NoEffect plainContext (MediaItem.init (ω := Unit) []) untitledAsset [] :=
  (refused_effects plainContext (MediaItem.init []) [] rfl).1

/-- The caller is told of a success, and the title of the refused object is taken. -/
theorem refused_title_taken :
    ((MediaItem.init (ω := Unit) []).item.metaData.copyFrom untitledAsset).2 = false ∧
      (plainContext.setAVMetaData (MediaItem.init (ω := Unit) []) untitledAsset []).2 = .success ∧
      (plainContext.setAVMetaData (MediaItem.init (ω := Unit) []) untitledAsset []).1.lyricTitle =
        "song" ∧
      ¬ NoEffect plainContext (MediaItem.init (ω := Unit) []) untitledAsset [] := by
  refine ⟨rfl, rfl, rfl, fun h => ?_⟩
  exact h.ret rfl

end refused

end AvSession.Meta
