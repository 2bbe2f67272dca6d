import AvSession.Item
import AvSession.Queue.Recent

/-!
# The queue image of a session

A session writes the image of its playlist to a file when the metadata is set, and so does the
service when it saves the playlist. The session reads the image back when the metadata is read.

* `readMetaDataAVQueueImg` — the reader.
* `setAVMetaData` — the metadata is stored; a callback of the service may read it, which puts what
  the file held into the image; the service may save the playlist, which clears the image; then the
  session writes what is left of the image.
* `updateAVQueueInfo` — an image is written for a playlist.
* `setTouches`, `setAVMetaData_files` — what a call does to a file.
* Left out: the media image, the messages to the controllers, and the capsule.

The pixel map of a call and the one that the session holds afterwards are the same object, so one is
filled and cleared with the other.
-/

namespace AvSession.Queue

open AvSession.Lib AvSession.Meta

/-! ## Names -/

section names

/-- What the names of the files have of a session. -/
structure QueueSession where
  bundleName : String
  appIndex : ℤ
deriving DecidableEq, Repr

/-- Source: avsession_utils.h, `AVSessionUtils::IsValidFileName` -/
def isValidFileName (fileName : String) : Bool :=
  fileName ≠ "" ∧ '/' ∉ fileName.toList ∧ '\\' ∉ fileName.toList ∧
    ¬ ['.', '.'] <:+: fileName.toList

/-- The name of the file that a session reads.
Source: avsession_item.cpp, `AVSessionItem::ReadMetaDataAVQueueImg` -/
def avQueueFileName (x : QueueSession) (avQueueId : String) : String :=
  if x.appIndex ≠ 0 then
    x.bundleName ++ "_" ++ toString x.appIndex ++ "_" ++ avQueueId ++ getFileSuffix
  else x.bundleName ++ "_" ++ avQueueId ++ getFileSuffix

/-- The name that the service writes for a session is the one that the session reads. -/
theorem avQueueFileName_eq (x : QueueSession) (avQueueId : String) :
    avQueueFileName x avQueueId = queueFileName (bundleKey x.bundleName x.appIndex) avQueueId := by
  unfold avQueueFileName queueFileName bundleKey
  split_ifs <;> rfl

variable (userId : ℤ) (files : Files) (x : QueueSession)

/-- The path of the file that a session reads. -/
def readPath (avQueueId : String) : String := getFixedPathName userId ++ avQueueFileName x avQueueId

/-- Source: avsession_item.cpp, `AVSessionItem::ReadMetaDataAVQueueImg` -/
def readMetaDataAVQueueImg (avQueueId : String) (avQueuePixelMap : Option Image) : Option Image :=
  if isValidFileName (avQueueFileName x avQueueId) then
    readImageFromFile files avQueuePixelMap (readPath userId x avQueueId)
  else avQueuePixelMap

/-- The queue image of a metadata object is read from its file.
Source: avsession_item.cpp, `AVSessionItem::GetMetaData` -/
def getMetaData (metaData : AVMetaData) : AVMetaData :=
  metaData.setVal .avQueueImage
    (readMetaDataAVQueueImg userId files x (metaData.val .avQueueId) (metaData.val .avQueueImage))

end names

/-! ## A call -/

section call

/-- A call of `SetAVMetaData` with a queue image that can be written. `filtered` says whether a
partial filter of a controller selects the queue image, `notified` whether a callback of the service
reads the metadata before the image is saved (the notification of the system UI does), `playing`
whether the session is playing, and `supportPlayIntent` whether the service saves playlists of the
bundle. -/
structure MetaCall where
  session : SessionRef
  metaIn : AVMetaData
  image : Image
  writable : Writable image
  filtered : Bool
  notified : Bool
  playing : Bool
  supportPlayIntent : Bool

/-- The object of the call: it has the image. -/
def MetaCall.metaData (c : MetaCall) : AVMetaData := c.metaIn.setAVQueueImage (some c.image)

/-- The metadata of the session, the image of the call, and the store, in the middle of a call. -/
structure CallState where
  metaData : AVMetaData
  image : Image
  store : QueueStore

variable (opens : String → Bool) (userId : ℤ) (x : QueueSession) (c : MetaCall)

/-- The image of the stored object is read, to be compared with the new one.
Source: avsession_item.cpp, `AVSessionItem::ReadMediaAndAVQueueImg` -/
def readMediaAndAVQueueImg (files : Files) (oldData : AVMetaData) : AVMetaData :=
  if c.filtered ∧ c.metaIn.val .avQueueName ≠ "" ∧ c.metaIn.val .avQueueId ≠ "" then
    let avQueueImage :=
      readMetaDataAVQueueImg userId files x (oldData.val .avQueueId) (oldData.val .avQueueImage)
    if avQueueImage.getD [] ≠ [] then oldData.setAVQueueImage avQueueImage
    else oldData.setVal .avQueueImage avQueueImage
  else oldData

/-- The stored object after the call.
Source: avsession_item.cpp, `AVSessionItem::UpdateMetaData` -/
def updateMetaData (files : Files) (oldData : AVMetaData) : AVMetaData :=
  ((readMediaAndAVQueueImg userId x c files oldData).copyFrom c.metaData).1

/-- Source: avsession_item.cpp, `AVSessionItem::HasAvQueueInfo` -/
def hasAvQueueInfo (metaData : AVMetaData) (playing : Bool) : Bool :=
  metaData.val .avQueueName ≠ "" ∧ metaData.val .avQueueId ≠ "" ∧
    (metaData.val .avQueueImage ≠ none ∨ metaData.val .avQueueImageUri ≠ "") ∧ playing

/-- The session holds the pixel map of the call: the copy took it. -/
def Shares : Prop := c.metaIn.val .assetId ≠ ""

instance : Decidable (Shares c) := inferInstanceAs (Decidable (_ ≠ _))

/-- A callback of the service reads the metadata: the file, if there is one, is read into the pixel
map of the stored object, and with it into the image of the call if it is the same.
Source: avsession_service.cpp, `AVSessionService::NotifySystemUI` and
`AVSessionService::GetLocalTitle` -/
def getLocalTitle (s : CallState) : CallState :=
  if c.notified then
    let metaData := getMetaData userId s.store.files x s.metaData
    { metaData
      image := if Shares c then (metaData.val .avQueueImage).getD [] else s.image
      store := s.store }
  else s

/-- The pixel map of the stored object is cleared, and with it the image of the call if it is the
same. -/
def clearStored (s : CallState) : CallState where
  metaData := withQueueBuffer s.metaData []
  image := if Shares c then [] else s.image
  store := s.store

/-- Source: avsession_service.cpp, `AVSessionService::AddAvQueueInfoToFile` -/
def addAvQueueInfoToFile (s : CallState) : CallState :=
  if c.supportPlayIntent then
    let metaData := getMetaData userId s.store.files x s.metaData
    if metaData.val .avQueueId = "" ∨ metaData.val .avQueueName = "" then clearStored c s
    else
      clearStored c { s with
        store := (saveAvQueueInfo opens userId (bundleKey x.bundleName x.appIndex) metaData
          s.store).1 }
  else s

/-- The image of the call is written, under the plain bundle name, and cleared.
Source: avsession_item.cpp, `AVSessionItem::CheckUseAVMetaData` -/
def writeAVQueueImage (s : CallState) : CallState :=
  if s.image ≠ [] ∧ s.metaData.val .avQueueName ≠ "" ∧ s.metaData.val .avQueueId ≠ "" ∧
      isValidFileName (queueFileName x.bundleName (c.metaIn.val .avQueueId)) then
    { metaData := if Shares c then withQueueBuffer s.metaData [] else s.metaData
      image := []
      store := { s.store with
        files := writeImageToFile opens s.store.files (some s.image)
          (queueFilePath userId x.bundleName (c.metaIn.val .avQueueId)) } }
  else s

/-- Source: avsession_item.cpp, `AVSessionItem::CheckUseAVMetaData` -/
def checkUseAVMetaData (s : CallState) : CallState :=
  let s := getLocalTitle userId x c s
  writeAVQueueImage opens userId x c
    (if hasAvQueueInfo s.metaData c.playing then addAvQueueInfoToFile opens userId x c s else s)

/-- Source: avsession_item.cpp, `AVSessionItem::SetAVMetaData` -/
def setAVMetaData (oldData : AVMetaData) (store : QueueStore) : CallState :=
  checkUseAVMetaData opens userId x c
    ⟨updateMetaData userId x c store.files oldData, c.image, store⟩

/-- Source: avsession_item.cpp, `AVSessionItem::UpdateAVQueueInfo` -/
def updateAVQueueInfo (avQueueId : String) (image : Image) (store : QueueStore) : QueueStore :=
  if isValidFileName (queueFileName x.bundleName avQueueId) then
    { store with
      files := writeImageToFile opens store.files (some image)
        (queueFilePath userId x.bundleName avQueueId) }
  else store

end call

/-! ## What a call does to a file -/

section touches

variable (opens : String → Bool) (userId : ℤ) (x : QueueSession) (c : MetaCall)

/-- What a write does to the file at `path`: the image that it writes there. -/
def writeTouches (image : Image) (filePath path : String) : Option (Option Image) :=
  if path = filePath ∧ Writable image ∧ opens path then some (some image) else none

/-- What saving a playlist does to the file at `path`: the image that it writes there, or `none` in
it if the file is deleted with the evicted record. -/
def saveTouches (bundleName : String) (metaData : AVMetaData) (s : QueueStore) (path : String) :
    Option (Option Image) :=
  if s.valuesArray.head?.bind AVQueueRecord.key = some (bundleName, metaData.val .avQueueId) then
    none
  else
    (writeTouches opens ((metaData.val .avQueueImage).getD [])
      (queueFilePath userId bundleName (metaData.val .avQueueId)) path).or
    (if (evicted (others (bundleName, metaData.val .avQueueId) s.valuesArray)).bind
        AVQueueRecord.imagePath = some path then some none else none)

/-- The service saves the playlist of a call. -/
def Saves (metaData : AVMetaData) : Prop :=
  hasAvQueueInfo metaData c.playing = true ∧ c.supportPlayIntent = true

instance (metaData : AVMetaData) : Decidable (Saves c metaData) :=
  inferInstanceAs (Decidable (_ ∧ _))

/-- The session writes the image of a call itself. -/
def WritesOwn (metaData : AVMetaData) : Prop :=
  ¬ (Saves c metaData ∧ Shares c) ∧ metaData.val .avQueueName ≠ "" ∧
    metaData.val .avQueueId ≠ "" ∧
    isValidFileName (queueFileName x.bundleName (c.metaIn.val .avQueueId)) = true

instance (metaData : AVMetaData) : Decidable (WritesOwn x c metaData) :=
  inferInstanceAs (Decidable (_ ∧ _ ∧ _ ∧ _))

/-- The image of a call after the callbacks of the service. -/
def notifiedImage (files : Files) (metaData : AVMetaData) : Image :=
  if c.notified ∧ Shares c then ((getMetaData userId files x metaData).val .avQueueImage).getD []
  else c.image

/-- What a call of `SetAVMetaData` does to the file at `path`. -/
def setTouches (oldData : AVMetaData) (store : QueueStore) (path : String) :
    Option (Option Image) :=
  let metaData := updateMetaData userId x c store.files oldData
  (if WritesOwn x c metaData then
      writeTouches opens (notifiedImage userId x c store.files metaData)
        (queueFilePath userId x.bundleName (c.metaIn.val .avQueueId)) path
    else none).or
  (if Saves c metaData then
      saveTouches opens userId (bundleKey x.bundleName x.appIndex)
        (getMetaData userId store.files x metaData) store path
    else none)

variable {opens userId x c}

/-- A file holds what the write put there, or what it held before. -/
theorem writeImageToFile_eq (files : Files) (image : Image) (filePath path : String) :
    writeImageToFile opens files (some image) filePath path =
      (writeTouches opens image filePath path).getD (files path) := by
  unfold writeTouches
  by_cases hpath : path = filePath
  · subst hpath
    unfold writeImageToFile
    dsimp only
    by_cases hok : Writable image ∧ opens path
    · rw [if_pos hok, if_pos ⟨rfl, hok⟩, Function.update_self]
      rfl
    · rw [if_neg hok, if_neg fun h => hok h.2]
      rfl
  · rw [writeImageToFile_of_ne hpath, if_neg fun h => hpath h.1]
    rfl

/-- A null pixel map is not written, and neither is one without bytes. -/
theorem writeImageToFile_getD (files : Files) (image : Option Image) (filePath : String) :
    writeImageToFile opens files image filePath =
      writeImageToFile opens files (some (image.getD [])) filePath := by
  cases image with
  | none =>
      unfold writeImageToFile
      dsimp only
      rw [if_neg fun h => h.1.1 rfl]
  | some buffer => rfl

/-- The eviction deletes the file of the evicted record. -/
theorem evictLast_files_eq (s : QueueStore) (path : String) : (evictLast s).files path =
    (if (evicted s.valuesArray).bind AVQueueRecord.imagePath = some path then some none
      else none : Option (Option Image)).getD (s.files path) := by
  rw [evictLast_files]
  cases evicted s.valuesArray with
  | none => rfl
  | some item =>
      unfold deleteAVQueueImage
      cases hitem : item.imagePath with
      | none => simp [hitem]
      | some path' =>
          simp only [Option.bind_some, hitem, Option.some.injEq]
          by_cases hpath : path' = path
          · rw [if_pos hpath, hpath]
            exact deleteFile_self
          · rw [if_neg hpath]
            exact deleteFile_of_ne (Ne.symm hpath)

/-- So it does after a save, with what the save touches. -/
theorem saveAvQueueInfo_files (bundleName : String) (metaData : AVMetaData) (s : QueueStore)
    (path : String) :
    (saveAvQueueInfo opens userId bundleName metaData s).1.files path =
      (saveTouches opens userId bundleName metaData s path).getD (s.files path) := by
  unfold saveAvQueueInfo saveTouches
  by_cases hfirst : s.valuesArray.head?.bind AVQueueRecord.key =
      some (bundleName, metaData.val .avQueueId)
  · rw [if_pos hfirst, if_pos hfirst]
    rfl
  · rw [if_neg hfirst, if_neg hfirst]
    unfold insertAvQueueInfoToCJSONAndPrint
    dsimp only
    rw [writeImageToFile_getD, writeImageToFile_eq, evictLast_files_eq, Option.getD_or]

/-- What is left of a call when the service is done with it. -/
theorem addAvQueueInfoToFile_of_saves {s : CallState} (hsaves : Saves c s.metaData) :
    addAvQueueInfoToFile opens userId x c s = clearStored c { s with
      store := (saveAvQueueInfo opens userId (bundleKey x.bundleName x.appIndex)
        (getMetaData userId s.store.files x s.metaData) s.store).1 } := by
  obtain ⟨hinfo, hsupport⟩ := hsaves
  unfold addAvQueueInfoToFile
  rw [if_pos hsupport]
  dsimp only
  have hnames := of_decide_eq_true hinfo
  have hkeep : ∀ k : MetaKey, k ≠ .avQueueImage →
      (getMetaData userId s.store.files x s.metaData).val k = s.metaData.val k :=
    fun k hk => AVMetaData.setVal_val_of_ne _ _ hk
  rw [if_neg]
  rw [hkeep _ (by decide), hkeep _ (by decide)]
  rintro (hid | hname)
  · exact hnames.2.1 hid
  · exact hnames.1 hname

/-- The state of a call when the service is done with it. -/
theorem afterService (s : CallState) :
    (if hasAvQueueInfo s.metaData c.playing then addAvQueueInfoToFile opens userId x c s else s) =
      if Saves c s.metaData then
        clearStored c { s with
          store := (saveAvQueueInfo opens userId (bundleKey x.bundleName x.appIndex)
            (getMetaData userId s.store.files x s.metaData) s.store).1 }
      else s := by
  by_cases hsaves : Saves c s.metaData
  · rw [if_pos hsaves, if_pos hsaves.1, addAvQueueInfoToFile_of_saves hsaves]
  · rw [if_neg hsaves]
    split_ifs with hinfo
    · unfold addAvQueueInfoToFile
      rw [if_neg fun hsupport => hsaves ⟨hinfo, hsupport⟩]
    · rfl

/-- Another queue buffer leaves the other values. -/
theorem withQueueBuffer_val {m : AVMetaData} {buffer : Image} {k : MetaKey}
    (hk : k ≠ .avQueueImage) : (withQueueBuffer m buffer).val k = m.val k := by
  unfold withQueueBuffer
  split_ifs
  · rfl
  · exact AVMetaData.setVal_val_of_ne _ _ hk

/-- Reading the queue image leaves the other members alone. -/
theorem getMetaData_val {files : Files} {m : AVMetaData} {k : MetaKey} (hk : k ≠ .avQueueImage) :
    (getMetaData userId files x m).val k = m.val k :=
  AVMetaData.setVal_val_of_ne _ _ hk

/-- The queue image that was read. -/
theorem getMetaData_image (files : Files) (m : AVMetaData) :
    (getMetaData userId files x m).val .avQueueImage =
      readMetaDataAVQueueImg userId files x (m.val .avQueueId) (m.val .avQueueImage) :=
  AVMetaData.setVal_val_self _ _

/-- A null pixel map stays null, and another one does not become null. -/
theorem readMetaDataAVQueueImg_eq_none {files : Files} {avQueueId : String}
    {image : Option Image} :
    readMetaDataAVQueueImg userId files x avQueueId image = none ↔ image = none := by
  unfold readMetaDataAVQueueImg readImageFromFile
  split_ifs
  · exact Option.map_eq_none_iff
  · exact Iff.rfl

/-- Assigning a member what it has changes nothing. -/
theorem setVal_eq_self {m : AVMetaData} {k : MetaKey} {v : k.Field} (hv : v = m.val k) :
    m.setVal k v = m := by
  unfold AVMetaData.setVal MaskedRecord.setVal
  rw [hv, Function.update_eq_self]

/-- Reading the queue image twice is reading it once. -/
theorem getMetaData_getMetaData (files : Files) (m : AVMetaData) :
    getMetaData userId files x (getMetaData userId files x m) = getMetaData userId files x m := by
  have hread : readMetaDataAVQueueImg userId files x (m.val .avQueueId)
      (readMetaDataAVQueueImg userId files x (m.val .avQueueId) (m.val .avQueueImage)) =
        readMetaDataAVQueueImg userId files x (m.val .avQueueId) (m.val .avQueueImage) := by
    unfold readMetaDataAVQueueImg readImageFromFile
    split_ifs
    · cases m.val .avQueueImage with
      | none => rfl
      | some b => cases files (readPath userId x (m.val .avQueueId)) <;> rfl
    · rfl
  refine setVal_eq_self ?_
  rw [getMetaData_val (by decide), getMetaData_image]
  exact hread

section notified

variable (s : CallState)

/-- A callback of the service leaves the files alone. -/
@[simp] theorem getLocalTitle_store : (getLocalTitle userId x c s).store = s.store := by
  unfold getLocalTitle
  by_cases hnotified : c.notified = true
  · rw [if_pos hnotified]
  · rw [if_neg hnotified]

/-- It reads the metadata. -/
theorem getLocalTitle_metaData : (getLocalTitle userId x c s).metaData =
    if c.notified then getMetaData userId s.store.files x s.metaData else s.metaData := by
  unfold getLocalTitle
  by_cases hnotified : c.notified = true
  · rw [if_pos hnotified, if_pos hnotified]
  · rw [if_neg hnotified, if_neg hnotified]

/-- It leaves the names of the playlist alone. -/
theorem getLocalTitle_val {k : MetaKey} (hk : k ≠ .avQueueImage) :
    (getLocalTitle userId x c s).metaData.val k = s.metaData.val k := by
  rw [getLocalTitle_metaData]
  split_ifs
  · exact getMetaData_val hk
  · rfl

/-- What is read after it is what would have been read before. -/
theorem getMetaData_getLocalTitle :
    getMetaData userId s.store.files x (getLocalTitle userId x c s).metaData =
      getMetaData userId s.store.files x s.metaData := by
  rw [getLocalTitle_metaData]
  split_ifs
  · exact getMetaData_getMetaData _ _
  · rfl

/-- The service saves the playlist after it exactly if it would have done so before. -/
theorem saves_getLocalTitle :
    Saves c (getLocalTitle userId x c s).metaData ↔ Saves c s.metaData := by
  have himage : (getLocalTitle userId x c s).metaData.val .avQueueImage ≠ none ↔
      s.metaData.val .avQueueImage ≠ none := by
    rw [getLocalTitle_metaData]
    split_ifs
    · rw [getMetaData_image]
      exact not_congr readMetaDataAVQueueImg_eq_none
    · rfl
  unfold Saves hasAvQueueInfo
  rw [decide_eq_true_iff, decide_eq_true_iff, getLocalTitle_val _ (by decide),
    getLocalTitle_val _ (by decide), himage, getLocalTitle_val _ (by decide)]

/-- The title's lookup leaves in the shared map the image it read. -/
theorem getLocalTitle_image (hshares : s.image = c.image) :
    (getLocalTitle userId x c s).image = notifiedImage userId x c s.store.files s.metaData := by
  unfold getLocalTitle notifiedImage
  by_cases hnotified : c.notified = true
  · rw [if_pos hnotified]
    dsimp only
    by_cases hs : Shares c
    · rw [if_pos hs, if_pos ⟨hnotified, hs⟩]
    · rw [if_neg hs, if_neg fun h => hs h.2]
      exact hshares
  · rw [if_neg hnotified, if_neg fun h => hnotified h.1]
    exact hshares

end notified

/-- The files after the session has written its image. -/
theorem writeAVQueueImage_files (s : CallState) (path : String) :
    (writeAVQueueImage opens userId x c s).store.files path =
      (if s.metaData.val .avQueueName ≠ "" ∧ s.metaData.val .avQueueId ≠ "" ∧
          isValidFileName (queueFileName x.bundleName (c.metaIn.val .avQueueId)) then
        writeTouches opens s.image
          (queueFilePath userId x.bundleName (c.metaIn.val .avQueueId)) path
      else none).getD (s.store.files path) := by
  unfold writeAVQueueImage
  by_cases himage : s.image = []
  · have hnone : writeTouches opens s.image
        (queueFilePath userId x.bundleName (c.metaIn.val .avQueueId)) path = none :=
      if_neg fun h => h.2.1.1 himage
    rw [if_neg fun h => h.1 himage, hnone, ite_self]
    rfl
  · by_cases hwrites : s.metaData.val .avQueueName ≠ "" ∧ s.metaData.val .avQueueId ≠ "" ∧
        isValidFileName (queueFileName x.bundleName (c.metaIn.val .avQueueId))
    · rw [if_pos ⟨himage, hwrites⟩, if_pos hwrites]
      exact writeImageToFile_eq _ _ _ _
    · rw [if_neg fun h => hwrites h.2, if_neg hwrites]
      rfl

/-- The files after a call of `SetAVMetaData`. -/
theorem setAVMetaData_files (oldData : AVMetaData) (store : QueueStore) (path : String) :
    (setAVMetaData opens userId x c oldData store).store.files path =
      (setTouches opens userId x c oldData store path).getD (store.files path) := by
  unfold setAVMetaData checkUseAVMetaData setTouches
  dsimp only
  rw [writeAVQueueImage_files, afterService, Option.getD_or]
  generalize updateMetaData userId x c store.files oldData = m
  have hname : (getLocalTitle userId x c ⟨m, c.image, store⟩).metaData.val .avQueueName =
      m.val .avQueueName := getLocalTitle_val _ (by decide)
  have hid : (getLocalTitle userId x c ⟨m, c.image, store⟩).metaData.val .avQueueId =
      m.val .avQueueId := getLocalTitle_val _ (by decide)
  have hsame : Saves c (getLocalTitle userId x c ⟨m, c.image, store⟩).metaData ↔ Saves c m :=
    saves_getLocalTitle _
  by_cases hsaves : Saves c m
  · simp only [if_pos hsaves, if_pos (hsame.mpr hsaves)]
    rw [getLocalTitle_store, getMetaData_getLocalTitle ⟨m, c.image, store⟩,
      ← saveAvQueueInfo_files]
    unfold clearStored
    dsimp only
    rw [withQueueBuffer_val (by decide), withQueueBuffer_val (by decide), hname, hid]
    by_cases hshares : Shares c
    · have hnot : ¬ WritesOwn x c m := fun h => h.1 ⟨hsaves, hshares⟩
      have hnone : writeTouches opens []
          (queueFilePath userId x.bundleName (c.metaIn.val .avQueueId)) path = none :=
        if_neg fun h => h.2.1.1 rfl
      rw [if_neg hnot, if_pos hshares, hnone, ite_self]
    · rw [if_neg hshares, getLocalTitle_image _ rfl]
      exact congrArg (Option.getD · _) (if_congr
        (and_iff_right (a := ¬ (Saves c m ∧ Shares c)) fun h => hshares h.2).symm rfl rfl)
  · simp only [if_neg hsaves, if_neg (mt hsame.mp hsaves)]
    rw [getLocalTitle_store, hname, hid, getLocalTitle_image _ rfl]
    exact congrArg (Option.getD · _) (if_congr
      (and_iff_right (a := ¬ (Saves c m ∧ Shares c)) fun h => hsaves h.1).symm rfl rfl)

/-- A call of `SetAVMetaData` leaves only images that can be written. -/
theorem holds_setAVMetaData {store : QueueStore} (h : Holds opens store.files)
    (oldData : AVMetaData) :
    Holds opens (setAVMetaData opens userId x c oldData store).store.files := by
  have hwrite : ∀ s : CallState, Holds opens s.store.files →
      Holds opens (writeAVQueueImage opens userId x c s).store.files := by
    intro s hs
    unfold writeAVQueueImage
    by_cases hwrites : s.image ≠ [] ∧ s.metaData.val .avQueueName ≠ "" ∧
        s.metaData.val .avQueueId ≠ "" ∧
        isValidFileName (queueFileName x.bundleName (c.metaIn.val .avQueueId))
    · rw [if_pos hwrites]
      exact hs.writeImageToFile (some s.image) _
    · rw [if_neg hwrites]
      exact hs
  unfold setAVMetaData checkUseAVMetaData
  apply hwrite
  rw [afterService]
  split_ifs
  · show Holds opens (saveAvQueueInfo opens userId _ _ (getLocalTitle userId x c _).store).1.files
    rw [getLocalTitle_store]
    exact Holds.saveAvQueueInfo _ h _ _
  · rw [getLocalTitle_store]
    exact h

end touches

end AvSession.Queue
