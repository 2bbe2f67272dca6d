import AvSession.Meta.Delivery
import Mathlib.Logic.Function.Basic

/-!
# The queue history and its images

The service keeps, for each user, a JSON array of the playlists that were played, the latest first,
and the image of each playlist in a file of its own.

* `Files` — the files by their paths, with the three functions of `AVSessionUtils` on them.
* `AVQueueRecord` — the records of the array.
* `saveAvQueueInfo` — a playlist is saved: its old record is removed, the last record is evicted if
  the array is full, the image is written and the new record is inserted.
* Left out: loading and saving the array, and texts with a NUL, at which `c_str()` cuts them.

`opens` says which paths an `ofstream` can open for writing.
-/

namespace AvSession.Queue

open AvSession.Meta

/-! ## Files -/

section files

/-- The buffer of an image. -/
abbrev Image := List UInt8

/-- The image files by their paths. -/
abbrev Files := String → Option Image

/-- Source: avsession_utils.h, `AVSessionUtils::WriteImageToFile` -/
def writeImageToFile (opens : String → Bool) (files : Files) (innerPixelMap : Option Image)
    (filePath : String) : Files :=
  match innerPixelMap with
  | none => files
  | some buffer =>
      if Writable buffer ∧ opens filePath then Function.update files filePath (some buffer)
      else files

/-- Source: avsession_utils.h, `AVSessionUtils::ReadImageFromFile` -/
def readImageFromFile (files : Files) (innerPixelMap : Option Image) (filePath : String) :
    Option Image :=
  innerPixelMap.map fun buffer => (files filePath).getD buffer

/-- Source: avsession_utils.h, `AVSessionUtils::DeleteFile` -/
def deleteFile (files : Files) (filePath : String) : Files := Function.update files filePath none

/-- Source: avsession_utils.h, `AVSessionUtils::GetFixedPathName` -/
def getFixedPathName (userId : ℤ) : String :=
  "/data/service/el2/" ++ toString userId ++ "/av_session/"

/-- Source: avsession_utils.h, `AVSessionUtils::GetFileSuffix` -/
def getFileSuffix : String := ".image.dat"

/-- The name of the file of a playlist: `bundleName + "_" + avQueueId + GetFileSuffix()`. -/
def queueFileName (bundleName avQueueId : String) : String :=
  bundleName ++ "_" ++ avQueueId ++ getFileSuffix

variable {opens : String → Bool} {files : Files} {image : Option Image} {path path' : String}

/-- A write reaches the file, with these bytes. -/
def Writes (opens : String → Bool) (image : Option Image) (path : String) (buffer : Image) : Prop :=
  image = some buffer ∧ Writable buffer ∧ opens path

/-- An image that is written is in its file. -/
theorem writeImageToFile_of_writes {buffer : Image} (h : Writes opens image path buffer) :
    writeImageToFile opens files image path = Function.update files path (some buffer) := by
  obtain ⟨rfl, hok⟩ := h
  exact if_pos hok

/-- An image that is not written changes no file. -/
theorem writeImageToFile_of_not_writes (h : ∀ buffer, ¬ Writes opens image path buffer) :
    writeImageToFile opens files image path = files := by
  cases image with
  | none => rfl
  | some buffer => exact if_neg fun hok => h buffer ⟨rfl, hok⟩

/-- A write touches its own file only. -/
theorem writeImageToFile_of_ne (h : path' ≠ path) :
    writeImageToFile opens files image path path' = files path' := by
  cases image with
  | none => rfl
  | some buffer =>
      unfold writeImageToFile
      dsimp only
      split_ifs
      · exact Function.update_of_ne h _ _
      · rfl

/-- Deleting leaves the other files. -/
theorem deleteFile_of_ne (h : path' ≠ path) : deleteFile files path path' = files path' :=
  Function.update_of_ne h _ _

/-- A deleted file is gone. -/
theorem deleteFile_self : deleteFile files path path = none := Function.update_self _ _ _

/-- The files hold what can be written, at paths that can be opened. -/
def Holds (opens : String → Bool) (files : Files) : Prop :=
  ∀ path image, files path = some image → Writable image ∧ opens path

/-- Writing leaves readable files. -/
theorem Holds.writeImageToFile (h : Holds opens files) (image : Option Image) (path : String) :
    Holds opens (writeImageToFile opens files image path) := by
  by_cases hwrites : ∃ buffer, Writes opens image path buffer
  · obtain ⟨buffer, hwrites⟩ := hwrites
    rw [writeImageToFile_of_writes hwrites]
    intro path' image' hfile
    by_cases hpath : path' = path
    · subst hpath
      rw [Function.update_self, Option.some.injEq] at hfile
      exact hfile ▸ hwrites.2
    · rw [Function.update_of_ne hpath] at hfile
      exact h path' image' hfile
  · rw [writeImageToFile_of_not_writes (not_exists.mp hwrites)]
    exact h

/-- Deleting leaves readable files. -/
theorem Holds.deleteFile (h : Holds opens files) (path : String) :
    Holds opens (deleteFile files path) := by
  intro path' image hfile
  by_cases hpath : path' = path
  · subst hpath
    rw [deleteFile_self] at hfile
    cases hfile
  · rw [deleteFile_of_ne hpath] at hfile
    exact h path' image hfile

end files

/-! ## The array -/

section array

/-- The members of an object of the array; a member that is missing or no string is `none`.
Source: avsession_service.cpp, `AVSessionService::InsertAvQueueInfoToCJSONAndPrint` -/
structure AVQueueRecord where
  bundleName : Option String
  avQueueName : Option String
  avQueueId : Option String
  avQueueImageDir : Option String
  avQueueImageName : Option String
  avQueueImageUri : Option String
deriving DecidableEq, Repr

/-- What the loop compares: both members have to be strings. -/
def AVQueueRecord.key (r : AVQueueRecord) : Option (String × String) :=
  r.bundleName.bind fun bundleName => r.avQueueId.map fun avQueueId => (bundleName, avQueueId)

/-- The path that `DeleteAVQueueImage` removes; both members have to be strings. -/
def AVQueueRecord.imagePath (r : AVQueueRecord) : Option String :=
  r.avQueueImageDir.bind fun dir => r.avQueueImageName.map fun name => dir ++ name

/-- Source: avsession_service.h -/
def maxAVQueueInfoLen : ℕ := 99

/-- The array and the image files of a user. -/
structure QueueStore where
  files : Files
  valuesArray : List AVQueueRecord

/-- The store of a new user. -/
def QueueStore.init : QueueStore := ⟨fun _ => none, []⟩

variable (opens : String → Bool) (userId : ℤ)

/-- The record of a playlist. -/
def newRecord (bundleName : String) (metaData : AVMetaData) : AVQueueRecord where
  bundleName := some bundleName
  avQueueName := some (metaData.val .avQueueName)
  avQueueId := some (metaData.val .avQueueId)
  avQueueImageDir := some (getFixedPathName userId)
  avQueueImageName := some (queueFileName bundleName (metaData.val .avQueueId))
  avQueueImageUri := some (metaData.val .avQueueImageUri)

/-- The path that the image of a playlist is written to. -/
def queueFilePath (bundleName avQueueId : String) : String :=
  getFixedPathName userId ++ queueFileName bundleName avQueueId

/-- Source: `AVSessionService::InsertAvQueueInfoToCJSONAndPrint` -/
def insertAvQueueInfoToCJSONAndPrint (bundleName : String) (metaData : AVMetaData)
    (s : QueueStore) : QueueStore where
  files := writeImageToFile opens s.files (metaData.val .avQueueImage)
    (queueFilePath userId bundleName (metaData.val .avQueueId))
  valuesArray := newRecord userId bundleName metaData :: s.valuesArray

/-- Source: `AVSessionService::DeleteAVQueueImage` -/
def deleteAVQueueImage (files : Files) (item : AVQueueRecord) : Files :=
  match item.imagePath with
  | some path => deleteFile files path
  | none => files

/-- The last record is evicted if the array is full.
Source: `AVSessionService::SaveAvQueueInfo` -/
def evictLast (s : QueueStore) : QueueStore :=
  if maxAVQueueInfoLen ≤ s.valuesArray.length then
    match s.valuesArray.getLast? with
    | some item => ⟨deleteAVQueueImage s.files item, s.valuesArray.dropLast⟩
    | none => s
  else s

/-- The records of other playlists. -/
def others (k : String × String) (valuesArray : List AVQueueRecord) : List AVQueueRecord :=
  valuesArray.filter fun r => r.key ≠ some k

/-- A playlist whose record is the first one is not saved again.
Source: `AVSessionService::SaveAvQueueInfo` -/
def saveAvQueueInfo (bundleName : String) (metaData : AVMetaData) (s : QueueStore) :
    QueueStore × Bool :=
  if s.valuesArray.head?.bind AVQueueRecord.key = some (bundleName, metaData.val .avQueueId) then
    (s, false)
  else
    (insertAvQueueInfoToCJSONAndPrint opens userId bundleName metaData
      (evictLast ⟨s.files, others (bundleName, metaData.val .avQueueId) s.valuesArray⟩), true)

variable {opens}

/-- The eviction leaves readable files. -/
theorem Holds.evictLast {s : QueueStore} (h : Holds opens s.files) :
    Holds opens (evictLast s).files := by
  unfold Queue.evictLast
  split_ifs
  · cases s.valuesArray.getLast? with
    | none => exact h
    | some item =>
        show Holds opens (deleteAVQueueImage s.files item)
        unfold deleteAVQueueImage
        cases item.imagePath with
        | none => exact h
        | some path => exact h.deleteFile path
  · exact h

/-- A save leaves readable files. -/
theorem Holds.saveAvQueueInfo {s : QueueStore} (h : Holds opens s.files) (bundleName : String)
    (metaData : AVMetaData) :
    Holds opens (saveAvQueueInfo opens userId bundleName metaData s).1.files := by
  unfold Queue.saveAvQueueInfo
  split_ifs
  · exact h
  · have hevict : Holds opens
        (Queue.evictLast ⟨s.files, others (bundleName, metaData.val .avQueueId)
          s.valuesArray⟩).files := Holds.evictLast h
    exact hevict.writeImageToFile _ _

end array

end AvSession.Queue
