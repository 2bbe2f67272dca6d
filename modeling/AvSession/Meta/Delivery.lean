import AvSession.Lib.LastHit
import AvSession.Lib.Run
import AvSession.Meta.PlaybackState

/-!
# From the session to its controllers

A session keeps one metadata object and one playback state. Playback changes go to the controllers
at once. A metadata change is posted, and runs later, controller after controller.

* `ItemState`, `Action`, `step` — the session, and what can happen: a call, or the next delivery.
* `setAVMetaData` — stores the object, writes its image to the file of the session, clears the image
  in memory, and posts the object with the mask of the changes.
* `handleMetaDataChange` — a delivery: what the mask and the filter leave, with the image from the
  file.

Each call brings an image of its own, whose buffer all deliveries of the call share. The files of
queue images are shared by the sessions of a bundle, so their contents are inputs.
-/

namespace AvSession.Meta

open AvSession.Lib

variable {ω : Type}

/-! ## Controllers and the session -/

/-- Source: avcontroller_item.h, the filters of AVControllerItem. -/
structure Controller where
  pid : ℤ
  metaMask : MetaKey → Bool
  playbackMask : PlaybackKey → Bool
  isFromSession : Bool

namespace Controller

/-- `metaMask_.all()`. -/
def metaAll (c : Controller) : Bool := MetaKey.all.all c.metaMask

/-- `playbackMask_.all()`. -/
def playbackAll (c : Controller) : Bool := PlaybackKey.all.all c.playbackMask

end Controller

/-- A delivery that waits to run. The media image of `data` is that of call number `call`. -/
structure MetaTask where
  call : ℕ
  data : AVMetaData
  changedDataMask : MetaKey → Bool
  controller : Controller

/-- An object that reached the callback of a controller. -/
structure MetaEvent where
  controller : Controller
  metaOut : AVMetaData

/-- A playback state that reached the callback of a controller. -/
structure PlaybackEvent (ω : Type) where
  controller : Controller
  stateOut : AVPlaybackState ω

/-- The session. `buffers` is what the image of each call holds by now. -/
structure ItemState (ω : Type) where
  controllers : List Controller
  metaData : AVMetaData
  playbackState : AVPlaybackState ω
  imageFile : Option (List UInt8)
  calls : List AVMetaData
  buffers : ℕ → List UInt8
  tasks : List MetaTask
  metaEvents : List MetaEvent
  playbackEvents : List (PlaybackEvent ω)

/-- A new session with some controllers. -/
def ItemState.init (controllers : List Controller) : ItemState ω where
  controllers := controllers
  metaData := .init
  playbackState := .init
  imageFile := none
  calls := []
  buffers := fun _ => []
  tasks := []
  metaEvents := []
  playbackEvents := []

/-! ## Images -/

section images

/-- MAX_FILE_SIZE of avsession_utils.h. -/
def maxFileSize : ℕ := 4 * 1024 * 1024

/-- Whether an image is written. Source: avsession_utils.h, AVSessionUtils::WriteImageToFile. -/
def Writable (buffer : List UInt8) : Prop := buffer ≠ [] ∧ buffer.length ≤ maxFileSize

instance (buffer : List UInt8) : Decidable (Writable buffer) :=
  inferInstanceAs (Decidable (buffer ≠ [] ∧ buffer.length ≤ maxFileSize))

/-- Source: avsession_utils.h, AVSessionUtils::WriteImageToFile. -/
def writeImageToFile (file : Option (List UInt8)) (buffer : List UInt8) : Option (List UInt8) :=
  if Writable buffer then some buffer else file

/-- What an image holds after it was read: without a file it keeps its buffer.
Source: avsession_utils.h, AVSessionUtils::ReadImageFromFile. -/
def readImageFromFile (file : Option (List UInt8)) (buffer : List UInt8) : List UInt8 :=
  file.getD buffer

/-- The object with other contents in its media image. -/
def withMediaBuffer (m : AVMetaData) (buffer : List UInt8) : AVMetaData :=
  if m.val .mediaImage = none then m else m.setVal .mediaImage (some buffer)

/-- The object with other contents in its queue image. -/
def withQueueBuffer (m : AVMetaData) (buffer : List UInt8) : AVMetaData :=
  if m.val .avQueueImage = none then m else m.setVal .avQueueImage (some buffer)

/-- The bytes of the media image. -/
def mediaBytes (m : AVMetaData) : List UInt8 := (m.val .mediaImage).getD []

end images

/-! ## A call -/

section call

variable (s : ItemState ω) (newData : AVMetaData)

/-- The union of the partial filters. Source: avsession_item.cpp, AVSessionItem::SetAVMetaData. -/
def recordFilter (controllers : List Controller) : MetaKey → Bool :=
  fun k => controllers.any fun c => !c.metaAll && c.metaMask k

/-- The stored image is read for the comparison. `queueImage` is what the stored queue image holds
then. Source: avsession_item.cpp, AVSessionItem::ReadMediaAndAVQueueImg. -/
def readMediaAndAVQueueImg (filter : MetaKey → Bool) (oldData newData : AVMetaData)
    (imageFile : Option (List UInt8)) (queueImage : List UInt8) : AVMetaData :=
  let oldData := withQueueBuffer oldData queueImage
  if filter .mediaImage = true ∧ mediaBytes newData ≠ [] then
    withMediaBuffer oldData (readImageFromFile imageFile (mediaBytes oldData))
  else oldData

/-- The stored object when the changes are looked for. -/
def comparedData (queueImage : List UInt8) : AVMetaData :=
  if MetaKey.all.any (recordFilter s.controllers) then
    readMediaAndAVQueueImg (recordFilter s.controllers) s.metaData newData s.imageFile queueImage
  else s.metaData

/-- The mask that is posted with the call. -/
def changedDataMask (queueImage : List UInt8) : MetaKey → Bool :=
  if MetaKey.all.any (recordFilter s.controllers) then
    (comparedData s newData queueImage).getChangedDataMask (recordFilter s.controllers) newData
  else fun _ => false

/-- Whether the image that the object holds after the copy is the one of the call. -/
def TakesImage (oldData newData : AVMetaData) : Prop :=
  newData.val .assetId ≠ oldData.val .assetId ∨ newData.mask .mediaImage = true

instance (oldData newData : AVMetaData) : Decidable (TakesImage oldData newData) :=
  inferInstanceAs (Decidable (_ ∨ _))

/-- The image that the object holds is written to the file and cleared, and a new one takes its
place. Source: avsession_item.cpp, AVSessionItem::UpdateMetaData. -/
def updateMetaData (oldData : AVMetaData) : ItemState ω :=
  let copied := oldData.copyFrom newData
  if copied.2 = false then { s with metaData := oldData }
  else if copied.1.val .mediaImage = none then { s with metaData := copied.1 }
  else
    { s with
      metaData := copied.1.setMediaImage (some [])
      imageFile := writeImageToFile s.imageFile (mediaBytes copied.1)
      buffers :=
        if TakesImage oldData newData then Function.update s.buffers s.calls.length []
        else s.buffers }

/-- Source: avsession_item.cpp, AVSessionItem::SetAVMetaData. -/
def setAVMetaData (queueImage : List UInt8) : ItemState ω :=
  let arrived := { s with
    buffers := Function.update s.buffers s.calls.length (mediaBytes newData) }
  let updated := updateMetaData arrived newData (comparedData s newData queueImage)
  { updated with
    calls := s.calls ++ [newData]
    tasks := s.tasks ++ s.controllers.map fun c =>
      ⟨s.calls.length, newData, changedDataMask s newData queueImage, c⟩ }

end call

/-! ## A delivery -/

section delivery

/-- `validMask` of a metadata delivery. -/
def validMetaMask (c : Controller) (changedDataMask : MetaKey → Bool) : MetaKey → Bool :=
  if c.metaAll then c.metaMask else fun k => changedDataMask k && c.metaMask k

/-- The end of a delivery: an image with a URI loses one of the two. -/
def dropImageOrUri (c : Controller) (metaOut : AVMetaData) : AVMetaData :=
  if metaOut.val .mediaImage ≠ none ∧ metaOut.val .mediaImageUri ≠ "" then
    if c.isFromSession then withMediaBuffer metaOut [] else metaOut.setMediaImageUri ""
  else metaOut

/-- What the callback is given, if anything. `buffer` is what the image of the call holds, and
`queueImage` what its queue image holds once it was read.
Source: avcontroller_item.cpp, AVControllerItem::HandleMetaDataChange. -/
def handleMetaDataChange (c : Controller) (data : AVMetaData) (changedDataMask : MetaKey → Bool)
    (imageFile : Option (List UInt8)) (buffer queueImage : List UInt8) : Option AVMetaData :=
  let copied := data.copyToByMask (validMetaMask c changedDataMask) .init
  if copied.2 then
    let metaOut := withMediaBuffer copied.1 (readImageFromFile imageFile buffer)
    let metaOut := withQueueBuffer metaOut queueImage
    some (dropImageOrUri c (metaOut.setAssetId (data.val .assetId)))
  else none

/-- The next delivery runs. An image that was delivered is cleared. -/
def runTask (s : ItemState ω) (queueImage : List UInt8) : ItemState ω :=
  match s.tasks with
  | [] => s
  | t :: tasks =>
      match handleMetaDataChange t.controller t.data t.changedDataMask s.imageFile
        (s.buffers t.call) queueImage with
      | some metaOut =>
          { s with
            tasks
            buffers :=
              if metaOut.val .mediaImage = none then s.buffers
              else Function.update s.buffers t.call []
            metaEvents := s.metaEvents ++ [⟨t.controller, metaOut⟩] }
      | none => { s with tasks }

end delivery

/-! ## What a delivery says -/

section spec

variable {m data metaOut : AVMetaData} {c : Controller} {changedDataMask : MetaKey → Bool}
  {imageFile : Option (List UInt8)} {buffer queueImage : List UInt8} {k : MetaKey}

/-- Another media buffer leaves the marks. -/
@[simp] theorem withMediaBuffer_mask : (withMediaBuffer m buffer).mask = m.mask := by
  unfold withMediaBuffer
  split_ifs <;> rfl

/-- Another media buffer leaves the other values. -/
theorem withMediaBuffer_val (hk : k ≠ .mediaImage) :
    (withMediaBuffer m buffer).val k = m.val k := by
  unfold withMediaBuffer
  split_ifs
  · rfl
  · exact AVMetaData.setVal_val_of_ne _ _ hk

/-- Only an image that is there gets the buffer. -/
theorem withMediaBuffer_mediaImage : (withMediaBuffer m buffer).val .mediaImage =
    (m.val .mediaImage).map fun _ => buffer := by
  unfold withMediaBuffer
  split_ifs with himage
  · rw [himage]
    rfl
  · obtain ⟨old, hold⟩ := Option.ne_none_iff_exists'.mp himage
    rw [AVMetaData.setVal_val_self, hold]
    rfl

/-- Another queue buffer leaves the marks. -/
@[simp] theorem withQueueBuffer_mask : (withQueueBuffer m buffer).mask = m.mask := by
  unfold withQueueBuffer
  split_ifs <;> rfl

/-- Another queue buffer leaves the other values. -/
theorem withQueueBuffer_val (hk : k ≠ .avQueueImage) :
    (withQueueBuffer m buffer).val k = m.val k := by
  unfold withQueueBuffer
  split_ifs
  · rfl
  · exact AVMetaData.setVal_val_of_ne _ _ hk

/-- The keys whose values are sent. -/
def sentKeys (c : Controller) (data : AVMetaData) (changedDataMask : MetaKey → Bool) :
    MetaKey → Bool :=
  fun k => data.mask k && validMetaMask c changedDataMask k

/-- An image and a URI are both sent. -/
def ImageWithUri (data : AVMetaData) (sent : MetaKey → Bool) : Prop :=
  sent .mediaImage = true ∧ data.val .mediaImage ≠ none ∧
    sent .mediaImageUri = true ∧ data.val .mediaImageUri ≠ ""

instance (data : AVMetaData) (sent : MetaKey → Bool) : Decidable (ImageWithUri data sent) :=
  inferInstanceAs (Decidable (_ ∧ _ ∧ _ ∧ _))

/-- What a controller is given: `shown` is what the image holds once it was read. -/
structure DeliveredAs (c : Controller) (data : AVMetaData) (sent : MetaKey → Bool)
    (shown : List UInt8) (metaOut : AVMetaData) : Prop where
  mask : ∀ k, metaOut.mask k = (sent k || decide (k = .assetId))
  assetId : metaOut.val .assetId = data.val .assetId
  mediaImageUri : metaOut.val .mediaImageUri =
    if ImageWithUri data sent ∧ c.isFromSession = false then ""
    else if sent .mediaImageUri then data.val .mediaImageUri else ""
  val : ∀ k, k.type ≠ .image → k ≠ .assetId → k ≠ .mediaImageUri →
    metaOut.val k = if sent k = true then data.val k else k.initial
  mediaImage : metaOut.val .mediaImage =
    if sent .mediaImage then
      (data.val .mediaImage).map fun _ =>
        if ImageWithUri data sent ∧ c.isFromSession = true then [] else shown
    else none

/-- Something is delivered if something is sent. -/
theorem handleMetaDataChange_eq_none_iff :
    handleMetaDataChange c data changedDataMask imageFile buffer queueImage = none ↔
      ∀ k, sentKeys c data changedDataMask k = false := by
  unfold handleMetaDataChange
  dsimp only
  have hany : (data.copyToByMask (validMetaMask c changedDataMask) .init).2 =
      MetaKey.all.any (sentKeys c data changedDataMask) := rfl
  rw [hany]
  split_ifs with hsent
  · obtain ⟨k, -, hk⟩ := List.any_eq_true.mp hsent
    constructor
    · intro h
      cases h
    · intro h
      rw [h k] at hk
      cases hk
  · refine iff_of_true rfl fun k => ?_
    rw [Bool.eq_false_iff]
    exact fun hk => hsent (List.any_eq_true.mpr ⟨k, MetaKey.mem_all k, hk⟩)

/-- The object before an image or a URI is dropped. -/
structure AssembledAs (data : AVMetaData) (sent : MetaKey → Bool) (shown : List UInt8)
    (m : AVMetaData) : Prop where
  mask : ∀ k, m.mask k = (sent k || decide (k = .assetId))
  assetId : m.val .assetId = data.val .assetId
  val : ∀ k, k.type ≠ .image → k ≠ .assetId →
    m.val k = if sent k = true then data.val k else k.initial
  mediaImage : m.val .mediaImage =
    if sent .mediaImage then (data.val .mediaImage).map fun _ => shown else none

/-- The object assembled for a controller holds what is sent of the data. -/
theorem assembledAs_copied (data : AVMetaData) (sent : MetaKey → Bool)
    (shown queueImage : List UInt8) :
    AssembledAs data sent shown ((withQueueBuffer
      (withMediaBuffer (AVMetaData.init.cloneKeys data sent) shown) queueImage).setAssetId
        (data.val .assetId)) where
  mask k := by
    unfold AVMetaData.setAssetId
    by_cases hk : k = .assetId
    · subst hk
      rw [AVMetaData.set_mask_self, decide_eq_true rfl, Bool.or_true]
    · rw [AVMetaData.set_mask_of_ne _ _ hk, withQueueBuffer_mask, withMediaBuffer_mask,
        AVMetaData.cloneKeys_mask, decide_eq_false hk, Bool.or_false]
      rfl
  assetId := AVMetaData.set_val_self ..
  val k hk hasset := by
    unfold AVMetaData.setAssetId
    rw [AVMetaData.set_val_of_ne _ _ hasset,
      withQueueBuffer_val (by rintro rfl; exact hk rfl),
      withMediaBuffer_val (by rintro rfl; exact hk rfl), AVMetaData.cloneKeys_val]
    rfl
  mediaImage := by
    unfold AVMetaData.setAssetId
    rw [AVMetaData.set_val_of_ne _ _ (by decide), withQueueBuffer_val (by decide),
      withMediaBuffer_mediaImage, AVMetaData.cloneKeys_val]
    split_ifs <;> rfl

/-- An image and a URI are both there exactly if both were sent. -/
theorem AssembledAs.imageWithUri_iff {sent : MetaKey → Bool} {shown : List UInt8}
    (h : AssembledAs data sent shown m) :
    (m.val .mediaImage ≠ none ∧ m.val .mediaImageUri ≠ "") ↔ ImageWithUri data sent := by
  have huri := h.val .mediaImageUri (by decide) (by decide)
  unfold ImageWithUri
  rw [h.mediaImage, huri]
  cases himage : sent .mediaImage <;> cases hsent : sent .mediaImageUri <;>
    simp [MetaKey.initial, FieldType.empty]

section drop

variable {sent : MetaKey → Bool} {shown : List UInt8}

/-- Without an image or without a URI, nothing is dropped. -/
theorem AssembledAs.deliveredAs (h : AssembledAs data sent shown m)
    (hboth : ¬ ImageWithUri data sent) : DeliveredAs c data sent shown m where
  mask := h.mask
  assetId := h.assetId
  mediaImageUri := by
    rw [if_neg fun hdrop => hboth hdrop.1]
    exact h.val .mediaImageUri (by decide) (by decide)
  val k hk hasset _ := h.val k hk hasset
  mediaImage := by
    have hkeep : ¬ (ImageWithUri data sent ∧ c.isFromSession = true) := fun hdrop => hboth hdrop.1
    simp only [h.mediaImage, if_neg hkeep]

/-- A controller of the session's own process loses the image. -/
theorem AssembledAs.deliveredAs_own (h : AssembledAs data sent shown m)
    (hboth : ImageWithUri data sent) (hfrom : c.isFromSession = true) :
    DeliveredAs c data sent shown (withMediaBuffer m []) where
  mask k := by rw [withMediaBuffer_mask, h.mask]
  assetId := (withMediaBuffer_val (by decide)).trans h.assetId
  mediaImageUri := by
    rw [withMediaBuffer_val (by decide), hfrom, if_neg fun hdrop => by cases hdrop.2]
    exact h.val .mediaImageUri (by decide) (by decide)
  val k hk hasset _ := by
    rw [withMediaBuffer_val (by rintro rfl; exact hk rfl)]
    exact h.val k hk hasset
  mediaImage := by
    rw [withMediaBuffer_mediaImage, h.mediaImage, if_pos hboth.1, if_pos hboth.1,
      if_pos ⟨hboth, hfrom⟩, Option.map_map]
    rfl

/-- Any other controller loses the URI. -/
theorem AssembledAs.deliveredAs_other (h : AssembledAs data sent shown m)
    (hboth : ImageWithUri data sent) (hfrom : c.isFromSession = false) :
    DeliveredAs c data sent shown (m.setMediaImageUri "") where
  mask k := by
    unfold AVMetaData.setMediaImageUri
    by_cases hk : k = .mediaImageUri
    · subst hk
      rw [AVMetaData.set_mask_self, hboth.2.2.1, Bool.true_or]
    · rw [AVMetaData.set_mask_of_ne _ _ hk, h.mask]
  assetId := (AVMetaData.set_val_of_ne _ _ (by decide)).trans h.assetId
  mediaImageUri := by
    rw [if_pos ⟨hboth, hfrom⟩]
    exact AVMetaData.set_val_self ..
  val k hk hasset huri := by
    unfold AVMetaData.setMediaImageUri
    rw [AVMetaData.set_val_of_ne _ _ huri]
    exact h.val k hk hasset
  mediaImage := by
    unfold AVMetaData.setMediaImageUri
    rw [AVMetaData.set_val_of_ne _ _ (by decide), h.mediaImage, hfrom]
    simp only [Bool.false_eq_true, and_false, if_false]

end drop

/-- **What a delivery says.** -/
theorem deliveredAs_of_handleMetaDataChange
    (h : handleMetaDataChange c data changedDataMask imageFile buffer queueImage = some metaOut) :
    DeliveredAs c data (sentKeys c data changedDataMask) (readImageFromFile imageFile buffer)
      metaOut := by
  unfold handleMetaDataChange at h
  dsimp only at h
  split_ifs at h
  obtain rfl := Option.some.inj h
  have hassembled := assembledAs_copied data (sentKeys c data changedDataMask)
    (readImageFromFile imageFile buffer) queueImage
  have hcopied : (data.copyToByMask (validMetaMask c changedDataMask) .init).1 =
      AVMetaData.init.cloneKeys data (sentKeys c data changedDataMask) := rfl
  rw [← hcopied] at hassembled
  revert hassembled
  generalize (withQueueBuffer (withMediaBuffer
    (data.copyToByMask (validMetaMask c changedDataMask) .init).1
      (readImageFromFile imageFile buffer)) queueImage).setAssetId (data.val .assetId) = m
  generalize readImageFromFile imageFile buffer = shown
  generalize sentKeys c data changedDataMask = sent
  intro hassembled
  unfold dropImageOrUri
  by_cases hboth : ImageWithUri data sent
  · rw [if_pos (hassembled.imageWithUri_iff.mpr hboth)]
    cases hfrom : c.isFromSession with
    | true =>
        rw [if_pos rfl]
        exact hassembled.deliveredAs_own hboth hfrom
    | false =>
        rw [if_neg Bool.false_ne_true]
        exact hassembled.deliveredAs_other hboth hfrom
  · rw [if_neg (mt hassembled.imageWithUri_iff.mp hboth)]
    exact hassembled.deliveredAs hboth

end spec

/-! ## Playback -/

section playback

variable [DecidableEq ω] (s : ItemState ω) (state : AVPlaybackState ω)

/-- Source: avsession_item.cpp, AVSessionItem::GetControlItemsPlaybackFilter. -/
def getControlItemsPlaybackFilter (controllers : List Controller) : PlaybackKey → Bool :=
  fun k => controllers.any fun c => !c.playbackAll && c.playbackMask k

/-- The mask of the changes of a state. -/
def changedStateMask : PlaybackKey → Bool :=
  if PlaybackKey.all.any (getControlItemsPlaybackFilter s.controllers) then
    s.playbackState.getChangedStateMask (getControlItemsPlaybackFilter s.controllers) state
  else fun _ => false

/-- `validMask` of a playback delivery. -/
def validPlaybackMask (c : Controller) (changedStateMask : PlaybackKey → Bool) :
    PlaybackKey → Bool :=
  if c.playbackAll then c.playbackMask else fun k => changedStateMask k && c.playbackMask k

/-- Source: avcontroller_item.cpp, AVControllerItem::HandlePlaybackStateChange. -/
def handlePlaybackStateChange (c : Controller) (state : AVPlaybackState ω)
    (changedStateMask : PlaybackKey → Bool) : Option (AVPlaybackState ω) :=
  let copied := state.copyToByMask (validPlaybackMask c changedStateMask) .init
  if copied.2 then some copied.1 else none

/-- Source: avsession_item.cpp, AVSessionItem::SetAVPlaybackState. -/
def setAVPlaybackState : ItemState ω :=
  let copied := s.playbackState.copyFrom state
  if copied.2 = false then s
  else
    { s with
      playbackState := copied.1
      playbackEvents := s.playbackEvents ++ s.controllers.filterMap fun c =>
        (handlePlaybackStateChange c state (changedStateMask s state)).map (⟨c, ·⟩) }

end playback

/-! ## What a call does -/

section steps

variable (s : ItemState ω) (newData : AVMetaData) (queueImage : List UInt8)

/-- Reading the stored images for the comparison changes nothing else. -/
theorem comparedData_val {k : MetaKey} (hk : k.type ≠ .image) :
    (comparedData s newData queueImage).val k = s.metaData.val k := by
  have hqueue : (withQueueBuffer s.metaData queueImage).val k = s.metaData.val k :=
    withQueueBuffer_val (by rintro rfl; exact hk rfl)
  unfold comparedData readMediaAndAVQueueImg
  dsimp only
  split_ifs
  · rw [withMediaBuffer_val (by rintro rfl; exact hk rfl), hqueue]
  · exact hqueue
  · rfl

variable {s newData} in
/-- An update touches the stored object, the file and the image of the call. -/
theorem updateMetaData_frame (oldData : AVMetaData) :
    (updateMetaData s newData oldData).controllers = s.controllers ∧
      (updateMetaData s newData oldData).playbackState = s.playbackState ∧
      (updateMetaData s newData oldData).metaEvents = s.metaEvents ∧
      (updateMetaData s newData oldData).playbackEvents = s.playbackEvents := by
  unfold updateMetaData
  dsimp only
  split_ifs <;> exact ⟨rfl, rfl, rfl, rfl⟩

/-- Outside the images the session holds what CopyFrom gives. -/
theorem updateMetaData_val (oldData : AVMetaData) {k : MetaKey} (hk : k.type ≠ .image) :
    (updateMetaData s newData oldData).metaData.val k = (oldData.copyFrom newData).1.val k := by
  unfold updateMetaData
  dsimp only
  split
  case isTrue hfailed => exact (AVMetaData.copyFrom_val_of_false _ _ k hfailed).symm
  case isFalse =>
    split
    case isTrue => rfl
    case isFalse => exact AVMetaData.set_val_of_ne _ _ (by rintro rfl; exact hk rfl)

/-- SetAVMetaData leaves the controllers. -/
@[simp] theorem setAVMetaData_controllers :
    (setAVMetaData s newData queueImage).controllers = s.controllers :=
  (updateMetaData_frame _).1

/-- SetAVMetaData leaves the playback state. -/
@[simp] theorem setAVMetaData_playbackState :
    (setAVMetaData s newData queueImage).playbackState = s.playbackState :=
  (updateMetaData_frame _).2.1

/-- SetAVMetaData tells nothing before its task runs. -/
@[simp] theorem setAVMetaData_metaEvents :
    (setAVMetaData s newData queueImage).metaEvents = s.metaEvents :=
  (updateMetaData_frame _).2.2.1

/-- SetAVMetaData tells nothing of the playback state. -/
@[simp] theorem setAVMetaData_playbackEvents :
    (setAVMetaData s newData queueImage).playbackEvents = s.playbackEvents :=
  (updateMetaData_frame _).2.2.2

/-- The call is noted. -/
@[simp] theorem setAVMetaData_calls :
    (setAVMetaData s newData queueImage).calls = s.calls ++ [newData] := rfl

/-- One task for each controller is posted. -/
@[simp] theorem setAVMetaData_tasks : (setAVMetaData s newData queueImage).tasks =
    s.tasks ++ s.controllers.map fun c =>
      ⟨s.calls.length, newData, changedDataMask s newData queueImage, c⟩ := rfl

/-- What the session stores, images excepted: with another asset id the new object, otherwise the
members whose bits are set. -/
theorem setAVMetaData_val {k : MetaKey} (hk : k.type ≠ .image) :
    (setAVMetaData s newData queueImage).metaData.val k =
      if newData.val .assetId = "" then s.metaData.val k
      else if newData.val .assetId ≠ s.metaData.val .assetId ∨ newData.mask k = true then
        newData.val k
      else s.metaData.val k := by
  have hold := comparedData_val s newData queueImage hk
  have hasset := @comparedData_val _ s newData queueImage .assetId (by decide)
  show (updateMetaData _ newData (comparedData s newData queueImage)).metaData.val k = _
  rw [updateMetaData_val _ _ _ hk, AVMetaData.copyFrom_val, hold, hasset]

/-- With another asset id, the file takes the image of the call if it is writable. -/
theorem setAVMetaData_imageFile
    (hasset : newData.val .assetId = "" ∨
      newData.val .assetId ≠ s.metaData.val .assetId) :
    (setAVMetaData s newData queueImage).imageFile =
      if newData.val .assetId ≠ "" ∧ Writable (mediaBytes newData) then
        some (mediaBytes newData)
      else s.imageFile := by
  have hold := @comparedData_val _ s newData queueImage .assetId (by decide)
  show (updateMetaData _ newData (comparedData s newData queueImage)).imageFile = _
  generalize comparedData s newData queueImage = oldData at hold ⊢
  rw [← hold] at hasset
  unfold updateMetaData AVMetaData.copyFrom
  dsimp only
  by_cases hempty : newData.val .assetId = ""
  · rw [if_pos hempty, if_pos rfl, if_neg fun h => h.1 hempty]
  · rw [if_neg hempty, if_pos (hasset.resolve_left hempty), if_neg Bool.true_eq_false.mp]
    split
    case isTrue himage =>
      have hbytes : mediaBytes newData = [] := by
        unfold mediaBytes
        rw [himage]
        rfl
      exact (if_neg fun h => h.2.1 hbytes).symm
    case isFalse =>
      show writeImageToFile s.imageFile (mediaBytes newData) = _
      unfold writeImageToFile
      simp only [ne_eq, hempty, not_false_eq_true, true_and]

/-- A delivery leaves the session itself alone. -/
theorem runTask_frame : (runTask s queueImage).controllers = s.controllers ∧
    (runTask s queueImage).metaData = s.metaData ∧
    (runTask s queueImage).playbackState = s.playbackState ∧
    (runTask s queueImage).imageFile = s.imageFile ∧ (runTask s queueImage).calls = s.calls ∧
    (runTask s queueImage).playbackEvents = s.playbackEvents ∧
    (runTask s queueImage).tasks = s.tasks.tail := by
  unfold runTask
  cases htasks : s.tasks with
  | nil => exact ⟨rfl, rfl, rfl, rfl, rfl, rfl, htasks⟩
  | cons t tasks =>
      dsimp only
      split <;> exact ⟨rfl, rfl, rfl, rfl, rfl, rfl, rfl⟩

end steps

/-! ## Runs -/

/-- What can happen. -/
inductive Action (ω : Type)
  | setAVMetaData (newData : AVMetaData) (queueImage : List UInt8)
  | setAVPlaybackState (state : AVPlaybackState ω)
  | runTask (queueImage : List UInt8)

/-- One step. -/
def step [DecidableEq ω] (s : ItemState ω) : Action ω → ItemState ω
  | .setAVMetaData newData queueImage => setAVMetaData s newData queueImage
  | .setAVPlaybackState state => setAVPlaybackState s state
  | .runTask queueImage => runTask s queueImage

end AvSession.Meta
