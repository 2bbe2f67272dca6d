import AvSession.Lib.Run
import AvSession.Queue.Image

/-!
# The queue image that is read back

A session should read, for each playlist, the image that was stored last for its bundle, index and
playlist.

* `ImageState`, `ImageOp` — the sessions of a user, their store, and what was stored.
* `ReadsBack` — every session reads the image that was stored for its bundle, index and playlist.
* `CallOk`, `StoresOk` — the condition on a call: by the names of the files, the head of the array
  and the images that are stored.
* `Found` — what is read back for one playlist; `Found.own_iff`, `Found.other_iff` — what a call
  does to it.
* `readsBack_iff` — the runs along which every session reads its own image.
-/

namespace AvSession.Queue

open AvSession.Lib AvSession.Meta

/-! ## Runs -/

section runs

/-- A call that stores an image, or a read of the metadata of a session. -/
inductive ImageOp
  | setAVMetaData (c : MetaCall)
  | updateAVQueueInfo (session : SessionRef) (avQueueId : String) (image : Image)
      (writable : Writable image)
  | getMetaData (session : SessionRef)

/-- The metadata of the sessions, the store of their user, and the image that was stored last for
each bundle, index and playlist. -/
structure ImageState where
  metaData : SessionRef → AVMetaData
  store : QueueStore
  stored : QueueSession × String → Option Image

/-- The start. -/
def ImageState.init : ImageState := ⟨fun _ => .init, .init, fun _ => none⟩

variable (opens : String → Bool) (userId : ℤ) (sessions : SessionRef → QueueSession)

/-- The metadata of the session once it has stored the object of a call. -/
def updated (t : ImageState) (c : MetaCall) : AVMetaData :=
  updateMetaData userId (sessions c.session) c t.store.files (t.metaData c.session)

/-- The playlist that the session then has. -/
def playlist (t : ImageState) (c : MetaCall) : QueueSession × String :=
  (sessions c.session, (updated userId sessions t c).val .avQueueId)

/-- A call stores its image for that playlist: the object has an asset id, the playlist has a name
and an id, and the name of the file is valid. -/
def Stores (t : ImageState) (c : MetaCall) : Prop :=
  Shares c ∧ (updated userId sessions t c).val .avQueueName ≠ "" ∧
    (updated userId sessions t c).val .avQueueId ≠ "" ∧
    isValidFileName (queueFileName (sessions c.session).bundleName
      ((updated userId sessions t c).val .avQueueId)) = true

instance (t : ImageState) (c : MetaCall) : Decidable (Stores userId sessions t c) :=
  inferInstanceAs (Decidable (_ ∧ _ ∧ _ ∧ _))

/-- The playlist that a call stores an image for. -/
def ImageOp.stores (t : ImageState) : ImageOp → Option ((QueueSession × String) × Image)
  | setAVMetaData c =>
      if Stores userId sessions t c then some (playlist userId sessions t c, c.image) else none
  | updateAVQueueInfo session avQueueId image _ =>
      if isValidFileName (queueFileName (sessions session).bundleName avQueueId) then
        some ((sessions session, avQueueId), image)
      else none
  | getMetaData _ => none

/-- What a call does to the file at `path`. -/
def ImageOp.touches (t : ImageState) (path : String) : ImageOp → Option (Option Image)
  | setAVMetaData c =>
      setTouches opens userId (sessions c.session) c (t.metaData c.session) t.store path
  | updateAVQueueInfo session avQueueId image _ =>
      if isValidFileName (queueFileName (sessions session).bundleName avQueueId) then
        writeTouches opens image
          (queueFilePath userId (sessions session).bundleName avQueueId) path
      else none
  | getMetaData _ => none

/-- The images that are stored after a call. -/
def storedAfter (t : ImageState) (op : ImageOp) : QueueSession × String → Option Image :=
  match op.stores userId sessions t with
  | some (k, image) => Function.update t.stored k (some image)
  | none => t.stored

/-- The state after a call. -/
def ImageState.step (t : ImageState) (op : ImageOp) : ImageState :=
  let stored := storedAfter userId sessions t op
  match op with
  | .setAVMetaData c =>
      let result := setAVMetaData opens userId (sessions c.session) c (t.metaData c.session) t.store
      ⟨Function.update t.metaData c.session result.metaData, result.store, stored⟩
  | .updateAVQueueInfo session avQueueId image _ =>
      ⟨t.metaData, updateAVQueueInfo opens userId (sessions session) avQueueId image t.store,
        stored⟩
  | .getMetaData session =>
      ⟨Function.update t.metaData session
        (getMetaData userId t.store.files (sessions session) (t.metaData session)), t.store,
        stored⟩

/-- Every session reads, for every playlist, the image that was stored for its bundle, index and
playlist, and none if none was. -/
def ReadsBack (t : ImageState) : Prop :=
  ∀ session avQueueId,
    readMetaDataAVQueueImg userId t.store.files (sessions session) avQueueId (some []) =
      some ((t.stored (sessions session, avQueueId)).getD [])

/-! ### The condition -/

section condition

variable (t : ImageState) (c : MetaCall)

/-- The service makes a new record for the playlist: it is not the first one of the array. -/
def Inserts : Prop :=
  Saves c (updated userId sessions t c) ∧
    t.store.valuesArray.head?.bind AVQueueRecord.key ≠
      some (bundleKey (sessions c.session).bundleName (sessions c.session).appIndex,
        (updated userId sessions t c).val .avQueueId)

/-- The image that the service writes: the one that is stored for the playlist already, if there is
one. -/
def serviceImage : Option Image :=
  ((updated userId sessions t c).val .avQueueImage).map
    (t.stored (playlist userId sessions t c)).getD

/-- The image that the session writes: the one that was stored before, if a callback of the service
has read it. -/
def sessionImage : Image :=
  if c.notified ∧ Shares c then (t.stored (playlist userId sessions t c)).getD c.image else c.image

instance : Decidable (Inserts userId sessions t c) := inferInstanceAs (Decidable (_ ∧ _))

/-- The session writes the file at `path`. -/
def SessionWrites (path : String) : Prop :=
  WritesOwn (sessions c.session) c (updated userId sessions t c) ∧
    path = queueFilePath userId (sessions c.session).bundleName (c.metaIn.val .avQueueId) ∧
    opens path = true

/-- The service writes the file at `path`, the one that the session reads. No image is an empty
one. -/
def ServiceWrites (path : String) : Prop :=
  Inserts userId sessions t c ∧
    path = readPath userId (sessions c.session) ((updated userId sessions t c).val .avQueueId) ∧
    Writable ((serviceImage userId sessions t c).getD []) ∧ opens path = true

/-- The service deletes the file at `path`, with the last record of a full array. -/
def Evicts (path : String) : Prop :=
  Inserts userId sessions t c ∧
    (evicted (others
      (bundleKey (sessions c.session).bundleName (sessions c.session).appIndex,
        (updated userId sessions t c).val .avQueueId) t.store.valuesArray)).bind
      AVQueueRecord.imagePath = some path

instance (path : String) : Decidable (SessionWrites opens userId sessions t c path) :=
  inferInstanceAs (Decidable (_ ∧ _ ∧ _))

instance (path : String) : Decidable (ServiceWrites opens userId sessions t c path) :=
  inferInstanceAs (Decidable (_ ∧ _ ∧ _ ∧ _))

instance (path : String) : Decidable (Evicts userId sessions t c path) :=
  inferInstanceAs (Decidable (_ ∧ _))

/-- The session reads the image that a call has stored: the same image was stored before; or the
service inserts the playlist, for which nothing was stored; or the session writes under the name
that it reads, and no callback has brought an older image. -/
def OwnOk : Prop :=
  let x := sessions c.session
  let metaData := updated userId sessions t c
  let stored := t.stored (playlist userId sessions t c)
  stored = some c.image ∨
    isValidFileName (avQueueFileName x (metaData.val .avQueueId)) = true ∧
      opens (readPath userId x (metaData.val .avQueueId)) = true ∧
      if Saves c metaData then stored = none ∧ Inserts userId sessions t c
      else
        queueFileName x.bundleName (c.metaIn.val .avQueueId) =
            avQueueFileName x (metaData.val .avQueueId) ∧
          (c.notified = true → stored = none)

/-- Another playlist keeps its image: what the session writes to its file is stored for it too, what
the service writes is if anything is, and a file is deleted only if nothing is stored. -/
def OtherOk (k : QueueSession × String) : Prop :=
  let path := readPath userId k.1 k.2
  (SessionWrites opens userId sessions t c path →
      t.stored k = some (sessionImage userId sessions t c)) ∧
    (ServiceWrites opens userId sessions t c path → t.stored k ≠ none) ∧
    (Evicts userId sessions t c path → ¬ SessionWrites opens userId sessions t c path →
      ¬ ServiceWrites opens userId sessions t c path → t.stored k = none)

/-- The condition on a call of `SetAVMetaData`. -/
structure CallOk : Prop where
  own : Stores userId sessions t c → OwnOk opens userId sessions t c
  other : ∀ session avQueueId,
    isValidFileName (avQueueFileName (sessions session) avQueueId) = true →
      ¬ (Stores userId sessions t c ∧
          (sessions session, avQueueId) = playlist userId sessions t c) →
        OtherOk opens userId sessions t c (sessions session, avQueueId)

/-- The condition on a call. `UpdateAVQueueInfo` has to be about the plain app, and to write no file
that is read for another playlist, unless the same image is stored. -/
def StoresOk : ImageOp → Prop
  | .setAVMetaData c => CallOk opens userId sessions t c
  | .updateAVQueueInfo session avQueueId image _ =>
      let x := sessions session
      isValidFileName (queueFileName x.bundleName avQueueId) = true →
        (t.stored (x, avQueueId) = some image ∨
          x.appIndex = 0 ∧ opens (readPath userId x avQueueId) = true) ∧
        ∀ session' avQueueId',
          isValidFileName (avQueueFileName (sessions session') avQueueId') = true →
            (sessions session', avQueueId') ≠ (x, avQueueId) →
              let path := readPath userId (sessions session') avQueueId'
              path = queueFilePath userId x.bundleName avQueueId → opens path = true →
                t.stored (sessions session', avQueueId') = some image
  | .getMetaData _ => True

end condition

variable {opens userId sessions} {t : ImageState}

/-- The files after a call. -/
theorem step_files_image (op : ImageOp) (path : String) :
    (t.step opens userId sessions op).store.files path =
      (op.touches opens userId sessions t path).getD (t.store.files path) := by
  cases op with
  | setAVMetaData c => exact setAVMetaData_files _ _ _
  | updateAVQueueInfo session avQueueId image writable =>
      show (updateAVQueueInfo opens userId (sessions session) avQueueId image t.store).files path =
        _
      unfold updateAVQueueInfo ImageOp.touches
      dsimp only
      split_ifs
      · exact writeImageToFile_eq _ _ _ _
      · rfl
  | getMetaData session => rfl

/-- What holds of the files and of the images that are stored. -/
structure ImageInv (opens : String → Bool) (t : ImageState) : Prop where
  files : Holds opens t.store.files
  stored : ∀ k image, t.stored k = some image → image ≠ []

/-- Two buffers that are not empty, if they are there. -/
theorem getD_nil_inj {a b : Option Image} (ha : ∀ image, a = some image → image ≠ [])
    (hb : ∀ image, b = some image → image ≠ []) : a.getD [] = b.getD [] ↔ a = b := by
  cases a with
  | none =>
      cases b with
      | none => exact iff_of_true rfl rfl
      | some image => exact iff_of_false (Ne.symm (hb image rfl)) (by simp)
  | some image =>
      cases b with
      | none => exact iff_of_false (ha image rfl) (by simp)
      | some image' => simp

/-- The file that is read for a playlist holds what is stored for it. -/
def Found (userId : ℤ) (t : ImageState) (k : QueueSession × String) : Prop :=
  t.stored k =
    if isValidFileName (avQueueFileName k.1 k.2) then t.store.files (readPath userId k.1 k.2)
    else none

/-- Every file that a session reads holds what is stored. -/
theorem readsBack_iff_found (h : ImageInv opens t) :
    ReadsBack userId sessions t ↔
      ∀ session avQueueId, Found userId t (sessions session, avQueueId) := by
  refine forall₂_congr fun session avQueueId => ?_
  unfold readMetaDataAVQueueImg readImageFromFile Found
  have hstored : ∀ image, t.stored (sessions session, avQueueId) = some image → image ≠ [] :=
    fun image => h.stored _ image
  split_ifs
  · rw [Option.map_some, Option.some.injEq, eq_comm]
    exact getD_nil_inj hstored fun image hfile => (h.files _ image hfile).1.1
  · rw [Option.some.injEq, eq_comm]
    exact getD_nil_inj (b := none) hstored (by simp)

/-- What is stored after a step, by the step. -/
theorem step_stored (op : ImageOp) :
    (t.step opens userId sessions op).stored = storedAfter userId sessions t op := by
  cases op <;> rfl

/-- A call stores its image for its playlist. -/
theorem storedAfter_of_stores {op : ImageOp} {k : QueueSession × String} {image : Image}
    (h : op.stores userId sessions t = some (k, image)) :
    storedAfter userId sessions t op k = some image := by
  unfold storedAfter
  rw [h]
  exact Function.update_self _ _ _

/-- It leaves what is stored for other playlists. -/
theorem storedAfter_of_ne {op : ImageOp} {k : QueueSession × String}
    (h : ∀ image, op.stores userId sessions t ≠ some (k, image)) :
    storedAfter userId sessions t op k = t.stored k := by
  unfold storedAfter
  cases hstores : op.stores userId sessions t with
  | none => rfl
  | some e =>
      refine Function.update_of_ne (fun hkey => h e.2 ?_) _ _
      rw [hstores, hkey]

/-- What is found after a call. -/
theorem found_step (op : ImageOp) (k : QueueSession × String) :
    Found userId (t.step opens userId sessions op) k ↔
      storedAfter userId sessions t op k =
        if isValidFileName (avQueueFileName k.1 k.2) then
          (op.touches opens userId sessions t (readPath userId k.1 k.2)).getD
            (t.store.files (readPath userId k.1 k.2))
        else none := by
  unfold Found
  rw [step_stored, step_files_image]

/-- What is stored is an image that can be written. -/
theorem writable_of_stores {op : ImageOp} {k : QueueSession × String} {image : Image}
    (hstores : op.stores userId sessions t = some (k, image)) : Writable image := by
  cases op with
  | setAVMetaData c =>
      unfold ImageOp.stores at hstores
      dsimp only at hstores
      split_ifs at hstores
      cases hstores
      exact c.writable
  | updateAVQueueInfo session avQueueId image' writable =>
      unfold ImageOp.stores at hstores
      dsimp only at hstores
      split_ifs at hstores
      cases hstores
      exact writable
  | getMetaData session => cases hstores

/-- Every step keeps the files and what was stored in step. -/
theorem ImageInv.step (h : ImageInv opens t) (op : ImageOp) :
    ImageInv opens (t.step opens userId sessions op) := by
  constructor
  · cases op with
    | setAVMetaData c => exact holds_setAVMetaData h.files _
    | updateAVQueueInfo session avQueueId image writable =>
        show Holds opens (updateAVQueueInfo opens userId (sessions session) avQueueId image
          t.store).files
        unfold updateAVQueueInfo
        split_ifs
        · exact h.files.writeImageToFile (some image) _
        · exact h.files
    | getMetaData session => exact h.files
  · intro k image hk
    rw [step_stored] at hk
    unfold storedAfter at hk
    cases hstores : op.stores userId sessions t with
    | none =>
        rw [hstores] at hk
        exact h.stored k image hk
    | some e =>
        rw [hstores] at hk
        dsimp only at hk
        by_cases hkey : k = e.1
        · subst hkey
          rw [Function.update_self, Option.some.injEq] at hk
          exact hk ▸ (writable_of_stores hstores).1
        · rw [Function.update_of_ne hkey] at hk
          exact h.stored k image hk

/-! ### What a call does to the files -/

section found

variable {c : MetaCall} {k : QueueSession × String}

/-- A valid name that is read holds what is stored. -/
theorem Found.files (h : Found userId t k)
    (hvalid : isValidFileName (avQueueFileName k.1 k.2) = true) :
    t.store.files (readPath userId k.1 k.2) = t.stored k := by
  unfold Found at h
  rw [h, if_pos hvalid]

/-- What is stored is read into a pixel map that is there. -/
theorem Found.read (h : Found userId t k) (image : Option Image) :
    readMetaDataAVQueueImg userId t.store.files k.1 k.2 image = image.map (t.stored k).getD := by
  unfold readMetaDataAVQueueImg readImageFromFile
  unfold Found at h
  split_ifs at h ⊢ with hvalid
  · rw [h]
  · rw [h]
    cases image <;> rfl

/-- What is stored could be written. -/
theorem Found.writable (h : Found userId t k) (hinv : ImageInv opens t) {image : Image}
    (hstored : t.stored k = some image) :
    Writable image ∧ isValidFileName (avQueueFileName k.1 k.2) = true ∧
      opens (readPath userId k.1 k.2) = true := by
  unfold Found at h
  rw [hstored] at h
  split_ifs at h with hvalid
  · obtain ⟨hwritable, hopens⟩ := hinv.files _ _ h.symm
    exact ⟨hwritable, hvalid, hopens⟩

/-- The names of two files at one path are the same. -/
theorem avQueueFileName_eq_of_path {k' : QueueSession × String}
    (hpath : readPath userId k.1 k.2 = readPath userId k'.1 k'.2) :
    avQueueFileName k.1 k.2 = avQueueFileName k'.1 k'.2 :=
  String.append_right_inj _ |>.mp hpath

/-- An image that can be written is there. -/
theorem some_getD_of_writable {image : Option Image} (h : Writable (image.getD [])) :
    some (image.getD []) = image := by
  cases image with
  | none => exact absurd rfl h.1
  | some buffer => rfl

/-- The image that the service writes. -/
theorem Found.read_image (h : Found userId t (playlist userId sessions t c)) :
    (getMetaData userId t.store.files (sessions c.session)
      (updated userId sessions t c)).val .avQueueImage = serviceImage userId sessions t c := by
  rw [getMetaData_image]
  exact h.read _

/-- If the session holds the pixel map of the call, it has one. -/
theorem updated_avQueueImage (hshares : Shares c) :
    (updated userId sessions t c).val .avQueueImage = some c.image := by
  have himage : c.metaData.val .avQueueImage = some c.image := AVMetaData.set_val_self _ _
  have hmask : c.metaData.mask .avQueueImage = true := AVMetaData.set_mask_self _ _
  have hasset : c.metaData.val .assetId = c.metaIn.val .assetId :=
    AVMetaData.set_val_of_ne _ _ (by decide)
  unfold updated updateMetaData
  rw [AVMetaData.copyFrom_val, hasset, if_neg hshares, if_pos (Or.inr hmask), himage]

/-- A notice reads the image of the session's own playlist. -/
theorem Found.notifiedImage_eq (h : Found userId t (playlist userId sessions t c)) :
    notifiedImage userId (sessions c.session) c t.store.files (updated userId sessions t c) =
      sessionImage userId sessions t c := by
  unfold notifiedImage sessionImage
  refine if_ctx_congr Iff.rfl (fun hread => ?_) fun _ => rfl
  rw [h.read_image, serviceImage, updated_avQueueImage hread.2]
  rfl

/-- The image found can be written. -/
theorem Found.writable_sessionImage (h : Found userId t (playlist userId sessions t c))
    (hinv : ImageInv opens t) : Writable (sessionImage userId sessions t c) := by
  unfold sessionImage
  split_ifs
  · cases hstored : t.stored (playlist userId sessions t c) with
    | none => exact c.writable
    | some image => exact (h.writable hinv hstored).1
  · exact c.writable

/-- What the session does to the file at `path`. -/
theorem Found.sessionTouches (h : Found userId t (playlist userId sessions t c))
    (hinv : ImageInv opens t) (path : String) :
    (if WritesOwn (sessions c.session) c (updated userId sessions t c) then
      writeTouches opens (sessionImage userId sessions t c)
        (queueFilePath userId (sessions c.session).bundleName (c.metaIn.val .avQueueId)) path
      else none) =
      if SessionWrites opens userId sessions t c path then
        some (some (sessionImage userId sessions t c))
      else none := by
  unfold writeTouches SessionWrites
  rw [← ite_and]
  exact if_congr (and_congr_right fun _ => and_congr_right fun _ =>
    and_iff_right (h.writable_sessionImage hinv)) rfl rfl

/-- What the service does to it. -/
theorem Found.serviceTouches (h : Found userId t (playlist userId sessions t c)) (path : String) :
    (if Saves c (updated userId sessions t c) then
      saveTouches opens userId
        (bundleKey (sessions c.session).bundleName (sessions c.session).appIndex)
        (getMetaData userId t.store.files (sessions c.session) (updated userId sessions t c))
        t.store path
      else none) =
      if ServiceWrites opens userId sessions t c path then
        some (serviceImage userId sessions t c)
      else if Evicts userId sessions t c path then some none
      else none := by
  have hpath : queueFilePath userId
      (bundleKey (sessions c.session).bundleName (sessions c.session).appIndex)
      ((updated userId sessions t c).val .avQueueId) =
      readPath userId (sessions c.session) ((updated userId sessions t c).val .avQueueId) := by
    unfold queueFilePath readPath
    rw [avQueueFileName_eq]
  unfold saveTouches writeTouches
  rw [h.read_image, getMetaData_val (by decide), hpath]
  by_cases hinserts : Inserts userId sessions t c
  · rw [if_pos hinserts.1, if_neg hinserts.2]
    by_cases hwrites : ServiceWrites opens userId sessions t c path
    · have himage : some ((serviceImage userId sessions t c).getD []) =
          serviceImage userId sessions t c := some_getD_of_writable hwrites.2.2.1
      rw [if_pos hwrites, if_pos hwrites.2, himage]
      rfl
    · rw [if_neg hwrites, if_neg fun h => hwrites ⟨hinserts, h⟩, Option.none_or]
      exact if_congr (and_iff_right hinserts).symm rfl rfl
  · rw [if_neg (c := ServiceWrites opens userId sessions t c path) fun h => hinserts h.1,
      if_neg (c := Evicts userId sessions t c path) fun h => hinserts h.1]
    by_cases hsaves : Saves c (updated userId sessions t c)
    · rw [if_pos hsaves, if_pos]
      exact not_not.mp fun hfirst => hinserts ⟨hsaves, hfirst⟩
    · rw [if_neg hsaves]

/-- What a call of `SetAVMetaData` does to the file at `path`. -/
theorem Found.touches (h : Found userId t (playlist userId sessions t c)) (hinv : ImageInv opens t)
    (path : String) :
    (ImageOp.setAVMetaData c).touches opens userId sessions t path =
      if SessionWrites opens userId sessions t c path then
        some (some (sessionImage userId sessions t c))
      else if ServiceWrites opens userId sessions t c path then
        some (serviceImage userId sessions t c)
      else if Evicts userId sessions t c path then some none
      else none := by
  show setTouches opens userId (sessions c.session) c (t.metaData c.session) t.store path = _
  unfold setTouches
  change Option.or (ite (WritesOwn _ c (updated userId sessions t c))
    (writeTouches opens (notifiedImage userId _ c t.store.files (updated userId sessions t c))
      _ path) none)
    (ite (Saves c (updated userId sessions t c)) (saveTouches opens userId _
      (getMetaData userId t.store.files _ (updated userId sessions t c)) _ path) none) = _
  rw [h.notifiedImage_eq, h.sessionTouches hinv, h.serviceTouches]
  split_ifs <;> rfl

/-- The service reads the image of the call into the pixel map first. -/
theorem serviceImage_of_shares (hshares : Shares c) :
    serviceImage userId sessions t c =
      some ((t.stored (playlist userId sessions t c)).getD c.image) := by
  unfold serviceImage
  rw [updated_avQueueImage hshares]
  rfl

/-- The service saves the playlist: the image is found if it was stored before, or if the service
writes it to a new file. -/
theorem Found.own_iff_of_saves (h : Found userId t (playlist userId sessions t c))
    (hinv : ImageInv opens t) (hshares : Shares c) (hsaves : Saves c (updated userId sessions t c))
    (hvalid : isValidFileName (avQueueFileName (playlist userId sessions t c).1
      (playlist userId sessions t c).2) = true) :
    some c.image = ((ImageOp.setAVMetaData c).touches opens userId sessions t
        (readPath userId (playlist userId sessions t c).1 (playlist userId sessions t c).2)).getD
        (t.stored (playlist userId sessions t c)) ↔
      OwnOk opens userId sessions t c := by
  have hnot : ¬ SessionWrites opens userId sessions t c
      (readPath userId (playlist userId sessions t c).1 (playlist userId sessions t c).2) :=
    fun hwrites => hwrites.1.1 ⟨hsaves, hshares⟩
  have himage : serviceImage userId sessions t c =
      some ((t.stored (playlist userId sessions t c)).getD c.image) :=
    serviceImage_of_shares hshares
  unfold OwnOk
  dsimp only
  rw [h.touches hinv, if_neg hnot, if_pos hsaves]
  cases hstored : t.stored (playlist userId sessions t c) with
  | some image =>
      rw [hstored, Option.getD_some] at himage
      obtain ⟨hwritable, -, hopens⟩ := h.writable hinv hstored
      have hfinal : (if ServiceWrites opens userId sessions t c
            (readPath userId (playlist userId sessions t c).1 (playlist userId sessions t c).2) then
            some (serviceImage userId sessions t c)
          else if Evicts userId sessions t c
            (readPath userId (playlist userId sessions t c).1 (playlist userId sessions t c).2) then
            some none
          else none).getD (some image) = some image := by
        by_cases hinserts : Inserts userId sessions t c
        · have hwrites : ServiceWrites opens userId sessions t c (readPath userId
              (playlist userId sessions t c).1 (playlist userId sessions t c).2) := by
            refine ⟨hinserts, rfl, ?_, hopens⟩
            rw [himage]
            exact hwritable
          rw [if_pos hwrites, himage]
          rfl
        · rw [if_neg fun hwrites => hinserts hwrites.1, if_neg fun hevicts => hinserts hevicts.1]
          rfl
      rw [hfinal, eq_comm]
      refine (or_iff_left ?_).symm
      exact fun hnone => nomatch hnone.2.2.1
  | none =>
      rw [hstored, Option.getD_none] at himage
      have hwrites : ServiceWrites opens userId sessions t c (readPath userId
          (playlist userId sessions t c).1 (playlist userId sessions t c).2) ↔
          opens (readPath userId (playlist userId sessions t c).1
            (playlist userId sessions t c).2) = true ∧ Inserts userId sessions t c := by
        unfold ServiceWrites
        rw [himage]
        exact ⟨fun hw => ⟨hw.2.2.2, hw.1⟩, fun hw => ⟨hw.2, rfl, c.writable, hw.1⟩⟩
      rw [or_iff_right (a := none = some c.image) nofun, and_iff_right (show isValidFileName
        (avQueueFileName (sessions c.session) ((updated userId sessions t c).val .avQueueId)) = true
        from hvalid), and_iff_right (a := none = none) rfl]
      by_cases hboth : ServiceWrites opens userId sessions t c (readPath userId
          (playlist userId sessions t c).1 (playlist userId sessions t c).2)
      · rw [if_pos hboth, himage]
        exact iff_of_true rfl (hwrites.mp hboth)
      · rw [if_neg hboth]
        refine iff_of_false ?_ fun h => hboth (hwrites.mpr h)
        split_ifs <;> exact nofun

/-- The service does not save the playlist: the image is found if it was stored before, or if the
session writes it to the file that it reads. -/
theorem Found.own_iff_of_not_saves (h : Found userId t (playlist userId sessions t c))
    (hinv : ImageInv opens t) (hstores : Stores userId sessions t c)
    (hsaves : ¬ Saves c (updated userId sessions t c))
    (hvalid : isValidFileName (avQueueFileName (playlist userId sessions t c).1
      (playlist userId sessions t c).2) = true) :
    some c.image = ((ImageOp.setAVMetaData c).touches opens userId sessions t
        (readPath userId (playlist userId sessions t c).1 (playlist userId sessions t c).2)).getD
        (t.stored (playlist userId sessions t c)) ↔
      OwnOk opens userId sessions t c := by
  obtain ⟨hshares, hname, hid, -⟩ := hstores
  have hservice : ∀ path, ¬ ServiceWrites opens userId sessions t c path ∧
      ¬ Evicts userId sessions t c path :=
    fun path => ⟨fun hwrites => hsaves hwrites.1.1, fun hevicts => hsaves hevicts.1.1⟩
  have hwrites : SessionWrites opens userId sessions t c (readPath userId
      (playlist userId sessions t c).1 (playlist userId sessions t c).2) ↔
      opens (readPath userId (sessions c.session)
          ((updated userId sessions t c).val .avQueueId)) = true ∧
        queueFileName (sessions c.session).bundleName (c.metaIn.val .avQueueId) =
          avQueueFileName (sessions c.session) ((updated userId sessions t c).val .avQueueId) := by
    constructor
    · rintro ⟨-, hpath, hopens⟩
      exact ⟨hopens, ((String.append_right_inj _).mp hpath).symm⟩
    · rintro ⟨hopens, hsame⟩
      refine ⟨⟨fun hboth => hsaves hboth.1, hname, hid, ?_⟩, ?_, hopens⟩
      · rw [hsame]
        exact hvalid
      · exact congrArg (getFixedPathName userId ++ ·) hsame.symm
  unfold OwnOk
  dsimp only
  rw [h.touches hinv, if_neg (hservice _).1, if_neg (hservice _).2, if_neg hsaves, and_iff_right
    (show isValidFileName (avQueueFileName (sessions c.session)
      ((updated userId sessions t c).val .avQueueId)) = true from hvalid), ← and_assoc]
  change _ ↔ _ ∨ (_ ∧ _) ∧ _
  by_cases hboth : SessionWrites opens userId sessions t c (readPath userId
      (playlist userId sessions t c).1 (playlist userId sessions t c).2)
  · rw [if_pos hboth, and_iff_right (hwrites.mp hboth)]
    unfold sessionImage
    cases hstored : t.stored (playlist userId sessions t c) with
    | some image =>
        by_cases hnotified : c.notified = true
        · simp [hnotified, hshares, eq_comm]
        · simp [hnotified]
    | none => simp
  · rw [if_neg hboth]
    refine eq_comm.trans (or_iff_left ?_).symm
    exact fun hcond => hboth (hwrites.mpr hcond.1)

/-- The session reads what a call stores for its playlist exactly under the first part of the
condition. -/
theorem Found.own_iff (h : Found userId t (playlist userId sessions t c)) (hinv : ImageInv opens t)
    (hstores : Stores userId sessions t c) :
    Found userId (t.step opens userId sessions (.setAVMetaData c)) (playlist userId sessions t c) ↔
      OwnOk opens userId sessions t c := by
  have hafter : storedAfter userId sessions t (.setAVMetaData c) (playlist userId sessions t c) =
      some c.image := storedAfter_of_stores (if_pos hstores)
  rw [found_step, hafter]
  by_cases hvalid : isValidFileName (avQueueFileName (playlist userId sessions t c).1
      (playlist userId sessions t c).2) = true
  · rw [if_pos hvalid, h.files hvalid]
    by_cases hsaves : Saves c (updated userId sessions t c)
    · exact h.own_iff_of_saves hinv hstores.1 hsaves hvalid
    · exact h.own_iff_of_not_saves hinv hstores hsaves hvalid
  · rw [if_neg hvalid]
    refine iff_of_false nofun ?_
    rintro (hstored | hcond)
    · exact hvalid (h.writable hinv hstored).2.1
    · exact hvalid hcond.1

/-- A call of `SetAVMetaData` stores for no other playlist. -/
theorem stores_ne_of_other
    (hother : ¬ (Stores userId sessions t c ∧ k = playlist userId sessions t c)) (image : Image) :
    (ImageOp.setAVMetaData c).stores userId sessions t ≠ some (k, image) := by
  intro hstores
  unfold ImageOp.stores at hstores
  dsimp only at hstores
  split_ifs at hstores with hstores'
  exact hother ⟨hstores', (congrArg Prod.fst (Option.some.inj hstores)).symm⟩

/-- Under an invalid name nothing is found, before and after. -/
theorem Found.step_of_invalid (h : Found userId t k) {op : ImageOp}
    (hinvalid : ¬ isValidFileName (avQueueFileName k.1 k.2) = true)
    (hother : ∀ image, op.stores userId sessions t ≠ some (k, image)) :
    Found userId (t.step opens userId sessions op) k := by
  unfold Found at h
  rw [if_neg hinvalid] at h
  rw [found_step, if_neg hinvalid, storedAfter_of_ne hother, h]

/-- Another playlist keeps its image exactly under the second part. -/
theorem Found.other_iff (h : Found userId t k)
    (hown : Found userId t (playlist userId sessions t c)) (hinv : ImageInv opens t)
    (hvalid : isValidFileName (avQueueFileName k.1 k.2) = true)
    (hother : ¬ (Stores userId sessions t c ∧ k = playlist userId sessions t c)) :
    Found userId (t.step opens userId sessions (.setAVMetaData c)) k ↔
      OtherOk opens userId sessions t c k := by
  rw [found_step, storedAfter_of_ne (stores_ne_of_other hother), if_pos hvalid, h.files hvalid,
    hown.touches hinv]
  unfold OtherOk
  generalize hpath : readPath userId k.1 k.2 = path
  dsimp only
  by_cases hsession : SessionWrites opens userId sessions t c path
  · rw [if_pos hsession]
    refine ⟨fun hstored => ⟨fun _ => hstored, fun _ hnone => ?_,
      fun _ hnot => absurd hsession hnot⟩, fun hcond => hcond.1 hsession⟩
    exact nomatch hnone.symm.trans hstored
  · rw [if_neg hsession]
    by_cases hservice : ServiceWrites opens userId sessions t c path
    · rw [if_pos hservice]
      have hsame : t.stored k = t.stored (playlist userId sessions t c) := by
        have hread : readPath userId k.1 k.2 = readPath userId (playlist userId sessions t c).1
            (playlist userId sessions t c).2 := hpath.trans hservice.2.1
        have hname := avQueueFileName_eq_of_path hread
        rw [← h.files hvalid, hread, hown.files (hname ▸ hvalid)]
      have himage := some_getD_of_writable hservice.2.2.1
      cases hbuffer : (updated userId sessions t c).val .avQueueImage with
      | none =>
          unfold serviceImage at himage
          rw [hbuffer] at himage
          exact nomatch himage
      | some buffer =>
          unfold serviceImage
          rw [hbuffer, ← hsame]
          cases t.stored k <;> simp [hsession, hservice]
    · rw [if_neg hservice]
      by_cases hevicts : Evicts userId sessions t c path
      · rw [if_pos hevicts]
        simp [hsession, hservice, hevicts]
      · rw [if_neg hevicts]
        simp [hsession, hservice, hevicts]

end found

/-- A call of `SetAVMetaData` keeps what is read back exactly under the condition. -/
theorem readsBack_setAVMetaData_iff (hinv : ImageInv opens t) (h : ReadsBack userId sessions t)
    (c : MetaCall) :
    ReadsBack userId sessions (t.step opens userId sessions (.setAVMetaData c)) ↔
      CallOk opens userId sessions t c := by
  rw [readsBack_iff_found hinv] at h
  rw [readsBack_iff_found (hinv.step _)]
  have hown : Found userId t (playlist userId sessions t c) := h c.session _
  constructor
  · intro hafter
    exact ⟨fun hstores => (hown.own_iff hinv hstores).mp (hafter c.session _),
      fun session avQueueId hvalid hother =>
        ((h session avQueueId).other_iff hown hinv hvalid hother).mp (hafter session avQueueId)⟩
  · rintro ⟨hcall, hothers⟩ session avQueueId
    by_cases hother : Stores userId sessions t c ∧
        (sessions session, avQueueId) = playlist userId sessions t c
    · rw [hother.2]
      exact (hown.own_iff hinv hother.1).mpr (hcall hother.1)
    · by_cases hvalid : isValidFileName (avQueueFileName (sessions session) avQueueId) = true
      · exact ((h session avQueueId).other_iff hown hinv hvalid hother).mpr
          (hothers session avQueueId hvalid hother)
      · exact (h session avQueueId).step_of_invalid hvalid (stores_ne_of_other hother)

/-- The plain name is the one that is read exactly if there is no index. -/
theorem queueFileName_eq_iff {x : QueueSession} (avQueueId : String) :
    queueFileName x.bundleName avQueueId = avQueueFileName x avQueueId ↔ x.appIndex = 0 := by
  unfold avQueueFileName queueFileName
  by_cases hindex : x.appIndex = 0
  · rw [if_neg (not_not.mpr hindex)]
    exact iff_of_true rfl hindex
  · rw [if_pos hindex]
    refine iff_of_false (fun hsame => ?_) hindex
    have hlength := congrArg String.length hsame
    simp only [String.length_append] at hlength
    have hbar : "_".length = 1 := rfl
    omega

section updateAVQueueInfo

variable {session : SessionRef} {avQueueId : String} {image : Image} {writable : Writable image}
  {k : QueueSession × String}

/-- The session reads what `UpdateAVQueueInfo` stores exactly if it was stored before, or for the
plain app. -/
theorem Found.own_iff_of_update (h : Found userId t (sessions session, avQueueId))
    (hinv : ImageInv opens t)
    (hname : isValidFileName (queueFileName (sessions session).bundleName avQueueId) = true) :
    Found userId
        (t.step opens userId sessions (.updateAVQueueInfo session avQueueId image writable))
        (sessions session, avQueueId) ↔
      t.stored (sessions session, avQueueId) = some image ∨ (sessions session).appIndex = 0 ∧
        opens (readPath userId (sessions session) avQueueId) = true := by
  have htouches : (ImageOp.updateAVQueueInfo session avQueueId image writable).touches opens userId
      sessions t (readPath userId (sessions session) avQueueId) =
      if (sessions session).appIndex = 0 ∧
          opens (readPath userId (sessions session) avQueueId) = true then some (some image)
      else none := by
    have hpath : readPath userId (sessions session) avQueueId =
        queueFilePath userId (sessions session).bundleName avQueueId ↔
        (sessions session).appIndex = 0 := by
      rw [← queueFileName_eq_iff avQueueId, eq_comm]
      exact String.append_right_inj _
    unfold ImageOp.touches writeTouches
    dsimp only
    rw [if_pos hname]
    exact if_congr (and_congr hpath (and_iff_right writable)) rfl rfl
  have hstores : (ImageOp.updateAVQueueInfo session avQueueId image writable).stores userId sessions
      t = some ((sessions session, avQueueId), image) := if_pos hname
  rw [found_step, storedAfter_of_stores hstores]
  dsimp only
  rw [htouches]
  by_cases hvalid : isValidFileName (avQueueFileName (sessions session) avQueueId) = true
  · rw [if_pos hvalid, h.files hvalid]
    by_cases hplain : (sessions session).appIndex = 0 ∧
        opens (readPath userId (sessions session) avQueueId) = true
    · rw [if_pos hplain]
      exact iff_of_true rfl (Or.inr hplain)
    · rw [if_neg hplain]
      exact eq_comm.trans (or_iff_left hplain).symm
  · rw [if_neg hvalid]
    refine iff_of_false nofun ?_
    rintro (hstored | hplain)
    · exact hvalid (h.writable hinv hstored).2.1
    · exact hvalid ((queueFileName_eq_iff _).mpr hplain.1 ▸ hname)

/-- Another playlist keeps its image exactly if its file is not written, or with the image that it
has. -/
theorem Found.other_iff_of_update (h : Found userId t k)
    (hname : isValidFileName (queueFileName (sessions session).bundleName avQueueId) = true)
    (hvalid : isValidFileName (avQueueFileName k.1 k.2) = true)
    (hother : k ≠ (sessions session, avQueueId)) :
    Found userId
        (t.step opens userId sessions (.updateAVQueueInfo session avQueueId image writable)) k ↔
      (readPath userId k.1 k.2 = queueFilePath userId (sessions session).bundleName avQueueId →
        opens (readPath userId k.1 k.2) = true → t.stored k = some image) := by
  have hstores : ∀ image', (ImageOp.updateAVQueueInfo session avQueueId image writable).stores
      userId sessions t ≠ some (k, image') := by
    intro image' hstores
    unfold ImageOp.stores at hstores
    dsimp only at hstores
    rw [if_pos hname] at hstores
    exact hother (congrArg Prod.fst (Option.some.inj hstores)).symm
  rw [found_step, storedAfter_of_ne hstores, if_pos hvalid, h.files hvalid]
  unfold ImageOp.touches writeTouches
  dsimp only
  rw [if_pos hname]
  by_cases hwrites : readPath userId k.1 k.2 =
      queueFilePath userId (sessions session).bundleName avQueueId ∧
      Writable image ∧ opens (readPath userId k.1 k.2) = true
  · rw [if_pos hwrites, imp_iff_right hwrites.1, imp_iff_right hwrites.2.2]
    rfl
  · rw [if_neg hwrites]
    exact iff_of_true rfl fun hpath hopens => absurd ⟨hpath, writable, hopens⟩ hwrites

/-- A call of `UpdateAVQueueInfo` keeps what is read back exactly under the condition. -/
theorem readsBack_updateAVQueueInfo_iff (hinv : ImageInv opens t)
    (h : ReadsBack userId sessions t) :
    ReadsBack userId sessions
        (t.step opens userId sessions (.updateAVQueueInfo session avQueueId image writable)) ↔
      StoresOk opens userId sessions t (.updateAVQueueInfo session avQueueId image writable) := by
  rw [readsBack_iff_found hinv] at h
  rw [readsBack_iff_found (hinv.step _)]
  by_cases hname : isValidFileName (queueFileName (sessions session).bundleName avQueueId) = true
  · refine Iff.trans ?_ (imp_iff_right hname).symm
    constructor
    · intro hafter
      exact ⟨((h session avQueueId).own_iff_of_update hinv hname).mp (hafter session avQueueId),
        fun session' avQueueId' hvalid hother =>
          ((h session' avQueueId').other_iff_of_update hname hvalid hother).mp
            (hafter session' avQueueId')⟩
    · rintro ⟨hown, hothers⟩ session' avQueueId'
      by_cases hother : (sessions session', avQueueId') = (sessions session, avQueueId)
      · rw [hother]
        exact ((h session avQueueId).own_iff_of_update hinv hname).mpr hown
      · by_cases hvalid : isValidFileName (avQueueFileName (sessions session') avQueueId') = true
        · exact ((h session' avQueueId').other_iff_of_update hname hvalid hother).mpr
            (hothers session' avQueueId' hvalid hother)
        · refine (h session' avQueueId').step_of_invalid hvalid fun image' hstores => hother ?_
          unfold ImageOp.stores at hstores
          dsimp only at hstores
          rw [if_pos hname] at hstores
          exact (congrArg Prod.fst (Option.some.inj hstores)).symm
  · refine iff_of_true (fun session' avQueueId' => ?_) fun hvalid => absurd hvalid hname
    have hnone : (ImageOp.updateAVQueueInfo session avQueueId image writable).stores userId
        sessions t = none := if_neg hname
    rw [found_step, storedAfter_of_ne fun image' hstores => nomatch hnone.symm.trans hstores]
    unfold ImageOp.touches
    dsimp only
    rw [if_neg hname]
    exact h session' avQueueId'

end updateAVQueueInfo

/-- A call keeps what is read back exactly under the condition. -/
theorem readsBack_step_iff (hinv : ImageInv opens t) (h : ReadsBack userId sessions t)
    (op : ImageOp) :
    ReadsBack userId sessions (t.step opens userId sessions op) ↔
      StoresOk opens userId sessions t op := by
  cases op with
  | setAVMetaData c => exact readsBack_setAVMetaData_iff hinv h c
  | updateAVQueueInfo session avQueueId image writable =>
      exact readsBack_updateAVQueueInfo_iff hinv h
  | getMetaData session => exact iff_of_true h trivial

end runs

end AvSession.Queue
