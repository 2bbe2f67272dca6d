import AvSession.Remote.Session

/-!
# The cover of a session

The media image of a session is read from one file. The file is written when a call brings an image
of a legal size, and is never removed.

* `supplied`, `coverAfter` — the image that belongs to the stored metadata: the last one that an
  accepted call of the current asset has brought.
* `imageFile_setAVMetaData` — what a call leaves in the file.
* `cover_read_iff` — exactly the runs in which the file always holds that image.
-/

namespace AvSession.Meta

open AvSession.Lib AvSession.Remote

variable {ω : Type}

/-! ## The image that belongs to the metadata -/

section cover

/-- The image that a call brings, if the stored object takes it. -/
def supplied (old newData : AVMetaData) : Option (List UInt8) :=
  if TakesImage old newData then newData.val .mediaImage else none

/-- A new asset begins without an image, and a call without one keeps the one before. A call that is
refused changes nothing. -/
def coverAfter (old newData : AVMetaData) (cover : Option (List UInt8)) : Option (List UInt8) :=
  if (old.copyFrom newData).2 = true then
    if newData.val .assetId ≠ old.val .assetId then newData.val .mediaImage
    else (supplied old newData).or cover
  else cover

/-- What is expected to be read: an image that is too large is not kept. -/
def legalImage (cover : Option (List UInt8)) : List UInt8 :=
  match cover with
  | some buffer => if Writable buffer then buffer else []
  | none => []

/-- What is read into a fresh pixel map.
Source: avsession_item.cpp, AVSessionItem::ReadMetaDataImg. -/
def readMetaDataImg (item : ItemState ω) : List UInt8 := readImageFromFile item.imageFile []

/-- The session, and the image that belongs to its metadata. -/
structure CoverState (ω : Type) where
  item : ItemState ω
  cover : Option (List UInt8)

/-- A new session. -/
def CoverState.init (controllers : List Controller) : CoverState ω := ⟨.init controllers, none⟩

variable [DecidableEq ω]

/-- One step. -/
def CoverState.step (s : CoverState ω) (a : Action ω) : CoverState ω where
  item := Meta.step s.item a
  cover :=
    match a with
    | .setAVMetaData newData _ => coverAfter s.item.metaData newData s.cover
    | .setAVPlaybackState _ | .runTask _ => s.cover

/-- The cover that is read is that of the metadata. -/
def CoverRead (s : CoverState ω) : Prop := readMetaDataImg s.item = legalImage s.cover

/-- An accepted call that begins an asset or brings an image brings one of a legal size, or nothing
has been written yet. -/
def CoverOk (s : CoverState ω) : Action ω → Prop
  | .setAVMetaData newData _ =>
      (s.item.metaData.copyFrom newData).2 = true →
        newData.val .assetId ≠ s.item.metaData.val .assetId ∨
          supplied s.item.metaData newData ≠ none →
        (∃ b, supplied s.item.metaData newData = some b ∧ Writable b) ∨ s.item.imageFile = none
  | .setAVPlaybackState _ | .runTask _ => True

end cover

/-! ## The file -/

section file

variable {item : ItemState ω} {newData : AVMetaData} {queueImage : List UInt8}

/-- Whether a call is accepted depends on the stored asset id alone. -/
theorem copyFrom_snd_congr {old old' : AVMetaData} (h : old.val .assetId = old'.val .assetId) :
    (old.copyFrom newData).2 = (old'.copyFrom newData).2 := by
  unfold AVMetaData.copyFrom
  rw [h]
  split_ifs <;> rfl

/-- What an update supplies depends on the old asset id only. -/
theorem supplied_congr {old old' : AVMetaData} (h : old.val .assetId = old'.val .assetId) :
    supplied old newData = supplied old' newData := by
  refine if_congr ?_ rfl rfl
  unfold TakesImage
  rw [h]

/-- The image file holds the image CopyFrom leaves. -/
theorem updateMetaData_imageFile (old : AVMetaData) :
    (updateMetaData item newData old).imageFile =
      if (old.copyFrom newData).2 = true then
        match (old.copyFrom newData).1.val .mediaImage with
        | some b => writeImageToFile item.imageFile b
        | none => item.imageFile
      else item.imageFile := by
  unfold updateMetaData mediaBytes
  dsimp only
  cases (old.copyFrom newData).2 with
  | false => rfl
  | true =>
      rw [if_neg Bool.true_eq_false.mp, if_pos rfl]
      cases (old.copyFrom newData).1.val .mediaImage <;> rfl

/-- The file takes an image that is brought and can be written. -/
theorem imageFile_setAVMetaData (h : Stored item.metaData item.imageFile) :
    (setAVMetaData item newData queueImage).imageFile =
      if (item.metaData.copyFrom newData).2 = true then
        match supplied item.metaData newData with
        | some b => writeImageToFile item.imageFile b
        | none => item.imageFile
      else item.imageFile := by
  obtain ⟨hstored, -⟩ := comparedData_mediaImage newData queueImage h
  have hasset : (comparedData item newData queueImage).val .assetId =
      item.metaData.val .assetId := comparedData_val item newData queueImage (by decide)
  rw [← copyFrom_snd_congr hasset, ← supplied_congr hasset]
  show (updateMetaData _ newData (comparedData item newData queueImage)).imageFile = _
  rw [updateMetaData_imageFile]
  generalize comparedData item newData queueImage = old at hstored
  cases hcopied : (old.copyFrom newData).2 with
  | false => rfl
  | true =>
      have himage : (old.copyFrom newData).1.val .mediaImage =
          if TakesImage old newData then newData.val .mediaImage else old.val .mediaImage := by
        rw [AVMetaData.copyFrom_val, if_neg]
        · rfl
        · intro hempty
          unfold AVMetaData.copyFrom at hcopied
          rw [if_pos hempty] at hcopied
          cases hcopied
      rw [if_pos rfl, if_pos rfl, himage]
      unfold supplied
      by_cases htakes : TakesImage old newData
      · simp only [if_pos htakes]
        cases newData.val .mediaImage <;> rfl
      · simp only [if_neg htakes]
        cases hold : old.val .mediaImage with
        | none => rfl
        | some b => exact hstored.write hold

end file

/-! ## Whole runs -/

section runs

variable {s : CoverState ω} {newData : AVMetaData} {queueImage : List UInt8}

/-- What is left of the image in memory is in the file. -/
def CoverState.Stored (s : CoverState ω) : Prop := Remote.Stored s.item.metaData s.item.imageFile

/-- When a call decides what the cover is, the file agrees with it exactly if the image could be
written, or there is nothing to be left over. -/
theorem CoverState.Stored.read_iff (h : s.Stored) (image : Option (List UInt8)) :
    readImageFromFile (match image with
      | some b => writeImageToFile s.item.imageFile b
      | none => s.item.imageFile) [] = legalImage image ↔
        (∃ b, image = some b ∧ Writable b) ∨ s.item.imageFile = none := by
  have hempty : readImageFromFile s.item.imageFile [] = [] ↔ s.item.imageFile = none := by
    cases hfile : s.item.imageFile with
    | none => exact iff_of_true rfl rfl
    | some b => exact iff_of_false (h.file b hfile).1 nofun
  cases image with
  | none =>
      refine hempty.trans ⟨Or.inr, fun hok => hok.resolve_left ?_⟩
      rintro ⟨b, hb, -⟩
      cases hb
  | some b =>
      unfold writeImageToFile legalImage
      by_cases hwritable : Writable b
      · simp only [if_pos hwritable]
        exact iff_of_true rfl (Or.inl ⟨b, rfl, hwritable⟩)
      · simp only [if_neg hwritable]
        refine hempty.trans ⟨Or.inr, fun hok => hok.resolve_left ?_⟩
        rintro ⟨b', hb', hwritable'⟩
        obtain rfl := Option.some.inj hb'
        exact hwritable hwritable'

variable [DecidableEq ω]

/-- Every action keeps the cover stored. -/
theorem CoverState.Stored.step (h : s.Stored) (a : Action ω) : (s.step a).Stored := by
  cases a with
  | setAVMetaData newData queueImage => exact stored_setAVMetaData h
  | setAVPlaybackState state =>
      show Remote.Stored (Meta.setAVPlaybackState s.item state).metaData
        (Meta.setAVPlaybackState s.item state).imageFile
      unfold Meta.setAVPlaybackState
      dsimp only
      split_ifs <;> exact h
  | runTask queueImage =>
      obtain ⟨-, hmeta, -, hfile, -⟩ := runTask_frame s.item queueImage
      show Remote.Stored (runTask s.item queueImage).metaData (runTask s.item queueImage).imageFile
      rw [hmeta, hfile]
      exact h

/-- The other actions leave the file alone. -/
theorem CoverState.imageFile_step (a : Action ω)
    (ha : ∀ newData queueImage, a ≠ .setAVMetaData newData queueImage) :
    (s.step a).item.imageFile = s.item.imageFile ∧ (s.step a).cover = s.cover := by
  cases a with
  | setAVMetaData newData queueImage => exact absurd rfl (ha newData queueImage)
  | setAVPlaybackState state =>
      refine ⟨?_, rfl⟩
      show (Meta.setAVPlaybackState s.item state).imageFile = _
      unfold Meta.setAVPlaybackState
      dsimp only
      split_ifs <;> rfl
  | runTask queueImage => exact ⟨(runTask_frame s.item queueImage).2.2.2.1, rfl⟩

/-- A call leaves the right cover exactly under the condition. -/
theorem CoverRead.setAVMetaData_iff (h : CoverRead s) (hstored : s.Stored) :
    CoverRead (s.step (.setAVMetaData newData queueImage)) ↔
      CoverOk s (.setAVMetaData newData queueImage) := by
  have hfile : (s.step (.setAVMetaData newData queueImage)).item.imageFile = _ :=
    imageFile_setAVMetaData hstored
  have hcover : (s.step (.setAVMetaData newData queueImage)).cover =
      coverAfter s.item.metaData newData s.cover := rfl
  unfold CoverOk
  dsimp only
  unfold CoverRead readMetaDataImg at *
  rw [hfile, hcover]
  unfold coverAfter
  cases hcopied : (s.item.metaData.copyFrom newData).2 with
  | false => exact iff_of_true h nofun
  | true =>
      rw [if_pos rfl, if_pos rfl, forall_prop_of_true rfl]
      by_cases hfresh : newData.val .assetId ≠ s.item.metaData.val .assetId
      · -- a new asset begins with the image of the call
        have himage : supplied s.item.metaData newData = newData.val .mediaImage :=
          if_pos (Or.inl hfresh)
        rw [if_pos hfresh, ← himage, forall_prop_of_true (Or.inl hfresh)]
        exact hstored.read_iff _
      · rw [if_neg hfresh]
        cases himage : supplied s.item.metaData newData with
        | none => exact iff_of_true h fun hbrings => (hbrings.elim hfresh fun hne => hne rfl).elim
        | some b =>
            rw [forall_prop_of_true (Or.inr nofun)]
            exact hstored.read_iff (some b)

/-- **The cover that is read.** In a run, the image that is read is always the one that belongs to
the stored metadata, exactly if every accepted call that begins an asset or brings an image brings
one of a legal size, unless nothing has been written yet. -/
theorem cover_read_iff (controllers : List Controller) (actions : List (Action ω)) :
    Always CoverState.step CoverRead (.init controllers) actions ↔
      Meets CoverState.step CoverOk (.init controllers) actions := by
  refine always_iff_meets_of_inv (I := CoverState.Stored) (fun _ a hs => hs.step a)
    (fun s a hs hread => ?_) actions ⟨fun _ hb => (nomatch hb), fun _ hb => (nomatch hb)⟩ rfl
  cases a with
  | setAVMetaData newData queueImage => exact hread.setAVMetaData_iff hs
  | setAVPlaybackState state =>
      obtain ⟨hfile, hcover⟩ := s.imageFile_step (.setAVPlaybackState state) nofun
      unfold CoverRead readMetaDataImg at hread ⊢
      rw [hfile, hcover]
      exact iff_of_true hread trivial
  | runTask queueImage =>
      obtain ⟨hfile, hcover⟩ := s.imageFile_step (.runTask queueImage) nofun
      unfold CoverRead readMetaDataImg at hread ⊢
      rw [hfile, hcover]
      exact iff_of_true hread trivial

/-- A song with a cover. -/
def coveredSong : AVMetaData := (AVMetaData.init.setAssetId "1").setMediaImage (some [1])

/-- The next song has none, and the cover of the first one is read. -/
theorem cover_of_previous_asset :
    ¬ Always CoverState.step CoverRead (.init [] : CoverState Unit)
      [.setAVMetaData coveredSong [], .setAVMetaData (AVMetaData.init.setAssetId "2") []] := by
  intro h
  have hread := h.last
  cases hread

end runs

end AvSession.Meta
