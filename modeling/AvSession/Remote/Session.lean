import AvSession.Meta.Delivery

/-!
# What a session shows of its metadata

The media image of a session is in its file. Seen through it, a call of `SetAVMetaData` merges the
object into what was shown: another asset replaces everything, and of the same asset the members
that are set are taken.

* `shown` — the members, with the media image read from the file.
* `Stored` — what is left of the image in memory is in the file.
* `View`, `merge` — the members that are shown, and what an object makes of them. The same object
  twice is the object once (`merge_self`), and an object that covers the one before makes up for it
  (`merge_covered`).
* `shown_setAVMetaData` — a call is a merge.
-/

namespace AvSession.Remote

open AvSession.Lib AvSession.Meta

variable {ω : Type}

/-! ## Values -/

section values

/-- The same value; images are compared as bytes, and no image is an empty one. -/
def SameValue : (t : FieldType) → t.Val → t.Val → Prop
  | .image, a, b => a.getD [] = b.getD []
  | .string, a, b | .int32, a, b | .int64, a, b | .double, a, b | .strings, a, b => a = b

namespace SameValue

variable {t : FieldType} {a b c : t.Val}

/-- A value is the same as itself. -/
theorem refl (a : t.Val) : SameValue t a a := by
  cases t <;> rfl

/-- Same and same is the same. -/
theorem trans (h : SameValue t a b) (h' : SameValue t b c) : SameValue t a c := by
  cases t <;> exact Eq.trans h h'

end SameValue

end values

/-! ## Merging -/

section merging

/-- A value for each member. -/
abbrev View := ∀ k : MetaKey, k.Field

/-- Another asset replaces everything, and of the same asset the members that are set are taken. -/
def merge (d : AVMetaData) (v : View) : View := fun k =>
  if d.val .assetId = "" then v k
  else if d.val .assetId ≠ v .assetId ∨ d.mask k = true then d.val k
  else v k

/-- Two views agree on some keys. -/
def AgreeOn (sel : MetaKey → Bool) (v w : View) : Prop :=
  ∀ k, sel k = true → SameValue k.type (v k) (w k)

/-- Two objects have the same bits and the same members on some keys. -/
def SameOn (sel : MetaKey → Bool) (d e : AVMetaData) : Prop :=
  ∀ k, sel k = true → d.mask k = e.mask k ∧ SameValue k.type (d.val k) (e.val k)

/-- A member whose bit is not set has its initial value. -/
def UnsetInitial (d : AVMetaData) : Prop := ∀ k, d.mask k = false → d.val k = k.initial

/-- An object carries what another one carried: all its members, for the same asset or for one that
replaces everything. -/
def Covers (d before : AVMetaData) (v : View) : Prop :=
  d.val .assetId ≠ "" ∧ (∀ k, before.mask k = true → d.mask k = true) ∧
    (d.val .assetId = before.val .assetId ∨ d.val .assetId ≠ v .assetId)

variable {sel : MetaKey → Bool} {d e before : AVMetaData} {v w u : View}

/-- Agreement goes on through a third view. -/
theorem AgreeOn.trans (h : AgreeOn sel v w) (h' : AgreeOn sel w u) : AgreeOn sel v u :=
  fun k hk => (h k hk).trans (h' k hk)

/-- An object that cannot be copied changes nothing. -/
theorem merge_of_failed {old : AVMetaData} (h : (old.copyFrom d).2 = false)
    (hasset : old.val .assetId = v .assetId) : merge d v = v := by
  funext k
  unfold merge
  unfold AVMetaData.copyFrom at h
  rw [hasset] at h
  split_ifs at h with hempty hother
  · exact if_pos hempty
  · have hunset := List.any_eq_false.mp h k (MetaKey.mem_all k)
    rw [if_neg hempty]
    exact if_neg fun htakes => htakes.elim hother hunset

/-- A merge takes the asset id unless it is empty. -/
theorem merge_assetId : merge d v .assetId =
    if d.val .assetId = "" then v .assetId else d.val .assetId := by
  unfold merge
  split_ifs with hempty htakes
  · rfl
  · rfl
  · exact (not_not.mp (not_or.mp htakes).1).symm

/-- The keys must include the asset id, which decides what is taken. -/
theorem merge_congr (hasset : sel .assetId = true) (hd : SameOn sel d e) (hv : AgreeOn sel v w) :
    AgreeOn sel (merge d v) (merge e w) := by
  intro k hk
  have hde : d.val .assetId = e.val .assetId := (hd .assetId hasset).2
  have hvw : v .assetId = w .assetId := hv .assetId hasset
  unfold merge
  rw [hde, hvw, (hd k hk).1]
  split_ifs
  · exact hv k hk
  · exact (hd k hk).2
  · exact hv k hk

/-- The same object twice. -/
theorem merge_self (d : AVMetaData) (v : View) : merge d (merge d v) = merge d v := by
  funext k
  by_cases hempty : d.val .assetId = ""
  · unfold merge
    rw [if_pos hempty]
  · have hasset : merge d v .assetId = d.val .assetId := by
      rw [merge_assetId, if_neg hempty]
    rw [merge, if_neg hempty, hasset]
    by_cases hset : d.mask k = true
    · rw [if_pos (Or.inr hset), merge, if_neg hempty, if_pos (Or.inr hset)]
    · exact if_neg fun htakes => htakes.elim (fun hne => hne rfl) hset

/-- Two objects, the second of which covers the first. -/
theorem merge_covered (hd : UnsetInitial d) (hbefore : UnsetInitial before)
    (h : Covers d before v) : merge d (merge before v) = merge d v := by
  obtain ⟨hempty, hmask, hasset⟩ := h
  by_cases hskip : before.val .assetId = ""
  · have hview : merge before v = v := funext fun k => if_pos hskip
    rw [hview]
  · have hmerged : merge before v .assetId = before.val .assetId := by
      rw [merge_assetId, if_neg hskip]
    funext k
    unfold merge at hmerged ⊢
    rw [if_neg hempty, if_neg hempty, hmerged]
    by_cases hset : d.mask k = true
    · rw [if_pos (Or.inr hset), if_pos (Or.inr hset)]
    · have hunset : before.mask k = false := Bool.eq_false_iff.mpr fun hk => hset (hmask k hk)
      have hinitial : d.val k = before.val k :=
        (hd k (Bool.eq_false_iff.mpr hset)).trans (hbefore k hunset).symm
      rw [hunset, if_neg hskip]
      simp only [hset, or_false, Bool.false_eq_true]
      rcases hasset with hsame | hother
      · rw [hsame, if_neg (not_not.mpr rfl), hinitial]
      · rw [if_pos hother]
        split_ifs with hne hv
        · rfl
        · exact hinitial.symm
        · exact absurd ((not_not.mp hne).trans (not_not.mp hv)) hother

end merging

/-! ## The image -/

section image

variable (item : ItemState ω)

/-- The metadata with its media image. Without an image file the image keeps its buffer. -/
def withStoredImage : AVMetaData :=
  withMediaBuffer item.metaData (readImageFromFile item.imageFile (mediaBytes item.metaData))

/-- A member, as it is shown. -/
def shown (k : MetaKey) : k.Field := (withStoredImage item).val k

/-- What the queue image holds is in its own file.
Source: avsession_item.cpp, AVSessionItem::GetMetaData. -/
def getMetaData (queueImage : List UInt8) : AVMetaData :=
  withQueueBuffer (withStoredImage item) queueImage

/-- What is left of the image in memory is in the file, and the file could be written. -/
structure Stored (m : AVMetaData) (imageFile : Option (List UInt8)) : Prop where
  buffer : ∀ b, m.val .mediaImage = some b → b = [] ∨ imageFile = some b
  file : ∀ b, imageFile = some b → Writable b

/-- The file of the queue image, if it is read, holds the stored one. -/
def ReadsQueue (queueImage : List UInt8) : Prop :=
  item.metaData.val .avQueueImage = none ∨ item.metaData.val .avQueueImage = some queueImage

variable {item}

/-- Outside the image the item shows what it holds. -/
theorem shown_of_ne {k : MetaKey} (hk : k ≠ .mediaImage) : shown item k = item.metaData.val k :=
  withMediaBuffer_val hk

/-- It depends on the metadata and the file alone. -/
theorem shown_congr {item' : ItemState ω} (hmeta : item'.metaData = item.metaData)
    (hfile : item'.imageFile = item.imageFile) : shown item' = shown item := by
  unfold shown withStoredImage
  rw [hmeta, hfile]

/-- A stored image reads as what the file holds. -/
theorem Stored.read {m : AVMetaData} {file : Option (List UInt8)} (h : Stored m file)
    {b : List UInt8} (hb : m.val .mediaImage = some b) :
    readImageFromFile file b = file.getD [] := by
  unfold readImageFromFile
  cases file with
  | some F => rfl
  | none =>
      rcases h.buffer b hb with rfl | hfile
      · rfl
      · cases hfile

/-- So a stored image is shown as what the file holds. -/
theorem Stored.shown_mediaImage (h : Stored item.metaData item.imageFile) :
    shown item .mediaImage =
      (item.metaData.val .mediaImage).map fun _ => item.imageFile.getD [] := by
  unfold shown withStoredImage
  rw [withMediaBuffer_mediaImage]
  unfold mediaBytes
  cases himage : item.metaData.val .mediaImage with
  | none => rfl
  | some b => exact congrArg some (h.read himage)

/-- Writing it again changes nothing. -/
theorem Stored.write {m : AVMetaData} {file : Option (List UInt8)} (h : Stored m file)
    {b : List UInt8} (hb : m.val .mediaImage = some b) : writeImageToFile file b = file := by
  unfold writeImageToFile
  rcases h.buffer b hb with rfl | hfile
  · exact if_neg fun hwritable => hwritable.1 rfl
  · rw [hfile, ite_self]

end image

/-! ## The stored object before the copy -/

section compared

variable {item : ItemState ω} (newData : AVMetaData) (queueImage : List UInt8)

/-- Reading the images for the comparison changes them only. -/
theorem comparedData_val_of_ne {k : MetaKey} (hmedia : k ≠ .mediaImage)
    (hqueue : k ≠ .avQueueImage) :
    (comparedData item newData queueImage).val k = item.metaData.val k := by
  unfold comparedData readMediaAndAVQueueImg
  dsimp only
  split_ifs
  · rw [withMediaBuffer_val hmedia, withQueueBuffer_val hqueue]
  · exact withQueueBuffer_val hqueue
  · rfl

/-- The queue image compared is the item's own, where it is read. -/
theorem comparedData_queueImage (hreads : ReadsQueue item queueImage) :
    (comparedData item newData queueImage).val .avQueueImage =
      item.metaData.val .avQueueImage := by
  have hqueue : (withQueueBuffer item.metaData queueImage).val .avQueueImage =
      item.metaData.val .avQueueImage := by
    unfold withQueueBuffer
    split_ifs with hnone
    · rfl
    · rw [AVMetaData.setVal_val_self]
      exact (hreads.resolve_left hnone).symm
  unfold comparedData readMediaAndAVQueueImg
  dsimp only
  split_ifs
  · rw [withMediaBuffer_val (by decide), hqueue]
  · exact hqueue
  · rfl

/-- The image is there as before, and what is in memory is still in the file. -/
theorem comparedData_mediaImage (h : Stored item.metaData item.imageFile) :
    Stored (comparedData item newData queueImage) item.imageFile ∧
      ((comparedData item newData queueImage).val .mediaImage = none ↔
        item.metaData.val .mediaImage = none) := by
  have hqueue : (withQueueBuffer item.metaData queueImage).val .mediaImage =
      item.metaData.val .mediaImage := withQueueBuffer_val (by decide)
  unfold comparedData readMediaAndAVQueueImg
  dsimp only
  split_ifs
  · refine ⟨⟨fun b hb => ?_, h.file⟩, ?_⟩
    · rw [withMediaBuffer_mediaImage, hqueue] at hb
      obtain ⟨b', hb', rfl⟩ := Option.map_eq_some_iff.mp hb
      unfold readImageFromFile mediaBytes
      rw [hqueue, hb']
      cases hfile : item.imageFile with
      | none =>
          rcases h.buffer b' hb' with hempty | hsome
          · exact Or.inl hempty
          · rw [hfile] at hsome
            cases hsome
      | some F => exact Or.inr rfl
    · rw [withMediaBuffer_mediaImage, hqueue, Option.map_eq_none_iff]
  · refine ⟨⟨fun b hb => h.buffer b (hqueue ▸ hb), h.file⟩, ?_⟩
    rw [hqueue]
  · exact ⟨h, Iff.rfl⟩

end compared

/-! ## A call -/

section call

variable {item : ItemState ω} {newData : AVMetaData} {queueImage : List UInt8}

/-- Two options that are there together give the same constant. -/
theorem map_const_congr {α β : Type} {a b : Option α} (h : a = none ↔ b = none) (c : β) :
    a.map (fun _ => c) = b.map fun _ => c := by
  cases a with
  | none => rw [h.mp rfl]
  | some a =>
      cases b with
      | none => exact nomatch h.mpr rfl
      | some b => rfl

/-- What the call stores, the media image excepted. -/
theorem setAVMetaData_val_of_ne {k : MetaKey} (hk : k ≠ .mediaImage) :
    (setAVMetaData item newData queueImage).metaData.val k =
      ((comparedData item newData queueImage).copyFrom newData).1.val k := by
  show (updateMetaData _ newData (comparedData item newData queueImage)).metaData.val k = _
  unfold updateMetaData
  dsimp only
  split
  case isTrue hfailed => exact (AVMetaData.copyFrom_val_of_false _ _ k hfailed).symm
  case isFalse =>
    split
    case isTrue => rfl
    case isFalse => exact AVMetaData.set_val_of_ne _ _ hk

/-- The stored asset id is that of the comparison. -/
theorem comparedData_assetId :
    (comparedData item newData queueImage).val .assetId = shown item .assetId := by
  rw [shown_of_ne (k := .assetId) nofun]
  exact comparedData_val_of_ne newData queueImage nofun nofun

/-- After a call, what is left of the image in memory is in the file. -/
theorem stored_setAVMetaData (h : Stored item.metaData item.imageFile) :
    Stored (setAVMetaData item newData queueImage).metaData
      (setAVMetaData item newData queueImage).imageFile := by
  obtain ⟨hstored, -⟩ := comparedData_mediaImage newData queueImage h
  show Stored (updateMetaData _ newData (comparedData item newData queueImage)).metaData
    (updateMetaData _ newData (comparedData item newData queueImage)).imageFile
  unfold updateMetaData
  dsimp only
  split
  case isTrue => exact hstored
  case isFalse =>
    split
    case isTrue himage => exact ⟨fun b hb => (nomatch himage.symm.trans hb), h.file⟩
    case isFalse =>
      refine ⟨fun b hb => Or.inl ?_, fun b hb => ?_⟩
      · dsimp only [AVMetaData.setMediaImage] at hb
        rw [AVMetaData.set_val_self] at hb
        exact (Option.some.inj hb).symm
      · dsimp only [writeImageToFile] at hb
        split_ifs at hb with hwritable
        · obtain rfl := Option.some.inj hb
          exact hwritable
        · exact h.file b hb

/-- After a copy, the image is shown as what the file holds once it was written. -/
theorem shown_setAVMetaData_mediaImage (h : Stored item.metaData item.imageFile)
    (hcopied : ((comparedData item newData queueImage).copyFrom newData).2 = true) :
    shown (setAVMetaData item newData queueImage) .mediaImage =
      (((comparedData item newData queueImage).copyFrom newData).1.val .mediaImage).map
        fun b => (writeImageToFile item.imageFile b).getD [] := by
  rw [(stored_setAVMetaData h).shown_mediaImage]
  show ((updateMetaData _ newData (comparedData item newData queueImage)).metaData.val
    .mediaImage).map (fun _ => (updateMetaData _ newData
      (comparedData item newData queueImage)).imageFile.getD []) = _
  unfold updateMetaData mediaBytes
  dsimp only
  have hok : ¬ ((comparedData item newData queueImage).copyFrom newData).2 = false := fun hfailed =>
    nomatch hcopied.symm.trans hfailed
  simp only [if_neg hok]
  cases himage : ((comparedData item newData queueImage).copyFrom newData).1.val .mediaImage with
  | none =>
      rw [if_pos rfl]
      dsimp only
      rw [himage]
      rfl
  | some b =>
      rw [if_neg nofun]
      dsimp only [AVMetaData.setMediaImage]
      rw [AVMetaData.set_val_self]
      rfl

/-- Without a copy, the image is shown as before. -/
theorem shown_setAVMetaData_of_failed (h : Stored item.metaData item.imageFile)
    (hfailed : ((comparedData item newData queueImage).copyFrom newData).2 = false) :
    shown (setAVMetaData item newData queueImage) .mediaImage =
      ((comparedData item newData queueImage).val .mediaImage).map
        fun _ => item.imageFile.getD [] := by
  rw [(stored_setAVMetaData h).shown_mediaImage]
  show ((updateMetaData _ newData (comparedData item newData queueImage)).metaData.val
    .mediaImage).map (fun _ => (updateMetaData _ newData
      (comparedData item newData queueImage)).imageFile.getD []) = _
  unfold updateMetaData
  simp only [if_pos hfailed]

/-- **A call is a merge.** The queue image must be read as it is stored, and a new media image must
be one that the file can hold. -/
theorem shown_setAVMetaData (h : Stored item.metaData item.imageFile) {k : MetaKey}
    (hqueue : k = .avQueueImage → ReadsQueue item queueImage)
    (himage : k = .mediaImage → ∀ b, newData.val .mediaImage = some b → Writable b) :
    shown (setAVMetaData item newData queueImage) k = merge newData (shown item) k := by
  obtain ⟨hstored, hnone⟩ := comparedData_mediaImage newData queueImage h
  have hasset := @comparedData_assetId _ item newData queueImage
  by_cases hk : k = .mediaImage
  · subst hk
    have hbefore : ((comparedData item newData queueImage).val .mediaImage).map
        (fun _ => item.imageFile.getD []) = shown item .mediaImage := by
      rw [h.shown_mediaImage]
      exact map_const_congr hnone _
    have hkeep : ((comparedData item newData queueImage).val .mediaImage).map
        (fun b => (writeImageToFile item.imageFile b).getD []) = shown item .mediaImage := by
      rw [← hbefore]
      refine Option.map_congr fun b hb => ?_
      rw [hstored.write hb]
    cases hcopied : ((comparedData item newData queueImage).copyFrom newData).2 with
    | false =>
        rw [shown_setAVMetaData_of_failed h hcopied, hbefore, merge_of_failed hcopied hasset]
    | true =>
        rw [shown_setAVMetaData_mediaImage h hcopied, AVMetaData.copyFrom_val, hasset]
        unfold merge
        split_ifs with hempty htakes
        · exact hkeep
        · cases hnew : newData.val .mediaImage with
          | none => rfl
          | some b =>
              have hwrite : writeImageToFile item.imageFile b = some b :=
                if_pos (himage rfl b hnew)
              rw [Option.map_some, hwrite]
              rfl
        · exact hkeep
  · have hold : (comparedData item newData queueImage).val k = shown item k := by
      rw [shown_of_ne hk]
      by_cases havQueue : k = .avQueueImage
      · subst havQueue
        exact comparedData_queueImage newData queueImage (hqueue rfl)
      · exact comparedData_val_of_ne newData queueImage hk havQueue
    rw [shown_of_ne hk, setAVMetaData_val_of_ne hk, AVMetaData.copyFrom_val, hasset, hold]
    rfl

end call

end AvSession.Remote
