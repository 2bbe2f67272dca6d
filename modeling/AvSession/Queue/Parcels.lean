import AvSession.Lib.ParcelScan

/-!
# Queues in parcels

A description of a medium, an item of a queue, a list of items and the information about a queue
travel in parcels. The images go as raw data behind their length.

* One writer and one reader for each class, in the order of the source. The writer of a description
  drops the result of one write, the marker of an absent icon; `writes` is all that it writes.
* `sent` — what of a value is sent: an icon that is empty or too large is not.
* `scans_…` — what was written is read back, and no record after it.
* `queue_codecs` — the four classes together.

The extras are known by their records. The cast information of a description is not written.
-/

namespace AvSession.Queue

open AvSession.Lib

/-! ## The classes -/

section classes

/-- Source: av_file_descriptor.h, AVFileDescriptor. -/
structure AVFileDescriptor where
  fd : ℤ
  offset : ℤ
  length : ℤ
deriving DecidableEq

/-- The callback is not written. Source: av_data_src_descriptor.h, AVDataSrcDescriptor. -/
structure AVDataSrcDescriptor where
  fileSize : ℤ
  hasCallback : Bool
deriving DecidableEq

/-- Source: avmedia_description.h, AVMediaDescription. -/
structure AVMediaDescription where
  mediaId : String
  title : String
  subtitle : String
  description : String
  icon : Option (List UInt8)
  iconUri : String
  extras : Option (List UInt8)
  mediaType : String
  mediaSize : ℤ
  albumTitle : String
  launchClientData : String
  albumCoverUri : String
  lyricContent : String
  lyricUri : String
  artist : String
  mediaUri : String
  fdSrc : AVFileDescriptor
  duration : ℤ
  startPosition : ℤ
  creditsPosition : ℤ
  appName : String
  drmScheme : String
  dataSrc : AVDataSrcDescriptor
  pcmSrc : Bool
deriving DecidableEq

/-- Source: avqueue_item.h, AVQueueItem. -/
structure AVQueueItem where
  itemId : ℤ
  description : Option AVMediaDescription
deriving DecidableEq

/-- Source: media_info_holder.h, MediaInfoHolder. -/
structure MediaInfoHolder where
  currentIndex : ℤ
  playInfos : List AVQueueItem
deriving DecidableEq

/-- The length of the image is not written. Source: avqueue_info.h, AVQueueInfo. -/
structure AVQueueInfo where
  bundleName : String
  avQueueName : String
  avQueueId : String
  avQueueImage : Option (List UInt8)
  avQueueImageUri : String
deriving DecidableEq

end classes

/-! ## Descriptions -/

section descriptions

/-- Source: av_file_descriptor.cpp, AVFileDescriptor::WriteToParcel. -/
def AVFileDescriptor.writeToParcel (f : AVFileDescriptor) : List Put :=
  [.write (.int32 f.fd), .write (.int64 f.offset), .write (.int64 f.length)]

/-- The first read that fails ends it.
Source: av_file_descriptor.cpp, AVFileDescriptor::ReadFromParcel. -/
def AVFileDescriptor.readFromParcel : Scan AVFileDescriptor := do
  let fd ← scan Token.asInt32
  match fd with
  | none => pure ⟨-1, 0, 0⟩
  | some fd =>
      let offset ← scan Token.asInt64
      match offset with
      | none => pure ⟨fd, 0, 0⟩
      | some offset =>
          let length ← scan Token.asInt64
          pure ⟨fd, offset, length.getD 0⟩

/-- Source: av_data_src_descriptor.cpp, AVDataSrcDescriptor::WriteToParcel. -/
def AVDataSrcDescriptor.writeToParcel (d : AVDataSrcDescriptor) : List Put :=
  [.write (.int64 d.fileSize), .write (.bool d.hasCallback)]

/-- Source: av_data_src_descriptor.cpp, AVDataSrcDescriptor::ReadFromParcel. -/
def AVDataSrcDescriptor.readFromParcel : Scan AVDataSrcDescriptor := do
  let fileSize ← scan Token.asInt64
  match fileSize with
  | none => pure ⟨0, false⟩
  | some fileSize =>
      let hasCallback ← scan Token.asBool
      pure ⟨fileSize, hasCallback.getD false⟩

/-- The most bytes of an icon that are sent, and of an image that are read. -/
def maxIconSize : ℕ := 10 * 1024 * 1024

/-- An object that is made of bytes. -/
def bytesPuts (bytes : List UInt8) : List Put := [.write (.blob (some bytes))]

/-- An object that is made of bytes is read. -/
def scanBytes : Scan (Option (List UInt8)) := do
  let bytes ← scan Token.asBlob
  pure bytes.join

namespace AVMediaDescription

variable (d : AVMediaDescription) (p : Parcel)

/-- The bytes of the icon that are sent: none of an icon that is too large. -/
def iconBuffer : List UInt8 :=
  match d.icon with
  | some buffer => if buffer.length > maxIconSize then [] else buffer
  | none => []

/-- The writes before the icon. -/
def members : List Put :=
  [.write (.string d.mediaId), .write (.string d.title), .write (.string d.subtitle),
    .write (.string d.description), .write (.string d.iconUri), .write (.string d.mediaType),
    .write (.int32 d.mediaSize), .write (.string d.albumTitle), .write (.string d.albumCoverUri),
    .write (.string d.lyricContent), .write (.string d.lyricUri), .write (.string d.artist),
    .write (.string d.mediaUri)] ++
  d.fdSrc.writeToParcel ++
  [.write (.int32 d.duration), .write (.int32 d.startPosition), .write (.int32 d.creditsPosition),
    .write (.string d.appName), .write (.string d.launchClientData)] ++
  nullable (d.extras.map bytesPuts) ++ [.write (.string d.drmScheme)] ++
  d.dataSrc.writeToParcel ++ [.write (.bool d.pcmSrc)]

/-- The result of writing the null icon is dropped: the write stands among the arguments of a log.
Source: avmedia_description.cpp, AVMediaDescription::Marshalling. -/
def marshalling : Parcel × Bool :=
  let members := p.run d.members
  let size := members.1.write (.int32 d.iconBuffer.length)
  if 0 < d.iconBuffer.length then
    let raw := size.1.write (.raw d.iconBuffer)
    (raw.1, members.2 && size.2 && raw.2)
  else ((size.1.writeParcelable none).1, members.2 && size.2)

/-- Everything that is written. -/
def writes : List Put :=
  d.members ++ .write (.int32 d.iconBuffer.length) ::
    (if 0 < d.iconBuffer.length then [.write (.raw d.iconBuffer)] else nullable none)

/-- An icon without a size is an object, which is null. -/
def scanIcon (iconSize : ℤ) : Scan (Option (List UInt8)) :=
  if iconSize ≤ 0 then scanParcelable scanBytes else scan (Token.asRaw iconSize)

/-- A read that fails leaves the default.
Source: avmedia_description.cpp, AVMediaDescription::Unmarshalling. -/
def unmarshalling : Scan (Option AVMediaDescription) := do
  let mediaId ← scanOr Token.asString ""
  let title ← scanOr Token.asString ""
  let subtitle ← scanOr Token.asString ""
  let description ← scanOr Token.asString ""
  let iconUri ← scanOr Token.asString ""
  let mediaType ← scanOr Token.asString ""
  let mediaSize ← scanOr Token.asInt32 0
  let albumTitle ← scanOr Token.asString ""
  let albumCoverUri ← scanOr Token.asString ""
  let lyricContent ← scanOr Token.asString ""
  let lyricUri ← scanOr Token.asString ""
  let artist ← scanOr Token.asString ""
  let mediaUri ← scanOr Token.asString ""
  let fdSrc ← AVFileDescriptor.readFromParcel
  let duration ← scanOr Token.asInt32 0
  let startPosition ← scanOr Token.asInt32 0
  let creditsPosition ← scanOr Token.asInt32 0
  let appName ← scanOr Token.asString ""
  let launchClientData ← scanOr Token.asString ""
  let extras ← scanParcelable scanBytes
  let drmScheme ← scanOr Token.asString ""
  let dataSrc ← AVDataSrcDescriptor.readFromParcel
  let pcmSrc ← scanOr Token.asBool false
  let iconSize ← scanOr Token.asInt32 0
  let icon ← scanIcon iconSize
  pure (some
    { mediaId, title, subtitle, description, icon, iconUri, extras, mediaType, mediaSize,
      albumTitle, launchClientData, albumCoverUri, lyricContent, lyricUri, artist, mediaUri, fdSrc,
      duration, startPosition, creditsPosition, appName, drmScheme, dataSrc, pcmSrc })

/-- What of a description is sent. -/
def sent : AVMediaDescription :=
  { d with icon := if 0 < d.iconBuffer.length then some d.iconBuffer else none }

end AVMediaDescription

end descriptions

/-! ## Items, lists of items, and queues -/

section queues

namespace AVQueueItem

variable (i : AVQueueItem) (p : Parcel)

/-- Source: avqueue_item.cpp, AVQueueItem::Marshalling. -/
def marshalling : Parcel × Bool :=
  let itemId := p.write (.int32 i.itemId)
  if itemId.2 then
    itemId.1.writeParcelable (i.description.map AVMediaDescription.marshalling)
  else (itemId.1, false)

/-- Everything that is written. -/
def writes : List Put :=
  .write (.int32 i.itemId) :: nullable (i.description.map AVMediaDescription.writes)

/-- An item without a description is refused.
Source: avqueue_item.cpp, AVQueueItem::Unmarshalling. -/
def unmarshalling : Scan (Option AVQueueItem) := do
  let itemId ← scan Token.asInt32
  match itemId with
  | none => pure none
  | some itemId =>
      let description ← scanParcelable AVMediaDescription.unmarshalling
      match description with
      | none => pure none
      | some description => pure (some ⟨itemId, some description⟩)

/-- What of an item is sent: one without a description is not. -/
def sent : Option AVQueueItem :=
  i.description.map fun description => ⟨i.itemId, some description.sent⟩

end AVQueueItem

namespace MediaInfoHolder

variable (h : MediaInfoHolder) (p : Parcel)

/-- The loop of the writer. -/
def marshallingItems (p : Parcel) : List AVQueueItem → Parcel × Bool
  | [] => (p, true)
  | playInfo :: playInfos =>
      let written := playInfo.marshalling p
      if written.2 then marshallingItems written.1 playInfos else (written.1, false)

/-- Source: media_info_holder.cpp, MediaInfoHolder::Marshalling. -/
def marshalling : Parcel × Bool :=
  let head := p.run [.write (.int32 h.currentIndex), .write (.int32 (toInt32 h.playInfos.length))]
  if head.2 then marshallingItems head.1 h.playInfos else (head.1, false)

/-- Everything that is written. -/
def writes : List Put :=
  .write (.int32 h.currentIndex) :: .write (.int32 (toInt32 h.playInfos.length)) ::
    h.playInfos.flatMap AVQueueItem.writes

/-- The number of items that is read. -/
def maxPlayInfosSize : ℤ := 1000

/-- Items that are refused are skipped.
Source: media_info_holder.cpp, MediaInfoHolder::Unmarshalling. -/
def unmarshalling : Scan (Option MediaInfoHolder) := do
  let currentIndex ← scan Token.asInt32
  match currentIndex with
  | none => pure none
  | some currentIndex =>
      let playInfosSize ← scan Token.asInt32
      match playInfosSize with
      | none => pure none
      | some playInfosSize =>
          if playInfosSize < 0 ∨ playInfosSize ≥ maxPlayInfosSize then pure none
          else
            let playInfos ← scanMany AVQueueItem.unmarshalling playInfosSize.toNat
            pure (some ⟨currentIndex, playInfos⟩)

end MediaInfoHolder

namespace AVQueueInfo

variable (q : AVQueueInfo)

/-- `GetInnerImgBuffer()`, empty without an image. -/
def imageBuffer : List UInt8 := q.avQueueImage.getD []

/-- Source: avqueue_info.cpp, AVQueueInfo::MarshallingQueueImage. -/
def marshallingQueueImage : List Put :=
  .write (.int32 (toInt32 q.imageBuffer.length)) ::
    (if 0 < toInt32 q.imageBuffer.length then
      [.write (.raw (q.imageBuffer.take (toInt32 q.imageBuffer.length).toNat))]
    else [])

/-- Source: avqueue_info.cpp, AVQueueInfo::MarshallingMessageParcel. -/
def marshallingMessageParcel : List Put :=
  [.write (.string q.bundleName), .write (.string q.avQueueName), .write (.string q.avQueueId),
    .write (.string q.avQueueImageUri)] ++ q.marshallingQueueImage

/-- The end of the reader: an image that is too large is not read. -/
def scanQueueImage : Scan (Option (List UInt8)) := do
  let imageLength ← scanOr Token.asInt32 0
  if imageLength > 0 ∧ imageLength ≤ maxIconSize then scan (Token.asRaw imageLength) else pure none

/-- Source: avqueue_info.cpp, AVQueueInfo::UnmarshallingMessageParcel. -/
def unmarshallingMessageParcel : Scan (Option AVQueueInfo) := do
  let bundleName ← scan Token.asString
  match bundleName with
  | none => pure none
  | some bundleName =>
      let avQueueName ← scan Token.asString
      match avQueueName with
      | none => pure none
      | some avQueueName =>
          let avQueueId ← scan Token.asString
          match avQueueId with
          | none => pure none
          | some avQueueId =>
              let avQueueImageUri ← scan Token.asString
              match avQueueImageUri with
              | none => pure none
              | some avQueueImageUri =>
                  let avQueueImage ← scanQueueImage
                  pure (some ⟨bundleName, avQueueName, avQueueId, avQueueImage, avQueueImageUri⟩)

/-- What of a queue is sent: an empty image is not. -/
def sent : AVQueueInfo :=
  { q with avQueueImage := if q.imageBuffer = [] then none else q.avQueueImage }

end AVQueueInfo

end queues

/-! ## What is read back -/

section scans

variable (f : AVFileDescriptor) (s : AVDataSrcDescriptor) (d : AVMediaDescription)
  (i : AVQueueItem) (h : MediaInfoHolder) (q : AVQueueInfo)

/-- A file descriptor is scanned back. -/
theorem scans_fileDescriptor :
    Scans AVFileDescriptor.readFromParcel (records f.writeToParcel) f := by
  unfold AVFileDescriptor.readFromParcel
  refine Scans.cons rfl ?_
  refine Scans.cons rfl ?_
  refine Scans.cons rfl ?_
  exact Scans.pure _

/-- A data source is scanned back. -/
theorem scans_dataSrcDescriptor :
    Scans AVDataSrcDescriptor.readFromParcel (records s.writeToParcel) s := by
  unfold AVDataSrcDescriptor.readFromParcel
  refine Scans.cons rfl ?_
  refine Scans.cons rfl ?_
  exact Scans.pure _

/-- Bytes are scanned back. -/
theorem scans_bytes (bytes : List UInt8) :
    Scans scanBytes (records (bytesPuts bytes)) (some bytes) := by
  unfold scanBytes
  refine Scans.cons rfl ?_
  exact Scans.pure _

/-- So are bytes that may be missing. -/
theorem scans_nullableBytes (bytes : Option (List UInt8)) :
    Scans (scanParcelable scanBytes) (records (nullable (bytes.map bytesPuts))) bytes := by
  have hscans := Scans.parcelable bytes some fun c _ => scans_bytes c
  simpa using hscans

/-- The icon behind its size. -/
theorem scans_icon (buffer : List UInt8) :
    Scans (AVMediaDescription.scanIcon buffer.length)
      (records (if 0 < buffer.length then [.write (.raw buffer)] else nullable none))
      (if 0 < buffer.length then some buffer else none) := by
  unfold AVMediaDescription.scanIcon
  by_cases hpos : 0 < buffer.length
  · rw [if_neg (by omega), if_pos hpos, if_pos hpos]
    intro rest
    exact read_raw buffer rest
  · rw [if_pos (by omega), if_neg hpos, if_neg hpos]
    exact scans_nullableBytes none

/-- The records of a description, field by field. -/
theorem AVMediaDescription.records_writes : records d.writes =
    .string d.mediaId :: .string d.title :: .string d.subtitle :: .string d.description ::
      .string d.iconUri :: .string d.mediaType :: .int32 d.mediaSize :: .string d.albumTitle ::
      .string d.albumCoverUri :: .string d.lyricContent :: .string d.lyricUri ::
      .string d.artist :: .string d.mediaUri :: (records d.fdSrc.writeToParcel ++
      .int32 d.duration :: .int32 d.startPosition :: .int32 d.creditsPosition ::
      .string d.appName :: .string d.launchClientData ::
      (records (nullable (d.extras.map bytesPuts)) ++ .string d.drmScheme ::
      (records d.dataSrc.writeToParcel ++ .bool d.pcmSrc :: .int32 d.iconBuffer.length ::
      (records (if 0 < d.iconBuffer.length then [.write (.raw d.iconBuffer)]
        else nullable none) ++ [])))) := by
  simp [AVMediaDescription.writes, AVMediaDescription.members, records_append, records]

/-- A description comes back, and no record after it is read. -/
theorem scans_description :
    Scans AVMediaDescription.unmarshalling (records d.writes) (some d.sent) := by
  rw [AVMediaDescription.records_writes]
  unfold AVMediaDescription.unmarshalling
  iterate 13 refine Scans.consOr rfl ?_
  refine Scans.bind (scans_fileDescriptor _) ?_
  iterate 5 refine Scans.consOr rfl ?_
  refine Scans.bind (scans_nullableBytes _) ?_
  refine Scans.consOr rfl ?_
  refine Scans.bind (scans_dataSrcDescriptor _) ?_
  iterate 2 refine Scans.consOr rfl ?_
  refine Scans.bind (scans_icon _) ?_
  exact Scans.pure _

/-- An item comes back if it has a description. -/
theorem scans_item : Scans AVQueueItem.unmarshalling (records i.writes) i.sent := by
  have hdescription := Scans.parcelable i.description (fun d => some d.sent)
    fun d _ => scans_description d
  have hrecords : records i.writes = .int32 i.itemId ::
      (records (nullable (i.description.map AVMediaDescription.writes)) ++ []) := by
    simp [AVQueueItem.writes, records]
  rw [hrecords]
  unfold AVQueueItem.unmarshalling AVQueueItem.sent
  refine Scans.cons rfl (Scans.bind hdescription ?_)
  cases i.description with
  | none => exact Scans.pure _
  | some d => exact Scans.pure _

/-- Fewer than a thousand items come back, without those that have no description. -/
theorem scans_holder (hlen : h.playInfos.length < 1000) :
    Scans MediaInfoHolder.unmarshalling (records h.writes)
      (some ⟨h.currentIndex, h.playInfos.filterMap AVQueueItem.sent⟩) := by
  have hitems := Scans.many h.playInfos fun i _ => scans_item i
  have hrecords : records h.writes = .int32 h.currentIndex :: .int32 h.playInfos.length ::
      (h.playInfos.flatMap (fun i => records i.writes) ++ []) := by
    have hint : toInt32 h.playInfos.length = h.playInfos.length := toInt32_of_lt (by omega)
    simp [MediaInfoHolder.writes, records, records_flatMap, hint]
  rw [hrecords]
  unfold MediaInfoHolder.unmarshalling
  refine Scans.cons rfl (Scans.cons rfl ?_)
  have hlegal : ¬ ((h.playInfos.length : ℤ) < 0 ∨
      (h.playInfos.length : ℤ) ≥ MediaInfoHolder.maxPlayInfosSize) := by
    unfold MediaInfoHolder.maxPlayInfosSize
    omega
  simp only [if_neg hlegal, Int.toNat_natCast]
  exact Scans.bind hitems (Scans.pure _)

/-- More items are refused, up to where their number is cut off. -/
theorem holder_refused (hlen : 1000 ≤ h.playInfos.length) (hcut : h.playInfos.length < 2 ^ 32)
    (rest : List Token) : (MediaInfoHolder.unmarshalling (records h.writes ++ rest)).1 = none := by
  have hillegal : toInt32 h.playInfos.length < 0 ∨
      toInt32 h.playInfos.length ≥ MediaInfoHolder.maxPlayInfosSize := by
    unfold MediaInfoHolder.maxPlayInfosSize toInt32
    rw [BitVec.toInt_eq_toNat_bmod, BitVec.toNat_ofNat, Int.bmod_def]
    omega
  have hscans : Scans MediaInfoHolder.unmarshalling
      [.int32 h.currentIndex, .int32 (toInt32 h.playInfos.length)] none := by
    unfold MediaInfoHolder.unmarshalling
    refine Scans.cons rfl (Scans.cons rfl ?_)
    simp only [if_pos hillegal]
    exact Scans.pure _
  have hread := hscans (h.playInfos.flatMap (fun i => records i.writes) ++ rest)
  have hrecords : records h.writes ++ rest = [.int32 h.currentIndex,
      .int32 (toInt32 h.playInfos.length)] ++
        (h.playInfos.flatMap (fun i => records i.writes) ++ rest) := by
    simp [MediaInfoHolder.writes, records, records_flatMap]
  rw [hrecords, hread]

/-- A queue comes back if its image is not too large. -/
theorem scans_queueInfo (himage : q.imageBuffer.length ≤ maxIconSize) :
    Scans AVQueueInfo.unmarshallingMessageParcel (records q.marshallingMessageParcel)
      (some q.sent) := by
  have hint : toInt32 q.imageBuffer.length = q.imageBuffer.length := by
    unfold maxIconSize at himage
    exact toInt32_of_lt (by omega)
  have hrecords : records q.marshallingMessageParcel = .string q.bundleName ::
      .string q.avQueueName :: .string q.avQueueId :: .string q.avQueueImageUri ::
        (records q.marshallingQueueImage ++ []) := by
    simp [AVQueueInfo.marshallingMessageParcel, records]
  have hqueueImage : Scans AVQueueInfo.scanQueueImage (records q.marshallingQueueImage)
      q.sent.avQueueImage := by
    unfold AVQueueInfo.scanQueueImage AVQueueInfo.marshallingQueueImage
    rw [hint, Int.toNat_natCast, List.take_length]
    refine Scans.consOr rfl ?_
    by_cases hempty : q.imageBuffer = []
    · have hnone : q.sent.avQueueImage = none := if_pos hempty
      rw [hnone, hempty]
      exact Scans.pure _
    · have hpos : 0 < q.imageBuffer.length := List.length_pos_iff.mpr hempty
      have hsome : q.sent.avQueueImage = some q.imageBuffer := by
        refine (if_neg hempty).trans ?_
        unfold AVQueueInfo.imageBuffer at hempty ⊢
        cases himg : q.avQueueImage with
        | none => simp [himg] at hempty
        | some image => rfl
      rw [hsome, if_pos (by omega), if_pos (by omega)]
      intro rest
      exact read_raw q.imageBuffer rest
  rw [hrecords]
  unfold AVQueueInfo.unmarshallingMessageParcel
  iterate 4 refine Scans.cons rfl ?_
  exact Scans.bind hqueueImage (Scans.pure _)

end scans

/-! ## The writers -/

section written

variable {p : Parcel} {d : AVMediaDescription} {i : AVQueueItem} {h : MediaInfoHolder}

/-- With the marker of an absent icon, everything is written. -/
theorem AVMediaDescription.marshalling_eq (hall : (p.run d.writes).2 = true) :
    d.marshalling p = (p.push (records d.writes), true) := by
  unfold AVMediaDescription.writes at hall ⊢
  obtain ⟨hmembers, hrun⟩ := Parcel.run_append_of_true hall
  rw [hrun] at hall
  obtain ⟨hsize, hrun⟩ := Parcel.run_write_of_true hall
  rw [hrun] at hall
  unfold AVMediaDescription.marshalling
  rw [hmembers, records_append]
  simp only [hsize, Bool.and_self, Bool.true_and]
  split_ifs at hall ⊢ with hpos
  · obtain ⟨hraw, -⟩ := Parcel.run_write_of_true hall
    rw [hraw, Parcel.push_push, Parcel.push_push]
    rfl
  · obtain ⟨hmarker, -⟩ := Parcel.run_write_of_true hall
    unfold Parcel.writeParcelable
    dsimp only
    rw [hmarker, Parcel.push_push, Parcel.push_push]
    rfl

/-- An item that is written whole has pushed its records. -/
theorem AVQueueItem.marshalling_eq (hall : (p.run i.writes).2 = true) :
    i.marshalling p = (p.push (records i.writes), true) := by
  unfold AVQueueItem.writes at hall ⊢
  obtain ⟨hitem, hrun⟩ := Parcel.run_write_of_true hall
  rw [hrun] at hall
  have hdescription := Parcel.writeParcelable_of_true hall fun d _ _ h =>
    AVMediaDescription.marshalling_eq h
  unfold AVQueueItem.marshalling
  simp only [hitem, if_true, hdescription, Parcel.push_push]
  rfl

/-- So have the items of a holder. -/
theorem MediaInfoHolder.marshallingItems_eq {playInfos : List AVQueueItem}
    (hall : (p.run (playInfos.flatMap AVQueueItem.writes)).2 = true) :
    marshallingItems p playInfos =
      (p.push (records (playInfos.flatMap AVQueueItem.writes)), true) := by
  induction playInfos generalizing p with
  | nil => exact Prod.ext (Parcel.push_nil p).symm rfl
  | cons playInfo playInfos ih =>
      rw [List.flatMap_cons] at hall ⊢
      obtain ⟨hitem, hrun⟩ := Parcel.run_append_of_true hall
      rw [hrun] at hall
      unfold marshallingItems
      rw [AVQueueItem.marshalling_eq (congrArg Prod.snd hitem)]
      simp only [if_true, ih hall, Parcel.push_push, records_append]

/-- So has the holder. -/
theorem MediaInfoHolder.marshalling_eq (hall : (p.run h.writes).2 = true) :
    h.marshalling p = (p.push (records h.writes), true) := by
  have hsplit : h.writes = [.write (.int32 h.currentIndex),
      .write (.int32 (toInt32 h.playInfos.length))] ++ h.playInfos.flatMap AVQueueItem.writes := rfl
  rw [hsplit] at hall ⊢
  obtain ⟨hhead, hrun⟩ := Parcel.run_append_of_true hall
  rw [hrun] at hall
  unfold MediaInfoHolder.marshalling
  rw [hhead]
  simp only [if_true, MediaInfoHolder.marshallingItems_eq hall, Parcel.push_push, records_append]

end written

/-! ## The codecs -/

section codecs

variable {α : Type}

/-- A writer succeeds, and what it has added to the parcel is read back as this value, and nothing
that follows. -/
def ComesBack (p : Parcel) (written : Parcel × Bool) (x : Scan α) (a : α) : Prop :=
  ∃ us, written = (p.push us, true) ∧ Scans x us a

/-- **The codecs of queues.** If everything is written, descriptions, items with a description,
lists of fewer than a thousand items and queues with an image that is not too large come back as
what of them is sent, and the records after them are left. Items without a description are null, and
are skipped in a list; longer lists are null. -/
theorem queue_codecs (p : Parcel) :
    (∀ d : AVMediaDescription, (p.run d.writes).2 = true →
      ComesBack p (d.marshalling p) AVMediaDescription.unmarshalling (some d.sent)) ∧
    (∀ i : AVQueueItem, (p.run i.writes).2 = true →
      ComesBack p (i.marshalling p) AVQueueItem.unmarshalling i.sent) ∧
    (∀ h : MediaInfoHolder, (p.run h.writes).2 = true → h.playInfos.length < 1000 →
      ComesBack p (h.marshalling p) MediaInfoHolder.unmarshalling
        (some ⟨h.currentIndex, h.playInfos.filterMap AVQueueItem.sent⟩)) ∧
    (∀ h : MediaInfoHolder, (p.run h.writes).2 = true → 1000 ≤ h.playInfos.length →
      h.playInfos.length < 2 ^ 32 → ∃ us, h.marshalling p = (p.push us, true) ∧
        ∀ rest, (MediaInfoHolder.unmarshalling (us ++ rest)).1 = none) ∧
    ∀ q : AVQueueInfo, (p.run q.marshallingMessageParcel).2 = true →
      q.imageBuffer.length ≤ maxIconSize →
        ComesBack p (p.run q.marshallingMessageParcel) AVQueueInfo.unmarshallingMessageParcel
          (some q.sent) := by
  refine ⟨?_, ?_, ?_, ?_, ?_⟩
  · intro d hall
    exact ⟨_, AVMediaDescription.marshalling_eq hall, scans_description d⟩
  · intro i hall
    exact ⟨_, AVQueueItem.marshalling_eq hall, scans_item i⟩
  · intro h hall hlen
    exact ⟨_, MediaInfoHolder.marshalling_eq hall, scans_holder h hlen⟩
  · intro h hall hlen hcut
    exact ⟨_, MediaInfoHolder.marshalling_eq hall, holder_refused h hlen hcut⟩
  · intro q hall himage
    exact ⟨_, Prod.ext (Parcel.run_fst_of_true hall) hall, scans_queueInfo q himage⟩

/-- A description is sent whole unless its icon is empty or too large. -/
theorem AVMediaDescription.sent_eq_self_iff (d : AVMediaDescription) : d.sent = d ↔
    ∀ buffer, d.icon = some buffer → 0 < buffer.length ∧ buffer.length ≤ maxIconSize := by
  have hicon : d.sent = d ↔ d.sent.icon = d.icon := by
    constructor
    · exact congrArg AVMediaDescription.icon
    · intro h
      exact congrArg (fun icon => { d with icon }) h
  rw [hicon]
  unfold AVMediaDescription.sent AVMediaDescription.iconBuffer
  cases d.icon with
  | none => simp
  | some buffer =>
      by_cases hlarge : buffer.length > maxIconSize
      · simp [hlarge]
      · by_cases hpos : 0 < buffer.length
        · simp [hlarge, hpos]
          omega
        · simp [hlarge, hpos]

/-- A queue is sent whole unless its image is empty. -/
theorem AVQueueInfo.sent_eq_self_iff (q : AVQueueInfo) :
    q.sent = q ↔ q.avQueueImage ≠ some [] := by
  have himage : q.sent = q ↔ q.sent.avQueueImage = q.avQueueImage := by
    constructor
    · exact congrArg AVQueueInfo.avQueueImage
    · intro h
      exact congrArg (fun avQueueImage => { q with avQueueImage }) h
  rw [himage]
  unfold AVQueueInfo.sent AVQueueInfo.imageBuffer
  cases q.avQueueImage with
  | none => simp
  | some image => by_cases hempty : image = [] <;> simp [hempty]

/-- A parcel that takes everything. -/
def roomyParcel : Parcel := ⟨[], fun _ _ => true⟩

/-- A queue with an image. -/
def jazz : AVQueueInfo := ⟨"music", "jazz", "1", some [1, 2], ""⟩

/-- The queue below comes back. -/
theorem jazz_comesBack : ComesBack roomyParcel (roomyParcel.run jazz.marshallingMessageParcel)
    AVQueueInfo.unmarshallingMessageParcel (some jazz.sent) :=
  (queue_codecs roomyParcel).2.2.2.2 jazz rfl (by decide)

/-- An item without a description is written, and null when it is read. -/
theorem emptyItem_lost : ¬ ∀ (p : Parcel) (i : AVQueueItem), (i.marshalling p).2 = true →
    ComesBack p (i.marshalling p) AVQueueItem.unmarshalling (some i) := by
  intro hclaim
  obtain ⟨us, hwritten, hread⟩ := hclaim roomyParcel ⟨1, none⟩ rfl
  have hus : [.int32 1, .int32 0] = us := congrArg (fun r => r.1.tokens) hwritten
  subst hus
  have hnone := congrArg Prod.fst (hread [])
  cases hnone

end codecs

end AvSession.Queue
