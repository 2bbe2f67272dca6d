import AvSession.Lib.Run
import AvSession.Remote.Carried
import Mathlib.Algebra.GroupWithZero.Nat

/-!
# When a cast converges

The sink must make of an object what the source has made of it, and must be able to read it.

* `CastInv` — what holds all along a cast.
* `CastOk`, `CastInv.step` — the condition on a step, and that it keeps the invariant.
* `SourceInv`, `CastReady` — the session before it is cast, and whether it can be.
* `cast_converges` — whole runs.
-/

namespace AvSession.Remote

open AvSession.Lib AvSession.Meta

variable {ω : Type}

/-! ## Both sessions -/

section cast

variable (L : Link ω)

/-- What holds all along a cast. -/
structure CastInv (s : CastState ω) : Prop where
  source : Stored s.source.metaData s.source.imageFile
  sink : Stored s.sink.metaData s.sink.imageFile
  metaData : MetaSettles L s.metaData (shown s.source) (shown s.sink)
  playbackState : StateSettles L s.playbackState s.source.playbackState s.sink.playbackState
  controlCommand : CommandSettles L s.controlCommand s.issued s.executed

/-- An object that can be sent over what stands in the register. -/
structure MetaDataOk (r : Register (List Token)) (d : AVMetaData) (w : View) : Prop where
  clean : Clean L.getSinkMetaMaskType d
  sendable : (sentMetaData L d).2 = true → Sendable L (sentMetaData L d).1
  covers : (sentMetaData L d).2 = true → r.pending ≠ 0 →
    ∀ before, getAVMetaData L r.content = some before → Covers (sentMetaData L d).1 before w

/-- An object whose images are still there when it is sent: it has no media image, and its queue
image is neither touched by the callbacks of the service nor saved. -/
structure ImagesOk (bundleName : String) (metaData newData : AVMetaData)
    (notified : Option (List UInt8)) : Prop where
  media : L.getSinkMetaMaskType .mediaImage = true → newData.val .mediaImage = none
  queue : L.getSinkMetaMaskType .avQueueImage = true → ∀ image,
    newData.val .avQueueImage = some image →
      notified = none ∧ ¬ SavesQueueImage bundleName metaData newData image

/-- The condition on a step. -/
def CastOk (s : CastState ω) : CastOp ω → Prop
  | .setAVMetaData newData queueImage notified =>
      MetaDataOk L s.metaData newData (shown s.sink) ∧
        (L.getSinkMetaMaskType .avQueueImage = true → ReadsQueue s.source queueImage) ∧
        ImagesOk L s.bundleName (Meta.setAVMetaData s.source newData queueImage).metaData newData
          notified
  | .setAVPlaybackState state =>
      (sentPlaybackState L state).2 = true →
        StateSendable L (sentPlaybackState L state).1 ∧ (s.playbackState.pending ≠ 0 →
          ∀ before, getAVPlaybackState L s.playbackState.content = some before →
            ∀ k, before.mask k = true → (sentPlaybackState L state).1.mask k = true)
  | .setControlCommand c => CommandSendable L c ∧ s.controlCommand.pending = 0
  | .onChanged .metaData queueImage => ReadsQueue s.sink queueImage
  | _ => True

variable {L} {s : CastState ω}

/-- The invariant gives the convergence. -/
theorem CastInv.converged (h : CastInv L s) : Converged L s where
  ordered := h.controlCommand.ordered
  metaData hdelivered := h.metaData.quiet hdelivered.1
  playbackState hdelivered := h.playbackState.quiet hdelivered.2.1
  commands hdelivered := h.controlCommand.settles.quiet hdelivered.2.2

/-- The buffer of a queue image that is there. -/
theorem withQueueBuffer_queueImage (d : AVMetaData) (buffer : List UInt8) :
    (withQueueBuffer d buffer).val .avQueueImage = (d.val .avQueueImage).map fun _ => buffer := by
  unfold withQueueBuffer
  split_ifs with himage
  · rw [himage]
    rfl
  · obtain ⟨old, hold⟩ := Option.ne_none_iff_exists'.mp himage
    rw [AVMetaData.setVal_val_self, hold]
    rfl

/-- What the sink does not take makes no difference. -/
theorem sentMetaData_congr {d e : AVMetaData} (hmask : e.mask = d.mask)
    (hval : ∀ k, L.getSinkMetaMaskType k = true → e.val k = d.val k) :
    sentMetaData L e = sentMetaData L d := by
  unfold sentMetaData AVMetaData.copyToByMask
  rw [hmask]
  refine Prod.ext ?_ rfl
  have hrecord : (AVMetaData.init.cloneKeys e
      fun k => d.mask k && L.getSinkMetaMaskType k).toMaskedRecord =
      (AVMetaData.init.cloneKeys d
        fun k => d.mask k && L.getSinkMetaMaskType k).toMaskedRecord := by
    refine MaskedRecord.ext' (fun k => ?_) fun k => ?_
    · rw [AVMetaData.cloneKeys_mask, AVMetaData.cloneKeys_mask]
    · rw [AVMetaData.cloneKeys_val, AVMetaData.cloneKeys_val]
      split_ifs with hsent
      · exact hval k (Bool.and_eq_true_iff.mp hsent).2
      · rfl
  exact congrArg (fun record => { AVMetaData.init with toMaskedRecord := record }) hrecord

/-- The queue image is left alone under the condition. -/
theorem ImagesOk.queueImage_eq {bundleName : String} {metaData d : AVMetaData}
    {notified : Option (List UInt8)} (h : ImagesOk L bundleName metaData d notified)
    (hsel : L.getSinkMetaMaskType .avQueueImage = true) :
    (checkUseAVMetaData bundleName metaData d notified).val .avQueueImage =
      d.val .avQueueImage := by
  unfold checkUseAVMetaData
  rw [withQueueBuffer_queueImage]
  cases himage : d.val .avQueueImage with
  | none => rfl
  | some image =>
      obtain ⟨rfl, hsaves⟩ := h.queue hsel image himage
      exact congrArg some (if_neg hsaves)

/-- What is sent is the object as it came in. -/
theorem ImagesOk.sentMetaData_eq {bundleName : String} {metaData d : AVMetaData}
    {notified : Option (List UInt8)} (h : ImagesOk L bundleName metaData d notified)
    (buffer : List UInt8) :
    sentMetaData L (withMediaBuffer (checkUseAVMetaData bundleName metaData d notified) buffer) =
      sentMetaData L d := by
  have hother : ∀ k, k ≠ .avQueueImage →
      (checkUseAVMetaData bundleName metaData d notified).val k = d.val k :=
    fun k hk => withQueueBuffer_val hk
  refine sentMetaData_congr ?_ fun k hsel => ?_
  · rw [withMediaBuffer_mask]
    exact withQueueBuffer_mask
  · by_cases hmedia : k = .mediaImage
    · subst hmedia
      rw [withMediaBuffer_mediaImage, hother .mediaImage (by decide), h.media hsel]
      rfl
    · rw [withMediaBuffer_val hmedia]
      by_cases hqueue : k = .avQueueImage
      · subst hqueue
        exact h.queueImage_eq hsel
      · exact hother k hqueue

/-- What has settled depends on the masked view only. -/
theorem MetaSettles.congr {r : Register (List Token)} {v v' w : View}
    (h : MetaSettles L r v w) (hv : AgreeOn L.getSinkMetaMaskType v' v) :
    MetaSettles L r v' w := by
  refine Register.Settles.mono h (fun hagree => hv.trans hagree) ?_
  rintro ts - ⟨m, before, hread, hsame, hunset, himage, hagree⟩
  exact ⟨m, before, hread, hsame, hunset, himage, hv.trans hagree⟩

/-- The step lemma for a call of `SetAVMetaData`. -/
theorem CastInv.setAVMetaData (h : CastInv L s) (hasset : L.getSinkMetaMaskType .assetId = true)
    {d : AVMetaData} {queueImage : List UInt8} {notified : Option (List UInt8)}
    (hok : MetaDataOk L s.metaData d (shown s.sink))
    (hqueue : L.getSinkMetaMaskType .avQueueImage = true → ReadsQueue s.source queueImage)
    (himages : ImagesOk L s.bundleName (Meta.setAVMetaData s.source d queueImage).metaData d
      notified) :
    CastInv L (s.setAVMetaData L d queueImage notified) where
  source := stored_setAVMetaData h.source
  sink := h.sink
  metaData := by
    show MetaSettles L (remoteSetAVMetaData L s.metaData (withMediaBuffer
      (checkUseAVMetaData s.bundleName _ d notified) _))
      (shown (Meta.setAVMetaData s.source d queueImage)) (shown s.sink)
    unfold remoteSetAVMetaData
    rw [himages.sentMetaData_eq]
    have hput := h.metaData.remoteSetAVMetaData hok.clean hasset hok.sendable
      (fun hsel b hb => (nomatch (himages.media hsel).symm.trans hb)) hok.covers
    refine hput.congr fun k hk => ?_
    rw [shown_setAVMetaData h.source fun hkey => hqueue (hkey ▸ hk)]
    · exact SameValue.refl _
    · rintro rfl b hb
      exact nomatch (himages.media hk).symm.trans hb
  playbackState := by
    show StateSettles L s.playbackState (Meta.setAVMetaData s.source d queueImage).playbackState _
    rw [setAVMetaData_playbackState]
    exact h.playbackState
  controlCommand := h.controlCommand

/-- Coalescing a category keeps the invariant. -/
theorem CastInv.coalesce (h : CastInv L s) (category : Category) :
    CastInv L (s.coalesce category) := by
  cases category with
  | metaData =>
      exact ⟨h.source, h.sink, Register.Settles.coalesce h.metaData, h.playbackState,
        h.controlCommand⟩
  | playbackState =>
      exact ⟨h.source, h.sink, h.metaData, Register.Settles.coalesce h.playbackState,
        h.controlCommand⟩
  | controlCommand =>
      exact ⟨h.source, h.sink, h.metaData, h.playbackState,
        ⟨h.controlCommand.settles.coalesce, Register.coalesce_pending_le h.controlCommand.pending⟩⟩

variable [DecidableEq ω]

/-- A call of `SetAVPlaybackState` leaves the metadata alone. -/
theorem setAVPlaybackState_frame (item : ItemState ω) (state : AVPlaybackState ω) :
    (Meta.setAVPlaybackState item state).metaData = item.metaData ∧
      (Meta.setAVPlaybackState item state).imageFile = item.imageFile := by
  unfold Meta.setAVPlaybackState
  dsimp only
  split_ifs <;> exact ⟨rfl, rfl⟩

/-- The session's state is what CopyFrom gives. -/
theorem setAVPlaybackState_val (item : ItemState ω) (state : AVPlaybackState ω)
    (k : PlaybackKey) : (Meta.setAVPlaybackState item state).playbackState.val k =
      (AVPlaybackState.copyFrom item.playbackState state).1.val k := by
  unfold Meta.setAVPlaybackState
  dsimp only
  split_ifs with hnone
  · have hunset := List.any_eq_false.mp hnone k (PlaybackKey.mem_all k)
    rw [AVPlaybackState.copyFrom_val, if_neg hunset]
  · rfl

/-- The step lemma for a call of `SetAVPlaybackState`. -/
theorem CastInv.setAVPlaybackState (h : CastInv L s) {state : AVPlaybackState ω}
    (hok : CastOk L s (.setAVPlaybackState state)) : CastInv L (s.setAVPlaybackState L state) := by
  obtain ⟨hmeta, hfile⟩ := setAVPlaybackState_frame s.source state
  unfold CastState.setAVPlaybackState
  split_ifs with hnone
  · exact h
  · refine ⟨?_, h.sink, ?_, ?_, h.controlCommand⟩
    · rw [hmeta, hfile]
      exact h.source
    · rw [shown_congr hmeta hfile]
      exact h.metaData
    · refine h.playbackState.remoteSetAVPlaybackState (setAVPlaybackState_val s.source state) ?_ ?_
      · exact fun hsent => (hok hsent).1
      · exact fun hsent => (hok hsent).2

/-- The step lemma for the notification of metadata. -/
theorem CastInv.onChanged_metaData (h : CastInv L s)
    (hasset : L.getSinkMetaMaskType .assetId = true) {queueImage : List UInt8}
    (hqueue : ReadsQueue s.sink queueImage) : CastInv L (s.onChanged L .metaData queueImage) := by
  unfold CastState.onChanged
  cases hget : getAVMetaData L s.metaData.found with
  | none =>
      refine ⟨h.source, h.sink, ?_, h.playbackState, h.controlCommand⟩
      exact h.metaData.arrive hasset (fun _ => rfl) fun m hm => (nomatch hget.symm.trans hm)
  | some m =>
      refine ⟨h.source, stored_setAVMetaData h.sink, ?_, ?_, h.controlCommand⟩
      · refine h.metaData.arrive hasset (fun hnone => (nomatch hget.symm.trans hnone)) ?_
        intro m' hm' himage
        obtain rfl := Option.some.inj (hget.symm.trans hm')
        exact funext fun k => shown_setAVMetaData h.sink (fun _ => hqueue) fun _ => himage
      · show StateSettles L s.playbackState s.source.playbackState
          (Meta.setAVMetaData s.sink m queueImage).playbackState
        rw [setAVMetaData_playbackState]
        exact h.playbackState

/-- The step lemma for the notification of a playback state. -/
theorem CastInv.onChanged_playbackState (h : CastInv L s) (queueImage : List UInt8) :
    CastInv L (s.onChanged L .playbackState queueImage) := by
  unfold CastState.onChanged
  cases hget : getAVPlaybackState L s.playbackState.found with
  | none =>
      refine ⟨h.source, h.sink, h.metaData, ?_, h.controlCommand⟩
      exact h.playbackState.arrive (fun _ => rfl) fun m hm => (nomatch hget.symm.trans hm)
  | some state =>
      obtain ⟨hmeta, hfile⟩ := setAVPlaybackState_frame s.sink state
      refine ⟨h.source, ?_, ?_, ?_, h.controlCommand⟩
      · show Stored (Meta.setAVPlaybackState s.sink state).metaData
          (Meta.setAVPlaybackState s.sink state).imageFile
        rw [hmeta, hfile]
        exact h.sink
      · show MetaSettles L s.metaData (shown s.source)
          (shown (Meta.setAVPlaybackState s.sink state))
        rw [shown_congr hmeta hfile]
        exact h.metaData
      · refine h.playbackState.arrive (fun hnone => (nomatch hget.symm.trans hnone)) ?_
        intro state' hstate k
        obtain rfl := Option.some.inj (hget.symm.trans hstate)
        exact setAVPlaybackState_val s.sink state k

/-- **One step.** -/
theorem CastInv.step (hasset : L.getSinkMetaMaskType .assetId = true) (h : CastInv L s)
    {op : CastOp ω} (hok : CastOk L s op) : CastInv L (op.step L s) := by
  cases op with
  | setAVMetaData newData queueImage notified =>
      exact h.setAVMetaData hasset hok.1 hok.2.1 hok.2.2
  | setAVPlaybackState state => exact h.setAVPlaybackState hok
  | setControlCommand c =>
      exact ⟨h.source, h.sink, h.metaData, h.playbackState,
        h.controlCommand.putControlCommand hok.1 hok.2⟩
  | coalesce category => exact h.coalesce category
  | onChanged category queueImage =>
      cases category with
      | metaData => exact h.onChanged_metaData hasset hok
      | playbackState => exact h.onChanged_playbackState queueImage
      | controlCommand =>
          exact ⟨h.source, h.sink, h.metaData, h.playbackState, h.controlCommand.arrive⟩

end cast

/-! ## Before the cast -/

section before

variable {sel : MetaKey → Bool} {item : ItemState ω} {d e : AVMetaData}

/-- Another media buffer leaves a clean object. -/
theorem Clean.withMediaBuffer (h : Clean sel d) (buffer : List UInt8) :
    Clean sel (withMediaBuffer d buffer) where
  tags := by
    have hne : MetaKey.displayTags ≠ .mediaImage := nofun
    rw [withMediaBuffer_val hne]
    exact h.tags
  unset k hsel hk := by
    rw [withMediaBuffer_mask] at hk
    by_cases hkey : k = .mediaImage
    · subst hkey
      rw [withMediaBuffer_mediaImage, h.unset _ hsel hk]
      rfl
    · rw [withMediaBuffer_val hkey]
      exact h.unset k hsel hk

/-- Another queue buffer leaves a clean object. -/
theorem Clean.withQueueBuffer (h : Clean sel d) (buffer : List UInt8) :
    Clean sel (withQueueBuffer d buffer) where
  tags := by
    have hne : MetaKey.displayTags ≠ .avQueueImage := nofun
    rw [withQueueBuffer_val hne]
    exact h.tags
  unset k hsel hk := by
    rw [withQueueBuffer_mask] at hk
    by_cases hkey : k = .avQueueImage
    · subst hkey
      rw [withQueueBuffer_queueImage, h.unset _ hsel hk]
      rfl
    · rw [withQueueBuffer_val hkey]
      exact h.unset k hsel hk

/-- The data compared are clean. -/
theorem Clean.comparedData (h : Clean sel item.metaData) (newData : AVMetaData)
    (queueImage : List UInt8) : Clean sel (comparedData item newData queueImage) := by
  unfold Meta.comparedData readMediaAndAVQueueImg
  dsimp only
  split_ifs
  · exact (h.withQueueBuffer queueImage).withMediaBuffer _
  · exact h.withQueueBuffer queueImage
  · exact h

/-- CopyFrom between clean objects gives one. -/
theorem Clean.copyFrom (h : Clean sel d) (hsource : Clean sel e) :
    Clean sel (d.copyFrom e).1 where
  tags := by
    rw [AVMetaData.copyFrom_val]
    split_ifs
    · exact h.tags
    · exact hsource.tags
    · exact h.tags
  unset k hsel hk := by
    rw [AVMetaData.copyFrom_mask] at hk
    rw [AVMetaData.copyFrom_val]
    by_cases hempty : e.val .assetId = ""
    · rw [if_pos hempty] at hk ⊢
      exact h.unset k hsel hk
    · rw [if_neg hempty] at hk ⊢
      by_cases hother : e.val .assetId ≠ d.val .assetId
      · rw [if_pos hother] at hk
        rw [if_pos (Or.inl hother)]
        exact hsource.unset k hsel hk
      · rw [if_neg hother] at hk
        obtain ⟨hd, he⟩ := Bool.or_eq_false_iff.mp hk
        rw [he, if_neg fun htakes => htakes.elim hother Bool.false_ne_true]
        exact h.unset k hsel hd

/-- Another media image leaves a clean object. -/
theorem Clean.setMediaImage (h : Clean sel d) (image : Option (List UInt8)) :
    Clean sel (d.setMediaImage image) where
  tags := by
    have hne : MetaKey.displayTags ≠ .mediaImage := nofun
    unfold AVMetaData.setMediaImage
    rw [AVMetaData.set_val_of_ne _ _ hne]
    exact h.tags
  unset k hsel hk := by
    unfold AVMetaData.setMediaImage at hk ⊢
    by_cases hkey : k = .mediaImage
    · subst hkey
      rw [AVMetaData.set_mask_self] at hk
      cases hk
    · rw [AVMetaData.set_mask_of_ne _ _ hkey] at hk
      rw [AVMetaData.set_val_of_ne _ _ hkey]
      exact h.unset k hsel hk

/-- What holds of a session whose calls have brought clean objects: without an asset id it has
nothing. -/
structure SourceInv (sel : MetaKey → Bool) (item : ItemState ω) : Prop where
  stored : Stored item.metaData item.imageFile
  clean : Clean sel item.metaData
  empty : item.metaData.val .assetId = "" → ∀ k, item.metaData.val k = k.initial
  playbackState : ∀ k, item.playbackState.mask k = false →
    item.playbackState.val k = PlaybackKey.initial k

/-- A new source is in order. -/
theorem sourceInv_init (controllers : List Controller) :
    SourceInv sel (.init controllers : ItemState ω) where
  stored := ⟨fun _ hb => (nomatch hb), fun _ hb => (nomatch hb)⟩
  clean := clean_init
  empty _ _ := rfl
  playbackState _ _ := rfl

/-- Without an asset id before, there is none after an object without one, and nothing else. -/
theorem SourceInv.empty_setAVMetaData (h : SourceInv sel item) (newData : AVMetaData)
    (queueImage : List UInt8)
    (hasset : (setAVMetaData item newData queueImage).metaData.val .assetId = "") (k : MetaKey) :
    (setAVMetaData item newData queueImage).metaData.val k = k.initial := by
  obtain ⟨hnew, hold⟩ : newData.val .assetId = "" ∧ item.metaData.val .assetId = "" := by
    have hne : MetaKey.assetId ≠ .mediaImage := nofun
    rw [setAVMetaData_val_of_ne hne, AVMetaData.copyFrom_val, comparedData_assetId,
      shown_of_ne hne] at hasset
    split_ifs at hasset with hempty htakes
    · exact ⟨hempty, hasset⟩
    · exact absurd hasset hempty
    · exact absurd ((not_not.mp (not_or.mp htakes).1).trans hasset) hempty
  have hcompared : (comparedData item newData queueImage).val k = k.initial := by
    by_cases hmedia : k = .mediaImage
    · subst hmedia
      exact (comparedData_mediaImage newData queueImage h.stored).2.mpr (h.empty hold _)
    · by_cases hqueue : k = .avQueueImage
      · subst hqueue
        rw [comparedData_queueImage newData queueImage (Or.inl (h.empty hold _))]
        exact h.empty hold _
      · rw [comparedData_val_of_ne newData queueImage hmedia hqueue]
        exact h.empty hold k
  show (updateMetaData _ newData (comparedData item newData queueImage)).metaData.val k = _
  unfold updateMetaData AVMetaData.copyFrom
  simp only [if_pos hnew]
  exact hcompared

/-- Clean data keep the source in order. -/
theorem SourceInv.setAVMetaData (h : SourceInv sel item) {newData : AVMetaData}
    (hnew : Clean sel newData) (queueImage : List UInt8) :
    SourceInv sel (setAVMetaData item newData queueImage) where
  stored := stored_setAVMetaData h.stored
  clean := by
    have hcopied := (h.clean.comparedData newData queueImage).copyFrom hnew
    show Clean sel (updateMetaData _ newData (Meta.comparedData item newData queueImage)).metaData
    unfold updateMetaData
    dsimp only
    split
    case isTrue => exact h.clean.comparedData newData queueImage
    case isFalse =>
      split
      case isTrue => exact hcopied
      case isFalse => exact hcopied.setMediaImage _
  empty := h.empty_setAVMetaData newData queueImage
  playbackState := by
    rw [setAVMetaData_playbackState]
    exact h.playbackState

/-- What leaves the metadata and the image file alone keeps the invariant if it keeps what it says
of the playback state. -/
theorem SourceInv.of_frame (h : SourceInv sel item) {item' : ItemState ω}
    (hmeta : item'.metaData = item.metaData) (hfile : item'.imageFile = item.imageFile)
    (hstate : ∀ k, item'.playbackState.mask k = false →
      item'.playbackState.val k = PlaybackKey.initial k) : SourceInv sel item' where
  stored := by
    rw [hmeta, hfile]
    exact h.stored
  clean := by
    rw [hmeta]
    exact h.clean
  empty := by
    rw [hmeta]
    exact h.empty
  playbackState := hstate

variable [DecidableEq ω]

/-- A call brings a clean object. -/
def CleanAction (sel : MetaKey → Bool) : Action ω → Prop
  | .setAVMetaData newData _ => Clean sel newData
  | _ => True

/-- A clean action keeps the source in order. -/
theorem SourceInv.step (h : SourceInv sel item) {a : Action ω} (ha : CleanAction sel a) :
    SourceInv sel (Meta.step item a) := by
  cases a with
  | setAVMetaData newData queueImage => exact h.setAVMetaData ha queueImage
  | setAVPlaybackState state =>
      obtain ⟨hmeta, hfile⟩ := setAVPlaybackState_frame item state
      refine h.of_frame hmeta hfile fun k hk => ?_
      show (Meta.setAVPlaybackState item state).playbackState.val k = PlaybackKey.initial k
      change (Meta.setAVPlaybackState item state).playbackState.mask k = false at hk
      unfold Meta.setAVPlaybackState at hk ⊢
      dsimp only at hk ⊢
      split_ifs at hk ⊢
      · exact h.playbackState k hk
      · rw [AVPlaybackState.copyFrom_mask] at hk
        obtain ⟨hunset, hnew⟩ := Bool.or_eq_false_iff.mp hk
        rw [AVPlaybackState.copyFrom_val, hnew, if_neg Bool.false_ne_true]
        exact h.playbackState k hunset
  | runTask queueImage =>
      obtain ⟨-, hmeta, hstate, hfile, -⟩ := runTask_frame item queueImage
      apply h.of_frame hmeta hfile
      show ∀ k, (runTask item queueImage).playbackState.mask k = false → _
      rw [hstate]
      exact h.playbackState

end before

/-! ## Whole runs -/

section runs

variable (L : Link ω)

/-- The session can be cast: what it sends first comes out as it went in. -/
structure CastReady (source : ItemState ω) (queueImage : List UInt8) : Prop where
  assetId : L.getSinkMetaMaskType .assetId = true
  queue : L.getSinkMetaMaskType .avQueueImage = true → ReadsQueue source queueImage
  metaData : (sentMetaData L (getMetaData source queueImage)).2 = true →
    Sendable L (sentMetaData L (getMetaData source queueImage)).1
  playbackState : (sentPlaybackState L source.playbackState).2 = true →
    StateSendable L (sentPlaybackState L source.playbackState).1

variable {L} {bundleName : String} {source : ItemState ω} {queueImage : List UInt8}

/-- What is read for a controller is what the source shows. -/
theorem getMetaData_val {k : MetaKey} (hqueue : k = .avQueueImage → ReadsQueue source queueImage) :
    (getMetaData source queueImage).val k = shown source k := by
  unfold getMetaData
  by_cases hk : k = .avQueueImage
  · subst hk
    have hne : MetaKey.avQueueImage ≠ .mediaImage := nofun
    rw [withQueueBuffer_queueImage]
    show (shown source .avQueueImage).map _ = shown source .avQueueImage
    rw [shown_of_ne hne]
    rcases hqueue rfl with hnone | hsome
    · rw [hnone]
      rfl
    · rw [hsome]
      rfl
  · exact withQueueBuffer_val hk

/-- A new session shows the initial values. -/
theorem shown_init (controllers : List Controller) :
    shown (.init controllers : ItemState ω) = MetaKey.initial := by
  have hnone : (ItemState.init controllers : ItemState ω).metaData.val .mediaImage = none := rfl
  funext k
  unfold shown withStoredImage withMediaBuffer
  rw [if_pos hnone]
  rfl

/-- What the first object makes of a new session is what the source shows. -/
theorem SourceInv.agreeOn_merge {sel : MetaKey → Bool} (h : SourceInv sel source)
    (hqueue : sel .avQueueImage = true → ReadsQueue source queueImage) :
    AgreeOn sel (shown source) (merge (getMetaData source queueImage) MetaKey.initial) := by
  intro k hk
  have hne : MetaKey.assetId ≠ .mediaImage := nofun
  unfold merge
  rw [getMetaData_val (k := .assetId) nofun, getMetaData_val fun hkey => hqueue (hkey ▸ hk)]
  by_cases hempty : shown source .assetId = ""
  · rw [if_pos hempty]
    rw [shown_of_ne hne] at hempty
    by_cases hk : k = .mediaImage
    · subst hk
      rw [h.stored.shown_mediaImage, h.empty hempty]
      exact SameValue.refl _
    · rw [shown_of_ne hk, h.empty hempty]
      exact SameValue.refl _
  · have htakes : shown source .assetId ≠ MetaKey.initial .assetId := hempty
    rw [if_neg hempty, if_pos (Or.inl htakes)]
    exact SameValue.refl _

/-- The first state of a cast. -/
theorem SourceInv.castInv (h : SourceInv L.getSinkMetaMaskType source)
    (hready : CastReady L source queueImage)
    (controllers : List Controller) :
    CastInv L (castAudioToRemote L bundleName source queueImage controllers) where
  source := h.stored
  sink := ⟨fun _ hb => (nomatch hb), fun _ hb => (nomatch hb)⟩
  metaData := by
    have hclean : Clean L.getSinkMetaMaskType (getMetaData source queueImage) :=
      (h.clean.withMediaBuffer _).withQueueBuffer queueImage
    have hinit : MetaSettles L .init MetaKey.initial MetaKey.initial :=
      Register.settles_init fun k _ => SameValue.refl _
    have hput := hinit.remoteSetAVMetaData hclean hready.assetId hready.metaData ?_
      fun _ hbusy => absurd rfl hbusy
    · show MetaSettles L _ (shown source) (shown (.init controllers))
      rw [shown_init]
      exact hput.congr (h.agreeOn_merge hready.queue)
    · -- what the file holds could be written
      intro _ b hb
      rw [getMetaData_val (k := .mediaImage) nofun, h.stored.shown_mediaImage] at hb
      obtain ⟨b', -, rfl⟩ := Option.map_eq_some_iff.mp hb
      cases hfile : source.imageFile with
      | none => exact Or.inl rfl
      | some F => exact Or.inr (h.stored.file F hfile)
  playbackState := by
    have hinit : StateSettles L .init AVPlaybackState.init AVPlaybackState.init :=
      Register.settles_init fun k _ => rfl
    refine hinit.remoteSetAVPlaybackState (fun k => ?_) hready.playbackState
      fun _ hbusy => absurd rfl hbusy
    rw [AVPlaybackState.copyFrom_val]
    split_ifs with hset
    · rfl
    · exact h.playbackState k (Bool.eq_false_iff.mpr hset)
  controlCommand := ⟨Register.settles_init rfl, Nat.zero_le 1⟩

variable [DecidableEq ω]

/-- The bytes of a record. -/
def recordSize : Token → ℕ
  | .int32 _ | .bool _ => 4
  | .int64 _ | .double _ => 8
  | .string v => 5 + v.utf8ByteSize
  | .blob v => 4 + (v.getD []).length
  | .raw v => 4 + v.length

/-- A sink that takes everything, and parcels that take everything. -/
def openLink : Link Unit where
  metaDataCap := MetaKey.all.map fun k => (MetaKey.all.idxOf k : ℤ)
  playbackStateCap := PlaybackKey.all.map fun k => (PlaybackKey.all.idxOf k : ℤ)
  params := ⟨fun _ => [], fun _ => some ()⟩
  accepts := fun _ _ => true
  dataSize := fun ts => (ts.map recordSize).sum

/-- A song. -/
def song : AVMetaData := (AVMetaData.init.setAssetId "1").setTitle "song"

/-- The song used below is clean. -/
theorem clean_song : Clean openLink.getSinkMetaMaskType song := by
  have hreach : song.Reachable := .setter .title _ (.setter .assetId _ .init)
  exact clean_of_wellFormed (AVMetaData.wellFormed_of_reachable hreach) fun _ _ => rfl

/-- The session plays. -/
def playing : AVPlaybackState Unit := AVPlaybackState.init.set .state (2 : ℤ)

/-- Nothing but the mark. -/
def favorite : AVPlaybackState Unit := AVPlaybackState.init.set .isFavorite true

/-- A command without a parameter. -/
def pause : AVControlCommand := ⟨1, .int32 0, .empty⟩

/-- A song, two states of which the second covers the first, and a command. -/
def songCast : List (CastOp Unit) :=
  [.setAVMetaData song [] none, .onChanged .metaData [], .setAVPlaybackState playing,
    .setAVPlaybackState (playing.set .isFavorite true), .coalesce .playbackState,
    .onChanged .playbackState [], .setControlCommand pause, .onChanged .controlCommand []]

end runs

end AvSession.Remote
