import AvSession.Lib.MaskAlgebra
import AvSession.Meta.PlaybackState

/-!
# The algebra of the masks

The delta of two objects is what is set in the new one and differs from the old one, among the keys
of a filter. It is copied into an empty object, which is sent.

* `metaDelta`, `stateDelta` — the delta of two metadata objects, and of two playback states.
* `DeltaLaws` — what is asked of a delta: a receiver who copies from it has what one who copies
  from the whole object has.
* `mask_algebra` — the laws, for metadata with the asset id set on the delta.
-/

namespace AvSession.Meta

open AvSession.Lib

/-! ## The loops as an algebra -/

section loops

variable {ω : Type} (a b : AVMetaData) (s t : AVPlaybackState ω)

/-- Copying into a fresh object restricts. -/
theorem AVMetaData.copyToByMask_init (d : MetaKey → Bool) :
    (b.copyToByMask d .init).1.toMaskedRecord = b.toMaskedRecord.restrict MetaKey.initial d := by
  ext k
  · simp [copyToByMask, cloneKeys_mask, init]
  · simp [copyToByMask, cloneKeys_val, init]

variable {a b} in
/-- Within one asset CopyFrom merges. -/
theorem AVMetaData.copyFrom_of_asset (hasset : b.val .assetId = a.val .assetId)
    (hne : b.val .assetId ≠ "") :
    (a.copyFrom b).1.toMaskedRecord = a.toMaskedRecord.merge b.toMaskedRecord := by
  ext k
  · simp [copyFrom_mask, hasset, hasset ▸ hne]
  · simp [copyFrom_val, hasset, hasset ▸ hne]

/-- Copying into a fresh state restricts. -/
theorem AVPlaybackState.copyToByMask_init (d : PlaybackKey → Bool) :
    (t.copyToByMask d .init).1 = t.restrict PlaybackKey.initial d := by
  ext k
  · simp [copyToByMask_mask, init]
  · simp [copyToByMask_val, init]

/-- CopyFrom of states merges. -/
theorem AVPlaybackState.copyFrom_eq : (s.copyFrom t).1 = s.merge t := by
  ext k
  · simp [copyFrom_mask]
  · simp [copyFrom_val]

end loops

/-! ## Deltas -/

section deltas

variable {ω : Type} [DecidableEq ω] (a b : AVMetaData) (f : MetaKey → Bool)
  (s t : AVPlaybackState ω) (g : PlaybackKey → Bool)

/-- What is set in `b` and differs from `a`. -/
def metaDelta : AVMetaData := (b.copyToByMask (a.getChangedDataMask f b) .init).1

/-- What is set in `t` and differs from `s`. -/
def stateDelta : AVPlaybackState ω := (t.copyToByMask (s.getChangedStateMask g t) .init).1

/-- What is asked of a delta of `a` and `b` over the keys of `f`, which was copied under the mask
`d`: `viaDelta` is what becomes of `a` with the delta, and `viaWhole` with all of `b`. -/
structure DeltaLaws {κ : Type} {τ : κ → Type} (changed : ∀ k, τ k → τ k → Bool)
    (initial : ∀ k, τ k) (f d : κ → Bool) (a b delta viaDelta viaWhole : MaskedRecord κ τ) :
    Prop where
  agree : ∀ k, f k = true → b.mask k = true → Same changed (viaDelta.val k) (viaWhole.val k)
  keptByDelta : ∀ k, b.mask k = false → viaDelta.val k = a.val k ∧ viaDelta.mask k = a.mask k
  keptByWhole : ∀ k, b.mask k = false → viaWhole.val k = a.val k ∧ viaWhole.mask k = a.mask k
  mask : ∀ k, delta.mask k = (b.mask k && d k)
  copied : ∀ k, delta.val k = if delta.mask k then b.val k else initial k

/-- The laws of the metadata object, for a receiver who copies from `received`. -/
def MetaLaws (received : AVMetaData) : Prop :=
  DeltaLaws (fun k => k.type.changed) MetaKey.initial f (a.getChangedDataMask f b) a.toMaskedRecord
    b.toMaskedRecord (metaDelta a b f).toMaskedRecord (a.copyFrom received).1.toMaskedRecord
    (a.copyFrom b).1.toMaskedRecord ∧
  ((a.copyFrom b).1.copyFrom b).1 = (a.copyFrom b).1

/-- The laws of the playback state. -/
def StateLaws : Prop :=
  DeltaLaws (fun k => k.changed) PlaybackKey.initial g (s.getChangedStateMask g t) s t
    (stateDelta s t g) (s.copyFrom (stateDelta s t g)).1 (s.copyFrom t).1 ∧
  ((s.copyFrom t).1.copyFrom t).1 = (s.copyFrom t).1

/-- The members that have not been set have their initial values. -/
def AVMetaData.Plain : Prop := ∀ k, b.mask k = false → b.val k = k.initial

/-- The changed mask is the difference. -/
theorem getChangedStateMask_eq :
    s.getChangedStateMask g t = s.difference (fun k => k.changed) t g := by
  funext k
  exact congrArg (g k && ·) (k.changed_comm _ _)

/-- A playback state: the delta is as good as the whole. -/
theorem stateLaws : StateLaws s t g := by
  have hdelta : stateDelta s t g =
      t.restrict PlaybackKey.initial (s.difference (fun k => k.changed) t g) := by
    unfold stateDelta
    rw [AVPlaybackState.copyToByMask_init, getChangedStateMask_eq]
  unfold StateLaws
  rw [AVPlaybackState.copyFrom_eq, AVPlaybackState.copyFrom_eq, AVPlaybackState.copyFrom_eq,
    hdelta, getChangedStateMask_eq]
  refine ⟨⟨?_, ?_, ?_, ?_, ?_⟩, MaskedRecord.merge_merge _ _⟩
  · intro k hg ht
    exact MaskedRecord.same_merge_restrict _ _ _ hg ht
  · intro k ht
    apply MaskedRecord.merge_of_unset
    simp [ht]
  · intro k ht
    exact MaskedRecord.merge_of_unset ht
  · intro k
    rfl
  · intro k
    rfl

variable {a b}

/-- The asset id has not changed, so it is not in the delta. -/
theorem metaDelta_assetId (hasset : b.val .assetId = a.val .assetId) :
    (metaDelta a b f).val .assetId = "" := by
  have hsame : a.getChangedDataMask f b .assetId = false := by
    simp [AVMetaData.getChangedDataMask, FieldType.changed, hasset]
  unfold metaDelta AVMetaData.copyToByMask
  rw [AVMetaData.cloneKeys_val, hsame, Bool.and_false, if_neg Bool.false_ne_true]
  rfl

/-- The delta itself is refused. -/
theorem copyFrom_metaDelta (hasset : b.val .assetId = a.val .assetId) :
    a.copyFrom (metaDelta a b f) = (a, false) := by
  unfold AVMetaData.copyFrom
  rw [if_pos (metaDelta_assetId f hasset)]

/-- Two objects with the same members and lengths. -/
theorem AVMetaData.ext_of_record {m m' : AVMetaData} (h : m.toMaskedRecord = m'.toMaskedRecord)
    (hmedia : m.mediaLength = m'.mediaLength) (hqueue : m.avQueueLength = m'.avQueueLength) :
    m = m' := by
  obtain ⟨record, media, queue⟩ := m
  obtain ⟨record', media', queue'⟩ := m'
  simp_all

/-- What is set is there already. -/
theorem cloneKeys_of_same {c : AVMetaData} (h : ∀ k, b.mask k = true → c.mask k = true ∧
    c.val k = b.val k) : c.cloneKeys b b.mask = c := by
  refine AVMetaData.ext_of_record ?_ rfl rfl
  ext k
  · rw [AVMetaData.cloneKeys_mask]
    by_cases hk : b.mask k = true
    · simp [hk, h k hk]
    · simp [hk]
  · rw [AVMetaData.cloneKeys_val]
    split_ifs with hk
    · exact (h k hk).2.symm
    · rfl

/-- Copying twice is copying once. -/
theorem copyFrom_copyFrom : ((a.copyFrom b).1.copyFrom b).1 = (a.copyFrom b).1 := by
  by_cases hempty : b.val .assetId = ""
  · simp [AVMetaData.copyFrom, hempty]
  · have hasset : b.val .assetId = (a.copyFrom b).1.val .assetId := by
      rw [AVMetaData.copyFrom_val, if_neg hempty]
      split_ifs with h
      · rfl
      · exact not_not.mp (not_or.mp h).1
    have htwice : ((a.copyFrom b).1.copyFrom b).1 = (a.copyFrom b).1.cloneKeys b b.mask := by
      generalize (a.copyFrom b).1 = c at hasset ⊢
      unfold AVMetaData.copyFrom
      rw [if_neg hempty, if_neg (not_not.mpr hasset)]
    rw [htwice]
    apply cloneKeys_of_same
    intro k hk
    rw [AVMetaData.copyFrom_mask, AVMetaData.copyFrom_val]
    simp [hempty, hk]

/-- The delta has no member but those of the new object. -/
theorem metaDelta_eq : (metaDelta a b f).toMaskedRecord = b.toMaskedRecord.restrict
    MetaKey.initial (a.toMaskedRecord.difference (fun k => k.type.changed) b.toMaskedRecord f) :=
  AVMetaData.copyToByMask_init b _

/-- With the asset id, the delta is as good as the whole. -/
theorem metaLaws (hasset : b.val .assetId = a.val .assetId) (hne : b.val .assetId ≠ "")
    (hplain : b.Plain) : MetaLaws a b f ((metaDelta a b f).setAssetId (b.val .assetId)) := by
  have hset : b.mask .assetId = true := by
    by_contra hunset
    exact hne (hplain .assetId (by simpa using hunset))
  have hreceived : ((metaDelta a b f).setAssetId (b.val .assetId)).val .assetId =
      b.val .assetId := AVMetaData.set_val_self ..
  have hwhole := AVMetaData.copyFrom_of_asset hasset hne
  have hdelta := AVMetaData.copyFrom_of_asset (hreceived.trans hasset) (hreceived ▸ hne)
  have hother : ∀ k, k ≠ .assetId →
      ((metaDelta a b f).setAssetId (b.val .assetId)).val k = (metaDelta a b f).val k ∧
      ((metaDelta a b f).setAssetId (b.val .assetId)).mask k = (metaDelta a b f).mask k := by
    intro k hk
    exact ⟨AVMetaData.set_val_of_ne _ _ hk, AVMetaData.set_mask_of_ne _ _ hk⟩
  unfold MetaLaws
  rw [hwhole, hdelta]
  refine ⟨⟨?_, ?_, ?_, ?_, ?_⟩, copyFrom_copyFrom⟩
  · intro k hf hk
    by_cases hid : k = .assetId
    · subst hid
      left
      simp [AVMetaData.setAssetId, hk]
    · have hsame := MaskedRecord.same_merge_restrict MetaKey.initial
        (fun k => k.type.changed) f (a := a.toMaskedRecord) hf hk
      rw [← metaDelta_eq] at hsame
      simpa [hother k hid] using hsame
  · intro k hk
    have hid : k ≠ .assetId := by
      rintro rfl
      simp [hset] at hk
    apply MaskedRecord.merge_of_unset
    rw [(hother k hid).2, metaDelta_eq]
    exact MaskedRecord.restrict_of_unset hk
  · intro k hk
    exact MaskedRecord.merge_of_unset hk
  · intro k
    rw [metaDelta_eq]
    rfl
  · intro k
    rw [metaDelta_eq]
    rfl

/-- **The algebra of the masks.** For metadata of one asset, the delta alone is refused and leaves
everything; with the asset id set on it, as it is delivered, it has all the laws. The delta of two
playback states has them as it is. -/
theorem mask_algebra (a b : AVMetaData) (f : MetaKey → Bool) (s t : AVPlaybackState ω)
    (g : PlaybackKey → Bool) (hasset : b.val .assetId = a.val .assetId)
    (hne : b.val .assetId ≠ "") (hplain : b.Plain) :
    a.copyFrom (metaDelta a b f) = (a, false) ∧
    MetaLaws a b f ((metaDelta a b f).setAssetId (b.val .assetId)) ∧ StateLaws s t g :=
  ⟨copyFrom_metaDelta f hasset, metaLaws f hasset hne hplain, stateLaws s t g⟩

/-- A song without a title, and the same song with one. -/
def untitled : AVMetaData := AVMetaData.init.setAssetId "1"

/-- The titled object below is plain. -/
theorem plain_titled : (untitled.setTitle "song").Plain := by
  intro k hk
  cases k <;> first | rfl | exact absurd hk (by decide)

/-- An object without an asset id takes nothing, so that the laws are about the others. -/
theorem untitled_algebra :
    untitled.copyFrom (metaDelta untitled (untitled.setTitle "song") fun _ => true) =
        (untitled, false) ∧
      MetaLaws untitled (untitled.setTitle "song") (fun _ => true)
        ((metaDelta untitled (untitled.setTitle "song") fun _ => true).setAssetId "1") ∧
      StateLaws (AVPlaybackState.init : AVPlaybackState Unit)
        (AVPlaybackState.init.set .state (2 : ℤ)) fun _ => true :=
  mask_algebra _ _ _ _ _ _ rfl (by decide) plain_titled

/-- The delta of a song that gets a title is the title alone. It is refused, and the receiver has no
title. -/
theorem title_not_taken : ¬ ∀ (a b : AVMetaData) (f : MetaKey → Bool),
    b.val .assetId = a.val .assetId → b.val .assetId ≠ "" → b.Plain →
      MetaLaws a b f (metaDelta a b f) := by
  intro h
  obtain ⟨hlaws, -⟩ := h untitled (untitled.setTitle "song") (fun _ => true) rfl (by decide)
    plain_titled
  rcases hlaws.agree .title rfl rfl with hsame | hunchanged
  · exact absurd hsame (by decide)
  · exact absurd hunchanged (by decide)

end deltas

end AvSession.Meta
