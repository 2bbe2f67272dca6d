import AvSession.Lib.Run
import AvSession.Queue.Store
import Mathlib.Data.List.Nodup

/-!
# The playlists that were saved last

* `Tracked` — the store together with the calls that saved a playlist, the latest first.
* `QueueOrderly` — the array is bounded, has one record for each playlist, the latest first, and the
  file of each record holds the image that was saved with it.
* `ImagesOk` — the condition on a call: the image is written, and neither its file nor the one of
  the evicted record is the file of another record.
* `queueOrderly_iff` — the runs along which the queue history is orderly.
-/

namespace AvSession.Queue

open AvSession.Lib AvSession.Meta

/-! ## The records that stay -/

section records

variable {l : List AVQueueRecord} {k : String × String} {r : AVQueueRecord}

/-- The keys of the records. -/
def keys (l : List AVQueueRecord) : List (String × String) := l.filterMap AVQueueRecord.key

/-- The records that stay when the array may be full. -/
def retained (l : List AVQueueRecord) : List AVQueueRecord :=
  if maxAVQueueInfoLen ≤ l.length then l.dropLast else l

/-- The record that is evicted. -/
def evicted (l : List AVQueueRecord) : Option AVQueueRecord :=
  if maxAVQueueInfoLen ≤ l.length then l.getLast? else none

/-- What is retained stood there before. -/
theorem retained_sublist (l : List AVQueueRecord) : (retained l).Sublist l := by
  unfold retained
  split_ifs
  · exact List.dropLast_sublist l
  · exact List.Sublist.refl l

/-- After the eviction there is room for one record. -/
theorem length_retained (h : l.length ≤ maxAVQueueInfoLen) :
    (retained l).length < maxAVQueueInfoLen := by
  unfold retained
  split_ifs with hfull
  · rw [List.length_dropLast]
    unfold maxAVQueueInfoLen at *
    omega
  · omega

/-- The evicted record stood there before. -/
theorem mem_of_evicted (h : evicted l = some r) : r ∈ l := by
  unfold evicted at h
  split_ifs at h
  exact List.mem_of_getLast? h

/-- The eviction keeps the retained records. -/
theorem evictLast_valuesArray (s : QueueStore) :
    (evictLast s).valuesArray = retained s.valuesArray := by
  unfold evictLast retained
  split_ifs with hfull
  · cases hlast : s.valuesArray.getLast? with
    | some item => rfl
    | none =>
        rw [List.getLast?_eq_none_iff.mp hlast]
        rfl
  · rfl

/-- The eviction deletes the image of the evicted record. -/
theorem evictLast_files (s : QueueStore) :
    (evictLast s).files =
      match evicted s.valuesArray with
      | some item => deleteAVQueueImage s.files item
      | none => s.files := by
  unfold evictLast evicted
  split_ifs with hfull
  · cases s.valuesArray.getLast? <;> rfl
  · rfl

/-- Fewer records have fewer keys. -/
theorem keys_sublist {l' : List AVQueueRecord} (h : l'.Sublist l) :
    (keys l').Sublist (keys l) := h.filterMap _

/-- The keys are those of the records. -/
theorem mem_keys : k ∈ keys l ↔ ∃ r ∈ l, r.key = some k := List.mem_filterMap

/-- The other records have other keys. -/
theorem key_ne_of_mem_others (hr : r ∈ others k l) : r.key ≠ some k :=
  of_decide_eq_true (List.mem_filter.mp hr).2

end records

/-! ## Runs -/

section runs

/-- A call: the bundle key and the metadata of the playlist. -/
structure QueueSave where
  bundleName : String
  metaData : AVMetaData

/-- The playlist of a call. -/
def QueueSave.key (op : QueueSave) : String × String :=
  (op.bundleName, op.metaData.val .avQueueId)

/-- The image of a call: a pixel map without bytes is none. -/
def QueueSave.image (op : QueueSave) : Option Image :=
  (op.metaData.val .avQueueImage).filter (· ≠ [])

/-- The store, and the calls that saved a playlist, the latest first. -/
structure Tracked where
  store : QueueStore
  saves : List ((String × String) × Option Image)

/-- The start. -/
def Tracked.init : Tracked := ⟨QueueStore.init, []⟩

/-- The image that was saved last with a playlist. -/
def Tracked.lastImage (t : Tracked) (k : String × String) : Option Image :=
  (t.saves.lookup k).join

variable (opens : String → Bool) (userId : ℤ)

/-- The store and the calls after a call. -/
def Tracked.step (t : Tracked) (op : QueueSave) : Tracked :=
  let result := saveAvQueueInfo opens userId op.bundleName op.metaData t.store
  { store := result.1
    saves := if result.2 then (op.key, op.image) :: t.saves else t.saves }

/-- The path of the file of a playlist. -/
def keyPath (k : String × String) : String := queueFilePath userId k.1 k.2

/-- What holds of the array between two calls. -/
structure QueueOrderly (t : Tracked) : Prop where
  length : t.store.valuesArray.length ≤ maxAVQueueInfoLen
  nodup : (keys t.store.valuesArray).Nodup
  recent : (keys t.store.valuesArray).Pairwise fun k k' =>
    (t.saves.map Prod.fst).idxOf k < (t.saves.map Prod.fst).idxOf k'
  image : ∀ r ∈ t.store.valuesArray, ∀ k, r.key = some k → ∀ image, t.lastImage k = some image →
    ∃ path, r.imagePath = some path ∧ t.store.files path = some image

/-- The condition on a call, unless the playlist has the first record. The image is small enough and
its file can be opened. For every record that stays and has an image: if its file has the name that
is written, the image is the same; and if its file has the name of the evicted record, it is written
again, with the same image. -/
def ImagesOk (t : Tracked) (op : QueueSave) : Prop :=
  t.store.valuesArray.head?.bind AVQueueRecord.key = some op.key ∨
    (∀ image, op.image = some image →
      image.length ≤ maxFileSize ∧ opens (keyPath userId op.key)) ∧
    ∀ r ∈ retained (others op.key t.store.valuesArray), ∀ k, r.key = some k →
      ∀ image, t.lastImage k = some image →
        (keyPath userId k = keyPath userId op.key → ∀ new, op.image = some new → new = image) ∧
        ∀ e, evicted (others op.key t.store.valuesArray) = some e → ∀ k', e.key = some k' →
          keyPath userId k' = keyPath userId k →
            keyPath userId k = keyPath userId op.key ∧ op.image = some image

/-- What holds of the records and of the files along every run. -/
structure QueueInv (t : Tracked) : Prop where
  record : ∀ r ∈ t.store.valuesArray, ∃ k, r.key = some k ∧ r.imagePath = some (keyPath userId k)
  file : Holds opens t.store.files

variable {opens userId} {t : Tracked} {op : QueueSave}

/-- What a write takes: the image of the call, if it is small enough and its file can be opened. -/
theorem writes_iff {buffer : Image} {path : String} :
    Writes opens (op.metaData.val .avQueueImage) path buffer ↔
      op.image = some buffer ∧ buffer.length ≤ maxFileSize ∧ opens path := by
  unfold Writes QueueSave.image Writable
  rw [Option.filter_eq_some_iff]
  simp only [decide_eq_true_eq]
  tauto

/-- A call that is refused changes nothing. -/
theorem step_of_refused
    (h : t.store.valuesArray.head?.bind AVQueueRecord.key = some op.key) :
    t.step opens userId op = t := by
  have hrefused : saveAvQueueInfo opens userId op.bundleName op.metaData t.store =
      (t.store, false) := if_pos h
  unfold Tracked.step
  rw [hrefused]
  rfl

section saved

variable (h : t.store.valuesArray.head?.bind AVQueueRecord.key ≠ some op.key)
include h

/-- A save with a known key first removes the old record and evicts where it must. -/
theorem saveAvQueueInfo_of_saved :
    saveAvQueueInfo opens userId op.bundleName op.metaData t.store =
      (insertAvQueueInfoToCJSONAndPrint opens userId op.bundleName op.metaData
        (evictLast ⟨t.store.files, others op.key t.store.valuesArray⟩), true) := if_neg h

/-- Every save is noted. -/
theorem step_saves : (t.step opens userId op).saves = (op.key, op.image) :: t.saves := by
  unfold Tracked.step
  rw [saveAvQueueInfo_of_saved h]
  rfl

/-- A save puts its record in front of the other retained ones. -/
theorem step_valuesArray : (t.step opens userId op).store.valuesArray =
    newRecord userId op.bundleName op.metaData ::
      retained (others op.key t.store.valuesArray) := by
  unfold Tracked.step
  rw [saveAvQueueInfo_of_saved h]
  exact congrArg _ (evictLast_valuesArray _)

/-- A save writes its image after the eviction. -/
theorem step_files : (t.step opens userId op).store.files =
    writeImageToFile opens
      (evictLast ⟨t.store.files, others op.key t.store.valuesArray⟩).files
      (op.metaData.val .avQueueImage) (keyPath userId op.key) := by
  unfold Tracked.step
  rw [saveAvQueueInfo_of_saved h]
  rfl

/-- The last image of a key is that of its last save. -/
theorem lastImage_step (k : String × String) : (t.step opens userId op).lastImage k =
    if k = op.key then op.image else t.lastImage k := by
  unfold Tracked.lastImage
  rw [step_saves h, List.lookup_cons]
  by_cases hk : k = op.key
  · simp [hk]
  · rw [if_neg hk, beq_false_of_ne hk]

end saved

/-- The files after the eviction: the one of the evicted record is gone. -/
theorem files_evictLast {s : QueueStore}
    (hrecord : ∀ r ∈ s.valuesArray, ∃ k, r.key = some k ∧ r.imagePath = some (keyPath userId k))
    (path : String) : (evictLast s).files path =
      if ∃ e, evicted s.valuesArray = some e ∧ ∃ k, e.key = some k ∧ keyPath userId k = path then
        none
      else s.files path := by
  rw [evictLast_files]
  cases hevicted : evicted s.valuesArray with
  | none => simp
  | some e =>
      obtain ⟨k, hkey, hpath⟩ := hrecord e (mem_of_evicted hevicted)
      unfold deleteAVQueueImage
      simp only [hpath, Option.some.injEq, exists_eq_left', hkey]
      by_cases hk : keyPath userId k = path
      · rw [if_pos hk, ← hk]
        exact deleteFile_self
      · rw [if_neg hk]
        exact deleteFile_of_ne (Ne.symm hk)

/-- Every save keeps the invariant. -/
theorem QueueInv.step (h : QueueInv opens userId t) (op : QueueSave) :
    QueueInv opens userId (t.step opens userId op) := by
  by_cases hfirst : t.store.valuesArray.head?.bind AVQueueRecord.key = some op.key
  · rw [step_of_refused hfirst]
    exact h
  · refine ⟨fun r hr => ?_, ?_⟩
    · rw [step_valuesArray hfirst] at hr
      rcases List.mem_cons.mp hr with rfl | hr
      · exact ⟨op.key, rfl, rfl⟩
      · exact h.record r (List.mem_of_mem_filter ((retained_sublist _).subset hr))
    · rw [step_files hfirst]
      have hevict : Holds opens
          (evictLast ⟨t.store.files, others op.key t.store.valuesArray⟩).files :=
        Holds.evictLast h.file
      exact hevict.writeImageToFile _ _

/-- A saved record has another key than the ones that stay. -/
theorem key_ne_of_mem_retained {l : List AVQueueRecord} {k : String × String} {r : AVQueueRecord}
    (hr : r ∈ retained (others k l)) : r.key ≠ some k :=
  key_ne_of_mem_others ((retained_sublist _).subset hr)

/-- The file that a call writes. -/
theorem step_files_of_writes {new : Image}
    (hfirst : t.store.valuesArray.head?.bind AVQueueRecord.key ≠ some op.key)
    (hnew : Writes opens (op.metaData.val .avQueueImage) (keyPath userId op.key) new) :
    (t.step opens userId op).store.files (keyPath userId op.key) = some new := by
  rw [step_files hfirst, writeImageToFile_of_writes hnew, Function.update_self]

/-- A file that a call does not write: it stays, unless it is the one of the evicted record. -/
theorem step_files_of_not_writes (h : QueueInv opens userId t)
    (hfirst : t.store.valuesArray.head?.bind AVQueueRecord.key ≠ some op.key) {path : String}
    (hnot : path = keyPath userId op.key →
      ∀ new, ¬ Writes opens (op.metaData.val .avQueueImage) path new) {image : Image} :
    (t.step opens userId op).store.files path = some image ↔
      t.store.files path = some image ∧
        ∀ e, evicted (others op.key t.store.valuesArray) = some e → ∀ k, e.key = some k →
          keyPath userId k ≠ path := by
  have hrecord : ∀ r ∈ others op.key t.store.valuesArray,
      ∃ k, r.key = some k ∧ r.imagePath = some (keyPath userId k) :=
    fun r hr => h.record r (List.mem_of_mem_filter hr)
  have hkeep : (t.step opens userId op).store.files path =
      (evictLast ⟨t.store.files, others op.key t.store.valuesArray⟩).files path := by
    rw [step_files hfirst]
    by_cases hpath : path = keyPath userId op.key
    · rw [writeImageToFile_of_not_writes (hpath ▸ hnot hpath)]
    · exact writeImageToFile_of_ne hpath
  rw [hkeep, files_evictLast hrecord]
  split_ifs with hevicted
  · obtain ⟨e, he, k, hk, hpath⟩ := hevicted
    simp only [false_iff]
    exact fun hall => hall.2 e he k hk hpath
  · refine (and_iff_left fun e he k hk hpath => ?_).symm
    exact hevicted ⟨e, he, k, hk, hpath⟩

/-- The bound, the keys and their order never break. -/
theorem QueueOrderly.order_step (opens : String → Bool) (userId : ℤ) (h : QueueOrderly t)
    (op : QueueSave) :
    (t.step opens userId op).store.valuesArray.length ≤ maxAVQueueInfoLen ∧
      (keys (t.step opens userId op).store.valuesArray).Nodup ∧
      (keys (t.step opens userId op).store.valuesArray).Pairwise fun k k' =>
        ((t.step opens userId op).saves.map Prod.fst).idxOf k <
          ((t.step opens userId op).saves.map Prod.fst).idxOf k' := by
  by_cases hfirst : t.store.valuesArray.head?.bind AVQueueRecord.key = some op.key
  · rw [step_of_refused hfirst]
    exact ⟨h.length, h.nodup, h.recent⟩
  · have hsub : (keys (retained (others op.key t.store.valuesArray))).Sublist
        (keys t.store.valuesArray) :=
      keys_sublist ((retained_sublist _).trans List.filter_sublist)
    have hnot : ∀ k ∈ keys (retained (others op.key t.store.valuesArray)), k ≠ op.key := by
      rintro k hk rfl
      obtain ⟨r, hr, hkey⟩ := mem_keys.mp hk
      exact key_ne_of_mem_retained hr hkey
    have hlength : (others op.key t.store.valuesArray).length ≤ maxAVQueueInfoLen :=
      (List.length_filter_le _ _).trans h.length
    rw [step_valuesArray hfirst, step_saves hfirst]
    have hkeys : keys (newRecord userId op.bundleName op.metaData ::
        retained (others op.key t.store.valuesArray)) =
          op.key :: keys (retained (others op.key t.store.valuesArray)) := rfl
    rw [hkeys, List.map_cons, List.length_cons]
    refine ⟨length_retained hlength, List.nodup_cons.mpr ⟨fun hk => hnot _ hk rfl,
      h.nodup.sublist hsub⟩, List.pairwise_cons.mpr ⟨fun k hk => ?_, ?_⟩⟩
    · rw [List.idxOf_cons_self, List.idxOf_cons_ne _ (Ne.symm (hnot k hk))]
      exact Nat.succ_pos _
    · refine (h.recent.sublist hsub).imp_of_mem fun hk hk' hlt => ?_
      rw [List.idxOf_cons_ne _ (Ne.symm (hnot _ hk)), List.idxOf_cons_ne _ (Ne.symm (hnot _ hk'))]
      exact Nat.succ_lt_succ hlt

/-- What a call has to keep: the image of its own playlist, and those of the records that stay. -/
theorem queueOrderly_step_iff_files (hinv : QueueInv opens userId t) (h : QueueOrderly t)
    (hfirst : t.store.valuesArray.head?.bind AVQueueRecord.key ≠ some op.key) :
    QueueOrderly (t.step opens userId op) ↔
      (∀ image, op.image = some image →
        (t.step opens userId op).store.files (keyPath userId op.key) = some image) ∧
      ∀ r ∈ retained (others op.key t.store.valuesArray), ∀ k, r.key = some k →
        ∀ image, t.lastImage k = some image →
          (t.step opens userId op).store.files (keyPath userId k) = some image := by
  have hlast : ∀ k, k ≠ op.key → (t.step opens userId op).lastImage k = t.lastImage k :=
    fun k hk => (lastImage_step hfirst k).trans (if_neg hk)
  have hnew : (t.step opens userId op).lastImage op.key = op.image :=
    (lastImage_step hfirst op.key).trans (if_pos rfl)
  constructor
  · intro hstep
    have himage := hstep.image
    rw [step_valuesArray hfirst] at himage
    refine ⟨fun image hsome => ?_, fun r hr k hkey image hsome => ?_⟩
    · obtain ⟨path, hpath, hfile⟩ :=
        himage _ List.mem_cons_self op.key rfl image (hnew.trans hsome)
      cases hpath
      exact hfile
    · have hk : k ≠ op.key := fun heq => key_ne_of_mem_retained hr (heq ▸ hkey)
      obtain ⟨path, hpath, hfile⟩ :=
        himage r (List.mem_cons_of_mem _ hr) k hkey image ((hlast k hk).trans hsome)
      obtain ⟨k', hkey', hpath'⟩ :=
        hinv.record r (List.mem_of_mem_filter ((retained_sublist _).subset hr))
      obtain rfl : k = k' := Option.some.inj (hkey.symm.trans hkey')
      obtain rfl : path = keyPath userId k := Option.some.inj (hpath.symm.trans hpath')
      exact hfile
  · rintro ⟨hown, hothers⟩
    obtain ⟨hlength, hnodup, hrecent⟩ := h.order_step opens userId op
    refine ⟨hlength, hnodup, hrecent, fun r hr k hkey image hsome => ?_⟩
    rw [step_valuesArray hfirst] at hr
    rcases List.mem_cons.mp hr with rfl | hr
    · obtain rfl : op.key = k := Option.some.inj hkey
      exact ⟨_, rfl, hown image (hnew.symm.trans hsome)⟩
    · have hk : k ≠ op.key := fun heq => key_ne_of_mem_retained hr (heq ▸ hkey)
      obtain ⟨k', hkey', hpath'⟩ :=
        hinv.record r (List.mem_of_mem_filter ((retained_sublist _).subset hr))
      obtain rfl : k = k' := Option.some.inj (hkey.symm.trans hkey')
      exact ⟨_, hpath', hothers r hr k hkey image ((hlast k hk).symm.trans hsome)⟩

/-- A call keeps the images exactly under the condition. -/
theorem queueOrderly_step_iff (hinv : QueueInv opens userId t) (h : QueueOrderly t)
    (op : QueueSave) :
    QueueOrderly (t.step opens userId op) ↔ ImagesOk opens userId t op := by
  by_cases hfirst : t.store.valuesArray.head?.bind AVQueueRecord.key = some op.key
  · rw [step_of_refused hfirst]
    exact iff_of_true h (Or.inl hfirst)
  · rw [queueOrderly_step_iff_files hinv h hfirst]
    unfold ImagesOk
    rw [or_iff_right hfirst]
    have hfile : ∀ r ∈ retained (others op.key t.store.valuesArray), ∀ k, r.key = some k →
        ∀ image, t.lastImage k = some image → t.store.files (keyPath userId k) = some image := by
      intro r hr k hkey image hsome
      have hmem := List.mem_of_mem_filter ((retained_sublist _).subset hr)
      obtain ⟨path, hpath, hfile⟩ := h.image r hmem k hkey image hsome
      obtain ⟨k', hkey', hpath'⟩ := hinv.record r hmem
      obtain rfl : k = k' := Option.some.inj (hkey.symm.trans hkey')
      obtain rfl : path = keyPath userId k := Option.some.inj (hpath.symm.trans hpath')
      exact hfile
    have hown : (∀ image, op.image = some image →
        (t.step opens userId op).store.files (keyPath userId op.key) = some image) ↔
          ∀ image, op.image = some image →
            image.length ≤ maxFileSize ∧ opens (keyPath userId op.key) := by
      refine forall₂_congr fun image hsome => ?_
      constructor
      · intro hstep
        obtain ⟨hwritable, hopens⟩ := (hinv.step op).file _ _ hstep
        exact ⟨hwritable.2, hopens⟩
      · exact fun hok => step_files_of_writes hfirst (writes_iff.mpr ⟨hsome, hok⟩)
    rw [hown]
    refine and_congr_right fun hok => forall₂_congr fun r hr => forall₂_congr fun k hkey =>
      forall₂_congr fun image hsome => ?_
    by_cases hwritten : keyPath userId k = keyPath userId op.key ∧ ∃ new, op.image = some new
    · obtain ⟨hpath, new, hnew⟩ := hwritten
      rw [hpath, step_files_of_writes hfirst (writes_iff.mpr ⟨hnew, hok new hnew⟩), hnew]
      simp only [Option.some.injEq, true_imp_iff, forall_eq', true_and]
      constructor
      · rintro rfl
        exact ⟨rfl, fun _ _ _ _ _ => rfl⟩
      · exact fun h => h.1
    · have hnot : keyPath userId k = keyPath userId op.key →
          ∀ new, ¬ Writes opens (op.metaData.val .avQueueImage) (keyPath userId k) new :=
        fun hpath new hnew => hwritten ⟨hpath, new, (writes_iff.mp hnew).1⟩
      rw [step_files_of_not_writes hinv hfirst hnot, and_iff_right (hfile r hr k hkey image hsome)]
      constructor
      · intro hkeep
        refine ⟨fun hpath new hnew => absurd ⟨hpath, new, hnew⟩ hwritten, ?_⟩
        exact fun e he k' hk' hpath => absurd hpath (hkeep e he k' hk')
      · intro hcond e he k' hk' hpath
        obtain ⟨hsame, hnew⟩ := hcond.2 e he k' hk' hpath
        exact hwritten ⟨hsame, image, hnew⟩

/-- **The queue history.** Along a run from the empty array the queue history is orderly in every
state exactly if every call of the run meets the condition. -/
theorem queueOrderly_iff (opens : String → Bool) (userId : ℤ) (ops : List QueueSave) :
    Always (Tracked.step opens userId) QueueOrderly Tracked.init ops ↔
      Meets (Tracked.step opens userId) (ImagesOk opens userId) Tracked.init ops := by
  refine always_iff_meets_of_inv (I := QueueInv opens userId) (fun _ op h => h.step op)
    (fun _ op hinv h => queueOrderly_step_iff hinv h op) ops ?_ ?_
  · exact ⟨fun _ hr => absurd hr List.not_mem_nil, fun _ _ hfile => by cases hfile⟩
  · exact ⟨Nat.zero_le _, List.nodup_nil, List.Pairwise.nil, fun _ hr => absurd hr List.not_mem_nil⟩

/-- A call with an image of one byte. -/
def oneByte (bundleName avQueueId : String) (byte : UInt8) : QueueSave :=
  ⟨bundleName, (AVMetaData.init.setAVQueueId avQueueId).setAVQueueImage (some [byte])⟩

/-- Two playlists have files of the same name: the second one overwrites the image of the first. -/
theorem image_overwritten_for_same_name :
    ¬ Always (Tracked.step (fun _ => true) 100) QueueOrderly Tracked.init
      [oneByte "a" "b_c" 1, oneByte "a_b" "c" 2] := by
  intro h
  obtain ⟨path, hpath, hfile⟩ := h.last.image (newRecord 100 "a" (oneByte "a" "b_c" 1).metaData)
    (by decide) ("a", "b_c") rfl [1] (by decide)
  obtain rfl := Option.some.inj hpath
  exact absurd hfile (by decide)

end runs

end AvSession.Queue
