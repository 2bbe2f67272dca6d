import AvSession.History.Records
import AvSession.Queue.Recent

/-!
# What is left of a bundle that is uninstalled

Two loops from the end of an array delete the records of a bundle. The one over the history stops at
the first record that it deletes; the one over the playlists goes on, and deletes the image of each
record that it deletes.

* `deleteAVQueueInfoRecordFromCJSON` — the loop over the playlists; that over the history is
  `deleteHistoricalRecord`.
* `HistoryErased`, `QueueErased` — no record of the bundle is left, the others are, and the images
  are deleted of those records alone.
* `deleteRecords_files` — the paths that are deleted are made anew from the ids of the records.
* `uninstall_iff` — when nothing is left of the bundle.
* `ownPaths_iff_of_saved` — the same of playlists that the service itself has saved.
-/

namespace AvSession.History

open AvSession.Lib AvSession.Queue

/-! ## The loop over the playlists -/

section loop

/-- The loop from the end of the array. The path is made from the id of the record.
Source: `AVSessionService::DeleteAVQueueInfoRecordFromCJSON` -/
def deleteRecords (userId : ℤ) (bundleName : String) (files : Files) :
    List AVQueueRecord → QueueStore
  | [] => ⟨files, []⟩
  | item :: items =>
      let s := deleteRecords userId bundleName files items
      if item.bundleName = some bundleName then
        match item.avQueueId with
        | some avQueueId => ⟨deleteFile s.files (queueFilePath userId bundleName avQueueId),
            s.valuesArray⟩
        | none => ⟨s.files, item :: s.valuesArray⟩
      else ⟨s.files, item :: s.valuesArray⟩

/-- Source: `AVSessionService::DeleteAVQueueInfoRecordFromCJSON` -/
def deleteAVQueueInfoRecordFromCJSON (userId : ℤ) (bundleName : String) (s : QueueStore) :
    QueueStore := deleteRecords userId bundleName s.files s.valuesArray

/-- The paths that the loop deletes: one for each id in a record of the bundle. -/
def queuePaths (userId : ℤ) (bundleName : String) (l : List AVQueueRecord) : List String :=
  l.filterMap fun item =>
    if item.bundleName = some bundleName then
      item.avQueueId.map (queueFilePath userId bundleName)
    else none

variable {userId : ℤ} {bundleName path : String} {files : Files} {item : AVQueueRecord}
  {l : List AVQueueRecord}

/-- The paths are those of the bundle's queues. -/
theorem mem_queuePaths : path ∈ queuePaths userId bundleName l ↔
    ∃ item ∈ l, item.bundleName = some bundleName ∧
      ∃ avQueueId, item.avQueueId = some avQueueId ∧
        queueFilePath userId bundleName avQueueId = path := by
  simp [queuePaths]

/-- A record of the bundle with an id is deleted, with the file of its id; others stay. -/
theorem deleteRecords_cases (userId : ℤ) (bundleName : String) (files : Files)
    (item : AVQueueRecord) (l : List AVQueueRecord) :
    (∃ avQueueId, item.bundleName = some bundleName ∧ item.avQueueId = some avQueueId ∧
      queuePaths userId bundleName (item :: l) =
        queueFilePath userId bundleName avQueueId :: queuePaths userId bundleName l ∧
      deleteRecords userId bundleName files (item :: l) =
        ⟨deleteFile (deleteRecords userId bundleName files l).files
            (queueFilePath userId bundleName avQueueId),
          (deleteRecords userId bundleName files l).valuesArray⟩) ∨
    ((item.bundleName = some bundleName → item.avQueueId = none) ∧
      queuePaths userId bundleName (item :: l) = queuePaths userId bundleName l ∧
      deleteRecords userId bundleName files (item :: l) =
        ⟨(deleteRecords userId bundleName files l).files,
          item :: (deleteRecords userId bundleName files l).valuesArray⟩) := by
  by_cases hbundle : item.bundleName = some bundleName
  · cases hid : item.avQueueId with
    | none => exact .inr (by simp [queuePaths, deleteRecords, hid])
    | some avQueueId => exact .inl ⟨avQueueId, by simp [queuePaths, deleteRecords, hbundle, hid]⟩
  · exact .inr (by simp [queuePaths, deleteRecords, hbundle])

/-- Whether a record stays. -/
def stays (bundleName : String) (item : AVQueueRecord) : Bool :=
  item.bundleName = some bundleName → item.avQueueId = none

/-- The other bundles' records stay. -/
theorem deleteRecords_valuesArray (userId : ℤ) (bundleName : String) (files : Files)
    (l : List AVQueueRecord) :
    (deleteRecords userId bundleName files l).valuesArray = l.filter (stays bundleName) := by
  induction l with
  | nil => rfl
  | cons item l ih =>
      obtain ⟨avQueueId, hbundle, hid, -, hdelete⟩ | ⟨hstays, -, hdelete⟩ :=
        deleteRecords_cases userId bundleName files item l
      · rw [hdelete, List.filter_cons_of_neg (by simp [stays, hbundle, hid])]
        exact ih
      · have hpos : stays bundleName item = true := decide_eq_true hstays
        rw [hdelete, List.filter_cons_of_pos hpos]
        exact congrArg (item :: ·) ih

/-- The files at these paths are deleted, and no others. -/
theorem deleteRecords_files (userId : ℤ) (bundleName : String) (files : Files)
    (l : List AVQueueRecord) (path : String) :
    (deleteRecords userId bundleName files l).files path =
      if path ∈ queuePaths userId bundleName l then none else files path := by
  induction l with
  | nil => rfl
  | cons item l ih =>
      obtain ⟨avQueueId, -, -, hpaths, hdelete⟩ | ⟨-, hpaths, hdelete⟩ :=
        deleteRecords_cases userId bundleName files item l
      · rw [hdelete, hpaths]
        by_cases hpath : path = queueFilePath userId bundleName avQueueId
        · rw [if_pos (hpath ▸ List.mem_cons_self), hpath]
          exact deleteFile_self
        · simp only [List.mem_cons, hpath, false_or]
          exact (deleteFile_of_ne hpath).trans ih
      · rw [hdelete, hpaths]
        exact ih

end loop

/-! ## What is left -/

section left

/-- No record of the bundle is left, and the others are, in their order. -/
def HistoryErased (bundleName : String) (l l' : List HistoryRecord) : Prop :=
  l' = l.filter fun r => r.bundleName ≠ some bundleName

/-- The same of the playlists, and the image of every record that is removed is deleted, as it was
named when the record was saved, and that of no record that is kept. -/
structure QueueErased (bundleName : String) (s s' : QueueStore) : Prop where
  records : s'.valuesArray = s.valuesArray.filter fun r => r.bundleName ≠ some bundleName
  removed : ∀ r ∈ s.valuesArray, r.bundleName = some bundleName →
    ∀ path, r.imagePath = some path → s'.files path = none
  kept : ∀ r ∈ s.valuesArray, r.bundleName ≠ some bundleName →
    ∀ path, r.imagePath = some path → s'.files path = s.files path

/-- The bundle has at most one record, and an ability is in it. -/
def OneAbility (bundleName : String) (l : List HistoryRecord) : Prop :=
  (∀ r ∈ l, r.bundleName = some bundleName → r.abilityName ≠ none) ∧
    l.countP (·.bundleName = some bundleName) ≤ 1

/-- Every record of the bundle has an id, and a path that one of these ids makes is where the images
of its records are, and where no image of another record is. -/
structure OwnPaths (userId : ℤ) (bundleName : String) (s : QueueStore) : Prop where
  ids : ∀ r ∈ s.valuesArray, r.bundleName = some bundleName → r.avQueueId ≠ none
  removed : ∀ r ∈ s.valuesArray, r.bundleName = some bundleName → ∀ path,
    r.imagePath = some path → path ∈ queuePaths userId bundleName s.valuesArray ∨
      s.files path = none
  kept : ∀ r ∈ s.valuesArray, r.bundleName ≠ some bundleName → ∀ path,
    r.imagePath = some path → path ∉ queuePaths userId bundleName s.valuesArray ∨
      s.files path = none

variable {userId : ℤ} {bundleName : String} {l : List HistoryRecord} {s : QueueStore}

/-- A record's bundle is that of its key. -/
theorem key_bundleName {r : HistoryRecord} : r.key.map Prod.fst = some bundleName ↔
    r.bundleName = some bundleName ∧ r.abilityName ≠ none := by
  unfold HistoryRecord.key
  cases r.bundleName <;> cases r.abilityName <;> simp

/-- The loop over the history removes one record. -/
theorem historyErased_iff (bundleName : String) (l : List HistoryRecord) :
    HistoryErased bundleName l (deleteHistoricalRecord bundleName l) ↔
      OneAbility bundleName l := by
  have herase := eraseLast_eq_filter_iff (l := l)
    (p := fun r : HistoryRecord => decide (r.key.map Prod.fst = some bundleName))
    (q := fun r => decide (r.bundleName = some bundleName)) fun r hr => by
      rw [decide_eq_true_eq, key_bundleName] at hr
      exact decide_eq_true hr.1
  simp only [decide_eq_true_eq, key_bundleName] at herase
  unfold HistoryErased OneAbility deleteHistoricalRecord
  simp only [key_bundleName, decide_not]
  rw [herase]
  refine and_congr_left fun _ => ?_
  constructor
  · intro h r hr hbundle
    exact (h r hr hbundle).2
  · intro h r hr hbundle
    exact ⟨hbundle, h r hr hbundle⟩

/-- The loop over the playlists keeps a record of the bundle only if it has no id. -/
theorem filter_stays_iff (bundleName : String) (l : List AVQueueRecord) :
    l.filter (stays bundleName) = l.filter (fun r => r.bundleName ≠ some bundleName) ↔
      ∀ r ∈ l, r.bundleName = some bundleName → r.avQueueId ≠ none := by
  constructor
  · intro h r hr hbundle hid
    have hmem : r ∈ l.filter (stays bundleName) :=
      List.mem_filter.mpr ⟨hr, decide_eq_true fun _ => hid⟩
    rw [h] at hmem
    exact of_decide_eq_true (List.mem_filter.mp hmem).2 hbundle
  · intro h
    apply List.filter_congr
    intro r hr
    unfold stays
    rw [decide_eq_decide]
    exact ⟨fun hstays hbundle => h r hr hbundle (hstays hbundle), fun hne hbundle =>
      absurd hbundle hne⟩

/-- The loop over the playlists deletes what it should if the paths are those of the records. -/
theorem queueErased_iff (userId : ℤ) (bundleName : String) (s : QueueStore) :
    QueueErased bundleName s (deleteAVQueueInfoRecordFromCJSON userId bundleName s) ↔
      OwnPaths userId bundleName s := by
  have hfiles := deleteRecords_files userId bundleName s.files s.valuesArray
  have hrecords := deleteRecords_valuesArray userId bundleName s.files s.valuesArray
  have hgone : ∀ path, (deleteRecords userId bundleName s.files s.valuesArray).files path = none ↔
      path ∈ queuePaths userId bundleName s.valuesArray ∨ s.files path = none := by
    intro path
    rw [hfiles]
    split_ifs with hpath <;> simp [hpath]
  have hsame : ∀ path, (deleteRecords userId bundleName s.files s.valuesArray).files path =
      s.files path ↔ path ∉ queuePaths userId bundleName s.valuesArray ∨ s.files path = none := by
    intro path
    rw [hfiles]
    split_ifs with hpath <;> simp [hpath, eq_comm]
  constructor
  · rintro ⟨hall, hremoved, hkept⟩
    refine ⟨(filter_stays_iff _ _).mp (hrecords.symm.trans hall), ?_, ?_⟩
    · intro r hr hbundle path hpath
      exact (hgone path).mp (hremoved r hr hbundle path hpath)
    · intro r hr hbundle path hpath
      exact (hsame path).mp (hkept r hr hbundle path hpath)
  · rintro ⟨hids, hremoved, hkept⟩
    refine ⟨hrecords.trans ((filter_stays_iff _ _).mpr hids), ?_, ?_⟩
    · intro r hr hbundle path hpath
      exact (hgone path).mpr (hremoved r hr hbundle path hpath)
    · intro r hr hbundle path hpath
      exact (hsame path).mpr (hkept r hr hbundle path hpath)

/-- **What is left of a bundle.** Of every history and every playlist array: nothing is left of the
bundle in the history exactly if it has at most one record, with an ability; and the playlists and
their images are gone, and no others, exactly if each of its records has an id and the paths that
the ids make are where the images of its records are, and of no other record. -/
theorem uninstall_iff (userId : ℤ) (bundleName : String) (l : List HistoryRecord)
    (s : QueueStore) :
    (HistoryErased bundleName l (deleteHistoricalRecord bundleName l) ↔
      OneAbility bundleName l) ∧
    (QueueErased bundleName s (deleteAVQueueInfoRecordFromCJSON userId bundleName s) ↔
      OwnPaths userId bundleName s) :=
  ⟨historyErased_iff bundleName l, queueErased_iff userId bundleName s⟩

/-- A record of an ability of an application. -/
def abilityRecord (bundleName : String) (abilityName : Option String) : HistoryRecord :=
  ⟨some "1", some bundleName, abilityName, some "audio", some "player"⟩

/-- A record of a playlist with its image. -/
def playlistRecord (bundleName : String) (avQueueId : Option String) : AVQueueRecord :=
  ⟨some bundleName, some "favourites", avQueueId, some (getFixedPathName 100),
    avQueueId.map (queueFileName bundleName), some ""⟩

/-- The playlist `1` of the bundle `a_b` and the playlist `b_1` of the bundle `a` share a path. -/
def sharedPath : QueueStore where
  files := fun path => if path = queueFilePath 100 "a_b" "1" then some [1] else none
  valuesArray := [playlistRecord "a_b" (some "1"), playlistRecord "a" (some "b_1")]

/-- A second ability stays, a record without an ability or an id stays, and the image of another
bundle is deleted. -/
theorem secondAbility_kept :
    ¬ HistoryErased "a" [abilityRecord "a" (some "Main"), abilityRecord "a" (some "Lyrics")]
        (deleteHistoricalRecord "a"
          [abilityRecord "a" (some "Main"), abilityRecord "a" (some "Lyrics")]) ∧
      ¬ HistoryErased "a" [abilityRecord "a" none]
        (deleteHistoricalRecord "a" [abilityRecord "a" none]) ∧
      ¬ QueueErased "a" ⟨fun _ => none, [playlistRecord "a" none]⟩
        (deleteAVQueueInfoRecordFromCJSON 100 "a" ⟨fun _ => none, [playlistRecord "a" none]⟩) ∧
      ¬ QueueErased "a" sharedPath (deleteAVQueueInfoRecordFromCJSON 100 "a" sharedPath) := by
  refine ⟨?_, ?_, fun h => ?_, fun h => ?_⟩
  · unfold HistoryErased
    decide
  · unfold HistoryErased
    decide
  · exact absurd h.records (by decide)
  · have hkept := h.kept (playlistRecord "a_b" (some "1")) (by simp [sharedPath]) (by decide)
      (queueFilePath 100 "a_b" "1") (by decide)
    exact absurd hkept (by decide)

end left

/-! ## Playlists that the service has saved -/

section saved

variable {opens : String → Bool} {userId : ℤ} {t : Queue.Tracked}

/-- Of playlists that the service has saved nothing is left, and the images of the other bundles
stay if none is at a path of the bundle. -/
theorem ownPaths_iff_of_saved (h : QueueInv opens userId t) (bundleName : String) :
    OwnPaths userId bundleName t.store ↔
      ∀ k ∈ Queue.keys t.store.valuesArray, k.1 ≠ bundleName →
        keyPath userId k ∉ queuePaths userId bundleName t.store.valuesArray ∨
          t.store.files (keyPath userId k) = none := by
  have hparts : ∀ r ∈ t.store.valuesArray, ∃ k : String × String, r.key = some k ∧
      r.bundleName = some k.1 ∧ r.avQueueId = some k.2 ∧
        r.imagePath = some (keyPath userId k) := by
    intro r hr
    obtain ⟨k, hk, himage⟩ := h.record r hr
    obtain ⟨bundleName', hbundle, hkey⟩ := Option.bind_eq_some_iff.mp hk
    obtain ⟨avQueueId, hid, rfl⟩ := Option.map_eq_some_iff.mp hkey
    exact ⟨_, hk, hbundle, hid, himage⟩
  constructor
  · intro hown k hk hne
    obtain ⟨r, hr, hkey⟩ := List.mem_filterMap.mp hk
    obtain ⟨k', hkey', hbundle, -, himage⟩ := hparts r hr
    obtain rfl := Option.some.inj (hkey.symm.trans hkey')
    apply hown.kept r hr _ _ himage
    rw [hbundle]
    exact fun heq => hne (Option.some.inj heq)
  · intro hkept
    refine ⟨?_, ?_, ?_⟩
    · intro r hr _
      obtain ⟨k, -, -, hid, -⟩ := hparts r hr
      rw [hid]
      exact Option.some_ne_none _
    · intro r hr hbundle path hpath
      obtain ⟨k, -, hbundle', hid, himage⟩ := hparts r hr
      obtain rfl := Option.some.inj (himage.symm.trans hpath)
      obtain rfl := Option.some.inj (hbundle'.symm.trans hbundle)
      exact .inl (mem_queuePaths.mpr ⟨r, hr, hbundle, k.2, hid, rfl⟩)
    · intro r hr hbundle path hpath
      obtain ⟨k, hkey, hbundle', -, himage⟩ := hparts r hr
      obtain rfl := Option.some.inj (himage.symm.trans hpath)
      apply hkept k (List.mem_filterMap.mpr ⟨r, hr, hkey⟩)
      rintro rfl
      exact hbundle hbundle'

end saved

end AvSession.History
