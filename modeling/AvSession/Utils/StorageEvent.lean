import AvSession.Lib.CappedList
import AvSession.Lib.Run
import Mathlib.Data.List.AList
import Mathlib.Data.List.Dedup
import Mathlib.Data.List.Perm.Basic
import Mathlib.Logic.Function.Basic
import Mathlib.Algebra.GroupWithZero.Nat
import Mathlib.Algebra.Ring.Int.Defs

/-!
# Storage statistics

The service notes the files it writes. From time to time, and when there are many of them, they are
reported as one array with a summary for each user, and forgotten.

* `recordFileWrite`, `recordFileDelete`, `reportStorageStatistics` — the calls.
* `State.pending` — what should be reported next, kept apart from the maps.
* `ReportComplete` — a report has each pending file once, and is not too long.
* `complete_iff` — the runs all of whose reports are complete.

The order in which an unordered map is walked is left open, as is what is found on the disk.
-/

namespace AvSession.Utils

open AvSession.Lib

/-! ## Functions -/

section Functions

/-- Source: avsession_storage_event.h, `StorageFileInfo` -/
structure StorageFileInfo where
  bundleName : String
  fileSize : ℤ
  timestamp : ℤ
deriving DecidableEq

/-- Source: avsession_storage_event.h, `StorageUserData` -/
abbrev StorageUserData := AList fun _ : String => StorageFileInfo

/-- A file and what is noted of it. -/
abbrev FileRecord := Sigma fun _ : String => StorageFileInfo

/-- Source: avsession_storage_event.h, `StorageStatistics` -/
structure StorageStatistics where
  totalCount : ℕ := 0
  totalSize : ℤ := 0
  localCount : ℕ := 0
  localSize : ℤ := 0
  castCount : ℕ := 0
  castSize : ℤ := 0
  historyCount : ℕ := 0
  historySize : ℤ := 0
  recordCount : ℕ := 0
  recordSize : ℤ := 0

/-- The entries of the array that is reported, by what their texts are made of. -/
inductive Entry
  | summary (userId : ℤ) (stats : StorageStatistics)
  | file (r : FileRecord)

def MAX_BUNDLE_NAMES : ℕ := 100

/-- What a report finds: the users on the disk, the files in their directories, and an order to
walk the notes of a user in. -/
structure Env where
  /-- Source: avsession_storage_event.cpp, `AVSessionStorageEvent::EnumerateUserIds` -/
  enumerateUserIds : List ℤ
  /-- Source: avsession_storage_event.cpp, `AVSessionStorageEvent::ScanStorageStatistics` -/
  scanStorageStatistics : ℤ → StorageStatistics
  order : ℤ → List FileRecord → List FileRecord
  order_perm : ∀ userId l, (order userId l).Perm l

/-- The notes by users, and the files that are to be reported: written and since then neither
deleted nor written again nor reported. -/
structure State where
  storageUserDataMap : AList fun _ : ℤ => StorageUserData
  pending : ℤ → String → Option StorageFileInfo

def State.init : State := ⟨∅, fun _ _ => none⟩

variable (s : State)

/-- Source: avsession_storage_event.cpp, `AVSessionStorageEvent::GetOrCreateStorageUserData` -/
def getOrCreateStorageUserData (userId : ℤ) : StorageUserData :=
  (s.storageUserDataMap.lookup userId).getD ∅

/-- Source: avsession_storage_event.cpp, `StorageUserData::AddFileInfo` -/
def addFileInfo (userId : ℤ) (fileName : String) (info : StorageFileInfo) : State where
  storageUserDataMap := s.storageUserDataMap.insert userId
    ((getOrCreateStorageUserData s userId).insert fileName info)
  pending := Function.update s.pending userId
    (Function.update (s.pending userId) fileName (some info))

def totalFileRecords : ℕ :=
  (s.storageUserDataMap.entries.map fun e => e.2.entries.length).sum

/-- The condition for a report at once. -/
def ReachesLimit : Prop :=
  MAX_BUNDLE_NAMES ≤ s.storageUserDataMap.entries.length + totalFileRecords s

instance : Decidable (ReachesLimit s) := inferInstanceAs (Decidable (_ ≤ _))

/-- Source: avsession_storage_event.cpp, `AVSessionStorageEvent::CollectAllUsers` -/
def collectAllUsers (env : Env) : List ℤ :=
  (env.enumerateUserIds ++ s.storageUserDataMap.keys).dedup.mergeSort

def recordSize (userData : StorageUserData) : ℤ :=
  (userData.entries.map fun e => e.2.fileSize).sum

/-- The summary of a user. -/
def buildSummary (env : Env) (userId : ℤ) : Entry :=
  let stats := env.scanStorageStatistics userId
  match s.storageUserDataMap.lookup userId with
  | some userData =>
    .summary userId
      { stats with
        recordCount := userData.entries.length
        recordSize := recordSize userData }
  | none => .summary userId stats

/-- Source: avsession_storage_event.cpp, `StorageUserData::AppendFileInfoStrings` -/
def appendFileInfoStrings (order : List FileRecord → List FileRecord) (userData : StorageUserData)
    (bundleNames : List Entry) (maxCount : ℕ) : List Entry :=
  pushAll maxCount bundleNames ((order userData.entries).map Entry.file)

/-- The array that is reported.
Source: avsession_storage_event.cpp, `AVSessionStorageEvent::ReportStorageStatistics` -/
def reportStorageStatistics (env : Env) : List Entry :=
  let allUsers := collectAllUsers s env
  let bundleNames := allUsers.map (buildSummary s env)
  let bundleNames := allUsers.foldl (fun bundleNames userId =>
    if MAX_BUNDLE_NAMES ≤ bundleNames.length then bundleNames
    else
      match s.storageUserDataMap.lookup userId with
      | some userData =>
        appendFileInfoStrings (env.order userId) userData bundleNames MAX_BUNDLE_NAMES
      | none => bundleNames) bundleNames
  if bundleNames = [] then [.summary (-1) {}] else bundleNames

/-- The notes are cleared, the users stay. Source: avsession_storage_event.cpp,
`AVSessionStorageEvent::ReportStorageStatistics`, `StorageUserData::ClearFileInfo` -/
def clearFileInfo : State where
  storageUserDataMap :=
    ⟨s.storageUserDataMap.entries.map fun e => ⟨e.1, ∅⟩, by
      have hkeys := s.storageUserDataMap.nodupKeys
      rw [List.NodupKeys, List.keys] at hkeys ⊢
      rwa [List.map_map]⟩
  pending := fun _ _ => none

/-- Source: avsession_storage_event.cpp, `StorageUserData::RemoveFileInfo` -/
def removeFileInfo (userId : ℤ) (fileName : String) : State where
  storageUserDataMap :=
    match s.storageUserDataMap.lookup userId with
    | some userData => s.storageUserDataMap.insert userId (userData.erase fileName)
    | none => s.storageUserDataMap
  pending := Function.update s.pending userId
    (Function.update (s.pending userId) fileName none)

end Functions

/-! ## Sequences of calls -/

section Sequences

inductive Call
  | recordFileWrite (fileName : String) (userId : ℤ) (info : StorageFileInfo) (env : Env)
  | recordFileDelete (fileName : String) (userId : ℤ)
  | periodicReport (env : Env)

/-- The state that a call reports, with what the report finds, if it reports. -/
def reported (s : State) : Call → Option (State × Env)
  | .recordFileWrite fileName userId info env =>
    if ReachesLimit (addFileInfo s userId fileName info) then
      some (addFileInfo s userId fileName info, env)
    else none
  | .recordFileDelete _ _ => none
  | .periodicReport env => some (s, env)

/-- Source: avsession_storage_event.cpp, `AVSessionStorageEvent::RecordFileWrite`,
`AVSessionStorageEvent::RecordFileDelete`, `AVSessionStorageEvent::ReportStorageStatistics` -/
def step (s : State) : Call → State
  | .recordFileWrite fileName userId info _ =>
    let s := addFileInfo s userId fileName info
    if ReachesLimit s then clearFileInfo s else s
  | .recordFileDelete fileName userId => removeFileInfo s userId fileName
  | .periodicReport _ => clearFileInfo s

end Sequences

/-! ## The pending files -/

section Pending

variable {s : State} {userId : ℤ} {fileName : String} {info : StorageFileInfo}

/-- The pending files are those in the maps. -/
def Noted (s : State) : Prop :=
  ∀ u name, s.pending u name = (getOrCreateStorageUserData s u).lookup name

/-- A user with data has that data. -/
theorem getOrCreate_of_lookup {userData : StorageUserData}
    (h : s.storageUserDataMap.lookup userId = some userData) :
    getOrCreateStorageUserData s userId = userData := by
  rw [getOrCreateStorageUserData, h, Option.getD_some]

/-- A user without data gets an empty map. -/
theorem getOrCreate_of_none (h : s.storageUserDataMap.lookup userId = none) :
    getOrCreateStorageUserData s userId = ∅ := by
  rw [getOrCreateStorageUserData, h, Option.getD_none]

/-- Inserting one user's data changes that user's only. -/
theorem getOrCreate_insert (m : AList fun _ : ℤ => StorageUserData) (p : ℤ → String → _)
    (userId u : ℤ) (userData : StorageUserData) :
    getOrCreateStorageUserData ⟨m.insert userId userData, p⟩ u =
      if u = userId then userData else getOrCreateStorageUserData ⟨m, p⟩ u := by
  by_cases hu : u = userId
  · subst hu
    simp [getOrCreateStorageUserData]
  · rw [if_neg hu, getOrCreateStorageUserData, AList.lookup_insert_ne hu]
    rfl

/-- At the start nothing is pending. -/
theorem noted_init : Noted .init := by
  intro u name
  simp [State.init, getOrCreateStorageUserData]

/-- An added file is pending. -/
theorem Noted.addFileInfo (h : Noted s) : Noted (addFileInfo s userId fileName info) := by
  intro u name
  rw [Utils.addFileInfo, getOrCreate_insert]
  dsimp only
  by_cases hu : u = userId
  · subst hu
    rw [if_pos rfl, Function.update_self]
    by_cases hname : name = fileName
    · subst hname
      rw [Function.update_self, AList.lookup_insert]
    · rw [Function.update_of_ne hname, AList.lookup_insert_ne hname]
      exact h u name
  · rw [if_neg hu, Function.update_of_ne hu]
    exact h u name

/-- A removed file is not pending any more. -/
theorem Noted.removeFileInfo (h : Noted s) : Noted (removeFileInfo s userId fileName) := by
  intro u name
  rw [Utils.removeFileInfo]
  rcases huser : s.storageUserDataMap.lookup userId with _ | userData
  · dsimp only
    by_cases hu : u = userId
    · subst hu
      have hnone : (getOrCreateStorageUserData s u).lookup name = none := by
        rw [getOrCreate_of_none huser, AList.lookup_empty]
      rw [Function.update_self]
      by_cases hname : name = fileName
      · subst hname
        rw [Function.update_self]
        exact hnone.symm
      · rw [Function.update_of_ne hname]
        exact h u name
    · rw [Function.update_of_ne hu]
      exact h u name
  · have hdata := getOrCreate_of_lookup huser
    rw [getOrCreate_insert]
    dsimp only
    by_cases hu : u = userId
    · subst hu
      rw [if_pos rfl, Function.update_self]
      by_cases hname : name = fileName
      · subst hname
        rw [Function.update_self, AList.lookup_erase]
      · rw [Function.update_of_ne hname, AList.lookup_erase_ne hname, h u name, hdata]
    · rw [if_neg hu, Function.update_of_ne hu]
      exact h u name

/-- After a clearing nothing is pending. -/
theorem noted_clearFileInfo (s : State) : Noted (clearFileInfo s) := by
  intro u name
  have hempty : getOrCreateStorageUserData (clearFileInfo s) u = ∅ := by
    rw [getOrCreateStorageUserData]
    rcases huser : (clearFileInfo s).storageUserDataMap.lookup u with _ | userData
    · rfl
    · rw [← Option.mem_def, AList.mem_lookup_iff] at huser
      obtain ⟨e, -, he⟩ := List.mem_map.mp huser
      cases he
      rfl
  rw [hempty, AList.lookup_empty]
  rfl

/-- Every call keeps the data and the pending files together. -/
theorem Noted.step (h : Noted s) (call : Call) : Noted (step s call) := by
  rcases call with ⟨fileName, userId, info, env⟩ | ⟨fileName, userId⟩ | env
  · rw [Utils.step]
    split
    · exact noted_clearFileInfo _
    · exact h.addFileInfo
  · exact h.removeFileInfo
  · exact noted_clearFileInfo _

end Pending

/-! ## The array -/

section Array

variable (s : State) (env : Env)

/-- The file entries of an array. -/
def fileEntries (bundleNames : List Entry) : List FileRecord :=
  bundleNames.filterMap fun
    | .summary _ _ => none
    | .file r => some r

/-- What is noted of the files of a user, with the user. -/
def recordsOf (userId : ℤ) : List (ℤ × FileRecord) :=
  (getOrCreateStorageUserData s userId).entries.map fun r => (userId, r)

/-- The files in the order of the report. -/
def reportedFiles : List FileRecord :=
  (collectAllUsers s env).flatMap fun userId =>
    env.order userId (getOrCreateStorageUserData s userId).entries

variable {s env} {userId : ℤ}

/-- The summaries carry no file entry. -/
theorem fileEntries_summaries_append (userIds : List ℤ) (files : List FileRecord) :
    fileEntries (userIds.map (buildSummary s env) ++ files.map Entry.file) = files := by
  have hsummary : ∀ u, ∃ stats, buildSummary s env u = .summary u stats := by
    intro u
    rw [buildSummary]
    split
    · exact ⟨_, rfl⟩
    · exact ⟨_, rfl⟩
  rw [fileEntries, List.filterMap_append, List.filterMap_map, List.filterMap_map,
    List.filterMap_eq_nil_iff.mpr, List.nil_append]
  · exact List.filterMap_some
  · intro u _
    obtain ⟨stats, hu⟩ := hsummary u
    rw [Function.comp_apply, hu]

/-- Nothing can be ordered only one way. -/
theorem order_of_empty (env : Env) (userId : ℤ) : env.order userId [] = [] :=
  List.perm_nil.mp (env.order_perm userId [])

/-- The files that find room in the array. -/
theorem appended_eq (bundleNames : List Entry) :
    (collectAllUsers s env).foldl (fun bundleNames userId =>
      if MAX_BUNDLE_NAMES ≤ bundleNames.length then bundleNames
      else
        match s.storageUserDataMap.lookup userId with
        | some userData =>
          appendFileInfoStrings (env.order userId) userData bundleNames MAX_BUNDLE_NAMES
        | none => bundleNames) bundleNames =
      bundleNames ++ ((reportedFiles s env).take
        (MAX_BUNDLE_NAMES - bundleNames.length)).map Entry.file := by
  have hpart : ∀ (l : List Entry) (u : ℤ),
      (match s.storageUserDataMap.lookup u with
        | some userData => appendFileInfoStrings (env.order u) userData l MAX_BUNDLE_NAMES
        | none => l) =
      pushAll MAX_BUNDLE_NAMES l
        ((env.order u (getOrCreateStorageUserData s u).entries).map Entry.file) := by
    intro l u
    rcases hu : s.storageUserDataMap.lookup u with _ | userData
    · rw [getOrCreate_of_none hu, AList.empty_entries, order_of_empty]
      rfl
    · rw [getOrCreate_of_lookup hu]
      rfl
  simp only [hpart]
  rw [foldl_pushAll, pushAll_eq, reportedFiles, List.map_take, List.map_flatMap]

/-- The report is the summaries, then as many files as fit. -/
theorem reportStorageStatistics_eq :
    reportStorageStatistics s env =
      if collectAllUsers s env = [] then [.summary (-1) {}]
      else (collectAllUsers s env).map (buildSummary s env) ++
        ((reportedFiles s env).take
          (MAX_BUNDLE_NAMES - (collectAllUsers s env).length)).map Entry.file := by
  rw [reportStorageStatistics, appended_eq, List.length_map]
  by_cases h : collectAllUsers s env = []
  · have hfiles : reportedFiles s env = [] := by
      rw [reportedFiles, h, List.flatMap_nil]
    rw [h, hfiles]
    rfl
  · rw [if_neg h, if_neg]
    simp [h]

/-- The report lists the files that fit. -/
theorem fileEntries_report :
    fileEntries (reportStorageStatistics s env) =
      (reportedFiles s env).take (MAX_BUNDLE_NAMES - (collectAllUsers s env).length) := by
  rw [reportStorageStatistics_eq]
  by_cases h : collectAllUsers s env = []
  · have hfiles : reportedFiles s env = [] := by
      rw [reportedFiles, h, List.flatMap_nil]
    rw [if_pos h, hfiles, List.take_nil]
    rfl
  · rw [if_neg h, fileEntries_summaries_append]

end Array

/-! ## The files of all users -/

section Users

variable {s : State} {env : Env} {userIds : List ℤ} {userId : ℤ} {r : FileRecord}

/-- No user is summed up twice. -/
theorem nodup_collectAllUsers (s : State) (env : Env) : (collectAllUsers s env).Nodup := by
  rw [collectAllUsers, (List.mergeSort_perm _ _).nodup_iff]
  exact List.nodup_dedup _

/-- Every user with data is summed up. -/
theorem keys_subset_collectAllUsers (s : State) (env : Env) :
    s.storageUserDataMap.keys ⊆ collectAllUsers s env := by
  intro u hu
  rw [collectAllUsers, (List.mergeSort_perm _ _).mem_iff, List.mem_dedup, List.mem_append]
  exact Or.inr hu

/-- The records gathered are those of the users named. -/
theorem mem_recordsOf :
    (userId, r) ∈ userIds.flatMap (recordsOf s) ↔
      userId ∈ userIds ∧ r ∈ (getOrCreateStorageUserData s userId).entries := by
  rw [List.mem_flatMap]
  constructor
  · rintro ⟨u, hu, hr⟩
    obtain ⟨r', hr', he⟩ := List.mem_map.mp hr
    obtain ⟨rfl, rfl⟩ := Prod.mk.inj he
    exact ⟨hu, hr'⟩
  · rintro ⟨hu, hr⟩
    exact ⟨userId, hu, List.mem_map_of_mem hr⟩

/-- Among the users of the map and others are all who have files. -/
theorem mem_recordsOf_of_keys (hkeys : s.storageUserDataMap.keys ⊆ userIds) :
    (userId, r) ∈ userIds.flatMap (recordsOf s) ↔
      r ∈ (getOrCreateStorageUserData s userId).entries := by
  rw [mem_recordsOf]
  constructor
  · exact And.right
  · intro hr
    refine ⟨hkeys ?_, hr⟩
    by_contra hu
    rw [getOrCreate_of_none (AList.lookup_eq_none.mpr hu)] at hr
    exact absurd hr List.not_mem_nil

/-- No record is gathered twice. -/
theorem nodup_recordsOf (hnodup : userIds.Nodup) : (userIds.flatMap (recordsOf s)).Nodup := by
  rw [List.nodup_flatMap]
  constructor
  · intro u _
    have hentries := (getOrCreateStorageUserData s u).nodupKeys.nodup
    exact hentries.map fun r r' h => (Prod.mk.inj h).2
  · apply hnodup.imp
    intro u u' hne p hp hp'
    obtain ⟨r, -, rfl⟩ := List.mem_map.mp hp
    obtain ⟨r', -, he⟩ := List.mem_map.mp hp'
    exact hne (Prod.mk.inj he).1.symm

/-- The users with data have all the records. -/
theorem length_keys_recordsOf (s : State) :
    (s.storageUserDataMap.keys.flatMap (recordsOf s)).length = totalFileRecords s := by
  have hlength : ∀ e ∈ s.storageUserDataMap.entries,
      (recordsOf s e.1).length = e.2.entries.length := by
    intro e he
    have hlookup : s.storageUserDataMap.lookup e.1 = some e.2 := AList.mem_lookup_iff.mpr he
    rw [recordsOf, List.length_map, getOrCreate_of_lookup hlookup]
  rw [List.length_flatMap, totalFileRecords, AList.keys, List.keys, List.map_map]
  congr 1
  exact List.map_congr_left hlength

/-- So do the users summed up. -/
theorem length_recordsOf (s : State) (env : Env) :
    ((collectAllUsers s env).flatMap (recordsOf s)).length = totalFileRecords s := by
  rw [← length_keys_recordsOf]
  apply List.Perm.length_eq
  rw [List.perm_ext_iff_of_nodup (nodup_recordsOf (nodup_collectAllUsers s env))
    (nodup_recordsOf s.storageUserDataMap.keys_nodup)]
  rintro ⟨u, r⟩
  rw [mem_recordsOf_of_keys (keys_subset_collectAllUsers s env),
    mem_recordsOf_of_keys (List.Subset.refl _)]

/-- The files reported are the records gathered, in some order. -/
theorem reportedFiles_perm (s : State) (env : Env) :
    (reportedFiles s env).Perm (((collectAllUsers s env).flatMap (recordsOf s)).map Prod.snd) := by
  rw [reportedFiles, List.map_flatMap]
  apply List.Perm.flatMap_left
  intro u _
  have hsnd : (recordsOf s u).map Prod.snd = (getOrCreateStorageUserData s u).entries := by
    rw [recordsOf, List.map_map]
    exact List.map_id _
  rw [hsnd]
  exact env.order_perm u _

/-- There are as many of them as records. -/
theorem length_reportedFiles (s : State) (env : Env) :
    (reportedFiles s env).length = totalFileRecords s := by
  rw [(reportedFiles_perm s env).length_eq, List.length_map, length_recordsOf]

end Users

/-! ## Complete reports -/

section Complete

variable {s : State} {env : Env}

/-- A report is complete: its file entries are the pending files, each of them once, and it has at
most `MAX_BUNDLE_NAMES` entries. -/
def ReportComplete (s : State) (env : Env) : Prop :=
  (∃ records : List (ℤ × FileRecord), records.Nodup ∧
    (∀ userId fileName info,
      (userId, ⟨fileName, info⟩) ∈ records ↔ s.pending userId fileName = some info) ∧
    (fileEntries (reportStorageStatistics s env)).Perm (records.map Prod.snd)) ∧
  (reportStorageStatistics s env).length ≤ MAX_BUNDLE_NAMES

/-- There is room for the summaries of all users, on the disk or in the map, and for all files. -/
def HasRoom (s : State) (env : Env) : Prop :=
  (collectAllUsers s env).length + totalFileRecords s ≤ MAX_BUNDLE_NAMES

/-- The report that a call makes is complete, if it makes one. -/
def Complete (s : State) (call : Call) : Prop :=
  ∀ r ∈ reported s call, ReportComplete r.1 r.2

def Fits (s : State) (call : Call) : Prop :=
  ∀ r ∈ reported s call, HasRoom r.1 r.2

/-- The records gathered are the pending files. -/
theorem mem_recordsOf_iff_pending (h : Noted s) (userId : ℤ) (fileName : String)
    (info : StorageFileInfo) :
    (userId, ⟨fileName, info⟩) ∈ (collectAllUsers s env).flatMap (recordsOf s) ↔
      s.pending userId fileName = some info := by
  rw [mem_recordsOf_of_keys (keys_subset_collectAllUsers s env), h, ← AList.mem_lookup_iff,
    Option.mem_def]

/-- The pending files are as many as are noted in the maps. -/
theorem length_of_pending (h : Noted s) {records : List (ℤ × FileRecord)}
    (hnodup : records.Nodup)
    (hrecords : ∀ userId fileName info,
      (userId, ⟨fileName, info⟩) ∈ records ↔ s.pending userId fileName = some info) :
    records.length = totalFileRecords s := by
  rw [← length_recordsOf s ⟨[], fun _ => {}, fun _ l => l, fun _ l => List.Perm.refl l⟩]
  apply List.Perm.length_eq
  rw [List.perm_ext_iff_of_nodup hnodup (nodup_recordsOf (nodup_collectAllUsers _ _))]
  rintro ⟨u, ⟨name, info⟩⟩
  rw [hrecords, mem_recordsOf_iff_pending h]

/-- Every user has a summary. -/
theorem length_report_ge (s : State) (env : Env) :
    (collectAllUsers s env).length ≤ (reportStorageStatistics s env).length := by
  rw [reportStorageStatistics_eq]
  by_cases h : collectAllUsers s env = []
  · rw [h]
    exact Nat.zero_le _
  · rw [if_neg h, List.length_append, List.length_map]
    exact Nat.le_add_right _ _

/-- Where there is room the report keeps its bound. -/
theorem length_report_le (h : HasRoom s env) :
    (reportStorageStatistics s env).length ≤ MAX_BUNDLE_NAMES := by
  rw [HasRoom] at h
  rw [reportStorageStatistics_eq]
  by_cases hnil : collectAllUsers s env = []
  · rw [if_pos hnil]
    exact (by decide : 1 ≤ MAX_BUNDLE_NAMES)
  · rw [if_neg hnil, List.length_append, List.length_map, List.length_map, List.length_take]
    omega

/-- A report is complete exactly when there is room for all of it. -/
theorem reportComplete_iff (h : Noted s) : ReportComplete s env ↔ HasRoom s env := by
  constructor
  · rintro ⟨⟨records, hnodup, hrecords, hperm⟩, hlength⟩
    have husers := Nat.le_trans (length_report_ge s env) hlength
    have hall := length_of_pending h hnodup hrecords
    have hfiles := hperm.length_eq
    rw [fileEntries_report, List.length_take, length_reportedFiles, List.length_map, hall] at hfiles
    rw [HasRoom]
    omega
  · intro hroom
    refine ⟨⟨(collectAllUsers s env).flatMap (recordsOf s),
      nodup_recordsOf (nodup_collectAllUsers s env), mem_recordsOf_iff_pending h, ?_⟩,
      length_report_le hroom⟩
    rw [fileEntries_report, List.take_of_length_le]
    · exact reportedFiles_perm s env
    · rw [length_reportedFiles]
      rw [HasRoom] at hroom
      omega

/-- What is reported is noted. -/
theorem Noted.reported (h : Noted s) {call : Call} {r : State × Env} (hr : r ∈ reported s call) :
    Noted r.1 := by
  rcases call with ⟨fileName, userId, info, env⟩ | ⟨fileName, userId⟩ | env
  · rw [Utils.reported, Option.mem_def] at hr
    split at hr
    · rw [← Option.some.inj hr]
      exact h.addFileInfo
    · exact absurd hr (Option.some_ne_none _).symm
  · exact absurd hr (Option.some_ne_none _).symm
  · rw [← Option.some.inj hr]
    exact h

/-- The report is complete exactly when all the files fit. -/
theorem complete_iff_fits (h : Noted s) (call : Call) : Complete s call ↔ Fits s call := by
  constructor
  · intro hcomplete r hr
    exact (reportComplete_iff (h.reported hr)).mp (hcomplete r hr)
  · intro hfits r hr
    exact (reportComplete_iff (h.reported hr)).mpr (hfits r hr)

/-- The runs all of whose reports are complete are the runs in which each report has room. -/
theorem complete_iff (calls : List Call) :
    Meets step Complete .init calls ↔ Meets step Fits .init calls :=
  meets_congr_of_inv (fun _ call h => h.step call) (fun _ call h => complete_iff_fits h call) calls
    noted_init

/-- A hundred users on the disk. -/
def hundredUsers : Env where
  enumerateUserIds := (List.range 100).map fun i : ℕ => (i : ℤ) + 1
  scanStorageStatistics := fun _ => {}
  order := fun _ l => l
  order_perm := fun _ l => List.Perm.refl l

/-- The summaries of a hundred users leave no room for the one file that was written. -/
theorem file_dropped :
    ¬ Meets step Complete .init
      [.recordFileWrite "/data/service/el2/1/a.image.dat" 1 ⟨"app", 4096, 0⟩ hundredUsers,
        .periodicReport hundredUsers] := by
  rintro ⟨-, hreport, -⟩
  have hcomplete := hreport _ rfl
  dsimp only at hcomplete
  have hroom := (reportComplete_iff (noted_init.step _)).mp hcomplete
  rw [HasRoom, collectAllUsers, List.length_mergeSort] at hroom
  exact absurd hroom (by decide +kernel)

end Complete

end AvSession.Utils
