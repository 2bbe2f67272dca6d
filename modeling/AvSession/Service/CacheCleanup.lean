import Mathlib.Data.List.GetD
import AvSession.Lib.FileNames
import AvSession.Registry.Partition

/-!
# The cleanup of the cache

When a user unlocks for the first time, the image files of sessions that are gone are deleted from
the cache of the user. Which session a file belongs to is read off its path.

* `sessionIdOfFile`, `deleteCacheFilesExcluding`, `cleanupCacheOnUnlock` — the functions.
* `sessionIdOfFile_image` — the id that a path was made from.
* `Cleaned` — the images of live sessions are kept, the others are gone, and what is no image is
  left alone.
* `cleaned_iff` — when a cleanup does that.

Listing a directory is a parameter (`DirLib`). Deleting a listed file succeeds.
-/

namespace AvSession.Service.CacheCleanup

open AvSession.Lib AvSession.Registry

/-! ## Functions -/

section Functions

abbrev Image := List (BitVec 8)

/-- The files by their paths. -/
abbrev Disk := List (Path × Image)

/-- `OHOS::GetDirFiles`, the paths of all files in a directory and below. -/
structure DirLib where
  getDirFiles : Disk → Path → List Path

/-- The files listed are those whose path begins with that of the directory. -/
structure DirLib.Documented (dirs : DirLib) : Prop where
  mem_getDirFiles : ∀ disk dir file, file ∈ dirs.getDirFiles disk dir ↔
    disk.lookup file ≠ none ∧ includeTrailingPathDelimiter dir <+: file

def DATA_PATH_NAME : Path := "/data/service/el2/".toList
def CACHE_PATH_NAME : Path := "/av_session/cache/".toList
def FILE_SUFFIX : Path := ".image.dat".toList
def CAST_PREFIX : Path := "cast_".toList

/-- Source: avsession_utils.h, `AVSessionUtils::GetCachePathName` -/
def getCachePathName (userId : UserId) : Path :=
  DATA_PATH_NAME ++ (toString userId).toList ++ CACHE_PATH_NAME

/-- Source: avsession_utils.h, `AVSessionUtils::GetCachePathNameForCast` -/
def getCachePathNameForCast (userId : UserId) : Path :=
  DATA_PATH_NAME ++ (toString userId).toList ++ CACHE_PATH_NAME ++ CAST_PREFIX

/-- The path that an image is read from.
Source: avsession_item.cpp, `AVSessionItem::ReadMetaDataImg` -/
def imagePath (session : AVSessionItem) (isCast : Bool) : Path :=
  (if isCast then getCachePathNameForCast session.userId else getCachePathName session.userId) ++
    (session.sessionId.toList ++ FILE_SUFFIX)

/-- Source: avsession_utils.h, `AVSessionUtils::DeleteFile` -/
def deleteFile (disk : Disk) (filePath : Path) : Disk := disk.filter fun e => e.1 ≠ filePath

/-- The prefix of cast images is taken off, if something is behind it. -/
def withoutCastPrefix (stem : Path) : Path :=
  if CAST_PREFIX.length < stem.length ∧ CAST_PREFIX.isPrefixOf stem then
    stem.drop CAST_PREFIX.length
  else stem

/-- The session id in the path of a file.
Source: avsession_utils.h, `AVSessionUtils::DeleteCacheFilesExcluding` -/
def sessionIdOfFile (file : Path) : Path :=
  let base := baseName file
  let stem :=
    match rfind FILE_SUFFIX base with
    | some suffixPos => if 0 < suffixPos then base.take suffixPos else base
    | none => base
  withoutCastPrefix stem

/-- The pattern is somewhere in the string: `find(pat) != npos`. -/
def contains (pat s : Path) : Bool := decide (pat <:+: s)

/-- Source: avsession_utils.h, `AVSessionUtils::DeleteCacheFilesExcluding` -/
def deleteCacheFilesExcluding (dirs : DirLib) (disk : Disk) (path : Path)
    (retainedSessionIds : List Path) : Disk :=
  (dirs.getDirFiles disk path).foldl (fun disk file =>
    if contains FILE_SUFFIX file = false then disk
    else if sessionIdOfFile file ∈ retainedSessionIds then disk
    else deleteFile disk file) disk

/-- Source: avsession_users_manager.cpp, `AVSessionUsersManager::CleanupCacheOnUnlock` -/
def cleanupCacheOnUnlock (dirs : DirLib) (m : UsersManager) (disk : Disk) (userId : UserId) :
    Disk :=
  let userId := m.effectiveUser userId
  let aliveSessionIds := (m.getContainerFromUser userId).getAllSessions.map fun x =>
    (m.items x).sessionId.toList
  let disk := deleteCacheFilesExcluding dirs disk (getCachePathName userId) aliveSessionIds
  deleteCacheFilesExcluding dirs disk (getCachePathNameForCast userId) aliveSessionIds

/-- The digits of a byte. -/
def hexByte (byte : BitVec 8) : Path :=
  ["0123456789ABCDEF".toList.getD (byte.toNat / 16) '0',
    "0123456789ABCDEF".toList.getD (byte.toNat % 16) '0']

/-- The id made from a hash. Source: avsession_service.cpp, `AVSessionService::AllocSessionId` -/
def sessionIdOfHash (hash : List (BitVec 8)) : Path := hash.flatMap hexByte

end Functions

/-! ## Files -/

section Files

variable {disk : Disk} {dirs : DirLib} {file g : Path} {retained : List Path}

/-- Deleting takes one file from the disk. -/
theorem lookup_deleteFile (disk : Disk) (file g : Path) :
    (deleteFile disk file).lookup g = if g = file then none else disk.lookup g := by
  induction disk with
  | nil => simp [deleteFile]
  | cons e disk ih =>
    obtain ⟨name, image⟩ := e
    by_cases hname : name = file
    · rw [deleteFile, List.filter_cons_of_neg (by simp [hname]), ← deleteFile, ih]
      by_cases hg : g = file
      · rw [if_pos hg, if_pos hg]
      · have hne : (g == name) = false := by simpa [hname] using hg
        rw [if_neg hg, if_neg hg, List.lookup_cons, hne]
    · rw [deleteFile, List.filter_cons_of_pos (by simpa using hname), ← deleteFile,
        List.lookup_cons, List.lookup_cons, ih]
      by_cases hg : g = name
      · have hne : g ≠ file := by
          rw [hg]
          exact hname
        simp [hg, hname]
      · have hne : (g == name) = false := by simpa using hg
        rw [hne]

/-- A file is deleted in a sweep if it carries the suffix and its id is not retained. -/
def Deletes (retained : List Path) (file : Path) : Prop :=
  FILE_SUFFIX <:+: file ∧ sessionIdOfFile file ∉ retained

instance (retained : List Path) (file : Path) : Decidable (Deletes retained file) :=
  inferInstanceAs (Decidable (_ ∧ _))

/-- The loop deletes the listed files that pass its tests, and no others. -/
theorem lookup_foldl (retained files : List Path) (disk : Disk) (g : Path) :
    (files.foldl (fun disk file =>
      if contains FILE_SUFFIX file = false then disk
      else if sessionIdOfFile file ∈ retained then disk
      else deleteFile disk file) disk).lookup g =
    if g ∈ files ∧ Deletes retained g then none else disk.lookup g := by
  induction files generalizing disk with
  | nil => simp
  | cons file files ih =>
    rw [List.foldl_cons, ih]
    by_cases hdeletes : Deletes retained file
    · obtain ⟨hsuffix, hid⟩ := hdeletes
      have hdeleted : (if contains FILE_SUFFIX file = false then disk
          else if sessionIdOfFile file ∈ retained then disk else deleteFile disk file) =
          deleteFile disk file := by
        simp [contains, hsuffix, hid]
      rw [hdeleted, lookup_deleteFile]
      by_cases hg : g = file
      · subst hg
        simp [Deletes, hsuffix, hid]
      · simp [hg]
    · have hkept : (if contains FILE_SUFFIX file = false then disk
          else if sessionIdOfFile file ∈ retained then disk else deleteFile disk file) = disk := by
        by_cases hsuffix : FILE_SUFFIX <:+: file
        · have hid : sessionIdOfFile file ∈ retained := by
            by_contra hid
            exact hdeletes ⟨hsuffix, hid⟩
          simp [hid]
        · simp [contains, hsuffix]
      rw [hkept]
      by_cases hg : g = file
      · subst hg
        simp [hdeletes]
      · simp [hg]

/-- **One sweep.** -/
theorem lookup_deleteCacheFilesExcluding (hdirs : dirs.Documented) (disk : Disk) (path : Path)
    (retained : List Path) (g : Path) :
    (deleteCacheFilesExcluding dirs disk path retained).lookup g =
      if includeTrailingPathDelimiter path <+: g ∧ Deletes retained g then none
      else disk.lookup g := by
  rw [deleteCacheFilesExcluding, lookup_foldl]
  simp only [hdirs.mem_getDirFiles]
  by_cases hg : disk.lookup g = none
  · simp [hg]
  · simp [hg]

end Files

/-! ## Paths -/

section Paths

variable {id : Path} {hash : List (BitVec 8)}

/-- The digits of ids are those of upper case hexadecimal numbers. -/
theorem mem_hexByte {byte : BitVec 8} {c : Char} (h : c ∈ hexByte byte) :
    c ∈ "0123456789ABCDEF".toList := by
  have hdigit : ∀ n, "0123456789ABCDEF".toList.getD n '0' ∈ "0123456789ABCDEF".toList := by
    intro n
    by_cases hn : n < "0123456789ABCDEF".toList.length
    · rw [List.getD_eq_getElem _ _ hn]
      exact List.getElem_mem hn
    · rw [List.getD_eq_default _ _ (by omega)]
      decide
  rcases List.mem_cons.mp h with rfl | h
  · exact hdigit _
  · rw [List.mem_singleton.mp h]
    exact hdigit _

/-- A session id is written in upper-case hexadecimal digits. -/
theorem mem_sessionIdOfHash {c : Char} (h : c ∈ sessionIdOfHash hash) :
    c ∈ "0123456789ABCDEF".toList := by
  obtain ⟨byte, -, hc⟩ := List.mem_flatMap.mp h
  exact mem_hexByte hc

/-- An id of the service: made from a hash that is not empty. -/
def Allocated (id : Path) : Prop := ∃ hash, hash ≠ [] ∧ id = sessionIdOfHash hash

/-- An allocated id is not empty. -/
theorem Allocated.ne_nil (h : Allocated id) : id ≠ [] := by
  obtain ⟨hash, hhash, rfl⟩ := h
  obtain ⟨byte, rest, rfl⟩ := List.exists_cons_of_ne_nil hhash
  simp [sessionIdOfHash, hexByte]

/-- An allocated id has hexadecimal digits only. -/
theorem Allocated.mem_digits (h : Allocated id) {c : Char} (hc : c ∈ id) :
    c ∈ "0123456789ABCDEF".toList := by
  obtain ⟨hash, -, rfl⟩ := h
  exact mem_sessionIdOfHash hc

/-- An allocated id holds no slash. -/
theorem Allocated.slash_not_mem (h : Allocated id) : '/' ∉ id := by
  intro hc
  exact absurd (h.mem_digits hc) (by decide)

/-- An id does not look like a name with the prefix of cast images. -/
theorem Allocated.withoutCastPrefix_eq (h : Allocated id) : withoutCastPrefix id = id := by
  rw [withoutCastPrefix, if_neg]
  rintro ⟨-, hbegins⟩
  have hc : 'c' ∈ id := (List.isPrefixOf_iff_prefix.mp hbegins).subset (by decide)
  exact absurd (h.mem_digits hc) (by decide)

/-- The prefix of a cast image is taken off again. -/
theorem withoutCastPrefix_append (h : id ≠ []) : withoutCastPrefix (CAST_PREFIX ++ id) = id := by
  have hlength : CAST_PREFIX.length < (CAST_PREFIX ++ id).length := by
    rw [List.length_append]
    have hpos := List.length_pos_iff.mpr h
    omega
  rw [withoutCastPrefix, if_pos ⟨hlength, List.isPrefixOf_iff_prefix.mpr (List.prefix_append _ _)⟩,
    List.drop_left]

/-- The paths of a user's images, local and cast. -/
def localPath (userId : UserId) (id : Path) : Path := getCachePathName userId ++ (id ++ FILE_SUFFIX)

def castPath (userId : UserId) (id : Path) : Path :=
  getCachePathNameForCast userId ++ (id ++ FILE_SUFFIX)

/-- The image of a session lies under its user, with or without the cast prefix. -/
theorem imagePath_eq (session : AVSessionItem) (isCast : Bool) :
    imagePath session isCast =
      if isCast then castPath session.userId session.sessionId.toList
      else localPath session.userId session.sessionId.toList := by
  cases isCast <;> rfl

/-- The id of a name with the suffix behind a stem that is not empty. -/
theorem sessionIdOfFile_of_baseName {file stem : Path} (hname : baseName file = stem ++ FILE_SUFFIX)
    (hstem : stem ≠ []) : sessionIdOfFile file = withoutCastPrefix stem := by
  have hpos : 0 < stem.length := List.length_pos_iff.mpr hstem
  have hfound : rfind FILE_SUFFIX (stem ++ FILE_SUFFIX) = some stem.length :=
    rfind_append_self (by decide) stem
  simp only [sessionIdOfFile, hname, hfound, hpos, if_true, List.take_left]

/-- The cache directory of a user, written out. -/
theorem getCachePathName_eq (userId : UserId) : getCachePathName userId =
    DATA_PATH_NAME ++ (toString userId).toList ++ "/av_session/cache".toList ++ ['/'] := by
  rw [getCachePathName, List.append_assoc _ _ ['/']]
  rfl

/-- The name of a file in the cache. -/
theorem baseName_cache (userId : UserId) {name : Path} (h : '/' ∉ name) :
    baseName (getCachePathName userId ++ name) = name := by
  rw [getCachePathName_eq, List.append_assoc, List.singleton_append]
  exact baseName_append h _

/-- The suffix adds no slash. -/
theorem slash_not_mem_append {stem : Path} (h : '/' ∉ stem) : '/' ∉ stem ++ FILE_SUFFIX := by
  rw [List.mem_append, not_or]
  exact ⟨h, by decide⟩

/-- The name of a local image is the id with the suffix. -/
theorem baseName_localPath (userId : UserId) (h : Allocated id) :
    baseName (localPath userId id) = id ++ FILE_SUFFIX :=
  baseName_cache userId (slash_not_mem_append h.slash_not_mem)

/-- The name of a cast image is the id between prefix and suffix. -/
theorem baseName_castPath (userId : UserId) (h : Allocated id) :
    baseName (castPath userId id) = CAST_PREFIX ++ id ++ FILE_SUFFIX := by
  have hslash : '/' ∉ CAST_PREFIX ++ id := by
    rw [List.mem_append, not_or]
    exact ⟨by decide, h.slash_not_mem⟩
  have hpath : castPath userId id =
      getCachePathName userId ++ (CAST_PREFIX ++ id ++ FILE_SUFFIX) := by
    change getCachePathName userId ++ CAST_PREFIX ++ (id ++ FILE_SUFFIX) = _
    simp only [List.append_assoc]
  rw [hpath]
  exact baseName_cache userId (slash_not_mem_append hslash)

/-- **The id of an image** is the one that its path was made from. -/
theorem sessionIdOfFile_localPath (userId : UserId) (h : Allocated id) :
    sessionIdOfFile (localPath userId id) = id := by
  rw [sessionIdOfFile_of_baseName (baseName_localPath userId h) h.ne_nil, h.withoutCastPrefix_eq]

/-- The id is read back from a cast image's name. -/
theorem sessionIdOfFile_castPath (userId : UserId) (h : Allocated id) :
    sessionIdOfFile (castPath userId id) = id := by
  rw [sessionIdOfFile_of_baseName (baseName_castPath userId h) (by simp [CAST_PREFIX]),
    withoutCastPrefix_append h.ne_nil]

/-- A file that is no image by its name is taken for one of the id that is its name. -/
theorem sessionIdOfFile_of_no_image {file : Path} (h : ¬ FILE_SUFFIX <:+: baseName file) :
    sessionIdOfFile file = withoutCastPrefix (baseName file) := by
  simp only [sessionIdOfFile, rfind_eq_none h]

end Paths

/-! ## What a cleanup leaves -/

section Claims

variable {dirs : DirLib} {m : UsersManager} {u : UserId} {disk after : Disk}

/-- The session is in one of the containers. -/
def Live (m : UsersManager) (x : SessionRef) : Prop :=
  x ∈ m.getContainerFromAll.getAllSessions ∨ ∃ v, x ∈ (m.getContainerFromUser v).getAllSessions

/-- The ids of the sessions in the container of a user. -/
def aliveSessionIds (m : UsersManager) (u : UserId) : List Path :=
  (m.getContainerFromUser u).getAllSessions.map fun x => (m.items x).sessionId.toList

/-- The images that live sessions of the user read are kept, no image of a session that is not
live is left, and files whose name is not that of an image are left alone. -/
structure Cleaned (m : UsersManager) (u : UserId) (disk after : Disk) : Prop where
  kept : ∀ x isCast, Live m x → (m.items x).userId = u →
    after.lookup (imagePath (m.items x) isCast) = disk.lookup (imagePath (m.items x) isCast)
  gone : ∀ id, Allocated id → (∀ x, Live m x → (m.items x).sessionId.toList ≠ id) →
    after.lookup (localPath u id) = none ∧ after.lookup (castPath u id) = none
  untouched : ∀ file, ¬ FILE_SUFFIX <:+: baseName file → after.lookup file = disk.lookup file

/-- The live sessions of the user that have an image are in its container; and a file in the cache
that has the suffix in the name of a directory only is named like the id of one of them. -/
structure Fits (m : UsersManager) (u : UserId) (disk : Disk) : Prop where
  owned : ∀ x isCast, Live m x → (m.items x).userId = u →
    disk.lookup (imagePath (m.items x) isCast) ≠ none →
    (m.items x).sessionId.toList ∈ aliveSessionIds m u
  named : ∀ file, disk.lookup file ≠ none → getCachePathName u <+: file →
    FILE_SUFFIX <:+: file → ¬ FILE_SUFFIX <:+: baseName file →
    withoutCastPrefix (baseName file) ∈ aliveSessionIds m u

/-- The cache directory ends in its slash already. -/
theorem includeTrailing_cache (u : UserId) :
    includeTrailingPathDelimiter (getCachePathName u) = getCachePathName u := by
  rw [includeTrailingPathDelimiter, if_pos]
  rw [getCachePathName_eq, List.getLast?_append]
  rfl

/-- What is below the directory of cast images is in the cache. -/
theorem cache_prefix_of_cast {file : Path}
    (h : includeTrailingPathDelimiter (getCachePathNameForCast u) <+: file) :
    getCachePathName u <+: file := by
  have hcast : getCachePathName u <+: getCachePathNameForCast u := List.prefix_append _ _
  apply (hcast.trans _).trans h
  rw [includeTrailingPathDelimiter]
  split
  · exact List.prefix_rfl
  · exact List.prefix_append _ _

/-- **Both sweeps.** The second one finds nothing that the first one left. -/
theorem lookup_cleanupCacheOnUnlock (hdirs : dirs.Documented) (m : UsersManager) (disk : Disk)
    (userId : UserId) (g : Path) :
    (cleanupCacheOnUnlock dirs m disk userId).lookup g =
      if getCachePathName (m.effectiveUser userId) <+: g ∧
        Deletes (aliveSessionIds m (m.effectiveUser userId)) g then none
      else disk.lookup g := by
  have hfirst := lookup_deleteCacheFilesExcluding hdirs disk
    (getCachePathName (m.effectiveUser userId)) (aliveSessionIds m (m.effectiveUser userId)) g
  rw [includeTrailing_cache] at hfirst
  change (deleteCacheFilesExcluding dirs _ _ (aliveSessionIds m (m.effectiveUser userId))).lookup
    g = _
  rw [lookup_deleteCacheFilesExcluding hdirs]
  change (if _ then none else (deleteCacheFilesExcluding dirs disk _
    (aliveSessionIds m (m.effectiveUser userId))).lookup g) = _
  rw [hfirst]
  by_cases hsecond : includeTrailingPathDelimiter
      (getCachePathNameForCast (m.effectiveUser userId)) <+: g ∧
      Deletes (aliveSessionIds m (m.effectiveUser userId)) g
  · rw [if_pos hsecond, if_pos ⟨cache_prefix_of_cast hsecond.1, hsecond.2⟩]
  · rw [if_neg hsecond]

/-- A local image lies in the cache directory. -/
theorem cache_prefix_localPath (u : UserId) (id : Path) : getCachePathName u <+: localPath u id :=
  List.prefix_append _ _

/-- A cast image lies in the cache directory. -/
theorem cache_prefix_castPath (u : UserId) (id : Path) : getCachePathName u <+: castPath u id :=
  (List.prefix_append (getCachePathName u) CAST_PREFIX).trans (List.prefix_append _ _)

/-- A local image has the suffix. -/
theorem suffix_infix_localPath (u : UserId) (id : Path) : FILE_SUFFIX <:+: localPath u id :=
  ⟨getCachePathName u ++ id, [], by simp [localPath, List.append_assoc]⟩

/-- A cast image has the suffix. -/
theorem suffix_infix_castPath (u : UserId) (id : Path) : FILE_SUFFIX <:+: castPath u id :=
  ⟨getCachePathNameForCast u ++ id, [], by simp [castPath, List.append_assoc]⟩

/-- **An image** is deleted exactly if its id is not retained. -/
theorem deletes_imagePath_iff {session : AVSessionItem} (h : Allocated session.sessionId.toList)
    (isCast : Bool) (retained : List Path) :
    (getCachePathName session.userId <+: imagePath session isCast ∧
      Deletes retained (imagePath session isCast)) ↔ session.sessionId.toList ∉ retained := by
  rw [imagePath_eq, Deletes]
  by_cases hcast : isCast = true
  · rw [if_pos hcast, sessionIdOfFile_castPath _ h]
    simp only [cache_prefix_castPath, suffix_infix_castPath, true_and]
  · rw [if_neg hcast, sessionIdOfFile_localPath _ h]
    simp only [cache_prefix_localPath, suffix_infix_localPath, true_and]

/-- What a clean sweep keeps is retained by the code. -/
theorem fits_of_cleaned (hids : ∀ x, Allocated (m.items x).sessionId.toList)
    (hlookup : ∀ g, after.lookup g =
      if getCachePathName u <+: g ∧ Deletes (aliveSessionIds m u) g then none else disk.lookup g)
    (hcleaned : Cleaned m u disk after) : Fits m u disk := by
  constructor
  · intro x isCast hlive hu hfile
    by_contra hid
    have hkept := hcleaned.kept x isCast hlive hu
    rw [hlookup, if_pos] at hkept
    · exact hfile hkept.symm
    · rw [← hu]
      exact (deletes_imagePath_iff (hids x) isCast _).mpr (by rwa [hu])
  · intro file hfile hbelow hsuffix hname
    by_contra hid
    have huntouched := hcleaned.untouched file hname
    rw [hlookup, if_pos] at huntouched
    · exact hfile huntouched.symm
    · exact ⟨hbelow, hsuffix, by rwa [sessionIdOfFile_of_no_image hname]⟩

/-- A directory that fits is cleaned by the loop. -/
theorem cleaned_of_fits (hids : ∀ x, Allocated (m.items x).sessionId.toList)
    (hlookup : ∀ g, after.lookup g =
      if getCachePathName u <+: g ∧ Deletes (aliveSessionIds m u) g then none else disk.lookup g)
    (hfits : Fits m u disk) : Cleaned m u disk after := by
  constructor
  · intro x isCast hlive hu
    rw [hlookup]
    by_cases hfile : disk.lookup (imagePath (m.items x) isCast) = none
    · rw [hfile, ite_self]
    · rw [if_neg]
      have hid := hfits.owned x isCast hlive hu hfile
      rw [← hu] at hid ⊢
      rw [deletes_imagePath_iff (hids x)]
      exact not_not.mpr hid
  · intro id hid hdead
    have hnot : id ∉ aliveSessionIds m u := by
      intro hmem
      obtain ⟨x, hx, rfl⟩ := List.mem_map.mp hmem
      exact hdead x (Or.inr ⟨u, hx⟩) rfl
    constructor
    · rw [hlookup, if_pos]
      refine ⟨cache_prefix_localPath u id, suffix_infix_localPath u id, ?_⟩
      rwa [sessionIdOfFile_localPath _ hid]
    · rw [hlookup, if_pos]
      refine ⟨cache_prefix_castPath u id, suffix_infix_castPath u id, ?_⟩
      rwa [sessionIdOfFile_castPath _ hid]
  · intro file hname
    rw [hlookup]
    by_cases hfile : disk.lookup file = none
    · rw [hfile, ite_self]
    · rw [if_neg]
      rintro ⟨hbelow, hsuffix, hid⟩
      rw [sessionIdOfFile_of_no_image hname] at hid
      exact hid (hfits.named file hfile hbelow hsuffix hname)

/-- The clean-up does its work exactly when the directory fits. -/
theorem cleaned_iff_fits (hdirs : dirs.Documented) (m : UsersManager)
    (hids : ∀ x, Allocated (m.items x).sessionId.toList) (disk : Disk) (userId : UserId) :
    Cleaned m (m.effectiveUser userId) disk (cleanupCacheOnUnlock dirs m disk userId) ↔
      Fits m (m.effectiveUser userId) disk := by
  have hlookup := lookup_cleanupCacheOnUnlock hdirs m disk userId
  constructor
  · exact fits_of_cleaned hids hlookup
  · exact cleaned_of_fits hids hlookup

/-- No call of a run changes the id of a session. -/
theorem sessionId_run (m : UsersManager) (ops : List ManagerOp) (x : SessionRef) :
    ((run (fun m op => ManagerOp.step m op) m ops).items x).sessionId = (m.items x).sessionId := by
  induction ops generalizing m with
  | nil => rfl
  | cons op ops ih => rw [run_cons, ih, sessionId_step]

/-- After any calls of the manager, a cleanup keeps and deletes what it should exactly if the live
sessions of the user are in its container as far as they have images, and no directory in the
cache is named like an image and holds another file. -/
theorem cleaned_iff (dirs : DirLib) (hdirs : dirs.Documented) (items : Items)
    (hids : ∀ x, Allocated (items x).sessionId.toList) (curUserId : UserId)
    (ops : List ManagerOp) (disk : Disk) (userId : UserId) :
    let m := run (fun m op => ManagerOp.step m op) (UsersManager.init items curUserId) ops
    Cleaned m (m.effectiveUser userId) disk (cleanupCacheOnUnlock dirs m disk userId) ↔
      Fits m (m.effectiveUser userId) disk := by
  apply cleaned_iff_fits hdirs
  intro x
  rw [sessionId_run]
  exact hids x

/-- Listing by the beginnings of the paths. -/
def listedDirs : DirLib where
  getDirFiles disk dir :=
    (disk.map Prod.fst).filter fun file => (includeTrailingPathDelimiter dir).isPrefixOf file

/-- The listing used below behaves as documented. -/
theorem listedDirs_documented : listedDirs.Documented where
  mem_getDirFiles disk dir file := by
    have hlisted : file ∈ disk.map Prod.fst ↔ disk.lookup file ≠ none := by
      rw [ne_eq, List.lookup_eq_none_iff]
      constructor
      · intro hmem hall
        obtain ⟨e, he, rfl⟩ := List.mem_map.mp hmem
        have hne := hall e he
        simp at hne
      · intro hsome
        by_contra hno
        apply hsome
        intro e he
        have hne : file ≠ e.1 := by
          rintro rfl
          exact hno (List.mem_map_of_mem he)
        simpa using hne
    rw [listedDirs, List.mem_filter, hlisted, List.isPrefixOf_iff_prefix]

/-- Sessions of user 100 with one id. -/
def oneId : Items := fun _ =>
  { sessionId := String.ofList (sessionIdOfHash [0x0A])
    sessionType := .audio
    bundleName := "bundle"
    abilityName := "a"
    pid := 1
    uid := 20000000
    userId := 100
    isTop := false
    isDestroyed := false
    hasCastProxy := false
    controllers := ∅ }

/-- The id used below is an allocated one. -/
theorem allocated_oneId (x : SessionRef) : Allocated (oneId x).sessionId.toList :=
  ⟨[0x0A], by decide, String.toList_ofList⟩

/-- The image of a session that is registered, and the cast image of one that is gone. -/
def twoImages : Disk :=
  [(localPath 100 (sessionIdOfHash [0x0A]), [1]), (castPath 100 (sessionIdOfHash [0x0B]), [2])]

/-- A local and a cast image of a living session both stay. -/
theorem cleaned_of_twoImages :
    Cleaned (run (fun m op => ManagerOp.step m op) (UsersManager.init oneId 100)
        [.addSessionForCurrentUser 1 "a" 0 0]) 100 twoImages
      (cleanupCacheOnUnlock listedDirs
        (run (fun m op => ManagerOp.step m op) (UsersManager.init oneId 100)
          [.addSessionForCurrentUser 1 "a" 0 0]) twoImages 100) := by
  refine (cleaned_iff listedDirs listedDirs_documented oneId allocated_oneId 100
    [.addSessionForCurrentUser 1 "a" 0 0] twoImages 100).mpr ⟨?_, ?_⟩
  · intro x isCast _ _ _
    have halive : aliveSessionIds (run (fun m op => ManagerOp.step m op)
      (UsersManager.init oneId 100) [.addSessionForCurrentUser 1 "a" 0 0]) 100 =
        [sessionIdOfHash [0x0A]] := by decide
    change (oneId x).sessionId.toList ∈ aliveSessionIds (run (fun m op => ManagerOp.step m op)
      (UsersManager.init oneId 100) [.addSessionForCurrentUser 1 "a" 0 0]) 100
    rw [halive, oneId, String.toList_ofList]
    exact List.mem_singleton_self _
  · intro file hfile _ _ hname
    have hlocal : Allocated (sessionIdOfHash [0x0A]) := ⟨[0x0A], by decide, rfl⟩
    have hcast : Allocated (sessionIdOfHash [0x0B]) := ⟨[0x0B], by decide, rfl⟩
    have hlisted : ∃ e ∈ twoImages, e.1 = file := by
      by_contra hno
      apply hfile
      rw [List.lookup_eq_none_iff]
      intro e he
      simpa using fun heq : file = e.1 => hno ⟨e, he, heq.symm⟩
    -- both names have the suffix
    obtain ⟨e, he, rfl⟩ := hlisted
    exfalso
    apply hname
    rcases List.mem_cons.mp he with rfl | he
    · rw [baseName_localPath 100 hlocal]
      exact (List.suffix_append _ _).isInfix
    · rw [List.mem_singleton.mp he, baseName_castPath 100 hcast]
      exact (List.suffix_append _ _).isInfix

/-- A directory that is named like an image: the file in it is deleted. -/
theorem other_file_deleted : ¬ ∀ disk, Cleaned (UsersManager.init oneId 100) 100 disk
    (cleanupCacheOnUnlock listedDirs (UsersManager.init oneId 100) disk 100) := by
  intro h
  obtain ⟨file, hfile⟩ : ∃ file, file = getCachePathName 100 ++ 'x' :: FILE_SUFFIX ++
    '/' :: "list".toList := ⟨_, rfl⟩
  have hname : baseName file = "list".toList := by
    rw [hfile]
    exact baseName_append (by decide) _
  have hno : ¬ FILE_SUFFIX <:+: baseName file := by
    rw [hname]
    decide
  have hkept := (h [(file, [1])]).untouched file hno
  have hdeleted := lookup_cleanupCacheOnUnlock listedDirs_documented (UsersManager.init oneId 100)
    [(file, [1])] 100 file
  rw [if_pos] at hdeleted
  · rw [hdeleted] at hkept
    simp at hkept
  · refine ⟨?_, ?_, ?_⟩
    · rw [hfile, List.append_assoc]
      exact List.prefix_append _ _
    · rw [hfile]
      exact ⟨getCachePathName 100 ++ ['x'], '/' :: "list".toList, by
        simp only [List.append_assoc, List.cons_append, List.nil_append]⟩
    · simp [aliveSessionIds, UsersManager.init, UsersManager.getContainerFromUser,
        SessionStack.getAllSessions, SessionStack.empty]

end Claims

end AvSession.Service.CacheCleanup
