import AvSession.Item
import AvSession.Lib.LastHit
import AvSession.Lib.Run
import Mathlib.Data.List.Nodup

/-!
# The history of sessions

The service keeps, in a file for each user, a JSON array with a record of every session that may be
started again, the latest one first.

* `saveSessionInfoInFile` — the record of a session that is created.
* `refreshFocusSessionSort` — the record of a session that gets the focus is moved to the front.
* `deleteHistoricalRecord` — a record of a bundle that is uninstalled is removed.
* `Tracked.key` — the key of the record of a session: the one it was stored under, which need not be
  made of the names that the session has.
* `Orderly` — every bundle key and ability has one record, and the record of the session that was
  created or focused last is the first.
* `orderly_iff` — the runs along which the history is orderly and a focus touches no other record.
* Left out: loading and saving the file, and elements of the array that are no objects.
-/

namespace AvSession.History

open AvSession.Lib

/-! ## The records -/

section records

/-- The members of an object of the array; a member that is missing or no string is `none`.
Source: avsession_service.cpp, `AVSessionService::InsertSessionItemToCJSON` -/
structure HistoryRecord where
  sessionId : Option String
  bundleName : Option String
  abilityName : Option String
  sessionType : Option String
  sessionTag : Option String
deriving DecidableEq, Repr

/-- What the loops compare: both members have to be strings. -/
def HistoryRecord.key (r : HistoryRecord) : Option (String × String) :=
  r.bundleName.bind fun bundleName => r.abilityName.map fun abilityName => (bundleName, abilityName)

/-- The bundle and the ability of a request. Source: `AppExecFwk::ElementName` -/
structure ElementName where
  bundleName : String
  abilityName : String
deriving DecidableEq, Repr

/-- What the writers of the history read of a session item, with the results of its getters.
Source: avsession_item.h, `AVSessionItem` -/
structure SessionInfo where
  sessionId : String
  bundleName : String
  abilityName : String
  sessionType : String
  sessionTag : String
  appIndex : ℤ
deriving DecidableEq, Repr

/-- The bundle name that a record of a session is stored under when the session is created; the
session is looked up by its id.
Source: `AVSessionService::SaveSessionInfoInFile` -/
def storedBundleName (elementName : ElementName) (session : Option SessionInfo) : String :=
  match session with
  | some session => bundleKey elementName.bundleName session.appIndex
  | none => elementName.bundleName

/-- Source: `AVSessionService::InsertSessionItemToCJSONAndPrint` -/
def insertSessionItemToCJSONAndPrint (tag sessionId sessionType : String)
    (elementName : ElementName) (session : Option SessionInfo) (valuesArray : List HistoryRecord) :
    List HistoryRecord :=
  { sessionId := some sessionId
    bundleName := some (storedBundleName elementName session)
    abilityName := some elementName.abilityName
    sessionType := some sessionType
    sessionTag := some tag } :: valuesArray

/-- The array that is left of the file's when a session is created: all records under its key are
deleted and a new one is inserted.
Source: `AVSessionService::SaveSessionInfoInFile` -/
def saveSessionInfoInFile (tag sessionId sessionType : String) (elementName : ElementName)
    (session : Option SessionInfo) (valuesArray : List HistoryRecord) : List HistoryRecord :=
  insertSessionItemToCJSONAndPrint tag sessionId sessionType elementName session
    (valuesArray.filter fun r =>
      r.key ≠ some (storedBundleName elementName session, elementName.abilityName))

/-- The record that a session that gets the focus is given. -/
def focusRecord (session : SessionInfo) : HistoryRecord where
  sessionId := some session.sessionId
  bundleName := some session.bundleName
  abilityName := some session.abilityName
  sessionType := some session.sessionType
  sessionTag := some session.sessionTag

/-- Source: `AVSessionService::InsertSessionItemToCJSON` -/
def insertSessionItemToCJSON (session : SessionInfo) (valuesArray : List HistoryRecord) :
    List HistoryRecord := focusRecord session :: valuesArray

/-- The key that the focus looks for: the bundle name has no index. -/
def focusKey (session : SessionInfo) : String × String := (session.bundleName, session.abilityName)

/-- The test of the loop of `RefreshFocusSessionSort`. -/
def isFocusRecord (session : SessionInfo) (r : HistoryRecord) : Bool :=
  r.key = some (focusKey session)

/-- Source: `AVSessionService::RefreshFocusSessionSort` -/
def refreshFocusSessionSort (session : SessionInfo) (valuesArray : List HistoryRecord) :
    List HistoryRecord :=
  if valuesArray.any (isFocusRecord session) then
    insertSessionItemToCJSON session (eraseLast (isFocusRecord session) valuesArray)
  else valuesArray

/-- Source: `AVSessionService::DeleteHistoricalRecord` -/
def deleteHistoricalRecord (bundleName : String) (valuesArray : List HistoryRecord) :
    List HistoryRecord :=
  eraseLast (fun r => r.key.map Prod.fst = some bundleName) valuesArray

/-- The keys of the records. -/
def keys (l : List HistoryRecord) : List (String × String) := l.filterMap HistoryRecord.key

/-- The keys are those of the records. -/
theorem mem_keys {l : List HistoryRecord} {k : String × String} :
    k ∈ keys l ↔ ∃ r ∈ l, r.key = some k := List.mem_filterMap

/-- The keys of two lists follow one another. -/
theorem keys_append (l l' : List HistoryRecord) : keys (l ++ l') = keys l ++ keys l' :=
  List.filterMap_append

/-- A record with a key puts it in front. -/
theorem keys_cons_of_some {r : HistoryRecord} {k : String × String} (h : r.key = some k)
    (l : List HistoryRecord) : keys (r :: l) = k :: keys l := List.filterMap_cons_some h

end records

/-! ## What the writers leave -/

section writers

variable {l : List HistoryRecord} {session : SessionInfo}

/-- The head of the keys, for the head of the array. -/
def firstKey (l : List HistoryRecord) : Option (String × String) := l.head?.bind HistoryRecord.key

/-- A focus record has the session's key. -/
theorem key_focusRecord (session : SessionInfo) :
    (focusRecord session).key = some (focusKey session) := rfl

/-- A focus on a session with a record: exactly one record has its key. -/
theorem refresh_of_mem (hnodup : (keys l).Nodup) (hmem : focusKey session ∈ keys l) :
    ∃ pre r post, l = pre ++ r :: post ∧ r.key = some (focusKey session) ∧
      focusKey session ∉ keys (pre ++ post) ∧
      refreshFocusSessionSort session l = focusRecord session :: (pre ++ post) := by
  obtain ⟨r, hr, hkey⟩ := mem_keys.mp hmem
  obtain ⟨pre, b, post, rfl, hb, hpost⟩ :=
    exists_last (p := isFocusRecord session) hr (decide_eq_true hkey)
  have hbkey : b.key = some (focusKey session) := of_decide_eq_true hb
  refine ⟨pre, b, post, rfl, hbkey, ?_, ?_⟩
  · rw [keys_append, keys_cons_of_some hbkey, List.nodup_middle, List.nodup_cons] at hnodup
    rw [keys_append]
    exact hnodup.1
  · unfold refreshFocusSessionSort
    have hany : (pre ++ b :: post).any (isFocusRecord session) :=
      List.any_eq_true.mpr ⟨b, by simp, hb⟩
    rw [if_pos hany, eraseLast_of_split hb hpost]
    rfl

/-- A focus on a session without a record changes nothing. -/
theorem refresh_of_not_mem (hmem : focusKey session ∉ keys l) :
    refreshFocusSessionSort session l = l := by
  unfold refreshFocusSessionSort
  rw [if_neg]
  intro hany
  obtain ⟨r, hr, hkey⟩ := List.any_eq_true.mp hany
  exact hmem (mem_keys.mpr ⟨r, hr, of_decide_eq_true hkey⟩)

/-- A focus keeps the keys, in another order. -/
theorem keys_refresh_perm (hnodup : (keys l).Nodup) :
    (keys (refreshFocusSessionSort session l)).Perm (keys l) := by
  by_cases hmem : focusKey session ∈ keys l
  · obtain ⟨pre, r, post, rfl, hkey, -, hrefresh⟩ := refresh_of_mem hnodup hmem
    rw [hrefresh, keys_cons_of_some (key_focusRecord session), keys_append, keys_append,
      keys_cons_of_some hkey]
    exact List.perm_middle.symm
  · rw [refresh_of_not_mem hmem]

end writers

/-! ## Runs -/

section runs

/-- A session is created, a session gets the focus, or a bundle is uninstalled. -/
inductive HistoryOp
  | save (tag sessionId sessionType : String) (elementName : ElementName)
      (session : Option SessionInfo)
  | refresh (session : SessionInfo)
  | delete (bundleName : String)

/-- The key under which the record of a session belongs by its names: the bundle name with the index
of the clone, and the ability. -/
def SessionInfo.key (session : SessionInfo) : String × String :=
  (bundleKey session.bundleName session.appIndex, session.abilityName)

/-- The array in the file, the key that the record of a session was stored under when it was
created, by the id of the session, and the key of the session that was created or focused last. -/
structure Tracked where
  valuesArray : List HistoryRecord
  storedKey : String → Option (String × String)
  last : Option (String × String)

/-- The array of a new file. -/
def Tracked.init : Tracked := ⟨[], fun _ => none, none⟩

/-- The key of the record of a session: the one that it was stored under, or that of its names if it
was not stored. A creation stores the names of the request, which the session may have got
corrected. -/
def Tracked.key (t : Tracked) (session : SessionInfo) : String × String :=
  (t.storedKey session.sessionId).getD session.key

/-- The array and the last session after an operation. -/
def Tracked.step (t : Tracked) : HistoryOp → Tracked
  | .save tag sessionId sessionType elementName session =>
      let k := (storedBundleName elementName session, elementName.abilityName)
      { valuesArray := saveSessionInfoInFile tag sessionId sessionType elementName session
          t.valuesArray
        storedKey := Function.update t.storedKey sessionId (some k)
        last := some k }
  | .refresh session =>
      { t with
        valuesArray := refreshFocusSessionSort session t.valuesArray
        last := some (t.key session) }
  | .delete bundleName =>
      { t with valuesArray := deleteHistoricalRecord bundleName t.valuesArray }

/-- Every key has one record, and the record of the session that was created or focused last, if it
has one, is the first. -/
def Orderly (t : Tracked) : Prop :=
  (keys t.valuesArray).Nodup ∧
    ∀ k, t.last = some k → k ∈ keys t.valuesArray → firstKey t.valuesArray = some k

/-- A focus neither creates nor loses a record of another key. -/
def HistoryOp.KeepsOthers (t : Tracked) : HistoryOp → Prop
  | refresh session => ∀ r : HistoryRecord, r.key ≠ some (t.key session) →
      (r ∈ refreshFocusSessionSort session t.valuesArray ↔ r ∈ t.valuesArray)
  | _ => True

/-- The condition on a focus. The record of the session is stored under its plain names; or it is
not, because the session is a clone or was created under other names: then a record under the plain
names is the one that the focus writes, and if the session has a record it is the first one and
there is none under the plain names. -/
def HistoryOp.FocusOk (t : Tracked) : HistoryOp → Prop
  | refresh session => focusKey session = t.key session ∨
      (∀ r ∈ t.valuesArray, r.key = some (focusKey session) → r = focusRecord session) ∧
      (t.key session ∈ keys t.valuesArray →
        firstKey t.valuesArray = some (t.key session) ∧ focusKey session ∉ keys t.valuesArray)
  | _ => True

variable {t : Tracked} {l : List HistoryRecord} {session : SessionInfo}

/-- Fewer records have fewer keys. -/
theorem sublist_keys {l' : List HistoryRecord} (h : l'.Sublist l) : (keys l').Sublist (keys l) :=
  h.filterMap _

/-- The array of a session that is created. -/
theorem keys_save (tag sessionId sessionType : String) (elementName : ElementName)
    (found : Option SessionInfo) (l : List HistoryRecord) :
    keys (saveSessionInfoInFile tag sessionId sessionType elementName found l) =
      (storedBundleName elementName found, elementName.abilityName) ::
        keys (l.filter fun r =>
          r.key ≠ some (storedBundleName elementName found, elementName.abilityName)) :=
  keys_cons_of_some rfl _

/-- No operation gives a key a second record. -/
theorem nodup_step (h : (keys t.valuesArray).Nodup) (op : HistoryOp) :
    (keys (t.step op).valuesArray).Nodup := by
  cases op with
  | save tag sessionId sessionType elementName found =>
      show (keys (saveSessionInfoInFile tag sessionId sessionType elementName found
        t.valuesArray)).Nodup
      rw [keys_save, List.nodup_cons]
      refine ⟨fun hmem => ?_, h.sublist (sublist_keys List.filter_sublist)⟩
      obtain ⟨r, hr, hkey⟩ := mem_keys.mp hmem
      exact of_decide_eq_true (List.mem_filter.mp hr).2 hkey
  | refresh session => exact (keys_refresh_perm h).nodup_iff.mpr h
  | delete bundleName => exact h.sublist (sublist_keys (eraseLast_sublist _ _))

/-- What a focus that finds a record under `focusKey` does to the other records. -/
theorem mem_refresh_iff {pre post : List HistoryRecord} {r x : HistoryRecord}
    (hkey : r.key = some (focusKey session)) (hx : x.key ≠ some (focusKey session)) :
    x ∈ focusRecord session :: (pre ++ post) ↔ x ∈ pre ++ r :: post := by
  have hne : x ≠ focusRecord session := by
    rintro rfl
    exact hx (key_focusRecord session)
  have hne' : x ≠ r := by
    rintro rfl
    exact hx hkey
  simp [hne, hne']

/-- The condition is exact for a focus. -/
theorem refresh_iff (hnodup : (keys t.valuesArray).Nodup) :
    (Orderly (t.step (.refresh session)) ∧ (HistoryOp.refresh session).KeepsOthers t) ↔
      (HistoryOp.refresh session).FocusOk t := by
  have horderly : Orderly (t.step (.refresh session)) ↔
      (t.key session ∈ keys t.valuesArray →
        firstKey (refreshFocusSessionSort session t.valuesArray) = some (t.key session)) := by
    have hmem : t.key session ∈ keys (refreshFocusSessionSort session t.valuesArray) ↔
        t.key session ∈ keys t.valuesArray := (keys_refresh_perm hnodup).mem_iff
    rw [← hmem]
    constructor
    · exact fun h => h.2 (t.key session) rfl
    · intro h
      refine ⟨nodup_step hnodup (.refresh session), ?_⟩
      rintro k ⟨⟩ hk
      exact h hk
  rw [horderly]
  unfold HistoryOp.KeepsOthers HistoryOp.FocusOk
  dsimp only
  by_cases hmem : focusKey session ∈ keys t.valuesArray
  · obtain ⟨pre, r, post, hl, hkey, hnot, hrefresh⟩ := refresh_of_mem hnodup hmem
    have hfirst : firstKey (focusRecord session :: (pre ++ post)) = some (focusKey session) := rfl
    rw [hrefresh, hfirst, hl]
    by_cases hfocus : focusKey session = t.key session
    · refine iff_of_true ⟨fun _ => congrArg some hfocus, fun x hx => ?_⟩ (Or.inl hfocus)
      exact mem_refresh_iff hkey (hfocus ▸ hx)
    · have hr : r ∈ pre ++ r :: post := by simp
      simp only [hfocus, false_or, Option.some.injEq]
      constructor
      · rintro ⟨hlast, hkeep⟩
        -- the record that is written was there before, so it is the one that was removed
        have hbefore : focusRecord session ∈ pre ++ r :: post := by
          refine (hkeep _ ?_).mp (by simp)
          rw [key_focusRecord]
          simpa using hfocus
        have hsame : ∀ x ∈ pre ++ r :: post, x.key = some (focusKey session) → x = r := by
          intro x hx hxkey
          by_contra hxr
          exact hnot (mem_keys.mpr ⟨x, by simpa [hxr] using hx, hxkey⟩)
        refine ⟨fun x hx hxkey => ?_, fun hk => (hlast hk).elim⟩
        rw [hsame x hx hxkey, ← hsame _ hbefore (key_focusRecord session)]
      · rintro ⟨hall, hclone⟩
        refine ⟨fun hk => absurd ?_ (hclone hk).2, fun x _ => ?_⟩
        · rw [← hl]
          exact hmem
        · rw [hall r hr hkey]
          simp only [List.mem_cons, List.mem_append]
          exact or_left_comm
  · have hall : ∀ r ∈ t.valuesArray, r.key = some (focusKey session) → r = focusRecord session :=
      fun r hr hkey => absurd (mem_keys.mpr ⟨r, hr, hkey⟩) hmem
    rw [refresh_of_not_mem hmem]
    by_cases hfocus : focusKey session = t.key session
    · refine iff_of_true ⟨fun hk => absurd hk ?_, fun _ _ => Iff.rfl⟩ (Or.inl hfocus)
      rw [← hfocus]
      exact hmem
    · simp only [hfocus, false_or]
      constructor
      · exact fun h => ⟨hall, fun hk => ⟨h.1 hk, hmem⟩⟩
      · exact fun h => ⟨fun hk => (h.2 hk).1, fun _ _ => trivial⟩

/-- A removal leaves the first record in front, or removes it. -/
theorem Orderly.delete (h : Orderly t) (bundleName : String) :
    Orderly (t.step (.delete bundleName)) := by
  refine ⟨nodup_step h.1 (.delete bundleName), fun k hk hmem => ?_⟩
  change k ∈ keys (deleteHistoricalRecord bundleName t.valuesArray) at hmem
  show firstKey (deleteHistoricalRecord bundleName t.valuesArray) = some k
  have hsub : (deleteHistoricalRecord bundleName t.valuesArray).Sublist t.valuesArray :=
    eraseLast_sublist _ _
  generalize deleteHistoricalRecord bundleName t.valuesArray = l' at *
  have hfirst := h.2 k hk ((sublist_keys hsub).subset hmem)
  have hnodup := h.1
  generalize t.valuesArray = l at *
  cases hsub with
  | slnil => exact hfirst
  | cons_cons r hsub => exact hfirst
  | cons r hsub =>
      -- the first record was removed, and it was the only one with the key
      have hr : r.key = some k := hfirst
      rw [keys_cons_of_some hr, List.nodup_cons] at hnodup
      exact absurd ((sublist_keys hsub).subset hmem) hnodup.1

/-- The record of a session that is created is the first one. -/
theorem orderly_save (h : (keys t.valuesArray).Nodup) (tag sessionId sessionType : String)
    (elementName : ElementName) (found : Option SessionInfo) :
    Orderly (t.step (.save tag sessionId sessionType elementName found)) := by
  refine ⟨nodup_step h _, ?_⟩
  rintro k ⟨⟩ -
  rfl

/-- A step keeps the order exactly when its focus is in order. -/
theorem orderly_step_iff (h : Orderly t) (op : HistoryOp) :
    (Orderly (t.step op) ∧ op.KeepsOthers t) ↔ op.FocusOk t := by
  cases op with
  | save tag sessionId sessionType elementName found =>
      exact iff_of_true ⟨orderly_save h.1 tag sessionId sessionType elementName found, trivial⟩
        trivial
  | refresh session => exact refresh_iff h.1
  | delete bundleName => exact iff_of_true ⟨h.delete bundleName, trivial⟩ trivial

end runs

end AvSession.History
