import AvSession.Item
import AvSession.Lib.OrderedMap
import AvSession.Lib.Run

/-!
# The session stack

`SessionStack` keeps a set of sessions twice: the map `sessions_` from `(pid, abilityName)` to the
session, and the list `stack_` ordered by the last use. This file models the container and settles
when the two agree.

* `addSession`, `updateSessionSort`, `removeSessionByPid`, `removeSessionById`, `removeSession` —
  the operations that write, and the lookups `getSession`, `getSessionById`, `getSessionByUid`, ….
* `Rep` — the representation invariant: the list is duplicate free and lists the values of the map,
  of which there are at most `SESSION_NUM_MAX`.
* The removals keep `Rep` unconditionally (`Rep.removeSession`, …); the two operations that push
  keep it exactly under a condition (`Rep.addSession_iff`, `Rep.updateSessionSort_iff`).
* `rep_always_iff` — the runs along which the invariant, with all its consequences for the
  lookups, never breaks.
-/

set_option linter.unusedSectionVars false

namespace AvSession.Registry

open Std AvSession.Lib AvSession.Lib.OrderedMap

/-! ## The container -/

section container

/-- The key of the map: `std::pair<pid_t, std::string>`. -/
structure SessionKey where
  pid : Pid
  abilityName : String
deriving DecidableEq, Repr

/-- The key under which an update looks for a session: the pid and ability of the item. -/
def itemKey (items : Items) (item : SessionRef) : SessionKey :=
  ⟨(items item).pid, (items item).abilityName⟩

/-- The order of `std::pair`. -/
abbrev SessionKey.cmp : SessionKey → SessionKey → Ordering :=
  lexCmp SessionKey.pid SessionKey.abilityName

instance : LawfulEqCmp SessionKey.cmp :=
  lawfulEqCmp_lexCmp fun ⟨_, _⟩ ⟨_, _⟩ hp ha => by subst hp ha; rfl

instance : TransCmp SessionKey.cmp := inferInstance

/-- The type of `sessions_`. -/
abbrev SessionMap := ExtTreeMap SessionKey SessionRef SessionKey.cmp

/-- The capacity of a container.
Source: session_container.h, `SessionContainer::SESSION_NUM_MAX` -/
def SESSION_NUM_MAX : ℕ := 50

/-- The container: the map `sessions_` and the list `stack_`, the newest session first.
Source: session_stack.h, `SessionStack` -/
structure SessionStack where
  sessions : SessionMap
  stack : List SessionRef

namespace SessionStack

/-- A container as it is constructed. -/
def empty : SessionStack := ⟨∅, []⟩

/-- `sessions_.insert` and `stack_.push_front`: the map keeps the old value of a key that is already
there, the item is pushed in either case. -/
def push (s : SessionStack) (key : SessionKey) (item : SessionRef) : SessionStack :=
  { sessions := s.sessions.insertIfNew key item
    stack := item :: s.stack }

/-- Source: session_stack.cpp, `SessionStack::AddSession` -/
def addSession (s : SessionStack) (pid : Pid) (abilityName : String) (item : SessionRef) :
    SessionStack × RetCode :=
  if s.sessions.size ≥ SESSION_NUM_MAX then (s, .errSessionExceedMax)
  else (s.push ⟨pid, abilityName⟩ item, .success)

/-- Erase one entry of the map and remove its session from the list (`std::list::remove` drops
every occurrence). -/
def eraseEntry (s : SessionStack) (e : SessionKey × SessionRef) : SessionStack :=
  { sessions := s.sessions.erase e.1
    stack := s.stack.filter (· ≠ e.2) }

/-- Source: session_stack.cpp, `SessionStack::UpdateSessionSort` -/
def updateSessionSort (items : Items) (s : SessionStack) (item : SessionRef) : SessionStack :=
  match s.sessions[itemKey items item]? with
  | none => s
  | some old => (s.eraseEntry (itemKey items item, old)).push (itemKey items item) item

/-- The entries that a removal loop erases, in key order. -/
def hits (s : SessionStack) (p : SessionKey × SessionRef → Bool) : List (SessionKey × SessionRef) :=
  s.sessions.toList.filter p

/-- Source: session_stack.cpp, `SessionStack::RemoveSession(pid_t)` -/
def removeSessionByPid (s : SessionStack) (pid : Pid) : SessionStack × List SessionRef :=
  let hit := s.hits fun e => e.1.pid == pid
  (hit.foldl eraseEntry s, hit.map Prod.snd)

/-- The result is the last session the loop removes.
Source: session_stack.cpp, `SessionStack::RemoveSession(const std::string&)` -/
def removeSessionById (items : Items) (s : SessionStack) (sessionId : String) :
    SessionStack × Option SessionRef :=
  let hit := s.hits fun e => (items e.2).sessionId == sessionId
  (hit.foldl eraseEntry s, (hit.map Prod.snd).getLast?)

/-- Source: session_stack.cpp, `SessionStack::RemoveSession(pid_t, const std::string&)` -/
def removeSession (s : SessionStack) (pid : Pid) (abilityName : String) :
    SessionStack × Option SessionRef :=
  match s.sessions[(⟨pid, abilityName⟩ : SessionKey)]? with
  | none => (s, none)
  | some result => (s.eraseEntry (⟨pid, abilityName⟩, result), some result)

/-- Source: session_stack.cpp, `SessionStack::GetSession` -/
def getSession (s : SessionStack) (pid : Pid) (abilityName : String) : Option SessionRef :=
  s.sessions[(⟨pid, abilityName⟩ : SessionKey)]?

/-- Source: session_stack.cpp, `SessionStack::GetSessionsByPid` -/
def getSessionsByPid (s : SessionStack) (pid : Pid) : List SessionRef :=
  (s.hits fun e => e.1.pid == pid).map Prod.snd

/-- Source: session_stack.cpp, `SessionStack::PidHasSession` -/
def pidHasSession (s : SessionStack) (pid : Pid) : Bool :=
  s.sessions.toList.any fun e => e.1.pid == pid

/-- Source: session_stack.cpp, `SessionStack::GetSessionById` -/
def getSessionById (items : Items) (s : SessionStack) (sessionId : String) : Option SessionRef :=
  s.stack.find? fun x => (items x).sessionId == sessionId

/-- Source: session_stack.cpp, `SessionStack::GetSessionByUid` -/
def getSessionByUid (items : Items) (s : SessionStack) (uid : Uid) : Option SessionRef :=
  s.stack.find? fun x => (items x).uid == uid

/-- Source: session_stack.cpp, `SessionStack::GetAllSessions` -/
def getAllSessions (s : SessionStack) : List SessionRef := s.stack

end SessionStack

end container

/-! ## What the operations do to the map -/

section lookup

variable (s : SessionStack) (items : Items) {x : SessionRef}

/-- Erasing entries one after the other erases them from the map. -/
theorem sessions_foldl_eraseEntry (l : List (SessionKey × SessionRef)) :
    (l.foldl SessionStack.eraseEntry s).sessions = eraseAll s.sessions l := by
  induction l generalizing s with
  | nil => rfl
  | cons e l ih => exact ih (s.eraseEntry e)

/-- The map after all hits of a predicate are erased. -/
theorem getElem?_foldl_hits (p : SessionKey × SessionRef → Bool) (k : SessionKey) :
    ((s.hits p).foldl SessionStack.eraseEntry s).sessions[k]? =
      s.sessions[k]?.filter fun x => !p (k, x) := by
  rw [sessions_foldl_eraseEntry]
  exact getElem?_eraseAll_filter s.sessions p k

/-- The map after the sessions of an id are removed. -/
theorem getElem?_removeSessionById (sessionId : String) (k : SessionKey) :
    (s.removeSessionById items sessionId).1.sessions[k]? =
      s.sessions[k]?.filter fun x => !((items x).sessionId == sessionId) :=
  getElem?_foldl_hits s _ k

/-- The map after the session of a key is removed. -/
theorem getElem?_removeSession (pid : Pid) (abilityName : String) (k : SessionKey) :
    (s.removeSession pid abilityName).1.sessions[k]? =
      if ⟨pid, abilityName⟩ = k then none else s.sessions[k]? := by
  unfold SessionStack.removeSession
  cases hk : s.sessions[(⟨pid, abilityName⟩ : SessionKey)]? with
  | none =>
      split_ifs with heq
      · rw [← heq, hk]
      · rfl
  | some x => exact getElem?_erase _ k

/-- What is left has other ids. -/
theorem removeSessionById_eq_some_iff {sessionId : String} {k : SessionKey} :
    (s.removeSessionById items sessionId).1.sessions[k]? = some x ↔
      s.sessions[k]? = some x ∧ (items x).sessionId ≠ sessionId := by
  rw [getElem?_removeSessionById, Option.filter_eq_some_iff]
  simp

/-- What is left has other keys. -/
theorem removeSession_eq_some_iff {pid : Pid} {abilityName : String} {k : SessionKey} :
    (s.removeSession pid abilityName).1.sessions[k]? = some x ↔
      s.sessions[k]? = some x ∧ ⟨pid, abilityName⟩ ≠ k := by
  rw [getElem?_removeSession]
  split_ifs with heq
  · simp [heq]
  · simp [heq]

variable {s} in
/-- What is there after a push under a new key. -/
theorem push_eq_some_iff {k k' : SessionKey} {item : SessionRef} (hk : s.sessions[k]? = none) :
    (s.push k item).sessions[k']? = some x ↔ (k = k' ∧ item = x) ∨ s.sessions[k']? = some x := by
  rw [SessionStack.push, getElem?_insertIfNew_of_none hk]
  split_ifs with heq
  · subst heq
    simp [hk]
  · simp [heq]

/-- The session that is removed is the one of the key. -/
theorem snd_removeSession (pid : Pid) (abilityName : String) :
    (s.removeSession pid abilityName).2 = s.sessions[(⟨pid, abilityName⟩ : SessionKey)]? := by
  unfold SessionStack.removeSession
  cases s.sessions[(⟨pid, abilityName⟩ : SessionKey)]? <;> rfl

/-- The hits are the entries of the map that meet the predicate. -/
theorem mem_hits {p : SessionKey × SessionRef → Bool} {e : SessionKey × SessionRef} :
    e ∈ s.hits p ↔ s.sessions[e.1]? = some e.2 ∧ p e = true := by
  rw [SessionStack.hits, List.mem_filter]
  exact and_congr_left fun _ => mem_toList

/-- A removal by id that matches no session leaves the container as it is. -/
theorem removeSessionById_of_not_mem {sessionId : String}
    (h : ∀ (k : SessionKey) y, s.sessions[k]? = some y → (items y).sessionId ≠ sessionId) :
    s.removeSessionById items sessionId = (s, none) := by
  have hnil : s.hits (fun e => (items e.2).sessionId == sessionId) = [] := by
    rw [List.eq_nil_iff_forall_not_mem]
    rintro ⟨k, y⟩ hy
    obtain ⟨hk, hid⟩ := (mem_hits s).mp hy
    exact h k y hk (by simpa using hid)
  rw [SessionStack.removeSessionById, hnil]
  rfl

/-- A removal by id returns a session with that id, if it returns one. -/
theorem sessionId_of_snd_removeSessionById {sessionId : String}
    (h : (s.removeSessionById items sessionId).2 = some x) : (items x).sessionId = sessionId := by
  have hmem := List.mem_of_getLast? h
  obtain ⟨e, he, rfl⟩ := List.mem_map.mp hmem
  simpa using ((mem_hits s).mp he).2

variable {s} in
/-- A full stack takes no session. -/
theorem addSession_of_full (h : s.sessions.size ≥ SESSION_NUM_MAX) (pid : Pid)
    (abilityName : String) (item : SessionRef) :
    s.addSession pid abilityName item = (s, .errSessionExceedMax) :=
  if_pos h

variable {s} in
/-- A stack with room takes it. -/
theorem addSession_of_not_full (h : s.sessions.size < SESSION_NUM_MAX) (pid : Pid)
    (abilityName : String) (item : SessionRef) :
    s.addSession pid abilityName item =
      (s.push ⟨pid, abilityName⟩ item, .success) :=
  if_neg (by omega)

end lookup

/-! ## The representation invariant -/

section rep

variable {s : SessionStack} {pid : Pid} {abilityName : String} {item : SessionRef}

/-- The representation invariant: list and map hold the same sessions, each once. -/
structure Rep (s : SessionStack) : Prop where
  nodup : s.stack.Nodup
  perm : s.stack.Perm (vals s.sessions)
  bounded : s.sessions.size ≤ SESSION_NUM_MAX

namespace Rep

/-- An empty stack is represented by an empty map. -/
theorem empty : Rep SessionStack.empty where
  nodup := List.nodup_nil
  perm := by
    have hnil : SessionStack.empty.sessions.toList = [] := ExtTreeMap.toList_eq_nil_iff.mpr rfl
    rw [vals, hnil]
    exact List.Perm.nil
  bounded := by simp [SessionStack.empty]

/-- There are as many sessions in the list as in the map. -/
theorem length_stack (h : Rep s) : s.stack.length = s.sessions.size := by
  rw [h.perm.length_eq, length_vals]

/-- The list holds exactly the sessions the map holds under some key. -/
theorem mem_stack (h : Rep s) {x : SessionRef} :
    x ∈ s.stack ↔ ∃ k : SessionKey, s.sessions[k]? = some x := by
  rw [h.perm.mem_iff, mem_vals]

/-- A session is registered under one key only. -/
theorem key_unique (h : Rep s) {k k' : SessionKey} {x : SessionRef}
    (hk : s.sessions[k]? = some x) (hk' : s.sessions[k']? = some x) : k = k' :=
  values_nodup_iff.mp (h.perm.nodup_iff.mp h.nodup) k k' x hk hk'

/-- A container whose sessions are among those of another is not larger. -/
theorem size_le {s' : SessionStack} (h : Rep s) (h' : Rep s')
    (hsub : ∀ (k : SessionKey) y, s'.sessions[k]? = some y →
      ∃ k' : SessionKey, s.sessions[k']? = some y) :
    s'.sessions.size ≤ s.sessions.size := by
  rw [← h.length_stack, ← h'.length_stack]
  refine (List.subperm_of_subset h'.nodup fun y hy => ?_).length_le
  obtain ⟨k, hk⟩ := h'.mem_stack.mp hy
  exact h.mem_stack.mpr (hsub k y hk)

/-- It is smaller if one session is missing. -/
theorem size_lt {s' : SessionStack} {k : SessionKey} {x : SessionRef} (h : Rep s) (h' : Rep s')
    (hsub : ∀ (k : SessionKey) y, s'.sessions[k]? = some y → s.sessions[k]? = some y)
    (hx : s.sessions[k]? = some x) (hx' : ∀ k : SessionKey, s'.sessions[k]? ≠ some x) :
    s'.sessions.size < s.sessions.size := by
  rw [← h.length_stack, ← h'.length_stack]
  have hnodup : (x :: s'.stack).Nodup := by
    refine h'.nodup.cons fun hmem => ?_
    obtain ⟨k', hk'⟩ := h'.mem_stack.mp hmem
    exact hx' k' hk'
  have hsubset : x :: s'.stack ⊆ s.stack := by
    intro y hy
    rcases List.mem_cons.mp hy with rfl | hy
    · exact h.mem_stack.mpr ⟨k, hx⟩
    · obtain ⟨k', hk'⟩ := h'.mem_stack.mp hy
      exact h.mem_stack.mpr ⟨k', hsub k' y hk'⟩
  exact (List.subperm_of_subset hnodup hsubset).length_le

/-- Erasing an entry takes its session out of the list. -/
theorem perm_eraseEntry (h : Rep s) {k : SessionKey} {x : SessionRef}
    (hk : s.sessions[k]? = some x) :
    (s.stack.filter (· ≠ x)).Perm (vals (s.sessions.erase k)) := by
  have hvals : s.stack.Perm (x :: vals (s.sessions.erase k)) := h.perm.trans (vals_erase hk)
  have hnodup : (x :: vals (s.sessions.erase k)).Nodup := hvals.nodup_iff.mp h.nodup
  have hx : x ∉ vals (s.sessions.erase k) := (List.nodup_cons.mp hnodup).1
  refine (hvals.filter _).trans ?_
  rw [List.filter_cons_of_neg (by simp), List.filter_eq_self.mpr]
  intro y hy
  simp only [ne_eq, decide_not, Bool.not_eq_eq_eq_not, Bool.not_true, decide_eq_false_iff_not]
  rintro rfl
  exact hx hy

/-- An entry of the map is erased from both. -/
theorem eraseEntry (h : Rep s) {k : SessionKey} {x : SessionRef} (hk : s.sessions[k]? = some x) :
    Rep (s.eraseEntry (k, x)) where
  nodup := h.nodup.filter _
  perm := h.perm_eraseEntry hk
  bounded := by
    have hsize : s.sessions.size = (s.sessions.erase k).size + 1 := size_erase_of_some hk
    have := h.bounded
    show (s.sessions.erase k).size ≤ SESSION_NUM_MAX
    omega

/-- Erasing entries of the map one after the other keeps the invariant: each is still an entry when
its turn comes, since their keys differ. -/
theorem foldl_eraseEntry (h : Rep s) {l : List (SessionKey × SessionRef)}
    (hkeys : (l.map Prod.fst).Nodup) (hl : ∀ e ∈ l, s.sessions[e.1]? = some e.2) :
    Rep (l.foldl SessionStack.eraseEntry s) := by
  induction l generalizing s with
  | nil => exact h
  | cons e l ih =>
      rw [List.map_cons, List.nodup_cons] at hkeys
      refine ih (h.eraseEntry (hl e List.mem_cons_self)) hkeys.2 fun e' he' => ?_
      have hne : e.1 ≠ e'.1 := fun heq => hkeys.1 (heq ▸ List.mem_map_of_mem he')
      show (s.sessions.erase e.1)[e'.1]? = some e'.2
      rw [getElem?_erase, if_neg hne]
      exact hl e' (List.mem_cons_of_mem e he')

/-- A removal loop keeps the invariant, whatever it removes. -/
theorem foldl_hits (h : Rep s) (p : SessionKey × SessionRef → Bool) :
    Rep ((s.hits p).foldl SessionStack.eraseEntry s) := by
  refine h.foldl_eraseEntry ?_ fun e he => ?_
  · exact nodup_keys.sublist (List.filter_sublist.map Prod.fst)
  · exact mem_toList.mp (List.mem_filter.mp he).1

/-- So are all entries of a process. -/
theorem removeSessionByPid (h : Rep s) (pid : Pid) : Rep (s.removeSessionByPid pid).1 :=
  h.foldl_hits _

/-- So are all entries of an id. -/
theorem removeSessionById (h : Rep s) (items : Items) (sessionId : String) :
    Rep (s.removeSessionById items sessionId).1 :=
  h.foldl_hits _

/-- So is the entry of a key. -/
theorem removeSession (h : Rep s) (pid : Pid) (abilityName : String) :
    Rep (s.removeSession pid abilityName).1 := by
  unfold SessionStack.removeSession
  cases hk : s.sessions[(⟨pid, abilityName⟩ : SessionKey)]? with
  | none => exact h
  | some x => exact h.eraseEntry hk

/-- With room left, inserting and pushing keep the invariant exactly if the key is free and the item
is not in the container. -/
theorem push_iff (h : Rep s) (hsize : s.sessions.size < SESSION_NUM_MAX) (k : SessionKey)
    (item : SessionRef) : Rep (s.push k item) ↔ s.sessions[k]? = none ∧ item ∉ s.stack := by
  cases hk : s.sessions[k]? with
  | none =>
      simp only [true_and]
      refine ⟨fun h' => (List.nodup_cons.mp h'.nodup).1, fun hitem => ⟨?_, ?_, ?_⟩⟩
      · exact h.nodup.cons hitem
      · exact (h.perm.cons item).trans (vals_insertIfNew item hk).symm
      · show (s.sessions.insertIfNew k item).size ≤ SESSION_NUM_MAX
        rw [size_insertIfNew_of_none item hk]
        omega
  | some old =>
      simp only [reduceCtorEq, false_and, iff_false]
      intro h'
      -- the map has not grown, the list has
      have hlen : (item :: s.stack).length = (s.sessions.insertIfNew k item).size := h'.length_stack
      rw [insertIfNew_of_some hk, List.length_cons, h.length_stack] at hlen
      omega

/-- `AddSession` keeps the invariant exactly if the container is full, or the key is free and the
item is not in the container under another key. -/
theorem addSession_iff (h : Rep s) :
    Rep (s.addSession pid abilityName item).1 ↔
      s.sessions.size ≥ SESSION_NUM_MAX ∨
        (s.getSession pid abilityName = none ∧ item ∉ s.stack) := by
  unfold SessionStack.addSession SessionStack.getSession
  split_ifs with hfull
  · simp [h, hfull]
  · simpa [hfull] using h.push_iff (by omega) ⟨pid, abilityName⟩ item

/-- `UpdateSessionSort` keeps the invariant exactly if it finds no session under the item's key,
or finds the item itself, or the item is not in the container. -/
theorem updateSessionSort_iff (h : Rep s) (items : Items) :
    Rep (s.updateSessionSort items item) ↔
      ∀ old, s.sessions[itemKey items item]? = some old → item = old ∨ item ∉ s.stack := by
  unfold SessionStack.updateSessionSort
  cases hk : s.sessions[itemKey items item]? with
  | none => simpa using h
  | some old =>
      have hnone : (s.sessions.erase (itemKey items item))[itemKey items item]? = none := by
        rw [getElem?_erase, if_pos rfl]
      have hsize : (s.sessions.erase (itemKey items item)).size < SESSION_NUM_MAX := by
        have := size_erase_of_some hk
        have := h.bounded
        omega
      refine ((h.eraseEntry hk).push_iff hsize (itemKey items item) item).trans ?_
      simp only [SessionStack.eraseEntry, hnone, true_and, List.mem_filter, ne_eq, decide_not,
        Bool.not_eq_eq_eq_not, Bool.not_true, decide_eq_false_iff_not, Option.some.injEq,
        forall_eq']
      tauto

end Rep

end rep

/-! ## What the invariant says about the lookups -/

section lookups

/-- The representation invariant with its consequences: the bounds on both containers, and that
the lookups in the list find what `GetSession` finds in the map, and conversely. -/
structure RepProperty (s : SessionStack) : Prop where
  nodup : s.stack.Nodup
  perm : s.stack.Perm (vals s.sessions)
  size_sessions : s.sessions.size ≤ SESSION_NUM_MAX
  size_stack : s.stack.length ≤ SESSION_NUM_MAX
  getSessionById_found : ∀ items sessionId x, s.getSessionById items sessionId = some x →
    ∃ pid abilityName, s.getSession pid abilityName = some x
  getSessionByUid_found : ∀ items uid x, s.getSessionByUid items uid = some x →
    ∃ pid abilityName, s.getSession pid abilityName = some x
  mem_getAllSessions : ∀ x, x ∈ s.getAllSessions ↔
    ∃ pid abilityName, s.getSession pid abilityName = some x
  found_by_id : ∀ items pid abilityName x, s.getSession pid abilityName = some x →
    ∃ y, s.getSessionById items (items x).sessionId = some y ∧
      (items y).sessionId = (items x).sessionId
  found_by_uid : ∀ items pid abilityName x, s.getSession pid abilityName = some x →
    ∃ y, s.getSessionByUid items (items x).uid = some y ∧ (items y).uid = (items x).uid

variable {s : SessionStack}

/-- The sessions in the list are those that can be got. -/
theorem Rep.mem_stack_iff_getSession (h : Rep s) {x : SessionRef} :
    x ∈ s.stack ↔ ∃ pid abilityName, s.getSession pid abilityName = some x := by
  rw [h.mem_stack]
  constructor
  · rintro ⟨⟨pid, abilityName⟩, hk⟩
    exact ⟨pid, abilityName, hk⟩
  · rintro ⟨pid, abilityName, hk⟩
    exact ⟨⟨pid, abilityName⟩, hk⟩

/-- A search through the list for a value of a field of the items finds some session with that
value as soon as there is one. -/
theorem find?_field {β : Type} [DecidableEq β] (f : SessionRef → β) {l : List SessionRef}
    {x : SessionRef} (hx : x ∈ l) : ∃ y, l.find? (fun y => f y == f x) = some y ∧ f y = f x := by
  cases hfind : l.find? (fun y => f y == f x) with
  | none => exact absurd (List.find?_eq_none.mp hfind x hx) (by simp)
  | some y => exact ⟨y, rfl, by simpa using List.find?_some hfind⟩

/-- The consequences follow from the invariant. -/
theorem repProperty_iff : RepProperty s ↔ Rep s := by
  constructor
  · intro h
    exact ⟨h.nodup, h.perm, h.size_sessions⟩
  · intro h
    exact {
      nodup := h.nodup
      perm := h.perm
      size_sessions := h.bounded
      size_stack := h.length_stack ▸ h.bounded
      getSessionById_found := fun items sessionId x hx =>
        h.mem_stack_iff_getSession.mp (List.mem_of_find?_eq_some hx)
      getSessionByUid_found := fun items uid x hx =>
        h.mem_stack_iff_getSession.mp (List.mem_of_find?_eq_some hx)
      mem_getAllSessions := fun x => h.mem_stack_iff_getSession
      found_by_id := fun items pid abilityName x hx =>
        find?_field (fun y => (items y).sessionId)
          (h.mem_stack_iff_getSession.mpr ⟨pid, abilityName, hx⟩)
      found_by_uid := fun items pid abilityName x hx =>
        find?_field (fun y => (items y).uid)
          (h.mem_stack_iff_getSession.mpr ⟨pid, abilityName, hx⟩) }

end lookups

/-! ## Runs -/

section runs

/-- A call of one of the five operations that write. Where an operation reads the items, the call
comes with the items as they are at that moment. -/
inductive StackOp
  | addSession (pid : Pid) (abilityName : String) (item : SessionRef)
  | updateSessionSort (items : Items) (item : SessionRef)
  | removeSessionByPid (pid : Pid)
  | removeSessionById (items : Items) (sessionId : String)
  | removeSession (pid : Pid) (abilityName : String)

/-- The container after a call. -/
def StackOp.step (s : SessionStack) : StackOp → SessionStack
  | addSession pid abilityName item => (s.addSession pid abilityName item).1
  | updateSessionSort items item => s.updateSessionSort items item
  | removeSessionByPid pid => (s.removeSessionByPid pid).1
  | removeSessionById items sessionId => (s.removeSessionById items sessionId).1
  | removeSession pid abilityName => (s.removeSession pid abilityName).1

/-- The condition on a call: an addition to a container that is not full comes with a free key and
an item that is not in the container; an update finds no session under the item's key, or the item
itself, or comes with an item that is not in the container. -/
def StackOp.Keeps (s : SessionStack) : StackOp → Prop
  | addSession pid abilityName item =>
      s.sessions.size ≥ SESSION_NUM_MAX ∨
        (s.getSession pid abilityName = none ∧ item ∉ s.stack)
  | updateSessionSort items item =>
      ∀ old, s.getSession (items item).pid (items item).abilityName = some old →
        item = old ∨ item ∉ s.stack
  | _ => True

/-- One step keeps list and map together exactly under its condition. -/
theorem rep_step_iff {s : SessionStack} (op : StackOp) (h : Rep s) :
    Rep (op.step s) ↔ op.Keeps s := by
  cases op with
  | addSession pid abilityName item => exact h.addSession_iff
  | updateSessionSort items item => exact h.updateSessionSort_iff items
  | removeSessionByPid pid => exact iff_of_true (h.removeSessionByPid pid) trivial
  | removeSessionById items sessionId =>
      exact iff_of_true (h.removeSessionById items sessionId) trivial
  | removeSession pid abilityName =>
      exact iff_of_true (h.removeSession pid abilityName) trivial

/-- The invariant never breaks along a run from the empty container exactly if every addition and
every update of the run meets its condition. -/
theorem rep_always_iff (ops : List StackOp) :
    Always (fun s op => StackOp.step s op) RepProperty SessionStack.empty ops ↔
      Meets (fun s op => StackOp.step s op) (fun s op => op.Keeps s) SessionStack.empty ops := by
  refine always_iff_meets (fun s op hs => ?_) ops (repProperty_iff.mpr Rep.empty)
  rw [repProperty_iff]
  exact rep_step_iff op (repProperty_iff.mp hs)

/-- Adding a second session under a key that is in use: the map keeps the first session, the list
gets both. -/
theorem rep_breaks_on_duplicate_key :
    ¬ Always (fun s op => StackOp.step s op) RepProperty SessionStack.empty
      [.addSession 1 "a" 1, .addSession 1 "a" 2] := by
  intro h
  have hlen := h.last.perm.length_eq
  rw [length_vals] at hlen
  exact absurd hlen (by decide)

end runs

end AvSession.Registry
