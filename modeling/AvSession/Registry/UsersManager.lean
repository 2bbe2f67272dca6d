import AvSession.Registry.SessionStack
import Mathlib.Logic.Function.Basic

/-!
# The users manager

`AVSessionUsersManager` registers every session twice: in the container of all users and in the
container of the user that owns it. It also holds what the service keeps for each user: the front
list, the key-event list, the top session and the list of users that are alive.

* The three operations that add or move a session (`addSessionForCurrentUser`,
  `updateSessionForCurrentUser`, `updateSessionForUserChange`) return a code; the three removals
  and the account events do not fail.
* Every map from a user is a total function: each lookup of the source creates the container or
  the list it does not find, so a missing one and an empty one behave alike.
* Left out: the session listeners, the files a removal deletes, and the audio zones of cars.
-/

namespace AvSession.Registry

/-- The state of the manager, with the items it reads and writes.
Source: avsession_users_manager.h, `AVSessionUsersManager` -/
structure UsersManager where
  /-- The items behind the references. -/
  items : Items
  /-- `sessionStackForAll_` -/
  stackForAll : SessionStack
  /-- `sessionStackMapByUserId_` -/
  stackByUser : UserId → SessionStack
  /-- `frontSessionListMapByUserId_` -/
  frontByUser : UserId → List SessionRef
  /-- `keyEventListMapByUserId_` -/
  keyEventByUser : UserId → List SessionRef
  /-- `topSessionsMapByUserId_`; a null entry and a missing one are both `none`. -/
  topByUser : UserId → Option SessionRef
  curUserId : UserId
  aliveUsers : List UserId

namespace UsersManager

/-- The manager after `Init`, with `userId` the account that is active. -/
def init (items : Items) (userId : UserId) : UsersManager where
  items := items
  stackForAll := SessionStack.empty
  stackByUser := fun _ => SessionStack.empty
  frontByUser := fun _ => []
  keyEventByUser := fun _ => []
  topByUser := fun _ => none
  curUserId := userId
  aliveUsers := [userId]

/-! ## Reading and writing the containers -/

section access

variable (m : UsersManager)

/-- Source: `AVSessionUsersManager::GetContainerFromAll` -/
def getContainerFromAll : SessionStack := m.stackForAll

/-- Source: `AVSessionUsersManager::GetContainerFromUser` -/
def getContainerFromUser (userId : UserId) : SessionStack := m.stackByUser userId

/-- Source: `AVSessionUsersManager::GetContainer` -/
def getContainer : SessionStack := m.getContainerFromUser m.curUserId

/-- Source: `AVSessionUsersManager::IsUserAlive` -/
def isUserAlive (userId : UserId) : Bool := userId ∈ m.aliveUsers

/-- A user id that is not positive stands for the current user. -/
def effectiveUser (userId : UserId) : UserId := if userId ≤ 0 then m.curUserId else userId

/-- Source: `AVSessionUsersManager::GetCurSessionListForFront` -/
def getCurSessionListForFront (userId : UserId) : List SessionRef :=
  m.frontByUser (m.effectiveUser userId)

/-- Source: `AVSessionUsersManager::GetCurSessionListForKeyEvent` -/
def getCurSessionListForKeyEvent (userId : UserId) : List SessionRef :=
  m.keyEventByUser (m.effectiveUser userId)

/-- Source: `AVSessionUsersManager::GetTopSession` -/
def getTopSession (userId : UserId) : Option SessionRef := m.topByUser userId

/-- Source: `AVSessionUsersManager::SetTopSession` -/
def setTopSession (session : Option SessionRef) (userId : UserId) : UsersManager :=
  { m with topByUser := Function.update m.topByUser userId session }

/-- The manager with another container of all users. -/
def withAll (s : SessionStack) : UsersManager := { m with stackForAll := s }

/-- The manager with another container of one user. -/
def withUser (userId : UserId) (s : SessionStack) : UsersManager :=
  { m with stackByUser := Function.update m.stackByUser userId s }

/-- The manager with another item behind a reference. -/
def withItem (x : SessionRef) (item : AVSessionItem) : UsersManager :=
  { m with items := Function.update m.items x item }

/-- Source: avsession_item.cpp, `AVSessionItem::SetUserId` -/
def setUserId (x : SessionRef) (userId : UserId) : UsersManager :=
  m.withItem x { m.items x with userId := userId }

variable (s : SessionStack) (userId : UserId) (x : SessionRef)

/-- The stack of all sessions is the new one. -/
@[simp] theorem withAll_stackForAll : (m.withAll s).stackForAll = s := rfl
/-- The stacks of the users stay. -/
@[simp] theorem withAll_stackByUser : (m.withAll s).stackByUser = m.stackByUser := rfl
/-- The sessions themselves stay. -/
@[simp] theorem withAll_items : (m.withAll s).items = m.items := rfl
/-- The current user stays. -/
@[simp] theorem withAll_curUserId : (m.withAll s).curUserId = m.curUserId := rfl

/-- The stack of all sessions stays. -/
@[simp] theorem withUser_stackForAll : (m.withUser userId s).stackForAll = m.stackForAll := rfl
/-- The sessions themselves stay. -/
@[simp] theorem withUser_items : (m.withUser userId s).items = m.items := rfl
/-- The current user stays. -/
@[simp] theorem withUser_curUserId : (m.withUser userId s).curUserId = m.curUserId := rfl
/-- The stack of the user is the new one. -/
@[simp] theorem withUser_stackByUser_self : (m.withUser userId s).stackByUser userId = s := by
  simp [withUser]

/-- The stacks of other users stay. -/
@[simp] theorem withUser_stackByUser_of_ne {u : UserId} (h : u ≠ userId) :
    (m.withUser userId s).stackByUser u = m.stackByUser u := by
  simp [withUser, h]

/-- A session that gets another user stays in the stack of all. -/
@[simp] theorem setUserId_stackForAll : (m.setUserId x userId).stackForAll = m.stackForAll := rfl
/-- It stays in the stack of its user, too. -/
@[simp] theorem setUserId_stackByUser : (m.setUserId x userId).stackByUser = m.stackByUser := rfl
/-- The current user is not the one of a session. -/
@[simp] theorem setUserId_curUserId : (m.setUserId x userId).curUserId = m.curUserId := rfl

/-- The session has the new user. -/
@[simp] theorem setUserId_items_self :
    (m.setUserId x userId).items x = { m.items x with userId := userId } := by
  simp [setUserId, withItem]

/-- Other sessions keep theirs. -/
@[simp] theorem setUserId_items_of_ne {y : SessionRef} (h : y ≠ x) :
    (m.setUserId x userId).items y = m.items y := by
  simp [setUserId, withItem, h]

/-- One session is changed. -/
theorem withItem_items (item : AVSessionItem) (y : SessionRef) :
    (m.withItem x item).items y = if y = x then item else m.items y :=
  Function.update_apply m.items x item y

/-- Only the owner changes: every session keeps its id. -/
@[simp] theorem setUserId_sessionId (y : SessionRef) :
    ((m.setUserId x userId).items y).sessionId = (m.items y).sessionId := by
  by_cases h : y = x
  · rw [h, setUserId_items_self]
  · rw [setUserId_items_of_ne m userId x h]

end access

/-! ## The operations -/

section operations

variable (m : UsersManager)

/-- One step of the operations below: add a session to the container of all users. -/
def addToAll (pid : Pid) (abilityName : String) (item : SessionRef) : UsersManager × RetCode :=
  let r := m.getContainerFromAll.addSession pid abilityName item
  (m.withAll r.1, r.2)

/-- One step of the operations below: add a session to the container of a user. -/
def addToUser (userId : UserId) (pid : Pid) (abilityName : String) (item : SessionRef) :
    UsersManager × RetCode :=
  let r := (m.getContainerFromUser userId).addSession pid abilityName item
  (m.withUser userId r.1, r.2)

/-- One step of the removals below: remove a session id from the container of all users. -/
def removeIdFromAll (sessionId : String) : UsersManager :=
  m.withAll (m.getContainerFromAll.removeSessionById m.items sessionId).1

/-- One step of the removals below: remove a session id from the container of a user. -/
def removeIdFromUser (userId : UserId) (sessionId : String) : UsersManager :=
  m.withUser userId ((m.getContainerFromUser userId).removeSessionById m.items sessionId).1

/-- Source: `AVSessionUsersManager::AddSessionForCurrentUser` -/
def addSessionForCurrentUser (pid : Pid) (abilityName : String) (item : SessionRef)
    (userId : UserId) : UsersManager × RetCode :=
  let r := m.addToAll pid abilityName item
  if r.2 ≠ .success then r
  else r.1.addToUser (m.effectiveUser userId) pid abilityName item

/-- The container of the user is the one of the user id that the removed item carries.
Source: `AVSessionUsersManager::RemoveSessionForAllUser(pid_t, const std::string&)` -/
def removeSessionForAllUser (pid : Pid) (abilityName : String) :
    UsersManager × Option SessionRef :=
  match m.getContainerFromAll.removeSession pid abilityName with
  | (_, none) => (m, none)
  | (all, some result) =>
      let userId := (m.items result).userId
      ((m.withAll all).withUser userId
        ((m.getContainerFromUser userId).removeSession pid abilityName).1, some result)

/-- Source: `AVSessionUsersManager::RemoveSessionForAllUser(const std::string&)` -/
def removeSessionForAllUserById (sessionId : String) : UsersManager × Option SessionRef :=
  match (m.getContainerFromAll.removeSessionById m.items sessionId).2 with
  | none => (m, none)
  | some result =>
      ((m.removeIdFromAll sessionId).removeIdFromUser (m.items result).userId sessionId,
        some result)

/-- Source: `AVSessionUsersManager::RemoveSessionForAllUser(pid_t)` -/
def removeSessionForAllUserByPid (pid : Pid) : UsersManager × List SessionRef :=
  let result := m.getContainerFromAll.getSessionsByPid pid
  (result.foldl (fun m x =>
    (m.removeIdFromUser (m.items x).userId (m.items x).sessionId).removeIdFromAll
      (m.items x).sessionId) m, result)

/-- The session is added again for the current user, whoever owned it.
Source: `AVSessionUsersManager::UpdateSessionForCurrentUser` -/
def updateSessionForCurrentUser (pid : Pid) (oldAbilityName newAbilityName : String)
    (item : SessionRef) : UsersManager × RetCode :=
  match m.removeSessionForAllUser pid oldAbilityName with
  | (m, none) => (m, .error)
  | (m, some _) => m.addSessionForCurrentUser pid newAbilityName item 0

/-- The part of `updateSessionForUserChange` before the additions: take the session out of both
containers and give it its new owner. -/
def detachForUserChange (oldUserId newUserId : UserId) (item : SessionRef) : UsersManager :=
  ((m.removeIdFromUser oldUserId (m.items item).sessionId).removeIdFromAll
    (m.items item).sessionId).setUserId item newUserId

/-- The part of `updateSessionForUserChange` after it: first the container of the new user, then the
container of all users. -/
def attachForUserChange (newUserId : UserId) (pid : Pid) (abilityName : String)
    (item : SessionRef) : UsersManager × RetCode :=
  let r := m.addToUser newUserId pid abilityName item
  if r.2 ≠ .success then r
  else r.1.addToAll pid abilityName item

/-- Source: `AVSessionUsersManager::UpdateSessionForUserChange` -/
def updateSessionForUserChange (oldUserId newUserId : UserId) :
    Option SessionRef → UsersManager × RetCode
  | none => (m, .error)
  | some item =>
      (m.detachForUserChange oldUserId newUserId item).attachForUserChange newUserId
        (m.items item).pid (m.items item).abilityName item

/-- The part of `handleUserRemoved` after the loop: erase what is kept for the user. -/
def eraseUser (userId : UserId) : UsersManager :=
  { m.withUser userId SessionStack.empty with
    frontByUser := Function.update m.frontByUser userId []
    keyEventByUser := Function.update m.keyEventByUser userId []
    topByUser := Function.update m.topByUser userId none
    aliveUsers := m.aliveUsers.filter (· ≠ userId) }

/-- Source: `AVSessionUsersManager::HandleUserRemoved` -/
def handleUserRemoved (userId : UserId) : UsersManager :=
  ((m.getContainerFromUser userId).getAllSessions.foldl
    (fun m x => m.removeIdFromAll (m.items x).sessionId) m).eraseUser userId

/-- The current account becomes `userId`.
Source: `AVSessionUsersManager::Init`, the listener on `accountEventSwitched` -/
def handleUserSwitched (userId : UserId) : UsersManager :=
  { m with
    curUserId := userId
    aliveUsers := if userId ∈ m.aliveUsers then m.aliveUsers else m.aliveUsers ++ [userId] }

end operations

/-! ## What the operations do, case by case -/

section cases

variable {m : UsersManager} {pid : Pid} {abilityName : String} {userId : UserId} {x : SessionRef}

/-- A session added to the container of all users and to that of `userId`, both with room left. -/
def pushBoth (m : UsersManager) (userId : UserId) (k : SessionKey) (x : SessionRef) :
    UsersManager :=
  (m.withAll (m.stackForAll.push k x)).withUser userId ((m.stackByUser userId).push k x)

/-- A full stack of all sessions takes none. -/
theorem addToAll_of_full (h : m.stackForAll.sessions.size ≥ SESSION_NUM_MAX) :
    m.addToAll pid abilityName x = (m, .errSessionExceedMax) := by
  unfold addToAll getContainerFromAll
  rw [addSession_of_full h]
  rfl

/-- A stack with room takes the session. -/
theorem addToAll_of_not_full (h : m.stackForAll.sessions.size < SESSION_NUM_MAX) :
    m.addToAll pid abilityName x =
      (m.withAll (m.stackForAll.push ⟨pid, abilityName⟩ x), .success) := by
  unfold addToAll getContainerFromAll
  rw [addSession_of_not_full h]

/-- A full stack of a user takes none. -/
theorem addToUser_of_full (h : (m.stackByUser userId).sessions.size ≥ SESSION_NUM_MAX) :
    m.addToUser userId pid abilityName x = (m, .errSessionExceedMax) := by
  unfold addToUser getContainerFromUser withUser
  simp only [addSession_of_full h, Function.update_eq_self]

/-- A stack of a user with room takes the session. -/
theorem addToUser_of_not_full (h : (m.stackByUser userId).sessions.size < SESSION_NUM_MAX) :
    m.addToUser userId pid abilityName x =
      (m.withUser userId ((m.stackByUser userId).push ⟨pid, abilityName⟩ x), .success) := by
  unfold addToUser getContainerFromUser
  rw [addSession_of_not_full h]

/-- Without room among all sessions, nothing is added. -/
theorem addSessionForCurrentUser_of_full
    (h : m.stackForAll.sessions.size ≥ SESSION_NUM_MAX) :
    m.addSessionForCurrentUser pid abilityName x userId = (m, .errSessionExceedMax) := by
  unfold addSessionForCurrentUser
  rw [addToAll_of_full h]
  rfl

/-- With room in both stacks, the session is pushed to both. -/
theorem addSessionForCurrentUser_of_not_full
    (hall : m.stackForAll.sessions.size < SESSION_NUM_MAX)
    (huser : (m.stackByUser (m.effectiveUser userId)).sessions.size < SESSION_NUM_MAX) :
    m.addSessionForCurrentUser pid abilityName x userId =
      (m.pushBoth (m.effectiveUser userId) ⟨pid, abilityName⟩ x, .success) := by
  unfold addSessionForCurrentUser
  rw [addToAll_of_not_full hall]
  exact addToUser_of_not_full huser

/-- An unknown key removes nothing. -/
theorem removeSessionForAllUser_of_none
    (h : m.stackForAll.sessions[(⟨pid, abilityName⟩ : SessionKey)]? = none) :
    m.removeSessionForAllUser pid abilityName = (m, none) := by
  unfold removeSessionForAllUser getContainerFromAll SessionStack.removeSession
  rw [h]

/-- The session of the key is removed from the stack of all and from that of its own user. -/
theorem removeSessionForAllUser_of_some
    (h : m.stackForAll.sessions[(⟨pid, abilityName⟩ : SessionKey)]? = some x) :
    m.removeSessionForAllUser pid abilityName =
      ((m.withAll (m.stackForAll.removeSession pid abilityName).1).withUser (m.items x).userId
        ((m.stackByUser (m.items x).userId).removeSession pid abilityName).1, some x) := by
  unfold removeSessionForAllUser getContainerFromAll getContainerFromUser
  have hsnd := snd_removeSession m.stackForAll pid abilityName
  rw [h] at hsnd
  rcases hr : m.stackForAll.removeSession pid abilityName with ⟨all, result⟩
  rw [hr] at hsnd
  subst hsnd
  rfl

/-- A user without a session of this id loses none. -/
theorem removeIdFromUser_of_not_mem {sessionId : String}
    (h : ∀ (k : SessionKey) y, (m.stackByUser userId).sessions[k]? = some y →
      (m.items y).sessionId ≠ sessionId) : m.removeIdFromUser userId sessionId = m := by
  unfold removeIdFromUser getContainerFromUser withUser
  simp only [removeSessionById_of_not_mem _ m.items h, Function.update_eq_self]

/-- Without a session of this id, none is lost. -/
theorem removeIdFromAll_of_not_mem {sessionId : String}
    (h : ∀ (k : SessionKey) y, m.stackForAll.sessions[k]? = some y →
      (m.items y).sessionId ≠ sessionId) : m.removeIdFromAll sessionId = m := by
  unfold removeIdFromAll getContainerFromAll withAll
  rw [removeSessionById_of_not_mem _ m.items h]

/-- A session is detached from the old user and attached to the new one. -/
theorem updateSessionForUserChange_some (m : UsersManager) (oldUserId newUserId : UserId)
    (x : SessionRef) :
    m.updateSessionForUserChange oldUserId newUserId (some x) =
      (m.detachForUserChange oldUserId newUserId x).attachForUserChange newUserId (m.items x).pid
        (m.items x).abilityName x := rfl

/-- The three ways the second half of `UpdateSessionForUserChange` can end: the container of the new
user is full, or it takes the session but the container of all users is full, or both take it. -/
theorem attachForUserChange_cases (m : UsersManager) (userId : UserId) (pid : Pid)
    (abilityName : String) (x : SessionRef) :
    ((m.stackByUser userId).sessions.size ≥ SESSION_NUM_MAX ∧
        m.attachForUserChange userId pid abilityName x = (m, .errSessionExceedMax)) ∨
      ((m.stackByUser userId).sessions.size < SESSION_NUM_MAX ∧
        m.stackForAll.sessions.size ≥ SESSION_NUM_MAX ∧
        m.attachForUserChange userId pid abilityName x =
          (m.withUser userId ((m.stackByUser userId).push ⟨pid, abilityName⟩ x),
            .errSessionExceedMax)) ∨
      ((m.stackByUser userId).sessions.size < SESSION_NUM_MAX ∧
        m.stackForAll.sessions.size < SESSION_NUM_MAX ∧
        m.attachForUserChange userId pid abilityName x =
          (m.pushBoth userId ⟨pid, abilityName⟩ x, .success)) := by
  unfold attachForUserChange
  by_cases huser : (m.stackByUser userId).sessions.size ≥ SESSION_NUM_MAX
  · rw [addToUser_of_full huser]
    exact Or.inl ⟨huser, rfl⟩
  · have huser' : (m.stackByUser userId).sessions.size < SESSION_NUM_MAX := by omega
    rw [addToUser_of_not_full huser']
    by_cases hall : m.stackForAll.sessions.size ≥ SESSION_NUM_MAX
    · exact Or.inr (Or.inl ⟨huser', hall, addToAll_of_full hall⟩)
    · have hall' : m.stackForAll.sessions.size < SESSION_NUM_MAX := by omega
      exact Or.inr (Or.inr ⟨huser', hall', addToAll_of_not_full hall'⟩)

end cases

/-! ## What the operations leave alone -/

section frame

variable (m : UsersManager) (pid : Pid) (abilityName : String) (userId : UserId) (x : SessionRef)

/-- Adding to all leaves the sessions themselves. -/
@[simp] theorem addToAll_items : (m.addToAll pid abilityName x).1.items = m.items := rfl

/-- Adding to a user leaves them. -/
@[simp] theorem addToUser_items : (m.addToUser userId pid abilityName x).1.items = m.items := rfl

/-- Adding to both leaves them. -/
@[simp] theorem addSessionForCurrentUser_items :
    (m.addSessionForCurrentUser pid abilityName x userId).1.items = m.items := by
  unfold addSessionForCurrentUser
  dsimp only
  split_ifs <;> rfl

/-- Removing by key leaves them. -/
@[simp] theorem removeSessionForAllUser_items :
    (m.removeSessionForAllUser pid abilityName).1.items = m.items := by
  unfold removeSessionForAllUser
  split <;> rfl

/-- Removing by id leaves them. -/
@[simp] theorem removeSessionForAllUserById_items (sessionId : String) :
    (m.removeSessionForAllUserById sessionId).1.items = m.items := by
  unfold removeSessionForAllUserById
  split <;> rfl

/-- A loop over sessions leaves the items alone if its body does. -/
theorem foldl_items (f : UsersManager → SessionRef → UsersManager)
    (hf : ∀ m x, (f m x).items = m.items) (l : List SessionRef) :
    (l.foldl f m).items = m.items := by
  induction l generalizing m with
  | nil => rfl
  | cons x l ih => rw [List.foldl_cons, ih, hf]

/-- Removing by process leaves them. -/
@[simp] theorem removeSessionForAllUserByPid_items :
    (m.removeSessionForAllUserByPid pid).1.items = m.items := by
  unfold removeSessionForAllUserByPid
  apply foldl_items
  intro m x
  rfl

/-- Removing a user leaves them. -/
@[simp] theorem handleUserRemoved_items : (m.handleUserRemoved userId).items = m.items := by
  unfold handleUserRemoved
  apply foldl_items
  intro m x
  rfl

/-- Another ability name leaves them. -/
@[simp] theorem updateSessionForCurrentUser_items (newAbilityName : String) :
    (m.updateSessionForCurrentUser pid abilityName newAbilityName x).1.items = m.items := by
  have hremove := m.removeSessionForAllUser_items pid abilityName
  unfold updateSessionForCurrentUser
  rcases hr : m.removeSessionForAllUser pid abilityName with ⟨m₁, _ | result⟩
  · rw [hr] at hremove
    exact hremove
  · rw [hr] at hremove
    exact (m₁.addSessionForCurrentUser_items pid newAbilityName 0 x).trans hremove

/-- Attaching to a user leaves them. -/
@[simp] theorem attachForUserChange_items :
    (m.attachForUserChange userId pid abilityName x).1.items = m.items := by
  unfold attachForUserChange
  dsimp only
  split_ifs <;> rfl

/-- The session ids survive a change of the user. -/
@[simp] theorem updateSessionForUserChange_sessionId (oldUserId newUserId : UserId)
    (item : Option SessionRef) (y : SessionRef) :
    ((m.updateSessionForUserChange oldUserId newUserId item).1.items y).sessionId =
      (m.items y).sessionId := by
  cases item with
  | none => rfl
  | some x =>
      rw [updateSessionForUserChange_some, attachForUserChange_items]
      exact setUserId_sessionId _ newUserId x y

/-- Of a change of the user, the items show the new user of the session. -/
theorem updateSessionForUserChange_items (oldUserId newUserId : UserId) :
    (m.updateSessionForUserChange oldUserId newUserId (some x)).1.items =
      (m.setUserId x newUserId).items := by
  rw [updateSessionForUserChange_some, attachForUserChange_items]
  rfl

end frame

/-! ## What the registrations leave alone -/

section lists

/-- The lists, the top sessions, the current user and the users that are alive are the same. -/
structure SameLists (m m' : UsersManager) : Prop where
  front : m'.frontByUser = m.frontByUser
  keyEvent : m'.keyEventByUser = m.keyEventByUser
  top : m'.topByUser = m.topByUser
  curUserId : m'.curUserId = m.curUserId
  aliveUsers : m'.aliveUsers = m.aliveUsers

namespace SameLists

variable {m m' m'' : UsersManager}

/-- Nothing has changed. -/
theorem refl (m : UsersManager) : SameLists m m := ⟨rfl, rfl, rfl, rfl, rfl⟩

/-- Two steps that leave the lists. -/
theorem trans (h : SameLists m m') (h' : SameLists m' m'') : SameLists m m'' :=
  ⟨h'.front.trans h.front, h'.keyEvent.trans h.keyEvent, h'.top.trans h.top,
    h'.curUserId.trans h.curUserId, h'.aliveUsers.trans h.aliveUsers⟩

/-- A loop whose steps leave the lists. -/
theorem foldl (f : UsersManager → SessionRef → UsersManager) (hf : ∀ m x, SameLists m (f m x))
    (l : List SessionRef) (m : UsersManager) : SameLists m (l.foldl f m) := by
  induction l generalizing m with
  | nil => exact refl m
  | cons x l ih => exact (hf m x).trans (ih (f m x))

variable (m) (pid : Pid) (abilityName : String) (userId : UserId) (x : SessionRef)

/-- The loop of `HandleUserRemoved`. -/
theorem foldl_removeIdFromAll (l : List SessionRef) :
    SameLists m (l.foldl (fun m x => m.removeIdFromAll (m.items x).sessionId) m) := by
  apply foldl
  intro m x
  exact ⟨rfl, rfl, rfl, rfl, rfl⟩

/-- Adding to all leaves the lists. -/
theorem addToAll : SameLists m (m.addToAll pid abilityName x).1 := ⟨rfl, rfl, rfl, rfl, rfl⟩

/-- Adding to a user leaves them. -/
theorem addToUser : SameLists m (m.addToUser userId pid abilityName x).1 :=
  ⟨rfl, rfl, rfl, rfl, rfl⟩

/-- Adding to both leaves them. -/
theorem addSessionForCurrentUser :
    SameLists m (m.addSessionForCurrentUser pid abilityName x userId).1 := by
  unfold UsersManager.addSessionForCurrentUser
  dsimp only
  split_ifs
  · exact addToAll m pid abilityName x
  · exact (addToAll m pid abilityName x).trans (addToUser _ pid abilityName _ x)

/-- Removing by key leaves them. -/
theorem removeSessionForAllUser :
    SameLists m (m.removeSessionForAllUser pid abilityName).1 := by
  unfold UsersManager.removeSessionForAllUser
  split
  · exact refl m
  · exact ⟨rfl, rfl, rfl, rfl, rfl⟩

/-- Another ability name leaves them. -/
theorem updateSessionForCurrentUser (newAbilityName : String) :
    SameLists m (m.updateSessionForCurrentUser pid abilityName newAbilityName x).1 := by
  have hremove := removeSessionForAllUser m pid abilityName
  unfold UsersManager.updateSessionForCurrentUser
  rcases hr : m.removeSessionForAllUser pid abilityName with ⟨m₁, _ | result⟩
  · rw [hr] at hremove
    exact hremove
  · rw [hr] at hremove
    exact hremove.trans (addSessionForCurrentUser m₁ pid newAbilityName 0 x)

/-- A change of the user leaves them. -/
theorem updateSessionForUserChange (oldUserId newUserId : UserId) (item : Option SessionRef) :
    SameLists m (m.updateSessionForUserChange oldUserId newUserId item).1 := by
  cases item with
  | none => exact refl m
  | some x =>
      rw [updateSessionForUserChange_some]
      have hdetach : SameLists m (m.detachForUserChange oldUserId newUserId x) :=
        ⟨rfl, rfl, rfl, rfl, rfl⟩
      refine hdetach.trans ?_
      unfold attachForUserChange
      dsimp only
      split_ifs
      · exact addToUser _ _ _ newUserId x
      · exact (addToUser _ _ _ newUserId x).trans (addToAll _ _ _ x)

end SameLists

end lists

end UsersManager

end AvSession.Registry
