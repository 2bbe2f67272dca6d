import AvSession.Lib.ListMap
import AvSession.Service.Operations

/-!
# The service: creating and releasing sessions and controllers

The state of `AVSessionService` and the handlers that create a session or a controller and take
them away again.

* `AVSessionService` — the users manager, the controllers by the pid of their client, the control
  list, and the next reference that an allocation returns.
* `createSessionInner`, `createSessionByCast`, `handleSessionRelease` — the life of a session.
* `createControllerInner`, `getControllerInner`, `destroyController`,
  `clearControllerForClientDied` — the life of a controller.
* Left out: permissions, death recipients, remote casting of the released session, and the sessions
  that other modules hold (`ancoSession_`, `pcmCastSession_`).
-/

namespace AvSession.Service

open AvSession.Registry AvSession.Lib AvSession.Lib.OrderedMap

/-- The fields of a controller item that the service reads. Its `sessionId_` is the id of
`session`: it is set and cleared together with it.
Source: avcontroller_item.h, `AVControllerItem` -/
structure AVControllerItem where
  pid : Pid
  session : Option SessionRef
  /-- `serviceCallback_` is set. -/
  hasServiceCallback : Bool

/-- The controllers of the service, by the pid of their client. -/
abbrev ControllerTable := Std.ExtTreeMap Pid (List ControllerRef) compare

/-- The state of the service.
Source: avsession_service.h, `AVSessionService` -/
structure AVSessionService where
  users : UsersManager
  /-- `controllers_` -/
  controllers : ControllerTable
  /-- The controller items behind the references. -/
  controllerItems : ControllerRef → AVControllerItem
  controlBundleNameSet : List String
  /-- The service is built with `CAR_FEATURE_ENABLE`. -/
  carFeature : Bool
  /-- The reference that the next `new AVSessionItem` returns. Its session id is already the one
  that `AllocSessionId` is going to give. -/
  nextSession : SessionRef
  /-- The reference that the next `new AVControllerItem` returns. -/
  nextController : ControllerRef

namespace AVSessionService

/-- The service when it starts. -/
def init (items : Items) (userId : UserId) (controlBundleNameSet : List String)
    (carFeature : Bool) : AVSessionService where
  users := UsersManager.init items userId
  controllers := ∅
  controllerItems := fun _ => ⟨0, none, false⟩
  controlBundleNameSet := controlBundleNameSet
  carFeature := carFeature
  nextSession := 0
  nextController := 0

variable (s : AVSessionService)

/-- The same service with another state of the users. -/
def withUsers (m : UsersManager) : AVSessionService := { s with users := m }

/-- The tables written are there. -/
@[simp] theorem withUsers_users (m : UsersManager) : (s.withUsers m).users = m := rfl

/-- Source: `AVSessionService::GetContainer` or, for cars, the container of all users. -/
def containerOfCaller : SessionStack :=
  if s.carFeature then s.users.getContainerFromAll else s.users.getContainer

/-- The session is among all sessions and was not destroyed. -/
def Live (x : SessionRef) : Prop :=
  x ∈ s.users.stackForAll.getAllSessions ∧ (s.users.items x).isDestroyed = false

instance (x : SessionRef) : Decidable (s.Live x) := inferInstanceAs (Decidable (_ ∧ _))

/-! ## Sessions -/

section sessions

/-- Source: avsession_service.cpp, `AVSessionService::AbilityHasSession` -/
def abilityHasSession (pid : Pid) (userId : UserId) : Bool :=
  if userId ≤ 0 then s.containerOfCaller.pidHasSession pid
  else (s.users.getContainerFromUser userId).pidHasSession pid

/-- Source: avsession_service.cpp, `AVSessionService::CheckAndUpdateAncoMediaSession` -/
def checkAndUpdateAncoMediaSession (uid : Uid) (bundleName abilityName : String) :
    AVSessionService :=
  if uid ≠ audioBrokerUid then s
  else
    match s.containerOfCaller.getSessionByUid s.users.items uid with
    | none => s
    | some x =>
        let r := s.users.updateSessionForCurrentUser (s.users.items x).pid
          (s.users.items x).abilityName abilityName x
        if r.2 ≠ .success then s.withUsers r.1
        else s.withUsers (r.1.withItem x
          { r.1.items x with bundleName := bundleName, abilityName := abilityName })

/-- The item of a new session.
Source: avsession_service.cpp, `AVSessionService::CreateNewSession` -/
def newItem (pid : Pid) (uid : Uid) (type : SessionType) (bundleName abilityName : String) :
    AVSessionItem where
  sessionId := (s.users.items s.nextSession).sessionId
  sessionType := type
  bundleName := bundleName
  abilityName := abilityName
  pid := pid
  uid := uid
  userId := getUserIdFromCallingUid s.users uid
  isTop := false
  isDestroyed := false
  hasCastProxy := false
  controllers := ∅

/-- Allocate the item of a new session.
Source: avsession_service.cpp, `AVSessionService::CreateNewSession` -/
def createNewSession (pid : Pid) (uid : Uid) (type : SessionType)
    (bundleName abilityName : String) : AVSessionService :=
  { s with
    users := s.users.withItem s.nextSession (s.newItem pid uid type bundleName abilityName)
    nextSession := s.nextSession + 1 }

/-- The part of `createSessionInner` past the switch of the user. An ability that has a session is
looked up with the element of the request, the session is created for the corrected one.
Source: avsession_service.cpp, `AVSessionService::CreateSessionInner` -/
def createSessionForCaller (pid : Pid) (uid : Uid) (type : SessionType)
    (elementName sessionElement : ElementName) : AVSessionService × Option SessionRef :=
  if s.abilityHasSession pid (getUserIdFromCallingUid s.users uid) then
    (s.checkAndUpdateAncoMediaSession uid elementName.bundleName elementName.abilityName, none)
  else
    let s' := s.createNewSession pid uid type sessionElement.bundleName sessionElement.abilityName
    let r := s'.users.addSessionForCurrentUser pid sessionElement.abilityName s.nextSession
      (getUserIdFromCallingUid s.users uid)
    if r.2 ≠ .success then (s'.withUsers r.1, none)
    else (s'.withUsers (addExtraFrontSession r.1 s.nextSession type), some s.nextSession)

/-- The service when the request for a session has switched the user, or not. -/
def refreshed (tag : String) (uid : Uid) (elementName : ElementName) : AVSessionService :=
  s.withUsers (refreshUserFromAnco s.users tag uid elementName)

/-- The service and the session it created, if it did. `sessionElement` is what
`CorrectElementForThirdPartyCaller` makes of the element.
Source: avsession_service.cpp, `AVSessionService::CreateSessionInner` -/
def createSessionInner (tag : String) (pid : Pid) (uid : Uid) (type : SessionType)
    (elementName sessionElement : ElementName) : AVSessionService × Option SessionRef :=
  (s.refreshed tag uid elementName).createSessionForCaller pid uid type elementName sessionElement

/-- Push a session to the front list of `userId`, if it is not there.
Source: avsession_service_ext.cpp, `AVSessionService::CreateSessionByCast`, the part on the list -/
def pushFront (m : UsersManager) (x : SessionRef) (userId : UserId) : UsersManager :=
  if x ∈ m.getCurSessionListForFront userId then m
  else setFront m userId (x :: m.getCurSessionListForFront userId)

/-- The element of a session for a cast to this device. It is not corrected.
Source: avsession_service_ext.cpp, `AVSessionService::CreateSessionByCast` -/
def castElement : ElementName := ⟨"", "castBundleName", "castAbilityName"⟩

/-- Source: avsession_service_ext.cpp, `AVSessionService::CreateSessionByCast` -/
def createSessionByCast (pid : Pid) (uid : Uid) (userId : UserId) : AVSessionService :=
  match s.createSessionInner "RemoteCast" pid uid .audio castElement castElement with
  | (s', none) => s'
  | (s', some x) =>
      if s'.carFeature ∧ 0 < userId then
        s'.withUsers (pushFront
          (s'.users.updateSessionForUserChange (s'.users.items x).userId userId (some x)).1
          x userId)
      else s'.withUsers (pushFront s'.users x userId)

/-- A request for a cast does not switch the user. -/
theorem createSessionInner_castElement (pid : Pid) (uid : Uid) :
    s.createSessionInner "RemoteCast" pid uid .audio castElement castElement =
      s.createSessionForCaller pid uid .audio castElement castElement := rfl

/-- Source: avsession_service.cpp, `AVSessionService::ServiceCallback`, the callback for updating a
session -/
def updateSession (o : Oracle) (sessionId : String) (isAdd : Bool) (userId : UserId) :
    AVSessionService :=
  match (s.users.getContainerFromUser (getTargetUserId s.users userId)).getSessionById
      s.users.items sessionId with
  | none => s
  | some x => s.withUsers (updateFrontSession s.users o x s.controlBundleNameSet isAdd)

/-- The names that the control list file holds are added to the set.
Source: avsession_service.cpp, `AVSessionService::UpdateControlListFromFile` -/
def updateControlList (bundleNames : List String) : AVSessionService :=
  { s with controlBundleNameSet := s.controlBundleNameSet ∪ bundleNames }

/-- Source: avsession_service.cpp, `AVSessionService::AddKeyEventServiceCallback` -/
def addKeyEvent (sessionId : String) : AVSessionService :=
  match s.containerOfCaller.getSessionById s.users.items sessionId with
  | none => s
  | some x => s.withUsers (addKeyEventSession s.users x)

end sessions

/-! ## Controllers -/

section controllers

/-- `controller->session_ = nullptr` -/
def unbind (c : ControllerRef) : AVSessionService :=
  { s with
    controllerItems := Function.update s.controllerItems c
      { s.controllerItems c with session := none } }

/-- Another map of controllers for a session. -/
def setControllers (x : SessionRef) (controllers : ControllerMap) : AVSessionService :=
  s.withUsers (s.users.withItem x { s.users.items x with controllers := controllers })

/-- Source: avsession_item.cpp, `AVSessionItem::HandleControllerRelease` -/
def eraseController (x : SessionRef) (pid : Pid) : AVSessionService :=
  s.setControllers x ((s.users.items x).controllers.erase pid)

/-- Source: avsession_item.cpp, `AVSessionItem::AddController`; `std::map::insert` keeps the
controller that is already there. -/
def addController (x : SessionRef) (pid : Pid) (c : ControllerRef) : AVSessionService :=
  s.setControllers x ((s.users.items x).controllers.insertIfNew pid c)

/-- Allocate a controller of the session `x`. -/
def newController (pid : Pid) (x : SessionRef) (hasServiceCallback : Bool) : AVSessionService :=
  { s with
    controllerItems := Function.update s.controllerItems s.nextController
      ⟨pid, some x, hasServiceCallback⟩
    nextController := s.nextController + 1 }

/-- A controller of `pid` that is bound to a session of that id.
Source: avsession_service.cpp, `AVSessionService::GetPresentController` -/
def getPresentController (pid : Pid) (sessionId : String) : Option ControllerRef :=
  (ListMap.listAt s.controllers pid).find? fun c =>
    match (s.controllerItems c).session with
    | none => sessionId == ""
    | some x => (s.users.items x).sessionId == sessionId

/-- The container in which a client looks for a session. -/
def containerOfClient (uid : Uid) : SessionStack :=
  if s.carFeature then s.users.getContainerFromAll
  else s.users.getContainerFromUser (getUserIdFromCallingUid s.users uid)

/-- Bind a new controller to `x` and register it with the session and with the service.
Source: avsession_service.cpp, `AVSessionService::CreateNewControllerForSession` -/
def createNewController (pid : Pid) (x : SessionRef) : AVSessionService :=
  let s' := (s.newController pid x true).addController x pid s.nextController
  { s' with controllers := ListMap.push s'.controllers pid s.nextController }

/-- Source: avsession_service.cpp, `AVSessionService::CreateControllerInner` -/
def createControllerInner (sessionId : String) (pid : Pid) (uid : Uid) : AVSessionService :=
  match (s.containerOfClient uid).getSessionById s.users.items sessionId with
  | none => s
  | some x =>
      if (s.getPresentController pid sessionId).isSome then s
      else s.createNewController pid x

/-- The controller that a session item makes for its own process: the service does not know it.
Source: avsession_item.cpp, `AVSessionItem::GetControllerInner` -/
def getControllerInner (x : SessionRef) : AVSessionService :=
  if (s.users.items x).pid ∈ (s.users.items x).controllers then s
  else
    (s.newController (s.users.items x).pid x false).addController x (s.users.items x).pid
      s.nextController

/-- A pid goes with its last controller.
Source: avsession_service.cpp, `AVSessionService::HandleControllerRelease` -/
def handleControllerRelease (c : ControllerRef) : AVSessionService :=
  { s with controllers := ListMap.removeFrom s.controllers (s.controllerItems c).pid c }

/-- Unbind a controller and take it out of the map of its session.
Source: avcontroller_item.cpp, `AVControllerItem::DestroyWithoutReply` -/
def destroyWithoutReply (c : ControllerRef) : AVSessionService :=
  match (s.controllerItems c).session with
  | none => s
  | some x => (s.unbind c).eraseController x (s.controllerItems c).pid

/-- Source: avcontroller_item.cpp, `AVControllerItem::Destroy` -/
def destroyController (c : ControllerRef) : AVSessionService :=
  if (s.controllerItems c).session.any (fun x => (s.users.items x).sessionId == "DEFAULT") then s
  else if (s.controllerItems c).hasServiceCallback then
    (s.handleControllerRelease c).destroyWithoutReply c
  else s.destroyWithoutReply c

/-- The list of the client is moved away before its controllers are destroyed, and its pid is looked
up again after that.
Source: avsession_service.cpp, `AVSessionService::ClearControllerForClientDiedNoLock` -/
def clearControllerForClientDied (pid : Pid) : AVSessionService :=
  match s.controllers[pid]? with
  | none => s
  | some l =>
      let s' := l.foldl destroyWithoutReply { s with controllers := s.controllers.insert pid [] }
      if pid ∈ s'.controllers then { s' with controllers := s'.controllers.erase pid } else s'

/-- Source: avsession_service.cpp, `AVSessionService::RemoveControllersNoLock` -/
def removeControllersNoLock (destroyed : List ControllerRef) : AVSessionService :=
  destroyed.foldl handleControllerRelease s

variable (x : SessionRef) (controllers : ControllerMap) (y : SessionRef)

/-- One session's controllers are set. -/
theorem setControllers_controllers : ((s.setControllers x controllers).users.items y).controllers =
    if y = x then controllers else (s.users.items y).controllers := by
  unfold setControllers
  rw [withUsers_users, UsersManager.withItem_items]
  split_ifs <;> rfl

/-- Setting controllers destroys nobody. -/
theorem setControllers_isDestroyed : ((s.setControllers x controllers).users.items y).isDestroyed =
    (s.users.items y).isDestroyed := by
  unfold setControllers
  rw [withUsers_users, UsersManager.withItem_items]
  split_ifs with hy
  · rw [hy]
  · rfl

end controllers

/-! ## The release of a session -/

section release

/-- What `DestroyTask` leaves of a session item. -/
def destroyedItem (item : AVSessionItem) : AVSessionItem :=
  { item with
    isDestroyed := true
    hasCastProxy := false
    controllers := ∅ }

/-- The service and the controllers to destroy. Every controller in the map of the session is
unbound and the map is cleared; a session that is already destroyed is left as it is.
Source: avsession_item.cpp, `AVSessionItem::DestroyTask`; avcontroller_item.cpp,
`AVControllerItem::HandleSessionDestroy` -/
def destroyTask (x : SessionRef) : AVSessionService × List ControllerRef :=
  if (s.users.items x).isDestroyed then (s, [])
  else
    let controllerList := vals (s.users.items x).controllers
    (controllerList.foldl unbind
      (s.withUsers (s.users.withItem x (destroyedItem (s.users.items x)))), controllerList)

/-- Erase the first occurrence of a session from the key-event list of a user. -/
def eraseKeyEvent (m : UsersManager) (x : SessionRef) (userId : UserId) : UsersManager :=
  setKeyEvent m userId ((m.getCurSessionListForKeyEvent userId).erase x)

/-- The release of `x` takes it out of the containers. -/
def releaseContainers (m : UsersManager) (x : SessionRef) : UsersManager :=
  (m.removeSessionForAllUser (m.items x).pid (m.items x).abilityName).1

/-- What the release of `x` does to the users, past `DestroyTask`: the top session, the containers,
the front list and the key-event list, in this order. -/
def releaseUsers (m : UsersManager) (o : Oracle) (x : SessionRef)
    (controlBundleNameSet : List String) : UsersManager :=
  eraseKeyEvent
    (updateFrontSession
      (releaseContainers (handleTopSessionRelease m o x (m.effectiveUser (m.items x).userId)) x)
      o x controlBundleNameSet false)
    x (m.effectiveUser (m.items x).userId)

/-- Source: avsession_service.cpp, `AVSessionService::HandleSessionRelease` -/
def handleSessionRelease (o : Oracle) (sessionId : String) : AVSessionService :=
  match s.users.getContainerFromAll.getSessionById s.users.items sessionId with
  | none => s
  | some x =>
      let r := s.destroyTask x
      (r.1.withUsers (releaseUsers r.1.users o x s.controlBundleNameSet)).removeControllersNoLock
        r.2

end release

end AVSessionService

end AvSession.Service
