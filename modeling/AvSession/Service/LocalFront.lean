import AvSession.Service.Release

/-!
# The front session that remote devices are told of

The service keeps the id of one session, that is at the front for the devices that media can be
migrated to, and tells their servers when it changes. It is meant to be a session of the current
user.

* `LocalFrontState` — the users, the id and the servers.
* `updateTopSession`, `updateFrontSession`, `handleSessionRelease` — the operations of the service,
  with what they tell the servers; what they do to the users is in the modules before.
* `localFront` — the id that is meant.
* `LocalFrontOp`, `Follows`, `LocalFrontOk` — the operations, what is expected of each, and the
  condition.
* `ServersTold.step` — every server is told of each change since it joined.

An operation is a whole call, with the calls that it makes.
-/

namespace AvSession.Service

open Std AvSession.Lib AvSession.Registry

/-! ## The servers -/

section servers

/-- What a server is told. -/
inductive FrontCall
  | localFrontSessionArrive (sessionId : String)
  | localFrontSessionChange (sessionId : String)
  | localFrontSessionLeave (sessionId : String)
deriving DecidableEq

/-- Source: migrate_avsession_server.h, `MigrateAVSessionServer` -/
structure FrontServer where
  /-- What the server was told. -/
  told : List FrontCall
  /-- The ids that the service has had since the server joined, the first one at that moment. -/
  since : List String
deriving DecidableEq

/-- A server that joins.
Source: avsession_service_ext.cpp, `AVSessionService::DoConnectProcessWithMigrateServer` -/
def FrontServer.join (localFrontSessionId : String) : FrontServer where
  told := [.localFrontSessionArrive localFrontSessionId]
  since := [localFrontSessionId]

/-- The loop body of `NotifyLocalFrontSessionChangeForMigrate`. -/
def FrontServer.notify (server : FrontServer)
    (localFrontSessionId localFrontSessionIdUpdate : String) : FrontServer where
  told :=
    server.told ++
      if localFrontSessionId = "" ∧ localFrontSessionIdUpdate ≠ "" then
        [.localFrontSessionArrive localFrontSessionIdUpdate]
      else if localFrontSessionId ≠ "" ∧ localFrontSessionIdUpdate ≠ "" ∧
          localFrontSessionId ≠ localFrontSessionIdUpdate then
        [.localFrontSessionChange localFrontSessionIdUpdate]
      else if localFrontSessionId ≠ "" ∧ localFrontSessionIdUpdate = "" then
        [.localFrontSessionLeave localFrontSessionId]
      else []
  since := server.since ++ [localFrontSessionIdUpdate]

end servers

/-! ## The service -/

section service

/-- Source: avsession_service.h, `AVSessionService` -/
structure LocalFrontState where
  users : UsersManager
  controlBundleNameSet : List String
  localFrontSessionId : String
  migrateAVSessionServerMap : ExtTreeMap String FrontServer compare

/-- The id of the first session of a list that is not cast, or the empty one. -/
def firstNotCasting (m : UsersManager) (o : Oracle) (l : List SessionRef) : String :=
  match l.find? fun x => !o.isCasting x with
  | some x => (m.items x).sessionId
  | none => ""

/-- What `UpdateLocalFrontSession` finds, with the list that it is given. -/
def preloadSessionId (m : UsersManager) (o : Oracle) (sessionListForFront : List SessionRef) :
    String :=
  if sessionListForFront = [] then ""
  else
    match m.getTopSession m.curUserId with
    | some curTopSession =>
        if o.isCasting curTopSession then firstNotCasting m o sessionListForFront
        else (m.items curTopSession).sessionId
    | none => firstNotCasting m o sessionListForFront

namespace LocalFrontState

variable (s : LocalFrontState) (o : Oracle)

/-- The service when the servers come into play. -/
def start (users : UsersManager) (controlBundleNameSet : List String) : LocalFrontState :=
  ⟨users, controlBundleNameSet, "", ∅⟩

/-- Another state of the users. -/
def withUsers (m : UsersManager) : LocalFrontState := { s with users := m }

/-- Source: avsession_service_ext.cpp,
`AVSessionService::NotifyLocalFrontSessionChangeForMigrate` -/
def notifyLocalFrontSessionChangeForMigrate (localFrontSessionIdUpdate : String) :
    LocalFrontState :=
  { s with
    migrateAVSessionServerMap := s.migrateAVSessionServerMap.map fun _ server =>
      server.notify s.localFrontSessionId localFrontSessionIdUpdate
    localFrontSessionId := localFrontSessionIdUpdate }

/-- Source: avsession_service_ext.cpp, `AVSessionService::UpdateLocalFrontSession` -/
def updateLocalFrontSession (sessionListForFront : List SessionRef) : LocalFrontState :=
  s.notifyLocalFrontSessionChangeForMigrate (preloadSessionId s.users o sessionListForFront)

/-- Source: avsession_service.cpp, `AVSessionService::UpdateTopSession` -/
def updateTopSession (userId : UserId) : Option SessionRef → LocalFrontState
  | none => s.withUsers (Service.updateTopSession s.users userId none)
  | some x =>
      let userIdForNewTopSession := (s.users.items x).userId
      let s := s.withUsers (Service.updateTopSession s.users userId (some x))
      match s.users.getTopSession userIdForNewTopSession with
      | some curTopSession =>
          if o.isCasting curTopSession then s
          else s.notifyLocalFrontSessionChangeForMigrate (s.users.items curTopSession).sessionId
      | none => s

/-- Source: avsession_service.cpp, `AVSessionService::HandleOtherSessionPlaying` -/
def handleOtherSessionPlaying (x : SessionRef) : LocalFrontState :=
  let userId := s.users.effectiveUser (s.users.items x).userId
  let s := s.updateTopSession o (s.users.items x).userId (some x)
  if s.users.getTopSession userId = none then s else s.withUsers (updateOrder s.users x)

/-- Source: avsession_service.cpp, `AVSessionService::HandleTopSessionRelease` -/
def handleTopSessionRelease (userId : UserId) (x : SessionRef) : LocalFrontState :=
  if s.users.getTopSession userId = some x then
    match getOtherPlayingSession s.users o userId (s.users.items x).bundleName with
    | some y => s.handleOtherSessionPlaying o y
    | none => s.updateTopSession o userId none
  else s

/-- `UpdateFrontSession` with `isAdd`, past the two early returns. -/
def addFrontSession (x : SessionRef) : LocalFrontState :=
  let userId := (s.users.items x).userId
  if x ∈ s.users.getCurSessionListForFront userId then s
  else
    let s' := s.withUsers (setFront s.users userId (x :: s.users.getCurSessionListForFront userId))
    let s' :=
      if isLocalSessionPlaying s.users o x then s'.updateTopSession o userId (some x) else s'
    s'.updateLocalFrontSession o (s'.users.getCurSessionListForFront userId)

/-- `UpdateFrontSession` without `isAdd`, past the two early returns. -/
def removeFrontSession (x : SessionRef) : LocalFrontState :=
  let userId := (s.users.items x).userId
  let s := s.handleTopSessionRelease o userId x
  let s := s.withUsers
    (setFront s.users userId ((s.users.getCurSessionListForFront userId).filter (· ≠ x)))
  s.updateLocalFrontSession o (s.users.getCurSessionListForFront userId)

/-- Source: avsession_service.cpp, `AVSessionService::UpdateFrontSession` -/
def updateFrontSession (x : SessionRef) (isAdd : Bool) : LocalFrontState :=
  if (s.users.items x).bundleName ∈ s.controlBundleNameSet then s
  else if (s.users.items x).sessionType = .photo then s
  else if isAdd then s.addFrontSession o x
  else s.removeFrontSession o x

/-- What `DestroyTask` does to the users. -/
def destroyTask (x : SessionRef) : LocalFrontState :=
  if (s.users.items x).isDestroyed then s
  else s.withUsers (s.users.withItem x (AVSessionService.destroyedItem (s.users.items x)))

/-- The release of a session that was found.
Source: avsession_service.cpp, `AVSessionService::HandleSessionRelease` -/
def release (x : SessionRef) : LocalFrontState :=
  let userId := s.users.effectiveUser (s.users.items x).userId
  let s := (s.destroyTask x).handleTopSessionRelease o userId x
  let s := (s.withUsers (AVSessionService.releaseContainers s.users x)).updateFrontSession o x false
  s.withUsers (AVSessionService.eraseKeyEvent s.users x userId)

/-- Source: avsession_service.cpp, `AVSessionService::HandleSessionRelease` -/
def handleSessionRelease (sessionId : String) : LocalFrontState :=
  match s.users.getContainerFromAll.getSessionById s.users.items sessionId with
  | none => s
  | some x => s.release o x

/-- The callback for `sessionCastState_`.
Source: avsession_service.cpp, `AVSessionService::ServiceCallback` -/
def castStateChanged (userId : UserId) : LocalFrontState :=
  s.updateLocalFrontSession o (s.users.getCurSessionListForFront (getTargetUserId s.users userId))

/-- A new server joins, or, if there is one already, it goes on for the new device.
Source: avsession_service_ext.cpp, `AVSessionService::DoConnectProcessWithMigrateServer`,
`AVSessionService::DoHisMigrateServerTransform` -/
def connect (networkId : String) : LocalFrontState :=
  if networkId ∈ s.migrateAVSessionServerMap then s
  else
    match s.migrateAVSessionServerMap.toList with
    | (k, server) :: _ =>
        { s with
          migrateAVSessionServerMap :=
            (s.migrateAVSessionServerMap.erase k).insert networkId server }
    | [] =>
        { s with
          migrateAVSessionServerMap :=
            s.migrateAVSessionServerMap.insert networkId (.join s.localFrontSessionId) }

/-- Source: avsession_service_ext.cpp,
`AVSessionService::DoDisconnectProcessWithMigrateServer` -/
def disconnect (networkId : String) : LocalFrontState :=
  { s with migrateAVSessionServerMap := s.migrateAVSessionServerMap.erase networkId }

end LocalFrontState

/-! ### What the users see of it -/

variable (s : LocalFrontState) (o : Oracle) (x : SessionRef) (userId : UserId)

/-- The tables change as UpdateTopSession changes them. -/
theorem users_updateTopSession (t : Option SessionRef) :
    (s.updateTopSession o userId t).users = updateTopSession s.users userId t := by
  cases t with
  | none => rfl
  | some x =>
      unfold LocalFrontState.updateTopSession
      dsimp only
      split
      · split_ifs <;> rfl
      · rfl

/-- The tables change as HandleOtherSessionPlaying changes them. -/
theorem users_handleOtherSessionPlaying :
    (s.handleOtherSessionPlaying o x).users = handleOtherSessionPlaying s.users x := by
  unfold LocalFrontState.handleOtherSessionPlaying handleOtherSessionPlaying
  dsimp only
  rw [users_updateTopSession]
  split_ifs
  · exact users_updateTopSession s o _ _
  · rfl

/-- The tables change as HandleTopSessionRelease changes them. -/
theorem users_handleTopSessionRelease :
    (s.handleTopSessionRelease o userId x).users =
      handleTopSessionRelease s.users o x userId := by
  unfold LocalFrontState.handleTopSessionRelease handleTopSessionRelease
  split_ifs
  · cases getOtherPlayingSession s.users o userId (s.users.items x).bundleName with
    | some y => exact users_handleOtherSessionPlaying s o y
    | none => exact users_updateTopSession s o userId none
  · rfl

end service

/-! ## What is meant -/

section spec

/-- The id that is meant: that of the top session of the current user, if it is not cast, and
otherwise that of the first session in the front list of the current user that is not cast. -/
def localFront (m : UsersManager) (o : Oracle) : String :=
  firstNotCasting m o ((m.topByUser m.curUserId).toList ++ m.frontByUser m.curUserId)

/-- What a server is told when the id changes. -/
def callFor (old new : String) : FrontCall :=
  if new = "" then .localFrontSessionLeave old
  else if old = "" then .localFrontSessionArrive new
  else .localFrontSessionChange new

/-- What a server is told of the ids after `old`: one call for each that differs from the one
before. -/
def callsFor : String → List String → List FrontCall
  | _, [] => []
  | old, new :: ids =>
      if new = old then callsFor old ids else callFor old new :: callsFor new ids

/-- Every server was told of the id when it joined, and then of each change. -/
def ServersTold (s : LocalFrontState) : Prop :=
  ∀ (k : String) (server : FrontServer), s.migrateAVSessionServerMap[k]? = some server →
    ∃ first ids, server.since = first :: ids ∧
      server.told = .localFrontSessionArrive first :: callsFor first ids ∧
      server.since.getLast? = some s.localFrontSessionId

/-- What can happen. Between the operations the users may change as they like. -/
inductive LocalFrontOp
  | updateFrontSession (o : Oracle) (x : SessionRef) (isAdd : Bool)
  | updateTopSession (o : Oracle) (userId : UserId) (newTopSession : Option SessionRef)
  | handleSessionRelease (o : Oracle) (sessionId : String)
  | castStateChanged (o : Oracle) (userId : UserId)
  | connect (networkId : String)
  | disconnect (networkId : String)
  | elsewhere (users : UsersManager) (controlBundleNameSet : List String)

/-- One step. -/
def LocalFrontState.step (s : LocalFrontState) : LocalFrontOp → LocalFrontState
  | .updateFrontSession o x isAdd => s.updateFrontSession o x isAdd
  | .updateTopSession o userId newTopSession => s.updateTopSession o userId newTopSession
  | .handleSessionRelease o sessionId => s.handleSessionRelease o sessionId
  | .castStateChanged o userId => s.castStateChanged o userId
  | .connect networkId => s.connect networkId
  | .disconnect networkId => s.disconnect networkId
  | .elsewhere users controlBundleNameSet => { s with users, controlBundleNameSet }

/-- The sessions in the list and in the slot of a user are of that user, and the ids are distinct
and not empty. -/
structure FrontOwned (m : UsersManager) : Prop where
  ids : DistinctIds m.items
  front : ∀ u x, x ∈ m.frontByUser u → (m.items x).userId = u ∧ (m.items x).sessionId ≠ ""
  top : ∀ u x, m.topByUser u = some x → (m.items x).userId = u ∧ (m.items x).sessionId ≠ ""

/-- A session of a user that is alive. -/
structure OfAliveUser (m : UsersManager) (x : SessionRef) : Prop where
  positive : 0 < (m.items x).userId
  alive : m.isUserAlive (m.items x).userId = true
  id : (m.items x).sessionId ≠ ""

/-- The operations are on sessions of users that are alive. -/
def LocalFrontOp.Valid (s : LocalFrontState) : LocalFrontOp → Prop
  | .updateFrontSession _ x _ => OfAliveUser s.users x
  | .updateTopSession _ _ newTopSession => ∀ x, newTopSession = some x → OfAliveUser s.users x
  | .handleSessionRelease _ sessionId =>
      ∀ x, s.users.getContainerFromAll.getSessionById s.users.items sessionId = some x →
        OfAliveUser s.users x
  | .elsewhere users _ => FrontOwned users
  | .castStateChanged _ _ | .connect _ | .disconnect _ => True

/-- After an operation on a session of the user, the id is the one that is meant; if the user is not
the current one, the operation has left it alone. -/
def Followed (s s' : LocalFrontState) (o : Oracle) (userId : UserId) : Prop :=
  s'.localFrontSessionId = localFront s'.users o ∧
    (userId ≠ s.users.curUserId → s'.localFrontSessionId = s.localFrontSessionId)

/-- What is expected of an operation. -/
def Follows (s : LocalFrontState) : LocalFrontOp → Prop
  | .updateFrontSession o x isAdd =>
      Followed s (s.updateFrontSession o x isAdd) o (s.users.items x).userId
  | .updateTopSession o userId none =>
      Followed s (s.updateTopSession o userId none) o (getTargetUserId s.users userId)
  | .updateTopSession o userId (some x) =>
      Followed s (s.updateTopSession o userId (some x)) o (s.users.items x).userId
  | .handleSessionRelease o sessionId =>
      ∀ x, s.users.getContainerFromAll.getSessionById s.users.items sessionId = some x →
        Followed s (s.handleSessionRelease o sessionId) o (s.users.items x).userId
  | .castStateChanged _ _ | .connect _ | .disconnect _ | .elsewhere _ _ => True

/-! ### The condition -/

/-- The id is the one that is meant. -/
def UpToDate (s : LocalFrontState) (o : Oracle) : Prop :=
  s.localFrontSessionId = localFront s.users o

/-- The top session of the current user is not cast. -/
def FreeTop (m : UsersManager) (o : Oracle) : Prop :=
  ∃ x, m.topByUser m.curUserId = some x ∧ o.isCasting x = false

/-- The id is that of the first front session of the current user that is not cast. -/
def FrontFirst (s : LocalFrontState) (o : Oracle) : Prop :=
  s.localFrontSessionId = firstNotCasting s.users o (s.users.frontByUser s.users.curUserId)

/-- `UpdateFrontSession` returns early. -/
def FrontSkips (s : LocalFrontState) (x : SessionRef) (isAdd : Bool) : Prop :=
  FrontRefused s.users x s.controlBundleNameSet ∨
    isAdd = true ∧ x ∈ s.users.frontByUser (s.users.items x).userId

/-- The front list of the session after an addition or a removal, in some order. -/
def frontAfter (m : UsersManager) (x : SessionRef) (isAdd : Bool) : List SessionRef :=
  if isAdd then x :: m.frontByUser (m.items x).userId
  else (m.frontByUser (m.items x).userId).filter (· ≠ x)

/-- The condition on a change of a front list: for the current user, the list does not become empty
while another session is the top session and not cast; for another user, the id is up to date, and
the top session of the current user is not cast and the list not empty, or no session is meant and
all in the list are cast. -/
def FrontChangeOk (s : LocalFrontState) (o : Oracle) (x : SessionRef) (isAdd : Bool) : Prop :=
  if (s.users.items x).userId = s.users.curUserId then
    frontAfter s.users x isAdd ≠ [] ∨ ¬ FreeTop s.users o ∨
      s.users.topByUser s.users.curUserId = some x
  else
    UpToDate s o ∧
      (frontAfter s.users x isAdd ≠ [] ∧ FreeTop s.users o ∨
        s.localFrontSessionId = "" ∧ ∀ y ∈ frontAfter s.users x isAdd, o.isCasting y = true)

/-- The condition on the release of a session that `UpdateFrontSession` refuses: a top session of
the current user has a successor that plays and is not cast, or the id is that of the first front
session already; a top session of another user has no such successor. -/
def RefusedReleaseOk (s : LocalFrontState) (o : Oracle) (x : SessionRef) : Prop :=
  if s.users.topByUser (s.users.items x).userId = some x then
    if (s.users.items x).userId = s.users.curUserId then
      (∃ y ∈ s.users.frontByUser (s.users.items x).userId,
        isOtherPlaying s.users o y (s.users.items x).bundleName = true) ∨ FrontFirst s o
    else
      UpToDate s o ∧ ∀ y ∈ s.users.frontByUser (s.users.items x).userId,
        isOtherPlaying s.users o y (s.users.items x).bundleName = false
  else UpToDate s o

/-- The condition. -/
def LocalFrontOk (s : LocalFrontState) : LocalFrontOp → Prop
  | .updateTopSession o userId none =>
      if getTargetUserId s.users userId = s.users.curUserId then FrontFirst s o else UpToDate s o
  | .updateTopSession o _ (some x) =>
      if (s.users.items x).userId = s.users.curUserId then
        o.isCasting x = false ∨ FrontFirst s o
      else UpToDate s o ∧ o.isCasting x = true
  | .updateFrontSession o x isAdd =>
      FrontSkips s x isAdd ∧ UpToDate s o ∨ ¬ FrontSkips s x isAdd ∧ FrontChangeOk s o x isAdd
  | .handleSessionRelease o sessionId =>
      ∀ x, s.users.getContainerFromAll.getSessionById s.users.items sessionId = some x →
        FrontRefused s.users x s.controlBundleNameSet ∧ RefusedReleaseOk s o x ∨
          ¬ FrontRefused s.users x s.controlBundleNameSet ∧ FrontChangeOk s o x false
  | .castStateChanged _ _ | .connect _ | .disconnect _ | .elsewhere _ _ => True

end spec

/-! ## The servers are told -/

section told

variable {s : LocalFrontState}

/-- A notice calls the server only when the front is another one. -/
theorem callsFor_cons (old new : String) (ids : List String) :
    callsFor old (new :: ids) =
      (if new = old then [] else [callFor old new]) ++ callsFor new ids := by
  show (if new = old then callsFor old ids else callFor old new :: callsFor new ids) = _
  split_ifs with hsame
  · rw [hsame]
    rfl
  · rfl

/-- One more id is one more call, if it is not the last one. -/
theorem callsFor_append {old last : String} {ids : List String}
    (hlast : (old :: ids).getLast? = some last) (new : String) :
    callsFor old (ids ++ [new]) =
      callsFor old ids ++ if new = last then [] else [callFor last new] := by
  induction ids generalizing old with
  | nil =>
      obtain rfl : old = last := Option.some.inj hlast
      exact (callsFor_cons old new []).trans (List.append_nil _)
  | cons id ids ih =>
      rw [List.cons_append, callsFor_cons, callsFor_cons, List.append_assoc]
      rw [List.getLast?_cons_cons] at hlast
      rw [ih hlast]

/-- A server is told of the change. -/
theorem told_notify (server : FrontServer) (old new : String) :
    (server.notify old new).told =
      server.told ++ if new = old then [] else [callFor old new] := by
  unfold FrontServer.notify callFor
  by_cases hold : old = ""
  · by_cases hnew : new = ""
    · simp [hold, hnew]
    · simp [hold, hnew]
  · by_cases hnew : new = ""
    · simp [hold, hnew, Ne.symm hold]
    · by_cases hsame : new = old
      · simp [hold, hsame]
      · simp [hold, hnew, hsame, Ne.symm hsame]

/-- At the start no server has been told anything. -/
theorem ServersTold.start (users : UsersManager) (controlBundleNameSet : List String) :
    ServersTold (.start users controlBundleNameSet) := by
  intro k server hget
  exact absurd (hget.symm.trans ExtTreeMap.getElem?_empty) nofun

/-- The tables are no part of what was told. -/
theorem ServersTold.withUsers (h : ServersTold s) (m : UsersManager) :
    ServersTold (s.withUsers m) := h

/-- A notice keeps what each server was told in order. -/
theorem ServersTold.notify (h : ServersTold s) (new : String) :
    ServersTold (s.notifyLocalFrontSessionChangeForMigrate new) := by
  intro k server' hget
  obtain ⟨server, hserver, rfl⟩ :=
    Option.map_eq_some_iff.mp (ExtTreeMap.getElem?_map.symm.trans hget)
  obtain ⟨first, ids, hsince, htold, hlast⟩ := h k server hserver
  refine ⟨first, ids ++ [new], ?_, ?_, List.getLast?_concat⟩
  · show server.since ++ [new] = _
    rw [hsince, List.cons_append]
  · rw [hsince] at hlast
    rw [told_notify, htold, callsFor_append hlast, List.cons_append]

/-- UpdateTopSession keeps it in order. -/
theorem ServersTold.updateTopSession (h : ServersTold s) (o : Oracle) (userId : UserId)
    (t : Option SessionRef) : ServersTold (s.updateTopSession o userId t) := by
  cases t with
  | none => exact h
  | some x =>
      unfold LocalFrontState.updateTopSession
      dsimp only
      split
      · split_ifs
        · exact h
        · exact (h.withUsers _).notify _
      · exact h

/-- Looking for a new top keeps it in order. -/
theorem ServersTold.handleTopSessionRelease (h : ServersTold s) (o : Oracle) (userId : UserId)
    (x : SessionRef) : ServersTold (s.handleTopSessionRelease o userId x) := by
  unfold LocalFrontState.handleTopSessionRelease
  split_ifs
  · cases getOtherPlayingSession s.users o userId (s.users.items x).bundleName with
    | none => exact h
    | some y =>
        have htop := h.updateTopSession o (s.users.items y).userId (some y)
        unfold LocalFrontState.handleOtherSessionPlaying
        dsimp only
        split_ifs
        · exact htop
        · exact htop
  · exact h

/-- UpdateFrontSession keeps it in order. -/
theorem ServersTold.updateFrontSession (h : ServersTold s) (o : Oracle) (x : SessionRef)
    (isAdd : Bool) : ServersTold (s.updateFrontSession o x isAdd) := by
  unfold LocalFrontState.updateFrontSession
  split_ifs
  · exact h
  · exact h
  · unfold LocalFrontState.addFrontSession
    dsimp only
    split_ifs
    · exact h
    · exact ((h.withUsers _).updateTopSession o _ _).notify _
    · exact (h.withUsers _).notify _
  · exact ((h.handleTopSessionRelease o _ x).withUsers _).notify _

/-- A release keeps it in order. -/
theorem ServersTold.release (h : ServersTold s) (o : Oracle) (x : SessionRef) :
    ServersTold (s.release o x) := by
  have hdestroyed : ServersTold (s.destroyTask x) := by
    unfold LocalFrontState.destroyTask
    split_ifs
    · exact h
    · exact h
  exact ((hdestroyed.handleTopSessionRelease o _ x).withUsers _).updateFrontSession o x false

/-- A server that goes on for another device keeps what it was told. -/
theorem ServersTold.connect (h : ServersTold s) (networkId : String) :
    ServersTold (s.connect networkId) := by
  unfold LocalFrontState.connect
  split_ifs
  · exact h
  · split
    · rename_i k server rest hlist
      intro k' server' hget
      rw [OrderedMap.getElem?_insert] at hget
      split_ifs at hget with heq
      · obtain rfl := Option.some.inj hget
        refine h k server (OrderedMap.mem_toList.mp ?_)
        rw [hlist]
        exact List.mem_cons_self
      · rw [OrderedMap.getElem?_erase] at hget
        split_ifs at hget
        exact h k' server' hget
    · intro k' server' hget
      rw [OrderedMap.getElem?_insert] at hget
      split_ifs at hget
      · obtain rfl := Option.some.inj hget
        exact ⟨s.localFrontSessionId, [], rfl, rfl, rfl⟩
      · exact h k' server' hget

/-- A disconnect takes its server out. -/
theorem ServersTold.disconnect (h : ServersTold s) (networkId : String) :
    ServersTold (s.disconnect networkId) := by
  intro k server hget
  unfold LocalFrontState.disconnect at hget
  dsimp only at hget
  rw [OrderedMap.getElem?_erase] at hget
  split_ifs at hget
  exact h k server hget

/-- Every operation tells the servers what there is to tell. -/
theorem ServersTold.step (h : ServersTold s) (op : LocalFrontOp) : ServersTold (s.step op) := by
  cases op with
  | updateFrontSession o x isAdd => exact h.updateFrontSession o x isAdd
  | updateTopSession o userId t => exact h.updateTopSession o userId t
  | handleSessionRelease o sessionId =>
      show ServersTold (s.handleSessionRelease o sessionId)
      unfold LocalFrontState.handleSessionRelease
      split
      · exact h
      · exact h.release o _
  | castStateChanged o userId => exact h.notify _
  | connect networkId => exact h.connect networkId
  | disconnect networkId => exact h.disconnect networkId
  | elsewhere users controlBundleNameSet => exact h

end told

end AvSession.Service
