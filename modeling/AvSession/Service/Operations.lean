import AvSession.Lib.CString
import AvSession.Registry.UsersManager

/-!
# The session operations of the service

What `AVSessionService` does to the lists, the top session and the containers of the users. Every
operation is a function of the state that `AVSessionUsersManager` keeps.

* `updateTopSession`, `getOtherPlayingSession`, `handleTopSessionRelease` — the top session of a
  user, and the election of another one when it is released.
* `updateFrontSession`, `addExtraFrontSession`, `updateOrder`, `addKeyEventSession` — the front list
  and the key-event list.
* `handleUserSwitched`, `handleUserRemoved` — `HandleUserEvent`.
* `refreshUserFromAnco` — the switch of the user that a request for a session can ask for.
* `Oracle` — what the service asks of the audio framework and of the cast engine during a call.
* Left out: notifications to listeners and to the system UI, the capsule and media-card flags, the
  sort file, timestamps. The id of the local front session is in `LocalFront`.
-/

namespace AvSession.Service

open AvSession.Lib AvSession.Registry

/-- What an operation learns from outside about the sessions. -/
structure Oracle where
  /-- `AudioAdapter::GetRendererRunning` -/
  rendererRunning : Uid → Pid → Bool
  /-- The playback state of the session is `PLAYBACK_STATE_PLAY`. -/
  playing : SessionRef → Bool
  /-- `AVSessionItem::IsCasting` -/
  isCasting : SessionRef → Bool
  /-- The state that the cast controller proxy of the session reports is
  `PLAYBACK_STATE_PLAY`. -/
  castPlaying : SessionRef → Bool

/-- Source: avsession_service.h -/
def audioBrokerUid : Uid := 5557

/-- Source: avsession_service.h -/
def ancoUid : Uid := 1041

/-- Source: avsession_service.h -/
def uidToUserId : ℤ := 200000

variable (m : UsersManager) (o : Oracle) (x : SessionRef) (userId : UserId)

/-! ## Users and playing states -/

section queries

/-- Source: avsession_service.cpp, `AVSessionService::GetTargetUserId` -/
def getTargetUserId : UserId := if m.isUserAlive userId then userId else m.curUserId

/-- Source: avsession_service.cpp, `AVSessionService::GetUserIdFromCallingUid` -/
def getUserIdFromCallingUid (uid : Uid) : UserId :=
  if uid.tdiv uidToUserId ≤ 0 then m.curUserId else uid.tdiv uidToUserId

/-- Source: avsession_service.cpp, `AVSessionService::IsLocalSessionPlaying` -/
def isLocalSessionPlaying : Bool :=
  o.rendererRunning (m.items x).uid (m.items x).pid ||
    ((m.items x).uid == audioBrokerUid && o.playing x)

/-- A session without a cast controller proxy reports the default state, which is not play.
Source: avsession_item.cpp, `AVSessionItem::GetCastAVPlaybackState` -/
def isCastPlaying : Bool := (m.items x).hasCastProxy && o.castPlaying x

/-- The session types `voice_call` and `video_call`. -/
def isCall : SessionType → Bool
  | .voiceCall | .videoCall => true
  | _ => false

end queries

/-! ## The top session -/

section top

/-- Another front list for the user that `userId` stands for. -/
def setFront (l : List SessionRef) : UsersManager :=
  { m with frontByUser := Function.update m.frontByUser (m.effectiveUser userId) l }

/-- Another key-event list for the user that `userId` stands for. -/
def setKeyEvent (l : List SessionRef) : UsersManager :=
  { m with keyEventByUser := Function.update m.keyEventByUser (m.effectiveUser userId) l }

/-- Source: avsession_item.cpp, `AVSessionItem::SetTop` -/
def setTop (top : Bool) : UsersManager := m.withItem x { m.items x with isTop := top }

/-- `SetTop(false)` on a top session, if there is one. -/
def clearTop : Option SessionRef → UsersManager
  | none => m
  | some y => setTop m y false

/-- The slot belongs to the user of the new session, or to the target user if there is none.
Source: avsession_service.cpp, `AVSessionService::UpdateTopSession` -/
def updateTopSession (userId : UserId) : Option SessionRef → UsersManager
  | none =>
      (clearTop m (m.getTopSession (getTargetUserId m userId))).setTopSession none
        (getTargetUserId m userId)
  | some x =>
      setTop ((clearTop m (m.getTopSession (m.items x).userId)).setTopSession (some x)
        (m.items x).userId) x true

/-- The loop condition of `getOtherPlayingSession`. -/
def isOtherPlaying (bundleName : String) : Bool :=
  !isCall (m.items x).sessionType && (m.items x).bundleName != bundleName && !o.isCasting x &&
    isLocalSessionPlaying m o x

/-- The first front session of another bundle that is playing; failing that, for a bundle that is
not empty, the second front session if it is cast and playing.
Source: avsession_service.cpp, `AVSessionService::GetOtherPlayingSession` -/
def getOtherPlayingSession (bundleName : String) : Option SessionRef :=
  match (m.getCurSessionListForFront userId).find? fun y => isOtherPlaying m o y bundleName with
  | some y => some y
  | none =>
      if bundleName = "" then none
      else
        match m.getCurSessionListForFront userId with
        | _ :: second :: _ =>
            if o.isCasting second && isCastPlaying m o second then some second else none
        | _ => none

/-- Move a session to the head of a front list that has it.
Source: avsession_service.cpp, `AVSessionService::UpdateOrder`, the part on the front list -/
def moveToFront : UsersManager :=
  if (m.items x).sessionType = .photo then m
  else if x ∈ m.getCurSessionListForFront (m.items x).userId then
    setFront m (m.items x).userId
      (x :: (m.getCurSessionListForFront (m.items x).userId).filter (· ≠ x))
  else m

/-- Source: avsession_service.cpp, `AVSessionService::UpdateOrder` -/
def updateOrder : UsersManager :=
  moveToFront (m.withUser (m.items x).userId
    ((m.getContainerFromUser (m.items x).userId).updateSessionSort m.items x)) x

/-- Source: avsession_service.cpp, `AVSessionService::HandleOtherSessionPlaying` -/
def handleOtherSessionPlaying : UsersManager :=
  if (updateTopSession m (m.items x).userId (some x)).getTopSession
      (m.effectiveUser (m.items x).userId) = none then
    updateTopSession m (m.items x).userId (some x)
  else updateOrder (updateTopSession m (m.items x).userId (some x)) x

/-- Source: avsession_service.cpp, `AVSessionService::HandleTopSessionRelease` -/
def handleTopSessionRelease : UsersManager :=
  if m.getTopSession userId = some x then
    match getOtherPlayingSession m o userId (m.items x).bundleName with
    | some y => handleOtherSessionPlaying m y
    | none => updateTopSession m userId none
  else m

end top

/-! ## The front list and the key-event list -/

section lists

/-- Source: avsession_service.cpp, `AVSessionService::AddExtraFrontSession` -/
def addExtraFrontSession (type : SessionType) : UsersManager :=
  if isCall type ∧ x ∉ m.getCurSessionListForFront (m.items x).userId then
    setFront m (m.items x).userId (x :: m.getCurSessionListForFront (m.items x).userId)
  else m

/-- `UpdateFrontSession` with `isAdd`, past the two early returns. -/
def addFrontSession : UsersManager :=
  if x ∈ m.getCurSessionListForFront (m.items x).userId then m
  else
    let m' := setFront m (m.items x).userId (x :: m.getCurSessionListForFront (m.items x).userId)
    if isLocalSessionPlaying m o x then updateTopSession m' (m.items x).userId (some x) else m'

/-- `UpdateFrontSession` without `isAdd`, past the two early returns. -/
def removeFrontSession : UsersManager :=
  let m' := handleTopSessionRelease m o x (m.items x).userId
  setFront m' (m.items x).userId
    ((m'.getCurSessionListForFront (m.items x).userId).filter (· ≠ x))

/-- A bundle of the control list and a photo session return early, whether or not `isAdd`.
Source: avsession_service.cpp, `AVSessionService::UpdateFrontSession` -/
def updateFrontSession (controlBundleNameSet : List String) (isAdd : Bool) : UsersManager :=
  if (m.items x).bundleName ∈ controlBundleNameSet then m
  else if (m.items x).sessionType = .photo then m
  else if isAdd then addFrontSession m o x
  else removeFrontSession m o x

/-- Source: avsession_service.cpp, `AVSessionService::AddKeyEventServiceCallback` -/
def addKeyEventSession : UsersManager :=
  if x ∈ m.getCurSessionListForKeyEvent (m.items x).userId then m
  else setKeyEvent m (m.items x).userId (x :: m.getCurSessionListForKeyEvent (m.items x).userId)

end lists

/-! ## Account events -/

section events

/-- Source: avsession_service.cpp, `AVSessionService::HandleUserEvent`, `accountEventSwitched` -/
def handleUserSwitched : UsersManager :=
  let m' := m.handleUserSwitched userId
  updateTopSession m' userId (m'.getTopSession m'.curUserId)

/-- Source: avsession_service.cpp, `AVSessionService::HandleUserEvent`, `accountEventRemoved` -/
def handleUserRemoved : UsersManager := m.handleUserRemoved userId

/-- The element that a session is created for. Source: `AppExecFwk::ElementName` -/
structure ElementName where
  deviceId : String
  bundleName : String
  abilityName : String

/-- Source: stdint.h -/
def INT32_MIN : ℤ := -2147483648

/-- Source: stdint.h -/
def INT32_MAX : ℤ := 2147483647

/-- The user that the device id of a request names: it has to be the text of an `int32_t`, and the
caller one of the two that stand for another system.
Source: avsession_service.cpp, `AVSessionService::RefreshUserFromAnco` -/
def ancoUserId (tag : String) (uid : Uid) (deviceId : String) : Option UserId :=
  let isBroker := tag == "ancoMediaSession" && uid == audioBrokerUid
  let isAnco := tag == "anco_audio" && uid == ancoUid
  if (isBroker || isAnco) && deviceId != "" then
    (strtol deviceId).filter fun userId => INT32_MIN ≤ userId && userId ≤ INT32_MAX
  else none

/-- Source: avsession_service.cpp, `AVSessionService::RefreshUserFromAnco` -/
def refreshUserFromAnco (tag : String) (uid : Uid) (elementName : ElementName) : UsersManager :=
  match ancoUserId tag uid elementName.deviceId with
  | none => m
  | some userId => if m.curUserId = userId then m else handleUserSwitched m userId

/-- The request switches the user or changes nothing. -/
theorem refreshUserFromAnco_cases (tag : String) (uid : Uid) (elementName : ElementName) :
    refreshUserFromAnco m tag uid elementName = m ∨
      ∃ userId, refreshUserFromAnco m tag uid elementName = handleUserSwitched m userId := by
  unfold refreshUserFromAnco
  split
  · exact Or.inl rfl
  · split_ifs
    · exact Or.inl rfl
    · exact Or.inr ⟨_, rfl⟩

end events

end AvSession.Service
