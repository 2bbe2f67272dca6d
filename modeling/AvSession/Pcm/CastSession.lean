import AvSession.Item
import Mathlib.Logic.Function.Basic
import Mathlib.Algebra.Group.Int.Defs

/-!
# Casts of the sound of the device

Beside the casts of sessions there is one of all sound, which the service keeps as its
`pcmCastSession_`. Everything about it is asynchronous: a cast is asked to end, and is over when its
device has gone; to change the device, the old cast is asked to end, and the new one is started when
it is over. The states of a device are told to all listeners of the router, by tasks.

* `PcmCastSession` — one object; `CastInfo` — what the router and the cast engine know of a cast.
* `World` — the service, the objects there have been, the router, and the sessions of applications.
* `startCast`, `stopCast`, `onCastStateChange`, … — the operations of an object.
* `Act`, `World.step` — the calls of the service, the states of devices, and the tasks.

Handles are fresh: the engine does not give one out twice, and no session casts by itself, in which
case the router would share the handle of a cast to the same device. A session has a handle from the
object that has put it on its device, and ends that cast when it is destroyed.
-/

namespace AvSession.Pcm

/-! ## State -/

section state

/-- An object that there has been. -/
abbrev PcmRef := ℕ

/-- The states of a device that an object looks at. Source: pcm_cast_session.cpp,
PcmCastSession::OnCastStateChange. -/
inductive DeviceState
  | connected
  | playing
  | stream
  | disconnected
  | other
deriving DecidableEq

/-- Source: pcm_cast_session.h, PcmCastSession::CastState. -/
inductive CastState
  | disconnected
  | prepare
  | stream
deriving DecidableEq

/-- `switchTo` is the device of `newOutputDeviceInfo_` while `multiDeviceState_` is
CASTING_SWITCH_DEVICE. Source: pcm_cast_session.h, PcmCastSession. -/
structure PcmCastSession where
  castHandle : ℤ
  castState : CastState
  castHandleDeviceId : String
  switchTo : Option String
  streamCastingSessionId : String
  needStreamCasting : Bool

/-- A new object. -/
def PcmCastSession.init : PcmCastSession := ⟨0, .disconnected, "-100", none, "", false⟩

/-- A cast: who listens to it, the device it is on, if not the LocalDevice, whether it has not been
ended yet, and whether its device has been asked to go. Source: av_router.h, CastHandleInfo;
hw_cast_provider_session.h. -/
structure CastInfo where
  avRouterListener : Option PcmRef
  outputDeviceInfo : Option String
  running : Bool
  removing : Bool

/-- A session of an application. Source: avsession_item.h, AVSessionItem. -/
structure AppSession where
  sessionType : SessionType
  isHiPlayStreamCasting : Bool
  castHandle : ℤ

/-- The protocols of a device, as far as they are looked at: TYPE_CAST_PLUS_AUDIO, and others. -/
structure SupportedProtocols where
  castPlusAudio : Bool
  others : Bool

/-- Whether a start is one of the screen.
Source: pcm_cast_session.cpp, PcmCastSession::StartCast. -/
def isPcmScreen (sessionId : String) (protocols : SupportedProtocols) : Bool :=
  sessionId = "pcmCastSession" && !protocols.castPlusAudio

/-- What the collaboration service and the cast engine answer in the course of a start. -/
structure Answers where
  /-- CastAddToCollaboration succeeds. -/
  collaboration : Bool
  /-- The pin code is there in time. -/
  pinCode : Bool
  /-- AVRouter::StartCast gives a handle. -/
  castStarted : Bool
  /-- AVRouter::AddDevice succeeds. -/
  deviceAdded : Bool

/-- The service, the objects, the router with the tasks it has posted, and the sessions.
Source: avsession_service.h, AVSessionService; avrouter_impl.h, AVRouterImpl. -/
structure World where
  pcmCastSession : Option PcmRef
  pcms : PcmRef → PcmCastSession
  nextPcm : ℕ
  castHandleToInfoMap : ℤ → Option CastInfo
  nextHandle : ℕ
  tasks : List (PcmRef × DeviceState)
  sessions : String → Option AppSession

/-- A service that has not cast yet. -/
def World.init : World where
  pcmCastSession := none
  pcms := fun _ => .init
  nextPcm := 0
  castHandleToInfoMap := fun _ => none
  nextHandle := 0
  tasks := []
  sessions := fun _ => none

end state

namespace World

variable (w : World)

/-- An object is changed. -/
def setPcm (p : PcmRef) (x : PcmCastSession) : World :=
  { w with pcms := Function.update w.pcms p x }

/-- The entry of a handle is changed, if there is one. -/
def changeInfo (castHandle : ℤ) (f : CastInfo → CastInfo) : World :=
  { w with
    castHandleToInfoMap := Function.update w.castHandleToInfoMap castHandle
      ((w.castHandleToInfoMap castHandle).map f) }

/-- The flag of a session and its handle are changed. -/
def setIsHiPlayStreamCasting (sessionId : String) (isHiPlayStreamCasting : Bool) (castHandle : ℤ) :
    World :=
  { w with
    sessions := Function.update w.sessions sessionId
      ((w.sessions sessionId).map ({ · with isHiPlayStreamCasting, castHandle })) }

/-! ## The router -/

section router

/-- A cast is started, and the object listens to it.
Source: avrouter_impl.cpp, AVRouterImpl::StartCast, AVRouterImpl::RegisterCallback. -/
def routerStartCast (p : PcmRef) : World :=
  { w with
    castHandleToInfoMap := Function.update w.castHandleToInfoMap (w.nextHandle + 1)
      (some ⟨some p, none, true, false⟩)
    nextHandle := w.nextHandle + 1 }

/-- Source: avrouter_impl.cpp, AVRouterImpl::AddDevice,
AVRouterImpl::AddDeviceWithConnectionConfig. -/
def routerAddDevice (castHandle : ℤ) (deviceId : String) : World :=
  w.changeInfo castHandle ({ · with outputDeviceInfo := some deviceId })

/-- The device is asked to go, if it is known.
Source: avrouter_impl.cpp, AVRouterImpl::StopCast. -/
def routerStopCast (castHandle : ℤ) : World :=
  w.changeInfo castHandle fun info =>
    if info.outputDeviceInfo.isSome then { info with outputDeviceInfo := none, removing := true }
    else info

/-- The engine ends a cast; whoever listens to it stays. Source: avrouter_impl.cpp,
AVRouterImpl::StopCastSession. -/
def stopCastSession (castHandle : ℤ) : World :=
  w.changeInfo castHandle ({ · with running := false })

/-- Source: avrouter_impl.cpp, AVRouterImpl::UnRegisterCallback, AVRouterImpl::StopCastSession. -/
def endCastSession (castHandle : ℤ) : World :=
  w.changeInfo castHandle ({ · with avRouterListener := none, running := false })

/-- The state of a device is told to the listeners of all casts; a disconnected one is none of
theirs any more. Source: avrouter_impl.cpp, AVRouterImpl::OnCastStateChange. -/
def routerOnCastStateChange (castState : DeviceState) : World :=
  { w with
    castHandleToInfoMap := fun castHandle => (w.castHandleToInfoMap castHandle).map fun info =>
      if castState = .disconnected ∧ info.avRouterListener.isSome then
        { info with outputDeviceInfo := none }
      else info
    tasks := w.tasks ++ (List.range w.nextHandle).filterMap fun n : ℕ =>
      ((w.castHandleToInfoMap (n + 1)).bind (·.avRouterListener)).map (·, castState) }

end router

/-! ## Objects -/

section objects

variable (p : PcmRef)

/-- Source: pcm_cast_session.cpp, PcmCastSession::ReleaseStreamPlayer. -/
def releaseStreamPlayer : World :=
  let x := w.pcms p
  if (w.sessions x.streamCastingSessionId).isSome then
    (w.setIsHiPlayStreamCasting x.streamCastingSessionId false (-1)).setPcm p
      { x with streamCastingSessionId := "" }
  else w

/-- Source: pcm_cast_session.cpp, PcmCastSession::FindSessionAndStreamCasting. -/
def findSessionAndStreamCasting : World :=
  w.setIsHiPlayStreamCasting (w.pcms p).streamCastingSessionId true (w.pcms p).castHandle

/-- Source: pcm_cast_session.cpp, PcmCastSession::CreateStreamPlayer. -/
def createStreamPlayer (sessionId : String) : World :=
  let x := { w.pcms p with streamCastingSessionId := sessionId }
  if x.castState = .stream then (w.setPcm p x).findSessionAndStreamCasting p
  else w.setPcm p { x with needStreamCasting := true }

/-- Source: pcm_cast_session.cpp, PcmCastSession::StopCast. -/
def pcmStopCast : World :=
  let w := w.releaseStreamPlayer p
  w.routerStopCast (w.pcms p).castHandle

/-- Source: pcm_cast_session.cpp, PcmCastSession::DestroyTask. -/
def destroyTask : World :=
  let x := w.pcms p
  (w.endCastSession x.castHandle).setPcm p
    { x with castHandle := -1, castState := .disconnected, castHandleDeviceId := "-100" }

/-- A cast is started and its device is added, as `SubStartCast` and `StartScreenCast` do. -/
def connect (deviceId : String) (z : Answers) : World × Bool :=
  if z.castStarted then
    let w' := w.routerStartCast p
    if z.deviceAdded then
      ((w'.routerAddDevice w'.nextHandle deviceId).setPcm p
        { w.pcms p with castHandle := w'.nextHandle, castHandleDeviceId := deviceId }, true)
    else ((w'.setPcm p { w.pcms p with castHandle := w'.nextHandle }).destroyTask p, false)
  else (w.setPcm p { w.pcms p with castHandle := -1 }, false)

/-- Source: pcm_cast_session.cpp, PcmCastSession::SubStartCast. -/
def subStartCast (deviceId : String) (z : Answers) : World × Bool := w.connect p deviceId z

/-- Source: pcm_cast_session.cpp, PcmCastSession::StartScreenCast. -/
def startScreenCast (deviceId : String) (z : Answers) : World × Bool :=
  if z.pinCode then w.connect p deviceId z else (w, false)

/-- Source: pcm_cast_session.cpp, PcmCastSession::StartCast. -/
def pcmStartCast (sessionId deviceId : String) (protocols : SupportedProtocols) (z : Answers) :
    World :=
  let x := w.pcms p
  if 0 < x.castHandle ∧ ¬ isPcmScreen sessionId protocols then
    if x.castHandleDeviceId = deviceId then w
    else (w.setPcm p { x with switchTo := some deviceId }).pcmStopCast p
  else if z.collaboration then
    if isPcmScreen sessionId protocols then (w.startScreenCast p deviceId z).1
    else (w.subStartCast p deviceId z).1
  else w

/-- The first part of `HandleDeviceDisconnect`: the cast is over. -/
def leaveDevice : World := (w.releaseStreamPlayer p).destroyTask p

/-- The second part: the cast to the device that the old one was left for. If that fails, the object
is told of a disconnect once more. -/
def startOver (deviceId : String) (z : Answers) : World :=
  if z.collaboration then
    if (w.subStartCast p deviceId z).2 then (w.subStartCast p deviceId z).1
    else (w.subStartCast p deviceId z).1.leaveDevice p
  else w.leaveDevice p

/-- Source: pcm_cast_session.cpp, PcmCastSession::HandleDeviceDisconnect. -/
def handleDeviceDisconnect (z : Answers) : World :=
  let w := w.leaveDevice p
  match (w.pcms p).switchTo with
  | none => w
  | some deviceId => (w.setPcm p { w.pcms p with switchTo := none }).startOver p deviceId z

/-- Source: pcm_cast_session.cpp, PcmCastSession::OnCastStateChange. -/
def onCastStateChange (castState : DeviceState) (z : Answers) : World :=
  match castState with
  | .disconnected => w.handleDeviceDisconnect p z
  | .stream =>
      let x := { w.pcms p with castState := .stream }
      if x.needStreamCasting then
        (w.setPcm p { x with needStreamCasting := false }).findSessionAndStreamCasting p
      else w.setPcm p x
  | .connected | .playing => w.setPcm p { w.pcms p with castState := .prepare }
  | .other => w

end objects

/-! ## The service -/

section service

/-- Whether a start is one of all sound. Source: avsession_service_ext.cpp,
AVSessionService::StartCast. -/
def isPcm (sessionId : String) (protocols : SupportedProtocols) : Bool :=
  sessionId = "pcmCastSession" ||
    (w.sessions sessionId).any fun s =>
      (protocols.castPlusAudio && !protocols.others) ||
        (protocols.castPlusAudio && s.sessionType = .audio)

/-- There is an object from now on. -/
def newPcm : World :=
  { w.setPcm w.nextPcm .init with
    pcmCastSession := some w.nextPcm
    nextPcm := w.nextPcm + 1 }

/-- Source: avsession_service_ext.cpp, AVSessionService::StartCast. -/
def startCast (sessionId deviceId : String) (protocols : SupportedProtocols) (z : Answers) :
    World :=
  if w.isPcm sessionId protocols then
    match w.pcmCastSession with
    | some p => w.pcmStartCast p sessionId deviceId protocols z
    | none => w.newPcm.pcmStartCast w.nextPcm sessionId deviceId protocols z
  else w

/-- Whether the stop of a session's cast is one of all sound, too.
Source: avsession_service_ext.cpp, AVSessionService::StopCast. -/
def stopsPcm (sessionId : String) : Bool :=
  (w.sessions sessionId).all fun s => s.sessionType ≠ .voiceCall ∧ s.sessionType ≠ .videoCall

/-- The cast of all sound is stopped, and its object forgotten. -/
def stopPcm : World :=
  match w.pcmCastSession with
  | some p => ({ w with pcmCastSession := none } : World).pcmStopCast p
  | none => w

/-- Source: avsession_service_ext.cpp, AVSessionService::StopCast. -/
def stopCast (sessionId : String) : World :=
  if w.stopsPcm sessionId then w.stopPcm else w

/-- Source: avsession_service.cpp, AVSessionService::ClearPcmSessionForClientDiedNoLock. -/
def clearPcmSessionForClientDied : World :=
  match w.pcmCastSession with
  | some p => { w.destroyTask p with pcmCastSession := none }
  | none => w

/-- CREATE_STREAM_PLAYER. Source: avsession_service.cpp, AVSessionService::SendSystemCommonCommand;
pcm_cast_session.cpp, PcmCastSession::ControlCommandParams. -/
def createStreamPlayerCommand (sessionId : String) : World :=
  match w.pcmCastSession with
  | some p => w.createStreamPlayer p sessionId
  | none => w

/-- RELEASE_STREAM_PLAYER, CHANGE_SCREEN_MODE, and the stop of a session that is a stream player.
Source: pcm_cast_session.cpp, PcmCastSession::ControlCommandParams; avsession_item.cpp,
AVSessionItem::StopCast; avsession_service_ext.cpp,
AVSessionService::PcmCastSessionReleasePlayer. -/
def releaseStreamPlayerCommand : World :=
  match w.pcmCastSession with
  | some p => w.releaseStreamPlayer p
  | none => w

/-- Source: avsession_item.cpp, AVSessionItem::StopCast, AVSessionItem::ReleaseCast. -/
def itemStopCast (session : AppSession) : World :=
  if session.isHiPlayStreamCasting then w.releaseStreamPlayerCommand
  else w.routerStopCast session.castHandle

/-- A session that has been released has no handle of a cast any more.
Source: avsession_item.cpp, AVSessionItem::StopCastSession. -/
def itemStopCastSession (sessionId : String) : World :=
  match w.sessions sessionId with
  | some session => w.stopCastSession session.castHandle
  | none => w

/-- The session listens to no cast of sound itself, so that there is nothing to unregister.
Source: avsession_item.cpp, AVSessionItem::DestroyCast. -/
def destroyCast (sessionId : String) : World :=
  match w.sessions sessionId with
  | some session =>
      if 0 < session.castHandle then (w.itemStopCast session).itemStopCastSession sessionId else w
  | none => w

/-- Source: avsession_item.cpp, AVSessionItem::DestroyTask; avsession_service.cpp,
AVSessionService::HandleSessionRelease. -/
def destroySession (sessionId : String) : World :=
  let w := w.destroyCast sessionId
  { w with sessions := Function.update w.sessions sessionId none }

/-- Source: avsession_service_ext.cpp, AVSessionService::IsHiPlayCasting. -/
def isHiPlayCasting : Bool := w.pcmCastSession.any fun p => 0 < (w.pcms p).castHandle

end service

end World

/-! ## Steps -/

/-- What can happen. -/
inductive Act
  | startCast (sessionId deviceId : String) (protocols : SupportedProtocols) (z : Answers)
  | stopCast (sessionId : String)
  | clearPcmSessionForClientDied
  | createStreamPlayer (sessionId : String)
  | releaseStreamPlayer
  | createSession (sessionId : String) (sessionType : SessionType)
  | destroySession (sessionId : String)
  | collaborationOnStop (p : PcmRef)
  | castStateChange (castState : DeviceState)
  | runTask (z : Answers)

/-- One step. Once an object has been told of a state, the collaboration service may stop its cast,
too: `SendCollaborationOnStop`. -/
def World.step (w : World) : Act → World
  | .startCast sessionId deviceId protocols z => w.startCast sessionId deviceId protocols z
  | .stopCast sessionId => w.stopCast sessionId
  | .clearPcmSessionForClientDied => w.clearPcmSessionForClientDied
  | .createStreamPlayer sessionId => w.createStreamPlayerCommand sessionId
  | .releaseStreamPlayer => w.releaseStreamPlayerCommand
  | .createSession sessionId sessionType =>
      if (w.sessions sessionId).isSome then w
      else { w with sessions := Function.update w.sessions sessionId (some ⟨sessionType, false, 0⟩) }
  | .destroySession sessionId => w.destroySession sessionId
  | .collaborationOnStop p => w.pcmStopCast p
  | .castStateChange castState => w.routerOnCastStateChange castState
  | .runTask z =>
      match w.tasks with
      | [] => w
      | (p, castState) :: tasks => ({ w with tasks } : World).onCastStateChange p castState z

end AvSession.Pcm
