import AvSession.Common.Codes
import AvSession.Lib.Run
import Mathlib.Data.List.Basic

/-!
# The cast of a session moves to another device

A session that is cast can be cast to another device: the cast is stopped, and the disconnect that
answers the stop starts the cast to the new device. Between the two, `multiDeviceState_` and
`newOutputDeviceInfo_` remember what was asked for.

* `CastItem`, `CastEnv` — the session, and what it finds and is answered during one call.
* `startCast`, `stopCast`, `onCastStateChange` — the operations.
* `CastHistory`, `CastRun` — what was asked for and stopped since the last disconnect.
* `Awaited`, `Switches` — what is expected of the states and of a disconnect.
* `castSwitch_iff` — exactly the runs that meet both.

The session is not a sink: its tag is neither `RemoteCast` nor `projection_client`. Of a list of
output devices only the first is looked at.
-/

namespace AvSession.Cast

open AvSession.Common.Codes AvSession.Lib

/-! ## The session -/

section session

/-- Source: avsession_descriptor.h, MultiDeviceState. -/
inductive MultiDeviceState
  | default
  | castingSwitchDevice
  | castedAndCasting
  | castingAndCasted
deriving DecidableEq

/-- What the switch reads of a device. Source: avsession_descriptor.h, DeviceInfo. -/
structure CastDevice where
  castCategory : ℤ
  deviceId : String
  deviceName : String
deriving DecidableEq

/-- AVCastCategory::CATEGORY_LOCAL of avsession_info.h. -/
def categoryLocal : ℤ := 0

/-- The device of the session itself. Source: avsession_item.cpp, AVSessionItem::DealLocalState. -/
def localDevice : CastDevice := ⟨categoryLocal, "0", "LocalDevice"⟩

/-- Source: av_router.h, CAST_SIDE. -/
inductive CastSide
  | default
  | castSink
  | castSource
deriving DecidableEq

/-- What becomes of AVRouter::StopCast: there is no provider, which is no error, the handle is not
known or has no device, or the device is removed. -/
inductive StopAnswer
  | noProvider
  | unknownHandle
  | removed
deriving DecidableEq

/-- What a cast function returns. -/
inductive CastRet
  | success
  | error
  | errRepeatCast
deriving DecidableEq

/-- What the session calls. -/
inductive CastCall
  /-- `castHandle_` is written, of which the service is told. -/
  | setCastHandle (castHandle : ℤ)
  /-- The device is removed, or the player of the device is told to stop. -/
  | stopCast (castHandle : ℤ)
  /-- The service stops the cast of which this device is the sink. -/
  | stopSinkCast
  | subStartCast (device : CastDevice)
deriving DecidableEq

/-- Source: avsession_item.h, AVSessionItem. -/
structure CastItem where
  isVideo : Bool
  multiDeviceState : MultiDeviceState
  newOutputDeviceInfo : Option CastDevice
  castHandle : ℤ
  castHandleDeviceId : String
  /-- Whether `castControllerProxy_` is there. -/
  castControllerProxy : Bool
  isHiPlayStreamCasting : Bool
  outputDeviceInfo : CastDevice
  /-- The calls of the operation that is running. -/
  calls : List CastCall

/-- What one operation finds and is answered. -/
structure CastEnv where
  mirrorCastHandle : ℤ
  mirrorDeviceId : String
  castSide : CastSide
  isRemoteCasting : Bool
  isHiPlayCasting : Bool
  /-- `castDeviceInfoMap_` of the session. -/
  castDeviceInfoMap : String → Option CastDevice
  /-- CollaborationManagerURLCasting::CastAddToCollaboration. -/
  collaboration : CastRet
  /-- The handle of AVRouter::StartCast. -/
  startedHandle : ℤ
  /-- Whether the handle has a controller. -/
  remoteController : Bool
  /-- The device that RegisterCallback reports as connected at once. -/
  connectedAtOnce : Option CastDevice
  /-- AVRouter::AddDevice. -/
  addDevice : CastRet
  /-- AVRouter::StopCastSession. -/
  stopCastSession : CastRet
  stopAnswer : StopAnswer
  /-- Whether `serviceCallbackStopSinkCast_` is there. -/
  serviceCallbackStopSinkCast : Bool
  /-- Whether the caller is the media control or the scene board. -/
  isMediaOrSceneBoard : Bool
  /-- Whether the service has a session for audio casts. -/
  pcmCastSession : Bool
  /-- Whether the audio cast streams this session. -/
  streamsThisSession : Bool

end session

/-! ## The operations -/

section operations

namespace CastItem

variable (s : CastItem) (e : CastEnv)

/-- A call is made. -/
def call (c : CastCall) : CastItem := { s with calls := s.calls ++ [c] }

/-- Source: avsession_item.cpp, AVSessionItem::SetCastHandle. -/
def setCastHandle (castHandle : ℤ) : CastItem :=
  { s with castHandle }.call (.setCastHandle castHandle)

/-- No cast has this device. -/
def noCastDeviceId : String := "-100"

/-- Source: avsession_item.cpp, AVSessionItem::SetOutputDevice. -/
def setOutputDevice (device : CastDevice) : CastItem := { s with outputDeviceInfo := device }

/-- The player of an audio cast is released.
Source: pcm_cast_session.cpp, PcmCastSession::ReleaseStreamPlayer. -/
def releaseStreamPlayer : CastItem :=
  if e.streamsThisSession then
    { s.setCastHandle (-1) with
      isHiPlayStreamCasting := false
      outputDeviceInfo := localDevice
      castControllerProxy := false }
  else s

/-- Source: avsession_service_ext.cpp, AVSessionService::PcmCastSessionReleasePlayer. -/
def pcmCastSessionReleasePlayer : CastItem × CastRet :=
  if e.pcmCastSession then (s.releaseStreamPlayer e, .success) else (s, .error)

/-- Whether the device is stopped by a command to its player. -/
def stopsByCommand : Bool := s.castHandle = e.mirrorCastHandle ∧ e.isMediaOrSceneBoard = false

/-- Source: avsession_item.cpp, AVSessionItem::StopCast. -/
def stopCast : CastItem × CastRet :=
  if s.isHiPlayStreamCasting then s.pcmCastSessionReleasePlayer e
  else if e.castSide = .castSink then
    if e.serviceCallbackStopSinkCast then (s.call .stopSinkCast, .success) else (s, .error)
  else if s.castHandle = 0 ∨ s.castHandle = -1 then (s, .success)
  else if s.stopsByCommand e then
    if s.castControllerProxy then (s.call (.stopCast s.castHandle), .success) else (s, .success)
  else
    match e.stopAnswer with
    | .noProvider => (s, .success)
    | .unknownHandle => (s, .error)
    | .removed => (s.call (.stopCast s.castHandle), .success)

/-- Source: avsession_item.cpp, AVSessionItem::StopCastSession. -/
def stopCastSession : CastItem :=
  if e.stopCastSession ≠ .error then
    { s.setCastHandle (-1) with castHandleDeviceId := noCastDeviceId }
  else s

/-- Source: avsession_item.cpp, AVSessionItem::DestroyCast, AVSessionItem::ReleaseCast. -/
def destroyCast : CastItem :=
  if 0 < s.castHandle then (s.stopCast e).1.stopCastSession e else s

/-- Source: avsession_item.cpp, AVSessionItem::InitAVCastControllerProxy. -/
def initAVCastControllerProxy : CastItem :=
  { s with castControllerProxy := s.castControllerProxy || e.remoteController }

/-- The entry of the map for a device, or the device itself.
Source: avsession_item.cpp, AVSessionItem::OnCastStateChange. -/
def outputDeviceOf (device : CastDevice) : CastDevice :=
  (e.castDeviceInfoMap device.deviceId).getD device

/-- AVRouter::RegisterCallback, which may report a device as connected at once. -/
def registerCallback : CastItem :=
  match e.connectedAtOnce with
  | none => s
  | some device => s.setOutputDevice (outputDeviceOf e device)

/-- Source: avsession_item.cpp, AVSessionItem::AddDevice. -/
def addDevice : CastItem × CastRet := (s.registerCallback e, e.addDevice)

/-- Source: avsession_item.cpp, AVSessionItem::SubStartCast. -/
def subStartCast (device : CastDevice) : CastItem × CastRet :=
  let s := s.call (.subStartCast device)
  if e.startedHandle = AVSESSION_ERROR then (s, .error)
  else
    let r := (s.setCastHandle e.startedHandle).addDevice e
    if r.2 = .success then ({ r.1 with castHandleDeviceId := device.deviceId }, .success)
    -- AVRouter::StartCast has made this device the source
    else (r.1.destroyCast { e with castSide := .castSource }, r.2)

/-- Source: avsession_item.cpp, AVSessionItem::CastAddToCollaboration. -/
def castAddToCollaboration (device : CastDevice) : CastRet :=
  if (e.castDeviceInfoMap device.deviceId).isSome then e.collaboration else .error

/-- Whether the session joins the mirror cast. -/
def joinsMirror (device : CastDevice) : Bool :=
  e.mirrorCastHandle ≠ -1 ∧ s.castHandle ≤ 0 ∧ s.isVideo ∧ e.mirrorDeviceId = device.deviceId

/-- Whether the cast needs no collaboration. -/
def castsAlready : Bool :=
  e.castSide = .castSource ∧ e.isRemoteCasting ∧ !e.isHiPlayCasting ∧ e.mirrorCastHandle = -1

/-- A switch to a device is remembered. -/
def switchTo (multiDeviceState : MultiDeviceState) (device : CastDevice) : CastItem :=
  { s with multiDeviceState, newOutputDeviceInfo := some device }

/-- Nothing is remembered any more. -/
def forgetSwitch : CastItem := { s with multiDeviceState := .default }

/-- Source: avsession_item.cpp, AVSessionItem::StartCast. -/
def startCast (device : CastDevice) : CastItem × CastRet :=
  if s.joinsMirror e device then
    ({ ((s.setCastHandle e.mirrorCastHandle).initAVCastControllerProxy e).registerCallback e with
      castHandleDeviceId := device.deviceId }, .success)
  else if 0 < s.castHandle then
    if s.castHandleDeviceId = device.deviceId then (s, .errRepeatCast)
    -- the answer of the stop is not looked at
    else (((s.switchTo .castingSwitchDevice device).stopCast e).1, .success)
  else if e.castSide = .castSink then
    (((s.switchTo .castedAndCasting device).stopCast e).1, .success)
  else if castsAlready e then s.subStartCast e device
  else if castAddToCollaboration e device ≠ .success then
    (s, castAddToCollaboration e device)
  else s.subStartCast e device

/-- Source: avsession_item.cpp, AVSessionItem::SaveLocalDeviceInfo. -/
def saveLocalDeviceInfo : CastItem := { s with outputDeviceInfo := localDevice }

/-- Source: avsession_item.cpp, AVSessionItem::DealDisconnect. -/
def dealDisconnect : CastItem :=
  { s.setCastHandle (-1) with
    castHandleDeviceId := noCastDeviceId
    castControllerProxy := false }.saveLocalDeviceInfo

end CastItem

/-- CastEngineConnectState::DISCONNECTED, `disconnectStateFromCast_`. -/
def disconnectStateFromCast : ℤ := 5

/-- CastEngineConnectState::STREAM, `connectStateFromCast_`. -/
def connectStateFromCast : ℤ := 6

/-- ConnectionState::STATE_CONNECTED of avsession_info.h. -/
def stateConnected : ℤ := 1

/-- ConnectionState::STATE_DISCONNECTED of avsession_info.h. -/
def stateDisconnected : ℤ := 6

/-- Source: avsession_item.h, AVSessionItem::validCastStates_. -/
def validCastStates : List ℤ := [0, 2, 3, 5, 6, 10, 11, 12]

/-- One if something is remembered. -/
def MultiDeviceState.rank : MultiDeviceState → ℕ
  | .default => 0
  | .castingSwitchDevice | .castedAndCasting | .castingAndCasted => 1

/-- Every stage of a switch is above the default one. -/
theorem rank_default_lt {m : MultiDeviceState} (h : m ≠ .default) :
    MultiDeviceState.default.rank < m.rank := by
  cases m with
  | default => exact absurd rfl h
  | castingSwitchDevice => exact Nat.zero_lt_one
  | castedAndCasting => exact Nat.zero_lt_one
  | castingAndCasted => exact Nat.zero_lt_one

/-- `ConnectionState` for a state of the cast engine.
Source: avsession_item.cpp, AVSessionItem::OnCastStateChange. -/
def connectionStateOf (castState : ℤ) : ℤ :=
  if castState = connectStateFromCast then stateConnected
  else if castState = disconnectStateFromCast then stateDisconnected
  else castState

namespace CastItem

/-- A switch enters the stage it names. -/
@[simp] theorem switchTo_multiDeviceState (s : CastItem) (m : MultiDeviceState) (d : CastDevice) :
    (s.switchTo m d).multiDeviceState = m := rfl

/-- A call to the cast service leaves the stage. -/
@[simp] theorem call_multiDeviceState (s : CastItem) (c : CastCall) :
    (s.call c).multiDeviceState = s.multiDeviceState := rfl

/-- Another handle leaves the stage. -/
@[simp] theorem setCastHandle_multiDeviceState (s : CastItem) (castHandle : ℤ) :
    (s.setCastHandle castHandle).multiDeviceState = s.multiDeviceState := rfl

/-- DealDisconnect leaves the stage to its caller. -/
@[simp] theorem dealDisconnect_multiDeviceState (s : CastItem) :
    s.dealDisconnect.multiDeviceState = s.multiDeviceState := rfl

/-- Registering the callback leaves the stage. -/
@[simp] theorem registerCallback_multiDeviceState (s : CastItem) (e : CastEnv) :
    (s.registerCallback e).multiDeviceState = s.multiDeviceState := by
  unfold registerCallback
  split <;> rfl

/-- StopCast leaves the stage. -/
@[simp] theorem stopCast_multiDeviceState (s : CastItem) (e : CastEnv) :
    (s.stopCast e).1.multiDeviceState = s.multiDeviceState := by
  unfold stopCast pcmCastSessionReleasePlayer releaseStreamPlayer
  split_ifs <;> first | rfl | (split <;> rfl)

/-- DestroyCast leaves the stage. -/
@[simp] theorem destroyCast_multiDeviceState (s : CastItem) (e : CastEnv) :
    (s.destroyCast e).multiDeviceState = s.multiDeviceState := by
  unfold destroyCast stopCastSession
  split_ifs
  · exact stopCast_multiDeviceState s e
  · exact stopCast_multiDeviceState s e
  · rfl

/-- SubStartCast leaves the stage. -/
@[simp] theorem subStartCast_multiDeviceState (s : CastItem) (e : CastEnv) (d : CastDevice) :
    (s.subStartCast e d).1.multiDeviceState = s.multiDeviceState := by
  unfold subStartCast addDevice
  dsimp only
  split_ifs <;> simp

mutual

/-- Source: avsession_item.cpp, AVSessionItem::OnCastStateChange,
AVSessionItem::ResetCastControlInfo. -/
def onCastStateChange (s : CastItem) (e : CastEnv) (castState : ℤ) (device : CastDevice) :
    CastItem :=
  if castState ∈ validCastStates then
    -- the engine died
    let device := if device.deviceId = "-1" then s.outputDeviceInfo else device
    if castState = disconnectStateFromCast then
      s.dealDisconnect.dealLocalState e (connectionStateOf castState)
    else if castState = connectStateFromCast then
      (s.setOutputDevice (outputDeviceOf e device)).dealLocalState e (connectionStateOf castState)
    else s.dealLocalState e (connectionStateOf castState)
  else s
termination_by (s.multiDeviceState.rank, 1)

/-- Source: avsession_item.cpp, AVSessionItem::DealLocalState. -/
def dealLocalState (s : CastItem) (e : CastEnv) (castState : ℤ) : CastItem :=
  if castState = stateDisconnected then
    if s.multiDeviceState = .default then s.setOutputDevice localDevice
    else
      let s' := s.forgetSwitch
      match s.newOutputDeviceInfo with
      | none => s'
      | some device =>
          if s.multiDeviceState = .castingAndCasted then s'.setOutputDevice localDevice
          else if castAddToCollaboration e device ≠ .success then
            s'.onCastStateChange e disconnectStateFromCast device
          else
            let r := s'.subStartCast e device
            if r.2 = .success then r.1
            else r.1.onCastStateChange e disconnectStateFromCast device
  else s
termination_by (s.multiDeviceState.rank, 0)
decreasing_by
  · exact Prod.Lex.left _ _ (rank_default_lt (by assumption))
  · refine Prod.Lex.left _ _ ?_
    rw [subStartCast_multiDeviceState]
    exact rank_default_lt (by assumption)

end

end CastItem

end operations

/-! ## Runs -/

section runs

/-- What was asked for and stopped. -/
structure CastHistory where
  /-- A stop of the cast of `castHandle_` was issued and not answered. -/
  stopIssued : Bool
  /-- A stop of the cast of which this device is the sink was issued and not answered. -/
  sinkStopIssued : Bool
  /-- Another device was asked for since the last disconnect. -/
  switchRequested : Bool
  /-- The device of the latest `StartCast`. -/
  latest : Option CastDevice

/-- A call of the session. -/
def CastHistory.note (h : CastHistory) : CastCall → CastHistory
  | .setCastHandle _ => { h with stopIssued := false }
  | .stopCast _ => { h with stopIssued := true }
  | .stopSinkCast => { h with sinkStopIssued := true }
  | .subStartCast _ => h

/-- The calls of the operation that is running. -/
def CastHistory.after (h : CastHistory) (s : CastItem) : CastHistory :=
  s.calls.foldl CastHistory.note h

/-- The device that a call starts the cast to. -/
def CastCall.startedDevice : CastCall → Option CastDevice
  | .subStartCast device => some device
  | .setCastHandle _ | .stopCast _ | .stopSinkCast => none

/-- What can happen. -/
inductive CastOp
  | startCast (device : CastDevice) (e : CastEnv)
  | stopCast (e : CastEnv)
  | onCastStateChange (castState : ℤ) (device : CastDevice) (e : CastEnv)

/-- A session and its history. -/
structure CastRun where
  item : CastItem
  history : CastHistory

namespace CastItem

variable (s : CastItem) (e : CastEnv)

/-- A session that waits for nothing. -/
def idle (isVideo : Bool) (castHandle : ℤ) (castHandleDeviceId : String)
    (castControllerProxy isHiPlayStreamCasting : Bool) (outputDeviceInfo : CastDevice) :
    CastItem where
  isVideo := isVideo
  multiDeviceState := .default
  newOutputDeviceInfo := none
  castHandle := castHandle
  castHandleDeviceId := castHandleDeviceId
  castControllerProxy := castControllerProxy
  isHiPlayStreamCasting := isHiPlayStreamCasting
  outputDeviceInfo := outputDeviceInfo
  calls := []

/-- One operation. -/
def apply : CastOp → CastItem
  | .startCast device e => (s.startCast e device).1
  | .stopCast e => (s.stopCast e).1
  | .onCastStateChange castState device e => s.onCastStateChange e castState device

/-- Whether a device is asked for while another cast is on. -/
def asksForSwitch (device : CastDevice) : Bool :=
  !s.joinsMirror e device &&
    if 0 < s.castHandle then s.castHandleDeviceId != device.deviceId else e.castSide = .castSink

/-- Whether `StopCast` stops the cast of which this device is the sink. -/
def stopsSinkCast : Bool :=
  !s.isHiPlayStreamCasting && e.castSide = .castSink && e.serviceCallbackStopSinkCast

/-- Whether `StopCast` stops the cast of the session. -/
def stopsCast : Bool :=
  !s.isHiPlayStreamCasting && e.castSide ≠ .castSink && s.castHandle ≠ 0 && s.castHandle ≠ -1 &&
    if s.stopsByCommand e then s.castControllerProxy else e.stopAnswer = .removed

end CastItem

/-- The history when an operation comes. -/
def CastHistory.before (h : CastHistory) (s : CastItem) : CastOp → CastHistory
  | .startCast device e =>
      { h with
        switchRequested := h.switchRequested || s.asksForSwitch e device
        latest := some device }
  | .stopCast _ => h
  | .onCastStateChange castState _ _ =>
      if castState = disconnectStateFromCast then
        { h with stopIssued := false, sinkStopIssued := false, switchRequested := false }
      else h

namespace CastRun

/-- A session that waits for nothing, and of which nothing is known. -/
def idle (isVideo : Bool) (castHandle : ℤ) (castHandleDeviceId : String)
    (castControllerProxy isHiPlayStreamCasting : Bool) (outputDeviceInfo : CastDevice) :
    CastRun where
  item := .idle isVideo castHandle castHandleDeviceId castControllerProxy isHiPlayStreamCasting
    outputDeviceInfo
  history := ⟨false, false, false, none⟩

/-- The session when an operation comes. -/
def ready (r : CastRun) : CastItem := { r.item with calls := [] }

/-- One step. -/
def step (r : CastRun) (op : CastOp) : CastRun :=
  ⟨r.ready.apply op, (r.history.before r.item op).after (r.ready.apply op)⟩

/-- The devices that the last operation has started the cast to. -/
def startedDevices (r : CastRun) : List CastDevice := r.item.calls.filterMap CastCall.startedDevice

end CastRun

/-- A switch is remembered only while the stop of the cast before is awaited. -/
def Awaited (r : CastRun) : Prop :=
  match r.item.multiDeviceState with
  | .default => True
  | .castingSwitchDevice | .castingAndCasted => r.history.stopIssued = true
  | .castedAndCasting => r.history.sinkStopIssued = true

/-- What a disconnect does: it starts the cast to the latest device, once, if a switch was asked
for; where no cast is started the session ends at its own device. -/
def Switches (r : CastRun) : CastOp → Prop
  | .onCastStateChange castState device e =>
      castState = disconnectStateFromCast →
        let r' := r.step (.onCastStateChange castState device e)
        r'.startedDevices.length ≤ 1 ∧
          (∀ d ∈ r'.startedDevices, r.history.switchRequested = true ∧ r.history.latest = some d) ∧
          (r'.startedDevices = [] ∨ r'.item.castHandle = -1 →
            r'.item.outputDeviceInfo = localDevice)
  | .startCast _ _ | .stopCast _ => True

/-- The condition: a cast to another device comes with a stop that is issued, or comes while one is
awaited; and when a disconnect comes, the device that is remembered is that of the latest
`StartCast`, or the collaboration refuses it. -/
def CastSwitchOk (r : CastRun) : CastOp → Prop
  | .startCast device e =>
      r.item.asksForSwitch e device = true →
        if 0 < r.item.castHandle then
          r.history.stopIssued = true ∨ r.item.stopsCast e = true
        else r.history.sinkStopIssued = true ∨ r.item.stopsSinkCast e = true
  | .stopCast _ => True
  | .onCastStateChange castState _ e =>
      castState = disconnectStateFromCast → r.item.multiDeviceState ≠ .default →
        ∀ d, r.item.newOutputDeviceInfo = some d → CastItem.castAddToCollaboration e d = .success →
          r.history.latest = some d

end runs

/-! ## One operation -/

section steps

variable {s : CastItem} {e : CastEnv} {h : CastHistory}

/-- The history notes the call that was made. -/
@[simp] theorem after_call (h : CastHistory) (s : CastItem) (c : CastCall) :
    h.after (s.call c) = (h.after s).note c := by
  unfold CastHistory.after CastItem.call
  rw [List.foldl_append]
  rfl

/-- The calls only add to what was asked for. -/
theorem note_foldl_keeps (cs : List CastCall) (h : CastHistory) :
    (h.sinkStopIssued = true → (cs.foldl CastHistory.note h).sinkStopIssued = true) ∧
      (cs.foldl CastHistory.note h).switchRequested = h.switchRequested := by
  induction cs generalizing h with
  | nil => exact ⟨id, rfl⟩
  | cons c cs ih =>
      obtain ⟨hsink, hrequested⟩ := ih (h.note c)
      cases c with
      | setCastHandle castHandle => exact ⟨hsink, hrequested⟩
      | stopCast castHandle => exact ⟨hsink, hrequested⟩
      | stopSinkCast => exact ⟨fun _ => hsink rfl, hrequested⟩
      | subStartCast device => exact ⟨hsink, hrequested⟩

/-- While the audio of the session is cast, no stop of its cast is awaited. -/
def Quiet (h : CastHistory) (s : CastItem) : Prop :=
  s.isHiPlayStreamCasting = true → (h.after s).stopIssued = false

/-- Another handle is no call. -/
theorem Quiet.setCastHandle (h : CastHistory) (s : CastItem) (castHandle : ℤ) :
    Quiet h (s.setCastHandle castHandle) := by
  intro _
  unfold CastItem.setCastHandle
  rw [after_call]
  rfl

/-- What `StopCast` does: it releases a player, issues a stop, or does nothing. -/
theorem stopCast_cases (s : CastItem) (e : CastEnv) :
    (s.isHiPlayStreamCasting = true ∧
        ((s.stopCast e).1 = s ∨ (s.stopCast e).1 =
          { s.setCastHandle (-1) with
            isHiPlayStreamCasting := false
            outputDeviceInfo := localDevice
            castControllerProxy := false })) ∨
      (s.stopsCast e = false ∧ s.stopsSinkCast e = false ∧ (s.stopCast e).1 = s) ∨
      (s.stopsSinkCast e = true ∧ (s.stopCast e).1 = s.call .stopSinkCast) ∨
      (s.stopsCast e = true ∧ (s.stopCast e).1 = s.call (.stopCast s.castHandle)) := by
  unfold CastItem.stopsCast CastItem.stopsSinkCast CastItem.stopCast
  by_cases hplay : s.isHiPlayStreamCasting = true
  · left
    rw [if_pos hplay]
    unfold CastItem.pcmCastSessionReleasePlayer CastItem.releaseStreamPlayer
    refine ⟨hplay, ?_⟩
    split_ifs
    · exact .inr rfl
    · exact .inl rfl
    · exact .inl rfl
  right
  rw [if_neg hplay, Bool.eq_false_iff.mpr hplay]
  by_cases hsink : e.castSide = .castSink
  · rw [if_pos hsink]
    cases e.serviceCallbackStopSinkCast with
    | false => exact .inl ⟨by simp [hsink], by simp, rfl⟩
    | true => exact .inr (.inl ⟨by simp [hsink], rfl⟩)
  rw [if_neg hsink]
  by_cases hhandle : s.castHandle = 0 ∨ s.castHandle = -1
  · rw [if_pos hhandle]
    refine .inl ⟨?_, by simp [hsink], rfl⟩
    rcases hhandle with hzero | hnone
    · simp [hzero]
    · simp [hnone]
  rw [if_neg hhandle]
  obtain ⟨hzero, hnone⟩ := not_or.mp hhandle
  cases hcommand : s.stopsByCommand e with
  | true =>
      rw [if_pos rfl]
      cases s.castControllerProxy with
      | false => exact .inl ⟨by simp, by simp [hsink], rfl⟩
      | true => exact .inr (.inr ⟨by simp [hsink, hzero, hnone], rfl⟩)
  | false =>
      rw [if_neg Bool.false_ne_true]
      cases e.stopAnswer with
      | noProvider => exact .inl ⟨by simp, by simp [hsink], rfl⟩
      | unknownHandle => exact .inl ⟨by simp, by simp [hsink], rfl⟩
      | removed => exact .inr (.inr ⟨by simp [hsink, hzero, hnone], rfl⟩)

/-- Where StopCast is reached no HiPlay stream is being cast. -/
theorem not_hiPlay_of_stopsCast (hstops : s.stopsCast e = true) :
    s.isHiPlayStreamCasting = false := by
  unfold CastItem.stopsCast at hstops
  simp only [Bool.and_eq_true, Bool.not_eq_true'] at hstops
  exact hstops.1.1.1.1

/-- What an operation on the cast leaves alone, and the devices that it starts the cast to. -/
structure Restarts (s s' : CastItem) (started : List CastDevice) : Prop where
  multiDeviceState : s'.multiDeviceState = s.multiDeviceState
  newOutputDeviceInfo : s'.newOutputDeviceInfo = s.newOutputDeviceInfo
  calls : ∃ cs, s'.calls = s.calls ++ cs ∧ cs.filterMap CastCall.startedDevice = started
  quiet : ∀ h, Quiet h s → Quiet h s'

/-- Nothing done starts no device. -/
theorem Restarts.refl (s : CastItem) : Restarts s s [] where
  multiDeviceState := rfl
  newOutputDeviceInfo := rfl
  calls := ⟨[], (List.append_nil _).symm, rfl⟩
  quiet _ h := h

/-- Two parts start their devices after one another. -/
theorem Restarts.trans {s' s'' : CastItem} {ds ds' : List CastDevice} (h : Restarts s s' ds)
    (h' : Restarts s' s'' ds') : Restarts s s'' (ds ++ ds') where
  multiDeviceState := h'.multiDeviceState.trans h.multiDeviceState
  newOutputDeviceInfo := h'.newOutputDeviceInfo.trans h.newOutputDeviceInfo
  calls := by
    obtain ⟨cs, hcs, hds⟩ := h.calls
    obtain ⟨cs', hcs', hds'⟩ := h'.calls
    refine ⟨cs ++ cs', ?_, ?_⟩
    · rw [hcs', hcs, List.append_assoc]
    · rw [List.filterMap_append, hds, hds']
  quiet _ hquiet := h'.quiet _ (h.quiet _ hquiet)

/-- Another handle starts no device. -/
theorem Restarts.setCastHandle (s : CastItem) (castHandle : ℤ) :
    Restarts s (s.setCastHandle castHandle) [] where
  multiDeviceState := rfl
  newOutputDeviceInfo := rfl
  calls := ⟨[.setCastHandle castHandle], rfl, rfl⟩
  quiet h _ := Quiet.setCastHandle h s castHandle

/-- StopCast starts no device. -/
theorem Restarts.stopCast (s : CastItem) (e : CastEnv) : Restarts s (s.stopCast e).1 [] := by
  rcases stopCast_cases s e with ⟨-, hsame | hrelease⟩ | ⟨-, -, hsame⟩ | ⟨hstops, hcall⟩ |
    ⟨hstops, hcall⟩
  · rw [hsame]
    exact .refl s
  · rw [hrelease]
    exact ⟨rfl, rfl, ⟨_, rfl, rfl⟩, fun h _ hplay => absurd hplay Bool.false_ne_true⟩
  · rw [hsame]
    exact .refl s
  · rw [hcall]
    refine ⟨rfl, rfl, ⟨_, rfl, rfl⟩, fun h hquiet hplay => ?_⟩
    rw [after_call]
    exact hquiet hplay
  · rw [hcall]
    refine ⟨rfl, rfl, ⟨_, rfl, rfl⟩, fun h _ hplay => ?_⟩
    exact absurd hplay (Bool.eq_false_iff.mp (not_hiPlay_of_stopsCast hstops))

/-- What touches neither the calls nor what is remembered. -/
theorem Restarts.of_same {s' : CastItem} (hstate : s'.multiDeviceState = s.multiDeviceState)
    (hnew : s'.newOutputDeviceInfo = s.newOutputDeviceInfo) (hcalls : s'.calls = s.calls)
    (hplay : s'.isHiPlayStreamCasting = s.isHiPlayStreamCasting) : Restarts s s' [] where
  multiDeviceState := hstate
  newOutputDeviceInfo := hnew
  calls := ⟨[], hcalls.trans (List.append_nil _).symm, rfl⟩
  quiet h hquiet hplay' := by
    unfold CastHistory.after
    rw [hcalls]
    exact hquiet (hplay.symm.trans hplay')

/-- Registering the callback starts no device. -/
theorem Restarts.registerCallback (s : CastItem) (e : CastEnv) :
    Restarts s (s.registerCallback e) [] := by
  unfold CastItem.registerCallback
  split
  · exact .refl s
  · exact .of_same rfl rfl rfl rfl

/-- Making the controller's proxy starts no device. -/
theorem Restarts.initAVCastControllerProxy (s : CastItem) (e : CastEnv) :
    Restarts s (s.initAVCastControllerProxy e) [] :=
  .of_same rfl rfl rfl rfl

/-- StopCastSession starts no device. -/
theorem Restarts.stopCastSession (s : CastItem) (e : CastEnv) :
    Restarts s (s.stopCastSession e) [] := by
  unfold CastItem.stopCastSession
  split_ifs
  · exact (Restarts.setCastHandle s (-1)).trans (.of_same rfl rfl rfl rfl)
  · exact .refl s

/-- DestroyCast starts no device. -/
theorem Restarts.destroyCast (s : CastItem) (e : CastEnv) : Restarts s (s.destroyCast e) [] := by
  unfold CastItem.destroyCast
  split_ifs
  · exact (Restarts.stopCast s e).trans (.stopCastSession _ e)
  · exact .refl s

/-- DealDisconnect starts no device. -/
theorem Restarts.dealDisconnect (s : CastItem) : Restarts s s.dealDisconnect [] :=
  (Restarts.setCastHandle s (-1)).trans (.of_same rfl rfl rfl rfl)

/-- SubStartCast starts the one device it is given. -/
theorem Restarts.subStartCast (s : CastItem) (e : CastEnv) (device : CastDevice) :
    Restarts s (s.subStartCast e device).1 [device] := by
  have hcall : Restarts s (s.call (.subStartCast device)) [device] := by
    refine ⟨rfl, rfl, ⟨_, rfl, rfl⟩, fun h hquiet hplay => ?_⟩
    rw [after_call]
    exact hquiet hplay
  unfold CastItem.subStartCast CastItem.addDevice
  dsimp only
  split_ifs
  · exact hcall
  · exact hcall.trans ((Restarts.setCastHandle _ _).trans
      ((Restarts.registerCallback _ e).trans (.of_same rfl rfl rfl rfl)))
  · exact hcall.trans ((Restarts.setCastHandle _ _).trans
      ((Restarts.registerCallback _ e).trans (.destroyCast _ _)))

/-- A cast that is started has a handle. -/
theorem subStartCast_castHandle {device : CastDevice}
    (hstart : (s.subStartCast e device).2 = .success) :
    (s.subStartCast e device).1.castHandle ≠ -1 := by
  unfold CastItem.subStartCast CastItem.addDevice at hstart ⊢
  dsimp only at hstart ⊢
  split_ifs at hstart ⊢ with herror hadd
  · unfold CastItem.registerCallback
    split
    · exact herror
    · exact herror
  · exact absurd hstart hadd

/-- A disconnect when nothing is remembered ends at the device of the session. -/
theorem onCastStateChange_of_default (hdefault : s.multiDeviceState = .default)
    (device : CastDevice) :
    s.onCastStateChange e disconnectStateFromCast device =
      s.dealDisconnect.setOutputDevice localDevice := by
  unfold CastItem.onCastStateChange CastItem.dealLocalState
  rw [if_pos (by decide), if_pos rfl, if_pos (by decide)]
  exact if_pos hdefault

/-- A disconnect when a switch is remembered. -/
theorem onCastStateChange_of_switching {d : CastDevice} (hdefault : s.multiDeviceState ≠ .default)
    (hcasted : s.multiDeviceState ≠ .castingAndCasted) (hnew : s.newOutputDeviceInfo = some d)
    (device : CastDevice) :
    s.onCastStateChange e disconnectStateFromCast device =
      let s' := s.dealDisconnect.forgetSwitch
      if CastItem.castAddToCollaboration e d ≠ .success then
        s'.dealDisconnect.setOutputDevice localDevice
      else if (s'.subStartCast e d).2 = .success then (s'.subStartCast e d).1
      else (s'.subStartCast e d).1.dealDisconnect.setOutputDevice localDevice := by
  have hdefault' : (s.dealDisconnect.forgetSwitch.subStartCast e d).1.multiDeviceState =
      .default := CastItem.subStartCast_multiDeviceState _ _ _
  unfold CastItem.onCastStateChange CastItem.dealLocalState
  rw [if_pos (by decide), if_pos rfl, if_pos (by decide), CastItem.dealDisconnect_multiDeviceState,
    if_neg hdefault, show s.dealDisconnect.newOutputDeviceInfo = some d from hnew]
  dsimp only
  rw [if_neg hcasted, onCastStateChange_of_default rfl, onCastStateChange_of_default hdefault']

/-- Another state changes at most the output device. -/
theorem onCastStateChange_of_ne {castState : ℤ} (hne : castState ≠ disconnectStateFromCast)
    (device : CastDevice) :
    ∃ output, s.onCastStateChange e castState device = s.setOutputDevice output := by
  have hstate : connectionStateOf castState ≠ stateDisconnected := by
    unfold connectionStateOf
    split_ifs with hconnect
    · decide
    · exact hconnect
  have hlocal : ∀ s : CastItem, s.dealLocalState e (connectionStateOf castState) = s := by
    intro s
    unfold CastItem.dealLocalState
    exact if_neg hstate
  unfold CastItem.onCastStateChange
  simp only [hlocal, if_neg hne]
  split_ifs
  · exact ⟨_, rfl⟩
  · exact ⟨_, rfl⟩
  · exact ⟨s.outputDeviceInfo, rfl⟩
  · exact ⟨s.outputDeviceInfo, rfl⟩

/-- The stops that are awaited after a `StopCast`. -/
theorem stopCast_after (hquiet : Quiet h s) :
    ((h.after (s.stopCast e).1).stopIssued = true ↔
        (h.after s).stopIssued = true ∨ s.stopsCast e = true) ∧
      ((h.after (s.stopCast e).1).sinkStopIssued = true ↔
        (h.after s).sinkStopIssued = true ∨ s.stopsSinkCast e = true) := by
  rcases stopCast_cases s e with ⟨hplay, hcase⟩ | ⟨hstops, hsink, hsame⟩ | ⟨hstops, hcall⟩ |
    ⟨hstops, hcall⟩
  · have hstops : ¬ s.stopsCast e = true := fun hstops =>
      absurd hplay (Bool.eq_false_iff.mp (not_hiPlay_of_stopsCast hstops))
    have hsink : ¬ s.stopsSinkCast e = true := by
      unfold CastItem.stopsSinkCast
      rw [hplay]
      exact Bool.false_ne_true
    have hissued := Bool.eq_false_iff.mp (hquiet hplay)
    rw [or_iff_left hstops, or_iff_left hsink]
    rcases hcase with hsame | hrelease
    · rw [hsame]
      exact ⟨Iff.rfl, Iff.rfl⟩
    · rw [hrelease]
      show ((h.after (s.setCastHandle (-1))).stopIssued = true ↔ _) ∧
        ((h.after (s.setCastHandle (-1))).sinkStopIssued = true ↔ _)
      unfold CastItem.setCastHandle
      rw [after_call]
      exact ⟨iff_of_false Bool.false_ne_true hissued, Iff.rfl⟩
  · rw [hsame, hstops, hsink]
    simp
  · have hstops' : s.stopsCast e = false := by
      unfold CastItem.stopsSinkCast at hstops
      unfold CastItem.stopsCast
      simp only [Bool.and_eq_true, decide_eq_true_eq] at hstops
      simp [hstops.1.2]
    rw [hcall, after_call, hstops, hstops']
    exact ⟨(or_iff_left Bool.false_ne_true).symm, iff_of_true rfl (.inr rfl)⟩
  · have hstops' : s.stopsSinkCast e = false := by
      unfold CastItem.stopsCast at hstops
      unfold CastItem.stopsSinkCast
      simp only [Bool.and_eq_true, decide_eq_true_eq] at hstops
      simp [hstops.1.1.1.2]
    rw [hcall, after_call, hstops, hstops']
    exact ⟨iff_of_true rfl (.inr rfl), (or_iff_left Bool.false_ne_true).symm⟩

/-- Outside a HiPlay stream StopCast keeps the handle. -/
theorem stopCast_castHandle (hplay : s.isHiPlayStreamCasting = false) :
    (s.stopCast e).1.castHandle = s.castHandle := by
  rcases stopCast_cases s e with ⟨hplay', -⟩ | ⟨-, -, hsame⟩ | ⟨-, hcall⟩ | ⟨-, hcall⟩
  · rw [hplay] at hplay'
    cases hplay'
  · rw [hsame]
  · rw [hcall]
    rfl
  · rw [hcall]
    rfl

/-- What `StartCast` does: it asks for a switch, or starts a cast where there is none. -/
theorem startCast_cases (s : CastItem) (e : CastEnv) (device : CastDevice) :
    (s.asksForSwitch e device = false ∧ ∃ ds, Restarts s (s.startCast e device).1 ds ∧
        (s.castHandle ≤ 0 ∨ (s.startCast e device).1 = s)) ∨
      (s.asksForSwitch e device = true ∧ 0 < s.castHandle ∧ (s.startCast e device).1 =
        ((s.switchTo .castingSwitchDevice device).stopCast e).1) ∨
      (s.asksForSwitch e device = true ∧ ¬ 0 < s.castHandle ∧ (s.startCast e device).1 =
        ((s.switchTo .castedAndCasting device).stopCast e).1) := by
  unfold CastItem.asksForSwitch CastItem.startCast
  cases hjoins : s.joinsMirror e device with
  | true =>
      refine .inl ⟨rfl, [], ?_, .inl ?_⟩
      · rw [if_pos rfl]
        exact (Restarts.setCastHandle s _).trans ((Restarts.initAVCastControllerProxy _ e).trans
          ((Restarts.registerCallback _ e).trans (.of_same rfl rfl rfl rfl)))
      · unfold CastItem.joinsMirror at hjoins
        exact (of_decide_eq_true hjoins).2.1
  | false =>
      rw [if_neg Bool.false_ne_true]
      by_cases hhandle : 0 < s.castHandle
      · rw [if_pos hhandle, if_pos hhandle]
        by_cases hsame : s.castHandleDeviceId = device.deviceId
        · rw [if_pos hsame]
          exact .inl ⟨by simp [hsame], [], .refl s, .inr rfl⟩
        · rw [if_neg hsame]
          exact .inr (.inl ⟨by simp [hsame], hhandle, rfl⟩)
      · rw [if_neg hhandle, if_neg hhandle]
        by_cases hsink : e.castSide = .castSink
        · rw [if_pos hsink]
          exact .inr (.inr ⟨by simp [hsink], hhandle, rfl⟩)
        · rw [if_neg hsink]
          refine .inl ⟨by simp [hsink], ?_⟩
          split_ifs
          · exact ⟨_, .subStartCast s e device, .inl (Int.not_lt.mp hhandle)⟩
          · exact ⟨_, .refl s, .inr rfl⟩
          · exact ⟨_, .subStartCast s e device, .inl (Int.not_lt.mp hhandle)⟩

end steps

/-! ## Runs that keep to it -/

section rule

variable {r : CastRun}

/-- What is remembered between two operations. -/
structure Remembers (r : CastRun) : Prop where
  isSource : r.item.multiDeviceState ≠ .castingAndCasted
  requested : r.item.multiDeviceState ≠ .default →
    (∃ d, r.item.newOutputDeviceInfo = some d) ∧ r.history.switchRequested = true
  casting : r.item.multiDeviceState = .castingSwitchDevice → 0 < r.item.castHandle
  quiet : r.item.isHiPlayStreamCasting = true → r.history.stopIssued = false

/-- A step that starts and stops casts, but asks for no switch. -/
theorem Remembers.restarts {r' : CastRun} {ds : List CastDevice} {k : CastHistory}
    (h : Remembers r) (hawaited : Awaited r) (hstop : k.stopIssued = r.history.stopIssued)
    (hsink : k.sinkStopIssued = r.history.sinkStopIssued)
    (hrequested : r.history.switchRequested = true → k.switchRequested = true)
    (hr : Restarts r.ready r'.item ds) (hhistory : r'.history = k.after r'.item)
    (hcasting : r.item.multiDeviceState = .castingSwitchDevice →
      0 < r'.item.castHandle ∧ r'.history.stopIssued = true) : Awaited r' ∧ Remembers r' := by
  have hstate : r'.item.multiDeviceState = r.item.multiDeviceState := hr.multiDeviceState
  have hkeeps := note_foldl_keeps r'.item.calls k
  unfold CastHistory.after at hhistory
  rw [← hhistory, hsink] at hkeeps
  refine ⟨?_, ?_, ?_, ?_, ?_⟩
  · unfold Awaited at hawaited ⊢
    rw [hstate]
    cases hm : r.item.multiDeviceState with
    | default => trivial
    | castingSwitchDevice => exact (hcasting hm).2
    | castedAndCasting =>
        rw [hm] at hawaited
        exact hkeeps.1 hawaited
    | castingAndCasted => exact absurd hm h.isSource
  · rw [hstate]
    exact h.isSource
  · rw [hstate, hkeeps.2, show r'.item.newOutputDeviceInfo = r.item.newOutputDeviceInfo from
      hr.newOutputDeviceInfo]
    intro hne
    obtain ⟨hnew, hreq⟩ := h.requested hne
    exact ⟨hnew, hrequested hreq⟩
  · rw [hstate]
    exact fun hm => (hcasting hm).1
  · have hquiet : Quiet k r.ready := fun hplay => hstop.trans (h.quiet hplay)
    rw [hhistory]
    exact hr.quiet k hquiet

/-- A `StopCast`. -/
theorem Remembers.stopCast (h : Remembers r) (hawaited : Awaited r) (e : CastEnv) :
    Awaited (r.step (.stopCast e)) ∧ Remembers (r.step (.stopCast e)) := by
  refine h.restarts hawaited rfl rfl id (Restarts.stopCast r.ready e) rfl fun hm => ?_
  have hissued : r.history.stopIssued = true := by
    unfold Awaited at hawaited
    rw [hm] at hawaited
    exact hawaited
  have hplay : r.item.isHiPlayStreamCasting = false := by
    by_contra hplay
    rw [h.quiet (Bool.not_eq_false _ ▸ hplay)] at hissued
    cases hissued
  refine ⟨?_, ?_⟩
  · show 0 < (r.ready.stopCast e).1.castHandle
    rw [stopCast_castHandle (s := r.ready) hplay]
    exact h.casting hm
  · exact (stopCast_after (h := r.history) (s := r.ready) h.quiet).1.mpr (.inl hissued)

/-- While the device is switched the stop awaited is that of the session. -/
theorem awaited_iff_stopIssued (hm : r.item.multiDeviceState = .castingSwitchDevice) :
    Awaited r ↔ r.history.stopIssued = true := by
  unfold Awaited
  rw [hm]

/-- While a sink casts on the stop awaited is that of the sink. -/
theorem awaited_iff_sinkStopIssued (hm : r.item.multiDeviceState = .castedAndCasting) :
    Awaited r ↔ r.history.sinkStopIssued = true := by
  unfold Awaited
  rw [hm]

/-- What is remembered of a switch that is asked for. -/
theorem Remembers.of_switchTo {r' : CastRun} {m : MultiDeviceState} {device : CastDevice}
    {e : CastEnv} {k : CastHistory} (h : Remembers r)
    (hstop : k.stopIssued = r.history.stopIssued) (hrequested : k.switchRequested = true)
    (hitem : r'.item = ((r.ready.switchTo m device).stopCast e).1)
    (hhistory : r'.history = k.after r'.item) (hm : m ≠ .castingAndCasted)
    (hcasting : m = .castingSwitchDevice → 0 < r'.item.castHandle) : Remembers r' := by
  have hr := Restarts.stopCast (r.ready.switchTo m device) e
  rw [← hitem] at hr
  refine ⟨hr.multiDeviceState.trans_ne hm, fun _ => ⟨⟨device, hr.newOutputDeviceInfo⟩, ?_⟩,
    fun hstate => hcasting (hr.multiDeviceState.symm.trans hstate), ?_⟩
  · rw [hhistory]
    exact (note_foldl_keeps _ k).2.trans hrequested
  · rw [hhistory]
    exact hr.quiet k fun hplay => hstop.trans (h.quiet hplay)

/-- A `StartCast` keeps to it exactly under the condition. -/
theorem Remembers.startCast_iff (h : Remembers r) (hawaited : Awaited r) (device : CastDevice)
    (e : CastEnv) :
    (Awaited (r.step (.startCast device e)) ↔ CastSwitchOk r (.startCast device e)) ∧
      (CastSwitchOk r (.startCast device e) → Remembers (r.step (.startCast device e))) := by
  rcases startCast_cases r.ready e device with ⟨hasks, ds, hr, hcase⟩ | ⟨hasks, hhandle, hcall⟩ |
    ⟨hasks, hhandle, hcall⟩
  · have hok : CastSwitchOk r (.startCast device e) := fun hasks' =>
      absurd hasks' (Bool.eq_false_iff.mp hasks)
    have hboth : Awaited (r.step (.startCast device e)) ∧
        Remembers (r.step (.startCast device e)) := by
      refine h.restarts (k := r.history.before r.item (.startCast device e)) hawaited rfl rfl
        (fun hreq => ?_) hr rfl fun hm => ?_
      · show (r.history.switchRequested || _) = true
        rw [hreq]
        rfl
      · rcases hcase with hle | hsame
        · exact absurd (h.casting hm) (Int.not_lt.mpr hle)
        · have hitem : (r.step (.startCast device e)).item = r.ready := hsame
          have hhistory : (r.step (.startCast device e)).history =
              (r.history.before r.item (.startCast device e)).after r.ready :=
            congrArg (CastHistory.after _) hsame
          rw [hitem, hhistory]
          exact ⟨h.casting hm, (awaited_iff_stopIssued hm).mp hawaited⟩
    exact ⟨iff_of_true hboth.1 hok, fun _ => hboth.2⟩
  · have hquiet : Quiet (r.history.before r.item (.startCast device e))
        (r.ready.switchTo .castingSwitchDevice device) := h.quiet
    have hafter := (stopCast_after (e := e) hquiet).1
    have hok : CastSwitchOk r (.startCast device e) ↔
        r.history.stopIssued = true ∨ r.item.stopsCast e = true := by
      show (_ → if _ then _ else _) ↔ _
      rw [if_pos (show 0 < r.item.castHandle from hhandle)]
      exact ⟨fun hall => hall hasks, fun hor _ => hor⟩
    have hstate : (r.step (.startCast device e)).item.multiDeviceState = .castingSwitchDevice :=
      (congrArg CastItem.multiDeviceState hcall).trans (CastItem.stopCast_multiDeviceState _ _)
    rw [awaited_iff_stopIssued hstate, hok]
    refine ⟨?_, fun hor => ?_⟩
    · show ((r.history.before r.item _).after (r.ready.startCast e device).1).stopIssued = true ↔ _
      rw [hcall]
      exact hafter
    · refine h.of_switchTo (k := r.history.before r.item (.startCast device e)) rfl ?_ hcall rfl
        nofun fun _ => ?_
      · show (r.history.switchRequested || r.item.asksForSwitch e device) = true
        rw [show r.item.asksForSwitch e device = true from hasks, Bool.or_true]
      · have hplay : r.item.isHiPlayStreamCasting = false := by
          by_contra hplay
          rcases hor with hissued | hstops
          · rw [h.quiet (Bool.not_eq_false _ ▸ hplay)] at hissued
            cases hissued
          · exact hplay (not_hiPlay_of_stopsCast hstops)
        show 0 < (r.ready.startCast e device).1.castHandle
        rw [hcall, stopCast_castHandle (s := r.ready.switchTo .castingSwitchDevice device) hplay]
        exact hhandle
  · have hquiet : Quiet (r.history.before r.item (.startCast device e))
        (r.ready.switchTo .castedAndCasting device) := h.quiet
    have hafter := (stopCast_after (e := e) hquiet).2
    have hok : CastSwitchOk r (.startCast device e) ↔
        r.history.sinkStopIssued = true ∨ r.item.stopsSinkCast e = true := by
      show (_ → if _ then _ else _) ↔ _
      rw [if_neg (show ¬ 0 < r.item.castHandle from hhandle)]
      exact ⟨fun hall => hall hasks, fun hor _ => hor⟩
    have hstate : (r.step (.startCast device e)).item.multiDeviceState = .castedAndCasting :=
      (congrArg CastItem.multiDeviceState hcall).trans (CastItem.stopCast_multiDeviceState _ _)
    rw [awaited_iff_sinkStopIssued hstate, hok]
    refine ⟨?_, fun _ => ?_⟩
    · show ((r.history.before r.item _).after (r.ready.startCast e device).1).sinkStopIssued =
        true ↔ _
      rw [hcall]
      exact hafter
    · refine h.of_switchTo (k := r.history.before r.item (.startCast device e)) rfl ?_ hcall rfl
        nofun nofun
      show (r.history.switchRequested || r.item.asksForSwitch e device) = true
      rw [show r.item.asksForSwitch e device = true from hasks, Bool.or_true]

/-- Nothing is remembered where nothing is waited for. -/
theorem remembers_of_default {k : CastHistory} (hm : r.item.multiDeviceState = .default)
    (hhistory : r.history = k.after r.item) (hquiet : Quiet k r.item) :
    Awaited r ∧ Remembers r := by
  refine ⟨?_, ?_, ?_, ?_, ?_⟩
  · unfold Awaited
    rw [hm]
    trivial
  · rw [hm]
    nofun
  · exact fun hne => absurd hm hne
  · rw [hm]
    nofun
  · rw [hhistory]
    exact hquiet

/-- The devices started are those named, in order. -/
theorem Restarts.startedDevices {s s' : CastItem} {ds : List CastDevice} (h : Restarts s s' ds) :
    s'.calls.filterMap CastCall.startedDevice =
      s.calls.filterMap CastCall.startedDevice ++ ds := by
  obtain ⟨cs, hcs, hds⟩ := h.calls
  rw [hcs, List.filterMap_append, hds]

/-- DealDisconnect makes no call of the kinds counted. -/
theorem quiet_dealDisconnect (k : CastHistory) (s : CastItem) : Quiet k s.dealDisconnect :=
  Quiet.setCastHandle k s (-1)

/-- Going back to the local device makes no call of the kinds counted. -/
theorem quiet_atLocal (k : CastHistory) (s : CastItem) :
    Quiet k (s.dealDisconnect.setOutputDevice localDevice) :=
  quiet_dealDisconnect k s

/-- A disconnect that starts no cast. -/
theorem switches_of_none {device : CastDevice} {e : CastEnv}
    (hstarted : (r.step (.onCastStateChange disconnectStateFromCast device e)).startedDevices = [])
    (houtput :
      (r.step (.onCastStateChange disconnectStateFromCast device e)).item.outputDeviceInfo =
        localDevice) : Switches r (.onCastStateChange disconnectStateFromCast device e) := by
  intro _
  dsimp only
  rw [hstarted]
  exact ⟨Nat.zero_le 1, nofun, fun _ => houtput⟩

/-- A disconnect that starts one cast. -/
theorem switches_iff_of_one {device d : CastDevice} {e : CastEnv}
    (hrequested : r.history.switchRequested = true)
    (hstarted : (r.step (.onCastStateChange disconnectStateFromCast device e)).startedDevices = [d])
    (houtput : (r.step (.onCastStateChange disconnectStateFromCast device e)).item.castHandle = -1 →
      (r.step (.onCastStateChange disconnectStateFromCast device e)).item.outputDeviceInfo =
        localDevice) :
    Switches r (.onCastStateChange disconnectStateFromCast device e) ↔
      r.history.latest = some d := by
  constructor
  · intro hswitches
    refine ((hswitches rfl).2.1 d ?_).2
    rw [hstarted]
    exact List.mem_singleton_self d
  · intro hlatest _
    dsimp only
    rw [hstarted]
    refine ⟨Nat.le_refl 1, fun d' hd' => ?_, fun hnone => ?_⟩
    · rw [List.mem_singleton.mp hd']
      exact ⟨hrequested, hlatest⟩
    · rcases hnone with hnil | hhandle
      · cases hnil
      · exact houtput hhandle

/-- A disconnect does what is expected exactly under the condition. -/
theorem Remembers.disconnect (h : Remembers r) (device : CastDevice) (e : CastEnv) :
    Awaited (r.step (.onCastStateChange disconnectStateFromCast device e)) ∧
      Remembers (r.step (.onCastStateChange disconnectStateFromCast device e)) ∧
      (Switches r (.onCastStateChange disconnectStateFromCast device e) ↔
        CastSwitchOk r (.onCastStateChange disconnectStateFromCast device e)) := by
  have hdone : ∀ s, r.ready.onCastStateChange e disconnectStateFromCast device = s →
      s.multiDeviceState = .default → (∀ k, Quiet k s) →
      Awaited (r.step (.onCastStateChange disconnectStateFromCast device e)) ∧
        Remembers (r.step (.onCastStateChange disconnectStateFromCast device e)) := by
    rintro s rfl hm hquiet
    exact remembers_of_default hm rfl (hquiet _)
  by_cases hm : r.item.multiDeviceState = .default
  · have hitem := onCastStateChange_of_default (s := r.ready) (e := e) hm device
    obtain ⟨hawaited, hremembers⟩ := hdone _ hitem hm (quiet_atLocal · r.ready)
    refine ⟨hawaited, hremembers, iff_of_true (switches_of_none ?_ ?_) fun _ hne => absurd hm hne⟩
    · exact congrArg (fun s => s.calls.filterMap CastCall.startedDevice) hitem
    · exact congrArg CastItem.outputDeviceInfo hitem
  obtain ⟨⟨d, hd⟩, hrequested⟩ := h.requested hm
  have hitem := onCastStateChange_of_switching (s := r.ready) (e := e) hm h.isSource hd device
  dsimp only at hitem
  by_cases hcollab : CastItem.castAddToCollaboration e d = .success
  · have hok : CastSwitchOk r (.onCastStateChange disconnectStateFromCast device e) ↔
        r.history.latest = some d := by
      refine ⟨fun hall => hall rfl hm d hd hcollab, fun hlatest _ _ d' hd' _ => ?_⟩
      rw [hlatest, ← hd, hd']
    have hr := Restarts.subStartCast r.ready.dealDisconnect.forgetSwitch e d
    have hquiet : ∀ k, Quiet k (r.ready.dealDisconnect.forgetSwitch.subStartCast e d).1 :=
      fun k => hr.quiet k (quiet_dealDisconnect k r.ready)
    rw [if_neg (not_not.mpr hcollab)] at hitem
    by_cases hstart : (r.ready.dealDisconnect.forgetSwitch.subStartCast e d).2 = .success
    · rw [if_pos hstart] at hitem
      obtain ⟨hawaited, hremembers⟩ := hdone _ hitem hr.multiDeviceState hquiet
      refine ⟨hawaited, hremembers, (switches_iff_of_one hrequested ?_ ?_).trans hok.symm⟩
      · exact (congrArg (fun s => s.calls.filterMap CastCall.startedDevice) hitem).trans
          hr.startedDevices
      · intro hhandle
        have hhandle' := (congrArg CastItem.castHandle hitem).symm.trans hhandle
        exact absurd hhandle' (subStartCast_castHandle hstart)
    · rw [if_neg hstart] at hitem
      have hr' := hr.trans (.dealDisconnect _)
      obtain ⟨hawaited, hremembers⟩ :=
        hdone _ hitem hr'.multiDeviceState (quiet_atLocal · _)
      refine ⟨hawaited, hremembers, (switches_iff_of_one hrequested ?_ ?_).trans hok.symm⟩
      · exact (congrArg (fun s => s.calls.filterMap CastCall.startedDevice) hitem).trans
          hr'.startedDevices
      · exact fun _ => congrArg CastItem.outputDeviceInfo hitem
  · rw [if_pos hcollab] at hitem
    obtain ⟨hawaited, hremembers⟩ := hdone _ hitem rfl (quiet_atLocal · _)
    refine ⟨hawaited, hremembers,
      iff_of_true (switches_of_none ?_ ?_) fun _ _ d' hd' hsuccess => ?_⟩
    · exact congrArg (fun s => s.calls.filterMap CastCall.startedDevice) hitem
    · exact congrArg CastItem.outputDeviceInfo hitem
    · obtain rfl := Option.some.inj (hd.symm.trans hd')
      exact absurd hsuccess hcollab

/-- Any other state of the cast changes nothing that is remembered. -/
theorem Remembers.other (h : Remembers r) (hawaited : Awaited r) {castState : ℤ}
    (hne : castState ≠ disconnectStateFromCast) (device : CastDevice) (e : CastEnv) :
    Awaited (r.step (.onCastStateChange castState device e)) ∧
      Remembers (r.step (.onCastStateChange castState device e)) := by
  obtain ⟨output, hitem⟩ := onCastStateChange_of_ne (s := r.ready) (e := e) hne device
  have hbefore : r.history.before r.item (.onCastStateChange castState device e) = r.history :=
    if_neg hne
  have hstep : r.step (.onCastStateChange castState device e) =
      ⟨r.ready.setOutputDevice output, r.history⟩ := by
    unfold CastRun.step
    rw [hbefore, show r.ready.apply (.onCastStateChange castState device e) = _ from hitem]
    rfl
  rw [hstep]
  exact ⟨hawaited, h.isSource, h.requested, h.casting, h.quiet⟩

/-- **The switch of a cast.** In every run of `StartCast`, `StopCast` and states of the cast, from
any session that waits for nothing: a switch is remembered only while an issued stop of the cast
before is awaited, and every disconnect does what is expected, exactly if each step meets the
condition. -/
theorem castSwitch_iff (isVideo : Bool) (castHandle : ℤ) (castHandleDeviceId : String)
    (castControllerProxy isHiPlayStreamCasting : Bool) (outputDeviceInfo : CastDevice)
    (ops : List CastOp) :
    let idle := CastRun.idle isVideo castHandle castHandleDeviceId castControllerProxy
      isHiPlayStreamCasting outputDeviceInfo
    Always CastRun.step Awaited idle ops ∧ Meets CastRun.step Switches idle ops ↔
      Meets CastRun.step CastSwitchOk idle ops := by
  refine always_and_meets_iff_of_side (J := Remembers) ?_ ?_ ops ?_ trivial
  · intro r op h hawaited hok
    cases op with
    | startCast device e => exact (h.startCast_iff hawaited device e).2 hok
    | stopCast e => exact (h.stopCast hawaited e).2
    | onCastStateChange castState device e =>
        by_cases hstate : castState = disconnectStateFromCast
        · subst hstate
          exact (h.disconnect device e).2.1
        · exact (h.other hawaited hstate device e).2
  · intro r op h hawaited
    cases op with
    | startCast device e =>
        exact (and_iff_left trivial).trans (h.startCast_iff hawaited device e).1
    | stopCast e => exact iff_of_true ⟨(h.stopCast hawaited e).1, trivial⟩ trivial
    | onCastStateChange castState device e =>
        by_cases hstate : castState = disconnectStateFromCast
        · subst hstate
          obtain ⟨hawaited', -, hiff⟩ := h.disconnect device e
          exact (and_iff_right hawaited').trans hiff
        · exact iff_of_true ⟨(h.other hawaited hstate device e).1, fun hd => absurd hd hstate⟩
            fun hd => absurd hd hstate
  · exact ⟨nofun, fun hne => absurd rfl hne, nofun, fun _ => rfl⟩

/-- A device of a name. -/
def castDevice (deviceId : String) : CastDevice := ⟨1, deviceId, deviceId⟩

/-- A session that is cast to the device `tv`. -/
def castToTv : CastRun := .idle false 1 "tv" true false (castDevice "tv")

/-- Everything succeeds, except that a stop is answered as given. -/
def castEnv (stopAnswer : StopAnswer) : CastEnv where
  mirrorCastHandle := -1
  mirrorDeviceId := ""
  castSide := .castSource
  isRemoteCasting := true
  isHiPlayCasting := false
  castDeviceInfoMap := fun deviceId => some (castDevice deviceId)
  collaboration := .success
  startedHandle := 2
  remoteController := true
  connectedAtOnce := none
  addDevice := .success
  stopCastSession := .success
  stopAnswer := stopAnswer
  serviceCallbackStopSinkCast := true
  isMediaOrSceneBoard := false
  pcmCastSession := true
  streamsThisSession := false

/-- A switch to `box`, and then `tv` is asked for again, which is refused as a repetition. -/
def backToTv : CastRun :=
  run CastRun.step castToTv
    [.startCast (castDevice "box") (castEnv .removed),
      .startCast (castDevice "tv") (castEnv .removed)]

/-- A switch is remembered though its stop failed, and a disconnect starts the cast to `box` though
the latest `StartCast` was for `tv`. -/
theorem failedStop_remembered_and_refused_ignored :
    ¬ Awaited (castToTv.step (.startCast (castDevice "box") (castEnv .unknownHandle))) ∧
      ¬ Switches backToTv
        (.onCastStateChange disconnectStateFromCast (castDevice "tv") (castEnv .removed)) := by
  constructor
  · rw [awaited_iff_stopIssued rfl]
    exact Bool.false_ne_true
  · have hremembers : Remembers backToTv :=
      ⟨nofun, fun _ => ⟨⟨castDevice "box", rfl⟩, rfl⟩, fun _ => Int.one_pos, nofun⟩
    rw [(hremembers.disconnect (castDevice "tv") (castEnv .removed)).2.2]
    intro hok
    exact absurd (hok rfl nofun (castDevice "box") rfl rfl) (by decide)

end rule

end AvSession.Cast
