import AvSession.Item
import AvSession.Lib.OrderedMap

/-!
# The focus strategy

`FocusSessionStrategy` follows the audio renderers. For every process it keeps whether the process
is playing, and it tells the service which process started and which one stopped.

* `procAudioRenderChange` — the infos of the audio framework become the states of the processes.
* `handleAudioRenderStateChangeEvent` — the states are compared with those of the last event: one
  process gets the focus at once, and one is stopped later.
* `checkFocusStop` — the task that stops a process later.
* Left out: the selector, whose result is not read, and the log.
-/

namespace AvSession.Focus

open Std AvSession.Lib AvSession.Lib.OrderedMap

/-! ## What the audio framework reports -/

section infos

/-- The usages that the strategy knows, and any other.
Source: `AudioStandard::StreamUsage` -/
inductive StreamUsage
  | unknown
  | music
  | movie
  | audiobook
  | voiceCommunication
  | videoCommunication
  | ringtone
  | other (usage : ℕ)
deriving DecidableEq, Repr

/-- Source: `AudioStandard::RendererState` -/
inductive RendererState
  | invalid
  | new
  | prepared
  | running
  | stopped
  | released
  | paused
deriving DecidableEq, Repr

/-- The fields of an info that the strategy reads.
Source: `AudioStandard::AudioRendererChangeInfo` -/
structure AudioRendererChangeInfo where
  clientUID : Uid
  clientPid : Pid
  streamUsage : StreamUsage
  rendererState : RendererState
deriving DecidableEq, Repr

/-- The key of the states: `std::pair<int32_t, int32_t>`. -/
structure FocusKey where
  uid : Uid
  pid : Pid
deriving DecidableEq, Repr

/-- The order of `std::pair`. -/
abbrev FocusKey.cmp : FocusKey → FocusKey → Ordering := lexCmp FocusKey.uid FocusKey.pid

instance : LawfulEqCmp FocusKey.cmp :=
  lawfulEqCmp_lexCmp fun ⟨_, _⟩ ⟨_, _⟩ hu hp => by subst hu hp; rfl

instance : TransCmp FocusKey.cmp := inferInstance

/-- The process of an info. -/
def AudioRendererChangeInfo.key (info : AudioRendererChangeInfo) : FocusKey :=
  ⟨info.clientUID, info.clientPid⟩

/-- The renderer of an info is running. -/
def AudioRendererChangeInfo.isRunning (info : AudioRendererChangeInfo) : Bool :=
  info.rendererState == .running

/-- The initial value of the keys that the source searches for: `std::make_pair(-1, -1)`. -/
def noKey : FocusKey := ⟨-1, -1⟩

/-- A state of a process, as an `int32_t`. -/
abbrev FocusState := ℤ

/-- Source: focus_session_strategy.h -/
def runningState : FocusState := 2

/-- Source: focus_session_strategy.h -/
def stopState : FocusState := 0

/-- Source: focus_session_strategy.h -/
def releaseState : FocusState := 4

/-- Source: focus_session_strategy.h -/
def ancoUid : Uid := 1041

/-- Source: focus_session_strategy.h, `ALLOWED_ANCO_STREAM_USAGE` -/
def allowedAncoStreamUsage : List StreamUsage := [.music, .movie, .voiceCommunication]

/-- Source: focus_session_strategy.h, `ALLOWED_MEDIA_STREAM_USAGE` -/
def allowedMediaStreamUsage : List StreamUsage := [.unknown, .music, .movie, .audiobook]

/-- Source: focus_session_strategy.h, `AUDIO_PLAYING_STREAM_USAGE` -/
def audioPlayingStreamUsage : List StreamUsage :=
  [.music, .movie, .audiobook, .voiceCommunication, .videoCommunication, .ringtone]

/-- Source: focus_session_strategy.h, `AUDIO_PLAYING_STREAM_STATE` -/
def audioPlayingStreamState : List RendererState := [.running]

/-- The type of `lastStates_` and `currentStates_`. -/
abbrev StateMap := ExtTreeMap FocusKey FocusState FocusKey.cmp

end infos

/-! ## The strategy -/

/-- Source: focus_session_strategy.h, `FocusSessionStrategy` -/
structure FocusSessionStrategy where
  lastStates : StateMap
  currentStates : StateMap
  /-- `controlBundleList_`, a set -/
  controlBundleList : List FocusKey
  audioPlayingUids : List Uid
  /-- The tasks `CheckFocusStop<pid>` that are posted, each with the key it captured. -/
  pendingTasks : List FocusKey

namespace FocusSessionStrategy

/-- The strategy after its construction. -/
def init : FocusSessionStrategy := ⟨∅, ∅, [], [], []⟩

variable (s : FocusSessionStrategy)

/-- A process is playing. -/
def Running (key : FocusKey) : Prop := s.currentStates[key]? = some runningState

instance (key : FocusKey) : Decidable (s.Running key) := inferInstanceAs (Decidable (_ = _))

/-- Source: `FocusSessionStrategy::AddControlBundle` -/
def addControlBundle (uid : Uid) (pid : Pid) : FocusSessionStrategy :=
  { s with controlBundleList := s.controlBundleList.insert ⟨uid, pid⟩ }

/-- Source: `FocusSessionStrategy::RemoveControlBundle` -/
def removeControlBundle (uid : Uid) (pid : Pid) : FocusSessionStrategy :=
  { s with controlBundleList := s.controlBundleList.filter (· ≠ ⟨uid, pid⟩) }

/-! ## From the infos to the states -/

section proc

/-- The three rules of the loop that skip an info: a usage that the anco user may not have, a usage
that is no media for a process of the control list, and an invalid pid. -/
def accepts (info : AudioRendererChangeInfo) : Bool :=
  if info.clientUID = ancoUid ∧ info.streamUsage ∉ allowedAncoStreamUsage then false
  else if info.streamUsage ∉ allowedMediaStreamUsage ∧ info.key ∈ s.controlBundleList then false
  else info.clientPid ≠ 0

/-- The infos that are not skipped. -/
def accepted (infos : List AudioRendererChangeInfo) : List AudioRendererChangeInfo :=
  infos.filter s.accepts

/-- The variables of the loop of `ProcAudioRenderChange`. -/
structure Loop where
  audioPlayingUids : List Uid
  currentStates : StateMap
  playingKey : FocusKey

/-- The part of the loop body on `audioPlayingUids_`. -/
def notePlayingUid (audioPlayingUids : List Uid) (info : AudioRendererChangeInfo) : List Uid :=
  if info.clientUID ∉ audioPlayingUids ∧ info.streamUsage ∈ audioPlayingStreamUsage ∧
      info.rendererState ∈ audioPlayingStreamState then
    audioPlayingUids ++ [info.clientUID]
  else audioPlayingUids

/-- The part of the loop body on `playingKey`. -/
def nextPlayingKey (playingKey : FocusKey) (info : AudioRendererChangeInfo) : FocusKey :=
  if info.isRunning then info.key else playingKey

/-- The part of the loop body on `currentStates_`, where `playingKey` is the one that the body
leaves. A key that is missing gets `stopState` first. -/
def nextStates (playingKey : FocusKey) (states : StateMap) (info : AudioRendererChangeInfo) :
    StateMap :=
  let states := states.insertIfNew info.key stopState
  let states := if info.isRunning then states.insert info.key runningState else states
  if playingKey ≠ info.key then
    states.insert info.key (if info.rendererState = .released then releaseState else stopState)
  else states

/-- The part of the loop body that an info reaches if it is not skipped. -/
def applyInfo (l : Loop) (info : AudioRendererChangeInfo) : Loop where
  audioPlayingUids := l.audioPlayingUids
  currentStates := nextStates (nextPlayingKey l.playingKey info) l.currentStates info
  playingKey := nextPlayingKey l.playingKey info

/-- The loop body. -/
def procInfo (l : Loop) (info : AudioRendererChangeInfo) : Loop :=
  let l := { l with audioPlayingUids := notePlayingUid l.audioPlayingUids info }
  if s.accepts info then applyInfo l info else l

/-- Source: `FocusSessionStrategy::ProcAudioRenderChange` -/
def procAudioRenderChange (infos : List AudioRendererChangeInfo) : FocusSessionStrategy :=
  let l := infos.foldl s.procInfo ⟨[], s.currentStates, noKey⟩
  { s with audioPlayingUids := l.audioPlayingUids, currentStates := l.currentStates }

end proc

/-! ## From the states to the focus -/

section focus

/-- `lastStates_[key] = currentStates_[key]`; a missing key would be read as zero. -/
def commit (key : FocusKey) : FocusSessionStrategy :=
  { s with lastStates := s.lastStates.insert key (s.currentStates[key]?.getD 0) }

/-- `AVSessionRemoveTask`: the name of a task has the pid of its key only. -/
def removeTasks (pid : Pid) : FocusSessionStrategy :=
  { s with pendingTasks := s.pendingTasks.filter (·.pid ≠ pid) }

/-- Source: `FocusSessionStrategy::IsFocusSession` -/
def isFocusSession (key : FocusKey) : FocusSessionStrategy × Bool :=
  if s.lastStates[key]? ≠ some runningState then ((s.commit key).removeTasks key.pid, true)
  else (s.commit key, false)

/-- Source: `FocusSessionStrategy::CheckFocusSessionStop` -/
def checkFocusSessionStop (key : FocusKey) : FocusSessionStrategy × Bool :=
  (s.commit key, s.lastStates[key]? = some runningState)

/-- The two erasures of a key that is released. -/
def eraseKey (key : FocusKey) : FocusSessionStrategy :=
  { s with
    lastStates := s.lastStates.erase key
    currentStates := s.currentStates.erase key }

/-- The variables of the loop of `HandleAudioRenderStateChangeEvent`. -/
structure Visit where
  strategy : FocusSessionStrategy
  focusSessionKey : FocusKey
  stopSessionKey : FocusKey

/-- The loop body, at an entry of `currentStates_`. -/
def visitKey (v : Visit) (key : FocusKey) (state : FocusState) : Visit :=
  if state = runningState then
    let r := v.strategy.isFocusSession key
    { v with
      strategy := r.1
      focusSessionKey := if r.2 then key else v.focusSessionKey }
  else
    let r := v.strategy.checkFocusSessionStop key
    { v with
      strategy := if state = releaseState then r.1.eraseKey key else r.1
      stopSessionKey := if r.2 then key else v.stopSessionKey }

/-- What an event does outside of the strategy: the key that the callback is invoked with, with
`true`, and the key for which a stop is posted. -/
structure FocusChange where
  updated : Option FocusKey
  stopped : Option FocusKey
deriving DecidableEq, Repr

/-- A key whose components are both valid. -/
def validKey (key : FocusKey) : Option FocusKey :=
  if key.uid ≠ -1 ∧ key.pid ≠ -1 then some key else none

/-- The loop over `currentStates_`, in key order. It erases no key but the one it is at. -/
def visitAll (s : FocusSessionStrategy) : Visit :=
  s.currentStates.toList.foldl (fun v e => visitKey v e.1 e.2) ⟨s, noKey, noKey⟩

/-- Source: `FocusSessionStrategy::DelayStopFocusSession`, the part that posts the task -/
def postStop (s : FocusSessionStrategy) (stopped : Option FocusKey) : FocusSessionStrategy :=
  { s with pendingTasks := s.pendingTasks ++ stopped.toList }

/-- Source: `FocusSessionStrategy::HandleAudioRenderStateChangeEvent` -/
def handleAudioRenderStateChangeEvent (infos : List AudioRendererChangeInfo) :
    FocusSessionStrategy × FocusChange :=
  let v := visitAll (s.procAudioRenderChange infos)
  (postStop v.strategy (validKey v.stopSessionKey),
    { updated := validKey v.focusSessionKey, stopped := validKey v.stopSessionKey })

/-- A task runs: the callback is invoked with its key and `false`, unless the key is running again.
Source: `FocusSessionStrategy::DelayStopFocusSession`, the task -/
def checkFocusStop (key : FocusKey) : FocusSessionStrategy × Option FocusKey :=
  if key ∈ s.pendingTasks then
    ({ s with pendingTasks := s.pendingTasks.erase key },
      if s.lastStates[key]? = some runningState then none else some key)
  else (s, none)

end focus

end FocusSessionStrategy

end AvSession.Focus
