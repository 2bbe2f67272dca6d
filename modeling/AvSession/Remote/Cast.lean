import AvSession.Lib.Register
import AvSession.Meta.Codec
import AvSession.Queue.Image
import AvSession.Remote.Parcels
import AvSession.Remote.Session

/-!
# A session cast to another device

The session of the source device and that of the sink device share a distributed object. It has one
register for each kind of data: the source writes metadata and playback states, the sink writes
control commands, and the other side looks at the register when it is notified.

* `Link` — what the two devices have agreed on, and what a parcel takes.
* `putAVMetaData`, `getAVMetaData` and the like — what is written to a register and read from it.
* `CastState`, `CastOp`, `step` — both sessions, the three registers, and what can happen.
-/

namespace AvSession.Remote

open AvSession.Lib AvSession.Meta

variable {ω : Type}

/-! ## The link -/

section link

/-- The capability of the sink, as the numbers of its keys, and the parcels. A parcel may refuse a
record, and a parcel of some records has a size.
Source: remote_session_capability_set.h, RemoteSessionCapabilitySet. -/
structure Link (ω : Type) where
  metaDataCap : List ℤ
  playbackStateCap : List ℤ
  params : WantParamsFormat ω
  accepts : List Token → Token → Bool
  dataSize : List Token → ℕ

/-- Source: remote_session_syncer_impl.h -/
def RECEIVE_DATA_SIZE_MAX : ℕ := 500 * 1024

variable (L : Link ω)

namespace Link

/-- A new parcel. -/
def parcel : Parcel := ⟨[], L.accepts⟩

/-- The local capability has all keys.
Source: remote_session_source_impl.cpp, RemoteSessionSourceImpl::GetSinkMetaMaskType. -/
def getSinkMetaMaskType : MetaKey → Bool :=
  fun k => L.metaDataCap.contains (MetaKey.all.idxOf k : ℤ)

/-- The local capability has all keys but the extras.
Source: remote_session_source_impl.cpp, RemoteSessionSourceImpl::GetSinkPlaybackStateMaskType. -/
def getSinkPlaybackStateMaskType : PlaybackKey → Bool :=
  fun k => k ≠ .extras && L.playbackStateCap.contains (PlaybackKey.all.idxOf k : ℤ)

/-- What is read from a register, unless it is too much.
Source: remote_session_syncer_impl.cpp, RemoteSessionSyncerImpl::GetAVMetaData and the like. -/
def receive {α : Type} (unmarshalling : List Token → Option α) (content : Option (List Token)) :
    Option α :=
  content.bind fun ts => if L.dataSize ts ≤ RECEIVE_DATA_SIZE_MAX then unmarshalling ts else none

end Link

/-! ### Registers -/

variable (r : Register (List Token))

/-- A parcel is written to the register, if all of it could be written.
Source: remote_session_syncer_impl.cpp, RemoteSessionSyncerImpl::PutData. -/
def putData (parcel : Parcel × Bool) : Register (List Token) :=
  if parcel.2 then r.put parcel.1.tokens else r

/-- Source: remote_session_syncer_impl.cpp, RemoteSessionSyncerImpl::PutAVMetaData. -/
def putAVMetaData (m : AVMetaData) : Register (List Token) :=
  putData r ((m.marshalling L.parcel).1.2, (m.marshalling L.parcel).2)

/-- Source: remote_session_syncer_impl.cpp, RemoteSessionSyncerImpl::GetAVMetaData. -/
def getAVMetaData (content : Option (List Token)) : Option AVMetaData :=
  L.receive (fun ts => (AVMetaData.unmarshalling ts).1) content

/-- Source: remote_session_syncer_impl.cpp, RemoteSessionSyncerImpl::PutAVPlaybackState. -/
def putAVPlaybackState (state : AVPlaybackState ω) : Register (List Token) :=
  putData r (AVPlaybackState.marshalling L.params state L.parcel)

/-- Source: remote_session_syncer_impl.cpp, RemoteSessionSyncerImpl::GetAVPlaybackState. -/
def getAVPlaybackState (content : Option (List Token)) : Option (AVPlaybackState ω) :=
  L.receive (AVPlaybackState.unmarshalling L.params) content

/-- Source: remote_session_syncer_impl.cpp, RemoteSessionSyncerImpl::PutControlCommand. -/
def putControlCommand (c : AVControlCommand) : Register (List Token) :=
  putData r (c.marshalling L.parcel)

/-- Source: remote_session_syncer_impl.cpp, RemoteSessionSyncerImpl::GetControlCommand. -/
def getControlCommand (content : Option (List Token)) : Option AVControlCommand :=
  L.receive AVControlCommand.unmarshalling content

/-! ### What the source sends -/

/-- The members that are set and that the sink takes. -/
def sentMetaData (m : AVMetaData) : AVMetaData × Bool :=
  m.copyToByMask L.getSinkMetaMaskType .init

/-- Source: remote_session_source_impl.cpp, RemoteSessionSourceImpl::SetAVMetaData. -/
def remoteSetAVMetaData (m : AVMetaData) : Register (List Token) :=
  if (sentMetaData L m).2 then putAVMetaData L r (sentMetaData L m).1 else r

/-- The members that are set and that the sink takes. -/
def sentPlaybackState (state : AVPlaybackState ω) : AVPlaybackState ω × Bool :=
  AVPlaybackState.copyToByMask state L.getSinkPlaybackStateMaskType AVPlaybackState.init

/-- Source: remote_session_source_impl.cpp, RemoteSessionSourceImpl::SetAVPlaybackState. -/
def remoteSetAVPlaybackState (state : AVPlaybackState ω) : Register (List Token) :=
  if (sentPlaybackState L state).2 then putAVPlaybackState L r (sentPlaybackState L state).1 else r

end link

/-! ## Both sessions -/

section cast

/-- The sessions of the two devices and the distributed object. `bundleName` is the one of the
source session, and `issued` and `executed` are the commands that the sink has put and those that
the source has executed. -/
structure CastState (ω : Type) where
  bundleName : String
  source : ItemState ω
  sink : ItemState ω
  metaData : Register (List Token)
  playbackState : Register (List Token)
  controlCommand : Register (List Token)
  issued : List AVControlCommand
  executed : List AVControlCommand

/-- The data that a notification can be about. -/
inductive Category
  | metaData
  | playbackState
  | controlCommand

/-- What can happen. A queue image is what its file holds, if it is read, and `notified` is what the
callbacks of the service leave in the queue image of the object, if they read or clear it. -/
inductive CastOp (ω : Type)
  | setAVMetaData (newData : AVMetaData) (queueImage : List UInt8)
      (notified : Option (List UInt8))
  | setAVPlaybackState (state : AVPlaybackState ω)
  | setControlCommand (c : AVControlCommand)
  | coalesce (category : Category)
  | onChanged (category : Category) (queueImage : List UInt8)

variable [DecidableEq ω] (L : Link ω) (s : CastState ω)

/-- The source session is cast to a new session of the sink, and sends what it has.
Source: avsession_item.cpp, AVSessionItem::CastAudioToRemote. -/
def castAudioToRemote (bundleName : String) (source : ItemState ω) (queueImage : List UInt8)
    (controllers : List Controller) : CastState ω where
  bundleName := bundleName
  source := source
  sink := .init controllers
  metaData := remoteSetAVMetaData L .init (getMetaData source queueImage)
  playbackState := remoteSetAVPlaybackState L .init source.playbackState
  controlCommand := .init
  issued := []
  executed := []

/-- A session saves a queue image to its file: it has bytes, the session has a playlist, and the
name of the file is valid.
Source: avsession_item.cpp, AVSessionItem::CheckUseAVMetaData. -/
def SavesQueueImage (bundleName : String) (metaData newData : AVMetaData) (image : List UInt8) :
    Prop :=
  image ≠ [] ∧ metaData.val .avQueueName ≠ "" ∧ metaData.val .avQueueId ≠ "" ∧
    Queue.isValidFileName (Queue.queueFileName bundleName (newData.val .avQueueId)) = true

instance (bundleName : String) (metaData newData : AVMetaData) (image : List UInt8) :
    Decidable (SavesQueueImage bundleName metaData newData image) :=
  inferInstanceAs (Decidable (_ ∧ _ ∧ _ ∧ _))

/-- What is left in the queue image of an object: a callback may have read or cleared it, and once
it is saved it is cleared.
Source: avsession_item.cpp, AVSessionItem::CheckUseAVMetaData. -/
def checkUseAVMetaData (bundleName : String) (metaData newData : AVMetaData)
    (notified : Option (List UInt8)) : AVMetaData :=
  let image := notified.getD ((newData.val .avQueueImage).getD [])
  withQueueBuffer newData
    (if SavesQueueImage bundleName metaData newData image then [] else image)

namespace CastState

/-- The object is sent once it was stored and used: its images may have been cleared by then.
Source: avsession_item.cpp, AVSessionItem::SetAVMetaData. -/
def setAVMetaData (newData : AVMetaData) (queueImage : List UInt8)
    (notified : Option (List UInt8)) : CastState ω :=
  let source := Meta.setAVMetaData s.source newData queueImage
  let used := checkUseAVMetaData s.bundleName source.metaData newData notified
  { s with
    source
    metaData := remoteSetAVMetaData L s.metaData
      (withMediaBuffer used (source.buffers s.source.calls.length)) }

/-- A state without a member is refused.
Source: avsession_item.cpp, AVSessionItem::SetAVPlaybackState. -/
def setAVPlaybackState (state : AVPlaybackState ω) : CastState ω :=
  if (s.source.playbackState.copyFrom state).2 = false then s
  else
    { s with
      source := Meta.setAVPlaybackState s.source state
      playbackState := remoteSetAVPlaybackState L s.playbackState state }

/-- Source: remote_session_sink_impl.cpp, RemoteSessionSinkImpl::SetControlCommand. -/
def setControlCommand (c : AVControlCommand) : CastState ω :=
  { s with
    controlCommand := putControlCommand L s.controlCommand c
    issued := s.issued ++ [c] }

/-- Two notifications become one. -/
def coalesce : Category → CastState ω
  | .metaData => { s with metaData := s.metaData.coalesce }
  | .playbackState => { s with playbackState := s.playbackState.coalesce }
  | .controlCommand => { s with controlCommand := s.controlCommand.coalesce }

/-- A notification arrives, if one is under way.
Source: remote_session_sink_impl.cpp, RemoteSessionSinkImpl::HandleSessionDataCategory, and
remote_session_source_impl.cpp, RemoteSessionSourceImpl::HandleSourceSessionDataCategory. -/
def onChanged (category : Category) (queueImage : List UInt8) : CastState ω :=
  match category with
  | .metaData =>
      { s with
        metaData := s.metaData.arrive
        sink := match getAVMetaData L s.metaData.found with
          | some m => Meta.setAVMetaData s.sink m queueImage
          | none => s.sink }
  | .playbackState =>
      { s with
        playbackState := s.playbackState.arrive
        sink := match getAVPlaybackState L s.playbackState.found with
          | some state => Meta.setAVPlaybackState s.sink state
          | none => s.sink }
  | .controlCommand =>
      { s with
        controlCommand := s.controlCommand.arrive
        executed := match getControlCommand L s.controlCommand.found with
          | some c => s.executed ++ [c]
          | none => s.executed }

end CastState

/-- One step. -/
def CastOp.step : CastOp ω → CastState ω
  | .setAVMetaData newData queueImage notified => s.setAVMetaData L newData queueImage notified
  | .setAVPlaybackState state => s.setAVPlaybackState L state
  | .setControlCommand c => s.setControlCommand L c
  | .coalesce category => s.coalesce category
  | .onChanged category queueImage => s.onChanged L category queueImage

/-- No notification is under way. -/
def CastState.Delivered : Prop :=
  s.metaData.pending = 0 ∧ s.playbackState.pending = 0 ∧ s.controlCommand.pending = 0

/-- What a cast is for. The commands that were executed are the first ones of those that were put,
and once everything has been delivered they are all of them, and the sessions agree on what the sink
takes. -/
structure Converged : Prop where
  ordered : s.executed <+: s.issued
  metaData : s.Delivered → AgreeOn L.getSinkMetaMaskType (shown s.source) (shown s.sink)
  playbackState : s.Delivered → ∀ k, L.getSinkPlaybackStateMaskType k = true →
    s.source.playbackState.val k = s.sink.playbackState.val k
  commands : s.Delivered → s.executed = s.issued

end cast

end AvSession.Remote
