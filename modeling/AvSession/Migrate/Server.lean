import AvSession.Lib.CString
import AvSession.Lib.TaskQueue
import AvSession.Meta.PlaybackState

/-!
# The migration server

`MigrateAVSessionServer` in its mode for the next version follows the front session of the service
and tells a remote device about it. Calls of the service post tasks by name; the messages to the
remote are posted too.

* `MigrateAVSessionServer` — the controllers it registered with, the caches of what it sent, and the
  queue.
* `localFrontSessionArrive`, `localFrontSessionChange`, `localFrontSessionLeave` — the calls of the
  service, with the tasks they post.
* `updateFrontSessionInfoToRemote` — the messages about a front session.
* `processMediaControlNeedState`, `handleNeedStateTimer` — whether the remote needs them.
* `runTask` — the next task of the queue.
* Left out: volume and audio devices, the detection of long pauses, control commands from the
  remote, the list that is only sorted in the other mode.
-/

namespace AvSession.Migrate

open AvSession.Lib AvSession.Meta

variable {ω : Type}

/-! ## Data -/

/-- A controller. The service has one for each session and the pid of the server, so the id of the
session stands for it. -/
abbrev ControllerRef := String

/-- An observer of the server, with the session it is for.
Source: migrate_avsession_server.h, `AVControllerObserver` -/
structure AVControllerObserver where
  playerId : String
deriving DecidableEq

/-- What the getters of a controller return, and what the evaluation of the bundle icon gives. -/
structure FocusSession (ω : Type) where
  /-- `GetAVMetaData`, unless it fails with an error that is not `ERR_INVALID_PARAM`. -/
  metaData : Option AVMetaData
  /-- `GetAVPlaybackState`, unless it fails. -/
  playbackState : Option (AVPlaybackState ω)
  validCommands : List ℤ
  bundleName : String
  abilityName : String
  sessionType : String
  /-- The icon of the bundle, unless it cannot be converted. -/
  bundleIcon : Option (List UInt8)

/-- A message to the remote.
Source: migrate_avsession_constant.h -/
inductive Message
  | syncFocusSessionInfo (sessionId : String) (bundleAndAbility : Option (String × String))
  | syncFocusMetaInfo (title artist assetId : String)
  | syncFocusMediaImage (assetId : String) (image : List UInt8)
  | syncFocusPlayState (state : ℤ) (favorState : Bool)
  | syncFocusValidCommands (commands : List UInt8)
  | syncFocusBundleImg (image : List UInt8)
deriving DecidableEq

/-- A task on `LocalFrontSessionChange`. -/
inductive FrontTask
  | arrive (sessionId : String)
  | leave (sessionId : String)
deriving DecidableEq

/-- A pending task. -/
inductive Task
  | front (t : FrontTask)
  | send (msg : Message)
deriving DecidableEq

/-- The name of a task. -/
inductive TaskName
  | localFrontSessionChange
  | syncFocusSessionInfo
  | syncFocusMetaInfo
  | syncFocusMediaImage
  | syncFocusPlayState
  | syncFocusValidCommands
  | syncFocusBundleImg
deriving DecidableEq

/-- The name under which a message is posted. -/
def Message.name : Message → TaskName
  | syncFocusSessionInfo .. => .syncFocusSessionInfo
  | syncFocusMetaInfo .. => .syncFocusMetaInfo
  | syncFocusMediaImage .. => .syncFocusMediaImage
  | syncFocusPlayState .. => .syncFocusPlayState
  | syncFocusValidCommands .. => .syncFocusValidCommands
  | syncFocusBundleImg .. => .syncFocusBundleImg

/-- The name under which a task is posted. -/
def Task.name : Task → TaskName
  | front _ => .localFrontSessionChange
  | send msg => msg.name

/-- The task on `LocalFrontSessionChange` that a task is. -/
def Task.front? : Task → Option FrontTask
  | front t => some t
  | send _ => none

/-- The message that a task sends. -/
def Task.message? : Task → Option Message
  | front _ => none
  | send msg => some msg

/-- The members of `metaDataCache_` that are read. -/
@[ext] structure MetaDataCache where
  title : String
  artist : String
  assetId : String
deriving DecidableEq

/-- Source: avmeta_data.cpp, `AVMetaData::Reset` -/
def MetaDataCache.reset : MetaDataCache := ⟨"", "", ""⟩

/-- The members of `playbackStateCache_` that are read. -/
@[ext] structure PlaybackStateCache where
  state : ℤ
  favorite : Bool
deriving DecidableEq

/-- The maps are their lookups: a null pointer is a value, not an absent key. `innerCallback` is
that of the controllers, of which the server only sets its own. `sent` is what went to the remote.
Source: migrate_avsession_server.h, `MigrateAVSessionServer` -/
structure MigrateAVSessionServer where
  playerIdToControllerMap : String → Option (Option ControllerRef)
  playerIdToControllerCallbackMap : String → Option AVControllerObserver
  innerCallback : ControllerRef → Option AVControllerObserver
  lastSessionId : String
  isSoftbusConnecting : Bool
  isNeedByRemote : Bool
  needStateTimer : Bool
  preSessionId : String
  sessionIdCache : String
  /-- Nothing for the empty string. -/
  pendingSessionInfo : Option Message
  metaDataCache : MetaDataCache
  curAssetId : String
  mediaImgTopicStr : String
  playbackStateCache : PlaybackStateCache
  validCommands : List ℤ
  curBundleName : String
  curAbilityName : String
  tasks : List Task
  sent : List Message

/-- The server when the link has come up, before a session is at the front.
Source: migrate_avsession_server.cpp, `MigrateAVSessionServer::OnConnectProxy` -/
def MigrateAVSessionServer.init : MigrateAVSessionServer where
  playerIdToControllerMap := fun _ => none
  playerIdToControllerCallbackMap := fun _ => none
  innerCallback := fun _ => none
  lastSessionId := ""
  isSoftbusConnecting := true
  isNeedByRemote := false
  needStateTimer := false
  preSessionId := ""
  sessionIdCache := ""
  pendingSessionInfo := none
  metaDataCache := .reset
  curAssetId := ""
  mediaImgTopicStr := ""
  playbackStateCache := ⟨-1, false⟩
  validCommands := []
  curBundleName := ""
  curAbilityName := ""
  tasks := []
  sent := []

namespace MigrateAVSessionServer

variable (s : MigrateAVSessionServer)

/-! ## The queue -/

section queue

/-- Source: migrate_avsession_server_for_next.cpp, `MigrateAVSessionServer::MigratePostTask` -/
def migratePostTask (t : Task) : MigrateAVSessionServer :=
  if !s.isSoftbusConnecting then s
  else { s with tasks := TaskQueue.post Task.name s.tasks t }

/-- A message is posted under its name. -/
def postMessage (msg : Message) : MigrateAVSessionServer := s.migratePostTask (.send msg)

end queue

/-! ## Controllers -/

section controllers

/-- `playerIdToControllerMap_[sessionId]`, which plants a null pointer at an absent key. -/
def plantNull (sessionId : String) : MigrateAVSessionServer :=
  match s.playerIdToControllerMap sessionId with
  | some _ => s
  | none =>
      { s with playerIdToControllerMap :=
                 Function.update s.playerIdToControllerMap sessionId (some none) }

/-- What is found there then. -/
def controllerAt (sessionId : String) : Option ControllerRef :=
  (s.playerIdToControllerMap sessionId).join

/-- Source: avcontroller_item.cpp, `AVControllerItem::UnregisterAVControllerCallback` -/
def unregisterAVControllerCallback : Option ControllerRef → MigrateAVSessionServer
  | some c => { s with innerCallback := Function.update s.innerCallback c none }
  | none => s

/-- Both maps insert only at an absent key.
Source: migrate_avsession_server.cpp, `MigrateAVSessionServer::UpdateCache`, with `isAdd` -/
def updateCache (sessionId : String) (c : ControllerRef) (callback : AVControllerObserver) :
    MigrateAVSessionServer :=
  { s with
    playerIdToControllerMap := Function.update s.playerIdToControllerMap sessionId
      (some ((s.playerIdToControllerMap sessionId).getD (some c)))
    playerIdToControllerCallbackMap := Function.update s.playerIdToControllerCallbackMap sessionId
      (some ((s.playerIdToControllerCallbackMap sessionId).getD callback)) }

/-- `created` tells whether `CreateControllerInner` gives a controller.
Source: migrate_avsession_server.cpp, `MigrateAVSessionServer::CreateController` -/
def createController (sessionId : String) (created : Bool) : MigrateAVSessionServer :=
  if (s.playerIdToControllerCallbackMap sessionId).isSome then s
  else if !created then s
  else
    updateCache
      { s with innerCallback := Function.update s.innerCallback sessionId (some ⟨sessionId⟩) }
      sessionId sessionId ⟨sessionId⟩

/-- Source: migrate_avsession_server.cpp, `MigrateAVSessionServer::ClearCacheBySessionId` -/
def clearCacheBySessionId (sessionId : String) : MigrateAVSessionServer :=
  { s with
    playerIdToControllerMap := Function.update s.playerIdToControllerMap sessionId none
    playerIdToControllerCallbackMap :=
      Function.update s.playerIdToControllerCallbackMap sessionId none }

end controllers

/-! ## The messages about the session -/

section sessionInfo

/-- Source: migrate_avsession_constant.h -/
def EMPTY_SESSION : String := "Empty"

/-- Source: migrate_avsession_server_for_next.cpp, `MigrateAVSessionServer::CheckSyncSessionInfo` -/
def checkSyncSessionInfo (sessionId : String) : MigrateAVSessionServer × Bool :=
  if !s.isNeedByRemote && (s.sessionIdCache != "" || sessionId == "") then (s, false)
  else ({ s with sessionIdCache := sessionId }, true)

/-- Source: migrate_avsession_server_for_next.cpp,
`MigrateAVSessionServer::SendOrCacheSessionInfo` -/
def sendOrCacheSessionInfo (needSync : Bool) (msg : Message) : MigrateAVSessionServer :=
  if needSync then { s with pendingSessionInfo := none }.postMessage msg
  else { s with pendingSessionInfo := some msg }

/-- Source: migrate_avsession_server_for_next.cpp, `MigrateAVSessionServer::CheckPostSessionInfo` -/
def checkPostSessionInfo (sessionId : String) : MigrateAVSessionServer × Bool :=
  if s.preSessionId = sessionId then (s, false)
  else ({ s with preSessionId := sessionId }, true)

/-- What the next two functions do with a session id and the message made of it. -/
def updateSessionInfo (sessionId : String) (msg : Message) : MigrateAVSessionServer :=
  let post := s.checkPostSessionInfo sessionId
  if !post.2 then s
  else
    let sync := post.1.checkSyncSessionInfo sessionId
    sync.1.sendOrCacheSessionInfo sync.2 msg

/-- Source: migrate_avsession_server_for_next.cpp,
`MigrateAVSessionServer::UpdateSessionInfoToRemote` -/
def updateSessionInfoToRemote (c : ControllerRef) (focus : FocusSession ω) :
    MigrateAVSessionServer :=
  s.updateSessionInfo c (.syncFocusSessionInfo c
    (some (focus.bundleName ++ "|" ++ focus.sessionType, focus.abilityName)))

/-- Source: migrate_avsession_server_for_next.cpp,
`MigrateAVSessionServer::UpdateEmptyInfoToRemote` -/
def updateEmptyInfoToRemote : MigrateAVSessionServer :=
  s.updateSessionInfo "" (.syncFocusSessionInfo EMPTY_SESSION none)

end sessionInfo

/-! ## The messages about the media -/

section media

/-- Without the argument, the caches about the session are reset as well.
Source: migrate_avsession_server_for_next.cpp, `MigrateAVSessionServer::CheckPostClean` -/
def checkPostClean (resetOnlySessionInfo : Bool) : MigrateAVSessionServer :=
  let s := { s with
    mediaImgTopicStr := ""
    validCommands := []
    curBundleName := ""
    curAbilityName := ""
    metaDataCache := .reset
    playbackStateCache := ⟨-1, false⟩ }
  if resetOnlySessionInfo then s
  else { s with sessionIdCache := "", preSessionId := "", pendingSessionInfo := none }

/-- Another asset starts the cache from nothing. -/
def checkAssetId (data : AVMetaData) : MigrateAVSessionServer × Bool :=
  if data.val .assetId ≠ s.metaDataCache.assetId then
    ({ s with
       metaDataCache := { MetaDataCache.reset with assetId := data.val .assetId }
       curAssetId := data.val .assetId }, true)
  else (s, false)

/-- The title, if the object has one. -/
def checkTitle (needRefresh : Bool) (data : AVMetaData) : MigrateAVSessionServer × Bool :=
  if data.mask .title = true ∧ data.val .title ≠ s.metaDataCache.title then
    ({ s with metaDataCache := { s.metaDataCache with title := data.val .title } }, true)
  else (s, needRefresh)

/-- The artist, or the subtitle of an object that has no artist. -/
def checkArtist (needRefresh : Bool) (data : AVMetaData) : MigrateAVSessionServer × Bool :=
  if data.mask .artist = true ∧ data.val .artist ≠ s.metaDataCache.artist then
    ({ s with metaDataCache := { s.metaDataCache with artist := data.val .artist } }, true)
  else if data.mask .subTitle = true ∧ data.val .subTitle ≠ s.metaDataCache.artist then
    if data.mask .artist = true then (s, needRefresh)
    else ({ s with metaDataCache := { s.metaDataCache with artist := data.val .subTitle } }, true)
  else (s, needRefresh)

/-- Source: migrate_avsession_server_for_next.cpp, `MigrateAVSessionServer::CheckPostMetaData` -/
def checkPostMetaData (data : AVMetaData) : MigrateAVSessionServer × Bool :=
  if !s.isNeedByRemote then (s, false)
  else
    let asset := s.checkAssetId data
    let title := asset.1.checkTitle asset.2 data
    title.1.checkArtist title.2 data

/-- The texts are written as `c_str()`. Source: migrate_avsession_server_for_next.cpp,
`MigrateAVSessionServer::DoMetaDataSyncToRemote` -/
def doMetaDataSyncToRemote (data : AVMetaData) : MigrateAVSessionServer :=
  let r := s.checkPostMetaData data
  if !r.2 then r.1
  else r.1.postMessage (.syncFocusMetaInfo (cStr r.1.metaDataCache.title)
    (cStr r.1.metaDataCache.artist) (cStr r.1.metaDataCache.assetId))

/-- Source: migrate_avsession_constant.h -/
def MSG_HEAD_LENGTH : ℕ := 2

/-- Source: migrate_avsession_server.h -/
def DEFAULT_QUALITY : ℕ := 100

/-- The sum of two bytes in the middle stands for the image. -/
def mediaImgTopicNum (imgBuffer : List UInt8) : ℕ :=
  (imgBuffer.getD (imgBuffer.length / MSG_HEAD_LENGTH) 0).toNat +
    (imgBuffer.getD (imgBuffer.length / MSG_HEAD_LENGTH + 1) 0).toNat

/-- What is kept of the image that was sent last. -/
def mediaImgTopic (imgBuffer : List UInt8) : String :=
  s.curAssetId ++ toString (mediaImgTopicNum imgBuffer)

/-- Source: migrate_avsession_server_for_next.cpp, `MigrateAVSessionServer::CheckPostMediaImage` -/
def checkPostMediaImage (imgBuffer : List UInt8) : MigrateAVSessionServer × Bool :=
  if !s.isNeedByRemote || imgBuffer.length ≤ DEFAULT_QUALITY ||
      s.mediaImgTopicStr == s.mediaImgTopic imgBuffer then (s, false)
  else ({ s with mediaImgTopicStr := s.mediaImgTopic imgBuffer }, true)

/-- `minSize` is the conversion to a small image, which may fail.
Source: migrate_avsession_server_for_next.cpp, `MigrateAVSessionServer::DoMediaImageSyncToRemote` -/
def doMediaImageSyncToRemote (minSize : List UInt8 → Option (List UInt8)) (imgBuffer : List UInt8) :
    MigrateAVSessionServer :=
  let r := s.checkPostMediaImage imgBuffer
  if !r.2 then r.1
  else
    match minSize imgBuffer with
    | none => r.1
    | some imgBufferMin => r.1.postMessage (.syncFocusMediaImage r.1.curAssetId imgBufferMin)

/-- Source: migrate_avsession_server_for_next.cpp,
`MigrateAVSessionServer::HandleFocusMetaDataChange` -/
def handleFocusMetaDataChange (minSize : List UInt8 → Option (List UInt8)) (data : AVMetaData) :
    MigrateAVSessionServer :=
  match data.val .mediaImage with
  | none => s.doMetaDataSyncToRemote data
  | some imgBuffer => (s.doMetaDataSyncToRemote data).doMediaImageSyncToRemote minSize imgBuffer

/-- The state, if the object has one. -/
def checkState (state : AVPlaybackState ω) : MigrateAVSessionServer × Bool :=
  if state.mask .state = true ∧ state.val .state ≠ s.playbackStateCache.state then
    ({ s with playbackStateCache := { s.playbackStateCache with state := state.val .state } }, true)
  else (s, false)

/-- The favourite flag, if the object has one. -/
def checkFavorite (needRefresh : Bool) (state : AVPlaybackState ω) :
    MigrateAVSessionServer × Bool :=
  if state.mask .isFavorite = true ∧ state.val .isFavorite ≠ s.playbackStateCache.favorite then
    ({ s with
       playbackStateCache :=
         { s.playbackStateCache with favorite := state.val .isFavorite } }, true)
  else (s, needRefresh)

/-- Source: migrate_avsession_server_for_next.cpp,
`MigrateAVSessionServer::CheckPostPlaybackState` -/
def checkPostPlaybackState (state : AVPlaybackState ω) : MigrateAVSessionServer × Bool :=
  if !s.isNeedByRemote then (s, false)
  else
    let r := s.checkState state
    r.1.checkFavorite r.2 state

/-- Source: migrate_avsession_server_for_next.cpp,
`MigrateAVSessionServer::DoPlaybackStateSyncToRemote` -/
def doPlaybackStateSyncToRemote (state : AVPlaybackState ω) : MigrateAVSessionServer :=
  let r := s.checkPostPlaybackState state
  if !r.2 then r.1
  else r.1.postMessage (.syncFocusPlayState r.1.playbackStateCache.state
    r.1.playbackStateCache.favorite)

/-- Source: migrate_avsession_server_for_next.cpp,
`MigrateAVSessionServer::CheckPostValidCommands` -/
def checkPostValidCommands (commands : List ℤ) : MigrateAVSessionServer × Bool :=
  if !s.isNeedByRemote || commands == s.validCommands then (s, false)
  else ({ s with validCommands := commands }, true)

/-- `static_cast<char>(cmd + '0')`, command by command. -/
def commandsStr (commands : List ℤ) : List UInt8 :=
  commands.map fun cmd => UInt8.ofInt (cmd + 48)

/-- Source: migrate_avsession_server_for_next.cpp,
`MigrateAVSessionServer::DoValidCommandsSyncToRemote` -/
def doValidCommandsSyncToRemote (commands : List ℤ) : MigrateAVSessionServer :=
  let r := s.checkPostValidCommands commands
  if !r.2 then r.1
  else r.1.postMessage (.syncFocusValidCommands (commandsStr commands))

/-- Source: migrate_avsession_server_for_next.cpp, `MigrateAVSessionServer::CheckPostBundleInfo` -/
def checkPostBundleInfo (bundleName abilityName : String) : MigrateAVSessionServer × Bool :=
  if !s.isNeedByRemote || (s.curBundleName == bundleName && s.curAbilityName == abilityName) then
    (s, false)
  else ({ s with curBundleName := bundleName, curAbilityName := abilityName }, true)

/-- Source: migrate_avsession_server_for_next.cpp,
`MigrateAVSessionServer::DoBundleInfoSyncToRemote` -/
def doBundleInfoSyncToRemote (focus : FocusSession ω) : MigrateAVSessionServer :=
  let r := s.checkPostBundleInfo focus.bundleName focus.abilityName
  if !r.2 then r.1
  else
    match focus.bundleIcon with
    | none => r.1
    | some imgBufferMin => r.1.postMessage (.syncFocusBundleImg imgBufferMin)

/-- The metadata of the controller, if it gives any. -/
def syncMetaData (minSize : List UInt8 → Option (List UInt8)) :
    Option AVMetaData → MigrateAVSessionServer
  | none => s
  | some metaData => s.handleFocusMetaDataChange minSize metaData

/-- The playback state of the controller, if it gives one. -/
def syncPlaybackState : Option (AVPlaybackState ω) → MigrateAVSessionServer
  | none => s
  | some playbackState => s.doPlaybackStateSyncToRemote playbackState

/-- Source: migrate_avsession_server_for_next.cpp,
`MigrateAVSessionServer::UpdateFrontSessionInfoToRemote` -/
def updateFrontSessionInfoToRemote (minSize : List UInt8 → Option (List UInt8)) (c : ControllerRef)
    (focus : FocusSession ω) : MigrateAVSessionServer :=
  ((((s.updateSessionInfoToRemote c focus).syncMetaData minSize focus.metaData).syncPlaybackState
    focus.playbackState).doValidCommandsSyncToRemote focus.validCommands).doBundleInfoSyncToRemote
      focus

end media

/-! ## The calls of the service -/

section calls

/-- The session id is not empty where the service calls it, but may be from within the server.
Source: migrate_avsession_server_for_next.cpp,
`MigrateAVSessionServer::LocalFrontSessionArrive` -/
def localFrontSessionArrive (sessionId : String) : MigrateAVSessionServer :=
  if sessionId = "" then s
  else
    let s := if s.lastSessionId ≠ sessionId then s.checkPostClean true else s
    { s with lastSessionId := sessionId }.migratePostTask (.front (.arrive sessionId))

/-- The task of `LocalFrontSessionArrive`. -/
def arriveTask (minSize : List UInt8 → Option (List UInt8)) (sessionId : String) (created : Bool)
    (focus : FocusSession ω) : MigrateAVSessionServer :=
  let s := (s.createController sessionId created).plantNull sessionId
  match s.controllerAt sessionId with
  | none => s
  | some c =>
      let s := { s with lastSessionId := sessionId }
      if s.isSoftbusConnecting then s.updateFrontSessionInfoToRemote minSize c focus else s

/-- The controller of the last session is unregistered, and forgotten.
Source: migrate_avsession_server_for_next.cpp,
`MigrateAVSessionServer::LocalFrontSessionChange` -/
def localFrontSessionChange (sessionId : String) : MigrateAVSessionServer :=
  let last := s.lastSessionId
  let s := s.plantNull last
  let s := (s.unregisterAVControllerCallback (s.controllerAt last)).clearCacheBySessionId last
  { s with lastSessionId := "" }.localFrontSessionArrive sessionId

/-- Source: migrate_avsession_server_for_next.cpp,
`MigrateAVSessionServer::LocalFrontSessionLeave` -/
def localFrontSessionLeave (sessionId : String) : MigrateAVSessionServer :=
  { s with lastSessionId := "" }.migratePostTask (.front (.leave sessionId))

/-- The task of `LocalFrontSessionLeave`: what is unregistered is the controller of
`lastSessionId_`, not that of the session that left. -/
def leaveTask (sessionId : String) : MigrateAVSessionServer :=
  let s := s.plantNull s.lastSessionId
  let s := s.unregisterAVControllerCallback (s.controllerAt s.lastSessionId)
  let s := (s.clearCacheBySessionId sessionId).updateEmptyInfoToRemote
  { s with lastSessionId := "" }

/-- The next task of the queue runs. -/
def runTask (minSize : List UInt8 → Option (List UInt8)) (created : Bool)
    (focus : FocusSession ω) : MigrateAVSessionServer :=
  match s.tasks with
  | [] => s
  | .front (.arrive sessionId) :: tasks =>
      { s with tasks }.arriveTask minSize sessionId created focus
  | .front (.leave sessionId) :: tasks => { s with tasks }.leaveTask sessionId
  | .send msg :: tasks => { s with tasks, sent := s.sent ++ [msg] }

end calls

/-! ## Whether the remote needs the messages -/

section need

/-- Source: migrate_avsession_constant.h -/
def AVSESSION_PROXY_VERSION : ℤ := 200

/-- The message that waited is posted. -/
def postPending : MigrateAVSessionServer :=
  match s.pendingSessionInfo with
  | none => s
  | some msg =>
      { s with pendingSessionInfo := none, sessionIdCache := s.preSessionId }.postMessage msg

/-- Source: migrate_avsession_server_for_next.cpp,
`MigrateAVSessionServer::ProcessMediaControlTimerRequest` -/
def processMediaControlTimerRequest (version : ℤ) : MigrateAVSessionServer :=
  if version ≠ AVSESSION_PROXY_VERSION then s
  else
    let s :=
      if s.isNeedByRemote then s
      else
        let s := { s with isNeedByRemote := true }.postPending
        s.localFrontSessionArrive s.lastSessionId
    { s with needStateTimer := true }

/-- A request of the remote is for another version, or it starts the timer; where the remote did not
need the messages, what waited is posted and the front session arrives once more. -/
theorem processMediaControlTimerRequest_cases (version : ℤ) :
    s.processMediaControlTimerRequest version = s ∨
      (s.isNeedByRemote = true ∧
        s.processMediaControlTimerRequest version = { s with needStateTimer := true }) ∨
      s.processMediaControlTimerRequest version =
        { { s with isNeedByRemote := true }.postPending.localFrontSessionArrive
            { s with isNeedByRemote := true }.postPending.lastSessionId with
          needStateTimer := true } := by
  unfold processMediaControlTimerRequest
  by_cases hversion : version ≠ AVSESSION_PROXY_VERSION
  · rw [if_pos hversion]
    exact Or.inl rfl
  · rw [if_neg hversion]
    by_cases hneed : s.isNeedByRemote = true
    · rw [if_pos hneed]
      exact Or.inr (Or.inl ⟨hneed, rfl⟩)
    · rw [if_neg hneed]
      exact Or.inr (Or.inr rfl)

/-- The members of the message of the remote: the version, and the need state.
Source: migrate_avsession_server_for_next.cpp,
`MigrateAVSessionServer::ProcessMediaControlNeedStateFromNext` -/
def processMediaControlNeedState (version : Option ℤ) (needState : Option Bool) :
    MigrateAVSessionServer :=
  match version, needState with
  | some version, _ => s.processMediaControlTimerRequest version
  | none, some true =>
      if s.isNeedByRemote then s
      else { s with isNeedByRemote := true }.localFrontSessionArrive s.lastSessionId
  | none, some false => { s with isNeedByRemote := false }
  | none, none => s

/-- The timer expires, if it was started.
Source: migrate_avsession_server_for_next.cpp, `MigrateAVSessionServer::HandleNeedStateTimer` -/
def handleNeedStateTimer : MigrateAVSessionServer :=
  if s.needStateTimer then { s with isNeedByRemote := false, needStateTimer := false } else s

end need

end MigrateAVSessionServer

/-! ## The service and the server -/

section service

/-- The service and its server, with the last attempt to create a controller for each session. -/
structure MigrateState where
  server : MigrateAVSessionServer
  localFrontSessionId : String
  attempts : String → Option Bool

/-- The link has come up, and no session is at the front. -/
def MigrateState.init : MigrateState where
  server := .init
  localFrontSessionId := ""
  attempts := fun _ => none

namespace MigrateState

variable (s : MigrateState)

/-- Source: avsession_service_ext.cpp,
`AVSessionService::NotifyLocalFrontSessionChangeForMigrate` -/
def notifyLocalFrontSessionChangeForMigrate (localFrontSessionIdUpdate : String) : MigrateState :=
  { s with
    server :=
      if s.localFrontSessionId = "" ∧ localFrontSessionIdUpdate ≠ "" then
        s.server.localFrontSessionArrive localFrontSessionIdUpdate
      else if s.localFrontSessionId ≠ "" ∧ localFrontSessionIdUpdate ≠ "" ∧
          s.localFrontSessionId ≠ localFrontSessionIdUpdate then
        s.server.localFrontSessionChange localFrontSessionIdUpdate
      else if s.localFrontSessionId ≠ "" ∧ localFrontSessionIdUpdate = "" then
        s.server.localFrontSessionLeave s.localFrontSessionId
      else s.server
    localFrontSessionId := localFrontSessionIdUpdate }

/-- `CreateControllerInner` is asked by an arriving session without an observer. -/
def attemptsAfter (created : Bool) : String → Option Bool :=
  match s.server.tasks with
  | .front (.arrive sessionId) :: _ =>
      if (s.server.playerIdToControllerCallbackMap sessionId).isSome then s.attempts
      else Function.update s.attempts sessionId (some created)
  | _ => s.attempts

end MigrateState

/-- What can happen. -/
inductive MigrateOp (ω : Type)
  | notifyLocalFrontSessionChangeForMigrate (localFrontSessionIdUpdate : String)
  | processMediaControlNeedState (version : Option ℤ) (needState : Option Bool)
  | handleNeedStateTimer
  | runTask (created : Bool) (focus : FocusSession ω)

/-- One step. -/
def MigrateOp.step (minSize : List UInt8 → Option (List UInt8)) (s : MigrateState) :
    MigrateOp ω → MigrateState
  | notifyLocalFrontSessionChangeForMigrate localFrontSessionIdUpdate =>
      s.notifyLocalFrontSessionChangeForMigrate localFrontSessionIdUpdate
  | processMediaControlNeedState version needState =>
      { s with server := s.server.processMediaControlNeedState version needState }
  | handleNeedStateTimer => { s with server := s.server.handleNeedStateTimer }
  | runTask created focus =>
      { s with
        server := s.server.runTask minSize created focus
        attempts := s.attemptsAfter created }

end service

end AvSession.Migrate
