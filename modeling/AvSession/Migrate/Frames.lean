import AvSession.Migrate.Server

/-!
# What the messages leave alone

The messages about the media touch their caches and post tasks under their own names. Everything
else of the server stays as it is, and so do the front task that is pending and the last message
about the session.

* `pendingFront`, `lastInfo` — what is pending on `LocalFrontSessionChange`, and the session that
  the last message, sent or waiting, names.
* `OnlyMessages` — the frame of every function that makes a message.
* `OnlyMedia` — the frame of those about the media, which leave that message alone.
* `Posted` — what is left when a front task was posted.
* `FrontInv` — which front task may be pending, next to the session at the front.
-/

namespace AvSession.Migrate.MigrateAVSessionServer

open AvSession.Lib AvSession.Meta

variable {ω : Type} {s s' s'' : MigrateAVSessionServer}

/-! ## What is pending -/

section pending

/-- The tasks that are pending on `LocalFrontSessionChange`. -/
def pendingFront (s : MigrateAVSessionServer) : List FrontTask := s.tasks.filterMap Task.front?

/-- The session that a message about the session names. -/
def info? : Message → Option String
  | .syncFocusSessionInfo sessionId _ => some sessionId
  | _ => none

/-- The session that the last message about the session names, of those sent and those waiting. -/
def lastInfo (s : MigrateAVSessionServer) : Option String :=
  TaskQueue.lastPosted Task.message? info? s.sent s.tasks

/-- The name of a front task is not that of a message. -/
theorem name_of_front {t : Task} (h : t.front? ≠ none) : t.name = .localFrontSessionChange := by
  cases t with
  | front t => rfl
  | send msg => exact absurd rfl h

/-- No message has the name of the front tasks. -/
theorem name_ne_front (msg : Message) : msg.name ≠ .localFrontSessionChange := by
  cases msg <;> simp [Message.name]

/-- A message about the session has the name of these messages. -/
theorem name_of_info {t : Task} (h : t.message?.bind info? ≠ none) :
    t.name = .syncFocusSessionInfo := by
  cases t with
  | front t => exact absurd rfl h
  | send msg =>
      cases msg with
      | syncFocusSessionInfo => rfl
      | _ => exact absurd rfl h

variable (hconnected : s.isSoftbusConnecting = true)

include hconnected

/-- A connected server posts the task by its name. -/
theorem tasks_migratePostTask (t : Task) :
    (s.migratePostTask t).tasks = TaskQueue.post Task.name s.tasks t := by
  unfold migratePostTask
  rw [hconnected]
  rfl

/-- A front task takes the place of the one that is pending. -/
theorem pendingFront_post_front (t : FrontTask) :
    (s.migratePostTask (.front t)).pendingFront = [t] := by
  unfold pendingFront
  rw [tasks_migratePostTask hconnected]
  exact TaskQueue.filterMap_post_self rfl fun _ _ ht' => name_of_front ht'

/-- A front task is no message about the session. -/
theorem lastInfo_post_front (t : FrontTask) :
    (s.migratePostTask (.front t)).lastInfo = s.lastInfo := by
  unfold lastInfo
  rw [tasks_migratePostTask hconnected]
  have hsent : (s.migratePostTask (.front t)).sent = s.sent := by
    unfold migratePostTask
    split_ifs <;> rfl
  rw [hsent]
  refine TaskQueue.lastPosted_post_other rfl fun t' ht' => ?_
  rw [name_of_info ht']
  simp [Task.name]

/-- A message about the session is posted. -/
theorem lastInfo_postMessage {msg : Message} {sessionId : String}
    (hinfo : info? msg = some sessionId) : (s.postMessage msg).lastInfo = some sessionId := by
  unfold lastInfo postMessage
  rw [tasks_migratePostTask hconnected]
  exact TaskQueue.lastPosted_post_self rfl hinfo

end pending

/-! ## Making messages -/

section messages

/-- Nothing has changed but caches and waiting messages. -/
structure OnlyMessages (s s' : MigrateAVSessionServer) : Prop where
  controllerMap : s'.playerIdToControllerMap = s.playerIdToControllerMap
  callbackMap : s'.playerIdToControllerCallbackMap = s.playerIdToControllerCallbackMap
  innerCallback : s'.innerCallback = s.innerCallback
  lastSessionId : s'.lastSessionId = s.lastSessionId
  connecting : s'.isSoftbusConnecting = s.isSoftbusConnecting
  need : s'.isNeedByRemote = s.isNeedByRemote
  timer : s'.needStateTimer = s.needStateTimer
  sent : s'.sent = s.sent
  front : s'.pendingFront = s.pendingFront

namespace OnlyMessages

/-- Nothing has changed. -/
theorem refl (s : MigrateAVSessionServer) : OnlyMessages s s :=
  ⟨rfl, rfl, rfl, rfl, rfl, rfl, rfl, rfl, rfl⟩

/-- Two steps that post only messages. -/
theorem trans (h : OnlyMessages s s') (h' : OnlyMessages s' s'') : OnlyMessages s s'' where
  controllerMap := h'.controllerMap.trans h.controllerMap
  callbackMap := h'.callbackMap.trans h.callbackMap
  innerCallback := h'.innerCallback.trans h.innerCallback
  lastSessionId := h'.lastSessionId.trans h.lastSessionId
  connecting := h'.connecting.trans h.connecting
  need := h'.need.trans h.need
  timer := h'.timer.trans h.timer
  sent := h'.sent.trans h.sent
  front := h'.front.trans h.front

/-- A message is posted. -/
theorem postMessage (s : MigrateAVSessionServer) (msg : Message) :
    OnlyMessages s (s.postMessage msg) := by
  unfold MigrateAVSessionServer.postMessage migratePostTask
  split_ifs
  · exact refl s
  · refine ⟨rfl, rfl, rfl, rfl, rfl, rfl, rfl, rfl, ?_⟩
    refine TaskQueue.filterMap_post_other rfl fun t' _ ht' => ?_
    rw [name_of_front ht']
    exact (name_ne_front msg).symm

end OnlyMessages

/-- A message leaves the session that was told. -/
theorem preSessionId_postMessage (s : MigrateAVSessionServer) (msg : Message) :
    (s.postMessage msg).preSessionId = s.preSessionId := by
  unfold postMessage migratePostTask
  split_ifs <;> rfl

/-- It leaves what waits about the session. -/
theorem pendingSessionInfo_postMessage (s : MigrateAVSessionServer) (msg : Message) :
    (s.postMessage msg).pendingSessionInfo = s.pendingSessionInfo := by
  unfold postMessage migratePostTask
  split_ifs <;> rfl

/-- What waited is told about the session that was told. -/
theorem preSessionId_postPending (s : MigrateAVSessionServer) :
    s.postPending.preSessionId = s.preSessionId := by
  unfold postPending
  cases s.pendingSessionInfo with
  | none => rfl
  | some msg => exact preSessionId_postMessage _ msg

/-- Whether the session may be told of at once. -/
def Synced (s : MigrateAVSessionServer) (sessionId : String) : Prop :=
  s.isNeedByRemote = true ∨ (s.sessionIdCache = "" ∧ sessionId ≠ "")

section sessionInfo

variable {sessionId : String} (msg : Message)

/-- The same session is not told twice. -/
theorem updateSessionInfo_of_repeated (h : s.preSessionId = sessionId) :
    s.updateSessionInfo sessionId msg = s := by
  unfold updateSessionInfo checkPostSessionInfo
  rw [if_pos h]
  rfl

/-- A session that the remote knows is told at once. -/
theorem updateSessionInfo_of_synced (h : s.preSessionId ≠ sessionId) (hsync : s.Synced sessionId) :
    s.updateSessionInfo sessionId msg =
      { s with
        preSessionId := sessionId
        sessionIdCache := sessionId
        pendingSessionInfo := none }.postMessage msg := by
  unfold updateSessionInfo checkPostSessionInfo
  rw [if_neg h]
  have hcheck : ¬ ((!s.isNeedByRemote && (s.sessionIdCache != "" || sessionId == "")) = true) := by
    rcases hsync with hneed | ⟨hcache, hid⟩
    · simp [hneed]
    · simp [hcache, hid]
  show (checkSyncSessionInfo
    { s with preSessionId := sessionId } sessionId).1.sendOrCacheSessionInfo
      (checkSyncSessionInfo { s with preSessionId := sessionId } sessionId).2 msg = _
  unfold checkSyncSessionInfo
  rw [if_neg hcheck]
  rfl

/-- The others wait. -/
theorem updateSessionInfo_of_cached (h : s.preSessionId ≠ sessionId)
    (hsync : ¬ s.Synced sessionId) :
    s.updateSessionInfo sessionId msg =
      { s with preSessionId := sessionId, pendingSessionInfo := some msg } := by
  unfold updateSessionInfo checkPostSessionInfo
  rw [if_neg h]
  have hcheck : (!s.isNeedByRemote && (s.sessionIdCache != "" || sessionId == "")) = true := by
    unfold Synced at hsync
    rw [not_or, not_and_or, not_not] at hsync
    rcases hsync with ⟨hneed, hcache | hid⟩
    · simp [hneed, hcache]
    · simp [hneed, hid]
  show (checkSyncSessionInfo
    { s with preSessionId := sessionId } sessionId).1.sendOrCacheSessionInfo
      (checkSyncSessionInfo { s with preSessionId := sessionId } sessionId).2 msg = _
  unfold checkSyncSessionInfo
  rw [if_pos hcheck]
  rfl

/-- Telling the session posts only messages. -/
theorem onlyMessages_updateSessionInfo (s : MigrateAVSessionServer) (sessionId : String)
    (msg : Message) : OnlyMessages s (s.updateSessionInfo sessionId msg) := by
  by_cases hrepeated : s.preSessionId = sessionId
  · rw [updateSessionInfo_of_repeated msg hrepeated]
    exact .refl s
  · by_cases hsync : s.Synced sessionId
    · rw [updateSessionInfo_of_synced msg hrepeated hsync]
      refine OnlyMessages.trans ?_ (.postMessage _ msg)
      exact ⟨rfl, rfl, rfl, rfl, rfl, rfl, rfl, rfl, rfl⟩
    · rw [updateSessionInfo_of_cached msg hrepeated hsync]
      exact ⟨rfl, rfl, rfl, rfl, rfl, rfl, rfl, rfl, rfl⟩

/-- So does telling that there is none. -/
theorem onlyMessages_updateEmptyInfoToRemote (s : MigrateAVSessionServer) :
    OnlyMessages s s.updateEmptyInfoToRemote :=
  onlyMessages_updateSessionInfo s "" _

end sessionInfo

/-- So does telling what waited. -/
theorem onlyMessages_postPending (s : MigrateAVSessionServer) : OnlyMessages s s.postPending := by
  unfold postPending
  cases s.pendingSessionInfo with
  | none => exact .refl s
  | some msg =>
      refine OnlyMessages.trans ?_ (.postMessage _ msg)
      exact ⟨rfl, rfl, rfl, rfl, rfl, rfl, rfl, rfl, rfl⟩

end messages

/-! ## The functions about the media -/

section media

/-- Nothing has changed but the caches about the media and the tasks that send them. -/
structure OnlyMedia (s s' : MigrateAVSessionServer) : Prop extends OnlyMessages s s' where
  preSessionId : s'.preSessionId = s.preSessionId
  sessionIdCache : s'.sessionIdCache = s.sessionIdCache
  pendingSessionInfo : s'.pendingSessionInfo = s.pendingSessionInfo
  info : s'.lastInfo = s.lastInfo

namespace OnlyMedia

/-- Nothing has changed. -/
theorem refl (s : MigrateAVSessionServer) : OnlyMedia s s := ⟨.refl s, rfl, rfl, rfl, rfl⟩

/-- Two steps about the media. -/
theorem trans (h : OnlyMedia s s') (h' : OnlyMedia s' s'') : OnlyMedia s s'' where
  toOnlyMessages := h.toOnlyMessages.trans h'.toOnlyMessages
  preSessionId := h'.preSessionId.trans h.preSessionId
  sessionIdCache := h'.sessionIdCache.trans h.sessionIdCache
  pendingSessionInfo := h'.pendingSessionInfo.trans h.pendingSessionInfo
  info := h'.info.trans h.info

/-- A message about the media is posted. -/
theorem postMessage (s : MigrateAVSessionServer) {msg : Message} (hinfo : info? msg = none) :
    OnlyMedia s (s.postMessage msg) := by
  refine ⟨.postMessage s msg, ?_, ?_, ?_, ?_⟩ <;>
    unfold MigrateAVSessionServer.postMessage migratePostTask <;> split_ifs
  any_goals rfl
  refine TaskQueue.lastPosted_post_other hinfo fun t' ht' => ?_
  rw [name_of_info ht']
  cases msg with
  | syncFocusSessionInfo => cases hinfo
  | _ => simp [Task.name, Message.name]

end OnlyMedia

variable (s) (data : AVMetaData) (state : AVPlaybackState ω) (focus : FocusSession ω)
  (minSize : List UInt8 → Option (List UInt8))

/-- The caches are cleaned. -/
theorem onlyMedia_checkPostClean : OnlyMedia s (s.checkPostClean true) :=
  ⟨⟨rfl, rfl, rfl, rfl, rfl, rfl, rfl, rfl, rfl⟩, rfl, rfl, rfl, rfl⟩

/-- The texts of an object are taken. -/
theorem onlyMedia_checkPostMetaData : OnlyMedia s (s.checkPostMetaData data).1 := by
  unfold checkPostMetaData checkArtist checkTitle checkAssetId
  dsimp only
  split_ifs <;> exact ⟨⟨rfl, rfl, rfl, rfl, rfl, rfl, rfl, rfl, rfl⟩, rfl, rfl, rfl, rfl⟩

/-- The texts are told. -/
theorem onlyMedia_doMetaDataSyncToRemote : OnlyMedia s (s.doMetaDataSyncToRemote data) := by
  unfold doMetaDataSyncToRemote
  dsimp only
  split_ifs
  · exact onlyMedia_checkPostMetaData s data
  · exact (onlyMedia_checkPostMetaData s data).trans (.postMessage _ rfl)

/-- The image is told. -/
theorem onlyMedia_doMediaImageSyncToRemote (imgBuffer : List UInt8) :
    OnlyMedia s (s.doMediaImageSyncToRemote minSize imgBuffer) := by
  have hcheck : OnlyMedia s (s.checkPostMediaImage imgBuffer).1 := by
    unfold checkPostMediaImage
    split_ifs <;> exact ⟨⟨rfl, rfl, rfl, rfl, rfl, rfl, rfl, rfl, rfl⟩, rfl, rfl, rfl, rfl⟩
  unfold doMediaImageSyncToRemote
  dsimp only
  split_ifs
  · exact hcheck
  · cases minSize imgBuffer with
    | none => exact hcheck
    | some imgBufferMin => exact hcheck.trans (.postMessage _ rfl)

/-- An object is told. -/
theorem onlyMedia_handleFocusMetaDataChange :
    OnlyMedia s (s.handleFocusMetaDataChange minSize data) := by
  unfold handleFocusMetaDataChange
  have hmeta := onlyMedia_doMetaDataSyncToRemote s data
  cases data.val .mediaImage with
  | none => exact hmeta
  | some imgBuffer => exact hmeta.trans (onlyMedia_doMediaImageSyncToRemote _ minSize imgBuffer)

/-- The playback is told. -/
theorem onlyMedia_doPlaybackStateSyncToRemote :
    OnlyMedia s (s.doPlaybackStateSyncToRemote state) := by
  have hcheck : OnlyMedia s (s.checkPostPlaybackState state).1 := by
    unfold checkPostPlaybackState checkFavorite checkState
    dsimp only
    split_ifs <;> exact ⟨⟨rfl, rfl, rfl, rfl, rfl, rfl, rfl, rfl, rfl⟩, rfl, rfl, rfl, rfl⟩
  unfold doPlaybackStateSyncToRemote
  dsimp only
  split_ifs
  · exact hcheck
  · exact hcheck.trans (.postMessage _ rfl)

/-- The commands are told. -/
theorem onlyMedia_doValidCommandsSyncToRemote (commands : List ℤ) :
    OnlyMedia s (s.doValidCommandsSyncToRemote commands) := by
  have hcheck : OnlyMedia s (s.checkPostValidCommands commands).1 := by
    unfold checkPostValidCommands
    split_ifs <;> exact ⟨⟨rfl, rfl, rfl, rfl, rfl, rfl, rfl, rfl, rfl⟩, rfl, rfl, rfl, rfl⟩
  unfold doValidCommandsSyncToRemote
  dsimp only
  split_ifs
  · exact hcheck
  · exact hcheck.trans (.postMessage _ rfl)

/-- The bundle is told. -/
theorem onlyMedia_doBundleInfoSyncToRemote : OnlyMedia s (s.doBundleInfoSyncToRemote focus) := by
  have hcheck : OnlyMedia s (s.checkPostBundleInfo focus.bundleName focus.abilityName).1 := by
    unfold checkPostBundleInfo
    split_ifs <;> exact ⟨⟨rfl, rfl, rfl, rfl, rfl, rfl, rfl, rfl, rfl⟩, rfl, rfl, rfl, rfl⟩
  unfold doBundleInfoSyncToRemote
  dsimp only
  split_ifs
  · exact hcheck
  · cases focus.bundleIcon with
    | none => exact hcheck
    | some imgBufferMin => exact hcheck.trans (.postMessage _ rfl)

/-- The metadata of the session at the front is told, if there is some. -/
theorem onlyMedia_syncMetaData (metaData : Option AVMetaData) :
    OnlyMedia s (s.syncMetaData minSize metaData) := by
  cases metaData with
  | none => exact .refl s
  | some metaData => exact onlyMedia_handleFocusMetaDataChange s metaData minSize

/-- So is its playback state. -/
theorem onlyMedia_syncPlaybackState (playbackState : Option (AVPlaybackState ω)) :
    OnlyMedia s (s.syncPlaybackState playbackState) := by
  cases playbackState with
  | none => exact .refl s
  | some playbackState => exact onlyMedia_doPlaybackStateSyncToRemote s playbackState

/-- Past the message about the session, an update is about the media. -/
theorem onlyMedia_updateFrontSessionInfoToRemote (c : ControllerRef) :
    OnlyMedia (s.updateSessionInfoToRemote c focus)
      (s.updateFrontSessionInfoToRemote minSize c focus) := by
  unfold updateFrontSessionInfoToRemote
  exact (onlyMedia_syncMetaData _ minSize _).trans ((onlyMedia_syncPlaybackState _ _).trans
    ((onlyMedia_doValidCommandsSyncToRemote _ _).trans (onlyMedia_doBundleInfoSyncToRemote _ _)))

/-- All of the session at the front is told, by messages only. -/
theorem onlyMessages_updateFrontSessionInfoToRemote (c : ControllerRef) :
    OnlyMessages s (s.updateFrontSessionInfoToRemote minSize c focus) :=
  (onlyMessages_updateSessionInfo s c _).trans
    (onlyMedia_updateFrontSessionInfoToRemote s focus minSize c).toOnlyMessages

end media

/-! ## The calls of the service -/

section calls

/-- A front task is pending, and another session may be the last one. -/
structure Posted (s s' : MigrateAVSessionServer) (t : FrontTask) (last : String) : Prop where
  controllerMap : s'.playerIdToControllerMap = s.playerIdToControllerMap
  callbackMap : s'.playerIdToControllerCallbackMap = s.playerIdToControllerCallbackMap
  innerCallback : s'.innerCallback = s.innerCallback
  lastSessionId : s'.lastSessionId = last
  connecting : s'.isSoftbusConnecting = true
  need : s'.isNeedByRemote = s.isNeedByRemote
  timer : s'.needStateTimer = s.needStateTimer
  preSessionId : s'.preSessionId = s.preSessionId
  sessionIdCache : s'.sessionIdCache = s.sessionIdCache
  pendingSessionInfo : s'.pendingSessionInfo = s.pendingSessionInfo
  sent : s'.sent = s.sent
  front : s'.pendingFront = [t]
  info : s'.lastInfo = s.lastInfo

/-- It does not matter which session was the last one before. -/
theorem Posted.of_lastSessionId {last : String} {t : FrontTask} (before : String)
    (h : Posted { s with lastSessionId := before } s' t last) : Posted s s' t last :=
  ⟨h.controllerMap, h.callbackMap, h.innerCallback, h.lastSessionId, h.connecting, h.need, h.timer,
    h.preSessionId, h.sessionIdCache, h.pendingSessionInfo, h.sent, h.front, h.info⟩

variable (hconnected : s.isSoftbusConnecting = true)

include hconnected

/-- A front task is posted. -/
theorem posted_migratePostTask (t : FrontTask) :
    Posted s (s.migratePostTask (.front t)) t s.lastSessionId := by
  have hfront := pendingFront_post_front hconnected t
  have hinfo := lastInfo_post_front hconnected t
  unfold migratePostTask at *
  rw [hconnected] at *
  exact ⟨rfl, rfl, rfl, rfl, hconnected, rfl, rfl, rfl, rfl, rfl, rfl, hfront, hinfo⟩

/-- The arrival of a session is posted. -/
theorem posted_localFrontSessionArrive {sessionId : String} (hid : sessionId ≠ "") :
    Posted s (s.localFrontSessionArrive sessionId) (.arrive sessionId) sessionId := by
  have hclean : OnlyMedia s (if s.lastSessionId ≠ sessionId then s.checkPostClean true else s) := by
    split_ifs
    · exact onlyMedia_checkPostClean s
    · exact .refl s
  unfold localFrontSessionArrive
  rw [if_neg hid]
  dsimp only
  generalize (if s.lastSessionId ≠ sessionId then s.checkPostClean true else s) = s₀ at *
  have hpost := posted_migratePostTask (s := { s₀ with lastSessionId := sessionId })
    (hclean.connecting.trans hconnected) (.arrive sessionId)
  exact ⟨hpost.controllerMap.trans hclean.controllerMap,
    hpost.callbackMap.trans hclean.callbackMap, hpost.innerCallback.trans hclean.innerCallback,
    hpost.lastSessionId, hpost.connecting, hpost.need.trans hclean.need,
    hpost.timer.trans hclean.timer, hpost.preSessionId.trans hclean.preSessionId,
    hpost.sessionIdCache.trans hclean.sessionIdCache,
    hpost.pendingSessionInfo.trans hclean.pendingSessionInfo, hpost.sent.trans hclean.sent,
    hpost.front, hpost.info.trans hclean.info⟩

/-- The leaving of a session is posted. -/
theorem posted_localFrontSessionLeave (sessionId : String) :
    Posted s (s.localFrontSessionLeave sessionId) (.leave sessionId) "" :=
  .of_lastSessionId "" (posted_migratePostTask (s := { s with lastSessionId := "" }) hconnected
    (.leave sessionId))

end calls

end AvSession.Migrate.MigrateAVSessionServer

/-! ## The session at the front -/

namespace AvSession.Migrate

open AvSession.Lib MigrateAVSessionServer

section front

/-- What is pending: the arrival of the front session, or that some session left. -/
def PendingAs (front : String) (l : List FrontTask) : Prop :=
  l = [] ∨ (front ≠ "" ∧ l = [.arrive front]) ∨ (front = "" ∧ ∃ x, l = [.leave x])

namespace PendingAs

variable {front x : String} {l : List FrontTask}

/-- A session that arrives is the one at the front, and nothing else is pending. -/
theorem of_arrive (h : PendingAs front (.arrive x :: l)) : x = front ∧ x ≠ "" ∧ l = [] := by
  rcases h with hnone | ⟨hfront, harrive⟩ | ⟨-, y, hleave⟩
  · cases hnone
  · injection harrive with hx hl
    injection hx with hx
    exact ⟨hx, hx ▸ hfront, hl⟩
  · cases hleave

/-- When a session leaves, none is at the front, and nothing else is pending. -/
theorem of_leave (h : PendingAs front (.leave x :: l)) : front = "" ∧ l = [] := by
  rcases h with hnone | ⟨-, harrive⟩ | ⟨hfront, y, hleave⟩
  · cases hnone
  · cases harrive
  · injection hleave with _ hl
    exact ⟨hfront, hl⟩

/-- While a session is at the front, no leaving is pending. -/
theorem not_leave_of_front (h : PendingAs front l) (hfront : front ≠ "") (x : String) :
    .leave x ∉ l := by
  rcases h with hnone | ⟨-, harrive⟩ | ⟨hempty, -⟩
  · rw [hnone]
    exact List.not_mem_nil
  · rw [harrive]
    simp
  · exact absurd hempty hfront

end PendingAs

/-- The server knows the session at the front, and what is pending is about it. -/
structure FrontInv (s : MigrateState) : Prop where
  connected : s.server.isSoftbusConnecting = true
  last : s.server.lastSessionId = s.localFrontSessionId
  pending : PendingAs s.localFrontSessionId s.server.pendingFront

/-- Without tasks, no front task is pending. -/
theorem pendingFront_of_tasks {s : MigrateAVSessionServer} (h : s.tasks = []) :
    s.pendingFront = [] := by
  unfold pendingFront
  rw [h]
  rfl

/-- A front task that is next is the first pending one. -/
theorem pendingFront_cons {s : MigrateAVSessionServer} {t : FrontTask} {tasks : List Task}
    (h : s.tasks = .front t :: tasks) :
    s.pendingFront = t :: MigrateAVSessionServer.pendingFront { s with tasks } := by
  unfold pendingFront
  rw [h]
  rfl

/-- A message that is next is none of the pending ones. -/
theorem pendingFront_send {s : MigrateAVSessionServer} {msg : Message} {tasks : List Task}
    (h : s.tasks = .send msg :: tasks) :
    s.pendingFront = MigrateAVSessionServer.pendingFront { s with tasks } := by
  unfold pendingFront
  rw [h]
  rfl

/-- A front task has nothing to say about the session. -/
theorem lastInfo_front {s : MigrateAVSessionServer} {t : FrontTask} {tasks : List Task}
    (h : s.tasks = .front t :: tasks) :
    MigrateAVSessionServer.lastInfo { s with tasks } = s.lastInfo := by
  unfold lastInfo
  rw [h]
  exact TaskQueue.lastPosted_drop rfl

/-- A message that was waiting is sent. -/
theorem lastInfo_send {s : MigrateAVSessionServer} {msg : Message} {tasks : List Task}
    (h : s.tasks = .send msg :: tasks) :
    MigrateAVSessionServer.lastInfo { s with tasks, sent := s.sent ++ [msg] } = s.lastInfo := by
  unfold lastInfo
  rw [h]
  exact TaskQueue.lastPosted_send rfl

/-- The arrival asks for a controller, unless there is one. -/
theorem attemptsAfter_arrive {s : MigrateState} {x : String} {tasks : List Task}
    (h : s.server.tasks = .front (.arrive x) :: tasks) (created : Bool) :
    s.attemptsAfter created =
      if (s.server.playerIdToControllerCallbackMap x).isSome then s.attempts
      else Function.update s.attempts x (some created) := by
  unfold MigrateState.attemptsAfter
  rw [h]

/-- What the service calls. -/
theorem notifyLocalFrontSessionChangeForMigrate_cases (s : MigrateState) (update : String) :
    (s.localFrontSessionId = update ∧ s.notifyLocalFrontSessionChangeForMigrate update = s) ∨
      (s.localFrontSessionId = "" ∧ update ≠ "" ∧
        s.notifyLocalFrontSessionChangeForMigrate update =
          { s with
            server := s.server.localFrontSessionArrive update, localFrontSessionId := update }) ∨
      (s.localFrontSessionId ≠ "" ∧ update ≠ "" ∧ s.localFrontSessionId ≠ update ∧
        s.notifyLocalFrontSessionChangeForMigrate update =
          { s with
            server := s.server.localFrontSessionChange update, localFrontSessionId := update }) ∨
      (s.localFrontSessionId ≠ "" ∧ update = "" ∧
        s.notifyLocalFrontSessionChangeForMigrate update =
          { s with
            server := s.server.localFrontSessionLeave s.localFrontSessionId
            localFrontSessionId := "" }) := by
  unfold MigrateState.notifyLocalFrontSessionChangeForMigrate
  by_cases hfront : s.localFrontSessionId = ""
  · by_cases hupdate : update = ""
    · refine Or.inl ⟨hfront.trans hupdate.symm, ?_⟩
      rw [if_neg fun hc => hc.2 hupdate, if_neg fun hc => hc.1 hfront,
        if_neg fun hc => hc.1 hfront, hupdate, ← hfront]
    · rw [if_pos ⟨hfront, hupdate⟩]
      exact Or.inr (Or.inl ⟨hfront, hupdate, rfl⟩)
  · rw [if_neg fun hc => hfront hc.1]
    by_cases hupdate : update = ""
    · rw [if_neg fun hc => hc.2.1 hupdate, if_pos ⟨hfront, hupdate⟩]
      exact Or.inr (Or.inr (Or.inr ⟨hfront, hupdate, by rw [hupdate]⟩))
    · by_cases hsame : s.localFrontSessionId = update
      · refine Or.inl ⟨hsame, ?_⟩
        rw [if_neg fun hc => hc.2.2 hsame, if_neg fun hc => hupdate hc.2, ← hsame]
      · rw [if_pos ⟨hfront, hupdate, hsame⟩]
        exact Or.inr (Or.inr (Or.inl ⟨hfront, hupdate, hsame, rfl⟩))

namespace FrontInv

variable {s : MigrateState} {server server' : MigrateAVSessionServer}

/-- A new server. -/
theorem init : FrontInv .init := ⟨rfl, rfl, Or.inl rfl⟩

/-- The front is untouched. -/
theorem congr (h : FrontInv s) (hlast : server'.lastSessionId = s.server.lastSessionId)
    (hconnected : server'.isSoftbusConnecting = s.server.isSoftbusConnecting)
    (hfront : server'.pendingFront = s.server.pendingFront) (attempts : String → Option Bool) :
    FrontInv { s with server := server', attempts } :=
  ⟨hconnected.trans h.connected, hlast.trans h.last, hfront ▸ h.pending⟩

/-- A front task was posted, and is the only one that counts. -/
theorem of_posted {t : FrontTask} {front : String} (hposted : Posted server server' t front)
    (hpending : PendingAs front [t]) :
    FrontInv { s with server := server', localFrontSessionId := front } :=
  ⟨hposted.connecting, hposted.lastSessionId, hposted.front ▸ hpending⟩

end FrontInv

end front

end AvSession.Migrate
