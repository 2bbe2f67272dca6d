import AvSession.Lib.Run
import AvSession.Migrate.MediaSession
import AvSession.Migrate.Observer

/-!
# The remote ends with the media of the session

While the remote needs the messages, each channel takes what the session delivers. After a pause,
the arrival of the session is posted, and the channels take what the controller gives.

* `Told` — the caches are what was transmitted last.
* `MediaAgrees` — when the remote needs the messages and nothing is pending, what was transmitted
  last is what the session shows.
* `MediaOk` — what the steps have to avoid: a favourite flag before a state, an object that leaves
  out a text which is not empty in the cache, an image that is taken for the one before.
* `MediaInv`, `media_always` — the invariant, and that the remote agrees all along a run.
-/

namespace AvSession.Migrate

open AvSession.Lib AvSession.Meta MigrateAVSessionServer

variable {ω : Type}

/-! ## The channels -/

section channels

namespace Media

/-- The caches are what was transmitted last, texts up to a NUL, and no placeholder was
transmitted. -/
structure Told (m : Media) : Prop where
  metaData : m.metaData.written = m.toldMetaData.getD .reset
  asset : m.curAssetId = m.metaData.assetId
  playback : m.playback = m.toldPlayback.getD ⟨-1, false⟩
  state : m.toldPlayback ≠ none → m.playback.state ≠ -1
  commands : m.toldCommands.getD [] = commandsStr m.commands

variable {m : Media} (minSize : List UInt8 → Option (List UInt8)) (data : AVMetaData)
  (state : AVPlaybackState ω) (commands : List ℤ) (imgBuffer : List UInt8)

/-! ### What a channel leaves alone -/

/-- The cache takes the object. -/
@[simp] theorem takeMetaData_metaData :
    (m.takeMetaData data).metaData = m.metaData.take data := by
  unfold takeMetaData
  by_cases hsame : m.metaData.take data = m.metaData
  · rw [if_pos hsame, hsame]
  · rw [if_neg hsame]

/-- Metadata leaves the playback cache. -/
@[simp] theorem takeMetaData_playback : (m.takeMetaData data).playback = m.playback := by
  unfold takeMetaData
  split_ifs <;> rfl

/-- Metadata leaves the commands. -/
@[simp] theorem takeMetaData_commands : (m.takeMetaData data).commands = m.commands := by
  unfold takeMetaData
  split_ifs <;> rfl

/-- Metadata leaves the topic of the image. -/
@[simp] theorem takeMetaData_imageTopic : (m.takeMetaData data).imageTopic = m.imageTopic := by
  unfold takeMetaData
  split_ifs <;> rfl

/-- Metadata leaves the image that was told. -/
@[simp] theorem takeMetaData_toldImage : (m.takeMetaData data).toldImage = m.toldImage := by
  unfold takeMetaData
  split_ifs <;> rfl

/-- An image leaves the metadata. -/
@[simp] theorem takeImage_metaData : (m.takeImage minSize imgBuffer).metaData = m.metaData := by
  unfold takeImage
  split_ifs <;> rfl

/-- An image leaves the playback cache. -/
@[simp] theorem takeImage_playback : (m.takeImage minSize imgBuffer).playback = m.playback := by
  unfold takeImage
  split_ifs <;> rfl

/-- An image leaves the commands. -/
@[simp] theorem takeImage_commands : (m.takeImage minSize imgBuffer).commands = m.commands := by
  unfold takeImage
  split_ifs <;> rfl

/-- The playback cache takes the state. -/
@[simp] theorem takePlaybackState_playback :
    (m.takePlaybackState state).playback = m.playback.take state := by
  unfold takePlaybackState
  split_ifs with hsame
  · exact hsame.symm
  · rfl

/-- Only what the cache takes of a state matters. -/
theorem takePlaybackState_congr {state state' : AVPlaybackState ω}
    (h : m.playback.take state = m.playback.take state') :
    m.takePlaybackState state = m.takePlaybackState state' := by
  unfold takePlaybackState
  rw [h]

/-- A state leaves the metadata. -/
@[simp] theorem takePlaybackState_metaData :
    (m.takePlaybackState state).metaData = m.metaData := by
  unfold takePlaybackState
  split_ifs <;> rfl

/-- A state leaves the commands. -/
@[simp] theorem takePlaybackState_commands :
    (m.takePlaybackState state).commands = m.commands := by
  unfold takePlaybackState
  split_ifs <;> rfl

/-- A state leaves the image that was told. -/
@[simp] theorem takePlaybackState_toldImage :
    (m.takePlaybackState state).toldImage = m.toldImage := by
  unfold takePlaybackState
  split_ifs <;> rfl

/-- The commands are the new ones. -/
@[simp] theorem takeCommands_commands : (m.takeCommands commands).commands = commands := by
  unfold takeCommands
  split_ifs with hsame
  · exact hsame.symm
  · rfl

/-- Commands leave the metadata. -/
@[simp] theorem takeCommands_metaData : (m.takeCommands commands).metaData = m.metaData := by
  unfold takeCommands
  split_ifs <;> rfl

/-- Commands leave the playback cache. -/
@[simp] theorem takeCommands_playback : (m.takeCommands commands).playback = m.playback := by
  unfold takeCommands
  split_ifs <;> rfl

/-- Commands leave the image that was told. -/
@[simp] theorem takeCommands_toldImage : (m.takeCommands commands).toldImage = m.toldImage := by
  unfold takeCommands
  split_ifs <;> rfl

/-- Of an object, the metadata cache takes the texts. -/
theorem takeObject_metaData : (m.takeObject minSize data).metaData = m.metaData.take data := by
  unfold takeObject
  cases data.val .mediaImage with
  | none => exact takeMetaData_metaData data
  | some imgBuffer => rw [takeImage_metaData, takeMetaData_metaData]

/-- An object leaves the playback cache. -/
theorem takeObject_playback : (m.takeObject minSize data).playback = m.playback := by
  unfold takeObject
  cases data.val .mediaImage with
  | none => exact takeMetaData_playback data
  | some imgBuffer => rw [takeImage_playback, takeMetaData_playback]

/-- An object leaves the commands. -/
theorem takeObject_commands : (m.takeObject minSize data).commands = m.commands := by
  unfold takeObject
  cases data.val .mediaImage with
  | none => exact takeMetaData_commands data
  | some imgBuffer => rw [takeImage_commands, takeMetaData_commands]

/-- An object without an image leaves the image alone. -/
theorem takeObject_toldImage (himage : data.val .mediaImage = none) :
    (m.takeObject minSize data).toldImage = m.toldImage := by
  unfold takeObject
  rw [himage]
  exact takeMetaData_toldImage data

/-! ### What was transmitted last -/

/-- What is told of metadata is what the cache has taken. -/
theorem Told.takeMetaData (h : Told m) : Told (m.takeMetaData data) := by
  unfold Media.takeMetaData
  split_ifs with hsame hasset
  · exact h
  · exact ⟨rfl, rfl, h.playback, h.state, h.commands⟩
  · exact ⟨rfl, h.asset.trans (not_not.mp hasset).symm, h.playback, h.state, h.commands⟩

/-- An image keeps the caches as they were told. -/
theorem Told.takeImage (h : Told m) : Told (m.takeImage minSize imgBuffer) := by
  unfold Media.takeImage
  split_ifs
  · exact h
  · exact ⟨h.metaData, h.asset, h.playback, h.state, h.commands⟩

/-- An object keeps them so, with or without an image. -/
theorem Told.takeObject (h : Told m) : Told (m.takeObject minSize data) := by
  unfold Media.takeObject
  cases data.val .mediaImage with
  | none => exact h.takeMetaData data
  | some imgBuffer => exact (h.takeMetaData data).takeImage minSize imgBuffer

/-- What is told of commands is what was taken. -/
theorem Told.takeCommands (h : Told m) : Told (m.takeCommands commands) := by
  unfold Media.takeCommands
  split_ifs
  · exact h
  · exact ⟨h.metaData, h.asset, h.playback, h.state, rfl⟩

/-- While no state is known, the favourite flag is left as it is. -/
def HasState (c : PlaybackStateCache) (state : AVPlaybackState ω) : Prop :=
  c.state = -1 → state.mask .state = false → state.mask .isFavorite = true →
    state.val .isFavorite = c.favorite

/-- Without a state, a favourite flag that is the same changes nothing. -/
theorem HasState.take_eq {c : PlaybackStateCache} {state : AVPlaybackState ω}
    (h : HasState c state) (hplaceholder : c.state = -1) (hmask : state.mask .state = false) :
    c.take state = c := by
  have hfavorite := h hplaceholder hmask
  unfold PlaybackStateCache.take
  rw [hmask, if_neg Bool.false_ne_true]
  refine PlaybackStateCache.ext rfl ?_
  dsimp only
  split_ifs with hset
  · exact hfavorite hset
  · rfl

/-- What is told of the playback is what was taken, and no placeholder. -/
theorem Told.takePlaybackState (h : Told m) {state : AVPlaybackState ω}
    (hvalid : 0 ≤ state.val .state) (hstate : HasState m.playback state) :
    Told (m.takePlaybackState state) := by
  unfold Media.takePlaybackState
  split_ifs with hsame
  · exact h
  · refine ⟨h.metaData, h.asset, rfl, fun _ hplaceholder => ?_, h.commands⟩
    have htaken : (m.playback.take state).state = -1 := hplaceholder
    unfold PlaybackStateCache.take at htaken
    dsimp only at htaken
    split_ifs at htaken with hmask
    · have hnegative : (-1 : ℤ) < 0 := by decide
      rw [htaken] at hvalid
      exact absurd hvalid (Int.not_le.mpr hnegative)
    · exact hsame (hstate.take_eq htaken (Bool.eq_false_iff.mpr hmask))

/-! ### Images -/

/-- An image can be made small, and is not taken for another one. -/
def ImageOk (m : Media) (assetId : String) (imgBuffer : List UInt8) : Prop :=
  DEFAULT_QUALITY < imgBuffer.length ∧ minSize imgBuffer ≠ none ∧
    (m.imageTopic ≠ topicOf assetId imgBuffer ∨ m.toldImage = minSize imgBuffer)

variable {minSize data imgBuffer}

/-- Such an image is transmitted, or was. -/
theorem Told.toldImage_takeObject (h : Told m) (himage : data.val .mediaImage = some imgBuffer)
    (hok : m.ImageOk minSize (data.val .assetId) imgBuffer) :
    (m.takeObject minSize data).toldImage = minSize imgBuffer := by
  have hasset := (h.takeMetaData data).asset
  rw [takeMetaData_metaData, MetaDataCache.take_assetId] at hasset
  obtain ⟨hlength, hsome, htopic⟩ := hok
  unfold Media.takeObject
  rw [himage]
  unfold Media.takeImage
  dsimp only
  rw [hasset, takeMetaData_imageTopic, takeMetaData_toldImage]
  by_cases hskip : imgBuffer.length ≤ DEFAULT_QUALITY ∨
      m.imageTopic = topicOf (data.val .assetId) imgBuffer
  · rw [if_pos hskip, takeMetaData_toldImage]
    exact htopic.resolve_left (not_not.mpr (hskip.resolve_left (not_le.mpr hlength)))
  · rw [if_neg hskip]
    obtain ⟨image, hsmall⟩ := Option.ne_none_iff_exists'.mp hsome
    rw [hsmall]
    rfl

end Media

end channels

/-! ## What the remote sees -/

section agrees

variable (d : AVSessionDescriptor) (minSize : List UInt8 → Option (List UInt8))

/-- When the remote needs the messages and nothing is pending, it was told last of the title, the
artist, the asset id, the state, the favourite flag, the commands and the image of the session. What
was never told is what a remote starts with. -/
def MediaAgrees (s : MediaState ω) : Prop :=
  s.server.isSoftbusConnecting = true → s.server.isNeedByRemote = true → s.server.tasks = [] →
    s.item.tasks = [] →
      (TaskQueue.lastOn metaData? s.server.sent).getD .reset = shownMetaData s.item.metaData ∧
        (TaskQueue.lastOn playbackState? s.server.sent).getD ⟨0, false⟩ =
          shownPlayback s.item.playbackState ∧
        (TaskQueue.lastOn commands? s.server.sent).getD [] = commandsStr s.supportedCmd ∧
        ∀ imgBuffer, shownImage s.item = some imgBuffer →
          ∃ imgBufferMin, minSize imgBuffer = some imgBufferMin ∧
            TaskQueue.lastOn image? s.server.sent = some imgBufferMin

/-- What an object leaves out is empty in the cache, unless the cache is about another asset. -/
def NothingStale (c : MetaDataCache) (data : AVMetaData) : Prop :=
  data.val .assetId = c.assetId →
    (data.mask .title = true ∨ c.title = "") ∧
      (data.mask .artist = true ∨ data.mask .subTitle = true ∨ c.artist = "")

/-- What a step has to avoid, while the remote needs the messages: a favourite flag before a state,
and an image that cannot be made small or is taken for another one. In any case: an object without
an asset id, with a NUL in one of its texts, or with a subtitle that takes the place of the artist.
And when the session arrives after a pause: a text that the cache has and the session does not. -/
def MediaOk (s : MediaState ω) : MediaOp ω → Prop
  | .setAVMetaData newData _ =>
      newData.val.val .assetId ≠ "" ∧ MetaDataCache.PlainTexts newData ∧
        KeepsArtist s.item.metaData newData
  | .setAVPlaybackState state =>
      s.server.isNeedByRemote = true → Media.HasState s.server.playbackStateCache state.val
  | .handleMetaDataChange _ =>
      s.server.isNeedByRemote = true → ∀ t ∈ s.item.tasks.head?, t.data.val .mediaImage ≠ none →
        ∀ imgBuffer, s.item.imageFile = some imgBuffer →
          s.server.media.ImageOk minSize (t.data.val .assetId) imgBuffer
  | .runTask _ _ =>
      s.server.isNeedByRemote = true → ∀ x, s.server.tasks.head? = some (.front (.arrive x)) →
        NothingStale s.server.metaDataCache s.item.metaData ∧
          Media.HasState s.server.playbackStateCache s.item.playbackState ∧
          ∀ imgBuffer, shownImage s.item = some imgBuffer →
            s.server.media.ImageOk minSize (s.item.metaData.val .assetId) imgBuffer
  | _ => True

/-- With nothing stale, the cache takes what is shown. -/
theorem NothingStale.take_eq {c : MetaDataCache} {data : AVMetaData} (h : NothingStale c data)
    (hwell : data.WellFormed) : c.take data = shownMetaData data := by
  by_cases hsame : data.val .assetId = c.assetId
  · obtain ⟨htitle, hartist⟩ := h hsame
    rw [MetaDataCache.take_of_eq hsame]
    unfold MetaDataCache.patch shownMetaData
    refine MetaDataCache.ext ?_ ?_ hsame.symm
    · cases hmask : data.mask .title with
      | true => rfl
      | false =>
          have hempty := htitle.resolve_left (hmask ▸ Bool.false_ne_true)
          exact hempty.trans (hwell.unset .title (by simp) hmask).symm
    · cases hmask : data.mask .artist with
      | true => rfl
      | false =>
          cases hsub : data.mask .subTitle with
          | true => rfl
          | false =>
              have hempty := (hartist.resolve_left (hmask ▸ Bool.false_ne_true)).resolve_left
                (hsub ▸ Bool.false_ne_true)
              exact hempty.trans (hwell.unset .subTitle (by simp) hsub).symm
  · rw [MetaDataCache.take_of_ne hsame, shownMetaData_of_wellFormed hwell]

/-- What a cache has taken of some objects is left as it is by the same objects. -/
theorem foldl_take_replay (tasks : List MetaTask) (c : MetaDataCache) :
    tasks.foldl (fun c t => MetaDataCache.take c t.data)
        (tasks.foldl (fun c t => MetaDataCache.take c t.data) c) =
      tasks.foldl (fun c t => MetaDataCache.take c t.data) c := by
  have hrecord : ∀ c : MetaDataCache,
      (tasks.foldl (fun c t => MetaDataCache.take c t.data) c).record =
        (tasks.map fun t => MetaDataCache.patch t.data).foldl
          (KeyedRecord.apply fun _ => "") c.record := by
    induction tasks with
    | nil => exact fun _ => rfl
    | cons t tasks ih =>
        intro c
        rw [List.foldl_cons, ih, MetaDataCache.record_take]
        rfl
  have hsame := @KeyedRecord.foldl_apply_replay _ _ _ _ (fun _ : CacheField => "")
    (tasks.map fun t => MetaDataCache.patch t.data) c.record
  rw [← hrecord c, ← hrecord] at hsame
  exact congrArg MetaDataCache.ofRecord hsame

end agrees

/-! ## The session -/

section session

variable (d : AVSessionDescriptor)

/-- What the session keeps. Of the texts, it stores what some cache would make of the deliveries
that wait. -/
structure SessionInv (item : ItemState ω) : Prop where
  controllers : item.controllers = [d.controller]
  wellFormed : item.metaData.WellFormed
  cleared : Cleared item.metaData
  plain : (shownMetaData item.metaData).Plain
  tasks : ∀ t ∈ item.tasks,
    t.data.WellFormed ∧ t.data.val .assetId ≠ "" ∧ t.controller = d.controller
  replay : ∃ c, shownMetaData item.metaData =
    item.tasks.foldl (fun c t => MetaDataCache.take c t.data) c
  state : 0 ≤ item.playbackState.val .state
  unsetState : item.playbackState.mask .state = false → item.playbackState.val .state = 0
  unsetFavorite : item.playbackState.mask .isFavorite = false →
    item.playbackState.val .isFavorite = false

namespace SessionInv

variable {d} {item : ItemState ω}

/-- A new session with one controller. -/
theorem init : SessionInv d (.init [d.controller] : ItemState ω) where
  controllers := rfl
  wellFormed := .init
  cleared := Or.inl rfl
  plain := rfl
  tasks _ ht := nomatch ht
  replay := ⟨_, rfl⟩
  state := Int.le_refl _
  unsetState _ := rfl
  unsetFavorite _ := rfl

/-- Metadata is set: its delivery waits, and the session shows what it says. -/
theorem setAVMetaData (h : SessionInv d item) {newData : AVMetaData} (hwell : newData.WellFormed)
    (hasset : newData.val .assetId ≠ "") (hplain : MetaDataCache.PlainTexts newData)
    (hartist : KeepsArtist item.metaData newData) (queueImage : List UInt8) :
    SessionInv d (Meta.setAVMetaData item newData queueImage) where
  controllers := (setAVMetaData_controllers ..).trans h.controllers
  wellFormed := wellFormed_setAVMetaData d queueImage h.controllers hwell hasset h.wellFormed
  cleared := cleared_setAVMetaData d queueImage h.controllers hwell hasset
  plain := by
    rw [shownMetaData_setAVMetaData d queueImage h.controllers hwell hasset hartist]
    exact h.plain.take hplain
  tasks t ht := by
    rw [setAVMetaData_tasks, h.controllers, List.mem_append] at ht
    rcases ht with ht | ht
    · exact h.tasks t ht
    · obtain rfl := List.mem_singleton.mp ht
      exact ⟨hwell, hasset, rfl⟩
  replay := by
    obtain ⟨c, hc⟩ := h.replay
    refine ⟨c, ?_⟩
    rw [shownMetaData_setAVMetaData d queueImage h.controllers hwell hasset hartist,
      setAVMetaData_tasks, h.controllers, List.foldl_append, hc]
    rfl
  state := by
    rw [setAVMetaData_playbackState]
    exact h.state
  unsetState := by
    rw [setAVMetaData_playbackState]
    exact h.unsetState
  unsetFavorite := by
    rw [setAVMetaData_playbackState]
    exact h.unsetFavorite

/-- A delivery that is made waits no more. -/
theorem runTask (h : SessionInv d item) (queueImage : List UInt8) :
    SessionInv d (Meta.runTask item queueImage) := by
  obtain ⟨hcontrollers, hmeta, hplayback, -, -, -, htasks⟩ := runTask_frame item queueImage
  refine ⟨hcontrollers.trans h.controllers, ?_, ?_, ?_, fun t ht => ?_, ?_, ?_, ?_, ?_⟩
  · rw [hmeta]
    exact h.wellFormed
  · rw [hmeta]
    exact h.cleared
  · rw [hmeta]
    exact h.plain
  · rw [htasks] at ht
    exact h.tasks t (List.mem_of_mem_tail ht)
  · obtain ⟨c, hc⟩ := h.replay
    rw [hmeta, htasks, hc]
    cases item.tasks with
    | nil => exact ⟨c, rfl⟩
    | cons t tasks => exact ⟨c.take t.data, rfl⟩
  · rw [hplayback]
    exact h.state
  · rw [hplayback]
    exact h.unsetState
  · rw [hplayback]
    exact h.unsetFavorite

/-- A playback state is stored. -/
theorem copyFrom (h : SessionInv d item) {state : AVPlaybackState ω}
    (hvalid : 0 ≤ state.val .state) (playbackEvents : List (PlaybackEvent ω)) :
    SessionInv d { item with
      playbackState := (item.playbackState.copyFrom state).1, playbackEvents } := by
  have hval := AVPlaybackState.copyFrom_val item.playbackState state
  have hmask := AVPlaybackState.copyFrom_mask item.playbackState state
  refine ⟨h.controllers, h.wellFormed, h.cleared, h.plain, h.tasks, h.replay, ?_, ?_, ?_⟩
  · show 0 ≤ (item.playbackState.copyFrom state).1.val .state
    rw [hval]
    split_ifs
    · exact hvalid
    · exact h.state
  · show (item.playbackState.copyFrom state).1.mask .state = false →
      (item.playbackState.copyFrom state).1.val .state = 0
    intro hunset
    rw [hmask, Bool.or_eq_false_iff] at hunset
    rw [hval, hunset.2, if_neg Bool.false_ne_true]
    exact h.unsetState hunset.1
  · show (item.playbackState.copyFrom state).1.mask .isFavorite = false →
      (item.playbackState.copyFrom state).1.val .isFavorite = false
    intro hunset
    rw [hmask, Bool.or_eq_false_iff] at hunset
    rw [hval, hunset.2, if_neg Bool.false_ne_true]
    exact h.unsetFavorite hunset.1

end SessionInv

end session

/-! ## The server -/

section server

variable (d : AVSessionDescriptor)

/-- What the server keeps: its observer is that of the session, and what waits is not about the
media. -/
structure ServerInv (server : MigrateAVSessionServer) : Prop where
  observer : ObserverInv ⟨server, d.sessionId, fun _ => some true⟩
  notNull : server.playerIdToControllerMap d.sessionId ≠ some none
  waiting : ∀ msg, server.pendingSessionInfo = some msg → info? msg ≠ none

variable {d} {server server' : MigrateAVSessionServer}

/-- The controllers are no part of the media. -/
theorem MigrateAVSessionServer.OnlyControllers.media (h : OnlyControllers server server') :
    server'.media = server.media := by
  obtain ⟨_, _, _, rfl⟩ := h
  rfl

namespace ServerInv

/-- A server with an observer is connected. -/
theorem connected (h : ServerInv d server) : server.isSoftbusConnecting = true :=
  h.observer.connected

/-- Once it has arrived, the session is observed. -/
theorem registered (h : ServerInv d server) (hpending : server.pendingFront = []) :
    (server.innerCallback d.sessionId).isSome = true :=
  Option.isSome_iff_ne_none.mpr ((h.observer.controllers.registered d.sessionId).mpr
    (h.observer.settled hpending d.nonempty rfl))

/-- Messages about the media leave what the server keeps. -/
theorem of_onlyMedia (h : ServerInv d server) (hsame : OnlyMedia server server') :
    ServerInv d server' where
  observer := h.observer.of_onlyMessages hsame.toOnlyMessages
  notNull := by
    rw [hsame.controllerMap]
    exact h.notNull
  waiting := by
    rw [hsame.pendingSessionInfo]
    exact h.waiting

/-- What the callback does, if it is registered. -/
theorem of_notify {s : MediaState ω} (h : ServerInv d s.server)
    {f : MigrateAVSessionServer → MigrateAVSessionServer} (hsame : OnlyMedia s.server (f s.server)) :
    ServerInv d (s.notify d f) := by
  unfold MediaState.notify
  split_ifs
  · exact h.of_onlyMedia hsame
  · exact h

/-! ### The needs of the remote -/

/-- The media are as before. When nothing is pending, the remote did not come to need them. -/
structure Rested (server server' : MigrateAVSessionServer) : Prop where
  controllerMap : server'.playerIdToControllerMap = server.playerIdToControllerMap
  media : server'.media = server.media
  waiting : ∀ msg, server'.pendingSessionInfo = some msg → info? msg ≠ none
  settled : server'.pendingFront = [] →
    server.pendingFront = [] ∧ (server'.isNeedByRemote = true → server.isNeedByRemote = true)

/-- The need of the remote, if it is not new, leaves the rest. -/
theorem setNeed (h : ServerInv d server) {need : Bool} (timer : Bool)
    (hneed : need = true → server.isNeedByRemote = true) :
    Rested server { server with isNeedByRemote := need, needStateTimer := timer } :=
  ⟨rfl, rfl, h.waiting, fun hpending => ⟨hpending, hneed⟩⟩

/-- The remote comes to need the messages, and the arrival of the session is posted. -/
theorem rested_arrive (h : ServerInv d server) (hmap :
      server'.playerIdToControllerMap = server.playerIdToControllerMap)
    (hmedia : server'.media = server.media)
    (hwaiting : ∀ msg, server'.pendingSessionInfo = some msg → info? msg ≠ none)
    (hconnected : server'.isSoftbusConnecting = true)
    (hlast : server'.lastSessionId = server.lastSessionId) (timer : Bool) :
    Rested server
      { server'.localFrontSessionArrive server'.lastSessionId with needStateTimer := timer } := by
  have hid : server'.lastSessionId ≠ "" := by
    rw [hlast, h.observer.last]
    exact d.nonempty
  have hposted := posted_localFrontSessionArrive hconnected hid
  refine ⟨hposted.controllerMap.trans hmap,
    (media_localFrontSessionArrive hconnected rfl).trans hmedia, ?_, fun hpending => ?_⟩
  · show ∀ msg, (server'.localFrontSessionArrive _).pendingSessionInfo = some msg → _
    rw [hposted.pendingSessionInfo]
    exact hwaiting
  · have hnone : (server'.localFrontSessionArrive server'.lastSessionId).pendingFront = [] :=
      hpending
    rw [hposted.front] at hnone
    cases hnone

/-- A request for the timer posts nothing about the media. -/
theorem rested_processMediaControlTimerRequest (h : ServerInv d server) (version : ℤ) :
    Rested server (server.processMediaControlTimerRequest version) := by
  rcases server.processMediaControlTimerRequest_cases version with heq | ⟨-, heq⟩ | heq
  · rw [heq]
    exact ⟨rfl, rfl, h.waiting, fun hpending => ⟨hpending, id⟩⟩
  · rw [heq]
    exact h.setNeed true id
  · rw [heq]
    have hsame : OnlyMessages { server with isNeedByRemote := true } _ :=
      onlyMessages_postPending _
    have hmedia : (postPending { server with isNeedByRemote := true }).media = server.media := by
      refine (media_postPending ?_ ?_).trans rfl
      · exact h.connected
      · exact h.waiting
    refine h.rested_arrive hsame.controllerMap hmedia (fun msg hmsg => ?_)
      (hsame.connecting.trans h.connected) hsame.lastSessionId true
    unfold postPending at hmsg
    dsimp only at hmsg
    split at hmsg
    · exact h.waiting msg hmsg
    · rw [pendingSessionInfo_postMessage] at hmsg
      cases hmsg

/-- A need that is announced posts at most the arrival of the session. -/
theorem rested_processMediaControlNeedState (h : ServerInv d server) (version : Option ℤ)
    (needState : Option Bool) :
    Rested server (server.processMediaControlNeedState version needState) := by
  unfold MigrateAVSessionServer.processMediaControlNeedState
  cases version with
  | some version => exact h.rested_processMediaControlTimerRequest version
  | none =>
      match needState with
      | none => exact h.setNeed server.needStateTimer id
      | some false => exact h.setNeed server.needStateTimer fun hneed => nomatch hneed
      | some true =>
          dsimp only
          split_ifs
          · exact h.setNeed server.needStateTimer id
          · exact @rested_arrive d server { server with isNeedByRemote := true } h rfl rfl
              h.waiting h.connected rfl
              (localFrontSessionArrive { server with isNeedByRemote := true }
                server.lastSessionId).needStateTimer

/-- The timer ends the need. -/
theorem rested_handleNeedStateTimer (h : ServerInv d server) :
    Rested server server.handleNeedStateTimer := by
  unfold MigrateAVSessionServer.handleNeedStateTimer
  split_ifs
  · exact h.setNeed false fun hneed => nomatch hneed
  · exact h.setNeed server.needStateTimer id

/-- A server at rest keeps what it keeps. -/
theorem of_rested (h : ServerInv d server) (hrested : Rested server server')
    (hobserver : ObserverInv ⟨server', d.sessionId, fun _ => some true⟩) : ServerInv d server' where
  observer := hobserver
  notNull := by
    rw [hrested.controllerMap]
    exact h.notNull
  waiting := hrested.waiting

/-! ### The tasks -/

/-- What waits is about the session. -/
theorem waiting_updateSessionInfo
    (h : ∀ msg, server.pendingSessionInfo = some msg → info? msg ≠ none) {sessionId : String}
    {msg : Message} (hinfo : info? msg ≠ none) :
    ∀ msg', (server.updateSessionInfo sessionId msg).pendingSessionInfo = some msg' →
      info? msg' ≠ none := by
  intro msg' hmsg'
  by_cases hrepeated : server.preSessionId = sessionId
  · rw [updateSessionInfo_of_repeated msg hrepeated] at hmsg'
    exact h msg' hmsg'
  · by_cases hsync : server.Synced sessionId
    · rw [updateSessionInfo_of_synced msg hrepeated hsync, pendingSessionInfo_postMessage] at hmsg'
      cases hmsg'
    · rw [updateSessionInfo_of_cached msg hrepeated hsync] at hmsg'
      obtain rfl := Option.some.inj hmsg'
      exact hinfo

variable {x : String} {tasks : List Task} (minSize : List UInt8 → Option (List UInt8))
  (focus : FocusSession ω)

/-- The session that arrives gets a controller, and the remote is told of it. -/
theorem arriveTask_eq (h : ServerInv d server)
    (htasks : server.tasks = .front (.arrive x) :: tasks) :
    x = d.sessionId ∧ ∃ base, OnlyControllers { server with tasks } base ∧ base.pendingFront = [] ∧
      MigrateAVSessionServer.arriveTask { server with tasks } minSize x true focus =
        updateFrontSessionInfoToRemote { base with lastSessionId := x } minSize x focus := by
  have hpending := h.observer.pending
  rw [pendingFront_cons htasks] at hpending
  obtain ⟨hx, -, htail⟩ := hpending.of_arrive
  refine ⟨hx, ?_⟩
  have hpopped : ControllersInv { server with tasks } :=
    h.observer.controllers.congr (fun _ => rfl) rfl rfl
  have hnotNull : true = true → server.playerIdToControllerCallbackMap x = none →
      server.playerIdToControllerMap x ≠ some none := fun _ _ => hx ▸ h.notNull
  obtain ⟨-, hat⟩ := hpopped.createController hnotNull
  have hframe := (onlyControllers_createController { server with tasks } x true).trans
    (onlyControllers_plantNull _ x)
  have hself := (controllerAt_plantNull
    (MigrateAVSessionServer.createController { server with tasks } x true) x x).trans (hat x)
  rw [if_pos ⟨rfl, rfl⟩] at hself
  unfold MigrateAVSessionServer.arriveTask
  dsimp only
  generalize (MigrateAVSessionServer.createController { server with tasks } x true).plantNull x =
    base at *
  refine ⟨base, hframe, hframe.front.trans htail, ?_⟩
  rw [hself]
  dsimp only
  exact if_pos (hframe.connecting.trans h.connected)

/-- What the arrival of the session leaves. -/
structure Arrived (server server' : MigrateAVSessionServer) : Prop where
  settled : server'.pendingFront = []
  need : server'.isNeedByRemote = server.isNeedByRemote
  waiting : ∀ msg, server'.pendingSessionInfo = some msg → info? msg ≠ none
  rested : server.isNeedByRemote = false → server'.media = server.media
  told : server.isNeedByRemote = true → ∀ data state, focus.metaData = some data →
    focus.playbackState = some state →
      server'.media = ((server.media.takeObject minSize data).takePlaybackState state).takeCommands
        focus.validCommands

/-- What the task of the arrival leaves. -/
theorem arrived_arriveTask (h : ServerInv d server)
    (htasks : server.tasks = .front (.arrive x) :: tasks) :
    Arrived minSize focus server
      (MigrateAVSessionServer.arriveTask { server with tasks } minSize x true focus) := by
  obtain ⟨hx, base, hframe, hfront, heq⟩ := h.arriveTask_eq minSize focus htasks
  have hmedia : MigrateAVSessionServer.media { base with lastSessionId := x } = server.media :=
    hframe.media.trans (media_front htasks)
  have hconnected : MigrateAVSessionServer.isSoftbusConnecting { base with lastSessionId := x } =
      true := hframe.connecting.trans h.connected
  have hneed : MigrateAVSessionServer.isNeedByRemote { base with lastSessionId := x } =
      server.isNeedByRemote := hframe.need
  have hwaiting : ∀ msg, MigrateAVSessionServer.pendingSessionInfo
      { base with lastSessionId := x } = some msg → info? msg ≠ none := by
    intro msg hmsg
    exact h.waiting msg (hframe.pendingSessionInfo.symm.trans hmsg)
  have hsettled : MigrateAVSessionServer.pendingFront { base with lastSessionId := x } = [] :=
    hfront
  rw [heq]
  generalize ({ base with lastSessionId := x } : MigrateAVSessionServer) = base' at *
  have hsame := onlyMessages_updateFrontSessionInfoToRemote base' focus minSize x
  refine ⟨hsame.front.trans hsettled, hsame.need.trans hneed, fun msg hmsg => ?_,
    fun hidle => ?_, fun hactive data state hdata hstate => ?_⟩
  · rw [(onlyMedia_updateFrontSessionInfoToRemote base' focus minSize x).pendingSessionInfo] at hmsg
    unfold updateSessionInfoToRemote at hmsg
    refine waiting_updateSessionInfo hwaiting ?_ msg hmsg
    exact Option.some_ne_none x
  · rw [media_updateFrontSessionInfoToRemote_of_not_need hconnected (hneed.trans hidle), hmedia]
  · rw [media_updateFrontSessionInfoToRemote hconnected (hneed.trans hactive) minSize x hdata
      hstate, hmedia]

/-- The server keeps its part when the session arrives. -/
theorem arriveTask (h : ServerInv d server)
    (htasks : server.tasks = .front (.arrive x) :: tasks) :
    ServerInv d (MigrateAVSessionServer.arriveTask { server with tasks } minSize x true focus) := by
  have harrived := h.arrived_arriveTask minSize focus htasks
  obtain ⟨hx, -⟩ := h.arriveTask_eq minSize focus htasks
  have hnotNull : true = true → server.playerIdToControllerCallbackMap x = none →
      server.playerIdToControllerMap x ≠ some none := fun _ _ => hx ▸ h.notNull
  have hobserver := h.observer.arriveTask minSize focus htasks hnotNull
  have hattempts : MigrateState.attemptsAfter ⟨server, d.sessionId, fun _ => some true⟩ true =
      fun _ => some true := by
    rw [attemptsAfter_arrive htasks]
    split_ifs
    · rfl
    · exact Function.update_eq_self_iff.mpr rfl
  rw [hattempts] at hobserver
  refine ⟨hobserver, fun hnull => ?_, harrived.waiting⟩
  have hat := hobserver.settled harrived.settled d.nonempty rfl
  refine hat ?_
  unfold MigrateAVSessionServer.controllerAt
  show (MigrateAVSessionServer.playerIdToControllerMap _ d.sessionId).join = none
  rw [hnull]
  rfl

/-- A message is sent. -/
theorem send (h : ServerInv d server) {msg : Message} (htasks : server.tasks = .send msg :: tasks) :
    ServerInv d { server with tasks, sent := server.sent ++ [msg] } :=
  ⟨h.observer.congr (fun _ => rfl) rfl rfl rfl rfl (pendingFront_send htasks).symm, h.notNull,
    h.waiting⟩

/-- No session leaves. -/
theorem not_leave (h : ServerInv d server) (htasks : server.tasks = .front (.leave x) :: tasks) :
    False := by
  refine h.observer.pending.not_leave_of_front d.nonempty x ?_
  rw [pendingFront_cons htasks]
  exact List.mem_cons_self

end ServerInv

end server

/-! ## Both together -/

section invariant

variable (d : AVSessionDescriptor) (minSize : List UInt8 → Option (List UInt8))

/-- The channels have taken what the session delivered, and will agree with it once what waits is
delivered. -/
structure Synced (s : MediaState ω) (m : Media) : Prop where
  metaData : s.item.tasks.foldl (fun c t => MetaDataCache.take c t.data) m.metaData =
    shownMetaData s.item.metaData
  playback : m.playback.take s.item.playbackState = m.playback
  commands : m.commands = s.supportedCmd
  image : ∀ imgBuffer, shownImage s.item = some imgBuffer →
    (∃ t ∈ s.item.tasks, t.data.val .mediaImage ≠ none) ∨
      (minSize imgBuffer ≠ none ∧ m.toldImage = minSize imgBuffer)

/-- What the steps keep. -/
structure MediaInv (s : MediaState ω) : Prop where
  session : SessionInv d s.item
  server : ServerInv d s.server
  told : s.server.media.Told
  unsetState : s.item.playbackState.mask .state = false → s.server.media.playback.state = -1
  unsetFavorite : s.item.playbackState.mask .isFavorite = false →
    s.server.media.playback.favorite = false
  synced : s.server.isNeedByRemote = true → s.server.pendingFront = [] →
    Synced minSize s s.server.media

variable {d minSize} {s : MediaState ω}

/-- What was told last of the playback is what the session shows. -/
theorem MediaInv.toldPlayback (h : MediaInv d minSize s)
    (hplayback : s.server.media.playback.take s.item.playbackState = s.server.media.playback) :
    s.server.media.toldPlayback.getD ⟨0, false⟩ = shownPlayback s.item.playbackState := by
  have hstate := congrArg PlaybackStateCache.state hplayback
  have hfavorite := congrArg PlaybackStateCache.favorite hplayback
  unfold PlaybackStateCache.take at hstate hfavorite
  dsimp only at hstate hfavorite
  have htold := h.told.playback
  have hplaceholder := h.told.state
  have hshown : s.server.media.playback.favorite = s.item.playbackState.val .isFavorite := by
    cases hmask : s.item.playbackState.mask .isFavorite with
    | true => rw [← hfavorite, hmask, if_pos rfl]
    | false => rw [h.unsetFavorite hmask, h.session.unsetFavorite hmask]
  unfold shownPlayback
  cases hlast : s.server.media.toldPlayback with
  | none =>
      rw [hlast] at htold
      rw [htold] at hstate hshown
      -- nothing was told, so no state was set
      have hmask : s.item.playbackState.mask .state = false := by
        by_contra hmask
        rw [if_pos (Bool.not_eq_false _ ▸ hmask)] at hstate
        have hnegative : (-1 : ℤ) < 0 := by decide
        have hvalid := h.session.state
        rw [hstate] at hvalid
        exact absurd hvalid (Int.not_le.mpr hnegative)
      exact PlaybackStateCache.ext (h.session.unsetState hmask).symm hshown
  | some c =>
      rw [hlast] at htold hplaceholder
      have hmask : s.item.playbackState.mask .state = true := by
        by_contra hmask
        exact hplaceholder (Option.some_ne_none c) (h.unsetState (Bool.eq_false_iff.mpr hmask))
      rw [hmask, if_pos rfl] at hstate
      rw [Option.getD_some] at htold ⊢
      rw [← htold]
      exact PlaybackStateCache.ext hstate.symm hshown

/-- **The invariant is what was asked for.** -/
theorem MediaInv.agrees (h : MediaInv d minSize s) : MediaAgrees minSize s := by
  intro _ hneed htasks hitem
  have hlast : ∀ {β : Type} (p : Message → Option β),
      TaskQueue.lastOn p s.server.sent = s.server.lastOf p := by
    intro β p
    unfold lastOf
    rw [htasks, TaskQueue.lastPosted_nil]
  obtain ⟨hmeta, hplayback, hcommands, himage⟩ := h.synced hneed (pendingFront_of_tasks htasks)
  rw [hlast, hlast, hlast, hlast]
  refine ⟨?_, h.toldPlayback hplayback, ?_, fun imgBuffer hshown => ?_⟩
  · rw [hitem] at hmeta
    have hcache : s.server.media.metaData = shownMetaData s.item.metaData := hmeta
    exact h.told.metaData.symm.trans ((congrArg MetaDataCache.written hcache).trans h.session.plain)
  · exact h.told.commands.trans (congrArg commandsStr hcommands)
  · rcases himage imgBuffer hshown with ⟨t, ht, -⟩ | ⟨hsome, htold⟩
    · rw [hitem] at ht
      cases ht
    · obtain ⟨imgBufferMin, hsmall⟩ := Option.ne_none_iff_exists'.mp hsome
      exact ⟨imgBufferMin, hsmall, htold.trans hsmall⟩

/-- The callback does something only while the remote needs it, after the session has arrived. -/
theorem ServerInv.notify_cases (h : ServerInv d s.server)
    {f : MigrateAVSessionServer → MigrateAVSessionServer}
    (hidle : s.server.isNeedByRemote = false → f s.server = s.server) :
    (s.notify d f = s.server ∧
        (s.server.isNeedByRemote = true → s.server.pendingFront ≠ [])) ∨
      (s.notify d f = f s.server ∧ s.server.isNeedByRemote = true) := by
  unfold MediaState.notify
  cases hneed : s.server.isNeedByRemote with
  | false =>
      refine Or.inl ⟨?_, fun h => nomatch h⟩
      rw [hidle hneed]
      exact ite_self _
  | true =>
      by_cases hregistered : (s.server.innerCallback d.sessionId).isSome = true
      · exact Or.inr ⟨if_pos hregistered, rfl⟩
      · exact Or.inl ⟨if_neg hregistered, fun _ hpending => hregistered (h.registered hpending)⟩

end invariant

/-! ## The steps -/

section steps

variable {d : AVSessionDescriptor} {minSize : List UInt8 → Option (List UInt8)}
  {s : MediaState ω}

namespace MediaInv

/-- Metadata is set, and its delivery is ahead of the channels. -/
theorem setAVMetaData (h : MediaInv d minSize s) {newData : AVMetaData}
    (hwell : newData.WellFormed) (hasset : newData.val .assetId ≠ "")
    (hplain : MetaDataCache.PlainTexts newData) (hartist : KeepsArtist s.item.metaData newData)
    (queueImage : List UInt8) :
    MediaInv d minSize { s with item := Meta.setAVMetaData s.item newData queueImage } := by
  have hplay : (Meta.setAVMetaData s.item newData queueImage).playbackState =
      s.item.playbackState := setAVMetaData_playbackState ..
  refine ⟨h.session.setAVMetaData hwell hasset hplain hartist queueImage, h.server, h.told, ?_, ?_,
    fun hneed hpending => ?_⟩
  · dsimp only
    rw [hplay]
    exact h.unsetState
  · dsimp only
    rw [hplay]
    exact h.unsetFavorite
  · obtain ⟨hmeta, hplayback, hcommands, himage⟩ := h.synced hneed hpending
    refine ⟨?_, ?_, hcommands, fun imgBuffer hshown => ?_⟩
    · dsimp only
      rw [setAVMetaData_tasks, h.session.controllers, List.foldl_append, hmeta,
        shownMetaData_setAVMetaData d queueImage h.session.controllers hwell hasset hartist]
      rfl
    · dsimp only
      rw [hplay]
      exact hplayback
    · dsimp only at hshown ⊢
      rw [setAVMetaData_tasks, h.session.controllers]
      by_cases hnew : newData.val .mediaImage = none
      · have hold := shownImage_setAVMetaData d queueImage h.session.controllers hwell hasset
          h.session.cleared hnew hshown
        rcases himage imgBuffer hold with ⟨t, ht, htimage⟩ | htold
        · exact Or.inl ⟨t, List.mem_append_left _ ht, htimage⟩
        · exact Or.inr htold
      · exact Or.inl ⟨_, List.mem_append_right _ (List.mem_singleton.mpr rfl), hnew⟩

/-- What a cache takes of the states one after the other, it takes of the stored one. -/
theorem take_copyFrom {c : PlaybackStateCache} {stored : AVPlaybackState ω}
    (h : c.take stored = c) (state : AVPlaybackState ω) :
    (c.take state).take (stored.copyFrom state).1 = c.take state := by
  have hstate := congrArg PlaybackStateCache.state h
  have hfavorite := congrArg PlaybackStateCache.favorite h
  unfold PlaybackStateCache.take at hstate hfavorite ⊢
  dsimp only at hstate hfavorite
  simp only [AVPlaybackState.copyFrom_val, AVPlaybackState.copyFrom_mask]
  refine PlaybackStateCache.ext ?_ ?_
  · cases state.mask .state with
    | true => simp only [Bool.or_true, if_true]
    | false => simpa only [Bool.or_false, Bool.false_eq_true, if_false] using hstate
  · cases state.mask .isFavorite with
    | true => simp only [Bool.or_true, if_true]
    | false => simpa only [Bool.or_false, Bool.false_eq_true, if_false] using hfavorite

variable [DecidableEq ω]

/-- A playback state is set, which the server is told of at once. -/
theorem onPlaybackStateChange (h : MediaInv d minSize s) {state : AVPlaybackState ω}
    (hvalid : 0 ≤ state.val .state)
    (hok : s.server.isNeedByRemote = true → Media.HasState s.server.playbackStateCache state) :
    MediaInv d minSize
      (s.onPlaybackStateChange d (Meta.setAVPlaybackState s.item state)) := by
  rcases onPlaybackStateChange_cases d h.session.controllers state with
    ⟨-, hsame⟩ | ⟨stateOut, playbackEvents, hset, htake⟩
  · rw [hsame]
    exact h
  · rw [hset]
    have hmask := AVPlaybackState.copyFrom_mask s.item.playbackState state
    have hunset : ∀ k, (s.item.playbackState.copyFrom state).1.mask k = false →
        s.item.playbackState.mask k = false ∧ state.mask k = false := fun k hk => by
      rw [hmask, Bool.or_eq_false_iff] at hk
      exact hk
    have hserver := h.server.of_notify
      (f := fun server => server.doPlaybackStateSyncToRemote stateOut)
      (onlyMedia_doPlaybackStateSyncToRemote s.server stateOut)
    rcases h.server.notify_cases (f := fun server => server.doPlaybackStateSyncToRemote stateOut)
      (doPlaybackStateSyncToRemote_of_not_need stateOut) with
      ⟨hsame, hpending⟩ | ⟨hsame, hneed⟩
    · rw [hsame]
      exact ⟨h.session.copyFrom hvalid playbackEvents, h.server, h.told,
        fun hk => h.unsetState (hunset _ hk).1, fun hk => h.unsetFavorite (hunset _ hk).1,
        fun hneed hnone => absurd hnone (hpending hneed)⟩
    · have hframe := onlyMedia_doPlaybackStateSyncToRemote s.server stateOut
      have hmedia : (s.server.doPlaybackStateSyncToRemote stateOut).media =
          s.server.media.takePlaybackState state :=
        (media_doPlaybackStateSyncToRemote stateOut h.server.connected hneed).trans
          (Media.takePlaybackState_congr (htake _))
      rw [hsame] at hserver ⊢
      refine ⟨h.session.copyFrom hvalid playbackEvents, hserver, ?_, fun hk => ?_, fun hk => ?_,
        fun _ hnone => ?_⟩
      · show (s.server.doPlaybackStateSyncToRemote stateOut).media.Told
        rw [hmedia]
        exact h.told.takePlaybackState hvalid (hok hneed)
      · show (s.server.doPlaybackStateSyncToRemote stateOut).media.playback.state = -1
        rw [hmedia, Media.takePlaybackState_playback, PlaybackStateCache.take, (hunset _ hk).2]
        exact h.unsetState (hunset _ hk).1
      · show (s.server.doPlaybackStateSyncToRemote stateOut).media.playback.favorite = false
        rw [hmedia, Media.takePlaybackState_playback, PlaybackStateCache.take, (hunset _ hk).2]
        exact h.unsetFavorite (hunset _ hk).1
      · obtain ⟨hmeta, hplayback, hcommands, himage⟩ := h.synced hneed
          (hframe.front.symm.trans hnone)
        show Synced minSize _ (s.server.doPlaybackStateSyncToRemote stateOut).media
        rw [hmedia]
        refine ⟨?_, ?_, ?_, ?_⟩
        · rw [Media.takePlaybackState_metaData]
          exact hmeta
        · rw [Media.takePlaybackState_playback]
          exact take_copyFrom hplayback state
        · rw [Media.takePlaybackState_commands]
          exact hcommands
        · rw [Media.takePlaybackState_toldImage]
          exact himage

omit [DecidableEq ω] in
/-- Commands are set, which the server is told of at once. -/
theorem setSupportCommand (h : MediaInv d minSize s) (cmds : List ℤ) :
    MediaInv d minSize { s with
      supportedCmd := cmds
      server := s.notify d fun server => server.doValidCommandsSyncToRemote cmds } := by
  have hserver := h.server.of_notify (f := fun server => server.doValidCommandsSyncToRemote cmds)
    (onlyMedia_doValidCommandsSyncToRemote s.server cmds)
  rcases h.server.notify_cases (f := fun server => server.doValidCommandsSyncToRemote cmds)
    (doValidCommandsSyncToRemote_of_not_need cmds) with ⟨hsame, hpending⟩ | ⟨hsame, hneed⟩
  · rw [hsame]
    exact ⟨h.session, h.server, h.told, h.unsetState, h.unsetFavorite,
      fun hneed hnone => absurd hnone (hpending hneed)⟩
  · have hframe := onlyMedia_doValidCommandsSyncToRemote s.server cmds
    have hmedia := media_doValidCommandsSyncToRemote cmds h.server.connected hneed
    rw [hsame] at hserver ⊢
    refine ⟨h.session, hserver, ?_, fun hk => ?_, fun hk => ?_, fun _ hnone => ?_⟩
    · dsimp only
      rw [hmedia]
      exact h.told.takeCommands cmds
    · dsimp only
      rw [hmedia, Media.takeCommands_playback]
      exact h.unsetState hk
    · dsimp only
      rw [hmedia, Media.takeCommands_playback]
      exact h.unsetFavorite hk
    · obtain ⟨hmeta, hplayback, -, himage⟩ := h.synced hneed (hframe.front.symm.trans hnone)
      dsimp only
      rw [hmedia]
      refine ⟨?_, ?_, Media.takeCommands_commands cmds, ?_⟩
      · rw [Media.takeCommands_metaData]
        exact hmeta
      · rw [Media.takeCommands_playback]
        exact hplayback
      · rw [Media.takeCommands_toldImage]
        exact himage

omit [DecidableEq ω] in
/-- What is delivered next is taken by the channels, and is no longer ahead of them. -/
theorem synced_takeObject (hsynced : Synced minSize s s.server.media)
    (htold : s.server.media.Told) {t : MetaTask} {tasks : List MetaTask}
    (htasks : s.item.tasks = t :: tasks) {metaOut : AVMetaData}
    (hpatch : MetaDataCache.patch metaOut = MetaDataCache.patch t.data)
    (himage : metaOut.val .mediaImage = (t.data.val .mediaImage).map fun _ =>
      readImageFromFile s.item.imageFile (s.item.buffers t.call))
    (hok : t.data.val .mediaImage ≠ none → ∀ imgBuffer, s.item.imageFile = some imgBuffer →
      s.server.media.ImageOk minSize (t.data.val .assetId) imgBuffer) (queueImage : List UInt8)
    (server' : MigrateAVSessionServer) :
    Synced minSize { s with item := Meta.runTask s.item queueImage, server := server' }
      (s.server.media.takeObject minSize metaOut) := by
  obtain ⟨-, hitem, hplay, hfile, -, -, htail⟩ := runTask_frame s.item queueImage
  rw [htasks] at htail
  have htake : ∀ c, MetaDataCache.take c metaOut = MetaDataCache.take c t.data := fun c => by
    unfold MetaDataCache.take
    rw [hpatch]
  have hshown : shownImage (Meta.runTask s.item queueImage) = shownImage s.item := by
    unfold shownImage
    rw [hitem, hfile]
  refine ⟨?_, ?_, ?_, fun imgBuffer himg => ?_⟩
  · dsimp only
    rw [htail, hitem, ← hsynced.metaData, htasks, Media.takeObject_metaData, htake]
    rfl
  · dsimp only
    rw [hplay, Media.takeObject_playback]
    exact hsynced.playback
  · rw [Media.takeObject_commands]
    exact hsynced.commands
  · dsimp only at himg ⊢
    rw [hshown] at himg
    rw [htail]
    by_cases hnew : t.data.val .mediaImage = none
    · -- no image is delivered: what is ahead of the channels is behind this delivery
      have hnone : metaOut.val .mediaImage = none := by
        rw [himage, hnew]
        rfl
      rw [Media.takeObject_toldImage minSize metaOut hnone]
      rcases hsynced.image imgBuffer himg with ⟨t', ht', himg'⟩ | htold'
      · rw [htasks] at ht'
        rcases List.mem_cons.mp ht' with rfl | ht'
        · exact absurd hnew himg'
        · exact Or.inl ⟨t', ht', himg'⟩
      · exact Or.inr htold'
    · -- the image is read from the file when it is delivered
      have hread : s.item.imageFile = some imgBuffer := by
        unfold shownImage at himg
        split_ifs at himg
        exact himg
      have hout : metaOut.val .mediaImage = some imgBuffer := by
        obtain ⟨old, hold⟩ := Option.ne_none_iff_exists'.mp hnew
        rw [himage, hread, hold]
        rfl
      have hkey : metaOut.val .assetId = t.data.val .assetId := congrArg Patch.key hpatch
      have hok' := hok hnew imgBuffer hread
      exact Or.inr ⟨hok'.2.1, htold.toldImage_takeObject hout (hkey ▸ hok')⟩

omit [DecidableEq ω] in
/-- **The next delivery.** -/
theorem handleMetaDataChange (h : MediaInv d minSize s) (queueImage : List UInt8)
    (hok : s.server.isNeedByRemote = true → ∀ t ∈ s.item.tasks.head?,
      t.data.val .mediaImage ≠ none → ∀ imgBuffer, s.item.imageFile = some imgBuffer →
        s.server.media.ImageOk minSize (t.data.val .assetId) imgBuffer) :
    MediaInv d minSize
      (s.onMetaDataChange d minSize (Meta.runTask s.item queueImage)) := by
  obtain ⟨-, -, hplay, -, -, -, -⟩ := runTask_frame s.item queueImage
  have hsession := h.session.runTask queueImage
  cases htasks : s.item.tasks with
  | nil =>
      have hsame : Meta.runTask s.item queueImage = s.item := by
        unfold Meta.runTask
        rw [htasks]
      unfold MediaState.onMetaDataChange MediaState.notify
      rw [hsame, List.drop_length]
      simp only [List.foldl_nil, ite_self]
      exact h
  | cons t tasks =>
      obtain ⟨hwell, hasset, hcontroller⟩ := h.session.tasks t (htasks ▸ List.mem_cons_self)
      obtain ⟨metaOut, hserver', hpatch, himage⟩ :=
        exists_server_runTask d minSize htasks hcontroller hwell hasset queueImage
      rw [htasks] at hok
      have hserver := h.server.of_notify
        (f := fun server => server.handleFocusMetaDataChange minSize metaOut)
        (onlyMedia_handleFocusMetaDataChange s.server metaOut minSize)
      have hstate : s.onMetaDataChange d minSize (Meta.runTask s.item queueImage) =
          { s with
            item := Meta.runTask s.item queueImage
            server := s.notify d fun server =>
              server.handleFocusMetaDataChange minSize metaOut } := by
        rw [← hserver']
        rfl
      rw [hstate]
      rcases h.server.notify_cases
        (f := fun server => server.handleFocusMetaDataChange minSize metaOut)
        (handleFocusMetaDataChange_of_not_need metaOut minSize) with
        ⟨hsame, hpending⟩ | ⟨hsame, hneed⟩
      · rw [hsame]
        refine ⟨hsession, h.server, h.told, ?_, ?_, fun hneed hnone =>
          absurd hnone (hpending hneed)⟩
        · dsimp only
          rw [hplay]
          exact h.unsetState
        · dsimp only
          rw [hplay]
          exact h.unsetFavorite
      · have hframe := onlyMedia_handleFocusMetaDataChange s.server metaOut minSize
        have hmedia := media_handleFocusMetaDataChange metaOut minSize h.server.connected hneed
        rw [hsame] at hserver ⊢
        refine ⟨hsession, hserver, ?_, ?_, ?_, fun _ hnone => ?_⟩
        · dsimp only
          rw [hmedia]
          exact h.told.takeObject minSize metaOut
        · dsimp only
          rw [hplay, hmedia, Media.takeObject_playback]
          exact h.unsetState
        · dsimp only
          rw [hplay, hmedia, Media.takeObject_playback]
          exact h.unsetFavorite
        · have hsynced := h.synced hneed (hframe.front.symm.trans hnone)
          dsimp only
          rw [hmedia]
          exact synced_takeObject hsynced h.told htasks hpatch himage (hok hneed t rfl) queueImage _

omit [DecidableEq ω] in
/-- The needs of the remote change, but not the media. -/
theorem of_rested (h : MediaInv d minSize s) {server' : MigrateAVSessionServer}
    (hserver : ServerInv d server') (hrested : ServerInv.Rested s.server server') :
    MediaInv d minSize { s with server := server' } := by
  refine ⟨h.session, hserver, ?_, fun hk => ?_, fun hk => ?_, fun hneed hpending => ?_⟩
  · dsimp only
    rw [hrested.media]
    exact h.told
  · dsimp only
    rw [hrested.media]
    exact h.unsetState hk
  · dsimp only
    rw [hrested.media]
    exact h.unsetFavorite hk
  · obtain ⟨hbefore, hneed'⟩ := hrested.settled hpending
    obtain ⟨hmeta, hplayback, hcommands, himage⟩ := h.synced (hneed' hneed) hbefore
    dsimp only
    rw [hrested.media]
    exact ⟨hmeta, hplayback, hcommands, himage⟩

omit [DecidableEq ω] in
/-- The remote announces its need. -/
theorem processMediaControlNeedState (h : MediaInv d minSize s) (version : Option ℤ)
    (needState : Option Bool) :
    MediaInv d minSize
      { s with server := s.server.processMediaControlNeedState version needState } := by
  have hrested := h.server.rested_processMediaControlNeedState version needState
  exact h.of_rested (h.server.of_rested hrested
    (h.server.observer.processMediaControlNeedState version needState)) hrested

omit [DecidableEq ω] in
/-- The need runs out. -/
theorem handleNeedStateTimer (h : MediaInv d minSize s) :
    MediaInv d minSize { s with server := s.server.handleNeedStateTimer } := by
  have hrested := h.server.rested_handleNeedStateTimer
  exact h.of_rested (h.server.of_rested hrested h.server.observer.handleNeedStateTimer) hrested

/-! ### The arrival -/

omit [DecidableEq ω] in
/-- What the channels take of the controller is what the session shows. -/
theorem synced_of_focus (h : MediaInv d minSize s) (queueImage : List UInt8)
    (hstale : NothingStale s.server.media.metaData s.item.metaData)
    (himage : ∀ imgBuffer, shownImage s.item = some imgBuffer →
      s.server.media.ImageOk minSize (s.item.metaData.val .assetId) imgBuffer) :
    Synced minSize s (((s.server.media.takeObject minSize
      (getAVMetaData s.item queueImage)).takePlaybackState s.item.playbackState).takeCommands
        s.supportedCmd) := by
  have hpatch := patch_getAVMetaData s.item queueImage
  refine ⟨?_, ?_, Media.takeCommands_commands _, fun imgBuffer hshown => Or.inr ?_⟩
  · rw [Media.takeCommands_metaData, Media.takePlaybackState_metaData, Media.takeObject_metaData]
    obtain ⟨c, hc⟩ := h.session.replay
    have htake : s.server.media.metaData.take (getAVMetaData s.item queueImage) =
        shownMetaData s.item.metaData := by
      rw [← hstale.take_eq h.session.wellFormed]
      unfold MetaDataCache.take
      rw [hpatch]
    rw [htake, hc]
    exact foldl_take_replay s.item.tasks c
  · rw [Media.takeCommands_playback, Media.takePlaybackState_playback]
    unfold PlaybackStateCache.take
    refine PlaybackStateCache.ext ?_ ?_ <;> dsimp only <;> split_ifs <;> rfl
  · have hkey : (getAVMetaData s.item queueImage).val .assetId = s.item.metaData.val .assetId :=
      congrArg Patch.key hpatch
    have hok := himage imgBuffer hshown
    rw [Media.takeCommands_toldImage, Media.takePlaybackState_toldImage]
    exact ⟨hok.2.1, h.told.toldImage_takeObject
      (getAVMetaData_mediaImage h.session.wellFormed queueImage hshown) (hkey ▸ hok)⟩

omit [DecidableEq ω] in
/-- **The arrival of the session.** -/
theorem arriveTask (h : MediaInv d minSize s) {x : String} {tasks : List Task}
    (htasks : s.server.tasks = .front (.arrive x) :: tasks) (queueImage : List UInt8)
    (bundleIcon : Option (List UInt8))
    (hok : s.server.isNeedByRemote = true →
      NothingStale s.server.metaDataCache s.item.metaData ∧
        Media.HasState s.server.playbackStateCache s.item.playbackState ∧
        ∀ imgBuffer, shownImage s.item = some imgBuffer →
          s.server.media.ImageOk minSize (s.item.metaData.val .assetId) imgBuffer) :
    MediaInv d minSize { s with
      server := MigrateAVSessionServer.arriveTask { s.server with tasks } minSize x true
        (s.focus d queueImage bundleIcon) } := by
  have hserver := h.server.arriveTask minSize (s.focus d queueImage bundleIcon) htasks
  have harrived := h.server.arrived_arriveTask minSize (s.focus d queueImage bundleIcon) htasks
  generalize MigrateAVSessionServer.arriveTask { s.server with tasks } minSize x true
    (s.focus d queueImage bundleIcon) = server' at *
  cases hneed : s.server.isNeedByRemote with
  | false =>
      have hmedia := harrived.rested hneed
      refine ⟨h.session, hserver, ?_, fun hk => ?_, fun hk => ?_, fun hneed' _ => ?_⟩
      · exact hmedia ▸ h.told
      · exact hmedia ▸ h.unsetState hk
      · exact hmedia ▸ h.unsetFavorite hk
      · have hneed'' : server'.isNeedByRemote = true := hneed'
        rw [harrived.need, hneed] at hneed''
        cases hneed''
  | true =>
      obtain ⟨hstale, hstate, himage⟩ := hok hneed
      have hmedia : server'.media = ((s.server.media.takeObject minSize
          (getAVMetaData s.item queueImage)).takePlaybackState
            s.item.playbackState).takeCommands s.supportedCmd :=
        harrived.told hneed _ _ rfl rfl
      have hplayback : server'.media.playback =
          s.server.media.playback.take s.item.playbackState := by
        rw [hmedia, Media.takeCommands_playback, Media.takePlaybackState_playback,
          Media.takeObject_playback]
      have hbefore : Media.HasState (s.server.media.takeObject minSize
          (getAVMetaData s.item queueImage)).playback s.item.playbackState := by
        rw [Media.takeObject_playback]
        exact hstate
      refine ⟨h.session, hserver, ?_, fun hk => ?_, fun hk => ?_, fun _ _ => ?_⟩
      · show server'.media.Told
        rw [hmedia]
        exact ((h.told.takeObject minSize _).takePlaybackState h.session.state
          hbefore).takeCommands s.supportedCmd
      · show server'.media.playback.state = -1
        rw [hplayback, PlaybackStateCache.take, hk]
        exact h.unsetState hk
      · show server'.media.playback.favorite = false
        rw [hplayback, PlaybackStateCache.take, hk]
        exact h.unsetFavorite hk
      · have hsynced := h.synced_of_focus queueImage hstale himage
        rw [← hmedia] at hsynced
        exact ⟨hsynced.metaData, hsynced.playback, hsynced.commands, hsynced.image⟩

/-- **One step** keeps the invariant, if it avoids what it has to. -/
theorem step (h : MediaInv d minSize s) (op : MediaOp ω) (hok : MediaOk minSize s op) :
    MediaInv d minSize (op.step d minSize s) := by
  cases op with
  | setAVMetaData newData queueImage =>
      obtain ⟨hasset, hplain, hartist⟩ := hok
      exact h.setAVMetaData (AVMetaData.wellFormed_of_reachable newData.2) hasset hplain hartist
        queueImage
  | setAVPlaybackState state => exact h.onPlaybackStateChange state.2 hok
  | setSupportCommand cmds => exact h.setSupportCommand cmds
  | handleMetaDataChange queueImage => exact h.handleMetaDataChange queueImage hok
  | processMediaControlNeedState version needState =>
      exact h.processMediaControlNeedState version needState
  | handleNeedStateTimer => exact h.handleNeedStateTimer
  | runTask queueImage bundleIcon =>
      unfold MediaOk at hok
      unfold MediaOp.step MigrateAVSessionServer.runTask
      dsimp only at hok ⊢
      cases htasks : s.server.tasks with
      | nil => exact h
      | cons task tasks =>
          rw [htasks] at hok
          cases task with
          | send msg =>
              have hmedia := media_send htasks
              refine ⟨h.session, h.server.send htasks, ?_, ?_, ?_, fun hneed hpending => ?_⟩
              · exact hmedia ▸ h.told
              · exact hmedia ▸ h.unsetState
              · exact hmedia ▸ h.unsetFavorite
              · have hsynced := h.synced hneed ((pendingFront_send htasks).trans hpending)
                rw [← hmedia] at hsynced
                exact ⟨hsynced.metaData, hsynced.playback, hsynced.commands, hsynced.image⟩
          | front t =>
              cases t with
              | arrive x =>
                  exact h.arriveTask htasks queueImage bundleIcon fun hneed => hok hneed x rfl
              | leave x => exact (h.server.not_leave htasks).elim

omit [DecidableEq ω] in
/-- The session has come to the front, and nothing was told of its media. -/
theorem init (need : Bool) : MediaInv d minSize (.init d need : MediaState ω) := by
  have hposted := posted_localFrontSessionArrive
    (s := { MigrateAVSessionServer.init with isNeedByRemote := need }) rfl d.nonempty
  have hmedia : (localFrontSessionArrive { MigrateAVSessionServer.init with isNeedByRemote := need }
      d.sessionId).media = MigrateAVSessionServer.init.media := by
    unfold localFrontSessionArrive
    rw [if_neg d.nonempty]
    refine (media_post_front ?_ _).trans ?_
    · show (if _ then _ else _ : MigrateAVSessionServer).isSoftbusConnecting = true
      split_ifs <;> rfl
    · show (if _ then _ else _ : MigrateAVSessionServer).media = _
      split_ifs <;> rfl
  have hserver : ServerInv d (localFrontSessionArrive
      { MigrateAVSessionServer.init with isNeedByRemote := need } d.sessionId) := by
    refine ⟨?_, fun hnull => ?_, fun msg hmsg => ?_⟩
    · exact ObserverInv.of_posted
        (s := ⟨{ MigrateAVSessionServer.init with isNeedByRemote := need }, "",
          fun _ => some true⟩)
        (ObserverInv.init.controllers.congr (fun _ => rfl) rfl rfl) hposted
        (Or.inr (Or.inl ⟨d.nonempty, rfl⟩)) fun x hx => absurd rfl hx
    · rw [hposted.controllerMap] at hnull
      cases hnull
    · rw [hposted.pendingSessionInfo] at hmsg
      cases hmsg
  unfold MediaState.init
  refine ⟨.init, hserver, ?_, fun _ => ?_, fun _ => ?_, fun _ hpending => ?_⟩
  · dsimp only
    rw [hmedia]
    exact ⟨rfl, rfl, rfl, fun h => absurd rfl h, rfl⟩
  · dsimp only
    rw [hmedia]
    rfl
  · dsimp only
    rw [hmedia]
    rfl
  · dsimp only at hpending
    rw [hposted.front] at hpending
    cases hpending

end MediaInv

end steps

/-! ## Whole runs -/

section runs

variable (d : AVSessionDescriptor) (minSize : List UInt8 → Option (List UInt8))

/-- **The remote ends with the media of the session.** In a run that avoids what it has to, what
was transmitted last is what the session shows, whenever the remote needs it and nothing is
pending. -/
theorem media_always [DecidableEq ω] (need : Bool) (ops : List (MediaOp ω))
    (h : Meets (MediaOp.step d minSize) (MediaOk minSize) (.init d need) ops) :
    Always (MediaOp.step d minSize) (MediaAgrees minSize) (.init d need) ops :=
  (always_of_meets (P := MediaInv d minSize) (fun _ op hs hok => hs.step op hok) (.init need)
    h).mono fun _ => MediaInv.agrees

/-- A session. -/
def someDescriptor : AVSessionDescriptor := ⟨"a", 1, "", "", "", by decide⟩

/-- An object with a title. -/
def titled : { m : AVMetaData // m.Reachable } :=
  ⟨(AVMetaData.init.setAssetId "1").setTitle "t", .setter .title "t" (.setter .assetId "1" .init)⟩

/-- The session plays. -/
def playing : { state : AVPlaybackState Unit // 0 ≤ state.val .state } :=
  ⟨AVPlaybackState.init.set .state (2 : ℤ), Int.zero_le_ofNat 2⟩

/-- The session is a favourite one, and says nothing of its state. -/
def favourite : { state : AVPlaybackState Unit // 0 ≤ state.val .state } :=
  ⟨AVPlaybackState.init.set .isFavorite true, Int.le_refl 0⟩

/-- What was set during a pause is transmitted after it. -/
theorem transmitted_after_pause :
    (TaskQueue.lastOn metaData? (run (MediaOp.step someDescriptor fun _ => none)
      (.init someDescriptor false)
      [.setAVMetaData titled [], .setAVPlaybackState playing, .setSupportCommand [0],
        .handleMetaDataChange [], .runTask [] none, .runTask [] none,
        .processMediaControlNeedState none (some true), .runTask [] none, .runTask [] none,
        .runTask [] none, .runTask [] none]).server.sent).getD .reset = ⟨"t", "", "1"⟩ := by
  have hmeets : Meets (MediaOp.step someDescriptor fun _ => none) (MediaOk fun _ => none)
      (.init someDescriptor false)
      [.setAVMetaData titled [], .setAVPlaybackState playing, .setSupportCommand [0],
        .handleMetaDataChange [], .runTask [] none, .runTask [] none,
        .processMediaControlNeedState none (some true), .runTask [] none, .runTask [] none,
        .runTask [] none, .runTask [] none] := by
    refine ⟨⟨?_, ⟨rfl, ?_⟩, fun h => ?_⟩, fun h => (nomatch h), trivial, fun h => (nomatch h),
      fun h => (nomatch h), fun h => (nomatch h), trivial, fun _ x _ => ⟨fun h => ?_, ?_, ?_⟩,
      fun _ x h => (nomatch h), fun _ x h => (nomatch h), fun _ x h => (nomatch h), trivial⟩
    · exact (by decide : "1" ≠ "")
    · intro i v hv
      cases i with
      | title => exact Option.some.inj hv ▸ rfl
      | artist => cases hv
    · exact absurd h (by decide : "1" ≠ "")
    · exact absurd h (by decide : "1" ≠ "")
    · exact fun _ hmask => nomatch hmask
    · exact fun _ himage => nomatch himage
  exact ((media_always someDescriptor _ false _ hmeets).last rfl rfl rfl rfl).1

/-- A placeholder is transmitted for the state of a session that only told of the flag. -/
theorem placeholder_transmitted :
    ¬ Always (MediaOp.step someDescriptor fun _ => none) (MediaAgrees fun _ => none)
      (.init someDescriptor true)
      [.runTask [] none, .runTask [] none, .setAVPlaybackState favourite, .runTask [] none] := by
  intro h
  have hplayback := (h.last rfl rfl rfl rfl).2.1
  have hstate : (-1 : ℤ) = 0 := congrArg PlaybackStateCache.state hplayback
  exact absurd hstate (by decide)

end runs

end AvSession.Migrate
