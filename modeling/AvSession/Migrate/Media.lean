import AvSession.Lib.KeyedRecord
import AvSession.Migrate.Frames

/-!
# What the remote is told about the media

Metadata, image, playback state and commands go over channels of their own. Each keeps what it sent
last, and sends what differs from it.

* `Media` — the caches of the channels, and the last message on each, sent or waiting.
* `Media.takeMetaData`, `Media.takeImage`, `Media.takePlaybackState`, `Media.takeCommands` — what a
  channel makes of an object, without the queue and the rest of the server.
* `media_handleFocusMetaDataChange` and the lemmas next to it — the server does this while the
  remote needs the messages, and leaves the media alone otherwise.
-/

namespace AvSession.Migrate

open AvSession.Lib AvSession.Meta

variable {ω : Type}

/-! ## The caches -/

section caches

/-- The texts of the metadata cache, next to the asset id. -/
inductive CacheField
  | title
  | artist
deriving DecidableEq

namespace MetaDataCache

/-- The asset id is the key of the cache. -/
def record (c : MetaDataCache) : KeyedRecord String (fun _ : CacheField => String) where
  key := c.assetId
  val
    | .title => c.title
    | .artist => c.artist

/-- The cache of a record. -/
def ofRecord (r : KeyedRecord String (fun _ : CacheField => String)) : MetaDataCache :=
  ⟨r.val .title, r.val .artist, r.key⟩

/-- A cache is that of its record. -/
@[simp] theorem ofRecord_record (c : MetaDataCache) : ofRecord c.record = c := rfl

/-- A record is that of its cache. -/
@[simp] theorem record_ofRecord (r : KeyedRecord String (fun _ : CacheField => String)) :
    (ofRecord r).record = r := by
  refine KeyedRecord.ext rfl (funext fun i => ?_)
  cases i <;> rfl

/-- What an object says about the texts: the subtitle counts if it has no artist. -/
def patch (data : AVMetaData) : Patch String (fun _ : CacheField => String) where
  key := data.val .assetId
  val
    | .title => if data.mask .title then some (data.val .title) else none
    | .artist =>
        if data.mask .artist then some (data.val .artist)
        else if data.mask .subTitle then some (data.val .subTitle)
        else none

/-- The cache after an object. -/
def take (c : MetaDataCache) (data : AVMetaData) : MetaDataCache :=
  ofRecord (c.record.apply (fun _ => "") (patch data))

/-- What is transmitted of a cache: each text up to its first NUL. -/
def written (c : MetaDataCache) : MetaDataCache := ⟨cStr c.title, cStr c.artist, cStr c.assetId⟩

/-- The record takes the patch of an object. -/
theorem record_take (c : MetaDataCache) (data : AVMetaData) :
    (c.take data).record = c.record.apply (fun _ => "") (patch data) :=
  record_ofRecord _

/-- The asset of the cache is that of the object. -/
@[simp] theorem take_assetId (c : MetaDataCache) (data : AVMetaData) :
    (c.take data).assetId = data.val .assetId := rfl

variable {c : MetaDataCache} {data : AVMetaData}

/-- With the asset of the cache, texts that are left out stay. -/
theorem take_of_eq (h : data.val .assetId = c.assetId) : c.take data =
    { c with
      title := ((patch data).val .title).getD c.title
      artist := ((patch data).val .artist).getD c.artist } := by
  unfold take KeyedRecord.apply ofRecord record
  dsimp only
  rw [show (patch data).key = c.assetId from h, if_pos rfl, if_pos rfl]

/-- Of a cache without a NUL all is transmitted. -/
def Plain (c : MetaDataCache) : Prop := c.written = c

/-- No text that an object brings has a NUL. -/
structure PlainTexts (data : AVMetaData) : Prop where
  assetId : cStr (data.val .assetId) = data.val .assetId
  val : ∀ i, ∀ v ∈ (patch data).val i, cStr v = v

/-- A cache is plain if its three texts are. -/
theorem plain_iff : c.Plain ↔
    cStr c.title = c.title ∧ cStr c.artist = c.artist ∧ cStr c.assetId = c.assetId :=
  MetaDataCache.ext_iff

/-- With another asset, texts that are left out are empty. -/
theorem take_of_ne (h : data.val .assetId ≠ c.assetId) : c.take data =
    ⟨((patch data).val .title).getD "", ((patch data).val .artist).getD "", data.val .assetId⟩ := by
  have hkey : (patch data).key ≠ c.assetId := h
  unfold take KeyedRecord.apply ofRecord record
  dsimp only
  rw [if_neg hkey, if_neg hkey]
  rfl

/-- A text that is brought has no NUL, and neither has the one it replaces. -/
theorem PlainTexts.getD (h : PlainTexts data) (i : CacheField) {v : String} (hv : cStr v = v) :
    cStr (((patch data).val i).getD v) = ((patch data).val i).getD v := by
  cases hnew : (patch data).val i with
  | none => exact hv
  | some w => exact h.val i w hnew

/-- A cache without a NUL stays so with the texts of an object without one. -/
theorem Plain.take (h : c.Plain) (hplain : PlainTexts data) : (c.take data).Plain := by
  obtain ⟨htitle, hartist, -⟩ := plain_iff.mp h
  rw [plain_iff]
  by_cases hsame : data.val .assetId = c.assetId
  · rw [take_of_eq hsame]
    exact ⟨hplain.getD .title htitle, hplain.getD .artist hartist, hsame ▸ hplain.assetId⟩
  · rw [take_of_ne hsame]
    exact ⟨hplain.getD .title rfl, hplain.getD .artist rfl, hplain.assetId⟩

/-- With the asset of the cache, a difference is one of the texts. -/
theorem take_ne_iff (h : data.val .assetId = c.assetId) : c.take data ≠ c ↔
    ((patch data).val .title).getD c.title ≠ c.title ∨
      ((patch data).val .artist).getD c.artist ≠ c.artist := by
  rw [take_of_eq h, ne_eq, MetaDataCache.ext_iff]
  simp only [and_true, not_and_or, ne_eq]

end MetaDataCache

/-- The cache after an object. -/
def PlaybackStateCache.take (c : PlaybackStateCache) (state : AVPlaybackState ω) :
    PlaybackStateCache where
  state := if state.mask .state then state.val .state else c.state
  favorite := if state.mask .isFavorite then state.val .isFavorite else c.favorite

end caches

/-! ## The channels -/

section channels

/-- The cache and the last message of each channel. -/
structure Media where
  metaData : MetaDataCache
  curAssetId : String
  imageTopic : String
  playback : PlaybackStateCache
  commands : List ℤ
  toldMetaData : Option MetaDataCache
  toldImage : Option (List UInt8)
  toldPlayback : Option PlaybackStateCache
  toldCommands : Option (List UInt8)

/-- What stands for an image of an asset. -/
def topicOf (assetId : String) (imgBuffer : List UInt8) : String :=
  assetId ++ toString (MigrateAVSessionServer.mediaImgTopicNum imgBuffer)

namespace Media

open MigrateAVSessionServer

variable (m : Media)

/-- Metadata is sent if it makes a difference. -/
def takeMetaData (data : AVMetaData) : Media :=
  if m.metaData.take data = m.metaData then m
  else
    { m with
      metaData := m.metaData.take data
      curAssetId :=
        if data.val .assetId ≠ m.metaData.assetId then data.val .assetId else m.curAssetId
      toldMetaData := some (m.metaData.take data).written }

/-- An image is sent if it is large enough, has another topic, and can be made small. -/
def takeImage (minSize : List UInt8 → Option (List UInt8)) (imgBuffer : List UInt8) : Media :=
  if imgBuffer.length ≤ DEFAULT_QUALITY ∨ m.imageTopic = topicOf m.curAssetId imgBuffer then m
  else
    { m with
      imageTopic := topicOf m.curAssetId imgBuffer
      toldImage := (minSize imgBuffer).or m.toldImage }

/-- Metadata, and its image. -/
def takeObject (minSize : List UInt8 → Option (List UInt8)) (data : AVMetaData) : Media :=
  match data.val .mediaImage with
  | none => m.takeMetaData data
  | some imgBuffer => (m.takeMetaData data).takeImage minSize imgBuffer

/-- A playback state is sent if it makes a difference. -/
def takePlaybackState (state : AVPlaybackState ω) : Media :=
  if m.playback.take state = m.playback then m
  else
    { m with
      playback := m.playback.take state, toldPlayback := some (m.playback.take state) }

/-- Commands are sent if they are others. -/
def takeCommands (commands : List ℤ) : Media :=
  if commands = m.commands then m
  else { m with commands := commands, toldCommands := some (commandsStr commands) }

end Media

/-- The metadata that a message is about. -/
def metaData? : Message → Option MetaDataCache
  | .syncFocusMetaInfo title artist assetId => some ⟨title, artist, assetId⟩
  | _ => none

/-- The image that a message is about. -/
def image? : Message → Option (List UInt8)
  | .syncFocusMediaImage _ image => some image
  | _ => none

/-- The playback state that a message is about. -/
def playbackState? : Message → Option PlaybackStateCache
  | .syncFocusPlayState state favorState => some ⟨state, favorState⟩
  | _ => none

/-- The commands that a message is about. -/
def commands? : Message → Option (List UInt8)
  | .syncFocusValidCommands commands => some commands
  | _ => none

/-- A projection that looks at the messages of one name. -/
def IsChannel {β : Type} (p : Message → Option β) (name : TaskName) : Prop :=
  ∀ msg, p msg ≠ none ↔ msg.name = name

/-- The messages about metadata have a name of their own. -/
theorem isChannel_metaData? : IsChannel metaData? .syncFocusMetaInfo := by
  intro msg
  cases msg <;> simp [metaData?, Message.name]

/-- So do those about the image. -/
theorem isChannel_image? : IsChannel image? .syncFocusMediaImage := by
  intro msg
  cases msg <;> simp [image?, Message.name]

/-- So do those about the playback. -/
theorem isChannel_playbackState? : IsChannel playbackState? .syncFocusPlayState := by
  intro msg
  cases msg <;> simp [playbackState?, Message.name]

/-- So do those about the commands. -/
theorem isChannel_commands? : IsChannel commands? .syncFocusValidCommands := by
  intro msg
  cases msg <;> simp [commands?, Message.name]

/-- A message is the last one on its channel. -/
def Media.tell (m : Media) (msg : Message) : Media :=
  { m with
    toldMetaData := (metaData? msg).or m.toldMetaData
    toldImage := (image? msg).or m.toldImage
    toldPlayback := (playbackState? msg).or m.toldPlayback
    toldCommands := (commands? msg).or m.toldCommands }

end channels

/-! ## The server does what the channels do -/

namespace MigrateAVSessionServer

section media

/-- The last entry on a channel, of the messages sent and those waiting. -/
def lastOf {β : Type} (p : Message → Option β) (s : MigrateAVSessionServer) : Option β :=
  TaskQueue.lastPosted Task.message? p s.sent s.tasks

/-- The media part of the server. -/
def media (s : MigrateAVSessionServer) : Media where
  metaData := s.metaDataCache
  curAssetId := s.curAssetId
  imageTopic := s.mediaImgTopicStr
  playback := s.playbackStateCache
  commands := s.validCommands
  toldMetaData := s.lastOf metaData?
  toldImage := s.lastOf image?
  toldPlayback := s.lastOf playbackState?
  toldCommands := s.lastOf commands?

variable {s : MigrateAVSessionServer}

/-! ### Posting and sending -/

section queue

variable (hconnected : s.isSoftbusConnecting = true) {β : Type} {p : Message → Option β}
  {name : TaskName}

include hconnected

/-- A message that is posted is the last one on its channel. -/
theorem lastOf_postMessage (hp : IsChannel p name) (msg : Message) :
    (s.postMessage msg).lastOf p = (p msg).or (s.lastOf p) := by
  have hsent : (s.postMessage msg).sent = s.sent := (OnlyMessages.postMessage s msg).sent
  unfold lastOf
  rw [hsent]
  unfold postMessage
  rw [tasks_migratePostTask hconnected]
  cases hmsg : p msg with
  | some b => exact TaskQueue.lastPosted_post_self rfl hmsg
  | none =>
      refine TaskQueue.lastPosted_post_other hmsg fun t ht => ?_
      cases t with
      | front t => exact absurd rfl ht
      | send msg' =>
          intro hname
          exact (hp msg).mpr (hname.symm.trans ((hp msg').mp ht)) hmsg

/-- A front task is on no channel. -/
theorem lastOf_post_front (p : Message → Option β) (t : FrontTask) :
    (s.migratePostTask (.front t)).lastOf p = s.lastOf p := by
  have hsent : (s.migratePostTask (.front t)).sent = s.sent :=
    (posted_migratePostTask hconnected t).sent
  unfold lastOf
  rw [hsent, tasks_migratePostTask hconnected]
  refine TaskQueue.lastPosted_post_other rfl fun t' ht' => ?_
  cases t' with
  | front t' => exact absurd rfl ht'
  | send msg => exact name_ne_front msg

omit hconnected in
/-- A message that is sent was waiting. -/
theorem lastOf_send {msg : Message} {tasks : List Task} (h : s.tasks = .send msg :: tasks) :
    lastOf p { s with tasks, sent := s.sent ++ [msg] } = s.lastOf p := by
  unfold lastOf
  rw [h]
  exact TaskQueue.lastPosted_send rfl

omit hconnected in
/-- A front task has no message. -/
theorem lastOf_front {t : FrontTask} {tasks : List Task} (h : s.tasks = .front t :: tasks) :
    lastOf p { s with tasks } = s.lastOf p := by
  unfold lastOf
  rw [h]
  exact TaskQueue.lastPosted_drop rfl

/-- A message that is posted is told. -/
theorem media_postMessage (msg : Message) : (s.postMessage msg).media = s.media.tell msg := by
  unfold media Media.tell
  simp only [lastOf_postMessage hconnected isChannel_metaData?,
    lastOf_postMessage hconnected isChannel_image?,
    lastOf_postMessage hconnected isChannel_playbackState?,
    lastOf_postMessage hconnected isChannel_commands?]
  unfold postMessage migratePostTask
  rw [hconnected]
  rfl

/-- A front task leaves the media. -/
theorem media_post_front (t : FrontTask) : (s.migratePostTask (.front t)).media = s.media := by
  unfold media
  simp only [lastOf_post_front hconnected]
  unfold migratePostTask
  rw [hconnected]
  rfl

end queue

/-- So does sending what was waiting. -/
theorem media_send {msg : Message} {tasks : List Task} (h : s.tasks = .send msg :: tasks) :
    media { s with tasks, sent := s.sent ++ [msg] } = s.media := by
  unfold media
  simp only [lastOf_send h]

/-- So does taking a front task. -/
theorem media_front {t : FrontTask} {tasks : List Task} (h : s.tasks = .front t :: tasks) :
    media { s with tasks } = s.media := by
  unfold media
  simp only [lastOf_front h]

/-! ### The channels -/

section channels

variable (data : AVMetaData) (state : AVPlaybackState ω) (commands : List ℤ)
  (minSize : List UInt8 → Option (List UInt8)) (imgBuffer : List UInt8)

/-- Another asset empties the cache. -/
theorem checkAssetId_eq : s.checkAssetId data =
    ({ s with
       metaDataCache :=
         if data.val .assetId ≠ s.metaDataCache.assetId then
           { MetaDataCache.reset with assetId := data.val .assetId }
         else s.metaDataCache
       curAssetId :=
         if data.val .assetId ≠ s.metaDataCache.assetId then data.val .assetId
         else s.curAssetId }, decide (data.val .assetId ≠ s.metaDataCache.assetId)) := by
  unfold checkAssetId
  split_ifs with hasset
  · rw [decide_eq_true hasset]
  · rw [decide_eq_false hasset]

/-- A text is taken if it is there. -/
theorem checkTitle_eq (needRefresh : Bool) : s.checkTitle needRefresh data =
    ({ s with
       metaDataCache :=
         { s.metaDataCache with
           title := ((MetaDataCache.patch data).val .title).getD s.metaDataCache.title } },
      needRefresh ||
        decide (((MetaDataCache.patch data).val .title).getD s.metaDataCache.title ≠
          s.metaDataCache.title)) := by
  unfold checkTitle MetaDataCache.patch
  dsimp only
  by_cases hmask : data.mask .title = true
  · simp only [hmask, true_and, if_true, Option.getD_some]
    split_ifs with htitle
    · rw [decide_eq_true htitle, Bool.or_true]
    · rw [decide_eq_false htitle, Bool.or_false, not_not.mp htitle]
  · simp [hmask]

/-- The artist is taken if it is there, and the subtitle otherwise. -/
theorem checkArtist_eq (needRefresh : Bool) : s.checkArtist needRefresh data =
    ({ s with
       metaDataCache :=
         { s.metaDataCache with
           artist := ((MetaDataCache.patch data).val .artist).getD s.metaDataCache.artist } },
      needRefresh ||
        decide (((MetaDataCache.patch data).val .artist).getD s.metaDataCache.artist ≠
          s.metaDataCache.artist)) := by
  unfold checkArtist MetaDataCache.patch
  dsimp only
  cases data.mask .artist with
  | true =>
      simp only [true_and, if_true, Option.getD_some]
      split_ifs with hne
      · rw [decide_eq_true hne, Bool.or_true]
      · rw [decide_eq_false hne, Bool.or_false, not_not.mp hne]
      · rw [decide_eq_false hne, Bool.or_false, not_not.mp hne]
  | false =>
      cases data.mask .subTitle with
      | true =>
          simp only [Bool.false_eq_true, false_and, true_and, if_false, if_true, Option.getD_some]
          split_ifs with hne
          · rw [decide_eq_true hne, Bool.or_true]
          · rw [decide_eq_false hne, Bool.or_false, not_not.mp hne]
      | false => simp

/-- **The metadata cache.** While the remote needs the messages, the cache takes the object, and the
result tells whether that made a difference. -/
theorem checkPostMetaData_eq (hneed : s.isNeedByRemote = true) : s.checkPostMetaData data =
    ({ s with
       metaDataCache := s.metaDataCache.take data
       curAssetId :=
         if data.val .assetId ≠ s.metaDataCache.assetId then data.val .assetId
         else s.curAssetId }, decide (s.metaDataCache.take data ≠ s.metaDataCache)) := by
  have hskip : ¬ (!s.isNeedByRemote) = true := by rw [hneed]; exact Bool.false_ne_true
  unfold checkPostMetaData
  dsimp only
  rw [if_neg hskip, checkAssetId_eq, checkTitle_eq, checkArtist_eq]
  by_cases hasset : data.val .assetId ≠ s.metaDataCache.assetId
  · have htake := MetaDataCache.take_of_ne hasset
    have hne : s.metaDataCache.take data ≠ s.metaDataCache := fun h =>
      hasset (congrArg MetaDataCache.assetId h)
    dsimp only
    rw [decide_eq_true hne, decide_eq_true hasset, if_pos hasset, if_pos hasset, htake]
    rfl
  · have htake := MetaDataCache.take_of_eq (not_not.mp hasset)
    dsimp only
    refine Prod.ext ?_ ?_
    · dsimp only
      rw [if_neg hasset, if_neg hasset, htake]
    · dsimp only
      rw [decide_eq_false hasset, if_neg hasset, Bool.false_or, ← Bool.decide_or]
      exact decide_eq_decide.mpr (MetaDataCache.take_ne_iff (not_not.mp hasset)).symm

/-- A state that is set is taken. -/
theorem checkState_eq : s.checkState state =
    ({ s with
       playbackStateCache :=
         { s.playbackStateCache with state := (s.playbackStateCache.take state).state } },
      decide ((s.playbackStateCache.take state).state ≠ s.playbackStateCache.state)) := by
  unfold checkState PlaybackStateCache.take
  cases state.mask .state with
  | true =>
      simp only [true_and, if_true]
      split_ifs with hne
      · rw [decide_eq_true hne]
      · rw [decide_eq_false hne, not_not.mp hne]
  | false => simp

/-- A favourite flag that is set is taken. -/
theorem checkFavorite_eq (needRefresh : Bool) : s.checkFavorite needRefresh state =
    ({ s with
       playbackStateCache :=
         { s.playbackStateCache with favorite := (s.playbackStateCache.take state).favorite } },
      needRefresh ||
        decide ((s.playbackStateCache.take state).favorite ≠ s.playbackStateCache.favorite)) := by
  unfold checkFavorite PlaybackStateCache.take
  cases state.mask .isFavorite with
  | true =>
      simp only [true_and, if_true]
      split_ifs with hne
      · rw [decide_eq_true hne, Bool.or_true]
      · rw [decide_eq_false hne, Bool.or_false, not_not.mp hne]
  | false => simp

/-- **The playback cache.** -/
theorem checkPostPlaybackState_eq (hneed : s.isNeedByRemote = true) :
    s.checkPostPlaybackState state =
      ({ s with playbackStateCache := s.playbackStateCache.take state },
        decide (s.playbackStateCache.take state ≠ s.playbackStateCache)) := by
  have hskip : ¬ (!s.isNeedByRemote) = true := by rw [hneed]; exact Bool.false_ne_true
  unfold checkPostPlaybackState
  rw [if_neg hskip]
  dsimp only
  rw [checkState_eq, checkFavorite_eq]
  refine Prod.ext rfl ?_
  dsimp only
  rw [← Bool.decide_or]
  refine decide_eq_decide.mpr ?_
  rw [ne_eq (s.playbackStateCache.take state), PlaybackStateCache.ext_iff, not_and_or]
  rfl

variable (hconnected : s.isSoftbusConnecting = true)

include hconnected

/-- The texts of the metadata. -/
theorem media_doMetaDataSyncToRemote (hneed : s.isNeedByRemote = true) :
    (s.doMetaDataSyncToRemote data).media = s.media.takeMetaData data := by
  unfold doMetaDataSyncToRemote Media.takeMetaData
  rw [checkPostMetaData_eq data hneed]
  dsimp only
  by_cases hsame : s.media.metaData.take data = s.media.metaData
  · have hcache : s.metaDataCache.take data = s.metaDataCache := hsame
    have hasset : ¬ data.val .assetId ≠ s.metaDataCache.assetId :=
      not_not.mpr (congrArg MetaDataCache.assetId hcache)
    rw [if_pos (by rw [decide_eq_false (not_not.mpr hcache)]; rfl), if_pos hsame, hcache,
      if_neg hasset]
  · have hcache : s.metaDataCache.take data ≠ s.metaDataCache := hsame
    rw [if_neg (by rw [decide_eq_true hcache]; exact Bool.false_ne_true), if_neg hsame]
    refine media_postMessage ?_ _
    exact hconnected

/-- The image. -/
theorem media_doMediaImageSyncToRemote (hneed : s.isNeedByRemote = true) :
    (s.doMediaImageSyncToRemote minSize imgBuffer).media =
      s.media.takeImage minSize imgBuffer := by
  have hcheck : (!s.isNeedByRemote || decide (imgBuffer.length ≤ DEFAULT_QUALITY) ||
      s.mediaImgTopicStr == s.mediaImgTopic imgBuffer) = true ↔
        imgBuffer.length ≤ DEFAULT_QUALITY ∨
          s.mediaImgTopicStr = topicOf s.curAssetId imgBuffer := by
    rw [hneed, Bool.not_true, Bool.false_or, Bool.or_eq_true, decide_eq_true_iff, beq_iff_eq]
    rfl
  unfold doMediaImageSyncToRemote checkPostMediaImage Media.takeImage
  dsimp only
  by_cases hskip : imgBuffer.length ≤ DEFAULT_QUALITY ∨
      s.media.imageTopic = topicOf s.media.curAssetId imgBuffer
  · rw [if_pos (hcheck.mpr hskip), if_pos hskip]
    rfl
  · rw [if_neg (mt hcheck.mp hskip), if_neg hskip]
    cases minSize imgBuffer with
    | none => rfl
    | some imgBufferMin =>
        refine media_postMessage ?_ _
        exact hconnected

/-- **Metadata and image.** -/
theorem media_handleFocusMetaDataChange (hneed : s.isNeedByRemote = true) :
    (s.handleFocusMetaDataChange minSize data).media = s.media.takeObject minSize data := by
  unfold handleFocusMetaDataChange Media.takeObject
  cases data.val .mediaImage with
  | none => exact media_doMetaDataSyncToRemote data hconnected hneed
  | some imgBuffer =>
      have hframe := onlyMedia_doMetaDataSyncToRemote s data
      dsimp only
      rw [media_doMediaImageSyncToRemote minSize imgBuffer (hframe.connecting.trans hconnected)
        (hframe.need.trans hneed), media_doMetaDataSyncToRemote data hconnected hneed]

/-- **Playback.** -/
theorem media_doPlaybackStateSyncToRemote (hneed : s.isNeedByRemote = true) :
    (s.doPlaybackStateSyncToRemote state).media = s.media.takePlaybackState state := by
  unfold doPlaybackStateSyncToRemote Media.takePlaybackState
  rw [checkPostPlaybackState_eq state hneed]
  dsimp only
  by_cases hsame : s.media.playback.take state = s.media.playback
  · have hcache : s.playbackStateCache.take state = s.playbackStateCache := hsame
    rw [if_pos (by rw [decide_eq_false (not_not.mpr hcache)]; rfl), if_pos hsame, hcache]
  · have hcache : s.playbackStateCache.take state ≠ s.playbackStateCache := hsame
    rw [if_neg (by rw [decide_eq_true hcache]; exact Bool.false_ne_true), if_neg hsame]
    refine media_postMessage ?_ _
    exact hconnected

/-- **Commands.** -/
theorem media_doValidCommandsSyncToRemote (hneed : s.isNeedByRemote = true) :
    (s.doValidCommandsSyncToRemote commands).media = s.media.takeCommands commands := by
  have hcheck : (!s.isNeedByRemote || commands == s.validCommands) = true ↔
      commands = s.validCommands := by
    rw [hneed, Bool.not_true, Bool.false_or, beq_iff_eq]
  unfold doValidCommandsSyncToRemote checkPostValidCommands Media.takeCommands
  dsimp only
  by_cases hsame : commands = s.media.commands
  · rw [if_pos (hcheck.mpr hsame), if_pos hsame]
    rfl
  · rw [if_neg (mt hcheck.mp hsame), if_neg hsame]
    refine media_postMessage ?_ _
    exact hconnected

omit hconnected in
/-- What the remote does not need changes nothing. -/
theorem handleFocusMetaDataChange_of_not_need (hneed : s.isNeedByRemote = false) :
    s.handleFocusMetaDataChange minSize data = s := by
  have hmeta : s.doMetaDataSyncToRemote data = s := by
    unfold doMetaDataSyncToRemote checkPostMetaData
    rw [hneed]
    rfl
  unfold handleFocusMetaDataChange
  rw [hmeta]
  cases data.val .mediaImage with
  | none => rfl
  | some imgBuffer =>
      dsimp only
      unfold doMediaImageSyncToRemote checkPostMediaImage
      rw [hneed]
      rfl

omit hconnected in
/-- Without need, a state changes nothing. -/
theorem doPlaybackStateSyncToRemote_of_not_need (hneed : s.isNeedByRemote = false) :
    s.doPlaybackStateSyncToRemote state = s := by
  unfold doPlaybackStateSyncToRemote checkPostPlaybackState
  rw [hneed]
  rfl

omit hconnected in
/-- Without need, commands change nothing. -/
theorem doValidCommandsSyncToRemote_of_not_need (hneed : s.isNeedByRemote = false) :
    s.doValidCommandsSyncToRemote commands = s := by
  unfold doValidCommandsSyncToRemote checkPostValidCommands
  rw [hneed]
  rfl

end channels

/-! ### The other messages -/

section others

variable (hconnected : s.isSoftbusConnecting = true)

include hconnected

/-- A message about the session is on none of the channels. -/
theorem media_post_info {msg : Message} (hinfo : info? msg ≠ none) :
    (s.postMessage msg).media = s.media := by
  rw [media_postMessage hconnected]
  cases msg with
  | syncFocusSessionInfo => rfl
  | _ => exact absurd rfl hinfo

/-- What is told about the session is no part of the media. -/
theorem media_updateSessionInfo {sessionId : String} {msg : Message} (hinfo : info? msg ≠ none) :
    (s.updateSessionInfo sessionId msg).media = s.media := by
  by_cases hrepeated : s.preSessionId = sessionId
  · rw [updateSessionInfo_of_repeated msg hrepeated]
  · by_cases hsync : s.Synced sessionId
    · rw [updateSessionInfo_of_synced msg hrepeated hsync]
      refine media_post_info ?_ hinfo
      exact hconnected
    · rw [updateSessionInfo_of_cached msg hrepeated hsync]
      rfl

/-- Neither is what waited about it. -/
theorem media_postPending (hwaiting : ∀ msg, s.pendingSessionInfo = some msg → info? msg ≠ none) :
    s.postPending.media = s.media := by
  unfold postPending
  cases hpending : s.pendingSessionInfo with
  | none => rfl
  | some msg =>
      refine media_post_info ?_ (hwaiting msg hpending)
      exact hconnected

/-- Neither is the bundle. -/
theorem media_doBundleInfoSyncToRemote (focus : FocusSession ω) :
    (s.doBundleInfoSyncToRemote focus).media = s.media := by
  unfold doBundleInfoSyncToRemote checkPostBundleInfo
  dsimp only
  by_cases hskip : (!s.isNeedByRemote || (s.curBundleName == focus.bundleName &&
      s.curAbilityName == focus.abilityName)) = true
  · rw [if_pos hskip]
    rfl
  · rw [if_neg hskip]
    cases focus.bundleIcon with
    | none => rfl
    | some imgBufferMin =>
        refine media_postMessage ?_ _
        exact hconnected

/-- The session was the last one already, so no cache is reset. -/
theorem media_localFrontSessionArrive {sessionId : String} (hlast : s.lastSessionId = sessionId) :
    (s.localFrontSessionArrive sessionId).media = s.media := by
  unfold localFrontSessionArrive
  by_cases hempty : sessionId = ""
  · rw [if_pos hempty]
  · rw [if_neg hempty, if_neg (not_not.mpr hlast)]
    refine media_post_front ?_ _
    exact hconnected

/-- **The update of a session at the front.** -/
theorem media_updateFrontSessionInfoToRemote (hneed : s.isNeedByRemote = true)
    (minSize : List UInt8 → Option (List UInt8)) (c : ControllerRef) {focus : FocusSession ω}
    {data : AVMetaData} {state : AVPlaybackState ω} (hdata : focus.metaData = some data)
    (hstate : focus.playbackState = some state) :
    (s.updateFrontSessionInfoToRemote minSize c focus).media =
      ((s.media.takeObject minSize data).takePlaybackState state).takeCommands
        focus.validCommands := by
  have hinfo : (s.updateSessionInfoToRemote c focus).media = s.media :=
    media_updateSessionInfo hconnected (Option.some_ne_none c)
  have hframe : OnlyMessages s (s.updateSessionInfoToRemote c focus) :=
    onlyMessages_updateSessionInfo s c _
  unfold updateFrontSessionInfoToRemote
  rw [hdata, hstate]
  unfold syncMetaData syncPlaybackState
  dsimp only
  have hmeta := hframe.trans
    (onlyMedia_handleFocusMetaDataChange (s.updateSessionInfoToRemote c focus) data
      minSize).toOnlyMessages
  have hplay := hmeta.trans (onlyMedia_doPlaybackStateSyncToRemote _ state).toOnlyMessages
  have hcommands := hplay.trans
    (onlyMedia_doValidCommandsSyncToRemote _ focus.validCommands).toOnlyMessages
  rw [media_doBundleInfoSyncToRemote (hcommands.connecting.trans hconnected),
    media_doValidCommandsSyncToRemote _ (hplay.connecting.trans hconnected)
      (hplay.need.trans hneed),
    media_doPlaybackStateSyncToRemote _ (hmeta.connecting.trans hconnected)
      (hmeta.need.trans hneed),
    media_handleFocusMetaDataChange _ _ (hframe.connecting.trans hconnected)
      (hframe.need.trans hneed), hinfo]

/-- Without need, only the session is told of. -/
theorem media_updateFrontSessionInfoToRemote_of_not_need (hneed : s.isNeedByRemote = false)
    (minSize : List UInt8 → Option (List UInt8)) (c : ControllerRef) (focus : FocusSession ω) :
    (s.updateFrontSessionInfoToRemote minSize c focus).media = s.media := by
  have hinfo : (s.updateSessionInfoToRemote c focus).media = s.media :=
    media_updateSessionInfo hconnected (Option.some_ne_none c)
  have hframe : OnlyMessages s (s.updateSessionInfoToRemote c focus) :=
    onlyMessages_updateSessionInfo s c _
  have hsame := hframe.need.trans hneed
  have hmeta : (s.updateSessionInfoToRemote c focus).syncMetaData minSize focus.metaData =
      s.updateSessionInfoToRemote c focus := by
    cases focus.metaData with
    | none => rfl
    | some data => exact handleFocusMetaDataChange_of_not_need data minSize hsame
  have hplay : (s.updateSessionInfoToRemote c focus).syncPlaybackState focus.playbackState =
      s.updateSessionInfoToRemote c focus := by
    cases focus.playbackState with
    | none => rfl
    | some state => exact doPlaybackStateSyncToRemote_of_not_need state hsame
  unfold updateFrontSessionInfoToRemote
  rw [hmeta, hplay, doValidCommandsSyncToRemote_of_not_need _ hsame,
    media_doBundleInfoSyncToRemote (hframe.connecting.trans hconnected), hinfo]

end others

end media

end MigrateAVSessionServer

end AvSession.Migrate
