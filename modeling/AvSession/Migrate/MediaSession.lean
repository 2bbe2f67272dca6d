import AvSession.Meta.Delivery
import AvSession.Migrate.Media

/-!
# A session at the front and the server

One session is at the front. Its changes reach the server through its controller: commands and
playback states at once, metadata in the tasks of the session. When the remote comes to need the
messages, the server asks the controller for everything.

* `MediaState`, `MediaOp`, `MediaOp.step` — the session, the server, and what can happen.
* `getAVMetaData` — what the controller gives when it is asked.
* `shownMetaData`, `shownImage` — what the remote should see of the session.
-/

namespace AvSession.Migrate

open AvSession.Lib AvSession.Meta MigrateAVSessionServer

variable {ω : Type}

/-! ## Data -/

section data

/-- What stays the same of a session.
Source: avsession_descriptor.h, `AVSessionDescriptor` -/
structure AVSessionDescriptor where
  sessionId : String
  pid : ℤ
  bundleName : String
  abilityName : String
  sessionType : String
  nonempty : sessionId ≠ ""

/-- The controller of the server: the filters let everything through.
Source: migrate_avsession_server.cpp, `MigrateAVSessionServer::CreateController` -/
def AVSessionDescriptor.controller (d : AVSessionDescriptor) : Controller :=
  ⟨d.pid, fun _ => true, fun _ => true, false⟩

/-- The session, its commands, and the server. -/
structure MediaState (ω : Type) where
  item : ItemState ω
  supportedCmd : List ℤ
  server : MigrateAVSessionServer

/-- The session comes to the front of a server that has not told the remote of any. -/
def MediaState.init (d : AVSessionDescriptor) (need : Bool) : MediaState ω where
  item := .init [d.controller]
  supportedCmd := []
  server :=
    localFrontSessionArrive { MigrateAVSessionServer.init with isNeedByRemote := need } d.sessionId

/-- A pixel map of its own is read from the file. The result tells of an image with a URI, but the
object is filled all the same.
Source: avcontroller_item.cpp, `AVControllerItem::GetAVMetaData` -/
def getAVMetaData (item : ItemState ω) (queueImage : List UInt8) : AVMetaData :=
  if item.metaData.mask .mediaImage = true then
    withQueueBuffer (item.metaData.setMediaImage (some (readImageFromFile item.imageFile [])))
      queueImage
  else item.metaData

end data

/-! ## Steps -/

section steps

variable (d : AVSessionDescriptor) (minSize : List UInt8 → Option (List UInt8))

namespace MediaState

variable (s : MediaState ω)

/-- What the controller gives to the server. -/
def focus (queueImage : List UInt8) (bundleIcon : Option (List UInt8)) : FocusSession ω where
  metaData := some (getAVMetaData s.item queueImage)
  playbackState := some s.item.playbackState
  validCommands := s.supportedCmd
  bundleName := d.bundleName
  abilityName := d.abilityName
  sessionType := d.sessionType
  bundleIcon := bundleIcon

/-- The callback, if the controller has it. -/
def notify (f : MigrateAVSessionServer → MigrateAVSessionServer) : MigrateAVSessionServer :=
  if (s.server.innerCallback d.sessionId).isSome then f s.server else s.server

/-- The metadata that reaches the callback is handled. -/
def onMetaDataChange (item : ItemState ω) : MediaState ω :=
  { s with
    item
    server := s.notify d fun server =>
      (item.metaEvents.drop s.item.metaEvents.length).foldl
        (fun server event => server.handleFocusMetaDataChange minSize event.metaOut) server }

/-- The playback state that reaches the callback is handled. -/
def onPlaybackStateChange (item : ItemState ω) : MediaState ω :=
  { s with
    item
    server := s.notify d fun server =>
      (item.playbackEvents.drop s.item.playbackEvents.length).foldl
        (fun server event => server.doPlaybackStateSyncToRemote event.stateOut) server }

end MediaState

/-- What can happen. The client sends objects that it can build, and playback states that are
valid. -/
inductive MediaOp (ω : Type)
  | setAVMetaData (newData : { m : AVMetaData // m.Reachable }) (queueImage : List UInt8)
  | setAVPlaybackState (state : { state : AVPlaybackState ω // 0 ≤ state.val .state })
  | setSupportCommand (cmds : List ℤ)
  | handleMetaDataChange (queueImage : List UInt8)
  | processMediaControlNeedState (version : Option ℤ) (needState : Option Bool)
  | handleNeedStateTimer
  | runTask (queueImage : List UInt8) (bundleIcon : Option (List UInt8))

/-- One step. -/
def MediaOp.step [DecidableEq ω] (s : MediaState ω) : MediaOp ω → MediaState ω
  | setAVMetaData newData queueImage =>
      { s with item := Meta.setAVMetaData s.item newData queueImage }
  | setAVPlaybackState state =>
      s.onPlaybackStateChange d (Meta.setAVPlaybackState s.item state)
  | setSupportCommand cmds =>
      { s with
        supportedCmd := cmds
        server := s.notify d fun server => server.doValidCommandsSyncToRemote cmds }
  | handleMetaDataChange queueImage =>
      s.onMetaDataChange d minSize (Meta.runTask s.item queueImage)
  | processMediaControlNeedState version needState =>
      { s with server := s.server.processMediaControlNeedState version needState }
  | handleNeedStateTimer => { s with server := s.server.handleNeedStateTimer }
  | runTask queueImage bundleIcon =>
      { s with server := s.server.runTask minSize true (s.focus d queueImage bundleIcon) }

end steps

/-! ## What the remote should see -/

section shown

/-- Title, artist and asset id; the subtitle of a session that has no artist. -/
def shownMetaData (m : AVMetaData) : MetaDataCache where
  title := m.val .title
  artist := if m.mask .artist then m.val .artist else m.val .subTitle
  assetId := m.val .assetId

/-- The image of the session is in its file. -/
def shownImage (item : ItemState ω) : Option (List UInt8) :=
  if item.metaData.val .mediaImage = none then none else item.imageFile

/-- State and favourite flag. -/
def shownPlayback (state : AVPlaybackState ω) : PlaybackStateCache :=
  ⟨state.val .state, state.val .isFavorite⟩

end shown

/-! ## What the session stores -/

section stored

variable {stored newData : AVMetaData}

/-- An object with an asset id has the bit of it. -/
theorem mask_assetId (h : newData.WellFormed) (hasset : newData.val .assetId ≠ "") :
    newData.mask .assetId = true := by
  by_contra hmask
  exact hasset (h.unset .assetId (by decide) (Bool.eq_false_iff.mpr hmask))

/-- A subtitle without an artist is that of the artist that the session has. -/
def KeepsArtist (stored newData : AVMetaData) : Prop :=
  newData.val .assetId = stored.val .assetId → newData.mask .artist = false →
    newData.mask .subTitle = true → stored.mask .artist = true →
      newData.val .subTitle = stored.val .artist

instance (stored newData : AVMetaData) : Decidable (KeepsArtist stored newData) :=
  inferInstanceAs (Decidable (_ → _))

/-- Another asset replaces everything. -/
theorem copyFrom_of_ne (hasset : newData.val .assetId ≠ "")
    (hne : newData.val .assetId ≠ stored.val .assetId) :
    (stored.copyFrom newData).1 = newData := by
  unfold AVMetaData.copyFrom
  rw [if_neg hasset, if_pos hne]

/-- The same asset takes the marked fields. -/
theorem copyFrom_of_eq (hasset : newData.val .assetId ≠ "")
    (hsame : newData.val .assetId = stored.val .assetId) :
    (stored.copyFrom newData).1 = stored.cloneKeys newData newData.mask := by
  unfold AVMetaData.copyFrom
  rw [if_neg hasset, if_neg (not_not.mpr hsame)]

/-- Of an object alone, a cache makes what is shown of it. -/
theorem shownMetaData_of_wellFormed (h : newData.WellFormed) :
    shownMetaData newData = ⟨((MetaDataCache.patch newData).val .title).getD "",
      ((MetaDataCache.patch newData).val .artist).getD "", newData.val .assetId⟩ := by
  unfold shownMetaData MetaDataCache.patch
  dsimp only
  refine MetaDataCache.ext ?_ ?_ rfl
  · cases hmask : newData.mask .title with
    | true => rfl
    | false => exact h.unset .title (by simp) hmask
  · cases newData.mask .artist with
    | true => rfl
    | false =>
        cases hmask : newData.mask .subTitle with
        | true => rfl
        | false => exact h.unset .subTitle (by simp) hmask

/-- The bits that are set are merged into the object of the same asset. -/
theorem shownMetaData_cloneKeys (hsame : newData.val .assetId = stored.val .assetId)
    (hartist : KeepsArtist stored newData) :
    shownMetaData (stored.cloneKeys newData newData.mask) =
      { shownMetaData stored with
        title := ((MetaDataCache.patch newData).val .title).getD (shownMetaData stored).title
        artist := ((MetaDataCache.patch newData).val .artist).getD
          (shownMetaData stored).artist } := by
  have hkeeps := hartist hsame
  unfold shownMetaData MetaDataCache.patch
  simp only [AVMetaData.cloneKeys_val, AVMetaData.cloneKeys_mask]
  refine MetaDataCache.ext ?_ ?_ ?_
  · cases newData.mask .title <;> rfl
  · cases hnew : newData.mask .artist with
    | true => simp only [Bool.or_true, if_true, Option.getD_some]
    | false =>
        cases hsub : newData.mask .subTitle with
        | false => simp only [Bool.or_false, Bool.false_eq_true, if_false, Option.getD_none]
        | true =>
            cases hold : stored.mask .artist with
            | false => rfl
            | true => exact (hkeeps hnew hsub hold).symm
  · dsimp only
    rw [hsame, ite_self]

/-- **What is stored.** Of the texts, the session stores what a cache makes of the object. -/
theorem shownMetaData_copyFrom (h : newData.WellFormed) (hasset : newData.val .assetId ≠ "")
    (hartist : KeepsArtist stored newData) :
    shownMetaData (stored.copyFrom newData).1 = (shownMetaData stored).take newData := by
  by_cases hsame : newData.val .assetId = stored.val .assetId
  · rw [copyFrom_of_eq hasset hsame, shownMetaData_cloneKeys hsame hartist,
      MetaDataCache.take_of_eq (c := shownMetaData stored) hsame]
  · rw [copyFrom_of_ne hasset hsame, shownMetaData_of_wellFormed h,
      MetaDataCache.take_of_ne (c := shownMetaData stored) hsame]

end stored

/-! ## A call -/

section call

variable (d : AVSessionDescriptor) {item : ItemState ω} {newData : AVMetaData}
  (queueImage : List UInt8)

/-- Only the server has a controller, and its filter is full. -/
theorem comparedData_eq (hcontrollers : item.controllers = [d.controller]) :
    comparedData item newData queueImage = item.metaData := by
  have hfilter : MetaKey.all.any (recordFilter item.controllers) = false := by
    rw [hcontrollers]
    rfl
  unfold comparedData
  rw [hfilter]
  rfl

/-- **A call.** The object that is stored, and the file. -/
theorem setAVMetaData_eq (hcontrollers : item.controllers = [d.controller])
    (hwell : newData.WellFormed) (hasset : newData.val .assetId ≠ "") :
    (Meta.setAVMetaData item newData queueImage).metaData =
        (if (item.metaData.copyFrom newData).1.val .mediaImage = none then
          (item.metaData.copyFrom newData).1
        else (item.metaData.copyFrom newData).1.setMediaImage (some [])) ∧
      (Meta.setAVMetaData item newData queueImage).imageFile =
        if (item.metaData.copyFrom newData).1.val .mediaImage = none then item.imageFile
        else writeImageToFile item.imageFile (mediaBytes (item.metaData.copyFrom newData).1) := by
  have hcopied : (item.metaData.copyFrom newData).2 ≠ false := by
    unfold AVMetaData.copyFrom
    rw [if_neg hasset]
    split_ifs
    · exact Bool.noConfusion
    · rw [Bool.ne_false_iff, List.any_eq_true]
      exact ⟨.assetId, MetaKey.mem_all _, mask_assetId hwell hasset⟩
  unfold Meta.setAVMetaData updateMetaData
  dsimp only
  rw [comparedData_eq d queueImage hcontrollers, if_neg hcopied]
  by_cases himage : (item.metaData.copyFrom newData).1.val .mediaImage = none
  · rw [if_pos himage, if_pos himage, if_pos himage]
    exact ⟨rfl, rfl⟩
  · rw [if_neg himage, if_neg himage, if_neg himage]
    exact ⟨rfl, rfl⟩

/-- An image that is stored is in the file, and not in memory. -/
def Cleared (m : AVMetaData) : Prop := m.val .mediaImage = none ∨ m.val .mediaImage = some []

section facts

variable (hcontrollers : item.controllers = [d.controller]) (hwell : newData.WellFormed)
  (hasset : newData.val .assetId ≠ "")

include hcontrollers hwell hasset

/-- An image that is stored is not kept in memory. -/
theorem cleared_setAVMetaData : Cleared (Meta.setAVMetaData item newData queueImage).metaData := by
  rw [(setAVMetaData_eq d queueImage hcontrollers hwell hasset).1]
  split_ifs with himage
  · exact Or.inl himage
  · exact Or.inr (AVMetaData.set_val_self ..)

/-- The stored data stay well formed. -/
theorem wellFormed_setAVMetaData (hstored : item.metaData.WellFormed) :
    (Meta.setAVMetaData item newData queueImage).metaData.WellFormed := by
  have hcopied := hstored.copyFrom hwell
  rw [(setAVMetaData_eq d queueImage hcontrollers hwell hasset).1]
  split_ifs
  · exact hcopied
  · exact hcopied.setter .mediaImage (some [])

/-- What is shown takes the new data, where the artist is kept. -/
theorem shownMetaData_setAVMetaData (hartist : KeepsArtist item.metaData newData) :
    shownMetaData (Meta.setAVMetaData item newData queueImage).metaData =
      (shownMetaData item.metaData).take newData := by
  rw [(setAVMetaData_eq d queueImage hcontrollers hwell hasset).1,
    ← shownMetaData_copyFrom hwell hasset hartist]
  split_ifs <;> rfl

/-- An object without an image leaves the image as it is, or takes it away. -/
theorem shownImage_setAVMetaData (hcleared : Cleared item.metaData)
    (himage : newData.val .mediaImage = none) {F : List UInt8}
    (hF : shownImage (Meta.setAVMetaData item newData queueImage) = some F) :
    shownImage item = some F := by
  have hcopied := AVMetaData.copyFrom_val item.metaData newData .mediaImage
  obtain ⟨hmeta, hfile⟩ := setAVMetaData_eq d queueImage hcontrollers hwell hasset
  unfold shownImage at hF ⊢
  rw [hmeta, hfile] at hF
  rw [if_neg hasset, himage] at hcopied
  by_cases hnone : (item.metaData.copyFrom newData).1.val .mediaImage = none
  · rw [if_pos hnone, if_pos hnone] at hF
    cases hF
  · have hset : ((item.metaData.copyFrom newData).1.setMediaImage (some [])).val .mediaImage =
        some [] := AVMetaData.set_val_self ..
    rw [if_neg hnone, if_neg hnone, hset, if_neg (Option.some_ne_none _)] at hF
    -- the image is the one that was stored before, and that is cleared
    split_ifs at hcopied
    · exact absurd hcopied hnone
    · rw [hcopied] at hnone
      have hempty : mediaBytes (item.metaData.copyFrom newData).1 = [] := by
        unfold mediaBytes
        rw [hcopied, hcleared.resolve_left hnone]
        rfl
      rw [hempty] at hF
      rw [if_neg hnone]
      exact hF

end facts

end call

/-! ## What the server is given -/

section given

variable (d : AVSessionDescriptor) {data : AVMetaData} {imageFile : Option (List UInt8)}

/-- The asset id and the texts are all that counts. -/
theorem patch_congr {data' : AVMetaData} (hasset : data'.val .assetId = data.val .assetId)
    (htexts : ∀ k, k = .title ∨ k = .artist ∨ k = .subTitle → data'.mask k = data.mask k ∧
      (data.mask k = true → data'.val k = data.val k)) :
    MetaDataCache.patch data' = MetaDataCache.patch data := by
  have htake : ∀ k, k = .title ∨ k = .artist ∨ k = .subTitle → ∀ other : Option k.Field,
      (if data'.mask k then some (data'.val k) else other) =
        if data.mask k then some (data.val k) else other := by
    intro k hk other
    obtain ⟨hmask, hval⟩ := htexts k hk
    rw [hmask]
    exact ite_congr rfl (fun h => congrArg some (hval h)) fun _ => rfl
  unfold MetaDataCache.patch
  rw [hasset]
  congr 1
  funext i
  cases i with
  | title => exact htake .title (Or.inl rfl) none
  | artist =>
      dsimp only
      rw [htake .artist (Or.inr (Or.inl rfl))]
      exact congrArg _ (htake .subTitle (Or.inr (Or.inr rfl)) none)

/-- The filter of the controller is full, so everything that is set is sent. -/
theorem sentKeys_controller (changedDataMask : MetaKey → Bool) :
    sentKeys d.controller data changedDataMask = data.mask := by
  funext k
  unfold sentKeys
  rw [show validMetaMask d.controller changedDataMask = fun _ => true from rfl, Bool.and_true]

/-- **A delivery.** The object that is delivered has the texts of the call and the image of the
file. -/
theorem exists_delivered (hwell : data.WellFormed) (hasset : data.val .assetId ≠ "")
    (changedDataMask : MetaKey → Bool) (imageFile : Option (List UInt8))
    (buffer queueImage : List UInt8) :
    ∃ metaOut,
      handleMetaDataChange d.controller data changedDataMask imageFile buffer queueImage =
        some metaOut ∧
      MetaDataCache.patch metaOut = MetaDataCache.patch data ∧
      metaOut.val .mediaImage =
        (data.val .mediaImage).map fun _ => readImageFromFile imageFile buffer := by
  cases hout : handleMetaDataChange d.controller data changedDataMask imageFile buffer
    queueImage with
  | none =>
      have hnone := handleMetaDataChange_eq_none_iff.mp hout .assetId
      rw [sentKeys_controller, mask_assetId hwell hasset] at hnone
      cases hnone
  | some metaOut =>
      have hdelivered := deliveredAs_of_handleMetaDataChange hout
      rw [sentKeys_controller] at hdelivered
      refine ⟨metaOut, rfl, ?_, ?_⟩
      · refine patch_congr hdelivered.assetId fun k hk => ?_
        have htext : k.type ≠ .image ∧ k ≠ .assetId ∧ k ≠ .mediaImageUri := by
          rcases hk with rfl | rfl | rfl <;> simp
        refine ⟨?_, fun hmask => ?_⟩
        · rw [hdelivered.mask, decide_eq_false htext.2.1, Bool.or_false]
        · rw [hdelivered.val k htext.1 htext.2.1 htext.2.2, if_pos hmask]
      · have hsession : ¬ (ImageWithUri data data.mask ∧ d.controller.isFromSession = true) :=
          fun h => Bool.false_ne_true h.2
        rw [hdelivered.mediaImage]
        simp only [if_neg hsession]
        cases hmask : data.mask .mediaImage with
        | true => rfl
        | false =>
            rw [hwell.unset .mediaImage (by simp) hmask]
            rfl

/-- What the controller gives when it is asked has the texts of the session. -/
theorem patch_getAVMetaData (item : ItemState ω) (queueImage : List UInt8) :
    MetaDataCache.patch (getAVMetaData item queueImage) = MetaDataCache.patch item.metaData := by
  unfold getAVMetaData AVMetaData.setMediaImage
  split_ifs
  · refine patch_congr ?_ fun k hk => ?_
    · rw [withQueueBuffer_val (by simp), AVMetaData.set_val_of_ne _ _ (by simp)]
    · have hkey : k ≠ .avQueueImage ∧ k ≠ .mediaImage := by
        rcases hk with rfl | rfl | rfl <;> simp
      refine ⟨?_, fun _ => ?_⟩
      · rw [withQueueBuffer_mask, AVMetaData.set_mask_of_ne _ _ hkey.2]
      · rw [withQueueBuffer_val hkey.1, AVMetaData.set_val_of_ne _ _ hkey.2]
  · rfl

/-- And the image of the file, if the session has one. -/
theorem getAVMetaData_mediaImage {item : ItemState ω} (hwell : item.metaData.WellFormed)
    (queueImage : List UInt8) {F : List UInt8} (hF : shownImage item = some F) :
    (getAVMetaData item queueImage).val .mediaImage = some F := by
  unfold shownImage at hF
  split_ifs at hF with himage
  have hmask : item.metaData.mask .mediaImage = true := by
    by_contra hmask
    exact himage (hwell.unset .mediaImage (by simp) (Bool.eq_false_iff.mpr hmask))
  unfold getAVMetaData
  rw [if_pos hmask, hF, withQueueBuffer_val (by simp)]
  exact AVMetaData.set_val_self ..

variable (minSize : List UInt8 → Option (List UInt8))

/-- **The next delivery** reaches the callback. -/
theorem exists_server_runTask {s : MediaState ω} {t : MetaTask} {tasks : List MetaTask}
    (htasks : s.item.tasks = t :: tasks) (hcontroller : t.controller = d.controller)
    (hwell : t.data.WellFormed) (hasset : t.data.val .assetId ≠ "") (queueImage : List UInt8) :
    ∃ metaOut, (s.onMetaDataChange d minSize (Meta.runTask s.item queueImage)).server =
        s.notify d (fun server => server.handleFocusMetaDataChange minSize metaOut) ∧
      MetaDataCache.patch metaOut = MetaDataCache.patch t.data ∧
      metaOut.val .mediaImage = (t.data.val .mediaImage).map fun _ =>
        readImageFromFile s.item.imageFile (s.item.buffers t.call) := by
  obtain ⟨metaOut, hout, hpatch, himage⟩ := exists_delivered d hwell hasset t.changedDataMask
    s.item.imageFile (s.item.buffers t.call) queueImage
  refine ⟨metaOut, ?_, hpatch, himage⟩
  have hevents : (Meta.runTask s.item queueImage).metaEvents.drop s.item.metaEvents.length =
      [⟨d.controller, metaOut⟩] := by
    unfold Meta.runTask
    rw [htasks]
    dsimp only
    rw [hcontroller, hout]
    exact List.drop_left
  unfold MediaState.onMetaDataChange
  rw [hevents]
  rfl

end given

/-! ## Playback -/

section playback

variable (d : AVSessionDescriptor) [DecidableEq ω] {item : ItemState ω}
  {state : AVPlaybackState ω}

/-- The state is stored and delivered. One that says nothing is neither. -/
theorem setAVPlaybackState_cases (hcontrollers : item.controllers = [d.controller])
    (state : AVPlaybackState ω) :
    ((∀ k, state.mask k = false) ∧ Meta.setAVPlaybackState item state = item) ∨
      ∃ stateOut : AVPlaybackState ω, Meta.setAVPlaybackState item state =
          { item with
            playbackState := (item.playbackState.copyFrom state).1
            playbackEvents := item.playbackEvents ++ [⟨d.controller, stateOut⟩] } ∧
        ∀ c : PlaybackStateCache, c.take stateOut = c.take state := by
  cases hany : PlaybackKey.all.any state.mask with
  | false =>
      refine Or.inl ⟨fun k => ?_, ?_⟩
      · exact Bool.eq_false_iff.mpr (List.any_eq_false.mp hany k (PlaybackKey.mem_all k))
      · unfold Meta.setAVPlaybackState
        exact if_pos hany
  | true =>
      have hcopied : ¬ (item.playbackState.copyFrom state).2 = false := by
        rw [show (item.playbackState.copyFrom state).2 = true from hany]
        exact Bool.noConfusion
      have hsent : ∀ k, (state.mask k && validPlaybackMask d.controller
          (changedStateMask item state) k) = state.mask k := fun k => Bool.and_true _
      generalize hstateOut : (state.copyToByMask
        (validPlaybackMask d.controller (changedStateMask item state)) .init).1 = stateOut
      have hout : handlePlaybackStateChange d.controller state (changedStateMask item state) =
          some stateOut := by
        rw [← hstateOut]
        unfold handlePlaybackStateChange
        refine if_pos ?_
        show PlaybackKey.all.any (fun k => state.mask k && _) = true
        simp only [hsent]
        exact hany
      refine Or.inr ⟨stateOut, ?_, fun c => ?_⟩
      · unfold Meta.setAVPlaybackState
        dsimp only
        rw [if_neg hcopied, hcontrollers, List.filterMap_cons, hout]
        rfl
      · have hmask : ∀ k, stateOut.mask k = state.mask k := fun k => by
          rw [← hstateOut, AVPlaybackState.copyToByMask_mask, hsent]
          exact Bool.false_or _
        have hval : ∀ k, state.mask k = true → stateOut.val k = state.val k := fun k hk => by
          rw [← hstateOut, AVPlaybackState.copyToByMask_val, hsent, if_pos hk]
        unfold PlaybackStateCache.take
        rw [hmask, hmask]
        exact PlaybackStateCache.ext (ite_congr rfl (hval .state) fun _ => rfl)
          (ite_congr rfl (hval .isFavorite) fun _ => rfl)

/-- **A playback state.** -/
theorem onPlaybackStateChange_cases {s : MediaState ω}
    (hcontrollers : s.item.controllers = [d.controller]) (state : AVPlaybackState ω) :
    ((∀ k, state.mask k = false) ∧
        s.onPlaybackStateChange d (Meta.setAVPlaybackState s.item state) = s) ∨
      ∃ (stateOut : AVPlaybackState ω) (playbackEvents : List (PlaybackEvent ω)),
        s.onPlaybackStateChange d (Meta.setAVPlaybackState s.item state) =
          { s with
            item :=
              { s.item with
                playbackState := (s.item.playbackState.copyFrom state).1, playbackEvents }
            server := s.notify d fun server => server.doPlaybackStateSyncToRemote stateOut } ∧
        ∀ c : PlaybackStateCache, c.take stateOut = c.take state := by
  rcases setAVPlaybackState_cases d hcontrollers state with
    ⟨hmask, hsame⟩ | ⟨stateOut, hset, htake⟩
  · refine Or.inl ⟨hmask, ?_⟩
    unfold MediaState.onPlaybackStateChange MediaState.notify
    rw [hsame, List.drop_length]
    exact congrArg (fun server => { s with server }) (ite_self _)
  · refine Or.inr ⟨stateOut, s.item.playbackEvents ++ [⟨d.controller, stateOut⟩], ?_, htake⟩
    unfold MediaState.onPlaybackStateChange
    rw [hset]
    dsimp only
    rw [List.drop_left]
    rfl

end playback

end AvSession.Migrate
