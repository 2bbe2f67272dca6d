import Mathlib.Data.List.ReduceOption
import AvSession.Descriptor.Codec
import AvSession.Lib.Json
import AvSession.Migrate.Server

/-!
# The list of controllers for the remote

In its mode for the first version the migration server sends the remote a list of the controllers of
the audio sessions, cut to `MAX_SESSION_NUMS`.

* `getAllControllers`, `sortControllers`, `convertControllersToStr`, `sendRemoteControllerList`.
* `Shown` — a descriptor whose session can be in the list.
* `showsTop_iff` — when the list is headed by the top session.

The list that `sortControllers` reorders is a copy of another list than the one that is sent.
-/

namespace AvSession.Migrate

open AvSession.Lib AvSession.Descriptor

/-! ## Data -/

section Data

def MAX_SESSION_NUMS : ℕ := 2
def SESSION_TYPE_AUDIO : ℤ := 0
def ANCO_AUDIO_BUNDLE_NAME : String := "anco_audio"
def ANCO_AUDIO_SESSION_TAG : String := "ancoMediaSession"

/-- What the server reads for the list. The controller that is kept for a session is the one of that
session. Source: migrate_avsession_server.h, `MigrateAVSessionServer` -/
structure ControllerLists where
  playerIdToControllerMap : String → Option (Option ControllerRef)
  sortControllerList : List ControllerRef
  topSessionId : String
  releaseSessionId : String
  controllers_self : ∀ x c, playerIdToControllerMap x = some (some c) → c = x

/-- An object of the array: what `ConvertControllerToJson` makes of a controller, and the member
`PLAYER_ID` that is added to it. -/
structure ControllerEntry where
  controller : Json
  playerId : String

/-- A message `SYNC_CONTROLLER_LIST`, to one device or to all; no entries are the message that
clears the list. -/
inductive ListMessage
  | sendByte (deviceId : String) (entries : List ControllerEntry)
  | sendByteToAll (entries : List ControllerEntry)

def ListMessage.playerIds : ListMessage → List String
  | sendByte _ entries => entries.map (·.playerId)
  | sendByteToAll entries => entries.map (·.playerId)

end Data

/-! ## The list -/

section List

/-- The sessions that the loop passes over.
Source: migrate_avsession_server.cpp, `MigrateAVSessionServer::GetAllControllers` -/
def skipped (releaseSessionId : String) (d : AVSessionDescriptor) : Bool :=
  d.sessionType != SESSION_TYPE_AUDIO || d.elementName.bundleName == "" ||
    d.elementName.bundleName == ANCO_AUDIO_BUNDLE_NAME || d.sessionTag == ANCO_AUDIO_SESSION_TAG ||
    releaseSessionId == d.sessionId

/-- `none` when the service fails to give the descriptors.
Source: migrate_avsession_server.cpp, `MigrateAVSessionServer::GetAllControllers` -/
def getAllControllers (s : ControllerLists) (descriptors : Option (List AVSessionDescriptor)) :
    Option (List (Option ControllerRef)) :=
  descriptors.map fun ds => ds.filterMap fun d =>
    if skipped s.releaseSessionId d then none else s.playerIdToControllerMap d.sessionId

/-- The list comes by value: what is reordered is the copy that is returned here.
Source: migrate_avsession_server.cpp, `MigrateAVSessionServer::SortControllers` -/
def sortControllers (topSessionId : String) (controllers : List ControllerRef) :
    List ControllerRef :=
  if topSessionId = "" then controllers
  else if topSessionId ∈ controllers then topSessionId :: controllers.erase topSessionId
  else controllers

/-- The loop over the controllers, behind the entries made so far, whose number is `sessionNums`.
Source: migrate_avsession_server.cpp, `MigrateAVSessionServer::ConvertControllersToStr` -/
def convertLoop (convertControllerToJson : ControllerRef → Json) :
    List ControllerEntry → List (Option ControllerRef) → List ControllerEntry
  | entries, [] => entries
  | entries, c :: cs =>
    if MAX_SESSION_NUMS ≤ entries.length then entries
    else
      match c with
      | none => convertLoop convertControllerToJson entries cs
      | some c =>
        convertLoop convertControllerToJson (entries ++ [⟨convertControllerToJson c, c⟩]) cs

/-- Source: migrate_avsession_server.cpp, `MigrateAVSessionServer::ConvertControllersToStr` -/
def convertControllersToStr (convertControllerToJson : ControllerRef → Json)
    (controllers : List (Option ControllerRef)) : List ControllerEntry :=
  convertLoop convertControllerToJson [] controllers

/-- The message that is sent, and whether the task `DelaySendMetaData` is posted. The message that
clears the list goes to a named device only.
Source: migrate_avsession_server.cpp, `MigrateAVSessionServer::SendRemoteControllerList` -/
def sendRemoteControllerList (convertControllerToJson : ControllerRef → Json) (s : ControllerLists)
    (descriptors : Option (List AVSessionDescriptor)) (deviceId : String) :
    Option ListMessage × Bool :=
  let _ := sortControllers s.topSessionId s.sortControllerList
  match getAllControllers s descriptors with
  | none => (none, false)
  | some [] => (if deviceId ≠ "" then some (.sendByte deviceId []) else none, false)
  | some (c :: cs) =>
    let entries := convertControllersToStr convertControllerToJson (c :: cs)
    (some (if deviceId ≠ "" then .sendByte deviceId entries else .sendByteToAll entries), true)

end List

/-! ## What is listed -/

section Listed

variable (s : ControllerLists)

/-- The session can be in the list: it is not passed over, and it has a controller. -/
def Shown (d : AVSessionDescriptor) : Bool :=
  !skipped s.releaseSessionId d && s.playerIdToControllerMap d.sessionId == some (some d.sessionId)

/-- A session is shown when it is not skipped and has its controller. -/
theorem shown_iff {d : AVSessionDescriptor} : Shown s d = true ↔
    skipped s.releaseSessionId d = false ∧
      s.playerIdToControllerMap d.sessionId = some (some d.sessionId) := by
  simp [Shown]

/-- A session that has a controller has its own. -/
theorem map_eq_of_some {x c : String} (h : s.playerIdToControllerMap x = some (some c)) :
    s.playerIdToControllerMap x = some (some x) := by
  rw [h, s.controllers_self x c h]

/-- The controllers that are not null are those of the shown sessions, in their order. -/
theorem reduceOption_getAllControllers {ds : List AVSessionDescriptor}
    {cs : List (Option ControllerRef)} (h : getAllControllers s (some ds) = some cs) :
    cs.reduceOption = (ds.filter (Shown s)).map (·.sessionId) := by
  simp only [getAllControllers, Option.map_some, Option.some.injEq] at h
  subst h
  induction ds with
  | nil => rfl
  | cons d ds ih =>
      rw [List.filterMap_cons, List.filter_cons]
      by_cases hskip : skipped s.releaseSessionId d = true
      · simpa [hskip, Shown] using ih
      · rcases hmap : s.playerIdToControllerMap d.sessionId with _ | _ | c
        · simpa [hskip, hmap, Shown] using ih
        · simpa [hskip, hmap, Shown, List.reduceOption] using ih
        · have hc := s.controllers_self _ _ hmap
          simpa [hskip, hmap, Shown, List.reduceOption, hc] using ih

/-- The loop appends the controllers that are not null, up to the cap. -/
theorem convertLoop_eq (f : ControllerRef → Json) (entries : List ControllerEntry)
    (cs : List (Option ControllerRef)) :
    convertLoop f entries cs =
      entries ++ (cs.reduceOption.take (MAX_SESSION_NUMS - entries.length)).map
        fun c => ⟨f c, c⟩ := by
  induction cs generalizing entries with
  | nil => simp [convertLoop, List.reduceOption]
  | cons c cs ih =>
      rw [convertLoop.eq_def]
      dsimp only
      by_cases hfull : MAX_SESSION_NUMS ≤ entries.length
      · rw [if_pos hfull, Nat.sub_eq_zero_of_le hfull]
        simp
      · rw [if_neg hfull]
        rcases c with _ | c
        · simpa [List.reduceOption] using ih entries
        · have hroom : MAX_SESSION_NUMS - entries.length =
              MAX_SESSION_NUMS - (entries ++ [(⟨f c, c⟩ : ControllerEntry)]).length + 1 := by
            rw [List.length_append, List.length_singleton]
            omega
          simp only [ih, hroom, List.reduceOption_cons_of_some, List.take_succ_cons, List.map_cons,
            List.append_assoc, List.cons_append, List.nil_append]

/-- The player ids of the message that is sent: the first shown sessions, as many as the cap. -/
theorem playerIds_of_sent {f : ControllerRef → Json} {ds : List AVSessionDescriptor}
    {deviceId : String} {m : ListMessage}
    (h : (sendRemoteControllerList f s (some ds) deviceId).1 = some m) :
    m.playerIds = ((ds.filter (Shown s)).map (·.sessionId)).take MAX_SESSION_NUMS := by
  obtain ⟨cs, hall⟩ : ∃ cs, getAllControllers s (some ds) = some cs := ⟨_, rfl⟩
  rw [← reduceOption_getAllControllers s hall]
  rw [sendRemoteControllerList, hall] at h
  rcases cs with _ | ⟨c, cs⟩
  · by_cases hid : deviceId = ""
    · simp [hid] at h
    · simp only [ne_eq, hid, not_false_eq_true, if_true, Option.some.injEq] at h
      subst h
      rfl
  · by_cases hid : deviceId = ""
    all_goals
      simp only [ne_eq, hid, not_true_eq_false, not_false_eq_true, if_true, if_false,
        Option.some.injEq] at h
      subst h
      simp [ListMessage.playerIds, convertControllersToStr, convertLoop_eq, Function.comp_def]

/-- With a shown session a message is sent. -/
theorem exists_sent {f : ControllerRef → Json} {ds : List AVSessionDescriptor} (deviceId : String)
    {d : AVSessionDescriptor} (hd : d ∈ ds) (hshown : Shown s d = true) :
    ∃ m, (sendRemoteControllerList f s (some ds) deviceId).1 = some m := by
  obtain ⟨cs, hall⟩ : ∃ cs, getAllControllers s (some ds) = some cs := ⟨_, rfl⟩
  have hids := reduceOption_getAllControllers s hall
  rw [sendRemoteControllerList, hall]
  rcases cs with _ | ⟨c, cs⟩
  · have hmem : d.sessionId ∈ (ds.filter (Shown s)).map (·.sessionId) :=
      List.mem_map.mpr ⟨d, List.mem_filter.mpr ⟨hd, hshown⟩, rfl⟩
    rw [← hids] at hmem
    exact absurd hmem List.not_mem_nil
  · exact ⟨_, rfl⟩

end Listed

/-! ## The top session in the list -/

section Top

variable (f : ControllerRef → Json) (s : ControllerLists) (ds : List AVSessionDescriptor)
  (deviceId : String)

/-- The top session heads the list whenever it is eligible and has a controller; the listed player
ids are distinct and belong to eligible sessions. -/
def ShowsTop : Prop :=
  ((∃ d ∈ ds, skipped s.releaseSessionId d = false ∧ d.sessionId = s.topSessionId) →
    (∃ c, s.playerIdToControllerMap s.topSessionId = some (some c)) →
    ∃ m, (sendRemoteControllerList f s (some ds) deviceId).1 = some m ∧
      m.playerIds.head? = some s.topSessionId) ∧
  ∀ m, (sendRemoteControllerList f s (some ds) deviceId).1 = some m →
    m.playerIds.Nodup ∧
      ∀ x ∈ m.playerIds, ∃ d ∈ ds, skipped s.releaseSessionId d = false ∧ d.sessionId = x

/-- The top session is the first of the shown ones, if it is one of them. -/
def TopFirst : Prop :=
  s.topSessionId ∈ (ds.filter (Shown s)).map (·.sessionId) →
    ((ds.filter (Shown s)).map (·.sessionId)).head? = some s.topSessionId

/-- The top is shown when it is listed, not skipped and has a controller. -/
theorem top_mem_iff : s.topSessionId ∈ (ds.filter (Shown s)).map (·.sessionId) ↔
    (∃ d ∈ ds, skipped s.releaseSessionId d = false ∧ d.sessionId = s.topSessionId) ∧
      ∃ c, s.playerIdToControllerMap s.topSessionId = some (some c) := by
  constructor
  · intro h
    obtain ⟨d, hd, hid⟩ := List.mem_map.mp h
    obtain ⟨hd, hshown⟩ := List.mem_filter.mp hd
    obtain ⟨hskip, hmap⟩ := (shown_iff s).mp hshown
    exact ⟨⟨d, hd, hskip, hid⟩, ⟨d.sessionId, by rw [← hid]; exact hmap⟩⟩
  · rintro ⟨⟨d, hd, hskip, hid⟩, c, hc⟩
    have hmap := map_eq_of_some s hc
    rw [← hid] at hmap
    exact List.mem_map.mpr ⟨d, List.mem_filter.mpr ⟨hd, (shown_iff s).mpr ⟨hskip, hmap⟩⟩, hid⟩

/-- The list shows the top session exactly when that is the first of the shown sessions, and the
sessions up to the cap are different ones. -/
theorem showsTop_iff : ShowsTop f s ds deviceId ↔
    TopFirst s ds ∧
      (((ds.filter (Shown s)).take MAX_SESSION_NUMS).map (·.sessionId)).Nodup := by
  have hhead : ∀ l : List String, (l.take MAX_SESSION_NUMS).head? = l.head? := by
    intro l
    rcases l with _ | ⟨x, l⟩ <;> rfl
  rw [List.map_take]
  constructor
  · rintro ⟨htop, hlist⟩
    constructor
    · intro hmem
      obtain ⟨helig, hcontroller⟩ := (top_mem_iff s ds).mp hmem
      obtain ⟨m, hm, hfirst⟩ := htop helig hcontroller
      rw [playerIds_of_sent s hm, hhead] at hfirst
      exact hfirst
    · rcases hshown : ds.filter (Shown s) with _ | ⟨d, rest⟩
      · simp
      · have hd : d ∈ ds.filter (Shown s) := by
          rw [hshown]
          exact List.mem_cons_self
        obtain ⟨hmem, hd⟩ := List.mem_filter.mp hd
        obtain ⟨m, hm⟩ := exists_sent s (f := f) deviceId hmem hd
        have hnodup := (hlist m hm).1
        rw [playerIds_of_sent s hm, hshown] at hnodup
        exact hnodup
  · rintro ⟨hfirst, hnodup⟩
    constructor
    · intro helig hcontroller
      have htop := (top_mem_iff s ds).mpr ⟨helig, hcontroller⟩
      obtain ⟨d, hd, -⟩ := List.mem_map.mp htop
      obtain ⟨hmem, hd⟩ := List.mem_filter.mp hd
      obtain ⟨m, hm⟩ := exists_sent s (f := f) deviceId hmem hd
      refine ⟨m, hm, ?_⟩
      rw [playerIds_of_sent s hm, hhead]
      exact hfirst htop
    · intro m hm
      rw [playerIds_of_sent s hm]
      refine ⟨hnodup, ?_⟩
      intro x hx
      obtain ⟨d, hd, hid⟩ := List.mem_map.mp (List.mem_of_mem_take hx)
      obtain ⟨hmem, hshown⟩ := List.mem_filter.mp hd
      exact ⟨d, hmem, ((shown_iff s).mp hshown).1, hid⟩

/-- A session of the bundle `app`. -/
def audioDescriptor (sessionId : String) : AVSessionDescriptor where
  sessionId := sessionId
  sessionType := SESSION_TYPE_AUDIO
  sessionTag := "tag"
  elementName := ⟨"", "app", "ability", ""⟩
  pid := 1
  uid := 1
  isActive := true
  isTopSession := false
  isThirdPartyApp := false
  outputDeviceInfo := ⟨[]⟩
  userId := 100
  screenUserId := 100

/-- A server that has a controller for each session. -/
def allControlled (topSessionId : String) : ControllerLists where
  playerIdToControllerMap := fun x => some (some x)
  sortControllerList := ["a", "b", "c"]
  topSessionId := topSessionId
  releaseSessionId := ""
  controllers_self := by simp

/-- Three sessions of which the last one is the top: it is not in the list at all. -/
theorem top_not_listed : ¬ ShowsTop (fun _ => .null) (allControlled "c")
    [audioDescriptor "a", audioDescriptor "b", audioDescriptor "c"] "device" := by
  rintro ⟨htop, -⟩
  obtain ⟨m, hm, hfirst⟩ := htop ⟨audioDescriptor "c", by simp, by decide, rfl⟩ ⟨"c", rfl⟩
  have hids := playerIds_of_sent _ hm
  rw [hids] at hfirst
  revert hfirst
  decide

end Top

end AvSession.Migrate
