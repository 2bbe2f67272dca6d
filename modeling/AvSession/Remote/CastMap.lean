import AvSession.Common.Codes
import AvSession.Descriptor.SessionInfo
import AvSession.Lib.Run
import AvSession.Service.LiveSessions

/-!
# The sinks of remote casts

Another device asks this one to show its session. A sink session is created for it, and
`castAudioSessionMap_` keeps the id of the sink under that of the source.

* `SinkSession`, `CastService` — the service with what a cast does to its sessions, and the map.
* `remoteCastAudioInner`, `remoteCancelCastAudioInner` — the operations.
* `Consistent` — the map has exactly the sinks that are live and cast.
* `Unchanged` — what is expected of a cast that fails.
* `Consistent.handled_iff`, `Consistent.cast_iff`, `Consistent.cancel_iff` — when a handler, a cast
  and a cancel keep the map.
* `castAudioSessionMap_iff` — exactly the runs that keep both.
-/

namespace AvSession.Remote

open AvSession.Common.Codes AvSession.Lib AvSession.Descriptor AvSession.Registry
open AvSession.Service (AVSessionService ServiceOp Oracle)

/-! ## The service -/

section service

/-- What a cast does to a session. `castFrom` is the id of the source while it is cast to the
session, and `hasRemoteSink` says that `remoteSink_` is set.
Source: avsession_item.h, AVSessionItem. -/
structure SinkSession where
  castFrom : Option String
  hasRemoteSink : Bool
  isActive : Bool
  supportedCmd : List ℤ
  isMediaKeySupport : Bool

/-- A new session. -/
def SinkSession.init : SinkSession := ⟨none, false, false, [], false⟩

/-- The service with the sessions it casts to, the map, and what the device can do.
Source: avsession_service.h, AVSessionService. -/
structure CastService where
  service : AVSessionService
  sinks : SessionRef → SinkSession
  castAudioSessionMap : String → Option String
  localCapability : AVSessionBasicInfo

/-- The service when it starts. -/
def CastService.init (service : AVSessionService) (localCapability : AVSessionBasicInfo) :
    CastService where
  service := service
  sinks := fun _ => .init
  castAudioSessionMap := fun _ => none
  localCapability := localCapability

/-- Whether a command can be supported. -/
def legalCmd (cmd : ℤ) : Bool := SESSION_CMD_INVALID < cmd ∧ cmd < SESSION_CMD_MAX

namespace SinkSession

variable (k : SinkSession)

/-- Source: avsession_item.cpp, AVSessionItem::AddSupportCommand. -/
def addSupportCommand (cmd : ℤ) : SinkSession × RetCode :=
  if legalCmd cmd then
    if cmd = SESSION_CMD_MEDIA_KEY_SUPPORT then ({ k with isMediaKeySupport := true }, .success)
    else if cmd ∈ k.supportedCmd then (k, .success)
    else ({ k with supportedCmd := k.supportedCmd ++ [cmd] }, .success)
  else (k, .error)

/-- The loop over the commands of the source.
Source: avsession_item.cpp, AVSessionItem::CastAudioFromRemote. -/
def addSupportCommands : List ℤ → SinkSession → SinkSession × RetCode
  | [], k => (k, .success)
  | cmd :: cmds, k =>
      match k.addSupportCommand cmd with
      | (k, .success) => addSupportCommands cmds k
      | (k, ret) => (k, ret)

/-- The commands of a capability. Source: json_utils.cpp, JsonUtils::GetVectorCapability. -/
def controlCommands (capability : Json) : List ℤ :=
  (jsonToVector
    (((capability.getObjectItem "controlCommand").bind Json.asArray).getD [])).map Int32.toInt

/-- `cast` says whether the remote sink could be cast to.
Source: avsession_item.cpp, AVSessionItem::CastAudioFromRemote. -/
def castAudioFromRemote (sourceSessionId : String) (capability : Json) (cast : Bool) :
    SinkSession × RetCode :=
  if cast then
    addSupportCommands (controlCommands capability)
      { k with hasRemoteSink := true, castFrom := some sourceSessionId, isActive := true }
  else ({ k with hasRemoteSink := true }, .error)

end SinkSession

/-! ### The session for a cast -/

/-- Source: av_session.h, AVSession::SESSION_TYPE_*. -/
def sessionTypeOf (type : ℤ) : SessionType :=
  if type = 0 then .audio
  else if type = 1 then .video
  else if type = 2 then .voiceCall
  else if type = 3 then .videoCall
  else if type = 4 then .photo
  else .invalid

/-- The text of a name: letters, digits, underscores and dots. -/
def matchesNameRegex (name : String) : Bool :=
  name.toList.all fun c => c.isAlphanum || c == '_' || c == '.'

/-- Source: avsession_service.cpp, AVSessionService::IsElementNameValid. -/
def isElementNameValid (elementName : Service.ElementName) : Bool :=
  elementName.bundleName != "" && elementName.abilityName != "" &&
    matchesNameRegex elementName.bundleName && matchesNameRegex elementName.abilityName

/-- The name notwithstanding, it is true if the parameters are valid.
Source: avsession_service.cpp, AVSessionService::IsParamInvalid. -/
def isParamInvalid (tag : String) (uid : Uid) (type : SessionType)
    (elementName : Service.ElementName) : Bool :=
  tag != "" && type != .invalid && elementName.bundleName != "" &&
    elementName.abilityName != "" &&
    (uid == Service.audioBrokerUid && tag == "ancoMediaSession" || isElementNameValid elementName)

/-- The element of a descriptor, as far as the service reads it. -/
def sourceElement (d : AVSessionDescriptor) : Service.ElementName :=
  ⟨d.elementName.deviceId, d.elementName.bundleName, d.elementName.abilityName⟩

/-- A session with what the source says about its own. `correctElement` is what the service makes of
the element for a caller that is no system app, and `allocated` says whether there is memory for the
session.
Source: avsession_service.cpp, AVSessionService::CreateSessionInner. -/
def createSessionInner (s : AVSessionService) (d : AVSessionDescriptor) (pid : Pid) (uid : Uid)
    (correctElement : Service.ElementName) (allocated : Bool) :
    AVSessionService × Option SessionRef :=
  let refreshed := s.refreshed d.sessionTag uid (sourceElement d)
  if !isParamInvalid d.sessionTag uid (sessionTypeOf d.sessionType) (sourceElement d) then (s, none)
  else if refreshed.abilityHasSession pid (Service.getUserIdFromCallingUid refreshed.users uid) ||
      allocated then
    s.createSessionInner d.sessionTag pid uid (sessionTypeOf d.sessionType) (sourceElement d)
      (if d.isThirdPartyApp then correctElement else sourceElement d)
  else (refreshed, none)

namespace CastService

variable (s : CastService)

/-- The service after a handler that the casts do not know of. -/
def withService (service : AVSessionService) : CastService := { s with service := service }

/-- The service with another sink session behind a reference. -/
def setSession (x : SessionRef) (k : SinkSession) : CastService :=
  { s with sinks := Function.update s.sinks x k }

/-- The service with another sink for a source, or none. -/
def setSink (source : String) (sessionId : Option String) : CastService :=
  { s with castAudioSessionMap := Function.update s.castAudioSessionMap source sessionId }

/-- `networkId` is that of this device, if it could be found out.
Source: avsession_service.cpp, AVSessionService::SetBasicInfo. -/
def setBasicInfo (sessionInfo : SessionInfo) (networkId : Option String) : SessionInfo × RetCode :=
  match networkId with
  | none => (sessionInfo, .error)
  | some networkId => setSessionBasicInfo sessionInfo { s.localCapability with networkId }

/-- A record of basic information before it is read. -/
def emptyBasicInfo : AVSessionBasicInfo :=
  ⟨"", "", "", "", "", 0, [], [], [], [], [], [], 0, []⟩

/-- Whether the basic information can be read. -/
def hasBasicInfo (sessionInfo : SessionInfo) : Bool :=
  match (getSessionBasicInfo sessionInfo).run emptyBasicInfo with
  | .ok _ _ => true
  | .error _ _ => false

/-- What is done after the map was written.
Source: avsession_service.cpp, AVSessionService::RemoteCastAudioInner. -/
def castToSink (x : SessionRef) (sourceSessionInfo : SessionInfo) (sourceSessionId : String)
    (cast : Bool) : CastService × RetCode :=
  if hasBasicInfo sourceSessionInfo then
    match getAllCapability sourceSessionInfo with
    | some sourceCapability =>
        let r := (s.sinks x).castAudioFromRemote sourceSessionId sourceCapability cast
        (s.setSession x r.1, r.2)
    | none => (s, .error)
  else (s, .error)

/-- What is checked before the session is created, and the descriptor of the source.
Source: avsession_service.cpp, AVSessionService::RemoteCastAudioInner. -/
def sourceDescriptor (sourceSessionInfo sinkSessionInfo : SessionInfo)
    (networkId : Option String) : Option AVSessionDescriptor :=
  match getSessionDescriptor sourceSessionInfo .init with
  | none => none
  | some sourceDescriptor =>
      let r := s.setBasicInfo sinkSessionInfo networkId
      if r.2 = .success ∧ hasBasicInfo r.1 then some sourceDescriptor else none

/-- The process that asks is `pid`, of the user id `uid`.
Source: avsession_service.cpp, AVSessionService::RemoteCastAudioInner. -/
def remoteCastAudioInner (sourceSessionInfo sinkSessionInfo : SessionInfo)
    (networkId : Option String) (pid : Pid) (uid : Uid) (correctElement : Service.ElementName)
    (allocated cast : Bool) : CastService × RetCode :=
  match s.sourceDescriptor sourceSessionInfo sinkSessionInfo networkId with
  | none => (s, .error)
  | some d =>
      match createSessionInner s.service d pid uid correctElement allocated with
      | (service, none) => (s.withService service, .error)
      | (service, some x) =>
          ((s.withService service).setSink d.sessionId
            (some (service.users.items x).sessionId)).castToSink x sourceSessionInfo d.sessionId cast

/-- The session that a cancel is for, with the id of its source.
Source: avsession_service.cpp, AVSessionService::RemoteCancelCastAudioInner. -/
def cancelledSession (sessionInfo : SessionInfo) : Option (String × SessionRef) :=
  if hasBasicInfo sessionInfo then
    match getSessionDescriptor sessionInfo .init with
    | none => none
    | some sourceDescriptor =>
        match s.castAudioSessionMap sourceDescriptor.sessionId with
        | none => none
        | some sessionId =>
            (s.service.containerOfCaller.getSessionById s.service.users.items sessionId).map
              fun x => (sourceDescriptor.sessionId, x)
  else none

/-- `cancelled` says whether the remote sink could be cancelled.
Source: avsession_service.cpp, AVSessionService::RemoteCancelCastAudioInner; avsession_item.cpp,
AVSessionItem::SinkCancelCastAudio. -/
def remoteCancelCastAudioInner (o : Oracle) (sessionInfo : SessionInfo) (cancelled : Bool) :
    CastService × RetCode :=
  match s.cancelledSession sessionInfo with
  | none => (s, .error)
  | some (source, x) =>
      if (s.sinks x).hasRemoteSink && cancelled then
        let s := s.setSession x { s.sinks x with castFrom := none }
        ((s.withService (s.service.handleSessionRelease o
          (s.service.users.items x).sessionId)).setSink source none, .success)
      else (s, .error)

end CastService

/-- What can happen: a cast, a cancel, or a handler of the service. -/
inductive CastMapOp
  | remoteCastAudioInner (sourceSessionInfo sinkSessionInfo : SessionInfo)
      (networkId : Option String) (pid : Pid) (uid : Uid) (correctElement : Service.ElementName)
      (allocated cast : Bool)
  | remoteCancelCastAudioInner (o : Oracle) (sessionInfo : SessionInfo) (cancelled : Bool)
  | service (op : ServiceOp)

/-- One step. -/
def CastService.step (s : CastService) : CastMapOp → CastService
  | .remoteCastAudioInner source sink networkId pid uid correctElement allocated cast =>
      (s.remoteCastAudioInner source sink networkId pid uid correctElement allocated cast).1
  | .remoteCancelCastAudioInner o sessionInfo cancelled =>
      (s.remoteCancelCastAudioInner o sessionInfo cancelled).1
  | .service op => s.withService (op.step s.service)

/-! ### What is expected -/

/-- The session is live, and the source is cast to it. -/
def CastService.CastTo (s : CastService) (x : SessionRef) (source : String) : Prop :=
  s.service.Live x ∧ (s.sinks x).castFrom = some source

/-- The map has exactly the sinks that are live and cast from the source. -/
def Consistent (s : CastService) : Prop :=
  ∀ source sessionId, s.castAudioSessionMap source = some sessionId ↔
    ∃ x, (s.service.users.items x).sessionId = sessionId ∧ s.CastTo x source

/-- A cast that fails leaves the map as it was, and no session that it created. -/
def Unchanged (s : CastService) : CastMapOp → Prop
  | .remoteCastAudioInner source sink networkId pid uid correctElement allocated cast =>
      let r := s.remoteCastAudioInner source sink networkId pid uid correctElement allocated cast
      r.2 ≠ .success →
        r.1.castAudioSessionMap = s.castAudioSessionMap ∧
          ∀ x, r.1.service.Live x → x < s.service.nextSession
  | .remoteCancelCastAudioInner .. | .service _ => True

/-- The source says what it can do, the sink can be cast to, and supports what it is asked for. -/
def Completes (sourceSessionInfo : SessionInfo) (cast : Bool) : Prop :=
  CastService.hasBasicInfo sourceSessionInfo = true ∧ cast = true ∧
    ∃ capability, getAllCapability sourceSessionInfo = some capability ∧
      ∀ cmd ∈ SinkSession.controlCommands capability, legalCmd cmd = true

/-- No session that a source is cast to is lost, and none that is not live is entered again. -/
def KeepsCasts (s : CastService) (lost reentered : SessionRef → Prop) : Prop :=
  (∀ y source, lost y → ¬ s.CastTo y source) ∧
    ∀ y, reentered y → s.service.Live y ∨ (s.sinks y).castFrom = none

/-- The condition on the session for a cast: if the creation is repeated, no cast is hit; and if a
session gets into the container of all users, the user's has room for it too, nothing fails any
more, and the source is not cast to another sink. -/
def SinkOk (s : CastService) (sourceSessionInfo : SessionInfo) (d : AVSessionDescriptor) (pid : Pid)
    (uid : Uid) (allocated cast : Bool) : Prop :=
  let refreshed := s.service.refreshed d.sessionTag uid (sourceElement d)
  isParamInvalid d.sessionTag uid (sessionTypeOf d.sessionType) (sourceElement d) = true →
    KeepsCasts s (Service.CreationLost refreshed pid uid)
        (Service.CreationReentered refreshed pid uid) ∧
      (refreshed.abilityHasSession pid
          (Service.getUserIdFromCallingUid refreshed.users uid) = false → allocated = true →
        refreshed.users.stackForAll.sessions.size < SESSION_NUM_MAX →
        Service.HasRoom refreshed uid ∧ Completes sourceSessionInfo cast ∧
          s.castAudioSessionMap d.sessionId = none)

/-- The condition on a step: a cast is as above; a cancel finds the key of its session held by that
session, or by one that nothing is cast to; and no other handler takes a session that a source is
cast to. -/
def CastMapOk (s : CastService) : CastMapOp → Prop
  | .remoteCastAudioInner source sink networkId pid uid _ allocated cast =>
      ∀ d, s.sourceDescriptor source sink networkId = some d →
        SinkOk s source d pid uid allocated cast
  | .remoteCancelCastAudioInner _ sessionInfo cancelled =>
      ∀ source x, s.cancelledSession sessionInfo = some (source, x) →
        (s.sinks x).hasRemoteSink = true → cancelled = true →
          ∀ y source', Service.holder s.service.users (itemKey s.service.users.items x) = some y →
            y ≠ x → ¬ s.CastTo y source'
  | .service op => KeepsCasts s (op.Lost s.service) (op.Reentered s.service)

end service

/-! ## The sink of a cast -/

section sinks

variable {k : SinkSession} {s : CastService} {x : SessionRef}

/-- One command is refused or supported; the cast stays. -/
theorem addSupportCommand_spec (k : SinkSession) (cmd : ℤ) :
    ((k.addSupportCommand cmd).2 = .success ↔ legalCmd cmd = true) ∧
      (k.addSupportCommand cmd).1.castFrom = k.castFrom := by
  unfold SinkSession.addSupportCommand
  by_cases hlegal : legalCmd cmd = true
  · rw [if_pos hlegal]
    split_ifs <;> exact ⟨iff_of_true rfl hlegal, rfl⟩
  · rw [if_neg hlegal]
    exact ⟨iff_of_false nofun hlegal, rfl⟩

/-- All commands are supported if all are legal; the cast stays. -/
theorem addSupportCommands_spec (cmds : List ℤ) (k : SinkSession) :
    ((SinkSession.addSupportCommands cmds k).2 = .success ↔ ∀ cmd ∈ cmds, legalCmd cmd = true) ∧
      (SinkSession.addSupportCommands cmds k).1.castFrom = k.castFrom := by
  induction cmds generalizing k with
  | nil => exact ⟨iff_of_true rfl fun cmd hcmd => absurd hcmd List.not_mem_nil, rfl⟩
  | cons cmd cmds ih =>
      obtain ⟨hret, hcast⟩ := addSupportCommand_spec k cmd
      unfold SinkSession.addSupportCommands
      rw [List.forall_mem_cons, ← hret]
      split
      case h_1 k' hadd =>
        rw [hadd] at hcast ⊢
        obtain ⟨hrest, hcast'⟩ := ih k'
        exact ⟨hrest.trans (and_iff_right rfl).symm, hcast'.trans hcast⟩
      case h_2 k' ret hne hadd =>
        rw [hadd] at hcast ⊢
        exact ⟨iff_of_false hne fun h => hne h.1, hcast⟩

/-- The cast to a sink touches the sink alone. It succeeds if nothing is missing, and then the sink
is cast to. -/
theorem castToSink_spec (s : CastService) (x : SessionRef) (info : SessionInfo) (source : String)
    (cast : Bool) :
    ∃ k, (s.castToSink x info source cast).1 = s.setSession x k ∧
      ((s.castToSink x info source cast).2 = .success ↔ Completes info cast) ∧
      ((s.castToSink x info source cast).2 = .success → k.castFrom = some source) := by
  have hsame : s = s.setSession x (s.sinks x) := by
    unfold CastService.setSession
    rw [Function.update_eq_self]
  unfold CastService.castToSink Completes
  by_cases hbasic : CastService.hasBasicInfo info = true
  · rw [if_pos hbasic]
    cases hcapability : getAllCapability info with
    | none =>
        refine ⟨s.sinks x, hsame, iff_of_false nofun ?_, nofun⟩
        rintro ⟨-, -, capability, hsome, -⟩
        cases hsome
    | some capability =>
        cases cast with
        | false => exact ⟨_, rfl, iff_of_false nofun fun h => Bool.false_ne_true h.2.1, nofun⟩
        | true =>
            obtain ⟨hret, hcast⟩ := addSupportCommands_spec (SinkSession.controlCommands capability)
              { s.sinks x with
                hasRemoteSink := true, castFrom := some source, isActive := true }
            refine ⟨_, rfl, hret.trans ⟨fun h => ⟨hbasic, rfl, capability, rfl, h⟩, ?_⟩,
              fun _ => hcast⟩
            rintro ⟨-, -, capability', hsome, h⟩
            obtain rfl := Option.some.inj hsome
            exact h
  · rw [if_neg hbasic]
    exact ⟨_, hsame, iff_of_false nofun fun h => hbasic h.1, nofun⟩

end sinks

/-! ## What keeps the map -/

section consistent

open AvSession.Service

variable {s : CastService} {x y : SessionRef} {source : String}

/-- References that were not given out are unknown, and nothing is cast to them. -/
structure CastMapInv (s : CastService) : Prop where
  bounded : Bounded s.service
  fresh : ∀ x, s.service.nextSession ≤ x → (s.sinks x).castFrom = none

/-- A session cast from elsewhere has been created. -/
theorem CastMapInv.lt_of_castFrom (h : CastMapInv s) (hx : (s.sinks x).castFrom = some source) :
    x < s.service.nextSession := by
  by_contra hle
  rw [h.fresh x (Nat.le_of_not_lt hle)] at hx
  cases hx

/-- A service that handled its own sessions keeps the map. -/
theorem CastMapInv.withService (h : CastMapInv s) {lost reentered : SessionRef → Prop}
    {service : AVSessionService} (hhandled : Handled lost reentered s.service service) :
    CastMapInv (s.withService service) :=
  ⟨hhandled.bounded, fun x hx => h.fresh x (hhandled.next.trans hx)⟩

/-- The sink of a source is the session that has the id of the map. -/
theorem Consistent.castTo_iff (h : Consistent s) (hinv : CastMapInv s) :
    s.CastTo x source ↔
      s.castAudioSessionMap source = some (s.service.users.items x).sessionId := by
  rw [h]
  refine ⟨fun hx => ⟨x, rfl, hx⟩, ?_⟩
  rintro ⟨y, hid, hy⟩
  rwa [← hinv.bounded.ids hid]

/-- A handler keeps the map exactly if it keeps the casts. -/
theorem Consistent.handled_iff (h : Consistent s) (hinv : CastMapInv s)
    {lost reentered : SessionRef → Prop} {service : AVSessionService}
    (hhandled : Handled lost reentered s.service service)
    (hdisjoint : ∀ y, lost y → ¬ reentered y) :
    Consistent (s.withService service) ↔ KeepsCasts s lost reentered := by
  have hinv' := hinv.withService hhandled
  have hlive : ∀ y source, (s.sinks y).castFrom = some source →
      (service.Live y ↔ s.service.Live y ∧ ¬ lost y ∨ reentered y) := fun y source hy =>
    hhandled.live y (hinv.lt_of_castFrom hy).ne
  constructor
  · intro h'
    refine ⟨fun y source hlost hy => ?_, fun y hre => ?_⟩
    · have hmap := (h.castTo_iff hinv).mp hy
      rw [← hhandled.sessionId y] at hmap
      have hy' : service.Live y := ((h'.castTo_iff hinv').mpr hmap).1
      rcases (hlive y source hy.2).mp hy' with ⟨-, hnot⟩ | hre
      · exact hnot hlost
      · exact hdisjoint y hlost hre
    · by_contra hnot
      obtain ⟨hdead, hsome⟩ := not_or.mp hnot
      obtain ⟨source, hsource⟩ := Option.ne_none_iff_exists'.mp hsome
      have hy' : (s.withService service).CastTo y source :=
        ⟨(hlive y source hsource).mpr (Or.inr hre), hsource⟩
      have hmap := (h'.castTo_iff hinv').mp hy'
      rw [show ((s.withService service).service.users.items y).sessionId =
        (s.service.users.items y).sessionId from hhandled.sessionId y] at hmap
      exact hdead ((h.castTo_iff hinv).mpr hmap).1
  · rintro ⟨hkeeps, hre⟩ source sessionId
    rw [show (s.withService service).castAudioSessionMap source = s.castAudioSessionMap source
      from rfl, h source sessionId]
    refine exists_congr fun y => ?_
    rw [show ((s.withService service).service.users.items y).sessionId =
      (s.service.users.items y).sessionId from hhandled.sessionId y]
    refine and_congr_right fun _ => ⟨fun hy => ⟨?_, hy.2⟩, fun hy => ⟨?_, hy.2⟩⟩
    · exact (hlive y source hy.2).mpr (Or.inl ⟨hy.1, fun hlost => hkeeps y source hlost hy⟩)
    · rcases (hlive y source hy.2).mp hy.1 with ⟨hy', -⟩ | hre'
      · exact hy'
      · exact (hre y hre').resolve_right fun hnone =>
          Option.some_ne_none _ (hy.2.symm.trans hnone)

/-- A cast to a session that nothing is cast to keeps the map exactly if the source was not cast
before. -/
theorem Consistent.cast_iff (h : Consistent s) (hinv : CastMapInv s) (hx : s.service.Live x)
    (hnone : (s.sinks x).castFrom = none) {k : SinkSession} (hk : k.castFrom = some source) :
    Consistent ((s.setSink source (some (s.service.users.items x).sessionId)).setSession x k) ↔
      s.castAudioSessionMap source = none := by
  have hcast : ∀ y source', ((s.setSink source
      (some (s.service.users.items x).sessionId)).setSession x k).CastTo y source' ↔
        y = x ∧ source' = source ∨ y ≠ x ∧ s.CastTo y source' := by
    intro y source'
    show s.service.Live y ∧ (Function.update s.sinks x k y).castFrom = some source' ↔ _
    rw [Function.update_apply]
    split_ifs with hy
    · subst hy
      rw [hk, Option.some.injEq]
      exact ⟨fun h => Or.inl ⟨rfl, h.2.symm⟩, fun h => ⟨hx, (h.resolve_right (·.1 rfl)).2.symm⟩⟩
    · exact ⟨fun h => Or.inr ⟨hy, h⟩, fun h => (h.resolve_left fun h => hy h.1).2⟩
  have hmap : ∀ source', ((s.setSink source
      (some (s.service.users.items x).sessionId)).setSession x k).castAudioSessionMap source' =
        if source' = source then some (s.service.users.items x).sessionId
        else s.castAudioSessionMap source' := fun source' => Function.update_apply _ _ _ _
  have hne : ∀ {y source'}, s.CastTo y source' → y ≠ x := by
    rintro y source' hy rfl
    exact Option.some_ne_none _ (hy.2.symm.trans hnone)
  constructor
  · intro h'
    by_contra hsome
    obtain ⟨sessionId, hid⟩ := Option.ne_none_iff_exists'.mp hsome
    obtain ⟨y, rfl, hy⟩ := (h source sessionId).mp hid
    have hy' := (h' source (s.service.users.items y).sessionId).mpr
      ⟨y, rfl, (hcast y source).mpr (Or.inr ⟨hne hy, hy⟩)⟩
    rw [hmap, if_pos rfl, Option.some.injEq] at hy'
    exact hne hy (hinv.bounded.ids hy').symm
  · intro hfree source' sessionId
    rw [hmap]
    split_ifs with hsource
    · subst hsource
      rw [Option.some.injEq]
      refine ⟨fun hid => ⟨x, hid, (hcast x source').mpr (Or.inl ⟨rfl, rfl⟩)⟩, ?_⟩
      rintro ⟨y, rfl, hy⟩
      rcases (hcast y source').mp hy with ⟨rfl, -⟩ | ⟨-, hy⟩
      · rfl
      · rw [h.castTo_iff hinv, hfree] at hy
        cases hy
    · rw [h source' sessionId]
      refine exists_congr fun y => and_congr_right fun _ => ?_
      rw [hcast]
      exact ⟨fun hy => Or.inr ⟨hne hy, hy⟩, fun hy => (hy.resolve_left fun hy => hsource hy.2).2⟩

/-- A session of the map is released, and its source taken out. -/
def CastService.cancel (s : CastService) (o : Oracle) (source : String) (x : SessionRef) :
    CastService :=
  ((s.setSession x { s.sinks x with castFrom := none }).withService (s.service.handleSessionRelease
    o (s.service.users.items x).sessionId)).setSink source none

/-- A session is found by its id. -/
theorem getSessionById_self {service : AVSessionService} (hinj : DistinctIds service.users.items)
    (hx : service.Live x) :
    service.users.stackForAll.getSessionById service.users.items
      (service.users.items x).sessionId = some x := by
  unfold SessionStack.getSessionById
  cases hfind : service.users.stackForAll.stack.find? fun y =>
      (service.users.items y).sessionId == (service.users.items x).sessionId with
  | none =>
      have hnot := List.find?_eq_none.mp hfind x hx.1
      exact absurd (beq_self_eq_true _) hnot
  | some y =>
      have hid := List.find?_some hfind
      rw [hinj (eq_of_beq hid)]

/-- A cancel keeps the map exactly if the key of its session is held by that session, or by one that
nothing is cast to. -/
theorem Consistent.cancel_iff (h : Consistent s) (hinv : CastMapInv s) (o : Oracle)
    (hx : s.CastTo x source) :
    Consistent (s.cancel o source x) ↔ ∀ y source',
      holder s.service.users (itemKey s.service.users.items x) = some y → y ≠ x →
        ¬ s.CastTo y source' := by
  have hreleased := Handled.handleSessionRelease hinv.bounded o (s.service.users.items x).sessionId
  have hfind := getSessionById_self hinv.bounded.ids hx.1
  have hmap := (h.castTo_iff hinv).mp hx
  -- nothing else is cast from the source
  have honly : ∀ {y}, s.CastTo y source → y = x := by
    intro y hy
    have hy' := (h.castTo_iff hinv).mp hy
    rw [hmap, Option.some.injEq] at hy'
    exact (hinv.bounded.ids hy').symm
  have hcast : ∀ y source', (s.cancel o source x).CastTo y source' ↔
      y ≠ x ∧ s.CastTo y source' ∧
        holder s.service.users (itemKey s.service.users.items x) ≠ some y := by
    intro y source'
    show (s.service.handleSessionRelease o (s.service.users.items x).sessionId).Live y ∧
      (Function.update s.sinks x { s.sinks x with castFrom := none } y).castFrom = some source' ↔ _
    rw [Function.update_apply]
    split_ifs with hy
    · exact iff_of_false (fun hboth => nomatch hboth.2) fun hne => hne.1 hy
    · constructor
      · rintro ⟨hlive, hfrom⟩
        rw [hreleased.live y (hinv.lt_of_castFrom hfrom).ne] at hlive
        obtain ⟨hlive, hnot⟩ := hlive.resolve_right id
        exact ⟨hy, ⟨hlive, hfrom⟩, fun hkey => hnot ⟨x, hfind, Or.inr hkey⟩⟩
      · rintro ⟨-, ⟨hlive, hfrom⟩, hkey⟩
        rw [hreleased.live y (hinv.lt_of_castFrom hfrom).ne]
        refine ⟨Or.inl ⟨hlive, ?_⟩, hfrom⟩
        rintro ⟨z, hz, hyz | hheld⟩
        · exact hy (hyz.trans (Option.some.inj (hz.symm.trans hfind)))
        · rw [Option.some.inj (hz.symm.trans hfind)] at hheld
          exact hkey hheld
  have hmap' : ∀ source', (s.cancel o source x).castAudioSessionMap source' =
      if source' = source then none else s.castAudioSessionMap source' :=
    fun source' => Function.update_apply _ _ _ _
  have hid : ∀ y, ((s.cancel o source x).service.users.items y).sessionId =
      (s.service.users.items y).sessionId := hreleased.sessionId
  constructor
  · intro h' y source' hkey hyx hy
    have hsource : source' ≠ source := by
      rintro rfl
      exact hyx (honly hy)
    have hy' := (h.castTo_iff hinv).mp hy
    have hin := (h' source' (s.service.users.items y).sessionId).mp (by
      rw [hmap', if_neg hsource]
      exact hy')
    obtain ⟨z, hz, hzcast⟩ := hin
    rw [hid] at hz
    obtain rfl := hinv.bounded.ids hz
    exact ((hcast z source').mp hzcast).2.2 hkey
  · intro hkeeps source' sessionId
    rw [hmap']
    split_ifs with hsource
    · subst hsource
      refine iff_of_false nofun ?_
      rintro ⟨y, -, hy⟩
      obtain ⟨hyx, hy, -⟩ := (hcast y source').mp hy
      exact hyx (honly hy)
    · rw [h source' sessionId]
      refine exists_congr fun y => ?_
      rw [hid, hcast]
      refine and_congr_right fun _ => ⟨fun hy => ?_, fun hy => hy.2.1⟩
      have hyx : y ≠ x := by
        rintro rfl
        exact hsource (Option.some.inj (hy.2.symm.trans hx.2))
      exact ⟨hyx, hy, fun hkey => hkeeps y source' hkey hyx hy⟩

end consistent

/-! ## The steps -/

section steps

open AvSession.Service

variable {s : CastService}

/-- A session of the creation gets into the container of all users. -/
def Enters (s : AVSessionService) (d : AVSessionDescriptor) (pid : Pid) (uid : Uid)
    (allocated : Bool) : Prop :=
  let refreshed := s.refreshed d.sessionTag uid (sourceElement d)
  refreshed.abilityHasSession pid (getUserIdFromCallingUid refreshed.users uid) = false ∧
    allocated = true ∧ refreshed.users.stackForAll.sessions.size < SESSION_NUM_MAX

/-- The session for a cast, past the check of the parameters: what becomes of the sessions that
exist, and of the one that is created. -/
theorem createSessionInner_spec {s : AVSessionService} (h : Bounded s) {d : AVSessionDescriptor}
    (pid : Pid) {uid : Uid} (correctElement : Service.ElementName) (allocated : Bool)
    (hparam : isParamInvalid d.sessionTag uid (sessionTypeOf d.sessionType) (sourceElement d) =
      true) :
    let refreshed := s.refreshed d.sessionTag uid (sourceElement d)
    let r := createSessionInner s d pid uid correctElement allocated
    Handled (CreationLost refreshed pid uid) (CreationReentered refreshed pid uid) s r.1 ∧
      (¬ Enters s d pid uid allocated → r.2 = none ∧ ∀ x, r.1.Live x → x < s.nextSession) ∧
      (Enters s d pid uid allocated → r.1.Live s.nextSession ∧
        r.2 = if HasRoom refreshed uid then some s.nextSession else none) := by
  have hrefreshed := Handled.refreshed h d.sessionTag uid (sourceElement d)
  have hnext : (s.refreshed d.sessionTag uid (sourceElement d)).nextSession = s.nextSession := rfl
  have hcreated := Handled.createSessionInner h d.sessionTag pid uid (sessionTypeOf d.sessionType)
    (sourceElement d) (if d.isThirdPartyApp then correctElement else sourceElement d)
  unfold createSessionInner Enters
  dsimp only
  rw [hparam, Bool.not_true, if_neg Bool.false_ne_true]
  unfold AVSessionService.createSessionInner at hcreated ⊢
  generalize s.refreshed d.sessionTag uid (sourceElement d) = refreshed at *
  cases hability : refreshed.abilityHasSession pid (getUserIdFromCallingUid refreshed.users uid) with
  | true =>
      rw [Bool.true_or, if_pos rfl]
      have hrepeated := createSessionForCaller_repeated (sessionTypeOf d.sessionType)
        (sourceElement d) (if d.isThirdPartyApp then correctElement else sourceElement d) hability
      rw [hrepeated] at hcreated ⊢
      refine ⟨hcreated, fun _ => ⟨rfl, fun x hx => ?_⟩,
        fun hin => absurd hin.1.symm Bool.false_ne_true⟩
      have hlt := hcreated.bounded.lt_of_live hx
      rwa [nextSession_checkAndUpdateAncoMediaSession, hnext] at hlt
  | false =>
      have hnobody : CreationLost refreshed pid uid = nobody ∧
          CreationReentered refreshed pid uid = nobody := by
        unfold CreationLost CreationReentered
        rw [hability]
        constructor <;> funext y <;> simp [nobody]
      rw [Bool.false_or]
      cases allocated with
      | false =>
          rw [if_neg Bool.false_ne_true, hnobody.1, hnobody.2]
          refine ⟨hrefreshed, fun _ => ⟨rfl, fun x hx => ?_⟩,
            fun hin => absurd hin.2.1 Bool.false_ne_true⟩
          rw [← hnext]
          exact hrefreshed.bounded.lt_of_live hx
      | true =>
          rw [if_pos rfl]
          obtain ⟨hlive, hnext', hresult⟩ := live_created hrefreshed.bounded
            (sessionTypeOf d.sessionType) (sourceElement d)
            (if d.isThirdPartyApp then correctElement else sourceElement d) hability
          rw [hnext] at hlive hnext' hresult
          refine ⟨hcreated, fun hnot => ?_, fun hin => ⟨hlive.mpr hin.2.2, hresult⟩⟩
          have hfull : ¬ refreshed.users.stackForAll.sessions.size < SESSION_NUM_MAX :=
            fun hroom => hnot ⟨rfl, rfl, hroom⟩
          refine ⟨?_, fun x hx => ?_⟩
          · rw [hresult, if_neg fun hroom => hfull hroom.1]
          · have hlt := hcreated.bounded.lt_of_live hx
            rw [hnext'] at hlt
            refine lt_of_le_of_ne (Nat.lt_succ_iff.mp hlt) ?_
            rintro rfl
            exact hfull (hlive.mp hx)

variable {info sink : SessionInfo} {networkId : Option String} {pid : Pid} {uid : Uid}
  {correctElement : Service.ElementName} {allocated cast : Bool} {d : AVSessionDescriptor}

/-- A cast whose session is not handed out. -/
theorem remoteCastAudioInner_of_none
    (hd : s.sourceDescriptor info sink networkId = some d)
    (hnone : (createSessionInner s.service d pid uid correctElement allocated).2 = none) :
    s.remoteCastAudioInner info sink networkId pid uid correctElement allocated cast =
      (s.withService (createSessionInner s.service d pid uid correctElement allocated).1,
        .error) := by
  unfold CastService.remoteCastAudioInner
  rw [hd]
  dsimp only
  generalize createSessionInner s.service d pid uid correctElement allocated = r at *
  obtain ⟨service, result⟩ := r
  cases hnone
  rfl

/-- A cast whose session is handed out. -/
theorem remoteCastAudioInner_of_some {x : SessionRef}
    (hd : s.sourceDescriptor info sink networkId = some d)
    (hx : (createSessionInner s.service d pid uid correctElement allocated).2 = some x) :
    s.remoteCastAudioInner info sink networkId pid uid correctElement allocated cast =
      ((s.withService (createSessionInner s.service d pid uid correctElement
        allocated).1).setSink d.sessionId (some ((createSessionInner s.service d pid uid
          correctElement allocated).1.users.items x).sessionId)).castToSink x info d.sessionId
            cast := by
  unfold CastService.remoteCastAudioInner
  rw [hd]
  dsimp only
  generalize createSessionInner s.service d pid uid correctElement allocated = r at *
  obtain ⟨service, result⟩ := r
  cases hx
  rfl

/-- A cast whose parameters are refused changes nothing. -/
theorem remoteCastAudioInner_of_refused (hd : s.sourceDescriptor info sink networkId = some d)
    (hparam : isParamInvalid d.sessionTag uid (sessionTypeOf d.sessionType) (sourceElement d) =
      false) :
    s.remoteCastAudioInner info sink networkId pid uid correctElement allocated cast =
      (s, .error) := by
  have hrefused : createSessionInner s.service d pid uid correctElement allocated =
      (s.service, none) := by
    unfold createSessionInner
    rw [hparam, Bool.not_false, if_pos rfl]
  rw [remoteCastAudioInner_of_none hd (congrArg Prod.snd hrefused), hrefused]
  rfl

/-- A cast whose session is handed out writes the map, and the sink alone. -/
theorem remoteCastAudioInner_spec (hd : s.sourceDescriptor info sink networkId = some d)
    (hx : (createSessionInner s.service d pid uid correctElement allocated).2 =
      some s.service.nextSession) (cast : Bool) :
    let service := (createSessionInner s.service d pid uid correctElement allocated).1
    let r := s.remoteCastAudioInner info sink networkId pid uid correctElement allocated cast
    ∃ k, r.1 = ((s.withService service).setSink d.sessionId
        (some (service.users.items s.service.nextSession).sessionId)).setSession
          s.service.nextSession k ∧
      (r.2 = .success ↔ Completes info cast) ∧
      (r.2 = .success → k.castFrom = some d.sessionId) := by
  dsimp only
  rw [remoteCastAudioInner_of_some hd hx]
  exact castToSink_spec _ _ info d.sessionId cast

/-- A cancel that finds its session, and can be made. -/
theorem remoteCancelCastAudioInner_of_some {o : Oracle} {cancelled : Bool} {source : String}
    {x : SessionRef} (hx : s.cancelledSession info = some (source, x))
    (hcancelled : (s.sinks x).hasRemoteSink = true ∧ cancelled = true) :
    (s.remoteCancelCastAudioInner o info cancelled).1 = s.cancel o source x := by
  unfold CastService.remoteCancelCastAudioInner
  rw [hx]
  dsimp only
  rw [if_pos (Bool.and_eq_true_iff.mpr hcancelled)]
  rfl

/-- A cancel that finds no session, or cannot be made. -/
theorem remoteCancelCastAudioInner_of_not {o : Oracle} {cancelled : Bool}
    (hnot : ∀ source x, s.cancelledSession info = some (source, x) →
      ¬ ((s.sinks x).hasRemoteSink = true ∧ cancelled = true)) :
    (s.remoteCancelCastAudioInner o info cancelled).1 = s := by
  unfold CastService.remoteCancelCastAudioInner
  cases hx : s.cancelledSession info with
  | none => rfl
  | some p =>
      dsimp only
      rw [if_neg fun hboth => hnot p.1 p.2 hx (Bool.and_eq_true_iff.mp hboth)]

/-- The session that a cancel is for is the sink of the map. -/
theorem Consistent.castTo_of_cancelled (h : Consistent s) (hinv : CastMapInv s) {source : String}
    {x : SessionRef} (hx : s.cancelledSession info = some (source, x)) : s.CastTo x source := by
  unfold CastService.cancelledSession at hx
  split_ifs at hx
  split at hx
  · cases hx
  · split at hx
    · cases hx
    · rename_i hid
      obtain ⟨y, hfind, hpair⟩ := Option.map_eq_some_iff.mp hx
      obtain ⟨rfl, rfl⟩ := Prod.mk.inj hpair
      rw [h.castTo_iff hinv, hid]
      have hfound := List.find?_some hfind
      rw [eq_of_beq hfound]

/-! ### The invariant -/

/-- An entry with its sink keeps the map. -/
theorem CastMapInv.setSession (h : CastMapInv s) (source : String) (sessionId : Option String)
    {x : SessionRef} {k : SinkSession} (hx : x < s.service.nextSession ∨ k.castFrom = none) :
    CastMapInv ((s.setSink source sessionId).setSession x k) := by
  refine ⟨h.bounded, fun y hy => ?_⟩
  show (Function.update s.sinks x k y).castFrom = none
  rw [Function.update_apply]
  split_ifs with hyx
  · refine hx.resolve_left fun hlt => ?_
    rw [← hyx] at hlt
    exact absurd hlt (Nat.not_lt.mpr hy)
  · exact h.fresh y hy

/-- A cancel keeps the map. -/
theorem CastMapInv.cancel (h : CastMapInv s) (o : Oracle) (source : String) (x : SessionRef) :
    CastMapInv (s.cancel o source x) := by
  have hset := h.setSession (x := x) (k := { s.sinks x with castFrom := none }) source
    (s.castAudioSessionMap source) (Or.inr rfl)
  have hreleased := hset.withService (Handled.handleSessionRelease h.bounded o
    (s.service.users.items x).sessionId)
  exact ⟨hreleased.bounded, hreleased.fresh⟩

/-- Every operation keeps the map. -/
theorem CastMapInv.step (h : CastMapInv s) (a : CastMapOp) : CastMapInv (s.step a) := by
  cases a with
  | remoteCastAudioInner info sink networkId pid uid correctElement allocated cast =>
      show CastMapInv (s.remoteCastAudioInner info sink networkId pid uid correctElement allocated
        cast).1
      cases hd : s.sourceDescriptor info sink networkId with
      | none =>
          unfold CastService.remoteCastAudioInner
          rw [hd]
          exact h
      | some d =>
          cases hparam : isParamInvalid d.sessionTag uid (sessionTypeOf d.sessionType)
              (sourceElement d) with
          | false =>
              rw [remoteCastAudioInner_of_refused hd hparam]
              exact h
          | true =>
              obtain ⟨hhandled, hnot, hin⟩ := createSessionInner_spec h.bounded pid correctElement
                allocated hparam
              cases hresult : (createSessionInner s.service d pid uid correctElement
                  allocated).2 with
              | none =>
                  rw [remoteCastAudioInner_of_none hd hresult]
                  exact h.withService hhandled
              | some x =>
                  have henters : Enters s.service d pid uid allocated := by
                    by_contra hno
                    rw [(hnot hno).1] at hresult
                    cases hresult
                  obtain ⟨hlive, hhanded⟩ := hin henters
                  have hnext := hresult.symm.trans hhanded
                  split_ifs at hnext
                  rw [Option.some.inj hnext] at hresult
                  obtain ⟨k, hstate, -⟩ := remoteCastAudioInner_spec hd hresult cast
                  rw [hstate]
                  exact (h.withService hhandled).setSession _ _
                    (Or.inl (hhandled.bounded.lt_of_live hlive))
  | remoteCancelCastAudioInner o info cancelled =>
      show CastMapInv (s.remoteCancelCastAudioInner o info cancelled).1
      by_cases hx : ∃ source x, s.cancelledSession info = some (source, x) ∧
          (s.sinks x).hasRemoteSink = true ∧ cancelled = true
      · obtain ⟨source, x, hx, hcancelled⟩ := hx
        rw [remoteCancelCastAudioInner_of_some hx hcancelled]
        exact h.cancel o source x
      · rw [remoteCancelCastAudioInner_of_not fun source x hfound hcancelled =>
          hx ⟨source, x, hfound, hcancelled⟩]
        exact h
  | service op => exact h.withService (Handled.step h.bounded op)

/-! ### The exact conditions -/

/-- A creation that is not repeated takes nobody. -/
theorem keepsCasts_of_free {service : AVSessionService}
    (hability : service.abilityHasSession pid (getUserIdFromCallingUid service.users uid) =
      false) :
    KeepsCasts s (CreationLost service pid uid) (CreationReentered service pid uid) := by
  refine ⟨fun y _ hlost => ?_, fun y hre => ?_⟩
  · exact absurd (hability.symm.trans hlost.1) Bool.false_ne_true
  · exact absurd (hability.symm.trans hre.1) Bool.false_ne_true

/-- Who is lost in a creation is not entered again by it. -/
theorem not_creationReentered_of_lost {service : AVSessionService} {y : SessionRef}
    (hlost : CreationLost service pid uid y) : ¬ CreationReentered service pid uid y :=
  fun hre => hlost.2.1 hre.2.1

/-- The casts that change nothing. -/
theorem Consistent.unchanged_iff (h : Consistent s) (hinv : CastMapInv s)
    (hcast : s.remoteCastAudioInner info sink networkId pid uid correctElement allocated cast =
      (s, .error)) :
    (Consistent (s.step (.remoteCastAudioInner info sink networkId pid uid correctElement allocated
      cast)) ∧ Unchanged s (.remoteCastAudioInner info sink networkId pid uid correctElement
        allocated cast)) := by
  have hstep : s.step (.remoteCastAudioInner info sink networkId pid uid correctElement allocated
      cast) = s := congrArg Prod.fst hcast
  refine ⟨hstep.symm ▸ h, fun _ => ?_⟩
  rw [hcast]
  exact ⟨rfl, fun x hx => hinv.bounded.lt_of_live hx⟩

/-- A cast, from a consistent map. -/
theorem Consistent.remoteCastAudioInner_iff (h : Consistent s) (hinv : CastMapInv s)
    (hd : s.sourceDescriptor info sink networkId = some d) :
    Consistent (s.step (.remoteCastAudioInner info sink networkId pid uid correctElement allocated
        cast)) ∧
      Unchanged s (.remoteCastAudioInner info sink networkId pid uid correctElement allocated
        cast) ↔ SinkOk s info d pid uid allocated cast := by
  cases hparam : isParamInvalid d.sessionTag uid (sessionTypeOf d.sessionType)
      (sourceElement d) with
  | false =>
      refine iff_of_true (h.unchanged_iff hinv (remoteCastAudioInner_of_refused hd hparam))
        fun htrue => ?_
      rw [hparam] at htrue
      cases htrue
  | true =>
      obtain ⟨hhandled, hnot, hin⟩ := createSessionInner_spec hinv.bounded pid correctElement
        allocated hparam
      unfold SinkOk
      dsimp only
      rw [forall_prop_of_true hparam]
      show Consistent (s.remoteCastAudioInner info sink networkId pid uid correctElement allocated
        cast).1 ∧ (_ ≠ _ → _) ↔ _
      by_cases henters : Enters s.service d pid uid allocated
      · obtain ⟨hlive, hhanded⟩ := hin henters
        have hfree : KeepsCasts s _ _ := keepsCasts_of_free henters.1
        rw [and_iff_right hfree, forall_prop_of_true henters.1, forall_prop_of_true henters.2.1,
          forall_prop_of_true henters.2.2]
        split_ifs at hhanded with hroom
        · rw [and_iff_right hroom]
          obtain ⟨k, hstate, hret, hk⟩ := remoteCastAudioInner_spec hd hhanded cast
          rw [← hret, hstate]
          by_cases hsuccess : (s.remoteCastAudioInner info sink networkId pid uid correctElement
              allocated cast).2 = .success
          · rw [and_iff_right hsuccess, and_iff_left fun hfail => absurd hsuccess hfail]
            have hkept := (h.handled_iff hinv hhandled fun _ =>
              not_creationReentered_of_lost).mpr hfree
            exact hkept.cast_iff (hinv.withService hhandled) hlive
              (hinv.fresh _ le_rfl) (hk hsuccess)
          · refine iff_of_false ?_ fun hall => hsuccess hall.1
            rintro ⟨-, hunchanged⟩
            exact (Nat.lt_irrefl _ ((hunchanged hsuccess).2 _ hlive)).elim
        · rw [remoteCastAudioInner_of_none hd hhanded]
          refine iff_of_false ?_ fun hall => hroom hall.1
          rintro ⟨-, hunchanged⟩
          exact (Nat.lt_irrefl _ ((hunchanged nofun).2 _ hlive)).elim
      · obtain ⟨hnone, hlt⟩ := hnot henters
        rw [remoteCastAudioInner_of_none hd hnone]
        rw [and_iff_left fun _ => ⟨rfl, hlt⟩]
        refine (h.handled_iff hinv hhandled fun _ => not_creationReentered_of_lost).trans ?_
        exact (and_iff_left fun hability hallocated hsize =>
          absurd ⟨hability, hallocated, hsize⟩ henters).symm

/-- **One step.** From a consistent map, the step keeps it and a failed cast leaves nothing behind
exactly under the condition. -/
theorem Consistent.step_iff (h : Consistent s) (hinv : CastMapInv s) (a : CastMapOp) :
    Consistent (s.step a) ∧ Unchanged s a ↔ CastMapOk s a := by
  cases a with
  | remoteCastAudioInner info sink networkId pid uid correctElement allocated cast =>
      cases hd : s.sourceDescriptor info sink networkId with
      | none =>
          have hsame : s.remoteCastAudioInner info sink networkId pid uid correctElement allocated
              cast = (s, .error) := by
            unfold CastService.remoteCastAudioInner
            rw [hd]
          refine iff_of_true (h.unchanged_iff hinv hsame) fun d hd' => ?_
          rw [hd] at hd'
          cases hd'
      | some d =>
          refine (h.remoteCastAudioInner_iff hinv hd).trans ⟨fun hok d' hd' => ?_, fun hok => ?_⟩
          · obtain rfl := Option.some.inj (hd.symm.trans hd')
            exact hok
          · exact hok d hd
  | remoteCancelCastAudioInner o info cancelled =>
      refine (and_iff_left trivial).trans ?_
      show Consistent (s.remoteCancelCastAudioInner o info cancelled).1 ↔ _
      by_cases hx : ∃ source x, s.cancelledSession info = some (source, x) ∧
          (s.sinks x).hasRemoteSink = true ∧ cancelled = true
      · obtain ⟨source, x, hx, hcancelled⟩ := hx
        rw [remoteCancelCastAudioInner_of_some hx hcancelled]
        refine (h.cancel_iff hinv o (h.castTo_of_cancelled hinv hx)).trans
          ⟨fun hok source' x' hx' _ _ => ?_, fun hok => ?_⟩
        · obtain ⟨rfl, rfl⟩ := Prod.mk.inj (Option.some.inj (hx.symm.trans hx'))
          exact hok
        · exact hok source x hx hcancelled.1 hcancelled.2
      · rw [remoteCancelCastAudioInner_of_not fun source x hfound hcancelled =>
          hx ⟨source, x, hfound, hcancelled⟩]
        exact iff_of_true h fun source x hfound hsink hcancelled =>
          absurd ⟨source, x, hfound, hsink, hcancelled⟩ hx
  | service op =>
      refine (and_iff_left trivial).trans ?_
      exact h.handled_iff hinv (Handled.step hinv.bounded op) fun _ => not_reentered_of_lost

end steps

/-! ## Runs -/

section runs

open AvSession.Service

/-- **The map of the sinks.** In every run of casts, cancels and handlers of the service, from its
start: the map has exactly the sinks that are live and cast all along, and every cast that fails
leaves the map as it was and no session that it created, exactly if each step meets the
condition. -/
theorem castAudioSessionMap_iff (items : Items) (userId : UserId)
    (controlBundleNameSet : List String) (carFeature : Bool)
    (localCapability : AVSessionBasicInfo) (hinj : DistinctIds items) (ops : List CastMapOp) :
    let init := CastService.init
      (AVSessionService.init items userId controlBundleNameSet carFeature) localCapability
    Always CastService.step Consistent init ops ∧ Meets CastService.step Unchanged init ops ↔
      Meets CastService.step CastMapOk init ops := by
  apply always_and_meets_iff (I := CastMapInv)
  · exact fun _ a h => h.step a
  · exact fun _ a hinv h => h.step_iff hinv a
  · exact ⟨Bounded.init hinj userId controlBundleNameSet carFeature, fun _ _ => rfl⟩
  · refine fun source sessionId => iff_of_false nofun ?_
    rintro ⟨x, -, hx⟩
    cases hx.2

/-- The session that is shown on the source `sessionId`. -/
def castDescriptor (sessionId : String) : AVSessionDescriptor :=
  { AVSessionDescriptor.init with
    sessionId := sessionId
    sessionTag := "song"
    elementName := ⟨"", "music", "a", ""⟩ }

/-- The document of a source that reads. -/
def castSource (sessionId : String) : SessionInfo :=
  (setSessionBasicInfo (setSessionDescriptor .empty (castDescriptor sessionId)).1
    CastService.emptyBasicInfo).1

/-- The service of user 100 when it starts. -/
def castService : CastService :=
  CastService.init (AVSessionService.init (numberedItems 100) 100 [] false)
    CastService.emptyBasicInfo

/-- A system process casts the session; the remote sink takes it, or does not. -/
def castOf (sessionId : String) (pid : Pid) (cast : Bool) : CastMapOp :=
  .remoteCastAudioInner (castSource sessionId) .empty (some "") pid 5557 music true cast

/-- The cast is cancelled. -/
def cancelOf (sessionId : String) : CastMapOp :=
  .remoteCancelCastAudioInner silent (castSource sessionId) true

/-- A cast that the sink takes, and its cancel. -/
theorem castAudioSessionMap_of_one_cast :
    Always CastService.step Consistent castService [castOf "s" 1 true, cancelOf "s"] ∧
      Meets CastService.step Unchanged castService [castOf "s" 1 true, cancelOf "s"] := by
  refine (castAudioSessionMap_iff (numberedItems 100) 100 [] false CastService.emptyBasicInfo
    (distinctIds_numberedItems 100) [castOf "s" 1 true, cancelOf "s"]).mpr
      ⟨fun d hd _ => ?_, fun source x hx _ _ y _ hkey hne => ?_, trivial⟩
  · obtain rfl : (castService.sourceDescriptor (castSource "s") .empty (some "")).get (by decide) =
        d := Option.some.inj ((Option.some_get _).trans hd)
    refine ⟨keepsCasts_of_free (by decide), fun _ _ _ => ⟨by decide, ⟨by decide, rfl, ?_⟩, rfl⟩⟩
    exact ⟨(getAllCapability (castSource "s")).get (by decide), (Option.some_get _).symm,
      by decide⟩
  · -- the sink holds its own key
    obtain rfl : 0 = x := (Prod.mk.inj (Option.some.inj
      ((by decide : _ = some ("s", 0)).symm.trans hx))).2
    exact absurd (Option.some.inj ((by decide : _ = some 0).symm.trans hkey)).symm hne

/-- Along every run from the empty service the map is kept. -/
theorem castMapInv_run (ops : List CastMapOp) : CastMapInv (run CastService.step castService ops) :=
  (always_of_forall (fun _ a h => h.step a) ops
    ⟨Bounded.init (distinctIds_numberedItems 100) 100 [] false, fun _ _ => rfl⟩).last

/-- A refused cast leaves its sink in the map and alive, a second cast of a source leaves the first
sink alive without the map, and a released sink stays in the map. After a switch of the user, the
cancel of a second cast takes the first one's sink out of the registry and leaves the map. -/
theorem refusedCast_secondCast_stale :
    ¬ Unchanged castService (castOf "s" 1 false) ∧
      ¬ Consistent (run CastService.step castService [castOf "s" 1 false]) ∧
      ¬ Consistent (run CastService.step castService [castOf "s" 1 true, castOf "s" 2 true]) ∧
      ¬ Consistent (run CastService.step castService
        [castOf "s" 1 true, .service (.handleSessionRelease silent "")]) ∧
      ¬ Consistent (run CastService.step castService
        [castOf "s" 1 true, .service (.userSwitched 105), castOf "t" 1 true, cancelOf "t"]) := by
  refine ⟨fun h => ?_, fun h => ?_, fun h => ?_, fun h => ?_, fun h => ?_⟩
  · have hmap : (castService.step (castOf "s" 1 false)).castAudioSessionMap "s" = some "" := by
      decide
    have hsame := congrFun (h (by decide)).1 "s"
    exact Option.some_ne_none _ (hmap.symm.trans hsame)
  · have hcast : CastService.CastTo _ 0 "s" := (h.castTo_iff (castMapInv_run _)).mpr (by decide)
    exact absurd hcast.2 (by decide)
  · have hcast : CastService.CastTo (run CastService.step castService
        [castOf "s" 1 true, castOf "s" 2 true]) 0 "s" := ⟨by decide, by decide⟩
    exact absurd ((h.castTo_iff (castMapInv_run _)).mp hcast) (by decide)
  · have hcast : CastService.CastTo _ 0 "s" := (h.castTo_iff (castMapInv_run _)).mpr (by decide)
    exact absurd hcast.1 (by decide)
  · have hcast : CastService.CastTo _ 0 "s" := (h.castTo_iff (castMapInv_run _)).mpr (by decide)
    exact absurd hcast.1 (by decide)

end runs

end AvSession.Remote
