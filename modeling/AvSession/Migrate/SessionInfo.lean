import AvSession.Lib.Run
import AvSession.Migrate.Controllers

/-!
# The session that the remote is told of

A message about the session is posted, or waits until the remote needs it, or is left out because
the same session was told of before.

* `SessionInfoAgrees` — when the remote needs it and nothing is pending, the last message names the
  session at the front.
* `SessionInfoOk` — what the steps have to avoid: the plain message of the remote does not post what
  waits, and a session without a controller is not told of.
* `InfoInv`, `sessionInfo_always` — the invariant of the server, and that the last message agrees
  all along a run.
-/

namespace AvSession.Migrate

open AvSession.Lib AvSession.Meta MigrateAVSessionServer

variable {ω : Type}

/-! ## The message about the session -/

section info

/-- The name of a session in a message, where the empty one stands for none. -/
def nameOf (sessionId : String) : String :=
  if sessionId = "" then EMPTY_SESSION else sessionId

/-- The last message is about the session. None is needed where there was never a session. -/
def Names (last : Option String) (sessionId : String) : Prop :=
  last = some (nameOf sessionId) ∨ (last = none ∧ sessionId = "")

/-- What the remote was told last is the session at the front, when no task is pending. -/
def SessionInfoAgrees (s : MigrateState) : Prop :=
  s.server.isSoftbusConnecting = true → s.server.isNeedByRemote = true → s.server.tasks = [] →
    Names (TaskQueue.lastOn info? s.server.sent) s.localFrontSessionId

/-- What a step has to avoid: a plain message while another session waits to be told of, and the
task of a session that is not told of yet and gets no controller. -/
def SessionInfoOk (s : MigrateState) : MigrateOp ω → Prop
  | .processMediaControlNeedState none (some true) =>
      s.server.isNeedByRemote = true ∨
        ∀ msg, s.server.pendingSessionInfo = some msg → s.server.lastInfo = info? msg
  | .runTask created _ =>
      match s.server.tasks with
      | .front (.arrive x) :: _ =>
          s.server.preSessionId = x ∨ s.server.controllerAt x ≠ none ∨
            (created = true ∧ s.server.playerIdToControllerCallbackMap x = none ∧
              s.server.playerIdToControllerMap x = none)
      | _ => True
  | _ => True

namespace MigrateAVSessionServer

/-- What the server keeps: what waits names the session that was looked at last, and so does the
last message when nothing waits or the remote needs it. -/
structure InfoInv (s : MigrateAVSessionServer) : Prop where
  self : ∀ x c, s.controllerAt x = some c → c = x
  waiting : ∀ msg, s.pendingSessionInfo = some msg → info? msg = some (nameOf s.preSessionId)
  told : s.pendingSessionInfo = none ∨ s.isNeedByRemote = true → Names s.lastInfo s.preSessionId

variable {s s' : MigrateAVSessionServer}

namespace InfoInv

/-- Nothing has changed but tasks and caches of another kind. -/
theorem congr (h : InfoInv s) (hself : ∀ x c, s'.controllerAt x = some c → c = x)
    (hneed : s'.isNeedByRemote = true → s.isNeedByRemote = true)
    (hpre : s'.preSessionId = s.preSessionId)
    (hwaiting : s'.pendingSessionInfo = s.pendingSessionInfo) (hinfo : s'.lastInfo = s.lastInfo) :
    InfoInv s' where
  self := hself
  waiting := by
    rw [hwaiting, hpre]
    exact h.waiting
  told htold := by
    rw [hinfo, hpre]
    exact h.told (hwaiting ▸ htold.imp_right hneed)

/-- A call that touches controllers only keeps the invariant. -/
theorem of_onlyControllers (h : InfoInv s) (hsame : OnlyControllers s s')
    (hself : ∀ x c, s'.controllerAt x = some c → c = x) : InfoInv s' :=
  h.congr hself (fun hneed => hsame.need ▸ hneed) hsame.preSessionId hsame.pendingSessionInfo
    hsame.info

/-- A call that touches media only keeps the invariant. -/
theorem of_onlyMedia (h : InfoInv s) (hsame : OnlyMedia s s') : InfoInv s' :=
  h.congr (fun x c hc => h.self x c (controllerAt_congr s x hsame.controllerMap ▸ hc))
    (fun hneed => hsame.need ▸ hneed) hsame.preSessionId hsame.pendingSessionInfo hsame.info

/-- Posting a task keeps the invariant. -/
theorem of_posted (h : InfoInv s) {t : FrontTask} {last : String} (hposted : Posted s s' t last) :
    InfoInv s' :=
  h.congr (fun x c hc => h.self x c (controllerAt_congr s x hposted.controllerMap ▸ hc))
    (fun hneed => hposted.need ▸ hneed) hposted.preSessionId hposted.pendingSessionInfo hposted.info

variable (hconnected : s.isSoftbusConnecting = true)

include hconnected

/-- A message about the session is posted, and none waits. -/
theorem of_postMessage (hself : ∀ x c, s.controllerAt x = some c → c = x) {msg : Message}
    (hmsg : info? msg = some (nameOf s.preSessionId)) (hnone : s.pendingSessionInfo = none) :
    InfoInv (s.postMessage msg) where
  self x c hc :=
    hself x c (controllerAt_congr s x (OnlyMessages.postMessage s msg).controllerMap ▸ hc)
  waiting msg' hmsg' := by
    rw [pendingSessionInfo_postMessage, hnone] at hmsg'
    cases hmsg'
  told _ := by
    rw [preSessionId_postMessage, lastInfo_postMessage hconnected hmsg]
    exact Or.inl rfl

/-- The message is posted, or waits, or was posted before. -/
theorem updateSessionInfo (h : InfoInv s) {sessionId : String} {msg : Message}
    (hmsg : info? msg = some (nameOf sessionId)) :
    InfoInv (s.updateSessionInfo sessionId msg) ∧
      (s.updateSessionInfo sessionId msg).preSessionId = sessionId := by
  by_cases hrepeated : s.preSessionId = sessionId
  · rw [updateSessionInfo_of_repeated msg hrepeated]
    exact ⟨h, hrepeated⟩
  · by_cases hsync : s.Synced sessionId
    · rw [updateSessionInfo_of_synced msg hrepeated hsync]
      refine ⟨of_postMessage ?_ ?_ hmsg rfl, ?_⟩
      · exact hconnected
      · exact h.self
      · rw [preSessionId_postMessage]
    · rw [updateSessionInfo_of_cached msg hrepeated hsync]
      refine ⟨⟨h.self, fun msg' hmsg' => ?_, fun htold => ?_⟩, rfl⟩
      · obtain rfl := Option.some.inj hmsg'
        exact hmsg
      · rcases htold with hnone | hneed
        · cases hnone
        · exact absurd (Or.inl hneed) hsync

/-- The empty information names no session. -/
theorem updateEmptyInfoToRemote (h : InfoInv s) :
    InfoInv s.updateEmptyInfoToRemote ∧ s.updateEmptyInfoToRemote.preSessionId = "" :=
  h.updateSessionInfo hconnected rfl

/-- The message about a session comes with others about its media. -/
theorem updateFrontSessionInfoToRemote (h : InfoInv s)
    (minSize : List UInt8 → Option (List UInt8)) (focus : FocusSession ω) {c : ControllerRef}
    (hid : c ≠ "") :
    InfoInv (s.updateFrontSessionInfoToRemote minSize c focus) ∧
      (s.updateFrontSessionInfoToRemote minSize c focus).preSessionId = c := by
  have hmsg : info? (.syncFocusSessionInfo c
      (some (focus.bundleName ++ "|" ++ focus.sessionType, focus.abilityName))) =
        some (nameOf c) := by
    unfold nameOf
    rw [if_neg hid]
    rfl
  obtain ⟨htold, hpre⟩ := h.updateSessionInfo hconnected hmsg
  have hmedia := onlyMedia_updateFrontSessionInfoToRemote s focus minSize c
  exact ⟨htold.of_onlyMedia hmedia, hmedia.preSessionId.trans hpre⟩

/-- What waits is posted, so the last message names the session that was looked at last. -/
theorem postPending (h : InfoInv s) : InfoInv (MigrateAVSessionServer.postPending
    { s with isNeedByRemote := true }) := by
  unfold MigrateAVSessionServer.postPending
  dsimp only
  cases hwaiting : s.pendingSessionInfo with
  | none => exact ⟨h.self, fun _ hmsg => (nomatch hmsg), fun _ => h.told (Or.inl hwaiting)⟩
  | some msg =>
      refine of_postMessage ?_ ?_ (h.waiting msg hwaiting) rfl
      · exact hconnected
      · exact h.self

end InfoInv

end MigrateAVSessionServer

end info

/-! ## The steps -/

section steps

/-- What the steps keep. -/
structure SessionInfoInv (s : MigrateState) : Prop extends FrontInv s where
  info : s.server.InfoInv
  settled : s.server.pendingFront = [] → s.server.preSessionId = s.localFrontSessionId

variable {s : MigrateState} {server server' : MigrateAVSessionServer}

namespace SessionInfoInv

/-- The invariant gives the agreement. -/
theorem agrees (h : SessionInfoInv s) : SessionInfoAgrees s := by
  intro _ hneed htasks
  have hlast : s.server.lastInfo = TaskQueue.lastOn info? s.server.sent := by
    unfold lastInfo
    rw [htasks, TaskQueue.lastPosted_nil]
  rw [← hlast, ← h.settled (pendingFront_of_tasks htasks)]
  exact h.info.told (Or.inr hneed)

/-- A front task is posted. -/
theorem of_posted (h : InfoInv server) {t : FrontTask} {front : String}
    (hposted : Posted server server' t front) (hpending : PendingAs front [t]) :
    SessionInfoInv { s with server := server', localFrontSessionId := front } where
  toFrontInv := .of_posted hposted hpending
  info := h.of_posted hposted
  settled hnone := by
    have hnone' : server'.pendingFront = [] := hnone
    rw [hposted.front] at hnone'
    cases hnone'

/-- A new front keeps the invariant. -/
theorem notifyLocalFrontSessionChangeForMigrate (h : SessionInfoInv s) (update : String) :
    SessionInfoInv (s.notifyLocalFrontSessionChangeForMigrate update) := by
  rcases notifyLocalFrontSessionChangeForMigrate_cases s update with
    ⟨-, hsame⟩ | ⟨-, hupdate, harrive⟩ | ⟨-, hupdate, -, hchange⟩ | ⟨-, -, hleave⟩
  · rw [hsame]
    exact h
  · rw [harrive]
    exact of_posted h.info (posted_localFrontSessionArrive h.connected hupdate)
      (Or.inr (Or.inl ⟨hupdate, rfl⟩))
  · rw [hchange]
    obtain ⟨cleared, honly, -, hmap, hposted⟩ :=
      s.server.localFrontSessionChange_cleared h.connected hupdate
    refine of_posted (h.info.of_onlyControllers honly fun x c hc => ?_) hposted
      (Or.inr (Or.inl ⟨hupdate, rfl⟩))
    rw [hmap] at hc
    split_ifs at hc
    exact h.info.self x c hc
  · rw [hleave]
    exact of_posted h.info (posted_localFrontSessionLeave h.connected _)
      (Or.inr (Or.inr ⟨rfl, _, rfl⟩))

/-- The arrival of the front session is posted once more, if there is one. -/
theorem localFrontSessionArrive_last (h : SessionInfoInv s) :
    SessionInfoInv { s with
      server := s.server.localFrontSessionArrive s.server.lastSessionId } := by
  rw [h.last]
  by_cases hfront : s.localFrontSessionId = ""
  · unfold MigrateAVSessionServer.localFrontSessionArrive
    rw [if_pos hfront]
    exact h
  · exact of_posted h.info (posted_localFrontSessionArrive h.connected hfront)
      (Or.inr (Or.inl ⟨hfront, rfl⟩))

/-- What is at the front has not changed. -/
theorem of_info (h : SessionInfoInv s) (hinfo : InfoInv server')
    (hlast : server'.lastSessionId = s.server.lastSessionId)
    (hconnected : server'.isSoftbusConnecting = s.server.isSoftbusConnecting)
    (hfront : server'.pendingFront = s.server.pendingFront)
    (hpre : server'.preSessionId = s.server.preSessionId) :
    SessionInfoInv { s with server := server' } where
  toFrontInv := h.toFrontInv.congr hlast hconnected hfront s.attempts
  info := hinfo
  settled hnone := hpre.trans (h.settled (hfront.symm.trans hnone))

/-! ### The needs of the remote -/

/-- The remote needs the messages no more, or the timer is started. -/
theorem setNeed (h : SessionInfoInv s) {need : Bool} (timer : Bool)
    (hneed : need = true → s.server.isNeedByRemote = true) :
    SessionInfoInv { s with
      server := { s.server with isNeedByRemote := need, needStateTimer := timer } } :=
  h.of_info (h.info.congr h.info.self hneed rfl rfl rfl) rfl rfl rfl rfl

/-- The remote needs the messages, and what waits is of the session it knows. -/
theorem setNeed_of_known (h : SessionInfoInv s)
    (hknown : ∀ msg, s.server.pendingSessionInfo = some msg → s.server.lastInfo = info? msg) :
    SessionInfoInv { s with server := { s.server with isNeedByRemote := true } } := by
  refine h.of_info ⟨h.info.self, h.info.waiting, fun _ => ?_⟩ rfl rfl rfl rfl
  cases hwaiting : s.server.pendingSessionInfo with
  | none => exact h.info.told (Or.inl hwaiting)
  | some msg => exact Or.inl ((hknown msg hwaiting).trans (h.info.waiting msg hwaiting))

/-- A timer request keeps the invariant. -/
theorem processMediaControlTimerRequest (h : SessionInfoInv s) (version : ℤ) :
    SessionInfoInv { s with server := s.server.processMediaControlTimerRequest version } := by
  rcases s.server.processMediaControlTimerRequest_cases version with heq | ⟨-, heq⟩ | heq
  · rw [heq]
    exact h
  · rw [heq]
    exact h.setNeed true fun hneed => hneed
  · rw [heq]
    have hpost : OnlyMessages { s.server with isNeedByRemote := true } _ :=
      onlyMessages_postPending _
    have hpending := h.of_info (h.info.postPending h.connected) hpost.lastSessionId
      hpost.connecting hpost.front (preSessionId_postPending _)
    exact hpending.localFrontSessionArrive_last.setNeed true fun hneed => hneed

/-- An orderly message of need keeps the invariant. -/
theorem processMediaControlNeedState (h : SessionInfoInv s) (version : Option ℤ)
    (needState : Option Bool)
    (hok : SessionInfoOk s (.processMediaControlNeedState version needState : MigrateOp ω)) :
    SessionInfoInv { s with
      server := s.server.processMediaControlNeedState version needState } := by
  unfold MigrateAVSessionServer.processMediaControlNeedState
  cases version with
  | some version => exact h.processMediaControlTimerRequest version
  | none =>
      match needState with
      | none => exact h
      | some false => exact h.setNeed s.server.needStateTimer fun hneed => nomatch hneed
      | some true =>
          dsimp only
          split_ifs with hneed
          · exact h
          · exact (h.setNeed_of_known (hok.resolve_left hneed)).localFrontSessionArrive_last

/-- The timer of the need keeps the invariant. -/
theorem handleNeedStateTimer (h : SessionInfoInv s) :
    SessionInfoInv { s with server := s.server.handleNeedStateTimer } := by
  unfold MigrateAVSessionServer.handleNeedStateTimer
  split_ifs
  · exact h.setNeed false fun hneed => nomatch hneed
  · exact h

/-! ### The tasks -/

variable {tasks : List Task} {x : String} (minSize : List UInt8 → Option (List UInt8))
  (focus : FocusSession ω)

/-- The session that arrives is told of, unless it is known or has no controller. -/
theorem arriveTask (h : SessionInfoInv s) {created : Bool}
    (htasks : s.server.tasks = .front (.arrive x) :: tasks)
    (hok : s.server.preSessionId = x ∨ s.server.controllerAt x ≠ none ∨
      (created = true ∧ s.server.playerIdToControllerCallbackMap x = none ∧
        s.server.playerIdToControllerMap x = none)) (attempts : String → Option Bool) :
    SessionInfoInv { s with
      server := { s.server with tasks }.arriveTask minSize x created focus, attempts } := by
  have hpending := h.pending
  rw [pendingFront_cons htasks] at hpending
  obtain ⟨hx, hid, htail⟩ := hpending.of_arrive
  have hframe := (onlyControllers_createController { s.server with tasks } x created).trans
    (onlyControllers_plantNull _ x)
  have hat := fun y => (controllerAt_plantNull
    (MigrateAVSessionServer.createController { s.server with tasks } x created) y x).trans
      (controllerAt_createController { s.server with tasks } y x created)
  have hpopped : InfoInv { s.server with tasks } :=
    h.info.congr h.info.self (fun hneed => hneed) rfl rfl (lastInfo_front htasks)
  unfold MigrateAVSessionServer.arriveTask
  dsimp only
  generalize ({ s.server with tasks }.createController x created).plantNull x = base at *
  have hself : ∀ y c, base.controllerAt y = some c → c = y := by
    intro y c hc
    rw [hat] at hc
    split_ifs at hc with hy
    · exact (Option.some.inj hc).symm.trans hy.1.symm
    · exact h.info.self y c hc
  have hinfo := hpopped.of_onlyControllers hframe hself
  cases hc : base.controllerAt x with
  | none =>
      refine ⟨⟨hframe.connecting.trans h.connected, hframe.lastSessionId.trans h.last,
        Or.inl (hframe.front.trans htail)⟩, hinfo, fun _ => ?_⟩
      -- without a controller, the session has to be known
      rw [hat] at hc
      split_ifs at hc with hcreated
      refine hframe.preSessionId.trans (Eq.trans ?_ hx)
      rcases hok with hknown | hsome | ⟨htrue, hcallback, hmap⟩
      · exact hknown
      · exact absurd hc hsome
      · exact absurd ⟨rfl, htrue, hcallback, hmap⟩ hcreated
  | some c =>
      obtain rfl := hself x c hc
      have hconnected : MigrateAVSessionServer.isSoftbusConnecting
          { base with lastSessionId := c } = true := hframe.connecting.trans h.connected
      have hset : InfoInv { base with lastSessionId := c } :=
        hinfo.congr hself (fun hneed => hneed) rfl rfl rfl
      obtain ⟨htold, hpre⟩ := hset.updateFrontSessionInfoToRemote hconnected minSize focus hid
      have hsame := onlyMessages_updateFrontSessionInfoToRemote
        { base with lastSessionId := c } focus minSize c
      dsimp only
      rw [if_pos hconnected]
      exact ⟨⟨hsame.connecting.trans hconnected, hsame.lastSessionId.trans hx,
        Or.inl (hsame.front.trans (hframe.front.trans htail))⟩, htold, fun _ => hpre.trans hx⟩

/-- The remote is told that no session is at the front. -/
theorem leaveTask (h : SessionInfoInv s) (htasks : s.server.tasks = .front (.leave x) :: tasks) :
    SessionInfoInv { s with server := { s.server with tasks }.leaveTask x } := by
  have hpending := h.pending
  rw [pendingFront_cons htasks] at hpending
  obtain ⟨hfront, htail⟩ := hpending.of_leave
  have hplanted := onlyControllers_plantNull { s.server with tasks } s.server.lastSessionId
  have hat := fun y => controllerAt_plantNull { s.server with tasks } y s.server.lastSessionId
  have hpopped : InfoInv { s.server with tasks } :=
    h.info.congr h.info.self (fun hneed => hneed) rfl rfl (lastInfo_front htasks)
  unfold MigrateAVSessionServer.leaveTask
  dsimp only
  generalize plantNull { s.server with tasks } s.server.lastSessionId = planted at *
  have hframe := hplanted.trans
    (onlyControllers_clear planted x (planted.controllerAt planted.lastSessionId))
  have hinfo := hpopped.of_onlyControllers hframe fun y c hc => by
    rw [controllerAt_clear, hat] at hc
    split_ifs at hc
    exact h.info.self y c hc
  have hconnected := hframe.connecting.trans h.connected
  generalize (planted.unregisterAVControllerCallback
    (planted.controllerAt planted.lastSessionId)).clearCacheBySessionId x = cleared at *
  obtain ⟨htold, hpre⟩ := hinfo.updateEmptyInfoToRemote hconnected
  have hsame := onlyMessages_updateEmptyInfoToRemote cleared
  refine ⟨⟨hsame.connecting.trans hconnected, hfront.symm,
    Or.inl (hsame.front.trans (hframe.front.trans htail))⟩, ?_, fun _ => hpre.trans hfront.symm⟩
  exact htold.congr htold.self (fun hneed => hneed) rfl rfl rfl

/-- An orderly front task keeps the invariant. -/
theorem runTask (h : SessionInfoInv s) (created : Bool)
    (hok : SessionInfoOk s (.runTask created focus)) :
    SessionInfoInv ((MigrateOp.runTask created focus).step minSize s) := by
  unfold SessionInfoOk at hok
  unfold MigrateOp.step MigrateAVSessionServer.runTask
  dsimp only at hok ⊢
  cases htasks : s.server.tasks with
  | nil =>
      unfold MigrateState.attemptsAfter
      rw [htasks]
      exact h
  | cons task tasks =>
      rw [htasks] at hok
      cases task with
      | send msg =>
          unfold MigrateState.attemptsAfter
          rw [htasks]
          refine h.of_info ?_ rfl rfl (pendingFront_send htasks).symm rfl
          exact h.info.congr h.info.self (fun hneed => hneed) rfl rfl (lastInfo_send htasks)
      | front t =>
          cases t with
          | arrive x => exact h.arriveTask minSize focus htasks hok _
          | leave x =>
              unfold MigrateState.attemptsAfter
              rw [htasks]
              exact h.leaveTask htasks

/-- One step keeps the invariant, if it avoids what it has to. -/
theorem step (h : SessionInfoInv s) (op : MigrateOp ω) (hok : SessionInfoOk s op) :
    SessionInfoInv (op.step minSize s) := by
  cases op with
  | notifyLocalFrontSessionChangeForMigrate update =>
      exact h.notifyLocalFrontSessionChangeForMigrate update
  | processMediaControlNeedState version needState =>
      exact h.processMediaControlNeedState version needState hok
  | handleNeedStateTimer => exact h.handleNeedStateTimer
  | runTask created focus => exact h.runTask minSize focus created hok

/-- At the start no session is named. -/
theorem init : SessionInfoInv .init where
  toFrontInv := .init
  info := ⟨fun _ _ h => (nomatch h), fun _ h => (nomatch h), fun _ => Or.inr ⟨rfl, rfl⟩⟩
  settled _ := rfl

end SessionInfoInv

end steps

/-! ## Whole runs -/

section runs

variable (minSize : List UInt8 → Option (List UInt8))

/-- **The remote is told of the front session.** In a run where a plain message of the remote finds
nothing of another session waiting, and a session that is not told of yet gets a controller, the
last message names the session at the front whenever the remote needs it and nothing is pending. -/
theorem sessionInfo_always (ops : List (MigrateOp ω))
    (h : Meets (MigrateOp.step minSize) SessionInfoOk .init ops) :
    Always (MigrateOp.step minSize) SessionInfoAgrees .init ops :=
  (always_of_meets (P := SessionInfoInv) (fun _ op hs hok => hs.step minSize op hok) .init h).mono
    fun _ => SessionInfoInv.agrees

/-- A session that says nothing about its media. -/
def quietFocus : FocusSession Unit := ⟨none, none, [], "", "", "", none⟩

/-- Another session comes to the front while the remote does not need the messages. -/
def changeBeforeNeed : List (MigrateOp Unit) :=
  [.notifyLocalFrontSessionChangeForMigrate "a", .runTask true quietFocus,
    .runTask true quietFocus, .notifyLocalFrontSessionChangeForMigrate "b",
    .runTask true quietFocus]

/-- With the timer form of the message, the session that waits is told of. -/
theorem told_after_timer_request :
    Names (TaskQueue.lastOn info? (run (MigrateOp.step fun _ => none) .init (changeBeforeNeed ++
      [.processMediaControlNeedState (some AVSESSION_PROXY_VERSION) none,
        .runTask true quietFocus, .runTask true quietFocus])).server.sent) "b" := by
  have hmeets : Meets (MigrateOp.step fun _ => none) SessionInfoOk .init (changeBeforeNeed ++
      [.processMediaControlNeedState (some AVSESSION_PROXY_VERSION) none,
        .runTask true quietFocus, .runTask true quietFocus]) :=
    ⟨trivial, Or.inr (Or.inr ⟨rfl, rfl, rfl⟩), trivial, trivial, Or.inr (Or.inr ⟨rfl, rfl, rfl⟩),
      trivial, trivial, Or.inl rfl, trivial⟩
  exact (sessionInfo_always _ _ hmeets).last rfl rfl rfl

/-- With the plain form it is not: the session at the front is `b`, and the remote was told of
`a` last. -/
theorem not_told_after_plain_request :
    ¬ Always (MigrateOp.step fun _ => none) SessionInfoAgrees .init (changeBeforeNeed ++
      [.processMediaControlNeedState none (some true), .runTask true quietFocus]) := by
  intro h
  rcases h.last rfl rfl rfl with hlast | ⟨hlast, -⟩
  · have hnames : some "a" = some "b" := hlast
    exact absurd (Option.some.inj hnames) (by decide)
  · cases hlast

end runs

end AvSession.Migrate
