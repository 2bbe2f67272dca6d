import AvSession.Lib.Run
import AvSession.Migrate.Heard
import AvSession.Migrate.LongPause
import AvSession.Migrate.Observer

/-!
# Runs with long pauses

A step that avoids what it has to keeps the server with the session at the front: its state is the
last one there, and while the timer waits it is known since when the session is paused.

* `PauseInv` — the invariant.
* `detect` — a state that comes to the server keeps it.
* `longPause_always` — the notifications of a whole run.
-/

namespace AvSession.Migrate

open AvSession.Lib AvSession.Meta MigrateAVSessionServer LongPause

variable {ω : Type}

/-! ## The invariant -/

section invariant

/-- The last state reported counts. -/
theorem reported_copyFrom (state input : AVPlaybackState ω) :
    reported (state.copyFrom input).1 = (reported input).or (reported state) := by
  unfold reported
  rw [AVPlaybackState.copyFrom_mask, AVPlaybackState.copyFrom_val]
  cases input.mask .state with
  | true =>
      rw [Bool.or_true]
      rfl
  | false =>
      rw [Bool.or_false]
      rfl

/-- What is handed out reports the same. -/
theorem reported_stateOut (state : AVPlaybackState ω) :
    reported (PauseState.stateOut state) = reported state := by
  unfold reported PauseState.stateOut
  rw [AVPlaybackState.copyToByMask_mask, AVPlaybackState.copyToByMask_val]
  cases state.mask .state <;> rfl

/-- When nothing is pending on it, the session at the front reaches the server, and its state is the
last one there. If it is the same session since the timer was started, and the last state is a
pause, then it has been paused all along. -/
structure PauseInv (s : PauseState ω) : Prop extends FrontInv s.toMigrateState where
  heard : s.server.HeardInv
  timer : s.longPause.TimerInv
  settled : s.server.pendingFront = [] → s.localFrontSessionId ≠ "" →
    s.server.innerCallback s.localFrontSessionId ≠ none ∧
      ∀ v, reported (s.playbackState s.localFrontSessionId) = some v →
        s.longPause.lastPlaybackState = v
  steady : ∀ x, s.pausedSince x = true →
    reported (s.playbackState x) = some PLAYBACK_STATE_PAUSE
  since : s.longPause.longPauseTimer = true → s.frontSince = true → s.localFrontSessionId ≠ "" →
    s.server.innerCallback s.localFrontSessionId ≠ none ∧
      (s.longPause.lastPlaybackState = PLAYBACK_STATE_PAUSE →
        s.pausedSince s.localFrontSessionId = true)

namespace PauseInv

variable {s : PauseState ω}

/-- At the start nothing is paused. -/
theorem init : PauseInv (.init : PauseState ω) where
  toFrontInv := .init
  heard := .init
  timer := .init
  settled _ h := absurd rfl h
  steady _ h := nomatch h
  since h := nomatch h

/-- The invariant gives the agreement. -/
theorem agrees (h : PauseInv s) : PauseAgrees s where
  alternate := h.timer.chain
  resumed htasks _ hfront hplay := by
    have hlast := (h.settled (pendingFront_of_tasks htasks) hfront).2 _ hplay
    exact h.timer.getLast_ne (h.timer.playing hlast).2

/-- Only the server has changed, and what is pending on the front session is still to come. -/
theorem congr (h : PauseInv s) {server : MigrateAVSessionServer} (hheard : server.HeardInv)
    (hfront : FrontInv { s.toMigrateState with server })
    (hinner : server.innerCallback = s.server.innerCallback)
    (hpending : server.pendingFront = [] → s.server.pendingFront = []) :
    PauseInv { s with server } where
  toFrontInv := hfront
  heard := hheard
  timer := h.timer
  settled hnone hid := by
    show server.innerCallback _ ≠ none ∧ _
    rw [hinner]
    exact h.settled (hpending hnone) hid
  steady := h.steady
  since htimer hsince hid := by
    show server.innerCallback _ ≠ none ∧ _
    rw [hinner]
    exact h.since htimer hsince hid

/-- A state is looked at, which is that of the session at the front, if there is one. -/
theorem detect {state : AVPlaybackState ω} (hfront : FrontInv s.toMigrateState)
    (hheard : s.server.HeardInv) (htimer : s.longPause.TimerInv)
    (hstate : ∀ v, reported state = some v → s.localFrontSessionId ≠ "" →
      reported (s.playbackState s.localFrontSessionId) = some v ∧
        s.server.innerCallback s.localFrontSessionId ≠ none)
    (hsettled : s.server.pendingFront = [] → s.localFrontSessionId ≠ "" →
      s.server.innerCallback s.localFrontSessionId ≠ none ∧ (reported state = none →
        ∀ v, reported (s.playbackState s.localFrontSessionId) = some v →
          s.longPause.lastPlaybackState = v))
    (hsince : s.longPause.longPauseTimer = true → s.frontSince = true →
      s.localFrontSessionId ≠ "" → s.server.innerCallback s.localFrontSessionId ≠ none ∧
        (s.longPause.lastPlaybackState = PLAYBACK_STATE_PAUSE →
          s.pausedSince s.localFrontSessionId = true ∧ (reported state = none →
            reported (s.playbackState s.localFrontSessionId) = some PLAYBACK_STATE_PAUSE))) :
    PauseInv (s.detect state) where
  toFrontInv := hfront
  heard := hheard
  timer := htimer.handleLongPauseDetection s.server.isSoftbusConnecting state
  steady x hx := by
    obtain ⟨-, hpaused⟩ := Bool.and_eq_true_iff.mp hx
    exact beq_iff_eq.mp hpaused
  settled hpending hid := by
    refine ⟨(hsettled hpending hid).1, fun v hv => ?_⟩
    have hv' : reported (s.playbackState s.localFrontSessionId) = some v := hv
    show (s.longPause.handleLongPauseDetection _ state).lastPlaybackState = v
    have hnew : ∀ w, reported state = some w → w = v := fun w hw =>
      Option.some.inj ((hstate w hw hid).1.symm.trans hv')
    rcases s.longPause.handleLongPauseDetection_cases s.server.isSoftbusConnecting state with
      ⟨hsame, -, heq⟩ | ⟨w, hw, ⟨-, -, heq⟩ | ⟨-, -, heq⟩ | ⟨-, -, -, heq⟩⟩
    · rw [heq]
      cases hreported : reported state with
      | none => exact (hsettled hpending hid).2 hreported v hv'
      | some w => exact (hsame w hreported).trans (hnew w hreported)
    · rw [heq]
      exact hnew w hw
    · rw [heq]
      have hw' := hnew w hw
      split_ifs <;> exact hw'
    · rw [heq]
      exact hnew w hw
  since := by
    intro hwaits hkept hid
    have hwaits' : (s.longPause.handleLongPauseDetection s.server.isSoftbusConnecting
      state).longPauseTimer = true := hwaits
    have hkept' : (s.longPause.starts state || s.frontSince) = true := hkept
    show s.server.innerCallback s.localFrontSessionId ≠ none ∧
      ((s.longPause.handleLongPauseDetection _ state).lastPlaybackState = PLAYBACK_STATE_PAUSE →
        ((s.longPause.starts state || s.pausedSince s.localFrontSessionId) &&
          reported (s.playbackState s.localFrontSessionId) == some PLAYBACK_STATE_PAUSE) = true)
    rcases s.longPause.handleLongPauseDetection_cases s.server.isSoftbusConnecting state with
      ⟨hsame, hstarts, heq⟩ |
        ⟨w, hw, ⟨hpause, hstarts, heq⟩ | ⟨-, -, heq⟩ | ⟨hpause, -, hstarts, heq⟩⟩
    · rw [heq] at hwaits' ⊢
      rw [hstarts] at hkept' ⊢
      obtain ⟨hinner, hpaused⟩ := hsince hwaits' hkept' hid
      refine ⟨hinner, fun hlast => ?_⟩
      obtain ⟨hold, hnone⟩ := hpaused hlast
      rw [Bool.false_or, hold, Bool.true_and, beq_iff_eq]
      cases hreported : reported state with
      | none => exact hnone hreported
      | some w =>
          rw [(hstate w hreported hid).1, ← hsame w hreported, hlast]
    -- the timer is started by the session at the front
    · obtain ⟨hsession, hinner⟩ := hstate w hw hid
      refine ⟨hinner, fun _ => ?_⟩
      rw [hstarts, hsession, hpause]
      rfl
    · rw [heq] at hwaits'
      split_ifs at hwaits'
      cases hwaits'
    · rw [heq] at hwaits' ⊢
      rw [hstarts] at hkept'
      exact ⟨(hsince hwaits' hkept' hid).1, fun hlast => absurd hlast hpause⟩

/-- A session sets its state without the server: it is not the one at the front, or that is still
to arrive. -/
theorem unheard (h : PauseInv s) {sessionId : String} (state : AVPlaybackState ω)
    (hnone : s.server.innerCallback sessionId = none) :
    PauseInv ({ s with
      playbackState := Function.update s.playbackState sessionId state }.watch false) where
  toFrontInv := h.toFrontInv
  heard := h.heard
  timer := h.timer
  steady x hx := by
    obtain ⟨-, hpaused⟩ := Bool.and_eq_true_iff.mp hx
    exact beq_iff_eq.mp hpaused
  settled hpending hid := by
    obtain ⟨hinner, hlast⟩ := h.settled hpending hid
    refine ⟨hinner, fun v hv => hlast v ?_⟩
    have hne : s.localFrontSessionId ≠ sessionId := fun heq => hinner (heq ▸ hnone)
    have hv' : reported (Function.update s.playbackState sessionId state
      s.localFrontSessionId) = some v := hv
    rw [Function.update_of_ne hne] at hv'
    exact hv'
  since hwaits hkept hid := by
    obtain ⟨hinner, hpaused⟩ := h.since hwaits hkept hid
    refine ⟨hinner, fun hlast => ?_⟩
    have hne : s.localFrontSessionId ≠ sessionId := fun heq => hinner (heq ▸ hnone)
    have hold := hpaused hlast
    show ((false || s.pausedSince s.localFrontSessionId) && reported (Function.update
      s.playbackState sessionId state s.localFrontSessionId) == some PLAYBACK_STATE_PAUSE) = true
    rw [Function.update_of_ne hne, hold, h.steady _ hold]
    rfl

/-- A session sets its state. -/
theorem setAVPlaybackState (h : PauseInv s) (sessionId : String) (state : AVPlaybackState ω)
    (hok : (s.server.innerCallback sessionId).isSome = true → state.mask .state = true →
      sessionId = s.localFrontSessionId) : PauseInv (s.setAVPlaybackState sessionId state) := by
  unfold PauseState.setAVPlaybackState
  dsimp only
  split_ifs with hcopied hheard
  · exact h
  · have hframe := onlyMedia_doPlaybackStateSyncToRemote s.server (PauseState.stateOut state)
    have hmessages := hframe.toOnlyMessages
    have hstored : ∀ x, reported (Function.update s.playbackState sessionId
        ((s.playbackState sessionId).copyFrom state).1 x) =
          if x = sessionId then (reported state).or (reported (s.playbackState x))
          else reported (s.playbackState x) := by
      intro x
      rw [Function.update_apply]
      split_ifs with hx
      · rw [hx, reported_copyFrom]
      · rfl
    have hunset : reported state = none → ∀ x, reported (Function.update s.playbackState sessionId
        ((s.playbackState sessionId).copyFrom state).1 x) = reported (s.playbackState x) := by
      intro hnone x
      rw [hstored, hnone, Option.none_or, ite_self]
    refine detect (h.toFrontInv.congr hmessages.lastSessionId hmessages.connecting hmessages.front
      s.attempts) (h.heard.of_onlyMessages hmessages) h.timer ?_ ?_ ?_
    · intro v hv hid
      rw [reported_stateOut] at hv
      have hset : state.mask .state = true := by
        by_contra hmask
        unfold reported at hv
        rw [if_neg hmask] at hv
        cases hv
      obtain rfl := hok hheard hset
      refine ⟨(hstored _).trans ?_, ?_⟩
      · rw [if_pos rfl, hv, Option.some_or]
      · show (s.server.doPlaybackStateSyncToRemote _).innerCallback _ ≠ none
        rw [hmessages.innerCallback]
        exact Option.isSome_iff_ne_none.mp hheard
    · intro hpending hid
      obtain ⟨hinner, hlast⟩ := h.settled (hmessages.front.symm.trans hpending) hid
      refine ⟨?_, fun hnone v hv => hlast v ?_⟩
      · show (s.server.doPlaybackStateSyncToRemote _).innerCallback _ ≠ none
        rw [hmessages.innerCallback]
        exact hinner
      · rw [reported_stateOut] at hnone
        exact (hunset hnone _).symm.trans hv
    · intro hwaits hkept hid
      obtain ⟨hinner, hpaused⟩ := h.since hwaits hkept hid
      refine ⟨?_, fun hlast => ⟨hpaused hlast, fun hnone => ?_⟩⟩
      · show (s.server.doPlaybackStateSyncToRemote _).innerCallback _ ≠ none
        rw [hmessages.innerCallback]
        exact hinner
      · rw [reported_stateOut] at hnone
        exact (hunset hnone _).trans (h.steady _ (hpaused hlast))
  · exact h.unheard _ (not_not.mp (mt Option.isSome_iff_ne_none.mpr hheard))

end PauseInv

end invariant

/-! ## The steps -/

section step

namespace PauseInv

variable {s : PauseState ω}

/-- A call that keeps the front keeps the invariant. -/
theorem of_sameFront (h : PauseInv s) {server : MigrateAVSessionServer}
    (hsame : SameFront s.server server) : PauseInv { s with server } := by
  refine h.congr (h.heard.of_sameFront hsame) (h.toFrontInv.of_sameFront hsame)
    hsame.innerCallback fun hnone => ?_
  rcases hsame.front with hfront | ⟨-, hfront⟩
  · rw [← hfront]
    exact hnone
  · rw [hfront] at hnone
    cases hnone

/-- Another session comes to the front, or none does. -/
theorem of_posted (h : PauseInv s) {server cleared : MigrateAVSessionServer} {t : FrontTask}
    {front : String} (hne : s.localFrontSessionId ≠ front) (hcleared : HeardInv cleared)
    (hposted : Posted cleared server t front) (hpending : PendingAs front [t]) :
    PauseInv { s with
      server
      localFrontSessionId := front
      frontSince := s.frontSince && s.localFrontSessionId == front } where
  toFrontInv := FrontInv.of_posted (s := s.toMigrateState) hposted hpending
  heard := hcleared.of_posted hposted
  timer := h.timer
  settled hnone := by
    have hnone' : server.pendingFront = [] := hnone
    rw [hposted.front] at hnone'
    cases hnone'
  steady := h.steady
  since _ hkept := by
    obtain ⟨-, hsame⟩ := Bool.and_eq_true_iff.mp hkept
    exact absurd (beq_iff_eq.mp hsame) hne

/-- A new front keeps the invariant. -/
theorem notifyLocalFrontSessionChangeForMigrate (h : PauseInv s) (update : String) :
    PauseInv { s with
      toMigrateState := s.toMigrateState.notifyLocalFrontSessionChangeForMigrate update
      frontSince := s.frontSince && s.localFrontSessionId == update } := by
  have hconnected := h.connected
  rcases notifyLocalFrontSessionChangeForMigrate_cases s.toMigrateState update with
    ⟨hfront, hsame⟩ | ⟨hfront, hupdate, harrive⟩ | ⟨-, hupdate, hne, hchange⟩ |
      ⟨hfront, hupdate, hleave⟩
  · rw [hsame, beq_iff_eq.mpr hfront, Bool.and_true]
    exact h
  · rw [harrive]
    exact h.of_posted (fun heq => hupdate (heq.symm.trans hfront)) h.heard
      (posted_localFrontSessionArrive hconnected hupdate) (Or.inr (Or.inl ⟨hupdate, rfl⟩))
  · rw [hchange]
    exact h.of_posted hne ((h.heard.plantNull _).clear _ (h.heard.found _))
      (posted_localFrontSessionChange _ hconnected hupdate) (Or.inr (Or.inl ⟨hupdate, rfl⟩))
  · rw [hleave, hupdate]
    exact h.of_posted hfront h.heard (posted_localFrontSessionLeave hconnected _)
      (Or.inr (Or.inr ⟨rfl, _, rfl⟩))

/-! ### The tasks -/

variable (minSize : List UInt8 → Option (List UInt8)) (focus : FocusSession ω)

/-- The session at the front has arrived, with a controller, and its state is looked at. -/
theorem arriveTask (h : PauseInv s) {created : Bool} {x : String} {tasks : List Task}
    (htasks : s.server.tasks = .front (.arrive x) :: tasks)
    (hcreated : (s.server.createController x created).controllerAt x ≠ none) :
    PauseInv ({ s with
      server := { s.server with tasks }.arriveTask minSize x created focus
      attempts := s.attemptsAfter created }.detect (s.playbackState x)) := by
  have hpending := h.pending
  rw [pendingFront_cons htasks] at hpending
  obtain ⟨rfl, hid, htail⟩ := hpending.of_arrive
  have hlast : ({ s.server with tasks } : MigrateAVSessionServer).lastSessionId =
      s.localFrontSessionId := h.last
  have hpopped : HeardInv { s.server with tasks } := h.heard.congr (fun _ => rfl) rfl
  have hbase := hpopped.createController hid created
  have hframe := (onlyControllers_createController { s.server with tasks } s.localFrontSessionId
    created).trans (onlyControllers_plantNull _ s.localFrontSessionId)
  have hmessages := onlyMessages_arriveTask hlast minSize created focus
  have hinner : ({ s.server with tasks }.arriveTask minSize s.localFrontSessionId created
      focus).innerCallback =
        (createController { s.server with tasks } s.localFrontSessionId created).innerCallback :=
    hmessages.innerCallback.trans (innerCallback_plantNull _ _)
  have hfound : (createController { s.server with tasks } s.localFrontSessionId
      created).controllerAt s.localFrontSessionId ≠ none := by
    rw [controllerAt_createController] at hcreated ⊢
    exact hcreated
  have hreached : ({ s.server with tasks }.arriveTask minSize s.localFrontSessionId created
      focus).innerCallback s.localFrontSessionId ≠ none := by
    rw [hinner]
    exact hbase.registered _ hfound
  refine detect ?_ ((hbase.plantNull _).of_onlyMessages hmessages) h.timer ?_ ?_ ?_
  · exact ⟨(hmessages.connecting.trans hframe.connecting).trans h.connected,
      (hmessages.lastSessionId.trans hframe.lastSessionId).trans h.last,
      Or.inl ((hmessages.front.trans hframe.front).trans htail)⟩
  · exact fun v hv _ => ⟨hv, hreached⟩
  · intro _ _
    refine ⟨hreached, fun hnone v hv => ?_⟩
    exact absurd (hnone.symm.trans hv) nofun
  · intro hwaits hkept _
    refine ⟨hreached, fun hpause => ?_⟩
    have hpaused := (h.since hwaits hkept hid).2 hpause
    exact ⟨hpaused, fun _ => h.steady _ hpaused⟩

/-- No session is at the front. -/
theorem leaveTask (h : PauseInv s) {x : String} {tasks : List Task}
    (htasks : s.server.tasks = .front (.leave x) :: tasks) :
    PauseInv { s with server := { s.server with tasks }.leaveTask x } := by
  have hpending := h.pending
  rw [pendingFront_cons htasks] at hpending
  obtain ⟨hid, htail⟩ := hpending.of_leave
  have hlast : ({ s.server with tasks } : MigrateAVSessionServer).lastSessionId = "" :=
    h.last.trans hid
  have hbase : HeardInv { s.server with tasks } := h.heard.congr (fun _ => rfl) rfl
  have hframe := (onlyControllers_plantNull { s.server with tasks } "").trans
    (onlyControllers_clear _ x none)
  have hmessages := onlyMessages_leaveTask hlast hbase.empty x
  have hcleared := ((hbase.plantNull "").clear none (Or.inl rfl)).of_onlyMessages hmessages
  exact {
    connected := (hmessages.connecting.trans hframe.connecting).trans h.connected
    last := (hmessages.lastSessionId.trans hframe.lastSessionId).trans h.last
    pending := Or.inl ((hmessages.front.trans hframe.front).trans htail)
    heard := hcleared
    timer := h.timer
    settled := fun _ hne => absurd hid hne
    steady := h.steady
    since := fun _ _ hne => absurd hid hne }

/-- What the next task asks for. -/
theorem taskState_eq {created : Bool} {x : String} {tasks : List Task}
    (htasks : s.server.tasks = .front (.arrive x) :: tasks)
    (hconnected : s.server.isSoftbusConnecting = true)
    (hcreated : (s.server.createController x created).controllerAt x ≠ none) :
    s.taskState created = some (s.playbackState x) := by
  unfold PauseState.taskState
  rw [htasks]
  exact if_pos ⟨hcreated, hconnected⟩

/-- An orderly front task keeps the invariant. -/
theorem runTask (h : PauseInv s) (created : Bool) (hok : PauseOk s (.runTask created focus)) :
    PauseInv ((PauseOp.runTask created focus).step minSize s) := by
  unfold PauseOk at hok
  unfold PauseOp.step MigrateOp.step MigrateAVSessionServer.runTask
  dsimp only at hok ⊢
  cases htasks : s.server.tasks with
  | nil =>
      unfold PauseState.taskState MigrateState.attemptsAfter
      rw [htasks]
      exact h
  | cons task tasks =>
      rw [htasks] at hok
      cases task with
      | send msg =>
          have hsame : SameFront s.server { s.server with tasks, sent := s.server.sent ++ [msg] } :=
            ⟨rfl, rfl, rfl, rfl, Or.inl (pendingFront_send htasks).symm⟩
          unfold PauseState.taskState MigrateState.attemptsAfter
          rw [htasks]
          exact h.of_sameFront hsame
      | front t =>
          cases t with
          | leave x =>
              unfold PauseState.taskState MigrateState.attemptsAfter
              rw [htasks]
              exact h.leaveTask htasks
          | arrive x =>
              rw [taskState_eq htasks h.connected hok]
              exact h.arriveTask minSize (s.taskFocus created focus) htasks hok

/-! ### One step -/

/-- The timer's end keeps the invariant. -/
theorem handleLongPauseTimer (h : PauseInv s) :
    PauseInv { s with
      longPause := s.longPause.handleLongPauseTimer s.server.isSoftbusConnecting } := by
  have htimer := h.timer.handleLongPauseTimer s.server.isSoftbusConnecting
  obtain ⟨hlast, hexpired⟩ :
      (s.longPause.handleLongPauseTimer s.server.isSoftbusConnecting).lastPlaybackState =
          s.longPause.lastPlaybackState ∧
        (s.longPause.handleLongPauseTimer s.server.isSoftbusConnecting).longPauseTimer = false := by
    rcases s.longPause.handleLongPauseTimer_cases s.server.isSoftbusConnecting with
      ⟨hnone, heq⟩ | ⟨-, -, heq⟩ | ⟨-, -, heq⟩
    · rw [heq]
      exact ⟨rfl, hnone⟩
    · rw [heq]
      exact ⟨rfl, rfl⟩
    · rw [heq]
      exact ⟨rfl, rfl⟩
  exact {
    toFrontInv := h.toFrontInv
    heard := h.heard
    timer := htimer
    settled := fun hpending hid => by
      obtain ⟨hinner, hstate⟩ := h.settled hpending hid
      exact ⟨hinner, fun v hv => hlast.trans (hstate v hv)⟩
    steady := h.steady
    since := fun hwaits => absurd (hexpired.symm.trans hwaits) Bool.noConfusion }

/-- A notice keeps the invariant. -/
theorem runNotifyTask (h : PauseInv s) :
    PauseInv { s with longPause := { s.longPause with notifyTask := none } } :=
  ⟨h.toFrontInv, h.heard, h.timer.congr rfl rfl h.timer.playing, h.settled, h.steady, h.since⟩

/-- A step that avoids what it has to keeps the invariant. -/
theorem step (h : PauseInv s) (op : PauseOp ω) (hok : PauseOk s op) :
    PauseInv (op.step minSize s) := by
  cases op with
  | notifyLocalFrontSessionChangeForMigrate update =>
      exact h.notifyLocalFrontSessionChangeForMigrate update
  | processMediaControlNeedState version needState =>
      exact h.of_sameFront (.processMediaControlNeedState h.connected version needState)
  | handleNeedStateTimer => exact h.of_sameFront (.handleNeedStateTimer s.server)
  | runTask created focus => exact h.runTask minSize focus created hok
  | setAVPlaybackState sessionId state => exact h.setAVPlaybackState sessionId state hok
  | handleLongPauseTimer => exact h.handleLongPauseTimer
  | runNotifyTask => exact h.runNotifyTask

end PauseInv

end step

/-! ## Whole runs -/

section runs

variable (minSize : List UInt8 → Option (List UInt8))

/-- A state does not make the server tell of a long pause. -/
theorem not_issued_detect (s : PauseState ω) (state : AVPlaybackState ω) :
    (s.detect state).longPause.issued ≠ s.longPause.issued ++ [true] := by
  intro h
  have hissued : (s.longPause.handleLongPauseDetection s.server.isSoftbusConnecting state).issued =
      s.longPause.issued ++ [true] := h
  rcases s.longPause.issued_handleLongPauseDetection s.server.isSoftbusConnecting state with
    hsame | hfalse
  · rw [hsame] at hissued
    exact absurd (List.self_eq_append_right.mp hissued) nofun
  · rw [hfalse] at hissued
    exact absurd (List.append_cancel_left hissued) nofun

/-- Only the timer makes it tell of one. -/
theorem not_issued {s : PauseState ω} {op : PauseOp ω} (hop : op ≠ .handleLongPauseTimer) :
    (op.step minSize s).longPause.issued ≠ s.longPause.issued ++ [true] := by
  have hsame : s.longPause.issued ≠ s.longPause.issued ++ [true] := fun h =>
    absurd (List.self_eq_append_right.mp h) nofun
  cases op with
  | handleLongPauseTimer => exact absurd rfl hop
  | runTask created focus =>
      show (PauseState.detectTask _ (s.taskState created)).longPause.issued ≠ _
      cases s.taskState created with
      | none => exact hsame
      | some state =>
          exact not_issued_detect { s with
            toMigrateState := (MigrateOp.runTask created (s.taskFocus created focus)).step minSize
              s.toMigrateState } state
  | setAVPlaybackState sessionId state =>
      show (s.setAVPlaybackState sessionId state).longPause.issued ≠ _
      unfold PauseState.setAVPlaybackState
      dsimp only
      split_ifs
      · exact hsame
      · exact not_issued_detect _ (PauseState.stateOut state)
      · exact hsame
  | _ => exact hsame

/-- The timer expires while the session at the front has been paused since it was started. -/
theorem PauseInv.justified {s : PauseState ω} (h : PauseInv s) (op : PauseOp ω)
    (hok : PauseOk s op) : Justified minSize s op := by
  intro hissued
  by_cases hop : op = .handleLongPauseTimer
  · subst hop
    have hissued' : (s.longPause.handleLongPauseTimer s.server.isSoftbusConnecting).issued =
        s.longPause.issued ++ [true] := hissued
    rcases s.longPause.handleLongPauseTimer_cases s.server.isSoftbusConnecting with
      ⟨-, heq⟩ | ⟨-, -, heq⟩ | ⟨hwaits, hflag, -⟩
    · rw [heq] at hissued'
      exact absurd (List.self_eq_append_right.mp hissued') nofun
    · rw [heq] at hissued'
      exact absurd (List.self_eq_append_right.mp hissued') nofun
    · obtain ⟨hpause, hkept, hid⟩ := hok hwaits hflag
      exact ⟨hid, (h.since hwaits hkept hid).2 hpause⟩
  · exact absurd hissued (not_issued minSize hop)

/-- **Long pauses.** In a run that avoids states of other sessions, arrivals without a controller,
and a timer that outlives the pause it was started for, the notifications alternate, a long pause
is told of a session that has been paused since the timer was started, and the last notification
ends it while the session plays. -/
theorem longPause_always (ops : List (PauseOp ω))
    (h : Meets (PauseOp.step minSize) PauseOk .init ops) :
    Always (PauseOp.step minSize) PauseAgrees .init ops ∧
      Meets (PauseOp.step minSize) (Justified minSize) .init ops := by
  have hstep : ∀ (s : PauseState ω) (op : PauseOp ω), PauseInv s → PauseOk s op →
      PauseInv (op.step minSize s) := fun _ op hs hok => hs.step minSize op hok
  refine ⟨(always_of_meets hstep .init h).mono fun _ => PauseInv.agrees, ?_⟩
  exact meets_of_meets hstep (fun _ op hs hok => hs.justified minSize op hok) .init h

/-- A state of a session, and nothing else. -/
def stateOf (v : ℤ) : AVPlaybackState Unit :=
  ⟨fun k => decide (k = .state), fun k => match k with
    | .state => v
    | k => PlaybackKey.initial k⟩

/-- A session is paused for long, and plays again. -/
def pauseAndPlay : List (PauseOp Unit) :=
  [.notifyLocalFrontSessionChangeForMigrate "a", .runTask true silentFocus,
    .setAVPlaybackState "a" (stateOf PLAYBACK_STATE_PAUSE), .handleLongPauseTimer,
    .setAVPlaybackState "a" (stateOf PLAYBACK_STATE_PLAY)]

/-- The remote is told of both. -/
theorem told_of_pause_and_play :
    (run (PauseOp.step fun _ => none) .init pauseAndPlay).longPause.issued = [true, false] ∧
      Always (PauseOp.step fun _ => none) PauseAgrees .init pauseAndPlay ∧
        Meets (PauseOp.step fun _ => none) (Justified fun _ => none) .init pauseAndPlay := by
  refine ⟨rfl, longPause_always _ _ ⟨trivial, ?_, fun _ _ => rfl, fun _ _ => ?_, fun _ _ => rfl,
    trivial⟩⟩
  · exact fun hnone => nomatch hnone
  · exact ⟨rfl, rfl, by decide⟩

/-- The timer outlives the pause: the session has stopped when the remote is told of a long
pause. -/
theorem long_pause_after_stop :
    ¬ (Always (PauseOp.step fun _ => none) PauseAgrees .init
        [.notifyLocalFrontSessionChangeForMigrate "a", .runTask true silentFocus,
          .setAVPlaybackState "a" (stateOf PLAYBACK_STATE_PAUSE),
          .setAVPlaybackState "a" (stateOf 6),
          .handleLongPauseTimer] ∧
      Meets (PauseOp.step fun _ => none) (Justified fun _ => none) .init
        [.notifyLocalFrontSessionChangeForMigrate "a", .runTask true silentFocus,
          .setAVPlaybackState "a" (stateOf PLAYBACK_STATE_PAUSE),
          .setAVPlaybackState "a" (stateOf 6),
          .handleLongPauseTimer]) := by
  rintro ⟨-, -, -, -, -, htimer, -⟩
  obtain ⟨-, hpaused⟩ := htimer rfl
  cases hpaused

end runs

end AvSession.Migrate
