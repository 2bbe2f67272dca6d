import Mathlib.Data.List.Chain
import AvSession.Meta.Delivery
import AvSession.Migrate.Server

/-!
# Long pauses

The server watches the playback states that reach it. A pause starts a timer, playing removes it.
When the timer expires the remote is told of a long pause, and when the session plays after that,
of the end of it.

* `LongPause`, `handleLongPauseDetection`, `handleLongPauseTimer` — the members of the server that
  this needs, and the two functions that write them.
* `PauseState`, `PauseOp.step` — the service, the server, and the playback state of each session.
* `PauseAgrees`, `Justified`, `PauseOk` — what is promised of the states and of the steps, and what
  a step has to avoid.
* `TimerInv` — the notifications, the flag and the timer together.
-/

namespace AvSession.Migrate

open AvSession.Lib AvSession.Meta MigrateAVSessionServer

variable {ω : Type}

/-! ## Data -/

section data

/-! Source: avplayback_state.h -/

def PLAYBACK_STATE_PLAY : ℤ := 2

def PLAYBACK_STATE_PAUSE : ℤ := 3

/-- The members of the server about long pauses: whether the task `LongPauseTimer` is there, the
task on `SYNC_LONG_PAUSE_NOTIFY`, and everything that was issued.
Source: migrate_avsession_server.h, `MigrateAVSessionServer` -/
structure LongPause where
  lastPlaybackState : ℤ
  hasLongPauseNotified : Bool
  longPauseTimer : Bool
  notifyTask : Option Bool
  issued : List Bool

/-- Before any state. -/
def LongPause.init : LongPause := ⟨-1, false, false, none, []⟩

namespace LongPause

variable (p : LongPause) (connecting : Bool)

/-- A task that waits under the same name is replaced.
Source: migrate_avsession_server_for_next.cpp,
`MigrateAVSessionServer::SendLongPauseNotifyToNext` -/
def sendLongPauseNotifyToNext (isLongPause : Bool) : LongPause :=
  { p with
    notifyTask := if connecting then some isLongPause else p.notifyTask
    issued := p.issued ++ [isLongPause] }

/-- Source: migrate_avsession_server_for_next.cpp,
`MigrateAVSessionServer::HandleLongPauseDetection` -/
def handleLongPauseDetection (state : AVPlaybackState ω) : LongPause :=
  if !state.mask .state then p
  else if state.val .state = p.lastPlaybackState then p
  else
    let p := { p with lastPlaybackState := state.val .state }
    if state.val .state = PLAYBACK_STATE_PAUSE then { p with longPauseTimer := true }
    else if state.val .state = PLAYBACK_STATE_PLAY then
      let p := { p with longPauseTimer := false }
      if p.hasLongPauseNotified then
        { p.sendLongPauseNotifyToNext connecting false with hasLongPauseNotified := false }
      else p
    else p

/-- The timer expires, if it was started.
Source: migrate_avsession_server_for_next.cpp, `MigrateAVSessionServer::HandleLongPauseTimer` -/
def handleLongPauseTimer : LongPause :=
  if !p.longPauseTimer then p
  else
    let p := { p with longPauseTimer := false }
    if !p.hasLongPauseNotified then
      { p with hasLongPauseNotified := true }.sendLongPauseNotifyToNext connecting true
    else p

/-- Whether the timer is started by a state. -/
def starts (state : AVPlaybackState ω) : Bool :=
  state.mask .state && state.val .state != p.lastPlaybackState &&
    state.val .state == PLAYBACK_STATE_PAUSE

end LongPause

/-- The playback state that was set last, if any was. -/
def reported (state : AVPlaybackState ω) : Option ℤ :=
  if state.mask .state then some (state.val .state) else none

/-- The service and the server, with the playback state of each session. The last two members are a
record of what happened, which nothing reads. -/
structure PauseState (ω : Type) extends MigrateState where
  playbackState : String → AVPlaybackState ω
  longPause : LongPause
  /-- The sessions that have been paused ever since the timer was last started. -/
  pausedSince : String → Bool
  /-- The same session has been at the front since then. -/
  frontSince : Bool

/-- No session has set anything. -/
def PauseState.init : PauseState ω where
  toMigrateState := .init
  playbackState := fun _ => .init
  longPause := .init
  pausedSince := fun _ => false
  frontSince := false

end data

/-! ## Steps -/

section steps

namespace PauseState

variable (s : PauseState ω)

/-- The record, after the timer was started or not. -/
def watch (started : Bool) : PauseState ω :=
  { s with
    pausedSince := fun x => (started || s.pausedSince x) &&
      reported (s.playbackState x) == some PLAYBACK_STATE_PAUSE
    frontSince := started || s.frontSince }

/-- A state comes to `DoPlaybackStateSyncToRemote`. -/
def detect (state : AVPlaybackState ω) : PauseState ω :=
  { s with
    longPause :=
      s.longPause.handleLongPauseDetection s.server.isSoftbusConnecting state }.watch
        (s.longPause.starts state)

/-- The filter of the server's controller lets everything through. -/
def stateOut (state : AVPlaybackState ω) : AVPlaybackState ω :=
  (state.copyToByMask (fun _ => true) .init).1

/-- The session stores the state, and it reaches the server if that has a callback there.
Source: avsession_item.cpp, `AVSessionItem::SetAVPlaybackState` -/
def setAVPlaybackState (sessionId : String) (state : AVPlaybackState ω) : PauseState ω :=
  let copied := (s.playbackState sessionId).copyFrom state
  if copied.2 = false then s
  else
    let s := { s with playbackState := Function.update s.playbackState sessionId copied.1 }
    if (s.server.innerCallback sessionId).isSome then
      { s with server := s.server.doPlaybackStateSyncToRemote (stateOut state) }.detect
        (stateOut state)
    else s.watch false

/-- The state that the next task asks the controller of an arriving session for. -/
def taskState (created : Bool) : Option (AVPlaybackState ω) :=
  match s.server.tasks with
  | .front (.arrive sessionId) :: _ =>
      if (s.server.createController sessionId created).controllerAt sessionId ≠ none ∧
          s.server.isSoftbusConnecting = true then some (s.playbackState sessionId)
      else none
  | _ => none

/-- What the controller gives in the next task: its playback state is that of the session. -/
def taskFocus (created : Bool) (focus : FocusSession ω) : FocusSession ω :=
  { focus with playbackState := s.taskState created }

/-- The state, if the task came to ask for it. -/
def detectTask : Option (AVPlaybackState ω) → PauseState ω
  | some state => s.detect state
  | none => s

end PauseState

/-- What can happen. -/
inductive PauseOp (ω : Type)
  | notifyLocalFrontSessionChangeForMigrate (localFrontSessionIdUpdate : String)
  | processMediaControlNeedState (version : Option ℤ) (needState : Option Bool)
  | handleNeedStateTimer
  | runTask (created : Bool) (focus : FocusSession ω)
  | setAVPlaybackState (sessionId : String) (state : AVPlaybackState ω)
  | handleLongPauseTimer
  | runNotifyTask

variable (minSize : List UInt8 → Option (List UInt8))

/-- One step. -/
def PauseOp.step (s : PauseState ω) : PauseOp ω → PauseState ω
  | notifyLocalFrontSessionChangeForMigrate localFrontSessionIdUpdate =>
      { s with
        toMigrateState :=
          s.toMigrateState.notifyLocalFrontSessionChangeForMigrate localFrontSessionIdUpdate
        frontSince := s.frontSince && s.localFrontSessionId == localFrontSessionIdUpdate }
  | processMediaControlNeedState version needState =>
      { s with server := s.server.processMediaControlNeedState version needState }
  | handleNeedStateTimer => { s with server := s.server.handleNeedStateTimer }
  | runTask created focus =>
      { s with
        toMigrateState := (MigrateOp.runTask created (s.taskFocus created focus)).step minSize
          s.toMigrateState }.detectTask (s.taskState created)
  | setAVPlaybackState sessionId state => s.setAVPlaybackState sessionId state
  | handleLongPauseTimer =>
      { s with longPause := s.longPause.handleLongPauseTimer s.server.isSoftbusConnecting }
  | runNotifyTask => { s with longPause := { s.longPause with notifyTask := none } }

/-! ### What is promised -/

/-- The notifications alternate, the first one tells of a pause, and the last one does not while the
session at the front plays. -/
structure PauseAgrees (s : PauseState ω) : Prop where
  alternate : List.IsChain (· ≠ ·) (false :: s.longPause.issued)
  resumed : s.server.tasks = [] → s.longPause.notifyTask = none → s.localFrontSessionId ≠ "" →
    reported (s.playbackState s.localFrontSessionId) = some PLAYBACK_STATE_PLAY →
      s.longPause.issued.getLast? ≠ some true

/-- A long pause is only told of when the session at the front has been paused all along since the
timer was started. -/
def Justified (s : PauseState ω) (op : PauseOp ω) : Prop :=
  (op.step minSize s).longPause.issued = s.longPause.issued ++ [true] →
    s.localFrontSessionId ≠ "" ∧ s.pausedSince s.localFrontSessionId = true

/-- What a step has to avoid: a state that reaches the server from another session than the one at
the front, an arriving session without a controller, and a timer that expires after another state
than a pause came, or another session came to the front. -/
def PauseOk (s : PauseState ω) : PauseOp ω → Prop
  | .setAVPlaybackState sessionId state =>
      (s.server.innerCallback sessionId).isSome = true → state.mask .state = true →
        sessionId = s.localFrontSessionId
  | .runTask created _ =>
      match s.server.tasks with
      | .front (.arrive sessionId) :: _ =>
          (s.server.createController sessionId created).controllerAt sessionId ≠ none
      | _ => True
  | .handleLongPauseTimer =>
      s.longPause.longPauseTimer = true → s.longPause.hasLongPauseNotified = false →
        s.longPause.lastPlaybackState = PLAYBACK_STATE_PAUSE ∧ s.frontSince = true ∧
          s.localFrontSessionId ≠ ""
  | _ => True

end steps

/-! ## The notifications -/

section notifications

namespace LongPause

variable {p p' : LongPause}

/-- The notifications alternate, and the flag is the last one; a timer that waits, or a long pause
that is going on, is not of a session that plays. -/
structure TimerInv (p : LongPause) : Prop where
  chain : List.IsChain (· ≠ ·) (false :: p.issued)
  last : (false :: p.issued).getLast? = some p.hasLongPauseNotified
  playing : p.lastPlaybackState = PLAYBACK_STATE_PLAY →
    p.longPauseTimer = false ∧ p.hasLongPauseNotified = false

namespace TimerInv

/-- At the start no timer runs. -/
theorem init : TimerInv .init := ⟨List.isChain_singleton _, rfl, fun _ => ⟨rfl, rfl⟩⟩

/-- Nothing is issued. -/
theorem congr (h : TimerInv p) (hissued : p'.issued = p.issued)
    (hflag : p'.hasLongPauseNotified = p.hasLongPauseNotified)
    (hplaying : p'.lastPlaybackState = PLAYBACK_STATE_PLAY →
      p'.longPauseTimer = false ∧ p'.hasLongPauseNotified = false) : TimerInv p' where
  chain := hissued ▸ h.chain
  last := by rw [hissued, hflag, h.last]
  playing := hplaying

/-- What is issued is not what was issued last. -/
theorem issue (h : TimerInv p) {isLongPause : Bool}
    (hissued : p'.issued = p.issued ++ [isLongPause])
    (hflag : p'.hasLongPauseNotified = isLongPause) (hne : p.hasLongPauseNotified ≠ isLongPause)
    (hplaying : p'.lastPlaybackState = PLAYBACK_STATE_PLAY →
      p'.longPauseTimer = false ∧ p'.hasLongPauseNotified = false) : TimerInv p' where
  chain := by
    rw [hissued, ← List.cons_append, List.isChain_append]
    refine ⟨h.chain, List.isChain_singleton _, fun x hx y hy => ?_⟩
    rw [h.last, Option.mem_some_iff] at hx
    rw [List.head?_cons, Option.mem_some_iff] at hy
    rw [← hx, ← hy]
    exact hne
  last := by rw [hissued, hflag, ← List.cons_append, List.getLast?_concat]
  playing := hplaying

/-- The last notification, if there is one. -/
theorem getLast_ne (h : TimerInv p) (hflag : p.hasLongPauseNotified = false) :
    p.issued.getLast? ≠ some true := by
  have hlast := h.last
  rw [hflag] at hlast
  cases hissued : p.issued with
  | nil => exact fun hnone => nomatch hnone
  | cons b l =>
      rw [hissued, List.getLast?_cons_cons] at hlast
      rw [hlast]
      exact fun htrue => nomatch htrue

end TimerInv

variable (p) (connecting : Bool) (state : AVPlaybackState ω)

/-- What a state does. -/
theorem handleLongPauseDetection_cases :
    ((∀ v, reported state = some v → p.lastPlaybackState = v) ∧ p.starts state = false ∧
        p.handleLongPauseDetection connecting state = p) ∨
      ∃ v, reported state = some v ∧
        ((v = PLAYBACK_STATE_PAUSE ∧ p.starts state = true ∧
            p.handleLongPauseDetection connecting state =
              { p with lastPlaybackState := v, longPauseTimer := true }) ∨
          (v = PLAYBACK_STATE_PLAY ∧ p.starts state = false ∧
            p.handleLongPauseDetection connecting state =
              if p.hasLongPauseNotified then
                { { p with
                    lastPlaybackState := v
                    longPauseTimer := false }.sendLongPauseNotifyToNext connecting false with
                  hasLongPauseNotified := false }
              else { p with lastPlaybackState := v, longPauseTimer := false }) ∨
          (v ≠ PLAYBACK_STATE_PAUSE ∧ v ≠ PLAYBACK_STATE_PLAY ∧ p.starts state = false ∧
            p.handleLongPauseDetection connecting state = { p with lastPlaybackState := v })) := by
  unfold handleLongPauseDetection starts reported
  cases state.mask .state with
  | false => exact Or.inl ⟨fun v hv => (nomatch hv), rfl, rfl⟩
  | true =>
      by_cases hlast : state.val .state = p.lastPlaybackState
      · refine Or.inl ⟨fun v hv => hlast.symm.trans (Option.some.inj hv), ?_, ?_⟩
        · simp [hlast]
        · simp [hlast]
      · refine Or.inr ⟨_, rfl, ?_⟩
        have hset : ¬ (!true) = true := Bool.false_ne_true
        by_cases hpause : state.val .state = PLAYBACK_STATE_PAUSE
        · refine Or.inl ⟨hpause, ?_, ?_⟩
          · simp [hpause ▸ hlast, hpause]
          · rw [if_neg hset, if_neg hlast, if_pos hpause]
        · have hstarts : (state.val .state == PLAYBACK_STATE_PAUSE) = false :=
            beq_eq_false_iff_ne.mpr hpause
          by_cases hplay : state.val .state = PLAYBACK_STATE_PLAY
          · refine Or.inr (Or.inl ⟨hplay, ?_, ?_⟩)
            · rw [hstarts, Bool.and_false]
            · rw [if_neg hset, if_neg hlast, if_neg hpause, if_pos hplay]
          · refine Or.inr (Or.inr ⟨hpause, hplay, ?_, ?_⟩)
            · rw [hstarts, Bool.and_false]
            · rw [if_neg hset, if_neg hlast, if_neg hpause, if_neg hplay]

/-- A state ends a long pause, or tells nothing. -/
theorem issued_handleLongPauseDetection :
    (p.handleLongPauseDetection connecting state).issued = p.issued ∨
      (p.handleLongPauseDetection connecting state).issued = p.issued ++ [false] := by
  rcases p.handleLongPauseDetection_cases connecting state with
    ⟨-, -, heq⟩ | ⟨v, -, ⟨-, -, heq⟩ | ⟨-, -, heq⟩ | ⟨-, -, -, heq⟩⟩
  · rw [heq]
    exact Or.inl rfl
  · rw [heq]
    exact Or.inl rfl
  · rw [heq]
    split_ifs
    · exact Or.inr rfl
    · exact Or.inl rfl
  · rw [heq]
    exact Or.inl rfl

variable {p} in
/-- A detection keeps the timer. -/
theorem TimerInv.handleLongPauseDetection (h : TimerInv p) :
    TimerInv (p.handleLongPauseDetection connecting state) := by
  rcases p.handleLongPauseDetection_cases connecting state with
    ⟨-, -, hsame⟩ | ⟨v, -, ⟨hpause, -, hset⟩ | ⟨-, -, hset⟩ | ⟨-, hplay, -, hset⟩⟩
  · rw [hsame]
    exact h
  · rw [hset]
    refine h.congr rfl rfl fun hplay => ?_
    exact absurd (hpause.symm.trans hplay) (by decide)
  · rw [hset]
    cases hflag : p.hasLongPauseNotified with
    | false => exact h.congr rfl hflag.symm fun _ => ⟨rfl, rfl⟩
    | true => exact h.issue rfl rfl (by rw [hflag]; exact Bool.noConfusion) fun _ => ⟨rfl, rfl⟩
  · rw [hset]
    exact h.congr rfl rfl fun hplay' => absurd hplay' hplay

/-- What the timer does. -/
theorem handleLongPauseTimer_cases :
    (p.longPauseTimer = false ∧ p.handleLongPauseTimer connecting = p) ∨
      (p.longPauseTimer = true ∧ p.hasLongPauseNotified = true ∧
        p.handleLongPauseTimer connecting = { p with longPauseTimer := false }) ∨
      (p.longPauseTimer = true ∧ p.hasLongPauseNotified = false ∧
        p.handleLongPauseTimer connecting =
          { p with
            longPauseTimer := false
            hasLongPauseNotified := true }.sendLongPauseNotifyToNext connecting true) := by
  unfold handleLongPauseTimer
  cases htimer : p.longPauseTimer with
  | false => exact Or.inl ⟨rfl, rfl⟩
  | true =>
      refine Or.inr ?_
      cases hflag : p.hasLongPauseNotified with
      | true => exact Or.inl ⟨rfl, rfl, rfl⟩
      | false => exact Or.inr ⟨rfl, rfl, rfl⟩

variable {p} in
/-- The timer's end keeps the timer. -/
theorem TimerInv.handleLongPauseTimer (h : TimerInv p) :
    TimerInv (p.handleLongPauseTimer connecting) := by
  rcases p.handleLongPauseTimer_cases connecting with
    ⟨-, hsame⟩ | ⟨-, -, hexpired⟩ | ⟨htimer, hflag, hsent⟩
  · rw [hsame]
    exact h
  · rw [hexpired]
    exact h.congr rfl rfl fun hplay => ⟨rfl, (h.playing hplay).2⟩
  · rw [hsent]
    refine h.issue rfl rfl (by rw [hflag]; exact Bool.noConfusion) fun hplay => ?_
    exact absurd (htimer.symm.trans (h.playing hplay).1) Bool.noConfusion

end LongPause

end notifications

end AvSession.Migrate
