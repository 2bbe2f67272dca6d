import AvSession.Lib.Run
import AvSession.Migrate.Controllers

/-!
# The observer of the front session

The server registers a callback with the controller of the session at the front. It creates the
controller in a task, unregisters at once when another session comes to the front, and in a task
when none does.

* `ObserverAgrees` — when nothing is pending, the session at the front is the one observed.
* `ObserverOk` — what the steps have to avoid: the task of a session that leaves unregisters nobody,
  the next arrival drops it, and a null pointer in the map stays.
* `ObserverInv`, `observer_always` — the invariant, and that the observer agrees all along a run.
-/

namespace AvSession.Migrate

open AvSession.Lib AvSession.Meta MigrateAVSessionServer

variable {ω : Type}

/-! ## The observer -/

section observer

namespace MigrateAVSessionServer

/-- The map has a controller for the session, with the callback of the server. -/
def Observes (s : MigrateAVSessionServer) (sessionId : String) : Prop :=
  ∃ c, s.controllerAt sessionId = some c ∧ s.innerCallback c ≠ none

/-- A session is observed exactly when it has a controller. -/
theorem ControllersInv.observes_iff {s : MigrateAVSessionServer} {x : String}
    (h : ControllersInv s) : s.Observes x ↔ s.controllerAt x ≠ none := by
  constructor
  · rintro ⟨c, hc, -⟩
    rw [hc]
    exact Option.some_ne_none c
  · intro hx
    obtain ⟨c, hc⟩ := Option.ne_none_iff_exists'.mp hx
    obtain rfl := h.self x c hc
    exact ⟨c, hc, (h.registered c).mpr hx⟩

end MigrateAVSessionServer

end observer

/-! ## The invariant -/

section invariant

/-- The observer is the one of the front session, when no task is pending. -/
structure ObserverAgrees (s : MigrateState) : Prop where
  front : s.server.tasks = [] → s.localFrontSessionId ≠ "" →
    s.attempts s.localFrontSessionId = some true →
      s.server.Observes s.localFrontSessionId ∧
        ∀ x, x ≠ s.localFrontSessionId →
          s.server.controllerAt x = none ∧ s.server.innerCallback x = none
  none : s.server.tasks = [] → s.localFrontSessionId = "" → ∀ c, s.server.innerCallback c = none

/-- What a step has to avoid: an arrival that drops the pending task of another session that left
with a controller, the task of a session that left with a callback, and the creation of a controller
over a null pointer. -/
def ObserverOk (s : MigrateState) : MigrateOp ω → Prop
  | .notifyLocalFrontSessionChangeForMigrate update =>
      ∀ x, .leave x ∈ s.server.pendingFront → update ≠ "" → x ≠ update →
        s.server.controllerAt x = none
  | .runTask created _ =>
      match s.server.tasks with
      | .front (.arrive x) :: _ =>
          created = true → s.server.playerIdToControllerCallbackMap x = none →
            s.server.playerIdToControllerMap x ≠ some none
      | .front (.leave x) :: _ => s.server.innerCallback x = none
      | _ => True
  | _ => True

/-- What the steps keep. -/
structure ObserverInv (s : MigrateState) : Prop extends FrontInv s where
  controllers : s.server.ControllersInv
  entry : ∀ x, s.server.controllerAt x ≠ none →
    x ≠ "" ∧ (x = s.localFrontSessionId ∨ .leave x ∈ s.server.pendingFront)
  settled : s.server.pendingFront = [] → s.localFrontSessionId ≠ "" →
    s.attempts s.localFrontSessionId = some true →
      s.server.controllerAt s.localFrontSessionId ≠ none

/-- The invariant gives the agreement. -/
theorem ObserverInv.agrees {s : MigrateState} (h : ObserverInv s) : ObserverAgrees s where
  front htasks hfront hattempt := by
    have hpending := pendingFront_of_tasks htasks
    refine ⟨h.controllers.observes_iff.mpr (h.settled hpending hfront hattempt), fun x hx => ?_⟩
    have hnone : s.server.controllerAt x = none := by
      by_contra hat
      have hentry := h.entry x hat
      rw [hpending] at hentry
      exact hentry.2.elim hx fun hmem => by cases hmem
    exact ⟨hnone, not_not.mp (mt (h.controllers.registered x).mp (not_not.mpr hnone))⟩
  none htasks hfront c := by
    by_contra hc
    have hentry := h.entry c ((h.controllers.registered c).mp hc)
    rw [pendingFront_of_tasks htasks, hfront] at hentry
    exact hentry.2.elim hentry.1 fun hmem => by cases hmem

variable {s : MigrateState} {server' : MigrateAVSessionServer}

/-- Nothing happens to what the invariant is about. -/
theorem ObserverInv.congr (h : ObserverInv s)
    (hmap : ∀ x, server'.controllerAt x = s.server.controllerAt x)
    (hcallback :
      server'.playerIdToControllerCallbackMap = s.server.playerIdToControllerCallbackMap)
    (hinner : server'.innerCallback = s.server.innerCallback)
    (hlast : server'.lastSessionId = s.server.lastSessionId)
    (hconnected : server'.isSoftbusConnecting = s.server.isSoftbusConnecting)
    (hfront : server'.pendingFront = s.server.pendingFront) :
    ObserverInv { s with server := server' } where
  toFrontInv := h.toFrontInv.congr hlast hconnected hfront s.attempts
  controllers := h.controllers.congr hmap hcallback hinner
  entry x hx := by
    show x ≠ "" ∧ (_ ∨ .leave x ∈ server'.pendingFront)
    rw [hfront]
    exact h.entry x (hmap x ▸ hx)
  settled hpending hid hattempt := by
    show server'.controllerAt _ ≠ none
    rw [hmap]
    exact h.settled (hfront.symm.trans hpending) hid hattempt

/-- A step that only makes messages. -/
theorem ObserverInv.of_onlyMessages (h : ObserverInv s) (hsame : OnlyMessages s.server server') :
    ObserverInv { s with server := server' } :=
  h.congr (fun x => controllerAt_congr _ x hsame.controllerMap) hsame.callbackMap
    hsame.innerCallback hsame.lastSessionId hsame.connecting hsame.front

/-- A front task is posted, and nothing else happens to the controllers. -/
theorem ObserverInv.of_posted {t : FrontTask} {front : String} (h : s.server.ControllersInv)
    (hposted : Posted s.server server' t front) (hpending : PendingAs front [t])
    (hentry : ∀ x, s.server.controllerAt x ≠ none → x ≠ "" ∧ (x = front ∨ t = .leave x)) :
    ObserverInv { s with server := server', localFrontSessionId := front } where
  toFrontInv := .of_posted hposted hpending
  controllers := h.congr (fun x => controllerAt_congr _ x hposted.controllerMap)
    hposted.callbackMap hposted.innerCallback
  entry x hx := by
    have hmap := controllerAt_congr s.server x hposted.controllerMap
    show x ≠ "" ∧ (x = front ∨ .leave x ∈ server'.pendingFront)
    rw [hposted.front, List.mem_singleton]
    obtain ⟨hid, hx⟩ := hentry x (hmap ▸ hx)
    exact ⟨hid, hx.imp_right Eq.symm⟩
  settled hnone := by
    have hnone' : server'.pendingFront = [] := hnone
    rw [hposted.front] at hnone'
    cases hnone'

end invariant

/-! ## The steps -/

section steps

variable {s : MigrateState}

namespace ObserverInv

/-- The session at the front is unregistered and forgotten, so nobody is observed. -/
theorem localFrontSessionChange (h : ObserverInv s) {update : String}
    (hfront : s.localFrontSessionId ≠ "") (hupdate : update ≠ "") :
    ObserverInv { s with
      server := s.server.localFrontSessionChange update, localFrontSessionId := update } := by
  obtain ⟨cleared, -, hinv, hmap, hposted⟩ :=
    s.server.localFrontSessionChange_cleared h.connected hupdate
  refine of_posted (s := { s with server := cleared }) (hinv h.controllers) hposted
    (Or.inr (Or.inl ⟨hupdate, rfl⟩)) fun x hx => ?_
  have hx' : cleared.controllerAt x ≠ none := hx
  rw [hmap, h.last] at hx'
  split_ifs at hx' with hne
  · exact absurd rfl hx'
  · exact absurd (h.entry x hx').2 (not_or.mpr ⟨hne, h.pending.not_leave_of_front hfront x⟩)

/-- A new front keeps the invariant. -/
theorem notifyLocalFrontSessionChangeForMigrate (h : ObserverInv s) (update : String)
    (hok : ∀ x, .leave x ∈ s.server.pendingFront → update ≠ "" → x ≠ update →
      s.server.controllerAt x = none) :
    ObserverInv (s.notifyLocalFrontSessionChangeForMigrate update) := by
  rcases notifyLocalFrontSessionChangeForMigrate_cases s update with
    ⟨-, hsame⟩ | ⟨hfront, hupdate, harrive⟩ | ⟨hfront, hupdate, -, hchange⟩ | ⟨hfront, -, hleave⟩
  · rw [hsame]
    exact h
  · rw [harrive]
    refine of_posted h.controllers (posted_localFrontSessionArrive h.connected hupdate)
      (Or.inr (Or.inl ⟨hupdate, rfl⟩)) fun x hx => ?_
    obtain ⟨hid, hx'⟩ := h.entry x hx
    refine ⟨hid, Or.inl ?_⟩
    by_contra hne
    exact hx (hok x (hx'.resolve_left fun hx'' => hid (hx''.trans hfront)) hupdate hne)
  · rw [hchange]
    exact h.localFrontSessionChange hfront hupdate
  · rw [hleave]
    refine of_posted h.controllers (posted_localFrontSessionLeave h.connected _)
      (Or.inr (Or.inr ⟨rfl, _, rfl⟩)) fun x hx => ?_
    obtain ⟨hid, hx'⟩ := h.entry x hx
    have hx'' := hx'.resolve_right (h.pending.not_leave_of_front hfront x)
    exact ⟨hid, Or.inr (by rw [hx''])⟩

/-! ### The needs of the remote -/

/-- The remote's need keeps the invariant. -/
theorem setNeed (h : ObserverInv s) (need timer : Bool) :
    ObserverInv { s with
      server := { s.server with isNeedByRemote := need, needStateTimer := timer } } :=
  h.congr (fun _ => rfl) rfl rfl rfl rfl rfl

/-- The arrival of the front session is posted once more, if there is one. -/
theorem localFrontSessionArrive_last (h : ObserverInv s) :
    ObserverInv { s with
      server := s.server.localFrontSessionArrive s.server.lastSessionId } := by
  rw [h.last]
  by_cases hfront : s.localFrontSessionId = ""
  · unfold MigrateAVSessionServer.localFrontSessionArrive
    rw [if_pos hfront]
    exact h
  · refine of_posted h.controllers (posted_localFrontSessionArrive h.connected hfront)
      (Or.inr (Or.inl ⟨hfront, rfl⟩)) fun x hx => ?_
    obtain ⟨hid, hx'⟩ := h.entry x hx
    exact ⟨hid, Or.inl (hx'.resolve_right (h.pending.not_leave_of_front hfront x))⟩

/-- A timer request keeps the invariant. -/
theorem processMediaControlTimerRequest (h : ObserverInv s) (version : ℤ) :
    ObserverInv { s with server := s.server.processMediaControlTimerRequest version } := by
  rcases s.server.processMediaControlTimerRequest_cases version with heq | ⟨-, heq⟩ | heq
  · rw [heq]
    exact h
  · rw [heq]
    exact h.setNeed s.server.isNeedByRemote true
  · rw [heq]
    have hpost := (h.setNeed true s.server.needStateTimer).of_onlyMessages
      (onlyMessages_postPending _)
    exact hpost.localFrontSessionArrive_last.setNeed _ true

/-- A message of need keeps the invariant. -/
theorem processMediaControlNeedState (h : ObserverInv s) (version : Option ℤ)
    (needState : Option Bool) :
    ObserverInv { s with
      server := s.server.processMediaControlNeedState version needState } := by
  unfold MigrateAVSessionServer.processMediaControlNeedState
  cases version with
  | some version => exact h.processMediaControlTimerRequest version
  | none =>
      match needState with
      | none => exact h
      | some false => exact h.setNeed false s.server.needStateTimer
      | some true =>
          dsimp only
          split_ifs
          · exact h
          · exact (h.setNeed true s.server.needStateTimer).localFrontSessionArrive_last

/-- The timer of the need keeps the invariant. -/
theorem handleNeedStateTimer (h : ObserverInv s) :
    ObserverInv { s with server := s.server.handleNeedStateTimer } := by
  unfold MigrateAVSessionServer.handleNeedStateTimer
  split_ifs
  · exact h.setNeed false false
  · exact h

/-! ### The tasks -/

variable {tasks : List Task} {x : String}

variable (minSize : List UInt8 → Option (List UInt8)) (focus : FocusSession ω)

/-- A controller is looked for, and told the messages if there is one. -/
theorem arriveTask (h : ObserverInv s) {created : Bool}
    (htasks : s.server.tasks = .front (.arrive x) :: tasks)
    (hnull : created = true → s.server.playerIdToControllerCallbackMap x = none →
      s.server.playerIdToControllerMap x ≠ some none) :
    ObserverInv { s with
      server := { s.server with tasks }.arriveTask minSize x created focus
      attempts := s.attemptsAfter created } := by
  have hpending := h.pending
  rw [pendingFront_cons htasks] at hpending
  obtain ⟨hx, hid, htail⟩ := hpending.of_arrive
  have hpopped : ControllersInv { s.server with tasks } :=
    h.controllers.congr (fun _ => rfl) rfl rfl
  obtain ⟨hcreate, hat⟩ := hpopped.createController hnull
  have hframe := (onlyControllers_createController { s.server with tasks } x created).trans
    (onlyControllers_plantNull _ x)
  have hinv : ObserverInv { s with
      server := ({ s.server with tasks }.createController x created).plantNull x
      attempts := s.attemptsAfter created } := by
    have hplant := fun y =>
      controllerAt_plantNull ({ s.server with tasks }.createController x created) y x
    refine ⟨⟨hframe.connecting.trans h.connected, hframe.lastSessionId.trans h.last,
      Or.inl (hframe.front.trans htail)⟩, hcreate.plantNull x, fun y hy => ?_,
      fun _ _ hattempt => ?_⟩
    · have hy' : (({ s.server with tasks } : MigrateAVSessionServer).createController x
        created).controllerAt y ≠ none := hplant y ▸ hy
      rw [hat] at hy'
      split_ifs at hy' with hyx
      · exact ⟨hyx.1 ▸ hid, Or.inl (hyx.1.trans hx)⟩
      · obtain ⟨hid', hentry⟩ := h.entry y hy'
        exact ⟨hid', Or.inl (hentry.resolve_right (h.pending.not_leave_of_front (hx ▸ hid) y))⟩
    · rw [attemptsAfter_arrive htasks, ← hx] at hattempt
      rw [← hx, hplant, hat]
      split_ifs at hattempt with hheld
      · have hself := h.controllers.controllerAt_of_held (Option.isSome_iff_ne_none.mp hheld)
        split_ifs
        · exact Option.some_ne_none x
        · exact hself.trans_ne (Option.some_ne_none x)
      · have hcreated : Function.update s.attempts x (some created) x = some true := hattempt
        rw [Function.update_self] at hcreated
        rw [if_pos ⟨rfl, Option.some.inj hcreated⟩]
        exact Option.some_ne_none x
  unfold MigrateAVSessionServer.arriveTask
  dsimp only
  generalize ({ s.server with tasks }.createController x created).plantNull x = base at *
  cases base.controllerAt x with
  | none => exact hinv
  | some c =>
      have hlast' : x = base.lastSessionId := hx.trans hinv.last.symm
      have hset : ObserverInv { s with
          server := { base with lastSessionId := x }, attempts := s.attemptsAfter created } :=
        hinv.congr (fun _ => rfl) rfl rfl hlast' rfl rfl
      dsimp only
      rw [if_pos hinv.connected]
      exact hset.of_onlyMessages (onlyMessages_updateFrontSessionInfoToRemote _ focus minSize c)

/-- `lastSessionId_` is empty, so nobody is unregistered; the session that left is forgotten. -/
theorem leaveTask (h : ObserverInv s) (htasks : s.server.tasks = .front (.leave x) :: tasks)
    (hok : s.server.innerCallback x = none) :
    ObserverInv { s with server := { s.server with tasks }.leaveTask x } := by
  have hpending := h.pending
  rw [pendingFront_cons htasks] at hpending
  obtain ⟨hfront, htail⟩ := hpending.of_leave
  have hentry : ∀ y, s.server.controllerAt y ≠ none → y = x := by
    intro y hy
    obtain ⟨hid, hy'⟩ := h.entry y hy
    rw [pendingFront_cons htasks, htail, List.mem_singleton, FrontTask.leave.injEq] at hy'
    exact hy'.resolve_left fun hy'' => hid (hy''.trans hfront)
  have hnone : ∀ y, s.server.controllerAt y = none := by
    intro y
    by_contra hy
    obtain rfl := hentry y hy
    exact (h.controllers.registered y).mpr hy hok
  have hpopped : ControllersInv { s.server with tasks } :=
    h.controllers.congr (fun _ => rfl) rfl rfl
  have hplant := hpopped.plantNull s.server.lastSessionId
  have hat : ∀ y,
      (plantNull { s.server with tasks } s.server.lastSessionId).controllerAt y = none :=
    fun y => (controllerAt_plantNull { s.server with tasks } y _).trans (hnone y)
  have hframe := onlyControllers_plantNull { s.server with tasks } s.server.lastSessionId
  unfold MigrateAVSessionServer.leaveTask
  dsimp only
  generalize plantNull { s.server with tasks } s.server.lastSessionId = base at *
  have hclear := hplant.clear x
  have hcleared := hframe.trans (onlyControllers_clear base x none)
  rw [hat] at hclear ⊢
  have hinv : ObserverInv { s with
      server := (base.unregisterAVControllerCallback none).clearCacheBySessionId x } := by
    refine ⟨⟨hcleared.connecting.trans h.connected, hcleared.lastSessionId.trans h.last,
      Or.inl (hcleared.front.trans htail)⟩, hclear, fun y hy => ?_, fun _ hne => absurd hfront hne⟩
    refine absurd ?_ hy
    rw [controllerAt_clear, hat, ite_self]
  have hempty := hinv.of_onlyMessages (onlyMessages_updateEmptyInfoToRemote _)
  exact hempty.congr (fun _ => rfl) rfl rfl (hfront.symm.trans hempty.last.symm) rfl rfl

/-- What a task has to avoid is enough. -/
theorem runTask (h : ObserverInv s) (created : Bool)
    (hok : ObserverOk s (.runTask created focus)) :
    ObserverInv ((MigrateOp.runTask created focus).step minSize s) := by
  unfold ObserverOk at hok
  unfold MigrateOp.step MigrateAVSessionServer.runTask
  dsimp only at hok ⊢
  cases htasks : s.server.tasks with
  | nil =>
      unfold MigrateState.attemptsAfter
      rw [htasks]
      exact h
  | cons task tasks =>
      rw [htasks] at hok
      cases task with
      | send msg =>
          unfold MigrateState.attemptsAfter
          rw [htasks]
          exact h.congr (fun _ => rfl) rfl rfl rfl rfl (pendingFront_send htasks).symm
      | front t =>
          cases t with
          | arrive x => exact h.arriveTask minSize focus htasks hok
          | leave x =>
              unfold MigrateState.attemptsAfter
              rw [htasks]
              exact h.leaveTask htasks hok

/-- One step keeps the invariant, if it avoids what it has to. -/
theorem step (h : ObserverInv s) (op : MigrateOp ω) (hok : ObserverOk s op) :
    ObserverInv (op.step minSize s) := by
  cases op with
  | notifyLocalFrontSessionChangeForMigrate update =>
      exact h.notifyLocalFrontSessionChangeForMigrate update hok
  | processMediaControlNeedState version needState =>
      exact h.processMediaControlNeedState version needState
  | handleNeedStateTimer => exact h.handleNeedStateTimer
  | runTask created focus => exact h.runTask minSize focus created hok

/-- At the start nobody is observed. -/
theorem init : ObserverInv .init where
  toFrontInv := .init
  controllers := ⟨fun _ _ h => (nomatch h), fun _ => iff_of_false (fun h => h rfl) fun h => h rfl,
    fun _ => iff_of_false (fun h => h rfl) fun h => h rfl⟩
  entry _ h := absurd rfl h
  settled _ h := absurd rfl h

end ObserverInv

end steps

/-! ## Whole runs -/

section runs

variable (minSize : List UInt8 → Option (List UInt8))

/-- **The observer is that of the front session.** In a run that avoids a session leaving with its
callback, an arrival that drops such a leave, and a creation over a null pointer, the observer
agrees whenever nothing is pending. -/
theorem observer_always (ops : List (MigrateOp ω))
    (h : Meets (MigrateOp.step minSize) ObserverOk .init ops) :
    Always (MigrateOp.step minSize) ObserverAgrees .init ops :=
  (always_of_meets (P := ObserverInv) (fun _ op hs hok => hs.step minSize op hok) .init h).mono
    fun _ => ObserverInv.agrees

/-- A session that gives the server nothing to tell. -/
def silentFocus : FocusSession Unit := ⟨none, none, [], "", "", "", none⟩

/-- One session is at the front, and then another. -/
def twoSessions : List (MigrateOp Unit) :=
  [.notifyLocalFrontSessionChangeForMigrate "a", .runTask true silentFocus,
    .runTask true silentFocus, .notifyLocalFrontSessionChangeForMigrate "b",
    .runTask true silentFocus]

/-- The other session is the one that is observed. -/
theorem observer_of_two_sessions :
    (run (MigrateOp.step fun _ => none) .init twoSessions).server.Observes "b" ∧
      ∀ x, x ≠ "b" →
        (run (MigrateOp.step fun _ => none) .init twoSessions).server.controllerAt x = none ∧
        (run (MigrateOp.step fun _ => none) .init twoSessions).server.innerCallback x = none := by
  have hmeets : Meets (MigrateOp.step fun _ => none) ObserverOk .init twoSessions := by
    refine ⟨fun x hx => ?_, fun _ _ hnull => ?_, trivial, fun x hx => ?_, fun _ _ hnull => ?_,
      trivial⟩
    -- no session has left, and no entry is a null pointer
    · cases hx
    · cases hnull
    · cases hx
    · cases hnull
  exact (observer_always _ _ hmeets).last.front rfl (by decide) rfl

/-- A session that leaves keeps the callback of the server. -/
theorem observed_after_leave :
    ¬ Always (MigrateOp.step fun _ => none) ObserverAgrees .init
      [.notifyLocalFrontSessionChangeForMigrate "a", .runTask true silentFocus,
        .runTask true silentFocus, .notifyLocalFrontSessionChangeForMigrate "",
        .runTask true silentFocus] := by
  intro h
  have hlast := h.last.none rfl rfl "a"
  cases hlast

end runs

end AvSession.Migrate
