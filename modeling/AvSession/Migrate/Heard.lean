import AvSession.Migrate.Controllers

/-!
# Who reaches the server

A session that has a controller of the server reaches it through the callback. The need of the
remote changes neither the controllers nor the session at the front.

* `HeardInv` — the controllers have their callbacks; kept by the functions about controllers.
* `onlyMessages_arriveTask`, `onlyMessages_leaveTask` — the two front tasks, past the controllers.
* `SameFront` — the frame of the functions about the need.
-/

namespace AvSession.Migrate

open AvSession.Lib AvSession.Meta MigrateAVSessionServer

variable {ω : Type}

/-! ## Who reaches the server -/

section heard

namespace MigrateAVSessionServer

/-- A session that has a controller is the one that it is for, and reaches the server. -/
structure HeardInv (s : MigrateAVSessionServer) : Prop where
  self : ∀ x c, s.controllerAt x = some c → c = x
  registered : ∀ x, s.controllerAt x ≠ none → s.innerCallback x ≠ none
  empty : s.controllerAt "" = none

namespace HeardInv

variable {s s' : MigrateAVSessionServer} {x : String}

/-- At the start nobody is heard. -/
theorem init : HeardInv .init := ⟨fun _ _ h => (nomatch h), fun _ h => absurd rfl h, rfl⟩

/-- The invariant reads the controllers and the inner callbacks only. -/
theorem congr (h : HeardInv s) (hmap : ∀ x, s'.controllerAt x = s.controllerAt x)
    (hinner : s'.innerCallback = s.innerCallback) : HeardInv s' where
  self x c hc := h.self x c (hmap x ▸ hc)
  registered x hx := by
    rw [hinner]
    exact h.registered x (hmap x ▸ hx)
  empty := (hmap "").trans h.empty

/-- A session that gets a controller reaches the server. -/
theorem createController (h : HeardInv s) (hx : x ≠ "") (created : Bool) :
    HeardInv (s.createController x created) := by
  have hmap := fun y => controllerAt_createController s y x created
  have hinner : (s.createController x created).innerCallback = s.innerCallback ∨
      (s.createController x created).innerCallback =
        Function.update s.innerCallback x (some ⟨x⟩) := by
    unfold MigrateAVSessionServer.createController
    split_ifs
    · exact Or.inl rfl
    · exact Or.inl rfl
    · exact Or.inr rfl
  have hmono : ∀ y, s.innerCallback y ≠ none →
      (s.createController x created).innerCallback y ≠ none := by
    intro y hy
    rcases hinner with hsame | hnew
    · rw [hsame]
      exact hy
    · rw [hnew, Function.update_apply]
      split_ifs
      · exact Option.some_ne_none _
      · exact hy
  refine ⟨fun y c hc => ?_, fun y hy => ?_, ?_⟩
  · rw [hmap] at hc
    split_ifs at hc with hnew
    · exact (Option.some.inj hc).symm.trans hnew.1.symm
    · exact h.self y c hc
  · rw [hmap] at hy
    split_ifs at hy with hnew
    · obtain ⟨rfl, hcreated, hheld, -⟩ := hnew
      unfold MigrateAVSessionServer.createController
      rw [hheld, hcreated]
      show Function.update s.innerCallback y _ y ≠ none
      rw [Function.update_self]
      exact Option.some_ne_none _
    · exact hmono y (h.registered y hy)
  · rw [hmap, if_neg fun hnew => hx hnew.1.symm]
    exact h.empty

/-- Another session than the one that is forgotten still reaches the server. -/
theorem clear (h : HeardInv s) (c : Option ControllerRef) (hc : c = none ∨ c = some x) :
    HeardInv ((s.unregisterAVControllerCallback c).clearCacheBySessionId x) := by
  have hmap := fun y => controllerAt_clear s y x c
  have hinner : ∀ y, y ≠ x →
      ((s.unregisterAVControllerCallback c).clearCacheBySessionId x).innerCallback y =
        s.innerCallback y := by
    intro y hy
    rcases hc with rfl | rfl
    · rfl
    · exact Function.update_of_ne hy none s.innerCallback
  refine ⟨fun y c' hc' => ?_, fun y hy => ?_, ?_⟩
  · rw [hmap] at hc'
    split_ifs at hc'
    exact h.self y c' hc'
  · rw [hmap] at hy
    split_ifs at hy with hne
    · exact absurd rfl hy
    · rw [hinner y hne]
      exact h.registered y hy
  · rw [hmap, h.empty, ite_self]

/-- The controller of a session that is found is the one to unregister. -/
theorem found (h : HeardInv s) (x : String) :
    s.controllerAt x = none ∨ s.controllerAt x = some x := by
  cases hx : s.controllerAt x with
  | none => exact Or.inl rfl
  | some c => exact Or.inr (congrArg some (h.self x c hx))

/-- A null entry keeps the invariant. -/
theorem plantNull (h : HeardInv s) (x : String) : HeardInv (s.plantNull x) :=
  h.congr (fun y => controllerAt_plantNull s y x) (innerCallback_plantNull s x)

/-- Posting a task keeps the invariant. -/
theorem of_posted {t : FrontTask} {last : String} (h : HeardInv s) (hposted : Posted s s' t last) :
    HeardInv s' :=
  h.congr (fun x => controllerAt_congr s x hposted.controllerMap) hposted.innerCallback

/-- Sending messages keeps the invariant. -/
theorem of_onlyMessages (h : HeardInv s) (hsame : OnlyMessages s s') : HeardInv s' :=
  h.congr (fun x => controllerAt_congr s x hsame.controllerMap) hsame.innerCallback

end HeardInv

/-- The session is the last one already: past the controllers the task only makes messages. -/
theorem onlyMessages_arriveTask {s : MigrateAVSessionServer} {x : String}
    (hlast : s.lastSessionId = x) (minSize : List UInt8 → Option (List UInt8)) (created : Bool)
    (focus : FocusSession ω) :
    OnlyMessages ((s.createController x created).plantNull x)
      (s.arriveTask minSize x created focus) := by
  have hframe := (onlyControllers_createController s x created).trans (onlyControllers_plantNull _ x)
  unfold arriveTask
  dsimp only
  generalize (s.createController x created).plantNull x = base at *
  have hset : OnlyMessages base { base with lastSessionId := x } :=
    ⟨rfl, rfl, rfl, (hframe.lastSessionId.trans hlast).symm, rfl, rfl, rfl, rfl, rfl⟩
  cases base.controllerAt x with
  | none => exact .refl base
  | some c =>
      dsimp only
      split_ifs
      · exact hset.trans (onlyMessages_updateFrontSessionInfoToRemote _ focus minSize c)
      · exact hset

/-- Nobody is unregistered. -/
theorem onlyMessages_leaveTask {s : MigrateAVSessionServer} (hlast : s.lastSessionId = "")
    (hempty : s.controllerAt "" = none) (x : String) :
    OnlyMessages ((s.plantNull "").clearCacheBySessionId x) (s.leaveTask x) := by
  have hframe := onlyControllers_plantNull s ""
  have hmessages := onlyMessages_updateEmptyInfoToRemote ((s.plantNull "").clearCacheBySessionId x)
  unfold leaveTask
  dsimp only
  rw [hlast, hframe.lastSessionId, hlast, controllerAt_plantNull, hempty]
  refine hmessages.trans ⟨rfl, rfl, rfl, ?_, rfl, rfl, rfl, rfl, rfl⟩
  exact ((hmessages.lastSessionId.trans hframe.lastSessionId).trans hlast).symm

end MigrateAVSessionServer

end heard

/-! ## The needs of the remote -/

section need

namespace MigrateAVSessionServer

/-- The controllers and the front session are the same, and its arrival may be posted once more. -/
structure SameFront (s s' : MigrateAVSessionServer) : Prop where
  controllerMap : s'.playerIdToControllerMap = s.playerIdToControllerMap
  innerCallback : s'.innerCallback = s.innerCallback
  connecting : s'.isSoftbusConnecting = s.isSoftbusConnecting
  last : s'.lastSessionId = s.lastSessionId
  front : s'.pendingFront = s.pendingFront ∨
    (s.lastSessionId ≠ "" ∧ s'.pendingFront = [.arrive s.lastSessionId])

namespace SameFront

variable {s s' s'' : MigrateAVSessionServer}

/-- A server has its own front. -/
theorem refl (s : MigrateAVSessionServer) : SameFront s s := ⟨rfl, rfl, rfl, rfl, Or.inl rfl⟩

/-- Two calls that keep the front keep it together. -/
theorem trans (h : SameFront s s') (h' : SameFront s' s'') : SameFront s s'' where
  controllerMap := h'.controllerMap.trans h.controllerMap
  innerCallback := h'.innerCallback.trans h.innerCallback
  connecting := h'.connecting.trans h.connecting
  last := h'.last.trans h.last
  front := by
    rcases h'.front with hsame | harrive
    · rw [hsame]
      exact h.front
    · rw [h.last] at harrive
      exact Or.inr harrive

/-- Sending messages keeps the front. -/
theorem of_onlyMessages (h : OnlyMessages s s') : SameFront s s' :=
  ⟨h.controllerMap, h.innerCallback, h.connecting, h.lastSessionId, Or.inl h.front⟩

/-- The remote's need is not part of the front. -/
theorem setNeed (s : MigrateAVSessionServer) (need timer : Bool) :
    SameFront s { s with isNeedByRemote := need, needStateTimer := timer } :=
  ⟨rfl, rfl, rfl, rfl, Or.inl rfl⟩

/-- The last session arriving again keeps the front. -/
theorem localFrontSessionArrive_last (hconnected : s.isSoftbusConnecting = true) :
    SameFront s (s.localFrontSessionArrive s.lastSessionId) := by
  by_cases hlast : s.lastSessionId = ""
  · unfold localFrontSessionArrive
    rw [if_pos hlast]
    exact refl s
  · have hposted := posted_localFrontSessionArrive hconnected hlast
    exact ⟨hposted.controllerMap, hposted.innerCallback, hposted.connecting.trans hconnected.symm,
      hposted.lastSessionId, Or.inr ⟨hlast, hposted.front⟩⟩

/-- A timer request keeps the front. -/
theorem processMediaControlTimerRequest (hconnected : s.isSoftbusConnecting = true) (version : ℤ) :
    SameFront s (s.processMediaControlTimerRequest version) := by
  rcases s.processMediaControlTimerRequest_cases version with heq | ⟨-, heq⟩ | heq
  · rw [heq]
    exact refl s
  · rw [heq]
    exact setNeed s s.isNeedByRemote true
  · rw [heq]
    have hpending := (setNeed s true s.needStateTimer).trans
      (of_onlyMessages (onlyMessages_postPending _))
    have harrive := hpending.trans
      (localFrontSessionArrive_last (hpending.connecting.trans hconnected))
    exact harrive.trans (setNeed _ _ true)

/-- A message of need keeps the front. -/
theorem processMediaControlNeedState (hconnected : s.isSoftbusConnecting = true)
    (version : Option ℤ) (needState : Option Bool) :
    SameFront s (s.processMediaControlNeedState version needState) := by
  unfold MigrateAVSessionServer.processMediaControlNeedState
  cases version with
  | some version => exact processMediaControlTimerRequest hconnected version
  | none =>
      match needState with
      | none => exact refl s
      | some false => exact setNeed s false s.needStateTimer
      | some true =>
          dsimp only
          split_ifs
          · exact refl s
          · exact (setNeed s true s.needStateTimer).trans (localFrontSessionArrive_last hconnected)

/-- The timer of the need keeps the front. -/
theorem handleNeedStateTimer (s : MigrateAVSessionServer) : SameFront s s.handleNeedStateTimer := by
  unfold MigrateAVSessionServer.handleNeedStateTimer
  split_ifs
  · exact setNeed s false false
  · exact refl s

end SameFront

/-- A call that keeps the front keeps who is heard. -/
theorem HeardInv.of_sameFront {s s' : MigrateAVSessionServer} (h : HeardInv s)
    (hsame : SameFront s s') : HeardInv s' :=
  h.congr (fun x => controllerAt_congr s x hsame.controllerMap) hsame.innerCallback

end MigrateAVSessionServer

/-- A call that keeps the front keeps its invariant. -/
theorem FrontInv.of_sameFront {s : MigrateState} {server : MigrateAVSessionServer} (h : FrontInv s)
    (hsame : SameFront s.server server) : FrontInv { s with server } where
  connected := hsame.connecting.trans h.connected
  last := hsame.last.trans h.last
  pending := by
    show PendingAs s.localFrontSessionId server.pendingFront
    rcases hsame.front with hfront | ⟨hlast, hfront⟩
    · rw [hfront]
      exact h.pending
    · rw [hfront, h.last]
      exact Or.inr (Or.inl ⟨h.last ▸ hlast, rfl⟩)

end need

end AvSession.Migrate
