import AvSession.Migrate.Frames

/-!
# The controllers of the server

The server has a map of controllers and one of observers, and each controller may have a callback of
the server. They are touched by the functions that create, register and forget controllers, and by
no others.

* `OnlyControllers` — the frame of these functions.
* `controllerAt_plantNull`, `controllerAt_clear` — what is found in the map after them.
* `ControllersInv` — the maps and the callbacks are about the same sessions.
-/

namespace AvSession.Migrate.MigrateAVSessionServer

open AvSession.Lib

/-! ## What is left alone -/

section frames

/-- Nothing has changed but the maps and the callbacks. -/
def OnlyControllers (s s' : MigrateAVSessionServer) : Prop :=
  ∃ controllerMap callbackMap innerCallback, s' =
    { s with
      playerIdToControllerMap := controllerMap
      playerIdToControllerCallbackMap := callbackMap
      innerCallback := innerCallback }

namespace OnlyControllers

variable {s s' s'' : MigrateAVSessionServer}

/-- Two calls that touch controllers only do so together. -/
theorem trans (h : OnlyControllers s s') (h' : OnlyControllers s' s'') :
    OnlyControllers s s'' := by
  obtain ⟨_, _, _, rfl⟩ := h
  obtain ⟨_, _, _, rfl⟩ := h'
  exact ⟨_, _, _, rfl⟩

variable (h : OnlyControllers s s')

include h

/-- Such a call keeps the connection. -/
theorem connecting : s'.isSoftbusConnecting = s.isSoftbusConnecting := by
  obtain ⟨_, _, _, rfl⟩ := h
  rfl

/-- Such a call keeps the last session. -/
theorem lastSessionId : s'.lastSessionId = s.lastSessionId := by
  obtain ⟨_, _, _, rfl⟩ := h
  rfl

/-- Such a call keeps the remote's need. -/
theorem need : s'.isNeedByRemote = s.isNeedByRemote := by
  obtain ⟨_, _, _, rfl⟩ := h
  rfl

/-- Such a call keeps the previous session. -/
theorem preSessionId : s'.preSessionId = s.preSessionId := by
  obtain ⟨_, _, _, rfl⟩ := h
  rfl

/-- Such a call keeps the pending session information. -/
theorem pendingSessionInfo : s'.pendingSessionInfo = s.pendingSessionInfo := by
  obtain ⟨_, _, _, rfl⟩ := h
  rfl

/-- Such a call keeps the pending front. -/
theorem front : s'.pendingFront = s.pendingFront := by
  obtain ⟨_, _, _, rfl⟩ := h
  rfl

/-- Such a call keeps the last information. -/
theorem info : s'.lastInfo = s.lastInfo := by
  obtain ⟨_, _, _, rfl⟩ := h
  rfl

end OnlyControllers

variable (s : MigrateAVSessionServer) (y : String)

/-- Looking a missing controller up touches controllers only. -/
theorem onlyControllers_plantNull : OnlyControllers s (s.plantNull y) := by
  unfold plantNull
  cases s.playerIdToControllerMap y <;> exact ⟨_, _, _, rfl⟩

/-- Creating a controller touches controllers only. -/
theorem onlyControllers_createController (created : Bool) :
    OnlyControllers s (s.createController y created) := by
  unfold createController
  split_ifs <;> exact ⟨_, _, _, rfl⟩

/-- A controller is unregistered, and a session forgotten. -/
theorem onlyControllers_clear (c : Option ControllerRef) :
    OnlyControllers s ((s.unregisterAVControllerCallback c).clearCacheBySessionId y) := by
  cases c <;> exact ⟨_, _, _, rfl⟩

end frames

/-! ## What is found in the maps -/

section lookups

variable (s : MigrateAVSessionServer) {s' : MigrateAVSessionServer} (x y : String)

/-- Equal maps have equal controllers. -/
theorem controllerAt_congr (h : s'.playerIdToControllerMap = s.playerIdToControllerMap) :
    s'.controllerAt x = s.controllerAt x := by
  unfold controllerAt
  rw [h]

/-- A null entry is no controller. -/
theorem controllerAt_plantNull : (s.plantNull y).controllerAt x = s.controllerAt x := by
  unfold plantNull
  cases hy : s.playerIdToControllerMap y with
  | some _ => rfl
  | none =>
      unfold controllerAt
      dsimp only
      rw [Function.update_apply]
      split_ifs with hx
      · rw [hx, hy]
        rfl
      · rfl

/-- A null entry leaves the callbacks. -/
theorem callbackMap_plantNull :
    (s.plantNull y).playerIdToControllerCallbackMap = s.playerIdToControllerCallbackMap := by
  unfold plantNull
  cases s.playerIdToControllerMap y <;> rfl

/-- A null entry leaves the inner callbacks. -/
theorem innerCallback_plantNull : (s.plantNull y).innerCallback = s.innerCallback := by
  unfold plantNull
  cases s.playerIdToControllerMap y <;> rfl

/-- A controller is created where nothing is in the way. -/
theorem controllerAt_createController (created : Bool) :
    (s.createController y created).controllerAt x =
      if x = y ∧ created = true ∧ s.playerIdToControllerCallbackMap y = none ∧
          s.playerIdToControllerMap y = none then some y
      else s.controllerAt x := by
  unfold createController
  by_cases hheld : (s.playerIdToControllerCallbackMap y).isSome = true
  · rw [if_pos hheld, if_neg]
    rintro ⟨-, -, hnone, -⟩
    rw [hnone] at hheld
    cases hheld
  · rw [if_neg hheld]
    cases created with
    | false => simp
    | true =>
        have hnone : s.playerIdToControllerCallbackMap y = none :=
          not_not.mp (mt Option.isSome_iff_ne_none.mpr hheld)
        show (Function.update s.playerIdToControllerMap y
          (some ((s.playerIdToControllerMap y).getD (some y))) x).join = _
        rw [Function.update_apply]
        by_cases hx : x = y
        · subst hx
          unfold controllerAt
          cases hmap : s.playerIdToControllerMap x <;> simp [hnone]
        · simp [hx, controllerAt]

/-- Clearing the cache of a session takes its controller. -/
theorem controllerAt_clear (c : Option ControllerRef) :
    ((s.unregisterAVControllerCallback c).clearCacheBySessionId y).controllerAt x =
      if x = y then none else s.controllerAt x := by
  cases c <;>
    unfold controllerAt clearCacheBySessionId unregisterAVControllerCallback <;>
    dsimp only <;> rw [Function.update_apply] <;> split_ifs <;> rfl

end lookups

/-! ## The maps together -/

section maps

/-- The two maps and the callbacks are about the same sessions. -/
structure ControllersInv (s : MigrateAVSessionServer) : Prop where
  self : ∀ x c, s.controllerAt x = some c → c = x
  held : ∀ x, s.playerIdToControllerCallbackMap x ≠ none ↔ s.controllerAt x ≠ none
  registered : ∀ c, s.innerCallback c ≠ none ↔ s.controllerAt c ≠ none

variable {s s' : MigrateAVSessionServer} {x : String}

namespace ControllersInv

/-- The invariant reads the maps and the inner callbacks only. -/
theorem congr (h : ControllersInv s) (hmap : ∀ x, s'.controllerAt x = s.controllerAt x)
    (hcallback : s'.playerIdToControllerCallbackMap = s.playerIdToControllerCallbackMap)
    (hinner : s'.innerCallback = s.innerCallback) : ControllersInv s' where
  self x c hc := h.self x c ((hmap x).symm.trans hc)
  held x := by rw [hcallback, hmap, h.held]
  registered c := by rw [hinner, hmap, h.registered]

/-- A null entry keeps the invariant. -/
theorem plantNull (h : ControllersInv s) (y : String) : ControllersInv (s.plantNull y) :=
  h.congr (fun x => controllerAt_plantNull s x y) (callbackMap_plantNull s y)
    (innerCallback_plantNull s y)

/-- A session is forgotten, and unregistered if it has a controller. -/
theorem clear (h : ControllersInv s) (y : String) :
    ControllersInv
      ((s.unregisterAVControllerCallback (s.controllerAt y)).clearCacheBySessionId y) := by
  have hmap := fun x => controllerAt_clear s x y (s.controllerAt y)
  have hinner : ∀ c, (s.unregisterAVControllerCallback (s.controllerAt y)).innerCallback c =
      if c = y then none else s.innerCallback c := by
    intro c
    cases hy : s.controllerAt y with
    | none =>
        show s.innerCallback c = _
        split_ifs with hc
        · subst hc
          exact not_not.mp (mt (h.registered c).mp (not_not.mpr hy))
        · rfl
    | some c' =>
        obtain rfl := h.self y c' hy
        exact Function.update_apply _ _ _ c
  refine ⟨fun x c hc => ?_, fun x => ?_, fun c => ?_⟩
  · rw [hmap] at hc
    split_ifs at hc
    exact h.self x c hc
  · rw [hmap]
    have hcallback : ((s.unregisterAVControllerCallback
        (s.controllerAt y)).clearCacheBySessionId y).playerIdToControllerCallbackMap x =
          if x = y then none else s.playerIdToControllerCallbackMap x := by
      cases s.controllerAt y <;> exact Function.update_apply _ _ _ x
    rw [hcallback]
    split_ifs
    · simp
    · exact h.held x
  · rw [hmap]
    show (s.unregisterAVControllerCallback (s.controllerAt y)).innerCallback c ≠ none ↔ _
    rw [hinner]
    split_ifs
    · simp
    · exact h.registered c

/-- Whose callback is held has its controller. -/
theorem controllerAt_of_held (h : ControllersInv s)
    (hx : s.playerIdToControllerCallbackMap x ≠ none) : s.controllerAt x = some x := by
  obtain ⟨c, hc⟩ := Option.ne_none_iff_exists'.mp ((h.held x).mp hx)
  rw [hc, h.self x c hc]

/-- A new controller takes an entry that is free. -/
theorem updateCache (h : ControllersInv s) (hx : s.playerIdToControllerMap x = none) :
    ControllersInv (MigrateAVSessionServer.updateCache
      { s with innerCallback := Function.update s.innerCallback x (some ⟨x⟩) } x x ⟨x⟩) ∧
      ∀ y, (MigrateAVSessionServer.updateCache
        { s with innerCallback := Function.update s.innerCallback x (some ⟨x⟩) } x x
          ⟨x⟩).controllerAt y = if y = x then some x else s.controllerAt y := by
  have hmap : ∀ y, (MigrateAVSessionServer.updateCache
      { s with innerCallback := Function.update s.innerCallback x (some ⟨x⟩) } x x
        ⟨x⟩).controllerAt y = if y = x then some x else s.controllerAt y := by
    intro y
    show (Function.update s.playerIdToControllerMap x
      (some ((s.playerIdToControllerMap x).getD (some x))) y).join = _
    rw [Function.update_apply, hx]
    split_ifs <;> rfl
  refine ⟨⟨fun y c hc => ?_, fun y => ?_, fun c => ?_⟩, hmap⟩
  · rw [hmap] at hc
    split_ifs at hc with hy
    · rw [hy]
      exact (Option.some.inj hc).symm
    · exact h.self y c hc
  · rw [hmap]
    show Function.update s.playerIdToControllerCallbackMap x _ y ≠ none ↔ _
    rw [Function.update_apply]
    split_ifs
    · simp
    · exact h.held y
  · rw [hmap]
    show Function.update s.innerCallback x _ c ≠ none ↔ _
    rw [Function.update_apply]
    split_ifs
    · simp
    · exact h.registered c

/-- A controller is created, where there is no null pointer in the map. -/
theorem createController (h : ControllersInv s) {created : Bool}
    (hnull : created = true → s.playerIdToControllerCallbackMap x = none →
      s.playerIdToControllerMap x ≠ some none) :
    ControllersInv (s.createController x created) ∧
      ∀ y, (s.createController x created).controllerAt y =
        if y = x ∧ created = true then some x else s.controllerAt y := by
  unfold MigrateAVSessionServer.createController
  by_cases hheld : (s.playerIdToControllerCallbackMap x).isSome = true
  · rw [if_pos hheld]
    refine ⟨h, fun y => ?_⟩
    split_ifs with hy
    · rw [hy.1, h.controllerAt_of_held (Option.isSome_iff_ne_none.mp hheld)]
    · rfl
  · rw [if_neg hheld]
    cases created with
    | false => exact ⟨h, fun y => by simp⟩
    | true =>
        have hcallback : s.playerIdToControllerCallbackMap x = none :=
          not_not.mp (mt Option.isSome_iff_ne_none.mpr hheld)
        have hfree : s.playerIdToControllerMap x = none := by
          have hnone : s.controllerAt x = none :=
            not_not.mp (mt (h.held x).mpr (not_not.mpr hcallback))
          unfold controllerAt at hnone
          cases hx : s.playerIdToControllerMap x with
          | none => rfl
          | some c =>
              rw [hx] at hnone
              exact absurd (hx.trans (congrArg some hnone)) (hnull rfl hcallback)
        simpa using h.updateCache hfree

end ControllersInv

end maps

/-! ## Another session comes to the front -/

section change

variable (s : MigrateAVSessionServer) {update : String}

/-- The arrival of the other session is posted, past the functions that forget the last one. -/
theorem posted_localFrontSessionChange (hconnected : s.isSoftbusConnecting = true)
    (hupdate : update ≠ "") :
    Posted
      (((s.plantNull s.lastSessionId).unregisterAVControllerCallback
        (s.controllerAt s.lastSessionId)).clearCacheBySessionId s.lastSessionId)
      (s.localFrontSessionChange update) (.arrive update) update := by
  have hplanted := onlyControllers_plantNull s s.lastSessionId
  have hcleared := onlyControllers_clear (s.plantNull s.lastSessionId) s.lastSessionId
    (s.controllerAt s.lastSessionId)
  unfold localFrontSessionChange
  dsimp only
  rw [controllerAt_plantNull]
  refine Posted.of_lastSessionId "" (posted_localFrontSessionArrive ?_ hupdate)
  exact (hplanted.trans hcleared).connecting.trans hconnected

/-- The session that was the last one is forgotten, and the arrival of the other one is posted. -/
theorem localFrontSessionChange_cleared (hconnected : s.isSoftbusConnecting = true)
    (hupdate : update ≠ "") :
    ∃ cleared, OnlyControllers s cleared ∧ (s.ControllersInv → cleared.ControllersInv) ∧
      (∀ x, cleared.controllerAt x = if x = s.lastSessionId then none else s.controllerAt x) ∧
      Posted cleared (s.localFrontSessionChange update) (.arrive update) update := by
  have hat := fun x => controllerAt_plantNull s x s.lastSessionId
  refine ⟨_, (onlyControllers_plantNull s s.lastSessionId).trans (onlyControllers_clear _ _ _),
    fun h => ?_, fun x => ?_, posted_localFrontSessionChange s hconnected hupdate⟩
  · rw [← hat]
    exact (h.plantNull s.lastSessionId).clear s.lastSessionId
  · rw [controllerAt_clear, hat]

end change

end AvSession.Migrate.MigrateAVSessionServer
