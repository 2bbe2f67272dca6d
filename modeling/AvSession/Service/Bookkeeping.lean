import AvSession.Service.LeftSessions

/-!
# The bookkeeping of the controllers

Three parties know a controller: the service lists it under the pid of its client, its session has
it in a map under that pid, and it points back to its session.

* `Bookkeeping` — the three agree.
* `BindInv` — the maps of the live sessions hold exactly the controllers that point to them.
* `TableInv` — the table of the service lists exactly the controllers that point to a session.
* `BookOk` — the condition on a call. A session is created under a key that is free for all users.
* `BookInv.step`, `bookkeeping_always` — such calls keep both, so the three agree all along every
  run of them.
* `released_session_gets_controller` — a key that is not free.
-/

namespace AvSession.Service

open Std AvSession.Lib AvSession.Registry AvSession.Lib.OrderedMap AvSession.Lib.ListMap

/-! ## What the parties know -/

section bookkeeping

variable (s : AVSessionService)

/-- The live session `x` has the controller under that pid. -/
def AVSessionService.HeldBy (pid : Pid) (c : ControllerRef) (x : SessionRef) : Prop :=
  s.Live x ∧ (s.users.items x).controllers[pid]? = some c

/-- The service and the sessions agree on the controllers. -/
structure Bookkeeping : Prop where
  /-- A controller is listed under a pid exactly if the pid is its own and it is in the map of one
  live session, its own. -/
  listed : ∀ pid c, c ∈ listAt s.controllers pid ↔ (s.controllerItems c).pid = pid ∧
    ∃ x, s.HeldBy pid c x ∧ (∀ y, s.HeldBy pid c y → y = x) ∧
      (s.controllerItems c).session = some x
  /-- No two controllers of a pid are of one session. -/
  single : ∀ pid,
    ((listAt s.controllers pid).map fun c => (s.controllerItems c).session).Nodup
  noEmpty : NoEmpty s.controllers

/-- The sessions and the controllers know of each other. -/
structure BindInv : Prop where
  registry : RegistryInv s.users
  fresh : ∀ x, s.users.Registered x → x < s.nextSession
  alive : ∀ x, s.users.Registered x → (s.users.items x).isDestroyed = false
  bound : ∀ c x, (s.controllerItems c).session = some x → s.users.Registered x ∧
    c < s.nextController ∧ (s.controllerItems c).hasServiceCallback = true
  held : ∀ x, s.users.Registered x → ∀ pid c, (s.users.items x).controllers[pid]? = some c ↔
    (s.controllerItems c).pid = pid ∧ (s.controllerItems c).session = some x

/-- The service lists the controllers that have a session. -/
structure TableInv : Prop where
  listed : ∀ pid c, c ∈ listAt s.controllers pid ↔ (s.controllerItems c).pid = pid ∧
    ∃ x, (s.controllerItems c).session = some x
  nodup : ∀ pid, (listAt s.controllers pid).Nodup
  noEmpty : NoEmpty s.controllers

/-- What the handlers keep. -/
structure BookInv : Prop extends BindInv s, TableInv s

variable {s}

/-- A controller is held by the process and the session its own fields name. -/
theorem BindInv.heldBy_iff (h : BindInv s) {pid : Pid} {c : ControllerRef} {x : SessionRef} :
    s.HeldBy pid c x ↔
      (s.controllerItems c).pid = pid ∧ (s.controllerItems c).session = some x := by
  constructor
  · rintro ⟨hlive, hmap⟩
    exact (h.held x (h.registry.partition.mem_stack_all.mp hlive.1) pid c).mp hmap
  · rintro ⟨hpid, hsession⟩
    have hx := (h.bound c x hsession).1
    exact ⟨⟨h.registry.partition.mem_stack_all.mpr hx, h.alive x hx⟩,
      (h.held x hx pid c).mpr ⟨hpid, hsession⟩⟩

/-- The invariant gives the bookkeeping itself. -/
theorem BookInv.bookkeeping (h : BookInv s) : Bookkeeping s where
  listed pid c := by
    rw [h.listed]
    refine and_congr_right fun hpid => exists_congr fun x => ?_
    constructor
    · intro hsession
      refine ⟨h.heldBy_iff.mpr ⟨hpid, hsession⟩, fun y hy => ?_, hsession⟩
      have hy' := (h.heldBy_iff.mp hy).2
      rw [hsession] at hy'
      exact (Option.some.inj hy').symm
    · exact fun hx => hx.2.2
  single pid := by
    refine (h.nodup pid).map_on fun c hc d hd heq => ?_
    obtain ⟨hcpid, x, hcx⟩ := (h.listed pid c).mp hc
    obtain ⟨hdpid, -⟩ := (h.listed pid d).mp hd
    have hdx : (s.controllerItems d).session = some x := heq ▸ hcx
    have hx := (h.bound c x hcx).1
    have hcmap := (h.held x hx pid c).mpr ⟨hcpid, hcx⟩
    have hdmap := (h.held x hx pid d).mpr ⟨hdpid, hdx⟩
    rw [hcmap] at hdmap
    exact Option.some.inj hdmap
  noEmpty := h.noEmpty

/-- Empty tables are in order. -/
theorem BookInv.init {items : Items} (hinj : DistinctIds items) (userId : UserId)
    (controlBundleNameSet : List String) (carFeature : Bool) :
    BookInv (AVSessionService.init items userId controlBundleNameSet carFeature) where
  registry := (UsersInv.init hinj userId).registry
  fresh x hx := by
    simp [AVSessionService.init, UsersManager.Registered, UsersManager.init,
      SessionStack.empty] at hx
  alive x hx := by
    simp [AVSessionService.init, UsersManager.Registered, UsersManager.init,
      SessionStack.empty] at hx
  bound c x hc := by simp [AVSessionService.init] at hc
  held x hx := by
    simp [AVSessionService.init, UsersManager.Registered, UsersManager.init,
      SessionStack.empty] at hx
  listed pid c := by simp [AVSessionService.init, listAt]
  nodup pid := by simp [AVSessionService.init, listAt]
  noEmpty := noEmpty_empty

end bookkeeping

/-! ## The sessions -/

section sessions

open AVSessionService

variable {s : AVSessionService} {o : Oracle} {x : SessionRef} {m' : UsersManager}

namespace BookInv

/-- Operations of the users that leave the live sessions alone. -/
theorem withUsers (h : BookInv s) (hregistry : RegistryInv m') (hsame : SameLive s.users m') :
    BookInv (s.withUsers m') where
  registry := hregistry
  fresh x hx := h.fresh x (hsame.registered x hx)
  alive x hx := by
    show (m'.items x).isDestroyed = false
    rw [hsame.isDestroyed]
    exact h.alive x (hsame.registered x hx)
  bound c x hc := by
    obtain ⟨hx, hrest⟩ := h.bound c x hc
    exact ⟨hsame.kept x hx, hrest⟩
  held x hx pid c := by
    show (m'.items x).controllers[pid]? = some c ↔ _
    rw [hsame.controllers]
    exact h.held x (hsame.registered x hx) pid c
  listed := h.listed
  nodup := h.nodup
  noEmpty := h.noEmpty

/-- An operation of the users that only changes flags, slots and orders. -/
theorem withOnlyTop (h : BookInv s) (ht : OnlyTop s.users m') : BookInv (s.withUsers m') :=
  h.withUsers (h.registry.of_onlyTop ht) (SameLive.of_onlyTop ht)

/-- The session that the container of all users finds is registered. -/
theorem registered_of_getSessionById (h : BookInv s) {sessionId : String}
    (hx : s.users.stackForAll.getSessionById s.users.items sessionId = some x) :
    s.users.Registered x :=
  h.registry.partition.mem_stack_all.mp (List.mem_of_find?_eq_some hx)

/-- What the caller's container holds is registered. -/
theorem registered_of_mem_containerOfCaller (h : BookInv s)
    (hx : x ∈ s.containerOfCaller.stack) : s.users.Registered x := by
  unfold AVSessionService.containerOfCaller at hx
  split_ifs at hx
  · exact h.registry.partition.mem_stack_all.mp hx
  · exact (h.registry.partition.mem_stack_user.mp hx).1

/-- A call that only moves the top of a found session keeps the invariant. -/
theorem withSession (h : BookInv s) {sessionId : String}
    {f : UsersManager → SessionRef → UsersManager}
    (hf : ∀ x, s.users.Registered x → OnlyTop s.users (f s.users x)) :
    BookInv (withSession s sessionId f) := by
  unfold AvSession.Service.withSession
  cases hfind : s.users.getContainerFromAll.getSessionById s.users.items sessionId with
  | none => exact h
  | some x => exact h.withOnlyTop (hf x (h.registered_of_getSessionById hfind))

/-- UpdateSession keeps the invariant where a removal finds sound front lists. -/
theorem updateSession (h : BookInv s) {sessionId : String} {isAdd : Bool} {userId : UserId}
    (hf : isAdd = false → ∀ x, (s.users.getContainerFromUser
      (getTargetUserId s.users userId)).getSessionById s.users.items sessionId = some x →
        FrontSound s.users (s.users.items x).userId) (o : Oracle) :
    BookInv (s.updateSession o sessionId isAdd userId) := by
  unfold AVSessionService.updateSession
  cases hfind : (s.users.getContainerFromUser (getTargetUserId s.users userId)).getSessionById
      s.users.items sessionId with
  | none => exact h
  | some x =>
      have hupdated : RegistryInv (AvSession.Service.updateFrontSession s.users o x
          s.controlBundleNameSet isAdd) ∧ SameLive s.users
            (AvSession.Service.updateFrontSession s.users o x s.controlBundleNameSet isAdd) :=
        h.registry.updateFrontSession isAdd fun hadd => hf hadd x hfind
      exact h.withUsers hupdated.1 hupdated.2

/-- AddKeyEvent keeps the invariant. -/
theorem addKeyEvent (h : BookInv s) (sessionId : String) : BookInv (s.addKeyEvent sessionId) := by
  unfold AVSessionService.addKeyEvent
  cases s.containerOfCaller.getSessionById s.users.items sessionId with
  | none => exact h
  | some x =>
      dsimp only
      unfold addKeyEventSession
      split_ifs
      · exact h
      · exact h.withUsers (h.registry.congr rfl rfl rfl)
          ⟨SameSessions.of_items (fun _ hy => hy) rfl, fun _ hy => hy⟩

/-- Handing the top on to another playing session keeps the invariant. -/
theorem handleOtherSessionPlaying (h : BookInv s) {userId : UserId}
    (hf : FrontSound s.users userId) {bundleName : String}
    (hx : getOtherPlayingSession s.users o userId bundleName = some x) :
    BookInv (s.withUsers (handleOtherSessionPlaying s.users x)) :=
  h.withOnlyTop (onlyTop_handleOtherSessionPlaying h.registry (hf.registered hx))

/-! ### Users -/

/-- A user switch keeps the invariant. -/
theorem userSwitched (h : BookInv s) (userId : UserId) :
    BookInv (s.withUsers (handleUserSwitched s.users userId)) := by
  have hswitched : BookInv (s.withUsers (s.users.handleUserSwitched userId)) :=
    h.withUsers (h.registry.congr rfl rfl rfl)
      ⟨SameSessions.of_items (fun _ hx => hx) rfl, fun _ hx => hx⟩
  exact hswitched.withOnlyTop (onlyTop_updateTopSession _ _ _)

/-- The refresh of the user at the start of a creation keeps the invariant. -/
theorem refreshed (h : BookInv s) (tag : String) (uid : Uid) (elementName : ElementName) :
    BookInv (s.refreshed tag uid elementName) := by
  unfold AVSessionService.refreshed
  rcases refreshUserFromAnco_cases s.users tag uid elementName with hsame | ⟨u, hswitched⟩
  · rw [hsame]
    exact h
  · rw [hswitched]
    exact h.userSwitched u

/-- The sessions of a removed user go without being destroyed. -/
theorem userRemoved (h : BookInv s) {userId : UserId}
    (hnone : ∀ c x, (s.controllerItems c).session = some x →
      (s.users.items x).userId ≠ userId) :
    BookInv (s.withUsers (handleUserRemoved s.users userId)) := by
  have hreg := fun y => h.registry.partition.registered_handleUserRemoved (x := y) h.registry.ids
    userId
  have hitems : (handleUserRemoved s.users userId).items = s.users.items :=
    s.users.handleUserRemoved_items userId
  refine ⟨⟨h.registry.handleUserRemoved userId, fun y hy => h.fresh y ((hreg y).mp hy).1,
    fun y hy => ?_, fun c y hc => ?_, fun y hy => ?_⟩, ⟨h.listed, h.nodup, h.noEmpty⟩⟩
  · rw [AVSessionService.withUsers_users, hitems]
    exact h.alive y ((hreg y).mp hy).1
  · obtain ⟨hy, hrest⟩ := h.bound c y hc
    exact ⟨(hreg y).mpr ⟨hy, hnone c y hc⟩, hrest⟩
  · rw [AVSessionService.withUsers_users, hitems]
    exact h.held y ((hreg y).mp hy).1

end BookInv

/-- The condition on a session that is created, past the switch of the user. Where the ability has a
session already, that of the broker; where it has none, the service is full, or the ability is free
for all users. -/
def KeyFree (s : AVSessionService) (pid : Pid) (uid : Uid)
    (elementName sessionElement : ElementName) : Prop :=
  if s.abilityHasSession pid (getUserIdFromCallingUid s.users uid) then
    BrokerOk s uid elementName.abilityName
  else
    s.users.stackForAll.sessions.size ≥ SESSION_NUM_MAX ∨
      s.users.stackForAll.sessions[(⟨pid, sessionElement.abilityName⟩ : SessionKey)]? = none

namespace BookInv

variable {pid : Pid} {uid : Uid} {abilityName : String} {elementName sessionElement : ElementName}

/-- A session that is allocated is nobody's yet. -/
theorem createNewSession (h : BookInv s) (pid : Pid) (uid : Uid) (type : SessionType)
    (bundleName abilityName : String) :
    BookInv (s.createNewSession pid uid type bundleName abilityName) := by
  have hne : ∀ y, s.users.Registered y → y ≠ s.nextSession := fun y hy => (h.fresh y hy).ne
  have hitems := ServiceInv.items_createNewSession s pid uid type bundleName abilityName
  refine ⟨⟨?_, fun y hy => (h.fresh y hy).trans (Nat.lt_succ_self _), fun y hy => ?_, h.bound,
    fun y hy => ?_⟩, ⟨h.listed, h.nodup, h.noEmpty⟩⟩
  · apply h.registry.withItem s.nextSession
    · rfl
    · exact fun hx => absurd rfl (hne _ hx)
    · exact fun hx => absurd rfl (hne _ hx)
  · rw [hitems, if_neg (hne y hy)]
    exact h.alive y hy
  · rw [hitems, if_neg (hne y hy)]
    exact h.held y hy

/-- A session that is alive, and that no controller points to, is added. -/
theorem addSession (h : BookInv s) {userId : UserId}
    (hlive : (s.users.items x).isDestroyed = false ∧ (s.users.items x).controllers = ∅)
    (hkeeps : s.users.stackForAll.sessions.size ≥ SESSION_NUM_MAX ∨
      (s.users.stackForAll.sessions[(⟨pid, abilityName⟩ : SessionKey)]? = none ∧
        x < s.nextSession ∧ ¬ s.users.Registered x ∧
        (s.users.items x).userId = s.users.effectiveUser userId ∧
        ⟨pid, abilityName⟩ = itemKey s.users.items x)) :
    BookInv (s.withUsers (s.users.addSessionForCurrentUser pid abilityName x userId).1) := by
  have hreg : ∀ y, (s.users.addSessionForCurrentUser pid abilityName x userId).1.Registered y ↔
      s.users.Registered y ∨ (y = x ∧ s.users.stackForAll.sessions.size < SESSION_NUM_MAX) :=
    fun y => h.registry.partition.registered_addSession (hkeeps.imp_right And.left)
  have hitems := s.users.addSessionForCurrentUser_items pid abilityName userId x
  refine ⟨⟨?_, fun y hy => ?_, fun y hy => ?_, fun c y hc => ?_, fun y hy p c => ?_⟩,
    ⟨h.listed, h.nodup, h.noEmpty⟩⟩
  · apply h.registry.addSession pid abilityName
    exact hkeeps.imp_right fun hk => ⟨hk.1, hk.2.2⟩
  · rcases (hreg y).mp hy with hy | ⟨rfl, hroom⟩
    · exact h.fresh y hy
    · exact (hkeeps.resolve_left (Nat.not_le.mpr hroom)).2.1
  · rw [AVSessionService.withUsers_users, hitems]
    rcases (hreg y).mp hy with hy | ⟨rfl, -⟩
    · exact h.alive y hy
    · exact hlive.1
  · obtain ⟨hy, hrest⟩ := h.bound c y hc
    exact ⟨(hreg y).mpr (Or.inl hy), hrest⟩
  · rw [AVSessionService.withUsers_users, hitems]
    rcases (hreg y).mp hy with hy | ⟨rfl, hroom⟩
    · exact h.held y hy p c
    · have hnot := (hkeeps.resolve_left (Nat.not_le.mpr hroom)).2.2.1
      rw [hlive.2, ExtTreeMap.getElem?_empty]
      refine iff_of_false (by simp) ?_
      rintro ⟨-, hc⟩
      exact hnot (h.bound c y hc).1

/-- The session that was just allocated is registered. -/
theorem addNewSession (h : BookInv s) (uid : Uid) (type : SessionType) (bundleName : String)
    (hok : s.users.stackForAll.sessions.size ≥ SESSION_NUM_MAX ∨
      s.users.stackForAll.sessions[(⟨pid, abilityName⟩ : SessionKey)]? = none) :
    BookInv ((s.createNewSession pid uid type bundleName abilityName).withUsers
      ((s.createNewSession pid uid type bundleName abilityName).users.addSessionForCurrentUser pid
        abilityName s.nextSession (getUserIdFromCallingUid s.users uid)).1) := by
  have hself := ServiceInv.items_createNewSession s pid uid type bundleName abilityName
    s.nextSession
  rw [if_pos rfl] at hself
  apply (h.createNewSession pid uid type bundleName abilityName).addSession
  · rw [hself]
    exact ⟨rfl, rfl⟩
  · refine hok.imp_right fun hfree => ⟨hfree, Nat.lt_succ_self _,
      fun hx => lt_irrefl _ (h.fresh _ hx), ?_, ?_⟩
    · rw [hself]
      exact (effectiveUser_getUserIdFromCallingUid s.users uid).symm
    · unfold itemKey
      rw [hself]
      rfl

/-- The session of the broker gets another ability. -/
theorem checkAndUpdateAncoMediaSession (h : BookInv s) (bundleName : String)
    (hok : BrokerOk s uid abilityName) :
    BookInv (s.checkAndUpdateAncoMediaSession uid bundleName abilityName) := by
  unfold AVSessionService.checkAndUpdateAncoMediaSession
  split_ifs with huid
  · exact h
  · cases hfind : s.containerOfCaller.getSessionByUid s.users.items uid with
    | none => exact h
    | some x =>
        obtain ⟨hcur, hnew⟩ := hok (not_not.mp huid) x hfind
        have hx := h.registered_of_mem_containerOfCaller (List.mem_of_find?_eq_some hfind)
        have hk := h.registry.getElem?_itemKey hx
        have hreg := fun y => h.registry.partition.registered_updateForCurrentUser (y := y) hk hnew
        have hitems := s.users.updateSessionForCurrentUser_items (s.users.items x).pid
          (s.users.items x).abilityName x abilityName
        have hcode : (s.users.updateSessionForCurrentUser (s.users.items x).pid
            (s.users.items x).abilityName abilityName x).2 = .success := by
          rw [h.registry.partition.updateForCurrentUser_of_some hk]
        dsimp only
        rw [hcode, if_neg (by decide), hitems]
        refine h.withUsers (h.registry.updateElement bundleName hx hcur hnew)
          ⟨⟨fun y hy => (hreg y).mp hy, fun y => ?_, fun y => ?_⟩, fun y hy => (hreg y).mpr hy⟩
        · rw [UsersManager.withItem_items, hitems]
          split_ifs with hy
          · rw [hy]
          · rfl
        · rw [UsersManager.withItem_items, hitems]
          split_ifs with hy
          · rw [hy]
          · rfl

/-- A creation under a free key keeps the invariant. -/
theorem createSessionForCaller (h : BookInv s) (type : SessionType)
    (hok : KeyFree s pid uid elementName sessionElement) :
    BookInv (s.createSessionForCaller pid uid type elementName sessionElement).1 := by
  unfold KeyFree at hok
  unfold AVSessionService.createSessionForCaller
  split_ifs with hability
  · rw [if_pos hability] at hok
    exact h.checkAndUpdateAncoMediaSession elementName.bundleName hok
  · rw [if_neg hability] at hok
    have hadd := h.addNewSession uid type sessionElement.bundleName hok
    dsimp only
    split_ifs with hcode
    · exact hadd
    · refine hadd.withUsers ?_ (SameLive.addExtraFrontSession _ _ type)
      unfold addExtraFrontSession
      split_ifs
      · exact hadd.registry.setFront _ _
      · exact hadd.registry

/-- A session that is created is registered. -/
theorem registered_createSessionForCaller (h : BookInv s) (type : SessionType)
    (hok : KeyFree s pid uid elementName sessionElement) {s' : AVSessionService}
    (hx : s.createSessionForCaller pid uid type elementName sessionElement = (s', some x)) :
    s'.users.Registered x := by
  unfold KeyFree at hok
  unfold AVSessionService.createSessionForCaller at hx
  split_ifs at hx with hability
  · simp at hx
  · rw [if_neg hability] at hok
    dsimp only at hx
    split_ifs at hx with hcode
    · simp at hx
    · simp only [Prod.mk.injEq, Option.some.injEq] at hx
      obtain ⟨rfl, rfl⟩ := hx
      refine (SameLive.addExtraFrontSession _ _ type).kept _ ?_
      exact registered_of_success (h.createNewSession pid uid type sessionElement.bundleName
        sessionElement.abilityName).registry.partition hok (not_not.mp hcode)

/-- The push of CreateSessionByCast keeps the invariant. -/
theorem pushFront (h : BookInv s) (x : SessionRef) (userId : UserId) :
    BookInv (s.withUsers (AVSessionService.pushFront s.users x userId)) := by
  unfold AVSessionService.pushFront
  split_ifs
  · exact h
  · exact h.withUsers (h.registry.setFront _ _) (SameLive.setFront _ _ _)

/-- A registered session is moved to another user. -/
theorem userChange (h : BookInv s) (hx : s.users.Registered x) (userId : UserId) :
    BookInv (s.withUsers
      (s.users.updateSessionForUserChange (s.users.items x).userId userId (some x)).1) := by
  have hkeeps : Partition.UserChangeKeeps s.users (s.users.items x).userId userId x := by
    refine ⟨fun _ => ⟨rfl, fun y hy => ?_⟩, fun hx' => absurd hx hx'⟩
    rw [h.registry.getElem?_itemKey hx, Option.some.injEq] at hy
    exact hy.symm
  have hreg := fun y => h.registry.partition.registered_userChange_iff (y := y) h.registry.ids
    hkeeps
  have hitems := s.users.updateSessionForUserChange_items x (s.users.items x).userId userId
  refine h.withUsers (h.registry.userChange hkeeps) ⟨⟨fun y hy => ?_, fun y => ?_, fun y => ?_⟩,
    fun y hy => ?_⟩
  · rcases (hreg y).mp hy with ⟨hy, -⟩ | ⟨rfl, -⟩
    · exact hy
    · exact hx
  · rw [hitems, UsersManager.setUserId, UsersManager.withItem_items]
    split_ifs with hyx
    · rw [hyx]
    · rfl
  · rw [hitems, UsersManager.setUserId, UsersManager.withItem_items]
    split_ifs with hyx
    · rw [hyx]
    · rfl
  · rw [hreg]
    by_cases hyx : y = x
    · exact Or.inr ⟨hyx, Or.inl hx⟩
    · exact Or.inl ⟨hy, hyx⟩

/-- CreateSessionByCast under a free key keeps the invariant. -/
theorem createSessionByCast (h : BookInv s) (userId : UserId)
    (hok : KeyFree s pid uid castElement castElement) :
    BookInv (s.createSessionByCast pid uid userId) := by
  have hinv := h.createSessionForCaller .audio hok
  unfold AVSessionService.createSessionByCast
  rw [createSessionInner_castElement]
  rcases hr : s.createSessionForCaller pid uid .audio castElement castElement with ⟨s', _ | x⟩
  · rw [hr] at hinv
    exact hinv
  · have hx := h.registered_createSessionForCaller .audio hok hr
    rw [hr] at hinv
    dsimp only at hinv ⊢
    split_ifs
    · exact (hinv.userChange hx userId).pushFront x userId
    · exact hinv.pushFront x userId

end BookInv

end sessions

/-! ## The controllers -/

section controllers

open AVSessionService

variable {s : AVSessionService} {x : SessionRef} {pid : Pid} (c d : ControllerRef)
  (l : List ControllerRef)

/-- Unbinding clears the session of one controller. -/
theorem controllerItems_unbind : (s.unbind c).controllerItems d =
    if d = c then { s.controllerItems d with session := none } else s.controllerItems d := by
  show Function.update s.controllerItems c _ d = _
  rw [Function.update_apply]
  split_ifs with hd
  · rw [hd]
  · rfl

/-- Destroying a controller clears its session and leaves the others. -/
theorem controllerItems_destroyWithoutReply : (s.destroyWithoutReply c).controllerItems d =
    if d = c then { s.controllerItems d with session := none } else s.controllerItems d := by
  unfold destroyWithoutReply
  cases hc : (s.controllerItems c).session with
  | none =>
      dsimp only
      split_ifs with hd
      · subst hd
        rw [← hc]
      · rfl
  | some x => exact controllerItems_unbind c d

/-- Destroying a controller leaves the service's table to the caller. -/
theorem controllers_destroyWithoutReply : (s.destroyWithoutReply c).controllers = s.controllers := by
  unfold destroyWithoutReply
  cases (s.controllerItems c).session <;> rfl

/-- So does destroying a list of them. -/
theorem controllers_foldl_destroyWithoutReply (s : AVSessionService) :
    (l.foldl destroyWithoutReply s).controllers = s.controllers := by
  induction l generalizing s with
  | nil => rfl
  | cons c l ih => rw [List.foldl_cons, ih, controllers_destroyWithoutReply]

/-- Destroying a list clears the session of each of its controllers. -/
theorem controllerItems_foldl_destroyWithoutReply (s : AVSessionService) :
    (l.foldl destroyWithoutReply s).controllerItems d =
      if d ∈ l then { s.controllerItems d with session := none } else s.controllerItems d := by
  induction l generalizing s with
  | nil => rfl
  | cons c l ih =>
      rw [List.foldl_cons, ih, controllerItems_destroyWithoutReply]
      by_cases hd : d = c
      · subst hd
        simp
      · simp [hd]

variable {c d}

namespace BindInv

/-- The binding does not depend on the service's table. -/
theorem withTable (h : BindInv s) (controllers : ControllerTable) :
    BindInv { s with controllers := controllers } :=
  ⟨h.registry, h.fresh, h.alive, h.bound, h.held⟩

/-- Other controller items, and another map for the session `x`. -/
theorem rebind (h : BindInv s) {controllerItems : ControllerRef → AVControllerItem}
    {nextController : ControllerRef} {x : SessionRef} {controllers : ControllerMap}
    (hbound : ∀ c y, (controllerItems c).session = some y → s.users.Registered y ∧
      c < nextController ∧ (controllerItems c).hasServiceCallback = true)
    (hheld : ∀ y, s.users.Registered y → ∀ pid c,
      (if y = x then controllers else (s.users.items y).controllers)[pid]? = some c ↔
        (controllerItems c).pid = pid ∧ (controllerItems c).session = some y) :
    BindInv
      ({ s with controllerItems := controllerItems, nextController := nextController }.setControllers
        x controllers) := by
  refine ⟨?_, h.fresh, fun y hy => ?_, hbound, fun y hy => ?_⟩
  · exact h.registry.withItem x rfl (fun _ => rfl) fun _ => ⟨rfl, rfl⟩
  · rw [setControllers_isDestroyed]
    exact h.alive y hy
  · rw [setControllers_controllers]
    exact hheld y hy

/-- The entry of a bound controller is its own, so the map of the session loses that controller and
no other. -/
theorem destroyWithoutReply (h : BindInv s) (c : ControllerRef) :
    BindInv (s.destroyWithoutReply c) := by
  unfold AVSessionService.destroyWithoutReply
  cases hc : (s.controllerItems c).session with
  | none => exact h
  | some x =>
      have hitems := fun d => controllerItems_unbind (s := s) c d
      refine rebind h (fun d y hd => ?_) fun y hy p d => ?_
      · have hd' : ((s.unbind c).controllerItems d).session = some y := hd
        show s.users.Registered y ∧ d < s.nextController ∧
          ((s.unbind c).controllerItems d).hasServiceCallback = true
        rw [hitems] at hd' ⊢
        split_ifs at hd' ⊢
        exact h.bound d y hd'
      · show (if y = x then (s.users.items x).controllers.erase (s.controllerItems c).pid
          else (s.users.items y).controllers)[p]? = some d ↔
            ((s.unbind c).controllerItems d).pid = p ∧
              ((s.unbind c).controllerItems d).session = some y
        rw [hitems]
        have hown : (s.users.items x).controllers[(s.controllerItems c).pid]? = some c :=
          (h.held x (h.bound c x hc).1 _ c).mpr ⟨rfl, hc⟩
        have hheld := h.held y hy p d
        by_cases hdc : d = c
        · subst hdc
          rw [if_pos rfl]
          refine iff_of_false ?_ (by simp)
          split_ifs with hyx
          · rw [getElem?_erase]
            split_ifs with hp
            · simp
            · rw [← hyx, hheld]
              exact fun hd => hp hd.1
          · rw [hheld, hc]
            exact fun hd => hyx (Option.some.inj hd.2).symm
        · rw [if_neg hdc, ← hheld]
          split_ifs with hyx
          · subst hyx
            rw [getElem?_erase]
            split_ifs with hp
            · rw [← hp, hown]
              exact iff_of_false (by simp) fun hd => hdc (Option.some.inj hd).symm
            · exact Iff.rfl
          · exact Iff.rfl

/-- Destroying a list of controllers keeps the binding. -/
theorem foldl_destroyWithoutReply (h : BindInv s) :
    BindInv (l.foldl AVSessionService.destroyWithoutReply s) := by
  induction l generalizing s with
  | nil => exact h
  | cons c l ih => exact ih (h.destroyWithoutReply c)

/-- A new controller is bound to a session that has none of that client. -/
theorem bindNew (h : BindInv s) (hx : s.users.Registered x)
    (hfree : (s.users.items x).controllers[pid]? = none) :
    BindInv ((s.newController pid x true).addController x pid s.nextController) := by
  have hnew : ∀ y, (s.controllerItems s.nextController).session ≠ some y := fun y hy =>
    lt_irrefl _ (h.bound _ y hy).2.1
  refine rebind h (fun c y hc => ?_) fun y hy p c => ?_
  · show _ ∧ c < s.nextController + 1 ∧ _
    rw [Function.update_apply] at hc ⊢
    split_ifs at hc ⊢ with hcn
    · obtain rfl : x = y := Option.some.inj hc
      exact ⟨hx, hcn ▸ Nat.lt_succ_self _, rfl⟩
    · obtain ⟨hy, hlt, hcallback⟩ := h.bound c y hc
      exact ⟨hy, hlt.trans (Nat.lt_succ_self _), hcallback⟩
  · have hheld := h.held y hy p c
    show (if y = x then (s.users.items x).controllers.insertIfNew pid s.nextController
      else (s.users.items y).controllers)[p]? = some c ↔ _
    rw [Function.update_apply]
    by_cases hcn : c = s.nextController
    · subst hcn
      rw [if_pos rfl]
      have hnot : (s.users.items y).controllers[p]? ≠ some s.nextController := by
        rw [Ne, hheld]
        exact fun hc => hnew y hc.2
      split_ifs with hyx
      · subst hyx
        rw [getElem?_insertIfNew_of_none hfree]
        split_ifs with hp
        · simp [hp]
        · exact iff_of_false hnot fun hc => hp hc.1
      · exact iff_of_false hnot fun hc => hyx (Option.some.inj hc.2).symm
    · rw [if_neg hcn, ← hheld]
      split_ifs with hyx
      · subst hyx
        rw [getElem?_insertIfNew_of_none hfree]
        split_ifs with hp
        · rw [← hp, hfree]
          exact iff_of_false (fun hc => hcn (Option.some.inj hc).symm) (by simp)
        · exact Iff.rfl
      · exact Iff.rfl

end BindInv

/-- The table once some controllers are removed from it. -/
theorem mem_removeControllersNoLock (s : AVSessionService) :
    d ∈ listAt (s.removeControllersNoLock l).controllers pid ↔
      d ∈ listAt s.controllers pid ∧ ¬ (d ∈ l ∧ (s.controllerItems d).pid = pid) := by
  unfold removeControllersNoLock
  induction l generalizing s with
  | nil => simp
  | cons c l ih =>
      rw [List.foldl_cons, ih]
      show d ∈ listAt (removeFrom s.controllers (s.controllerItems c).pid c) pid ∧
        ¬ (d ∈ l ∧ (s.controllerItems d).pid = pid) ↔ _
      rw [mem_listAt_removeFrom, and_assoc, ← not_or, List.mem_cons, or_and_right]
      have hcd : (s.controllerItems c).pid = pid ∧ d = c ↔
          d = c ∧ (s.controllerItems d).pid = pid := by
        rw [and_comm]
        refine and_congr_right fun hd => ?_
        rw [hd]
      rw [hcd]

/-- Removing controllers leaves lists without repetition. -/
theorem nodup_removeControllersNoLock (s : AVSessionService)
    (h : ∀ pid, (listAt s.controllers pid).Nodup) (pid : Pid) :
    (listAt (s.removeControllersNoLock l).controllers pid).Nodup := by
  unfold removeControllersNoLock
  induction l generalizing s with
  | nil => exact h pid
  | cons c l ih => exact ih (s.handleControllerRelease c) (nodup_removeFrom h)

/-- Removing controllers leaves no empty list behind. -/
theorem noEmpty_removeControllersNoLock (s : AVSessionService) (h : NoEmpty s.controllers) :
    NoEmpty (s.removeControllersNoLock l).controllers := by
  unfold removeControllersNoLock
  induction l generalizing s with
  | nil => exact h
  | cons c l ih => exact ih (s.handleControllerRelease c) h.removeFrom

/-- Removing controllers creates none. -/
theorem removeControllersNoLock_nextController (s : AVSessionService) :
    (s.removeControllersNoLock l).nextController = s.nextController := by
  unfold removeControllersNoLock
  induction l generalizing s with
  | nil => rfl
  | cons c l ih => exact ih (s.handleControllerRelease c)

/-- Unbinding controllers creates none. -/
theorem foldl_unbind_nextController (s : AVSessionService) :
    (l.foldl unbind s).nextController = s.nextController := by
  induction l generalizing s with
  | nil => rfl
  | cons c l ih => exact ih (s.unbind c)

/-- What `DestroyTask` of `x` leaves: the controllers of `l`, those of the session, are unbound, and
no other. -/
structure TaskDone (s s' : AVSessionService) (x : SessionRef) (l : List ControllerRef) : Prop where
  users : s'.users = s.users.withItem x (destroyedItem (s.users.items x))
  controllers : s'.controllers = s.controllers
  nextSession : s'.nextSession = s.nextSession
  nextController : s'.nextController = s.nextController
  session : ∀ c y, (s'.controllerItems c).session = some y ↔
    (s.controllerItems c).session = some y ∧ y ≠ x
  pid : ∀ c, (s'.controllerItems c).pid = (s.controllerItems c).pid
  callback : ∀ c, (s'.controllerItems c).hasServiceCallback =
    (s.controllerItems c).hasServiceCallback
  destroyed : ∀ c, c ∈ l ↔ (s.controllerItems c).session = some x

namespace BookInv

/-- CreateControllerInner keeps the invariant. -/
theorem createControllerInner (h : BookInv s) (sessionId : String) (pid : Pid) (uid : Uid) :
    BookInv (s.createControllerInner sessionId pid uid) := by
  unfold AVSessionService.createControllerInner
  cases hfind : (s.containerOfClient uid).getSessionById s.users.items sessionId with
  | none => exact h
  | some x =>
      dsimp only
      split_ifs with hpresent
      · exact h
      · have hx := registered_of_mem_containerOfClient h.registry.partition
          (List.mem_of_find?_eq_some hfind)
        -- a controller of that client would be in the table, and present
        have hfree : (s.users.items x).controllers[pid]? = none := by
          rw [Option.eq_none_iff_forall_ne_some]
          intro c hc
          obtain ⟨hcpid, hsession⟩ := (h.held x hx pid c).mp hc
          have hmem : c ∈ listAt s.controllers pid := (h.listed pid c).mpr ⟨hcpid, x, hsession⟩
          apply hpresent
          rw [getPresentController, List.find?_isSome]
          refine ⟨c, hmem, ?_⟩
          rw [hsession]
          have hid := List.find?_some hfind
          exact hid
        have hnew : ∀ y, (s.controllerItems s.nextController).session ≠ some y := fun y hy =>
          lt_irrefl _ (h.bound _ y hy).2.1
        have hnot : ∀ p, s.nextController ∉ listAt s.controllers p := by
          intro p hp
          obtain ⟨-, y, hy⟩ := (h.listed p _).mp hp
          exact hnew y hy
        refine ⟨(h.toBindInv.bindNew hx hfree).withTable _, ⟨fun p c => ?_, fun p => ?_, ?_⟩⟩
        · show c ∈ listAt (push s.controllers pid s.nextController) p ↔
            (Function.update s.controllerItems s.nextController ⟨pid, some x, true⟩ c).pid = p ∧
              ∃ y, (Function.update s.controllerItems s.nextController
                ⟨pid, some x, true⟩ c).session = some y
          rw [mem_listAt_push, Function.update_apply]
          split_ifs with hcn
          · simp [hcn, hnot]
          · simp [hcn, h.listed]
        · show (listAt (push s.controllers pid s.nextController) p).Nodup
          rw [listAt_push]
          split_ifs
          · refine (h.nodup pid).append (List.nodup_singleton _) ?_
            simpa using hnot pid
          · exact h.nodup p
        · exact h.noEmpty.push

/-- DestroyController keeps the invariant. -/
theorem destroyController (h : BookInv s) (c : ControllerRef) : BookInv (s.destroyController c) := by
  unfold AVSessionService.destroyController
  split_ifs with _ hcallback
  · exact h
  · refine ⟨(h.toBindInv.withTable _).destroyWithoutReply c, ⟨fun p d => ?_, fun p => ?_, ?_⟩⟩
    · rw [controllers_destroyWithoutReply, controllerItems_destroyWithoutReply]
      show d ∈ listAt (removeFrom s.controllers (s.controllerItems c).pid c) p ↔
        (if d = c then { s.controllerItems d with session := none }
          else s.controllerItems d).pid = p ∧ _
      rw [mem_listAt_removeFrom, h.listed]
      by_cases hd : d = c
      · rw [if_pos hd, hd]
        refine iff_of_false (fun hc => hc.2 ⟨hc.1.1, rfl⟩) ?_
        simp
      · simp [hd, handleControllerRelease]
    · rw [controllers_destroyWithoutReply]
      exact nodup_removeFrom h.nodup p
    · rw [controllers_destroyWithoutReply]
      exact h.noEmpty.removeFrom
  · -- a controller without the callback has no session
    have hnone : (s.controllerItems c).session = none := by
      rw [Option.eq_none_iff_forall_ne_some]
      exact fun x hx => hcallback (h.bound c x hx).2.2
    unfold AVSessionService.destroyWithoutReply
    rw [hnone]
    exact h

/-- The death of a client's controllers keeps the invariant. -/
theorem clearControllerForClientDied (h : BookInv s) (pid : Pid) :
    BookInv (s.clearControllerForClientDied pid) := by
  unfold AVSessionService.clearControllerForClientDied
  cases hl : s.controllers[pid]? with
  | none => exact h
  | some l =>
      have hmem : ∀ d, d ∈ l ↔ (s.controllerItems d).pid = pid ∧
          ∃ x, (s.controllerItems d).session = some x := by
        intro d
        rw [← h.listed, listAt_of_some hl]
      have hmoved := h.toBindInv.withTable (s.controllers.insert pid [])
      have hbind := hmoved.foldl_destroyWithoutReply l
      have htable := controllers_foldl_destroyWithoutReply l
        { s with controllers := s.controllers.insert pid [] }
      have hitems := fun d => controllerItems_foldl_destroyWithoutReply d l
        { s with controllers := s.controllers.insert pid [] }
      dsimp only
      generalize l.foldl AVSessionService.destroyWithoutReply
        { s with controllers := s.controllers.insert pid [] } = s' at *
      have hpresent : pid ∈ s'.controllers := by
        rw [htable]
        exact ExtTreeMap.mem_insert_self
      rw [if_pos hpresent, htable]
      -- the pid is gone, and its controllers are unbound
      have hget : ∀ p : Pid, ((s.controllers.insert pid []).erase pid)[p]? =
          if pid = p then none else s.controllers[p]? := by
        intro p
        rw [getElem?_erase, getElem?_insert]
        split_ifs <;> rfl
      have hlist : ∀ p, listAt ((s.controllers.insert pid []).erase pid) p =
          if pid = p then [] else listAt s.controllers p := by
        intro p
        unfold listAt
        rw [hget]
        split_ifs <;> rfl
      refine ⟨hbind.withTable _, ⟨fun p d => ?_, fun p => ?_, fun p hp => ?_⟩⟩
      · show d ∈ listAt _ p ↔ (s'.controllerItems d).pid = p ∧
          ∃ x, (s'.controllerItems d).session = some x
        rw [hlist, hitems]
        by_cases hd : d ∈ l
        · rw [if_pos hd]
          refine iff_of_false ?_ (by simp)
          split_ifs with hp
          · simp
          · rw [h.listed]
            exact fun hc => hp (((hmem d).mp hd).1.symm.trans hc.1)
        · rw [if_neg hd]
          split_ifs with hp
          · refine iff_of_false (by simp) fun hc => hd ((hmem d).mpr ?_)
            exact ⟨hc.1.trans hp.symm, hc.2⟩
          · exact h.listed p d
      · show (listAt _ p).Nodup
        rw [hlist]
        split_ifs
        · exact List.nodup_nil
        · exact h.nodup p
      · have hp' : ((s.controllers.insert pid []).erase pid)[p]? = some [] := hp
        rw [hget] at hp'
        split_ifs at hp'
        exact h.noEmpty p hp'

/-- `DestroyTask` of a registered session. -/
theorem taskDone (h : BookInv s) (hx : s.users.Registered x) :
    TaskDone s (s.destroyTask x).1 x (s.destroyTask x).2 := by
  have hl : ∀ c, c ∈ vals (s.users.items x).controllers ↔
      (s.controllerItems c).session = some x := by
    intro c
    simp only [mem_vals, h.held x hx]
    constructor
    · rintro ⟨_, _, hc⟩
      exact hc
    · exact fun hc => ⟨_, rfl, hc⟩
  unfold destroyTask
  rw [h.alive x hx, if_neg Bool.false_ne_true]
  have hitems := fun c => foldl_unbind_controllerItems (vals (s.users.items x).controllers) c
    (s.withUsers (s.users.withItem x (destroyedItem (s.users.items x))))
  refine ⟨foldl_unbind_users _ _, foldl_unbind_controllers _ _,
    foldl_unbind_nextSession _ _,
    foldl_unbind_nextController _ _, fun c y => ?_, fun c => ?_, fun c => ?_, hl⟩
  · rw [hitems]
    show (if c ∈ _ then { s.controllerItems c with session := none }
      else s.controllerItems c).session = some y ↔ _
    split_ifs with hc
    · rw [hl] at hc
      simp [hc, eq_comm]
    · rw [hl] at hc
      exact ⟨fun hy => ⟨hy, fun hyx => hc (hyx ▸ hy)⟩, And.left⟩
  · rw [hitems]
    split_ifs <;> rfl
  · rw [hitems]
    split_ifs <;> rfl

/-- `DestroyTask` changes nothing that an election looks at, but that its session is not cast any
more. -/
theorem frontSound_destroyedItem {u : UserId} (hf : FrontSound s.users u) (x : SessionRef) :
    FrontSound (s.users.withItem x (destroyedItem (s.users.items x))) u := by
  intro y hy
  refine (hf y hy).imp_right fun hleft => ?_
  unfold Left at hleft ⊢
  rw [UsersManager.withItem_items]
  split_ifs with hyx
  · rw [hyx] at hleft
    exact ⟨hleft.1, rfl⟩
  · exact hleft

/-- What a release leaves of the registry, from its `DestroyTask` on. -/
theorem gone_handleSessionRelease (h : BookInv s) {sessionId : String} (o : Oracle)
    (hfind : s.users.stackForAll.getSessionById s.users.items sessionId = some x)
    (hf : FrontSound s.users (s.users.items x).userId) :
    Gone (s.users.withItem x (destroyedItem (s.users.items x)))
      (s.handleSessionRelease o sessionId).users x := by
  have hself : (s.users.withItem x (destroyedItem (s.users.items x))).items x =
      destroyedItem (s.users.items x) := by
    rw [UsersManager.withItem_items, if_pos rfl]
  rw [handleSessionRelease_of_some hfind, removeControllersNoLock_users,
    AVSessionService.withUsers_users, (h.taskDone (h.registered_of_getSessionById hfind)).users]
  apply RegistryInv.releaseUsers
  · exact h.registry.withItem x rfl (fun _ => rfl) fun _ => ⟨rfl, rfl⟩
  · exact h.registered_of_getSessionById hfind
  · rw [hself]
    exact frontSound_destroyedItem hf x
  · rw [hself]
    rfl

/-- The release of an unknown session does nothing. -/
theorem handleSessionRelease_of_none {o : Oracle} {sessionId : String}
    (hfind : s.users.stackForAll.getSessionById s.users.items sessionId = none) :
    s.handleSessionRelease o sessionId = s := by
  unfold AVSessionService.handleSessionRelease
  rw [UsersManager.getContainerFromAll, hfind]

/-- HandleSessionRelease keeps the invariant where the front lists are sound. -/
theorem handleSessionRelease (h : BookInv s) (o : Oracle) {sessionId : String}
    (hf : ∀ x, s.users.stackForAll.getSessionById s.users.items sessionId = some x →
      FrontSound s.users (s.users.items x).userId) :
    BookInv (s.handleSessionRelease o sessionId) := by
  cases hfind : s.users.stackForAll.getSessionById s.users.items sessionId with
  | none =>
      rw [handleSessionRelease_of_none hfind]
      exact h
  | some x =>
      have hgone := h.gone_handleSessionRelease o hfind (hf x hfind)
      have ht := h.taskDone (h.registered_of_getSessionById hfind)
      rw [handleSessionRelease_of_some hfind] at hgone ⊢
      generalize (s.destroyTask x).1 = s' at *
      generalize (s.destroyTask x).2 = l at *
      rw [removeControllersNoLock_users, AVSessionService.withUsers_users] at hgone
      generalize releaseUsers s'.users o x s.controlBundleNameSet = m' at *
      have hreg : ∀ y, m'.Registered y ↔ s.users.Registered y ∧ y ≠ x := hgone.registered
      have hother : ∀ y, y ≠ x → ∃ b, m'.items y = { s.users.items y with isTop := b } := by
        intro y hy
        obtain ⟨b, hb⟩ := hgone.items y
        rw [UsersManager.withItem_items, if_neg hy] at hb
        exact ⟨b, hb⟩
      refine ⟨⟨?_, fun y hy => ?_, fun y hy => ?_, fun c y hc => ?_, fun y hy p c => ?_⟩,
        ⟨fun p c => ?_, fun p => ?_, ?_⟩⟩
      · rw [removeControllersNoLock_users]
        exact hgone.registry
      · rw [removeControllersNoLock_users] at hy
        rw [removeControllersNoLock_nextSession]
        show y < s'.nextSession
        rw [ht.nextSession]
        exact h.fresh y ((hreg y).mp hy).1
      · rw [removeControllersNoLock_users] at hy ⊢
        obtain ⟨hy, hyx⟩ := (hreg y).mp hy
        obtain ⟨b, hb⟩ := hother y hyx
        show (m'.items y).isDestroyed = false
        rw [hb]
        exact h.alive y hy
      · rw [removeControllersNoLock_controllerItems] at hc ⊢
        rw [removeControllersNoLock_users, removeControllersNoLock_nextController]
        obtain ⟨hc, hyx⟩ := (ht.session c y).mp hc
        obtain ⟨hy, hlt, hcallback⟩ := h.bound c y hc
        refine ⟨(hreg y).mpr ⟨hy, hyx⟩, ht.nextController.symm ▸ hlt, ?_⟩
        exact (ht.callback c).trans hcallback
      · rw [removeControllersNoLock_users] at hy ⊢
        rw [removeControllersNoLock_controllerItems]
        obtain ⟨hy, hyx⟩ := (hreg y).mp hy
        obtain ⟨b, hb⟩ := hother y hyx
        show (m'.items y).controllers[p]? = some c ↔
          (s'.controllerItems c).pid = p ∧ (s'.controllerItems c).session = some y
        rw [hb, h.held y hy, ht.pid, ht.session]
        simp [hyx]
      · rw [mem_removeControllersNoLock, removeControllersNoLock_controllerItems]
        show c ∈ listAt s'.controllers p ∧ ¬ (c ∈ l ∧ (s'.controllerItems c).pid = p) ↔
          (s'.controllerItems c).pid = p ∧ ∃ y, (s'.controllerItems c).session = some y
        simp only [ht.controllers, h.listed, ht.pid, ht.session, ht.destroyed]
        constructor
        · rintro ⟨⟨hcp, y, hy⟩, hnot⟩
          refine ⟨hcp, y, hy, ?_⟩
          rintro rfl
          exact hnot ⟨hy, hcp⟩
        · rintro ⟨hcp, y, hy, hyx⟩
          refine ⟨⟨hcp, y, hy⟩, fun hc => hyx ?_⟩
          rw [hy] at hc
          exact Option.some.inj hc.1
      · refine nodup_removeControllersNoLock l _ (fun q => ?_) p
        show (listAt s'.controllers q).Nodup
        rw [ht.controllers]
        exact h.nodup q
      · apply noEmpty_removeControllersNoLock
        show NoEmpty s'.controllers
        rw [ht.controllers]
        exact h.noEmpty

end BookInv

end controllers

/-! ## Runs -/

section runs

open AVSessionService

/-- The condition on a call. A session is created under a key that is free for all users; where
another top session is looked for, no session that is gone could be elected; a session makes no
controller for its own process, which the service would not know; and a removed user has no session
with a controller. -/
def ServiceOp.BookOk (s : AVSessionService) : ServiceOp → Prop
  | createSessionInner tag pid uid _ elementName sessionElement =>
      KeyFree (s.refreshed tag uid elementName) pid uid elementName sessionElement
  | createSessionByCast pid uid _ => KeyFree s pid uid castElement castElement
  | updateSession _ sessionId isAdd userId =>
      isAdd = false → ∀ x, (s.users.getContainerFromUser
        (getTargetUserId s.users userId)).getSessionById s.users.items sessionId = some x →
          FrontSound s.users (s.users.items x).userId
  | handleOtherSessionPlaying _ userId => FrontSound s.users userId
  | userRemoved userId => ∀ c x, (s.controllerItems c).session = some x →
      (s.users.items x).userId ≠ userId
  | getControllerInner x => (s.users.items x).pid ∈ (s.users.items x).controllers
  | handleSessionRelease _ sessionId =>
      ∀ x, s.users.stackForAll.getSessionById s.users.items sessionId = some x →
        FrontSound s.users (s.users.items x).userId
  | _ => True

/-- Every operation keeps the invariant under its own condition. -/
theorem BookInv.step {s : AVSessionService} (h : BookInv s) (op : ServiceOp) (hok : op.BookOk s) :
    BookInv (op.step s) := by
  cases op with
  | createSessionInner tag pid uid type elementName sessionElement =>
      exact (h.refreshed tag uid elementName).createSessionForCaller type hok
  | createSessionByCast pid uid userId => exact h.createSessionByCast userId hok
  | updateSession o sessionId isAdd userId => exact h.updateSession hok o
  | updateControlList bundleNames =>
      exact ⟨⟨h.registry, h.fresh, h.alive, h.bound, h.held⟩, ⟨h.listed, h.nodup, h.noEmpty⟩⟩
  | addKeyEvent sessionId => exact h.addKeyEvent sessionId
  | updateTopSession sessionId userId =>
      apply h.withSession (f := fun m x => AvSession.Service.updateTopSession m userId (some x))
      exact fun x _ => onlyTop_updateTopSession _ _ _
  | updateOrder sessionId =>
      apply h.withSession
      exact fun x hx => onlyTop_updateOrder h.registry hx
  | handleOtherSessionPlaying o userId =>
      rcases step_handleOtherSessionPlaying_cases s o userId with hsame | ⟨x, hx, hplays⟩
      · rw [hsame]
        exact h
      · rw [hplays]
        exact h.handleOtherSessionPlaying hok hx
  | userSwitched userId => exact h.userSwitched userId
  | userRemoved userId => exact h.userRemoved hok
  | createControllerInner sessionId pid uid => exact h.createControllerInner sessionId pid uid
  | getControllerInner x =>
      show BookInv (if x < s.nextSession then s.getControllerInner x else s)
      have hown : s.getControllerInner x = s := if_pos hok
      rw [hown, ite_self]
      exact h
  | destroyController c => exact h.destroyController c
  | clearControllerForClientDied pid => exact h.clearControllerForClientDied pid
  | setCastProxy x hasCastProxy =>
      refine h.withUsers (h.registry.withItem x rfl (fun _ => rfl) fun _ => ⟨rfl, rfl⟩)
        ⟨⟨fun _ hy => hy, fun y => ?_, fun y => ?_⟩, fun _ hy => hy⟩
      · rw [UsersManager.withItem_items]
        split_ifs with hy
        · rw [hy]
        · rfl
      · rw [UsersManager.withItem_items]
        split_ifs with hy
        · rw [hy]
        · rfl
  | handleSessionRelease o sessionId => exact h.handleSessionRelease o hok

/-- **The bookkeeping of the controllers.** From the start of the service, in every run whose calls
meet the condition, the service, the sessions and the controllers agree in every state, whatever
controllers are created and destroyed, sessions released and clients die. -/
theorem bookkeeping_always (items : Items) (userId : UserId) (controlBundleNameSet : List String)
    (carFeature : Bool) (hinj : DistinctIds items) (ops : List ServiceOp)
    (hops : Meets (fun s op => ServiceOp.step s op) (fun s op => op.BookOk s)
      (init items userId controlBundleNameSet carFeature) ops) :
    Always (fun s op => ServiceOp.step s op) Bookkeeping
      (init items userId controlBundleNameSet carFeature) ops :=
  (always_of_meets (P := BookInv) (fun _ op h hok => h.step op hok)
    (BookInv.init hinj userId controlBundleNameSet carFeature) hops).mono fun _ h => h.bookkeeping

/-- Two clients have controllers of a session; one destroys its own, the other dies, and the session
is released. -/
theorem bookkeeping_of_two_clients :
    Always (fun s op => ServiceOp.step s op) Bookkeeping (init (numberedItems 100) 100 [] false)
      [.createSessionInner "song" 1 20000000 .audio music music,
        .updateSession silent "" true 100, .createControllerInner "" 2 20000000,
        .createControllerInner "" 3 20000000, .destroyController 0,
        .clearControllerForClientDied 3, .handleSessionRelease silent ""] := by
  apply bookkeeping_always _ _ _ _ (distinctIds_numberedItems 100)
  refine ⟨Or.inr (by decide), nofun, trivial, trivial, trivial, trivial, ?_, trivial⟩
  -- the session itself is all that the front list has
  intro x hx y hy
  obtain rfl : 0 = x := Option.some.inj ((by decide : _ = some 0).symm.trans hx)
  have hy' : y ∈ [0] := hy
  obtain rfl := List.mem_singleton.mp hy'
  exact Or.inl ⟨⟨1, "a"⟩, by decide⟩

/-- A process of the system creates a session for user 100 and, after a switch, one of the same
ability for user 105. The release of the second takes the first one's entry out of the registry and
leaves its own, so that a client still finds the released session and gets a controller of it. -/
theorem released_session_gets_controller :
    ¬ Always (fun s op => ServiceOp.step s op) Bookkeeping (init (numberedItems 100) 100 [] false)
      [.createSessionInner "song" 1 5557 .audio music music, .userSwitched 105,
        .createSessionInner "song" 1 5557 .audio music music, .handleSessionRelease silent "a",
        .createControllerInner "a" 2 5557] := by
  intro h
  obtain ⟨-, x, hheld, -, hsession⟩ := (h.last.listed 2 0).mp (by decide)
  have hx : some x = some 1 := hsession.symm.trans (by decide)
  obtain rfl := Option.some.inj hx
  exact absurd hheld.1.2 (by decide)

end runs

end AvSession.Service
