import AvSession.Service.Controllers
import AvSession.Service.UsersInv

/-!
# The invariant of the service

* `SameSessions` — the frame of the handlers that only move sessions around.
* `ServiceInv` — the invariant: the lists of the users, no destroyed session in the registry, new
  references are new, and a bound controller is in the map of its session.
* `ServiceInv.createSessionInner`, `ServiceInv.createSessionByCast` — a new session. `CreateOk` and
  `CastOk` are the conditions on the call.
* `ServiceInv.createControllerInner`, `ServiceInv.destroyWithoutReply`, … — a controller comes and
  goes.
-/

namespace AvSession.Service

open Std AvSession.Lib AvSession.Registry AvSession.Lib.OrderedMap

/-! ## Operations that only move sessions -/

section frame

/-- No session joins the registry, none is destroyed, and no session gains or loses a controller. -/
structure SameSessions (m m' : UsersManager) : Prop where
  registered : ∀ x, m'.Registered x → m.Registered x
  isDestroyed : ∀ x, (m'.items x).isDestroyed = (m.items x).isDestroyed
  controllers : ∀ x, (m'.items x).controllers = (m.items x).controllers

namespace SameSessions

variable {m m' m'' : UsersManager}

/-- Two calls that keep the sessions keep them together. -/
theorem trans (h : SameSessions m m') (h' : SameSessions m' m'') : SameSessions m m'' :=
  ⟨fun x hx => h.registered x (h'.registered x hx),
    fun x => (h'.isDestroyed x).trans (h.isDestroyed x),
    fun x => (h'.controllers x).trans (h.controllers x)⟩

/-- The registry shrinks and the items are the same. -/
theorem of_items (hreg : ∀ x, m'.Registered x → m.Registered x) (hitems : m'.items = m.items) :
    SameSessions m m' :=
  ⟨hreg, fun x => by rw [hitems], fun x => by rw [hitems]⟩

/-- A table has the same sessions as itself. -/
theorem refl (m : UsersManager) : SameSessions m m := of_items (fun _ hx => hx) rfl

/-- A call that changes tops only keeps the sessions. -/
theorem of_onlyTop (h : OnlyTop m m') : SameSessions m m' := by
  refine ⟨fun x hx => h.registered.mp hx, fun x => ?_, fun x => ?_⟩
  · obtain ⟨b, hb⟩ := h.items x
    rw [hb]
  · obtain ⟨b, hb⟩ := h.items x
    rw [hb]

variable (m) (o : Oracle) (x : SessionRef) (userId : UserId)

/-- Writing a front list keeps the sessions. -/
theorem setFront (l : List SessionRef) : SameSessions m (setFront m userId l) :=
  of_items (fun _ hx => hx) rfl

/-- The extra push for voice calls keeps the sessions. -/
theorem addExtraFrontSession (type : SessionType) :
    SameSessions m (addExtraFrontSession m x type) := by
  unfold AvSession.Service.addExtraFrontSession
  split_ifs
  · apply setFront
  · apply refl

/-- Entering a key event session keeps the sessions. -/
theorem addKeyEventSession : SameSessions m (addKeyEventSession m x) := by
  unfold AvSession.Service.addKeyEventSession
  split_ifs
  · apply refl
  · exact of_items (fun _ hx => hx) rfl

/-- UpdateFrontSession keeps the sessions. -/
theorem updateFrontSession {m : UsersManager} (h : UsersInv m) (control : List String)
    (isAdd : Bool) : SameSessions m (updateFrontSession m o x control isAdd) := by
  unfold AvSession.Service.updateFrontSession
  split_ifs
  · apply refl
  · apply refl
  · unfold addFrontSession
    dsimp only
    split_ifs
    · apply refl
    · exact (setFront m _ _).trans (of_onlyTop (onlyTop_updateTopSession _ _ _))
    · apply setFront
  · unfold removeFrontSession
    exact (of_onlyTop h.onlyTop_handleTopSessionRelease).trans (setFront _ _ _)

/-- A user switch keeps the sessions. -/
theorem handleUserSwitched : SameSessions m (handleUserSwitched m userId) := by
  have h : SameSessions m (m.handleUserSwitched userId) := of_items (fun _ hx => hx) rfl
  exact h.trans (of_onlyTop (onlyTop_updateTopSession _ _ _))

/-- The broker's refresh of the user keeps the sessions. -/
theorem refreshUserFromAnco (tag : String) (uid : Uid) (elementName : ElementName) :
    SameSessions m (refreshUserFromAnco m tag uid elementName) := by
  rcases refreshUserFromAnco_cases m tag uid elementName with hsame | ⟨u, hswitched⟩
  · rw [hsame]
    exact refl m
  · rw [hswitched]
    exact handleUserSwitched m u

/-- Removing a user keeps the sessions. -/
theorem handleUserRemoved {m : UsersManager} (h : UsersInv m) (userId : UserId) :
    SameSessions m (handleUserRemoved m userId) :=
  of_items
    (fun _ hx => ((h.registry.partition.registered_handleUserRemoved h.registry.ids userId).mp
      hx).1)
    (m.handleUserRemoved_items userId)

end SameSessions

end frame

/-! ## The invariant -/

section invariant

/-- What the handlers keep. -/
structure ServiceInv (s : AVSessionService) : Prop where
  users : UsersInv s.users
  alive : ∀ x, s.users.Registered x → (s.users.items x).isDestroyed = false
  fresh : ∀ x, s.users.Registered x → x < s.nextSession
  bound : ∀ c x, (s.controllerItems c).session = some x →
    x < s.nextSession ∧ (s.users.items x).controllers[(s.controllerItems c).pid]? = some c

namespace ServiceInv

variable {s : AVSessionService} {o : Oracle} {x : SessionRef} {m' : UsersManager}

/-- Empty tables are in order. -/
theorem init {items : Items} (hinj : DistinctIds items) (userId : UserId)
    (controlBundleNameSet : List String) (carFeature : Bool) :
    ServiceInv (AVSessionService.init items userId controlBundleNameSet carFeature) where
  users := UsersInv.init hinj userId
  alive x hx := by
    simp [AVSessionService.init, UsersManager.Registered, UsersManager.init,
      SessionStack.empty] at hx
  fresh x hx := by
    simp [AVSessionService.init, UsersManager.Registered, UsersManager.init,
      SessionStack.empty] at hx
  bound c x hc := by simp [AVSessionService.init] at hc

/-- Tables in order with the same sessions make a service in order. -/
theorem withUsers (h : ServiceInv s) (husers : UsersInv m') (hsame : SameSessions s.users m') :
    ServiceInv (s.withUsers m') where
  users := husers
  alive x hx := by
    show (m'.items x).isDestroyed = false
    rw [hsame.isDestroyed]
    exact h.alive x (hsame.registered x hx)
  fresh x hx := h.fresh x (hsame.registered x hx)
  bound c x hc := by
    show x < s.nextSession ∧ (m'.items x).controllers[(s.controllerItems c).pid]? = some c
    rw [hsame.controllers]
    exact h.bound c x hc

/-- An operation of the users that only changes flags, slots and orders. -/
theorem withOnlyTop (h : ServiceInv s) (husers : UsersInv m') (ht : OnlyTop s.users m') :
    ServiceInv (s.withUsers m') := h.withUsers husers (SameSessions.of_onlyTop ht)

/-- The invariant reads the items, the registry and the bindings, not the table of the
controllers. -/
theorem withControllers (h : ServiceInv s) (controllers : ControllerTable) :
    ServiceInv { s with controllers := controllers } :=
  ⟨h.users, h.alive, h.fresh, h.bound⟩

/-- The session that a container finds by id is one of its sessions. -/
theorem registered_of_getSessionById (h : ServiceInv s) {sessionId : String}
    (hx : s.users.stackForAll.getSessionById s.users.items sessionId = some x) :
    s.users.Registered x :=
  h.users.registry.partition.mem_stack_all.mp (List.mem_of_find?_eq_some hx)

/-- What a user's container holds is registered. -/
theorem registered_of_mem_stackByUser (h : ServiceInv s) {u : UserId}
    (hx : x ∈ (s.users.stackByUser u).stack) : s.users.Registered x :=
  (h.users.registry.partition.mem_stack_user.mp hx).1

/-- Whatever container a handler searches, what it finds is registered. -/
theorem registered_of_mem_containerOfCaller (h : ServiceInv s)
    (hx : x ∈ s.containerOfCaller.stack) : s.users.Registered x := by
  unfold AVSessionService.containerOfCaller at hx
  split_ifs at hx
  · exact h.users.registry.partition.mem_stack_all.mp hx
  · exact h.registered_of_mem_stackByUser hx

end ServiceInv

/-- What a client finds is registered. -/
theorem registered_of_mem_containerOfClient {s : AVSessionService} {x : SessionRef}
    (h : Partition s.users) {uid : Uid} (hx : x ∈ (s.containerOfClient uid).stack) :
    s.users.Registered x := by
  unfold AVSessionService.containerOfClient at hx
  split_ifs at hx
  · exact h.mem_stack_all.mp hx
  · exact (h.mem_stack_user.mp hx).1

end invariant

/-! ## The handlers of the sessions -/

section sessions

variable {s : AVSessionService} {o : Oracle} {pid : Pid} {uid : Uid} {type : SessionType}
  {bundleName abilityName : String} {elementName sessionElement : ElementName} {userId : UserId}

/-- The session of the broker that is found belongs to the current user, and its new ability is its
own or free. -/
def BrokerOk (s : AVSessionService) (uid : Uid) (abilityName : String) : Prop :=
  uid = audioBrokerUid → ∀ x, s.containerOfCaller.getSessionByUid s.users.items uid = some x →
    (s.users.items x).userId = s.users.curUserId ∧
      (abilityName = (s.users.items x).abilityName ∨
        s.users.stackForAll.sessions[(⟨(s.users.items x).pid, abilityName⟩ : SessionKey)]? =
          none)

/-- The condition of `CreateSessionInner` past the switch of the user. Where the ability has a
session already, that of the broker; where it has none, the service is full, or the ability is free
for all users and the user is positive. -/
def CreateOk (s : AVSessionService) (pid : Pid) (uid : Uid)
    (elementName sessionElement : ElementName) : Prop :=
  if s.abilityHasSession pid (getUserIdFromCallingUid s.users uid) then
    BrokerOk s uid elementName.abilityName
  else
    s.users.stackForAll.sessions.size ≥ SESSION_NUM_MAX ∨
      (s.users.stackForAll.sessions[(⟨pid, sessionElement.abilityName⟩ : SessionKey)]? = none ∧
        0 < getUserIdFromCallingUid s.users uid)

/-- The condition of `CreateSessionByCast`: beyond that of `CreateSessionInner`, a new session is
moved to the user of the call, or that user is the one of the caller. -/
def CastOk (s : AVSessionService) (pid : Pid) (uid : Uid) (userId : UserId) : Prop :=
  CreateOk s pid uid AVSessionService.castElement AVSessionService.castElement ∧
    ((s.carFeature ∧ 0 < userId) ∨
      s.users.effectiveUser userId = getUserIdFromCallingUid s.users uid)

/-- The user of a caller is a user already. -/
theorem effectiveUser_getUserIdFromCallingUid (m : UsersManager) (uid : Uid) :
    m.effectiveUser (getUserIdFromCallingUid m uid) = getUserIdFromCallingUid m uid := by
  unfold UsersManager.effectiveUser getUserIdFromCallingUid
  split_ifs <;> rfl

/-- An addition that returns success has registered the session. -/
theorem registered_of_success {m : UsersManager} {x : SessionRef} (h : Partition m)
    (hok : m.stackForAll.sessions.size ≥ SESSION_NUM_MAX ∨
      m.stackForAll.sessions[(⟨pid, abilityName⟩ : SessionKey)]? = none)
    (hcode : (m.addSessionForCurrentUser pid abilityName x userId).2 = .success) :
    (m.addSessionForCurrentUser pid abilityName x userId).1.Registered x := by
  rw [h.registered_addSession hok]
  refine Or.inr ⟨rfl, ?_⟩
  by_contra hfull
  rw [UsersManager.addSessionForCurrentUser_of_full (Nat.not_lt.mp hfull)] at hcode
  exact RetCode.noConfusion hcode

namespace ServiceInv

/-- The next session is registered nowhere yet. -/
theorem not_registered_nextSession (h : ServiceInv s) : ¬ s.users.Registered s.nextSession :=
  fun hx => lt_irrefl _ (h.fresh _ hx)

/-- A new reference is in no list. -/
theorem not_mem_lists_nextSession (h : ServiceInv s) (u : UserId) :
    ¬ (s.nextSession ∈ s.users.frontByUser u ∨ s.nextSession ∈ s.users.keyEventByUser u ∨
      s.users.topByUser u = some s.nextSession) :=
  fun hx => h.not_registered_nextSession (h.users.registered_of_mem hx)

/-- Creating a session writes its own record and no other. -/
theorem items_createNewSession (s : AVSessionService) (pid : Pid) (uid : Uid) (type : SessionType)
    (bundleName abilityName : String) (y : SessionRef) :
    (s.createNewSession pid uid type bundleName abilityName).users.items y =
      if y = s.nextSession then s.newItem pid uid type bundleName abilityName
      else s.users.items y := s.users.withItem_items s.nextSession _ y

/-- A new session with a free key keeps the invariant. -/
theorem createNewSession (h : ServiceInv s) (pid : Pid) (uid : Uid) (type : SessionType)
    (bundleName abilityName : String) :
    ServiceInv (s.createNewSession pid uid type bundleName abilityName) where
  users := by
    show UsersInv (s.users.withItem s.nextSession (s.newItem pid uid type bundleName abilityName))
    apply h.users.withItem s.nextSession
    · rfl
    · exact fun hx => absurd hx h.not_registered_nextSession
    · exact fun hx => absurd hx h.not_registered_nextSession
  alive x hx := by
    rw [items_createNewSession, if_neg (h.fresh x hx).ne]
    exact h.alive x hx
  fresh x hx := (h.fresh x hx).trans (Nat.lt_succ_self _)
  bound c x hc := by
    obtain ⟨hx, hmap⟩ := h.bound c x hc
    rw [items_createNewSession, if_neg hx.ne]
    exact ⟨hx.trans (Nat.lt_succ_self _), hmap⟩

/-- The addition of a session that exists and is alive. -/
theorem addSession (h : ServiceInv s) {x : SessionRef} (hx : x < s.nextSession)
    (halive : (s.users.items x).isDestroyed = false)
    (hkeeps : s.users.stackForAll.sessions.size ≥ SESSION_NUM_MAX ∨
      (s.users.stackForAll.sessions[(⟨pid, abilityName⟩ : SessionKey)]? = none ∧
        ¬ s.users.Registered x ∧ (s.users.items x).userId = s.users.effectiveUser userId ∧
        ⟨pid, abilityName⟩ = itemKey s.users.items x ∧ 0 < (s.users.items x).userId)) :
    ServiceInv
      (s.withUsers (s.users.addSessionForCurrentUser pid abilityName x userId).1) := by
  have hreg : ∀ y, (s.users.addSessionForCurrentUser pid abilityName x userId).1.Registered y →
      s.users.Registered y ∨ y = x := by
    intro y hy
    have hiff := h.users.registry.partition.registered_addSession (y := y) (x := x) (u := userId)
      (hkeeps.imp_right And.left)
    exact (hiff.mp hy).imp_right And.left
  have hitems := s.users.addSessionForCurrentUser_items pid abilityName userId x
  refine ⟨h.users.addSession pid abilityName hkeeps, fun y hy => ?_, fun y hy => ?_,
    fun c y hc => ?_⟩
  · show ((s.users.addSessionForCurrentUser pid abilityName x userId).1.items y).isDestroyed =
      false
    rw [hitems]
    rcases hreg y hy with hy | rfl
    · exact h.alive y hy
    · exact halive
  · rcases hreg y hy with hy | rfl
    · exact h.fresh y hy
    · exact hx
  · show y < s.nextSession ∧ ((s.users.addSessionForCurrentUser pid abilityName x
      userId).1.items y).controllers[(s.controllerItems c).pid]? = some c
    rw [hitems]
    exact h.bound c y hc

/-- The session that was just allocated is registered. -/
theorem addNewSession (h : ServiceInv s) (type : SessionType) (bundleName : String)
    (hok : s.users.stackForAll.sessions.size ≥ SESSION_NUM_MAX ∨
      (s.users.stackForAll.sessions[(⟨pid, abilityName⟩ : SessionKey)]? = none ∧
        0 < getUserIdFromCallingUid s.users uid)) :
    ServiceInv ((s.createNewSession pid uid type bundleName abilityName).withUsers
      ((s.createNewSession pid uid type bundleName abilityName).users.addSessionForCurrentUser pid
        abilityName s.nextSession (getUserIdFromCallingUid s.users uid)).1) := by
  have hself := items_createNewSession s pid uid type bundleName abilityName s.nextSession
  rw [if_pos rfl] at hself
  apply (h.createNewSession pid uid type bundleName abilityName).addSession
  · exact Nat.lt_succ_self _
  · rw [hself]
    rfl
  · refine hok.imp_right fun hok => ⟨hok.1, h.not_registered_nextSession, ?_, ?_, ?_⟩
    · rw [hself]
      exact (effectiveUser_getUserIdFromCallingUid s.users uid).symm
    · unfold itemKey
      rw [hself]
      rfl
    · rw [hself]
      exact hok.2

/-- The session of the broker gets another ability. -/
theorem checkAndUpdateAncoMediaSession (h : ServiceInv s) (hok : BrokerOk s uid abilityName) :
    ServiceInv (s.checkAndUpdateAncoMediaSession uid bundleName abilityName) := by
  unfold AVSessionService.checkAndUpdateAncoMediaSession
  split_ifs with huid
  · exact h
  · cases hfind : s.containerOfCaller.getSessionByUid s.users.items uid with
    | none => exact h
    | some x =>
        obtain ⟨hcur, hnew⟩ := hok (not_not.mp huid) x hfind
        have hx := h.registered_of_mem_containerOfCaller (List.mem_of_find?_eq_some hfind)
        have hk := h.users.registry.getElem?_itemKey hx
        have hreg := fun y => h.users.registry.partition.registered_updateForCurrentUser (y := y)
          hk hnew
        have hinv := h.users.updateElement bundleName hx hcur hnew
        have hitems := s.users.updateSessionForCurrentUser_items (s.users.items x).pid
          (s.users.items x).abilityName x abilityName
        have hcode : (s.users.updateSessionForCurrentUser (s.users.items x).pid
            (s.users.items x).abilityName abilityName x).2 = .success := by
          rw [h.users.registry.partition.updateForCurrentUser_of_some hk]
        dsimp only
        rw [hcode, if_neg (by decide), hitems]
        refine h.withUsers hinv ⟨fun y hy => (hreg y).mp hy, fun y => ?_, fun y => ?_⟩
        · rw [UsersManager.withItem_items, hitems]
          split_ifs with hy
          · rw [hy]
          · rfl
        · rw [UsersManager.withItem_items, hitems]
          split_ifs with hy
          · rw [hy]
          · rfl

/-- What the handler that creates a session relies on: the new session is registered for the user
of the caller. -/
theorem registered_addNewSession (h : ServiceInv s)
    (hok : s.users.stackForAll.sessions.size ≥ SESSION_NUM_MAX ∨
      (s.users.stackForAll.sessions[(⟨pid, abilityName⟩ : SessionKey)]? = none ∧
        0 < getUserIdFromCallingUid s.users uid))
    (hcode : ((s.createNewSession pid uid type bundleName
      abilityName).users.addSessionForCurrentUser pid abilityName s.nextSession
        (getUserIdFromCallingUid s.users uid)).2 = .success) :
    ((s.createNewSession pid uid type bundleName
      abilityName).users.addSessionForCurrentUser pid abilityName s.nextSession
        (getUserIdFromCallingUid s.users uid)).1.Registered s.nextSession :=
  registered_of_success
    (h.createNewSession pid uid type bundleName abilityName).users.registry.partition
    (hok.imp_right And.left) hcode

/-- A creation that is in order keeps the invariant. -/
theorem createSessionForCaller (h : ServiceInv s) (type : SessionType)
    (hok : CreateOk s pid uid elementName sessionElement) :
    ServiceInv (s.createSessionForCaller pid uid type elementName sessionElement).1 := by
  unfold CreateOk at hok
  unfold AVSessionService.createSessionForCaller
  split_ifs with hability
  · rw [if_pos hability] at hok
    exact h.checkAndUpdateAncoMediaSession hok
  · rw [if_neg hability] at hok
    have hadd := h.addNewSession type sessionElement.bundleName hok
    dsimp only
    split_ifs with hcode
    · exact hadd
    · have hx := h.registered_addNewSession hok (not_not.mp hcode)
      exact hadd.withUsers (hadd.users.addExtraFrontSession hx type)
        (SameSessions.addExtraFrontSession _ _ type)

/-- The refresh at the start of a creation keeps the invariant. -/
theorem refreshed (h : ServiceInv s) (tag : String) (uid : Uid) (elementName : ElementName) :
    ServiceInv (s.refreshed tag uid elementName) := by
  refine h.withUsers ?_ (SameSessions.refreshUserFromAnco s.users tag uid elementName)
  rcases refreshUserFromAnco_cases s.users tag uid elementName with hsame | ⟨u, hswitched⟩
  · rw [hsame]
    exact h.users
  · rw [hswitched]
    exact h.users.handleUserSwitched u

/-- The condition is that of the service past the switch. -/
theorem createSessionInner (h : ServiceInv s) (tag : String) (type : SessionType)
    (hok : CreateOk (s.refreshed tag uid elementName) pid uid elementName sessionElement) :
    ServiceInv (s.createSessionInner tag pid uid type elementName sessionElement).1 :=
  (h.refreshed tag uid elementName).createSessionForCaller type hok

/-- What `CreateSessionByCast` knows of the session it gets from `CreateSessionInner`: an audio
session, registered for the user of the caller, and in no list yet. -/
theorem createSessionForCaller_audio (h : ServiceInv s)
    (hok : CreateOk s pid uid elementName sessionElement) {s' : AVSessionService} {x : SessionRef}
    (hx : s.createSessionForCaller pid uid .audio elementName sessionElement = (s', some x)) :
    s'.users.Registered x ∧
      (s'.users.items x).userId = getUserIdFromCallingUid s.users uid ∧
      (∀ u, ¬ (x ∈ s'.users.frontByUser u ∨ x ∈ s'.users.keyEventByUser u ∨
        s'.users.topByUser u = some x)) ∧
      s'.carFeature = s.carFeature ∧ s'.users.curUserId = s.users.curUserId := by
  unfold CreateOk at hok
  unfold AVSessionService.createSessionForCaller at hx
  split_ifs at hx with hability
  · simp at hx
  · rw [if_neg hability] at hok
    have hadd := h.addNewSession .audio sessionElement.bundleName hok
    dsimp only at hx
    split_ifs at hx with hcode
    · simp at hx
    · have hreg := h.registered_addNewSession hok (not_not.mp hcode)
      have hsame := UsersManager.SameLists.addSessionForCurrentUser
        (s.createNewSession pid uid .audio sessionElement.bundleName
          sessionElement.abilityName).users pid sessionElement.abilityName
        (getUserIdFromCallingUid s.users uid) s.nextSession
      have hitems := (s.createNewSession pid uid .audio sessionElement.bundleName
        sessionElement.abilityName).users.addSessionForCurrentUser_items pid
          sessionElement.abilityName (getUserIdFromCallingUid s.users uid) s.nextSession
      have hself := items_createNewSession s pid uid .audio sessionElement.bundleName
        sessionElement.abilityName s.nextSession
      rw [if_pos rfl] at hself
      simp only [Prod.mk.injEq, Option.some.injEq] at hx
      obtain ⟨rfl, rfl⟩ := hx
      -- an audio session is in no list when it is created
      rw [addExtraFrontSession, if_neg (by simp [isCall])]
      refine ⟨hreg, ?_, fun u => ?_, rfl, hsame.curUserId⟩
      · rw [AVSessionService.withUsers_users, hitems, hself]
        rfl
      · rw [AVSessionService.withUsers_users, hsame.front, hsame.keyEvent, hsame.top]
        exact h.not_mem_lists_nextSession u

/-- The push of CreateSessionByCast keeps the invariant. -/
theorem pushFront (h : ServiceInv s) {x : SessionRef} (hx : s.users.Registered x)
    (hu : (s.users.items x).userId = s.users.effectiveUser userId) :
    ServiceInv (s.withUsers (AVSessionService.pushFront s.users x userId)) := by
  unfold AVSessionService.pushFront
  split_ifs
  · exact h
  · exact h.withUsers (h.users.pushFront hx hu) (SameSessions.setFront _ _ _)

/-- The new session is moved to the user of the call. -/
theorem userChange (h : ServiceInv s) {x : SessionRef} (hx : s.users.Registered x)
    (hpos : 0 < userId) (hfree : ∀ u, ¬ (x ∈ s.users.frontByUser u ∨
      x ∈ s.users.keyEventByUser u ∨ s.users.topByUser u = some x)) :
    ServiceInv (s.withUsers
      (s.users.updateSessionForUserChange (s.users.items x).userId userId (some x)).1) ∧
      (s.users.updateSessionForUserChange (s.users.items x).userId userId
        (some x)).1.Registered x := by
  have hkeeps : Partition.UserChangeKeeps s.users (s.users.items x).userId userId x := by
    refine ⟨fun _ => ⟨rfl, fun y hy => ?_⟩, fun hx' => absurd hx hx'⟩
    rw [h.users.registry.getElem?_itemKey hx, Option.some.injEq] at hy
    exact hy.symm
  have hreg := fun y => h.users.registry.partition.registered_userChange_iff (y := y)
    h.users.registry.ids hkeeps
  have hitems := s.users.updateSessionForUserChange_items x (s.users.items x).userId userId
  refine ⟨h.withUsers (h.users.userChange hkeeps hpos hfree) ⟨fun y hy => ?_, fun y => ?_,
    fun y => ?_⟩, (hreg x).mpr (Or.inr ⟨rfl, Or.inl hx⟩)⟩
  · rcases (hreg y).mp hy with ⟨hy, -⟩ | ⟨rfl, -⟩
    · exact hy
    · exact hx
  · rw [hitems, UsersManager.setUserId, UsersManager.withItem_items]
    split_ifs with hyx
    · rw [hyx]
    · rfl
  · rw [hitems, UsersManager.setUserId, UsersManager.withItem_items]
    split_ifs with hyx
    · rw [hyx]
    · rfl

/-- CreateSessionByCast in order keeps the invariant. -/
theorem createSessionByCast (h : ServiceInv s) (hok : CastOk s pid uid userId) :
    ServiceInv (s.createSessionByCast pid uid userId) := by
  have hinv := h.createSessionForCaller .audio hok.1
  unfold AVSessionService.createSessionByCast
  rw [AVSessionService.createSessionInner_castElement]
  rcases hr : s.createSessionForCaller pid uid .audio AVSessionService.castElement
    AVSessionService.castElement with ⟨s', _ | x⟩
  · rw [hr] at hinv
    exact hinv
  · obtain ⟨hx, howner, hfree, hcar, hcur⟩ := h.createSessionForCaller_audio hok.1 hr
    rw [hr] at hinv
    dsimp only at hinv ⊢
    split_ifs with hmove
    · -- the session is moved to the user it is pushed for
      obtain ⟨hmoved, hx'⟩ := hinv.userChange hx hmove.2 hfree
      apply hmoved.pushFront hx'
      show ((s'.users.updateSessionForUserChange _ userId (some x)).1.items x).userId = _
      rw [UsersManager.updateSessionForUserChange_items, UsersManager.setUserId_items_self,
        effectiveUser_of_pos _ hmove.2]
    · apply hinv.pushFront hx
      rw [hcar] at hmove
      have hu := hok.2.resolve_left hmove
      rw [howner, ← hu]
      unfold UsersManager.effectiveUser
      rw [hcur]

end ServiceInv

end sessions

/-! ## The handlers of the controllers -/

section controllers

variable {s : AVSessionService} {pid : Pid} {x : SessionRef}

/-- The condition of `CreateControllerInner`: the session has no controller of that client. -/
def ControllerOk (s : AVSessionService) (sessionId : String) (pid : Pid) (uid : Uid) : Prop :=
  ∀ x, (s.containerOfClient uid).getSessionById s.users.items sessionId = some x →
    s.getPresentController pid sessionId = none →
      (s.users.items x).controllers[pid]? = none

namespace ServiceInv

/-- Other controller items, and another map for the session `x`: every controller that is bound
has its entry in the map of its session. -/
theorem rebind (h : ServiceInv s) {controllerItems : ControllerRef → AVControllerItem}
    (nextController : ControllerRef) (x : SessionRef) (controllers : ControllerMap)
    (hbound : ∀ c y, (controllerItems c).session = some y → y < s.nextSession ∧
      (if y = x then controllers else (s.users.items y).controllers)[(controllerItems c).pid]? =
        some c) :
    ServiceInv
      ({ s with controllerItems := controllerItems, nextController := nextController }.setControllers
        x controllers) := by
  refine ⟨?_, fun y hy => ?_, fun y hy => h.fresh y hy, fun c y hc => ?_⟩
  · apply h.users.withItem x
    · rfl
    · exact fun _ => rfl
    · exact fun _ => ⟨rfl, rfl⟩
  · rw [AVSessionService.setControllers_isDestroyed]
    exact h.alive y hy
  · rw [AVSessionService.setControllers_controllers]
    exact hbound c y hc

/-- A new controller is bound to a session that has none of that client. -/
theorem bindNew (h : ServiceInv s) (hx : x < s.nextSession)
    (hfree : (s.users.items x).controllers[pid]? = none) (hasServiceCallback : Bool) :
    ServiceInv ((s.newController pid x hasServiceCallback).addController x pid
      s.nextController) := by
  apply h.rebind (s.nextController + 1) x
  intro c y hc
  by_cases hcn : c = s.nextController
  · subst hcn
    rw [Function.update_self] at hc ⊢
    obtain rfl : x = y := Option.some.inj hc
    refine ⟨hx, ?_⟩
    rw [if_pos rfl]
    exact (getElem?_insertIfNew_of_none hfree pid).trans (if_pos rfl)
  · rw [Function.update_of_ne hcn] at hc ⊢
    obtain ⟨hlt, hmap⟩ := h.bound c y hc
    refine ⟨hlt, ?_⟩
    split_ifs with hyx
    · subst hyx
      refine (getElem?_insertIfNew_of_none hfree _).trans ?_
      rw [if_neg]
      · exact hmap
      · intro heq
        rw [← heq, hfree] at hmap
        simp at hmap
    · exact hmap

/-- CreateControllerInner in order keeps the invariant. -/
theorem createControllerInner (h : ServiceInv s) {sessionId : String} {uid : Uid}
    (hok : ControllerOk s sessionId pid uid) :
    ServiceInv (s.createControllerInner sessionId pid uid) := by
  unfold AVSessionService.createControllerInner
  cases hfind : (s.containerOfClient uid).getSessionById s.users.items sessionId with
  | none => exact h
  | some x =>
      dsimp only
      split_ifs with hpresent
      · exact h
      · have hx := registered_of_mem_containerOfClient h.users.registry.partition
          (List.mem_of_find?_eq_some hfind)
        have hfree := hok x hfind (by simpa using hpresent)
        exact (h.bindNew (h.fresh x hx) hfree true).withControllers _

/-- The controller that a session makes for its own process. -/
theorem getControllerInner (h : ServiceInv s) (hx : x < s.nextSession) :
    ServiceInv (s.getControllerInner x) := by
  unfold AVSessionService.getControllerInner
  split_ifs with hmem
  · exact h
  · exact h.bindNew hx (ExtTreeMap.getElem?_eq_none hmem) false

/-- A controller that goes is unbound, and its entry in the map of its session goes too: no other
controller has that entry. -/
theorem destroyWithoutReply (h : ServiceInv s) (c : ControllerRef) :
    ServiceInv (s.destroyWithoutReply c) := by
  unfold AVSessionService.destroyWithoutReply
  cases hc : (s.controllerItems c).session with
  | none => exact h
  | some x =>
      obtain ⟨-, hmap⟩ := h.bound c x hc
      apply h.rebind s.nextController x
      intro c' y hc'
      have hne : c' ≠ c := by
        rintro rfl
        rw [Function.update_self] at hc'
        simp at hc'
      rw [Function.update_of_ne hne] at hc' ⊢
      obtain ⟨hlt, hmap'⟩ := h.bound c' y hc'
      refine ⟨hlt, ?_⟩
      split_ifs with hyx
      · subst hyx
        refine (getElem?_erase _ _).trans ?_
        rw [if_neg]
        · exact hmap'
        · intro heq
          rw [← heq, hmap] at hmap'
          exact hne (Option.some.inj hmap').symm
      · exact hmap'

/-- DestroyController keeps the invariant. -/
theorem destroyController (h : ServiceInv s) (c : ControllerRef) :
    ServiceInv (s.destroyController c) := by
  unfold AVSessionService.destroyController
  split_ifs
  · exact h
  · exact (h.withControllers _).destroyWithoutReply c
  · exact h.destroyWithoutReply c

/-- The death of a client's controllers keeps the invariant. -/
theorem clearControllerForClientDied (h : ServiceInv s) (pid : Pid) :
    ServiceInv (s.clearControllerForClientDied pid) := by
  have hfold : ∀ (l : List ControllerRef) (s : AVSessionService), ServiceInv s →
      ServiceInv (l.foldl AVSessionService.destroyWithoutReply s) := by
    intro l
    induction l with
    | nil => exact fun s hs => hs
    | cons c l ih => exact fun s hs => ih _ (hs.destroyWithoutReply c)
  unfold AVSessionService.clearControllerForClientDied
  cases s.controllers[pid]? with
  | none => exact h
  | some l =>
      have hl := hfold l _ (h.withControllers (s.controllers.insert pid []))
      dsimp only
      split_ifs
      · exact hl.withControllers _
      · exact hl

end ServiceInv

end controllers

end AvSession.Service
