import AvSession.Service.AllSessions

/-!
# Which sessions a handler makes live or takes

A session is live while it is in the container of all users and is not destroyed.

* `Bounded` — references that were not given out are unknown, and the container of all users is not
  overfull.
* `ServiceOp.Lost`, `ServiceOp.Reentered` — the sessions that stop being live, and the audio broker's
  session that is live again.
* `Handled`, `Handled.step` — what a handler does to the sessions that exist.
* `live_created` — the session that a creation hands out, or leaves behind.
-/

namespace AvSession.Service

open AvSession.Registry AVSessionService

/-! ## What a handler takes -/

section lost

/-- References that were not given out are unknown, and the container of all users is not
overfull. -/
structure Bounded (s : AVSessionService) : Prop where
  ids : DistinctIds s.users.items
  known : ∀ x, Mentioned s.users x → x < s.nextSession
  size : s.users.stackForAll.sessions.size ≤ SESSION_NUM_MAX

/-- A repeated creation of the audio broker takes whoever holds the key of its session. -/
def CreationLost (s : AVSessionService) (pid : Pid) (uid : Uid) (y : SessionRef) : Prop :=
  s.abilityHasSession pid (getUserIdFromCallingUid s.users uid) = true ∧
    brokerSession s uid ≠ some y ∧ GoneForBroker s uid y

/-- Then the broker's session itself is entered again. -/
def CreationReentered (s : AVSessionService) (pid : Pid) (uid : Uid) (y : SessionRef) : Prop :=
  s.abilityHasSession pid (getUserIdFromCallingUid s.users uid) = true ∧
    brokerSession s uid = some y ∧ (s.users.items y).isDestroyed = false ∧
    (holder s.users (itemKey s.users.items y)).isSome = true

/-- The sessions that stop being live: those a creation of the broker takes, those of a user that is
removed, the one that is released, and whoever holds its key. -/
def ServiceOp.Lost (s : AVSessionService) : ServiceOp → SessionRef → Prop
  | createSessionInner tag pid uid _ elementName _ =>
      CreationLost (s.refreshed tag uid elementName) pid uid
  | createSessionByCast pid uid _ => CreationLost s pid uid
  | userRemoved userId => fun y => y ∈ (s.users.stackByUser userId).stack ∧ s.users.Registered y
  | handleSessionRelease _ sessionId => fun y => ∃ x,
      s.users.stackForAll.getSessionById s.users.items sessionId = some x ∧
        (y = x ∨ holder s.users (itemKey s.users.items x) = some y)
  | _ => fun _ => False

/-- The broker's session, if its creation is repeated. -/
def ServiceOp.Reentered (s : AVSessionService) : ServiceOp → SessionRef → Prop
  | createSessionInner tag pid uid _ elementName _ =>
      CreationReentered (s.refreshed tag uid elementName) pid uid
  | createSessionByCast pid uid _ => CreationReentered s pid uid
  | _ => fun _ => False

end lost

/-! ## What becomes of the sessions -/

section live

variable {s s' s'' : AVSessionService} {x y : SessionRef} {u : UserId} {pid : Pid} {uid : Uid}
  {gone exempt lost reentered : SessionRef → Prop}

/-- A session that exists is live afterwards if it was and is not lost, or if it is entered again. -/
structure Handled (lost reentered : SessionRef → Prop) (s s' : AVSessionService) : Prop where
  sessionId : ∀ y, (s'.users.items y).sessionId = (s.users.items y).sessionId
  live : ∀ y, y ≠ s.nextSession → (s'.Live y ↔ s.Live y ∧ ¬ lost y ∨ reentered y)
  bounded : Bounded s'
  next : s.nextSession ≤ s'.nextSession

/-- Who lives after a call lived before and was not lost. -/
theorem live_of_kept (hkept : AllKept gone exempt s.users s'.users) (hy : ¬ exempt y) :
    s'.Live y ↔ s.Live y ∧ ¬ gone y := by
  have hmem := hkept.mem y hy
  unfold Live SessionStack.getAllSessions
  rw [hkept.destroyed y hy, hmem, and_right_comm]

namespace Bounded

/-- A living session has been created. -/
theorem lt_of_live (h : Bounded s) (hx : s.Live x) : x < s.nextSession :=
  h.known x (Or.inl hx.1)

/-- A call that keeps the sessions keeps them bounded. -/
theorem of_kept (h : Bounded s) (hkept : AllKept gone exempt s.users s'.users)
    (hexempt : ∀ y, exempt y → y < s'.nextSession) (hnext : s.nextSession ≤ s'.nextSession) :
    Bounded s' where
  ids := by
    intro y z hyz
    have hyz' : (s'.users.items y).sessionId = (s'.users.items z).sessionId := hyz
    rw [hkept.sessionId, hkept.sessionId] at hyz'
    exact h.ids hyz'
  known y hy :=
    (hkept.mentioned y hy).elim (fun hy => (h.known y hy).trans_le hnext) (hexempt y)
  size := hkept.size h.size

/-- At the start nobody lives. -/
theorem init {items : Items} (hinj : DistinctIds items) (userId : UserId)
    (controlBundleNameSet : List String) (carFeature : Bool) :
    Bounded (AVSessionService.init items userId controlBundleNameSet carFeature) where
  ids := hinj
  known x := by
    rintro (hx | ⟨u, hx⟩ | ⟨u, hx⟩) <;> cases hx
  size := Nat.zero_le _

end Bounded

namespace Handled

/-- A handler that exempts nobody. -/
theorem of_gone (h : Bounded s) (hkept : AllKept gone nobody s.users s'.users)
    (hnext : s'.nextSession = s.nextSession) : Handled gone nobody s s' where
  sessionId := hkept.sessionId
  live _ _ := (live_of_kept hkept id).trans (or_iff_left id).symm
  bounded := h.of_kept hkept (fun _ => False.elim) hnext.ge
  next := hnext.ge

/-- The user is switched first. -/
theorem of_trans (h : Handled nobody nobody s s') (h' : Handled lost reentered s' s'')
    (hnext : s'.nextSession = s.nextSession) : Handled lost reentered s s'' where
  sessionId y := (h'.sessionId y).trans (h.sessionId y)
  live _ hy := by
    rw [h'.live _ (hnext ▸ hy), h.live _ hy]
    simp [nobody]
  bounded := h'.bounded
  next := h.next.trans h'.next

/-- The new session is moved afterwards. -/
theorem trans_exempt (h : Handled lost reentered s s')
    (hkept : AllKept nobody (· = s.nextSession) s'.users s''.users)
    (hnext : s''.nextSession = s'.nextSession) (hlt : s.nextSession < s'.nextSession) :
    Handled lost reentered s s'' where
  sessionId y := (hkept.sessionId y).trans (h.sessionId y)
  live y hy := ((live_of_kept hkept hy).trans (and_iff_left id)).trans (h.live y hy)
  bounded := by
    refine h.bounded.of_kept hkept (fun y hy => ?_) hnext.ge
    rw [show y = s.nextSession from hy, hnext]
    exact hlt
  next := hnext ▸ h.next

/-- The refresh at the start of a creation loses nobody. -/
theorem refreshed (h : Bounded s) (tag : String) (uid : Uid) (elementName : ElementName) :
    Handled nobody nobody s (s.refreshed tag uid elementName) :=
  of_gone h (allKept_refreshed s tag uid elementName) rfl

/-- The broker's session is entered again, and whoever held its key is lost. -/
theorem checkAndUpdateAncoMediaSession (h : Bounded s) (uid : Uid)
    (bundleName abilityName : String) :
    Handled (fun y => brokerSession s uid ≠ some y ∧ GoneForBroker s uid y)
      (fun y => brokerSession s uid = some y ∧ (s.users.items y).isDestroyed = false ∧
        (holder s.users (itemKey s.users.items y)).isSome = true)
      s (s.checkAndUpdateAncoMediaSession uid bundleName abilityName) := by
  obtain ⟨hkept, hbroker⟩ := allKept_checkAndUpdateAncoMediaSession s uid bundleName abilityName
  have hnext := nextSession_checkAndUpdateAncoMediaSession s uid bundleName abilityName
  refine ⟨hkept.sessionId, fun y _ => ?_, h.of_kept hkept (fun y hy => ?_) hnext.ge, hnext.ge⟩
  · by_cases hy : brokerSession s uid = some y
    · obtain ⟨hdestroyed, hmem⟩ := hbroker y hy
      unfold Live SessionStack.getAllSessions
      rw [hdestroyed, hmem h.size]
      simp only [hy, ne_eq, not_true_eq_false, false_and, not_false_eq_true, and_true, true_and]
      tauto
    · rw [live_of_kept hkept hy]
      simp only [hy, ne_eq, not_false_eq_true, true_and, false_and, or_false]
  · rw [hnext]
    exact h.known y (mentioned_brokerSession hy)

end Handled

/-! ## Creations -/

/-- A creation for a process that has a session already. -/
theorem createSessionForCaller_repeated (type : SessionType)
    (elementName sessionElement : ElementName)
    (hability : s.abilityHasSession pid (getUserIdFromCallingUid s.users uid) = true) :
    s.createSessionForCaller pid uid type elementName sessionElement =
      (s.checkAndUpdateAncoMediaSession uid elementName.bundleName elementName.abilityName, none) :=
  if_pos hability

/-- The session that a creation allocates: it is handed out if both containers have room, and it
stays in the container of all users if that alone has. -/
theorem live_created (h : Bounded s) (type : SessionType)
    (elementName sessionElement : ElementName)
    (hability : s.abilityHasSession pid (getUserIdFromCallingUid s.users uid) = false) :
    let r := s.createSessionForCaller pid uid type elementName sessionElement
    (r.1.Live s.nextSession ↔ s.users.stackForAll.sessions.size < SESSION_NUM_MAX) ∧
      r.1.nextSession = s.nextSession + 1 ∧
      r.2 = if HasRoom s uid then some s.nextSession else none := by
  obtain ⟨-, hnext, halive, hmem, hresult⟩ :=
    allKept_createSessionForCaller type elementName sessionElement hability
  refine ⟨?_, hnext, hresult⟩
  have hnot : s.nextSession ∉ s.users.stackForAll.stack := fun hx =>
    (h.known _ (Or.inl hx)).false
  exact (and_iff_left halive).trans (hmem.trans (or_iff_right hnot))

namespace Handled

/-- A creation loses at most whoever holds its key. -/
theorem createSessionForCaller (h : Bounded s) (pid : Pid) (uid : Uid) (type : SessionType)
    (elementName sessionElement : ElementName) :
    Handled (CreationLost s pid uid) (CreationReentered s pid uid) s
      (s.createSessionForCaller pid uid type elementName sessionElement).1 := by
  unfold CreationLost CreationReentered
  cases hability : s.abilityHasSession pid (getUserIdFromCallingUid s.users uid) with
  | true =>
      rw [createSessionForCaller_repeated type elementName sessionElement hability]
      simp only [true_and]
      exact checkAndUpdateAncoMediaSession h uid _ _
  | false =>
      obtain ⟨hkept, hnext, -⟩ :=
        allKept_createSessionForCaller type elementName sessionElement hability
      simp only [Bool.false_eq_true, false_and]
      refine ⟨hkept.sessionId, fun y hy => ?_, h.of_kept hkept (fun y hy => ?_) ?_, ?_⟩
      · exact (live_of_kept hkept hy).trans (or_iff_left id).symm
      · rw [show y = s.nextSession from hy, hnext]
        exact Nat.lt_succ_self _
      · rw [hnext]
        exact Nat.le_succ _
      · rw [hnext]
        exact Nat.le_succ _

/-- So does CreateSessionInner, after its refresh. -/
theorem createSessionInner (h : Bounded s) (tag : String) (pid : Pid) (uid : Uid)
    (type : SessionType) (elementName sessionElement : ElementName) :
    Handled (CreationLost (s.refreshed tag uid elementName) pid uid)
      (CreationReentered (s.refreshed tag uid elementName) pid uid) s
      (s.createSessionInner tag pid uid type elementName sessionElement).1 := by
  have hrefreshed := refreshed h tag uid elementName
  exact hrefreshed.of_trans (createSessionForCaller hrefreshed.bounded pid uid type elementName
    sessionElement) rfl

/-- A session for a cast to this device: the new session may be moved. -/
theorem createSessionByCast (h : Bounded s) (pid : Pid) (uid : Uid) (userId : UserId) :
    Handled (CreationLost s pid uid) (CreationReentered s pid uid) s
      (s.createSessionByCast pid uid userId) := by
  have hcreated := createSessionForCaller h pid uid .audio castElement castElement
  have hresult : ∀ x, (s.createSessionForCaller pid uid .audio castElement castElement).2 =
      some x → x = s.nextSession ∧ (s.createSessionForCaller pid uid .audio castElement
        castElement).1.nextSession = s.nextSession + 1 := by
    intro x hx
    cases hability : s.abilityHasSession pid (getUserIdFromCallingUid s.users uid) with
    | true =>
        rw [createSessionForCaller_repeated .audio castElement castElement hability] at hx
        cases hx
    | false =>
        obtain ⟨-, hnext, hhanded⟩ := live_created h .audio castElement castElement hability
        rw [hhanded] at hx
        split_ifs at hx
        exact ⟨(Option.some.inj hx).symm, hnext⟩
  rw [createSessionByCast_eq]
  generalize s.createSessionForCaller pid uid .audio castElement castElement = r at *
  rcases r with ⟨s', _ | x⟩
  · exact hcreated
  · obtain ⟨rfl, hnext⟩ := hresult x rfl
    have hkept : AllKept nobody (· = s.nextSession) s'.users
        (s'.withUsers (pushedByCast s' s.nextSession userId)).users :=
      allKept_pushedByCast hcreated.bounded.ids s.nextSession userId
    refine hcreated.trans_exempt hkept rfl ?_
    rw [show s'.nextSession = s.nextSession + 1 from hnext]
    exact Nat.lt_succ_self _

end Handled

/-! ## Releases and the other handlers -/

/-- A release takes its session, and whoever holds the key of that. -/
theorem Handled.handleSessionRelease (h : Bounded s) (o : Oracle) (sessionId : String) :
    Handled (fun y => ∃ x, s.users.stackForAll.getSessionById s.users.items sessionId = some x ∧
      (y = x ∨ holder s.users (itemKey s.users.items x) = some y)) nobody s
      (s.handleSessionRelease o sessionId) := by
  have hnext := nextSession_handleSessionRelease s o sessionId
  cases hfind : s.users.stackForAll.getSessionById s.users.items sessionId with
  | none =>
      have hsame : s.handleSessionRelease o sessionId = s := by
        unfold AVSessionService.handleSessionRelease
        rw [show s.users.getContainerFromAll.getSessionById s.users.items sessionId = none
          from hfind]
      rw [hsame]
      refine ⟨fun _ => rfl, fun y _ => ?_, h, le_rfl⟩
      exact ((or_iff_left id).trans (and_iff_left fun ⟨_, hx, _⟩ => nomatch hx)).symm
  | some x =>
      have hdestroyed := (frontKept_handleSessionRelease s o hfind).2.1
      have hkept : AllKept (fun y => holder s.users (itemKey s.users.items x) = some y) (· = x)
          s.users (s.handleSessionRelease o sessionId).users := by
        rw [handleSessionRelease_of_some hfind, removeControllersNoLock_users, withUsers_users]
        have hreleased := allKept_releaseUsers (s.destroyTask x).1.users o x s.controlBundleNameSet
        rcases users_destroyTask_cases s x with ⟨hsame, -⟩ | hdone
        · rw [hsame] at hreleased ⊢
          exact hreleased.of_nobody
        · have hkey : holder (s.destroyTask x).1.users (itemKey (s.destroyTask x).1.users.items x) =
              holder s.users (itemKey s.users.items x) := by
            rw [hdone]
            unfold holder itemKey
            rw [UsersManager.withItem_items, if_pos rfl]
            rfl
          rw [hkey] at hreleased
          refine AllKept.of_trans ?_ hreleased.of_nobody
          rw [hdone]
          exact AllKept.withItem x rfl fun hne => absurd rfl hne
      refine ⟨hkept.sessionId, fun y _ => ?_, h.of_kept hkept (fun y hy => ?_) hnext.ge, hnext.ge⟩
      · by_cases hy : y = x
        · subst hy
          refine iff_of_false (fun hlive => ?_) ?_
          · exact Bool.false_ne_true (hlive.2.symm.trans hdestroyed)
          · rintro (⟨-, hnot⟩ | hnone)
            · exact hnot ⟨y, rfl, Or.inl rfl⟩
            · exact hnone
        · rw [live_of_kept hkept hy]
          refine Iff.trans (and_congr_right fun _ => not_congr ?_) (or_iff_left id).symm
          refine ⟨fun hk => ⟨x, rfl, Or.inr hk⟩, ?_⟩
          rintro ⟨z, hz, hyz | hk⟩
          · exact absurd (hyz.trans (Option.some.inj hz).symm) hy
          · rwa [Option.some.inj hz]
      · rw [show y = x from hy, hnext]
        exact h.known x (Or.inl (List.mem_of_find?_eq_some hfind))

/-- The handlers that neither create nor release a session, nor remove a user. -/
def ServiceOp.Quiet : ServiceOp → Prop
  | createSessionInner .. | createSessionByCast .. | userRemoved _ | handleSessionRelease .. => False
  | _ => True

/-- A quiet operation loses nobody and creates none. -/
theorem allKept_of_quiet (s : AVSessionService) {op : ServiceOp} (hop : op.Quiet) :
    AllKept nobody nobody s.users (op.step s).users ∧
      (op.step s).nextSession = s.nextSession := by
  cases op with
  | createSessionInner | createSessionByCast | userRemoved | handleSessionRelease => exact hop.elim
  | updateSession o sessionId isAdd userId =>
      refine ⟨allKept_updateSession s o sessionId isAdd userId, ?_⟩
      show (s.updateSession o sessionId isAdd userId).nextSession = _
      unfold updateSession
      split <;> rfl
  | updateControlList => exact ⟨AllKept.refl _ _, rfl⟩
  | addKeyEvent sessionId =>
      exact ⟨AllKept.of_untouched (untouched_addKeyEvent s sessionId),
        nextSession_addKeyEvent s sessionId⟩
  | updateTopSession sessionId userId =>
      exact ⟨allKept_withSession s sessionId fun x _ => allKept_updateTopSession _ userId (some x),
        nextSession_withSession s sessionId _⟩
  | updateOrder sessionId =>
      exact ⟨allKept_withSession s sessionId fun x hx => allKept_updateOrder hx,
        nextSession_withSession s sessionId _⟩
  | handleOtherSessionPlaying o userId =>
      rcases step_handleOtherSessionPlaying_cases s o userId with hsame | ⟨x, hx, hplays⟩
      · rw [hsame]
        exact ⟨AllKept.refl _ _, rfl⟩
      · rw [hplays]
        exact ⟨allKept_handleOtherSessionPlaying (mentioned_of_elected hx), rfl⟩
  | userSwitched userId => exact ⟨allKept_handleUserSwitched s.users userId, rfl⟩
  | createControllerInner sessionId pid uid =>
      exact ⟨AllKept.of_untouched (untouched_createControllerInner s sessionId pid uid),
        nextSession_createControllerInner s sessionId pid uid⟩
  | getControllerInner x =>
      show AllKept nobody nobody s.users
        (if x < s.nextSession then s.getControllerInner x else s).users ∧
          (if x < s.nextSession then s.getControllerInner x else s).nextSession = s.nextSession
      split_ifs
      · exact ⟨AllKept.of_untouched (untouched_getControllerInner s x),
          nextSession_getControllerInner s x⟩
      · exact ⟨AllKept.refl _ _, rfl⟩
  | destroyController c =>
      exact ⟨AllKept.of_untouched (untouched_destroyController s c),
        nextSession_destroyController s c⟩
  | clearControllerForClientDied pid =>
      exact ⟨AllKept.of_untouched (untouched_clearControllerForClientDied s pid),
        nextSession_clearControllerForClientDied s pid⟩
  | setCastProxy x hasCastProxy =>
      exact ⟨AllKept.of_untouched (Untouched.withItem x ⟨rfl, rfl, rfl⟩), rfl⟩

/-- So it leaves nothing to handle. -/
theorem Handled.of_quiet (h : Bounded s) {op : ServiceOp} (hop : op.Quiet) :
    Handled nobody nobody s (op.step s) := by
  obtain ⟨hkept, hnext⟩ := allKept_of_quiet s hop
  exact Handled.of_gone h hkept hnext

/-- **What a handler does.** A session that exists is live afterwards if it was and the handler does
not take it, or if it is the broker's that is entered again. -/
theorem Handled.step (h : Bounded s) (op : ServiceOp) :
    Handled (op.Lost s) (op.Reentered s) s (op.step s) := by
  cases op with
  | createSessionInner tag pid uid type elementName sessionElement =>
      exact Handled.createSessionInner h tag pid uid type elementName sessionElement
  | createSessionByCast pid uid userId => exact Handled.createSessionByCast h pid uid userId
  | userRemoved userId =>
      have hkept : AllKept (fun y => y ∈ (s.users.stackByUser userId).stack ∧
          s.users.Registered y) nobody s.users (s.withUsers (handleUserRemoved s.users
            userId)).users := allKept_handleUserRemoved h.ids userId
      exact Handled.of_gone h hkept rfl
  | handleSessionRelease o sessionId => exact Handled.handleSessionRelease h o sessionId
  | _ =>
      refine Handled.of_quiet h ?_
      trivial

/-- Nobody is lost and entered again. -/
theorem not_reentered_of_lost {op : ServiceOp} (hlost : op.Lost s y) : ¬ op.Reentered s y := by
  cases op with
  | createSessionInner => exact fun hre => hlost.2.1 hre.2.1
  | createSessionByCast => exact fun hre => hlost.2.1 hre.2.1
  | _ => exact id

end live

end AvSession.Service
