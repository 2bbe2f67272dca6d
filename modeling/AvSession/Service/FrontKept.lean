import AvSession.Service.Release

/-!
# What the handlers leave of the front lists

Each handler works on one session. Whatever the registry has become, the other sessions stay where
they are in the front lists.

* `FrontKept` — the frame: all but the sessions it exempts keep their user and their place, and no
  session gets another id.
* `createSessionForCaller_cases`, `frontKept_pushedByCast` — a creation exempts the new session.
* `created_createSessionForCaller`, `created_pushedByCast` — in which list it is.
* `frontKept_updateFrontSession`, `mem_front_updateFrontSession` — an update of the list.
* `frontKept_handleSessionRelease` — a release exempts its session.
* `Untouched` — the stronger frame of the handlers that work on controllers.
-/

namespace AvSession.Service

open AvSession.Lib AvSession.Registry

/-! ## The frame -/

section frame

/-- The sessions that are not exempt have the same user, are destroyed or not as before, and are in
the same front lists. -/
structure FrontKept (exempt : SessionRef → Prop) (m m' : UsersManager) : Prop where
  sessionId : ∀ x, (m'.items x).sessionId = (m.items x).sessionId
  item : ∀ x, ¬ exempt x → (m'.items x).userId = (m.items x).userId ∧
    (m'.items x).isDestroyed = (m.items x).isDestroyed
  front : ∀ x, ¬ exempt x → ∀ u, x ∈ m'.frontByUser u ↔ x ∈ m.frontByUser u

/-- No session is exempt. -/
def nobody : SessionRef → Prop := fun _ => False

variable {m m' m'' : UsersManager} {o : Oracle} {x y : SessionRef} {u : UserId}
  {exempt exempt' : SessionRef → Prop}

namespace FrontKept

/-- A table keeps its own front lists. -/
theorem refl (exempt : SessionRef → Prop) (m : UsersManager) : FrontKept exempt m m :=
  ⟨fun _ => rfl, fun _ _ => ⟨rfl, rfl⟩, fun _ _ _ => Iff.rfl⟩

/-- Two calls that keep the front lists keep them together. -/
theorem trans (h : FrontKept exempt m m') (h' : FrontKept exempt m' m'') :
    FrontKept exempt m m'' where
  sessionId x := (h'.sessionId x).trans (h.sessionId x)
  item x hx := by
    obtain ⟨huser, hdestroyed⟩ := h.item x hx
    obtain ⟨huser', hdestroyed'⟩ := h'.item x hx
    exact ⟨huser'.trans huser, hdestroyed'.trans hdestroyed⟩
  front x hx u := (h'.front x hx u).trans (h.front x hx u)

/-- What keeps the lists apart from fewer sessions keeps them apart from more. -/
theorem mono (h : FrontKept exempt m m') (hle : ∀ x, exempt x → exempt' x) :
    FrontKept exempt' m m' :=
  ⟨h.sessionId, fun x hx => h.item x fun he => hx (hle x he),
    fun x hx => h.front x fun he => hx (hle x he)⟩

/-- A call that changes no membership at all may be read with any exemption. -/
theorem of_nobody (h : FrontKept nobody m m') : FrontKept exempt m m' := h.mono fun _ => False.elim

/-- Only flags of the items change. -/
theorem of_items (hitems : ∀ x, ∃ b, m'.items x = { m.items x with isTop := b })
    (hfront : ∀ x, ¬ exempt x → ∀ u, x ∈ m'.frontByUser u ↔ x ∈ m.frontByUser u) :
    FrontKept exempt m m' := by
  refine ⟨fun x => ?_, fun x _ => ?_, hfront⟩ <;> obtain ⟨b, hb⟩ := hitems x
  · rw [hb]
  · rw [hb]
    exact ⟨rfl, rfl⟩

/-- Reordering a user's record changes nobody's place in a front list. -/
theorem of_reordered (h : Reordered m m') : FrontKept exempt m m' :=
  of_items h.items fun x _ u => h.front u x

/-- Neither the items nor the front lists change. -/
theorem of_same (hitems : m'.items = m.items) (hfront : m'.frontByUser = m.frontByUser) :
    FrontKept exempt m m' := by
  refine ⟨fun x => ?_, fun x _ => ?_, fun x _ u => ?_⟩
  · rw [hitems]
  · rw [hitems]
    exact ⟨rfl, rfl⟩
  · rw [hfront]

/-- Another item for a session. -/
theorem withItem (x : SessionRef) {item : AVSessionItem}
    (hid : item.sessionId = (m.items x).sessionId)
    (hitem : ¬ exempt x → item.userId = (m.items x).userId ∧
      item.isDestroyed = (m.items x).isDestroyed) : FrontKept exempt m (m.withItem x item) := by
  refine ⟨fun y => ?_, fun y hy => ?_, fun _ _ _ => Iff.rfl⟩
  · rw [UsersManager.withItem_items]
    split_ifs with hyx
    · rw [hyx, hid]
    · rfl
  · rw [UsersManager.withItem_items]
    split_ifs with hyx
    · subst hyx
      exact hitem hy
    · exact ⟨rfl, rfl⟩

end FrontKept

/-- Setting one list changes the members of the user it resolves to, and no other's. -/
theorem mem_front_setFront (m : UsersManager) (u v : UserId) (l : List SessionRef) :
    y ∈ (setFront m u l).frontByUser v ↔
      if v = m.effectiveUser u then y ∈ l else y ∈ m.frontByUser v := by
  unfold setFront
  dsimp only
  rw [Function.update_apply]
  split_ifs <;> rfl

/-- A list that holds what it held before, exempt sessions apart. -/
theorem frontKept_setFront (u : UserId) {l : List SessionRef}
    (hl : ∀ x, ¬ exempt x → (x ∈ l ↔ x ∈ m.getCurSessionListForFront u)) :
    FrontKept exempt m (setFront m u l) := by
  refine ⟨fun _ => rfl, fun _ _ => ⟨rfl, rfl⟩, fun x hx v => ?_⟩
  rw [mem_front_setFront]
  split_ifs with hv
  · rw [hv]
    exact hl x hx
  · exact Iff.rfl

/-- The exempt session is pushed. -/
theorem frontKept_cons (m : UsersManager) (x : SessionRef) (u : UserId) :
    FrontKept (· = x) m (setFront m u (x :: m.getCurSessionListForFront u)) := by
  apply frontKept_setFront
  intro y hy
  rw [List.mem_cons, or_iff_right hy]

end frame

/-! ## The updates of the front lists -/

section front

variable {m : UsersManager} {o : Oracle} {x y : SessionRef} {u v : UserId} {control : List String}

/-- addFrontSession puts the session into the list of its own user. -/
theorem mem_front_addFrontSession : y ∈ (addFrontSession m o x).frontByUser v ↔
    y ∈ m.frontByUser v ∨ (y = x ∧ v = m.effectiveUser (m.items x).userId) := by
  have hpush : y ∈ (setFront m (m.items x).userId
      (x :: m.getCurSessionListForFront (m.items x).userId)).frontByUser v ↔
        y ∈ m.frontByUser v ∨ (y = x ∧ v = m.effectiveUser (m.items x).userId) := by
    rw [mem_front_setFront]
    split_ifs with hv
    · rw [List.mem_cons, or_comm, hv]
      simp [UsersManager.getCurSessionListForFront]
    · simp [hv]
  unfold addFrontSession
  dsimp only
  split_ifs with hmem
  · refine (or_iff_left_of_imp ?_).symm
    rintro ⟨rfl, rfl⟩
    exact hmem
  · rw [(onlyTop_updateTopSession _ _ _).front]
    exact hpush
  · exact hpush

/-- removeFrontSession takes the session out of the list of its own user. -/
theorem mem_front_removeFrontSession : y ∈ (removeFrontSession m o x).frontByUser v ↔
    y ∈ m.frontByUser v ∧ ¬ (y = x ∧ v = m.effectiveUser (m.items x).userId) := by
  have hr := reordered_handleTopSessionRelease m o x (m.items x).userId
  unfold removeFrontSession UsersManager.getCurSessionListForFront
  dsimp only
  rw [mem_front_setFront, hr.effectiveUser]
  split_ifs with hv
  · subst hv
    rw [List.mem_filter, hr.front]
    simp
  · rw [hr.front]
    exact (and_iff_left fun hyx => hv hyx.2).symm

/-- An update that is not refused adds the session to the list of its user, or removes it. -/
theorem mem_front_updateFrontSession (isAdd : Bool) :
    y ∈ (updateFrontSession m o x control isAdd).frontByUser v ↔
      if y = x ∧ v = m.effectiveUser (m.items x).userId ∧ ¬ FrontRefused m x control then
        isAdd = true
      else y ∈ m.frontByUser v := by
  by_cases hrefused : FrontRefused m x control
  · rw [updateFrontSession_of_refused hrefused, if_neg fun h => h.2.2 hrefused]
  · rw [updateFrontSession_eq_ite hrefused]
    cases isAdd with
    | true =>
        rw [if_pos rfl, mem_front_addFrontSession]
        simp only [hrefused, not_false_eq_true, and_true]
        split_ifs with hself
        · exact iff_of_true (Or.inr hself) trivial
        · exact or_iff_left hself
    | false =>
        rw [if_neg Bool.false_ne_true, mem_front_removeFrontSession]
        simp only [hrefused, not_false_eq_true, and_true]
        split_ifs with hself
        · exact iff_of_false (fun h => h.2 hself) nofun
        · exact and_iff_left hself

/-- An update leaves the items alone, flags apart. -/
theorem items_updateFrontSession (m : UsersManager) (o : Oracle) (x : SessionRef)
    (control : List String) (isAdd : Bool) (y : SessionRef) :
    ∃ b, (updateFrontSession m o x control isAdd).items y = { m.items y with isTop := b } := by
  have hsame : ∃ b, m.items y = { m.items y with isTop := b } := ⟨(m.items y).isTop, rfl⟩
  unfold updateFrontSession
  split_ifs
  · exact hsame
  · exact hsame
  · unfold addFrontSession
    dsimp only
    split_ifs
    · exact hsame
    · exact (onlyTop_updateTopSession (setFront m _ _) _ _).items y
    · exact hsame
  · exact (reordered_handleTopSessionRelease m o x (m.items x).userId).items y

/-- UpdateFrontSession moves nobody but the session it is called for. -/
theorem frontKept_updateFrontSession (m : UsersManager) (o : Oracle) (x : SessionRef)
    (control : List String) (isAdd : Bool) :
    FrontKept (· = x) m (updateFrontSession m o x control isAdd) := by
  refine FrontKept.of_items (items_updateFrontSession m o x control isAdd) fun y hy v => ?_
  rw [mem_front_updateFrontSession, if_neg fun h => hy h.1]

/-- An update that repeats what the list has already. -/
theorem frontKept_updateFrontSession_of_repeated (isAdd : Bool)
    (h : FrontRefused m x control ∨
      (x ∈ m.getCurSessionListForFront (m.items x).userId ↔ isAdd = true)) :
    FrontKept nobody m (updateFrontSession m o x control isAdd) := by
  refine FrontKept.of_items (items_updateFrontSession m o x control isAdd) fun y _ v => ?_
  rw [mem_front_updateFrontSession]
  split_ifs with hself
  · obtain ⟨rfl, rfl, hnot⟩ := hself
    exact (h.resolve_left hnot).symm
  · exact Iff.rfl

end front

/-! ## Creations -/

section creation

open AVSessionService

variable {s s' : AVSessionService} {x y : SessionRef}

/-- A user switch leaves every front list as it is. -/
theorem frontKept_handleUserSwitched (m : UsersManager) (userId : UserId) :
    FrontKept nobody m (handleUserSwitched m userId) := by
  have hswitched : FrontKept nobody m (m.handleUserSwitched userId) := FrontKept.of_same rfl rfl
  exact hswitched.trans (FrontKept.of_reordered (onlyTop_updateTopSession _ userId _).toReordered)

/-- The refresh of the user at the start of a creation leaves the front lists as they are. -/
theorem frontKept_refreshed (s : AVSessionService) (tag : String) (uid : Uid)
    (elementName : ElementName) :
    FrontKept nobody s.users (s.refreshed tag uid elementName).users := by
  unfold AVSessionService.refreshed
  rw [withUsers_users]
  rcases refreshUserFromAnco_cases s.users tag uid elementName with hsame | ⟨u, hswitched⟩
  · rw [hsame]
    exact FrontKept.refl _ _
  · rw [hswitched]
    exact frontKept_handleUserSwitched s.users u

/-- The session of the broker keeps its place under another element. -/
theorem frontKept_checkAndUpdateAncoMediaSession (s : AVSessionService) (uid : Uid)
    (bundleName abilityName : String) :
    FrontKept nobody s.users
      (s.checkAndUpdateAncoMediaSession uid bundleName abilityName).users := by
  unfold checkAndUpdateAncoMediaSession
  split_ifs
  · exact FrontKept.refl _ _
  · cases s.containerOfCaller.getSessionByUid s.users.items uid with
    | none => exact FrontKept.refl _ _
    | some x =>
        have hupdated : FrontKept nobody s.users (s.users.updateSessionForCurrentUser
            (s.users.items x).pid (s.users.items x).abilityName abilityName x).1 :=
          FrontKept.of_same (s.users.updateSessionForCurrentUser_items _ _ _ _)
            (UsersManager.SameLists.updateSessionForCurrentUser s.users _ _ _ _).front
        dsimp only
        split_ifs
        · exact hupdated
        · exact hupdated.trans (FrontKept.withItem x rfl fun _ => ⟨rfl, rfl⟩)

/-- The broker's update of its session creates none. -/
theorem nextSession_checkAndUpdateAncoMediaSession (s : AVSessionService) (uid : Uid)
    (bundleName abilityName : String) :
    (s.checkAndUpdateAncoMediaSession uid bundleName abilityName).nextSession = s.nextSession := by
  unfold checkAndUpdateAncoMediaSession
  split_ifs
  · rfl
  · split
    · rfl
    · dsimp only
      split_ifs <;> rfl

/-- A session is allocated and added to the containers. -/
theorem frontKept_addNewSession (s : AVSessionService) (pid : Pid) (uid : Uid) (type : SessionType)
    (bundleName abilityName : String) (userId : UserId) :
    FrontKept (· = s.nextSession) s.users
      ((s.createNewSession pid uid type bundleName abilityName).users.addSessionForCurrentUser pid
        abilityName s.nextSession userId).1 := by
  have hallocated : FrontKept (· = s.nextSession) s.users
      (s.createNewSession pid uid type bundleName abilityName).users :=
    FrontKept.withItem s.nextSession rfl fun hne => absurd rfl hne
  exact hallocated.trans (FrontKept.of_same
    (UsersManager.addSessionForCurrentUser_items _ _ _ _ _)
    (UsersManager.SameLists.addSessionForCurrentUser _ _ _ _ _).front)

/-- The extra push for voice calls concerns the new session only. -/
theorem frontKept_addExtraFrontSession (m : UsersManager) (x : SessionRef) (type : SessionType) :
    FrontKept (· = x) m (addExtraFrontSession m x type) := by
  unfold addExtraFrontSession
  split_ifs
  · exact frontKept_cons m x _
  · exact FrontKept.refl _ _

/-- A creation allocates the next reference, or it leaves the sessions alone. -/
theorem createSessionForCaller_cases (s : AVSessionService) (pid : Pid) (uid : Uid)
    (type : SessionType) (elementName sessionElement : ElementName) :
    let r := s.createSessionForCaller pid uid type elementName sessionElement
    (FrontKept nobody s.users r.1.users ∧ r.1.nextSession = s.nextSession ∧ r.2 = none) ∨
      (FrontKept (· = s.nextSession) s.users r.1.users ∧ r.1.nextSession = s.nextSession + 1) := by
  have hadd := frontKept_addNewSession s pid uid type sessionElement.bundleName
    sessionElement.abilityName (getUserIdFromCallingUid s.users uid)
  unfold createSessionForCaller
  dsimp only
  split_ifs
  · exact Or.inl ⟨frontKept_checkAndUpdateAncoMediaSession s uid _ _,
      nextSession_checkAndUpdateAncoMediaSession s uid _ _, rfl⟩
  · exact Or.inr ⟨hadd, rfl⟩
  · exact Or.inr ⟨hadd.trans (frontKept_addExtraFrontSession _ s.nextSession type), rfl⟩

/-- What a creation hands out: the session at the next reference, which is not destroyed and is put
into the front list of its user exactly if it is a call. -/
theorem created_createSessionForCaller {pid : Pid} {uid : Uid} {type : SessionType}
    {elementName sessionElement : ElementName}
    (hx : s.createSessionForCaller pid uid type elementName sessionElement = (s', some x))
    (hnew : ∀ v, s.nextSession ∉ s.users.frontByUser v) :
    x = s.nextSession ∧ s'.nextSession = s.nextSession + 1 ∧
      (s'.users.items x).isDestroyed = false ∧
      ∀ v, x ∈ s'.users.frontByUser v ↔
        isCall type = true ∧ v = s'.users.effectiveUser (s'.users.items x).userId := by
  unfold createSessionForCaller at hx
  split_ifs at hx with hability
  · simp at hx
  · dsimp only at hx
    split_ifs at hx with hcode
    · simp at hx
    · simp only [Prod.mk.injEq, Option.some.injEq] at hx
      obtain ⟨rfl, rfl⟩ := hx
      have hself := ServiceInv.items_createNewSession s pid uid type sessionElement.bundleName
        sessionElement.abilityName s.nextSession
      have hitems := UsersManager.addSessionForCurrentUser_items
        (s.createNewSession pid uid type sessionElement.bundleName sessionElement.abilityName).users
        pid sessionElement.abilityName (getUserIdFromCallingUid s.users uid) s.nextSession
      have hfront := (UsersManager.SameLists.addSessionForCurrentUser
        (s.createNewSession pid uid type sessionElement.bundleName sessionElement.abilityName).users
        pid sessionElement.abilityName (getUserIdFromCallingUid s.users uid) s.nextSession).front
      rw [if_pos rfl, ← hitems] at hself
      have hnot : ∀ v, s.nextSession ∉ ((s.createNewSession pid uid type sessionElement.bundleName
          sessionElement.abilityName).users.addSessionForCurrentUser pid sessionElement.abilityName
            s.nextSession (getUserIdFromCallingUid s.users uid)).1.frontByUser v := by
        intro v
        rw [hfront]
        exact hnew v
      refine ⟨rfl, rfl, ?_, fun v => ?_⟩ <;> rw [withUsers_users] <;>
        generalize ((s.createNewSession pid uid type sessionElement.bundleName
          sessionElement.abilityName).users.addSessionForCurrentUser pid sessionElement.abilityName
            s.nextSession (getUserIdFromCallingUid s.users uid)).1 = m at *
      · unfold addExtraFrontSession
        split_ifs <;> exact congrArg AVSessionItem.isDestroyed hself
      · unfold addExtraFrontSession
        by_cases hcall : isCall type = true
        · rw [if_pos ⟨hcall, hnot _⟩, mem_front_setFront]
          split_ifs with hv
          · exact iff_of_true List.mem_cons_self ⟨hcall, hv⟩
          · exact iff_of_false (hnot v) fun h => hv h.2
        · rw [if_neg fun h => hcall h.1]
          exact iff_of_false (hnot v) fun h => hcall h.1

/-- A session is pushed to the front list of the user that `userId` stands for. -/
theorem frontKept_pushFront (m : UsersManager) (x : SessionRef) (userId : UserId) :
    FrontKept (· = x) m (pushFront m x userId) := by
  unfold pushFront
  split_ifs
  · exact FrontKept.refl _ _
  · exact frontKept_cons m x userId

/-- What CreateSessionByCast pushes is in the list afterwards. -/
theorem mem_front_pushFront {m : UsersManager} {userId v : UserId} :
    x ∈ (pushFront m x userId).frontByUser v ↔
      x ∈ m.frontByUser v ∨ v = m.effectiveUser userId := by
  unfold pushFront
  split_ifs with hmem
  · refine (or_iff_left_of_imp ?_).symm
    rintro rfl
    exact hmem
  · rw [mem_front_setFront]
    split_ifs with hv
    · exact iff_of_true List.mem_cons_self (Or.inr hv)
    · exact (or_iff_left hv).symm

/-- A session is moved to another user; no list changes. -/
theorem frontKept_updateSessionForUserChange (m : UsersManager) (oldUserId userId : UserId)
    (x : SessionRef) :
    FrontKept (· = x) m (m.updateSessionForUserChange oldUserId userId (some x)).1 := by
  have hmoved : FrontKept (· = x) m (m.setUserId x userId) :=
    FrontKept.withItem x rfl fun hne => absurd rfl hne
  refine hmoved.trans (FrontKept.of_same ?_ ?_)
  · exact m.updateSessionForUserChange_items x oldUserId userId
  · exact (UsersManager.SameLists.updateSessionForUserChange m oldUserId userId (some x)).front

/-- What `CreateSessionByCast` does with the session that it got. -/
def pushedByCast (s : AVSessionService) (x : SessionRef) (userId : UserId) : UsersManager :=
  if s.carFeature ∧ 0 < userId then
    pushFront (s.users.updateSessionForUserChange (s.users.items x).userId userId (some x)).1 x
      userId
  else pushFront s.users x userId

/-- CreateSessionByCast is an ordinary creation followed by its own push. -/
theorem createSessionByCast_eq (s : AVSessionService) (pid : Pid) (uid : Uid) (userId : UserId) :
    s.createSessionByCast pid uid userId =
      match s.createSessionForCaller pid uid .audio castElement castElement with
      | (s', none) => s'
      | (s', some x) => s'.withUsers (pushedByCast s' x userId) := by
  unfold createSessionByCast pushedByCast
  rw [createSessionInner_castElement]
  rcases s.createSessionForCaller pid uid .audio castElement castElement with ⟨s', _ | x⟩
  · rfl
  · dsimp only
    split_ifs <;> rfl

/-- The push of CreateSessionByCast concerns the new session only. -/
theorem frontKept_pushedByCast (s : AVSessionService) (x : SessionRef) (userId : UserId) :
    FrontKept (· = x) s.users (pushedByCast s x userId) := by
  unfold pushedByCast
  split_ifs
  · exact (frontKept_updateSessionForUserChange _ _ _ _).trans (frontKept_pushFront _ _ _)
  · exact frontKept_pushFront _ _ _

/-- The new session is alive, and in the list of the user of the call and no other. -/
theorem created_pushedByCast (userId : UserId) (hnew : ∀ v, x ∉ s.users.frontByUser v)
    (halive : (s.users.items x).isDestroyed = false) :
    ((pushedByCast s x userId).items x).isDestroyed = false ∧
      ∀ v, x ∈ (pushedByCast s x userId).frontByUser v ↔
        v = (pushedByCast s x userId).effectiveUser userId := by
  have hpush : ∀ m : UsersManager, (∀ v, x ∉ m.frontByUser v) →
      (m.items x).isDestroyed = false → ((pushFront m x userId).items x).isDestroyed = false ∧
        ∀ v, x ∈ (pushFront m x userId).frontByUser v ↔
          v = (pushFront m x userId).effectiveUser userId := by
    intro m hnot halive'
    have hframe : (pushFront m x userId).items = m.items ∧
        (pushFront m x userId).curUserId = m.curUserId := by
      unfold pushFront
      split_ifs <;> exact ⟨rfl, rfl⟩
    refine ⟨hframe.1 ▸ halive', fun v => ?_⟩
    rw [mem_front_pushFront, or_iff_right (hnot v)]
    unfold UsersManager.effectiveUser
    rw [hframe.2]
  unfold pushedByCast
  split_ifs
  · apply hpush
    · intro v
      rw [(UsersManager.SameLists.updateSessionForUserChange s.users _ _ _).front]
      exact hnew v
    · rw [UsersManager.updateSessionForUserChange_items, UsersManager.setUserId_items_self]
      exact halive
  · exact hpush s.users hnew halive

end creation

/-! ## The other handlers -/

/-- Nothing that the registry and the front lists depend on changes. -/
structure Untouched (m m' : UsersManager) : Prop where
  item : ∀ x, (m'.items x).sessionId = (m.items x).sessionId ∧
    (m'.items x).userId = (m.items x).userId ∧
    (m'.items x).isDestroyed = (m.items x).isDestroyed
  all : m'.stackForAll = m.stackForAll
  user : m'.stackByUser = m.stackByUser
  front : m'.frontByUser = m.frontByUser

namespace Untouched

variable {m m' m'' : UsersManager}

/-- A table is an untouched copy of itself. -/
theorem refl (m : UsersManager) : Untouched m m := ⟨fun _ => ⟨rfl, rfl, rfl⟩, rfl, rfl, rfl⟩

/-- Two calls that leave the tables untouched leave them so together. -/
theorem trans (h : Untouched m m') (h' : Untouched m' m'') : Untouched m m'' where
  item x := by
    obtain ⟨hid, huser, hdestroyed⟩ := h.item x
    obtain ⟨hid', huser', hdestroyed'⟩ := h'.item x
    exact ⟨hid'.trans hid, huser'.trans huser, hdestroyed'.trans hdestroyed⟩
  all := h'.all.trans h.all
  user := h'.user.trans h.user
  front := h'.front.trans h.front

/-- Another item for a session. -/
theorem withItem (x : SessionRef) {item : AVSessionItem}
    (hitem : item.sessionId = (m.items x).sessionId ∧ item.userId = (m.items x).userId ∧
      item.isDestroyed = (m.items x).isDestroyed) : Untouched m (m.withItem x item) := by
  refine ⟨fun y => ?_, rfl, rfl, rfl⟩
  rw [UsersManager.withItem_items]
  split_ifs with hyx
  · rw [hyx]
    exact hitem
  · exact ⟨rfl, rfl, rfl⟩

/-- Tables that are untouched keep their front lists. -/
theorem frontKept {exempt : SessionRef → Prop} (h : Untouched m m') : FrontKept exempt m m' where
  sessionId x := (h.item x).1
  item x _ := (h.item x).2
  front x _ u := by rw [h.front]

end Untouched

section handlers

open AVSessionService

variable {s : AVSessionService} {x y : SessionRef}

/-- Handing a session another controller map leaves the tables alone. -/
theorem untouched_setControllers (s : AVSessionService) (x : SessionRef)
    (controllers : ControllerMap) :
    Untouched s.users (s.setControllers x controllers).users :=
  Untouched.withItem x ⟨rfl, rfl, rfl⟩

/-- Destroying a controller leaves the session tables alone. -/
theorem untouched_destroyWithoutReply (s : AVSessionService) (c : ControllerRef) :
    Untouched s.users (s.destroyWithoutReply c).users := by
  unfold destroyWithoutReply
  cases (s.controllerItems c).session with
  | none => exact Untouched.refl _
  | some x => exact untouched_setControllers (s.unbind c) x _

/-- DestroyController leaves the session tables alone. -/
theorem untouched_destroyController (s : AVSessionService) (c : ControllerRef) :
    Untouched s.users (s.destroyController c).users := by
  unfold destroyController
  split_ifs
  · exact Untouched.refl _
  · exact untouched_destroyWithoutReply (s.handleControllerRelease c) c
  · exact untouched_destroyWithoutReply s c

/-- Destroying a controller creates no session. -/
theorem nextSession_destroyWithoutReply (s : AVSessionService) (c : ControllerRef) :
    (s.destroyWithoutReply c).nextSession = s.nextSession := by
  unfold destroyWithoutReply
  split <;> rfl

/-- DestroyController creates no session. -/
theorem nextSession_destroyController (s : AVSessionService) (c : ControllerRef) :
    (s.destroyController c).nextSession = s.nextSession := by
  unfold destroyController
  split_ifs
  · rfl
  · exact nextSession_destroyWithoutReply (s.handleControllerRelease c) c
  · exact nextSession_destroyWithoutReply s c

/-- Destroying a list of controllers leaves the session tables alone. -/
theorem untouched_foldl_destroyWithoutReply (l : List ControllerRef) (s : AVSessionService) :
    Untouched s.users (l.foldl destroyWithoutReply s).users := by
  induction l generalizing s with
  | nil => exact Untouched.refl _
  | cons c l ih => exact (untouched_destroyWithoutReply s c).trans (ih _)

/-- The death of a client's controllers leaves the session tables alone. -/
theorem untouched_clearControllerForClientDied (s : AVSessionService) (pid : Pid) :
    Untouched s.users (s.clearControllerForClientDied pid).users := by
  unfold clearControllerForClientDied
  cases s.controllers[pid]? with
  | none => exact Untouched.refl _
  | some l =>
      have hl := untouched_foldl_destroyWithoutReply l
        { s with controllers := s.controllers.insert pid [] }
      dsimp only
      split_ifs <;> exact hl

/-- The death of a client's controllers creates no session. -/
theorem nextSession_clearControllerForClientDied (s : AVSessionService) (pid : Pid) :
    (s.clearControllerForClientDied pid).nextSession = s.nextSession := by
  have hfold : ∀ (l : List ControllerRef) (s : AVSessionService),
      (l.foldl destroyWithoutReply s).nextSession = s.nextSession := by
    intro l
    induction l with
    | nil => exact fun _ => rfl
    | cons c l ih => exact fun s => (ih _).trans (nextSession_destroyWithoutReply s c)
  unfold clearControllerForClientDied
  cases s.controllers[pid]? with
  | none => rfl
  | some l =>
      have hl := hfold l { s with controllers := s.controllers.insert pid [] }
      dsimp only
      split_ifs <;> exact hl

/-- CreateControllerInner leaves the session tables alone. -/
theorem untouched_createControllerInner (s : AVSessionService) (sessionId : String) (pid : Pid)
    (uid : Uid) : Untouched s.users (s.createControllerInner sessionId pid uid).users := by
  unfold createControllerInner
  cases (s.containerOfClient uid).getSessionById s.users.items sessionId with
  | none => exact Untouched.refl _
  | some x =>
      dsimp only
      split_ifs
      · exact Untouched.refl _
      · exact untouched_setControllers (s.newController pid x true) x _

/-- CreateControllerInner creates no session. -/
theorem nextSession_createControllerInner (s : AVSessionService) (sessionId : String) (pid : Pid)
    (uid : Uid) : (s.createControllerInner sessionId pid uid).nextSession = s.nextSession := by
  unfold createControllerInner
  split
  · rfl
  · split_ifs <;> rfl

/-- GetControllerInner leaves the session tables alone. -/
theorem untouched_getControllerInner (s : AVSessionService) (x : SessionRef) :
    Untouched s.users (s.getControllerInner x).users := by
  unfold getControllerInner
  split_ifs
  · exact Untouched.refl _
  · exact untouched_setControllers (s.newController _ x false) x _

/-- GetControllerInner creates no session. -/
theorem nextSession_getControllerInner (s : AVSessionService) (x : SessionRef) :
    (s.getControllerInner x).nextSession = s.nextSession := by
  unfold getControllerInner
  split_ifs <;> rfl

/-- A call made on a found session keeps the front lists when the call itself only reorders. -/
theorem frontKept_withSession (s : AVSessionService) (sessionId : String)
    {f : UsersManager → SessionRef → UsersManager} (hf : ∀ x, Reordered s.users (f s.users x)) :
    FrontKept nobody s.users (withSession s sessionId f).users := by
  unfold withSession
  cases s.users.getContainerFromAll.getSessionById s.users.items sessionId with
  | none => exact FrontKept.refl _ _
  | some x => exact FrontKept.of_reordered (hf x)

/-- A call made on a found session creates none. -/
theorem nextSession_withSession (s : AVSessionService) (sessionId : String)
    (f : UsersManager → SessionRef → UsersManager) :
    (withSession s sessionId f).nextSession = s.nextSession := by
  unfold withSession
  split <;> rfl

/-- AddKeyEvent leaves the session tables alone. -/
theorem untouched_addKeyEvent (s : AVSessionService) (sessionId : String) :
    Untouched s.users (s.addKeyEvent sessionId).users := by
  unfold addKeyEvent
  cases s.containerOfCaller.getSessionById s.users.items sessionId with
  | none => exact Untouched.refl _
  | some x =>
      dsimp only
      unfold addKeyEventSession
      split_ifs
      · exact Untouched.refl _
      · exact ⟨fun _ => ⟨rfl, rfl, rfl⟩, rfl, rfl, rfl⟩

/-- AddKeyEvent creates no session. -/
theorem nextSession_addKeyEvent (s : AVSessionService) (sessionId : String) :
    (s.addKeyEvent sessionId).nextSession = s.nextSession := by
  unfold addKeyEvent
  split <;> rfl

/-- The lists of a removed user go; here it has none. -/
theorem frontKept_handleUserRemoved (m : UsersManager) {userId : UserId}
    (hnone : m.frontByUser userId = []) : FrontKept nobody m (handleUserRemoved m userId) := by
  refine FrontKept.of_same (m.handleUserRemoved_items userId) ?_
  have hsame := UsersManager.SameLists.foldl_removeIdFromAll m
    (m.getContainerFromUser userId).getAllSessions
  show Function.update (List.foldl _ m _).frontByUser userId [] = _
  rw [hsame.front, ← hnone, Function.update_eq_self]

/-! ### The release -/

/-- DestroyTask marks the session once; a second call finds it destroyed and changes nothing. -/
theorem users_destroyTask_cases (s : AVSessionService) (x : SessionRef) :
    (s.destroyTask x).1.users = s.users ∧ (s.users.items x).isDestroyed = true ∨
      (s.destroyTask x).1.users = s.users.withItem x (destroyedItem (s.users.items x)) := by
  unfold destroyTask
  split_ifs with hdestroyed
  · exact Or.inl ⟨rfl, hdestroyed⟩
  · exact Or.inr (foldl_unbind_users _ _)

/-- The release in the tables moves nobody but the released session. -/
theorem frontKept_releaseUsers (m : UsersManager) (o : Oracle) (x : SessionRef)
    (control : List String) : FrontKept (· = x) m (releaseUsers m o x control) := by
  have helected : FrontKept (· = x) m
      (handleTopSessionRelease m o x (m.effectiveUser (m.items x).userId)) :=
    FrontKept.of_reordered (reordered_handleTopSessionRelease m o x _)
  have hgone := helected.trans (FrontKept.of_same (items_releaseContainers _ x)
    (sameLists_releaseContainers _ x).front)
  exact (hgone.trans (frontKept_updateFrontSession _ o x control false)).trans
    (FrontKept.of_same rfl rfl)

/-- A release leaves the items alone, flags apart. -/
theorem items_releaseUsers (m : UsersManager) (o : Oracle) (x : SessionRef) (control : List String)
    (y : SessionRef) :
    ∃ b, (releaseUsers m o x control).items y = { m.items y with isTop := b } := by
  obtain ⟨b, hb⟩ := (reordered_handleTopSessionRelease m o x
    (m.effectiveUser (m.items x).userId)).items y
  obtain ⟨b', hb'⟩ := items_updateFrontSession (releaseContainers
    (handleTopSessionRelease m o x (m.effectiveUser (m.items x).userId)) x) o x control false y
  refine ⟨b', hb'.trans ?_⟩
  rw [items_releaseContainers, hb]

/-- No session gets into a list by a release. -/
theorem mem_front_of_releaseUsers {m : UsersManager} {o : Oracle} {control : List String}
    {v : UserId} (hy : y ∈ (releaseUsers m o x control).frontByUser v) : y ∈ m.frontByUser v := by
  have hlists := (sameLists_releaseContainers
    (handleTopSessionRelease m o x (m.effectiveUser (m.items x).userId)) x).front
  have hupdated : y ∈ (updateFrontSession (releaseContainers
      (handleTopSessionRelease m o x (m.effectiveUser (m.items x).userId)) x) o x control
        false).frontByUser v := hy
  rw [mem_front_updateFrontSession] at hupdated
  split_ifs at hupdated
  rw [hlists] at hupdated
  exact ((reordered_handleTopSessionRelease m o x _).front v y).mp hupdated

/-- HandleSessionRelease creates no session. -/
theorem nextSession_handleSessionRelease (s : AVSessionService) (o : Oracle) (sessionId : String) :
    (s.handleSessionRelease o sessionId).nextSession = s.nextSession := by
  unfold handleSessionRelease
  split
  · rfl
  · exact (removeControllersNoLock_nextSession _ _).trans (nextSession_destroyTask s _)

/-- A release exempts its session, which is destroyed and in no list that it was not in. -/
theorem frontKept_handleSessionRelease (s : AVSessionService) (o : Oracle) {sessionId : String}
    (hfind : s.users.stackForAll.getSessionById s.users.items sessionId = some x) :
    FrontKept (· = x) s.users (s.handleSessionRelease o sessionId).users ∧
      ((s.handleSessionRelease o sessionId).users.items x).isDestroyed = true ∧
      ∀ v, x ∈ (s.handleSessionRelease o sessionId).users.frontByUser v →
        x ∈ s.users.frontByUser v := by
  have htask : FrontKept (· = x) s.users (s.destroyTask x).1.users ∧
      ((s.destroyTask x).1.users.items x).isDestroyed = true ∧
      (s.destroyTask x).1.users.frontByUser = s.users.frontByUser := by
    rcases users_destroyTask_cases s x with ⟨hsame, hdestroyed⟩ | hdone
    · rw [hsame]
      exact ⟨FrontKept.refl _ _, hdestroyed, rfl⟩
    · rw [hdone, UsersManager.withItem_items, if_pos rfl]
      exact ⟨FrontKept.withItem x rfl fun hne => absurd rfl hne, rfl, rfl⟩
  rw [handleSessionRelease_of_some hfind, removeControllersNoLock_users, withUsers_users]
  generalize (s.destroyTask x).1.users = m at *
  obtain ⟨hkept, hdestroyed, hfront⟩ := htask
  refine ⟨hkept.trans (frontKept_releaseUsers m o x _), ?_, fun v hv => ?_⟩
  · obtain ⟨b, hb⟩ := items_releaseUsers m o x s.controlBundleNameSet x
    rw [hb]
    exact hdestroyed
  · rw [← hfront]
    exact mem_front_of_releaseUsers hv

end handlers

end AvSession.Service
