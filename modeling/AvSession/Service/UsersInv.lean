import AvSession.Service.TopSession

/-!
# The lists of the users

Every list that the service keeps for a user holds registered sessions of that user.

* `UsersInv` — the invariant: the registry, the front lists, the key-event lists and the slots.
* `UsersInv.of_onlyTop` — operations in the frame of `OnlyTop` keep it as soon as they keep the
  slots. The election of another top session does, since it elects from a front list.
* `UsersInv.updateFrontSession`, `UsersInv.addKeyEventSession`, … — the operations on the lists.
* `UsersInv.addSession`, `UsersInv.userChange`, … — the operations on the registry.
-/

namespace AvSession.Service

open Std AvSession.Registry AvSession.Lib.OrderedMap

/-- The lists and the slot of a user hold registered sessions of that user, and the key-event lists
hold none twice. -/
structure UsersInv (m : UsersManager) : Prop where
  registry : RegistryInv m
  positive : ∀ x, m.Registered x → 0 < (m.items x).userId
  front : ∀ u x, x ∈ m.frontByUser u → m.Registered x ∧ (m.items x).userId = u
  keyEvent : ∀ u x, x ∈ m.keyEventByUser u → m.Registered x ∧ (m.items x).userId = u
  keyEvent_nodup : ∀ u, (m.keyEventByUser u).Nodup
  top : ∀ u x, m.topByUser u = some x → m.Registered x ∧ (m.items x).userId = u

/-- A positive user id stands for itself. -/
theorem effectiveUser_of_pos (m : UsersManager) {u : UserId} (h : 0 < u) :
    m.effectiveUser u = u := if_neg (Int.not_le.mpr h)

/-- A positive user id names its own front list. -/
theorem front_of_pos (m : UsersManager) {u : UserId} (h : 0 < u) :
    m.getCurSessionListForFront u = m.frontByUser u := by
  unfold UsersManager.getCurSessionListForFront
  rw [effectiveUser_of_pos m h]

/-- A positive user id names its own key event list. -/
theorem keyEvent_of_pos (m : UsersManager) {u : UserId} (h : 0 < u) :
    m.getCurSessionListForKeyEvent u = m.keyEventByUser u := by
  unfold UsersManager.getCurSessionListForKeyEvent
  rw [effectiveUser_of_pos m h]

namespace UsersInv

variable {m m' : UsersManager} {x : SessionRef} {u : UserId} {o : Oracle}

/-- Empty tables are in order. -/
theorem init {items : Items} (hinj : DistinctIds items) (userId : UserId) :
    UsersInv (UsersManager.init items userId) where
  registry := (TopState.init hinj userId).registry
  positive x hx := by simp [UsersManager.Registered, UsersManager.init, SessionStack.empty] at hx
  front u x hx := by simp [UsersManager.init] at hx
  keyEvent u x hx := by simp [UsersManager.init] at hx
  keyEvent_nodup u := List.nodup_nil
  top u x hx := by simp [UsersManager.init] at hx

/-! ## The top session -/

section top

/-- A call that changes tops only keeps the invariant when the tops stay registered. -/
theorem of_onlyTop (h : UsersInv m) (ht : OnlyTop m m')
    (htop : ∀ u x, m'.topByUser u = some x → m.Registered x ∧ (m.items x).userId = u) :
    UsersInv m' where
  registry := h.registry.of_onlyTop ht
  positive x hx := by
    rw [ht.userId]
    exact h.positive x (ht.registered.mp hx)
  front u x hx := by
    rw [ht.registered, ht.userId]
    exact h.front u x ((ht.front u x).mp hx)
  keyEvent u x hx := by
    rw [ht.registered, ht.userId]
    exact h.keyEvent u x (ht.keyEvent ▸ hx)
  keyEvent_nodup u := ht.keyEvent ▸ h.keyEvent_nodup u
  top u x hx := by
    rw [ht.registered, ht.userId]
    exact htop u x hx

/-- A registered session may become the top. -/
theorem updateTopSession_some (h : UsersInv m) (hx : m.Registered x) :
    UsersInv (updateTopSession m u (some x)) := by
  refine h.of_onlyTop (onlyTop_updateTopSession m u (some x)) fun v y hy => ?_
  rw [topByUser_updateTopSession_some] at hy
  by_cases hv : v = (m.items x).userId
  · subst hv
    rw [Function.update_self, Option.some.injEq] at hy
    subst hy
    exact ⟨hx, rfl⟩
  · rw [Function.update_of_ne hv] at hy
    exact h.top v y hy

/-- The top may be cleared. -/
theorem updateTopSession_none (h : UsersInv m) : UsersInv (updateTopSession m u none) := by
  refine h.of_onlyTop (onlyTop_updateTopSession m u none) fun v y hy => ?_
  rw [topByUser_updateTopSession_none] at hy
  by_cases hv : v = getTargetUserId m u
  · simp [hv] at hy
  · rw [Function.update_of_ne hv] at hy
    exact h.top v y hy

/-- UpdateTopSession keeps the invariant. -/
theorem updateTopSession (h : UsersInv m) {s : Option SessionRef}
    (hs : ∀ x, s = some x → m.Registered x) : UsersInv (updateTopSession m u s) := by
  cases s with
  | none => exact h.updateTopSession_none
  | some x => exact h.updateTopSession_some (hs x rfl)

/-- Moving a registered session to the front of its record keeps the invariant. -/
theorem updateOrder (h : UsersInv m) (hx : m.Registered x) : UsersInv (updateOrder m x) := by
  refine h.of_onlyTop (onlyTop_updateOrder h.registry hx) fun v y hy => ?_
  rw [topByUser_updateOrder] at hy
  exact h.top v y hy

/-- Handing the top on to a registered session keeps the invariant. -/
theorem handleOtherSessionPlaying (h : UsersInv m) (hx : m.Registered x) :
    UsersInv (handleOtherSessionPlaying m x) := by
  have htop := h.updateTopSession_some (u := (m.items x).userId) hx
  unfold AvSession.Service.handleOtherSessionPlaying
  split_ifs
  · exact htop
  · exact htop.updateOrder ((onlyTop_updateTopSession m _ (some x)).registered.mpr hx)

end top

/-! ## The lists -/

section lists

/-- The session that is elected is in the front list, and it plays, here or on another device. -/
theorem elected_of_getOtherPlayingSession {bundleName : String}
    (hx : getOtherPlayingSession m o u bundleName = some x) :
    x ∈ m.getCurSessionListForFront u ∧
      (isOtherPlaying m o x bundleName = true ∨ isCastPlaying m o x = true) := by
  unfold getOtherPlayingSession at hx
  cases hfind : (m.getCurSessionListForFront u).find?
      fun y => isOtherPlaying m o y bundleName with
  | some y =>
      simp only [hfind, Option.some.injEq] at hx
      subst hx
      have hplays := List.find?_some hfind
      exact ⟨List.mem_of_find?_eq_some hfind, Or.inl hplays⟩
  | none =>
      simp only [hfind] at hx
      split_ifs at hx
      rcases hl : m.getCurSessionListForFront u with _ | ⟨first, _ | ⟨second, rest⟩⟩
      · simp [hl] at hx
      · simp [hl] at hx
      · simp only [hl, Option.ite_none_right_eq_some, Option.some.injEq] at hx
        obtain ⟨hcast, rfl⟩ := hx
        have hplays := (Bool.and_eq_true_iff.mp hcast).2
        exact ⟨by simp, Or.inr hplays⟩

/-- The other playing session is in the user's front list. -/
theorem mem_of_getOtherPlayingSession {bundleName : String}
    (hx : getOtherPlayingSession m o u bundleName = some x) :
    x ∈ m.getCurSessionListForFront u :=
  (elected_of_getOtherPlayingSession hx).1

/-- So it is registered, and that user's. -/
theorem registered_of_getOtherPlayingSession (h : UsersInv m) {bundleName : String}
    (hx : getOtherPlayingSession m o u bundleName = some x) :
    m.Registered x ∧ (m.items x).userId = m.effectiveUser u :=
  h.front _ x (mem_of_getOtherPlayingSession hx)

/-- Looking for a new top keeps the invariant. -/
theorem handleTopSessionRelease (h : UsersInv m) : UsersInv (handleTopSessionRelease m o x u) := by
  unfold AvSession.Service.handleTopSessionRelease
  split_ifs
  · cases hother : getOtherPlayingSession m o u (m.items x).bundleName with
    | none => exact h.updateTopSession_none
    | some y =>
        exact h.handleOtherSessionPlaying (h.registered_of_getOtherPlayingSession hother).1
  · exact h

/-- Looking for a new top changes tops only. -/
theorem onlyTop_handleTopSessionRelease (h : UsersInv m) :
    OnlyTop m (AvSession.Service.handleTopSessionRelease m o x u) :=
  AvSession.Service.onlyTop_handleTopSessionRelease o h.registry u
    fun _ _ hy => (h.registered_of_getOtherPlayingSession hy).1

/-- A front list of the user's registered sessions keeps the invariant. -/
theorem setFront (h : UsersInv m) {l : List SessionRef}
    (hl : ∀ y ∈ l, m.Registered y ∧ (m.items y).userId = m.effectiveUser u) :
    UsersInv (setFront m u l) := by
  refine ⟨h.registry.congr rfl rfl rfl, h.positive, fun v y hy => ?_, h.keyEvent,
    h.keyEvent_nodup, h.top⟩
  unfold AvSession.Service.setFront at hy
  by_cases hv : v = m.effectiveUser u
  · subst hv
    simp only [Function.update_self] at hy
    exact hl y hy
  · simp only [Function.update_of_ne hv] at hy
    exact h.front v y hy

/-- A key event list of the user's registered sessions keeps the invariant. -/
theorem setKeyEvent (h : UsersInv m) {l : List SessionRef} (hnodup : l.Nodup)
    (hl : ∀ y ∈ l, m.Registered y ∧ (m.items y).userId = m.effectiveUser u) :
    UsersInv (setKeyEvent m u l) := by
  refine ⟨h.registry.congr rfl rfl rfl, h.positive, h.front, fun v y hy => ?_, fun v => ?_,
    h.top⟩
  · unfold AvSession.Service.setKeyEvent at hy
    by_cases hv : v = m.effectiveUser u
    · subst hv
      simp only [Function.update_self] at hy
      exact hl y hy
    · simp only [Function.update_of_ne hv] at hy
      exact h.keyEvent v y hy
  · unfold AvSession.Service.setKeyEvent
    by_cases hv : v = m.effectiveUser u
    · subst hv
      simpa using hnodup
    · simpa [hv] using h.keyEvent_nodup v

/-- A registered session belongs to the list that its user id stands for. -/
theorem userId_eq_effectiveUser (h : UsersInv m) (hx : m.Registered x) :
    (m.items x).userId = m.effectiveUser (m.items x).userId :=
  (effectiveUser_of_pos m (h.positive x hx)).symm

/-- Pushing a registered session of the user keeps the invariant. -/
theorem pushFront (h : UsersInv m) (hx : m.Registered x)
    (hu : (m.items x).userId = m.effectiveUser u) :
    UsersInv (AvSession.Service.setFront m u (x :: m.getCurSessionListForFront u)) := by
  apply h.setFront
  intro y hy
  rcases List.mem_cons.mp hy with rfl | hy
  · exact ⟨hx, hu⟩
  · exact h.front _ y hy

/-- The extra push for voice calls keeps the invariant. -/
theorem addExtraFrontSession (h : UsersInv m) (hx : m.Registered x) (type : SessionType) :
    UsersInv (addExtraFrontSession m x type) := by
  unfold AvSession.Service.addExtraFrontSession
  split_ifs
  · exact h.pushFront hx (h.userId_eq_effectiveUser hx)
  · exact h

/-- Adding a registered session keeps the invariant. -/
theorem addFrontSession (h : UsersInv m) (hx : m.Registered x) :
    UsersInv (addFrontSession m o x) := by
  have hpush := h.pushFront hx (h.userId_eq_effectiveUser hx)
  unfold AvSession.Service.addFrontSession
  dsimp only
  split_ifs
  · exact h
  · exact hpush.updateTopSession_some hx
  · exact hpush

/-- Taking a session out keeps the invariant. -/
theorem removeFrontSession (h : UsersInv m) : UsersInv (removeFrontSession m o x) := by
  have hr := h.handleTopSessionRelease (o := o) (x := x) (u := (m.items x).userId)
  unfold AvSession.Service.removeFrontSession
  dsimp only
  apply hr.setFront
  intro y hy
  exact hr.front _ y (List.mem_filter.mp hy).1

/-- UpdateFrontSession keeps the invariant. -/
theorem updateFrontSession (h : UsersInv m) (hx : m.Registered x) (control : List String)
    (isAdd : Bool) : UsersInv (updateFrontSession m o x control isAdd) := by
  unfold AvSession.Service.updateFrontSession
  split_ifs
  · exact h
  · exact h
  · exact h.addFrontSession hx
  · exact h.removeFrontSession

/-- Entering a registered key event session keeps the invariant. -/
theorem addKeyEventSession (h : UsersInv m) (hx : m.Registered x) :
    UsersInv (addKeyEventSession m x) := by
  unfold AvSession.Service.addKeyEventSession
  split_ifs with hmem
  · exact h
  · refine h.setKeyEvent ((h.keyEvent_nodup _).cons hmem) fun y hy => ?_
    rcases List.mem_cons.mp hy with rfl | hy
    · exact ⟨hx, h.userId_eq_effectiveUser hx⟩
    · exact h.keyEvent _ y hy

end lists

/-! ## The registry and the account events -/

section registry

/-- The lists are kept by an operation that leaves them alone, as long as the sessions in them stay
registered for their users. -/
theorem of_sameLists (h : UsersInv m) (hsame : UsersManager.SameLists m m')
    (hr : RegistryInv m') (hpos : ∀ x, m'.Registered x → 0 < (m'.items x).userId)
    (hreg : ∀ u x, x ∈ m.frontByUser u ∨ x ∈ m.keyEventByUser u ∨ m.topByUser u = some x →
      m'.Registered x ∧ (m'.items x).userId = (m.items x).userId) : UsersInv m' where
  registry := hr
  positive := hpos
  front u x hx := by
    rw [hsame.front] at hx
    obtain ⟨hx', howner⟩ := hreg u x (Or.inl hx)
    exact ⟨hx', howner.trans (h.front u x hx).2⟩
  keyEvent u x hx := by
    rw [hsame.keyEvent] at hx
    obtain ⟨hx', howner⟩ := hreg u x (Or.inr (Or.inl hx))
    exact ⟨hx', howner.trans (h.keyEvent u x hx).2⟩
  keyEvent_nodup u := hsame.keyEvent ▸ h.keyEvent_nodup u
  top u x hx := by
    rw [hsame.top] at hx
    obtain ⟨hx', howner⟩ := hreg u x (Or.inr (Or.inr hx))
    exact ⟨hx', howner.trans (h.top u x hx).2⟩

/-- Whatever a slot or a list names is registered. -/
theorem registered_of_mem (h : UsersInv m)
    (hx : x ∈ m.frontByUser u ∨ x ∈ m.keyEventByUser u ∨ m.topByUser u = some x) :
    m.Registered x := by
  rcases hx with hx | hx | hx
  · exact (h.front u x hx).1
  · exact (h.keyEvent u x hx).1
  · exact (h.top u x hx).1

/-- A change of an item that keeps the session id, and the owner and the key of a registered
session. -/
theorem withItem (h : UsersInv m) (x : SessionRef) {item : AVSessionItem}
    (hid : item.sessionId = (m.items x).sessionId)
    (howner : m.Registered x → item.userId = (m.items x).userId)
    (hkey : m.Registered x → item.pid = (m.items x).pid ∧
      item.abilityName = (m.items x).abilityName) : UsersInv (m.withItem x item) := by
  have hitem := m.withItem_items x item
  have howner' : ∀ y, m.Registered y →
      ((m.withItem x item).items y).userId = (m.items y).userId := by
    intro y hy
    rw [hitem]
    split_ifs with heq
    · subst heq
      exact howner hy
    · rfl
  refine h.of_sameLists ⟨rfl, rfl, rfl, rfl, rfl⟩ (h.registry.withItem x hid howner hkey)
    (fun y hy => ?_) fun v y hy => ?_
  · rw [howner' y hy]
    exact h.positive y hy
  · have hreg := h.registered_of_mem hy
    exact ⟨hreg, howner' y hreg⟩

/-- A user switch sets the top session of the new user again. -/
theorem handleUserSwitched (h : UsersInv m) (userId : UserId) :
    UsersInv (handleUserSwitched m userId) := by
  have h' : UsersInv (m.handleUserSwitched userId) :=
    ⟨h.registry.congr rfl rfl rfl, h.positive, h.front, h.keyEvent, h.keyEvent_nodup, h.top⟩
  exact h'.updateTopSession fun x hx => (h'.top _ x hx).1

/-- A removed user takes its lists along. -/
theorem handleUserRemoved (h : UsersInv m) (userId : UserId) :
    UsersInv (handleUserRemoved m userId) := by
  have hreg := fun y => h.registry.partition.registered_handleUserRemoved (x := y) h.registry.ids
    userId
  have hitems : (AvSession.Service.handleUserRemoved m userId).items = m.items :=
    m.handleUserRemoved_items userId
  have hsame := UsersManager.SameLists.foldl_removeIdFromAll m
    (m.getContainerFromUser userId).getAllSessions
  have hfront : (AvSession.Service.handleUserRemoved m userId).frontByUser =
      Function.update m.frontByUser userId [] := by
    show Function.update (List.foldl _ m _).frontByUser userId [] = _
    rw [hsame.front]
  have hkeyEvent : (AvSession.Service.handleUserRemoved m userId).keyEventByUser =
      Function.update m.keyEventByUser userId [] := by
    show Function.update (List.foldl _ m _).keyEventByUser userId [] = _
    rw [hsame.keyEvent]
  refine ⟨h.registry.handleUserRemoved userId, fun y hy => ?_, fun v y hy => ?_, fun v y hy => ?_,
    fun v => ?_, fun v y hy => ?_⟩
  · rw [hitems]
    exact h.positive y ((hreg y).mp hy).1
  · rw [hfront] at hy
    by_cases hv : v = userId
    · simp [hv] at hy
    · rw [Function.update_of_ne hv] at hy
      obtain ⟨hyreg, howner⟩ := h.front v y hy
      rw [hitems]
      exact ⟨(hreg y).mpr ⟨hyreg, howner ▸ hv⟩, howner⟩
  · rw [hkeyEvent] at hy
    by_cases hv : v = userId
    · simp [hv] at hy
    · rw [Function.update_of_ne hv] at hy
      obtain ⟨hyreg, howner⟩ := h.keyEvent v y hy
      rw [hitems]
      exact ⟨(hreg y).mpr ⟨hyreg, howner ▸ hv⟩, howner⟩
  · rw [hkeyEvent]
    by_cases hv : v = userId
    · simp [hv]
    · rw [Function.update_of_ne hv]
      exact h.keyEvent_nodup v
  · rw [topByUser_handleUserRemoved] at hy
    by_cases hv : v = userId
    · simp [hv] at hy
    · rw [Function.update_of_ne hv] at hy
      obtain ⟨hyreg, howner⟩ := h.top v y hy
      rw [hitems]
      exact ⟨(hreg y).mpr ⟨hyreg, howner ▸ hv⟩, howner⟩

/-- A session is added by its own key, for the user it carries, which is positive. -/
theorem addSession (h : UsersInv m) (pid : Pid) (abilityName : String)
    (hkeeps : m.stackForAll.sessions.size ≥ SESSION_NUM_MAX ∨
      (m.stackForAll.sessions[(⟨pid, abilityName⟩ : SessionKey)]? = none ∧ ¬ m.Registered x ∧
        (m.items x).userId = m.effectiveUser u ∧ ⟨pid, abilityName⟩ = itemKey m.items x ∧
        0 < (m.items x).userId)) :
    UsersInv (m.addSessionForCurrentUser pid abilityName x u).1 := by
  have hreg : ∀ y, (m.addSessionForCurrentUser pid abilityName x u).1.Registered y ↔
      m.Registered y ∨ (y = x ∧ m.stackForAll.sessions.size < SESSION_NUM_MAX) :=
    fun y => h.registry.partition.registered_addSession (hkeeps.imp_right And.left)
  refine h.of_sameLists (UsersManager.SameLists.addSessionForCurrentUser m pid abilityName u x)
    (h.registry.addSession pid abilityName ?_) (fun y hy => ?_) fun v y hy => ?_
  · exact hkeeps.imp_right fun hk => ⟨hk.1, hk.2.1, hk.2.2.1, hk.2.2.2.1⟩
  · rw [UsersManager.addSessionForCurrentUser_items]
    rcases (hreg y).mp hy with hy | ⟨rfl, hroom⟩
    · exact h.positive y hy
    · exact (hkeeps.resolve_left (by omega)).2.2.2.2
  · rw [UsersManager.addSessionForCurrentUser_items]
    exact ⟨(hreg y).mpr (Or.inl (h.registered_of_mem hy)), rfl⟩

/-- A session that is in no list may change its user. -/
theorem userChange (h : UsersInv m) {oldUserId newUserId : UserId}
    (hkeeps : Partition.UserChangeKeeps m oldUserId newUserId x) (hpos : 0 < newUserId)
    (hfree : ∀ u, ¬ (x ∈ m.frontByUser u ∨ x ∈ m.keyEventByUser u ∨ m.topByUser u = some x)) :
    UsersInv (m.updateSessionForUserChange oldUserId newUserId (some x)).1 := by
  have hreg := fun y => h.registry.partition.registered_userChange_iff (y := y) h.registry.ids
    hkeeps
  have hitems := m.updateSessionForUserChange_items x oldUserId newUserId
  refine h.of_sameLists (UsersManager.SameLists.updateSessionForUserChange m _ _ _)
    (h.registry.userChange hkeeps) (fun y hy => ?_) fun v y hy => ?_
  · rw [hitems]
    rcases (hreg y).mp hy with ⟨hy, hyx⟩ | ⟨rfl, -⟩
    · rw [UsersManager.setUserId_items_of_ne _ _ _ hyx]
      exact h.positive y hy
    · rw [UsersManager.setUserId_items_self]
      exact hpos
  · have hyx : y ≠ x := fun heq => hfree v (heq ▸ hy)
    rw [hitems, UsersManager.setUserId_items_of_ne _ _ _ hyx]
    exact ⟨(hreg y).mpr (Or.inl ⟨h.registered_of_mem hy, hyx⟩), rfl⟩

/-- A registered session of the current user gets another ability, first in the registry and then
in its item. -/
theorem updateElement (h : UsersInv m) (bundleName : String) {abilityName : String}
    (hx : m.Registered x) (hcur : (m.items x).userId = m.curUserId)
    (hnew : abilityName = (m.items x).abilityName ∨
      m.stackForAll.sessions[(⟨(m.items x).pid, abilityName⟩ : SessionKey)]? = none) :
    UsersInv ((m.updateSessionForCurrentUser (m.items x).pid (m.items x).abilityName abilityName
      x).1.withItem x
        { m.items x with bundleName := bundleName, abilityName := abilityName }) := by
  have hk := h.registry.getElem?_itemKey hx
  have hreg := fun y => h.registry.partition.registered_updateForCurrentUser (y := y) hk hnew
  have hsame := UsersManager.SameLists.updateSessionForCurrentUser m (m.items x).pid
    (m.items x).abilityName x abilityName
  have howner := userId_updateElement m x bundleName abilityName
  refine h.of_sameLists ⟨hsame.front, hsame.keyEvent, hsame.top, hsame.curUserId,
    hsame.aliveUsers⟩ (h.registry.updateElement bundleName hx hcur hnew) (fun y hy => ?_)
    fun v y hy => ?_
  · rw [howner]
    exact h.positive y ((hreg y).mp hy)
  · exact ⟨(hreg y).mpr (h.registered_of_mem hy), howner y⟩

end registry

end UsersInv

end AvSession.Service
