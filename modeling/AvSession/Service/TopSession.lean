import AvSession.Service.TopFrame

/-!
# The top session of each user

A session is flagged as the top session exactly while it is in the slot of its user.

* `TopSlots` — the slots hold registered, flagged sessions of their user, and no other registered
  session is flagged.
* `TopSlots.updateTopSession_some`, `TopSlots.updateTopSession_none` — the step lemmas of
  `UpdateTopSession`, from which those of the release and of the account events follow.
* `TopSlots.userChange` — a change of the user keeps the slots as long as the session it moves is
  not flagged.
* `top_always` — along every run whose calls meet their conditions, the invariant holds.
-/

namespace AvSession.Service

open Std AvSession.Registry AvSession.Lib AvSession.Lib.OrderedMap

/-! ## Slots and flags -/

section slots

/-- A slot holds a registered and flagged session of its user, and a registered session that is
flagged is in the slot of its user. -/
structure TopSlots (m : UsersManager) : Prop where
  slot : ∀ u x, m.topByUser u = some x →
    m.Registered x ∧ (m.items x).userId = u ∧ (m.items x).isTop = true
  flag : ∀ x, m.Registered x → (m.items x).isTop = true →
    m.topByUser (m.items x).userId = some x

/-- The invariant of the top sessions as it is stated for the users that are alive: the slot is
empty or holds a registered and flagged session of the user, and no other registered session of the
user is flagged. -/
def TopInvariant (m : UsersManager) : Prop :=
  ∀ u ∈ m.aliveUsers,
    (∀ x, m.topByUser u = some x →
      m.Registered x ∧ (m.items x).userId = u ∧ (m.items x).isTop = true) ∧
    ∀ y, m.Registered y → (m.items y).userId = u → m.topByUser u ≠ some y →
      (m.items y).isTop = false

variable {m m' : UsersManager} {x y : SessionRef} {u : UserId}

/-- The slots' invariant gives the claim's part on tops. -/
theorem TopSlots.topInvariant (h : TopSlots m) : TopInvariant m := by
  intro u _
  refine ⟨h.slot u, fun y hy hu hne => ?_⟩
  by_contra hflag
  apply hne
  rw [← hu]
  exact h.flag y hy (by simpa using hflag)

/-- At the start no slot is taken. -/
theorem TopSlots.empty (items : Items) (userId : UserId) :
    TopSlots (UsersManager.init items userId) := by
  refine ⟨fun u x hx => ?_, fun x hx => ?_⟩
  · simp [UsersManager.init] at hx
  · simp [UsersManager.Registered, UsersManager.init, SessionStack.empty] at hx

/-- The slots depend on the registered sessions, their users and flags, and the slots. -/
theorem TopSlots.congr (h : TopSlots m) (hreg : ∀ x, m'.Registered x ↔ m.Registered x)
    (hitems : m'.items = m.items) (htop : m'.topByUser = m.topByUser) : TopSlots m' := by
  refine ⟨fun u x hx => ?_, fun x hx hflag => ?_⟩
  · rw [htop] at hx
    rw [hreg, hitems]
    exact h.slot u x hx
  · rw [hreg] at hx
    rw [hitems] at hflag ⊢
    rw [htop]
    exact h.flag x hx hflag

end slots

/-! ## `UpdateTopSession` -/

section updateTopSession

variable (m : UsersManager) (x y : SessionRef) (u : UserId) (s : Option SessionRef)

/-- Clearing a flag leaves the slots. -/
theorem topByUser_clearTop : (clearTop m s).topByUser = m.topByUser := by
  cases s <;> rfl

/-- Clearing takes one session's flag. -/
theorem isTop_clearTop :
    ((clearTop m s).items y).isTop = if s = some y then false else (m.items y).isTop := by
  cases s with
  | none => rfl
  | some z =>
      unfold clearTop
      rw [items_setTop]
      by_cases h : y = z
      · simp [h]
      · simp [h, Ne.symm h]

/-- The slot of the session's own user is taken. -/
theorem topByUser_updateTopSession_some : (updateTopSession m u (some x)).topByUser =
    Function.update m.topByUser (m.items x).userId (some x) := by
  show Function.update (clearTop m (m.getTopSession (m.items x).userId)).topByUser
    (m.items x).userId (some x) = _
  rw [topByUser_clearTop]

/-- The slot of the user named is emptied. -/
theorem topByUser_updateTopSession_none : (updateTopSession m u none).topByUser =
    Function.update m.topByUser (getTargetUserId m u) none := by
  show Function.update (clearTop m (m.getTopSession (getTargetUserId m u))).topByUser
    (getTargetUserId m u) none = _
  rw [topByUser_clearTop]

/-- The new top is flagged and the old one of that slot is not. -/
theorem isTop_updateTopSession_some : ((updateTopSession m u (some x)).items y).isTop =
    if y = x then true
    else if m.topByUser (m.items x).userId = some y then false else (m.items y).isTop := by
  unfold updateTopSession
  rw [items_setTop]
  split_ifs with hy htop
  · rfl
  · exact (isTop_clearTop m y _).trans (if_pos htop)
  · exact (isTop_clearTop m y _).trans (if_neg htop)

/-- The old top of the emptied slot is not flagged any more. -/
theorem isTop_updateTopSession_none : ((updateTopSession m u none).items y).isTop =
    if m.topByUser (getTargetUserId m u) = some y then false else (m.items y).isTop :=
  isTop_clearTop m y _

variable {m x}

/-- The old session of the slot loses the flag that the new one gets. -/
theorem TopSlots.updateTopSession_some (h : TopSlots m) (hx : m.Registered x) :
    TopSlots (updateTopSession m u (some x)) := by
  have ht := onlyTop_updateTopSession m u (some x)
  refine ⟨fun v y hy => ?_, fun y hy hflag => ?_⟩
  · rw [topByUser_updateTopSession_some] at hy
    rw [ht.registered, ht.userId, isTop_updateTopSession_some]
    by_cases hv : v = (m.items x).userId
    · subst hv
      rw [Function.update_self, Option.some.injEq] at hy
      subst hy
      exact ⟨hx, rfl, if_pos rfl⟩
    · rw [Function.update_of_ne hv] at hy
      obtain ⟨hreg, howner, hflag⟩ := h.slot v y hy
      refine ⟨hreg, howner, ?_⟩
      have hold : m.topByUser (m.items x).userId ≠ some y := by
        intro hold
        exact hv (howner.symm.trans (h.slot _ y hold).2.1)
      rw [if_neg hold, hflag]
      simp
  · rw [ht.registered] at hy
    rw [isTop_updateTopSession_some] at hflag
    rw [topByUser_updateTopSession_some, ht.userId]
    by_cases hyx : y = x
    · rw [hyx, Function.update_self]
    · rw [if_neg hyx] at hflag
      have hold : m.topByUser (m.items x).userId ≠ some y := by
        intro hold
        simp [hold] at hflag
      rw [if_neg hold] at hflag
      have hslot := h.flag y hy hflag
      have hne : (m.items y).userId ≠ (m.items x).userId := fun heq => hold (heq ▸ hslot)
      rw [Function.update_of_ne hne]
      exact hslot

/-- Emptying a slot keeps flags and slots together. -/
theorem TopSlots.updateTopSession_none (h : TopSlots m) :
    TopSlots (updateTopSession m u none) := by
  have ht := onlyTop_updateTopSession m u none
  refine ⟨fun v y hy => ?_, fun y hy hflag => ?_⟩
  · rw [topByUser_updateTopSession_none] at hy
    rw [ht.registered, ht.userId, isTop_updateTopSession_none]
    by_cases hv : v = getTargetUserId m u
    · subst hv
      simp at hy
    · rw [Function.update_of_ne hv] at hy
      obtain ⟨hreg, howner, hflag⟩ := h.slot v y hy
      refine ⟨hreg, howner, ?_⟩
      have hold : m.topByUser (getTargetUserId m u) ≠ some y := by
        intro hold
        exact hv (howner.symm.trans (h.slot _ y hold).2.1)
      rw [if_neg hold, hflag]
  · rw [ht.registered] at hy
    rw [isTop_updateTopSession_none] at hflag
    rw [topByUser_updateTopSession_none, ht.userId]
    have hold : m.topByUser (getTargetUserId m u) ≠ some y := by
      intro hold
      simp [hold] at hflag
    rw [if_neg hold] at hflag
    have hslot := h.flag y hy hflag
    have hne : (m.items y).userId ≠ getTargetUserId m u := fun heq => hold (heq ▸ hslot)
    rw [Function.update_of_ne hne]
    exact hslot

end updateTopSession

/-! ## The release of a top session -/

section release

variable {m : UsersManager} {x : SessionRef} {o : Oracle} {u : UserId}

/-- Moving within a record writes no item. -/
theorem items_updateOrder (m : UsersManager) (x : SessionRef) :
    (updateOrder m x).items = m.items := by
  unfold updateOrder moveToFront
  split_ifs <;> rfl

/-- Moving within a record leaves the slots. -/
theorem topByUser_updateOrder (m : UsersManager) (x : SessionRef) :
    (updateOrder m x).topByUser = m.topByUser := by
  unfold updateOrder moveToFront
  split_ifs <;> rfl

/-- Moving within a record keeps flags and slots together. -/
theorem TopSlots.updateOrder (h : TopSlots m) (hr : RegistryInv m) (hx : m.Registered x) :
    TopSlots (updateOrder m x) :=
  h.congr (fun _ => (onlyTop_updateOrder hr hx).registered) (items_updateOrder m x)
    (topByUser_updateOrder m x)

/-- Handing the top on keeps flags and slots together. -/
theorem TopSlots.handleOtherSessionPlaying (h : TopSlots m) (hr : RegistryInv m)
    (hx : m.Registered x) : TopSlots (handleOtherSessionPlaying m x) := by
  have ht := onlyTop_updateTopSession m (m.items x).userId (some x)
  have htop := h.updateTopSession_some (m.items x).userId hx
  unfold AvSession.Service.handleOtherSessionPlaying
  split_ifs
  · exact htop
  · exact htop.updateOrder (hr.of_onlyTop ht) (ht.registered.mpr hx)

/-- Looking for a new top keeps flags and slots together. -/
theorem TopSlots.handleTopSessionRelease (h : TopSlots m) (hr : RegistryInv m)
    (hy : m.topByUser u = some x →
      ∀ y, getOtherPlayingSession m o u (m.items x).bundleName = some y → m.Registered y) :
    TopSlots (handleTopSessionRelease m o x u) := by
  unfold AvSession.Service.handleTopSessionRelease
  split_ifs with htop
  · cases hother : getOtherPlayingSession m o u (m.items x).bundleName with
    | none => exact h.updateTopSession_none u
    | some y => exact h.handleOtherSessionPlaying hr (hy htop y hother)
  · exact h

end release

/-! ## Registrations and account events -/

section registrations

variable {m : UsersManager} {x : SessionRef} {u oldUserId newUserId : UserId}

/-- A change of the user keeps the slots if it moves a session that is not flagged. A flagged one
has to come back to the slot it is in, or not to be registered at all. -/
theorem TopSlots.userChange (h : TopSlots m) (hr : RegistryInv m)
    (hkeeps : Partition.UserChangeKeeps m oldUserId newUserId x)
    (hflag : (m.items x).isTop = false ∨ (m.Registered x ∧ newUserId = (m.items x).userId) ∨
      (¬ m.Registered x ∧ (m.stackByUser newUserId).sessions.size ≥ SESSION_NUM_MAX)) :
    TopSlots (m.updateSessionForUserChange oldUserId newUserId (some x)).1 := by
  have hreg := fun y => hr.partition.registered_userChange_iff (y := y) hr.ids hkeeps
  have htop := (UsersManager.SameLists.updateSessionForUserChange m oldUserId newUserId
    (some x)).top
  have hitems := m.updateSessionForUserChange_items x oldUserId newUserId
  refine ⟨fun v y hy => ?_, fun y hy hyflag => ?_⟩
  · rw [htop] at hy
    obtain ⟨hyreg, howner, hyflag⟩ := h.slot v y hy
    rw [hreg, hitems]
    by_cases hyx : y = x
    · subst hyx
      rcases hflag with hflag | ⟨-, hnew⟩ | ⟨hnot, -⟩
      · simp [hyflag] at hflag
      · rw [UsersManager.setUserId_items_self]
        exact ⟨Or.inr ⟨rfl, Or.inl hyreg⟩, hnew.trans howner, hyflag⟩
      · exact absurd hyreg hnot
    · rw [UsersManager.setUserId_items_of_ne _ _ _ hyx]
      exact ⟨Or.inl ⟨hyreg, hyx⟩, howner, hyflag⟩
  · rw [hreg] at hy
    rw [hitems] at hyflag ⊢
    rw [htop]
    rcases hy with ⟨hyreg, hyx⟩ | ⟨rfl, hyreg⟩
    · rw [UsersManager.setUserId_items_of_ne _ _ _ hyx] at hyflag ⊢
      exact h.flag y hyreg hyflag
    · rw [UsersManager.setUserId_items_self] at hyflag ⊢
      rcases hflag with hflag | ⟨hyreg', hnew⟩ | ⟨hnot, hfull⟩
      · simp [hflag] at hyflag
      · show m.topByUser newUserId = some y
        rw [hnew]
        exact h.flag y hyreg' hyflag
      · rcases hyreg with hyreg | hroom
        · exact absurd hyreg hnot
        · omega

/-- A user change that keeps the partition keeps the registry. -/
theorem RegistryInv.userChange (hr : RegistryInv m)
    (hkeeps : Partition.UserChangeKeeps m oldUserId newUserId x) :
    RegistryInv (m.updateSessionForUserChange oldUserId newUserId (some x)).1 where
  partition := (hr.partition.updateForUserChange_iff hr.ids).mpr hkeeps
  ids := by
    intro y z hyz
    exact hr.ids (by simpa using hyz)
  ownKey := by
    have hitems := m.updateSessionForUserChange_items x oldUserId newUserId
    have hkey : ∀ y, itemKey (m.setUserId x newUserId).items y = itemKey m.items y := by
      intro y
      unfold itemKey
      by_cases hyx : y = x
      · rw [hyx, UsersManager.setUserId_items_self]
      · rw [UsersManager.setUserId_items_of_ne _ _ _ hyx]
    have hdetach : ∀ (k : SessionKey) y,
        (m.detachForUserChange oldUserId newUserId x).stackForAll.sessions[k]? = some y →
          k = itemKey m.items y :=
      fun k y hy => hr.ownKey k y ((Partition.stackForAll_detach_iff hr.ids).mp hy).1
    intro k y hy
    rw [hitems, hkey]
    rw [UsersManager.updateSessionForUserChange_some] at hy
    rcases (m.detachForUserChange oldUserId newUserId x).attachForUserChange_cases newUserId
      (m.items x).pid (m.items x).abilityName x with ⟨-, ha⟩ | ⟨-, -, ha⟩ | ⟨-, -, ha⟩
    · rw [ha] at hy
      exact hdetach k y hy
    · rw [ha] at hy
      exact hdetach k y hy
    · rw [ha] at hy
      have hy' : ((m.detachForUserChange oldUserId newUserId x).stackForAll.push
        (itemKey m.items x) x).sessions[k]? = some y := hy
      cases hnone : (m.detachForUserChange oldUserId newUserId x).stackForAll.sessions[
          itemKey m.items x]? with
      | none =>
          rcases (push_eq_some_iff hnone).mp hy' with ⟨rfl, rfl⟩ | hy
          · rfl
          · exact hdetach k y hy
      | some z =>
          rw [SessionStack.push, insertIfNew_of_some hnone] at hy'
          exact hdetach k y hy'

/-- An addition to a registry with room, by the key and for the user of the session. -/
theorem RegistryInv.addSession (hr : RegistryInv m) (pid : Pid) (abilityName : String)
    (hkeeps : m.stackForAll.sessions.size ≥ SESSION_NUM_MAX ∨
      (m.stackForAll.sessions[(⟨pid, abilityName⟩ : SessionKey)]? = none ∧ ¬ m.Registered x ∧
        (m.items x).userId = m.effectiveUser u ∧ ⟨pid, abilityName⟩ = itemKey m.items x)) :
    RegistryInv (m.addSessionForCurrentUser pid abilityName x u).1 where
  partition := hr.partition.addSession_iff.mpr (by tauto)
  ids := by
    rw [UsersManager.addSessionForCurrentUser_items]
    exact hr.ids
  ownKey := by
    intro k y hy
    rw [UsersManager.addSessionForCurrentUser_items]
    by_cases hfull : m.stackForAll.sessions.size ≥ SESSION_NUM_MAX
    · rw [UsersManager.addSessionForCurrentUser_of_full hfull] at hy
      exact hr.ownKey k y hy
    · have hsize : m.stackForAll.sessions.size < SESSION_NUM_MAX := by omega
      obtain ⟨hk, -, -, hown⟩ := hkeeps.resolve_left hfull
      rw [UsersManager.addSessionForCurrentUser_of_not_full hsize
        (hr.partition.room_user hsize _)] at hy
      rcases (push_eq_some_iff hk).mp hy with ⟨rfl, rfl⟩ | hy
      · exact hown
      · exact hr.ownKey k y hy

/-- An addition for a session that is not flagged. -/
theorem TopSlots.addSession (h : TopSlots m) (hr : RegistryInv m) (pid : Pid)
    (abilityName : String) (hkeeps : m.stackForAll.sessions.size ≥ SESSION_NUM_MAX ∨
      (m.stackForAll.sessions[(⟨pid, abilityName⟩ : SessionKey)]? = none ∧
        (m.items x).isTop = false)) :
    TopSlots (m.addSessionForCurrentUser pid abilityName x u).1 := by
  by_cases hfull : m.stackForAll.sessions.size ≥ SESSION_NUM_MAX
  · rw [UsersManager.addSessionForCurrentUser_of_full hfull]
    exact h
  · have hsize : m.stackForAll.sessions.size < SESSION_NUM_MAX := by omega
    obtain ⟨hk, hflag⟩ := hkeeps.resolve_left hfull
    rw [UsersManager.addSessionForCurrentUser_of_not_full hsize (hr.partition.room_user hsize _)]
    refine ⟨fun v y hy => ?_, fun y hy hyflag => ?_⟩
    · obtain ⟨hyreg, hrest⟩ := h.slot v y hy
      exact ⟨(Partition.registered_pushBoth hk).mpr (Or.inl hyreg), hrest⟩
    · rcases (Partition.registered_pushBoth hk).mp hy with hyreg | rfl
      · exact h.flag y hyreg hyflag
      · exact absurd (hflag.symm.trans hyflag) (by decide)

/-- No session changes its owner when one gets another element. -/
theorem userId_updateElement (m : UsersManager) (x : SessionRef) (bundleName abilityName : String)
    (y : SessionRef) :
    (((m.updateSessionForCurrentUser (m.items x).pid (m.items x).abilityName abilityName
      x).1.withItem x
        { m.items x with bundleName := bundleName, abilityName := abilityName }).items y).userId =
      (m.items y).userId := by
  rw [UsersManager.withItem_items, m.updateSessionForCurrentUser_items]
  split_ifs with hyx
  · rw [hyx]
  · rfl

/-- A session of the current user gets another element, whose ability is its own or free. -/
theorem RegistryInv.updateElement (hr : RegistryInv m) (bundleName : String) {abilityName : String}
    (hx : m.Registered x) (hcur : (m.items x).userId = m.curUserId)
    (hnew : abilityName = (m.items x).abilityName ∨
      m.stackForAll.sessions[(⟨(m.items x).pid, abilityName⟩ : SessionKey)]? = none) :
    RegistryInv ((m.updateSessionForCurrentUser (m.items x).pid (m.items x).abilityName abilityName
      x).1.withItem x
        { m.items x with bundleName := bundleName, abilityName := abilityName }) := by
  have hk : m.stackForAll.sessions[(⟨(m.items x).pid, (m.items x).abilityName⟩ : SessionKey)]? =
      some x := hr.getElem?_itemKey hx
  have hitems := m.updateSessionForCurrentUser_items (m.items x).pid (m.items x).abilityName x
    abilityName
  have hpart : Partition (m.updateSessionForCurrentUser (m.items x).pid
      (m.items x).abilityName abilityName x).1 := by
    refine hr.partition.updateForCurrentUser_iff.mpr fun r hr' => ?_
    rw [hk, Option.some.injEq] at hr'
    exact ⟨hnew, Or.inl hr', hcur⟩
  have hall : ∀ (k : SessionKey) y, (m.updateSessionForCurrentUser (m.items x).pid
      (m.items x).abilityName abilityName x).1.stackForAll.sessions[k]? = some y →
        (y = x ∧ k = ⟨(m.items x).pid, abilityName⟩) ∨ (y ≠ x ∧ k = itemKey m.items y) := by
    intro k y hy
    rw [hr.partition.updateForCurrentUser_of_some hk,
      UsersManager.removeSessionForAllUser_of_some hk] at hy
    have hnone := Partition.getElem?_removeSession_eq_none_iff.mpr hnew
    rcases (push_eq_some_iff hnone).mp hy with ⟨rfl, rfl⟩ | hy
    · exact Or.inl ⟨rfl, rfl⟩
    · obtain ⟨hy, hne⟩ := (removeSession_eq_some_iff _).mp hy
      have hown := hr.ownKey k y hy
      refine Or.inr ⟨fun heq => hne ?_, hown⟩
      rw [hown, heq]
      rfl
  generalize hm₁ : (m.updateSessionForCurrentUser (m.items x).pid (m.items x).abilityName
    abilityName x).1 = m₁ at *
  have hitem : ∀ y, (m₁.withItem x
      { m.items x with bundleName := bundleName, abilityName := abilityName }).items y =
        if y = x then { m.items x with bundleName := bundleName, abilityName := abilityName }
        else m.items y := by
    intro y
    rw [UsersManager.withItem_items, hitems]
  refine ⟨hpart.withItem x fun _ => by rw [hitems], fun y z hyz => ?_, fun k y hy => ?_⟩
  · have hid : ∀ y, ((m₁.withItem x { m.items x with
        bundleName := bundleName, abilityName := abilityName }).items y).sessionId =
          (m.items y).sessionId := by
      intro y
      rw [hitem]
      split_ifs with hyx
      · rw [hyx]
      · rfl
    exact hr.ids (by simpa only [hid] using hyz)
  · unfold itemKey
    rw [hitem]
    rcases hall k y hy with ⟨rfl, rfl⟩ | ⟨hyx, rfl⟩
    · rw [if_pos rfl]
    · rw [if_neg hyx]
      rfl

/-- Removing a user keeps the registry. -/
theorem RegistryInv.handleUserRemoved (hr : RegistryInv m) (u : UserId) :
    RegistryInv (handleUserRemoved m u) where
  partition := hr.partition.handleUserRemoved hr.ids u
  ids := by
    unfold AvSession.Service.handleUserRemoved
    rw [UsersManager.handleUserRemoved_items]
    exact hr.ids
  ownKey := by
    obtain ⟨s, -, heq, hmem⟩ := hr.partition.handleUserRemoved_eq hr.ids u
    unfold AvSession.Service.handleUserRemoved
    rw [heq]
    exact fun k y hy => hr.ownKey k y ((hmem k y).mp hy).1

/-- Removing a user empties that user's slot. -/
theorem topByUser_handleUserRemoved (m : UsersManager) (u : UserId) :
    (handleUserRemoved m u).topByUser = Function.update m.topByUser u none := by
  have hsame := UsersManager.SameLists.foldl_removeIdFromAll m
    (m.getContainerFromUser u).getAllSessions
  show Function.update (List.foldl _ m _).topByUser u none = _
  rw [hsame.top]

/-- The sessions of a removed user go with its slot. -/
theorem TopSlots.handleUserRemoved (h : TopSlots m) (hr : RegistryInv m) (u : UserId) :
    TopSlots (handleUserRemoved m u) := by
  have hreg := fun y => hr.partition.registered_handleUserRemoved (x := y) hr.ids u
  have hitems : (AvSession.Service.handleUserRemoved m u).items = m.items :=
    m.handleUserRemoved_items u
  refine ⟨fun v y hy => ?_, fun y hy hyflag => ?_⟩
  · rw [topByUser_handleUserRemoved] at hy
    by_cases hv : v = u
    · subst hv
      simp at hy
    · rw [Function.update_of_ne hv] at hy
      obtain ⟨hyreg, howner, hyflag⟩ := h.slot v y hy
      rw [hitems]
      exact ⟨(hreg y).mpr ⟨hyreg, howner ▸ hv⟩, howner, hyflag⟩
  · rw [hitems] at hyflag ⊢
    obtain ⟨hyreg, hne⟩ := (hreg y).mp hy
    rw [topByUser_handleUserRemoved, Function.update_of_ne hne]
    exact h.flag y hyreg hyflag

/-- The top session of the new current user is set again. -/
theorem TopSlots.handleUserSwitched (h : TopSlots m) (u : UserId) :
    TopSlots (handleUserSwitched m u) := by
  have h' : TopSlots (m.handleUserSwitched u) := ⟨h.slot, h.flag⟩
  unfold AvSession.Service.handleUserSwitched
  dsimp only
  cases htop : (m.handleUserSwitched u).getTopSession (m.handleUserSwitched u).curUserId with
  | none => exact h'.updateTopSession_none u
  | some x => exact h'.updateTopSession_some u (h'.slot _ x htop).1

/-- A user switch keeps the registry. -/
theorem RegistryInv.handleUserSwitched (hr : RegistryInv m) (u : UserId) :
    RegistryInv (handleUserSwitched m u) := by
  have hr' : RegistryInv (m.handleUserSwitched u) := hr.congr rfl rfl rfl
  exact hr'.of_onlyTop (onlyTop_updateTopSession _ u _)

end registrations

/-! ## Runs -/

section runs

/-- A call of one of the operations on the top sessions, an account event, the addition of a
session, or any change of a front list by the rest of the service. -/
inductive TopOp
  | updateTopSession (newTopSession : Option SessionRef) (userId : UserId)
  | handleTopSessionRelease (o : Oracle) (userId : UserId) (sessionItem : SessionRef)
  | updateSessionForUserChange (oldUserId newUserId : UserId) (item : Option SessionRef)
  | userSwitched (userId : UserId)
  | userRemoved (userId : UserId)
  | addSession (pid : Pid) (abilityName : String) (item : SessionRef) (userId : UserId)
  | setFront (userId : UserId) (l : List SessionRef)

/-- The state after a call. -/
def TopOp.step (m : UsersManager) : TopOp → UsersManager
  | updateTopSession newTopSession userId =>
      AvSession.Service.updateTopSession m userId newTopSession
  | handleTopSessionRelease o userId sessionItem =>
      AvSession.Service.handleTopSessionRelease m o sessionItem userId
  | updateSessionForUserChange oldUserId newUserId item =>
      (m.updateSessionForUserChange oldUserId newUserId item).1
  | userSwitched userId => handleUserSwitched m userId
  | userRemoved userId => handleUserRemoved m userId
  | addSession pid abilityName item userId =>
      (m.addSessionForCurrentUser pid abilityName item userId).1
  | setFront userId l => AvSession.Service.setFront m userId l

/-- The condition on a call. -/
def TopOp.Keeps (m : UsersManager) : TopOp → Prop
  | updateTopSession newTopSession _ => ∀ x, newTopSession = some x → m.Registered x
  | handleTopSessionRelease o userId sessionItem =>
      m.topByUser userId = some sessionItem → ∀ y,
        getOtherPlayingSession m o userId (m.items sessionItem).bundleName = some y →
          m.Registered y
  | updateSessionForUserChange oldUserId newUserId item =>
      ∀ x, item = some x → Partition.UserChangeKeeps m oldUserId newUserId x ∧
        ((m.items x).isTop = false ∨
          (m.Registered x ∧ newUserId = (m.items x).userId) ∨
          (¬ m.Registered x ∧ (m.stackByUser newUserId).sessions.size ≥ SESSION_NUM_MAX))
  | addSession pid abilityName item userId =>
      m.stackForAll.sessions.size ≥ SESSION_NUM_MAX ∨
        (m.stackForAll.sessions[(⟨pid, abilityName⟩ : SessionKey)]? = none ∧
          ¬ m.Registered item ∧ (m.items item).userId = m.effectiveUser userId ∧
          ⟨pid, abilityName⟩ = itemKey m.items item ∧ (m.items item).isTop = false)
  | _ => True

/-- What the runs preserve: the registry and the slots. -/
structure TopState (m : UsersManager) : Prop where
  registry : RegistryInv m
  slots : TopSlots m

/-- Every operation keeps registry and tops. -/
theorem TopState.step {m : UsersManager} (h : TopState m) (op : TopOp) (hkeeps : op.Keeps m) :
    TopState (op.step m) := by
  obtain ⟨hr, hs⟩ := h
  cases op with
  | updateTopSession newTopSession userId =>
      refine ⟨hr.of_onlyTop (onlyTop_updateTopSession m userId newTopSession), ?_⟩
      cases newTopSession with
      | none => exact hs.updateTopSession_none userId
      | some x => exact hs.updateTopSession_some userId (hkeeps x rfl)
  | handleTopSessionRelease o userId sessionItem =>
      exact ⟨hr.of_onlyTop (onlyTop_handleTopSessionRelease o hr userId hkeeps),
        hs.handleTopSessionRelease hr hkeeps⟩
  | updateSessionForUserChange oldUserId newUserId item =>
      cases item with
      | none => exact ⟨hr, hs⟩
      | some x =>
          obtain ⟨hpart, hflag⟩ := hkeeps x rfl
          exact ⟨hr.userChange hpart, hs.userChange hr hpart hflag⟩
  | userSwitched userId => exact ⟨hr.handleUserSwitched userId, hs.handleUserSwitched userId⟩
  | userRemoved userId => exact ⟨hr.handleUserRemoved userId, hs.handleUserRemoved hr userId⟩
  | addSession pid abilityName item userId =>
      refine ⟨hr.addSession pid abilityName ?_, hs.addSession hr pid abilityName ?_⟩
      · exact hkeeps.imp_right fun hk => ⟨hk.1, hk.2.1, hk.2.2.1, hk.2.2.2.1⟩
      · exact hkeeps.imp_right fun hk => ⟨hk.1, hk.2.2.2.2⟩
  | setFront userId l =>
      exact ⟨hr.congr rfl rfl rfl, ⟨hs.slot, hs.flag⟩⟩

/-- Empty tables keep both. -/
theorem TopState.init {items : Items} (hinj : DistinctIds items) (userId : UserId) :
    TopState (UsersManager.init items userId) := by
  refine ⟨⟨Partition.empty items userId, hinj, fun k x hk => ?_⟩, TopSlots.empty items userId⟩
  simp [UsersManager.init, SessionStack.empty] at hk

/-- Along a run from the initial state whose calls meet their conditions, the top-session invariant
holds in every state. -/
theorem top_always (items : Items) (userId : UserId) (hinj : DistinctIds items) (ops : List TopOp)
    (hops : Meets (fun m op => TopOp.step m op) (fun m op => op.Keeps m)
      (UsersManager.init items userId) ops) :
    Always (fun m op => TopOp.step m op) TopInvariant (UsersManager.init items userId) ops :=
  (always_of_meets (fun _ op h hkeeps => h.step op hkeeps) (TopState.init hinj userId) hops).mono
    fun _ h => h.slots.topInvariant

/-- A session becomes the top session of the current user, and the user is switched. -/
theorem top_kept_across_switch :
    Always (fun m op => TopOp.step m op) TopInvariant
      (UsersManager.init (numberedItems 100) 100)
      [.addSession 1 "a" 0 100, .updateTopSession (some 0) 100, .userSwitched 101] := by
  refine top_always (numberedItems 100) 100 (distinctIds_numberedItems 100) _ ?_
  refine ⟨Or.inr ⟨by decide, ?_, by decide, by decide, by decide⟩, ?_, trivial, trivial⟩
  · simp [UsersManager.Registered, UsersManager.init, SessionStack.empty]
  · intro x hx
    obtain rfl : 0 = x := Option.some.inj hx
    exact ⟨⟨1, "a"⟩, by decide⟩

/-- The top session of user 100 is moved to user 101: the slot of user 100 still holds it. -/
theorem top_breaks_on_userChange :
    ¬ Always (fun m op => TopOp.step m op) TopInvariant
      (UsersManager.init (numberedItems 100) 100)
      [.addSession 1 "a" 0 100, .updateTopSession (some 0) 100,
        .updateSessionForUserChange 100 101 (some 0)] := by
  intro h
  have halive := h.last 100 (by decide)
  have howner := (halive.1 0 (by decide)).2.1
  exact absurd howner (by decide)

end runs

end AvSession.Service
