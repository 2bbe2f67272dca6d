import AvSession.Registry.Partition
import AvSession.Service.Operations

/-!
# What a change of the top session leaves alone

A change of the top session flags and unflags sessions, fills and empties slots, and puts a session
at the head of its lists. Nothing else of the registry changes.

* `OnlyTop` — the frame: the same containers up to the order of a user's sessions, the same sessions
  in the lists, the same items up to the flag. `Reordered` is what is left of it when the session
  that is moved need not be registered.
* `reordered_handleTopSessionRelease` — a release elects within that weaker frame, whatever the
  front list holds.
* `onlyTop_updateTopSession`, `onlyTop_updateOrder`, `onlyTop_handleTopSessionRelease` — the
  operations that stay in the frame.
* `RegistryInv` — what the operations of the service rely on: the partition, distinct ids, and each
  session under the key made of its own pid and ability. `RegistryInv.of_onlyTop` carries it along
  the frame.
-/

namespace AvSession.Service

open Std AvSession.Registry AvSession.Lib.OrderedMap

/-! ## The frame -/

section frame

/-- Only flags, slots and orders differ, and perhaps the containers of the users. -/
structure Reordered (m m' : UsersManager) : Prop where
  all : m'.stackForAll = m.stackForAll
  items : ∀ x, ∃ b, m'.items x = { m.items x with isTop := b }
  front : ∀ u x, x ∈ m'.frontByUser u ↔ x ∈ m.frontByUser u
  keyEvent : m'.keyEventByUser = m.keyEventByUser
  curUserId : m'.curUserId = m.curUserId
  aliveUsers : m'.aliveUsers = m.aliveUsers

/-- Only flags, slots and orders differ. -/
structure OnlyTop (m m' : UsersManager) : Prop extends Reordered m m' where
  user : ∀ u (k : SessionKey), (m'.stackByUser u).sessions[k]? = (m.stackByUser u).sessions[k]?
  rep : ∀ u, Rep (m.stackByUser u) → Rep (m'.stackByUser u)

variable {m m' m'' : UsersManager} {x : SessionRef}

namespace Reordered

/-- A table is its own reordering. -/
theorem refl (m : UsersManager) : Reordered m m :=
  ⟨rfl, fun x => ⟨(m.items x).isTop, rfl⟩, fun _ _ => Iff.rfl, rfl, rfl, rfl⟩

/-- Two reorderings are one. -/
theorem trans (h : Reordered m m') (h' : Reordered m' m'') : Reordered m m'' where
  all := h'.all.trans h.all
  items x := by
    obtain ⟨b, hb⟩ := h.items x
    obtain ⟨b', hb'⟩ := h'.items x
    exact ⟨b', by rw [hb', hb]⟩
  front u x := (h'.front u x).trans (h.front u x)
  keyEvent := h'.keyEvent.trans h.keyEvent
  curUserId := h'.curUserId.trans h.curUserId
  aliveUsers := h'.aliveUsers.trans h.aliveUsers

/-- A reordering moves nobody to another user. -/
theorem userId (h : Reordered m m') (x : SessionRef) :
    (m'.items x).userId = (m.items x).userId := by
  obtain ⟨b, hb⟩ := h.items x
  rw [hb]

/-- A reordering leaves the ids. -/
theorem sessionId (h : Reordered m m') (x : SessionRef) :
    (m'.items x).sessionId = (m.items x).sessionId := by
  obtain ⟨b, hb⟩ := h.items x
  rw [hb]

/-- A reordering leaves the keys. -/
theorem itemKey (h : Reordered m m') (x : SessionRef) :
    itemKey m'.items x = itemKey m.items x := by
  obtain ⟨b, hb⟩ := h.items x
  unfold AvSession.Registry.itemKey
  rw [hb]

/-- A reordering leaves the registered sessions. -/
theorem registered (h : Reordered m m') : m'.Registered x ↔ m.Registered x := by
  unfold UsersManager.Registered
  rw [h.all]

/-- A reordering leaves the current user. -/
theorem effectiveUser (h : Reordered m m') (u : UserId) :
    m'.effectiveUser u = m.effectiveUser u := by
  unfold UsersManager.effectiveUser
  rw [h.curUserId]

/-- A reordering leaves the user a call is for. -/
theorem getTargetUserId (h : Reordered m m') (u : UserId) :
    getTargetUserId m' u = getTargetUserId m u := by
  unfold AvSession.Service.getTargetUserId UsersManager.isUserAlive
  rw [h.curUserId, h.aliveUsers]

end Reordered

namespace OnlyTop

/-- A table has its own tops. -/
theorem refl (m : UsersManager) : OnlyTop m m := ⟨Reordered.refl m, fun _ _ => rfl, fun _ h => h⟩

/-- Two calls that change tops only do so together. -/
theorem trans (h : OnlyTop m m') (h' : OnlyTop m' m'') : OnlyTop m m'' where
  toReordered := h.toReordered.trans h'.toReordered
  user u k := (h'.user u k).trans (h.user u k)
  rep u hu := h'.rep u (h.rep u hu)

end OnlyTop

end frame

/-! ## The registry the service relies on -/

section registry

/-- Every registered session is under the key made of its own pid and ability. -/
def OwnKey (m : UsersManager) : Prop :=
  ∀ (k : SessionKey) x, m.stackForAll.sessions[k]? = some x → k = itemKey m.items x

/-- What the operations of the service rely on. -/
structure RegistryInv (m : UsersManager) : Prop where
  partition : Partition m
  ids : DistinctIds m.items
  ownKey : OwnKey m

variable {m m' : UsersManager} {x : SessionRef}

/-- A call that changes tops only keeps the registry. -/
theorem RegistryInv.of_onlyTop (h : RegistryInv m) (ht : OnlyTop m m') : RegistryInv m' where
  partition := by
    refine Partition.of_mem_user (ht.all ▸ h.partition.rep_all)
      (fun u => ht.rep u (h.partition.rep_user u)) fun u k x => ?_
    rw [ht.user, ht.all, ht.userId]
    exact h.partition.mem_user
  ids := by
    intro x y hxy
    exact h.ids (by simpa only [ht.sessionId] using hxy)
  ownKey := by
    intro k x hk
    rw [ht.itemKey]
    exact h.ownKey k x (ht.all ▸ hk)

/-- The lists of the users do not matter. -/
theorem RegistryInv.congr (h : RegistryInv m) (hall : m'.stackForAll = m.stackForAll)
    (huser : m'.stackByUser = m.stackByUser) (hitems : m'.items = m.items) : RegistryInv m' where
  partition := by
    apply Partition.of_mem_user
    · rw [hall]
      exact h.partition.rep_all
    · intro u
      rw [huser]
      exact h.partition.rep_user u
    · intro u k x
      rw [hall, huser, hitems]
      exact h.partition.mem_user
  ids := hitems ▸ h.ids
  ownKey := by
    intro k x hk
    rw [hitems]
    exact h.ownKey k x (hall ▸ hk)

/-- A change of an item that keeps the session id, and the owner and the key of a registered
session. -/
theorem RegistryInv.withItem (h : RegistryInv m) (x : SessionRef) {item : AVSessionItem}
    (hid : item.sessionId = (m.items x).sessionId)
    (howner : m.Registered x → item.userId = (m.items x).userId)
    (hkey : m.Registered x → item.pid = (m.items x).pid ∧
      item.abilityName = (m.items x).abilityName) : RegistryInv (m.withItem x item) := by
  have hitem := m.withItem_items x item
  refine ⟨h.partition.withItem x howner, fun y z hyz => ?_, fun k y hy => ?_⟩
  · have hid' : ∀ y, ((m.withItem x item).items y).sessionId = (m.items y).sessionId := by
      intro y
      rw [hitem]
      split_ifs with heq
      · rw [heq, hid]
      · rfl
    exact h.ids (by simpa only [hid'] using hyz)
  · rw [h.ownKey k y hy]
    unfold AvSession.Registry.itemKey
    rw [hitem]
    split_ifs with heq
    · subst heq
      obtain ⟨hpid, hability⟩ := hkey ⟨k, hy⟩
      rw [hpid, hability]
    · rfl

/-- A registered session is the one under its own key. -/
theorem RegistryInv.getElem?_itemKey (h : RegistryInv m) (hx : m.Registered x) :
    m.stackForAll.sessions[itemKey m.items x]? = some x := by
  obtain ⟨k, hk⟩ := hx
  rw [← h.ownKey k x hk]
  exact hk

end registry

/-! ## The operations that stay in the frame -/

section operations

variable (m : UsersManager) (o : Oracle) (x : SessionRef) (u : UserId)

/-- A flag is written in one record. -/
theorem items_setTop (b : Bool) (y : SessionRef) :
    (setTop m x b).items y = if y = x then { m.items x with isTop := b } else m.items y :=
  m.withItem_items x _ y

/-- Writing a flag changes tops only. -/
theorem onlyTop_setTop (b : Bool) : OnlyTop m (setTop m x b) := by
  refine ⟨⟨rfl, fun y => ?_, fun _ _ => Iff.rfl, rfl, rfl, rfl⟩, fun _ _ => rfl, fun _ h => h⟩
  rw [items_setTop]
  split_ifs with h
  · exact ⟨b, by rw [h]⟩
  · exact ⟨(m.items y).isTop, rfl⟩

/-- Clearing a flag changes tops only. -/
theorem onlyTop_clearTop (s : Option SessionRef) : OnlyTop m (clearTop m s) := by
  cases s with
  | none => exact OnlyTop.refl m
  | some y => exact onlyTop_setTop m y false

/-- Writing a slot changes tops only. -/
theorem onlyTop_setTopSession (s : Option SessionRef) : OnlyTop m (m.setTopSession s u) :=
  ⟨⟨rfl, fun y => ⟨(m.items y).isTop, rfl⟩, fun _ _ => Iff.rfl, rfl, rfl, rfl⟩, fun _ _ => rfl,
    fun _ h => h⟩

/-- UpdateTopSession changes tops only. -/
theorem onlyTop_updateTopSession (s : Option SessionRef) : OnlyTop m (updateTopSession m u s) := by
  cases s with
  | none => exact (onlyTop_clearTop m _).trans (onlyTop_setTopSession _ _ _)
  | some x =>
      have hslot := (onlyTop_clearTop m (m.getTopSession (m.items x).userId)).trans
        (onlyTop_setTopSession _ (m.items x).userId (some x))
      exact hslot.trans (onlyTop_setTop _ x true)

/-- Moving a session to the head of its list keeps the sessions of the list. -/
theorem onlyTop_moveToFront : OnlyTop m (moveToFront m x) := by
  unfold moveToFront
  split_ifs with hphoto hmem
  · exact OnlyTop.refl m
  · refine ⟨⟨rfl, fun y => ⟨(m.items y).isTop, rfl⟩, fun v y => ?_, rfl, rfl, rfl⟩,
      fun _ _ => rfl, fun _ h => h⟩
    unfold setFront
    by_cases hv : v = m.effectiveUser (m.items x).userId
    · subst hv
      have hmem' : x ∈ m.frontByUser (m.effectiveUser (m.items x).userId) := hmem
      simp only [Function.update_self, List.mem_cons, List.mem_filter, ne_eq, decide_not,
        Bool.not_eq_eq_eq_not, Bool.not_true, decide_eq_false_iff_not,
        UsersManager.getCurSessionListForFront]
      by_cases hy : y = x
      · simp [hy, hmem']
      · simp [hy]
    · simp [hv]
  · exact OnlyTop.refl m

/-- Whatever the session is, the containers of the users are all that sorting can harm. -/
theorem reordered_updateOrder : Reordered m (updateOrder m x) := by
  have hsort : Reordered m (m.withUser (m.items x).userId
      ((m.getContainerFromUser (m.items x).userId).updateSessionSort m.items x)) :=
    ⟨rfl, fun y => ⟨(m.items y).isTop, rfl⟩, fun _ _ => Iff.rfl, rfl, rfl, rfl⟩
  exact hsort.trans (onlyTop_moveToFront _ x).toReordered

/-- Handing the top on reorders the user's record. -/
theorem reordered_handleOtherSessionPlaying : Reordered m (handleOtherSessionPlaying m x) := by
  have htop := (onlyTop_updateTopSession m (m.items x).userId (some x)).toReordered
  unfold handleOtherSessionPlaying
  split_ifs
  · exact htop
  · exact htop.trans (reordered_updateOrder _ x)

/-- An election on no condition. -/
theorem reordered_handleTopSessionRelease : Reordered m (handleTopSessionRelease m o x u) := by
  unfold handleTopSessionRelease
  split_ifs
  · cases getOtherPlayingSession m o u (m.items x).bundleName with
    | none => exact (onlyTop_updateTopSession m u none).toReordered
    | some y => exact reordered_handleOtherSessionPlaying m y
  · exact Reordered.refl m

variable {m x}

/-- Sorting a registered session to the head of its container only changes the order. -/
theorem onlyTop_updateSessionSort (h : RegistryInv m) (hx : m.Registered x) :
    OnlyTop m (m.withUser (m.items x).userId
      ((m.getContainerFromUser (m.items x).userId).updateSessionSort m.items x)) := by
  have hkey : (m.stackByUser (m.items x).userId).sessions[itemKey m.items x]? = some x :=
    h.partition.mem_user.mpr ⟨h.getElem?_itemKey hx, rfl⟩
  have hrep : Rep ((m.stackByUser (m.items x).userId).updateSessionSort m.items x) := by
    refine ((h.partition.rep_user _).updateSessionSort_iff m.items).mpr fun old hold => Or.inl ?_
    rw [hkey, Option.some.injEq] at hold
    exact hold
  refine ⟨⟨rfl, fun y => ⟨(m.items y).isTop, rfl⟩, fun _ _ => Iff.rfl, rfl, rfl, rfl⟩,
    fun v k => ?_, fun v hv => ?_⟩
  · by_cases hv : v = (m.items x).userId
    · subst hv
      rw [UsersManager.withUser_stackByUser_self, UsersManager.getContainerFromUser,
        SessionStack.updateSessionSort, hkey]
      show (((m.stackByUser (m.items x).userId).sessions.erase (itemKey m.items x)).insertIfNew
        (itemKey m.items x) x)[k]? = _
      rw [getElem?_insertIfNew_of_none (by rw [getElem?_erase, if_pos rfl]), getElem?_erase]
      split_ifs with heq
      · rw [← heq, hkey]
      · rfl
    · rw [UsersManager.withUser_stackByUser_of_ne _ _ _ hv]
  · by_cases hv' : v = (m.items x).userId
    · subst hv'
      rw [UsersManager.withUser_stackByUser_self]
      exact hrep
    · rw [UsersManager.withUser_stackByUser_of_ne _ _ _ hv']
      exact hv

/-- With a sound registry moving within a record changes tops only. -/
theorem onlyTop_updateOrder (h : RegistryInv m) (hx : m.Registered x) :
    OnlyTop m (updateOrder m x) :=
  (onlyTop_updateSessionSort h hx).trans (onlyTop_moveToFront _ x)

/-- So does handing the top on. -/
theorem onlyTop_handleOtherSessionPlaying (h : RegistryInv m) (hx : m.Registered x) :
    OnlyTop m (handleOtherSessionPlaying m x) := by
  have htop := onlyTop_updateTopSession m (m.items x).userId (some x)
  unfold handleOtherSessionPlaying
  split_ifs
  · exact htop
  · exact htop.trans (onlyTop_updateOrder (h.of_onlyTop htop) (htop.registered.mpr hx))

/-- So does looking for a new top. -/
theorem onlyTop_handleTopSessionRelease (h : RegistryInv m) (u : UserId)
    (hy : m.topByUser u = some x →
      ∀ y, getOtherPlayingSession m o u (m.items x).bundleName = some y → m.Registered y) :
    OnlyTop m (handleTopSessionRelease m o x u) := by
  unfold handleTopSessionRelease
  split_ifs with htop
  · cases hother : getOtherPlayingSession m o u (m.items x).bundleName with
    | none => exact onlyTop_updateTopSession m u none
    | some y => exact onlyTop_handleOtherSessionPlaying h (hy htop y hother)
  · exact OnlyTop.refl m

end operations

end AvSession.Service
