import AvSession.Service.FrontKept

/-!
# What the handlers leave of the container of all users

A session gets into the container of all users by its creation, and out of it by its release or by
the removal of its user. The audio broker's session can be entered again under another ability, and
then whoever holds its key goes out of the container.

* `Mentioned` — the sessions that a container or a front list knows.
* `AllKept` — the frame: all but the sessions it exempts are where they were, those that are gone
  apart.
* `AllKept.reordered`, `allKept_updateFrontSession` — elections and updates of the front lists.
* `allKept_releaseUsers`, `allKept_handleUserRemoved` — who is gone after a release, and with a user.
* `allKept_createSessionForCaller`, `allKept_pushedByCast` — creations.
* `AllKept.step_of_quiet` — the other handlers.
-/

namespace AvSession.Service

open Std AvSession.Lib AvSession.Registry AVSessionService

/-! ## The frame -/

section frame

/-- A container or a front list knows the session. -/
def Mentioned (m : UsersManager) (x : SessionRef) : Prop :=
  x ∈ m.stackForAll.stack ∨ (∃ u, x ∈ (m.stackByUser u).stack) ∨ ∃ u, x ∈ m.frontByUser u

/-- The sessions that are not exempt are in the container of all users as before, but for those that
are gone, and are destroyed or not as before. -/
structure AllKept (gone exempt : SessionRef → Prop) (m m' : UsersManager) : Prop where
  sessionId : ∀ y, (m'.items y).sessionId = (m.items y).sessionId
  mem : ∀ y, ¬ exempt y → (y ∈ m'.stackForAll.stack ↔ y ∈ m.stackForAll.stack ∧ ¬ gone y)
  destroyed : ∀ y, ¬ exempt y → (m'.items y).isDestroyed = (m.items y).isDestroyed
  mentioned : ∀ y, Mentioned m' y → Mentioned m y ∨ exempt y
  size : m.stackForAll.sessions.size ≤ SESSION_NUM_MAX →
    m'.stackForAll.sessions.size ≤ SESSION_NUM_MAX

variable {m m' m'' : UsersManager} {o : Oracle} {x y : SessionRef} {u : UserId}
  {gone exempt exempt' : SessionRef → Prop}

namespace AllKept

/-- A table keeps its own sessions. -/
theorem refl (exempt : SessionRef → Prop) (m : UsersManager) : AllKept nobody exempt m m :=
  ⟨fun _ => rfl, fun _ _ => (and_iff_left id).symm, fun _ _ => rfl, fun _ => Or.inl, id⟩

/-- Nothing goes before, nothing goes after. -/
theorem trans_aux {gone' gone'' : SessionRef → Prop} (h : AllKept gone' exempt m m')
    (h' : AllKept gone'' exempt m' m'') (hgone : ∀ y, gone y ↔ gone' y ∨ gone'' y) :
    AllKept gone exempt m m'' where
  sessionId y := (h'.sessionId y).trans (h.sessionId y)
  mem y hy := by
    rw [h'.mem y hy, h.mem y hy, hgone, not_or, and_assoc]
  destroyed y hy := (h'.destroyed y hy).trans (h.destroyed y hy)
  mentioned y hy := (h'.mentioned y hy).elim (h.mentioned y) Or.inr
  size hsize := h'.size (h.size hsize)

/-- A call that loses nobody may follow one that loses somebody. -/
theorem trans (h : AllKept gone exempt m m') (h' : AllKept nobody exempt m' m'') :
    AllKept gone exempt m m'' := h.trans_aux h' fun _ => (or_iff_left id).symm

/-- A call that loses somebody may follow one that loses nobody. -/
theorem of_trans (h : AllKept nobody exempt m m') (h' : AllKept gone exempt m' m'') :
    AllKept gone exempt m m'' := h.trans_aux h' fun _ => (or_iff_right id).symm

/-- What exempts fewer sessions exempts no more. -/
theorem mono (h : AllKept gone exempt m m') (hle : ∀ y, exempt y → exempt' y) :
    AllKept gone exempt' m m' :=
  ⟨h.sessionId, fun y hy => h.mem y fun he => hy (hle y he),
    fun y hy => h.destroyed y fun he => hy (hle y he),
    fun y hy => (h.mentioned y hy).imp_right (hle y), h.size⟩

/-- A call without an exemption may be read with any. -/
theorem of_nobody (h : AllKept gone nobody m m') : AllKept gone exempt m m' :=
  h.mono fun _ => False.elim

/-- Only flags of the items and orders change. -/
theorem of_reordered (h : Reordered m m')
    (huser : ∀ u, ∀ y ∈ (m'.stackByUser u).stack, Mentioned m y) : AllKept nobody nobody m m' where
  sessionId y := h.sessionId y
  mem y _ := by
    rw [h.all]
    exact (and_iff_left id).symm
  destroyed y _ := by
    obtain ⟨b, hb⟩ := h.items y
    rw [hb]
  mentioned y := by
    rintro (hy | ⟨u, hy⟩ | ⟨u, hy⟩)
    · exact Or.inl (Or.inl (h.all ▸ hy))
    · exact Or.inl (huser u y hy)
    · exact Or.inl (Or.inr (Or.inr ⟨u, (h.front u y).mp hy⟩))
  size hsize := by
    rw [h.all]
    exact hsize

/-- Whoever is gone is exempt. -/
theorem of_gone (h : AllKept gone exempt m m') (hle : ∀ y, gone y → exempt y) :
    AllKept nobody exempt m m' :=
  ⟨h.sessionId, fun y hy => (h.mem y hy).trans
    (and_congr_right fun _ => iff_of_true (fun hgone => hy (hle y hgone)) id),
    h.destroyed, h.mentioned, h.size⟩

/-- Tables that are untouched keep their sessions. -/
theorem of_untouched (h : Untouched m m') : AllKept nobody nobody m m' where
  sessionId y := (h.item y).1
  mem y _ := by
    rw [h.all]
    exact (and_iff_left id).symm
  destroyed y _ := (h.item y).2.2
  mentioned y hy := by
    unfold Mentioned at hy ⊢
    rw [h.all, h.user, h.front] at hy
    exact Or.inl hy
  size hsize := by
    rw [h.all]
    exact hsize

/-- Neither the items nor the containers change, and the front lists get nobody new. -/
theorem of_front (hitems : m'.items = m.items) (hall : m'.stackForAll = m.stackForAll)
    (huser : m'.stackByUser = m.stackByUser)
    (hfront : ∀ u, ∀ y ∈ m'.frontByUser u, Mentioned m y ∨ exempt y) :
    AllKept nobody exempt m m' where
  sessionId y := by rw [hitems]
  mem y _ := by
    rw [hall]
    exact (and_iff_left id).symm
  destroyed y _ := by rw [hitems]
  mentioned y := by
    rintro (hy | ⟨u, hy⟩ | ⟨u, hy⟩)
    · exact Or.inl (Or.inl (hall ▸ hy))
    · exact Or.inl (Or.inr (Or.inl ⟨u, huser ▸ hy⟩))
    · exact hfront u y hy
  size hsize := by
    rw [hall]
    exact hsize

/-- Another item for a session. -/
theorem withItem (x : SessionRef) {item : AVSessionItem}
    (hid : item.sessionId = (m.items x).sessionId)
    (hitem : ¬ exempt x → item.isDestroyed = (m.items x).isDestroyed) :
    AllKept nobody exempt m (m.withItem x item) where
  sessionId y := by
    rw [UsersManager.withItem_items]
    split_ifs with hyx
    · rw [hyx, hid]
    · rfl
  mem y _ := (and_iff_left id).symm
  destroyed y hy := by
    rw [UsersManager.withItem_items]
    split_ifs with hyx
    · subst hyx
      exact hitem hy
    · rfl
  mentioned y := Or.inl
  size := id

end AllKept

end frame

/-! ## Elections and the front lists -/

section elections

variable {m : UsersManager} {o : Oracle} {x y : SessionRef} {u : UserId} {control : List String}

/-- The top slot is apart from the containers. -/
theorem stackByUser_updateTopSession (m : UsersManager) (u : UserId) (s : Option SessionRef) :
    (updateTopSession m u s).stackByUser = m.stackByUser := by
  have hclear : ∀ s, (clearTop m s).stackByUser = m.stackByUser := by
    rintro (_ | x) <;> rfl
  cases s with
  | none => exact hclear _
  | some x => exact hclear _

/-- Sorting puts its session into a container, if it is not there. -/
theorem mem_stack_updateOrder (m : UsersManager) (x : SessionRef)
    (hy : y ∈ ((updateOrder m x).stackByUser u).stack) :
    y ∈ (m.stackByUser u).stack ∨ y = x := by
  have hsame : (updateOrder m x).stackByUser = (m.withUser (m.items x).userId
      ((m.getContainerFromUser (m.items x).userId).updateSessionSort m.items x)).stackByUser := by
    unfold updateOrder moveToFront
    split_ifs <;> rfl
  rw [hsame] at hy
  by_cases hu : u = (m.items x).userId
  · subst hu
    rw [UsersManager.withUser_stackByUser_self] at hy
    unfold SessionStack.updateSessionSort at hy
    split at hy
    · exact Or.inl hy
    · rcases List.mem_cons.mp hy with rfl | hy
      · exact Or.inr rfl
      · exact Or.inl (List.mem_of_mem_filter hy)
  · rw [UsersManager.withUser_stackByUser_of_ne _ _ _ hu] at hy
    exact Or.inl hy

/-- UpdateTopSession loses nobody. -/
theorem allKept_updateTopSession (m : UsersManager) (u : UserId) (s : Option SessionRef) :
    AllKept nobody nobody m (updateTopSession m u s) := by
  apply AllKept.of_reordered (onlyTop_updateTopSession m u s).toReordered
  intro v y hy
  rw [stackByUser_updateTopSession] at hy
  exact Or.inr (Or.inl ⟨v, hy⟩)

/-- Moving a mentioned session within its record loses nobody. -/
theorem allKept_updateOrder (hx : Mentioned m x) : AllKept nobody nobody m (updateOrder m x) := by
  apply AllKept.of_reordered (reordered_updateOrder m x)
  intro u y hy
  rcases mem_stack_updateOrder m x hy with hy | rfl
  · exact Or.inr (Or.inl ⟨u, hy⟩)
  · exact hx

/-- A mentioned session stays so under another top. -/
theorem mentioned_updateTopSession (s : Option SessionRef) (hx : Mentioned m x) :
    Mentioned (updateTopSession m u s) x := by
  have ht := onlyTop_updateTopSession m u s
  unfold Mentioned
  rw [ht.all, stackByUser_updateTopSession]
  refine hx.imp_right fun hx => hx.imp_right ?_
  rintro ⟨v, hv⟩
  exact ⟨v, (ht.front v x).mpr hv⟩

/-- Handing the top on loses nobody. -/
theorem allKept_handleOtherSessionPlaying (hx : Mentioned m x) :
    AllKept nobody nobody m (handleOtherSessionPlaying m x) := by
  have htop := allKept_updateTopSession m (m.items x).userId (some x)
  unfold handleOtherSessionPlaying
  split_ifs
  · exact htop
  · exact htop.trans (allKept_updateOrder (mentioned_updateTopSession _ hx))

/-- A session that is elected is in a front list. -/
theorem mentioned_of_elected {bundleName : String}
    (hy : getOtherPlayingSession m o u bundleName = some y) : Mentioned m y :=
  Or.inr (Or.inr ⟨_, UsersInv.mem_of_getOtherPlayingSession hy⟩)

/-- Looking for a new top loses nobody. -/
theorem allKept_handleTopSessionRelease (m : UsersManager) (o : Oracle) (x : SessionRef)
    (u : UserId) : AllKept nobody nobody m (handleTopSessionRelease m o x u) := by
  unfold handleTopSessionRelease
  split_ifs
  · cases hy : getOtherPlayingSession m o u (m.items x).bundleName with
    | none => exact allKept_updateTopSession m u none
    | some y => exact allKept_handleOtherSessionPlaying (mentioned_of_elected hy)
  · exact AllKept.refl _ _

/-- A front list of sessions that are known. -/
theorem allKept_setFront {exempt : SessionRef → Prop} (m : UsersManager) (u : UserId)
    {l : List SessionRef} (hl : ∀ y ∈ l, Mentioned m y ∨ exempt y) :
    AllKept nobody exempt m (setFront m u l) := by
  refine AllKept.of_front rfl rfl rfl fun v y hy => ?_
  rw [mem_front_setFront] at hy
  split_ifs at hy
  · exact hl y hy
  · exact Or.inl (Or.inr (Or.inr ⟨v, hy⟩))

/-- A session is pushed to a front list. -/
theorem allKept_cons {exempt : SessionRef → Prop} (m : UsersManager) (u : UserId)
    (hx : Mentioned m x ∨ exempt x) :
    AllKept nobody exempt m (setFront m u (x :: m.getCurSessionListForFront u)) := by
  apply allKept_setFront
  intro y hy
  rcases List.mem_cons.mp hy with rfl | hy
  · exact hx
  · exact Or.inl (Or.inr (Or.inr ⟨_, hy⟩))

/-- Only an addition puts its session into a list. -/
theorem allKept_updateFrontSession (m : UsersManager) (o : Oracle) (control : List String)
    (isAdd : Bool) (hx : isAdd = true → Mentioned m x) :
    AllKept nobody nobody m (updateFrontSession m o x control isAdd) := by
  unfold updateFrontSession
  split_ifs with _ _ hadd
  · exact AllKept.refl _ _
  · exact AllKept.refl _ _
  · have hpush : AllKept nobody nobody m
        (setFront m (m.items x).userId (x :: m.getCurSessionListForFront (m.items x).userId)) :=
      allKept_cons m _ (Or.inl (hx hadd))
    unfold addFrontSession
    dsimp only
    split_ifs
    · exact AllKept.refl _ _
    · exact hpush.trans (allKept_updateTopSession _ _ _)
    · exact hpush
  · have helected := allKept_handleTopSessionRelease m o x (m.items x).userId
    unfold removeFrontSession
    refine helected.trans (allKept_setFront _ _ fun y hy => ?_)
    exact Or.inl (Or.inr (Or.inr ⟨_, List.mem_of_mem_filter hy⟩))

end elections

/-! ## The containers -/

section containers

variable {m : UsersManager} {o : Oracle} {x y : SessionRef} {u : UserId} {pid : Pid}
  {abilityName sessionId : String}

/-- Whoever is erased goes out of the list. -/
theorem mem_stack_foldl_eraseEntry (s : SessionStack) (l : List (SessionKey × SessionRef)) :
    y ∈ (l.foldl SessionStack.eraseEntry s).stack ↔ y ∈ s.stack ∧ ∀ e ∈ l, y ≠ e.2 := by
  induction l generalizing s with
  | nil => simp
  | cons e l ih =>
      have herase : y ∈ (s.eraseEntry e).stack ↔ y ∈ s.stack ∧ y ≠ e.2 := by
        simp [SessionStack.eraseEntry]
      rw [List.foldl_cons, ih, herase, List.forall_mem_cons, and_assoc]

/-- The session under the key goes out of the list, not the one that is looked for. -/
theorem mem_stack_removeSession (s : SessionStack) :
    y ∈ (s.removeSession pid abilityName).1.stack ↔
      y ∈ s.stack ∧ s.sessions[(⟨pid, abilityName⟩ : SessionKey)]? ≠ some y := by
  unfold SessionStack.removeSession
  cases hk : s.sessions[(⟨pid, abilityName⟩ : SessionKey)]? with
  | none => simp
  | some r =>
      simp only [SessionStack.eraseEntry, List.mem_filter, decide_eq_true_eq, ne_eq,
        Option.some.injEq]
      exact and_congr_right fun _ => not_congr eq_comm

/-- Removing by id leaves those whose entries carry another id. -/
theorem mem_stack_removeSessionById (s : SessionStack) (items : Items) :
    y ∈ (s.removeSessionById items sessionId).1.stack ↔
      y ∈ s.stack ∧ ∀ k : SessionKey, s.sessions[k]? = some y → (items y).sessionId ≠ sessionId := by
  unfold SessionStack.removeSessionById
  dsimp only
  rw [mem_stack_foldl_eraseEntry]
  refine and_congr_right fun _ => ⟨fun h k hk hid => ?_, ?_⟩
  · refine h (k, y) ((mem_hits s).mpr ⟨hk, ?_⟩) rfl
    rw [hid, beq_self_eq_true]
  · rintro h ⟨k, z⟩ he rfl
    obtain ⟨hk, hid⟩ := (mem_hits s).mp he
    exact h k hk (eq_of_beq hid)

/-- Erasing entries does not make a container larger. -/
theorem size_foldl_eraseEntry_le (s : SessionStack) (l : List (SessionKey × SessionRef)) :
    (l.foldl SessionStack.eraseEntry s).sessions.size ≤ s.sessions.size := by
  induction l generalizing s with
  | nil => exact le_rfl
  | cons e l ih => exact (ih _).trans ExtTreeMap.size_erase_le

/-- An addition to a container that has room pushes its session. -/
theorem mem_stack_addSession (s : SessionStack) :
    y ∈ (s.addSession pid abilityName x).1.stack ↔
      y ∈ s.stack ∨ (y = x ∧ s.sessions.size < SESSION_NUM_MAX) := by
  by_cases hfull : s.sessions.size < SESSION_NUM_MAX
  · rw [addSession_of_not_full hfull]
    simp [SessionStack.push, hfull, or_comm]
  · rw [addSession_of_full (Nat.le_of_not_lt hfull)]
    simp [hfull]

/-- A container is never filled beyond its bound. -/
theorem size_addSession_le (s : SessionStack) (h : s.sessions.size ≤ SESSION_NUM_MAX) :
    (s.addSession pid abilityName x).1.sessions.size ≤ SESSION_NUM_MAX := by
  by_cases hfull : s.sessions.size < SESSION_NUM_MAX
  · rw [addSession_of_not_full hfull]
    exact ExtTreeMap.size_insertIfNew_le.trans hfull
  · rw [addSession_of_full (Nat.le_of_not_lt hfull)]
    exact h

/-- The session that holds the key. -/
def holder (m : UsersManager) (k : SessionKey) : Option SessionRef := m.stackForAll.sessions[k]?

/-- The removal in all users removes the key from the common container. -/
theorem stackForAll_removeSessionForAllUser (m : UsersManager) (pid : Pid) (abilityName : String) :
    (m.removeSessionForAllUser pid abilityName).1.stackForAll =
      (m.stackForAll.removeSession pid abilityName).1 := by
  cases hk : m.stackForAll.sessions[(⟨pid, abilityName⟩ : SessionKey)]? with
  | none =>
      rw [UsersManager.removeSessionForAllUser_of_none hk]
      unfold SessionStack.removeSession
      rw [hk]
  | some r => rw [UsersManager.removeSessionForAllUser_of_some hk]; rfl

/-- The removal in all users adds nobody. -/
theorem mem_stackByUser_removeSessionForAllUser
    (hy : y ∈ ((m.removeSessionForAllUser pid abilityName).1.stackByUser u).stack) :
    y ∈ (m.stackByUser u).stack := by
  cases hk : m.stackForAll.sessions[(⟨pid, abilityName⟩ : SessionKey)]? with
  | none =>
      rw [UsersManager.removeSessionForAllUser_of_none hk] at hy
      exact hy
  | some r =>
      rw [UsersManager.removeSessionForAllUser_of_some hk] at hy
      by_cases hu : u = (m.items r).userId
      · subst hu
        rw [UsersManager.withUser_stackByUser_self] at hy
        exact ((mem_stack_removeSession _).mp hy).1
      · rw [UsersManager.withUser_stackByUser_of_ne _ _ _ hu] at hy
        exact hy

/-- The holder of the key is gone. -/
theorem allKept_removeSessionForAllUser (m : UsersManager) (pid : Pid) (abilityName : String) :
    AllKept (fun y => holder m ⟨pid, abilityName⟩ = some y) nobody m
      (m.removeSessionForAllUser pid abilityName).1 where
  sessionId y := by rw [UsersManager.removeSessionForAllUser_items]
  mem y _ := by
    rw [stackForAll_removeSessionForAllUser]
    exact mem_stack_removeSession _
  destroyed y _ := by rw [UsersManager.removeSessionForAllUser_items]
  mentioned y := by
    rintro (hy | ⟨u, hy⟩ | ⟨u, hy⟩)
    · rw [stackForAll_removeSessionForAllUser] at hy
      exact Or.inl (Or.inl ((mem_stack_removeSession _).mp hy).1)
    · exact Or.inl (Or.inr (Or.inl ⟨u, mem_stackByUser_removeSessionForAllUser hy⟩))
    · rw [(UsersManager.SameLists.removeSessionForAllUser m pid abilityName).front] at hy
      exact Or.inl (Or.inr (Or.inr ⟨u, hy⟩))
  size hsize := by
    rw [stackForAll_removeSessionForAllUser]
    unfold SessionStack.removeSession
    split
    · exact hsize
    · exact ExtTreeMap.size_erase_le.trans hsize

/-- A container of all users that the session is added to, and the list of a user. -/
theorem allKept_addToUser (m : UsersManager) (x : SessionRef) :
    AllKept nobody (· = x) m (m.addToUser u pid abilityName x).1 where
  sessionId _ := rfl
  mem _ _ := (and_iff_left id).symm
  destroyed _ _ := rfl
  mentioned y := by
    rintro (hy | ⟨v, hy⟩ | ⟨v, hy⟩)
    · exact Or.inl (Or.inl hy)
    · have hy' : y ∈ ((m.withUser u ((m.getContainerFromUser u).addSession pid abilityName
          x).1).stackByUser v).stack := hy
      by_cases hv : v = u
      · subst hv
        rw [UsersManager.withUser_stackByUser_self, mem_stack_addSession] at hy'
        exact hy'.imp (fun hy => Or.inr (Or.inl ⟨v, hy⟩)) And.left
      · rw [UsersManager.withUser_stackByUser_of_ne _ _ _ hv] at hy'
        exact Or.inl (Or.inr (Or.inl ⟨v, hy'⟩))
    · exact Or.inl (Or.inr (Or.inr ⟨v, hy⟩))
  size := id

/-- Adding to the common container concerns the new session only. -/
theorem allKept_addToAll (m : UsersManager) (pid : Pid) (abilityName : String) (x : SessionRef) :
    AllKept nobody (· = x) m (m.addToAll pid abilityName x).1 where
  sessionId _ := rfl
  mem y hy := by
    show y ∈ (m.stackForAll.addSession pid abilityName x).1.stack ↔ _
    rw [mem_stack_addSession]
    exact (or_iff_left fun h => hy h.1).trans (and_iff_left id).symm
  destroyed _ _ := rfl
  mentioned y := by
    rintro (hy | hy)
    · exact ((mem_stack_addSession _).mp hy).imp Or.inl And.left
    · exact Or.inl (Or.inr hy)
  size := size_addSession_le _

/-- The session that is added, and whether it is in the container of all users. -/
theorem allKept_addSessionForCurrentUser (m : UsersManager) (pid : Pid) (abilityName : String)
    (x : SessionRef) (u : UserId) :
    AllKept nobody (· = x) m (m.addSessionForCurrentUser pid abilityName x u).1 ∧
      (x ∈ (m.addSessionForCurrentUser pid abilityName x u).1.stackForAll.stack ↔
        x ∈ m.stackForAll.stack ∨ m.stackForAll.sessions.size < SESSION_NUM_MAX) := by
  have hall := allKept_addToAll m pid abilityName x
  have hmem : x ∈ (m.addToAll pid abilityName x).1.stackForAll.stack ↔
      x ∈ m.stackForAll.stack ∨ m.stackForAll.sessions.size < SESSION_NUM_MAX := by
    refine (mem_stack_addSession m.stackForAll).trans ?_
    rw [and_iff_right rfl]
  unfold UsersManager.addSessionForCurrentUser
  dsimp only
  split_ifs
  · exact ⟨hall, hmem⟩
  · exact ⟨hall.trans (allKept_addToUser _ x), hmem⟩

/-- Whoever has the id of the session is gone, if the map has it. -/
theorem allKept_removeIdFromAll (hinj : DistinctIds m.items) (x : SessionRef) :
    AllKept (fun y => y = x ∧ m.Registered y) nobody m
      (m.removeIdFromAll (m.items x).sessionId) where
  sessionId _ := rfl
  mem y _ := by
    refine (mem_stack_removeSessionById m.stackForAll m.items).trans (and_congr_right fun _ => ?_)
    constructor
    · rintro h ⟨rfl, k, hk⟩
      exact h k hk rfl
    · exact fun h k hk hid => h ⟨hinj hid, k, hk⟩
  destroyed _ _ := rfl
  mentioned y := by
    rintro (hy | hy)
    · exact Or.inl (Or.inl ((mem_stack_removeSessionById m.stackForAll m.items).mp hy).1)
    · exact Or.inl (Or.inr hy)
  size hsize := (size_foldl_eraseEntry_le _ _).trans hsize

/-- With distinct ids the removal by id takes that session and no other. -/
theorem registered_removeIdFromAll (hinj : DistinctIds m.items) (x : SessionRef) :
    (m.removeIdFromAll (m.items x).sessionId).Registered y ↔ m.Registered y ∧ y ≠ x := by
  constructor
  · rintro ⟨k, hk⟩
    obtain ⟨hk, hid⟩ := (removeSessionById_eq_some_iff m.stackForAll m.items).mp hk
    exact ⟨⟨k, hk⟩, fun hyx => hid (hyx ▸ rfl)⟩
  · rintro ⟨⟨k, hk⟩, hyx⟩
    exact ⟨k, (removeSessionById_eq_some_iff m.stackForAll m.items).mpr
      ⟨hk, fun hid => hyx (hinj hid)⟩⟩

/-- The sessions of the list are gone, those that the map does not have apart. -/
theorem allKept_foldl_removeIdFromAll (hinj : DistinctIds m.items) (l : List SessionRef) :
    AllKept (fun y => y ∈ l ∧ m.Registered y) nobody m
      (l.foldl (fun m x => m.removeIdFromAll (m.items x).sessionId) m) := by
  induction l generalizing m with
  | nil => exact (AllKept.refl _ _).trans_aux (AllKept.refl _ m) (by simp [nobody])
  | cons x l ih =>
      refine (allKept_removeIdFromAll hinj x).trans_aux
        (ih (m := m.removeIdFromAll (m.items x).sessionId) hinj) fun y => ?_
      rw [registered_removeIdFromAll hinj, List.mem_cons]
      by_cases hyx : y = x <;> simp [hyx]

/-- The lists of a user are erased. -/
theorem allKept_eraseUser (m : UsersManager) (userId : UserId) :
    AllKept nobody nobody m (m.eraseUser userId) := by
  refine ⟨fun _ => rfl, fun _ _ => (and_iff_left id).symm, fun _ _ => rfl, ?_, id⟩
  rintro y (hy | ⟨v, hy⟩ | ⟨v, hy⟩)
  · exact Or.inl (Or.inl hy)
  · have hy' : y ∈ (Function.update m.stackByUser userId SessionStack.empty v).stack := hy
    rw [Function.update_apply] at hy'
    split_ifs at hy'
    · cases hy'
    · exact Or.inl (Or.inr (Or.inl ⟨v, hy'⟩))
  · have hy' : y ∈ Function.update m.frontByUser userId [] v := hy
    rw [Function.update_apply] at hy'
    split_ifs at hy'
    · cases hy'
    · exact Or.inl (Or.inr (Or.inr ⟨v, hy'⟩))

/-- A user is removed: its sessions are gone. -/
theorem allKept_handleUserRemoved (hinj : DistinctIds m.items) (userId : UserId) :
    AllKept (fun y => y ∈ (m.stackByUser userId).stack ∧ m.Registered y) nobody m
      (handleUserRemoved m userId) :=
  (allKept_foldl_removeIdFromAll hinj _).trans (allKept_eraseUser _ userId)

/-- A release takes whoever holds the key of its session out. -/
theorem allKept_releaseUsers (m : UsersManager) (o : Oracle) (x : SessionRef)
    (control : List String) :
    AllKept (fun y => holder m (itemKey m.items x) = some y) nobody m
      (releaseUsers m o x control) := by
  have hr := reordered_handleTopSessionRelease m o x (m.effectiveUser (m.items x).userId)
  have helected := allKept_handleTopSessionRelease m o x (m.effectiveUser (m.items x).userId)
  unfold releaseUsers
  generalize handleTopSessionRelease m o x (m.effectiveUser (m.items x).userId) = m₁ at *
  have hkey : holder m₁ (itemKey m₁.items x) = holder m (itemKey m.items x) := by
    unfold holder
    rw [hr.all, hr.itemKey]
  have hgone := allKept_removeSessionForAllUser m₁ (m₁.items x).pid (m₁.items x).abilityName
  have hgone' : AllKept (fun y => holder m (itemKey m.items x) = some y) nobody m₁
      (releaseContainers m₁ x) := by
    rw [← hkey]
    exact hgone
  have hupdated := allKept_updateFrontSession (x := x) (releaseContainers m₁ x) o control false nofun
  exact ((helected.of_trans hgone').trans hupdated).trans
    (AllKept.of_front rfl rfl rfl fun u y hy => Or.inl (Or.inr (Or.inr ⟨u, hy⟩)))

end containers

/-! ## Creations -/

section creation

variable {s : AVSessionService} {m : UsersManager} {x y : SessionRef}

/-- The audio broker's session, which a creation enters again under another ability.
Source: avsession_service.cpp, `AVSessionService::CheckAndUpdateAncoMediaSession` -/
def brokerSession (s : AVSessionService) (uid : Uid) : Option SessionRef :=
  if uid = audioBrokerUid then s.containerOfCaller.getSessionByUid s.users.items uid else none

/-- Whoever holds the key of the broker's session goes. -/
def GoneForBroker (s : AVSessionService) (uid : Uid) (y : SessionRef) : Prop :=
  ∃ x, brokerSession s uid = some x ∧ holder s.users (itemKey s.users.items x) = some y

/-- What the caller's container holds is mentioned. -/
theorem mentioned_of_mem_containerOfCaller (hx : x ∈ s.containerOfCaller.getAllSessions) :
    Mentioned s.users x := by
  unfold containerOfCaller at hx
  split_ifs at hx
  · exact Or.inl hx
  · exact Or.inr (Or.inl ⟨_, hx⟩)

/-- The broker's session is mentioned. -/
theorem mentioned_brokerSession {uid : Uid} (hx : brokerSession s uid = some x) :
    Mentioned s.users x := by
  unfold brokerSession at hx
  split_ifs at hx
  exact mentioned_of_mem_containerOfCaller (List.mem_of_find?_eq_some hx)

/-- The broker's update acts on the broker's session when there is one. -/
theorem checkAndUpdateAncoMediaSession_eq (s : AVSessionService) (uid : Uid)
    (bundleName abilityName : String) :
    s.checkAndUpdateAncoMediaSession uid bundleName abilityName =
      match brokerSession s uid with
      | none => s
      | some x =>
          let r := s.users.updateSessionForCurrentUser (s.users.items x).pid
            (s.users.items x).abilityName abilityName x
          if r.2 ≠ .success then s.withUsers r.1
          else s.withUsers (r.1.withItem x
            { r.1.items x with bundleName := bundleName, abilityName := abilityName }) := by
  unfold checkAndUpdateAncoMediaSession brokerSession
  by_cases huid : uid = audioBrokerUid
  · subst huid
    exact if_neg (not_not_intro rfl)
  · rw [if_pos huid, if_neg huid]

/-- A session is entered under another ability. -/
theorem allKept_updateSessionForCurrentUser (m : UsersManager) (x : SessionRef)
    (abilityName : String) :
    let m' := (m.updateSessionForCurrentUser (m.items x).pid (m.items x).abilityName abilityName
      x).1
    AllKept (fun y => holder m (itemKey m.items x) = some y) (· = x) m m' ∧
      (m.stackForAll.sessions.size ≤ SESSION_NUM_MAX → (x ∈ m'.stackForAll.stack ↔
        x ∈ m.stackForAll.stack ∨ (holder m (itemKey m.items x)).isSome = true)) := by
  have hgone := allKept_removeSessionForAllUser m (m.items x).pid (m.items x).abilityName
  have hkey : holder m (itemKey m.items x) =
      m.stackForAll.sessions[(⟨(m.items x).pid, (m.items x).abilityName⟩ : SessionKey)]? := rfl
  dsimp only
  unfold UsersManager.updateSessionForCurrentUser
  cases hr : m.stackForAll.sessions[(⟨(m.items x).pid, (m.items x).abilityName⟩ : SessionKey)]? with
  | none =>
      rw [UsersManager.removeSessionForAllUser_of_none hr] at hgone ⊢
      refine ⟨hgone.of_nobody, fun _ => ?_⟩
      rw [hkey, hr]
      exact (or_iff_left Bool.false_ne_true).symm
  | some r =>
      have hsize : (m.removeSessionForAllUser (m.items x).pid
          (m.items x).abilityName).1.stackForAll.sessions.size =
            m.stackForAll.sessions.size - 1 := by
        rw [stackForAll_removeSessionForAllUser]
        unfold SessionStack.removeSession
        rw [hr]
        refine ExtTreeMap.size_erase.trans (if_pos ?_)
        rw [ExtTreeMap.contains_eq_isSome_getElem?, hr]
        rfl
      rcases hm : m.removeSessionForAllUser (m.items x).pid (m.items x).abilityName with
        ⟨m₁, result⟩
      have hresult : result = some r := by
        have hsnd := congrArg Prod.snd (UsersManager.removeSessionForAllUser_of_some hr)
        rw [hm] at hsnd
        exact hsnd
      subst hresult
      rw [hm] at hgone hsize
      obtain ⟨hadded, hmem⟩ := allKept_addSessionForCurrentUser m₁ (m.items x).pid abilityName x 0
      refine ⟨hgone.of_nobody.trans hadded, fun hbound => ?_⟩
      rw [hkey, hr]
      refine iff_of_true (hmem.mpr (Or.inr ?_)) (Or.inr rfl)
      have hsize' : m₁.stackForAll.sessions.size = m.stackForAll.sessions.size - 1 := hsize
      unfold SESSION_NUM_MAX at *
      omega

/-- The broker's session is in the container of all users, if it was there or someone held its
key. -/
theorem allKept_checkAndUpdateAncoMediaSession (s : AVSessionService) (uid : Uid)
    (bundleName abilityName : String) :
    let s' := s.checkAndUpdateAncoMediaSession uid bundleName abilityName
    AllKept (GoneForBroker s uid) (fun y => brokerSession s uid = some y) s.users s'.users ∧
      ∀ x, brokerSession s uid = some x →
        (s'.users.items x).isDestroyed = (s.users.items x).isDestroyed ∧
        (s.users.stackForAll.sessions.size ≤ SESSION_NUM_MAX → (x ∈ s'.users.stackForAll.stack ↔
          x ∈ s.users.stackForAll.stack ∨
            (holder s.users (itemKey s.users.items x)).isSome = true)) := by
  dsimp only
  rw [checkAndUpdateAncoMediaSession_eq]
  unfold GoneForBroker
  cases hx : brokerSession s uid with
  | none =>
      refine ⟨(AllKept.refl _ _).trans_aux (AllKept.refl _ s.users) fun y => ?_, nofun⟩
      exact iff_of_false (fun ⟨_, h, _⟩ => nomatch h) fun h => h.elim id id
  | some x =>
      obtain ⟨hkept, hmem⟩ := allKept_updateSessionForCurrentUser s.users x abilityName
      have hitems := s.users.updateSessionForCurrentUser_items (s.users.items x).pid
        (s.users.items x).abilityName x abilityName
      have hkept' : AllKept (fun y => ∃ z, some x = some z ∧
          holder s.users (itemKey s.users.items z) = some y) (fun y => some x = some y) s.users
          (s.users.updateSessionForCurrentUser (s.users.items x).pid
            (s.users.items x).abilityName abilityName x).1 := by
        refine AllKept.mono (hkept.trans_aux (AllKept.refl _ _) fun y => ?_) fun y hy => hy ▸ rfl
        exact ⟨fun ⟨_, hz, hy⟩ => Or.inl (Option.some.inj hz ▸ hy),
          fun h => ⟨x, rfl, h.resolve_right id⟩⟩
      dsimp only
      split_ifs
      · refine ⟨hkept', fun z hz => ?_⟩
        obtain rfl := Option.some.inj hz
        refine ⟨?_, hmem⟩
        rw [withUsers_users, hitems]
      · refine ⟨hkept'.trans (AllKept.withItem x rfl fun _ => rfl), fun z hz => ?_⟩
        obtain rfl := Option.some.inj hz
        refine ⟨?_, hmem⟩
        rw [withUsers_users, UsersManager.withItem_items, if_pos rfl, hitems]

/-- The containers that a new session of the caller is added to have room. -/
def HasRoom (s : AVSessionService) (uid : Uid) : Prop :=
  s.users.stackForAll.sessions.size < SESSION_NUM_MAX ∧
    (s.users.stackByUser (s.users.effectiveUser
      (getUserIdFromCallingUid s.users uid))).sessions.size < SESSION_NUM_MAX

instance (s : AVSessionService) (uid : Uid) : Decidable (HasRoom s uid) :=
  inferInstanceAs (Decidable (_ ∧ _))

/-- A user's container takes a session while it has room. -/
theorem addToUser_success_iff (m : UsersManager) (u : UserId) (pid : Pid) (abilityName : String)
    (x : SessionRef) : (m.addToUser u pid abilityName x).2 = .success ↔
      (m.stackByUser u).sessions.size < SESSION_NUM_MAX := by
  by_cases huser : (m.stackByUser u).sessions.size < SESSION_NUM_MAX
  · rw [UsersManager.addToUser_of_not_full huser]
    exact iff_of_true rfl huser
  · rw [UsersManager.addToUser_of_full (Nat.le_of_not_lt huser)]
    exact iff_of_false nofun huser

/-- A session is added while both containers have room. -/
theorem addSessionForCurrentUser_success_iff (m : UsersManager) (pid : Pid) (abilityName : String)
    (x : SessionRef) (u : UserId) :
    (m.addSessionForCurrentUser pid abilityName x u).2 = .success ↔
      m.stackForAll.sessions.size < SESSION_NUM_MAX ∧
        (m.stackByUser (m.effectiveUser u)).sessions.size < SESSION_NUM_MAX := by
  by_cases hall : m.stackForAll.sessions.size < SESSION_NUM_MAX
  · unfold UsersManager.addSessionForCurrentUser
    rw [UsersManager.addToAll_of_not_full hall, and_iff_right hall]
    dsimp only
    rw [if_neg (not_not_intro rfl)]
    exact addToUser_success_iff (m.withAll _) _ pid abilityName x
  · rw [UsersManager.addSessionForCurrentUser_of_full (Nat.le_of_not_lt hall)]
    exact iff_of_false nofun fun h => hall h.1

/-- A creation that is not refused: the new session is handed out if both containers have room, and
it is in the container of all users if that has room. -/
theorem allKept_createSessionForCaller {pid : Pid} {uid : Uid} (type : SessionType)
    (elementName sessionElement : ElementName)
    (hability : s.abilityHasSession pid (getUserIdFromCallingUid s.users uid) = false) :
    let r := s.createSessionForCaller pid uid type elementName sessionElement
    AllKept nobody (· = s.nextSession) s.users r.1.users ∧
      r.1.nextSession = s.nextSession + 1 ∧
      (r.1.users.items s.nextSession).isDestroyed = false ∧
      (s.nextSession ∈ r.1.users.stackForAll.stack ↔ s.nextSession ∈ s.users.stackForAll.stack ∨
        s.users.stackForAll.sessions.size < SESSION_NUM_MAX) ∧
      r.2 = if HasRoom s uid then some s.nextSession else none := by
  have hallocated : AllKept nobody (· = s.nextSession) s.users
      (s.createNewSession pid uid type sessionElement.bundleName sessionElement.abilityName).users :=
    AllKept.withItem s.nextSession rfl fun hne => absurd rfl hne
  obtain ⟨hadded, hmem⟩ := allKept_addSessionForCurrentUser
    (s.createNewSession pid uid type sessionElement.bundleName sessionElement.abilityName).users
    pid sessionElement.abilityName s.nextSession (getUserIdFromCallingUid s.users uid)
  have hsuccess := addSessionForCurrentUser_success_iff
    (s.createNewSession pid uid type sessionElement.bundleName sessionElement.abilityName).users
    pid sessionElement.abilityName s.nextSession (getUserIdFromCallingUid s.users uid)
  have hitems := UsersManager.addSessionForCurrentUser_items
    (s.createNewSession pid uid type sessionElement.bundleName sessionElement.abilityName).users
    pid sessionElement.abilityName (getUserIdFromCallingUid s.users uid) s.nextSession
  have hself := ServiceInv.items_createNewSession s pid uid type sessionElement.bundleName
    sessionElement.abilityName s.nextSession
  rw [if_pos rfl, ← hitems] at hself
  have hcode : ((s.createNewSession pid uid type sessionElement.bundleName
      sessionElement.abilityName).users.addSessionForCurrentUser pid sessionElement.abilityName
        s.nextSession (getUserIdFromCallingUid s.users uid)).2 = .success ↔ HasRoom s uid := hsuccess
  have halive := congrArg AVSessionItem.isDestroyed hself
  dsimp only
  unfold createSessionForCaller
  rw [hability, if_neg Bool.false_ne_true]
  dsimp only
  split_ifs with hfail hroom hroom
  · exact absurd (hcode.mpr hroom) hfail
  · exact ⟨hallocated.trans hadded, rfl, halive, hmem, rfl⟩
  · refine ⟨(hallocated.trans hadded).trans ?_, rfl, ?_, ?_, rfl⟩
    · unfold addExtraFrontSession
      split_ifs
      · exact allKept_cons _ _ (Or.inr rfl)
      · exact AllKept.refl _ _
    · rw [withUsers_users]
      unfold addExtraFrontSession
      split_ifs <;> exact halive
    · rw [withUsers_users]
      unfold addExtraFrontSession
      split_ifs <;> exact hmem
  · exact absurd (hcode.mp (not_not.mp hfail)) hroom

/-- A session that is taken out of its containers and put into others. -/
theorem allKept_updateSessionForUserChange (hinj : DistinctIds m.items) (oldUserId userId : UserId)
    (x : SessionRef) :
    AllKept nobody (· = x) m (m.updateSessionForUserChange oldUserId userId (some x)).1 := by
  have huser : AllKept nobody (· = x) m
      (m.removeIdFromUser oldUserId (m.items x).sessionId) := by
    refine ⟨fun _ => rfl, fun _ _ => (and_iff_left id).symm, fun _ _ => rfl, ?_, id⟩
    rintro y (hy | ⟨v, hy⟩ | hy)
    · exact Or.inl (Or.inl hy)
    · refine Or.inl (Or.inr (Or.inl ⟨v, ?_⟩))
      by_cases hv : v = oldUserId
      · subst hv
        have hy' : y ∈ ((m.withUser v ((m.getContainerFromUser v).removeSessionById m.items
            (m.items x).sessionId).1).stackByUser v).stack := hy
        rw [UsersManager.withUser_stackByUser_self] at hy'
        exact ((mem_stack_removeSessionById _ _).mp hy').1
      · have hy' : y ∈ ((m.withUser oldUserId ((m.getContainerFromUser
            oldUserId).removeSessionById m.items (m.items x).sessionId).1).stackByUser v).stack := hy
        rwa [UsersManager.withUser_stackByUser_of_ne _ _ _ hv] at hy'
    · exact Or.inl (Or.inr (Or.inr hy))
  have hall : AllKept nobody (· = x) (m.removeIdFromUser oldUserId (m.items x).sessionId)
      ((m.removeIdFromUser oldUserId (m.items x).sessionId).removeIdFromAll
        (m.items x).sessionId) :=
    (allKept_removeIdFromAll (m := m.removeIdFromUser oldUserId (m.items x).sessionId) hinj
      x).of_nobody.of_gone fun _ h => h.1
  have hdetached : AllKept nobody (· = x) m (m.detachForUserChange oldUserId userId x) :=
    (huser.trans hall).trans (AllKept.withItem x rfl fun hne => absurd rfl hne)
  rw [UsersManager.updateSessionForUserChange_some]
  refine hdetached.trans ?_
  unfold UsersManager.attachForUserChange
  dsimp only
  split_ifs
  · exact allKept_addToUser _ x
  · exact (allKept_addToUser _ x).trans (allKept_addToAll _ _ _ x)

/-- A session for a cast to this device is pushed to a front list, and perhaps moved before. -/
theorem allKept_pushedByCast (hinj : DistinctIds s.users.items) (x : SessionRef)
    (userId : UserId) : AllKept nobody (· = x) s.users (pushedByCast s x userId) := by
  have hpush : ∀ m : UsersManager, AllKept nobody (· = x) m (pushFront m x userId) := by
    intro m
    unfold pushFront
    split_ifs
    · exact AllKept.refl _ _
    · exact allKept_cons m userId (Or.inr rfl)
  unfold pushedByCast
  split_ifs
  · exact (allKept_updateSessionForUserChange hinj _ userId x).trans (hpush _)
  · exact hpush _

end creation

/-! ## The other handlers -/

section handlers

variable {s : AVSessionService} {x : SessionRef}

/-- A user switch loses nobody. -/
theorem allKept_handleUserSwitched (m : UsersManager) (userId : UserId) :
    AllKept nobody nobody m (handleUserSwitched m userId) := by
  have hswitched : AllKept nobody nobody m (m.handleUserSwitched userId) :=
    AllKept.of_front rfl rfl rfl fun u y hy => Or.inl (Or.inr (Or.inr ⟨u, hy⟩))
  exact hswitched.trans (allKept_updateTopSession _ userId _)

/-- The refresh of the user at the start of a creation loses nobody. -/
theorem allKept_refreshed (s : AVSessionService) (tag : String) (uid : Uid)
    (elementName : ElementName) :
    AllKept nobody nobody s.users (s.refreshed tag uid elementName).users := by
  unfold refreshed
  rw [withUsers_users]
  rcases refreshUserFromAnco_cases s.users tag uid elementName with hsame | ⟨u, hswitched⟩
  · rw [hsame]
    exact AllKept.refl _ _
  · rw [hswitched]
    exact allKept_handleUserSwitched s.users u

/-- A call made on a found session loses what the call itself loses. -/
theorem allKept_withSession (s : AVSessionService) (sessionId : String)
    {f : UsersManager → SessionRef → UsersManager}
    (hf : ∀ x, Mentioned s.users x → AllKept nobody nobody s.users (f s.users x)) :
    AllKept nobody nobody s.users (withSession s sessionId f).users := by
  unfold withSession
  cases hfind : s.users.getContainerFromAll.getSessionById s.users.items sessionId with
  | none => exact AllKept.refl _ _
  | some x => exact hf x (Or.inl (List.mem_of_find?_eq_some hfind))

/-- UpdateSession loses nobody. -/
theorem allKept_updateSession (s : AVSessionService) (o : Oracle) (sessionId : String)
    (isAdd : Bool) (userId : UserId) :
    AllKept nobody nobody s.users (s.updateSession o sessionId isAdd userId).users := by
  unfold updateSession
  cases hfind : (s.users.getContainerFromUser (getTargetUserId s.users userId)).getSessionById
      s.users.items sessionId with
  | none => exact AllKept.refl _ _
  | some x =>
      exact allKept_updateFrontSession _ o _ isAdd fun _ =>
        Or.inr (Or.inl ⟨_, List.mem_of_find?_eq_some hfind⟩)

end handlers

end AvSession.Service
