import AvSession.Registry.UsersManager

/-!
# The partition of the sessions among the users

The container of all users should be the disjoint union of the containers of the users, with each
session in the container of the user it carries.

* `Partition` — the invariant. `Partition.mem_user` is its working form: the container of `u` holds
  the entries of the container of all users whose session belongs to `u`.
* `Partition.remove` — taking the same entries out of both containers keeps it. The three removals
  and the removal of a user are instances.
* `Partition.push_iff` — adding to both containers keeps it exactly for a free key, a new session
  and the user that the session carries. From it, the exact conditions of the additions
  (`addSession_iff`, `updateForCurrentUser_iff`, `updateForUserChange_iff`).
* `partition_always_iff` — the runs along which the invariant never breaks.
-/

namespace AvSession.Registry

open Std AvSession.Lib AvSession.Lib.OrderedMap

/-- No two sessions share a session id: `AllocSessionId` derives the id from a number that it never
uses twice. -/
def DistinctIds (items : Items) : Prop := Function.Injective fun x => (items x).sessionId

/-- The session is in the container of all users. -/
def UsersManager.Registered (m : UsersManager) (x : SessionRef) : Prop :=
  ∃ k : SessionKey, m.stackForAll.sessions[k]? = some x

/-- The container of all users holds exactly what the containers of the users hold together
(`union`), and a container of a user holds only sessions of that user (`owner`), so that no two of
them share a session. -/
structure Partition (m : UsersManager) : Prop where
  rep_all : Rep m.stackForAll
  rep_user : ∀ u, Rep (m.stackByUser u)
  union : ∀ (k : SessionKey) x, m.stackForAll.sessions[k]? = some x ↔
    ∃ u, (m.stackByUser u).sessions[k]? = some x
  owner : ∀ u (k : SessionKey) x, (m.stackByUser u).sessions[k]? = some x →
    (m.items x).userId = u

namespace Partition

variable {m : UsersManager} {k : SessionKey} {x : SessionRef} {u : UserId}

/-! ## The invariant read key by key -/

section keywise

/-- The container of `u` holds the entries whose session belongs to `u`. -/
theorem mem_user (h : Partition m) :
    (m.stackByUser u).sessions[k]? = some x ↔
      m.stackForAll.sessions[k]? = some x ∧ (m.items x).userId = u := by
  constructor
  · intro hx
    exact ⟨(h.union k x).mpr ⟨u, hx⟩, h.owner u k x hx⟩
  · rintro ⟨hx, rfl⟩
    obtain ⟨v, hv⟩ := (h.union k x).mp hx
    rwa [h.owner v k x hv]

/-- The stacks of the users divide the stack of all by the users of the sessions. -/
theorem of_mem_user (hall : Rep m.stackForAll) (huser : ∀ u, Rep (m.stackByUser u))
    (hmem : ∀ u (k : SessionKey) x, (m.stackByUser u).sessions[k]? = some x ↔
      m.stackForAll.sessions[k]? = some x ∧ (m.items x).userId = u) : Partition m where
  rep_all := hall
  rep_user := huser
  union k x := by
    constructor
    · intro hx
      exact ⟨_, (hmem _ k x).mpr ⟨hx, rfl⟩⟩
    · rintro ⟨u, hx⟩
      exact ((hmem u k x).mp hx).1
  owner u k x hx := ((hmem u k x).mp hx).2

/-- The list of all has the registered sessions. -/
theorem mem_stack_all (h : Partition m) : x ∈ m.stackForAll.stack ↔ m.Registered x :=
  h.rep_all.mem_stack

/-- The list of a user has his registered sessions. -/
theorem mem_stack_user (h : Partition m) :
    x ∈ (m.stackByUser u).stack ↔ m.Registered x ∧ (m.items x).userId = u := by
  rw [(h.rep_user u).mem_stack]
  constructor
  · rintro ⟨k, hk⟩
    exact ⟨⟨k, (h.mem_user.mp hk).1⟩, (h.mem_user.mp hk).2⟩
  · rintro ⟨⟨k, hk⟩, hu⟩
    exact ⟨k, h.mem_user.mpr ⟨hk, hu⟩⟩

/-- No user has more sessions than there are. -/
theorem size_user_le (h : Partition m) (u : UserId) :
    (m.stackByUser u).sessions.size ≤ m.stackForAll.sessions.size := by
  refine h.rep_all.size_le (h.rep_user u) fun k x hx => ?_
  exact ⟨k, (h.mem_user.mp hx).1⟩

/-- A new manager has no session. -/
theorem empty (items : Items) (userId : UserId) : Partition (UsersManager.init items userId) := by
  refine of_mem_user Rep.empty (fun _ => Rep.empty) fun u k x => ?_
  simp [UsersManager.init, SessionStack.empty]

/-- A change of an item keeps the partition, if it keeps the owner of a registered session. -/
theorem withItem (h : Partition m) (x : SessionRef) {item : AVSessionItem}
    (hitem : m.Registered x → item.userId = (m.items x).userId) :
    Partition (m.withItem x item) := by
  refine of_mem_user h.rep_all h.rep_user fun u k y => ?_
  show (m.stackByUser u).sessions[k]? = some y ↔ m.stackForAll.sessions[k]? = some y ∧
    (Function.update m.items x item y).userId = u
  rw [h.mem_user]
  refine and_congr_right fun hy => ?_
  by_cases heq : y = x
  · subst heq
    rw [Function.update_self, hitem ⟨k, hy⟩]
  · rw [Function.update_of_ne heq]

/-- A session that is not registered may change its user. -/
theorem setUserId (h : Partition m) (hx : ¬ m.Registered x) (u : UserId) :
    Partition (m.setUserId x u) := h.withItem x fun hx' => absurd hx' hx

end keywise

/-! ## Removals -/

section removals

/-- Keep in both containers the same entries, those that meet `q`, where all that goes belongs to
one user. -/
theorem remove (h : Partition m) (q : SessionKey → SessionRef → Prop) {sa su : SessionStack}
    (hsa : Rep sa) (hsu : Rep su)
    (ha : ∀ k x, sa.sessions[k]? = some x ↔ m.stackForAll.sessions[k]? = some x ∧ q k x)
    (hu : ∀ k x, su.sessions[k]? = some x ↔ (m.stackByUser u).sessions[k]? = some x ∧ q k x)
    (hq : ∀ k x, m.stackForAll.sessions[k]? = some x → ¬ q k x → (m.items x).userId = u) :
    Partition ((m.withAll sa).withUser u su) := by
  refine of_mem_user hsa (fun v => ?_) fun v k x => ?_
  · by_cases hv : v = u
    · subst hv
      simpa using hsu
    · simpa [hv] using h.rep_user v
  · simp only [UsersManager.withUser_stackForAll, UsersManager.withAll_stackForAll,
      UsersManager.withUser_items, UsersManager.withAll_items]
    by_cases hv : v = u
    · subst hv
      rw [UsersManager.withUser_stackByUser_self, hu, ha, h.mem_user]
      tauto
    · rw [UsersManager.withUser_stackByUser_of_ne _ _ _ hv, UsersManager.withAll_stackByUser,
        h.mem_user, ha]
      constructor
      · rintro ⟨hx, howner⟩
        refine ⟨⟨hx, ?_⟩, howner⟩
        by_contra hnq
        exact hv (howner.symm.trans (hq k x hx hnq))
      · rintro ⟨⟨hx, -⟩, howner⟩
        exact ⟨hx, howner⟩

/-- Removing by key keeps the division. -/
theorem removeSessionForAllUser (h : Partition m) (pid : Pid) (abilityName : String) :
    Partition (m.removeSessionForAllUser pid abilityName).1 := by
  cases hk : m.stackForAll.sessions[(⟨pid, abilityName⟩ : SessionKey)]? with
  | none =>
      rw [UsersManager.removeSessionForAllUser_of_none hk]
      exact h
  | some result =>
      rw [UsersManager.removeSessionForAllUser_of_some hk]
      refine h.remove (fun k _ => ⟨pid, abilityName⟩ ≠ k)
        (h.rep_all.removeSession pid abilityName) ((h.rep_user _).removeSession pid abilityName)
        (fun k x => removeSession_eq_some_iff _) (fun k x => removeSession_eq_some_iff _) ?_
      intro k x hx hne
      rw [not_not.mp hne, hx, Option.some.injEq] at hk
      rw [hk]

/-- Removing the id of a session from both containers. -/
theorem removeId (h : Partition m) (hinj : DistinctIds m.items) (x : SessionRef) :
    Partition ((m.removeIdFromUser (m.items x).userId (m.items x).sessionId).removeIdFromAll
      (m.items x).sessionId) := by
  refine h.remove (fun _ y => (m.items y).sessionId ≠ (m.items x).sessionId)
    (h.rep_all.removeSessionById m.items _) ((h.rep_user _).removeSessionById m.items _)
    (fun k y => removeSessionById_eq_some_iff _ _) (fun k y => removeSessionById_eq_some_iff _ _) ?_
  intro k y _ hid
  rw [hinj (not_not.mp hid)]

/-- So does removing by id. -/
theorem removeSessionForAllUserById (h : Partition m) (hinj : DistinctIds m.items)
    (sessionId : String) : Partition (m.removeSessionForAllUserById sessionId).1 := by
  unfold UsersManager.removeSessionForAllUserById UsersManager.getContainerFromAll
  cases hr : (m.stackForAll.removeSessionById m.items sessionId).2 with
  | none => exact h
  | some result =>
      have hid := sessionId_of_snd_removeSessionById _ _ hr
      subst hid
      exact h.removeId hinj result

/-- So does removing by process. -/
theorem removeSessionForAllUserByPid (h : Partition m) (hinj : DistinctIds m.items) (pid : Pid) :
    Partition (m.removeSessionForAllUserByPid pid).1 := by
  unfold UsersManager.removeSessionForAllUserByPid
  generalize m.getContainerFromAll.getSessionsByPid pid = result
  show Partition (result.foldl _ m)
  induction result generalizing m with
  | nil => exact h
  | cons x result ih => exact ih (h.removeId hinj x) hinj

/-- The loop of `HandleUserRemoved` touches only the container of all users, and takes the listed
sessions out of it. -/
theorem foldl_removeIdFromAll (hinj : DistinctIds m.items) (hrep : Rep m.stackForAll)
    (l : List SessionRef) : ∃ s, Rep s ∧
      l.foldl (fun m x => m.removeIdFromAll (m.items x).sessionId) m = m.withAll s ∧
      ∀ (k : SessionKey) y, s.sessions[k]? = some y ↔
        m.stackForAll.sessions[k]? = some y ∧ y ∉ l := by
  induction l generalizing m with
  | nil => exact ⟨m.stackForAll, hrep, rfl, by simp⟩
  | cons x l ih =>
      obtain ⟨s, hs, hfold, hmem⟩ := ih (m := m.removeIdFromAll (m.items x).sessionId) hinj
        (hrep.removeSessionById m.items _)
      refine ⟨s, hs, hfold, fun k y => ?_⟩
      have hstep : (m.removeIdFromAll (m.items x).sessionId).stackForAll.sessions[k]? = some y ↔
          m.stackForAll.sessions[k]? = some y ∧ (m.items y).sessionId ≠ (m.items x).sessionId :=
        removeSessionById_eq_some_iff _ _
      have hid : (m.items y).sessionId ≠ (m.items x).sessionId ↔ y ≠ x :=
        not_congr ⟨fun heq => hinj heq, fun heq => by rw [heq]⟩
      rw [hmem, hstep, hid, List.mem_cons, not_or, and_assoc]

/-- When a user is removed, so are his sessions from the stack of all. -/
theorem handleUserRemoved_eq (h : Partition m) (hinj : DistinctIds m.items) (userId : UserId) :
    ∃ s, Rep s ∧ m.handleUserRemoved userId = (m.withAll s).eraseUser userId ∧
      ∀ (k : SessionKey) x, s.sessions[k]? = some x ↔
        m.stackForAll.sessions[k]? = some x ∧ (m.items x).userId ≠ userId := by
  obtain ⟨s, hs, hfold, hmem⟩ :=
    foldl_removeIdFromAll hinj h.rep_all (m.stackByUser userId).stack
  refine ⟨s, hs, congrArg (UsersManager.eraseUser · userId) hfold, fun k x => ?_⟩
  rw [hmem, h.mem_stack_user]
  refine and_congr_right fun hk => ?_
  have hreg : m.Registered x := ⟨k, hk⟩
  tauto

/-- The removal of a user takes out exactly the sessions of that user. -/
theorem registered_handleUserRemoved (h : Partition m) (hinj : DistinctIds m.items)
    (userId : UserId) : (m.handleUserRemoved userId).Registered x ↔
      m.Registered x ∧ (m.items x).userId ≠ userId := by
  obtain ⟨s, -, heq, hmem⟩ := h.handleUserRemoved_eq hinj userId
  rw [heq]
  show (∃ k : SessionKey, s.sessions[k]? = some x) ↔ _
  simp only [hmem, UsersManager.Registered, exists_and_right]

/-- So does removing a user. -/
theorem handleUserRemoved (h : Partition m) (hinj : DistinctIds m.items) (userId : UserId) :
    Partition (m.handleUserRemoved userId) := by
  obtain ⟨s, hs, heq, hmem⟩ := h.handleUserRemoved_eq hinj userId
  have hp : Partition ((m.withAll s).withUser userId SessionStack.empty) := by
    refine h.remove (fun _ x => (m.items x).userId ≠ userId) hs Rep.empty hmem (fun k x => ?_)
      fun k x _ => not_not.mp
    rw [h.mem_user]
    simp [SessionStack.empty]
  rw [heq]
  exact ⟨hp.rep_all, hp.rep_user, hp.union, hp.owner⟩

end removals

/-! ## Additions -/

section additions

variable {pid : Pid} {abilityName oldAbilityName newAbilityName : String}

/-- Room among all sessions is room for each user. -/
theorem room_user (h : Partition m) (hsize : m.stackForAll.sessions.size < SESSION_NUM_MAX)
    (u : UserId) : (m.stackByUser u).sessions.size < SESSION_NUM_MAX :=
  (h.size_user_le u).trans_lt hsize

/-- Adding to both containers keeps the partition exactly for a free key, a session that is not
registered, and the user that the session carries. -/
theorem push_iff (h : Partition m) (hsize : m.stackForAll.sessions.size < SESSION_NUM_MAX) :
    Partition (m.pushBoth u k x) ↔
      m.stackForAll.sessions[k]? = none ∧ ¬ m.Registered x ∧ (m.items x).userId = u := by
  have hall : Rep (m.stackForAll.push k x) ↔
      m.stackForAll.sessions[k]? = none ∧ ¬ m.Registered x := by
    rw [h.rep_all.push_iff hsize, h.mem_stack_all]
  constructor
  · intro h'
    obtain ⟨hk, hx⟩ := hall.mp h'.rep_all
    refine ⟨hk, hx, h'.owner u k x ?_⟩
    have hku : (m.stackByUser u).sessions[k]? = none := by
      rw [Option.eq_none_iff_forall_ne_some]
      intro y hy
      simp [(h.mem_user.mp hy).1] at hk
    rw [UsersManager.pushBoth, UsersManager.withUser_stackByUser_self, push_eq_some_iff hku]
    exact Or.inl ⟨rfl, rfl⟩
  · rintro ⟨hk, hx, rfl⟩
    have hku : (m.stackByUser (m.items x).userId).sessions[k]? = none := by
      rw [Option.eq_none_iff_forall_ne_some]
      intro y hy
      simp [(h.mem_user.mp hy).1] at hk
    have hxu : x ∉ (m.stackByUser (m.items x).userId).stack :=
      fun hmem => hx (h.mem_stack_user.mp hmem).1
    refine of_mem_user (hall.mpr ⟨hk, hx⟩) (fun v => ?_) fun v k' y => ?_
    · by_cases hv : v = (m.items x).userId
      · subst hv
        rw [UsersManager.pushBoth, UsersManager.withUser_stackByUser_self]
        exact ((h.rep_user _).push_iff (h.room_user hsize _) k x).mpr ⟨hku, hxu⟩
      · rw [UsersManager.pushBoth, UsersManager.withUser_stackByUser_of_ne _ _ _ hv]
        exact h.rep_user v
    · show _ ↔ (m.stackForAll.push k x).sessions[k']? = some y ∧ (m.items y).userId = v
      rw [push_eq_some_iff hk]
      by_cases hv : v = (m.items x).userId
      · subst hv
        rw [UsersManager.pushBoth, UsersManager.withUser_stackByUser_self, push_eq_some_iff hku,
          h.mem_user]
        constructor
        · rintro (⟨rfl, rfl⟩ | ⟨hy, howner⟩)
          · exact ⟨Or.inl ⟨rfl, rfl⟩, rfl⟩
          · exact ⟨Or.inr hy, howner⟩
        · rintro ⟨hy | hy, howner⟩
          · exact Or.inl hy
          · exact Or.inr ⟨hy, howner⟩
      · rw [UsersManager.pushBoth, UsersManager.withUser_stackByUser_of_ne _ _ _ hv,
          UsersManager.withAll_stackByUser, h.mem_user]
        constructor
        · rintro ⟨hy, howner⟩
          exact ⟨Or.inr hy, howner⟩
        · rintro ⟨⟨rfl, rfl⟩ | hy, howner⟩
          · exact absurd howner.symm hv
          · exact ⟨hy, howner⟩

/-- A session that only a user has taken breaks the partition. -/
theorem not_partition_half_added (hx : ¬ m.Registered x) :
    ¬ Partition (m.withUser u ((m.stackByUser u).push k x)) := by
  intro h'
  have hmem : x ∈ ((m.withUser u ((m.stackByUser u).push k x)).stackByUser u).stack := by
    rw [UsersManager.withUser_stackByUser_self]
    exact List.mem_cons_self
  exact hx (h'.mem_stack_user.mp hmem).1

/-- Adding at a free key registers the session. -/
theorem registered_pushBoth {y : SessionRef} (hk : m.stackForAll.sessions[k]? = none) :
    (m.pushBoth u k x).Registered y ↔ m.Registered y ∨ y = x := by
  show (∃ k' : SessionKey, (m.stackForAll.push k x).sessions[k']? = some y) ↔ _
  simp only [push_eq_some_iff hk, exists_or, exists_eq_left', UsersManager.Registered]
  rw [or_comm, eq_comm (a := x)]

/-- Adding keeps the division exactly if there is no room, or the key is free and the session new
and of the user it is added to. -/
theorem addSession_iff (h : Partition m) :
    Partition (m.addSessionForCurrentUser pid abilityName x u).1 ↔
      m.stackForAll.sessions.size ≥ SESSION_NUM_MAX ∨
        (m.stackForAll.sessions[(⟨pid, abilityName⟩ : SessionKey)]? = none ∧ ¬ m.Registered x ∧
          (m.items x).userId = m.effectiveUser u) := by
  by_cases hfull : m.stackForAll.sessions.size ≥ SESSION_NUM_MAX
  · rw [UsersManager.addSessionForCurrentUser_of_full hfull]
    exact iff_of_true h (Or.inl hfull)
  · have hsize : m.stackForAll.sessions.size < SESSION_NUM_MAX := by omega
    rw [UsersManager.addSessionForCurrentUser_of_not_full hsize (h.room_user hsize _),
      h.push_iff hsize, or_iff_right hfull]

/-- An addition that keeps the partition registers the session, if there is room. -/
theorem registered_addSession (h : Partition m) {y : SessionRef}
    (hkeeps : m.stackForAll.sessions.size ≥ SESSION_NUM_MAX ∨
      m.stackForAll.sessions[(⟨pid, abilityName⟩ : SessionKey)]? = none) :
    (m.addSessionForCurrentUser pid abilityName x u).1.Registered y ↔
      m.Registered y ∨ (y = x ∧ m.stackForAll.sessions.size < SESSION_NUM_MAX) := by
  by_cases hfull : m.stackForAll.sessions.size ≥ SESSION_NUM_MAX
  · rw [UsersManager.addSessionForCurrentUser_of_full hfull]
    simp [hfull]
  · have hsize : m.stackForAll.sessions.size < SESSION_NUM_MAX := by omega
    rw [UsersManager.addSessionForCurrentUser_of_not_full hsize (h.room_user hsize _)]
    simpa [hsize] using registered_pushBoth (hkeeps.resolve_left hfull)

/-- A removal by key makes room. -/
theorem size_removeSession_lt (h : Partition m) {r : SessionRef}
    (hk : m.stackForAll.sessions[(⟨pid, abilityName⟩ : SessionKey)]? = some r) :
    (m.stackForAll.removeSession pid abilityName).1.sessions.size < SESSION_NUM_MAX := by
  unfold SessionStack.removeSession
  rw [hk]
  show (m.stackForAll.sessions.erase ⟨pid, abilityName⟩).size < SESSION_NUM_MAX
  have := size_erase_of_some hk
  have := h.rep_all.bounded
  omega

/-- After a removal by key the session it removed is the only one that is no longer registered. -/
theorem registered_removeSession_iff (h : Partition m) {r : SessionRef}
    (hk : m.stackForAll.sessions[(⟨pid, abilityName⟩ : SessionKey)]? = some r) :
    (m.removeSessionForAllUser pid abilityName).1.Registered x ↔ m.Registered x ∧ x ≠ r := by
  rw [UsersManager.removeSessionForAllUser_of_some hk]
  constructor
  · rintro ⟨k, hrest⟩
    obtain ⟨hx, hne⟩ := (removeSession_eq_some_iff _).mp hrest
    refine ⟨⟨k, hx⟩, fun heq => ?_⟩
    rw [heq] at hx
    exact hne (h.rep_all.key_unique hk hx)
  · rintro ⟨⟨k, hx⟩, hne⟩
    refine ⟨k, (removeSession_eq_some_iff _).mpr ⟨hx, ?_⟩⟩
    rintro rfl
    exact hne (by rw [hk, Option.some.injEq] at hx; exact hx.symm)

/-- The removal of an update makes the room that its addition needs. -/
theorem updateForCurrentUser_of_some (h : Partition m) {r : SessionRef}
    (hk : m.stackForAll.sessions[(⟨pid, oldAbilityName⟩ : SessionKey)]? = some r) :
    m.updateSessionForCurrentUser pid oldAbilityName newAbilityName x =
      ((m.removeSessionForAllUser pid oldAbilityName).1.pushBoth m.curUserId
        ⟨pid, newAbilityName⟩ x, .success) := by
  have h₁ := h.removeSessionForAllUser pid oldAbilityName
  have hsize := h.size_removeSession_lt hk
  unfold UsersManager.updateSessionForCurrentUser
  rw [UsersManager.removeSessionForAllUser_of_some hk] at h₁ ⊢
  exact UsersManager.addSessionForCurrentUser_of_not_full hsize (h₁.room_user hsize _)

/-- An unknown key gets no other name. -/
theorem updateForCurrentUser_of_none
    (hk : m.stackForAll.sessions[(⟨pid, oldAbilityName⟩ : SessionKey)]? = none) :
    m.updateSessionForCurrentUser pid oldAbilityName newAbilityName x = (m, .error) := by
  unfold UsersManager.updateSessionForCurrentUser
  rw [UsersManager.removeSessionForAllUser_of_none hk]

/-- After the removal of an update the new key is free if it was, or if it is the old one. -/
theorem getElem?_removeSession_eq_none_iff {s : SessionStack} :
    (s.removeSession pid oldAbilityName).1.sessions[(⟨pid, newAbilityName⟩ : SessionKey)]? =
        none ↔
      newAbilityName = oldAbilityName ∨
        s.sessions[(⟨pid, newAbilityName⟩ : SessionKey)]? = none := by
  rw [getElem?_removeSession]
  split_ifs with heq
  · simp only [SessionKey.mk.injEq, true_and] at heq
    simp [heq]
  · simp only [SessionKey.mk.injEq, true_and] at heq
    simp [Ne.symm heq]

/-- Another name keeps the division exactly if it is free and the session is one of the current
user. -/
theorem updateForCurrentUser_iff (h : Partition m) :
    Partition (m.updateSessionForCurrentUser pid oldAbilityName newAbilityName x).1 ↔
      ∀ r, m.stackForAll.sessions[(⟨pid, oldAbilityName⟩ : SessionKey)]? = some r →
        (newAbilityName = oldAbilityName ∨
            m.stackForAll.sessions[(⟨pid, newAbilityName⟩ : SessionKey)]? = none) ∧
          (x = r ∨ ¬ m.Registered x) ∧ (m.items x).userId = m.curUserId := by
  cases hk : m.stackForAll.sessions[(⟨pid, oldAbilityName⟩ : SessionKey)]? with
  | none =>
      rw [updateForCurrentUser_of_none hk]
      simpa using h
  | some r =>
      have h₁ := h.removeSessionForAllUser pid oldAbilityName
      have hreg := h.registered_removeSession_iff (x := x) hk
      have hsize := h.size_removeSession_lt hk
      rw [h.updateForCurrentUser_of_some hk]
      rw [UsersManager.removeSessionForAllUser_of_some hk] at h₁ hreg ⊢
      simp only [Option.some.injEq, forall_eq']
      refine (h₁.push_iff hsize).trans ?_
      simp only [UsersManager.withUser_stackForAll, UsersManager.withAll_stackForAll,
        getElem?_removeSession_eq_none_iff, hreg]
      refine and_congr_right fun _ => and_congr ?_ Iff.rfl
      tauto

/-- An update that keeps the partition leaves the same sessions registered, if the item is the one
it found. -/
theorem registered_updateForCurrentUser (h : Partition m)
    (hk : m.stackForAll.sessions[(⟨pid, oldAbilityName⟩ : SessionKey)]? = some x)
    (hnew : newAbilityName = oldAbilityName ∨
      m.stackForAll.sessions[(⟨pid, newAbilityName⟩ : SessionKey)]? = none) {y : SessionRef} :
    (m.updateSessionForCurrentUser pid oldAbilityName newAbilityName x).1.Registered y ↔
      m.Registered y := by
  have hnone : (m.removeSessionForAllUser pid oldAbilityName).1.stackForAll.sessions[
      (⟨pid, newAbilityName⟩ : SessionKey)]? = none := by
    rw [UsersManager.removeSessionForAllUser_of_some hk]
    exact getElem?_removeSession_eq_none_iff.mpr hnew
  rw [h.updateForCurrentUser_of_some hk, registered_pushBoth hnone,
    h.registered_removeSession_iff hk]
  by_cases hyx : y = x
  · simp only [hyx, or_true, true_iff]
    exact ⟨_, hk⟩
  · simp [hyx]

end additions

/-! ## The change of the user -/

section userChange

variable {oldUserId newUserId : UserId}

/-- Detaching a session that is not registered changes its user and nothing else. -/
theorem detach_of_not_registered (h : Partition m) (hinj : DistinctIds m.items)
    (hx : ¬ m.Registered x) :
    m.detachForUserChange oldUserId newUserId x = m.setUserId x newUserId := by
  have hid : ∀ (k : SessionKey) y, m.stackForAll.sessions[k]? = some y →
      (m.items y).sessionId ≠ (m.items x).sessionId := by
    intro k y hy heq
    have hyx : y = x := hinj heq
    exact hx ⟨k, hyx ▸ hy⟩
  unfold UsersManager.detachForUserChange
  rw [UsersManager.removeIdFromUser_of_not_mem fun k y hy => hid k y (h.mem_user.mp hy).1]
  exact congrArg (UsersManager.setUserId · x newUserId)
    (UsersManager.removeIdFromAll_of_not_mem hid)

/-- Detaching takes the session out of the container of all users. -/
theorem stackForAll_detach_iff (hinj : DistinctIds m.items) {y : SessionRef} :
    (m.detachForUserChange oldUserId newUserId x).stackForAll.sessions[k]? = some y ↔
      m.stackForAll.sessions[k]? = some y ∧ y ≠ x := by
  refine (removeSessionById_eq_some_iff m.stackForAll m.items).trans ?_
  refine and_congr_right fun _ => not_congr ⟨fun heq => hinj heq, fun heq => ?_⟩
  rw [heq]

/-- A session that is detached is registered no more. -/
theorem not_registered_detach (hinj : DistinctIds m.items) (oldUserId newUserId : UserId) :
    ¬ (m.detachForUserChange oldUserId newUserId x).Registered x := by
  intro hx
  obtain ⟨k, hk⟩ := hx
  exact ((stackForAll_detach_iff hinj).mp hk).2 rfl

/-- Only the stack of the old user loses it. -/
theorem stackByUser_detach_of_ne {v : UserId} (hv : v ≠ oldUserId) :
    (m.detachForUserChange oldUserId newUserId x).stackByUser v = m.stackByUser v :=
  UsersManager.withUser_stackByUser_of_ne _ _ _ hv

/-- Detaching a session from the user it carries keeps the partition. -/
theorem detach_of_owner (h : Partition m) (hinj : DistinctIds m.items) (newUserId : UserId) :
    Partition (m.detachForUserChange (m.items x).userId newUserId x) := by
  refine (h.removeId hinj x).setUserId ?_ newUserId
  exact not_registered_detach hinj (m.items x).userId newUserId

/-- Detaching a registered session makes room. -/
theorem size_detach_lt (h : Partition m) (hinj : DistinctIds m.items) (hx : m.Registered x)
    (oldUserId newUserId : UserId) :
    (m.detachForUserChange oldUserId newUserId x).stackForAll.sessions.size <
      SESSION_NUM_MAX := by
  obtain ⟨k, hk⟩ := hx
  have hrep : Rep (m.detachForUserChange oldUserId newUserId x).stackForAll :=
    h.rep_all.removeSessionById m.items _
  refine (h.rep_all.size_lt hrep (fun k y hy => ((stackForAll_detach_iff hinj).mp hy).1) hk
    fun k' hk' => ?_).trans_le h.rep_all.bounded
  exact ((stackForAll_detach_iff hinj).mp hk').2 rfl

/-- A registered session that is moved away from another user than the one it carries stays behind
in the container of that one. -/
theorem not_partition_userChange (h : Partition m) (hinj : DistinctIds m.items)
    (hx : m.Registered x) (hne : oldUserId ≠ (m.items x).userId) :
    ¬ Partition (m.updateSessionForUserChange oldUserId newUserId (some x)).1 := by
  intro h'
  obtain ⟨k, hk⟩ := hx
  have hold : ((m.detachForUserChange oldUserId newUserId x).stackByUser
      (m.items x).userId).sessions[k]? = some x := by
    rw [stackByUser_detach_of_ne hne.symm]
    exact h.mem_user.mpr ⟨hk, rfl⟩
  have hnew : ((m.detachForUserChange oldUserId newUserId x).items x).userId = newUserId := by
    simp [UsersManager.detachForUserChange]
  rw [UsersManager.updateSessionForUserChange_some] at h'
  generalize hm₁ : m.detachForUserChange oldUserId newUserId x = m₁ at h' hold hnew
  have hgone : ¬ m₁.Registered x := hm₁ ▸ not_registered_detach hinj oldUserId newUserId
  rcases m₁.attachForUserChange_cases newUserId (m.items x).pid (m.items x).abilityName x with
    ⟨-, hr⟩ | ⟨-, -, hr⟩ | ⟨-, -, hr⟩
  · rw [hr] at h'
    exact hgone ⟨k, (h'.mem_user.mp hold).1⟩
  · rw [hr] at h'
    exact not_partition_half_added hgone h'
  · rw [hr] at h'
    by_cases hown : (m.items x).userId = newUserId
    · -- it is pushed a second time into the container where it still is
      have hnodup := (h'.rep_user newUserId).nodup
      rw [UsersManager.pushBoth, UsersManager.withUser_stackByUser_self] at hnodup
      refine (List.nodup_cons.mp hnodup).1 ?_
      rw [← hm₁, stackByUser_detach_of_ne (hown ▸ hne.symm), h.mem_stack_user]
      exact ⟨⟨k, hk⟩, hown⟩
    · -- the old user still has it
      refine hown ((h'.owner (m.items x).userId k x ?_).symm.trans hnew)
      rw [UsersManager.pushBoth, UsersManager.withUser_stackByUser_of_ne _ _ _ hown]
      exact hold

/-- The condition of `UpdateSessionForUserChange`: a registered session is moved away from the user
it carries, to a key that no other session holds; a session that is not registered finds the
container of the new user full, or room for all and a free key. -/
def UserChangeKeeps (m : UsersManager) (oldUserId newUserId : UserId) (x : SessionRef) : Prop :=
  (m.Registered x → oldUserId = (m.items x).userId ∧
    ∀ y, m.stackForAll.sessions[itemKey m.items x]? = some y → y = x) ∧
  (¬ m.Registered x → (m.stackByUser newUserId).sessions.size ≥ SESSION_NUM_MAX ∨
    (m.stackForAll.sessions.size < SESSION_NUM_MAX ∧
      m.stackForAll.sessions[itemKey m.items x]? = none))

/-- The session is registered, and moved away from the user it carries. -/
theorem userChange_registered_iff (h : Partition m) (hinj : DistinctIds m.items)
    (hx : m.Registered x) :
    Partition (m.updateSessionForUserChange (m.items x).userId newUserId (some x)).1 ↔
      ∀ y, m.stackForAll.sessions[itemKey m.items x]? = some y → y = x := by
  have h₁ := h.detach_of_owner hinj (x := x) newUserId
  have hsize := h.size_detach_lt hinj hx (m.items x).userId newUserId
  have hgone := not_registered_detach (x := x) hinj (m.items x).userId newUserId
  have hnew : ((m.detachForUserChange (m.items x).userId newUserId x).items x).userId =
      newUserId := by
    simp [UsersManager.detachForUserChange]
  have hkey : (m.detachForUserChange (m.items x).userId newUserId x).stackForAll.sessions[
        itemKey m.items x]? = none ↔
      ∀ y, m.stackForAll.sessions[itemKey m.items x]? = some y → y = x := by
    simp only [Option.eq_none_iff_forall_ne_some, ne_eq, stackForAll_detach_iff hinj]
    exact forall_congr' fun y => by tauto
  rw [UsersManager.updateSessionForUserChange_some]
  rcases (m.detachForUserChange (m.items x).userId newUserId x).attachForUserChange_cases
    newUserId (m.items x).pid (m.items x).abilityName x with
    ⟨huser, -⟩ | ⟨-, hall, -⟩ | ⟨-, -, hr⟩
  · have := h₁.room_user hsize newUserId
    omega
  · omega
  · rw [hr, h₁.push_iff hsize]
    simp only [hgone, hnew, not_false_eq_true, and_true]
    exact hkey

/-- The session is not registered. -/
theorem userChange_not_registered_iff (h : Partition m) (hinj : DistinctIds m.items)
    (hx : ¬ m.Registered x) :
    Partition (m.updateSessionForUserChange oldUserId newUserId (some x)).1 ↔
      (m.stackByUser newUserId).sessions.size ≥ SESSION_NUM_MAX ∨
        (m.stackForAll.sessions.size < SESSION_NUM_MAX ∧
          m.stackForAll.sessions[itemKey m.items x]? = none) := by
  have h₁ := h.setUserId hx newUserId
  have hgone : ¬ (m.setUserId x newUserId).Registered x := hx
  rw [UsersManager.updateSessionForUserChange_some, h.detach_of_not_registered hinj hx]
  rcases (m.setUserId x newUserId).attachForUserChange_cases newUserId (m.items x).pid
    (m.items x).abilityName x with ⟨huser, hr⟩ | ⟨huser, hall, hr⟩ | ⟨huser, hall, hr⟩
  · rw [hr]
    exact iff_of_true h₁ (Or.inl huser)
  · rw [UsersManager.setUserId_stackByUser] at huser
    rw [UsersManager.setUserId_stackForAll] at hall
    rw [hr]
    exact iff_of_false (not_partition_half_added hgone) (by omega)
  · rw [UsersManager.setUserId_stackByUser] at huser
    rw [hr, h₁.push_iff hall]
    rw [UsersManager.setUserId_stackForAll] at hall ⊢
    have hroom : ¬ (m.stackByUser newUserId).sessions.size ≥ SESSION_NUM_MAX := by omega
    simp only [hroom, hall, hgone, UsersManager.setUserId_items_self, not_false_eq_true, and_true,
      true_and, false_or]
    rfl

/-- A change of the user keeps the division exactly under its condition. -/
theorem updateForUserChange_iff (h : Partition m) (hinj : DistinctIds m.items) :
    Partition (m.updateSessionForUserChange oldUserId newUserId (some x)).1 ↔
      UserChangeKeeps m oldUserId newUserId x := by
  unfold UserChangeKeeps
  by_cases hx : m.Registered x
  · simp only [hx, true_imp_iff, not_true_eq_false, false_imp_iff, and_true]
    by_cases hne : oldUserId = (m.items x).userId
    · rw [hne, h.userChange_registered_iff hinj hx]
      simp
    · exact iff_of_false (h.not_partition_userChange hinj hx hne) fun hk => hne hk.1
  · rw [h.userChange_not_registered_iff hinj hx]
    simp only [hx, false_imp_iff, not_false_eq_true, true_imp_iff, true_and]

/-- After a change of the user that keeps the partition the session is registered if it was, or if
the new user had room for it; the others are registered as before. -/
theorem registered_userChange_iff (h : Partition m) (hinj : DistinctIds m.items)
    (hkeeps : UserChangeKeeps m oldUserId newUserId x) {y : SessionRef} :
    (m.updateSessionForUserChange oldUserId newUserId (some x)).1.Registered y ↔
      (m.Registered y ∧ y ≠ x) ∨
        (y = x ∧ (m.Registered x ∨ (m.stackByUser newUserId).sessions.size < SESSION_NUM_MAX)) := by
  have hpart := (h.updateForUserChange_iff hinj).mpr hkeeps
  have hdetach : (m.detachForUserChange oldUserId newUserId x).Registered y ↔
      m.Registered y ∧ y ≠ x := by
    unfold UsersManager.Registered
    simp only [stackForAll_detach_iff hinj, exists_and_right]
  rw [UsersManager.updateSessionForUserChange_some] at hpart ⊢
  rcases (m.detachForUserChange oldUserId newUserId x).attachForUserChange_cases newUserId
    (m.items x).pid (m.items x).abilityName x with
    ⟨huser, hr⟩ | ⟨huser, hall, hr⟩ | ⟨huser, hall, hr⟩
  · rw [hr, hdetach]
    have hx : ¬ m.Registered x := by
      intro hx
      obtain ⟨rfl, -⟩ := hkeeps.1 hx
      have := (h.detach_of_owner hinj newUserId).room_user (h.size_detach_lt hinj hx _ newUserId)
        newUserId
      omega
    rw [h.detach_of_not_registered hinj hx, UsersManager.setUserId_stackByUser] at huser
    have hroom : ¬ (m.stackByUser newUserId).sessions.size < SESSION_NUM_MAX := by omega
    simp only [hx, hroom, or_self, and_false, or_false]
  · rw [hr] at hpart
    have hgone := not_registered_detach (x := x) hinj oldUserId newUserId
    exact absurd hpart (not_partition_half_added hgone)
  · rw [hr] at hpart ⊢
    have hkey : (m.detachForUserChange oldUserId newUserId x).stackForAll.sessions[
        itemKey m.items x]? = none := by
      have hrep : Rep (m.detachForUserChange oldUserId newUserId x).stackForAll :=
        h.rep_all.removeSessionById m.items _
      exact ((hrep.push_iff hall (itemKey m.items x) x).mp hpart.rep_all).1
    refine (registered_pushBoth hkey).trans ?_
    rw [hdetach]
    refine or_congr_right (iff_self_and.mpr fun _ => ?_)
    by_cases hx : m.Registered x
    · exact Or.inl hx
    · rw [h.detach_of_not_registered hinj hx, UsersManager.setUserId_stackByUser] at huser
      exact Or.inr huser

end userChange

end Partition

/-! ## Runs -/

section runs

/-- A call of one of the operations of the manager, an account event, or the change of the element
name of an item that follows an update.
Source: avsession_item.cpp, `AVSessionItem::UpdateSessionElement`, for the last -/
inductive ManagerOp
  | addSessionForCurrentUser (pid : Pid) (abilityName : String) (item : SessionRef)
      (userId : UserId)
  | updateSessionForCurrentUser (pid : Pid) (oldAbilityName newAbilityName : String)
      (item : SessionRef)
  | updateSessionForUserChange (oldUserId newUserId : UserId) (item : Option SessionRef)
  | removeSessionForAllUser (pid : Pid) (abilityName : String)
  | removeSessionForAllUserById (sessionId : String)
  | removeSessionForAllUserByPid (pid : Pid)
  | handleUserRemoved (userId : UserId)
  | handleUserSwitched (userId : UserId)
  | updateSessionElement (item : SessionRef) (bundleName abilityName : String)

/-- The manager after a call. -/
def ManagerOp.step (m : UsersManager) : ManagerOp → UsersManager
  | addSessionForCurrentUser pid abilityName item userId =>
      (m.addSessionForCurrentUser pid abilityName item userId).1
  | updateSessionForCurrentUser pid oldAbilityName newAbilityName item =>
      (m.updateSessionForCurrentUser pid oldAbilityName newAbilityName item).1
  | updateSessionForUserChange oldUserId newUserId item =>
      (m.updateSessionForUserChange oldUserId newUserId item).1
  | removeSessionForAllUser pid abilityName => (m.removeSessionForAllUser pid abilityName).1
  | removeSessionForAllUserById sessionId => (m.removeSessionForAllUserById sessionId).1
  | removeSessionForAllUserByPid pid => (m.removeSessionForAllUserByPid pid).1
  | handleUserRemoved userId => m.handleUserRemoved userId
  | handleUserSwitched userId => m.handleUserSwitched userId
  | updateSessionElement item bundleName abilityName =>
      m.withItem item { m.items item with bundleName := bundleName, abilityName := abilityName }

/-- The condition on a call. -/
def ManagerOp.Keeps (m : UsersManager) : ManagerOp → Prop
  | addSessionForCurrentUser pid abilityName item userId =>
      m.stackForAll.sessions.size ≥ SESSION_NUM_MAX ∨
        (m.stackForAll.sessions[(⟨pid, abilityName⟩ : SessionKey)]? = none ∧
          ¬ m.Registered item ∧ (m.items item).userId = m.effectiveUser userId)
  | updateSessionForCurrentUser pid oldAbilityName newAbilityName item =>
      ∀ r, m.stackForAll.sessions[(⟨pid, oldAbilityName⟩ : SessionKey)]? = some r →
        (newAbilityName = oldAbilityName ∨
            m.stackForAll.sessions[(⟨pid, newAbilityName⟩ : SessionKey)]? = none) ∧
          (item = r ∨ ¬ m.Registered item) ∧ (m.items item).userId = m.curUserId
  | updateSessionForUserChange oldUserId newUserId item =>
      ∀ x, item = some x → Partition.UserChangeKeeps m oldUserId newUserId x
  | _ => True

/-- One step keeps the division exactly under its condition. -/
theorem partition_step_iff {m : UsersManager} (op : ManagerOp) (hinj : DistinctIds m.items)
    (h : Partition m) : Partition (op.step m) ↔ op.Keeps m := by
  cases op with
  | addSessionForCurrentUser pid abilityName item userId => exact h.addSession_iff
  | updateSessionForCurrentUser pid oldAbilityName newAbilityName item =>
      exact h.updateForCurrentUser_iff
  | updateSessionForUserChange oldUserId newUserId item =>
      cases item with
      | none => exact iff_of_true h (by simp [ManagerOp.Keeps])
      | some x =>
          refine (h.updateForUserChange_iff hinj).trans ?_
          simp [ManagerOp.Keeps]
  | removeSessionForAllUser pid abilityName =>
      exact iff_of_true (h.removeSessionForAllUser pid abilityName) trivial
  | removeSessionForAllUserById sessionId =>
      exact iff_of_true (h.removeSessionForAllUserById hinj sessionId) trivial
  | removeSessionForAllUserByPid pid =>
      exact iff_of_true (h.removeSessionForAllUserByPid hinj pid) trivial
  | handleUserRemoved userId => exact iff_of_true (h.handleUserRemoved hinj userId) trivial
  | handleUserSwitched userId =>
      exact iff_of_true ⟨h.rep_all, h.rep_user, h.union, h.owner⟩ trivial
  | updateSessionElement item bundleName abilityName =>
      refine iff_of_true (h.withItem item ?_) trivial
      intro _
      rfl

/-- No call changes the id of a session. -/
theorem sessionId_step (op : ManagerOp) (m : UsersManager) (x : SessionRef) :
    ((op.step m).items x).sessionId = (m.items x).sessionId := by
  cases op with
  | updateSessionElement item bundleName abilityName =>
      by_cases hx : x = item
      · subst hx
        simp [ManagerOp.step, UsersManager.withItem]
      · simp [ManagerOp.step, UsersManager.withItem, hx]
  | handleUserSwitched userId => rfl
  | _ => simp [ManagerOp.step]

/-- No step gives a session another id. -/
theorem distinctIds_step (op : ManagerOp) {m : UsersManager} (hinj : DistinctIds m.items) :
    DistinctIds (op.step m).items := by
  unfold DistinctIds at *
  simpa only [sessionId_step] using hinj

/-- The partition holds in every state of a run from the initial state exactly if every call of the
run meets its condition. -/
theorem partition_always_iff (items : Items) (userId : UserId) (hinj : DistinctIds items)
    (ops : List ManagerOp) :
    Always (fun m op => ManagerOp.step m op) Partition (UsersManager.init items userId) ops ↔
      Meets (fun m op => ManagerOp.step m op) (fun m op => op.Keeps m)
        (UsersManager.init items userId) ops :=
  always_iff_meets_of_inv (I := fun m => DistinctIds m.items)
    (fun _ op hinj => distinctIds_step op hinj)
    (fun _ op hinj h => partition_step_iff op hinj h) ops hinj (Partition.empty items userId)

/-- Sessions of one process of user `userId`, with ids that differ in their length. -/
def numberedItems (userId : UserId) : Items := fun x =>
  { sessionId := String.ofList (List.replicate x 'a')
    sessionType := .audio
    bundleName := "bundle"
    abilityName := "a"
    pid := 1
    uid := userId * 200000
    userId := userId
    isTop := false
    isDestroyed := false
    hasCastProxy := false
    controllers := ∅ }

/-- Sessions that are numbered have different ids. -/
theorem distinctIds_numberedItems (userId : UserId) : DistinctIds (numberedItems userId) := by
  intro x y h
  have hlist : List.replicate x 'a' = List.replicate y 'a' := String.ofList_injective h
  simpa using congrArg List.length hlist

/-- A session of the current user is added, and its ability changes twice. -/
theorem partition_kept_by_updates :
    Always (fun m op => ManagerOp.step m op) Partition
      (UsersManager.init (numberedItems 100) 100)
      [.addSessionForCurrentUser 1 "a" 0 100, .updateSessionForCurrentUser 1 "a" "b" 0] := by
  refine (partition_always_iff (numberedItems 100) 100 (distinctIds_numberedItems 100) _).mpr ?_
  refine ⟨Or.inr ⟨by decide, ?_, by decide⟩, ?_, trivial⟩
  · simp [UsersManager.Registered, UsersManager.init, SessionStack.empty]
  · intro r hr
    have hzero : r = 0 := by
      have h0 : (ManagerOp.step (UsersManager.init (numberedItems 100) 100)
          (.addSessionForCurrentUser 1 "a" 0 100)).stackForAll.sessions[
            (⟨1, "a"⟩ : SessionKey)]? = some 0 := by decide
      rw [h0, Option.some.injEq] at hr
      exact hr.symm
    exact ⟨Or.inr (by decide), Or.inl hzero.symm, by decide⟩

/-- A session of user 101 is updated while user 100 is the current one: it ends up in the container
of user 100. -/
theorem partition_breaks_on_update_for_other_user :
    ¬ Always (fun m op => ManagerOp.step m op) Partition
      (UsersManager.init (numberedItems 101) 100)
      [.addSessionForCurrentUser 1 "a" 0 101, .updateSessionForCurrentUser 1 "a" "b" 0] := by
  intro h
  have howner := h.last.owner 100 ⟨1, "b"⟩ 0 (by decide)
  exact absurd howner (by decide)

end runs

end AvSession.Registry
