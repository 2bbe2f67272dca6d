import AvSession.Registry.Partition

/-!
# Failed updates of the registry

What is left of an addition or a move that returns an error.

* `SameRegistry` — nothing has changed: neither the containers nor the user of any session.
* `AtomicResult` — a result that leaves the registry the same unless its code is success.
* An addition and an update for the current user are always atomic (`add_atomic`,
  `updateForCurrentUser_atomic`): the container of all users is tried first, and once it has room
  the container of a user has room too.
* A change of the user writes before it tries; `userChange_registered_atomic_iff` and
  `userChange_not_registered_atomic_iff` say when it is atomic all the same.
-/

namespace AvSession.Registry

open Std AvSession.Lib AvSession.Lib.OrderedMap

/-- The containers and the users of the sessions are the same. -/
structure SameRegistry (m m' : UsersManager) : Prop where
  all : m'.stackForAll = m.stackForAll
  user : ∀ u, m'.stackByUser u = m.stackByUser u
  owner : ∀ x, (m'.items x).userId = (m.items x).userId

/-- A table has its own registry. -/
theorem SameRegistry.refl (m : UsersManager) : SameRegistry m m := ⟨rfl, fun _ => rfl, fun _ => rfl⟩

/-- A result, from the state `m`, that changes nothing if its code is not success. -/
def AtomicResult (m : UsersManager) (r : UsersManager × RetCode) : Prop :=
  r.2 ≠ .success → SameRegistry m r.1

/-- A success may change anything. -/
theorem AtomicResult.success (m m' : UsersManager) : AtomicResult m (m', .success) :=
  fun hne => absurd rfl hne

/-- No change is atomic whatever is returned. -/
theorem AtomicResult.unchanged (m : UsersManager) (ret : RetCode) : AtomicResult m (m, ret) :=
  fun _ => SameRegistry.refl m

/-- A refusal leaves the registry. -/
theorem AtomicResult.same {m m' : UsersManager} (h : AtomicResult m (m', .errSessionExceedMax)) :
    SameRegistry m m' := h (by simp)

/-- A call of one of the three operations that return a code. -/
inductive UpdateCall
  | addSessionForCurrentUser (pid : Pid) (abilityName : String) (item : SessionRef)
      (userId : UserId)
  | updateSessionForCurrentUser (pid : Pid) (oldAbilityName newAbilityName : String)
      (item : SessionRef)
  | updateSessionForUserChange (oldUserId newUserId : UserId) (item : Option SessionRef)

/-- The state and the code that the call returns. -/
def UpdateCall.exec (m : UsersManager) : UpdateCall → UsersManager × RetCode
  | addSessionForCurrentUser pid abilityName item userId =>
      m.addSessionForCurrentUser pid abilityName item userId
  | updateSessionForCurrentUser pid oldAbilityName newAbilityName item =>
      m.updateSessionForCurrentUser pid oldAbilityName newAbilityName item
  | updateSessionForUserChange oldUserId newUserId item =>
      m.updateSessionForUserChange oldUserId newUserId item

/-- The condition on a call. Only a change of the user has one: a registered session leaves the user
it carries, or the new user has room; and for a session that is not registered there is room, or the
new user has none and is the user that the session already carries. -/
def UpdateCall.AtomicWhen (m : UsersManager) : UpdateCall → Prop
  | updateSessionForUserChange oldUserId newUserId (some x) =>
      (m.Registered x → oldUserId = (m.items x).userId ∨
        (m.stackByUser newUserId).sessions.size < SESSION_NUM_MAX) ∧
      (¬ m.Registered x → m.stackForAll.sessions.size < SESSION_NUM_MAX ∨
        ((m.stackByUser newUserId).sessions.size ≥ SESSION_NUM_MAX ∧
          (m.items x).userId = newUserId))
  | _ => True

section atomicity

variable {m : UsersManager} {pid : Pid} {abilityName : String} {x : SessionRef} {u : UserId}
variable {oldUserId newUserId : UserId}

/-- An addition takes place in both containers or in none. -/
theorem add_atomic (h : Partition m) :
    AtomicResult m (m.addSessionForCurrentUser pid abilityName x u) := by
  by_cases hfull : m.stackForAll.sessions.size ≥ SESSION_NUM_MAX
  · rw [UsersManager.addSessionForCurrentUser_of_full hfull]
    exact AtomicResult.unchanged m _
  · have hsize : m.stackForAll.sessions.size < SESSION_NUM_MAX := by omega
    rw [UsersManager.addSessionForCurrentUser_of_not_full hsize (h.room_user hsize _)]
    exact AtomicResult.success m _

/-- The removal makes the room that the addition needs, so only a missing session is an error. -/
theorem updateForCurrentUser_atomic (h : Partition m) (newAbilityName : String) :
    AtomicResult m (m.updateSessionForCurrentUser pid abilityName newAbilityName x) := by
  cases hk : m.stackForAll.sessions[(⟨pid, abilityName⟩ : SessionKey)]? with
  | none =>
      rw [Partition.updateForCurrentUser_of_none hk]
      exact AtomicResult.unchanged m _
  | some r =>
      rw [h.updateForCurrentUser_of_some hk]
      exact AtomicResult.success m _

/-- A session is not in the container of a user that it does not carry, so detaching it from there
leaves the containers of the users as they are. -/
theorem stackByUser_detach_of_other (h : Partition m) (hinj : DistinctIds m.items)
    (hne : oldUserId ≠ (m.items x).userId) (v : UserId) :
    (m.detachForUserChange oldUserId newUserId x).stackByUser v = m.stackByUser v := by
  have hid : m.removeIdFromUser oldUserId (m.items x).sessionId = m := by
    apply UsersManager.removeIdFromUser_of_not_mem
    intro k y hy heq
    have hyx : y = x := hinj heq
    exact hne (hyx ▸ (h.mem_user.mp hy).2.symm)
  unfold UsersManager.detachForUserChange
  rw [hid]
  rfl

/-- The change of a registered session is atomic exactly when the old user is its own or the new one
has room. -/
theorem userChange_registered_atomic_iff (h : Partition m) (hinj : DistinctIds m.items)
    (hx : m.Registered x) :
    AtomicResult m (m.updateSessionForUserChange oldUserId newUserId (some x)) ↔
      oldUserId = (m.items x).userId ∨
        (m.stackByUser newUserId).sessions.size < SESSION_NUM_MAX := by
  have hroom := h.size_detach_lt hinj hx oldUserId newUserId
  have hgone := Partition.not_registered_detach (x := x) hinj oldUserId newUserId
  rw [UsersManager.updateSessionForUserChange_some]
  rcases (m.detachForUserChange oldUserId newUserId x).attachForUserChange_cases newUserId
    (m.items x).pid (m.items x).abilityName x with ⟨huser, hr⟩ | ⟨-, hall, -⟩ | ⟨huser, -, hr⟩
  · -- the session has left the container of all users, and nobody takes it
    rw [hr]
    refine iff_of_false (fun hatomic => ?_) fun hor => ?_
    · have hsame := hatomic.same
      apply hgone
      unfold UsersManager.Registered
      rw [hsame.all]
      exact hx
    · by_cases heq : oldUserId = (m.items x).userId
      · subst heq
        have := (h.detach_of_owner hinj newUserId).room_user hroom newUserId
        omega
      · rw [stackByUser_detach_of_other h hinj heq] at huser
        rcases hor with hor | hor
        · exact heq hor
        · omega
  · omega
  · rw [hr]
    refine iff_of_true (AtomicResult.success m _) ?_
    by_cases heq : oldUserId = (m.items x).userId
    · exact Or.inl heq
    · rw [stackByUser_detach_of_other h hinj heq] at huser
      exact Or.inr huser

/-- The change of an unregistered session is atomic exactly when the common container has room, or
the user's is full too and is its own. -/
theorem userChange_not_registered_atomic_iff (h : Partition m) (hinj : DistinctIds m.items)
    (hx : ¬ m.Registered x) :
    AtomicResult m (m.updateSessionForUserChange oldUserId newUserId (some x)) ↔
      m.stackForAll.sessions.size < SESSION_NUM_MAX ∨
        ((m.stackByUser newUserId).sessions.size ≥ SESSION_NUM_MAX ∧
          (m.items x).userId = newUserId) := by
  have hle := h.size_user_le newUserId
  rw [UsersManager.updateSessionForUserChange_some, h.detach_of_not_registered hinj hx]
  rcases (m.setUserId x newUserId).attachForUserChange_cases newUserId (m.items x).pid
    (m.items x).abilityName x with ⟨huser, hr⟩ | ⟨huser, hall, hr⟩ | ⟨huser, hall, hr⟩
  · -- only the user of the session may have changed
    rw [UsersManager.setUserId_stackByUser] at huser
    rw [hr]
    have hall : ¬ m.stackForAll.sessions.size < SESSION_NUM_MAX := by omega
    rw [or_iff_right hall, and_iff_right huser]
    refine ⟨fun hatomic => ?_, fun howner _ => ⟨rfl, fun _ => rfl, fun y => ?_⟩⟩
    · have hsame := hatomic.same
      rw [← hsame.owner x]
      exact congrArg AVSessionItem.userId (UsersManager.setUserId_items_self m newUserId x)
    · by_cases hy : y = x
      · rw [hy, UsersManager.setUserId_items_self]
        exact howner.symm
      · rw [UsersManager.setUserId_items_of_ne _ _ _ hy]
  · -- the new user has taken the session, the container of all users has not
    rw [UsersManager.setUserId_stackByUser] at huser
    rw [UsersManager.setUserId_stackForAll] at hall
    rw [hr]
    refine iff_of_false (fun hatomic => ?_) (by omega)
    have hsame := hatomic.same.user newUserId
    rw [UsersManager.withUser_stackByUser_self] at hsame
    have hlen := congrArg (fun s => s.stack.length) hsame
    simp [SessionStack.push] at hlen
  · rw [UsersManager.setUserId_stackForAll] at hall
    rw [hr]
    exact iff_of_true (AtomicResult.success m _) (Or.inl hall)

/-- **Atomicity.** From a state that satisfies the partition invariant, a call that fails changes
nothing exactly under its condition. -/
theorem update_atomic_iff (m : UsersManager) (h : Partition m) (hinj : DistinctIds m.items)
    (c : UpdateCall) : AtomicResult m (c.exec m) ↔ c.AtomicWhen m := by
  cases c with
  | addSessionForCurrentUser pid abilityName item userId =>
      exact iff_of_true (add_atomic h) trivial
  | updateSessionForCurrentUser pid oldAbilityName newAbilityName item =>
      exact iff_of_true (updateForCurrentUser_atomic h newAbilityName) trivial
  | updateSessionForUserChange oldUserId newUserId item =>
      cases item with
      | none => exact iff_of_true (AtomicResult.unchanged m _) trivial
      | some x =>
          unfold UpdateCall.AtomicWhen UpdateCall.exec
          by_cases hx : m.Registered x
          · refine (userChange_registered_atomic_iff h hinj hx).trans ?_
            simp only [hx, true_imp_iff, not_true_eq_false, false_imp_iff, and_true]
          · refine (userChange_not_registered_atomic_iff h hinj hx).trans ?_
            simp only [hx, false_imp_iff, not_false_eq_true, true_imp_iff, true_and]

end atomicity

/-! ## A full registry -/

section filled

/-- `n` sessions of user 100, each under a pid of its own. -/
def filled : ℕ → UsersManager
  | 0 => UsersManager.init (numberedItems 100) 100
  | n + 1 => ((filled n).addSessionForCurrentUser n "a" n 100).1

/-- The items of the full table below. -/
theorem filled_items (n : ℕ) : (filled n).items = numberedItems 100 := by
  induction n with
  | zero => rfl
  | succ n ih =>
      rw [filled, UsersManager.addSessionForCurrentUser_items, ih]

/-- Up to the capacity every addition is made. -/
theorem filled_spec {n : ℕ} (hn : n ≤ SESSION_NUM_MAX) :
    Partition (filled n) ∧ (filled n).stackForAll.sessions.size = n ∧
      ∀ (k : SessionKey) x, (filled n).stackForAll.sessions[k]? = some x → x < n ∧ k.pid = x := by
  induction n with
  | zero =>
      refine ⟨Partition.empty _ _, rfl, fun k x hk => ?_⟩
      simp [filled, UsersManager.init, SessionStack.empty] at hk
  | succ n ih =>
      obtain ⟨h, hsize, hmem⟩ := ih (by omega)
      have hroom : (filled n).stackForAll.sessions.size < SESSION_NUM_MAX := by omega
      have hkey : (filled n).stackForAll.sessions[(⟨n, "a"⟩ : SessionKey)]? = none := by
        rw [Option.eq_none_iff_forall_ne_some]
        intro y hy
        obtain ⟨hlt, hpid⟩ := hmem _ y hy
        exact hlt.ne' (Int.ofNat_inj.mp hpid)
      have hnew : ¬ (filled n).Registered n := by
        intro hreg
        obtain ⟨k, hk⟩ := hreg
        exact lt_irrefl _ (hmem k n hk).1
      have hstep : filled (n + 1) = (filled n).pushBoth 100 ⟨n, "a"⟩ n := by
        rw [filled, UsersManager.addSessionForCurrentUser_of_not_full hroom (h.room_user hroom _)]
        rfl
      rw [hstep]
      refine ⟨(h.push_iff hroom).mpr ⟨hkey, hnew, by rw [filled_items]; rfl⟩, ?_, fun k x hk => ?_⟩
      · show ((filled n).stackForAll.sessions.insertIfNew ⟨n, "a"⟩ n).size = n + 1
        rw [size_insertIfNew_of_none n hkey, hsize]
      · rcases (push_eq_some_iff hkey).mp hk with ⟨rfl, rfl⟩ | hk
        · exact ⟨Nat.lt_succ_self n, rfl⟩
        · obtain ⟨hlt, hpid⟩ := hmem k x hk
          exact ⟨Nat.lt_succ_of_lt hlt, hpid⟩

/-- An addition to a full registry is refused and changes nothing. -/
theorem update_atomic_when_full : AtomicResult (filled 50)
    ((UpdateCall.addSessionForCurrentUser 60 "a" 60 100).exec (filled 50)) := by
  refine (update_atomic_iff (filled 50) (filled_spec le_rfl).1 ?_ _).mpr trivial
  rw [filled_items]
  exact distinctIds_numberedItems 100

/-- Session 50 is not registered, and the registry is full. Moving it from user 100 to user 101
returns an error, but leaves it in the container of user 101. -/
theorem userChange_not_atomic_when_full : Partition (filled 50) ∧ DistinctIds (filled 50).items ∧
    ¬ AtomicResult (filled 50)
      ((UpdateCall.updateSessionForUserChange 100 101 (some 50)).exec (filled 50)) := by
  obtain ⟨h, hsize, hmem⟩ := filled_spec (n := 50) le_rfl
  have hinj : DistinctIds (filled 50).items := by
    rw [filled_items]
    exact distinctIds_numberedItems 100
  have hx : ¬ (filled 50).Registered 50 := by
    intro hreg
    obtain ⟨k, hk⟩ := hreg
    exact absurd (hmem k 50 hk).1 (by decide)
  refine ⟨h, hinj, ?_⟩
  show ¬ AtomicResult (filled 50) ((filled 50).updateSessionForUserChange 100 101 (some 50))
  rw [userChange_not_registered_atomic_iff h hinj hx, filled_items, hsize]
  rintro (hroom | ⟨-, howner⟩)
  · exact absurd hroom (by decide)
  · exact absurd howner (by decide)

end filled

end AvSession.Registry
