import Mathlib.Data.List.Perm.Basic
import Mathlib.Logic.Function.Basic
import AvSession.Lib.Run

/-!
# The media card and the delayed stop

When the media card of a user disappears, a task is posted that removes the capsule later, and a
flag of the user says that the task is pending.

* `CardState` — the users, the flags and the pending tasks.
* `handleMediaCardStateChangeEvent`, `clearMediaCardStateByUser`, `runTask` — what changes them.
* `Mirrors` — the flag of every user says whether a task for the user is pending.
* `flagMirrors_iff` — the runs along which it does.

The flag is kept under the user that the argument stands for, the task under the argument itself,
and the argument is looked up again when the task runs.
-/

namespace AvSession.Service.MediaCard

open AvSession.Lib

/-! ## Data -/

section Data

/-- A pending task `CheckCardStateChangeStop` with the captured argument, which is also in its name,
and the user it was scheduled for. -/
structure CardTask where
  userId : ℤ
  scheduledFor : ℤ
deriving DecidableEq

/-- The maps are their lookups, where an absent key is `false`. The log holds the tasks that removed
a capsule, each with the user whose capsule it removed.
Source: avsession_service.h, `AVSessionService` -/
structure CardState where
  aliveUsers : List ℤ
  curUserId : ℤ
  isMediaCardOpenByUser : ℤ → Bool
  hasCardStateChangeStopTaskByUser : ℤ → Bool
  /-- The top session of the user plays. -/
  topPlaying : ℤ → Bool
  hasRemoveEvent : Bool
  tasks : List CardTask
  capsulesRemoved : List (CardTask × ℤ)

/-- Source: avsession_users_manager.cpp, `AVSessionUsersManager::Init` -/
def CardState.init (userId : ℤ) : CardState where
  aliveUsers := [userId]
  curUserId := userId
  isMediaCardOpenByUser := fun _ => false
  hasCardStateChangeStopTaskByUser := fun _ => false
  topPlaying := fun _ => false
  hasRemoveEvent := false
  tasks := []
  capsulesRemoved := []

end Data

/-! ## Functions -/

namespace CardState

variable (s : CardState) (userId : ℤ)

/-- Source: avsession_service.cpp, `AVSessionService::GetTargetUserId` -/
def getTargetUserId : ℤ := if userId ∈ s.aliveUsers then userId else s.curUserId

/-- Source: avsession_service.cpp, `AVSessionService::IsTopSessionPlaying` -/
def isTopSessionPlaying : Bool := s.topPlaying (s.getTargetUserId userId)

/-- Source: avsession_service.cpp, `AVSessionService::IsMediaCardOpen` -/
def isMediaCardOpen : Bool := s.isMediaCardOpenByUser (s.getTargetUserId userId)

/-- Source: avsession_service.cpp, `AVSessionService::SetMediaCardOpen` -/
def setMediaCardOpen (isOpen : Bool) : CardState :=
  { s with
    isMediaCardOpenByUser :=
      Function.update s.isMediaCardOpenByUser (s.getTargetUserId userId) isOpen }

/-- Source: avsession_service.cpp, `AVSessionService::HasCardStateChangeStopTask` -/
def hasCardStateChangeStopTask : Bool :=
  s.hasCardStateChangeStopTaskByUser (s.getTargetUserId userId)

/-- Source: avsession_service.cpp, `AVSessionService::SetCardStateChangeStopTask` -/
def setCardStateChangeStopTask (hasTask : Bool) : CardState :=
  { s with
    hasCardStateChangeStopTaskByUser :=
      Function.update s.hasCardStateChangeStopTaskByUser (s.getTargetUserId userId) hasTask }

/-- The pending tasks with the argument in their name are removed.
Source: avsession_event_handler.cpp, `AVSessionEventHandler::AVSessionRemoveTask` -/
def avSessionRemoveTask : CardState := { s with tasks := s.tasks.filter (·.userId ≠ userId) }

/-- Source: avsession_service.cpp, `AVSessionService::ClearMediaCardStateByUser` -/
def clearMediaCardStateByUser : CardState :=
  { s.avSessionRemoveTask userId with
    isMediaCardOpenByUser := Function.update s.isMediaCardOpenByUser userId false
    hasCardStateChangeStopTaskByUser :=
      Function.update s.hasCardStateChangeStopTaskByUser userId false }

/-- Source: avsession_service.cpp, `AVSessionService::HandleMediaCardStateChangeEvent` -/
def handleMediaCardStateChangeEvent (isAppear : String) : CardState :=
  if isAppear = "APPEAR" then
    ((s.setMediaCardOpen userId true).avSessionRemoveTask userId).setCardStateChangeStopTask
      userId false
  else if isAppear = "DISAPPEAR" then
    let s := s.setMediaCardOpen userId false
    if s.isTopSessionPlaying userId || s.hasRemoveEvent then s
    else
      let s := s.setCardStateChangeStopTask userId true
      { s with tasks := s.tasks ++ [⟨userId, s.getTargetUserId userId⟩] }
  else s

/-- The conditions under which the task does nothing. -/
def blocked : Bool :=
  s.isTopSessionPlaying userId || s.hasRemoveEvent || s.isMediaCardOpen userId

/-- The posted task; `NotifySystemUI` removes the capsule of the user the argument stands for.
Source: avsession_service.cpp, `AVSessionService::HandleMediaCardStateChangeEvent` -/
def runTask (t : CardTask) : CardState :=
  if s.blocked t.userId then s
  else
    { s with
      capsulesRemoved := s.capsulesRemoved ++ [(t, s.getTargetUserId t.userId)]
    }.setCardStateChangeStopTask t.userId false

/-- Source: avsession_service.cpp, `AVSessionService::HandleUserEvent`;
avsession_users_manager.cpp, `AVSessionUsersManager::Init`, the listener -/
def handleUserSwitched : CardState :=
  let s := if userId ≠ s.curUserId then s.clearMediaCardStateByUser s.curUserId else s
  { s with
    curUserId := userId
    aliveUsers := if userId ∈ s.aliveUsers then s.aliveUsers else s.aliveUsers ++ [userId] }

/-- Source: avsession_service.cpp, `AVSessionService::HandleUserEvent`;
avsession_users_manager.cpp, `AVSessionUsersManager::HandleUserRemoved` -/
def handleUserRemoved : CardState :=
  let s := s.clearMediaCardStateByUser userId
  { s with aliveUsers := s.aliveUsers.filter (· ≠ userId) }

end CardState

/-- An event, a change of what the functions read, or the firing of a pending task. -/
inductive Action
  | cardEvent (isAppear : String) (userId : ℤ)
  | userSwitched (userId : ℤ)
  | userRemoved (userId : ℤ)
  | setPlaying (userId : ℤ) (playing : Bool)
  | setRemoveEvent (hasRemoveEvent : Bool)
  | fire (n : ℕ)

def step (s : CardState) : Action → CardState
  | .cardEvent isAppear userId => s.handleMediaCardStateChangeEvent userId isAppear
  | .userSwitched userId => s.handleUserSwitched userId
  | .userRemoved userId => s.handleUserRemoved userId
  | .setPlaying userId playing =>
    { s with topPlaying := Function.update s.topPlaying userId playing }
  | .setRemoveEvent hasRemoveEvent => { s with hasRemoveEvent := hasRemoveEvent }
  | .fire n =>
    match s.tasks[n]? with
    | none => s
    | some t => { s with tasks := s.tasks.eraseIdx n }.runTask t

/-! ## Flags and tasks -/

section Mirrors

variable {s : CardState}

/-- The flag of every user says whether a task that was scheduled for the user is pending, and
tasks removed only the capsules of the users they were scheduled for. -/
structure Mirrors (s : CardState) : Prop where
  flag_iff : ∀ userId, s.hasCardStateChangeStopTask userId = true ↔
    ∃ t ∈ s.tasks, t.scheduledFor = s.getTargetUserId userId
  own : ∀ p ∈ s.capsulesRemoved, p.2 = p.1.scheduledFor

/-- The users that an argument can stand for. -/
def Watched (s : CardState) (v : ℤ) : Prop := v ∈ s.aliveUsers ∨ v = s.curUserId

/-- The user a call is for is watched. -/
theorem watched_getTargetUserId (s : CardState) (userId : ℤ) :
    Watched s (s.getTargetUserId userId) := by
  rw [CardState.getTargetUserId]
  split
  · left
    assumption
  · right
    rfl

/-- A watched user is its own target. -/
theorem getTargetUserId_of_watched {v : ℤ} (h : Watched s v) : s.getTargetUserId v = v := by
  rw [CardState.getTargetUserId]
  split
  · rfl
  · rcases h with h | h
    · contradiction
    · exact h.symm

/-- The flags of these users say whether a task for the user is pending. -/
def FlagsFit (W : ℤ → Prop) (flag : ℤ → Bool) (tasks : List CardTask) : Prop :=
  ∀ v, W v → (flag v = true ↔ ∃ t ∈ tasks, t.scheduledFor = v)

/-- The mirror is the fit of the flags and the users of the capsules removed. -/
theorem mirrors_iff_flagsFit : Mirrors s ↔
    FlagsFit (Watched s) s.hasCardStateChangeStopTaskByUser s.tasks ∧
      ∀ p ∈ s.capsulesRemoved, p.2 = p.1.scheduledFor := by
  constructor
  · rintro ⟨hflag, hown⟩
    refine ⟨?_, hown⟩
    intro v hv
    have h := hflag v
    rw [CardState.hasCardStateChangeStopTask, getTargetUserId_of_watched hv] at h
    exact h
  · rintro ⟨hfit, hown⟩
    refine ⟨?_, hown⟩
    intro userId
    exact hfit _ (watched_getTargetUserId s userId)

variable {W W' : ℤ → Prop} {flag : ℤ → Bool} {tasks : List CardTask}

/-- The fit depends on who is watched only. -/
theorem flagsFit_congr (h : ∀ v, W v ↔ W' v) : FlagsFit W flag tasks ↔ FlagsFit W' flag tasks := by
  simp only [FlagsFit, h]

/-- One user more. -/
theorem flagsFit_or_iff (u : ℤ) : FlagsFit (fun v => W v ∨ v = u) flag tasks ↔
    FlagsFit W flag tasks ∧ (¬ W u → (flag u = true ↔ ∃ t ∈ tasks, t.scheduledFor = u)) := by
  constructor
  · intro h
    exact ⟨fun v hv => h v (Or.inl hv), fun _ => h u (Or.inr rfl)⟩
  · rintro ⟨hW, hu⟩ v (hv | rfl)
    · exact hW v hv
    · by_cases hv : W v
      · exact hW v hv
      · exact hu hv

/-- Removing the tasks with `r` in their name takes away all tasks of the user `v₀`, and all tasks
of no other user. -/
structure Cleared (W : ℤ → Prop) (tasks : List CardTask) (r v₀ : ℤ) : Prop where
  named : W v₀ → ∀ t ∈ tasks, t.scheduledFor = v₀ → t.userId = r
  others : ∀ t ∈ tasks, W t.scheduledFor → t.scheduledFor ≠ v₀ →
    ∃ t' ∈ tasks, t'.scheduledFor = t.scheduledFor ∧ t'.userId ≠ r

/-- **Removal.** The flag of `v₀` goes down with the tasks of one name. -/
theorem flagsFit_remove_iff (h : FlagsFit W flag tasks) (hW : ∀ v, W' v → W v) (r v₀ : ℤ) :
    FlagsFit W' (Function.update flag v₀ false) (tasks.filter (·.userId ≠ r)) ↔
      Cleared W' tasks r v₀ := by
  constructor
  · intro hfit
    constructor
    · intro hv t ht hfor
      by_contra hname
      have hflag := (hfit v₀ hv).mpr ⟨t, by simp [ht, hname], hfor⟩
      simp at hflag
    · intro t ht hv hne
      have hflag := (h _ (hW _ hv)).mpr ⟨t, ht, rfl⟩
      have hrest := hfit _ hv
      rw [Function.update_of_ne hne] at hrest
      obtain ⟨t', ht', hfor⟩ := hrest.mp hflag
      rw [List.mem_filter, decide_eq_true_iff] at ht'
      exact ⟨t', ht'.1, hfor, ht'.2⟩
  · rintro ⟨hnamed, hothers⟩ v hv
    by_cases hne : v = v₀
    · subst hne
      have hnone : ¬ ∃ t ∈ tasks.filter (·.userId ≠ r), t.scheduledFor = v := by
        rintro ⟨t, ht, hfor⟩
        rw [List.mem_filter, decide_eq_true_iff] at ht
        exact ht.2 (hnamed hv t ht.1 hfor)
      simp only [Function.update_self, Bool.false_eq_true, hnone]
    · rw [Function.update_of_ne hne, h v (hW v hv)]
      constructor
      · rintro ⟨t, ht, rfl⟩
        obtain ⟨t', ht', hfor, hname⟩ := hothers t ht hv hne
        exact ⟨t', by simp [ht', hname], hfor⟩
      · rintro ⟨t, ht, hfor⟩
        exact ⟨t, List.mem_of_mem_filter ht, hfor⟩

/-- **Posting.** The flag of `v₀` goes up with a task for the user. -/
theorem flagsFit_post (h : FlagsFit W flag tasks) (r v₀ : ℤ) :
    FlagsFit W (Function.update flag v₀ true) (tasks ++ [⟨r, v₀⟩]) := by
  intro v hv
  by_cases hne : v = v₀
  · subst hne
    rw [Function.update_self]
    simp
  · have hlast : ¬ v₀ = v := fun heq => hne heq.symm
    rw [Function.update_of_ne hne, h v hv]
    simp [hlast]

variable {n : ℕ} {t : CardTask}

/-- A pending task is the one that fires or one of the others. -/
theorem exists_task_iff (ht : tasks[n]? = some t) (p : CardTask → Prop) :
    (∃ t' ∈ tasks, p t') ↔ p t ∨ ∃ t' ∈ tasks.eraseIdx n, p t' := by
  obtain ⟨hn, hget⟩ := List.getElem?_eq_some_iff.mp ht
  have hperm := List.getElem_cons_eraseIdx_perm hn
  rw [hget] at hperm
  have hmem : ∀ t', t' ∈ tasks ↔ t' = t ∨ t' ∈ tasks.eraseIdx n := by
    intro t'
    rw [← hperm.mem_iff, List.mem_cons]
  simp only [hmem, or_and_right, exists_or, exists_eq_left]

/-- **A firing that does nothing.** The flags stay as they are. -/
theorem flagsFit_blocked_iff (h : FlagsFit W flag tasks) (ht : tasks[n]? = some t) :
    FlagsFit W flag (tasks.eraseIdx n) ↔
      (W t.scheduledFor → ∃ t' ∈ tasks.eraseIdx n, t'.scheduledFor = t.scheduledFor) := by
  have hsplit := fun v => exists_task_iff ht (·.scheduledFor = v)
  constructor
  · intro hfit hv
    have hflag := (h _ hv).mpr ((hsplit _).mpr (Or.inl rfl))
    exact (hfit _ hv).mp hflag
  · intro hother v hv
    rw [h v hv, hsplit]
    constructor
    · rintro (rfl | hrest)
      · exact hother hv
      · exact hrest
    · exact Or.inr

/-- **A firing that takes the flag down**, of a user the task was scheduled for. -/
theorem flagsFit_fired_iff (h : FlagsFit W flag tasks) (ht : tasks[n]? = some t)
    (hv : W t.scheduledFor) :
    FlagsFit W (Function.update flag t.scheduledFor false) (tasks.eraseIdx n) ↔
      ∀ t' ∈ tasks.eraseIdx n, t'.scheduledFor ≠ t.scheduledFor := by
  constructor
  · intro hfit t' ht' hfor
    have hflag := (hfit _ hv).mpr ⟨t', ht', hfor⟩
    simp at hflag
  · intro hother v hvW
    by_cases hne : v = t.scheduledFor
    · subst hne
      have hnone : ¬ ∃ t' ∈ tasks.eraseIdx n, t'.scheduledFor = t.scheduledFor := by
        rintro ⟨t', ht', hfor⟩
        exact hother t' ht' hfor
      simp only [Function.update_self, Bool.false_eq_true, hnone]
    · have hself : ¬ t.scheduledFor = v := fun heq => hne heq.symm
      rw [Function.update_of_ne hne, h v hvW, exists_task_iff ht]
      simp [hself]

end Mirrors

/-! ## The runs that keep the flags -/

section Runs

/-- The flags still mirror the tasks behind the step. -/
def Ok (s : CardState) : Action → Prop
  | .cardEvent isAppear userId =>
    isAppear = "APPEAR" → Cleared (Watched s) s.tasks userId (s.getTargetUserId userId)
  | .userSwitched userId =>
    userId ≠ s.curUserId →
      Cleared (· ∈ s.aliveUsers) s.tasks s.curUserId s.curUserId ∧
        (userId ∉ s.aliveUsers →
          (s.hasCardStateChangeStopTaskByUser userId = true ↔
            ∃ t ∈ s.tasks, t.scheduledFor = userId ∧ t.userId ≠ s.curUserId))
  | .userRemoved userId =>
    Cleared (fun v => (v ∈ s.aliveUsers ∧ v ≠ userId) ∨ v = s.curUserId) s.tasks userId userId
  | .setPlaying .. => True
  | .setRemoveEvent _ => True
  | .fire n => ∀ t, s.tasks[n]? = some t →
    if s.blocked t.userId then
      Watched s t.scheduledFor → ∃ t' ∈ s.tasks.eraseIdx n, t'.scheduledFor = t.scheduledFor
    else
      s.getTargetUserId t.userId = t.scheduledFor ∧
        ∀ t' ∈ s.tasks.eraseIdx n, t'.scheduledFor ≠ t.scheduledFor

variable {s : CardState}

/-- A card's event keeps the mirror exactly when it is in order. -/
theorem mirrors_cardEvent_iff (hs : Mirrors s) (isAppear : String) (userId : ℤ) :
    Mirrors (s.handleMediaCardStateChangeEvent userId isAppear) ↔
      Ok s (.cardEvent isAppear userId) := by
  have hfit := (mirrors_iff_flagsFit.mp hs).1
  by_cases happear : isAppear = "APPEAR"
  · rw [mirrors_iff_flagsFit]
    simp only [Ok, CardState.handleMediaCardStateChangeEvent, happear, if_true, forall_const]
    rw [← flagsFit_remove_iff hfit (fun _ hv => hv)]
    exact and_iff_left hs.own
  · simp only [Ok, happear, false_imp_iff, iff_true]
    by_cases hdisappear : isAppear = "DISAPPEAR"
    · rw [mirrors_iff_flagsFit]
      simp only [CardState.handleMediaCardStateChangeEvent, hdisappear, String.reduceEq, if_false,
        if_true]
      split
      · exact ⟨hfit, hs.own⟩
      · exact ⟨flagsFit_post hfit userId (s.getTargetUserId userId), hs.own⟩
    · simp only [CardState.handleMediaCardStateChangeEvent, happear, hdisappear, if_false]
      exact hs

/-- A user switch keeps the mirror exactly when it is in order. -/
theorem mirrors_userSwitched_iff (hs : Mirrors s) (userId : ℤ) :
    Mirrors (s.handleUserSwitched userId) ↔ Ok s (.userSwitched userId) := by
  have hfit := (mirrors_iff_flagsFit.mp hs).1
  rw [mirrors_iff_flagsFit]
  by_cases hcur : userId = s.curUserId
  · subst hcur
    have hwatched : ∀ v, Watched (s.handleUserSwitched s.curUserId) v ↔ Watched s v := by
      intro v
      simp only [Watched, CardState.handleUserSwitched, ne_eq, not_true_eq_false, if_false]
      split
      · rfl
      · simp
    have hsame : FlagsFit (Watched (s.handleUserSwitched s.curUserId))
        s.hasCardStateChangeStopTaskByUser s.tasks :=
      (flagsFit_congr hwatched).mpr hfit
    simp only [Ok, ne_eq, not_true_eq_false, false_imp_iff, iff_true]
    simp only [CardState.handleUserSwitched, ne_eq, not_true_eq_false, if_false] at hsame ⊢
    exact ⟨hsame, hs.own⟩
  · have hwatched : ∀ v, Watched (s.handleUserSwitched userId) v ↔
        v ∈ s.aliveUsers ∨ v = userId := by
      intro v
      simp only [Watched, CardState.handleUserSwitched, ne_eq, hcur, not_false_eq_true, if_true]
      split
      · rfl
      · simp
        tauto
    have hown : ∀ p ∈ (s.handleUserSwitched userId).capsulesRemoved, p.2 = p.1.scheduledFor := by
      simp only [CardState.handleUserSwitched, ne_eq, hcur, not_false_eq_true, if_true]
      exact hs.own
    rw [and_iff_left hown, flagsFit_congr hwatched]
    simp only [CardState.handleUserSwitched, ne_eq, hcur, not_false_eq_true, if_true,
      CardState.clearMediaCardStateByUser, CardState.avSessionRemoveTask]
    rw [flagsFit_or_iff, flagsFit_remove_iff hfit (fun _ hv => Or.inl hv),
      Function.update_of_ne hcur]
    simp only [Ok, ne_eq, hcur, not_false_eq_true, forall_const, List.mem_filter,
      decide_eq_true_iff, and_assoc, and_comm]

/-- A user's removal keeps the mirror exactly when it is in order. -/
theorem mirrors_userRemoved_iff (hs : Mirrors s) (userId : ℤ) :
    Mirrors (s.handleUserRemoved userId) ↔ Ok s (.userRemoved userId) := by
  have hfit := (mirrors_iff_flagsFit.mp hs).1
  have hwatched : ∀ v, Watched (s.handleUserRemoved userId) v ↔
      (v ∈ s.aliveUsers ∧ v ≠ userId) ∨ v = s.curUserId := by
    intro v
    simp [Watched, CardState.handleUserRemoved, CardState.clearMediaCardStateByUser,
      CardState.avSessionRemoveTask]
  rw [mirrors_iff_flagsFit, flagsFit_congr hwatched, Ok, ← flagsFit_remove_iff hfit]
  · exact and_iff_left hs.own
  · rintro v (hv | hv)
    · exact Or.inl hv.1
    · exact Or.inr hv

/-- A task that fires keeps the mirror exactly when it is in order. -/
theorem mirrors_fire_iff (hs : Mirrors s) (n : ℕ) :
    Mirrors (step s (.fire n)) ↔ Ok s (.fire n) := by
  have hfit := (mirrors_iff_flagsFit.mp hs).1
  rcases ht : s.tasks[n]? with _ | t
  · simp only [step, Ok, ht]
    simpa using hs
  · simp only [step, Ok, ht, Option.some.injEq, forall_eq']
    by_cases hblocked : s.blocked t.userId = true
    · have hrun : { s with tasks := s.tasks.eraseIdx n }.runTask t =
          { s with tasks := s.tasks.eraseIdx n } := if_pos hblocked
      rw [hrun, if_pos hblocked, mirrors_iff_flagsFit, ← flagsFit_blocked_iff hfit ht]
      exact and_iff_left hs.own
    · have hrun : { s with tasks := s.tasks.eraseIdx n }.runTask t =
          { s with
            tasks := s.tasks.eraseIdx n
            capsulesRemoved := s.capsulesRemoved ++ [(t, s.getTargetUserId t.userId)]
            hasCardStateChangeStopTaskByUser := Function.update s.hasCardStateChangeStopTaskByUser
              (s.getTargetUserId t.userId) false } := if_neg hblocked
      rw [hrun, if_neg hblocked, mirrors_iff_flagsFit]
      constructor
      · rintro ⟨hfit', hown⟩
        have htarget : s.getTargetUserId t.userId = t.scheduledFor :=
          hown (t, s.getTargetUserId t.userId) (by simp)
        refine ⟨htarget, ?_⟩
        have hwatched := watched_getTargetUserId s t.userId
        rw [htarget] at hwatched
        rw [← flagsFit_fired_iff hfit ht hwatched]
        rw [htarget] at hfit'
        exact hfit'
      · rintro ⟨htarget, hother⟩
        have hwatched := watched_getTargetUserId s t.userId
        rw [htarget] at hwatched
        constructor
        · rw [htarget]
          exact (flagsFit_fired_iff hfit ht hwatched).mpr hother
        · intro p hp
          rcases List.mem_append.mp hp with hp | hp
          · exact hs.own p hp
          · rw [List.mem_singleton.mp hp]
            exact htarget

/-- **One step.** -/
theorem mirrors_step_iff (s : CardState) (a : Action) (hs : Mirrors s) :
    Mirrors (step s a) ↔ Ok s a := by
  rcases a with ⟨isAppear, userId⟩ | userId | userId | ⟨userId, playing⟩ | hasRemoveEvent | n
  · exact mirrors_cardEvent_iff hs isAppear userId
  · exact mirrors_userSwitched_iff hs userId
  · exact mirrors_userRemoved_iff hs userId
  · exact iff_of_true ⟨hs.flag_iff, hs.own⟩ trivial
  · exact iff_of_true ⟨hs.flag_iff, hs.own⟩ trivial
  · exact mirrors_fire_iff hs n

/-- At the start flags and tasks fit. -/
theorem mirrors_init (userId : ℤ) : Mirrors (.init userId) := by
  constructor
  · intro u
    simp [CardState.hasCardStateChangeStopTask, CardState.init]
  · simp [CardState.init]

/-- From the start of the service the flags mirror the tasks in every state of a run exactly when
each of its steps meets the condition. -/
theorem flagMirrors_iff (userId : ℤ) (as : List Action) :
    Always step Mirrors (.init userId) as ↔ Meets step Ok (.init userId) as :=
  always_iff_meets mirrors_step_iff as (mirrors_init userId)

/-- The task fires while the top session plays again: the flag stays up without a task. -/
theorem flag_without_task : ¬ ∀ as, Always step Mirrors (.init 100) as := by
  intro h
  have hlast := (h [.cardEvent "DISAPPEAR" 100, .setPlaying 100 true, .fire 0]).last
  have hflag := hlast.flag_iff 100
  revert hflag
  decide

end Runs

end AvSession.Service.MediaCard
