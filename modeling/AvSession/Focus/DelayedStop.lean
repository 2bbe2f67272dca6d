import AvSession.Focus.Transitions

/-!
# The stop that is delayed

A process that stops playing is stopped by a task, `cancelTimeout` later. The task is removed when
the process starts again, by a name that has the pid of the process only.

* `Tracked` — the strategy together with the processes that are still to be stopped: they were
  running, they are not running now, and the callback has not been invoked for them since.
* `pendingTasks_event` — what an event leaves of the tasks.
* `Timely` — every process that is still to be stopped has a task that will stop it, and no task
  stops a process that is running.
* `timely_iff` — the runs along which the strategy is timely.
-/

namespace AvSession.Focus

open Std AvSession.Lib AvSession.Lib.OrderedMap FocusSessionStrategy

variable {s : FocusSessionStrategy} {k : FocusKey} {infos : List AudioRendererChangeInfo}
  {v : Visit} {l : List (FocusKey × FocusState)}

/-! ## The tasks -/

section tasks

/-- An event finds a process that starts. -/
def Starts (s : FocusSessionStrategy) (infos : List AudioRendererChangeInfo) (k : FocusKey) :
    Prop := ¬ s.Running k ∧ RunsAfter s infos k

/-- An event finds a process that stops. -/
def Stops (s : FocusSessionStrategy) (infos : List AudioRendererChangeInfo) (k : FocusKey) :
    Prop := s.Running k ∧ ¬ RunsAfter s infos k

/-- One entry removes the tasks with the pid of a process that starts. -/
theorem pendingTasks_visitKey (v : Visit) (e : FocusKey × FocusState) :
    (visitKey v e.1 e.2).strategy.pendingTasks =
      if startsAt v.strategy e then v.strategy.pendingTasks.filter (·.pid ≠ e.1.pid)
      else v.strategy.pendingTasks := by
  unfold visitKey startsAt
  by_cases hrun : e.2 = runningState
  · rw [if_pos hrun]
    dsimp only
    unfold isFocusSession
    by_cases hlast : v.strategy.lastStates[e.1]? = some runningState
    · simp [hlast, commit]
    · simp [hrun, hlast, commit, removeTasks]
  · rw [if_neg hrun]
    dsimp only
    split_ifs <;> simp_all [eraseKey, checkFocusSessionStop, commit]

/-- The tasks that the loop leaves are those whose pid no starting process has. -/
theorem mem_pendingTasks_foldl (hcur : ∀ e ∈ l, v.strategy.currentStates[e.1]? = some e.2)
    (hnodup : (l.map Prod.fst).Nodup) :
    k ∈ (l.foldl (fun v e => visitKey v e.1 e.2) v).strategy.pendingTasks ↔
      k ∈ v.strategy.pendingTasks ∧ ∀ e ∈ l, startsAt v.strategy e → k.pid ≠ e.1.pid := by
  induction l using List.reverseRecOn with
  | nil => simp
  | append_singleton l e ih =>
      rw [List.map_append, List.map_singleton, List.nodup_append] at hnodup
      obtain ⟨hl, -, hdisj⟩ := hnodup
      have hcur' : ∀ e ∈ l, v.strategy.currentStates[e.1]? = some e.2 :=
        fun e he => hcur e (List.mem_append_left _ he)
      have hstart : startsAt (l.foldl (fun v e => visitKey v e.1 e.2) v).strategy e =
          startsAt v.strategy e := by
        unfold startsAt
        rw [(visited_foldl hcur' hl).last, if_neg fun hmem => hdisj e.1 hmem e.1 (by simp) rfl]
      rw [List.foldl_append, List.foldl_cons, List.foldl_nil, pendingTasks_visitKey, hstart]
      have hsplit : (∀ e' ∈ l ++ [e], startsAt v.strategy e' → k.pid ≠ e'.1.pid) ↔
          (∀ e' ∈ l, startsAt v.strategy e' → k.pid ≠ e'.1.pid) ∧
            (startsAt v.strategy e → k.pid ≠ e.1.pid) := by
        simp only [List.forall_mem_append, List.forall_mem_singleton]
      rw [hsplit, ← and_assoc, ← ih hcur' hl]
      split_ifs with hs
      · rw [List.mem_filter, decide_eq_true_iff]
        exact and_congr_right fun _ => ⟨fun h _ => h, fun h => h hs⟩
      · exact (and_iff_left fun h => absurd h hs).symm

/-- The loop posts no task. -/
theorem pendingTasks_foldl_sublist (v : Visit) (l : List (FocusKey × FocusState)) :
    (l.foldl (fun v e => visitKey v e.1 e.2) v).strategy.pendingTasks.Sublist
      v.strategy.pendingTasks := by
  induction l generalizing v with
  | nil => exact List.Sublist.refl _
  | cons e l ih =>
      refine (ih (visitKey v e.1 e.2)).trans ?_
      rw [pendingTasks_visitKey]
      split_ifs
      · exact List.filter_sublist
      · exact List.Sublist.refl _

/-- The process that an event posts a task for has stopped. -/
theorem stops_of_stopped (h : SameStates s)
    (hk : (s.handleAudioRenderStateChangeEvent infos).2.stopped = some k) : Stops s infos k := by
  change validKey (visitAll (s.procAudioRenderChange infos)).stopSessionKey = some k at hk
  rw [(visited_visitAll (s.procAudioRenderChange infos)).stop] at hk
  unfold validKey at hk
  split_ifs at hk with hvalid
  obtain rfl := Option.some.inj hk
  cases hlast : (s.procAudioRenderChange infos).currentStates.toList.findRev?
      (stopsAt (s.procAudioRenderChange infos)) with
  | none =>
      rw [hlast] at hvalid
      exact absurd rfl hvalid.1
  | some e =>
      obtain ⟨he, pre, post, hl, -⟩ := findRev?_eq_some_iff.mp hlast
      exact (stopsAt_iff h infos e.1).mpr ⟨e, by simp [hl], rfl, he⟩

/-- What an event leaves of the tasks, and the task that it posts. -/
theorem pendingTasks_event (h : SameStates s) :
    k ∈ (s.handleAudioRenderStateChangeEvent infos).1.pendingTasks ↔
      (k ∈ s.pendingTasks ∧ ∀ k', Starts s infos k' → k.pid ≠ k'.pid) ∨
        (s.handleAudioRenderStateChangeEvent infos).2.stopped = some k := by
  have hloop : k ∈ (visitAll (s.procAudioRenderChange infos)).strategy.pendingTasks ↔
      k ∈ s.pendingTasks ∧ ∀ k', Starts s infos k' → k.pid ≠ k'.pid := by
    unfold visitAll
    rw [mem_pendingTasks_foldl (fun _ he => mem_toList.mp he) nodup_keys]
    refine and_congr_right fun _ => ?_
    constructor
    · intro hall k' hk'
      obtain ⟨e, he, rfl, hstart⟩ := (startsAt_iff h infos k').mp hk'
      exact hall e he hstart
    · intro hall e he hstart
      exact hall e.1 ((startsAt_iff h infos e.1).mpr ⟨e, he, rfl, hstart⟩)
  rw [← hloop]
  show k ∈ _ ++ Option.toList _ ↔ _
  rw [List.mem_append, Option.mem_toList]
  rfl

/-- Every process that stops gets a task exactly if at most one stops, with a valid key. -/
theorem stopped_iff (h : SameStates s) :
    (∀ k, Stops s infos k → (s.handleAudioRenderStateChangeEvent infos).2.stopped = some k) ↔
      ∀ k, Stops s infos k → (k.uid ≠ -1 ∧ k.pid ≠ -1) ∧ ∀ k', Stops s infos k' → k' = k := by
  have hv := visited_visitAll (s.procAudioRenderChange infos)
  show (∀ k, _ → validKey (visitAll (s.procAudioRenderChange infos)).stopSessionKey = some k) ↔ _
  rw [hv.stop]
  exact forall_validKey_iff (stopsAt_iff h infos)

end tasks

/-! ## Runs -/

section runs

/-- The key that the callback is invoked with, with `false`. -/
def FocusOp.called (s : FocusSessionStrategy) : FocusOp → Option FocusKey
  | checkFocusStop key => (s.checkFocusStop key).2
  | _ => none

/-- The strategy, and the processes that were running, are not running now, and were not stopped by
the callback since. -/
structure Tracked where
  strategy : FocusSessionStrategy
  owed : Set FocusKey

/-- The start. -/
def Tracked.init : Tracked := ⟨FocusSessionStrategy.init, ∅⟩

/-- A process is to be stopped once it is no longer running, until it runs again or the callback is
invoked for it. -/
def Tracked.step (t : Tracked) (op : FocusOp) : Tracked where
  strategy := op.step t.strategy
  owed := {k | ¬ (op.step t.strategy).Running k ∧ (k ∈ t.owed ∨ t.strategy.Running k) ∧
    op.called t.strategy ≠ some k}

/-- For every process that is to be stopped there is a task that, when it runs, invokes the callback
for it; and no task invokes the callback for a process that is running. -/
def Timely (t : Tracked) : Prop :=
  (∀ k ∈ t.owed, (t.strategy.checkFocusStop k).2 = some k) ∧
    ∀ k k', (t.strategy.checkFocusStop k).2 = some k' → ¬ t.strategy.Running k'

/-- The condition on an event: at most one process stops, with a valid key; and while a task is
pending for a process that does not start again, no other process with its pid starts. -/
def FocusOp.KeepsStops (s : FocusSessionStrategy) : FocusOp → Prop
  | event infos =>
      (∀ k, Stops s infos k → (k.uid ≠ -1 ∧ k.pid ≠ -1) ∧ ∀ k', Stops s infos k' → k' = k) ∧
      ∀ k ∈ s.pendingTasks, ¬ RunsAfter s infos k → ∀ k', Starts s infos k' → k.pid ≠ k'.pid
  | _ => True

/-- What holds of the tasks along every run. -/
structure TasksInv (t : Tracked) : Prop where
  same : SameStates t.strategy
  idle : ∀ k ∈ t.strategy.pendingTasks, ¬ t.strategy.Running k
  nodup : t.strategy.pendingTasks.Nodup
  owed : ∀ k ∈ t.strategy.pendingTasks, k ∈ t.owed

variable {t : Tracked}

/-- A task invokes the callback with its own key, unless the process is running. -/
theorem snd_checkFocusStop_iff (h : SameStates s) {key : FocusKey} :
    (s.checkFocusStop key).2 = some k ↔ key = k ∧ k ∈ s.pendingTasks ∧ ¬ s.Running k := by
  have hrun : s.lastStates[key]? = some runningState ↔ s.Running key := by
    rw [h key]
    rfl
  unfold checkFocusStop
  by_cases hmem : key ∈ s.pendingTasks
  · rw [if_pos hmem]
    dsimp only
    rw [if_congr hrun rfl rfl]
    split_ifs with hkey
    · simp only [false_iff]
      rintro ⟨rfl, -, hnot⟩
      exact hnot hkey
    · simp only [Option.some.injEq]
      constructor
      · rintro rfl
        exact ⟨rfl, hmem, hkey⟩
      · exact fun h => h.1
  · rw [if_neg hmem]
    simp only [reduceCtorEq, false_iff]
    rintro ⟨rfl, hmem', -⟩
    exact hmem hmem'

/-- Under the invariant only the first half can break: a task is missing. -/
theorem timely_iff_of_inv (h : TasksInv t) :
    Timely t ↔ ∀ k ∈ t.owed, k ∈ t.strategy.pendingTasks := by
  unfold Timely
  simp only [snd_checkFocusStop_iff h.same, true_and]
  constructor
  · exact fun ht k hk => (ht.1 k hk).1
  · intro ht
    refine ⟨fun k hk => ⟨ht k hk, h.idle k (ht k hk)⟩, ?_⟩
    rintro k k' ⟨-, -, hnot⟩
    exact hnot

/-- A task that runs is no longer pending. -/
theorem pendingTasks_checkFocusStop (key : FocusKey) :
    (s.checkFocusStop key).1.pendingTasks = s.pendingTasks.erase key := by
  unfold checkFocusStop
  by_cases h : key ∈ s.pendingTasks
  · rw [if_pos h]
  · rw [if_neg h, List.erase_of_not_mem h]

/-- The delayed check starts and stops nobody. -/
theorem running_checkFocusStop (key : FocusKey) :
    (s.checkFocusStop key).1.Running k ↔ s.Running k := by
  unfold checkFocusStop
  split_ifs <;> rfl

/-- A stop is owed to whoever has stopped running and has not been told. -/
theorem mem_owed_step {op : FocusOp} : k ∈ (t.step op).owed ↔
    ¬ (op.step t.strategy).Running k ∧ (k ∈ t.owed ∨ t.strategy.Running k) ∧
      op.called t.strategy ≠ some k := Iff.rfl

/-- The processes that are to be stopped after an event. -/
theorem mem_owed_event : k ∈ (t.step (.event infos)).owed ↔
    (k ∈ t.owed ∧ ¬ RunsAfter t.strategy infos k) ∨ Stops t.strategy infos k := by
  have hrun : (FocusOp.step t.strategy (.event infos)).Running k ↔ RunsAfter t.strategy infos k :=
    running_event_iff
  rw [mem_owed_step, hrun]
  unfold Stops
  simp only [FocusOp.called, ne_eq, reduceCtorEq, not_false_eq_true, and_true]
  tauto

/-- An event keeps the tasks. -/
theorem TasksInv.event (h : TasksInv t) (infos : List AudioRendererChangeInfo) :
    TasksInv (t.step (.event infos)) := by
  have hmem : ∀ k, k ∈ (t.step (.event infos)).strategy.pendingTasks ↔
      (k ∈ t.strategy.pendingTasks ∧ ∀ k', Starts t.strategy infos k' → k.pid ≠ k'.pid) ∨
        (t.strategy.handleAudioRenderStateChangeEvent infos).2.stopped = some k :=
    fun k => pendingTasks_event h.same
  have hnotRuns : ∀ k ∈ (t.step (.event infos)).strategy.pendingTasks,
      ¬ RunsAfter t.strategy infos k := by
    intro k hk hruns
    rcases (hmem k).mp hk with ⟨hpending, hall⟩ | hstopped
    · exact hall k ⟨h.idle k hpending, hruns⟩ rfl
    · exact (stops_of_stopped h.same hstopped).2 hruns
  refine ⟨h.same.event infos, fun k hk => ?_, ?_, fun k hk => ?_⟩
  · exact fun hrun => hnotRuns k hk (running_event_iff.mp hrun)
  · have hloop := pendingTasks_foldl_sublist
      ⟨t.strategy.procAudioRenderChange infos, noKey, noKey⟩
      (t.strategy.procAudioRenderChange infos).currentStates.toList
    show (_ ++ Option.toList _).Nodup
    refine List.Nodup.append (h.nodup.sublist hloop) ?_ ?_
    · cases validKey _ <;> simp
    · intro k hpending hstopped
      have hstops : Stops t.strategy infos k :=
        stops_of_stopped h.same (Option.mem_toList.mp hstopped)
      exact h.idle k (hloop.subset hpending) hstops.1
  · rw [mem_owed_event]
    rcases (hmem k).mp hk with ⟨hpending, -⟩ | hstopped
    · exact Or.inl ⟨h.owed k hpending, hnotRuns k hk⟩
    · exact Or.inr (stops_of_stopped h.same hstopped)

/-- Every operation keeps the tasks. -/
theorem TasksInv.step (h : TasksInv t) (op : FocusOp) : TasksInv (t.step op) := by
  cases op with
  | event infos => exact h.event infos
  | addControlBundle uid pid | removeControlBundle uid pid =>
      refine ⟨h.same, h.idle, h.nodup, fun k hk => ?_⟩
      exact ⟨h.idle k hk, Or.inl (h.owed k hk), by simp [FocusOp.called]⟩
  | checkFocusStop key =>
      have hpending : (t.step (.checkFocusStop key)).strategy.pendingTasks =
          t.strategy.pendingTasks.erase key := pendingTasks_checkFocusStop key
      refine ⟨h.same.step (.checkFocusStop key), fun k hk => ?_, ?_, fun k hk => ?_⟩
      · rw [hpending] at hk
        exact fun hrun =>
          h.idle k (List.mem_of_mem_erase hk) ((running_checkFocusStop key).mp hrun)
      · rw [hpending]
        exact h.nodup.erase key
      · rw [hpending, h.nodup.mem_erase_iff] at hk
        refine ⟨fun hrun => h.idle k hk.2 ((running_checkFocusStop key).mp hrun),
          Or.inl (h.owed k hk.2), ?_⟩
        intro hcalled
        exact hk.1 ((snd_checkFocusStop_iff h.same).mp hcalled).1.symm

/-- An event leaves the strategy timely exactly under the condition. -/
theorem timely_event_iff (h : TasksInv t) (ht : Timely t) :
    Timely (t.step (.event infos)) ↔ (FocusOp.event infos).KeepsStops t.strategy := by
  rw [timely_iff_of_inv h] at ht
  rw [timely_iff_of_inv (h.event infos)]
  have hmem : ∀ k, k ∈ (t.step (.event infos)).strategy.pendingTasks ↔
      (k ∈ t.strategy.pendingTasks ∧ ∀ k', Starts t.strategy infos k' → k.pid ≠ k'.pid) ∨
        (t.strategy.handleAudioRenderStateChangeEvent infos).2.stopped = some k :=
    fun k => pendingTasks_event h.same
  simp only [mem_owed_event, hmem]
  unfold FocusOp.KeepsStops
  dsimp only
  rw [← stopped_iff h.same]
  constructor
  · intro hall
    refine ⟨fun k hk => ?_, fun k hk hnot => ?_⟩
    · -- a process that stops had no task before
      refine (hall k (Or.inr hk)).resolve_left ?_
      rintro ⟨hpending, -⟩
      exact h.idle k hpending hk.1
    · rcases hall k (Or.inl ⟨h.owed k hk, hnot⟩) with ⟨-, hpid⟩ | hstopped
      · exact hpid
      · exact absurd (stops_of_stopped h.same hstopped).1 (h.idle k hk)
  · rintro ⟨hstopped, hpid⟩ k (⟨howed, hnot⟩ | hstops)
    · exact Or.inl ⟨ht k howed, hpid k (ht k howed) hnot⟩
    · exact Or.inr (hstopped k hstops)

/-- An operation keeps the stops timely exactly when it keeps their keys. -/
theorem timely_step_iff (h : TasksInv t) (ht : Timely t) (op : FocusOp) :
    Timely (t.step op) ↔ op.KeepsStops t.strategy := by
  cases op with
  | event infos => exact timely_event_iff h ht
  | addControlBundle uid pid | removeControlBundle uid pid =>
      refine iff_of_true ?_ trivial
      rw [timely_iff_of_inv h] at ht
      rw [timely_iff_of_inv (h.step _)]
      rintro k ⟨hnot, howed | hrun, -⟩
      · exact ht k howed
      · exact absurd hrun hnot
  | checkFocusStop key =>
      refine iff_of_true ?_ trivial
      have htask := ht.1
      rw [timely_iff_of_inv h] at ht
      rw [timely_iff_of_inv (h.step _)]
      rintro k ⟨hnot, howed | hrun, hcalled⟩
      · show k ∈ (t.strategy.checkFocusStop key).1.pendingTasks
        rw [pendingTasks_checkFocusStop, h.nodup.mem_erase_iff]
        refine ⟨?_, ht k howed⟩
        rintro rfl
        exact hcalled (htask k howed)
      · exact absurd ((running_checkFocusStop key).mpr hrun) hnot

/-- At the start no task is posted. -/
theorem tasksInv_init : TasksInv Tracked.init where
  same := fun _ => rfl
  idle := fun _ hk => absurd hk List.not_mem_nil
  nodup := List.nodup_nil
  owed := fun _ hk => absurd hk List.not_mem_nil

/-- **The delayed stop.** Along a run from the start the strategy is timely in every state exactly
if every event of the run meets the condition. -/
theorem timely_iff (ops : List FocusOp) :
    Always Tracked.step Timely Tracked.init ops ↔
      Meets Tracked.step (fun t op => op.KeepsStops t.strategy) Tracked.init ops := by
  refine always_iff_meets_of_inv (I := TasksInv) (fun _ op h => h.step op)
    (fun _ op h ht => timely_step_iff h ht op) ops tasksInv_init ?_
  rw [timely_iff_of_inv tasksInv_init]
  exact fun _ hk => False.elim hk

/-- Two users have processes with the same pid: the stop of the first one is dropped when the second
one starts. -/
theorem stop_dropped_for_same_pid :
    ¬ Always Tracked.step Timely Tracked.init
      [.event [⟨1, 7, .music, .running⟩], .event [⟨1, 7, .music, .stopped⟩],
        .event [⟨2, 7, .music, .running⟩]] := by
  intro h
  have htimely := h.last
  refine absurd (htimely.1 ⟨1, 7⟩ ?_) (by decide)
  refine ⟨by decide, Or.inl ⟨by decide, Or.inr (by decide), by decide⟩, by decide⟩

end runs

end AvSession.Focus
