import AvSession.Focus.Running
import AvSession.Lib.Run

/-!
# The transitions that an event reports

`HandleAudioRenderStateChangeEvent` compares the states of all processes with those of the last
event, but reports one process that started and one that stopped.

* `Visited` — what the loop over `currentStates_` leaves: every state is committed, and the keys
  found are the last ones.
* `SameStates` — between two events `lastStates_` and `currentStates_` agree.
* `reported_iff` — along a run every transition is reported exactly if, in each event, at most one
  process starts and at most one stops, and their keys are valid.
-/

namespace AvSession.Focus

open Std AvSession.Lib AvSession.Lib.OrderedMap FocusSessionStrategy

variable {s : FocusSessionStrategy} {k : FocusKey} {infos : List AudioRendererChangeInfo}
  {v w : Visit} {l : List (FocusKey × FocusState)}

/-! ## The loop over the states -/

section visit

/-- The loop finds a process that starts. -/
def startsAt (s : FocusSessionStrategy) (e : FocusKey × FocusState) : Bool :=
  e.2 = runningState ∧ s.lastStates[e.1]? ≠ some runningState

/-- The loop finds a process that stops. -/
def stopsAt (s : FocusSessionStrategy) (e : FocusKey × FocusState) : Bool :=
  e.2 ≠ runningState ∧ s.lastStates[e.1]? = some runningState

/-- What the loop leaves after the entries `l`. -/
structure Visited (v w : Visit) (l : List (FocusKey × FocusState)) : Prop where
  focus : w.focusSessionKey =
    ((l.findRev? (startsAt v.strategy)).map Prod.fst).getD v.focusSessionKey
  stop : w.stopSessionKey =
    ((l.findRev? (stopsAt v.strategy)).map Prod.fst).getD v.stopSessionKey
  current : ∀ k, w.strategy.currentStates[k]? =
    if (k, releaseState) ∈ l then none else v.strategy.currentStates[k]?
  last : ∀ k, w.strategy.lastStates[k]? =
    if k ∈ l.map Prod.fst then w.strategy.currentStates[k]? else v.strategy.lastStates[k]?

/-- Asking for the focus commits the key's state. -/
theorem lastStates_isFocusSession (s : FocusSessionStrategy) (key : FocusKey) :
    (s.isFocusSession key).1.lastStates = (s.commit key).lastStates := by
  unfold isFocusSession
  split_ifs <;> rfl

/-- Asking for the focus leaves the current states. -/
theorem currentStates_isFocusSession (s : FocusSessionStrategy) (key : FocusKey) :
    (s.isFocusSession key).1.currentStates = s.currentStates := by
  unfold isFocusSession
  split_ifs <;> rfl

/-- The key has the focus when it was not running before. -/
theorem snd_isFocusSession (s : FocusSessionStrategy) (key : FocusKey) :
    (s.isFocusSession key).2 = decide (s.lastStates[key]? ≠ some runningState) := by
  unfold isFocusSession
  split_ifs with h
  · rw [decide_eq_true h]
  · rw [decide_eq_false h]

/-- One state is committed. -/
theorem getElem?_commit {state : FocusState} {key : FocusKey}
    (hcur : s.currentStates[key]? = some state) (k : FocusKey) :
    (s.commit key).lastStates[k]? = if key = k then some state else s.lastStates[k]? := by
  unfold commit
  rw [hcur]
  exact getElem?_insert key k state

/-- What one entry does to the committed states. -/
theorem lastStates_visitKey {key : FocusKey} {state : FocusState}
    (hcur : v.strategy.currentStates[key]? = some state) (k : FocusKey) :
    (visitKey v key state).strategy.lastStates[k]? =
      if key = k then (if state = releaseState then none else some state)
      else v.strategy.lastStates[k]? := by
  unfold visitKey
  by_cases hrun : state = runningState
  · have hrelease : state ≠ releaseState := by
      rw [hrun]
      decide
    rw [if_pos hrun, if_neg hrelease]
    dsimp only
    rw [lastStates_isFocusSession]
    exact getElem?_commit hcur k
  · rw [if_neg hrun]
    dsimp only
    by_cases hrelease : state = releaseState
    · rw [if_pos hrelease, if_pos hrelease]
      unfold eraseKey checkFocusSessionStop
      dsimp only
      rw [getElem?_erase, getElem?_commit hcur]
      split_ifs <;> rfl
    · rw [if_neg hrelease, if_neg hrelease]
      exact getElem?_commit hcur k

/-- What one entry does to the current states. -/
theorem currentStates_visitKey (v : Visit) (key : FocusKey) (state : FocusState) (k : FocusKey) :
    (visitKey v key state).strategy.currentStates[k]? =
      if key = k ∧ state = releaseState then none else v.strategy.currentStates[k]? := by
  unfold visitKey
  by_cases hrun : state = runningState
  · have hrelease : state ≠ releaseState := by
      rw [hrun]
      decide
    rw [if_pos hrun, if_neg fun h => hrelease h.2]
    dsimp only
    rw [currentStates_isFocusSession]
  · rw [if_neg hrun]
    dsimp only
    by_cases hrelease : state = releaseState
    · rw [if_pos hrelease]
      simp only [hrelease, and_true]
      exact getElem?_erase key k
    · rw [if_neg hrelease, if_neg fun h => hrelease h.2]
      rfl

/-- What one entry does to the keys that the loop searches for. -/
theorem focusSessionKey_visitKey (v : Visit) (e : FocusKey × FocusState) :
    (visitKey v e.1 e.2).focusSessionKey =
      if startsAt v.strategy e then e.1 else v.focusSessionKey := by
  unfold visitKey startsAt
  by_cases hrun : e.2 = runningState
  · rw [if_pos hrun]
    dsimp only
    rw [snd_isFocusSession]
    simp [hrun]
  · rw [if_neg hrun]
    simp [hrun]

/-- A key that stops is the one remembered. -/
theorem stopSessionKey_visitKey (v : Visit) (e : FocusKey × FocusState) :
    (visitKey v e.1 e.2).stopSessionKey =
      if stopsAt v.strategy e then e.1 else v.stopSessionKey := by
  unfold visitKey stopsAt
  by_cases hrun : e.2 = runningState
  · rw [if_pos hrun]
    simp [hrun]
  · rw [if_neg hrun]
    simp [hrun, checkFocusSessionStop]

/-- The loop, over entries with distinct keys. -/
theorem visited_foldl (hcur : ∀ e ∈ l, v.strategy.currentStates[e.1]? = some e.2)
    (hnodup : (l.map Prod.fst).Nodup) :
    Visited v (l.foldl (fun v e => visitKey v e.1 e.2) v) l := by
  induction l using List.reverseRecOn with
  | nil =>
      refine ⟨rfl, rfl, fun k => ?_, fun k => ?_⟩
      · simp
      · simp
  | append_singleton l e ih =>
      rw [List.map_append, List.map_singleton, List.nodup_append] at hnodup
      obtain ⟨hl, -, hdisj⟩ := hnodup
      have hnot : e.1 ∉ l.map Prod.fst := fun hmem => hdisj e.1 hmem e.1 (by simp) rfl
      have hw := ih (fun e he => hcur e (List.mem_append_left _ he)) hl
      rw [List.foldl_append, List.foldl_cons, List.foldl_nil]
      generalize l.foldl (fun v e => visitKey v e.1 e.2) v = w at *
      have hlast : w.strategy.lastStates[e.1]? = v.strategy.lastStates[e.1]? := by
        rw [hw.last, if_neg hnot]
      have hstate : w.strategy.currentStates[e.1]? = some e.2 := by
        rw [hw.current, if_neg]
        · exact hcur e (by simp)
        · exact fun hmem => hnot (List.mem_map.mpr ⟨_, hmem, rfl⟩)
      refine ⟨?_, ?_, fun k => ?_, fun k => ?_⟩
      · rw [focusSessionKey_visitKey, findRev?_concat, hw.focus]
        unfold startsAt
        rw [hlast]
        split_ifs <;> rfl
      · rw [stopSessionKey_visitKey, findRev?_concat, hw.stop]
        unfold stopsAt
        rw [hlast]
        split_ifs <;> rfl
      · have hmem : (k, releaseState) ∈ l ++ [e] ↔
            (e.1 = k ∧ e.2 = releaseState) ∨ (k, releaseState) ∈ l := by
          rw [List.mem_append, List.mem_singleton, Prod.ext_iff, or_comm, eq_comm (a := k),
            eq_comm (a := releaseState)]
        rw [currentStates_visitKey, hw.current, if_congr hmem rfl rfl, ite_or]
      · rw [lastStates_visitKey hstate, currentStates_visitKey, hw.last, List.map_append,
          List.map_singleton]
        by_cases hk : e.1 = k
        · subst hk
          rw [if_pos rfl, if_pos (by simp : e.1 ∈ l.map Prod.fst ++ [e.1]), hstate]
          simp only [true_and]
        · have hmem : k ∈ l.map Prod.fst ++ [e.1] ↔ k ∈ l.map Prod.fst := by
            simp [Ne.symm hk]
          have hkeep : ¬ (e.1 = k ∧ e.2 = releaseState) := fun h => hk h.1
          rw [if_neg hk, if_congr hmem rfl rfl, if_neg hkeep]

end visit

/-! ## An event -/

section event

/-- Between two events the committed states are the current ones. -/
def SameStates (s : FocusSessionStrategy) : Prop :=
  ∀ k : FocusKey, s.lastStates[k]? = s.currentStates[k]?

/-- An info adds and changes states; it takes none away. -/
theorem isSome_nextStates {playingKey : FocusKey} {states : StateMap}
    {info : AudioRendererChangeInfo} (h : states[k]?.isSome) :
    (nextStates playingKey states info)[k]?.isSome := by
  by_cases hk : k = info.key
  · unfold nextStates
    split_ifs <;> simp [hk]
  · rw [getElem?_nextStates_of_ne _ _ _ hk]
    exact h

/-- No state is forgotten. -/
theorem isSome_procAudioRenderChange (infos : List AudioRendererChangeInfo)
    (h : s.currentStates[k]?.isSome) :
    (s.procAudioRenderChange infos).currentStates[k]?.isSome := by
  rw [currentStates_procAudioRenderChange]
  have hfold : ∀ (l : List AudioRendererChangeInfo) (a : Loop), a.currentStates[k]?.isSome →
      (l.foldl applyInfo a).currentStates[k]?.isSome := by
    intro l
    induction l with
    | nil => exact fun a ha => ha
    | cons info l ih => exact fun a ha => ih _ (isSome_nextStates ha)
  exact hfold _ _ h

/-- The loop of an event visits every state. -/
theorem visited_visitAll (s : FocusSessionStrategy) :
    Visited ⟨s, noKey, noKey⟩ (visitAll s) s.currentStates.toList :=
  visited_foldl (fun _ he => mem_toList.mp he) nodup_keys

/-- Visiting the keys starts and stops nobody. -/
theorem running_visitAll_iff : (visitAll s).strategy.Running k ↔ s.Running k := by
  unfold Running
  rw [(visited_visitAll s).current]
  split_ifs with hrelease
  · have hk : s.currentStates[k]? = some releaseState := mem_toList.mp hrelease
    rw [hk]
    decide
  · rfl

/-- After an event the committed states are the current ones again. -/
theorem SameStates.event (h : SameStates s) (infos : List AudioRendererChangeInfo) :
    SameStates (s.handleAudioRenderStateChangeEvent infos).1 := by
  intro k
  have hv := visited_visitAll (s.procAudioRenderChange infos)
  show (visitAll (s.procAudioRenderChange infos)).strategy.lastStates[k]? =
    (visitAll (s.procAudioRenderChange infos)).strategy.currentStates[k]?
  rw [hv.last]
  split_ifs with hmem
  · rfl
  · -- a process without a state had none before
    have hnone : (s.procAudioRenderChange infos).currentStates[k]? = none := by
      rw [Option.eq_none_iff_forall_not_mem]
      intro state hstate
      exact hmem (List.mem_map.mpr ⟨(k, state), mem_toList.mpr hstate, rfl⟩)
    have hbefore : s.currentStates[k]? = none := by
      rw [← Option.not_isSome_iff_eq_none]
      intro hsome
      have := isSome_procAudioRenderChange infos hsome
      rw [hnone] at this
      exact Bool.false_ne_true this
    rw [hv.current, hnone, ite_self]
    show s.lastStates[k]? = none
    rw [h, hbefore]

/-- One reported key is all of them exactly if it is the only one, and valid. -/
theorem forall_validKey_iff {p : FocusKey × FocusState → Bool} {Hit : FocusKey → Prop}
    (hhit : ∀ k, Hit k ↔ ∃ e ∈ l, e.1 = k ∧ p e) :
    (∀ k, Hit k → validKey (((l.findRev? p).map Prod.fst).getD noKey) = some k) ↔
      ∀ k, Hit k → (k.uid ≠ -1 ∧ k.pid ≠ -1) ∧ ∀ k', Hit k' → k' = k := by
  have hvalid : ∀ key k : FocusKey,
      validKey key = some k ↔ key = k ∧ k.uid ≠ -1 ∧ k.pid ≠ -1 := by
    intro key k
    unfold validKey
    rw [Option.ite_none_right_eq_some, Option.some.injEq]
    constructor
    · rintro ⟨hkey, rfl⟩
      exact ⟨rfl, hkey⟩
    · rintro ⟨rfl, hkey⟩
      exact ⟨hkey, rfl⟩
  constructor
  · intro h k hk
    obtain ⟨hlast, hkey⟩ := (hvalid _ k).mp (h k hk)
    refine ⟨hkey, fun k' hk' => ?_⟩
    exact ((hvalid _ k').mp (h k' hk')).1.symm.trans hlast
  · intro h k hk
    rw [hvalid]
    refine ⟨?_, (h k hk).1⟩
    obtain ⟨e, he, -, hpe⟩ := (hhit k).mp hk
    cases hlast : l.findRev? p with
    | none => exact absurd hpe (findRev?_eq_none_iff.mp hlast e he)
    | some e' =>
        obtain ⟨hpe', pre, post, rfl, -⟩ := findRev?_eq_some_iff.mp hlast
        exact (h k hk).2 e'.1 ((hhit e'.1).mpr ⟨e', by simp, rfl, hpe'⟩)

end event

/-! ## Runs -/

section runs

/-- An event of the audio framework, a change of the control list, or a task that runs. -/
inductive FocusOp
  | event (infos : List AudioRendererChangeInfo)
  | addControlBundle (uid : Uid) (pid : Pid)
  | removeControlBundle (uid : Uid) (pid : Pid)
  | checkFocusStop (key : FocusKey)

/-- The strategy after it. -/
def FocusOp.step (s : FocusSessionStrategy) : FocusOp → FocusSessionStrategy
  | event infos => (s.handleAudioRenderStateChangeEvent infos).1
  | addControlBundle uid pid => s.addControlBundle uid pid
  | removeControlBundle uid pid => s.removeControlBundle uid pid
  | checkFocusStop key => (s.checkFocusStop key).1

/-- Every transition of the event is reported: the callback is invoked for a process that starts,
and a stop is posted for one that stops. -/
def FocusOp.Reported (s : FocusSessionStrategy) : FocusOp → Prop
  | event infos =>
      (∀ k, ¬ s.Running k → (s.handleAudioRenderStateChangeEvent infos).1.Running k →
        (s.handleAudioRenderStateChangeEvent infos).2.updated = some k) ∧
      ∀ k, s.Running k → ¬ (s.handleAudioRenderStateChangeEvent infos).1.Running k →
        (s.handleAudioRenderStateChangeEvent infos).2.stopped = some k
  | _ => True

/-- The condition on an event: at most one process starts and at most one stops, and neither
component of its key is `-1`. -/
def FocusOp.Single (s : FocusSessionStrategy) : FocusOp → Prop
  | event infos =>
      (∀ k, ¬ s.Running k ∧ RunsAfter s infos k → (k.uid ≠ -1 ∧ k.pid ≠ -1) ∧
        ∀ k', ¬ s.Running k' ∧ RunsAfter s infos k' → k' = k) ∧
      ∀ k, s.Running k ∧ ¬ RunsAfter s infos k → (k.uid ≠ -1 ∧ k.pid ≠ -1) ∧
        ∀ k', s.Running k' ∧ ¬ RunsAfter s infos k' → k' = k
  | _ => True

/-- After an event the running keys are those it says. -/
theorem running_event_iff : (s.handleAudioRenderStateChangeEvent infos).1.Running k ↔
    RunsAfter s infos k := by
  rw [← running_procAudioRenderChange_iff]
  exact running_visitAll_iff

/-- The entries at which the loop finds a process that starts. -/
theorem startsAt_iff (h : SameStates s) (infos : List AudioRendererChangeInfo)
    (k : FocusKey) : ¬ s.Running k ∧ RunsAfter s infos k ↔
    ∃ e ∈ (s.procAudioRenderChange infos).currentStates.toList,
      e.1 = k ∧ startsAt (s.procAudioRenderChange infos) e := by
  rw [← running_procAudioRenderChange_iff]
  have hlast : (s.procAudioRenderChange infos).lastStates[k]? = s.currentStates[k]? := h k
  constructor
  · rintro ⟨hbefore, hafter⟩
    refine ⟨(k, runningState), mem_toList.mpr hafter, rfl, ?_⟩
    unfold startsAt
    rw [hlast]
    exact decide_eq_true ⟨rfl, hbefore⟩
  · rintro ⟨⟨key, state⟩, he, rfl, hstart⟩
    unfold startsAt at hstart
    rw [hlast] at hstart
    obtain ⟨hstate, hbefore⟩ := of_decide_eq_true hstart
    refine ⟨hbefore, ?_⟩
    unfold Running
    rw [mem_toList.mp he]
    exact congrArg some hstate

/-- The entries at which the loop finds a process that stops. -/
theorem stopsAt_iff (h : SameStates s) (infos : List AudioRendererChangeInfo) (k : FocusKey) :
    s.Running k ∧ ¬ RunsAfter s infos k ↔
    ∃ e ∈ (s.procAudioRenderChange infos).currentStates.toList,
      e.1 = k ∧ stopsAt (s.procAudioRenderChange infos) e := by
  rw [← running_procAudioRenderChange_iff]
  have hlast : (s.procAudioRenderChange infos).lastStates[k]? = s.currentStates[k]? := h k
  constructor
  · rintro ⟨hbefore, hafter⟩
    have hsome : (s.procAudioRenderChange infos).currentStates[k]?.isSome := by
      apply isSome_procAudioRenderChange
      rw [hbefore]
      rfl
    obtain ⟨state, hstate⟩ := Option.isSome_iff_exists.mp hsome
    refine ⟨(k, state), mem_toList.mpr hstate, rfl, ?_⟩
    unfold stopsAt
    rw [hlast]
    refine decide_eq_true ⟨?_, hbefore⟩
    intro heq
    exact hafter (hstate.trans (congrArg some heq))
  · rintro ⟨⟨key, state⟩, he, rfl, hstop⟩
    unfold stopsAt at hstop
    rw [hlast] at hstop
    obtain ⟨hstate, hbefore⟩ := of_decide_eq_true hstop
    refine ⟨hbefore, ?_⟩
    unfold Running
    rw [mem_toList.mp he, Option.some.injEq]
    exact hstate

/-- An event reports its transitions exactly under the condition. -/
theorem reported_step_iff (op : FocusOp) (h : SameStates s) : op.Reported s ↔ op.Single s := by
  cases op with
  | event infos =>
      have hv := visited_visitAll (s.procAudioRenderChange infos)
      have hfocus := forall_validKey_iff (startsAt_iff h infos)
      have hstop := forall_validKey_iff (stopsAt_iff h infos)
      show (∀ k, _ → _ → validKey (visitAll (s.procAudioRenderChange infos)).focusSessionKey =
        some k) ∧ (∀ k, _ → _ → validKey (visitAll (s.procAudioRenderChange
          infos)).stopSessionKey = some k) ↔ _
      simp only [running_event_iff, hv.focus, hv.stop]
      refine and_congr ?_ ?_
      · rw [← hfocus]
        simp only [and_imp]
      · rw [← hstop]
        simp only [and_imp]
  | _ => exact Iff.rfl

/-- Every operation keeps the two maps in step. -/
theorem SameStates.step (h : SameStates s) (op : FocusOp) : SameStates (op.step s) := by
  cases op with
  | event infos => exact h.event infos
  | addControlBundle uid pid => exact h
  | removeControlBundle uid pid => exact h
  | checkFocusStop key =>
      show SameStates (s.checkFocusStop key).1
      unfold checkFocusStop
      by_cases hkey : key ∈ s.pendingTasks
      · rw [if_pos hkey]
        exact h
      · rw [if_neg hkey]
        exact h

/-- **The transitions of a run.** Along a run from the start every transition is reported exactly if
every event of the run has at most one process that starts and at most one that stops, with valid
keys. -/
theorem reported_iff (ops : List FocusOp) :
    Meets (fun s op => FocusOp.step s op) (fun s op => op.Reported s) FocusSessionStrategy.init
        ops ↔
      Meets (fun s op => FocusOp.step s op) (fun s op => op.Single s) FocusSessionStrategy.init
        ops :=
  meets_congr_of_inv (I := SameStates) (fun _ op h => h.step op)
    (fun _ op h => reported_step_iff op h) ops fun _ => rfl

/-- Two processes start at once: the callback is invoked for the second one only. -/
theorem start_lost_among_two :
    ¬ Meets (fun s op => FocusOp.step s op) (fun s op => op.Reported s) FocusSessionStrategy.init
      [.event [⟨1, 1, .music, .running⟩, ⟨2, 2, .music, .running⟩]] := by
  rintro ⟨⟨hstart, -⟩, -⟩
  exact absurd (hstart ⟨1, 1⟩ (by decide) (by decide)) (by decide)

end runs

end AvSession.Focus
