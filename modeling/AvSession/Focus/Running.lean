import AvSession.Focus.Strategy
import AvSession.Lib.LastHit

/-!
# Which processes an event leaves running

`ProcAudioRenderChange` passes once over the infos and remembers the key of the last running one.

* `RunsAfter` — which processes are running afterwards, read off the infos and the states before.
* `running_procAudioRenderChange_iff` — the loop computes `RunsAfter`.
* `computesFocus_iff` — the processes with a running info are the ones that are left running exactly
  under `FocusOk`.
-/

namespace AvSession.Focus

open Std AvSession.Lib AvSession.Lib.OrderedMap FocusSessionStrategy

variable {s : FocusSessionStrategy} {k : FocusKey} {info : AudioRendererChangeInfo}
  {infos l pre post : List AudioRendererChangeInfo}

/-- The key of the last running info. -/
def lastRunningKey (l : List AudioRendererChangeInfo) : Option FocusKey :=
  (l.findRev? AudioRendererChangeInfo.isRunning).map AudioRendererChangeInfo.key

/-- The last running information counts. -/
theorem lastRunningKey_concat (l : List AudioRendererChangeInfo)
    (info : AudioRendererChangeInfo) : lastRunningKey (l ++ [info]) =
      if info.isRunning then some info.key else lastRunningKey l := by
  unfold lastRunningKey
  rw [findRev?_concat]
  split_ifs <;> rfl

/-! ## One info -/

section step

variable (playingKey : FocusKey) (states : StateMap) (info : AudioRendererChangeInfo)

/-- An info touches the state of its own process only. -/
theorem getElem?_nextStates_of_ne (hk : k ≠ info.key) :
    (nextStates playingKey states info)[k]? = states[k]? := by
  have hne : info.key ≠ k := Ne.symm hk
  unfold nextStates
  split_ifs <;> simp [ExtTreeMap.getElem?_insert, ExtTreeMap.getElem?_insertIfNew, hne]

/-- A running info leaves its process running; another one leaves it running only if it was, and if
the process is the one with the last running info. -/
theorem nextStates_running_iff :
    (nextStates (nextPlayingKey playingKey info) states info)[info.key]? = some runningState ↔
      info.isRunning ∨ (playingKey = info.key ∧ states[info.key]? = some runningState) := by
  unfold nextStates nextPlayingKey
  by_cases hrun : info.isRunning
  · simp [hrun]
  · simp only [hrun, Bool.false_eq_true, if_false, false_or]
    by_cases hkey : playingKey = info.key
    · rw [if_neg (not_not.mpr hkey)]
      cases hold : states[info.key]? with
      | none =>
          rw [getElem?_insertIfNew_of_none hold, if_pos rfl]
          simp [stopState, runningState]
      | some v =>
          rw [insertIfNew_of_some hold, hold]
          simp [hkey]
    · rw [if_pos hkey]
      simp only [hkey, false_and, iff_false]
      split_ifs
      · simp [runningState, releaseState]
      · simp [runningState, stopState]

end step

/-! ## The loop -/

section loop

variable {a b : Loop}

/-- The states and `playingKey` see the infos that are not skipped, and nothing else. -/
theorem foldl_procInfo (s : FocusSessionStrategy) (hstates : a.currentStates = b.currentStates)
    (hkey : a.playingKey = b.playingKey) (infos : List AudioRendererChangeInfo) :
    (infos.foldl s.procInfo a).currentStates =
      ((s.accepted infos).foldl applyInfo b).currentStates := by
  induction infos generalizing a b with
  | nil => exact hstates
  | cons info infos ih =>
      rw [List.foldl_cons]
      unfold accepted procInfo
      rw [List.filter_cons]
      split_ifs with haccept
      · rw [List.foldl_cons]
        apply ih
        · unfold applyInfo
          rw [hstates, hkey]
        · unfold applyInfo
          rw [hkey]
      · exact ih hstates hkey

/-- The loop takes one information after the other. -/
theorem foldl_applyInfo_concat (l : List AudioRendererChangeInfo) (info : AudioRendererChangeInfo)
    (a : Loop) : (l ++ [info]).foldl applyInfo a = applyInfo (l.foldl applyInfo a) info := by
  rw [List.foldl_append, List.foldl_cons, List.foldl_nil]

/-- `playingKey` is overwritten by every running info. -/
theorem playingKey_foldl_applyInfo (l : List AudioRendererChangeInfo) (a : Loop) :
    (l.foldl applyInfo a).playingKey = (lastRunningKey l).getD a.playingKey := by
  induction l using List.reverseRecOn with
  | nil => rfl
  | append_singleton l info ih =>
      rw [foldl_applyInfo_concat, lastRunningKey_concat]
      show nextPlayingKey (l.foldl applyInfo a).playingKey info = _
      unfold nextPlayingKey
      rw [ih]
      split_ifs <;> rfl

/-- A process without an info keeps its state. -/
theorem getElem?_foldl_applyInfo_of_forall_ne (a : Loop) (hk : ∀ info ∈ l, info.key ≠ k) :
    (l.foldl applyInfo a).currentStates[k]? = a.currentStates[k]? := by
  induction l generalizing a with
  | nil => rfl
  | cons info l ih =>
      rw [List.foldl_cons, ih _ fun i hi => hk i (List.mem_cons_of_mem _ hi)]
      exact getElem?_nextStates_of_ne _ _ info (Ne.symm (hk info List.mem_cons_self))

/-- The process with the last running info is running. -/
theorem running_of_lastRunningKey (a : Loop) (h : lastRunningKey l = some k) :
    (l.foldl applyInfo a).currentStates[k]? = some runningState := by
  induction l using List.reverseRecOn with
  | nil => simp [lastRunningKey, List.findRev?_eq_find?_reverse] at h
  | append_singleton l info ih =>
      rw [foldl_applyInfo_concat]
      show (nextStates (nextPlayingKey (l.foldl applyInfo a).playingKey info)
        (l.foldl applyInfo a).currentStates info)[k]? = some runningState
      rw [lastRunningKey_concat] at h
      by_cases hkey : k = info.key
      · subst hkey
        rw [nextStates_running_iff]
        split_ifs at h with hrun
        · exact Or.inl hrun
        · refine Or.inr ⟨?_, ih h⟩
          rw [playingKey_foldl_applyInfo, h]
          rfl
      · rw [getElem?_nextStates_of_ne _ _ _ hkey]
        split_ifs at h with hrun
        · exact absurd (Option.some.inj h).symm hkey
        · exact ih h

/-- Without a running info the initial `playingKey` keeps what state it has. -/
theorem running_of_lastRunningKey_eq_none (a : Loop) (h : lastRunningKey l = none) :
    (l.foldl applyInfo a).currentStates[a.playingKey]? = some runningState ↔
      a.currentStates[a.playingKey]? = some runningState := by
  induction l using List.reverseRecOn with
  | nil => rfl
  | append_singleton l info ih =>
      rw [lastRunningKey_concat] at h
      split_ifs at h with hrun
      rw [← ih h, foldl_applyInfo_concat]
      show (nextStates (nextPlayingKey (l.foldl applyInfo a).playingKey info)
        (l.foldl applyInfo a).currentStates info)[a.playingKey]? = some runningState ↔ _
      by_cases hkey : a.playingKey = info.key
      · rw [hkey, nextStates_running_iff, playingKey_foldl_applyInfo, h]
        simp [hrun, hkey]
      · rw [getElem?_nextStates_of_ne _ _ _ hkey]

/-- The last info of a process decides, together with what the infos before it left. -/
theorem running_foldl_applyInfo_iff (a : Loop) (hpost : ∀ i ∈ post, i.key ≠ info.key) :
    ((pre ++ info :: post).foldl applyInfo a).currentStates[info.key]? = some runningState ↔
      info.isRunning ∨ lastRunningKey pre = some info.key ∨
        (a.playingKey = info.key ∧ lastRunningKey pre = none ∧
          a.currentStates[info.key]? = some runningState) := by
  rw [List.foldl_append, List.foldl_cons, getElem?_foldl_applyInfo_of_forall_ne _ hpost]
  show (nextStates (nextPlayingKey (pre.foldl applyInfo a).playingKey info)
    (pre.foldl applyInfo a).currentStates info)[info.key]? = some runningState ↔ _
  rw [nextStates_running_iff, playingKey_foldl_applyInfo]
  refine or_congr Iff.rfl ?_
  cases hlast : lastRunningKey pre with
  | some key =>
      simp only [Option.getD_some, Option.some.injEq, reduceCtorEq, false_and, and_false, or_false]
      refine and_iff_left_of_imp fun hkey => ?_
      exact running_of_lastRunningKey a (hkey ▸ hlast)
  | none =>
      simp only [Option.getD_none, reduceCtorEq, true_and, false_or]
      refine and_congr_right fun hkey => ?_
      rw [← hkey]
      exact running_of_lastRunningKey_eq_none a hlast

end loop

/-! ## The processes that are running afterwards -/

section running

/-- The process is running after the infos: it has none that is accepted and was running before, or
its last one is running, or the last running one before that is of the same process. The process
`(-1, -1)` may also be running because it was, with no running info before its last one. -/
def RunsAfter (s : FocusSessionStrategy) (infos : List AudioRendererChangeInfo) (k : FocusKey) :
    Prop :=
  ((∀ i ∈ s.accepted infos, i.key ≠ k) ∧ s.Running k) ∨
    ∃ pre info post, s.accepted infos = pre ++ info :: post ∧ info.key = k ∧
      (∀ i ∈ post, i.key ≠ k) ∧
      (info.isRunning ∨ lastRunningKey pre = some k ∨
        (k = noKey ∧ lastRunningKey pre = none ∧ s.Running k))

/-- The states are those of the loop over the accepted information. -/
theorem currentStates_procAudioRenderChange (s : FocusSessionStrategy)
    (infos : List AudioRendererChangeInfo) : (s.procAudioRenderChange infos).currentStates =
      ((s.accepted infos).foldl applyInfo ⟨[], s.currentStates, noKey⟩).currentStates :=
  foldl_procInfo s rfl rfl infos

/-- A process without an accepted info is left alone. -/
theorem getElem?_procAudioRenderChange_of_forall_ne (hk : ∀ i ∈ s.accepted infos, i.key ≠ k) :
    (s.procAudioRenderChange infos).currentStates[k]? = s.currentStates[k]? := by
  rw [currentStates_procAudioRenderChange]
  exact getElem?_foldl_applyInfo_of_forall_ne _ hk

/-- Whether a key runs is decided at its last information. -/
theorem running_of_split (hsplit : s.accepted infos = pre ++ info :: post)
    (hpost : ∀ i ∈ post, i.key ≠ info.key) :
    (s.procAudioRenderChange infos).Running info.key ↔
      info.isRunning ∨ lastRunningKey pre = some info.key ∨
        (info.key = noKey ∧ lastRunningKey pre = none ∧ s.Running info.key) := by
  unfold Running
  rw [currentStates_procAudioRenderChange, hsplit, running_foldl_applyInfo_iff _ hpost,
    eq_comm (a := noKey)]

/-- A process with an accepted info has a last one. -/
theorem exists_split (hk : ∃ i ∈ l, i.key = k) :
    ∃ pre info post, l = pre ++ info :: post ∧ info.key = k ∧ ∀ i ∈ post, i.key ≠ k := by
  obtain ⟨i, hi, hkey⟩ := hk
  obtain ⟨pre, info, post, hl, hinfo, hpost⟩ :=
    exists_last (p := fun i => i.key == k) hi (by simpa using hkey)
  exact ⟨pre, info, post, hl, by simpa using hinfo, fun i hi => by simpa using hpost i hi⟩

/-- The loop computes `RunsAfter`. -/
theorem running_procAudioRenderChange_iff :
    (s.procAudioRenderChange infos).Running k ↔ RunsAfter s infos k := by
  by_cases hk : ∃ i ∈ s.accepted infos, i.key = k
  · have hsome : ¬ ∀ i ∈ s.accepted infos, i.key ≠ k := by simpa using hk
    constructor
    · intro hrun
      obtain ⟨pre, info, post, hsplit, rfl, hpost⟩ := exists_split hk
      exact Or.inr ⟨pre, info, post, hsplit, rfl, hpost, (running_of_split hsplit hpost).mp hrun⟩
    · rintro (⟨hnone, -⟩ | ⟨pre, info, post, hsplit, rfl, hpost, hrun⟩)
      · exact absurd hnone hsome
      · exact (running_of_split hsplit hpost).mpr hrun
  · have hnone : ∀ i ∈ s.accepted infos, i.key ≠ k := by simpa using hk
    have hsame : (s.procAudioRenderChange infos).Running k ↔ s.Running k := by
      unfold Running
      rw [getElem?_procAudioRenderChange_of_forall_ne hnone]
    rw [hsame]
    constructor
    · exact fun hrun => Or.inl ⟨hnone, hrun⟩
    · rintro (⟨-, hrun⟩ | ⟨pre, info, post, hsplit, rfl, -⟩)
      · exact hrun
      · exact absurd rfl (hnone info (by simp [hsplit]))

/-- What an event should compute: of the processes with an accepted info, those with a running one
are running; the others are left alone. -/
def ComputesFocus (s : FocusSessionStrategy) (infos : List AudioRendererChangeInfo) : Prop :=
  (∀ k, (∃ i ∈ s.accepted infos, i.key = k) →
    ((s.procAudioRenderChange infos).Running k ↔
      ∃ i ∈ s.accepted infos, i.key = k ∧ i.isRunning)) ∧
  ∀ k, (∀ i ∈ s.accepted infos, i.key ≠ k) →
    (s.procAudioRenderChange infos).currentStates[k]? = s.currentStates[k]?

/-- The condition, at the last accepted info of each process. If the process has a running info, the
last one is running or no other process had a running info in between. And `(-1, -1)`, which the
loop takes for the process with the last running info when there is none yet, was not running. -/
def FocusOk (s : FocusSessionStrategy) (infos : List AudioRendererChangeInfo) : Prop :=
  ∀ pre info post, s.accepted infos = pre ++ info :: post → (∀ i ∈ post, i.key ≠ info.key) →
    ((∃ i ∈ pre ++ [info], i.key = info.key ∧ i.isRunning) →
      info.isRunning ∨ lastRunningKey pre = some info.key) ∧
    (info.key = noKey → lastRunningKey pre = none → ¬ info.isRunning → ¬ s.Running noKey)

/-- The last running info is one of the infos. -/
theorem exists_of_lastRunningKey (h : lastRunningKey l = some k) :
    ∃ i ∈ l, i.key = k ∧ i.isRunning := by
  obtain ⟨i, hi, rfl⟩ := Option.map_eq_some_iff.mp h
  obtain ⟨hrun, pre, post, rfl, -⟩ := findRev?_eq_some_iff.mp hi
  exact ⟨i, by simp, rfl, hrun⟩

/-- Without a running key nobody runs. -/
theorem not_running_of_lastRunningKey (h : lastRunningKey l = none) {i : AudioRendererChangeInfo}
    (hi : i ∈ l) : ¬ i.isRunning :=
  findRev?_eq_none_iff.mp (Option.map_eq_none_iff.mp h) i hi

/-- The running infos of a process come no later than its last info. -/
theorem exists_running_iff_of_split (hpost : ∀ i ∈ post, i.key ≠ info.key) :
    (∃ i ∈ pre ++ info :: post, i.key = info.key ∧ i.isRunning) ↔
      ∃ i ∈ pre ++ [info], i.key = info.key ∧ i.isRunning := by
  constructor
  · rintro ⟨i, hi, hkey, hrun⟩
    refine ⟨i, ?_, hkey, hrun⟩
    have hnot : i ∉ post := fun hmem => hpost i hmem hkey
    simpa [hnot] using hi
  · rintro ⟨i, hi, hrest⟩
    exact ⟨i, by simp at hi ⊢; tauto, hrest⟩

/-- At the last info of a process the loop is right exactly under the condition. -/
theorem split_iff (hsplit : s.accepted infos = pre ++ info :: post)
    (hpost : ∀ i ∈ post, i.key ≠ info.key) :
    ((s.procAudioRenderChange infos).Running info.key ↔
        ∃ i ∈ s.accepted infos, i.key = info.key ∧ i.isRunning) ↔
      ((∃ i ∈ pre ++ [info], i.key = info.key ∧ i.isRunning) →
        info.isRunning ∨ lastRunningKey pre = some info.key) ∧
      (info.key = noKey → lastRunningKey pre = none → ¬ info.isRunning → ¬ s.Running noKey) := by
  rw [running_of_split hsplit hpost, hsplit, exists_running_iff_of_split hpost]
  by_cases hrun : info.isRunning
  · have hex : ∃ i ∈ pre ++ [info], i.key = info.key ∧ i.isRunning :=
      ⟨info, by simp, rfl, hrun⟩
    exact iff_of_true ⟨fun _ => hex, fun _ => Or.inl hrun⟩
      ⟨fun _ => Or.inl hrun, fun _ _ hnot => absurd hrun hnot⟩
  · by_cases hlast : lastRunningKey pre = some info.key
    · obtain ⟨i, hi, hrest⟩ := exists_of_lastRunningKey hlast
      have hex : ∃ i ∈ pre ++ [info], i.key = info.key ∧ i.isRunning :=
        ⟨i, List.mem_append_left _ hi, hrest⟩
      refine iff_of_true ⟨fun _ => hex, fun _ => Or.inr (Or.inl hlast)⟩
        ⟨fun _ => Or.inr hlast, fun _ hnone => ?_⟩
      rw [hlast] at hnone
      simp at hnone
    · by_cases hnone : lastRunningKey pre = none
      · -- no running info so far: there is none for the process at all
        have hex : ¬ ∃ i ∈ pre ++ [info], i.key = info.key ∧ i.isRunning := by
          rintro ⟨i, hi, -, hi'⟩
          rcases List.mem_append.mp hi with hi | hi
          · exact not_running_of_lastRunningKey hnone hi hi'
          · exact hrun (List.mem_singleton.mp hi ▸ hi')
        simp only [hrun, hnone, hex, reduceCtorEq, false_or, true_and, iff_false, not_and,
          false_imp_iff, not_false_eq_true, true_imp_iff]
        refine forall_congr' fun hkey => ?_
        rw [hkey]
      · simp [hrun, hlast, hnone]

/-- **The focus computation.** The processes with a running info are the ones left running exactly
under the condition; and two orders of the same infos that both meet it leave the same processes
running. -/
theorem computesFocus_iff (s : FocusSessionStrategy) (infos : List AudioRendererChangeInfo) :
    (ComputesFocus s infos ↔ FocusOk s infos) ∧
      ∀ infos', infos.Perm infos' → FocusOk s infos → FocusOk s infos' →
        ∀ k, (s.procAudioRenderChange infos).Running k ↔
          (s.procAudioRenderChange infos').Running k := by
  have hiff : ∀ infos, ComputesFocus s infos ↔ FocusOk s infos := by
    intro infos
    constructor
    · intro h pre info post hsplit hpost
      rw [← split_iff hsplit hpost]
      exact h.1 info.key ⟨info, by simp [hsplit], rfl⟩
    · intro h
      refine ⟨fun k hk => ?_, fun k hk => getElem?_procAudioRenderChange_of_forall_ne hk⟩
      obtain ⟨pre, info, post, hsplit, rfl, hpost⟩ := exists_split hk
      exact (split_iff hsplit hpost).mpr (h pre info post hsplit hpost)
  refine ⟨hiff infos, fun infos' hperm hok hok' k => ?_⟩
  have hcompute := (hiff infos).mpr hok
  have hcompute' := (hiff infos').mpr hok'
  have hmem : ∀ i, i ∈ s.accepted infos ↔ i ∈ s.accepted infos' :=
    fun i => (hperm.filter s.accepts).mem_iff
  by_cases hk : ∃ i ∈ s.accepted infos, i.key = k
  · rw [hcompute.1 k hk, hcompute'.1 k (by simpa only [hmem] using hk)]
    simp only [hmem]
  · have hnone : ∀ i ∈ s.accepted infos, i.key ≠ k := by simpa using hk
    unfold Running
    rw [hcompute.2 k hnone, hcompute'.2 k fun i hi => hnone i ((hmem i).mpr hi)]

/-- A stream of process `(1, 1)` is running, another process starts, and a second stream of
`(1, 1)` is stopped: the loop takes `(1, 1)` for stopped. -/
theorem focus_lost_between_streams :
    ¬ ComputesFocus FocusSessionStrategy.init
      [⟨1, 1, .music, .running⟩, ⟨2, 2, .music, .running⟩, ⟨1, 1, .music, .stopped⟩] := by
  intro h
  have hrun := (h.1 ⟨1, 1⟩ ⟨⟨1, 1, .music, .running⟩, by decide, rfl⟩).mpr
    ⟨⟨1, 1, .music, .running⟩, by decide, rfl, rfl⟩
  exact absurd hrun (by decide)

end running

end AvSession.Focus
