import AvSession.Item
import AvSession.Lib.Run
import Mathlib.Data.Finset.Basic
import Mathlib.Data.List.Dedup
import Mathlib.Logic.Function.Basic

/-!
# Observed apps

The app manager reports the states of processes, several of which may host one app. The observer is
called for those apps whose uid is observed.

* `AppManagerAdapter`, `addObservedApp`, `removeObservedApp`, `handleAppStateChanged`.
* `AppState` — the adapter next to the processes that are alive.
* `Notified` — an app with a live process ever since it was added is told of.
* `notified_iff` — the runs in which it always is.
-/

namespace AvSession.Background

open AvSession.Lib

/-! ## The adapter -/

section Adapter

/-- `AppExecFwk::ApplicationState`, as far as it is told apart. -/
inductive ApplicationState
  | foreground
  | background
  | terminated
  | other
deriving DecidableEq

/-- `AppExecFwk::AppProcessData`; of the apps of the process their uids. -/
structure AppProcessData where
  appState : ApplicationState
  pid : Pid
  appDatas : List Uid

/-- A call of the app-state observer. -/
structure ObserverCall where
  uid : Uid
  pid : Pid
  isBackground : Bool
deriving DecidableEq

/-- The uids that are observed, and whether the two callbacks have been set.
Source: app_manager_adapter.h, `AppManagerAdapter` -/
structure AppManagerAdapter where
  observedAppUIDs : Finset Uid
  hasServiceCallback : Bool
  hasAppStateChangeObserver : Bool

/-- What the handler of a report leaves and calls. -/
structure Handled where
  adapter : AppManagerAdapter
  serviceCalls : List (Uid × ApplicationState)
  observerCalls : List ObserverCall

namespace AppManagerAdapter

variable (a : AppManagerAdapter)

/-- Source: app_manager_adapter.cpp, `AppManagerAdapter::AddObservedApp` -/
def addObservedApp (uid : Uid) : AppManagerAdapter :=
  { a with observedAppUIDs := insert uid a.observedAppUIDs }

/-- Source: app_manager_adapter.cpp, `AppManagerAdapter::RemoveObservedApp` -/
def removeObservedApp (uid : Uid) : AppManagerAdapter :=
  { a with observedAppUIDs := a.observedAppUIDs.erase uid }

/-- The set of the pairs to be handled, in its order; all have the pid of the report. -/
def appNeedHandleMap (data : AppProcessData) : List (Uid × Pid) :=
  ((data.appDatas.filter fun uid => uid ∈ a.observedAppUIDs).dedup.mergeSort).map
    fun uid => (uid, data.pid)

/-- Source: app_manager_adapter.cpp, `AppManagerAdapter::HandleAppStateChanged` -/
def handleAppStateChanged (data : AppProcessData) : Handled :=
  let serviceCalls :=
    if data.appState = .foreground ∨ data.appState = .background then
      if a.hasServiceCallback then data.appDatas.map fun uid => (uid, data.appState) else []
    else []
  let a :=
    if data.appState = .terminated then data.appDatas.foldl removeObservedApp a else a
  let observerCalls :=
    if a.hasAppStateChangeObserver then
      (a.appNeedHandleMap data).map fun p => ⟨p.1, p.2, data.appState = .background⟩
    else []
  ⟨a, serviceCalls, observerCalls⟩

end AppManagerAdapter

end Adapter

/-! ## The processes -/

section Processes

/-- The adapter, which process hosts which app, the apps that are to be observed (added, not removed
since, and never without a live process since), and the apps of which a process has ended since
they were added. -/
structure AppState where
  adapter : AppManagerAdapter
  hosts : List (Pid × Uid)
  due : Uid → Bool
  ended : Uid → Bool

/-- No app has been added, some processes are alive, and the observer has been set. -/
def AppState.init (hosts : List (Pid × Uid)) (hasServiceCallback : Bool) : AppState where
  adapter := ⟨∅, hasServiceCallback, true⟩
  hosts := hosts
  due := fun _ => false
  ended := fun _ => false

/-- Some process of the app is alive. -/
def isLive (hosts : List (Pid × Uid)) (uid : Uid) : Bool := hosts.any fun p => p.2 = uid

/-- A process that reports is alive, unless it reports its end. -/
def hostsAfter (hosts : List (Pid × Uid)) (data : AppProcessData) : List (Pid × Uid) :=
  if data.appState = .terminated then hosts.filter fun p => p.1 ≠ data.pid
  else hosts ++ data.appDatas.map fun uid => (data.pid, uid)

inductive AppOp
  | addObservedApp (uid : Uid)
  | removeObservedApp (uid : Uid)
  | appStateChanged (data : AppProcessData)

def AppOp.step (s : AppState) : AppOp → AppState
  | addObservedApp uid =>
    { s with
      adapter := s.adapter.addObservedApp uid
      due := Function.update s.due uid (isLive s.hosts uid)
      ended := Function.update s.ended uid false }
  | removeObservedApp uid =>
    { s with
      adapter := s.adapter.removeObservedApp uid
      due := Function.update s.due uid false }
  | appStateChanged data =>
    { adapter := (s.adapter.handleAppStateChanged data).adapter
      hosts := hostsAfter s.hosts data
      due := fun uid => s.due uid && isLive (hostsAfter s.hosts data) uid
      ended := fun uid =>
        s.ended uid || decide (data.appState = .terminated) && decide (uid ∈ data.appDatas) }

/-- The reports of a process that goes to the background or to the foreground. -/
def Moves (data : AppProcessData) : Prop :=
  data.appState = .background ∨ data.appState = .foreground

/-- When a process goes to the background or to the foreground, the observer is called exactly once
for each of its apps that is to be observed, with the flag of the state. -/
def Notified (s : AppState) : AppOp → Prop
  | .appStateChanged data =>
    Moves data → ∀ uid ∈ data.appDatas, s.due uid = true →
      (s.adapter.handleAppStateChanged data).observerCalls.filter
          (fun c => c.uid = uid ∧ c.pid = data.pid) =
        [⟨uid, data.pid, data.appState = .background⟩]
  | _ => True

/-- No process of such an app has ended since the app was added. -/
def NoneEnded (s : AppState) : AppOp → Prop
  | .appStateChanged data =>
    Moves data → ∀ uid ∈ data.appDatas, s.due uid = true → s.ended uid = false
  | _ => True

end Processes

/-! ## Observation -/

section Observation

variable {a : AppManagerAdapter} {s : AppState} {data : AppProcessData} {uid : Uid}

/-- Removing several uids drops each of them. -/
theorem foldl_removeObservedApp (a : AppManagerAdapter) (uids : List Uid) :
    uids.foldl AppManagerAdapter.removeObservedApp a =
      { a with observedAppUIDs := a.observedAppUIDs \ uids.toFinset } := by
  induction uids generalizing a with
  | nil => simp
  | cons uid uids ih =>
    rw [List.foldl_cons, ih]
    simp only [AppManagerAdapter.removeObservedApp, List.toFinset_cons]
    congr 1
    ext x
    simp only [Finset.mem_sdiff, Finset.mem_erase, Finset.mem_insert]
    tauto

/-- A report erases the apps of a process that has ended. -/
theorem mem_observed_handle :
    uid ∈ (a.handleAppStateChanged data).adapter.observedAppUIDs ↔
      uid ∈ a.observedAppUIDs ∧ ¬ (data.appState = .terminated ∧ uid ∈ data.appDatas) := by
  rw [AppManagerAdapter.handleAppStateChanged]
  dsimp only
  by_cases h : data.appState = .terminated
  · rw [if_pos h, foldl_removeObservedApp]
    simp [h]
  · rw [if_neg h]
    simp [h]

/-- The observer is called once for an observed app of the process, and not for others. -/
theorem observerCalls_of_moves (hset : a.hasAppStateChangeObserver = true) (hmoves : Moves data)
    (huid : uid ∈ data.appDatas) :
    (a.handleAppStateChanged data).observerCalls.filter
        (fun c => c.uid = uid ∧ c.pid = data.pid) =
      if uid ∈ a.observedAppUIDs then [⟨uid, data.pid, data.appState = .background⟩] else [] := by
  have hstays : data.appState ≠ .terminated := by
    rcases hmoves with h | h <;> simp [h]
  rw [AppManagerAdapter.handleAppStateChanged]
  dsimp only
  rw [if_neg hstays, if_pos hset, AppManagerAdapter.appNeedHandleMap, List.map_map,
    List.filter_map]
  set l := ((data.appDatas.filter fun uid => uid ∈ a.observedAppUIDs).dedup.mergeSort) with hl
  have hperm := List.mergeSort_perm (data.appDatas.filter fun uid => uid ∈ a.observedAppUIDs).dedup
    (fun a b => decide (a ≤ b))
  have hnodup : l.Nodup := hperm.nodup_iff.mpr (List.nodup_dedup _)
  have hmem : uid ∈ l ↔ uid ∈ a.observedAppUIDs := by
    rw [hl, hperm.mem_iff, List.mem_dedup, List.mem_filter]
    simp [huid]
  have hone : l.filter (fun x => x = uid) = if uid ∈ a.observedAppUIDs then [uid] else [] := by
    rw [List.filter_eq]
    by_cases h : uid ∈ a.observedAppUIDs
    · rw [if_pos h, List.count_eq_one_of_mem hnodup (hmem.mpr h)]
      rfl
    · rw [if_neg h, List.count_eq_zero_of_not_mem (fun hin => h (hmem.mp hin))]
      rfl
  rw [List.filter_congr (q := fun x => decide (x = uid)) fun x _ => by simp, hone]
  split_ifs
  · rfl
  · rfl

/-! ## Whole runs -/

/-- An app that is to be observed is observed as long as none of its processes has ended. -/
def ObservedInv (s : AppState) : Prop :=
  s.adapter.hasAppStateChangeObserver = true ∧
    ∀ uid, s.due uid = true → (uid ∈ s.adapter.observedAppUIDs ↔ s.ended uid = false)

/-- A new uid keeps the invariant. -/
theorem ObservedInv.addObservedApp (h : ObservedInv s) (uid : Uid) :
    ObservedInv ((AppOp.addObservedApp uid).step s) := by
  refine ⟨h.1, fun x hx => ?_⟩
  show x ∈ insert uid s.adapter.observedAppUIDs ↔ Function.update s.ended uid false x = false
  change Function.update s.due uid (isLive s.hosts uid) x = true at hx
  rw [Finset.mem_insert]
  by_cases hxu : x = uid
  · subst hxu
    simp
  · rw [Function.update_of_ne hxu] at hx ⊢
    simp [hxu, h.2 x hx]

/-- A dropped uid keeps the invariant. -/
theorem ObservedInv.removeObservedApp (h : ObservedInv s) (uid : Uid) :
    ObservedInv ((AppOp.removeObservedApp uid).step s) := by
  refine ⟨h.1, fun x hx => ?_⟩
  show x ∈ s.adapter.observedAppUIDs.erase uid ↔ s.ended x = false
  change Function.update s.due uid false x = true at hx
  by_cases hxu : x = uid
  · subst hxu
    simp at hx
  · rw [Function.update_of_ne hxu] at hx
    simp [hxu, h.2 x hx]

/-- A change of state keeps the invariant. -/
theorem ObservedInv.appStateChanged (h : ObservedInv s) (data : AppProcessData) :
    ObservedInv ((AppOp.appStateChanged data).step s) := by
  refine ⟨?_, fun x hx => ?_⟩
  · show (s.adapter.handleAppStateChanged data).adapter.hasAppStateChangeObserver = true
    rw [AppManagerAdapter.handleAppStateChanged]
    dsimp only
    split_ifs
    · rw [foldl_removeObservedApp]
      exact h.1
    · exact h.1
  · have hdue : s.due x = true := (Bool.and_eq_true_iff.mp hx).1
    have hmem := h.2 x hdue
    show x ∈ (s.adapter.handleAppStateChanged data).adapter.observedAppUIDs ↔
      (s.ended x || decide (data.appState = .terminated) && decide (x ∈ data.appDatas)) = false
    rw [mem_observed_handle, hmem]
    simp

/-- Every operation keeps the invariant. -/
theorem ObservedInv.step (h : ObservedInv s) (op : AppOp) : ObservedInv (op.step s) := by
  cases op with
  | addObservedApp uid => exact h.addObservedApp uid
  | removeObservedApp uid => exact h.removeObservedApp uid
  | appStateChanged data => exact h.appStateChanged data

/-- A report is told of exactly if no process of the apps concerned has ended. -/
theorem ObservedInv.notified_iff_noneEnded (h : ObservedInv s) (op : AppOp) :
    Notified s op ↔ NoneEnded s op := by
  cases op with
  | addObservedApp uid => exact Iff.rfl
  | removeObservedApp uid => exact Iff.rfl
  | appStateChanged data =>
    apply forall_congr'
    intro hmoves
    apply forall₂_congr
    intro uid huid
    apply forall_congr'
    intro hdue
    rw [observerCalls_of_moves h.1 hmoves huid, ← h.2 uid hdue]
    by_cases hobserved : uid ∈ s.adapter.observedAppUIDs
    · simp [hobserved]
    · simp [hobserved]

/-- **Observation.** The observer is told of every app that is to be observed, exactly if no process
of such an app has ended since the app was added. -/
theorem notified_iff (hosts : List (Pid × Uid)) (hasServiceCallback : Bool) (ops : List AppOp) :
    Meets AppOp.step Notified (.init hosts hasServiceCallback) ops ↔
      Meets AppOp.step NoneEnded (.init hosts hasServiceCallback) ops := by
  apply meets_congr_of_inv (fun s op h => ObservedInv.step h op)
    (fun s op h => ObservedInv.notified_iff_noneEnded h op)
  exact ⟨rfl, fun uid hdue => absurd hdue Bool.false_ne_true⟩

/-- Two processes of an app are alive, one of them ends, and the other goes to the background: the
observer is not called. -/
theorem not_notified_after_end :
    ¬ Meets AppOp.step Notified (.init [(1000, 20010001), (1001, 20010001)] true)
      [.addObservedApp 20010001,
        .appStateChanged ⟨.terminated, 1000, [20010001]⟩,
        .appStateChanged ⟨.background, 1001, [20010001]⟩] := by
  rintro ⟨-, -, hmoves, -⟩
  have hcalls := hmoves (Or.inl rfl) 20010001 List.mem_cons_self (by decide)
  rw [observerCalls_of_moves rfl (Or.inl rfl) List.mem_cons_self] at hcalls
  exact absurd hcalls (by decide)

end Observation

end AvSession.Background
