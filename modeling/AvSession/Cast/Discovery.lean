import AvSession.Item
import AvSession.Lib.Run
import Mathlib.Data.Finset.Basic

/-!
# Discovery of cast devices

Clients start and stop the discovery of devices. The provider that discovers comes and goes: it is
initialised, released, and lost when the cast engine dies. The router keeps the set of the pids that
have started, and a flag that a new provider is to begin at once.

* `DiscoveryRouter`, `startCastDiscovery`, `stopCastDiscovery`, `init`, `release`,
  `onCastServerDied` — the router and what happens to it.
* `DiscoveryRun` — the router next to the clients that use the discovery.
* `Follows` — the provider discovers what was requested last exactly while there are users.
* `follows_iff` — exactly the runs in which it does.
-/

namespace AvSession.Cast

open AvSession.Lib

/-! ## The router -/

section router

/-- What is to be discovered. -/
structure DiscoveryRequest where
  castDeviceCapability : ℤ
  drmSchemes : List String
deriving DecidableEq

/-- A provider. It is discovering if its last `StartDiscovery` is later than its last
`StopDiscovery`. Source: hw_cast_provider.h, HwCastProvider. -/
structure CastProvider where
  discovering : Option DiscoveryRequest
deriving DecidableEq

/-- Of `providerManagerMap_` only the entry of `providerNumberEnableDefault_` is ever set.
Source: avrouter_impl.h, AVRouterImpl. -/
structure DiscoveryRouter where
  /-- Whether `deviceType_` is DEVICE_TYPE_PHONE. -/
  isPhone : Bool
  /-- Whether `servicePtr_` is there. -/
  servicePtr : Bool
  providerManagerMap : Option CastProvider
  /-- Whether `hwProvider_` is there. -/
  hwProvider : Bool
  cacheStartDiscovery : Bool
  /-- `cacheCastDeviceCapability_` and `cacheDrmSchemes_`. -/
  cacheRequest : DiscoveryRequest
  cacheStartDiscoveryPids : Finset Pid
deriving DecidableEq

/-- The request before there is one. -/
def DiscoveryRequest.init : DiscoveryRequest := ⟨-1, []⟩

namespace DiscoveryRouter

variable (r : DiscoveryRouter)

/-- The router when the service starts. -/
def start : DiscoveryRouter := ⟨false, false, none, false, false, .init, ∅⟩

/-- Source: avrouter_impl.cpp, AVRouterImpl::StartCastDiscovery. -/
def startCastDiscovery (pid : Pid) (request : DiscoveryRequest) : DiscoveryRouter :=
  let r := { r with
    cacheStartDiscoveryPids := insert pid r.cacheStartDiscoveryPids
    cacheRequest := request }
  match r.providerManagerMap with
  | none => { r with cacheStartDiscovery := true }
  | some _ => { r with providerManagerMap := some ⟨some request⟩ }

/-- Source: avrouter_impl.cpp, AVRouterImpl::IsStopCastDiscovery. -/
def isStopCastDiscovery (pid : Pid) : DiscoveryRouter × Bool :=
  if pid ∈ r.cacheStartDiscoveryPids then
    let r := { r with cacheStartDiscoveryPids := r.cacheStartDiscoveryPids.erase pid }
    (r, r.cacheStartDiscoveryPids = ∅)
  else (r, false)

/-- Source: avrouter_impl.cpp, AVRouterImpl::StopCastDiscovery. -/
def stopCastDiscovery (pid : Pid) : DiscoveryRouter :=
  match r.isStopCastDiscovery pid with
  | (r, false) => r
  | (r, true) =>
      { r with
        cacheStartDiscovery := false
        providerManagerMap := r.providerManagerMap.map fun _ => ⟨none⟩ }

/-- `pid` is that of the caller, and `initialised` says whether the provider could be initialised.
Source: avrouter_impl.cpp, AVRouterImpl::Init. -/
def init (pid : Pid) (isPhone initialised : Bool) : DiscoveryRouter :=
  let r := { r with isPhone, servicePtr := true }
  if initialised then
    let r := { r with hwProvider := true, providerManagerMap := some ⟨none⟩ }
    if r.cacheStartDiscovery then
      { r.startCastDiscovery pid r.cacheRequest with cacheStartDiscovery := false }
    else r
  else r

/-- Source: avrouter_impl.cpp, AVRouterImpl::Release. -/
def release : DiscoveryRouter :=
  if r.hwProvider then { r with hwProvider := false, providerManagerMap := none } else r

/-- `pid` is that of the thread that is told. That the service then enables the cast again is
another operation. Source: avrouter_impl.cpp, AVRouterImpl::OnCastServerDied. -/
def onCastServerDied (pid : Pid) : DiscoveryRouter :=
  if r.servicePtr then
    let r := { r with providerManagerMap := none }
    if r.isPhone then r.startCastDiscovery pid r.cacheRequest else r
  else r

end DiscoveryRouter

end router

/-! ## Runs -/

section runs

/-- What can happen. -/
inductive DiscoveryOp
  | startCastDiscovery (pid : Pid) (request : DiscoveryRequest)
  | stopCastDiscovery (pid : Pid)
  | init (pid : Pid) (isPhone initialised : Bool)
  | release
  | onCastServerDied (pid : Pid)

/-- The router, the clients that have started and not stopped, and what was requested last. -/
structure DiscoveryRun where
  router : DiscoveryRouter
  users : Finset Pid
  latest : DiscoveryRequest

/-- When the service starts. -/
def DiscoveryRun.start : DiscoveryRun := ⟨.start, ∅, .init⟩

/-- One step. -/
def DiscoveryRun.step (s : DiscoveryRun) : DiscoveryOp → DiscoveryRun
  | .startCastDiscovery pid request =>
      ⟨s.router.startCastDiscovery pid request, insert pid s.users, request⟩
  | .stopCastDiscovery pid => ⟨s.router.stopCastDiscovery pid, s.users.erase pid, s.latest⟩
  | .init pid isPhone initialised =>
      ⟨s.router.init pid isPhone initialised, s.users, s.latest⟩
  | .release => ⟨s.router.release, s.users, s.latest⟩
  | .onCastServerDied pid => ⟨s.router.onCastServerDied pid, s.users, s.latest⟩

/-- What a provider is to discover. -/
def DiscoveryRun.wanted (s : DiscoveryRun) : Option DiscoveryRequest :=
  if s.users.Nonempty then some s.latest else none

/-- A provider that is initialised discovers what was requested last while there are users, and
nothing else. -/
def Follows (s : DiscoveryRun) : Prop :=
  ∀ p, s.router.providerManagerMap = some p → p.discovering = s.wanted

/-- The condition: when the last user stops, no other pid is in the set; and when a provider is
initialised, the flag says whether there are users. -/
def DiscoveryOk (s : DiscoveryRun) : DiscoveryOp → Prop
  | .stopCastDiscovery pid =>
      s.router.providerManagerMap ≠ none → s.users = {pid} →
        s.router.cacheStartDiscoveryPids = {pid}
  | .init _ _ initialised =>
      initialised = true → (s.router.cacheStartDiscovery = true ↔ s.users.Nonempty)
  | .startCastDiscovery _ _ | .release | .onCastServerDied _ => True

/-- The users are in the set, and the last request is remembered. -/
structure Known (s : DiscoveryRun) : Prop where
  users : s.users ⊆ s.router.cacheStartDiscoveryPids
  latest : s.router.cacheRequest = s.latest

variable {s : DiscoveryRun}

/-- What a start does to the set and to the request. -/
theorem startCastDiscovery_spec (r : DiscoveryRouter) (pid : Pid) (request : DiscoveryRequest) :
    (r.startCastDiscovery pid request).cacheStartDiscoveryPids =
        insert pid r.cacheStartDiscoveryPids ∧
      (r.startCastDiscovery pid request).cacheRequest = request ∧
      (r.startCastDiscovery pid request).providerManagerMap =
        r.providerManagerMap.map fun _ => ⟨some request⟩ := by
  unfold DiscoveryRouter.startCastDiscovery
  cases r.providerManagerMap with
  | none => exact ⟨rfl, rfl, rfl⟩
  | some p => exact ⟨rfl, rfl, rfl⟩

/-- What a stop does. -/
theorem stopCastDiscovery_spec (r : DiscoveryRouter) (pid : Pid) :
    (r.stopCastDiscovery pid).cacheStartDiscoveryPids = r.cacheStartDiscoveryPids.erase pid ∧
      (r.stopCastDiscovery pid).cacheRequest = r.cacheRequest ∧
      (r.stopCastDiscovery pid).providerManagerMap =
        if r.cacheStartDiscoveryPids = {pid} then r.providerManagerMap.map fun _ => ⟨none⟩
        else r.providerManagerMap := by
  unfold DiscoveryRouter.stopCastDiscovery DiscoveryRouter.isStopCastDiscovery
  by_cases hpid : pid ∈ r.cacheStartDiscoveryPids
  · rw [if_pos hpid]
    have hempty : r.cacheStartDiscoveryPids.erase pid = ∅ ↔ r.cacheStartDiscoveryPids = {pid} := by
      rw [Finset.erase_eq_empty_iff]
      exact or_iff_right (Finset.ne_empty_of_mem hpid)
    by_cases hlast : r.cacheStartDiscoveryPids = {pid}
    · simp only [hempty.mpr hlast, if_pos hlast, decide_true, and_self]
    · simp only [hempty, hlast, if_false, decide_false, and_self]
  · have hlast : r.cacheStartDiscoveryPids ≠ {pid} := by
      intro hlast
      rw [hlast] at hpid
      exact hpid (Finset.mem_singleton_self pid)
    rw [if_neg hpid, if_neg hlast]
    exact ⟨(Finset.erase_eq_of_notMem hpid).symm, rfl, rfl⟩

/-- What an initialisation does. -/
theorem init_spec (r : DiscoveryRouter) (pid : Pid) (isPhone initialised : Bool) :
    r.cacheStartDiscoveryPids ⊆ (r.init pid isPhone initialised).cacheStartDiscoveryPids ∧
      (r.init pid isPhone initialised).cacheRequest = r.cacheRequest ∧
      (r.init pid isPhone initialised).providerManagerMap =
        if initialised then
          some ⟨if r.cacheStartDiscovery then some r.cacheRequest else none⟩
        else r.providerManagerMap := by
  unfold DiscoveryRouter.init
  cases initialised with
  | false => exact ⟨Finset.Subset.refl _, rfl, rfl⟩
  | true =>
      cases hcache : r.cacheStartDiscovery with
      | false => exact ⟨Finset.Subset.refl _, rfl, rfl⟩
      | true => exact ⟨Finset.subset_insert pid _, rfl, rfl⟩

/-- What the death of the engine does. -/
theorem onCastServerDied_spec (r : DiscoveryRouter) (pid : Pid) :
    r.cacheStartDiscoveryPids ⊆ (r.onCastServerDied pid).cacheStartDiscoveryPids ∧
      (r.onCastServerDied pid).cacheRequest = r.cacheRequest ∧
      ((r.onCastServerDied pid).providerManagerMap = none ∨
        (r.onCastServerDied pid).providerManagerMap = r.providerManagerMap) := by
  unfold DiscoveryRouter.onCastServerDied
  dsimp only
  split_ifs
  · exact ⟨Finset.subset_insert pid _, rfl, .inl rfl⟩
  · exact ⟨Finset.Subset.refl _, rfl, .inl rfl⟩
  · exact ⟨Finset.Subset.refl _, rfl, .inr rfl⟩

/-- A release keeps the waiting requests, and the providers too or none of them. -/
theorem release_spec (r : DiscoveryRouter) :
    r.release.cacheStartDiscoveryPids = r.cacheStartDiscoveryPids ∧
      r.release.cacheRequest = r.cacheRequest ∧
      (r.release.providerManagerMap = none ∨
        r.release.providerManagerMap = r.providerManagerMap) := by
  unfold DiscoveryRouter.release
  split_ifs
  · exact ⟨rfl, rfl, .inl rfl⟩
  · exact ⟨rfl, rfl, .inr rfl⟩

/-- Every operation keeps what is known. -/
theorem Known.step (h : Known s) (op : DiscoveryOp) : Known (s.step op) := by
  cases op with
  | startCastDiscovery pid request =>
      obtain ⟨hpids, hrequest, -⟩ := startCastDiscovery_spec s.router pid request
      refine ⟨?_, hrequest⟩
      show insert pid s.users ⊆ (s.router.startCastDiscovery pid request).cacheStartDiscoveryPids
      rw [hpids]
      exact Finset.insert_subset_insert pid h.users
  | stopCastDiscovery pid =>
      obtain ⟨hpids, hrequest, -⟩ := stopCastDiscovery_spec s.router pid
      refine ⟨?_, hrequest.trans h.latest⟩
      show s.users.erase pid ⊆ (s.router.stopCastDiscovery pid).cacheStartDiscoveryPids
      rw [hpids]
      exact Finset.erase_subset_erase pid h.users
  | init pid isPhone initialised =>
      obtain ⟨hpids, hrequest, -⟩ := init_spec s.router pid isPhone initialised
      exact ⟨h.users.trans hpids, hrequest.trans h.latest⟩
  | release =>
      obtain ⟨hpids, hrequest, -⟩ := release_spec s.router
      exact ⟨h.users.trans hpids.ge, hrequest.trans h.latest⟩
  | onCastServerDied pid =>
      obtain ⟨hpids, hrequest, -⟩ := onCastServerDied_spec s.router pid
      exact ⟨h.users.trans hpids, hrequest.trans h.latest⟩

/-- A provider that goes or stays follows on. -/
theorem Follows.of_gone {r : DiscoveryRouter} (h : Follows s)
    (hgone : r.providerManagerMap = none ∨ r.providerManagerMap = s.router.providerManagerMap) :
    Follows ⟨r, s.users, s.latest⟩ := by
  intro p hp
  rcases hgone with hnone | hsame
  · exact absurd (hnone.symm.trans hp) (Option.some_ne_none p).symm
  · exact h p (hsame.symm.trans hp)

/-- A stop keeps to it exactly if, with the last user, the last pid goes. -/
theorem Follows.stop_iff (h : Follows s) (hknown : Known s) (pid : Pid) :
    Follows (s.step (.stopCastDiscovery pid)) ↔ DiscoveryOk s (.stopCastDiscovery pid) := by
  obtain ⟨-, -, hprovider⟩ := stopCastDiscovery_spec s.router pid
  show (∀ p, (s.router.stopCastDiscovery pid).providerManagerMap = some p →
    p.discovering = if (s.users.erase pid).Nonempty then some s.latest else none) ↔
    (s.router.providerManagerMap ≠ none → s.users = {pid} → _)
  rw [hprovider]
  have herase : s.users.erase pid = ∅ ↔ s.users = ∅ ∨ s.users = {pid} :=
    Finset.erase_eq_empty_iff s.users pid
  cases hp : s.router.providerManagerMap with
  | none =>
      refine iff_of_true (fun p hnone => ?_) fun hne => absurd rfl hne
      rw [Option.map_none, ite_self] at hnone
      cases hnone
  | some p =>
      have hdiscovering : p.discovering = s.wanted := h p hp
      unfold DiscoveryRun.wanted at hdiscovering
      by_cases hlast : s.router.cacheStartDiscoveryPids = {pid}
      · have hempty : s.users.erase pid = ∅ :=
          herase.mpr (Finset.subset_singleton_iff.mp (hlast ▸ hknown.users))
        rw [if_pos hlast, hempty, if_neg Finset.not_nonempty_empty]
        refine iff_of_true (fun q hq => ?_) fun _ _ => hlast
        obtain rfl := Option.some.inj hq
        rfl
      rw [if_neg hlast]
      by_cases husers : s.users = {pid}
      · rw [herase.mpr (.inr husers), if_neg Finset.not_nonempty_empty]
        refine iff_of_false (fun hnone => ?_) fun hall => hlast (hall nofun husers)
        rw [husers, if_pos (Finset.singleton_nonempty pid), hnone p rfl] at hdiscovering
        cases hdiscovering
      · have hnonempty : (s.users.erase pid).Nonempty ↔ s.users.Nonempty := by
          rw [Finset.nonempty_iff_ne_empty, Finset.nonempty_iff_ne_empty, Ne, herase]
          exact not_congr (or_iff_left husers)
        refine iff_of_true (fun q hq => ?_) fun _ hone => absurd hone husers
        obtain rfl := Option.some.inj hq
        simp only [hnonempty]
        exact hdiscovering

/-- An initialisation keeps to it exactly if the flag says whether there are users. -/
theorem Follows.init_iff (h : Follows s) (hknown : Known s) (pid : Pid)
    (isPhone initialised : Bool) :
    Follows (s.step (.init pid isPhone initialised)) ↔
      DiscoveryOk s (.init pid isPhone initialised) := by
  obtain ⟨-, -, hprovider⟩ := init_spec s.router pid isPhone initialised
  show (∀ p, (s.router.init pid isPhone initialised).providerManagerMap = some p →
    p.discovering = s.wanted) ↔ (initialised = true → (_ ↔ s.users.Nonempty))
  rw [hprovider, hknown.latest]
  cases initialised with
  | false => exact iff_of_true h nofun
  | true =>
      have hvalue : (∀ p : CastProvider,
          some ⟨if s.router.cacheStartDiscovery then some s.latest else none⟩ = some p →
            p.discovering = s.wanted) ↔
          (if s.router.cacheStartDiscovery then some s.latest else none) = s.wanted :=
        ⟨fun hall => hall _ rfl, fun heq p hp => Option.some.inj hp ▸ heq⟩
      rw [if_pos rfl, hvalue, forall_prop_of_true rfl]
      unfold DiscoveryRun.wanted
      by_cases husers : s.users.Nonempty
      · rw [if_pos husers, iff_true_right husers]
        cases s.router.cacheStartDiscovery with
        | false => exact iff_of_false nofun nofun
        | true => exact iff_of_true rfl rfl
      · rw [if_neg husers, iff_false_right husers]
        cases s.router.cacheStartDiscovery with
        | false => exact iff_of_true rfl nofun
        | true => exact iff_of_false nofun fun hne => hne rfl

/-- **Discovery follows its users.** In every run of starts and stops by any processes, of
initialisations, releases and deaths of the engine: a provider that is initialised discovers what
was requested last while there are users, and nothing else, exactly if each step meets the
condition. -/
theorem follows_iff (ops : List DiscoveryOp) :
    Always DiscoveryRun.step Follows .start ops ↔
      Meets DiscoveryRun.step DiscoveryOk .start ops := by
  refine always_iff_meets_of_inv (I := Known) (fun s op h => h.step op) ?_ ops
    ⟨Finset.Subset.refl _, rfl⟩ nofun
  intro s op hknown h
  cases op with
  | startCastDiscovery pid request =>
      obtain ⟨-, -, hprovider⟩ := startCastDiscovery_spec s.router pid request
      refine iff_of_true (fun p hp => ?_) trivial
      have hp' := hprovider.symm.trans hp
      obtain ⟨q, -, rfl⟩ := Option.map_eq_some_iff.mp hp'
      exact (if_pos (Finset.insert_nonempty pid s.users)).symm
  | stopCastDiscovery pid => exact h.stop_iff hknown pid
  | init pid isPhone initialised => exact h.init_iff hknown pid isPhone initialised
  | release => exact iff_of_true (h.of_gone (release_spec s.router).2.2) trivial
  | onCastServerDied pid =>
      exact iff_of_true (h.of_gone (onCastServerDied_spec s.router pid).2.2) trivial

/-- The only client stops, but the process that had initialised the provider stays in the set; and
a provider that is initialised again after a release does not discover for the client that is
there. -/
theorem initialiser_stays_and_released_forgotten :
    ¬ Follows (run DiscoveryRun.step .start
        [.startCastDiscovery 7 ⟨1, []⟩, .init 100 true true, .stopCastDiscovery 7]) ∧
      ¬ Follows (run DiscoveryRun.step .start
        [.init 100 true true, .startCastDiscovery 7 ⟨1, []⟩, .release, .init 100 true true]) := by
  constructor
  · intro h
    exact absurd (h ⟨some ⟨1, []⟩⟩ (by decide)) (by decide)
  · intro h
    exact absurd (h ⟨none⟩ (by decide)) (by decide)

end runs

end AvSession.Cast
