import AvSession.Softbus.Proxies

/-!
# The references of the migrate manager

`MigrateAVSessionManager` keeps a stub or a proxy for each scene, and counts both in `refs_`. The
session server of the data manager is initialised with the first stub and destroyed with the last
reference.

* `MigrateAVSessionManager` — the two maps, the counter and the data manager.
* `Disciplined` — the counter is the number of stubs and proxies, the session server is there while
  a stub is, and it is gone when both maps are empty.
* `disciplined_iff` — the runs along which this holds. A stub that is created after a proxy finds
  the server not initialised, and a proxy turns the side over, so that the last reference does not
  close the server socket.
-/

namespace AvSession.Softbus

open AvSession.Lib

/-! ## Data -/

section data

/-- Source: migrate_avsession_manager.h, `migrateSceneNext` -/
def migrateSceneNext : String := "MigrateWithNext"

/-- Source: migrate_avsession_manager.h, `migrateSceneSuperLauncher` -/
def migrateSceneSuperLauncher : String := "SuperLauncher"

/-- The package of the server socket. -/
def migratePackage : String := "AVSession"

/-- The scenes that are migrated. -/
def IsMigrateScene (scene : String) : Prop :=
  migrateSceneSuperLauncher.toList <+: scene.toList ∨ migrateSceneNext = scene

instance (scene : String) : Decidable (IsMigrateScene scene) :=
  inferInstanceAs (Decidable (_ ∨ _))

/-- The members of the manager, and next to them whether `InitSessionServer` was called after the
last `DestroySessionServer`.
Source: migrate_avsession_manager.h, `MigrateAVSessionManager` -/
structure MigrateAVSessionManager where
  serverMap : AList fun _ : String => Option SessionRef
  proxyMap : AList fun _ : String => SessionRef
  refs : ℤ
  softBusDistributedDataMgr : DataManager
  initialised : Bool

/-- The manager of a process that has just started. -/
def MigrateAVSessionManager.initial : MigrateAVSessionManager := ⟨∅, ∅, 0, .initial, false⟩

end data

/-! ## Operations -/

section operations

variable (characteristic : SessionRef → Characteristic) (s : MigrateAVSessionManager)

/-- Source: `MigrateAVSessionManager::IncSoftBusRef` -/
def incSoftBusRef (result : Socket) : MigrateAVSessionManager :=
  let s :=
    if s.refs = 0 then
      { s with
        softBusDistributedDataMgr :=
          initSessionServer s.softBusDistributedDataMgr migratePackage result
        initialised := true }
    else s
  { s with refs := s.refs + 1 }

/-- Source: `MigrateAVSessionManager::DecSoftBusRef` -/
def decSoftBusRef : MigrateAVSessionManager :=
  let s := { s with refs := s.refs - 1 }
  if s.refs ≤ 0 then
    { s with
      softBusDistributedDataMgr :=
        destroySessionServer s.softBusDistributedDataMgr characteristic migratePackage
      initialised := false
      refs := 0 }
  else s

/-- Source: `MigrateAVSessionManager::CreateLocalSessionStub` -/
def createLocalSessionStub (scene : String) (server : Option SessionRef) (result : Socket) :
    MigrateAVSessionManager :=
  if ¬ IsMigrateScene scene then s
  else if scene ∈ s.serverMap then s
  else
    let s := incSoftBusRef s result
    { s with
      softBusDistributedDataMgr := createServer s.softBusDistributedDataMgr characteristic server
      serverMap := s.serverMap.insert scene server }

/-- Source: `MigrateAVSessionManager::ReleaseLocalSessionStub` -/
def releaseLocalSessionStub (scene : String) : MigrateAVSessionManager :=
  if ¬ IsMigrateScene scene then s
  else
    match s.serverMap.lookup scene with
    | none => s
    | some server =>
        let s := decSoftBusRef characteristic
          { s with
            softBusDistributedDataMgr :=
              releaseServer s.softBusDistributedDataMgr characteristic server }
        { s with serverMap := s.serverMap.erase scene }

/-- What `CreateProxy` returns is not looked at.
Source: `MigrateAVSessionManager::CreateRemoteSessionProxy` -/
def createRemoteSessionProxy (networkId : NetworkId) (scene : String) (proxy : Option SessionRef)
    (results : List Socket) : MigrateAVSessionManager :=
  match proxy with
  | none => s
  | some r =>
      if networkId = "" then s
      else if ¬ IsMigrateScene scene then s
      else if scene ∈ s.proxyMap then s
      else
        { s with
          refs := s.refs + 1
          softBusDistributedDataMgr :=
            (createProxy s.softBusDistributedDataMgr characteristic (some r) networkId
              migratePackage results).1
          proxyMap := s.proxyMap.insert scene r }

/-- Source: `MigrateAVSessionManager::ReleaseRemoteSessionProxy` -/
def releaseRemoteSessionProxy (networkId : NetworkId) (scene : String) : MigrateAVSessionManager :=
  if networkId = "" then s
  else if ¬ IsMigrateScene scene then s
  else
    match s.proxyMap.lookup scene with
    | none => s
    | some r =>
        let s := decSoftBusRef characteristic
          { s with
            softBusDistributedDataMgr :=
              (releaseProxy s.softBusDistributedDataMgr characteristic (some r) networkId).1 }
        { s with proxyMap := s.proxyMap.erase scene }

/-- A call of the manager, with what Softbus answers. -/
inductive RefOp
  | createLocalSessionStub (scene : String) (server : Option SessionRef) (result : Socket)
  | releaseLocalSessionStub (scene : String)
  | createRemoteSessionProxy (networkId : NetworkId) (scene : String) (proxy : Option SessionRef)
      (results : List Socket)
  | releaseRemoteSessionProxy (networkId : NetworkId) (scene : String)

/-- One call. -/
def refStep : RefOp → MigrateAVSessionManager
  | .createLocalSessionStub scene server result =>
      createLocalSessionStub characteristic s scene server result
  | .releaseLocalSessionStub scene => releaseLocalSessionStub characteristic s scene
  | .createRemoteSessionProxy networkId scene proxy results =>
      createRemoteSessionProxy characteristic s networkId scene proxy results
  | .releaseRemoteSessionProxy networkId scene =>
      releaseRemoteSessionProxy characteristic s networkId scene

/-- What the counter promises. -/
structure Disciplined : Prop where
  refs_eq : s.refs = s.serverMap.keys.length + s.proxyMap.keys.length
  initialised : s.serverMap.keys ≠ [] → s.initialised = true
  destroyed : s.serverMap.keys = [] → s.proxyMap.keys = [] →
    s.initialised = false ∧ s.softBusDistributedDataMgr.listening = []

/-- The server socket is closed when the server is destroyed now. -/
def ClosesServer (m : DataManager) : Prop := m.isServer = true ∨ m.listening = []

/-- The condition on a call: a stub is not created next to proxies alone, unless the server is still
initialised, and the last reference is given back while the server socket would be closed. -/
def KeepsRefs : RefOp → Prop
  | .createLocalSessionStub scene _ _ =>
      IsMigrateScene scene → scene ∉ s.serverMap → s.refs ≠ 0 → s.initialised = true
  | .releaseLocalSessionStub scene =>
      IsMigrateScene scene → scene ∈ s.serverMap → s.refs = 1 →
        ClosesServer s.softBusDistributedDataMgr
  | .createRemoteSessionProxy _ _ _ _ => True
  | .releaseRemoteSessionProxy networkId scene =>
      networkId ≠ "" → IsMigrateScene scene → scene ∈ s.proxyMap → s.refs = 1 →
        ClosesServer s.softBusDistributedDataMgr

end operations

/-! ## The sockets of the data manager -/

section sockets

variable (characteristic : SessionRef → Characteristic) {m m' m'' : DataManager} {r : SessionRef}
  {socket : Socket} {d : NetworkId}

/-- Nothing happened to the sockets. -/
structure SameSockets (m m' : DataManager) : Prop where
  openSockets : m'.openSockets = m.openSockets
  listening : m'.listening = m.listening
  mServerSocketMap : m'.mServerSocketMap = m.mServerSocketMap
  mProxySocketMap : m'.mProxySocketMap = m.mProxySocketMap
  isServer : m'.isServer = m.isServer
  socketNameCache : m'.socketNameCache = m.socketNameCache

/-- Nothing done leaves the sockets. -/
theorem SameSockets.refl (m : DataManager) : SameSockets m m := ⟨rfl, rfl, rfl, rfl, rfl, rfl⟩

/-- Two calls that leave the sockets leave them together. -/
theorem SameSockets.trans (h : SameSockets m m') (h' : SameSockets m' m'') : SameSockets m m'' :=
  ⟨h'.openSockets.trans h.openSockets, h'.listening.trans h.listening,
    h'.mServerSocketMap.trans h.mServerSocketMap, h'.mProxySocketMap.trans h.mProxySocketMap,
    h'.isServer.trans h.isServer, h'.socketNameCache.trans h.socketNameCache⟩

/-- A fold of calls that leave the sockets alone. -/
theorem sameSockets_foldl {ε : Type} (call : DataManager → ε → DataManager)
    (hcall : ∀ m e, SameSockets m (call m e)) (l : List ε) (m : DataManager) :
    SameSockets m (l.foldl call m) := by
  induction l generalizing m with
  | nil => exact .refl m
  | cons e l ih => exact (hcall m e).trans (ih (call m e))

/-- Connecting the proxies leaves the sockets. -/
theorem sameSockets_connectServers (m : DataManager) (proxyMap : ProxyMap) (socket : Socket) :
    SameSockets m (connectServers m proxyMap socket) := by
  unfold connectServers
  apply sameSockets_foldl
  intro m e
  exact ⟨rfl, rfl, rfl, rfl, rfl, rfl⟩

/-- Disconnecting the proxies leaves the sockets. -/
theorem sameSockets_disconnectServers (m : DataManager) (proxyMap : ProxyMap) (socket : Socket) :
    SameSockets m (disconnectServers m proxyMap socket) := by
  unfold disconnectServers
  apply sameSockets_foldl
  intro m e
  exact ⟨rfl, rfl, rfl, rfl, rfl, rfl⟩

/-- Registering a server leaves the sockets. -/
theorem sameSockets_createServer (m : DataManager) (server : Option SessionRef) :
    SameSockets m (createServer m characteristic server) := by
  unfold createServer
  cases server with
  | none => exact .refl m
  | some r =>
      dsimp only
      split_ifs
      · exact .refl m
      · exact ⟨rfl, rfl, rfl, rfl, rfl, rfl⟩

/-- Releasing a server leaves the sockets. -/
theorem sameSockets_releaseServer (m : DataManager) (server : Option SessionRef) :
    SameSockets m (releaseServer m characteristic server) := by
  unfold releaseServer
  cases server with
  | none => exact .refl m
  | some r =>
      dsimp only
      split_ifs
      · exact ⟨rfl, rfl, rfl, rfl, rfl, rfl⟩
      · exact .refl m

/-- Telling the proxies of a closed socket leaves the sockets. -/
theorem sameSockets_onSessionProxyClosed (m : DataManager) (socket : Socket) :
    SameSockets m (onSessionProxyClosed m socket) := by
  unfold onSessionProxyClosed
  cases obtainPeerDeviceId m.sessions socket with
  | none => exact .refl m
  | some networkId =>
      dsimp only
      cases m.mDeviceToProxyMap.lookup networkId with
      | none => exact .refl m
      | some proxyMap =>
          dsimp only
          split_ifs
          · exact .refl m
          · have h := sameSockets_disconnectServers m proxyMap socket
            exact ⟨h.openSockets, h.listening, h.mServerSocketMap, h.mProxySocketMap, h.isServer,
              h.socketNameCache⟩

/-- The sockets filed under devices are open, each under one device, and no server listens on an
open socket. -/
structure ProxySockets (m : DataManager) : Prop where
  filedOpen : ∀ d socket, m.mProxySocketMap d = some socket →
    socket > 0 ∧ m.openSockets socket ≠ none
  filedOnce : ∀ d d' socket, m.mProxySocketMap d = some socket →
    m.mProxySocketMap d' = some socket → d = d'
  apart : ∀ socket ∈ m.listening, socket > 0 ∧ m.openSockets socket = none

/-- The same sockets are the same proxies' sockets. -/
theorem ProxySockets.of_same (h : ProxySockets m) (hsame : SameSockets m m') :
    ProxySockets m' := by
  refine ⟨?_, ?_, ?_⟩
  · rw [hsame.mProxySocketMap, hsame.openSockets]
    exact h.filedOpen
  · rw [hsame.mProxySocketMap]
    exact h.filedOnce
  · rw [hsame.listening, hsame.openSockets]
    exact h.apart

/-- A filed socket is not listened on. -/
theorem ProxySockets.not_mem_listening (h : ProxySockets m)
    (hd : m.mProxySocketMap d = some socket) : socket ∉ m.listening :=
  fun hmem => (h.filedOpen d socket hd).2 (h.apart socket hmem).2

/-- Nothing happened to the server, and the sockets are still in order. -/
structure KeepsServer (m m' : DataManager) : Prop where
  sockets : ProxySockets m'
  listening : m'.listening = m.listening
  mServerSocketMap : m'.mServerSocketMap = m.mServerSocketMap

/-- Two calls that keep the server's socket keep it together. -/
theorem KeepsServer.trans (h : KeepsServer m m') (h' : KeepsServer m' m'') : KeepsServer m m'' :=
  ⟨h'.sockets, h'.listening.trans h.listening, h'.mServerSocketMap.trans h.mServerSocketMap⟩

/-- What leaves the sockets keeps the server's. -/
theorem ProxySockets.keeps (h : ProxySockets m) (hsame : SameSockets m m') : KeepsServer m m' :=
  ⟨h.of_same hsame, hsame.listening, hsame.mServerSocketMap⟩

/-- A socket is no longer filed. -/
theorem ProxySockets.eraseFiled (h : ProxySockets m) (d : NetworkId) :
    ProxySockets { m with mProxySocketMap := eraseKey m.mProxySocketMap d } := by
  have hsub : ∀ d' k, eraseKey m.mProxySocketMap d d' = some k → m.mProxySocketMap d' = some k := by
    intro d' k hk
    unfold eraseKey at hk
    by_cases hd : d' = d
    · rw [hd, Function.update_self] at hk
      exact absurd hk.symm (Option.some_ne_none k)
    · rw [Function.update_of_ne hd] at hk
      exact hk
  exact ⟨fun d' k hk => h.filedOpen d' k (hsub d' k hk),
    fun d₁ d₂ k h₁ h₂ => h.filedOnce d₁ d₂ k (hsub d₁ k h₁) (hsub d₂ k h₂), h.apart⟩

/-- A socket that is opened is not listened on. -/
theorem ProxySockets.openSocket (h : ProxySockets m) (hunused : Unused m socket)
    (info : OpenSocket) : KeepsServer m (openSocket m socket info) := by
  refine ⟨⟨fun d k hk => ?_, h.filedOnce, fun k hk => ?_⟩, rfl, rfl⟩
  · obtain ⟨hpos, hopen⟩ := h.filedOpen d k hk
    refine ⟨hpos, ?_⟩
    show Function.update m.openSockets socket (some info) k ≠ none
    by_cases hks : k = socket
    · rw [hks, Function.update_self]
      exact Option.some_ne_none info
    · rw [Function.update_of_ne hks]
      exact hopen
  · obtain ⟨hpos, hopen⟩ := h.apart k hk
    refine ⟨hpos, ?_⟩
    show Function.update m.openSockets socket (some info) k = none
    rw [Function.update_of_ne, hopen]
    rintro rfl
    exact hunused.2.2 hk

/-- A socket is filed under its peer, unless there is one already. -/
theorem ProxySockets.onSessionProxyOpened (h : ProxySockets m) (hpos : socket > 0)
    (hopen : m.openSockets socket ≠ none) (hunfiled : ∀ d, m.mProxySocketMap d ≠ some socket) :
    KeepsServer m (onSessionProxyOpened m socket) := by
  unfold Softbus.onSessionProxyOpened
  cases obtainPeerDeviceId m.sessions socket with
  | none => exact h.keeps (.refl m)
  | some networkId =>
      dsimp only
      have hnew : KeepsServer m
          { m with mProxySocketMap := insertNew m.mProxySocketMap networkId socket } := by
        refine ⟨⟨fun d k hk => ?_, fun d d' k hk hk' => ?_, h.apart⟩, rfl, rfl⟩
        all_goals dsimp only at hk
        all_goals unfold insertNew at hk
        · split_ifs at hk
          · exact h.filedOpen d k hk
          · rw [Function.update_apply] at hk
            split_ifs at hk
            · obtain rfl := Option.some.inj hk
              exact ⟨hpos, hopen⟩
            · exact h.filedOpen d k hk
        · dsimp only at hk'
          unfold insertNew at hk'
          split_ifs at hk hk'
          · exact h.filedOnce d d' k hk hk'
          · rw [Function.update_apply] at hk hk'
            split_ifs at hk hk' with hd hd' hd'
            · rw [hd, hd']
            · obtain rfl := Option.some.inj hk
              exact absurd hk' (hunfiled d')
            · obtain rfl := Option.some.inj hk'
              exact absurd hk (hunfiled d)
            · exact h.filedOnce d d' k hk hk'
      cases m.mDeviceToProxyMap.lookup networkId with
      | none => exact hnew
      | some proxyMap =>
          exact hnew.trans (hnew.sockets.keeps (sameSockets_connectServers _ proxyMap socket))

/-- Connecting to a device that no socket is filed under. -/
theorem ProxySockets.connect (h : ProxySockets m) (hd : m.mProxySocketMap d = none) (n : ℕ)
    (results : List Socket) :
    KeepsServer m (connectRemoteDevice d n results m).1 ∧
      (¬ (connectRemoteDevice d n results m).2 ≤ 0 →
        KeepsServer m (Softbus.onSessionProxyOpened (connectRemoteDevice d n results m).1
          (connectRemoteDevice d n results m).2)) := by
  rcases connectRemoteDevice_cases hd n results with ⟨-, heq⟩ | ⟨socket, -, hunused, heq⟩
  · rw [heq]
    exact ⟨h.keeps (.refl m),
      fun hpos => absurd (Int.neg_nonpos_of_nonneg Int.one_nonneg) hpos⟩
  · rw [heq]
    have hopened := h.openSocket hunused ⟨.proxy, configSoftbusSessionTag, d⟩
    refine ⟨hopened, fun hpos => hopened.trans ?_⟩
    refine hopened.sockets.onSessionProxyOpened (Int.not_le.mp hpos) ?_ fun d' hfiled => ?_
    · show Function.update m.openSockets socket _ socket ≠ none
      rw [Function.update_self]
      exact Option.some_ne_none _
    · exact (h.filedOpen d' socket hfiled).2 hunused.2.1

/-- Connecting a new proxy keeps the server's socket. -/
theorem ProxySockets.connectNewProxy (h : ProxySockets m) (hd : m.mProxySocketMap d = none)
    (r : SessionRef) (results : List Socket) :
    KeepsServer m (connectNewProxy m characteristic r d results).1 := by
  unfold Softbus.connectNewProxy
  have hconnect : ∀ entries, KeepsServer m
        (connectRemoteDevice d softbusLinkMaxRetryTimes results
          { m with mDeviceToProxyMap := entries }).1 ∧
      (¬ (connectRemoteDevice d softbusLinkMaxRetryTimes results
          { m with mDeviceToProxyMap := entries }).2 ≤ 0 →
        KeepsServer m (Softbus.onSessionProxyOpened
          (connectRemoteDevice d softbusLinkMaxRetryTimes results
            { m with mDeviceToProxyMap := entries }).1
          (connectRemoteDevice d softbusLinkMaxRetryTimes results
            { m with mDeviceToProxyMap := entries }).2)) := by
    intro entries
    have hentries : ProxySockets { m with mDeviceToProxyMap := entries } :=
      h.of_same ⟨rfl, rfl, rfl, rfl, rfl, rfl⟩
    obtain ⟨hkeep, hopened⟩ := hentries.connect hd softbusLinkMaxRetryTimes results
    exact ⟨⟨hkeep.1, hkeep.2, hkeep.3⟩, fun hpos => ⟨(hopened hpos).1, (hopened hpos).2,
      (hopened hpos).3⟩⟩
  have herase : ∀ m' : DataManager, KeepsServer m m' → ∀ entries,
      KeepsServer m { m' with mDeviceToProxyMap := entries } := fun m' hkeep entries =>
    hkeep.trans (hkeep.sockets.keeps ⟨rfl, rfl, rfl, rfl, rfl, rfl⟩)
  cases m.mDeviceToProxyMap.lookup d with
  | none =>
      dsimp only
      split_ifs with hle hempty
      · exact herase _ (hconnect _).1 _
      · exact (hconnect _).1
      · exact (hconnect _).2 hle
  | some proxyMap =>
      dsimp only
      split_ifs with hle hempty
      · exact herase _ (hconnect m.mDeviceToProxyMap).1 _
      · exact (hconnect m.mDeviceToProxyMap).1
      · exact (hconnect m.mDeviceToProxyMap).2 hle

/-- Creating a proxy leaves the server alone. -/
theorem ProxySockets.createProxy (h : ProxySockets m) (proxy : Option SessionRef) (d : NetworkId)
    (packageName : String) (results : List Socket) :
    KeepsServer m (createProxy m characteristic proxy d packageName results).1 := by
  unfold Softbus.createProxy
  cases proxy with
  | none => exact h.keeps (.refl m)
  | some r =>
      have hside : KeepsServer m { m with isServer := false } :=
        ⟨⟨h.1, h.2, h.3⟩, rfl, rfl⟩
      dsimp only
      split_ifs with hinvalid
      · exact h.keeps (.refl m)
      · cases hd : m.mProxySocketMap d with
        | none =>
            exact hside.trans (hside.sockets.connectNewProxy characteristic hd r results)
        | some socket =>
            dsimp only
            rw [if_neg (Int.not_le.mpr (h.filedOpen d socket hd).1)]
            split_ifs with hpeer
            · exact hside.trans (hside.sockets.keeps ⟨rfl, rfl, rfl, rfl, rfl, rfl⟩)
            · have herased := hside.sockets.eraseFiled d
              have hnone : eraseKey m.mProxySocketMap d d = none := Function.update_self ..
              obtain ⟨hsockets, hlistening, hserver⟩ :=
                herased.connectNewProxy characteristic hnone r results
              exact ⟨hsockets, hlistening, hserver⟩

/-- A socket is closed that no proxy uses. -/
theorem ProxySockets.dropSocket (h : ProxySockets m)
    (hunfiled : ∀ d, m.mProxySocketMap d ≠ some socket) : ProxySockets (dropSocket m socket) := by
  refine ⟨fun d k hk => ?_, h.filedOnce, fun k hk => ?_⟩
  · obtain ⟨hpos, hopen⟩ := h.filedOpen d k hk
    refine ⟨hpos, ?_⟩
    show eraseKey m.openSockets socket k ≠ none
    unfold eraseKey
    rw [Function.update_of_ne]
    · exact hopen
    · rintro rfl
      exact hunfiled d hk
  · obtain ⟨hpos, hopen⟩ := h.apart k (List.mem_filter.mp hk).1
    refine ⟨hpos, ?_⟩
    show eraseKey m.openSockets socket k = none
    unfold eraseKey
    rw [Function.update_apply]
    split_ifs
    · rfl
    · exact hopen

/-- The socket of a proxy is closed. -/
theorem ProxySockets.shutdownFiled (h : ProxySockets m) (hd : m.mProxySocketMap d = some socket) :
    KeepsServer m { shutdownSocket m socket with
      mProxySocketMap := eraseKey m.mProxySocketMap d } := by
  have hnot := h.not_mem_listening hd
  have hlistening : m.listening.filter (· ≠ socket) = m.listening := by
    apply List.filter_eq_self.mpr
    intro k hk
    exact decide_eq_true fun heq => hnot (heq ▸ hk)
  have hunfiled : ∀ d', eraseKey m.mProxySocketMap d d' ≠ some socket := by
    intro d' hk
    unfold eraseKey at hk
    by_cases hdd : d' = d
    · rw [hdd, Function.update_self] at hk
      exact absurd hk.symm (Option.some_ne_none socket)
    · rw [Function.update_of_ne hdd] at hk
      exact hdd (h.filedOnce d' d socket hk hd)
  have hdropped := (h.eraseFiled d).dropSocket hunfiled
  exact ⟨hdropped, hlistening, rfl⟩

/-- The call of `ReleaseProxy` to the server of the proxy, if the proxy is entered and has a
socket. -/
def disconnectEntered (m : DataManager) (entered : Option SessionRef) (socket : Option Socket) :
    DataManager :=
  match entered, socket with
  | some entered, some socket => m.disconnectServer entered socket
  | _, _ => m

/-- The end of `ReleaseProxy` for the last proxy of a device: the device loses its socket. -/
def closeDevice (m : DataManager) (d : NetworkId) : DataManager :=
  let s :=
    match m.mProxySocketMap d with
    | none => m
    | some socket => shutdownSocket (onSessionProxyClosed m socket) socket
  { s with
    mDeviceToProxyMap := s.mDeviceToProxyMap.erase d
    mProxySocketMap := eraseKey s.mProxySocketMap d }

/-- Releasing a proxy of a device that has some. -/
theorem releaseProxy_of_lookup {r : SessionRef} {d : NetworkId} {proxyMap : ProxyMap} (hne : d ≠ "")
    (hlookup : m.mDeviceToProxyMap.lookup d = some proxyMap) :
    (Softbus.releaseProxy m characteristic (some r) d).1 =
      if (proxyMap.erase (characteristic r)).entries = [] then
        closeDevice (disconnectEntered m (proxyMap.lookup (characteristic r))
          (m.mProxySocketMap d)) d
      else
        disconnectEntered m (proxyMap.lookup (characteristic r)) (m.mProxySocketMap d) := by
  unfold Softbus.releaseProxy
  dsimp only
  rw [if_neg hne, hlookup]
  dsimp only
  split_ifs
  · rfl
  · rfl

/-- Releasing a proxy leaves a device that has none alone. -/
theorem releaseProxy_of_lookup_none {r : SessionRef} {d : NetworkId} (hne : d ≠ "")
    (hlookup : m.mDeviceToProxyMap.lookup d = none) :
    (Softbus.releaseProxy m characteristic (some r) d).1 = m := by
  unfold Softbus.releaseProxy
  dsimp only
  rw [if_neg hne, hlookup]

/-- Disconnecting an entered proxy leaves the sockets. -/
theorem sameSockets_disconnectEntered (m : DataManager) (entered : Option SessionRef)
    (socket : Option Socket) : SameSockets m (disconnectEntered m entered socket) := by
  unfold disconnectEntered
  split
  · exact ⟨rfl, rfl, rfl, rfl, rfl, rfl⟩
  · exact .refl m

/-- Closing a device leaves the server, and the side, alone. -/
theorem ProxySockets.closeDevice (h : ProxySockets m) (d : NetworkId) :
    KeepsServer m (Softbus.closeDevice m d) ∧ (Softbus.closeDevice m d).isServer = m.isServer := by
  unfold Softbus.closeDevice
  cases hd : m.mProxySocketMap d with
  | none =>
      obtain ⟨hopen, honce, hapart⟩ := h.eraseFiled d
      have hkeep : KeepsServer m m := h.keeps (.refl m)
      exact ⟨⟨⟨hopen, honce, hapart⟩, hkeep.listening, hkeep.mServerSocketMap⟩, rfl⟩
  | some socket =>
      have hclosed := sameSockets_onSessionProxyClosed m socket
      have h₁ : KeepsServer m (Softbus.onSessionProxyClosed m socket) := h.keeps hclosed
      have hd₁ : (Softbus.onSessionProxyClosed m socket).mProxySocketMap d = some socket := by
        rw [hclosed.mProxySocketMap, hd]
      obtain ⟨⟨hopen, honce, hapart⟩, hlistening, hserver⟩ :=
        h₁.trans (h₁.sockets.shutdownFiled hd₁)
      exact ⟨⟨⟨hopen, honce, hapart⟩, hlistening, hserver⟩, hclosed.isServer⟩

/-- Releasing a proxy leaves the server, and the side, alone. -/
theorem ProxySockets.releaseProxy (h : ProxySockets m) (proxy : Option SessionRef) (d : NetworkId) :
    KeepsServer m (releaseProxy m characteristic proxy d).1 ∧
      (releaseProxy m characteristic proxy d).1.isServer = m.isServer := by
  have hsame : KeepsServer m m := h.keeps (.refl m)
  cases proxy with
  | none => exact ⟨hsame, rfl⟩
  | some r =>
      by_cases hne : d = ""
      · subst hne
        exact ⟨hsame, rfl⟩
      · cases hlookup : m.mDeviceToProxyMap.lookup d with
        | none =>
            rw [releaseProxy_of_lookup_none characteristic hne hlookup]
            exact ⟨hsame, rfl⟩
        | some proxyMap =>
            rw [releaseProxy_of_lookup characteristic hne hlookup]
            have hcall := sameSockets_disconnectEntered m (proxyMap.lookup (characteristic r))
              (m.mProxySocketMap d)
            have h₁ := h.keeps hcall
            split_ifs
            · obtain ⟨hkeep, hside⟩ := h₁.sockets.closeDevice d
              exact ⟨h₁.trans hkeep, hside.trans hcall.isServer⟩
            · exact ⟨h₁, hcall.isServer⟩

/-- A fold of calls that leave the server alone. -/
theorem ProxySockets.foldl {ε : Type} (call : DataManager → ε → DataManager)
    (hcall : ∀ m e, ProxySockets m → KeepsServer m (call m e)) (l : List ε) (h : ProxySockets m) :
    KeepsServer m (l.foldl call m) := by
  induction l generalizing m with
  | nil => exact h.keeps (.refl m)
  | cons e l ih => exact (hcall m e h).trans (ih (hcall m e h).sockets)

/-- A server socket is listened on iff it is recorded. -/
def ServerSocket (m : DataManager) : Prop :=
  (m.listening = [] ∧ m.mServerSocketMap migratePackage = none) ∨
    ∃ socket, m.listening = [socket] ∧ m.mServerSocketMap migratePackage = some socket

/-- A call that keeps the server's socket keeps it open. -/
theorem ServerSocket.of_keeps (h : ServerSocket m) (hkeep : KeepsServer m m') :
    ServerSocket m' := by
  unfold ServerSocket
  rw [hkeep.listening, hkeep.mServerSocketMap]
  exact h

/-- On the side of the servers, the server socket is closed. -/
theorem destroySessionServer_of_isServer (h : ProxySockets m) (hserver : ServerSocket m)
    (hside : m.isServer = true) :
    ProxySockets (destroySessionServer m characteristic migratePackage) ∧
      (destroySessionServer m characteristic migratePackage).listening = [] ∧
      (destroySessionServer m characteristic migratePackage).mServerSocketMap migratePackage =
        none := by
  unfold destroySessionServer
  rw [if_pos hside]
  have hsame : SameSockets m
      (m.serverMap.entries.foldl (fun s e => s.disconnectAllProxy e.2) m) := by
    apply sameSockets_foldl
    intro m e
    exact ⟨rfl, rfl, rfl, rfl, rfl, rfl⟩
  set m₁ := m.serverMap.entries.foldl (fun s e => s.disconnectAllProxy e.2) m
  have h₁ : ProxySockets m₁ := h.of_same hsame
  have herased : ProxySockets { m₁ with
      serverMap := ∅
      mServerSocketMap := eraseKey m₁.mServerSocketMap migratePackage } :=
    ⟨h₁.filedOpen, h₁.filedOnce, h₁.apart⟩
  dsimp only
  have hnone : eraseKey m₁.mServerSocketMap migratePackage migratePackage = none :=
    Function.update_self ..
  refine ⟨herased.dropSocket fun d hd => ?_, ?_, hnone⟩
  · obtain ⟨hpos, hopen⟩ := h₁.filedOpen d _ hd
    rw [hsame.mServerSocketMap] at hpos hopen
    rcases hserver with ⟨-, hnone⟩ | ⟨socket, hlistening, hsome⟩
    · rw [hnone] at hpos
      exact absurd hpos (Int.lt_irrefl 0)
    · rw [hsome, hsame.openSockets] at hopen
      apply hopen
      apply (h.apart socket _).2
      rw [hlistening]
      exact List.mem_singleton_self socket
  · show m₁.listening.filter _ = []
    rw [hsame.listening, hsame.mServerSocketMap]
    rcases hserver with ⟨hlistening, -⟩ | ⟨socket, hlistening, hsome⟩
    · rw [hlistening]
      rfl
    · rw [hlistening, hsome]
      simp

/-- On the side of the proxies, it is not. -/
theorem destroySessionServer_of_not_isServer (h : ProxySockets m) (hside : m.isServer = false) :
    KeepsServer m (destroySessionServer m characteristic migratePackage) := by
  unfold destroySessionServer
  rw [if_neg (by rw [hside]; exact Bool.false_ne_true)]
  refine h.foldl _ (fun m device h => ?_) _
  refine h.foldl _ (fun m e h => ?_) _
  exact (h.releaseProxy characteristic (some e.2) device.1).1

end sockets

/-! ## The runs that keep the references -/

section main

variable (characteristic : SessionRef → Characteristic) {s : MigrateAVSessionManager}

/-- The sockets of the data manager are in order. -/
def RefInv (s : MigrateAVSessionManager) : Prop :=
  ProxySockets s.softBusDistributedDataMgr ∧ ServerSocket s.softBusDistributedDataMgr

/-- At the start nothing is counted. -/
theorem refInv_initial : RefInv .initial :=
  ⟨⟨fun _ _ h => absurd h.symm (Option.some_ne_none _),
    fun _ _ _ h => absurd h.symm (Option.some_ne_none _),
    fun _ h => absurd h List.not_mem_nil⟩, Or.inl ⟨rfl, rfl⟩⟩

/-- At the start every count is in order. -/
theorem disciplined_initial : Disciplined .initial :=
  ⟨rfl, fun h => absurd rfl h, fun _ _ => ⟨rfl, rfl⟩⟩

/-- Erasing a scene that is there makes one key less. -/
theorem length_keys_erase {β : Type} {m : AList fun _ : String => β} {scene : String}
    (h : scene ∈ m) : m.keys.length = (m.erase scene).keys.length + 1 := by
  rw [AList.keys_erase, List.length_erase_of_mem h]
  exact (Nat.succ_pred_eq_of_pos (List.length_pos_of_mem h)).symm

/-- A new scene makes one key more. -/
theorem keys_insert_of_not_mem {β : Type} {m : AList fun _ : String => β} {scene : String}
    (h : scene ∉ m) (x : β) : (m.insert scene x).keys = scene :: m.keys := by
  rw [AList.keys_insert, List.erase_of_not_mem h]

/-- The server socket is closed exactly if it can be. -/
theorem keep_destroySessionServer {m : DataManager} (h : ProxySockets m)
    (hserver : ServerSocket m) :
    ((destroySessionServer m characteristic migratePackage).listening = [] ↔ ClosesServer m) ∧
      ProxySockets (destroySessionServer m characteristic migratePackage) ∧
      ServerSocket (destroySessionServer m characteristic migratePackage) := by
  cases hside : m.isServer with
  | true =>
      obtain ⟨hsockets, hlistening, hnone⟩ :=
        destroySessionServer_of_isServer characteristic h hserver hside
      exact ⟨⟨fun _ => Or.inl hside, fun _ => hlistening⟩, hsockets, Or.inl ⟨hlistening, hnone⟩⟩
  | false =>
      have hkeep := destroySessionServer_of_not_isServer characteristic h hside
      refine ⟨?_, hkeep.sockets, hserver.of_keeps hkeep⟩
      unfold ClosesServer
      rw [hkeep.listening, hside]
      exact ⟨Or.inr, fun hcloses => hcloses.resolve_left Bool.false_ne_true⟩

/-- The last reference destroys the server. -/
theorem decSoftBusRef_last (h : s.refs = 1) :
    decSoftBusRef characteristic s =
      { s with
        softBusDistributedDataMgr :=
          destroySessionServer s.softBusDistributedDataMgr characteristic migratePackage
        initialised := false
        refs := 0 } := by
  unfold decSoftBusRef
  dsimp only
  rw [if_pos (by omega)]

/-- Any other reference is only counted down. -/
theorem decSoftBusRef_of_more (h : s.refs > 1) :
    decSoftBusRef characteristic s = { s with refs := s.refs - 1 } := by
  unfold decSoftBusRef
  dsimp only
  rw [if_neg (by omega)]

/-- A reference is given back, with what is left of the maps. -/
theorem keep_decSoftBusRef (h : RefInv s) {serverMap : AList fun _ : String => Option SessionRef}
    {proxyMap : AList fun _ : String => SessionRef}
    (hrefs : s.refs = serverMap.keys.length + proxyMap.keys.length + 1)
    (hinit : serverMap.keys ≠ [] → s.initialised = true) :
    (Disciplined { decSoftBusRef characteristic s with
        serverMap := serverMap, proxyMap := proxyMap } ↔
      (s.refs = 1 → ClosesServer s.softBusDistributedDataMgr)) ∧
    RefInv { decSoftBusRef characteristic s with
      serverMap := serverMap, proxyMap := proxyMap } := by
  obtain ⟨hcloses, hinv⟩ := keep_destroySessionServer characteristic h.1 h.2
  by_cases hlast : s.refs = 1
  · have hservers : serverMap.keys = [] := List.eq_nil_of_length_eq_zero (by omega)
    have hproxies : proxyMap.keys = [] := List.eq_nil_of_length_eq_zero (by omega)
    rw [decSoftBusRef_last characteristic hlast]
    refine ⟨⟨fun hP _ => hcloses.mp (hP.destroyed hservers hproxies).2, fun hok => ?_⟩, hinv⟩
    refine ⟨?_, fun hne => absurd hservers hne, fun _ _ => ⟨rfl, hcloses.mpr (hok hlast)⟩⟩
    rw [hservers, hproxies]
    rfl
  · rw [decSoftBusRef_of_more characteristic (by omega)]
    refine ⟨⟨fun _ hone => absurd hone hlast, fun _ => ⟨?_, hinit, fun hservers hproxies => ?_⟩⟩, h⟩
    · show s.refs - 1 = serverMap.keys.length + proxyMap.keys.length
      omega
    · change serverMap.keys = [] at hservers
      change proxyMap.keys = [] at hproxies
      rw [hservers, hproxies] at hrefs
      exact absurd hrefs hlast

/-- The server socket is opened while there is none. -/
theorem keep_initSessionServer {m : DataManager} (h : ProxySockets m) (hserver : ServerSocket m)
    (hlistening : m.listening = []) (result : Socket) :
    ProxySockets (initSessionServer m migratePackage result) ∧
      ServerSocket (initSessionServer m migratePackage result) := by
  have hnone : m.mServerSocketMap migratePackage = none := by
    rcases hserver with ⟨-, hnone⟩ | ⟨socket, hsocket, -⟩
    · exact hnone
    · rw [hlistening] at hsocket
      exact absurd hsocket.symm (List.cons_ne_nil socket [])
  unfold initSessionServer
  dsimp only
  split_ifs with hunused
  · refine ⟨⟨h.filedOpen, h.filedOnce, fun socket hsocket => ?_⟩, Or.inr ⟨result, ?_, ?_⟩⟩
    · change socket ∈ m.listening ++ [result] at hsocket
      rw [hlistening, List.nil_append, List.mem_singleton] at hsocket
      rw [hsocket]
      exact ⟨hunused.1, hunused.2.1⟩
    · show m.listening ++ [result] = [result]
      rw [hlistening, List.nil_append]
    · show insertNew m.mServerSocketMap migratePackage result migratePackage = some result
      rw [insertNew_of_none hnone, Function.update_self]
  · exact ⟨⟨h.filedOpen, h.filedOnce, h.apart⟩, hserver⟩

/-- The first reference creates the server. -/
theorem incSoftBusRef_first (h : s.refs = 0) (result : Socket) :
    incSoftBusRef s result =
      { s with
        softBusDistributedDataMgr :=
          initSessionServer s.softBusDistributedDataMgr migratePackage result
        initialised := true
        refs := 1 } := by
  unfold incSoftBusRef
  simp only [h, if_true, Int.zero_add]

/-- Any other reference is only counted up. -/
theorem incSoftBusRef_of_more (h : s.refs ≠ 0) (result : Socket) :
    incSoftBusRef s result = { s with refs := s.refs + 1 } := by
  unfold incSoftBusRef
  simp only [h, if_false]

/-- A reference is taken for a new stub. -/
theorem keep_createLocalSessionStub (h : RefInv s) (hP : Disciplined s) {scene : String}
    (hscene : IsMigrateScene scene) (hnew : scene ∉ s.serverMap) (server : Option SessionRef)
    (result : Socket) :
    (Disciplined (createLocalSessionStub characteristic s scene server result) ↔
      (s.refs ≠ 0 → s.initialised = true)) ∧
    RefInv (createLocalSessionStub characteristic s scene server result) := by
  have hrefs := hP.refs_eq
  have hkeys := keys_insert_of_not_mem hnew server
  unfold createLocalSessionStub
  rw [if_neg (not_not_intro hscene), if_neg hnew]
  dsimp only
  by_cases hzero : s.refs = 0
  · have hservers : s.serverMap.keys = [] := List.eq_nil_of_length_eq_zero (by omega)
    have hproxies : s.proxyMap.keys = [] := List.eq_nil_of_length_eq_zero (by omega)
    obtain ⟨hsockets, hserver⟩ :=
      keep_initSessionServer h.1 h.2 (hP.destroyed hservers hproxies).2 result
    have hkeep := hsockets.keeps (sameSockets_createServer characteristic
      (initSessionServer s.softBusDistributedDataMgr migratePackage result) server)
    rw [incSoftBusRef_first hzero]
    refine ⟨⟨fun _ hne => absurd hzero hne, fun _ => ⟨?_, fun _ => rfl, fun hnil => ?_⟩⟩,
      hkeep.sockets, hserver.of_keeps hkeep⟩
    · show (1 : ℤ) = (s.serverMap.insert scene server).keys.length + s.proxyMap.keys.length
      rw [hkeys, hservers, hproxies]
      rfl
    · change (s.serverMap.insert scene server).keys = [] at hnil
      rw [hkeys] at hnil
      exact absurd hnil (List.cons_ne_nil scene _)
  · have hkeep := h.1.keeps (sameSockets_createServer characteristic
      s.softBusDistributedDataMgr server)
    rw [incSoftBusRef_of_more hzero]
    refine ⟨⟨fun hP' _ => hP'.initialised ?_, fun hok => ⟨?_, fun _ => hok hzero, fun hnil => ?_⟩⟩,
      hkeep.sockets, h.2.of_keeps hkeep⟩
    · show (s.serverMap.insert scene server).keys ≠ []
      rw [hkeys]
      exact List.cons_ne_nil scene _
    · show s.refs + 1 = (s.serverMap.insert scene server).keys.length + s.proxyMap.keys.length
      rw [hkeys, List.length_cons]
      omega
    · change (s.serverMap.insert scene server).keys = [] at hnil
      rw [hkeys] at hnil
      exact absurd hnil (List.cons_ne_nil scene _)

/-- A reference is taken for a new proxy. -/
theorem keep_createRemoteSessionProxy (h : RefInv s) (hP : Disciplined s) (networkId : NetworkId)
    (scene : String) (proxy : Option SessionRef) (results : List Socket) :
    Disciplined (createRemoteSessionProxy characteristic s networkId scene proxy results) ∧
      RefInv (createRemoteSessionProxy characteristic s networkId scene proxy results) := by
  have hrefs := hP.refs_eq
  unfold createRemoteSessionProxy
  cases proxy with
  | none => exact ⟨hP, h⟩
  | some r =>
      dsimp only
      by_cases hid : networkId = ""
      · rw [if_pos hid]
        exact ⟨hP, h⟩
      by_cases hscene : IsMigrateScene scene
      · rw [if_neg hid, if_neg (not_not_intro hscene)]
        by_cases hmem : scene ∈ s.proxyMap
        · rw [if_pos hmem]
          exact ⟨hP, h⟩
        rw [if_neg hmem]
        have hkeys := keys_insert_of_not_mem hmem r
        have hkeep := h.1.createProxy characteristic (some r) networkId
          migratePackage results
        refine ⟨⟨?_, hP.initialised, fun _ hnil => ?_⟩, hkeep.sockets, h.2.of_keeps hkeep⟩
        · show s.refs + 1 = s.serverMap.keys.length + (s.proxyMap.insert scene r).keys.length
          rw [hkeys, List.length_cons]
          omega
        · change (s.proxyMap.insert scene r).keys = [] at hnil
          rw [hkeys] at hnil
          exact absurd hnil (List.cons_ne_nil scene _)
      · rw [if_neg hid, if_pos hscene]
        exact ⟨hP, h⟩

/-- Counting down leaves the proxies. -/
theorem proxyMap_decSoftBusRef (s : MigrateAVSessionManager) :
    (decSoftBusRef characteristic s).proxyMap = s.proxyMap := by
  unfold decSoftBusRef
  dsimp only
  split_ifs <;> rfl

/-- Counting down leaves the stubs. -/
theorem serverMap_decSoftBusRef (s : MigrateAVSessionManager) :
    (decSoftBusRef characteristic s).serverMap = s.serverMap := by
  unfold decSoftBusRef
  dsimp only
  split_ifs <;> rfl

/-- A map that is as it was need not be written. -/
theorem with_proxyMap {t : MigrateAVSessionManager} (serverMap)
    {proxyMap : AList fun _ : String => SessionRef} (h : t.proxyMap = proxyMap) :
    { t with serverMap := serverMap } =
      { t with serverMap := serverMap, proxyMap := proxyMap } := by
  subst h
  rfl

/-- Writing the stubs it already has leaves the manager. -/
theorem with_serverMap {t : MigrateAVSessionManager} (proxyMap)
    {serverMap : AList fun _ : String => Option SessionRef} (h : t.serverMap = serverMap) :
    { t with proxyMap := proxyMap } =
      { t with serverMap := serverMap, proxyMap := proxyMap } := by
  subst h
  rfl

/-- The reference of a stub is given back. -/
theorem keep_releaseLocalSessionStub (h : RefInv s) (hP : Disciplined s) {scene : String}
    (hscene : IsMigrateScene scene) (hmem : scene ∈ s.serverMap) :
    (Disciplined (releaseLocalSessionStub characteristic s scene) ↔
      (s.refs = 1 → ClosesServer s.softBusDistributedDataMgr)) ∧
    RefInv (releaseLocalSessionStub characteristic s scene) := by
  obtain ⟨server, hlookup⟩ := Option.isSome_iff_exists.mp (AList.lookup_isSome.mpr hmem)
  have hrefs := hP.refs_eq
  have hlength := length_keys_erase hmem
  have hsame := sameSockets_releaseServer characteristic
    s.softBusDistributedDataMgr server
  have hkeep := h.1.keeps hsame
  have hcloses : ClosesServer (releaseServer s.softBusDistributedDataMgr characteristic server) ↔
      ClosesServer s.softBusDistributedDataMgr := by
    unfold ClosesServer
    rw [hsame.isServer, hsame.listening]
  have hstep : releaseLocalSessionStub characteristic s scene =
      { decSoftBusRef characteristic
          { s with
            softBusDistributedDataMgr :=
              releaseServer s.softBusDistributedDataMgr characteristic server } with
        serverMap := s.serverMap.erase scene
        proxyMap := s.proxyMap } := by
    unfold releaseLocalSessionStub
    rw [if_neg (not_not_intro hscene)]
    simp only [hlookup, serverMap_decSoftBusRef]
    exact with_proxyMap _ (proxyMap_decSoftBusRef ..)
  rw [hstep, ← hcloses]
  apply keep_decSoftBusRef
  · exact ⟨hkeep.sockets, h.2.of_keeps hkeep⟩
  · show s.refs = _
    omega
  · exact fun _ => hP.initialised (List.ne_nil_of_mem hmem)

/-- The reference of a proxy is given back. -/
theorem keep_releaseRemoteSessionProxy (h : RefInv s) (hP : Disciplined s) {networkId : NetworkId}
    {scene : String} (hid : networkId ≠ "") (hscene : IsMigrateScene scene)
    (hmem : scene ∈ s.proxyMap) :
    (Disciplined (releaseRemoteSessionProxy characteristic s networkId scene) ↔
      (s.refs = 1 → ClosesServer s.softBusDistributedDataMgr)) ∧
    RefInv (releaseRemoteSessionProxy characteristic s networkId scene) := by
  obtain ⟨r, hlookup⟩ := Option.isSome_iff_exists.mp (AList.lookup_isSome.mpr hmem)
  have hrefs := hP.refs_eq
  have hlength := length_keys_erase hmem
  obtain ⟨hkeep, hside⟩ := h.1.releaseProxy characteristic (some r) networkId
  have hcloses : ClosesServer
      (releaseProxy s.softBusDistributedDataMgr characteristic (some r) networkId).1 ↔
      ClosesServer s.softBusDistributedDataMgr := by
    unfold ClosesServer
    rw [hside, hkeep.listening]
  have hstep : releaseRemoteSessionProxy characteristic s networkId scene =
      { decSoftBusRef characteristic
          { s with
            softBusDistributedDataMgr :=
              (releaseProxy s.softBusDistributedDataMgr characteristic (some r) networkId).1 } with
        serverMap := s.serverMap
        proxyMap := s.proxyMap.erase scene } := by
    unfold releaseRemoteSessionProxy
    rw [if_neg hid, if_neg (not_not_intro hscene)]
    simp only [hlookup, proxyMap_decSoftBusRef]
    exact with_serverMap _ (serverMap_decSoftBusRef ..)
  rw [hstep, ← hcloses]
  apply keep_decSoftBusRef
  · exact ⟨hkeep.sockets, h.2.of_keeps hkeep⟩
  · show s.refs = _
    omega
  · exact hP.initialised

/-- One step keeps the references iff it meets the condition, and it keeps the sockets in order. -/
theorem keep_refStep (h : RefInv s) (hP : Disciplined s) (op : RefOp) :
    (Disciplined (refStep characteristic s op) ↔ KeepsRefs s op) ∧
    RefInv (refStep characteristic s op) := by
  cases op with
  | createLocalSessionStub scene server result =>
      by_cases hnew : IsMigrateScene scene ∧ scene ∉ s.serverMap
      · obtain ⟨hiff, hinv⟩ := keep_createLocalSessionStub characteristic h hP
          hnew.1 hnew.2 server result
        exact ⟨hiff.trans ⟨fun hok _ _ => hok, fun hok => hok hnew.1 hnew.2⟩, hinv⟩
      · have hstep :
            refStep characteristic s (.createLocalSessionStub scene server result) = s := by
          show createLocalSessionStub characteristic s scene server result = s
          unfold createLocalSessionStub
          split_ifs with hscene hmem
          · rfl
          · exact absurd ⟨hscene, hmem⟩ hnew
          · rfl
        rw [hstep]
        exact ⟨⟨fun _ hscene hmem => absurd ⟨hscene, hmem⟩ hnew, fun _ => hP⟩, h⟩
  | releaseLocalSessionStub scene =>
      by_cases hfound : IsMigrateScene scene ∧ scene ∈ s.serverMap
      · obtain ⟨hiff, hinv⟩ := keep_releaseLocalSessionStub characteristic h hP
          hfound.1 hfound.2
        exact ⟨hiff.trans ⟨fun hok _ _ => hok, fun hok => hok hfound.1 hfound.2⟩, hinv⟩
      · have hstep : refStep characteristic s (.releaseLocalSessionStub scene) = s := by
          show releaseLocalSessionStub characteristic s scene = s
          unfold releaseLocalSessionStub
          split_ifs with hscene
          · have hnone : s.serverMap.lookup scene = none := by
              rw [AList.lookup_eq_none]
              exact fun hmem => hfound ⟨hscene, hmem⟩
            rw [hnone]
          · rfl
        rw [hstep]
        exact ⟨⟨fun _ hscene hmem => absurd ⟨hscene, hmem⟩ hfound, fun _ => hP⟩, h⟩
  | createRemoteSessionProxy networkId scene proxy results =>
      obtain ⟨hdisciplined, hinv⟩ := keep_createRemoteSessionProxy
        characteristic h hP networkId scene proxy results
      exact ⟨⟨fun _ => trivial, fun _ => hdisciplined⟩, hinv⟩
  | releaseRemoteSessionProxy networkId scene =>
      by_cases hfound : networkId ≠ "" ∧ IsMigrateScene scene ∧ scene ∈ s.proxyMap
      · obtain ⟨hiff, hinv⟩ := keep_releaseRemoteSessionProxy characteristic h hP
          hfound.1 hfound.2.1 hfound.2.2
        exact ⟨hiff.trans ⟨fun hok _ _ _ => hok,
          fun hok => hok hfound.1 hfound.2.1 hfound.2.2⟩, hinv⟩
      · have hstep : refStep characteristic s (.releaseRemoteSessionProxy networkId scene) = s := by
          show releaseRemoteSessionProxy characteristic s networkId scene = s
          unfold releaseRemoteSessionProxy
          split_ifs with hid hscene
          · rfl
          · have hnone : s.proxyMap.lookup scene = none := by
              rw [AList.lookup_eq_none]
              exact fun hmem => hfound ⟨hid, hscene, hmem⟩
            rw [hnone]
          · rfl
        rw [hstep]
        exact ⟨⟨fun _ hid hscene hmem => absurd ⟨hid, hscene, hmem⟩ hfound, fun _ => hP⟩, h⟩

/-- The references are disciplined all along a run iff no stub is created while there are proxies
only and the server is not initialised, and every time the last reference is given back, the side is
that of the servers or no server socket is open. -/
theorem disciplined_iff (characteristic : SessionRef → Characteristic) (ops : List RefOp) :
    Always (refStep characteristic) Disciplined .initial ops ↔
      Meets (refStep characteristic) KeepsRefs .initial ops :=
  always_iff_meets_of_side (fun _ op h hP _ => (keep_refStep characteristic h hP op).2)
    (fun _ op h hP => (keep_refStep characteristic h hP op).1) ops refInv_initial
    disciplined_initial

/-- A proxy that comes before the first stub: the stub finds a counter that is not zero. -/
theorem stub_after_proxy :
    ¬ ∀ ops : List RefOp, Always (refStep fun _ => 2) Disciplined .initial ops := by
  intro h
  have hlast := (h [.createRemoteSessionProxy "phone" "SuperLauncher" (some 7) [1],
    .createLocalSessionStub "SuperLauncher" (some 3) 2]).last
  exact absurd (hlast.initialised (by decide)) (by decide)

end main

end AvSession.Softbus
