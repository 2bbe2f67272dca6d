import AvSession.Softbus.DataManager

/-!
# The registry of proxies

Which proxies are entered under a device, whether there is a socket to the device, and how often
each proxy was connected and disconnected: along the runs in which proxies are created and released
and sockets go down.

* `ProxyState` — the data manager, with the proxies that were created and neither released nor
  closed since.
* `Registered` — the three agree, and the calls of each proxy are balanced.
* `proxies_registered_iff` — the runs along which they do. A second proxy of a device, a release and
  a socket that goes down each end such a run.
-/

namespace AvSession.Softbus

open AvSession.Lib

/-! ## Runs -/

section runs

/-- The data manager, and the proxies created and neither released nor closed since, by device and
characteristic. -/
structure ProxyState where
  manager : DataManager
  created : NetworkId → Characteristic → Option SessionRef

/-- Nothing was created. -/
def ProxyState.initial : ProxyState := ⟨.initial, fun _ _ => none⟩

/-- A call of the data manager, or a socket that goes down. -/
inductive ProxyOp
  | createProxy (proxy : Option SessionRef) (peerNetworkId : NetworkId) (packageName : String)
      (results : List Socket)
  | releaseProxy (proxy : Option SessionRef) (peerNetworkId : NetworkId)
  | socketClosed (socket : Socket)

/-- The entry of one characteristic of one device is replaced. -/
def setCreated (created : NetworkId → Characteristic → Option SessionRef) (d : NetworkId)
    (c : Characteristic) (r : Option SessionRef) :
    NetworkId → Characteristic → Option SessionRef :=
  Function.update created d (Function.update (created d) c r)

variable (characteristic : SessionRef → Characteristic)

/-- One operation. The proxies of a device are closed with a socket to it. -/
def proxyStep (s : ProxyState) : ProxyOp → ProxyState
  | .createProxy proxy d packageName results =>
      let result := createProxy s.manager characteristic proxy d packageName results
      match proxy, result.2 with
      | some r, true => ⟨result.1, setCreated s.created d (characteristic r) (some r)⟩
      | _, _ => { s with manager := result.1 }
  | .releaseProxy proxy d =>
      let manager := (releaseProxy s.manager characteristic proxy d).1
      match proxy with
      | none => { s with manager := manager }
      | some r =>
          if s.created d (characteristic r) = some r then
            ⟨manager, setCreated s.created d (characteristic r) none⟩
          else { s with manager := manager }
  | .socketClosed socket =>
      let manager := onShutdown s.manager socket
      match s.manager.openSockets socket with
      | none => { s with manager := manager }
      | some info => ⟨manager, Function.update s.created info.networkId fun _ => none⟩

/-- A call of `ConnectServer`. -/
def isConnect (r : SessionRef) : Call → Bool
  | .connectServer r' _ => r' = r
  | _ => false

/-- A call of `DisconnectServer`. -/
def isDisconnect (r : SessionRef) : Call → Bool
  | .disconnectServer r' _ => r' = r
  | _ => false

/-- How often a proxy was connected. -/
def connects (s : DataManager) (r : SessionRef) : ℕ := s.calls.countP (isConnect r)

/-- How often a proxy was disconnected. -/
def disconnects (s : DataManager) (r : SessionRef) : ℕ := s.calls.countP (isDisconnect r)

/-- The proxy entered under a device and a characteristic. -/
def entered (s : DataManager) (d : NetworkId) (c : Characteristic) : Option SessionRef :=
  (s.mDeviceToProxyMap.lookup d).bind (·.lookup c)

/-- A proxy is registered, for some device. -/
def IsRegistered (s : ProxyState) (r : SessionRef) : Prop :=
  ∃ d c, s.created d c = some r

/-- There is a socket to a device. -/
def HasSocket (s : DataManager) (d : NetworkId) : Prop :=
  ∃ socket info, s.openSockets socket = some info ∧ info.side = .proxy ∧ info.networkId = d

/-- What the registry promises. -/
structure Registered (s : ProxyState) : Prop where
  entries : ∀ d c, entered s.manager d c = s.created d c
  noEmpty : ∀ d proxyMap, s.manager.mDeviceToProxyMap.lookup d = some proxyMap →
    proxyMap.entries ≠ []
  sockets : ∀ d, (s.manager.mProxySocketMap d).isSome = true ↔ HasSocket s.manager d
  balanced : ∀ r, IsRegistered s r → connects s.manager r = disconnects s.manager r + 1
  even : ∀ r, ¬ IsRegistered s r → connects s.manager r = disconnects s.manager r

/-- One of the attempts to bind succeeds. -/
def CanConnect (s : DataManager) (results : List Socket) : Prop :=
  ∃ socket ∈ results.take (softbusLinkMaxRetryTimes + 1), Unused s socket

/-- The condition on an operation: a proxy is created for a device that there is no socket to, and
is not registered already if it can be connected; no proxy that is registered is released; no open
socket goes down. -/
def KeepsRegistry (s : ProxyState) : ProxyOp → Prop
  | .createProxy none _ _ _ => True
  | .createProxy (some r) d packageName results =>
      d ≠ "" → packageName ≠ "" →
        s.manager.mProxySocketMap d = none ∧
        (CanConnect s.manager results → ¬ IsRegistered s r)
  | .releaseProxy none _ => True
  | .releaseProxy (some r) d => d ≠ "" → s.created d (characteristic r) = none
  | .socketClosed socket => s.manager.openSockets socket = none

end runs

/-! ## Sockets to a device -/

section sockets

variable {s : DataManager} {d : NetworkId} {socket : Socket} {results : List Socket}

/-- A bind whose number is in use fails. -/
theorem bind_of_not_unused {result : Socket} (h : ¬ Unused s result) :
    bind s d result = (s, -1) := if_neg h

/-- A bind with a new number opens that socket. -/
theorem bind_of_unused {result : Socket} (h : Unused s result) :
    bind s d result = (openSocket s result ⟨.proxy, configSoftbusSessionTag, d⟩, result) := if_pos h

/-- Without retries there is one bind. -/
theorem connectRemoteDevice_zero (h : s.mProxySocketMap d = none) (results : List Socket) :
    connectRemoteDevice d 0 results s = bind s d (results.headD (-1)) := by
  rw [connectRemoteDevice]
  simp only [h]

/-- One attempt, and the others if it fails. -/
theorem connectRemoteDevice_succ (h : s.mProxySocketMap d = none) (n : ℕ) (results : List Socket) :
    connectRemoteDevice d (n + 1) results s =
      if Unused s (results.headD (-1)) then bind s d (results.headD (-1))
      else connectRemoteDevice d n results.tail s := by
  rw [connectRemoteDevice]
  simp only [h]
  split_ifs with hle hunused hunused
  · rw [bind_of_unused hunused] at hle
    exact absurd hle (Int.not_le.mpr hunused.1)
  · rw [bind_of_not_unused hunused]
  · rfl
  · rw [bind_of_not_unused hunused] at hle
    exact absurd (Int.neg_nonpos_of_nonneg Int.one_nonneg) hle

/-- A missing result is an error. -/
theorem not_unused_error : ¬ Unused s (-1) := fun h => absurd h.1 (by decide)

/-- Connecting to a device without a socket: nothing happens, or one of the results is opened. -/
theorem connectRemoteDevice_cases (h : s.mProxySocketMap d = none) (n : ℕ)
    (results : List Socket) :
    ((∀ x ∈ results.take (n + 1), ¬ Unused s x) ∧
      connectRemoteDevice d n results s = (s, -1)) ∨
    ∃ socket ∈ results.take (n + 1), Unused s socket ∧
      connectRemoteDevice d n results s =
        (openSocket s socket ⟨.proxy, configSoftbusSessionTag, d⟩, socket) := by
  induction n generalizing results with
  | zero =>
      rw [connectRemoteDevice_zero h]
      cases results with
      | nil =>
          exact Or.inl ⟨fun x hx => absurd hx List.not_mem_nil, bind_of_not_unused not_unused_error⟩
      | cons y ys =>
          by_cases hy : Unused s y
          · exact Or.inr ⟨y, List.mem_cons_self, hy, bind_of_unused hy⟩
          · refine Or.inl ⟨fun x hx => ?_, bind_of_not_unused hy⟩
            rw [List.take_succ_cons, List.take_zero, List.mem_singleton] at hx
            rw [hx]
            exact hy
  | succ n ih =>
      rw [connectRemoteDevice_succ h]
      cases results with
      | nil =>
          rw [List.headD_nil, if_neg not_unused_error]
          rcases ih [] with ⟨-, heq⟩ | ⟨x, hx, -⟩
          · exact Or.inl ⟨fun x hx => absurd hx List.not_mem_nil, heq⟩
          · exact absurd hx List.not_mem_nil
      | cons y ys =>
          rw [List.headD_cons, List.tail_cons, List.take_succ_cons]
          by_cases hy : Unused s y
          · rw [if_pos hy]
            exact Or.inr ⟨y, List.mem_cons_self, hy, bind_of_unused hy⟩
          · rw [if_neg hy]
            rcases ih ys with ⟨hnone, heq⟩ | ⟨x, hx, hunused, heq⟩
            · refine Or.inl ⟨fun x hx => ?_, heq⟩
              rcases List.mem_cons.mp hx with rfl | hx
              · exact hy
              · exact hnone x hx
            · exact Or.inr ⟨x, List.mem_cons_of_mem _ hx, hunused, heq⟩

end sockets

/-! ## Registration -/

section registration

variable {characteristic : SessionRef → Characteristic} {s : ProxyState} {m : DataManager}
  {d d' : NetworkId} {c c' : Characteristic} {r q : SessionRef} {socket : Socket}

/-- What holds along a run in which every operation keeps the registry: no server is there, the
session manager knows the peers of the open sockets, each of them is filed under its device, and a
device has at most one proxy. -/
structure OneProxy (characteristic : SessionRef → Characteristic) (m : DataManager) : Prop where
  noServer : m.serverMap = ∅
  known : ∀ socket, socket > 0 →
    m.sessions.mMap socket = (m.openSockets socket).map OpenSocket.networkId
  filed : ∀ socket info, m.openSockets socket = some info →
    info.side = .proxy ∧ socket > 0 ∧ m.mProxySocketMap info.networkId = some socket
  openFor : ∀ d socket, m.mProxySocketMap d = some socket →
    ∃ info, m.openSockets socket = some info ∧ info.networkId = d
  single : ∀ d proxyMap, m.mDeviceToProxyMap.lookup d = some proxyMap →
    (∃ r, proxyMap = AList.singleton (characteristic r) r) ∧ (m.mProxySocketMap d).isSome = true

/-- The filed socket of a device has that device as its peer. -/
theorem OneProxy.obtain_filed (h : OneProxy characteristic m)
    (hd : m.mProxySocketMap d = some socket) :
    obtainPeerDeviceId m.sessions socket = some d := by
  obtain ⟨info, hopen, rfl⟩ := h.openFor d socket hd
  have hpos := (h.filed socket info hopen).2.1
  unfold obtainPeerDeviceId
  rw [if_pos hpos, h.known socket hpos, hopen]
  rfl

/-- A socket that is not open has no peer. -/
theorem OneProxy.obtain_unopened (h : OneProxy characteristic m)
    (hopen : m.openSockets socket = none) : obtainPeerDeviceId m.sessions socket = none := by
  unfold obtainPeerDeviceId
  split_ifs with hpos
  · rw [h.known socket hpos, hopen]
    rfl
  · rfl

/-- A device has a socket exactly when one is filed. -/
theorem OneProxy.hasSocket_iff (h : OneProxy characteristic m) :
    HasSocket m d ↔ (m.mProxySocketMap d).isSome = true := by
  constructor
  · rintro ⟨socket, info, hopen, -, rfl⟩
    rw [(h.filed socket info hopen).2.2]
    rfl
  · intro hsome
    obtain ⟨socket, hsocket⟩ := Option.isSome_iff_exists.mp hsome
    obtain ⟨info, hopen, hd⟩ := h.openFor d socket hsocket
    exact ⟨socket, info, hopen, (h.filed socket info hopen).1, hd⟩

/-- A map of one proxy is not empty. -/
theorem entries_singleton_ne_nil (c : Characteristic) (r : SessionRef) :
    (AList.singleton c r : ProxyMap).entries ≠ [] := List.cons_ne_nil _ _

/-- What is left to check of the registry. -/
theorem OneProxy.registered (h : OneProxy characteristic s.manager)
    (hentries : ∀ d c, entered s.manager d c = s.created d c)
    (hbalanced : ∀ r, IsRegistered s r → connects s.manager r = disconnects s.manager r + 1)
    (heven : ∀ r, ¬ IsRegistered s r → connects s.manager r = disconnects s.manager r) :
    Registered s := by
  refine ⟨hentries, fun d proxyMap hlookup => ?_, fun d => h.hasSocket_iff.symm, hbalanced, heven⟩
  obtain ⟨⟨r, rfl⟩, -⟩ := h.single d proxyMap hlookup
  exact entries_singleton_ne_nil _ _

/-- A device without a socket has no proxy. -/
theorem OneProxy.lookup_eq_none (h : OneProxy characteristic m) (hd : m.mProxySocketMap d = none) :
    m.mDeviceToProxyMap.lookup d = none := by
  cases hlookup : m.mDeviceToProxyMap.lookup d with
  | none => rfl
  | some proxyMap =>
      have hsome := (h.single d proxyMap hlookup).2
      rw [hd] at hsome
      exact absurd hsome Bool.false_ne_true

/-- A map of one proxy finds that one. -/
theorem lookup_singleton (c c' : Characteristic) (r : SessionRef) :
    (AList.singleton c r : ProxyMap).lookup c' = if c' = c then some r else none := by
  rw [← AList.insert_empty]
  split_ifs with h
  · rw [h, AList.lookup_insert]
  · rw [AList.lookup_insert_ne h, AList.lookup_empty]

/-- A map of one proxy is empty once it is erased. -/
theorem entries_erase_singleton (c : Characteristic) (r : SessionRef) :
    ((AList.singleton c r : ProxyMap).erase c).entries = [] := by
  have hkeys : ((AList.singleton c r : ProxyMap).erase c).keys = [] := by
    rw [AList.keys_erase, AList.keys_singleton, List.erase_cons_head]
  exact List.map_eq_nil_iff.mp hkeys

/-- Without a socket for the device CreateProxy connects first. -/
theorem createProxy_of_noSocket (hd : m.mProxySocketMap d = none) {packageName : String}
    (hne : d ≠ "") (hpackage : packageName ≠ "") (results : List Socket) :
    createProxy m characteristic (some r) d packageName results =
      connectNewProxy { m with isServer := false } characteristic r d results := by
  unfold createProxy
  simp only [hne, hpackage, or_self, if_false, hd]

/-- The proxy is entered before the connection is tried. -/
def enterProxy (characteristic : SessionRef → Characteristic) (m : DataManager) (r : SessionRef)
    (d : NetworkId) : DataManager :=
  { m with
    isServer := false
    mDeviceToProxyMap :=
      m.mDeviceToProxyMap.insert d (AList.singleton (characteristic r) r) }

/-- The first proxy of a device is entered and connected once its bind succeeds. -/
theorem connectNewProxy_of_lookup_none (hlookup : m.mDeviceToProxyMap.lookup d = none)
    (results : List Socket) :
    connectNewProxy { m with isServer := false } characteristic r d results =
      let connected := connectRemoteDevice d softbusLinkMaxRetryTimes results
        (enterProxy characteristic m r d)
      if connected.2 ≤ 0 then
        ({ connected.1 with mDeviceToProxyMap := connected.1.mDeviceToProxyMap.erase d }, false)
      else (onSessionProxyOpened connected.1 connected.2, true) := by
  unfold connectNewProxy
  simp only [hlookup, entries_erase_singleton, if_true]
  rfl

/-- A proxy that cannot be connected is taken out again. -/
theorem createProxy_of_not_connected (hd : m.mProxySocketMap d = none)
    (hlookup : m.mDeviceToProxyMap.lookup d = none) {packageName : String} (hne : d ≠ "")
    (hpackage : packageName ≠ "") {results : List Socket} (h : ¬ CanConnect m results) :
    createProxy m characteristic (some r) d packageName results =
      ({ enterProxy characteristic m r d with
          mDeviceToProxyMap :=
            (m.mDeviceToProxyMap.insert d (AList.singleton (characteristic r) r)).erase d },
        false) := by
  rw [createProxy_of_noSocket hd hne hpackage, connectNewProxy_of_lookup_none hlookup]
  have hd' : (enterProxy characteristic m r d).mProxySocketMap d = none := hd
  rcases connectRemoteDevice_cases hd' softbusLinkMaxRetryTimes results with
    ⟨-, heq⟩ | ⟨socket, hmem, hunused, -⟩
  · rw [heq]
    rfl
  · exact absurd ⟨socket, hmem, hunused⟩ h

/-- The state in which a new proxy is connected. -/
def connectedProxy (characteristic : SessionRef → Characteristic) (m : DataManager) (r : SessionRef)
    (d : NetworkId) (socket : Socket) : DataManager :=
  { openSocket (enterProxy characteristic m r d) socket ⟨.proxy, configSoftbusSessionTag, d⟩ with
    mProxySocketMap := Function.update m.mProxySocketMap d (some socket) }.connectServer r socket

/-- A proxy that can be connected is connected once, to a socket that was not open. -/
theorem createProxy_of_connected (hinv : OneProxy characteristic m)
    (hd : m.mProxySocketMap d = none) {packageName : String} (hne : d ≠ "")
    (hpackage : packageName ≠ "") {results : List Socket} (h : CanConnect m results) :
    ∃ socket, Unused m socket ∧
      createProxy m characteristic (some r) d packageName results =
        (connectedProxy characteristic m r d socket, true) := by
  rw [createProxy_of_noSocket hd hne hpackage,
    connectNewProxy_of_lookup_none (hinv.lookup_eq_none hd)]
  have hd' : (enterProxy characteristic m r d).mProxySocketMap d = none := hd
  rcases connectRemoteDevice_cases hd' softbusLinkMaxRetryTimes results with
    ⟨hnone, -⟩ | ⟨socket, -, hunused, heq⟩
  · obtain ⟨socket, hmem, hunused⟩ := h
    exact absurd hunused (hnone socket hmem)
  · replace hunused : Unused m socket := hunused
    refine ⟨socket, hunused, ?_⟩
    rw [heq]
    dsimp only
    rw [if_neg (Int.not_le.mpr hunused.1)]
    have hmap : m.sessions.mMap socket = none := by
      rw [hinv.known socket hunused.1, hunused.2.1]
      rfl
    have hobtain : obtainPeerDeviceId (openSocket (enterProxy characteristic m r d) socket
        ⟨.proxy, configSoftbusSessionTag, d⟩).sessions socket = some d := by
      show (if socket > 0 then insertNew m.sessions.mMap socket d socket else none) = some d
      rw [if_pos hunused.1, insertNew_of_none hmap, Function.update_self]
    have hlookup : (openSocket (enterProxy characteristic m r d) socket
        ⟨.proxy, configSoftbusSessionTag, d⟩).mDeviceToProxyMap.lookup d =
          some (AList.singleton (characteristic r) r) := AList.lookup_insert _
    unfold onSessionProxyOpened
    simp only [hobtain, hlookup]
    have hnew : insertNew (openSocket (enterProxy characteristic m r d) socket
        ⟨.proxy, configSoftbusSessionTag, d⟩).mProxySocketMap d socket =
          Function.update m.mProxySocketMap d (some socket) := insertNew_of_none hd
    rw [hnew]
    rfl

/-- A proxy that is not entered is not released. -/
theorem releaseProxy_of_not_entered (hinv : OneProxy characteristic m)
    (h : d = "" ∨ entered m d (characteristic r) = none) :
    (releaseProxy m characteristic (some r) d).1 = m := by
  unfold releaseProxy
  by_cases hd : d = ""
  · simp only [hd, if_true]
  · simp only [hd, if_false]
    cases hlookup : m.mDeviceToProxyMap.lookup d with
    | none => rfl
    | some proxyMap =>
        obtain ⟨⟨q, rfl⟩, -⟩ := hinv.single d proxyMap hlookup
        have hnone : (AList.singleton (characteristic q) q : ProxyMap).lookup (characteristic r) =
            none := by
          have hentered := h.resolve_left hd
          unfold entered at hentered
          rw [hlookup] at hentered
          exact hentered
        have hne : characteristic r ≠ characteristic q := by
          intro heq
          rw [lookup_singleton, if_pos heq] at hnone
          exact absurd hnone (Option.some_ne_none _)
        have herase : ((AList.singleton (characteristic q) q : ProxyMap).erase
            (characteristic r)).entries ≠ [] := by
          intro hnil
          have hkeys : ((AList.singleton (characteristic q) q : ProxyMap).erase
              (characteristic r)).keys = [] := List.map_eq_nil_iff.mpr hnil
          rw [AList.keys_erase, AList.keys_singleton,
            List.erase_cons_tail (by simpa using hne.symm)] at hkeys
          exact absurd hkeys (List.cons_ne_nil _ _)
        simp only [hnone]
        rw [if_neg herase]

/-- The proxy that is released is disconnected, and once more when the socket is closed. -/
theorem calls_releaseProxy (hinv : OneProxy characteristic m) (hne : d ≠ "")
    (h : entered m d (characteristic r) = some q) :
    ∃ socket, (releaseProxy m characteristic (some r) d).1.calls =
      m.calls ++ [.disconnectServer q socket, .disconnectServer q socket] := by
  cases hlookup : m.mDeviceToProxyMap.lookup d with
  | none =>
      unfold entered at h
      rw [hlookup] at h
      exact absurd h.symm (Option.some_ne_none _)
  | some proxyMap =>
      obtain ⟨⟨q', rfl⟩, hsome⟩ := hinv.single d proxyMap hlookup
      obtain ⟨socket, hsocket⟩ := Option.isSome_iff_exists.mp hsome
      unfold entered at h
      rw [hlookup, Option.bind_some, lookup_singleton] at h
      split_ifs at h with hchar
      · obtain rfl := Option.some.inj h
        have hself : (AList.singleton (characteristic q') q' : ProxyMap).lookup (characteristic r) =
            some q' := by rw [lookup_singleton, if_pos hchar]
        have hobtain :
            obtainPeerDeviceId (m.disconnectServer q' socket).sessions socket = some d := by
          have hmap : (m.disconnectServer q' socket).sessions.mMap = m.sessions.mMap :=
            mMap_disconnectProxy ..
          unfold obtainPeerDeviceId
          rw [hmap]
          exact hinv.obtain_filed hsocket
        have hcopy : (m.disconnectServer q' socket).mDeviceToProxyMap.lookup d =
            some (AList.singleton (characteristic q') q') := hlookup
        have hsocket' : (m.disconnectServer q' socket).mProxySocketMap d = some socket := hsocket
        refine ⟨socket, ?_⟩
        unfold releaseProxy
        simp only [hne, if_false, hlookup, hself, hsocket]
        rw [hchar, if_pos (entries_erase_singleton _ _)]
        simp only [hsocket']
        unfold onSessionProxyClosed
        simp only [hobtain, hcopy]
        rw [if_neg (entries_singleton_ne_nil _ _)]
        show (m.calls ++ [_]) ++ [_] = _
        rw [List.append_assoc]
        rfl

/-- Disconnecting the proxies closes no socket. -/
theorem disconnectServers_frame (m : DataManager) (proxyMap : ProxyMap) (socket : Socket) :
    (disconnectServers m proxyMap socket).mProxySocketMap = m.mProxySocketMap ∧
      (disconnectServers m proxyMap socket).openSockets = m.openSockets := by
  unfold disconnectServers
  induction proxyMap.entries generalizing m with
  | nil => exact ⟨rfl, rfl⟩
  | cons e es ih => exact ih (m.disconnectServer e.2 socket)

/-- A session that is closed leaves the sockets, and what is filed about them, alone. -/
theorem sessionClosed_frame (hinv : OneProxy characteristic m) (socket : Socket) :
    (sessionClosed m socket).mProxySocketMap = m.mProxySocketMap ∧
      (sessionClosed m socket).openSockets = m.openSockets := by
  unfold sessionClosed
  split_ifs
  · exact ⟨rfl, rfl⟩
  · unfold onSessionServerClosed
    rw [hinv.noServer]
    exact ⟨rfl, rfl⟩
  · unfold onSessionProxyClosed
    cases obtainPeerDeviceId m.sessions socket with
    | none => exact ⟨rfl, rfl⟩
    | some networkId =>
        dsimp only
        cases m.mDeviceToProxyMap.lookup networkId with
        | none => exact ⟨rfl, rfl⟩
        | some proxyMap =>
            dsimp only
            split_ifs
            · exact ⟨rfl, rfl⟩
            · exact disconnectServers_frame m proxyMap socket

/-- The event of a socket that is not open changes nothing that matters. -/
theorem sessionClosed_of_unopened (hinv : OneProxy characteristic m)
    (hopen : m.openSockets socket = none) : sessionClosed m socket = m := by
  unfold sessionClosed
  split_ifs
  · rfl
  · unfold onSessionServerClosed
    rw [hinv.noServer]
    rfl
  · unfold onSessionProxyClosed
    rw [hinv.obtain_unopened hopen]

/-- The counts grow by what is appended to the log. -/
theorem connects_append (m m' : DataManager) (l : List Call) (h : m'.calls = m.calls ++ l) :
    connects m' r = connects m r + l.countP (isConnect r) ∧
      disconnects m' r = disconnects m r + l.countP (isDisconnect r) := by
  unfold connects disconnects
  rw [h, List.countP_append, List.countP_append]
  exact ⟨rfl, rfl⟩

end registration

/-! ## The runs that keep the registry -/

section keep

variable {characteristic : SessionRef → Characteristic} {s : ProxyState} {op : ProxyOp}

/-- A manager that differs in the side only, and in how its entries are listed. -/
theorem OneProxy.of_same {m m' : DataManager} (h : OneProxy characteristic m)
    (hserver : m'.serverMap = m.serverMap)
    (hmap : ∀ socket > 0, m'.sessions.mMap socket = m.sessions.mMap socket)
    (hopen : m'.openSockets = m.openSockets) (hsocket : m'.mProxySocketMap = m.mProxySocketMap)
    (hlookup : ∀ d, m'.mDeviceToProxyMap.lookup d = m.mDeviceToProxyMap.lookup d) :
    OneProxy characteristic m' := by
  refine ⟨hserver.trans h.noServer, fun socket hpos => ?_, ?_, ?_, ?_⟩
  · rw [hmap socket hpos, hopen]
    exact h.known socket hpos
  · rw [hopen, hsocket]
    exact h.filed
  · rw [hopen, hsocket]
    exact h.openFor
  · intro d proxyMap hd
    rw [hlookup] at hd
    rw [hsocket]
    exact h.single d proxyMap hd

variable {m : DataManager} {d : NetworkId} {r : SessionRef} {socket : Socket}

/-- A new proxy is the only one of its device. -/
theorem OneProxy.connectedProxy (h : OneProxy characteristic m) (hd : m.mProxySocketMap d = none)
    (hunused : Unused m socket) (r : SessionRef) :
    OneProxy characteristic (connectedProxy characteristic m r d socket) := by
  have hnone : m.sessions.mMap socket = none := by
    rw [h.known socket hunused.1, hunused.2.1]
    rfl
  have hmap : (Softbus.connectedProxy characteristic m r d socket).sessions.mMap =
      Function.update m.sessions.mMap socket (some d) :=
    (mMap_connectProxy ..).trans (insertNew_of_none hnone)
  have hopen : (Softbus.connectedProxy characteristic m r d socket).openSockets =
      Function.update m.openSockets socket (some ⟨.proxy, configSoftbusSessionTag, d⟩) := rfl
  have hsocket : (Softbus.connectedProxy characteristic m r d socket).mProxySocketMap =
      Function.update m.mProxySocketMap d (some socket) := rfl
  refine ⟨h.noServer, fun k hk => ?_, fun k info hk => ?_, fun d' k hk => ?_,
    fun d' proxyMap hproxy => ?_⟩
  · rw [hmap, hopen]
    by_cases hks : k = socket
    · subst hks
      rw [Function.update_self, Function.update_self]
      rfl
    · rw [Function.update_of_ne hks, Function.update_of_ne hks]
      exact h.known k hk
  · rw [hopen] at hk
    rw [hsocket]
    by_cases hks : k = socket
    · subst hks
      rw [Function.update_self, Option.some.injEq] at hk
      subst hk
      exact ⟨rfl, hunused.1, Function.update_self ..⟩
    · rw [Function.update_of_ne hks] at hk
      obtain ⟨hside, hpos, hfiled⟩ := h.filed k info hk
      refine ⟨hside, hpos, ?_⟩
      rw [Function.update_of_ne, hfiled]
      intro heq
      rw [heq, hd] at hfiled
      exact absurd hfiled.symm (Option.some_ne_none _)
  · rw [hsocket] at hk
    rw [hopen]
    by_cases hdd : d' = d
    · subst hdd
      rw [Function.update_self, Option.some.injEq] at hk
      subst hk
      exact ⟨_, Function.update_self .., rfl⟩
    · rw [Function.update_of_ne hdd] at hk
      obtain ⟨info, hinfo, hd'⟩ := h.openFor d' k hk
      refine ⟨info, ?_, hd'⟩
      rw [Function.update_of_ne, hinfo]
      intro heq
      rw [heq, hunused.2.1] at hinfo
      exact absurd hinfo.symm (Option.some_ne_none _)
  · rw [hsocket]
    change (m.mDeviceToProxyMap.insert d _).lookup d' = some proxyMap at hproxy
    by_cases hdd : d' = d
    · subst hdd
      rw [AList.lookup_insert, Option.some.injEq] at hproxy
      exact ⟨⟨r, hproxy.symm⟩, by rw [Function.update_self]; rfl⟩
    · rw [AList.lookup_insert_ne hdd] at hproxy
      rw [Function.update_of_ne hdd]
      exact h.single d' proxyMap hproxy

/-- The connected proxy is entered for its device, in place of what was there. -/
theorem entered_connectedProxy (d' : NetworkId) (c : Characteristic) :
    entered (connectedProxy characteristic m r d socket) d' c =
      if d' = d then if c = characteristic r then some r else none else entered m d' c := by
  show ((m.mDeviceToProxyMap.insert d _).lookup d').bind _ = _
  split_ifs with hd hc
  · rw [hd, AList.lookup_insert, Option.bind_some, lookup_singleton, if_pos hc]
  · rw [hd, AList.lookup_insert, Option.bind_some, lookup_singleton, if_neg hc]
  · rw [AList.lookup_insert_ne hd]
    rfl

/-- One entry of the created proxies is set. -/
theorem setCreated_apply (created : NetworkId → Characteristic → Option SessionRef)
    (d d' : NetworkId) (c c' : Characteristic) (x : Option SessionRef) :
    setCreated created d c x d' c' =
      if d' = d then if c' = c then x else created d c' else created d' c' := by
  unfold setCreated
  rw [Function.update_apply]
  split_ifs with hd hc
  · rw [hc, Function.update_self]
  · exact Function.update_of_ne hc _ _
  · rfl

/-- A successful CreateProxy is noted. -/
theorem proxyStep_createProxy_of_true {packageName : String} {results : List Socket}
    {m' : DataManager}
    (h : createProxy s.manager characteristic (some r) d packageName results = (m', true)) :
    proxyStep characteristic s (.createProxy (some r) d packageName results) =
      ⟨m', setCreated s.created d (characteristic r) (some r)⟩ := by
  unfold proxyStep
  dsimp only
  rw [h]

/-- A failed CreateProxy is not. -/
theorem proxyStep_createProxy_of_false {proxy : Option SessionRef} {packageName : String}
    {results : List Socket} {m' : DataManager}
    (h : createProxy s.manager characteristic proxy d packageName results = (m', false)) :
    proxyStep characteristic s (.createProxy proxy d packageName results) =
      { s with manager := m' } := by
  unfold proxyStep
  dsimp only
  rw [h]
  cases proxy <;> rfl

/-- The entry set is found. -/
theorem setCreated_self (created : NetworkId → Characteristic → Option SessionRef)
    (d : NetworkId) (c : Characteristic) (x : Option SessionRef) :
    setCreated created d c x d c = x := by
  rw [setCreated_apply, if_pos rfl, if_pos rfl]

/-- A release is noted for the proxy that was created. -/
theorem proxyStep_releaseProxy (s : ProxyState) (r : SessionRef) (d : NetworkId) :
    proxyStep characteristic s (.releaseProxy (some r) d) =
      ⟨(releaseProxy s.manager characteristic (some r) d).1,
        if s.created d (characteristic r) = some r then
          setCreated s.created d (characteristic r) none
        else s.created⟩ := by
  unfold proxyStep
  dsimp only
  split_ifs <;> rfl

/-- One connect more is counted for its own proxy. -/
theorem connects_one (m m' : DataManager) (q r : SessionRef)
    (h : m'.calls = m.calls ++ [.connectServer r socket]) :
    connects m' q = connects m q + (if r = q then 1 else 0) ∧
      disconnects m' q = disconnects m q := by
  obtain ⟨hconnects, hdisconnects⟩ := connects_append (r := q) m m' _ h
  rw [hconnects, hdisconnects, List.countP_singleton, List.countP_singleton]
  unfold isConnect isDisconnect
  simp only [decide_eq_true_eq, Bool.false_eq_true, if_false, Nat.add_zero, and_self]

/-- Creating a proxy for a device that there is a socket to breaks the registry: a new one is not
entered, and one that is registered is connected once more. -/
theorem not_registered_of_socket (hinv : OneProxy characteristic s.manager) (hP : Registered s)
    (hd : s.manager.mProxySocketMap d = some socket) {packageName : String} (hne : d ≠ "")
    (hpackage : packageName ≠ "") (results : List Socket) :
    ¬ Registered (proxyStep characteristic s (.createProxy (some r) d packageName results)) := by
  have hpos : ¬ socket ≤ 0 := by
    obtain ⟨info, hopen, -⟩ := hinv.openFor d socket hd
    exact Int.not_le.mpr (hinv.filed socket info hopen).2.1
  have hcreate : createProxy s.manager characteristic (some r) d packageName results =
      ({ s.manager with isServer := false }.connectServer r socket, true) := by
    unfold createProxy
    simp only [hne, hpackage, or_self, if_false, hd]
    rw [if_neg hpos, if_pos (hinv.obtain_filed hd)]
  rw [proxyStep_createProxy_of_true hcreate]
  intro h
  have hentered : s.created d (characteristic r) = some r := by
    rw [← hP.entries d (characteristic r)]
    exact (h.entries d (characteristic r)).trans (setCreated_self ..)
  have hbefore := hP.balanced r ⟨d, _, hentered⟩
  have hafter := h.balanced r ⟨d, _, setCreated_self ..⟩
  obtain ⟨hconnects, hdisconnects⟩ := connects_one s.manager
    (({ s.manager with isServer := false } : DataManager).connectServer r socket) r r rfl
  rw [if_pos rfl] at hconnects
  change connects (({ s.manager with isServer := false } : DataManager).connectServer r socket) r =
    disconnects (({ s.manager with isServer := false } : DataManager).connectServer r socket) r + 1
    at hafter
  omega

/-- A device without a socket has created no proxy. -/
theorem created_eq_none (hinv : OneProxy characteristic s.manager) (hP : Registered s)
    (hd : s.manager.mProxySocketMap d = none) (c : Characteristic) : s.created d c = none := by
  rw [← hP.entries d c]
  unfold entered
  rw [hinv.lookup_eq_none hd]
  rfl

/-- What is registered once a new proxy of a device without one is. -/
theorem isRegistered_setCreated (m : DataManager) (hnone : ∀ c, s.created d c = none) (c) (q) :
    IsRegistered ⟨m, setCreated s.created d c (some r)⟩ q ↔ r = q ∨ IsRegistered s q := by
  constructor
  · rintro ⟨d', c', hcreated⟩
    change setCreated s.created d c (some r) d' c' = some q at hcreated
    rw [setCreated_apply] at hcreated
    split_ifs at hcreated with hd hc
    · exact Or.inl (Option.some.inj hcreated)
    · rw [hnone] at hcreated
      exact absurd hcreated.symm (Option.some_ne_none _)
    · exact Or.inr ⟨d', c', hcreated⟩
  · rintro (rfl | ⟨d', c', hcreated⟩)
    · exact ⟨d, c, setCreated_self ..⟩
    · refine ⟨d', c', ?_⟩
      show setCreated s.created d c (some r) d' c' = some q
      rw [setCreated_apply, if_neg, hcreated]
      rintro rfl
      rw [hnone] at hcreated
      exact absurd hcreated.symm (Option.some_ne_none _)

/-- A new proxy that is connected keeps the registry iff it is not registered elsewhere. -/
theorem registered_connectedProxy_iff (hinv : OneProxy characteristic s.manager)
    (hP : Registered s) (hd : s.manager.mProxySocketMap d = none)
    (hunused : Unused s.manager socket) :
    Registered ⟨connectedProxy characteristic s.manager r d socket,
      setCreated s.created d (characteristic r) (some r)⟩ ↔ ¬ IsRegistered s r := by
  have hnone := created_eq_none hinv hP hd
  have hcounts := fun q => connects_one s.manager
    (connectedProxy characteristic s.manager r d socket) q r rfl
  have hregistered := isRegistered_setCreated (r := r)
    (connectedProxy characteristic s.manager r d socket) hnone (characteristic r)
  constructor
  · intro h hr
    have hbefore := hP.balanced r hr
    have hafter := h.balanced r ((hregistered r).mpr (Or.inl rfl))
    change connects (connectedProxy characteristic s.manager r d socket) r =
      disconnects (connectedProxy characteristic s.manager r d socket) r + 1 at hafter
    rw [(hcounts r).1, (hcounts r).2, if_pos rfl] at hafter
    omega
  · intro hr
    refine OneProxy.registered (hinv.connectedProxy hd hunused r) (fun d' c => ?_)
      (fun q hq => ?_) fun q hq => ?_
    · show entered (connectedProxy characteristic s.manager r d socket) d' c =
        setCreated s.created d (characteristic r) (some r) d' c
      rw [entered_connectedProxy, setCreated_apply]
      split_ifs with hd' hc
      · rfl
      · exact (hnone c).symm
      · exact hP.entries d' c
    · show connects (connectedProxy characteristic s.manager r d socket) q =
        disconnects (connectedProxy characteristic s.manager r d socket) q + 1
      rw [(hcounts q).1, (hcounts q).2]
      by_cases hrq : r = q
      · subst hrq
        rw [if_pos rfl, hP.even r hr]
      · rw [if_neg hrq, Nat.add_zero]
        exact hP.balanced q (((hregistered q).mp hq).resolve_left hrq)
    · show connects (connectedProxy characteristic s.manager r d socket) q =
        disconnects (connectedProxy characteristic s.manager r d socket) q
      rw [hregistered, not_or] at hq
      rw [(hcounts q).1, (hcounts q).2, if_neg hq.1, Nat.add_zero]
      exact hP.even q hq.2

/-- A step after which the entries and the calls are the same. -/
theorem Registered.of_same (hP : Registered s) (h : OneProxy characteristic m)
    (hlookup : ∀ d, m.mDeviceToProxyMap.lookup d = s.manager.mDeviceToProxyMap.lookup d)
    (hcalls : m.calls = s.manager.calls) : Registered { s with manager := m } := by
  refine OneProxy.registered h (fun d c => ?_) (fun r hr => ?_) fun r hr => ?_
  · rw [← hP.entries d c]
    unfold entered
    rw [hlookup]
  · have hbefore := hP.balanced r hr
    unfold connects disconnects at hbefore ⊢
    rw [hcalls]
    exact hbefore
  · have hbefore := hP.even r hr
    unfold connects disconnects at hbefore ⊢
    rw [hcalls]
    exact hbefore

/-- Inserting and erasing a new device leaves the map as it was. -/
theorem lookup_erase_insert (m : AList fun _ : NetworkId => ProxyMap) (hd : m.lookup d = none)
    (x : ProxyMap) (d' : NetworkId) : ((m.insert d x).erase d).lookup d' = m.lookup d' := by
  by_cases hdd : d' = d
  · rw [hdd, AList.lookup_erase, hd]
  · rw [AList.lookup_erase_ne hdd, AList.lookup_insert_ne hdd]

/-- A release that finds a proxy disconnects it twice. -/
theorem not_registered_of_release (hinv : OneProxy characteristic s.manager) (hP : Registered s)
    (hne : d ≠ "") {q : SessionRef} (hq : s.created d (characteristic r) = some q) :
    ¬ Registered (proxyStep characteristic s (.releaseProxy (some r) d)) := by
  obtain ⟨socket, hcalls⟩ := calls_releaseProxy hinv hne ((hP.entries d _).trans hq)
  obtain ⟨hconnects, hdisconnects⟩ := connects_append (r := q) s.manager _ _ hcalls
  have hzero : ([.disconnectServer q socket, .disconnectServer q socket] : List Call).countP
      (isConnect q) = 0 := rfl
  have htwo : ([.disconnectServer q socket, .disconnectServer q socket] : List Call).countP
      (isDisconnect q) = 2 := by simp [isDisconnect]
  rw [hzero] at hconnects
  rw [htwo] at hdisconnects
  have hbefore := hP.balanced q ⟨d, _, hq⟩
  rw [proxyStep_releaseProxy]
  intro h
  by_cases hr : IsRegistered ⟨(releaseProxy s.manager characteristic (some r) d).1,
      if s.created d (characteristic r) = some r then
        setCreated s.created d (characteristic r) none
      else s.created⟩ q
  · have hafter := h.balanced q hr
    dsimp only at hafter
    omega
  · have hafter := h.even q hr
    dsimp only at hafter
    omega

/-- The socket that went down stays filed under its device. -/
theorem not_registered_of_closed (hinv : OneProxy characteristic s.manager) {info : OpenSocket}
    (hopen : s.manager.openSockets socket = some info) :
    ¬ Registered (proxyStep characteristic s (.socketClosed socket)) := by
  intro h
  obtain ⟨hsockets, hopens⟩ := sessionClosed_frame hinv socket
  have hmanager : (proxyStep characteristic s (.socketClosed socket)).manager =
      onShutdown s.manager socket := by
    unfold proxyStep
    dsimp only
    rw [hopen]
  have hfiled : ((onShutdown s.manager socket).mProxySocketMap info.networkId).isSome = true := by
    show ((sessionClosed s.manager socket).mProxySocketMap info.networkId).isSome = true
    rw [hsockets, (hinv.filed socket info hopen).2.2]
    rfl
  have hhas := (h.sockets info.networkId).mp (hmanager.symm ▸ hfiled)
  rw [hmanager] at hhas
  obtain ⟨k, info', hk, -, hnetworkId⟩ := hhas
  change eraseKey (sessionClosed s.manager socket).openSockets socket k = some info' at hk
  rw [hopens] at hk
  unfold eraseKey at hk
  by_cases hks : k = socket
  · rw [hks, Function.update_self] at hk
    exact absurd hk.symm (Option.some_ne_none _)
  · rw [Function.update_of_ne hks] at hk
    have hfile := (hinv.filed k info' hk).2.2
    rw [hnetworkId, (hinv.filed socket info hopen).2.2] at hfile
    exact hks (Option.some.inj hfile).symm

/-- The event of a socket that is not open keeps the registry. -/
theorem OneProxy.onShutdown (h : OneProxy characteristic m) (hopen : m.openSockets socket = none) :
    OneProxy characteristic (onShutdown m socket) := by
  have herase : eraseKey m.openSockets socket = m.openSockets := by
    unfold eraseKey
    rw [← hopen, Function.update_eq_self]
  unfold Softbus.onShutdown
  rw [sessionClosed_of_unopened h hopen]
  refine h.of_same rfl (fun k hk => ?_) herase rfl fun _ => rfl
  show eraseKey m.sessions.mMap socket k = m.sessions.mMap k
  unfold eraseKey
  by_cases hks : k = socket
  · subst hks
    rw [Function.update_self, h.known k hk, hopen]
    rfl
  · exact Function.update_of_ne hks _ _

end keep

/-! ## The runs that keep the registry -/

section main

variable {characteristic : SessionRef → Characteristic} {s : ProxyState} {op : ProxyOp}

/-- What holds along a run in which every operation keeps the registry. -/
def ProxyInv (characteristic : SessionRef → Characteristic) (s : ProxyState) : Prop :=
  OneProxy characteristic s.manager ∧ ∀ c, s.created "" c = none

/-- Without proxies there is nothing to keep. -/
theorem proxyInv_initial : ProxyInv characteristic .initial := by
  refine ⟨⟨rfl, fun _ _ => rfl, fun _ _ h => ?_, fun _ _ h => ?_, fun _ _ h => ?_⟩, fun _ => rfl⟩
  · exact absurd h.symm (Option.some_ne_none _)
  · exact absurd h.symm (Option.some_ne_none _)
  · exact absurd h.symm (Option.some_ne_none _)

/-- Without proxies there is none to register. -/
theorem registered_initial : Registered .initial :=
  (@proxyInv_initial fun _ => 0).1.registered (fun _ _ => rfl)
    (fun _ ⟨_, _, h⟩ => absurd h.symm (Option.some_ne_none _)) fun _ _ => rfl

/-- A call that does nothing to the proxies. -/
theorem keep_of_same {m : DataManager} (h : ProxyInv characteristic s) (hP : Registered s)
    (hm : OneProxy characteristic m)
    (hlookup : ∀ d, m.mDeviceToProxyMap.lookup d = s.manager.mDeviceToProxyMap.lookup d)
    (hcalls : m.calls = s.manager.calls) :
    ProxyInv characteristic { s with manager := m } ∧ Registered { s with manager := m } :=
  ⟨⟨hm, h.2⟩, hP.of_same hm hlookup hcalls⟩

/-- Creating a proxy for a device without a socket. -/
theorem keep_createProxy {d : NetworkId} {r : SessionRef} {packageName : String}
    (results : List Socket) (h : ProxyInv characteristic s) (hP : Registered s) (hne : d ≠ "")
    (hpackage : packageName ≠ "") (hd : s.manager.mProxySocketMap d = none) :
    (Registered (proxyStep characteristic s (.createProxy (some r) d packageName results)) ↔
      (CanConnect s.manager results → ¬ IsRegistered s r)) ∧
    (ProxyInv characteristic
      (proxyStep characteristic s (.createProxy (some r) d packageName results))) := by
  have hlookup := h.1.lookup_eq_none hd
  by_cases hconnect : CanConnect s.manager results
  · obtain ⟨socket, hunused, hcreate⟩ := createProxy_of_connected h.1 hd hne hpackage hconnect
    rw [proxyStep_createProxy_of_true hcreate]
    refine ⟨?_, h.1.connectedProxy hd hunused r, fun c => ?_⟩
    · rw [registered_connectedProxy_iff h.1 hP hd hunused]
      exact ⟨fun hr _ => hr, fun hr => hr hconnect⟩
    · show setCreated s.created d (characteristic r) (some r) "" c = none
      rw [setCreated_apply, if_neg (Ne.symm hne)]
      exact h.2 c
  · rw [proxyStep_createProxy_of_false
      (createProxy_of_not_connected hd hlookup hne hpackage hconnect)]
    have hsame := lookup_erase_insert s.manager.mDeviceToProxyMap hlookup
      (AList.singleton (characteristic r) r)
    obtain ⟨hinv, hregistered⟩ := keep_of_same h hP
      (m := { enterProxy characteristic s.manager r d with
        mDeviceToProxyMap := (s.manager.mDeviceToProxyMap.insert d
          (AList.singleton (characteristic r) r)).erase d })
      (h.1.of_same rfl (fun _ _ => rfl) rfl rfl hsame) hsame rfl
    exact ⟨⟨fun _ hc => absurd hc hconnect, fun _ => hregistered⟩, hinv⟩

/-- CreateProxy refuses a null proxy and empty names. -/
theorem createProxy_of_invalid {proxy : Option SessionRef} {d : NetworkId} {packageName : String}
    (h : proxy = none ∨ d = "" ∨ packageName = "") (m : DataManager) (results : List Socket) :
    createProxy m characteristic proxy d packageName results = (m, false) := by
  unfold createProxy
  cases proxy with
  | none => rfl
  | some r => exact if_pos (h.resolve_left (Option.some_ne_none r))

/-- A call without a proxy, or without a device. -/
theorem keep_createProxy_of_invalid {proxy : Option SessionRef} {d : NetworkId}
    {packageName : String} (results : List Socket) (h : ProxyInv characteristic s)
    (hP : Registered s) (hinvalid : proxy = none ∨ d = "" ∨ packageName = "") :
    ProxyInv characteristic
      (proxyStep characteristic s (.createProxy proxy d packageName results)) ∧
    Registered (proxyStep characteristic s (.createProxy proxy d packageName results)) := by
  rw [proxyStep_createProxy_of_false (createProxy_of_invalid hinvalid s.manager results)]
  exact ⟨h, hP⟩

/-- A release that finds no proxy. -/
theorem keep_releaseProxy {d : NetworkId} {r : SessionRef} (h : ProxyInv characteristic s)
    (hP : Registered s) (hd : d = "" ∨ s.created d (characteristic r) = none) :
    ProxyInv characteristic (proxyStep characteristic s (.releaseProxy (some r) d)) ∧
    Registered (proxyStep characteristic s (.releaseProxy (some r) d)) := by
  have hnone : s.created d (characteristic r) = none := by
    rcases hd with rfl | hd
    · exact h.2 _
    · exact hd
  rw [proxyStep_releaseProxy, hnone, if_neg (Option.some_ne_none r).symm,
    releaseProxy_of_not_entered h.1 (Or.inr ((hP.entries d _).trans hnone))]
  exact ⟨h, hP⟩

/-- The event of a socket that is not open. -/
theorem keep_socketClosed {socket : Socket} (h : ProxyInv characteristic s) (hP : Registered s)
    (hopen : s.manager.openSockets socket = none) :
    ProxyInv characteristic (proxyStep characteristic s (.socketClosed socket)) ∧
    Registered (proxyStep characteristic s (.socketClosed socket)) := by
  have hstep : proxyStep characteristic s (.socketClosed socket) =
      { s with manager := onShutdown s.manager socket } := by
    unfold proxyStep
    dsimp only
    rw [hopen]
  rw [hstep]
  refine keep_of_same h hP (h.1.onShutdown hopen) (fun _ => ?_) ?_
  · unfold onShutdown
    rw [sessionClosed_of_unopened h.1 hopen]
    rfl
  · unfold onShutdown
    rw [sessionClosed_of_unopened h.1 hopen]
    rfl

/-- One step keeps the registry iff it meets the condition, and then it keeps what holds. -/
theorem keep_step (h : ProxyInv characteristic s) (hP : Registered s) :
    (Registered (proxyStep characteristic s op) ↔ KeepsRegistry characteristic s op) ∧
    (KeepsRegistry characteristic s op →
      ProxyInv characteristic (proxyStep characteristic s op)) := by
  cases op with
  | createProxy proxy d packageName results =>
      by_cases hinvalid : proxy = none ∨ d = "" ∨ packageName = ""
      · obtain ⟨hinv, hregistered⟩ := keep_createProxy_of_invalid results h hP hinvalid
        refine ⟨⟨fun _ => ?_, fun _ => hregistered⟩, fun _ => hinv⟩
        cases proxy with
        | none => trivial
        | some r =>
            intro hne hpackage
            rcases hinvalid with hnone | hd | hpack
            · exact absurd hnone (Option.some_ne_none r)
            · exact absurd hd hne
            · exact absurd hpack hpackage
      · obtain ⟨hsome, hne, hpackage⟩ := by simpa only [not_or] using hinvalid
        obtain ⟨r, rfl⟩ := Option.ne_none_iff_exists'.mp hsome
        have hok : KeepsRegistry characteristic s (.createProxy (some r) d packageName results) ↔
            s.manager.mProxySocketMap d = none ∧
              (CanConnect s.manager results → ¬ IsRegistered s r) :=
          ⟨fun hk => hk hne hpackage, fun hk _ _ => hk⟩
        rw [hok]
        cases hd : s.manager.mProxySocketMap d with
        | none =>
            obtain ⟨hiff, hinv⟩ := keep_createProxy results h hP hne hpackage hd
            exact ⟨hiff.trans ⟨fun hk => ⟨rfl, hk⟩, And.right⟩, fun _ => hinv⟩
        | some socket =>
            refine ⟨⟨fun hk => ?_, fun hk => ?_⟩, fun hk => ?_⟩
            · exact absurd hk (not_registered_of_socket h.1 hP hd hne hpackage results)
            · exact absurd hk.1 (Option.some_ne_none socket)
            · exact absurd hk.1 (Option.some_ne_none socket)
  | releaseProxy proxy d =>
      cases proxy with
      | none => exact ⟨⟨fun _ => trivial, fun _ => hP⟩, fun _ => h⟩
      | some r =>
          by_cases hd : d = "" ∨ s.created d (characteristic r) = none
          · obtain ⟨hinv, hregistered⟩ := keep_releaseProxy h hP hd
            exact ⟨⟨fun _ => hd.resolve_left, fun _ => hregistered⟩, fun _ => hinv⟩
          · rw [not_or] at hd
            obtain ⟨q, hq⟩ := Option.ne_none_iff_exists'.mp hd.2
            refine ⟨⟨fun hk => ?_, fun hk => ?_⟩, fun hk => ?_⟩
            · exact absurd hk (not_registered_of_release h.1 hP hd.1 hq)
            · exact absurd (hk hd.1) hd.2
            · exact absurd (hk hd.1) hd.2
  | socketClosed socket =>
      cases hopen : s.manager.openSockets socket with
      | none =>
          obtain ⟨hinv, hregistered⟩ := keep_socketClosed h hP hopen
          exact ⟨⟨fun _ => hopen, fun _ => hregistered⟩, fun _ => hinv⟩
      | some info =>
          refine ⟨⟨fun hk => ?_, fun hk => ?_⟩, fun hk => ?_⟩
          · exact absurd hk (not_registered_of_closed h.1 hopen)
          · exact absurd (hopen.symm.trans hk) (Option.some_ne_none info)
          · exact absurd (hopen.symm.trans hk) (Option.some_ne_none info)

/-- The registry is what it promises all along a run iff each device gets at most one proxy, created
while there is no socket to it and registered nowhere else if it is connected, and no registered
proxy is released and no open socket goes down. -/
theorem proxies_registered_iff (characteristic : SessionRef → Characteristic) (ops : List ProxyOp) :
    Always (proxyStep characteristic) Registered .initial ops ↔
      Meets (proxyStep characteristic) (KeepsRegistry characteristic) .initial ops :=
  always_iff_meets_of_side (fun _ _ h hP => (keep_step h hP).2) (fun _ _ h hP => (keep_step h hP).1)
    ops proxyInv_initial registered_initial

/-- A proxy that is created and released: it was connected once, and disconnected twice. -/
theorem released_twice :
    ¬ ∀ ops : List ProxyOp,
      Always (proxyStep fun _ => 2) Registered .initial ops := by
  intro h
  have hlast :=
    (h [.createProxy (some 7) "phone" "AVSession" [1], .releaseProxy (some 7) "phone"]).last
  by_cases hr : IsRegistered (run (proxyStep fun _ => 2) .initial
    [.createProxy (some 7) "phone" "AVSession" [1], .releaseProxy (some 7) "phone"]) 7
  · exact absurd (hlast.balanced 7 hr) (by decide)
  · exact absurd (hlast.even 7 hr) (by decide)

end main

end AvSession.Softbus
