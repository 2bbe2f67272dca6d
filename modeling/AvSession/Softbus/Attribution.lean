import AvSession.Softbus.References

/-!
# Whose bytes they are

Bytes that arrive on a socket are routed by what the data manager remembers of all sockets together:
the side of the last call that set it, and the name and the peer of the socket that was opened last.

* `SoftbusEvent` — the events of the sockets, between calls that create and release servers and
  proxies.
* `Attributed` — bytes go to the handler of their socket, with the peer of their socket.
* `attributed_iff` — the runs along which they do: every time bytes arrive, the side, and the cached
  peer, are those of the socket, or nobody handles the bytes.
-/

namespace AvSession.Softbus

open AvSession.Lib

/-! ## Events -/

section events

/-- An event of a socket, or a call of the data manager with what Softbus answers. -/
inductive SoftbusEvent
  | opened (socket : Socket) (name networkId : Option String)
  | closed (socket : Socket)
  | bytes (socket : Socket) (data : Bytes)
  | initSessionServer (pkg : String) (result : Socket)
  | createServer (server : Option SessionRef)
  | releaseServer (server : Option SessionRef)
  | destroySessionServer (pkg : String)
  | createProxy (proxy : Option SessionRef) (peerNetworkId : NetworkId) (packageName : String)
      (results : List Socket)
  | releaseProxy (proxy : Option SessionRef) (peerNetworkId : NetworkId)

variable (characteristic : SessionRef → Characteristic) (s : DataManager)

/-- One event. Bytes arrive on open sockets only. -/
def softbusStep : SoftbusEvent → DataManager
  | .opened socket name networkId => onBind s socket name networkId
  | .closed socket => onShutdown s socket
  | .bytes socket data => if (s.openSockets socket).isSome then bytesReceived s socket data else s
  | .initSessionServer pkg result => initSessionServer s pkg result
  | .createServer server => createServer s characteristic server
  | .releaseServer server => releaseServer s characteristic server
  | .destroySessionServer pkg => destroySessionServer s characteristic pkg
  | .createProxy proxy d packageName results =>
      (createProxy s characteristic proxy d packageName results).1
  | .releaseProxy proxy d => (releaseProxy s characteristic proxy d).1

/-- The handler of bytes of a socket: a server, if the socket has the name of the service, or a
proxy of the peer. It is read off the maps of the manager: a second proxy that was connected over
a socket without being entered there is none. -/
def ownHandler (info : OpenSocket) (c : Characteristic) : Option SessionRef :=
  match info.side with
  | .server => if info.name = configSoftbusSessionTag then s.serverMap.lookup c else none
  | .proxy => entered s info.networkId c

/-- Bytes with a first byte reach the handler of their socket with the peer of their socket, and
nobody else. A message that connects a proxy reaches `ConnectProxy`, which asks the session manager
for the peer of the socket. -/
def Delivered (socket : Socket) (info : OpenSocket) (c : Characteristic) (rest : Bytes) : Prop :=
  match ownHandler s info c with
  | none => (bytesReceived s socket (c :: rest)).calls = s.calls
  | some r =>
      if info.side = .server ∧ rest.head? = some messageCodeConnectServer then
        (bytesReceived s socket (c :: rest)).calls = s.calls ++ [.connectProxy r socket] ∧
          obtainPeerDeviceId s.sessions socket = some info.networkId
      else
        (bytesReceived s socket (c :: rest)).calls =
          s.calls ++ [.onBytesReceived info.side r info.networkId (c :: rest)]

/-- What is promised of an event. -/
def Attributed : SoftbusEvent → Prop
  | .bytes socket data =>
      ∀ info c rest, s.openSockets socket = some info → data = c :: rest →
        Delivered s socket info c rest
  | _ => True

/-- The handler that the side leads to. -/
def sideHandler (socket : Socket) (c : Characteristic) : Option SessionRef :=
  if s.isServer then
    if s.socketNameCache = configSoftbusSessionTag then s.serverMap.lookup c else none
  else (obtainPeerDeviceId s.sessions socket).bind (entered s · c)

/-- What the data manager remembers is right for the bytes of a socket: the side is that of the
socket and, for a server, the peer that was opened last is that of the socket, or, for a message
that connects a proxy and for a proxy, the peer that is known under its number is. -/
def Remembers (socket : Socket) (info : OpenSocket) (rest : Bytes) : Prop :=
  match info.side with
  | .server =>
      s.isServer = true ∧ info.name = configSoftbusSessionTag ∧
        if rest.head? = some messageCodeConnectServer then
          obtainPeerDeviceId s.sessions socket = some info.networkId
        else s.peerNetworkIdCache = info.networkId
  | .proxy =>
      s.isServer = false ∧ obtainPeerDeviceId s.sessions socket = some info.networkId

/-- The condition on bytes: what is remembered is right for their socket, or neither the socket nor
the side has a handler for them. -/
def KeepsPeers : SoftbusEvent → Prop
  | .bytes socket data =>
      ∀ info c rest, s.openSockets socket = some info → data = c :: rest →
        Remembers s socket info rest ∨ ownHandler s info c = none ∧ sideHandler s socket c = none
  | _ => True

end events

/-! ## The name of the last socket -/

section names

variable {characteristic : SessionRef → Characteristic} {m m' m'' : DataManager} {socket : Socket}
  {d : NetworkId}

/-- Once a socket with the name of the service was opened, the name is cached. -/
def NameCached (m : DataManager) : Prop :=
  ∀ socket info, m.openSockets socket = some info → info.side = .server →
    info.name = configSoftbusSessionTag → m.socketNameCache = configSoftbusSessionTag

/-- No peer was heard of. -/
structure NoNewPeer (m m' : DataManager) : Prop where
  openSockets : ∀ socket info, m'.openSockets socket = some info → info.side = .server →
    m.openSockets socket = some info
  socketNameCache : m'.socketNameCache = m.socketNameCache

/-- Nothing done makes no peer. -/
theorem NoNewPeer.refl (m : DataManager) : NoNewPeer m m := ⟨fun _ _ h _ => h, rfl⟩

/-- Two calls that make no peer make none together. -/
theorem NoNewPeer.trans (h : NoNewPeer m m') (h' : NoNewPeer m' m'') : NoNewPeer m m'' :=
  ⟨fun socket info hopen hside => h.openSockets socket info
    (h'.openSockets socket info hopen hside) hside, h'.socketNameCache.trans h.socketNameCache⟩

/-- A call that makes no peer leaves the names cached. -/
theorem NameCached.of_noNewPeer (h : NameCached m) (hpeer : NoNewPeer m m') : NameCached m' := by
  intro socket info hopen hside hname
  rw [hpeer.socketNameCache]
  exact h socket info (hpeer.openSockets socket info hopen hside) hside hname

/-- Without a new socket or a new name there is no new peer. -/
theorem NoNewPeer.of_eq (hopen : m'.openSockets = m.openSockets)
    (hname : m'.socketNameCache = m.socketNameCache) : NoNewPeer m m' :=
  ⟨fun socket info h _ => by rw [← hopen]; exact h, hname⟩

/-- The same sockets have the same peers. -/
theorem NoNewPeer.of_same (h : SameSockets m m') : NoNewPeer m m' :=
  .of_eq h.openSockets h.socketNameCache

/-- A fold of calls that make no peer makes none. -/
theorem NoNewPeer.foldl {ε : Type} (call : DataManager → ε → DataManager)
    (hcall : ∀ m e, NoNewPeer m (call m e)) (l : List ε) (m : DataManager) :
    NoNewPeer m (l.foldl call m) := by
  induction l generalizing m with
  | nil => exact .refl m
  | cons e l ih => exact (hcall m e).trans (ih (call m e))

/-- Dropping a socket makes no peer. -/
theorem noNewPeer_dropSocket (m : DataManager) (socket : Socket) :
    NoNewPeer m (dropSocket m socket) := by
  refine ⟨fun k info hk _ => ?_, rfl⟩
  change eraseKey m.openSockets socket k = some info at hk
  unfold eraseKey at hk
  by_cases hks : k = socket
  · rw [hks, Function.update_self] at hk
    exact absurd hk.symm (Option.some_ne_none info)
  · rw [Function.update_of_ne hks] at hk
    exact hk

/-- The socket a bind opens has its name cached. -/
theorem noNewPeer_bind (m : DataManager) (d : NetworkId) (result : Socket) :
    NoNewPeer m (bind m d result).1 := by
  by_cases hunused : Unused m result
  · rw [bind_of_unused hunused]
    refine ⟨fun k info hk hside => ?_, rfl⟩
    change Function.update m.openSockets result _ k = some info at hk
    by_cases hkr : k = result
    · rw [hkr, Function.update_self, Option.some.injEq] at hk
      rw [← hk] at hside
      exact absurd hside nofun
    · rw [Function.update_of_ne hkr] at hk
      exact hk
  · rw [bind_of_not_unused hunused]
    exact .refl m

/-- The sockets opened by the retries have their names cached. -/
theorem noNewPeer_connectRemoteDevice (n : ℕ) (results : List Socket) (m : DataManager) :
    NoNewPeer m (connectRemoteDevice d n results m).1 := by
  induction n generalizing results m with
  | zero =>
      rw [connectRemoteDevice]
      cases m.mProxySocketMap d with
      | none => exact noNewPeer_bind m d _
      | some socket => exact .refl m
  | succ n ih =>
      rw [connectRemoteDevice]
      cases m.mProxySocketMap d with
      | none =>
          dsimp only
          have hbind := noNewPeer_bind m d (results.headD (-1))
          split_ifs
          · exact hbind.trans (ih results.tail _)
          · exact hbind
      | some socket => exact .refl m

/-- Telling the proxies of an open socket makes no peer. -/
theorem noNewPeer_onSessionProxyOpened (m : DataManager) (socket : Socket) :
    NoNewPeer m (onSessionProxyOpened m socket) := by
  unfold onSessionProxyOpened
  cases obtainPeerDeviceId m.sessions socket with
  | none => exact .refl m
  | some networkId =>
      dsimp only
      have hfiled : NoNewPeer m
          { m with mProxySocketMap := insertNew m.mProxySocketMap networkId socket } :=
        .of_eq rfl rfl
      cases m.mDeviceToProxyMap.lookup networkId with
      | none => exact hfiled
      | some proxyMap =>
          exact hfiled.trans (.of_same (sameSockets_connectServers _ proxyMap socket))

/-- Connecting a new proxy makes no uncached peer. -/
theorem noNewPeer_connectNewProxy (m : DataManager) (r : SessionRef) (d : NetworkId)
    (results : List Socket) :
    NoNewPeer m (connectNewProxy m characteristic r d results).1 := by
  unfold connectNewProxy
  have hconnect : ∀ entries, NoNewPeer m (connectRemoteDevice d softbusLinkMaxRetryTimes results
      { m with mDeviceToProxyMap := entries }).1 := by
    intro entries
    have hentries : NoNewPeer m { m with mDeviceToProxyMap := entries } := .of_eq rfl rfl
    exact hentries.trans (noNewPeer_connectRemoteDevice _ results _)
  cases m.mDeviceToProxyMap.lookup d with
  | none =>
      dsimp only
      split_ifs with hle hempty
      · exact (hconnect _).trans (.of_eq rfl rfl)
      · exact hconnect _
      · exact (hconnect _).trans (noNewPeer_onSessionProxyOpened _ _)
  | some proxyMap =>
      dsimp only
      split_ifs with hle hempty
      · exact (hconnect m.mDeviceToProxyMap).trans (.of_eq rfl rfl)
      · exact hconnect m.mDeviceToProxyMap
      · exact (hconnect m.mDeviceToProxyMap).trans (noNewPeer_onSessionProxyOpened _ _)

/-- CreateProxy makes no uncached peer. -/
theorem noNewPeer_createProxy (m : DataManager) (proxy : Option SessionRef) (d : NetworkId)
    (packageName : String) (results : List Socket) :
    NoNewPeer m (createProxy m characteristic proxy d packageName results).1 := by
  unfold createProxy
  cases proxy with
  | none => exact .refl m
  | some r =>
      have hnew : ∀ m', NoNewPeer m m' →
          NoNewPeer m (connectNewProxy m' characteristic r d results).1 := fun m' h =>
        h.trans (noNewPeer_connectNewProxy m' r d results)
      dsimp only
      split_ifs
      · exact .refl m
      · cases m.mProxySocketMap d with
        | none => exact hnew _ (.of_eq rfl rfl)
        | some socket =>
            dsimp only
            split_ifs
            · exact hnew _ (.of_eq rfl rfl)
            · exact .of_eq rfl rfl
            · exact hnew _ (.of_eq rfl rfl)

/-- Disconnecting an entered proxy makes no peer. -/
theorem noNewPeer_disconnectEntered (m : DataManager) (entered : Option SessionRef)
    (socket : Option Socket) : NoNewPeer m (disconnectEntered m entered socket) := by
  unfold disconnectEntered
  split
  · exact .of_eq rfl rfl
  · exact .refl m

/-- Closing a device's sockets makes no peer. -/
theorem noNewPeer_closeDevice (m : DataManager) (d : NetworkId) :
    NoNewPeer m (closeDevice m d) := by
  unfold closeDevice
  cases m.mProxySocketMap d with
  | none => exact .of_eq rfl rfl
  | some socket =>
      have hclosed : NoNewPeer m (onSessionProxyClosed m socket) :=
        .of_same (sameSockets_onSessionProxyClosed m socket)
      exact (hclosed.trans (noNewPeer_dropSocket _ socket)).trans (.of_eq rfl rfl)

/-- ReleaseProxy makes no peer. -/
theorem noNewPeer_releaseProxy (m : DataManager) (proxy : Option SessionRef) (d : NetworkId) :
    NoNewPeer m (releaseProxy m characteristic proxy d).1 := by
  cases proxy with
  | none => exact .refl m
  | some r =>
      by_cases hne : d = ""
      · subst hne
        exact .refl m
      · cases hlookup : m.mDeviceToProxyMap.lookup d with
        | none =>
            rw [releaseProxy_of_lookup_none characteristic hne hlookup]
            exact .refl m
        | some proxyMap =>
            rw [releaseProxy_of_lookup characteristic hne hlookup]
            have hcall := noNewPeer_disconnectEntered m (proxyMap.lookup (characteristic r))
              (m.mProxySocketMap d)
            split_ifs
            · exact hcall.trans (noNewPeer_closeDevice _ d)
            · exact hcall

/-- Destroying the server makes no peer. -/
theorem noNewPeer_destroySessionServer (m : DataManager) (pkg : String) :
    NoNewPeer m (destroySessionServer m characteristic pkg) := by
  unfold destroySessionServer
  split_ifs
  · have hcalls : NoNewPeer m
        (m.serverMap.entries.foldl (fun s e => s.disconnectAllProxy e.2) m) := by
      apply NoNewPeer.foldl
      intro m e
      exact .of_eq rfl rfl
    refine (hcalls.trans ?_).trans (noNewPeer_dropSocket _ _)
    exact .of_eq rfl rfl
  · apply NoNewPeer.foldl
    intro m device
    apply NoNewPeer.foldl
    intro m e
    exact noNewPeer_releaseProxy m (some e.2) device.1

/-- Creating the server makes no peer. -/
theorem noNewPeer_initSessionServer (m : DataManager) (pkg : String) (result : Socket) :
    NoNewPeer m (initSessionServer m pkg result) := by
  unfold initSessionServer
  dsimp only
  split_ifs
  · exact .of_eq rfl rfl
  · exact .of_eq rfl rfl

/-- A socket shut down makes no peer. -/
theorem noNewPeer_onShutdown (m : DataManager) (socket : Socket) :
    NoNewPeer m (onShutdown m socket) := by
  have hclosed : NoNewPeer m (sessionClosed m socket) := by
    unfold sessionClosed
    split_ifs
    · exact .refl m
    · unfold onSessionServerClosed
      apply NoNewPeer.foldl
      intro m e
      exact .of_eq rfl rfl
    · exact .of_same (sameSockets_onSessionProxyClosed m socket)
  unfold onShutdown
  refine (hclosed.trans ?_).trans (noNewPeer_dropSocket _ socket)
  exact .of_eq rfl rfl

/-- Bytes at the server's side make no peer. -/
theorem noNewPeer_onBytesServerReceived (m : DataManager) (socket : Socket) (data : Bytes) :
    NoNewPeer m (onBytesServerReceived m socket data) := by
  unfold onBytesServerReceived
  cases data with
  | nil => exact .refl m
  | cons c rest =>
      dsimp only
      cases m.serverMap.lookup c with
      | none => exact .refl m
      | some r =>
          dsimp only
          split_ifs
          · exact .of_eq rfl rfl
          · exact .of_eq rfl rfl

/-- Bytes at the proxies' side make no peer. -/
theorem noNewPeer_onBytesProxyReceived (m : DataManager) (socket : Socket) (data : Bytes) :
    NoNewPeer m (onBytesProxyReceived m socket data) := by
  unfold onBytesProxyReceived
  cases data with
  | nil => exact .refl m
  | cons c rest =>
      dsimp only
      cases obtainPeerDeviceId m.sessions socket with
      | none => exact .refl m
      | some networkId =>
          dsimp only
          cases (m.mDeviceToProxyMap.lookup networkId).bind (·.lookup c) with
          | none => exact .refl m
          | some r => exact .of_eq rfl rfl

/-- Bytes at either side make no peer. -/
theorem noNewPeer_bytesReceived (m : DataManager) (socket : Socket) (data : Bytes) :
    NoNewPeer m (bytesReceived m socket data) := by
  unfold bytesReceived
  split_ifs
  · exact .refl m
  · exact noNewPeer_onBytesServerReceived m socket data
  · exact noNewPeer_onBytesProxyReceived m socket data

/-- A socket that a peer opens brings the name with it. -/
theorem NameCached.onBind (h : NameCached m) (socket : Socket) (name networkId : Option String) :
    NameCached (onBind m socket name networkId) := by
  unfold Softbus.onBind
  cases networkId with
  | none => exact h
  | some networkId =>
      dsimp only
      by_cases hunused : Unused m socket
      · rw [if_pos hunused]
        by_cases hname : name.getD "" = configSoftbusSessionTag
        · have hsession : sessionOpened m name networkId =
              { m with socketNameCache := name.getD "", peerNetworkIdCache := networkId } :=
            if_neg (not_not_intro hname)
          rw [hsession]
          exact fun _ _ _ _ _ => hname
        · have hsession : sessionOpened m name networkId = m := if_pos hname
          rw [hsession]
          intro k info hk hside hinfo
          change Function.update m.openSockets socket _ k = some info at hk
          by_cases hks : k = socket
          · rw [hks, Function.update_self, Option.some.injEq] at hk
            rw [← hk] at hinfo
            exact absurd hinfo hname
          · rw [Function.update_of_ne hks] at hk
            exact h k info hk hside hinfo
      · rw [if_neg hunused]
        exact h

/-- The name is cached all along a run. -/
theorem NameCached.step (h : NameCached m) (event : SoftbusEvent) :
    NameCached (softbusStep characteristic m event) := by
  cases event with
  | opened socket name networkId => exact h.onBind socket name networkId
  | closed socket => exact h.of_noNewPeer (noNewPeer_onShutdown m socket)
  | bytes socket data =>
      unfold softbusStep
      dsimp only
      split_ifs
      · exact h.of_noNewPeer (noNewPeer_bytesReceived m socket data)
      · exact h
  | initSessionServer pkg result =>
      exact h.of_noNewPeer (noNewPeer_initSessionServer m pkg result)
  | createServer server => exact h.of_noNewPeer (.of_same (sameSockets_createServer _ m server))
  | releaseServer server => exact h.of_noNewPeer (.of_same (sameSockets_releaseServer _ m server))
  | destroySessionServer pkg => exact h.of_noNewPeer (noNewPeer_destroySessionServer m pkg)
  | createProxy proxy d packageName results =>
      exact h.of_noNewPeer (noNewPeer_createProxy m proxy d packageName results)
  | releaseProxy proxy d => exact h.of_noNewPeer (noNewPeer_releaseProxy m proxy d)

end names

/-! ## Where bytes go -/

section routes

variable {m : DataManager} {socket : Socket} {info : OpenSocket} {c : Characteristic} {rest : Bytes}
  {r : SessionRef}

/-- On the side of the servers, bytes go to a server, with the peer that was opened last. -/
theorem calls_bytesReceived_server (socket : Socket) (c : Characteristic) (rest : Bytes)
    (hside : m.isServer = true) :
    (bytesReceived m socket (c :: rest)).calls =
      match sideHandler m socket c with
      | none => m.calls
      | some r =>
          m.calls ++
            [if rest.head? = some messageCodeConnectServer then .connectProxy r socket
              else .onBytesReceived .server r m.peerNetworkIdCache (c :: rest)] := by
  unfold bytesReceived sideHandler
  rw [if_pos hside, if_pos hside]
  by_cases hname : m.socketNameCache = configSoftbusSessionTag
  · rw [if_neg (not_not_intro hname), if_pos hname]
    unfold onBytesServerReceived
    dsimp only
    cases m.serverMap.lookup c with
    | none => rfl
    | some r =>
        dsimp only
        split_ifs <;> rfl
  · rw [if_pos hname, if_neg hname]

/-- On the side of the proxies, bytes go to a proxy of the peer known under the number. -/
theorem calls_bytesReceived_proxy (socket : Socket) (c : Characteristic) (rest : Bytes)
    (hside : m.isServer = false) :
    (bytesReceived m socket (c :: rest)).calls =
      match sideHandler m socket c with
      | none => m.calls
      | some r =>
          m.calls ++
            [.onBytesReceived .proxy r ((obtainPeerDeviceId m.sessions socket).getD "")
              (c :: rest)] := by
  have hneg : ¬ m.isServer = true := by
    rw [hside]
    exact Bool.false_ne_true
  unfold bytesReceived sideHandler onBytesProxyReceived
  rw [if_neg hneg, if_neg hneg]
  cases obtainPeerDeviceId m.sessions socket with
  | none => rfl
  | some networkId =>
      show (match entered m networkId c with
        | none => m
        | some r => m.onBytesReceived .proxy r networkId (c :: rest)).calls = _
      dsimp only [Option.bind_some]
      cases entered m networkId c with
      | none => rfl
      | some r => rfl

/-- At the server's side the handler is the one registered for the characteristic. -/
theorem ownHandler_server (hside : info.side = .server) :
    ownHandler m info c =
      if info.name = configSoftbusSessionTag then m.serverMap.lookup c else none := by
  unfold ownHandler
  rw [hside]

/-- At the proxies' side the handler is the proxy entered for the device. -/
theorem ownHandler_proxy (hside : info.side = .proxy) :
    ownHandler m info c = entered m info.networkId c := by
  unfold ownHandler
  rw [hside]

/-- What the server has to remember of a socket for its next bytes. -/
theorem remembers_server (hside : info.side = .server) :
    Remembers m socket info rest ↔
      m.isServer = true ∧ info.name = configSoftbusSessionTag ∧
        if rest.head? = some messageCodeConnectServer then
          obtainPeerDeviceId m.sessions socket = some info.networkId
        else m.peerNetworkIdCache = info.networkId := by
  unfold Remembers
  rw [hside]

/-- What a proxy's side has to remember of a socket for its next bytes. -/
theorem remembers_proxy (hside : info.side = .proxy) :
    Remembers m socket info rest ↔
      m.isServer = false ∧ obtainPeerDeviceId m.sessions socket = some info.networkId := by
  unfold Remembers
  rw [hside]

/-- Nobody was to be reached, and nobody was. -/
theorem delivered_of_none (hown : ownHandler m info c = none) :
    Delivered m socket info c rest ↔ (bytesReceived m socket (c :: rest)).calls = m.calls := by
  unfold Delivered
  rw [hown]

/-- A handler that was reached with something. -/
theorem delivered_of_some (hown : ownHandler m info c = some r) :
    Delivered m socket info c rest ↔
      if info.side = .server ∧ rest.head? = some messageCodeConnectServer then
        (bytesReceived m socket (c :: rest)).calls = m.calls ++ [.connectProxy r socket] ∧
          obtainPeerDeviceId m.sessions socket = some info.networkId
      else
        (bytesReceived m socket (c :: rest)).calls =
          m.calls ++ [.onBytesReceived info.side r info.networkId (c :: rest)] := by
  unfold Delivered
  rw [hown]

/-- A longer log is another log. -/
theorem append_singleton_ne (l : List Call) (x : Call) : l ++ [x] ≠ l := by
  intro h
  exact List.cons_ne_nil x [] (List.append_right_eq_self.mp h)

/-- On the side of the servers, the bytes of a socket of a server. -/
theorem delivered_server (h : NameCached m) (hopen : m.openSockets socket = some info)
    (hserver : m.isServer = true) (hside : info.side = .server) :
    Delivered m socket info c rest ↔
      Remembers m socket info rest ∨
        ownHandler m info c = none ∧ sideHandler m socket c = none := by
  have hcalls := calls_bytesReceived_server socket c rest hserver
  rw [remembers_server hside]
  by_cases hname : info.name = configSoftbusSessionTag
  · have hcached := h socket info hopen hside hname
    have hown : ownHandler m info c = m.serverMap.lookup c := by
      rw [ownHandler_server hside, if_pos hname]
    have hsame : sideHandler m socket c = m.serverMap.lookup c := by
      unfold sideHandler
      rw [if_pos hserver, if_pos hcached]
    rw [hsame] at hcalls ⊢
    rw [hown]
    cases hlookup : m.serverMap.lookup c with
    | none =>
        rw [hlookup] at hcalls hown
        rw [delivered_of_none hown]
        exact ⟨fun _ => Or.inr ⟨rfl, rfl⟩, fun _ => hcalls⟩
    | some r =>
        rw [hlookup] at hcalls hown
        dsimp only at hcalls
        rw [delivered_of_some hown, hcalls]
        by_cases hconnect : rest.head? = some messageCodeConnectServer
        · simp only [hside, hconnect, hserver, hname, and_self, if_true, true_and,
            reduceCtorEq, or_false]
        · simp only [hside, hconnect, hserver, hname, and_false, if_false, true_and,
            reduceCtorEq, or_false, List.append_cancel_left_eq, List.cons.injEq,
            Call.onBytesReceived.injEq, and_true]
  · have hown : ownHandler m info c = none := by rw [ownHandler_server hside, if_neg hname]
    rw [delivered_of_none hown, hcalls, hown]
    cases sideHandler m socket c with
    | none => exact ⟨fun _ => Or.inr ⟨rfl, rfl⟩, fun _ => rfl⟩
    | some r =>
        refine ⟨fun heq => absurd heq (append_singleton_ne _ _), ?_⟩
        rintro (⟨-, htag, -⟩ | ⟨-, hnone⟩)
        · exact absurd htag hname
        · exact absurd hnone (Option.some_ne_none r)

/-- On the side of the proxies, the bytes of a socket of a proxy. -/
theorem delivered_proxy (hserver : m.isServer = false) (hside : info.side = .proxy) :
    Delivered m socket info c rest ↔
      Remembers m socket info rest ∨
        ownHandler m info c = none ∧ sideHandler m socket c = none := by
  have hcalls := calls_bytesReceived_proxy socket c rest hserver
  have hnot : ¬ (info.side = .server ∧ rest.head? = some messageCodeConnectServer) := by
    rw [hside]
    exact fun hand => absurd hand.1 nofun
  rw [remembers_proxy hside]
  by_cases hpeer : obtainPeerDeviceId m.sessions socket = some info.networkId
  · have hsame : sideHandler m socket c = ownHandler m info c := by
      unfold sideHandler
      rw [if_neg (by rw [hserver]; exact Bool.false_ne_true), hpeer, ownHandler_proxy hside]
      rfl
    refine ⟨fun _ => Or.inl ⟨hserver, hpeer⟩, fun _ => ?_⟩
    rw [hsame, hpeer] at hcalls
    cases hown : ownHandler m info c with
    | none =>
        rw [hown] at hcalls
        rw [delivered_of_none hown]
        exact hcalls
    | some r =>
        rw [hown] at hcalls
        rw [delivered_of_some hown, if_neg hnot, hside]
        exact hcalls
  · have hforget : ¬ (m.isServer = false ∧
        obtainPeerDeviceId m.sessions socket = some info.networkId) := fun hand => hpeer hand.2
    rw [or_iff_right hforget]
    cases hown : ownHandler m info c with
    | none =>
        rw [delivered_of_none hown, hcalls]
        cases sideHandler m socket c with
        | none => exact ⟨fun _ => ⟨rfl, rfl⟩, fun _ => rfl⟩
        | some r =>
            exact ⟨fun heq => absurd heq (append_singleton_ne _ _),
              fun hand => absurd hand.2 (Option.some_ne_none r)⟩
    | some r =>
        rw [delivered_of_some hown, if_neg hnot, hcalls]
        refine ⟨fun heq => ?_, fun hand => absurd hand.1 (Option.some_ne_none r)⟩
        cases hreached : sideHandler m socket c with
        | none =>
            rw [hreached] at heq
            exact absurd heq.symm (append_singleton_ne _ _)
        | some r' =>
            rw [hreached] at heq
            obtain ⟨networkId, hobtain⟩ : ∃ networkId,
                obtainPeerDeviceId m.sessions socket = some networkId := by
              unfold sideHandler at hreached
              rw [if_neg (by rw [hserver]; exact Bool.false_ne_true)] at hreached
              obtain ⟨networkId, hobtain, -⟩ := Option.bind_eq_some_iff.mp hreached
              exact ⟨networkId, hobtain⟩
            have hcall := List.append_cancel_left heq
            rw [List.cons.injEq, Call.onBytesReceived.injEq, hobtain] at hcall
            rw [hobtain] at hpeer
            exact absurd (congrArg some hcall.1.2.2.1) hpeer

/-- Bytes that arrive while the side is not that of their socket. -/
theorem delivered_other (hother : m.isServer = true ↔ info.side = .proxy) :
    Delivered m socket info c rest ↔
      Remembers m socket info rest ∨
        ownHandler m info c = none ∧ sideHandler m socket c = none := by
  have hforget : ¬ Remembers m socket info rest := by
    cases hside : info.side with
    | server =>
        rw [remembers_server hside]
        intro hand
        have hproxy := hother.mp hand.1
        rw [hside] at hproxy
        exact absurd hproxy nofun
    | proxy =>
        rw [remembers_proxy hside]
        intro hand
        have htrue := hother.mpr hside
        rw [hand.1] at htrue
        exact absurd htrue Bool.false_ne_true
  have hcalls : (bytesReceived m socket (c :: rest)).calls =
      match sideHandler m socket c with
      | none => m.calls
      | some r =>
          m.calls ++
            [if m.isServer = true then
              if rest.head? = some messageCodeConnectServer then .connectProxy r socket
              else .onBytesReceived .server r m.peerNetworkIdCache (c :: rest)
            else
              .onBytesReceived .proxy r ((obtainPeerDeviceId m.sessions socket).getD "")
                (c :: rest)] := by
    cases hserver : m.isServer with
    | true =>
        rw [calls_bytesReceived_server socket c rest hserver]
        simp only [if_true]
    | false =>
        rw [calls_bytesReceived_proxy socket c rest hserver]
        simp only [Bool.false_eq_true, if_false]
  rw [or_iff_right hforget]
  cases hown : ownHandler m info c with
  | none =>
      rw [delivered_of_none hown, hcalls]
      cases sideHandler m socket c with
      | none => exact ⟨fun _ => ⟨rfl, rfl⟩, fun _ => rfl⟩
      | some r =>
          exact ⟨fun heq => absurd heq (append_singleton_ne _ _),
            fun hand => absurd hand.2 (Option.some_ne_none r)⟩
  | some r =>
      rw [delivered_of_some hown, hcalls]
      refine ⟨fun heq => ?_, fun hand => absurd hand.1 (Option.some_ne_none r)⟩
      cases hreached : sideHandler m socket c with
      | none =>
          rw [hreached] at heq
          dsimp only at heq
          split_ifs at heq
          · exact absurd heq.1.symm (append_singleton_ne _ _)
          · exact absurd heq.symm (append_singleton_ne _ _)
      | some r' =>
          rw [hreached] at heq
          dsimp only at heq
          cases hside : info.side with
          | server =>
              have hserver : ¬ m.isServer = true := by
                rw [hother, hside]
                exact nofun
              rw [if_neg hserver, hside] at heq
              split_ifs at heq
              · exact absurd (List.append_cancel_left heq.1) (by simp)
              · exact absurd (List.append_cancel_left heq) (by simp)
          | proxy =>
              rw [if_pos (hother.mpr hside), hside, if_neg fun hand => absurd hand.1 nofun] at heq
              split_ifs at heq
              · exact absurd (List.append_cancel_left heq) (by simp)
              · exact absurd (List.append_cancel_left heq) (by simp)

/-- Bytes of a socket are delivered as promised iff what is remembered is right, or nobody handles
them. -/
theorem delivered_iff (h : NameCached m) (hopen : m.openSockets socket = some info) :
    Delivered m socket info c rest ↔
      Remembers m socket info rest ∨
        ownHandler m info c = none ∧ sideHandler m socket c = none := by
  cases hserver : m.isServer with
  | true =>
      cases hside : info.side with
      | server => exact delivered_server h hopen hserver hside
      | proxy => exact delivered_other ⟨fun _ => hside, fun _ => hserver⟩
  | false =>
      cases hside : info.side with
      | server =>
          refine delivered_other ⟨fun htrue => ?_, fun hproxy => ?_⟩
          · rw [hserver] at htrue
            exact absurd htrue Bool.false_ne_true
          · rw [hside] at hproxy
            exact absurd hproxy nofun
      | proxy => exact delivered_proxy hserver hside

end routes

/-! ## Runs -/

section runs

/-- Without sockets there is no name to cache. -/
theorem nameCached_initial : NameCached .initial :=
  fun _ _ h => absurd h.symm (Option.some_ne_none _)

/-- Every event with bytes is delivered to the handler that is entered for its socket, with the peer
of its socket, and to nobody else, iff each time bytes arrive, the side and the peer that are
remembered are those of their socket, or no handler is entered for them under the socket or the
side. -/
theorem attributed_iff (characteristic : SessionRef → Characteristic)
    (events : List SoftbusEvent) :
    Meets (softbusStep characteristic) Attributed .initial events ↔
      Meets (softbusStep characteristic) KeepsPeers .initial events := by
  refine meets_congr_of_inv (I := NameCached) (fun _ event h => h.step event)
    (fun m event h => ?_) events nameCached_initial
  cases event with
  | bytes socket data =>
      constructor
      · intro hattributed info c rest hopen hdata
        exact (delivered_iff h hopen).mp (hattributed info c rest hopen hdata)
      · intro hkeeps info c rest hopen hdata
        exact (delivered_iff h hopen).mpr (hkeeps info c rest hopen hdata)
  | _ => exact Iff.rfl

/-- Two peers are connected, and the first one sends: its bytes are taken for the second one's. -/
theorem bytes_of_first_peer :
    ¬ ∀ events : List SoftbusEvent, Meets (softbusStep fun _ => 2) Attributed .initial events := by
  intro h
  have hmeets := h [.createServer (some 7),
    .opened 1 (some configSoftbusSessionTag) (some "phone"),
    .opened 2 (some configSoftbusSessionTag) (some "tablet"), .bytes 1 [2, 5]]
  have hcalls : (run (softbusStep fun _ => 2) .initial [.createServer (some 7),
      .opened 1 (some configSoftbusSessionTag) (some "phone"),
      .opened 2 (some configSoftbusSessionTag) (some "tablet"), .bytes 1 [2, 5]]).calls =
        [.onBytesReceived .server 7 "phone" [2, 5]] :=
    hmeets.2.2.2.1 ⟨.server, configSoftbusSessionTag, "phone"⟩ 2 [5] rfl rfl
  exact absurd hcalls (by decide)

end runs

end AvSession.Softbus
