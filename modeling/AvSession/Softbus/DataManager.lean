import AvSession.Softbus.Sessions
import Mathlib.Data.List.AList

/-!
# The data manager

`SoftbusDistributedDataManager` keeps the servers of this device, by characteristic, and the proxies
of other devices, by device and characteristic. It opens and closes the sockets that they use, and
hands on what arrives on a socket.

* `DataManager` — its maps, with the sockets that Softbus has open and the calls it made.
* `initSessionServer`, `createServer`, `releaseServer`, `destroySessionServer` — the servers.
* `createProxy`, `releaseProxy` — the proxies; `connectRemoteDevice` opens a socket to a device.
* `onBind`, `onShutdown`, `bytesReceived` — the events of the sockets.
* Left out: the listener that `Init` registers (it is taken to be there), messages other than bytes,
  the pauses between two attempts to connect, and a package without Softbus.
-/

namespace AvSession.Softbus

/-! ## Data -/

section data

/-- What `GetCharacteristic` returns. -/
abbrev Characteristic := ℤ

/-- The proxies of a device. -/
abbrev ProxyMap := AList fun _ : Characteristic => SessionRef

/-- The name of the sockets of the service.
Source: migrate_avsession_constant.h, `CONFIG_SOFTBUS_SESSION_TAG` -/
def configSoftbusSessionTag : String := "Media_Session_RemoteCtrl"

/-- Source: softbus_distributed_data_manager.h, `MESSAGE_CODE_CONNECT_SERVER` -/
def messageCodeConnectServer : ℤ := 1

/-- Source: softbus_distributed_data_manager.h, `softbusLinkMaxRetryTimes` -/
def softbusLinkMaxRetryTimes : ℕ := 5

/-- Received bytes, as the values of their characters. -/
abbrev Bytes := List ℤ

/-- Who opened a connection: the peer, to a server of this device, or this device, for a proxy. -/
inductive Side
  | server
  | proxy
deriving DecidableEq

/-- A socket with a peer that is open. -/
structure OpenSocket where
  side : Side
  name : String
  networkId : NetworkId
deriving DecidableEq

/-- A call of a session object; what hears of bytes is a server or a proxy. -/
inductive Call
  | connectServer (r : SessionRef) (socketId : Socket)
  | disconnectServer (r : SessionRef) (socketId : Socket)
  | connectProxy (r : SessionRef) (sessionId : Socket)
  | disconnectProxy (r : SessionRef) (sessionId : Socket)
  | disconnectAllProxy (r : SessionRef)
  | onBytesReceived (side : Side) (r : SessionRef) (deviceId : NetworkId) (data : Bytes)
deriving DecidableEq

/-- The members of the data manager, and next to them: what the session manager and the session
objects hold, the sockets that Softbus has open (with a peer, or listening), and the calls made.
Source: softbus_distributed_data_manager.h, `SoftbusDistributedDataManager` -/
structure DataManager where
  sessions : SessionState
  openSockets : Socket → Option OpenSocket
  listening : List Socket
  calls : List Call
  serverMap : AList fun _ : Characteristic => SessionRef
  mServerSocketMap : String → Option Socket
  peerNetworkIdCache : NetworkId
  socketNameCache : String
  isServer : Bool
  mProxySocketMap : NetworkId → Option Socket
  mDeviceToProxyMap : AList fun _ : NetworkId => ProxyMap

/-- The data manager of a process that has just started. -/
def DataManager.initial : DataManager where
  sessions := ⟨fun _ => none, fun _ _ => none⟩
  openSockets := fun _ => none
  listening := []
  calls := []
  serverMap := ∅
  mServerSocketMap := fun _ => none
  peerNetworkIdCache := ""
  socketNameCache := ""
  isServer := true
  mProxySocketMap := fun _ => none
  mDeviceToProxyMap := ∅

end data

/-! ## Calls of session objects -/

section calls

variable (s : DataManager)

/-- Source: `SoftbusSessionProxy::ConnectServer` -/
def DataManager.connectServer (r : SessionRef) (socketId : Socket) : DataManager :=
  { s with
    sessions := Softbus.connectServer s.sessions r socketId
    calls := s.calls ++ [.connectServer r socketId] }

/-- Source: `SoftbusSessionProxy::DisconnectServer` -/
def DataManager.disconnectServer (r : SessionRef) (socketId : Socket) : DataManager :=
  { s with
    sessions := Softbus.disconnectServer s.sessions r socketId
    calls := s.calls ++ [.disconnectServer r socketId] }

/-- Source: `SoftbusSessionServer::ConnectProxy` -/
def DataManager.connectProxy (r : SessionRef) (sessionId : Socket) : DataManager :=
  { s with
    sessions := Softbus.connectProxy s.sessions r sessionId
    calls := s.calls ++ [.connectProxy r sessionId] }

/-- Source: `SoftbusSessionServer::DisconnectProxy` -/
def DataManager.disconnectProxy (r : SessionRef) (sessionId : Socket) : DataManager :=
  { s with
    sessions := Softbus.disconnectProxy s.sessions r sessionId
    calls := s.calls ++ [.disconnectProxy r sessionId] }

/-- Source: `SoftbusSessionServer::DisconnectAllProxy` -/
def DataManager.disconnectAllProxy (r : SessionRef) : DataManager :=
  { s with
    sessions := Softbus.disconnectAllProxy s.sessions r
    calls := s.calls ++ [.disconnectAllProxy r] }

/-- Source: `SoftbusSessionServer::OnBytesReceived`, `SoftbusSessionProxy::OnBytesReceived`, as a
call -/
def DataManager.onBytesReceived (side : Side) (r : SessionRef) (deviceId : NetworkId)
    (data : Bytes) : DataManager :=
  { s with calls := s.calls ++ [.onBytesReceived side r deviceId data] }

/-- `ConnectServer` of every proxy of a device. -/
def connectServers (proxyMap : ProxyMap) (socket : Socket) : DataManager :=
  proxyMap.entries.foldl (fun s e => s.connectServer e.2 socket) s

/-- `DisconnectServer` of every proxy of a device. -/
def disconnectServers (proxyMap : ProxyMap) (socket : Socket) : DataManager :=
  proxyMap.entries.foldl (fun s e => s.disconnectServer e.2 socket) s

end calls

/-! ## Sockets -/

section sockets

variable (s : DataManager)

/-- A number under which Softbus can open a socket: it counts from 1, and uses no number that is
open. -/
def Unused (socket : Socket) : Prop :=
  socket > 0 ∧ s.openSockets socket = none ∧ socket ∉ s.listening

instance (socket : Socket) : Decidable (Unused s socket) := inferInstanceAs (Decidable (_ ∧ _ ∧ _))

/-- A connection is opened, and the session manager learns its peer. -/
def openSocket (socket : Socket) (info : OpenSocket) : DataManager :=
  { s with
    sessions := insertSocket s.sessions socket info.networkId
    openSockets := Function.update s.openSockets socket (some info) }

/-- `result` is what `DBind` gives: an unused number, or an error.
Source: `SoftbusSessionManager::Bind` -/
def bind (peerNetworkId : NetworkId) (result : Socket) : DataManager × Socket :=
  if Unused s result then
    (openSocket s result ⟨.proxy, configSoftbusSessionTag, peerNetworkId⟩, result)
  else (s, -1)

/-- A socket is no longer open. -/
def dropSocket (socket : Socket) : DataManager :=
  { s with
    openSockets := eraseKey s.openSockets socket
    listening := s.listening.filter (· ≠ socket) }

/-- The session manager keeps the peer of the socket.
Source: `SoftbusSessionManager::Shutdown` -/
def shutdownSocket (socket : Socket) : DataManager := dropSocket s socket

/-- `results` are what the attempts to bind give.
Source: `SoftbusDistributedDataManager::ConnectRemoteDevice` -/
def connectRemoteDevice (peerNetworkId : NetworkId) :
    ℕ → List Socket → DataManager → DataManager × Socket
  | retryCount, results, s =>
      match s.mProxySocketMap peerNetworkId with
      | some socket => (s, socket)
      | none =>
          let bound := bind s peerNetworkId (results.headD (-1))
          match retryCount with
          | 0 => bound
          | retryCount + 1 =>
              if bound.2 ≤ 0 then
                connectRemoteDevice peerNetworkId retryCount results.tail bound.1
              else bound

end sockets

/-! ## Servers -/

section servers

variable (s : DataManager)

/-- `result` is what `DSocket` gives.
Source: `SoftbusDistributedDataManager::InitSessionServer` -/
def initSessionServer (pkg : String) (result : Socket) : DataManager :=
  let s := { s with isServer := true }
  if Unused s result then
    { s with
      listening := s.listening ++ [result]
      mServerSocketMap := insertNew s.mServerSocketMap pkg result }
  else s

variable (characteristic : SessionRef → Characteristic)

/-- Source: `SoftbusDistributedDataManager::CreateServer` -/
def createServer (server : Option SessionRef) : DataManager :=
  match server with
  | none => s
  | some r =>
      if characteristic r ∈ s.serverMap then s
      else { s with serverMap := s.serverMap.insert (characteristic r) r }

/-- Source: `SoftbusDistributedDataManager::ReleaseServer` -/
def releaseServer (server : Option SessionRef) : DataManager :=
  match server with
  | none => s
  | some r =>
      if s.serverMap.lookup (characteristic r) = some r then
        { s.disconnectAllProxy r with serverMap := s.serverMap.erase (characteristic r) }
      else s

/-- Source: `SoftbusDistributedDataManager::OnSessionServerClosed` -/
def onSessionServerClosed (socket : Socket) : DataManager :=
  s.serverMap.entries.foldl (fun s e => s.disconnectProxy e.2 socket) s

end servers

/-! ## Proxies -/

section proxies

variable (s : DataManager)

/-- Source: `SoftbusDistributedDataManager::OnSessionProxyOpened` -/
def onSessionProxyOpened (socket : Socket) : DataManager :=
  match obtainPeerDeviceId s.sessions socket with
  | none => s
  | some networkId =>
      let s := { s with mProxySocketMap := insertNew s.mProxySocketMap networkId socket }
      match s.mDeviceToProxyMap.lookup networkId with
      | none => s
      | some proxyMap => connectServers s proxyMap socket

/-- Source: `SoftbusDistributedDataManager::OnSessionProxyClosed` -/
def onSessionProxyClosed (socket : Socket) : DataManager :=
  match obtainPeerDeviceId s.sessions socket with
  | none => s
  | some networkId =>
      match s.mDeviceToProxyMap.lookup networkId with
      | none => s
      | some proxyMap =>
          if proxyMap.entries = [] then s
          else
            { disconnectServers s proxyMap socket with
              mDeviceToProxyMap := s.mDeviceToProxyMap.erase networkId }

variable (characteristic : SessionRef → Characteristic)

/-- A new proxy of a device whose proxies are in `proxyMap`, a copy that is not put back. A proxy of
a device without one is entered before the connection is tried, and taken out if it fails. -/
def connectNewProxy (r : SessionRef) (peerNetworkId : NetworkId) (results : List Socket) :
    DataManager × Bool :=
  let registered :=
    match s.mDeviceToProxyMap.lookup peerNetworkId with
    | none =>
        let proxyMap : ProxyMap := AList.singleton (characteristic r) r
        ({ s with mDeviceToProxyMap := s.mDeviceToProxyMap.insert peerNetworkId proxyMap }, proxyMap)
    | some proxyMap => (s, proxyMap.insert (characteristic r) r)
  let connected :=
    connectRemoteDevice peerNetworkId softbusLinkMaxRetryTimes results registered.1
  if connected.2 ≤ 0 then
    let s := connected.1
    if (registered.2.erase (characteristic r)).entries = [] then
      ({ s with mDeviceToProxyMap := s.mDeviceToProxyMap.erase peerNetworkId }, false)
    else (s, false)
  else (onSessionProxyOpened connected.1 connected.2, true)

/-- A proxy of a device that there is a socket to is connected to it, and not entered.
Source: `SoftbusDistributedDataManager::CreateProxy` -/
def createProxy (proxy : Option SessionRef) (peerNetworkId : NetworkId) (packageName : String)
    (results : List Socket) : DataManager × Bool :=
  match proxy with
  | none => (s, false)
  | some r =>
      if peerNetworkId = "" ∨ packageName = "" then (s, false)
      else
        let s := { s with isServer := false }
        match s.mProxySocketMap peerNetworkId with
        | none => connectNewProxy s characteristic r peerNetworkId results
        | some socketId =>
            if socketId ≤ 0 then connectNewProxy s characteristic r peerNetworkId results
            else if obtainPeerDeviceId s.sessions socketId = some peerNetworkId then
              (s.connectServer r socketId, true)
            else
              connectNewProxy
                { s with mProxySocketMap := eraseKey s.mProxySocketMap peerNetworkId }
                characteristic r peerNetworkId results

/-- The proxy that is disconnected is the one entered under the characteristic. `proxyMap` is a copy
that is not put back.
Source: `SoftbusDistributedDataManager::ReleaseProxy` -/
def releaseProxy (proxy : Option SessionRef) (peerNetworkId : NetworkId) : DataManager × Bool :=
  match proxy with
  | none => (s, true)
  | some r =>
      if peerNetworkId = "" then (s, false)
      else
        match s.mDeviceToProxyMap.lookup peerNetworkId with
        | none => (s, true)
        | some proxyMap =>
            let s :=
              match proxyMap.lookup (characteristic r), s.mProxySocketMap peerNetworkId with
              | some entered, some socket => s.disconnectServer entered socket
              | _, _ => s
            if (proxyMap.erase (characteristic r)).entries = [] then
              let s :=
                match s.mProxySocketMap peerNetworkId with
                | none => s
                | some socket => shutdownSocket (onSessionProxyClosed s socket) socket
              ({ s with
                  mDeviceToProxyMap := s.mDeviceToProxyMap.erase peerNetworkId
                  mProxySocketMap := eraseKey s.mProxySocketMap peerNetworkId }, true)
            else (s, false)

/-- Source: `SoftbusDistributedDataManager::DestroySessionServer` -/
def destroySessionServer (pkg : String) : DataManager :=
  if s.isServer then
    let s := s.serverMap.entries.foldl (fun s e => s.disconnectAllProxy e.2) s
    shutdownSocket
      { s with serverMap := ∅, mServerSocketMap := eraseKey s.mServerSocketMap pkg }
      ((s.mServerSocketMap pkg).getD 0)
  else
    s.mDeviceToProxyMap.entries.foldl
      (fun s device => device.2.entries.foldl
        (fun s e => (releaseProxy s characteristic (some e.2) device.1).1) s) s

end proxies

/-! ## Events -/

section events

variable (s : DataManager)

/-- Source: `SoftbusDistributedDataManager::SessionOpened` -/
def sessionOpened (name : Option String) (networkId : NetworkId) : DataManager :=
  if name.getD "" ≠ configSoftbusSessionTag then s
  else { s with socketNameCache := name.getD "", peerNetworkIdCache := networkId }

/-- A peer connects to this device: an event for an unused number only.
Source: `SoftbusSessionManager::OnBind` -/
def onBind (socket : Socket) (name networkId : Option String) : DataManager :=
  match networkId with
  | none => s
  | some networkId =>
      if Unused s socket then
        openSocket (sessionOpened s name networkId) socket ⟨.server, name.getD "", networkId⟩
      else s

/-- Source: `SoftbusDistributedDataManager::SessionClosed` -/
def sessionClosed (socket : Socket) : DataManager :=
  if s.isServer ∧ s.socketNameCache ≠ configSoftbusSessionTag then s
  else if s.isServer then onSessionServerClosed s socket
  else onSessionProxyClosed s socket

/-- The listener is told before the session manager forgets the peer.
Source: `SoftbusSessionManager::OnShutdown` -/
def onShutdown (socket : Socket) : DataManager :=
  let s := sessionClosed s socket
  dropSocket { s with sessions := eraseSocket s.sessions socket } socket

/-- Source: `SoftbusDistributedDataManager::OnBytesServerReceived` -/
def onBytesServerReceived (socket : Socket) (data : Bytes) : DataManager :=
  match data with
  | [] => s
  | c :: rest =>
      match s.serverMap.lookup c with
      | none => s
      | some r =>
          if rest.head? = some messageCodeConnectServer then s.connectProxy r socket
          else s.onBytesReceived .server r s.peerNetworkIdCache data

/-- Source: `SoftbusDistributedDataManager::OnBytesProxyReceived` -/
def onBytesProxyReceived (socket : Socket) (data : Bytes) : DataManager :=
  match data with
  | [] => s
  | c :: _ =>
      match obtainPeerDeviceId s.sessions socket with
      | none => s
      | some networkId =>
          match (s.mDeviceToProxyMap.lookup networkId).bind (·.lookup c) with
          | none => s
          | some r => s.onBytesReceived .proxy r networkId data

/-- Source: `SoftbusDistributedDataManager::BytesReceived` -/
def bytesReceived (socket : Socket) (data : Bytes) : DataManager :=
  if s.isServer then
    if s.socketNameCache ≠ configSoftbusSessionTag then s
    else onBytesServerReceived s socket data
  else onBytesProxyReceived s socket data

end events

end AvSession.Softbus
