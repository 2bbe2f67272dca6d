import AvSession.Lib.Run
import Mathlib.Data.Int.Notation
import Mathlib.Data.List.Basic
import Mathlib.Logic.Function.Basic

/-!
# Sockets and session objects

The session manager maps the sockets to their peers; every session object, a server or a proxy, maps
its devices to sockets. Both maps are written by `insert`, which keeps an old entry, and the entry of
a device is erased by whatever socket of it goes down.

* `SessionState` — the two maps.
* `onConnectSession`, `onDisConnectSession`, `disconnectAllProxy` — what a session object does.
* `TrackState` — the maps next to the sockets that are alive and those that are connected.
* `closeSocket` — a socket that is closed from here, of which only Softbus hears.
* `tracks_iff` — the runs along which every map entry is the socket it should be.
* Left out: `OnConnectProxy`, `OnDisconnectProxy`, `OnConnectServer` and `OnDisconnectServer`, by
  which the classes derived from a session object hear of all this.
-/

namespace AvSession.Softbus

open AvSession.Lib

/-! ## The maps -/

section maps

/-- A socket number. -/
abbrev Socket := ℤ

/-- The id of a device in the network. -/
abbrev NetworkId := String

/-- The identity of a session object. -/
abbrev SessionRef := ℕ

/-- `std::map::insert`: an entry that is there is kept. -/
def insertNew {κ ν : Type} [DecidableEq κ] (m : κ → Option ν) (k : κ) (v : ν) : κ → Option ν :=
  if (m k).isSome then m else Function.update m k (some v)

/-- `std::map::erase`. -/
def eraseKey {κ ν : Type} [DecidableEq κ] (m : κ → Option ν) (k : κ) : κ → Option ν :=
  Function.update m k none

/-- The map `mMap_` of the session manager, and the map `deviceToSessionMap_` of every session
object; both are their lookups.
Source: softbus_session_manager.h, softbus_session.h -/
structure SessionState where
  mMap : Socket → Option NetworkId
  deviceToSessionMap : SessionRef → NetworkId → Option Socket

variable (s : SessionState)

/-- Source: `SoftbusSessionManager::ObtainPeerDeviceId` -/
def obtainPeerDeviceId (socket : Socket) : Option NetworkId :=
  if socket > 0 then s.mMap socket else none

/-- The entry that `Bind` and `OnBind` make.
Source: `SoftbusSessionManager::Bind`, `SoftbusSessionManager::OnBind` -/
def insertSocket (socket : Socket) (networkId : NetworkId) : SessionState :=
  { s with mMap := insertNew s.mMap socket networkId }

/-- What is left to do after the listeners were told.
Source: `SoftbusSessionManager::OnShutdown` -/
def eraseSocket (socket : Socket) : SessionState := { s with mMap := eraseKey s.mMap socket }

/-- The map of a session object is replaced. -/
def setSessions (r : SessionRef) (m : NetworkId → Option Socket) : SessionState :=
  { s with deviceToSessionMap := Function.update s.deviceToSessionMap r m }

/-- Source: `SoftbusSession::OnConnectSession` -/
def onConnectSession (r : SessionRef) (sessionId : Socket) : SessionState :=
  match obtainPeerDeviceId s sessionId with
  | none => s
  | some deviceId => setSessions s r (insertNew (s.deviceToSessionMap r) deviceId sessionId)

/-- Source: `SoftbusSession::OnDisConnectSession` -/
def onDisConnectSession (r : SessionRef) (sessionId : Socket) : SessionState :=
  match obtainPeerDeviceId s sessionId with
  | none => s
  | some deviceId => setSessions s r (eraseKey (s.deviceToSessionMap r) deviceId)

/-- A call that does nothing for a socket without a known peer. -/
def withPeer (call : SessionState → SessionRef → Socket → SessionState) (r : SessionRef)
    (sessionId : Socket) : SessionState :=
  if (obtainPeerDeviceId s sessionId).isSome then call s r sessionId else s

/-- Source: `SoftbusSessionServer::ConnectProxy` -/
def connectProxy (r : SessionRef) (sessionId : Socket) : SessionState :=
  withPeer s onConnectSession r sessionId

/-- Source: `SoftbusSessionServer::DisconnectProxy` -/
def disconnectProxy (r : SessionRef) (sessionId : Socket) : SessionState :=
  withPeer s onDisConnectSession r sessionId

/-- Source: `SoftbusSessionProxy::ConnectServer` -/
def connectServer (r : SessionRef) (socketId : Socket) : SessionState :=
  withPeer s onConnectSession r socketId

/-- Source: `SoftbusSessionProxy::DisconnectServer` -/
def disconnectServer (r : SessionRef) (socketId : Socket) : SessionState :=
  withPeer s onDisConnectSession r socketId

/-- Source: `SoftbusSessionServer::DisconnectAllProxy` -/
def disconnectAllProxy (r : SessionRef) : SessionState := setSessions s r fun _ => none

/-- The socket that data for a device goes to.
Source: `SoftbusSession::SendByte` -/
def sendByte (r : SessionRef) (deviceId : NetworkId) : Option Socket :=
  s.deviceToSessionMap r deviceId

end maps

/-! ## The sockets that are alive -/

section track

/-- The maps, the peer of every live socket, and for every session object the live sockets connected
to it, the most recent one last. -/
structure TrackState where
  sessions : SessionState
  live : Socket → Option NetworkId
  connected : SessionRef → List Socket

/-- Nothing is bound. -/
def TrackState.initial : TrackState where
  sessions := ⟨fun _ => none, fun _ _ => none⟩
  live := fun _ => none
  connected := fun _ => []

/-- An event of a socket, a call that closes one, or a call of a session object. `onShutdown` names
the session objects that the listener disconnects from the socket. -/
inductive SocketOp
  | bind (socket : Socket) (networkId : NetworkId)
  | shutdown (socket : Socket)
  | onShutdown (socket : Socket) (notified : List SessionRef)
  | connect (r : SessionRef) (socket : Socket)
  | disconnect (r : SessionRef) (socket : Socket)
  | disconnectAll (r : SessionRef)

/-- A socket is no longer connected to a session object. -/
def dropConnected (s : TrackState) (r : SessionRef) (socket : Socket) : TrackState :=
  { s with connected := Function.update s.connected r ((s.connected r).filter (· ≠ socket)) }

/-- A server is disconnected from a socket, or a proxy: `disconnectServer` is the same call. -/
def disconnect (s : TrackState) (r : SessionRef) (socket : Socket) : TrackState :=
  dropConnected { s with sessions := disconnectProxy s.sessions r socket } r socket

/-- A server is connected to a socket, if that is alive, or a proxy: `connectServer` is the same
call. -/
def connect (s : TrackState) (r : SessionRef) (socket : Socket) : TrackState :=
  let s := { s with sessions := connectProxy s.sessions r socket }
  if (s.live socket).isSome then
    { s with
      connected :=
        Function.update s.connected r ((s.connected r).filter (· ≠ socket) ++ [socket]) }
  else s

/-- A socket is bound, whatever the manager has for its number. -/
def bindSocket (s : TrackState) (socket : Socket) (networkId : NetworkId) : TrackState :=
  { s with
    sessions := insertSocket s.sessions socket networkId
    live := Function.update s.live socket (some networkId) }

/-- A socket is closed from here. Softbus is asked to close it; the entry of the manager stays, and
no session object is told.
Source: `SoftbusSessionManager::Shutdown` -/
def closeSocket (s : TrackState) (socket : Socket) : TrackState :=
  { s with
    live := eraseKey s.live socket
    connected := fun r => (s.connected r).filter (· ≠ socket) }

/-- A socket is gone: the manager and every session object lose it. -/
def socketGone (s : TrackState) (socket : Socket) : TrackState :=
  { closeSocket s socket with sessions := eraseSocket s.sessions socket }

/-- One event. -/
def step (s : TrackState) : SocketOp → TrackState
  | .bind socket networkId => bindSocket s socket networkId
  | .shutdown socket => closeSocket s socket
  | .onShutdown socket notified =>
      socketGone (notified.foldl (fun s r => disconnect s r socket) s) socket
  | .connect r socket => connect s r socket
  | .disconnect r socket => disconnect s r socket
  | .disconnectAll r =>
      { s with
        sessions := disconnectAllProxy s.sessions r
        connected := Function.update s.connected r [] }

/-- The sockets of a device that are connected to a session object. -/
def connectedTo (s : TrackState) (r : SessionRef) (deviceId : NetworkId) : List Socket :=
  (s.connected r).filter fun socket => s.live socket = some deviceId

/-- The peer of every live socket is known and that of no other, and data for a device goes to the
most recently connected of its sockets. -/
structure Tracks (s : TrackState) : Prop where
  peer : ∀ socket, obtainPeerDeviceId s.sessions socket = s.live socket
  target : ∀ r deviceId socket, (connectedTo s r deviceId).getLast? = some socket →
    sendByte s.sessions r deviceId = some socket

/-- The condition on an event: a socket is bound only to a number, from 1 on, that the manager has
for no other device; what is closed from here is unknown to the manager; a socket is connected only
where no other socket is filed for its device, and disconnected only where no other socket of its
device is connected. -/
def Orderly (s : TrackState) : SocketOp → Prop
  | .bind socket networkId =>
      socket > 0 ∧ ∀ other, s.sessions.mMap socket = some other → other = networkId
  | .shutdown socket => obtainPeerDeviceId s.sessions socket = none
  | .connect r socket => ∀ deviceId, s.live socket = some deviceId →
      ∀ other, sendByte s.sessions r deviceId = some other → other = socket
  | .disconnect r socket => ∀ deviceId, s.live socket = some deviceId →
      ∀ other ∈ connectedTo s r deviceId, other = socket
  | .onShutdown socket notified => ∀ deviceId, s.live socket = some deviceId →
      ∀ r ∈ notified, ∀ other ∈ connectedTo s r deviceId, other = socket
  | _ => True

end track

/-! ## The maps after a call -/

section calls

variable {κ ν : Type} [DecidableEq κ] {m : κ → Option ν} {k k' : κ} {v : ν}

/-- An insert under a free key enters the value. -/
theorem insertNew_of_none (h : m k = none) : insertNew m k v = Function.update m k (some v) := by
  unfold insertNew
  rw [h]
  exact if_neg Bool.false_ne_true

/-- An insert under a taken key does nothing, as std::map's insert. -/
theorem insertNew_of_some {w : ν} (h : m k = some w) : insertNew m k v = m := by
  unfold insertNew
  rw [h]
  exact if_pos rfl

/-- The new key is filed under the new value exactly if no other value is filed there. -/
theorem insertNew_self_iff : insertNew m k v k = some v ↔ ∀ w, m k = some w → w = v := by
  cases h : m k with
  | none => simp [insertNew_of_none h]
  | some w => simp [insertNew_of_some h, h]

/-- An insert leaves the other keys. -/
theorem insertNew_of_ne (h : k' ≠ k) : insertNew m k v k' = m k' := by
  unfold insertNew
  split_ifs
  · rfl
  · exact Function.update_of_ne h _ _

variable {s : SessionState} {r r' : SessionRef} {socket : Socket} {deviceId : NetworkId}

/-- A socket without a peer connects no proxy. -/
theorem connectProxy_of_none (h : obtainPeerDeviceId s socket = none) :
    connectProxy s r socket = s := by
  unfold connectProxy withPeer
  rw [h]
  exact if_neg Bool.false_ne_true

/-- A socket without a peer disconnects no proxy. -/
theorem disconnectProxy_of_none (h : obtainPeerDeviceId s socket = none) :
    disconnectProxy s r socket = s := by
  unfold disconnectProxy withPeer
  rw [h]
  exact if_neg Bool.false_ne_true

/-- A socket with a peer is inserted under the peer's id. -/
theorem connectProxy_of_some (h : obtainPeerDeviceId s socket = some deviceId) :
    connectProxy s r socket =
      setSessions s r (insertNew (s.deviceToSessionMap r) deviceId socket) := by
  unfold connectProxy withPeer onConnectSession
  rw [h]
  exact if_pos rfl

/-- A socket with a peer erases the entry of the peer's id. -/
theorem disconnectProxy_of_some (h : obtainPeerDeviceId s socket = some deviceId) :
    disconnectProxy s r socket = setSessions s r (eraseKey (s.deviceToSessionMap r) deviceId) := by
  unfold disconnectProxy withPeer onDisConnectSession
  rw [h]
  exact if_pos rfl

/-- The session whose map is set has that map. -/
theorem setSessions_self (m : NetworkId → Option Socket) :
    (setSessions s r m).deviceToSessionMap r = m := Function.update_self ..

/-- Setting one session's map leaves the others. -/
theorem setSessions_of_ne (h : r' ≠ r) (m : NetworkId → Option Socket) :
    (setSessions s r m).deviceToSessionMap r' = s.deviceToSessionMap r' :=
  Function.update_of_ne h ..

/-- The calls of a session object leave the sockets of the manager alone. -/
theorem mMap_disconnectProxy (s : SessionState) (r : SessionRef) (socket : Socket) :
    (disconnectProxy s r socket).mMap = s.mMap := by
  cases h : obtainPeerDeviceId s socket with
  | none => rw [disconnectProxy_of_none h]
  | some deviceId =>
      rw [disconnectProxy_of_some h]
      rfl

/-- Connecting a proxy changes nobody's peer. -/
theorem mMap_connectProxy (s : SessionState) (r : SessionRef) (socket : Socket) :
    (connectProxy s r socket).mMap = s.mMap := by
  cases h : obtainPeerDeviceId s socket with
  | none => rw [connectProxy_of_none h]
  | some deviceId =>
      rw [connectProxy_of_some h]
      rfl

end calls

/-! ## Runs -/

section runs

variable {s : TrackState} {r r' : SessionRef} {socket other : Socket}
  {deviceId deviceId' : NetworkId}

/-- A socket connects a session to a device when it is live with that device as its peer. -/
theorem mem_connectedTo :
    socket ∈ connectedTo s r deviceId ↔
      socket ∈ s.connected r ∧ s.live socket = some deviceId := by
  unfold connectedTo
  rw [List.mem_filter, decide_eq_true_iff]

/-- What holds along a run in which every event is orderly: connected sockets are alive, and of each
device at most one is connected. -/
structure OneEach (s : TrackState) : Prop where
  alive : ∀ r, ∀ socket ∈ s.connected r, (s.live socket).isSome = true
  one : ∀ r deviceId, ∀ socket ∈ connectedTo s r deviceId,
    ∀ other ∈ connectedTo s r deviceId, other = socket

/-- With one socket of each device connected, the most recent one is the only one. -/
theorem getLast?_connectedTo (h : OneEach s) :
    (connectedTo s r deviceId).getLast? = some socket ↔ socket ∈ connectedTo s r deviceId := by
  constructor
  · exact List.mem_of_getLast?
  · intro hmem
    have hlast := List.getLast?_eq_some_getLast (List.ne_nil_of_mem hmem)
    rw [hlast, h.one r deviceId socket hmem _ (List.mem_of_getLast? hlast)]

/-- The entry of a device is its connected socket. -/
def Filed (s : TrackState) : Prop :=
  ∀ r deviceId, ∀ socket ∈ connectedTo s r deviceId, sendByte s.sessions r deviceId = some socket

/-- A file with live sockets only has one socket for each device. -/
theorem Filed.oneEach (h : Filed s)
    (halive : ∀ r, ∀ socket ∈ s.connected r, (s.live socket).isSome = true) : OneEach s := by
  refine ⟨halive, fun r deviceId socket hsocket other hother => ?_⟩
  exact Option.some.inj ((h r deviceId other hother).symm.trans (h r deviceId socket hsocket))

/-- Files by the recorded peer are files by the real one where the two agree. -/
theorem Filed.tracks (h : Filed s)
    (hpeer : ∀ socket, obtainPeerDeviceId s.sessions socket = s.live socket) : Tracks s :=
  ⟨hpeer, fun r deviceId socket hlast => h r deviceId socket (List.mem_of_getLast? hlast)⟩

/-- With one socket for each device, tracking the sockets is filing them. -/
theorem Tracks.filed (h : Tracks s) (hone : OneEach s) : Filed s :=
  fun r deviceId socket hmem => h.target r deviceId socket ((getLast?_connectedTo hone).mpr hmem)

/-- Every socket that the manager can name is the peer's of a live one. -/
def PeersKnown (s : TrackState) : Prop :=
  ∀ socket, obtainPeerDeviceId s.sessions socket = s.live socket

/-- Connected sockets are alive. -/
def ConnectedAlive (s : TrackState) : Prop :=
  ∀ r, ∀ socket ∈ s.connected r, (s.live socket).isSome = true

/-! ### Disconnecting -/

/-- A disconnect takes the socket from its own session's list. -/
theorem disconnect_connected :
    (disconnect s r socket).connected r' =
      if r' = r then (s.connected r).filter (· ≠ socket) else s.connected r' :=
  Function.update_apply ..

/-- A disconnect closes no socket. -/
theorem disconnect_live : (disconnect s r socket).live = s.live := rfl

/-- A disconnect leaves the recorded peers right. -/
theorem PeersKnown.disconnect (h : PeersKnown s) : PeersKnown (disconnect s r socket) := by
  intro socket'
  unfold obtainPeerDeviceId
  have hmap : (Softbus.disconnect s r socket).sessions.mMap = s.sessions.mMap :=
    mMap_disconnectProxy ..
  rw [hmap]
  exact h socket'

/-- The entry of the device of the socket goes, whatever socket it names. -/
theorem disconnect_sendByte (h : PeersKnown s) :
    sendByte (disconnect s r socket).sessions r' deviceId =
      if r' = r ∧ s.live socket = some deviceId then none
      else sendByte s.sessions r' deviceId := by
  show (disconnectProxy s.sessions r socket).deviceToSessionMap r' deviceId = _
  cases hlive : s.live socket with
  | none =>
      rw [disconnectProxy_of_none ((h socket).trans hlive), if_neg (by simp)]
      rfl
  | some peer =>
      rw [disconnectProxy_of_some ((h socket).trans hlive)]
      by_cases hr : r' = r
      · subst hr
        rw [setSessions_self, eraseKey, Function.update_apply]
        simp only [true_and, Option.some.injEq, eq_comm]
        rfl
      · rw [setSessions_of_ne hr, if_neg fun hand => hr hand.1]
        rfl

/-- The session objects of a list are disconnected from a socket. -/
def disconnectEach (s : TrackState) (notified : List SessionRef) (socket : Socket) : TrackState :=
  notified.foldl (fun s r => disconnect s r socket) s

/-- So do the disconnects of every notified session. -/
theorem PeersKnown.disconnectEach (h : PeersKnown s) (notified : List SessionRef)
    (socket : Socket) : PeersKnown (disconnectEach s notified socket) := by
  induction notified generalizing s with
  | nil => exact h
  | cons r rs ih => exact ih h.disconnect

/-- The disconnects of every notified session close no socket. -/
theorem disconnectEach_live (s : TrackState) (notified : List SessionRef) (socket : Socket) :
    (disconnectEach s notified socket).live = s.live := by
  induction notified generalizing s with
  | nil => rfl
  | cons r rs ih => exact ih (disconnect s r socket)

/-- Each notified session loses the socket, the others keep it. -/
theorem disconnectEach_connected (s : TrackState) (notified : List SessionRef) :
    (disconnectEach s notified socket).connected r =
      if r ∈ notified then (s.connected r).filter (· ≠ socket) else s.connected r := by
  induction notified generalizing s with
  | nil => rfl
  | cons r' rs ih =>
      show (disconnectEach (disconnect s r' socket) rs socket).connected r = _
      rw [ih, disconnect_connected]
      by_cases hr : r = r'
      · subst hr
        simp
      · simp [hr]

/-- Each notified session loses its way to the peer, the others keep theirs. -/
theorem disconnectEach_sendByte (h : PeersKnown s) (notified : List SessionRef) :
    sendByte (disconnectEach s notified socket).sessions r deviceId =
      if r ∈ notified ∧ s.live socket = some deviceId then none
      else sendByte s.sessions r deviceId := by
  induction notified generalizing s with
  | nil => rfl
  | cons r' rs ih =>
      show sendByte (disconnectEach (disconnect s r' socket) rs socket).sessions r deviceId = _
      rw [ih h.disconnect, disconnect_sendByte h, disconnect_live]
      by_cases hr : r = r'
      · subst hr
        by_cases hlive : s.live socket = some deviceId
        · simp [hlive]
        · simp [hlive]
      · simp [hr]

/-- What stays connected after a disconnect is everything but that socket of that session. -/
theorem mem_connectedTo_disconnect :
    other ∈ connectedTo (disconnect s r socket) r' deviceId ↔
      other ∈ connectedTo s r' deviceId ∧ (r' = r → other ≠ socket) := by
  rw [mem_connectedTo, mem_connectedTo, disconnect_connected, disconnect_live]
  by_cases hr : r' = r
  · subst hr
    simp [and_right_comm]
  · simp [hr]

/-- A closed socket is connected to nothing any more. -/
theorem mem_connectedTo_closeSocket :
    other ∈ connectedTo (closeSocket s socket) r deviceId ↔
      other ∈ connectedTo s r deviceId ∧ other ≠ socket := by
  have hconnected : other ∈ (closeSocket s socket).connected r ↔
      other ∈ s.connected r ∧ other ≠ socket := by simp [closeSocket]
  rw [mem_connectedTo, mem_connectedTo, hconnected, and_right_comm]
  refine and_congr_left fun hne => and_congr_right fun _ => ?_
  have hlive : (closeSocket s socket).live other = s.live other := Function.update_of_ne hne _ _
  rw [hlive]

/-- A live socket goes down. -/
def socketDown (s : TrackState) (socket : Socket) (notified : List SessionRef) : TrackState :=
  socketGone (disconnectEach s notified socket) socket

/-- A socket that goes down connects nobody any more. -/
theorem mem_connectedTo_socketDown {notified : List SessionRef} :
    other ∈ connectedTo (socketDown s socket notified) r deviceId ↔
      other ∈ connectedTo s r deviceId ∧ other ≠ socket := by
  show other ∈ connectedTo (closeSocket (disconnectEach s notified socket) socket) r deviceId ↔ _
  rw [mem_connectedTo_closeSocket, mem_connectedTo, mem_connectedTo, disconnectEach_connected,
    disconnectEach_live]
  refine and_congr_left fun hne => and_congr_left fun _ => ?_
  split_ifs
  · simp [hne]
  · rfl

/-- When a socket goes down the notified sessions lose their way to its peer. -/
theorem socketDown_sendByte (h : PeersKnown s) (notified : List SessionRef) :
    sendByte (socketDown s socket notified).sessions r deviceId =
      if r ∈ notified ∧ s.live socket = some deviceId then none
      else sendByte s.sessions r deviceId :=
  disconnectEach_sendByte h notified

/-! ### Connecting -/

/-- A dead socket connects nobody. -/
theorem connect_of_dead (h : PeersKnown s) (hlive : s.live socket = none) :
    connect s r socket = s := by
  unfold connect
  rw [connectProxy_of_none ((h socket).trans hlive)]
  simp [hlive]

/-- A live socket is connected. -/
theorem connect_of_live (h : PeersKnown s) (hlive : s.live socket = some deviceId) :
    connect s r socket =
      { s with
        sessions := setSessions s.sessions r
          (insertNew (s.sessions.deviceToSessionMap r) deviceId socket)
        connected :=
          Function.update s.connected r ((s.connected r).filter (· ≠ socket) ++ [socket]) } := by
  unfold connect
  rw [connectProxy_of_some ((h socket).trans hlive)]
  simp [hlive]

/-- A connect adds one socket of one session under its peer. -/
theorem mem_connectedTo_connect (h : PeersKnown s) (hlive : s.live socket = some deviceId) :
    other ∈ connectedTo (connect s r socket) r' deviceId' ↔
      other ∈ connectedTo s r' deviceId' ∨ (r' = r ∧ other = socket ∧ deviceId' = deviceId) := by
  rw [connect_of_live h hlive, mem_connectedTo, mem_connectedTo]
  dsimp only
  rw [Function.update_apply]
  split_ifs with hr
  · subst hr
    simp only [List.mem_append, List.mem_filter, List.mem_singleton, decide_eq_true_iff, true_and]
    by_cases hother : other = socket
    · subst hother
      simp [hlive, eq_comm]
    · simp [hother]
  · simp [hr]

/-- The socket just connected is the most recent one of its device. -/
theorem getLast?_connectedTo_connect (h : PeersKnown s) (hlive : s.live socket = some deviceId) :
    (connectedTo (connect s r socket) r deviceId).getLast? = some socket := by
  have hlist : connectedTo (connect s r socket) r deviceId =
      (((s.connected r).filter (· ≠ socket)).filter fun socket => s.live socket = some deviceId) ++
        [socket] := by
    rw [connect_of_live h hlive]
    unfold connectedTo
    dsimp only
    rw [Function.update_self, List.filter_append, List.filter_cons_of_pos (by simpa using hlive)]
    rfl
  rw [hlist, List.getLast?_append, List.getLast?_singleton]
  rfl

/-- The new socket is the way to the peer unless another one was there first. -/
theorem connect_sendByte_self (h : PeersKnown s) (hlive : s.live socket = some deviceId) :
    sendByte (connect s r socket).sessions r deviceId = some socket ↔
      ∀ other, sendByte s.sessions r deviceId = some other → other = socket := by
  rw [connect_of_live h hlive]
  show (setSessions s.sessions r _).deviceToSessionMap r deviceId = some socket ↔ _
  rw [setSessions_self]
  exact insertNew_self_iff

/-- A connect changes no other session's way and no way to another device. -/
theorem connect_sendByte_other (h : PeersKnown s) (hlive : s.live socket = some deviceId)
    (hne : ¬ (r' = r ∧ deviceId' = deviceId)) :
    sendByte (connect s r socket).sessions r' deviceId' = sendByte s.sessions r' deviceId' := by
  rw [connect_of_live h hlive]
  show (setSessions s.sessions r _).deviceToSessionMap r' deviceId' = _
  by_cases hr : r' = r
  · subst hr
    rw [setSessions_self, insertNew_of_ne fun hd => hne ⟨rfl, hd⟩]
    rfl
  · rw [setSessions_of_ne hr]
    rfl

/-! ### Every event -/

/-- A new socket is known as its peer's exactly if nothing else is. -/
theorem obtainPeerDeviceId_bindSocket_iff {networkId : NetworkId} :
    obtainPeerDeviceId (bindSocket s socket networkId).sessions socket = some networkId ↔
      Orderly s (.bind socket networkId) := by
  show (if socket > 0 then insertNew s.sessions.mMap socket networkId socket else none) = _ ↔ _ ∧ _
  split_ifs with hpos
  · rw [insertNew_self_iff]
    exact (and_iff_right hpos).symm
  · exact iff_of_false (by simp) fun h => hpos h.1

/-- An orderly bind records the peer it makes. -/
theorem PeersKnown.bindSocket (h : PeersKnown s) {networkId : NetworkId}
    (hop : Orderly s (.bind socket networkId)) : PeersKnown (bindSocket s socket networkId) := by
  intro other
  by_cases hother : other = socket
  · have hlive : (Softbus.bindSocket s socket networkId).live socket = some networkId :=
      Function.update_self ..
    rw [hother, hlive]
    exact obtainPeerDeviceId_bindSocket_iff.mpr hop
  · show (if other > 0 then insertNew s.sessions.mMap socket networkId other else none) =
      Function.update s.live socket (some networkId) other
    rw [insertNew_of_ne hother, Function.update_of_ne hother]
    exact h other

/-- An orderly shutdown erases the peer it takes away. -/
theorem PeersKnown.closeSocket (h : PeersKnown s) (hop : Orderly s (.shutdown socket)) :
    PeersKnown (closeSocket s socket) := by
  intro other
  by_cases hother : other = socket
  · have hlive : (Softbus.closeSocket s socket).live socket = none := Function.update_self ..
    rw [hother, hlive]
    exact hop
  · exact (h other).trans (Function.update_of_ne hother _ _).symm

/-- Every orderly operation leaves the recorded peers right. -/
theorem PeersKnown.step (h : PeersKnown s) {op : SocketOp} (hop : Orderly s op) :
    PeersKnown (step s op) := by
  cases op with
  | bind socket networkId => exact h.bindSocket hop
  | shutdown socket => exact h.closeSocket hop
  | onShutdown socket notified =>
      have heach := h.disconnectEach notified socket
      intro socket'
      show (if socket' > 0 then
          eraseKey (Softbus.disconnectEach s notified socket).sessions.mMap socket socket'
        else none) = eraseKey (Softbus.disconnectEach s notified socket).live socket socket'
      by_cases hsocket : socket' = socket
      · subst hsocket
        unfold eraseKey
        rw [Function.update_self, Function.update_self, ite_self]
      · unfold eraseKey
        rw [Function.update_of_ne hsocket, Function.update_of_ne hsocket]
        exact heach socket'
  | connect r socket =>
      show PeersKnown (connect s r socket)
      cases hlive : s.live socket with
      | none =>
          rw [connect_of_dead h hlive]
          exact h
      | some deviceId =>
          rw [connect_of_live h hlive]
          exact h
  | disconnect r socket => exact h.disconnect
  | disconnectAll r => exact h

/-- With the peers known, only live sockets stay connected. -/
theorem ConnectedAlive.step (h : ConnectedAlive s) (hpeer : PeersKnown s) (op : SocketOp) :
    ConnectedAlive (step s op) := by
  cases op with
  | bind socket networkId =>
      intro r other hother
      show (Function.update s.live socket (some networkId) other).isSome = true
      rw [Function.update_apply]
      split_ifs
      · rfl
      · exact h r other hother
  | shutdown socket =>
      intro r other hother
      obtain ⟨hother, hne⟩ := List.mem_filter.mp hother
      rw [decide_eq_true_iff] at hne
      show (eraseKey s.live socket other).isSome = true
      rw [eraseKey, Function.update_of_ne hne]
      exact h r other hother
  | onShutdown socket notified =>
      intro r other hother
      obtain ⟨hother, hne⟩ := List.mem_filter.mp hother
      rw [decide_eq_true_iff] at hne
      have hmem : other ∈ s.connected r := by
        change other ∈ (disconnectEach s notified socket).connected r at hother
        rw [disconnectEach_connected] at hother
        split_ifs at hother
        · exact List.mem_of_mem_filter hother
        · exact hother
      show (eraseKey (disconnectEach s notified socket).live socket other).isSome = true
      rw [eraseKey, Function.update_of_ne hne, disconnectEach_live]
      exact h r other hmem
  | connect r socket =>
      show ConnectedAlive (connect s r socket)
      cases hlive : s.live socket with
      | none =>
          rw [connect_of_dead hpeer hlive]
          exact h
      | some deviceId =>
          rw [connect_of_live hpeer hlive]
          intro r' other hother
          dsimp only at hother ⊢
          rw [Function.update_apply] at hother
          split_ifs at hother
          · rcases List.mem_append.mp hother with hother | hother
            · exact h r other (List.mem_of_mem_filter hother)
            · rw [List.mem_singleton.mp hother, hlive]
              rfl
          · exact h r' other hother
  | disconnect r socket =>
      intro r' other hother
      change other ∈ (Softbus.disconnect s r socket).connected r' at hother
      rw [disconnect_connected] at hother
      split_ifs at hother with hr
      · exact h r other (List.mem_of_mem_filter hother)
      · exact h r' other hother
  | disconnectAll r =>
      intro r' other hother
      change other ∈ Function.update s.connected r [] r' at hother
      rw [Function.update_apply] at hother
      split_ifs at hother
      · exact absurd hother List.not_mem_nil
      · exact h r' other hother

/-- An orderly event files every connected socket under its device. -/
theorem Filed.step (h : Filed s) (hpeer : PeersKnown s) (halive : ConnectedAlive s) {op : SocketOp}
    (hop : Orderly s op) : Filed (step s op) := by
  cases op with
  | bind socket networkId =>
      intro r deviceId other hother
      obtain ⟨hmem, hlive⟩ := mem_connectedTo.mp hother
      refine h r deviceId other (mem_connectedTo.mpr ⟨hmem, ?_⟩)
      by_cases hne : other = socket
      · -- it is alive already, as a socket of the same device
        subst hne
        obtain ⟨old, hold⟩ := Option.isSome_iff_exists.mp (halive r other hmem)
        have hmap : s.sessions.mMap other = some old := by
          have hknown := hpeer other
          rwa [obtainPeerDeviceId, if_pos hop.1, hold] at hknown
        have hnew : (Softbus.step s (.bind other networkId)).live other = some networkId :=
          Function.update_self ..
        rw [hold, hop.2 old hmap, ← hnew, hlive]
      · exact (Function.update_of_ne hne _ _).symm.trans hlive
  | shutdown socket =>
      intro r deviceId other hother
      exact h r deviceId other (mem_connectedTo_closeSocket.mp hother).1
  | onShutdown socket notified =>
      intro r deviceId other hother
      obtain ⟨hmem, hne⟩ := mem_connectedTo_socketDown.mp hother
      show sendByte (socketDown s socket notified).sessions r deviceId = _
      rw [socketDown_sendByte hpeer, if_neg]
      · exact h r deviceId other hmem
      · rintro ⟨hr, hlive⟩
        exact hne (hop deviceId hlive r hr other hmem)
  | connect r socket =>
      show Filed (connect s r socket)
      cases hlive : s.live socket with
      | none =>
          rw [connect_of_dead hpeer hlive]
          exact h
      | some deviceId =>
          intro r' deviceId' other hother
          rw [mem_connectedTo_connect hpeer hlive] at hother
          by_cases hself : r' = r ∧ deviceId' = deviceId
          · obtain ⟨rfl, rfl⟩ := hself
            have hothers := hop deviceId' hlive
            have hother' : other = socket := by
              rcases hother with hold | ⟨-, hnew, -⟩
              · exact hothers other (h r' deviceId' other hold)
              · exact hnew
            rw [hother']
            exact (connect_sendByte_self hpeer hlive).mpr hothers
          · rw [connect_sendByte_other hpeer hlive hself]
            rcases hother with hold | ⟨hr, -, hd⟩
            · exact h r' deviceId' other hold
            · exact absurd ⟨hr, hd⟩ hself
  | disconnect r socket =>
      intro r' deviceId other hother
      obtain ⟨hmem, hne⟩ := mem_connectedTo_disconnect.mp hother
      show sendByte (Softbus.disconnect s r socket).sessions r' deviceId = _
      rw [disconnect_sendByte hpeer, if_neg]
      · exact h r' deviceId other hmem
      · rintro ⟨rfl, hlive⟩
        exact hne rfl (hop deviceId hlive other hmem)
  | disconnectAll r =>
      intro r' deviceId other hother
      obtain ⟨hmem, hlive⟩ := mem_connectedTo.mp hother
      change other ∈ Function.update s.connected r [] r' at hmem
      rw [Function.update_apply] at hmem
      split_ifs at hmem with hr
      · exact absurd hmem List.not_mem_nil
      · show (setSessions s.sessions r _).deviceToSessionMap r' deviceId = _
        rw [setSessions_of_ne hr]
        exact h r' deviceId other (mem_connectedTo.mpr ⟨hmem, hlive⟩)

/-- After an event that is not orderly a peer is wrong, or data goes to the wrong socket. -/
theorem orderly_of_tracks (hpeer : PeersKnown s) {op : SocketOp}
    (h : Tracks (step s op)) : Orderly s op := by
  cases op with
  | bind socket networkId =>
      refine obtainPeerDeviceId_bindSocket_iff.mp ((h.peer socket).trans ?_)
      exact Function.update_self ..
  | shutdown socket => exact (h.peer socket).trans (Function.update_self ..)
  | disconnectAll r => trivial
  | connect r socket =>
      intro deviceId hlive
      refine (connect_sendByte_self hpeer hlive).mp (h.target r deviceId socket ?_)
      exact getLast?_connectedTo_connect hpeer hlive
  | disconnect r socket =>
      intro deviceId hlive other hother
      by_contra hne
      have hmem : other ∈ connectedTo (disconnect s r socket) r deviceId :=
        mem_connectedTo_disconnect.mpr ⟨hother, fun _ => hne⟩
      have hlast := List.getLast?_eq_some_getLast (List.ne_nil_of_mem hmem)
      have hsend := h.target r deviceId _ hlast
      change sendByte (disconnect s r socket).sessions r deviceId = _ at hsend
      rw [disconnect_sendByte hpeer, if_pos ⟨rfl, hlive⟩] at hsend
      exact absurd hsend (Option.some_ne_none _).symm
  | onShutdown socket notified =>
      intro deviceId hlive r hr other hother
      by_contra hne
      have hmem : other ∈ connectedTo (socketDown s socket notified) r deviceId :=
        mem_connectedTo_socketDown.mpr ⟨hother, hne⟩
      have hlast := List.getLast?_eq_some_getLast (List.ne_nil_of_mem hmem)
      have hsend := h.target r deviceId _ hlast
      change sendByte (socketDown s socket notified).sessions r deviceId = _ at hsend
      rw [socketDown_sendByte hpeer, if_pos ⟨hr, hlive⟩] at hsend
      exact absurd hsend (Option.some_ne_none _).symm

/-- Without sockets there is nothing to track. -/
theorem tracks_initial : Tracks .initial :=
  ⟨fun _ => ite_self _, fun _ _ _ h => nomatch h⟩

/-- **Where data goes.** The maps track the live sockets along a run exactly if every event of it is
orderly. -/
theorem tracks_iff (ops : List SocketOp) :
    Always step Tracks .initial ops ↔ Meets step Orderly .initial ops := by
  refine always_iff_meets_of_side (J := fun s => ConnectedAlive s ∧ OneEach s) ?_ ?_ ops ?_
    tracks_initial
  · rintro s op ⟨halive, hone⟩ htracks hop
    have halive' := halive.step htracks.peer op
    exact ⟨halive', ((htracks.filed hone).step htracks.peer halive hop).oneEach halive'⟩
  · rintro s op ⟨halive, hone⟩ htracks
    constructor
    · exact orderly_of_tracks htracks.peer
    · intro hop
      have hfiled := (htracks.filed hone).step htracks.peer halive hop
      exact hfiled.tracks (PeersKnown.step htracks.peer hop)
  · have halive : ConnectedAlive .initial := fun _ _ h => absurd h List.not_mem_nil
    exact ⟨halive, halive, fun _ _ _ h => absurd h List.not_mem_nil⟩

/-- A device that connects on a new socket before its old one is shut down. -/
theorem reconnected_before_shutdown :
    ¬ ∀ ops : List SocketOp, Always step Tracks .initial ops := by
  intro h
  have hrun := (h [.bind 1 "device", .connect 0 1, .bind 2 "device", .connect 0 2]).last
  have hsend := hrun.target 0 "device" 2 rfl
  exact absurd hsend (by decide)

end runs

end AvSession.Softbus
