import AvSession.Item
import Mathlib.Logic.Function.Basic

/-!
# The ability that shows the lyrics

Sessions show their lyrics on the desktop through one ability for each user, which the service
connects to when the first session needs it. The connection comes about later, and may break.

* `CallConnection` — what is kept of one connection; `World` — all of it, with the ability manager.
* `startDesktopLyricAbility`, `uploadDesktopLyricOperationInfo`, `onAbilityConnectDone`,
  `onAbilityDisconnectDone` — the service and its connections.
* `setDesktopLyricVisibleInner`, `setDesktopLyricStateInner`, `enableDesktopLyric` — the sessions.
-/

namespace AvSession.Lyric

/-! ## Data -/

section data

/-- Source: avsession_service.cpp, DESKTOP_LYRICS_ABILITY_STATE. -/
inductive AbilityState
  | default
  | connecting
  | connected
  | disconnecting
  | disconnected
deriving DecidableEq

/-- Source: avsession_item.cpp, SendCodeEnum. -/
inductive SendCode
  | openLyric
  | closeLyric
  | lockLyric
  | unlockLyric
deriving DecidableEq

/-- What an ability is sent. -/
structure Operation where
  sessionId : String
  handler : String
  code : SendCode
deriving DecidableEq

/-- A connection object; `proxy` says that `desktopLyricProxy_` is not null.
Source: extension_connect_helper.h, DesktopLyricCallConnection. -/
structure CallConnection where
  sessionId : String
  handler : String
  userId : UserId
  proxy : Bool

/-- The identity of a connection object. -/
abbrev ConnectionRef := ℕ

/-- How the ability manager stands with a connection: what it has been asked for and has not yet
reported to have ended, or, if it is `failed`, what it reported to have come to nothing. -/
inductive Binding
  | idle
  | connecting
  | connected
  | failed
deriving DecidableEq

/-- The lyrics of a session.
Source: avsession_item.h, `AVSessionItem` -/
structure LyricSession where
  isSupported : Bool
  isEnabled : Bool
  isVisible : Bool
  isLocked : Bool

/-- Source: avsession_errors.h -/
inductive RetCode
  | success
  | error
  | errDesktopLyricNotSupport
  | errDesktopLyricNotEnable
deriving DecidableEq

/-- The service with its connections, the ability manager, the sessions there are, and what the
ability at the end of each connection has received since it was connected.
Source: avsession_service.h, `desktopLyricAbilityStateMap_`; extension_connect_helper.h,
`desktopLyricConnectionMap_` -/
structure World where
  currentUserId : UserId
  abilityStates : UserId → AbilityState
  connectionMap : UserId → Option ConnectionRef
  connections : List CallConnection
  bindings : ConnectionRef → Binding
  received : ConnectionRef → List Operation
  sessions : String → Option LyricSession

end data

/-! ## The service -/

section service

namespace World

variable (w : World)

/-- Source: avsession_service.cpp, AVSessionService::SetDesktopLyricAbilityState. -/
def setAbilityState (userId : UserId) (state : AbilityState) : World :=
  { w with abilityStates := Function.update w.abilityStates userId state }

/-- The connection object of a user, which is made anew if it has to be.
Source: extension_connect_helper.cpp, ExtensionConnectHelper::StartDesktopLyricAbility. -/
def takeConnection (sessionId handler : String) (userId : UserId) (shouldBeRecreated : Bool) :
    World × ConnectionRef :=
  match shouldBeRecreated, w.connectionMap userId with
  | false, some c => (w, c)
  | _, _ =>
      let c := w.connections.length
      ({ w with
          connectionMap := Function.update w.connectionMap userId (some c)
          connections := w.connections ++ [⟨sessionId, handler, userId, false⟩] }, c)

/-- The ability is connected to; `connects` says whether the ability manager takes the request.
Source: extension_connect_helper.cpp, ExtensionConnectHelper::StartDesktopLyricAbility. -/
def connectAbility (sessionId handler : String) (userId : UserId)
    (shouldBeRecreated connects : Bool) : World × RetCode :=
  let r := w.takeConnection sessionId handler userId shouldBeRecreated
  if connects then
    ({ r.1 with bindings := Function.update r.1.bindings r.2 .connecting }, .success)
  else (r.1, .error)

/-- Source: avsession_service.cpp, AVSessionService::StartDesktopLyricAbility. -/
def startDesktopLyricAbility (sessionId handler : String) (connects : Bool) : World × RetCode :=
  let userId := w.currentUserId
  match w.abilityStates userId with
  | .connecting | .connected => (w, .success)
  | state =>
      let w := w.setAbilityState userId .connecting
      match w.connectAbility sessionId handler userId (state == .disconnected) connects with
      | (w, .success) => (w, .success)
      | (w, ret) => (w.setAbilityState userId .default, ret)

/-- A message to the ability; `sent` says whether it arrives.
Source: extension_connect_helper.cpp, DesktopLyricCallConnection::SendDesktopLyricOperationInfo. -/
def sendOperationInfo (c : ConnectionRef) (op : Operation) (sent : Bool) : World :=
  match w.connections[c]? with
  | some connection =>
      if connection.proxy && sent then
        { w with received := Function.update w.received c (w.received c ++ [op]) }
      else w
  | none => w

/-- Source: avsession_service.cpp, AVSessionService::UploadDesktopLyricOperationInfo. -/
def uploadDesktopLyricOperationInfo (op : Operation) (sent : Bool) : World :=
  let userId := w.currentUserId
  match w.abilityStates userId, w.connectionMap userId with
  | .connected, some c => w.sendOperationInfo c op sent
  | _, _ => w

/-- The proxy of a connection object. -/
def setProxy (c : ConnectionRef) (proxy : Bool) : World :=
  { w with connections := w.connections.modify c fun connection => { connection with proxy } }

/-- The ability manager reports that an ability is connected, or that it could not be, if `remote`
is null: the service records the same for both.
Source: extension_connect_helper.cpp, DesktopLyricCallConnection::OnAbilityConnectDone. -/
def onAbilityConnectDone (c : ConnectionRef) (remote sent : Bool) : World :=
  match w.connections[c]? with
  | some connection =>
      let w := { w with
        bindings := Function.update w.bindings c (if remote then .connected else .failed)
        received := Function.update w.received c [] }
      let w := (w.setProxy c remote).setAbilityState connection.userId .connected
      w.sendOperationInfo c ⟨connection.sessionId, connection.handler, .openLyric⟩ sent
  | none => w

/-- Source: extension_connect_helper.cpp, DesktopLyricCallConnection::OnAbilityDisconnectDone. -/
def onAbilityDisconnectDone (c : ConnectionRef) : World :=
  match w.connections[c]? with
  | some connection =>
      let w := { w with bindings := Function.update w.bindings c .idle }
      (w.setProxy c false).setAbilityState connection.userId .disconnected
  | none => w

end World

end service

/-! ## The sessions -/

section sessions

namespace World

variable (w : World)

/-- A session is changed. -/
def modifySession (sessionId : String) (f : LyricSession → LyricSession) : World :=
  { w with sessions := Function.update w.sessions sessionId ((w.sessions sessionId).map f) }

/-- What the setters check; a session that is gone answers no call. -/
def checkLyric (sessionId : String) (needsEnabled : Bool) : RetCode :=
  match w.sessions sessionId with
  | some session =>
      if session.isSupported = false then .errDesktopLyricNotSupport
      else if needsEnabled && !session.isEnabled then .errDesktopLyricNotEnable
      else .success
  | none => .error

/-- Source: avsession_item.cpp, AVSessionItem::EnableDesktopLyric. -/
def enableDesktopLyric (sessionId : String) (isEnabled : Bool) : World × RetCode :=
  match w.checkLyric sessionId false with
  | .success =>
      (w.modifySession sessionId fun session =>
        if isEnabled then { session with isEnabled }
        else { session with isEnabled, isVisible := false, isLocked := false }, .success)
  | ret => (w, ret)

/-- Source: avsession_item.cpp, AVSessionItem::SetDesktopLyricVisibleInner. -/
def setDesktopLyricVisibleInner (sessionId handler : String) (isVisible connects sent : Bool) :
    World × RetCode :=
  match w.checkLyric sessionId true with
  | .success =>
      match if isVisible then w.startDesktopLyricAbility sessionId handler connects
        else (w, .success) with
      | (w, .success) =>
          let w := w.modifySession sessionId fun session => { session with isVisible }
          (w.uploadDesktopLyricOperationInfo
            ⟨sessionId, handler, if isVisible then .openLyric else .closeLyric⟩ sent, .success)
      | (w, _) => (w, .error)
  | ret => (w, ret)

/-- Source: avsession_item.cpp, AVSessionItem::SetDesktopLyricStateInner. -/
def setDesktopLyricStateInner (sessionId handler : String) (isLocked sent : Bool) :
    World × RetCode :=
  match w.checkLyric sessionId true with
  | .success =>
      let w := w.modifySession sessionId fun session => { session with isLocked }
      (w.uploadDesktopLyricOperationInfo
        ⟨sessionId, handler, if isLocked then .lockLyric else .unlockLyric⟩ sent, .success)
  | ret => (w, ret)

/-- Source: avsession_service.cpp, AVSessionService::CreateNewSession. -/
def createNewSession (sessionId : String) (isSupported : Bool) : World :=
  { w with sessions :=
      Function.update w.sessions sessionId (some ⟨isSupported, false, false, false⟩) }

/-- A session that ends does not tell the ability.
Source: avsession_item.cpp, AVSessionItem::DestroyTask. -/
def destroyTask (sessionId : String) : World :=
  { w with sessions := Function.update w.sessions sessionId none }

end World

/-- What happens, one after the other: sessions come and go, calls of sessions, reports of the
ability manager, and a change of the user. -/
inductive Act
  | createNewSession (sessionId : String) (isSupported : Bool)
  | destroyTask (sessionId : String)
  | enableDesktopLyric (sessionId : String) (isEnabled : Bool)
  | setDesktopLyricVisible (sessionId handler : String) (isVisible connects sent : Bool)
  | setDesktopLyricState (sessionId handler : String) (isLocked sent : Bool)
  | onAbilityConnectDone (c : ConnectionRef) (remote sent : Bool)
  | onAbilityDisconnectDone (c : ConnectionRef)
  | switchUser (userId : UserId)

/-- One step. -/
def World.step (w : World) : Act → World
  | .createNewSession sessionId isSupported => w.createNewSession sessionId isSupported
  | .destroyTask sessionId => w.destroyTask sessionId
  | .enableDesktopLyric sessionId isEnabled => (w.enableDesktopLyric sessionId isEnabled).1
  | .setDesktopLyricVisible sessionId handler isVisible connects sent =>
      (w.setDesktopLyricVisibleInner sessionId handler isVisible connects sent).1
  | .setDesktopLyricState sessionId handler isLocked sent =>
      (w.setDesktopLyricStateInner sessionId handler isLocked sent).1
  | .onAbilityConnectDone c remote sent => w.onAbilityConnectDone c remote sent
  | .onAbilityDisconnectDone c => w.onAbilityDisconnectDone c
  | .switchUser userId => { w with currentUserId := userId }

/-- Nothing has been connected to yet, and there is no session. -/
def World.init (currentUserId : UserId) : World where
  currentUserId := currentUserId
  abilityStates := fun _ => .default
  connectionMap := fun _ => none
  connections := []
  bindings := fun _ => .idle
  received := fun _ => []
  sessions := fun _ => none

end sessions

end AvSession.Lyric
