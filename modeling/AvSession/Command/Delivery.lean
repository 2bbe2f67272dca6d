import AvSession.Command.Handlers
import AvSession.Lib.Quota

/-!
# Commands of controllers

Controllers send commands to their sessions, and system callers to the top session. How many of them
a process may send between two firings of a timer is limited, over all sessions together.

* `World` — the sessions, the controllers, the limit and what the sessions have done.
* `sendControlCommand`, `sendCommonCommand`, `getExtras`, `sendSystemControlCommand` — the limited
  requests; `sendAVKeyEvent`, `sendCustomData`, `skipToQueueItem` — the others.
* `Direct` — what sessions are asked without a controller and without the limit.
* `newController`, `destroyController`, `destroyTask` — which session a controller has.
* `Act`, `step` — everything that happens.
-/

namespace AvSession.Command

open AvSession.Lib

/-! ## Data -/

section data

/-- What a request answers. -/
inductive Answer
  | success
  | error
  | errUnmarshalling
  | errNoPermission
  | errSessionNotExist
  | errCommandNotSupport
  | errCommandSendExceedMax
  | other (ret : ℤ)
deriving DecidableEq

/-- A controller item. Its client is `pid`, and `session` is `session_`.
Source: avcontroller_item.h, `AVControllerItem` -/
structure AVControllerItem where
  pid : Pid
  session : Option SessionRef
  hasMigrateProxy : Bool

/-- `log` are the effects of the sessions, in order. A controller that has not been created is
`none`. -/
structure World (W : Type*) where
  limit : Quota Pid
  sessions : SessionRef → CommandSession
  controllers : ControllerRef → Option AVControllerItem
  log : List (SessionRef × Effect W)

/-- Source: command_send_limit.h, COMMAND_SEND_NUM_MAX -/
def Setting.commandSendNumMax (z : Setting) : ℕ := if z.raiseCommandRateLimit then 100 else 10

end data

/-! ## Requests -/

section requests

namespace World

variable {W : Type*} (z : Setting) (w : World W)

/-- `session_` of a controller. -/
def sessionOf (c : ControllerRef) : Option SessionRef := (w.controllers c).bind (·.session)

def withSession (s : SessionRef) (i : CommandSession) : World W :=
  { w with sessions := Function.update w.sessions s i }

/-- A session has done something. -/
def does (s : SessionRef) (es : List (Effect W)) : World W :=
  { w with log := w.log ++ es.map (s, ·) }

/-- Source: command_send_limit.cpp, `CommandSendLimit::IsCommandSendEnable` -/
def isCommandSendEnable (pid : Pid) : World W × Bool :=
  ({ w with limit := w.limit.call z.commandSendNumMax pid }, w.limit.lets z.commandSendNumMax pid)

/-- Source: avcontroller_item.cpp, `AVControllerItem::SendControlCommand` -/
def sendControlCommand (caller : Caller) (c : ControllerRef) (cmd : AVControlCommand)
    (sinkOk : Bool) : World W × Answer :=
  match w.sessionOf c with
  | none => (w, .errSessionNotExist)
  | some s =>
      if cmd.getCommand ∉ (w.sessions s).getSupportCommand then (w, .errCommandNotSupport)
      else
        let r := w.isCommandSendEnable z caller.pid
        if r.2 then
          (r.1.does s ((w.sessions s).executeControllerCommand z caller.uid cmd sinkOk), .success)
        else (r.1, .errCommandSendExceedMax)

/-- A null command was not readable.
Source: avsession_controller_stub.cpp, `AVSessionControllerStub::HandleSendControlCommand` -/
def handleSendControlCommand (caller : Caller) (c : ControllerRef) (data : List Token)
    (sinkOk : Bool) : World W × Answer :=
  match AVControlCommand.unmarshalling data with
  | none => (w, .errUnmarshalling)
  | some (cmd, _) => w.sendControlCommand z caller c cmd sinkOk

/-- `proxyRet` is what the migrate proxy of the controller answers, if there is one.
Source: avcontroller_item.cpp, `AVControllerItem::SendCommonCommand` -/
def sendCommonCommand (caller : Caller) (c : ControllerRef) (commonCommand : String)
    (commandArgs : W) (proxyRet : ℤ) : World W × Answer :=
  if (w.controllers c).any (·.hasMigrateProxy) ∧ proxyRet ≠ 0 then (w, .other proxyRet)
  else
    match w.sessionOf c with
    | none => (w, .errSessionNotExist)
    | some s =>
        let r := w.isCommandSendEnable z caller.pid
        if r.2 then
          (r.1.does s ((w.sessions s).execueCommonCommand commonCommand commandArgs), .success)
        else (r.1, .errCommandSendExceedMax)

/-- Source: avcontroller_item.cpp, `AVControllerItem::GetExtras` -/
def getExtras (caller : Caller) (c : ControllerRef) : World W × Answer :=
  match w.sessionOf c with
  | none => (w, .errSessionNotExist)
  | some _ =>
      let r := w.isCommandSendEnable z caller.pid
      if r.2 then (r.1, .success) else (r.1, .errCommandSendExceedMax)

/-- The data must hold a text.
Source: avcontroller_item.cpp, `AVControllerItem::SendCustomData` -/
def sendCustomData (c : ControllerRef) (data : W) (holdsText : Bool) : World W × Answer :=
  if holdsText = false then (w, .error)
  else
    match w.sessionOf c with
    | none => (w, .errSessionNotExist)
    | some s => (w.does s ((w.sessions s).tellApp (.onCustomData data) []), .success)

/-- Source: avcontroller_item.cpp, `AVControllerItem::SkipToQueueItem` -/
def skipToQueueItem (c : ControllerRef) (itemId : ℤ) : World W × Answer :=
  match w.sessionOf c with
  | none => (w, .errSessionNotExist)
  | some s => (w.does s ((w.sessions s).tellApp (.onSkipToQueueItem itemId) []), .success)

/-- Source: avcontroller_item.cpp, `AVControllerItem::SendAVKeyEvent` -/
def sendAVKeyEvent (number : CommandSession.MediaKey → ℤ) (c : ControllerRef)
    (key : CommandSession.KeyCode) : World W × Answer :=
  match w.sessionOf c with
  | none => (w, .errSessionNotExist)
  | some s =>
      (w.does s ((w.sessions s).handleMediaKeyEvent number key ⟨"", "", "", ""⟩), .success)

/-- The caller of a system command.
Source: avsession_service.cpp, `AVSessionService::CheckSessionHandleKeyEvent` -/
def systemInfo (uid : Uid) : CommandInfo :=
  { callerDeviceId := ""
    callerBundleName := ""
    callerModuleName := ""
    callerType :=
      if uid = z.bluetoothUid then z.playTypeToString .bluetooth
      else if uid = z.nearlinkUid then z.playTypeToString .nearlink else "" }

/-- A system command is not looked up in the supported ones. `procSession` is the session that takes
the commands of the top session, if there is one; without one, what `HandleSystemKeyColdStart` has a
session of the front list do is a `Direct` step of its own. `keyEvent` says that `KeyEvent::Create`
gives an event.
Source: avsession_service.cpp, `AVSessionService::SendSystemControlCommand` -/
def sendSystemControlCommand (caller : Caller) (procSession : Option SessionRef)
    (cmd : AVControlCommand) (keyEvent sinkOk : Bool) : World W × Answer :=
  match procSession with
  | none => (w, .success)
  | some s =>
      let r := w.isCommandSendEnable z caller.pid
      if r.2 = false then (r.1, .errCommandSendExceedMax)
      else if keyEvent = false then (r.1, .success)
      else
        let cmd := { cmd with commandInfo := systemInfo z caller.uid }
        (r.1.does s ((w.sessions s).executeControllerCommand z caller.uid cmd sinkOk), .success)

/-- Source: avsession_service_stub.cpp, `AVSessionServiceStub::HandleSendSystemControlCommand` -/
def handleSendSystemControlCommand (caller : Caller) (permitted : Bool)
    (procSession : Option SessionRef) (data : List Token) (keyEvent sinkOk : Bool) :
    World W × Answer :=
  match AVControlCommand.unmarshalling data with
  | none => (w, .errUnmarshalling)
  | some (cmd, _) =>
      if permitted then w.sendSystemControlCommand z caller procSession cmd keyEvent sinkOk
      else (w, .errNoPermission)

end World

end requests

/-! ## Without a controller -/

section direct

/-- What a session is asked by the service itself, or by a remote session for its sink: no list of
supported commands and no limit stands before it.
Source: avsession_service.cpp, `AVSessionService::CheckSessionHandleKeyEvent`, `HandleKeyEvent`,
`HandleSystemKeyColdStart`, `HandleRemoveMediaCardEvent`, and remote_session_source_impl.cpp,
`RemoteSessionSourceImpl::HandleSourceSessionDataCategory` -/
inductive Direct (W : Type*)
  | executeControllerCommand (uid : Uid) (cmd : AVControlCommand) (sinkOk : Bool)
  | execueCommonCommand (commonCommand : String) (commandArgs : W)
  | handleMediaKeyEvent (key : CommandSession.KeyCode) (cmdInfo : CommandInfo)

/-- What the session does then. -/
def CommandSession.direct {W : Type*} (z : Setting) (number : CommandSession.MediaKey → ℤ)
    (i : CommandSession) : Direct W → List (Effect W)
  | .executeControllerCommand uid cmd sinkOk => i.executeControllerCommand z uid cmd sinkOk
  | .execueCommonCommand commonCommand commandArgs =>
      i.execueCommonCommand commonCommand commandArgs
  | .handleMediaKeyEvent key cmdInfo => i.handleMediaKeyEvent number key cmdInfo

end direct

/-! ## Controllers and sessions -/

section lives

namespace World

variable {W : Type*} (w : World W)

/-- `controllers_.insert({pid, controller})`: a pid that is there keeps its controller.
Source: avsession_item.cpp, `AVSessionItem::AddController` -/
def addController (controllers : List (Pid × ControllerRef)) (pid : Pid) (c : ControllerRef) :
    List (Pid × ControllerRef) :=
  if pid ∈ controllers.map Prod.fst then controllers else controllers ++ [(pid, c)]

/-- A reference is given to one controller only.
Source: avsession_service.cpp, `AVSessionService::CreateNewControllerForSession` -/
def newController (c : ControllerRef) (pid : Pid) (s : SessionRef) (hasMigrateProxy : Bool) :
    World W :=
  if (w.controllers c).isSome then w
  else
    let i := w.sessions s
    { w.withSession s { i with controllers := addController i.controllers pid c } with
      controllers := Function.update w.controllers c (some ⟨pid, some s, hasMigrateProxy⟩) }

/-- The session forgets the controller of the pid. A controller of the default session stays.
Source: avcontroller_item.cpp, `AVControllerItem::Destroy`, and avsession_item.cpp,
`AVSessionItem::HandleControllerRelease` -/
def destroyController (c : ControllerRef) : World W :=
  match w.controllers c with
  | none => w
  | some x =>
      match x.session with
      | none => w
      | some s =>
          let i := w.sessions s
          if i.sessionId = "DEFAULT" then w
          else
            { w.withSession s { i with controllers := i.controllers.filter (·.1 ≠ x.pid) } with
              controllers := Function.update w.controllers c (some { x with session := none }) }

/-- `HandleSessionDestroy` of the controllers of the session, which lose it.
Source: avsession_item.cpp, `AVSessionItem::DestroyTask` -/
def destroyTask (s : SessionRef) : World W :=
  let i := w.sessions s
  if i.isDestroyed then w
  else
    { w.withSession s { i with isDestroyed := true, controllers := [], callback := none } with
      controllers := fun c =>
        if c ∈ i.controllers.map Prod.snd then
          (w.controllers c).map fun x => { x with session := none }
        else w.controllers c }

end World

namespace CommandSession

variable (i : CommandSession)

/-- MEDIA_KEY_SUPPORT is kept apart.
Source: avsession_item.cpp, `AVSessionItem::AddSupportCommand` -/
def addSupportCommand (cmd : ℤ) : CommandSession :=
  if cmd ≤ SessionCmd.invalid ∨ cmd ≥ SessionCmd.max then i
  else if cmd = SessionCmd.mediaKeySupport.code then { i with isMediaKeySupport := true }
  else if cmd ∈ i.supportedCmd then i
  else { i with supportedCmd := i.supportedCmd ++ [cmd] }

/-- Source: avsession_item.cpp, `AVSessionItem::DeleteSupportCommand` -/
def deleteSupportCommand (cmd : ℤ) : CommandSession :=
  if cmd ≤ SessionCmd.invalid ∨ cmd ≥ SessionCmd.max then i
  else if cmd = SessionCmd.mediaKeySupport.code then { i with isMediaKeySupport := false }
  else { i with supportedCmd := i.supportedCmd.filter (· ≠ cmd) }

/-- What its own process and the service do with a session. -/
inductive Update
  | addSupportCommand (cmd : ℤ)
  | deleteSupportCommand (cmd : ℤ)
  | setSupportCommand (cmds : List ℤ)
  | activate
  | deactivate
  | registerCallbackInner (callback : Option CallbackRef)
  | registerAVSessionCallback (callbackOfMigrate : Option CallbackRef)
  | surroundings (x : Surroundings)

/-- Source: avsession_item.cpp -/
def update : Update → CommandSession
  | .addSupportCommand cmd => i.addSupportCommand cmd
  | .deleteSupportCommand cmd => i.deleteSupportCommand cmd
  | .setSupportCommand cmds => { i with supportedCmd := cmds }
  | .activate => { i with isActive := true }
  | .deactivate => { i with isActive := false }
  | .registerCallbackInner callback => { i with callback }
  | .registerAVSessionCallback callbackOfMigrate =>
      { i with callbackForMigrate := callbackOfMigrate }
  | .surroundings x => { i with surroundings := x }

end CommandSession

end lives

/-! ## Steps -/

section steps

variable {W : Type*} (z : Setting) (number : CommandSession.MediaKey → ℤ)

/-- Everything that happens. -/
inductive Act (W : Type*)
  | sendControlCommand (caller : Caller) (c : ControllerRef) (data : List Token) (sinkOk : Bool)
  | sendCommonCommand (caller : Caller) (c : ControllerRef) (commonCommand : String)
      (commandArgs : W) (proxyRet : ℤ)
  | getExtras (caller : Caller) (c : ControllerRef)
  | sendSystemControlCommand (caller : Caller) (permitted : Bool) (procSession : Option SessionRef)
      (data : List Token) (keyEvent sinkOk : Bool)
  | sendCustomData (c : ControllerRef) (data : W) (holdsText : Bool)
  | skipToQueueItem (c : ControllerRef) (itemId : ℤ)
  | sendAVKeyEvent (c : ControllerRef) (key : CommandSession.KeyCode)
  | direct (s : SessionRef) (d : Direct W)
  | startTimer
  | stopTimer
  | clearCommandLimits
  | newController (c : ControllerRef) (pid : Pid) (s : SessionRef) (hasMigrateProxy : Bool)
  | destroyController (c : ControllerRef)
  | destroyTask (s : SessionRef)
  | update (s : SessionRef) (u : CommandSession.Update)

namespace World

variable (w : World W)

/-- The world after an action, and the answer of a request. -/
def act : Act W → World W × Answer
  | .sendControlCommand caller c data sinkOk => w.handleSendControlCommand z caller c data sinkOk
  | .sendCommonCommand caller c commonCommand commandArgs proxyRet =>
      w.sendCommonCommand z caller c commonCommand commandArgs proxyRet
  | .getExtras caller c => w.getExtras z caller c
  | .sendSystemControlCommand caller permitted procSession data keyEvent sinkOk =>
      w.handleSendSystemControlCommand z caller permitted procSession data keyEvent sinkOk
  | .sendCustomData c data holdsText => w.sendCustomData c data holdsText
  | .skipToQueueItem c itemId => w.skipToQueueItem c itemId
  | .sendAVKeyEvent c key => w.sendAVKeyEvent number c key
  | .direct s d => (w.does s ((w.sessions s).direct z number d), .success)
  | .startTimer => ({ w with limit := w.limit.apply z.commandSendNumMax (some .start) }, .success)
  | .stopTimer => ({ w with limit := w.limit.apply z.commandSendNumMax (some .stop) }, .success)
  | .clearCommandLimits => ({ w with limit := w.limit.clear }, .success)
  | .newController c pid s hasMigrateProxy => (w.newController c pid s hasMigrateProxy, .success)
  | .destroyController c => (w.destroyController c, .success)
  | .destroyTask s => (w.destroyTask s, .success)
  | .update s u => (w.withSession s ((w.sessions s).update u), .success)

def step (a : Act W) : World W := (w.act z number a).1

/-- What the sessions did in a step. -/
def done (a : Act W) : List (SessionRef × Effect W) :=
  (w.step z number a).log.drop w.log.length

end World

end steps

end AvSession.Command
