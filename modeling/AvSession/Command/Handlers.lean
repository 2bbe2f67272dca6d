import AvSession.Command.ControlCommand
import AvSession.Item

/-!
# What a session does with a command

A control command that reaches a session is handed to the callbacks of the session by a table of
handlers, one for each command. A media key takes another table to the same handlers.

* `CommandSession` — the fields of a session item that the handlers read.
* `Notice`, `Effect` — what a callback is called with, and what a handler does.
* `cmdHandlers`, `keyEventCaller` — the two tables.
* `executeControllerCommand`, `handleMediaKeyEvent` — the entry points.
-/

namespace AvSession.Command

/-- The identity of a callback object. -/
abbrev CallbackRef := ℕ

/-! ## Data -/

section data

/-- What else the handlers read: the sink of a remote session, the output devices, the playback
state and the skip intervals of the metadata. -/
structure Surroundings where
  hasRemoteSink : Bool
  deviceIds : List String
  playbackState : ℤ
  rewindSkipIntervals : ℤ
  fastForwardSkipIntervals : ℤ
  skipIntervals : ℤ
  hasUpdateTop : Bool

/-- The fields of a session item that its handlers read. The `controllers` are in the order in which
they came.
Source: avsession_item.h, `AVSessionItem` -/
structure CommandSession where
  sessionId : String
  bundleName : String
  abilityName : String
  supportedCmd : List ℤ
  isMediaKeySupport : Bool
  isActive : Bool
  isDestroyed : Bool
  callback : Option CallbackRef
  callbackForMigrate : Option CallbackRef
  controllers : List (Pid × ControllerRef)
  surroundings : Surroundings

/-- The calls of a callback. `W` are the `AAFwk::WantParams`.
Source: iav_session_callback, `IAVSessionCallback` -/
inductive Notice (W : Type*)
  | onPlay (cmd : AVControlCommand)
  | onPause
  | onStop
  | onPlayNext (cmd : AVControlCommand)
  | onPlayPrevious (cmd : AVControlCommand)
  | onFastForward (time : ℤ) (cmd : AVControlCommand)
  | onRewind (time : ℤ) (cmd : AVControlCommand)
  | onSeek (time : ℤ)
  | onSetSpeed (speed : BitVec 64)
  | onSetLoopMode (loopMode : ℤ)
  | onSetTargetLoopMode (targetLoopMode : ℤ)
  | onToggleFavorite (assetId : String)
  | onPlayFromAssetId (assetId : ℤ)
  | onPlayWithAssetId (assetId : String)
  | onAVCallAnswer
  | onAVCallHangUp
  | onAVCallToggleCallMute
  | onMediaKeyEvent (keyCode : ℤ)
  | onCommonCommand (commonCommand : String) (commandArgs : W)
  | onCustomData (data : W)
  | onSkipToQueueItem (itemId : ℤ)

/-- What a handler does: it calls `callback_` or `callbackForMigrate_`, has the top session updated,
publishes an event, or hands the command to the remote sink. `emptyHandler` is the call of an empty
`std::function`, which throws. -/
inductive Effect (W : Type*)
  | app (callback : CallbackRef) (n : Notice W)
  | migrate (callback : CallbackRef) (n : Notice W)
  | updateTop (playParam : String)
  | publishCtrlCmdEvent (name : String)
  | setControlCommand (cmd : AVControlCommand)
  | setCommonCommand (commonCommand : String) (commandArgs : W)
  | emptyHandler

/-- Source: `PlayType`, whose texts are those of `PlayTypeToString`. -/
inductive PlayType
  | cast
  | app
  | bluetooth
  | nearlink

/-- Who calls. -/
structure Caller where
  pid : Pid
  uid : Uid

/-- What is fixed from outside: the bundle manager, the uids of other services and the texts of the
play types; and whether the build raises the limit of commands. -/
structure Setting where
  bundleNameFromUid : Uid → String
  bluetoothUid : Uid
  nearlinkUid : Uid
  playTypeToString : PlayType → String
  raiseCommandRateLimit : Bool

/-- CAST_STATIC_UID. -/
def castStaticUid : Uid := 5526

/-- PLAYBACK_STATE_PLAY. -/
def playbackStatePlay : ℤ := 2

end data

/-! ## Getters -/

section getters

namespace Param

/-- `std::get` of an alternative, if it is held. -/
def getInt32 : Param → Option ℤ
  | int32 v => some v
  | _ => none

def getInt64 : Param → Option ℤ
  | int64 v => some v
  | _ => none

def getDouble : Param → Option (BitVec 64)
  | double v => some v
  | _ => none

def getString : Param → Option String
  | string v => some v
  | _ => none

end Param

namespace AVControlCommand

variable (c : AVControlCommand)

/-- The getters of avcontrol_command.cpp: `none` is AVSESSION_ERROR. -/
def getForwardTime : Option ℤ := c.param.getInt64
def getRewindTime : Option ℤ := c.param.getInt64
def getSeekTime : Option ℤ := c.param.getInt64
def getSpeed : Option (BitVec 64) := c.param.getDouble
def getLoopMode : Option ℤ := c.param.getInt32
def getTargetLoopMode : Option ℤ := c.param.getInt32
def getAssetId : Option String := c.param.getString
def getPlayFromAssetId : Option ℤ := c.param.getInt64
def getPlayWithAssetId : Option String := c.param.getString
def getPlayParam : Option String := c.param.getString

end AVControlCommand

end getters

/-! ## Handlers -/

section handlers

namespace CommandSession

variable {W : Type*} (i : CommandSession)

/-- `if (callbackForMigrate_) callbackForMigrate_->...`. -/
def tellMigrate (n : Notice W) : List (Effect W) :=
  match i.callbackForMigrate with
  | none => []
  | some r => [.migrate r n]

/-- Without a `callback_` the handler returns; with it, it is called and the handler goes on. -/
def tellApp (n : Notice W) (rest : List (Effect W)) : List (Effect W) :=
  match i.callback with
  | none => []
  | some r => .app r n :: rest

/-- The handlers that call `callback_` with what a getter gives. -/
def tellParam {α : Type} (param : Option α) (n : α → Notice W) : List (Effect W) :=
  match param with
  | none => []
  | some v => i.tellApp (n v) []

/-- The handlers that call both callbacks with what a getter gives. -/
def tellParamBoth {α : Type} (param : Option α) (n : α → Notice W) : List (Effect W) :=
  match param with
  | none => []
  | some v => i.tellMigrate (n v) ++ i.tellApp (n v) []

variable (cmd : AVControlCommand)

/-- The top session is updated if the play parameter is the id of the session.
Source: avsession_item.cpp, the end of `AVSessionItem::HandleOnPlay` -/
def updateTop : List (Effect W) :=
  match cmd.getPlayParam with
  | none => []
  | some playParam =>
      if playParam = i.sessionId ∧ i.surroundings.hasUpdateTop then [.updateTop playParam] else []

/-- Source: avsession_item.cpp, `AVSessionItem::HandleOnPlay` -/
def handleOnPlay : List (Effect W) :=
  i.tellMigrate (.onPlay cmd) ++
    i.tellApp (.onPlay cmd) (.publishCtrlCmdEvent "OnPlay" :: i.updateTop cmd)

/-- Source: avsession_item.cpp, `AVSessionItem::HandleOnPause` -/
def handleOnPause : List (Effect W) := i.tellMigrate .onPause ++ i.tellApp .onPause []

/-- Source: avsession_item.cpp, `AVSessionItem::HandleOnPlayOrPause` -/
def handleOnPlayOrPause : List (Effect W) :=
  if i.surroundings.playbackState = playbackStatePlay then i.handleOnPause else i.handleOnPlay cmd

/-- Source: avsession_item.cpp, `AVSessionItem::HandleOnStop` -/
def handleOnStop : List (Effect W) := i.tellApp .onStop []

/-- Source: avsession_item.cpp, `AVSessionItem::HandleOnPlayNext` -/
def handleOnPlayNext : List (Effect W) :=
  i.tellMigrate (.onPlayNext cmd) ++
    i.tellApp (.onPlayNext cmd) [.publishCtrlCmdEvent "OnPlayNext"]

/-- Source: avsession_item.cpp, `AVSessionItem::HandleOnPlayPrevious` -/
def handleOnPlayPrevious : List (Effect W) :=
  i.tellMigrate (.onPlayPrevious cmd) ++
    i.tellApp (.onPlayPrevious cmd) [.publishCtrlCmdEvent "OnPlayPrevious"]

/-- Source: avsession_item.cpp, `AVSessionItem::HandleOnFastForward` -/
def handleOnFastForward : List (Effect W) :=
  i.tellParam cmd.getForwardTime fun time => .onFastForward time cmd

/-- Source: avsession_item.cpp, `AVSessionItem::HandleOnRewind` -/
def handleOnRewind : List (Effect W) :=
  i.tellParam cmd.getRewindTime fun time => .onRewind time cmd

/-- Source: avsession_item.cpp, `AVSessionItem::HandleOnSeek` -/
def handleOnSeek : List (Effect W) := i.tellParamBoth cmd.getSeekTime .onSeek

/-- Source: avsession_item.cpp, `AVSessionItem::HandleOnSetSpeed` -/
def handleOnSetSpeed : List (Effect W) := i.tellParam cmd.getSpeed .onSetSpeed

/-- Source: avsession_item.cpp, `AVSessionItem::HandleOnSetLoopMode` -/
def handleOnSetLoopMode : List (Effect W) := i.tellParamBoth cmd.getLoopMode .onSetLoopMode

/-- Source: avsession_item.cpp, `AVSessionItem::HandleOnSetTargetLoopMode` -/
def handleOnSetTargetLoopMode : List (Effect W) :=
  i.tellParam cmd.getTargetLoopMode .onSetTargetLoopMode

/-- Source: avsession_item.cpp, `AVSessionItem::HandleOnToggleFavorite` -/
def handleOnToggleFavorite : List (Effect W) := i.tellParamBoth cmd.getAssetId .onToggleFavorite

/-- Source: avsession_item.cpp, `AVSessionItem::HandleOnPlayFromAssetId` -/
def handleOnPlayFromAssetId : List (Effect W) :=
  i.tellParam cmd.getPlayFromAssetId .onPlayFromAssetId

/-- An empty id is refused here as well.
Source: avsession_item.cpp, `AVSessionItem::HandleOnPlayWithAssetId` -/
def handleOnPlayWithAssetId : List (Effect W) :=
  i.tellParam (cmd.getPlayWithAssetId.filter (· ≠ "")) .onPlayWithAssetId

/-- `cmdHandlers[code](cmd)`: MEDIA_KEY_SUPPORT has no handler.
Source: avsession_item.h, `cmdHandlers` -/
def cmdHandlers : SessionCmd → List (Effect W)
  | .play => i.handleOnPlay cmd
  | .pause => i.handleOnPause
  | .stop => i.handleOnStop
  | .playNext => i.handleOnPlayNext cmd
  | .playPrevious => i.handleOnPlayPrevious cmd
  | .fastForward => i.handleOnFastForward cmd
  | .rewind => i.handleOnRewind cmd
  | .seek => i.handleOnSeek cmd
  | .setSpeed => i.handleOnSetSpeed cmd
  | .setLoopMode => i.handleOnSetLoopMode cmd
  | .setTargetLoopMode => i.handleOnSetTargetLoopMode cmd
  | .toggleFavorite => i.handleOnToggleFavorite cmd
  | .playFromAssetId => i.handleOnPlayFromAssetId cmd
  | .playWithAssetId => i.handleOnPlayWithAssetId cmd
  | .avcallAnswer => i.tellApp .onAVCallAnswer []
  | .avcallHangUp => i.tellApp .onAVCallHangUp []
  | .avcallToggleCallMute => i.tellApp .onAVCallToggleCallMute []
  | .mediaKeySupport => [.emptyHandler]

end CommandSession

end handlers

/-! ## Entry points -/

section entries

namespace CommandSession

variable {W : Type*} (z : Setting) (i : CommandSession)

/-- Who has sent a command. The caller that is in it is replaced, except for its module name.
Source: avsession_item.cpp, the beginning of `AVSessionItem::ExecuteControllerCommand` -/
def callerInfo (uid : Uid) (cmdInfo : CommandInfo) : CommandInfo :=
  if uid = castStaticUid then
    { cmdInfo with
      callerDeviceId := i.surroundings.deviceIds.headD cmdInfo.callerDeviceId
      callerType := z.playTypeToString .cast }
  else
    { cmdInfo with
      callerBundleName := z.bundleNameFromUid uid
      callerType := z.playTypeToString .app }

/-- The caller is put into the command only if a module name is there, or for the cast service. -/
def withCaller (uid : Uid) (cmd : AVControlCommand) : AVControlCommand :=
  if cmd.commandInfo.callerModuleName ≠ "" ∨ uid = castStaticUid then
    { cmd with commandInfo := i.callerInfo z uid cmd.commandInfo }
  else cmd

/-- The remote sink gets the command first, and `sinkOk` is what it answers; then the callbacks, if
there are any and the session is active.
Source: avsession_item.cpp, `AVSessionItem::ExecuteControllerCommand` -/
def executeControllerCommand (uid : Uid) (cmd : AVControlCommand) (sinkOk : Bool) :
    List (Effect W) :=
  match cmd.cmd with
  | none => []
  | some code =>
      let cmdBack := i.withCaller z uid cmd
      let sent := if i.surroundings.hasRemoteSink then [.setControlCommand cmdBack] else []
      if i.surroundings.hasRemoteSink ∧ sinkOk = false then sent
      else if i.callback = none ∧ i.callbackForMigrate = none then sent
      else if i.isActive = false then sent
      else sent ++ i.cmdHandlers cmdBack code

/-- Source: avsession_item.cpp, `AVSessionItem::ExecueCommonCommand` -/
def execueCommonCommand (commonCommand : String) (commandArgs : W) : List (Effect W) :=
  i.tellMigrate (.onCommonCommand commonCommand commandArgs) ++
    i.tellApp (.onCommonCommand commonCommand commandArgs)
      (if i.surroundings.hasRemoteSink then [.setCommonCommand commonCommand commandArgs] else [])

/-- The keys that have a handler.
Source: avsession_item.h, `keyEventCaller_` -/
inductive MediaKey
  | play
  | pause
  | playPause
  | stop
  | next
  | previous
  | rewind
  | fastForward
deriving DecidableEq

/-- A key that is pressed: one that has a handler, or another one with its code. -/
inductive KeyCode
  | media (key : MediaKey)
  | other (keyCode : ℤ)

/-- The number of a key.
Source: `MMI::KeyEvent::KEYCODE_MEDIA_*` -/
def KeyCode.code (number : MediaKey → ℤ) : KeyCode → ℤ
  | media key => number key
  | other keyCode => keyCode

/-- STOP pauses.
Source: avsession_item.h, `keyEventCaller_` -/
def keyEventCaller (cmd : AVControlCommand) : MediaKey → List (Effect W)
  | .play => i.handleOnPlay cmd
  | .pause => i.handleOnPause
  | .playPause => i.handleOnPlayOrPause cmd
  | .stop => i.handleOnPause
  | .next => i.handleOnPlayNext cmd
  | .previous => i.handleOnPlayPrevious cmd
  | .rewind => i.handleOnRewind cmd
  | .fastForward => i.handleOnFastForward cmd

/-- Source: avsession_item.cpp, `AVSessionItem::PublishMediaKeyEvent` -/
def publishMediaKeyEvent : KeyCode → List (Effect W)
  | .media .play => [.publishCtrlCmdEvent "OnPlay"]
  | .media .next => [.publishCtrlCmdEvent "OnPlayNext"]
  | .media .previous => [.publishCtrlCmdEvent "OnPlayPrevious"]
  | _ => []

/-- The command of a key. A setter that refuses its value leaves the parameter as it is.
Source: avsession_item.cpp, `AVSessionItem::HandleMediaKeyEvent` -/
def keyCommand (cmdInfo : CommandInfo) : AVControlCommand :=
  let x := i.surroundings
  let cmd := AVControlCommand.init
  let cmd := (cmd.setCommand SessionCmd.play.code).getD cmd
  let rewindTime := if x.rewindSkipIntervals ≠ 0 then x.rewindSkipIntervals else x.skipIntervals
  let cmd := (cmd.setRewindTime rewindTime).getD cmd
  let forwardTime :=
    if x.fastForwardSkipIntervals ≠ 0 then x.fastForwardSkipIntervals else x.skipIntervals
  let cmd := (cmd.setForwardTime forwardTime).getD cmd
  (cmd.setCommandInfo cmdInfo).getD cmd

/-- Source: avsession_item.cpp, `AVSessionItem::HandleMediaKeyEvent` -/
def handleMediaKeyEvent (number : MediaKey → ℤ) (key : KeyCode) (cmdInfo : CommandInfo) :
    List (Effect W) :=
  if i.isActive = false then []
  else
    match i.isMediaKeySupport, key with
    | false, .media k => i.keyEventCaller (i.keyCommand cmdInfo) k
    | _, key =>
        (match i.callback with
          | none => []
          | some r => [.app r (.onMediaKeyEvent (key.code number))]) ++ publishMediaKeyEvent key

/-- The commands of a session of the cast service.
Source: avsession_item.cpp, `AVSessionItem::GetSupportCommand` -/
def supportedCmdForCastSession : List ℤ :=
  [SessionCmd.play, .pause, .stop, .playNext, .playPrevious, .seek].map SessionCmd.code

/-- Source: avsession_item.cpp, `AVSessionItem::GetSupportCommand` -/
def getSupportCommand : List ℤ :=
  if i.bundleName = "castBundleName" ∧ i.abilityName = "castAbilityName" then
    supportedCmdForCastSession
  else i.supportedCmd

end CommandSession

end entries

end AvSession.Command
