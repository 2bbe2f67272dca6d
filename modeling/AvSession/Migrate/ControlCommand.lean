import AvSession.Common.Codes
import AvSession.Lib.CString
import AvSession.Lib.Decimal
import AvSession.Lib.Run
import Mathlib.Data.Int.Notation
import Mathlib.Data.List.Perm.Basic
import Mathlib.Data.List.TakeWhile
import Mathlib.Tactic.IntervalCases

/-!
# Control commands from the remote

The super proxy turns a control command into a message; the server of the other device parses it and
passes an `AVControlCommand` to the controller of the player. A PLAY is passed on by a task that is
posted with a delay, every other command at once.

* `handleForSuper` — the message for a command, built by the handler of its kind.
* `procControlCommand`, `playbackCommandDataProc` — what the server does with it.
* `transformStrToInt64_transformInt64ToStr` — a seek time survives its decimal text.
* `commands_passed` — which commands reach the controller, in which order and with which arguments.
* Left out: the messages of other kinds (media buttons, custom actions, searches), the extras, and
  the text of the JSON object.
-/

namespace AvSession.Migrate.ControlCommand

open AvSession.Common.Codes AvSession.Lib

/-! ## Strings -/

section strings

/-- Source: softbus_session_utils.h, `SoftbusSessionUtils::TransformInt64ToStr` -/
def transformInt64ToStr (num : Int64) : String := toString num.toInt

/-- The value of `strtoll` is checked against its range; -1 stands for every error.
Source: softbus_session_utils.h, `SoftbusSessionUtils::TransformStrToInt64` -/
def transformStrToInt64 (str : String) : Int64 :=
  match str.toList with
  | [] => -1
  | c :: cs =>
      let digits := if c = '-' ∨ c = '+' then cs else c :: cs
      if digits = [] ∨ ¬ digits.all Char.isDigit then -1
      else
        let magnitude : ℤ := Nat.ofDigitChars 10 digits 0
        let result := if c = '-' then -magnitude else magnitude
        if result < -2 ^ 63 ∨ 2 ^ 63 ≤ result then -1 else Int64.ofInt result

end strings

/-! ## Commands -/

section commands

/-- The alternatives of `param_` that are used here. The first is the one it starts with.
Source: avcontrol_command.h -/
inductive Param
  | int32 (value : ℤ)
  | int64 (value : Int64)
  | string (value : String)
deriving DecidableEq

/-- Source: avcontrol_command.h, `AVControlCommand` -/
structure AVControlCommand where
  cmd : ℤ
  param : Param
deriving DecidableEq

/-- A new command after `SetCommand`. -/
def setCommand (cmd : ℤ) : AVControlCommand := ⟨cmd, .int32 0⟩

/-- Source: `AVControlCommand::SetSeekTime`, which refuses a negative time -/
def AVControlCommand.setSeekTime (c : AVControlCommand) (time : Int64) : AVControlCommand :=
  if time < 0 then c else { c with param := .int64 time }

/-- Source: `AVControlCommand::SetLoopMode` -/
def AVControlCommand.setLoopMode (c : AVControlCommand) (mode : ℤ) : AVControlCommand :=
  if mode < LOOP_MODE_UNDEFINED ∨ mode > LOOP_MODE_CUSTOM then c else { c with param := .int32 mode }

/-- Source: `AVControlCommand::SetAssetId` -/
def AVControlCommand.setAssetId (c : AVControlCommand) (assetId : String) : AVControlCommand :=
  if assetId = "" then c else { c with param := .string assetId }

end commands

/-! ## The proxy -/

section proxy

/-- The members of the JSON object of a message.
Source: migrate_avsession_constant.h, `PLAYER_ID`, `MEDIA_COMMAND`, `COMMAND` -/
structure ControlMessage where
  playerId : Option String
  mediaCommand : Option ℤ
  command : Option String
deriving DecidableEq

def syncMediasessionCallbackOnPlay : ℤ := 36
def syncMediasessionCallbackOnPause : ℤ := 41
def syncMediasessionCallbackOnSkipToNext : ℤ := 42
def syncMediasessionCallbackOnSkipToPrevious : ℤ := 43
def syncMediasessionCallbackOnStop : ℤ := 46
def syncMediasessionCallbackOnToggleFavorite : ℤ := 49
def syncMediasessionCallbackOnSeek : ℤ := 51
def syncMediasessionCallbackOnSetLoopMode : ℤ := 52

/-- The players that the proxy has a session for. -/
abbrev KnownSessions := String → Bool

variable (known : KnownSessions) (playerId : String)

/-- Source: `MigrateAVSessionProxy::SendControlCommandMsgForSuper` -/
def sendControlCommandMsgForSuper (commandCode : ℤ) (commandArgsStr : String) :
    Option ControlMessage :=
  if playerId ≠ "" ∧ known playerId then
    some ⟨some (cStr playerId), some commandCode, some (cStr commandArgsStr)⟩
  else none

/-- Source: `MigrateAVSessionProxy::HandlePlayForSuper` -/
def handlePlayForSuper : Option ControlMessage :=
  sendControlCommandMsgForSuper known playerId syncMediasessionCallbackOnPlay ""

/-- Source: `MigrateAVSessionProxy::HandlePauseForSuper` -/
def handlePauseForSuper : Option ControlMessage :=
  sendControlCommandMsgForSuper known playerId syncMediasessionCallbackOnPause ""

/-- Source: `MigrateAVSessionProxy::HandlePlayNextForSuper` -/
def handlePlayNextForSuper : Option ControlMessage :=
  sendControlCommandMsgForSuper known playerId syncMediasessionCallbackOnSkipToNext ""

/-- Source: `MigrateAVSessionProxy::HandlePlayPreviousForSuper` -/
def handlePlayPreviousForSuper : Option ControlMessage :=
  sendControlCommandMsgForSuper known playerId syncMediasessionCallbackOnSkipToPrevious ""

/-- Source: `MigrateAVSessionProxy::HandleToggleFavoriteForSuper` -/
def handleToggleFavoriteForSuper (mediaId : String) : Option ControlMessage :=
  sendControlCommandMsgForSuper known playerId syncMediasessionCallbackOnToggleFavorite mediaId

/-- Source: `MigrateAVSessionProxy::HandleSeekForSuper` -/
def handleSeekForSuper (time : Int64) : Option ControlMessage :=
  sendControlCommandMsgForSuper known playerId syncMediasessionCallbackOnSeek
    (transformInt64ToStr time)

/-- `std::string(1, '0' + loopMode)`. -/
def loopModeStr (loopMode : ℤ) : String := String.singleton (Char.ofNat (48 + loopMode).toNat)

/-- Source: `MigrateAVSessionProxy::HandleSetLoopModeForSuper` -/
def handleSetLoopModeForSuper (loopMode : ℤ) : Option ControlMessage :=
  if loopMode ≥ LOOP_MODE_UNDEFINED ∧ loopMode ≤ LOOP_MODE_CUSTOM then
    sendControlCommandMsgForSuper known playerId syncMediasessionCallbackOnSetLoopMode
      (loopModeStr loopMode)
  else none

/-- A control command for a player. -/
inductive Command
  | play
  | pause
  | stop
  | playNext
  | playPrevious
  | toggleFavorite (mediaId : String)
  | seek (time : Int64)
  | setLoopMode (loopMode : ℤ)
deriving DecidableEq

/-- The message for a command. No handler of the proxy sends a stop; its message has the form of the
others. -/
def handleForSuper : Command → Option ControlMessage
  | .play => handlePlayForSuper known playerId
  | .pause => handlePauseForSuper known playerId
  | .stop => sendControlCommandMsgForSuper known playerId syncMediasessionCallbackOnStop ""
  | .playNext => handlePlayNextForSuper known playerId
  | .playPrevious => handlePlayPreviousForSuper known playerId
  | .toggleFavorite mediaId => handleToggleFavoriteForSuper known playerId mediaId
  | .seek time => handleSeekForSuper known playerId time
  | .setLoopMode loopMode => handleSetLoopModeForSuper known playerId loopMode

end proxy

/-! ## The server -/

section server

/-- A controller item, by the id of its session. -/
abbrev ControllerRef := String

/-- `delayed` holds the pending tasks `DelaySendPlayCom`, and `sent` the calls of
`SendControlCommand`.
Source: migrate_avsession_server.h, `MigrateAVSessionServer` -/
structure ControlServer where
  playerIdToControllerMap : String → Option (Option ControllerRef)
  isSoftbusConnecting : Bool
  delayed : List (ControllerRef × AVControlCommand)
  sent : List (ControllerRef × AVControlCommand)

/-- Nothing for an error, and for a null pointer.
Source: `MigrateAVSessionServer::GetControllerById` -/
def getControllerById (s : ControlServer) (sessionId : String) : Option ControllerRef :=
  if sessionId = "" then none else (s.playerIdToControllerMap sessionId).join

/-- Previous tasks of the name are kept: `removePrevious` is false.
Source: `MigrateAVSessionServer::MigratePostTask` -/
def migratePostTask (s : ControlServer) (task : ControllerRef × AVControlCommand) :
    ControlServer :=
  if s.isSoftbusConnecting then { s with delayed := s.delayed ++ [task] } else s

/-- Source: `AVControllerItem::SendControlCommand`, as a call -/
def sendControlCommand (s : ControlServer) (controller : ControllerRef) (cmd : AVControlCommand) :
    ControlServer :=
  { s with sent := s.sent ++ [(controller, cmd)] }

/-- The loop mode that is read from a text. -/
def loopModeOf (command : String) : ℤ :=
  match command.toList with
  | [] => -1
  | c :: _ => c.toNat - 48

/-- Source: `MigrateAVSessionServer::PlaybackCommandDataProc` -/
def playbackCommandDataProc (s : ControlServer) (mediaCommand : ℤ) (command : String)
    (controller : ControllerRef) : ControlServer :=
  if mediaCommand = syncMediasessionCallbackOnPlay then
    migratePostTask s (controller, setCommand SESSION_CMD_PLAY)
  else if mediaCommand = syncMediasessionCallbackOnPause then
    sendControlCommand s controller (setCommand SESSION_CMD_PAUSE)
  else if mediaCommand = syncMediasessionCallbackOnStop then
    sendControlCommand s controller (setCommand SESSION_CMD_STOP)
  else if mediaCommand = syncMediasessionCallbackOnSkipToPrevious then
    sendControlCommand s controller (setCommand SESSION_CMD_PLAY_PREVIOUS)
  else if mediaCommand = syncMediasessionCallbackOnSkipToNext then
    sendControlCommand s controller (setCommand SESSION_CMD_PLAY_NEXT)
  else if mediaCommand = syncMediasessionCallbackOnToggleFavorite then
    sendControlCommand s controller ((setCommand SESSION_CMD_TOGGLE_FAVORITE).setAssetId command)
  else if mediaCommand = syncMediasessionCallbackOnSeek then
    sendControlCommand s controller
      ((setCommand SESSION_CMD_SEEK).setSeekTime (transformStrToInt64 command))
  else if mediaCommand = syncMediasessionCallbackOnSetLoopMode then
    sendControlCommand s controller
      ((setCommand SESSION_CMD_SET_LOOP_MODE).setLoopMode (loopModeOf command))
  else s

/-- A member of the text that is empty is replaced. -/
def orError (value error : String) : String := if value = "" then error else value

/-- Source: `MigrateAVSessionServer::ProcControlCommand` -/
def procControlCommand (s : ControlServer) (msg : ControlMessage) : ControlServer :=
  match msg.playerId, msg.mediaCommand, msg.command with
  | some playerId, some mediaCommand, some command =>
      match getControllerById s (orError playerId "ERROR_PLAYER_ID") with
      | none => s
      | some controller =>
          playbackCommandDataProc s mediaCommand (orError command "ERROR_COMMAND") controller
  | _, _, _ => s

/-- The next delayed task runs. -/
def runTask (s : ControlServer) : ControlServer :=
  match s.delayed with
  | [] => s
  | (controller, cmd) :: delayed => sendControlCommand { s with delayed := delayed } controller cmd

end server

/-! ## Arguments -/

section arguments

/-- The command with its own argument. -/
def Command.image : Command → AVControlCommand
  | .play => ⟨SESSION_CMD_PLAY, .int32 0⟩
  | .pause => ⟨SESSION_CMD_PAUSE, .int32 0⟩
  | .stop => ⟨SESSION_CMD_STOP, .int32 0⟩
  | .playNext => ⟨SESSION_CMD_PLAY_NEXT, .int32 0⟩
  | .playPrevious => ⟨SESSION_CMD_PLAY_PREVIOUS, .int32 0⟩
  | .toggleFavorite mediaId => ⟨SESSION_CMD_TOGGLE_FAVORITE, .string mediaId⟩
  | .seek time => ⟨SESSION_CMD_SEEK, .int64 time⟩
  | .setLoopMode loopMode => ⟨SESSION_CMD_SET_LOOP_MODE, .int32 loopMode⟩

/-- The arguments that an `AVControlCommand` can hold and a C string can carry. -/
def Command.Encodable : Command → Prop
  | .toggleFavorite mediaId => mediaId ≠ "" ∧ ∀ c ∈ mediaId.toList, c ≠ Char.ofNat 0
  | .seek time => 0 ≤ time
  | _ => True

/-- What the server makes of the message for a command. -/
def Command.taken : Command → AVControlCommand
  | .play => setCommand SESSION_CMD_PLAY
  | .pause => setCommand SESSION_CMD_PAUSE
  | .stop => setCommand SESSION_CMD_STOP
  | .playNext => setCommand SESSION_CMD_PLAY_NEXT
  | .playPrevious => setCommand SESSION_CMD_PLAY_PREVIOUS
  | .toggleFavorite mediaId =>
      (setCommand SESSION_CMD_TOGGLE_FAVORITE).setAssetId (orError (cStr mediaId) "ERROR_COMMAND")
  | .seek time => (setCommand SESSION_CMD_SEEK).setSeekTime time
  | .setLoopMode loopMode => (setCommand SESSION_CMD_SET_LOOP_MODE).setLoopMode loopMode

/-- The text of a natural number is read as a number without a sign. -/
theorem transformStrToInt64_of_digits {str : String} {n : ℕ}
    (hstr : str.toList = Nat.toDigits 10 n) (hn : n < 2 ^ 63) :
    transformStrToInt64 str = Int64.ofInt n := by
  obtain ⟨c, cs, hcs⟩ := List.exists_cons_of_ne_nil (Nat.toDigits_ne_nil (n := n) (b := 10))
  have hdigits : ∀ d ∈ c :: cs, d.isDigit = true := by
    intro d hd
    rw [← hcs] at hd
    exact isDigit_of_mem_toDigits hd
  have hc := hdigits c List.mem_cons_self
  have hminus : c ≠ '-' := digit_ne hc rfl
  have hplus : c ≠ '+' := digit_ne hc rfl
  have hvalue : Nat.ofDigitChars 10 (c :: cs) 0 = n := by
    rw [← hcs]
    exact Nat.ofDigitChars_ten_toDigits
  unfold transformStrToInt64
  rw [hstr, hcs]
  simp only [hminus, hplus, or_false, if_false]
  rw [if_neg (by simpa using hdigits), hvalue, if_neg (by omega)]

/-- The text of a negative number is read with its sign. -/
theorem transformStrToInt64_of_minus {str : String} {n : ℕ}
    (hstr : str.toList = '-' :: Nat.toDigits 10 n) (hn : n ≤ 2 ^ 63) :
    transformStrToInt64 str = Int64.ofInt (-n) := by
  have hdigits : ∀ d ∈ Nat.toDigits 10 n, d.isDigit = true := fun d hd => isDigit_of_mem_toDigits hd
  unfold transformStrToInt64
  rw [hstr]
  simp only [true_or, if_true]
  rw [if_neg (by simpa [Nat.toDigits_ne_nil] using hdigits), Nat.ofDigitChars_ten_toDigits,
    if_neg (by omega)]

/-- The text of a number: its digits, after a sign if it is negative. -/
theorem toList_transformInt64ToStr (num : Int64) :
    (∃ n : ℕ, num.toInt = n ∧ (transformInt64ToStr num).toList = Nat.toDigits 10 n) ∨
    ∃ n : ℕ, num.toInt = -n ∧ (transformInt64ToStr num).toList = '-' :: Nat.toDigits 10 n :=
  toList_toString num.toInt

/-- A seek time survives its decimal text. -/
theorem transformStrToInt64_transformInt64ToStr (num : Int64) :
    transformStrToInt64 (transformInt64ToStr num) = num := by
  have hlow := num.le_toInt
  have hhigh := num.toInt_lt
  rcases toList_transformInt64ToStr num with ⟨n, hn, hlist⟩ | ⟨n, hn, hlist⟩
  · rw [transformStrToInt64_of_digits hlist (by omega), ← hn, Int64.ofInt_toInt]
  · rw [transformStrToInt64_of_minus hlist (by omega), ← hn, Int64.ofInt_toInt]

end arguments

/-! ## One command -/

section command

variable {known : KnownSessions} {playerId : String} {s : ControlServer} {c : Command}
  {controller : ControllerRef} {msg : ControlMessage}

/-- The code and the text under which a command is sent. -/
def Command.wire : Command → ℤ × String
  | .play => (syncMediasessionCallbackOnPlay, "")
  | .pause => (syncMediasessionCallbackOnPause, "")
  | .stop => (syncMediasessionCallbackOnStop, "")
  | .playNext => (syncMediasessionCallbackOnSkipToNext, "")
  | .playPrevious => (syncMediasessionCallbackOnSkipToPrevious, "")
  | .toggleFavorite mediaId => (syncMediasessionCallbackOnToggleFavorite, mediaId)
  | .seek time => (syncMediasessionCallbackOnSeek, transformInt64ToStr time)
  | .setLoopMode loopMode => (syncMediasessionCallbackOnSetLoopMode, loopModeStr loopMode)

/-- The loop modes that the proxy accepts. -/
def Command.Accepted : Command → Prop
  | .setLoopMode loopMode => loopMode ≥ LOOP_MODE_UNDEFINED ∧ loopMode ≤ LOOP_MODE_CUSTOM
  | _ => True

/-- A handled command is an accepted one, sent by its code and argument. -/
theorem handleForSuper_eq_some (h : handleForSuper known playerId c = some msg) :
    c.Accepted ∧ msg = ⟨some (cStr playerId), some c.wire.1, some (cStr c.wire.2)⟩ := by
  have hsend : ∀ {code : ℤ} {args : String},
      sendControlCommandMsgForSuper known playerId code args = some msg →
        msg = ⟨some (cStr playerId), some code, some (cStr args)⟩ := by
    intro code args hmsg
    unfold sendControlCommandMsgForSuper at hmsg
    split_ifs at hmsg
    exact (Option.some.inj hmsg).symm
  cases c with
  | setLoopMode loopMode =>
      change handleSetLoopModeForSuper known playerId loopMode = some msg at h
      unfold handleSetLoopModeForSuper at h
      split_ifs at h with hmode
      exact ⟨hmode, hsend h⟩
  | _ => exact ⟨trivial, hsend h⟩

/-- The text of a seek time is sent as it is: it holds no NUL, and it is not empty. -/
theorem orError_cStr_transformInt64ToStr (time : Int64) (error : String) :
    orError (cStr (transformInt64ToStr time)) error = transformInt64ToStr time := by
  have hdigit : ∀ {n : ℕ}, ∀ c ∈ Nat.toDigits 10 n, c ≠ Char.ofNat 0 :=
    fun c hc => digit_ne (isDigit_of_mem_toDigits hc) rfl
  have hnul : ∀ c ∈ (transformInt64ToStr time).toList, c ≠ Char.ofNat 0 := by
    rcases toList_transformInt64ToStr time with ⟨n, -, hlist⟩ | ⟨n, -, hlist⟩
    · rw [hlist]
      exact hdigit
    · rw [hlist]
      exact List.forall_mem_cons.mpr ⟨by decide, hdigit⟩
  have hne : transformInt64ToStr time ≠ "" := by
    intro hempty
    rcases toList_transformInt64ToStr time with ⟨n, -, hlist⟩ | ⟨n, -, hlist⟩
    · rw [hempty] at hlist
      exact Nat.toDigits_ne_nil hlist.symm
    · rw [hempty] at hlist
      exact absurd hlist.symm (List.cons_ne_nil _ _)
  rw [cStr_eq_self hnul, orError, if_neg hne]

/-- The character of an accepted loop mode. -/
theorem loopModeChar {loopMode : ℤ} (hlow : -1 ≤ loopMode) (hhigh : loopMode ≤ 4) :
    (Char.ofNat (48 + loopMode).toNat).toNat - 48 = loopMode ∧
      Char.ofNat (48 + loopMode).toNat ≠ Char.ofNat 0 := by
  interval_cases loopMode <;> exact ⟨rfl, by decide⟩

/-- An accepted loop mode survives its text. -/
theorem loopModeOf_loopModeStr {loopMode : ℤ} (h : (Command.setLoopMode loopMode).Accepted)
    (error : String) : loopModeOf (orError (cStr (loopModeStr loopMode)) error) = loopMode := by
  obtain ⟨hchar, hnul⟩ := loopModeChar h.1 h.2
  have hlist : (loopModeStr loopMode).toList = [Char.ofNat (48 + loopMode).toNat] :=
    String.toList_singleton _
  have hself : cStr (loopModeStr loopMode) = loopModeStr loopMode := by
    refine cStr_eq_self fun c hc => ?_
    rw [hlist, List.mem_singleton] at hc
    rw [hc]
    exact hnul
  have hne : loopModeStr loopMode ≠ "" := by
    intro hempty
    rw [hempty] at hlist
    exact absurd hlist.symm (List.cons_ne_nil _ _)
  rw [hself, orError, if_neg hne, loopModeOf, hlist]
  exact hchar

/-- A message is taken at once, or as a task if it is for a PLAY. -/
def takeCommand (s : ControlServer) (controller : ControllerRef) (c : Command) : ControlServer :=
  if c = .play then migratePostTask s (controller, c.taken)
  else sendControlCommand s controller c.taken

/-- A received command goes to the player's controller. -/
theorem procControlCommand_eq (h : handleForSuper known playerId c = some msg)
    (hcontroller : getControllerById s (orError (cStr playerId) "ERROR_PLAYER_ID") =
      some controller) :
    procControlCommand s msg = takeCommand s controller c := by
  obtain ⟨haccepted, rfl⟩ := handleForSuper_eq_some h
  unfold procControlCommand
  simp only [hcontroller]
  cases c with
  | toggleFavorite mediaId => rfl
  | seek time =>
      show sendControlCommand s controller ((setCommand SESSION_CMD_SEEK).setSeekTime
        (transformStrToInt64 (orError (cStr (transformInt64ToStr time)) "ERROR_COMMAND"))) = _
      rw [orError_cStr_transformInt64ToStr, transformStrToInt64_transformInt64ToStr]
      rfl
  | setLoopMode loopMode =>
      show sendControlCommand s controller ((setCommand SESSION_CMD_SET_LOOP_MODE).setLoopMode
        (loopModeOf (orError (cStr (loopModeStr loopMode)) "ERROR_COMMAND"))) = _
      rw [loopModeOf_loopModeStr haccepted]
      rfl
  | _ => rfl

/-- The command is of the kind that was sent, and has its argument if that can be encoded. -/
theorem taken_eq_image (haccepted : c.Accepted) :
    c.taken.cmd = c.image.cmd ∧ (c.Encodable → c.taken = c.image) := by
  cases c with
  | toggleFavorite mediaId =>
      constructor
      · show (AVControlCommand.setAssetId _ _).cmd = _
        unfold AVControlCommand.setAssetId
        split_ifs <;> rfl
      · rintro ⟨hne, hnul⟩
        show AVControlCommand.setAssetId _ (orError (cStr mediaId) "ERROR_COMMAND") = _
        rw [cStr_eq_self hnul, orError, if_neg hne, AVControlCommand.setAssetId, if_neg hne]
        rfl
  | seek time =>
      constructor
      · show (AVControlCommand.setSeekTime _ _).cmd = _
        unfold AVControlCommand.setSeekTime
        split_ifs <;> rfl
      · intro htime
        show AVControlCommand.setSeekTime _ time = _
        rw [AVControlCommand.setSeekTime, if_neg (Int64.not_lt.mpr htime)]
        rfl
  | setLoopMode loopMode =>
      have htaken :
          (Command.setLoopMode loopMode).taken = (Command.setLoopMode loopMode).image := by
        have hmode : ¬ (loopMode < LOOP_MODE_UNDEFINED ∨ loopMode > LOOP_MODE_CUSTOM) := by
          rw [not_or, Int.not_lt, Int.not_lt]
          exact haccepted
        show AVControlCommand.setLoopMode _ loopMode = _
        rw [AVControlCommand.setLoopMode, if_neg hmode]
        rfl
      exact ⟨by rw [htaken], fun _ => htaken⟩
  | _ => exact ⟨rfl, fun _ => rfl⟩

end command

/-! ## Runs -/

section runs

/-- The server, and the commands whose messages it received. -/
structure ControlState where
  server : ControlServer
  received : List Command

/-- A command that the proxy handles, or a run of the next delayed task. -/
inductive ControlOp
  | command (c : Command)
  | runTask

variable {known : KnownSessions} {playerId : String} {controller : ControllerRef}

/-- One operation. A command that the proxy refuses brings no message. -/
def step (known : KnownSessions) (playerId : String) (s : ControlState) : ControlOp → ControlState
  | .command c =>
      match handleForSuper known playerId c with
      | none => s
      | some msg => ⟨procControlCommand s.server msg, s.received ++ [c]⟩
  | .runTask => { s with server := runTask s.server }

/-- The server before the first message: it is connected, and it has a controller for the player. -/
structure Ready (playerId : String) (controller : ControllerRef) (server : ControlServer) :
    Prop where
  found :
    getControllerById server (orError (cStr playerId) "ERROR_PLAYER_ID") = some controller
  connected : server.isSoftbusConnecting = true
  delayed : server.delayed = []
  sent : server.sent = []

/-- A call of `SendControlCommand` for a command: it goes to the controller, is of the same kind and
has the same argument, if that can be encoded. -/
def Carries (controller : ControllerRef) (c : Command) (call : ControllerRef × AVControlCommand) :
    Prop :=
  call.1 = controller ∧ call.2.cmd = c.image.cmd ∧ (c.Encodable → call.2 = c.image)

/-- A call for a PLAY. -/
def isPlay (call : ControllerRef × AVControlCommand) : Bool := call.2.cmd == SESSION_CMD_PLAY

/-- The calls made and pending are those for the commands received, one for each, in the order
received among the PLAYs and among the others. -/
structure PassedOn (controller : ControllerRef) (s : ControlState)
    (calls : List (ControllerRef × AVControlCommand)) : Prop where
  carries : List.Forall₂ (Carries controller) s.received calls
  once : (s.server.sent ++ s.server.delayed).Perm calls
  plays : s.server.sent.filter isPlay ++ s.server.delayed = calls.filter isPlay
  others : s.server.sent.filter (fun call => !isPlay call) =
    calls.filter (fun call => !isPlay call)

/-- No other command comes while a PLAY is pending. -/
def NoOvertaking (s : ControlState) : ControlOp → Prop
  | .command c => c = .play ∨ s.server.delayed = []
  | .runTask => True

/-- The call that the server makes for a command. -/
def callOf (controller : ControllerRef) (c : Command) : ControllerRef × AVControlCommand :=
  (controller, c.taken)

/-- The call made carries the command. -/
theorem carries_callOf {c : Command} (haccepted : c.Accepted) :
    Carries controller c (callOf controller c) :=
  ⟨rfl, taken_eq_image haccepted⟩

/-- The call is a play exactly when the command is. -/
theorem isPlay_callOf {c : Command} (haccepted : c.Accepted) :
    isPlay (callOf controller c) = decide (c = .play) := by
  unfold isPlay callOf
  rw [(taken_eq_image haccepted).1]
  cases c <;> rfl

/-- What holds all along a run. -/
structure CommandInv (playerId : String) (controller : ControllerRef) (s : ControlState) :
    Prop where
  found :
    getControllerById s.server (orError (cStr playerId) "ERROR_PLAYER_ID") = some controller
  connected : s.server.isSoftbusConnecting = true
  accepted : ∀ c ∈ s.received, c.Accepted
  passedOn : PassedOn controller s (s.received.map (callOf controller))

/-- A ready server has passed on everything. -/
theorem Ready.commandInv {server : ControlServer} (h : Ready playerId controller server) :
    CommandInv playerId controller ⟨server, []⟩ := by
  refine ⟨h.found, h.connected, fun c hc => absurd hc List.not_mem_nil, .nil, ?_, ?_, ?_⟩
  · rw [h.sent, h.delayed]
    exact List.Perm.refl _
  · rw [h.sent, h.delayed]
    rfl
  · rw [h.sent]
    rfl

/-- The state after a message: the call joins the tasks or the calls. -/
theorem step_command {s : ControlState} (h : CommandInv playerId controller s) (c : Command) :
    step known playerId s (.command c) = s ∨
    c.Accepted ∧ step known playerId s (.command c) =
      if c = .play then
        ⟨{ s.server with delayed := s.server.delayed ++ [callOf controller c] }, s.received ++ [c]⟩
      else
        ⟨{ s.server with sent := s.server.sent ++ [callOf controller c] }, s.received ++ [c]⟩ := by
  unfold step
  dsimp only
  cases hmsg : handleForSuper known playerId c with
  | none => exact Or.inl rfl
  | some msg =>
      refine Or.inr ⟨(handleForSuper_eq_some hmsg).1, ?_⟩
      dsimp only
      rw [procControlCommand_eq hmsg h.found, takeCommand]
      split_ifs
      · rw [migratePostTask, if_pos h.connected]
        rfl
      · rfl

/-- A command keeps the invariant. -/
theorem CommandInv.command {s : ControlState} (h : CommandInv playerId controller s) (c : Command) :
    CommandInv playerId controller (step known playerId s (.command c)) := by
  have hpassed := h.passedOn
  rcases step_command h c with hstep | ⟨haccepted, hstep⟩
  · rw [hstep]
    exact h
  · have hall : ∀ c' ∈ s.received ++ [c], c'.Accepted := by
      intro c' hc'
      rcases List.mem_append.mp hc' with hc' | hc'
      · exact h.accepted c' hc'
      · rw [List.mem_singleton.mp hc']
        exact haccepted
    have hcarries : List.Forall₂ (Carries controller) (s.received ++ [c])
        ((s.received ++ [c]).map (callOf controller)) := by
      rw [List.forall₂_map_right_iff, List.forall₂_same]
      exact fun c' hc' => carries_callOf (hall c' hc')
    have hkind : isPlay (callOf controller c) = decide (c = .play) := isPlay_callOf haccepted
    have hlast : (s.received ++ [c]).map (callOf controller) =
        s.received.map (callOf controller) ++ [callOf controller c] := List.map_append
    rw [hstep]
    split_ifs with hplay
    · have hpos : isPlay (callOf controller c) = true := by rw [hkind, decide_eq_true hplay]
      refine ⟨h.found, h.connected, hall, hcarries, ?_, ?_, ?_⟩
      · rw [hlast, ← List.append_assoc]
        exact hpassed.once.append_right _
      · rw [hlast, List.filter_append, ← hpassed.plays, ← List.append_assoc,
          List.filter_cons_of_pos hpos, List.filter_nil]
      · rw [hlast, List.filter_append, ← hpassed.others,
          List.filter_cons_of_neg (by simp [hpos]), List.filter_nil, List.append_nil]
    · have hneg : isPlay (callOf controller c) = false := by rw [hkind, decide_eq_false hplay]
      refine ⟨h.found, h.connected, hall, hcarries, ?_, ?_, ?_⟩
      · rw [hlast]
        refine List.Perm.trans ?_ (hpassed.once.append_right _)
        rw [List.append_assoc, List.append_assoc]
        exact List.perm_append_comm.append_left _
      · rw [hlast, List.filter_append, List.filter_append, ← hpassed.plays,
          List.filter_cons_of_neg (by simp [hneg]), List.filter_nil, List.append_nil,
          List.append_nil]
      · rw [hlast, List.filter_append, List.filter_append, ← hpassed.others]

/-- The delayed task keeps the invariant. -/
theorem CommandInv.runTask {s : ControlState} (h : CommandInv playerId controller s) :
    CommandInv playerId controller (step known playerId s .runTask) := by
  have hpassed := h.passedOn
  unfold step ControlCommand.runTask
  cases hdelayed : s.server.delayed with
  | nil => exact h
  | cons call delayed =>
      have hplay : isPlay call = true := by
        have hmem : call ∈ (s.received.map (callOf controller)).filter isPlay := by
          rw [← hpassed.plays, hdelayed]
          exact List.mem_append_right _ List.mem_cons_self
        exact (List.mem_filter.mp hmem).2
      have hplays := hpassed.plays
      have honce := hpassed.once
      rw [hdelayed] at hplays honce
      refine ⟨h.found, h.connected, h.accepted, hpassed.carries, ?_, ?_, ?_⟩
      · show ((s.server.sent ++ [call]) ++ delayed).Perm _
        rw [List.append_assoc]
        exact honce
      · show (s.server.sent ++ [call]).filter isPlay ++ delayed = _
        rw [List.filter_append, List.filter_cons_of_pos hplay, List.filter_nil, List.append_assoc]
        exact hplays
      · show (s.server.sent ++ [call]).filter _ = _
        rw [List.filter_append, List.filter_cons_of_neg (by simp [hplay]), List.filter_nil,
          List.append_nil]
        exact hpassed.others

/-- Every operation keeps the invariant. -/
theorem CommandInv.step {s : ControlState} (h : CommandInv playerId controller s) (op : ControlOp) :
    CommandInv playerId controller (step known playerId s op) := by
  cases op with
  | command c => exact h.command c
  | runTask => exact h.runTask

/-- The calls are in the order received. -/
def InOrder (controller : ControllerRef) (s : ControlState) : Prop :=
  s.server.sent ++ s.server.delayed = s.received.map (callOf controller)

/-- Without overtaking a step keeps the order. -/
theorem inOrder_step {s : ControlState} (h : CommandInv playerId controller s) {op : ControlOp}
    (horder : InOrder controller s) (hop : NoOvertaking s op) :
    InOrder controller (step known playerId s op) := by
  unfold InOrder at horder ⊢
  cases op with
  | command c =>
      rcases step_command h c with hstep | ⟨-, hstep⟩
      · rw [hstep]
        exact horder
      · rw [hstep]
        split_ifs with hplay
        · rw [List.map_append, ← horder, List.append_assoc]
          rfl
        · have hnil := hop.resolve_left hplay
          rw [hnil, List.append_nil] at horder
          dsimp only
          rw [hnil, List.append_nil, List.map_append, horder]
          rfl
  | runTask =>
      unfold step ControlCommand.runTask
      cases hdelayed : s.server.delayed with
      | nil => exact horder
      | cons call delayed =>
          show (s.server.sent ++ [call]) ++ delayed = _
          rw [List.append_assoc, ← horder, hdelayed]
          rfl

/-- **Which commands reach the controller.** The commands other than PLAY are passed on at once and
in the order received; the PLAYs are passed on in the order received, each by its task; every
command is passed on once, with its argument. If no other command comes while a PLAY is pending, the
order is kept throughout. -/
theorem commands_passed {server : ControlServer} (h : Ready playerId controller server)
    (ops : List ControlOp) :
    ∃ calls, PassedOn controller (run (step known playerId) ⟨server, []⟩ ops) calls ∧
      (Meets (step known playerId) NoOvertaking ⟨server, []⟩ ops →
        (run (step known playerId) ⟨server, []⟩ ops).server.sent ++
          (run (step known playerId) ⟨server, []⟩ ops).server.delayed = calls) := by
  have hinv : Always (step known playerId) (CommandInv playerId controller) ⟨server, []⟩ ops :=
    always_of_forall (fun _ op hs => hs.step op) ops h.commandInv
  refine ⟨_, hinv.last.passedOn, fun hmeets => ?_⟩
  have hstart : InOrder controller ⟨server, []⟩ := by
    unfold InOrder
    rw [h.sent, h.delayed]
    rfl
  have horder := always_of_meets
    (P := fun s => CommandInv playerId controller s ∧ InOrder controller s)
    (fun s op hs hop => ⟨hs.1.step op, inOrder_step hs.1 hs.2 hop⟩) ⟨h.commandInv, hstart⟩ hmeets
  exact horder.last.2

/-- A server with one player. -/
def playerServer : ControlServer where
  playerIdToControllerMap := fun _ => some (some "player")
  isSoftbusConnecting := true
  delayed := []
  sent := []

/-- The server below is ready. -/
theorem ready_playerServer : Ready "player" "player" playerServer := by
  refine ⟨?_, rfl, rfl, rfl⟩
  unfold getControllerById orError
  split_ifs <;> simp_all [playerServer]

/-- A play, a pause and the delayed task are all passed on. -/
theorem commands_passed_player :
    ∃ calls, PassedOn "player" (run (step (fun _ => true) "player") ⟨playerServer, []⟩
      [.command .play, .command .pause, .runTask]) calls :=
  (commands_passed ready_playerServer _).imp fun _ h => h.1

/-- A PAUSE that comes after a PLAY is passed on before it. -/
theorem play_overtaken :
    ¬ ∀ (known : KnownSessions) (playerId : String) (controller : ControllerRef)
      (server : ControlServer), Ready playerId controller server → ∀ ops,
        (run (step known playerId) ⟨server, []⟩ ops).server.delayed = [] →
        (run (step known playerId) ⟨server, []⟩ ops).server.sent =
          (run (step known playerId) ⟨server, []⟩ ops).received.map
            fun c => (controller, c.image) := by
  intro h
  have hrun := h (fun _ => true) "player" "player" playerServer ready_playerServer
    [.command .play, .command .pause, .runTask] rfl
  exact absurd hrun (by decide)

end runs

end AvSession.Migrate.ControlCommand
