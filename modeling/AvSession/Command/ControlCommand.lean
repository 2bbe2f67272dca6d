import AvSession.Common.Codes
import AvSession.Lib.FloatFormat
import AvSession.Lib.ParcelReader

/-!
# Control commands in parcels

An `AVControlCommand` is a command, one parameter that all commands share, and the caller. The
writer looks at the alternative of the parameter only; the reader calls the setter of the command,
which checks the value.

* `SessionCmd`, `Param`, `CommandInfo` — the commands, the parameter and the caller.
* One setter for each kind of parameter, `Call`, `Built` — the objects that a client can build.
* `marshalling`, `unmarshalling` — the writer and the reader, by the command.
* `setOwn` — what the setter of the command makes of the parameter; `answers_marshalling` says that
  this is what is read back.
* `controlCommand_roundTrips` — exactly when a command comes back, and as what.
-/

namespace AvSession.Command

open AvSession.Common.Codes AvSession.Lib

/-! ## The object -/

section object

/-- Source: avcontrol_command.h, SESSION_CMD_PLAY and the following. -/
inductive SessionCmd
  | play
  | pause
  | stop
  | playNext
  | playPrevious
  | fastForward
  | rewind
  | seek
  | setSpeed
  | setLoopMode
  | toggleFavorite
  | playFromAssetId
  | avcallAnswer
  | avcallHangUp
  | avcallToggleCallMute
  | mediaKeySupport
  | setTargetLoopMode
  | playWithAssetId
deriving DecidableEq

namespace SessionCmd

/-- SESSION_CMD_INVALID. -/
def invalid : ℤ := -1

/-- SESSION_CMD_MAX. -/
def max : ℤ := 18

/-- The commands in the order of the enumeration. -/
def all : List SessionCmd :=
  [play, pause, stop, playNext, playPrevious, fastForward, rewind, seek, setSpeed, setLoopMode,
    toggleFavorite, playFromAssetId, avcallAnswer, avcallHangUp, avcallToggleCallMute,
    mediaKeySupport, setTargetLoopMode, playWithAssetId]

/-- The number of a command. -/
def code (cmd : SessionCmd) : ℤ := all.idxOf cmd

/-- The commands that are written with a parameter. -/
def carriesParam : SessionCmd → Bool
  | play | fastForward | rewind | seek | setSpeed | setLoopMode | toggleFavorite
  | playFromAssetId | setTargetLoopMode | playWithAssetId => true
  | _ => false

/-- The commands that are written with the caller. -/
def carriesInfo : SessionCmd → Bool
  | play | playNext | playPrevious | fastForward | rewind => true
  | _ => false

end SessionCmd

/-- `std::variant<int32_t, double, int64_t, bool, std::string>`. A double is its bits. -/
inductive Param
  | int32 (v : ℤ)
  | double (v : BitVec 64)
  | int64 (v : ℤ)
  | bool (v : Bool)
  | string (v : String)
deriving DecidableEq

/-- Source: command_info.h, CommandInfo. -/
structure CommandInfo where
  callerDeviceId : String
  callerBundleName : String
  callerModuleName : String
  callerType : String
deriving DecidableEq

/-- Source: avcontrol_command.h, AVControlCommand. Without a command, `cmd_` is
SESSION_CMD_INVALID. -/
structure AVControlCommand where
  cmd : Option SessionCmd
  param : Param
  commandInfo : CommandInfo
deriving DecidableEq

/-- A new command. The variant starts with its first alternative. -/
def AVControlCommand.init : AVControlCommand := ⟨none, .int32 0, ⟨"", "", "", ""⟩⟩

end object

/-! ## Setters -/

section setters

/-- `std::isfinite`. -/
def IsFinite (d : BitVec 64) : Prop := exponent64 d ≠ 2047

/-- `d <= 0` for a finite double: it is negative, or one of the two zeros. -/
def LeZero (d : BitVec 64) : Prop := sign64 d = 1 ∨ d.toNat % 2 ^ 63 = 0

instance (d : BitVec 64) : Decidable (IsFinite d) := inferInstanceAs (Decidable (¬ _))

instance (d : BitVec 64) : Decidable (LeZero d) := inferInstanceAs (Decidable (_ ∨ _))

namespace AVControlCommand

variable (c : AVControlCommand)

/-- A setter that refuses some values: `none` is ERR_INVALID_PARAM, and the object is unchanged. -/
def setUnless (refused : Prop) [Decidable refused] (param : Param) : Option AVControlCommand :=
  if refused then none else some { c with param }

/-- Source: avcontrol_command.cpp, AVControlCommand::SetCommand. -/
def setCommand (cmd : ℤ) : Option AVControlCommand :=
  if cmd ≤ SessionCmd.invalid ∨ cmd ≥ SessionCmd.max then none
  else some { c with cmd := SessionCmd.all[cmd.toNat]? }

def setSpeed (speed : BitVec 64) : Option AVControlCommand :=
  c.setUnless (¬ IsFinite speed ∨ LeZero speed) (.double speed)

def setForwardTime (forwardTime : ℤ) : Option AVControlCommand :=
  c.setUnless (forwardTime ≤ 0) (.int64 forwardTime)

def setRewindTime (rewindTime : ℤ) : Option AVControlCommand :=
  c.setUnless (rewindTime < 0) (.int64 rewindTime)

def setSeekTime (time : ℤ) : Option AVControlCommand :=
  c.setUnless (time < 0) (.int64 time)

def setLoopMode (mode : ℤ) : Option AVControlCommand :=
  c.setUnless (mode < LOOP_MODE_UNDEFINED ∨ mode > LOOP_MODE_CUSTOM) (.int32 mode)

def setTargetLoopMode (targetMode : ℤ) : Option AVControlCommand :=
  c.setUnless (targetMode < LOOP_MODE_UNDEFINED ∨ targetMode > LOOP_MODE_CUSTOM) (.int32 targetMode)

def setAssetId (assetId : String) : Option AVControlCommand :=
  c.setUnless (assetId = "") (.string assetId)

def setPlayFromAssetId (playFromAssetId : ℤ) : Option AVControlCommand :=
  c.setUnless False (.int64 playFromAssetId)

def setPlayWithAssetId (playWithAssetId : String) : Option AVControlCommand :=
  c.setUnless (playWithAssetId = "") (.string playWithAssetId)

def setPlayParam (playParam : String) : Option AVControlCommand :=
  c.setUnless False (.string playParam)

def setCommandInfo (commandInfo : CommandInfo) : Option AVControlCommand :=
  some { c with commandInfo }

/-- The calls of the public setters. -/
inductive Call
  | command (cmd : ℤ)
  | speed (speed : BitVec 64)
  | forwardTime (forwardTime : ℤ)
  | rewindTime (rewindTime : ℤ)
  | seekTime (time : ℤ)
  | loopMode (mode : ℤ)
  | targetLoopMode (targetMode : ℤ)
  | assetId (assetId : String)
  | playFromAssetId (playFromAssetId : ℤ)
  | playWithAssetId (playWithAssetId : String)
  | playParam (playParam : String)
  | commandInfo (commandInfo : CommandInfo)

/-- The setter that is called. -/
def call : Call → Option AVControlCommand
  | .command cmd => c.setCommand cmd
  | .speed speed => c.setSpeed speed
  | .forwardTime forwardTime => c.setForwardTime forwardTime
  | .rewindTime rewindTime => c.setRewindTime rewindTime
  | .seekTime time => c.setSeekTime time
  | .loopMode mode => c.setLoopMode mode
  | .targetLoopMode targetMode => c.setTargetLoopMode targetMode
  | .assetId assetId => c.setAssetId assetId
  | .playFromAssetId playFromAssetId => c.setPlayFromAssetId playFromAssetId
  | .playWithAssetId playWithAssetId => c.setPlayWithAssetId playWithAssetId
  | .playParam playParam => c.setPlayParam playParam
  | .commandInfo commandInfo => c.setCommandInfo commandInfo

/-- The objects that come of calls that succeed. -/
inductive Built : AVControlCommand → Prop
  | init : Built init
  | call {c c' : AVControlCommand} (hc : Built c) (k : Call) (h : c.call k = some c') : Built c'

variable {c} {c' : AVControlCommand} {refused : Prop} [Decidable refused] {param : Param}

/-- A setter succeeds exactly when its value is not refused. -/
theorem setUnless_eq_some_iff :
    c.setUnless refused param = some c' ↔ ¬ refused ∧ { c with param } = c' := by
  unfold setUnless
  split_ifs with h <;> simp [h]

/-- The same, as a test. -/
@[simp] theorem isSome_setUnless : (c.setUnless refused param).isSome = true ↔ ¬ refused := by
  unfold setUnless
  split_ifs with h <;> simp [h]

/-- A command is set from its own code. -/
theorem setCommand_code (cmd : SessionCmd) :
    c.setCommand cmd.code = some { c with cmd := some cmd } := by
  cases cmd <;> rfl

end AVControlCommand

end setters

/-! ## The writer and the reader -/

section codec

/-- Source: command_info.cpp, CommandInfo::Marshalling. -/
def CommandInfo.marshalling (i : CommandInfo) : List Put :=
  [.write (.string i.callerDeviceId), .write (.string i.callerBundleName),
    .write (.string i.callerModuleName), .write (.string i.callerType)]

/-- A string that cannot be read is empty. Source: command_info.cpp, CommandInfo::Unmarshalling. -/
def CommandInfo.unmarshalling : Reader CommandInfo := do
  let callerDeviceId ← takeOr Token.asString ""
  let callerBundleName ← takeOr Token.asString ""
  let callerModuleName ← takeOr Token.asString ""
  let callerType ← takeOr Token.asString ""
  pure ⟨callerDeviceId, callerBundleName, callerModuleName, callerType⟩

namespace Param

/-- The parameter is written only if it holds the alternative that is asked for. -/
def writeInt32 : Param → List Put
  | int32 v => [.write (.int32 v)]
  | _ => [.check false]

def writeInt64 : Param → List Put
  | int64 v => [.write (.int64 v)]
  | _ => [.check false]

def writeDouble : Param → List Put
  | double v => [.write (.double v)]
  | _ => [.check false]

def writeString : Param → List Put
  | string v => [.write (.string v)]
  | _ => [.check false]

/-- The parameter of a PLAY, which is empty if there is none. -/
def playParam : Param → String
  | string v => v
  | _ => ""

end Param

namespace AVControlCommand

variable (c : AVControlCommand)

/-- The number of the command. -/
def getCommand : ℤ :=
  match c.cmd with
  | some cmd => cmd.code
  | none => SessionCmd.invalid

/-- The `switch` of the writer. -/
def marshallingParam : List Put :=
  match c.cmd with
  | some .fastForward | some .rewind => c.param.writeInt64 ++ c.commandInfo.marshalling
  | some .seek | some .playFromAssetId => c.param.writeInt64
  | some .setSpeed => c.param.writeDouble
  | some .setLoopMode | some .setTargetLoopMode => c.param.writeInt32
  | some .toggleFavorite | some .playWithAssetId => c.param.writeString
  | some .play => .write (.string c.param.playParam) :: c.commandInfo.marshalling
  | some .playNext | some .playPrevious => c.commandInfo.marshalling
  | _ => []

/-- Source: avcontrol_command.cpp, AVControlCommand::Marshalling. -/
def marshalling : List Put := .write (.int32 c.getCommand) :: c.marshallingParam

/-- Source: avcontrol_command.cpp, AVControlCommand::UnmarshalCommonInfo. -/
def unmarshalCommonInfo : Reader AVControlCommand := do
  let commandInfo ← CommandInfo.unmarshalling
  pure { c with commandInfo }

/-- The command has been set. A read that fails leaves the default.
Source: avcontrol_command.cpp, AVControlCommand::SetParamFromParcel. -/
def setParamFromParcel : Reader AVControlCommand :=
  match c.cmd with
  | some .fastForward => do
      let timeParam ← takeOr Token.asInt64 0
      let c ← c.unmarshalCommonInfo
      ofOption (c.setForwardTime timeParam)
  | some .rewind => do
      let timeParam ← takeOr Token.asInt64 0
      let c ← c.unmarshalCommonInfo
      ofOption (c.setRewindTime timeParam)
  | some .seek => do
      let timeParam ← takeOr Token.asInt64 0
      ofOption (c.setSeekTime timeParam)
  | some .setSpeed => do
      let speedParam ← takeOr Token.asDouble 0
      ofOption (c.setSpeed speedParam)
  | some .setLoopMode => do
      let modeParam ← takeOr Token.asInt32 0
      ofOption (c.setLoopMode modeParam)
  | some .setTargetLoopMode => do
      let modeParam ← takeOr Token.asInt32 0
      ofOption (c.setTargetLoopMode modeParam)
  | some .toggleFavorite => do
      let strParam ← takeOr Token.asString ""
      ofOption (c.setAssetId strParam)
  | some .playFromAssetId => do
      let timeParam ← takeOr Token.asInt64 0
      ofOption (c.setPlayFromAssetId timeParam)
  | some .playWithAssetId => do
      let strParam ← takeOr Token.asString ""
      ofOption (c.setPlayWithAssetId strParam)
  | some .play => do
      let strParam ← takeOr Token.asString ""
      let c ← c.unmarshalCommonInfo
      ofOption (c.setPlayParam strParam)
  | some .playNext | some .playPrevious => c.unmarshalCommonInfo
  | _ => pure c

/-- Source: avcontrol_command.cpp, AVControlCommand::Unmarshalling. -/
def unmarshalling : Reader AVControlCommand := do
  let cmd ← take Token.asInt32
  let c ← ofOption (init.setCommand cmd)
  c.setParamFromParcel

end AVControlCommand

end codec

/-! ## The round trip -/

section roundTrip

namespace AVControlCommand

variable {c c' : AVControlCommand} {cmd : SessionCmd} {i : CommandInfo}

/-- What the setter of a command makes of the parameter that is written for it: nothing, if it is
another alternative. -/
def setOwn (c : AVControlCommand) : SessionCmd → Param → Option AVControlCommand
  | .fastForward, .int64 v => c.setForwardTime v
  | .rewind, .int64 v => c.setRewindTime v
  | .seek, .int64 v => c.setSeekTime v
  | .setSpeed, .double v => c.setSpeed v
  | .setLoopMode, .int32 v => c.setLoopMode v
  | .setTargetLoopMode, .int32 v => c.setTargetLoopMode v
  | .toggleFavorite, .string v => c.setAssetId v
  | .playFromAssetId, .int64 v => c.setPlayFromAssetId v
  | .playWithAssetId, .string v => c.setPlayWithAssetId v
  | .play, v => c.setPlayParam v.playParam
  | cmd, _ => if cmd.carriesParam then none else some c

/-- The command has been set, and its own setter accepts the parameter. -/
def Accepted (c : AVControlCommand) : Prop :=
  ∃ cmd, c.cmd = some cmd ∧ (init.setOwn cmd c.param).isSome = true

/-- The same command, with the same parameter and the same caller where they are written. The
parameter of a PLAY that holds no string is the empty one. -/
structure Same (c c' : AVControlCommand) : Prop where
  cmd : c'.cmd = c.cmd
  param : ∀ cmd, c.cmd = some cmd → cmd.carriesParam = true → cmd ≠ .play → c'.param = c.param
  playParam : c.cmd = some .play → c'.param = .string c.param.playParam
  commandInfo : ∀ cmd, c.cmd = some cmd → cmd.carriesInfo = true → c'.commandInfo = c.commandInfo

/-- The information of a command is read back. -/
theorem reads_commonInfo (c : AVControlCommand) (i : CommandInfo) :
    Reads c.unmarshalCommonInfo (records i.marshalling) { c with commandInfo := i } := by
  intro rest
  rfl

/-- A parameter alone. -/
theorem answers_param {α : Type} {f : Token → Option α} {t : Token} {v : α} (ht : f t = some v)
    (d : α) (set : α → Option AVControlCommand) :
    Answers (do let v ← takeOr f d; ofOption (set v)) [t] (set v) :=
  Answers.bind (Reads.takeOr ht d) (Answers.ofOption _)

/-- A parameter and the caller. -/
theorem answers_param_commonInfo {α : Type} {f : Token → Option α} {t : Token} {v : α}
    (ht : f t = some v) (d : α) (c : AVControlCommand) (i : CommandInfo)
    (set : AVControlCommand → α → Option AVControlCommand) :
    Answers (do let v ← takeOr f d; let c ← c.unmarshalCommonInfo; ofOption (set c v))
      (t :: records i.marshalling) (set { c with commandInfo := i } v) := by
  have hinfo : Answers (do let c ← c.unmarshalCommonInfo; ofOption (set c v))
      (records i.marshalling ++ []) (set { c with commandInfo := i } v) :=
    Answers.bind (reads_commonInfo c i) (Answers.ofOption _)
  rw [List.append_nil] at hinfo
  show Answers _ ([t] ++ records i.marshalling) _
  exact Answers.bind (Reads.takeOr ht d) hinfo

end AVControlCommand

namespace Param

variable {param : Param}

/-- A parameter written as a long integer is one. -/
theorem exists_int64 (h : ∀ b, .check b ∈ param.writeInt64 → b = true) :
    ∃ v, param = .int64 v := by
  cases param with
  | int64 v => exact ⟨v, rfl⟩
  | _ => exact absurd (h false List.mem_cons_self) Bool.false_ne_true

/-- A parameter written as an integer is one. -/
theorem exists_int32 (h : ∀ b, .check b ∈ param.writeInt32 → b = true) :
    ∃ v, param = .int32 v := by
  cases param with
  | int32 v => exact ⟨v, rfl⟩
  | _ => exact absurd (h false List.mem_cons_self) Bool.false_ne_true

/-- A parameter written as a double is one. -/
theorem exists_double (h : ∀ b, .check b ∈ param.writeDouble → b = true) :
    ∃ v, param = .double v := by
  cases param with
  | double v => exact ⟨v, rfl⟩
  | _ => exact absurd (h false List.mem_cons_self) Bool.false_ne_true

/-- A parameter written as a text is one. -/
theorem exists_string (h : ∀ b, .check b ∈ param.writeString → b = true) :
    ∃ v, param = .string v := by
  cases param with
  | string v => exact ⟨v, rfl⟩
  | _ => exact absurd (h false List.mem_cons_self) Bool.false_ne_true

end Param

namespace AVControlCommand

variable {c c' : AVControlCommand} {cmd : SessionCmd} {param : Param}

/-- The caller that is read: the one that was written, if it was. -/
def readInfo (c : AVControlCommand) (cmd : SessionCmd) : CommandInfo :=
  if cmd.carriesInfo then c.commandInfo else init.commandInfo

/-- **What is read of a command that was written.** -/
theorem answers_marshalling (hcmd : c.cmd = some cmd)
    (h : ∀ b, .check b ∈ c.marshallingParam → b = true) :
    Answers unmarshalling (records c.marshalling)
      (setOwn ⟨some cmd, init.param, c.readInfo cmd⟩ cmd c.param) := by
  obtain ⟨cmd', param, info⟩ := c
  obtain rfl : cmd' = some cmd := hcmd
  have hset : Reads (ofOption (init.setCommand cmd.code)) []
      ⟨some cmd, init.param, init.commandInfo⟩ := by
    intro rest
    rw [setCommand_code]
    rfl
  refine Answers.cons rfl (Answers.bind hset ?_)
  cases cmd with
  | fastForward =>
      obtain ⟨v, rfl⟩ := Param.exists_int64 fun b hb => h b (List.mem_append_left _ hb)
      exact answers_param_commonInfo (f := Token.asInt64) rfl _ _ _ setForwardTime
  | rewind =>
      obtain ⟨v, rfl⟩ := Param.exists_int64 fun b hb => h b (List.mem_append_left _ hb)
      exact answers_param_commonInfo (f := Token.asInt64) rfl _ _ _ setRewindTime
  | play => exact answers_param_commonInfo (f := Token.asString) rfl _ _ _ setPlayParam
  | playNext | playPrevious => exact Answers.of_reads (reads_commonInfo _ _)
  | seek =>
      obtain ⟨v, rfl⟩ := Param.exists_int64 h
      exact answers_param (f := Token.asInt64) rfl _ (setSeekTime _)
  | playFromAssetId =>
      obtain ⟨v, rfl⟩ := Param.exists_int64 h
      exact answers_param (f := Token.asInt64) rfl _ (setPlayFromAssetId _)
  | setSpeed =>
      obtain ⟨v, rfl⟩ := Param.exists_double h
      exact answers_param (f := Token.asDouble) rfl _ (setSpeed _)
  | setLoopMode =>
      obtain ⟨v, rfl⟩ := Param.exists_int32 h
      exact answers_param (f := Token.asInt32) rfl _ (setLoopMode _)
  | setTargetLoopMode =>
      obtain ⟨v, rfl⟩ := Param.exists_int32 h
      exact answers_param (f := Token.asInt32) rfl _ (setTargetLoopMode _)
  | toggleFavorite =>
      obtain ⟨v, rfl⟩ := Param.exists_string h
      exact answers_param (f := Token.asString) rfl _ (setAssetId _)
  | playWithAssetId =>
      obtain ⟨v, rfl⟩ := Param.exists_string h
      exact answers_param (f := Token.asString) rfl _ (setPlayWithAssetId _)
  | pause | stop | avcallAnswer | avcallHangUp | avcallToggleCallMute | mediaKeySupport =>
      exact Answers.of_reads (Reads.pure _)

/-- Without a command, nothing is read. -/
theorem answers_invalid (hcmd : c.cmd = none) :
    Answers unmarshalling (records c.marshalling) none := by
  obtain ⟨cmd', param, info⟩ := c
  obtain rfl : cmd' = none := hcmd
  intro rest
  rfl

/-- A setter changes nothing but the parameter. -/
theorem setOwn_eq_some (h : c.setOwn cmd param = some c') :
    c'.cmd = c.cmd ∧ c'.commandInfo = c.commandInfo ∧
      (cmd.carriesParam = true → cmd ≠ .play → c'.param = param) ∧
      (cmd = .play → c'.param = .string param.playParam) := by
  unfold setOwn at h
  split at h
  case h_11 =>
    split_ifs at h with hcarries
    obtain rfl := Option.some.inj h
    refine ⟨rfl, rfl, ?_, ?_⟩
    · intro hparam
      exact absurd hparam hcarries
    · rintro rfl
      exact absurd rfl hcarries
  all_goals
    obtain ⟨-, rfl⟩ := setUnless_eq_some_iff.mp h
    simp

/-- Whether the setter accepts the parameter does not depend on the object. -/
theorem isSome_setOwn (c c' : AVControlCommand) (cmd : SessionCmd) (param : Param) :
    (c.setOwn cmd param).isSome = (c'.setOwn cmd param).isSome := by
  unfold setOwn
  split
  case h_11 => split_ifs <;> rfl
  all_goals
    rw [Bool.eq_iff_iff]
    exact isSome_setUnless.trans isSome_setUnless.symm

/-- **Control commands.** A command that was written comes back exactly if it has been set and its
setter accepts the parameter, and then it is the same. -/
theorem controlCommand_roundTrips (p : Parcel) (c : AVControlCommand)
    (h : (p.run c.marshalling).2 = true) :
    RoundTrips p c.marshalling unmarshalling c.Accepted c.Same := by
  cases hcmd : c.cmd with
  | none =>
      refine RoundTrips.of_answers h (answers_invalid hcmd) ?_ ?_
      · refine iff_of_false ?_ Bool.false_ne_true
        rintro ⟨cmd, hset, -⟩
        cases hcmd.symm.trans hset
      · rintro c' ⟨⟩
  | some cmd =>
      have hchecks : ∀ b, .check b ∈ c.marshallingParam → b = true := by
        intro b hb
        exact Parcel.check_of_run h (List.mem_cons_of_mem _ hb)
      refine RoundTrips.of_answers h (answers_marshalling hcmd hchecks) ?_ ?_
      · constructor
        · rintro ⟨cmd', hset, haccepts⟩
          obtain rfl : cmd = cmd' := Option.some.inj (hcmd.symm.trans hset)
          rw [isSome_setOwn _ init]
          exact haccepts
        · intro haccepts
          refine ⟨cmd, hcmd, ?_⟩
          rw [isSome_setOwn _ init] at haccepts
          exact haccepts
      · intro c' hc'
        obtain ⟨hcmd', hinfo, hparam, hplay⟩ := setOwn_eq_some hc'
        refine ⟨hcmd'.trans hcmd.symm, ?_, ?_, ?_⟩
        · intro cmd₁ hcmd₁
          obtain rfl : cmd = cmd₁ := Option.some.inj (hcmd.symm.trans hcmd₁)
          exact hparam
        · intro hcmd₁
          exact hplay (Option.some.inj (hcmd.symm.trans hcmd₁))
        · intro cmd₁ hcmd₁ hcarries
          obtain rfl : cmd = cmd₁ := Option.some.inj (hcmd.symm.trans hcmd₁)
          rw [hinfo]
          exact if_pos hcarries

end AVControlCommand

end roundTrip

end AvSession.Command
