import AvSession.Command.ControlCommand
import AvSession.Meta.PlaybackState

/-!
# Commands and playback states in parcels

The other two classes that travel beside `AVControlCommand`: the command to a cast device, which is
built and read in the same way, and the playback state, whose setters accept any value.

* `AVCastControlCommand` — its setters, the writer and the reader.
* `marshallingState`, `unmarshallingState` — the writer and the reader of a playback state.
* `command_codecs` — exactly when a value of each class comes back, and as what.
-/

namespace AvSession.Command

open AvSession.Common.Codes AvSession.Lib AvSession.Meta

/-! ## Commands to a cast device -/

section cast

/-- Source: avcast_control_command.h, CAST_CONTROL_CMD_PLAY and the following. -/
inductive CastControlCmd
  | play
  | pause
  | stop
  | playNext
  | playPrevious
  | fastForward
  | rewind
  | seek
  | setVolume
  | setSpeed
  | setLoopMode
  | toggleFavorite
  | toggleMute
  | playStateChange
deriving DecidableEq

namespace CastControlCmd

/-- CAST_CONTROL_CMD_INVALID. -/
def invalid : ℤ := -1

/-- CAST_CONTROL_CMD_MAX. -/
def max : ℤ := 14

/-- The commands in the order of the enumeration. -/
def all : List CastControlCmd :=
  [play, pause, stop, playNext, playPrevious, fastForward, rewind, seek, setVolume, setSpeed,
    setLoopMode, toggleFavorite, toggleMute, playStateChange]

/-- The number of a command. -/
def code (cmd : CastControlCmd) : ℤ := all.idxOf cmd

/-- The commands that are written with a parameter. -/
def carriesParam : CastControlCmd → Bool
  | fastForward | rewind | seek | setVolume | setSpeed | setLoopMode => true
  | _ => false

end CastControlCmd

/-- `std::variant<int32_t, double, int64_t, bool>`. -/
inductive CastParam
  | int32 (v : ℤ)
  | double (v : BitVec 64)
  | int64 (v : ℤ)
  | bool (v : Bool)
deriving DecidableEq

/-- Source: avcast_control_command.h, AVCastControlCommand. -/
structure AVCastControlCommand where
  cmd : Option CastControlCmd
  param : CastParam
deriving DecidableEq

namespace AVCastControlCommand

variable (c : AVCastControlCommand)

/-- A new command. -/
def init : AVCastControlCommand := ⟨none, .int32 0⟩

/-- A setter that refuses some values. All parameters are of one alternative. -/
def setUnless (refused : Prop) [Decidable refused] (param : ℤ) : Option AVCastControlCommand :=
  if refused then none else some { c with param := .int32 param }

/-- Source: avcast_control_command.cpp, AVCastControlCommand::SetCommand. -/
def setCommand (cmd : ℤ) : Option AVCastControlCommand :=
  if cmd ≤ CastControlCmd.invalid ∨ cmd ≥ CastControlCmd.max then none
  else some { c with cmd := CastControlCmd.all[cmd.toNat]? }

def setForwardTime (forwardTime : ℤ) : Option AVCastControlCommand :=
  c.setUnless (forwardTime ≤ 0) forwardTime

def setRewindTime (rewindTime : ℤ) : Option AVCastControlCommand :=
  c.setUnless (rewindTime < 0) rewindTime

def setSeekTime (seekTime : ℤ) : Option AVCastControlCommand :=
  c.setUnless (seekTime < 0) seekTime

def setVolume (volume : ℤ) : Option AVCastControlCommand := c.setUnless (volume < 0) volume

def setSpeed (speed : ℤ) : Option AVCastControlCommand := c.setUnless (speed < 0) speed

def setLoopMode (loopMode : ℤ) : Option AVCastControlCommand :=
  c.setUnless (loopMode < LOOP_MODE_SEQUENCE ∨ loopMode > LOOP_MODE_CUSTOM) loopMode

/-- The parameter is written only if it holds an `int32_t`. -/
def writeParam : List Put :=
  match c.param with
  | .int32 v => [.write (.int32 v)]
  | _ => [.check false]

/-- The number of the command. -/
def getCommand : ℤ :=
  match c.cmd with
  | some cmd => cmd.code
  | none => CastControlCmd.invalid

/-- The `switch` of the writer. -/
def marshallingParam : List Put :=
  match c.cmd with
  | some .fastForward | some .rewind | some .seek | some .setVolume | some .setSpeed
  | some .setLoopMode => c.writeParam
  | _ => []

/-- Source: avcast_control_command.cpp, AVCastControlCommand::Marshalling. -/
def marshalling : List Put := .write (.int32 c.getCommand) :: c.marshallingParam

/-- A parameter that cannot be read is 0. -/
def readParam (set : ℤ → Option AVCastControlCommand) : Reader AVCastControlCommand := do
  let param ← takeOr Token.asInt32 0
  ofOption (set param)

/-- Source: avcast_control_command.cpp, AVCastControlCommand::SetParamFromParcel. -/
def setParamFromParcel : Reader AVCastControlCommand :=
  match c.cmd with
  | some .fastForward => readParam c.setForwardTime
  | some .rewind => readParam c.setRewindTime
  | some .seek => readParam c.setSeekTime
  | some .setVolume => readParam c.setVolume
  | some .setSpeed => readParam c.setSpeed
  | some .setLoopMode => readParam c.setLoopMode
  | _ => pure c

/-- Source: avcast_control_command.cpp, AVCastControlCommand::Unmarshalling. -/
def unmarshalling : Reader AVCastControlCommand := do
  let cmd ← take Token.asInt32
  let c ← ofOption (init.setCommand cmd)
  c.setParamFromParcel

/-- What the setter of a command makes of the parameter that is written for it: nothing, if it is
another alternative. -/
def setOwn : CastControlCmd → CastParam → Option AVCastControlCommand
  | .fastForward, .int32 v => c.setForwardTime v
  | .rewind, .int32 v => c.setRewindTime v
  | .seek, .int32 v => c.setSeekTime v
  | .setVolume, .int32 v => c.setVolume v
  | .setSpeed, .int32 v => c.setSpeed v
  | .setLoopMode, .int32 v => c.setLoopMode v
  | cmd, _ => if cmd.carriesParam then none else some c

/-- The command has been set, and its own setter accepts the parameter. -/
def Accepted : Prop :=
  ∃ cmd, c.cmd = some cmd ∧ (setOwn ⟨some cmd, .int32 0⟩ cmd c.param).isSome = true

/-- The same command, with the same parameter where it is written. -/
structure Same (c' : AVCastControlCommand) : Prop where
  cmd : c'.cmd = c.cmd
  param : ∀ cmd, c.cmd = some cmd → cmd.carriesParam = true → c'.param = c.param

variable {c} {c' : AVCastControlCommand} {cmd : CastControlCmd} {param : CastParam}

/-- A setter that succeeds sets the parameter. -/
theorem eq_of_setUnless {refused : Prop} [Decidable refused] {v : ℤ}
    (h : c.setUnless refused v = some c') : { c with param := .int32 v } = c' := by
  unfold setUnless at h
  split_ifs at h
  exact Option.some.inj h

/-- A setter changes nothing but the parameter. -/
theorem setOwn_eq_some (h : c.setOwn cmd param = some c') :
    c'.cmd = c.cmd ∧ (cmd.carriesParam = true → c'.param = param) := by
  unfold setOwn at h
  split at h
  case h_7 =>
    split_ifs at h with hcarries
    obtain rfl := Option.some.inj h
    exact ⟨rfl, fun hparam => absurd hparam hcarries⟩
  all_goals
    obtain rfl := eq_of_setUnless h
    simp

/-- A command is set from its own code. -/
theorem reads_setCommand (cmd : CastControlCmd) :
    Reads (ofOption (init.setCommand cmd.code)) [] ⟨some cmd, .int32 0⟩ := by
  intro rest
  cases cmd <;> rfl

/-- A parameter is answered as its setter answers. -/
theorem answers_readParam (set : ℤ → Option AVCastControlCommand) (v : ℤ) :
    Answers (readParam set) [.int32 v] (set v) :=
  Answers.bind (Reads.takeOr (f := Token.asInt32) rfl 0) (Answers.ofOption _)

/-- A parameter written as an integer is one. -/
theorem exists_int32 (h : ∀ b, .check b ∈ c.writeParam → b = true) : ∃ v, c.param = .int32 v := by
  obtain ⟨cmd, param⟩ := c
  cases param with
  | int32 v => exact ⟨v, rfl⟩
  | _ => exact absurd (h false List.mem_cons_self) Bool.false_ne_true

/-- What is read of a command that was written. -/
theorem answers_marshalling (hcmd : c.cmd = some cmd)
    (h : ∀ b, .check b ∈ c.marshallingParam → b = true) :
    Answers unmarshalling (records c.marshalling)
      (setOwn ⟨some cmd, .int32 0⟩ cmd c.param) := by
  obtain ⟨cmd', param⟩ := c
  obtain rfl : cmd' = some cmd := hcmd
  refine Answers.cons rfl (Answers.bind (reads_setCommand cmd) ?_)
  cases cmd with
  | fastForward | rewind | seek | setVolume | setSpeed | setLoopMode =>
      obtain ⟨v, rfl⟩ := exists_int32 h
      exact answers_readParam _ v
  | play | pause | stop | playNext | playPrevious | toggleFavorite | toggleMute
  | playStateChange => exact Answers.of_reads (Reads.pure _)

/-- **Commands to a cast device.** -/
theorem castControlCommand_roundTrips (p : Parcel) (c : AVCastControlCommand)
    (h : (p.run c.marshalling).2 = true) :
    RoundTrips p c.marshalling unmarshalling c.Accepted c.Same := by
  cases hcmd : c.cmd with
  | none =>
      obtain ⟨cmd', param⟩ := c
      obtain rfl : cmd' = none := hcmd
      refine RoundTrips.of_answers h (o := none) (fun _ => rfl) ?_ ?_
      · refine iff_of_false ?_ Bool.false_ne_true
        rintro ⟨cmd, ⟨⟩, -⟩
      · rintro c' ⟨⟩
  | some cmd =>
      have hchecks : ∀ b, .check b ∈ c.marshallingParam → b = true := by
        intro b hb
        exact Parcel.check_of_run h (List.mem_cons_of_mem _ hb)
      refine RoundTrips.of_answers h (answers_marshalling hcmd hchecks) ?_ ?_
      · constructor
        · rintro ⟨cmd', hset, haccepts⟩
          obtain rfl : cmd = cmd' := Option.some.inj (hcmd.symm.trans hset)
          exact haccepts
        · intro haccepts
          exact ⟨cmd, hcmd, haccepts⟩
      · intro c' hc'
        obtain ⟨hcmd', hparam⟩ := setOwn_eq_some hc'
        refine ⟨hcmd'.trans hcmd.symm, ?_⟩
        intro cmd₁ hcmd₁
        obtain rfl : cmd = cmd₁ := Option.some.inj (hcmd.symm.trans hcmd₁)
        exact hparam

end AVCastControlCommand

end cast

/-! ## Playback states -/

section state

/-- PLAYBACK_STATE_MAX. -/
def playbackStateMax : ℤ := 12

/-- A playback state whose extras are known by their records. -/
abbrev PlaybackState := AVPlaybackState (List UInt8)

namespace PlaybackState

variable (s : PlaybackState)

/-- `mask_.to_string()`. -/
def maskString : String := String.ofList (maskDigits PlaybackKey.all s.mask)

/-- Source: avplayback_state.cpp, AVPlaybackState::Marshalling. -/
def marshalling : List Put :=
  [.write (.string (maskString s)), .write (.int32 (s.val .state)),
    .write (.double (s.val .speed)), .write (.int64 (s.val .position).elapsedTime),
    .write (.int64 (s.val .position).updateTime), .write (.int64 (s.val .bufferedTime)),
    .write (.int32 (s.val .loopMode)), .write (.bool (s.val .isFavorite)),
    .write (.int32 (s.val .activeItemId)), .write (.int32 (s.val .volume)),
    .write (.int32 (s.val .maxVolume)), .write (.bool (s.val .muted)),
    .write (.int32 (s.val .duration)), .write (.int32 (s.val .videoWidth)),
    .write (.int32 (s.val .videoHeight)), .write (.blob (s.val .extras))]

/-- The state is one of the enumeration. -/
def stateLegal (state : ℤ) : Bool := decide (0 ≤ state ∧ state < playbackStateMax)

/-- Extras that cannot be read are null.
Source: avplayback_state.cpp, AVPlaybackState::Unmarshalling. -/
def unmarshalling : Reader PlaybackState := do
  let mask ← take Token.asString
  check (byteLength mask.toList = PlaybackKey.all.length)
  check (mask.toList.all fun c => c == '0' || c == '1')
  let state ← take Token.asInt32
  let speed ← take Token.asDouble
  let elapsedTime ← take Token.asInt64
  let updateTime ← take Token.asInt64
  let bufferedTime ← take Token.asInt64
  let loopMode ← take Token.asInt32
  let isFavorite ← take Token.asBool
  let activeItemId ← take Token.asInt32
  let volume ← take Token.asInt32
  let maxVolume ← take Token.asInt32
  let muted ← take Token.asBool
  let duration ← take Token.asInt32
  let videoWidth ← take Token.asInt32
  let videoHeight ← take Token.asInt32
  check (stateLegal state)
  let extras ← takeOr Token.asBlob none
  pure { mask := readDigits PlaybackKey.all mask.toList fun _ => false
         val := fun
           | .state => state
           | .speed => speed
           | .position => ⟨elapsedTime, updateTime⟩
           | .bufferedTime => bufferedTime
           | .loopMode => loopMode
           | .isFavorite => isFavorite
           | .activeItemId => activeItemId
           | .volume => volume
           | .maxVolume => maxVolume
           | .muted => muted
           | .duration => duration
           | .videoWidth => videoWidth
           | .videoHeight => videoHeight
           | .extras => extras }

/-- The mask is written digit by digit. -/
theorem maskString_toList : (maskString s).toList = maskDigits PlaybackKey.all s.mask :=
  String.toList_ofList

/-- A mask has zeros and ones only. -/
theorem all_maskDigits {κ : Type*} (keys : List κ) (mask : κ → Bool) :
    ((maskDigits keys mask).all fun c => c == '0' || c == '1') = true := by
  have hdigit : ∀ b, (digit b == '0' || digit b == '1') = true := by decide
  simp [maskDigits, hdigit]

/-- A written mask is read back. -/
theorem readDigits_maskString :
    readDigits PlaybackKey.all (maskString s).toList (fun _ => false) = s.mask := by
  rw [maskString_toList]
  exact readDigits_maskDigits_of_complete (by decide) PlaybackKey.mem_all s.mask

/-- What is read of a playback state that was written. -/
theorem answers_marshalling : Answers unmarshalling (records (marshalling s))
    (if stateLegal (s.val .state) then some s else none) := by
  unfold unmarshalling
  refine Answers.cons rfl ?_
  have hlen : byteLength (maskString s).toList = PlaybackKey.all.length := by
    rw [maskString_toList, byteLength_maskDigits]
  have hdigits : ((maskString s).toList.all fun c => c == '0' || c == '1') = true := by
    rw [maskString_toList]
    exact all_maskDigits _ _
  refine Answers.pass (decide_eq_true hlen) (Answers.pass hdigits ?_)
  iterate 14 refine Answers.cons rfl ?_
  refine Answers.check ?_
  refine Answers.bind (Reads.takeOr (f := Token.asBlob) rfl none) ?_
  refine Answers.of_reads ?_
  have hsame : ∀ r : PlaybackState, (∀ k, r.mask k = s.mask k) → (∀ k, r.val k = s.val k) →
      Reads (pure r) [] s := by
    intro r hmask hval
    obtain rfl : r = s := MaskedRecord.ext' hmask hval
    exact Reads.pure _
  apply hsame
  · intro k
    exact congrFun (readDigits_maskString s) k
  · intro k
    cases k <;> rfl

/-- **Playback states.** -/
theorem playbackState_roundTrips (p : Parcel) (h : (p.run (marshalling s)).2 = true) :
    RoundTrips p (marshalling s) unmarshalling
      (0 ≤ (s.val .state : ℤ) ∧ (s.val .state : ℤ) < playbackStateMax) fun s' => s' = s := by
  refine RoundTrips.of_answers h (answers_marshalling s) ?_ ?_
  · unfold stateLegal
    split_ifs with hlegal
    · exact iff_of_true (of_decide_eq_true hlegal) rfl
    · exact iff_of_false (fun hstate => hlegal (decide_eq_true hstate)) Bool.false_ne_true
  · intro s' hs'
    split_ifs at hs'
    exact (Option.some.inj hs').symm

end PlaybackState

end state

/-! ## The codecs -/

section codecs

/-- **The codecs of commands and playback states.** What was written comes back exactly if the
command has been set and its own setter accepts the parameter, or if the playback state is one of
the enumeration; and then it is the same. -/
theorem command_codecs (p : Parcel) :
    (∀ c : AVControlCommand, (p.run c.marshalling).2 = true →
      RoundTrips p c.marshalling AVControlCommand.unmarshalling c.Accepted c.Same) ∧
    (∀ c : AVCastControlCommand, (p.run c.marshalling).2 = true →
      RoundTrips p c.marshalling AVCastControlCommand.unmarshalling c.Accepted c.Same) ∧
    ∀ s : PlaybackState, (p.run (PlaybackState.marshalling s)).2 = true →
      RoundTrips p (PlaybackState.marshalling s) PlaybackState.unmarshalling
        (0 ≤ (s.val .state : ℤ) ∧ (s.val .state : ℤ) < playbackStateMax) fun s' => s' = s :=
  ⟨AVControlCommand.controlCommand_roundTrips p,
    AVCastControlCommand.castControlCommand_roundTrips p,
    fun s => PlaybackState.playbackState_roundTrips s p⟩

/-- A PLAY without a parameter comes back, with the empty one. -/
theorem play_roundTrips : RoundTrips ⟨[], fun _ _ => true⟩
    (AVControlCommand.mk (some .play) (.int32 0) ⟨"", "music", "", ""⟩).marshalling
    AVControlCommand.unmarshalling
    (AVControlCommand.mk (some .play) (.int32 0) ⟨"", "music", "", ""⟩).Accepted
    (AVControlCommand.mk (some .play) (.int32 0) ⟨"", "music", "", ""⟩).Same :=
  (command_codecs _).1 _ rfl

/-- A FAST_FORWARD with the parameter that `SetSeekTime(0)` has left. -/
def forwardByZero : AVControlCommand := ⟨some .fastForward, .int64 0, ⟨"", "", "", ""⟩⟩

/-- The command below can be built. -/
theorem forwardByZero_built : forwardByZero.Built := by
  refine .call (c := ⟨none, .int64 0, ⟨"", "", "", ""⟩⟩) ?_ (.command 5) rfl
  exact .call .init (.seekTime 0) rfl

/-- It is written, and refused by the reader. -/
theorem forwardByZero_refused : ¬ ∀ (p : Parcel) (c : AVControlCommand), c.Built →
    (p.run c.marshalling).2 = true →
      ∃ c', Answers AVControlCommand.unmarshalling (p.written c.marshalling) (some c') ∧
        c.Same c' := by
  intro hclaim
  obtain ⟨c', hread, -⟩ := hclaim ⟨[], fun _ _ => true⟩ forwardByZero forwardByZero_built rfl
  have hnone := hread []
  cases hnone

end codecs

end AvSession.Command
