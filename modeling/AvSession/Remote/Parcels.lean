import AvSession.Common.Codes
import AvSession.Lib.Parcel
import AvSession.Meta.PlaybackState

/-!
# Playback states and commands in a parcel

* `AVPlaybackState.marshalling`, `AVPlaybackState.unmarshalling` — the fourteen members in a fixed
  order, after the mask. `unmarshalling_tokens` is the round trip of a state in range.
* `AVControlCommand` — a command with its parameter and its caller; what travels of it depends on
  the command. `unmarshalling_bodyTokens` is the round trip of a command that came from a parcel.
-/

namespace AvSession.Remote

open AvSession.Common.Codes AvSession.Lib AvSession.Meta

variable {ω : Type}

/-! ## Playback states -/

section playback

/-- How the member behind a key travels, where it is one record. -/
structure PlaybackCodec (ω : Type) where
  key : PlaybackKey
  put : key.Field ω → Token
  take : Token → Option (key.Field ω)
  take_put : ∀ v, take (put v) = some v

/-- As a field of the state: the reader assigns it without its bit. -/
def PlaybackCodec.field (c : PlaybackCodec ω) : FieldCodec (AVPlaybackState ω) where
  put s := c.put (s.val c.key)
  take t s := (c.take t).map (s.setVal c.key)
  copy s s' := s'.setVal c.key (s.val c.key)
  take_put s s' := by rw [c.take_put, Option.map_some]

/-- The position is two records. -/
def positionFields : List (FieldCodec (AVPlaybackState ω)) :=
  [{ put := fun s => .int64 (s.val .position).elapsedTime
     take := fun t s => t.asInt64.map fun v =>
       s.setVal .position { s.val .position with elapsedTime := v }
     copy := fun s s' =>
       s'.setVal .position { s'.val .position with elapsedTime := (s.val .position).elapsedTime }
     take_put := fun _ _ => rfl },
    { put := fun s => .int64 (s.val .position).updateTime
      take := fun t s => t.asInt64.map fun v =>
        s.setVal .position { s.val .position with updateTime := v }
      copy := fun s s' =>
        s'.setVal .position { s'.val .position with updateTime := (s.val .position).updateTime }
      take_put := fun _ _ => rfl }]

/-- The members between the mask and the extras. -/
def playbackFields : List (FieldCodec (AVPlaybackState ω)) :=
  [PlaybackCodec.field ⟨.state, .int32, Token.asInt32, fun _ => rfl⟩,
    PlaybackCodec.field ⟨.speed, .double, Token.asDouble, fun _ => rfl⟩] ++
  positionFields ++
  [PlaybackCodec.field ⟨.bufferedTime, .int64, Token.asInt64, fun _ => rfl⟩,
    PlaybackCodec.field ⟨.loopMode, .int32, Token.asInt32, fun _ => rfl⟩,
    PlaybackCodec.field ⟨.isFavorite, .bool, Token.asBool, fun _ => rfl⟩,
    PlaybackCodec.field ⟨.activeItemId, .int32, Token.asInt32, fun _ => rfl⟩,
    PlaybackCodec.field ⟨.volume, .int32, Token.asInt32, fun _ => rfl⟩,
    PlaybackCodec.field ⟨.maxVolume, .int32, Token.asInt32, fun _ => rfl⟩,
    PlaybackCodec.field ⟨.muted, .bool, Token.asBool, fun _ => rfl⟩,
    PlaybackCodec.field ⟨.duration, .int32, Token.asInt32, fun _ => rfl⟩,
    PlaybackCodec.field ⟨.videoWidth, .int32, Token.asInt32, fun _ => rfl⟩,
    PlaybackCodec.field ⟨.videoHeight, .int32, Token.asInt32, fun _ => rfl⟩]

/-- Source: avplayback_state.h -/
def PLAYBACK_STATE_MAX : ℤ := 12

/-- How extras travel, as bytes.
Source: want_params.h of the ability runtime -/
structure WantParamsFormat (ω : Type) where
  write : ω → List UInt8
  read : List UInt8 → Option ω

namespace AVPlaybackState

variable (f : WantParamsFormat ω) (s : AVPlaybackState ω)

/-- The records of a state. -/
def tokens : List Token :=
  .string (String.ofList (maskDigits PlaybackKey.all s.mask)) ::
    (writeFields playbackFields s ++ [.blob ((s.val .extras).map f.write)])

/-- Source: avplayback_state.cpp, AVPlaybackState::Marshalling. -/
def marshalling (p : Parcel) : Parcel × Bool := p.writeAll (tokens f s)

/-- The mask has a digit for each key. Extras that cannot be read are null.
Source: avplayback_state.cpp, AVPlaybackState::Unmarshalling. -/
def unmarshalling (ts : List Token) : Option (AVPlaybackState ω) :=
  let mask := read Token.asString ts
  let digits := (mask.1.getD "").toList
  if byteLength digits ≠ PlaybackKey.all.length ∨ digits.any (fun c => c ≠ '0' ∧ c ≠ '1') then none
  else
    let start : AVPlaybackState ω :=
      { AVPlaybackState.init with mask := readDigits PlaybackKey.all digits fun _ => false }
    let fields := readFields playbackFields start mask.2
    if !fields.2 then none
    else if fields.1.1.val .state < 0 ∨ PLAYBACK_STATE_MAX ≤ fields.1.1.val .state then none
    else
      let extras := (read Token.asBlob fields.1.2).1.join.bind f.read
      some (fields.1.1.setVal .extras extras)

/-- The members of a state are copied one by one. -/
theorem foldl_copy_playbackFields (start : AVPlaybackState ω)
    (hextras : start.val .extras = s.val .extras) :
    (playbackFields.foldl (fun acc c => c.copy s acc) start) = { s with mask := start.mask } := by
  refine MaskedRecord.ext' (fun k => rfl) fun k => ?_
  cases k <;> first | rfl | exact hextras

/-- A written mask passes the reader's check. -/
theorem digits_of_mask (mask : PlaybackKey → Bool) :
    ((maskDigits PlaybackKey.all mask).any fun c => c ≠ '0' ∧ c ≠ '1') = false := by
  refine List.any_eq_false.mpr fun c hc => ?_
  unfold maskDigits at hc
  obtain ⟨k, -, rfl⟩ := List.mem_map.mp (List.mem_reverse.mp hc)
  unfold digit
  cases mask k <;> decide

/-- **Round trip.** A state in range that has no extras is read back. -/
theorem unmarshalling_tokens (hstate : 0 ≤ s.val .state ∧ s.val .state < PLAYBACK_STATE_MAX)
    (hextras : s.val .extras = none) : unmarshalling f (tokens f s) = some s := by
  have hlength : byteLength (maskDigits PlaybackKey.all s.mask) = PlaybackKey.all.length :=
    byteLength_maskDigits _ _
  have hmask : readDigits PlaybackKey.all (maskDigits PlaybackKey.all s.mask) (fun _ => false) =
      s.mask := readDigits_maskDigits_of_complete (by decide) PlaybackKey.mem_all s.mask
  unfold unmarshalling tokens
  simp only [read_string, Option.getD_some, String.toList_ofList, hlength, digits_of_mask, hmask]
  rw [if_neg (by simp), readFields_writeFields, foldl_copy_playbackFields s _ hextras.symm]
  dsimp only
  have hrange : ¬ (s.val .state < 0 ∨ PLAYBACK_STATE_MAX ≤ s.val .state) :=
    not_or.mpr ⟨Int.not_lt.mpr hstate.1, Int.not_le.mpr hstate.2⟩
  rw [Bool.not_true, if_neg Bool.false_ne_true, if_neg hrange, hextras]
  refine congrArg some (MaskedRecord.ext' (fun k => rfl) fun k => ?_)
  cases k <;> first | rfl | exact hextras.symm

end AVPlaybackState

end playback

/-! ## Commands -/

section commands

/-- `std::variant<int32_t, double, int64_t, bool, std::string>`. -/
inductive Param
  | int32 (v : ℤ)
  | double (v : BitVec 64)
  | int64 (v : ℤ)
  | bool (v : Bool)
  | string (v : String)
deriving DecidableEq

/-- Source: command_info.h, CommandInfo. -/
structure CommandInfo where
  callerDeviceId : String
  callerBundleName : String
  callerModuleName : String
  callerType : String
deriving DecidableEq

/-- Nobody. -/
def CommandInfo.empty : CommandInfo := ⟨"", "", "", ""⟩

/-- Source: avcontrol_command.h, AVControlCommand. -/
structure AVControlCommand where
  cmd : ℤ
  param : Param
  commandInfo : CommandInfo
deriving DecidableEq

namespace AVControlCommand

variable (c : AVControlCommand)

/-! ### Writing -/

/-- Source: command_info.cpp, CommandInfo::Marshalling. -/
def infoTokens : List Token :=
  [.string c.commandInfo.callerDeviceId, .string c.commandInfo.callerBundleName,
    .string c.commandInfo.callerModuleName, .string c.commandInfo.callerType]

/-- The parameter as an `int64_t`, unless it is of another type. -/
def int64Tokens : Option (List Token) :=
  match c.param with
  | .int64 v => some [.int64 v]
  | _ => none

/-- The parameter as a `double`, unless it is of another type. -/
def doubleTokens : Option (List Token) :=
  match c.param with
  | .double v => some [.double v]
  | _ => none

/-- The parameter as an `int32_t`, unless it is of another type. -/
def int32Tokens : Option (List Token) :=
  match c.param with
  | .int32 v => some [.int32 v]
  | _ => none

/-- The parameter as a string, unless it is of another type. -/
def stringTokens : Option (List Token) :=
  match c.param with
  | .string v => some [.string v]
  | _ => none

/-- What is written after the command, if the parameter is of its type. -/
def bodyTokens : Option (List Token) :=
  if c.cmd = SESSION_CMD_FAST_FORWARD ∨ c.cmd = SESSION_CMD_REWIND then
    c.int64Tokens.map (· ++ c.infoTokens)
  else if c.cmd = SESSION_CMD_SEEK ∨ c.cmd = SESSION_CMD_PLAY_FROM_ASSETID then c.int64Tokens
  else if c.cmd = SESSION_CMD_SET_SPEED then c.doubleTokens
  else if c.cmd = SESSION_CMD_SET_LOOP_MODE ∨ c.cmd = SESSION_CMD_SET_TARGET_LOOP_MODE then
    c.int32Tokens
  else if c.cmd = SESSION_CMD_TOGGLE_FAVORITE ∨ c.cmd = SESSION_CMD_PLAY_WITH_ASSETID then
    c.stringTokens
  else if c.cmd = SESSION_CMD_PLAY then
    some (c.stringTokens.getD [.string ""] ++ c.infoTokens)
  else if c.cmd = SESSION_CMD_PLAY_NEXT ∨ c.cmd = SESSION_CMD_PLAY_PREVIOUS then some c.infoTokens
  else some []

/-- Source: avcontrol_command.cpp, AVControlCommand::Marshalling. -/
def marshalling (p : Parcel) : Parcel × Bool :=
  match c.bodyTokens with
  | some tokens => p.writeAll (.int32 c.cmd :: tokens)
  | none => ((p.write (.int32 c.cmd)).1, false)

/-! ### Reading -/

/-- The setters that refuse a value. `speed <= 0` and `isfinite` are read off the bits.
Source: avcontrol_command.cpp, AVControlCommand::SetSpeed. -/
def validSpeed (speed : BitVec 64) : Bool :=
  speed.extractLsb' 52 11 != BitVec.allOnes 11 && !speed.msb && speed != 0

/-- A record that is not there leaves the variable as it was.
Source: command_info.cpp, CommandInfo::Unmarshalling. -/
def readInfo (ts : List Token) : CommandInfo :=
  let device := read Token.asString ts
  let bundle := read Token.asString device.2
  let modName := read Token.asString bundle.2
  let type := read Token.asString modName.2
  ⟨device.1.getD "", bundle.1.getD "", modName.1.getD "", type.1.getD ""⟩

/-- The command with another parameter, if a setter takes it. -/
def withParam (valid : Bool) (param : Param) : Option AVControlCommand :=
  if valid then some { c with param } else none

/-- The command with a caller. -/
def withInfo (ts : List Token) : AVControlCommand := { c with commandInfo := readInfo ts }

/-- Source: avcontrol_command.cpp, AVControlCommand::SetParamFromParcel. -/
def setParamFromParcel (ts : List Token) : Option AVControlCommand :=
  let time := read Token.asInt64 ts
  let speed := (read Token.asDouble ts).1.getD 0
  let mode := (read Token.asInt32 ts).1.getD 0
  let str := read Token.asString ts
  if c.cmd = SESSION_CMD_FAST_FORWARD then
    (c.withInfo time.2).withParam (0 < time.1.getD 0) (.int64 (time.1.getD 0))
  else if c.cmd = SESSION_CMD_REWIND then
    (c.withInfo time.2).withParam (0 ≤ time.1.getD 0) (.int64 (time.1.getD 0))
  else if c.cmd = SESSION_CMD_SEEK then
    c.withParam (0 ≤ time.1.getD 0) (.int64 (time.1.getD 0))
  else if c.cmd = SESSION_CMD_SET_SPEED then c.withParam (validSpeed speed) (.double speed)
  else if c.cmd = SESSION_CMD_SET_LOOP_MODE ∨ c.cmd = SESSION_CMD_SET_TARGET_LOOP_MODE then
    c.withParam (LOOP_MODE_UNDEFINED ≤ mode ∧ mode ≤ LOOP_MODE_CUSTOM) (.int32 mode)
  else if c.cmd = SESSION_CMD_TOGGLE_FAVORITE ∨ c.cmd = SESSION_CMD_PLAY_WITH_ASSETID then
    c.withParam (str.1.getD "" ≠ "") (.string (str.1.getD ""))
  else if c.cmd = SESSION_CMD_PLAY_FROM_ASSETID then
    c.withParam true (.int64 (time.1.getD 0))
  else if c.cmd = SESSION_CMD_PLAY then
    (c.withInfo str.2).withParam true (.string (str.1.getD ""))
  else if c.cmd = SESSION_CMD_PLAY_NEXT ∨ c.cmd = SESSION_CMD_PLAY_PREVIOUS then
    some (c.withInfo ts)
  else some c

/-- Source: avcontrol_command.cpp, AVControlCommand::Unmarshalling. -/
def unmarshalling (ts : List Token) : Option AVControlCommand :=
  match read Token.asInt32 ts with
  | (some cmd, ts') =>
      if cmd ≤ SESSION_CMD_INVALID ∨ SESSION_CMD_MAX ≤ cmd then none
      else setParamFromParcel ⟨cmd, .int32 0, .empty⟩ ts'
  | (none, _) => none

/-! ### The round trip -/

variable {c}

/-- A parameter that is taken was valid. -/
theorem eq_of_withParam {c c' : AVControlCommand} {valid : Bool} {param : Param}
    (h : c.withParam valid param = some c') : valid = true ∧ c' = { c with param } := by
  unfold withParam at h
  split_ifs at h with hvalid
  exact ⟨hvalid, (Option.some.inj h).symm⟩

/-- What a parcel has set is written as it was read. -/
theorem bodyTokens_of_setParamFromParcel {cmd : ℤ} {ts : List Token}
    (h : setParamFromParcel ⟨cmd, .int32 0, .empty⟩ ts = some c) :
    c.cmd = cmd ∧ ∃ us, c.bodyTokens = some us ∧
      setParamFromParcel ⟨cmd, .int32 0, .empty⟩ us = some c := by
  unfold setParamFromParcel at h
  dsimp only at h
  split_ifs at h with h1 h2 h3 h4 h5 h6 h7 h8 h9
  · obtain ⟨hvalid, rfl⟩ := eq_of_withParam h
    subst h1
    refine ⟨rfl, _, rfl, ?_⟩
    unfold setParamFromParcel
    rw [if_pos rfl]
    exact if_pos hvalid
  · obtain ⟨hvalid, rfl⟩ := eq_of_withParam h
    subst h2
    exact ⟨rfl, _, rfl, if_pos hvalid⟩
  · obtain ⟨hvalid, rfl⟩ := eq_of_withParam h
    subst h3
    exact ⟨rfl, _, rfl, if_pos hvalid⟩
  · obtain ⟨hvalid, rfl⟩ := eq_of_withParam h
    subst h4
    exact ⟨rfl, _, rfl, if_pos hvalid⟩
  · obtain ⟨hvalid, rfl⟩ := eq_of_withParam h
    rcases h5 with rfl | rfl <;> exact ⟨rfl, _, rfl, if_pos hvalid⟩
  · obtain ⟨hvalid, rfl⟩ := eq_of_withParam h
    rcases h6 with rfl | rfl <;> exact ⟨rfl, _, rfl, if_pos hvalid⟩
  · obtain ⟨hvalid, rfl⟩ := eq_of_withParam h
    subst h7
    exact ⟨rfl, _, rfl, rfl⟩
  · obtain ⟨hvalid, rfl⟩ := eq_of_withParam h
    subst h8
    exact ⟨rfl, _, rfl, rfl⟩
  · obtain rfl := Option.some.inj h
    rcases h9 with rfl | rfl <;> exact ⟨rfl, _, rfl, rfl⟩
  · obtain rfl := Option.some.inj h
    refine ⟨rfl, [], ?_, ?_⟩
    · unfold bodyTokens
      simp only [h1, h2, h3, h4, h5, h6, h7, h8, h9, or_self, if_false]
    · unfold setParamFromParcel
      simp only [h1, h2, h3, h4, h5, h6, h7, h8, h9, if_false]

/-- **Round trip.** A command that was read from a parcel is written to one and read back. -/
theorem unmarshalling_bodyTokens {ts : List Token} (h : unmarshalling ts = some c) :
    ∃ us, c.bodyTokens = some us ∧ unmarshalling (.int32 c.cmd :: us) = some c := by
  unfold unmarshalling at h
  split at h
  case h_1 cmd ts' hread =>
    split_ifs at h with hrange
    obtain ⟨rfl, us, hus, hback⟩ := bodyTokens_of_setParamFromParcel h
    refine ⟨us, hus, ?_⟩
    unfold unmarshalling
    rw [read_int32]
    exact (if_neg hrange).trans hback
  case h_2 => cases h
end AVControlCommand

end commands

end AvSession.Remote
