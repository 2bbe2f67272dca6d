import AvSession.Migrate.Server
import AvSession.Remote.CastMap
import Mathlib.Data.List.TakeWhile

/-!
# The commands that are valid, across devices

A command goes to the other device as one character of a string. Two encoders write the string, for
a proxy that shows one session and for one that shows many, and each proxy has a decoder of its own.

* `CommandsObject` — the object that carries the string.
* `doValidCommandsObject`, `onValidCommandChanged` — the encoders.
* `processValidCommands`, `processValidCommandsForSuper` — the decoders.
* `decodeCommand_commandChar` — a command survives its character.
* `validCommands_iff` — when a proxy supports the commands that were sent.
-/

namespace AvSession.Migrate.ValidCommands

open AvSession.Remote (legalCmd)

/-! ## Encoders -/

section encoders

/-- The members of an object about commands. `validCommands` is `some none` if there is such a
member but it is no string. -/
structure CommandsObject where
  playerId : Option String
  mediaInfo : Option ℤ
  validCommands : Option (Option (List UInt8))
deriving DecidableEq

/-- SYNC_FOCUS_VALID_COMMANDS of migrate_avsession_constant.h. -/
def syncFocusValidCommands : ℤ := 9

/-- `commandsStr.c_str()`. -/
def validCommandsText (commands : List ℤ) : List UInt8 :=
  (MigrateAVSessionServer.commandsStr commands).takeWhile (· ≠ 0)

/-- The object of a message to a proxy with one session.
Source: migrate_avsession_server_for_next.cpp,
`MigrateAVSessionServer::DoValidCommandsSyncToRemote` -/
def doValidCommandsObject (commands : List ℤ) : CommandsObject :=
  ⟨none, none, some (some (validCommandsText commands))⟩

/-- With an object of a list, only the commands are added to it.
Source: migrate_avsession_server.cpp, `MigrateAVSessionServer::OnValidCommandChanged` -/
def onValidCommandChanged (playerId : String) (cmds : List ℤ) (metaObj : Option CommandsObject) :
    CommandsObject :=
  match metaObj with
  | none => ⟨some playerId, some syncFocusValidCommands, some (some (validCommandsText cmds))⟩
  | some value => { value with validCommands := some (some (validCommandsText cmds)) }

end encoders

/-! ## Decoders -/

section decoders

/-- Source: softbus_session_utils.h, `SoftbusSessionUtils::GetStringFromJson` -/
def CommandsObject.commandsStr (jsonValue : CommandsObject) : List UInt8 :=
  jsonValue.validCommands.join.getD []

/-- The bytes of DEFAULT_STRING of migrate_avsession_constant.h. -/
def defaultString : List UInt8 := "DEFAULT".toList.map fun c => UInt8.ofNat c.toNat

/-- `commandsStr[i] - '0'`. -/
def decodeCommand (c : UInt8) : ℤ := c.toNat - 48

/-- Each command is inserted at the front.
Source: migrate_avsession_proxy.cpp, `MigrateAVSessionProxy::ProcessValidCommands` -/
def decodeCommands (commandsStr : List UInt8) : List ℤ :=
  commandsStr.foldl (fun commands c => decodeCommand c :: commands) []

/-- What the remote session supports, if there is one.
Source: migrate_avsession_proxy.cpp, `MigrateAVSessionProxy::ProcessValidCommands` -/
def processValidCommands (remoteSession : Option (List ℤ)) (jsonValue : CommandsObject) :
    Option (List ℤ) :=
  remoteSession.map fun supportedCmd =>
    if jsonValue.validCommands.isSome then
      if jsonValue.commandsStr.isEmpty then decodeCommands defaultString
      else decodeCommands jsonValue.commandsStr
    else supportedCmd

/-- MAX_COMMANDS_STR_LENGTH of migrate_avsession_constant.h. -/
def maxCommandsStrLength : ℕ := 64

/-- The commands that are supported, player by player.
Source: migrate_avsession_proxy.h, `sessionStackForMigrateIn_` -/
abbrev Sessions := String → Option (List ℤ)

/-- Source: migrate_avsession_proxy_for_super.cpp,
`MigrateAVSessionProxy::ProcessValidCommandsForSuper` -/
def processValidCommandsForSuper (sessions : Sessions) (jsonValue : CommandsObject) :
    Sessions × RetCode :=
  let sessionId := jsonValue.playerId.getD ""
  if sessionId = "" ∨ sessions sessionId = none then (sessions, .error)
  else if jsonValue.commandsStr.isEmpty then (sessions, .error)
  else if maxCommandsStrLength < jsonValue.commandsStr.length then (sessions, .error)
  else
    let commands := (jsonValue.commandsStr.map decodeCommand).filter legalCmd
    if commands.isEmpty then (sessions, .error)
    else (Function.update sessions sessionId (some commands), .success)

end decoders

/-! ## What arrives -/

section arrives

variable {cmds prior : List ℤ} {c : ℤ}

/-- The legal commands are those from 0 to 17. -/
@[simp]
theorem legalCmd_iff : legalCmd c = true ↔ -1 < c ∧ c < 18 := decide_eq_true_iff

/-- A legal command is written as one character. -/
theorem toNat_commandChar (h : legalCmd c = true) :
    ((UInt8.ofInt (c + 48)).toNat : ℤ) = c + 48 := by
  have hbounds := legalCmd_iff.mp h
  unfold UInt8.ofInt
  rw [UInt8.toNat_ofNat']
  omega

/-- A command survives its character. -/
theorem decodeCommand_commandChar (h : legalCmd c = true) :
    decodeCommand (UInt8.ofInt (c + 48)) = c := by
  unfold decodeCommand
  rw [toNat_commandChar h]
  omega

/-- The text of legal commands has no NUL. -/
theorem validCommandsText_of_legal (h : ∀ c ∈ cmds, legalCmd c = true) :
    validCommandsText cmds = MigrateAVSessionServer.commandsStr cmds := by
  unfold validCommandsText MigrateAVSessionServer.commandsStr
  rw [List.takeWhile_eq_self_iff]
  intro b hb
  obtain ⟨c, hc, rfl⟩ := List.mem_map.mp hb
  have hbounds := legalCmd_iff.mp (h c hc)
  have hchar := toNat_commandChar (h c hc)
  refine decide_eq_true fun hzero => ?_
  rw [hzero] at hchar
  have hlt : (0 : ℤ) = c + 48 := hchar
  omega

/-- Legal commands are read back from their characters. -/
theorem map_decodeCommand (h : ∀ c ∈ cmds, legalCmd c = true) :
    (validCommandsText cmds).map decodeCommand = cmds := by
  rw [validCommandsText_of_legal h]
  unfold MigrateAVSessionServer.commandsStr
  rw [List.map_map]
  have hall : ∀ c ∈ cmds, (decodeCommand ∘ fun cmd => UInt8.ofInt (cmd + 48)) c = id c :=
    fun c hc => decodeCommand_commandChar (h c hc)
  rw [List.map_congr_left hall, List.map_id]

/-- The decoding loop reads them in reverse. -/
theorem decodeCommands_eq (commandsStr : List UInt8) :
    decodeCommands commandsStr = (commandsStr.map decodeCommand).reverse := by
  unfold decodeCommands
  rw [List.foldl_flip_cons_eq_append, List.append_nil]

/-- No text, no command. -/
theorem isEmpty_validCommandsText (h : ∀ c ∈ cmds, legalCmd c = true) :
    (validCommandsText cmds).isEmpty = cmds.isEmpty := by
  rw [validCommandsText_of_legal h]
  exact List.isEmpty_map

/-- One character for each command. -/
theorem length_validCommandsText (h : ∀ c ∈ cmds, legalCmd c = true) :
    (validCommandsText cmds).length = cmds.length := by
  rw [validCommandsText_of_legal h]
  exact List.length_map _

/-- A session supports these commands and no others. -/
def Supports (supported : Option (List ℤ)) (cmds : List ℤ) : Prop :=
  ∃ l, supported = some l ∧ ∀ c, c ∈ l ↔ c ∈ cmds

/-- A known list is supported when it has the same commands. -/
@[simp]
theorem supports_some : Supports (some prior) cmds ↔ ∀ c, c ∈ prior ↔ c ∈ cmds := by
  simp [Supports]

/-- The proxy with one session takes the placeholder of an empty list for commands. -/
theorem supports_processValidCommands_iff (h : ∀ c ∈ cmds, legalCmd c = true) (prior : List ℤ) :
    Supports (processValidCommands (some prior) (doValidCommandsObject cmds)) cmds ↔
      cmds ≠ [] := by
  have hprocess : processValidCommands (some prior) (doValidCommandsObject cmds) =
      some (if cmds.isEmpty then decodeCommands defaultString else cmds.reverse) := by
    show some (if (validCommandsText cmds).isEmpty then decodeCommands defaultString
      else decodeCommands (validCommandsText cmds)) = _
    rw [isEmpty_validCommandsText h, decodeCommands_eq (validCommandsText cmds),
      map_decodeCommand h]
  rw [hprocess, supports_some]
  cases cmds with
  | nil =>
      refine iff_of_false (fun hall => ?_) (fun hne => hne rfl)
      exact absurd ((hall 20).mp (by decide)) List.not_mem_nil
  | cons c cmds =>
      refine iff_of_true (fun c' => ?_) (List.cons_ne_nil c cmds)
      exact List.mem_reverse

/-- The proxy with many sessions leaves what was there if it refuses the text. -/
theorem supports_processValidCommandsForSuper_iff (h : ∀ c ∈ cmds, legalCmd c = true)
    {sessions : Sessions} {player : String} (hplayer : player ≠ "")
    (hprior : sessions player = some prior) {jsonValue : CommandsObject}
    (hid : jsonValue.playerId = some player)
    (htext : jsonValue.validCommands = some (some (validCommandsText cmds))) :
    Supports ((processValidCommandsForSuper sessions jsonValue).1 player) cmds ↔
      cmds ≠ [] ∧ cmds.length ≤ maxCommandsStrLength ∨ ∀ c, c ∈ prior ↔ c ∈ cmds := by
  have hstr : jsonValue.commandsStr = validCommandsText cmds := by
    unfold CommandsObject.commandsStr
    rw [htext]
    rfl
  have hfilter : cmds.filter legalCmd = cmds := List.filter_eq_self.mpr h
  unfold processValidCommandsForSuper
  simp only [hid, hstr, Option.getD_some, hplayer, hprior, reduceCtorEq, or_self, if_false,
    isEmpty_validCommandsText h, length_validCommandsText h, map_decodeCommand h, hfilter]
  by_cases hempty : cmds = []
  · subst hempty
    simp [hprior]
  · by_cases hlong : maxCommandsStrLength < cmds.length
    · simp [hempty, hlong, hprior, Nat.not_le.mpr hlong]
    · simp [hempty, hlong, Nat.not_lt.mp hlong]

/-- **The commands that arrive.** Of every list of legal commands: a proxy with one session supports
exactly these after the message, whatever it supported, unless the list is empty; and a proxy with
many supports exactly these for a known player if the list is neither empty nor longer than 64, and
otherwise if it did before. -/
theorem validCommands_iff (cmds prior : List ℤ) (h : ∀ c ∈ cmds, legalCmd c = true)
    (sessions : Sessions) (playerId player : String) (metaObj : Option CommandsObject)
    (hplayer : player ≠ "") (hprior : sessions player = some prior)
    (hid : (onValidCommandChanged playerId cmds metaObj).playerId = some player) :
    (Supports (processValidCommands (some prior) (doValidCommandsObject cmds)) cmds ↔
      cmds ≠ []) ∧
    (Supports ((processValidCommandsForSuper sessions
        (onValidCommandChanged playerId cmds metaObj)).1 player) cmds ↔
      cmds ≠ [] ∧ cmds.length ≤ maxCommandsStrLength ∨ ∀ c, c ∈ prior ↔ c ∈ cmds) := by
  refine ⟨supports_processValidCommands_iff h prior,
    supports_processValidCommandsForSuper_iff h hplayer hprior hid ?_⟩
  cases metaObj <;> rfl

/-- A proxy that knows one player, which supports `prior`. -/
def onePlayer (prior : List ℤ) : Sessions := fun id => if id = "1" then some prior else none

/-- Play and pause arrive. -/
theorem playPause_arrive :
    Supports (processValidCommands (some [3]) (doValidCommandsObject [0, 1])) [0, 1] ∧
      Supports ((processValidCommandsForSuper (onePlayer [3])
        (onValidCommandChanged "1" [0, 1] none)).1 "1") [0, 1] :=
  have hall : ∀ c ∈ [0, 1], legalCmd c = true := by decide
  have h := validCommands_iff [0, 1] [3] hall (onePlayer [3]) "1" "1" none (by decide) rfl rfl
  ⟨h.1.mpr (by decide), h.2.mpr (.inl (by decide))⟩

/-- After an empty list, one proxy supports the letters of the placeholder, and the other what it
supported before. -/
theorem noCommand_lost :
    ¬ Supports (processValidCommands (some []) (doValidCommandsObject [])) [] ∧
      ¬ Supports ((processValidCommandsForSuper (onePlayer [0])
        (onValidCommandChanged "1" [] none)).1 "1") [] := by
  constructor
  · rintro ⟨l, hl, hall⟩
    obtain rfl := Option.some.inj hl
    exact absurd ((hall 20).mp (by decide)) List.not_mem_nil
  · rintro ⟨l, hl, hall⟩
    obtain rfl := Option.some.inj hl
    exact absurd ((hall 0).mp (by decide)) List.not_mem_nil

end arrives

end AvSession.Migrate.ValidCommands
