import AvSession.Command.CommandLimit

/-!
# Which commands reach a callback

* `ownNotice`, `mirrored`, `told` — what a command is to a callback, said in one table: the call that
  belongs to the command, with the parameter of the command, first to the callback of a migration
  for some of the commands, and to the callback of the application.
* `notices_cmdHandlers` — the handlers call just that.
* `yields_ownNotice` — a command that was read from a parcel has a parameter for its handler.
* `act_of_read`, `act_of_not_read` — the request of a command that was written.
* `control_command_delivered` — from the client's object to the callbacks.
-/

namespace AvSession.Command

open AvSession.Lib AvSession.Lib.Quota

variable {W : Type*}

/-! ## The table of the calls -/

section table

/-- The call that belongs to a command. MEDIA_KEY_SUPPORT has none. -/
def ownNotice (c : AVControlCommand) : Option (Notice W) :=
  match c.cmd with
  | none | some .mediaKeySupport => none
  | some .play => some (.onPlay c)
  | some .pause => some .onPause
  | some .stop => some .onStop
  | some .playNext => some (.onPlayNext c)
  | some .playPrevious => some (.onPlayPrevious c)
  | some .fastForward => c.param.getInt64.map (.onFastForward · c)
  | some .rewind => c.param.getInt64.map (.onRewind · c)
  | some .seek => c.param.getInt64.map .onSeek
  | some .setSpeed => c.param.getDouble.map .onSetSpeed
  | some .setLoopMode => c.param.getInt32.map .onSetLoopMode
  | some .setTargetLoopMode => c.param.getInt32.map .onSetTargetLoopMode
  | some .toggleFavorite => c.param.getString.map .onToggleFavorite
  | some .playFromAssetId => c.param.getInt64.map .onPlayFromAssetId
  | some .playWithAssetId => (c.param.getString.filter (· ≠ "")).map .onPlayWithAssetId
  | some .avcallAnswer => some .onAVCallAnswer
  | some .avcallHangUp => some .onAVCallHangUp
  | some .avcallToggleCallMute => some .onAVCallToggleCallMute

/-- The commands of which the callback of a migration is told as well. -/
def mirrored : SessionCmd → Bool
  | .play | .pause | .playNext | .playPrevious | .seek | .setLoopMode | .toggleFavorite => true
  | _ => false

/-- A call of a callback. -/
def Effect.isNotice : Effect W → Bool
  | .app _ _ | .migrate _ _ => true
  | _ => false

namespace CommandSession

variable {i : CommandSession} {n : Notice W} {rest : List (Effect W)} {c : AVControlCommand}

/-- The callbacks that are told of a command. -/
def told (i : CommandSession) (code : SessionCmd) (n : Notice W) : List (Effect W) :=
  (if mirrored code then i.tellMigrate n else []) ++ i.tellApp n []

/-- Telling the migrate callback is all notices. -/
theorem notices_tellMigrate : (i.tellMigrate n).filter Effect.isNotice = i.tellMigrate n := by
  unfold tellMigrate
  cases i.callbackForMigrate <;> rfl

/-- Telling the application is all notices. -/
theorem notices_tellApp (h : rest.filter Effect.isNotice = []) :
    (i.tellApp n rest).filter Effect.isNotice = i.tellApp n [] := by
  unfold tellApp
  cases i.callback with
  | none => rfl
  | some r =>
      rw [List.filter_cons_of_pos rfl, h]

/-- Moving the session to the top is no notice. -/
theorem notices_updateTop : (i.updateTop c : List (Effect W)).filter Effect.isNotice = [] := by
  unfold updateTop
  cases c.getPlayParam with
  | none => rfl
  | some playParam =>
      simp only
      split_ifs <;> rfl

/-- Both callbacks, and what else a handler does. -/
theorem notices_both (h : rest.filter Effect.isNotice = []) :
    (i.tellMigrate n ++ i.tellApp n rest).filter Effect.isNotice =
      i.tellMigrate n ++ i.tellApp n [] := by
  rw [List.filter_append, notices_tellMigrate, notices_tellApp h]

/-- A command with a parameter is one notice, when the parameter is there. -/
theorem notices_tellParam {α : Type} (param : Option α) (n : α → Notice W) :
    (i.tellParam param n).filter Effect.isNotice =
      (param.map n).elim [] fun n => i.tellApp n [] := by
  cases param with
  | none => rfl
  | some v => exact notices_tellApp rfl

/-- The same where the migrate callback is told as well. -/
theorem notices_tellParamBoth {α : Type} (param : Option α) (n : α → Notice W) :
    (i.tellParamBoth param n).filter Effect.isNotice =
      (param.map n).elim [] fun n => i.tellMigrate n ++ i.tellApp n [] := by
  cases param with
  | none => rfl
  | some v => exact notices_both rfl

/-- **The handlers.** -/
theorem notices_cmdHandlers {code : SessionCmd} (h : c.cmd = some code) :
    (i.cmdHandlers c code : List (Effect W)).filter Effect.isNotice =
      (ownNotice c).elim [] (i.told code) := by
  unfold ownNotice told
  rw [h]
  cases code with
  | play => exact notices_both notices_updateTop
  | pause | playNext | playPrevious => exact notices_both rfl
  | stop | avcallAnswer | avcallHangUp | avcallToggleCallMute => exact notices_tellApp rfl
  | fastForward | rewind | setSpeed | setTargetLoopMode | playFromAssetId | playWithAssetId =>
      exact notices_tellParam _ _
  | seek | setLoopMode | toggleFavorite => exact notices_tellParamBoth _ _
  | mediaKeySupport => rfl

end CommandSession

end table

/-! ## Commands that were read -/

section read

namespace AVControlCommand

/-- The handler of the command has its parameter. -/
def Handled (c : AVControlCommand) : Prop :=
  ∃ code, c.cmd = some code ∧ (code ≠ .mediaKeySupport → (ownNotice (W := W) c).isSome = true)

variable {c c' : AVControlCommand} {cmd : SessionCmd} {param : Param}

/-- What the setter of a command accepts, its handler accepts. -/
theorem handled_of_setOwn (hcmd : c.cmd = some cmd) (h : c.setOwn cmd param = some c') :
    Handled (W := W) c' := by
  have hsame := (setOwn_eq_some h).1
  refine ⟨cmd, hsame.trans hcmd, ?_⟩
  intro hne
  unfold ownNotice
  rw [hsame, hcmd]
  unfold setOwn at h
  split at h
  case h_9 assetId =>
    obtain ⟨hnot, rfl⟩ := setUnless_eq_some_iff.mp h
    simp [Param.getString, hnot]
  case h_11 hcarries =>
    split_ifs at h with hparam
    obtain rfl := Option.some.inj h
    cases cmd <;> simp_all [SessionCmd.carriesParam]
  all_goals
    obtain ⟨-, rfl⟩ := setUnless_eq_some_iff.mp h
    rfl

/-- A computed command has the property its values have. -/
theorem yields_ofOption {o : Option AVControlCommand} {P : AVControlCommand → Prop}
    (h : ∀ c, o = some c → P c) : Yields (ofOption o) P := by
  intro ts c ts' hc
  obtain ⟨c', ho, heq⟩ := Option.map_eq_some_iff.mp hc
  obtain ⟨rfl, -⟩ := Prod.mk.inj heq
  exact h c' ho

/-- The caller is read before the parameter is set. -/
theorem yields_commonInfo {set : AVControlCommand → Option AVControlCommand}
    (param : Param) (hcmd : c.cmd = some cmd)
    (hset : ∀ c : AVControlCommand, c.cmd = some cmd → set c = c.setOwn cmd param) :
    Yields (do let c ← c.unmarshalCommonInfo; ofOption (set c)) (Handled (W := W)) := by
  refine Yields.bind (P := fun c => c.cmd = some cmd) ?_ ?_
  · exact Yields.skip fun commandInfo => Yields.pure hcmd
  · intro c' hcmd'
    rw [hset c' hcmd']
    exact yields_ofOption fun c'' h => handled_of_setOwn hcmd' h

/-- **What is read.** -/
theorem yields_handled : Yields unmarshalling (Handled (W := W)) := by
  refine Yields.skip fun v => Yields.bind (P := fun c => ∃ cmd, c.cmd = some cmd) ?_ ?_
  · refine yields_ofOption fun c hc => ?_
    unfold setCommand at hc
    split_ifs at hc with hv
    obtain rfl := Option.some.inj hc
    simp only [SessionCmd.invalid, SessionCmd.max, not_or, not_le] at hv
    have hlt : v.toNat < SessionCmd.all.length := by
      show v.toNat < 18
      omega
    exact ⟨_, List.getElem?_eq_getElem hlt⟩
  · rintro c ⟨cmd, hcmd⟩
    unfold setParamFromParcel
    rw [hcmd]
    have hown : ∀ param, Yields (ofOption (c.setOwn cmd param)) (Handled (W := W)) :=
      fun param => yields_ofOption fun c' h => handled_of_setOwn hcmd h
    have hplain : ∀ c' : AVControlCommand, c'.cmd = some cmd →
        c'.setOwn cmd (.bool true) = some c' → Yields (pure c') (Handled (W := W)) := by
      intro c' hcmd' hset
      exact Yields.pure (handled_of_setOwn hcmd' hset)
    cases cmd with
    | fastForward | rewind =>
        exact Yields.skip fun v => yields_commonInfo (.int64 v) hcmd fun _ _ => rfl
    | play => exact Yields.skip fun v => yields_commonInfo (.string v) hcmd fun _ _ => rfl
    | seek => exact Yields.skip fun v => hown (.int64 v)
    | playFromAssetId => exact Yields.skip fun v => hown (.int64 v)
    | setSpeed => exact Yields.skip fun v => hown (.double v)
    | setLoopMode => exact Yields.skip fun v => hown (.int32 v)
    | setTargetLoopMode => exact Yields.skip fun v => hown (.int32 v)
    | toggleFavorite => exact Yields.skip fun v => hown (.string v)
    | playWithAssetId => exact Yields.skip fun v => hown (.string v)
    | playNext | playPrevious =>
        exact Yields.skip fun info => hplain { c with commandInfo := info } hcmd rfl
    | pause | stop | avcallAnswer | avcallHangUp | avcallToggleCallMute | mediaKeySupport =>
        exact hplain c hcmd rfl

end AVControlCommand

end read

/-! ## From the client to the callbacks -/

section delivered

variable (z : Setting) (number : CommandSession.MediaKey → ℤ)

namespace CommandSession

variable {i : CommandSession} {cmd : AVControlCommand} {code : SessionCmd}

/-- Naming the caller leaves the command. -/
theorem cmd_withCaller (uid : Uid) : (i.withCaller z uid cmd).cmd = cmd.cmd := by
  unfold withCaller
  split_ifs <;> rfl

/-- The remote sink and the session let the command through to the callbacks. -/
structure Executes (i : CommandSession) (sinkOk : Bool) : Prop where
  sink : i.surroundings.hasRemoteSink = true → sinkOk = true
  active : i.isActive = true

/-- Without callbacks nobody is told. -/
theorem told_of_silent (h : i.callback = none ∧ i.callbackForMigrate = none) (n : Notice W) :
    i.told code n = [] := by
  unfold told tellMigrate tellApp
  rw [h.1, h.2]
  split_ifs <;> rfl

/-- An executed command tells exactly the callbacks of its own notice. -/
theorem notices_execute_of_executes {sinkOk : Bool} (hcmd : cmd.cmd = some code) (uid : Uid)
    (h : i.Executes sinkOk) :
    (i.executeControllerCommand z uid cmd sinkOk : List (Effect W)).filter Effect.isNotice =
      (ownNotice (i.withCaller z uid cmd)).elim [] (i.told code) := by
  have hsink : ¬ (i.surroundings.hasRemoteSink = true ∧ sinkOk = false) := by
    rintro ⟨hhas, hno⟩
    rw [h.sink hhas] at hno
    cases hno
  unfold executeControllerCommand
  rw [hcmd]
  simp only [hsink, if_false, h.active, Bool.true_eq_false]
  by_cases hsilent : i.callback = none ∧ i.callbackForMigrate = none
  · rw [if_pos hsilent]
    have hnone : ∀ o : Option (Notice W), o.elim [] (i.told code) = [] := by
      intro o
      cases o with
      | none => rfl
      | some n => exact told_of_silent hsilent n
    rw [hnone]
    split_ifs <;> rfl
  · rw [if_neg hsilent, List.filter_append,
      notices_cmdHandlers ((cmd_withCaller z uid).trans hcmd)]
    split_ifs <;> rfl

/-- A command that is not executed tells nobody. -/
theorem notices_execute_of_not {sinkOk : Bool} (uid : Uid) (h : ¬ i.Executes sinkOk) :
    (i.executeControllerCommand z uid cmd sinkOk : List (Effect W)).filter Effect.isNotice = [] := by
  unfold executeControllerCommand
  cases cmd.cmd with
  | none => rfl
  | some code =>
      have hsent : (if i.surroundings.hasRemoteSink then
          [Effect.setControlCommand (i.withCaller z uid cmd)] else [] :
            List (Effect W)).filter Effect.isNotice = [] := by
        split_ifs <;> rfl
      simp only
      by_cases hsink : i.surroundings.hasRemoteSink = true ∧ sinkOk = false
      · rw [if_pos hsink]
        exact hsent
      · rw [if_neg hsink]
        by_cases hactive : i.isActive = true
        · refine absurd ⟨?_, hactive⟩ h
          intro hhas
          by_contra hno
          exact hsink ⟨hhas, by simpa using hno⟩
        · rw [Bool.not_eq_true] at hactive
          rw [if_pos hactive, ite_self]
          exact hsent

end CommandSession

namespace World

variable {w : World W} {caller : Caller} {ctrl : ControllerRef} {cmd c : AVControlCommand}
  {sinkOk : Bool} {s : SessionRef} {p : Parcel}

/-- The calls of callbacks in a step. -/
def noticesIn (w : World W) (a : Act W) : List (SessionRef × Effect W) :=
  (w.done z number a).filter fun e => e.2.isNotice

/-- The controller has the session, the session supports the command, and the process may send
one more. -/
structure Passes (w : World W) (caller : Caller) (ctrl : ControllerRef) (cmd : AVControlCommand)
    (s : SessionRef) : Prop where
  session : w.sessionOf ctrl = some s
  supported : cmd.getCommand ∈ (w.sessions s).getSupportCommand
  lets : w.limit.lets z.commandSendNumMax caller.pid = true

/-- A command that passes is executed by the controller's session. -/
theorem sendControlCommand_of_passes (h : Passes z w caller ctrl cmd s) :
    w.sendControlCommand z caller ctrl cmd sinkOk =
      ((w.isCommandSendEnable z caller.pid).1.does s
        ((w.sessions s).executeControllerCommand z caller.uid cmd sinkOk), .success) := by
  have hsnd : (w.isCommandSendEnable z caller.pid).2 = true := h.lets
  unfold sendControlCommand
  rw [h.session]
  simp only [h.supported, not_true_eq_false, if_false, hsnd, if_true]

/-- A command that passes nowhere is answered with an error and logs nothing. -/
theorem sendControlCommand_of_not (h : ∀ s, ¬ Passes z w caller ctrl cmd s) :
    (w.sendControlCommand z caller ctrl cmd sinkOk).2 ≠ .success ∧
      (w.sendControlCommand z caller ctrl cmd sinkOk).1.log = w.log := by
  have hsnd : (w.isCommandSendEnable z caller.pid).2 =
    w.limit.lets z.commandSendNumMax caller.pid := rfl
  unfold sendControlCommand
  rcases hs : w.sessionOf ctrl with _ | s
  · exact ⟨by simp, rfl⟩
  · by_cases hcmd : cmd.getCommand ∈ (w.sessions s).getSupportCommand
    · by_cases hlets : w.limit.lets z.commandSendNumMax caller.pid = true
      · exact absurd ⟨hs, hcmd, hlets⟩ (h s)
      · simp only [hcmd, not_true_eq_false, if_false, hsnd, hlets, Bool.false_eq_true]
        exact ⟨by simp, rfl⟩
    · dsimp only
      rw [if_pos hcmd]
      exact ⟨by simp, rfl⟩

/-- What is done, if it is known what the log is behind the step. -/
theorem noticesIn_of_log {a : Act W} {es : List (Effect W)}
    (h : (w.act z number a).1.log = w.log ++ es.map (s, ·)) :
    w.noticesIn z number a = (es.filter Effect.isNotice).map (s, ·) := by
  unfold noticesIn done World.step
  rw [h, List.drop_left, List.filter_map]
  rfl

/-- A call without a log told nobody. -/
theorem noticesIn_of_silent {a : Act W} (h : (w.act z number a).1.log = w.log) :
    w.noticesIn z number a = [] := by
  have hnone : (w.act z number a).1.log = w.log ++ [].map (0, ·) :=
    h.trans (List.append_nil _).symm
  exact noticesIn_of_log z number hnone

/-- A command passes if another with the same code does. -/
theorem passes_iff_of_same (h : c.Same cmd) : Passes z w caller ctrl cmd s ↔
    Passes z w caller ctrl c s := by
  have hcode : cmd.getCommand = c.getCommand := by
    unfold AVControlCommand.getCommand
    rw [h.cmd]
  constructor
  · intro hp
    exact ⟨hp.session, hcode ▸ hp.supported, hp.lets⟩
  · intro hp
    exact ⟨hp.session, hcode ▸ hp.supported, hp.lets⟩

/-- The request whose command the reader accepts. -/
theorem act_of_read {data rest : List Token}
    (h : AVControlCommand.unmarshalling data = some (cmd, rest)) :
    w.act z number (.sendControlCommand caller ctrl data sinkOk) =
      w.sendControlCommand z caller ctrl cmd sinkOk := by
  show w.handleSendControlCommand z caller ctrl data sinkOk = _
  unfold handleSendControlCommand
  rw [h]

/-- The request whose command the reader does not accept. -/
theorem act_of_not_read {data : List Token} (h : AVControlCommand.unmarshalling data = none) :
    w.act z number (.sendControlCommand caller ctrl data sinkOk) = (w, .errUnmarshalling) := by
  show w.handleSendControlCommand z caller ctrl data sinkOk = _
  unfold handleSendControlCommand
  rw [h]

/-- SUCCESS is answered exactly if the command passes. -/
theorem sendControlCommand_success_iff :
    (w.sendControlCommand z caller ctrl cmd sinkOk).2 = .success ↔
      ∃ s, Passes z w caller ctrl cmd s := by
  constructor
  · intro hans
    by_contra hno
    exact (sendControlCommand_of_not z fun s hs => hno ⟨s, hs⟩).1 hans
  · rintro ⟨s, hs⟩
    rw [sendControlCommand_of_passes z hs]

/-- The calls of a command that passes are those of the session that executes it. -/
theorem noticesIn_of_passes {data rest : List Token}
    (hread : AVControlCommand.unmarshalling data = some (cmd, rest))
    (h : Passes z w caller ctrl cmd s) :
    w.noticesIn z number (.sendControlCommand caller ctrl data sinkOk) =
      (((w.sessions s).executeControllerCommand z caller.uid cmd sinkOk : List (Effect W)).filter
        Effect.isNotice).map (s, ·) := by
  apply noticesIn_of_log
  rw [act_of_read z number hread, sendControlCommand_of_passes z h]
  rfl

/-- A command that does not pass is told to nobody. -/
theorem noticesIn_of_not_passes {data rest : List Token}
    (hread : AVControlCommand.unmarshalling data = some (cmd, rest))
    (h : ∀ s, ¬ Passes z w caller ctrl cmd s) :
    w.noticesIn z number (.sendControlCommand caller ctrl data sinkOk) = [] := by
  apply noticesIn_of_silent
  rw [act_of_read z number hread]
  exact (sendControlCommand_of_not z h).2

/-- A command that was read has a call, MEDIA_KEY_SUPPORT apart. -/
theorem ownNotice_of_read {data rest : List Token} {code : SessionCmd}
    (hread : AVControlCommand.unmarshalling data = some (cmd, rest)) (hcmd : cmd.cmd = some code)
    (hne : code ≠ .mediaKeySupport) : (ownNotice (W := W) cmd).isSome = true := by
  obtain ⟨code', hcmd', hsome⟩ := AVControlCommand.yields_handled (W := W) _ _ _ hread
  have heq : code' = code := Option.some.inj (hcmd'.symm.trans hcmd)
  exact hsome (heq ▸ hne)

/-- **Control commands.** A client has built a command and written it. It is answered SUCCESS exactly
if it was accepted by the reader, the controller has a session that supports it, and the process may
send one more. If moreover the session executes it, the callback of the application is told of the
same command once, by the call that belongs to it and with the parameter that the client set, and
before it the callback of a migration if the command is one of those that are mirrored; the only
command without a call is MEDIA_KEY_SUPPORT. In all other cases no callback is called. -/
theorem control_command_delivered (w : World W) (caller : Caller) (ctrl : ControllerRef)
    (sinkOk : Bool) (p : Parcel) (c : AVControlCommand) (rest : List Token)
    (hwritten : (p.run c.marshalling).2 = true) :
    let a : Act W := .sendControlCommand caller ctrl (p.written c.marshalling ++ rest) sinkOk
    ((w.act z number a).2 = .success ↔ c.Accepted ∧ ∃ s, Passes z w caller ctrl c s) ∧
    (∀ s, c.Accepted → Passes z w caller ctrl c s → (w.sessions s).Executes sinkOk →
      ∃ c' code, c.Same c' ∧ c.cmd = some code ∧
        w.noticesIn z number a = ((ownNotice ((w.sessions s).withCaller z caller.uid c')).elim []
          ((w.sessions s).told code)).map (s, ·) ∧
        (code ≠ .mediaKeySupport → (ownNotice (W := W) c').isSome = true)) ∧
    ((c.Accepted → ∀ s, Passes z w caller ctrl c s → ¬ (w.sessions s).Executes sinkOk) →
      w.noticesIn z number a = []) := by
  intro a
  obtain ⟨haccepted, hrefused⟩ := AVControlCommand.controlCommand_roundTrips p c hwritten
  by_cases hacc : c.Accepted
  · obtain ⟨c', hread, hsame⟩ := haccepted hacc
    have hpasses : ∀ s, Passes z w caller ctrl c' s ↔ Passes z w caller ctrl c s :=
      fun s => passes_iff_of_same z hsame
    obtain ⟨code, hcmd, -⟩ := id hacc
    refine ⟨?_, ?_, ?_⟩
    · rw [act_of_read z number (hread rest), sendControlCommand_success_iff,
        exists_congr hpasses, and_iff_right hacc]
    · intro s _ hs hexec
      refine ⟨c', code, hsame, hcmd, ?_, ?_⟩
      · rw [noticesIn_of_passes z number (hread rest) ((hpasses s).mpr hs),
          CommandSession.notices_execute_of_executes z (hsame.cmd.trans hcmd) caller.uid hexec]
      · exact ownNotice_of_read (hread rest) (hsame.cmd.trans hcmd)
    · intro hno
      by_cases hs : ∃ s, Passes z w caller ctrl c' s
      · obtain ⟨s, hs⟩ := hs
        rw [noticesIn_of_passes z number (hread rest) hs,
          CommandSession.notices_execute_of_not z caller.uid (hno hacc s ((hpasses s).mp hs))]
        rfl
      · exact noticesIn_of_not_passes z number (hread rest) fun s h => hs ⟨s, h⟩
  · have hact : w.act z number (.sendControlCommand caller ctrl _ sinkOk) =
        (w, .errUnmarshalling) := act_of_not_read z number (hrefused hacc rest)
    refine ⟨?_, fun s h => absurd h hacc, ?_⟩
    · rw [hact]
      refine iff_of_false Answer.noConfusion ?_
      rintro ⟨h, -⟩
      exact hacc h
    · intro _
      apply noticesIn_of_silent
      rw [hact]

/-- A session that supports SEEK and listens, and its controller. -/
def seekWorld : World Unit where
  limit := ⟨true, fun _ => 9⟩
  sessions := fun _ => { idleSession with
    supportedCmd := [7], isActive := true, callback := some 5, callbackForMigrate := some 6 }
  controllers := fun _ => some ⟨7, some 0, false⟩
  log := []

/-- The tenth command is a SEEK. -/
theorem control_command_delivered_seek : (seekWorld.act plainSetting (fun _ => 0)
    (.sendControlCommand ⟨7, 20⟩ 0 (Parcel.written ⟨[], fun _ _ => true⟩
      (AVControlCommand.mk (some .seek) (.int64 30) ⟨"", "", "", ""⟩).marshalling ++ []) false)).2 =
    .success :=
  (control_command_delivered plainSetting (fun _ => 0) seekWorld ⟨7, 20⟩ 0 false
    ⟨[], fun _ _ => true⟩ ⟨some .seek, .int64 30, ⟨"", "", "", ""⟩⟩ [] rfl).1.mpr
    ⟨⟨.seek, rfl, rfl⟩, 0, ⟨rfl, by decide, rfl⟩⟩

end World

end delivered

end AvSession.Command
