import Mathlib.Data.List.Nodup
import AvSession.Command.Delivered

/-!
# Which sessions are reached

* `Executed`, `log_step` — what a step adds to the log: a command is executed by the session it was
  sent to, or a session of a controller does something else.
* `AttachedInv` — the controllers that a session knows are the ones whose session it is.
* `destroyed_unreached` — no controller reaches a session that has been destroyed.
* `empty_handler_iff`, `no_empty_handler` — when the handler that is missing is called.
-/

namespace AvSession.Command

open AvSession.Lib AvSession.Lib.Quota

variable {W : Type*} (z : Setting) (number : CommandSession.MediaKey → ℤ)

/-! ## What a step adds to the log -/

section log

/-- The controller of a request. -/
def Act.controller : Act W → Option ControllerRef
  | .sendControlCommand _ c _ _ | .sendCommonCommand _ c _ _ _ | .getExtras _ c
  | .sendCustomData c _ _ | .skipToQueueItem c _ | .sendAVKeyEvent c _ => some c
  | _ => none

namespace CommandSession

variable {i : CommandSession} {n : Notice W} {rest es : List (Effect W)} {cmd : AVControlCommand}

/-- The missing handler is not called. -/
def HasHandlers (es : List (Effect W)) : Prop := Effect.emptyHandler ∉ es

/-- No effect, no missing handler. -/
theorem hasHandlers_nil : HasHandlers ([] : List (Effect W)) := List.not_mem_nil

/-- Effects that need no missing handler may be put after one another. -/
theorem HasHandlers.append (h : HasHandlers es) (h' : HasHandlers rest) :
    HasHandlers (es ++ rest) := by
  intro hmem
  rcases List.mem_append.mp hmem with hmem | hmem
  · exact h hmem
  · exact h' hmem

/-- The migrate callback is told only when it is there. -/
theorem hasHandlers_tellMigrate : HasHandlers (i.tellMigrate n) := by
  unfold HasHandlers tellMigrate
  cases i.callbackForMigrate <;> simp

/-- The application's callback is told only when it is there. -/
theorem hasHandlers_tellApp (h : HasHandlers rest) : HasHandlers (i.tellApp n rest) := by
  unfold HasHandlers tellApp at *
  cases i.callback with
  | none => exact List.not_mem_nil
  | some r => simpa using h

/-- Moving the session to the top needs no handler. -/
theorem hasHandlers_updateTop : HasHandlers (i.updateTop cmd : List (Effect W)) := by
  unfold HasHandlers updateTop
  cases cmd.getPlayParam with
  | none => exact List.not_mem_nil
  | some playParam =>
      simp only
      split_ifs <;> simp

/-- A command with a parameter tells only the callback that is there. -/
theorem hasHandlers_tellParam {α : Type} (param : Option α) (n : α → Notice W) :
    HasHandlers (i.tellParam param n) := by
  cases param with
  | none => exact hasHandlers_nil
  | some v => exact hasHandlers_tellApp hasHandlers_nil

/-- The same where the migrate callback is told as well. -/
theorem hasHandlers_tellParamBoth {α : Type} (param : Option α) (n : α → Notice W) :
    HasHandlers (i.tellParamBoth param n) := by
  cases param with
  | none => exact hasHandlers_nil
  | some v => exact hasHandlers_tellMigrate.append (hasHandlers_tellApp hasHandlers_nil)

/-- Publishing the event of a command needs no handler. -/
theorem hasHandlers_publish (name : String) :
    HasHandlers [(Effect.publishCtrlCmdEvent name : Effect W)] := by
  unfold HasHandlers
  simp

/-- Only MEDIA_KEY_SUPPORT has no handler. -/
theorem emptyHandler_mem_cmdHandlers (code : SessionCmd) :
    Effect.emptyHandler ∈ (i.cmdHandlers cmd code : List (Effect W)) ↔ code = .mediaKeySupport := by
  have hno : ∀ {es : List (Effect W)}, HasHandlers es → code ≠ .mediaKeySupport →
      (Effect.emptyHandler ∈ es ↔ code = .mediaKeySupport) :=
    fun hes hne => iff_of_false hes hne
  cases code with
  | play =>
      refine hno (hasHandlers_tellMigrate.append (hasHandlers_tellApp ?_)) (by simp)
      exact (hasHandlers_publish _).append hasHandlers_updateTop
  | pause =>
      exact hno (hasHandlers_tellMigrate.append (hasHandlers_tellApp hasHandlers_nil)) (by simp)
  | playNext | playPrevious =>
      exact hno (hasHandlers_tellMigrate.append (hasHandlers_tellApp (hasHandlers_publish _)))
        (by simp)
  | stop | avcallAnswer | avcallHangUp | avcallToggleCallMute =>
      exact hno (hasHandlers_tellApp hasHandlers_nil) (by simp)
  | fastForward | rewind | setSpeed | setTargetLoopMode | playFromAssetId | playWithAssetId =>
      exact hno (hasHandlers_tellParam _ _) (by simp)
  | seek | setLoopMode | toggleFavorite => exact hno (hasHandlers_tellParamBoth _ _) (by simp)
  | mediaKeySupport => exact iff_of_true (List.mem_singleton.mpr rfl) rfl

/-- The session has some callback. -/
def Listens (i : CommandSession) : Prop := ¬ (i.callback = none ∧ i.callbackForMigrate = none)

/-- **The missing handler.** -/
theorem emptyHandler_mem_execute (uid : Uid) (sinkOk : Bool) :
    Effect.emptyHandler ∈ (i.executeControllerCommand z uid cmd sinkOk : List (Effect W)) ↔
      cmd.cmd = some .mediaKeySupport ∧ i.Executes sinkOk ∧ i.Listens := by
  unfold executeControllerCommand
  cases hcmd : cmd.cmd with
  | none => simp
  | some code =>
      have hsent : Effect.emptyHandler ∉ (if i.surroundings.hasRemoteSink then
          [Effect.setControlCommand (i.withCaller z uid cmd)] else [] : List (Effect W)) := by
        split_ifs <;> simp
      simp only [Option.some.injEq]
      by_cases hsink : i.surroundings.hasRemoteSink = true ∧ sinkOk = false
      · rw [if_pos hsink]
        refine iff_of_false hsent ?_
        rintro ⟨-, hexec, -⟩
        have hok := hexec.sink hsink.1
        rw [hsink.2] at hok
        cases hok
      · rw [if_neg hsink]
        by_cases hsilent : i.callback = none ∧ i.callbackForMigrate = none
        · rw [if_pos hsilent]
          exact iff_of_false hsent fun h => h.2.2 hsilent
        · rw [if_neg hsilent]
          cases hactive : i.isActive with
          | false =>
              rw [if_pos rfl]
              refine iff_of_false hsent ?_
              rintro ⟨-, hexec, -⟩
              rw [hexec.active] at hactive
              cases hactive
          | true =>
              rw [if_neg Bool.noConfusion, List.mem_append, or_iff_right hsent,
                emptyHandler_mem_cmdHandlers]
              constructor
              · intro hcode
                refine ⟨hcode, ⟨?_, hactive⟩, hsilent⟩
                intro hhas
                by_contra hno
                exact hsink ⟨hhas, by simpa using hno⟩
              · exact fun h => h.1

/-- A media key is handled by the entry of its own key. -/
theorem hasHandlers_handleMediaKeyEvent (key : KeyCode) (cmdInfo : CommandInfo) :
    HasHandlers (i.handleMediaKeyEvent number key cmdInfo : List (Effect W)) := by
  unfold handleMediaKeyEvent
  split_ifs
  · exact hasHandlers_nil
  · split
    · next k _ =>
        cases k with
        | play =>
            refine hasHandlers_tellMigrate.append (hasHandlers_tellApp ?_)
            exact (hasHandlers_publish _).append hasHandlers_updateTop
        | pause | stop => exact hasHandlers_tellMigrate.append (hasHandlers_tellApp hasHandlers_nil)
        | playPause =>
            unfold keyEventCaller handleOnPlayOrPause
            split_ifs
            · exact hasHandlers_tellMigrate.append (hasHandlers_tellApp hasHandlers_nil)
            · refine hasHandlers_tellMigrate.append (hasHandlers_tellApp ?_)
              exact (hasHandlers_publish _).append hasHandlers_updateTop
        | next | previous =>
            exact hasHandlers_tellMigrate.append (hasHandlers_tellApp (hasHandlers_publish _))
        | rewind | fastForward => exact hasHandlers_tellParam _ _
    · refine HasHandlers.append ?_ ?_
      · cases i.callback <;> simp [HasHandlers]
      · unfold publishMediaKeyEvent
        split <;> simp [HasHandlers]

/-- A common command tells only the callback that is there. -/
theorem hasHandlers_execueCommonCommand (commonCommand : String) (commandArgs : W) :
    HasHandlers (i.execueCommonCommand commonCommand commandArgs) := by
  refine hasHandlers_tellMigrate.append (hasHandlers_tellApp ?_)
  unfold HasHandlers
  split_ifs <;> simp

end CommandSession

namespace World

variable {w : World W} {a : Act W} {s : SessionRef} {uid : Uid} {cmd : AVControlCommand}
  {sinkOk : Bool}

/-- The action has a session execute a command: for a controller, for a system caller, or for the
service itself. -/
inductive Executed (w : World W) : Act W → SessionRef → Uid → AVControlCommand → Bool → Prop
  | control {caller : Caller} {ctrl : ControllerRef} {data rest : List Token} {s : SessionRef}
      {cmd : AVControlCommand} {sinkOk : Bool}
      (hdata : AVControlCommand.unmarshalling data = some (cmd, rest))
      (hpasses : Passes z w caller ctrl cmd s) :
      Executed w (.sendControlCommand caller ctrl data sinkOk) s caller.uid cmd sinkOk
  | system {caller : Caller} {data rest : List Token} {s : SessionRef} {cmd : AVControlCommand}
      {sinkOk : Bool} (hdata : AVControlCommand.unmarshalling data = some (cmd, rest))
      (hlets : w.limit.lets z.commandSendNumMax caller.pid = true) :
      Executed w (.sendSystemControlCommand caller true (some s) data true sinkOk) s caller.uid
        { cmd with commandInfo := systemInfo z caller.uid } sinkOk
  | direct {s : SessionRef} {uid : Uid} {cmd : AVControlCommand} {sinkOk : Bool} :
      Executed w (.direct s (.executeControllerCommand uid cmd sinkOk)) s uid cmd sinkOk

/-- A command is sent. -/
def sendsCommand : Act W → Bool
  | .sendControlCommand .. | .sendSystemControlCommand .. => true
  | .direct _ (.executeControllerCommand ..) => true
  | _ => false

/-- A call that sends no command executes none. -/
theorem not_executed (h : sendsCommand a = false) (s : SessionRef) (uid : Uid)
    (cmd : AVControlCommand) (sinkOk : Bool) : ¬ Executed z w a s uid cmd sinkOk := by
  intro hexec
  cases hexec with
  | control hdata hpasses => cases h
  | system hdata hlets => cases h
  | direct => cases h

/-- What the log gets in a step without a command that is executed: nothing, or something by one
session, which is that of the controller if there is one. -/
structure OtherLog (w : World W) (a : Act W) : Prop where
  not_executed : ∀ s uid cmd sinkOk, ¬ Executed z w a s uid cmd sinkOk
  log : (w.step z number a).log = w.log ∨ ∃ s es,
    (∀ ctrl, a.controller = some ctrl → w.sessionOf ctrl = some s) ∧
    CommandSession.HasHandlers es ∧ (w.step z number a).log = w.log ++ es.map (s, ·)

/-- SendControlCommand logs one execution on the controller's session, or nothing. -/
theorem log_sendControlCommand (caller : Caller) (ctrl : ControllerRef) (data : List Token)
    (sinkOk : Bool) (ha : a = .sendControlCommand caller ctrl data sinkOk) :
    (∃ s uid cmd sinkOk, Executed z w a s uid cmd sinkOk ∧ (w.step z number a).log = w.log ++
      ((w.sessions s).executeControllerCommand z uid cmd sinkOk).map (s, ·)) ∨
    OtherLog z number w a := by
  have hstep : w.step z number a = (w.handleSendControlCommand z caller ctrl data sinkOk).1 := by
    rw [ha]
    rfl
  rcases hdata : AVControlCommand.unmarshalling data with _ | ⟨cmd, rest⟩
  · right
    refine ⟨?_, Or.inl ?_⟩
    · rintro s uid cmd sinkOk' hexec
      subst ha
      cases hexec with
      | control hdata' hpasses =>
          rw [hdata] at hdata'
          cases hdata'
    · rw [hstep]
      simp only [handleSendControlCommand, hdata]
  · by_cases hs : ∃ s, Passes z w caller ctrl cmd s
    · left
      obtain ⟨s, hs⟩ := hs
      refine ⟨s, caller.uid, cmd, sinkOk, ha ▸ Executed.control hdata hs, ?_⟩
      rw [hstep]
      simp only [handleSendControlCommand, hdata, sendControlCommand_of_passes z hs]
      rfl
    · right
      refine ⟨?_, Or.inl ?_⟩
      · rintro s uid cmd' sinkOk' hexec
        subst ha
        cases hexec with
        | control hdata' hpasses =>
            rw [hdata] at hdata'
            obtain ⟨rfl, -⟩ := Prod.mk.inj (Option.some.inj hdata')
            exact hs ⟨s, hpasses⟩
      · rw [hstep]
        simp only [handleSendControlCommand, hdata]
        exact (sendControlCommand_of_not z fun s h => hs ⟨s, h⟩).2

/-- SendSystemControlCommand logs one execution on the session it finds, or nothing. -/
theorem log_sendSystemControlCommand (caller : Caller) (permitted : Bool)
    (procSession : Option SessionRef) (data : List Token) (keyEvent sinkOk : Bool)
    (ha : a = .sendSystemControlCommand caller permitted procSession data keyEvent sinkOk) :
    (∃ s uid cmd sinkOk, Executed z w a s uid cmd sinkOk ∧ (w.step z number a).log = w.log ++
      ((w.sessions s).executeControllerCommand z uid cmd sinkOk).map (s, ·)) ∨
    OtherLog z number w a := by
  have hsnd : (w.isCommandSendEnable z caller.pid).2 =
    w.limit.lets z.commandSendNumMax caller.pid := rfl
  have hstep : w.step z number a = (w.handleSendSystemControlCommand z caller permitted procSession
      data keyEvent sinkOk).1 := by
    rw [ha]
    rfl
  by_cases hall : permitted = true ∧ keyEvent = true ∧ (∃ s, procSession = some s) ∧
      (∃ r, AVControlCommand.unmarshalling data = some r) ∧
      w.limit.lets z.commandSendNumMax caller.pid = true
  · left
    obtain ⟨rfl, rfl, ⟨s, rfl⟩, ⟨⟨cmd, rest⟩, hdata⟩, hlets⟩ := hall
    refine ⟨s, caller.uid, _, sinkOk, ha ▸ Executed.system hdata hlets, ?_⟩
    rw [hstep]
    simp only [handleSendSystemControlCommand, hdata, sendSystemControlCommand, hsnd, hlets,
      if_true, Bool.true_eq_false, if_false]
    rfl
  · right
    refine ⟨?_, Or.inl ?_⟩
    · rintro s uid cmd sinkOk' hexec
      subst ha
      cases hexec with
      | system hdata hlets => exact hall ⟨rfl, rfl, ⟨s, rfl⟩, ⟨_, hdata⟩, hlets⟩
    · rw [hstep]
      unfold handleSendSystemControlCommand
      rcases hdata : AVControlCommand.unmarshalling data with _ | ⟨cmd, rest⟩
      · rfl
      · unfold sendSystemControlCommand
        rcases procSession with _ | s
        · split_ifs <;> rfl
        · simp only [hsnd]
          by_cases hpermitted : permitted = true
          · rw [if_pos hpermitted]
            by_cases hlets : w.limit.lets z.commandSendNumMax caller.pid = true
            · rw [hlets, if_neg (by simp)]
              by_cases hkey : keyEvent = true
              · exact absurd ⟨hpermitted, hkey, ⟨s, rfl⟩, ⟨_, hdata⟩, hlets⟩ hall
              · rw [if_pos (by simpa using hkey)]
                rfl
            · rw [if_pos (by simpa using hlets)]
              rfl
          · rw [if_neg hpermitted]

/-- A request of a controller that has the session do something, or not. -/
theorem otherLog_of_session {ctrl : ControllerRef} (hctrl : a.controller = some ctrl)
    (hnot : ∀ s uid cmd sinkOk, ¬ Executed z w a s uid cmd sinkOk)
    (hnone : w.sessionOf ctrl = none → (w.step z number a).log = w.log)
    (hsome : ∀ s, w.sessionOf ctrl = some s → (w.step z number a).log = w.log ∨
      ∃ es, CommandSession.HasHandlers es ∧
        (w.step z number a).log = w.log ++ es.map (s, ·)) : OtherLog z number w a := by
  refine ⟨hnot, ?_⟩
  cases hs : w.sessionOf ctrl with
  | none => exact Or.inl (hnone hs)
  | some s =>
      rcases hsome s hs with h | ⟨es, hes, hlog⟩
      · exact Or.inl h
      · refine Or.inr ⟨s, es, ?_, hes, hlog⟩
        intro ctrl' hctrl'
        rw [Option.some.inj (hctrl'.symm.trans hctrl)]
        exact hs

/-- A step that leaves the log alone. -/
theorem otherLog_of_eq (h : sendsCommand a = false)
    (hlog : (w.step z number a).log = w.log) : OtherLog z number w a :=
  ⟨not_executed z h, Or.inl hlog⟩

/-- A common command logs nothing that looks a command up. -/
theorem log_sendCommonCommand (caller : Caller) (ctrl : ControllerRef) (commonCommand : String)
    (commandArgs : W) (proxyRet : ℤ) : OtherLog z number w
      (.sendCommonCommand caller ctrl commonCommand commandArgs proxyRet) := by
  have hsnd : (w.isCommandSendEnable z caller.pid).2 =
    w.limit.lets z.commandSendNumMax caller.pid := rfl
  have hstep : w.step z number (.sendCommonCommand caller ctrl commonCommand commandArgs proxyRet) =
      (w.sendCommonCommand z caller ctrl commonCommand commandArgs proxyRet).1 := rfl
  refine otherLog_of_session z number rfl (not_executed z rfl) ?_ ?_
  · intro hs
    rw [hstep]
    unfold sendCommonCommand
    rw [hs]
    split_ifs <;> rfl
  · intro s hs
    rw [hstep]
    unfold sendCommonCommand
    rw [hs]
    by_cases hproxy : (w.controllers ctrl).any (·.hasMigrateProxy) ∧ proxyRet ≠ 0
    · rw [if_pos hproxy]
      exact Or.inl rfl
    · rw [if_neg hproxy]
      dsimp only
      rw [hsnd]
      by_cases hlets : w.limit.lets z.commandSendNumMax caller.pid = true
      · rw [if_pos hlets]
        exact Or.inr ⟨_, CommandSession.hasHandlers_execueCommonCommand _ _, rfl⟩
      · rw [if_neg hlets]
        exact Or.inl rfl

/-- Reading the extras logs nothing that looks a command up. -/
theorem log_getExtras (caller : Caller) (ctrl : ControllerRef) :
    OtherLog z number w (.getExtras caller ctrl) := by
  refine otherLog_of_eq z number rfl ?_
  show (w.getExtras z caller ctrl).1.log = w.log
  unfold getExtras
  rcases w.sessionOf ctrl with _ | s
  · rfl
  · dsimp only
    split_ifs <;> rfl

/-- Custom data log nothing that looks a command up. -/
theorem log_sendCustomData (ctrl : ControllerRef) (data : W) (holdsText : Bool) :
    OtherLog z number w (.sendCustomData ctrl data holdsText) := by
  have hstep : w.step z number (.sendCustomData ctrl data holdsText) =
    (w.sendCustomData ctrl data holdsText).1 := rfl
  refine otherLog_of_session z number rfl (not_executed z rfl) ?_ ?_
  · intro hs
    rw [hstep]
    unfold sendCustomData
    rw [hs]
    split_ifs <;> rfl
  · intro s hs
    rw [hstep]
    unfold sendCustomData
    rw [hs]
    split_ifs
    · exact Or.inl rfl
    · exact Or.inr ⟨_, CommandSession.hasHandlers_tellApp CommandSession.hasHandlers_nil, rfl⟩

/-- Skipping to a queue item logs nothing that looks a command up. -/
theorem log_skipToQueueItem (ctrl : ControllerRef) (itemId : ℤ) :
    OtherLog z number w (.skipToQueueItem ctrl itemId) := by
  have hstep : w.step z number (.skipToQueueItem ctrl itemId) =
    (w.skipToQueueItem ctrl itemId).1 := rfl
  refine otherLog_of_session z number rfl (not_executed z rfl) ?_ ?_
  · intro hs
    rw [hstep]
    unfold skipToQueueItem
    rw [hs]
  · intro s hs
    rw [hstep]
    unfold skipToQueueItem
    rw [hs]
    exact Or.inr ⟨_, CommandSession.hasHandlers_tellApp CommandSession.hasHandlers_nil, rfl⟩

/-- A key event logs nothing that looks a command up. -/
theorem log_sendAVKeyEvent (ctrl : ControllerRef) (key : CommandSession.KeyCode) :
    OtherLog z number w (.sendAVKeyEvent ctrl key) := by
  have hstep : w.step z number (.sendAVKeyEvent ctrl key) =
    (w.sendAVKeyEvent number ctrl key).1 := rfl
  refine otherLog_of_session z number rfl (not_executed z rfl) ?_ ?_
  · intro hs
    rw [hstep]
    unfold sendAVKeyEvent
    rw [hs]
  · intro s hs
    rw [hstep]
    unfold sendAVKeyEvent
    rw [hs]
    refine Or.inr ⟨(w.sessions s).handleMediaKeyEvent number key ⟨"", "", "", ""⟩,
      CommandSession.hasHandlers_handleMediaKeyEvent number _ _, ?_⟩
    dsimp only
    rw [log_does]

/-- A call made on the session itself logs its own execution, or nothing that looks a command up. -/
theorem log_direct (s : SessionRef) (d : Direct W) :
    (∃ s' uid cmd sinkOk, Executed z w (.direct s d) s' uid cmd sinkOk ∧
      (w.step z number (.direct s d)).log = w.log ++
        ((w.sessions s').executeControllerCommand z uid cmd sinkOk).map (s', ·)) ∨
    OtherLog z number w (.direct s d) := by
  have hother : sendsCommand (.direct s d) = false →
      CommandSession.HasHandlers ((w.sessions s).direct z number d) →
      OtherLog z number w (.direct s d) := by
    intro h hes
    refine ⟨not_executed z h, Or.inr ⟨s, _, ?_, hes, rfl⟩⟩
    rintro ctrl hctrl
    cases hctrl
  cases d with
  | executeControllerCommand uid cmd sinkOk => exact Or.inl ⟨s, uid, cmd, sinkOk, .direct, rfl⟩
  | execueCommonCommand commonCommand commandArgs =>
      refine Or.inr (hother rfl ?_)
      exact CommandSession.hasHandlers_execueCommonCommand commonCommand commandArgs
  | handleMediaKeyEvent key cmdInfo =>
      refine Or.inr (hother rfl ?_)
      exact CommandSession.hasHandlers_handleMediaKeyEvent number key cmdInfo

/-- Creating a controller logs nothing. -/
theorem log_newController (ctrl : ControllerRef) (pid : Pid) (s : SessionRef)
    (hasMigrateProxy : Bool) : OtherLog z number w (.newController ctrl pid s hasMigrateProxy) := by
  refine otherLog_of_eq z number rfl ?_
  show (w.newController ctrl pid s hasMigrateProxy).log = w.log
  unfold newController
  dsimp only
  split_ifs <;> rfl

/-- Destroying a controller logs nothing. -/
theorem log_destroyController (ctrl : ControllerRef) :
    OtherLog z number w (.destroyController ctrl) := by
  refine otherLog_of_eq z number rfl ?_
  show (w.destroyController ctrl).log = w.log
  unfold destroyController
  rcases w.controllers ctrl with _ | ⟨pid, _ | s, hasMigrateProxy⟩
  · rfl
  · rfl
  · dsimp only
    split_ifs <;> rfl

/-- Destroying a session logs its teardown only. -/
theorem log_destroyTask (s : SessionRef) : OtherLog z number w (.destroyTask s) := by
  refine otherLog_of_eq z number rfl ?_
  show (w.destroyTask s).log = w.log
  unfold destroyTask
  dsimp only
  split_ifs <;> rfl

/-- **The log in a step.** -/
theorem log_step (w : World W) (a : Act W) :
    (∃ s uid cmd sinkOk, Executed z w a s uid cmd sinkOk ∧ (w.step z number a).log = w.log ++
      ((w.sessions s).executeControllerCommand z uid cmd sinkOk).map (s, ·)) ∨
    OtherLog z number w a := by
  cases a with
  | sendControlCommand caller ctrl data sinkOk =>
      exact log_sendControlCommand z number caller ctrl data sinkOk rfl
  | sendSystemControlCommand caller permitted procSession data keyEvent sinkOk =>
      exact log_sendSystemControlCommand z number caller permitted procSession data keyEvent sinkOk
        rfl
  | direct s d => exact log_direct z number s d
  | sendCommonCommand caller ctrl commonCommand commandArgs proxyRet =>
      exact Or.inr (log_sendCommonCommand z number caller ctrl commonCommand commandArgs proxyRet)
  | getExtras caller ctrl => exact Or.inr (log_getExtras z number caller ctrl)
  | sendCustomData ctrl data holdsText =>
      exact Or.inr (log_sendCustomData z number ctrl data holdsText)
  | skipToQueueItem ctrl itemId => exact Or.inr (log_skipToQueueItem z number ctrl itemId)
  | sendAVKeyEvent ctrl key => exact Or.inr (log_sendAVKeyEvent z number ctrl key)
  | newController ctrl pid s hasMigrateProxy =>
      exact Or.inr (log_newController z number ctrl pid s hasMigrateProxy)
  | destroyController ctrl => exact Or.inr (log_destroyController z number ctrl)
  | destroyTask s => exact Or.inr (log_destroyTask z number s)
  | startTimer | stopTimer | clearCommandLimits | update s u =>
      exact Or.inr (otherLog_of_eq z number rfl rfl)

end World

end log

/-! ## The controllers of a session -/

section attached

namespace World

variable {w : World W} {a : Act W} {s : SessionRef} {c : ControllerRef}

/-- The sessions and the controllers are as before. -/
structure Keeps (w w' : World W) : Prop where
  sessions : w'.sessions = w.sessions
  controllers : w'.controllers = w.controllers

/-- SendControlCommand leaves sessions and controllers as they are. -/
theorem keeps_sendControlCommand (caller : Caller) (cmd : AVControlCommand) (sinkOk : Bool) :
    w.Keeps (w.sendControlCommand z caller c cmd sinkOk).1 := by
  unfold sendControlCommand
  rcases w.sessionOf c with _ | s
  · exact ⟨rfl, rfl⟩
  · dsimp only
    split_ifs <;> exact ⟨rfl, rfl⟩

/-- SendSystemControlCommand leaves sessions and controllers as they are. -/
theorem keeps_sendSystemControlCommand (caller : Caller) (procSession : Option SessionRef)
    (cmd : AVControlCommand) (keyEvent sinkOk : Bool) :
    w.Keeps (w.sendSystemControlCommand z caller procSession cmd keyEvent sinkOk).1 := by
  unfold sendSystemControlCommand
  rcases procSession with _ | s
  · exact ⟨rfl, rfl⟩
  · dsimp only
    split_ifs <;> exact ⟨rfl, rfl⟩

/-- What changes the sessions or the controllers. -/
def changes : Act W → Bool
  | .newController .. | .destroyController _ | .destroyTask _ | .update .. => true
  | _ => false

/-- **Requests.** -/
theorem keeps_step (h : changes a = false) : w.Keeps (w.step z number a) := by
  unfold World.step World.act
  cases a with
  | sendControlCommand caller ctrl data sinkOk =>
      dsimp only
      unfold handleSendControlCommand
      rcases AVControlCommand.unmarshalling data with _ | ⟨cmd, rest⟩
      · exact ⟨rfl, rfl⟩
      · exact keeps_sendControlCommand z caller cmd sinkOk
  | sendSystemControlCommand caller permitted procSession data keyEvent sinkOk =>
      dsimp only
      unfold handleSendSystemControlCommand
      rcases AVControlCommand.unmarshalling data with _ | ⟨cmd, rest⟩
      · exact ⟨rfl, rfl⟩
      · dsimp only
        split_ifs
        · exact keeps_sendSystemControlCommand z caller procSession cmd keyEvent sinkOk
        · exact ⟨rfl, rfl⟩
  | sendCommonCommand caller ctrl commonCommand commandArgs proxyRet =>
      dsimp only
      unfold sendCommonCommand
      rcases w.sessionOf ctrl with _ | s <;> dsimp only <;> split_ifs <;> exact ⟨rfl, rfl⟩
  | getExtras caller ctrl =>
      dsimp only
      unfold getExtras
      rcases w.sessionOf ctrl with _ | s
      · exact ⟨rfl, rfl⟩
      · dsimp only
        split_ifs <;> exact ⟨rfl, rfl⟩
  | sendCustomData ctrl data holdsText =>
      dsimp only
      unfold sendCustomData
      rcases w.sessionOf ctrl with _ | s <;> dsimp only <;> split_ifs <;> exact ⟨rfl, rfl⟩
  | skipToQueueItem ctrl itemId =>
      dsimp only
      unfold skipToQueueItem
      rcases w.sessionOf ctrl with _ | s <;> exact ⟨rfl, rfl⟩
  | sendAVKeyEvent ctrl key =>
      dsimp only
      unfold sendAVKeyEvent
      rcases w.sessionOf ctrl with _ | s <;> exact ⟨rfl, rfl⟩
  | direct s d => exact ⟨rfl, rfl⟩
  | startTimer | stopTimer | clearCommandLimits => exact ⟨rfl, rfl⟩
  | newController | destroyController | destroyTask | update => cases h

/-- The controllers that a session knows are exactly those whose session it is, one for each pid; a
session that has been destroyed knows none. -/
structure AttachedInv (w : World W) : Prop where
  attached : ∀ s pid c, (pid, c) ∈ (w.sessions s).controllers ↔
    ∃ x, w.controllers c = some x ∧ x.session = some s ∧ x.pid = pid
  nodup : ∀ s, ((w.sessions s).controllers.map Prod.fst).Nodup
  destroyed : ∀ s, (w.sessions s).isDestroyed = true → (w.sessions s).controllers = []

/-- A controller is created for a session that has not been destroyed, and that has none of the same
pid. `AVSessionService::CreateControllerInner` looks the session up in the container and the pid among
its own controllers, not `isDestroyed_`. -/
def Orderly (w : World W) : Act W → Prop
  | .newController _ pid s _ => (w.sessions s).isDestroyed = false ∧
      pid ∉ (w.sessions s).controllers.map Prod.fst
  | _ => True

/-- What leaves sessions and controllers as they are keeps the invariant. -/
theorem AttachedInv.of_keeps {w' : World W} (h : AttachedInv w) (hk : w.Keeps w') :
    AttachedInv w' := by
  obtain ⟨hs, hc⟩ := hk
  exact ⟨by rw [hs, hc]; exact h.attached, by rw [hs]; exact h.nodup, by rw [hs]; exact h.destroyed⟩

/-- Writing one session leaves the others. -/
@[simp] theorem sessions_withSession (s s' : SessionRef) (i : CommandSession) :
    (w.withSession s i).sessions s' = if s' = s then i else w.sessions s' := by
  unfold withSession
  dsimp only
  split_ifs with h
  · rw [h, Function.update_self]
  · exact Function.update_of_ne h _ _

/-- An update of a session leaves its controllers and its end alone. -/
theorem update_frame (i : CommandSession) (u : CommandSession.Update) :
    (i.update u).controllers = i.controllers ∧ (i.update u).isDestroyed = i.isDestroyed := by
  cases u with
  | addSupportCommand cmd =>
      simp only [CommandSession.update, CommandSession.addSupportCommand]
      split_ifs <;> exact ⟨rfl, rfl⟩
  | deleteSupportCommand cmd =>
      simp only [CommandSession.update, CommandSession.deleteSupportCommand]
      split_ifs <;> exact ⟨rfl, rfl⟩
  | _ => exact ⟨rfl, rfl⟩

/-- A setter of a session leaves its controller map and its life alone. -/
theorem attachedInv_update (h : AttachedInv w) (s : SessionRef) (u : CommandSession.Update) :
    AttachedInv (w.withSession s ((w.sessions s).update u)) := by
  have hsame : ∀ s', ((w.withSession s ((w.sessions s).update u)).sessions s').controllers =
        (w.sessions s').controllers ∧
      ((w.withSession s ((w.sessions s).update u)).sessions s').isDestroyed =
        (w.sessions s').isDestroyed := by
    intro s'
    rw [sessions_withSession]
    split_ifs with hs
    · rw [hs]
      exact update_frame _ u
    · exact ⟨rfl, rfl⟩
  constructor
  · intro s' pid c
    rw [(hsame s').1]
    exact h.attached s' pid c
  · intro s'
    rw [(hsame s').1]
    exact h.nodup s'
  · intro s' hd
    rw [(hsame s').2] at hd
    rw [(hsame s').1]
    exact h.destroyed s' hd

/-- A controller made for a living session is in that session's map. -/
theorem attachedInv_newController (h : AttachedInv w) (c : ControllerRef) (pid : Pid)
    (hasMigrateProxy : Bool) (halive : (w.sessions s).isDestroyed = false)
    (hfree : pid ∉ (w.sessions s).controllers.map Prod.fst) :
    AttachedInv (w.newController c pid s hasMigrateProxy) := by
  unfold newController
  by_cases hc : (w.controllers c).isSome = true
  · rw [if_pos hc]
    exact h
  · rw [if_neg hc]
    have hnone : w.controllers c = none := by simpa using hc
    have hadd : addController (w.sessions s).controllers pid c =
        (w.sessions s).controllers ++ [(pid, c)] := if_neg hfree
    dsimp only
    rw [hadd]
    constructor
    · intro s' pid' c'
      simp only [sessions_withSession]
      by_cases hc' : c' = c
      · subst hc'
        rw [Function.update_self]
        have hold : ∀ s₁ pid₁, (pid₁, c') ∉ (w.sessions s₁).controllers := by
          intro s₁ pid₁ hmem
          obtain ⟨x, hx, -⟩ := (h.attached s₁ pid₁ c').mp hmem
          rw [hnone] at hx
          cases hx
        split_ifs with hs
        · subst hs
          simp only [List.mem_append, List.mem_singleton, hold s' pid', false_or, Prod.mk.injEq,
            and_true, Option.some.injEq, exists_eq_left', true_and]
          exact eq_comm
        · simp only [hold s' pid', Option.some.injEq, exists_eq_left', false_iff, not_and]
          intro hs'
          exact absurd hs'.symm hs
      · rw [Function.update_of_ne hc', ← h.attached s' pid' c']
        split_ifs with hs
        · subst hs
          simp [hc']
        · rfl
    · intro s'
      simp only [sessions_withSession]
      split_ifs with hs
      · dsimp only
        rw [List.map_append, List.map_singleton]
        refine List.nodup_append.mpr ⟨h.nodup s, List.pairwise_singleton _ _, ?_⟩
        intro p hp q hq
        rw [List.mem_singleton.mp hq]
        rintro rfl
        exact hfree hp
      · exact h.nodup s'
    · intro s'
      simp only [sessions_withSession]
      split_ifs with hs
      · intro hd
        dsimp only at hd
        rw [halive] at hd
        cases hd
      · exact h.destroyed s'

/-- A destroyed controller is in no map and has no session. -/
theorem attachedInv_destroyController (h : AttachedInv w) (c : ControllerRef) :
    AttachedInv (w.destroyController c) := by
  unfold destroyController
  rcases hc : w.controllers c with _ | ⟨pid, _ | s, hasMigrateProxy⟩
  · exact h
  · exact h
  · dsimp only
    split_ifs with hdefault
    · exact h
    · have hmem : (pid, c) ∈ (w.sessions s).controllers :=
        (h.attached s pid c).mpr ⟨_, hc, rfl, rfl⟩
      constructor
      · intro s' pid' c'
        simp only [sessions_withSession]
        by_cases hc' : c' = c
        · subst hc'
          rw [Function.update_self]
          simp only [Option.some.injEq, exists_eq_left', reduceCtorEq, false_and, iff_false]
          split_ifs with hs
          · rw [List.mem_filter]
            rintro ⟨hold, hne⟩
            obtain ⟨x, hx, -, hpid⟩ := (h.attached s pid' c').mp hold
            rw [hc] at hx
            obtain rfl := Option.some.inj hx
            exact of_decide_eq_true hne hpid.symm
          · intro hold
            obtain ⟨x, hx, hsession, -⟩ := (h.attached s' pid' c').mp hold
            rw [hc] at hx
            obtain rfl := Option.some.inj hx
            exact hs (Option.some.inj hsession).symm
        · rw [Function.update_of_ne hc', ← h.attached s' pid' c']
          split_ifs with hs
          · subst hs
            rw [List.mem_filter]
            constructor
            · exact fun hboth => hboth.1
            · intro hold
              refine ⟨hold, ?_⟩
              have hne : pid' ≠ pid := by
                rintro rfl
                have heq := List.inj_on_of_nodup_map (h.nodup s') hold hmem rfl
                exact hc' (Prod.mk.inj heq).2
              simpa using hne
          · rfl
      · intro s'
        simp only [sessions_withSession]
        split_ifs with hs
        · exact (h.nodup s).sublist (List.filter_sublist.map _)
        · exact h.nodup s'
      · intro s'
        simp only [sessions_withSession]
        split_ifs with hs
        · intro hd
          dsimp only at hd ⊢
          rw [h.destroyed s hd]
          rfl
        · exact h.destroyed s'

/-- A destroyed session lets go of every controller it had. -/
theorem attachedInv_destroyTask (h : AttachedInv w) (s : SessionRef) :
    AttachedInv (w.destroyTask s) := by
  unfold destroyTask
  dsimp only
  split_ifs with hdestroyed
  · exact h
  · have hmem : ∀ c, c ∈ (w.sessions s).controllers.map Prod.snd ↔
        ∃ x, w.controllers c = some x ∧ x.session = some s := by
      intro c
      rw [List.mem_map]
      constructor
      · rintro ⟨⟨pid, c'⟩, hp, rfl⟩
        obtain ⟨x, hx, hsession, -⟩ := (h.attached s pid c').mp hp
        exact ⟨x, hx, hsession⟩
      · rintro ⟨x, hx, hsession⟩
        exact ⟨(x.pid, c), (h.attached s x.pid c).mpr ⟨x, hx, hsession, rfl⟩, rfl⟩
    constructor
    · intro s' pid c
      simp only [sessions_withSession]
      by_cases hc : c ∈ (w.sessions s).controllers.map Prod.snd
      · rw [if_pos hc]
        obtain ⟨x, hx, hsession⟩ := (hmem c).mp hc
        simp only [hx, Option.map_some, Option.some.injEq, exists_eq_left', reduceCtorEq,
          false_and, iff_false]
        split_ifs with hs
        · exact List.not_mem_nil
        · intro hold
          obtain ⟨y, hy, hy', -⟩ := (h.attached s' pid c).mp hold
          rw [hx] at hy
          obtain rfl := Option.some.inj hy
          rw [hsession] at hy'
          exact hs (Option.some.inj hy').symm
      · rw [if_neg hc, ← h.attached s' pid c]
        split_ifs with hs
        · subst hs
          refine iff_of_false List.not_mem_nil ?_
          intro hold
          exact hc (List.mem_map.mpr ⟨_, hold, rfl⟩)
        · rfl
    · intro s'
      simp only [sessions_withSession]
      split_ifs with hs
      · exact List.nodup_nil
      · exact h.nodup s'
    · intro s'
      simp only [sessions_withSession]
      split_ifs with hs
      · intro _
        rfl
      · exact h.destroyed s'

/-- Without controllers there is nothing to keep. -/
theorem attachedInv_init {sessions : SessionRef → CommandSession}
    (hnone : ∀ s, (sessions s).controllers = []) : AttachedInv (init sessions : World W) := by
  constructor
  · intro s pid c
    refine iff_of_false ?_ ?_
    · rw [show ((init sessions : World W).sessions s).controllers = [] from hnone s]
      exact List.not_mem_nil
    · rintro ⟨x, hx, -⟩
      cases hx
  · intro s
    rw [show ((init sessions : World W).sessions s).controllers = [] from hnone s]
    exact List.nodup_nil
  · exact fun s _ => hnone s

/-- **One step.** -/
theorem attachedInv_step (h : AttachedInv w) (ha : Orderly w a) :
    AttachedInv (w.step z number a) := by
  cases hchanges : changes a with
  | false => exact h.of_keeps (keeps_step z number hchanges)
  | true =>
      cases a with
      | newController c pid s hasMigrateProxy =>
          exact attachedInv_newController h c pid hasMigrateProxy ha.1 ha.2
      | destroyController c => exact attachedInv_destroyController h c
      | destroyTask s => exact attachedInv_destroyTask h s
      | update s u => exact attachedInv_update h s u
      | _ => cases hchanges

/-- A session that has been destroyed stays so. -/
theorem isDestroyed_step (hs : (w.sessions s).isDestroyed = true) :
    ((w.step z number a).sessions s).isDestroyed = true := by
  cases hchanges : changes a with
  | false =>
      rw [(keeps_step z number hchanges).sessions]
      exact hs
  | true =>
      cases a with
      | newController c pid s' hasMigrateProxy =>
          show ((w.newController c pid s' hasMigrateProxy).sessions s).isDestroyed = true
          unfold newController
          split_ifs
          · exact hs
          · simp only [sessions_withSession]
            split_ifs with heq
            · rw [heq] at hs
              exact hs
            · exact hs
      | destroyController c =>
          show ((w.destroyController c).sessions s).isDestroyed = true
          unfold destroyController
          rcases w.controllers c with _ | ⟨pid, _ | s', hasMigrateProxy⟩
          · exact hs
          · exact hs
          · dsimp only
            split_ifs
            · exact hs
            · simp only [sessions_withSession]
              split_ifs with heq
              · rw [heq] at hs
                exact hs
              · exact hs
      | destroyTask s' =>
          show ((w.destroyTask s').sessions s).isDestroyed = true
          unfold destroyTask
          dsimp only
          split_ifs
          · exact hs
          · simp only [sessions_withSession]
            split_ifs
            · rfl
            · exact hs
      | update s' u =>
          show ((w.withSession s' ((w.sessions s').update u)).sessions s).isDestroyed = true
          rw [sessions_withSession]
          split_ifs with heq
          · rw [(update_frame _ u).2, ← heq]
            exact hs
          · exact hs
      | _ => cases hchanges

/-- A destroyed session stays destroyed. -/
theorem isDestroyed_run (hs : (w.sessions s).isDestroyed = true) (as : List (Act W)) :
    ((run (World.step z number) w as).sessions s).isDestroyed = true := by
  have hstep : ∀ w a, (w.sessions s).isDestroyed = true →
      ((World.step z number w a : World W).sessions s).isDestroyed = true :=
    fun w a h => isDestroyed_step z number h
  exact (always_of_forall (P := fun w : World W => (w.sessions s).isDestroyed = true) hstep as
    hs).last

/-- What a controller makes happen is done by its session. -/
theorem session_of_done (ha : a.controller = some c) {e : SessionRef × Effect W}
    (he : e ∈ w.done z number a) : w.sessionOf c = some e.1 := by
  unfold done at he
  have hmap : ∀ {s : SessionRef} {es : List (Effect W)},
      e ∈ (w.log ++ es.map (s, ·)).drop w.log.length → s = e.1 := by
    intro s es hmem
    rw [List.drop_left] at hmem
    obtain ⟨x, -, rfl⟩ := List.mem_map.mp hmem
    rfl
  rcases log_step z number w a with ⟨s, uid, cmd, sinkOk, hexec, hlog⟩ | hother
  · rw [hlog] at he
    cases hexec with
    | control hdata hpasses =>
        rw [← hmap he, ← Option.some.inj ha]
        exact hpasses.session
    | system hdata hlets => cases ha
    | direct => cases ha
  · rcases hother.log with hlog | ⟨s, es, hs, -, hlog⟩
    · rw [hlog, List.drop_length] at he
      exact absurd he List.not_mem_nil
    · rw [hlog] at he
      rw [← hmap he]
      exact hs c ha

/-- No controller leads to a destroyed session. -/
theorem AttachedInv.not_attached (h : AttachedInv w) (hs : (w.sessions s).isDestroyed = true)
    (c : ControllerRef) : w.sessionOf c ≠ some s := by
  intro hsession
  obtain ⟨x, hx, hxs⟩ := Option.bind_eq_some_iff.mp hsession
  have hmem := (h.attached s x.pid c).mpr ⟨x, hx, hxs, rfl⟩
  rw [h.destroyed s hs] at hmem
  exact List.not_mem_nil hmem

/-- **Destroyed sessions.** Behind the end of a session, no request of any controller has it do
anything, whatever else has happened since, as long as no controller is created for it. -/
theorem destroyed_unreached (sessions : SessionRef → CommandSession)
    (hnone : ∀ s, (sessions s).controllers = []) (as bs : List (Act W)) (s : SessionRef)
    (horderly : Meets (World.step z number) Orderly (init sessions)
      (as ++ .destroyTask s :: bs)) (a : Act W) (ctrl : ControllerRef)
    (ha : a.controller = some ctrl) :
    let w := run (World.step z number) (init sessions) (as ++ .destroyTask s :: bs)
    w.sessionOf ctrl ≠ some s ∧ ∀ e ∈ w.done z number a, e.1 ≠ s := by
  intro w
  have hstep : ∀ (w : World W) (a : Act W), AttachedInv w → Orderly w a →
      AttachedInv (World.step z number w a) := fun w a => attachedInv_step z number
  have hinv : AttachedInv w := (always_of_meets hstep (attachedInv_init hnone) horderly).last
  have hdestroyed : (w.sessions s).isDestroyed = true := by
    have hrun : w = run (World.step z number)
        ((run (World.step z number) (init sessions) as).destroyTask s) bs :=
      List.foldl_append
    rw [hrun]
    apply isDestroyed_run
    unfold destroyTask
    dsimp only
    split_ifs with h
    · exact h
    · simp
  refine ⟨hinv.not_attached hdestroyed ctrl, ?_⟩
  rintro e he rfl
  exact hinv.not_attached hdestroyed ctrl (session_of_done z number ha he)

/-- A callback that is registered behind the end. -/
theorem destroyed_unreached_skip :
    let w := run (World.step plainSetting fun _ => 0) (init fun _ => idleSession)
      ([.newController 0 7 0 false] ++ .destroyTask 0 ::
        [.update 0 (.registerCallbackInner (some 3)), .update 0 .activate])
    w.sessionOf 0 ≠ some 0 ∧ ∀ e ∈ (w : World Unit).done plainSetting (fun _ => 0)
      (.skipToQueueItem 0 5), e.1 ≠ 0 :=
  destroyed_unreached plainSetting (fun _ => 0) (fun _ => idleSession) (fun _ => rfl)
    [.newController 0 7 0 false]
    [.update 0 (.registerCallbackInner (some 3)), .update 0 .activate] 0
    ⟨⟨rfl, List.not_mem_nil⟩, trivial, trivial, trivial, trivial⟩ (.skipToQueueItem 0 5) 0 rfl

end World

end attached

/-! ## The missing handler -/

section missing

namespace World

variable {w : World W} {a : Act W}

/-- The action has a session execute MEDIA_KEY_SUPPORT, and the session gets as far as the map of the
handlers: the remote sink has taken the command if there is one, the session is active, and it has a
callback. A controller's request is executed if the session supports the command and the process is
within its limit, a system caller's if it is permitted and within the limit, the service's own
always. -/
def RunsMissingHandler (w : World W) (a : Act W) : Prop :=
  ∃ s uid cmd sinkOk, Executed z w a s uid cmd sinkOk ∧ cmd.cmd = some .mediaKeySupport ∧
    (w.sessions s).Executes sinkOk ∧ (w.sessions s).Listens

/-- The missing handler has not been called. -/
def NoMissingHandler (w : World W) : Prop := ∀ e ∈ w.log, e.2 ≠ .emptyHandler

/-- A log without a missing handler grows by a step that misses none. -/
theorem noMissingHandler_append {s : SessionRef} {es : List (Effect W)} {log : List (SessionRef × Effect W)}
    (h : ∀ e ∈ log, e.2 ≠ .emptyHandler) :
    (∀ e ∈ log ++ es.map (s, ·), e.2 ≠ .emptyHandler) ↔ CommandSession.HasHandlers es := by
  unfold CommandSession.HasHandlers
  constructor
  · intro hall hmem
    exact hall (s, .emptyHandler) (List.mem_append_right _ (List.mem_map.mpr ⟨_, hmem, rfl⟩)) rfl
  · intro hes e he
    rcases List.mem_append.mp he with he | he
    · exact h e he
    · obtain ⟨x, hx, rfl⟩ := List.mem_map.mp he
      rintro rfl
      exact hes hx

/-- **One step.** -/
theorem noMissingHandler_step (h : NoMissingHandler w) :
    NoMissingHandler (w.step z number a) ↔ ¬ RunsMissingHandler z w a := by
  unfold NoMissingHandler at *
  rcases log_step z number w a with ⟨s, uid, cmd, sinkOk, hexec, hlog⟩ | hother
  · rw [hlog, noMissingHandler_append h, CommandSession.HasHandlers,
      CommandSession.emptyHandler_mem_execute, not_iff_not]
    constructor
    · intro hall
      exact ⟨s, uid, cmd, sinkOk, hexec, hall⟩
    · rintro ⟨s', uid', cmd', sinkOk', hexec', hall⟩
      cases hexec with
      | control hdata hpasses =>
          cases hexec' with
          | control hdata' hpasses' =>
              obtain ⟨rfl, -⟩ := Prod.mk.inj (Option.some.inj (hdata.symm.trans hdata'))
              obtain rfl := Option.some.inj (hpasses.session.symm.trans hpasses'.session)
              exact hall
      | system hdata hlets =>
          cases hexec' with
          | system hdata' hlets' =>
              obtain ⟨rfl, -⟩ := Prod.mk.inj (Option.some.inj (hdata.symm.trans hdata'))
              exact hall
      | direct =>
          cases hexec' with
          | direct => exact hall
  · refine iff_of_true ?_ ?_
    · rcases hother.log with hlog | ⟨s, es, -, hes, hlog⟩
      · rw [hlog]
        exact h
      · rw [hlog, noMissingHandler_append h]
        exact hes
    · rintro ⟨s, uid, cmd, sinkOk, hexec, -⟩
      exact hother.not_executed s uid cmd sinkOk hexec

/-- No list of commands that is set for a session has MEDIA_KEY_SUPPORT in it, and neither a system
caller nor the service itself sends it. -/
def Modest : Act W → Prop
  | .update _ (.setSupportCommand cmds) => SessionCmd.mediaKeySupport.code ∉ cmds
  | .sendSystemControlCommand _ _ _ data _ _ => ∀ cmd rest,
      AVControlCommand.unmarshalling data = some (cmd, rest) → cmd.cmd ≠ some .mediaKeySupport
  | .direct _ (.executeControllerCommand _ cmd _) => cmd.cmd ≠ some .mediaKeySupport
  | _ => True

/-- No session supports MEDIA_KEY_SUPPORT. -/
def KeysApart (w : World W) : Prop :=
  ∀ s, SessionCmd.mediaKeySupport.code ∉ (w.sessions s).supportedCmd

/-- A setter that does not list the media key support leaves it unlisted. -/
theorem keysApart_update {i : CommandSession} {u : CommandSession.Update}
    (h : SessionCmd.mediaKeySupport.code ∉ i.supportedCmd)
    (hu : ∀ cmds, u = .setSupportCommand cmds → SessionCmd.mediaKeySupport.code ∉ cmds) :
    SessionCmd.mediaKeySupport.code ∉ (i.update u).supportedCmd := by
  cases u with
  | addSupportCommand cmd =>
      simp only [CommandSession.update, CommandSession.addSupportCommand]
      split_ifs with _ hkey
      · exact h
      · exact h
      · exact h
      · rw [List.mem_append, List.mem_singleton]
        rintro (hold | hnew)
        · exact h hold
        · exact hkey hnew.symm
  | deleteSupportCommand cmd =>
      simp only [CommandSession.update, CommandSession.deleteSupportCommand]
      split_ifs
      · exact h
      · exact h
      · exact fun hmem => h (List.mem_filter.mp hmem).1
  | setSupportCommand cmds => exact hu cmds rfl
  | _ => exact h

/-- The supported commands of a session change by an update only. -/
theorem supportedCmd_step (w : World W) (a : Act W) (s : SessionRef) :
    ((w.step z number a).sessions s).supportedCmd = (w.sessions s).supportedCmd ∨
      ∃ u, a = .update s u ∧
        ((w.step z number a).sessions s).supportedCmd = ((w.sessions s).update u).supportedCmd := by
  cases hchanges : changes a with
  | false => exact Or.inl (by rw [(keeps_step z number hchanges).sessions])
  | true =>
      cases a with
      | newController c pid s' hasMigrateProxy =>
          left
          show ((w.newController c pid s' hasMigrateProxy).sessions s).supportedCmd = _
          unfold newController
          split_ifs
          · rfl
          · simp only [sessions_withSession]
            split_ifs with heq
            · rw [heq]
            · rfl
      | destroyController c =>
          left
          show ((w.destroyController c).sessions s).supportedCmd = _
          unfold destroyController
          rcases w.controllers c with _ | ⟨pid, _ | s', hasMigrateProxy⟩
          · rfl
          · rfl
          · dsimp only
            split_ifs
            · rfl
            · simp only [sessions_withSession]
              split_ifs with heq
              · rw [heq]
              · rfl
      | destroyTask s' =>
          left
          show ((w.destroyTask s').sessions s).supportedCmd = _
          unfold destroyTask
          dsimp only
          split_ifs
          · rfl
          · simp only [sessions_withSession]
            split_ifs with heq
            · rw [heq]
            · rfl
      | update s' u =>
          show ((w.withSession s' ((w.sessions s').update u)).sessions s).supportedCmd = _ ∨ ∃ u',
            Act.update s' u = .update s u' ∧
              ((w.withSession s' ((w.sessions s').update u)).sessions s).supportedCmd = _
          rw [sessions_withSession]
          split_ifs with heq
          · subst heq
            exact Or.inr ⟨u, rfl, rfl⟩
          · exact Or.inl rfl
      | _ => cases hchanges

/-- Modest steps keep the media key support off every list. -/
theorem keysApart_step (h : KeysApart w) (ha : Modest a) : KeysApart (w.step z number a) := by
  intro s
  rcases supportedCmd_step z number w a s with hsame | ⟨u, rfl, hu⟩
  · rw [hsame]
    exact h s
  · rw [hu]
    refine keysApart_update (h s) ?_
    rintro cmds rfl
    exact ha

/-- While the media key support is on no list, every command that is looked up has a handler. -/
theorem not_runsMissingHandler (h : KeysApart w) (ha : Modest a) : ¬ RunsMissingHandler z w a := by
  rintro ⟨s, uid, cmd, sinkOk, hexec, hcmd, -⟩
  cases hexec with
  | control hdata hpasses =>
      have hcode : cmd.getCommand = SessionCmd.mediaKeySupport.code := by
        unfold AVControlCommand.getCommand
        rw [hcmd]
      have hsupported := hpasses.supported
      rw [hcode] at hsupported
      unfold CommandSession.getSupportCommand at hsupported
      split_ifs at hsupported
      · revert hsupported
        decide
      · exact h s hsupported
  | system hdata hlets => exact ha _ _ hdata hcmd
  | direct => exact ha hcmd

/-- **The missing handler.** In a run, the handler of MEDIA_KEY_SUPPORT, which is missing, is never
called exactly if no step has a session that is active and has a callback execute that command. -/
theorem empty_handler_iff (sessions : SessionRef → CommandSession) (as : List (Act W)) :
    Always (World.step z number) NoMissingHandler (init sessions) as ↔
      Meets (World.step z number) (fun w a => ¬ RunsMissingHandler z w a) (init sessions) as :=
  always_iff_meets (fun _ _ h => noMissingHandler_step z number h) as
    fun _ he => absurd he List.not_mem_nil

/-- Controllers never get that far: sessions are only told to add and to delete commands, and the
commands that are set as a whole, and those of system callers and of the service, are others. -/
theorem no_empty_handler (sessions : SessionRef → CommandSession)
    (hapart : ∀ s, SessionCmd.mediaKeySupport.code ∉ (sessions s).supportedCmd)
    (as : List (Act W)) (hmodest : ∀ a ∈ as, Modest a) :
    Always (World.step z number) NoMissingHandler (init sessions) as := by
  rw [empty_handler_iff]
  exact meets_of_meets (I := KeysApart) (fun w a h ha => keysApart_step z number h ha)
    (fun w a h ha => not_runsMissingHandler z h ha) hapart
    ((meets_forall_iff (World.step z number) (init sessions) as).mpr hmodest)

/-- **The missing handler, exactly.** -/
theorem missing_handler (sessions : SessionRef → CommandSession) (as : List (Act W)) :
    (Always (World.step z number) NoMissingHandler (init sessions) as ↔
      Meets (World.step z number) (fun w a => ¬ RunsMissingHandler z w a) (init sessions) as) ∧
    ((∀ s, SessionCmd.mediaKeySupport.code ∉ (sessions s).supportedCmd) →
      (∀ a ∈ as, Modest a) → Always (World.step z number) NoMissingHandler (init sessions) as) :=
  ⟨empty_handler_iff z number sessions as,
    fun hapart hmodest => no_empty_handler z number sessions hapart as hmodest⟩

/-- A session adds MEDIA_KEY_SUPPORT and PLAY. -/
theorem missing_handler_add : Always (World.step plainSetting fun _ => 0) NoMissingHandler
    (init (fun _ => idleSession) : World Unit)
    [.update 0 (.addSupportCommand 15), .update 0 (.addSupportCommand 0)] :=
  (missing_handler plainSetting (fun _ => 0) (fun _ => idleSession) _).2 (fun _ => by decide) (by
    intro a ha
    simp only [List.mem_cons, List.not_mem_nil, or_false] at ha
    rcases ha with rfl | rfl <;> trivial)

end World

end missing

end AvSession.Command
