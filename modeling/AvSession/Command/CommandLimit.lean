import AvSession.Command.Delivery

/-!
# The limit of commands

* `limitOp` — what an action does with the limit; `limited` — every step does just that.
* `act_of_call` — a limited request is refused exactly if the limit does not let the process
  through, and then nothing else happens.
* `length_callbacks_le` — a request reaches the application at most once.
* `command_limit` — how many requests of a process get through between firings of the timer.
-/

namespace AvSession.Command

open AvSession.Lib AvSession.Lib.Quota

variable {W : Type*} (z : Setting) (number : CommandSession.MediaKey → ℤ)

/-! ## How often a request reaches the application -/

section once

/-- A call of `callback_`. -/
def Effect.isApp : Effect W → Bool
  | .app _ _ => true
  | _ => false

namespace CommandSession

variable {i : CommandSession} {n : Notice W} {es rest : List (Effect W)} {cmd : AVControlCommand}

/-- At most one call of `callback_`. -/
def AtMostOnce (es : List (Effect W)) : Prop := es.countP Effect.isApp ≤ 1

/-- No call of `callback_`. -/
def Never (es : List (Effect W)) : Prop := es.countP Effect.isApp = 0

/-- Effects that never call back leave room for one call. -/
theorem Never.append (h : Never rest) (hes : AtMostOnce es) : AtMostOnce (rest ++ es) := by
  unfold AtMostOnce Never at *
  rw [List.countP_append]
  omega

/-- No effect, no call. -/
theorem never_nil : Never ([] : List (Effect W)) := rfl

/-- Telling the migrate callback is no call of the application. -/
theorem never_tellMigrate : Never (i.tellMigrate n) := by
  unfold tellMigrate
  cases i.callbackForMigrate <;> rfl

/-- Moving the session to the top is no call of the application. -/
theorem never_updateTop : Never (i.updateTop cmd : List (Effect W)) := by
  unfold updateTop
  cases cmd.getPlayParam with
  | none => rfl
  | some playParam =>
      simp only
      split_ifs <;> rfl

/-- The application is called once where its callback is there. -/
theorem atMostOnce_tellApp (h : Never rest) : AtMostOnce (i.tellApp n rest) := by
  unfold tellApp
  cases i.callback with
  | none => exact Nat.zero_le 1
  | some r =>
      unfold AtMostOnce Never at *
      rw [List.countP_cons, h]
      exact Nat.le_refl 1

/-- A command with a parameter calls it once at most. -/
theorem atMostOnce_tellParam {α : Type} (param : Option α) (n : α → Notice W) :
    AtMostOnce (i.tellParam param n) := by
  cases param with
  | none => exact Nat.zero_le 1
  | some v => exact atMostOnce_tellApp never_nil

/-- The same where the migrate callback is told as well. -/
theorem atMostOnce_tellParamBoth {α : Type} (param : Option α) (n : α → Notice W) :
    AtMostOnce (i.tellParamBoth param n) := by
  cases param with
  | none => exact Nat.zero_le 1
  | some v => exact never_tellMigrate.append (atMostOnce_tellApp never_nil)

/-- Every handler calls `callback_` at most once. -/
theorem atMostOnce_cmdHandlers (code : SessionCmd) :
    AtMostOnce (i.cmdHandlers cmd code : List (Effect W)) := by
  cases code with
  | play => exact never_tellMigrate.append (atMostOnce_tellApp never_updateTop)
  | pause => exact never_tellMigrate.append (atMostOnce_tellApp never_nil)
  | playNext | playPrevious => exact never_tellMigrate.append (atMostOnce_tellApp rfl)
  | stop | avcallAnswer | avcallHangUp | avcallToggleCallMute => exact atMostOnce_tellApp never_nil
  | fastForward | rewind | setSpeed | setTargetLoopMode | playFromAssetId | playWithAssetId =>
      exact atMostOnce_tellParam _ _
  | seek | setLoopMode | toggleFavorite => exact atMostOnce_tellParamBoth _ _
  | mediaKeySupport => exact Nat.zero_le 1

/-- A controller's command calls the application once at most. -/
theorem atMostOnce_executeControllerCommand (uid : Uid) (sinkOk : Bool) :
    AtMostOnce (i.executeControllerCommand z uid cmd sinkOk : List (Effect W)) := by
  unfold executeControllerCommand
  cases cmd.cmd with
  | none => exact Nat.zero_le 1
  | some code =>
      have hsent : Never (if i.surroundings.hasRemoteSink then
          [Effect.setControlCommand (i.withCaller z uid cmd)] else [] : List (Effect W)) := by
        split_ifs <;> rfl
      have hle : AtMostOnce (if i.surroundings.hasRemoteSink then
          [Effect.setControlCommand (i.withCaller z uid cmd)] else [] : List (Effect W)) := by
        unfold AtMostOnce
        rw [hsent]
        exact Nat.zero_le 1
      simp only
      split_ifs
      all_goals
        first
        | exact Nat.zero_le 1
        | exact hle
        | exact Never.append rfl (atMostOnce_cmdHandlers code)

/-- A common command calls the application once at most. -/
theorem atMostOnce_execueCommonCommand (commonCommand : String) (commandArgs : W) :
    AtMostOnce (i.execueCommonCommand commonCommand commandArgs) := by
  refine never_tellMigrate.append (atMostOnce_tellApp ?_)
  split_ifs <;> rfl

end CommandSession

end once

/-! ## The limit in the world -/

section limit

namespace World

variable (w : World W)

/-- The process is counted if the controller has a session. -/
def limitOpOf (caller : Caller) (c : ControllerRef) : Option (Op Pid) :=
  (w.sessionOf c).map fun _ => .call caller.pid

/-- What an action does with the limit: the requests that come as far as it call it. -/
def limitOp : Act W → Option (Op Pid)
  | .sendControlCommand caller c data _ =>
      match AVControlCommand.unmarshalling data with
      | none => none
      | some (cmd, _) =>
          match w.sessionOf c with
          | none => none
          | some s =>
              if cmd.getCommand ∈ (w.sessions s).getSupportCommand then some (.call caller.pid)
              else none
  | .sendCommonCommand caller c _ _ proxyRet =>
      if (w.controllers c).any (·.hasMigrateProxy) ∧ proxyRet ≠ 0 then none
      else w.limitOpOf caller c
  | .getExtras caller c => w.limitOpOf caller c
  | .sendSystemControlCommand caller permitted procSession data _ _ =>
      if permitted = true ∧ procSession.isSome = true ∧
          (AVControlCommand.unmarshalling data).isSome = true then some (.call caller.pid)
      else none
  | .startTimer => some .start
  | .stopTimer => some .stop
  | .clearCommandLimits => some .clear
  | _ => none

variable {w} {a : Act W} {pid : Pid} {s : SessionRef} {c : ControllerRef}
  {cmd : AVControlCommand} {rest : List Token}

/-- What a session does is logged under its name. -/
@[simp] theorem log_does (s : SessionRef) (es : List (Effect W)) :
    (w.does s es).log = w.log ++ es.map (s, ·) := rfl

/-- **The limit in a step.** -/
theorem limited :
    Limited z.commandSendNumMax (step z number : World W → Act W → World W) World.limit
      limitOp := by
  intro w a
  unfold World.step World.act
  cases a with
  | sendControlCommand caller c data sinkOk =>
      simp only [handleSendControlCommand, limitOp]
      rcases AVControlCommand.unmarshalling data with _ | ⟨cmd, rest⟩
      · rfl
      · simp only [sendControlCommand]
        rcases w.sessionOf c with _ | s
        · rfl
        · by_cases hcmd : cmd.getCommand ∈ (w.sessions s).getSupportCommand
          · simp only [hcmd, not_true_eq_false, if_false, if_true]
            split_ifs <;> rfl
          · simp only [hcmd, not_false_eq_true, if_false, if_true]
            rfl
  | sendCommonCommand caller c commonCommand commandArgs proxyRet =>
      simp only [sendCommonCommand, limitOp, limitOpOf]
      by_cases hproxy : (w.controllers c).any (·.hasMigrateProxy) ∧ proxyRet ≠ 0
      · rw [if_pos hproxy, if_pos hproxy]
        rfl
      · rw [if_neg hproxy, if_neg hproxy]
        rcases w.sessionOf c with _ | s
        · rfl
        · simp only
          split_ifs <;> rfl
  | getExtras caller c =>
      simp only [getExtras, limitOp, limitOpOf]
      rcases w.sessionOf c with _ | s
      · rfl
      · simp only
        split_ifs <;> rfl
  | sendSystemControlCommand caller permitted procSession data keyEvent sinkOk =>
      simp only [handleSendSystemControlCommand, limitOp]
      rcases AVControlCommand.unmarshalling data with _ | ⟨cmd, rest⟩
      · simp only [Option.isSome_none, Bool.false_eq_true, and_false, if_false]
        rfl
      · rcases procSession with _ | s
        · simp only [sendSystemControlCommand, Option.isSome_none, Bool.false_eq_true, and_false,
            false_and, if_false]
          split_ifs <;> rfl
        · cases permitted with
          | false => rfl
          | true =>
              simp only [sendSystemControlCommand, Option.isSome_some, and_self, if_true]
              split_ifs <;> rfl
  | sendCustomData c data holdsText =>
      simp only [sendCustomData]
      split_ifs
      · rfl
      · rcases w.sessionOf c with _ | s <;> rfl
  | skipToQueueItem c itemId =>
      simp only [skipToQueueItem]
      rcases w.sessionOf c with _ | s <;> rfl
  | sendAVKeyEvent c key =>
      simp only [sendAVKeyEvent]
      rcases w.sessionOf c with _ | s <;> rfl
  | newController c pid s hasMigrateProxy =>
      simp only [newController]
      split_ifs <;> rfl
  | destroyController c =>
      simp only [destroyController]
      rcases w.controllers c with _ | ⟨pid, _ | s, hasMigrateProxy⟩
      · rfl
      · rfl
      · simp only
        split_ifs <;> rfl
  | destroyTask s =>
      simp only [destroyTask]
      split_ifs <;> rfl
  | direct s d => rfl
  | startTimer | stopTimer | clearCommandLimits | update s u => rfl

/-- A request of a process that comes as far as the limit: it is refused exactly if the limit does not
let the process through, and nothing else happens then; else, an application is called at most
once. -/
structure LimitedRequest (w : World W) (pid : Pid) (r : World W × Answer) : Prop where
  answer : r.2 = .errCommandSendExceedMax ↔ w.limit.lets z.commandSendNumMax pid = false
  sessions : r.1.sessions = w.sessions
  controllers : r.1.controllers = w.controllers
  quiet : w.limit.lets z.commandSendNumMax pid = false → r.1.log = w.log
  once : ∃ (s : SessionRef) (es : List (Effect W)), CommandSession.AtMostOnce es ∧
    r.1.log = w.log ++ es.map (s, ·)

/-- The requests that ask the limit last. -/
theorem LimitedRequest.of_ite {w₁ : World W} {ans : Answer} (hsessions : w₁.sessions = w.sessions)
    (hcontrollers : w₁.controllers = w.controllers) (hans : ans ≠ .errCommandSendExceedMax)
    (hlog : ∃ (s : SessionRef) (es : List (Effect W)), CommandSession.AtMostOnce es ∧
      w₁.log = w.log ++ es.map (s, ·)) :
    LimitedRequest z w pid (if (w.isCommandSendEnable z pid).2 then (w₁, ans)
      else ((w.isCommandSendEnable z pid).1, .errCommandSendExceedMax)) := by
  have hsnd : (w.isCommandSendEnable z pid).2 = w.limit.lets z.commandSendNumMax pid := rfl
  by_cases hlets : w.limit.lets z.commandSendNumMax pid = true
  · rw [hsnd, if_pos hlets]
    refine ⟨?_, hsessions, hcontrollers, ?_, hlog⟩
    · exact iff_of_false hans (by rw [hlets]; exact Bool.noConfusion)
    · intro hno
      rw [hlets] at hno
      cases hno
  · rw [hsnd, if_neg hlets]
    rw [Bool.not_eq_true] at hlets
    exact ⟨iff_of_true rfl hlets, rfl, rfl, fun _ => rfl,
      0, [], Nat.zero_le 1, (List.append_nil _).symm⟩

/-- **One request.** -/
theorem act_of_call (h : limitOp w a = some (.call pid)) :
    LimitedRequest z w pid (w.act z number a) := by
  have hif : ∀ {p : Prop} [Decidable p] {k : Pid},
      (if p then some (Op.call k) else none) = some (.call pid) → p ∧ k = pid := by
    intro p _ k hp
    split_ifs at hp with hcond
    exact ⟨hcond, Op.call.inj (Option.some.inj hp)⟩
  unfold World.act
  cases a with
  | sendControlCommand caller c data sinkOk =>
      simp only [limitOp] at h
      simp only [handleSendControlCommand]
      rcases hdata : AVControlCommand.unmarshalling data with _ | ⟨cmd, rest⟩
      · rw [hdata] at h
        cases h
      · rw [hdata] at h
        simp only [sendControlCommand] at h ⊢
        rcases hs : w.sessionOf c with _ | s
        · rw [hs] at h
          cases h
        · rw [hs] at h
          obtain ⟨hcmd, rfl⟩ := hif h
          simp only [hcmd, not_true_eq_false, if_false]
          exact .of_ite z rfl rfl (by simp)
            ⟨s, _, CommandSession.atMostOnce_executeControllerCommand z _ _, rfl⟩
  | sendCommonCommand caller c commonCommand commandArgs proxyRet =>
      simp only [limitOp, limitOpOf] at h
      simp only [sendCommonCommand]
      split_ifs at h with hproxy
      rw [if_neg hproxy]
      rcases hs : w.sessionOf c with _ | s
      · rw [hs] at h
        cases h
      · rw [hs] at h
        obtain rfl := Op.call.inj (Option.some.inj h)
        exact .of_ite z rfl rfl (by simp)
          ⟨s, _, CommandSession.atMostOnce_execueCommonCommand _ _, rfl⟩
  | getExtras caller c =>
      simp only [limitOp, limitOpOf] at h
      simp only [getExtras]
      rcases hs : w.sessionOf c with _ | s
      · rw [hs] at h
        cases h
      · rw [hs] at h
        obtain rfl := Op.call.inj (Option.some.inj h)
        exact .of_ite z rfl rfl (by simp)
          ⟨s, [], Nat.zero_le 1, (List.append_nil _).symm⟩
  | sendSystemControlCommand caller permitted procSession data keyEvent sinkOk =>
      simp only [limitOp] at h
      obtain ⟨⟨rfl, hsession, hdata⟩, rfl⟩ := hif h
      obtain ⟨s, rfl⟩ := Option.isSome_iff_exists.mp hsession
      obtain ⟨⟨cmd, rest⟩, hdata⟩ := Option.isSome_iff_exists.mp hdata
      simp only [handleSendSystemControlCommand, hdata, sendSystemControlCommand, if_true]
      rw [← ite_not]
      simp only [Bool.not_eq_false]
      cases keyEvent with
      | false =>
          exact .of_ite z rfl rfl (by simp) ⟨s, [], Nat.zero_le 1, (List.append_nil _).symm⟩
      | true =>
          exact .of_ite z rfl rfl (by simp)
            ⟨s, _, CommandSession.atMostOnce_executeControllerCommand z _ _, rfl⟩
  | _ => cases h

end World

end limit

/-! ## Runs -/

section runs

namespace World

/-- Nothing has happened, and the timer has not been started. -/
def init (sessions : SessionRef → CommandSession) : World W :=
  { limit := Quota.init, sessions, controllers := fun _ => none, log := [] }

/-- How often the requests of a process call applications in a run. -/
def heardFrom (pid : Pid) : World W → List (Act W) → ℕ
  | _, [] => 0
  | w, a :: as =>
      (if isCall limitOp pid w a then (w.done z number a).countP (fun e => e.2.isApp) else 0) +
        heardFrom pid (w.step z number a) as

variable {w : World W} {a : Act W} {pid : Pid} {as bs : List (Act W)}

/-- One request is heard at most once, and only if it is let through. -/
theorem heard_le (h : isCall limitOp pid w a = true) :
    (w.done z number a).countP (fun e => e.2.isApp) ≤
      (isPass z.commandSendNumMax World.limit limitOp pid w a).toNat := by
  have hcall : limitOp w a = some (.call pid) := by
    unfold isCall at h
    split at h
    · next k hk => rw [hk, of_decide_eq_true h]
    · cases h
  have hreq := act_of_call z number hcall
  unfold isPass done World.step
  rw [h, Bool.true_and]
  by_cases hlets : w.limit.lets z.commandSendNumMax pid = true
  · obtain ⟨s, es, hes, hlog⟩ := hreq.once
    rw [hlets, hlog, List.drop_left, List.countP_map]
    exact hes
  · rw [Bool.not_eq_true] at hlets
    rw [hlets, hreq.quiet hlets, List.drop_length]
    exact Nat.le_refl 0

/-- A process is heard no more often than its commands pass the limiter. -/
theorem heardFrom_le (pid : Pid) (w : World W) (as : List (Act W)) :
    heardFrom z number pid w as ≤
      countSteps (World.step z number)
        (isPass z.commandSendNumMax World.limit limitOp pid) w as := by
  induction as generalizing w with
  | nil => exact Nat.le_refl 0
  | cons a as ih =>
      have hrest := ih (w.step z number a)
      rw [heardFrom, countSteps]
      split_ifs with h
      · have hstep := heard_le z number h
        omega
      · omega

/-- Only the actions of the timer do anything else with the limit than call it. -/
theorem limitOp_cases {o : Op Pid} (h : limitOp w a = some o) :
    (∃ pid, o = .call pid) ∨ (a = .startTimer ∧ o = .start) ∨ (a = .stopTimer ∧ o = .stop) ∨
      (a = .clearCommandLimits ∧ o = .clear) := by
  have hif : ∀ {p : Prop} [Decidable p] {k : Pid},
      (if p then some (Op.call k) else none) = some o → ∃ pid, o = .call pid := by
    intro p _ k hp
    split_ifs at hp with hcond
    exact ⟨k, (Option.some.inj hp).symm⟩
  have hof : ∀ {caller : Caller} {c : ControllerRef}, w.limitOpOf caller c = some o →
      ∃ pid, o = .call pid := by
    intro caller c hc
    obtain ⟨s, -, ho⟩ := Option.map_eq_some_iff.mp hc
    exact ⟨caller.pid, ho.symm⟩
  cases a with
  | startTimer => exact Or.inr (Or.inl ⟨rfl, (Option.some.inj h).symm⟩)
  | stopTimer => exact Or.inr (Or.inr (Or.inl ⟨rfl, (Option.some.inj h).symm⟩))
  | clearCommandLimits => exact Or.inr (Or.inr (Or.inr ⟨rfl, (Option.some.inj h).symm⟩))
  | sendControlCommand caller c data sinkOk =>
      left
      simp only [limitOp] at h
      rcases hdata : AVControlCommand.unmarshalling data with _ | ⟨cmd, rest⟩
      · rw [hdata] at h
        cases h
      · rw [hdata] at h
        rcases hs : w.sessionOf c with _ | s
        · rw [hs] at h
          cases h
        · rw [hs] at h
          exact hif h
  | sendCommonCommand caller c commonCommand commandArgs proxyRet =>
      left
      simp only [limitOp] at h
      split_ifs at h
      exact hof h
  | getExtras caller c => exact Or.inl (hof h)
  | sendSystemControlCommand caller permitted procSession data keyEvent sinkOk =>
      exact Or.inl (hif h)
  | _ => cases h

/-- Only the timer's stop stops the limiter. -/
theorem ne_stop (h : a ≠ .stopTimer) : limitOp w a ≠ some .stop := by
  intro hstop
  rcases limitOp_cases hstop with ⟨pid, ho⟩ | ⟨-, ho⟩ | ⟨rfl, -⟩ | ⟨-, ho⟩
  · cases ho
  · cases ho
  · exact h rfl
  · cases ho

/-- Only the timer clears the limits. -/
theorem ne_clear (h : a ≠ .clearCommandLimits) : limitOp w a ≠ some .clear := by
  intro hclear
  rcases limitOp_cases hclear with ⟨pid, ho⟩ | ⟨-, ho⟩ | ⟨-, ho⟩ | ⟨rfl, -⟩
  · cases ho
  · cases ho
  · cases ho
  · exact h rfl

/-- The timer fires. -/
def fires : Act W → Bool
  | .clearCommandLimits => true
  | _ => false

/-- Only the timer clears the limit. -/
theorem isClear_le (w : World W) (a : Act W) : isClear limitOp w a = true → fires a = true := by
  intro h
  unfold isClear at h
  split at h
  · next hop =>
    by_contra hno
    have hne : a ≠ .clearCommandLimits := by
      rintro rfl
      exact hno rfl
    exact ne_clear hne hop
  · cases h

/-- The limits are cleared as often as the timer fires. -/
theorem clears_le (w : World W) (as : List (Act W)) :
    countSteps (World.step z number) (isClear limitOp) w as ≤ as.countP fires := by
  induction as generalizing w with
  | nil => exact Nat.le_refl 0
  | cons a as ih =>
      have hrest := ih (w.step z number a)
      have hstep := isClear_le w a
      rw [countSteps, List.countP_cons]
      cases hc : isClear limitOp w a with
      | false =>
          rw [Bool.toNat_false]
          split_ifs <;> omega
      | true =>
          rw [Bool.toNat_true, if_pos (hstep hc)]
          omega

/-- **The limit of commands.** Let the timer run, and not be stopped. The requests of one process, to
all sessions together, that are let through are at most `COMMAND_SEND_NUM_MAX` for each firing of the
timer and as many more, and applications are not called more often by them. As long as the timer has
not fired, the requests that come as far as the limit are answered ERR_COMMAND_SEND_EXCEED_MAX from
the one behind `COMMAND_SEND_NUM_MAX` on, and no earlier. -/
theorem command_limit (sessions : SessionRef → CommandSession) (as bs : List (Act W)) (pid : Pid)
    (hon : (run (World.step z number) (init sessions) as).limit.on = true)
    (hbs : ∀ b ∈ bs, b ≠ .stopTimer) :
    let w := run (World.step z number) (init sessions) as
    heardFrom z number pid w bs ≤ countSteps (World.step z number)
        (isPass z.commandSendNumMax World.limit limitOp pid) w bs ∧
      countSteps (World.step z number)
        (isPass z.commandSendNumMax World.limit limitOp pid) w bs ≤
        (bs.countP fires + 1) * z.commandSendNumMax ∧
      ((∀ b ∈ bs, b ≠ .clearCommandLimits) → ∀ a,
        limitOp (run (World.step z number) w bs) a = some (.call pid) →
        (((run (World.step z number) w bs).act z number a).2 = .errCommandSendExceedMax ↔
          z.commandSendNumMax ≤ w.limit.used pid +
            countSteps (World.step z number) (isCall limitOp pid) w bs)) := by
  intro w
  have hlimited : Limited z.commandSendNumMax (World.step z number) World.limit
      (limitOp : World W → Act W → Option (Op Pid)) := limited z number
  have hinv : Inv z.commandSendNumMax w.limit := hlimited.inv_run inv_init as
  have hkeeps : Meets (World.step z number) (KeepsOn limitOp) w bs := by
    have hstops := (meets_forall_iff (World.step z number) w bs).mpr hbs
    exact meets_of_meets (I := fun _ => True) (fun _ _ _ _ => trivial)
      (fun _ _ _ h => ne_stop h) trivial hstops
  refine ⟨heardFrom_le z number pid w bs, ?_, ?_⟩
  · have hpasses := hlimited.passes_le (k := pid) hinv hon hkeeps
    have hclears := Nat.mul_le_mul_right z.commandSendNumMax
      (Nat.succ_le_succ (clears_le z number w bs))
    simp only [Nat.succ_eq_add_one] at hclears
    omega
  · intro hnot a ha
    have hcounts : Meets (World.step z number) (KeepsCounts limitOp) w bs := by
      have hboth : ∀ b ∈ bs, b ≠ .stopTimer ∧ b ≠ .clearCommandLimits :=
        fun b hb => ⟨hbs b hb, hnot b hb⟩
      exact meets_of_meets (I := fun _ => True) (fun _ _ _ _ => trivial)
        (fun _ _ _ h => ⟨ne_stop h.1, ne_clear h.2⟩) trivial
        ((meets_forall_iff (World.step z number) w bs).mpr hboth)
    have hlets := hlimited.lets_run_iff (k := pid) hinv hon hcounts
    rw [(act_of_call z number ha).answer, ← Bool.not_eq_true, hlets]
    omega

/-- A session that does nothing yet. -/
def idleSession : CommandSession where
  sessionId := "1"
  bundleName := "music"
  abilityName := "main"
  supportedCmd := []
  isMediaKeySupport := false
  isActive := false
  isDestroyed := false
  callback := none
  callbackForMigrate := none
  controllers := []
  surroundings := ⟨false, [], 0, 0, 0, 0, false⟩

/-- A setting without names. -/
def plainSetting : Setting := ⟨fun _ => "", 1002, 1003, fun _ => "", false⟩

/-- The eleventh request behind the start of the timer. -/
theorem command_limit_eleventh :
    ((run (World.step plainSetting fun _ => 0)
      (run (World.step plainSetting fun _ => 0) (init fun _ => idleSession)
        [.startTimer, .newController 0 7 0 false])
      (List.replicate 10 (.getExtras ⟨7, 20⟩ 0)) : World Unit).act plainSetting (fun _ => 0)
      (.getExtras ⟨7, 20⟩ 0)).2 = .errCommandSendExceedMax :=
  ((command_limit plainSetting (fun _ => 0) (fun _ => idleSession)
    [.startTimer, .newController 0 7 0 false] (List.replicate 10 (.getExtras ⟨7, 20⟩ 0)) 7 rfl
    (by simp)).2.2 (by simp) _ rfl).mpr (by decide)

end World

end runs

end AvSession.Command
