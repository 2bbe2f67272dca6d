import AvSession.Pcm.Holding

/-!
# When a session that plays on the device can stop

A session becomes a stream player of the cast of all sound when an object has found it. Its own stop
then only asks the object that the service knows, which releases the session that it remembers. A
session that is not remembered there can not be stopped.

* `World.players` — the objects as holders of sessions that play, with an equation for each
  operation.
* `Stoppable` — a session that plays does not any more after its stop.
* `stoppable_step_iff` — one step; `KeepsPlayers` names the ones that lose no session.
* `players_in_hand` — runs.
-/

namespace AvSession.Pcm

open AvSession.Lib

namespace World

/-! ## Objects as holders of sessions -/

section players

variable (w : World)

/-- A session that is a stream player. -/
def Playing (sessionId : String) : Prop :=
  ∃ session, w.sessions sessionId = some session ∧ session.isHiPlayStreamCasting = true

/-- The objects remember the sessions that play; the known one is within reach. -/
def players : Holders PcmRef String :=
  ⟨{p | w.pcmCastSession = some p}, {sessionId | w.Playing sessionId},
    fun p => (w.pcms p).streamCastingSessionId⟩

/-- The known object is the one within reach. -/
@[simp] theorem mem_reach_players {p : PcmRef} :
    p ∈ w.players.reach ↔ w.pcmCastSession = some p := Iff.rfl

/-- What an object holds is the session that it remembers. -/
@[simp] theorem handle_players (p : PcmRef) :
    w.players.handle p = (w.pcms p).streamCastingSessionId := rfl

/-- The sessions that play. -/
@[simp] theorem mem_going_players {sessionId : String} :
    sessionId ∈ w.players.going ↔ w.Playing sessionId := Iff.rfl

/-- To change an object is to give it a session. -/
theorem players_setPcm (p : PcmRef) (x : PcmCastSession) :
    (w.setPcm p x).players = w.players.give p x.streamCastingSessionId := by
  refine Holders.ext rfl rfl ?_
  funext q
  by_cases hq : q = p
  · subst hq
    simp [setPcm, players, Holders.give]
  · simp [setPcm, players, Holders.give, Function.update_of_ne hq]

/-- A change of an object that leaves the session it remembers. -/
theorem players_setPcm_of_eq {p : PcmRef} {x : PcmCastSession}
    (hx : x.streamCastingSessionId = (w.pcms p).streamCastingSessionId) :
    (w.setPcm p x).players = w.players := by
  rw [players_setPcm, hx, ← handle_players, Holders.give_handle]

/-- A session is taken off the device. -/
theorem players_setIsHiPlayStreamCasting_false (sessionId : String) (castHandle : ℤ) :
    (w.setIsHiPlayStreamCasting sessionId false castHandle).players =
      w.players.finish sessionId := by
  have hset : {s | (w.setIsHiPlayStreamCasting sessionId false castHandle).Playing s} =
      {s | w.Playing s} \ {sessionId} := by
    ext s
    by_cases hs : s = sessionId
    · subst hs
      simp [Playing, setIsHiPlayStreamCasting]
    · simp [Playing, setIsHiPlayStreamCasting, hs]
  exact Holders.ext rfl hset rfl

/-- A session that exists is put on the device. -/
theorem players_setIsHiPlayStreamCasting_true {sessionId : String}
    (hs : (w.sessions sessionId).isSome = true) (castHandle : ℤ) :
    (w.setIsHiPlayStreamCasting sessionId true castHandle).players =
      w.players.start sessionId := by
  obtain ⟨session, hsession⟩ := Option.isSome_iff_exists.mp hs
  have hset : {s | (w.setIsHiPlayStreamCasting sessionId true castHandle).Playing s} =
      insert sessionId {s | w.Playing s} := by
    ext s
    by_cases hss : s = sessionId
    · subst hss
      simp [Playing, setIsHiPlayStreamCasting, hsession]
    · simp [Playing, setIsHiPlayStreamCasting, hss]
  exact Holders.ext rfl hset rfl

/-- Without the session, nothing changes. -/
theorem setIsHiPlayStreamCasting_of_none {sessionId : String} {b : Bool} {castHandle : ℤ}
    (hs : (w.sessions sessionId).isSome = false) :
    w.setIsHiPlayStreamCasting sessionId b castHandle = w := by
  simp only [Option.isSome_eq_false_iff, Option.isNone_iff_eq_none] at hs
  have hsame : Function.update w.sessions sessionId none = w.sessions :=
    hs ▸ Function.update_eq_self ..
  simp [setIsHiPlayStreamCasting, hs, hsame]

/-- A session that plays is there. -/
theorem playing_isSome {sessionId : String} (h : w.Playing sessionId) :
    (w.sessions sessionId).isSome = true := by
  obtain ⟨session, hsession, -⟩ := h
  simp [hsession]

/-- What an object remembers is released, and forgotten, if it is there. -/
theorem players_releaseStreamPlayer (p : PcmRef) :
    (w.releaseStreamPlayer p).players =
      if (w.sessions (w.pcms p).streamCastingSessionId).isSome then (w.players.stop p).give p ""
      else w.players := by
  simp only [releaseStreamPlayer]
  split
  · rw [players_setPcm, players_setIsHiPlayStreamCasting_false]
    rfl
  · rfl

/-- What plays after a release is all but what the object remembered. -/
theorem going_releaseStreamPlayer (p : PcmRef) :
    (w.releaseStreamPlayer p).players.going = (w.players.stop p).going := by
  rw [players_releaseStreamPlayer]
  split
  · rfl
  · rename_i hnone
    ext s
    constructor
    · intro hs
      refine ⟨hs, ?_⟩
      rintro rfl
      exact hnone (w.playing_isSome hs)
    · exact fun hs => hs.1

/-- To the players a stop is a release. -/
@[simp] theorem players_pcmStopCast (p : PcmRef) :
    (w.pcmStopCast p).players = (w.releaseStreamPlayer p).players := rfl

/-- The end of a cast does not matter to them. -/
@[simp] theorem players_destroyTask (p : PcmRef) : (w.destroyTask p).players = w.players := by
  apply players_setPcm_of_eq
  rfl

/-- To the players an object that leaves its device is a release. -/
@[simp] theorem players_leaveDevice (p : PcmRef) :
    (w.leaveDevice p).players = (w.releaseStreamPlayer p).players :=
  players_destroyTask _ p

/-- A connection does not matter to them. -/
@[simp] theorem players_connect (p : PcmRef) (deviceId : String) (z : Answers) :
    (w.connect p deviceId z).1.players = w.players := by
  unfold connect
  cases z.castStarted with
  | false =>
      apply players_setPcm_of_eq
      rfl
  | true =>
      cases z.deviceAdded with
      | true =>
          apply ((w.routerStartCast p).routerAddDevice _ deviceId).players_setPcm_of_eq
          rfl
      | false =>
          refine (players_destroyTask _ p).trans ?_
          apply (w.routerStartCast p).players_setPcm_of_eq
          rfl

/-- The remembered session plays, if it is there. -/
theorem players_findSessionAndStreamCasting (p : PcmRef) :
    (w.findSessionAndStreamCasting p).players =
      if (w.sessions (w.pcms p).streamCastingSessionId).isSome then
        w.players.start (w.pcms p).streamCastingSessionId
      else w.players := by
  unfold findSessionAndStreamCasting
  split
  · rename_i hs
    exact w.players_setIsHiPlayStreamCasting_true hs _
  · rename_i hs
    rw [setIsHiPlayStreamCasting_of_none _ (by simpa using hs)]

/-- A new object remembers nothing and is the known one. -/
theorem players_newPcm :
    w.newPcm.players = (w.players.give w.nextPcm "").within {p | some w.nextPcm = some p} :=
  congrArg (Holders.within · _) (w.players_setPcm w.nextPcm .init)

/-- The known object alone is within reach. -/
theorem reach_players_of_some {p : PcmRef} (hp : w.pcmCastSession = some p) :
    w.players.reach = {p} := by
  ext q
  rw [mem_reach_players, hp, Option.some.injEq, Set.mem_singleton_iff, eq_comm]

/-- Without a known object, none is. -/
theorem reach_players_of_none (hp : w.pcmCastSession = none) : w.players.reach = ∅ := by
  ext q
  simp [hp]

/-- The service forgets its object. -/
theorem players_forget :
    ({ w with pcmCastSession := none } : World).players = w.players.within ∅ :=
  Holders.ext (reach_players_of_none _ rfl) rfl rfl

end players

/-! ## What a stop does -/

section stops

variable {w : World}

/-- A session that plays does not any more after its stop. -/
def Stoppable (w : World) : Prop :=
  ∀ sessionId, w.Playing sessionId → ¬ w.releaseStreamPlayerCommand.Playing sessionId

/-- **What is in hand can be stopped**, and only that. -/
theorem stoppable_iff : w.Stoppable ↔ w.players.InHand := by
  unfold Stoppable releaseStreamPlayerCommand
  cases hp : w.pcmCastSession with
  | none =>
      constructor
      · intro h
        exact Holders.inHand_of_not_going fun s hs => h s hs hs
      · intro h s hs
        exact absurd hs (h.not_going (w.reach_players_of_none hp) s)
  | some p =>
      have hgoing : ∀ s, (w.releaseStreamPlayer p).Playing s ↔ s ∈ (w.players.stop p).going := by
        intro s
        rw [← going_releaseStreamPlayer]
        rfl
      rw [Holders.inHand_iff_stop (w.reach_players_of_some hp)]
      simp only [hgoing]
      constructor
      · intro h s hs
        exact h s hs.1 hs
      · intro h s _
        exact h s

/-- A release takes away only what plays. -/
theorem inHand_releaseStreamPlayer (h : w.players.InHand) (p : PcmRef) :
    (w.releaseStreamPlayer p).players.InHand := by
  rw [players_releaseStreamPlayer]
  split
  · exact h.stop_give p ""
  · exact h

/-- An object that starts over puts no session on its device. -/
theorem inHand_startOver (h : w.players.InHand) (p : PcmRef) (deviceId : String) (z : Answers) :
    (w.startOver p deviceId z).players.InHand := by
  have hconnect : (w.connect p deviceId z).1.players.InHand := by
    rw [players_connect]
    exact h
  simp only [startOver, subStartCast, connect_snd]
  split
  · split
    · exact hconnect
    · rw [players_leaveDevice]
      exact inHand_releaseStreamPlayer hconnect p
  · rw [players_leaveDevice]
    exact inHand_releaseStreamPlayer h p

/-- A disconnect puts none there. -/
theorem inHand_handleDeviceDisconnect (h : w.players.InHand) (p : PcmRef) (z : Answers) :
    (w.handleDeviceDisconnect p z).players.InHand := by
  have hleft : (w.leaveDevice p).players.InHand := by
    rw [players_leaveDevice]
    exact inHand_releaseStreamPlayer h p
  simp only [handleDeviceDisconnect]
  split
  · exact hleft
  · apply inHand_startOver
    rw [players_setPcm_of_eq]
    · exact hleft
    · rfl

/-- A start on an object puts none there. -/
theorem inHand_pcmStartCast (h : w.players.InHand) (p : PcmRef) (sessionId deviceId : String)
    (protocols : SupportedProtocols) (z : Answers) :
    (w.pcmStartCast p sessionId deviceId protocols z).players.InHand := by
  have hconnect : (w.connect p deviceId z).1.players.InHand := by
    rw [players_connect]
    exact h
  simp only [pcmStartCast, startScreenCast, subStartCast]
  split_ifs
  · exact h
  · rw [players_pcmStopCast]
    apply inHand_releaseStreamPlayer
    rw [players_setPcm_of_eq]
    · exact h
    · rfl
  · exact hconnect
  · exact h
  · exact hconnect
  · exact h

/-- The player is released before its object is forgotten. -/
theorem inHand_players_stopPcm (h : w.players.InHand) : w.stopPcm.players.InHand := by
  unfold stopPcm
  split
  · rename_i p hp
    have hgoing : (({ w with pcmCastSession := none } : World).pcmStopCast p).players.going =
        (w.players.stop p).going := going_releaseStreamPlayer ..
    apply Holders.inHand_of_not_going
    rw [hgoing]
    exact (Holders.inHand_iff_stop (w.reach_players_of_some hp)).mp h
  · exact h

/-- An object puts the session that it remembers on the device. -/
theorem inHand_findSessionAndStreamCasting_iff (h : w.players.InHand) (p : PcmRef) :
    (w.findSessionAndStreamCasting p).players.InHand ↔
      ((w.sessions (w.pcms p).streamCastingSessionId).isSome = true →
        ∃ q, w.pcmCastSession = some q ∧
          (w.pcms q).streamCastingSessionId = (w.pcms p).streamCastingSessionId) := by
  rw [players_findSessionAndStreamCasting]
  split
  · rename_i hs
    rw [Holders.inHand_start_iff]
    simp [hs, h]
  · rename_i hs
    simp [hs, h]

/-- With a session to put on the device, an object does so when the device streams. -/
theorem inHand_onCastStateChange_players_iff (h : w.players.InHand) (p : PcmRef)
    (castState : DeviceState) (z : Answers) :
    (w.onCastStateChange p castState z).players.InHand ↔
      (castState = .stream → (w.pcms p).needStreamCasting = true →
        (w.sessions (w.pcms p).streamCastingSessionId).isSome = true →
        ∃ q, w.pcmCastSession = some q ∧
          (w.pcms q).streamCastingSessionId = (w.pcms p).streamCastingSessionId) := by
  have hsame : ∀ {x : PcmCastSession},
      x.streamCastingSessionId = (w.pcms p).streamCastingSessionId →
        (w.setPcm p x).players = w.players := fun hx => w.players_setPcm_of_eq hx
  cases castState with
  | disconnected =>
      simp only [onCastStateChange, reduceCtorEq, false_imp_iff, iff_true]
      exact inHand_handleDeviceDisconnect h p z
  | connected | playing =>
      simp only [onCastStateChange, reduceCtorEq, false_imp_iff, iff_true]
      rw [hsame]
      · exact h
      · rfl
  | stream =>
      simp only [onCastStateChange, forall_const]
      cases hneed : (w.pcms p).needStreamCasting with
      | false =>
          simp only [Bool.false_eq_true, if_false, false_imp_iff, iff_true]
          rw [hsame]
          · exact h
          · rfl
      | true =>
          simp only [if_true, forall_const]
          let w' := w.setPcm p { w.pcms p with castState := .stream, needStreamCasting := false }
          have hplayers : w'.players = w.players := by
            apply hsame
            rfl
          have hstream : ∀ q, (w'.pcms q).streamCastingSessionId =
              (w.pcms q).streamCastingSessionId := congrFun (congrArg Holders.handle hplayers)
          have hone := inHand_findSessionAndStreamCasting_iff (hplayers ▸ h) p
          simp only [hstream] at hone
          exact hone
  | other =>
      simp only [onCastStateChange, reduceCtorEq, false_imp_iff, iff_true]
      exact h

/-- Whatever plays already must be the session that is to play. -/
theorem inHand_createStreamPlayer_iff {p : PcmRef} (hp : w.pcmCastSession = some p)
    (sessionId : String) :
    (w.createStreamPlayer p sessionId).players.InHand ↔
      ∀ s, w.Playing s → s = sessionId := by
  have hgive : (w.players.give p sessionId).InHand ↔ ∀ s, w.Playing s → s = sessionId :=
    Holders.inHand_give_of_reach_iff (w.reach_players_of_some hp) sessionId
  simp only [createStreamPlayer]
  split
  · rw [players_findSessionAndStreamCasting, players_setPcm, pcms_setPcm_self]
    split
    · rw [Holders.inHand_start_iff, hgive]
      simp [hp]
    · exact hgive
  · rw [players_setPcm]
    exact hgive

end stops

/-! ## Steps -/

section steps

variable {w : World}

/-- The steps that lose no session: nothing plays when the object is forgotten without a stop, only
one session is put on the device at a time, and an object that has become unknown does not put one
there. -/
def KeepsPlayers (w : World) : Act → Prop
  | .clearPcmSessionForClientDied => ∀ s, ¬ w.Playing s
  | .createStreamPlayer sessionId => ∀ s, w.Playing s → s = sessionId
  | .runTask _ => ∀ p tasks, w.tasks = (p, .stream) :: tasks →
      (w.pcms p).needStreamCasting = true →
      (w.sessions (w.pcms p).streamCastingSessionId).isSome = true →
        ∃ q, w.pcmCastSession = some q ∧
          (w.pcms q).streamCastingSessionId = (w.pcms p).streamCastingSessionId
  | _ => True

/-- A start of the service puts none there. -/
theorem inHand_players_startCast (h : w.players.InHand) (sessionId deviceId : String)
    (protocols : SupportedProtocols) (z : Answers) :
    (w.startCast sessionId deviceId protocols z).players.InHand := by
  unfold startCast
  split_ifs
  · split
    · exact inHand_pcmStartCast h _ sessionId deviceId protocols z
    · rename_i hp
      apply inHand_pcmStartCast
      rw [players_newPcm]
      apply Holders.inHand_of_not_going
      exact h.not_going (w.reach_players_of_none hp)
  · exact h

/-- When a client dies, all is in hand exactly if nothing plays. -/
theorem inHand_players_clear_iff (h : w.players.InHand) :
    w.clearPcmSessionForClientDied.players.InHand ↔ ∀ s, ¬ w.Playing s := by
  unfold clearPcmSessionForClientDied
  split
  · rename_i p hp
    rw [players_forget, players_destroyTask]
    exact Holders.inHand_within_empty_iff
  · rename_i hp
    exact iff_of_true h (h.not_going (w.reach_players_of_none hp))

/-- The command puts a session on the device, which has to be the only one that plays. -/
theorem inHand_createStreamPlayerCommand_iff (h : w.players.InHand) (sessionId : String) :
    (w.createStreamPlayerCommand sessionId).players.InHand ↔
      ∀ s, w.Playing s → s = sessionId := by
  unfold createStreamPlayerCommand
  split
  · rename_i p hp
    exact inHand_createStreamPlayer_iff hp sessionId
  · rename_i hp
    exact iff_of_true h fun s hs => absurd hs (h.not_going (w.reach_players_of_none hp) s)

/-- A new session does not play. -/
theorem inHand_createSession (h : w.players.InHand) (sessionId : String)
    (sessionType : SessionType) :
    (w.step (.createSession sessionId sessionType)).players.InHand := by
  simp only [step]
  split_ifs with hs
  · exact h
  · intro s hplaying
    apply h s
    obtain ⟨session, hsession, hflag⟩ := hplaying
    by_cases hss : s = sessionId
    · subst hss
      simp only [Function.update_self, Option.some.injEq] at hsession
      simp [← hsession] at hflag
    · exact ⟨session, by simpa [Function.update_of_ne hss] using hsession, hflag⟩

/-- The stop of a session takes away only what plays. -/
theorem inHand_releaseStreamPlayerCommand (h : w.players.InHand) :
    w.releaseStreamPlayerCommand.players.InHand := by
  unfold releaseStreamPlayerCommand
  split
  · exact inHand_releaseStreamPlayer h _
  · exact h

/-- So does the end of its cast. -/
theorem inHand_players_destroyCast (h : w.players.InHand) (sessionId : String) :
    (w.destroyCast sessionId).players.InHand := by
  have hstop : ∀ session, (w.itemStopCast session).players.InHand := by
    intro session
    unfold itemStopCast
    split
    · exact inHand_releaseStreamPlayerCommand h
    · exact h
  unfold destroyCast itemStopCastSession
  split
  · split
    · split
      · exact hstop _
      · exact hstop _
    · exact h
  · exact h

/-- A session that has gone does not play. -/
theorem inHand_destroySession (h : w.players.InHand) (sessionId : String) :
    (w.destroySession sessionId).players.InHand := by
  intro s hplaying
  apply inHand_players_destroyCast h sessionId s
  obtain ⟨session, hsession, hflag⟩ := hplaying
  by_cases hss : s = sessionId
  · simp [destroySession, hss] at hsession
  · exact ⟨session, by simpa [destroySession, Function.update_of_ne hss] using hsession, hflag⟩

/-- **One step** keeps all players in hand exactly if it is one of those. -/
theorem inHand_players_step_iff (h : w.players.InHand) (a : Act) :
    (w.step a).players.InHand ↔ w.KeepsPlayers a := by
  cases a with
  | startCast sessionId deviceId protocols z =>
      exact iff_of_true (inHand_players_startCast h sessionId deviceId protocols z) trivial
  | stopCast sessionId =>
      refine iff_of_true ?_ trivial
      show (w.stopCast sessionId).players.InHand
      unfold stopCast
      split_ifs
      · exact inHand_players_stopPcm h
      · exact h
  | clearPcmSessionForClientDied => exact inHand_players_clear_iff h
  | createStreamPlayer sessionId => exact inHand_createStreamPlayerCommand_iff h sessionId
  | releaseStreamPlayer =>
      exact iff_of_true (inHand_releaseStreamPlayerCommand h) trivial
  | createSession sessionId sessionType =>
      exact iff_of_true (inHand_createSession h sessionId sessionType) trivial
  | destroySession sessionId => exact iff_of_true (inHand_destroySession h sessionId) trivial
  | collaborationOnStop p => exact iff_of_true (inHand_releaseStreamPlayer h p) trivial
  | castStateChange castState => exact iff_of_true h trivial
  | runTask z =>
      simp only [step, KeepsPlayers]
      split
      · rename_i htasks
        simpa [htasks] using h
      · rename_i p castState tasks htasks
        have hin : ({ w with tasks } : World).players.InHand := h
        have hone := inHand_onCastStateChange_players_iff hin p castState z
        rw [hone, htasks]
        constructor
        · rintro hok q rest heq
          obtain ⟨⟨rfl, hstate⟩, -⟩ := by simpa using heq
          exact hok hstate
        · rintro hok rfl
          exact hok p tasks rfl

end steps

/-! ## Orderly use -/

section orderly

/-- An object waits for the device to stream, with a session to put on it. -/
def Waits (w : World) (p : PcmRef) : Prop :=
  (w.pcms p).needStreamCasting = true ∧
    (w.sessions (w.pcms p).streamCastingSessionId).isSome = true

/-- Only the known object waits, and no session goes by the name of none. -/
structure WaitsInReach (w : World) : Prop where
  unnamed : w.sessions "" = none
  known : ∀ p, w.Waits p → w.pcmCastSession = some p

/-- One session at a time is put on the device, a new session is none that an object remembers, and
the object of a client that dies has none on the device. -/
def OrderlyPlayers (w : World) : Act → Prop
  | .createStreamPlayer sessionId => ∀ s, w.Playing s → s = sessionId
  | .createSession sessionId _ =>
      sessionId ≠ "" ∧ ∀ p, (w.pcms p).streamCastingSessionId ≠ sessionId
  | .clearPcmSessionForClientDied =>
      ∀ p, w.pcmCastSession = some p →
        (w.sessions (w.pcms p).streamCastingSessionId).isSome = false
  | _ => True

variable {w : World}

/-- A flag of a session is none of an object. -/
@[simp] theorem pcms_setIsHiPlayStreamCasting (w : World) (sessionId : String) (b : Bool)
    (castHandle : ℤ) :
    (w.setIsHiPlayStreamCasting sessionId b castHandle).pcms = w.pcms := rfl

/-- A flag makes no session and takes none away. -/
@[simp] theorem sessions_setIsHiPlayStreamCasting_isSome (w : World) (sessionId s : String)
    (b : Bool) (castHandle : ℤ) :
    ((w.setIsHiPlayStreamCasting sessionId b castHandle).sessions s).isSome =
      (w.sessions s).isSome := by
  by_cases hs : s = sessionId
  · subst hs
    simp [setIsHiPlayStreamCasting]
  · simp [setIsHiPlayStreamCasting, Function.update_of_ne hs]

/-- The sessions there are stay, and no object waits that has not waited before. -/
structure WaitsLess (w w' : World) : Prop where
  sessions : ∀ s, (w'.sessions s).isSome = (w.sessions s).isSome
  waits : ∀ p, w'.Waits p → w.Waits p

/-- Nothing has changed. -/
theorem WaitsLess.refl (w : World) : WaitsLess w w := ⟨fun _ => rfl, fun _ hp => hp⟩

/-- Two steps with fewer objects that wait. -/
theorem WaitsLess.trans {w' w'' : World} (h : WaitsLess w w') (h' : WaitsLess w' w'') :
    WaitsLess w w'' :=
  ⟨fun s => (h'.sessions s).trans (h.sessions s), fun p hp => h.waits p (h'.waits p hp)⟩

/-- An object is changed, and does not wait if it has not. -/
theorem waitsLess_setPcm {p : PcmRef} {x : PcmCastSession}
    (hx : x.needStreamCasting = true →
      (w.sessions x.streamCastingSessionId).isSome = true → w.Waits p) :
    WaitsLess w (w.setPcm p x) := by
  refine ⟨fun _ => rfl, fun q hq => ?_⟩
  by_cases hqp : q = p
  · subst hqp
    obtain ⟨hneed, hsession⟩ := hq
    rw [pcms_setPcm_self] at hneed hsession
    exact hx hneed hsession
  · rw [Waits, pcms_setPcm_of_ne _ hqp] at hq
    exact hq

/-- An object is changed, but not in what it waits for. -/
theorem waitsLess_setPcm_of_eq {p : PcmRef} {x : PcmCastSession}
    (hneed : x.needStreamCasting = (w.pcms p).needStreamCasting)
    (hsession : x.streamCastingSessionId = (w.pcms p).streamCastingSessionId) :
    WaitsLess w (w.setPcm p x) := by
  apply waitsLess_setPcm
  rw [hneed, hsession]
  exact And.intro

/-- A flag of a session makes no object wait. -/
theorem waitsLess_setIsHiPlayStreamCasting (w : World) (sessionId : String) (b : Bool)
    (castHandle : ℤ) : WaitsLess w (w.setIsHiPlayStreamCasting sessionId b castHandle) := by
  refine ⟨fun s => w.sessions_setIsHiPlayStreamCasting_isSome sessionId s b castHandle,
    fun p hp => ?_⟩
  simpa [Waits] using hp

/-- No session goes by the name of none. -/
theorem WaitsLess.unnamed {w' : World} (hless : WaitsLess w w') (h : w.sessions "" = none) :
    w'.sessions "" = none := by
  have hnone := hless.sessions ""
  simpa [h] using hnone

/-- A release makes none wait. -/
theorem waitsLess_releaseStreamPlayer (h : w.sessions "" = none) (p : PcmRef) :
    WaitsLess w (w.releaseStreamPlayer p) := by
  simp only [releaseStreamPlayer]
  split
  · have hless := w.waitsLess_setIsHiPlayStreamCasting (w.pcms p).streamCastingSessionId false
      (-1)
    apply hless.trans
    apply waitsLess_setPcm
    intro _ hsession
    simp [hless.unnamed h] at hsession
  · exact .refl w

/-- Nor does the end of a session. -/
theorem waitsLess_destroyCast (h : w.sessions "" = none) (sessionId : String) :
    WaitsLess w (w.destroyCast sessionId) := by
  have hstop : ∀ session, WaitsLess w (w.itemStopCast session) := by
    intro session
    unfold itemStopCast releaseStreamPlayerCommand
    split
    · split
      · exact waitsLess_releaseStreamPlayer h _
      · exact .refl w
    · exact ⟨fun _ => rfl, fun _ hp => hp⟩
  unfold destroyCast itemStopCastSession
  split
  · split
    · split
      · exact (hstop _).trans ⟨fun _ => rfl, fun _ hp => hp⟩
      · exact hstop _
    · exact .refl w
  · exact .refl w

/-- An object that has released its session does not wait. -/
theorem not_waits_releaseStreamPlayer (h : w.sessions "" = none) (p : PcmRef) :
    ¬ (w.releaseStreamPlayer p).Waits p := by
  simp only [releaseStreamPlayer]
  split
  · rintro ⟨-, hsession⟩
    rw [pcms_setPcm_self] at hsession
    have hless := w.waitsLess_setIsHiPlayStreamCasting (w.pcms p).streamCastingSessionId false
      (-1)
    simp [setPcm, hless.unnamed h] at hsession
  · rename_i hsession
    exact fun hwaits => hsession hwaits.2

/-- The casts do not matter. -/
theorem waitsLess_destroyTask (w : World) (p : PcmRef) : WaitsLess w (w.destroyTask p) := by
  have hend : WaitsLess w (w.endCastSession (w.pcms p).castHandle) :=
    ⟨fun _ => rfl, fun _ hp => hp⟩
  apply hend.trans
  apply waitsLess_setPcm_of_eq <;> rfl

/-- A stop makes none wait. -/
theorem waitsLess_pcmStopCast (h : w.sessions "" = none) (p : PcmRef) :
    WaitsLess w (w.pcmStopCast p) := by
  apply (waitsLess_releaseStreamPlayer h p).trans
  exact ⟨fun _ => rfl, fun _ hp => hp⟩

/-- An object that leaves its device makes none wait. -/
theorem waitsLess_leaveDevice (h : w.sessions "" = none) (p : PcmRef) :
    WaitsLess w (w.leaveDevice p) :=
  (waitsLess_releaseStreamPlayer h p).trans (waitsLess_destroyTask _ p)

/-- A connection makes none wait. -/
theorem waitsLess_connect (w : World) (p : PcmRef) (deviceId : String) (z : Answers) :
    WaitsLess w (w.connect p deviceId z).1 := by
  have hstart : WaitsLess w (w.routerStartCast p) := ⟨fun _ => rfl, fun _ hp => hp⟩
  unfold connect
  cases z.castStarted with
  | false =>
      apply waitsLess_setPcm_of_eq <;> rfl
  | true =>
      cases z.deviceAdded with
      | true =>
          have hdevice : WaitsLess w ((w.routerStartCast p).routerAddDevice
              (w.routerStartCast p).nextHandle deviceId) := ⟨fun _ => rfl, fun _ hp => hp⟩
          apply hdevice.trans
          apply waitsLess_setPcm_of_eq <;> rfl
      | false =>
          apply hstart.trans
          refine WaitsLess.trans ?_ (waitsLess_destroyTask _ p)
          apply waitsLess_setPcm_of_eq <;> rfl

/-- An object that starts over makes none wait. -/
theorem waitsLess_startOver (h : w.sessions "" = none) (p : PcmRef) (deviceId : String)
    (z : Answers) : WaitsLess w (w.startOver p deviceId z) := by
  have hconnect := w.waitsLess_connect p deviceId z
  simp only [startOver, subStartCast, connect_snd]
  split
  · split
    · exact hconnect
    · apply hconnect.trans
      apply waitsLess_leaveDevice
      exact hconnect.unnamed h
  · exact waitsLess_leaveDevice h p

/-- A start makes none wait. -/
theorem waitsLess_pcmStartCast (h : w.sessions "" = none) (p : PcmRef)
    (sessionId deviceId : String) (protocols : SupportedProtocols) (z : Answers) :
    WaitsLess w (w.pcmStartCast p sessionId deviceId protocols z) := by
  have hconnect := w.waitsLess_connect p deviceId z
  simp only [pcmStartCast, startScreenCast, subStartCast]
  split_ifs
  · exact .refl w
  · refine WaitsLess.trans ?_ (waitsLess_pcmStopCast ?_ p)
    · apply waitsLess_setPcm_of_eq <;> rfl
    · exact h
  · exact hconnect
  · exact .refl w
  · exact hconnect
  · exact .refl w

/-- A state of the device makes none wait. -/
theorem waitsLess_onCastStateChange (h : w.sessions "" = none) (p : PcmRef)
    (castState : DeviceState) (z : Answers) :
    WaitsLess w (w.onCastStateChange p castState z) := by
  cases castState with
  | disconnected =>
      have hleft := waitsLess_leaveDevice h p
      simp only [onCastStateChange, handleDeviceDisconnect]
      split
      · exact hleft
      · apply hleft.trans
        refine WaitsLess.trans ?_ (waitsLess_startOver ?_ p _ z)
        · apply waitsLess_setPcm_of_eq <;> rfl
        · exact hleft.unnamed h
  | connected | playing =>
      apply waitsLess_setPcm_of_eq <;> rfl
  | stream =>
      simp only [onCastStateChange]
      split
      · refine WaitsLess.trans ?_ (waitsLess_setIsHiPlayStreamCasting ..)
        apply waitsLess_setPcm
        intro hneed
        exact absurd hneed Bool.false_ne_true
      · apply waitsLess_setPcm_of_eq <;> rfl
  | other => exact .refl w

/-- At first no object waits. -/
theorem waitsInReach_init : WaitsInReach .init :=
  ⟨rfl, fun _ hp => absurd hp.1 Bool.false_ne_true⟩

/-- Fewer objects wait, for the same service. -/
theorem WaitsInReach.of_less {w' : World} (h : w.WaitsInReach) (hless : WaitsLess w w')
    (hservice : w'.pcmCastSession = w.pcmCastSession) : w'.WaitsInReach where
  unnamed := hless.unnamed h.unnamed
  known p hp := hservice.trans (h.known p (hless.waits p hp))

/-- With no object in reach. -/
theorem WaitsInReach.newPcm (h : w.WaitsInReach) (hp : w.pcmCastSession = none) :
    w.newPcm.WaitsInReach where
  unnamed := h.unnamed
  known q hq := by
    have hnew : WaitsLess w (w.setPcm w.nextPcm .init) := by
      apply waitsLess_setPcm
      intro hneed
      exact absurd hneed Bool.false_ne_true
    have hknown := h.known q (hnew.waits q hq)
    simp [hp] at hknown

/-- The object of a stopped cast waits no more. -/
theorem WaitsInReach.stopPcm (h : w.WaitsInReach) : w.stopPcm.WaitsInReach := by
  unfold World.stopPcm
  split
  · rename_i p hp
    let w' : World := { w with pcmCastSession := none }
    have hunnamed : w'.sessions "" = none := h.unnamed
    have hless : WaitsLess w' (w'.pcmStopCast p) := waitsLess_pcmStopCast hunnamed p
    refine ⟨hless.unnamed hunnamed, fun q hq => ?_⟩
    obtain rfl : p = q := Option.some.inj (hp.symm.trans (h.known q (hless.waits q hq)))
    exact absurd hq (not_waits_releaseStreamPlayer hunnamed p)
  · exact h

/-- Neither does that of a client that has died, if it remembered no session. -/
theorem WaitsInReach.clear (h : w.WaitsInReach)
    (ha : w.OrderlyPlayers .clearPcmSessionForClientDied) :
    w.clearPcmSessionForClientDied.WaitsInReach := by
  unfold clearPcmSessionForClientDied
  split
  · rename_i p hp
    have hless := w.waitsLess_destroyTask p
    refine ⟨hless.unnamed h.unnamed, fun q hq => ?_⟩
    have hwaits : w.Waits q := hless.waits q hq
    have hnone := ha q (h.known q hwaits)
    simp [hnone, Waits] at hwaits
  · exact h

/-- The known object may wait. -/
theorem WaitsInReach.createStreamPlayer (h : w.WaitsInReach) {p : PcmRef}
    (hp : w.pcmCastSession = some p) (sessionId : String) :
    (w.createStreamPlayer p sessionId).WaitsInReach := by
  have hset : ∀ x : PcmCastSession, (w.setPcm p x).WaitsInReach := by
    intro x
    refine ⟨h.unnamed, fun q hq => ?_⟩
    by_cases hqp : q = p
    · exact hqp ▸ hp
    · rw [Waits, pcms_setPcm_of_ne _ hqp] at hq
      exact h.known q hq
  simp only [World.createStreamPlayer]
  split
  · exact (hset _).of_less (waitsLess_setIsHiPlayStreamCasting ..) rfl
  · exact hset _

/-- A session that has gone makes none wait. -/
theorem WaitsInReach.destroySession (h : w.WaitsInReach) (sessionId : String) :
    (w.destroySession sessionId).WaitsInReach := by
  have hended : (w.destroyCast sessionId).WaitsInReach :=
    h.of_less (waitsLess_destroyCast h.unnamed sessionId) (w.service_destroyCast sessionId)
  have hgone : ∀ s, (w.destroySession sessionId).sessions s =
      if s = sessionId then none else (w.destroyCast sessionId).sessions s := fun s =>
    Function.update_apply ..
  refine ⟨?_, fun p hp => hended.known p ⟨hp.1, ?_⟩⟩
  · rw [hgone]
    split
    · rfl
    · exact hended.unnamed
  · have hsome := hp.2
    rw [hgone] at hsome
    split at hsome
    · simp at hsome
    · exact hsome

/-- One step of orderly use. -/
theorem WaitsInReach.step (h : w.WaitsInReach) (a : Act) (ha : w.OrderlyPlayers a) :
    (w.step a).WaitsInReach := by
  cases a with
  | startCast sessionId deviceId protocols z =>
      show (w.startCast sessionId deviceId protocols z).WaitsInReach
      unfold startCast
      split_ifs
      · split
        · exact h.of_less (waitsLess_pcmStartCast h.unnamed ..) (service_pcmStartCast ..)
        · rename_i hp
          have hnew := h.newPcm hp
          exact hnew.of_less (waitsLess_pcmStartCast hnew.unnamed ..) (service_pcmStartCast ..)
      · exact h
  | stopCast sessionId =>
      show (w.stopCast sessionId).WaitsInReach
      unfold stopCast
      split_ifs
      · exact h.stopPcm
      · exact h
  | clearPcmSessionForClientDied => exact h.clear ha
  | createStreamPlayer sessionId =>
      show (w.createStreamPlayerCommand sessionId).WaitsInReach
      unfold createStreamPlayerCommand
      split
      · rename_i p hp
        exact h.createStreamPlayer hp sessionId
      · exact h
  | releaseStreamPlayer =>
      show w.releaseStreamPlayerCommand.WaitsInReach
      unfold releaseStreamPlayerCommand
      split
      · exact h.of_less (waitsLess_releaseStreamPlayer h.unnamed _)
          (service_releaseStreamPlayer ..)
      · exact h
  | createSession sessionId sessionType =>
      simp only [World.step]
      split_ifs
      · exact h
      · refine ⟨?_, fun p hp => ?_⟩
        · simpa [Function.update_of_ne ha.1.symm] using h.unnamed
        · apply h.known p
          simpa [Waits, Function.update_of_ne (ha.2 p)] using hp
  | destroySession sessionId => exact h.destroySession sessionId
  | collaborationOnStop p =>
      exact h.of_less (waitsLess_pcmStopCast h.unnamed p) (w.service_pcmStopCast p)
  | castStateChange castState => exact ⟨h.unnamed, h.known⟩
  | runTask z =>
      simp only [World.step]
      split
      · exact h
      · rename_i p castState tasks htasks
        have hrest : ({ w with tasks } : World).WaitsInReach := ⟨h.unnamed, h.known⟩
        exact hrest.of_less (waitsLess_onCastStateChange hrest.unnamed p castState z)
          (service_onCastStateChange ..)

/-- A step of orderly use loses no session. -/
theorem keepsPlayers_of_orderly (hin : w.players.InHand) (h : w.WaitsInReach) (a : Act)
    (ha : w.OrderlyPlayers a) : w.KeepsPlayers a := by
  cases a with
  | clearPcmSessionForClientDied =>
      intro s hs
      obtain ⟨p, hp, rfl⟩ := hin s hs
      have hnone := ha p hp
      simp [← handle_players, w.playing_isSome hs] at hnone
  | createStreamPlayer sessionId => exact ha
  | runTask z =>
      intro p tasks _ hneed hsession
      exact ⟨p, h.known p ⟨hneed, hsession⟩, rfl⟩
  | _ => trivial

end orderly

/-! ## Runs -/

/-- **A session that plays can stop.** In every state of a run each session that is a stream player
is none any more after its own stop, exactly if all steps of the run keep the players in hand: only
one session is put on the device at a time, the object of a client that dies has none there, and an
object puts no session on the device once it is unknown, unless the known one remembers it too. The
last holds by itself where a new session is none that an object remembers and a client dies only
while its object has no session. -/
theorem players_in_hand (acts : List Act) :
    (Always step Stoppable .init acts ↔ Meets step KeepsPlayers .init acts) ∧
      (Meets step OrderlyPlayers .init acts → Always step Stoppable .init acts) := by
  have hinit : (init.players).InHand := by
    apply Holders.inHand_of_not_going
    rintro s ⟨session, hsession, -⟩
    simp [init] at hsession
  have hexact : Always step Stoppable .init acts ↔ Meets step KeepsPlayers .init acts := by
    apply always_iff_meets
    · intro w a hw
      rw [stoppable_iff] at hw ⊢
      exact inHand_players_step_iff hw a
    · exact stoppable_iff.mpr hinit
  refine ⟨hexact, fun horderly => hexact.mpr ?_⟩
  exact meets_of_meets (I := fun w => w.players.InHand ∧ w.WaitsInReach)
    (fun w a h ha =>
      ⟨(inHand_players_step_iff h.1 a).mpr (keepsPlayers_of_orderly h.1 h.2 a ha), h.2.step a ha⟩)
    (fun w a h ha => keepsPlayers_of_orderly h.1 h.2 a ha) ⟨hinit, waitsInReach_init⟩ horderly

/-- A session is put on the device when that streams, and stopped. -/
def playAndStop : List Act :=
  let z : Answers := ⟨true, true, true, true⟩
  [.createSession "s" .audio,
    .startCast "pcmCastSession" "a" ⟨true, false⟩ z,
    .createStreamPlayer "s",
    .castStateChange .stream,
    .runTask z,
    .releaseStreamPlayer]

/-- A run of orderly use: a session is put on the device, and stops. -/
theorem players_in_hand_playAndStop : Meets step OrderlyPlayers .init playAndStop ∧
    Always step Stoppable .init playAndStop := by
  have horderly : Meets step OrderlyPlayers .init playAndStop := by
    refine ⟨⟨by decide, fun _ => ?_⟩, trivial, ?_, trivial, trivial, trivial, trivial⟩
    · show "" ≠ "s"
      decide
    · rintro s ⟨session, hsession, hplays⟩
      by_contra hs
      have hnone : Function.update (fun _ => none) "s" (some (AppSession.mk .audio false 0)) s =
          none := Function.update_of_ne hs ..
      exact absurd (hnone.symm.trans hsession) (by simp)
  exact ⟨horderly, (players_in_hand playAndStop).2 horderly⟩

/-- The client dies while a session plays: nothing stops it any more. -/
example : ¬ (run step .init [
    .createSession "s" .audio,
    .startCast "pcmCastSession" "a" ⟨true, false⟩ ⟨true, true, true, true⟩,
    .createStreamPlayer "s",
    .castStateChange .stream,
    .runTask ⟨true, true, true, true⟩,
    .clearPcmSessionForClientDied]).Stoppable :=
  fun h => h "s" ⟨⟨.audio, true, 1⟩, rfl, rfl⟩ ⟨⟨.audio, true, 1⟩, rfl, rfl⟩

end World

end AvSession.Pcm
