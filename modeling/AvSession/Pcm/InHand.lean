import AvSession.Pcm.Holding

/-!
# When a stop ends every cast of all sound

The service knows one object at most, and an object knows one handle. A cast whose handle neither
the known object keeps nor one that is to be told of a disconnect goes on when the user stops the
cast, and nothing can end it any more.

* `inHand_iff_stopPcm` — the casts that a stop ends are the ones in hand.
* `inHand_step_iff` — one step; `KeepsInHand` names the ones that lose no cast.
* `OrderlyUse` — what users can do to lose none.
* `casts_in_hand` — runs.
-/

namespace AvSession.Pcm

open AvSession.Lib

namespace World

/-! ## What keeps casts in hand -/

section inHand

variable {w : World}

/-- The known object is one of those within reach. -/
theorem reach_of_service {p : PcmRef} (hp : w.pcmCastSession = some p) :
    w.holders.reach = insert p {q | w.ToldSoon q} := by
  ext q
  have hq : w.pcmCastSession = some q ↔ q = p := by
    rw [hp, Option.some.injEq, eq_comm]
  simp [InReach, hq]

/-- Without a known object, only those are within reach that end their casts by themselves. -/
theorem reach_of_none (hp : w.pcmCastSession = none) : w.holders.reach = {q | w.ToldSoon q} := by
  ext q
  simp [InReach, hp]

/-- The service forgets its object. -/
theorem holders_forget (w : World) :
    ({ w with pcmCastSession := none } : World).holders = w.holders.within {q | w.ToldSoon q} :=
  Holders.ext (reach_of_none rfl) rfl rfl

/-- An object within reach ends its cast, if it is asked to, or it will by itself. -/
theorem within_stop_iff (h : w.Ordered) {p : PcmRef} (b : Bool)
    (hb : w.knowsDevice (w.pcms p).castHandle = b) :
    ((if b then w.holders.stop p else w.holders).within {q | w.ToldSoon q}).InHand ↔
      ((w.holders.stop p).within {q | w.ToldSoon q}).InHand := by
  cases b with
  | true => rfl
  | false =>
      constructor
      · intro hin k hk
        exact hin k hk.1
      · intro hin k hk
        by_cases hkp : k = (w.pcms p).castHandle
        · subst hkp
          exact ⟨p, h.toldSoon (Set.notMem_empty p) hb hk, rfl⟩
        · exact hin k ⟨hk, hkp⟩

/-- **What is in hand, a stop ends**, and only that. -/
theorem inHand_iff_stopPcm (h : w.Ordered) : w.holders.InHand ↔ w.stopPcm.AllEnding := by
  unfold stopPcm
  cases hp : w.pcmCastSession with
  | none =>
      have hsame : w.holders.within {q | w.ToldSoon q} = w.holders :=
        Holders.ext (reach_of_none hp).symm rfl rfl
      simp only [AllEnding, hsame]
  | some p =>
      let w' : World := { w with pcmCastSession := none }
      have htold : ∀ q, (w'.pcmStopCast p).ToldSoon q ↔ w.ToldSoon q := by
        intro q
        rw [ToldSoon, tasks_pcmStopCast]
        rfl
      have hafter : (w'.pcmStopCast p).holders.within {q | w.ToldSoon q} =
          (if w.knowsDevice (w.pcms p).castHandle then w.holders.stop p
            else w.holders).within {q | w.ToldSoon q} := by
        rw [holders_pcmStopCast, holders_forget]
        show ((if w.knowsDevice (w.pcms p).castHandle then _ else _) :
          Holders PcmRef ℤ).within _ = _
        split <;> rfl
      show _ ↔ (w'.pcmStopCast p).AllEnding
      simp only [AllEnding, htold]
      rw [hafter, within_stop_iff h _ rfl, ← Holders.inHand_insert_iff (reach_of_service hp)]

/-- A stop on an object takes away only what goes on. -/
theorem inHand_pcmStopCast (hin : w.holders.InHand) (p : PcmRef) :
    (w.pcmStopCast p).holders.InHand := by
  rw [holders_pcmStopCast]
  split
  · exact hin.stop p
  · exact hin

/-- So does an object that leaves its device. -/
theorem inHand_leaveDevice (hin : w.holders.InHand) (p : PcmRef) :
    (w.leaveDevice p).holders.InHand := by
  rw [holders_leaveDevice]
  exact hin.stop_give p (-1)

/-- So does a session that goes. -/
theorem inHand_destroyCast (hin : w.holders.InHand) (sessionId : String) :
    (w.destroyCast sessionId).holders.InHand := by
  have hstop : ∀ session, (w.itemStopCast session).holders.InHand := by
    intro session
    unfold itemStopCast
    split
    · rw [holders_releaseStreamPlayerCommand]
      exact hin
    · rw [holders_routerStopCast]
      split
      · exact hin.finish _
      · exact hin
  unfold destroyCast itemStopCastSession
  split
  · split
    · split
      · rw [holders_stopCastSession]
        exact (hstop _).finish _
      · exact hstop _
    · exact hin
  · exact hin

/-- What comes to its end by itself is in hand. -/
theorem AllEnding.inHand (h : w.AllEnding) : w.holders.InHand :=
  Holders.InHand.within h (r := w.holders.reach) fun _ htold => Or.inr htold

/-- The object is told to end its cast before it is forgotten. -/
theorem inHand_stopPcm (h : w.Ordered) (hin : w.holders.InHand) : w.stopPcm.holders.InHand :=
  ((inHand_iff_stopPcm h).mp hin).inHand

/-- So does the death of a client. -/
theorem inHand_clearPcmSessionForClientDied (hin : w.holders.InHand) :
    w.clearPcmSessionForClientDied.holders.InHand := by
  unfold clearPcmSessionForClientDied
  split
  · rename_i p hp
    have hafter : ({ w.destroyTask p with pcmCastSession := none } : World).holders =
        ((w.holders.stop p).give p (-1)).within {q | w.ToldSoon q} := by
      rw [holders_forget, holders_destroyTask]
      rfl
    rw [hafter]
    apply hin.leave
    rw [reach_of_service hp]
    simp
  · exact hin

/-- A new object comes within reach; the objects that will be told are others. -/
theorem inHand_newPcm (h : w.Ordered) (hin : w.holders.InHand) (hp : w.pcmCastSession = none) :
    w.newPcm.holders.InHand := by
  rw [holders_newPcm]
  intro k hk
  obtain ⟨q, hq, hqk⟩ := hin k hk
  rw [reach_of_none hp] at hq
  have hne : q ≠ w.nextPcm := Nat.ne_of_lt (h.tasks q _ hq)
  exact ⟨q, Or.inr hq, (w.holders.handle_give_of_ne hne 0).trans hqk⟩

/-- When a device has gone, more objects are to be told. -/
theorem inHand_routerOnCastStateChange (hin : w.holders.InHand) (castState : DeviceState) :
    (w.routerOnCastStateChange castState).holders.InHand := by
  have hafter : (w.routerOnCastStateChange castState).holders =
      w.holders.within (w.routerOnCastStateChange castState).holders.reach := by
    refine Holders.ext rfl ?_ rfl
    ext k
    constructor
    · rintro ⟨info', hinfo', hgoes⟩
      obtain ⟨info, hinfo, rfl⟩ := Option.map_eq_some_iff.mp hinfo'
      refine ⟨info, hinfo, ?_⟩
      split at hgoes <;> exact hgoes
    · rintro ⟨info, hinfo, hgoes⟩
      refine ⟨_, Option.map_eq_some_iff.mpr ⟨info, hinfo, rfl⟩, ?_⟩
      split <;> exact hgoes
  rw [hafter]
  apply hin.within
  rintro p (hp | hp)
  · exact Or.inl hp
  · exact Or.inr (mem_tasks_routerOnCastStateChange.mpr (Or.inl hp))

/-- Handles are not kept twice. -/
theorem handle_unique (h : w.Ordered) (p : PcmRef) : ∀ q,
    w.holders.handle q = w.holders.handle p → w.holders.handle p ∈ w.holders.going → q = p := by
  intro q hq hgoing
  apply h.unique _ hq
  by_contra hle
  exact h.not_going (not_lt.mp hle) hgoing

/-- A start must be one of an object within reach, and the object must not lose a cast by it. -/
theorem inHand_connect_iff (h : w.Ordered) (hin : w.holders.InHand) (p : PcmRef)
    (deviceId : String) (z : Answers) :
    (w.connect p deviceId z).1.holders.InHand ↔
      (z.connects = true → w.InReach p) ∧ ¬ w.Going (w.pcms p).castHandle := by
  rw [holders_connect h]
  cases z.connects with
  | true =>
      have hgive := Holders.inHand_start_give_iff hin h.fresh.1 h.fresh.2 (handle_unique h p)
      rw [if_pos rfl, hgive]
      simp
  | false =>
      have hneg : (-1 : ℤ) ∉ w.holders.going := h.not_going (by omega)
      rw [if_neg Bool.false_ne_true, Holders.inHand_give_iff hin hneg (handle_unique h p)]
      simp

/-- Once the old cast is over, only an object within reach may start over. -/
theorem inHand_startOver_iff (h : w.Ordered) (hin : w.holders.InHand) {p : PcmRef}
    (hnot : ¬ w.Going (w.pcms p).castHandle) (deviceId : String) (z : Answers) :
    (w.startOver p deviceId z).holders.InHand ↔
      (z.collaboration = true → z.connects = true → w.InReach p) := by
  have hconnect := inHand_connect_iff h hin p deviceId z
  simp only [startOver, subStartCast, connect_snd]
  cases z.collaboration with
  | false => simpa using inHand_leaveDevice hin p
  | true =>
      cases hz : z.connects with
      | false =>
          have hbefore : (w.connect p deviceId z).1.holders.InHand :=
            hconnect.mpr ⟨by simp [hz], hnot⟩
          simpa using inHand_leaveDevice hbefore p
      | true => simpa [hz, hnot] using hconnect

/-- The object starts over after it has left its device. It is told of a disconnect and leaves the
tasks; until it has ended its cast, that may be out of hand. -/
theorem inHand_handleDeviceDisconnect_iff (h : w.Ordered) (hin : w.holders.InHand) {p : PcmRef}
    {tasks : List (PcmRef × DeviceState)} (htasks : w.tasks = (p, .disconnected) :: tasks)
    (z : Answers) :
    (({ w with tasks } : World).handleDeviceDisconnect p z).holders.InHand ↔
      ∀ deviceId, (w.pcms p).switchTo = some deviceId → z.collaboration = true →
        z.connects = true → w.pcmCastSession = some p ∨ (p, .disconnected) ∈ tasks := by
  let w₀ : World := { w with tasks }
  have hleft : (w₀.leaveDevice p).holders.InHand := by
    have hreach : w.holders.reach \ {p} ⊆ w₀.holders.reach := by
      rintro q ⟨hq | hq, hne⟩
      · exact Or.inl hq
      · exact Or.inr ((ToldSoon.of_cons hq htasks).resolve_left fun hp => hne hp.1)
    rw [holders_leaveDevice]
    exact hin.leave p (-1) hreach
  have hord : (w₀.leaveDevice p).Ordered := by
    apply OrderedBut.leaveDevice
    simpa using OrderedBut.popTask h htasks
  have hhandle : ((w₀.leaveDevice p).pcms p).castHandle = -1 := by
    rw [← handle_holders, holders_leaveDevice, Holders.handle_give_self]
  have hreach : (w₀.leaveDevice p).InReach p ↔
      w.pcmCastSession = some p ∨ (p, .disconnected) ∈ tasks := by
    rw [← mem_reach_holders, holders_leaveDevice]
    rfl
  have hswitch : ((w₀.leaveDevice p).pcms p).switchTo = (w.pcms p).switchTo :=
    switchTo_leaveDevice w₀ p p
  show (w₀.handleDeviceDisconnect p z).holders.InHand ↔ _
  simp only [handleDeviceDisconnect, hswitch]
  cases (w.pcms p).switchTo with
  | none => simpa using hleft
  | some deviceId =>
      let w' := (w₀.leaveDevice p).setPcm p { (w₀.leaveDevice p).pcms p with switchTo := none }
      have hord' : w'.Ordered := by
        apply hord.setPcm_of_eq
        rfl
      have hholders : w'.holders = (w₀.leaveDevice p).holders := by
        apply holders_setPcm_of_eq
        rfl
      have hnot : ¬ w'.Going (w'.pcms p).castHandle := by
        rw [pcms_setPcm_self, hhandle]
        exact hord'.not_going (by omega)
      have hover := inHand_startOver_iff hord' (hholders ▸ hleft) hnot deviceId z
      have hreach' : w'.InReach p ↔ (w₀.leaveDevice p).InReach p := Iff.rfl
      rw [hreach', hreach] at hover
      simpa using hover

/-- Only a start of the screen does not look at what the object casts to already. -/
theorem inHand_pcmStartCast_iff (h : w.Ordered) (hin : w.holders.InHand) {p : PcmRef}
    (hp : w.pcmCastSession = some p) (sessionId deviceId : String)
    (protocols : SupportedProtocols) (z : Answers) :
    (w.pcmStartCast p sessionId deviceId protocols z).holders.InHand ↔
      (isPcmScreen sessionId protocols = true → z.collaboration = true → z.pinCode = true →
        ¬ w.Going (w.pcms p).castHandle) := by
  have hconnect : (w.connect p deviceId z).1.holders.InHand ↔
      ¬ w.Going (w.pcms p).castHandle := by
    rw [inHand_connect_iff h hin]
    exact and_iff_right fun _ => Or.inl hp
  unfold pcmStartCast startScreenCast subStartCast
  cases hscreen : isPcmScreen sessionId protocols with
  | true =>
      cases z.collaboration with
      | false => simpa using hin
      | true =>
          cases z.pinCode with
          | false => simpa using hin
          | true => simpa using hconnect
  | false =>
      simp only [Bool.false_eq_true, not_false_eq_true, and_true, false_imp_iff, if_false, iff_true]
      split_ifs with hcast
      · exact hin
      · apply inHand_pcmStopCast
        rw [holders_setPcm_of_eq]
        · exact hin
        · rfl
      · exact hconnect.mpr (h.not_going (not_lt.mp hcast))
      · exact hin

/-! ## Steps -/

/-- The steps that lose no cast: the screen is not cast while the known object has a cast that goes
on, and an object starts over only if the service knows it, or if it is to be told of a disconnect
once more. -/
def KeepsInHand (w : World) : Act → Prop
  | .startCast sessionId _ protocols z => ∀ p, w.pcmCastSession = some p →
      isPcmScreen sessionId protocols = true → z.collaboration = true → z.pinCode = true →
        ¬ w.Going (w.pcms p).castHandle
  | .runTask z => ∀ p tasks deviceId, w.tasks = (p, .disconnected) :: tasks →
      (w.pcms p).switchTo = some deviceId → z.collaboration = true → z.connects = true →
        w.pcmCastSession = some p ∨ (p, .disconnected) ∈ tasks
  | _ => True

/-- A start keeps all in hand exactly under its condition. -/
theorem inHand_startCast_iff (h : w.Ordered) (hin : w.holders.InHand) (sessionId deviceId : String)
    (protocols : SupportedProtocols) (z : Answers) :
    (w.startCast sessionId deviceId protocols z).holders.InHand ↔
      w.KeepsInHand (.startCast sessionId deviceId protocols z) := by
  unfold startCast KeepsInHand
  split_ifs with hpcm
  · cases hp : w.pcmCastSession with
    | some p =>
        have hstart := inHand_pcmStartCast_iff h hin hp sessionId deviceId protocols z
        constructor
        · rintro hafter q hq
          obtain rfl := Option.some.inj hq
          exact hstart.mp hafter
        · intro hok
          exact hstart.mpr (hok p rfl)
    | none =>
        have hnew : w.newPcm.pcmCastSession = some w.nextPcm := rfl
        have hord := OrderedBut.newPcm h
        have hnot : ¬ w.newPcm.Going (w.newPcm.pcms w.nextPcm).castHandle := by
          have hzero : (w.newPcm.pcms w.nextPcm).castHandle = 0 := by
            rw [← handle_holders, holders_newPcm, Holders.handle_within, Holders.handle_give_self]
          exact hord.not_going hzero.le
        have hstart := inHand_pcmStartCast_iff hord (inHand_newPcm h hin hp) hnew sessionId
          deviceId protocols z
        simp only [reduceCtorEq, false_imp_iff, implies_true, iff_true]
        exact hstart.mpr fun _ _ _ => hnot
  · have hscreen : isPcmScreen sessionId protocols = false := by
      by_contra hne
      apply hpcm
      simp only [Bool.not_eq_false] at hne
      simp only [isPcmScreen, Bool.and_eq_true, decide_eq_true_eq] at hne
      simp [isPcm, hne.1]
    simpa [hscreen] using hin

/-- Only the end of its cast changes what an object holds. -/
theorem holders_onCastStateChange {castState : DeviceState} (hne : castState ≠ .disconnected)
    (w : World) (p : PcmRef) (z : Answers) :
    (w.onCastStateChange p castState z).holders = w.holders := by
  cases castState with
  | disconnected => exact absurd rfl hne
  | connected | playing =>
      apply holders_setPcm_of_eq
      rfl
  | stream =>
      simp only [onCastStateChange]
      split
      · rw [holders_findSessionAndStreamCasting]
        apply holders_setPcm_of_eq
        rfl
      · apply holders_setPcm_of_eq
        rfl
  | other => rfl

/-- An object that is told of another state is within reach as before. -/
theorem inHand_popTask (hin : w.holders.InHand) {p : PcmRef} {castState : DeviceState}
    {tasks : List (PcmRef × DeviceState)} (htasks : w.tasks = (p, castState) :: tasks)
    (hstate : castState ≠ .disconnected) : ({ w with tasks } : World).holders.InHand := by
  have hreach : w.holders.reach ⊆ ({ w with tasks } : World).holders.reach := by
    rintro q (hq | hq)
    · exact Or.inl hq
    · exact Or.inr ((ToldSoon.of_cons hq htasks).resolve_left fun hp => hstate hp.2)
  exact hin.within hreach

/-- **One step** keeps all casts in hand exactly if it is one of those. -/
theorem inHand_step_iff (h : w.Ordered) (hin : w.holders.InHand) (a : Act) :
    (w.step a).holders.InHand ↔ w.KeepsInHand a := by
  cases a with
  | startCast sessionId deviceId protocols z =>
      exact inHand_startCast_iff h hin sessionId deviceId protocols z
  | stopCast sessionId =>
      refine iff_of_true ?_ trivial
      show (w.stopCast sessionId).holders.InHand
      unfold stopCast
      split_ifs
      · exact inHand_stopPcm h hin
      · exact hin
  | clearPcmSessionForClientDied =>
      exact iff_of_true (inHand_clearPcmSessionForClientDied hin) trivial
  | createStreamPlayer sessionId =>
      refine iff_of_true ?_ trivial
      show (w.createStreamPlayerCommand sessionId).holders.InHand
      unfold createStreamPlayerCommand
      split
      · rw [holders_createStreamPlayer]
        exact hin
      · exact hin
  | releaseStreamPlayer =>
      refine iff_of_true ?_ trivial
      show w.releaseStreamPlayerCommand.holders.InHand
      rw [holders_releaseStreamPlayerCommand]
      exact hin
  | createSession sessionId sessionType =>
      refine iff_of_true ?_ trivial
      simp only [step]
      split_ifs
      · exact hin
      · exact hin
  | destroySession sessionId => exact iff_of_true (inHand_destroyCast hin sessionId) trivial
  | collaborationOnStop p =>
      refine iff_of_true ?_ trivial
      exact inHand_pcmStopCast hin p
  | castStateChange castState =>
      exact iff_of_true (inHand_routerOnCastStateChange hin castState) trivial
  | runTask z =>
      simp only [step, KeepsInHand]
      split
      · rename_i htasks
        simpa [htasks] using hin
      · rename_i p castState tasks htasks
        by_cases hstate : castState = .disconnected
        · subst hstate
          have hone := inHand_handleDeviceDisconnect_iff h hin htasks z
          simp only [onCastStateChange]
          rw [hone, htasks]
          constructor
          · intro hok q rest deviceId heq
            obtain ⟨rfl, rfl⟩ := by simpa using heq
            exact hok deviceId
          · intro hok deviceId
            exact hok p tasks deviceId rfl
        · rw [holders_onCastStateChange hstate]
          refine iff_of_true (inHand_popTask hin htasks hstate) ?_
          intro q rest deviceId heq
          rw [htasks] at heq
          simp only [List.cons.injEq, Prod.mk.injEq] at heq
          exact absurd heq.1.2 hstate

end inHand

/-! ## Orderly use -/

section orderly

/-- A device to change to is one of the object that the service knows. -/
def SwitchesInReach (w : World) : Prop :=
  ∀ p deviceId, (w.pcms p).switchTo = some deviceId → w.pcmCastSession = some p

/-- The screen is not cast while there is a cast, and no cast is stopped while its device is being
changed. -/
def OrderlyUse (w : World) : Act → Prop
  | .startCast sessionId _ protocols _ =>
      isPcmScreen sessionId protocols = true → w.isHiPlayCasting = false
  | .stopCast _ | .clearPcmSessionForClientDied =>
      ∀ p, w.pcmCastSession = some p → (w.pcms p).switchTo = none
  | _ => True

variable {w : World}

/-- At first nothing is remembered. -/
theorem switchesInReach_init : SwitchesInReach .init := by
  intro p deviceId hp
  simp [init, PcmCastSession.init] at hp

/-- Fewer devices are remembered, for the same service. -/
theorem SwitchesInReach.of_le {w' : World} (h : w.SwitchesInReach)
    (hservice : w'.pcmCastSession = w.pcmCastSession)
    (hle : ∀ p deviceId, (w'.pcms p).switchTo = some deviceId →
      (w.pcms p).switchTo = some deviceId) : w'.SwitchesInReach := by
  intro p deviceId hp
  rw [hservice]
  exact h p deviceId (hle p deviceId hp)

/-- The same devices are remembered, for the same service. -/
theorem SwitchesInReach.of_eq {w' : World} (h : w.SwitchesInReach)
    (hservice : w'.pcmCastSession = w.pcmCastSession)
    (heq : ∀ p, (w'.pcms p).switchTo = (w.pcms p).switchTo) : w'.SwitchesInReach :=
  h.of_le hservice fun p _ hp => (heq p).symm.trans hp

/-- If the known object does not change its device, none does. -/
theorem SwitchesInReach.eq_none (h : w.SwitchesInReach)
    (hnone : ∀ p, w.pcmCastSession = some p → (w.pcms p).switchTo = none) (p : PcmRef) :
    (w.pcms p).switchTo = none := by
  cases hp : (w.pcms p).switchTo with
  | none => rfl
  | some deviceId => exact hp.symm.trans (hnone p (h p deviceId hp))

/-- Nothing is remembered. -/
theorem switchesInReach_of_eq_none (h : ∀ p, (w.pcms p).switchTo = none) : w.SwitchesInReach := by
  intro p deviceId hp
  simp [h p] at hp

/-- The known object may remember a device. -/
theorem SwitchesInReach.pcmStartCast (h : w.SwitchesInReach) {p : PcmRef}
    (hp : w.pcmCastSession = some p) (sessionId deviceId : String)
    (protocols : SupportedProtocols) (z : Answers) :
    (w.pcmStartCast p sessionId deviceId protocols z).SwitchesInReach := by
  have hconnect : (w.connect p deviceId z).1.SwitchesInReach :=
    h.of_eq (w.service_connect p deviceId z) fun q => w.switchTo_connect p q deviceId z
  simp only [World.pcmStartCast, startScreenCast, subStartCast]
  split_ifs
  · exact h
  · intro q other hq
    rw [service_pcmStopCast]
    by_cases hqp : q = p
    · exact hqp ▸ hp
    · rw [switchTo_pcmStopCast] at hq
      rw [pcms_setPcm_of_ne _ hqp] at hq
      exact h q other hq
  · exact hconnect
  · exact h
  · exact hconnect
  · exact h

/-- A new object remembers none. -/
theorem SwitchesInReach.newPcm (h : w.SwitchesInReach) (hp : w.pcmCastSession = none) :
    w.newPcm.SwitchesInReach := by
  apply switchesInReach_of_eq_none
  intro p
  by_contra hne
  obtain ⟨deviceId, hdevice⟩ := Option.ne_none_iff_exists'.mp hne
  have hbefore : (w.pcms p).switchTo = some deviceId :=
    w.switchTo_setPcm_none (p := w.nextPcm) (x := .init) rfl hdevice
  simp [h p deviceId hbefore] at hp

/-- In orderly use, only the known object changes its device. -/
theorem SwitchesInReach.step (h : w.SwitchesInReach) (a : Act) (ha : w.OrderlyUse a) :
    (w.step a).SwitchesInReach := by
  cases a with
  | startCast sessionId deviceId protocols z =>
      show (w.startCast sessionId deviceId protocols z).SwitchesInReach
      unfold startCast
      split_ifs
      · split
        · rename_i p hp
          exact h.pcmStartCast hp sessionId deviceId protocols z
        · rename_i hp
          exact (h.newPcm hp).pcmStartCast rfl sessionId deviceId protocols z
      · exact h
  | stopCast sessionId =>
      show (w.stopCast sessionId).SwitchesInReach
      unfold stopCast stopPcm
      split_ifs
      · split
        · apply switchesInReach_of_eq_none
          intro p
          rw [switchTo_pcmStopCast]
          exact h.eq_none ha p
        · exact h
      · exact h
  | clearPcmSessionForClientDied =>
      show w.clearPcmSessionForClientDied.SwitchesInReach
      unfold clearPcmSessionForClientDied
      split
      · apply switchesInReach_of_eq_none
        intro p
        exact (switchTo_destroyTask ..).trans (h.eq_none ha p)
      · exact h
  | createStreamPlayer sessionId =>
      show (w.createStreamPlayerCommand sessionId).SwitchesInReach
      unfold createStreamPlayerCommand
      split
      · exact h.of_eq (service_createStreamPlayer ..) fun q => switchTo_createStreamPlayer ..
      · exact h
  | releaseStreamPlayer =>
      exact h.of_eq w.service_releaseStreamPlayerCommand w.switchTo_releaseStreamPlayerCommand
  | createSession sessionId sessionType =>
      simp only [World.step]
      split_ifs
      · exact h
      · exact h.of_eq rfl fun _ => rfl
  | destroySession sessionId =>
      exact h.of_eq (w.service_destroyCast sessionId) (w.switchTo_destroyCast sessionId)
  | collaborationOnStop p =>
      exact h.of_eq (w.service_pcmStopCast p) fun q => w.switchTo_pcmStopCast p q
  | castStateChange castState => exact h.of_eq rfl fun _ => rfl
  | runTask z =>
      simp only [World.step]
      split
      · exact h
      · apply h.of_le
        · rw [service_onCastStateChange]
        · intro q deviceId hq
          have hbefore := switchTo_of_onCastStateChange _ hq
          exact hbefore

/-- A step of orderly use loses no cast. -/
theorem keepsInHand_of_orderlyUse (hord : w.Ordered) (h : w.SwitchesInReach) (a : Act)
    (ha : w.OrderlyUse a) : w.KeepsInHand a := by
  cases a with
  | startCast sessionId deviceId protocols z =>
      intro p hp hscreen _ _
      have hcasting := ha hscreen
      apply hord.not_going
      simpa [isHiPlayCasting, hp] using hcasting
  | runTask z =>
      intro p tasks deviceId _ hdevice _ _
      exact Or.inl (h p deviceId hdevice)
  | _ => trivial

end orderly

/-! ## Runs -/

/-- A cast to one device, then to another one, and its end. -/
def changeOfDevice : List Act :=
  let z : Answers := ⟨true, true, true, true⟩
  [.startCast "pcmCastSession" "a" ⟨true, false⟩ z,
    .startCast "pcmCastSession" "b" ⟨true, false⟩ z,
    .castStateChange .disconnected,
    .runTask z,
    .stopCast "pcmCastSession"]

/-- A stop while the device is being changed: the object starts over, and no one knows it. -/
example : ¬ (run step .init [
    .startCast "pcmCastSession" "a" ⟨true, false⟩ ⟨true, true, true, true⟩,
    .startCast "pcmCastSession" "b" ⟨true, false⟩ ⟨true, true, true, true⟩,
    .stopCast "pcmCastSession",
    .castStateChange .disconnected,
    .runTask ⟨true, true, true, true⟩]).stopPcm.AllEnding := by
  intro h
  obtain ⟨p, hp, -⟩ := h 2 ⟨⟨some 0, some "b", true, false⟩, rfl, rfl, rfl⟩
  exact List.not_mem_nil hp

end World

end AvSession.Pcm
