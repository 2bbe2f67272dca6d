import AvSession.Lib.Holders
import AvSession.Lib.Run
import AvSession.Pcm.CastSession

/-!
# Casts of sound and who holds them

An object that the service knows can be asked to end its cast; one that is to be told that its
device has gone will end it by itself. Both are within reach.

* `World.holders` — the objects as holders of casts, with an equation for each operation.
* `Ordered` — handles are given out in order, and an object listens to its cast; every step keeps
  this.
* `service_…`, `switchTo_…` — what an operation leaves as it is.
-/

namespace AvSession.Pcm

open AvSession.Lib

/-- Whether a start comes to its end. -/
def Answers.connects (z : Answers) : Bool := z.castStarted && z.deviceAdded

namespace World

/-! ## Objects as holders -/

section holders

variable (w : World)

/-- A cast that goes on, and whose device has not been asked to go. -/
def Going (castHandle : ℤ) : Prop :=
  ∃ info, w.castHandleToInfoMap castHandle = some info ∧ info.running = true ∧
    info.removing = false

/-- An object that is to be told that its device has gone. -/
def ToldSoon (p : PcmRef) : Prop := (p, .disconnected) ∈ w.tasks

/-- An object that the service knows, or that ends its cast by itself. -/
def InReach (p : PcmRef) : Prop := w.pcmCastSession = some p ∨ w.ToldSoon p

/-- The objects hold the casts that go on. -/
def holders : Holders PcmRef ℤ :=
  ⟨{p | w.InReach p}, {castHandle | w.Going castHandle}, fun p => (w.pcms p).castHandle⟩

/-- Every cast that goes on comes to its end by itself. -/
def AllEnding : Prop := (w.holders.within {p | w.ToldSoon p}).InHand

/-- The objects within reach. -/
@[simp] theorem mem_reach_holders {p : PcmRef} : p ∈ w.holders.reach ↔ w.InReach p := Iff.rfl

/-- What an object holds is the handle of its cast. -/
@[simp] theorem handle_holders (p : PcmRef) : w.holders.handle p = (w.pcms p).castHandle := rfl

/-- The casts that go on. -/
@[simp] theorem mem_going_holders {castHandle : ℤ} :
    castHandle ∈ w.holders.going ↔ w.Going castHandle := Iff.rfl

/-! ### What the router does -/

/-- An entry is changed into one that does not go on. -/
theorem holders_changeInfo {castHandle : ℤ} {f : CastInfo → CastInfo}
    (hf : ∀ info, w.castHandleToInfoMap castHandle = some info → (f info).running = true →
      (f info).removing = true) :
    (w.changeInfo castHandle f).holders = w.holders.finish castHandle := by
  have hgoing : ∀ h, (w.changeInfo castHandle f).Going h ↔ w.Going h ∧ h ≠ castHandle := by
    intro h
    unfold Going changeInfo
    by_cases hh : h = castHandle
    · subst hh
      simp only [Function.update_self, Option.map_eq_some_iff, ne_eq, not_true, and_false,
        iff_false]
      rintro ⟨_, ⟨info, hinfo, rfl⟩, hrunning, hremoving⟩
      simp [hf info hinfo hrunning] at hremoving
    · simp [hh]
  have hset : {h | (w.changeInfo castHandle f).Going h} = {h | w.Going h} \ {castHandle} :=
    Set.ext hgoing
  exact Holders.ext rfl hset rfl

/-- An entry is changed into one that goes on as much. -/
theorem holders_changeInfo_of_eq {castHandle : ℤ} {f : CastInfo → CastInfo}
    (hf : ∀ info, w.castHandleToInfoMap castHandle = some info →
      (f info).running = info.running ∧ (f info).removing = info.removing) :
    (w.changeInfo castHandle f).holders = w.holders := by
  have hgoing : ∀ h, (w.changeInfo castHandle f).Going h ↔ w.Going h := by
    intro h
    unfold Going changeInfo
    by_cases hh : h = castHandle
    · subst hh
      cases hinfo : w.castHandleToInfoMap h with
      | none => simp
      | some info => simp [hf info hinfo]
    · simp [hh]
  exact Holders.ext rfl (Set.ext hgoing) rfl

/-- Whether the router knows the device of a cast. -/
def knowsDevice (castHandle : ℤ) : Bool :=
  (w.castHandleToInfoMap castHandle).any (·.outputDeviceInfo.isSome)

/-- A device that is known is asked to go, so its cast goes on no longer. -/
theorem holders_routerStopCast (castHandle : ℤ) :
    (w.routerStopCast castHandle).holders =
      if w.knowsDevice castHandle then w.holders.finish castHandle else w.holders := by
  unfold routerStopCast knowsDevice
  split
  · rename_i hdevice
    apply holders_changeInfo
    intro info hinfo _
    rw [hinfo] at hdevice
    rw [if_pos (by simpa using hdevice)]
  · rename_i hdevice
    apply holders_changeInfo_of_eq
    intro info hinfo
    rw [hinfo] at hdevice
    rw [if_neg (by simpa using hdevice)]
    exact ⟨rfl, rfl⟩

/-- A cast that the engine ends goes on no longer. -/
theorem holders_stopCastSession (castHandle : ℤ) :
    (w.stopCastSession castHandle).holders = w.holders.finish castHandle :=
  w.holders_changeInfo fun _ _ h => absurd h Bool.false_ne_true

/-- Nor does one that is ended. -/
theorem holders_endCastSession (castHandle : ℤ) :
    (w.endCastSession castHandle).holders = w.holders.finish castHandle :=
  w.holders_changeInfo fun _ _ h => absurd h Bool.false_ne_true

/-- The device of a cast does not matter to whether it goes on. -/
theorem holders_routerAddDevice (castHandle : ℤ) (deviceId : String) :
    (w.routerAddDevice castHandle deviceId).holders = w.holders :=
  w.holders_changeInfo_of_eq fun _ _ => ⟨rfl, rfl⟩

/-- A cast that is started goes on. -/
theorem holders_routerStartCast (p : PcmRef) :
    (w.routerStartCast p).holders = w.holders.start (w.nextHandle + 1) := by
  have hgoing : ∀ h, (w.routerStartCast p).Going h ↔ h = (w.nextHandle : ℤ) + 1 ∨ w.Going h := by
    intro h
    by_cases hh : h = (w.nextHandle : ℤ) + 1
    · subst hh
      simp [Going, routerStartCast]
    · simp [Going, routerStartCast, hh]
  exact Holders.ext rfl (Set.ext hgoing) rfl

/-! ### What objects do -/

/-- To change an object is to give it a handle. -/
theorem holders_setPcm (p : PcmRef) (x : PcmCastSession) :
    (w.setPcm p x).holders = w.holders.give p x.castHandle := by
  refine Holders.ext rfl rfl ?_
  funext q
  by_cases hq : q = p
  · subst hq
    simp [setPcm, holders, Holders.give]
  · simp [setPcm, holders, Holders.give, Function.update_of_ne hq]

/-- A change of an object that leaves its handle. -/
theorem holders_setPcm_of_eq {p : PcmRef} {x : PcmCastSession}
    (hx : x.castHandle = (w.pcms p).castHandle) : (w.setPcm p x).holders = w.holders := by
  rw [holders_setPcm, hx, ← handle_holders, Holders.give_handle]

/-- The object that is changed. -/
@[simp] theorem pcms_setPcm_self (p : PcmRef) (x : PcmCastSession) :
    (w.setPcm p x).pcms p = x := Function.update_self ..

/-- Other objects stay. -/
theorem pcms_setPcm_of_ne {p q : PcmRef} (hq : q ≠ p) (x : PcmCastSession) :
    (w.setPcm p x).pcms q = w.pcms q := Function.update_of_ne hq ..

/-- A release of the stream player leaves the casts. -/
@[simp] theorem holders_releaseStreamPlayer (p : PcmRef) :
    (w.releaseStreamPlayer p).holders = w.holders := by
  simp only [releaseStreamPlayer]
  split
  · apply holders_setPcm_of_eq
    rfl
  · rfl

/-- So does the stop of a session. -/
@[simp] theorem holders_releaseStreamPlayerCommand :
    w.releaseStreamPlayerCommand.holders = w.holders := by
  unfold releaseStreamPlayerCommand
  split
  · exact w.holders_releaseStreamPlayer _
  · rfl

/-- So does putting a session on the device. -/
@[simp] theorem holders_findSessionAndStreamCasting (p : PcmRef) :
    (w.findSessionAndStreamCasting p).holders = w.holders := rfl

/-- So does the command that asks for it. -/
@[simp] theorem holders_createStreamPlayer (p : PcmRef) (sessionId : String) :
    (w.createStreamPlayer p sessionId).holders = w.holders := by
  simp only [createStreamPlayer]
  split
  · rw [holders_findSessionAndStreamCasting]
    apply holders_setPcm_of_eq
    rfl
  · apply holders_setPcm_of_eq
    rfl

/-- A release of the stream player leaves the handles. -/
theorem castHandle_releaseStreamPlayer (p q : PcmRef) :
    ((w.releaseStreamPlayer p).pcms q).castHandle = (w.pcms q).castHandle :=
  congrFun (congrArg Holders.handle (w.holders_releaseStreamPlayer p)) q

/-- It leaves what the router knows. -/
@[simp] theorem infos_releaseStreamPlayer (p : PcmRef) :
    (w.releaseStreamPlayer p).castHandleToInfoMap = w.castHandleToInfoMap := by
  simp only [releaseStreamPlayer]
  split <;> rfl

/-- A stop ends the cast of the object, if its device is known. -/
theorem holders_pcmStopCast (p : PcmRef) :
    (w.pcmStopCast p).holders =
      if w.knowsDevice (w.pcms p).castHandle then w.holders.stop p else w.holders := by
  simp only [pcmStopCast, holders_routerStopCast, knowsDevice, infos_releaseStreamPlayer,
    castHandle_releaseStreamPlayer, holders_releaseStreamPlayer]
  rfl

/-- The cast of the object is ended, and its handle forgotten. -/
theorem holders_destroyTask (p : PcmRef) :
    (w.destroyTask p).holders = (w.holders.stop p).give p (-1) := by
  unfold destroyTask
  rw [holders_setPcm, holders_endCastSession]
  rfl

/-- So it is when the device has gone. -/
theorem holders_leaveDevice (p : PcmRef) :
    (w.leaveDevice p).holders = (w.holders.stop p).give p (-1) := by
  rw [leaveDevice, holders_destroyTask, holders_releaseStreamPlayer]

end holders

/-! ## Starts -/

section starts

variable (w : World)

/-- Whether the object is connected is what the engine answers. -/
theorem connect_snd (p : PcmRef) (deviceId : String) (z : Answers) :
    (w.connect p deviceId z).2 = z.connects := by
  unfold connect Answers.connects
  cases z.castStarted <;> cases z.deviceAdded <;> rfl

/-- A release of the stream player makes no object. -/
@[simp] theorem nextPcm_releaseStreamPlayer (p : PcmRef) :
    (w.releaseStreamPlayer p).nextPcm = w.nextPcm := by
  simp only [releaseStreamPlayer]
  split <;> rfl

/-- A stop posts no task. -/
@[simp] theorem tasks_pcmStopCast (p : PcmRef) : (w.pcmStopCast p).tasks = w.tasks := by
  simp only [pcmStopCast, releaseStreamPlayer]
  split <;> rfl

/-- An object that leaves its device makes no other. -/
@[simp] theorem nextPcm_leaveDevice (p : PcmRef) : (w.leaveDevice p).nextPcm = w.nextPcm :=
  w.nextPcm_releaseStreamPlayer p

end starts

/-! ## Handles in order -/

section ordered

/-- An object listens to a cast. -/
abbrev Listens (p : PcmRef) (info : CastInfo) : Prop := info.avRouterListener = some p

/-- Handles are given out in order, from 1 on; objects, too. An object that has a handle listens to
its cast. If the device of the cast is not known any more, it has been asked to go, or the object is
to be told that it has gone; this need not be so of the objects of `free`. -/
structure OrderedBut (free : Set PcmRef) (w : World) : Prop where
  handle : ∀ h info, w.castHandleToInfoMap h = some info → 1 ≤ h ∧ h ≤ w.nextHandle
  listener : ∀ h info p, w.castHandleToInfoMap h = some info → info.avRouterListener = some p →
    p < w.nextPcm
  service : ∀ p, w.pcmCastSession = some p → p < w.nextPcm
  tasks : ∀ p castState, (p, castState) ∈ w.tasks → p < w.nextPcm
  held : ∀ p, 0 < (w.pcms p).castHandle → ∃ info,
    w.castHandleToInfoMap (w.pcms p).castHandle = some info ∧ Listens p info
  device : ∀ p ∉ free, ∀ info, w.castHandleToInfoMap (w.pcms p).castHandle = some info →
    info.outputDeviceInfo = none → info.removing = true ∨ w.ToldSoon p

/-- All objects are in order. -/
abbrev Ordered (w : World) : Prop := OrderedBut ∅ w

/-- At first there is nothing. -/
theorem ordered_init : Ordered .init where
  handle h info hinfo := absurd hinfo (by simp [init])
  listener h info p hinfo := absurd hinfo (by simp [init])
  service p hp := absurd hp (by simp [init])
  tasks p castState hp := absurd hp (by simp [init])
  held p hp := absurd hp (by simp [init, PcmCastSession.init])
  device p _ info hinfo := absurd hinfo (by simp [init])

variable {w : World} {free : Set PcmRef}

/-! ### What follows -/

/-- Handles that go on are positive. -/
theorem OrderedBut.not_going (h : w.OrderedBut free) {k : ℤ} (hk : k ≤ 0) : ¬ w.Going k := by
  rintro ⟨info, hinfo, -⟩
  have := h.handle k info hinfo
  omega

/-- The next handle is none of those that are kept or go on. -/
theorem OrderedBut.fresh (h : w.OrderedBut free) :
    ¬ w.Going (w.nextHandle + 1) ∧ ∀ p, (w.pcms p).castHandle ≠ w.nextHandle + 1 := by
  constructor
  · rintro ⟨info, hinfo, -⟩
    have := h.handle _ info hinfo
    omega
  · intro p hp
    obtain ⟨info, hinfo, -⟩ := h.held p (by omega)
    have := h.handle _ info hinfo
    omega

/-- One object has the handle of a cast. -/
theorem OrderedBut.unique (h : w.OrderedBut free) {p q : PcmRef} (hp : 0 < (w.pcms p).castHandle)
    (hq : (w.pcms q).castHandle = (w.pcms p).castHandle) : q = p := by
  obtain ⟨info, hinfo, hlistens⟩ := h.held p hp
  obtain ⟨info', hinfo', hlistens'⟩ := h.held q (hq ▸ hp)
  rw [hq, hinfo] at hinfo'
  obtain rfl := Option.some.inj hinfo'
  exact Option.some.inj (hlistens'.symm.trans hlistens)

/-- If the router does not know the device of a cast that goes on, its object is to be told. -/
theorem OrderedBut.toldSoon (h : w.OrderedBut free) {p : PcmRef} (hp : p ∉ free)
    (hdevice : w.knowsDevice (w.pcms p).castHandle = false)
    (hgoing : w.Going (w.pcms p).castHandle) : w.ToldSoon p := by
  obtain ⟨info, hinfo, -, hremoving⟩ := hgoing
  have hnone : info.outputDeviceInfo = none := by simpa [knowsDevice, hinfo] using hdevice
  rcases h.device p hp info hinfo hnone with hr | htold
  · simp [hremoving] at hr
  · exact htold

/-! ### What keeps the order -/

/-- More objects may be out of order. -/
theorem OrderedBut.mono (h : w.OrderedBut free) {free' : Set PcmRef} (hfree : free ⊆ free') :
    w.OrderedBut free' :=
  { h with device := fun p hp => h.device p fun hmem => hp (hfree hmem) }

/-- An object changes its handle; nothing else is free of the order than before. -/
theorem OrderedBut.setPcm {free' : Set PcmRef} (h : w.OrderedBut free') {p : PcmRef}
    (hfree : free' ⊆ insert p free) {x : PcmCastSession}
    (hheld : 0 < x.castHandle → ∃ info, w.castHandleToInfoMap x.castHandle = some info ∧
      Listens p info)
    (hdevice : p ∉ free → ∀ info, w.castHandleToInfoMap x.castHandle = some info →
      info.outputDeviceInfo = none → info.removing = true ∨ w.ToldSoon p) :
    (w.setPcm p x).OrderedBut free where
  handle := h.handle
  listener := h.listener
  service := h.service
  tasks := h.tasks
  held q hq := by
    by_cases hqp : q = p
    · subst hqp
      rw [pcms_setPcm_self] at hq ⊢
      exact hheld hq
    · rw [pcms_setPcm_of_ne _ hqp] at hq ⊢
      exact h.held q hq
  device q hq := by
    by_cases hqp : q = p
    · subst hqp
      rw [pcms_setPcm_self]
      exact hdevice hq
    · rw [pcms_setPcm_of_ne _ hqp]
      exact h.device q fun hmem => (hfree hmem).elim hqp hq

/-- An object changes, but not its handle. -/
theorem OrderedBut.setPcm_of_eq (h : w.OrderedBut free) {p : PcmRef} {x : PcmCastSession}
    (hx : x.castHandle = (w.pcms p).castHandle) : (w.setPcm p x).OrderedBut free := by
  apply h.setPcm (Set.subset_insert p free)
  · rw [hx]
    exact h.held p
  · rw [hx]
    exact h.device p

/-- An object gives its handle away. -/
theorem OrderedBut.setPcm_of_le {p : PcmRef} (h : w.OrderedBut {p}) {x : PcmCastSession}
    (hx : x.castHandle ≤ 0) : (w.setPcm p x).Ordered := by
  apply h.setPcm (by simp)
  · intro hpos
    omega
  · intro _ info hinfo
    have := h.handle _ info hinfo
    omega

/-- An entry changes. -/
theorem OrderedBut.changeInfo (h : w.OrderedBut free) {castHandle : ℤ} {f : CastInfo → CastInfo}
    (hlistener : ∀ info p, (f info).avRouterListener = some p → info.avRouterListener = some p)
    (hheld : ∀ p, 0 < castHandle → (w.pcms p).castHandle = castHandle → ∀ info,
      w.castHandleToInfoMap castHandle = some info → Listens p info → Listens p (f info))
    (hdevice : ∀ info, (f info).outputDeviceInfo = none → (f info).removing = true ∨
      info.outputDeviceInfo = none ∧ (info.removing = true → (f info).removing = true)) :
    (w.changeInfo castHandle f).OrderedBut free := by
  have hentry : ∀ k info', (w.changeInfo castHandle f).castHandleToInfoMap k = some info' →
      ∃ info, w.castHandleToInfoMap k = some info ∧
        (k = castHandle ∧ info' = f info ∨ k ≠ castHandle ∧ info' = info) := by
    intro k info' hinfo'
    by_cases hk : k = castHandle
    · subst hk
      simp only [World.changeInfo, Function.update_self, Option.map_eq_some_iff] at hinfo'
      obtain ⟨info, hinfo, rfl⟩ := hinfo'
      exact ⟨info, hinfo, Or.inl ⟨rfl, rfl⟩⟩
    · simp only [World.changeInfo, Function.update_of_ne hk] at hinfo'
      exact ⟨info', hinfo', Or.inr ⟨hk, rfl⟩⟩
  refine ⟨?_, ?_, h.service, h.tasks, ?_, ?_⟩
  · intro k info' hinfo'
    obtain ⟨info, hinfo, -⟩ := hentry k info' hinfo'
    exact h.handle k info hinfo
  · intro k info' p hinfo' hp
    obtain ⟨info, hinfo, ⟨-, rfl⟩ | ⟨-, rfl⟩⟩ := hentry k info' hinfo'
    · exact h.listener k info p hinfo (hlistener info p hp)
    · exact h.listener k info' p hinfo hp
  · intro p hp
    obtain ⟨info, hinfo, hlistens⟩ := h.held p hp
    by_cases hk : (w.pcms p).castHandle = castHandle
    · refine ⟨f info, ?_, ?_⟩
      · simp only [World.changeInfo, hk, Function.update_self]
        rw [← hk, hinfo]
        rfl
      · exact hheld p (hk ▸ hp) hk info (hk ▸ hinfo) hlistens
    · exact ⟨info, by simpa [World.changeInfo, Function.update_of_ne hk] using hinfo, hlistens⟩
  · intro p hp info' hinfo' hnone
    obtain ⟨info, hinfo, ⟨-, rfl⟩ | ⟨-, rfl⟩⟩ := hentry _ info' hinfo'
    · rcases hdevice info hnone with hremoving | ⟨hbefore, hkeeps⟩
      · exact Or.inl hremoving
      · exact (h.device p hp info hinfo hbefore).imp_left hkeeps
    · exact h.device p hp info' hinfo hnone

/-- A device that is asked to go changes no order. -/
theorem OrderedBut.routerStopCast (h : w.OrderedBut free) (castHandle : ℤ) :
    (w.routerStopCast castHandle).OrderedBut free := by
  apply h.changeInfo
  · intro info p hp
    split at hp <;> exact hp
  · intro p _ _ info _ hlistens
    split
    · exact hlistens
    · exact hlistens
  · intro info hnone
    by_cases hdevice : info.outputDeviceInfo.isSome
    · simp [hdevice]
    · rw [if_neg hdevice] at hnone ⊢
      exact Or.inr ⟨hnone, id⟩

/-- Nor does a cast that the engine ends. -/
theorem OrderedBut.stopCastSession (h : w.OrderedBut free) (castHandle : ℤ) :
    (w.stopCastSession castHandle).OrderedBut free := by
  apply h.changeInfo
  · intro info p hp
    exact hp
  · intro p _ _ info _ hlistens
    exact hlistens
  · intro info hnone
    exact Or.inr ⟨hnone, id⟩

/-- A release of the stream player does not either. -/
theorem OrderedBut.releaseStreamPlayer (h : w.OrderedBut free) (p : PcmRef) :
    (w.releaseStreamPlayer p).OrderedBut free := by
  simp only [World.releaseStreamPlayer]
  split
  · have hsessions : (w.setIsHiPlayStreamCasting (w.pcms p).streamCastingSessionId
        false (-1)).OrderedBut free := ⟨h.handle, h.listener, h.service, h.tasks, h.held, h.device⟩
    apply hsessions.setPcm_of_eq
    rfl
  · exact h

/-- Nor does the command that asks for it. -/
theorem OrderedBut.releaseStreamPlayerCommand (h : w.OrderedBut free) :
    w.releaseStreamPlayerCommand.OrderedBut free := by
  unfold World.releaseStreamPlayerCommand
  split
  · exact h.releaseStreamPlayer _
  · exact h

/-- Nor does a session that stops. -/
theorem OrderedBut.itemStopCast (h : w.OrderedBut free) (session : AppSession) :
    (w.itemStopCast session).OrderedBut free := by
  unfold World.itemStopCast
  split
  · exact h.releaseStreamPlayerCommand
  · exact h.routerStopCast _

/-- Nor does a session that goes. -/
theorem OrderedBut.destroyCast (h : w.OrderedBut free) (sessionId : String) :
    (w.destroyCast sessionId).OrderedBut free := by
  unfold World.destroyCast itemStopCastSession
  split
  · split
    · have hstopped := h.itemStopCast ‹AppSession›
      split
      · exact hstopped.stopCastSession _
      · exact hstopped
    · exact h
  · exact h

/-- Putting a session on the device does not either. -/
theorem OrderedBut.findSessionAndStreamCasting (h : w.OrderedBut free) (p : PcmRef) :
    (w.findSessionAndStreamCasting p).OrderedBut free :=
  ⟨h.handle, h.listener, h.service, h.tasks, h.held, h.device⟩

/-- Nor does the command that asks for it. -/
theorem OrderedBut.createStreamPlayer (h : w.OrderedBut free) (p : PcmRef) (sessionId : String) :
    (w.createStreamPlayer p sessionId).OrderedBut free := by
  simp only [World.createStreamPlayer]
  split
  · apply OrderedBut.findSessionAndStreamCasting
    apply h.setPcm_of_eq
    rfl
  · apply h.setPcm_of_eq
    rfl

/-- Nor does a stop. -/
theorem OrderedBut.pcmStopCast (h : w.OrderedBut free) (p : PcmRef) :
    (w.pcmStopCast p).OrderedBut free := (h.releaseStreamPlayer p).routerStopCast _

/-- An object that ends its cast is in order, whatever was free of it. -/
theorem OrderedBut.destroyTask {p : PcmRef} (h : w.OrderedBut {p}) : (w.destroyTask p).Ordered := by
  let x : PcmCastSession := { w.pcms p with
    castHandle := -1
    castState := .disconnected
    castHandleDeviceId := "-100" }
  have hswap : w.destroyTask p = (w.setPcm p x).endCastSession (w.pcms p).castHandle := rfl
  have hset : (w.setPcm p x).Ordered := by
    apply h.setPcm_of_le
    show (-1 : ℤ) ≤ 0
    omega
  rw [hswap]
  apply hset.changeInfo
  · intro info q hq
    exact absurd hq (by simp)
  · -- no other object has the handle
    intro q hpos hq
    by_cases hqp : q = p
    · subst hqp
      rw [pcms_setPcm_self] at hq
      have hneg : x.castHandle = -1 := rfl
      omega
    · rw [pcms_setPcm_of_ne _ hqp] at hq
      exact absurd (h.unique hpos hq) hqp
  · intro info hnone
    exact Or.inr ⟨hnone, id⟩

/-- An object that leaves its device is in order again. -/
theorem OrderedBut.leaveDevice {p : PcmRef} (h : w.OrderedBut {p}) : (w.leaveDevice p).Ordered :=
  (h.releaseStreamPlayer p).destroyTask

/-- A cast is started with a fresh handle. -/
theorem OrderedBut.routerStartCast (h : w.OrderedBut free) {p : PcmRef} (hp : p < w.nextPcm) :
    (w.routerStartCast p).OrderedBut free := by
  have hentry : ∀ k info, (w.routerStartCast p).castHandleToInfoMap k = some info →
      k = (w.nextHandle : ℤ) + 1 ∧ info = ⟨some p, none, true, false⟩ ∨
        k ≠ (w.nextHandle : ℤ) + 1 ∧ w.castHandleToInfoMap k = some info := by
    intro k info hinfo
    by_cases hk : k = (w.nextHandle : ℤ) + 1
    · subst hk
      simp only [World.routerStartCast, Function.update_self, Option.some.injEq] at hinfo
      exact Or.inl ⟨rfl, hinfo.symm⟩
    · simp only [World.routerStartCast, Function.update_of_ne hk] at hinfo
      exact Or.inr ⟨hk, hinfo⟩
  have hnext : ((w.routerStartCast p).nextHandle : ℤ) = w.nextHandle + 1 :=
    Int.natCast_add w.nextHandle 1
  refine ⟨?_, ?_, h.service, h.tasks, ?_, ?_⟩
  · intro k info hinfo
    rw [hnext]
    rcases hentry k info hinfo with ⟨rfl, -⟩ | ⟨-, hbefore⟩
    · omega
    · have := h.handle k info hbefore
      omega
  · intro k info q hinfo hq
    rcases hentry k info hinfo with ⟨-, rfl⟩ | ⟨-, hbefore⟩
    · obtain rfl := Option.some.inj hq
      exact hp
    · exact h.listener k info q hbefore hq
  · intro q hq
    obtain ⟨info, hinfo, hlistens⟩ := h.held q hq
    refine ⟨info, ?_, hlistens⟩
    exact (Function.update_of_ne (h.fresh.2 q) ..).trans hinfo
  · intro q hq info hinfo hnone
    rcases hentry _ info hinfo with ⟨hk, -⟩ | ⟨-, hbefore⟩
    · exact absurd hk (h.fresh.2 q)
    · exact h.device q hq info hbefore hnone

/-- A device is added to a cast in order. -/
theorem OrderedBut.routerAddDevice (h : w.OrderedBut free) (castHandle : ℤ) (deviceId : String) :
    (w.routerAddDevice castHandle deviceId).OrderedBut free := by
  apply h.changeInfo
  · intro info p hp
    exact hp
  · intro p _ _ info _ hlistens
    exact hlistens
  · intro info hnone
    simp at hnone

/-- The entry of a cast that has been started. -/
theorem routerStartCast_entry (w : World) (p : PcmRef) :
    (w.routerStartCast p).castHandleToInfoMap (w.routerStartCast p).nextHandle =
      some ⟨some p, none, true, false⟩ := by
  have hnext : ((w.routerStartCast p).nextHandle : ℤ) = w.nextHandle + 1 :=
    Int.natCast_add w.nextHandle 1
  rw [hnext]
  exact Function.update_self ..

/-- An object that is connected holds a handle that was given out. -/
theorem OrderedBut.connect (h : w.Ordered) {p : PcmRef} (hp : p < w.nextPcm) (deviceId : String)
    (z : Answers) : (w.connect p deviceId z).1.Ordered := by
  have hall := h.mono (Set.empty_subset {p})
  have hstart := h.routerStartCast hp
  have hentry := w.routerStartCast_entry p
  unfold World.connect
  cases z.castStarted with
  | false =>
      apply hall.setPcm_of_le
      show (-1 : ℤ) ≤ 0
      omega
  | true =>
      cases z.deviceAdded with
      | true =>
          have hdevice : ((w.routerStartCast p).routerAddDevice (w.routerStartCast p).nextHandle
              deviceId).castHandleToInfoMap (w.routerStartCast p).nextHandle =
                some ⟨some p, some deviceId, true, false⟩ := by
            simp [World.routerAddDevice, World.changeInfo, hentry]
          apply (hstart.routerAddDevice _ deviceId).setPcm (Set.empty_subset _)
          · intro _
            exact ⟨_, hdevice, rfl⟩
          · intro _ info hinfo hnone
            obtain rfl := Option.some.inj (hdevice.symm.trans hinfo)
            simp at hnone
      | false =>
          apply OrderedBut.destroyTask
          apply hstart.setPcm (Set.empty_subset _)
          · intro _
            exact ⟨_, hentry, rfl⟩
          · intro hne
            exact absurd (Set.mem_singleton p) hne

/-- The same for an object that starts over. -/
theorem OrderedBut.startOver (h : w.Ordered) {p : PcmRef} (hp : p < w.nextPcm) (deviceId : String)
    (z : Answers) : (w.startOver p deviceId z).Ordered := by
  have hconnect := OrderedBut.connect h hp deviceId z
  simp only [World.startOver, subStartCast, connect_snd]
  split
  · split
    · exact hconnect
    · exact (hconnect.mono (Set.empty_subset {p})).leaveDevice
  · exact (h.mono (Set.empty_subset {p})).leaveDevice

/-- A disconnect leaves its object in order. -/
theorem OrderedBut.handleDeviceDisconnect {p : PcmRef} (h : w.OrderedBut {p})
    (hp : p < w.nextPcm) (z : Answers) : (w.handleDeviceDisconnect p z).Ordered := by
  simp only [World.handleDeviceDisconnect]
  split
  · exact h.leaveDevice
  · apply OrderedBut.startOver
    · apply h.leaveDevice.setPcm_of_eq
      rfl
    · show p < (w.leaveDevice p).nextPcm
      rwa [nextPcm_leaveDevice]

/-- A start on an object keeps the order. -/
theorem OrderedBut.pcmStartCast (h : w.Ordered) {p : PcmRef} (hp : p < w.nextPcm)
    (sessionId deviceId : String) (protocols : SupportedProtocols) (z : Answers) :
    (w.pcmStartCast p sessionId deviceId protocols z).Ordered := by
  have hconnect := OrderedBut.connect h hp deviceId z
  simp only [World.pcmStartCast, startScreenCast, subStartCast]
  split_ifs
  · exact h
  · apply OrderedBut.pcmStopCast
    apply h.setPcm_of_eq
    rfl
  · exact hconnect
  · exact h
  · exact hconnect
  · exact h

/-- An object is told of a state; if its device has gone, it need not be in order until then. -/
theorem OrderedBut.onCastStateChange {p : PcmRef} {castState : DeviceState}
    (h : w.OrderedBut {q | q = p ∧ castState = .disconnected}) (hp : p < w.nextPcm) (z : Answers) :
    (w.onCastStateChange p castState z).Ordered := by
  cases castState with
  | disconnected => exact OrderedBut.handleDeviceDisconnect (by simpa using h) hp z
  | connected | playing =>
      have hall : w.Ordered := by simpa using h
      apply hall.setPcm_of_eq
      rfl
  | stream =>
      have hall : w.Ordered := by simpa using h
      simp only [World.onCastStateChange]
      split
      · apply OrderedBut.findSessionAndStreamCasting
        apply hall.setPcm_of_eq
        rfl
      · apply hall.setPcm_of_eq
        rfl
  | other =>
      have hall : w.Ordered := by simpa using h
      exact hall

/-- A new object holds nothing and is the known one. -/
theorem holders_newPcm (w : World) :
    w.newPcm.holders = ((w.holders.give w.nextPcm 0).within
      {p | some w.nextPcm = some p ∨ w.ToldSoon p}) := by
  have h := w.holders_setPcm w.nextPcm .init
  exact congrArg (Holders.within · _) h

/-- A new object is in order. -/
theorem OrderedBut.newPcm (h : w.Ordered) : w.newPcm.Ordered := by
  have hset : (w.setPcm w.nextPcm .init).Ordered := by
    apply (h.mono (Set.empty_subset {w.nextPcm})).setPcm_of_le
    exact le_rfl
  refine ⟨hset.handle, ?_, ?_, ?_, hset.held, hset.device⟩
  · intro k info p hinfo hp
    exact Nat.lt_succ_of_lt (h.listener k info p hinfo hp)
  · intro p hp
    obtain rfl := Option.some.inj hp
    exact Nat.lt_succ_self _
  · intro p castState hp
    exact Nat.lt_succ_of_lt (h.tasks p castState hp)

/-- What is told to the listeners of all casts. -/
theorem mem_tasks_routerOnCastStateChange {castState s : DeviceState} {p : PcmRef} :
    (p, s) ∈ (w.routerOnCastStateChange castState).tasks ↔
      (p, s) ∈ w.tasks ∨ s = castState ∧ ∃ n < w.nextHandle, ∃ info,
        w.castHandleToInfoMap (n + 1) = some info ∧ info.avRouterListener = some p := by
  simp only [World.routerOnCastStateChange, List.mem_append, List.mem_filterMap, List.mem_range,
    Option.map_eq_some_iff, Option.bind_eq_some_iff, Prod.mk.injEq]
  constructor
  · rintro (hbefore | ⟨n, hn, q, ⟨info, hinfo, hq⟩, rfl, rfl⟩)
    · exact Or.inl hbefore
    · exact Or.inr ⟨rfl, n, hn, info, hinfo, hq⟩
  · rintro (hbefore | ⟨rfl, n, hn, info, hinfo, hq⟩)
    · exact Or.inl hbefore
    · exact Or.inr ⟨n, hn, p, ⟨info, hinfo, hq⟩, rfl, rfl⟩

/-- The object of a cast is told. -/
theorem OrderedBut.toldSoon_routerOnCastStateChange (h : w.Ordered) {p : PcmRef}
    (hp : 0 < (w.pcms p).castHandle) : (w.routerOnCastStateChange .disconnected).ToldSoon p := by
  obtain ⟨info, hinfo, hlistens⟩ := h.held p hp
  have hbound := h.handle _ info hinfo
  refine mem_tasks_routerOnCastStateChange.mpr (Or.inr ⟨rfl, (w.pcms p).castHandle.toNat - 1, ?_,
    info, ?_, hlistens⟩)
  · omega
  · have hsucc : (((w.pcms p).castHandle.toNat - 1 : ℕ) : ℤ) + 1 = (w.pcms p).castHandle := by
      omega
    rw [hsucc]
    exact hinfo

/-- Tasks are posted to objects that there are. -/
theorem OrderedBut.routerOnCastStateChange (h : w.Ordered) (castState : DeviceState) :
    (w.routerOnCastStateChange castState).Ordered := by
  have hentry : ∀ k info', (w.routerOnCastStateChange castState).castHandleToInfoMap k =
      some info' → ∃ info, w.castHandleToInfoMap k = some info ∧
        info' = if castState = .disconnected ∧ info.avRouterListener.isSome then
          { info with outputDeviceInfo := none } else info := by
    intro k info' hinfo'
    obtain ⟨info, hinfo, heq⟩ := Option.map_eq_some_iff.mp hinfo'
    exact ⟨info, hinfo, heq.symm⟩
  refine ⟨?_, ?_, h.service, ?_, ?_, ?_⟩
  · intro k info' hinfo'
    obtain ⟨info, hinfo, -⟩ := hentry k info' hinfo'
    exact h.handle k info hinfo
  · intro k info' p hinfo' hp
    obtain ⟨info, hinfo, rfl⟩ := hentry k info' hinfo'
    apply h.listener k info p hinfo
    split at hp <;> exact hp
  · intro p s hp
    rcases mem_tasks_routerOnCastStateChange.mp hp with hbefore | ⟨-, n, -, info, hinfo, hlistener⟩
    · exact h.tasks p s hbefore
    · exact h.listener _ info p hinfo hlistener
  · intro p hp
    obtain ⟨info, hinfo, hlistens⟩ := h.held p hp
    refine ⟨_, Option.map_eq_some_iff.mpr ⟨info, hinfo, rfl⟩, ?_⟩
    split
    · exact hlistens
    · exact hlistens
  · intro p hp info' hinfo' hnone
    obtain ⟨info, hinfo, rfl⟩ := hentry _ info' hinfo'
    have hbound : 1 ≤ (w.pcms p).castHandle := (h.handle _ info hinfo).1
    have hpos : 0 < (w.pcms p).castHandle := by omega
    by_cases hcond : castState = .disconnected ∧ info.avRouterListener.isSome
    · obtain ⟨rfl, -⟩ := hcond
      exact Or.inr (OrderedBut.toldSoon_routerOnCastStateChange h hpos)
    · rw [if_neg hcond] at hnone ⊢
      refine (h.device p hp info hinfo hnone).imp_right fun htold => ?_
      exact mem_tasks_routerOnCastStateChange.mpr (Or.inl htold)

/-- A stop of all sound keeps the order. -/
theorem OrderedBut.stopPcm (h : w.Ordered) : w.stopPcm.Ordered := by
  unfold World.stopPcm
  split
  · apply OrderedBut.pcmStopCast
    exact ⟨h.handle, h.listener, fun p hp => absurd hp (by simp), h.tasks, h.held, h.device⟩
  · exact h

/-- The death of a client keeps it. -/
theorem OrderedBut.clear (h : w.Ordered) : w.clearPcmSessionForClientDied.Ordered := by
  unfold clearPcmSessionForClientDied
  split
  · rename_i p hp
    have hdestroyed := (h.mono (Set.empty_subset {p})).destroyTask
    exact ⟨hdestroyed.handle, hdestroyed.listener, fun p hp => absurd hp (by simp),
      hdestroyed.tasks, hdestroyed.held, hdestroyed.device⟩
  · exact h

/-- A task is taken out: whoever was to be told of a disconnect has been, or is to be told yet. -/
theorem ToldSoon.of_cons {p q : PcmRef} {castState : DeviceState}
    {tasks : List (PcmRef × DeviceState)} (h : w.ToldSoon q)
    (htasks : w.tasks = (p, castState) :: tasks) :
    (q = p ∧ castState = .disconnected) ∨ (q, .disconnected) ∈ tasks := by
  have hmem : (q, DeviceState.disconnected) ∈ (p, castState) :: tasks := htasks ▸ h
  rcases List.mem_cons.mp hmem with heq | hrest
  · obtain ⟨rfl, rfl⟩ := Prod.mk.inj heq
    exact Or.inl ⟨rfl, rfl⟩
  · exact Or.inr hrest

/-- Only an object that was to be told of a disconnect may lack it. -/
theorem OrderedBut.popTask (h : w.Ordered) {p : PcmRef} {castState : DeviceState}
    {tasks : List (PcmRef × DeviceState)} (htasks : w.tasks = (p, castState) :: tasks) :
    ({ w with tasks } : World).OrderedBut {q | q = p ∧ castState = .disconnected} := by
  refine ⟨h.handle, h.listener, h.service, fun q s hq => ?_, h.held,
    fun q hq info hinfo hnone => ?_⟩
  · apply h.tasks q s
    rw [htasks]
    exact List.mem_cons_of_mem _ hq
  · refine (h.device q (Set.notMem_empty q) info hinfo hnone).imp_right fun htold => ?_
    exact (htold.of_cons htasks).resolve_left hq

/-- Every step keeps it. -/
theorem OrderedBut.step (h : w.Ordered) (a : Act) : (w.step a).Ordered := by
  cases a with
  | startCast sessionId deviceId protocols z =>
      show (w.startCast sessionId deviceId protocols z).Ordered
      unfold startCast
      split_ifs
      · split
        · rename_i p hp
          exact OrderedBut.pcmStartCast h (h.service p hp) sessionId deviceId protocols z
        · have hnew := OrderedBut.newPcm h
          exact OrderedBut.pcmStartCast hnew (hnew.service w.nextPcm rfl) sessionId deviceId
            protocols z
      · exact h
  | stopCast sessionId =>
      show (w.stopCast sessionId).Ordered
      unfold stopCast
      split_ifs
      · exact OrderedBut.stopPcm h
      · exact h
  | clearPcmSessionForClientDied => exact OrderedBut.clear h
  | createStreamPlayer sessionId =>
      show (w.createStreamPlayerCommand sessionId).Ordered
      unfold createStreamPlayerCommand
      split
      · exact h.createStreamPlayer _ sessionId
      · exact h
  | releaseStreamPlayer =>
      exact h.releaseStreamPlayerCommand
  | createSession sessionId sessionType =>
      simp only [World.step]
      split_ifs
      · exact h
      · exact ⟨h.handle, h.listener, h.service, h.tasks, h.held, h.device⟩
  | destroySession sessionId =>
      have hdestroyed := h.destroyCast sessionId
      exact ⟨hdestroyed.handle, hdestroyed.listener, hdestroyed.service, hdestroyed.tasks,
        hdestroyed.held, hdestroyed.device⟩
  | collaborationOnStop p => exact h.pcmStopCast p
  | castStateChange castState => exact OrderedBut.routerOnCastStateChange h castState
  | runTask z =>
      simp only [World.step]
      split
      · exact h
      · rename_i p castState tasks htasks
        apply (OrderedBut.popTask h htasks).onCastStateChange
        apply h.tasks p castState
        rw [htasks]
        exact List.mem_cons_self

/-- A connected object holds a new cast that goes on; one that is not holds nothing. -/
theorem holders_connect (h : w.Ordered) (p : PcmRef) (deviceId : String) (z : Answers) :
    (w.connect p deviceId z).1.holders =
      if z.connects then (w.holders.start (w.nextHandle + 1)).give p (w.nextHandle + 1)
      else w.holders.give p (-1) := by
  have hnext : ((w.routerStartCast p).nextHandle : ℤ) = (w.nextHandle : ℤ) + 1 :=
    Int.natCast_add w.nextHandle 1
  have hgoing : ((w.nextHandle : ℤ) + 1) ∉ w.holders.going := h.fresh.1
  unfold World.connect Answers.connects
  cases z.castStarted with
  | false => exact w.holders_setPcm p _
  | true =>
      cases z.deviceAdded with
      | true => simp [holders_setPcm, holders_routerAddDevice, holders_routerStartCast, hnext]
      | false =>
          simp only [if_true, Bool.false_eq_true, if_false, Bool.and_false, holders_destroyTask,
            holders_setPcm, holders_routerStartCast, hnext, Holders.stop, Holders.handle_give_self,
            Holders.give_finish, Holders.finish_start _ hgoing, Holders.give_give]

end ordered

/-! ## The known object -/

section service

variable (w : World)

/-- A release of the stream player leaves the known object. -/
@[simp] theorem service_releaseStreamPlayer (p : PcmRef) :
    (w.releaseStreamPlayer p).pcmCastSession = w.pcmCastSession := by
  simp only [releaseStreamPlayer]
  split <;> rfl

/-- The stop of a session leaves it. -/
@[simp] theorem service_releaseStreamPlayerCommand :
    w.releaseStreamPlayerCommand.pcmCastSession = w.pcmCastSession := by
  unfold releaseStreamPlayerCommand
  split
  · exact w.service_releaseStreamPlayer _
  · rfl

/-- So does the end of a session. -/
@[simp] theorem service_destroyCast (sessionId : String) :
    (w.destroyCast sessionId).pcmCastSession = w.pcmCastSession := by
  have hstop : ∀ session, (w.itemStopCast session).pcmCastSession = w.pcmCastSession := by
    intro session
    unfold itemStopCast
    split
    · exact w.service_releaseStreamPlayerCommand
    · rfl
  unfold destroyCast itemStopCastSession
  split
  · split
    · split
      · exact hstop _
      · exact hstop _
    · rfl
  · rfl

/-- The command for a stream player leaves it. -/
@[simp] theorem service_createStreamPlayer (p : PcmRef) (sessionId : String) :
    (w.createStreamPlayer p sessionId).pcmCastSession = w.pcmCastSession := by
  simp only [createStreamPlayer]
  split <;> rfl

/-- A stop on an object leaves it. -/
@[simp] theorem service_pcmStopCast (p : PcmRef) :
    (w.pcmStopCast p).pcmCastSession = w.pcmCastSession := w.service_releaseStreamPlayer p

/-- An object that leaves its device leaves it. -/
@[simp] theorem service_leaveDevice (p : PcmRef) :
    (w.leaveDevice p).pcmCastSession = w.pcmCastSession := w.service_releaseStreamPlayer p

/-- A connection leaves it. -/
@[simp] theorem service_connect (p : PcmRef) (deviceId : String) (z : Answers) :
    (w.connect p deviceId z).1.pcmCastSession = w.pcmCastSession := by
  unfold connect
  cases z.castStarted <;> cases z.deviceAdded <;> rfl

/-- A start on an object leaves it. -/
@[simp] theorem service_pcmStartCast (p : PcmRef) (sessionId deviceId : String)
    (protocols : SupportedProtocols) (z : Answers) :
    (w.pcmStartCast p sessionId deviceId protocols z).pcmCastSession = w.pcmCastSession := by
  simp only [pcmStartCast, startScreenCast, subStartCast]
  split_ifs
  · rfl
  · exact service_pcmStopCast _ p
  · exact w.service_connect p deviceId z
  · rfl
  · exact w.service_connect p deviceId z
  · rfl

/-- An object that starts over leaves it. -/
@[simp] theorem service_startOver (p : PcmRef) (deviceId : String) (z : Answers) :
    (w.startOver p deviceId z).pcmCastSession = w.pcmCastSession := by
  simp only [startOver, subStartCast, connect_snd]
  split
  · split <;> simp
  · simp

/-- A state of the device leaves it. -/
@[simp] theorem service_onCastStateChange (p : PcmRef) (castState : DeviceState) (z : Answers) :
    (w.onCastStateChange p castState z).pcmCastSession = w.pcmCastSession := by
  cases castState with
  | disconnected =>
      simp only [onCastStateChange, handleDeviceDisconnect]
      split
      · exact w.service_leaveDevice p
      · rw [service_startOver]
        exact w.service_leaveDevice p
  | connected | playing | other => rfl
  | stream =>
      simp only [onCastStateChange]
      split <;> rfl

end service

/-! ## Devices to change to -/

section switchTo

variable (w : World)

/-- A change that keeps the remembered device. -/
theorem switchTo_setPcm_of_eq {p : PcmRef} {x : PcmCastSession}
    (hx : x.switchTo = (w.pcms p).switchTo) (q : PcmRef) :
    ((w.setPcm p x).pcms q).switchTo = (w.pcms q).switchTo := by
  by_cases hq : q = p
  · subst hq
    simpa using hx
  · rw [pcms_setPcm_of_ne _ hq]

/-- A release of the stream player keeps the remembered devices. -/
@[simp] theorem switchTo_releaseStreamPlayer (p q : PcmRef) :
    ((w.releaseStreamPlayer p).pcms q).switchTo = (w.pcms q).switchTo := by
  simp only [releaseStreamPlayer]
  split
  · apply switchTo_setPcm_of_eq
    rfl
  · rfl

/-- So does the stop of a session. -/
@[simp] theorem switchTo_releaseStreamPlayerCommand (q : PcmRef) :
    (w.releaseStreamPlayerCommand.pcms q).switchTo = (w.pcms q).switchTo := by
  unfold releaseStreamPlayerCommand
  split
  · exact w.switchTo_releaseStreamPlayer _ q
  · rfl

/-- So does the end of a session. -/
@[simp] theorem switchTo_destroyCast (sessionId : String) (q : PcmRef) :
    ((w.destroyCast sessionId).pcms q).switchTo = (w.pcms q).switchTo := by
  have hstop : ∀ session, ((w.itemStopCast session).pcms q).switchTo = (w.pcms q).switchTo := by
    intro session
    unfold itemStopCast
    split
    · exact w.switchTo_releaseStreamPlayerCommand q
    · rfl
  unfold destroyCast itemStopCastSession
  split
  · split
    · split
      · exact hstop _
      · exact hstop _
    · rfl
  · rfl

/-- So does the end of a cast. -/
@[simp] theorem switchTo_destroyTask (p q : PcmRef) :
    ((w.destroyTask p).pcms q).switchTo = (w.pcms q).switchTo := by
  apply switchTo_setPcm_of_eq
  rfl

/-- So does an object that leaves its device. -/
@[simp] theorem switchTo_leaveDevice (p q : PcmRef) :
    ((w.leaveDevice p).pcms q).switchTo = (w.pcms q).switchTo := by
  simp [leaveDevice]

/-- So does a stop. -/
@[simp] theorem switchTo_pcmStopCast (p q : PcmRef) :
    ((w.pcmStopCast p).pcms q).switchTo = (w.pcms q).switchTo :=
  w.switchTo_releaseStreamPlayer p q

/-- So does the command for a stream player. -/
@[simp] theorem switchTo_createStreamPlayer (p q : PcmRef) (sessionId : String) :
    ((w.createStreamPlayer p sessionId).pcms q).switchTo = (w.pcms q).switchTo := by
  simp only [createStreamPlayer]
  split <;> (apply switchTo_setPcm_of_eq; rfl)

/-- So does a connection. -/
@[simp] theorem switchTo_connect (p q : PcmRef) (deviceId : String) (z : Answers) :
    ((w.connect p deviceId z).1.pcms q).switchTo = (w.pcms q).switchTo := by
  unfold connect
  cases z.castStarted with
  | false =>
      apply switchTo_setPcm_of_eq
      rfl
  | true =>
      cases z.deviceAdded with
      | true =>
          apply ((w.routerStartCast p).routerAddDevice _ deviceId).switchTo_setPcm_of_eq
          rfl
      | false =>
          refine (switchTo_destroyTask _ p q).trans ?_
          apply (w.routerStartCast p).switchTo_setPcm_of_eq
          rfl

/-- So does an object that starts over. -/
@[simp] theorem switchTo_startOver (p q : PcmRef) (deviceId : String) (z : Answers) :
    ((w.startOver p deviceId z).pcms q).switchTo = (w.pcms q).switchTo := by
  simp only [startOver, subStartCast, connect_snd]
  split
  · split <;> simp
  · simp

/-- What is remembered after one object has forgotten was remembered before. -/
theorem switchTo_setPcm_none {p : PcmRef} {x : PcmCastSession} (hx : x.switchTo = none)
    {q : PcmRef} {deviceId : String} (h : ((w.setPcm p x).pcms q).switchTo = some deviceId) :
    (w.pcms q).switchTo = some deviceId := by
  by_cases hq : q = p
  · subst hq
    simp [hx] at h
  · rwa [pcms_setPcm_of_ne _ hq] at h

/-- An object that is told of a state has no further device to change to. -/
theorem switchTo_of_onCastStateChange {p q : PcmRef} {castState : DeviceState} {z : Answers}
    {deviceId : String}
    (h : ((w.onCastStateChange p castState z).pcms q).switchTo = some deviceId) :
    (w.pcms q).switchTo = some deviceId := by
  cases castState with
  | disconnected =>
      simp only [onCastStateChange, handleDeviceDisconnect] at h
      split at h
      · simpa using h
      · rw [switchTo_startOver] at h
        simpa using switchTo_setPcm_none _ rfl h
  | connected | playing =>
      rw [← h]
      symm
      apply switchTo_setPcm_of_eq
      rfl
  | stream =>
      rw [← h]
      symm
      simp only [onCastStateChange]
      split <;> (apply switchTo_setPcm_of_eq; rfl)
  | other => exact h

end switchTo

end World

end AvSession.Pcm
