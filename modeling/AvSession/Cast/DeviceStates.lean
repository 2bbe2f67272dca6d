import AvSession.Lib.Run
import Mathlib.Data.Int.Notation

/-!
# Cast device states

A cast session tells its listener the states of the device. A state that nobody listens to is
stashed, and the stash is told at the next registration. The stash is also what an event is compared
with, to drop it if it is repeated.

* `HwCastProviderSession` — `onDeviceState`, `setStreamState` and the registrations.
* `Heard` — a session with what has occurred and what one listener was told.
* `Current` — the listener was last told the state that occurred last.
* `InOrder` — what an operation may tell the listener.
* `current_iff` — the runs in which all of this holds.
-/

namespace AvSession.Cast

open AvSession.Lib

/-! ## The session -/

section Session

/-- The identity of a listener. -/
abbrev StateListener := ℕ

/-- Source: hw_cast_provider_session.h, `HwCastProviderSession` -/
structure HwCastProviderSession where
  castSessionStateListenerList : List StateListener
  stashDeviceState : ℤ

/-- The calls of `OnCastStateChange`, in order. -/
abbrev StateCalls := List (StateListener × ℤ)

namespace HwCastProviderSession

/-- Source: hw_cast_provider_session.h -/
def deviceStateConnection : ℤ := 6

def init : HwCastProviderSession := ⟨[], -1⟩

variable (p : HwCastProviderSession)

/-- Everybody on the list is called. -/
def tellAll (state : ℤ) : StateCalls := p.castSessionStateListenerList.map fun l => (l, state)

/-- Source: hw_cast_provider_session.cpp, `HwCastProviderSession::OnDeviceState` -/
def onDeviceState (deviceState : ℤ) : HwCastProviderSession × StateCalls :=
  if p.stashDeviceState = deviceState then (p, [])
  else if p.castSessionStateListenerList.length = 0 then
    ({ p with stashDeviceState := deviceState }, [])
  else ({ p with stashDeviceState := -1 }, p.tellAll deviceState)

/-- Source: hw_cast_provider_session.cpp, `HwCastProviderSession::SetStreamState` -/
def setStreamState : HwCastProviderSession × StateCalls :=
  ({ p with stashDeviceState := deviceStateConnection }, p.tellAll deviceStateConnection)

/-- Source: hw_cast_provider_session.cpp,
`HwCastProviderSession::RegisterCastSessionStateListener` -/
def registerCastSessionStateListener (listener : StateListener) :
    HwCastProviderSession × StateCalls :=
  if listener ∈ p.castSessionStateListenerList then (p, [])
  else
    ({ p with castSessionStateListenerList := p.castSessionStateListenerList ++ [listener] },
      if p.stashDeviceState > 0 then [(listener, p.stashDeviceState)] else [])

/-- Source: hw_cast_provider_session.cpp,
`HwCastProviderSession::UnRegisterCastSessionStateListener` -/
def unRegisterCastSessionStateListener (listener : StateListener) : HwCastProviderSession :=
  { p with castSessionStateListenerList := p.castSessionStateListenerList.erase listener }

end HwCastProviderSession

end Session

/-! ## Runs with one listener -/

section Runs

/-- The session with its history: the states that have occurred, the last of them at the time the
listener was last unregistered, and the states that it was told. -/
structure Heard where
  session : HwCastProviderSession
  occurred : List ℤ
  left : Option ℤ
  told : List ℤ

def Heard.init : Heard := ⟨.init, [], none, []⟩

inductive DeviceStateOp
  | onDeviceState (deviceState : ℤ)
  | setStreamState
  | register
  | unRegister

variable (listener : StateListener) (s : Heard)

/-- What the listener is told by some calls. -/
def toldBy (calls : StateCalls) : List ℤ := (calls.filter fun c => c.1 == listener).map Prod.snd

/-- The listener is registered. -/
def Registered : Prop := listener ∈ s.session.castSessionStateListenerList

instance : Decidable (Registered listener s) :=
  inferInstanceAs (Decidable (listener ∈ s.session.castSessionStateListenerList))

def DeviceStateOp.step : DeviceStateOp → Heard
  | onDeviceState deviceState =>
    let (session, calls) := s.session.onDeviceState deviceState
    { s with
      session, occurred := s.occurred ++ [deviceState], told := s.told ++ toldBy listener calls }
  | setStreamState =>
    let (session, calls) := s.session.setStreamState
    { s with
      session
      occurred := s.occurred ++ [HwCastProviderSession.deviceStateConnection]
      told := s.told ++ toldBy listener calls }
  | register =>
    let (session, calls) := s.session.registerCastSessionStateListener listener
    { s with session, told := s.told ++ toldBy listener calls }
  | unRegister =>
    { s with
      session := s.session.unRegisterCastSessionStateListener listener
      left := if Registered listener s then s.occurred.getLast? else s.left }

/-- While it is registered, the listener was last told the state that occurred last. -/
def Current : Prop :=
  Registered listener s → s.occurred ≠ [] → s.told.getLast? = s.occurred.getLast?

/-- What is told of a state that occurs: the state, if the listener is registered, but a repeated one
may be dropped. -/
def TellsOf (state : ℤ) (told : List ℤ) : Prop :=
  if Registered listener s then
    told = s.told ++ [state] ∨ s.occurred.getLast? = some state ∧ told = s.told
  else told = s.told

/-- What an operation may tell: a state that occurs, and at a registration the one that occurred
last. -/
def InOrder : DeviceStateOp → Prop
  | .onDeviceState deviceState =>
    TellsOf listener s deviceState
      ((DeviceStateOp.onDeviceState deviceState).step listener s).told
  | .setStreamState =>
    TellsOf listener s HwCastProviderSession.deviceStateConnection
      (DeviceStateOp.setStreamState.step listener s).told
  | .register =>
    let told := (DeviceStateOp.register.step listener s).told
    told = s.told ∨ ∃ last, s.occurred.getLast? = some last ∧ told = s.told ++ [last]
  | .unRegister => (DeviceStateOp.unRegister.step listener s).told = s.told

/-- What the listener has missed is a positive state when it registers, and `-1` does not occur as a
state of its own. -/
def Replayable : DeviceStateOp → Prop
  | .register =>
    ¬ Registered listener s → ∀ last ∈ s.occurred.getLast?, 0 < last ∨ s.left = some last
  | .onDeviceState deviceState =>
    Registered listener s → deviceState = -1 → s.session.stashDeviceState = -1 →
      s.occurred.getLast? = some (-1)
  | _ => True

end Runs

/-! ## What the steps do -/

section Steps

variable {listener : StateListener} {s : Heard} {deviceState : ℤ}

/-- Nothing told, nothing heard. -/
@[simp] theorem toldBy_nil : toldBy listener [] = [] := rfl

/-- One notice to the listener is one state heard. -/
@[simp] theorem toldBy_singleton (state : ℤ) : toldBy listener [(listener, state)] = [state] := by
  simp [toldBy]

/-- The list holds the one listener at most. -/
def OneListener (listener : StateListener) (s : Heard) : Prop :=
  s.session.castSessionStateListenerList = [] ∨
    s.session.castSessionStateListenerList = [listener]

/-- A registered listener is the only one in the list. -/
theorem OneListener.registered (h : OneListener listener s) (hreg : Registered listener s) :
    s.session.castSessionStateListenerList = [listener] := by
  rcases h with hnil | hone
  · rw [Registered, hnil] at hreg
    exact absurd hreg List.not_mem_nil
  · exact hone

/-- Without a registration the list is empty. -/
theorem OneListener.unregistered (h : OneListener listener s) (hreg : ¬ Registered listener s) :
    s.session.castSessionStateListenerList = [] := by
  rcases h with hnil | hone
  · exact hnil
  · rw [Registered, hone] at hreg
    exact absurd (List.mem_singleton.mpr rfl) hreg

/-- An event that repeats the stash is dropped. -/
theorem onDeviceState_dropped (hstash : s.session.stashDeviceState = deviceState) :
    (DeviceStateOp.onDeviceState deviceState).step listener s =
      { s with occurred := s.occurred ++ [deviceState] } := by
  simp [DeviceStateOp.step, HwCastProviderSession.onDeviceState, hstash]

/-- An event that nobody listens to is stashed. -/
theorem onDeviceState_stashed (h : OneListener listener s) (hreg : ¬ Registered listener s)
    (hstash : s.session.stashDeviceState ≠ deviceState) :
    (DeviceStateOp.onDeviceState deviceState).step listener s =
      { s with
        session := { s.session with stashDeviceState := deviceState }
        occurred := s.occurred ++ [deviceState] } := by
  simp [DeviceStateOp.step, HwCastProviderSession.onDeviceState, hstash, h.unregistered hreg]

/-- An event is told to the listener. -/
theorem onDeviceState_told (h : OneListener listener s) (hreg : Registered listener s)
    (hstash : s.session.stashDeviceState ≠ deviceState) :
    (DeviceStateOp.onDeviceState deviceState).step listener s =
      { s with
        session := { s.session with stashDeviceState := -1 }
        occurred := s.occurred ++ [deviceState]
        told := s.told ++ [deviceState] } := by
  simp [DeviceStateOp.step, HwCastProviderSession.onDeviceState, HwCastProviderSession.tellAll,
    hstash, h.registered hreg]

/-- The connected state of a stream is told to whoever is registered. -/
theorem told_setStreamState (h : OneListener listener s) :
    (DeviceStateOp.setStreamState.step listener s).told =
      s.told ++ if Registered listener s then [HwCastProviderSession.deviceStateConnection]
        else [] := by
  by_cases hreg : Registered listener s
  · simp [DeviceStateOp.step, HwCastProviderSession.setStreamState, HwCastProviderSession.tellAll,
      h.registered hreg, hreg]
  · simp [DeviceStateOp.step, HwCastProviderSession.setStreamState, HwCastProviderSession.tellAll,
      h.unregistered hreg, hreg]

/-- A registration of the listener that is there does nothing. -/
theorem register_registered (hreg : Registered listener s) :
    DeviceStateOp.register.step listener s = s := by
  rw [Registered] at hreg
  simp [DeviceStateOp.step, HwCastProviderSession.registerCastSessionStateListener, hreg]

/-- A first registration enters the listener and replays the stashed state. -/
theorem register_unregistered (h : OneListener listener s) (hreg : ¬ Registered listener s) :
    DeviceStateOp.register.step listener s =
      { s with
        session := { s.session with castSessionStateListenerList := [listener] }
        told := s.told ++
          if 0 < s.session.stashDeviceState then [s.session.stashDeviceState] else [] } := by
  have hnil := h.unregistered hreg
  by_cases hpos : 0 < s.session.stashDeviceState
  · simp [DeviceStateOp.step, HwCastProviderSession.registerCastSessionStateListener, hnil, hpos]
  · simp [DeviceStateOp.step, HwCastProviderSession.registerCastSessionStateListener, hnil, hpos]

/-- No other listener ever enters. -/
theorem OneListener.step (h : OneListener listener s) (op : DeviceStateOp) :
    OneListener listener (op.step listener s) := by
  cases op with
  | onDeviceState deviceState =>
    rw [OneListener, DeviceStateOp.step, HwCastProviderSession.onDeviceState]
    split_ifs <;> exact h
  | setStreamState => exact h
  | register =>
    by_cases hreg : Registered listener s
    · rwa [register_registered hreg]
    · rw [register_unregistered h hreg]
      exact Or.inr rfl
  | unRegister =>
    rcases h with hnil | hone
    · left
      simp [DeviceStateOp.step, HwCastProviderSession.unRegisterCastSessionStateListener, hnil]
    · left
      simp [DeviceStateOp.step, HwCastProviderSession.unRegisterCastSessionStateListener, hone]

end Steps

/-! ## The stash -/

section Stash

variable {listener : StateListener} {s : Heard}

/-- The stash is the state that occurred last, unless that one was told. -/
structure StashInv (listener : StateListener) (s : Heard) : Prop where
  oneListener : OneListener listener s
  stash : s.occurred.getLast? = some s.session.stashDeviceState ∨
    s.session.stashDeviceState = -1 ∧ s.told.getLast? = s.occurred.getLast?

/-- At the start nothing has occurred and nothing is stashed. -/
theorem stashInv_init : StashInv listener .init := ⟨Or.inl rfl, Or.inr ⟨rfl, rfl⟩⟩

/-- The stash, if it is a state, is the one that occurred last. -/
theorem StashInv.last_of_pos (h : StashInv listener s) (hpos : 0 < s.session.stashDeviceState) :
    s.occurred.getLast? = some s.session.stashDeviceState := by
  rcases h.stash with hlast | ⟨hnone, -⟩
  · exact hlast
  · omega

/-- The stash stays the state that occurred last, unless that one was told. -/
theorem StashInv.step (h : StashInv listener s) (op : DeviceStateOp) :
    StashInv listener (op.step listener s) := by
  refine ⟨h.oneListener.step op, ?_⟩
  cases op with
  | onDeviceState deviceState =>
    by_cases hstash : s.session.stashDeviceState = deviceState
    · rw [onDeviceState_dropped hstash]
      left
      simp [hstash]
    · by_cases hreg : Registered listener s
      · rw [onDeviceState_told h.oneListener hreg hstash]
        right
        simp
      · rw [onDeviceState_stashed h.oneListener hreg hstash]
        left
        simp
  | setStreamState =>
    left
    simp [DeviceStateOp.step, HwCastProviderSession.setStreamState]
  | register =>
    by_cases hreg : Registered listener s
    · rw [register_registered hreg]
      exact h.stash
    · rw [register_unregistered h.oneListener hreg]
      rcases h.stash with hlast | ⟨hnone, htold⟩
      · exact Or.inl hlast
      · right
        simp [hnone, htold]
  | unRegister => exact h.stash

/-- What the listener was told is up to date when it leaves. -/
structure LeftInv (listener : StateListener) (s : Heard) : Prop extends StashInv listener s where
  left : ¬ Registered listener s → s.told.getLast? = s.left

/-- At the start the listener has been told nothing. -/
theorem leftInv_init : LeftInv listener .init := ⟨stashInv_init, fun _ => rfl⟩

/-- Before anything occurs, nothing is told. -/
theorem StashInv.current (h : StashInv listener s) (hcurrent : Current listener s)
    (hreg : Registered listener s) : s.told.getLast? = s.occurred.getLast? := by
  by_cases hnil : s.occurred = []
  · rcases h.stash with hlast | ⟨-, htold⟩
    · rw [hnil] at hlast
      cases hlast
    · exact htold
  · exact hcurrent hreg hnil

/-- A listener that leaves is as current as it was. -/
theorem LeftInv.step (h : LeftInv listener s) (hcurrent : Current listener s)
    (op : DeviceStateOp) : LeftInv listener (op.step listener s) := by
  refine ⟨h.toStashInv.step op, ?_⟩
  cases op with
  | onDeviceState deviceState =>
    by_cases hstash : s.session.stashDeviceState = deviceState
    · rw [onDeviceState_dropped hstash]
      exact h.left
    · by_cases hreg : Registered listener s
      · rw [onDeviceState_told h.oneListener hreg hstash]
        exact fun hnot => absurd hreg hnot
      · rw [onDeviceState_stashed h.oneListener hreg hstash]
        exact h.left
  | setStreamState =>
    intro hreg
    have hreg' : ¬ Registered listener s := hreg
    rw [told_setStreamState h.oneListener, if_neg hreg', List.append_nil]
    exact h.left hreg'
  | register =>
    by_cases hreg : Registered listener s
    · rw [register_registered hreg]
      exact h.left
    · rw [register_unregistered h.oneListener hreg]
      exact fun hnot => absurd (List.mem_singleton.mpr rfl) hnot
  | unRegister =>
    intro _
    show s.told.getLast? = if Registered listener s then s.occurred.getLast? else s.left
    by_cases hreg : Registered listener s
    · rw [if_pos hreg]
      exact h.current hcurrent hreg
    · rw [if_neg hreg]
      exact h.left hreg

end Stash

/-! ## What the listener hears -/

section Current

variable {listener : StateListener} {s : Heard}

/-- An event that repeats the stash of a registered listener may be dropped if it repeats the last
occurrence. -/
theorem current_dropped_iff (h : LeftInv listener s) (hcurrent : Current listener s)
    (hreg : Registered listener s) :
    Current listener
        ((DeviceStateOp.onDeviceState s.session.stashDeviceState).step listener s) ∧
      InOrder listener s (.onDeviceState s.session.stashDeviceState) ↔
    s.occurred.getLast? = some s.session.stashDeviceState := by
  have htold := h.current hcurrent hreg
  rw [InOrder, TellsOf, if_pos hreg, onDeviceState_dropped rfl, Current]
  constructor
  · rintro ⟨hlast, -⟩
    have := hlast hreg (by simp)
    rw [← htold, this]
    simp
  · intro hlast
    refine ⟨fun _ _ => ?_, Or.inr ⟨hlast, rfl⟩⟩
    show s.told.getLast? = (s.occurred ++ [s.session.stashDeviceState]).getLast?
    rw [htold, hlast, List.getLast?_concat]

/-- A device's state reaches the listener when it is there or will be replayed. -/
theorem current_onDeviceState_iff (h : LeftInv listener s) (hcurrent : Current listener s)
    (deviceState : ℤ) :
    Current listener ((DeviceStateOp.onDeviceState deviceState).step listener s) ∧
      InOrder listener s (.onDeviceState deviceState) ↔
    Replayable listener s (.onDeviceState deviceState) := by
  by_cases hreg : Registered listener s
  · by_cases hstash : s.session.stashDeviceState = deviceState
    · subst hstash
      rw [current_dropped_iff h hcurrent hreg, Replayable]
      constructor
      · intro hlast _ hnone _
        rw [hlast, hnone]
      · intro hrepeat
        rcases h.stash with hlast | ⟨hnone, -⟩
        · exact hlast
        · rw [hrepeat hreg hnone hnone, hnone]
    · refine iff_of_true ⟨?_, ?_⟩ fun _ hstate hnone => absurd (hnone.trans hstate.symm) hstash
      · rw [onDeviceState_told h.oneListener hreg hstash]
        intro _ _
        simp
      · rw [InOrder, TellsOf, if_pos hreg, onDeviceState_told h.oneListener hreg hstash]
        exact Or.inl rfl
  · refine iff_of_true ⟨?_, ?_⟩ fun hreg' => absurd hreg' hreg
    · by_cases hstash : s.session.stashDeviceState = deviceState
      · rw [onDeviceState_dropped hstash]
        exact fun hreg' => absurd hreg' hreg
      · rw [onDeviceState_stashed h.oneListener hreg hstash]
        exact fun hreg' => absurd hreg' hreg
    · rw [InOrder, TellsOf, if_neg hreg]
      by_cases hstash : s.session.stashDeviceState = deviceState
      · rw [onDeviceState_dropped hstash]
      · rw [onDeviceState_stashed h.oneListener hreg hstash]

/-- A stream's connected state never leaves the listener behind. -/
theorem current_setStreamState (h : LeftInv listener s) :
    Current listener (DeviceStateOp.setStreamState.step listener s) ∧
      InOrder listener s .setStreamState := by
  constructor
  · intro hreg _
    have hreg' : Registered listener s := hreg
    rw [told_setStreamState h.oneListener, if_pos hreg']
    simp [DeviceStateOp.step]
  · rw [InOrder, TellsOf, told_setStreamState h.oneListener]
    by_cases hreg : Registered listener s
    · rw [if_pos hreg, if_pos hreg]
      exact Or.inl rfl
    · rw [if_neg hreg, if_neg hreg, List.append_nil]

/-- A registration tells a positive stash, and nothing else. -/
theorem current_register_iff (h : LeftInv listener s) (hcurrent : Current listener s) :
    Current listener (DeviceStateOp.register.step listener s) ∧ InOrder listener s .register ↔
      Replayable listener s .register := by
  rw [InOrder, Replayable]
  by_cases hreg : Registered listener s
  · rw [register_registered hreg]
    exact iff_of_true ⟨hcurrent, Or.inl rfl⟩ fun hnot => absurd hreg hnot
  · rw [register_unregistered h.oneListener hreg]
    by_cases hpos : 0 < s.session.stashDeviceState
    · have hlast := h.last_of_pos hpos
      rw [if_pos hpos]
      refine iff_of_true ⟨fun _ _ => ?_, Or.inr ⟨_, hlast, rfl⟩⟩ fun _ last hmem => ?_
      · simp [hlast]
      · rw [hlast, Option.mem_some_iff] at hmem
        left
        omega
    · rw [if_neg hpos, List.append_nil]
      have hleft := h.left hreg
      constructor
      · rintro ⟨hcurrent', -⟩ _ last hmem
        have hne : s.occurred ≠ [] := by
          rintro hnil
          simp [hnil] at hmem
        right
        have htold : s.told.getLast? = s.occurred.getLast? :=
          hcurrent' (List.mem_singleton.mpr rfl) hne
        rw [← hleft, htold]
        exact hmem
      · intro hmissed
        refine ⟨fun _ hne => ?_, Or.inl rfl⟩
        show s.told.getLast? = s.occurred.getLast?
        rcases h.stash with hlast | ⟨-, htold⟩
        · rcases hmissed hreg _ hlast with hpos' | heq
          · exact absurd hpos' hpos
          · rw [hleft, heq, hlast]
        · exact htold

/-- Unregistering tells nothing, so nothing is missed. -/
theorem current_unRegister (h : LeftInv listener s) :
    Current listener (DeviceStateOp.unRegister.step listener s) ∧
      InOrder listener s .unRegister := by
  refine ⟨fun hreg => ?_, rfl⟩
  rw [Registered] at hreg
  rcases h.oneListener with hnil | hone
  · simp [DeviceStateOp.step, HwCastProviderSession.unRegisterCastSessionStateListener, hnil]
      at hreg
  · simp [DeviceStateOp.step, HwCastProviderSession.unRegisterCastSessionStateListener, hone]
      at hreg

/-- A step keeps the listener current exactly when what comes can be replayed. -/
theorem current_step_iff (h : LeftInv listener s) (hcurrent : Current listener s)
    (op : DeviceStateOp) :
    Current listener (op.step listener s) ∧ InOrder listener s op ↔ Replayable listener s op := by
  cases op with
  | onDeviceState deviceState => exact current_onDeviceState_iff h hcurrent deviceState
  | setStreamState => exact iff_of_true (current_setStreamState h) trivial
  | register => exact current_register_iff h hcurrent
  | unRegister => exact iff_of_true (current_unRegister h) trivial

/-- **The listener hears of the device.** It was last told what occurred last whenever it is
registered, and is told the states in order, exactly in the runs that have nothing but positive
states to replay. -/
theorem current_iff (listener : StateListener) (ops : List DeviceStateOp) :
    Always (DeviceStateOp.step listener) (Current listener) .init ops ∧
        Meets (DeviceStateOp.step listener) (InOrder listener) .init ops ↔
      Meets (DeviceStateOp.step listener) (Replayable listener) .init ops :=
  always_and_meets_iff_of_side (J := LeftInv listener)
    (fun _ op h hcurrent _ => h.step hcurrent op)
    (fun _ op h hcurrent => current_step_iff h hcurrent op) ops leftInv_init
    (fun hreg => absurd hreg List.not_mem_nil)

/-- The state 0 occurs before the listener registers. -/
theorem not_current_of_zero :
    ¬ (Always (DeviceStateOp.step 0) (Current 0) .init [.onDeviceState 0, .register] ∧
      Meets (DeviceStateOp.step 0) (InOrder 0) .init [.onDeviceState 0, .register]) := by
  rintro ⟨⟨-, -, hcurrent⟩, -⟩
  have htold := hcurrent (by decide) (by decide)
  exact absurd htold (by decide)

end Current

end AvSession.Cast
