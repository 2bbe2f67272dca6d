import AvSession.Common.Codes
import Mathlib.Data.List.Range
import AvSession.Lib.Run
import Mathlib.Algebra.Group.Nat.Defs
import Mathlib.Algebra.Group.Int.Defs

/-!
# Clicks of the media key

The headset hook and the play/pause key are counted: the first press posts a task that fires when
the clicks are over, and the task turns their number into a command.

* `handleKeyEvent`, `handleEventHandlerCallBack` — a press, and the task.
* `ClickInv` — the flag mirrors the pending task, the counter the presses that wait for it.
* `Clean` — the steps without a failed post, a missing key event or an overflow of the counter.
* `clicks_of_clean` — along a run of such steps every press is counted in one firing.
* `run_of_stuck` — what a failed post or a missing key event leaves: no press is dispatched again.
-/

namespace AvSession.Service.KeyClicks

open AvSession.Common.Codes AvSession.Lib

/-! ## Data -/

section Data

def ONE_CLICK : ℤ := 1
def DOUBLE_CLICK : ℤ := 2
def THREE_CLICK : ℤ := 3

def PLAYBACK_STATE_PLAY : ℤ := 2

/-- The keys that are counted. -/
inductive ClickKey
  | headsethook
  | mediaPlayPause

/-- What a firing reads of a session. -/
structure PlayingSession where
  playingTime : ℤ
  playbackState : ℤ
  sessionTag : String
deriving DecidableEq

/-- What a firing finds: the top session, the anco session when it is active, and whether
`KeyEvent::Create` gives an event. -/
structure Moment where
  topSession : Option PlayingSession
  ancoSession : Option PlayingSession
  keyEvent : Bool
deriving DecidableEq

/-- A dispatched command: executed by the top or the anco session, or handed to
`HandleSystemKeyColdStart`, which starts an application or does nothing. -/
inductive Dispatch
  | executed (procSession : PlayingSession) (cmd : ℤ)
  | coldStart (cmd : ℤ)
deriving DecidableEq

/-- A firing that reset the counter: the presses it counted, in the order of their acceptance. -/
structure Firing where
  presses : List ℕ
  moment : Moment
  dispatch : Option Dispatch
deriving DecidableEq

/-- The two atomics and the number of pending tasks `SendSystemAVKeyEvent`; the other fields follow
the accepted presses. Source: avsession_service.h, `AVSessionService` -/
structure ClickState where
  pressCount : ℤ
  isFirstPress : Bool
  pending : ℕ
  /-- The number of presses answered with success. -/
  accepted : ℕ
  /-- The accepted presses that no firing has counted. -/
  held : List ℕ
  firings : List Firing
deriving DecidableEq

def ClickState.init : ClickState where
  pressCount := 0
  isFirstPress := true
  pending := 0
  accepted := 0
  held := []
  firings := []

end Data

/-! ## Presses and firings -/

section Functions

/-- `fetch_add(1)` on 32 bits. -/
def fetchAdd (count : ℤ) : ℤ := Int.bmod (count + 1) (2 ^ 32)

/-- Pause for what plays, play for what does not. -/
def toggle (session : PlayingSession) : ℤ :=
  if session.playbackState = PLAYBACK_STATE_PLAY then SESSION_CMD_PAUSE else SESSION_CMD_PLAY

/-- The session that played last, of a session and the active anco session.
Source: avsession_service.cpp, `AVSessionService::CheckSessionHandleKeyEvent` -/
def procSession (session : PlayingSession) : Option PlayingSession → PlayingSession
  | none => session
  | some anco => if anco.playingTime < session.playingTime then session else anco

/-- Source: avsession_service.cpp, `AVSessionService::GetSessionProcCommand` -/
def getSessionProcCommand : Option PlayingSession → Option PlayingSession → ℤ
  | some session, anco => toggle (procSession session anco)
  | none, some anco => toggle anco
  | none, none => SESSION_CMD_PLAY

/-- The command of a number of clicks, none for a number that is no click.
Source: avsession_service.cpp, `AVSessionService::HandleEventHandlerCallBack` -/
def clickCommand (pressCount : ℤ) (m : Moment) : Option ℤ :=
  if THREE_CLICK ≤ pressCount then some SESSION_CMD_PLAY_PREVIOUS
  else if pressCount = DOUBLE_CLICK then some SESSION_CMD_PLAY_NEXT
  else if pressCount = ONE_CLICK then some (getSessionProcCommand m.topSession m.ancoSession)
  else none

namespace ClickState

variable (s : ClickState)

/-- An accepted press. -/
def accept : ClickState := { s with accepted := s.accepted + 1, held := s.held ++ [s.accepted] }

/-- A counted key, `posted` if the event handler takes the task.
Source: avsession_service.cpp, `AVSessionService::HandleKeyEvent` -/
def handleKeyEvent (_key : ClickKey) (posted : Bool) : ClickState × ℤ :=
  let s := { s with pressCount := fetchAdd s.pressCount }
  if s.isFirstPress then
    let s := { s with isFirstPress := false }
    if posted then ({ s.accept with pending := s.pending + 1 }, AVSESSION_SUCCESS)
    else (s, AVSESSION_ERROR)
  else (s.accept, AVSESSION_SUCCESS)

/-- The counter and the flag reset, behind the presses they were about. -/
def reset (m : Moment) (dispatch : Option Dispatch) : ClickState :=
  { s with
    pressCount := 0
    isFirstPress := true
    held := []
    firings := s.firings ++ [⟨s.held, m, dispatch⟩] }

/-- Without a key event the function returns before the reset.
Source: avsession_service.cpp, `AVSessionService::HandleEventHandlerCallBack` -/
def handleEventHandlerCallBack (m : Moment) : ClickState :=
  match clickCommand s.pressCount m with
  | none => s.reset m none
  | some cmd =>
    match m.topSession with
    | none => s.reset m (some (.coldStart cmd))
    | some top =>
      if top.sessionTag = "external_audio" then s.reset m none
      else if m.keyEvent then
        s.reset m (some (.executed (procSession top m.ancoSession) cmd))
      else s

end ClickState

/-- A press of a key, or the firing of a pending task. -/
inductive Action
  | press (key : ClickKey) (posted : Bool)
  | fire (m : Moment)

def step (s : ClickState) : Action → ClickState
  | .press key posted => (s.handleKeyEvent key posted).1
  | .fire m =>
    if s.pending = 0 then s
    else { s with pending := s.pending - 1 }.handleEventHandlerCallBack m

end Functions

/-! ## What a run keeps -/

section Invariant

variable {s : ClickState} {m : Moment}

/-- The top session plays external audio, which takes no command from the key. -/
def ExternalAudio (m : Moment) : Prop :=
  ∃ top, m.topSession = some top ∧ top.sessionTag = "external_audio"

instance (m : Moment) : Decidable (ExternalAudio m) :=
  match h : m.topSession with
  | none => isFalse (by rintro ⟨top, htop, -⟩; simp [h] at htop)
  | some top => decidable_of_iff (top.sessionTag = "external_audio") (by simp [ExternalAudio, h])

/-- What `n` clicks are turned into: one command, or nothing for external audio. -/
def dispatchOf (n : ℕ) (m : Moment) : Option Dispatch :=
  (clickCommand n m).bind fun cmd =>
    match m.topSession with
    | none => some (.coldStart cmd)
    | some top =>
      if top.sessionTag = "external_audio" then none
      else some (.executed (procSession top m.ancoSession) cmd)

/-- A firing has counted presses, and turned their number into one command unless the top session
played external audio. -/
structure Firing.Sound (f : Firing) : Prop where
  presses_ne : f.presses ≠ []
  dispatch_eq : f.dispatch = dispatchOf f.presses.length f.moment
  dispatch_none_iff : f.dispatch = none ↔ ExternalAudio f.moment

/-- The flag mirrors the task, the counter the presses that wait for it, and every accepted press
waits or is counted in one firing. -/
structure ClickInv (s : ClickState) : Prop where
  pending_le : s.pending ≤ 1
  first_iff : s.isFirstPress = false ↔ 0 < s.pending
  held_iff : s.held ≠ [] ↔ 0 < s.pending
  count_eq : s.pressCount = s.held.length
  accounted : s.firings.flatMap (·.presses) ++ s.held = List.range s.accepted
  sound : ∀ f ∈ s.firings, f.Sound

/-- At the start no click is pending. -/
theorem clickInv_init : ClickInv .init := by
  constructor <;> simp [ClickState.init]

/-- The steps that no failure touches: the task of a first press is posted, the counter does not
overflow, and there is a key event for a session that takes it. -/
def Clean (s : ClickState) : Action → Prop
  | .press _ posted => (s.isFirstPress = true → posted = true) ∧ s.pressCount < 2 ^ 31 - 1
  | .fire m => s.pending = 0 ∨ m.topSession = none ∨ ExternalAudio m ∨ m.keyEvent = true

instance (s : ClickState) : (a : Action) → Decidable (Clean s a)
  | .press _ _ => by unfold Clean; infer_instance
  | .fire _ => by unfold Clean; infer_instance

/-- Every number of clicks has its command. -/
theorem clickCommand_isSome {n : ℕ} (h : n ≠ 0) (m : Moment) :
    ∃ cmd, clickCommand n m = some cmd := by
  rw [clickCommand]
  split
  · exact ⟨_, rfl⟩
  · split
    · exact ⟨_, rfl⟩
    · rename_i h3 h2
      simp only [THREE_CLICK, DOUBLE_CLICK] at h3 h2
      rw [if_pos (show (n : ℤ) = ONE_CLICK by rw [ONE_CLICK]; omega)]
      exact ⟨_, rfl⟩

/-- Clicks are dropped for an external audio session only. -/
theorem dispatchOf_eq_none_iff {n : ℕ} (h : n ≠ 0) (m : Moment) :
    dispatchOf n m = none ↔ ExternalAudio m := by
  obtain ⟨cmd, hcmd⟩ := clickCommand_isSome h m
  rw [dispatchOf, hcmd, Option.bind_some]
  rcases hm : m.topSession with _ | top
  · simp [ExternalAudio, hm]
  · by_cases htag : top.sessionTag = "external_audio"
    · simp [ExternalAudio, hm, htag]
    · simp [ExternalAudio, hm, htag]

/-- A clean firing with presses counts them, and resets. -/
theorem callBack_of_clean {n : ℕ} (hcount : s.pressCount = n) (hn : n ≠ 0)
    (hclean : m.topSession = none ∨ ExternalAudio m ∨ m.keyEvent = true) :
    s.handleEventHandlerCallBack m = s.reset m (dispatchOf n m) := by
  obtain ⟨cmd, hcmd⟩ := clickCommand_isSome hn m
  rw [ClickState.handleEventHandlerCallBack, dispatchOf, hcount, hcmd, Option.bind_some]
  rcases hm : m.topSession with _ | top
  · rfl
  · by_cases htag : top.sessionTag = "external_audio"
    · simp [htag]
    · have hevent : m.keyEvent = true := by
        rcases hclean with h | ⟨top', htop', htag'⟩ | h
        · simp [hm] at h
        · rw [hm] at htop'
          exact absurd (Option.some.inj htop' ▸ htag') htag
        · exact h
      simp [htag, hevent]

/-- A clean press is accepted: it waits, for one task. -/
theorem press_of_clean (key : ClickKey) {posted : Bool} (hs : ClickInv s)
    (hclean : Clean s (.press key posted)) :
    s.handleKeyEvent key posted =
      ({ s with
        pressCount := s.pressCount + 1
        isFirstPress := false
        pending := 1
        accepted := s.accepted + 1
        held := s.held ++ [s.accepted] }, AVSESSION_SUCCESS) := by
  obtain ⟨hposted, hroom⟩ := hclean
  have hcount : fetchAdd s.pressCount = s.pressCount + 1 := by
    have h := hs.count_eq
    rw [fetchAdd, Int.bmod_def]
    omega
  have hpending := hs.pending_le
  by_cases hfirst : s.isFirstPress = true
  · have hzero : s.pending = 0 := by
      by_contra h
      have hfalse := hs.first_iff.mpr (by omega)
      simp [hfirst] at hfalse
    simp [ClickState.handleKeyEvent, ClickState.accept, hfirst, hposted hfirst, hcount, hzero]
  · have hfalse : s.isFirstPress = false := by simpa using hfirst
    have hone : s.pending = 1 := by
      have h := hs.first_iff.mp hfalse
      omega
    simp [ClickState.handleKeyEvent, ClickState.accept, hfalse, hcount, hone]

/-- A clean firing of a pending task counts the presses that wait for it. -/
theorem fire_of_clean (hs : ClickInv s) (hclean : Clean s (.fire m)) (hpending : 0 < s.pending) :
    step s (.fire m) = { s.reset m (dispatchOf s.held.length m) with pending := 0 } := by
  have hle := hs.pending_le
  have hheld : s.held.length ≠ 0 := by
    have h := hs.held_iff.mpr hpending
    simpa using h
  have hmoment : m.topSession = none ∨ ExternalAudio m ∨ m.keyEvent = true := by
    rcases hclean with h | h
    · omega
    · exact h
  have hzero : s.pending - 1 = 0 := by omega
  rw [step, if_neg (by omega), hzero]
  exact callBack_of_clean (s := { s with pending := 0 }) hs.count_eq hheld hmoment

/-- **One step.** A clean step keeps the invariant. -/
theorem clickInv_step (a : Action) (hs : ClickInv s) (hclean : Clean s a) :
    ClickInv (step s a) := by
  rcases a with ⟨key, posted⟩ | m
  · have hpress := press_of_clean key hs hclean
    rw [step, hpress]
    refine ⟨le_refl 1, by simp, by simp, ?_, ?_, hs.sound⟩
    · rw [hs.count_eq, List.length_append, List.length_singleton]
      push_cast
      rfl
    · rw [← List.append_assoc, hs.accounted, List.range_succ]
  · by_cases hpending : 0 < s.pending
    · rw [fire_of_clean hs hclean hpending]
      have hheld := hs.held_iff.mpr hpending
      refine ⟨Nat.zero_le 1, by simp [ClickState.reset], by simp [ClickState.reset], rfl, ?_, ?_⟩
      · have haccounted := hs.accounted
        simpa [ClickState.reset] using haccounted
      · intro f hf
        rcases List.mem_append.mp hf with hf | hf
        · exact hs.sound f hf
        · rw [List.mem_singleton.mp hf]
          exact ⟨hheld, rfl, dispatchOf_eq_none_iff (by simpa using hheld) m⟩
    · have hzero : s.pending = 0 := by omega
      rw [step, if_pos hzero]
      exact hs

/-- What a firing of a pending task leaves: the counter at zero, and the next press, if it stays
the only one, dispatched as a single click. -/
def FiresClean (s : ClickState) : Action → Prop
  | .press .. => True
  | .fire m => 0 < s.pending →
    (step s (.fire m)).pressCount = 0 ∧
      ∀ key m', Clean (step (step s (.fire m)) (.press key true)) (.fire m') →
        (step (step (step s (.fire m)) (.press key true)) (.fire m')).firings =
          (step s (.fire m)).firings ++ [⟨[s.accepted], m', dispatchOf 1 m'⟩]

/-- A clean action fires clean. -/
theorem firesClean_of_clean (a : Action) (hs : ClickInv s) (hclean : Clean s a) :
    FiresClean s a := by
  rcases a with ⟨key, posted⟩ | m
  · trivial
  · intro hpending
    have hfire := fire_of_clean hs hclean hpending
    have hinv := clickInv_step _ hs hclean
    have hzero : (step s (.fire m)).pressCount = 0 := by
      rw [hfire]
      rfl
    refine ⟨hzero, ?_⟩
    intro key m' hclean'
    have hpress : Clean (step s (.fire m)) (.press key true) := by
      refine ⟨fun _ => rfl, ?_⟩
      rw [hzero]
      decide
    have hinv' := clickInv_step _ hinv hpress
    have hstate : step (step s (.fire m)) (.press key true) =
        ((step s (.fire m)).handleKeyEvent key true).1 := rfl
    rw [press_of_clean key hinv hpress] at hstate
    rw [fire_of_clean hinv' hclean' (by rw [hstate]; exact Nat.one_pos), hstate, hfire]
    rfl

/-- Along a run of clean steps the flag mirrors the task, every accepted press waits or is counted
in one firing, which dispatches one command for them unless the top session plays external audio,
and a firing leaves a counter at zero. -/
theorem clicks_of_clean (as : List Action) (h : Meets step Clean .init as) :
    Always step ClickInv .init as ∧ Meets step FiresClean .init as := by
  have hstep : ∀ s a, ClickInv s → Clean s a → ClickInv (step s a) :=
    fun _ a hs hclean => clickInv_step a hs hclean
  refine ⟨always_of_meets hstep clickInv_init h, ?_⟩
  exact meets_of_meets hstep (fun _ a hs hclean => firesClean_of_clean a hs hclean) clickInv_init h

/-- Two presses, counted as a double click, and one that finds no top session. -/
theorem clicks_of_doubleClick :
    Always step ClickInv .init
        [.press .headsethook true, .press .mediaPlayPause false,
          .fire ⟨some ⟨1, PLAYBACK_STATE_PLAY, "music"⟩, none, true⟩, .press .headsethook true,
          .fire ⟨none, none, false⟩] ∧
      Meets step FiresClean .init
        [.press .headsethook true, .press .mediaPlayPause false,
          .fire ⟨some ⟨1, PLAYBACK_STATE_PLAY, "music"⟩, none, true⟩, .press .headsethook true,
          .fire ⟨none, none, false⟩] := by
  apply clicks_of_clean
  refine ⟨?_, ?_, ?_, ?_, ?_, trivial⟩ <;> decide

end Invariant

/-! ## Presses that no command counts -/

section Uncounted

/-- Every accepted press waits or is counted in one firing that dispatched a command. -/
def Dispatched (s : ClickState) : Prop :=
  (s.firings.filter (·.dispatch.isSome)).flatMap (·.presses) ++ s.held = List.range s.accepted

/-- For an external audio session the press is accepted, and no command is dispatched for it. -/
theorem external_not_dispatched : ¬ ∀ as, Always step
    (fun s => (s.isFirstPress = false ↔ 0 < s.pending) ∧ Dispatched s) .init as := by
  intro h
  have hrun := h [.press .headsethook true, .fire ⟨some ⟨1, 0, "external_audio"⟩, none, true⟩]
  have hlast := hrun.last.2
  revert hlast
  unfold Dispatched
  decide

/-- The flag is down, and no task is pending that would raise it. -/
def Stuck (s : ClickState) : Prop := s.isFirstPress = false ∧ s.pending = 0

variable {s : ClickState}

/-- A task that cannot be posted leaves the clicks stuck. -/
theorem stuck_of_failed_post (key : ClickKey) (hs : ClickInv s) (hfirst : s.isFirstPress = true) :
    Stuck (step s (.press key false)) := by
  have hzero : s.pending = 0 := by
    by_contra h
    have hfalse := hs.first_iff.mpr (by omega)
    simp [hfirst] at hfalse
  simp [Stuck, step, ClickState.handleKeyEvent, hfirst, hzero]

/-- A key event that cannot be made leaves the clicks stuck. -/
theorem stuck_of_no_keyEvent {m : Moment} {top : PlayingSession} (hs : ClickInv s)
    (hpending : 0 < s.pending) (htop : m.topSession = some top)
    (htag : top.sessionTag ≠ "external_audio") (hevent : m.keyEvent = false) :
    Stuck (step s (.fire m)) := by
  have hheld : s.held.length ≠ 0 := by
    have h := hs.held_iff.mpr hpending
    simpa using h
  obtain ⟨cmd, hcmd⟩ := clickCommand_isSome hheld m
  have hle := hs.pending_le
  have hfirst := hs.first_iff.mpr hpending
  rw [step, if_neg (by omega), ClickState.handleEventHandlerCallBack]
  simp only [hs.count_eq, hcmd, htop, htag, hevent, if_false, Bool.false_eq_true]
  exact ⟨hfirst, by dsimp only; omega⟩

/-- From such a state on no firing counts a press again, whatever follows. -/
theorem run_of_stuck (hs : Stuck s) (as : List Action) :
    Stuck (run step s as) ∧ (run step s as).firings = s.firings := by
  induction as generalizing s with
  | nil => exact ⟨hs, rfl⟩
  | cons a as ih =>
      obtain ⟨hfirst, hpending⟩ := hs
      have hstep : Stuck (step s a) ∧ (step s a).firings = s.firings := by
        rcases a with ⟨key, posted⟩ | m
        · simp [Stuck, step, ClickState.handleKeyEvent, ClickState.accept, hfirst, hpending]
        · simp [Stuck, step, hfirst, hpending]
      obtain ⟨hstuck, hfirings⟩ := ih hstep.1
      exact ⟨hstuck, hfirings.trans hstep.2⟩

end Uncounted

end AvSession.Service.KeyClicks
