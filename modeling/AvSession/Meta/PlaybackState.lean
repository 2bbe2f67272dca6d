import AvSession.Meta.MetaData

/-!
# The playback state

`AVPlaybackState` has a value for each of fourteen keys and a mask. Unlike metadata, a copy always
merges.

* `PlaybackKey`, `PlaybackKey.changed` — the keys, and the comparison of their values.
* `copyFrom`, `copyToByMask`, `getChangedStateMask` — the loops over `cloneActions` and
  `checkActions`.

The extras are of an arbitrary type with an equality.
-/

namespace AvSession.Meta

open AvSession.Lib

/-- Source: avplayback_state.h, AVPlaybackState::Position. -/
structure Position where
  elapsedTime : ℤ
  updateTime : ℤ
deriving DecidableEq

/-- The keys of a playback state. Source: avplayback_state.h, PLAYBACK_KEY_STATE and the
following. -/
inductive PlaybackKey
  | state
  | speed
  | position
  | bufferedTime
  | loopMode
  | isFavorite
  | activeItemId
  | volume
  | maxVolume
  | muted
  | duration
  | videoWidth
  | videoHeight
  | extras
deriving DecidableEq

namespace PlaybackKey

variable {ω : Type}

/-- All keys, in the order of the enumeration. -/
def all : List PlaybackKey :=
  [state, speed, position, bufferedTime, loopMode, isFavorite, activeItemId, volume, maxVolume,
    muted, duration, videoWidth, videoHeight, extras]

/-- The list of keys has every key. -/
theorem mem_all (k : PlaybackKey) : k ∈ all := by
  cases k <;> decide

/-- The values of a key. -/
@[reducible] def Field (ω : Type) : PlaybackKey → Type
  | speed => BitVec 64
  | position => Position
  | isFavorite => Bool
  | muted => Bool
  | extras => Option ω
  | _ => ℤ

instance [DecidableEq ω] : (k : PlaybackKey) → DecidableEq (k.Field ω)
  | speed => inferInstanceAs (DecidableEq (BitVec 64))
  | position => inferInstanceAs (DecidableEq Position)
  | isFavorite | muted => inferInstanceAs (DecidableEq Bool)
  | extras => inferInstanceAs (DecidableEq (Option ω))
  | state | bufferedTime | loopMode | activeItemId | volume | maxVolume | duration | videoWidth
  | videoHeight => inferInstanceAs (DecidableEq ℤ)

/-- The initializer of the member: the speed is 1.0. -/
def initial : (k : PlaybackKey) → k.Field ω
  | speed => (0x3FF0000000000000 : BitVec 64)
  | position => ⟨0, 0⟩
  | isFavorite | muted => false
  | extras => none
  | state | bufferedTime | loopMode | activeItemId | volume | maxVolume | duration | videoWidth
  | videoHeight => (0 : ℤ)

/-- The comparison of the `Check…Change` functions. -/
def changed [DecidableEq ω] : (k : PlaybackKey) → k.Field ω → k.Field ω → Bool
  | speed, a, b => !doubleEq a b
  | _, a, b => decide (a ≠ b)

/-- Two unchanged steps are one. -/
theorem changed_trans [DecidableEq ω] {k : PlaybackKey} {a b c : k.Field ω}
    (hab : k.changed a b = false) (hbc : k.changed b c = false) : k.changed a c = false := by
  cases k with
  | speed =>
      rw [changed, Bool.not_eq_false'] at hab hbc ⊢
      exact doubleEq_trans hab hbc
  | _ =>
      obtain rfl := not_not.mp (of_decide_eq_false hab)
      exact hbc

/-- Changed is changed either way. -/
theorem changed_comm [DecidableEq ω] (k : PlaybackKey) (a b : k.Field ω) :
    k.changed a b = k.changed b a := by
  cases k with
  | speed => exact congrArg Bool.not (doubleEq_comm a b)
  | _ => exact decide_eq_decide.mpr ne_comm

end PlaybackKey

/-- Source: avplayback_state.h, AVPlaybackState. -/
abbrev AVPlaybackState (ω : Type) := MaskedRecord PlaybackKey (PlaybackKey.Field ω)

namespace AVPlaybackState

variable {ω : Type} (s : AVPlaybackState ω)

/-- A new state. -/
def init : AVPlaybackState ω where
  mask := fun _ => false
  val := PlaybackKey.initial

/-- Source: avplayback_state.cpp, AVPlaybackState::CopyToByMask. -/
def copyToByMask (mask : PlaybackKey → Bool) (out : AVPlaybackState ω) :
    AVPlaybackState ω × Bool :=
  (MaskedRecord.mergeKeys PlaybackKey.all (fun k => s.mask k && mask k) s out,
    PlaybackKey.all.any fun k => s.mask k && mask k)

/-- Source: avplayback_state.cpp, AVPlaybackState::GetChangedStateMask. -/
def getChangedStateMask [DecidableEq ω] (filter : PlaybackKey → Bool)
    (newState : AVPlaybackState ω) : PlaybackKey → Bool :=
  fun k => filter k && k.changed (newState.val k) (s.val k)

/-- Source: avplayback_state.cpp, AVPlaybackState::CopyFrom. -/
def copyFrom (input : AVPlaybackState ω) : AVPlaybackState ω × Bool :=
  (MaskedRecord.mergeKeys PlaybackKey.all input.mask input s, PlaybackKey.all.any input.mask)

variable (input out : AVPlaybackState ω) (mask : PlaybackKey → Bool) (k : PlaybackKey)

/-- CopyFrom takes the marked values. -/
theorem copyFrom_val : (s.copyFrom input).1.val k =
    if input.mask k = true then input.val k else s.val k :=
  MaskedRecord.mergeKeys_val_of_complete _ _ _ _ PlaybackKey.mem_all k

/-- CopyFrom marks what either marks. -/
theorem copyFrom_mask : (s.copyFrom input).1.mask k = (s.mask k || input.mask k) :=
  MaskedRecord.mergeKeys_mask_of_complete _ _ _ _ PlaybackKey.mem_all k

/-- CopyToByMask gives the values both masks mark. -/
theorem copyToByMask_val : (s.copyToByMask mask out).1.val k =
    if (s.mask k && mask k) = true then s.val k else out.val k :=
  MaskedRecord.mergeKeys_val_of_complete _ _ _ _ PlaybackKey.mem_all k

/-- CopyToByMask marks what both mask. -/
theorem copyToByMask_mask : (s.copyToByMask mask out).1.mask k =
    (out.mask k || s.mask k && mask k) :=
  MaskedRecord.mergeKeys_mask_of_complete _ _ _ _ PlaybackKey.mem_all k

end AVPlaybackState

end AvSession.Meta
