import AvSession.Command.Codecs
import AvSession.Lib.MaskAlgebra
import AvSession.Meta.Delivery

/-!
# Metadata and state of a call

A session of a call has its own metadata and its own state. Both are records with a mask, and both
go through parcels.

* `AVCallMetaData`, `AVCallState` — the records.
* `call_codecs` — exactly when they come back from a parcel, and as what.
-/

namespace AvSession.Meta

open AvSession.Lib

/-! ## Metadata -/

section metadata

/-- Source: avcall_meta_data.h, AVCALL_META_KEY_NAME and the following. -/
inductive CallMetaKey
  | name
  | phoneNumber
  | mediaImage
  | mediaImageUri
deriving DecidableEq

namespace CallMetaKey

/-- All keys, in the order of the enumeration. -/
def all : List CallMetaKey := [name, phoneNumber, mediaImage, mediaImageUri]

/-- The list of keys has every key. -/
theorem mem_all (k : CallMetaKey) : k ∈ all := by
  cases k <;> decide

/-- The values of a key. An image is the contents of its buffer. -/
@[reducible] def Field : CallMetaKey → Type
  | mediaImage => Option (List UInt8)
  | _ => String

instance : (k : CallMetaKey) → DecidableEq k.Field
  | mediaImage => inferInstanceAs (DecidableEq (Option (List UInt8)))
  | name | phoneNumber | mediaImageUri => inferInstanceAs (DecidableEq String)

end CallMetaKey

/-- Source: avcall_meta_data.h, AVCallMetaData. -/
abbrev AVCallMetaData := MaskedRecord CallMetaKey CallMetaKey.Field

end metadata

/-! ## State -/

section state

/-- Source: avcall_state.h, AVCALL_STATE_KEY_STATE and the following. -/
inductive CallStateKey
  | state
  | isMuted
deriving DecidableEq

namespace CallStateKey

/-- All keys, in the order of the enumeration. -/
def all : List CallStateKey := [state, isMuted]

/-- The list of keys has every key. -/
theorem mem_all (k : CallStateKey) : k ∈ all := by
  cases k <;> decide

/-- The values of a key. -/
@[reducible] def Field : CallStateKey → Type
  | state => ℤ
  | isMuted => Bool

end CallStateKey

/-- Source: avcall_state.h, AVCallState. -/
abbrev AVCallState := MaskedRecord CallStateKey CallStateKey.Field

namespace AVCallState

/-- AVCALL_STATE_MAX. -/
def stateMax : ℤ := 7

variable (s : AVCallState)

/-- Source: avcall_state.cpp, AVCallState::IsValid. -/
def IsValid : Prop := 0 ≤ (s.val .state : ℤ) ∧ (s.val .state : ℤ) < stateMax

instance : Decidable s.IsValid := inferInstanceAs (Decidable (_ ∧ _))

end AVCallState

end state

/-! ## Parcels -/

section parcels

/-- A mask as it is written: `to_string()`. -/
def maskText {κ : Type*} (keys : List κ) (mask : κ → Bool) : String :=
  String.ofList (maskDigits keys mask)

/-- The mask is read and checked: its length, and that it is made of digits. -/
def readMask {κ : Type} [DecidableEq κ] (keys : List κ) : Reader (κ → Bool) := do
  let mask ← take Token.asString
  check (byteLength mask.toList = keys.length)
  check (mask.toList.all fun c => c == '0' || c == '1')
  pure (readDigits keys mask.toList fun _ => false)

/-- A mask is read back. -/
theorem reads_readMask {κ : Type} [DecidableEq κ] {keys : List κ} (hnodup : keys.Nodup)
    (hall : ∀ k, k ∈ keys) (mask : κ → Bool) :
    Reads (readMask keys) [.string (maskText keys mask)] mask := by
  have htext : (maskText keys mask).toList = maskDigits keys mask := String.toList_ofList
  refine Reads.cons rfl ?_
  refine Reads.check (decide_eq_true ?_) (Reads.check ?_ ?_)
  · rw [htext, byteLength_maskDigits]
  · rw [htext]
    exact Command.PlaybackState.all_maskDigits keys mask
  · rw [htext, readDigits_maskDigits_of_complete hnodup hall mask]
    exact Reads.pure _

namespace AVCallMetaData

variable (m : AVCallMetaData)

/-- Source: avcall_meta_data.cpp, AVCallMetaData::Marshalling. -/
def marshalling : List Put :=
  [.write (.string (maskText CallMetaKey.all m.mask)), .write (.string (m.val .name)),
    .write (.string (m.val .phoneNumber)), .write (.string (m.val .mediaImageUri)),
    .write (.blob (m.val .mediaImage))]

/-- An image that cannot be read is null.
Source: avcall_meta_data.cpp, AVCallMetaData::Unmarshalling. -/
def unmarshalling : Reader AVCallMetaData := do
  let mask ← readMask CallMetaKey.all
  let name ← take Token.asString
  let phoneNumber ← take Token.asString
  let mediaImageUri ← take Token.asString
  let mediaImage ← takeOr Token.asBlob none
  pure { mask
         val := fun
           | .name => name
           | .phoneNumber => phoneNumber
           | .mediaImage => mediaImage
           | .mediaImageUri => mediaImageUri }

/-- The call metadata are read back. -/
theorem reads_marshalling : Reads unmarshalling (records m.marshalling) m := by
  have hnodup : CallMetaKey.all.Nodup := by decide
  show Reads _ ([_] ++ [_, _, _, _]) m
  refine Reads.bind (reads_readMask hnodup CallMetaKey.mem_all m.mask) ?_
  iterate 3 refine Reads.cons rfl ?_
  have himage : Reads (takeOr Token.asBlob none) [.blob (m.val .mediaImage)] (m.val .mediaImage) :=
    fun _ => rfl
  show Reads _ ([_] ++ []) m
  refine Reads.bind himage ?_
  have hsame : ∀ r : AVCallMetaData, (∀ k, r.mask k = m.mask k) → (∀ k, r.val k = m.val k) →
      Reads (pure r) [] m := by
    intro r hmask hval
    obtain rfl : r = m := MaskedRecord.ext' hmask hval
    exact Reads.pure _
  refine hsame _ (fun _ => rfl) ?_
  intro k
  cases k <;> rfl

end AVCallMetaData

namespace AVCallState

variable (s : AVCallState)

/-- Source: avcall_state.cpp, AVCallState::Marshalling. -/
def marshalling : List Put :=
  [.write (.string (maskText CallStateKey.all s.mask)), .write (.int32 (s.val .state)),
    .write (.bool (s.val .isMuted))]

/-- Source: avcall_state.cpp, AVCallState::Unmarshalling. -/
def unmarshalling : Reader AVCallState := do
  let mask ← readMask CallStateKey.all
  let avCallState ← take Token.asInt32
  let isAVCallMuted ← take Token.asBool
  let result : AVCallState :=
    { mask
      val := fun
        | .state => avCallState
        | .isMuted => isAVCallMuted }
  check result.IsValid
  pure result

/-- A call state is answered exactly when it is valid. -/
theorem answers_marshalling : Answers unmarshalling (records s.marshalling)
    (if decide s.IsValid then some s else none) := by
  have hnodup : CallStateKey.all.Nodup := by decide
  show Answers _ ([_] ++ [_, _]) _
  refine Answers.bind (reads_readMask hnodup CallStateKey.mem_all s.mask) ?_
  iterate 2 refine Answers.cons rfl ?_
  have hsame : ∀ r : AVCallState, (∀ k, r.mask k = s.mask k) → (∀ k, r.val k = s.val k) →
      Answers (do check r.IsValid; pure r) [] (if decide s.IsValid then some s else none) := by
    intro r hmask hval
    obtain rfl : r = s := MaskedRecord.ext' hmask hval
    exact Answers.check (Answers.of_reads (Reads.pure _))
  refine hsame _ (fun _ => rfl) ?_
  intro k
  cases k <;> rfl

/-- What is accepted is valid. -/
theorem yields_valid : Yields unmarshalling IsValid := by
  refine Yields.skip fun mask => Yields.skip fun avCallState => Yields.skip fun isAVCallMuted => ?_
  exact Yields.check fun hvalid => Yields.pure (of_decide_eq_true hvalid)

end AVCallState

/-- **The codecs of calls.** What was written of a call comes back as it was: the metadata always,
images included, and the state exactly if it is one of the enumeration, which its setter does not
check. No parcel whatever is read as a state that is not. -/
theorem call_codecs (p : Parcel) :
    (∀ m : AVCallMetaData, (p.run m.marshalling).2 = true →
      RoundTrips p m.marshalling AVCallMetaData.unmarshalling True fun m' => m' = m) ∧
    (∀ s : AVCallState, (p.run s.marshalling).2 = true →
      RoundTrips p s.marshalling AVCallState.unmarshalling s.IsValid fun s' => s' = s) ∧
    Yields AVCallState.unmarshalling AVCallState.IsValid := by
  refine ⟨?_, ?_, AVCallState.yields_valid⟩
  · intro m h
    refine RoundTrips.of_answers h (Answers.of_reads m.reads_marshalling) ?_ ?_
    · exact iff_of_true trivial rfl
    · intro m' hm'
      exact (Option.some.inj hm').symm
  · intro s h
    refine RoundTrips.of_answers h s.answers_marshalling ?_ ?_
    · by_cases hvalid : s.IsValid <;> simp [hvalid]
    · intro s' hs'
      by_cases hvalid : s.IsValid
      · rw [decide_eq_true hvalid, if_pos rfl] at hs'
        exact (Option.some.inj hs').symm
      · rw [decide_eq_false hvalid, if_neg Bool.false_ne_true] at hs'
        cases hs'

end parcels

end AvSession.Meta
