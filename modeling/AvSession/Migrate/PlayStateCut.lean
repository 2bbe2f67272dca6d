import AvSession.Migrate.PlayStateCodec
import Mathlib.Data.List.TakeWhile

/-!
# Playback states that are cut short

The proxy reads thirteen values one after the other and looks at none of the failures: a number that
is missing is zero, and a string that is missing is a null pointer, from which a `std::string` is
made.

* `CheckedParcel` — the reads of a parcel as they fail; `CheckedParcel.format` — what the proxy has
  of them.
* `Complete` — the bytes have the whole layout; `complete_checkedLittleEndian_iff` — its length.
* `processPlaybackStateForSuper?` — the reader of `PlayStateCodec`, with the null pointer.
* `rejectsIncomplete_iff` — only an empty text is rejected.
-/

namespace AvSession.Migrate.PlayState

open AvSession.Lib AvSession.Meta AvSession.Migrate

/-! ## Reads that fail -/

section checked

/-- The types of the values. -/
inductive ValueKind
  | int32
  | int64
  | float
  | bool
  | cString
deriving DecidableEq

/-- The reads of a parcel. A read fails if the bytes do not suffice, and that of a string also if
they have no zero. -/
structure CheckedParcel (ρ : Type) where
  openBuffer : List UInt8 → ρ
  readInt32 : ρ → Option (BitVec 32 × ρ)
  readInt64 : ρ → Option (BitVec 64 × ρ)
  readFloat : ρ → Option (BitVec 32 × ρ)
  readBool : ρ → Option (Bool × ρ)
  readCString : ρ → Option (List UInt8 × ρ)

variable {ρ ω : Type} (p : CheckedParcel ρ)

namespace CheckedParcel

/-- The reads that the proxy makes: one that fails gives zero and leaves the reader where it is. The
proxy writes nothing. -/
def format : ParcelFormat ρ where
  write _ := none
  openBuffer := p.openBuffer
  readInt32 r := (p.readInt32 r).getD (0, r)
  readInt64 r := (p.readInt64 r).getD (0, r)
  readFloat r := (p.readFloat r).getD (0, r)
  readBool r := (p.readBool r).getD (false, r)
  readCString r := (p.readCString r).getD ([], r)

/-- The reader behind a value, if it is there. -/
def skip (r : ρ) : ValueKind → Option ρ
  | .int32 => (p.readInt32 r).map Prod.snd
  | .int64 => (p.readInt64 r).map Prod.snd
  | .float => (p.readFloat r).map Prod.snd
  | .bool => (p.readBool r).map Prod.snd
  | .cString => (p.readCString r).map Prod.snd

/-- The reader behind some values, if all are there. -/
def skipAll (kinds : List ValueKind) (r : ρ) : Option ρ := kinds.foldlM p.skip r

/-- The reader after some reads, whether they fail or not. -/
def pass (kinds : List ValueKind) (r : ρ) : ρ := kinds.foldl (fun r k => (p.skip r k).getD r) r

end CheckedParcel

/-- The type of a value. -/
def ParcelValue.kind : ParcelValue → ValueKind
  | .int32 _ => .int32
  | .int64 _ => .int64
  | .float _ => .float
  | .bool _ => .bool
  | .cString _ => .cString

/-- The values in front of the string.
Source: `MigrateAVSessionProxy::ProcessPlaybackStateForSuper` -/
def kindsBefore : List ValueKind :=
  [.int32, .int64, .float, .int64, .int64, .int64, .int32, .int64, .int32]

/-- The values behind the string. -/
def kindsAfter : List ValueKind := [.int32, .bool, .int32]

/-- The bytes have the complete layout. -/
def Complete (data : List UInt8) : Prop :=
  (p.skipAll (kindsBefore ++ .cString :: kindsAfter) (p.openBuffer data)).isSome

/-- Whether the read of the string gives a null pointer. -/
def nullString (data : List UInt8) : Bool :=
  (p.readCString (p.pass kindsBefore (p.openBuffer data))).isNone

/-- Whether a message is for a player that is known, and has a text: then the text is read. -/
def isRead (items : PlaybackStates ω) (message : PlayStateMessage) : Bool :=
  (items (SuperProxy.getStringFromJson message.playerId)).isSome ∧
    SuperProxy.getStringFromJson message.playerId ≠ "" ∧ message.stateEncodeStr ≠ ""

/-- What a message does, or `none` if a `std::string` is made of a null pointer.
Source: `MigrateAVSessionProxy::ProcessPlaybackStateForSuper` -/
def processPlaybackStateForSuper? (items : PlaybackStates ω) (message : PlayStateMessage) :
    Option (PlaybackStates ω × RetCode) :=
  if isRead items message && nullString p (base64Decode message.stateEncodeStr) then none
  else some (processPlaybackStateForSuper p.format items message)

end checked

/-! ## What is rejected -/

section rejected

variable {ρ ω : Type} {p : CheckedParcel ρ} {items : PlaybackStates ω} {item : AVPlaybackState ω}
  {message : PlayStateMessage}

/-- The state is always among what is read. -/
theorem mask_readPlayState (q : ParcelFormat ρ) (item : AVPlaybackState ω) (r : ρ) :
    (readPlayState q item r).mask .state = true := by
  unfold readPlayState
  simp only [MaskedRecord.set_mask]
  simp

/-- Whatever is read is set on the item. -/
theorem processPlaybackStateForSuper_of_text (q : ParcelFormat ρ)
    (hitem : items (SuperProxy.getStringFromJson message.playerId) = some item)
    (hid : SuperProxy.getStringFromJson message.playerId ≠ "")
    (htext : message.stateEncodeStr ≠ "") :
    (processPlaybackStateForSuper q items message).2 = .success := by
  have hany : (item.copyFrom (readPlayState q item
      (q.openBuffer (base64Decode message.stateEncodeStr)))).2 = true :=
    List.any_eq_true.mpr ⟨.state, PlaybackKey.mem_all _, mask_readPlayState _ _ _⟩
  unfold processPlaybackStateForSuper
  dsimp only
  rw [hitem]
  dsimp only
  rw [if_neg hid, if_neg htext, if_pos hany]

/-- Bytes without the complete layout are answered with an error, the items stay, and no string is
made of a null pointer. -/
def RejectsIncomplete (p : CheckedParcel ρ) (items : PlaybackStates ω)
    (message : PlayStateMessage) : Prop :=
  ¬ Complete p (base64Decode message.stateEncodeStr) →
    processPlaybackStateForSuper? p items message = some (items, .error)

/-- **Playback states that are cut short.** Of every message for a known player: bytes without the
complete layout are rejected only if the text is empty. -/
theorem rejectsIncomplete_iff (p : CheckedParcel ρ)
    (hitem : items (SuperProxy.getStringFromJson message.playerId) = some item)
    (hid : SuperProxy.getStringFromJson message.playerId ≠ "") :
    RejectsIncomplete p items message ↔
      message.stateEncodeStr = "" ∨ Complete p (base64Decode message.stateEncodeStr) := by
  constructor
  · intro h
    by_contra hnot
    obtain ⟨htext, hincomplete⟩ := not_or.mp hnot
    have hset := processPlaybackStateForSuper_of_text p.format hitem hid htext
    have hrejected := h hincomplete
    unfold processPlaybackStateForSuper? at hrejected
    split_ifs at hrejected
    rw [Option.some.inj hrejected] at hset
    cases hset
  · rintro (htext | hcomplete) hincomplete
    · have hread : isRead items message = false := by simp [isRead, htext]
      unfold processPlaybackStateForSuper? processPlaybackStateForSuper
      dsimp only
      rw [hread, hitem]
      dsimp only
      rw [if_neg hid, if_pos htext]
      rfl
    · exact absurd hcomplete hincomplete

end rejected

/-! ## A parcel with its bytes in order -/

section littleEndian

/-- A number of some bytes, if they are there. -/
def checkedNumber (w n : ℕ) (r : List UInt8) : Option (BitVec w × List UInt8) :=
  if n ≤ r.length then some (takeNumber w n r) else none

/-- The reads of `littleEndianParcel` as they fail. -/
def checkedLittleEndian : CheckedParcel (List UInt8) where
  openBuffer data := data
  readInt32 := checkedNumber 32 4
  readInt64 := checkedNumber 64 8
  readFloat := checkedNumber 32 4
  readBool r := if 4 ≤ r.length then some (littleEndianParcel.readBool r) else none
  readCString r := if (0 : UInt8) ∈ r then some (littleEndianParcel.readCString r) else none

/-- The bytes of a number. -/
def ValueKind.size : ValueKind → ℕ
  | .int32 | .float | .bool => 4
  | .int64 => 8
  | .cString => 0

/-- The bytes of some numbers. -/
def sizeOf (kinds : List ValueKind) : ℕ := (kinds.map ValueKind.size).sum

variable {ω : Type} {kinds : List ValueKind} {r data : List UInt8}

/-- A number is skipped when its bytes are there. -/
theorem skip_number {k : ValueKind} (hk : k ≠ .cString) (r : List UInt8) :
    checkedLittleEndian.skip r k = if k.size ≤ r.length then some (r.drop k.size) else none := by
  cases k with
  | cString => exact absurd rfl hk
  | _ => exact apply_ite (Option.map Prod.snd) _ _ _

/-- Numbers are there if their bytes are. -/
theorem skipAll_numbers (h : ValueKind.cString ∉ kinds) (r : List UInt8) :
    checkedLittleEndian.skipAll kinds r =
      if sizeOf kinds ≤ r.length then some (r.drop (sizeOf kinds)) else none := by
  induction kinds generalizing r with
  | nil => rfl
  | cons k kinds ih =>
      rw [List.mem_cons, not_or] at h
      have hsize : sizeOf (k :: kinds) = k.size + sizeOf kinds := List.sum_cons
      have hskip : checkedLittleEndian.skipAll (k :: kinds) r =
          (checkedLittleEndian.skip r k).bind (checkedLittleEndian.skipAll kinds) :=
        List.foldlM_cons
      rw [hskip, skip_number (Ne.symm h.1), hsize]
      by_cases hlen : k.size ≤ r.length
      · rw [if_pos hlen, Option.bind_some, ih h.2, List.length_drop, List.drop_drop]
        have hiff : sizeOf kinds ≤ r.length - k.size ↔ k.size + sizeOf kinds ≤ r.length := by omega
        simp only [hiff]
      · rw [if_neg hlen, if_neg (by omega)]
        rfl

/-- The string behind the first nine numbers. -/
def checkStr (data : List UInt8) : List UInt8 := (data.drop 56).takeWhile (· ≠ 0)

/-- The text is cut exactly where it holds a NUL. -/
theorem length_checkStr_lt_iff (data : List UInt8) :
    (checkStr data).length < (data.drop 56).length ↔ (0 : UInt8) ∈ data.drop 56 := by
  have hfront : checkStr data <+: data.drop 56 := List.takeWhile_prefix _
  constructor
  · intro hlt
    by_contra hzero
    have hall : ∀ b ∈ data.drop 56, decide (b ≠ 0) = true := by
      intro b hb
      apply decide_eq_true
      rintro rfl
      exact hzero hb
    have heq : checkStr data = data.drop 56 := List.takeWhile_eq_self_iff.mpr hall
    rw [heq] at hlt
    exact absurd hlt (lt_irrefl _)
  · intro hzero
    apply lt_of_le_of_ne hfront.length_le
    intro hlen
    have heq : checkStr data = data.drop 56 := hfront.eq_of_length hlen
    have hne := List.takeWhile_eq_self_iff.mp heq 0 hzero
    simp at hne

/-- The layout is complete if twelve bytes are behind the string, which is filled up with zeros, and
fifty-six before it. -/
theorem complete_checkedLittleEndian_iff (data : List UInt8) :
    Complete checkedLittleEndian data ↔
      56 + ((checkStr data).length + (4 - (checkStr data).length % 4)) + 12 ≤ data.length := by
  have hparts : checkedLittleEndian.skipAll (kindsBefore ++ .cString :: kindsAfter) data =
      (checkedLittleEndian.skipAll kindsBefore data).bind fun r =>
        (checkedLittleEndian.skip r .cString).bind (checkedLittleEndian.skipAll kindsAfter) := by
    unfold CheckedParcel.skipAll
    rw [List.foldlM_append]
    rfl
  have hstr : checkedLittleEndian.skip (data.drop 56) .cString =
      if (0 : UInt8) ∈ data.drop 56 then
        some ((data.drop 56).drop ((checkStr data).length + (4 - (checkStr data).length % 4)))
      else none := apply_ite (Option.map Prod.snd) _ _ _
  have hlt := length_checkStr_lt_iff data
  rw [List.length_drop] at hlt
  show (checkedLittleEndian.skipAll (kindsBefore ++ .cString :: kindsAfter) data).isSome ↔ _
  rw [hparts, skipAll_numbers (by decide)]
  show (Option.bind (if 56 ≤ data.length then some (data.drop 56) else none) _).isSome ↔ _
  by_cases hlen : 56 ≤ data.length
  · rw [if_pos hlen, Option.bind_some, hstr]
    by_cases hzero : (0 : UInt8) ∈ data.drop 56
    · have hshort := hlt.mpr hzero
      rw [if_pos hzero, Option.bind_some, skipAll_numbers (by decide), List.length_drop,
        List.length_drop]
      rw [show sizeOf kindsAfter = 12 from rfl, Option.isSome_ite]
      omega
    · have hlong := mt hlt.mp hzero
      rw [if_neg hzero]
      refine iff_of_false (by simp) ?_
      omega
  · rw [if_neg hlen]
    refine iff_of_false (by simp) ?_
    omega

/-- What is shorter than the layout with an empty string is not complete. -/
theorem not_complete_of_length_lt (h : data.length < 72) : ¬ Complete checkedLittleEndian data := by
  rw [complete_checkedLittleEndian_iff]
  omega

/-- A message for the only player. -/
def textMessage (text : String) : PlayStateMessage := ⟨some "player", some text, none⟩

/-- A message of a text alone starts a fresh item. -/
theorem newItems_textMessage (text : String) :
    newItems (SuperProxy.getStringFromJson (textMessage text).playerId) =
      some AVPlaybackState.init := rfl

/-- Its player has a name. -/
theorem playerId_textMessage (text : String) :
    SuperProxy.getStringFromJson (textMessage text).playerId ≠ "" :=
  show "player" ≠ "" by decide

/-- A text of a single byte. -/
theorem rejectsIncomplete_byte :
    RejectsIncomplete checkedLittleEndian newItems (textMessage "AQ==") ↔
      (textMessage "AQ==").stateEncodeStr = "" ∨
        Complete checkedLittleEndian (base64Decode (textMessage "AQ==").stateEncodeStr) :=
  rejectsIncomplete_iff checkedLittleEndian (newItems_textMessage _) (playerId_textMessage _)

/-- The string of that text is a null pointer. -/
example : nullString checkedLittleEndian (base64Decode "AQ==") = true := by decide +kernel

/-- A state that is cut behind the string: the loop mode is missing, and is set to zero. -/
theorem cutState_accepted :
    ¬ RejectsIncomplete checkedLittleEndian newItems
      (textMessage (base64Encode (List.replicate 60 0))) := by
  intro h
  have htext : (textMessage (base64Encode (List.replicate 60 0))).stateEncodeStr =
      base64Encode (List.replicate 60 0) := stateEncodeStr_of_some _ _
  have hempty : (textMessage (base64Encode (List.replicate 60 0))).stateEncodeStr ≠ "" := by
    rw [htext]
    exact base64Encode_ne_empty (by decide)
  have hset := processPlaybackStateForSuper_of_text checkedLittleEndian.format
    (newItems_textMessage _) (playerId_textMessage _) hempty
  unfold RejectsIncomplete at h
  rw [htext, base64Decode_base64Encode] at h
  have hrejected := h (not_complete_of_length_lt (by decide))
  unfold processPlaybackStateForSuper? at hrejected
  split_ifs at hrejected
  rw [Option.some.inj hrejected] at hset
  cases hset

end littleEndian

end AvSession.Migrate.PlayState
