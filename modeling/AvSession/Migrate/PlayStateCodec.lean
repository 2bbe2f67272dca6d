import AvSession.Lib.FloatFormat
import AvSession.Meta.PlaybackState
import AvSession.Migrate.Base64
import AvSession.Migrate.SuperProxy
import Mathlib.Tactic.FinCases

/-!
# The playback state on its way to the super proxy

The server writes the playback state of a session into a parcel and sends the bytes as Base64; the
proxy reads them back, value by value, into the session item of the player. The numbers of the
states differ on the way: each side has a function that renumbers four of them and passes the
others.

* `rebuildPlayState`, `processPlaybackStateForSuper` — the writer and the reader.
* `ParcelFormat`, `ReadsBack` — the parcel of the system, which is not part of the service.
* `decodes_iff` — what was written is what the item has, iff the state is neither "prepare" nor
  "completed".
-/

namespace AvSession.Migrate.PlayState

open AvSession.Lib AvSession.Meta AvSession.Migrate

/-! ## The parcel -/

section parcel

/-- A value that is written into a parcel. A C string is its characters. -/
inductive ParcelValue
  | int32 (v : BitVec 32)
  | int64 (v : BitVec 64)
  | float (v : BitVec 32)
  | bool (v : Bool)
  | cString (v : List UInt8)

/-- A parcel: the data after some writes, if they all succeed, and the reads from a buffer. A reader
is in a state of `ρ`. -/
structure ParcelFormat (ρ : Type) where
  write : List ParcelValue → Option (List UInt8)
  openBuffer : List UInt8 → ρ
  readInt32 : ρ → BitVec 32 × ρ
  readInt64 : ρ → BitVec 64 × ρ
  readFloat : ρ → BitVec 32 × ρ
  readBool : ρ → Bool × ρ
  readCString : ρ → List UInt8 × ρ

variable {ρ : Type}

/-- The reads return the values written, in order, over the same bytes: `ahead r values` says that
these values are ahead of the reader. A C string ends at its first zero, and a value takes some
bytes. -/
structure ReadsBack (p : ParcelFormat ρ) (ahead : ρ → List ParcelValue → Prop) : Prop where
  openBuffer : ∀ values data, p.write values = some data → ahead (p.openBuffer data) values
  int32 : ∀ r v rest, ahead r (.int32 v :: rest) →
    (p.readInt32 r).1 = v ∧ ahead (p.readInt32 r).2 rest
  int64 : ∀ r v rest, ahead r (.int64 v :: rest) →
    (p.readInt64 r).1 = v ∧ ahead (p.readInt64 r).2 rest
  float : ∀ r v rest, ahead r (.float v :: rest) →
    (p.readFloat r).1 = v ∧ ahead (p.readFloat r).2 rest
  bool : ∀ r v rest, ahead r (.bool v :: rest) →
    (p.readBool r).1 = v ∧ ahead (p.readBool r).2 rest
  cString : ∀ r v rest, 0 ∉ v → ahead r (.cString v :: rest) →
    (p.readCString r).1 = v ∧ ahead (p.readCString r).2 rest
  notEmpty : ∀ values data, values ≠ [] → p.write values = some data → data ≠ []

end parcel

/-! ## A parcel with its bytes in order -/

section littleEndian

/-- The bytes of a number, the least significant one first. -/
def leBytes : ℕ → ℕ → List UInt8
  | 0, _ => []
  | n + 1, v => UInt8.ofNat (v % 256) :: leBytes n (v / 256)

/-- The number of some bytes. -/
def ofLeBytes : List UInt8 → ℕ
  | [] => 0
  | b :: bs => b.toNat + 256 * ofLeBytes bs

/-- A number is written with the bytes asked for. -/
theorem length_leBytes (n v : ℕ) : (leBytes n v).length = n := by
  induction n generalizing v with
  | zero => rfl
  | succ n ih => rw [leBytes, List.length_cons, ih]

/-- A number within the bytes is read back. -/
theorem ofLeBytes_leBytes (n v : ℕ) (h : v < 256 ^ n) : ofLeBytes (leBytes n v) = v := by
  induction n generalizing v with
  | zero =>
      rw [Nat.pow_zero, Nat.lt_one_iff] at h
      rw [h]
      rfl
  | succ n ih =>
      have hdiv : v / 256 < 256 ^ n := by
        rw [Nat.div_lt_iff_lt_mul (by decide), ← Nat.pow_succ]
        exact h
      rw [leBytes, ofLeBytes, ih _ hdiv, UInt8.toNat_ofNat_of_lt' (Nat.mod_lt v (by decide))]
      exact Nat.mod_add_div v 256

/-- The first bytes as a number, and the rest. -/
def takeNumber (w n : ℕ) (r : List UInt8) : BitVec w × List UInt8 :=
  (BitVec.ofNat w (ofLeBytes (r.take n)), r.drop n)

/-- A number is taken from before the rest. -/
theorem takeNumber_append {w n : ℕ} (hw : 2 ^ w = 256 ^ n) (v : BitVec w) (rest : List UInt8) :
    takeNumber w n (leBytes n v.toNat ++ rest) = (v, rest) := by
  have hlt : v.toNat < 256 ^ n := hw ▸ v.isLt
  unfold takeNumber
  rw [List.take_left' (length_leBytes n _), List.drop_left' (length_leBytes n _),
    ofLeBytes_leBytes n _ hlt, BitVec.ofNat_toNat, BitVec.setWidth_eq]

/-- The bytes of a value: a boolean is written like a number of 32 bits, a C string with its zero
and filled up to a multiple of four. -/
def valueBytes : ParcelValue → List UInt8
  | .int32 v => leBytes 4 v.toNat
  | .int64 v => leBytes 8 v.toNat
  | .float v => leBytes 4 v.toNat
  | .bool v => leBytes 4 v.toNat
  | .cString v => v ++ List.replicate (4 - v.length % 4) 0

/-- A parcel whose data are the bytes of its values. -/
def littleEndianParcel : ParcelFormat (List UInt8) where
  write values := some (values.flatMap valueBytes)
  openBuffer data := data
  readInt32 := takeNumber 32 4
  readInt64 := takeNumber 64 8
  readFloat := takeNumber 32 4
  readBool r := (decide (ofLeBytes (r.take 4) ≠ 0), r.drop 4)
  readCString r :=
    let v := r.takeWhile (· ≠ 0)
    (v, r.drop (v.length + (4 - v.length % 4)))

/-- No value is written without a byte. -/
theorem valueBytes_ne_nil (v : ParcelValue) : valueBytes v ≠ [] := by
  cases v with
  | int32 v => exact List.cons_ne_nil _ _
  | int64 v => exact List.cons_ne_nil _ _
  | float v => exact List.cons_ne_nil _ _
  | bool v => exact List.cons_ne_nil _ _
  | cString v =>
      intro hnil
      have hlength := congrArg List.length hnil
      rw [valueBytes, List.length_append, List.length_replicate, List.length_nil] at hlength
      omega

/-- The parcel used below reads its values back. -/
theorem readsBack_littleEndianParcel :
    ReadsBack littleEndianParcel fun r values => r = values.flatMap valueBytes where
  openBuffer values data h := (Option.some.inj h).symm
  int32 r v rest h := by
    rw [h, List.flatMap_cons]
    have hread := takeNumber_append (w := 32) (n := 4) (by decide) v (rest.flatMap valueBytes)
    exact ⟨congrArg Prod.fst hread, congrArg Prod.snd hread⟩
  int64 r v rest h := by
    rw [h, List.flatMap_cons]
    have hread := takeNumber_append (w := 64) (n := 8) (by decide) v (rest.flatMap valueBytes)
    exact ⟨congrArg Prod.fst hread, congrArg Prod.snd hread⟩
  float r v rest h := by
    rw [h, List.flatMap_cons]
    have hread := takeNumber_append (w := 32) (n := 4) (by decide) v (rest.flatMap valueBytes)
    exact ⟨congrArg Prod.fst hread, congrArg Prod.snd hread⟩
  bool r v rest h := by
    rw [h, List.flatMap_cons]
    cases v <;> exact ⟨rfl, rfl⟩
  cString r v rest hzero h := by
    rw [h, List.flatMap_cons]
    have htake : (valueBytes (.cString v) ++ rest.flatMap valueBytes).takeWhile (· ≠ 0) = v := by
      have hpos : 0 < 4 - v.length % 4 := by omega
      obtain ⟨n, hn⟩ := Nat.exists_eq_succ_of_ne_zero hpos.ne'
      rw [valueBytes, hn, List.replicate_succ, List.append_assoc]
      have hall : ∀ b ∈ v, decide (b ≠ 0) = true := fun b hb => by
        apply decide_eq_true
        rintro rfl
        exact hzero hb
      rw [List.takeWhile_append_of_pos hall]
      simp
    refine ⟨htake, ?_⟩
    show (valueBytes (.cString v) ++ rest.flatMap valueBytes).drop (_ + (4 - _ % 4)) = _
    rw [htake]
    apply List.drop_left'
    rw [valueBytes, List.length_append, List.length_replicate]
  notEmpty values data hne h := by
    rw [← Option.some.inj h]
    obtain ⟨v, values, rfl⟩ := List.exists_cons_of_ne_nil hne
    rw [List.flatMap_cons]
    exact List.append_ne_nil_of_left_ne_nil (valueBytes_ne_nil v) _

end littleEndian

/-! ## The two sides -/

section codec

/-! Source: avplayback_state.h, `PLAYBACK_STATE_INITIAL` and the following -/

def playbackStatePrepare : ℤ := 1
def playbackStatePlay : ℤ := 2
def playbackStatePause : ℤ := 3
def playbackStateStop : ℤ := 6
def playbackStateCompleted : ℤ := 7
def playbackStateError : ℤ := 9

/-! Source: migrate_avsession_constant.h, `MEDIA_SESSION_PLAYBACK_STATE_PLAY` and the following -/

def mediaSessionPlaybackStatePlay : ℤ := 3
def mediaSessionPlaybackStatePause : ℤ := 2
def mediaSessionPlaybackStateStop : ℤ := 1
def mediaSessionPlaybackStateError : ℤ := 7

/-- Source: `MigrateAVSessionServer::ConvertStateFromSingleToDouble` -/
def convertStateFromSingleToDouble (state : ℤ) : ℤ :=
  if state = playbackStatePlay then mediaSessionPlaybackStatePlay
  else if state = playbackStatePause then mediaSessionPlaybackStatePause
  else if state = playbackStateStop then mediaSessionPlaybackStateStop
  else if state = playbackStateError then mediaSessionPlaybackStateError
  else state

/-- Source: `MigrateAVSessionProxy::ConvertStateFromDoubleToSingle` -/
def convertStateFromDoubleToSingle (state : ℤ) : ℤ :=
  if state = mediaSessionPlaybackStatePlay then playbackStatePlay
  else if state = mediaSessionPlaybackStatePause then playbackStatePause
  else if state = mediaSessionPlaybackStateStop then playbackStateStop
  else if state = mediaSessionPlaybackStateError then playbackStateError
  else state

variable {ρ ω : Type} (p : ParcelFormat ρ)

/-- The values that are written for a playback state. -/
def playStateValues (s : AVPlaybackState ω) : List ParcelValue :=
  [.int32 (.ofInt 32 (convertStateFromSingleToDouble (s.val .state))),
    .int64 (.ofInt 64 (s.val .position).elapsedTime),
    .float (toSingle (s.val .speed)),
    .int64 (.ofInt 64 (s.val .position).updateTime),
    .int64 (.ofInt 64 (s.val .bufferedTime)),
    .int64 1911,
    .int32 (.ofInt 32 (-1)),
    .int64 (.ofInt 64 (s.val .activeItemId)),
    .int32 1,
    .cString [],
    .int32 (.ofInt 32 (-1)),
    .bool (s.val .isFavorite),
    .int32 (.ofInt 32 (s.val .loopMode))]

/-- Source: `MigrateAVSessionServer::RebuildPlayState` -/
def rebuildPlayState (s : AVPlaybackState ω) : String :=
  match p.write (playStateValues s) with
  | none => ""
  | some data => base64Encode data

/-- A received message: the members that are read. -/
structure PlayStateMessage where
  playerId : Option String
  playbackState : Option String
  callbackInfo : Option String

/-- The text of the playback state: the second member is looked at if the first is empty. -/
def PlayStateMessage.stateEncodeStr (message : PlayStateMessage) : String :=
  let stateEncodeStr := SuperProxy.getStringFromJson message.playbackState
  if stateEncodeStr = "" then SuperProxy.getStringFromJson message.callbackInfo
  else stateEncodeStr

/-- The playback state of the item with what is read. The active item id is cut to 32 bits. -/
def readPlayState (playbackState : AVPlaybackState ω) (parcel : ρ) : AVPlaybackState ω :=
  let (state, parcel) := p.readInt32 parcel
  let playbackState :=
    playbackState.set .state (convertStateFromDoubleToSingle state.toInt)
  let (elapsedTime, parcel) := p.readInt64 parcel
  let (speed, parcel) := p.readFloat parcel
  let playbackState := playbackState.set .speed (toDouble speed)
  let (updateTime, parcel) := p.readInt64 parcel
  let playbackState := playbackState.set .position ⟨elapsedTime.toInt, updateTime.toInt⟩
  let (bufferedTime, parcel) := p.readInt64 parcel
  let playbackState := playbackState.set .bufferedTime bufferedTime.toInt
  let (_, parcel) := p.readInt64 parcel
  let (_, parcel) := p.readInt32 parcel
  let (activeItemId, parcel) := p.readInt64 parcel
  let playbackState := playbackState.set .activeItemId (activeItemId.setWidth 32).toInt
  let (_, parcel) := p.readInt32 parcel
  let (_, parcel) := p.readCString parcel
  let (_, parcel) := p.readInt32 parcel
  let (isFavorite, parcel) := p.readBool parcel
  let playbackState := playbackState.set .isFavorite isFavorite
  let (loopMode, _) := p.readInt32 parcel
  playbackState.set .loopMode loopMode.toInt

/-- The playback states of the session items, under their player ids.
Source: migrate_avsession_proxy.h, `sessionStackForMigrateIn_` -/
abbrev PlaybackStates (ω : Type) := String → Option (AVPlaybackState ω)

/-- Source: `MigrateAVSessionProxy::ProcessPlaybackStateForSuper` -/
def processPlaybackStateForSuper (items : PlaybackStates ω) (message : PlayStateMessage) :
    PlaybackStates ω × RetCode :=
  let sessionId := SuperProxy.getStringFromJson message.playerId
  match items sessionId with
  | none => (items, .error)
  | some item =>
      if sessionId = "" then (items, .error)
      else if message.stateEncodeStr = "" then (items, .error)
      else
        let parcel := p.openBuffer (base64Decode message.stateEncodeStr)
        let result := item.copyFrom (readPlayState p item parcel)
        if result.2 then (Function.update items sessionId (some result.1), .success)
        else (items, .error)

end codec

/-! ## Reading what was written -/

section round

variable {ρ ω : Type} {p : ParcelFormat ρ} {ahead : ρ → List ParcelValue → Prop}

/-- A value of `n` bits with a sign. -/
def FitsIn (n : ℕ) (i : ℤ) : Prop := -2 ^ (n - 1) ≤ i ∧ i < 2 ^ (n - 1)

/-- An integer of 32 bits survives its word. -/
theorem toInt_ofInt_32 {i : ℤ} (h : FitsIn 32 i) : (BitVec.ofInt 32 i).toInt = i :=
  BitVec.toInt_ofInt_eq_self (by omega) h.1 h.2

/-- An integer of 64 bits survives its word. -/
theorem toInt_ofInt_64 {i : ℤ} (h : FitsIn 64 i) : (BitVec.ofInt 64 i).toInt = i :=
  BitVec.toInt_ofInt_eq_self (by omega) h.1 h.2

/-- A value of 32 bits survives in 64 bits. -/
theorem toInt_setWidth_ofInt {i : ℤ} (h : FitsIn 32 i) :
    ((BitVec.ofInt 64 i).setWidth 32).toInt = i := by
  obtain ⟨hle, hlt⟩ := h
  rw [BitVec.toInt_setWidth, BitVec.toNat_ofInt, Int.bmod_def]
  omega

/-- The renumbering of the reader undoes that of the writer on the states that it does not map onto
a state that is mapped. -/
theorem convert_convert_iff (state : ℤ) :
    convertStateFromDoubleToSingle (convertStateFromSingleToDouble state) = state ↔
      state ≠ playbackStatePrepare ∧ state ≠ playbackStateCompleted := by
  unfold convertStateFromDoubleToSingle convertStateFromSingleToDouble playbackStatePrepare
    playbackStatePlay playbackStatePause playbackStateStop playbackStateCompleted
    playbackStateError mediaSessionPlaybackStatePlay mediaSessionPlaybackStatePause
    mediaSessionPlaybackStateStop mediaSessionPlaybackStateError
  split_ifs <;> omega

/-- A converted state fits where the state did. -/
theorem fitsIn_convert {state : ℤ} (h : FitsIn 32 state) :
    FitsIn 32 (convertStateFromSingleToDouble state) := by
  obtain ⟨hle, hlt⟩ := h
  unfold FitsIn convertStateFromSingleToDouble mediaSessionPlaybackStatePlay
    mediaSessionPlaybackStatePause mediaSessionPlaybackStateStop mediaSessionPlaybackStateError
  split_ifs <;> omega

/-- The members have the types of the source, and the speed is a number in single precision. -/
structure Encodable (s : AVPlaybackState ω) : Prop where
  state : FitsIn 32 (s.val .state)
  elapsedTime : FitsIn 64 (s.val .position).elapsedTime
  updateTime : FitsIn 64 (s.val .position).updateTime
  bufferedTime : FitsIn 64 (s.val .bufferedTime)
  activeItemId : FitsIn 32 (s.val .activeItemId)
  loopMode : FitsIn 32 (s.val .loopMode)
  speed : ∃ f : BitVec 32, ¬ IsNaN32 f ∧ s.val .speed = toDouble f

/-- A playback state has the values that travel. -/
structure SamePlayState (item s : AVPlaybackState ω) : Prop where
  state : item.val .state = s.val .state
  position : item.val .position = s.val .position
  speed : item.val .speed = s.val .speed
  bufferedTime : item.val .bufferedTime = s.val .bufferedTime
  activeItemId : item.val .activeItemId = s.val .activeItemId
  isFavorite : item.val .isFavorite = s.val .isFavorite
  loopMode : item.val .loopMode = s.val .loopMode

variable {s : AVPlaybackState ω}

/-- An encodable speed survives the single format. -/
theorem toDouble_toSingle (h : Encodable s) :
    toDouble (toSingle (s.val .speed)) = s.val .speed := by
  obtain ⟨f, hnan, hspeed⟩ := h.speed
  rw [hspeed, toSingle_toDouble f hnan]

/-- The playback state of the item with the values that were written. -/
def writtenPlayState (item s : AVPlaybackState ω) : AVPlaybackState ω :=
  ((((((item.set .state (convertStateFromDoubleToSingle (BitVec.ofInt 32
    (convertStateFromSingleToDouble (s.val .state))).toInt)).set .speed
      (toDouble (toSingle (s.val .speed)))).set .position
        ⟨(BitVec.ofInt 64 (s.val .position).elapsedTime).toInt,
          (BitVec.ofInt 64 (s.val .position).updateTime).toInt⟩).set .bufferedTime
            (BitVec.ofInt 64 (s.val .bufferedTime)).toInt).set .activeItemId
              ((BitVec.ofInt 64 (s.val .activeItemId)).setWidth 32).toInt).set .isFavorite
                (s.val .isFavorite)).set .loopMode (BitVec.ofInt 32 (s.val .loopMode)).toInt

/-- The reader reads what the writer wrote, dummies included. -/
theorem readPlayState_of_ahead (hp : ReadsBack p ahead) (item : AVPlaybackState ω) {r : ρ}
    (h : ahead r (playStateValues s)) : readPlayState p item r = writtenPlayState item s := by
  unfold playStateValues at h
  obtain ⟨e1, h⟩ := hp.int32 _ _ _ h
  obtain ⟨e2, h⟩ := hp.int64 _ _ _ h
  obtain ⟨e3, h⟩ := hp.float _ _ _ h
  obtain ⟨e4, h⟩ := hp.int64 _ _ _ h
  obtain ⟨e5, h⟩ := hp.int64 _ _ _ h
  obtain ⟨-, h⟩ := hp.int64 _ _ _ h
  obtain ⟨-, h⟩ := hp.int32 _ _ _ h
  obtain ⟨e8, h⟩ := hp.int64 _ _ _ h
  obtain ⟨-, h⟩ := hp.int32 _ _ _ h
  obtain ⟨-, h⟩ := hp.cString _ _ _ List.not_mem_nil h
  obtain ⟨-, h⟩ := hp.int32 _ _ _ h
  obtain ⟨e12, h⟩ := hp.bool _ _ _ h
  obtain ⟨e13, -⟩ := hp.int32 _ _ _ h
  unfold readPlayState writtenPlayState
  dsimp only
  rw [e1, e2, e3, e4, e5, e8, e12, e13]

/-- The keys that travel are set. -/
theorem mask_writtenPlayState (item s : AVPlaybackState ω) {k : PlaybackKey}
    (hk : k ∈ [.state, .speed, .position, .bufferedTime, .activeItemId, .isFavorite, .loopMode]) :
    (writtenPlayState item s).mask k = true := by
  unfold writtenPlayState
  simp only [MaskedRecord.set_mask]
  fin_cases hk <;> simp

/-- What is written of a state is copied back. -/
theorem copyFrom_written (item s : AVPlaybackState ω) {k : PlaybackKey}
    (hk : k ∈ [.state, .speed, .position, .bufferedTime, .activeItemId, .isFavorite, .loopMode]) :
    (item.copyFrom (writtenPlayState item s)).1.val k = (writtenPlayState item s).val k := by
  rw [AVPlaybackState.copyFrom_val, if_pos (mask_writtenPlayState item s hk)]

/-- What the item has, but for the state, is what was written. -/
theorem samePlayState_iff (item : AVPlaybackState ω) (h : Encodable s) :
    SamePlayState (item.copyFrom (writtenPlayState item s)).1 s ↔
      convertStateFromDoubleToSingle (convertStateFromSingleToDouble (s.val .state)) =
        s.val .state := by
  have hstate : (item.copyFrom (writtenPlayState item s)).1.val .state =
      convertStateFromDoubleToSingle (convertStateFromSingleToDouble (s.val .state)) := by
    rw [copyFrom_written item s (by simp)]
    simp [writtenPlayState, MaskedRecord.set_val_of_ne, toInt_ofInt_32 (fitsIn_convert h.state)]
  refine ⟨fun hsame => hstate.symm.trans hsame.state, fun hconvert => ?_⟩
  refine ⟨hstate.trans hconvert, ?_, ?_, ?_, ?_, ?_, ?_⟩
  · rw [copyFrom_written item s (by simp)]
    simp [writtenPlayState, MaskedRecord.set_val_of_ne, toInt_ofInt_64 h.elapsedTime,
      toInt_ofInt_64 h.updateTime]
  · rw [copyFrom_written item s (by simp)]
    simp [writtenPlayState, MaskedRecord.set_val_of_ne, toDouble_toSingle h]
  · rw [copyFrom_written item s (by simp)]
    simp [writtenPlayState, MaskedRecord.set_val_of_ne, toInt_ofInt_64 h.bufferedTime]
  · rw [copyFrom_written item s (by simp)]
    simp [writtenPlayState, MaskedRecord.set_val_of_ne, toInt_setWidth_ofInt h.activeItemId]
  · rw [copyFrom_written item s (by simp)]
    simp [writtenPlayState, MaskedRecord.set_val_of_ne]
  · rw [copyFrom_written item s (by simp)]
    simp [writtenPlayState, toInt_ofInt_32 h.loopMode]

variable {items : PlaybackStates ω} {message : PlayStateMessage} {item : AVPlaybackState ω}

/-- A message with the text of a playback state is taken. -/
theorem processPlaybackStateForSuper_of_rebuilt (hp : ReadsBack p ahead)
    (hitem : items (SuperProxy.getStringFromJson message.playerId) = some item)
    (hid : SuperProxy.getStringFromJson message.playerId ≠ "")
    (hwrite : p.write (playStateValues s) ≠ none)
    (htext : message.stateEncodeStr = rebuildPlayState p s) :
    processPlaybackStateForSuper p items message =
      (Function.update items (SuperProxy.getStringFromJson message.playerId)
        (some (item.copyFrom (writtenPlayState item s)).1), .success) := by
  obtain ⟨data, hdata⟩ := Option.ne_none_iff_exists'.mp hwrite
  have hrebuilt : rebuildPlayState p s = base64Encode data := by
    unfold rebuildPlayState
    rw [hdata]
  have hne : data ≠ [] := hp.notEmpty _ _ (List.cons_ne_nil _ _) hdata
  have hread : readPlayState p item (p.openBuffer data) = writtenPlayState item s :=
    readPlayState_of_ahead hp item (hp.openBuffer _ _ hdata)
  have hany : (item.copyFrom (writtenPlayState item s)).2 = true :=
    List.any_eq_true.mpr ⟨.state, PlaybackKey.mem_all _, mask_writtenPlayState item s (by simp)⟩
  unfold processPlaybackStateForSuper
  dsimp only
  rw [hitem]
  dsimp only
  rw [if_neg hid, htext, hrebuilt, if_neg (base64Encode_ne_empty hne),
    base64Decode_base64Encode, hread, if_pos hany]

/-- The item of the player has the state, the position, the speed, the buffered time, the active
item id, the favourite flag and the loop mode that were written, iff the state is neither "prepare"
nor "completed". -/
theorem decodes_iff (hp : ReadsBack p ahead) (hs : Encodable s)
    (hitem : items (SuperProxy.getStringFromJson message.playerId) = some item)
    (hid : SuperProxy.getStringFromJson message.playerId ≠ "")
    (hwrite : p.write (playStateValues s) ≠ none)
    (htext : message.stateEncodeStr = rebuildPlayState p s) :
    (∃ item', (processPlaybackStateForSuper p items message).1
        (SuperProxy.getStringFromJson message.playerId) = some item' ∧ SamePlayState item' s) ↔
      s.val .state ≠ playbackStatePrepare ∧ s.val .state ≠ playbackStateCompleted := by
  rw [processPlaybackStateForSuper_of_rebuilt hp hitem hid hwrite htext, ← convert_convert_iff,
    ← samePlayState_iff item hs]
  dsimp only
  rw [Function.update_self]
  constructor
  · rintro ⟨item', hitem', hsame⟩
    rw [Option.some.inj hitem']
    exact hsame
  · exact fun hsame => ⟨_, rfl, hsame⟩

/-- A playback state with a state only. -/
def stateOnly (state : ℤ) : AVPlaybackState Unit := AVPlaybackState.init.set .state state

/-- A state alone can be encoded. -/
theorem encodable_stateOnly {state : ℤ} (h : FitsIn 32 state) : Encodable (stateOnly state) := by
  have hlong : FitsIn 64 0 := ⟨by decide, by decide⟩
  have hint : FitsIn 32 0 := ⟨by decide, by decide⟩
  have hspeed : (0x3FF0000000000000 : BitVec 64) = toDouble 0x3f800000#32 := by decide
  refine ⟨?_, hlong, hlong, hlong, hint, hint, 0x3f800000#32, by decide, hspeed⟩
  rw [stateOnly, MaskedRecord.set_val_self]
  exact h

/-- A message with a text is encoded as that text. -/
theorem stateEncodeStr_of_some (playerId : Option String) (text : String) :
    PlayStateMessage.stateEncodeStr ⟨playerId, some text, none⟩ = text := by
  unfold PlayStateMessage.stateEncodeStr SuperProxy.getStringFromJson
  dsimp only [Option.getD_some, Option.getD_none]
  split_ifs with hempty
  · exact hempty.symm
  · rfl

/-- The message with a playback state. -/
def messageOf (s : AVPlaybackState Unit) : PlayStateMessage :=
  ⟨some "player", some (rebuildPlayState littleEndianParcel s), none⟩

/-- The only session has a new playback state. -/
def newItems : PlaybackStates Unit := fun _ => some AVPlaybackState.init

/-- A session that plays. -/
theorem decodes_play :
    (∃ item', (processPlaybackStateForSuper littleEndianParcel newItems (messageOf (stateOnly 2))).1
        (SuperProxy.getStringFromJson (messageOf (stateOnly 2)).playerId) = some item' ∧
        SamePlayState item' (stateOnly 2)) ↔
      (stateOnly 2).val .state ≠ playbackStatePrepare ∧
        (stateOnly 2).val .state ≠ playbackStateCompleted :=
  decodes_iff readsBack_littleEndianParcel (encodable_stateOnly ⟨by decide, by decide⟩)
    (show newItems _ = some AVPlaybackState.init from rfl) (show "player" ≠ "" by decide)
    (Option.some_ne_none _) (stateEncodeStr_of_some _ _)

/-- A session that is prepared: the item of the player is stopped. -/
theorem prepare_becomes_stop :
    ¬ ∀ s : AVPlaybackState Unit, Encodable s → 0 ≤ s.val .state → s.val .state < 12 →
      ∃ item', (processPlaybackStateForSuper littleEndianParcel newItems (messageOf s)).1 "player" =
          some item' ∧ SamePlayState item' s := by
  intro h
  have hencodable : Encodable (stateOnly 1) := encodable_stateOnly ⟨by decide, by decide⟩
  obtain ⟨item', hitem', hsame⟩ := h (stateOnly 1) hencodable (by decide) (by decide)
  have hprocess := processPlaybackStateForSuper_of_rebuilt (s := stateOnly 1)
    readsBack_littleEndianParcel
    (show newItems (SuperProxy.getStringFromJson (messageOf (stateOnly 1)).playerId) =
      some AVPlaybackState.init from rfl)
    (show "player" ≠ "" by decide) (Option.some_ne_none _) (stateEncodeStr_of_some _ _)
  rw [hprocess] at hitem'
  have hitem : some (AVPlaybackState.copyFrom AVPlaybackState.init
      (writtenPlayState AVPlaybackState.init (stateOnly 1))).1 = some item' := hitem'
  rw [← Option.some.inj hitem] at hsame
  have hconvert := (samePlayState_iff _ hencodable).mp hsame
  exact absurd hconvert (by decide)

end round

end AvSession.Migrate.PlayState
