import AvSession.Remote.Cast

/-!
# What a register promises

A register holds one object, and the sink merges what it finds. So an object must not be overwritten
before it was read, unless the new one covers it, and it must come out of its parcel as it went in.

* `Clean`, `Sendable` — the metadata objects that come out as they went in. `Sendable.received`.
* `MetaSettles`, `StateSettles`, `CommandSettles` — what a register promises to the two sides, and
  that it is kept when something is sent and when something arrives.
-/

namespace AvSession.Remote

open AvSession.Lib AvSession.Meta

variable {ω : Type}

/-! ## What comes out of a parcel -/

section carried

/-- The display tags are in range, and on some keys a member whose bit is not set has its initial
value. -/
structure Clean (sel : MetaKey → Bool) (d : AVMetaData) : Prop where
  tags : 0 ≤ d.val .displayTags ∧ d.val .displayTags ≤ AVMetaData.displayTagAll
  unset : ∀ k, sel k = true → d.mask k = false → d.val k = k.initial

variable {L : Link ω} {sel : MetaKey → Bool} {d m r : AVMetaData}

/-- A fresh object is clean. -/
theorem clean_init : Clean sel .init := ⟨AVMetaData.initial_tags, fun _ _ _ => rfl⟩

/-- Of the objects that can be built, only the filter may be left from before a reset. -/
theorem clean_of_wellFormed (h : d.WellFormed)
    (hfilter : sel .filter = true → d.mask .filter = false →
      d.val .filter = MetaKey.initial .filter) : Clean sel d := by
  refine ⟨h.tags, fun k hsel hk => ?_⟩
  by_cases hkey : k = .filter
  · subst hkey
    exact hfilter hsel hk
  · exact h.unset k hkey hk

/-- What is sent of an object. -/
theorem sentMetaData_mask (k : MetaKey) : (sentMetaData L d).1.mask k =
    (d.mask k && L.getSinkMetaMaskType k) := by
  show (AVMetaData.init.cloneKeys d _).mask k = _
  rw [AVMetaData.cloneKeys_mask]
  exact Bool.false_or _

/-- What is sent is marked and asked for. -/
theorem sentMetaData_val (k : MetaKey) : (sentMetaData L d).1.val k =
    if (d.mask k && L.getSinkMetaMaskType k) = true then d.val k else k.initial :=
  AVMetaData.cloneKeys_val ..

/-- What is not marked has its initial value. -/
theorem unsetInitial_sent (d : AVMetaData) : UnsetInitial (sentMetaData L d).1 := by
  intro k hk
  rw [sentMetaData_mask] at hk
  rw [sentMetaData_val, hk, if_neg Bool.false_ne_true]

/-- What is sent of a clean object is well formed. -/
theorem Clean.wellFormed_sent (h : Clean sel d) : (sentMetaData L d).1.WellFormed where
  tags := by
    rw [sentMetaData_val]
    split_ifs
    · exact h.tags
    · exact AVMetaData.initial_tags
  unset k _ := unsetInitial_sent d k

/-- On the keys of the sink it is the object itself. -/
theorem Clean.sameOn_sent (h : Clean L.getSinkMetaMaskType d) :
    SameOn L.getSinkMetaMaskType d (sentMetaData L d).1 := by
  intro k hk
  rw [sentMetaData_mask, sentMetaData_val, hk, Bool.and_true]
  refine ⟨rfl, ?_⟩
  split_ifs with hset
  · exact SameValue.refl _
  · rw [h.unset k hk (Bool.eq_false_iff.mpr hset)]
    exact SameValue.refl _

/-- Without a member to send, an object has no asset id. -/
theorem Clean.assetId_of_not_sent (h : Clean L.getSinkMetaMaskType d)
    (hasset : L.getSinkMetaMaskType .assetId = true) (hnothing : (sentMetaData L d).2 = false) :
    d.val .assetId = "" := by
  refine h.unset .assetId hasset ?_
  have hkey := List.any_eq_false.mp hnothing .assetId (MetaKey.mem_all _)
  rw [hasset, Bool.and_true] at hkey
  exact Bool.eq_false_iff.mpr hkey

/-- The members are what the object had. -/
theorem sameOn_of_sameContents (h : SameContents m r) : SameOn sel m r := by
  intro k _
  refine ⟨congrFun h.mask.symm k, ?_⟩
  by_cases hk : k.type = .image
  · cases k with
    | mediaImage => exact h.mediaImage.symm
    | avQueueImage => exact h.avQueueImage.symm
    | bundleIcon => exact h.bundleIcon.symm
    | _ => cases hk
  · rw [h.val k hk]
    exact SameValue.refl _

/-! ### The image that is read -/

/-- The members that are read one by one do not include the media image. -/
theorem wireFields_mediaImage {f : FieldCodec AVMetaData} (hf : f ∈ wireFields) (t : Token)
    (h : m.val .mediaImage = none) (hr : f.take t m = some r) : r.val .mediaImage = none := by
  have hkeys : ∀ c : KeyCodec, c.key ≠ .mediaImage → c.field.take t m = some r →
      r.val .mediaImage = none := by
    intro c hc htake
    obtain ⟨v, -, rfl⟩ := Option.map_eq_some_iff.mp htake
    rw [AVMetaData.setVal_val_of_ne _ _ hc.symm]
    exact h
  unfold wireFields at hf
  rcases List.mem_append.mp hf with hf | hf
  · rcases List.mem_append.mp hf with hf | hf
    · obtain ⟨c, hc, rfl⟩ := List.mem_map.mp hf
      have hmem : ∀ k ∈ leadingKeys.map KeyCodec.key, k ≠ MetaKey.mediaImage := by decide
      exact hkeys c (hmem _ (List.mem_map_of_mem hc)) hr
    · unfold lengthFields at hf
      rcases List.mem_cons.mp hf with rfl | hf
      · obtain ⟨v, -, rfl⟩ := Option.map_eq_some_iff.mp hr
        exact h
      · obtain rfl := List.mem_singleton.mp hf
        obtain ⟨v, -, rfl⟩ := Option.map_eq_some_iff.mp hr
        exact h
  · obtain ⟨c, hc, rfl⟩ := List.mem_map.mp hf
    have hmem : ∀ k ∈ trailingKeys.map KeyCodec.key, k ≠ MetaKey.mediaImage := by decide
    exact hkeys c (hmem _ (List.mem_map_of_mem hc)) hr

/-- Reading the schemes leaves the image. -/
theorem readDrmSchemes_mediaImage (m : AVMetaData) (ts : List Token) :
    (m.readDrmSchemes ts).1.1.val .mediaImage = m.val .mediaImage := by
  unfold AVMetaData.readDrmSchemes
  split
  · split_ifs
    · split
      · exact AVMetaData.setVal_val_of_ne _ _ nofun
      · rfl
    · rfl
  · rfl

/-- Before the raw block there is no media image. -/
theorem unmarshallingExceptImg_mediaImage (ts : List Token) :
    (AVMetaData.init.unmarshallingExceptImg ts).1.1.val .mediaImage = none := by
  have hmembers : ∀ mask us (icon : Option (List UInt8)),
      ((readFields wireFields (AVMetaData.init.withMask mask) us).1.1.setVal .bundleIcon icon).val
        .mediaImage = none := by
    intro mask us icon
    have hne : MetaKey.mediaImage ≠ .bundleIcon := nofun
    rw [AVMetaData.setVal_val_of_ne _ _ hne]
    exact readFields_keeps (fun f hf t r r' hr htake => wireFields_mediaImage hf t hr htake)
      (show (AVMetaData.init.withMask mask).val .mediaImage = none from rfl) us
  unfold AVMetaData.unmarshallingExceptImg
  dsimp only
  split_ifs
  · rfl
  · exact hmembers _ _ _
  · exact hmembers _ _ _
  · exact (readDrmSchemes_mediaImage _ _).trans (hmembers _ _ _)

/-- The raw block has as many bytes as were announced, so the image is not empty. -/
theorem readFromParcel_mediaImage {ts : List Token} {n : ℤ} (hnone : m.val .mediaImage = none)
    (h : (m.readFromParcel ts n).1 = some r) : r.val .mediaImage ≠ some [] := by
  unfold AVMetaData.readFromParcel at h
  split at h
  case h_2 => cases h
  case h_1 buffer ts' hread =>
    obtain ⟨t, ht⟩ := exists_of_read hread
    have hlength : (buffer.length : ℤ) = n := by
      unfold Token.asRaw at ht
      split at ht
      case h_1 =>
        split_ifs at ht with hn
        obtain rfl := Option.some.inj ht
        exact hn
      case h_2 => cases ht
    dsimp only at h
    by_cases hrange : 0 ≤ m.mediaLength ∧ m.mediaLength ≤ n
    · rw [if_pos hrange] at h
      have hmedia : (if m.mediaLength > 0 then
          m.setMediaImage (some (buffer.take m.mediaLength.toNat)) else m).val .mediaImage ≠
            some [] := by
        split_ifs with hpos
        · show (m.set .mediaImage _).val .mediaImage ≠ some []
          rw [AVMetaData.set_val_self]
          intro hempty
          have hlen := congrArg List.length (Option.some.inj hempty)
          rw [List.length_take, List.length_nil] at hlen
          omega
        · rw [hnone]
          exact nofun
      revert h hmedia
      generalize (if m.mediaLength > 0 then
        m.setMediaImage (some (buffer.take m.mediaLength.toNat)) else m) = m'
      intro h hmedia
      have hne : MetaKey.mediaImage ≠ .avQueueImage := nofun
      split_ifs at h
      · obtain rfl := Option.some.inj h
        exact hmedia
      · obtain rfl := Option.some.inj h
        show (m'.set .avQueueImage _).val .mediaImage ≠ some []
        rw [AVMetaData.set_val_of_ne _ _ hne]
        exact hmedia
    · rw [if_neg hrange] at h
      cases h

/-- An image that is read is not empty. -/
theorem unmarshalling_mediaImage {ts : List Token}
    (h : (AVMetaData.unmarshalling ts).1 = some r) : r.val .mediaImage ≠ some [] := by
  unfold AVMetaData.unmarshalling at h
  split at h
  case h_2 => cases h
  case h_1 n ts' hread =>
    have hnone := unmarshallingExceptImg_mediaImage ts'
    revert h hnone
    generalize AVMetaData.init.unmarshallingExceptImg ts' = members
    intro h hnone
    dsimp only at h
    split_ifs at h
    unfold AVMetaData.readTagsAndImages at h
    split_ifs at h
    · exact readFromParcel_mediaImage hnone h
    · obtain rfl := Option.some.inj h
      rw [hnone]
      exact nofun

/-! ### What can be sent -/

/-- An object that comes out of the parcel as it went in, and that the other side accepts. -/
structure Sendable (L : Link ω) (m : AVMetaData) : Prop where
  written : (m.marshalling L.parcel).2 = true
  images : ((m.val .mediaImage).getD []).length + ((m.val .avQueueImage).getD []).length ≤
    maxImageSize
  codable : Codable m L.parcel
  fits : L.dataSize (m.marshalling L.parcel).1.2.tokens ≤ RECEIVE_DATA_SIZE_MAX

/-- A sendable object is received with the same members. -/
theorem Sendable.received (h : Sendable L m) (hwf : m.WellFormed) :
    ∃ r, getAVMetaData L (some (m.marshalling L.parcel).1.2.tokens) = some r ∧
      ∀ sel, SameOn sel m r := by
  obtain ⟨r, hread, hcontents⟩ :=
    (roundTrip_iff_codable hwf h.images h.written).mpr h.codable
  obtain ⟨us, -, -, hparcel⟩ := AVMetaData.marshalling_eq h.written
  have hlengths : (m.marshalling L.parcel).1.1 = m.withLengths := by rw [hparcel]
  rw [hlengths] at hcontents
  refine ⟨r, ?_, fun sel => sameOn_of_sameContents (m := m.withLengths) hcontents⟩
  show (if L.dataSize _ ≤ RECEIVE_DATA_SIZE_MAX then _ else none) = some r
  rw [if_pos h.fits]
  exact hread

end carried

/-! ## The register of the metadata -/

section metaData

variable (L : Link ω)

/-- What the sink will find: an object that brings it to where the source is. -/
def MetaLater (v w : View) (ts : List Token) : Prop :=
  ∃ m r, getAVMetaData L (some ts) = some r ∧ (∀ sel, SameOn sel m r) ∧
    UnsetInitial m ∧ (∀ b, r.val .mediaImage = some b → Writable b) ∧
    AgreeOn L.getSinkMetaMaskType v (merge m w)

/-- What the register promises to a source that shows `v` and a sink that shows `w`. -/
def MetaSettles (r : Register (List Token)) (v w : View) : Prop :=
  r.Settles (AgreeOn L.getSinkMetaMaskType v w) (MetaLater L v w)

variable {L} {r : Register (List Token)} {v w : View} {d : AVMetaData}

/-- A sendable object settles the view it is merged into. -/
theorem metaLater_of_sendable (hwf : d.WellFormed) (hunset : UnsetInitial d)
    (hsend : Sendable L d)
    (himage : ∀ b, d.val .mediaImage = some b → b = [] ∨ Writable b)
    (hagree : AgreeOn L.getSinkMetaMaskType v (merge d w)) :
    MetaLater L v w (d.marshalling L.parcel).1.2.tokens := by
  obtain ⟨r, hread, hsame⟩ := hsend.received hwf
  refine ⟨d, r, hread, hsame, hunset, fun b hb => ?_, hagree⟩
  have hne : b ≠ [] := by
    rintro rfl
    unfold getAVMetaData Link.receive at hread
    rw [Option.bind_some, if_pos hsend.fits] at hread
    exact unmarshalling_mediaImage hread hb
  have hbytes : (d.val .mediaImage).getD [] = b := by
    have himages := (hsame (fun _ => true) .mediaImage rfl).2
    rw [hb] at himages
    exact himages
  cases hd : d.val .mediaImage with
  | none =>
      rw [hd] at hbytes
      exact absurd hbytes.symm hne
  | some b' =>
      rw [hd] at hbytes
      obtain rfl : b' = b := hbytes
      exact (himage b' hd).resolve_left hne

/-- **An object is sent.** It must not overwrite one that was not read, unless it covers it. -/
theorem MetaSettles.remoteSetAVMetaData (h : MetaSettles L r v w)
    (hclean : Clean L.getSinkMetaMaskType d)
    (hasset : L.getSinkMetaMaskType .assetId = true)
    (hsend : (sentMetaData L d).2 = true → Sendable L (sentMetaData L d).1)
    (himage : L.getSinkMetaMaskType .mediaImage = true →
      ∀ b, d.val .mediaImage = some b → b = [] ∨ Writable b)
    (hcovers : (sentMetaData L d).2 = true → r.pending ≠ 0 →
      ∀ before, getAVMetaData L r.content = some before → Covers (sentMetaData L d).1 before w) :
    MetaSettles L (remoteSetAVMetaData L r d) (merge d v) w := by
  unfold Remote.remoteSetAVMetaData
  cases hsent : (sentMetaData L d).2 with
  | false =>
      have hview : merge d v = v :=
        funext fun k => if_pos (hclean.assetId_of_not_sent hasset hsent)
      rw [if_neg Bool.false_ne_true, hview]
      exact h
  | true =>
      have hput : putAVMetaData L r (sentMetaData L d).1 =
          r.put ((sentMetaData L d).1.marshalling L.parcel).1.2.tokens :=
        if_pos (hsend hsent).written
      rw [if_pos rfl, hput]
      refine Register.settles_put (metaLater_of_sendable hclean.wellFormed_sent
        (unsetInitial_sent d) (hsend hsent) ?_ ?_)
      · intro b hb
        rw [sentMetaData_val] at hb
        split_ifs at hb with hset
        · exact himage (Bool.and_eq_true_iff.mp hset).2 b hb
        · cases hb
      · rcases h with ⟨-, hagree⟩ | ⟨hbusy, ts, hts, m, before, hread, hsame, hunset, -, hagree⟩
        · exact merge_congr hasset hclean.sameOn_sent hagree
        · obtain ⟨hne, hmask, hcase⟩ := hcovers hsent hbusy before (hts ▸ hread)
          have hfound : ∀ k, m.mask k = before.mask k ∧
              SameValue k.type (m.val k) (before.val k) := fun k => hsame (fun _ => true) k rfl
          have hfoundAsset : m.val .assetId = before.val .assetId := (hfound .assetId).2
          have hcovered : Covers (sentMetaData L d).1 m w :=
            ⟨hne, fun k hk => hmask k ((hfound k).1 ▸ hk), hfoundAsset ▸ hcase⟩
          rw [← merge_covered (unsetInitial_sent d) hunset hcovered]
          exact merge_congr hasset hclean.sameOn_sent hagree

/-- **An object arrives.** The sink merges it into what it shows. -/
theorem MetaSettles.arrive (h : MetaSettles L r v w)
    (hasset : L.getSinkMetaMaskType .assetId = true) {w' : View}
    (hnone : getAVMetaData L r.found = none → w' = w)
    (hfound : ∀ m, getAVMetaData L r.found = some m →
      (∀ b, m.val .mediaImage = some b → Writable b) → w' = merge m w) :
    MetaSettles L r.arrive v w' := by
  refine Register.Settles.arrive h ?_ ?_ ?_
  · intro hquiet hagree
    rw [hnone (by rw [hquiet]; rfl)]
    exact hagree
  · rintro ts hts ⟨m, before, hread, hsame, -, himage, hagree⟩
    rw [hfound before (hts ▸ hread) himage]
    exact hagree.trans (merge_congr hasset (hsame _) fun k _ => SameValue.refl _)
  · rintro ts hts - ⟨m, before, hread, hsame, hunset, himage, hagree⟩
    refine ⟨m, before, hread, hsame, hunset, himage, ?_⟩
    rw [hfound before (hts ▸ hread) himage]
    -- the same object is read twice
    rw [← merge_self m w] at hagree
    refine hagree.trans (merge_congr hasset (fun k _ => ⟨rfl, SameValue.refl _⟩) ?_)
    exact merge_congr hasset (hsame _) fun k _ => SameValue.refl _

end metaData

/-! ## The register of the playback state -/

section playback

variable (L : Link ω)

/-- The states agree on what the sink takes. -/
def StateAgrees (v w : AVPlaybackState ω) : Prop :=
  ∀ k, L.getSinkPlaybackStateMaskType k = true → v.val k = w.val k

/-- What the sink will find: a state that brings it to where the source is. -/
def StateLater (v w : AVPlaybackState ω) (ts : List Token) : Prop :=
  ∃ m, getAVPlaybackState L (some ts) = some m ∧
    StateAgrees L v (AVPlaybackState.copyFrom w m).1

/-- What the register promises to the states of the source and of the sink. -/
def StateSettles (r : Register (List Token)) (v w : AVPlaybackState ω) : Prop :=
  r.Settles (StateAgrees L v w) (StateLater L v w)

/-- A state that comes out of the parcel as it went in, and that the other side accepts. -/
structure StateSendable (m : AVPlaybackState ω) : Prop where
  range : 0 ≤ m.val .state ∧ m.val .state < PLAYBACK_STATE_MAX
  written : (AVPlaybackState.marshalling L.params m L.parcel).2 = true
  fits : L.dataSize (AVPlaybackState.tokens L.params m) ≤ RECEIVE_DATA_SIZE_MAX

variable {L} {r : Register (List Token)} {v v' w w' state : AVPlaybackState ω}

/-- What is sent of a state is marked and asked for. -/
theorem sentPlaybackState_mask (k : PlaybackKey) : (sentPlaybackState L state).1.mask k =
    (state.mask k && L.getSinkPlaybackStateMaskType k) :=
  (AVPlaybackState.copyToByMask_mask ..).trans (Bool.false_or _)

/-- The values of what is sent of a state. -/
theorem sentPlaybackState_val (k : PlaybackKey) : (sentPlaybackState L state).1.val k =
    if (state.mask k && L.getSinkPlaybackStateMaskType k) = true then state.val k
    else PlaybackKey.initial k :=
  AVPlaybackState.copyToByMask_val ..

/-- Extras are never sent. -/
theorem sentPlaybackState_extras : (sentPlaybackState L state).1.val .extras = none := by
  rw [sentPlaybackState_val]
  refine if_neg fun hsent => ?_
  exact nomatch (Bool.and_eq_true_iff.mp (Bool.and_eq_true_iff.mp hsent).2).1

/-- A sendable state is put on the link. -/
theorem StateSendable.put_eq (h : StateSendable L state) :
    putAVPlaybackState L r state = r.put (AVPlaybackState.tokens L.params state) := by
  refine (if_pos h.written).trans ?_
  have hwritten : AVPlaybackState.marshalling L.params state L.parcel =
      (L.parcel.push (AVPlaybackState.tokens L.params state), true) :=
    Parcel.writeAll_of_true h.written
  rw [hwritten]
  rfl

/-- A sendable state is received. -/
theorem StateSendable.received (h : StateSendable L state) (hextras : state.val .extras = none) :
    getAVPlaybackState L (some (AVPlaybackState.tokens L.params state)) = some state := by
  unfold getAVPlaybackState Link.receive
  rw [Option.bind_some, if_pos h.fits]
  exact AVPlaybackState.unmarshalling_tokens L.params state h.range hextras

/-- **A state is sent.** It must not overwrite one that was not read, unless it has all its
members. -/
theorem StateSettles.remoteSetAVPlaybackState (h : StateSettles L r v w)
    (hv : ∀ k, v'.val k = (AVPlaybackState.copyFrom v state).1.val k)
    (hsend : (sentPlaybackState L state).2 = true →
      StateSendable L (sentPlaybackState L state).1)
    (hcovers : (sentPlaybackState L state).2 = true → r.pending ≠ 0 →
      ∀ before, getAVPlaybackState L r.content = some before →
        ∀ k, before.mask k = true → (sentPlaybackState L state).1.mask k = true) :
    StateSettles L (remoteSetAVPlaybackState L r state) v' w := by
  unfold Remote.remoteSetAVPlaybackState
  cases hsent : (sentPlaybackState L state).2 with
  | false =>
      have hkeep : StateAgrees L v' v := by
        intro k hk
        have hkey := List.any_eq_false.mp hsent k (PlaybackKey.mem_all k)
        rw [hk, Bool.and_true] at hkey
        rw [hv, AVPlaybackState.copyFrom_val, if_neg hkey]
      rw [if_neg Bool.false_ne_true]
      refine Register.Settles.mono h (fun hagree k hk => (hkeep k hk).trans (hagree k hk)) ?_
      rintro ts - ⟨m, hread, hagree⟩
      exact ⟨m, hread, fun k hk => (hkeep k hk).trans (hagree k hk)⟩
  | true =>
      have hmask : ∀ k, L.getSinkPlaybackStateMaskType k = true →
          (sentPlaybackState L state).1.mask k = state.mask k := by
        intro k hk
        rw [sentPlaybackState_mask, hk, Bool.and_true]
      rw [if_pos rfl, (hsend hsent).put_eq]
      refine Register.settles_put ⟨_, (hsend hsent).received sentPlaybackState_extras, ?_⟩
      intro k hk
      rw [hv, AVPlaybackState.copyFrom_val, AVPlaybackState.copyFrom_val, hmask k hk]
      by_cases hset : state.mask k = true
      · rw [if_pos hset, if_pos hset, sentPlaybackState_val, hset, hk]
        rfl
      · rw [if_neg hset, if_neg hset]
        rcases h with ⟨-, hagree⟩ | ⟨hbusy, ts, hts, before, hread, hagree⟩
        · exact hagree k hk
        · have hunset : before.mask k ≠ true := fun hbefore => by
            have hcovered := hcovers hsent hbusy before (hts ▸ hread) k hbefore
            rw [hmask k hk] at hcovered
            exact hset hcovered
          rw [hagree k hk, AVPlaybackState.copyFrom_val, if_neg hunset]

/-- **A state arrives.** -/
theorem StateSettles.arrive (h : StateSettles L r v w)
    (hnone : getAVPlaybackState L r.found = none → w' = w)
    (hfound : ∀ m, getAVPlaybackState L r.found = some m →
      ∀ k, w'.val k = (AVPlaybackState.copyFrom w m).1.val k) :
    StateSettles L r.arrive v w' := by
  refine Register.Settles.arrive h ?_ ?_ ?_
  · intro hquiet hagree
    rw [hnone (by rw [hquiet]; rfl)]
    exact hagree
  · rintro ts hts ⟨m, hread, hagree⟩ k hk
    rw [hfound m (hts ▸ hread)]
    exact hagree k hk
  · rintro ts hts - ⟨m, hread, hagree⟩
    refine ⟨m, hread, fun k hk => ?_⟩
    -- the same state is read twice
    rw [hagree k hk, AVPlaybackState.copyFrom_val, AVPlaybackState.copyFrom_val,
      hfound m (hts ▸ hread), AVPlaybackState.copyFrom_val]
    split_ifs <;> rfl

end playback

/-! ## The register of the commands -/

section commands

variable (L : Link ω)

/-- What the source will find: the only command that it has not executed. -/
def CommandLater (issued executed : List AVControlCommand) (ts : List Token) : Prop :=
  ∃ c, getControlCommand L (some ts) = some c ∧ executed ++ [c] = issued

/-- What the register promises to the commands that were put and those that were executed. -/
structure CommandSettles (r : Register (List Token)) (issued executed : List AVControlCommand) :
    Prop where
  settles : r.Settles (executed = issued) (CommandLater L issued executed)
  pending : r.pending ≤ 1

/-- A command that was read from a parcel once, and that the other side accepts. -/
structure CommandSendable (c : AVControlCommand) : Prop where
  decoded : ∃ ts, AVControlCommand.unmarshalling ts = some c
  written : (c.marshalling L.parcel).2 = true
  fits : L.dataSize (c.marshalling L.parcel).1.tokens ≤ RECEIVE_DATA_SIZE_MAX

variable {L} {r : Register (List Token)} {issued executed : List AVControlCommand}
  {c : AVControlCommand}

/-- A sendable command is received. -/
theorem CommandSendable.received (h : CommandSendable L c) :
    getControlCommand L (some (c.marshalling L.parcel).1.tokens) = some c := by
  obtain ⟨ts, hts⟩ := h.decoded
  obtain ⟨us, hus, hback⟩ := AVControlCommand.unmarshalling_bodyTokens hts
  have hfits := h.fits
  have hwritten := h.written
  unfold AVControlCommand.marshalling at hfits hwritten ⊢
  rw [hus] at hfits hwritten ⊢
  dsimp only at hfits hwritten ⊢
  rw [Parcel.writeAll_of_true hwritten] at hfits ⊢
  unfold getControlCommand Link.receive
  rw [Option.bind_some, if_pos hfits]
  exact hback

/-- **A command is put.** It must not overwrite one that was not read. -/
theorem CommandSettles.putControlCommand (h : CommandSettles L r issued executed)
    (hsend : CommandSendable L c) (hquiet : r.pending = 0) :
    CommandSettles L (putControlCommand L r c) (issued ++ [c]) executed := by
  have hput : Remote.putControlCommand L r c = r.put (c.marshalling L.parcel).1.tokens :=
    if_pos hsend.written
  rw [hput]
  refine ⟨Register.settles_put ⟨c, hsend.received, ?_⟩, Register.put_pending_le hquiet _⟩
  rw [h.settles.quiet hquiet]

/-- **A command arrives.** -/
theorem CommandSettles.arrive (h : CommandSettles L r issued executed) :
    CommandSettles L r.arrive issued
      (match getControlCommand L r.found with
        | some c => executed ++ [c]
        | none => executed) := by
  refine ⟨Register.Settles.arrive h.settles ?_ ?_ ?_, Register.arrive_pending_le h.pending⟩
  · intro hquiet hexecuted
    rw [hquiet]
    exact hexecuted
  · rintro ts hts ⟨c, hread, hissued⟩
    rw [hts, hread]
    exact hissued
  · intro ts hts htwo
    exact absurd htwo (Nat.not_le.mpr (Nat.lt_succ_of_le h.pending))

/-- The commands are executed in order. -/
theorem CommandSettles.ordered (h : CommandSettles L r issued executed) :
    executed <+: issued := by
  rcases h.settles with ⟨-, hexecuted⟩ | ⟨-, ts, -, c, -, hissued⟩
  · rw [hexecuted]
  · exact ⟨[c], hissued⟩

end commands

end AvSession.Remote
