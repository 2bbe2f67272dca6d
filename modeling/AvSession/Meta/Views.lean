import AvSession.Meta.Delivery

/-!
# What a controller ends up with

A client starts from empty objects and folds every object its controller is given with `copyFrom`.

* `metaView`, `playbackView` — the client's objects; `drain` — all posted deliveries run.
* `Converged` — once the deliveries have run, client and session agree on the selected fields.
* `pendingView` — the view that the posted deliveries will lead to. `metaView_drain` says that they
  do, whatever the images hold when they run.
* `agrees_setAVMetaData_iff` — one call keeps the agreement exactly under `MetaCallOk`;
  `agrees_setAVPlaybackState` — a playback call always does.
* `converged_iff` — runs.
-/

namespace AvSession.Meta

open AvSession.Lib

variable {ω : Type} {c : Controller}

/-! ## The client -/

section client

/-- The client of a controller takes an object. -/
def applyEvent (c : Controller) (view : AVMetaData) (e : MetaEvent) : AVMetaData :=
  if e.controller.pid = c.pid then (view.copyFrom e.metaOut).1 else view

/-- The metadata of the client of a controller. -/
def metaView (c : Controller) (s : ItemState ω) : AVMetaData :=
  s.metaEvents.foldl (applyEvent c) .init

/-- The playback state of the client of a controller. -/
def playbackView (c : Controller) (s : ItemState ω) : AVPlaybackState ω :=
  s.playbackEvents.foldl
    (fun view e => if e.controller.pid = c.pid then (view.copyFrom e.stateOut).1 else view) .init

variable [DecidableEq ω]

/-- All posted deliveries run. -/
def drain (s : ItemState ω) : ItemState ω :=
  run step s (List.replicate s.tasks.length (.runTask []))

/-- Two values of a key are identical, or the comparison of the session finds no change. -/
abbrev SameField {k : MetaKey} (a b : k.Field) : Prop := Same (fun k => k.type.changed) a b

/-- Agreement on every selected field, images excepted. -/
def AgreesMeta (c : Controller) (view stored : AVMetaData) : Prop :=
  ∀ k, c.metaMask k = true → k.type ≠ .image → SameField (view.val k) (stored.val k)

/-- Agreement on every selected field of the playback state. -/
def AgreesPlayback (c : Controller) (view stored : AVPlaybackState ω) : Prop :=
  ∀ k, c.playbackMask k = true → Same (fun k => k.changed) (view.val k) (stored.val k)

/-- Once the posted deliveries have run, client and session agree. -/
def Converged (c : Controller) (s : ItemState ω) : Prop :=
  AgreesMeta c (metaView c (drain s)) (drain s).metaData ∧
    AgreesPlayback c (playbackView c (drain s)) (drain s).playbackState

end client

/-! ## Objects that differ in their images only -/

section sameMembers

/-- The same mask and the same members, images excepted. -/
structure SameMembers (m m' : AVMetaData) : Prop where
  mask : m.mask = m'.mask
  val : ∀ k, k.type ≠ .image → m.val k = m'.val k

variable {m m' m'' v v' : AVMetaData}

/-- An object has its own members. -/
theorem SameMembers.refl (m : AVMetaData) : SameMembers m m := ⟨rfl, fun _ _ => rfl⟩

/-- Equal members stay equal through a third object. -/
theorem SameMembers.trans (h : SameMembers m m') (h' : SameMembers m' m'') : SameMembers m m'' :=
  ⟨h.mask.trans h'.mask, fun k hk => (h.val k hk).trans (h'.val k hk)⟩

/-- Equal members have the same asset id. -/
theorem SameMembers.assetId (h : SameMembers m m') : m.val .assetId = m'.val .assetId :=
  h.val .assetId (by decide)

/-- Copies do not look at images. -/
theorem SameMembers.copyFrom (hv : SameMembers v v') (hm : SameMembers m m') :
    SameMembers (v.copyFrom m).1 (v'.copyFrom m').1 where
  mask := by
    unfold AVMetaData.copyFrom
    rw [hm.assetId, hv.assetId]
    split_ifs
    · exact hv.mask
    · exact hm.mask
    · funext k
      rw [AVMetaData.cloneKeys_mask, AVMetaData.cloneKeys_mask, hv.mask, hm.mask]
  val k hk := by
    rw [AVMetaData.copyFrom_val, AVMetaData.copyFrom_val, hm.assetId, hv.assetId, hm.mask,
      hm.val k hk, hv.val k hk]

/-- Two deliveries of the same object differ in their images only. -/
theorem DeliveredAs.sameMembers {data : AVMetaData} {sent : MetaKey → Bool}
    {shown shown' : List UInt8} (h : DeliveredAs c data sent shown m)
    (h' : DeliveredAs c data sent shown' m') : SameMembers m m' where
  mask := by
    funext k
    rw [h.mask, h'.mask]
  val k hk := by
    by_cases hasset : k = .assetId
    · subst hasset
      rw [h.assetId, h'.assetId]
    · by_cases huri : k = .mediaImageUri
      · subst huri
        rw [h.mediaImageUri, h'.mediaImageUri]
      · rw [h.val k hk hasset huri, h'.val k hk hasset huri]

end sameMembers

/-! ## The view that the posted deliveries lead to -/

section pending

/-- A posted delivery, with empty images. -/
def applyTask (c : Controller) (view : AVMetaData) (t : MetaTask) : AVMetaData :=
  if t.controller.pid = c.pid then
    match handleMetaDataChange t.controller t.data t.changedDataMask none [] [] with
    | some metaOut => (view.copyFrom metaOut).1
    | none => view
  else view

/-- The view once the posted deliveries have run. -/
def pendingView (c : Controller) (s : ItemState ω) : AVMetaData :=
  s.tasks.foldl (applyTask c) (metaView c s)

/-- A task treats equal views alike. -/
theorem SameMembers.applyTask {v v' : AVMetaData} (h : SameMembers v v') (t : MetaTask) :
    SameMembers (applyTask c v t) (applyTask c v' t) := by
  unfold Meta.applyTask
  split_ifs
  · split
    · exact h.copyFrom (.refl _)
    · exact h
  · exact h

/-- So do many tasks. -/
theorem SameMembers.foldl_applyTask {v v' : AVMetaData} (h : SameMembers v v')
    (tasks : List MetaTask) :
    SameMembers (tasks.foldl (Meta.applyTask c) v) (tasks.foldl (Meta.applyTask c) v') := by
  induction tasks generalizing v v' with
  | nil => exact h
  | cons t tasks ih => exact ih (h.applyTask t)

/-- Running a delivery does not change what is pending in the end. -/
theorem pendingView_runTask (s : ItemState ω) (queueImage : List UInt8) :
    SameMembers (pendingView c (runTask s queueImage)) (pendingView c s) := by
  unfold runTask
  cases htasks : s.tasks with
  | nil => exact .refl _
  | cons t tasks =>
      unfold pendingView
      rw [htasks, List.foldl_cons]
      dsimp only
      split
      case h_1 metaOut hout =>
        obtain ⟨metaOut', hout'⟩ : ∃ metaOut', handleMetaDataChange t.controller t.data
            t.changedDataMask none [] [] = some metaOut' := by
          rw [← Option.ne_none_iff_exists', Ne, handleMetaDataChange_eq_none_iff,
            ← handleMetaDataChange_eq_none_iff, hout]
          exact Option.some_ne_none _
        refine SameMembers.foldl_applyTask ?_ tasks
        unfold metaView applyTask
        dsimp only
        rw [List.foldl_append, hout']
        show SameMembers (applyEvent c _ _) _
        unfold applyEvent
        split_ifs
        · exact (SameMembers.refl _).copyFrom
            ((deliveredAs_of_handleMetaDataChange hout).sameMembers
              (deliveredAs_of_handleMetaDataChange hout'))
        · exact .refl _
      case h_2 hout =>
        have hout' : handleMetaDataChange t.controller t.data t.changedDataMask none [] [] =
            none := by
          rw [handleMetaDataChange_eq_none_iff, ← handleMetaDataChange_eq_none_iff, hout]
        refine SameMembers.foldl_applyTask ?_ tasks
        unfold applyTask
        rw [hout', ite_self]
        exact .refl _

variable [DecidableEq ω]

/-- Running the posted tasks gives the view that was pending. -/
theorem run_runTask (n : ℕ) (s : ItemState ω) (hn : s.tasks.length ≤ n) :
    SameMembers (metaView c (run step s (List.replicate n (.runTask [])))) (pendingView c s) := by
  induction n generalizing s with
  | zero =>
      have hnil : s.tasks = [] := List.length_eq_zero_iff.mp (Nat.le_zero.mp hn)
      unfold pendingView
      rw [hnil]
      exact .refl _
  | succ n ih =>
      rw [List.replicate_succ, run_cons]
      refine (ih (runTask s []) ?_).trans (pendingView_runTask s [])
      rw [(runTask_frame s []).2.2.2.2.2.2, List.length_tail]
      omega

/-- **Once the deliveries have run, the view is the pending one**, images excepted. -/
theorem metaView_drain (c : Controller) (s : ItemState ω) :
    SameMembers (metaView c (drain s)) (pendingView c s) :=
  run_runTask _ s le_rfl

/-- Deliveries do not touch the session. -/
theorem frame_drain (s : ItemState ω) : (drain s).metaData = s.metaData ∧
    (drain s).playbackState = s.playbackState ∧ (drain s).playbackEvents = s.playbackEvents := by
  unfold drain
  generalize s.tasks.length = n
  induction n generalizing s with
  | zero => exact ⟨rfl, rfl, rfl⟩
  | succ n ih =>
      rw [List.replicate_succ, run_cons]
      obtain ⟨-, hmeta, hplayback, -, -, hevents, -⟩ := runTask_frame s []
      obtain ⟨ihMeta, ihPlayback, ihEvents⟩ := ih (runTask s [])
      exact ⟨ihMeta.trans hmeta, ihPlayback.trans hplayback, ihEvents.trans hevents⟩

/-- Equal views agree with the same data. -/
theorem SameMembers.agreesMeta_iff {v v' m : AVMetaData} (h : SameMembers v v') :
    AgreesMeta c v m ↔ AgreesMeta c v' m := by
  have himp : ∀ {v v' : AVMetaData}, SameMembers v v' → AgreesMeta c v m → AgreesMeta c v' m := by
    intro v v' h hagrees k hk himage
    rw [← h.val k himage]
    exact hagrees k hk himage
  exact ⟨himp h, himp ⟨h.mask.symm, fun k hk => (h.val k hk).symm⟩⟩

/-- A controller converges when its pending view agrees. -/
theorem converged_iff_pending (c : Controller) (s : ItemState ω) :
    Converged c s ↔ AgreesMeta c (pendingView c s) s.metaData ∧
      AgreesPlayback c (playbackView c s) s.playbackState := by
  obtain ⟨hmeta, hplayback, hevents⟩ := frame_drain s
  have hview : playbackView c (drain s) = playbackView c s := by
    unfold playbackView
    rw [hevents]
  unfold Converged
  rw [hmeta, hplayback, hview, (metaView_drain c s).agreesMeta_iff]

end pending

/-! ## One call -/

section call

/-- A fold over controllers that looks at one process id only. -/
theorem foldl_of_pid {β : Type} {f : β → Controller → β} {controllers : List Controller}
    (hpids : (controllers.map Controller.pid).Nodup) (hc : c ∈ controllers)
    (hf : ∀ b d, d.pid ≠ c.pid → f b d = b) (b : β) : controllers.foldl f b = f b c := by
  have hskip : ∀ (ds : List Controller) (b : β), (∀ d ∈ ds, d.pid ≠ c.pid) →
      ds.foldl f b = b := by
    intro ds
    induction ds with
    | nil => intro b _; rfl
    | cons d ds ih =>
        intro b hds
        rw [List.foldl_cons, hf b d (hds d List.mem_cons_self)]
        exact ih b fun d' hd' => hds d' (List.mem_cons_of_mem _ hd')
  obtain ⟨before, after, rfl⟩ := List.append_of_mem hc
  rw [List.map_append, List.map_cons, List.nodup_append] at hpids
  obtain ⟨-, hafter, hdisjoint⟩ := hpids
  rw [List.foldl_append, List.foldl_cons, hskip before, hskip after]
  · intro d hd heq
    exact (List.nodup_cons.mp hafter).1 (heq ▸ List.mem_map_of_mem hd)
  · intro d hd heq
    exact hdisjoint d.pid (List.mem_map_of_mem hd) c.pid List.mem_cons_self heq

/-- A call leads to one more object for the client. -/
theorem pendingView_setAVMetaData {s : ItemState ω} (newData : AVMetaData) (queueImage : List UInt8)
    (hpids : (s.controllers.map Controller.pid).Nodup) (hc : c ∈ s.controllers) :
    pendingView c (setAVMetaData s newData queueImage) =
      applyTask c (pendingView c s)
        ⟨s.calls.length, newData, changedDataMask s newData queueImage, c⟩ := by
  have hview : metaView c (setAVMetaData s newData queueImage) = metaView c s := by
    unfold metaView
    rw [setAVMetaData_metaEvents]
  unfold pendingView
  rw [setAVMetaData_tasks, List.foldl_append, hview, List.foldl_map]
  exact foldl_of_pid hpids hc (fun view d hd => if_neg hd) _

/-- Every partial filter is in the filter that is compared. -/
theorem recordFilter_of_mem {controllers : List Controller} (hc : c ∈ controllers)
    (hnotAll : c.metaAll = false) {k : MetaKey} (hk : c.metaMask k = true) :
    recordFilter controllers k = true :=
  List.any_eq_true.mpr ⟨c, hc, by rw [hnotAll, hk]; rfl⟩

/-- A member that is set and selected, but not sent, has not changed. -/
theorem unchanged_of_not_sent {s : ItemState ω} {newData : AVMetaData} {queueImage : List UInt8}
    (hc : c ∈ s.controllers) {k : MetaKey} (hk : c.metaMask k = true) (himage : k.type ≠ .image)
    (hset : newData.mask k = true)
    (hsent : sentKeys c newData (changedDataMask s newData queueImage) k = false) :
    k.type.changed (s.metaData.val k) (newData.val k) = false := by
  unfold sentKeys validMetaMask at hsent
  rw [hset, Bool.true_and] at hsent
  split_ifs at hsent with hall
  · rw [hk] at hsent
    cases hsent
  · have hrecord := recordFilter_of_mem hc (Bool.eq_false_iff.mpr hall) hk
    have hany : MetaKey.all.any (recordFilter s.controllers) = true :=
      List.any_eq_true.mpr ⟨k, MetaKey.mem_all k, hrecord⟩
    change (changedDataMask s newData queueImage k && c.metaMask k) = false at hsent
    rw [hk, Bool.and_true] at hsent
    unfold changedDataMask at hsent
    rw [if_pos hany] at hsent
    unfold AVMetaData.getChangedDataMask at hsent
    rw [hrecord, Bool.true_and, comparedData_val s newData queueImage himage] at hsent
    exact hsent

/-- What is sent is set by the caller and asked for by the controller. -/
theorem selected_of_sent {newData : AVMetaData} {changedDataMask : MetaKey → Bool} {k : MetaKey}
    (h : sentKeys c newData changedDataMask k = true) :
    newData.mask k = true ∧ c.metaMask k = true := by
  unfold sentKeys validMetaMask at h
  rw [Bool.and_eq_true] at h
  refine ⟨h.1, ?_⟩
  have hvalid := h.2
  split_ifs at hvalid
  · exact hvalid
  · exact (Bool.and_eq_true_iff.mp hvalid).2

/-- What the session stores of a call with an asset id, images excepted. -/
def storedAfter (stored newData : AVMetaData) (k : MetaKey) : k.Field :=
  if newData.val .assetId ≠ stored.val .assetId ∨ newData.mask k = true then newData.val k
  else stored.val k

/-- The condition on a call, for the client's view once the earlier deliveries have run. An image
and a URI are not both sent to another process. If something is sent and the client has another
asset, what is selected and not sent has its initial value in the session. Otherwise, if the session
has another asset, the client has the call's values of what is selected and not set. -/
def MetaCallOk (c : Controller) (s : ItemState ω) (view newData : AVMetaData)
    (queueImage : List UInt8) : Prop :=
  let sent := sentKeys c newData (changedDataMask s newData queueImage)
  newData.val .assetId ≠ "" →
    ¬ (ImageWithUri newData sent ∧ c.isFromSession = false) ∧
    ((∃ k, sent k = true) ∧ newData.val .assetId ≠ view.val .assetId →
      ∀ k, c.metaMask k = true → k.type ≠ .image → k ≠ .assetId → sent k = false →
        SameField k.initial (storedAfter s.metaData newData k)) ∧
    (¬ ((∃ k, sent k = true) ∧ newData.val .assetId ≠ view.val .assetId) →
      newData.val .assetId ≠ s.metaData.val .assetId →
      ∀ k, c.metaMask k = true → k.type ≠ .image → newData.mask k = false →
        SameField (view.val k) (newData.val k))

variable {s : ItemState ω} {view newData : AVMetaData} {queueImage : List UInt8}

/-- The same field, left unchanged, is the same. -/
theorem SameField.trans_unchanged {k : MetaKey} {a b d : k.Field} (hab : SameField a b)
    (hbd : k.type.changed b d = false) : SameField a d :=
  Same.trans_unchanged FieldType.changed_trans hab hbd

/-- What the client keeps is what the session stores. -/
theorem sameField_of_not_sent (hc : c ∈ s.controllers) (hview : AgreesMeta c view s.metaData)
    {k : MetaKey} (hk : c.metaMask k = true) (himage : k.type ≠ .image)
    (hsent : sentKeys c newData (changedDataMask s newData queueImage) k = false)
    (hunset : newData.val .assetId ≠ s.metaData.val .assetId → newData.mask k = false →
      SameField (view.val k) (newData.val k)) :
    SameField (view.val k) (storedAfter s.metaData newData k) := by
  unfold storedAfter
  by_cases hset : newData.mask k = true
  · rw [if_pos (.inr hset)]
    exact (hview k hk himage).trans_unchanged (unchanged_of_not_sent hc hk himage hset hsent)
  · by_cases hasset : newData.val .assetId ≠ s.metaData.val .assetId
    · rw [if_pos (.inl hasset)]
      exact hunset hasset (Bool.eq_false_iff.mpr hset)
    · rw [if_neg fun h => h.elim hasset hset]
      exact hview k hk himage

/-- The asset id is stored in any case. -/
theorem storedAfter_assetId (stored newData : AVMetaData) :
    storedAfter stored newData .assetId = newData.val .assetId := by
  unfold storedAfter
  split_ifs with h
  · rfl
  · exact (not_not.mp fun hne => h (.inl hne)).symm

/-- A field that is set is stored. -/
theorem storedAfter_of_set (stored : AVMetaData) {k : MetaKey} (h : newData.mask k = true) :
    storedAfter stored newData k = newData.val k :=
  if_pos (.inr h)

/-- Unless the URI is dropped, the delivered members are the sent ones. -/
theorem DeliveredAs.val_of_not_dropped {data metaOut : AVMetaData} {sent : MetaKey → Bool}
    {shown : List UInt8} (h : DeliveredAs c data sent shown metaOut)
    (hkept : ¬ (ImageWithUri data sent ∧ c.isFromSession = false)) {k : MetaKey}
    (himage : k.type ≠ .image) (hasset : k ≠ .assetId) :
    metaOut.val k = if sent k = true then data.val k else k.initial := by
  by_cases huri : k = .mediaImageUri
  · subst huri
    rw [h.mediaImageUri, if_neg hkept]
    rfl
  · exact h.val k himage hasset huri

section delivered

variable {data metaOut : AVMetaData} {sent : MetaKey → Bool} {shown : List UInt8} {k : MetaKey}

/-- The client takes what is delivered for another asset as a whole, and merges it otherwise. -/
theorem DeliveredAs.copyFrom_val (h : DeliveredAs c data sent shown metaOut)
    (hasset : data.val .assetId ≠ "") (view : AVMetaData) (k : MetaKey) :
    (view.copyFrom metaOut).1.val k =
      if data.val .assetId ≠ view.val .assetId ∨ metaOut.mask k = true then metaOut.val k
      else view.val k := by
  rw [AVMetaData.copyFrom_val, h.assetId, if_neg hasset]

/-- A delivery brings the asset id along. -/
theorem DeliveredAs.copyFrom_assetId (h : DeliveredAs c data sent shown metaOut)
    (hasset : data.val .assetId ≠ "") (view : AVMetaData) :
    (view.copyFrom metaOut).1.val .assetId = data.val .assetId := by
  have hmask : metaOut.mask .assetId = true := by
    rw [h.mask, decide_eq_true rfl, Bool.or_true]
  rw [h.copyFrom_val hasset, if_pos (.inr hmask), h.assetId]

/-- What is sent arrives. -/
theorem DeliveredAs.copyFrom_sent (h : DeliveredAs c data sent shown metaOut)
    (hasset : data.val .assetId ≠ "")
    (hkept : ¬ (ImageWithUri data sent ∧ c.isFromSession = false)) (view : AVMetaData)
    (himage : k.type ≠ .image) (hk : k ≠ .assetId) (hsent : sent k = true) :
    (view.copyFrom metaOut).1.val k = data.val k := by
  have hmask : metaOut.mask k = true := by rw [h.mask, hsent, Bool.true_or]
  rw [h.copyFrom_val hasset, if_pos (.inr hmask), h.val_of_not_dropped hkept himage hk,
    if_pos hsent]

/-- What is not sent has its initial value for another asset. -/
theorem DeliveredAs.copyFrom_unsent (h : DeliveredAs c data sent shown metaOut)
    (hasset : data.val .assetId ≠ "")
    (hkept : ¬ (ImageWithUri data sent ∧ c.isFromSession = false)) {view : AVMetaData}
    (hother : data.val .assetId ≠ view.val .assetId) (himage : k.type ≠ .image)
    (hk : k ≠ .assetId) (hunsent : sent k = false) :
    (view.copyFrom metaOut).1.val k = k.initial := by
  rw [h.copyFrom_val hasset, if_pos (.inl hother), h.val_of_not_dropped hkept himage hk, hunsent,
    if_neg Bool.false_ne_true]

/-- What is not sent is kept for the same asset. -/
theorem DeliveredAs.copyFrom_merged (h : DeliveredAs c data sent shown metaOut)
    (hasset : data.val .assetId ≠ "") {view : AVMetaData}
    (hsame : ¬ data.val .assetId ≠ view.val .assetId) (hk : k ≠ .assetId)
    (hunsent : sent k = false) : (view.copyFrom metaOut).1.val k = view.val k := by
  have hmask : metaOut.mask k = false := by
    rw [h.mask, hunsent, decide_eq_false hk]
    rfl
  rw [h.copyFrom_val hasset, hmask, if_neg fun htaken => htaken.elim hsame Bool.false_ne_true]

end delivered

/-- Nothing is sent: the client keeps what it has. -/
theorem agrees_none_iff (hc : c ∈ s.controllers) (hview : AgreesMeta c view s.metaData)
    (hasset : newData.val .assetId ≠ "")
    (hnone : ∀ k, sentKeys c newData (changedDataMask s newData queueImage) k = false) :
    (∀ k, c.metaMask k = true → k.type ≠ .image →
      SameField (view.val k) (storedAfter s.metaData newData k)) ↔
      MetaCallOk c s view newData queueImage := by
  have hnothing : ¬ ∃ k, sentKeys c newData (changedDataMask s newData queueImage) k = true := by
    rintro ⟨k, hk⟩
    rw [hnone k] at hk
    cases hk
  constructor
  · intro hagrees _
    refine ⟨fun hdrop => hnothing ⟨_, hdrop.1.1⟩, fun hsent => absurd hsent.1 hnothing, ?_⟩
    intro _ hchange k hk himage _
    have hsame := hagrees k hk himage
    rwa [storedAfter, if_pos (.inl hchange)] at hsame
  · intro hok k hk himage
    obtain ⟨-, -, hkeep⟩ := hok hasset
    exact sameField_of_not_sent hc hview hk himage (hnone k) fun hchange hunset =>
      hkeep (fun h => hnothing h.1) hchange k hk himage hunset

/-- A dropped URI is never the stored one. -/
theorem uri_lost {metaOut : AVMetaData} {shown : List UInt8}
    (h : DeliveredAs c newData (sentKeys c newData (changedDataMask s newData queueImage)) shown
      metaOut) (hasset : newData.val .assetId ≠ "")
    (hdrop : ImageWithUri newData (sentKeys c newData (changedDataMask s newData queueImage)) ∧
      c.isFromSession = false) :
    ¬ ∀ k, c.metaMask k = true → k.type ≠ .image →
      SameField ((view.copyFrom metaOut).1.val k) (storedAfter s.metaData newData k) := by
  intro hagrees
  obtain ⟨hset, hselected⟩ := selected_of_sent hdrop.1.2.2.1
  have hsame := hagrees .mediaImageUri hselected (by decide)
  have hmask : metaOut.mask .mediaImageUri = true := by
    rw [h.mask, hdrop.1.2.2.1, Bool.true_or]
  rw [h.copyFrom_val hasset, if_pos (.inr hmask), h.mediaImageUri, if_pos hdrop,
    storedAfter_of_set _ hset] at hsame
  rcases hsame with heq | hsame
  · exact hdrop.1.2.2.2 heq.symm
  · exact hdrop.1.2.2.2 (not_not.mp (of_decide_eq_false hsame)).symm

/-- Something is sent: the client takes it over or merges it. -/
theorem agrees_some_iff {metaOut : AVMetaData} {shown : List UInt8} (hc : c ∈ s.controllers)
    (hview : AgreesMeta c view s.metaData) (hasset : newData.val .assetId ≠ "")
    (h : DeliveredAs c newData (sentKeys c newData (changedDataMask s newData queueImage)) shown
      metaOut)
    (hsome : ∃ k, sentKeys c newData (changedDataMask s newData queueImage) k = true) :
    (∀ k, c.metaMask k = true → k.type ≠ .image →
      SameField ((view.copyFrom metaOut).1.val k) (storedAfter s.metaData newData k)) ↔
      MetaCallOk c s view newData queueImage := by
  by_cases hdrop : ImageWithUri newData
      (sentKeys c newData (changedDataMask s newData queueImage)) ∧ c.isFromSession = false
  · exact iff_of_false (uri_lost h hasset hdrop) fun hok => (hok hasset).1 hdrop
  have hassetId : SameField ((view.copyFrom metaOut).1.val .assetId)
      (storedAfter s.metaData newData .assetId) := by
    rw [h.copyFrom_assetId hasset, storedAfter_assetId]
    exact .refl _ _
  have hsent : ∀ k, k.type ≠ .image → k ≠ .assetId →
      sentKeys c newData (changedDataMask s newData queueImage) k = true →
      SameField ((view.copyFrom metaOut).1.val k) (storedAfter s.metaData newData k) := by
    intro k himage hk hsent
    rw [h.copyFrom_sent hasset hdrop view himage hk hsent,
      storedAfter_of_set _ (selected_of_sent hsent).1]
    exact .refl _ _
  by_cases hother : newData.val .assetId ≠ view.val .assetId
  · -- the client takes the delivered object as a whole
    constructor
    · intro hagrees _
      refine ⟨hdrop, fun _ k hk himage hkey hunsent => ?_, fun hsame =>
        absurd ⟨hsome, hother⟩ hsame⟩
      rw [← h.copyFrom_unsent hasset hdrop hother himage hkey hunsent]
      exact hagrees k hk himage
    · intro hok k hk himage
      by_cases hkey : k = .assetId
      · subst hkey
        exact hassetId
      · cases hunsent : sentKeys c newData (changedDataMask s newData queueImage) k with
        | true => exact hsent k himage hkey hunsent
        | false =>
            rw [h.copyFrom_unsent hasset hdrop hother himage hkey hunsent]
            exact (hok hasset).2.1 ⟨hsome, hother⟩ k hk himage hkey hunsent
  · -- the client merges what is sent
    constructor
    · intro hagrees _
      refine ⟨hdrop, fun htaken => absurd htaken.2 hother, fun _ hchange k hk himage hunset => ?_⟩
      have hunsent : sentKeys c newData (changedDataMask s newData queueImage) k = false := by
        rw [Bool.eq_false_iff]
        intro hsent
        rw [(selected_of_sent hsent).1] at hunset
        cases hunset
      by_cases hkey : k = .assetId
      · subst hkey
        exact .inl (not_not.mp hother).symm
      · have hsame := hagrees k hk himage
        rwa [h.copyFrom_merged hasset hother hkey hunsent, storedAfter, if_pos (.inl hchange)]
          at hsame
    · intro hok k hk himage
      by_cases hkey : k = .assetId
      · subst hkey
        exact hassetId
      · cases hunsent : sentKeys c newData (changedDataMask s newData queueImage) k with
        | true => exact hsent k himage hkey hunsent
        | false =>
            rw [h.copyFrom_merged hasset hother hkey hunsent]
            exact sameField_of_not_sent hc hview hk himage hunsent fun hchange hunset =>
              (hok hasset).2.2 (fun htaken => hother htaken.2) hchange k hk himage hunset

/-- **One call.** It keeps the agreement exactly under the condition. -/
theorem agrees_setAVMetaData_iff (hpids : (s.controllers.map Controller.pid).Nodup)
    (hc : c ∈ s.controllers) (hview : AgreesMeta c (pendingView c s) s.metaData) :
    AgreesMeta c (pendingView c (setAVMetaData s newData queueImage))
        (setAVMetaData s newData queueImage).metaData ↔
      MetaCallOk c s (pendingView c s) newData queueImage := by
  rw [pendingView_setAVMetaData newData queueImage hpids hc]
  generalize pendingView c s = view at hview ⊢
  unfold AgreesMeta applyTask
  rw [if_pos rfl]
  dsimp only
  by_cases hasset : newData.val .assetId = ""
  · -- such an object is neither stored nor taken
    refine iff_of_true (fun k hk himage => ?_) fun hne => absurd hasset hne
    rw [setAVMetaData_val s newData queueImage himage, if_pos hasset]
    split
    case h_1 metaOut hout =>
      rw [AVMetaData.copyFrom_val, (deliveredAs_of_handleMetaDataChange hout).assetId,
        if_pos hasset]
      exact hview k hk himage
    case h_2 => exact hview k hk himage
  · have hstored : ∀ k : MetaKey, k.type ≠ .image →
        (setAVMetaData s newData queueImage).metaData.val k =
          storedAfter s.metaData newData k := by
      intro k himage
      rw [setAVMetaData_val s newData queueImage himage, if_neg hasset]
      rfl
    have hcongr : ∀ v : AVMetaData, (∀ k, c.metaMask k = true → k.type ≠ .image →
        SameField (v.val k) ((setAVMetaData s newData queueImage).metaData.val k)) ↔
        ∀ k, c.metaMask k = true → k.type ≠ .image →
          SameField (v.val k) (storedAfter s.metaData newData k) := by
      intro v
      refine forall_congr' fun k => forall_congr' fun _ => forall_congr' fun himage => ?_
      rw [hstored k himage]
    rw [hcongr]
    split
    case h_1 metaOut hout =>
      refine agrees_some_iff hc hview hasset (deliveredAs_of_handleMetaDataChange hout) ?_
      by_contra hnone
      have hcontra : handleMetaDataChange c newData (changedDataMask s newData queueImage) none []
          [] = none :=
        handleMetaDataChange_eq_none_iff.mpr fun k =>
          Bool.eq_false_iff.mpr fun hk => hnone ⟨k, hk⟩
      rw [hout] at hcontra
      cases hcontra
    case h_2 hout =>
      exact agrees_none_iff hc hview hasset (handleMetaDataChange_eq_none_iff.mp hout)

end call

/-! ## Playback -/

section playback

variable [DecidableEq ω] {s : ItemState ω} {state : AVPlaybackState ω}

/-- The keys of a playback delivery. -/
def sentPlayback (c : Controller) (s : ItemState ω) (state : AVPlaybackState ω) :
    PlaybackKey → Bool :=
  fun k => state.mask k && validPlaybackMask c (changedStateMask s state) k

/-- What the client has after a playback delivery. -/
theorem copyFrom_handlePlaybackStateChange (view : AVPlaybackState ω) (k : PlaybackKey) :
    (match handlePlaybackStateChange c state (changedStateMask s state) with
      | some stateOut => (view.copyFrom stateOut).1
      | none => view).val k =
      if sentPlayback c s state k = true then state.val k else view.val k := by
  unfold handlePlaybackStateChange
  dsimp only
  have hmask : ∀ k, (state.copyToByMask (validPlaybackMask c (changedStateMask s state))
      .init).1.mask k = sentPlayback c s state k := by
    intro k
    rw [AVPlaybackState.copyToByMask_mask]
    exact Bool.false_or _
  by_cases hany : (state.copyToByMask (validPlaybackMask c (changedStateMask s state))
      .init).2 = true
  · rw [if_pos hany]
    show (view.copyFrom _).1.val k = _
    rw [AVPlaybackState.copyFrom_val, hmask]
    split_ifs with hsent
    · rw [AVPlaybackState.copyToByMask_val]
      exact if_pos hsent
    · rfl
  · rw [if_neg hany]
    show view.val k = _
    rw [if_neg]
    intro hsent
    exact hany (List.any_eq_true.mpr ⟨k, PlaybackKey.mem_all k, hsent⟩)

/-- A member that is set and selected, but not sent, has not changed. -/
theorem unchanged_of_not_sentPlayback (hc : c ∈ s.controllers) {k : PlaybackKey}
    (hk : c.playbackMask k = true) (hset : state.mask k = true)
    (hsent : ¬ sentPlayback c s state k = true) :
    k.changed (s.playbackState.val k) (state.val k) = false := by
  rw [Bool.not_eq_true] at hsent
  unfold sentPlayback validPlaybackMask at hsent
  rw [hset, Bool.true_and] at hsent
  split_ifs at hsent with hall
  · rw [hk] at hsent
    cases hsent
  · have hrecord : getControlItemsPlaybackFilter s.controllers k = true :=
      List.any_eq_true.mpr ⟨c, hc, by rw [Bool.eq_false_iff.mpr hall, hk]; rfl⟩
    have hany : PlaybackKey.all.any (getControlItemsPlaybackFilter s.controllers) = true :=
      List.any_eq_true.mpr ⟨k, PlaybackKey.mem_all k, hrecord⟩
    change (changedStateMask s state k && c.playbackMask k) = false at hsent
    rw [hk, Bool.and_true] at hsent
    unfold changedStateMask at hsent
    rw [if_pos hany] at hsent
    unfold AVPlaybackState.getChangedStateMask at hsent
    rw [hrecord, Bool.true_and, PlaybackKey.changed_comm] at hsent
    exact hsent

/-- A new playback state is told at once where the controller asks for it. -/
theorem playbackView_setAVPlaybackState (hpids : (s.controllers.map Controller.pid).Nodup)
    (hc : c ∈ s.controllers) (hcopied : (s.playbackState.copyFrom state).2 = true) :
    playbackView c (setAVPlaybackState s state) =
      match handlePlaybackStateChange c state (changedStateMask s state) with
      | some stateOut => ((playbackView c s).copyFrom stateOut).1
      | none => playbackView c s := by
  unfold setAVPlaybackState
  dsimp only
  rw [hcopied, if_neg Bool.true_eq_false.mp]
  unfold playbackView
  rw [List.foldl_append, List.foldl_filterMap]
  rw [foldl_of_pid hpids hc]
  · cases handlePlaybackStateChange c state (changedStateMask s state) with
    | none => rfl
    | some stateOut => exact if_pos rfl
  · intro view d hd
    cases handlePlaybackStateChange d state (changedStateMask s state) with
    | none => rfl
    | some stateOut => exact if_neg hd

/-- **A playback call keeps the agreement.** -/
theorem agrees_setAVPlaybackState (hpids : (s.controllers.map Controller.pid).Nodup)
    (hc : c ∈ s.controllers) (hview : AgreesPlayback c (playbackView c s) s.playbackState) :
    AgreesPlayback c (playbackView c (setAVPlaybackState s state))
      (setAVPlaybackState s state).playbackState := by
  cases hcopied : (s.playbackState.copyFrom state).2 with
  | false =>
      have hsame : setAVPlaybackState s state = s := if_pos hcopied
      rw [hsame]
      exact hview
  | true =>
      have hstored : (setAVPlaybackState s state).playbackState =
          (s.playbackState.copyFrom state).1 := by
        unfold setAVPlaybackState
        dsimp only
        rw [hcopied]
        rfl
      intro k hk
      rw [playbackView_setAVPlaybackState hpids hc hcopied, hstored,
        copyFrom_handlePlaybackStateChange, AVPlaybackState.copyFrom_val]
      exact same_of_delta PlaybackKey.changed_trans (hview k hk)
        (fun hsent => (Bool.and_eq_true_iff.mp hsent).1)
        fun hset hsent => unchanged_of_not_sentPlayback hc hk hset hsent

end playback

/-! ## Runs -/

section runs

variable {s : ItemState ω}

/-- The condition does not look at the images of the view. -/
theorem SameMembers.metaCallOk_iff {view view' newData : AVMetaData} {queueImage : List UInt8}
    (h : SameMembers view view') :
    MetaCallOk c s view newData queueImage ↔ MetaCallOk c s view' newData queueImage := by
  have himp : ∀ {v v' : AVMetaData}, SameMembers v v' →
      MetaCallOk c s v newData queueImage → MetaCallOk c s v' newData queueImage := by
    intro v v' h hok hasset
    obtain ⟨hdrop, htake, hmerge⟩ := hok hasset
    rw [h.assetId] at htake hmerge
    refine ⟨hdrop, htake, fun hsame hchange k hk himage hunset => ?_⟩
    rw [← h.val k himage]
    exact hmerge hsame hchange k hk himage hunset
  exact ⟨himp h, himp ⟨h.mask.symm, fun k hk => (h.val k hk).symm⟩⟩

variable [DecidableEq ω]

/-- The condition on an action: only metadata calls can break the agreement. -/
def CallOk (c : Controller) (s : ItemState ω) : Action ω → Prop
  | .setAVMetaData newData queueImage => MetaCallOk c s (metaView c (drain s)) newData queueImage
  | .setAVPlaybackState _ => True
  | .runTask _ => True

/-- What holds along every run. -/
structure ViewInv (controllers : List Controller) (c : Controller) (s : ItemState ω) : Prop where
  controllers : s.controllers = controllers
  playback : AgreesPlayback c (playbackView c s) s.playbackState

/-- Every action keeps the views' invariant. -/
theorem ViewInv.step {controllers : List Controller}
    (hpids : (controllers.map Controller.pid).Nodup) (hc : c ∈ controllers)
    (h : ViewInv controllers c s) (a : Action ω) : ViewInv controllers c (step s a) := by
  obtain rfl := h.controllers
  cases a with
  | setAVMetaData newData queueImage =>
      refine ⟨setAVMetaData_controllers .., ?_⟩
      have hview : playbackView c (setAVMetaData s newData queueImage) = playbackView c s := by
        unfold playbackView
        rw [setAVMetaData_playbackEvents]
      show AgreesPlayback c (playbackView c (setAVMetaData s newData queueImage))
        (setAVMetaData s newData queueImage).playbackState
      rw [hview, setAVMetaData_playbackState]
      exact h.playback
  | setAVPlaybackState state =>
      refine ⟨?_, agrees_setAVPlaybackState hpids hc h.playback⟩
      show (setAVPlaybackState s state).controllers = _
      unfold setAVPlaybackState
      dsimp only
      split_ifs <;> rfl
  | runTask queueImage =>
      obtain ⟨hcontrollers, -, hplayback, -, -, hevents, -⟩ := runTask_frame s queueImage
      refine ⟨hcontrollers, ?_⟩
      have hview : playbackView c (runTask s queueImage) = playbackView c s := by
        unfold playbackView
        rw [hevents]
      show AgreesPlayback c (playbackView c (runTask s queueImage))
        (runTask s queueImage).playbackState
      rw [hview, hplayback]
      exact h.playback

/-- An action keeps a controller converged exactly when the call is in order for it. -/
theorem converged_step_iff {controllers : List Controller}
    (hpids : (controllers.map Controller.pid).Nodup) (hc : c ∈ controllers)
    (hinv : ViewInv controllers c s) (h : Converged c s) (a : Action ω) :
    Converged c (step s a) ↔ CallOk c s a := by
  have hinv' := hinv.step hpids hc a
  obtain ⟨hmeta, -⟩ := (converged_iff_pending c s).mp h
  rw [converged_iff_pending, and_iff_left hinv'.playback]
  obtain rfl := hinv.controllers
  cases a with
  | setAVMetaData newData queueImage =>
      refine (agrees_setAVMetaData_iff hpids hc hmeta).trans ?_
      exact ((metaView_drain c s).metaCallOk_iff).symm
  | setAVPlaybackState state =>
      refine iff_of_true ?_ trivial
      have hsame : (setAVPlaybackState s state).metaData = s.metaData ∧
          pendingView c (setAVPlaybackState s state) = pendingView c s := by
        unfold setAVPlaybackState
        dsimp only
        split_ifs <;> exact ⟨rfl, rfl⟩
      show AgreesMeta c (pendingView c (setAVPlaybackState s state))
        (setAVPlaybackState s state).metaData
      rw [hsame.1, hsame.2]
      exact hmeta
  | runTask queueImage =>
      refine iff_of_true ?_ trivial
      show AgreesMeta c (pendingView c (runTask s queueImage)) (runTask s queueImage).metaData
      rw [(runTask_frame s queueImage).2.1]
      exact (pendingView_runTask s queueImage).agreesMeta_iff.mpr hmeta

/-- At the start nothing is pending. -/
theorem ViewInv.init (controllers : List Controller) (c : Controller) :
    ViewInv controllers c (.init controllers : ItemState ω) :=
  ⟨rfl, fun _ _ => .refl _ _⟩

/-- **Runs.** For every set of controllers and every order of calls and deliveries: the client of a
controller is in agreement with the session in every state, once the posted deliveries have run,
exactly if each metadata call meets the condition. -/
theorem converged_iff (controllers : List Controller)
    (hpids : (controllers.map Controller.pid).Nodup) (hc : c ∈ controllers)
    (actions : List (Action ω)) :
    Always step (Converged c) (.init controllers) actions ↔
      Meets step (CallOk c) (.init controllers) actions := by
  refine always_iff_meets_of_inv (fun s a h => ViewInv.step hpids hc h a)
    (fun s a hinv h => converged_step_iff hpids hc hinv h a) actions (.init controllers c) ?_
  rw [converged_iff_pending]
  exact ⟨fun _ _ _ => .refl _ _, fun _ _ => .refl _ _⟩

/-- A controller that selects the title and the artist. -/
def titleController : Controller where
  pid := 1
  metaMask := fun k => decide (k = .title ∨ k = .artist)
  playbackMask := fun _ => true
  isFromSession := false

/-- A song of some artist. -/
def song (assetId title artist : String) : AVMetaData :=
  ((AVMetaData.init.setAssetId assetId).setTitle title).setArtist artist

/-- The first song of a session reaches the client. -/
theorem first_song_converges : Always step (Converged titleController)
    (.init [titleController] : ItemState Unit)
    [.setAVMetaData (song "a" "one" "x") [], .runTask []] := by
  refine (converged_iff [titleController] (by decide) List.mem_cons_self _).mpr
    ⟨fun _ => ⟨fun hdrop => absurd hdrop.1 (by decide), fun _ k hk _ _ hunsent => ?_,
      fun hsame => absurd ⟨⟨.title, by decide⟩, by decide⟩ hsame⟩, trivial, trivial⟩
  rcases of_decide_eq_true hk with rfl | rfl
  · exact absurd hunsent (by decide)
  · exact absurd hunsent (by decide)

/-- Two songs of one artist: the second one reaches the client without its artist. -/
theorem artist_lost :
    ¬ ∀ (controllers : List Controller) (c : Controller),
      (controllers.map Controller.pid).Nodup → c ∈ controllers →
      ∀ actions : List (Action Unit),
        (∀ newData queueImage, .setAVMetaData newData queueImage ∈ actions →
          newData.val .assetId ≠ "") →
        Converged c (run step (.init controllers) actions) := by
  intro hclaim
  have hconverged := hclaim [titleController] titleController (by decide) List.mem_cons_self
    [.setAVMetaData (song "a" "one" "x") [], .setAVMetaData (song "b" "two" "x") []] (by
      intro newData queueImage hmem
      rcases List.mem_cons.mp hmem with heq | hmem
      · cases heq
        decide
      · cases List.mem_singleton.mp hmem
        decide)
  rcases hconverged.1 .artist (by decide) (by decide) with hsame | hsame
  · revert hsame
    decide
  · revert hsame
    decide

end runs

end AvSession.Meta
