import AvSession.Meta.Delivery
import Mathlib.Data.List.Nodup

/-!
# The image that a delivery carries

A delivery takes its members from its own call, but reads the media image from the file of the
session, which later calls overwrite.

* `Coherent` — every delivered object carries the image and the title that were set together with
  its asset id.
* `ImageOk` — the condition on a delivery, on the images of the calls so far.
* `ImageInv` — the file holds the last image that was written.
* `coherent_iff` — runs, for calls with distinct asset ids.
-/

namespace AvSession.Meta

open AvSession.Lib

variable {ω : Type} {s : ItemState ω}

section coherence

/-- Whether the image of a call is written to the file. -/
def WritesImage (m : AVMetaData) : Prop := m.val .assetId ≠ "" ∧ Writable (mediaBytes m)

instance (m : AVMetaData) : Decidable (WritesImage m) :=
  inferInstanceAs (Decidable (m.val .assetId ≠ "" ∧ Writable (mediaBytes m)))

/-- The last call whose image was written. -/
def lastWritten (calls : List AVMetaData) : Option AVMetaData :=
  calls.findRev? fun m => decide (WritesImage m)

/-- The asset ids of the calls that are still to come. -/
def assetIds (actions : List (Action ω)) : List String :=
  actions.filterMap fun a =>
    match a with
    | .setAVMetaData newData _ => some (newData.val .assetId)
    | _ => none

/-- Every object that was delivered to a controller whose filter selects the media image carries the
image, and the title if there is one, of the call with its asset id. -/
def Coherent (s : ItemState ω) : Prop :=
  ∀ e ∈ s.metaEvents, e.controller.metaMask .mediaImage = true →
    ∀ m ∈ s.calls, m.val .assetId = e.metaOut.val .assetId →
      mediaBytes e.metaOut = mediaBytes m ∧
        (e.metaOut.mask .title = true → e.metaOut.val .title = m.val .title)

/-- The image that a delivery finds: the last one that was written, or what the call's own image
holds if none was. -/
def foundImage (s : ItemState ω) (t : MetaTask) : List UInt8 :=
  ((lastWritten s.calls).map mediaBytes).getD (s.buffers t.call)

/-- A delivery has the image, which is not dropped for its URI. -/
def ShowsImage (t : MetaTask) : Prop :=
  sentKeys t.controller t.data t.changedDataMask .mediaImage = true ∧
    t.data.val .mediaImage ≠ none ∧
    ¬ (ImageWithUri t.data (sentKeys t.controller t.data t.changedDataMask) ∧
      t.controller.isFromSession = true)

instance (t : MetaTask) : Decidable (ShowsImage t) := inferInstanceAs (Decidable (_ ∧ _ ∧ ¬ (_ ∧ _)))

/-- The condition on a delivery. If it has the image, the image that is found is the one of the call.
Otherwise the call has no image. -/
def ImageOk (s : ItemState ω) (t : MetaTask) : Prop :=
  if ShowsImage t then foundImage s t = mediaBytes t.data else mediaBytes t.data = []

instance (s : ItemState ω) (t : MetaTask) : Decidable (ImageOk s t) :=
  inferInstanceAs (Decidable
    (if ShowsImage t then foundImage s t = mediaBytes t.data else mediaBytes t.data = []))

/-- The condition on an action: it is about deliveries to controllers that select the image. -/
def DeliveryOk (s : ItemState ω) : Action ω → Prop
  | .runTask _ => ∀ t ∈ s.tasks.head?, t.controller.metaMask .mediaImage = true →
      (∃ k, sentKeys t.controller t.data t.changedDataMask k = true) → ImageOk s t
  | .setAVMetaData _ _ => True
  | .setAVPlaybackState _ => True

end coherence

/-! ## The invariant -/

section invariant

/-- What holds of a state and the actions that are still to come. -/
structure ImageInv (s : ItemState ω) (rest : List (Action ω)) : Prop where
  fresh : (s.calls.map (fun m => m.val .assetId) ++ assetIds rest).Nodup
  file : s.imageFile = (lastWritten s.calls).map mediaBytes
  stored : s.metaData.val .assetId = "" ∨ ∃ m ∈ s.calls, m.val .assetId = s.metaData.val .assetId
  tasks : ∀ t ∈ s.tasks, t.data ∈ s.calls
  events : ∀ e ∈ s.metaEvents, ∃ m ∈ s.calls, m.val .assetId = e.metaOut.val .assetId

variable {newData : AVMetaData} {queueImage : List UInt8} {rest : List (Action ω)}

/-- The next call has an asset id of its own. -/
theorem ImageInv.fresh_call (h : ImageInv s (.setAVMetaData newData queueImage :: rest))
    {m : AVMetaData} (hm : m ∈ s.calls) : m.val .assetId ≠ newData.val .assetId :=
  (List.nodup_append.mp h.fresh).2.2 _ (List.mem_map_of_mem hm) _ List.mem_cons_self

/-- An asset id belongs to one call. -/
theorem ImageInv.unique (h : ImageInv s rest) {m m' : AVMetaData} (hm : m ∈ s.calls)
    (hm' : m' ∈ s.calls) (heq : m.val .assetId = m'.val .assetId) : m = m' :=
  List.inj_on_of_nodup_map (List.nodup_append.mp h.fresh).1 hm hm' heq

/-- The last call with an image counts. -/
theorem lastWritten_concat (calls : List AVMetaData) (m : AVMetaData) :
    lastWritten (calls ++ [m]) = if WritesImage m then some m else lastWritten calls := by
  unfold lastWritten
  rw [findRev?_concat]
  simp only [decide_eq_true_eq]

/-- A call keeps the images' invariant. -/
theorem ImageInv.setAVMetaData (h : ImageInv s (.setAVMetaData newData queueImage :: rest)) :
    ImageInv (setAVMetaData s newData queueImage) rest where
  fresh := by
    rw [setAVMetaData_calls, List.map_append, List.append_assoc]
    exact h.fresh
  file := by
    have hasset : newData.val .assetId = "" ∨
        newData.val .assetId ≠ s.metaData.val .assetId := by
      rcases h.stored with hempty | ⟨m, hm, heq⟩
      · rw [hempty]
        exact Classical.em _
      · exact .inr fun hsame => h.fresh_call hm (heq.trans hsame.symm)
    rw [setAVMetaData_imageFile s newData queueImage hasset, setAVMetaData_calls,
      lastWritten_concat, h.file]
    by_cases hwrites : WritesImage newData
    · rw [if_pos hwrites]
      exact if_pos hwrites
    · rw [if_neg hwrites]
      exact if_neg hwrites
  stored := by
    rw [setAVMetaData_val s newData queueImage (by decide), setAVMetaData_calls]
    have hold : s.metaData.val .assetId = "" ∨ ∃ m ∈ s.calls ++ [newData],
        m.val .assetId = s.metaData.val .assetId :=
      h.stored.imp_right fun ⟨m, hm, heq⟩ => ⟨m, List.mem_append_left _ hm, heq⟩
    split_ifs
    · exact hold
    · exact .inr ⟨newData, List.mem_append_right _ (List.mem_singleton_self _), rfl⟩
    · exact hold
  tasks t ht := by
    rw [setAVMetaData_tasks] at ht
    rw [setAVMetaData_calls]
    rcases List.mem_append.mp ht with ht | ht
    · exact List.mem_append_left _ (h.tasks t ht)
    · obtain ⟨c, -, rfl⟩ := List.mem_map.mp ht
      exact List.mem_append_right _ (List.mem_singleton_self _)
  events e he := by
    rw [setAVMetaData_metaEvents] at he
    obtain ⟨m, hm, heq⟩ := h.events e he
    exact ⟨m, List.mem_append_left _ hm, heq⟩

/-- A call keeps coherence: its asset id is new. -/
theorem ImageInv.coherent_setAVMetaData (h : ImageInv s (.setAVMetaData newData queueImage :: rest))
    (hcoherent : Coherent s) : Coherent (Meta.setAVMetaData s newData queueImage) := by
  intro e he hselects m hm heq
  rw [setAVMetaData_metaEvents] at he
  rw [setAVMetaData_calls] at hm
  rcases List.mem_append.mp hm with hm | hm
  · exact hcoherent e he hselects m hm heq
  · obtain rfl := List.mem_singleton.mp hm
    obtain ⟨m', hm', heq'⟩ := h.events e he
    exact absurd (heq'.trans heq.symm) (h.fresh_call hm')

end invariant

/-! ## One delivery -/

section delivery

variable {t : MetaTask} {tasks : List MetaTask} {queueImage : List UInt8}
  {rest : List (Action ω)} {metaOut : AVMetaData}

/-- The bytes that are delivered. -/
theorem mediaBytes_of_deliveredAs {c : Controller} {data : AVMetaData} {sent : MetaKey → Bool}
    {shown : List UInt8} (h : DeliveredAs c data sent shown metaOut) :
    mediaBytes metaOut =
      if sent .mediaImage = true ∧ data.val .mediaImage ≠ none ∧
          ¬ (ImageWithUri data sent ∧ c.isFromSession = true) then shown
      else [] := by
  unfold mediaBytes
  rw [h.mediaImage]
  by_cases hsent : sent .mediaImage = true
  · rw [if_pos hsent]
    cases himage : data.val .mediaImage with
    | none => exact (if_neg fun hshown => hshown.2.1 rfl).symm
    | some old =>
        show (if ImageWithUri data sent ∧ c.isFromSession = true then [] else shown) = _
        by_cases hdrop : ImageWithUri data sent ∧ c.isFromSession = true
        · rw [if_pos hdrop, if_neg fun hshown => hshown.2.2 hdrop]
        · rw [if_neg hdrop, if_pos ⟨hsent, Option.some_ne_none _, hdrop⟩]
  · rw [if_neg hsent, if_neg fun hshown => hsent hshown.1]
    rfl

/-- What a task delivers is its call's image exactly when the file still holds it. -/
theorem ImageInv.imageOk_iff (h : ImageInv s rest)
    (hout : handleMetaDataChange t.controller t.data t.changedDataMask s.imageFile
      (s.buffers t.call) queueImage = some metaOut) :
    mediaBytes metaOut = mediaBytes t.data ↔ ImageOk s t := by
  have hshown : readImageFromFile s.imageFile (s.buffers t.call) = foundImage s t := by
    unfold readImageFromFile foundImage
    rw [h.file]
  have hbytes : mediaBytes metaOut = if ShowsImage t then foundImage s t else [] := by
    rw [mediaBytes_of_deliveredAs (deliveredAs_of_handleMetaDataChange hout), hshown]
    rfl
  rw [hbytes]
  unfold ImageOk
  by_cases hshows : ShowsImage t
  · rw [if_pos hshows, if_pos hshows]
  · rw [if_neg hshows, if_neg hshows]
    exact eq_comm

/-- **One delivery.** It keeps coherence exactly under the condition. -/
theorem ImageInv.coherent_runTask_iff [DecidableEq ω]
    (h : ImageInv s (.runTask queueImage :: rest)) (hcoherent : Coherent s) :
    Coherent (runTask s queueImage) ↔ DeliveryOk s (.runTask queueImage) := by
  unfold DeliveryOk runTask
  cases htasks : s.tasks with
  | nil => exact iff_of_true hcoherent fun t ht => by cases ht
  | cons t tasks =>
      have hdata : t.data ∈ s.calls := h.tasks t (htasks ▸ List.mem_cons_self)
      dsimp only
      split
      case h_1 metaOut hout =>
        have hdelivered := deliveredAs_of_handleMetaDataChange hout
        have hsome : ∃ k, sentKeys t.controller t.data t.changedDataMask k = true := by
          by_contra hnone
          have hcontra : handleMetaDataChange t.controller t.data t.changedDataMask s.imageFile
              (s.buffers t.call) queueImage = none :=
            handleMetaDataChange_eq_none_iff.mpr fun k =>
              Bool.eq_false_iff.mpr fun hk => hnone ⟨k, hk⟩
          rw [hout] at hcontra
          cases hcontra
        have htitle : metaOut.mask .title = true → metaOut.val .title = t.data.val .title := by
          intro hmask
          rw [hdelivered.mask, decide_eq_false (by decide), Bool.or_false] at hmask
          rw [hdelivered.val .title (by decide) (by decide) (by decide), if_pos hmask]
        constructor
        · intro hnext t' ht' hselects _
          obtain rfl := Option.some.inj ht'
          refine (h.imageOk_iff hout).mp ?_
          exact (hnext ⟨t.controller, metaOut⟩
            (List.mem_append_right _ (List.mem_singleton_self _)) hselects t.data hdata
            hdelivered.assetId.symm).1
        · intro hok e he hselects m hm heq
          rcases List.mem_append.mp he with he | he
          · exact hcoherent e he hselects m hm heq
          · obtain rfl := List.mem_singleton.mp he
            obtain rfl := h.unique hm hdata (heq.trans hdelivered.assetId)
            exact ⟨(h.imageOk_iff hout).mpr (hok t rfl hselects hsome), htitle⟩
      case h_2 hout =>
        refine iff_of_true hcoherent fun t' ht' _ hsome => ?_
        obtain rfl := Option.some.inj ht'
        obtain ⟨k, hk⟩ := hsome
        rw [handleMetaDataChange_eq_none_iff.mp hout k] at hk
        cases hk

/-- A task keeps the images' invariant. -/
theorem ImageInv.runTask [DecidableEq ω] (h : ImageInv s (.runTask queueImage :: rest)) :
    ImageInv (runTask s queueImage) rest := by
  obtain ⟨-, hmeta, -, hfile, hcalls, -, htasks⟩ := runTask_frame s queueImage
  refine ⟨?_, ?_, ?_, ?_, ?_⟩
  · rw [hcalls]
    exact h.fresh
  · rw [hfile, hcalls]
    exact h.file
  · rw [hmeta, hcalls]
    exact h.stored
  · intro t ht
    rw [htasks] at ht
    rw [hcalls]
    exact h.tasks t (List.mem_of_mem_tail ht)
  · intro e he
    rw [hcalls]
    revert he
    unfold Meta.runTask
    cases hs : s.tasks with
    | nil => exact h.events e
    | cons t tasks =>
        dsimp only
        split
        case h_1 metaOut hout =>
          intro he
          rcases List.mem_append.mp he with he | he
          · exact h.events e he
          · obtain rfl := List.mem_singleton.mp he
            exact ⟨t.data, h.tasks t (hs ▸ List.mem_cons_self),
              (deliveredAs_of_handleMetaDataChange hout).assetId.symm⟩
        case h_2 => exact h.events e

end delivery

/-! ## Runs -/

section runs

variable [DecidableEq ω]

/-- A playback state concerns no image. -/
theorem ImageInv.setAVPlaybackState {state : AVPlaybackState ω} {rest : List (Action ω)}
    (h : ImageInv s (.setAVPlaybackState state :: rest)) :
    ImageInv (setAVPlaybackState s state) rest ∧
      (Coherent (Meta.setAVPlaybackState s state) ↔ Coherent s) := by
  unfold Meta.setAVPlaybackState
  dsimp only
  split_ifs
  · exact ⟨⟨h.fresh, h.file, h.stored, h.tasks, h.events⟩, Iff.rfl⟩
  · exact ⟨⟨h.fresh, h.file, h.stored, h.tasks, h.events⟩, Iff.rfl⟩

/-- **Runs.** For every set of controllers, all calls with distinct asset ids and every order of
calls and deliveries: each delivered object carries the image that was set with its asset id exactly
if each delivery meets the condition. -/
theorem coherent_iff (controllers : List Controller) (actions : List (Action ω))
    (hdistinct : (assetIds actions).Nodup) :
    Always step Coherent (.init controllers) actions ↔
      Meets step DeliveryOk (.init controllers) actions := by
  refine always_iff_meets_of_rest (I := ImageInv) ?_ ?_ actions ?_ fun _ he => by cases he
  · intro s a rest h
    cases a with
    | setAVMetaData newData queueImage => exact h.setAVMetaData
    | setAVPlaybackState state => exact h.setAVPlaybackState.1
    | runTask queueImage => exact h.runTask
  · intro s a rest h hcoherent
    cases a with
    | setAVMetaData newData queueImage =>
        exact iff_of_true (h.coherent_setAVMetaData hcoherent) trivial
    | setAVPlaybackState state =>
        exact iff_of_true (h.setAVPlaybackState.2.mpr hcoherent) trivial
    | runTask queueImage => exact h.coherent_runTask_iff hcoherent
  · exact ⟨hdistinct, rfl, .inl rfl, List.forall_mem_nil _, List.forall_mem_nil _⟩

/-- A controller that selects everything. -/
def fullController : Controller where
  pid := 1
  metaMask := fun _ => true
  playbackMask := fun _ => true
  isFromSession := false

/-- A song with a cover. -/
def cover (assetId : String) (image : List UInt8) : AVMetaData :=
  (AVMetaData.init.setAssetId assetId).setMediaImage (some image)

/-- If each delivery runs before the next call, each song comes with its own cover. -/
theorem covers_in_step : Always step Coherent (.init [fullController] : ItemState Unit)
    [.setAVMetaData (cover "a" [1]) [], .runTask [], .setAVMetaData (cover "b" [2]) [],
      .runTask []] := by
  refine (coherent_iff [fullController] _ (by decide)).mpr
    ⟨trivial, fun t ht _ _ => ?_, trivial, fun t ht _ _ => ?_, trivial⟩
  · obtain rfl := Option.some.inj ht
    decide
  · obtain rfl := Option.some.inj ht
    decide

/-- The first song comes with the cover of the second. -/
theorem cover_of_next_song :
    ¬ ∀ (controllers : List Controller) (actions : List (Action Unit)),
      (assetIds actions).Nodup → Coherent (run step (.init controllers) actions) := by
  intro hclaim
  have hcoherent := hclaim [fullController] [.setAVMetaData (cover "a" [1]) [],
    .setAVMetaData (cover "b" [2]) [], .runTask []] (by decide)
  have hsame := (hcoherent _ List.mem_cons_self rfl (cover "a" [1]) List.mem_cons_self rfl).1
  revert hsame
  decide

end runs

end AvSession.Meta
