import AvSession.Meta.Views
import AvSession.Native.CoverDownload

/-!
# Covers that come late

* `Agrees` — a cover that is sent behind disturbs nothing else: the sessions at the service hold
  what the calls alone would have left there, but for the image and its address.
* `cover_disturbs_nothing` — this holds all along the runs in which no cover arrives over another
  asset, and so if calls reach the service and exclude deliveries. One cover of each session waits
  for its turn at most, and one of all sessions if none is posted while another waits.
* `skipped_call` — when a call that is skipped, because it repeats the one before, would have
  changed nothing.
-/

set_option linter.unusedSectionVars false

namespace AvSession.Native

open AvSession.Lib AvSession.Meta

variable {ω : Type}

/-! ## What is kept -/

section agreement

/-- A member that a cover does not bring along. -/
def Undisturbed (k : MetaKey) : Prop := k.type ≠ .image ∧ k ≠ .mediaImageUri

/-- A tracker knows the asset and the address of the cover. -/
def AVSessionDataTracker.Tracks (t : AVSessionDataTracker) (metaData : AVMetaData) : Prop :=
  t.currentAssetId = metaData.val .assetId ∧ t.currentUri = metaData.val .mediaImageUri

/-- A download of what is tracked, or of its asset if it has no cover. -/
def Download.Fits (task : Download) (metaData : AVMetaData) : Prop :=
  task.data.val .assetId = metaData.val .assetId ∧
    (task.data.val .mediaImageUri = metaData.val .mediaImageUri ∨
      metaData.val .mediaImageUri = "")

namespace World

variable (w : World ω)

/-- The service holds what the calls have left there. -/
def Agrees : Prop := ∀ s k, Undisturbed k →
  (w.items s).metaData.val k = (w.applied s).val k

/-- No cover arrives over another asset than its own. -/
def Kept : Act → Prop
  | .deliverDownload _ sent => ∀ task, w.running = some (task, .sending) →
      w.arrives task.session task.data sent = true →
        task.data.val .assetId = (w.items task.session).metaData.val .assetId
  | _ => True

/-- A call that has not reached the service yet. -/
def IsSending (s : SessionRef) : Prop :=
  ∃ data isDownloadNeeded, w.calling s = some (.sending data isDownloadNeeded)

/-- A download that was found to be up to date, and is to be sent. -/
def IsDelivering (task : Download) : Prop :=
  w.running = some (task, .completing) ∨ w.running = some (task, .sending)

/-- The cover that arrives is the one that was asked for last, unless none was. -/
def Fresh : Act → Prop
  | .deliverDownload _ _ => ∀ task, w.running = some (task, .sending) →
      task.Fits (w.sessions task.session).metaData
  | _ => True

/-- Every call reaches the service: what it sends is valid and has an asset, and the message
arrives. -/
def Reaches : Act → Prop
  | .callService s _ sent => ∀ data isDownloadNeeded,
      w.calling s = some (.sending data isDownloadNeeded) → w.arrives s data sent = true
  | _ => True

/-- Calls and deliveries exclude each other: no call begins behind the check of a download, and no
download is checked while a call is on its way. -/
def Exclusive : Act → Prop
  | .setAVMetaData s _ => ∀ task, w.IsDelivering task → task.session ≠ s
  | .checkOutOfDate => ∀ task, w.running = some (task, .checking) → ¬ w.IsSending task.session
  | _ => True

/-- No download is posted while another one waits. -/
def PostsAlone : Act → Prop
  | .postDownload s => ∀ data, w.calling s = some (.posting data) → w.tasks = []
  | _ => True

/-- What is downloaded brings the asset, the image and its address. -/
def RunsBase : Prop := ∀ task phase, w.running = some (task, phase) → phase ≠ .downloading →
  ∀ k, Undisturbed k → k ≠ .assetId → task.data.mask k = false

end World

end agreement

/-! ## What the steps do -/

section steps

/-- What is not out of date. -/
theorem AVSessionDataTracker.Tracks.fits {t : AVSessionDataTracker} {metaData : AVMetaData}
    (h : t.Tracks metaData) {task : Download}
    (hdate : t.isOutOfDate (task.data.val .assetId) (task.data.val .mediaImageUri) = false) :
    task.Fits metaData := by
  simp only [isOutOfDate, Bool.or_eq_false_iff, Bool.and_eq_false_iff, bne_eq_false_iff_eq,
    Bool.not_eq_false'] at hdate
  obtain ⟨⟨hasset, huri⟩, -⟩ := hdate
  refine ⟨hasset.trans h.1, huri.symm.imp (fun heq => heq.trans h.2) ?_⟩
  intro hempty
  rw [← h.2]
  exact String.isEmpty_iff.mp hempty

/-- A download brings nothing else along. -/
theorem Download.withCoverImage_mask (task : Download) (image : List UInt8) {k : MetaKey}
    (hk : Undisturbed k) (hasset : k ≠ .assetId) :
    (task.withCoverImage image).data.mask k = false := by
  have himage : k ≠ .mediaImage := by
    rintro rfl
    exact hk.1 rfl
  simp [withCoverImage, AVMetaData.setMediaImage, AVMetaData.set_mask_of_ne _ _ himage,
    AVMetaData.resetToBaseMeta, himage, hk.2, hasset]

namespace World

variable {w : World ω} {s : SessionRef} {metaData data : AVMetaData} {queueImage : List UInt8}
  {sent : Bool}

/-- What arrives has an asset. -/
theorem assetId_of_arrives (h : w.arrives s metaData sent = true) :
    metaData.val .assetId ≠ "" := by
  intro hempty
  have hnone : (AVMetaData.init.copyFrom metaData).2 = false := by
    unfold AVMetaData.copyFrom
    rw [if_pos hempty]
  simp [arrives, hnone] at h

/-- What the service holds of a message behind it. -/
theorem items_sendAVMetaData (w : World ω) (s : SessionRef) (metaData : AVMetaData)
    (queueImage : List UInt8) (sent : Bool) (s' : SessionRef) {k : MetaKey} (hk : k.type ≠ .image) :
    ((w.sendAVMetaData s metaData queueImage sent).items s').metaData.val k =
      if s' = s ∧ w.arrives s metaData sent = true then
        if metaData.val .assetId ≠ (w.items s).metaData.val .assetId ∨ metaData.mask k = true then
          metaData.val k
        else (w.items s).metaData.val k
      else (w.items s').metaData.val k := by
  unfold sendAVMetaData
  cases harrives : w.arrives s metaData sent with
  | false => simp
  | true =>
      by_cases hs : s' = s
      · subst hs
        simp only [if_true, Function.update_self, and_self]
        rw [setAVMetaData_val _ _ _ hk, if_neg (assetId_of_arrives harrives)]
      · simp [hs]

/-- A message to the service is nothing but that. -/
theorem sendAVMetaData_frame (w : World ω) (s : SessionRef) (metaData : AVMetaData)
    (queueImage : List UInt8) (sent : Bool) :
    ∃ items, w.sendAVMetaData s metaData queueImage sent = { w with items } := by
  unfold sendAVMetaData
  split
  · exact ⟨_, rfl⟩
  · exact ⟨w.items, rfl⟩

/-- A call, on its way to the service. -/
theorem callService_of_arrives {isDownloadNeeded : Bool} (queueImage : List UInt8)
    (hcalling : w.calling s = some (.sending data isDownloadNeeded))
    (harrives : w.arrives s data sent = true) :
    ∃ calling, (∀ data b, calling ≠ some (.sending data b)) ∧
      w.callService s queueImage sent =
        { w with
          items := (w.sendAVMetaData s data queueImage sent).items
          applied := Function.update w.applied s ((w.applied s).copyFrom data).1
          calling := Function.update w.calling s calling } := by
  refine ⟨if !(data.val .mediaImageUri).isEmpty && isDownloadNeeded && (data.val .mediaImage).isNone
    then some (.removing data) else none, ?_, ?_⟩
  · intro data' b
    split_ifs <;> exact nofun
  · obtain ⟨items, heq⟩ := sendAVMetaData_frame w s data queueImage sent
    simp only [callService, hcalling, harrives, if_true, setCalling, heq]

/-- A call that does not arrive only ends. -/
theorem callService_of_not_arrives {isDownloadNeeded : Bool}
    (hcalling : w.calling s = some (.sending data isDownloadNeeded))
    (harrives : w.arrives s data sent = false) :
    w.callService s queueImage sent = w.setCalling s none := by
  simp [callService, hcalling, harrives]

/-- Without a call under way there is nothing to send. -/
theorem callService_of_not_sending (hcalling : ¬ w.IsSending s) :
    w.callService s queueImage sent = w := by
  unfold callService
  split
  · exact absurd ⟨_, _, ‹_›⟩ hcalling
  · rfl

/-- A call that is taken up, and is not skipped. -/
theorem beginSetAVMetaData_cases (w : World ω) (s : SessionRef) (metaData : AVMetaData) :
    w.beginSetAVMetaData s metaData = w ∨
      ¬ w.IsSending s ∧ ∃ dataTracker isDownloadNeeded,
        dataTracker.Tracks metaData ∧
        w.beginSetAVMetaData s metaData =
          { w with
            sessions := Function.update w.sessions s
              { w.sessions s with metaData, isFirstMetaDataSet := false, dataTracker }
            calling := Function.update w.calling s
              (some (.sending metaData isDownloadNeeded)) } := by
  unfold beginSetAVMetaData
  dsimp only
  cases hbusy : (w.sessions s).isDestroyed || (w.calling s).isSome with
  | true => exact .inl (if_pos rfl)
  | false =>
      rw [if_neg Bool.false_ne_true]
      have hidle : ¬ w.IsSending s := by
        rintro ⟨data, b, hcalling⟩
        simp [hcalling] at hbusy
      split_ifs
      · exact .inl rfl
      · exact .inr ⟨hidle, _, _, ⟨rfl, rfl⟩, rfl⟩

/-- The thread's steps, but for the message. -/
theorem checkOutOfDate_cases (w : World ω) : w.checkOutOfDate = w ∨
    w.checkOutOfDate = { w with running := none } ∨
    ∃ task, w.running = some (task, .checking) ∧
      (w.sessions task.session).dataTracker.isOutOfDate (task.data.val .assetId)
        (task.data.val .mediaImageUri) = false ∧
      w.checkOutOfDate = { w with running := some (task, .completing) } := by
  unfold checkOutOfDate
  split
  case h_1 task hrunning =>
    split_ifs with hold
    · exact .inr (.inl rfl)
    · exact .inr (.inr ⟨task, hrunning, (Bool.not_eq_true _).mp hold, rfl⟩)
  case h_2 => exact .inl rfl

/-- A download completes for the task that was running, or nothing happens. -/
theorem completeDownload_cases (w : World ω) : w.completeDownload = w ∨
    ∃ task dataTracker, w.running = some (task, .completing) ∧
      (∀ metaData, (w.sessions task.session).dataTracker.Tracks metaData →
        dataTracker.Tracks metaData) ∧
      w.completeDownload =
        { w with
          sessions := Function.update w.sessions task.session
            { w.sessions task.session with dataTracker }
          running := some (task, .sending) } := by
  unfold completeDownload
  split
  case h_1 task hrunning =>
    exact .inr ⟨task, (w.sessions task.session).dataTracker.onDownloadCompleted
      (task.data.val .assetId) (task.data.val .mediaImageUri), hrunning, fun _ h => h, rfl⟩
  case h_2 => exact .inl rfl

/-- A waiting task is taken when none is running. -/
theorem takeTask_cases (w : World ω) : w.takeTask = w ∨
    ∃ task tasks running, w.running = none ∧ w.tasks = task :: tasks ∧
      (running = none ∨ running = some (task, .downloading)) ∧
      w.takeTask = { w with tasks, running } := by
  unfold takeTask
  split
  case h_1 task tasks hrunning htasks =>
    refine .inr ⟨task, tasks, _, hrunning, htasks, ?_, rfl⟩
    split_ifs
    · exact .inl rfl
    · exact .inr rfl
  case h_2 => exact .inl rfl

/-- A download ends for the running task, or nothing happens. -/
theorem downloadAndSetCoverImage_cases (w : World ω) (image : Option (List UInt8)) :
    w.downloadAndSetCoverImage image = w ∨
      w.downloadAndSetCoverImage image = { w with running := none } ∨
      ∃ task image', w.running = some (task, .downloading) ∧
        w.downloadAndSetCoverImage image =
          { w with running := some (task.withCoverImage image', .checking) } := by
  unfold downloadAndSetCoverImage
  split
  case h_1 task hrunning =>
    cases image with
    | none => exact .inr (.inl rfl)
    | some image => exact .inr (.inr ⟨task, image, hrunning, rfl⟩)
  case h_2 => exact .inl rfl

/-- What the thread of the downloads does, its deliveries included. -/
def OfThread : Act → Prop
  | .takeTask | .downloadAndSetCoverImage _ | .checkOutOfDate | .completeDownload
  | .deliverDownload .. => True
  | _ => False

/-- The thread touches no call. -/
theorem calling_of_thread (w : World ω) {a : Act} (hthread : OfThread a) :
    (w.step a).calling = w.calling := by
  cases a with
  | takeTask =>
      obtain heq | ⟨task, tasks, running, -, -, -, heq⟩ := takeTask_cases w <;>
        rw [step, heq]
  | downloadAndSetCoverImage image =>
      obtain heq | heq | ⟨task, image', -, heq⟩ := downloadAndSetCoverImage_cases w image <;>
        rw [step, heq]
  | checkOutOfDate =>
      obtain heq | heq | ⟨task, -, -, heq⟩ := checkOutOfDate_cases w <;>
        rw [step, heq]
  | completeDownload =>
      obtain heq | ⟨task, dataTracker, -, -, heq⟩ := completeDownload_cases w <;>
        rw [step, heq]
  | deliverDownload queueImage sent =>
      rw [step, deliverDownload]
      split
      case h_1 task hrunning =>
        obtain ⟨items, hframe⟩ := sendAVMetaData_frame w task.session task.data queueImage sent
        rw [hframe]
      case h_2 => rfl
  | _ => exact hthread.elim

/-- A call that goes on from one phase to another, neither being the message, leaves which calls
send. -/
theorem sending_update_iff {w : World ω} {s : SessionRef} {calling calling' : Option Calling}
    (hfrom : w.calling s = calling) (hold : ∀ data b, calling ≠ some (.sending data b))
    (hnew : ∀ data b, calling' ≠ some (.sending data b)) (s' : SessionRef) (data : AVMetaData)
    (b : Bool) : Function.update w.calling s calling' s' = some (.sending data b) ↔
      w.calling s' = some (.sending data b) := by
  by_cases hs : s' = s
  · subst hs
    rw [hfrom, Function.update_self]
    exact iff_of_false (hnew data b) (hold data b)
  · rw [Function.update_of_ne hs]

end World

end steps

/-! ## Agreement -/

section agree

namespace World

variable {w : World ω} {s : SessionRef}

/-- A cover does not bring an asset id along. -/
theorem undisturbed_assetId : Undisturbed .assetId := ⟨nofun, nofun⟩

/-- A call leaves at the service what it leaves of the calls. -/
theorem agrees_callService (h : w.Agrees) (queueImage : List UInt8) (sent : Bool) :
    (w.callService s queueImage sent).Agrees := by
  by_cases hcalling : w.IsSending s
  · obtain ⟨data, isDownloadNeeded, hdata⟩ := hcalling
    cases harrives : w.arrives s data sent with
    | false =>
        rw [callService_of_not_arrives hdata harrives]
        exact h
    | true =>
        obtain ⟨calling, -, heq⟩ := callService_of_arrives queueImage hdata harrives
        rw [heq]
        intro s' k hk
        refine (items_sendAVMetaData w s data queueImage sent s' hk.1).trans ?_
        by_cases hs : s' = s
        · subst hs
          simp only [harrives, and_self, if_true, Function.update_self]
          rw [AVMetaData.copyFrom_val, if_neg (assetId_of_arrives harrives), h s' k hk,
            h s' .assetId undisturbed_assetId]
        · simp only [hs, false_and, if_false, Function.update_of_ne hs]
          exact h s' k hk
  · rw [callService_of_not_sending hcalling]
    exact h

/-- A delivery disturbs the members of the asset it finds exactly if that is another one. -/
theorem agrees_deliverDownload_iff (h : w.Agrees) (hbase : w.RunsBase) (queueImage : List UInt8)
    (sent : Bool) : (w.deliverDownload queueImage sent).Agrees ↔
      ∀ task, w.running = some (task, .sending) →
        w.arrives task.session task.data sent = true →
          task.data.val .assetId = (w.items task.session).metaData.val .assetId := by
  by_cases hrunning : ∃ task, w.running = some (task, .sending)
  · obtain ⟨task, hrunning⟩ := hrunning
    have heq : w.deliverDownload queueImage sent =
        { w.sendAVMetaData task.session task.data queueImage sent with running := none } := by
      simp only [deliverDownload, hrunning]
    obtain ⟨items, hframe⟩ := sendAVMetaData_frame w task.session task.data queueImage sent
    have hval : ∀ s k, Undisturbed k → (items s).metaData.val k =
        if s = task.session ∧ w.arrives task.session task.data sent = true then
          if task.data.val .assetId ≠ (w.items task.session).metaData.val .assetId ∨
              task.data.mask k = true then
            task.data.val k
          else (w.items task.session).metaData.val k
        else (w.items s).metaData.val k := by
      intro s k hk
      rw [← items_sendAVMetaData w task.session task.data queueImage sent s hk.1, hframe]
    rw [heq, hframe]
    constructor
    · intro hagrees task' htask harrives
      rw [hrunning] at htask
      obtain rfl : task = task' := congrArg Prod.fst (Option.some.inj htask)
      by_contra hne
      have hasset := (hval task.session .assetId undisturbed_assetId).symm.trans
        ((hagrees task.session .assetId undisturbed_assetId).trans
          (h task.session .assetId undisturbed_assetId).symm)
      rw [if_pos ⟨rfl, harrives⟩, if_pos (.inl hne)] at hasset
      exact hne hasset
    · intro hkept s k hk
      refine Eq.trans ?_ (h s k hk)
      refine (hval s k hk).trans ?_
      by_cases hs : s = task.session ∧ w.arrives task.session task.data sent = true
      · obtain ⟨rfl, harrives⟩ := hs
        have hasset := hkept task hrunning harrives
        rw [if_pos ⟨rfl, harrives⟩]
        by_cases hkey : k = .assetId
        · subst hkey
          rw [hasset, ite_self]
        · have hmask := hbase task .sending hrunning nofun k hk hkey
          simp [hasset, hmask]
      · rw [if_neg hs]
  · have heq : w.deliverDownload queueImage sent = w := by
      unfold deliverDownload
      split
      · exact absurd ⟨_, ‹_›⟩ hrunning
      · rfl
    rw [heq]
    exact iff_of_true h fun task htask => absurd ⟨task, htask⟩ hrunning

/-- The messages to the service aside, nothing reaches it. -/
theorem items_step (w : World ω) {a : Act} (hcall : ∀ s queueImage sent,
      a ≠ .callService s queueImage sent)
    (hdeliver : ∀ queueImage sent, a ≠ .deliverDownload queueImage sent) :
    (w.step a).items = w.items ∧ (w.step a).applied = w.applied := by
  cases a with
  | setAVMetaData s metaData =>
      obtain heq | ⟨-, dataTracker, b, -, heq⟩ := beginSetAVMetaData_cases w s metaData <;>
        rw [step, heq] <;> exact ⟨rfl, rfl⟩
  | callService s queueImage sent => exact absurd rfl (hcall s queueImage sent)
  | removeDownload s =>
      rw [step, removeDownload]
      split <;> exact ⟨rfl, rfl⟩
  | postDownload s =>
      rw [step, postDownload]
      split <;> exact ⟨rfl, rfl⟩
  | destroy s =>
      rw [step, destroy]
      split <;> exact ⟨rfl, rfl⟩
  | takeTask =>
      obtain heq | ⟨task, tasks, running, -, -, -, heq⟩ := takeTask_cases w <;>
        rw [step, heq] <;> exact ⟨rfl, rfl⟩
  | downloadAndSetCoverImage image =>
      obtain heq | heq | ⟨task, image', -, heq⟩ := downloadAndSetCoverImage_cases w image <;>
        rw [step, heq] <;> exact ⟨rfl, rfl⟩
  | checkOutOfDate =>
      obtain heq | heq | ⟨task, -, -, heq⟩ := checkOutOfDate_cases w <;>
        rw [step, heq] <;> exact ⟨rfl, rfl⟩
  | completeDownload =>
      obtain heq | ⟨task, dataTracker, -, -, heq⟩ := completeDownload_cases w <;>
        rw [step, heq] <;> exact ⟨rfl, rfl⟩
  | deliverDownload queueImage sent => exact absurd rfl (hdeliver queueImage sent)

/-- One step. -/
theorem agrees_step_iff (h : w.Agrees) (hbase : w.RunsBase) (a : Act) :
    (w.step a).Agrees ↔ w.Kept a := by
  have hquiet : (w.step a).items = w.items ∧ (w.step a).applied = w.applied →
      (w.step a).Agrees := by
    rintro ⟨hitems, happlied⟩
    unfold Agrees
    rw [hitems, happlied]
    exact h
  cases a with
  | callService s queueImage sent =>
      exact iff_of_true (agrees_callService h queueImage sent) trivial
  | deliverDownload queueImage sent => exact agrees_deliverDownload_iff h hbase queueImage sent
  | _ => exact iff_of_true (hquiet (items_step w (fun _ _ _ => nofun) fun _ _ => nofun)) trivial

/-- What a step makes of the download that runs. -/
theorem running_step (w : World ω) (a : Act) :
    (w.step a).running = w.running ∨ (w.step a).running = none ∨
      (∃ task, w.running = none ∧ (w.step a).running = some (task, .downloading)) ∨
      (∃ task image, w.running = some (task, .downloading) ∧
        (w.step a).running = some (task.withCoverImage image, .checking)) ∨
      (∃ task, a = .checkOutOfDate ∧ w.running = some (task, .checking) ∧
        (w.step a).running = some (task, .completing)) ∨
      ∃ task, w.running = some (task, .completing) ∧
        (w.step a).running = some (task, .sending) := by
  cases a with
  | setAVMetaData s metaData =>
      obtain heq | ⟨-, dataTracker, b, -, heq⟩ := beginSetAVMetaData_cases w s metaData <;>
        rw [step, heq] <;> exact .inl rfl
  | callService s queueImage sent =>
      by_cases hcalling : w.IsSending s
      · obtain ⟨data, isDownloadNeeded, hdata⟩ := hcalling
        cases harrives : w.arrives s data sent with
        | false =>
            rw [step, callService_of_not_arrives hdata harrives]
            exact .inl rfl
        | true =>
            obtain ⟨calling, -, heq⟩ := callService_of_arrives queueImage hdata harrives
            rw [step, heq]
            exact .inl rfl
      · rw [step, callService_of_not_sending hcalling]
        exact .inl rfl
  | removeDownload s =>
      rw [step, removeDownload]
      split <;> exact .inl rfl
  | postDownload s =>
      rw [step, postDownload]
      split <;> exact .inl rfl
  | destroy s =>
      rw [step, destroy]
      split <;> exact .inl rfl
  | takeTask =>
      obtain heq | ⟨task, tasks, running, hnone, -, rfl | rfl, heq⟩ := takeTask_cases w <;>
        rw [step, heq]
      · exact .inl rfl
      · exact .inr (.inl rfl)
      · exact .inr (.inr (.inl ⟨task, hnone, rfl⟩))
  | downloadAndSetCoverImage image =>
      obtain heq | heq | ⟨task, image', hrunning, heq⟩ := downloadAndSetCoverImage_cases w image <;>
        rw [step, heq]
      · exact .inl rfl
      · exact .inr (.inl rfl)
      · exact .inr (.inr (.inr (.inl ⟨task, image', hrunning, rfl⟩)))
  | checkOutOfDate =>
      obtain heq | heq | ⟨task, hrunning, -, heq⟩ := checkOutOfDate_cases w <;>
        rw [step, heq]
      · exact .inl rfl
      · exact .inr (.inl rfl)
      · exact .inr (.inr (.inr (.inr (.inl ⟨task, rfl, hrunning, rfl⟩))))
  | completeDownload =>
      obtain heq | ⟨task, dataTracker, hrunning, -, heq⟩ := completeDownload_cases w <;>
        rw [step, heq]
      · exact .inl rfl
      · exact .inr (.inr (.inr (.inr (.inr ⟨task, hrunning, rfl⟩))))
  | deliverDownload queueImage sent =>
      rw [step, deliverDownload]
      split
      · exact .inr (.inl rfl)
      · exact .inl rfl

/-- What runs behind its download brings the asset, the image and its address along. -/
theorem RunsBase.step (h : w.RunsBase) (a : Act) : (w.step a).RunsBase := by
  intro task phase htask hphase
  obtain heq | heq | ⟨task', -, heq⟩ | ⟨task', image, -, heq⟩ | ⟨task', -, hold, heq⟩ |
    ⟨task', hold, heq⟩ := running_step w a <;> rw [heq] at htask
  · exact h task phase htask hphase
  · cases htask
  · cases htask
    exact absurd rfl hphase
  · cases htask
    intro k hk hasset
    exact task'.withCoverImage_mask image hk hasset
  · cases htask
    exact h task .checking hold nofun
  · cases htask
    exact h task .completing hold nofun

end World

end agree

/-! ## Calls and deliveries that exclude each other -/

section exclusive

namespace World

variable {w : World ω} {s : SessionRef}

/-- While no call is on its way, the service holds the asset and all members of the last call; and a
download that was found up to date is of that asset. -/
structure InStep (w : World ω) : Prop where
  tracked : ∀ s, (w.sessions s).dataTracker.Tracks (w.sessions s).metaData
  called : ∀ s data isDownloadNeeded, w.calling s = some (.sending data isDownloadNeeded) →
    data = (w.sessions s).metaData
  asset : ∀ s, ¬ w.IsSending s →
    (w.items s).metaData.val .assetId = (w.sessions s).metaData.val .assetId
  held : ∀ s, ¬ w.IsSending s → ∀ k, Undisturbed k → (w.sessions s).metaData.mask k = true →
    (w.items s).metaData.val k = (w.sessions s).metaData.val k
  delivering : ∀ task, w.IsDelivering task → ¬ w.IsSending task.session ∧
    task.Fits (w.sessions task.session).metaData

/-- At the start nothing runs. -/
theorem runsBase_init (controllers : SessionRef → List Controller) :
    (World.init controllers : World ω).RunsBase := by
  intro task phase h
  cases h

/-- At the start application and service agree. -/
theorem inStep_init (controllers : SessionRef → List Controller) :
    (World.init controllers : World ω).InStep where
  tracked _ := ⟨rfl, rfl⟩
  called := nofun
  asset _ _ := rfl
  held _ _ _ _ := nofun
  delivering := by rintro task (hrunning | hrunning) <;> cases hrunning

/-- The steps that send nothing and are no calls. -/
theorem InStep.congr (h : w.InStep) {w' : World ω} (hitems : w'.items = w.items)
    (hmetaData : ∀ s, (w'.sessions s).metaData = (w.sessions s).metaData)
    (htracker : ∀ s metaData, (w.sessions s).dataTracker.Tracks metaData →
      (w'.sessions s).dataTracker.Tracks metaData)
    (hcalling : ∀ s data b, w'.calling s = some (.sending data b) ↔
      w.calling s = some (.sending data b))
    (hdelivering : ∀ task, w'.IsDelivering task → w.IsDelivering task ∨
      ¬ w.IsSending task.session ∧ task.Fits (w.sessions task.session).metaData) : w'.InStep where
  tracked s := by
    rw [hmetaData]
    exact htracker s _ (h.tracked s)
  called s data b hdata := by
    rw [hmetaData]
    exact h.called s data b ((hcalling s data b).mp hdata)
  asset s hidle := by
    rw [hitems, hmetaData]
    exact h.asset s fun hsending => hidle (by simpa [IsSending, hcalling] using hsending)
  held s hidle := by
    rw [hitems, hmetaData]
    exact h.held s fun hsending => hidle (by simpa [IsSending, hcalling] using hsending)
  delivering task htask := by
    rw [hmetaData]
    obtain ⟨hidle, hfits⟩ := (hdelivering task htask).elim (h.delivering task) id
    exact ⟨fun hsending => hidle (by simpa [IsSending, hcalling] using hsending), hfits⟩

/-- A step that begins no delivery. -/
theorem isDelivering_step {a : Act} (hcheck : a ≠ .checkOutOfDate) {task : Download}
    (htask : (w.step a).IsDelivering task) : w.IsDelivering task := by
  obtain heq | heq | ⟨task', -, heq⟩ | ⟨task', image, -, heq⟩ | ⟨task', hcheck', -⟩ |
    ⟨task', hold, heq⟩ := running_step w a
  · simpa only [IsDelivering, heq] using htask
  · simp [IsDelivering, heq] at htask
  · simp [IsDelivering, heq] at htask
  · simp [IsDelivering, heq] at htask
  · exact absurd hcheck' hcheck
  · simp [IsDelivering, heq] at htask
    exact .inl (htask ▸ hold)

/-- A call of the application's own keeps them in step. -/
theorem InStep.setAVMetaData (h : w.InStep) {metaData : AVMetaData}
    (hexclusive : w.Exclusive (.setAVMetaData s metaData)) :
    (w.beginSetAVMetaData s metaData).InStep := by
  obtain heq | ⟨hidle, dataTracker, b, htracker, heq⟩ := beginSetAVMetaData_cases w s metaData
  · rw [heq]
    exact h
  have hdelivering : ∀ task, (w.beginSetAVMetaData s metaData).IsDelivering task →
      w.IsDelivering task := by
    rw [heq]
    exact fun _ htask => htask
  have hcalling : ∀ s', s' ≠ s → ((w.beginSetAVMetaData s metaData).IsSending s' ↔
      w.IsSending s') := by
    intro s' hs
    simp only [heq, IsSending, Function.update_of_ne hs]
  refine ⟨?_, ?_, ?_, ?_, ?_⟩
  · intro s'
    rw [heq]
    by_cases hs : s' = s
    · subst hs
      simpa using htracker
    · simpa [hs] using h.tracked s'
  · intro s' data b' hdata
    rw [heq] at hdata ⊢
    by_cases hs : s' = s
    · subst hs
      simp at hdata ⊢
      exact hdata.1.symm
    · simp only [Function.update_of_ne hs] at hdata ⊢
      exact h.called s' data b' hdata
  · intro s' hidle'
    by_cases hs : s' = s
    · subst hs
      exact absurd ⟨metaData, b, by simp [heq]⟩ hidle'
    · simpa [heq, hs] using h.asset s' (mt (hcalling s' hs).mpr hidle')
  · intro s' hidle' k hk hmask
    by_cases hs : s' = s
    · subst hs
      exact absurd ⟨metaData, b, by simp [heq]⟩ hidle'
    · simp only [heq, Function.update_of_ne hs] at hmask ⊢
      exact h.held s' (mt (hcalling s' hs).mpr hidle') k hk hmask
  · intro task htask
    have hold := hdelivering task htask
    have hs := hexclusive task hold
    obtain ⟨hidle', hfits⟩ := h.delivering task hold
    refine ⟨mt (hcalling task.session hs).mp hidle', ?_⟩
    simpa [heq, hs] using hfits

/-- A call that reaches the service keeps them in step. -/
theorem InStep.callService (h : w.InStep) (queueImage : List UInt8) {sent : Bool}
    (hreaches : w.Reaches (.callService s queueImage sent)) :
    (w.callService s queueImage sent).InStep := by
  by_cases hcalling : w.IsSending s
  · obtain ⟨data, isDownloadNeeded, hdata⟩ := hcalling
    have harrives := hreaches data isDownloadNeeded hdata
    obtain ⟨calling, hposted, heq⟩ := callService_of_arrives queueImage hdata harrives
    have hmetaData := h.called s data isDownloadNeeded hdata
    have hsending : ∀ s', (w.callService s queueImage sent).IsSending s' ↔
        s' ≠ s ∧ w.IsSending s' := by
      intro s'
      by_cases hs : s' = s
      · subst hs
        simp only [heq, IsSending, Function.update_self, ne_eq, not_true_eq_false, false_and,
          iff_false, not_exists]
        exact hposted
      · simp [heq, IsSending, hs]
    have hitems : ∀ s' k, Undisturbed k →
        ((w.callService s queueImage sent).items s').metaData.val k =
          if s' = s then
            if data.val .assetId ≠ (w.items s).metaData.val .assetId ∨ data.mask k = true then
              data.val k
            else (w.items s).metaData.val k
          else (w.items s').metaData.val k := by
      intro s' k hk
      rw [heq]
      refine (items_sendAVMetaData w s data queueImage sent s' hk.1).trans ?_
      simp [harrives]
    have hasset : ((w.callService s queueImage sent).items s).metaData.val .assetId =
        data.val .assetId := by
      rw [hitems s .assetId undisturbed_assetId, if_pos rfl]
      by_cases hne : data.val .assetId = (w.items s).metaData.val .assetId
      · rw [← hne, ite_self]
      · rw [if_pos (.inl hne)]
    refine ⟨?_, ?_, ?_, ?_, ?_⟩
    · rw [heq]
      exact h.tracked
    · intro s' data' b hdata'
      have hs := ((hsending s').mp ⟨data', b, hdata'⟩).1
      rw [heq] at hdata' ⊢
      simp only [Function.update_of_ne hs] at hdata'
      exact h.called s' data' b hdata'
    · intro s' hidle
      by_cases hs : s' = s
      · subst hs
        rw [hasset, hmetaData, heq]
      · rw [hitems s' .assetId undisturbed_assetId, if_neg hs, heq]
        exact h.asset s' fun hsend => hidle ((hsending s').mpr ⟨hs, hsend⟩)
    · intro s' hidle k hk hmask
      rw [hitems s' k hk]
      by_cases hs : s' = s
      · subst hs
        rw [heq] at hmask ⊢
        rw [if_pos rfl, hmetaData, if_pos (.inr hmask)]
      · rw [if_neg hs]
        rw [heq] at hmask ⊢
        exact h.held s' (fun hsend => hidle ((hsending s').mpr ⟨hs, hsend⟩)) k hk hmask
    · intro task htask
      have hold : w.IsDelivering task := by
        rw [heq] at htask
        exact htask
      obtain ⟨hidle, hfits⟩ := h.delivering task hold
      refine ⟨fun hsend => hidle ((hsending task.session).mp hsend).2, ?_⟩
      rw [heq]
      exact hfits
  · rw [callService_of_not_sending hcalling]
    exact h

/-- A delivery of the asset that is there. -/
theorem InStep.deliverDownload (h : w.InStep) (hbase : w.RunsBase) (queueImage : List UInt8)
    (sent : Bool) : (w.deliverDownload queueImage sent).InStep := by
  by_cases hrunning : ∃ task, w.running = some (task, .sending)
  · obtain ⟨task, hrunning⟩ := hrunning
    obtain ⟨hidle, hfits⟩ := h.delivering task (.inr hrunning)
    have hasset := hfits.1.trans (h.asset task.session hidle).symm
    have hmask := hbase task .sending hrunning nofun
    have heq : w.deliverDownload queueImage sent =
        { w.sendAVMetaData task.session task.data queueImage sent with running := none } := by
      simp only [World.deliverDownload, hrunning]
    obtain ⟨items, hframe⟩ := sendAVMetaData_frame w task.session task.data queueImage sent
    have hitems : ∀ s k, Undisturbed k → (items s).metaData.val k = (w.items s).metaData.val k := by
      intro s k hk
      refine Eq.trans ?_ ((items_sendAVMetaData w task.session task.data queueImage sent s
        hk.1).trans ?_)
      · rw [hframe]
      · by_cases hs : s = task.session ∧ w.arrives task.session task.data sent = true
        · rw [if_pos hs, hs.1]
          by_cases hkey : k = .assetId
          · subst hkey
            rw [hasset, ite_self]
          · simp [hasset, hmask k hk hkey]
        · rw [if_neg hs]
    rw [heq, hframe]
    refine ⟨h.tracked, h.called, ?_, ?_, ?_⟩
    · intro s hidle
      exact (hitems s .assetId undisturbed_assetId).trans (h.asset s hidle)
    · intro s hidle k hk hset
      exact (hitems s k hk).trans (h.held s hidle k hk hset)
    · rintro task (hdelivering | hdelivering) <;> cases hdelivering
  · have heq : w.deliverDownload queueImage sent = w := by
      unfold World.deliverDownload
      split
      · exact absurd ⟨_, ‹_›⟩ hrunning
      · rfl
    rw [heq]
    exact h

/-- The check for an outdated task keeps them in step. -/
theorem InStep.checkOutOfDate (h : w.InStep) (hexclusive : w.Exclusive .checkOutOfDate) :
    w.checkOutOfDate.InStep := by
  obtain heq | heq | ⟨task, hrunning, hdate, heq⟩ := checkOutOfDate_cases w
  · rw [heq]
    exact h
  · rw [heq]
    refine h.congr rfl (fun _ => rfl) (fun _ _ ht => ht) (fun _ _ _ => Iff.rfl) ?_
    rintro task (hdelivering | hdelivering) <;> cases hdelivering
  · have hidle := hexclusive task hrunning
    have hfits := (h.tracked task.session).fits hdate
    rw [heq]
    refine h.congr rfl (fun _ => rfl) (fun _ _ ht => ht) (fun _ _ _ => Iff.rfl) ?_
    rintro task' (hdelivering | hdelivering) <;> cases hdelivering
    exact .inr ⟨hidle, hfits⟩

/-- The calls aside, nothing is set. -/
theorem sessions_step (w : World ω) {a : Act} (hset : ∀ s metaData, a ≠ .setAVMetaData s metaData)
    (hcall : ∀ s queueImage sent, a ≠ .callService s queueImage sent) (s : SessionRef) :
    ((w.step a).sessions s).metaData = (w.sessions s).metaData ∧
      ∀ metaData, (w.sessions s).dataTracker.Tracks metaData →
        ((w.step a).sessions s).dataTracker.Tracks metaData := by
  have hsame : (w.step a).sessions = w.sessions →
      ((w.step a).sessions s).metaData = (w.sessions s).metaData ∧
        ∀ metaData, (w.sessions s).dataTracker.Tracks metaData →
          ((w.step a).sessions s).dataTracker.Tracks metaData := by
    intro hsessions
    rw [hsessions]
    exact ⟨rfl, fun _ ht => ht⟩
  cases a with
  | setAVMetaData s' metaData => exact absurd rfl (hset s' metaData)
  | callService s' queueImage sent => exact absurd rfl (hcall s' queueImage sent)
  | removeDownload s' =>
      rw [World.step, removeDownload]
      split <;> exact ⟨rfl, fun _ ht => ht⟩
  | postDownload s' =>
      rw [World.step, postDownload]
      split <;> exact ⟨rfl, fun _ ht => ht⟩
  | destroy s' =>
      rw [World.step, destroy]
      split
      · exact ⟨rfl, fun _ ht => ht⟩
      · by_cases hs : s = s'
        · subst hs
          simp [modifySession]
        · simp [modifySession, hs]
  | takeTask =>
      apply hsame
      obtain heq | ⟨task, tasks, running, -, -, -, heq⟩ := takeTask_cases w <;>
        rw [World.step, heq]
  | downloadAndSetCoverImage image =>
      apply hsame
      obtain heq | heq | ⟨task, image', -, heq⟩ := downloadAndSetCoverImage_cases w image <;>
        rw [World.step, heq]
  | checkOutOfDate =>
      apply hsame
      obtain heq | heq | ⟨task, -, -, heq⟩ := checkOutOfDate_cases w <;>
        rw [World.step, heq]
  | completeDownload =>
      obtain heq | ⟨task, dataTracker, -, htracker, heq⟩ := completeDownload_cases w
      · exact hsame (congrArg sessions heq)
      · rw [World.step, heq]
        by_cases hs : s = task.session
        · subst hs
          simpa using htracker
        · simp [hs]
  | deliverDownload queueImage sent =>
      apply hsame
      rw [World.step, World.deliverDownload]
      split
      case h_1 task hrunning =>
        obtain ⟨items, hframe⟩ := sendAVMetaData_frame w task.session task.data queueImage sent
        rw [hframe]
      case h_2 => rfl

/-- Nor does another call come to send. -/
theorem sending_step_iff (w : World ω) {a : Act}
    (hset : ∀ s metaData, a ≠ .setAVMetaData s metaData)
    (hcall : ∀ s queueImage sent, a ≠ .callService s queueImage sent) (s : SessionRef)
    (data : AVMetaData) (b : Bool) : (w.step a).calling s = some (.sending data b) ↔
      w.calling s = some (.sending data b) := by
  have hquiet : OfThread a → ((w.step a).calling s = some (.sending data b) ↔
      w.calling s = some (.sending data b)) := by
    intro hthread
    rw [calling_of_thread w hthread]
  cases a with
  | setAVMetaData s' metaData => exact absurd rfl (hset s' metaData)
  | callService s' queueImage sent => exact absurd rfl (hcall s' queueImage sent)
  | removeDownload s' =>
      rw [World.step, removeDownload]
      split
      case h_1 data' hremoving =>
        refine sending_update_iff hremoving (fun _ _ => nofun) ?_ s data b
        exact fun _ _ => nofun
      case h_2 => exact Iff.rfl
  | postDownload s' =>
      rw [World.step, postDownload]
      split
      case h_1 data' hposting =>
        refine sending_update_iff hposting (fun _ _ => nofun) ?_ s data b
        exact fun _ _ => nofun
      case h_2 => exact Iff.rfl
  | destroy s' =>
      rw [World.step, destroy]
      split <;> exact Iff.rfl
  | _ => exact hquiet trivial

/-- Every exclusive step that reaches the service keeps them in step. -/
theorem InStep.step (h : w.InStep) (hbase : w.RunsBase) {a : Act} (hexclusive : w.Exclusive a)
    (hreaches : w.Reaches a) : (w.step a).InStep := by
  have hquiet : (∀ s metaData, a ≠ .setAVMetaData s metaData) →
      (∀ s queueImage sent, a ≠ .callService s queueImage sent) →
      (∀ queueImage sent, a ≠ .deliverDownload queueImage sent) → a ≠ .checkOutOfDate →
      (w.step a).InStep := by
    intro hset hcall hdeliver hcheck
    have hsessions := sessions_step w hset hcall
    exact h.congr (items_step w hcall hdeliver).1 (fun s => (hsessions s).1)
      (fun s => (hsessions s).2) (sending_step_iff w hset hcall) fun task htask =>
        .inl (isDelivering_step hcheck htask)
  cases a with
  | setAVMetaData s metaData => exact h.setAVMetaData hexclusive
  | callService s queueImage sent => exact h.callService queueImage hreaches
  | checkOutOfDate => exact h.checkOutOfDate hexclusive
  | deliverDownload queueImage sent => exact h.deliverDownload hbase queueImage sent
  | _ => exact hquiet (fun _ _ => nofun) (fun _ _ _ => nofun) (fun _ _ => nofun) nofun

/-- Then no cover arrives over another asset. -/
theorem InStep.kept (h : w.InStep) (a : Act) : w.Kept a := by
  cases a with
  | deliverDownload queueImage sent =>
      intro task htask _
      obtain ⟨hidle, hfits⟩ := h.delivering task (.inr htask)
      exact hfits.1.trans (h.asset task.session hidle).symm
  | _ => trivial

/-- In step, every action finds what it needs fresh. -/
theorem InStep.fresh (h : w.InStep) (a : Act) : w.Fresh a := by
  cases a with
  | deliverDownload queueImage sent => exact fun task htask => (h.delivering task (.inr htask)).2
  | _ => trivial

end World

end exclusive

/-! ## Downloads that wait -/

section waiting

namespace World

variable {w : World ω} {s : SessionRef}

/-- What a step makes of the downloads that wait: one is posted, or some go. -/
theorem tasks_step (w : World ω) (a : Act) :
    (∃ s data, a = .postDownload s ∧ w.calling s = some (.posting data) ∧
      (w.step a).tasks = w.tasks ++ [⟨s, data⟩]) ∨
    w.PostsAlone a ∧ (w.step a).tasks.Sublist w.tasks := by
  cases a with
  | setAVMetaData s metaData =>
      refine .inr ⟨trivial, ?_⟩
      obtain heq | ⟨-, dataTracker, b, -, heq⟩ := beginSetAVMetaData_cases w s metaData <;>
        rw [World.step, heq]
  | callService s queueImage sent =>
      refine .inr ⟨trivial, ?_⟩
      by_cases hcalling : w.IsSending s
      · obtain ⟨data, isDownloadNeeded, hdata⟩ := hcalling
        cases harrives : w.arrives s data sent with
        | false =>
            rw [World.step, callService_of_not_arrives hdata harrives]
            exact List.Sublist.refl _
        | true =>
            obtain ⟨calling, -, heq⟩ := callService_of_arrives queueImage hdata harrives
            rw [World.step, heq]
      · rw [World.step, callService_of_not_sending hcalling]
  | removeDownload s =>
      refine .inr ⟨trivial, ?_⟩
      rw [World.step, removeDownload]
      split
      · exact List.nil_sublist _
      · exact List.Sublist.refl _
  | postDownload s =>
      rw [World.step, postDownload]
      split
      case h_1 data hposting => exact .inl ⟨s, data, rfl, hposting, rfl⟩
      case h_2 hnot =>
        exact .inr ⟨fun data hposting => absurd hposting (hnot data), List.Sublist.refl _⟩
  | destroy s =>
      refine .inr ⟨trivial, ?_⟩
      rw [World.step, destroy]
      split
      · exact List.Sublist.refl _
      · exact List.nil_sublist _
  | takeTask =>
      refine .inr ⟨trivial, ?_⟩
      obtain heq | ⟨task, tasks, running, -, htasks, -, heq⟩ := takeTask_cases w <;>
        rw [World.step, heq]
      rw [htasks]
      exact List.sublist_cons_self _ _
  | downloadAndSetCoverImage image =>
      refine .inr ⟨trivial, ?_⟩
      obtain heq | heq | ⟨task, image', -, heq⟩ := downloadAndSetCoverImage_cases w image <;>
        rw [World.step, heq]
  | checkOutOfDate =>
      refine .inr ⟨trivial, ?_⟩
      obtain heq | heq | ⟨task, -, -, heq⟩ := checkOutOfDate_cases w <;>
        rw [World.step, heq]
  | completeDownload =>
      refine .inr ⟨trivial, ?_⟩
      obtain heq | ⟨task, dataTracker, -, -, heq⟩ := completeDownload_cases w <;>
        rw [World.step, heq]
  | deliverDownload queueImage sent =>
      refine .inr ⟨trivial, ?_⟩
      rw [World.step, World.deliverDownload]
      split
      case h_1 task hrunning =>
        obtain ⟨items, hframe⟩ := sendAVMetaData_frame w task.session task.data queueImage sent
        rw [hframe]
      case h_2 => exact List.Sublist.refl _

/-- A call that is to post has just removed all downloads, or was to post before. -/
theorem posting_step {a : Act} {data : AVMetaData}
    (h : (w.step a).calling s = some (.posting data)) :
    (w.step a).tasks = [] ∨ a ≠ .postDownload s ∧ w.calling s = some (.posting data) := by
  have hquiet := calling_of_thread w (a := a)
  cases a with
  | setAVMetaData s' metaData =>
      refine .inr ⟨nofun, ?_⟩
      obtain heq | ⟨-, dataTracker, b, -, heq⟩ := beginSetAVMetaData_cases w s' metaData
      · rwa [World.step, heq] at h
      · rw [World.step, heq] at h
        by_cases hs : s = s'
        · subst hs
          simp at h
        · simpa [hs] using h
  | callService s' queueImage sent =>
      refine .inr ⟨nofun, ?_⟩
      have hother : ∀ calling, calling ≠ some (.posting data) →
          Function.update w.calling s' calling s = some (.posting data) →
          w.calling s = some (.posting data) := by
        intro calling hne hupdate
        by_cases hs : s = s'
        · subst hs
          rw [Function.update_self] at hupdate
          exact absurd hupdate hne
        · rwa [Function.update_of_ne hs] at hupdate
      rw [World.step, World.callService] at h
      split at h
      · split_ifs at h with harrives
        · obtain ⟨items, hframe⟩ := sendAVMetaData_frame w s' _ queueImage sent
          rw [hframe] at h
          refine hother _ ?_ h
          split_ifs <;> exact nofun
        · exact hother none nofun h
      · exact h
  | removeDownload s' =>
      rw [World.step, removeDownload] at h ⊢
      split at h
      · exact .inl rfl
      · exact .inr ⟨nofun, h⟩
  | postDownload s' =>
      refine .inr ?_
      rw [World.step, postDownload] at h
      split at h
      case h_1 data' hposting =>
        by_cases hs : s = s'
        · subst hs
          simp [setCalling] at h
        · refine ⟨fun heq => hs (Act.postDownload.inj heq).symm, ?_⟩
          simpa [setCalling, hs] using h
      case h_2 hnot =>
        refine ⟨?_, h⟩
        intro heq
        exact hnot data (Act.postDownload.inj heq ▸ h)
  | destroy s' =>
      refine .inr ⟨nofun, ?_⟩
      rw [World.step, destroy] at h
      split at h <;> exact h
  | _ =>
      rw [hquiet trivial] at h
      exact .inr ⟨nofun, h⟩

/-- Of each session one download waits at most, and none of a session whose call is to post. -/
structure OneEach (w : World ω) : Prop where
  nodup : (w.tasks.map (·.session)).Nodup
  posting : ∀ s data, w.calling s = some (.posting data) → s ∉ w.tasks.map (·.session)

/-- Every step leaves one task for each session. -/
theorem OneEach.step (h : w.OneEach) (a : Act) : (w.step a).OneEach := by
  obtain ⟨s, data, rfl, hposting, htasks⟩ | ⟨-, hsub⟩ := tasks_step w a
  · have hfree := h.posting s data hposting
    constructor
    · rw [htasks, List.map_append, List.map_singleton]
      refine List.nodup_append.mpr ⟨h.nodup, List.pairwise_singleton _ _, ?_⟩
      rintro s' hs' s'' hs'' rfl
      rw [List.mem_singleton.mp hs''] at hs'
      exact hfree hs'
    · intro s' data' hposting'
      rcases posting_step hposting' with hnone | ⟨hne, hold⟩
      · simp [hnone]
      · rw [htasks, List.map_append, List.mem_append, List.map_singleton, List.mem_singleton]
        rintro (hmem | rfl)
        · exact h.posting s' data' hold hmem
        · exact hne rfl
  · refine ⟨h.nodup.sublist (hsub.map _), ?_⟩
    intro s data hposting
    rcases posting_step hposting with hnone | ⟨-, hold⟩
    · simp [hnone]
    · intro hmem
      exact h.posting s data hold ((hsub.map _).subset hmem)

/-- One download waits at most, until another one is posted beside it. -/
theorem length_tasks_step_iff (h : w.tasks.length ≤ 1) (a : Act) :
    (w.step a).tasks.length ≤ 1 ↔ w.PostsAlone a := by
  obtain ⟨s, data, rfl, hposting, htasks⟩ | ⟨halone, hsub⟩ := tasks_step w a
  · have hlength : (w.tasks ++ [Download.mk s data]).length ≤ 1 ↔ w.tasks = [] := by
      rw [List.length_append, List.length_singleton, ← List.length_eq_zero_iff]
      omega
    rw [htasks, hlength]
    constructor
    · exact fun hnone _ _ => hnone
    · exact fun halone => halone data hposting
  · exact iff_of_true (hsub.length_le.trans h) halone

end World

end waiting

/-! ## Runs -/

section runs

namespace World

/-- **Covers.** The members of the metadata at the service, but for the image and its address, are
all along what the calls alone would have left there, exactly in the runs in which no cover arrives
over another asset; and so it is, and every cover is one that was asked for last, if calls reach the
service and exclude deliveries. Of each session of a client, one cover at most waits to be
downloaded; of all of them together one at most, exactly if none is posted while another waits. -/
theorem cover_disturbs_nothing (controllers : SessionRef → List Controller) (as : List Act) :
    (Always World.step Agrees (init controllers : World ω) as ↔
      Meets World.step Kept (init controllers : World ω) as) ∧
    (Meets World.step (fun w a => w.Exclusive a ∧ w.Reaches a) (init controllers : World ω) as →
      Meets World.step (fun w a => w.Kept a ∧ w.Fresh a) (init controllers : World ω) as) ∧
    Always World.step (fun w => (w.tasks.map (·.session)).Nodup) (init controllers : World ω) as ∧
    (Always World.step (fun w => w.tasks.length ≤ 1) (init controllers : World ω) as ↔
      Meets World.step PostsAlone (init controllers : World ω) as) := by
  have hbase := runsBase_init (ω := ω) controllers
  refine ⟨?_, ?_, ?_, ?_⟩
  · exact always_iff_meets_of_inv (fun w a hw => hw.step a) (fun w a hw h => agrees_step_iff h hw a)
      as hbase fun _ _ _ => rfl
  · intro hexclusive
    refine meets_of_meets (I := fun w => w.RunsBase ∧ w.InStep) ?_ ?_
      ⟨hbase, inStep_init controllers⟩ hexclusive
    · rintro w a ⟨hw, h⟩ ⟨ha, hreaches⟩
      exact ⟨hw.step a, h.step hw ha hreaches⟩
    · rintro w a ⟨-, h⟩ -
      exact ⟨h.kept a, h.fresh a⟩
  · have hinit : (init controllers : World ω).OneEach := ⟨List.nodup_nil, nofun⟩
    have hall : Always World.step OneEach (init controllers : World ω) as :=
      always_of_forall (fun w a h => OneEach.step h a) as hinit
    exact hall.mono fun w h => h.nodup
  · exact always_iff_meets (fun w a h => length_tasks_step_iff h a) as (Nat.zero_le 1)

/-- A song with a cover. -/
def coveredSong : AVMetaData :=
  ((AVMetaData.init.setAssetId "1").setTitle "song").setMediaImageUri "cover"

/-- The first call of a session arrives. -/
theorem coveredSong_arrives :
    ((init fun _ => [] : World Unit).step (.setAVMetaData 0 coveredSong)).arrives 0 coveredSong
      true = true := by
  decide

/-- It is set, and its cover is to be downloaded. -/
theorem coveredSong_exclusive : Meets World.step (fun w a => w.Exclusive a ∧ w.Reaches a)
    (init fun _ => [] : World Unit)
    [.setAVMetaData 0 coveredSong, .callService 0 [] true, .removeDownload 0, .postDownload 0] := by
  refine ⟨⟨?_, trivial⟩, ⟨trivial, ?_⟩, ⟨trivial, trivial⟩, ⟨trivial, trivial⟩, trivial⟩
  · rintro task (h | h) <;> cases h
  · intro data b h
    cases h
    exact coveredSong_arrives

/-- A song with a cover, from its call to its download. -/
theorem cover_disturbs_nothing_song : Always World.step Agrees (init fun _ => [] : World Unit)
    [.setAVMetaData 0 coveredSong, .callService 0 [] true, .removeDownload 0, .postDownload 0] :=
  (cover_disturbs_nothing (fun _ => []) _).1.mpr
    (meets_of_meets (I := fun _ => True) (fun _ _ _ _ => trivial) (fun _ _ _ h => h.1) trivial
      ((cover_disturbs_nothing (fun _ => []) _).2.1 coveredSong_exclusive))

-- Two sessions that both remove the downloads before they post their own.
example :
    let w := run World.step (init fun _ => [] : World Unit)
      [.setAVMetaData 0 coveredSong, .setAVMetaData 1 coveredSong, .callService 0 [] true,
        .callService 1 [] true, .removeDownload 0, .removeDownload 1, .postDownload 0,
        .postDownload 1]
    w.tasks.map (·.session) = [0, 1] := by
  decide

/-- If all calls before have reached the service, a call that is skipped would do nothing if its last
one set the same members; the others may be left as they were before. -/
theorem skipped_call (controllers : SessionRef → List Controller) (as : List Act) (s : SessionRef)
    (metaData : AVMetaData) (queueImage : List UInt8)
    (h : Meets World.step (fun w a => w.Exclusive a ∧ w.Reaches a) (init controllers : World ω)
      as) :
    let w := run World.step (init controllers : World ω) as
    ¬ w.IsSending s → equalWithUri (w.sessions s).metaData metaData = true →
      w.arrives s metaData true = true →
      ((∀ k, Undisturbed k → SameField ((w.items s).metaData.val k)
          (((w.sendAVMetaData s metaData queueImage true).items s).metaData.val k)) ↔
        ∀ k, Undisturbed k → metaData.mask k = true → (w.sessions s).metaData.mask k = true ∨
          SameField ((w.items s).metaData.val k) (metaData.val k)) := by
  intro w hidle hequal harrives
  have hall : Always World.step (fun w : World ω => w.RunsBase ∧ w.InStep) (init controllers) as :=
    always_of_meets (fun w a hw ha => ⟨hw.1.step a, hw.2.step hw.1 ha.1 ha.2⟩)
      ⟨runsBase_init controllers, inStep_init controllers⟩ h
  have hinv : w.RunsBase ∧ w.InStep := hall.last
  have hunchanged : ∀ k : MetaKey, k.type ≠ .image →
      k.type.changed ((w.sessions s).metaData.val k) (metaData.val k) = false := by
    intro k hk
    simp only [equalWithUri, Bool.and_eq_true, List.all_eq_true] at hequal
    simpa [hk] using hequal.2 k (MetaKey.mem_all k)
  have hasset : metaData.val .assetId = (w.items s).metaData.val .assetId := by
    rw [hinv.2.asset s hidle]
    have hsame : (w.sessions s).metaData.val .assetId = metaData.val .assetId := by
      simpa [FieldType.changed] using hunchanged .assetId undisturbed_assetId.1
    exact hsame.symm
  have hafter : ∀ k, Undisturbed k →
      ((w.sendAVMetaData s metaData queueImage true).items s).metaData.val k =
        if metaData.mask k = true then metaData.val k else (w.items s).metaData.val k := by
    intro k hk
    rw [items_sendAVMetaData w s metaData queueImage true s hk.1, if_pos ⟨rfl, harrives⟩]
    simp [hasset]
  refine forall_congr' fun k => forall_congr' fun hk => ?_
  rw [hafter k hk]
  by_cases hmask : metaData.mask k = true
  · rw [if_pos hmask]
    simp only [hmask, forall_const]
    refine ⟨.inr, fun hset => hset.elim (fun hset => ?_) id⟩
    rw [hinv.2.held s hidle k hk hset]
    exact .inr (hunchanged k hk.1)
  · rw [if_neg hmask]
    exact iff_of_true (.inl rfl) fun hset => absurd hset hmask

/-- The covered song, set twice. -/
theorem skipped_call_song :
    let w := run World.step (init fun _ => [] : World Unit)
      [.setAVMetaData 0 coveredSong, .callService 0 [] true, .removeDownload 0, .postDownload 0]
    (∀ k, Undisturbed k → SameField ((w.items 0).metaData.val k)
        (((w.sendAVMetaData 0 coveredSong [] true).items 0).metaData.val k)) ↔
      ∀ k, Undisturbed k → coveredSong.mask k = true → (w.sessions 0).metaData.mask k = true ∨
        SameField ((w.items 0).metaData.val k) (coveredSong.val k) :=
  skipped_call (fun _ => []) _ 0 coveredSong [] coveredSong_exclusive
    (by rintro ⟨data, b, h⟩; cases h) (by decide) (by decide)

end World

end runs

end AvSession.Native
