import AvSession.Item
import AvSession.Lib.OrderedMap
import AvSession.Lib.Run
import Mathlib.Data.Finset.Basic

/-!
# Apps with sessions

Audio of an app in the background is muted unless the app has a session. The controller keeps, for
each uid, the set of the pids that have created a session.

* `BackgroundAudioController`, `onSessionCreate`, `onSessionRelease` — the controller and what it
  does to an app.
* `handleAppMuteState`, `handleAudioStreamRendererStateChange` — where it asks whether an app has a
  session.
* `BackgroundState`, `BackgroundOp` — the controller next to the sessions that are alive.
* `never_sessionless_iff` — exactly the runs in which no app with a session is treated as one
  without.
-/

namespace AvSession.Background

open Std AvSession.Lib

/-! ## The controller -/

section controller

/-- What the controller reads of a session. Source: avsession_descriptor.h, AVSessionDescriptor. -/
structure Descriptor where
  uid : Uid
  pid : Pid
  isThirdPartyApp : Bool
deriving DecidableEq

/-- What the controller does to an app. -/
inductive Effect
  | addObservedApp (uid : Uid)
  | removeObservedApp (uid : Uid)
  | muteAudioStream (uid : Uid)
  | unMuteAudioStream (uid : Uid)
deriving DecidableEq

/-- Source: background_audio_controller.h, BackgroundAudioController. -/
structure BackgroundAudioController where
  sessionUIDs : ExtTreeMap Uid (Finset Pid) compare

/-- What is asked about a renderer whose state has changed.
Source: background_audio_controller.cpp,
BackgroundAudioController::HandleAudioStreamRendererStateChange. -/
structure RendererChange where
  clientUID : Uid
  isRunning : Bool
  isAppBackground : Bool
  isSystemApp : Bool
  backMute : Bool

namespace BackgroundAudioController

variable (b : BackgroundAudioController)

/-- Nobody has a session. -/
def init : BackgroundAudioController := ⟨∅⟩

/-- Source: background_audio_controller.cpp, BackgroundAudioController::HasAVSession. -/
def hasAVSession (uid : Uid) : Bool := b.sessionUIDs[uid]?.isSome

/-- Source: background_audio_controller.cpp, BackgroundAudioController::OnSessionCreate. -/
def onSessionCreate (d : Descriptor) : BackgroundAudioController × List Effect :=
  let sessionUIDs :=
    match b.sessionUIDs[d.uid]? with
    | none => b.sessionUIDs.insert d.uid {d.pid}
    | some pids => b.sessionUIDs.insert d.uid (insert d.pid pids)
  (⟨sessionUIDs⟩, [.removeObservedApp d.uid])

/-- The pid is forgotten, and the uid with its last pid. -/
def erasePid (d : Descriptor) : ExtTreeMap Uid (Finset Pid) compare × Bool :=
  match b.sessionUIDs[d.uid]? with
  | none => (b.sessionUIDs, false)
  | some pids =>
      if pids.erase d.pid = ∅ then (b.sessionUIDs.erase d.uid, true)
      else (b.sessionUIDs.insert d.uid (pids.erase d.pid), false)

/-- Source: background_audio_controller.cpp, BackgroundAudioController::OnSessionRelease. -/
def onSessionRelease (d : Descriptor) (isAppBackground : Bool) :
    BackgroundAudioController × List Effect :=
  let (sessionUIDs, isEmpty) := b.erasePid d
  (⟨sessionUIDs⟩,
    if d.isThirdPartyApp && isEmpty then
      .addObservedApp d.uid :: (if isAppBackground then [.muteAudioStream d.uid] else [])
    else [])

/-- Source: background_audio_controller.cpp, BackgroundAudioController::HandleAppMuteState. -/
def handleAppMuteState (uid : Uid) (isBackground isSystemApp : Bool) : List Effect :=
  if !isBackground then [.unMuteAudioStream uid]
  else if isSystemApp then []
  else if b.hasAVSession uid then []
  else [.muteAudioStream uid]

/-- Source: background_audio_controller.cpp,
BackgroundAudioController::HandleAudioStreamRendererStateChange. -/
def handleAudioStreamRendererStateChange (infos : List RendererChange) : List Effect :=
  infos.flatMap fun info =>
    if !info.isRunning then []
    else if !info.isAppBackground then
      .addObservedApp info.clientUID ::
        (if !info.backMute then [] else [.unMuteAudioStream info.clientUID])
    else if b.hasAVSession info.clientUID then []
    else if info.isSystemApp then []
    else if info.backMute then []
    else [.muteAudioStream info.clientUID]

/-- The pids that are counted for a uid. -/
def counted (uid : Uid) : Finset Pid := b.sessionUIDs[uid]?.getD ∅

/-- No uid is kept without a pid. -/
def NoEmpty : Prop :=
  ∀ (uid : Uid) (pids : Finset Pid), b.sessionUIDs[uid]? = some pids → pids ≠ ∅

variable {b} {d : Descriptor} {uid : Uid} {pid : Pid}

/-- At the start nobody is counted. -/
theorem noEmpty_init : init.NoEmpty := by
  intro uid pids h
  simp [init] at h

/-- An application has a session exactly when one of its processes is counted. -/
theorem hasAVSession_iff (h : b.NoEmpty) :
    b.hasAVSession uid = true ↔ ∃ pid, pid ∈ b.counted uid := by
  unfold hasAVSession counted
  cases hget : b.sessionUIDs[uid]? with
  | none => simp
  | some pids =>
      obtain ⟨pid, hpid⟩ := Finset.nonempty_iff_ne_empty.mpr (h uid pids hget)
      exact iff_of_true rfl ⟨pid, hpid⟩

/-- A creation adds the pid. -/
theorem getElem?_onSessionCreate : (b.onSessionCreate d).1.sessionUIDs[uid]? =
    if d.uid = uid then some (insert d.pid (b.counted uid)) else b.sessionUIDs[uid]? := by
  unfold onSessionCreate counted
  cases hget : b.sessionUIDs[d.uid]? with
  | none =>
      dsimp only
      rw [OrderedMap.getElem?_insert]
      split_ifs with huid
      · rw [← huid, hget]
        rfl
      · rfl
  | some pids =>
      dsimp only
      rw [OrderedMap.getElem?_insert]
      split_ifs with huid
      · rw [← huid, hget]
        rfl
      · rfl

/-- A release removes it, whoever else has it. -/
theorem getElem?_onSessionRelease (isAppBackground : Bool) :
    (b.onSessionRelease d isAppBackground).1.sessionUIDs[uid]? =
      if d.uid = uid then
        if (b.counted uid).erase d.pid = ∅ then none else some ((b.counted uid).erase d.pid)
      else b.sessionUIDs[uid]? := by
  unfold onSessionRelease erasePid counted
  cases hget : b.sessionUIDs[d.uid]? with
  | none =>
      dsimp only
      split_ifs with huid hempty
      · rw [← huid, hget]
      · rw [← huid, hget] at hempty
        exact absurd (Finset.erase_empty _) hempty
      · rfl
  | some pids =>
      by_cases huid : d.uid = uid
      · subst huid
        rw [if_pos rfl, hget]
        dsimp only [Option.getD_some]
        split_ifs with hempty
        · rw [OrderedMap.getElem?_erase, if_pos rfl]
        · rw [OrderedMap.getElem?_insert, if_pos rfl]
      · rw [if_neg huid]
        dsimp only
        split_ifs
        · rw [OrderedMap.getElem?_erase, if_neg huid]
        · rw [OrderedMap.getElem?_insert, if_neg huid]

/-- A creation counts its process. -/
theorem counted_onSessionCreate : (b.onSessionCreate d).1.counted uid =
    if d.uid = uid then insert d.pid (b.counted uid) else b.counted uid := by
  unfold counted
  rw [getElem?_onSessionCreate]
  split_ifs <;> rfl

/-- A release stops counting its process. -/
theorem counted_onSessionRelease (isAppBackground : Bool) :
    (b.onSessionRelease d isAppBackground).1.counted uid =
      if d.uid = uid then (b.counted uid).erase d.pid else b.counted uid := by
  unfold counted
  rw [getElem?_onSessionRelease]
  split_ifs with huid hempty
  · exact hempty.symm
  · rfl
  · rfl

/-- A creation leaves no empty set. -/
theorem NoEmpty.onSessionCreate (h : b.NoEmpty) (d : Descriptor) :
    (b.onSessionCreate d).1.NoEmpty := by
  intro uid pids hget
  rw [getElem?_onSessionCreate] at hget
  split_ifs at hget
  · obtain rfl := Option.some.inj hget
    exact Finset.insert_ne_empty _ _
  · exact h uid pids hget

/-- A release leaves no empty set. -/
theorem NoEmpty.onSessionRelease (h : b.NoEmpty) (d : Descriptor) (isAppBackground : Bool) :
    (b.onSessionRelease d isAppBackground).1.NoEmpty := by
  intro uid pids hget
  rw [getElem?_onSessionRelease] at hget
  split_ifs at hget with _ hempty
  · obtain rfl := Option.some.inj hget
    exact hempty
  · exact h uid pids hget

/-- An app is observed and muted at a release only if it is no longer counted. -/
theorem hasAVSession_of_mem_onSessionRelease {isAppBackground : Bool}
    (h : Effect.addObservedApp uid ∈ (b.onSessionRelease d isAppBackground).2 ∨
      Effect.muteAudioStream uid ∈ (b.onSessionRelease d isAppBackground).2) :
    (b.onSessionRelease d isAppBackground).1.hasAVSession uid = false := by
  unfold onSessionRelease erasePid at h ⊢
  cases hget : b.sessionUIDs[d.uid]? with
  | none => simp [hget] at h
  | some pids =>
      by_cases hempty : pids.erase d.pid = ∅
      · have huid : d.uid = uid := by
          simp only [hget, hempty, if_true, Bool.and_true] at h
          split_ifs at h <;> simp at h <;> exact h.symm
        simp only [hempty, if_true]
        unfold hasAVSession
        rw [OrderedMap.getElem?_erase, if_pos huid]
        rfl
      · simp [hget, hempty] at h

end BackgroundAudioController

end controller

/-! ## The sessions that are alive -/

section sessions

/-- The controller, and the sessions that were created and not released. -/
structure BackgroundState where
  controller : BackgroundAudioController
  live : List Descriptor

/-- Nobody has a session. -/
def BackgroundState.init : BackgroundState := ⟨.init, []⟩

/-- What can happen. `isAppBackground` and `isSystemApp` are answers of the app manager and of the
permission check. -/
inductive BackgroundOp
  | onSessionCreate (d : Descriptor)
  | onSessionRelease (d : Descriptor) (isAppBackground : Bool)
  | handleAppMuteState (uid : Uid) (isBackground isSystemApp : Bool)
  | handleAudioStreamRendererStateChange (infos : List RendererChange)

namespace BackgroundOp

/-- One step. -/
def step (s : BackgroundState) : BackgroundOp → BackgroundState
  | onSessionCreate d => ⟨(s.controller.onSessionCreate d).1, d :: s.live⟩
  | onSessionRelease d isAppBackground =>
      ⟨(s.controller.onSessionRelease d isAppBackground).1, s.live.erase d⟩
  | handleAppMuteState .. | handleAudioStreamRendererStateChange .. => s

/-- What a step does to apps. -/
def effects (s : BackgroundState) : BackgroundOp → List Effect
  | onSessionCreate d => (s.controller.onSessionCreate d).2
  | onSessionRelease d isAppBackground => (s.controller.onSessionRelease d isAppBackground).2
  | handleAppMuteState uid isBackground isSystemApp =>
      s.controller.handleAppMuteState uid isBackground isSystemApp
  | handleAudioStreamRendererStateChange infos =>
      s.controller.handleAudioStreamRendererStateChange infos

end BackgroundOp

/-- A session of the uid is alive. -/
def BackgroundState.Live (s : BackgroundState) (uid : Uid) : Prop := ∃ d ∈ s.live, d.uid = uid

/-- A uid is treated as one with a session exactly if it has one. -/
def Agrees (s : BackgroundState) : Prop :=
  ∀ uid, s.controller.hasAVSession uid = true ↔ s.Live uid

/-- No app with a session is muted, and none is observed when a session is released. -/
def Spares (s : BackgroundState) (op : BackgroundOp) : Prop :=
  ∀ uid, (op.step s).Live uid → Effect.muteAudioStream uid ∉ op.effects s ∧
    ∀ d isAppBackground, op = .onSessionRelease d isAppBackground →
      Effect.addObservedApp uid ∉ op.effects s

/-- When a session is released, another pid of the uid is counted, or no other session of the uid is
alive. -/
def ReleaseOk (s : BackgroundState) : BackgroundOp → Prop
  | .onSessionRelease d _ =>
      (∃ pid ∈ s.controller.counted d.uid, pid ≠ d.pid) ∨
        ∀ d' ∈ s.live.erase d, d'.uid ≠ d.uid
  | _ => True

/-- Every pid that is counted has a session, and no uid is kept without a pid. -/
structure CountInv (s : BackgroundState) : Prop where
  noEmpty : s.controller.NoEmpty
  live : ∀ uid pid, pid ∈ s.controller.counted uid → ∃ d ∈ s.live, d.uid = uid ∧ d.pid = pid

variable {s : BackgroundState} {op : BackgroundOp} {d d' : Descriptor} {uid : Uid}

/-- At the start there is nothing to count. -/
theorem countInv_init : CountInv .init where
  noEmpty := BackgroundAudioController.noEmpty_init
  live uid pid h := by
    simp [BackgroundState.init, BackgroundAudioController.init,
      BackgroundAudioController.counted] at h

/-- Every notification keeps the count. -/
theorem CountInv.step (h : CountInv s) (op : BackgroundOp) : CountInv (op.step s) := by
  cases op with
  | onSessionCreate d =>
      refine ⟨h.noEmpty.onSessionCreate d, fun uid pid hpid => ?_⟩
      change pid ∈ (s.controller.onSessionCreate d).1.counted uid at hpid
      rw [BackgroundAudioController.counted_onSessionCreate] at hpid
      split_ifs at hpid with huid
      · rcases Finset.mem_insert.mp hpid with rfl | hpid
        · exact ⟨d, List.mem_cons_self, huid, rfl⟩
        · obtain ⟨d', hd', hlive⟩ := h.live uid pid hpid
          exact ⟨d', List.mem_cons_of_mem d hd', hlive⟩
      · obtain ⟨d', hd', hlive⟩ := h.live uid pid hpid
        exact ⟨d', List.mem_cons_of_mem d hd', hlive⟩
  | onSessionRelease d isAppBackground =>
      refine ⟨h.noEmpty.onSessionRelease d isAppBackground, fun uid pid hpid => ?_⟩
      change pid ∈ (s.controller.onSessionRelease d isAppBackground).1.counted uid at hpid
      rw [BackgroundAudioController.counted_onSessionRelease] at hpid
      split_ifs at hpid with huid
      · obtain ⟨hne, hpid⟩ := Finset.mem_erase.mp hpid
        obtain ⟨d', hd', hlive⟩ := h.live uid pid hpid
        refine ⟨d', (List.mem_erase_of_ne ?_).mpr hd', hlive⟩
        rintro rfl
        exact hne hlive.2.symm
      · obtain ⟨d', hd', hlive⟩ := h.live uid pid hpid
        refine ⟨d', (List.mem_erase_of_ne ?_).mpr hd', hlive⟩
        rintro rfl
        exact huid hlive.1
  | handleAppMuteState => exact h
  | handleAudioStreamRendererStateChange => exact h

/-- A uid that is treated as one with a session has one. -/
theorem CountInv.live_of_hasAVSession (h : CountInv s)
    (huid : s.controller.hasAVSession uid = true) : s.Live uid := by
  obtain ⟨pid, hpid⟩ := (BackgroundAudioController.hasAVSession_iff h.noEmpty).mp huid
  obtain ⟨d, hd, huid, -⟩ := h.live uid pid hpid
  exact ⟨d, hd, huid⟩

/-- A creation keeps the agreement. -/
theorem Agrees.onSessionCreate (h : Agrees s) (hinv : CountInv s) (d : Descriptor) :
    Agrees ((BackgroundOp.onSessionCreate d).step s) := by
  have hinv' := hinv.step (.onSessionCreate d)
  intro uid
  refine ⟨hinv'.live_of_hasAVSession, ?_⟩
  rintro ⟨d', hd', huid⟩
  rw [BackgroundAudioController.hasAVSession_iff hinv'.noEmpty]
  show ∃ pid, pid ∈ (s.controller.onSessionCreate d).1.counted uid
  rw [BackgroundAudioController.counted_onSessionCreate]
  split_ifs with hd
  · exact ⟨d.pid, Finset.mem_insert_self _ _⟩
  · have hlive : d' ∈ s.live := (List.mem_cons.mp hd').resolve_left fun heq => hd (heq ▸ huid)
    exact (BackgroundAudioController.hasAVSession_iff hinv.noEmpty).mp
      ((h uid).mpr ⟨d', hlive, huid⟩)

/-- A release keeps it exactly under the condition. -/
theorem Agrees.onSessionRelease_iff (h : Agrees s) (hinv : CountInv s) (d : Descriptor)
    (isAppBackground : Bool) :
    Agrees ((BackgroundOp.onSessionRelease d isAppBackground).step s) ↔
      ReleaseOk s (.onSessionRelease d isAppBackground) := by
  have hinv' := hinv.step (.onSessionRelease d isAppBackground)
  have hhas : ∀ uid, ((BackgroundOp.onSessionRelease d isAppBackground).step
      s).controller.hasAVSession uid = true ↔
        ∃ pid, pid ∈ if d.uid = uid then (s.controller.counted uid).erase d.pid
          else s.controller.counted uid := by
    intro uid
    rw [BackgroundAudioController.hasAVSession_iff hinv'.noEmpty]
    show (∃ pid, pid ∈ (s.controller.onSessionRelease d isAppBackground).1.counted uid) ↔ _
    rw [BackgroundAudioController.counted_onSessionRelease]
  constructor
  · intro hagrees
    by_cases hlive : ((BackgroundOp.onSessionRelease d isAppBackground).step s).Live d.uid
    · obtain ⟨pid, hpid⟩ := (hhas d.uid).mp ((hagrees d.uid).mpr hlive)
      rw [if_pos rfl] at hpid
      obtain ⟨hne, hpid⟩ := Finset.mem_erase.mp hpid
      exact Or.inl ⟨pid, hpid, hne⟩
    · exact Or.inr fun d' hd' huid => hlive ⟨d', hd', huid⟩
  · intro hok uid
    refine ⟨hinv'.live_of_hasAVSession, ?_⟩
    rintro ⟨d', hd', huid⟩
    rw [hhas]
    split_ifs with hd
    · subst hd
      rcases hok with ⟨pid, hpid, hne⟩ | hgone
      · exact ⟨pid, Finset.mem_erase.mpr ⟨hne, hpid⟩⟩
      · exact absurd huid (hgone d' hd')
    · have hlive : d' ∈ s.live := List.mem_of_mem_erase hd'
      exact (BackgroundAudioController.hasAVSession_iff hinv.noEmpty).mp
        ((h uid).mpr ⟨d', hlive, huid⟩)

/-- An app is muted only if it is treated as one without a session. -/
theorem hasAVSession_of_mem_effects (hmute : Effect.muteAudioStream uid ∈ op.effects s) :
    (op.step s).controller.hasAVSession uid = false := by
  cases op with
  | onSessionCreate d =>
      simp [BackgroundOp.effects, BackgroundAudioController.onSessionCreate] at hmute
  | onSessionRelease d isAppBackground =>
      exact BackgroundAudioController.hasAVSession_of_mem_onSessionRelease (Or.inr hmute)
  | handleAppMuteState uid' isBackground isSystemApp =>
      change Effect.muteAudioStream uid ∈
        s.controller.handleAppMuteState uid' isBackground isSystemApp at hmute
      unfold BackgroundAudioController.handleAppMuteState at hmute
      split_ifs at hmute with _ _ hhas <;> simp at hmute
      · subst hmute
        exact Bool.eq_false_iff.mpr hhas
  | handleAudioStreamRendererStateChange infos =>
      obtain ⟨info, -, hinfo⟩ := List.mem_flatMap.mp hmute
      split_ifs at hinfo with _ _ _ hhas <;> simp at hinfo
      · subst hinfo
        exact Bool.eq_false_iff.mpr hhas

/-- Where the agreement holds after a step, the step has spared the apps with sessions. -/
theorem Agrees.spares (h : Agrees (op.step s)) : Spares s op := by
  intro uid hlive
  have hhas := (h uid).mpr hlive
  refine ⟨fun hmute => ?_, ?_⟩
  · rw [hasAVSession_of_mem_effects hmute] at hhas
    cases hhas
  · rintro d isAppBackground rfl hobserve
    have hnone := BackgroundAudioController.hasAVSession_of_mem_onSessionRelease (Or.inl hobserve)
    exact nomatch hhas.symm.trans hnone

/-- **Apps with sessions.** In a run, every uid with a session is treated as one with a session all
along, and is spared by every step, exactly if each release leaves another pid of the uid counted
or no session of it. -/
theorem never_sessionless_iff (ops : List BackgroundOp) :
    Always BackgroundOp.step Agrees .init ops ∧ Meets BackgroundOp.step Spares .init ops ↔
      Meets BackgroundOp.step ReleaseOk .init ops := by
  refine always_and_meets_iff (fun _ op hs => hs.step op) (fun s op hs hagrees => ?_) ops
    countInv_init ?_
  · have hstep : Agrees (op.step s) ↔ ReleaseOk s op := by
      cases op with
      | onSessionCreate d => exact iff_of_true (hagrees.onSessionCreate hs d) trivial
      | onSessionRelease d isAppBackground => exact hagrees.onSessionRelease_iff hs d _
      | handleAppMuteState => exact iff_of_true hagrees trivial
      | handleAudioStreamRendererStateChange => exact iff_of_true hagrees trivial
    rw [and_iff_left_of_imp Agrees.spares, hstep]
  · intro uid
    simp [BackgroundState.init, BackgroundAudioController.init, BackgroundState.Live,
      BackgroundAudioController.hasAVSession]

/-- A process creates two sessions and releases one of them. -/
def oneOfTwoReleased (d : Descriptor) : List BackgroundOp :=
  [.onSessionCreate d, .onSessionCreate d, .onSessionRelease d true]

/-- A session of a process of the system, which gets one in each user. -/
def systemSession : Descriptor := ⟨5557, 1000, false⟩

/-- A session of a third-party app. -/
def musicSession : Descriptor := ⟨20010001, 1000, true⟩

/-- One of two sessions of a process is released: the uid counts as one without a session although
the process has the other, and a third-party app is muted. -/
theorem muted_with_session :
    ¬ Always BackgroundOp.step Agrees .init (oneOfTwoReleased systemSession) ∧
      ¬ (Always BackgroundOp.step Agrees .init (oneOfTwoReleased musicSession) ∧
        Meets BackgroundOp.step Spares .init (oneOfTwoReleased musicSession)) := by
  constructor
  · rintro ⟨-, -, -, hagrees⟩
    have hhas := (hagrees systemSession.uid).mpr ⟨systemSession, by decide, rfl⟩
    revert hhas
    decide
  · rintro ⟨-, -, -, hrelease, -⟩
    refine (hrelease musicSession.uid ⟨musicSession, List.mem_cons_self, rfl⟩).1 ?_
    decide

end sessions

end AvSession.Background
