import AvSession.Common.Codes
import AvSession.Meta.MetaData
import AvSession.Service.FrontKept

/-!
# Whether a session is shown in the front list

A session item evaluates whether it has something to show, each time its metadata or its commands
change, and keeps the last answer that it passed on in `isFirstAddToFront_`. The service adds it to
the front list of its user, or removes it, when the answer changes.

* `FrontItem`, `ItemUpdate` — what the evaluation reads, and the calls that change it.
* `handleFrontSession` — the evaluation, with the callback to the service.
* `FollowsEvaluation` — whether the service follows the evaluation: the target user has the session,
  and `UpdateFrontSession` does not refuse it.
* `listed` — the list as the evaluations leave it: the last one that changed the answer and that the
  service followed decides, and the creation if there was none.
* `FrontAgrees`, `front_always` — the flag is the last answer, and the front list of the user is what
  the evaluations make of it.
-/

namespace AvSession.Service

open Std AvSession.Common.Codes AvSession.Lib AvSession.Lib.OrderedMap AvSession.Registry
  AvSession.Meta

/-! ## The session item -/

section item

/-- An evaluation: whether it found something to show, and whether the service followed it. -/
structure Evaluation where
  answer : Bool
  followed : Bool

/-- What the evaluation of a session reads, and its flag. No field of the source are `pushed`, which
says whether the creation put the session into the front list of its user, and the evaluations so
far, the last one first. Source: avsession_item.h, `AVSessionItem` -/
structure FrontItem where
  metaData : AVMetaData
  supportedCmd : List ℤ
  supportedCastCmds : List ℤ
  isFirstAddToFront : Bool
  pushed : Bool
  evaluations : List Evaluation

/-- A new session. -/
def FrontItem.init (pushed : Bool) : FrontItem where
  metaData := .init
  supportedCmd := []
  supportedCastCmds := []
  isFirstAddToFront := true
  pushed := pushed
  evaluations := []

/-- What an evaluation learns from outside. -/
structure Surroundings where
  oracle : Oracle
  /-- The title and the icon URI of the current item of the cast controller, if it has a
  description. -/
  castItem : Option (String × String)
  /-- `AVRouter::IsInMirrorToStreamState` -/
  isInMirrorToStreamState : Bool
  /-- `AVRouter::GetMirrorCastHandle` -/
  mirrorCastHandle : ℤ

variable (i : FrontItem) (w : Surroundings)

/-- `isMetaEmpty` -/
def isMetaEmpty : Bool :=
  i.metaData.val .title == "" && (i.metaData.val .mediaImage).isNone

/-- `isCastMetaEmpty` -/
def isCastMetaEmpty : Bool :=
  match w.castItem with
  | none => true
  | some (title, iconUri) => title == "" && iconUri == ""

/-- The exception for mirror casts. -/
def needRemoveNtfInMirror : Bool :=
  !w.isInMirrorToStreamState && w.mirrorCastHandle != -1 &&
    (isMetaEmpty i || i.supportedCmd.isEmpty)

/-- The condition of `HandleFrontSession`, turned round: some metadata and some command, local or
cast, outside the exception. -/
def hasContent : Bool :=
  !(isMetaEmpty i && isCastMetaEmpty w) &&
    !(i.supportedCmd.isEmpty && i.supportedCastCmds.isEmpty) && !needRemoveNtfInMirror i w

/-! ### The calls -/

/-- The commands that a cast command stands for, the one that is looked up first.
Source: avcast_control_command.h; avsession_item.cpp, `AVSessionItem::AddSupportCastCommand` -/
def castCommands (cmd : ℤ) : List ℤ :=
  if cmd = 13 then [0, 1, 2]       -- PLAY_STATE_CHANGE: PLAY, PAUSE, STOP
  else if cmd = 7 then [7, 5, 6]   -- SEEK: SEEK, FAST_FORWARD, REWIND
  else [cmd]

/-- A call that changes what the evaluation reads. -/
inductive ItemUpdate
  | setAVMetaData (newData : AVMetaData)
  | addSupportCommand (cmd : ℤ)
  | deleteSupportCommand (cmd : ℤ)
  | setSupportCommand (cmds : List ℤ)
  | addSupportCastCommand (cmd : ℤ)
  | deleteSupportCastCommand (cmd : ℤ)
  | disconnect

/-- A command that `AddSupportCommand` and `DeleteSupportCommand` work on. -/
def isSupportCommand (cmd : ℤ) : Bool :=
  decide (SESSION_CMD_INVALID < cmd ∧ cmd < SESSION_CMD_MAX ∧ cmd ≠ SESSION_CMD_MEDIA_KEY_SUPPORT)

/-- A command that `AddSupportCastCommand` and `DeleteSupportCastCommand` work on. -/
def isSupportCastCommand (cmd : ℤ) : Bool :=
  decide (CAST_CONTROL_CMD_INVALID < cmd ∧ cmd < CAST_CONTROL_CMD_MAX)

/-- The item after a call, or `none` if the call returns before the evaluation.
Source: avsession_item.cpp, `AVSessionItem::SetAVMetaData`, `AddSupportCommand`,
`DeleteSupportCommand`, `SetSupportCommand`, `AddSupportCastCommand`, `DeleteSupportCastCommand`,
and the end of a cast -/
def ItemUpdate.apply (i : FrontItem) : ItemUpdate → Option FrontItem
  | setAVMetaData newData => some { i with metaData := (i.metaData.copyFrom newData).1 }
  | addSupportCommand cmd =>
      if !isSupportCommand cmd || i.supportedCmd.contains cmd then none
      else some { i with supportedCmd := i.supportedCmd ++ [cmd] }
  | deleteSupportCommand cmd =>
      if !isSupportCommand cmd then none
      else some { i with supportedCmd := i.supportedCmd.filter (· ≠ cmd) }
  | setSupportCommand cmds => some { i with supportedCmd := cmds }
  | addSupportCastCommand cmd =>
      if !isSupportCastCommand cmd ||
          (castCommands cmd).head?.any i.supportedCastCmds.contains then none
      else some { i with supportedCastCmds := i.supportedCastCmds ++ castCommands cmd }
  | deleteSupportCastCommand cmd =>
      if !isSupportCastCommand cmd then none
      else some { i with supportedCastCmds :=
                           i.supportedCastCmds.filter fun c => !(castCommands cmd).contains c }
  | disconnect => some { i with supportedCastCmds := [] }

/-- No call touches the flag or what is recorded. -/
theorem apply_frame {i i' : FrontItem} {u : ItemUpdate} (h : u.apply i = some i') :
    i'.isFirstAddToFront = i.isFirstAddToFront ∧ i'.pushed = i.pushed ∧
      i'.evaluations = i.evaluations := by
  unfold ItemUpdate.apply at h
  cases u with
  | setAVMetaData | setSupportCommand | disconnect =>
      cases h
      exact ⟨rfl, rfl, rfl⟩
  | addSupportCommand | deleteSupportCommand | addSupportCastCommand
  | deleteSupportCastCommand =>
      dsimp only at h
      split_ifs at h
      cases h
      exact ⟨rfl, rfl, rfl⟩

end item

/-! ## The evaluation -/

section evaluation

/-- The service follows an evaluation of the session: the target user of the callback has it, and
`UpdateFrontSession` does not refuse it. -/
def FollowsEvaluation (s : AVSessionService) (x : SessionRef) : Prop :=
  ¬ FrontRefused s.users x s.controlBundleNameSet ∧
    x ∈ (s.users.getContainerFromUser
      (getTargetUserId s.users (s.users.items x).userId)).getAllSessions

instance (s : AVSessionService) (x : SessionRef) : Decidable (FollowsEvaluation s x) :=
  inferInstanceAs (Decidable (_ ∧ _))

/-- The service and the items of the sessions that were created. -/
structure FrontState where
  service : AVSessionService
  items : SessionRef → Option FrontItem

namespace FrontState

/-- The service when it starts. -/
def init (items : Items) (userId : UserId) (controlBundleNameSet : List String)
    (carFeature : Bool) : FrontState where
  service := AVSessionService.init items userId controlBundleNameSet carFeature
  items := fun _ => none

variable (s : FrontState)

/-- Another item for the session `x`. -/
def setItem (x : SessionRef) (i : FrontItem) : FrontState :=
  { s with items := Function.update s.items x (some i) }

/-- `serviceCallbackForUpdateSession_`, which every session has from its creation. -/
def callback (w : Surroundings) (x : SessionRef) (isAdd : Bool) : FrontState :=
  { s with
    service := s.service.updateSession w.oracle (s.service.users.items x).sessionId isAdd
      (s.service.users.items x).userId }

/-- The callback is made when the answer is not the one that the flag has, and the flag takes it
whatever the service did.
Source: avsession_item.cpp, `AVSessionItem::HandleFrontSession` -/
def handleFrontSession (w : Surroundings) (x : SessionRef) (i : FrontItem) : FrontState :=
  let answer := hasContent i w
  let i :=
    { i with evaluations := ⟨answer, decide (FollowsEvaluation s.service x)⟩ :: i.evaluations }
  if !answer then
    if !i.isFirstAddToFront then
      (s.callback w x false).setItem x { i with isFirstAddToFront := true }
    else s.setItem x i
  else
    if i.isFirstAddToFront then
      (s.callback w x true).setItem x { i with isFirstAddToFront := false }
    else s.setItem x i

end FrontState

/-- A handler of the service, or a call of a client that changes what an evaluation reads. -/
inductive FrontOp
  | service (op : ServiceOp)
  | update (w : Surroundings) (x : SessionRef) (u : ItemUpdate)

/-- The session that a handler creates, and whether it puts it into the front list of its user: a
call, or a session for a cast that is pushed to the list of the user it belongs to. -/
def created (s : AVSessionService) : ServiceOp → Option (SessionRef × Bool)
  | .createSessionInner tag pid uid type elementName sessionElement =>
      (s.createSessionInner tag pid uid type elementName sessionElement).2.map
        fun x => (x, isCall type)
  | .createSessionByCast pid uid userId =>
      let m := (s.createSessionByCast pid uid userId).users
      (s.createSessionInner "RemoteCast" pid uid .audio AVSessionService.castElement
        AVSessionService.castElement).2.map
          fun x => (x, m.effectiveUser (m.items x).userId == m.effectiveUser userId)
  | _ => none

/-- The state after a call. -/
def FrontOp.step (s : FrontState) : FrontOp → FrontState
  | service op =>
      let s' : FrontState := { s with service := op.step s.service }
      match created s.service op with
      | none => s'
      | some (x, pushed) => s'.setItem x (.init pushed)
  | update w x u =>
      match s.items x with
      | none => s
      | some i =>
          match u.apply i with
          | none => s
          | some i => s.handleFrontSession w x i

/-- The condition on a call. The callback is made outside an evaluation only where it changes
nothing, and a user is removed whose front list is empty. -/
def FrontOp.Ok (s : FrontState) : FrontOp → Prop
  | service (.updateSession _ sessionId isAdd userId) =>
      ∀ x, (s.service.users.getContainerFromUser
        (getTargetUserId s.service.users userId)).getSessionById s.service.users.items sessionId =
          some x → FrontRefused s.service.users x s.service.controlBundleNameSet ∨
            (x ∈ s.service.users.getCurSessionListForFront (s.service.users.items x).userId ↔
              isAdd = true)
  | service (.userRemoved userId) => s.service.users.frontByUser userId = []
  | _ => True

/-! ### The answers -/

/-- The last answer, which is that there is nothing to show before the first evaluation. -/
def lastAnswer : List Evaluation → Bool
  | [] => false
  | e :: _ => e.answer

/-- Whether the session is in the front list of its user after the evaluations. -/
def listed (pushed : Bool) : List Evaluation → Bool
  | [] => pushed
  | e :: earlier =>
      if e.followed && e.answer != lastAnswer earlier then e.answer else listed pushed earlier

/-- An answer that is followed and new decides whether the session is listed. -/
theorem listed_cons (pushed : Bool) (e : Evaluation) (l : List Evaluation) :
    listed pushed (e :: l) =
      if e.followed && e.answer != lastAnswer l then e.answer else listed pushed l := rfl

/-- The last answer is one of the answers. -/
theorem exists_of_lastAnswer {l : List Evaluation} (h : lastAnswer l = true) :
    ∃ e ∈ l, e.answer = true := by
  cases l with
  | nil => exact absurd h Bool.false_ne_true
  | cons e l => exact ⟨e, List.mem_cons_self, h⟩

/-- A session whose evaluations were all followed is in the list if the last one found something, or
if its creation put it there and none did. -/
theorem listed_of_followed {pushed : Bool} {l : List Evaluation}
    (h : ∀ e ∈ l, e.followed = true) : listed pushed l = true ↔
      lastAnswer l = true ∨ (pushed = true ∧ ∀ e ∈ l, e.answer = false) := by
  induction l with
  | nil => simp [listed, lastAnswer]
  | cons e l ih =>
      obtain ⟨he, hl⟩ := List.forall_mem_cons.mp h
      have hlast : lastAnswer (e :: l) = e.answer := rfl
      rw [listed_cons, he, Bool.true_and, hlast, List.forall_mem_cons]
      cases hanswer : e.answer with
      | true =>
          refine iff_of_true ?_ (Or.inl rfl)
          cases hbefore : lastAnswer l with
          | true => exact (ih hl).mpr (Or.inl hbefore)
          | false => rfl
      | false =>
          cases hbefore : lastAnswer l with
          | true =>
              -- the session was taken out of the list
              refine iff_of_false nofun ?_
              rintro (hfound | ⟨-, -, hnone⟩)
              · cases hfound
              · obtain ⟨e', he', hfound⟩ := exists_of_lastAnswer hbefore
                rw [hnone e' he'] at hfound
                cases hfound
          | false =>
              show listed pushed l = true ↔ _
              rw [ih hl, hbefore, and_iff_right rfl]

/-- A session none of whose evaluations was followed is where its creation put it. -/
theorem listed_of_not_followed {pushed : Bool} {l : List Evaluation}
    (h : ∀ e ∈ l, e.followed = false) : listed pushed l = pushed := by
  induction l with
  | nil => rfl
  | cons e l ih =>
      obtain ⟨he, hl⟩ := List.forall_mem_cons.mp h
      rw [listed_cons, he, Bool.false_and]
      exact ih hl

end evaluation

/-! ## The flag and the list -/

section invariant

open AVSessionService

variable {s s' : FrontState} {x y : SessionRef} {i : FrontItem} {w : Surroundings}

/-- The session is in the front list of its user. -/
def InFront (s : AVSessionService) (x : SessionRef) : Prop :=
  x ∈ s.users.getCurSessionListForFront (s.users.items x).userId

instance (s : AVSessionService) (x : SessionRef) : Decidable (InFront s x) :=
  inferInstanceAs (Decidable (_ ∈ _))

/-- The session was not released, and its user is no stand-in for the current one. -/
def Shown (s : AVSessionService) (x : SessionRef) : Prop :=
  (s.users.items x).isDestroyed = false ∧ 0 < (s.users.items x).userId

/-- The flag is the last answer, turned round, and the list is what the evaluations make of it. -/
structure FrontAgrees (s : FrontState) : Prop where
  flag : ∀ x i, s.items x = some i →
    (i.isFirstAddToFront = false ↔ lastAnswer i.evaluations = true)
  front : ∀ x i, s.items x = some i → Shown s.service x →
    (InFront s.service x ↔ listed i.pushed i.evaluations = true)
  followed : ∀ x i, s.items x = some i → Shown s.service x →
    (∀ e ∈ i.evaluations, e.followed = true) →
      (InFront s.service x ↔ i.isFirstAddToFront = false ∨
        (i.pushed = true ∧ ∀ e ∈ i.evaluations, e.answer = false))
  notFollowed : ∀ x i, s.items x = some i → Shown s.service x →
    (∀ e ∈ i.evaluations, e.followed = false) →
      (InFront s.service x ↔ i.pushed = true)

/-- What the calls keep. -/
structure FrontInv (s : FrontState) : Prop where
  flag : ∀ x i, s.items x = some i →
    (i.isFirstAddToFront = false ↔ lastAnswer i.evaluations = true)
  front : ∀ x i, s.items x = some i → Shown s.service x →
    (InFront s.service x ↔ listed i.pushed i.evaluations = true)
  ids : DistinctIds s.service.users.items
  created : ∀ x i, s.items x = some i → x < s.service.nextSession
  fresh : ∀ u, ∀ x ∈ s.service.users.frontByUser u, x < s.service.nextSession

/-- The invariant gives the agreement. -/
theorem FrontInv.agrees (h : FrontInv s) : FrontAgrees s where
  flag := h.flag
  front := h.front
  followed x i hi hx hall := by
    rw [h.front x i hi hx, h.flag x i hi, listed_of_followed hall]
  notFollowed x i hi hx hnone := by
    rw [h.front x i hi hx, listed_of_not_followed hnone]

/-- Empty tables agree. -/
theorem FrontInv.init {items : Items} (hinj : DistinctIds items) (userId : UserId)
    (controlBundleNameSet : List String) (carFeature : Bool) :
    FrontInv (FrontState.init items userId controlBundleNameSet carFeature) where
  flag _ _ hi := nomatch hi
  front _ _ hi := nomatch hi
  ids := hinj
  created _ _ hi := nomatch hi
  fresh _ _ hx := nomatch hx

/-- A session of a positive user is in the list of that user. -/
theorem inFront_of_pos {s : AVSessionService} (hpos : 0 < (s.users.items x).userId) :
    InFront s x ↔ x ∈ s.users.frontByUser (s.users.items x).userId := by
  unfold InFront
  rw [front_of_pos _ hpos]

namespace FrontInv

/-- The sessions that a handler does not exempt. -/
theorem front_of_kept (h : FrontInv s) {service : AVSessionService} {exempt : SessionRef → Prop}
    (hkept : FrontKept exempt s.service.users service.users) (hx : ¬ exempt x)
    (hi : s.items x = some i) (hshown : Shown service x) :
    InFront service x ↔ listed i.pushed i.evaluations = true := by
  obtain ⟨huser, hdestroyed⟩ := hkept.item x hx
  have hshown' : Shown s.service x := ⟨hdestroyed ▸ hshown.1, huser ▸ hshown.2⟩
  rw [← h.front x i hi hshown', inFront_of_pos hshown.2, inFront_of_pos hshown'.2, huser]
  exact hkept.front x hx _

/-- A call that keeps the front lists keeps the ids distinct. -/
theorem ids_of_kept (h : FrontInv s) {service : AVSessionService} {exempt : SessionRef → Prop}
    (hkept : FrontKept exempt s.service.users service.users) :
    DistinctIds service.users.items := by
  intro x y hxy
  have hxy' : (service.users.items x).sessionId = (service.users.items y).sessionId := hxy
  rw [hkept.sessionId, hkept.sessionId] at hxy'
  exact h.ids hxy'

/-- A handler that exempts sessions which it destroys, or which were not created. -/
theorem of_kept (h : FrontInv s) {service : AVSessionService} {exempt : SessionRef → Prop}
    (hkept : FrontKept exempt s.service.users service.users)
    (hexempt : ∀ x, exempt x → (s.items x).isSome = true →
      (service.users.items x).isDestroyed = true)
    (hfresh : ∀ x, exempt x → ∀ u, x ∈ service.users.frontByUser u → x < service.nextSession)
    (hnext : s.service.nextSession ≤ service.nextSession) :
    FrontInv { s with service := service } where
  flag := h.flag
  front x i hi hx := by
    by_cases hex : exempt x
    · have hdestroyed := hexempt x hex (Option.isSome_iff_exists.mpr ⟨i, hi⟩)
      exact absurd (hx.1.symm.trans hdestroyed) Bool.false_ne_true
    · exact h.front_of_kept hkept hex hi hx
  ids := h.ids_of_kept hkept
  created x i hi := (h.created x i hi).trans_le hnext
  fresh u x hx := by
    by_cases hex : exempt x
    · exact hfresh x hex u hx
    · exact (h.fresh u x ((hkept.front x hex u).mp hx)).trans_le hnext

/-- A handler that exempts no session. -/
theorem of_nobody (h : FrontInv s) {service : AVSessionService}
    (hkept : FrontKept nobody s.service.users service.users)
    (hnext : service.nextSession = s.service.nextSession) :
    FrontInv { s with service := service } :=
  h.of_kept hkept (fun _ hex => hex.elim) (fun _ hex => hex.elim) hnext.ge

/-- A handler that exempts one session, whose new item agrees with its place. -/
theorem setItem_of_kept (h : FrontInv s) {service : AVSessionService}
    (hkept : FrontKept (· = x) s.service.users service.users) (hx : x < service.nextSession)
    (hnext : s.service.nextSession ≤ service.nextSession)
    (hflag : i.isFirstAddToFront = false ↔ lastAnswer i.evaluations = true)
    (hfront : Shown service x →
      (InFront service x ↔ listed i.pushed i.evaluations = true)) :
    FrontInv (({ s with service := service } : FrontState).setItem x i) := by
  have hitems : ∀ y j, (({ s with service := service } : FrontState).setItem x i).items y =
      some j → y = x ∧ j = i ∨ y ≠ x ∧ s.items y = some j := by
    intro y j hj
    have hj' : Function.update s.items x (some i) y = some j := hj
    rw [Function.update_apply] at hj'
    split_ifs at hj' with hyx
    · exact Or.inl ⟨hyx, (Option.some.inj hj').symm⟩
    · exact Or.inr ⟨hyx, hj'⟩
  refine ⟨fun y j hj => ?_, fun y j hj hy => ?_, h.ids_of_kept hkept, fun y j hj => ?_,
    fun u y hy => ?_⟩
  · rcases hitems y j hj with ⟨rfl, rfl⟩ | ⟨-, hj'⟩
    · exact hflag
    · exact h.flag y j hj'
  · rcases hitems y j hj with ⟨rfl, rfl⟩ | ⟨hyx, hj'⟩
    · exact hfront hy
    · exact h.front_of_kept hkept hyx hj' hy
  · rcases hitems y j hj with ⟨rfl, rfl⟩ | ⟨-, hj'⟩
    · exact hx
    · exact (h.created y j hj').trans_le hnext
  · by_cases hyx : y = x
    · rw [hyx]
      exact hx
    · exact (h.fresh u y ((hkept.front y hyx u).mp hy)).trans_le hnext

/-! ### The evaluation -/

/-- The callback finds the session itself, if anyone: the ids are distinct. -/
theorem updateSession_own {s : AVSessionService} (hinj : DistinctIds s.users.items) (o : Oracle)
    (x : SessionRef) (isAdd : Bool) :
    s.updateSession o (s.users.items x).sessionId isAdd (s.users.items x).userId =
      if x ∈ (s.users.getContainerFromUser
          (getTargetUserId s.users (s.users.items x).userId)).getAllSessions then
        s.withUsers (updateFrontSession s.users o x s.controlBundleNameSet isAdd)
      else s := by
  unfold AVSessionService.updateSession
  cases hfind : (s.users.getContainerFromUser
      (getTargetUserId s.users (s.users.items x).userId)).getSessionById s.users.items
        (s.users.items x).sessionId with
  | none =>
      refine (if_neg fun hmem => ?_).symm
      have hnone := List.find?_eq_none.mp hfind x hmem
      exact hnone (beq_self_eq_true _)
  | some y =>
      have hid : (s.users.items y).sessionId = (s.users.items x).sessionId := by
        have hfound := List.find?_some hfind
        exact eq_of_beq hfound
      obtain rfl := hinj hid
      exact (if_pos (List.mem_of_find?_eq_some hfind)).symm

/-- HandleFrontSession calls back when the content changes, and notes it. -/
theorem handleFrontSession_eq (s : FrontState) (w : Surroundings) (x : SessionRef)
    (i : FrontItem) : s.handleFrontSession w x i =
      (if i.isFirstAddToFront = hasContent i w then s.callback w x (hasContent i w)
        else s).setItem x { i with
          isFirstAddToFront := !hasContent i w
          evaluations :=
            ⟨hasContent i w, decide (FollowsEvaluation s.service x)⟩ :: i.evaluations } := by
  obtain ⟨metaData, cmds, castCmds, flag, pushed, evaluations⟩ := i
  unfold FrontState.handleFrontSession
  dsimp only
  cases hasContent ⟨metaData, cmds, castCmds, flag, pushed, evaluations⟩ w <;> cases flag <;> rfl

/-- What the callback makes of the front lists. -/
theorem inFront_callback {s : AVSessionService} (hinj : DistinctIds s.users.items) (o : Oracle)
    (x : SessionRef) (isAdd : Bool) {service : AVSessionService}
    (hservice : service = s.updateSession o (s.users.items x).sessionId isAdd
      (s.users.items x).userId) :
    FrontKept (· = x) s.users service.users ∧ service.nextSession = s.nextSession ∧
      (Shown service x → Shown s x ∧
        (InFront service x ↔ if FollowsEvaluation s x then isAdd = true else InFront s x)) := by
  rw [updateSession_own hinj] at hservice
  split_ifs at hservice with hmem
  · obtain ⟨b, hb⟩ := items_updateFrontSession s.users o x s.controlBundleNameSet isAdd x
    subst hservice
    refine ⟨frontKept_updateFrontSession _ o x _ isAdd, rfl, fun hshown => ?_⟩
    have hshown' : Shown s x := by
      unfold Shown at hshown ⊢
      rwa [withUsers_users, hb] at hshown
    refine ⟨hshown', ?_⟩
    rw [inFront_of_pos hshown.2, inFront_of_pos hshown'.2, withUsers_users, hb,
      mem_front_updateFrontSession]
    have hfollows : (x = x ∧ (s.users.items x).userId =
        s.users.effectiveUser (s.users.items x).userId ∧
          ¬ FrontRefused s.users x s.controlBundleNameSet) ↔ FollowsEvaluation s x := by
      rw [effectiveUser_of_pos _ hshown'.2]
      exact ⟨fun h => ⟨h.2.2, hmem⟩, fun h => ⟨rfl, rfl, h.1⟩⟩
    rw [if_congr hfollows rfl rfl]
  · subst hservice
    refine ⟨FrontKept.refl _ _, rfl, fun hshown => ⟨hshown, ?_⟩⟩
    split_ifs with hfollows
    · exact absurd hfollows.2 hmem
    · exact Iff.rfl

/-- HandleFrontSession keeps the invariant. -/
theorem handleFrontSession (h : FrontInv s) (w : Surroundings) (hx : x < s.service.nextSession)
    {j : FrontItem} (hj : s.items x = some j) (hflag : i.isFirstAddToFront = j.isFirstAddToFront)
    (hpushed : i.pushed = j.pushed) (hevaluations : i.evaluations = j.evaluations) :
    FrontInv (s.handleFrontSession w x i) := by
  have hanswer : (hasContent i w != lastAnswer i.evaluations) = true ↔
      i.isFirstAddToFront = hasContent i w := by
    have := h.flag x j hj
    rw [← hflag, ← hevaluations] at this
    revert this
    cases i.isFirstAddToFront <;> cases hasContent i w <;> cases lastAnswer i.evaluations <;> simp
  have hlisted := h.front x j hj
  rw [← hpushed, ← hevaluations] at hlisted
  have hnew : (!hasContent i w) = false ↔ hasContent i w = true := by
    rw [Bool.not_eq_false']
  rw [handleFrontSession_eq]
  by_cases hcall : i.isFirstAddToFront = hasContent i w
  · -- the answer is another one: the service is told
    rw [if_pos hcall]
    obtain ⟨hkept, hnext, hplace⟩ := inFront_callback h.ids w.oracle x (hasContent i w) rfl
    refine h.setItem_of_kept hkept (hnext ▸ hx) hnext.ge hnew fun hshown => ?_
    obtain ⟨hshown', hfront⟩ := hplace hshown
    refine hfront.trans ?_
    rw [listed_cons, hanswer.mpr hcall, Bool.and_true]
    by_cases hfollows : FollowsEvaluation s.service x
    · rw [if_pos hfollows, decide_eq_true hfollows, if_pos rfl]
    · rw [if_neg hfollows, decide_eq_false hfollows, if_neg Bool.false_ne_true]
      exact hlisted hshown'
  · rw [if_neg hcall]
    refine h.setItem_of_kept (FrontKept.refl _ _) hx le_rfl hnew fun hshown => ?_
    rw [listed_cons, if_neg fun hboth => hcall (hanswer.mp (Bool.and_eq_true_iff.mp hboth).2)]
    exact hlisted hshown

/-- Every setter of a session keeps the invariant. -/
theorem update (h : FrontInv s) (w : Surroundings) (x : SessionRef) (u : ItemUpdate) :
    FrontInv ((FrontOp.update w x u).step s) := by
  show FrontInv (match s.items x with
    | none => s
    | some i =>
        match u.apply i with
        | none => s
        | some i => s.handleFrontSession w x i)
  cases hi : s.items x with
  | none => exact h
  | some j =>
      dsimp only
      cases hu : u.apply j with
      | none => exact h
      | some i =>
          obtain ⟨hflag, hpushed, hevaluations⟩ := apply_frame hu
          exact h.handleFrontSession w (h.created x j hi) hi hflag hpushed hevaluations

/-! ### The handlers of the service -/

/-- The next reference is in no front list. -/
theorem not_mem_front (h : FrontInv s) {service : AVSessionService}
    (hkept : FrontKept nobody s.service.users service.users)
    (hnext : service.nextSession = s.service.nextSession) (u : UserId) :
    service.nextSession ∉ service.users.frontByUser u := by
  rw [hnext]
  intro hx
  exact (h.fresh u _ ((hkept.front _ id u).mp hx)).false

/-- A creation that hands out no session. -/
theorem of_created_none (h : FrontInv s) {service : AVSessionService}
    (hkept : FrontKept (· = s.service.nextSession) s.service.users service.users)
    (hnext : service.nextSession = s.service.nextSession + 1) :
    FrontInv { s with service := service } := by
  have hlt : s.service.nextSession < service.nextSession := by
    rw [hnext]
    exact Nat.lt_succ_self _
  refine h.of_kept hkept ?_ ?_ hlt.le
  · rintro _ rfl hsome
    obtain ⟨i, hi⟩ := Option.isSome_iff_exists.mp hsome
    exact ((h.created _ i hi).false).elim
  · rintro _ rfl _ _
    exact hlt

/-- A creation that hands out the next reference. -/
theorem of_created_some (h : FrontInv s) {service : AVSessionService} {pushed : Bool}
    (hkept : FrontKept (· = s.service.nextSession) s.service.users service.users)
    (hnext : service.nextSession = s.service.nextSession + 1)
    (hfront : InFront service s.service.nextSession ↔ pushed = true) :
    FrontInv (({ s with service := service } : FrontState).setItem s.service.nextSession
      (.init pushed)) := by
  have hlt : s.service.nextSession < service.nextSession := by
    rw [hnext]
    exact Nat.lt_succ_self _
  exact h.setItem_of_kept hkept hlt hlt.le (iff_of_false nofun nofun) fun _ => hfront

/-- A creation keeps the invariant. -/
theorem createSessionInner (h : FrontInv s) (tag : String) (pid : Pid) (uid : Uid)
    (type : SessionType) (elementName sessionElement : ElementName) :
    FrontInv ((FrontOp.service (.createSessionInner tag pid uid type elementName
      sessionElement)).step s) := by
  have hrefreshed := frontKept_refreshed s.service tag uid elementName
  have hnot := h.not_mem_front hrefreshed rfl
  have hcases := createSessionForCaller_cases (s.service.refreshed tag uid elementName) pid uid
    type elementName sessionElement
  have hcreated := @created_createSessionForCaller (s.service.refreshed tag uid elementName)
  show FrontInv (match ((s.service.createSessionInner tag pid uid type elementName
      sessionElement).2.map fun x => (x, isCall type)) with
    | none => { s with service := (s.service.createSessionInner tag pid uid type elementName
        sessionElement).1 }
    | some (x, pushed) => ({ s with service := (s.service.createSessionInner tag pid uid type
        elementName sessionElement).1 } : FrontState).setItem x (.init pushed))
  unfold AVSessionService.createSessionInner
  rcases hr : (s.service.refreshed tag uid elementName).createSessionForCaller pid uid type
    elementName sessionElement with ⟨service, result⟩
  rw [hr] at hcases
  cases result with
  | none =>
      rcases hcases with ⟨hkept, hnext, -⟩ | ⟨hkept, hnext⟩
      · exact h.of_nobody (hrefreshed.trans hkept) hnext
      · exact h.of_created_none (hrefreshed.of_nobody.trans hkept) hnext
  | some x =>
      obtain ⟨rfl, hnext, -, hfront⟩ := hcreated hr hnot
      rcases hcases with ⟨-, -, hnone⟩ | ⟨hkept, -⟩
      · cases hnone
      · refine h.of_created_some (hrefreshed.of_nobody.trans hkept) hnext ?_
        exact (hfront _).trans (and_iff_left rfl)

/-- CreateSessionByCast keeps the invariant. -/
theorem createSessionByCast (h : FrontInv s) (pid : Pid) (uid : Uid) (userId : UserId) :
    FrontInv ((FrontOp.service (.createSessionByCast pid uid userId)).step s) := by
  have hnot := h.not_mem_front (FrontKept.refl _ _) rfl
  have hcases := createSessionForCaller_cases s.service pid uid .audio castElement castElement
  have hcreated := @created_createSessionForCaller s.service
  show FrontInv (match ((s.service.createSessionInner "RemoteCast" pid uid .audio castElement
      castElement).2.map fun x => (x,
        (s.service.createSessionByCast pid uid userId).users.effectiveUser
          ((s.service.createSessionByCast pid uid userId).users.items x).userId ==
            (s.service.createSessionByCast pid uid userId).users.effectiveUser userId)) with
    | none => { s with service := s.service.createSessionByCast pid uid userId }
    | some (x, pushed) => ({ s with service := s.service.createSessionByCast pid uid userId } :
        FrontState).setItem x (.init pushed))
  rw [createSessionInner_castElement, createSessionByCast_eq]
  rcases hr : s.service.createSessionForCaller pid uid .audio castElement castElement with
    ⟨service, result⟩
  rw [hr] at hcases
  cases result with
  | none =>
      rcases hcases with ⟨hkept, hnext, -⟩ | ⟨hkept, hnext⟩
      · exact h.of_nobody hkept hnext
      · exact h.of_created_none hkept hnext
  | some x =>
      obtain ⟨rfl, hnext, halive, hfront⟩ := hcreated hr hnot
      rcases hcases with ⟨-, -, hnone⟩ | ⟨hkept, -⟩
      · cases hnone
      · have hnew : ∀ v, s.service.nextSession ∉ service.users.frontByUser v := fun v hv =>
          Bool.false_ne_true ((hfront v).mp hv).1
        obtain ⟨-, hplace⟩ := created_pushedByCast userId hnew halive
        refine h.of_created_some (hkept.trans (frontKept_pushedByCast service _ userId)) hnext ?_
        exact (hplace _).trans beq_iff_eq.symm

/-- A release keeps the invariant. -/
theorem handleSessionRelease (h : FrontInv s) (o : Oracle) (sessionId : String) :
    FrontInv ((FrontOp.service (.handleSessionRelease o sessionId)).step s) := by
  have hnext := nextSession_handleSessionRelease s.service o sessionId
  show FrontInv { s with service := s.service.handleSessionRelease o sessionId }
  cases hfind : s.service.users.stackForAll.getSessionById s.service.users.items sessionId with
  | none =>
      have hsame : s.service.handleSessionRelease o sessionId = s.service := by
        unfold AVSessionService.handleSessionRelease
        rw [show s.service.users.getContainerFromAll.getSessionById s.service.users.items
          sessionId = none from hfind]
      rw [hsame]
      exact h
  | some x =>
      obtain ⟨hkept, hdestroyed, hfront⟩ := frontKept_handleSessionRelease s.service o hfind
      refine h.of_kept hkept ?_ ?_ hnext.ge
      · rintro _ rfl _
        exact hdestroyed
      · rintro _ rfl u hu
        exact (h.fresh u _ (hfront u hu)).trans_le hnext.ge

/-- An orderly UpdateSession keeps the invariant. -/
theorem updateSession (h : FrontInv s) (o : Oracle) (sessionId : String) (isAdd : Bool)
    (userId : UserId)
    (hok : (FrontOp.service (.updateSession o sessionId isAdd userId)).Ok s) :
    FrontInv ((FrontOp.service (.updateSession o sessionId isAdd userId)).step s) := by
  show FrontInv { s with service := s.service.updateSession o sessionId isAdd userId }
  unfold AVSessionService.updateSession
  cases hfind : (s.service.users.getContainerFromUser
      (getTargetUserId s.service.users userId)).getSessionById s.service.users.items sessionId with
  | none => exact h
  | some x =>
      exact h.of_nobody (frontKept_updateFrontSession_of_repeated isAdd (hok x hfind)) rfl

/-- A handler that meets its condition keeps the invariant. -/
theorem service (h : FrontInv s) (op : ServiceOp) (hok : (FrontOp.service op).Ok s) :
    FrontInv ((FrontOp.service op).step s) := by
  cases op with
  | createSessionInner tag pid uid type elementName sessionElement =>
      exact h.createSessionInner tag pid uid type elementName sessionElement
  | createSessionByCast pid uid userId => exact h.createSessionByCast pid uid userId
  | updateSession o sessionId isAdd userId => exact h.updateSession o sessionId isAdd userId hok
  | updateControlList bundleNames => exact h.of_nobody (FrontKept.refl _ _) rfl
  | addKeyEvent sessionId =>
      exact h.of_nobody (untouched_addKeyEvent _ sessionId).frontKept
        (nextSession_addKeyEvent _ _)
  | updateTopSession sessionId userId =>
      exact h.of_nobody (frontKept_withSession _ sessionId fun x =>
        (onlyTop_updateTopSession _ userId (some x)).toReordered) (nextSession_withSession _ _ _)
  | updateOrder sessionId =>
      exact h.of_nobody (frontKept_withSession _ sessionId fun x => reordered_updateOrder _ x)
        (nextSession_withSession _ _ _)
  | handleOtherSessionPlaying o userId =>
      show FrontInv { s with
        service := ServiceOp.step s.service (.handleOtherSessionPlaying o userId) }
      rcases step_handleOtherSessionPlaying_cases s.service o userId with hsame | ⟨x, -, hplays⟩
      · rw [hsame]
        exact h
      · rw [hplays]
        exact h.of_nobody (FrontKept.of_reordered (reordered_handleOtherSessionPlaying _ x)) rfl
  | userSwitched userId => exact h.of_nobody (frontKept_handleUserSwitched _ userId) rfl
  | userRemoved userId => exact h.of_nobody (frontKept_handleUserRemoved _ hok) rfl
  | createControllerInner sessionId pid uid =>
      exact h.of_nobody (untouched_createControllerInner _ sessionId pid uid).frontKept
        (nextSession_createControllerInner _ _ _ _)
  | getControllerInner x =>
      show FrontInv { s with service :=
        if x < s.service.nextSession then s.service.getControllerInner x else s.service }
      split_ifs
      · exact h.of_nobody (untouched_getControllerInner _ x).frontKept
          (nextSession_getControllerInner _ x)
      · exact h
  | destroyController c =>
      exact h.of_nobody (untouched_destroyController _ c).frontKept
        (nextSession_destroyController _ c)
  | clearControllerForClientDied pid =>
      exact h.of_nobody (untouched_clearControllerForClientDied _ pid).frontKept
        (nextSession_clearControllerForClientDied _ pid)
  | setCastProxy x hasCastProxy =>
      have hkept : Untouched s.service.users (ServiceOp.step s.service
          (.setCastProxy x hasCastProxy)).users := Untouched.withItem x ⟨rfl, rfl, rfl⟩
      exact h.of_nobody hkept.frontKept rfl
  | handleSessionRelease o sessionId => exact h.handleSessionRelease o sessionId

/-- Every orderly operation keeps the invariant. -/
theorem step (h : FrontInv s) (op : FrontOp) (hok : op.Ok s) : FrontInv (op.step s) := by
  cases op with
  | service op => exact h.service op hok
  | update w x u => exact h.update w x u

end FrontInv

end invariant

/-! ## Runs -/

section runs

/-- A playing cast item has a title. -/
def castSurroundings : Surroundings := ⟨silent, some ("song", ""), false, -1⟩

/-- The list and the flag would be the same for every session. -/
structure FrontTracksFlag (s : FrontState) : Prop where
  flag : ∀ x i, s.items x = some i →
    (i.isFirstAddToFront = false ↔ lastAnswer i.evaluations = true)
  front : ∀ x i, s.items x = some i →
    (InFront s.service x ↔ i.isFirstAddToFront = false)

end runs

end AvSession.Service
