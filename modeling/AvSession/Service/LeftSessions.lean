import AvSession.Service.Release

/-!
# The registry when a release leaves a session in a list

A release may leave its session in a front list, if `UpdateFrontSession` refuses it or if the list
is another user's. If such a session is elected as the top session later, it gets back into the
containers. A call that is not cast is never elected.

* `FrontSound` — what an election looks through: registered sessions, and calls that are not cast.
* `FrontSound.onlyTop` — then the election stays in the frame of `OnlyTop`.
* `SameLive`, `RegistryInv.updateFrontSession` — the updates of the front lists.
* `Gone`, `RegistryInv.releaseUsers` — a release that elects from such a list.
-/

namespace AvSession.Service

open Std AvSession.Registry AvSession.Lib.OrderedMap

/-- A call that is not cast, which no election looks at. -/
def Left (m : UsersManager) (x : SessionRef) : Prop :=
  isCall (m.items x).sessionType = true ∧ (m.items x).hasCastProxy = false

/-- Every session of the front list that could be elected is registered. -/
def FrontSound (m : UsersManager) (u : UserId) : Prop :=
  ∀ x ∈ m.getCurSessionListForFront u, m.Registered x ∨ Left m x

/-- The sessions that are registered, the destroyed ones and the controllers are the same. -/
structure SameLive (m m' : UsersManager) : Prop extends SameSessions m m' where
  kept : ∀ x, m.Registered x → m'.Registered x

namespace SameLive

variable {m m' m'' : UsersManager}

/-- A table has the same living sessions. -/
theorem refl (m : UsersManager) : SameLive m m := ⟨SameSessions.refl m, fun _ hx => hx⟩

/-- Two calls that keep the living sessions keep them together. -/
theorem trans (h : SameLive m m') (h' : SameLive m' m'') : SameLive m m'' :=
  ⟨h.toSameSessions.trans h'.toSameSessions, fun x hx => h'.kept x (h.kept x hx)⟩

/-- A call that changes tops only keeps the living sessions. -/
theorem of_onlyTop (h : OnlyTop m m') : SameLive m m' :=
  ⟨SameSessions.of_onlyTop h, fun _ hx => h.registered.mpr hx⟩

/-- Writing a front list keeps the living sessions. -/
theorem setFront (m : UsersManager) (u : UserId) (l : List SessionRef) :
    SameLive m (setFront m u l) :=
  ⟨SameSessions.setFront m u l, fun _ hx => hx⟩

/-- The extra push for voice calls keeps the living sessions. -/
theorem addExtraFrontSession (m : UsersManager) (x : SessionRef) (type : SessionType) :
    SameLive m (addExtraFrontSession m x type) := by
  unfold AvSession.Service.addExtraFrontSession
  split_ifs
  · apply setFront
  · apply refl

end SameLive

variable {m m' : UsersManager} {o : Oracle} {x y : SessionRef} {u : UserId} {control : List String}

/-! ## The election -/

section election

/-- The session that is elected is no call, or it is cast. -/
theorem not_left_of_getOtherPlayingSession {bundleName : String}
    (hy : getOtherPlayingSession m o u bundleName = some y) : ¬ Left m y := by
  rintro ⟨hcall, hproxy⟩
  rcases (UsersInv.elected_of_getOtherPlayingSession hy).2 with hplays | hcast
  · simp [isOtherPlaying, hcall] at hplays
  · simp [isCastPlaying, hproxy] at hcast

/-- A user id stands for what the user it stands for stands for. -/
theorem effectiveUser_effectiveUser (m : UsersManager) (u : UserId) :
    m.effectiveUser (m.effectiveUser u) = m.effectiveUser u := by
  unfold UsersManager.effectiveUser
  split_ifs <;> rfl

/-- A user's list is that of the user it resolves to. -/
theorem front_effectiveUser (m : UsersManager) (u : UserId) :
    m.getCurSessionListForFront (m.effectiveUser u) = m.getCurSessionListForFront u := by
  unfold UsersManager.getCurSessionListForFront
  rw [effectiveUser_effectiveUser]

namespace FrontSound

/-- The session that comes to the top next is registered. -/
theorem registered (h : FrontSound m u) {bundleName : String}
    (hy : getOtherPlayingSession m o u bundleName = some y) : m.Registered y :=
  (h y (UsersInv.mem_of_getOtherPlayingSession hy)).resolve_right
    (not_left_of_getOtherPlayingSession hy)

/-- With sound lists looking for a new top changes tops only. -/
theorem onlyTop (h : FrontSound m u) (hr : RegistryInv m) :
    OnlyTop m (handleTopSessionRelease m o x u) :=
  onlyTop_handleTopSessionRelease o hr u fun _ _ hy => h.registered hy

/-- Sound lists are sound for the user they resolve to. -/
theorem effectiveUser (h : FrontSound m u) : FrontSound m (m.effectiveUser u) := by
  unfold FrontSound
  rw [front_effectiveUser]
  exact h

end FrontSound

end election

/-! ## The front lists -/

section front

/-- The registry does not depend on the front lists. -/
theorem RegistryInv.setFront (h : RegistryInv m) (u : UserId) (l : List SessionRef) :
    RegistryInv (setFront m u l) := h.congr rfl rfl rfl

/-- Only a removal elects. -/
theorem RegistryInv.updateFrontSession (h : RegistryInv m) (isAdd : Bool)
    (hf : isAdd = false → FrontSound m (m.items x).userId) :
    RegistryInv (updateFrontSession m o x control isAdd) ∧
      SameLive m (updateFrontSession m o x control isAdd) := by
  unfold AvSession.Service.updateFrontSession
  split_ifs with _ _ hadd
  · exact ⟨h, SameLive.refl m⟩
  · exact ⟨h, SameLive.refl m⟩
  · have hpush := h.setFront (m.items x).userId
      (x :: m.getCurSessionListForFront (m.items x).userId)
    unfold addFrontSession
    dsimp only
    split_ifs
    · exact ⟨h, SameLive.refl m⟩
    · have htop := onlyTop_updateTopSession (AvSession.Service.setFront m (m.items x).userId
        (x :: m.getCurSessionListForFront (m.items x).userId)) (m.items x).userId (some x)
      exact ⟨hpush.of_onlyTop htop, (SameLive.setFront m _ _).trans (SameLive.of_onlyTop htop)⟩
    · exact ⟨hpush, SameLive.setFront m _ _⟩
  · have ht : OnlyTop m (handleTopSessionRelease m o x (m.items x).userId) :=
      (hf (Bool.eq_false_iff.mpr hadd)).onlyTop h
    unfold removeFrontSession
    exact ⟨(h.of_onlyTop ht).setFront _ _,
      (SameLive.of_onlyTop ht).trans (SameLive.setFront _ _ _)⟩

end front

/-! ## The release -/

section release

/-- What a release leaves of the registry, past `DestroyTask`: its session is gone, and nothing else
has changed. -/
structure Gone (m m' : UsersManager) (x : SessionRef) : Prop where
  registry : RegistryInv m'
  registered : ∀ y, m'.Registered y ↔ m.Registered y ∧ y ≠ x
  items : ∀ y, ∃ b, m'.items y = { m.items y with isTop := b }

/-- Who is gone stays gone when only tops change. -/
theorem Gone.of_onlyTop (h : Gone m m' x) {m'' : UsersManager} (ht : OnlyTop m' m'') :
    Gone m m'' x := by
  refine ⟨h.registry.of_onlyTop ht, fun y => ht.registered.trans (h.registered y), fun y => ?_⟩
  obtain ⟨b, hb⟩ := h.items y
  obtain ⟨b', hb'⟩ := ht.items y
  exact ⟨b', by rw [hb', hb]⟩

/-- The lists do not count. -/
theorem Gone.congr (h : Gone m m' x) {m'' : UsersManager} (hall : m''.stackForAll = m'.stackForAll)
    (huser : m''.stackByUser = m'.stackByUser) (hitems : m''.items = m'.items) :
    Gone m m'' x := by
  refine ⟨h.registry.congr hall huser hitems, fun y => ?_, fun y => ?_⟩
  · unfold UsersManager.Registered
    rw [hall]
    exact h.registered y
  · rw [hitems]
    exact h.items y

/-- The session is taken out of the containers. -/
theorem gone_releaseContainers (h : RegistryInv m) (hx : m.Registered x)
    (hf : FrontSound m (m.items x).userId) :
    Gone m (AVSessionService.releaseContainers
      (handleTopSessionRelease m o x (m.effectiveUser (m.items x).userId)) x) x := by
  have ht : OnlyTop m (handleTopSessionRelease m o x (m.effectiveUser (m.items x).userId)) :=
    hf.effectiveUser.onlyTop h
  have h₂ := h.of_onlyTop ht
  have hx₂ := ht.registered.mpr hx
  refine ⟨h₂.releaseContainers hx₂, fun y => ?_, fun y => ?_⟩
  · rw [registered_releaseContainers h₂ hx₂, ht.registered]
  · rw [items_releaseContainers]
    exact ht.items y

/-- The front list that is searched for the second time has the sessions that it had before. -/
theorem mem_front_releaseContainers (v : UserId) :
    y ∈ (AVSessionService.releaseContainers
      (handleTopSessionRelease m o x (m.effectiveUser (m.items x).userId)) x).frontByUser v ↔
        y ∈ m.frontByUser v := by
  rw [(sameLists_releaseContainers _ x).front]
  exact (reordered_handleTopSessionRelease m o x _).front v y

/-- A release switches no user. -/
theorem curUserId_releaseContainers :
    (AVSessionService.releaseContainers
      (handleTopSessionRelease m o x (m.effectiveUser (m.items x).userId)) x).curUserId =
        m.curUserId :=
  (sameLists_releaseContainers _ x).curUserId.trans
    (reordered_handleTopSessionRelease m o x _).curUserId

/-- A release elects twice: from the list as it is, and once more when its session is not registered
any more. -/
theorem RegistryInv.releaseUsers (h : RegistryInv m) (hx : m.Registered x)
    (hf : FrontSound m (m.items x).userId) (hproxy : (m.items x).hasCastProxy = false) :
    Gone m (AVSessionService.releaseUsers m o x control) x := by
  have hgone := gone_releaseContainers (o := o) h hx hf
  have hfront := fun y v => mem_front_releaseContainers (m := m) (o := o) (x := x) (y := y) v
  have hcur := curUserId_releaseContainers (m := m) (o := o) (x := x)
  unfold AVSessionService.releaseUsers
  generalize AVSessionService.releaseContainers
    (handleTopSessionRelease m o x (m.effectiveUser (m.items x).userId)) x = m₃ at *
  obtain ⟨b, hb⟩ := hgone.items x
  have hagain : OnlyTop m₃ (handleTopSessionRelease m₃ o x (m₃.items x).userId) := by
    apply onlyTop_handleTopSessionRelease o hgone.registry
    intro _ y hy
    have hyx : y ≠ x := by
      apply ne_of_getOtherPlayingSession _ hy
      rw [hb]
      exact hproxy
    have hleft : ¬ Left m y := by
      obtain ⟨c, hc⟩ := hgone.items y
      have hleft₃ := not_left_of_getOtherPlayingSession hy
      unfold Left at hleft₃ ⊢
      rwa [hc] at hleft₃
    have hmem := UsersInv.mem_of_getOtherPlayingSession hy
    unfold UsersManager.getCurSessionListForFront UsersManager.effectiveUser at hmem
    rw [hfront, hb, hcur] at hmem
    exact (hgone.registered y).mpr ⟨(hf y hmem).resolve_right hleft, hyx⟩
  have hupdated : Gone m (AvSession.Service.updateFrontSession m₃ o x control false) x := by
    by_cases hrefused : FrontRefused m₃ x control
    · rw [updateFrontSession_of_refused hrefused]
      exact hgone
    · rw [updateFrontSession_eq_ite hrefused, if_neg Bool.false_ne_true]
      exact (hgone.of_onlyTop hagain).congr rfl rfl rfl
  exact hupdated.congr rfl rfl rfl

end release

end AvSession.Service
