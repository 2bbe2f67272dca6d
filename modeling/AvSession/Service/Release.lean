import AvSession.Service.ServiceInv

/-!
# The release of a session

After `HandleSessionRelease` nothing of the service should refer to the session.

* `NoReference` — no container, no list, no slot and no bound controller has the session.
* `ReleaseOk` — the condition: the session is not in a front list that `UpdateFrontSession` refuses
  to touch, and if it is a top session, another one is elected or its user is a target user.
* `release_iff` — after any run whose calls meet their conditions, the release of a live session
  leaves no reference behind exactly under that condition.
-/

namespace AvSession.Service

open Std AvSession.Lib AvSession.Registry AvSession.Lib.OrderedMap

variable {m m' : UsersManager} {o : Oracle} {x y : SessionRef} {u : UserId}

/-! ## The election -/

section election

/-- A session that is released is not elected: it is of the bundle that is passed over, and it is
no longer cast. -/
theorem ne_of_getOtherPlayingSession (hproxy : (m.items x).hasCastProxy = false)
    (hy : getOtherPlayingSession m o u (m.items x).bundleName = some y) : y ≠ x := by
  rintro rfl
  rcases (UsersInv.elected_of_getOtherPlayingSession hy).2 with hplays | hcast
  · simp [isOtherPlaying] at hplays
  · simp [isCastPlaying, hproxy] at hcast

/-- The election reads the order of the front list, and nothing of an item but what it is and
whether it plays. -/
theorem getOtherPlayingSession_congr {bundleName : String}
    (hfront : m'.getCurSessionListForFront u = m.getCurSessionListForFront u)
    (hlocal : ∀ y, isOtherPlaying m' o y bundleName = isOtherPlaying m o y bundleName)
    (hcast : ∀ y, isCastPlaying m' o y = isCastPlaying m o y) :
    getOtherPlayingSession m' o u bundleName = getOtherPlayingSession m o u bundleName := by
  unfold getOtherPlayingSession
  simp only [hfront, hlocal, hcast]

/-- Flags do not count in the election. -/
theorem getOtherPlayingSession_of_isTop {bundleName : String}
    (hfront : m'.getCurSessionListForFront u = m.getCurSessionListForFront u)
    (hitems : ∀ y, ∃ b, m'.items y = { m.items y with isTop := b }) :
    getOtherPlayingSession m' o u bundleName = getOtherPlayingSession m o u bundleName := by
  apply getOtherPlayingSession_congr hfront
  · intro y
    obtain ⟨b, hb⟩ := hitems y
    unfold isOtherPlaying isLocalSessionPlaying
    rw [hb]
  · intro y
    obtain ⟨b, hb⟩ := hitems y
    unfold isCastPlaying
    rw [hb]

/-- Where another session than `x` is elected, it is elected without the cast proxy of `x` too. -/
theorem getOtherPlayingSession_without_proxy (item : AVSessionItem)
    (hitem : item = { m.items x with
      isDestroyed := item.isDestroyed, hasCastProxy := false, controllers := item.controllers }) :
    (∃ y, getOtherPlayingSession (m.withItem x item) o u (m.items x).bundleName = some y) ↔
      ∃ y, y ≠ x ∧ getOtherPlayingSession m o u (m.items x).bundleName = some y := by
  have hlocal : ∀ z, isOtherPlaying (m.withItem x item) o z (m.items x).bundleName =
      isOtherPlaying m o z (m.items x).bundleName := by
    intro z
    unfold isOtherPlaying isLocalSessionPlaying
    rw [UsersManager.withItem_items]
    split_ifs with hz
    · rw [hz, hitem]
    · rfl
  have hcast : ∀ z, isCastPlaying (m.withItem x item) o z =
      (isCastPlaying m o z && z != x) := by
    intro z
    unfold isCastPlaying
    rw [UsersManager.withItem_items]
    split_ifs with hz
    · rw [hz, hitem]
      simp
    · simp [hz]
  have hfront : (m.withItem x item).getCurSessionListForFront u =
      m.getCurSessionListForFront u := rfl
  unfold getOtherPlayingSession
  simp only [hfront, hlocal, hcast]
  cases hfind : (m.getCurSessionListForFront u).find?
      fun z => isOtherPlaying m o z (m.items x).bundleName with
  | some z =>
      have hz : z ≠ x := by
        rintro rfl
        have hplaying := List.find?_some hfind
        simp [isOtherPlaying] at hplaying
      simp [hz]
  | none =>
      dsimp only
      split_ifs
      · simp
      · rcases hl : m.getCurSessionListForFront u with _ | ⟨first, _ | ⟨second, rest⟩⟩
        · simp
        · simp
        · simp only [Option.ite_none_right_eq_some, Option.some.injEq, Bool.and_eq_true, bne_iff_ne]
          constructor
          · rintro ⟨y, ⟨hcasting, hplaying, hne⟩, rfl⟩
            exact ⟨second, hne, ⟨hcasting, hplaying⟩, rfl⟩
          · rintro ⟨y, hne, ⟨hcasting, hplaying⟩, rfl⟩
            exact ⟨second, ⟨hcasting, hplaying, hne⟩, rfl⟩

/-- The slot that `HandleTopSessionRelease` writes: the user's own for a session that is elected,
the target user's if there is none. -/
theorem topByUser_handleTopSessionRelease (h : UsersInv m) (hu : 0 < u) :
    (handleTopSessionRelease m o x u).topByUser =
      if m.topByUser u = some x then
        match getOtherPlayingSession m o u (m.items x).bundleName with
        | some y => Function.update m.topByUser u (some y)
        | none => Function.update m.topByUser (getTargetUserId m u) none
      else m.topByUser := by
  unfold handleTopSessionRelease
  show (if m.topByUser u = some x then _ else m).topByUser = _
  split_ifs
  · cases hy : getOtherPlayingSession m o u (m.items x).bundleName with
    | none => exact topByUser_updateTopSession_none m u
    | some y =>
        have howner := (h.registered_of_getOtherPlayingSession hy).2
        rw [effectiveUser_of_pos m hu] at howner
        dsimp only
        rw [← howner]
        unfold handleOtherSessionPlaying
        split_ifs
        · exact topByUser_updateTopSession_some m y _
        · rw [topByUser_updateOrder]
          exact topByUser_updateTopSession_some m y _
  · rfl

end election

/-! ## What the release does to the users -/

section users

variable {control : List String}

/-- The two early returns of `UpdateFrontSession`. -/
def FrontRefused (m : UsersManager) (x : SessionRef) (control : List String) : Prop :=
  (m.items x).bundleName ∈ control ∨ (m.items x).sessionType = .photo

instance : Decidable (FrontRefused m x control) := inferInstanceAs (Decidable (_ ∨ _))

/-- A refused UpdateFrontSession changes nothing. -/
theorem updateFrontSession_of_refused (h : FrontRefused m x control) (isAdd : Bool) :
    updateFrontSession m o x control isAdd = m := by
  unfold updateFrontSession
  rcases h with hbundle | hphoto
  · rw [if_pos hbundle]
  · rw [if_pos hphoto, ite_self]

/-- Unless it returns early, it adds the session or removes it. -/
theorem updateFrontSession_eq_ite (h : ¬ FrontRefused m x control) (isAdd : Bool) :
    updateFrontSession m o x control isAdd =
      if isAdd then addFrontSession m o x else removeFrontSession m o x := by
  unfold FrontRefused at h
  rw [not_or] at h
  unfold updateFrontSession
  rw [if_neg h.1, if_neg h.2]

/-- A removal hands the top on and takes the session out of the list. -/
theorem updateFrontSession_of_not_refused (h : ¬ FrontRefused m x control)
    (hu : 0 < (m.items x).userId) :
    updateFrontSession m o x control false =
      setFront (handleTopSessionRelease m o x (m.items x).userId) (m.items x).userId
        (((handleTopSessionRelease m o x (m.items x).userId).frontByUser
          (m.items x).userId).filter (· ≠ x)) := by
  rw [updateFrontSession_eq_ite h, if_neg Bool.false_ne_true]
  unfold removeFrontSession
  dsimp only
  rw [front_of_pos _ hu]

/-- The slot still has the session if no other one is elected and the slot that is emptied is
another user's. -/
theorem top_handleTopSessionRelease_iff (h : UsersInv m) (hu : 0 < u)
    (hproxy : (m.items x).hasCastProxy = false) :
    (handleTopSessionRelease m o x u).topByUser u = some x ↔ m.topByUser u = some x ∧
      getOtherPlayingSession m o u (m.items x).bundleName = none ∧ getTargetUserId m u ≠ u := by
  rw [topByUser_handleTopSessionRelease h hu]
  split_ifs with htop
  · cases hy : getOtherPlayingSession m o u (m.items x).bundleName with
    | none =>
        by_cases htarget : getTargetUserId m u = u
        · simp [htarget]
        · simp [htarget, htop, Function.update_of_ne (Ne.symm htarget)]
    | some y => simpa using ne_of_getOtherPlayingSession hproxy hy
  · simp [htop]

/-- The containers' release writes no item. -/
theorem items_releaseContainers (m : UsersManager) (x : SessionRef) :
    (AVSessionService.releaseContainers m x).items = m.items :=
  m.removeSessionForAllUser_items _ _

/-- The containers' release leaves the front and key event lists. -/
theorem sameLists_releaseContainers (m : UsersManager) (x : SessionRef) :
    UsersManager.SameLists m (AVSessionService.releaseContainers m x) :=
  UsersManager.SameLists.removeSessionForAllUser m _ _

/-- The session goes by its own key, and it alone. -/
theorem registered_releaseContainers (h : RegistryInv m) (hx : m.Registered x) :
    (AVSessionService.releaseContainers m x).Registered y ↔ m.Registered y ∧ y ≠ x :=
  h.partition.registered_removeSession_iff (h.getElem?_itemKey hx)

/-- The containers' release keeps the registry. -/
theorem RegistryInv.releaseContainers (h : RegistryInv m) (hx : m.Registered x) :
    RegistryInv (AVSessionService.releaseContainers m x) where
  partition := h.partition.removeSessionForAllUser _ _
  ids := by
    rw [items_releaseContainers]
    exact h.ids
  ownKey := by
    intro k y hy
    rw [items_releaseContainers]
    apply h.ownKey k y
    have hk := h.getElem?_itemKey hx
    unfold AVSessionService.releaseContainers at hy
    rw [UsersManager.removeSessionForAllUser_of_some hk] at hy
    exact ((removeSession_eq_some_iff _).mp hy).1

/-- Emptying a slot leaves the front lists. -/
theorem frontByUser_updateTopSession_none (m : UsersManager) (u : UserId) :
    (updateTopSession m u none).frontByUser = m.frontByUser := by
  show (clearTop m (m.getTopSession (getTargetUserId m u))).frontByUser = _
  cases m.getTopSession (getTargetUserId m u) <;> rfl

/-- When `HandleTopSessionRelease` runs a second time for the same session, it elects nobody: had
there been somebody, the session would have lost the slot the first time. -/
theorem handleTopSessionRelease_again (h : UsersInv m) (hu : 0 < u)
    (hproxy : (m.items x).hasCastProxy = false) {m₃ : UsersManager}
    (hm₃ : m₃ = AVSessionService.releaseContainers (handleTopSessionRelease m o x u) x) :
    handleTopSessionRelease m₃ o x u =
      if m₃.topByUser u = some x then updateTopSession m₃ u none else m₃ := by
  have hlists := sameLists_releaseContainers (handleTopSessionRelease m o x u) x
  have hitems := items_releaseContainers (handleTopSessionRelease m o x u) x
  rw [← hm₃] at hlists hitems
  have ht : OnlyTop m (handleTopSessionRelease m o x u) := h.onlyTop_handleTopSessionRelease
  show (if m₃.topByUser u = some x then _ else m₃) = _
  split_ifs with htop
  · rw [hlists.top, top_handleTopSessionRelease_iff h hu hproxy] at htop
    obtain ⟨htop, hnone, -⟩ := htop
    have hfirst : handleTopSessionRelease m o x u = updateTopSession m u none := by
      have hslot : m.getTopSession u = some x := htop
      unfold handleTopSessionRelease
      rw [if_pos hslot, hnone]
    have hfront : m₃.getCurSessionListForFront u = m.getCurSessionListForFront u := by
      rw [front_of_pos _ hu, front_of_pos _ hu, hlists.front, hfirst,
        frontByUser_updateTopSession_none]
    have hagain : getOtherPlayingSession m₃ o u (m₃.items x).bundleName = none := by
      obtain ⟨b, hb⟩ := ht.items x
      rw [hitems, hb, ← hnone]
      apply getOtherPlayingSession_of_isTop hfront
      rw [hitems]
      exact ht.items
    rw [hagain]
  · rfl

/-- What the release of `x` leaves of the users. -/
structure Released (m m' : UsersManager) (o : Oracle) (x : SessionRef) (control : List String) :
    Prop where
  registry : RegistryInv m'
  registered : ∀ y, m'.Registered y ↔ m.Registered y ∧ y ≠ x
  items : ∀ y, ∃ b, m'.items y = { m.items y with isTop := b }
  front : ∀ v y, y ∈ m'.frontByUser v → y ∈ m.frontByUser v
  front_self : ∀ v, x ∈ m'.frontByUser v ↔ x ∈ m.frontByUser v ∧ FrontRefused m x control
  keyEvent : ∀ v, m'.keyEventByUser v =
    if v = (m.items x).userId then (m.keyEventByUser v).erase x else m.keyEventByUser v
  top : ∀ v y, m'.topByUser v = some y → m.Registered y ∧ (m.items y).userId = v
  top_self : ∀ v, m'.topByUser v = some x ↔ v = (m.items x).userId ∧
    m.topByUser v = some x ∧ getOtherPlayingSession m o v (m.items x).bundleName = none ∧
      getTargetUserId m v ≠ v

/-- Once the session is gone from the front lists and the slots, the lists are as they should be. -/
theorem Released.usersInv (hr : Released m m' o x control) (h : UsersInv m)
    (hfront : ∀ v, x ∉ m'.frontByUser v) (htop : ∀ v, m'.topByUser v ≠ some x) : UsersInv m' := by
  have howner : ∀ y, (m'.items y).userId = (m.items y).userId := by
    intro y
    obtain ⟨b, hb⟩ := hr.items y
    rw [hb]
  have hkept : ∀ v y, y ≠ x → m.Registered y ∧ (m.items y).userId = v →
      m'.Registered y ∧ (m'.items y).userId = v := by
    intro v y hyx hy
    rw [howner]
    exact ⟨(hr.registered y).mpr ⟨hy.1, hyx⟩, hy.2⟩
  refine ⟨hr.registry, fun y hy => ?_, fun v y hy => ?_, fun v y hy => ?_, fun v => ?_,
    fun v y hy => ?_⟩
  · rw [howner]
    exact h.positive y ((hr.registered y).mp hy).1
  · apply hkept v y
    · rintro rfl
      exact hfront v hy
    · exact h.front v y (hr.front v y hy)
  · rw [hr.keyEvent] at hy
    split_ifs at hy with hv
    · rw [(h.keyEvent_nodup v).mem_erase_iff] at hy
      exact hkept v y hy.1 (h.keyEvent v y hy.2)
    · apply hkept v y
      · rintro rfl
        exact hv (h.keyEvent v y hy).2.symm
      · exact h.keyEvent v y hy
  · rw [hr.keyEvent]
    split_ifs
    · exact (h.keyEvent_nodup v).erase x
    · exact h.keyEvent_nodup v
  · apply hkept v y
    · rintro rfl
      exact htop v hy
    · exact hr.top v y hy

/-- Past the containers the release only changes flags and slots and the two lists of the user. -/
theorem released_of_onlyTop (h : UsersInv m) (hx : m.Registered x)
    (hproxy : (m.items x).hasCastProxy = false) (control : List String) (m₁ : UsersManager)
    (l : List SessionRef) {m₃ : UsersManager}
    (hm₃ : m₃ = AVSessionService.releaseContainers
      (handleTopSessionRelease m o x (m.items x).userId) x)
    (ht : OnlyTop m₃ m₁) (htop : ∀ v y, m₁.topByUser v = some y → m₃.topByUser v = some y)
    (hself : ∀ v, m₃.topByUser v = some x → m₁.topByUser v = some x)
    (hl : ∀ y ∈ l, y ∈ m₁.frontByUser (m.items x).userId)
    (hxl : x ∈ l ↔ x ∈ m₁.frontByUser (m.items x).userId ∧ FrontRefused m x control) :
    Released m (AVSessionService.eraseKeyEvent (setFront m₁ (m.items x).userId l) x
      (m.items x).userId) o x control := by
  have hu : 0 < (m.items x).userId := h.positive x hx
  have h₂ : UsersInv (handleTopSessionRelease m o x (m.items x).userId) :=
    h.handleTopSessionRelease
  have ht₂ : OnlyTop m (handleTopSessionRelease m o x (m.items x).userId) :=
    h.onlyTop_handleTopSessionRelease
  have hx₂ := ht₂.registered.mpr hx
  have hlists := sameLists_releaseContainers (handleTopSessionRelease m o x (m.items x).userId) x
  have hitems := items_releaseContainers (handleTopSessionRelease m o x (m.items x).userId) x
  have hreg := fun y => registered_releaseContainers (y := y) h₂.registry hx₂
  have hregistry := h₂.registry.releaseContainers hx₂
  rw [← hm₃] at hlists hitems hreg hregistry
  have hfront₁ : ∀ v y, y ∈ m₁.frontByUser v ↔ y ∈ m.frontByUser v := by
    intro v y
    rw [ht.front, hlists.front, ht₂.front]
  have htop₁ : ∀ v y, m₁.topByUser v = some y →
      m.Registered y ∧ (m.items y).userId = v := by
    intro v y hy
    have hy₃ := htop v y hy
    rw [hlists.top] at hy₃
    obtain ⟨hyreg, howner⟩ := h₂.top v y hy₃
    exact ⟨ht₂.registered.mp hyreg, (ht₂.userId y).symm.trans howner⟩
  have heff : m₁.effectiveUser (m.items x).userId = (m.items x).userId := effectiveUser_of_pos _ hu
  have hkey₁ : m₁.getCurSessionListForKeyEvent (m.items x).userId =
      m.keyEventByUser (m.items x).userId := by
    rw [keyEvent_of_pos _ hu, ht.keyEvent, hlists.keyEvent, ht₂.keyEvent]
  refine ⟨(hregistry.of_onlyTop ht).congr rfl rfl rfl, fun y => ?_, fun y => ?_, fun v y hy => ?_,
    fun v => ?_, fun v => ?_, htop₁, fun v => ?_⟩
  · show m₁.Registered y ↔ _
    rw [ht.registered, hreg, ht₂.registered]
  · obtain ⟨b, hb⟩ := ht₂.items y
    obtain ⟨b₁, hb₁⟩ := ht.items y
    refine ⟨b₁, ?_⟩
    show m₁.items y = _
    rw [hb₁, hitems, hb]
  · have hy' : y ∈ Function.update m₁.frontByUser (m₁.effectiveUser (m.items x).userId) l v := hy
    rw [heff, Function.update_apply] at hy'
    split_ifs at hy' with hv
    · rw [hv, ← hfront₁]
      exact hl y hy'
    · exact (hfront₁ v y).mp hy'
  · show x ∈ Function.update m₁.frontByUser (m₁.effectiveUser (m.items x).userId) l v ↔ _
    rw [heff, Function.update_apply]
    split_ifs with hv
    · rw [hv, hxl, hfront₁]
    · rw [hfront₁]
      -- the session is in no list of another user
      have hnot : x ∉ m.frontByUser v := fun hmem => hv (h.front v x hmem).2.symm
      simp [hnot]
  · show Function.update m₁.keyEventByUser (m₁.effectiveUser (m.items x).userId)
      ((m₁.getCurSessionListForKeyEvent (m.items x).userId).erase x) v = _
    rw [heff, hkey₁, Function.update_apply, ht.keyEvent, hlists.keyEvent, ht₂.keyEvent]
    split_ifs with hv
    · rw [hv]
    · rfl
  · show m₁.topByUser v = some x ↔ _
    constructor
    · intro hv
      obtain rfl := (htop₁ v x hv).2
      have hv₃ := htop _ x hv
      rw [hlists.top] at hv₃
      exact ⟨rfl, (top_handleTopSessionRelease_iff h hu hproxy).mp hv₃⟩
    · rintro ⟨rfl, hstay⟩
      apply hself
      rw [hlists.top]
      exact (top_handleTopSessionRelease_iff h hu hproxy).mpr hstay

/-- A registered session without a cast proxy is out of every table after its release. -/
theorem released_releaseUsers (h : UsersInv m) (hx : m.Registered x)
    (hproxy : (m.items x).hasCastProxy = false) :
    Released m (AVSessionService.releaseUsers m o x control) o x control := by
  have hu : 0 < (m.items x).userId := h.positive x hx
  have h₂ : UsersInv (handleTopSessionRelease m o x (m.items x).userId) :=
    h.handleTopSessionRelease
  have ht₂ : OnlyTop m (handleTopSessionRelease m o x (m.items x).userId) :=
    h.onlyTop_handleTopSessionRelease
  have hitems := items_releaseContainers (handleTopSessionRelease m o x (m.items x).userId) x
  have hlists := sameLists_releaseContainers (handleTopSessionRelease m o x (m.items x).userId) x
  have hagain := handleTopSessionRelease_again (o := o) h hu hproxy rfl
  have htop_iff := top_handleTopSessionRelease_iff (o := o) h hu hproxy
  have hreleased := fun m₁ l => released_of_onlyTop (o := o) h hx hproxy control m₁ l rfl
  unfold AVSessionService.releaseUsers
  rw [effectiveUser_of_pos _ hu]
  generalize AVSessionService.releaseContainers
    (handleTopSessionRelease m o x (m.items x).userId) x = m₃ at *
  have howner : (m₃.items x).userId = (m.items x).userId := by
    rw [hitems]
    exact ht₂.userId x
  have hrefused_iff : FrontRefused m₃ x control ↔ FrontRefused m x control := by
    obtain ⟨b, hb⟩ := ht₂.items x
    unfold FrontRefused
    rw [hitems, hb]
  by_cases hrefused : FrontRefused m x control
  · -- the front list is left as it is
    have hfront : updateFrontSession m₃ o x control false =
        setFront m₃ (m.items x).userId (m₃.frontByUser (m.items x).userId) := by
      rw [updateFrontSession_of_refused (hrefused_iff.mpr hrefused), setFront,
        effectiveUser_of_pos _ hu, Function.update_eq_self]
    rw [hfront]
    apply hreleased
    · exact OnlyTop.refl m₃
    · exact fun _ _ hy => hy
    · exact fun _ hy => hy
    · exact fun _ hy => hy
    · simp [hrefused]
  · -- the session is taken out of it
    rw [updateFrontSession_of_not_refused (fun hr => hrefused (hrefused_iff.mp hr))
      (howner ▸ hu), howner, hagain]
    apply hreleased
    · split_ifs
      · exact onlyTop_updateTopSession m₃ _ none
      · exact OnlyTop.refl m₃
    · intro v y hy
      split_ifs at hy
      · rw [topByUser_updateTopSession_none, Function.update_apply] at hy
        split_ifs at hy
        exact hy
      · exact hy
    · intro v hv
      split_ifs with htop
      · -- the slot that is emptied is another user's
        have hne : getTargetUserId m₃ (m.items x).userId ≠ (m.items x).userId := by
          rw [hlists.top] at htop
          have htarget := (htop_iff.mp htop).2.2
          rw [← ht₂.getTargetUserId] at htarget
          unfold getTargetUserId UsersManager.isUserAlive at htarget ⊢
          rw [hlists.curUserId, hlists.aliveUsers]
          exact htarget
        have hv' : v = (m.items x).userId := by
          rw [hlists.top] at hv
          rw [← (h₂.top v x hv).2]
          exact ht₂.userId x
        rw [topByUser_updateTopSession_none, Function.update_of_ne (hv' ▸ hne.symm)]
        exact hv
      · exact hv
    · exact fun y hy => (List.mem_filter.mp hy).1
    · simp [hrefused]

end users

/-! ## What the release does to the controllers -/

section controllers

open AVSessionService

variable {s : AVSessionService} (l : List ControllerRef) (c : ControllerRef)

/-- Unbinding controllers leaves the session tables. -/
theorem foldl_unbind_users (s : AVSessionService) : (l.foldl unbind s).users = s.users := by
  induction l generalizing s with
  | nil => rfl
  | cons d l ih => exact ih (s.unbind d)

/-- Unbinding controllers leaves the service's table. -/
theorem foldl_unbind_controllers (s : AVSessionService) :
    (l.foldl unbind s).controllers = s.controllers := by
  induction l generalizing s with
  | nil => rfl
  | cons d l ih => exact ih (s.unbind d)

/-- Unbinding controllers creates no session. -/
theorem foldl_unbind_nextSession (s : AVSessionService) :
    (l.foldl unbind s).nextSession = s.nextSession := by
  induction l generalizing s with
  | nil => rfl
  | cons d l ih => exact ih (s.unbind d)

/-- The controllers of the list are unbound, and no other. -/
theorem foldl_unbind_controllerItems (s : AVSessionService) :
    (l.foldl unbind s).controllerItems c =
      if c ∈ l then { s.controllerItems c with session := none } else s.controllerItems c := by
  induction l generalizing s with
  | nil => rfl
  | cons d l ih =>
      rw [List.foldl_cons, ih]
      show (if c ∈ l then { Function.update s.controllerItems d _ c with session := none }
        else Function.update s.controllerItems d _ c) = _
      rw [Function.update_apply]
      by_cases hcd : c = d
      · subst hcd
        simp
      · simp [hcd]

/-- Removing controllers leaves the session tables. -/
theorem removeControllersNoLock_users (s : AVSessionService) :
    (s.removeControllersNoLock l).users = s.users := by
  unfold removeControllersNoLock
  induction l generalizing s with
  | nil => rfl
  | cons d l ih => exact ih (s.handleControllerRelease d)

/-- Removing controllers leaves their own records. -/
theorem removeControllersNoLock_controllerItems (s : AVSessionService) :
    (s.removeControllersNoLock l).controllerItems = s.controllerItems := by
  unfold removeControllersNoLock
  induction l generalizing s with
  | nil => rfl
  | cons d l ih => exact ih (s.handleControllerRelease d)

/-- Removing controllers creates no session. -/
theorem removeControllersNoLock_nextSession (s : AVSessionService) :
    (s.removeControllersNoLock l).nextSession = s.nextSession := by
  unfold removeControllersNoLock
  induction l generalizing s with
  | nil => rfl
  | cons d l ih => exact ih (s.handleControllerRelease d)

variable {x : SessionRef}

/-- Every bound controller is in the map of its session, so the release unbinds them all. -/
theorem session_destroyTask (h : ServiceInv s) (hx : s.users.Registered x) {y : SessionRef}
    (hy : ((s.destroyTask x).1.controllerItems c).session = some y) :
    (s.controllerItems c).session = some y ∧ y ≠ x := by
  unfold destroyTask at hy
  rw [h.alive x hx, if_neg Bool.false_ne_true, foldl_unbind_controllerItems] at hy
  have hy' : (if c ∈ vals (s.users.items x).controllers then
    { s.controllerItems c with session := none } else s.controllerItems c).session = some y := hy
  split_ifs at hy' with hc
  refine ⟨hy', ?_⟩
  rintro rfl
  exact hc (mem_vals.mpr ⟨_, (h.bound c _ hy').2⟩)

/-- DestroyTask leaves every controller its process. -/
theorem pid_destroyTask (s : AVSessionService) (x : SessionRef) :
    ((s.destroyTask x).1.controllerItems c).pid = (s.controllerItems c).pid := by
  unfold destroyTask
  split_ifs
  · rfl
  · rw [foldl_unbind_controllerItems]
    split_ifs <;> rfl

/-- The users after `DestroyTask`. -/
theorem users_destroyTask (h : ServiceInv s) (hx : s.users.Registered x) :
    (s.destroyTask x).1.users = s.users.withItem x (destroyedItem (s.users.items x)) := by
  unfold destroyTask
  rw [h.alive x hx, if_neg Bool.false_ne_true]
  exact foldl_unbind_users _ _

/-- DestroyTask creates no session. -/
theorem nextSession_destroyTask (s : AVSessionService) (x : SessionRef) :
    (s.destroyTask x).1.nextSession = s.nextSession := by
  unfold destroyTask
  split_ifs
  · rfl
  · exact foldl_unbind_nextSession _ _

end controllers

/-! ## The release -/

section release

/-- A container that still has a session, in its map or in its list. -/
def Holds (stack : SessionStack) (x : SessionRef) : Prop :=
  x ∈ stack.stack ∨ ∃ k : SessionKey, stack.sessions[k]? = some x

/-- No structure of the service refers to the session. -/
structure NoReference (s : AVSessionService) (x : SessionRef) : Prop where
  all : ¬ Holds s.users.stackForAll x
  user : ∀ u, ¬ Holds (s.users.stackByUser u) x
  front : ∀ u, x ∉ s.users.frontByUser u
  keyEvent : ∀ u, x ∉ s.users.keyEventByUser u
  top : ∀ u, s.users.topByUser u ≠ some x
  controller : ∀ pid, ∀ c ∈ ListMap.listAt s.controllers pid,
    (s.controllerItems c).session ≠ some x

/-- The condition of `HandleSessionRelease` on the state and on what is playing: the session is not
in the front list of its user, or `UpdateFrontSession` does not refuse it; and it is not the top
session of its user, or that user is alive, or another session is elected. -/
def ReleaseOk (s : AVSessionService) (o : Oracle) (x : SessionRef) : Prop :=
  (x ∈ s.users.frontByUser (s.users.items x).userId →
    ¬ FrontRefused s.users x s.controlBundleNameSet) ∧
  (s.users.topByUser (s.users.items x).userId = some x →
    getTargetUserId s.users (s.users.items x).userId = (s.users.items x).userId ∨
    ∃ y, y ≠ x ∧ getOtherPlayingSession s.users o (s.users.items x).userId
      (s.users.items x).bundleName = some y)

variable {s : AVSessionService} {sessionId : String}

/-- The parts of the state after the release of a session that is found. -/
theorem handleSessionRelease_of_some
    (hfind : s.users.stackForAll.getSessionById s.users.items sessionId = some x) :
    s.handleSessionRelease o sessionId = ((s.destroyTask x).1.withUsers
      (AVSessionService.releaseUsers (s.destroyTask x).1.users o x
        s.controlBundleNameSet)).removeControllersNoLock (s.destroyTask x).2 := by
  unfold AVSessionService.handleSessionRelease
  rw [UsersManager.getContainerFromAll, hfind]

/-- Between `DestroyTask` and the rest of the release. -/
theorem usersInv_destroyTask (h : ServiceInv s) (x : SessionRef) :
    UsersInv (s.users.withItem x (AVSessionService.destroyedItem (s.users.items x))) := by
  apply h.users.withItem x
  · rfl
  · exact fun _ => rfl
  · exact fun _ => ⟨rfl, rfl⟩

/-- What the release leaves, in terms of the users before it. -/
theorem released_destroyTask (h : ServiceInv s) (hx : s.users.Registered x) (o : Oracle) :
    Released (s.users.withItem x (AVSessionService.destroyedItem (s.users.items x)))
      (AVSessionService.releaseUsers (s.destroyTask x).1.users o x s.controlBundleNameSet) o x
      s.controlBundleNameSet := by
  rw [users_destroyTask h hx]
  apply released_releaseUsers (usersInv_destroyTask h x) hx
  rw [UsersManager.withItem_items, if_pos rfl]
  rfl

/-- The front list keeps the session if `UpdateFrontSession` refuses it. -/
theorem front_release_iff (h : ServiceInv s) (hx : s.users.Registered x) {m' : UsersManager}
    (hm' : m' = AVSessionService.releaseUsers (s.destroyTask x).1.users o x
      s.controlBundleNameSet) (v : UserId) :
    x ∈ m'.frontByUser v ↔
      x ∈ s.users.frontByUser v ∧ FrontRefused s.users x s.controlBundleNameSet := by
  rw [hm', (released_destroyTask h hx o).front_self]
  refine and_congr Iff.rfl ?_
  unfold FrontRefused
  rw [UsersManager.withItem_items, if_pos rfl]
  exact Iff.rfl

/-- The slot keeps the session if nobody else is elected and another user's slot is emptied. -/
theorem top_release_iff (h : ServiceInv s) (hx : s.users.Registered x) {m' : UsersManager}
    (hm' : m' = AVSessionService.releaseUsers (s.destroyTask x).1.users o x
      s.controlBundleNameSet) (v : UserId) :
    m'.topByUser v = some x ↔ v = (s.users.items x).userId ∧ s.users.topByUser v = some x ∧
      (¬ ∃ y, y ≠ x ∧
        getOtherPlayingSession s.users o v (s.users.items x).bundleName = some y) ∧
      getTargetUserId s.users v ≠ v := by
  have hself : (s.users.withItem x (AVSessionService.destroyedItem (s.users.items x))).items x =
      AVSessionService.destroyedItem (s.users.items x) := by
    rw [UsersManager.withItem_items, if_pos rfl]
  have hproxy := getOtherPlayingSession_without_proxy (m := s.users) (o := o) (x := x) (u := v)
    (AVSessionService.destroyedItem (s.users.items x)) rfl
  rw [hm', (released_destroyTask h hx o).top_self, hself, ← hproxy]
  show v = (s.users.items x).userId ∧ s.users.topByUser v = some x ∧ getOtherPlayingSession _ o v
    (s.users.items x).bundleName = none ∧ getTargetUserId s.users v ≠ v ↔ _
  rw [← Option.isSome_iff_exists, Option.not_isSome_iff_eq_none]

/-- **The release of a session.** It leaves no reference behind exactly under its condition. -/
theorem noReference_handleSessionRelease_iff (h : ServiceInv s)
    (hfind : s.users.stackForAll.getSessionById s.users.items sessionId = some x) :
    NoReference (s.handleSessionRelease o sessionId) x ↔ ReleaseOk s o x := by
  have hx := h.registered_of_getSessionById hfind
  have hr := released_destroyTask h hx o
  have hfront := front_release_iff (o := o) h hx rfl
  have htop := top_release_iff (o := o) h hx rfl
  rw [handleSessionRelease_of_some hfind]
  generalize hm' : AVSessionService.releaseUsers (s.destroyTask x).1.users o x
    s.controlBundleNameSet = m' at *
  have husers := removeControllersNoLock_users (s.destroyTask x).2
    ((s.destroyTask x).1.withUsers m')
  rw [AVSessionService.withUsers_users] at husers
  have hnot : ¬ m'.Registered x := fun hreg => ((hr.registered x).mp hreg).2 rfl
  constructor
  · intro hno
    refine ⟨fun hmem hrefused => ?_, fun hslot => ?_⟩
    · apply hno.front (s.users.items x).userId
      rw [husers, hfront]
      exact ⟨hmem, hrefused⟩
    · by_contra hkeep
      rw [not_or] at hkeep
      apply hno.top (s.users.items x).userId
      rw [husers, htop]
      exact ⟨rfl, hslot, hkeep.2, hkeep.1⟩
  · intro hok
    refine ⟨?_, fun v => ?_, fun v => ?_, fun v => ?_, fun v => ?_, fun pid c _ hc => ?_⟩
    · rw [husers]
      rintro (hmem | hk)
      · exact hnot (hr.registry.partition.mem_stack_all.mp hmem)
      · exact hnot hk
    · rw [husers]
      rintro (hmem | ⟨k, hk⟩)
      · exact hnot (hr.registry.partition.mem_stack_user.mp hmem).1
      · exact hnot ⟨k, (hr.registry.partition.mem_user.mp hk).1⟩
    · rw [husers, hfront]
      rintro ⟨hmem, hrefused⟩
      have howner := (h.users.front v x hmem).2
      exact hok.1 (howner ▸ hmem) hrefused
    · rw [husers, hr.keyEvent]
      have hnodup : (s.users.keyEventByUser v).Nodup := h.users.keyEvent_nodup v
      split_ifs with hv
      · exact hnodup.not_mem_erase
      · intro hmem
        apply hv
        rw [UsersManager.withItem_items, if_pos rfl]
        exact (h.users.keyEvent v x hmem).2.symm
    · rw [husers, Ne, htop]
      rintro ⟨rfl, hslot, hnobody, htarget⟩
      rcases hok.2 hslot with halive | hother
      · exact htarget halive
      · exact hnobody hother
    · rw [removeControllersNoLock_controllerItems] at hc
      exact (session_destroyTask c h hx hc).2 rfl

/-- A release under its condition keeps the invariant. -/
theorem ServiceInv.handleSessionRelease (h : ServiceInv s)
    (hok : ∀ x, s.users.stackForAll.getSessionById s.users.items sessionId = some x →
      ReleaseOk s o x) : ServiceInv (s.handleSessionRelease o sessionId) := by
  cases hfind : s.users.stackForAll.getSessionById s.users.items sessionId with
  | none =>
      unfold AVSessionService.handleSessionRelease
      rw [UsersManager.getContainerFromAll, hfind]
      exact h
  | some x =>
      have hno := (noReference_handleSessionRelease_iff h hfind).mpr (hok x hfind)
      have hx := h.registered_of_getSessionById hfind
      have hr := released_destroyTask h hx o
      rw [handleSessionRelease_of_some hfind] at hno ⊢
      generalize AVSessionService.releaseUsers (s.destroyTask x).1.users o x
        s.controlBundleNameSet = m' at *
      have husers := removeControllersNoLock_users (s.destroyTask x).2
        ((s.destroyTask x).1.withUsers m')
      rw [AVSessionService.withUsers_users] at husers
      have hnext : (((s.destroyTask x).1.withUsers m').removeControllersNoLock
          (s.destroyTask x).2).nextSession = s.nextSession :=
        (removeControllersNoLock_nextSession _ _).trans (nextSession_destroyTask s x)
      have hother : ∀ y, y ≠ x → ∃ b, m'.items y = { s.users.items y with isTop := b } := by
        intro y hy
        obtain ⟨b, hb⟩ := hr.items y
        rw [UsersManager.withItem_items, if_neg hy] at hb
        exact ⟨b, hb⟩
      refine ⟨?_, fun y hy => ?_, fun y hy => ?_, fun c y hc => ?_⟩
      · rw [husers]
        apply hr.usersInv (usersInv_destroyTask h x)
        · exact fun v => husers ▸ hno.front v
        · exact fun v => husers ▸ hno.top v
      · rw [husers] at hy ⊢
        obtain ⟨hyreg, hyx⟩ := (hr.registered y).mp hy
        obtain ⟨b, hb⟩ := hother y hyx
        rw [hb]
        exact h.alive y hyreg
      · rw [husers] at hy
        rw [hnext]
        exact h.fresh y ((hr.registered y).mp hy).1
      · rw [removeControllersNoLock_controllerItems] at hc ⊢
        obtain ⟨hbefore, hyx⟩ := session_destroyTask c h hx hc
        obtain ⟨b, hb⟩ := hother y hyx
        rw [hnext, husers, hb]
        show y < s.nextSession ∧ (s.users.items y).controllers[
          ((s.destroyTask x).1.controllerItems c).pid]? = some c
        rw [pid_destroyTask]
        exact h.bound c y hbefore

end release

/-! ## Runs -/

section runs

open AVSessionService

/-- A handler of the service that touches its sessions or its controllers. A session is given by
its id, except for the controller that a session makes for its own process. -/
inductive ServiceOp
  | createSessionInner (tag : String) (pid : Pid) (uid : Uid) (type : SessionType)
      (elementName sessionElement : ElementName)
  | createSessionByCast (pid : Pid) (uid : Uid) (userId : UserId)
  | updateSession (o : Oracle) (sessionId : String) (isAdd : Bool) (userId : UserId)
  | updateControlList (bundleNames : List String)
  | addKeyEvent (sessionId : String)
  | updateTopSession (sessionId : String) (userId : UserId)
  | updateOrder (sessionId : String)
  | handleOtherSessionPlaying (o : Oracle) (userId : UserId)
  | userSwitched (userId : UserId)
  | userRemoved (userId : UserId)
  | createControllerInner (sessionId : String) (pid : Pid) (uid : Uid)
  | getControllerInner (x : SessionRef)
  | destroyController (c : ControllerRef)
  | clearControllerForClientDied (pid : Pid)
  | setCastProxy (x : SessionRef) (hasCastProxy : Bool)
  | handleSessionRelease (o : Oracle) (sessionId : String)

/-- A change of the users that is made for the session of that id, if there is one. -/
def withSession (s : AVSessionService) (sessionId : String)
    (f : UsersManager → SessionRef → UsersManager) : AVSessionService :=
  match s.users.getContainerFromAll.getSessionById s.users.items sessionId with
  | none => s
  | some x => s.withUsers (f s.users x)

/-- The state after a call. -/
def ServiceOp.step (s : AVSessionService) : ServiceOp → AVSessionService
  | createSessionInner tag pid uid type elementName sessionElement =>
      (s.createSessionInner tag pid uid type elementName sessionElement).1
  | createSessionByCast pid uid userId => s.createSessionByCast pid uid userId
  | updateSession o sessionId isAdd userId => s.updateSession o sessionId isAdd userId
  | updateControlList bundleNames => s.updateControlList bundleNames
  | addKeyEvent sessionId => s.addKeyEvent sessionId
  | updateTopSession sessionId userId =>
      withSession s sessionId fun m x => AvSession.Service.updateTopSession m userId (some x)
  | updateOrder sessionId => withSession s sessionId AvSession.Service.updateOrder
  | handleOtherSessionPlaying o userId =>
      match getOtherPlayingSession s.users o userId "" with
      | none => s
      | some x => s.withUsers (AvSession.Service.handleOtherSessionPlaying s.users x)
  | userSwitched userId => s.withUsers (handleUserSwitched s.users userId)
  | userRemoved userId => s.withUsers (handleUserRemoved s.users userId)
  | createControllerInner sessionId pid uid => s.createControllerInner sessionId pid uid
  | getControllerInner x => if x < s.nextSession then s.getControllerInner x else s
  | destroyController c => s.destroyController c
  | clearControllerForClientDied pid => s.clearControllerForClientDied pid
  | setCastProxy x hasCastProxy =>
      s.withUsers (s.users.withItem x { s.users.items x with hasCastProxy := hasCastProxy })
  | handleSessionRelease o sessionId => s.handleSessionRelease o sessionId

/-- The session that plays is made the top session, if there is one. -/
theorem step_handleOtherSessionPlaying_cases (s : AVSessionService) (o : Oracle)
    (userId : UserId) :
    ServiceOp.step s (.handleOtherSessionPlaying o userId) = s ∨
      ∃ x, getOtherPlayingSession s.users o userId "" = some x ∧
        ServiceOp.step s (.handleOtherSessionPlaying o userId) =
          s.withUsers (handleOtherSessionPlaying s.users x) := by
  unfold ServiceOp.step
  dsimp only
  cases getOtherPlayingSession s.users o userId "" with
  | none => exact Or.inl rfl
  | some x => exact Or.inr ⟨x, rfl, rfl⟩

/-- The condition on a call. -/
def ServiceOp.Ok (s : AVSessionService) : ServiceOp → Prop
  | createSessionInner tag pid uid _ elementName sessionElement =>
      CreateOk (s.refreshed tag uid elementName) pid uid elementName sessionElement
  | createSessionByCast pid uid userId => CastOk s pid uid userId
  | createControllerInner sessionId pid uid => ControllerOk s sessionId pid uid
  | handleSessionRelease o sessionId =>
      ∀ x, s.users.stackForAll.getSessionById s.users.items sessionId = some x → ReleaseOk s o x
  | _ => True

/-- A call that only moves tops keeps the invariant. -/
theorem ServiceInv.withSession {s : AVSessionService} (h : ServiceInv s) {sessionId : String}
    {f : UsersManager → SessionRef → UsersManager}
    (hf : ∀ x, s.users.Registered x → UsersInv (f s.users x) ∧ OnlyTop s.users (f s.users x)) :
    ServiceInv (withSession s sessionId f) := by
  unfold AvSession.Service.withSession
  cases hfind : s.users.getContainerFromAll.getSessionById s.users.items sessionId with
  | none => exact h
  | some x =>
      obtain ⟨husers, ht⟩ := hf x (h.registered_of_getSessionById hfind)
      exact h.withOnlyTop husers ht

/-- A call that meets its condition keeps the invariant. -/
theorem ServiceInv.step {s : AVSessionService} (h : ServiceInv s) (op : ServiceOp)
    (hok : op.Ok s) : ServiceInv (op.step s) := by
  cases op with
  | createSessionInner tag pid uid type elementName sessionElement =>
      exact h.createSessionInner tag type hok
  | createSessionByCast pid uid userId => exact h.createSessionByCast hok
  | updateSession o sessionId isAdd userId =>
      show ServiceInv (s.updateSession o sessionId isAdd userId)
      unfold AVSessionService.updateSession
      cases hfind : (s.users.getContainerFromUser (getTargetUserId s.users userId)).getSessionById
          s.users.items sessionId with
      | none => exact h
      | some x =>
          have hx := h.registered_of_mem_stackByUser (List.mem_of_find?_eq_some hfind)
          exact h.withUsers (h.users.updateFrontSession hx _ isAdd)
            (SameSessions.updateFrontSession o x h.users _ isAdd)
  | updateControlList bundleNames => exact ⟨h.users, h.alive, h.fresh, h.bound⟩
  | addKeyEvent sessionId =>
      show ServiceInv (s.addKeyEvent sessionId)
      unfold AVSessionService.addKeyEvent
      cases hfind : s.containerOfCaller.getSessionById s.users.items sessionId with
      | none => exact h
      | some x =>
          have hx := h.registered_of_mem_containerOfCaller (List.mem_of_find?_eq_some hfind)
          exact h.withUsers (h.users.addKeyEventSession hx) (SameSessions.addKeyEventSession _ x)
  | updateTopSession sessionId userId =>
      apply h.withSession (f := fun m x => AvSession.Service.updateTopSession m userId (some x))
      intro x hx
      exact ⟨h.users.updateTopSession_some hx, onlyTop_updateTopSession _ _ _⟩
  | updateOrder sessionId =>
      apply h.withSession
      intro x hx
      exact ⟨h.users.updateOrder hx, onlyTop_updateOrder h.users.registry hx⟩
  | handleOtherSessionPlaying o userId =>
      rcases step_handleOtherSessionPlaying_cases s o userId with hsame | ⟨y, hy, hplays⟩
      · rw [hsame]
        exact h
      · have hreg := (h.users.registered_of_getOtherPlayingSession hy).1
        rw [hplays]
        exact h.withOnlyTop (h.users.handleOtherSessionPlaying hreg)
          (onlyTop_handleOtherSessionPlaying h.users.registry hreg)
  | userSwitched userId =>
      exact h.withUsers (h.users.handleUserSwitched userId)
        (SameSessions.handleUserSwitched _ userId)
  | userRemoved userId =>
      exact h.withUsers (h.users.handleUserRemoved userId)
        (SameSessions.handleUserRemoved h.users userId)
  | createControllerInner sessionId pid uid => exact h.createControllerInner hok
  | getControllerInner x =>
      show ServiceInv (if x < s.nextSession then s.getControllerInner x else s)
      split_ifs with hx
      · exact h.getControllerInner hx
      · exact h
  | destroyController c => exact h.destroyController c
  | clearControllerForClientDied pid => exact h.clearControllerForClientDied pid
  | setCastProxy x hasCastProxy =>
      refine h.withUsers ?_ ⟨fun _ hy => hy, fun y => ?_, fun y => ?_⟩
      · apply h.users.withItem x
        · rfl
        · exact fun _ => rfl
        · exact fun _ => ⟨rfl, rfl⟩
      · rw [UsersManager.withItem_items]
        split_ifs with hy
        · rw [hy]
        · rfl
      · rw [UsersManager.withItem_items]
        split_ifs with hy
        · rw [hy]
        · rfl
  | handleSessionRelease o sessionId => exact h.handleSessionRelease hok

/-- The state that a run of handlers reaches from the start of the service. -/
def reached (items : Items) (userId : UserId) (controlBundleNameSet : List String)
    (carFeature : Bool) (ops : List ServiceOp) : AVSessionService :=
  run (fun s op => ServiceOp.step s op) (init items userId controlBundleNameSet carFeature) ops

/-- In every state that a run of handlers reaches, each under its condition, the release of a live
session leaves no reference to it behind exactly under `ReleaseOk`. -/
theorem release_iff (items : Items) (userId : UserId) (controlBundleNameSet : List String)
    (carFeature : Bool) (hinj : DistinctIds items) (ops : List ServiceOp)
    (hops : Meets (fun s op => ServiceOp.step s op) (fun s op => op.Ok s)
      (init items userId controlBundleNameSet carFeature) ops)
    (o : Oracle) (sessionId : String) (x : SessionRef)
    (hx : (reached items userId controlBundleNameSet carFeature
      ops).users.stackForAll.getSessionById
        (reached items userId controlBundleNameSet carFeature ops).users.items sessionId = some x) :
    NoReference ((reached items userId controlBundleNameSet carFeature
      ops).handleSessionRelease o sessionId) x ↔
      ReleaseOk (reached items userId controlBundleNameSet carFeature ops) o x := by
  have hrun := always_of_meets (P := ServiceInv) (fun _ op h hok => h.step op hok)
    (ServiceInv.init hinj userId controlBundleNameSet carFeature) hops
  exact noReference_handleSessionRelease_iff hrun.last hx

/-- Nothing is playing. -/
def silent : Oracle := ⟨fun _ _ => false, fun _ => false, fun _ => false, fun _ => false⟩

/-- The element of a player. -/
def music : ElementName := ⟨"", "music", "a"⟩

/-- A session of the current user is the top session and in the front list, and a client has a
controller of it; it is released. -/
theorem release_of_top_session :
    NoReference ((reached (numberedItems 100) 100 [] false
      [.createSessionInner "song" 1 20000000 .audio music music, .updateSession silent "" true 100,
        .updateTopSession "" 100, .createControllerInner "" 2 20000000]).handleSessionRelease
          silent "") 0 := by
  refine (release_iff (numberedItems 100) 100 [] false (distinctIds_numberedItems 100) _ ?_ silent
    "" 0 (by decide)).mpr ?_
  · refine ⟨?_, trivial, trivial, ?_, trivial⟩
    · exact Or.inr ⟨by decide, by decide⟩
    · -- the session has no controller yet
      intro x hx _
      have hfirst : x = 0 := Option.some.inj (hx.symm.trans (by decide))
      subst hfirst
      decide
  · exact ⟨fun _ => by decide, fun _ => Or.inl (by decide)⟩

/-- A call of a bundle in the control list: it is put into the front list when it is created, and
its release is refused there. -/
theorem release_keeps_call_of_control_bundle :
    ¬ NoReference ((reached (numberedItems 100) 100 ["music"] false
      [.createSessionInner "talk" 1 20000000 .voiceCall music music]).handleSessionRelease silent
        "") 0 := by
  intro h
  exact absurd (h.front 100) (by decide)

end runs

end AvSession.Service
