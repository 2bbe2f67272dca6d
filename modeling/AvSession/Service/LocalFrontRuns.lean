import AvSession.Service.FrontFrame

/-!
# The runs in which the front session is the one that is meant

* `ListChanged` — what an addition to a front list or a removal comes to; `ListChanged.followed_iff`
  is the condition.
* `updateTopSession_some_iff`, `updateTopSession_none_iff`, `updateFrontSession_iff`,
  `release_followed_iff` — the condition of each operation.
* `localFront_iff` — exactly the runs whose steps meet the condition.
-/

namespace AvSession.Service

open AvSession.Lib AvSession.Registry

/-! ## A change of a front list -/

section change

variable {s s' : LocalFrontState} {o : Oracle} {x : SessionRef} {u : UserId} {l : List SessionRef}

/-- What an addition or a removal comes to, at the end: the servers are told of what is found with
the list of the user. -/
structure ListChanged (s s' : LocalFrontState) (o : Oracle) (x : SessionRef) (u : UserId)
    (l : List SessionRef) : Prop where
  owned : FrontOwned s'.users
  local' : s'.localFrontSessionId = preloadSessionId s'.users o (s'.users.frontByUser u)
  curUserId : s'.users.curUserId = s.users.curUserId
  sessionId : ∀ y, (s'.users.items y).sessionId = (s.users.items y).sessionId
  userId : ∀ y, (s'.users.items y).userId = (s.users.items y).userId
  mem : ∀ y, y ∈ s'.users.frontByUser u ↔ y ∈ l
  other : u ≠ s.users.curUserId →
    s'.users.topByUser s.users.curUserId = s.users.topByUser s.users.curUserId ∧
      s'.users.frontByUser s.users.curUserId = s.users.frontByUser s.users.curUserId
  free : u = s.users.curUserId → l = [] →
    (FreeTop s'.users o ↔ FreeTop s.users o ∧ s.users.topByUser s.users.curUserId ≠ some x)

/-- The list of the current user was changed. -/
theorem ListChanged.current (h : ListChanged s s' o x u l) (heq : u = s.users.curUserId) :
    Followed s s' o u ↔
      l ≠ [] ∨ ¬ FreeTop s.users o ∨ s.users.topByUser s.users.curUserId = some x := by
  rw [followed_iff_of_current heq, h.local', heq, ← h.curUserId]
  by_cases hl : l = []
  · have hfront : s'.users.frontByUser s'.users.curUserId = [] := by
      refine List.eq_nil_iff_forall_not_mem.mpr fun y hy => ?_
      rw [h.curUserId, ← heq, h.mem, hl] at hy
      cases hy
    have hempty : preloadSessionId s'.users o (s'.users.frontByUser s'.users.curUserId) = "" := by
      unfold preloadSessionId
      exact if_pos hfront
    have hfree := h.free heq hl
    rw [hempty, or_iff_right (not_not.mpr hl), h.curUserId]
    by_cases hfree' : FreeTop s'.users o
    · obtain ⟨hfree₁, hne⟩ := hfree.mp hfree'
      obtain ⟨t, htop, hcast⟩ := hfree'
      rw [localFront_of_free htop hcast]
      refine iff_of_false (fun heq' => (h.owned.top _ t htop).2 heq'.symm) ?_
      rintro (hnot | htop')
      · exact hnot hfree₁
      · exact hne htop'
    · rw [localFront_of_not_free hfree', hfront]
      refine iff_of_true rfl ?_
      by_contra hnot
      rw [not_or, not_not] at hnot
      exact hfree' (hfree.mpr hnot)
  · have hfront : s'.users.frontByUser s'.users.curUserId ≠ [] := by
      obtain ⟨y, hy⟩ := List.exists_mem_of_ne_nil l hl
      refine List.ne_nil_of_mem (a := y) ?_
      rw [h.curUserId, ← heq, h.mem]
      exact hy
    exact iff_of_true (preloadSessionId_eq_localFront hfront) (.inl hl)

/-- The list of another user was changed. -/
theorem ListChanged.another (h : ListChanged s s' o x u l) (howned : FrontOwned s.users)
    (hne : u ≠ s.users.curUserId) :
    Followed s s' o u ↔ UpToDate s o ∧
      (l ≠ [] ∧ FreeTop s.users o ∨
        s.localFrontSessionId = "" ∧ ∀ y ∈ l, o.isCasting y = true) := by
  obtain ⟨htop, hfront⟩ := h.other hne
  rw [followed_iff_of_other hne (localFront_congr h.curUserId h.sessionId htop hfront), h.local']
  refine and_congr_right fun hupToDate => ?_
  have htop' : s'.users.topByUser s'.users.curUserId = s.users.topByUser s.users.curUserId := by
    rw [h.curUserId, htop]
  have hnil : l = [] ↔ s'.users.frontByUser u = [] := by
    rw [List.eq_nil_iff_forall_not_mem, List.eq_nil_iff_forall_not_mem]
    exact forall_congr' fun y => not_congr (h.mem y).symm
  unfold UpToDate at hupToDate
  by_cases hfree : FreeTop s.users o
  · obtain ⟨t, htop₁, hcast⟩ := hfree
    have hid : s.localFrontSessionId = (s.users.items t).sessionId :=
      hupToDate.trans (localFront_of_free htop₁ hcast)
    have hnot : s.localFrontSessionId ≠ "" := by
      rw [hid]
      exact (howned.top _ t htop₁).2
    rw [or_iff_left fun hboth => hnot hboth.1, and_iff_left ⟨t, htop₁, hcast⟩]
    by_cases hl : l = []
    · refine iff_of_false (fun heq => hnot ?_) (not_not.mpr hl)
      rw [← heq, hnil.mp hl]
      rfl
    · refine iff_of_true ?_ hl
      rw [preloadSessionId_of_free (htop'.trans htop₁) hcast fun hl' => hl (hnil.mpr hl'), hid,
        h.sessionId]
  · have hfree' : ¬ FreeTop s'.users o := by
      rintro ⟨t, htop₁, hcast⟩
      exact hfree ⟨t, htop'.symm.trans htop₁, hcast⟩
    rw [or_iff_right fun hboth => hfree hboth.2, preloadSessionId_of_not_free hfree']
    rw [localFront_of_not_free hfree] at hupToDate
    have hall : (∀ y ∈ s'.users.frontByUser u, o.isCasting y = true) ↔
        ∀ y ∈ l, o.isCasting y = true :=
      forall_congr' fun y => imp_congr_left (h.mem y)
    rw [← hall]
    rcases firstNotCasting_cases s'.users o (s'.users.frontByUser u) with
      ⟨hempty, hcast⟩ | ⟨y, hy, hcast, hid⟩
    · rw [hempty, and_iff_left hcast, eq_comm]
    · obtain ⟨howner, hid'⟩ := h.owned.front u y hy
      refine iff_of_false (fun heq => ?_) fun hboth => ?_
      · rw [hid, hupToDate] at heq
        rcases firstNotCasting_cases s.users o (s.users.frontByUser s.users.curUserId) with
          ⟨hempty, -⟩ | ⟨z, hz, -, hid₂⟩
        · exact hid' (heq.trans hempty)
        · rw [hid₂, h.sessionId] at heq
          obtain rfl : y = z := howned.ids heq
          rw [h.userId] at howner
          exact hne (howner.symm.trans (howned.front _ y hz).1)
      · rw [hboth.2 y hy] at hcast
        cases hcast

/-- What is expected of a change of a front list. -/
theorem ListChanged.followed_iff {isAdd : Bool}
    (h : ListChanged s s' o x (s.users.items x).userId (frontAfter s.users x isAdd))
    (howned : FrontOwned s.users) :
    Followed s s' o (s.users.items x).userId ↔ FrontChangeOk s o x isAdd := by
  unfold FrontChangeOk
  split_ifs with heq
  · exact h.current heq
  · exact h.another howned heq

end change

/-! ## The operations -/

section operations

variable {s : LocalFrontState} {o : Oracle} {x : SessionRef} {u : UserId}

/-- A new top that is not casting is the local front. -/
theorem localFrontSessionId_updateTopSession (s : LocalFrontState) (o : Oracle) (u : UserId)
    (x : SessionRef) : (s.updateTopSession o u (some x)).localFrontSessionId =
      if o.isCasting x = true then s.localFrontSessionId else (s.users.items x).sessionId := by
  have htop : (updateTopSession s.users u (some x)).getTopSession (s.users.items x).userId =
      some x := by
    unfold UsersManager.getTopSession
    rw [topByUser_updateTopSession_some, Function.update_self]
  unfold LocalFrontState.updateTopSession
  dsimp only
  rw [show (s.withUsers (updateTopSession s.users u (some x))).users =
    updateTopSession s.users u (some x) from rfl, htop]
  dsimp only
  split_ifs
  · rfl
  · exact (frontFrame_updateTopSession (u := 0) s.users u (some x)).sessionId x

/-- When the top goes, the next one is the local front. -/
theorem localFrontSessionId_handleTopSessionRelease (s : LocalFrontState) (o : Oracle) (u : UserId)
    (x : SessionRef) : (s.handleTopSessionRelease o u x).localFrontSessionId =
      if s.users.topByUser u = some x then
        match getOtherPlayingSession s.users o u (s.users.items x).bundleName with
        | some y =>
            if o.isCasting y = true then s.localFrontSessionId else (s.users.items y).sessionId
        | none => s.localFrontSessionId
      else s.localFrontSessionId := by
  unfold LocalFrontState.handleTopSessionRelease UsersManager.getTopSession
  split_ifs
  · cases getOtherPlayingSession s.users o u (s.users.items x).bundleName with
    | none => rfl
    | some y =>
        have htop := localFrontSessionId_updateTopSession s o (s.users.items y).userId y
        unfold LocalFrontState.handleOtherSessionPlaying
        dsimp only
        split_ifs at htop ⊢
        · exact htop
        · exact htop
        · exact htop
        · exact htop
  · rfl

/-- A session becomes the top session of its user. -/
theorem updateTopSession_some_iff (howned : FrontOwned s.users) (hx : OfAliveUser s.users x)
    (u : UserId) :
    Followed s (s.updateTopSession o u (some x)) o (s.users.items x).userId ↔
      if (s.users.items x).userId = s.users.curUserId then
        o.isCasting x = false ∨ FrontFirst s o
      else UpToDate s o ∧ o.isCasting x = true := by
  have hframe := frontFrame_updateTopSession (u := 0) s.users u (some x)
  have htop := topByUser_updateTopSession_some s.users x u
  have hfront := frontByUser_updateTopSession s.users u (some x)
  split_ifs with heq
  · rw [followed_iff_of_current heq, users_updateTopSession, localFrontSessionId_updateTopSession]
    have htop' : (updateTopSession s.users u (some x)).topByUser
        (updateTopSession s.users u (some x)).curUserId = some x := by
      rw [hframe.curUserId, htop, heq, Function.update_self]
    cases hcast : o.isCasting x with
    | true =>
        have hfree : ¬ FreeTop (updateTopSession s.users u (some x)) o := by
          rintro ⟨t, htop₁, hfree⟩
          obtain rfl := Option.some.inj (htop'.symm.trans htop₁)
          exact absurd (hcast.symm.trans hfree) nofun
        rw [if_pos rfl, or_iff_right (by nofun), localFront_of_not_free hfree, hframe.curUserId,
          hfront, firstNotCasting_congr hframe.sessionId]
        exact Iff.rfl
    | false =>
        rw [if_neg Bool.false_ne_true, localFront_of_free htop' hcast, hframe.sessionId]
        exact iff_of_true rfl (.inl rfl)
  · have hmeant : localFront (updateTopSession s.users u (some x)) o = localFront s.users o := by
      refine localFront_congr hframe.curUserId hframe.sessionId ?_ (congrFun hfront _)
      rw [htop, Function.update_of_ne (Ne.symm heq)]
    rw [← users_updateTopSession s o] at hmeant
    rw [followed_iff_of_other heq hmeant, localFrontSessionId_updateTopSession]
    refine and_congr_right fun hupToDate => ?_
    split_ifs with hcast
    · exact iff_of_true rfl hcast
    · exact iff_of_false (fun hid => hupToDate.ne howned heq hx.id hid.symm) hcast

/-- The slot of a user is emptied. -/
theorem updateTopSession_none_iff (s : LocalFrontState) (o : Oracle) (u : UserId) :
    Followed s (s.updateTopSession o u none) o (getTargetUserId s.users u) ↔
      if getTargetUserId s.users u = s.users.curUserId then FrontFirst s o else UpToDate s o := by
  have hframe := frontFrame_updateTopSession (u := 0) s.users u none
  have htop := topByUser_updateTopSession_none s.users u
  have hfront := frontByUser_updateTopSession s.users u none
  split_ifs with heq
  · rw [followed_iff_of_current heq, users_updateTopSession]
    have hfree : ¬ FreeTop (updateTopSession s.users u none) o := by
      rintro ⟨t, htop₁, -⟩
      rw [hframe.curUserId, htop, heq, Function.update_self] at htop₁
      cases htop₁
    rw [localFront_of_not_free hfree, hframe.curUserId, hfront,
      firstNotCasting_congr hframe.sessionId]
    exact Iff.rfl
  · refine followed_iff_of_same rfl ?_
    rw [users_updateTopSession]
    refine localFront_congr hframe.curUserId hframe.sessionId ?_ (congrFun hfront _)
    rw [htop, Function.update_of_ne (Ne.symm heq)]

/-- An update that returns early. -/
theorem updateFrontSession_of_skips {isAdd : Bool} (hpos : 0 < (s.users.items x).userId)
    (h : FrontSkips s x isAdd) : s.updateFrontSession o x isAdd = s := by
  unfold LocalFrontState.updateFrontSession
  split_ifs with hcontrol hphoto hadd
  · rfl
  · rfl
  · rcases h with (hrefused | hrefused) | ⟨-, hmem⟩
    · exact absurd hrefused hcontrol
    · exact absurd hrefused hphoto
    · unfold LocalFrontState.addFrontSession
      dsimp only
      rw [front_of_pos s.users hpos]
      exact if_pos hmem
  · rcases h with (hrefused | hrefused) | ⟨htrue, -⟩
    · exact absurd hrefused hcontrol
    · exact absurd hrefused hphoto
    · exact absurd htrue hadd

/-- A session is added to the list of its user. -/
theorem listChanged_addFrontSession (howned : FrontOwned s.users) (hx : OfAliveUser s.users x)
    (hmem : x ∉ s.users.frontByUser (s.users.items x).userId) :
    ListChanged s (s.addFrontSession o x) o x (s.users.items x).userId
      (frontAfter s.users x true) := by
  have hpos := hx.positive
  set m' := setFront s.users (s.users.items x).userId
    (x :: s.users.frontByUser (s.users.items x).userId) with hm'
  have howned' : FrontOwned m' := by
    refine howned.setFront hpos fun y hy => ?_
    rcases List.mem_cons.mp hy with rfl | hy
    · exact ⟨rfl, hx.id⟩
    · exact howned.front _ y hy
  have hfront' : m'.frontByUser = Function.update s.users.frontByUser (s.users.items x).userId
      (x :: s.users.frontByUser (s.users.items x).userId) := frontByUser_setFront s.users hpos _
  obtain ⟨m₂, hm₂, hadd⟩ : ∃ m₂ : UsersManager,
      (m₂ = m' ∨ m₂ = updateTopSession m' (s.users.items x).userId (some x)) ∧
        (s.addFrontSession o x).users = m₂ ∧
        (s.addFrontSession o x).localFrontSessionId =
          preloadSessionId m₂ o (m₂.frontByUser (s.users.items x).userId) := by
    unfold LocalFrontState.addFrontSession
    dsimp only
    rw [front_of_pos s.users hpos, if_neg hmem, ← hm']
    split_ifs
    · refine ⟨_, .inr rfl, users_updateTopSession _ o _ _, ?_⟩
      rw [front_of_pos _ hpos, users_updateTopSession]
      exact congrArg (preloadSessionId · o _) (users_updateTopSession _ o _ _)
    · refine ⟨_, .inl rfl, rfl, ?_⟩
      rw [front_of_pos _ hpos]
      rfl
  have hkeeps : FrontOwned m₂ ∧ FrontFrame (s.users.items x).userId m' m₂ ∧
      m₂.frontByUser = m'.frontByUser ∧ ∀ v, v ≠ (s.users.items x).userId →
        m₂.topByUser v = s.users.topByUser v := by
    rcases hm₂ with rfl | rfl
    · exact ⟨howned', .refl m', rfl, fun _ _ => rfl⟩
    · refine ⟨howned'.updateTopSession _ fun y hy => ?_, frontFrame_updateTopSession m' _ _,
        frontByUser_updateTopSession m' _ _, fun v hv => ?_⟩
      · obtain rfl := Option.some.inj hy
        exact hx.id
      · rw [topByUser_updateTopSession_some]
        exact Function.update_of_ne hv _ _
  obtain ⟨howned₂, hframe, hfront₂, htop₂⟩ := hkeeps
  obtain ⟨husers, hlocal⟩ := hadd
  refine ⟨?_, ?_, ?_, fun y => ?_, fun y => ?_, fun y => ?_, fun hne => ?_, fun _ hempty => ?_⟩
  · rw [husers]
    exact howned₂
  · rw [husers]
    exact hlocal
  · rw [husers]
    exact hframe.curUserId
  · rw [husers]
    exact hframe.sessionId y
  · rw [husers]
    exact hframe.userId y
  · rw [husers, hfront₂, hfront', Function.update_self]
    exact Iff.rfl
  · rw [husers, hfront₂, hfront', Function.update_of_ne (Ne.symm hne)]
    exact ⟨htop₂ _ (Ne.symm hne), rfl⟩
  · exact absurd hempty (List.cons_ne_nil _ _)

/-- A session is removed from the list of its user. -/
theorem listChanged_removeFrontSession (howned : FrontOwned s.users) (hx : OfAliveUser s.users x) :
    ListChanged s (s.removeFrontSession o x) o x (s.users.items x).userId
      (frontAfter s.users x false) := by
  have hpos := hx.positive
  set u := (s.users.items x).userId with hu
  set m₁ := handleTopSessionRelease s.users o x u with hm₁
  have hframe : FrontFrame u s.users m₁ := frontFrame_handleTopSessionRelease howned hpos o x
  have howned₁ : FrontOwned m₁ := howned.handleTopSessionRelease hpos hx.alive o x
  have husers : (s.removeFrontSession o x).users =
      setFront m₁ u ((m₁.frontByUser u).filter (· ≠ x)) := by
    unfold LocalFrontState.removeFrontSession
    dsimp only
    rw [users_handleTopSessionRelease, front_of_pos _ hpos]
    rfl
  have hfront := frontByUser_setFront m₁ hpos ((m₁.frontByUser u).filter (· ≠ x))
  have hmem : ∀ y, y ∈ (m₁.frontByUser u).filter (· ≠ x) ↔ y ∈ frontAfter s.users x false := by
    intro y
    unfold frontAfter
    rw [if_neg Bool.false_ne_true, List.mem_filter, List.mem_filter, hframe.mem_front]
  refine ⟨?_, ?_, ?_, fun y => ?_, fun y => ?_, fun y => ?_, fun hne => ?_, fun heq hempty => ?_⟩
  · rw [husers]
    exact howned₁.setFront hpos fun y hy => howned₁.front u y (List.mem_filter.mp hy).1
  · rw [husers]
    unfold LocalFrontState.removeFrontSession
    dsimp only
    rw [users_handleTopSessionRelease, front_of_pos m₁ hpos, front_of_pos _ hpos]
    rfl
  · rw [husers]
    exact hframe.curUserId
  · rw [husers]
    exact hframe.sessionId y
  · rw [husers]
    exact hframe.userId y
  · rw [husers, hfront, Function.update_self]
    exact hmem y
  · rw [husers, hfront, Function.update_of_ne (Ne.symm hne)]
    refine ⟨?_, hframe.front _ (Ne.symm hne)⟩
    show m₁.topByUser _ = _
    rw [hm₁, topByUser_of_elected howned hpos hx.alive]
    split_ifs
    · exact Function.update_of_ne (Ne.symm hne) _ _
    · rfl
  · rw [husers]
    refine freeTop_handleTopSessionRelease howned hpos hx.alive heq ?_
    unfold frontAfter at hempty
    rwa [if_neg Bool.false_ne_true] at hempty

/-- An update that does not return early changes the list. -/
theorem listChanged_updateFrontSession (howned : FrontOwned s.users) (hx : OfAliveUser s.users x)
    {isAdd : Bool} (hskips : ¬ FrontSkips s x isAdd) :
    ListChanged s (s.updateFrontSession o x isAdd) o x (s.users.items x).userId
      (frontAfter s.users x isAdd) := by
  unfold FrontSkips FrontRefused at hskips
  rw [not_or, not_or] at hskips
  unfold LocalFrontState.updateFrontSession
  rw [if_neg hskips.1.1, if_neg hskips.1.2]
  cases isAdd with
  | true =>
      rw [if_pos rfl]
      exact listChanged_addFrontSession howned hx fun hmem => hskips.2 ⟨rfl, hmem⟩
  | false =>
      rw [if_neg Bool.false_ne_true]
      exact listChanged_removeFrontSession howned hx

/-- The invariant is kept by an update of a front list. -/
theorem FrontOwned.localFrontUpdate (howned : FrontOwned s.users) (hx : OfAliveUser s.users x)
    (o : Oracle) (isAdd : Bool) : FrontOwned (s.updateFrontSession o x isAdd).users := by
  by_cases hskips : FrontSkips s x isAdd
  · rw [updateFrontSession_of_skips hx.positive hskips]
    exact howned
  · exact (listChanged_updateFrontSession howned hx hskips).owned

/-- An update of a front list. -/
theorem updateFrontSession_iff (howned : FrontOwned s.users) (hx : OfAliveUser s.users x)
    (isAdd : Bool) :
    Followed s (s.updateFrontSession o x isAdd) o (s.users.items x).userId ↔
      FrontSkips s x isAdd ∧ UpToDate s o ∨ ¬ FrontSkips s x isAdd ∧ FrontChangeOk s o x isAdd := by
  by_cases hskips : FrontSkips s x isAdd
  · rw [updateFrontSession_of_skips hx.positive hskips, and_iff_right hskips,
      or_iff_left fun h => h.1 hskips]
    exact followed_iff_of_same rfl rfl
  · rw [or_iff_right fun h => hskips h.1, and_iff_right hskips]
    exact (listChanged_updateFrontSession howned hx hskips).followed_iff howned

end operations

/-! ## The release of a session -/

section release

variable {s : LocalFrontState} {o : Oracle} {x : SessionRef}

/-- The state in which `HandleSessionRelease` updates the front list. -/
def LocalFrontState.released (s : LocalFrontState) (o : Oracle) (x : SessionRef) :
    LocalFrontState :=
  let s' := (s.destroyTask x).handleTopSessionRelease o
    (s.users.effectiveUser (s.users.items x).userId) x
  s'.withUsers (AVSessionService.releaseContainers s'.users x)

/-- What `DestroyTask` leaves alone. -/
structure SameForFront (m m' : UsersManager) : Prop where
  frame : ∀ u, FrontFrame u m m'
  top : m'.topByUser = m.topByUser
  front : m'.frontByUser = m.frontByUser
  playing : ∀ o y bundleName, isOtherPlaying m' o y bundleName = isOtherPlaying m o y bundleName
  bundleName : ∀ y, (m'.items y).bundleName = (m.items y).bundleName

/-- DestroyTask changes nothing the front is read from. -/
theorem sameForFront_destroyTask (s : LocalFrontState) (x : SessionRef) :
    SameForFront s.users (s.destroyTask x).users := by
  unfold LocalFrontState.destroyTask
  split_ifs
  · exact ⟨fun _ => .refl _, rfl, rfl, fun _ _ _ => rfl, fun _ => rfl⟩
  · refine ⟨fun _ => .withItem _ x rfl rfl rfl rfl, rfl, rfl, fun o y bundleName => ?_, fun y => ?_⟩
    · show isOtherPlaying (s.users.withItem x _) o y bundleName = _
      unfold isOtherPlaying isLocalSessionPlaying
      rw [UsersManager.withItem_items]
      split_ifs with heq
      · rw [heq]
        rfl
      · rfl
    · show ((s.users.withItem x _).items y).bundleName = _
      rw [UsersManager.withItem_items]
      split_ifs with heq
      · rw [heq]
        rfl
      · rfl

/-- The tables after a release, step by step. -/
theorem users_released (s : LocalFrontState) (o : Oracle) (hpos : 0 < (s.users.items x).userId) :
    (s.released o x).users = AVSessionService.releaseContainers
      (handleTopSessionRelease (s.destroyTask x).users o x (s.users.items x).userId) x := by
  unfold LocalFrontState.released
  dsimp only
  rw [effectiveUser_of_pos s.users hpos, users_handleTopSessionRelease]
  rfl

/-- UpdateTopSession leaves the control list. -/
theorem control_updateTopSession (s : LocalFrontState) (o : Oracle) (u : UserId)
    (t : Option SessionRef) :
    (s.updateTopSession o u t).controlBundleNameSet = s.controlBundleNameSet := by
  cases t with
  | none => rfl
  | some x =>
      unfold LocalFrontState.updateTopSession
      dsimp only
      split
      · split_ifs <;> rfl
      · rfl

/-- Looking for a new top leaves the control list. -/
theorem control_handleTopSessionRelease (s : LocalFrontState) (o : Oracle) (u : UserId)
    (x : SessionRef) :
    (s.handleTopSessionRelease o u x).controlBundleNameSet = s.controlBundleNameSet := by
  unfold LocalFrontState.handleTopSessionRelease
  split_ifs
  · cases getOtherPlayingSession s.users o u (s.users.items x).bundleName with
    | none => rfl
    | some y =>
        have htop := control_updateTopSession s o (s.users.items y).userId (some y)
        unfold LocalFrontState.handleOtherSessionPlaying
        dsimp only
        split_ifs
        · exact htop
        · exact htop
  · rfl

/-- The containers are not read. -/
theorem frontFrame_releaseContainers (m : UsersManager) (x : SessionRef) (u : UserId) :
    FrontFrame u m (AVSessionService.releaseContainers m x) := by
  have hlists := sameLists_releaseContainers m x
  have hitems := items_releaseContainers m x
  refine ⟨hlists.curUserId, hlists.aliveUsers, fun y => ?_, fun y => ?_, fun y control => ?_,
    fun v y => ?_, fun v _ => ?_⟩
  · rw [hitems]
  · rw [hitems]
  · unfold FrontRefused
    rw [hitems]
  · rw [hlists.front]
  · rw [hlists.front]

/-- The invariant holds after `DestroyTask`, and the user is alive. -/
theorem frontOwned_destroyTask (howned : FrontOwned s.users) (hx : OfAliveUser s.users x) :
    FrontOwned (s.destroyTask x).users ∧
      (s.destroyTask x).users.isUserAlive (s.users.items x).userId = true := by
  have hsame := sameForFront_destroyTask s x
  refine ⟨howned.of_frame (hsame.frame 0) fun v y hy => ?_, ?_⟩
  · rw [hsame.top] at hy
    exact howned.top v y hy
  · unfold UsersManager.isUserAlive
    rw [(hsame.frame 0).aliveUsers]
    exact hx.alive

/-- The slots before the front list is updated. -/
theorem topByUser_released (howned : FrontOwned s.users) (hx : OfAliveUser s.users x) :
    (s.released o x).users.topByUser =
      if s.users.topByUser (s.users.items x).userId = some x then
        Function.update s.users.topByUser (s.users.items x).userId
          (getOtherPlayingSession (s.destroyTask x).users o (s.users.items x).userId
            (s.users.items x).bundleName)
      else s.users.topByUser := by
  have hsame := sameForFront_destroyTask s x
  obtain ⟨howned₀, halive₀⟩ := frontOwned_destroyTask howned hx
  rw [users_released s o hx.positive, (sameLists_releaseContainers _ x).top,
    topByUser_of_elected howned₀ hx.positive halive₀, hsame.top, hsame.bundleName]

/-- What the release does before it updates the front list. -/
structure FrontReleased (s s' : LocalFrontState) (o : Oracle) (x : SessionRef) (u : UserId) :
    Prop where
  owned : FrontOwned s'.users
  frame : FrontFrame u s.users s'.users
  control : s'.controlBundleNameSet = s.controlBundleNameSet
  top : ∀ v, v ≠ u ∨ s.users.topByUser u ≠ some x → s'.users.topByUser v = s.users.topByUser v
  free : u = s.users.curUserId → (s.users.frontByUser u).filter (· ≠ x) = [] →
    (FreeTop s'.users o ↔ FreeTop s.users o ∧ s.users.topByUser s.users.curUserId ≠ some x)

/-- A release leaves the front as promised. -/
theorem frontReleased_released (howned : FrontOwned s.users) (hx : OfAliveUser s.users x) :
    FrontReleased s (s.released o x) o x (s.users.items x).userId := by
  have hpos := hx.positive
  have hsame := sameForFront_destroyTask s x
  obtain ⟨howned₀, halive₀⟩ := frontOwned_destroyTask howned hx
  have htop := topByUser_released (o := o) howned hx
  have husers := users_released s o hpos
  set u := (s.users.items x).userId with hu
  set m₀ := (s.destroyTask x).users with hm₀
  have hframe₁ := frontFrame_handleTopSessionRelease howned₀ hpos o x
  have howned₁ := howned₀.handleTopSessionRelease hpos halive₀ o x
  have hlists := sameLists_releaseContainers (handleTopSessionRelease m₀ o x u) x
  have hframe₂ := frontFrame_releaseContainers (handleTopSessionRelease m₀ o x u) x u
  refine ⟨?_, ?_, ?_, fun v hv => ?_, fun heq hempty => ?_⟩
  · rw [husers]
    refine howned₁.of_frame hframe₂ fun v y hy => ?_
    rw [hlists.top] at hy
    exact howned₁.top v y hy
  · rw [husers]
    exact ((hsame.frame u).trans hframe₁).trans hframe₂
  · unfold LocalFrontState.released
    refine (control_handleTopSessionRelease _ o _ x).trans ?_
    unfold LocalFrontState.destroyTask
    split_ifs
    · rfl
    · rfl
  · rw [htop]
    split_ifs with htop'
    · rcases hv with hv | hv
      · exact Function.update_of_ne hv _ _
      · exact absurd htop' hv
    · rfl
  · have hcur : m₀.curUserId = s.users.curUserId := (hsame.frame u).curUserId
    have hempty₀ : (m₀.frontByUser u).filter (· ≠ x) = [] := by
      rw [hsame.front]
      exact hempty
    have hfree := freeTop_handleTopSessionRelease (o := o) howned₀ hpos halive₀
      (heq.trans hcur.symm) hempty₀
    unfold FreeTop at hfree ⊢
    rw [hcur, hsame.top, hframe₁.curUserId, hcur] at hfree
    rw [husers, hlists.top, hlists.curUserId, hframe₁.curUserId, hcur]
    exact hfree

/-- A change after the release began is a change since then. -/
theorem FrontReleased.listChanged {s₁ s₂ s' : LocalFrontState}
    (h : FrontReleased s s₁ o x (s.users.items x).userId)
    (hchanged : ListChanged s₁ s₂ o x (s.users.items x).userId (frontAfter s₁.users x false))
    (hitems : s'.users.items = s₂.users.items) (htop : s'.users.topByUser = s₂.users.topByUser)
    (hfront : s'.users.frontByUser = s₂.users.frontByUser)
    (hcur : s'.users.curUserId = s₂.users.curUserId)
    (hlocal : s'.localFrontSessionId = s₂.localFrontSessionId) :
    ListChanged s s' o x (s.users.items x).userId (frontAfter s.users x false) := by
  have hmem : ∀ y, y ∈ frontAfter s₁.users x false ↔ y ∈ frontAfter s.users x false := by
    intro y
    unfold frontAfter
    rw [if_neg Bool.false_ne_true, if_neg Bool.false_ne_true, List.mem_filter, List.mem_filter,
      h.frame.userId, h.frame.mem_front]
  refine ⟨⟨?_, fun v y hy => ?_, fun v y hy => ?_⟩, ?_, ?_, fun y => ?_, fun y => ?_, fun y => ?_,
    fun hne => ?_, fun heq hempty => ?_⟩
  · rw [hitems]
    exact hchanged.owned.ids
  · rw [hitems]
    exact hchanged.owned.front v y (hfront ▸ hy)
  · rw [hitems]
    exact hchanged.owned.top v y (htop ▸ hy)
  · rw [hlocal, hchanged.local', hfront]
    unfold preloadSessionId firstNotCasting UsersManager.getTopSession
    rw [hitems, htop, hcur]
  · rw [hcur, hchanged.curUserId, h.frame.curUserId]
  · rw [hitems, hchanged.sessionId, h.frame.sessionId]
  · rw [hitems, hchanged.userId, h.frame.userId]
  · rw [hfront, hchanged.mem, hmem]
  · have hother := hchanged.other (by rw [h.frame.curUserId]; exact hne)
    rw [h.frame.curUserId] at hother
    rw [htop, hfront, hother.1, hother.2]
    exact ⟨h.top _ (.inl (Ne.symm hne)), h.frame.front _ (Ne.symm hne)⟩
  · have hempty₁ : frontAfter s₁.users x false = [] := by
      refine List.eq_nil_iff_forall_not_mem.mpr fun y hy => ?_
      rw [hmem, hempty] at hy
      cases hy
    have hfree₂ := hchanged.free (heq.trans h.frame.curUserId.symm) hempty₁
    have hfree₁ : FreeTop s₁.users o ↔ _ := h.free heq (by
      unfold frontAfter at hempty
      rwa [if_neg Bool.false_ne_true] at hempty)
    have hsame : FreeTop s'.users o ↔ FreeTop s₂.users o := by
      unfold FreeTop
      rw [htop, hcur]
    rw [hsame, hfree₂, hfree₁, and_assoc]
    refine and_congr_right fun _ => and_iff_left_of_imp fun hne => ?_
    rw [h.frame.curUserId, h.top _ (.inr (heq ▸ hne))]
    exact hne

/-- A release is the handing on, the front list and the key event list in turn. -/
theorem release_eq (s : LocalFrontState) (o : Oracle) (x : SessionRef) :
    s.release o x = ((s.released o x).updateFrontSession o x false).withUsers
      (AVSessionService.eraseKeyEvent ((s.released o x).updateFrontSession o x false).users x
        (s.users.effectiveUser (s.users.items x).userId)) := rfl

/-- The id before the front list is updated. -/
theorem localFrontSessionId_released (hpos : 0 < (s.users.items x).userId) :
    (s.released o x).localFrontSessionId =
      if s.users.topByUser (s.users.items x).userId = some x then
        match getOtherPlayingSession (s.destroyTask x).users o (s.users.items x).userId
          (s.users.items x).bundleName with
        | some y =>
            if o.isCasting y = true then s.localFrontSessionId else (s.users.items y).sessionId
        | none => s.localFrontSessionId
      else s.localFrontSessionId := by
  have hsame := sameForFront_destroyTask s x
  have hlocal : (s.destroyTask x).localFrontSessionId = s.localFrontSessionId := by
    unfold LocalFrontState.destroyTask
    split_ifs
    · rfl
    · rfl
  unfold LocalFrontState.released
  rw [effectiveUser_of_pos s.users hpos]
  refine (localFrontSessionId_handleTopSessionRelease _ o _ x).trans ?_
  rw [hsame.top, hsame.bundleName, hlocal]
  split_ifs
  · cases getOtherPlayingSession (s.destroyTask x).users o (s.users.items x).userId
      (s.users.items x).bundleName with
    | none => rfl
    | some y =>
        dsimp only
        rw [(hsame.frame 0).sessionId]
  · rfl

/-- The list of the current user before the front list is updated. -/
theorem firstNotCasting_released (howned : FrontOwned s.users) (hx : OfAliveUser s.users x)
    (hcast : s.users.topByUser (s.users.items x).userId = some x → ∀ y,
      getOtherPlayingSession (s.destroyTask x).users o (s.users.items x).userId
        (s.users.items x).bundleName = some y → o.isCasting y = true) (v : UserId) :
    firstNotCasting (s.released o x).users o ((s.released o x).users.frontByUser v) =
      firstNotCasting s.users o (s.users.frontByUser v) := by
  have hsame := sameForFront_destroyTask s x
  obtain ⟨howned₀, -⟩ := frontOwned_destroyTask howned hx
  rw [users_released s o hx.positive, (sameLists_releaseContainers _ x).front,
    firstNotCasting_congr (frontFrame_releaseContainers _ x 0).sessionId,
    firstNotCasting_handleTopSessionRelease howned₀ hx.positive, hsame.front,
    firstNotCasting_congr (hsame.frame 0).sessionId]
  rw [hsame.top, hsame.bundleName]
  exact hcast

/-- The release of a session that `UpdateFrontSession` refuses. -/
theorem refusedRelease_iff (howned : FrontOwned s.users) (hx : OfAliveUser s.users x)
    {s' : LocalFrontState} (hlocal : s'.localFrontSessionId = (s.released o x).localFrontSessionId)
    (hmeant : localFront s'.users o = localFront (s.released o x).users o) :
    Followed s s' o (s.users.items x).userId ↔ RefusedReleaseOk s o x := by
  have hsame := sameForFront_destroyTask s x
  obtain ⟨howned₀, -⟩ := frontOwned_destroyTask howned hx
  have hreleased := frontReleased_released (o := o) howned hx
  have htop := topByUser_released (o := o) howned hx
  have hid := localFrontSessionId_released (o := o) hx.positive
  have hcur := hreleased.frame.curUserId
  have hfirst := firstNotCasting_released (o := o) howned hx
  -- what is meant stays, if the user is another one
  have hother : (s.users.items x).userId ≠ s.users.curUserId →
      localFront s'.users o = localFront s.users o := fun hne =>
    hmeant.trans (localFront_congr hcur hreleased.frame.sessionId
      (hreleased.top _ (.inl (Ne.symm hne))) (hreleased.frame.front _ (Ne.symm hne)))
  unfold RefusedReleaseOk
  by_cases hslot : s.users.topByUser (s.users.items x).userId = some x
  · rw [if_pos hslot] at htop hid ⊢
    have hcases := elected_cases (s.destroyTask x).users o (s.users.items x).userId
      (s.users.items x).bundleName
    rw [front_of_pos _ hx.positive, hsame.front] at hcases
    simp only [hsame.playing] at hcases
    rcases hcases with ⟨y, hy, hplaying, hfree, helected⟩ | ⟨hnone, hcast⟩
    · rw [helected] at htop hid
      dsimp only at hid
      rw [if_neg (by rw [hfree]; exact Bool.false_ne_true)] at hid
      obtain ⟨howner, hne⟩ := howned.front _ y hy
      split_ifs with heq
      · rw [followed_iff_of_current heq, hlocal, hmeant, hid]
        have htop' : (s.released o x).users.topByUser (s.released o x).users.curUserId =
            some y := by
          rw [hcur, htop, ← heq, Function.update_self]
        rw [localFront_of_free htop' hfree, hreleased.frame.sessionId]
        exact iff_of_true rfl (.inl ⟨y, hy, hplaying⟩)
      · rw [followed_iff_of_other heq (hother heq), hlocal, hid]
        refine and_congr_right fun hupToDate => iff_of_false (fun h => ?_) fun h => ?_
        · exact hupToDate.ne howned (howner ▸ heq) hne h.symm
        · rw [h y hy] at hplaying
          cases hplaying
    · have hid' : (s.released o x).localFrontSessionId = s.localFrontSessionId := by
        rw [hid]
        split
        · rename_i y helected
          exact if_pos (hcast y helected)
        · rfl
      split_ifs with heq
      · have hfree : ¬ FreeTop (s.released o x).users o := by
          rintro ⟨t, ht, hfree⟩
          rw [hcur, htop, ← heq, Function.update_self] at ht
          rw [hcast t ht] at hfree
          cases hfree
        rw [followed_iff_of_current heq, hlocal, hmeant, hid', localFront_of_not_free hfree, hcur,
          hfirst fun _ => hcast]
        refine (or_iff_right ?_).symm
        rintro ⟨y, hy, hplaying⟩
        rw [hnone y hy] at hplaying
        cases hplaying
      · rw [followed_iff_of_same (hlocal.trans hid') (hother heq)]
        exact (and_iff_left hnone).symm
  · rw [if_neg hslot] at htop hid ⊢
    refine followed_iff_of_same (hlocal.trans hid) (hmeant.trans ?_)
    have hfree : FreeTop (s.released o x).users o ↔ FreeTop s.users o := by
      unfold FreeTop
      rw [hcur, htop]
    by_cases hfree' : FreeTop s.users o
    · obtain ⟨t, ht, hcast⟩ := hfree'
      have ht' : (s.released o x).users.topByUser (s.released o x).users.curUserId = some t := by
        rw [hcur, htop, ht]
      rw [localFront_of_free ht' hcast, localFront_of_free ht hcast, hreleased.frame.sessionId]
    · rw [localFront_of_not_free fun h => hfree' (hfree.mp h), localFront_of_not_free hfree', hcur]
      exact hfirst (fun h => absurd h hslot) s.users.curUserId

/-- The session is still one of a user that is alive. -/
theorem FrontReleased.ofAliveUser {s₁ : LocalFrontState} {u : UserId}
    (h : FrontReleased s s₁ o x u) (hx : OfAliveUser s.users x) : OfAliveUser s₁.users x := by
  refine ⟨?_, ?_, ?_⟩
  · rw [h.frame.userId]
    exact hx.positive
  · unfold UsersManager.isUserAlive
    rw [h.frame.userId, h.frame.aliveUsers]
    exact hx.alive
  · rw [h.frame.sessionId]
    exact hx.id

/-- The invariant is kept by the release of a session. -/
theorem FrontOwned.localFrontRelease (howned : FrontOwned s.users) (hx : OfAliveUser s.users x)
    (o : Oracle) : FrontOwned (s.release o x).users := by
  have hreleased := frontReleased_released (o := o) howned hx
  have h := hreleased.owned.localFrontUpdate (hreleased.ofAliveUser hx) o false
  exact ⟨h.ids, h.front, h.top⟩

/-- The release of a session. -/
theorem release_followed_iff (howned : FrontOwned s.users) (hx : OfAliveUser s.users x) :
    Followed s (s.release o x) o (s.users.items x).userId ↔
      FrontRefused s.users x s.controlBundleNameSet ∧ RefusedReleaseOk s o x ∨
        ¬ FrontRefused s.users x s.controlBundleNameSet ∧ FrontChangeOk s o x false := by
  have hreleased := frontReleased_released (o := o) howned hx
  have hx' := hreleased.ofAliveUser hx
  have hskips : FrontSkips (s.released o x) x false ↔
      FrontRefused s.users x s.controlBundleNameSet := by
    unfold FrontSkips
    rw [hreleased.control, hreleased.frame.refused, or_iff_left fun h => Bool.false_ne_true h.1]
  rw [release_eq]
  by_cases hrefused : FrontRefused s.users x s.controlBundleNameSet
  · rw [and_iff_right hrefused, or_iff_left fun h => h.1 hrefused,
      updateFrontSession_of_skips hx'.positive (hskips.mpr hrefused)]
    exact refusedRelease_iff howned hx rfl rfl
  · rw [or_iff_right fun h => hrefused h.1, and_iff_right hrefused]
    have hchanged := listChanged_updateFrontSession (o := o) hreleased.owned hx'
      fun h => hrefused (hskips.mp h)
    rw [hreleased.frame.userId] at hchanged
    exact (hreleased.listChanged hchanged rfl rfl rfl rfl rfl).followed_iff howned

end release

/-! ## Every run -/

section runs

variable {s : LocalFrontState}

/-- The invariant holds after a list has changed, and in the release. -/
theorem FrontOwned.step (h : FrontOwned s.users) (op : LocalFrontOp) (hvalid : op.Valid s) :
    FrontOwned (s.step op).users := by
  cases op with
  | updateFrontSession o x isAdd => exact h.localFrontUpdate hvalid o isAdd
  | updateTopSession o userId t =>
      show FrontOwned (s.updateTopSession o userId t).users
      rw [users_updateTopSession]
      exact h.updateTopSession userId fun x hx => (hvalid x hx).id
  | handleSessionRelease o sessionId =>
      show FrontOwned (s.handleSessionRelease o sessionId).users
      unfold LocalFrontState.handleSessionRelease
      split
      · exact h
      · rename_i x hfind
        exact h.localFrontRelease (hvalid x hfind) o
  | castStateChanged o userId => exact h
  | connect networkId =>
      show FrontOwned (s.connect networkId).users
      unfold LocalFrontState.connect
      split_ifs
      · exact h
      · split
        · exact h
        · exact h
  | disconnect networkId => exact h
  | elsewhere users controlBundleNameSet => exact hvalid

/-- One operation. -/
theorem localFrontStep_iff (h : FrontOwned s.users) (op : LocalFrontOp) (hvalid : op.Valid s) :
    Follows s op ↔ LocalFrontOk s op := by
  cases op with
  | updateFrontSession o x isAdd => exact updateFrontSession_iff h hvalid isAdd
  | updateTopSession o userId t =>
      cases t with
      | none => exact updateTopSession_none_iff s o userId
      | some x => exact updateTopSession_some_iff h (hvalid x rfl) userId
  | handleSessionRelease o sessionId =>
      refine forall_congr' fun x => forall_congr' fun hfind => ?_
      have hstep : s.handleSessionRelease o sessionId = s.release o x := by
        unfold LocalFrontState.handleSessionRelease
        rw [hfind]
      rw [hstep]
      exact release_followed_iff h (hvalid x hfind)
  | castStateChanged _ _ | connect _ | disconnect _ | elsewhere _ _ => exact Iff.rfl

/-- **The front session for remote devices.** In every run of operations on sessions of users that
are alive, whatever the users become in between: every server is told of each change, and after each
operation the id is the one that is meant, and is left alone by an operation on a session of another
user, exactly if each step meets the condition. -/
theorem localFront_iff {users : UsersManager} (howned : FrontOwned users)
    (controlBundleNameSet : List String) (ops : List LocalFrontOp)
    (hvalid : Meets LocalFrontState.step (fun s op => op.Valid s)
      (.start users controlBundleNameSet) ops) :
    Always LocalFrontState.step ServersTold (.start users controlBundleNameSet) ops ∧
        Meets LocalFrontState.step Follows (.start users controlBundleNameSet) ops ↔
      Meets LocalFrontState.step LocalFrontOk (.start users controlBundleNameSet) ops := by
  have htold : Always LocalFrontState.step ServersTold (.start users controlBundleNameSet) ops :=
    always_of_forall (fun _ op h => h.step op) ops (.start users controlBundleNameSet)
  rw [and_iff_right htold]
  exact meets_congr_of_meets (I := fun s => FrontOwned s.users)
    (fun s op h hop => h.step op hop) (fun s op h hop => localFrontStep_iff h op hop) howned hvalid

/-- Sessions of the current user 100, but for session 2, which is of user 101. -/
def twoUsers : UsersManager :=
  { UsersManager.init
      (fun x => { numberedItems 100 x with userId := if x = 2 then 101 else 100 }) 100 with
    aliveUsers := [100, 101] }

/-- The lists below are owned. -/
theorem frontOwned_twoUsers : FrontOwned twoUsers :=
  ⟨fun _ _ hxy => distinctIds_numberedItems 100 hxy, nofun, nofun⟩

/-- Both sessions below belong to living users. -/
theorem ofAliveUser_twoUsers : OfAliveUser twoUsers 1 ∧ OfAliveUser twoUsers 2 :=
  ⟨⟨by decide, by decide, by decide⟩, ⟨by decide, by decide, by decide⟩⟩

/-- A session of the current user is added to the front list and becomes the top session, while a
server is there. -/
theorem localFront_of_one_session :
    Always LocalFrontState.step ServersTold (.start twoUsers [])
        [.connect "tablet", .updateFrontSession silent 1 true,
          .updateTopSession silent 100 (some 1)] ∧
      Meets LocalFrontState.step Follows (.start twoUsers [])
        [.connect "tablet", .updateFrontSession silent 1 true,
          .updateTopSession silent 100 (some 1)] := by
  refine (localFront_iff frontOwned_twoUsers [] _ ?_).mpr ?_
  · refine ⟨trivial, ofAliveUser_twoUsers.1, ?_, trivial⟩
    rintro _ ⟨⟩
    exact ⟨by decide, by decide, by decide⟩
  · refine ⟨trivial, .inr ⟨?_, .inl (List.cons_ne_nil _ _)⟩, .inl rfl, trivial⟩
    rintro ((hcontrol | hphoto) | ⟨-, hmem⟩)
    · cases hcontrol
    · revert hphoto
      decide
    · cases hmem

/-- The id follows the top session of another user, and stays when the top session is given up. -/
theorem other_user_shown_and_null_top_kept :
    (Meets LocalFrontState.step (fun s op => op.Valid s) (.start twoUsers [])
        [.updateTopSession silent 100 (some 1), .updateTopSession silent 101 (some 2)] ∧
      ¬ Meets LocalFrontState.step Follows (.start twoUsers [])
        [.updateTopSession silent 100 (some 1), .updateTopSession silent 101 (some 2)]) ∧
    Meets LocalFrontState.step (fun s op => op.Valid s) (.start twoUsers [])
        [.updateTopSession silent 100 (some 1), .updateTopSession silent 100 none] ∧
      ¬ Meets LocalFrontState.step Follows (.start twoUsers [])
        [.updateTopSession silent 100 (some 1), .updateTopSession silent 100 none] := by
  have hfirst : LocalFrontOp.Valid (.start twoUsers [])
      (.updateTopSession silent 100 (some 1)) := by
    rintro _ ⟨⟩
    exact ofAliveUser_twoUsers.1
  refine ⟨⟨⟨hfirst, ?_, trivial⟩, ?_⟩, ⟨hfirst, nofun, trivial⟩, ?_⟩
  · rintro _ ⟨⟩
    exact ⟨by decide, by decide, by decide⟩
  · rintro ⟨-, hfollows, -⟩
    exact absurd hfollows.1 (by decide)
  · rintro ⟨-, hfollows, -⟩
    exact absurd hfollows.1 (by decide)

end runs

end AvSession.Service
