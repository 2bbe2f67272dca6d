import AvSession.Service.LocalFront

/-!
# What the front session depends on

The id of the front session depends on the slot and the front list of the current user, and on who is
cast. The operations of the service change the lists and the slot of one user.

* `localFront_of_free`, `localFront_of_not_free` — the id that is meant.
* `preloadSessionId_eq_localFront` — the one that is found with the list of the current user.
* `FrontFrame` — what an operation on a session of one user leaves alone.
* `FrontOwned.handleTopSessionRelease`, … — the operations keep the sessions with their users.
* `elected_cases` — who becomes the top session when one is released.
-/

namespace AvSession.Service

open AvSession.Lib AvSession.Registry

/-! ## The id that is found -/

section found

variable {m m' : UsersManager} {o : Oracle} {x y : SessionRef} {u : UserId} {l : List SessionRef}

/-- The first session that is not casting counts. -/
theorem firstNotCasting_cons (m : UsersManager) (o : Oracle) (x : SessionRef)
    (l : List SessionRef) : firstNotCasting m o (x :: l) =
      if o.isCasting x = true then firstNotCasting m o l else (m.items x).sessionId := by
  unfold firstNotCasting
  rw [List.find?_cons]
  cases o.isCasting x with
  | true => rfl
  | false => rfl

/-- Only the ids matter. -/
theorem firstNotCasting_congr (h : ∀ x, (m'.items x).sessionId = (m.items x).sessionId) :
    firstNotCasting m' o l = firstNotCasting m o l := by
  unfold firstNotCasting
  cases l.find? fun x => !o.isCasting x with
  | none => rfl
  | some x => exact h x

/-- What is found: nothing, if all are cast, or one of the list. -/
theorem firstNotCasting_cases (m : UsersManager) (o : Oracle) (l : List SessionRef) :
    (firstNotCasting m o l = "" ∧ ∀ y ∈ l, o.isCasting y = true) ∨
      ∃ y ∈ l, o.isCasting y = false ∧ firstNotCasting m o l = (m.items y).sessionId := by
  induction l with
  | nil => exact .inl ⟨rfl, nofun⟩
  | cons x l ih =>
      rw [firstNotCasting_cons]
      cases hcast : o.isCasting x with
      | true =>
          rw [if_pos rfl]
          rcases ih with ⟨hempty, hall⟩ | ⟨y, hy, hfree, hid⟩
          · refine .inl ⟨hempty, fun y hy => ?_⟩
            rcases List.mem_cons.mp hy with rfl | hy
            · exact hcast
            · exact hall y hy
          · exact .inr ⟨y, List.mem_cons_of_mem x hy, hfree, hid⟩
      | false =>
          rw [if_neg Bool.false_ne_true]
          exact .inr ⟨x, List.mem_cons_self, hcast, rfl⟩

/-- A session that is cast does not count, wherever it is. -/
theorem firstNotCasting_filter (m : UsersManager) (hcast : o.isCasting y = true)
    (l : List SessionRef) : firstNotCasting m o (l.filter (· ≠ y)) = firstNotCasting m o l := by
  induction l with
  | nil => rfl
  | cons x l ih =>
      by_cases heq : x = y
      · subst heq
        rw [List.filter_cons_of_neg (by simp), firstNotCasting_cons, if_pos hcast]
        exact ih
      · rw [List.filter_cons_of_pos (by simpa using heq), firstNotCasting_cons,
          firstNotCasting_cons, ih]

/-- The top session counts if it is not cast. -/
theorem localFront_of_free (htop : m.topByUser m.curUserId = some x)
    (hfree : o.isCasting x = false) : localFront m o = (m.items x).sessionId := by
  unfold localFront
  rw [htop, Option.toList_some, List.singleton_append, firstNotCasting_cons, hfree]
  exact if_neg Bool.false_ne_true

/-- Otherwise the front list does. -/
theorem localFront_of_not_free (h : ¬ FreeTop m o) :
    localFront m o = firstNotCasting m o (m.frontByUser m.curUserId) := by
  unfold localFront
  cases htop : m.topByUser m.curUserId with
  | none => rfl
  | some x =>
      rw [Option.toList_some, List.singleton_append, firstNotCasting_cons]
      refine if_pos ?_
      by_contra hcast
      exact h ⟨x, htop, Bool.eq_false_iff.mpr hcast⟩

/-- A top that is not casting is the one preloaded. -/
theorem preloadSessionId_of_free (htop : m.topByUser m.curUserId = some x)
    (hfree : o.isCasting x = false) (hl : l ≠ []) :
    preloadSessionId m o l = (m.items x).sessionId := by
  unfold preloadSessionId UsersManager.getTopSession
  rw [if_neg hl, htop]
  dsimp only
  rw [hfree]
  exact if_neg Bool.false_ne_true

/-- Otherwise the front list is looked through. -/
theorem preloadSessionId_of_not_free (h : ¬ FreeTop m o) :
    preloadSessionId m o l = firstNotCasting m o l := by
  unfold preloadSessionId UsersManager.getTopSession
  split_ifs with hl
  · rw [hl]
    rfl
  · split
    · rename_i x htop
      refine if_pos ?_
      by_contra hcast
      exact h ⟨x, htop, Bool.eq_false_iff.mpr hcast⟩
    · rfl

/-- With the list of the current user the id that is meant is found, unless the list is empty. -/
theorem preloadSessionId_eq_localFront (hl : m.frontByUser m.curUserId ≠ []) :
    preloadSessionId m o (m.frontByUser m.curUserId) = localFront m o := by
  by_cases hfree : FreeTop m o
  · obtain ⟨x, htop, hcast⟩ := hfree
    rw [preloadSessionId_of_free htop hcast hl, localFront_of_free htop hcast]
  · rw [preloadSessionId_of_not_free hfree, localFront_of_not_free hfree]

/-- The local front reads the current user's top and list only. -/
theorem localFront_congr (hcur : m'.curUserId = m.curUserId)
    (hid : ∀ x, (m'.items x).sessionId = (m.items x).sessionId)
    (htop : m'.topByUser m.curUserId = m.topByUser m.curUserId)
    (hfront : m'.frontByUser m.curUserId = m.frontByUser m.curUserId) :
    localFront m' o = localFront m o := by
  unfold localFront
  rw [hcur, htop, hfront]
  exact firstNotCasting_congr hid

/-- An operation on a session of another user. -/
theorem followed_iff_of_other {s s' : LocalFrontState} (hne : u ≠ s.users.curUserId)
    (hmeant : localFront s'.users o = localFront s.users o) :
    Followed s s' o u ↔ UpToDate s o ∧ s'.localFrontSessionId = s.localFrontSessionId := by
  unfold Followed UpToDate
  rw [hmeant]
  constructor
  · rintro ⟨hfollows, hstays⟩
    exact ⟨(hstays hne).symm.trans hfollows, hstays hne⟩
  · rintro ⟨hupToDate, hstays⟩
    exact ⟨hstays.trans hupToDate, fun _ => hstays⟩

/-- An operation on a session of the current user. -/
theorem followed_iff_of_current {s s' : LocalFrontState} (heq : u = s.users.curUserId) :
    Followed s s' o u ↔ s'.localFrontSessionId = localFront s'.users o :=
  and_iff_left fun hne => absurd heq hne

/-- An operation that changes neither the id nor what is meant. -/
theorem followed_iff_of_same {s s' : LocalFrontState}
    (hlocal : s'.localFrontSessionId = s.localFrontSessionId)
    (hmeant : localFront s'.users o = localFront s.users o) :
    Followed s s' o u ↔ UpToDate s o := by
  unfold Followed UpToDate
  rw [hmeant, hlocal]
  exact and_iff_left fun _ => rfl

/-- An id that is up to date is not that of a session of another user. -/
theorem UpToDate.ne {s : LocalFrontState} (h : UpToDate s o) (howned : FrontOwned s.users)
    (howner : (s.users.items x).userId ≠ s.users.curUserId)
    (hid : (s.users.items x).sessionId ≠ "") :
    s.localFrontSessionId ≠ (s.users.items x).sessionId := by
  intro heq
  unfold UpToDate localFront at h
  rcases firstNotCasting_cases s.users o ((s.users.topByUser s.users.curUserId).toList ++
    s.users.frontByUser s.users.curUserId) with ⟨hempty, -⟩ | ⟨y, hy, -, hid'⟩
  · exact hid (heq.symm.trans (h.trans hempty))
  · obtain rfl : x = y := howned.ids (heq.symm.trans (h.trans hid'))
    rcases List.mem_append.mp hy with hy | hy
    · exact howner (howned.top _ x (Option.mem_toList.mp hy)).1
    · exact howner (howned.front _ x hy).1

end found

/-! ## What the users become -/

section users

variable {m m' m'' : UsersManager} {o : Oracle} {x y : SessionRef} {u : UserId}

/-- What the operations leave alone: the users, what the sessions are, and the sessions in the
lists. The lists of other users than `u` are the same. -/
structure FrontFrame (u : UserId) (m m' : UsersManager) : Prop where
  curUserId : m'.curUserId = m.curUserId
  aliveUsers : m'.aliveUsers = m.aliveUsers
  sessionId : ∀ x, (m'.items x).sessionId = (m.items x).sessionId
  userId : ∀ x, (m'.items x).userId = (m.items x).userId
  refused : ∀ x control, FrontRefused m' x control ↔ FrontRefused m x control
  mem_front : ∀ v x, x ∈ m'.frontByUser v ↔ x ∈ m.frontByUser v
  front : ∀ v, v ≠ u → m'.frontByUser v = m.frontByUser v

/-- Nothing done frames itself. -/
theorem FrontFrame.refl (m : UsersManager) : FrontFrame u m m :=
  ⟨rfl, rfl, fun _ => rfl, fun _ => rfl, fun _ _ => Iff.rfl, fun _ _ => Iff.rfl, fun _ _ => rfl⟩

/-- Two framed calls are framed together. -/
theorem FrontFrame.trans (h : FrontFrame u m m') (h' : FrontFrame u m' m'') :
    FrontFrame u m m'' where
  curUserId := h'.curUserId.trans h.curUserId
  aliveUsers := h'.aliveUsers.trans h.aliveUsers
  sessionId x := (h'.sessionId x).trans (h.sessionId x)
  userId x := (h'.userId x).trans (h.userId x)
  refused x control := (h'.refused x control).trans (h.refused x control)
  mem_front v x := (h'.mem_front v x).trans (h.mem_front v x)
  front v hv := (h'.front v hv).trans (h.front v hv)

/-- A change of the items that keeps what the sessions are. -/
theorem FrontFrame.withItem (m : UsersManager) (x : SessionRef) {item : AVSessionItem}
    (hid : item.sessionId = (m.items x).sessionId) (howner : item.userId = (m.items x).userId)
    (hbundle : item.bundleName = (m.items x).bundleName)
    (htype : item.sessionType = (m.items x).sessionType) : FrontFrame u m (m.withItem x item) := by
  have hsame : ∀ {β : Type} (f : AVSessionItem → β), f item = f (m.items x) →
      ∀ y, f ((m.withItem x item).items y) = f (m.items y) := by
    intro β f hf y
    rw [UsersManager.withItem_items]
    split_ifs with heq
    · rw [hf, heq]
    · rfl
  refine ⟨rfl, rfl, hsame _ hid, hsame _ howner, fun y control => ?_, fun _ _ => Iff.rfl,
    fun _ _ => rfl⟩
  unfold FrontRefused
  rw [hsame _ hbundle, hsame _ htype]

/-- A flag is within the frame. -/
theorem frontFrame_setTop (m : UsersManager) (x : SessionRef) (b : Bool) :
    FrontFrame u m (setTop m x b) := .withItem m x rfl rfl rfl rfl

/-- UpdateTopSession is within the frame. -/
theorem frontFrame_updateTopSession (m : UsersManager) (userId : UserId) (t : Option SessionRef) :
    FrontFrame u m (updateTopSession m userId t) := by
  have hclear : ∀ t', FrontFrame u m (clearTop m t') := by
    intro t'
    cases t' with
    | none => exact .refl m
    | some y => exact frontFrame_setTop m y false
  have hslot : ∀ (m₁ : UsersManager) t' v, FrontFrame u m m₁ →
      FrontFrame u m (m₁.setTopSession t' v) := fun m₁ t' v h =>
    h.trans ⟨rfl, rfl, fun _ => rfl, fun _ => rfl, fun _ _ => Iff.rfl, fun _ _ => Iff.rfl,
      fun _ _ => rfl⟩
  cases t with
  | none => exact hslot _ _ _ (hclear _)
  | some x => exact (hslot _ _ _ (hclear _)).trans (frontFrame_setTop _ x true)

/-- No list changes. -/
theorem frontByUser_updateTopSession (m : UsersManager) (userId : UserId) (t : Option SessionRef) :
    (updateTopSession m userId t).frontByUser = m.frontByUser :=
  funext fun v =>
    (frontFrame_updateTopSession (u := v + 1) m userId t).front v (Int.ne_of_lt (Int.lt_succ v))

/-- Moving a session of the user is within the frame. -/
theorem frontFrame_updateOrder (howner : (m.items x).userId = u) (hpos : 0 < u) :
    FrontFrame u m (updateOrder m x) := by
  have hmove := onlyTop_moveToFront (m.withUser (m.items x).userId
    ((m.getContainerFromUser (m.items x).userId).updateSessionSort m.items x)) x
  refine ⟨hmove.curUserId, hmove.aliveUsers, fun y => hmove.sessionId y, fun y => hmove.userId y,
    fun y control => ?_, hmove.front, fun v hv => ?_⟩
  · obtain ⟨b, hb⟩ := hmove.items y
    unfold FrontRefused updateOrder
    rw [hb]
    rfl
  · unfold updateOrder moveToFront
    split_ifs
    · rfl
    · refine Function.update_of_ne ?_ _ _
      intro heq
      refine hv (heq.trans ?_)
      rw [show (m.withUser _ _).items = m.items from rfl, howner]
      exact effectiveUser_of_pos _ hpos
    · rfl

/-- Handing the top on takes the session's own slot. -/
theorem topByUser_handleOtherSessionPlaying (m : UsersManager) (x : SessionRef) :
    (handleOtherSessionPlaying m x).topByUser =
      Function.update m.topByUser (m.items x).userId (some x) := by
  unfold handleOtherSessionPlaying
  split_ifs
  · exact topByUser_updateTopSession_some m x _
  · rw [topByUser_updateOrder]
    exact topByUser_updateTopSession_some m x _

/-- Handing the top on is within the frame. -/
theorem frontFrame_handleOtherSessionPlaying (howner : (m.items x).userId = u) (hpos : 0 < u) :
    FrontFrame u m (handleOtherSessionPlaying m x) := by
  have htop : FrontFrame u m (updateTopSession m (m.items x).userId (some x)) :=
    frontFrame_updateTopSession m _ _
  unfold handleOtherSessionPlaying
  split_ifs
  · exact htop
  · exact htop.trans (frontFrame_updateOrder ((htop.userId x).trans howner) hpos)

/-- The session that is elected is of the user. -/
theorem FrontOwned.elected (h : FrontOwned m) (hpos : 0 < u) {bundleName : String}
    (hy : getOtherPlayingSession m o u bundleName = some y) :
    y ∈ m.frontByUser u ∧ (m.items y).userId = u := by
  have hmem := UsersInv.mem_of_getOtherPlayingSession hy
  rw [front_of_pos m hpos] at hmem
  exact ⟨hmem, (h.front u y hmem).1⟩

/-- Looking for a new top is within the frame. -/
theorem frontFrame_handleTopSessionRelease (h : FrontOwned m) (hpos : 0 < u) (o : Oracle)
    (x : SessionRef) : FrontFrame u m (handleTopSessionRelease m o x u) := by
  unfold handleTopSessionRelease
  split_ifs
  · cases hother : getOtherPlayingSession m o u (m.items x).bundleName with
    | none => exact frontFrame_updateTopSession m u none
    | some y => exact frontFrame_handleOtherSessionPlaying (h.elected hpos hother).2 hpos
  · exact .refl m

/-- The slot of the user after the release of its top session. -/
theorem topByUser_of_elected (h : FrontOwned m) (hpos : 0 < u)
    (halive : m.isUserAlive u = true) (o : Oracle) (x : SessionRef) :
    (handleTopSessionRelease m o x u).topByUser =
      if m.topByUser u = some x then
        Function.update m.topByUser u
          (getOtherPlayingSession m o u (m.items x).bundleName)
      else m.topByUser := by
  unfold handleTopSessionRelease UsersManager.getTopSession
  split_ifs
  · cases hother : getOtherPlayingSession m o u (m.items x).bundleName with
    | none =>
        refine (topByUser_updateTopSession_none m u).trans ?_
        unfold getTargetUserId
        rw [if_pos halive]
    | some y =>
        refine (topByUser_handleOtherSessionPlaying m y).trans ?_
        rw [(h.elected hpos hother).2]
  · rfl

/-- A session that plays and is not cast is elected, or none that is not cast. -/
theorem elected_cases (m : UsersManager) (o : Oracle) (u : UserId) (bundleName : String) :
    (∃ y ∈ m.getCurSessionListForFront u, isOtherPlaying m o y bundleName = true ∧
        o.isCasting y = false ∧ getOtherPlayingSession m o u bundleName = some y) ∨
      (∀ y ∈ m.getCurSessionListForFront u, isOtherPlaying m o y bundleName = false) ∧
        ∀ y, getOtherPlayingSession m o u bundleName = some y → o.isCasting y = true := by
  unfold getOtherPlayingSession
  cases hfind : (m.getCurSessionListForFront u).find? fun z => isOtherPlaying m o z bundleName with
  | some z =>
      have hfound := List.find?_some hfind
      have hplaying : isOtherPlaying m o z bundleName = true := hfound
      refine .inl ⟨z, List.mem_of_find?_eq_some hfind, hplaying, ?_, rfl⟩
      unfold isOtherPlaying at hplaying
      simp only [Bool.and_eq_true, Bool.not_eq_true'] at hplaying
      exact hplaying.1.2
  | none =>
      refine .inr ⟨fun y hy => Bool.eq_false_iff.mpr (List.find?_eq_none.mp hfind y hy),
        fun y hy => ?_⟩
      dsimp only at hy
      split_ifs at hy
      rcases hl : m.getCurSessionListForFront u with _ | ⟨first, _ | ⟨second, rest⟩⟩
      · rw [hl] at hy
        cases hy
      · rw [hl] at hy
        cases hy
      · rw [hl] at hy
        dsimp only at hy
        split_ifs at hy with hcast
        obtain rfl := Option.some.inj hy
        exact (Bool.and_eq_true_iff.mp hcast).1

/-- An elected session that is not cast is of another bundle. -/
theorem ne_of_elected (hy : getOtherPlayingSession m o u (m.items x).bundleName = some y)
    (hfree : o.isCasting y = false) : y ≠ x := by
  rcases elected_cases m o u (m.items x).bundleName with ⟨z, -, hplaying, -, hz⟩ | ⟨-, hcast⟩
  · obtain rfl := Option.some.inj (hz.symm.trans hy)
    rintro rfl
    simp [isOtherPlaying] at hplaying
  · rw [hcast y hy] at hfree
    cases hfree

/-- A session that is cast may be moved. -/
theorem firstNotCasting_moveToFront (m : UsersManager) (hcast : o.isCasting y = true)
    (m' : UsersManager) (v : UserId) :
    firstNotCasting m o ((moveToFront m' y).frontByUser v) =
      firstNotCasting m o (m'.frontByUser v) := by
  unfold moveToFront
  split_ifs
  · rfl
  · unfold setFront
    dsimp only
    rw [Function.update_apply]
    split_ifs with hv
    · rw [firstNotCasting_cons, if_pos hcast, firstNotCasting_filter m hcast, hv]
      rfl
    · rfl
  · rfl

/-- The order of the lists does not count, as long as no session is elected that is not cast. -/
theorem firstNotCasting_handleTopSessionRelease (h : FrontOwned m) (hpos : 0 < u)
    (hcast : m.topByUser u = some x →
      ∀ y, getOtherPlayingSession m o u (m.items x).bundleName = some y → o.isCasting y = true)
    (v : UserId) :
    firstNotCasting (handleTopSessionRelease m o x u) o
        ((handleTopSessionRelease m o x u).frontByUser v) =
      firstNotCasting m o (m.frontByUser v) := by
  rw [firstNotCasting_congr (frontFrame_handleTopSessionRelease h hpos o x).sessionId]
  unfold handleTopSessionRelease UsersManager.getTopSession
  split_ifs with htop
  · cases hother : getOtherPlayingSession m o u (m.items x).bundleName with
    | none =>
        dsimp only
        rw [frontByUser_updateTopSession]
    | some y =>
        have hcast' := hcast htop y hother
        have hfront := frontByUser_updateTopSession m (m.items y).userId (some y)
        unfold handleOtherSessionPlaying
        dsimp only
        split_ifs
        · rw [hfront]
        · unfold updateOrder
          rw [firstNotCasting_moveToFront m hcast']
          exact congrArg (fun front => firstNotCasting m o (front v)) hfront
  · rfl

/-- Where no other session is in the list, none that is not cast is elected. -/
theorem freeTop_handleTopSessionRelease (h : FrontOwned m) (hpos : 0 < u)
    (halive : m.isUserAlive u = true) (heq : u = m.curUserId)
    (hempty : (m.frontByUser u).filter (· ≠ x) = []) :
    FreeTop (handleTopSessionRelease m o x u) o ↔
      FreeTop m o ∧ m.topByUser m.curUserId ≠ some x := by
  unfold FreeTop
  rw [(frontFrame_handleTopSessionRelease h hpos o x).curUserId,
    topByUser_of_elected h hpos halive, heq]
  split_ifs with htop
  · rw [Function.update_self]
    refine iff_of_false ?_ fun hboth => hboth.2 htop
    rintro ⟨y, hy, hfree⟩
    have hmem := (h.elected hpos (heq ▸ hy)).1
    have hnil := List.filter_eq_nil_iff.mp hempty y hmem
    exact hnil (decide_eq_true (ne_of_elected hy hfree))
  · exact (and_iff_left htop).symm

/-- A front list is written for a real user. -/
theorem frontByUser_setFront (m : UsersManager) (hpos : 0 < u) (l : List SessionRef) :
    (setFront m u l).frontByUser = Function.update m.frontByUser u l := by
  unfold setFront
  rw [effectiveUser_of_pos m hpos]

/-- The invariant is kept by what stays in the frame, if the slots are filled with sessions of their
users. -/
theorem FrontOwned.of_frame (h : FrontOwned m) (hframe : FrontFrame u m m')
    (htop : ∀ v x, m'.topByUser v = some x →
      (m.items x).userId = v ∧ (m.items x).sessionId ≠ "") : FrontOwned m' where
  ids := by
    intro x y hxy
    dsimp only at hxy
    rw [hframe.sessionId, hframe.sessionId] at hxy
    exact h.ids hxy
  front v x hx := by
    rw [hframe.userId, hframe.sessionId]
    exact h.front v x ((hframe.mem_front v x).mp hx)
  top v x hx := by
    rw [hframe.userId, hframe.sessionId]
    exact htop v x hx

/-- A top with an id keeps the lists owned. -/
theorem FrontOwned.updateTopSession (h : FrontOwned m) (userId : UserId) {t : Option SessionRef}
    (ht : ∀ x, t = some x → (m.items x).sessionId ≠ "") :
    FrontOwned (updateTopSession m userId t) := by
  refine h.of_frame (frontFrame_updateTopSession (u := 0) m userId t) fun v y hy => ?_
  cases t with
  | none =>
      rw [topByUser_updateTopSession_none, Function.update_apply] at hy
      split_ifs at hy
      exact h.top v y hy
  | some x =>
      rw [topByUser_updateTopSession_some, Function.update_apply] at hy
      split_ifs at hy with hv
      · obtain rfl := Option.some.inj hy
        exact ⟨hv.symm, ht x rfl⟩
      · exact h.top v y hy

/-- Looking for a new top keeps the lists owned. -/
theorem FrontOwned.handleTopSessionRelease (h : FrontOwned m) (hpos : 0 < u)
    (halive : m.isUserAlive u = true) (o : Oracle) (x : SessionRef) :
    FrontOwned (handleTopSessionRelease m o x u) := by
  refine h.of_frame (frontFrame_handleTopSessionRelease h hpos o x) fun v y hy => ?_
  rw [topByUser_of_elected h hpos halive] at hy
  split_ifs at hy
  · rw [Function.update_apply] at hy
    split_ifs at hy with hv
    · subst hv
      exact h.front _ y (h.elected hpos hy).1
    · exact h.top v y hy
  · exact h.top v y hy

/-- A front list is changed. -/
theorem FrontOwned.setFront (h : FrontOwned m) (hpos : 0 < u) {l : List SessionRef}
    (hl : ∀ y ∈ l, (m.items y).userId = u ∧ (m.items y).sessionId ≠ "") :
    FrontOwned (setFront m u l) := by
  refine ⟨h.ids, fun v y hy => ?_, h.top⟩
  unfold AvSession.Service.setFront at hy
  dsimp only at hy
  rw [effectiveUser_of_pos m hpos, Function.update_apply] at hy
  split_ifs at hy with hv
  · rw [hv]
    exact hl y hy
  · exact h.front v y hy

end users

end AvSession.Service
