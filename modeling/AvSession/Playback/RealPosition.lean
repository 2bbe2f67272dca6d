import AvSession.Meta.Views
import AvSession.Playback.Proxy

/-!
# When the position that a client counts is right

* `countedFrom` — what a position amounts to, as it is counted.
* `Shown` — whatever is still on the way, a client will count what the session says.
* `shown_step_iff` — one step; `Kept` names the ones that leave a client right.
* `real_position` — runs: when a client is right all along, how it becomes so, and what keeps it so.
-/

set_option linter.unusedSectionVars false

namespace AvSession.Playback

open AvSession.Lib AvSession.Meta

variable {ω : Type}

/-! ## Positions -/

section positions

/-- The time at which a position was zero, if it is counted at all. -/
def countedFrom (position : Position) : Option ℤ :=
  if 0 < position.updateTime then some (position.updateTime - position.elapsedTime) else none

/-- Two positions agree at every time when they count from the same one. -/
theorem realPosition_eq_iff (p q : Position) :
    (∀ now, realPosition p now = realPosition q now) ↔ countedFrom p = countedFrom q := by
  unfold realPosition countedFrom
  constructor
  · intro h
    split_ifs at h ⊢ with hp hq hq
    · have h0 := h 0
      congr 1
      omega
    · have h1 := h (p.updateTime - p.elapsedTime + 1)
      omega
    · have h1 := h (q.updateTime - q.elapsedTime + 1)
      omega
    · rfl
  · intro h now
    split_ifs at h ⊢ with hp hq hq
    · have heq := Option.some.inj h
      omega
    · rfl

/-- A state without a position counts nothing. -/
theorem countedFrom_init : countedFrom ((.init : AVPlaybackState ω).val .position) = none := rfl

end positions

/-! ## Clients that are right -/

section shown

namespace World

/-- What the session says. -/
def saidPosition (w : World ω) : Position := w.item.playbackState.val .position

/-- Once everything has arrived, in whatever order, the client counts what the session says. -/
def Shown (pid : ℤ) (w : World ω) : Prop :=
  ∀ channels : List Channel,
    let w' := run (fun w : World ω => w.keeps pid) w channels
    (w'.currentState pid).wire = [] →
      ∀ now, w'.getRealPlaybackPosition pid now = realPosition w.saidPosition now

/-- A call keeps the proxy's state as the mailbox does. -/
theorem run_keeps (w : World ω) (pid : ℤ) (channels : List Channel) :
    (run (fun w : World ω => w.keeps pid) w channels).currentState pid =
      run Mailbox.arrive (w.currentState pid) channels := by
  induction channels generalizing w with
  | nil => rfl
  | cons c channels ih =>
      have hone : (w.keeps pid c).currentState pid = (w.currentState pid).arrive c :=
        Function.update_self ..
      exact (ih (w.keeps pid c)).trans (by rw [hone]; rfl)

/-- In terms of what a proxy may be left with. -/
theorem shown_iff {w : World ω} {pid : ℤ} : w.Shown pid ↔ ∀ s, (w.currentState pid).May s →
    countedFrom (s.val .position) = countedFrom w.saidPosition := by
  unfold Shown getRealPlaybackPosition
  simp only [run_keeps, realPosition_eq_iff]
  constructor
  · intro h s hs
    obtain ⟨channels, hwire, rfl⟩ := Mailbox.may_iff.mp hs
    exact h channels hwire
  · intro h channels hwire
    exact h _ (Mailbox.may_iff.mpr ⟨channels, hwire, rfl⟩)

/-- What is shown depends on the proxy and on the session's state. -/
theorem shown_congr {w w' : World ω} {pid : ℤ} (hproxy : w'.currentState pid = w.currentState pid)
    (hstate : w'.item.playbackState = w.item.playbackState) : w'.Shown pid ↔ w.Shown pid := by
  rw [shown_iff, shown_iff, saidPosition, saidPosition, hproxy, hstate]

end World

end shown

/-! ## One step -/

section steps

variable [DecidableEq ω]

namespace World

variable {w : World ω} {pid p : ℤ} {state : AVPlaybackState ω}

/-- The client is told the position along with a state. -/
def TellsPosition (w : World ω) (pid : ℤ) (state : AVPlaybackState ω) : Prop :=
  ∃ c, w.controllerOf pid = some c ∧ sentPlayback c w.item state .position = true

/-- The session goes on counting as it did. -/
def GoesOn (w : World ω) (state : AVPlaybackState ω) : Prop :=
  countedFrom (w.setAVPlaybackState state).saidPosition = countedFrom w.saidPosition

/-- The steps behind which a client that is right still is. -/
def Kept (pid : ℤ) (w : World ω) : Act ω → Prop
  | .setAVPlaybackState state =>
      match (w.controllerOf pid).bind (w.handlePlaybackStateChange · state) with
      | none => w.GoesOn state
      | some m =>
          (w.TellsPosition pid state ∨
            countedFrom (w.setAVPlaybackState state).saidPosition = none) ∧
          (w.GoesOn state ∨ ∀ m' ∈ (w.currentState pid).wire, m'.1 = m.1)
  | .createController p =>
      p = pid → w.controllerOf pid = none → countedFrom w.saidPosition = none
  | _ => True

/-- What the session says behind a call. -/
theorem said_setAVPlaybackState : (w.setAVPlaybackState state).saidPosition =
    if state.mask .position = true then state.val .position else w.saidPosition := by
  have hcopied := AVPlaybackState.copyFrom_val w.item.playbackState state .position
  unfold saidPosition setAVPlaybackState Meta.setAVPlaybackState
  dsimp only
  split_ifs with hnone hmask hmask
  · have hany : PlaybackKey.all.any state.mask = true :=
      List.any_eq_true.mpr ⟨.position, PlaybackKey.mem_all _, hmask⟩
    exact absurd (hany.symm.trans hnone) Bool.noConfusion
  · rfl
  · exact hcopied.trans (if_pos hmask)
  · exact hcopied.trans (if_neg hmask)

/-- The position of what is told. -/
theorem position_told {c : Controller} {m : Channel × AVPlaybackState ω}
    (h : w.handlePlaybackStateChange c state = some m) : m.2.val .position =
      if sentPlayback c w.item state .position = true then state.val .position else ⟨0, 0⟩ := by
  obtain ⟨stateOut, hout, hrest⟩ := Option.bind_eq_some_iff.mp h
  obtain ⟨callback, -, hm⟩ := Option.bind_eq_some_iff.mp hrest
  obtain rfl := Option.some.inj hm
  unfold Meta.handlePlaybackStateChange at hout
  dsimp only at hout
  split_ifs at hout with hany
  obtain rfl := Option.some.inj hout
  exact AVPlaybackState.copyToByMask_val ..

/-- A client that is told is right if it is told the position, or if there is none to count. -/
theorem told_iff {m : Channel × AVPlaybackState ω}
    (h : (w.controllerOf pid).bind (w.handlePlaybackStateChange · state) = some m) :
    countedFrom (m.2.val .position) = countedFrom (w.setAVPlaybackState state).saidPosition ↔
      w.TellsPosition pid state ∨
        countedFrom (w.setAVPlaybackState state).saidPosition = none := by
  obtain ⟨c, hc, hm⟩ := Option.bind_eq_some_iff.mp h
  rw [position_told hm]
  split_ifs with htold
  · have hmask : state.mask .position = true := (Bool.and_eq_true_iff.mp htold).1
    rw [said_setAVPlaybackState, if_pos hmask]
    exact iff_of_true rfl (.inl ⟨c, hc, htold⟩)
  · have hnot : ¬ w.TellsPosition pid state := by
      rintro ⟨c', hc', hsent⟩
      obtain rfl := Option.some.inj (hc.symm.trans hc')
      exact htold hsent
    rw [or_iff_right hnot]
    exact eq_comm

/-- A new state is shown exactly when it is kept for the process. -/
theorem shown_setAVPlaybackState (h : w.Shown pid) :
    (w.setAVPlaybackState state).Shown pid ↔ w.Kept pid (.setAVPlaybackState state) := by
  rw [shown_iff] at h ⊢
  have hproxy : (w.setAVPlaybackState state).currentState pid =
      match (w.controllerOf pid).bind (w.handlePlaybackStateChange · state) with
      | none => w.currentState pid
      | some m => (w.currentState pid).send m.1 m.2 := rfl
  rw [hproxy]
  unfold Kept
  dsimp only
  cases htold : (w.controllerOf pid).bind (w.handlePlaybackStateChange · state) with
  | none =>
      constructor
      · intro hall
        obtain ⟨s, hs⟩ := (w.currentState pid).exists_may
        exact (hall s hs).symm.trans (h s hs)
      · intro hsame s hs
        exact (h s hs).trans hsame.symm
  | some m =>
      by_cases hsame : w.GoesOn state
      · rw [Mailbox.forall_may_send_of_same fun s hs => (h s hs).trans hsame.symm, told_iff htold]
        exact (and_iff_left (.inl hsame)).symm
      · rw [Mailbox.forall_may_send_of_apart fun s hs hafter => hsame (hafter.symm.trans (h s hs)),
          told_iff htold]
        exact and_congr_right' (or_iff_right hsame).symm

/-- A new controller shows the state exactly when it is kept. -/
theorem shown_createController (h : w.Shown pid) :
    (w.createController p).Shown pid ↔ w.Kept pid (.createController p) := by
  unfold Kept createController
  by_cases hexists : (w.controllerOf p).isSome = true
  · rw [if_pos hexists]
    refine iff_of_true h ?_
    rintro rfl hnone
    rw [hnone] at hexists
    cases hexists
  · rw [if_neg hexists]
    by_cases hp : p = pid
    · subst hp
      rw [shown_iff]
      simp only [Function.update_self, Mailbox.may_of_quiet, forall_eq, countedFrom_init]
      rw [Option.not_isSome_iff_eq_none] at hexists
      simp [hexists, saidPosition, eq_comm]
    · refine iff_of_true ((shown_congr ?_ ?_).mpr h) fun heq => absurd heq hp
      · exact Function.update_of_ne (Ne.symm hp) ..
      · rfl

/-- A reply on the way says what the session says. -/
theorem Shown.getAVPlaybackState (h : w.Shown pid) : (w.getAVPlaybackState p).Shown pid := by
  unfold World.getAVPlaybackState
  split_ifs
  · exact h
  · by_cases hp : p = pid
    · subst hp
      rw [shown_iff] at h ⊢
      dsimp only
      rw [Function.update_self]
      exact (Mailbox.forall_may_send_of_same h).mpr rfl
    · refine (shown_congr ?_ ?_).mpr h
      · exact Function.update_of_ne (Ne.symm hp) ..
      · rfl

/-- What arrives has been on the way. -/
theorem Shown.keeps (h : w.Shown pid) (channel : Channel) : (w.keeps p channel).Shown pid := by
  unfold World.keeps
  by_cases hp : p = pid
  · subst hp
    rw [shown_iff] at h ⊢
    dsimp only
    rw [Function.update_self]
    exact fun s hs => h s hs.of_arrive
  · refine (shown_congr ?_ ?_).mpr h
    · exact Function.update_of_ne (Ne.symm hp) ..
    · rfl

/-- One step from a state in which the client is right. -/
theorem shown_step_iff (h : w.Shown pid) (a : Act ω) : (w.step a).Shown pid ↔ w.Kept pid a := by
  cases a with
  | setAVPlaybackState state => exact shown_setAVPlaybackState h
  | createController p => exact shown_createController h
  | setPlaybackFilter p filter =>
      have hframe : (w.setPlaybackFilter p filter).Shown pid ↔ w.Shown pid :=
        shown_congr (by simp) (by simp)
      exact iff_of_true (hframe.mpr h) trivial
  | registerCallback p callback isNull =>
      have hframe : (w.registerCallback p callback isNull).Shown pid ↔ w.Shown pid :=
        shown_congr (by simp) (by simp)
      exact iff_of_true (hframe.mpr h) trivial
  | getAVPlaybackState p => exact iff_of_true h.getAVPlaybackState trivial
  | destroy p =>
      have hframe : (w.destroy p).Shown pid ↔ w.Shown pid :=
        shown_congr (by simp) (by simp)
      exact iff_of_true (hframe.mpr h) trivial
  | onPlaybackStateChange p callback => exact iff_of_true (h.keeps (.callback callback)) trivial
  | takeReply p => exact iff_of_true (h.keeps .reply) trivial

end World

end steps

/-! ## Runs -/

section runs

variable [DecidableEq ω]

namespace World

variable {w : World ω} {pid p : ℤ}

/-- A client that asked for all keys, or for the position alone, and has one callback. -/
def Follows (pid : ℤ) (w : World ω) : Prop :=
  (∃ c, w.controllerOf pid = some c ∧
      (c.playbackAll = true ∨ ∀ k, c.playbackMask k = true ↔ k = .position)) ∧
    ∃ callback, w.callback pid = some callback ∧
      ∀ m ∈ (w.currentState pid).wire, m.1 = .callback callback ∨ m.1 = .reply

/-- The session sets no state without a position, and none while the client waits for a reply; the
client leaves its filter and its callback as they are. -/
def Steady (pid : ℤ) (w : World ω) : Act ω → Prop
  | .setAVPlaybackState state => state.mask .position = true ∧ w.asks pid = false
  | .setPlaybackFilter p _ => p ≠ pid
  | .registerCallback p _ _ => p ≠ pid
  | .destroy p => p ≠ pid
  | _ => True

/-- A new state leaves the controllers. -/
theorem controllers_setAVPlaybackState (w : World ω) (state : AVPlaybackState ω) :
    (w.setAVPlaybackState state).item.controllers = w.item.controllers := by
  unfold setAVPlaybackState Meta.setAVPlaybackState
  dsimp only
  split_ifs <;> rfl

/-- What is sent is sent to the callback of the controller. -/
theorem handlePlaybackStateChange_eq (w : World ω) (c : Controller) (state : AVPlaybackState ω)
    {callback : CallbackRef} (h : w.callback c.pid = some callback) :
    w.handlePlaybackStateChange c state = (Meta.handlePlaybackStateChange c state
      (changedStateMask w.item state)).map (.callback callback, ·) := by
  unfold handlePlaybackStateChange
  rw [h]
  cases Meta.handlePlaybackStateChange c state (changedStateMask w.item state) <;> rfl

/-- Something is sent if one key is. -/
theorem isSome_handlePlaybackStateChange (c : Controller) (s : ItemState ω)
    (state : AVPlaybackState ω) :
    (Meta.handlePlaybackStateChange c state (changedStateMask s state)).isSome = true ↔
      ∃ k, sentPlayback c s state k = true := by
  unfold Meta.handlePlaybackStateChange
  dsimp only
  constructor
  · intro h
    split_ifs at h with hany
    · obtain ⟨k, -, hk⟩ := List.any_eq_true.mp hany
      exact ⟨k, hk⟩
    · cases h
  · rintro ⟨k, hk⟩
    rw [if_pos]
    · rfl
    · exact List.any_eq_true.mpr ⟨k, PlaybackKey.mem_all k, hk⟩

/-- The controller found is the process's own. -/
theorem pid_controllerOf {c : Controller} (h : w.controllerOf pid = some c) : c.pid = pid := by
  simpa using List.find?_some h

/-- A filter for the position lets it through. -/
theorem playbackMask_position {c : Controller}
    (h : c.playbackAll = true ∨ ∀ k, c.playbackMask k = true ↔ k = .position) :
    c.playbackMask .position = true := by
  rcases h with hall | honly
  · exact List.all_eq_true.mp hall _ (PlaybackKey.mem_all _)
  · exact (honly _).mpr rfl

/-- A client that follows is told whatever changes the position. -/
theorem Follows.kept (h : w.Follows pid) {a : Act ω} (ha : w.Steady pid a) : w.Kept pid a := by
  obtain ⟨⟨c, hc, hfilter⟩, callback, hcallback, hwire⟩ := h
  have hpid := pid_controllerOf hc
  cases a with
  | setAVPlaybackState state =>
      obtain ⟨ha, hasks⟩ := ha
      unfold Kept
      dsimp only
      rw [hc, Option.bind_some, handlePlaybackStateChange_eq w c state (hpid ▸ hcallback)]
      have hselected := playbackMask_position hfilter
      cases hsent : Meta.handlePlaybackStateChange c state (changedStateMask w.item state) with
      | none =>
          have hnone : ¬ sentPlayback c w.item state .position = true := by
            intro htold
            have hsome := (isSome_handlePlaybackStateChange c w.item state).mpr ⟨_, htold⟩
            rw [hsent] at hsome
            cases hsome
          have hmem : c ∈ w.item.controllers := List.mem_of_find?_eq_some hc
          have hsame := unchanged_of_not_sentPlayback hmem hselected ha hnone
          show w.GoesOn state
          unfold GoesOn
          rw [said_setAVPlaybackState, if_pos ha]
          exact congrArg countedFrom (not_not.mp (of_decide_eq_false hsame)).symm
      | some stateOut =>
          have honly : ∀ m ∈ (w.currentState pid).wire, m.1 = .callback callback := by
            intro m hm
            refine (hwire m hm).resolve_right fun hreply => ?_
            exact absurd (List.any_eq_false.mp hasks m hm) (by simp [hreply])
          refine ⟨.inl ⟨c, hc, ?_⟩, .inr honly⟩
          rcases hfilter with hall | honly
          · unfold sentPlayback validPlaybackMask
            rw [if_pos hall, hselected]
            simpa using ha
          · obtain ⟨k, hk⟩ :=
              (isSome_handlePlaybackStateChange c w.item state).mp (by rw [hsent]; rfl)
            have hnotAll : ¬ c.playbackAll = true := by
              intro hall
              have hstate := List.all_eq_true.mp hall .state (PlaybackKey.mem_all _)
              cases (honly _).mp hstate
            have hvalid := (Bool.and_eq_true_iff.mp hk).2
            unfold validPlaybackMask at hvalid
            rw [if_neg hnotAll] at hvalid
            rwa [(honly k).mp (Bool.and_eq_true_iff.mp hvalid).2] at hk
  | createController p =>
      rintro rfl hnone
      rw [hc] at hnone
      cases hnone
  | _ => trivial

/-- What a client that follows depends on. -/
theorem Follows.congr (h : w.Follows pid) {w' : World ω}
    (hctrl : ∀ c, w.controllerOf pid = some c → w'.controllerOf pid = some c)
    (hcallback : w'.callback pid = w.callback pid)
    (hwire : ∀ m ∈ (w'.currentState pid).wire, m ∈ (w.currentState pid).wire ∨
      (∃ callback, w.callback pid = some callback ∧ m.1 = .callback callback) ∨ m.1 = .reply) :
    w'.Follows pid := by
  obtain ⟨⟨c, hc, hfilter⟩, callback, hcall, hold⟩ := h
  refine ⟨⟨c, hctrl c hc, hfilter⟩, callback, hcallback.trans hcall, ?_⟩
  intro m hm
  rcases hwire m hm with hbefore | ⟨callback', hcall', hnew⟩ | hreply
  · exact hold m hbefore
  · rw [Option.some.inj (hcall.symm.trans hcall')]
    exact .inl hnew
  · exact .inr hreply

/-! ### The controller of another process -/

/-- A new state leaves everybody's controller. -/
theorem controllerOf_setAVPlaybackState (state : AVPlaybackState ω) :
    (w.setAVPlaybackState state).controllerOf pid = w.controllerOf pid :=
  congrArg (List.find? _) (controllers_setAVPlaybackState w state)

/-- A process keeps the controller it has. -/
theorem controllerOf_createController {c : Controller} (h : w.controllerOf pid = some c) :
    (w.createController p).controllerOf pid = some c := by
  unfold createController
  split_ifs
  · exact h
  · show (w.item.controllers ++ _).find? _ = _
    rw [List.find?_append, show w.item.controllers.find? _ = some c from h, Option.some_or]

/-- Another process's filter leaves the controller. -/
theorem controllerOf_setPlaybackFilter (filter : PlaybackKey → Bool) (hp : p ≠ pid)
    {c : Controller} (h : w.controllerOf pid = some c) :
    (w.setPlaybackFilter p filter).controllerOf pid = some c := by
  unfold setPlaybackFilter
  split_ifs
  · exact h
  · have hother : ¬ c.pid = p := fun hcp => hp (hcp.symm.trans (pid_controllerOf h))
    have hkey : ((fun x : Controller => decide (x.pid = pid)) ∘ fun x : Controller =>
        if x.pid = p then { x with playbackMask := filter } else x) =
          fun x => decide (x.pid = pid) := by
      funext x
      by_cases hx : x.pid = p <;> simp [hx]
    show (w.item.controllers.map _).find? _ = _
    rw [List.find?_map, hkey, show w.item.controllers.find? _ = some c from h, Option.map_some,
      if_neg hother]

/-- Another process's leaving leaves the controller. -/
theorem controllerOf_destroy (hp : p ≠ pid) {c : Controller} (h : w.controllerOf pid = some c) :
    (w.destroy p).controllerOf pid = some c := by
  unfold destroy
  split_ifs
  · exact h
  · show (w.item.controllers.filter _).find? _ = _
    rw [List.find?_filter, ← h]
    congr 1
    funext x
    by_cases hx : x.pid = pid
    · simp [hx, Ne.symm hp]
    · simp [hx]

/-! ### Following -/

/-- A new state is followed. -/
theorem Follows.setAVPlaybackState (h : w.Follows pid) (state : AVPlaybackState ω) :
    (w.setAVPlaybackState state).Follows pid := by
  refine h.congr (fun c hc => (controllerOf_setAVPlaybackState state).trans hc) rfl ?_
  intro m hm
  change m ∈ (match (w.controllerOf pid).bind (w.handlePlaybackStateChange · state) with
    | none => w.currentState pid
    | some m => (w.currentState pid).send m.1 m.2).wire at hm
  cases htold : (w.controllerOf pid).bind (w.handlePlaybackStateChange · state) with
  | none =>
      rw [htold] at hm
      exact .inl hm
  | some told =>
      rw [htold] at hm
      refine (List.mem_append.mp hm).imp id fun hnew => ?_
      obtain ⟨c, hc, hsent⟩ := Option.bind_eq_some_iff.mp htold
      obtain ⟨callback, hcall, -⟩ := h.2
      rw [handlePlaybackStateChange_eq w c state ((pid_controllerOf hc).symm ▸ hcall)] at hsent
      obtain ⟨stateOut, -, rfl⟩ := Option.map_eq_some_iff.mp hsent
      exact .inl ⟨callback, hcall, by rw [List.mem_singleton.mp hnew]⟩

/-- What arrives was on the way to a client that follows. -/
theorem Follows.keeps (h : w.Follows pid) (p : ℤ) (channel : Channel) :
    (w.keeps p channel).Follows pid := by
  refine h.congr (fun c hc => hc) rfl fun m hm => .inl ?_
  by_cases hp : pid = p
  · subst hp
    simp only [World.keeps, Function.update_self] at hm
    exact Mailbox.wire_arrive_subset _ _ hm
  · simpa [World.keeps, Function.update_of_ne hp] using hm

/-- A steady step keeps the process following. -/
theorem Follows.step (h : w.Follows pid) {a : Act ω} (ha : w.Steady pid a) :
    (w.step a).Follows pid := by
  cases a with
  | setAVPlaybackState state => exact h.setAVPlaybackState state
  | createController p =>
      by_cases hexists : (w.controllerOf p).isSome = true
      · show (w.createController p).Follows pid
        rwa [createController, if_pos hexists]
      · have hp : pid ≠ p := by
          rintro rfl
          obtain ⟨⟨c, hc, -⟩, -⟩ := h
          exact hexists (by rw [hc]; rfl)
        refine h.congr (fun c hc => controllerOf_createController hc) ?_ fun m hm => .inl ?_
        · show (w.createController p).callback pid = _
          rw [createController, if_neg hexists]
          exact Function.update_of_ne hp ..
        · change m ∈ ((w.createController p).currentState pid).wire at hm
          rw [createController, if_neg hexists] at hm
          simpa [Function.update_of_ne hp] using hm
  | setPlaybackFilter p filter =>
      refine h.congr (fun c hc => controllerOf_setPlaybackFilter filter ha hc) ?_ ?_
      · simp [World.step]
      · exact fun m hm => .inl (by simpa [World.step] using hm)
  | registerCallback p ref isNull =>
      refine h.congr (fun c hc => ?_) ?_ ?_
      · simpa [World.step, controllerOf] using hc
      · show (w.registerCallback p ref isNull).callback pid = _
        unfold registerCallback
        split_ifs <;> simp [Function.update_of_ne (Ne.symm ha)]
      · exact fun m hm => .inl (by simpa [World.step] using hm)
  | getAVPlaybackState p =>
      refine h.congr (fun c hc => ?_) ?_ ?_
      · simpa [World.step, controllerOf] using hc
      · simp [World.step]
      · exact fun m hm => (wire_getAVPlaybackState hm).imp_right .inr
  | destroy p =>
      refine h.congr (fun c hc => controllerOf_destroy ha hc) ?_ ?_
      · show (w.destroy p).callback pid = _
        unfold destroy
        split_ifs <;> simp [Function.update_of_ne (Ne.symm ha)]
      · exact fun m hm => .inl (by simpa [World.step] using hm)
  | onPlaybackStateChange p ref => exact h.keeps p (.callback ref)
  | takeReply p => exact h.keeps p .reply

/-- **Real playback positions.** A client that is right is right all along exactly if every step is
one of the `Kept` ones: no state is set while a reply, or what another callback is to be told, is on
the way that counts otherwise. It becomes right by asking for the state once nothing is on the way to
it. And it stays so if the session sets no state without its position and none while the client waits
for a reply, and the client, with one callback, has asked for all keys or for the position alone. -/
theorem real_position (as bs : List (Act ω)) (pid : ℤ) :
    let w := run World.step (init : World ω) as
    (w.Shown pid → (Always World.step (Shown pid) w bs ↔ Meets World.step (Kept pid) w bs)) ∧
    ((w.currentState pid).wire = [] → w.isDestroy pid = false →
      (w.getAVPlaybackState pid).Shown pid) ∧
    (w.Shown pid → w.Follows pid → Meets World.step (Steady pid) w bs →
      Always World.step (Shown pid) w bs) := by
  intro w
  have hstep : ∀ (w : World ω) a, w.Shown pid → ((w.step a).Shown pid ↔ w.Kept pid a) :=
    fun _ a h => shown_step_iff h a
  refine ⟨?_, ?_, ?_⟩
  · exact fun h => always_iff_meets hstep bs h
  · intro hwire hproxy
    have hopen : ¬ w.isClosed pid = true := by simp [isClosed, asks, hproxy, hwire]
    unfold getAVPlaybackState
    rw [if_neg hopen, shown_iff]
    dsimp only
    rw [Function.update_self]
    intro s hs
    rw [(Mailbox.may_send_of_quiet hwire).mp hs]
    rfl
  · intro h hfollows hsteady
    refine (always_iff_meets hstep bs h).mpr ?_
    exact meets_of_meets (I := Follows pid) (fun _ _ h ha => h.step ha) (fun _ _ h ha => h.kept ha)
      hfollows hsteady

/-- A client that has asked for all keys before anything was set. -/
def askedForAll : List (Act Unit) :=
  [.createController 7, .registerCallback 7 0 false, .setPlaybackFilter 7 fun _ => true]

/-- Ten units in, at time 100. -/
def played : AVPlaybackState Unit := AVPlaybackState.init.set .position ⟨10, 100⟩

-- A reply that is kept behind a state that was told later.
example :
    let w := run World.step init (askedForAll ++ [.getAVPlaybackState 7, .setAVPlaybackState played,
      .onPlaybackStateChange 7 0, .takeReply 7])
    w.getRealPlaybackPosition 7 150 = 0 ∧ realPosition w.saidPosition 150 = 60 :=
  ⟨rfl, rfl⟩

/-- A pause. -/
def paused : AVPlaybackState Unit := AVPlaybackState.init.set .state (3 : ℤ)

/-- A process that asked for all is shown the state. -/
theorem shown_askedForAll : (run World.step init askedForAll).Shown 7 := by
  rw [shown_iff]
  intro s hs
  rw [(Mailbox.may_of_quiet rfl).mp hs]
  rfl

/-- The position is known behind the first state, and lost with the second. -/
theorem real_position_pause :
    Always World.step (Shown 7) (run World.step init askedForAll) [.setAVPlaybackState played] ∧
      ¬ Always World.step (Shown 7) (run World.step init askedForAll)
        [.setAVPlaybackState played, .setAVPlaybackState paused] := by
  constructor
  · refine (real_position askedForAll _ 7).2.2 shown_askedForAll ?_ ?_
    · refine ⟨⟨⟨7, fun _ => false, fun _ => true, false⟩, rfl, .inl rfl⟩, 0, rfl, ?_⟩
      intro m hm
      cases hm
    · exact ⟨⟨rfl, rfl⟩, trivial⟩
  · rw [(real_position askedForAll _ 7).1 shown_askedForAll]
    rintro ⟨-, hkept, -⟩
    change (_ ∨ _) ∧ _ at hkept
    rcases hkept.1 with htells | hnone
    · obtain ⟨c, hc, hsent⟩ := htells
      obtain rfl := Option.some.inj hc
      cases hsent
    · cases hnone

end World

end runs

end AvSession.Playback
