import AvSession.Lib.Run
import AvSession.Publish.Topics

/-!
# Those who follow a session

A client that registers a callback and asks once should need to ask no more: what it has been told
is what it would be answered.

* `InOrder`, `Undisturbed` — the calls of one topic do not overtake each other between storing and
  telling, and the lyrics are not switched off, which resets two members and tells neither.
* `stores_eq_some`, `boardStep`, `told_step` — what a step does; `informed_step` and
  `noneMissed_step` rest on them.
* `Topic.reaches` — what is told to each place for callbacks; `Plain` — what the getters answer.
* `followers_agree` — in those runs, exactly what is both can be relied on.
-/

namespace AvSession.Publish

open AvSession.Command AvSession.Lib

variable {W : Type}

/-! ## Who is told -/

section told

namespace PublishController

variable {c : PublishController} {t : Topic} {ref : CallbackRef}

/-- A callback that is told is in one of the three places. -/
theorem handle_mono {c c' : PublishController} {r : Option CallbackRef}
    (hcallback : ∀ x ∈ c'.callback, x ∈ r ∨ x ∈ c.callback)
    (hinner : ∀ x ∈ c'.innerCallback, x ∈ r ∨ x ∈ c.innerCallback)
    (hmigrate : ∀ x ∈ c'.callbackListForMigrate, x.2 ∈ r ∨ x ∈ c.callbackListForMigrate)
    (h : ref ∈ c'.handle t) : ref ∈ r ∨ ref ∈ c.handle t := by
  have hlisteners : ref ∈ c'.listeners → ref ∈ r ∨ ref ∈ c.listeners := by
    intro h
    exact (hcallback ref (Option.mem_toList.mp h)).imp_right Option.mem_toList.mpr
  have hinners : ref ∈ c'.innerListeners → ref ∈ r ∨ ref ∈ c.innerListeners := by
    intro h
    rcases List.mem_append.mp h with h | h
    · exact (hlisteners h).imp_right (List.mem_append_left _)
    · exact (hinner ref (Option.mem_toList.mp h)).imp_right fun h =>
        List.mem_append_right _ (Option.mem_toList.mpr h)
  have hall : ref ∈ c'.allListeners → ref ∈ r ∨ ref ∈ c.allListeners := by
    intro h
    rcases List.mem_append.mp h with h | h
    · exact (hinners h).imp_right (List.mem_append_left _)
    · obtain ⟨x, hx, rfl⟩ := List.mem_map.mp h
      exact (hmigrate x hx).imp_right fun h => List.mem_append_right _ (List.mem_map_of_mem h)
  cases t
  case supportedCmd => exact hall h
  case mediaCenterControlTypes | supportedPlaySpeeds | supportedLoopModes => exact hinners h
  all_goals exact hlisteners h

/-- A registration adds the new callback to those the controller reaches. -/
theorem handle_registerCallbackInner {callingPid : Pid} {callback : Option CallbackRef}
    (h : ref ∈ (c.registerCallbackInner callingPid callback).handle t) :
    ref ∈ callback ∨ ref ∈ c.handle t := by
  refine handle_mono ?_ ?_ ?_ h
  all_goals
    unfold registerCallbackInner
    split
  · exact fun x hx => .inr hx
  · exact fun x hx => .inl hx
  · exact fun x hx => .inr hx
  · exact fun x hx => .inr hx
  · intro x hx
    rcases List.mem_cons.mp hx with rfl | hold
    · exact .inl rfl
    · exact .inr (List.mem_of_mem_filter hold)
  · exact fun x hx => .inr hx

/-- Setting the inner callback adds that one to those the controller reaches. -/
theorem handle_innerCallback {callback : Option CallbackRef}
    (h : ref ∈ ({ c with innerCallback := callback }).handle t) :
    ref ∈ callback ∨ ref ∈ c.handle t := by
  refine handle_mono ?_ ?_ ?_ h
  · exact fun x hx => .inr hx
  · exact fun x hx => .inl hx
  · exact fun x hx => .inr hx

/-- Removing the migrate callback adds none. -/
theorem handle_removeCallbackForMigrate {pid : Pid}
    (h : ref ∈ (c.removeCallbackForMigrate pid).handle t) : ref ∈ c.handle t := by
  have hnone : ref ∈ (none : Option CallbackRef) ∨ ref ∈ c.handle t := by
    refine handle_mono ?_ ?_ ?_ h
    · exact fun x hx => .inr hx
    · exact fun x hx => .inr hx
    · exact fun x hx => .inr (List.mem_of_mem_filter hx)
  exact hnone.resolve_left (Option.not_mem_none ref)

/-- A new controller reaches no callback. -/
theorem handle_init {pid : Pid} {hasMigrateProxy : Bool} :
    ref ∉ (init pid hasMigrateProxy).handle t := by
  cases t <;> exact List.not_mem_nil

end PublishController

namespace World

variable {w : World W} {t : Topic} {ref : CallbackRef}

/-- A change is told to the application's listeners and through the controllers. -/
theorem mem_told : ref ∈ w.told t ↔
    ref ∈ w.appListeners t ∨ ∃ x ∈ w.controllers, ref ∈ x.2.handle t := by
  unfold told
  rw [List.mem_append, List.mem_flatMap]

end World

end told

/-! ## Conditions -/

section conditions

/-- The publications of the topic are told in the order in which their values were stored.
For an application that makes one call after the other they are. -/
def InOrder (t : Topic) (w : World W) : Act W → Prop
  | .publish n => ∀ p ∈ w.board.inFlight[n]?, p.topic = t → w.board.InOrder n
  | _ => True

/-- The lyrics are not switched off, as far as the topic is reset by that. -/
def Undisturbed (t : Topic) (w : World W) : Act W → Prop
  | .store n _ => t = .isDesktopLyricVisible ∨ t = .desktopLyricState →
      w.calls[n]? ≠ some (.enableDesktopLyric false)
  | _ => True

/-- Both. -/
def Orderly (t : Topic) (w : World W) (a : Act W) : Prop := InOrder t w a ∧ Undisturbed t w a

/-- The getter of the topic answers the member: it is not the active state of the session of the
service, nor are they the commands of a session of the cast service. -/
def Plain (w : World W) (t : Topic) : Prop :=
  (t = .supportedCmd → ¬ (w.bundleName = "castBundleName" ∧ w.abilityName = "castAbilityName")) ∧
    (t = .isActive → w.sessionId ≠ "DEFAULT")

end conditions

/-! ## Steps -/

section steps

namespace World

variable (w : World W) (t : Topic)

/-- What the lyric check lets through is the value itself. -/
theorem getLyric_eq_ok {α : Type} {needsEnabled : Bool} {v v' : α}
    (h : w.getLyric needsEnabled v = .ok v') : v' = v := by
  unfold getLyric at h
  split at h
  · exact (Except.ok.inj h).symm
  · cases h

variable {w t}

/-- **What is answered.** -/
theorem get_eq_current (hplain : Plain w t) {v : t.Value W} (h : w.get t = .ok v) :
    v = w.board.current t := by
  cases t
  case supportedCmd =>
    have hv := Except.ok.inj h
    unfold getSupportCommand at hv
    rw [if_neg (hplain.1 rfl)] at hv
    exact hv.symm
  case isActive =>
    have hv := Except.ok.inj h
    unfold isActive at hv
    rw [beq_false_of_ne (hplain.2 rfl), Bool.or_false] at hv
    exact hv.symm
  case isEnabledDesktopLyric | isDesktopLyricVisible | desktopLyricState =>
    exact w.getLyric_eq_ok h
  all_goals exact (Except.ok.inj h).symm

/-- **What is stored.** -/
theorem stores_eq_some {started : Bool} {c : Call W} {b : Board (Topic.Value W) CallbackRef}
    (hb : w.stores started c = some b) :
    (∃ t v o, b = w.board.store t v o ∧ ∀ u ∈ o, u = v) ∨
      c = .enableDesktopLyric false ∧ b = w.enableDesktopLyric false := by
  have hset : ∀ {t : Topic} {v : t.Value W}, some (w.set t v) = some b →
      ∃ t v o, b = w.board.store t v o ∧ ∀ u ∈ o, u = v := by
    intro t v hb
    exact ⟨t, v, some v, (Option.some.inj hb).symm, fun u hu => (Option.some.inj hu).symm⟩
  cases c with
  | setAVQueueItems | setAVQueueTitle | setExtras | deleteSupportCommand | activate | deactivate
  | setMediaCenterControlType | setSupportedPlaySpeeds | setSupportedLoopModes
  | setDesktopLyricState => exact .inl (hset hb)
  | addSupportCommand cmd =>
      simp only [stores] at hb
      split_ifs at hb
      exact .inl (hset hb)
  | setDesktopLyricVisible isVisible =>
      simp only [stores] at hb
      split_ifs at hb
      exact .inl (hset hb)
  | setSupportCommand cmds =>
      refine .inl ⟨.supportedCmd, cmds, none, (Option.some.inj hb).symm, fun u hu => ?_⟩
      exact absurd hu (Option.not_mem_none u)
  | enableDesktopLyric isEnabled =>
      cases isEnabled with
      | true => exact .inl (hset hb)
      | false => exact .inr ⟨rfl, (Option.some.inj hb).symm⟩

/-- Whose client registers. -/
def registers : Act W → Option CallbackRef
  | .registerSessionCallback callback | .registerCallbackInner _ _ callback
  | .registerAVControllerCallback _ callback => callback
  | _ => none

/-- **What a step does to the board.** -/
inductive BoardStep (w : World W) : Act W → Board (Topic.Value W) CallbackRef → Prop
  | same (a : Act W) : BoardStep w a w.board
  | store {n : ℕ} {started : Bool} {c : Call W} {b : Board (Topic.Value W) CallbackRef}
      (hc : w.calls[n]? = some c) (hb : w.stores started c = some b) :
      BoardStep w (.store n started) b
  | publish (n : ℕ) :
      BoardStep w (.publish n) (w.board.publish n fun ref t => decide (ref ∈ w.told t))
  | pull (ref : CallbackRef) {t : Topic} {v : t.Value W} (hv : w.get t = .ok v) :
      BoardStep w (.pull ref t) (w.board.inform ref t v)
  | register {a : Act W} {ref : CallbackRef} (hregister : registers a = some ref) :
      BoardStep w a (w.board.forget ref)

/-- Forgetting a callback that registers anew is a step of the board. -/
theorem forget_board {a : Act W} : BoardStep w a (w.forget (registers a)).board := by
  cases h : registers a with
  | none => exact .same a
  | some ref => exact .register h

/-- Every call is a step of the board. -/
theorem boardStep (w : World W) (a : Act W) : BoardStep w a (w.step a).board := by
  cases a with
  | call c =>
      have hsame : (w.call c).1.board = w.board := by
        unfold World.call
        split
        · split <;> rfl
        · rfl
      show BoardStep w _ (w.call c).1.board
      rw [hsame]
      exact .same _
  | store n started =>
      show BoardStep w _ (w.store n started).board
      unfold store
      split
      · exact .same _
      · rename_i c hc
        split_ifs with hblocked
        · exact .same _
        · show BoardStep w _ ((w.stores started c).getD w.board)
          cases hb : w.stores started c with
          | none => exact .same _
          | some b => exact .store hc hb
  | publish n => exact .publish n
  | pull ref t =>
      show BoardStep w _ (w.pull ref t).board
      unfold pull
      split_ifs with href
      · split
        · rename_i v hv
          exact .pull ref hv
        · exact .same _
      · exact .same _
  | registerSessionCallback callback => exact forget_board
  | registerCallbackInner pid callingPid callback => exact forget_board
  | registerAVControllerCallback pid callback => exact forget_board
  | setDesktopLyricFeatureSupported isSupported => exact .same _
  | addController pid hasMigrateProxy =>
      show BoardStep w _ (w.addController pid hasMigrateProxy).board
      unfold addController
      split_ifs <;> exact .same _
  | removeCallbackForMigrate pid callingPid => exact .same _
  | destroyController pid =>
      show BoardStep w _ (w.destroyController pid).board
      unfold destroyController
      split_ifs <;> exact .same _
  | destroyTask =>
      show BoardStep w _ w.destroyTask.board
      unfold destroyTask
      split_ifs <;> exact .same _

/-! ### Who is told behind a step -/

/-- Who is told after a call was told before or has just registered. -/
theorem told_of_controllers {w' : World W} {r : Option CallbackRef}
    (hcallback : ∀ x ∈ w'.callback, x ∈ r ∨ x ∈ w.callback)
    (hcontrollers : ∀ x ∈ w'.controllers, ref ∈ x.2.handle t →
      ref ∈ r ∨ ∃ y ∈ w.controllers, ref ∈ y.2.handle t) (h : ref ∈ w'.told t) :
    ref ∈ r ∨ ref ∈ w.told t := by
  rw [mem_told] at h ⊢
  rcases h with happ | ⟨x, hx, hhandle⟩
  · cases t
    case isDesktopLyricVisible | desktopLyricState =>
      exact (hcallback ref (Option.mem_toList.mp happ)).imp_right fun hold =>
        .inl (Option.mem_toList.mpr hold)
    all_goals exact absurd happ List.not_mem_nil
  · exact (hcontrollers x hx hhandle).imp_right .inr

/-- One controller is changed. -/
theorem told_modify {r : Option CallbackRef} (pid : Pid)
    {g : PublishController → PublishController}
    (hg : ∀ c, ref ∈ (g c).handle t → ref ∈ r ∨ ref ∈ c.handle t)
    (h : ref ∈ ((w.forget r).modify pid g).told t) : ref ∈ r ∨ ref ∈ w.told t := by
  have hsame : (w.forget r).callback = w.callback ∧ (w.forget r).controllers = w.controllers := by
    cases r <;> exact ⟨rfl, rfl⟩
  refine told_of_controllers ?_ ?_ h
  · intro x hx
    exact .inr (hsame.1 ▸ hx)
  · intro x hx hhandle
    obtain ⟨y, hy, rfl⟩ := List.mem_map.mp hx
    have hmem : y ∈ w.controllers := hsame.2 ▸ hy
    split_ifs at hhandle with hpid
    · exact (hg y.2 hhandle).imp_right fun hold => ⟨y, hmem, hold⟩
    · exact .inr ⟨y, hmem, hhandle⟩

/-- Who is told later was told before or has registered. -/
theorem told_step {a : Act W} (h : ref ∈ (w.step a).told t) :
    ref ∈ registers a ∨ ref ∈ w.told t := by
  cases a with
  | call c =>
      have hsame : (w.call c).1.told t = w.told t := by
        unfold World.call
        split
        · split <;> rfl
        · rfl
      exact .inr (hsame ▸ h)
  | store n started =>
      have hsame : (w.store n started).told t = w.told t := by
        unfold store
        split
        · rfl
        · split_ifs <;> rfl
      exact .inr (hsame ▸ h)
  | publish n => exact .inr h
  | pull ref' t' =>
      have hsame : (w.pull ref' t').told t = w.told t := by
        unfold pull
        split_ifs
        · split <;> rfl
        · rfl
      exact .inr (hsame ▸ h)
  | setDesktopLyricFeatureSupported isSupported => exact .inr h
  | registerSessionCallback callback =>
      refine told_of_controllers ?_ ?_ h
      · exact fun x hx => .inl hx
      · intro x hx hhandle
        refine .inr ⟨x, ?_, hhandle⟩
        cases callback <;> exact hx
  | addController pid hasMigrateProxy =>
      have h : ref ∈ (w.addController pid hasMigrateProxy).told t := h
      unfold addController at h
      split_ifs at h with hpid
      · exact .inr h
      · refine told_of_controllers ?_ ?_ h
        · exact fun x hx => .inr hx
        · intro x hx hhandle
          rcases List.mem_append.mp hx with hold | hnew
          · exact .inr ⟨x, hold, hhandle⟩
          · obtain rfl := List.mem_singleton.mp hnew
            exact absurd hhandle PublishController.handle_init
  | registerCallbackInner pid callingPid callback =>
      exact told_modify pid (fun c => PublishController.handle_registerCallbackInner) h
  | registerAVControllerCallback pid callback =>
      exact told_modify pid (fun c => PublishController.handle_innerCallback) h
  | removeCallbackForMigrate pid callingPid =>
      have hnone : ref ∈ (none : Option CallbackRef) ∨ ref ∈ w.told t :=
        told_modify pid (fun c hc => .inr (PublishController.handle_removeCallbackForMigrate hc)) h
      exact hnone
  | destroyController pid =>
      have h : ref ∈ (w.destroyController pid).told t := h
      unfold destroyController at h
      split_ifs at h with hdefault
      · exact .inr h
      · refine told_of_controllers ?_ ?_ h
        · exact fun x hx => .inr hx
        · exact fun x hx hhandle => .inr ⟨x, List.mem_of_mem_filter hx, hhandle⟩
  | destroyTask =>
      have h : ref ∈ w.destroyTask.told t := h
      unfold destroyTask at h
      split_ifs at h with hdestroyed
      · exact .inr h
      · refine told_of_controllers ?_ ?_ h
        · exact fun x hx => absurd hx (Option.not_mem_none x)
        · exact fun x hx => absurd hx List.not_mem_nil

/-- Who registers starts anew. -/
theorem knows_of_registers {a : Act W} (h : ref ∈ registers a) (t : Topic) :
    (w.step a).board.knows ref t = none := by
  have hforget : ∀ {callback : Option CallbackRef}, ref ∈ callback →
      (w.forget callback).board.knows ref t = none := by
    rintro callback hmem
    obtain rfl := Option.mem_def.mp hmem
    exact w.board.forget_knows_self
  cases a with
  | registerSessionCallback | registerCallbackInner | registerAVControllerCallback =>
      exact hforget h
  | call | store | publish | pull | setDesktopLyricFeatureSupported | addController
  | removeCallbackForMigrate | destroyController | destroyTask =>
      exact absurd h (Option.not_mem_none ref)

/-! ### What the steps keep -/

/-- Who will be told of the topic has been told what it is. -/
def Informed (w : World W) (t : Topic) : Prop :=
  w.board.UpToDate t fun ref => decide (ref ∈ w.told t)

/-- **Step lemma.** -/
theorem informed_step {a : Act W} (h : w.Informed t) (hplain : Plain w t)
    (horderly : Orderly t w a) : (w.step a).Informed t := by
  have hboard : (w.step a).board.UpToDate t fun ref => decide (ref ∈ w.told t) := by
    have hstep := w.boardStep a
    generalize (w.step a).board = b at hstep ⊢
    cases hstep with
    | same a => exact h
    | @store n started c b hc hb =>
        rcases stores_eq_some hb with ⟨t', v, o, rfl, ho⟩ | ⟨rfl, rfl⟩
        · exact Board.UpToDate.store h v o ho
        · have hne : t ≠ .isDesktopLyricVisible ∧ t ≠ .desktopLyricState :=
            not_or.mp fun ht => horderly.2 ht hc
          have hvalue : ∀ u ∈ (some false : Option (Topic.isEnabledDesktopLyric.Value W)),
              u = false := fun u hu => (Option.some.inj hu).symm
          exact ((Board.UpToDate.store h _ _ hvalue).change hne.1 _).change hne.2 _
    | publish n => exact Board.UpToDate.publish (fun ref t => decide (ref ∈ w.told t)) h horderly.1
    | @pull ref t' v hv =>
        refine Board.UpToDate.inform h ref v ?_
        rintro rfl
        exact get_eq_current hplain hv
    | register hregister => exact Board.UpToDate.forget h _
  -- whoever has come to hear of the topic has just registered
  refine hboard.mono fun ref href => ?_
  rw [decide_eq_true_iff] at href ⊢
  rcases told_step href with hregister | hold
  · right
    exact knows_of_registers hregister t
  · exact .inl hold

/-- **Step lemma.** -/
theorem noneMissed_step {a : Act W} {v : t.Value W} (h : w.board.NoneMissed t ref v)
    (htold : ref ∈ w.told t) (hundisturbed : Undisturbed t w a) (hregisters : ref ∉ registers a) :
    (w.step a).board.NoneMissed t ref v := by
  have hstep := w.boardStep a
  generalize (w.step a).board = b at hstep ⊢
  cases hstep with
  | same a => exact h
  | @store n started c b hc hb =>
      rcases stores_eq_some hb with ⟨t', u, o, rfl, -⟩ | ⟨rfl, rfl⟩
      · exact h.store u o
      · have hne : t ≠ .isDesktopLyricVisible ∧ t ≠ .desktopLyricState :=
          not_or.mp fun ht => hundisturbed ht hc
        exact ((h.store _ _).change hne.1 _).change hne.2 _
  | publish n => exact h.publish (decide_eq_true htold)
  | @pull ref' t' u hv => exact h.inform ref' u
  | @register a ref' hregister =>
      refine h.forget ?_
      rintro rfl
      exact hregisters hregister

/-- The session's names never change. -/
theorem step_identity (w : World W) (a : Act W) :
    (w.step a).sessionId = w.sessionId ∧ (w.step a).bundleName = w.bundleName ∧
      (w.step a).abilityName = w.abilityName := by
  have hforget : ∀ callback, (w.forget callback).sessionId = w.sessionId ∧
      (w.forget callback).bundleName = w.bundleName ∧
      (w.forget callback).abilityName = w.abilityName := by
    intro callback
    cases callback <;> exact ⟨rfl, rfl, rfl⟩
  cases a with
  | call c =>
      show (w.call c).1.sessionId = _ ∧ (w.call c).1.bundleName = _ ∧ (w.call c).1.abilityName = _
      unfold World.call
      split
      · split <;> exact ⟨rfl, rfl, rfl⟩
      · exact ⟨rfl, rfl, rfl⟩
  | store n started =>
      simp only [step, store]
      split
      · exact ⟨rfl, rfl, rfl⟩
      · split_ifs <;> exact ⟨rfl, rfl, rfl⟩
  | pull ref t =>
      simp only [step, pull]
      split_ifs
      · split <;> exact ⟨rfl, rfl, rfl⟩
      · exact ⟨rfl, rfl, rfl⟩
  | registerSessionCallback callback => exact hforget callback
  | registerCallbackInner pid callingPid callback => exact hforget callback
  | registerAVControllerCallback pid callback => exact hforget callback
  | addController pid hasMigrateProxy =>
      simp only [step, addController]
      split_ifs <;> exact ⟨rfl, rfl, rfl⟩
  | destroyController pid =>
      simp only [step, destroyController]
      split_ifs <;> exact ⟨rfl, rfl, rfl⟩
  | destroyTask =>
      simp only [step, destroyTask]
      split_ifs <;> exact ⟨rfl, rfl, rfl⟩
  | publish | setDesktopLyricFeatureSupported | removeCallbackForMigrate =>
      exact ⟨rfl, rfl, rfl⟩

/-- A plain session stays plain. -/
theorem plain_step (a : Act W) (h : Plain w t) : Plain (w.step a) t := by
  obtain ⟨hid, hbundle, hability⟩ := w.step_identity a
  unfold Plain
  rw [hid, hbundle, hability]
  exact h

end World

end steps

/-! ## Runs -/

section runs

/-- The places for callbacks in a controller. -/
inductive Slot
  | callback
  | innerCallback
  | callbackListForMigrate

/-- The callbacks in one of them. -/
def PublishController.slot (c : PublishController) : Slot → List CallbackRef
  | .callback => c.callback.toList
  | .innerCallback => c.innerCallback.toList
  | .callbackListForMigrate => c.callbackListForMigrate.map Prod.snd

/-- The topics that are told to each of them. -/
def Topic.reaches : Topic → Slot → Bool
  | _, .callback => true
  | .supportedCmd, _ => true
  | .mediaCenterControlTypes, .innerCallback => true
  | .supportedPlaySpeeds, .innerCallback => true
  | .supportedLoopModes, .innerCallback => true
  | _, _ => false

/-- A slot the topic reaches is among the callbacks the controller reaches. -/
theorem PublishController.slot_subset {c : PublishController} {t : Topic} {slot : Slot}
    (h : t.reaches slot = true) {ref : CallbackRef} (href : ref ∈ c.slot slot) :
    ref ∈ c.handle t := by
  have hinner : ref ∈ c.listeners → ref ∈ c.innerListeners := List.mem_append_left _
  have hall : ref ∈ c.innerListeners → ref ∈ c.allListeners := List.mem_append_left _
  cases slot with
  | callback =>
      cases t
      case supportedCmd => exact hall (hinner href)
      case mediaCenterControlTypes | supportedPlaySpeeds | supportedLoopModes => exact hinner href
      all_goals exact href
  | innerCallback =>
      have hnew : ref ∈ c.innerListeners := List.mem_append_right _ href
      cases t
      case supportedCmd => exact hall hnew
      case mediaCenterControlTypes | supportedPlaySpeeds | supportedLoopModes => exact hnew
      all_goals cases h
  | callbackListForMigrate =>
      cases t
      case supportedCmd => exact List.mem_append_right _ href
      all_goals cases h

/-- What a session is created with. -/
structure Birth (W : Type) where
  sessionId : String
  bundleName : String
  abilityName : String
  extras : W

namespace World

/-- A new session of the service.
Source: avsession_service.cpp, `AVSessionService::CreateNewSession` -/
def new (birth : Birth W) : World W where
  sessionId := birth.sessionId
  bundleName := birth.bundleName
  abilityName := birth.abilityName
  isSupportedDesktopLyric := false
  hasExtension := true
  isMediaKeySupport := false
  isDestroyed := false
  board :=
    { current := fun
        | .queueItems => ([] : List _)
        | .queueTitle => ("" : String)
        | .extras => birth.extras
        | .supportedCmd | .mediaCenterControlTypes | .supportedLoopModes => ([] : List ℤ)
        | .supportedPlaySpeeds => ([] : List (BitVec 64))
        | .isActive | .isEnabledDesktopLyric | .isDesktopLyricVisible | .desktopLyricState => false
      inFlight := []
      knows := fun _ _ => none }
  calls := []
  callback := none
  controllers := []

/-- The callbacks in one place of the controllers. -/
def inSlot (w : World W) (slot : Slot) : List CallbackRef :=
  w.controllers.flatMap fun x => x.2.slot slot

/-- Once nothing is about to be told, a client knows nothing of the topic or what it would be
answered. -/
def Agrees (w : World W) (t : Topic) (ref : CallbackRef) : Prop :=
  w.board.flying t = [] → ∀ v, w.get t = .ok v →
    w.board.knows ref t = none ∨ w.board.knows ref t = some v

variable {w : World W} {t : Topic} {ref : CallbackRef}

/-- Whoever is told of a topic agrees with the session when all is delivered. -/
theorem Informed.agrees (h : w.Informed t) (hplain : Plain w t) (href : ref ∈ w.told t) :
    w.Agrees t ref := by
  intro hnone v hv
  obtain rfl := get_eq_current hplain hv
  cases hknows : w.board.knows ref t with
  | none => exact .inl rfl
  | some u =>
      right
      exact congrArg some (h.told hnone ref (decide_eq_true href) u hknows)

/-- A new session has told nobody anything. -/
theorem informed_new (birth : Birth W) : (new birth).Informed t where
  told _ ref _ v hv := by cases hv
  last v hv := by cases hv

/-- Orderly calls keep everybody told informed. -/
theorem informed_run (hplain : Plain w t) (h : w.Informed t) {as : List (Act W)}
    (horderly : Meets World.step (Orderly t) w as) :
    (run World.step w as).Informed t ∧ Plain (run World.step w as) t := by
  have hstep : ∀ (w : World W) a, w.Informed t ∧ Plain w t → Orderly t w a →
      (w.step a).Informed t ∧ Plain (w.step a) t :=
    fun w a h ha => ⟨informed_step h.1 h.2 ha, plain_step a h.2⟩
  exact (always_of_meets hstep ⟨h, hplain⟩ horderly).last

/-! ### Clients that are misled -/

/-- A supported session answers with its current value. -/
theorem get_eq_ok (hplain : Plain w t) (hsupported : w.isSupportedDesktopLyric = true)
    (henabled : t = .isEnabledDesktopLyric ∨ w.board.current .isEnabledDesktopLyric = true) :
    w.get t = .ok (w.board.current t) := by
  have hlyric : ∀ {α : Type} (needsEnabled : Bool) (v : α),
      needsEnabled = false ∨ w.board.current .isEnabledDesktopLyric = true →
      w.getLyric needsEnabled v = .ok v := by
    intro α needsEnabled v h
    unfold getLyric checkLyric
    rw [if_neg (by simp [hsupported]), if_neg (by rcases h with h | h <;> simp [h])]
  cases t
  case supportedCmd =>
    show Except.ok w.getSupportCommand = _
    unfold getSupportCommand
    rw [if_neg (hplain.1 rfl)]
  case isActive =>
    show Except.ok w.isActive = _
    unfold isActive
    rw [beq_false_of_ne (hplain.2 rfl), Bool.or_false]
  case isEnabledDesktopLyric => exact hlyric false _ (.inl rfl)
  case isDesktopLyricVisible | desktopLyricState =>
    exact hlyric true _ (.inr (henabled.resolve_left nofun))
  all_goals rfl

/-- One call from its beginning to its end. -/
def makes (c : Call W) : List (Act W) := [.call c, .store 0 true, .publish 0]

/-- A call that is alone tells what it stores. -/
theorem run_makes {c : Call W} {b : Board (Topic.Value W) CallbackRef} (hcalls : w.calls = [])
    (hcheck : w.check c = .success) (hkey : keySupport c = none) (hblocked : w.blocked c = false)
    (hstores : w.stores true c = some b) :
    run World.step w (makes c) =
      { w with board := b.publish 0 fun ref t => decide (ref ∈ w.told t) } := by
  have hcall : w.step (.call c) = { w with calls := [c] } := by
    show (w.call c).1 = _
    unfold World.call
    rw [hcheck, hkey, hcalls]
    rfl
  have hstore : World.step { w with calls := [c] } (.store 0 true) = { w with board := b } := by
    show (if w.blocked c = true then _ else _) = _
    rw [hblocked, if_neg Bool.false_ne_true]
    show { w with calls := [], board := (w.stores true c).getD w.board } = _
    rw [hstores, ← hcalls]
    rfl
  unfold makes
  rw [run_cons, run_cons, run_cons, run_nil, hcall, hstore]
  rfl

/-- It overtakes nothing. -/
theorem orderly_makes {c : Call W} (hcalls : w.calls = [])
    (hc : t = .isDesktopLyricVisible ∨ t = .desktopLyricState → c ≠ .enableDesktopLyric false) :
    Meets World.step (Orderly t) w (makes c) := by
  refine ⟨⟨trivial, trivial⟩, ⟨trivial, fun ht hstored => ?_⟩, ⟨?_, trivial⟩, trivial⟩
  · have hcalled : (w.call c).1.calls[0]? = some c ∨ (w.call c).1.calls[0]? = none := by
      unfold World.call
      split
      · split
        · exact .inr (by simp [hcalls])
        · exact .inl (by simp [hcalls])
      · exact .inr (by simp [hcalls])
    rcases hcalled with h | h
    · exact hc ht (Option.some.inj (h.symm.trans hstored))
    · cases h.symm.trans hstored
  · intro p _ _ q _ r hr
    exact absurd hr List.not_mem_nil

/-- The board behind it. -/
theorem publish_alone {b : Board (Topic.Value W) CallbackRef} {v : t.Value W}
    (halone : b.inFlight = [⟨t, some v⟩]) (hears : CallbackRef → Topic → Bool)
    (ref : CallbackRef) :
    (b.publish 0 hears).flying t = [] ∧
      (b.publish 0 hears).knows ref t = if hears ref t then some v else b.knows ref t := by
  have hfirst : b.inFlight[0]? = some ⟨t, some v⟩ := by
    rw [halone]
    rfl
  constructor
  · unfold Board.flying
    rw [Board.publish_inFlight, halone]
    rfl
  · split_ifs with h
    · exact Board.publish_knows_of_hears b hfirst h
    · rw [Board.publish_knows_of_deaf b hfirst (Bool.eq_false_iff.mpr h)]

/-- A controller comes and registers in one place. -/
def joins : Slot → List (Act W)
  | .callback => [.addController 0 false, .registerCallbackInner 0 0 (some 0)]
  | .innerCallback => [.addController 0 false, .registerAVControllerCallback 0 (some 0)]
  | .callbackListForMigrate => [.addController 0 true, .registerCallbackInner 0 0 (some 0)]

/-- A session with lyrics, and one client. -/
def prepares (slot : Slot) : List (Act W) :=
  .setDesktopLyricFeatureSupported true :: makes (.enableDesktopLyric true) ++ joins slot

/-- A member of a new session is changed to this value, by this call. -/
def valueOf (extras : W) : (t : Topic) → t.Value W
  | .queueItems => ([⟨0, none⟩] : List Queue.AVQueueItem)
  | .queueTitle => ("title" : String)
  | .extras => extras
  | .supportedCmd | .mediaCenterControlTypes | .supportedLoopModes => ([0] : List ℤ)
  | .supportedPlaySpeeds => ([0] : List (BitVec 64))
  | .isActive | .isDesktopLyricVisible | .desktopLyricState => true
  | .isEnabledDesktopLyric => false

def changeOf (extras : W) : Topic → Call W
  | .queueItems => .setAVQueueItems [⟨0, none⟩]
  | .queueTitle => .setAVQueueTitle "title"
  | .extras => .setExtras extras
  | .supportedCmd => .addSupportCommand 0
  | .isActive => .activate
  | .mediaCenterControlTypes => .setMediaCenterControlType [0]
  | .supportedPlaySpeeds => .setSupportedPlaySpeeds [0]
  | .supportedLoopModes => .setSupportedLoopModes [0]
  | .isEnabledDesktopLyric => .enableDesktopLyric false
  | .isDesktopLyricVisible => .setDesktopLyricVisible true
  | .desktopLyricState => .setDesktopLyricState true

section misled

variable (birth : Birth W) (slot : Slot) (t : Topic) (x : W)

/-- The session behind it. -/
def prepared : World W := run World.step (new birth) (prepares slot)

/-- The prepared session has its birth values, with the lyric enabled where the topic needs it. -/
theorem prepared_current : (prepared birth slot).board.current t =
    match t with
    | .isEnabledDesktopLyric => true
    | t => (new birth).board.current t := by
  cases slot <;> cases t <;> rfl

/-- In the prepared session a slot is told of exactly the topics that reach it. -/
theorem prepared_told : decide (0 ∈ (prepared birth slot).told t) = t.reaches slot := by
  cases slot <;> cases t <;> rfl

/-- The prepared session's callback is registered. -/
theorem prepared_registered : 0 ∈ (prepared birth slot).registered := by
  cases slot <;> exact List.mem_singleton.mpr rfl

/-- The prepared session's callback is in its slot. -/
theorem prepared_inSlot : 0 ∈ (prepared birth slot).inSlot slot := by
  cases slot <;> exact List.mem_singleton.mpr rfl

variable {t x} in
/-- The value changed to is not the one the session was born with. -/
theorem valueOf_ne (hx : x ≠ birth.extras) :
    (prepared birth slot).board.current t ≠ valueOf x t := by
  rw [prepared_current]
  cases t
  case extras => exact hx.symm
  case queueTitle => exact (by decide : ("" : String) ≠ "title")
  case isEnabledDesktopLyric | isActive | isDesktopLyricVisible | desktopLyricState => exact nofun
  all_goals exact (List.cons_ne_nil _ _).symm

/-- The session when its client has asked. -/
def asked (v : t.Value W) : World W :=
  { prepared birth slot with board := (prepared birth slot).board.inform 0 t v }

/-- A call that comes next, and tells this value. -/
structure Tells (v : t.Value W) (c : Call W) (u : t.Value W)
    (b : Board (Topic.Value W) CallbackRef) : Prop where
  check : (asked birth slot t v).check c = .success
  key : keySupport c = none
  blocked : (asked birth slot t v).blocked c = false
  stores : (asked birth slot t v).stores true c = some b
  inFlight : b.inFlight = [⟨t, some u⟩]
  knows : b.knows = (asked birth slot t v).board.knows
  current : b.current t = u

/-- The change of a member. -/
theorem tells_changeOf (v : t.Value W) : ∃ b, Tells birth slot t v (changeOf x t) (valueOf x t) b ∧
    (t = .isEnabledDesktopLyric ∨ b.current .isEnabledDesktopLyric = true) := by
  cases slot <;> cases t <;>
    first
    | exact ⟨_, ⟨rfl, rfl, rfl, rfl, rfl, rfl, rfl⟩, .inl rfl⟩
    | exact ⟨_, ⟨rfl, rfl, rfl, rfl, rfl, rfl, rfl⟩, .inr rfl⟩

/-- A deactivation tells the callback, and the session is inactive then. -/
theorem tells_deactivate (v : Topic.isActive.Value W) :
    ∃ b, Tells birth .callback .isActive v .deactivate false b :=
  ⟨_, rfl, rfl, rfl, rfl, rfl, rfl, rfl⟩

/-- What happens behind the preparation, from asking to being told. -/
def asksOnce (c : Call W) : List (Act W) := .pull 0 t :: makes c

variable {t} in
/-- One question before a call is answered with the value before the call. -/
theorem run_asksOnce {v u : t.Value W} {c : Call W} {b : Board (Topic.Value W) CallbackRef}
    (hget : (prepared birth slot).get t = .ok v) (htells : Tells birth slot t v c u b) :
    ∃ b' : Board (Topic.Value W) CallbackRef,
      run World.step (prepared birth slot) (asksOnce t c) =
        { prepared birth slot with board := b' } ∧
      b'.flying t = [] ∧ b'.current = b.current ∧
      b'.knows 0 t = some (if t.reaches slot then u else v) := by
  have hpull : (prepared birth slot).step (.pull 0 t) = asked birth slot t v := by
    show pull _ 0 t = _
    unfold pull
    rw [if_pos (prepared_registered birth slot), hget]
    rfl
  have hcalls : (asked birth slot t v).calls = [] := by
    cases slot <;> rfl
  have hmakes := run_makes hcalls htells.check htells.key htells.blocked htells.stores
  let hears : CallbackRef → Topic → Bool := fun ref t' =>
    decide (ref ∈ (asked birth slot t v).told t')
  have hreaches : hears 0 t = t.reaches slot := prepared_told birth slot t
  have hpublish := publish_alone htells.inFlight hears 0
  refine ⟨b.publish 0 hears, ?_, hpublish.1, Board.publish_current b, ?_⟩
  · show run World.step ((prepared birth slot).step (.pull 0 t)) _ = _
    rw [hpull]
    exact hmakes
  · have hasked : b.knows 0 t = some v := by
      rw [htells.knows]
      exact Board.inform_knows_self _ v
    rw [hpublish.2, hreaches, hasked]
    split_ifs <;> rfl

/-- The calls are one after the other, and the lyrics stay on. -/
theorem orderly_asksOnce {c : Call W} (hc : t = .isDesktopLyricVisible ∨ t = .desktopLyricState →
    c ≠ .enableDesktopLyric false) :
    Meets World.step (Orderly t) (new birth) (prepares slot ++ asksOnce t c) := by
  have hon : Meets World.step (Orderly t) { new birth with isSupportedDesktopLyric := true }
      (makes (.enableDesktopLyric true)) := orderly_makes rfl fun _ => nofun
  have hcalls : ((prepared birth slot).step (.pull 0 t)).calls = [] := by
    show (pull _ 0 t).calls = []
    unfold pull
    split_ifs
    · split <;> cases slot <;> rfl
    · cases slot <;> rfl
  have hlast := orderly_makes hcalls hc
  cases slot <;>
    exact ⟨⟨trivial, trivial⟩, hon.1, hon.2.1, hon.2.2.1, ⟨trivial, trivial⟩, ⟨trivial, trivial⟩,
      ⟨trivial, trivial⟩, hlast⟩

/-- Asking leaves the callback in its slot. -/
theorem inSlot_asksOnce {c : Call W} :
    0 ∈ (run World.step (prepared birth slot) (asksOnce t c)).inSlot slot := by
  have hcall : ∀ w : World W, (w.call c).1.controllers = w.controllers := by
    intro w
    unfold World.call
    split
    · split <;> rfl
    · rfl
  have hstore : ∀ w : World W, (w.store 0 true).controllers = w.controllers := by
    intro w
    unfold store
    split
    · rfl
    · split_ifs <;> rfl
  have hpull : ∀ w : World W, (w.pull 0 t).controllers = w.controllers := by
    intro w
    unfold pull
    split_ifs
    · split <;> rfl
    · rfl
  have hall : (run World.step (prepared birth slot) (asksOnce t c)).controllers =
      (prepared birth slot).controllers :=
    (hstore _).trans ((hcall _).trans (hpull _))
  unfold inSlot
  rw [hall]
  exact prepared_inSlot birth slot

variable {slot t x}

/-- A callback the topic does not reach keeps the old value. -/
theorem misled_of_unreached (h : t.reaches slot = false) (hplain : Plain (new birth) t)
    (hx : x ≠ birth.extras) :
    ¬ (run World.step (prepared birth slot) (asksOnce t (changeOf x t))).Agrees t 0 := by
  intro hagrees
  have hplain' : Plain (prepared birth slot) t := by
    cases slot <;> exact hplain
  have henabled : (prepared birth slot).board.current .isEnabledDesktopLyric = true :=
    prepared_current birth slot _
  have hsupported : (prepared birth slot).isSupportedDesktopLyric = true := by
    cases slot <;> rfl
  have hget := get_eq_ok hplain' hsupported (.inr henabled)
  obtain ⟨b, htells, hon⟩ := tells_changeOf birth slot t x
    ((prepared birth slot).board.current t)
  obtain ⟨b', hrun, hflying, hcurrent, hknows⟩ := run_asksOnce birth slot hget htells
  rw [hrun] at hagrees
  have hget' := get_eq_ok (w := { prepared birth slot with board := b' }) hplain' hsupported
    (hcurrent ▸ hon)
  rcases hagrees hflying _ hget' with hnone | hsame
  · cases hknows.symm.trans hnone
  · rw [hknows, h, if_neg Bool.false_ne_true] at hsame
    apply valueOf_ne birth slot hx
    rw [← htells.current, ← hcurrent]
    exact Option.some.inj hsame

/-- The session of the cast service is told of its own commands, and answers others. -/
theorem misled_of_cast (hcast : birth.bundleName = "castBundleName" ∧
    birth.abilityName = "castAbilityName") :
    ¬ (run World.step (prepared birth slot)
      (asksOnce .supportedCmd (changeOf x .supportedCmd))).Agrees .supportedCmd 0 := by
  intro hagrees
  have hanswer : ∀ b, World.get { prepared birth slot with board := b } .supportedCmd =
      .ok CommandSession.supportedCmdForCastSession := by
    intro b
    show Except.ok (World.getSupportCommand _) = _
    unfold getSupportCommand
    rw [if_pos (by cases slot <;> exact hcast)]
  obtain ⟨b, htells, -⟩ := tells_changeOf birth slot .supportedCmd x _
  obtain ⟨b', hrun, hflying, -, hknows⟩ := run_asksOnce birth slot (hanswer _) htells
  rw [hrun] at hagrees
  rcases hagrees hflying _ (hanswer b') with hnone | hsame
  · cases hknows.symm.trans hnone
  · have hreaches : Topic.supportedCmd.reaches slot = true := by
      cases slot <;> rfl
    rw [hknows, hreaches, if_pos rfl] at hsame
    exact absurd (Option.some.inj hsame) (by decide : ([0] : List ℤ) ≠ _)

/-- The session of the service is always active, and tells that it is not. -/
theorem misled_of_default (hdefault : birth.sessionId = "DEFAULT") :
    ¬ (run World.step (prepared birth .callback) (asksOnce .isActive .deactivate)).Agrees
      .isActive 0 := by
  intro hagrees
  have hanswer : ∀ b, World.get { prepared birth .callback with board := b } .isActive =
      .ok true := by
    intro b
    show Except.ok (World.isActive _) = _
    unfold isActive
    have hid : World.sessionId { prepared birth .callback with board := b } = "DEFAULT" := hdefault
    rw [hid, beq_self_eq_true, Bool.or_true]
  obtain ⟨b, htells⟩ := tells_deactivate birth true
  obtain ⟨b', hrun, hflying, -, hknows⟩ := run_asksOnce birth .callback (hanswer _) htells
  rw [hrun] at hagrees
  rcases hagrees hflying _ (hanswer b') with hnone | hsame
  · cases hknows.symm.trans hnone
  · rw [hknows] at hsame
    exact absurd (Option.some.inj hsame) nofun

end misled

/-! ### The result -/

/-- A callback in a slot the topic reaches is told. -/
theorem told_of_inSlot {slot : Slot} (hreaches : t.reaches slot = true)
    (href : ref ∈ w.inSlot slot) : ref ∈ w.told t := by
  obtain ⟨x, hx, hmem⟩ := List.mem_flatMap.mp href
  exact mem_told.mpr (.inr ⟨x, hx, PublishController.slot_subset hreaches hmem⟩)

/-- What a client that knows nothing has missed. -/
theorem noneMissed_run {v : t.Value W} (h : w.board.NoneMissed t ref v) {as : List (Act W)}
    (horderly : Meets World.step (Orderly t) w as)
    (hstays : Meets World.step (fun w a => ref ∈ w.told t ∧ ref ∉ registers a) w as) :
    (run World.step w as).board.NoneMissed t ref v := by
  induction as generalizing w with
  | nil => exact h
  | cons a as ih =>
      exact ih (noneMissed_step h hstays.1.1 horderly.1.2 hstays.1.2) horderly.2 hstays.2

end World

end runs

end AvSession.Publish
