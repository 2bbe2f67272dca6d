import Mathlib.Data.List.Basic
import Mathlib.Logic.Function.Basic

/-!
# Values that are stored first and published later

A board has a current value for each topic. A value is stored in one step and published in another
one, so that publications are in flight; those who hear of a topic know the value that was published
last, unless they have asked since.

* `Board` — the values, the publications in flight, and what is known; `store`, `publish`, `inform`,
  `forget` — the steps.
* `UpToDate` — who hears of a topic knows nothing of it or its value, once nothing is in flight. It
  is kept by every step, if the publications of the topic do not overtake one another.
* `NoneMissed` — who knows nothing of a topic has missed nothing.
-/

set_option linter.unusedSectionVars false

namespace AvSession.Lib

/-- What is going to be published of a topic: a value, or the one that is current by then. -/
structure Publication {T : Type*} (V : T → Type*) where
  topic : T
  value : Option (V topic)

/-- The publications are in the order in which their values were stored. -/
structure Board {T : Type*} (V : T → Type*) (F : Type*) where
  current : (t : T) → V t
  inFlight : List (Publication V)
  knows : F → (t : T) → Option (V t)

namespace Board

variable {T : Type*} [DecidableEq T] {V : T → Type*} {F : Type*} [DecidableEq F]

/-! ## Steps -/

section steps

variable (b : Board V F)

/-- A value is replaced, and nobody will be told. -/
def change (t : T) (v : V t) : Board V F :=
  { b with current := Function.update b.current t v }

/-- A value is stored, and something of its topic is going to be published. -/
def store (t : T) (v : V t) (o : Option (V t)) : Board V F :=
  { b.change t v with inFlight := b.inFlight ++ [⟨t, o⟩] }

/-- One publication reaches all those who hear of its topic. -/
def publish (n : ℕ) (hears : F → T → Bool) : Board V F :=
  match b.inFlight[n]? with
  | none => b
  | some p =>
      { b with
        inFlight := b.inFlight.eraseIdx n
        knows := fun f => if hears f p.topic then
          Function.update (b.knows f) p.topic (some (p.value.getD (b.current p.topic)))
        else b.knows f }

/-- Someone has asked. -/
def inform (f : F) (t : T) (v : V t) : Board V F :=
  { b with knows := Function.update b.knows f (Function.update (b.knows f) t (some v)) }

/-- Someone starts anew. -/
def forget (f : F) : Board V F :=
  { b with knows := Function.update b.knows f fun _ => none }

/-- The publications of a topic that are in flight. -/
def flying (t : T) : List (Publication V) := b.inFlight.filter fun p => p.topic = t

/-- No publication of the same topic was stored before the one that is published. -/
def InOrder (n : ℕ) : Prop :=
  ∀ p ∈ b.inFlight[n]?, ∀ q ∈ b.inFlight.take n, q.topic ≠ p.topic

end steps

/-! ## What the steps change -/

section changes

variable (b : Board V F) {t t' : T} {f f' : F} {n : ℕ} {hears : F → T → Bool} {p : Publication V}

/-- Changing a topic leaves the others. -/
theorem change_current_of_ne (h : t' ≠ t) (v : V t) : (b.change t v).current t' = b.current t' :=
  Function.update_of_ne h _ _

/-- Storing sets the topic. -/
@[simp] theorem store_current_self (v : V t) (o : Option (V t)) :
    (b.store t v o).current t = v :=
  Function.update_self _ _ _

/-- Storing a topic leaves the others. -/
theorem store_current_of_ne (h : t' ≠ t) (v : V t) (o : Option (V t)) :
    (b.store t v o).current t' = b.current t' :=
  Function.update_of_ne h _ _

/-- Storing sends one notice of the topic. -/
theorem store_flying_self (v : V t) (o : Option (V t)) :
    (b.store t v o).flying t = b.flying t ++ [⟨t, o⟩] := by
  simp [store, flying, change]

/-- Storing sends no notice of another topic. -/
theorem store_flying_of_ne (h : t' ≠ t) (v : V t) (o : Option (V t)) :
    (b.store t v o).flying t' = b.flying t' := by
  simp [store, flying, change, h.symm]

/-- Who is informed knows the value. -/
@[simp] theorem inform_knows_self (v : V t) : (b.inform f t v).knows f t = some v := by
  simp [inform]

/-- Informing of a topic tells nothing of another. -/
theorem inform_knows_of_topic (h : t' ≠ t) (v : V t) :
    (b.inform f t v).knows f' t' = b.knows f' t' := by
  by_cases hf : f' = f
  · subst hf
    simp [inform, h]
  · simp [inform, hf]

/-- Informing one tells the others nothing. -/
theorem inform_knows_of_ne (h : f' ≠ f) (v : V t) : (b.inform f t v).knows f' = b.knows f' := by
  simp [inform, h]

/-- Who forgets knows nothing. -/
@[simp] theorem forget_knows_self : (b.forget f).knows f t = none := by
  simp [forget]

/-- The others do not forget. -/
theorem forget_knows_of_ne (h : f' ≠ f) : (b.forget f).knows f' = b.knows f' := by
  simp [forget, h]

/-- Without a notice there is nothing to deliver. -/
theorem publish_of_none (h : b.inFlight[n]? = none) : b.publish n hears = b := by
  simp only [publish, h]

/-- A delivery changes no value. -/
@[simp] theorem publish_current : (b.publish n hears).current = b.current := by
  unfold publish
  split <;> rfl

/-- A delivery takes its notice out of the air. -/
theorem publish_inFlight : (b.publish n hears).inFlight = b.inFlight.eraseIdx n := by
  unfold publish
  split
  next h => exact (List.eraseIdx_of_length_le (List.getElem?_eq_none_iff.mp h)).symm
  next => rfl

/-- Whoever hears of it knows what was published. -/
theorem publish_knows_of_hears (h : b.inFlight[n]? = some p) (hf : hears f p.topic = true) :
    (b.publish n hears).knows f p.topic = some (p.value.getD (b.current p.topic)) := by
  simp [publish, h, hf]

/-- Who does not hear learns nothing. -/
theorem publish_knows_of_deaf (h : b.inFlight[n]? = some p) (hf : hears f p.topic = false) :
    (b.publish n hears).knows f = b.knows f := by
  simp [publish, h, hf]

/-- A notice tells nothing of another topic. -/
theorem publish_knows_of_topic (h : b.inFlight[n]? = some p) (ht : t ≠ p.topic) :
    (b.publish n hears).knows f t = b.knows f t := by
  cases hf : hears f p.topic with
  | true => simp [publish, h, hf, ht]
  | false => rw [publish_knows_of_deaf b h hf]

/-- A notice stands between those before and those behind it. -/
theorem inFlight_split (h : b.inFlight[n]? = some p) :
    b.inFlight = b.inFlight.take n ++ p :: b.inFlight.drop (n + 1) := by
  obtain ⟨hn, rfl⟩ := List.getElem?_eq_some_iff.mp h
  rw [← List.drop_eq_getElem_cons hn, List.take_append_drop]

/-- A delivery leaves the notices of other topics in the air. -/
theorem publish_flying_of_ne (h : b.inFlight[n]? = some p) (ht : p.topic ≠ t) :
    (b.publish n hears).flying t = b.flying t := by
  unfold flying
  conv_rhs => rw [b.inFlight_split h]
  rw [publish_inFlight, List.eraseIdx_eq_take_drop_succ]
  simp [ht]

/-- A publication in order is the first of its topic. -/
theorem flying_of_inOrder (h : b.inFlight[n]? = some p) (hp : p.topic = t) (horder : b.InOrder n) :
    b.flying t = p :: (b.publish n hears).flying t := by
  have hbefore : (b.inFlight.take n).filter (fun q => q.topic = t) = [] := by
    rw [List.filter_eq_nil_iff]
    intro q hq
    simpa [hp] using horder p h q hq
  unfold flying
  conv_lhs => rw [b.inFlight_split h]
  rw [publish_inFlight, List.eraseIdx_eq_take_drop_succ, List.filter_append, List.filter_append,
    hbefore]
  simp [hp]

end changes

/-! ## Up to date -/

section upToDate

/-- The last publication of a topic carries its value, and when it has arrived all those who hear of
the topic know nothing else. -/
structure UpToDate (b : Board V F) (t : T) (hears : F → Bool) : Prop where
  told : b.flying t = [] → ∀ f, hears f = true → ∀ v, b.knows f t = some v → v = b.current t
  last : ∀ v, (b.flying t).getLast? = some ⟨t, some v⟩ → v = b.current t

namespace UpToDate

variable {b : Board V F} {t t' : T} {hears : F → Bool}

/-- Those who hear may be others, as far as they have started anew. -/
theorem mono {hears' : F → Bool} (h : b.UpToDate t hears)
    (hnew : ∀ f, hears' f = true → hears f = true ∨ b.knows f t = none) : b.UpToDate t hears' where
  told hnone f hf v hv := by
    rcases hnew f hf with hold | hblank
    · exact h.told hnone f hold v hv
    · cases hblank.symm.trans hv
  last := h.last

/-- Changing another topic keeps the listeners up to date. -/
theorem change (h : b.UpToDate t hears) (ht : t ≠ t') (v : V t') :
    (b.change t' v).UpToDate t hears where
  told hnone f hf w hw := by
    rw [change_current_of_ne b ht]
    exact h.told hnone f hf w hw
  last w hw := by
    rw [change_current_of_ne b ht]
    exact h.last w hw

/-- What is going to be published must be the value. -/
theorem store (h : b.UpToDate t hears) (v : V t') (o : Option (V t')) (ho : ∀ w ∈ o, w = v) :
    (b.store t' v o).UpToDate t hears := by
  by_cases ht : t = t'
  · subst ht
    constructor
    · intro hnone
      rw [store_flying_self] at hnone
      exact absurd hnone (List.append_ne_nil_of_right_ne_nil _ (List.cons_ne_nil _ _))
    · intro w hw
      rw [store_flying_self, List.getLast?_append] at hw
      rw [store_current_self]
      apply ho
      simpa using hw
  · constructor
    · intro hnone f hf w hw
      rw [store_flying_of_ne b ht] at hnone
      rw [store_current_of_ne b ht]
      exact h.told hnone f hf w hw
    · intro w hw
      rw [store_flying_of_ne b ht] at hw
      rw [store_current_of_ne b ht]
      exact h.last w hw

/-- The answer must be the value. -/
theorem inform (h : b.UpToDate t hears) (f : F) (v : V t')
    (hv : ∀ heq : t' = t, heq ▸ v = b.current t) : (b.inform f t' v).UpToDate t hears where
  told hnone g hg w hw := by
    by_cases ht : t' = t
    · subst ht
      by_cases hgf : g = f
      · subst hgf
        rw [inform_knows_self] at hw
        exact (Option.some.inj hw).symm.trans (hv rfl)
      · rw [inform_knows_of_ne b hgf] at hw
        exact h.told hnone g hg w hw
    · rw [inform_knows_of_topic b (Ne.symm ht)] at hw
      exact h.told hnone g hg w hw
  last := h.last

/-- Forgetting keeps the others up to date. -/
theorem forget (h : b.UpToDate t hears) (f : F) : (b.forget f).UpToDate t hears where
  told hnone g hg w hw := by
    by_cases hgf : g = f
    · subst hgf
      rw [forget_knows_self] at hw
      cases hw
    · rw [forget_knows_of_ne b hgf] at hw
      exact h.told hnone g hg w hw
  last := h.last

/-- Publications that do not overtake others of their topic. -/
theorem publish {n : ℕ} (hears : F → T → Bool) (h : b.UpToDate t fun f => hears f t)
    (horder : ∀ p ∈ b.inFlight[n]?, p.topic = t → b.InOrder n) :
    (b.publish n hears).UpToDate t fun f => hears f t := by
  cases hn : b.inFlight[n]? with
  | none => rwa [publish_of_none b hn]
  | some p =>
      by_cases ht : p.topic = t
      · have hsplit : b.flying t = p :: (b.publish n hears).flying t :=
          b.flying_of_inOrder hn ht (horder p hn ht)
        subst ht
        constructor
        · intro hnone f hf v hv
          rw [publish_current]
          rw [publish_knows_of_hears b hn hf] at hv
          obtain rfl := Option.some.inj hv
          rw [hnone] at hsplit
          rcases p with ⟨t, _ | u⟩
          · rfl
          · exact h.last u (by rw [hsplit]; rfl)
        · intro v hv
          rw [publish_current]
          apply h.last
          rw [hsplit, List.getLast?_cons, hv]
          rfl
      · constructor
        · intro hnone f hf v hv
          rw [publish_flying_of_ne b hn ht] at hnone
          rw [publish_knows_of_topic b hn (Ne.symm ht)] at hv
          rw [publish_current]
          exact h.told hnone f hf v hv
        · intro v hv
          rw [publish_flying_of_ne b hn ht] at hv
          rw [publish_current]
          exact h.last v hv

end UpToDate

end upToDate

/-! ## Nothing missed -/

section noneMissed

/-- As long as someone knows nothing of a topic, its value is still `v`, or will be published. -/
def NoneMissed (b : Board V F) (t : T) (f : F) (v : V t) : Prop :=
  b.knows f t = none → b.flying t = [] → b.current t = v

namespace NoneMissed

variable {b : Board V F} {t t' : T} {f g : F} {v : V t}

/-- Who starts with the current value has missed none. -/
theorem start (b : Board V F) (t : T) (f : F) : b.NoneMissed t f (b.current t) :=
  fun _ _ => rfl

/-- Changing another topic is not missed. -/
theorem change (h : b.NoneMissed t f v) (ht : t ≠ t') (w : V t') :
    (b.change t' w).NoneMissed t f v := by
  intro hknows hnone
  rw [change_current_of_ne b ht]
  exact h hknows hnone

/-- A stored value is not missed while its notice flies. -/
theorem store (h : b.NoneMissed t f v) (w : V t') (o : Option (V t')) :
    (b.store t' w o).NoneMissed t f v := by
  intro hknows hnone
  by_cases ht : t = t'
  · subst ht
    rw [store_flying_self] at hnone
    exact absurd hnone (List.append_ne_nil_of_right_ne_nil _ (List.cons_ne_nil _ _))
  · rw [store_flying_of_ne b ht] at hnone
    rw [store_current_of_ne b ht]
    exact h hknows hnone

/-- Informing somebody is no loss. -/
theorem inform (h : b.NoneMissed t f v) (g : F) (w : V t') :
    (b.inform g t' w).NoneMissed t f v := by
  intro hknows hnone
  refine h ?_ hnone
  by_cases hgf : f = g
  · subst hgf
    by_cases ht : t = t'
    · subst ht
      rw [inform_knows_self] at hknows
      cases hknows
    · rwa [inform_knows_of_topic b ht] at hknows
  · rwa [inform_knows_of_ne b hgf] at hknows

/-- Another's forgetting is no loss. -/
theorem forget (h : b.NoneMissed t f v) (hgf : f ≠ g) : (b.forget g).NoneMissed t f v := by
  intro hknows hnone
  rw [forget_knows_of_ne b hgf] at hknows
  exact h hknows hnone

/-- Who hears of the topic does not miss what is published. -/
theorem publish {n : ℕ} {hears : F → T → Bool} (h : b.NoneMissed t f v)
    (hf : hears f t = true) : (b.publish n hears).NoneMissed t f v := by
  intro hknows hnone
  rw [publish_current]
  cases hn : b.inFlight[n]? with
  | none =>
      rw [publish_of_none b hn] at hknows hnone
      exact h hknows hnone
  | some p =>
      by_cases ht : p.topic = t
      · subst ht
        rw [publish_knows_of_hears b hn hf] at hknows
        cases hknows
      · rw [publish_knows_of_topic b hn (Ne.symm ht)] at hknows
        rw [publish_flying_of_ne b hn ht] at hnone
        exact h hknows hnone

end NoneMissed

end noneMissed

end Board

end AvSession.Lib
