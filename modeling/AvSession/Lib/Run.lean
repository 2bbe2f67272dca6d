import Mathlib.Data.List.Basic
import Mathlib.Data.List.Infix

/-!
# Runs of a deterministic step function

A component is a step function `step : σ → α → σ`; a *run* folds it over a list of actions.

* `run step s as` — the state after the actions `as`.
* `Always step P s as` — `P` holds in **every** state the run passes through, the first and the
  last included.
* `Meets step Ok s as` — every action of the run meets the condition `Ok` in the state it is
  taken from.

The invariant rules: `always_of_meets` (a condition under which one step preserves an invariant is
enough for whole runs), `always_iff_meets` (if the condition is also necessary for the step, it
characterises the runs on which the invariant never breaks) and `always_and_meets_iff` (the same
with a promise that each step makes beside the invariant), with variants for side invariants.
-/

namespace AvSession.Lib

variable {σ α : Type*}

/-- The state reached from `s` by the actions `as`. -/
def run (step : σ → α → σ) (s : σ) (as : List α) : σ := as.foldl step s

/-- `P` holds in every state of the run. -/
def Always (step : σ → α → σ) (P : σ → Prop) : σ → List α → Prop
  | s, [] => P s
  | s, a :: as => P s ∧ Always step P (step s a) as

/-- Every action of the run meets `Ok` in the state it is taken from. -/
def Meets (step : σ → α → σ) (Ok : σ → α → Prop) : σ → List α → Prop
  | _, [] => True
  | s, a :: as => Ok s a ∧ Meets step Ok (step s a) as

variable {step : σ → α → σ} {P Q : σ → Prop} {Ok : σ → α → Prop}

/-- The empty run goes nowhere. -/
@[simp] theorem run_nil (s : σ) : run step s [] = s := rfl

/-- A run goes on after its first step. -/
@[simp] theorem run_cons (s : σ) (a : α) (as : List α) :
    run step s (a :: as) = run step (step s a) as := rfl

/-- The empty run has one state. -/
@[simp] theorem always_nil (s : σ) : Always step P s [] ↔ P s := Iff.rfl

/-- A run has its first state and those after its first step. -/
@[simp] theorem always_cons (s : σ) (a : α) (as : List α) :
    Always step P s (a :: as) ↔ P s ∧ Always step P (step s a) as := Iff.rfl

/-- The empty run meets everything. -/
@[simp] theorem meets_nil (s : σ) : Meets step Ok s [] ↔ True := Iff.rfl

/-- A run meets a condition at its first step and afterwards. -/
@[simp] theorem meets_cons (s : σ) (a : α) (as : List α) :
    Meets step Ok s (a :: as) ↔ Ok s a ∧ Meets step Ok (step s a) as := Iff.rfl

/-- The first state of a run is one of its states. -/
theorem Always.head {s : σ} {as : List α} (h : Always step P s as) : P s := by
  cases as with
  | nil => exact h
  | cons a as => exact h.1

/-- The last state of a run is one of its states. -/
theorem Always.last {s : σ} {as : List α} (h : Always step P s as) : P (run step s as) := by
  induction as generalizing s with
  | nil => exact h
  | cons a as ih => exact ih h.2

/-- What always holds may be weakened. -/
theorem Always.mono (hPQ : ∀ s, P s → Q s) {s : σ} {as : List α} (h : Always step P s as) :
    Always step Q s as := by
  induction as generalizing s with
  | nil => exact hPQ s h
  | cons a as ih => exact ⟨hPQ s h.1, ih h.2⟩

/-- **Invariant rule.** A condition under which a single step preserves `P` is enough for `P` to
hold all along a run that starts in `P` and meets the condition at each step. -/
theorem always_of_meets (hstep : ∀ s a, P s → Ok s a → P (step s a)) {s : σ} {as : List α}
    (hs : P s) (h : Meets step Ok s as) : Always step P s as := by
  induction as generalizing s with
  | nil => exact hs
  | cons a as ih => exact ⟨hs, ih (hstep s a hs h.1) h.2⟩

/-- An invariant that every step preserves holds all along every run. -/
theorem always_of_forall (hstep : ∀ s a, P s → P (step s a)) {s : σ} (as : List α) (hs : P s) :
    Always step P s as := by
  induction as generalizing s with
  | nil => exact hs
  | cons a as ih => exact ⟨hs, ih (hstep s a hs)⟩

/-- **Exact invariant rule.** Let `I` hold along the run, of each state and the actions that are
still to come. If, from a state of `I` and `P`, a step stays in `P` exactly under the condition,
then the runs that never leave `P` are exactly the ones that meet the condition at each step. -/
theorem always_iff_meets_of_rest {I : σ → List α → Prop}
    (hI : ∀ s a as, I s (a :: as) → I (step s a) as)
    (hstep : ∀ s a as, I s (a :: as) → P s → (P (step s a) ↔ Ok s a)) {s : σ} (as : List α)
    (hs : I s as) (hP : P s) : Always step P s as ↔ Meets step Ok s as := by
  induction as generalizing s with
  | nil => simpa using hP
  | cons a as ih =>
      rw [always_cons, meets_cons]
      have hs' := hI s a as hs
      constructor
      · rintro ⟨-, h⟩
        exact ⟨(hstep s a as hs hP).mp h.head, (ih hs' h.head).mp h⟩
      · rintro ⟨hok, h⟩
        have hP' := (hstep s a as hs hP).mpr hok
        exact ⟨hP, (ih hs' hP').mpr h⟩

/-- The rule for an invariant of the states alone. -/
theorem always_iff_meets_of_inv {I : σ → Prop} (hI : ∀ s a, I s → I (step s a))
    (hstep : ∀ s a, I s → P s → (P (step s a) ↔ Ok s a)) {s : σ} (as : List α) (hs : I s)
    (hP : P s) : Always step P s as ↔ Meets step Ok s as :=
  always_iff_meets_of_rest (I := fun s _ => I s) (fun s a _ => hI s a) (fun s a _ => hstep s a) as
    hs hP

/-- The exact invariant rule with no further invariant. -/
theorem always_iff_meets (hstep : ∀ s a, P s → (P (step s a) ↔ Ok s a)) {s : σ} (as : List α)
    (hP : P s) : Always step P s as ↔ Meets step Ok s as :=
  always_iff_meets_of_inv (I := fun _ => True) (fun _ _ _ => trivial) (fun s a _ => hstep s a) as
    trivial hP

/-- What the steps promise in the states of an invariant that the condition keeps. -/
theorem meets_of_meets {I : σ → Prop} {Q : σ → α → Prop}
    (hI : ∀ s a, I s → Ok s a → I (step s a)) (hQ : ∀ s a, I s → Ok s a → Q s a) {s : σ}
    {as : List α} (hs : I s) (h : Meets step Ok s as) : Meets step Q s as := by
  induction as generalizing s with
  | nil => trivial
  | cons a as ih => exact ⟨hQ s a hs h.1, ih (hI s a hs h.1) h.2⟩

/-- One run behind another. -/
theorem meets_append {s : σ} {as bs : List α} :
    Meets step Ok s (as ++ bs) ↔ Meets step Ok s as ∧ Meets step Ok (run step s as) bs := by
  induction as generalizing s with
  | nil => simp
  | cons a as ih => rw [List.cons_append, meets_cons, meets_cons, run_cons, ih, and_assoc]

/-- The rule for a side invariant `J` that is kept only while the condition is met. -/
theorem always_iff_meets_of_side {J : σ → Prop}
    (hJ : ∀ s a, J s → P s → Ok s a → J (step s a))
    (hstep : ∀ s a, J s → P s → (P (step s a) ↔ Ok s a)) {s : σ} (as : List α) (hs : J s)
    (hP : P s) : Always step P s as ↔ Meets step Ok s as := by
  induction as generalizing s with
  | nil => simpa using hP
  | cons a as ih =>
      rw [always_cons, meets_cons]
      constructor
      · rintro ⟨-, h⟩
        have hok := (hstep s a hs hP).mp h.head
        exact ⟨hok, (ih (hJ s a hs hP hok) h.head).mp h⟩
      · rintro ⟨hok, h⟩
        have hP' := (hstep s a hs hP).mpr hok
        exact ⟨hP, (ih (hJ s a hs hP hok) hP').mpr h⟩

/-- The exact invariant rule for an invariant `P` of the states, a promise `Q` of the steps and a
side invariant `J` that is kept only while the condition is met. -/
theorem always_and_meets_iff_of_side {J : σ → Prop} {Q : σ → α → Prop}
    (hJ : ∀ s a, J s → P s → Ok s a → J (step s a))
    (hstep : ∀ s a, J s → P s → (P (step s a) ∧ Q s a ↔ Ok s a)) {s : σ} (as : List α) (hs : J s)
    (hP : P s) : Always step P s as ∧ Meets step Q s as ↔ Meets step Ok s as := by
  induction as generalizing s with
  | nil => simpa using hP
  | cons a as ih =>
      rw [always_cons, meets_cons, meets_cons]
      constructor
      · rintro ⟨⟨-, halways⟩, hq, hmeets⟩
        have hok := (hstep s a hs hP).mp ⟨halways.head, hq⟩
        exact ⟨hok, (ih (hJ s a hs hP hok) halways.head).mp ⟨halways, hmeets⟩⟩
      · rintro ⟨hok, hrest⟩
        obtain ⟨hP', hq⟩ := (hstep s a hs hP).mpr hok
        obtain ⟨halways, hmeets⟩ := (ih (hJ s a hs hP hok) hP').mpr hrest
        exact ⟨⟨hP, halways⟩, hq, hmeets⟩

/-- The rule for an invariant that every step keeps. -/
theorem always_and_meets_iff {I : σ → Prop} {Q : σ → α → Prop} (hI : ∀ s a, I s → I (step s a))
    (hstep : ∀ s a, I s → P s → (P (step s a) ∧ Q s a ↔ Ok s a)) {s : σ} (as : List α) (hs : I s)
    (hP : P s) : Always step P s as ∧ Meets step Q s as ↔ Meets step Ok s as :=
  always_and_meets_iff_of_side (fun s a h _ _ => hI s a h) hstep as hs hP

/-- Two conditions that agree on the steps of a run that meets a third one, in the states of an
invariant that such steps keep, are both met by it or both not. -/
theorem meets_congr_of_meets {I : σ → Prop} {Valid Ok' : σ → α → Prop}
    (hI : ∀ s a, I s → Valid s a → I (step s a))
    (hOk : ∀ s a, I s → Valid s a → (Ok s a ↔ Ok' s a)) {s : σ} {as : List α} (hs : I s)
    (h : Meets step Valid s as) : Meets step Ok s as ↔ Meets step Ok' s as := by
  induction as generalizing s with
  | nil => rfl
  | cons a as ih => rw [meets_cons, meets_cons, hOk s a hs h.1, ih (hI s a hs h.1) h.2]

/-- Two conditions that agree in the states of an invariant are met by the same runs. -/
theorem meets_congr_of_inv {I : σ → Prop} {Ok' : σ → α → Prop} (hI : ∀ s a, I s → I (step s a))
    (hOk : ∀ s a, I s → (Ok s a ↔ Ok' s a)) {s : σ} (as : List α) (hs : I s) :
    Meets step Ok s as ↔ Meets step Ok' s as := by
  induction as generalizing s with
  | nil => rfl
  | cons a as ih => rw [meets_cons, meets_cons, hOk s a hs, ih (hI s a hs)]

/-- A condition on the actions alone is met exactly if all of them meet it. -/
theorem meets_forall_iff {Ok : α → Prop} (step : σ → α → σ) (s : σ) (as : List α) :
    Meets step (fun _ a => Ok a) s as ↔ ∀ a ∈ as, Ok a := by
  induction as generalizing s with
  | nil => simp
  | cons a as ih => rw [meets_cons, ih, List.forall_mem_cons]

end AvSession.Lib
