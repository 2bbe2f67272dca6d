import AvSession.Common.Codes
import AvSession.Lib.Run
import AvSession.Lib.Slots
import Mathlib.Data.List.Nodup
import Mathlib.Data.List.Perm.Basic
import Mathlib.Logic.Function.Basic
import Mathlib.Algebra.Group.Nat.Defs

/-!
# Cast ids

The cast provider has a flag for each cast id and a map from the ids to its cast sessions. A session
that the cast engine has created gets its id in a task with two critical sections: the id is
reserved in the first and filed in the second.

* `HwCastProvider`, `startCastSession`, `stopCastSession`, `release`, `reserve`, `file`.
* `CastIdState` — the provider next to the tasks that are between their sections.
* `FlagsMatch` — the flags are those of the sessions in the map, if no task is in between.
* `Orderly` — what a step promises: fresh ids, indices in range, nothing changed by an error.
* `flagsMatch_iff` — the runs in which all of this holds.
-/

namespace AvSession.Cast

open AvSession.Common.Codes AvSession.Lib

/-! ## The provider -/

section Provider

/-- The identity of a `HwCastProviderSession`. -/
abbrev CastSession := ℕ

def maxCastSessionSize : ℕ := 256

/-- The map is its lookup. Source: hw_cast_provider.h, `HwCastProvider` -/
structure HwCastProvider where
  castFlag : List Bool
  hwCastProviderSessionMap : ℤ → Option CastSession
  isRelease : Bool
  mirrorCastHandle : ℤ

/-- What an operation leaves and returns, and the indices at which it has used the flags. -/
structure ProviderResult where
  provider : HwCastProvider
  returned : ℤ
  indices : List ℤ

namespace HwCastProvider

def init : HwCastProvider where
  castFlag := List.replicate maxCastSessionSize false
  hwCastProviderSessionMap := fun _ => none
  isRelease := false
  mirrorCastHandle := -1

variable (p : HwCastProvider)

/-- The lower half of the handle. -/
def mirrorCastId : ℤ := Int.bmod p.mirrorCastHandle (2 ^ 32)

/-- `created` and `initialised` are the answers of the cast engine.
Source: hw_cast_provider.cpp, `HwCastProvider::StartCastSession` -/
def startCastSession (session : CastSession) (created initialised : Bool) : ProviderResult :=
  if !created then ⟨p, AVSESSION_ERROR, []⟩
  else
    match firstFree p.castFlag with
    | none => ⟨p, AVSESSION_ERROR, []⟩
    | some castId =>
      let p := { p with castFlag := p.castFlag.set castId true }
      if initialised then
        ⟨{ p with
            hwCastProviderSessionMap :=
              Function.update p.hwCastProviderSessionMap castId (some session) },
          castId, [(castId : ℤ)]⟩
      else
        ⟨{ p with castFlag := p.castFlag.set castId false }, AVSESSION_ERROR,
          [(castId : ℤ), (castId : ℤ)]⟩

/-- Source: hw_cast_provider.cpp, `HwCastProvider::StopCastSession` -/
def stopCastSession (castId : ℤ) : ProviderResult :=
  if castId = p.mirrorCastId then ⟨p, 0, []⟩
  else
    match p.hwCastProviderSessionMap castId with
    | none => ⟨p, 0, []⟩
    | some _ =>
      ⟨{ p with
          hwCastProviderSessionMap := Function.update p.hwCastProviderSessionMap castId none
          castFlag := p.castFlag.set castId.toNat false },
        0, [castId]⟩

/-- Source: hw_cast_provider.cpp, `HwCastProvider::Release` -/
def release : HwCastProvider :=
  { p with
    hwCastProviderSessionMap := fun _ => none
    castFlag := []
    isRelease := true }

/-- The first section of the task: an id is reserved, if one is free.
Source: hw_cast_provider.cpp, `HwCastProvider::NotifyCastSessionCreated` -/
def reserve : HwCastProvider × Option ℕ :=
  match firstFree p.castFlag with
  | none => (p, none)
  | some castId => ({ p with castFlag := p.castFlag.set castId true }, some castId)

/-- The second section: the session is filed under the id.
Source: hw_cast_provider.cpp, `HwCastProvider::NotifyCastSessionCreated` -/
def file (castId : ℕ) (session : CastSession) : HwCastProvider :=
  { p with
    hwCastProviderSessionMap :=
      Function.update p.hwCastProviderSessionMap castId (some session) }

end HwCastProvider

end Provider

/-! ## Runs -/

section Runs

/-- The provider, and the tasks between their sections with what they have reserved. -/
structure CastIdState where
  provider : HwCastProvider
  reserved : List (ℕ × CastSession)

def CastIdState.init : CastIdState := ⟨.init, []⟩

/-- An operation, or one section of a task: the first one for a session, the second one of the task
with a number among those in between. -/
inductive CastIdOp
  | startCastSession (session : CastSession) (created initialised : Bool)
  | stopCastSession (castId : ℤ)
  | release
  | setMirrorCastHandle (castHandle : ℤ)
  | reserve (session : CastSession)
  | file (n : ℕ)

def CastIdOp.step (s : CastIdState) : CastIdOp → CastIdState
  | startCastSession session created initialised =>
    { s with provider := (s.provider.startCastSession session created initialised).provider }
  | stopCastSession castId => { s with provider := (s.provider.stopCastSession castId).provider }
  | release => { s with provider := s.provider.release }
  | setMirrorCastHandle castHandle =>
    { s with provider := { s.provider with mirrorCastHandle := castHandle } }
  | reserve session =>
    match s.provider.reserve with
    | (provider, none) => { s with provider }
    | (provider, some castId) => ⟨provider, s.reserved ++ [(castId, session)]⟩
  | file n =>
    match s.reserved[n]? with
    | none => s
    | some (castId, session) => ⟨s.provider.file castId session, s.reserved.eraseIdx n⟩

/-- An id has a session in the map. -/
def Filed (s : CastIdState) (castId : ℤ) : Prop :=
  s.provider.hwCastProviderSessionMap castId ≠ none

/-- If no task is between its sections, the flags that are set are those of the sessions. -/
def FlagsMatch (s : CastIdState) : Prop :=
  s.reserved = [] → ∀ castId, Taken s.provider.castFlag castId ↔ Filed s castId

/-- Nobody has the id, neither a session in the map nor a task that has reserved it. -/
def Unused (s : CastIdState) (castId : ℕ) : Prop :=
  ¬ Filed s castId ∧ ∀ r ∈ s.reserved, r.1 ≠ castId

/-- An id that is handed out is not in use, the flags are used at their own indices, and a start
that returns an error leaves flags and map as they were. -/
def Orderly (s : CastIdState) : CastIdOp → Prop
  | .startCastSession session created initialised =>
    let result := s.provider.startCastSession session created initialised
    (∀ castId : ℕ, result.returned = castId → Unused s castId) ∧
      (∀ i ∈ result.indices, InRange s.provider.castFlag i) ∧
      (result.returned = AVSESSION_ERROR →
        result.provider.castFlag = s.provider.castFlag ∧
          result.provider.hwCastProviderSessionMap = s.provider.hwCastProviderSessionMap)
  | .stopCastSession castId =>
    ∀ i ∈ (s.provider.stopCastSession castId).indices, InRange s.provider.castFlag i
  | .reserve _ => ∀ castId ∈ s.provider.reserve.2, Unused s castId
  | _ => True

/-- Once the flags are cleared, a task is not the last one to file its session, and no session that
is filed is stopped. -/
def NotAfterRelease (s : CastIdState) : CastIdOp → Prop
  | .stopCastSession castId =>
    s.provider.castFlag = [] → castId = s.provider.mirrorCastId ∨ ¬ Filed s castId
  | .file n => s.provider.castFlag = [] → n < s.reserved.length → 1 < s.reserved.length
  | _ => True

end Runs

/-! ## The flags and the map -/

section Slots

variable {s : CastIdState} {i : ℕ}

/-- While there are flags, those that are set are those of the sessions in the map and of the tasks
in between, and no id is used twice. -/
structure Slots (s : CastIdState) : Prop where
  taken_iff : ∀ castId, Taken s.provider.castFlag castId ↔
    Filed s castId ∨ ∃ r ∈ s.reserved, (r.1 : ℤ) = castId
  disjoint : ∀ r ∈ s.reserved, ¬ Filed s r.1
  nodup : (s.reserved.map Prod.fst).Nodup

def SlotsInv (s : CastIdState) : Prop := s.provider.castFlag ≠ [] → Slots s

/-- At the start no slot is taken. -/
theorem slotsInv_init : SlotsInv .init := by
  intro _
  refine ⟨fun castId => ?_, fun r hr => absurd hr List.not_mem_nil, List.nodup_nil⟩
  have hfree : ¬ Taken HwCastProvider.init.castFlag castId := by
    rintro ⟨-, htaken⟩
    have hmem := List.mem_of_getElem? htaken
    exact Bool.false_ne_true (List.eq_of_mem_replicate hmem).symm
  simp only [CastIdState.init]
  refine iff_of_false hfree ?_
  rintro (hfiled | ⟨r, hr, -⟩)
  · exact hfiled rfl
  · exact List.not_mem_nil hr

/-- An id whose slot is free is not in use. -/
theorem SlotsInv.unused (h : SlotsInv s) (hfree : firstFree s.provider.castFlag = some i) :
    Unused s i := by
  have hnot := not_taken_of_firstFree hfree
  rw [(h (ne_nil_of_firstFree hfree)).taken_iff] at hnot
  exact ⟨fun hfiled => hnot (Or.inl hfiled), fun r hr hid => hnot (Or.inr ⟨r, hr, by omega⟩)⟩

/-- A session in the map is filed. -/
theorem filed_of_some {castId : ℤ} {session : CastSession}
    (hmap : s.provider.hwCastProviderSessionMap castId = some session) : Filed s castId := by
  rw [Filed, hmap]
  exact Option.some_ne_none session

/-- A session is filed under an id at once. -/
theorem SlotsInv.start (h : SlotsInv s) (session : CastSession) (created initialised : Bool) :
    SlotsInv ((CastIdOp.startCastSession session created initialised).step s) := by
  rw [CastIdOp.step, HwCastProvider.startCastSession]
  by_cases hcreated : created = true
  · rw [if_neg (by simp [hcreated])]
    rcases hfree : firstFree s.provider.castFlag with _ | castId
    · exact h
    · dsimp only
      have hslots := h (ne_nil_of_firstFree hfree)
      have hunused := h.unused hfree
      by_cases hinit : initialised = true
      · rw [if_pos hinit]
        intro _
        refine ⟨fun k => ?_, fun r hr => ?_, hslots.nodup⟩
        · show Taken (s.provider.castFlag.set castId true) k ↔
            Function.update s.provider.hwCastProviderSessionMap castId (some session) k ≠ none ∨ _
          rw [taken_take (lt_length_of_firstFree hfree), hslots.taken_iff, Filed]
          by_cases hk : k = castId
          · subst hk
            simp
          · simp [hk]
        · show ¬ Function.update s.provider.hwCastProviderSessionMap castId (some session) r.1 ≠ none
          have hne : (r.1 : ℤ) ≠ castId := by
            have := hunused.2 r hr
            omega
          rw [Function.update_of_ne hne]
          exact hslots.disjoint r hr
      · rw [if_neg hinit]
        intro hflags
        refine ⟨fun k => ?_, hslots.disjoint, hslots.nodup⟩
        show Taken ((s.provider.castFlag.set castId true).set castId false) k ↔ _
        rw [free_take hfree]
        exact hslots.taken_iff k
  · rw [if_pos (by simp [hcreated])]
    exact h

/-- Stopping a cast frees its slot. -/
theorem SlotsInv.stop (h : SlotsInv s) (castId : ℤ) :
    SlotsInv ((CastIdOp.stopCastSession castId).step s) := by
  rw [CastIdOp.step, HwCastProvider.stopCastSession]
  by_cases hmirror : castId = s.provider.mirrorCastId
  · rw [if_pos hmirror]
    exact h
  · rw [if_neg hmirror]
    rcases hmap : s.provider.hwCastProviderSessionMap castId with _ | session
    · exact h
    · intro hflags
      have hslots : Slots s := by
        apply h
        intro hnil
        apply hflags
        simp [hnil]
      have hfiled : Filed s castId := filed_of_some hmap
      have hlow := ((hslots.taken_iff castId).mpr (Or.inl hfiled)).1
      refine ⟨fun k => ?_, fun r hr => ?_, hslots.nodup⟩
      · show Taken (s.provider.castFlag.set castId.toNat false) k ↔
          Function.update s.provider.hwCastProviderSessionMap castId none k ≠ none ∨ _
        rw [taken_free hlow, hslots.taken_iff, Filed]
        by_cases hk : k = castId
        · subst hk
          simp only [ne_eq, not_true_eq_false, false_and, Function.update_self, false_or,
            false_iff]
          rintro ⟨r, hr, rfl⟩
          exact hslots.disjoint r hr hfiled
        · simp [hk]
      · show ¬ Function.update s.provider.hwCastProviderSessionMap castId none r.1 ≠ none
        by_cases hr' : (r.1 : ℤ) = castId
        · simp [hr']
        · rw [Function.update_of_ne hr']
          exact hslots.disjoint r hr

/-- A reservation keeps the slots. -/
theorem SlotsInv.reserve (h : SlotsInv s) (session : CastSession) :
    SlotsInv ((CastIdOp.reserve session).step s) := by
  rw [CastIdOp.step, HwCastProvider.reserve]
  rcases hfree : firstFree s.provider.castFlag with _ | castId
  · exact h
  · have hslots := h (ne_nil_of_firstFree hfree)
    have hunused := h.unused hfree
    intro _
    refine ⟨fun k => ?_, fun r hr => ?_, ?_⟩
    · show Taken (s.provider.castFlag.set castId true) k ↔
        Filed s k ∨ ∃ r ∈ s.reserved ++ [(castId, session)], (r.1 : ℤ) = k
      rw [taken_take (lt_length_of_firstFree hfree), hslots.taken_iff]
      simp only [List.mem_append, List.mem_singleton, or_and_right, exists_or, exists_eq_left]
      constructor
      · rintro (hk | hk | hk)
        · exact Or.inr (Or.inr hk.symm)
        · exact Or.inl hk
        · exact Or.inr (Or.inl hk)
      · rintro (hk | hk | hk)
        · exact Or.inr (Or.inl hk)
        · exact Or.inr (Or.inr hk)
        · exact Or.inl hk.symm
    · show ¬ Filed s r.1
      rcases List.mem_append.mp hr with hold | hnew
      · exact hslots.disjoint r hold
      · rw [List.mem_singleton.mp hnew]
        exact hunused.1
    · show ((s.reserved ++ [(castId, session)]).map Prod.fst).Nodup
      rw [List.map_append, List.nodup_append]
      refine ⟨hslots.nodup, List.nodup_singleton _, ?_⟩
      intro x hx y hy
      obtain ⟨r, hr, rfl⟩ := List.mem_map.mp hx
      rw [List.map_singleton, List.mem_singleton] at hy
      rw [hy]
      exact hunused.2 r hr

/-- The task that files its session is no longer between its sections, the others are. -/
theorem exists_reserved_iff {reserved : List (ℕ × CastSession)} {n : ℕ} {r : ℕ × CastSession}
    (hr : reserved[n]? = some r) (k : ℤ) :
    (∃ r' ∈ reserved, (r'.1 : ℤ) = k) ↔
      (r.1 : ℤ) = k ∨ ∃ r' ∈ reserved.eraseIdx n, (r'.1 : ℤ) = k := by
  obtain ⟨hn, rfl⟩ := List.getElem?_eq_some_iff.mp hr
  have hperm := List.getElem_cons_eraseIdx_perm hn
  simp only [← hperm.mem_iff, List.mem_cons, or_and_right, exists_or, exists_eq_left]

/-- Filing a reserved session keeps the slots. -/
theorem SlotsInv.file (h : SlotsInv s) (n : ℕ) : SlotsInv ((CastIdOp.file n).step s) := by
  rw [CastIdOp.step]
  rcases hr : s.reserved[n]? with _ | ⟨castId, session⟩
  · exact h
  · intro hflags
    have hslots := h hflags
    obtain ⟨hn, hget⟩ := List.getElem?_eq_some_iff.mp hr
    have hperm := List.getElem_cons_eraseIdx_perm hn
    have hnodup := (hperm.map Prod.fst).nodup_iff.mpr hslots.nodup
    rw [List.map_cons, List.nodup_cons, hget] at hnodup
    refine ⟨fun k => ?_, fun r' hr' => ?_, hnodup.2⟩
    · show Taken s.provider.castFlag k ↔
        Function.update s.provider.hwCastProviderSessionMap castId (some session) k ≠ none ∨
          ∃ r ∈ s.reserved.eraseIdx n, (r.1 : ℤ) = k
      rw [hslots.taken_iff, exists_reserved_iff hr, Filed]
      by_cases hk : k = castId
      · subst hk
        simp
      · rw [Function.update_of_ne hk, or_iff_right (fun heq : (castId : ℤ) = k => hk heq.symm)]
    · show ¬ Function.update s.provider.hwCastProviderSessionMap castId (some session) r'.1 ≠ none
      have hne : (r'.1 : ℤ) ≠ castId := by
        intro heq
        exact hnodup.1 (List.mem_map.mpr ⟨r', hr', by omega⟩)
      rw [Function.update_of_ne hne]
      exact hslots.disjoint r' (hperm.mem_iff.mp (List.mem_cons_of_mem _ hr'))

/-- Every operation keeps the slots. -/
theorem SlotsInv.step (h : SlotsInv s) (op : CastIdOp) : SlotsInv (op.step s) := by
  cases op with
  | startCastSession session created initialised => exact h.start session created initialised
  | stopCastSession castId => exact h.stop castId
  | release => exact fun hflags => absurd rfl hflags
  | setMirrorCastHandle castHandle => exact fun hflags => ⟨(h hflags).1, (h hflags).2, (h hflags).3⟩
  | reserve session => exact h.reserve session
  | file n => exact h.file n

end Slots

/-! ## Orderly runs -/

section Orderly

variable {s : CastIdState}

/-- While there are flags, they match the map. -/
theorem SlotsInv.flagsMatch (h : SlotsInv s) (hflags : s.provider.castFlag ≠ []) :
    FlagsMatch s := by
  intro hnone castId
  rw [(h hflags).taken_iff, hnone]
  simp

/-- A start is always in order. -/
theorem orderly_start (h : SlotsInv s) (session : CastSession) (created initialised : Bool) :
    Orderly s (.startCastSession session created initialised) := by
  rw [Orderly, HwCastProvider.startCastSession]
  by_cases hcreated : created = true
  · rw [if_neg (by simp [hcreated])]
    rcases hfree : firstFree s.provider.castFlag with _ | castId
    · exact ⟨fun k hk => by simp [AVSESSION_ERROR] at hk, by simp,
        fun _ => ⟨rfl, rfl⟩⟩
    · have hrange : InRange s.provider.castFlag castId :=
        ⟨by omega, by exact_mod_cast lt_length_of_firstFree hfree⟩
      dsimp only
      by_cases hinit : initialised = true
      · rw [if_pos hinit]
        refine ⟨fun k hk => ?_, by simpa using hrange, fun herror => ?_⟩
        · change (castId : ℤ) = k at hk
          obtain rfl : castId = k := by omega
          exact h.unused hfree
        · change (castId : ℤ) = -1 at herror
          omega
      · rw [if_neg hinit]
        refine ⟨fun k hk => ?_, by simpa using hrange, fun _ => ⟨free_take hfree, rfl⟩⟩
        change (-1 : ℤ) = k at hk
        omega
  · rw [if_pos (by simp [hcreated])]
    refine ⟨fun k hk => ?_, by simp, fun _ => ⟨rfl, rfl⟩⟩
    change (-1 : ℤ) = k at hk
    omega

/-- A reservation is always in order. -/
theorem orderly_reserve (h : SlotsInv s) (session : CastSession) :
    Orderly s (.reserve session) := by
  rw [Orderly, HwCastProvider.reserve]
  intro castId hcastId
  rcases hfree : firstFree s.provider.castFlag with _ | k
  · simp [hfree] at hcastId
  · simp only [hfree, Option.mem_some_iff] at hcastId
    subst hcastId
    exact h.unused hfree

/-- A session is stopped at its own index, unless the flags are cleared. -/
theorem orderly_stop_iff (h : SlotsInv s) (castId : ℤ) :
    Orderly s (.stopCastSession castId) ↔ NotAfterRelease s (.stopCastSession castId) := by
  rw [Orderly, NotAfterRelease, HwCastProvider.stopCastSession, Filed]
  by_cases hmirror : castId = s.provider.mirrorCastId
  · simp [hmirror]
  · rw [if_neg hmirror]
    rcases hmap : s.provider.hwCastProviderSessionMap castId with _ | session
    · simp
    · have hfiled : Filed s castId := filed_of_some hmap
      constructor
      · intro hrange hnil
        have hin := hrange castId (List.mem_singleton.mpr rfl)
        rw [hnil, InRange] at hin
        simp at hin
        omega
      · intro hok i hi
        rw [List.mem_singleton.mp hi]
        have hflags : s.provider.castFlag ≠ [] := by
          intro hnil
          rcases hok hnil with heq | hnot
          · exact hmirror heq
          · exact hnot (Option.some_ne_none session)
        exact (((h hflags).taken_iff castId).mpr (Or.inl hfiled)).inRange

/-- Without flags a slot is neither taken nor free, so an entry in the map is not matched. -/
theorem flagsMatch_nil_iff (hnil : s.provider.castFlag = []) :
    FlagsMatch s ↔ (s.reserved = [] → ∀ castId, ¬ Filed s castId) := by
  simp [FlagsMatch, hnil]

/-- A session that is filed has no flag once they are cleared. -/
theorem flagsMatch_file_iff (hnil : s.provider.castFlag = []) (n : ℕ) (h : FlagsMatch s) :
    FlagsMatch ((CastIdOp.file n).step s) ↔ NotAfterRelease s (.file n) := by
  rw [CastIdOp.step, NotAfterRelease]
  rcases hr : s.reserved[n]? with _ | ⟨castId, session⟩
  · have hlen := List.getElem?_eq_none_iff.mp hr
    exact iff_of_true h fun _ hn => absurd hn (by omega)
  · obtain ⟨hn, -⟩ := List.getElem?_eq_some_iff.mp hr
    have hlen : (s.reserved.eraseIdx n).length = s.reserved.length - 1 :=
      List.length_eraseIdx_of_lt hn
    rw [flagsMatch_nil_iff (s := ⟨s.provider.file castId session, s.reserved.eraseIdx n⟩) hnil]
    have hfiled : Filed ⟨s.provider.file castId session, s.reserved.eraseIdx n⟩ castId := by
      simp [Filed, HwCastProvider.file]
    constructor
    · intro hmatch _ _
      by_contra hone
      have hlast : s.reserved.eraseIdx n = [] := List.eq_nil_of_length_eq_zero (by omega)
      exact hmatch hlast castId hfiled
    · intro hmore hlast
      have hone := hmore hnil hn
      dsimp only at hlast
      rw [hlast, List.length_nil] at hlen
      omega

/-- Only a release clears the flags. -/
theorem length_castFlag_step (s : CastIdState) {op : CastIdOp} (hop : op ≠ .release) :
    (op.step s).provider.castFlag.length = s.provider.castFlag.length := by
  cases op with
  | startCastSession session created initialised =>
    rw [CastIdOp.step, HwCastProvider.startCastSession]
    rcases firstFree s.provider.castFlag with _ | castId
    · split_ifs <;> rfl
    · split_ifs <;> simp
  | stopCastSession castId =>
    rw [CastIdOp.step, HwCastProvider.stopCastSession]
    rcases s.provider.hwCastProviderSessionMap castId with _ | session
    · split_ifs <;> rfl
    · split_ifs <;> simp
  | release => exact absurd rfl hop
  | setMirrorCastHandle castHandle => rfl
  | reserve session =>
    rw [CastIdOp.step, HwCastProvider.reserve]
    rcases firstFree s.provider.castFlag with _ | castId
    · rfl
    · exact List.length_set
  | file n =>
    rw [CastIdOp.step]
    rcases s.reserved[n]? with _ | r
    · rfl
    · rfl

/-- An operation that finds flags leaves them in agreement with the map. -/
theorem SlotsInv.flagsMatch_step (h : SlotsInv s) (hflags : s.provider.castFlag ≠ [])
    {op : CastIdOp} (hop : op ≠ .release) : FlagsMatch (op.step s) := by
  apply (h.step op).flagsMatch
  intro hnil
  apply hflags
  have hlen := length_castFlag_step s hop
  rw [hnil] at hlen
  exact List.eq_nil_of_length_eq_zero hlen.symm

/-- A release leaves neither flags nor sessions. -/
theorem flagsMatch_release (s : CastIdState) : FlagsMatch (CastIdOp.release.step s) := by
  intro _ castId
  simp [CastIdOp.step, HwCastProvider.release, Filed]

/-- Without flags no id is handed out. -/
theorem startCastSession_nil (hnil : s.provider.castFlag = []) (session : CastSession)
    (created initialised : Bool) :
    (CastIdOp.startCastSession session created initialised).step s = s := by
  rw [CastIdOp.step, HwCastProvider.startCastSession, hnil, firstFree_nil]
  split_ifs <;> rfl

/-- Without slots nothing is reserved. -/
theorem reserve_nil (hnil : s.provider.castFlag = []) (session : CastSession) :
    (CastIdOp.reserve session).step s = s := by
  rw [CastIdOp.step, HwCastProvider.reserve, hnil, firstFree_nil]

/-- A stop takes an entry out of the map at most. -/
theorem flagsMatch_stop_nil (hnil : s.provider.castFlag = []) (h : FlagsMatch s) (castId : ℤ) :
    FlagsMatch ((CastIdOp.stopCastSession castId).step s) := by
  have hnil' : ((CastIdOp.stopCastSession castId).step s).provider.castFlag = [] := by
    have hlen := length_castFlag_step s (show CastIdOp.stopCastSession castId ≠ .release by simp)
    rw [hnil] at hlen
    exact List.eq_nil_of_length_eq_zero hlen
  rw [flagsMatch_nil_iff hnil] at h
  rw [flagsMatch_nil_iff hnil']
  intro hnone k hk
  apply h hnone k
  rw [CastIdOp.step, HwCastProvider.stopCastSession] at hk
  split_ifs at hk
  · exact hk
  · rcases hmap : s.provider.hwCastProviderSessionMap castId with _ | session
    · rw [hmap] at hk
      exact hk
    · rw [hmap] at hk
      simp only [Filed] at hk
      by_cases hkey : k = castId
      · simp [hkey] at hk
      · rwa [Function.update_of_ne hkey] at hk

/-- What one step keeps and promises. -/
theorem flagsMatch_step_iff (h : SlotsInv s) (hmatch : FlagsMatch s) (op : CastIdOp) :
    FlagsMatch (op.step s) ∧ Orderly s op ↔ NotAfterRelease s op := by
  cases op with
  | startCastSession session created initialised =>
    refine iff_of_true ⟨?_, orderly_start h session created initialised⟩ trivial
    by_cases hnil : s.provider.castFlag = []
    · rwa [startCastSession_nil hnil]
    · exact h.flagsMatch_step hnil (by simp)
  | stopCastSession castId =>
    rw [orderly_stop_iff h, and_iff_right]
    by_cases hnil : s.provider.castFlag = []
    · exact flagsMatch_stop_nil hnil hmatch castId
    · exact h.flagsMatch_step hnil (by simp)
  | release => exact iff_of_true ⟨flagsMatch_release s, trivial⟩ trivial
  | setMirrorCastHandle castHandle => exact iff_of_true ⟨hmatch, trivial⟩ trivial
  | reserve session =>
    refine iff_of_true ⟨?_, orderly_reserve h session⟩ trivial
    by_cases hnil : s.provider.castFlag = []
    · rwa [reserve_nil hnil]
    · exact h.flagsMatch_step hnil (by simp)
  | file n =>
    by_cases hnil : s.provider.castFlag = []
    · rw [flagsMatch_file_iff hnil n hmatch]
      exact and_iff_left trivial
    · exact iff_of_true ⟨h.flagsMatch_step hnil (by simp), trivial⟩ fun h => absurd h hnil

/-- **Cast ids.** Flags and map agree whenever no task is between its sections, every id handed out
is unused, every index is in range and errors leave no trace, exactly in the runs in which no
session is filed last of the tasks, or stopped, once the flags are cleared. -/
theorem flagsMatch_iff (ops : List CastIdOp) :
    Always CastIdOp.step FlagsMatch .init ops ∧ Meets CastIdOp.step Orderly .init ops ↔
      Meets CastIdOp.step NotAfterRelease .init ops := by
  have hflags : CastIdState.init.provider.castFlag ≠ [] := by decide
  exact always_and_meets_iff (I := SlotsInv) (fun s op h => h.step op)
    (fun s op h hmatch => flagsMatch_step_iff h hmatch op) ops slotsInv_init
    (slotsInv_init.flagsMatch hflags)

/-- A session reserved before a release is filed after it, and then stopped. -/
theorem not_flagsMatch_after_release :
    ¬ (Always CastIdOp.step FlagsMatch .init
        [.reserve 0, .release, .file 0, .stopCastSession 0] ∧
      Meets CastIdOp.step Orderly .init
        [.reserve 0, .release, .file 0, .stopCastSession 0]) := by
  rintro ⟨⟨-, -, -, hmatch, -⟩, -⟩
  have hfiled : Filed ((CastIdOp.file 0).step
      (CastIdOp.release.step ((CastIdOp.reserve 0).step .init))) 0 := Option.some_ne_none 0
  exact not_taken_nil 0 ((hmatch rfl 0).mpr hfiled)

end Orderly

end AvSession.Cast
