import AvSession.Common.Codes
import Mathlib.Data.List.Nodup
import AvSession.Lib.Run
import AvSession.Service.FrontSession

/-!
# Groups of cast commands

The cast commands of a session are added and deleted one by one or by a command that stands for a
group. A group is added when its first command is missing.

* `CastCommands` — the lists of an item, and whether it has a cast controller.
* `initializeCastCommands`, `addSupportCastCommand`, `deleteSupportCastCommand`,
  `addSessionCommandToCast`, `removeSessionCommandFromCast`.
* `nodup_and_grouped_iff` — the runs along which no command is twice in the list and an added group
  is there as a whole.
-/

namespace AvSession.Cast

open AvSession.Common.Codes AvSession.Lib AvSession.Service

/-! ## Functions -/

section Functions

/-- Source: avsession_item.h, `AVSessionItem` -/
structure CastCommands where
  supportedCmd : List ℤ
  supportedCastCmds : List ℤ
  hasCastControllerProxy : Bool
deriving DecidableEq

def CastCommands.init : CastCommands := ⟨[], [], false⟩

/-- Commands are pushed behind the list unless the first of them is in it. -/
def pushMissing (first : ℤ) (others l : List ℤ) : List ℤ :=
  if first ∈ l then l else l ++ first :: others

namespace CastCommands

variable (i : CastCommands) (cmd : ℤ)

/-- Source: avsession_item.cpp, `AVSessionItem::SessionCommandToCastCommand` -/
def sessionCommandToCastCommand (cmd : ℤ) : ℤ :=
  if cmd = SESSION_CMD_SET_LOOP_MODE then CAST_CONTROL_CMD_SET_LOOP_MODE
  else CAST_CONTROL_CMD_INVALID

/-- Source: avsession_item.cpp, `AVSessionItem::AddSessionCommandToCast` -/
def addSessionCommandToCast : CastCommands :=
  if cmd ≠ SESSION_CMD_SET_LOOP_MODE then i
  else if i.hasCastControllerProxy then
    { i with
      supportedCastCmds := pushMissing (sessionCommandToCastCommand cmd) [] i.supportedCastCmds }
  else i

/-- Source: avsession_item.cpp, `AVSessionItem::RemoveSessionCommandFromCast` -/
def removeSessionCommandFromCast : CastCommands :=
  if cmd ≠ SESSION_CMD_SET_LOOP_MODE then i
  else if i.hasCastControllerProxy then
    { i with
      supportedCastCmds := i.supportedCastCmds.filter (· ≠ sessionCommandToCastCommand cmd) }
  else i

/-- Source: avsession_item.cpp, `AVSessionItem::InitializeCastCommands` -/
def initializeCastCommands : CastCommands :=
  let l := pushMissing CAST_CONTROL_CMD_SET_VOLUME [] i.supportedCastCmds
  let l := pushMissing CAST_CONTROL_CMD_SET_SPEED [] l
  let l := pushMissing CAST_CONTROL_CMD_SEEK
    [CAST_CONTROL_CMD_FAST_FORWARD, CAST_CONTROL_CMD_REWIND] l
  let i := { i with supportedCastCmds := l }
  if SESSION_CMD_SET_LOOP_MODE ∈ i.supportedCmd then
    i.addSessionCommandToCast SESSION_CMD_SET_LOOP_MODE
  else i

/-- The three branches differ in the commands that are pushed and in the one that is looked up.
Source: avsession_item.cpp, `AVSessionItem::AddSupportCastCommand` -/
def addSupportCastCommand : CastCommands × ℤ :=
  if cmd ≤ CAST_CONTROL_CMD_INVALID ∨ CAST_CONTROL_CMD_MAX ≤ cmd then (i, AVSESSION_ERROR)
  else
    match castCommands cmd with
    | [] => (i, AVSESSION_SUCCESS)
    | first :: others =>
      ({ i with supportedCastCmds := pushMissing first others i.supportedCastCmds },
        AVSESSION_SUCCESS)

/-- Source: avsession_item.cpp, `AVSessionItem::DeleteSupportCastCommand` -/
def deleteSupportCastCommand : CastCommands × ℤ :=
  if cmd ≤ CAST_CONTROL_CMD_INVALID ∨ CAST_CONTROL_CMD_MAX ≤ cmd then (i, AVSESSION_ERROR)
  else
    ({ i with
      supportedCastCmds :=
        (castCommands cmd).foldl (fun l c => l.filter (· ≠ c)) i.supportedCastCmds },
      AVSESSION_SUCCESS)

end CastCommands

/-- A call of one of the functions, or a change of what they read. -/
inductive CommandOp
  | initializeCastCommands
  | addSupportCastCommand (cmd : ℤ)
  | deleteSupportCastCommand (cmd : ℤ)
  | addSessionCommandToCast (cmd : ℤ)
  | removeSessionCommandFromCast (cmd : ℤ)
  | setSupportedCmd (cmds : List ℤ)
  | setCastControllerProxy (hasProxy : Bool)
  | clear

def CommandOp.step (i : CastCommands) : CommandOp → CastCommands
  | initializeCastCommands => i.initializeCastCommands
  | addSupportCastCommand cmd => (i.addSupportCastCommand cmd).1
  | deleteSupportCastCommand cmd => (i.deleteSupportCastCommand cmd).1
  | addSessionCommandToCast cmd => i.addSessionCommandToCast cmd
  | removeSessionCommandFromCast cmd => i.removeSessionCommandFromCast cmd
  | setSupportedCmd cmds => { i with supportedCmd := cmds }
  | setCastControllerProxy hasProxy => { i with hasCastControllerProxy := hasProxy }
  | clear => { i with supportedCastCmds := [] }

end Functions

/-! ## Pushing and deleting -/

section Lists

variable {first c : ℤ} {others l : List ℤ}

/-- What is pushed as a group stays without duplicates exactly if the rest of the group is missing
with its first command. -/
theorem nodup_pushMissing_iff (hl : l.Nodup) (hgroup : (first :: others).Nodup) :
    (pushMissing first others l).Nodup ↔ (first ∉ l → ∀ c ∈ others, c ∉ l) := by
  rw [pushMissing]
  by_cases hfirst : first ∈ l
  · simp [hfirst, hl]
  · rw [if_neg hfirst, List.nodup_append']
    simp only [hl, hgroup, true_and, hfirst, not_false_eq_true, forall_const]
    constructor
    · intro hdisjoint c hc hcl
      exact hdisjoint hcl (List.mem_cons_of_mem _ hc)
    · intro hothers c hcl hc
      rcases List.mem_cons.mp hc with rfl | hc
      · exact hfirst hcl
      · exact hothers c hc hcl

/-- Pushing one missing command repeats none. -/
theorem nodup_pushMissing_nil (hl : l.Nodup) : (pushMissing first [] l).Nodup := by
  rw [nodup_pushMissing_iff hl (List.nodup_singleton _)]
  simp

/-- The pushed command is there afterwards. -/
theorem mem_pushMissing_nil : c ∈ pushMissing first [] l ↔ c ∈ l ∨ c = first := by
  rw [pushMissing]
  by_cases hfirst : first ∈ l
  · simp only [hfirst, if_true]
    constructor
    · exact Or.inl
    · rintro (h | rfl)
      · exact h
      · exact hfirst
  · simp [hfirst]

/-- A group is deleted with all its commands. -/
theorem mem_deleteGroup :
    c ∈ others.foldl (fun l c => l.filter (· ≠ c)) l ↔ c ∈ l ∧ c ∉ others := by
  induction others generalizing l with
  | nil => simp
  | cons d ds ih =>
      rw [List.foldl_cons, ih, List.mem_filter, decide_eq_true_iff, List.mem_cons]
      tauto

/-- Deleting repeats no command. -/
theorem nodup_deleteGroup (hl : l.Nodup) :
    (others.foldl (fun l c => l.filter (· ≠ c)) l).Nodup := by
  induction others generalizing l with
  | nil => exact hl
  | cons d ds ih => exact ih (hl.filter _)

/-- No group lists a command twice. -/
theorem nodup_castCommands (cmd : ℤ) : (castCommands cmd).Nodup := by
  rw [castCommands]
  split
  · decide
  · split
    · decide
    · exact List.nodup_singleton cmd

end Lists

/-! ## Runs -/

section Runs

variable {i : CastCommands} {cmd : ℤ}

/-- What a call promises: a group that was added with success is in the list as a whole, a group
that was deleted is not there in any part. -/
def Grouped (i : CastCommands) : CommandOp → Prop
  | .addSupportCastCommand cmd => (i.addSupportCastCommand cmd).2 = AVSESSION_SUCCESS →
    ∀ c ∈ castCommands cmd, c ∈ (i.addSupportCastCommand cmd).1.supportedCastCmds
  | .deleteSupportCastCommand cmd => (i.deleteSupportCastCommand cmd).2 = AVSESSION_SUCCESS →
    ∀ c ∈ castCommands cmd, c ∉ (i.deleteSupportCastCommand cmd).1.supportedCastCmds
  | _ => True

/-- A group is added only when all of it or none of it is in the list. -/
def WholeGroups (i : CastCommands) : CommandOp → Prop
  | .addSupportCastCommand cmd => isSupportCastCommand cmd = true →
    ∀ c ∈ castCommands cmd, ∀ c' ∈ castCommands cmd,
      c ∈ i.supportedCastCmds → c' ∈ i.supportedCastCmds
  | .initializeCastCommands => CAST_CONTROL_CMD_SEEK ∉ i.supportedCastCmds →
    CAST_CONTROL_CMD_FAST_FORWARD ∉ i.supportedCastCmds ∧
      CAST_CONTROL_CMD_REWIND ∉ i.supportedCastCmds
  | _ => True

/-- A command in range has a group with a first command. -/
theorem castCommands_eq_cons (cmd : ℤ) :
    ∃ first others, castCommands cmd = first :: others ∧ (first :: others).Nodup := by
  have hnodup := nodup_castCommands cmd
  rcases hcommands : castCommands cmd with _ | ⟨first, others⟩
  · simp only [castCommands] at hcommands
    split at hcommands
    · contradiction
    · split at hcommands <;> contradiction
  · rw [hcommands] at hnodup
    exact ⟨first, others, rfl, hnodup⟩

/-- The supported commands are those within the bounds. -/
theorem isSupportCastCommand_iff : isSupportCastCommand cmd = true ↔
    ¬ (cmd ≤ CAST_CONTROL_CMD_INVALID ∨ CAST_CONTROL_CMD_MAX ≤ cmd) := by
  rw [isSupportCastCommand, decide_eq_true_iff]
  omega

/-- All of a group or none of it, seen from its first command. -/
theorem whole_iff {first : ℤ} {others l : List ℤ} :
    (∀ c ∈ first :: others, ∀ c' ∈ first :: others, c ∈ l → c' ∈ l) ↔
      (first ∉ l → ∀ c ∈ others, c ∉ l) ∧ (first ∈ l → ∀ c ∈ others, c ∈ l) := by
  constructor
  · intro h
    constructor
    · intro hfirst c hc hcl
      exact hfirst (h c (List.mem_cons_of_mem _ hc) first List.mem_cons_self hcl)
    · intro hfirst c hc
      exact h first List.mem_cons_self c (List.mem_cons_of_mem _ hc) hfirst
  · rintro ⟨hnone, hall⟩ c hc c' hc' hcl
    have hfirst : first ∈ l := by
      by_contra hfirst
      rcases List.mem_cons.mp hc with rfl | hc
      · exact hfirst hcl
      · exact hnone hfirst c hc hcl
    rcases List.mem_cons.mp hc' with rfl | hc'
    · exact hfirst
    · exact hall hfirst c' hc'

/-- The whole group is there behind the push exactly if the rest was there with its first
command. -/
theorem forall_mem_pushMissing_iff {first : ℤ} {others l : List ℤ} :
    (∀ c ∈ first :: others, c ∈ pushMissing first others l) ↔
      (first ∈ l → ∀ c ∈ others, c ∈ l) := by
  rw [pushMissing]
  by_cases hfirst : first ∈ l
  · simp [hfirst]
  · simp only [hfirst, if_false, false_imp_iff, iff_true]
    intro c hc
    exact List.mem_append_right l hc

/-- An addition keeps the list in order exactly when its group is whole or missing. -/
theorem add_iff (hi : i.supportedCastCmds.Nodup) (cmd : ℤ) :
    (CommandOp.step i (.addSupportCastCommand cmd)).supportedCastCmds.Nodup ∧
        Grouped i (.addSupportCastCommand cmd) ↔
      WholeGroups i (.addSupportCastCommand cmd) := by
  simp only [CommandOp.step, Grouped, WholeGroups, isSupportCastCommand_iff,
    CastCommands.addSupportCastCommand]
  by_cases hrange : cmd ≤ CAST_CONTROL_CMD_INVALID ∨ CAST_CONTROL_CMD_MAX ≤ cmd
  · simp only [hrange, if_true, not_true_eq_false, false_imp_iff, iff_true]
    refine ⟨hi, ?_⟩
    intro hcode
    simp [AVSESSION_ERROR, AVSESSION_SUCCESS] at hcode
  · obtain ⟨first, others, hgroup, hnodup⟩ := castCommands_eq_cons cmd
    simp only [hrange, if_false, not_false_eq_true, forall_const, hgroup]
    rw [nodup_pushMissing_iff hi hnodup, forall_mem_pushMissing_iff, whole_iff]

/-- A deletion always keeps the list in order. -/
theorem delete_promise (hi : i.supportedCastCmds.Nodup) (cmd : ℤ) :
    (CommandOp.step i (.deleteSupportCastCommand cmd)).supportedCastCmds.Nodup ∧
      Grouped i (.deleteSupportCastCommand cmd) := by
  simp only [CommandOp.step, Grouped, CastCommands.deleteSupportCastCommand]
  by_cases hrange : cmd ≤ CAST_CONTROL_CMD_INVALID ∨ CAST_CONTROL_CMD_MAX ≤ cmd
  · simp only [hrange, if_true]
    refine ⟨hi, ?_⟩
    intro hcode
    simp [AVSESSION_ERROR, AVSESSION_SUCCESS] at hcode
  · simp only [hrange, if_false, forall_const]
    refine ⟨nodup_deleteGroup hi, ?_⟩
    intro c hc hmem
    exact (mem_deleteGroup.mp hmem).2 hc

/-- Adding a session's command repeats none. -/
theorem nodup_addSessionCommandToCast (hi : i.supportedCastCmds.Nodup) (cmd : ℤ) :
    (i.addSessionCommandToCast cmd).supportedCastCmds.Nodup := by
  rw [CastCommands.addSessionCommandToCast]
  split
  · exact hi
  · split
    · exact nodup_pushMissing_nil hi
    · exact hi

/-- Removing a session's command repeats none. -/
theorem nodup_removeSessionCommandFromCast (hi : i.supportedCastCmds.Nodup) (cmd : ℤ) :
    (i.removeSessionCommandFromCast cmd).supportedCastCmds.Nodup := by
  rw [CastCommands.removeSessionCommandFromCast]
  split
  · exact hi
  · split
    · exact hi.filter _
    · exact hi

/-- The initial commands repeat none exactly when the seek command comes with its group or new. -/
theorem initialize_iff (hi : i.supportedCastCmds.Nodup) :
    i.initializeCastCommands.supportedCastCmds.Nodup ↔ WholeGroups i .initializeCastCommands := by
  have hbase : (pushMissing CAST_CONTROL_CMD_SET_SPEED []
      (pushMissing CAST_CONTROL_CMD_SET_VOLUME [] i.supportedCastCmds)).Nodup :=
    nodup_pushMissing_nil (nodup_pushMissing_nil hi)
  have hgroup : [CAST_CONTROL_CMD_SEEK, CAST_CONTROL_CMD_FAST_FORWARD,
      CAST_CONTROL_CMD_REWIND].Nodup := by decide
  -- the loop mode is pushed only if it is missing
  have hloop : i.initializeCastCommands.supportedCastCmds.Nodup ↔
      (pushMissing CAST_CONTROL_CMD_SEEK [CAST_CONTROL_CMD_FAST_FORWARD, CAST_CONTROL_CMD_REWIND]
        (pushMissing CAST_CONTROL_CMD_SET_SPEED []
          (pushMissing CAST_CONTROL_CMD_SET_VOLUME [] i.supportedCastCmds))).Nodup := by
    rw [CastCommands.initializeCastCommands]
    dsimp only
    by_cases hcmd : SESSION_CMD_SET_LOOP_MODE ∈ i.supportedCmd
    · rw [if_pos hcmd]
      constructor
      · intro h
        simp only [CastCommands.addSessionCommandToCast, ne_eq, not_true_eq_false, if_false] at h
        split at h
        · rw [pushMissing] at h
          split at h
          · exact h
          · exact (List.nodup_append'.mp h).1
        · exact h
      · intro h
        exact nodup_addSessionCommandToCast h _
    · rw [if_neg hcmd]
  rw [hloop, nodup_pushMissing_iff hbase hgroup]
  simp [mem_pushMissing_nil, WholeGroups, CAST_CONTROL_CMD_SEEK, CAST_CONTROL_CMD_SET_SPEED,
    CAST_CONTROL_CMD_SET_VOLUME, CAST_CONTROL_CMD_FAST_FORWARD, CAST_CONTROL_CMD_REWIND]

/-- **One call.** -/
theorem step_iff (i : CastCommands) (op : CommandOp) (hi : i.supportedCastCmds.Nodup) :
    (op.step i).supportedCastCmds.Nodup ∧ Grouped i op ↔ WholeGroups i op := by
  rcases op with _ | cmd | cmd | cmd | cmd | cmds | hasProxy | _
  · simp only [Grouped, and_true]
    exact initialize_iff hi
  · exact add_iff hi cmd
  · exact iff_of_true (delete_promise hi cmd) trivial
  · exact iff_of_true ⟨nodup_addSessionCommandToCast hi cmd, trivial⟩ trivial
  · exact iff_of_true ⟨nodup_removeSessionCommandFromCast hi cmd, trivial⟩ trivial
  · exact iff_of_true ⟨hi, trivial⟩ trivial
  · exact iff_of_true ⟨hi, trivial⟩ trivial
  · exact iff_of_true ⟨List.nodup_nil, trivial⟩ trivial

/-- From a new item on: no command is twice in the list in any state of a run and every call keeps
its promise, exactly when groups are added only as a whole. -/
theorem nodup_and_grouped_iff (ops : List CommandOp) :
    Always CommandOp.step (·.supportedCastCmds.Nodup) .init ops ∧
        Meets CommandOp.step Grouped .init ops ↔
      Meets CommandOp.step WholeGroups .init ops :=
  always_and_meets_iff (I := fun _ => True) (fun _ _ _ => trivial)
    (fun i op _ hi => step_iff i op hi) ops trivial List.nodup_nil

/-- Pause is added on its own, then the group it is in. -/
theorem pause_twice : ¬ ∀ ops,
    Always CommandOp.step (·.supportedCastCmds.Nodup) .init ops ∧
      Meets CommandOp.step Grouped .init ops := by
  intro h
  have hlast := (h [.addSupportCastCommand 1, .addSupportCastCommand 13]).1.last
  revert hlast
  decide

end Runs

end AvSession.Cast
