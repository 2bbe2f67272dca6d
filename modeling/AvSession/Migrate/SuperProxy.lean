import AvSession.Item
import AvSession.Lib.Run
import Mathlib.Data.List.Nodup
import Mathlib.Data.Option.Basic
import Mathlib.Logic.Function.Basic

/-!
# The registry of the super proxy

`MigrateAVSessionProxy` in its super mode keeps a session item and a controller item for each player
of the remote device, under the player id. Two kinds of message bring lists of players; the items of
new players are created, and the service is handed the controllers in the order of the list.

* `MigrateAVSessionProxy` — the two maps and the two lists of ids.
* `processHistoryMediaInfoListForSuper`, `processControllerListForSuper` — the two messages.
* `Consistent` — the maps have the same keys, and the controllers listed are those of the sessions.
* `consistent_iff` — the runs along which the registry is consistent.
* Left out: the metadata, playback state and commands that the messages write into the items, which
  no map and no list depends on.
-/

namespace AvSession.Migrate.SuperProxy

open AvSession.Lib

/-! ## Data -/

section data

/-- An object of a received list: the members that are read, and whether `new (std::nothrow)` gives
a session item and a controller item for it. -/
structure PlayerObject where
  playerId : Option String
  packageName : Option String
  sessionAllocated : Bool
  controllerAllocated : Bool
deriving DecidableEq

/-- A member that is missing or no string is the empty string.
Source: softbus_session_utils.h, `SoftbusSessionUtils::GetStringFromJson` -/
def getStringFromJson (value : Option String) : String := value.getD ""

/-- The player id of an object. -/
def PlayerObject.sessionId (o : PlayerObject) : String := getStringFromJson o.playerId

/-- The member `descriptor_` of a session item that is created for a player. -/
structure SessionItem where
  sessionId : String
  bundleName : String
deriving DecidableEq

/-- A controller item: its number among those created, and its session. -/
structure ControllerItem where
  serial : ℕ
  session : SessionItem
deriving DecidableEq

/-- The maps are their lookups. `hasService` says that `servicePtr_` is not null, and `notified` is
the list that the last message handed to `NotifyRemoteDistributedSessionControllersChanged`.
Source: migrate_avsession_proxy.h, `MigrateAVSessionProxy` -/
structure MigrateAVSessionProxy where
  sessionStackForMigrateIn : String → Option SessionItem
  controllerStackForMigrateIn : String → Option ControllerItem
  sessionRefreshList : List String
  orderedSessionRefreshList : List String
  hasService : Bool
  created : ℕ
  notified : Option (List ControllerItem)

/-- The proxy before the first message. -/
def MigrateAVSessionProxy.initial (hasService : Bool) : MigrateAVSessionProxy where
  sessionStackForMigrateIn := fun _ => none
  controllerStackForMigrateIn := fun _ => none
  sessionRefreshList := []
  orderedSessionRefreshList := []
  hasService := hasService
  created := 0
  notified := none

/-- A received message, with the array that it should hold. -/
inductive Message
  | historyMediaInfoList (mediaInfoListObj : Option (List PlayerObject))
  | controllerList (controllerListObj : Option (List PlayerObject))

end data

/-! ## The messages -/

section messages

/-- Source: `MigrateAVSessionProxy::GetControllerListForSuper` -/
def getControllerListForSuper (s : MigrateAVSessionProxy) : List ControllerItem :=
  s.orderedSessionRefreshList.filterMap s.controllerStackForMigrateIn

/-- `controllerStackForMigrateIn_[sessionId] = controllerItem`, for a new controller item. -/
def addController (s : MigrateAVSessionProxy) (sessionId : String) (sessionItem : SessionItem) :
    MigrateAVSessionProxy :=
  { s with
    controllerStackForMigrateIn :=
      Function.update s.controllerStackForMigrateIn sessionId (some ⟨s.created, sessionItem⟩)
    created := s.created + 1 }

/-- Source: `MigrateAVSessionProxy::ProcessControllerInfoForSuper` -/
def processControllerInfoForSuper (s : MigrateAVSessionProxy) (o : PlayerObject) :
    MigrateAVSessionProxy × RetCode :=
  if o.sessionId = "" ∨ (s.controllerStackForMigrateIn o.sessionId).isSome then (s, .success)
  else
    match s.sessionStackForMigrateIn o.sessionId with
    | none => (s, .error)
    | some sessionItem =>
        if o.controllerAllocated then (addController s o.sessionId sessionItem, .success)
        else (s, .error)

/-- `sessionStackForMigrateIn_[sessionId] = sessionItem`. -/
def addSession (s : MigrateAVSessionProxy) (sessionId : String) (sessionItem : SessionItem) :
    MigrateAVSessionProxy :=
  { s with
    sessionStackForMigrateIn :=
      Function.update s.sessionStackForMigrateIn sessionId (some sessionItem) }

/-- Both lists take the id, whether it is empty or known or not. -/
def pushSessionId (s : MigrateAVSessionProxy) (sessionId : String) : MigrateAVSessionProxy :=
  { s with
    sessionRefreshList := s.sessionRefreshList ++ [sessionId]
    orderedSessionRefreshList := s.orderedSessionRefreshList ++ [sessionId] }

/-- Source: `MigrateAVSessionProxy::ProcessSessionInfoForSuper` -/
def processSessionInfoForSuper (s : MigrateAVSessionProxy) (o : PlayerObject) :
    MigrateAVSessionProxy × RetCode :=
  let s := pushSessionId s o.sessionId
  if o.sessionId = "" ∨ (s.sessionStackForMigrateIn o.sessionId).isSome then (s, .success)
  else if o.sessionAllocated then
    let sessionItem := ⟨o.sessionId, getStringFromJson o.packageName⟩
    processControllerInfoForSuper (addSession s o.sessionId sessionItem) o
  else (s, .error)

/-- The loop over the objects of a list, which the first error leaves. -/
def processObjects (s : MigrateAVSessionProxy) : List PlayerObject →
    MigrateAVSessionProxy × RetCode
  | [] => (s, .success)
  | o :: os =>
      match processSessionInfoForSuper s o with
      | (s', .success) => processObjects s' os
      | (s', _) => (s', .error)

/-- A session of the stack that the list does not name. -/
def Unlisted (s : MigrateAVSessionProxy) (id : String) : Prop :=
  (s.sessionStackForMigrateIn id).isSome ∧ id ∉ s.orderedSessionRefreshList

instance (s : MigrateAVSessionProxy) (id : String) : Decidable (Unlisted s id) :=
  inferInstanceAs (Decidable (_ ∧ _))

/-- The sessions that are not in the list are removed, with their controllers. -/
def removeUnlisted (s : MigrateAVSessionProxy) : MigrateAVSessionProxy :=
  { s with
    controllerStackForMigrateIn := fun id =>
      if Unlisted s id then none else s.controllerStackForMigrateIn id
    sessionStackForMigrateIn := fun id =>
      if Unlisted s id then none else s.sessionStackForMigrateIn id }

/-- Source: `AVSessionService::NotifyRemoteDistributedSessionControllersChanged`, its argument -/
def notify (s : MigrateAVSessionProxy) : MigrateAVSessionProxy :=
  { s with notified := some (getControllerListForSuper s) }

/-- Source: `MigrateAVSessionProxy::ProcessHistoryMediaInfoListForSuper` -/
def processHistoryMediaInfoListForSuper (s : MigrateAVSessionProxy) :
    Option (List PlayerObject) → MigrateAVSessionProxy
  | none => s
  | some mediaInfoList =>
      if ¬ s.hasService then s
      else if mediaInfoList = [] then
        { s with
          sessionStackForMigrateIn := fun _ => none
          controllerStackForMigrateIn := fun _ => none
          notified := some [] }
      else
        match processObjects { s with orderedSessionRefreshList := [] } mediaInfoList with
        | (s', .success) => notify (removeUnlisted s')
        | (s', _) => s'

/-- The list that the controllers are read from is not cleared here.
Source: `MigrateAVSessionProxy::ProcessControllerListForSuper` -/
def processControllerListForSuper (s : MigrateAVSessionProxy) :
    Option (List PlayerObject) → MigrateAVSessionProxy
  | none => s
  | some controllerList =>
      match processObjects { s with sessionRefreshList := [] } controllerList with
      | (s', .success) => if s'.hasService then notify s' else s'
      | (s', _) => s'

/-- One message. -/
def step (s : MigrateAVSessionProxy) : Message → MigrateAVSessionProxy
  | .historyMediaInfoList mediaInfoListObj =>
      processHistoryMediaInfoListForSuper { s with notified := none } mediaInfoListObj
  | .controllerList controllerListObj =>
      processControllerListForSuper { s with notified := none } controllerListObj

end messages

/-! ## What the registry promises -/

section promise

/-- The list holds each controller of a session in the stack once, and nothing else. -/
def ExactList (s : MigrateAVSessionProxy) (controllers : List ControllerItem) : Prop :=
  controllers.Nodup ∧ ∀ c, c ∈ controllers ↔
    ∃ id, (s.sessionStackForMigrateIn id).isSome ∧ s.controllerStackForMigrateIn id = some c

/-- The two maps have the same keys. -/
def SameKeys (s : MigrateAVSessionProxy) : Prop :=
  ∀ id, (s.sessionStackForMigrateIn id).isSome = (s.controllerStackForMigrateIn id).isSome

/-- The registry is consistent. -/
structure Consistent (s : MigrateAVSessionProxy) : Prop where
  sameKeys : SameKeys s
  noEmptyKey : s.sessionStackForMigrateIn "" = none ∧ s.controllerStackForMigrateIn "" = none
  ordered : s.orderedSessionRefreshList.Nodup
  returned : ExactList s (getControllerListForSuper s)
  handed : ∀ controllers, s.notified = some controllers → ExactList s controllers

/-- An object for which an item is needed that cannot be had. -/
def Refused (stack : String → Option SessionItem) (o : PlayerObject) : Prop :=
  o.sessionId ≠ "" ∧ stack o.sessionId = none ∧ ¬ (o.sessionAllocated ∧ o.controllerAllocated)

instance (stack : String → Option SessionItem) (o : PlayerObject) :
    Decidable (Refused stack o) :=
  inferInstanceAs (Decidable (_ ∧ _ ∧ _))

/-- The objects of a list up to the first that is refused. -/
def visited (stack : String → Option SessionItem) : List PlayerObject → List PlayerObject
  | [] => []
  | o :: os => if Refused stack o then [o] else o :: visited stack os

/-- The ids of these objects. -/
def visitedIds (stack : String → Option SessionItem) (objects : List PlayerObject) : List String :=
  (visited stack objects).map PlayerObject.sessionId

/-- None of them is refused for want of a controller only. -/
def NoneStranded (stack : String → Option SessionItem) (objects : List PlayerObject) : Prop :=
  ∀ o ∈ visited stack objects, Refused stack o → o.sessionAllocated = false

/-- The condition on a message: the ids that are appended are new to the list, no controller is
missing, and a history list that is abandoned has named every session of the stack before. -/
def Acceptable (s : MigrateAVSessionProxy) : Message → Prop
  | .historyMediaInfoList none => True
  | .historyMediaInfoList (some objects) =>
      s.hasService = true → objects ≠ [] →
        (visitedIds s.sessionStackForMigrateIn objects).Nodup ∧
        NoneStranded s.sessionStackForMigrateIn objects ∧
        ((∃ o ∈ visited s.sessionStackForMigrateIn objects, Refused s.sessionStackForMigrateIn o) →
          ∀ id, (s.sessionStackForMigrateIn id).isSome →
            id ∈ visitedIds s.sessionStackForMigrateIn objects)
  | .controllerList none => True
  | .controllerList (some objects) =>
      (s.orderedSessionRefreshList ++ visitedIds s.sessionStackForMigrateIn objects).Nodup ∧
      NoneStranded s.sessionStackForMigrateIn objects

end promise

/-! ## One object -/

section object

variable {s : MigrateAVSessionProxy} {o : PlayerObject}

/-- What is filed under an id is of that session, and nothing is filed under the empty id. -/
structure Named (s : MigrateAVSessionProxy) : Prop where
  session : ∀ id x, s.sessionStackForMigrateIn id = some x → x.sessionId = id
  controller : ∀ id c, s.controllerStackForMigrateIn id = some c → c.session.sessionId = id
  noEmptyKey : s.sessionStackForMigrateIn "" = none ∧ s.controllerStackForMigrateIn "" = none

/-- The service and what it was handed are out of reach of an object. -/
def Framed (s s' : MigrateAVSessionProxy) : Prop :=
  s'.hasService = s.hasService ∧ s'.notified = s.notified

/-- Handling a controller's part touches the two stacks and the counter only. -/
theorem framed_processControllerInfoForSuper (s : MigrateAVSessionProxy) (o : PlayerObject) :
    Framed s (processControllerInfoForSuper s o).1 := by
  unfold processControllerInfoForSuper
  split
  · exact ⟨rfl, rfl⟩
  · cases s.sessionStackForMigrateIn o.sessionId with
    | none => exact ⟨rfl, rfl⟩
    | some sessionItem =>
        dsimp only
        split_ifs
        · exact ⟨rfl, rfl⟩
        · exact ⟨rfl, rfl⟩

/-- So does handling a whole player object. -/
theorem framed_processSessionInfoForSuper (s : MigrateAVSessionProxy) (o : PlayerObject) :
    Framed s (processSessionInfoForSuper s o).1 := by
  unfold processSessionInfoForSuper
  dsimp only
  split_ifs
  · exact ⟨rfl, rfl⟩
  · exact framed_processControllerInfoForSuper _ o
  · exact ⟨rfl, rfl⟩

/-- What one object does to the registry. -/
structure Processed (s : MigrateAVSessionProxy) (o : PlayerObject)
    (r : MigrateAVSessionProxy × RetCode) : Prop where
  result : r.2 = .success ↔ ¬ Refused s.sessionStackForMigrateIn o
  ordered : r.1.orderedSessionRefreshList = s.orderedSessionRefreshList ++ [o.sessionId]
  stack : ∀ id, (r.1.sessionStackForMigrateIn id).isSome ↔
    (s.sessionStackForMigrateIn id).isSome ∨
      (id = o.sessionId ∧ id ≠ "" ∧ o.sessionAllocated = true)
  sameKeys : SameKeys r.1 ↔ (Refused s.sessionStackForMigrateIn o → o.sessionAllocated = false)

/-- An updated entry is there when it is the new one or was there before. -/
theorem isSome_ite {α : Type} (f : String → Option α) (k id : String) (v : α) :
    (if id = k then some v else f id).isSome = true ↔ (f id).isSome = true ∨ id = k := by
  split_ifs with h
  · simp [h]
  · simp [h]

/-- An object that needs no item: it is empty or known. -/
theorem processed_known (hkeys : SameKeys s)
    (h : o.sessionId = "" ∨ (s.sessionStackForMigrateIn o.sessionId).isSome = true) :
    Processed s o (pushSessionId s o.sessionId, .success) := by
  have hnot : ¬ Refused s.sessionStackForMigrateIn o := by
    rintro ⟨hne, hnone, -⟩
    rcases h with h | h
    · exact hne h
    · simp [hnone] at h
  refine ⟨by simpa using hnot, rfl, fun id => ?_, ?_⟩
  · constructor
    · exact Or.inl
    · rintro (hid | ⟨rfl, hne, -⟩)
      · exact hid
      · exact h.resolve_left hne
  · exact iff_of_true hkeys fun hrefused => absurd hrefused hnot

/-- addSession enters one session. -/
theorem addSession_stack (k id : String) (x : SessionItem) :
    (addSession s k x).sessionStackForMigrateIn id =
      if id = k then some x else s.sessionStackForMigrateIn id :=
  Function.update_apply _ _ _ _

/-- addController enters one controller with the next number. -/
theorem addController_stack (k id : String) (x : SessionItem) :
    (addController s k x).controllerStackForMigrateIn id =
      if id = k then some ⟨s.created, x⟩ else s.controllerStackForMigrateIn id :=
  Function.update_apply _ _ _ _

/-- The controller of a session that has just been added. -/
theorem processControllerInfoForSuper_addSession {x : SessionItem} (hne : o.sessionId ≠ "")
    (hcontroller : s.controllerStackForMigrateIn o.sessionId = none) :
    processControllerInfoForSuper (addSession s o.sessionId x) o =
      if o.controllerAllocated then
        (addController (addSession s o.sessionId x) o.sessionId x, .success)
      else (addSession s o.sessionId x, .error) := by
  have hnone : (addSession s o.sessionId x).controllerStackForMigrateIn o.sessionId = none :=
    hcontroller
  unfold processControllerInfoForSuper
  rw [if_neg (by simp [hne, hnone]), addSession_stack, if_pos rfl]

/-- What one player object does to two stacks with the same keys. -/
theorem processSessionInfoForSuper_spec (hkeys : SameKeys s) (o : PlayerObject) :
    Processed s o (processSessionInfoForSuper s o) := by
  unfold processSessionInfoForSuper
  dsimp only
  split_ifs with hknown hsession
  · exact processed_known hkeys hknown
  · obtain ⟨hne, hnone⟩ := not_or.mp hknown
    have hnone' : s.sessionStackForMigrateIn o.sessionId = none :=
      Option.not_isSome_iff_eq_none.mp hnone
    have hfree : ¬ (s.controllerStackForMigrateIn o.sessionId).isSome = true := by
      rw [← hkeys o.sessionId]
      exact hnone
    have hcontroller :
        (pushSessionId s o.sessionId).controllerStackForMigrateIn o.sessionId = none :=
      Option.not_isSome_iff_eq_none.mp hfree
    rw [processControllerInfoForSuper_addSession hne hcontroller]
    split_ifs with hallocated
    · have hnot : ¬ Refused s.sessionStackForMigrateIn o :=
        fun hrefused => hrefused.2.2 ⟨hsession, hallocated⟩
      refine ⟨by simpa using hnot, rfl, fun id => ?_, ?_⟩
      · show ((addSession _ _ _).sessionStackForMigrateIn id).isSome = true ↔ _
        rw [addSession_stack, isSome_ite]
        exact or_congr_right ⟨fun hid => ⟨hid, hid ▸ hne, hsession⟩, And.left⟩
      · refine iff_of_true (fun id => ?_) fun hrefused => absurd hrefused hnot
        show ((addSession _ _ _).sessionStackForMigrateIn id).isSome = _
        rw [Bool.eq_iff_iff, addSession_stack, addController_stack, isSome_ite, isSome_ite]
        exact or_congr_left (Bool.eq_iff_iff.mp (hkeys id))
    · have hrefused : Refused s.sessionStackForMigrateIn o :=
        ⟨hne, hnone', fun hboth => hallocated hboth.2⟩
      refine ⟨by simpa using hrefused, rfl, fun id => ?_, ?_⟩
      · rw [addSession_stack, isSome_ite]
        exact or_congr_right ⟨fun hid => ⟨hid, hid ▸ hne, hsession⟩, And.left⟩
      · refine iff_of_false (fun hsame => ?_) fun hfalse => ?_
        · have hid := hsame o.sessionId
          rw [addSession_stack, if_pos rfl] at hid
          exact hfree hid.symm
        · exact absurd (hfalse hrefused) (by simp [hsession])
  · obtain ⟨hne, hnone⟩ := not_or.mp hknown
    have hrefused : Refused s.sessionStackForMigrateIn o :=
      ⟨hne, Option.not_isSome_iff_eq_none.mp hnone, fun hboth => hsession hboth.1⟩
    refine ⟨by simpa using hrefused, rfl, fun id => ?_, ?_⟩
    · exact ⟨Or.inl, fun hid => hid.resolve_right fun hnew => hsession hnew.2.2⟩
    · exact iff_of_true hkeys fun _ => Bool.eq_false_iff.mpr hsession

/-- Entering a session under its own id keeps the names. -/
theorem Named.addSession {x : SessionItem} (h : Named s) (hne : x.sessionId ≠ "") :
    Named (addSession s x.sessionId x) := by
  refine ⟨fun id y hy => ?_, h.controller, ?_, h.noEmptyKey.2⟩
  · rw [addSession_stack] at hy
    split_ifs at hy with hid
    · rw [hid, ← Option.some.inj hy]
    · exact h.session id y hy
  · rw [addSession_stack, if_neg hne.symm]
    exact h.noEmptyKey.1

/-- Entering a controller under its session's id keeps the names. -/
theorem Named.addController {x : SessionItem} (h : Named s) (hne : x.sessionId ≠ "") :
    Named (addController s x.sessionId x) := by
  refine ⟨h.session, fun id c hc => ?_, h.noEmptyKey.1, ?_⟩
  · rw [addController_stack] at hc
    split_ifs at hc with hid
    · rw [hid, ← Option.some.inj hc]
    · exact h.controller id c hc
  · rw [addController_stack, if_neg hne.symm]
    exact h.noEmptyKey.2

/-- A controller's part keeps the names. -/
theorem Named.processControllerInfoForSuper (h : Named s) (o : PlayerObject) :
    Named (processControllerInfoForSuper s o).1 := by
  unfold SuperProxy.processControllerInfoForSuper
  by_cases hknown : o.sessionId = "" ∨ (s.controllerStackForMigrateIn o.sessionId).isSome = true
  · rw [if_pos hknown]
    exact h
  · rw [if_neg hknown]
    cases hitem : s.sessionStackForMigrateIn o.sessionId with
    | none => exact h
    | some sessionItem =>
        dsimp only
        have hid : sessionItem.sessionId = o.sessionId := h.session _ _ hitem
        split_ifs with hcontroller
        · rw [← hid]
          exact h.addController (by rw [hid]; exact (not_or.mp hknown).1)
        · exact h

/-- A player object keeps the names. -/
theorem Named.processSessionInfoForSuper (h : Named s) (o : PlayerObject) :
    Named (processSessionInfoForSuper s o).1 := by
  have hpush : Named (pushSessionId s o.sessionId) := ⟨h.session, h.controller, h.noEmptyKey⟩
  unfold SuperProxy.processSessionInfoForSuper
  dsimp only
  split_ifs with hknown hsession
  · exact hpush
  · have hadd := @Named.addSession _ ⟨o.sessionId, getStringFromJson o.packageName⟩ hpush
      (not_or.mp hknown).1
    exact hadd.processControllerInfoForSuper o
  · exact hpush

end object

/-! ## The loop over a list -/

section loop

variable {s : MigrateAVSessionProxy} {stack stack' : String → Option SessionItem}
  {o : PlayerObject} {objects : List PlayerObject}

/-- The loop goes on while the objects are processed with success. -/
theorem processObjects_cons (s : MigrateAVSessionProxy) (o : PlayerObject)
    (os : List PlayerObject) :
    processObjects s (o :: os) =
      if (processSessionInfoForSuper s o).2 = .success then
        processObjects (processSessionInfoForSuper s o).1 os
      else ((processSessionInfoForSuper s o).1, .error) := by
  rw [processObjects]
  cases h : processSessionInfoForSuper s o with
  | mk s' r => cases r <;> simp

/-- The loop keeps the names. -/
theorem Named.processObjects (h : Named s) (objects : List PlayerObject) :
    Named (processObjects s objects).1 := by
  induction objects generalizing s with
  | nil => exact h
  | cons o os ih =>
      rw [processObjects_cons]
      split_ifs
      · exact ih (h.processSessionInfoForSuper o)
      · exact h.processSessionInfoForSuper o

/-- The loop touches the two stacks and the counter only. -/
theorem framed_processObjects (s : MigrateAVSessionProxy) (objects : List PlayerObject) :
    Framed s (processObjects s objects).1 := by
  induction objects generalizing s with
  | nil => exact ⟨rfl, rfl⟩
  | cons o os ih =>
      have hframe := framed_processSessionInfoForSuper s o
      rw [processObjects_cons]
      split_ifs
      · have hrest := ih (processSessionInfoForSuper s o).1
        exact ⟨hrest.1.trans hframe.1, hrest.2.trans hframe.2⟩
      · exact hframe

/-- A larger stack refuses fewer objects. -/
theorem Refused.mono (hstack : ∀ id, (stack id).isSome = true → (stack' id).isSome = true)
    (h : Refused stack' o) : Refused stack o := by
  refine ⟨h.1, ?_, h.2.2⟩
  by_contra hne
  have hsome := hstack o.sessionId (Option.isSome_iff_ne_none.mpr hne)
  simp [h.2.1] at hsome

/-- With a larger stack more of a list is visited. -/
theorem isPrefix_visited (hstack : ∀ id, (stack id).isSome = true → (stack' id).isSome = true)
    (objects : List PlayerObject) : visited stack objects <+: visited stack' objects := by
  induction objects with
  | nil => exact List.prefix_rfl
  | cons o os ih =>
      unfold visited
      by_cases h : Refused stack o
      · rw [if_pos h]
        split_ifs
        · exact List.prefix_rfl
        · exact List.cons_prefix_cons.mpr ⟨rfl, List.nil_prefix⟩
      · rw [if_neg h, if_neg fun h' => h (h'.mono hstack)]
        exact List.cons_prefix_cons.mpr ⟨rfl, ih⟩

/-- An addition to the stack that no object visited is about changes nothing. -/
theorem visited_congr
    (hstack : ∀ o ∈ visited stack objects, (Refused stack' o ↔ Refused stack o)) :
    visited stack' objects = visited stack objects := by
  induction objects with
  | nil => rfl
  | cons o os ih =>
      unfold visited at hstack ⊢
      by_cases h : Refused stack o
      · rw [if_pos h] at hstack ⊢
        rw [if_pos ((hstack o List.mem_cons_self).mpr h)]
      · rw [if_neg h] at hstack ⊢
        rw [if_neg fun h' => h ((hstack o List.mem_cons_self).mp h')]
        rw [ih fun o' ho' => hstack o' (List.mem_cons_of_mem _ ho')]

/-- The ids of the objects that the loop gets to. -/
def reachedIds (s : MigrateAVSessionProxy) : List PlayerObject → List String
  | [] => []
  | o :: os =>
      o.sessionId ::
        if (processSessionInfoForSuper s o).2 = .success then
          reachedIds (processSessionInfoForSuper s o).1 os
        else []

/-- What the loop does to the registry. -/
structure Looped (s : MigrateAVSessionProxy) (ids : List String) (r : MigrateAVSessionProxy) :
    Prop where
  ordered : r.orderedSessionRefreshList = s.orderedSessionRefreshList ++ ids
  kept : ∀ id, (s.sessionStackForMigrateIn id).isSome = true →
    (r.sessionStackForMigrateIn id).isSome = true
  added : ∀ id, (r.sessionStackForMigrateIn id).isSome = true →
    (s.sessionStackForMigrateIn id).isSome = true ∨ id ∈ ids

/-- One processed object is a loop over its id. -/
theorem Processed.looped {r : MigrateAVSessionProxy × RetCode} (h : Processed s o r) :
    Looped s [o.sessionId] r.1 :=
  ⟨h.ordered, fun id hid => (h.stack id).mpr (Or.inl hid),
    fun id hid => ((h.stack id).mp hid).imp_right fun hnew => List.mem_singleton.mpr hnew.1⟩

/-- Two loops after one another are a loop over both lists of ids. -/
theorem Looped.trans {s' r : MigrateAVSessionProxy} {ids ids' : List String}
    (h : Looped s ids s') (h' : Looped s' ids' r) : Looped s (ids ++ ids') r := by
  refine ⟨?_, fun id hid => h'.kept id (h.kept id hid), fun id hid => ?_⟩
  · rw [h'.ordered, h.ordered, List.append_assoc]
  · rcases h'.added id hid with hid' | hid'
    · exact (h.added id hid').imp_right (List.mem_append_left _)
    · exact Or.inr (List.mem_append_right _ hid')

/-- The loop enters exactly the ids it reaches. -/
theorem processObjects_looped (hkeys : SameKeys s) (objects : List PlayerObject) :
    Looped s (reachedIds s objects) (processObjects s objects).1 := by
  induction objects generalizing s with
  | nil => exact ⟨(List.append_nil _).symm, fun _ hid => hid, fun _ hid => Or.inl hid⟩
  | cons o os ih =>
      have hspec := processSessionInfoForSuper_spec hkeys o
      rw [processObjects_cons, reachedIds]
      split_ifs with hok
      · have hkeys' : SameKeys (processSessionInfoForSuper s o).1 :=
          hspec.sameKeys.mpr fun hrefused => absurd hrefused (hspec.result.mp hok)
        exact hspec.looped.trans (ih hkeys')
      · exact hspec.looped

/-- The loop reaches every object up to the first that is refused. -/
theorem isPrefix_visitedIds (hkeys : SameKeys s) (objects : List PlayerObject) :
    visitedIds s.sessionStackForMigrateIn objects <+: reachedIds s objects := by
  induction objects generalizing s with
  | nil => exact List.prefix_rfl
  | cons o os ih =>
      have hspec := processSessionInfoForSuper_spec hkeys o
      unfold visitedIds visited reachedIds
      by_cases hrefused : Refused s.sessionStackForMigrateIn o
      · rw [if_pos hrefused, if_neg fun hok => hspec.result.mp hok hrefused]
        exact List.prefix_rfl
      · rw [if_neg hrefused, if_pos (hspec.result.mpr hrefused), List.map_cons]
        refine List.cons_prefix_cons.mpr ⟨rfl, ?_⟩
        refine List.IsPrefix.trans ?_ (ih (hspec.sameKeys.mpr fun h => absurd h hrefused))
        exact (isPrefix_visited (fun id hid => (hspec.stack id).mpr (Or.inl hid)) os).map _

/-- A list that names each visited player once gets to exactly these, ends well if none is refused,
and leaves the maps with the same keys if none is stranded. -/
theorem processObjects_of_nodup (hkeys : SameKeys s) (objects : List PlayerObject)
    (hnodup : (visitedIds s.sessionStackForMigrateIn objects).Nodup) :
    reachedIds s objects = visitedIds s.sessionStackForMigrateIn objects ∧
    ((processObjects s objects).2 = .success ↔
      ∀ o ∈ visited s.sessionStackForMigrateIn objects, ¬ Refused s.sessionStackForMigrateIn o) ∧
    (SameKeys (processObjects s objects).1 ↔ NoneStranded s.sessionStackForMigrateIn objects) := by
  induction objects generalizing s with
  | nil =>
      refine ⟨rfl, by simp [processObjects, visited], iff_of_true hkeys fun o ho => ?_⟩
      exact absurd ho List.not_mem_nil
  | cons o os ih =>
      have hspec := processSessionInfoForSuper_spec hkeys o
      rw [processObjects_cons, reachedIds]
      unfold visitedIds visited at hnodup
      unfold visitedIds NoneStranded visited
      by_cases hrefused : Refused s.sessionStackForMigrateIn o
      · have hfail := fun hok => hspec.result.mp hok hrefused
        rw [if_pos hrefused, if_neg hfail, if_neg hfail]
        refine ⟨rfl, ?_, ?_⟩
        · simpa using hrefused
        · simpa [hrefused] using hspec.sameKeys
      · rw [if_neg hrefused] at hnodup
        rw [if_neg hrefused, if_pos (hspec.result.mpr hrefused),
          if_pos (hspec.result.mpr hrefused)]
        obtain ⟨hfresh, hnodup⟩ := List.nodup_cons.mp hnodup
        set s' := (processSessionInfoForSuper s o).1 with hs'
        have hsame : ∀ o' ∈ visited s.sessionStackForMigrateIn os,
            (Refused s'.sessionStackForMigrateIn o' ↔ Refused s.sessionStackForMigrateIn o') := by
          intro o' ho'
          have hne : o'.sessionId ≠ o.sessionId :=
            fun heq => hfresh (heq ▸ List.mem_map_of_mem ho')
          have hstack := hspec.stack o'.sessionId
          rw [or_iff_left fun hnew => hne hnew.1, Option.isSome_iff_ne_none,
            Option.isSome_iff_ne_none, not_iff_not] at hstack
          exact and_congr_right fun _ => and_congr_left fun _ => hstack
        have hvisited := visited_congr hsame
        have hkeys' : SameKeys s' := hspec.sameKeys.mpr fun h => absurd h hrefused
        obtain ⟨hids, hresult, hstranded⟩ :=
          ih hkeys' (by unfold visitedIds; rw [hvisited]; exact hnodup)
        unfold visitedIds at hids
        unfold NoneStranded at hstranded
        rw [hvisited] at hids hresult hstranded
        refine ⟨by rw [hids, List.map_cons], ?_, ?_⟩
        · rw [hresult, List.forall_mem_cons]
          exact ⟨fun h => ⟨hrefused, fun o' ho' => (hsame o' ho').not.mp (h o' ho')⟩,
            fun h o' ho' => (hsame o' ho').not.mpr (h.2 o' ho')⟩
        · rw [hstranded, List.forall_mem_cons]
          constructor
          · intro h
            exact ⟨fun h' => absurd h' hrefused, fun o' ho' h' => h o' ho' ((hsame o' ho').mpr h')⟩
          · intro h o' ho' h'
            exact h.2 o' ho' ((hsame o' ho').mp h')

end loop

/-! ## Runs -/

section runs

variable {s : MigrateAVSessionProxy} {m : Message} {objects : List PlayerObject}

/-- What holds in every state: the names, and that the service was handed the list that is
returned. -/
structure ProxyInv (s : MigrateAVSessionProxy) : Prop where
  named : Named s
  handed : ∀ controllers, s.notified = some controllers → controllers = getControllerListForSuper s

/-- Empty stacks name nobody wrongly. -/
theorem named_empty (h : s.sessionStackForMigrateIn = fun _ => none)
    (h' : s.controllerStackForMigrateIn = fun _ => none) : Named s :=
  ⟨fun _ _ hx => (nomatch (congrFun h _).symm.trans hx),
    fun _ _ hc => (nomatch (congrFun h' _).symm.trans hc), congrFun h _, congrFun h' _⟩

/-- At the start both stacks are empty and nobody has been notified. -/
theorem proxyInv_initial (hasService : Bool) : ProxyInv (.initial hasService) :=
  ⟨named_empty rfl rfl, fun _ h => nomatch h⟩

/-- A notification hands over what the stacks hold. -/
theorem ProxyInv.notify (h : Named s) : ProxyInv (notify s) :=
  ⟨⟨h.session, h.controller, h.noEmptyKey⟩, fun _ hc => (Option.some.inj hc).symm⟩

/-- Named stacks without a notification keep the invariant. -/
theorem ProxyInv.of_none (h : Named s) (hnone : s.notified = none) : ProxyInv s :=
  ⟨h, fun _ hc => (nomatch hnone.symm.trans hc)⟩

/-- Removing the unlisted ids keeps the names. -/
theorem Named.removeUnlisted (h : Named s) : Named (removeUnlisted s) := by
  refine ⟨fun id x hx => ?_, fun id c hc => ?_, ?_, ?_⟩
  · exact h.session id x (Option.ite_none_left_eq_some.mp hx).2
  · exact h.controller id c (Option.ite_none_left_eq_some.mp hc).2
  · exact ite_eq_left_iff.mpr fun _ => h.noEmptyKey.1
  · exact ite_eq_left_iff.mpr fun _ => h.noEmptyKey.2

/-- The state in which the loop over a history list starts. -/
def historyStart (s : MigrateAVSessionProxy) : MigrateAVSessionProxy :=
  { s with notified := none, orderedSessionRefreshList := [] }

/-- The state in which the loop over a controller list starts. -/
def controllerStart (s : MigrateAVSessionProxy) : MigrateAVSessionProxy :=
  { s with notified := none, sessionRefreshList := [] }

/-- Without the service a history message only leaves its mark. -/
theorem step_of_noService (h : ¬ s.hasService = true) :
    step s (.historyMediaInfoList (some objects)) = { s with notified := none } :=
  if_pos h

/-- An empty history empties both stacks. -/
theorem step_nil (h : s.hasService = true) :
    step s (.historyMediaInfoList (some [])) =
      { s with
        sessionStackForMigrateIn := fun _ => none
        controllerStackForMigrateIn := fun _ => none
        notified := some [] } :=
  (if_neg (not_not.mpr h)).trans (if_pos rfl)

/-- A history list is looped over, then what it does not list goes and the service is told. -/
theorem step_historyMediaInfoList (h : s.hasService = true) (hne : objects ≠ []) :
    step s (.historyMediaInfoList (some objects)) =
      if (processObjects (historyStart s) objects).2 = .success then
        notify (removeUnlisted (processObjects (historyStart s) objects).1)
      else (processObjects (historyStart s) objects).1 := by
  refine (if_neg (not_not.mpr h)).trans ((if_neg hne).trans ?_)
  show (match processObjects (historyStart s) objects with
    | (s', .success) => notify (removeUnlisted s')
    | (s', _) => s') = _
  cases processObjects (historyStart s) objects with
  | mk s' r => cases r <;> simp

/-- A controller list is looped over, and the service told on success. -/
theorem step_controllerList (s : MigrateAVSessionProxy) (objects : List PlayerObject) :
    step s (.controllerList (some objects)) =
      if (processObjects (controllerStart s) objects).2 = .success ∧ s.hasService = true then
        notify (processObjects (controllerStart s) objects).1
      else (processObjects (controllerStart s) objects).1 := by
  have hservice := (framed_processObjects (controllerStart s) objects).1
  unfold step processControllerListForSuper
  show (match processObjects (controllerStart s) objects with
    | (s', .success) => if s'.hasService then notify s' else s'
    | (s', _) => s') = _
  change _ = s.hasService at hservice
  rw [← hservice]
  cases h : processObjects (controllerStart s) objects with
  | mk s' r => cases r <;> simp

/-- Every message keeps the invariant. -/
theorem ProxyInv.step (h : ProxyInv s) (m : Message) : ProxyInv (step s m) := by
  have hforget : ProxyInv { s with notified := none } :=
    .of_none ⟨h.named.session, h.named.controller, h.named.noEmptyKey⟩ rfl
  cases m with
  | historyMediaInfoList mediaInfoListObj =>
      cases mediaInfoListObj with
      | none => exact hforget
      | some objects =>
          by_cases hservice : s.hasService = true
          · by_cases hempty : objects = []
            · subst hempty
              rw [step_nil hservice]
              refine ⟨named_empty rfl rfl, fun controllers hc => ?_⟩
              rw [← Option.some.inj hc]
              exact (List.filterMap_none _).symm
            · have hstart : Named (historyStart s) :=
                ⟨h.named.session, h.named.controller, h.named.noEmptyKey⟩
              rw [step_historyMediaInfoList hservice hempty]
              split_ifs
              · exact .notify (hstart.processObjects objects).removeUnlisted
              · exact .of_none (hstart.processObjects objects)
                  (framed_processObjects (historyStart s) objects).2
          · rw [step_of_noService hservice]
            exact hforget
  | controllerList controllerListObj =>
      cases controllerListObj with
      | none => exact hforget
      | some objects =>
          have hstart : Named (controllerStart s) :=
            ⟨h.named.session, h.named.controller, h.named.noEmptyKey⟩
          rw [step_controllerList]
          split_ifs
          · exact .notify (hstart.processObjects objects)
          · exact .of_none (hstart.processObjects objects)
              (framed_processObjects (controllerStart s) objects).2

/-- What is left to check of a state: the keys, and that the list names each session once. -/
theorem consistent_iff_listed (h : ProxyInv s) :
    Consistent s ↔ SameKeys s ∧ s.orderedSessionRefreshList.Nodup ∧
      ∀ id, (s.sessionStackForMigrateIn id).isSome = true → id ∈ s.orderedSessionRefreshList := by
  constructor
  · intro hc
    refine ⟨hc.sameKeys, hc.ordered, fun id hid => ?_⟩
    obtain ⟨c, hcontroller⟩ := Option.isSome_iff_exists.mp ((hc.sameKeys id).symm.trans hid)
    have hmem := (hc.returned.2 c).mpr ⟨id, hid, hcontroller⟩
    obtain ⟨id', hid', hcontroller'⟩ := List.mem_filterMap.mp hmem
    rw [← h.named.controller id c hcontroller, h.named.controller id' c hcontroller']
    exact hid'
  · rintro ⟨hkeys, hnodup, hlisted⟩
    have hexact : ExactList s (getControllerListForSuper s) := by
      constructor
      · refine hnodup.filterMap fun id id' c hc hc' => ?_
        rw [← h.named.controller id c hc, h.named.controller id' c hc']
      · intro c
        unfold getControllerListForSuper
        rw [List.mem_filterMap]
        constructor
        · rintro ⟨id, -, hc⟩
          exact ⟨id, by rw [hkeys id, hc, Option.isSome_some], hc⟩
        · rintro ⟨id, hid, hc⟩
          exact ⟨id, hlisted id hid, hc⟩
    refine ⟨hkeys, h.named.noEmptyKey, hnodup, hexact, fun controllers hc => ?_⟩
    rw [h.handed controllers hc]
    exact hexact

/-- Nothing depends on what was handed before. -/
theorem Consistent.forget (h : Consistent s) : Consistent { s with notified := none } :=
  ⟨h.sameKeys, h.noEmptyKey, h.ordered, h.returned, fun _ hc => nomatch hc⟩

/-- The two stacks lose the same ids. -/
theorem sameKeys_removeUnlisted (h : SameKeys s) : SameKeys (removeUnlisted s) := by
  intro id
  show (if _ then _ else _ : Option SessionItem).isSome =
    (if _ then _ else _ : Option ControllerItem).isSome
  split_ifs
  · rfl
  · exact h id

/-- After the sessions that the list does not name are removed, it names all of them. -/
theorem mem_of_isSome_removeUnlisted {id : String}
    (h : ((removeUnlisted s).sessionStackForMigrateIn id).isSome = true) :
    id ∈ s.orderedSessionRefreshList := by
  change (if Unlisted s id then none else s.sessionStackForMigrateIn id).isSome = true at h
  by_contra hid
  by_cases hunlisted : Unlisted s id
  · rw [if_pos hunlisted] at h
    exact absurd h Bool.false_ne_true
  · rw [if_neg hunlisted] at h
    exact hunlisted ⟨h, hid⟩

/-- A history message leaves the proxy consistent exactly when it is acceptable. -/
theorem consistent_history_iff (hinv : ProxyInv s) (hP : Consistent s)
    (hservice : s.hasService = true) (hne : objects ≠ []) :
    Consistent (step s (.historyMediaInfoList (some objects))) ↔
      Acceptable s (.historyMediaInfoList (some objects)) := by
  have hkeys : SameKeys (historyStart s) := hP.sameKeys
  have hprefix := (isPrefix_visitedIds hkeys objects).sublist
  have hspec := processObjects_of_nodup hkeys objects
  have hlooped := processObjects_looped hkeys objects
  have hordered : (processObjects (historyStart s) objects).1.orderedSessionRefreshList =
      reachedIds (historyStart s) objects := hlooped.ordered
  rw [consistent_iff_listed (hinv.step _)]
  rw [step_historyMediaInfoList hservice hne]
  unfold Acceptable
  simp only [hservice, hne, ne_eq, not_false_eq_true, true_imp_iff]
  by_cases hok : (processObjects (historyStart s) objects).2 = .success
  · rw [if_pos hok]
    constructor
    · rintro ⟨-, hnodup, -⟩
      have hvisited := hprefix.nodup (hordered ▸ hnodup)
      have hnone := (hspec hvisited).2.1.mp hok
      exact ⟨hvisited, fun o ho h => absurd h (hnone o ho),
        fun ⟨o, ho, h⟩ => absurd h (hnone o ho)⟩
    · rintro ⟨hnodup, hstranded, -⟩
      obtain ⟨hids, -, hsame⟩ := hspec hnodup
      refine ⟨sameKeys_removeUnlisted (hsame.mpr hstranded), ?_, fun id hid => ?_⟩
      · show (processObjects (historyStart s) objects).1.orderedSessionRefreshList.Nodup
        rw [hordered, hids]
        exact hnodup
      · exact mem_of_isSome_removeUnlisted (s := (processObjects (historyStart s) objects).1) hid
  · rw [if_neg hok, hordered]
    constructor
    · rintro ⟨hsame, hnodup, hlisted⟩
      have hvisited := hprefix.nodup hnodup
      obtain ⟨hids, -, hstranded⟩ := hspec hvisited
      refine ⟨hvisited, hstranded.mp hsame, fun _ id hid => ?_⟩
      have hmem := hlisted id (hlooped.kept id hid)
      rw [hids] at hmem
      exact hmem
    · rintro ⟨hnodup, hstranded, hall⟩
      obtain ⟨hids, hresult, hsame⟩ := hspec hnodup
      have hrefused : ∃ o ∈ visited s.sessionStackForMigrateIn objects,
          Refused s.sessionStackForMigrateIn o := by
        by_contra hnone
        refine hok (hresult.mpr fun o ho h => hnone ⟨o, ho, h⟩)
      refine ⟨hsame.mpr hstranded, by rw [hids]; exact hnodup, fun id hid => ?_⟩
      rcases hlooped.added id hid with hold | hnew
      · rw [hids]
        exact hall hrefused id hold
      · exact hnew

/-- A controller list leaves the proxy consistent exactly when it is acceptable. -/
theorem consistent_controllerList_iff (hinv : ProxyInv s) (hP : Consistent s)
    (objects : List PlayerObject) :
    Consistent (step s (.controllerList (some objects))) ↔
      Acceptable s (.controllerList (some objects)) := by
  have hkeys : SameKeys (controllerStart s) := hP.sameKeys
  have hprefix := (isPrefix_visitedIds hkeys objects).sublist
  have hspec := processObjects_of_nodup hkeys objects
  have hlooped := processObjects_looped hkeys objects
  have hordered : (processObjects (controllerStart s) objects).1.orderedSessionRefreshList =
      s.orderedSessionRefreshList ++ reachedIds (controllerStart s) objects := hlooped.ordered
  have hlisted := ((consistent_iff_listed hinv).mp hP).2.2
  -- the service being handed the list changes nothing that is left to check
  have hstep : Consistent (step s (.controllerList (some objects))) ↔
      SameKeys (processObjects (controllerStart s) objects).1 ∧
      (s.orderedSessionRefreshList ++ reachedIds (controllerStart s) objects).Nodup := by
    rw [consistent_iff_listed (hinv.step _), step_controllerList, ← hordered]
    have hall : ∀ id, ((processObjects (controllerStart s) objects).1.sessionStackForMigrateIn
        id).isSome = true →
        id ∈ (processObjects (controllerStart s) objects).1.orderedSessionRefreshList := by
      intro id hid
      rw [hordered, List.mem_append]
      exact (hlooped.added id hid).imp_left (hlisted id)
    split_ifs
    · exact ⟨fun h => ⟨h.1, h.2.1⟩, fun h => ⟨h.1, h.2, hall⟩⟩
    · exact ⟨fun h => ⟨h.1, h.2.1⟩, fun h => ⟨h.1, h.2, hall⟩⟩
  rw [hstep]
  unfold Acceptable
  constructor
  · rintro ⟨hsame, hnodup⟩
    have hvisited := (List.Sublist.append_left hprefix s.orderedSessionRefreshList).nodup hnodup
    exact ⟨hvisited, (hspec hvisited.of_append_right).2.2.mp hsame⟩
  · rintro ⟨hnodup, hstranded⟩
    obtain ⟨hids, -, hsame⟩ := hspec hnodup.of_append_right
    refine ⟨hsame.mpr hstranded, ?_⟩
    rw [hids]
    exact hnodup

/-- A message leaves the registry consistent exactly under the condition. -/
theorem consistent_step_iff (hinv : ProxyInv s) (hP : Consistent s) (m : Message) :
    Consistent (step s m) ↔ Acceptable s m := by
  cases m with
  | historyMediaInfoList mediaInfoListObj =>
      cases mediaInfoListObj with
      | none => exact iff_of_true hP.forget trivial
      | some objects =>
          by_cases hservice : s.hasService = true
          · by_cases hne : objects = []
            · subst hne
              refine iff_of_true ((consistent_iff_listed (hinv.step _)).mpr ?_)
                fun _ h => absurd rfl h
              rw [step_nil hservice]
              exact ⟨fun _ => rfl, hP.ordered, fun _ h => nomatch h⟩
            · exact consistent_history_iff hinv hP hservice hne
          · refine iff_of_true ?_ fun h => absurd h hservice
            rw [step_of_noService hservice]
            exact hP.forget
  | controllerList controllerListObj =>
      cases controllerListObj with
      | none => exact iff_of_true hP.forget trivial
      | some objects => exact consistent_controllerList_iff hinv hP objects

/-- The empty proxy is consistent. -/
theorem consistent_initial (hasService : Bool) : Consistent (.initial hasService) :=
  (consistent_iff_listed (proxyInv_initial hasService)).mpr
    ⟨fun _ => rfl, List.nodup_nil, fun _ h => nomatch h⟩

/-- The runs along which the registry is consistent. -/
theorem consistent_iff (hasService : Bool) (ms : List Message) :
    Always step Consistent (.initial hasService) ms ↔
      Meets step Acceptable (.initial hasService) ms :=
  always_iff_meets_of_inv (fun _ m h => h.step m) (fun _ m h hP => consistent_step_iff h hP m) ms
    (proxyInv_initial hasService) (consistent_initial hasService)

/-- A controller list that names a player of the history list before it lists its controller
twice. -/
theorem listed_twice :
    ¬ ∀ (hasService : Bool) (ms : List Message),
      Always step Consistent (.initial hasService) ms := by
  intro h
  have hrun := (h true
    [.historyMediaInfoList (some [⟨some "player", none, true, true⟩]),
      .controllerList (some [⟨some "player", none, true, true⟩])]).last
  have hordered := hrun.ordered
  change ["player", "player"].Nodup at hordered
  simp at hordered

end runs

end AvSession.Migrate.SuperProxy
