import AvSession.Lib.OrderedMap
import AvSession.Lib.Run
import Mathlib.Algebra.Group.Int.Defs

/-!
# Who listens to a cast

The router keeps, for each cast handle, the id of the session that casts and the listener that is
told of the cast. While the device is mirrored, sessions may listen beside the handle, in
`mirrorSessionMap_`.

* `CastHandleInfo`, `ListenerRouter` — the two maps.
* `subStartCast`, `registerCallback`, `unRegisterCallback`, `registerStashCallback`,
  `disconnectOtherSession` — the operations of sessions.
* `Labelled` — the listener of a handle is that of the session the handle is labelled with.
* `ToldOnce`, `Alone` — what is expected of the operations.
* `listeners_iff` — exactly the runs that keep to all three.

Each session has one listener, which is known by the id of the session. A session that is told of a
change reacts by operations of its own.
-/

namespace AvSession.Cast

open Std AvSession.Lib

/-! ## The router -/

section router

/-- Of the output device the id of the first device is kept. Source: av_router.h, CastHandleInfo. -/
structure CastHandleInfo where
  outputDeviceInfo : Option String
  sessionId : String
  avRouterListener : Option String
deriving DecidableEq

/-- A new entry. -/
def CastHandleInfo.init : CastHandleInfo := ⟨none, "-1", none⟩

/-- What listeners are told. -/
inductive CastNotice
  | disconnected (listener : String)
  | connected (listener : String)
deriving DecidableEq

/-- Source: avrouter_impl.h, AVRouterImpl. -/
structure ListenerRouter where
  castHandleToInfoMap : ExtTreeMap ℤ CastHandleInfo compare
  mirrorSessionMap : ExtTreeMap String String compare
  /-- What GetMirrorCastHandle returns. -/
  mirrorCastHandle : ℤ
  /-- What listeners were told in the operation that is running. -/
  told : List CastNotice

/-- `noMirrorCastHandle_` of avrouter_impl.h. -/
def noMirrorCastHandle : ℤ := -1

/-- The handle of RegisterStashCallback, INT64_MAX. -/
def stashHandle : ℤ := 2 ^ 63 - 1

/-- The first 32 bits are the provider, the last 32 bits are the id of the cast. -/
def castHandleOf (providerId : ℤ) (castId : BitVec 32) : ℤ := providerId * 2 ^ 32 + castId.toNat

/-- The provider of a handle. -/
def providerNumberOf (castHandle : ℤ) : ℤ := castHandle / 2 ^ 32

/-- The id of the cast of a handle. -/
def castIdOf (castHandle : ℤ) : BitVec 32 := BitVec.ofInt 32 castHandle

/-- The id of the device of a cast that has none. -/
def localDeviceId : String := "-1"

/-- What a cast is started with, and what the provider answers. -/
structure CastStart where
  deviceId : String
  providerId : ℤ
  /-- The id of StartCastSession; -1 is AVSESSION_ERROR. -/
  castId : BitVec 32
  /-- Whether the device could be added. -/
  added : Bool

namespace ListenerRouter

variable (r : ListenerRouter) (hasProvider : ℤ → Bool)

/-- The router when it starts. -/
def start : ListenerRouter := ⟨∅, ∅, noMirrorCastHandle, []⟩

/-- The entry of a handle is written. -/
def setInfo (castHandle : ℤ) (info : CastHandleInfo) : ListenerRouter :=
  { r with castHandleToInfoMap := r.castHandleToInfoMap.insert castHandle info }

/-- Listeners are told. -/
def tell (notices : List CastNotice) : ListenerRouter := { r with told := r.told ++ notices }

/-- The first cast of another session to a device.
Source: avrouter_impl.cpp, AVRouterImpl::StartCast. -/
def findCast (deviceId sessionId : String) : Option (ℤ × CastHandleInfo) :=
  r.castHandleToInfoMap.toList.find? fun e =>
    e.2.sessionId ≠ sessionId ∧ e.2.outputDeviceInfo = some deviceId

/-- Source: avrouter_impl.cpp, AVRouterImpl::StartCast. -/
def startCast (c : CastStart) (sessionId : String) : ListenerRouter × ℤ :=
  if hasProvider c.providerId then
    match r.findCast c.deviceId sessionId with
    | some (number, info) => (r.setInfo number { info with sessionId }, number)
    | none =>
        if c.castId = -1 then (r, -1)
        else
          let castHandle := castHandleOf c.providerId c.castId
          (r.setInfo castHandle ⟨some localDeviceId, sessionId, none⟩, castHandle)
  else (r, -1)

/-- Source: avrouter_impl.cpp, AVRouterImpl::RegisterCallback. -/
def registerCallback (castHandle : ℤ) (sessionId deviceId : String) : ListenerRouter :=
  if hasProvider (providerNumberOf castHandle) then
    if r.mirrorCastHandle = noMirrorCastHandle then
      match r.castHandleToInfoMap[castHandle]? with
      | some ⟨some device, label, some listener⟩ =>
          (r.setInfo castHandle ⟨some device, label, some sessionId⟩).tell
            [.disconnected listener, .connected sessionId]
      | some info =>
          r.setInfo castHandle { info with avRouterListener := some sessionId, sessionId }
      | none => r
    else
      match r.castHandleToInfoMap[castHandle]? with
      | some ⟨_, _, none⟩ =>
          (r.setInfo castHandle ⟨some deviceId, sessionId, some sessionId⟩).tell
            [.connected sessionId]
      | _ =>
          { r with mirrorSessionMap := r.mirrorSessionMap.insert sessionId sessionId }.tell
            [.connected sessionId]
  else r

/-- Source: avrouter_impl.cpp, AVRouterImpl::UnRegisterCallback. -/
def unRegisterCallback (castHandle : ℤ) (sessionId : String) : ListenerRouter :=
  if hasProvider (providerNumberOf castHandle) then
    let r' := match r.castHandleToInfoMap[castHandle]? with
      | some info =>
          if info.sessionId = sessionId then
            r.setInfo castHandle { info with avRouterListener := none }
          else r
      | none => r
    { r' with mirrorSessionMap := r'.mirrorSessionMap.erase sessionId }
  else r

/-- Source: avrouter_impl.cpp, AVRouterImpl::RegisterStashCallback. -/
def registerStashCallback (sessionId : String) : ListenerRouter :=
  let info := (r.castHandleToInfoMap[stashHandle]?).getD .init
  r.setInfo stashHandle { info with avRouterListener := some sessionId, sessionId }

/-- The device of a handle is changed, as `AddDevice`, `StopCast`, `SetServiceAllConnectState` and
`OnCastStateChange` do. -/
def deviceChange (castHandle : ℤ) (outputDeviceInfo : Option String) : ListenerRouter :=
  match r.castHandleToInfoMap[castHandle]? with
  | some info => r.setInfo castHandle { info with outputDeviceInfo }
  | none => r

/-- Source: avrouter_impl.cpp, AVRouterImpl::AddDevice. -/
def addDevice (castHandle : ℤ) (c : CastStart) : ListenerRouter × Bool :=
  let castHandle := castHandleOf c.providerId (castIdOf castHandle)
  if (r.castHandleToInfoMap[castHandle]?).bind (·.outputDeviceInfo) = some c.deviceId then (r, true)
  else if hasProvider c.providerId then
    if c.added then (r.deviceChange castHandle (some c.deviceId), true) else (r, false)
  else (r, false)

/-- If the device cannot be added, `DestroyCast` unregisters; what becomes of the device of the
handle then is another operation.
Source: avsession_item.cpp, AVSessionItem::SubStartCast, AVSessionItem::DestroyCast. -/
def addDeviceOrDestroyCast (castHandle : ℤ) (c : CastStart) (sessionId : String) : ListenerRouter :=
  match r.addDevice hasProvider castHandle c with
  | (r, true) => r
  | (r, false) =>
      if 0 < castHandle then r.unRegisterCallback hasProvider castHandle sessionId else r

/-- Source: avsession_item.cpp, AVSessionItem::SubStartCast, AVSessionItem::AddDevice. -/
def subStartCast (c : CastStart) (sessionId : String) : ListenerRouter :=
  let (r, castHandle) := r.startCast hasProvider c sessionId
  if castHandle = -1 then r
  else
    (r.registerCallback hasProvider castHandle sessionId c.deviceId).addDeviceOrDestroyCast
      hasProvider castHandle c sessionId

/-- A session joins the mirror cast.
Source: avsession_item.cpp, AVSessionItem::StartCast. -/
def joinMirror (sessionId deviceId : String) : ListenerRouter :=
  if r.mirrorCastHandle = noMirrorCastHandle then r
  else r.registerCallback hasProvider r.mirrorCastHandle sessionId deviceId

/-- The entry of a handle after `DisconnectOtherSession`. -/
def takeOver (sessionId : String) (info : CastHandleInfo) : CastHandleInfo :=
  match r.mirrorSessionMap[sessionId]? with
  | some listener =>
      if info.sessionId ≠ sessionId ∧ info.avRouterListener ≠ none then
        { info with sessionId, avRouterListener := some listener }
      else info
  | none => info

/-- The listeners that `DisconnectOtherSession` tells. -/
def others (sessionId : String) : List String :=
  r.mirrorSessionMap.toList.filterMap (fun e => if e.1 ≠ sessionId then some e.2 else none) ++
    r.castHandleToInfoMap.toList.filterMap fun e =>
      if e.2.sessionId ≠ sessionId ∧ sessionId ∈ r.mirrorSessionMap then e.2.avRouterListener
      else none

/-- Source: avrouter_impl.cpp, AVRouterImpl::DisconnectOtherSession. -/
def disconnectOtherSession (sessionId : String) : ListenerRouter :=
  { r with
    castHandleToInfoMap := r.castHandleToInfoMap.map fun _ info => r.takeOver sessionId info
    mirrorSessionMap := ∅ }.tell ((r.others sessionId).map .disconnected)

end ListenerRouter

end router

/-! ## Runs -/

section runs

/-- What can happen. -/
inductive ListenerOp
  | subStartCast (hasProvider : ℤ → Bool) (c : CastStart) (sessionId : String)
  | joinMirror (hasProvider : ℤ → Bool) (sessionId deviceId : String)
  | unRegisterCallback (hasProvider : ℤ → Bool) (castHandle : ℤ) (sessionId : String)
  | registerStashCallback (sessionId : String)
  | disconnectOtherSession (sessionId : String)
  | setMirrorCastHandle (castHandle : ℤ)
  | deviceChange (castHandle : ℤ) (outputDeviceInfo : Option String)

/-- The session of an operation. -/
def ListenerOp.session : ListenerOp → Option String
  | .subStartCast _ _ sessionId | .joinMirror _ sessionId _ | .unRegisterCallback _ _ sessionId
  | .registerStashCallback sessionId | .disconnectOtherSession sessionId => some sessionId
  | .setMirrorCastHandle _ | .deviceChange _ _ => none

namespace ListenerRouter

variable (r : ListenerRouter)

/-- One operation. -/
def apply : ListenerOp → ListenerRouter
  | .subStartCast hasProvider c sessionId => r.subStartCast hasProvider c sessionId
  | .joinMirror hasProvider sessionId deviceId => r.joinMirror hasProvider sessionId deviceId
  | .unRegisterCallback hasProvider castHandle sessionId =>
      r.unRegisterCallback hasProvider castHandle sessionId
  | .registerStashCallback sessionId => r.registerStashCallback sessionId
  | .disconnectOtherSession sessionId => r.disconnectOtherSession sessionId
  | .setMirrorCastHandle castHandle => { r with mirrorCastHandle := castHandle }
  | .deviceChange castHandle outputDeviceInfo => r.deviceChange castHandle outputDeviceInfo

/-- The router when an operation comes. -/
def ready : ListenerRouter := { r with told := [] }

/-- One step. -/
def step (op : ListenerOp) : ListenerRouter := r.ready.apply op

/-- The listener of a handle. -/
def listenerAt (castHandle : ℤ) : Option String :=
  (r.castHandleToInfoMap[castHandle]?).bind (·.avRouterListener)

/-- The listeners that were told of a disconnect. -/
def disconnected : List String :=
  r.told.filterMap fun
    | .disconnected listener => some listener
    | .connected _ => none

/-- The listeners that lose their place to a session, once for each place: in the mirror map,
and at the handles. -/
def losses (session : Option String) (r' : ListenerRouter) : List String :=
  r.mirrorSessionMap.toList.filterMap (fun e =>
    if session ≠ some e.2 ∧ r'.mirrorSessionMap[e.1]? ≠ some e.2 then some e.2 else none) ++
  r.castHandleToInfoMap.toList.filterMap fun e =>
    e.2.avRouterListener.filter fun listener =>
      session ≠ some listener ∧ r'.listenerAt e.1 ≠ some listener

/-- Whether a session listens anywhere. -/
def Registered (sessionId : String) : Prop :=
  sessionId ∈ r.mirrorSessionMap ∨ ∃ castHandle, r.listenerAt castHandle = some sessionId

end ListenerRouter

/-- The listener of a handle is that of the session that the handle is labelled with. -/
def Labelled (r : ListenerRouter) : Prop :=
  ∀ (castHandle : ℤ) (info : CastHandleInfo), r.castHandleToInfoMap[castHandle]? = some info →
    ∀ listener, info.avRouterListener = some listener → listener = info.sessionId

/-- A listener is told of a disconnect once for each place that it loses to another session. -/
def ToldOnce (r : ListenerRouter) (op : ListenerOp) : Prop :=
  List.Perm (r.step op).disconnected (r.losses op.session (r.step op))

/-- After a registered session has disconnected the others, no other session listens. -/
def Alone (r : ListenerRouter) : ListenerOp → Prop
  | .disconnectOtherSession sessionId =>
      r.Registered sessionId →
        (∀ castHandle listener,
          (r.step (.disconnectOtherSession sessionId)).listenerAt castHandle = some listener →
            listener = sessionId) ∧
        ∀ k listener : String,
          (r.step (.disconnectOtherSession sessionId)).mirrorSessionMap[k]? = some listener →
            listener = sessionId
  | .subStartCast _ _ _ | .joinMirror _ _ _ | .unRegisterCallback _ _ _
  | .registerStashCallback _ | .setMirrorCastHandle _ | .deviceChange _ _ => True

/-- No other session listens at a handle. -/
def ListenerRouter.FreeFor (r : ListenerRouter) (castHandle : ℤ) (sessionId : String) : Prop :=
  ∀ listener, r.listenerAt castHandle = some listener → listener = sessionId

/-- The condition: a session that starts a cast to the device of another cast finds no listener
there, or the provider of that cast and no mirror cast; a new handle has no listener of another
session, and neither has the handle of the stash; and a session disconnects the others while it is
in the mirror map or no other session listens at a handle. -/
def ListenersOk (r : ListenerRouter) : ListenerOp → Prop
  | .subStartCast hasProvider c sessionId =>
      hasProvider c.providerId = true →
        match r.findCast c.deviceId sessionId with
        | some (number, _) =>
            r.listenerAt number = none ∨
              hasProvider (providerNumberOf number) = true ∧ r.mirrorCastHandle = noMirrorCastHandle
        | none =>
            c.castId ≠ -1 → r.FreeFor (castHandleOf c.providerId c.castId) sessionId
  | .registerStashCallback sessionId => r.FreeFor stashHandle sessionId
  | .disconnectOtherSession sessionId =>
      r.Registered sessionId →
        sessionId ∈ r.mirrorSessionMap ∨ ∀ castHandle, r.FreeFor castHandle sessionId
  | .joinMirror _ _ _ | .unRegisterCallback _ _ _ | .setMirrorCastHandle _
  | .deviceChange _ _ => True

end runs

/-! ## One operation -/

section steps

variable {r r' : ListenerRouter} {session : Option String} {castHandle : ℤ}

/-- Writing one handle's information sets that handle's listener. -/
theorem listenerAt_setInfo (r : ListenerRouter) (castHandle h : ℤ) (info : CastHandleInfo) :
    (r.setInfo castHandle info).listenerAt h =
      if castHandle = h then info.avRouterListener else r.listenerAt h := by
  unfold ListenerRouter.listenerAt ListenerRouter.setInfo
  rw [OrderedMap.getElem?_insert]
  split_ifs <;> rfl

/-- The listener at a handle is the one its information names. -/
theorem listenerAt_of_some {info : CastHandleInfo}
    (h : r.castHandleToInfoMap[castHandle]? = some info) :
    r.listenerAt castHandle = info.avRouterListener := by
  unfold ListenerRouter.listenerAt
  rw [h]
  rfl

/-- Information whose listener is its own session keeps the labels. -/
theorem Labelled.setInfo (h : Labelled r) {info : CastHandleInfo}
    (hinfo : ∀ listener, info.avRouterListener = some listener → listener = info.sessionId) :
    Labelled (r.setInfo castHandle info) := by
  intro h' info' hget
  unfold ListenerRouter.setInfo at hget
  rw [OrderedMap.getElem?_insert] at hget
  split_ifs at hget
  · obtain rfl := Option.some.inj hget
    exact hinfo
  · exact h h' info' hget

/-- A listener at a handle, if it is not of the session, is there still. -/
def KeepsAt (session : Option String) (r r' : ListenerRouter) (castHandle : ℤ) : Prop :=
  ∀ listener, r.listenerAt castHandle = some listener →
    session = some listener ∨ r'.listenerAt castHandle = some listener

/-- A listener in the mirror map, if it is not of the session, is there still. -/
def KeepsMirror (session : Option String) (r r' : ListenerRouter) : Prop :=
  ∀ k listener : String, r.mirrorSessionMap[k]? = some listener →
    session = some listener ∨ r'.mirrorSessionMap[k]? = some listener

/-- Nobody of the mirrors is lost exactly when they are all kept. -/
theorem mirrorLosses_eq_nil_iff :
    r.mirrorSessionMap.toList.filterMap (fun e =>
        if session ≠ some e.2 ∧ r'.mirrorSessionMap[e.1]? ≠ some e.2 then some e.2 else none) =
      [] ↔ KeepsMirror session r r' := by
  rw [List.filterMap_eq_nil_iff]
  constructor
  · intro hall k listener hk
    have hnone := hall (k, listener) (OrderedMap.mem_toList.mpr hk)
    by_contra hlost
    rw [not_or] at hlost
    rw [if_pos hlost] at hnone
    cases hnone
  · rintro hkeeps ⟨k, listener⟩ he
    refine if_neg fun hlost => ?_
    rcases hkeeps k listener (OrderedMap.mem_toList.mp he) with hsession | hstays
    · exact hlost.1 hsession
    · exact hlost.2 hstays

/-- Nothing is lost exactly if every listener of another session keeps its place. -/
theorem losses_eq_nil_iff :
    r.losses session r' = [] ↔ KeepsMirror session r r' ∧ ∀ h, KeepsAt session r r' h := by
  unfold ListenerRouter.losses
  rw [List.append_eq_nil_iff, mirrorLosses_eq_nil_iff, List.filterMap_eq_nil_iff]
  refine and_congr_right fun _ => ⟨fun hall h listener hlistener => ?_, ?_⟩
  · obtain ⟨info, hinfo, hsome⟩ := Option.bind_eq_some_iff.mp hlistener
    have hnone := hall (h, info) (OrderedMap.mem_toList.mpr hinfo)
    rw [show info.avRouterListener = some listener from hsome] at hnone
    by_contra hlost
    rw [not_or] at hlost
    rw [Option.filter_some, if_pos (decide_eq_true hlost)] at hnone
    cases hnone
  · rintro hkeeps ⟨h, info⟩ he
    rw [OrderedMap.mem_toList] at he
    refine Option.filter_eq_none_iff.mpr fun listener hlistener hlost => ?_
    obtain ⟨hsession, hlost⟩ := of_decide_eq_true hlost
    rcases hkeeps h listener ((listenerAt_of_some he).trans hlistener) with hsame | hstays
    · exact hsession hsame
    · exact hlost hstays

/-- What is found at one key of a list without repetitions. -/
theorem filterMap_eq_singleton {κ ν α : Type*} {l : List (κ × ν)} {f : κ × ν → Option α} {k : κ}
    {v : ν} {a : α} (hnodup : (l.map Prod.fst).Nodup) (hmem : (k, v) ∈ l) (ha : f (k, v) = some a)
    (hother : ∀ e ∈ l, e.1 ≠ k → f e = none) : l.filterMap f = [a] := by
  induction l with
  | nil => cases hmem
  | cons e l ih =>
      rw [List.map_cons, List.nodup_cons] at hnodup
      rcases List.mem_cons.mp hmem with rfl | hmem'
      · have hrest : l.filterMap f = [] := by
          refine List.filterMap_eq_nil_iff.mpr fun e he => hother e (List.mem_cons_of_mem _ he) ?_
          rintro rfl
          exact hnodup.1 (List.mem_map.mpr ⟨e, he, rfl⟩)
        rw [List.filterMap_cons_some ha, hrest]
      · have hne : e.1 ≠ k := by
          rintro rfl
          exact hnodup.1 (List.mem_map.mpr ⟨_, hmem', rfl⟩)
        rw [List.filterMap_cons_none (hother e List.mem_cons_self hne)]
        exact ih hnodup.2 hmem' fun e he => hother e (List.mem_cons_of_mem _ he)

/-- One listener of another session loses its handle. -/
theorem losses_eq_singleton {info : CastHandleInfo} {listener : String}
    (hinfo : r.castHandleToInfoMap[castHandle]? = some info)
    (hlistener : info.avRouterListener = some listener) (hsession : session ≠ some listener)
    (hlost : r'.listenerAt castHandle ≠ some listener) (hmirror : KeepsMirror session r r')
    (hkeeps : ∀ h, h ≠ castHandle → KeepsAt session r r' h) :
    r.losses session r' = [listener] := by
  unfold ListenerRouter.losses
  rw [mirrorLosses_eq_nil_iff.mpr hmirror, List.nil_append]
  refine filterMap_eq_singleton OrderedMap.nodup_keys (OrderedMap.mem_toList.mpr hinfo) ?_ ?_
  · rw [hlistener, Option.filter_some]
    exact if_pos (decide_eq_true ⟨hsession, hlost⟩)
  · rintro ⟨h, info'⟩ he hne
    rw [OrderedMap.mem_toList] at he
    refine Option.filter_eq_none_iff.mpr fun l hl hlost' => ?_
    obtain ⟨hsession', hlost'⟩ := of_decide_eq_true hlost'
    rcases hkeeps h hne l ((listenerAt_of_some he).trans hl) with hsame | hstays
    · exact hsession' hsame
    · exact hlost' hstays

/-- Each session has only its own listener in the mirror map, and -1 is no handle. -/
structure Sound (r : ListenerRouter) : Prop where
  mirror : ∀ k listener : String, r.mirrorSessionMap[k]? = some listener → listener = k
  handle : r.castHandleToInfoMap[(-1 : ℤ)]? = none

/-- What an operation of a session at one handle leaves alone. -/
structure Local (sessionId : String) (castHandle : ℤ) (r r' : ListenerRouter) : Prop where
  listenerAt : ∀ h, h ≠ castHandle → r'.listenerAt h = r.listenerAt h
  mirror : ∀ k, k ≠ sessionId → r'.mirrorSessionMap[k]? = r.mirrorSessionMap[k]?
  sound : castHandle ≠ -1 → Sound r → Sound r'

variable {sessionId : String} {hasProvider : ℤ → Bool}

/-- Nothing done is local. -/
theorem Local.refl (r : ListenerRouter) : Local sessionId castHandle r r :=
  ⟨fun _ _ => rfl, fun _ _ => rfl, fun _ => id⟩

/-- Two local calls are local together. -/
theorem Local.trans {r'' : ListenerRouter} (h : Local sessionId castHandle r r')
    (h' : Local sessionId castHandle r' r'') : Local sessionId castHandle r r'' :=
  ⟨fun k hk => (h'.listenerAt k hk).trans (h.listenerAt k hk),
    fun k hk => (h'.mirror k hk).trans (h.mirror k hk),
    fun hne hsound => h'.sound hne (h.sound hne hsound)⟩

/-- Writing the handle's own information is local. -/
theorem Local.setInfo (r : ListenerRouter) (info : CastHandleInfo) :
    Local sessionId castHandle r (r.setInfo castHandle info) := by
  refine ⟨fun h hne => (listenerAt_setInfo r castHandle h info).trans (if_neg hne.symm),
    fun _ _ => rfl, fun hne hsound => ⟨hsound.mirror, ?_⟩⟩
  exact (OrderedMap.getElem?_insert castHandle (-1) info).trans ((if_neg hne).trans hsound.handle)

/-- Telling listeners is local. -/
theorem Local.tell (r : ListenerRouter) (notices : List CastNotice) :
    Local sessionId castHandle r (r.tell notices) :=
  ⟨fun _ _ => rfl, fun _ _ => rfl, fun _ h => ⟨h.mirror, h.handle⟩⟩

/-- An operation at one handle loses nobody else in the mirror map. -/
theorem Local.keepsMirror (h : Local sessionId castHandle r r') (hsound : Sound r) :
    KeepsMirror (some sessionId) r r' := by
  intro k listener hk
  obtain rfl := hsound.mirror k listener hk
  by_cases hsession : listener = sessionId
  · exact .inl (congrArg some hsession.symm)
  · exact .inr ((h.mirror listener hsession).trans hk)

/-- A local call keeps the listener at every other handle. -/
theorem Local.keepsAt (h : Local sessionId castHandle r r') {h' : ℤ} (hne : h' ≠ castHandle) :
    KeepsAt session r r' h' := fun _ hlistener => .inr ((h.listenerAt h' hne).trans hlistener)

/-- An operation at one handle loses nobody exactly if no other session loses the handle. -/
theorem Local.losses_eq_nil_iff (h : Local sessionId castHandle r r') (hsound : Sound r) :
    r.losses (some sessionId) r' = [] ↔ KeepsAt (some sessionId) r r' castHandle := by
  rw [AvSession.Cast.losses_eq_nil_iff, and_iff_right (h.keepsMirror hsound)]
  refine ⟨fun hall => hall castHandle, fun hkeeps h' => ?_⟩
  by_cases hne : h' = castHandle
  · rw [hne]
    exact hkeeps
  · exact h.keepsAt hne

/-- An operation of a session at one handle that tells nobody and registers nobody. -/
structure Settles (sessionId : String) (castHandle : ℤ) (r r' : ListenerRouter) : Prop where
  local' : Local sessionId castHandle r r'
  labelled : Labelled r → Labelled r'
  told : r'.told = r.told
  entry : ∀ info : CastHandleInfo, r.castHandleToInfoMap[castHandle]? = some info →
    r'.listenerAt castHandle = none ∨
      ∃ info' : CastHandleInfo, r'.castHandleToInfoMap[castHandle]? = some info' ∧
        info'.sessionId = info.sessionId ∧ info'.avRouterListener = info.avRouterListener

/-- Nothing done settles itself. -/
theorem Settles.refl (r : ListenerRouter) : Settles sessionId castHandle r r :=
  ⟨.refl r, id, rfl, fun info hinfo => .inr ⟨info, hinfo, rfl, rfl⟩⟩

/-- A change of a device touches no listener. -/
theorem Settles.deviceChange (r : ListenerRouter) (h : ℤ) (device : Option String) :
    Settles sessionId castHandle r (r.deviceChange h device) := by
  unfold ListenerRouter.deviceChange
  cases hget : r.castHandleToInfoMap[h]? with
  | none => exact .refl r
  | some info =>
      refine ⟨⟨fun h' _ => ?_, fun _ _ => rfl, fun _ hsound => ⟨hsound.mirror, ?_⟩⟩,
        fun hlabelled => hlabelled.setInfo (hlabelled h info hget), rfl,
        fun info' hinfo' => .inr ?_⟩
      · rw [listenerAt_setInfo]
        split_ifs with heq
        · rw [← heq, listenerAt_of_some hget]
        · rfl
      · refine (OrderedMap.getElem?_insert h (-1) _).trans ((if_neg ?_).trans hsound.handle)
        rintro rfl
        rw [hsound.handle] at hget
        cases hget
      · by_cases heq : h = castHandle
        · subst heq
          obtain rfl := Option.some.inj (hget.symm.trans hinfo')
          exact ⟨_, (OrderedMap.getElem?_insert h h _).trans (if_pos rfl), rfl, rfl⟩
        · refine ⟨info', (OrderedMap.getElem?_insert h castHandle _).trans ?_, rfl, rfl⟩
          rw [if_neg heq]
          exact hinfo'

/-- A session leaves the mirror map. -/
theorem Local.leaveMirrorMap (castHandle : ℤ) (r : ListenerRouter) :
    Local sessionId castHandle r
      { r with mirrorSessionMap := r.mirrorSessionMap.erase sessionId } := by
  refine ⟨fun _ _ => rfl, fun k hk => ?_, fun _ hsound => ⟨fun k listener hk => ?_, hsound.handle⟩⟩
  · exact (OrderedMap.getElem?_erase sessionId k).trans (if_neg hk.symm)
  · rw [OrderedMap.getElem?_erase] at hk
    split_ifs at hk
    exact hsound.mirror k listener hk

/-- What `UnRegisterCallback` does. -/
theorem Settles.unRegisterCallback (hasProvider : ℤ → Bool) (castHandle : ℤ) (sessionId : String)
    (r : ListenerRouter) :
    Settles sessionId castHandle r (r.unRegisterCallback hasProvider castHandle sessionId) := by
  unfold ListenerRouter.unRegisterCallback
  split_ifs
  · dsimp only
    split
    · split_ifs
      · refine ⟨(Local.setInfo r _).trans (.leaveMirrorMap castHandle _),
          fun h => h.setInfo nofun, rfl, fun _ _ => .inl ?_⟩
        exact (listenerAt_setInfo r castHandle castHandle _).trans (if_pos rfl)
      · exact ⟨.leaveMirrorMap castHandle r, id, rfl,
          fun info hinfo => .inr ⟨info, hinfo, rfl, rfl⟩⟩
    · exact ⟨.leaveMirrorMap castHandle r, id, rfl,
        fun info hinfo => .inr ⟨info, hinfo, rfl, rfl⟩⟩
  · exact .refl r

/-- AddDevice leaves the router or changes the device of one handle. -/
theorem addDevice_cases (r : ListenerRouter) (hasProvider : ℤ → Bool) (castHandle : ℤ)
    (c : CastStart) :
    (∃ added, r.addDevice hasProvider castHandle c = (r, added)) ∨
      ∃ h device, r.addDevice hasProvider castHandle c = (r.deviceChange h device, true) := by
  unfold ListenerRouter.addDevice
  dsimp only
  split_ifs
  · exact .inl ⟨_, rfl⟩
  · exact .inr ⟨_, _, rfl⟩
  · exact .inl ⟨_, rfl⟩
  · exact .inl ⟨_, rfl⟩

/-- What follows the registration of a listener. -/
theorem Settles.addDeviceOrDestroyCast (hasProvider : ℤ → Bool) (castHandle : ℤ)
    (sessionId : String) (r : ListenerRouter) (c : CastStart) :
    Settles sessionId castHandle r
      (r.addDeviceOrDestroyCast hasProvider castHandle c sessionId) := by
  unfold ListenerRouter.addDeviceOrDestroyCast
  rcases addDevice_cases r hasProvider castHandle c with ⟨added, hadd⟩ | ⟨h, device, hadd⟩
  · rw [hadd]
    cases added with
    | true => exact .refl r
    | false =>
        dsimp only
        split_ifs
        · exact .unRegisterCallback hasProvider castHandle sessionId r
        · exact .refl r
  · rw [hadd]
    exact .deviceChange r h device

/-- A session that joins beside a handle is in the mirror map. -/
theorem Local.joinMirrorMap (r : ListenerRouter) :
    Local sessionId castHandle r
      { r with mirrorSessionMap := r.mirrorSessionMap.insert sessionId sessionId } := by
  refine ⟨fun _ _ => rfl, fun k hk => ?_, fun _ hsound => ⟨fun k listener hk => ?_, hsound.handle⟩⟩
  · exact (OrderedMap.getElem?_insert sessionId k sessionId).trans (if_neg hk.symm)
  · rw [OrderedMap.getElem?_insert] at hk
    split_ifs at hk with heq
    · exact (Option.some.inj hk).symm.trans heq
    · exact hsound.mirror k listener hk

/-- What `RegisterCallback` does at a handle without a listener: nothing, or the session listens. -/
theorem registerCallback_of_none (hasProvider : ℤ → Bool) (sessionId deviceId : String)
    {info : CastHandleInfo}
    (hinfo : r.castHandleToInfoMap[castHandle]? = some info)
    (hlistener : info.avRouterListener = none) :
    (hasProvider (providerNumberOf castHandle) = false ∧
        r.registerCallback hasProvider castHandle sessionId deviceId = r) ∨
      ∃ device notices, r.registerCallback hasProvider castHandle sessionId deviceId =
        (r.setInfo castHandle ⟨device, sessionId, some sessionId⟩).tell notices ∧
          (notices = [] ∨ notices = [.connected sessionId]) := by
  obtain ⟨device, label, listener⟩ := info
  obtain rfl : listener = none := hlistener
  unfold ListenerRouter.registerCallback
  cases hprovider : hasProvider (providerNumberOf castHandle) with
  | false => exact .inl ⟨rfl, if_neg Bool.false_ne_true⟩
  | true =>
      right
      rw [if_pos rfl, hinfo]
      split_ifs
      · refine ⟨device, [], ?_, .inl rfl⟩
        unfold ListenerRouter.tell
        rw [List.append_nil]
        cases device with
        | none => rfl
        | some device => rfl
      · exact ⟨some deviceId, _, rfl, .inr rfl⟩

/-- What `RegisterCallback` does at a handle with a listener. -/
theorem registerCallback_of_some (hasProvider : ℤ → Bool) (sessionId deviceId : String)
    {device label listener : String}
    (hinfo : r.castHandleToInfoMap[castHandle]? = some ⟨some device, label, some listener⟩) :
    r.registerCallback hasProvider castHandle sessionId deviceId =
      if hasProvider (providerNumberOf castHandle) then
        if r.mirrorCastHandle = noMirrorCastHandle then
          (r.setInfo castHandle ⟨some device, label, some sessionId⟩).tell
            [.disconnected listener, .connected sessionId]
        else
          { r with mirrorSessionMap := r.mirrorSessionMap.insert sessionId sessionId }.tell
            [.connected sessionId]
      else r := by
  unfold ListenerRouter.registerCallback
  rw [hinfo]

/-- What `RegisterCallback` does beside a handle that has a listener. -/
theorem registerCallback_of_mirror (hasProvider : ℤ → Bool) (sessionId deviceId : String)
    (hmirror : r.mirrorCastHandle ≠ noMirrorCastHandle)
    (hfree : ¬ ∃ info, r.castHandleToInfoMap[castHandle]? = some info ∧
      info.avRouterListener = none) :
    r.registerCallback hasProvider castHandle sessionId deviceId = r ∨
      r.registerCallback hasProvider castHandle sessionId deviceId =
        ListenerRouter.tell
          { r with mirrorSessionMap := r.mirrorSessionMap.insert sessionId sessionId }
          [.connected sessionId] := by
  unfold ListenerRouter.registerCallback
  rw [if_neg hmirror]
  split_ifs
  · right
    split
    · rename_i hinfo
      exact absurd ⟨_, hinfo, rfl⟩ hfree
    · rfl
  · exact .inl rfl

/-- The same notices tell the same disconnects. -/
theorem disconnected_of_told {r' : ListenerRouter} (h : r'.told = r.told) :
    r'.disconnected = r.disconnected := by
  unfold ListenerRouter.disconnected
  rw [h]

/-- An operation that takes the handle of another session, and tells it. -/
theorem Settles.told_of_taken {r₂ r₃ : ListenerRouter}
    (hsettles : Settles sessionId castHandle r₂ r₃) (hlocal : Local sessionId castHandle r r₂)
    (hsound : Sound r) (hlabelled : Labelled r₂) {info info₂ : CastHandleInfo} {listener : String}
    (hinfo : r.castHandleToInfoMap[castHandle]? = some info)
    (hlistener : info.avRouterListener = some listener) (hne : sessionId ≠ listener)
    (hinfo₂ : r₂.castHandleToInfoMap[castHandle]? = some info₂)
    (hlistener₂ : info₂.avRouterListener = some sessionId) (htold : r₂.disconnected = [listener]) :
    Labelled r₃ ∧ r₃.disconnected.Perm (r.losses (some sessionId) r₃) := by
  refine ⟨hsettles.labelled hlabelled, ?_⟩
  have hboth := hlocal.trans hsettles.local'
  rw [disconnected_of_told hsettles.told, htold, List.singleton_perm, eq_comm]
  refine losses_eq_singleton hinfo hlistener (fun h => hne (Option.some.inj h)) ?_
    (hboth.keepsMirror hsound) fun h => hboth.keepsAt
  rcases hsettles.entry info₂ hinfo₂ with hnone | ⟨info₃, hinfo₃, -, hsame⟩
  · rw [hnone]
    nofun
  · rw [listenerAt_of_some hinfo₃, hsame, hlistener₂]
    exact fun h => hne (Option.some.inj h)

/-- An operation that labels the handle of another session, but leaves its listener. -/
theorem Settles.not_of_stale {r₂ r₃ : ListenerRouter}
    (hsettles : Settles sessionId castHandle r₂ r₃) (hlocal : Local sessionId castHandle r r₂)
    (hsound : Sound r) {info₂ : CastHandleInfo} {listener : String}
    (hlistener : r.listenerAt castHandle = some listener) (hne : sessionId ≠ listener)
    (hinfo₂ : r₂.castHandleToInfoMap[castHandle]? = some info₂)
    (hlabel₂ : info₂.sessionId = sessionId) (hlistener₂ : info₂.avRouterListener = some listener)
    (htold : r₂.disconnected = []) :
    ¬ (Labelled r₃ ∧ r₃.disconnected.Perm (r.losses (some sessionId) r₃)) := by
  rintro ⟨hlabelled, hdisconnected⟩
  rcases hsettles.entry info₂ hinfo₂ with hnone | ⟨info₃, hinfo₃, hlabel, hsame⟩
  · rw [disconnected_of_told hsettles.told, htold, List.nil_perm,
      (hlocal.trans hsettles.local').losses_eq_nil_iff hsound] at hdisconnected
    rcases hdisconnected listener hlistener with hsession | hstays
    · exact hne (Option.some.inj hsession)
    · rw [hnone] at hstays
      cases hstays
  · have hsession := hlabelled castHandle info₃ hinfo₃ listener (hsame.trans hlistener₂)
    exact hne (hlabel₂.symm.trans (hlabel.symm.trans hsession.symm))

/-- An operation at one handle that tells nobody keeps to it exactly if no other session listened
there, where no other session listens after it. -/
theorem Local.told_iff_free {r₃ : ListenerRouter} (h : Local sessionId castHandle r r₃)
    (hsound : Sound r) (hlabelled : Labelled r₃) (htold : r₃.disconnected = [])
    (hafter : r₃.listenerAt castHandle = none ∨ r₃.listenerAt castHandle = some sessionId) :
    Labelled r₃ ∧ r₃.disconnected.Perm (r.losses (some sessionId) r₃) ↔
      r.FreeFor castHandle sessionId := by
  rw [and_iff_right hlabelled, htold, List.nil_perm, h.losses_eq_nil_iff hsound]
  refine ⟨fun hkeeps listener hlistener => ?_, fun hfree listener hlistener =>
    .inl (congrArg some (hfree listener hlistener).symm)⟩
  rcases hkeeps listener hlistener with hsession | hstays
  · exact (Option.some.inj hsession).symm
  · rcases hafter with hnone | hsome
    · rw [hnone] at hstays
      cases hstays
    · exact (Option.some.inj (hsome.symm.trans hstays)).symm

/-- A listener that begins to listen at a handle where none is. -/
theorem Settles.registerCallback {r₃ : ListenerRouter} {info : CastHandleInfo} {deviceId : String}
    (hsettles : Settles sessionId castHandle
      (r.registerCallback hasProvider castHandle sessionId deviceId) r₃)
    (hlabelled : Labelled r) (htold : r.told = [])
    (hinfo : r.castHandleToInfoMap[castHandle]? = some info)
    (hlistener : info.avRouterListener = none) :
    Local sessionId castHandle r r₃ ∧ Labelled r₃ ∧ r₃.disconnected = [] ∧
      (r₃.listenerAt castHandle = none ∨ r₃.listenerAt castHandle = some sessionId) := by
  rcases registerCallback_of_none hasProvider sessionId deviceId hinfo hlistener with
    ⟨-, hsame⟩ | ⟨device, notices, hset, hnotices⟩
  · rw [hsame] at hsettles
    refine ⟨hsettles.local', hsettles.labelled hlabelled, ?_, .inl ?_⟩
    · rw [disconnected_of_told hsettles.told]
      unfold ListenerRouter.disconnected
      rw [htold]
      rfl
    · rcases hsettles.entry info hinfo with hnone | ⟨info', hinfo', -, hsame'⟩
      · exact hnone
      · rw [listenerAt_of_some hinfo', hsame', hlistener]
  · rw [hset] at hsettles
    have hinfo₂ : (r.setInfo castHandle ⟨device, sessionId, some sessionId⟩).castHandleToInfoMap[
        castHandle]? = some ⟨device, sessionId, some sessionId⟩ :=
      (OrderedMap.getElem?_insert castHandle castHandle _).trans (if_pos rfl)
    refine ⟨((Local.setInfo r _).trans (.tell _ notices)).trans hsettles.local',
      hsettles.labelled (hlabelled.setInfo fun listener hl => (Option.some.inj hl).symm), ?_, ?_⟩
    · rw [disconnected_of_told hsettles.told]
      unfold ListenerRouter.disconnected
      show (r.told ++ notices).filterMap _ = []
      rw [htold, List.nil_append]
      rcases hnotices with rfl | rfl
      · rfl
      · rfl
    · rcases hsettles.entry _ hinfo₂ with hnone | ⟨info', hinfo', -, hsame'⟩
      · exact .inl hnone
      · exact .inr ((listenerAt_of_some hinfo').trans hsame')

/-- A cast id of its own gives a handle of its own. -/
theorem castHandleOf_ne {providerId : ℤ} {castId : BitVec 32} (h : castId ≠ -1) :
    castHandleOf providerId castId ≠ -1 := by
  intro heq
  have hlt : castId.toNat < 2 ^ 32 := castId.isLt
  have hmax : castId.toNat = 2 ^ 32 - 1 := by
    unfold castHandleOf at heq
    omega
  exact h (BitVec.eq_of_toNat_eq hmax)

/-- A cast that is found is another session's, on the same device. -/
theorem mem_of_findCast {deviceId : String} {number : ℤ} {info : CastHandleInfo}
    (h : r.findCast deviceId sessionId = some (number, info)) :
    r.castHandleToInfoMap[number]? = some info ∧ info.sessionId ≠ sessionId ∧
      info.outputDeviceInfo = some deviceId := by
  unfold ListenerRouter.findCast at h
  have hp := List.find?_some h
  exact ⟨OrderedMap.mem_toList.mp (List.mem_of_find?_eq_some h), of_decide_eq_true hp⟩

/-- The cast of another session is shared. -/
theorem subStartCast_of_shared {c : CastStart} {number : ℤ} {info : CastHandleInfo}
    (hprovider : hasProvider c.providerId = true)
    (hfind : r.findCast c.deviceId sessionId = some (number, info)) (hne : number ≠ -1) :
    r.subStartCast hasProvider c sessionId =
      ((r.setInfo number { info with sessionId }).registerCallback hasProvider number sessionId
        c.deviceId).addDeviceOrDestroyCast hasProvider number c sessionId := by
  unfold ListenerRouter.subStartCast ListenerRouter.startCast
  rw [if_pos hprovider, hfind]
  exact if_neg hne

/-- On a device already cast to, nobody may be listening at the shared handle. -/
theorem listenersOk_of_shared {c : CastStart} {number : ℤ} {info : CastHandleInfo}
    (hprovider : hasProvider c.providerId = true)
    (hfind : r.findCast c.deviceId sessionId = some (number, info)) :
    ListenersOk r (.subStartCast hasProvider c sessionId) ↔
      r.listenerAt number = none ∨
        hasProvider (providerNumberOf number) = true ∧
          r.mirrorCastHandle = noMirrorCastHandle := by
  unfold ListenersOk
  dsimp only
  rw [hfind]
  exact ⟨fun h => h hprovider, fun h _ => h⟩

/-- A cast is started with a handle of its own. -/
theorem subStartCast_of_fresh {c : CastStart} (hprovider : hasProvider c.providerId = true)
    (hfind : r.findCast c.deviceId sessionId = none) (hcast : c.castId ≠ -1) :
    r.subStartCast hasProvider c sessionId =
      ((r.setInfo (castHandleOf c.providerId c.castId)
        ⟨some localDeviceId, sessionId, none⟩).registerCallback hasProvider
          (castHandleOf c.providerId c.castId) sessionId c.deviceId).addDeviceOrDestroyCast
            hasProvider (castHandleOf c.providerId c.castId) c sessionId := by
  unfold ListenerRouter.subStartCast ListenerRouter.startCast
  rw [if_pos hprovider, hfind]
  dsimp only
  rw [if_neg hcast]
  exact if_neg (castHandleOf_ne hcast)

/-- On a new handle nobody but the session may be listening. -/
theorem listenersOk_of_fresh {c : CastStart} (hprovider : hasProvider c.providerId = true)
    (hfind : r.findCast c.deviceId sessionId = none) (hcast : c.castId ≠ -1) :
    ListenersOk r (.subStartCast hasProvider c sessionId) ↔
      r.FreeFor (castHandleOf c.providerId c.castId) sessionId := by
  unfold ListenersOk
  dsimp only
  rw [hfind]
  exact ⟨fun h => h hprovider hcast, fun h _ _ => h⟩

/-- The information written is found. -/
theorem getElem?_setInfo_self (r : ListenerRouter) (castHandle : ℤ) (info : CastHandleInfo) :
    (r.setInfo castHandle info).castHandleToInfoMap[castHandle]? = some info :=
  (OrderedMap.getElem?_insert castHandle castHandle info).trans (if_pos rfl)

/-- The last information written counts. -/
theorem setInfo_setInfo (r : ListenerRouter) (castHandle : ℤ) (info info' : CastHandleInfo) :
    (r.setInfo castHandle info).setInfo castHandle info' = r.setInfo castHandle info' := by
  unfold ListenerRouter.setInfo
  congr 1
  refine ExtTreeMap.ext_getElem? fun h => ?_
  simp only [OrderedMap.getElem?_insert]
  split_ifs <;> rfl

/-- A shared handle without a listener: whoever listens there afterwards is told. -/
theorem shared_of_unlistened (hlabelled : Labelled r) (hsound : Sound r) (htold : r.told = [])
    {number : ℤ} {info : CastHandleInfo} {deviceId : String} {r₃ : ListenerRouter}
    (hne : number ≠ -1) (hinfo : r.castHandleToInfoMap[number]? = some info)
    (hfree : info.avRouterListener = none)
    (hsettles : Settles sessionId number ((r.setInfo number { info with sessionId }).registerCallback
      hasProvider number sessionId deviceId) r₃) :
    (Labelled r₃ ∧ r₃.disconnected.Perm (r.losses (some sessionId) r₃)) ∧ Sound r₃ := by
  have hlabelled₁ : Labelled (r.setInfo number { info with sessionId }) :=
    hlabelled.setInfo fun listener hlistener => by
      rw [hfree] at hlistener
      cases hlistener
  obtain ⟨hlocal, hlabelled₃, htold₃, hafter⟩ :=
    hsettles.registerCallback hlabelled₁ htold (getElem?_setInfo_self r number _) hfree
  have hboth := (Local.setInfo r _).trans hlocal
  refine ⟨(hboth.told_iff_free hsound hlabelled₃ htold₃ hafter).mpr ?_, hboth.sound hne hsound⟩
  intro listener hlistener
  rw [listenerAt_of_some hinfo, hfree] at hlistener
  cases hlistener

/-- A shared handle with the listener of another session: that session is told exactly if the
registration takes its place. -/
theorem shared_iff_of_listened (hsound : Sound r) (hlabelled : Labelled r) (htold : r.told = [])
    {number : ℤ} {listener deviceId : String} {r₃ : ListenerRouter} (hne : number ≠ -1)
    (hinfo : r.castHandleToInfoMap[number]? = some ⟨some deviceId, listener, some listener⟩)
    (hother : sessionId ≠ listener)
    (hsettles : Settles sessionId number ((r.setInfo number
      ⟨some deviceId, sessionId, some listener⟩).registerCallback
        hasProvider number sessionId deviceId) r₃) :
    (Labelled r₃ ∧ r₃.disconnected.Perm (r.losses (some sessionId) r₃) ↔
      hasProvider (providerNumberOf number) = true ∧ r.mirrorCastHandle = noMirrorCastHandle) ∧
      Sound r₃ := by
  set r₁ := r.setInfo number ⟨some deviceId, sessionId, some listener⟩ with hr₁
  have hlocal₁ : Local sessionId number r r₁ := .setInfo r _
  have hinfo₁ : r₁.castHandleToInfoMap[number]? = some ⟨some deviceId, sessionId, some listener⟩ :=
    getElem?_setInfo_self r number _
  have hlistener : r.listenerAt number = some listener := listenerAt_of_some hinfo
  have hcallback := registerCallback_of_some hasProvider sessionId deviceId hinfo₁
  cases hnumber : hasProvider (providerNumberOf number) with
  | false =>
      rw [hnumber, if_neg Bool.false_ne_true] at hcallback
      rw [hcallback] at hsettles
      refine ⟨iff_of_false ?_ fun h => Bool.false_ne_true h.1,
        (hlocal₁.trans hsettles.local').sound hne hsound⟩
      refine hsettles.not_of_stale hlocal₁ hsound hlistener hother hinfo₁ rfl rfl ?_
      unfold ListenerRouter.disconnected
      rw [show r₁.told = [] from htold]
      rfl
  | true =>
      by_cases hmirror : r₁.mirrorCastHandle = noMirrorCastHandle
      · rw [hnumber, if_pos rfl, if_pos hmirror] at hcallback
        rw [hcallback] at hsettles
        have hlocal₂ : Local sessionId number r
            ((r₁.setInfo number ⟨some deviceId, sessionId, some sessionId⟩).tell
              [.disconnected listener, .connected sessionId]) :=
          (hlocal₁.trans (.setInfo r₁ _)).trans (.tell _ _)
        have hlabelled₂ : Labelled (r₁.setInfo number
            ⟨some deviceId, sessionId, some sessionId⟩) := by
          rw [hr₁, setInfo_setInfo]
          exact hlabelled.setInfo fun _ h => (Option.some.inj h).symm
        refine ⟨iff_of_true ?_ ⟨rfl, hmirror⟩, (hlocal₂.trans hsettles.local').sound hne hsound⟩
        refine hsettles.told_of_taken hlocal₂ hsound hlabelled₂ hinfo rfl hother
          (getElem?_setInfo_self r₁ number _) rfl ?_
        unfold ListenerRouter.disconnected
        show (r.told ++ _).filterMap _ = _
        rw [htold]
        rfl
      · rw [hnumber, if_pos rfl, if_neg hmirror] at hcallback
        rw [hcallback] at hsettles
        have hlocal₂ : Local sessionId number r
            (ListenerRouter.tell
              { r₁ with mirrorSessionMap := r₁.mirrorSessionMap.insert sessionId sessionId }
              [.connected sessionId]) :=
          (hlocal₁.trans (.joinMirrorMap r₁)).trans (.tell _ _)
        refine ⟨iff_of_false ?_ fun h => hmirror h.2,
          (hlocal₂.trans hsettles.local').sound hne hsound⟩
        refine hsettles.not_of_stale hlocal₂ hsound hlistener hother hinfo₁ rfl rfl ?_
        unfold ListenerRouter.disconnected
        show (r.told ++ _).filterMap _ = _
        rw [htold]
        rfl

/-- The cast of another session is shared: this keeps to it exactly if no listener is at the
handle, or the listener is told. -/
theorem subStartCast_iff_of_shared (hlabelled : Labelled r) (hsound : Sound r) (htold : r.told = [])
    {c : CastStart} {number : ℤ} {info : CastHandleInfo}
    (hprovider : hasProvider c.providerId = true)
    (hfind : r.findCast c.deviceId sessionId = some (number, info)) :
    (Labelled (r.subStartCast hasProvider c sessionId) ∧
        (r.subStartCast hasProvider c sessionId).disconnected.Perm
          (r.losses (some sessionId) (r.subStartCast hasProvider c sessionId)) ↔
      ListenersOk r (.subStartCast hasProvider c sessionId)) ∧
      Sound (r.subStartCast hasProvider c sessionId) := by
  obtain ⟨hinfo, hother, hdevice⟩ := mem_of_findCast hfind
  have hne : number ≠ -1 := by
    rintro rfl
    rw [hsound.handle] at hinfo
    cases hinfo
  rw [subStartCast_of_shared hprovider hfind hne, listenersOk_of_shared hprovider hfind]
  have hsettles : Settles sessionId number ((r.setInfo number
      { info with sessionId }).registerCallback hasProvider number sessionId c.deviceId) _ :=
    .addDeviceOrDestroyCast hasProvider number sessionId _ c
  obtain ⟨device, label, avRouterListener⟩ := info
  obtain rfl : device = some c.deviceId := hdevice
  cases avRouterListener with
  | none =>
      obtain ⟨htold₃, hsound₃⟩ :=
        shared_of_unlistened hlabelled hsound htold hne hinfo rfl hsettles
      exact ⟨iff_of_true htold₃ (.inl (listenerAt_of_some hinfo)), hsound₃⟩
  | some listener =>
      obtain rfl : listener = label := hlabelled number _ hinfo listener rfl
      have hsome : r.listenerAt number ≠ none := by
        rw [listenerAt_of_some hinfo]
        nofun
      rw [or_iff_right hsome]
      exact shared_iff_of_listened hsound hlabelled htold hne hinfo hother.symm hsettles

/-- An operation that tells nobody keeps to it if nobody loses a place. -/
theorem told_of_kept (hlabelled : Labelled r') (htold : r.told = [])
    (hdisconnected : r'.disconnected = r.disconnected) (hmirror : KeepsMirror session r r')
    (hkeeps : ∀ h, KeepsAt session r r' h) :
    Labelled r' ∧ r'.disconnected.Perm (r.losses session r') := by
  refine ⟨hlabelled, ?_⟩
  rw [losses_eq_nil_iff.mpr ⟨hmirror, hkeeps⟩, hdisconnected]
  unfold ListenerRouter.disconnected
  rw [htold]
  exact .nil

/-- A call that changes no listener owes no notice. -/
theorem told_of_same (hlabelled : Labelled r) (htold : r.told = []) (session : Option String) :
    Labelled r ∧ r.disconnected.Perm (r.losses session r) :=
  told_of_kept hlabelled htold rfl (fun _ _ h => .inr h) fun _ _ h => .inr h

/-- A start of a cast keeps to it exactly under the condition. -/
theorem subStartCast_iff (hasProvider : ℤ → Bool) (sessionId : String) (hlabelled : Labelled r)
    (hsound : Sound r) (htold : r.told = []) (c : CastStart) :
    (Labelled (r.subStartCast hasProvider c sessionId) ∧
        (r.subStartCast hasProvider c sessionId).disconnected.Perm
          (r.losses (some sessionId) (r.subStartCast hasProvider c sessionId)) ↔
      ListenersOk r (.subStartCast hasProvider c sessionId)) ∧
      Sound (r.subStartCast hasProvider c sessionId) := by
  have hsame := told_of_same hlabelled htold (some sessionId)
  by_cases hprovider : hasProvider c.providerId = true
  · cases hfind : r.findCast c.deviceId sessionId with
    | some e => exact subStartCast_iff_of_shared hlabelled hsound htold hprovider hfind
    | none =>
        by_cases hcast : c.castId = -1
        · have hrouter : r.subStartCast hasProvider c sessionId = r := by
            unfold ListenerRouter.subStartCast ListenerRouter.startCast
            rw [if_pos hprovider, hfind]
            dsimp only
            rw [if_pos hcast]
            exact if_pos rfl
          have hok : ListenersOk r (.subStartCast hasProvider c sessionId) := by
            unfold ListenersOk
            dsimp only
            rw [hfind]
            exact fun _ hne => absurd hcast hne
          rw [hrouter]
          exact ⟨iff_of_true hsame hok, hsound⟩
        · rw [subStartCast_of_fresh hprovider hfind hcast,
            listenersOk_of_fresh hprovider hfind hcast]
          have hlabelled₁ : Labelled (r.setInfo (castHandleOf c.providerId c.castId)
              ⟨some localDeviceId, sessionId, none⟩) := hlabelled.setInfo nofun
          have hsettles := Settles.addDeviceOrDestroyCast hasProvider
            (castHandleOf c.providerId c.castId) sessionId
            ((r.setInfo (castHandleOf c.providerId c.castId)
              ⟨some localDeviceId, sessionId, none⟩).registerCallback hasProvider
                (castHandleOf c.providerId c.castId) sessionId c.deviceId) c
          obtain ⟨hlocal, hlabelled₃, htold₃, hafter⟩ :=
            hsettles.registerCallback hlabelled₁ htold (getElem?_setInfo_self r _ _) rfl
          have hboth := (Local.setInfo r _).trans hlocal
          exact ⟨hboth.told_iff_free hsound hlabelled₃ htold₃ hafter,
            hboth.sound (castHandleOf_ne hcast) hsound⟩
  · have hrouter : r.subStartCast hasProvider c sessionId = r := by
      unfold ListenerRouter.subStartCast ListenerRouter.startCast
      rw [if_neg hprovider]
      exact if_pos rfl
    have hok : ListenersOk r (.subStartCast hasProvider c sessionId) :=
      fun h => absurd h hprovider
    rw [hrouter]
    exact ⟨iff_of_true hsame hok, hsound⟩

/-- A session that joins the mirror cast takes no place of another. -/
theorem joinMirror_keeps (hasProvider : ℤ → Bool) (sessionId : String) (hlabelled : Labelled r)
    (hsound : Sound r) (htold : r.told = []) (deviceId : String) :
    (Labelled (r.joinMirror hasProvider sessionId deviceId) ∧
        (r.joinMirror hasProvider sessionId deviceId).disconnected.Perm
          (r.losses (some sessionId) (r.joinMirror hasProvider sessionId deviceId))) ∧
      Sound (r.joinMirror hasProvider sessionId deviceId) := by
  unfold ListenerRouter.joinMirror
  split_ifs with hmirror
  · exact ⟨told_of_same hlabelled htold _, hsound⟩
  · by_cases hfree : ∃ info, r.castHandleToInfoMap[r.mirrorCastHandle]? = some info ∧
        info.avRouterListener = none
    · obtain ⟨info, hinfo, hlistener⟩ := hfree
      have hsettles : Settles sessionId r.mirrorCastHandle
          (r.registerCallback hasProvider r.mirrorCastHandle sessionId deviceId) _ := .refl _
      obtain ⟨hlocal, hlabelled₃, htold₃, hafter⟩ :=
        hsettles.registerCallback hlabelled htold hinfo hlistener
      refine ⟨(hlocal.told_iff_free hsound hlabelled₃ htold₃ hafter).mpr ?_,
        hlocal.sound hmirror hsound⟩
      intro listener hsome
      rw [listenerAt_of_some hinfo, hlistener] at hsome
      cases hsome
    · rcases registerCallback_of_mirror hasProvider sessionId deviceId hmirror hfree with
        hsame | hjoins
      · rw [hsame]
        exact ⟨told_of_same hlabelled htold _, hsound⟩
      · rw [hjoins]
        have hlocal : Local sessionId r.mirrorCastHandle r (ListenerRouter.tell
            { r with mirrorSessionMap := r.mirrorSessionMap.insert sessionId sessionId }
            [.connected sessionId]) := (Local.joinMirrorMap r).trans (.tell _ _)
        refine ⟨told_of_kept hlabelled htold ?_ (hlocal.keepsMirror hsound) fun _ _ h => .inr h,
          hlocal.sound hmirror hsound⟩
        exact List.filterMap_append.trans (List.append_nil _)

/-- `UnRegisterCallback` leaves the handle of another session alone. -/
theorem unRegisterCallback_of_other (hasProvider : ℤ → Bool) (h : ∀ info : CastHandleInfo,
    r.castHandleToInfoMap[castHandle]? = some info → info.sessionId ≠ sessionId) :
    r.unRegisterCallback hasProvider castHandle sessionId = r ∨
      r.unRegisterCallback hasProvider castHandle sessionId =
        { r with mirrorSessionMap := r.mirrorSessionMap.erase sessionId } := by
  unfold ListenerRouter.unRegisterCallback
  split_ifs
  · right
    dsimp only
    split
    · rename_i info hinfo
      rw [if_neg (h info hinfo)]
    · rfl
  · exact .inl rfl

/-- A session that stops to listen takes no place of another. -/
theorem unRegisterCallback_keeps (hasProvider : ℤ → Bool) (castHandle : ℤ) (sessionId : String)
    (hlabelled : Labelled r) (hsound : Sound r) (htold : r.told = []) :
    (Labelled (r.unRegisterCallback hasProvider castHandle sessionId) ∧
        (r.unRegisterCallback hasProvider castHandle sessionId).disconnected.Perm
          (r.losses (some sessionId) (r.unRegisterCallback hasProvider castHandle sessionId))) ∧
      Sound (r.unRegisterCallback hasProvider castHandle sessionId) := by
  have hsettles := Settles.unRegisterCallback hasProvider castHandle sessionId r
  constructor
  · refine told_of_kept (hsettles.labelled hlabelled) htold (disconnected_of_told hsettles.told)
      (hsettles.local'.keepsMirror hsound) fun h listener hlistener => ?_
    by_cases hne : h = castHandle
    · subst hne
      obtain ⟨info, hinfo, hsome⟩ := Option.bind_eq_some_iff.mp hlistener
      obtain rfl := hlabelled h info hinfo listener hsome
      by_cases hsession : info.sessionId = sessionId
      · exact .inl (congrArg some hsession.symm)
      · right
        have hother : ∀ info' : CastHandleInfo, r.castHandleToInfoMap[h]? = some info' →
            info'.sessionId ≠ sessionId := by
          intro info' hinfo'
          obtain rfl := Option.some.inj (hinfo.symm.trans hinfo')
          exact hsession
        rcases unRegisterCallback_of_other hasProvider hother with hsame | hleaves
        · rw [hsame]
          exact hlistener
        · rw [hleaves]
          exact hlistener
    · exact hsettles.local'.keepsAt hne listener hlistener
  · by_cases hne : castHandle = -1
    · subst hne
      have hother : ∀ info : CastHandleInfo, r.castHandleToInfoMap[(-1 : ℤ)]? = some info →
          info.sessionId ≠ sessionId := by
        intro info hinfo
        rw [hsound.handle] at hinfo
        cases hinfo
      rcases unRegisterCallback_of_other hasProvider hother with hsame | hleaves
      · rw [hsame]
        exact hsound
      · rw [hleaves]
        exact (Local.leaveMirrorMap 0 r).sound (by decide) hsound
    · exact hsettles.local'.sound hne hsound

/-- The stash takes the handle of the stash. -/
theorem registerStashCallback_iff (sessionId : String) (hlabelled : Labelled r) (hsound : Sound r)
    (htold : r.told = []) :
    (Labelled (r.registerStashCallback sessionId) ∧
        (r.registerStashCallback sessionId).disconnected.Perm
          (r.losses (some sessionId) (r.registerStashCallback sessionId)) ↔
      r.FreeFor stashHandle sessionId) ∧ Sound (r.registerStashCallback sessionId) := by
  unfold ListenerRouter.registerStashCallback
  dsimp only
  have hlocal : Local sessionId stashHandle r (r.setInfo stashHandle
      { (r.castHandleToInfoMap[stashHandle]?).getD .init with
        avRouterListener := some sessionId, sessionId }) := .setInfo r _
  refine ⟨hlocal.told_iff_free hsound (hlabelled.setInfo fun _ h => (Option.some.inj h).symm) ?_
    (.inr ?_), hlocal.sound (by decide) hsound⟩
  · unfold ListenerRouter.disconnected
    rw [show (r.setInfo stashHandle _).told = [] from htold]
    rfl
  · exact listenerAt_of_some (getElem?_setInfo_self r stashHandle _)

/-- Every handle is taken over or left, by itself. -/
theorem getElem?_disconnectOtherSession (r : ListenerRouter) (sessionId : String) (h : ℤ) :
    (r.disconnectOtherSession sessionId).castHandleToInfoMap[h]? =
      (r.castHandleToInfoMap[h]?).map (r.takeOver sessionId) :=
  ExtTreeMap.getElem?_map

/-- The mirrors are all gone. -/
theorem mirrorSessionMap_disconnectOtherSession (r : ListenerRouter) (sessionId k : String) :
    (r.disconnectOtherSession sessionId).mirrorSessionMap[k]? = none :=
  ExtTreeMap.getElem?_empty

/-- The handle of another session that listens is taken over. -/
theorem takeOver_of_mem (hsound : Sound r) (h : sessionId ∈ r.mirrorSessionMap)
    {info : CastHandleInfo} (hother : info.sessionId ≠ sessionId)
    (hlistener : info.avRouterListener ≠ none) :
    r.takeOver sessionId info = { info with sessionId, avRouterListener := some sessionId } := by
  obtain ⟨listener, hget⟩ := Option.isSome_iff_exists.mp (ExtTreeMap.mem_iff_isSome_getElem?.mp h)
  obtain rfl := hsound.mirror sessionId listener hget
  unfold ListenerRouter.takeOver
  rw [hget]
  exact if_pos ⟨hother, hlistener⟩

/-- Any other entry stays. -/
theorem takeOver_of_not {info : CastHandleInfo} (h : sessionId ∈ r.mirrorSessionMap →
    info.sessionId = sessionId ∨ info.avRouterListener = none) :
    r.takeOver sessionId info = info := by
  unfold ListenerRouter.takeOver
  cases hget : r.mirrorSessionMap[sessionId]? with
  | none => rfl
  | some listener =>
      refine if_neg fun hboth => ?_
      have hmem := ExtTreeMap.mem_iff_isSome_getElem?.mpr (Option.isSome_of_eq_some hget)
      rcases h hmem with hsame | hnone
      · exact hboth.1 hsame
      · exact hboth.2 hnone

/-- The listener of a handle after `DisconnectOtherSession`. -/
theorem listener_takeOver (hlabelled : Labelled r) (hsound : Sound r) {h : ℤ}
    {info : CastHandleInfo} (hinfo : r.castHandleToInfoMap[h]? = some info) {listener : String}
    (hlistener : info.avRouterListener = some listener) :
    (r.takeOver sessionId info).avRouterListener =
      some (if sessionId ∈ r.mirrorSessionMap then sessionId else listener) := by
  have hlabel := hlabelled h info hinfo listener hlistener
  split_ifs with hmem
  · by_cases hsession : info.sessionId = sessionId
    · rw [takeOver_of_not fun _ => .inl hsession, hlistener, hlabel, hsession]
    · have hsome : info.avRouterListener ≠ none := by
        rw [hlistener]
        nofun
      rw [takeOver_of_mem hsound hmem hsession hsome]
  · rw [takeOver_of_not fun h => absurd h hmem, hlistener]

/-- Taking over keeps the labels. -/
theorem disconnectOtherSession_labelled (hlabelled : Labelled r) (hsound : Sound r) :
    Labelled (r.disconnectOtherSession sessionId) := by
  intro h info' hinfo' listener hlistener
  rw [getElem?_disconnectOtherSession] at hinfo'
  obtain ⟨info, hinfo, rfl⟩ := Option.map_eq_some_iff.mp hinfo'
  by_cases htaken : sessionId ∈ r.mirrorSessionMap ∧ info.sessionId ≠ sessionId ∧
      info.avRouterListener ≠ none
  · obtain ⟨hmem, hother, hsome⟩ := htaken
    rw [takeOver_of_mem hsound hmem hother hsome] at hlistener ⊢
    exact (Option.some.inj hlistener).symm
  · have hstays : r.takeOver sessionId info = info := by
      refine takeOver_of_not fun hmem => ?_
      by_contra hnot
      rw [not_or] at hnot
      exact htaken ⟨hmem, hnot⟩
    rw [hstays] at hlistener ⊢
    exact hlabelled h info hinfo listener hlistener

/-- `DisconnectOtherSession` tells the listeners that lose their place. -/
theorem others_eq_losses (hlabelled : Labelled r) (hsound : Sound r) :
    r.others sessionId = r.losses (some sessionId) (r.disconnectOtherSession sessionId) := by
  unfold ListenerRouter.others ListenerRouter.losses
  congr 1
  · refine List.filterMap_congr fun ⟨k, listener⟩ he => ?_
    obtain rfl := hsound.mirror k listener (OrderedMap.mem_toList.mp he)
    rw [mirrorSessionMap_disconnectOtherSession]
    refine if_congr ⟨fun hne => ⟨fun h => hne (Option.some.inj h).symm, nofun⟩, fun h heq => ?_⟩
      rfl rfl
    exact h.1 (congrArg some heq.symm)
  · refine List.filterMap_congr fun ⟨h, info⟩ he => ?_
    have hinfo := OrderedMap.mem_toList.mp he
    dsimp only
    cases hlistener : info.avRouterListener with
    | none => exact ite_self _
    | some listener =>
        have hafter : (r.disconnectOtherSession sessionId).listenerAt h =
            some (if sessionId ∈ r.mirrorSessionMap then sessionId else listener) := by
          refine (listenerAt_of_some ?_).trans (listener_takeOver hlabelled hsound hinfo hlistener)
          rw [getElem?_disconnectOtherSession, hinfo]
          rfl
        obtain rfl := hlabelled h info hinfo listener hlistener
        rw [hafter, Option.filter_some]
        refine if_congr ?_ rfl rfl
        rw [decide_eq_true_iff]
        constructor
        · rintro ⟨hne, hmem⟩
          rw [if_pos hmem]
          have hsome : some sessionId ≠ some info.sessionId :=
            fun heq => hne (Option.some.inj heq).symm
          exact ⟨hsome, hsome⟩
        · rintro ⟨hne, hlost⟩
          refine ⟨fun heq => hne (congrArg some heq.symm), ?_⟩
          by_contra hmem
          rw [if_neg hmem] at hlost
          exact hlost rfl

/-- Everybody taken over from is told, and nobody else. -/
theorem disconnected_disconnectOtherSession (hlabelled : Labelled r) (hsound : Sound r)
    (htold : r.told = []) :
    (r.disconnectOtherSession sessionId).disconnected =
      r.losses (some sessionId) (r.disconnectOtherSession sessionId) := by
  rw [← others_eq_losses hlabelled hsound]
  unfold ListenerRouter.disconnected
  show (r.told ++ (r.others sessionId).map CastNotice.disconnected).filterMap _ = _
  rw [htold, List.nil_append, List.filterMap_map]
  exact List.filterMap_some

/-- Taking over leaves a sound router. -/
theorem disconnectOtherSession_sound (hsound : Sound r) :
    Sound (r.disconnectOtherSession sessionId) := by
  refine ⟨fun k listener hk => ?_, ?_⟩
  · exact absurd (hk.symm.trans (mirrorSessionMap_disconnectOtherSession r sessionId k)) nofun
  · rw [getElem?_disconnectOtherSession, hsound.handle]
    rfl

/-- A registered session is alone afterwards exactly under the condition. -/
theorem alone_iff (hlabelled : Labelled r) (hsound : Sound r) :
    (r.Registered sessionId →
      (∀ castHandle listener,
        (r.disconnectOtherSession sessionId).listenerAt castHandle = some listener →
          listener = sessionId) ∧
        ∀ k listener : String,
          (r.disconnectOtherSession sessionId).mirrorSessionMap[k]? = some listener →
            listener = sessionId) ↔
      ListenersOk r (.disconnectOtherSession sessionId) := by
  unfold ListenersOk
  refine imp_congr_right fun _ => ?_
  have hafter : ∀ h, (r.disconnectOtherSession sessionId).listenerAt h =
      (r.listenerAt h).map fun listener =>
        if sessionId ∈ r.mirrorSessionMap then sessionId else listener := by
    intro h
    unfold ListenerRouter.listenerAt
    rw [getElem?_disconnectOtherSession]
    cases hinfo : r.castHandleToInfoMap[h]? with
    | none => rfl
    | some info =>
        show (r.takeOver sessionId info).avRouterListener = info.avRouterListener.map _
        cases hlistener : info.avRouterListener with
        | none => rw [takeOver_of_not fun _ => .inr hlistener, hlistener]; rfl
        | some listener => exact listener_takeOver hlabelled hsound hinfo hlistener
  constructor
  · rintro ⟨halone, -⟩
    by_cases hmem : sessionId ∈ r.mirrorSessionMap
    · exact .inl hmem
    · refine .inr fun h listener hlistener => halone h listener ?_
      rw [hafter, hlistener]
      exact congrArg some (if_neg hmem)
  · intro hor
    refine ⟨fun h listener hlistener => ?_, fun k listener hk => ?_⟩
    · rw [hafter] at hlistener
      obtain ⟨before, hbefore, rfl⟩ := Option.map_eq_some_iff.mp hlistener
      split_ifs with hmem
      · rfl
      · exact (hor.resolve_left hmem) h before hbefore
    · rw [mirrorSessionMap_disconnectOtherSession] at hk
      cases hk

/-- A change of a device takes nobody's place. -/
theorem deviceChange_keeps (castHandle : ℤ) (hlabelled : Labelled r) (hsound : Sound r)
    (htold : r.told = []) (device : Option String) :
    (Labelled (r.deviceChange castHandle device) ∧
        (r.deviceChange castHandle device).disconnected.Perm
          (r.losses none (r.deviceChange castHandle device))) ∧
      Sound (r.deviceChange castHandle device) := by
  -- No handle is left out: what is changed is not at `h + 1`.
  have hsettles : ∀ h : ℤ, Settles "" h r (r.deviceChange castHandle device) :=
    fun h => .deviceChange r castHandle device
  refine ⟨told_of_kept ((hsettles 0).labelled hlabelled) htold
    (disconnected_of_told (hsettles 0).told) (fun k listener hk => .inr ?_)
    (fun h => (hsettles (h + 1)).local'.keepsAt (by omega)), (hsettles 0).local'.sound (by decide)
    hsound⟩
  unfold ListenerRouter.deviceChange
  split
  · exact hk
  · exact hk

/-- What one operation keeps, and the condition for the rest. -/
theorem apply_iff (hlabelled : Labelled r) (hsound : Sound r) (htold : r.told = [])
    (op : ListenerOp) :
    ((Labelled (r.apply op) ∧ (r.apply op).disconnected.Perm (r.losses op.session (r.apply op))) ∧
        Alone r op ↔ ListenersOk r op) ∧ Sound (r.apply op) := by
  cases op with
  | subStartCast hasProvider c sessionId =>
      have hboth := subStartCast_iff hasProvider sessionId hlabelled hsound htold c
      exact ⟨(and_iff_left trivial).trans hboth.1, hboth.2⟩
  | joinMirror hasProvider sessionId deviceId =>
      have hboth := joinMirror_keeps hasProvider sessionId hlabelled hsound htold deviceId
      exact ⟨iff_of_true ⟨hboth.1, trivial⟩ trivial, hboth.2⟩
  | unRegisterCallback hasProvider castHandle sessionId =>
      have hboth := unRegisterCallback_keeps hasProvider castHandle sessionId hlabelled hsound htold
      exact ⟨iff_of_true ⟨hboth.1, trivial⟩ trivial, hboth.2⟩
  | registerStashCallback sessionId =>
      have hboth := registerStashCallback_iff sessionId hlabelled hsound htold
      exact ⟨(and_iff_left trivial).trans hboth.1, hboth.2⟩
  | disconnectOtherSession sessionId =>
      have hready : r.ready = r := by
        unfold ListenerRouter.ready
        rw [← htold]
      refine ⟨?_, disconnectOtherSession_sound hsound⟩
      rw [and_iff_right ⟨disconnectOtherSession_labelled hlabelled hsound,
        .of_eq (disconnected_disconnectOtherSession hlabelled hsound htold)⟩]
      unfold Alone ListenerRouter.step
      rw [hready]
      exact alone_iff hlabelled hsound
  | setMirrorCastHandle castHandle =>
      refine ⟨iff_of_true ⟨?_, trivial⟩ trivial, ⟨hsound.mirror, hsound.handle⟩⟩
      exact told_of_kept hlabelled htold rfl (fun _ _ h => .inr h) fun _ _ h => .inr h
  | deviceChange castHandle device =>
      have hboth := deviceChange_keeps castHandle hlabelled hsound htold device
      exact ⟨iff_of_true ⟨hboth.1, trivial⟩ trivial, hboth.2⟩

end steps

/-! ## Every run -/

section runs

/-- **Who listens to a cast.** In every run of operations of sessions: the listener of each handle
is that of the session the handle is labelled with, the listeners that lose a place to another
session are told of a disconnect, once for each place, and nobody else is, and a registered session
that disconnects the others is alone, exactly if each step meets the condition. -/
theorem listeners_iff (ops : List ListenerOp) :
    Always ListenerRouter.step Labelled .start ops ∧
        Meets ListenerRouter.step (fun r op => ToldOnce r op ∧ Alone r op) .start ops ↔
      Meets ListenerRouter.step ListenersOk .start ops := by
  refine always_and_meets_iff_of_side (J := Sound) ?_ ?_ ops ?_ ?_
  · intro r op hsound hlabelled _
    exact (apply_iff (r := r.ready) hlabelled ⟨hsound.mirror, hsound.handle⟩ rfl op).2
  · intro r op hsound hlabelled
    rw [← and_assoc]
    exact (apply_iff (r := r.ready) hlabelled ⟨hsound.mirror, hsound.handle⟩ rfl op).1
  · refine ⟨fun k listener hk => ?_, ExtTreeMap.getElem?_empty⟩
    exact absurd (hk.symm.trans ExtTreeMap.getElem?_empty) nofun
  · intro castHandle info hinfo
    exact absurd (hinfo.symm.trans ExtTreeMap.getElem?_empty) nofun

/-- A session casts to a device; the provider 1 answers with the cast 5 or 6. -/
def castTo (deviceId sessionId : String) (castId : BitVec 32) : ListenerOp :=
  .subStartCast (fun providerId => providerId = 1) ⟨deviceId, 1, castId, true⟩ sessionId

/-- The tablet's listener stays at the handle that is labelled with the phone, a stash takes the
place of another stash without a word, and a session that is not in the mirror map disconnects
nobody. -/
theorem stale_and_untold_and_not_alone :
    ¬ Labelled (run ListenerRouter.step .start
        [castTo "tv" "tablet" 5, .setMirrorCastHandle 7, castTo "tv" "phone" 6]) ∧
      ¬ ToldOnce (run ListenerRouter.step .start [.registerStashCallback "tablet"])
        (.registerStashCallback "phone") ∧
      ¬ Alone (run ListenerRouter.step .start [castTo "tv" "tablet" 5, castTo "speaker" "phone" 6])
        (.disconnectOtherSession "tablet") := by
  refine ⟨fun hlabelled => ?_, fun htold => ?_, fun halone => ?_⟩
  · have hsame := hlabelled (castHandleOf 1 5) ⟨some "tv", "phone", some "tablet"⟩ (by decide)
      "tablet" rfl
    revert hsame
    decide
  · revert htold
    unfold ToldOnce
    decide
  · have hsame := (halone (.inr ⟨castHandleOf 1 5, by decide⟩)).1 (castHandleOf 1 6) "phone"
      (by decide)
    revert hsame
    decide

end runs

end AvSession.Cast
