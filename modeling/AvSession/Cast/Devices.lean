import AvSession.Lib.Decimal
import AvSession.Lib.Run
import Mathlib.Data.Finset.Basic
import Mathlib.Data.Finset.Dedup
import Std.Data.ExtTreeMap

/-!
# The devices that were found

The cast engine finds devices and loses them. What it finds is announced to the service: a plain
device under its own id, a car under one id for each of its screens. The router keeps what is
announced in `validDeviceInfoMap_`.

* `CastRemoteDevice`, `deviceInfosOf` — what the engine finds, and what is announced of it.
* `DeviceRouter`, `onDeviceFound`, `onDeviceOffline`, `onCastServerDied` — the router.
* `DeviceRun` — the router next to the screens that were announced.
* `Mirrors`, `Distinct`, `TellsOffline` — what is expected.
* `mirrors_iff` — exactly the runs that keep to it.
-/

namespace AvSession.Cast

open Std AvSession.Lib

/-! ## The router -/

section router

/-- A screen of a car. -/
structure ServiceInfo where
  screenId : ℤ
  serviceName : String
  isTrusted : Bool
deriving DecidableEq

/-- What the engine finds. -/
structure CastRemoteDevice where
  deviceId : String
  deviceName : String
  isTrusted : Bool
  serviceInfos : List ServiceInfo
deriving DecidableEq

/-- What is announced of a device. Source: avsession_descriptor.h, DeviceInfo. -/
structure FoundDevice where
  deviceId : String
  deviceName : String
  isTrusted : Bool
  screenId : ℤ
  realDeviceId : String
deriving DecidableEq

/-- The number of a device without screens: `screenId_` of avsession_descriptor.h. -/
def noScreenId : ℤ := -1

/-- Source: hw_cast_provider.cpp, HwCastProvider::OnDeviceFound, HwCastProvider::buildDeviceInfo. -/
def deviceInfosOf (castRemoteDevice : CastRemoteDevice) : List FoundDevice :=
  if castRemoteDevice.serviceInfos.isEmpty then
    [{ deviceId := castRemoteDevice.deviceId
       deviceName := castRemoteDevice.deviceName
       isTrusted := castRemoteDevice.isTrusted
       screenId := noScreenId
       realDeviceId := castRemoteDevice.deviceId }]
  else
    castRemoteDevice.serviceInfos.map fun info =>
      { deviceId := castRemoteDevice.deviceId ++ toString info.screenId
        deviceName := castRemoteDevice.deviceName ++ info.serviceName
        isTrusted := info.isTrusted
        screenId := info.screenId
        realDeviceId := castRemoteDevice.deviceId }

/-- What the service is told. -/
inductive Announcement
  | available (deviceInfos : List FoundDevice)
  | offline (deviceId : String)
deriving DecidableEq

/-- The listener of the provider is the manager, which passes everything on to the router.
Source: avrouter_impl.h, AVRouterImpl. -/
structure DeviceRouter where
  /-- Whether `servicePtr_` is there. -/
  servicePtr : Bool
  validDeviceInfoMap : ExtTreeMap String FoundDevice compare
  /-- All that the service was told. -/
  announcements : List Announcement

namespace DeviceRouter

variable (r : DeviceRouter)

/-- The router before anything was found. -/
def start (servicePtr : Bool) : DeviceRouter := ⟨servicePtr, ∅, []⟩

/-- The service is told. -/
def announce (as : List Announcement) : DeviceRouter :=
  { r with announcements := r.announcements ++ as }

/-- Source: avrouter_impl.cpp, AVRouterImpl::OnDeviceAvailable. -/
def onDeviceAvailable (deviceInfos : List FoundDevice) : DeviceRouter :=
  if r.servicePtr then
    { r with
      validDeviceInfoMap := deviceInfos.foldl (fun m (deviceInfo : FoundDevice) =>
        m.insert deviceInfo.deviceId deviceInfo) r.validDeviceInfoMap }.announce
      [.available deviceInfos]
  else r

/-- Source: hw_cast_provider.cpp, HwCastProvider::OnDeviceFound. -/
def onDeviceFound (deviceList : List CastRemoteDevice) : DeviceRouter :=
  if deviceList.isEmpty then r else r.onDeviceAvailable (deviceList.flatMap deviceInfosOf)

/-- Source: avrouter_impl.cpp, AVRouterImpl::OnDeviceOffline. -/
def onDeviceOffline (deviceId : String) : DeviceRouter :=
  if r.servicePtr then
    { r with validDeviceInfoMap := r.validDeviceInfoMap.erase deviceId }.announce
      [.offline deviceId]
  else r

/-- Source: avrouter_impl.cpp, AVRouterImpl::OnCastServerDied. -/
def onCastServerDied : DeviceRouter :=
  if r.servicePtr then
    { r with validDeviceInfoMap := ∅ }.announce (r.validDeviceInfoMap.keys.map .offline)
  else r

end DeviceRouter

end router

/-! ## Runs -/

section runs

/-- A device of the engine, with the number of a screen for cars. -/
structure DeviceScreen where
  deviceId : String
  screenId : Option ℤ
deriving DecidableEq

/-- The id under which a screen is announced. -/
def DeviceScreen.announcedId (p : DeviceScreen) : String :=
  match p.screenId with
  | none => p.deviceId
  | some screenId => p.deviceId ++ toString screenId

/-- The screens of a device, or the device itself. -/
def screensOf (castRemoteDevice : CastRemoteDevice) : List DeviceScreen :=
  if castRemoteDevice.serviceInfos.isEmpty then [⟨castRemoteDevice.deviceId, none⟩]
  else castRemoteDevice.serviceInfos.map fun info =>
    ⟨castRemoteDevice.deviceId, some info.screenId⟩

/-- What is available after an announcement. -/
def Announcement.apply (ids : Finset String) : Announcement → Finset String
  | .available deviceInfos => ids ∪ (deviceInfos.map FoundDevice.deviceId).toFinset
  | .offline deviceId => ids.erase deviceId

/-- The ids that were announced as available and not as offline since. -/
def DeviceRouter.available (r : DeviceRouter) : Finset String :=
  r.announcements.foldl Announcement.apply ∅

/-- What can happen. -/
inductive DeviceOp
  | onDeviceFound (deviceList : List CastRemoteDevice)
  | onDeviceOffline (deviceId : String)
  | onCastServerDied

/-- The router and the screens that were ever announced. -/
structure DeviceRun where
  router : DeviceRouter
  screens : List DeviceScreen

/-- Nothing was found. -/
def DeviceRun.start (servicePtr : Bool) : DeviceRun := ⟨.start servicePtr, []⟩

/-- The screens that are announced when devices are found. -/
def DeviceRun.foundScreens (s : DeviceRun) (deviceList : List CastRemoteDevice) :
    List DeviceScreen :=
  if s.router.servicePtr then deviceList.flatMap screensOf else []

/-- One step. -/
def DeviceRun.step (s : DeviceRun) : DeviceOp → DeviceRun
  | .onDeviceFound deviceList =>
      ⟨s.router.onDeviceFound deviceList, s.screens ++ s.foundScreens deviceList⟩
  | .onDeviceOffline deviceId => ⟨s.router.onDeviceOffline deviceId, s.screens⟩
  | .onCastServerDied => ⟨s.router.onCastServerDied, s.screens⟩

/-- What the service is told in one step. -/
def DeviceRun.told (s : DeviceRun) (op : DeviceOp) : List Announcement :=
  (s.step op).router.announcements.drop s.router.announcements.length

/-- The map has the ids that are available. -/
def Mirrors (s : DeviceRun) : Prop :=
  ∀ id, id ∈ s.router.validDeviceInfoMap ↔ id ∈ s.router.available

/-- No two screens were announced under one id. -/
def Distinct (s : DeviceRun) : Prop :=
  ∀ p ∈ s.screens, ∀ q ∈ s.screens, p.announcedId = q.announcedId → p = q

/-- Every id of a device that goes offline is announced offline once and removed. -/
def TellsOffline (s : DeviceRun) : DeviceOp → Prop
  | .onDeviceOffline deviceId =>
      ∀ p ∈ s.screens, p.deviceId = deviceId → p.announcedId ∈ s.router.available →
        (s.told (.onDeviceOffline deviceId)).count (.offline p.announcedId) = 1 ∧
          p.announcedId ∉ (s.step (.onDeviceOffline deviceId)).router.validDeviceInfoMap
  | .onDeviceFound _ | .onCastServerDied => True

/-- The condition: a device that is found has no id of another device, and a device that goes
offline has no screen that is available. -/
def DevicesOk (s : DeviceRun) : DeviceOp → Prop
  | .onDeviceFound deviceList =>
      ∀ p ∈ s.foundScreens deviceList, ∀ q ∈ s.screens ++ s.foundScreens deviceList,
        p.deviceId ≠ q.deviceId → p.announcedId ≠ q.announcedId
  | .onDeviceOffline deviceId =>
      ∀ screenId, ⟨deviceId, some screenId⟩ ∈ s.screens →
        deviceId ++ toString screenId ∉ s.router.validDeviceInfoMap
  | .onCastServerDied => True

end runs

/-! ## The ids -/

section ids

variable {p q : DeviceScreen}

/-- The ids of one device are distinct. -/
theorem announcedId_injective_of_device (hdevice : p.deviceId = q.deviceId)
    (h : p.announcedId = q.announcedId) : p = q := by
  obtain ⟨d, ps⟩ := p
  obtain ⟨d', qs⟩ := q
  obtain rfl : d = d' := hdevice
  unfold DeviceScreen.announcedId at h
  cases ps with
  | none =>
      cases qs with
      | none => rfl
      | some n => exact absurd (String.append_eq_left_iff.mp h.symm) (toString_ne_empty n)
  | some m =>
      cases qs with
      | none => exact absurd (String.append_eq_left_iff.mp h) (toString_ne_empty m)
      | some n => rw [toString_injective ((String.append_right_inj _).mp h)]

end ids

/-! ## Steps -/

section steps

variable {s : DeviceRun} {r : DeviceRouter}

/-- The devices available follow the announcements one by one. -/
theorem available_announce (r : DeviceRouter) (as : List Announcement) :
    (r.announce as).available = as.foldl Announcement.apply r.available :=
  List.foldl_append

/-- The cache gains the devices found. -/
theorem mem_foldl_insert {ds : List FoundDevice} {m : ExtTreeMap String FoundDevice compare}
    {id : String} :
    id ∈ ds.foldl (fun m (d : FoundDevice) => m.insert d.deviceId d) m ↔
      id ∈ m ∨ id ∈ ds.map FoundDevice.deviceId := by
  induction ds generalizing m with
  | nil => simp
  | cons d ds ih =>
      rw [List.foldl_cons, ih, ExtTreeMap.mem_insert, Std.compare_eq_iff_eq, List.map_cons,
        List.mem_cons, or_assoc, or_left_comm, eq_comm]

/-- Devices that go offline are no longer available. -/
theorem mem_foldl_offline {ids : List String} {a : Finset String} {id : String} :
    id ∈ (ids.map Announcement.offline).foldl Announcement.apply a ↔ id ∈ a ∧ id ∉ ids := by
  induction ids generalizing a with
  | nil => simp
  | cons x ids ih =>
      rw [List.map_cons, List.foldl_cons, ih, List.mem_cons, not_or]
      show id ∈ a.erase x ∧ _ ↔ _
      rw [Finset.mem_erase, and_assoc, and_left_comm]

/-- What is found is mirrored. -/
theorem Mirrors.onDeviceAvailable (h : Mirrors s) (ds : List FoundDevice) {ps : List DeviceScreen} :
    Mirrors ⟨s.router.onDeviceAvailable ds, ps⟩ := by
  unfold DeviceRouter.onDeviceAvailable
  split_ifs
  · intro id
    rw [available_announce]
    show id ∈ ds.foldl _ s.router.validDeviceInfoMap ↔
      id ∈ s.router.available ∪ (ds.map FoundDevice.deviceId).toFinset
    rw [mem_foldl_insert, Finset.mem_union, List.mem_toFinset, h id]
  · exact h

/-- Every step keeps the map. -/
theorem Mirrors.step (h : Mirrors s) (op : DeviceOp) : Mirrors (s.step op) := by
  cases op with
  | onDeviceFound deviceList =>
      show Mirrors ⟨s.router.onDeviceFound deviceList, _⟩
      unfold DeviceRouter.onDeviceFound
      split_ifs
      · exact h
      · exact h.onDeviceAvailable _
  | onDeviceOffline deviceId =>
      show Mirrors ⟨s.router.onDeviceOffline deviceId, _⟩
      unfold DeviceRouter.onDeviceOffline
      split_ifs
      · intro id
        rw [available_announce]
        show id ∈ s.router.validDeviceInfoMap.erase deviceId ↔
          id ∈ s.router.available.erase deviceId
        rw [ExtTreeMap.mem_erase, Finset.mem_erase, h id, ne_eq, Std.compare_eq_iff_eq, eq_comm]
      · exact h
  | onCastServerDied =>
      show Mirrors ⟨s.router.onCastServerDied, _⟩
      unfold DeviceRouter.onCastServerDied
      split_ifs
      · intro id
        rw [available_announce, mem_foldl_offline, ExtTreeMap.mem_keys]
        refine iff_of_false ExtTreeMap.not_mem_empty ?_
        rintro ⟨havailable, hkeys⟩
        exact hkeys ((h id).mpr havailable)
      · exact h

/-- What is found keeps the ids distinct exactly if no device has an id of another. -/
theorem Distinct.found_iff (h : Distinct s) (deviceList : List CastRemoteDevice) :
    Distinct (s.step (.onDeviceFound deviceList)) ↔ DevicesOk s (.onDeviceFound deviceList) := by
  constructor
  · intro h' p hp q hq hne hid
    exact hne (congrArg DeviceScreen.deviceId
      (h' p (List.mem_append_right _ hp) q hq hid))
  · intro hok p hp q hq hid
    rcases List.mem_append.mp hp with hold | hnew
    · rcases List.mem_append.mp hq with hold' | hnew'
      · exact h p hold q hold' hid
      · by_contra hne
        have hdevice : q.deviceId ≠ p.deviceId := fun hdevice =>
          hne (announcedId_injective_of_device hdevice.symm hid)
        exact hok q hnew' p hp hdevice hid.symm
    · by_contra hne
      have hdevice : p.deviceId ≠ q.deviceId := fun hdevice =>
        hne (announcedId_injective_of_device hdevice hid)
      exact hok p hnew q hq hdevice hid

/-- Without a service nothing is announced. -/
def Announced (s : DeviceRun) : Prop := s.router.servicePtr = false → s.screens = []

/-- The router keeps its service. -/
theorem step_servicePtr (s : DeviceRun) (op : DeviceOp) :
    (s.step op).router.servicePtr = s.router.servicePtr := by
  cases op with
  | onDeviceFound deviceList =>
      show (s.router.onDeviceFound deviceList).servicePtr = _
      unfold DeviceRouter.onDeviceFound DeviceRouter.onDeviceAvailable
      split_ifs <;> rfl
  | onDeviceOffline deviceId =>
      show (s.router.onDeviceOffline deviceId).servicePtr = _
      unfold DeviceRouter.onDeviceOffline
      split_ifs <;> rfl
  | onCastServerDied =>
      show s.router.onCastServerDied.servicePtr = _
      unfold DeviceRouter.onCastServerDied
      split_ifs <;> rfl

/-- Every operation keeps what was announced. -/
theorem Announced.step (h : Announced s) (op : DeviceOp) : Announced (s.step op) := by
  intro hservice
  rw [step_servicePtr] at hservice
  cases op with
  | onDeviceFound deviceList =>
      show s.screens ++ s.foundScreens deviceList = []
      unfold DeviceRun.foundScreens
      rw [h hservice, hservice]
      rfl
  | onDeviceOffline deviceId => exact h hservice
  | onCastServerDied => exact h hservice

/-- A lost device is announced under its own id, and under no other. -/
theorem told_onDeviceOffline (hservice : s.router.servicePtr = true) (deviceId : String) :
    s.told (.onDeviceOffline deviceId) = [.offline deviceId] := by
  unfold DeviceRun.told
  show (s.router.onDeviceOffline deviceId).announcements.drop _ = _
  unfold DeviceRouter.onDeviceOffline
  rw [if_pos hservice]
  exact List.drop_left

/-- The ids of a device that goes offline are announced and removed exactly if it has no screen that
is available. -/
theorem tellsOffline_iff (hmirrors : Mirrors s) (hannounced : Announced s) (deviceId : String) :
    TellsOffline s (.onDeviceOffline deviceId) ↔ DevicesOk s (.onDeviceOffline deviceId) := by
  cases hservice : s.router.servicePtr with
  | false =>
      have hscreens := hannounced hservice
      refine iff_of_true (fun p hp => ?_) fun screenId hmem => ?_
      · rw [hscreens] at hp
        cases hp
      · rw [hscreens] at hmem
        cases hmem
  | true =>
      have hremoved : (s.step (.onDeviceOffline deviceId)).router.validDeviceInfoMap =
          s.router.validDeviceInfoMap.erase deviceId := by
        show (s.router.onDeviceOffline deviceId).validDeviceInfoMap = _
        unfold DeviceRouter.onDeviceOffline
        rw [if_pos hservice]
        rfl
      constructor
      · intro htells screenId hmem hvalid
        have hcount := (htells _ hmem rfl ((hmirrors _).mp hvalid)).1
        have hne : deviceId ++ toString screenId ≠ deviceId := fun heq =>
          toString_ne_empty screenId (String.append_eq_left_iff.mp heq)
        rw [told_onDeviceOffline hservice, List.count_eq_zero.mpr] at hcount
        · cases hcount
        · intro hin
          exact hne (Announcement.offline.inj (List.mem_singleton.mp hin))
      · rintro hok ⟨d, screenId⟩ hp rfl havailable
        cases screenId with
        | none =>
            rw [told_onDeviceOffline hservice, hremoved, ExtTreeMap.mem_erase]
            refine ⟨List.count_singleton_self, fun hmem => hmem.1 ?_⟩
            exact Std.compare_eq_iff_eq.mpr rfl
        | some n => exact absurd ((hmirrors _).mpr havailable) (hok n hp)

/-- **The devices are mirrored.** In every run of found and lost devices and deaths of the engine:
the map has the ids that are available, no two screens are ever announced under one id, and every id
of a device that goes offline is announced offline once and removed, exactly if each step meets the
condition. -/
theorem mirrors_iff (servicePtr : Bool) (ops : List DeviceOp) :
    Always DeviceRun.step (fun s => Mirrors s ∧ Distinct s) (.start servicePtr) ops ∧
        Meets DeviceRun.step TellsOffline (.start servicePtr) ops ↔
      Meets DeviceRun.step DevicesOk (.start servicePtr) ops := by
  apply always_and_meets_iff (I := Announced)
  · exact fun s op h => h.step op
  · rintro s op hannounced ⟨hmirrors, hdistinct⟩
    rw [and_iff_right (hmirrors.step op)]
    cases op with
    | onDeviceFound deviceList =>
        exact (and_iff_left trivial).trans (hdistinct.found_iff deviceList)
    | onDeviceOffline deviceId =>
        exact (and_iff_right hdistinct).trans (tellsOffline_iff hmirrors hannounced deviceId)
    | onCastServerDied => exact iff_of_true ⟨hdistinct, trivial⟩ trivial
  · exact fun _ => rfl
  · exact ⟨fun id => iff_of_false ExtTreeMap.not_mem_empty (Finset.notMem_empty id), nofun⟩

/-- A car with the screens 1 and 2. -/
def foundCar : CastRemoteDevice := ⟨"car", "Car", true, [⟨1, "front", true⟩, ⟨2, "rear", true⟩]⟩

/-- A plain device whose id is that of a screen of the car. -/
def foundSpeaker : CastRemoteDevice := ⟨"car1", "Speaker", true, []⟩

/-- The screens of a car stay when it goes offline, and a device may have the id of a screen. -/
theorem car_stays_and_id_shared :
    ¬ TellsOffline (run DeviceRun.step (.start true) [.onDeviceFound [foundCar]])
        (.onDeviceOffline "car") ∧
      ¬ Distinct (run DeviceRun.step (.start true)
        [.onDeviceFound [foundCar], .onDeviceFound [foundSpeaker]]) := by
  constructor
  · intro htells
    have hcount := (htells ⟨"car", some 1⟩ (by decide) rfl (by decide)).1
    rw [told_onDeviceOffline rfl] at hcount
    revert hcount
    decide
  · intro hdistinct
    have hsame := hdistinct ⟨"car", some 1⟩ (by decide) ⟨"car1", none⟩ (by decide) (by decide)
    exact absurd (congrArg DeviceScreen.screenId hsame) nofun

end steps

end AvSession.Cast
