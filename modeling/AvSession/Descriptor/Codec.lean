import AvSession.Lib.ParcelReader

/-!
# Session and device descriptors in parcels

Three classes travel in parcels: `DeviceInfo`, `OutputDeviceInfo` and `AVSessionDescriptor`. The
descriptor has the encoding of a device inlined.

* One writer and one reader for each class, in the order of the source.
* `DeviceInfo.Sizes` and its like — the sizes that the readers accept.
* `reads_…` — what was written with such sizes is read back; `yields_…` — nothing else is accepted.
* `descriptor_codecs_iff` — when a value comes back whole.

The element name of a session is written by its own class, which is a parameter.
-/

namespace AvSession.Descriptor

open AvSession.Lib

/-! ## The classes -/

section classes

/-- Source: av_audio_stream_info.h, AudioStreamInfo. -/
structure AudioStreamInfo where
  samplingRate : ℤ
  encoding : ℤ
  format : BitVec 8
  channels : BitVec 8
  channelLayout : BitVec 64
deriving DecidableEq

/-- Source: avsession_descriptor.h, AudioCapabilities. -/
structure AudioCapabilities where
  streamInfos : List AudioStreamInfo
deriving DecidableEq

/-- Source: avsession_descriptor.h, HiPlayDeviceInfo. -/
structure HiPlayDeviceInfo where
  supportCastMode : ℤ
  castMode : ℤ
  castUid : ℤ
  moduleId : String
  submoduleId : String
deriving DecidableEq

/-- Source: avsession_descriptor.h, DeviceInfo. -/
structure DeviceInfo where
  castCategory : ℤ
  deviceId : String
  deviceName : String
  networkId : String
  ipAddress : String
  manufacturer : String
  modelName : String
  deviceType : ℤ
  providerId : ℤ
  supportedProtocols : ℤ
  authenticationStatus : ℤ
  supportedDrmCapabilities : List String
  supportedPullClients : List (BitVec 32)
  isLegacy : Bool
  mediumTypes : ℤ
  audioCapabilities : AudioCapabilities
  bleMac : String
  triggerType : ℤ
  uuid : String
  hiPlayDeviceInfo : HiPlayDeviceInfo
  realDeviceId : String
  screenId : ℤ
deriving DecidableEq

/-- Source: avsession_descriptor.h, OutputDeviceInfo. -/
structure OutputDeviceInfo where
  deviceInfos : List DeviceInfo
deriving DecidableEq

/-- The members of `AppExecFwk::ElementName`. -/
structure ElementName where
  deviceId : String
  bundleName : String
  abilityName : String
  moduleName : String
deriving DecidableEq

/-- Source: avsession_descriptor.h, AVSessionDescriptor. -/
structure AVSessionDescriptor where
  sessionId : String
  sessionType : ℤ
  sessionTag : String
  elementName : ElementName
  pid : ℤ
  uid : ℤ
  isActive : Bool
  isTopSession : Bool
  isThirdPartyApp : Bool
  outputDeviceInfo : OutputDeviceInfo
  userId : ℤ
  screenUserId : ℤ
deriving DecidableEq

/-- How `WriteParcelable` and `ReadParcelable` treat an element name: what is written is read back. -/
structure ElementCodec where
  writeParcelable : ElementName → List Token
  readParcelable : Reader ElementName
  reads (e : ElementName) : Reads readParcelable (writeParcelable e) e

end classes

/-! ## Parts of a device -/

section parts

/-- Source: av_audio_stream_info.h, AudioStreamInfo::WriteToParcel. -/
def AudioStreamInfo.writeToParcel (s : AudioStreamInfo) : List Put :=
  [.write (.int32 s.samplingRate), .write (.int32 s.encoding), .write (.int32 s.format.toNat),
    .write (.int32 s.channels.toNat), .write (uint64 s.channelLayout)]

/-- Source: av_audio_stream_info.h, AudioStreamInfo::ReadFromParcel. -/
def AudioStreamInfo.readFromParcel : Reader AudioStreamInfo := do
  let samplingRate ← take Token.asInt32
  let encoding ← take Token.asInt32
  let format ← take Token.asInt32
  let channels ← take Token.asInt32
  let channelLayout ← take Token.asUint64
  pure ⟨samplingRate, encoding, BitVec.ofInt 8 format, BitVec.ofInt 8 channels, channelLayout⟩

/-- The number of stream infos stays below 1000. -/
def maxStreamInfoSize : ℤ := 1000

/-- Source: avsession_descriptor.cpp, AudioCapabilities::WriteToParcel. -/
def AudioCapabilities.writeToParcel (a : AudioCapabilities) : List Put :=
  let streamInfoSize := toInt32 a.streamInfos.length
  [.check (streamInfoSize < maxStreamInfoSize), .write (.int32 streamInfoSize)] ++
    a.streamInfos.flatMap AudioStreamInfo.writeToParcel

/-- Source: avsession_descriptor.cpp, AudioCapabilities::ReadFromParcel. -/
def AudioCapabilities.readFromParcel : Reader AudioCapabilities := do
  let streamInfos ← readList
    (fun streamInfoSize => 0 ≤ streamInfoSize ∧ streamInfoSize < maxStreamInfoSize)
    AudioStreamInfo.readFromParcel
  pure ⟨streamInfos⟩

/-- Source: avsession_descriptor.cpp, HiPlayDeviceInfo::WriteToParcel. -/
def HiPlayDeviceInfo.writeToParcel (h : HiPlayDeviceInfo) : List Put :=
  [.write (.int32 h.supportCastMode), .write (.int32 h.castMode), .write (.int32 h.castUid),
    .write (.string h.moduleId), .write (.string h.submoduleId)]

/-- Source: avsession_descriptor.cpp, HiPlayDeviceInfo::ReadFromParcel. -/
def HiPlayDeviceInfo.readFromParcel : Reader HiPlayDeviceInfo := do
  let supportCastMode ← take Token.asInt32
  let castMode ← take Token.asInt32
  let castUid ← take Token.asInt32
  let moduleId ← take Token.asString
  let submoduleId ← take Token.asString
  pure ⟨supportCastMode, castMode, castUid, moduleId, submoduleId⟩

end parts

/-! ## Devices -/

section devices

/-- At most ten drm capabilities are read. -/
def legalDrmCapabilityLen (supportedDrmCapabilityLen : ℤ) : Bool :=
  0 ≤ supportedDrmCapabilityLen ∧ supportedDrmCapabilityLen ≤ 10

/-- At most 256 pull clients are read. -/
def legalPullClientsLen (supportedPullClientsLen : ℤ) : Bool :=
  0 ≤ supportedPullClientsLen ∧ supportedPullClientsLen ≤ 256

/-- Fewer than 1000 devices are read. -/
def legalDeviceInfoSize (deviceInfoSize : ℤ) : Bool :=
  0 ≤ deviceInfoSize ∧ deviceInfoSize < 1000

/-- Source: avsession_descriptor.cpp, DeviceInfo::Marshalling. -/
def DeviceInfo.marshalling (d : DeviceInfo) : List Put :=
  [.write (.int32 d.castCategory), .write (.string d.deviceId), .write (.string d.deviceName),
    .write (.int32 d.deviceType), .write (.string d.ipAddress), .write (.string d.networkId),
    .write (.string d.manufacturer), .write (.string d.modelName), .write (.int32 d.providerId),
    .write (.int32 d.supportedProtocols), .write (.int32 d.authenticationStatus),
    .write (.int32 (toInt32 d.supportedDrmCapabilities.length))] ++
  d.supportedDrmCapabilities.flatMap (fun c => [.write (.string c)]) ++
  [.write (.bool d.isLegacy), .write (.int32 d.mediumTypes)] ++
  d.audioCapabilities.writeToParcel ++
  [.write (.int32 (toInt32 d.supportedPullClients.length))] ++
  d.supportedPullClients.flatMap (fun c => [.write (uint32 c)]) ++
  [.write (.string d.bleMac), .write (.int32 d.triggerType), .write (.string d.uuid)] ++
  d.hiPlayDeviceInfo.writeToParcel ++
  [.write (.string d.realDeviceId), .write (.int32 d.screenId)]

/-- Source: avsession_descriptor.cpp, DeviceInfo::ReadFromParcel. -/
def DeviceInfo.readFromParcel : Reader DeviceInfo := do
  let castCategory ← take Token.asInt32
  let deviceId ← take Token.asString
  let deviceName ← take Token.asString
  let deviceType ← take Token.asInt32
  let ipAddress ← take Token.asString
  let networkId ← take Token.asString
  let manufacturer ← take Token.asString
  let modelName ← take Token.asString
  let providerId ← take Token.asInt32
  let supportedProtocols ← take Token.asInt32
  let authenticationStatus ← take Token.asInt32
  let supportedDrmCapabilities ← readList legalDrmCapabilityLen (take Token.asString)
  let isLegacy ← take Token.asBool
  let mediumTypes ← take Token.asInt32
  let audioCapabilities ← AudioCapabilities.readFromParcel
  let supportedPullClients ← readList legalPullClientsLen (take Token.asUint32)
  let bleMac ← take Token.asString
  let triggerType ← take Token.asInt32
  let uuid ← take Token.asString
  let hiPlayDeviceInfo ← HiPlayDeviceInfo.readFromParcel
  let realDeviceId ← take Token.asString
  let screenId ← take Token.asInt32
  pure {
    castCategory, deviceId, deviceName, networkId, ipAddress, manufacturer, modelName, deviceType,
    providerId, supportedProtocols, authenticationStatus, supportedDrmCapabilities,
    supportedPullClients, isLegacy, mediumTypes, audioCapabilities, bleMac, triggerType, uuid,
    hiPlayDeviceInfo, realDeviceId, screenId }

/-- Source: avsession_descriptor.cpp, OutputDeviceInfo::Marshalling. -/
def OutputDeviceInfo.marshalling (o : OutputDeviceInfo) : List Put :=
  .write (.int32 (toInt32 o.deviceInfos.length)) :: o.deviceInfos.flatMap DeviceInfo.marshalling

/-- Source: avsession_descriptor.cpp, OutputDeviceInfo::ReadFromParcel. -/
def OutputDeviceInfo.readFromParcel : Reader OutputDeviceInfo := do
  let deviceInfos ← readList legalDeviceInfoSize DeviceInfo.readFromParcel
  pure ⟨deviceInfos⟩

end devices

/-! ## Sessions -/

section sessions

/-- The device in the loop of the writer of a session.
Source: avsession_descriptor.cpp, AVSessionDescriptor::Marshalling. -/
def AVSessionDescriptor.marshallingDevice (deviceInfo : DeviceInfo) : List Put :=
  [.write (.int32 deviceInfo.castCategory), .write (.string deviceInfo.deviceId),
    .write (.string deviceInfo.deviceName), .write (.int32 deviceInfo.deviceType),
    .write (.string deviceInfo.ipAddress), .write (.string deviceInfo.networkId),
    .write (.string deviceInfo.manufacturer), .write (.string deviceInfo.modelName),
    .write (.int32 deviceInfo.providerId), .write (.int32 deviceInfo.supportedProtocols),
    .write (.int32 deviceInfo.authenticationStatus),
    .write (.int32 (toInt32 deviceInfo.supportedDrmCapabilities.length))] ++
  deviceInfo.supportedDrmCapabilities.flatMap (fun c => [.write (.string c)]) ++
  [.write (.bool deviceInfo.isLegacy), .write (.int32 deviceInfo.mediumTypes)] ++
  deviceInfo.audioCapabilities.writeToParcel ++
  [.write (.int32 (toInt32 deviceInfo.supportedPullClients.length))] ++
  deviceInfo.supportedPullClients.flatMap (fun c => [.write (uint32 c)]) ++
  [.write (.string deviceInfo.bleMac), .write (.int32 deviceInfo.triggerType),
    .write (.string deviceInfo.uuid)] ++
  deviceInfo.hiPlayDeviceInfo.writeToParcel ++
  [.write (.string deviceInfo.realDeviceId), .write (.int32 deviceInfo.screenId)]

/-- The device in the loop of the reader of a session.
Source: avsession_descriptor.cpp, AVSessionDescriptor::CheckBeforReadFromParcel. -/
def AVSessionDescriptor.readDevice : Reader DeviceInfo := do
  let castCategory ← take Token.asInt32
  let deviceId ← take Token.asString
  let deviceName ← take Token.asString
  let deviceType ← take Token.asInt32
  let ipAddress ← take Token.asString
  let networkId ← take Token.asString
  let manufacturer ← take Token.asString
  let modelName ← take Token.asString
  let providerId ← take Token.asInt32
  let supportedProtocols ← take Token.asInt32
  let authenticationStatus ← take Token.asInt32
  let supportedDrmCapabilities ← readList legalDrmCapabilityLen (take Token.asString)
  let isLegacy ← take Token.asBool
  let mediumTypes ← take Token.asInt32
  let audioCapabilities ← AudioCapabilities.readFromParcel
  let supportedPullClients ← readList legalPullClientsLen (take Token.asUint32)
  let bleMac ← take Token.asString
  let triggerType ← take Token.asInt32
  let uuid ← take Token.asString
  let hiPlayDeviceInfo ← HiPlayDeviceInfo.readFromParcel
  let realDeviceId ← take Token.asString
  let screenId ← take Token.asInt32
  pure {
    castCategory, deviceId, deviceName, networkId, ipAddress, manufacturer, modelName, deviceType,
    providerId, supportedProtocols, authenticationStatus, supportedDrmCapabilities,
    supportedPullClients, isLegacy, mediumTypes, audioCapabilities, bleMac, triggerType, uuid,
    hiPlayDeviceInfo, realDeviceId, screenId }

variable (element : ElementCodec)

/-- `isThirdPartyApp_` is not written. Source: avsession_descriptor.cpp,
AVSessionDescriptor::Marshalling. -/
def AVSessionDescriptor.marshalling (d : AVSessionDescriptor) : List Put :=
  [.write (.string d.sessionId), .write (.int32 d.sessionType), .write (.string d.sessionTag),
    .write (.int32 d.pid), .write (.int32 d.uid), .write (.int32 d.userId),
    .write (.int32 d.screenUserId), .write (.bool d.isActive), .write (.bool d.isTopSession),
    .write (.int32 (toInt32 d.outputDeviceInfo.deviceInfos.length))] ++
  d.outputDeviceInfo.deviceInfos.flatMap AVSessionDescriptor.marshallingDevice ++
  (element.writeParcelable d.elementName).map .write

/-- `isThirdPartyApp_` keeps its initializer. Source: avsession_descriptor.cpp,
AVSessionDescriptor::ReadFromParcel. -/
def AVSessionDescriptor.readFromParcel : Reader AVSessionDescriptor := do
  let sessionId ← take Token.asString
  let sessionType ← take Token.asInt32
  let sessionTag ← take Token.asString
  let pid ← take Token.asInt32
  let uid ← take Token.asInt32
  let userId ← take Token.asInt32
  let screenUserId ← take Token.asInt32
  let isActive ← take Token.asBool
  let isTopSession ← take Token.asBool
  let deviceInfos ← readList legalDeviceInfoSize AVSessionDescriptor.readDevice
  let elementName ← element.readParcelable
  pure {
    sessionId, sessionType, sessionTag, elementName, pid, uid, isActive, isTopSession,
    isThirdPartyApp := false, outputDeviceInfo := ⟨deviceInfos⟩, userId, screenUserId }

end sessions

/-! ## Sizes -/

section sizes

/-- The sizes that the reader of a device accepts. -/
structure DeviceInfo.Sizes (d : DeviceInfo) : Prop where
  drmCapabilities : d.supportedDrmCapabilities.length ≤ 10
  pullClients : d.supportedPullClients.length ≤ 256
  streamInfos : d.audioCapabilities.streamInfos.length < 1000

/-- The sizes that the reader of a list of devices accepts. -/
structure OutputDeviceInfo.Sizes (o : OutputDeviceInfo) : Prop where
  deviceInfos : o.deviceInfos.length < 1000
  devices : ∀ d ∈ o.deviceInfos, d.Sizes

/-- What of a session is read back: the sizes, and the flag that does not travel. -/
structure AVSessionDescriptor.Travels (d : AVSessionDescriptor) : Prop where
  outputDeviceInfo : d.outputDeviceInfo.Sizes
  isThirdPartyApp : d.isThirdPartyApp = false

/-- The descriptor writes its device as the device writes itself. -/
theorem AVSessionDescriptor.marshallingDevice_eq :
    marshallingDevice = DeviceInfo.marshalling := rfl

/-- The descriptor reads its device as the device reads itself. -/
theorem AVSessionDescriptor.readDevice_eq : readDevice = DeviceInfo.readFromParcel := rfl

end sizes

/-! ## What was written is read back -/

section reads

/-- A stream's information is read back. -/
theorem reads_audioStreamInfo (s : AudioStreamInfo) :
    Reads AudioStreamInfo.readFromParcel (records s.writeToParcel) s := by
  have hbyte : ∀ b : BitVec 8, BitVec.ofInt 8 b.toNat = b := by
    intro b
    rw [BitVec.ofInt_natCast, BitVec.ofNat_toNat, BitVec.setWidth_eq]
  refine Reads.cons rfl (Reads.cons rfl (Reads.cons rfl (Reads.cons rfl ?_)))
  refine Reads.cons (asUint64_uint64 _) ?_
  rw [hbyte, hbyte]
  exact Reads.pure s

/-- Capabilities of fewer than 1000 streams are read back. -/
theorem reads_audioCapabilities {a : AudioCapabilities} (h : a.streamInfos.length < 1000) :
    Reads AudioCapabilities.readFromParcel (records a.writeToParcel) a := by
  have hlegal : decide ((0 : ℤ) ≤ a.streamInfos.length ∧
      (a.streamInfos.length : ℤ) < maxStreamInfoSize) = true := by
    unfold maxStreamInfoSize
    exact decide_eq_true (by omega)
  have hlist : Reads
      (readList (fun streamInfoSize => 0 ≤ streamInfoSize ∧ streamInfoSize < maxStreamInfoSize)
        AudioStreamInfo.readFromParcel)
      (.int32 (toInt32 a.streamInfos.length) ::
        a.streamInfos.flatMap fun s => records s.writeToParcel) a.streamInfos :=
    Reads.readList (by omega) hlegal fun s _ => reads_audioStreamInfo s
  have hrecords : records a.writeToParcel = (.int32 (toInt32 a.streamInfos.length) ::
      a.streamInfos.flatMap fun s => records s.writeToParcel) ++ [] := by
    rw [List.append_nil, ← records_flatMap]
    rfl
  rw [hrecords]
  exact hlist.bind (Reads.pure a)

/-- A HiPlay device is read back. -/
theorem reads_hiPlayDeviceInfo (h : HiPlayDeviceInfo) :
    Reads HiPlayDeviceInfo.readFromParcel (records h.writeToParcel) h := by
  refine Reads.cons rfl (Reads.cons rfl (Reads.cons rfl ?_))
  exact Reads.cons rfl (Reads.cons rfl (Reads.pure h))

/-- A device whose lists keep their limits is read back. -/
theorem reads_deviceInfo {d : DeviceInfo} (h : d.Sizes) :
    Reads DeviceInfo.readFromParcel (records d.marshalling) d := by
  obtain ⟨hdrm, hclients, hstreams⟩ := h
  have hdrms : Reads (readList legalDrmCapabilityLen (take Token.asString))
      (.int32 (toInt32 d.supportedDrmCapabilities.length) ::
        d.supportedDrmCapabilities.flatMap fun c => [.string c]) d.supportedDrmCapabilities :=
    Reads.readList (by omega) (decide_eq_true (by omega)) fun c _ => Reads.take rfl
  have hpulls : Reads (readList legalPullClientsLen (take Token.asUint32))
      (.int32 (toInt32 d.supportedPullClients.length) ::
        d.supportedPullClients.flatMap fun c => [uint32 c]) d.supportedPullClients :=
    Reads.readList (by omega) (decide_eq_true (by omega)) fun c _ =>
      Reads.take (asUint32_uint32 c)
  unfold DeviceInfo.marshalling DeviceInfo.readFromParcel
  simp only [records_append, records_flatMap, records, List.append_assoc, List.cons_append,
    List.nil_append]
  -- the fields before the first list
  iterate 11 refine Reads.cons rfl ?_
  refine hdrms.bind (Reads.cons rfl (Reads.cons rfl ?_))
  refine (reads_audioCapabilities hstreams).bind (hpulls.bind ?_)
  refine Reads.cons rfl (Reads.cons rfl (Reads.cons rfl ?_))
  refine (reads_hiPlayDeviceInfo _).bind (Reads.cons rfl (Reads.cons rfl ?_))
  exact Reads.pure d

/-- An output device whose lists keep their limits is read back. -/
theorem reads_outputDeviceInfo {o : OutputDeviceInfo} (h : o.Sizes) :
    Reads OutputDeviceInfo.readFromParcel (records o.marshalling) o := by
  have hsize := h.deviceInfos
  have hlist : Reads (readList legalDeviceInfoSize DeviceInfo.readFromParcel)
      (.int32 (toInt32 o.deviceInfos.length) ::
        o.deviceInfos.flatMap fun d => records d.marshalling) o.deviceInfos :=
    Reads.readList (by omega) (decide_eq_true (by omega)) fun d hd =>
      reads_deviceInfo (h.devices d hd)
  have hrecords : records o.marshalling = (.int32 (toInt32 o.deviceInfos.length) ::
      o.deviceInfos.flatMap fun d => records d.marshalling) ++ [] := by
    rw [List.append_nil, ← records_flatMap]
    rfl
  rw [hrecords]
  exact hlist.bind (Reads.pure o)

variable (element : ElementCodec)

/-- A descriptor that travels is read back. -/
theorem reads_descriptor {d : AVSessionDescriptor} (h : d.Travels) :
    Reads (AVSessionDescriptor.readFromParcel element) (records (d.marshalling element)) d := by
  have hsize := h.outputDeviceInfo.deviceInfos
  have hlist : Reads (readList legalDeviceInfoSize AVSessionDescriptor.readDevice)
      (.int32 (toInt32 d.outputDeviceInfo.deviceInfos.length) ::
        d.outputDeviceInfo.deviceInfos.flatMap fun d =>
          records (AVSessionDescriptor.marshallingDevice d)) d.outputDeviceInfo.deviceInfos :=
    Reads.readList (by omega) (decide_eq_true (by omega)) fun d hd =>
      reads_deviceInfo (h.outputDeviceInfo.devices d hd)
  unfold AVSessionDescriptor.marshalling AVSessionDescriptor.readFromParcel
  simp only [records_append, records_flatMap, records, records_map_write, List.cons_append,
    List.nil_append]
  iterate 9 refine Reads.cons rfl ?_
  refine hlist.bind ?_
  rw [← List.append_nil (element.writeParcelable d.elementName), ← h.isThirdPartyApp]
  exact (element.reads d.elementName).bind (Reads.pure d)

end reads

/-! ## Nothing else is accepted -/

section yields

/-- What is read has fewer than 1000 streams. -/
theorem yields_audioCapabilities :
    Yields AudioCapabilities.readFromParcel fun a => a.streamInfos.length < 1000 := by
  refine Yields.bind (Yields.readList (P := fun _ => True) ?_ fun _ _ _ _ => trivial) ?_
  · intro n hn
    exact (of_decide_eq_true hn).1
  · rintro streamInfos ⟨hlegal, -⟩
    have hsize := (of_decide_eq_true hlegal).2
    unfold maxStreamInfoSize at hsize
    refine Yields.pure ?_
    show streamInfos.length < 1000
    omega

/-- A device that is read keeps the limits. -/
theorem yields_deviceInfo : Yields DeviceInfo.readFromParcel DeviceInfo.Sizes := by
  have hdrms : Yields (readList legalDrmCapabilityLen (take Token.asString))
      fun as => legalDrmCapabilityLen as.length = true ∧ ∀ a ∈ as, True :=
    Yields.readList (fun n hn => (of_decide_eq_true hn).1) fun _ _ _ _ => trivial
  have hpulls : Yields (readList legalPullClientsLen (take Token.asUint32))
      fun as => legalPullClientsLen as.length = true ∧ ∀ a ∈ as, True :=
    Yields.readList (fun n hn => (of_decide_eq_true hn).1) fun _ _ _ _ => trivial
  unfold DeviceInfo.readFromParcel
  iterate 11 refine Yields.skip fun _ => ?_
  refine Yields.bind hdrms ?_
  rintro drms ⟨hdrm, -⟩
  iterate 2 refine Yields.skip fun _ => ?_
  refine Yields.bind yields_audioCapabilities fun audio haudio => ?_
  refine Yields.bind hpulls ?_
  rintro pulls ⟨hpull, -⟩
  iterate 6 refine Yields.skip fun _ => ?_
  have hdrmLen := (of_decide_eq_true hdrm).2
  have hpullLen := (of_decide_eq_true hpull).2
  exact Yields.pure ⟨by dsimp only; omega, by dsimp only; omega, haudio⟩

/-- What is read of the devices, in either class. -/
theorem yields_devices : Yields (readList legalDeviceInfoSize DeviceInfo.readFromParcel)
    fun deviceInfos => OutputDeviceInfo.Sizes ⟨deviceInfos⟩ := by
  have hlist : Yields (readList legalDeviceInfoSize DeviceInfo.readFromParcel)
      fun as => legalDeviceInfoSize as.length = true ∧ ∀ d ∈ as, d.Sizes :=
    Yields.readList (fun n hn => (of_decide_eq_true hn).1) yields_deviceInfo
  refine hlist.mono ?_
  rintro deviceInfos ⟨hlegal, hdevices⟩
  have hsize := (of_decide_eq_true hlegal).2
  exact ⟨by dsimp only; omega, hdevices⟩

/-- An output device that is read keeps the limits. -/
theorem yields_outputDeviceInfo :
    Yields OutputDeviceInfo.readFromParcel OutputDeviceInfo.Sizes :=
  Yields.bind yields_devices fun _ h => Yields.pure h

/-- A descriptor that is read travels. -/
theorem yields_descriptor (element : ElementCodec) :
    Yields (AVSessionDescriptor.readFromParcel element) AVSessionDescriptor.Travels := by
  unfold AVSessionDescriptor.readFromParcel
  iterate 9 refine Yields.skip fun _ => ?_
  refine Yields.bind yields_devices fun deviceInfos h => ?_
  exact Yields.skip fun _ => Yields.pure ⟨h, rfl⟩

end yields

/-! ## Round trips -/

section roundTrips

/-- What is read of what a writer has left in a parcel, behind what was there. -/
def readBack {α : Type} (p : Parcel) (puts : List Put) (x : Reader α) : Option α :=
  (x ((p.run puts).1.tokens.drop p.tokens.length)).map Prod.fst

/-- A writer that succeeds is read back exactly if the value is one that the reader accepts. -/
theorem readBack_iff {α : Type} {p : Parcel} {puts : List Put} {x : Reader α} {P : α → Prop}
    {a : α} (hwritten : (p.run puts).2 = true) (hreads : P a → Reads x (records puts) a)
    (hyields : Yields x P) : readBack p puts x = some a ↔ P a := by
  have hleft : (p.run puts).1.tokens.drop p.tokens.length = records puts := by
    rw [Parcel.run_fst_of_true hwritten]
    exact List.drop_left
  unfold readBack
  rw [hleft]
  constructor
  · intro h
    obtain ⟨⟨b, rest⟩, hb, rfl⟩ := Option.map_eq_some_iff.mp h
    exact hyields _ b rest hb
  · intro h
    have hread := hreads h []
    rw [List.append_nil] at hread
    rw [hread, Option.map_some]

/-- **The codecs.** In each class a value that was written comes back whole exactly if the reader
accepts its sizes and, for a session, it is not a third party's; and the device inlined in a session
is written and read as a device is. -/
theorem descriptor_codecs_iff (element : ElementCodec) (p : Parcel) :
    (∀ d : DeviceInfo, (p.run d.marshalling).2 = true →
      (readBack p d.marshalling DeviceInfo.readFromParcel = some d ↔ d.Sizes)) ∧
    (∀ o : OutputDeviceInfo, (p.run o.marshalling).2 = true →
      (readBack p o.marshalling OutputDeviceInfo.readFromParcel = some o ↔ o.Sizes)) ∧
    (∀ d : AVSessionDescriptor, (p.run (d.marshalling element)).2 = true →
      (readBack p (d.marshalling element) (AVSessionDescriptor.readFromParcel element) = some d ↔
        d.Travels)) ∧
    AVSessionDescriptor.marshallingDevice = DeviceInfo.marshalling ∧
    AVSessionDescriptor.readDevice = DeviceInfo.readFromParcel :=
  ⟨fun _ h => readBack_iff h reads_deviceInfo yields_deviceInfo,
    fun _ h => readBack_iff h reads_outputDeviceInfo yields_outputDeviceInfo,
    fun _ h => readBack_iff h (reads_descriptor element) (yields_descriptor element),
    AVSessionDescriptor.marshallingDevice_eq, AVSessionDescriptor.readDevice_eq⟩

/-- An element name as a marker and four strings. -/
def plainElement : ElementCodec where
  writeParcelable e :=
    [.int32 1, .string e.bundleName, .string e.abilityName, .string e.deviceId,
      .string e.moduleName]
  readParcelable := do
    let size ← take Token.asInt32
    check (size ≠ 0)
    let bundleName ← take Token.asString
    let abilityName ← take Token.asString
    let deviceId ← take Token.asString
    let moduleName ← take Token.asString
    pure ⟨deviceId, bundleName, abilityName, moduleName⟩
  reads e := by
    refine Reads.cons rfl (Reads.check rfl ?_)
    refine Reads.cons rfl (Reads.cons rfl (Reads.cons rfl (Reads.cons rfl ?_)))
    exact Reads.pure e

/-- An empty parcel that takes everything. -/
def emptyParcel : Parcel := ⟨[], fun _ _ => true⟩

/-- The local device. -/
def localDevice : DeviceInfo where
  castCategory := 0
  deviceId := "0"
  deviceName := "LocalDevice"
  networkId := ""
  ipAddress := ""
  manufacturer := ""
  modelName := ""
  deviceType := 0
  providerId := 0
  supportedProtocols := 0
  authenticationStatus := 0
  supportedDrmCapabilities := []
  supportedPullClients := []
  isLegacy := false
  mediumTypes := 2
  audioCapabilities := ⟨[]⟩
  bleMac := ""
  triggerType := 0
  uuid := ""
  hiPlayDeviceInfo := ⟨0, 0, 0, "", ""⟩
  realDeviceId := ""
  screenId := -1

/-- A session on the local device. -/
def localSession (isThirdPartyApp : Bool) : AVSessionDescriptor where
  sessionId := "1"
  sessionType := 0
  sessionTag := "player"
  elementName := ⟨"", "com.example.music", "MainAbility", ""⟩
  pid := 1000
  uid := 20010001
  isActive := true
  isTopSession := true
  isThirdPartyApp := isThirdPartyApp
  outputDeviceInfo := ⟨[localDevice]⟩
  userId := 100
  screenUserId := 0

/-- The descriptor of a local session comes back when it travels. -/
theorem localSession_readBack :
    readBack emptyParcel ((localSession false).marshalling plainElement)
      (AVSessionDescriptor.readFromParcel plainElement) = some (localSession false) ↔
      (localSession false).Travels :=
  (descriptor_codecs_iff plainElement emptyParcel).2.2.1 (localSession false) rfl

/-- The flag of a third party's session is lost. -/
theorem thirdParty_lost :
    (emptyParcel.run ((localSession true).marshalling plainElement)).2 = true ∧
      readBack emptyParcel ((localSession true).marshalling plainElement)
        (AVSessionDescriptor.readFromParcel plainElement) ≠ some (localSession true) := by
  refine ⟨rfl, fun h => ?_⟩
  have hread : readBack emptyParcel ((localSession true).marshalling plainElement)
      (AVSessionDescriptor.readFromParcel plainElement) = some (localSession false) := rfl
  have hparty := congrArg AVSessionDescriptor.isThirdPartyApp (Option.some.inj (hread ▸ h))
  cases hparty

end roundTrips

end AvSession.Descriptor
