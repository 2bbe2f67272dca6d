import AvSession.Descriptor.Codec
import AvSession.Item
import AvSession.Lib.CString
import AvSession.Lib.Json
import Mathlib.Data.List.Forall2

/-!
# The session info

Two devices describe their sessions to each other by documents. The setters add members to the
document that is there; the getters read the first.

* `SessionInfo` — a string as the parser sees it.
* `AVSessionBasicInfo`, `setSessionBasicInfo`, `getSessionBasicInfo` — what a device says of itself.
* `setSessionDescriptor`, `setSessionDescriptors` and their getters.
* `Setter`, `produced` — the documents that the setters make.
* `Represents` — which descriptors a document holds; `represents_produced`.
* `descriptor_roundTrip_iff` — what a getter finds after a setter, and that the basic information
  stays.
-/

namespace AvSession.Descriptor

open AvSession.Lib

/-! ## Strings -/

section strings

/-- A string as the parser sees it. Printing a document and parsing it are inverse. -/
inductive SessionInfo
  | empty
  | malformed
  | doc (j : Json)

/-- SESSION_TYPE_INVALID of av_session.h. -/
def sessionTypeInvalid : ℤ := -1

/-- SESSION_TYPE_AUDIO of av_session.h. -/
def sessionTypeAudio : ℤ := 0

/-- SESSION_TYPE_VIDEO of av_session.h. -/
def sessionTypeVideo : ℤ := 1

/-- Source: json_utils.cpp, JsonUtils::ConvertSessionType of a string. -/
def sessionTypeOfString (typeString : String) : ℤ :=
  if typeString = "audio" then sessionTypeAudio
  else if typeString = "video" then sessionTypeVideo
  else sessionTypeInvalid

/-- Source: json_utils.cpp, JsonUtils::ConvertSessionType of a number. -/
def stringOfSessionType (type : ℤ) : String :=
  if type = sessionTypeAudio then "audio" else if type = sessionTypeVideo then "video" else ""

end strings

/-! ## The basic information -/

section basicInfo

/-- Source: avsession_descriptor.h, AVSessionBasicInfo. -/
structure AVSessionBasicInfo where
  deviceName : String
  networkId : String
  vendorId : String
  deviceType : String
  systemVersion : String
  sessionVersion : Int32
  reserve : List Int32
  feature : List Int32
  metaDataCap : List Int32
  playBackStateCap : List Int32
  controlCommandCap : List Int32
  extendCapability : List Int32
  systemTime : Int32
  extend : List Int32
deriving DecidableEq

/-- The items of an array of numbers. -/
def numberItems (vs : List Int32) : List Json := vs.map fun v => .number v.toInt

/-- An array of numbers. -/
def numbers (vs : List Int32) : Json := .array (numberItems vs)

/-- An item is made anew if it is missing or `null`. -/
def notNull (j : Json) : Bool := !j.isNull

/-- Source: json_utils.cpp, JsonUtils::SetSessionCapabilitySet. -/
def setSessionCapabilitySet (j : Json) (basicInfo : AVSessionBasicInfo) : Json :=
  j.withItem "capabilitySet" notNull (.object []) fun capabilitySetItem =>
    ((capabilitySetItem.addItemToObject "metaData" (numbers basicInfo.metaDataCap)).addItemToObject
      "playbackState" (numbers basicInfo.playBackStateCap)).addItemToObject
      "controlCommand" (numbers basicInfo.controlCommandCap)

/-- Source: json_utils.cpp, JsonUtils::SetSessionCompatibility. -/
def setSessionCompatibility (j : Json) (basicInfo : AVSessionBasicInfo) : Json :=
  j.withItem "compatibility" notNull (.object []) fun item =>
    let item := item.addItemToObject "networkId" (.string (cStr basicInfo.networkId))
    let item := item.addItemToObject "vendorId" (.string (cStr basicInfo.vendorId))
    let item := item.addItemToObject "deviceType" (.string (cStr basicInfo.deviceType))
    let item := item.addItemToObject "systemVersion" (.string (cStr basicInfo.systemVersion))
    let item := item.addItemToObject "avsessionVersion" (.number basicInfo.sessionVersion.toInt)
    let item := item.addItemToObject "reserve" (numbers basicInfo.reserve)
    let item := item.addItemToObject "features" (numbers basicInfo.feature)
    let item := setSessionCapabilitySet item basicInfo
    item.addItemToObject "extendCapability" (numbers basicInfo.extendCapability)

/-- Source: json_utils.cpp, JsonUtils::SetSessionData. -/
def setSessionData (j : Json) (basicInfo : AVSessionBasicInfo) : Json :=
  j.withItem "data" notNull (.object []) fun dataItem =>
    (dataItem.addItemToObject "systemTime" (.number basicInfo.systemTime.toInt)).addItemToObject
      "extend" (numbers basicInfo.extend)

/-- The document that a setter begins with. -/
def SessionInfo.parse : SessionInfo → Option Json
  | .empty => some (.object [])
  | .malformed => none
  | .doc j => some j

/-- Source: json_utils.cpp, JsonUtils::SetSessionBasicInfo. -/
def setSessionBasicInfo (info : SessionInfo) (basicInfo : AVSessionBasicInfo) :
    SessionInfo × RetCode :=
  match info.parse with
  | none => (info, .error)
  | some j =>
      let j := setSessionData (setSessionCompatibility j basicInfo) basicInfo
      if j.isNull then (info, .error) else (.doc j, .success)

/-- Readers of the basic information: the members that were read before a failure stay. -/
abbrev BasicInfoReader := EStateM Unit AVSessionBasicInfo

/-- A member of a type, or a failure. -/
def readItem {α : Type} (j : Json) (key : String) (as : Json → Option α) : BasicInfoReader α :=
  match (j.getObjectItem key).bind as with
  | some v => pure v
  | none => throw ()

/-- The integer value of a number, in a member of 32 bits. -/
def asInt32 (j : Json) : Option Int32 := j.asValueint.map Int32.ofInt

/-- What is not a number is passed over. Source: json_utils.cpp, JsonUtils::JsonToVector. -/
def jsonToVector (items : List Json) : List Int32 := items.filterMap asInt32

/-- Source: json_utils.cpp, JsonUtils::GetSessionCapabilitySet. -/
def getSessionCapabilitySet (j : Json) : BasicInfoReader Unit := do
  let metaDataItem ← readItem j "metaData" Json.asArray
  modify fun b => { b with metaDataCap := b.metaDataCap ++ jsonToVector metaDataItem }
  let playbackStateItem ← readItem j "playbackState" Json.asArray
  modify fun b =>
    { b with playBackStateCap := b.playBackStateCap ++ jsonToVector playbackStateItem }
  let controlCommandItem ← readItem j "controlCommand" Json.asArray
  modify fun b =>
    { b with controlCommandCap := b.controlCommandCap ++ jsonToVector controlCommandItem }

/-- Source: json_utils.cpp, JsonUtils::GetSessionCompatibility. -/
def getSessionCompatibility (j : Json) : BasicInfoReader Unit := do
  let networkId ← readItem j "networkId" Json.asString
  modify fun b => { b with networkId }
  let vendorId ← readItem j "vendorId" Json.asString
  modify fun b => { b with vendorId }
  let deviceType ← readItem j "deviceType" Json.asString
  modify fun b => { b with deviceType }
  let systemVersion ← readItem j "systemVersion" Json.asString
  modify fun b => { b with systemVersion }
  let sessionVersion ← readItem j "avsessionVersion" asInt32
  modify fun b => { b with sessionVersion }
  let reserveItem ← readItem j "reserve" Json.asArray
  modify fun b => { b with reserve := b.reserve ++ jsonToVector reserveItem }
  let featuresItem ← readItem j "features" Json.asArray
  modify fun b => { b with feature := b.feature ++ jsonToVector featuresItem }
  let capabilitySetItem ← readItem j "capabilitySet" some
  getSessionCapabilitySet capabilitySetItem
  let extendCapabilityItem ← readItem j "extendCapability" Json.asArray
  modify fun b =>
    { b with extendCapability := b.extendCapability ++ jsonToVector extendCapabilityItem }

/-- Source: json_utils.cpp, JsonUtils::GetSessionData. -/
def getSessionData (j : Json) : BasicInfoReader Unit := do
  let systemTime ← readItem j "systemTime" asInt32
  modify fun b => { b with systemTime }
  let extendItem ← readItem j "extend" Json.asArray
  modify fun b => { b with extend := b.extend ++ jsonToVector extendItem }

/-- Source: json_utils.cpp, JsonUtils::GetSessionBasicInfo. -/
def getSessionBasicInfo : SessionInfo → BasicInfoReader Unit
  | .empty | .malformed => throw ()
  | .doc j =>
      match j.getObjectItem "compatibility", j.getObjectItem "data" with
      | some compatibilityItem, some dataItem => do
          getSessionCompatibility compatibilityItem
          getSessionData dataItem
      | _, _ => throw ()

/-- Source: json_utils.cpp, JsonUtils::GetAllCapability. -/
def getAllCapability : SessionInfo → Option Json
  | .empty | .malformed => none
  | .doc j => do
      let compatibilityItem ← j.getObjectItem "compatibility"
      let capabilitySetItem ← compatibilityItem.getObjectItem "capabilitySet"
      if capabilitySetItem.isNull then none else some capabilitySetItem

end basicInfo

/-! ## Descriptors -/

section descriptors

/-- A new descriptor. -/
def AVSessionDescriptor.init : AVSessionDescriptor where
  sessionId := ""
  sessionType := 0
  sessionTag := ""
  elementName := ⟨"", "", "", ""⟩
  pid := 0
  uid := 0
  isActive := false
  isTopSession := false
  isThirdPartyApp := false
  outputDeviceInfo := ⟨[]⟩
  userId := 0
  screenUserId := 0

/-- Source: json_utils.cpp, JsonUtils::SetSessionDescriptorByCJSON. -/
def setSessionDescriptorByCJSON (item : Json) (descriptor : AVSessionDescriptor) : Json :=
  let item := item.addItemToObject "sessionId" (.string (cStr descriptor.sessionId))
  let item := item.addItemToObject "type" (.string (stringOfSessionType descriptor.sessionType))
  let item := item.addItemToObject "bundleName"
    (.string (cStr descriptor.elementName.bundleName))
  let item := item.addItemToObject "abilityName"
    (.string (cStr descriptor.elementName.abilityName))
  let item := item.addItemToObject "tag" (.string (cStr descriptor.sessionTag))
  item.addItemToObject "isThirdPartyApp" (.bool descriptor.isThirdPartyApp)

/-- All members are checked before the first is taken.
Source: json_utils.cpp, JsonUtils::GetSessionDescriptorByCJSON. -/
def getSessionDescriptorByCJSON (item : Json) (descriptor : AVSessionDescriptor) :
    Option AVSessionDescriptor := do
  let sessionId ← (item.getObjectItem "sessionId").bind Json.asString
  let type ← (item.getObjectItem "type").bind Json.asString
  let bundleName ← (item.getObjectItem "bundleName").bind Json.asString
  let abilityName ← (item.getObjectItem "abilityName").bind Json.asString
  let tag ← (item.getObjectItem "tag").bind Json.asString
  let isThirdPartyApp ← (item.getObjectItem "isThirdPartyApp").bind Json.asBool
  pure { descriptor with
    sessionId
    sessionType := sessionTypeOfString type
    elementName := { descriptor.elementName with bundleName, abilityName }
    sessionTag := tag
    isThirdPartyApp }

/-- Source: json_utils.cpp, JsonUtils::SetSessionDescriptor. -/
def setSessionDescriptor (info : SessionInfo) (descriptor : AVSessionDescriptor) :
    SessionInfo × RetCode :=
  match info.parse with
  | none => (info, .error)
  | some j =>
      (.doc (j.withItem "data" notNull (.object []) fun dataItem =>
        dataItem.withItem "sessionDescriptor" notNull (.object []) fun descriptorItem =>
          setSessionDescriptorByCJSON descriptorItem descriptor), .success)

/-- Source: json_utils.cpp, JsonUtils::GetSessionDescriptor. -/
def getSessionDescriptor (info : SessionInfo) (descriptor : AVSessionDescriptor) :
    Option AVSessionDescriptor :=
  match info with
  | .empty | .malformed => none
  | .doc j => do
      let dataItem ← j.getObjectItem "data"
      let descriptorItem ← dataItem.getObjectItem "sessionDescriptor"
      getSessionDescriptorByCJSON descriptorItem descriptor

/-- The loop over the descriptors: number `i` is inserted at place `i`.
Source: json_utils.cpp, JsonUtils::SetSessionDescriptors. -/
def insertDescriptors : ℕ → List AVSessionDescriptor → Json → Json
  | _, [], descriptorsArray => descriptorsArray
  | i, descriptor :: descriptors, descriptorsArray =>
      insertDescriptors (i + 1) descriptors
        (descriptorsArray.insertItemInArray i
          (setSessionDescriptorByCJSON (.object []) descriptor))

/-- Source: json_utils.cpp, JsonUtils::SetSessionDescriptors. -/
def setSessionDescriptors (info : SessionInfo) (descriptors : List AVSessionDescriptor) :
    SessionInfo × RetCode :=
  match info.parse with
  | none => (info, .error)
  | some j =>
      (.doc (j.withItem "data" notNull (.object []) fun dataItem =>
        dataItem.withItem "sessionDescriptors" Json.isArray (.array []) fun descriptorsArray =>
          insertDescriptors 0 descriptors descriptorsArray), .success)

/-- The loop over the array: the descriptors before a malformed one are kept.
Source: json_utils.cpp, JsonUtils::GetSessionDescriptors. -/
def readDescriptors : List Json → List AVSessionDescriptor → List AVSessionDescriptor × RetCode
  | [], descriptors => (descriptors, .success)
  | item :: items, descriptors =>
      match getSessionDescriptorByCJSON item .init with
      | none => (descriptors, .error)
      | some descriptor => readDescriptors items (descriptors ++ [descriptor])

/-- Source: json_utils.cpp, JsonUtils::GetSessionDescriptors. -/
def getSessionDescriptors (info : SessionInfo) (descriptors : List AVSessionDescriptor) :
    List AVSessionDescriptor × RetCode :=
  match info with
  | .empty | .malformed => (descriptors, .error)
  | .doc j =>
      let descriptorsArray :=
        (j.getObjectItem "data").bind fun dataItem =>
          (dataItem.getObjectItem "sessionDescriptors").bind Json.asArray
      match descriptorsArray with
      | none => (descriptors, .error)
      | some items => readDescriptors items descriptors

end descriptors

/-! ## What a document holds -/

section represents

/-- The six fields that a document has of a descriptor. -/
structure SameFields (a b : AVSessionDescriptor) : Prop where
  sessionId : a.sessionId = b.sessionId
  sessionType : a.sessionType = b.sessionType
  sessionTag : a.sessionTag = b.sessionTag
  bundleName : a.elementName.bundleName = b.elementName.bundleName
  abilityName : a.elementName.abilityName = b.elementName.abilityName
  isThirdPartyApp : a.isThirdPartyApp = b.isThirdPartyApp

/-- The type that is left of a type: only audio and video have a name. -/
def storedType (type : ℤ) : ℤ :=
  if type = sessionTypeAudio ∨ type = sessionTypeVideo then type else sessionTypeInvalid

/-- The descriptor as it is stored. -/
structure StoredAs (d e : AVSessionDescriptor) : Prop where
  sessionId : cStr d.sessionId = e.sessionId
  sessionType : storedType d.sessionType = e.sessionType
  sessionTag : cStr d.sessionTag = e.sessionTag
  bundleName : cStr d.elementName.bundleName = e.elementName.bundleName
  abilityName : cStr d.elementName.abilityName = e.elementName.abilityName
  isThirdPartyApp : d.isThirdPartyApp = e.isThirdPartyApp

/-- The members of a descriptor. -/
def descriptorMembers (d : AVSessionDescriptor) : List (String × Json) :=
  [("sessionId", .string (cStr d.sessionId)),
    ("type", .string (stringOfSessionType d.sessionType)),
    ("bundleName", .string (cStr d.elementName.bundleName)),
    ("abilityName", .string (cStr d.elementName.abilityName)),
    ("tag", .string (cStr d.sessionTag)), ("isThirdPartyApp", .bool d.isThirdPartyApp)]

/-- The members of a `data` object that are about sessions: the first descriptor that was set, and
the list of descriptors. -/
structure DataHolds (data : List (String × Json)) (first : Option AVSessionDescriptor)
    (stored : List AVSessionDescriptor) : Prop where
  descriptor : match first with
    | none => Json.member data "sessionDescriptor" = none
    | some d => ∃ more,
        Json.member data "sessionDescriptor" = some (.object (descriptorMembers d ++ more))
  descriptors : (Json.member data "sessionDescriptors" = none ∧ stored = []) ∨
    Json.member data "sessionDescriptors" =
      some (.array (stored.map fun d => .object (descriptorMembers d)))

/-- The same of a document: without a `data` object it holds nothing. -/
def MembersHold (members : List (String × Json)) (first : Option AVSessionDescriptor)
    (stored : List AVSessionDescriptor) : Prop :=
  (Json.member members "data" = none ∧ first = none ∧ stored = []) ∨
    ∃ data, Json.member members "data" = some (.object data) ∧ DataHolds data first stored

/-- What a session info that the setters have made holds. The basic information comes with a `data`
object. -/
def Represents (info : SessionInfo) (first : Option AVSessionDescriptor)
    (stored : List AVSessionDescriptor) : Prop :=
  ∃ members, info.parse = some (.object members) ∧ MembersHold members first stored ∧
    (Json.member members "data" = none → Json.member members "compatibility" = none)

/-- A call of a setter. -/
inductive Setter
  | basicInfo (b : AVSessionBasicInfo)
  | descriptor (d : AVSessionDescriptor)
  | descriptors (ds : List AVSessionDescriptor)

/-- The session info after a call. -/
def Setter.apply (info : SessionInfo) : Setter → SessionInfo
  | .basicInfo b => (setSessionBasicInfo info b).1
  | .descriptor d => (setSessionDescriptor info d).1
  | .descriptors ds => (setSessionDescriptors info ds).1

/-- The session info after a sequence of calls. -/
def produced (setters : List Setter) : SessionInfo := setters.foldl Setter.apply .empty

/-- The descriptor that is held after a call: the first one stays. -/
def Setter.first (first : Option AVSessionDescriptor) : Setter → Option AVSessionDescriptor
  | .descriptor d => first.or (some d)
  | .basicInfo _ | .descriptors _ => first

/-- The list that is held after a call: new descriptors come first. -/
def Setter.stored (stored : List AVSessionDescriptor) : Setter → List AVSessionDescriptor
  | .descriptors ds => ds ++ stored
  | .basicInfo _ | .descriptor _ => stored

/-- The first descriptor that was set. -/
def firstDescriptor (setters : List Setter) : Option AVSessionDescriptor :=
  setters.foldl Setter.first none

/-- The descriptors that were set as lists, the latest list first. -/
def storedDescriptors (setters : List Setter) : List AVSessionDescriptor :=
  setters.foldl Setter.stored []

end represents

/-! ## Setters -/

section setters

variable {info : SessionInfo} {first : Option AVSessionDescriptor}
  {stored : List AVSessionDescriptor} {data members : List (String × Json)}

/-- The members are appended to the object. -/
theorem setSessionDescriptorByCJSON_object (members : List (String × Json))
    (d : AVSessionDescriptor) : setSessionDescriptorByCJSON (.object members) d =
      .object (members ++ descriptorMembers d) := by
  simp only [setSessionDescriptorByCJSON, Json.addItemToObject, List.append_assoc]
  rfl

/-- The descriptors are inserted in front of those that were there. -/
theorem insertDescriptors_array (done : List Json) (ds : List AVSessionDescriptor)
    (old : List Json) : insertDescriptors done.length ds (.array (done ++ old)) =
      .array (done ++ ds.map (fun d => .object (descriptorMembers d)) ++ old) := by
  induction ds generalizing done with
  | nil => rw [List.map_nil, List.append_nil]; rfl
  | cons d ds ih =>
      unfold insertDescriptors Json.insertItemInArray
      dsimp only
      rw [List.take_left, List.drop_left, setSessionDescriptorByCJSON_object, List.nil_append]
      have hlen : (done ++ [Json.object (descriptorMembers d)]).length = done.length + 1 :=
        List.length_append
      rw [List.map_cons, ← hlen, List.append_cons done _ old, List.append_cons done _ (ds.map _)]
      exact ih _

/-- A setter changes the `data` object, which it makes if there is none. -/
theorem MembersHold.withData (h : MembersHold members first stored) {f : Json → Json}
    {Q : List (String × Json) → Prop}
    (hf : ∀ data, DataHolds data first stored →
      ∃ data', f (.object data) = .object data' ∧ Q data') :
    ∃ members', (Json.object members).withItem "data" notNull (.object []) f = .object members' ∧
      ∃ data', Json.member members' "data" = some (.object data') ∧ Q data' := by
  rcases h with ⟨hnone, rfl, rfl⟩ | ⟨data, hdata, hholds⟩
  · obtain ⟨data', hf', hholds'⟩ := hf [] ⟨rfl, .inl ⟨rfl, rfl⟩⟩
    refine ⟨_, Json.withItem_of_none hnone, data', ?_, hholds'⟩
    rw [Json.member_append_self hnone, hf']
  · obtain ⟨data', hf', hholds'⟩ := hf data hholds
    refine ⟨_, Json.withItem_of_fit hdata rfl, data', ?_, hholds'⟩
    rw [Json.member_updateFirst_self, hdata, Option.map_some, hf']

/-- A descriptor is added to the one that is there. -/
theorem DataHolds.setDescriptor (h : DataHolds data first stored) (d : AVSessionDescriptor) :
    ∃ data', (Json.object data).withItem "sessionDescriptor" notNull (.object [])
        (fun item => setSessionDescriptorByCJSON item d) = .object data' ∧
      DataHolds data' (first.or (some d)) stored := by
  have hdescriptor := h.descriptor
  cases first with
  | none =>
      refine ⟨_, Json.withItem_of_none hdescriptor, ⟨⟨[], ?_⟩, ?_⟩⟩
      · rw [Json.member_append_self hdescriptor,
          setSessionDescriptorByCJSON_object, List.nil_append, List.append_nil]
      · rw [Json.member_append_of_ne (by decide)]
        exact h.descriptors
  | some d0 =>
      obtain ⟨more, hmore⟩ := hdescriptor
      refine ⟨_, Json.withItem_of_fit hmore rfl, ⟨⟨more ++ descriptorMembers d, ?_⟩, ?_⟩⟩
      · rw [Json.member_updateFirst_self, hmore, Option.map_some,
          setSessionDescriptorByCJSON_object, List.append_assoc]
      · rw [Json.member_updateFirst_of_ne (by decide)]
        exact h.descriptors

/-- Descriptors are inserted before those that are there. -/
theorem DataHolds.setDescriptors (h : DataHolds data first stored)
    (ds : List AVSessionDescriptor) :
    ∃ data', (Json.object data).withItem "sessionDescriptors" Json.isArray (.array [])
        (fun descriptorsArray => insertDescriptors 0 ds descriptorsArray) = .object data' ∧
      Json.member data' "sessionDescriptors" =
        some (.array ((ds ++ stored).map fun d => .object (descriptorMembers d))) ∧
      DataHolds data' first (ds ++ stored) := by
  have hinsert := fun old => insertDescriptors_array [] ds old
  rcases h.descriptors with ⟨hnone, rfl⟩ | hsome
  · have hmember : Json.member (data ++ [("sessionDescriptors", insertDescriptors 0 ds (.array []))])
        "sessionDescriptors" =
          some (.array ((ds ++ []).map fun d => .object (descriptorMembers d))) := by
      rw [Json.member_append_self hnone]
      exact congrArg some ((hinsert []).trans (by rw [List.map_append]; rfl))
    refine ⟨_, Json.withItem_of_none hnone, hmember, ⟨?_, .inr hmember⟩⟩
    rw [Json.member_append_of_ne (by decide)]
    exact h.descriptor
  · have hmember : Json.member (Json.updateFirst "sessionDescriptors" (insertDescriptors 0 ds) data)
        "sessionDescriptors" =
          some (.array ((ds ++ stored).map fun d => .object (descriptorMembers d))) := by
      rw [Json.member_updateFirst_self, hsome, Option.map_some]
      exact congrArg some ((hinsert _).trans (by rw [List.map_append]; rfl))
    refine ⟨_, Json.withItem_of_fit hsome rfl, hmember, ⟨?_, .inr hmember⟩⟩
    rw [Json.member_updateFirst_of_ne (by decide)]
    exact h.descriptor

/-- Basic information is not about sessions. -/
theorem DataHolds.setBasicInfo (h : DataHolds data first stored) (b : AVSessionBasicInfo) :
    ∃ data', ((Json.object data).addItemToObject "systemTime"
        (.number b.systemTime.toInt)).addItemToObject "extend" (numbers b.extend) =
          .object data' ∧ DataHolds data' first stored := by
  have hmember : ∀ k, ¬ Json.SameKey "systemTime" k → ¬ Json.SameKey "extend" k →
      Json.member (data ++ [("systemTime", Json.number b.systemTime.toInt)] ++
        [("extend", numbers b.extend)]) k = Json.member data k := by
    intro k htime hextend
    rw [Json.member_append_of_ne hextend, Json.member_append_of_ne htime]
  refine ⟨_, rfl, ⟨?_, ?_⟩⟩
  · rw [hmember "sessionDescriptor" (by decide) (by decide)]
    exact h.descriptor
  · rw [hmember "sessionDescriptors" (by decide) (by decide)]
    exact h.descriptors

/-- What a setter that changes the `data` object leaves. -/
theorem Represents.withData (h : Represents info first stored) {f : Json → Json}
    {Q : List (String × Json) → Prop}
    (hf : ∀ data, DataHolds data first stored →
      ∃ data', f (.object data) = .object data' ∧ Q data') :
    ∃ j members data, info.parse = some j ∧
      j.withItem "data" notNull (.object []) f = .object members ∧
      Json.member members "data" = some (.object data) ∧ Q data := by
  obtain ⟨members, hparse, hholds, -⟩ := h
  obtain ⟨members', hwith, data', hdata', hholds'⟩ := hholds.withData hf
  exact ⟨_, members', data', hparse, hwith, hdata', hholds'⟩

/-- A document with a data object represents what that object holds. -/
theorem represents_of_data (hdata : Json.member members "data" = some (.object data))
    (h : DataHolds data first stored) : Represents (.doc (.object members)) first stored := by
  refine ⟨members, rfl, .inr ⟨data, hdata, h⟩, fun hnone => ?_⟩
  rw [hdata] at hnone
  cases hnone

/-- The first descriptor set is the one represented. -/
theorem Represents.setDescriptor (h : Represents info first stored) (d : AVSessionDescriptor) :
    Represents (setSessionDescriptor info d).1 (first.or (some d)) stored := by
  obtain ⟨j, members, data, hparse, hwith, hdata, hholds⟩ := h.withData
    (f := fun dataItem => dataItem.withItem "sessionDescriptor" notNull (.object []) fun item =>
      setSessionDescriptorByCJSON item d) fun data hdata => hdata.setDescriptor d
  unfold setSessionDescriptor
  rw [hparse]
  dsimp only
  rw [hwith]
  exact represents_of_data hdata hholds

/-- After the setter there is a list, also if it is empty. -/
theorem Represents.exists_setDescriptors (h : Represents info first stored)
    (ds : List AVSessionDescriptor) :
    ∃ members data, setSessionDescriptors info ds = (.doc (.object members), .success) ∧
      Json.member members "data" = some (.object data) ∧
      Json.member data "sessionDescriptors" =
        some (.array ((ds ++ stored).map fun d => .object (descriptorMembers d))) ∧
      DataHolds data first (ds ++ stored) := by
  obtain ⟨j, members, data, hparse, hwith, hdata, hholds⟩ := h.withData
    (f := fun dataItem => dataItem.withItem "sessionDescriptors" Json.isArray (.array [])
      fun descriptorsArray => insertDescriptors 0 ds descriptorsArray)
    fun data hdata => hdata.setDescriptors ds
  refine ⟨members, data, ?_, hdata, hholds⟩
  unfold setSessionDescriptors
  rw [hparse]
  dsimp only
  rw [hwith]

/-- A set list is put in front of the list represented. -/
theorem Represents.setDescriptors (h : Represents info first stored)
    (ds : List AVSessionDescriptor) :
    Represents (setSessionDescriptors info ds).1 first (ds ++ stored) := by
  obtain ⟨members, data, hset, hdata, -, hholds⟩ := h.exists_setDescriptors ds
  rw [hset]
  exact represents_of_data hdata hholds

/-- The basic information is apart from the descriptors. -/
theorem Represents.setBasicInfo (h : Represents info first stored) (b : AVSessionBasicInfo) :
    Represents (setSessionBasicInfo info b).1 first stored := by
  obtain ⟨members, hparse, hholds, -⟩ := h
  obtain ⟨members', hcompatibility, hother⟩ :=
    Json.exists_withItem members "compatibility" notNull (.object []) _
  have hholds' : MembersHold members' first stored := by
    unfold MembersHold
    rw [hother "data" (by decide)]
    exact hholds
  obtain ⟨members'', hwith, data, hdata, hholds''⟩ := hholds'.withData
    (f := fun dataItem => (dataItem.addItemToObject "systemTime" (.number b.systemTime.toInt)
      ).addItemToObject "extend" (numbers b.extend)) fun data hdata => hdata.setBasicInfo b
  have hset :
      setSessionData (setSessionCompatibility (.object members) b) b = .object members'' := by
    unfold setSessionCompatibility
    rw [hcompatibility]
    exact hwith
  unfold setSessionBasicInfo
  rw [hparse]
  dsimp only
  rw [hset]
  exact represents_of_data hdata hholds''

/-- What the setters have made holds the first descriptor that was set, and the lists. -/
theorem represents_produced (setters : List Setter) :
    Represents (produced setters) (firstDescriptor setters) (storedDescriptors setters) := by
  have hrun : ∀ (setters : List Setter) info first stored, Represents info first stored →
      Represents (setters.foldl Setter.apply info) (setters.foldl Setter.first first)
        (setters.foldl Setter.stored stored) := by
    intro setters
    induction setters with
    | nil => exact fun _ _ _ h => h
    | cons x setters ih =>
        intro info first stored h
        refine ih _ _ _ ?_
        cases x with
        | basicInfo b => exact h.setBasicInfo b
        | descriptor d => exact h.setDescriptor d
        | descriptors ds => exact h.setDescriptors ds
  exact hrun setters .empty none [] ⟨[], rfl, .inl ⟨rfl, rfl, rfl⟩, fun _ => rfl⟩

end setters

/-! ## Getters -/

section getters

variable {info : SessionInfo} {first : Option AVSessionDescriptor}
  {stored : List AVSessionDescriptor}

/-- A session type is read back where it has a name. -/
theorem sessionTypeOfString_stringOfSessionType (type : ℤ) :
    sessionTypeOfString (stringOfSessionType type) = storedType type := by
  unfold stringOfSessionType storedType
  by_cases haudio : type = sessionTypeAudio
  · rw [if_pos haudio, if_pos (.inl haudio), haudio]
    rfl
  · rw [if_neg haudio]
    by_cases hvideo : type = sessionTypeVideo
    · rw [if_pos hvideo, if_pos (.inr hvideo), hvideo]
      rfl
    · rw [if_neg hvideo, if_neg (not_or.mpr ⟨haudio, hvideo⟩)]
      rfl

/-- A getter finds a descriptor as it is stored, whatever was added behind it. -/
theorem getSessionDescriptorByCJSON_members (d : AVSessionDescriptor)
    (more : List (String × Json)) (out : AVSessionDescriptor) :
    ∃ e, getSessionDescriptorByCJSON (.object (descriptorMembers d ++ more)) out = some e ∧
      StoredAs d e :=
  ⟨_, rfl, ⟨rfl, (sessionTypeOfString_stringOfSessionType d.sessionType).symm, rfl, rfl, rfl, rfl⟩⟩

/-- A stored list is read back as it was stored. -/
theorem readDescriptors_map (ds es : List AVSessionDescriptor) :
    ∃ es', readDescriptors (ds.map fun d => .object (descriptorMembers d)) es =
        (es ++ es', .success) ∧ List.Forall₂ StoredAs ds es' := by
  induction ds generalizing es with
  | nil => exact ⟨[], by rw [List.append_nil]; rfl, .nil⟩
  | cons d ds ih =>
      obtain ⟨e, he, hstored⟩ := getSessionDescriptorByCJSON_members d [] .init
      rw [List.append_nil] at he
      obtain ⟨es', hes', hall⟩ := ih (es ++ [e])
      refine ⟨e :: es', ?_, .cons hstored hall⟩
      rw [List.map_cons]
      unfold readDescriptors
      rw [he]
      dsimp only
      rw [hes', List.append_assoc]
      rfl

/-- A getter finds the first descriptor that was set. -/
theorem Represents.getDescriptor {d : AVSessionDescriptor} (h : Represents info (some d) stored)
    (out : AVSessionDescriptor) :
    ∃ e, getSessionDescriptor info out = some e ∧ StoredAs d e := by
  obtain ⟨members, hparse, hholds, -⟩ := h
  rcases hholds with ⟨-, hnone, -⟩ | ⟨data, hdata, hholds⟩
  · cases hnone
  · obtain ⟨more, hmore⟩ := hholds.descriptor
    obtain ⟨e, he, hstored⟩ := getSessionDescriptorByCJSON_members d more out
    refine ⟨e, ?_, hstored⟩
    cases info with
    | malformed => cases hparse
    | empty =>
        obtain rfl := Json.object.inj (Option.some.inj hparse)
        cases hdata
    | doc j =>
        obtain rfl := Option.some.inj hparse
        unfold getSessionDescriptor Json.getObjectItem
        dsimp only
        rw [hdata]
        show (Json.member data "sessionDescriptor").bind _ = _
        rw [hmore]
        exact he

/-- The getter of the basic information does not see what is set about sessions. -/
theorem getSessionBasicInfo_congr {members members' data data' : List (String × Json)}
    (hcompatibility : Json.member members' "compatibility" = Json.member members "compatibility")
    (hdata : Json.member members "data" = some (.object data))
    (hdata' : Json.member members' "data" = some (.object data'))
    (hmember : ∀ k, k = "systemTime" ∨ k = "extend" → Json.member data' k = Json.member data k) :
    getSessionBasicInfo (.doc (.object members')) =
      getSessionBasicInfo (.doc (.object members)) := by
  have hread : getSessionData (.object data') = getSessionData (.object data) := by
    unfold getSessionData readItem Json.getObjectItem
    dsimp only
    rw [hmember "systemTime" (.inl rfl), hmember "extend" (.inr rfl)]
  unfold getSessionBasicInfo Json.getObjectItem
  dsimp only
  rw [hcompatibility, hdata, hdata']
  cases Json.member members "compatibility" with
  | none => rfl
  | some c =>
      dsimp only
      rw [hread]

/-- Setting a member of the `data` object leaves what is read of the basic information. -/
theorem Represents.getBasicInfo (h : Represents info first stored) (key : String)
    (fit : Json → Bool) (fresh : Json) (f : Json → Json) (htime : ¬ Json.SameKey key "systemTime")
    (hextend : ¬ Json.SameKey key "extend") :
    ∃ j, info.parse = some j ∧
      getSessionBasicInfo (.doc (j.withItem "data" notNull (.object []) fun dataItem =>
        dataItem.withItem key fit fresh f)) = getSessionBasicInfo info := by
  obtain ⟨members, hparse, hholds, hcompatibility⟩ := h
  obtain ⟨members', hwith, hother⟩ := Json.exists_withItem members "data" notNull (.object [])
    fun dataItem => dataItem.withItem key fit fresh f
  have hsame := hother "compatibility" (by decide)
  refine ⟨_, hparse, ?_⟩
  rw [hwith]
  rcases hholds with ⟨hnone, -, -⟩ | ⟨data, hdata, -⟩
  · have hthrow : ∀ ms : List (String × Json), Json.member ms "compatibility" = none →
        getSessionBasicInfo (.doc (.object ms)) = throw () := by
      intro ms hms
      unfold getSessionBasicInfo Json.getObjectItem
      dsimp only
      rw [hms]
    rw [hthrow members' (hsame.trans (hcompatibility hnone))]
    cases info with
    | malformed => cases hparse
    | empty => rfl
    | doc j =>
        obtain rfl := Option.some.inj hparse
        exact (hthrow members (hcompatibility hnone)).symm
  · obtain ⟨data', hdata', hother'⟩ := Json.exists_withItem data key fit fresh f
    have hmember : Json.member members' "data" = some (.object data') := by
      have hupdate := hwith
      rw [Json.withItem_of_fit hdata rfl] at hupdate
      rw [← Json.object.inj hupdate, Json.member_updateFirst_self, hdata, Option.map_some,
        hdata']
    cases info with
    | malformed => cases hparse
    | empty =>
        obtain rfl := Json.object.inj (Option.some.inj hparse)
        cases hdata
    | doc j =>
        obtain rfl := Option.some.inj hparse
        refine getSessionBasicInfo_congr hsame hdata hmember fun k hk => hother' k ?_
        rcases hk with rfl | rfl
        · exact htime
        · exact hextend

end getters

/-! ## Round trips -/

section roundTrips

/-- A descriptor that was set is read back. -/
def DescriptorReadBack (info : SessionInfo) (d : AVSessionDescriptor) : Prop :=
  (setSessionDescriptor info d).2 = .success ∧
    ∀ out, ∃ e, getSessionDescriptor (setSessionDescriptor info d).1 out = some e ∧ SameFields e d

/-- The descriptors that were set are read back, in order and no others. -/
def DescriptorsReadBack (info : SessionInfo) (ds : List AVSessionDescriptor) : Prop :=
  (setSessionDescriptors info ds).2 = .success ∧
    ∃ es, getSessionDescriptors (setSessionDescriptors info ds).1 [] = (es, .success) ∧
      List.Forall₂ SameFields es ds

/-- If one descriptor is stored as another, it has the fields that it is stored with. -/
theorem StoredAs.sameFields_iff {a d e : AVSessionDescriptor} (h : StoredAs a e) :
    SameFields e d ↔ StoredAs a d := by
  obtain ⟨hid, htype, htag, hbundle, hability, hparty⟩ := h
  constructor
  · rintro ⟨hid', htype', htag', hbundle', hability', hparty'⟩
    exact ⟨hid.trans hid', htype.trans htype', htag.trans htag', hbundle.trans hbundle',
      hability.trans hability', hparty.trans hparty'⟩
  · rintro ⟨hid', htype', htag', hbundle', hability', hparty'⟩
    exact ⟨hid.symm.trans hid', htype.symm.trans htype', htag.symm.trans htag',
      hbundle.symm.trans hbundle', hability.symm.trans hability', hparty.symm.trans hparty'⟩

variable {info : SessionInfo} {first : Option AVSessionDescriptor}
  {stored : List AVSessionDescriptor}

/-- Setting a descriptor in a represented document succeeds. -/
theorem Represents.setSessionDescriptor_snd (h : Represents info first stored)
    (d : AVSessionDescriptor) : (setSessionDescriptor info d).2 = .success := by
  obtain ⟨members, hparse, -⟩ := h
  unfold setSessionDescriptor
  rw [hparse]

/-- A descriptor is read back if it is stored as it is and it is the first, or the first is stored
as it. -/
theorem Represents.descriptorReadBack_iff (h : Represents info first stored)
    (d : AVSessionDescriptor) : DescriptorReadBack info d ↔ StoredAs (first.getD d) d := by
  have hset := h.setDescriptor d
  have hfirst : first.or (some d) = some (first.getD d) := by
    cases first <;> rfl
  rw [hfirst] at hset
  constructor
  · rintro ⟨-, hread⟩
    obtain ⟨e, he, hsame⟩ := hread .init
    obtain ⟨e', he', hstored⟩ := hset.getDescriptor .init
    obtain rfl := Option.some.inj (he.symm.trans he')
    exact hstored.sameFields_iff.mp hsame
  · intro hstored
    refine ⟨h.setSessionDescriptor_snd d, fun out => ?_⟩
    obtain ⟨e, he, hstored'⟩ := hset.getDescriptor out
    exact ⟨e, he, hstored'.sameFields_iff.mpr hstored⟩

/-- Descriptors are stored as a list of others exactly if each is stored as the one in its place. -/
theorem forall₂_storedAs {ds es fs : List AVSessionDescriptor} (h : List.Forall₂ StoredAs ds es) :
    List.Forall₂ SameFields es fs ↔ List.Forall₂ StoredAs ds fs := by
  induction h generalizing fs with
  | nil =>
      cases fs with
      | nil => exact iff_of_true .nil .nil
      | cons f fs => exact ⟨nofun, nofun⟩
  | cons hstored hall ih =>
      cases fs with
      | nil => exact ⟨nofun, nofun⟩
      | cons f fs =>
          rw [List.forall₂_cons, List.forall₂_cons, hstored.sameFields_iff, ih]

/-- The descriptors are read back if nothing else is in the list, and each is stored as it is. -/
theorem Represents.descriptorsReadBack_iff (h : Represents info first stored)
    (ds : List AVSessionDescriptor) :
    DescriptorsReadBack info ds ↔ stored = [] ∧ ∀ d ∈ ds, StoredAs d d := by
  obtain ⟨members, data, hset, hdata, hmember, -⟩ := h.exists_setDescriptors ds
  obtain ⟨es, hes, hall⟩ := readDescriptors_map (ds ++ stored) []
  have hget : getSessionDescriptors (setSessionDescriptors info ds).1 [] = (es, .success) := by
    rw [hset]
    unfold getSessionDescriptors Json.getObjectItem
    dsimp only
    rw [hdata]
    show (match (Json.member data "sessionDescriptors").bind Json.asArray with
      | none => ([], RetCode.error)
      | some items => readDescriptors items []) = _
    rw [hmember]
    exact hes
  have hback : DescriptorsReadBack info ds ↔ List.Forall₂ StoredAs (ds ++ stored) ds := by
    rw [← forall₂_storedAs hall]
    constructor
    · rintro ⟨-, es', hes', hsame⟩
      obtain rfl := (Prod.mk.inj (hget.symm.trans hes')).1
      exact hsame
    · intro hsame
      exact ⟨congrArg Prod.snd hset, es, hget, hsame⟩
  rw [hback]
  constructor
  · intro hstored
    have hlen := hstored.length_eq
    rw [List.length_append, Nat.add_eq_left] at hlen
    obtain rfl := List.length_eq_zero_iff.mp hlen
    rw [List.append_nil, List.forall₂_same] at hstored
    exact ⟨rfl, hstored⟩
  · rintro ⟨rfl, hall'⟩
    rw [List.append_nil, List.forall₂_same]
    exact hall'

/-- **Round trips of session infos.** In a session info that any sequence of setters has made: a
descriptor that is set is read back exactly if it, or the first that was set before, is stored as
it; what is read of the basic information stays; and a list of descriptors is read back exactly if
the lists set before were empty and each descriptor is stored as it is. -/
theorem descriptor_roundTrip_iff (setters : List Setter) (d : AVSessionDescriptor)
    (ds : List AVSessionDescriptor) :
    (DescriptorReadBack (produced setters) d ↔
      StoredAs ((firstDescriptor setters).getD d) d) ∧
    getSessionBasicInfo (setSessionDescriptor (produced setters) d).1 =
      getSessionBasicInfo (produced setters) ∧
    (DescriptorsReadBack (produced setters) ds ↔
      storedDescriptors setters = [] ∧ ∀ d ∈ ds, StoredAs d d) := by
  have h := represents_produced setters
  refine ⟨h.descriptorReadBack_iff d, ?_, h.descriptorsReadBack_iff ds⟩
  obtain ⟨j, hparse, hbasic⟩ := h.getBasicInfo "sessionDescriptor" notNull (.object [])
    (fun item => setSessionDescriptorByCJSON item d) (by decide) (by decide)
  unfold setSessionDescriptor
  rw [hparse]
  exact hbasic

/-- A descriptor of a type. -/
def descriptorOfType (sessionType : ℤ) : AVSessionDescriptor :=
  { AVSessionDescriptor.init with
    sessionId := "1"
    sessionType
    sessionTag := "player"
    elementName := ⟨"", "com.example.music", "MainAbility", ""⟩ }

/-- A voice call comes back without its type, and a descriptor set over another is not read back. -/
theorem voiceCall_and_second_lost :
    ¬ DescriptorReadBack (produced []) (descriptorOfType 2) ∧
      ¬ DescriptorReadBack (produced [.descriptor (descriptorOfType 0)])
        { descriptorOfType 0 with sessionId := "2" } ∧
      ¬ DescriptorsReadBack (produced [.descriptors [descriptorOfType 0]])
        [descriptorOfType 0] := by
  refine ⟨fun h => ?_, fun h => ?_, fun h => ?_⟩
  · obtain ⟨e, he, hsame⟩ := h.2 .init
    obtain rfl := Option.some.inj he
    exact absurd hsame.sessionType (by decide)
  · obtain ⟨e, he, hsame⟩ := h.2 .init
    obtain rfl := Option.some.inj he
    exact absurd hsame.sessionId (by decide)
  · obtain ⟨es, hes, hsame⟩ := h.2
    obtain rfl := (Prod.mk.inj hes).1
    have hlen : 2 = 1 := hsame.length_eq
    exact absurd hlen (by decide)

end roundTrips

end AvSession.Descriptor
