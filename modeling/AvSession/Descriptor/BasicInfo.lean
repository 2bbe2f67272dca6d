import AvSession.Descriptor.SessionInfo
import Mathlib.Data.List.TakeWhile

/-!
# The round trip of the basic information

A setter adds the members of a basic information behind those that are there, and a getter reads the
first. So the first that was set is what every later getter finds.

* `compatibilityMembers`, `BasicInfoHolds` — what a document holds of the first that was set.
* `BasicInfoHolds.setBasicInfo`, `BasicInfoHolds.setData`, `holds_produced` — the setters keep it.
* `readOver`, `BasicInfoHolds.get` — what the getter leaves in its output.
* `ReadsAs`, `basicInfo_roundTrip_iff` — when the output is what was set.
-/

namespace AvSession.Descriptor

open AvSession.Lib

/-! ## What a document holds -/

section holds

/-- The members of a set of capabilities. -/
def capabilityMembers (b : AVSessionBasicInfo) : List (String × Json) :=
  [("metaData", numbers b.metaDataCap), ("playbackState", numbers b.playBackStateCap),
    ("controlCommand", numbers b.controlCommandCap)]

/-- The members of a `compatibility` object, with other capabilities behind those that were set. -/
def compatibilityMembers (b : AVSessionBasicInfo) (capabilities : List (String × Json)) :
    List (String × Json) :=
  [("networkId", .string (cStr b.networkId)), ("vendorId", .string (cStr b.vendorId)),
    ("deviceType", .string (cStr b.deviceType)), ("systemVersion", .string (cStr b.systemVersion)),
    ("avsessionVersion", .number b.sessionVersion.toInt), ("reserve", numbers b.reserve),
    ("features", numbers b.feature),
    ("capabilitySet", .object (capabilityMembers b ++ capabilities)),
    ("extendCapability", numbers b.extendCapability)]

/-- The `compatibility` object is that of the first basic information, with members behind it. -/
def CompatibilityHolds (members : List (String × Json)) : Option AVSessionBasicInfo → Prop
  | none => Json.member members "compatibility" = none
  | some a => ∃ capabilities more, Json.member members "compatibility" =
      some (.object (compatibilityMembers a capabilities ++ more))

/-- The members of a `data` object that are about the first basic information. -/
structure TimeHolds (data : List (String × Json)) (first : Option AVSessionBasicInfo) : Prop where
  systemTime : Json.member data "systemTime" = first.map fun a => .number a.systemTime.toInt
  extend : Json.member data "extend" = first.map fun a => numbers a.extend

/-- What a document holds of the first basic information. -/
structure BasicInfoHolds (members : List (String × Json))
    (first : Option AVSessionBasicInfo) : Prop where
  compatibility : CompatibilityHolds members first
  data : ∃ data, (Json.member members "data").getD (.object []) = .object data ∧ TimeHolds data first

/-- The same of a session info. -/
def InfoHolds (info : SessionInfo) (first : Option AVSessionBasicInfo) : Prop :=
  ∃ members, info.parse = some (.object members) ∧ BasicInfoHolds members first

/-- The basic information that is held after a call: the first one stays. -/
def Setter.basic (first : Option AVSessionBasicInfo) : Setter → Option AVSessionBasicInfo
  | .basicInfo b => first.or (some b)
  | .descriptor _ | .descriptors _ => first

/-- The first basic information that was set. -/
def firstBasicInfo (setters : List Setter) : Option AVSessionBasicInfo :=
  setters.foldl Setter.basic none

end holds

/-! ## Setters -/

section setters

variable {info : SessionInfo} {first : Option AVSessionBasicInfo}
  {data members : List (String × Json)}

/-- The first one is in front of what is added to a `compatibility` object. -/
theorem exists_setCompatibility (h : CompatibilityHolds members first) (b : AVSessionBasicInfo) :
    ∃ members', setSessionCompatibility (.object members) b = .object members' ∧
      CompatibilityHolds members' (first.or (some b)) ∧
      Json.member members' "data" = Json.member members "data" := by
  unfold setSessionCompatibility
  cases first with
  | none =>
      refine ⟨_, Json.withItem_of_none h, ⟨[], [], ?_⟩, ?_⟩
      · rw [Json.member_append_self h]
        rfl
      · exact Json.member_append_of_ne (by decide)
  | some a =>
      obtain ⟨capabilities, more, hmore⟩ := h
      refine ⟨_, Json.withItem_of_fit hmore rfl, ⟨capabilities ++ capabilityMembers b, ?_⟩, ?_⟩
      · have hset : ∀ ms, setSessionCapabilitySet
            (.object (compatibilityMembers a capabilities ++ ms)) b =
              .object (compatibilityMembers a (capabilities ++ capabilityMembers b) ++ ms) := by
          intro ms
          unfold setSessionCapabilitySet
          rw [Json.withItem_of_fit (v := .object (capabilityMembers a ++ capabilities)) rfl rfl]
          simp +decide [compatibilityMembers, capabilityMembers, Json.updateFirst,
            Json.addItemToObject]
        rw [Json.member_updateFirst_self, hmore, Option.map_some]
        simp only [Json.addItemToObject, List.append_assoc, hset]
        exact ⟨_, rfl⟩
      · exact Json.member_updateFirst_of_ne (by decide)

/-- A set time is found, or the one set before it. -/
theorem TimeHolds.setBasicInfo (h : TimeHolds data first) (b : AVSessionBasicInfo) :
    TimeHolds
      (data ++ [("systemTime", .number b.systemTime.toInt)] ++ [("extend", numbers b.extend)])
      (first.or (some b)) := by
  constructor
  · rw [Json.member_append_of_ne (by decide), Json.member_append_singleton,
      if_pos (Json.SameKey.refl _), h.systemTime]
    cases first <;> rfl
  · rw [Json.member_append_singleton, if_pos (Json.SameKey.refl _),
      Json.member_append_of_ne (by decide), h.extend]
    cases first <;> rfl

/-- A document that holds a basic information has a `data` object. -/
theorem BasicInfoHolds.exists_data {a : AVSessionBasicInfo} (h : BasicInfoHolds members (some a)) :
    ∃ data, Json.member members "data" = some (.object data) ∧ TimeHolds data (some a) := by
  obtain ⟨data, hdata, htime⟩ := h.data
  refine ⟨data, ?_, htime⟩
  cases hmember : Json.member members "data" with
  | none =>
      rw [hmember] at hdata
      obtain rfl : [] = data := Json.object.inj hdata
      exact nomatch htime.systemTime
  | some v =>
      rw [hmember] at hdata
      exact congrArg some hdata

/-- The first basic information stays, and is the new one if there is none. -/
theorem BasicInfoHolds.setBasicInfo (h : BasicInfoHolds members first) (b : AVSessionBasicInfo) :
    ∃ members', setSessionData (setSessionCompatibility (.object members) b) b = .object members' ∧
      BasicInfoHolds members' (first.or (some b)) := by
  obtain ⟨members₁, hset, hcompatibility, hsame⟩ := exists_setCompatibility h.compatibility b
  obtain ⟨data, hdata, htime⟩ := h.data
  rw [← hsame] at hdata
  rw [hset]
  obtain ⟨members₂, hwith, hmember, hother⟩ := Json.exists_withItem_object notNull
    (fun dataItem => (dataItem.addItemToObject "systemTime" (.number b.systemTime.toInt)
      ).addItemToObject "extend" (numbers b.extend)) (fun _ => rfl) hdata
  refine ⟨members₂, hwith, ?_, ⟨_, ?_, htime.setBasicInfo b⟩⟩
  · unfold CompatibilityHolds at hcompatibility ⊢
    rw [hother "compatibility" (by decide)]
    exact hcompatibility
  · rw [hmember]
    rfl

/-- What is set about sessions leaves the basic information. -/
theorem BasicInfoHolds.setData (h : BasicInfoHolds members first) (key : String)
    (fit : Json → Bool) (fresh : Json) (f : Json → Json)
    (htime : ¬ Json.SameKey key "systemTime") (hextend : ¬ Json.SameKey key "extend") :
    ∃ members', (Json.object members).withItem "data" notNull (.object [])
        (fun dataItem => dataItem.withItem key fit fresh f) = .object members' ∧
      BasicInfoHolds members' first := by
  obtain ⟨data, hdata, htimes⟩ := h.data
  obtain ⟨members', hwith, hmember, hother⟩ := Json.exists_withItem_object notNull
    (fun dataItem => dataItem.withItem key fit fresh f) (fun _ => rfl) hdata
  obtain ⟨data', hdata', hsame⟩ := Json.exists_withItem data key fit fresh f
  refine ⟨members', hwith, ?_, ⟨data', ?_, ⟨?_, ?_⟩⟩⟩
  · unfold CompatibilityHolds
    rw [hother "compatibility" (by decide)]
    exact h.compatibility
  · rw [hmember, hdata']
    rfl
  · rw [hsame _ htime]
    exact htimes.systemTime
  · rw [hsame _ hextend]
    exact htimes.extend

/-- Every setter keeps what the document holds first. -/
theorem InfoHolds.apply (h : InfoHolds info first) (x : Setter) :
    InfoHolds (x.apply info) (x.basic first) := by
  obtain ⟨members, hparse, hholds⟩ := h
  cases x with
  | basicInfo b =>
      obtain ⟨members', hset, hholds'⟩ := hholds.setBasicInfo b
      refine ⟨members', ?_, hholds'⟩
      simp only [Setter.apply, setSessionBasicInfo, hparse, hset]
      rfl
  | descriptor d =>
      obtain ⟨members', hset, hholds'⟩ := hholds.setData "sessionDescriptor" notNull (.object [])
        (fun item => setSessionDescriptorByCJSON item d) (by decide) (by decide)
      refine ⟨members', ?_, hholds'⟩
      simp only [Setter.apply, setSessionDescriptor, hparse, hset]
      rfl
  | descriptors ds =>
      obtain ⟨members', hset, hholds'⟩ := hholds.setData "sessionDescriptors" Json.isArray
        (.array []) (fun item => insertDescriptors 0 ds item) (by decide) (by decide)
      refine ⟨members', ?_, hholds'⟩
      simp only [Setter.apply, setSessionDescriptors, hparse, hset]
      rfl

/-- What the setters have made holds the first basic information that was set. -/
theorem infoHolds_produced (setters : List Setter) :
    InfoHolds (produced setters) (firstBasicInfo setters) := by
  have hrun : ∀ (setters : List Setter) info first, InfoHolds info first →
      InfoHolds (setters.foldl Setter.apply info) (setters.foldl Setter.basic first) := by
    intro setters
    induction setters with
    | nil => exact fun _ _ h => h
    | cons x setters ih => exact fun info first h => ih _ _ (h.apply x)
  exact hrun setters .empty none ⟨[], rfl, ⟨rfl, [], rfl, ⟨rfl, rfl⟩⟩⟩

end setters

/-! ## The getter -/

section getter

/-- What the getter leaves in an output: the name of the device stays, and lists are appended. -/
def readOver (a o : AVSessionBasicInfo) : AVSessionBasicInfo where
  deviceName := o.deviceName
  networkId := cStr a.networkId
  vendorId := cStr a.vendorId
  deviceType := cStr a.deviceType
  systemVersion := cStr a.systemVersion
  sessionVersion := a.sessionVersion
  reserve := o.reserve ++ a.reserve
  feature := o.feature ++ a.feature
  metaDataCap := o.metaDataCap ++ a.metaDataCap
  playBackStateCap := o.playBackStateCap ++ a.playBackStateCap
  controlCommandCap := o.controlCommandCap ++ a.controlCommandCap
  extendCapability := o.extendCapability ++ a.extendCapability
  systemTime := a.systemTime
  extend := o.extend ++ a.extend

variable {members : List (String × Json)} {a : AVSessionBasicInfo}

/-- An integer of 32 bits is read as it was written. -/
theorem ofInt_saturate_toInt (v : Int32) : Int32.ofInt (Json.saturate v.toInt) = v := by
  rw [Json.saturate_eq_self_iff.mpr ⟨v.le_toInt, v.toInt_lt⟩, Int32.ofInt_toInt]

/-- So are the integers of a list. -/
theorem jsonToVector_numbers (vs : List Int32) :
    jsonToVector (numberItems vs) = vs := by
  have hread : (asInt32 ∘ fun v : Int32 => Json.number v.toInt) = some :=
    funext fun v => congrArg some (ofInt_saturate_toInt v)
  unfold jsonToVector numberItems
  rw [List.filterMap_map, hread, List.filterMap_some]

/-- The getter reads the first members, and does not look at what is behind them. -/
theorem getSessionCompatibility_run (a o : AVSessionBasicInfo)
    (capabilities more : List (String × Json)) :
    (getSessionCompatibility (.object (compatibilityMembers a capabilities ++ more))).run o =
      .ok () { readOver a o with systemTime := o.systemTime, extend := o.extend } := by
  calc (getSessionCompatibility (.object (compatibilityMembers a capabilities ++ more))).run o
      = .ok () { readOver a o with
          sessionVersion := Int32.ofInt (Json.saturate a.sessionVersion.toInt)
          reserve := o.reserve ++ jsonToVector (numberItems a.reserve)
          feature := o.feature ++ jsonToVector (numberItems a.feature)
          metaDataCap := o.metaDataCap ++ jsonToVector (numberItems a.metaDataCap)
          playBackStateCap := o.playBackStateCap ++ jsonToVector (numberItems a.playBackStateCap)
          controlCommandCap := o.controlCommandCap ++ jsonToVector (numberItems a.controlCommandCap)
          extendCapability := o.extendCapability ++ jsonToVector (numberItems a.extendCapability)
          systemTime := o.systemTime
          extend := o.extend } := rfl
    _ = _ := by simp only [jsonToVector_numbers, ofInt_saturate_toInt, readOver]

/-- The time and its list are read. -/
theorem getSessionData_run {data : List (String × Json)} (h : TimeHolds data (some a))
    (o : AVSessionBasicInfo) :
    (getSessionData (.object data)).run o =
      .ok () { o with systemTime := a.systemTime, extend := o.extend ++ a.extend } := by
  have htime : (Json.object data).getObjectItem "systemTime" =
      some (.number a.systemTime.toInt) := h.systemTime
  have hextend : (Json.object data).getObjectItem "extend" = some (numbers a.extend) := h.extend
  unfold getSessionData readItem
  rw [htime, hextend]
  show EStateM.Result.ok () { o with
    systemTime := Int32.ofInt (Json.saturate a.systemTime.toInt)
    extend := o.extend ++ jsonToVector (numberItems a.extend) } = _
  rw [jsonToVector_numbers, ofInt_saturate_toInt]

/-- The getter reads the first basic information. -/
theorem BasicInfoHolds.get (h : BasicInfoHolds members (some a)) (o : AVSessionBasicInfo) :
    (getSessionBasicInfo (.doc (.object members))).run o = .ok () (readOver a o) := by
  obtain ⟨capabilities, more, hcompatibility⟩ := h.compatibility
  obtain ⟨data, hdata, htime⟩ := h.exists_data
  have hget : getSessionBasicInfo (.doc (.object members)) = (do
      getSessionCompatibility (.object (compatibilityMembers a capabilities ++ more))
      getSessionData (.object data)) := by
    unfold getSessionBasicInfo Json.getObjectItem
    dsimp only
    rw [hcompatibility, hdata]
  rw [hget, EStateM.run_bind, getSessionCompatibility_run]
  exact getSessionData_run htime _

end getter

/-! ## The round trip -/

section roundTrip

/-- The texts of a basic information. -/
def AVSessionBasicInfo.texts (b : AVSessionBasicInfo) : List String :=
  [b.networkId, b.vendorId, b.deviceType, b.systemVersion]

/-- The lists of a basic information. -/
def AVSessionBasicInfo.lists (b : AVSessionBasicInfo) : List (List Int32) :=
  [b.reserve, b.feature, b.metaDataCap, b.playBackStateCap, b.controlCommandCap,
    b.extendCapability, b.extend]

/-- The basic information of a document and what an output had before give another one. -/
structure ReadsAs (a o b : AVSessionBasicInfo) : Prop where
  deviceName : o.deviceName = b.deviceName
  texts : a.texts.map cStr = b.texts
  sessionVersion : a.sessionVersion = b.sessionVersion
  systemTime : a.systemTime = b.systemTime
  lists : List.zipWith (· ++ ·) o.lists a.lists = b.lists

/-- After a basic information is set, the getter makes an output equal to it. -/
def BasicInfoReadBack (info : SessionInfo) (b o : AVSessionBasicInfo) : Prop :=
  (setSessionBasicInfo info b).2 = .success →
    (getSessionBasicInfo (setSessionBasicInfo info b).1).run o = .ok () b

variable {a o b : AVSessionBasicInfo}

/-- Reading over an object gives the stored one exactly when each field does. -/
theorem readOver_eq_iff : readOver a o = b ↔ ReadsAs a o b := by
  constructor
  · rintro rfl
    exact ⟨rfl, rfl, rfl, rfl, rfl⟩
  · rintro ⟨hname, htexts, hversion, htime, hlists⟩
    simp only [AVSessionBasicInfo.texts, AVSessionBasicInfo.lists, List.map_cons, List.map_nil,
      List.zipWith_cons_cons, List.zipWith_nil_left, List.cons.injEq, and_true] at htexts hlists
    cases b
    simp_all [readOver]

/-- A text without a NUL is kept whole. -/
theorem cStr_eq_self_iff {s : String} : cStr s = s ↔ Char.ofNat 0 ∉ s.toList := by
  unfold cStr
  rw [← String.toList_inj, String.toList_ofList, List.takeWhile_eq_self_iff]
  simp only [decide_eq_true_eq]
  exact List.forall_mem_ne'

/-- Texts without a NUL come back. -/
theorem texts_map_eq_iff :
    b.texts.map cStr = b.texts ↔ ∀ s ∈ b.texts, Char.ofNat 0 ∉ s.toList := by
  simp [AVSessionBasicInfo.texts, cStr_eq_self_iff]

/-- Lists come back into lists without items. -/
theorem lists_zipWith_eq_iff :
    List.zipWith (· ++ ·) o.lists b.lists = b.lists ↔ ∀ vs ∈ o.lists, vs = [] := by
  simp [AVSessionBasicInfo.lists]

/-- What a document without a basic information gives back: texts without a NUL, into an output with
the name of the device and without items. -/
theorem readsAs_self_iff : ReadsAs b o b ↔
    o.deviceName = b.deviceName ∧ (∀ s ∈ b.texts, Char.ofNat 0 ∉ s.toList) ∧
      ∀ vs ∈ o.lists, vs = [] := by
  constructor
  · rintro ⟨hname, htexts, -, -, hlists⟩
    exact ⟨hname, texts_map_eq_iff.mp htexts, lists_zipWith_eq_iff.mp hlists⟩
  · rintro ⟨hname, htexts, hempty⟩
    exact ⟨hname, texts_map_eq_iff.mpr htexts, rfl, rfl, lists_zipWith_eq_iff.mpr hempty⟩

/-- **The round trip of the basic information.** In a session info that any sequence of setters has
made, a basic information can be set, and the getter makes an output equal to it exactly if the
first that was set, or this one if there was none, gives it together with what the output had. -/
theorem basicInfo_roundTrip_iff (setters : List Setter) (b o : AVSessionBasicInfo) :
    (setSessionBasicInfo (produced setters) b).2 = .success ∧
      (BasicInfoReadBack (produced setters) b o ↔
        ReadsAs ((firstBasicInfo setters).getD b) o b) := by
  obtain ⟨members, hparse, hholds⟩ := infoHolds_produced setters
  obtain ⟨members', hset, hholds'⟩ := hholds.setBasicInfo b
  have hinfo : setSessionBasicInfo (produced setters) b = (.doc (.object members'), .success) := by
    unfold setSessionBasicInfo
    rw [hparse]
    dsimp only
    rw [hset]
    rfl
  have hfirst : (firstBasicInfo setters).or (some b) =
      some ((firstBasicInfo setters).getD b) := by
    cases firstBasicInfo setters <;> rfl
  rw [hfirst] at hholds'
  refine ⟨congrArg Prod.snd hinfo, ?_⟩
  unfold BasicInfoReadBack
  rw [hinfo, ← readOver_eq_iff, hholds'.get o]
  constructor
  · intro h
    injection h rfl
  · intro h _
    rw [h]

/-- The basic information of a device. -/
def basicInfoOf (networkId : String) : AVSessionBasicInfo :=
  ⟨"", networkId, "", "", "", 0, [1], [], [], [], [], [], 0, []⟩

/-- A second basic information is not read, and an output that is used again keeps its items. -/
theorem secondBasicInfo_lost :
    ¬ BasicInfoReadBack (produced [.basicInfo (basicInfoOf "1")]) (basicInfoOf "2")
        { basicInfoOf "" with reserve := [] } ∧
      ¬ BasicInfoReadBack (produced []) (basicInfoOf "1") (basicInfoOf "") := by
  have hread : ∀ {α : Type} (π : AVSessionBasicInfo → α)
      (r : EStateM.Result Unit AVSessionBasicInfo Unit) (b b' : AVSessionBasicInfo),
      r = .ok () b → r = .ok () b' → π b = π b' := by
    intro α π r b b' hb hb'
    injection hb.symm.trans hb' with _ h
    rw [h]
  refine ⟨fun h => ?_, fun h => ?_⟩
  · exact absurd (hread AVSessionBasicInfo.networkId _ _ _ rfl (h rfl)) (by decide)
  · exact absurd (hread AVSessionBasicInfo.reserve _ _ _ rfl (h rfl)) (by decide)

end roundTrip

end AvSession.Descriptor
