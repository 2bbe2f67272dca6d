import AvSession.Lib.Json
import AvSession.Lib.Loop
import Std.Data.ExtTreeMap

/-!
# The whitelist of key events

The settings hold an object whose members say which bundles support key events. It is parsed into a
map at the first question that names a bundle, and every question is answered from that map.

* `memberPass`, `parseJsonToMap` — the loop over the members and the parser around it.
* `getSupportKeyEventFromSettings`, `answers` — one question, and a row of them.
* `Listed` — the map that the members describe.
* `Served` — the parser ends with that map, and the questions are answered from it.
* `served_iff` — the objects of which this holds.
-/

namespace AvSession.Service.KeyWhitelist

open Std AvSession.Lib

/-! ## The manager -/

section Manager

abbrev CompatibleMap := ExtTreeMap String Bool compare

/-- Source: avsession_whitelist_config_manager.h, `AVSessionWhitelistConfigManager` -/
structure WhitelistConfigManager where
  /-- Whether the load has been called. -/
  settingsDataLoadFlag : Bool
  isSettingsDataLoaded : Bool
  compatibleInfoMap : CompatibleMap

def WhitelistConfigManager.init : WhitelistConfigManager := ⟨false, false, ∅⟩

/-- A pass of the loop over the members: the item that the cursor is at comes first.
Source: avsession_whitelist_config_manager.cpp,
`AVSessionWhitelistConfigManager::ParseJsonToMap` -/
def memberPass :
    List (String × Json) × CompatibleMap → Option (List (String × Json) × CompatibleMap)
  | ([], _) => none
  | (item :: next, compatibleMap) =>
    match item.2.asBool with
    | some value => some (next, compatibleMap.insert item.1 value)
    | none => some (item :: next, compatibleMap)

/-- `cJSON_Parse` is a parameter; `none` if the loop takes more passes than `fuel`.
Source: avsession_whitelist_config_manager.cpp,
`AVSessionWhitelistConfigManager::ParseJsonToMap` -/
def parseJsonToMap (cJSON_Parse : String → Option Json) (fuel : ℕ) (jsonStr : String)
    (compatibleMap : CompatibleMap) : Option (Bool × CompatibleMap) :=
  if jsonStr = "" then some (false, compatibleMap)
  else
    match cJSON_Parse jsonStr with
    | some (.object members) =>
      (loop memberPass fuel (members, compatibleMap)).map fun s => (true, s.2)
    | _ => some (false, compatibleMap)

/-- The load that `call_once` makes, of the text that the settings hold.
Source: avsession_whitelist_config_manager.cpp,
`AVSessionWhitelistConfigManager::GetSupportKeyEventFromSettings` -/
def loadSettings (cJSON_Parse : String → Option Json) (fuel : ℕ) (settings : String)
    (m : WhitelistConfigManager) : Option WhitelistConfigManager :=
  if m.settingsDataLoadFlag then some m
  else
    (parseJsonToMap cJSON_Parse fuel settings m.compatibleInfoMap).map fun r =>
      { settingsDataLoadFlag := true
        isSettingsDataLoaded := m.isSettingsDataLoaded || r.1
        compatibleInfoMap := r.2 }

/-- Source: avsession_whitelist_config_manager.cpp,
`AVSessionWhitelistConfigManager::GetSupportKeyEventFromSettings` -/
def getSupportKeyEventFromSettings (cJSON_Parse : String → Option Json) (fuel : ℕ)
    (settings bundleName : String) (m : WhitelistConfigManager) :
    Option (Bool × WhitelistConfigManager) :=
  if bundleName = "" then some (false, m)
  else
    (loadSettings cJSON_Parse fuel settings m).map fun m =>
      (m.isSettingsDataLoaded && (m.compatibleInfoMap[bundleName]?).getD false, m)

/-- The answers to a row of questions. -/
def answers (cJSON_Parse : String → Option Json) (fuel : ℕ) (settings : String) :
    WhitelistConfigManager → List String → Option (List Bool)
  | _, [] => some []
  | m, bundleName :: bundleNames =>
    (getSupportKeyEventFromSettings cJSON_Parse fuel settings bundleName m).bind fun r =>
      (answers cJSON_Parse fuel settings r.2 bundleNames).map (r.1 :: ·)

end Manager

/-! ## What the members describe -/

section Members

/-- The value of the last boolean member with a key. -/
def lastBool (members : List (String × Json)) (key : String) : Option Bool :=
  ((members.filter fun item => item.1 = key).filterMap fun item => item.2.asBool).getLast?

/-- The map after the members: the last boolean one with a key counts, and the entries of other keys
are kept. -/
def Listed (members : List (String × Json)) (before after : CompatibleMap) : Prop :=
  ∀ key, after[key]? = (lastBool members key).or before[key]?

/-- Every member is a boolean. -/
def AllBool (members : List (String × Json)) : Prop := ∀ item ∈ members, item.2.asBool ≠ none

/-- The parser ends and gives the map that the members describe, and questions to a new manager are
answered from the map that they describe. -/
def Served (cJSON_Parse : String → Option Json) (jsonStr : String)
    (members : List (String × Json)) (before : CompatibleMap) : Prop :=
  (∃ fuel after, parseJsonToMap cJSON_Parse fuel jsonStr before = some (true, after) ∧
    Listed members before after) ∧
  ∀ bundleNames, ∃ fuel, answers cJSON_Parse fuel jsonStr .init bundleNames =
    some (bundleNames.map fun bundleName =>
      bundleName ≠ "" && (lastBool members bundleName).getD false)

end Members

/-! ## The loop -/

section Loop

variable {members : List (String × Json)} {before after : CompatibleMap}

/-- The first member of a repeated key is overridden by the later ones. -/
theorem lastBool_cons (item : String × Json) (members : List (String × Json)) (key : String) :
    lastBool (item :: members) key =
      (lastBool members key).or (if item.1 = key then item.2.asBool else none) := by
  rw [lastBool, lastBool]
  by_cases hkey : item.1 = key
  · rw [List.filter_cons_of_pos (by simpa using hkey), if_pos hkey]
    rcases hbool : item.2.asBool with _ | value
    · simp only [List.filterMap_cons, hbool, Option.or_none]
    · simp only [List.filterMap_cons, hbool, List.getLast?_cons]
      rcases List.getLast? _ with _ | last
      · rfl
      · rfl
  · rw [List.filter_cons_of_neg (by simpa using hkey), if_neg hkey, Option.or_none]

/-- A boolean member is put into the map, and those after it decide. -/
theorem Listed.cons {item : String × Json} {value : Bool} (hvalue : item.2.asBool = some value)
    (h : Listed members (before.insert item.1 value) after) :
    Listed (item :: members) before after := by
  intro key
  rw [h key, lastBool_cons, hvalue, ExtTreeMap.getElem?_insert]
  by_cases hkey : item.1 = key
  · rw [if_pos hkey, if_pos (by simp [hkey]), Option.or_assoc, Option.some_or]
  · rw [if_neg hkey, if_neg (by simp [hkey]), Option.or_none]

/-- The loop ends if every member is a boolean. -/
theorem exists_ends_of_allBool (before : CompatibleMap) (h : AllBool members) :
    ∃ after, Ends memberPass (members, before) ([], after) ∧ Listed members before after := by
  induction members generalizing before with
  | nil => exact ⟨before, ends_of_none rfl, fun key => rfl⟩
  | cons item members ih =>
    obtain ⟨hitem, hrest⟩ := List.forall_mem_cons.mp h
    obtain ⟨value, hvalue⟩ := Option.ne_none_iff_exists'.mp hitem
    have hpass : memberPass (item :: members, before) =
        some (members, before.insert item.1 value) := by
      simp [memberPass, hvalue]
    obtain ⟨after, hends, hlisted⟩ := ih (before.insert item.1 value) hrest
    exact ⟨after, (ends_iff_of_some hpass).mpr hends, hlisted.cons hvalue⟩

/-- The cursor stays at a member that is not a boolean. -/
theorem not_ends_of_asBool_eq_none {item : String × Json} (hitem : item.2.asBool = none)
    (next : List (String × Json)) {t : List (String × Json) × CompatibleMap} :
    ¬ Ends memberPass (item :: next, before) t := by
  apply not_ends_of_stays (I := fun s => s = (item :: next, before))
  · rintro s rfl
    exact ⟨_, by simp [memberPass, hitem], rfl⟩
  · rfl

/-- The loop ends only if every member is a boolean. -/
theorem allBool_of_ends {t : List (String × Json) × CompatibleMap}
    (h : Ends memberPass (members, before) t) : AllBool members := by
  induction members generalizing before with
  | nil => exact List.forall_mem_nil _
  | cons item members ih =>
    rcases hvalue : item.2.asBool with _ | value
    · exact absurd h (not_ends_of_asBool_eq_none hvalue members)
    · have hpass : memberPass (item :: members, before) =
          some (members, before.insert item.1 value) := by
        simp [memberPass, hvalue]
      rw [ends_iff_of_some hpass] at h
      exact List.forall_mem_cons.mpr ⟨by simp [hvalue], ih h⟩

end Loop

/-! ## The questions -/

section Questions

variable {cJSON_Parse : String → Option Json} {jsonStr : String} {members : List (String × Json)}
  {before after : CompatibleMap} {fuel : ℕ}

/-- A parser that knows one text. -/
def parseOne (known : String) (members : List (String × Json)) (text : String) : Option Json :=
  if text = known then some (.object members) else none

/-- The document is parsed. -/
theorem parseOne_self : parseOne jsonStr members jsonStr = some (.object members) := if_pos rfl

/-- The text is parsed to an object. -/
theorem parseJsonToMap_object (hne : jsonStr ≠ "")
    (hparse : cJSON_Parse jsonStr = some (.object members)) :
    parseJsonToMap cJSON_Parse fuel jsonStr before =
      (loop memberPass fuel (members, before)).map fun s => (true, s.2) := by
  rw [parseJsonToMap, if_neg hne, hparse]

/-- Once the map is loaded, every question is answered from it. -/
theorem answers_loaded (bundleNames : List String) :
    answers cJSON_Parse fuel jsonStr ⟨true, true, after⟩ bundleNames =
      some (bundleNames.map fun bundleName =>
        bundleName ≠ "" && (after[bundleName]?).getD false) := by
  induction bundleNames with
  | nil => rfl
  | cons bundleName bundleNames ih =>
    by_cases hname : bundleName = ""
    · simp [answers, getSupportKeyEventFromSettings, hname, ih]
    · simp [answers, getSupportKeyEventFromSettings, loadSettings, hname, ih]

/-- The first question that names a bundle loads the map. -/
theorem answers_init (hparse : parseJsonToMap cJSON_Parse fuel jsonStr ∅ = some (true, after))
    (bundleNames : List String) :
    answers cJSON_Parse fuel jsonStr .init bundleNames =
      some (bundleNames.map fun bundleName =>
        bundleName ≠ "" && (after[bundleName]?).getD false) := by
  induction bundleNames with
  | nil => rfl
  | cons bundleName bundleNames ih =>
    by_cases hname : bundleName = ""
    · simp [answers, getSupportKeyEventFromSettings, hname, ih]
    · have hload : loadSettings cJSON_Parse fuel jsonStr .init = some ⟨true, true, after⟩ := by
        simp [loadSettings, WhitelistConfigManager.init, hparse]
      simp [answers, getSupportKeyEventFromSettings, hload, hname, answers_loaded]

/-- **The whitelist.** The parser ends, with the map that the members describe, and the questions
are answered from it, exactly if every member is a boolean. -/
theorem served_iff (cJSON_Parse : String → Option Json) (jsonStr : String)
    (members : List (String × Json)) (before : CompatibleMap) (hne : jsonStr ≠ "")
    (hparse : cJSON_Parse jsonStr = some (.object members)) :
    Served cJSON_Parse jsonStr members before ↔ AllBool members := by
  constructor
  · rintro ⟨⟨fuel, after, hparsed, -⟩, -⟩
    rw [parseJsonToMap_object hne hparse] at hparsed
    obtain ⟨t, hend, -⟩ := Option.map_eq_some_iff.mp hparsed
    exact allBool_of_ends ⟨fuel, hend⟩
  · intro hbool
    constructor
    · obtain ⟨after, ⟨fuel, hend⟩, hlisted⟩ := exists_ends_of_allBool before hbool
      exact ⟨fuel, after, by rw [parseJsonToMap_object hne hparse, hend]; rfl, hlisted⟩
    · intro bundleNames
      obtain ⟨after, ⟨fuel, hend⟩, hlisted⟩ := exists_ends_of_allBool ∅ hbool
      refine ⟨fuel, ?_⟩
      have hparsed : parseJsonToMap cJSON_Parse fuel jsonStr ∅ = some (true, after) := by
        rw [parseJsonToMap_object hne hparse, hend]
        rfl
      rw [answers_init hparsed]
      refine congrArg some (List.map_congr_left fun bundleName _ => ?_)
      rw [hlisted bundleName, ExtTreeMap.getElem?_empty, Option.or_none]

/-- Three members, of which two have the same key. -/
def threeBundles : List (String × Json) :=
  [("music", .bool true), ("video", .bool false), ("music", .bool false)]

/-- A list of bundles is served, also one that names a bundle twice. -/
theorem served_threeBundles :
    Served (parseOne "\x7b\"music\":true,\"video\":false,\"music\":false\x7d" threeBundles)
      "\x7b\"music\":true,\"video\":false,\"music\":false\x7d" threeBundles ∅ :=
  (served_iff _ _ _ _ (by decide) parseOne_self).mpr (by simp [AllBool, threeBundles, Json.asBool])

/-- An object with a number among its members. -/
theorem not_served_number :
    ¬ Served (parseOne "\x7b\"a\":1\x7d" [("a", .number 1)]) "\x7b\"a\":1\x7d"
      [("a", .number 1)] ∅ := by
  rintro ⟨⟨fuel, after, hparsed, -⟩, -⟩
  rw [parseJsonToMap_object (by decide) parseOne_self] at hparsed
  obtain ⟨t, hend, -⟩ := Option.map_eq_some_iff.mp hparsed
  have hitem : Json.asBool (.number 1) = none := rfl
  exact not_ends_of_asBool_eq_none hitem [] ⟨fuel, hend⟩

end Questions

end AvSession.Service.KeyWhitelist
