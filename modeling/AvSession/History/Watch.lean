import AvSession.History.Records
import Mathlib.Data.List.Infix

/-!
# The bundles that are watched

The records of a bundle are deleted when it is uninstalled. For that the service subscribes to the
status of every bundle in the history: of all of them when it starts, and of the bundle of a new
record if its name does not occur in the text of the file.

* `HistoryFile` — the text of the file, and what parsing it gives. `print` is `cJSON_Print`; what is
  printed is parsed back.
* `Watched` — every bundle name in a record has been subscribed to.
* `watched_iff` — the runs along which every bundle name is watched.
* Left out: the result of `SubscribeBundleStatusEvent`, which the callers only log.
-/

namespace AvSession.History

open AvSession.Lib

/-! ## The file -/

section file

/-- What `cJSON_Parse` gives: a null pointer, a value that is no array, or an array. -/
inductive ParsedText
  | null
  | noArray
  | array (valuesArray : List HistoryRecord)

/-- The text of the file, and what parsing it gives. -/
structure HistoryFile where
  text : String
  parsed : ParsedText

/-- The records of the file. -/
def HistoryFile.records (file : HistoryFile) : List HistoryRecord :=
  match file.parsed with
  | .array valuesArray => valuesArray
  | _ => []

/-- The file, and the bundle names that `SubscribeBundleStatusEvent` was called for. -/
structure WatchState where
  file : HistoryFile
  subscribed : List String

/-- A bundle name is found in the text: `oldSortContent.find(bundleName)`. -/
def Occurs (bundleName text : String) : Prop := bundleName.toList <:+: text.toList

instance (bundleName text : String) : Decidable (Occurs bundleName text) :=
  inferInstanceAs (Decidable (_ <:+: _))

/-- Source: `AVSessionService::RegisterBundleDeleteEventForHistory` -/
def registerBundleDeleteEventForHistory (s : WatchState) : WatchState :=
  { s with subscribed := s.subscribed ++ s.file.records.filterMap HistoryRecord.bundleName }

/-- Source: `AVSessionService::SubscribeBundleStatusIfNeeded` -/
def subscribeBundleStatusIfNeeded (oldSortContent bundleName : String) (subscribed : List String) :
    List String :=
  if Occurs bundleName oldSortContent then subscribed else subscribed ++ [bundleName]

/-- A session that is created. -/
structure SaveCall where
  tag : String
  sessionId : String
  sessionType : String
  elementName : ElementName
  session : Option SessionInfo

/-- The bundle name that its record is stored under. -/
def SaveCall.bundleName (c : SaveCall) : String := storedBundleName c.elementName c.session

/-- A text that is not parsed is left alone; one that is no array is replaced.
Source: `AVSessionService::SaveSessionInfoInFile` -/
def saveInFile (print : List HistoryRecord → String) (s : WatchState) (c : SaveCall) : WatchState :=
  match s.file.parsed with
  | .null => s
  | _ =>
      let valuesArray :=
        saveSessionInfoInFile c.tag c.sessionId c.sessionType c.elementName c.session s.file.records
      { file := ⟨print valuesArray, .array valuesArray⟩
        subscribed := subscribeBundleStatusIfNeeded s.file.text c.bundleName s.subscribed }

end file

/-! ## Runs -/

section watch

/-- Every bundle name in a record has been subscribed to. -/
def Watched (s : WatchState) : Prop :=
  ∀ r ∈ s.file.records, ∀ bundleName, r.bundleName = some bundleName → bundleName ∈ s.subscribed

/-- The condition on a session that is created: its bundle name does not occur in the text, or has
been subscribed to before. -/
def SubscribeOk (s : WatchState) (c : SaveCall) : Prop :=
  s.file.parsed = .null ∨ ¬ Occurs c.bundleName s.file.text ∨ c.bundleName ∈ s.subscribed

variable {print : List HistoryRecord → String} {s : WatchState} {c : SaveCall}

/-- A bundle is subscribed to unless the old content names it. -/
theorem mem_subscribeBundleStatusIfNeeded {oldSortContent bundleName b : String}
    {subscribed : List String} :
    b ∈ subscribeBundleStatusIfNeeded oldSortContent bundleName subscribed ↔
      b ∈ subscribed ∨ (b = bundleName ∧ ¬ Occurs bundleName oldSortContent) := by
  unfold subscribeBundleStatusIfNeeded
  split_ifs with h
  · simp [h]
  · simp [h]

/-- The start: every bundle of the file is watched. -/
theorem watched_register (s : WatchState) : Watched (registerBundleDeleteEventForHistory s) := by
  intro r hr bundleName hbundle
  exact List.mem_append_right _ (List.mem_filterMap.mpr ⟨r, hr, hbundle⟩)

/-- A session that is created keeps the bundles watched exactly under the condition. -/
theorem watched_step_iff (h : Watched s) :
    Watched (saveInFile print s c) ↔ SubscribeOk s c := by
  unfold saveInFile SubscribeOk
  cases hparsed : s.file.parsed with
  | null => exact iff_of_true h (Or.inl rfl)
  | noArray | array valuesArray =>
      simp only [reduceCtorEq, false_or]
      constructor
      · intro hstep
        have hnew := hstep _ List.mem_cons_self c.bundleName rfl
        rw [mem_subscribeBundleStatusIfNeeded] at hnew
        exact hnew.symm.imp_left And.right
      · intro hok r hr bundleName hbundle
        show bundleName ∈ subscribeBundleStatusIfNeeded _ _ _
        rw [mem_subscribeBundleStatusIfNeeded]
        rcases List.mem_cons.mp hr with rfl | hr
        · cases hbundle
          exact hok.symm.imp_right fun hnot => ⟨rfl, hnot⟩
        · exact Or.inl (h r (List.mem_of_mem_filter hr) bundleName hbundle)

/-- **The bundles that are watched.** From any file for which the bundles have been registered, every
bundle name in the history is watched in every state of a run exactly if every session that is
created meets the condition. -/
theorem watched_iff (print : List HistoryRecord → String) (s : WatchState) (cs : List SaveCall) :
    Always (saveInFile print) Watched (registerBundleDeleteEventForHistory s) cs ↔
      Meets (saveInFile print) SubscribeOk (registerBundleDeleteEventForHistory s) cs :=
  always_iff_meets (fun _ _ h => watched_step_iff h) cs (watched_register s)

/-- A member as `cJSON_Print` writes it, for a string without characters to escape. -/
def printMember (name : String) (value : Option String) : String :=
  "\t\t\"" ++ name ++ "\":\t\"" ++ value.getD "" ++ "\""

/-- An array of objects as `cJSON_Print` writes it. -/
def printArray (l : List HistoryRecord) : String :=
  "[" ++ ", ".intercalate (l.map fun r =>
    "\x7b\n" ++ ",\n".intercalate [printMember "sessionId" r.sessionId,
      printMember "bundleName" r.bundleName, printMember "abilityName" r.abilityName,
      printMember "sessionType" r.sessionType,
      printMember "sessionTag" r.sessionTag] ++ "\n\t\x7d") ++
    "]"

/-- The bundle name of the second session is the first part of the one of the first. -/
theorem shorter_name_not_watched :
    ¬ Always (saveInFile printArray) Watched
      (registerBundleDeleteEventForHistory ⟨⟨"[]", .array []⟩, []⟩)
      [⟨"", "1", "audio", ⟨"com.app.music", "main"⟩, none⟩,
        ⟨"", "2", "audio", ⟨"com.app", "main"⟩, none⟩] := by
  intro h
  exact absurd (h.last _ List.mem_cons_self "com.app" rfl) (by decide +kernel)

end watch

end AvSession.History
