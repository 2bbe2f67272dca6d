import AvSession.Meta.Delivery

/-!
# Covers that a native client downloads

A client of the C interface sets metadata with the address of a cover. The metadata are sent at
once, and the cover is downloaded on another thread and sent behind. By then the client may have
moved on, so each session tracks what it has set last.

* `AVSessionDataTracker` — what was set last, and what was downloaded last.
* `OHAVSession`, `World` — the sessions of a client, the calls under way, the thread that downloads,
  and the sessions at the service.
* `Act`, `World.step` — the calls and the thread, a critical section at a time.
-/

namespace AvSession.Native

open AvSession.Meta

/-! ## The tracker -/

/-- Source: OHAVUtils.h, AVSessionDataTracker. -/
structure AVSessionDataTracker where
  currentAssetId : String
  currentUri : String
  downloadedAssetId : String
  downloadedUri : String
deriving DecidableEq

namespace AVSessionDataTracker

def init : AVSessionDataTracker := ⟨"", "", "", ""⟩

variable (t : AVSessionDataTracker)

/-- Source: OHAVUtils.h, AVSessionDataTracker::IsDownloadNeeded. -/
def isDownloadNeeded : Bool :=
  !(t.downloadedAssetId == t.currentAssetId && t.downloadedUri == t.currentUri)

/-- Source: OHAVUtils.h, AVSessionDataTracker::IsOutOfDate. -/
def isOutOfDate (assetId uri : String) : Bool :=
  assetId != t.currentAssetId || (!t.currentUri.isEmpty && uri != t.currentUri) ||
    (t.downloadedAssetId == t.currentAssetId && t.downloadedUri == t.currentUri)

/-- Source: OHAVUtils.h, AVSessionDataTracker::OnDataUpdated. -/
def onDataUpdated (assetId uri : String) (isUpdateDownloadedUri : Bool) : AVSessionDataTracker where
  downloadedAssetId := if assetId ≠ t.currentAssetId then "" else t.downloadedAssetId
  downloadedUri := if isUpdateDownloadedUri then "" else t.downloadedUri
  currentAssetId := assetId
  currentUri := uri

/-- Source: OHAVUtils.h, AVSessionDataTracker::OnDownloadCompleted. -/
def onDownloadCompleted (assetId uri : String) : AVSessionDataTracker :=
  { t with downloadedAssetId := assetId, downloadedUri := uri }

end AVSessionDataTracker

/-! ## Data -/

section data

/-- The members that are compared; an image cannot be.
Source: avmeta_data.cpp, AVMetaData::EqualWithUri. -/
def equalWithUri (m metaData : AVMetaData) : Bool :=
  (metaData.val .mediaImage).isNone &&
    MetaKey.all.all fun k => decide (k.type = .image) || !k.type.changed (m.val k) (metaData.val k)

/-- Whether a double is at least zero, which minus zero is. -/
def isNonneg (d : BitVec 64) : Bool := !isNaN d && (!d.msb || d <<< 1 == 0)

/-- Source: avmeta_data.h, AVMetaData::DURATION_ALWAYS_PLAY. -/
def durationAlwaysPlay : ℤ := -1

/-- Source: avmeta_data.cpp, AVMetaData::IsValid. -/
def isValid (m : AVMetaData) : Bool :=
  decide (durationAlwaysPlay ≤ m.val .duration) && isNonneg (m.val .publishDate) &&
    decide (m.val .displayTags ≤ AVMetaData.displayTagAll)

/-- The identity of a session of the client. -/
abbrev SessionRef := ℕ

/-- A session of the client.
Source: OHAVSession.h, OHAVSession. -/
structure OHAVSession where
  metaData : AVMetaData
  isFirstMetaDataSet : Bool
  dataTracker : AVSessionDataTracker
  isDestroyed : Bool

/-- Where a call of OHAVSession::SetAVMetaData is that holds the lock of its session. -/
inductive Calling
  | sending (data : AVMetaData) (isDownloadNeeded : Bool)
  | removing (data : AVMetaData)
  | posting (data : AVMetaData)

/-- A task of the thread that downloads.
Source: OHAVSession.cpp, OHAVSession::DownloadAndSetAVMetaData. -/
structure Download where
  session : SessionRef
  data : AVMetaData

/-- What is left of the data once the image is there.
Source: OHAVUtils.cpp, AVSessionNdkUtils::DownloadAndSetCoverImage. -/
def Download.withCoverImage (task : Download) (image : List UInt8) : Download :=
  { task with data := task.data.resetToBaseMeta.setMediaImage (some image) }

/-- Where a task is that runs. -/
inductive Phase
  | downloading
  | checking
  | completing
  | sending
deriving DecidableEq

/-- The sessions of a client, at the client (`sessions`) and at the service (`items`), the calls and
the thread. `applied` is what the service would hold if only the calls had arrived. -/
structure World (ω : Type) where
  sessions : SessionRef → OHAVSession
  calling : SessionRef → Option Calling
  tasks : List Download
  running : Option (Download × Phase)
  items : SessionRef → ItemState ω
  applied : SessionRef → AVMetaData

end data

/-! ## Calls -/

section calls

variable {ω : Type}

namespace World

variable (w : World ω)

def modifySession (s : SessionRef) (f : OHAVSession → OHAVSession) : World ω :=
  { w with sessions := Function.update w.sessions s (f (w.sessions s)) }

def setCalling (s : SessionRef) (calling : Option Calling) : World ω :=
  { w with calling := Function.update w.calling s calling }

/-- The part of the call up to its message to the service.
Source: OHAVSession.cpp, OHAVSession::SetAVMetaData. -/
def beginSetAVMetaData (s : SessionRef) (metaData : AVMetaData) : World ω :=
  let session := w.sessions s
  if session.isDestroyed || (w.calling s).isSome then w
  else if !session.isFirstMetaDataSet && equalWithUri session.metaData metaData then w
  else
    let dataTracker := session.dataTracker.onDataUpdated (metaData.val .assetId)
      (metaData.val .mediaImageUri) (metaData.val .mediaImage).isSome
    (w.modifySession s fun session =>
      { session with metaData, isFirstMetaDataSet := false, dataTracker }).setCalling s
        (some (.sending metaData dataTracker.isDownloadNeeded))

/-- What a message needs to arrive; `sent` says whether the service can be reached.
Source: avsession_proxy.cpp, AVSessionProxy::SetAVMetaData. -/
def arrives (s : SessionRef) (metaData : AVMetaData) (sent : Bool) : Bool :=
  isValid metaData && !(w.sessions s).isDestroyed && (AVMetaData.init.copyFrom metaData).2 &&
    sent

/-- The message; `queueImage` is what the stored queue image holds then. -/
def sendAVMetaData (s : SessionRef) (metaData : AVMetaData) (queueImage : List UInt8)
    (sent : Bool) : World ω :=
  if w.arrives s metaData sent then
    { w with items := Function.update w.items s (setAVMetaData (w.items s) metaData queueImage) }
  else w

/-- The message of a call, and what is left to do of the call.
Source: OHAVSession.cpp, OHAVSession::SetAVMetaData. -/
def callService (s : SessionRef) (queueImage : List UInt8) (sent : Bool) : World ω :=
  match w.calling s with
  | some (.sending data isDownloadNeeded) =>
      if w.arrives s data sent then
        let isPosted := !(data.val .mediaImageUri).isEmpty && isDownloadNeeded &&
          (data.val .mediaImage).isNone
        let w := w.sendAVMetaData s data queueImage sent
        let w := { w with
          applied := Function.update w.applied s ((w.applied s).copyFrom data).1 }
        w.setCalling s (if isPosted then some (.removing data) else none)
      else w.setCalling s none
  | _ => w

/-- The tasks of all sessions have the same name, and are removed with it.
Source: OHAVSession.cpp, OHAVSession::SetAVMetaData; OHAVUtils.cpp,
AVSessionDownloadHandler::AVSessionDownloadRemoveTask. -/
def removeDownload (s : SessionRef) : World ω :=
  match w.calling s with
  | some (.removing data) => { w.setCalling s (some (.posting data)) with tasks := [] }
  | _ => w

/-- The handler is locked anew, so calls of other sessions may have posted since.
Source: OHAVSession.cpp, OHAVSession::SetAVMetaData; OHAVUtils.cpp,
AVSessionDownloadHandler::AVSessionDownloadPostTask. -/
def postDownload (s : SessionRef) : World ω :=
  match w.calling s with
  | some (.posting data) => { w.setCalling s none with tasks := w.tasks ++ [Download.mk s data] }
  | _ => w

/-- The object of a call under way is not destroyed.
Source: OHAVSession.cpp, OH_AVSession_Destroy, OHAVSession::Destroy. -/
def destroy (s : SessionRef) : World ω :=
  if (w.calling s).isSome then w
  else { w.modifySession s fun session => { session with isDestroyed := true } with tasks := [] }

end World

end calls

/-! ## The thread -/

section thread

variable {ω : Type}

namespace World

variable (w : World ω)

/-- The next task, unless its session is gone.
Source: OHAVSession.cpp, OHAVSession::SetAVMetaData, the posted task. -/
def takeTask : World ω :=
  match w.running, w.tasks with
  | none, task :: tasks =>
      { w with
        tasks
        running := if (w.sessions task.session).isDestroyed then none
          else some (task, .downloading) }
  | _, _ => w

/-- The download ends, with an image or without.
Source: OHAVUtils.cpp, AVSessionNdkUtils::DownloadAndSetCoverImage. -/
def downloadAndSetCoverImage (image : Option (List UInt8)) : World ω :=
  match w.running with
  | some (task, .downloading) =>
      { w with
        running := image.map fun image => (task.withCoverImage image, .checking) }
  | _ => w

/-- Source: OHAVSession.cpp, OHAVSession::DownloadAndSetAVMetaData. -/
def checkOutOfDate : World ω :=
  match w.running with
  | some (task, .checking) =>
      if (w.sessions task.session).dataTracker.isOutOfDate (task.data.val .assetId)
          (task.data.val .mediaImageUri) then
        { w with running := none }
      else { w with running := some (task, .completing) }
  | _ => w

/-- Source: OHAVSession.cpp, OHAVSession::DownloadAndSetAVMetaData. -/
def completeDownload : World ω :=
  match w.running with
  | some (task, .completing) =>
      { w.modifySession task.session fun session =>
          { session with
            dataTracker := session.dataTracker.onDownloadCompleted (task.data.val .assetId)
              (task.data.val .mediaImageUri) } with
        running := some (task, .sending) }
  | _ => w

/-- Source: OHAVSession.cpp, OHAVSession::DownloadAndSetAVMetaData. -/
def deliverDownload (queueImage : List UInt8) (sent : Bool) : World ω :=
  match w.running with
  | some (task, .sending) =>
      { w.sendAVMetaData task.session task.data queueImage sent with running := none }
  | _ => w

end World

/-- What happens: a call begins, sends, removes, posts; a session is destroyed; the thread goes on. -/
inductive Act
  | setAVMetaData (s : SessionRef) (metaData : AVMetaData)
  | callService (s : SessionRef) (queueImage : List UInt8) (sent : Bool)
  | removeDownload (s : SessionRef)
  | postDownload (s : SessionRef)
  | destroy (s : SessionRef)
  | takeTask
  | downloadAndSetCoverImage (image : Option (List UInt8))
  | checkOutOfDate
  | completeDownload
  | deliverDownload (queueImage : List UInt8) (sent : Bool)

/-- One step. -/
def World.step (w : World ω) : Act → World ω
  | .setAVMetaData s metaData => w.beginSetAVMetaData s metaData
  | .callService s queueImage sent => w.callService s queueImage sent
  | .removeDownload s => w.removeDownload s
  | .postDownload s => w.postDownload s
  | .destroy s => w.destroy s
  | .takeTask => w.takeTask
  | .downloadAndSetCoverImage image => w.downloadAndSetCoverImage image
  | .checkOutOfDate => w.checkOutOfDate
  | .completeDownload => w.completeDownload
  | .deliverDownload queueImage sent => w.deliverDownload queueImage sent

/-- Nothing has been set yet; the sessions at the service have some controllers. -/
def World.init (controllers : SessionRef → List Controller) : World ω where
  sessions := fun _ => ⟨.init, true, .init, false⟩
  calling := fun _ => none
  tasks := []
  running := none
  items := fun s => .init (controllers s)
  applied := fun _ => .init

end thread

end AvSession.Native
