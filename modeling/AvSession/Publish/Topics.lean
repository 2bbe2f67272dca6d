import AvSession.Command.Handlers
import AvSession.Lib.Board
import AvSession.Queue.Parcels

/-!
# What a session tells its controllers

A session stores the values that its application sets, and then tells the callbacks of its
controllers. The two parts are under different locks, and the calls of an application come in on
several threads. A controller may also ask for a value.

* `Topic` — what is published, apart from metadata, playback state and calls.
* `PublishController` — the callbacks of a controller, and which of them are told of what.
* `Call`, `World`, `World.step` — a session with the calls that are under way.
-/

namespace AvSession.Publish

open AvSession.Command AvSession.Lib AvSession.Queue

/-! ## Topics -/

section topics

/-- The members of a session item that are published.
Source: avsession_item.h, `AVSessionItem` -/
inductive Topic
  | queueItems
  | queueTitle
  | extras
  | supportedCmd
  | isActive
  | mediaCenterControlTypes
  | supportedPlaySpeeds
  | supportedLoopModes
  | isEnabledDesktopLyric
  | isDesktopLyricVisible
  | desktopLyricState
deriving DecidableEq

/-- Their types. `W` are the `AAFwk::WantParams`; the state of the lyrics is `isLocked_`. -/
@[reducible] def Topic.Value (W : Type) : Topic → Type
  | queueItems => List AVQueueItem
  | queueTitle => String
  | extras => W
  | supportedCmd | mediaCenterControlTypes | supportedLoopModes => List ℤ
  | supportedPlaySpeeds => List (BitVec 64)
  | isActive | isEnabledDesktopLyric | isDesktopLyricVisible | desktopLyricState => Bool

/-- Source: avsession_errors.h -/
inductive RetCode
  | success
  | error
  | errDesktopLyricNotSupport
  | errDesktopLyricNotEnable
deriving DecidableEq

end topics

/-! ## Controllers -/

section controllers

/-- The callbacks of a controller. `callbackListForMigrate` is by the process that has registered.
Source: avcontroller_item.h, `AVControllerItem` -/
structure PublishController where
  pid : Pid
  hasMigrateProxy : Bool
  callback : Option CallbackRef
  innerCallback : Option CallbackRef
  callbackListForMigrate : List (Pid × CallbackRef)

namespace PublishController

/-- A new controller. -/
def init (pid : Pid) (hasMigrateProxy : Bool) : PublishController :=
  ⟨pid, hasMigrateProxy, none, none, []⟩

variable (c : PublishController)

/-- Source: avcontroller_item.cpp, `AVControllerItem::RegisterCallbackInner` -/
def registerCallbackInner (callingPid : Pid) (callback : Option CallbackRef) : PublishController :=
  match c.pid == 0 && c.hasMigrateProxy, callback with
  | true, some ref =>
      { c with
        callbackListForMigrate :=
          (callingPid, ref) :: c.callbackListForMigrate.filter (·.1 ≠ callingPid) }
  | _, _ => { c with callback }

/-- Source: avcontroller_item.cpp, `AVControllerItem::RemoveCallbackForMigrate` -/
def removeCallbackForMigrate (pid : Pid) : PublishController :=
  { c with callbackListForMigrate := c.callbackListForMigrate.filter (·.1 ≠ pid) }

/-- The handlers call `callback_`, some of them `innerCallback_` too, and one of them those of the
migration as well. -/
def listeners : List CallbackRef := c.callback.toList

def innerListeners : List CallbackRef := c.listeners ++ c.innerCallback.toList

def allListeners : List CallbackRef := c.innerListeners ++ c.callbackListForMigrate.map Prod.snd

/-- Whom `AVControllerItem::HandleQueueItemsChange` and the other handlers tell.
Source: avcontroller_item.cpp -/
def handle : Topic → List CallbackRef
  | .queueItems => c.listeners
  | .queueTitle => c.listeners
  | .extras => c.listeners
  | .supportedCmd => c.allListeners
  | .isActive => c.listeners
  | .mediaCenterControlTypes => c.innerListeners
  | .supportedPlaySpeeds => c.innerListeners
  | .supportedLoopModes => c.innerListeners
  | .isEnabledDesktopLyric => c.listeners
  | .isDesktopLyricVisible => c.listeners
  | .desktopLyricState => c.listeners

end PublishController

end controllers

/-! ## Sessions -/

section sessions

/-- The calls of an application, of the service, and of controllers that set the lyrics.
Source: avsession_item.h, `AVSessionItem` -/
inductive Call (W : Type)
  | setAVQueueItems (items : List AVQueueItem)
  | setAVQueueTitle (title : String)
  | setExtras (extras : W)
  | addSupportCommand (cmd : ℤ)
  | deleteSupportCommand (cmd : ℤ)
  | setSupportCommand (cmds : List ℤ)
  | activate
  | deactivate
  | setMediaCenterControlType (controlTypes : List ℤ)
  | setSupportedPlaySpeeds (speeds : List (BitVec 64))
  | setSupportedLoopModes (loopModes : List ℤ)
  | enableDesktopLyric (isEnabled : Bool)
  | setDesktopLyricVisible (isVisible : Bool)
  | setDesktopLyricState (isLocked : Bool)

/-- A session. The `board` has its members, what is about to be told, and what each callback has
been told; `calls` have passed their checks and will store. -/
structure World (W : Type) where
  sessionId : String
  bundleName : String
  abilityName : String
  isSupportedDesktopLyric : Bool
  hasExtension : Bool
  isMediaKeySupport : Bool
  isDestroyed : Bool
  board : Board (Topic.Value W) CallbackRef
  calls : List (Call W)
  callback : Option CallbackRef
  controllers : List (Pid × PublishController)

namespace World

variable {W : Type} (w : World W)

/-- The application itself is told of the lyrics. -/
def appListeners : Topic → List CallbackRef
  | .isDesktopLyricVisible | .desktopLyricState => w.callback.toList
  | _ => []

/-- Whom a setter tells. -/
def told (t : Topic) : List CallbackRef :=
  w.appListeners t ++ w.controllers.flatMap fun x => x.2.handle t

/-! ### Getters -/

/-- Source: avsession_item.cpp, `AVSessionItem::GetSupportCommand` -/
def getSupportCommand : List ℤ :=
  if w.bundleName = "castBundleName" ∧ w.abilityName = "castAbilityName" then
    CommandSession.supportedCmdForCastSession
  else w.board.current .supportedCmd

/-- Source: avsession_item.cpp, `AVSessionItem::IsActive` -/
def isActive : Bool := w.board.current .isActive || w.sessionId == "DEFAULT"

/-- What the getters check of the lyrics, and the setters too. -/
def checkLyric (needsEnabled : Bool) : RetCode :=
  if w.isSupportedDesktopLyric = false then .errDesktopLyricNotSupport
  else if needsEnabled && !w.board.current .isEnabledDesktopLyric then .errDesktopLyricNotEnable
  else .success

/-- Source: avsession_item.cpp, `AVSessionItem::IsDesktopLyricEnabled`, `IsDesktopLyricVisible` and
`GetDesktopLyricState` -/
def getLyric {α : Type} (needsEnabled : Bool) (v : α) : Except RetCode α :=
  match w.checkLyric needsEnabled with
  | .success => .ok v
  | ret => .error ret

/-- The getters. -/
def get : (t : Topic) → Except RetCode (t.Value W)
  | .queueItems => .ok (w.board.current .queueItems)
  | .queueTitle => .ok (w.board.current .queueTitle)
  | .extras => .ok (w.board.current .extras)
  | .supportedCmd => .ok w.getSupportCommand
  | .isActive => .ok w.isActive
  | .mediaCenterControlTypes => .ok (w.board.current .mediaCenterControlTypes)
  | .supportedPlaySpeeds => .ok (w.board.current .supportedPlaySpeeds)
  | .supportedLoopModes => .ok (w.board.current .supportedLoopModes)
  | .isEnabledDesktopLyric => w.getLyric false (w.board.current .isEnabledDesktopLyric)
  | .isDesktopLyricVisible => w.getLyric true (w.board.current .isDesktopLyricVisible)
  | .desktopLyricState => w.getLyric true (w.board.current .desktopLyricState)

/-! ### Setters -/

/-- What the setters check before they store. -/
def check : Call W → RetCode
  | .addSupportCommand cmd | .deleteSupportCommand cmd =>
      if cmd ≤ SessionCmd.invalid ∨ cmd ≥ SessionCmd.max then .error else .success
  | .enableDesktopLyric _ => w.checkLyric false
  | .setDesktopLyricVisible _ | .setDesktopLyricState _ =>
      match w.checkLyric true with
      | .success => if w.hasExtension then .success else .error
      | ret => ret
  | _ => .success

/-- The command of media keys is only a flag. -/
def keySupport : Call W → Option Bool
  | .addSupportCommand cmd => if cmd = SessionCmd.mediaKeySupport.code then some true else none
  | .deleteSupportCommand cmd => if cmd = SessionCmd.mediaKeySupport.code then some false else none
  | _ => none

/-- A call comes in. -/
def call (c : Call W) : World W × RetCode :=
  match w.check c with
  | .success =>
      match keySupport c with
      | some isMediaKeySupport => ({ w with isMediaKeySupport }, .success)
      | none => ({ w with calls := w.calls ++ [c] }, .success)
  | ret => (w, ret)

/-- A value is set that will be told as it is. -/
def set (t : Topic) (v : t.Value W) : Board (Topic.Value W) CallbackRef :=
  w.board.store t v (some v)

/-- Source: avsession_item.cpp, `AVSessionItem::EnableDesktopLyric` -/
def enableDesktopLyric (isEnabled : Bool) : Board (Topic.Value W) CallbackRef :=
  let b := w.set .isEnabledDesktopLyric isEnabled
  if isEnabled then b
  else (b.change .isDesktopLyricVisible false).change .desktopLyricState false

/-- What a call stores, or `none` if it ends before. The setters of the lyrics hold a lock until
they have told; `started` is what `StartDesktopLyricAbility` has answered. `SetSupportCommand` tells
what `supportedCmd_` has become by then.
Source: avsession_item.cpp, the setters of `AVSessionItem` -/
def stores (started : Bool) : Call W → Option (Board (Topic.Value W) CallbackRef)
  | .setAVQueueItems items => some (w.set .queueItems items)
  | .setAVQueueTitle title => some (w.set .queueTitle title)
  | .setExtras extras => some (w.set .extras extras)
  | .addSupportCommand cmd =>
      let cmds := w.board.current .supportedCmd
      if cmd ∈ cmds then none else some (w.set .supportedCmd (cmds ++ [cmd]))
  | .deleteSupportCommand cmd =>
      some (w.set .supportedCmd ((w.board.current .supportedCmd).filter (· ≠ cmd)))
  | .setSupportCommand cmds => some (w.board.store .supportedCmd cmds none)
  | .activate => some (w.set .isActive true)
  | .deactivate => some (w.set .isActive false)
  | .setMediaCenterControlType controlTypes => some (w.set .mediaCenterControlTypes controlTypes)
  | .setSupportedPlaySpeeds speeds => some (w.set .supportedPlaySpeeds speeds)
  | .setSupportedLoopModes loopModes => some (w.set .supportedLoopModes loopModes)
  | .enableDesktopLyric isEnabled => some (w.enableDesktopLyric isEnabled)
  | .setDesktopLyricVisible isVisible =>
      if isVisible && !started then none else some (w.set .isDesktopLyricVisible isVisible)
  | .setDesktopLyricState isLocked => some (w.set .desktopLyricState isLocked)

/-- The lock that a call waits for is held by another one that has stored and not yet told. -/
def blocked : Call W → Bool
  | .setDesktopLyricVisible _ => !(w.board.flying .isDesktopLyricVisible).isEmpty
  | .setDesktopLyricState _ => !(w.board.flying .desktopLyricState).isEmpty
  | _ => false

/-- One of the calls stores. -/
def store (n : ℕ) (started : Bool) : World W :=
  match w.calls[n]? with
  | none => w
  | some c =>
      if w.blocked c then w
      else { w with calls := w.calls.eraseIdx n, board := (w.stores started c).getD w.board }

/-- One of the calls that have stored tells the callbacks. -/
def publish (n : ℕ) : World W :=
  { w with board := w.board.publish n fun ref t => decide (ref ∈ w.told t) }

/-! ### Clients -/

/-- The callbacks that are registered. -/
def registered : List CallbackRef :=
  w.callback.toList ++ w.controllers.flatMap fun x => x.2.allListeners

/-- A client asks. -/
def pull (ref : CallbackRef) (t : Topic) : World W :=
  if ref ∈ w.registered then
    match w.get t with
    | .ok v => { w with board := w.board.inform ref t v }
    | .error _ => w
  else w

/-- A client that registers knows nothing yet. -/
def forget : Option CallbackRef → World W
  | some ref => { w with board := w.board.forget ref }
  | none => w

/-- Source: avsession_item.cpp, `AVSessionItem::AddController` -/
def addController (pid : Pid) (hasMigrateProxy : Bool) : World W :=
  if w.controllers.any (·.1 == pid) then w
  else { w with controllers := w.controllers ++ [(pid, .init pid hasMigrateProxy)] }

/-- The controller of a process is changed. -/
def modify (pid : Pid) (g : PublishController → PublishController) : World W :=
  { w with controllers := w.controllers.map fun x => if x.1 = pid then (x.1, g x.2) else x }

/-- Source: avcontroller_item.cpp, `AVControllerItem::Destroy` -/
def destroyController (pid : Pid) : World W :=
  if w.sessionId = "DEFAULT" then w
  else { w with controllers := w.controllers.filter (·.1 ≠ pid) }

/-- Source: avsession_item.cpp, `AVSessionItem::DestroyTask` -/
def destroyTask : World W :=
  if w.isDestroyed then w
  else { w with isDestroyed := true, callback := none, controllers := [] }

end World

/-- What happens, one step at a time. -/
inductive Act (W : Type)
  | call (c : Call W)
  | store (n : ℕ) (started : Bool)
  | publish (n : ℕ)
  | pull (ref : CallbackRef) (t : Topic)
  | setDesktopLyricFeatureSupported (isSupported : Bool)
  | registerSessionCallback (callback : Option CallbackRef)
  | addController (pid : Pid) (hasMigrateProxy : Bool)
  | registerCallbackInner (pid callingPid : Pid) (callback : Option CallbackRef)
  | registerAVControllerCallback (pid : Pid) (callback : Option CallbackRef)
  | removeCallbackForMigrate (pid callingPid : Pid)
  | destroyController (pid : Pid)
  | destroyTask

/-- One step. -/
def World.step {W : Type} (w : World W) : Act W → World W
  | .call c => (w.call c).1
  | .store n started => w.store n started
  | .publish n => w.publish n
  | .pull ref t => w.pull ref t
  | .setDesktopLyricFeatureSupported isSupported =>
      { w with isSupportedDesktopLyric := isSupported }
  | .registerSessionCallback callback => { w.forget callback with callback }
  | .addController pid hasMigrateProxy => w.addController pid hasMigrateProxy
  | .registerCallbackInner pid callingPid callback =>
      (w.forget callback).modify pid fun c => c.registerCallbackInner callingPid callback
  | .registerAVControllerCallback pid callback =>
      (w.forget callback).modify pid fun c => { c with innerCallback := callback }
  | .removeCallbackForMigrate pid callingPid =>
      w.modify pid fun c => c.removeCallbackForMigrate callingPid
  | .destroyController pid => w.destroyController pid
  | .destroyTask => w.destroyTask

end sessions

end AvSession.Publish
