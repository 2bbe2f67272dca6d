import AvSession.Lib.Mailbox
import AvSession.Meta.Delivery

/-!
# The playback position that a client counts

The proxy of a controller keeps one playback state: the last that its callback was told, or that it
has asked for. The position is counted on from there, without a request. What a callback is told
travels on its own, and a reply is kept only once it has come back: either may overtake the other,
and callbacks are not ordered among each other.

* `realPosition` — the position at a time.
* `World` — a session, its controllers, and what each proxy keeps and is going to be told.
* `Act`, `World.step` — the calls, and the arrival of what was told.
-/

namespace AvSession.Playback

open AvSession.Lib AvSession.Meta

variable {ω : Type}

/-- What is counted from a position. Source: avsession_controller_proxy.cpp,
AVSessionControllerProxy::GetRealPlaybackPosition. -/
def realPosition (position : Position) (now : ℤ) : ℤ :=
  if 0 < position.updateTime then position.elapsedTime + (now - position.updateTime) else 0

/-- A callback object of a client; each registration makes one.
Source: avcontroller_callback_client.h, AVControllerCallbackClient. -/
abbrev CallbackRef := ℕ

/-- What brings a state to a proxy: the reply to its request, or one of its callbacks. -/
inductive Channel
  | reply
  | callback (ref : CallbackRef)
deriving DecidableEq

/-- A session, the callbacks that its controllers hold, and the proxies: the state that each keeps,
with the states that its callbacks are going to be told (OnPlaybackStateChange of
IAVControllerCallback.idl is oneway) and the reply it waits for, and whether it is destroyed.
Source: avsession_item.h, AVSessionItem; avcontroller_item.h, AVControllerItem;
avsession_controller_proxy.h, AVSessionControllerProxy. -/
structure World (ω : Type) where
  item : ItemState ω
  callback : ℤ → Option CallbackRef
  currentState : ℤ → Mailbox Channel (AVPlaybackState ω)
  isDestroy : ℤ → Bool

namespace World

/-- A session without controllers. -/
def init : World ω where
  item := .init []
  callback := fun _ => none
  currentState := fun _ => ⟨.init, []⟩
  isDestroy := fun _ => true

variable (w : World ω)

/-- The controller of a process: `controllers_` is a map. -/
def controllerOf (pid : ℤ) : Option Controller := w.item.controllers.find? (·.pid = pid)

/-! ## The service -/

section service

/-- A controller with a new proxy; what an old one was going to be told is lost with it.
Source: avsession_service.cpp, AVSessionService::CreateControllerInner;
avsession_item.cpp, AVSessionItem::AddController. -/
def createController (pid : ℤ) : World ω :=
  if (w.controllerOf pid).isSome then w
  else
    { item := { w.item with
        controllers := w.item.controllers ++ [⟨pid, fun _ => false, fun _ => false, false⟩] }
      callback := Function.update w.callback pid none
      currentState := Function.update w.currentState pid ⟨.init, []⟩
      isDestroy := Function.update w.isDestroy pid false }

/-- The callback that a controller tells of a state, and what it tells.
Source: avcontroller_item.cpp, AVControllerItem::HandlePlaybackStateChange. -/
def handlePlaybackStateChange [DecidableEq ω] (c : Controller) (state : AVPlaybackState ω) :
    Option (Channel × AVPlaybackState ω) := do
  let stateOut ← Meta.handlePlaybackStateChange c state (changedStateMask w.item state)
  let callback ← w.callback c.pid
  pure (.callback callback, stateOut)

/-- Source: avsession_item.cpp, AVSessionItem::SetAVPlaybackState. -/
def setAVPlaybackState [DecidableEq ω] (state : AVPlaybackState ω) : World ω :=
  { w with
    item := Meta.setAVPlaybackState w.item state
    currentState := fun pid =>
      match (w.controllerOf pid).bind (w.handlePlaybackStateChange · state) with
      | none => w.currentState pid
      | some m => (w.currentState pid).send m.1 m.2 }

end service

/-! ## The proxies -/

section proxies

variable (pid : ℤ)

/-- The proxy waits for the reply to its request, and holds `controllerProxyLock_`. -/
def asks : Bool := (w.currentState pid).wire.any (·.1 = .reply)

/-- No call of the proxy does anything: it is destroyed, or its lock is held. -/
def isClosed : Bool := w.isDestroy pid || w.asks pid

/-- Source: avsession_controller_proxy.cpp, AVSessionControllerProxy::SetPlaybackFilter;
avcontroller_item.cpp, AVControllerItem::SetPlaybackFilter. -/
def setPlaybackFilter (filter : PlaybackKey → Bool) : World ω :=
  if w.isClosed pid = true then w
  else
    { w with item := { w.item with
        controllers := w.item.controllers.map fun c =>
          if c.pid = pid then { c with playbackMask := filter } else c } }

/-- A callback of its own is made for the one of the caller, and drops everything if that is null.
Source: avsession_controller_proxy.cpp, AVSessionControllerProxy::RegisterCallback;
avcontroller_item.cpp, AVControllerItem::RegisterCallbackInner. -/
def registerCallback (callback : CallbackRef) (isNull : Bool) : World ω :=
  if w.isClosed pid = true then w
  else
    { w with callback := Function.update w.callback pid (if isNull then none else some callback) }

/-- The service reads the state for the reply.
Source: avsession_controller_proxy.cpp, AVSessionControllerProxy::GetAVPlaybackState;
avcontroller_item.cpp, AVControllerItem::GetAVPlaybackState. -/
def getAVPlaybackState : World ω :=
  if w.isClosed pid = true then w
  else
    { w with
      currentState := Function.update w.currentState pid
        ((w.currentState pid).send .reply w.item.playbackState) }

/-- Source: avsession_controller_proxy.cpp, AVSessionControllerProxy::Destroy;
avcontroller_item.cpp, AVControllerItem::Destroy. -/
def destroy : World ω :=
  if w.isClosed pid = true then w
  else
    { w with
      item := { w.item with controllers := w.item.controllers.filter (·.pid ≠ pid) }
      callback := Function.update w.callback pid none
      isDestroy := Function.update w.isDestroy pid true }

/-- What is next on a channel is kept, under `currentStateLock_`. -/
def keeps (channel : Channel) : World ω :=
  { w with currentState :=
      Function.update w.currentState pid ((w.currentState pid).arrive channel) }

/-- A callback is told what is next for it. Source: avcontroller_callback_client.cpp,
AVControllerCallbackClient::OnPlaybackStateChange. -/
def onPlaybackStateChange (callback : CallbackRef) : World ω := w.keeps pid (.callback callback)

/-- The reply is there. Source: avsession_controller_proxy.cpp,
AVSessionControllerProxy::GetAVPlaybackState, behind SendRequest. -/
def takeReply : World ω := w.keeps pid .reply

/-- Source: avsession_controller_proxy.cpp, AVSessionControllerProxy::GetRealPlaybackPosition. -/
def getRealPlaybackPosition (now : ℤ) : ℤ :=
  realPosition ((w.currentState pid).held.val .position) now

/-! ### What does not change -/

variable {w pid}

/-- A filter leaves what the proxies hold. -/
@[simp] theorem setPlaybackFilter_currentState {filter : PlaybackKey → Bool} :
    (w.setPlaybackFilter pid filter).currentState = w.currentState := by
  unfold setPlaybackFilter
  split_ifs <;> rfl

/-- A filter leaves the session's state. -/
@[simp] theorem setPlaybackFilter_playbackState {filter : PlaybackKey → Bool} :
    (w.setPlaybackFilter pid filter).item.playbackState = w.item.playbackState := by
  unfold setPlaybackFilter
  split_ifs <;> rfl

/-- A filter leaves the callbacks. -/
@[simp] theorem setPlaybackFilter_callback {filter : PlaybackKey → Bool} :
    (w.setPlaybackFilter pid filter).callback = w.callback := by
  unfold setPlaybackFilter
  split_ifs <;> rfl

/-- A registration leaves what the proxies hold. -/
@[simp] theorem registerCallback_currentState {callback : CallbackRef} {isNull : Bool} :
    (w.registerCallback pid callback isNull).currentState = w.currentState := by
  unfold registerCallback
  split_ifs <;> rfl

/-- A registration leaves the session. -/
@[simp] theorem registerCallback_item {callback : CallbackRef} {isNull : Bool} :
    (w.registerCallback pid callback isNull).item = w.item := by
  unfold registerCallback
  split_ifs <;> rfl

/-- A controller that goes leaves what the proxies hold. -/
@[simp] theorem destroy_currentState : (w.destroy pid).currentState = w.currentState := by
  unfold destroy
  split_ifs <;> rfl

/-- A controller that goes leaves the session's state. -/
@[simp] theorem destroy_playbackState :
    (w.destroy pid).item.playbackState = w.item.playbackState := by
  unfold destroy
  split_ifs <;> rfl

/-- Asking leaves the session. -/
@[simp] theorem getAVPlaybackState_item : (w.getAVPlaybackState pid).item = w.item := by
  unfold getAVPlaybackState
  split_ifs <;> rfl

/-- Asking leaves the callbacks. -/
@[simp] theorem getAVPlaybackState_callback : (w.getAVPlaybackState pid).callback = w.callback := by
  unfold getAVPlaybackState
  split_ifs <;> rfl

/-- A request puts its reply on the way, to the proxy that asks. -/
theorem wire_getAVPlaybackState {p : ℤ} {m : Channel × AVPlaybackState ω}
    (h : m ∈ ((w.getAVPlaybackState pid).currentState p).wire) :
    m ∈ (w.currentState p).wire ∨ m.1 = .reply := by
  unfold getAVPlaybackState at h
  split_ifs at h
  · exact .inl h
  · dsimp only at h
    by_cases hp : p = pid
    · subst hp
      rw [Function.update_self] at h
      refine (List.mem_append.mp h).imp_right fun hnew => ?_
      rw [List.mem_singleton.mp hnew]
    · rw [Function.update_of_ne hp] at h
      exact .inl h

end proxies

end World

/-! ## Steps -/

/-- What can happen. -/
inductive Act (ω : Type)
  | setAVPlaybackState (state : AVPlaybackState ω)
  | createController (pid : ℤ)
  | setPlaybackFilter (pid : ℤ) (filter : PlaybackKey → Bool)
  | registerCallback (pid : ℤ) (callback : CallbackRef) (isNull : Bool)
  | getAVPlaybackState (pid : ℤ)
  | destroy (pid : ℤ)
  | onPlaybackStateChange (pid : ℤ) (callback : CallbackRef)
  | takeReply (pid : ℤ)

/-- One step. -/
def World.step [DecidableEq ω] (w : World ω) : Act ω → World ω
  | .setAVPlaybackState state => w.setAVPlaybackState state
  | .createController pid => w.createController pid
  | .setPlaybackFilter pid filter => w.setPlaybackFilter pid filter
  | .registerCallback pid callback isNull => w.registerCallback pid callback isNull
  | .getAVPlaybackState pid => w.getAVPlaybackState pid
  | .destroy pid => w.destroy pid
  | .onPlaybackStateChange pid callback => w.onPlaybackStateChange pid callback
  | .takeReply pid => w.takeReply pid

end AvSession.Playback
