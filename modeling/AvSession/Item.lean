import Mathlib.Data.Int.Notation
import Mathlib.Data.Nat.Notation
import Std.Data.ExtTreeMap

/-!
# Session items

What every part of the service shares: the identifiers, the return codes, and the session item.

* `SessionRef` — the identity of an `sptr<AVSessionItem>`. Containers hold references, and two
  references are the same session exactly when they are equal.
* `AVSessionItem` — the fields of a session item that the registry and the service read.
* `bundleKey` — the bundle name under which the files of the service keep a session.
* `Items` — the items behind the references. A null `sptr` is `none` in `Option SessionRef`.
-/

namespace AvSession

/-- A process id (`pid_t`). -/
abbrev Pid := ℤ

/-- A uid (`int32_t`); the first part of it, `uid / 200000`, is the user. -/
abbrev Uid := ℤ

/-- A system user id (`int32_t`). -/
abbrev UserId := ℤ

/-- The identity of an `sptr<AVSessionItem>`. -/
abbrev SessionRef := ℕ

/-- The identity of an `sptr<AVControllerItem>`. -/
abbrev ControllerRef := ℕ

/-- The return codes of the modelled operations.
Source: avsession_errors.h -/
inductive RetCode
  | success
  | error
  | errSessionExceedMax
deriving DecidableEq, Repr

/-- The kinds of session.
Source: av_session.h, `AVSession::SESSION_TYPE_*` -/
inductive SessionType
  | invalid
  | audio
  | video
  | voiceCall
  | videoCall
  | photo
deriving DecidableEq, Repr

/-- A map from the pid of a client to the controller item it was given. -/
abbrev ControllerMap := Std.ExtTreeMap Pid ControllerRef compare

/-- The fields of a session item that the registry and the service read. `hasCastProxy` says
that `castControllerProxy_` is not null.
Source: avsession_item.h, `AVSessionItem` -/
structure AVSessionItem where
  sessionId : String
  sessionType : SessionType
  bundleName : String
  abilityName : String
  pid : Pid
  uid : Uid
  userId : UserId
  isTop : Bool
  isDestroyed : Bool
  hasCastProxy : Bool
  controllers : ControllerMap

/-- The bundle name that the files of the service have for a session, with the index of a clone:
`bundleName + "_" + std::to_string(session->GetAppIndex())`. -/
def bundleKey (bundleName : String) (appIndex : ℤ) : String :=
  if appIndex ≠ 0 then bundleName ++ "_" ++ toString appIndex else bundleName

/-- The items behind the references. -/
abbrev Items := SessionRef → AVSessionItem

end AvSession
