import AvSession.Lib.Run
import AvSession.Lyric.Ability

/-!
# What the ability shows and what the sessions say

* `Recorded` — no connection but the one kept for a user is alive, and the recorded state of an
  ability is how the ability manager stands with it, but for a connection that failed: so in every
  run.
* `Coherent` — the recorded states are how the ability manager stands: so while no connection fails.
* `InSync` — the ability of the current user shows, or is about to be told to show, exactly the
  sessions that say that their lyrics are visible.
* `lyrics_in_sync` — the runs all along which they agree are those whose steps are all `Kept`.
-/

set_option linter.unusedSectionVars false

namespace AvSession.Lyric

open AvSession.Lib

/-! ## What an ability shows -/

section shows

/-- What an ability makes of a message about one session. -/
def Operation.apply (op : Operation) (isShown : Bool) : Bool :=
  match op.code with
  | .openLyric => true
  | .closeLyric => false
  | .lockLyric | .unlockLyric => isShown

/-- Whether an ability that has received `ops` shows a session. -/
def isShown (ops : List Operation) (sessionId : String) : Bool :=
  ops.foldl (fun b op => if op.sessionId = sessionId then op.apply b else b) false

/-- Nothing has been told, nothing is shown. -/
@[simp] theorem isShown_nil (sessionId : String) : isShown [] sessionId = false := rfl

/-- The last operation decides for its own session and for no other. -/
@[simp] theorem isShown_append_singleton (ops : List Operation) (op : Operation)
    (sessionId : String) : isShown (ops ++ [op]) sessionId =
      if op.sessionId = sessionId then op.apply (isShown ops sessionId)
      else isShown ops sessionId := by
  simp [isShown]

/-- A recorded state says how the ability manager stands. -/
def AbilityState.Matches : AbilityState → Binding → Prop
  | .default, .idle | .disconnected, .idle => True
  | .connecting, .connecting | .connected, .connected => True
  | _, _ => False

/-- A recorded state is what the service was told of: a connection that failed is recorded as one
that came about. -/
def AbilityState.Follows (state : AbilityState) (binding : Binding) : Prop :=
  state.Matches binding ∨ state = .connected ∧ binding = .failed

/-- A state that matches its binding follows it. -/
theorem AbilityState.Matches.follows {state : AbilityState} {binding : Binding}
    (h : state.Matches binding) : state.Follows binding := Or.inl h

/-- Without a failure they are the same. -/
theorem AbilityState.matches_iff {state : AbilityState} {binding : Binding} :
    state.Matches binding ↔ state.Follows binding ∧ binding ≠ .failed := by
  constructor
  · intro h
    refine ⟨h.follows, ?_⟩
    rintro rfl
    cases state <;> exact h
  · rintro ⟨h | ⟨-, hfailed⟩, hne⟩
    · exact h
    · exact absurd hfailed hne

namespace World

variable (w : World)

/-- The connection that is kept for a user. -/
def connectionOf (userId : UserId) : Option CallConnection :=
  (w.connectionMap userId).bind (w.connections[·]?)

/-- What the ability manager has been asked for on behalf of a user. -/
def bindingOf (userId : UserId) : Binding :=
  (w.connectionMap userId).elim .idle w.bindings

/-- What the ability of a user has received. -/
def receivedBy (userId : UserId) : List Operation :=
  (w.connectionMap userId).elim [] w.received

/-- The ability of a user shows a session, or is to show it as soon as it is connected. -/
def shows (userId : UserId) (sessionId : String) : Bool :=
  match w.abilityStates userId with
  | .connecting => (w.connectionOf userId).any (·.sessionId = sessionId)
  | .connected => isShown (w.receivedBy userId) sessionId
  | _ => false

/-- A session says that its lyrics are visible. -/
def isVisible (sessionId : String) : Bool :=
  (w.sessions sessionId).any (·.isVisible)

/-- The ability of the current user and the sessions agree. -/
def InSync : Prop := ∀ sessionId, w.isVisible sessionId = w.shows w.currentUserId sessionId

/-- The recorded states are what the service was told of, no connection is alive but those that are
kept, and only lyrics that are enabled are visible. -/
structure Recorded : Prop where
  named : ∀ userId c, w.connectionMap userId = some c →
    ∃ connection, w.connections[c]? = some connection ∧ connection.userId = userId
  kept : ∀ c, w.bindings c ≠ .idle → ∃ userId, w.connectionMap userId = some c
  stands : ∀ userId, (w.abilityStates userId).Follows (w.bindingOf userId)
  enabled : ∀ sessionId session, w.sessions sessionId = some session → session.isVisible = true →
    session.isSupported = true ∧ session.isEnabled = true

/-- The recorded states are how things stand. -/
def Coherent : Prop := ∀ userId, (w.abilityStates userId).Matches (w.bindingOf userId)

/-- The step reports no connection that failed. -/
def ReportsNoFailure : Act → Prop
  | .onAbilityConnectDone _ remote _ => remote = true
  | _ => True

/-- What can happen: the identity of a session is new, and the ability manager reports what it has
been asked for. -/
def Regular : Act → Prop
  | .createNewSession sessionId _ => w.sessions sessionId = none
  | .onAbilityConnectDone c _ _ => w.bindings c = .connecting
  | .onAbilityDisconnectDone c => w.bindings c ≠ .idle
  | _ => True

/-- The steps that keep the sessions and the ability of the current user in agreement. -/
def Kept : Act → Prop
  | .destroyTask sessionId => w.isVisible sessionId = false
  | .enableDesktopLyric sessionId isEnabled => isEnabled = true ∨ w.isVisible sessionId = false
  | .setDesktopLyricVisible sessionId _ isVisible connects sent =>
      w.checkLyric sessionId true = .success →
        match w.abilityStates w.currentUserId with
        | .connecting => w.isVisible sessionId = isVisible
        | .connected =>
            w.isVisible sessionId = isVisible ∨
              sent = true ∧ (w.connectionOf w.currentUserId).any (·.proxy) = true
        | .disconnected => True
        | _ => isVisible = true → connects = true →
            (w.connectionOf w.currentUserId).all (·.sessionId = sessionId) = true
  | .onAbilityConnectDone c remote sent =>
      w.connectionMap w.currentUserId = some c → remote = true ∧ sent = true
  | .onAbilityDisconnectDone c =>
      w.connectionMap w.currentUserId = some c → ∀ sessionId, w.isVisible sessionId = false
  | .switchUser userId => ∀ sessionId, w.shows w.currentUserId sessionId = w.shows userId sessionId
  | .createNewSession _ _ | .setDesktopLyricState _ _ _ _ => True

end World

end shows

/-! ## What the operations do -/

section operations

namespace World

variable {w : World} {userId : UserId} {sessionId handler : String} {c : ConnectionRef}
  {connects sent : Bool}

/-- The two states in which an ability is asked for anew. -/
def Stopped (w : World) (userId : UserId) : Prop :=
  w.abilityStates userId = .default ∨ w.abilityStates userId = .disconnected

/-- Each user has a connection of its own. -/
theorem Recorded.unique (h : w.Recorded) {userId' : UserId} (hc : w.connectionMap userId = some c)
    (hc' : w.connectionMap userId' = some c) : userId = userId' := by
  obtain ⟨connection, hget, rfl⟩ := h.named userId c hc
  obtain ⟨connection', hget', rfl⟩ := h.named userId' c hc'
  rw [hget] at hget'
  exact congrArg _ (Option.some.inj hget')

/-- In every state but those two, the ability manager is still busy with the user. -/
theorem Recorded.busy (h : w.Recorded) (hstate : ¬ w.Stopped userId) :
    ∃ c, w.connectionMap userId = some c ∧
      (w.abilityStates userId = .connecting ∧ w.bindings c = .connecting ∨
        w.abilityStates userId = .connected ∧
          (w.bindings c = .connected ∨ w.bindings c = .failed)) := by
  have hstands := h.stands userId
  cases hmap : w.connectionMap userId with
  | none =>
      cases hs : w.abilityStates userId <;>
        simp_all [Stopped, bindingOf, AbilityState.Follows, AbilityState.Matches]
  | some c =>
      refine ⟨c, rfl, ?_⟩
      cases hs : w.abilityStates userId <;> cases hb : w.bindings c <;>
        simp_all [Stopped, bindingOf, AbilityState.Follows, AbilityState.Matches]

/-- A stopped ability has no binding under way. -/
theorem Recorded.bindingOf_of_stopped (h : w.Recorded) (hstate : w.Stopped userId) :
    w.bindingOf userId = .idle := by
  have hstands := h.stands userId
  rcases hstate with hs | hs <;> cases hb : w.bindingOf userId <;>
    simp_all [AbilityState.Follows, AbilityState.Matches]

/-- The fields that the sessions and their messages leave alone. -/
theorem Recorded.congr (h : w.Recorded) {w' : World} (hmap : w'.connectionMap = w.connectionMap)
    (hconnections : w'.connections = w.connections) (hbindings : w'.bindings = w.bindings)
    (hstates : w'.abilityStates = w.abilityStates)
    (henabled : ∀ sessionId session, w'.sessions sessionId = some session →
      session.isVisible = true → session.isSupported = true ∧ session.isEnabled = true) :
    w'.Recorded where
  named := by rw [hmap, hconnections]; exact h.named
  kept := by rw [hmap, hbindings]; exact h.kept
  stands userId := by
    rw [hstates, bindingOf, hmap, hbindings]
    exact h.stands userId
  enabled := henabled

/-- The recorded state of a user and the connection it keeps move together. -/
theorem Recorded.move (h : w.Recorded) {w' : World} (state : AbilityState) (binding : Binding)
    (hc : w.connectionMap userId = some c) (hfollows : state.Follows binding)
    (hmap : w'.connectionMap = w.connectionMap)
    (hnamed : ∀ connection, w.connections[c]? = some connection → connection.userId = userId →
      ∃ connection', w'.connections[c]? = some connection' ∧ connection'.userId = userId)
    (hconnections : ∀ c', c' ≠ c → w'.connections[c']? = w.connections[c']?)
    (hbindings : w'.bindings = Function.update w.bindings c binding)
    (hstates : w'.abilityStates = Function.update w.abilityStates userId state)
    (hsessions : w'.sessions = w.sessions) : w'.Recorded where
  named userId' c' hc' := by
    rw [hmap] at hc'
    obtain ⟨connection, hget, huser⟩ := h.named userId' c' hc'
    by_cases hcc : c' = c
    · subst hcc
      have huu := h.unique hc hc'
      subst huu
      exact hnamed connection hget huser
    · exact ⟨connection, (hconnections c' hcc).trans hget, huser⟩
  kept c' hc' := by
    rw [hmap]
    by_cases hcc : c' = c
    · exact ⟨userId, hcc ▸ hc⟩
    · rw [hbindings, Function.update_of_ne hcc] at hc'
      exact h.kept c' hc'
  stands userId' := by
    rw [hstates, bindingOf, hmap, hbindings]
    by_cases huu : userId' = userId
    · subst huu
      simpa [hc] using hfollows
    · have hstands := h.stands userId'
      rw [Function.update_of_ne huu]
      cases hc' : w.connectionMap userId' with
      | none => simpa [bindingOf, hc'] using hstands
      | some c' =>
          have hcc : c' ≠ c := by
            rintro rfl
            exact huu (h.unique hc' hc)
          simpa [bindingOf, hc', hcc] using hstands
  enabled := by rw [hsessions]; exact h.enabled

/-- What is taken is the connection that is kept from now on; a new one is asked for nothing yet,
and one that was kept already may be named after another session. -/
theorem takeConnection_spec (w : World) (sessionId handler : String) (userId : UserId)
    (shouldBeRecreated : Bool) :
    let r := w.takeConnection sessionId handler userId shouldBeRecreated
    r.1.connectionMap = Function.update w.connectionMap userId (some r.2) ∧
      r.1.bindings = w.bindings ∧ r.1.abilityStates = w.abilityStates ∧
      r.1.sessions = w.sessions ∧ r.1.received = w.received ∧
      r.1.currentUserId = w.currentUserId ∧
      ((shouldBeRecreated = false ∧ w.connectionMap userId = some r.2 ∧
          r.1.connections = w.connections) ∨
        ((shouldBeRecreated = true ∨ w.connectionMap userId = none) ∧
          r.2 = w.connections.length ∧
          r.1.connections = w.connections ++ [⟨sessionId, handler, userId, false⟩])) := by
  unfold takeConnection
  cases shouldBeRecreated with
  | true => simp
  | false =>
      cases hmap : w.connectionMap userId with
      | none => simp
      | some c => simp [← hmap]

/-- What is recorded of an ability does not matter to the connection. -/
theorem takeConnection_setAbilityState (w : World) (sessionId handler : String)
    (userId userId' : UserId) (state : AbilityState) (shouldBeRecreated : Bool) :
    let r := w.takeConnection sessionId handler userId shouldBeRecreated
    (w.setAbilityState userId' state).takeConnection sessionId handler userId shouldBeRecreated =
      (r.1.setAbilityState userId' state, r.2) := by
  unfold takeConnection setAbilityState
  cases shouldBeRecreated with
  | true => rfl
  | false => cases w.connectionMap userId <;> simp only

/-- An ability that is on its way is not asked for again. -/
theorem startDesktopLyricAbility_of_busy (hstate : ¬ w.Stopped w.currentUserId)
    (h : w.Recorded) :
    w.startDesktopLyricAbility sessionId handler connects = (w, .success) := by
  obtain ⟨c, -, ⟨hs, -⟩ | ⟨hs, -⟩⟩ := h.busy hstate <;>
    simp [startDesktopLyricAbility, hs]

/-- From a stopped state the start takes a new connection and waits for its answer. -/
theorem startDesktopLyricAbility_of_stopped (hstate : w.Stopped w.currentUserId) :
    let r := w.takeConnection sessionId handler w.currentUserId
      (w.abilityStates w.currentUserId == .disconnected)
    w.startDesktopLyricAbility sessionId handler connects =
      if connects then
        ({ r.1 with
            abilityStates := Function.update w.abilityStates w.currentUserId .connecting
            bindings := Function.update w.bindings r.2 .connecting }, .success)
      else
        ({ r.1 with
            abilityStates := Function.update w.abilityStates w.currentUserId .default },
          .error) := by
  rcases hstate with hs | hs <;> cases connects <;>
    simp only [startDesktopLyricAbility, connectAbility, hs, takeConnection_setAbilityState] <;>
    simp [setAbilityState, takeConnection_spec]

end World

end operations

/-! ## The states are how things stand -/

section recorded

namespace World

variable {w : World} {userId : UserId} {sessionId handler : String} {c : ConnectionRef}
  {connects sent : Bool}

/-- An identity that is kept for nobody has been asked for nothing. -/
theorem Recorded.idle_of_forall_ne (h : w.Recorded)
    (hc : ∀ userId, w.connectionMap userId ≠ some c) : w.bindings c = .idle := by
  by_contra hne
  obtain ⟨userId, hmap⟩ := h.kept c hne
  exact hc userId hmap

/-- The number of the next connection is nobody's yet. -/
theorem Recorded.ne_length (h : w.Recorded) (userId : UserId) :
    w.connectionMap userId ≠ some w.connections.length := by
  intro hmap
  obtain ⟨connection, hget, -⟩ := h.named userId _ hmap
  simp at hget

/-- Taking a new connection for a stopped user keeps the records right. -/
theorem Recorded.takeConnection (h : w.Recorded) (hstate : w.Stopped userId)
    (sessionId handler : String) (shouldBeRecreated : Bool) :
    let r := w.takeConnection sessionId handler userId shouldBeRecreated
    r.1.Recorded ∧ r.1.bindings r.2 = .idle := by
  intro r
  obtain ⟨hmap, hbindings, hstates, hsessions, -, -, hconnections⟩ :=
    takeConnection_spec w sessionId handler userId shouldBeRecreated
  have hbinding := h.bindingOf_of_stopped hstate
  have hidle : w.bindings r.2 = .idle := by
    rcases hconnections with ⟨-, hold, -⟩ | ⟨-, hnew, -⟩
    · simpa [bindingOf, hold] using hbinding
    · exact hnew ▸ h.idle_of_forall_ne h.ne_length
  have hother : ∀ userId', userId' ≠ userId → r.1.connectionMap userId' =
      w.connectionMap userId' := by
    intro userId' hne
    rw [hmap, Function.update_of_ne hne]
  refine ⟨⟨?_, ?_, ?_, by rw [hsessions]; exact h.enabled⟩, by rw [hbindings]; exact hidle⟩
  · intro userId' c' hc'
    by_cases huu : userId' = userId
    · subst huu
      rw [hmap, Function.update_self] at hc'
      cases hc'
      rcases hconnections with ⟨-, hold, hsame⟩ | ⟨-, hnew, happend⟩
      · rw [hsame]
        exact h.named userId' _ hold
      · rw [happend, hnew]
        exact ⟨_, List.getElem?_concat_length, rfl⟩
    · rw [hother userId' huu] at hc'
      obtain ⟨connection, hget, huser⟩ := h.named userId' c' hc'
      refine ⟨connection, ?_, huser⟩
      rcases hconnections with ⟨-, -, hsame⟩ | ⟨-, -, happend⟩
      · rw [hsame]
        exact hget
      · rw [happend, List.getElem?_append_left (List.getElem?_eq_some_iff.mp hget).1]
        exact hget
  · intro c' hc'
    rw [hbindings] at hc'
    obtain ⟨userId', hold⟩ := h.kept c' hc'
    have huu : userId' ≠ userId := by
      rintro rfl
      exact hc' (by simpa [bindingOf, hold] using hbinding)
    exact ⟨userId', (hother userId' huu).trans hold⟩
  · intro userId'
    rw [hstates, bindingOf, hbindings]
    by_cases huu : userId' = userId
    · subst huu
      have hstands := h.stands userId'
      rw [hbinding] at hstands
      rw [hmap, Function.update_self]
      exact hidle ▸ hstands
    · rw [hother userId' huu]
      exact h.stands userId'

/-- StartDesktopLyricAbility keeps the records right, whether it connects or not. -/
theorem Recorded.startDesktopLyricAbility (h : w.Recorded) (sessionId handler : String)
    (connects : Bool) :
    (w.startDesktopLyricAbility sessionId handler connects).1.Recorded := by
  by_cases hstate : w.Stopped w.currentUserId
  · obtain ⟨htaken, hidle⟩ := h.takeConnection hstate sessionId handler
      (w.abilityStates w.currentUserId == .disconnected)
    obtain ⟨hmap, -, hstates, -⟩ := takeConnection_spec w sessionId handler w.currentUserId
      (w.abilityStates w.currentUserId == .disconnected)
    rw [startDesktopLyricAbility_of_stopped hstate]
    cases connects with
    | true =>
        refine htaken.move .connecting .connecting
          (by rw [hmap, Function.update_self]) (.inl trivial) rfl
          (fun connection hget huser => ⟨connection, hget, huser⟩) (fun _ _ => rfl) ?_ ?_ rfl
        · exact congrArg (Function.update · _ _) (takeConnection_spec ..).2.1.symm
        · exact congrArg (Function.update · _ _) hstates.symm
    | false =>
        refine htaken.move .default .idle
          (by rw [hmap, Function.update_self]) (.inl trivial) rfl
          (fun connection hget huser => ⟨connection, hget, huser⟩) (fun _ _ => rfl) ?_ ?_ rfl
        · exact (Function.update_eq_self_iff.mpr hidle.symm).symm
        · exact congrArg (Function.update · _ _) hstates.symm
  · rw [startDesktopLyricAbility_of_busy hstate h]
    exact h

/-- A call of a session is about its own lyrics. -/
theorem startDesktopLyricAbility_sessions (h : w.Recorded) (sessionId handler : String)
    (connects : Bool) :
    (w.startDesktopLyricAbility sessionId handler connects).1.sessions = w.sessions ∧
      (w.startDesktopLyricAbility sessionId handler connects).1.currentUserId =
        w.currentUserId := by
  by_cases hstate : w.Stopped w.currentUserId
  · obtain ⟨-, -, -, hsessions, -, huser, -⟩ := takeConnection_spec w sessionId handler
      w.currentUserId (w.abilityStates w.currentUserId == .disconnected)
    rw [startDesktopLyricAbility_of_stopped hstate]
    cases connects <;> exact ⟨hsessions, huser⟩
  · rw [startDesktopLyricAbility_of_busy hstate h]
    exact ⟨rfl, rfl⟩

/-- A message arrives if there is somebody to receive it. -/
theorem sendOperationInfo_eq (w : World) (c : ConnectionRef) (op : Operation) (sent : Bool) :
    w.sendOperationInfo c op sent =
      { w with received :=
          if (w.connections[c]?).any (·.proxy) && sent then
            Function.update w.received c (w.received c ++ [op])
          else w.received } := by
  unfold sendOperationInfo
  cases w.connections[c]? with
  | none => rfl
  | some connection => cases h : connection.proxy && sent <;> simp [h]

/-- Without a connected ability nothing is uploaded. -/
theorem uploadDesktopLyricOperationInfo_of_ne
    (hstate : w.abilityStates w.currentUserId ≠ .connected) (op : Operation) :
    w.uploadDesktopLyricOperationInfo op sent = w := by
  cases hs : w.abilityStates w.currentUserId <;>
    simp_all [uploadDesktopLyricOperationInfo]

/-- With a connected ability the operation goes to its connection. -/
theorem uploadDesktopLyricOperationInfo_of_connected
    (hstate : w.abilityStates w.currentUserId = .connected)
    (hc : w.connectionMap w.currentUserId = some c) (op : Operation) :
    w.uploadDesktopLyricOperationInfo op sent = w.sendOperationInfo c op sent := by
  simp only [uploadDesktopLyricOperationInfo, hstate, hc]

/-- A message changes nothing but what the abilities have received. -/
theorem uploadDesktopLyricOperationInfo_frame (w : World) (op : Operation) (sent : Bool) :
    ∃ received, w.uploadDesktopLyricOperationInfo op sent = { w with received } := by
  by_cases hstate : w.abilityStates w.currentUserId = .connected
  · cases hc : w.connectionMap w.currentUserId with
    | none =>
        refine ⟨w.received, ?_⟩
        simp only [uploadDesktopLyricOperationInfo, hstate, hc]
    | some c =>
        rw [uploadDesktopLyricOperationInfo_of_connected hstate hc, sendOperationInfo_eq]
        exact ⟨_, rfl⟩
  · exact ⟨w.received, uploadDesktopLyricOperationInfo_of_ne hstate op⟩

/-- An upload keeps the records right. -/
theorem Recorded.upload (h : w.Recorded) (op : Operation) (sent : Bool) :
    (w.uploadDesktopLyricOperationInfo op sent).Recorded := by
  obtain ⟨received, heq⟩ := uploadDesktopLyricOperationInfo_frame w op sent
  rw [heq]
  exact h.congr rfl rfl rfl rfl h.enabled

/-- A session that passes the check exists and supports the desktop lyric. -/
theorem checkLyric_success {needsEnabled : Bool}
    (h : w.checkLyric sessionId needsEnabled = .success) :
    ∃ session, w.sessions sessionId = some session ∧ session.isSupported = true ∧
      (needsEnabled = true → session.isEnabled = true) := by
  unfold checkLyric at h
  cases hsession : w.sessions sessionId with
  | none => simp [hsession] at h
  | some session =>
      refine ⟨session, rfl, ?_⟩
      cases needsEnabled <;> cases hs : session.isSupported <;> cases he : session.isEnabled <;>
        simp_all

/-- A session is changed in a way that leaves visible only what is enabled. -/
theorem Recorded.modifySession (h : w.Recorded) {f : LyricSession → LyricSession}
    (hf : ∀ session, w.sessions sessionId = some session → (f session).isVisible = true →
      (f session).isSupported = true ∧ (f session).isEnabled = true) :
    (w.modifySession sessionId f).Recorded := by
  refine h.congr rfl rfl rfl rfl ?_
  intro sessionId' session hsession
  by_cases hss : sessionId' = sessionId
  · subst hss
    simp only [World.modifySession, Function.update_self, Option.map_eq_some_iff] at hsession
    obtain ⟨old, hold, rfl⟩ := hsession
    exact hf old hold
  · simp only [World.modifySession, Function.update_of_ne hss] at hsession
    exact h.enabled sessionId' session hsession

/-- EnableDesktopLyric keeps the records right. -/
theorem Recorded.enableDesktopLyric (h : w.Recorded) (isEnabled : Bool) :
    (w.enableDesktopLyric sessionId isEnabled).1.Recorded := by
  unfold World.enableDesktopLyric
  split
  · refine h.modifySession ?_
    intro session hsession hvisible
    cases isEnabled with
    | true => exact ⟨(h.enabled sessionId session hsession hvisible).1, rfl⟩
    | false => cases hvisible
  · exact h

/-- SetDesktopLyricVisibleInner keeps the records right. -/
theorem Recorded.setDesktopLyricVisibleInner (h : w.Recorded) (isVisible : Bool) :
    (w.setDesktopLyricVisibleInner sessionId handler isVisible connects sent).1.Recorded := by
  unfold World.setDesktopLyricVisibleInner
  cases hcheck : w.checkLyric sessionId true with
  | success =>
      obtain ⟨session, hsession, hsupported, henabled⟩ := checkLyric_success hcheck
      -- the session is as it was, whether or not the ability had to be started
      have hset : ∀ w' : World, w'.Recorded → w'.sessions = w.sessions → ∀ op,
          (uploadDesktopLyricOperationInfo
            (w'.modifySession sessionId fun session => { session with isVisible })
            op sent).Recorded := by
        intro w' hw' hsessions op
        refine (hw'.modifySession ?_).upload op sent
        intro session' hsession'
        rw [hsessions, hsession] at hsession'
        cases hsession'
        exact fun _ => ⟨hsupported, henabled rfl⟩
      cases isVisible with
      | true =>
          have hstart := h.startDesktopLyricAbility sessionId handler connects
          have hsessions := (startDesktopLyricAbility_sessions h sessionId handler connects).1
          cases hr : w.startDesktopLyricAbility sessionId handler connects with
          | mk w' ret =>
              rw [hr] at hstart hsessions
              cases ret with
              | success => simpa [hr] using hset w' hstart hsessions _
              | _ => simpa [hr] using hstart
      | false => exact hset w h rfl _
  | _ => exact h

/-- SetDesktopLyricStateInner keeps the records right. -/
theorem Recorded.setDesktopLyricStateInner (h : w.Recorded) (isLocked : Bool) :
    (w.setDesktopLyricStateInner sessionId handler isLocked sent).1.Recorded := by
  unfold World.setDesktopLyricStateInner
  split
  · refine (h.modifySession ?_).upload _ sent
    exact fun session hsession hvisible => h.enabled sessionId session hsession hvisible
  · exact h

/-- What the ability manager's reports do to the world. -/
theorem onAbilityConnectDone_eq {connection : CallConnection}
    (hget : w.connections[c]? = some connection) (remote sent : Bool) :
    w.onAbilityConnectDone c remote sent =
      { w with
          abilityStates := Function.update w.abilityStates connection.userId .connected
          connections := w.connections.modify c fun connection =>
            { connection with proxy := remote }
          bindings := Function.update w.bindings c (if remote then .connected else .failed)
          received := Function.update w.received c
            (if remote && sent then [⟨connection.sessionId, connection.handler, .openLyric⟩]
            else []) } := by
  simp only [onAbilityConnectDone, hget, setProxy, setAbilityState, sendOperationInfo_eq,
    List.getElem?_modify_eq]
  cases remote <;> cases sent <;> simp

/-- A disconnect is recorded with the user whose connection it was. -/
theorem onAbilityDisconnectDone_eq {connection : CallConnection}
    (hget : w.connections[c]? = some connection) :
    w.onAbilityDisconnectDone c =
      { w with
          abilityStates := Function.update w.abilityStates connection.userId .disconnected
          connections := w.connections.modify c fun connection =>
            { connection with proxy := false }
          bindings := Function.update w.bindings c .idle } := by
  simp only [onAbilityDisconnectDone, hget, setProxy, setAbilityState]

/-- A connection that has been asked for something is kept for the user it names. -/
theorem Recorded.exists_connection (h : w.Recorded) (hc : w.bindings c ≠ .idle) :
    ∃ connection, w.connections[c]? = some connection ∧
      w.connectionMap connection.userId = some c := by
  obtain ⟨userId, hmap⟩ := h.kept c hc
  obtain ⟨connection, hget, rfl⟩ := h.named userId c hmap
  exact ⟨connection, hget, hmap⟩

/-- A change of the proxy alone. -/
theorem getElem?_modify_proxy (connections : List CallConnection) (c : ConnectionRef)
    (proxy : Bool) : ∀ connection, connections[c]? = some connection →
      connection.userId = userId → ∃ connection',
        (connections.modify c fun connection => { connection with proxy })[c]? =
          some connection' ∧ connection'.userId = userId := by
  intro connection hget huser
  exact ⟨{ connection with proxy }, by simp [hget], huser⟩

/-- Every regular step keeps the records right. -/
theorem Recorded.step (h : w.Recorded) {a : Act} (hregular : w.Regular a) :
    (w.step a).Recorded := by
  cases a with
  | createNewSession sessionId isSupported =>
      refine h.congr rfl rfl rfl rfl ?_
      intro sessionId' session hsession hvisible
      by_cases hss : sessionId' = sessionId
      · simp [World.step, createNewSession, hss] at hsession
        simp [← hsession] at hvisible
      · simp [World.step, createNewSession, hss] at hsession
        exact h.enabled sessionId' session hsession hvisible
  | destroyTask sessionId =>
      refine h.congr rfl rfl rfl rfl ?_
      intro sessionId' session hsession
      by_cases hss : sessionId' = sessionId
      · simp [World.step, destroyTask, hss] at hsession
      · simp [World.step, destroyTask, hss] at hsession
        exact h.enabled sessionId' session hsession
  | enableDesktopLyric sessionId isEnabled => exact h.enableDesktopLyric isEnabled
  | setDesktopLyricVisible sessionId handler isVisible connects sent =>
      exact h.setDesktopLyricVisibleInner isVisible
  | setDesktopLyricState sessionId handler isLocked sent =>
      exact h.setDesktopLyricStateInner isLocked
  | onAbilityConnectDone c remote sent =>
      have hbusy : w.bindings c ≠ .idle := by
        rw [show w.bindings c = .connecting from hregular]
        exact nofun
      obtain ⟨connection, hget, hmap⟩ := h.exists_connection hbusy
      rw [World.step, onAbilityConnectDone_eq hget]
      have hfollows : AbilityState.connected.Follows (if remote then .connected else .failed) := by
        cases remote with
        | true => exact .inl trivial
        | false => exact .inr ⟨rfl, rfl⟩
      exact h.move .connected _ hmap hfollows rfl
        (getElem?_modify_proxy w.connections c remote)
        (fun c' hne => List.getElem?_modify_ne _ _ hne.symm) rfl rfl rfl
  | onAbilityDisconnectDone c =>
      obtain ⟨connection, hget, hmap⟩ := h.exists_connection hregular
      rw [World.step, onAbilityDisconnectDone_eq hget]
      exact h.move .disconnected .idle hmap (.inl trivial) rfl
        (getElem?_modify_proxy w.connections c false)
        (fun c' hne => List.getElem?_modify_ne _ _ hne.symm) rfl rfl rfl
  | switchUser userId => exact h.congr rfl rfl rfl rfl h.enabled

/-- At the start there is nothing recorded. -/
theorem recorded_init (currentUserId : UserId) : (World.init currentUserId).Recorded where
  named := nofun
  kept _ hc := absurd rfl hc
  stands _ := .inl trivial
  enabled := nofun

end World

end recorded

/-! ## While no connection fails -/

section coherent

namespace World

variable {w : World} {userId : UserId} {sessionId handler : String} {c : ConnectionRef}
  {connects sent : Bool}

/-- No connection has failed. -/
def NoFailure (w : World) : Prop := ∀ c, w.bindings c ≠ .failed

/-- The recorded states are how things stand as long as no connection has failed. -/
theorem Recorded.coherent_iff_noFailure (h : w.Recorded) : w.Coherent ↔ w.NoFailure := by
  constructor
  · intro hall c hc
    have hbusy : w.bindings c ≠ .idle := by
      rw [hc]
      exact nofun
    obtain ⟨userId, hmap⟩ := h.kept c hbusy
    have hmatches := AbilityState.matches_iff.mp (hall userId)
    rw [bindingOf, hmap, Option.elim_some] at hmatches
    exact hmatches.2 hc
  · intro hnone userId
    refine AbilityState.matches_iff.mpr ⟨h.stands userId, ?_⟩
    cases hmap : w.connectionMap userId with
    | none => simp [bindingOf, hmap]
    | some c => simpa [bindingOf, hmap] using hnone c

/-- Where one connection changes, it decides. -/
theorem NoFailure.update_iff (hnone : w.NoFailure) (c : ConnectionRef) (binding : Binding) :
    (∀ c', Function.update w.bindings c binding c' ≠ .failed) ↔ binding ≠ .failed := by
  constructor
  · intro hall
    have hc := hall c
    rwa [Function.update_self] at hc
  · intro hne c'
    by_cases hcc : c' = c
    · rw [hcc, Function.update_self]
      exact hne
    · rw [Function.update_of_ne hcc]
      exact hnone c'

/-- A request to connect is no failure. -/
theorem NoFailure.startDesktopLyricAbility (h : w.Recorded) (hnone : w.NoFailure)
    (sessionId handler : String) (connects : Bool) :
    (w.startDesktopLyricAbility sessionId handler connects).1.NoFailure := by
  by_cases hstate : w.Stopped w.currentUserId
  · obtain ⟨-, hbindings, -⟩ := takeConnection_spec w sessionId handler w.currentUserId
      (w.abilityStates w.currentUserId == .disconnected)
    rw [startDesktopLyricAbility_of_stopped hstate]
    cases connects with
    | true => exact (hnone.update_iff _ .connecting).mpr nofun
    | false =>
        intro c
        simp only [Bool.false_eq_true, if_false, hbindings]
        exact hnone c
  · rw [startDesktopLyricAbility_of_busy hstate h]
    exact hnone

/-- Nor is a message. -/
theorem NoFailure.upload (hnone : w.NoFailure) (op : Operation) (sent : Bool) :
    (w.uploadDesktopLyricOperationInfo op sent).NoFailure := by
  obtain ⟨received, heq⟩ := uploadDesktopLyricOperationInfo_frame w op sent
  rw [heq]
  exact hnone

/-- A visibility request adds no failure. -/
theorem NoFailure.setDesktopLyricVisibleInner (h : w.Recorded) (hnone : w.NoFailure)
    (isVisible : Bool) :
    (w.setDesktopLyricVisibleInner sessionId handler isVisible connects sent).1.NoFailure := by
  unfold World.setDesktopLyricVisibleInner
  split
  · cases isVisible with
    | true =>
        have hstart := hnone.startDesktopLyricAbility h sessionId handler connects
        rcases hr : w.startDesktopLyricAbility sessionId handler connects with ⟨w', ret⟩
        rw [hr] at hstart
        cases ret with
        | success => exact NoFailure.upload (w := w'.modifySession sessionId _) hstart _ sent
        | _ => exact hstart
    | false => exact NoFailure.upload (w := w.modifySession sessionId _) hnone _ sent
  · exact hnone

/-- A lock request adds no failure. -/
theorem NoFailure.setDesktopLyricStateInner (hnone : w.NoFailure) (isLocked : Bool) :
    (w.setDesktopLyricStateInner sessionId handler isLocked sent).1.NoFailure := by
  unfold World.setDesktopLyricStateInner
  split
  · exact NoFailure.upload (w := w.modifySession sessionId _) hnone _ sent
  · exact hnone

/-- Enabling adds no failure. -/
theorem NoFailure.enableDesktopLyric (hnone : w.NoFailure) (isEnabled : Bool) :
    (w.enableDesktopLyric sessionId isEnabled).1.NoFailure := by
  unfold World.enableDesktopLyric
  split <;> exact hnone

/-- **A failure.** It is the report of one, and nothing else. -/
theorem noFailure_step_iff (h : w.Recorded) (hnone : w.NoFailure) {a : Act}
    (hregular : w.Regular a) : (w.step a).NoFailure ↔ ReportsNoFailure a := by
  cases a with
  | createNewSession sessionId isSupported => exact iff_of_true hnone trivial
  | destroyTask sessionId => exact iff_of_true hnone trivial
  | enableDesktopLyric sessionId isEnabled =>
      exact iff_of_true (hnone.enableDesktopLyric isEnabled) trivial
  | setDesktopLyricVisible sessionId handler isVisible connects sent =>
      exact iff_of_true (hnone.setDesktopLyricVisibleInner h isVisible) trivial
  | setDesktopLyricState sessionId handler isLocked sent =>
      exact iff_of_true (hnone.setDesktopLyricStateInner isLocked) trivial
  | onAbilityConnectDone c remote sent =>
      have hbusy : w.bindings c ≠ .idle := by
        rw [show w.bindings c = .connecting from hregular]
        exact nofun
      obtain ⟨connection, hget, -⟩ := h.exists_connection hbusy
      rw [World.step, onAbilityConnectDone_eq hget]
      refine (hnone.update_iff c _).trans ?_
      cases remote with
      | true => exact iff_of_true nofun rfl
      | false => exact iff_of_false (absurd rfl) nofun
  | onAbilityDisconnectDone c =>
      obtain ⟨connection, hget, -⟩ := h.exists_connection hregular
      rw [World.step, onAbilityDisconnectDone_eq hget]
      exact (hnone.update_iff c .idle).trans (iff_of_true nofun trivial)
  | switchUser userId => exact iff_of_true hnone trivial

/-- One step, from a state in which the recorded states are how things stand. -/
theorem coherent_step_iff (h : w.Recorded) (hcoherent : w.Coherent) {a : Act}
    (hregular : w.Regular a) : (w.step a).Coherent ↔ ReportsNoFailure a := by
  rw [(h.step hregular).coherent_iff_noFailure]
  exact noFailure_step_iff h (h.coherent_iff_noFailure.mp hcoherent) hregular

end World

end coherent

/-! ## What an operation does to the agreement -/

section sync

namespace World

variable {w : World} {userId : UserId} {sessionId handler : String} {c : ConnectionRef}
  {isVisible connects sent : Bool}

/-- Where nothing has changed but what concerns one session, that session decides. -/
theorem InSync.iff_of_one (h : w.InSync) (w' : World) (sessionId : String)
    (huser : w'.currentUserId = w.currentUserId)
    (hvisible : ∀ sessionId', sessionId' ≠ sessionId →
      w'.isVisible sessionId' = w.isVisible sessionId')
    (hshows : ∀ sessionId', sessionId' ≠ sessionId →
      w'.shows w.currentUserId sessionId' = w.shows w.currentUserId sessionId') :
    w'.InSync ↔ w'.isVisible sessionId = w'.shows w.currentUserId sessionId := by
  unfold InSync
  rw [huser]
  constructor
  · intro hall
    exact hall sessionId
  · intro hone sessionId'
    by_cases hss : sessionId' = sessionId
    · exact hss ▸ hone
    · rw [hvisible sessionId' hss, hshows sessionId' hss]
      exact h sessionId'

/-- A change of one session's record decides that session's visibility only. -/
theorem isVisible_modifySession (w : World) (sessionId sessionId' : String)
    (f : LyricSession → LyricSession) :
    (w.modifySession sessionId f).isVisible sessionId' =
      if sessionId' = sessionId then (w.sessions sessionId).any fun session => (f session).isVisible
      else w.isVisible sessionId' := by
  by_cases hss : sessionId' = sessionId
  · subst hss
    simp [World.isVisible, modifySession, Option.any_map]
  · simp [World.isVisible, modifySession, hss]

/-- A stopped ability shows no session. -/
theorem shows_of_stopped (hstate : w.Stopped userId) (sessionId : String) :
    w.shows userId sessionId = false := by
  rcases hstate with hs | hs <;> simp [shows, hs]

/-- The user's connection is the one its map entry names. -/
theorem connectionOf_eq (hc : w.connectionMap userId = some c) :
    w.connectionOf userId = w.connections[c]? := by
  simp [connectionOf, hc]

/-- What a message does to what is shown. -/
theorem shows_uploadDesktopLyricOperationInfo (h : w.Recorded)
    (hstate : w.abilityStates w.currentUserId = .connected) (op : Operation) (sent : Bool)
    (sessionId : String) :
    (w.uploadDesktopLyricOperationInfo op sent).shows w.currentUserId sessionId =
      if (sent = true ∧ (w.connectionOf w.currentUserId).any (·.proxy) = true) ∧
          op.sessionId = sessionId then
        op.apply (w.shows w.currentUserId sessionId)
      else w.shows w.currentUserId sessionId := by
  have hbusy : ¬ w.Stopped w.currentUserId := by simp [Stopped, hstate]
  obtain ⟨c, hc, -⟩ := h.busy hbusy
  rw [uploadDesktopLyricOperationInfo_of_connected hstate hc, sendOperationInfo_eq,
    connectionOf_eq hc]
  cases hproxy : (w.connections[c]?).any (·.proxy) <;> cases sent <;>
    simp [shows, hstate, receivedBy, hc]

/-- What a session says of itself, and what it tells the ability. -/
def setVisible (w : World) (sessionId : String) (isVisible : Bool) : World :=
  w.modifySession sessionId fun session => { session with isVisible }

def visibilityOperation (sessionId handler : String) (isVisible : Bool) : Operation :=
  ⟨sessionId, handler, if isVisible then .openLyric else .closeLyric⟩

/-- A visibility operation overrides what was shown before. -/
@[simp] theorem visibilityOperation_apply (b : Bool) :
    (visibilityOperation sessionId handler isVisible).apply b = isVisible := by
  cases isVisible <;> rfl

/-- Setting the flag of a session that passes the check sets that one alone. -/
theorem setVisible_isVisible (hcheck : w.checkLyric sessionId true = .success)
    (isVisible : Bool) (sessionId' : String) :
    (w.setVisible sessionId isVisible).isVisible sessionId' =
      if sessionId' = sessionId then isVisible else w.isVisible sessionId' := by
  obtain ⟨session, hsession, -⟩ := checkLyric_success hcheck
  simp [setVisible, isVisible_modifySession, hsession]

/-- Setting a flag keeps the records right. -/
theorem Recorded.setVisible (h : w.Recorded) (hcheck : w.checkLyric sessionId true = .success)
    (isVisible : Bool) : (w.setVisible sessionId isVisible).Recorded := by
  obtain ⟨session, hsession, hsupported, henabled⟩ := checkLyric_success hcheck
  refine h.modifySession ?_
  intro session' hsession' _
  rw [hsession] at hsession'
  cases hsession'
  exact ⟨hsupported, henabled rfl⟩

/-- An upload changes nobody's flag. -/
theorem upload_isVisible (w : World) (op : Operation) (sessionId : String) :
    (w.uploadDesktopLyricOperationInfo op sent).isVisible sessionId = w.isVisible sessionId := by
  obtain ⟨received, hframe⟩ := uploadDesktopLyricOperationInfo_frame w op sent
  rw [hframe]
  rfl

/-- With the ability not stopped the request sets the flag and uploads the operation. -/
theorem setDesktopLyricVisibleInner_of_busy (h : w.Recorded)
    (hcheck : w.checkLyric sessionId true = .success) (hstate : ¬ w.Stopped w.currentUserId) :
    (w.setDesktopLyricVisibleInner sessionId handler isVisible connects sent).1 =
      (w.setVisible sessionId isVisible).uploadDesktopLyricOperationInfo
        (visibilityOperation sessionId handler isVisible) sent := by
  cases isVisible <;>
    simp [setDesktopLyricVisibleInner, hcheck, startDesktopLyricAbility_of_busy hstate h] <;> rfl

/-- A stopped ability is not a connected one. -/
theorem ne_connected_of_stopped (hstate : w.Stopped userId) :
    w.abilityStates userId ≠ .connected := by
  rcases hstate with hs | hs <;> rw [hs] <;> exact nofun

/-- A new session is not visible, so nothing has to be shown for it. -/
theorem inSync_createNewSession (hsync : w.InSync) (isSupported : Bool)
    (hnew : w.sessions sessionId = none) : (w.createNewSession sessionId isSupported).InSync := by
  refine (hsync.iff_of_one (w.createNewSession sessionId isSupported) sessionId rfl ?_
    fun _ _ => rfl).mpr ?_
  · intro sessionId' hne
    simp [World.isVisible, createNewSession, hne]
  · have hold := hsync sessionId
    simp only [World.isVisible, hnew, Option.any_none] at hold
    rw [show (w.createNewSession sessionId isSupported).shows w.currentUserId sessionId =
      w.shows w.currentUserId sessionId from rfl, ← hold]
    simp [World.isVisible, createNewSession]

/-- The ability is not told that a session goes, so only a hidden one goes in step. -/
theorem inSync_destroyTask (hsync : w.InSync) :
    (w.destroyTask sessionId).InSync ↔ w.isVisible sessionId = false := by
  refine (hsync.iff_of_one (w.destroyTask sessionId) sessionId rfl ?_ fun _ _ => rfl).trans ?_
  · intro sessionId' hne
    simp [World.isVisible, destroyTask, hne]
  · rw [show (w.destroyTask sessionId).shows w.currentUserId sessionId =
      w.shows w.currentUserId sessionId from rfl, ← hsync sessionId]
    have hgone : (w.destroyTask sessionId).isVisible sessionId = false := by
      simp [World.isVisible, destroyTask]
    rw [hgone]
    exact eq_comm

/-- Disabling clears the flag without a word to the ability. -/
theorem inSync_enableDesktopLyric (h : w.Recorded) (hsync : w.InSync) (isEnabled : Bool) :
    (w.enableDesktopLyric sessionId isEnabled).1.InSync ↔
      isEnabled = true ∨ w.isVisible sessionId = false := by
  cases hcheck : w.checkLyric sessionId false with
  | success =>
      simp only [enableDesktopLyric, hcheck]
      refine (hsync.iff_of_one (w.modifySession sessionId _) sessionId rfl ?_
        fun _ _ => rfl).trans ?_
      · intro sessionId' hne
        rw [isVisible_modifySession, if_neg hne]
      · rw [isVisible_modifySession, if_pos rfl]
        change _ = w.shows w.currentUserId sessionId ↔ _
        rw [← hsync sessionId]
        cases isEnabled with
        | true => simp [World.isVisible]
        | false =>
            have hgone : ((w.sessions sessionId).any fun _ => false) = false := by
              cases w.sessions sessionId <;> rfl
            simp only [Bool.false_eq_true, if_false, hgone, false_or]
            exact eq_comm
  | _ =>
      -- only what is supported is visible, and the call is refused otherwise
      have hinvisible : w.isVisible sessionId = false := by
        by_contra hne
        obtain ⟨session, hsession, hvisible⟩ :=
          (Option.any_eq_true _ _).mp (Bool.not_eq_false _ ▸ hne)
        have hsupported := (h.enabled sessionId session hsession hvisible).1
        simp [checkLyric, hsession, hsupported] at hcheck
      simpa [enableDesktopLyric, hcheck, hinvisible] using hsync

/-- With the ability not stopped the flag is followed when the upload reaches it. -/
theorem inSync_setDesktopLyricVisible_of_busy (h : w.Recorded) (hsync : w.InSync)
    (hcheck : w.checkLyric sessionId true = .success) (hstate : ¬ w.Stopped w.currentUserId) :
    (w.setDesktopLyricVisibleInner sessionId handler isVisible connects sent).1.InSync ↔
      w.isVisible sessionId = isVisible ∨ w.abilityStates w.currentUserId = .connected ∧
        sent = true ∧ (w.connectionOf w.currentUserId).any (·.proxy) = true := by
  rw [setDesktopLyricVisibleInner_of_busy h hcheck hstate]
  have hvisible := setVisible_isVisible hcheck isVisible
  by_cases hconnected : w.abilityStates w.currentUserId = .connected
  · have hshows := shows_uploadDesktopLyricOperationInfo (h.setVisible hcheck isVisible) hconnected
      (visibilityOperation sessionId handler isVisible) sent
    have huser : ((w.setVisible sessionId isVisible).uploadDesktopLyricOperationInfo
        (visibilityOperation sessionId handler isVisible) sent).currentUserId =
          w.currentUserId := by
      obtain ⟨received, hframe⟩ := uploadDesktopLyricOperationInfo_frame
        (w.setVisible sessionId isVisible) (visibilityOperation sessionId handler isVisible) sent
      rw [hframe]
      rfl
    refine (hsync.iff_of_one _ sessionId huser ?_ ?_).trans ?_
    · intro sessionId' hne
      rw [upload_isVisible, hvisible, if_neg hne]
    · intro sessionId' hne
      refine (hshows sessionId').trans ?_
      rw [if_neg fun hand => hne hand.2.symm]
      rfl
    · rw [upload_isVisible, hvisible, if_pos rfl]
      refine (iff_of_eq (congrArg _ (hshows sessionId))).trans ?_
      rw [visibilityOperation_apply]
      change isVisible = (if (sent = true ∧ (w.connectionOf w.currentUserId).any (·.proxy) = true) ∧
        sessionId = sessionId then isVisible else w.shows w.currentUserId sessionId) ↔ _
      rw [← hsync sessionId]
      by_cases harrives : sent = true ∧ (w.connectionOf w.currentUserId).any (·.proxy) = true
      · simp [harrives, hconnected]
      · simp only [harrives, hconnected, false_and, and_false, if_false, or_false]
        exact eq_comm
  · have hne : (w.setVisible sessionId isVisible).abilityStates
        (w.setVisible sessionId isVisible).currentUserId ≠ .connected := hconnected
    rw [uploadDesktopLyricOperationInfo_of_ne hne]
    refine (hsync.iff_of_one (w.setVisible sessionId isVisible) sessionId rfl ?_
      fun _ _ => rfl).trans ?_
    · intro sessionId' hne
      rw [hvisible, if_neg hne]
    · rw [hvisible, if_pos rfl]
      change isVisible = w.shows w.currentUserId sessionId ↔ _
      rw [← hsync sessionId]
      simp only [hconnected, false_and, or_false]
      exact eq_comm

/-- The ability manager does not take the request. -/
theorem startDesktopLyricAbility_fails (hstate : w.Stopped w.currentUserId)
    (sessionId handler : String) :
    let r := w.startDesktopLyricAbility sessionId handler false
    r = (r.1, .error) ∧ r.1.sessions = w.sessions ∧ r.1.currentUserId = w.currentUserId ∧
      r.1.abilityStates w.currentUserId = .default := by
  intro r
  obtain ⟨-, -, -, hsessions, -, huser, -⟩ := takeConnection_spec w sessionId handler
    w.currentUserId (w.abilityStates w.currentUserId == .disconnected)
  have hr : r = _ := startDesktopLyricAbility_of_stopped hstate
  rw [if_neg Bool.false_ne_true] at hr
  rw [hr]
  exact ⟨rfl, hsessions, huser, Function.update_self ..⟩

/-- The ability manager takes the request, for a connection that is named after the session that
asks, or after the one that asked in vain before. -/
theorem startDesktopLyricAbility_starts (h : w.Recorded) (hstate : w.Stopped w.currentUserId)
    (sessionId handler : String) :
    let r := w.startDesktopLyricAbility sessionId handler true
    ∃ connection, (connection.sessionId = sessionId ↔
        w.abilityStates w.currentUserId = .disconnected ∨
          (w.connectionOf w.currentUserId).all (·.sessionId = sessionId) = true) ∧
      r = (r.1, .success) ∧ r.1.sessions = w.sessions ∧ r.1.currentUserId = w.currentUserId ∧
      r.1.abilityStates w.currentUserId = .connecting ∧
      r.1.connectionOf w.currentUserId = some connection := by
  intro r
  obtain ⟨hmap, -, -, hsessions, -, huser, hconnections⟩ := takeConnection_spec w sessionId handler
    w.currentUserId (w.abilityStates w.currentUserId == .disconnected)
  have hr : r = _ := startDesktopLyricAbility_of_stopped hstate
  rw [if_pos rfl] at hr
  rw [hr]
  generalize w.takeConnection sessionId handler w.currentUserId
    (w.abilityStates w.currentUserId == .disconnected) = taken at *
  have hof : ∀ connection, taken.1.connections[taken.2]? = some connection →
      (taken.1.connectionMap w.currentUserId).bind (taken.1.connections[·]?) =
        some connection := by
    intro connection hget
    rw [hmap, Function.update_self]
    exact hget
  rcases hconnections with ⟨hold, hsame, heq⟩ | ⟨hnew, hlength, heq⟩
  · obtain ⟨connection, hget, -⟩ := h.named _ _ hsame
    have hne : w.abilityStates w.currentUserId ≠ .disconnected := by simpa using hold
    refine ⟨connection, ?_, rfl, hsessions, huser, Function.update_self .., ?_⟩
    · simp [connectionOf_eq hsame, hget, hne]
    · exact hof connection (heq ▸ hget)
  · refine ⟨⟨sessionId, handler, w.currentUserId, false⟩, ?_, rfl, hsessions, huser,
      Function.update_self .., hof _ ?_⟩
    · refine iff_of_true rfl ?_
      rcases hnew with hnew | hnone
      · exact .inl (by simpa using hnew)
      · exact .inr (by simp [connectionOf, hnone])
    · rw [heq, hlength]
      exact List.getElem?_concat_length

/-- Nothing is visible while the ability is stopped. -/
theorem InSync.hidden (hsync : w.InSync) (hstate : w.Stopped w.currentUserId)
    (sessionId : String) : w.isVisible sessionId = false := by
  rw [hsync sessionId, shows_of_stopped hstate]

/-- A call that hides does not start the ability. -/
theorem inSync_hide_of_stopped (hsync : w.InSync) (hcheck : w.checkLyric sessionId true = .success)
    (hstate : w.Stopped w.currentUserId) :
    (w.setDesktopLyricVisibleInner sessionId handler false connects sent).1.InSync := by
  have hset : (w.setDesktopLyricVisibleInner sessionId handler false connects sent).1 =
      (w.setVisible sessionId false).uploadDesktopLyricOperationInfo
        (visibilityOperation sessionId handler false) sent := by
    simp only [setDesktopLyricVisibleInner, hcheck, Bool.false_eq_true, if_false]
    rfl
  have hne : (w.setVisible sessionId false).abilityStates
      (w.setVisible sessionId false).currentUserId ≠ .connected :=
    ne_connected_of_stopped hstate
  rw [hset, uploadDesktopLyricOperationInfo_of_ne hne]
  intro sessionId'
  rw [setVisible_isVisible hcheck, hsync.hidden hstate, ite_self]
  exact (shows_of_stopped hstate sessionId').symm

/-- A call whose request is not taken leaves the session as it was. -/
theorem inSync_show_of_refused (hsync : w.InSync) (hcheck : w.checkLyric sessionId true = .success)
    (hstate : w.Stopped w.currentUserId) :
    (w.setDesktopLyricVisibleInner sessionId handler true false sent).1.InSync := by
  obtain ⟨hfails, hsessions, huser, hdefault⟩ :=
    startDesktopLyricAbility_fails hstate sessionId handler
  have hset : (w.setDesktopLyricVisibleInner sessionId handler true false sent).1 =
      (w.startDesktopLyricAbility sessionId handler false).1 := by
    simp only [setDesktopLyricVisibleInner, hcheck, if_true]
    rw [hfails]
  rw [hset]
  intro sessionId'
  rw [World.isVisible, hsessions, huser, shows_of_stopped (.inl hdefault)]
  exact hsync.hidden hstate sessionId'

/-- Where an ability is on its way and nothing else is visible, the session that becomes visible is
to be the one its connection is named after. -/
theorem inSync_setVisible_of_connecting {connection : CallConnection}
    (hcheck : w.checkLyric sessionId true = .success)
    (hhidden : ∀ sessionId', w.isVisible sessionId' = false)
    (hconnecting : w.abilityStates w.currentUserId = .connecting)
    (hconnection : w.connectionOf w.currentUserId = some connection) :
    (w.setVisible sessionId true).InSync ↔ connection.sessionId = sessionId := by
  have hvisible : ∀ sessionId', (w.setVisible sessionId true).isVisible sessionId' =
      decide (sessionId' = sessionId) := by
    intro sessionId'
    rw [setVisible_isVisible hcheck]
    by_cases hss : sessionId' = sessionId
    · simp [hss]
    · rw [if_neg hss, decide_eq_false hss]
      exact hhidden sessionId'
  have hshows : ∀ sessionId', (w.setVisible sessionId true).shows w.currentUserId sessionId' =
      decide (connection.sessionId = sessionId') := by
    intro sessionId'
    change w.shows w.currentUserId sessionId' = _
    simp [shows, hconnecting, hconnection]
  have huser : (w.setVisible sessionId true).currentUserId = w.currentUserId := rfl
  constructor
  · intro hall
    have hone := hall connection.sessionId
    rw [hvisible, huser, hshows] at hone
    simpa using hone
  · rintro rfl sessionId'
    rw [hvisible, huser, hshows]
    simp [eq_comm]

/-- A call whose request is taken shows the session the connection is named after. -/
theorem inSync_show_of_taken (h : w.Recorded) (hsync : w.InSync)
    (hcheck : w.checkLyric sessionId true = .success) (hstate : w.Stopped w.currentUserId) :
    (w.setDesktopLyricVisibleInner sessionId handler true true sent).1.InSync ↔
      w.abilityStates w.currentUserId = .disconnected ∨
        (w.connectionOf w.currentUserId).all (·.sessionId = sessionId) = true := by
  obtain ⟨connection, hnamed, hstarts, hsessions, huser, hconnecting, hconnection⟩ :=
    startDesktopLyricAbility_starts h hstate sessionId handler
  have hset : (w.setDesktopLyricVisibleInner sessionId handler true true sent).1 =
      ((w.startDesktopLyricAbility sessionId handler true).1.setVisible sessionId
        true).uploadDesktopLyricOperationInfo
          (visibilityOperation sessionId handler true) sent := by
    simp only [setDesktopLyricVisibleInner, hcheck, if_true]
    rw [hstarts]
    rfl
  generalize (w.startDesktopLyricAbility sessionId handler true).1 = w' at *
  have hne : (w'.setVisible sessionId true).abilityStates
      (w'.setVisible sessionId true).currentUserId ≠ .connected := by
    change w'.abilityStates w'.currentUserId ≠ .connected
    rw [huser, hconnecting]
    exact nofun
  have hcheck' : w'.checkLyric sessionId true = .success := by
    unfold checkLyric
    rw [hsessions]
    exact hcheck
  have hhidden : ∀ sessionId', w'.isVisible sessionId' = false := by
    intro sessionId'
    rw [World.isVisible, hsessions]
    exact hsync.hidden hstate sessionId'
  rw [← huser] at hconnecting hconnection
  rw [hset, uploadDesktopLyricOperationInfo_of_ne hne,
    inSync_setVisible_of_connecting hcheck' hhidden hconnecting hconnection]
  exact hnamed

/-- A call about lyrics while the ability is stopped. -/
theorem inSync_setDesktopLyricVisible_of_stopped (h : w.Recorded) (hsync : w.InSync)
    (hcheck : w.checkLyric sessionId true = .success) (hstate : w.Stopped w.currentUserId) :
    (w.setDesktopLyricVisibleInner sessionId handler isVisible connects sent).1.InSync ↔
      w.abilityStates w.currentUserId = .disconnected ∨ (isVisible = true → connects = true →
        (w.connectionOf w.currentUserId).all (·.sessionId = sessionId) = true) := by
  cases isVisible with
  | false => exact iff_of_true (inSync_hide_of_stopped hsync hcheck hstate) (.inr nofun)
  | true =>
      cases connects with
      | false => exact iff_of_true (inSync_show_of_refused hsync hcheck hstate) (.inr fun _ => nofun)
      | true =>
          rw [inSync_show_of_taken h hsync hcheck hstate]
          simp only [forall_const]

/-- Locking and unlocking show and hide nothing. -/
theorem inSync_setDesktopLyricState (h : w.Recorded) (hsync : w.InSync) (isLocked : Bool) :
    (w.setDesktopLyricStateInner sessionId handler isLocked sent).1.InSync := by
  unfold setDesktopLyricStateInner
  split
  · have hmodified : (w.modifySession sessionId fun session =>
        { session with isLocked }).Recorded :=
      h.modifySession fun session hsession hvisible => h.enabled sessionId session hsession hvisible
    have hlocked : (w.modifySession sessionId fun session => { session with isLocked }).InSync := by
      intro sessionId'
      rw [isVisible_modifySession]
      refine Eq.trans ?_ (hsync sessionId')
      by_cases hss : sessionId' = sessionId
      · rw [if_pos hss, hss]
        rfl
      · rw [if_neg hss]
    generalize (w.modifySession sessionId fun session => { session with isLocked }) = w' at *
    by_cases hconnected : w'.abilityStates w'.currentUserId = .connected
    · intro sessionId'
      obtain ⟨received, hframe⟩ := uploadDesktopLyricOperationInfo_frame w'
        ⟨sessionId, handler, if isLocked then .lockLyric else .unlockLyric⟩ sent
      have huser : (w'.uploadDesktopLyricOperationInfo
          ⟨sessionId, handler, if isLocked then .lockLyric else .unlockLyric⟩ sent).currentUserId =
            w'.currentUserId := by rw [hframe]
      rw [upload_isVisible, huser, shows_uploadDesktopLyricOperationInfo hmodified hconnected,
        hlocked sessionId']
      cases isLocked <;> exact (ite_self _).symm
    · change (w'.uploadDesktopLyricOperationInfo _ sent).InSync
      rw [uploadDesktopLyricOperationInfo_of_ne hconnected]
      exact hlocked
  · exact hsync

/-- The ability of another user is another ability: where the fields of one connection and the state
of its user have changed, the abilities of the other users show what they showed. -/
theorem inSync_of_other (h : w.Recorded) (hsync : w.InSync) (hc : w.connectionMap userId = some c)
    (hne : w.currentUserId ≠ userId) {state : AbilityState} {connections : List CallConnection}
    {bindings : ConnectionRef → Binding} {received : ConnectionRef → List Operation}
    (hconnections : ∀ c', c' ≠ c → connections[c']? = w.connections[c']?)
    (hreceived : ∀ c', c' ≠ c → received c' = w.received c') :
    { w with
        abilityStates := Function.update w.abilityStates userId state
        connections, bindings, received }.InSync := by
  have hother : ∀ c', w.connectionMap w.currentUserId = some c' → c' ≠ c := by
    rintro c' hc' rfl
    exact hne (h.unique hc' hc)
  intro sessionId
  refine (hsync sessionId).trans ?_
  cases hc' : w.connectionMap w.currentUserId with
  | none => simp [shows, connectionOf, receivedBy, hc', hne]
  | some c' =>
      simp [shows, connectionOf, receivedBy, hc', hne, hconnections c' (hother c' hc'),
        hreceived c' (hother c' hc')]

/-- A connected ability is told the visible session when both the connection and the upload succeed.
-/
theorem inSync_onAbilityConnectDone (h : w.Recorded) (hsync : w.InSync) (remote : Bool)
    (hc : w.bindings c = .connecting) :
    (w.onAbilityConnectDone c remote sent).InSync ↔
      (w.connectionMap w.currentUserId = some c → remote = true ∧ sent = true) := by
  have hbusy : w.bindings c ≠ .idle := by
    rw [hc]
    exact nofun
  obtain ⟨connection, hget, hmap⟩ := h.exists_connection hbusy
  rw [onAbilityConnectDone_eq hget]
  by_cases huser : connection.userId = w.currentUserId
  · -- the ability was on its way, to be told of the session that is visible
    rw [huser] at hmap ⊢
    have hconnecting : w.abilityStates w.currentUserId = .connecting := by
      have hstands := h.stands w.currentUserId
      rw [bindingOf, hmap, Option.elim_some, hc] at hstands
      cases hs : w.abilityStates w.currentUserId <;>
        simp_all [AbilityState.Follows, AbilityState.Matches]
    have hvisible : ∀ sessionId, w.isVisible sessionId =
        decide (connection.sessionId = sessionId) := by
      intro sessionId
      rw [hsync sessionId]
      simp [shows, hconnecting, connectionOf_eq hmap, hget]
    simp only [hmap, forall_const]
    constructor
    · intro hall
      have hone := (hvisible connection.sessionId).symm.trans (hall connection.sessionId)
      cases remote <;> cases sent <;> simp [shows, receivedBy, hmap] at hone ⊢
    · rintro ⟨rfl, rfl⟩ sessionId
      refine (hvisible sessionId).trans ?_
      simp only [shows, receivedBy, hmap, Function.update_self, Option.elim_some, Bool.and_true,
        if_true]
      by_cases hss : connection.sessionId = sessionId <;>
        simp [isShown, Operation.apply, hss]
  · have hother : w.connectionMap w.currentUserId ≠ some c := by
      intro hsame
      exact huser (h.unique hmap hsame)
    refine iff_of_true ?_ fun hsame => absurd hsame hother
    exact inSync_of_other h hsync hmap (Ne.symm huser)
      (fun c' hne => List.getElem?_modify_ne _ _ hne.symm)
      (fun c' hne => Function.update_of_ne hne ..)

/-- After a disconnect the ability is in step when no session is visible. -/
theorem inSync_onAbilityDisconnectDone (h : w.Recorded) (hsync : w.InSync)
    (hc : w.bindings c ≠ .idle) :
    (w.onAbilityDisconnectDone c).InSync ↔
      (w.connectionMap w.currentUserId = some c → ∀ sessionId, w.isVisible sessionId = false) := by
  obtain ⟨connection, hget, hmap⟩ := h.exists_connection hc
  rw [onAbilityDisconnectDone_eq hget]
  by_cases huser : connection.userId = w.currentUserId
  · rw [huser] at hmap ⊢
    simp only [hmap, forall_const]
    refine forall_congr' fun sessionId => ?_
    simp only [shows, Function.update_self]
    rfl
  · have hother : w.connectionMap w.currentUserId ≠ some c := by
      intro hsame
      exact huser (h.unique hmap hsame)
    refine iff_of_true ?_ fun hsame => absurd hsame hother
    exact inSync_of_other h hsync hmap (Ne.symm huser)
      (fun c' hne => List.getElem?_modify_ne _ _ hne.symm) (fun _ _ => rfl)

/-- One step, from a state in which the sessions and the ability agree. -/
theorem inSync_step_iff (h : w.Recorded) (hsync : w.InSync) {a : Act} (hregular : w.Regular a) :
    (w.step a).InSync ↔ w.Kept a := by
  cases a with
  | createNewSession sessionId isSupported =>
      exact iff_of_true (inSync_createNewSession hsync isSupported hregular) trivial
  | destroyTask sessionId => exact inSync_destroyTask hsync
  | enableDesktopLyric sessionId isEnabled => exact inSync_enableDesktopLyric h hsync isEnabled
  | setDesktopLyricVisible sessionId handler isVisible connects sent =>
      by_cases hcheck : w.checkLyric sessionId true = .success
      · simp only [Kept, hcheck, forall_const]
        by_cases hstate : w.Stopped w.currentUserId
        · refine (inSync_setDesktopLyricVisible_of_stopped h hsync hcheck hstate).trans ?_
          rcases hstate with hs | hs <;> simp [hs]
        · refine (inSync_setDesktopLyricVisible_of_busy h hsync hcheck hstate).trans ?_
          obtain ⟨c, -, ⟨hs, -⟩ | ⟨hs, -⟩⟩ := h.busy hstate <;> simp [hs]
      · have hsame : (w.setDesktopLyricVisibleInner sessionId handler isVisible connects
            sent).1 = w := by
          unfold setDesktopLyricVisibleInner
          cases hret : w.checkLyric sessionId true <;> simp_all
        refine iff_of_true ?_ fun hsuccess => absurd hsuccess hcheck
        rw [World.step, hsame]
        exact hsync
  | setDesktopLyricState sessionId handler isLocked sent =>
      exact iff_of_true (inSync_setDesktopLyricState h hsync isLocked) trivial
  | onAbilityConnectDone c remote sent => exact inSync_onAbilityConnectDone h hsync remote hregular
  | onAbilityDisconnectDone c => exact inSync_onAbilityDisconnectDone h hsync hregular
  | switchUser userId =>
      exact forall_congr' fun sessionId => by rw [← hsync sessionId]; rfl

end World

end sync

/-! ## Runs -/

section runs

namespace World

-- A connection that failed is recorded as one that came about.
example :
    let w := run World.step (init 100) [.createNewSession "s" true, .enableDesktopLyric "s" true,
      .setDesktopLyricVisible "s" "player" true true true, .onAbilityConnectDone 0 false true]
    w.abilityStates 100 = .connected ∧ w.bindings 0 = .failed := by
  decide

-- A second session that opens its lyrics while the ability is on its way is never shown.
example :
    let w := run World.step (init 100) [.createNewSession "s" true, .createNewSession "t" true,
      .enableDesktopLyric "s" true, .enableDesktopLyric "t" true,
      .setDesktopLyricVisible "s" "player" true true true,
      .setDesktopLyricVisible "t" "player" true true true, .onAbilityConnectDone 0 true true]
    w.isVisible "t" = true ∧ w.shows 100 "t" = false := by
  decide

end World

end runs

end AvSession.Lyric
