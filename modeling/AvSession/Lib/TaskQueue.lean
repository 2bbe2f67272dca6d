import Mathlib.Data.List.Basic

/-!
# Queues of named tasks

A task is posted under a name, and posting removes the pending tasks of that name. The messages that
tasks send are read off a list of tasks, or of messages, through a projection to one channel.

* `post` — the queue after a posting.
* `lastOn` — the last entry on a channel.
* `lastOn_post_self`, `lastOn_post_other` — a posting replaces what waits on its own channel, and
  leaves the other channels alone.
-/

namespace AvSession.Lib.TaskQueue

variable {τ ν β : Type*} [DecidableEq ν]

/-! ## Posting -/

section post

variable (name : τ → ν) (queue : List τ) (t : τ)

/-- The pending tasks of the name are removed, and the task goes to the end. -/
def post : List τ := queue.filter (fun t' => name t' ≠ name t) ++ [t]

variable {name queue t} {t' : τ}

/-- A projection that the name determines keeps only what is posted. -/
theorem filterMap_post_self {p : τ → Option β} {b : β} (hp : p t = some b)
    (hname : ∀ t' ∈ queue, p t' ≠ none → name t' = name t) :
    (post name queue t).filterMap p = [b] := by
  unfold post
  rw [List.filterMap_append, List.filterMap_cons_some hp, List.filterMap_nil,
    List.filterMap_eq_nil_iff.mpr, List.nil_append]
  intro t' ht'
  rw [List.mem_filter, decide_eq_true_iff] at ht'
  by_contra hsome
  exact ht'.2 (hname t' ht'.1 hsome)

/-- A projection to tasks of other names does not see the posting. -/
theorem filterMap_post_other {p : τ → Option β} (hp : p t = none)
    (hname : ∀ t' ∈ queue, p t' ≠ none → name t' ≠ name t) :
    (post name queue t).filterMap p = queue.filterMap p := by
  unfold post
  rw [List.filterMap_append, List.filterMap_cons_none hp, List.filterMap_nil, List.append_nil,
    List.filterMap_filter]
  apply List.filterMap_congr
  intro t' ht'
  split_ifs with hkeep
  · rfl
  · rw [decide_eq_true_iff, not_not] at hkeep
    by_contra hsome
    exact hname t' ht' (fun hnone => hsome hnone.symm) hkeep

end post

/-! ## Channels -/

section channels

variable (p : τ → Option β)

/-- The last entry on a channel. -/
def lastOn (l : List τ) : Option β := (l.filterMap p).getLast?

/-- The last task of a place counts. -/
theorem lastOn_append_of_some {l : List τ} {t : τ} {b : β} (hp : p t = some b) :
    lastOn p (l ++ [t]) = some b := by
  unfold lastOn
  rw [List.filterMap_append, List.filterMap_cons_some hp, List.filterMap_nil,
    List.getLast?_append, List.getLast?_singleton]
  rfl

end channels

/-! ## Sent and waiting messages -/

section outbox

variable {μ : Type*} (message : τ → Option μ) (p : μ → Option β) (name : τ → ν)

/-- The last entry on a channel, of what was sent and what waits. -/
def lastPosted (sent : List μ) (queue : List τ) : Option β :=
  lastOn p (sent ++ queue.filterMap message)

variable {message p name} {sent : List μ} {queue : List τ} {t : τ}

/-- With nothing posted what was sent counts. -/
@[simp] theorem lastPosted_nil : lastPosted message p sent [] = lastOn p sent := by
  unfold lastPosted
  rw [List.filterMap_nil, List.append_nil]

/-- Posting a message on the channel. -/
theorem lastPosted_post_self {m : μ} {b : β} (hm : message t = some m) (hp : p m = some b) :
    lastPosted message p sent (post name queue t) = some b := by
  unfold lastPosted post
  rw [List.filterMap_append, List.filterMap_cons_some hm, List.filterMap_nil,
    ← List.append_assoc]
  exact lastOn_append_of_some p hp

/-- Posting a task that has nothing to do with the channel. -/
theorem lastPosted_post_other (hp : (message t).bind p = none)
    (hname : ∀ t', (message t').bind p ≠ none → name t' ≠ name t) :
    lastPosted message p sent (post name queue t) = lastPosted message p sent queue := by
  have hqueue : (post name queue t).filterMap (fun t' => (message t').bind p) =
      queue.filterMap (fun t' => (message t').bind p) :=
    filterMap_post_other hp fun t' _ => hname t'
  unfold lastPosted lastOn
  rw [List.filterMap_append, List.filterMap_append, List.filterMap_filterMap,
    List.filterMap_filterMap]
  exact congrArg (fun l => (sent.filterMap p ++ l).getLast?) hqueue

/-- A message that is sent was waiting. -/
theorem lastPosted_send {m : μ} (hm : message t = some m) :
    lastPosted message p (sent ++ [m]) queue = lastPosted message p sent (t :: queue) := by
  unfold lastPosted
  rw [List.filterMap_cons_some hm, List.append_assoc]
  rfl

/-- A task without a message leaves the queue. -/
theorem lastPosted_drop (hm : message t = none) :
    lastPosted message p sent queue = lastPosted message p sent (t :: queue) := by
  unfold lastPosted
  rw [List.filterMap_cons_none hm]

end outbox

end AvSession.Lib.TaskQueue
