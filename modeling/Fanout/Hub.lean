import Fanout.Data.Channel
import Fanout.Diagnostic

/-!
# Fanout — the diagnostics hub

Listeners subscribe to all diagnostics or to those of one connection, and each
has a queue of its own. A full queue loses the diagnostic at hand. A listener
that was let go stays counted until the next diagnostic in its scope. A hub carries
with it that its listeners have ids of their own, which were given out.

## Main definitions

* `Hub.subscribe`, `Hub.release` — a listener comes and goes.
* `Hub.emit` — offer a diagnostic to every listener in whose scope it is.
* `Hub.receive`, `Hub.drain` — read a listener's queue.
-/

namespace Fanout

/-- A listener is known by its scope and its number among the listeners of that scope. -/
structure ListenerId where
  /-- The connection listened to; none for all diagnostics. -/
  scope : Option ConnectionId
  index : Nat
  deriving DecidableEq

/-- A listener that the hub knows of. -/
structure Listener where
  id : ListenerId
  queue : Channel Diagnostic

namespace Listener

/-- Whether a diagnostic of a connection, or of none, is in the listener's scope. -/
def hears (listener : Listener) (connection : Option ConnectionId) : Bool :=
  match listener.id.scope with
  | none => true
  | some wanted => connection == some wanted

/-- Offer a diagnostic to a listener in whose scope it is. -/
def reach (connection : Option ConnectionId) (diagnostic : Diagnostic) (listener : Listener) :
    Option Offer × Listener :=
  if listener.hears connection then
    let (answer, queue) := listener.queue.offer diagnostic
    (some answer, { listener with queue })
  else (none, listener)

/-- Offer a diagnostic to one listener after the other. Beside the listeners, with what they have
queued now, the ids of those that turn out to be gone. -/
def reachAll (connection : Option ConnectionId) (diagnostic : Diagnostic) :
    List Listener → List Listener × List ListenerId
  | [] => ([], [])
  | listener :: rest =>
    let (reached, gone) := reachAll connection diagnostic rest
    match listener.reach connection diagnostic with
    | (some .disconnected, listener) => (listener :: reached, listener.id :: gone)
    | (_, listener) => (listener :: reached, gone)

/-- The listeners after a diagnostic. The gone ones are forgotten once it was offered to all. -/
def allAfter (connection : Option ConnectionId) (diagnostic : Diagnostic)
    (listeners : List Listener) : List Listener :=
  let (reached, gone) := reachAll connection diagnostic listeners
  reached.filter (fun listener => decide (listener.id ∉ gone))

theorem id_reach (connection : Option ConnectionId) (diagnostic : Diagnostic)
    (listener : Listener) : (listener.reach connection diagnostic).2.id = listener.id := by
  unfold reach
  split <;> rfl

theorem ids_reachAll (connection : Option ConnectionId) (diagnostic : Diagnostic)
    (listeners : List Listener) :
    (reachAll connection diagnostic listeners).1.map Listener.id = listeners.map Listener.id := by
  induction listeners with
  | nil => rfl
  | cons listener rest ih =>
    have hId := id_reach connection diagnostic listener
    rw [reachAll, List.map_cons, ← ih, ← hId]
    dsimp only
    split <;> (rename_i hReach; rw [hReach, List.map_cons])

/-- The listeners that stay do so in the order in which they came. -/
theorem ids_allAfter (connection : Option ConnectionId) (diagnostic : Diagnostic)
    (listeners : List Listener) :
    ((allAfter connection diagnostic listeners).map Listener.id).Sublist
      (listeners.map Listener.id) := by
  rw [← ids_reachAll connection diagnostic listeners]
  exact List.filter_sublist.map _

end Listener

/-- Listeners and what they have queued. -/
@[ext]
structure Hub where
  /-- The room in each listener's queue. -/
  capacity : Nat
  /-- The listeners in order of subscription. -/
  listeners : List Listener := []
  /-- The scopes of all subscriptions ever made. -/
  issued : List (Option ConnectionId) := []
  /-- Every diagnostic ever reported, with the connection it concerns, the latest first; the queues
  are bounded views of it. -/
  history : List (Option ConnectionId × Diagnostic) := []
  /-- No two listeners have one id. -/
  distinct : (listeners.map Listener.id).Nodup := by exact List.nodup_nil
  /-- A listener's number is one that was given out. -/
  numbered : ∀ id ∈ listeners.map Listener.id, id.index < issued.count id.scope := by
    exact List.forall_mem_nil _

namespace Hub

/-- The id of the next listener with a scope. -/
def nextId (hub : Hub) (scope : Option ConnectionId) : ListenerId :=
  ⟨scope, hub.issued.count scope⟩

/-- The number of the next listener was not given out before. -/
theorem nextId_notMem (hub : Hub) (scope : Option ConnectionId) :
    hub.nextId scope ∉ hub.listeners.map Listener.id :=
  fun hOld => Nat.lt_irrefl _ (hub.numbered _ hOld)

/-- Add a listener with an empty queue. -/
def subscribe (hub : Hub) (scope : Option ConnectionId) : ListenerId × Hub :=
  let id := hub.nextId scope
  (id, { hub with
    listeners := hub.listeners ++ [⟨id, { capacity := hub.capacity }⟩]
    issued := hub.issued ++ [scope]
    distinct := by
      rw [List.map_append]
      refine List.nodup_append.mpr ⟨hub.distinct, List.pairwise_singleton _ _, ?_⟩
      intro old hOld new hNew hSame
      rw [List.map_singleton, List.mem_singleton] at hNew
      rw [hSame, hNew] at hOld
      exact hub.nextId_notMem scope hOld
    numbered := by
      rw [List.map_append]
      intro known hKnown
      rw [List.count_append]
      rcases List.mem_append.mp hKnown with hOld | hNew
      · exact Nat.lt_add_right _ (hub.numbered known hOld)
      · rw [List.map_singleton, List.mem_singleton] at hNew
        rw [hNew]
        show hub.issued.count scope < hub.issued.count scope + [scope].count scope
        rw [List.count_singleton_self]
        exact Nat.lt_succ_self _ })

/-- The number of listeners that the hub knows of. -/
def listenerCount (hub : Hub) : Nat := hub.listeners.length

/-- Offer a diagnostic to every listener in whose scope it is. A full queue loses it; a listener
that is gone is forgotten. -/
def emit (hub : Hub) (connection : Option ConnectionId) (diagnostic : Diagnostic) : Hub :=
  { hub with
    listeners := Listener.allAfter connection diagnostic hub.listeners
    history := (connection, diagnostic) :: hub.history
    distinct := hub.distinct.sublist (Listener.ids_allAfter connection diagnostic hub.listeners)
    numbered := fun id hId => hub.numbered id
      ((Listener.ids_allAfter connection diagnostic hub.listeners).subset hId) }

/-- The listener with an id. -/
def listener? (hub : Hub) (id : ListenerId) : Option Listener :=
  hub.listeners.find? (fun listener => listener.id == id)

/-- What is done to a queue does not change whose queue it is. -/
theorem ids_modify (listeners : List Listener) (id : ListenerId)
    (f : Channel Diagnostic → Channel Diagnostic) :
    (listeners.map (fun listener =>
      if listener.id = id then { listener with queue := f listener.queue } else listener)).map
        Listener.id = listeners.map Listener.id := by
  rw [List.map_map]
  refine List.map_congr_left (fun listener _ => ?_)
  show Listener.id (if listener.id = id then _ else _) = _
  split <;> rfl

/-- Change the queue of one listener. -/
def modify (hub : Hub) (id : ListenerId) (f : Channel Diagnostic → Channel Diagnostic) : Hub :=
  { hub with
    listeners := hub.listeners.map (fun listener =>
      if listener.id = id then { listener with queue := f listener.queue } else listener)
    distinct := by
      rw [ids_modify]
      exact hub.distinct
    numbered := by
      rw [ids_modify]
      exact hub.numbered }

/-- What a listener has queued. -/
def queued (hub : Hub) (id : ListenerId) : List Diagnostic :=
  match hub.listener? id with
  | some listener => listener.queue.queue
  | none => []

/-- Take the next diagnostic of a listener. -/
def receive (hub : Hub) (id : ListenerId) : Option Diagnostic × Hub :=
  ((hub.queued id).head?, hub.modify id (fun queue => queue.receive.2))

/-- Take everything that a listener has queued. -/
def drain (hub : Hub) (id : ListenerId) : List Diagnostic × Hub :=
  (hub.queued id, hub.modify id (fun queue => queue.drain.2))

/-- Let go of a listener. The hub notices at the next diagnostic in its scope. -/
def release (hub : Hub) (id : ListenerId) : Hub := hub.modify id Channel.release

end Hub

end Fanout
