import Fanout.Proofs.Run
import Mathlib.Data.List.Basic

/-!
# Fanout — the hub as one connection's listeners see it

Listeners to one connection have no part in what concerns another. `Hub.scopedTo`
leaves of a hub what belongs to one connection, and each operation either acts on
that part as it acts on the whole, or leaves it alone.

A report goes to all listeners before those that turned out to be gone are forgotten.
Their ids being distinct, each of them might as well be forgotten at once.

## Results

* `Hub.listeners_emit` — what a report does to the listeners, one by one.
* `Hub.scopedTo_emit_self`, `Hub.scopedTo_emit_other` — a report reaches its own connection's
  part only.
* `Hub.scopedTo_subscribe_self`, `Hub.scopedTo_useListener_self` and their counterparts.
-/

namespace Fanout

/-! ## One listener after another -/

namespace Listener

/-- A listener after a diagnostic, unless it turns out to be gone. -/
def after (connection : Option ConnectionId) (diagnostic : Diagnostic) (listener : Listener) :
    Option Listener :=
  match listener.reach connection diagnostic with
  | (some .disconnected, _) => none
  | (_, listener) => some listener

variable {connection : Option ConnectionId} {diagnostic : Diagnostic}

theorem id_after {listener kept : Listener} (h : listener.after connection diagnostic = some kept) :
    kept.id = listener.id := by
  have hId := id_reach connection diagnostic listener
  unfold after at h
  split at h
  · cases h
  · rename_i hReach
    cases h
    rw [hReach] at hId
    exact hId

/-- Only listeners that were offered a diagnostic turn out to be gone. -/
theorem gone_subset (listeners : List Listener) :
    (reachAll connection diagnostic listeners).2 ⊆ listeners.map Listener.id := by
  induction listeners with
  | nil => exact List.Subset.refl _
  | cons listener rest ih =>
    have hId := id_reach connection diagnostic listener
    rw [reachAll, List.map_cons, ← hId]
    dsimp only
    split
    · rename_i hReach
      rw [hReach]
      exact List.cons_subset_cons _ ih
    · exact List.subset_cons_of_subset _ ih

/-- To forget the gone ones in the end is to forget each at once, as no two have one id. -/
theorem allAfter_eq {listeners : List Listener} (hDistinct : (listeners.map Listener.id).Nodup) :
    allAfter connection diagnostic listeners =
      listeners.filterMap (after connection diagnostic) := by
  induction listeners with
  | nil => rfl
  | cons listener rest ih =>
    obtain ⟨hOwn, hRest⟩ := List.nodup_cons.mp hDistinct
    have ih := ih hRest
    have hId := id_reach connection diagnostic listener
    -- the id of the first one is neither among those reached behind it nor among those gone
    have hReached : ∀ other ∈ (reachAll connection diagnostic rest).1,
        other.id ≠ listener.id := by
      intro other hOther hSame
      rw [← ids_reachAll connection diagnostic rest, ← hSame] at hOwn
      exact hOwn (List.mem_map_of_mem hOther)
    have hGone : listener.id ∉ (reachAll connection diagnostic rest).2 :=
      fun hIn => hOwn (gone_subset rest hIn)
    unfold allAfter at ih ⊢
    dsimp only at ih
    rw [reachAll, List.filterMap_cons, after, ← ih]
    dsimp only
    generalize listener.reach connection diagnostic = reach at hId ⊢
    obtain ⟨answer, reached⟩ := reach
    dsimp only at hId
    rw [← hId] at hReached hGone
    have hStays : (reached :: (reachAll connection diagnostic rest).1).filter (fun listener =>
        decide (listener.id ∉ (reachAll connection diagnostic rest).2)) = reached :: _ :=
      List.filter_cons_of_pos (by simpa using hGone)
    rcases answer with _ | _ | _ | _
    · exact hStays
    · exact hStays
    · exact hStays
    · -- it goes, and what is left is left of the others
      refine (List.filter_cons_of_neg (by simp)).trans ?_
      refine List.filter_congr (fun other hOther => ?_)
      simp [hReached other hOther]

end Listener

namespace Hub

/-- The listeners after a report, as each of them comes out of it. -/
theorem listeners_emit (hub : Hub) (connection : Option ConnectionId) (diagnostic : Diagnostic) :
    (hub.emit connection diagnostic).listeners =
      hub.listeners.filterMap (Listener.after connection diagnostic) :=
  Listener.allAfter_eq hub.distinct

/-- What a hub keeps for one connection. -/
def scopedTo (hub : Hub) (connection : ConnectionId) : Hub where
  capacity := hub.capacity
  listeners := hub.listeners.filter (fun listener => listener.id.scope == some connection)
  issued := hub.issued.filter (· == some connection)
  history := hub.history.filter (fun entry => entry.1 == some connection)
  distinct := hub.distinct.sublist (List.filter_sublist.map _)
  numbered := by
    intro id hId
    obtain ⟨listener, hListener, rfl⟩ := List.mem_map.mp hId
    obtain ⟨hKnown, hScope⟩ := List.mem_filter.mp hListener
    -- all subscriptions with its scope are kept
    rw [List.count_filter (p := (· == some connection)) hScope]
    exact hub.numbered _ (List.mem_map_of_mem hKnown)

variable {hub : Hub} {connection other : ConnectionId}

/-! ## Reports -/

/-- The listeners to a connection after a report are those of before that stay. -/
theorem filter_after (scope : Option ConnectionId) (diagnostic : Diagnostic)
    (listeners : List Listener) :
    (listeners.filterMap (Listener.after scope diagnostic)).filter
        (fun listener => listener.id.scope == some connection) =
      (listeners.filter (fun listener => listener.id.scope == some connection)).filterMap
        (Listener.after scope diagnostic) := by
  induction listeners with
  | nil => rfl
  | cons listener rest ih =>
    cases hAfter : listener.after scope diagnostic with
    | none => cases hScope : listener.id.scope == some connection <;> simp [hAfter, hScope, ih]
    | some kept =>
      have hId := Listener.id_after hAfter
      cases hScope : listener.id.scope == some connection <;> simp [hAfter, hId, hScope, ih]

/-- What a report does to the listeners to a connection does not depend on the other listeners. -/
theorem listeners_scopedTo_emit (scope : Option ConnectionId) (diagnostic : Diagnostic) :
    ((hub.emit scope diagnostic).scopedTo connection).listeners =
      (hub.scopedTo connection).listeners.filterMap (Listener.after scope diagnostic) := by
  show (hub.emit scope diagnostic).listeners.filter _ = _
  rw [listeners_emit, filter_after]
  rfl

theorem history_scopedTo_emit (scope : Option ConnectionId) (diagnostic : Diagnostic) :
    ((hub.emit scope diagnostic).scopedTo connection).history =
      if scope == some connection then (scope, diagnostic) :: (hub.scopedTo connection).history
      else (hub.scopedTo connection).history := by
  show ((scope, diagnostic) :: hub.history).filter (fun entry => entry.1 == some connection) = _
  exact List.filter_cons

theorem scopedTo_emit_self (diagnostic : Diagnostic) :
    (hub.emit (some connection) diagnostic).scopedTo connection =
      (hub.scopedTo connection).emit (some connection) diagnostic := by
  refine Hub.ext rfl ?_ rfl ?_
  · rw [listeners_scopedTo_emit, listeners_emit]
  · rw [history_scopedTo_emit, if_pos (beq_iff_eq.mpr rfl)]
    rfl

theorem scopedTo_emit_other (diagnostic : Diagnostic) (h : other ≠ connection) :
    (hub.emit (some other) diagnostic).scopedTo connection = hub.scopedTo connection := by
  -- a listener to one connection does not hear what concerns another
  have hDeaf : ∀ listener ∈ (hub.scopedTo connection).listeners,
      listener.after (some other) diagnostic = some listener := by
    intro listener hListener
    have hScope := (List.mem_filter.mp hListener).2
    unfold Listener.after Listener.reach Listener.hears
    rw [beq_iff_eq.mp hScope]
    simp [h]
  refine Hub.ext rfl ?_ rfl ?_
  · rw [listeners_scopedTo_emit, List.filterMap_congr hDeaf, List.filterMap_some]
  · rw [history_scopedTo_emit, if_neg (by simpa using h)]

/-! ## Listeners -/

theorem scopedTo_subscribe_self :
    (hub.subscribe (some connection)).1 =
        ((hub.scopedTo connection).subscribe (some connection)).1 ∧
      (hub.subscribe (some connection)).2.scopedTo connection =
        ((hub.scopedTo connection).subscribe (some connection)).2 := by
  -- listeners are numbered within their scope, so that the number is the same
  have hCount : (hub.issued.filter (· == some connection)).count (some connection) =
      hub.issued.count (some connection) := List.count_filter (beq_self_eq_true _)
  have hId : hub.nextId (some connection) =
      (hub.scopedTo connection).nextId (some connection) :=
    congrArg (ListenerId.mk (some connection)) hCount.symm
  refine ⟨hId, Hub.ext rfl ?_ ?_ rfl⟩
  · show (hub.listeners ++ [_]).filter _ = hub.listeners.filter _ ++ [_]
    rw [List.filter_append, ← hId]
    congr 1
    exact List.filter_cons_of_pos (beq_iff_eq.mpr rfl)
  · show (hub.issued ++ [_]).filter _ = hub.issued.filter _ ++ [_]
    rw [List.filter_append]
    congr 1
    exact List.filter_cons_of_pos (by simp)

theorem scopedTo_subscribe_other {scope : Option ConnectionId} (h : scope ≠ some connection) :
    (hub.subscribe scope).2.scopedTo connection = hub.scopedTo connection := by
  refine Hub.ext rfl ?_ ?_ rfl
  · show (hub.listeners ++ _).filter _ = hub.listeners.filter _
    rw [List.filter_append]
    refine (congrArg (hub.listeners.filter _ ++ ·) ?_).trans (List.append_nil _)
    exact List.filter_cons_of_neg (by simpa [nextId] using h)
  · show (hub.issued ++ [scope]).filter _ = hub.issued.filter _
    rw [List.filter_append]
    refine (congrArg (hub.issued.filter _ ++ ·) ?_).trans (List.append_nil _)
    exact List.filter_cons_of_neg (by simpa using h)

theorem scopedTo_modify (id : ListenerId) (f : Channel Diagnostic → Channel Diagnostic) :
    (hub.modify id f).scopedTo connection = (hub.scopedTo connection).modify id f := by
  -- what is done to a queue does not change whom its listener listens to
  have hScope : ((fun listener : Listener => listener.id.scope == some connection) ∘
      fun listener => if listener.id = id then { listener with queue := f listener.queue }
        else listener) = fun listener => listener.id.scope == some connection := by
    funext listener
    show ((if listener.id = id then _ else _ : Listener).id.scope == some connection) = _
    split <;> rfl
  refine Hub.ext rfl ?_ rfl rfl
  show (hub.listeners.map _).filter _ = (hub.listeners.filter _).map _
  rw [List.filter_map, hScope]

/-- A listener to something else is not among the listeners to a connection. -/
theorem modify_scopedTo_other {id : ListenerId} (f : Channel Diagnostic → Channel Diagnostic)
    (h : id.scope ≠ some connection) :
    (hub.scopedTo connection).modify id f = hub.scopedTo connection := by
  have hNone : ∀ listener ∈ (hub.scopedTo connection).listeners,
      (if listener.id = id then { listener with queue := f listener.queue } else listener) =
        listener := by
    intro listener hListener
    have hScope := beq_iff_eq.mp (List.mem_filter.mp hListener).2
    have hId : listener.id ≠ id := fun hEq => h (by rw [← hEq, hScope])
    rw [if_neg hId]
  exact Hub.ext rfl ((List.map_congr_left hNone).trans (List.map_id' _)) rfl rfl

theorem listener?_scopedTo {id : ListenerId} (h : id.scope = some connection) :
    (hub.scopedTo connection).listener? id = hub.listener? id := by
  -- the first listener of that id is among those to the connection
  unfold listener? scopedTo
  dsimp only
  rw [List.find?_filter]
  congr 1
  funext listener
  by_cases hId : listener.id = id <;> simp [hId, h]

theorem queued_scopedTo {id : ListenerId} (h : id.scope = some connection) :
    (hub.scopedTo connection).queued id = hub.queued id := by
  unfold queued
  rw [listener?_scopedTo h]

theorem scopedTo_useListener_self {id : ListenerId} (use : ListenerUse)
    (h : id.scope = some connection) :
    (hub.useListener id use).1 = ((hub.scopedTo connection).useListener id use).1 ∧
      (hub.useListener id use).2.scopedTo connection =
        ((hub.scopedTo connection).useListener id use).2 := by
  have hQueued : (hub.scopedTo connection).queued id = hub.queued id := queued_scopedTo h
  cases use with
  | receive =>
    refine ⟨?_, scopedTo_modify id _⟩
    show Outcome.diagnostic (hub.queued id).head? =
      Outcome.diagnostic ((hub.scopedTo connection).queued id).head?
    rw [hQueued]
  | drain =>
    refine ⟨?_, scopedTo_modify id _⟩
    show Outcome.diagnostics (hub.queued id) =
      Outcome.diagnostics ((hub.scopedTo connection).queued id)
    rw [hQueued]
  | release => exact ⟨rfl, scopedTo_modify id _⟩

theorem scopedTo_useListener_other {id : ListenerId} (use : ListenerUse)
    (h : id.scope ≠ some connection) :
    (hub.useListener id use).2.scopedTo connection = hub.scopedTo connection := by
  cases use with
  | receive => exact (scopedTo_modify id _).trans (modify_scopedTo_other _ h)
  | drain => exact (scopedTo_modify id _).trans (modify_scopedTo_other _ h)
  | release => exact (scopedTo_modify id _).trans (modify_scopedTo_other _ h)

end Hub

end Fanout
