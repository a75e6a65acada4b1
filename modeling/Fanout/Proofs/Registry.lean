import Fanout.Proofs.Table
import Fanout.Registry.Basic

/-!
# Fanout — what the operations of a registry do

Each operation is told once by what it found and what it leaves, so that nothing
further on has to open it again. One that is refused leaves what it found: it gets no
further than its first look at the connection, or than the spec that does not compile.
Between the first look at a session and the second one nothing ends it.

## Results

* `Registry.openConnection_ok`, `Registry.closeConnection_of_live`,
  `Registry.addPublication_ok`, `Registry.removePublication_ok` — what a successful operation found
  and what it leaves.
* `Registry.openConnection_error`, `Registry.addPublication_error`,
  `Registry.removePublication_error` — why an operation is refused, and that nothing changes then.
* `Registry.whileOpen_of_live`, `Registry.whileOpen_of_ended` — what is done while a session goes
  on.
* `Registry.publication?_afterClose`, `Registry.publication?_of_store`,
  `Registry.publication?_of_drop` — the publications after an operation.
-/

namespace Fanout

namespace Registry

variable {registry after : Registry} {connection other : ConnectionId} {service : String}

/-! ## Look-ups -/

theorem publication?_eq_bind (registry : Registry) (connection : ConnectionId) (service : String) :
    registry.publication? connection service =
      (registry.services.get? service).bind (fun publications => publications.get? connection) := by
  unfold publication? publicationsOn
  cases registry.services.get? service <;> rfl

theorem publication?_congr (h : after.services = registry.services) (connection : ConnectionId)
    (service : String) :
    after.publication? connection service = registry.publication? connection service := by
  rw [publication?_eq_bind, publication?_eq_bind, h]

theorem mem_snapshot_iff {publication : Publication} :
    (connection, publication) ∈ registry.snapshot service ↔
      registry.publication? connection service = some publication :=
  Table.mem_entries_iff _

theorem liveSession?_eq_some_iff {id : SessionId} {session : Session} :
    registry.liveSession? connection = some (id, session) ↔
      registry.live.get? connection = some id ∧ registry.sessions.get? id = some session ∧
        session.state = .opened := by
  unfold liveSession? session?
  -- the connection has to be open, in a session that there is, and that goes on
  cases hLive : registry.live.get? connection with
  | none => simp
  | some live =>
    cases hSession : registry.sessions.get? live with
    | none =>
      simp only [Option.bind_eq_bind, Option.bind_some, hSession, Option.bind_none, reduceCtorEq,
        Option.some.injEq, false_iff, not_and]
      intro hId hFound
      rw [← hId, hSession] at hFound
      cases hFound
    | some found =>
      simp only [Option.bind_eq_bind, Option.bind_some, hSession, Option.some.injEq]
      constructor
      · intro h
        split at h
        · rename_i hState
          cases h
          exact ⟨rfl, hSession, hState⟩
        · cases h
      · rintro ⟨rfl, hFound, hState⟩
        rw [hSession] at hFound
        cases hFound
        rw [if_pos hState]

theorem state?_of_live {id : SessionId} {session : Session}
    (h : registry.liveSession? connection = some (id, session)) :
    registry.state? id = some .opened := by
  obtain ⟨-, hSession, hState⟩ := liveSession?_eq_some_iff.mp h
  unfold state?
  rw [hSession, Option.map_some, hState]

/-- The services that a connection holds are found in order, and sorting leaves them so. -/
theorem servicesFor_eq (registry : Registry) (connection : ConnectionId) :
    registry.servicesFor connection =
      (registry.services.entries.filter (fun entry => entry.2.contains connection)).map
        Prod.fst := by
  refine Ordered.sort_of_ascending (List.pairwise_map.mpr ?_)
  exact registry.services.ascending.sublist List.filter_sublist

/-! ## While a session goes on -/

section WhileOpen

variable {α : Type} {id : SessionId} {act : Registry → α × Registry}

theorem whileOpen_of_live {session : Session}
    (h : registry.liveSession? connection = some (id, session)) :
    registry.whileOpen id act = (some (act registry).1, (act registry).2) :=
  if_pos (state?_of_live h)

/-- Nothing is done in a session that has ended. -/
theorem whileOpen_of_ended (h : registry.state? id ≠ some .opened) :
    registry.whileOpen id act = (none, registry) :=
  if_neg h

end WhileOpen

/-! ## What the operations find and leave -/

theorem openConnection_ok {sink : Sink} {id : SessionId}
    (h : registry.openConnection connection sink = (.ok id, after)) :
    registry.live.get? connection = none ∧ id = ⟨connection, registry.sessionCount connection⟩ ∧
      after = { registry with
        sessions := registry.sessions.insert id { sink }
        live := registry.live.insert connection id } := by
  unfold openConnection at h
  split at h
  · cases h
  · -- the connection was closed, or it would have been refused
    rename_i hOpen
    rw [Table.contains_eq, Option.not_isSome_iff_eq_none] at hOpen
    cases h
    exact ⟨hOpen, rfl, rfl⟩

theorem openConnection_error {sink : Sink} {error : PublicationError}
    (h : registry.openConnection connection sink = (.error error, after)) :
    (registry.live.get? connection).isSome ∧ error = .connectionExists connection ∧
      after = registry := by
  unfold openConnection at h
  split at h
  · rename_i hOpen
    cases h
    exact ⟨hOpen, rfl, rfl⟩
  · cases h

theorem closeConnection_of_not_live (h : registry.liveSession? connection = none) :
    registry.closeConnection connection = (none, registry) := by
  unfold closeConnection
  rw [h]

/-- A registry after the session of a connection has ended. -/
def afterClose (registry : Registry) (connection : ConnectionId) (id : SessionId)
    (session : Session) : Registry :=
  { (registry.releaseAll connection).2 with
    sessions := registry.sessions.insert id { session with state := .closed }
    live := registry.live.erase connection }

@[simp] theorem services_afterClose {id : SessionId} {session : Session} :
    (registry.afterClose connection id session).services =
      registry.services.filterMap (leave connection) := by
  unfold afterClose
  rw [releaseAll_eq]

theorem closeConnection_of_live {id : SessionId} {session : Session}
    (h : registry.liveSession? connection = some (id, session)) :
    registry.closeConnection connection =
      (some (registry.servicesFor connection),
        (registry.afterClose connection id session).emit connection
          (.connectionClosed connection (registry.servicesFor connection))) := by
  unfold closeConnection afterClose
  rw [h, releaseAll_eq]

theorem addPublication_ok {module : FilterModule} {spec : PublicationSpec}
    {publication : Publication}
    (h : registry.addPublication connection service module spec = (.ok publication, after)) :
    ∃ id session predicate, registry.liveSession? connection = some (id, session) ∧
      module.compile spec.name spec.positionalParams = .ok predicate ∧
      publication = ⟨connection, service, spec.name, spec.positionalParams, predicate,
        spec.ifServer, spec.checkBefore, id, session.adds⟩ ∧
      after = { registry with
        sessions := registry.sessions.insert id { session with adds := session.adds + 1 }
        services := registry.services.insert service
          ((registry.publicationsOn service).insert connection publication)
        hub := registry.hub.emit (some connection) (.addPublication service spec.name
          spec.positionalParams publication.flags publication.flags) } := by
  unfold addPublication at h
  split at h
  · cases h
  · -- the connection is open, and the spec has to compile
    rename_i id session hLive
    dsimp only at h
    cases hCompile : module.compile spec.name spec.positionalParams with
    | error error =>
      rw [hCompile] at h
      cases h
    | ok predicate =>
      rw [hCompile] at h
      dsimp only at h
      rw [whileOpen_of_live hLive] at h
      cases h
      exact ⟨id, session, predicate, hLive, rfl, rfl, rfl⟩

/-- An addition is refused for a closed connection, whatever the spec, and otherwise exactly when
the spec does not compile. -/
theorem addPublication_error {module : FilterModule} {spec : PublicationSpec}
    {error : PublicationError}
    (h : registry.addPublication connection service module spec = (.error error, after)) :
    ((registry.liveSession? connection = none ∧ error = .staleConnection connection) ∨
      ((registry.liveSession? connection).isSome ∧
        module.compile spec.name spec.positionalParams = .error error)) ∧ after = registry := by
  unfold addPublication at h
  split at h
  · rename_i hLive
    cases h
    exact ⟨.inl ⟨hLive, rfl⟩, rfl⟩
  · rename_i id session hLive
    dsimp only at h
    cases hCompile : module.compile spec.name spec.positionalParams with
    | error error =>
      rw [hCompile] at h
      cases h
      exact ⟨.inr ⟨by rw [hLive]; rfl, rfl⟩, rfl⟩
    | ok predicate =>
      -- the session is found open again
      rw [hCompile] at h
      dsimp only at h
      rw [whileOpen_of_live hLive] at h
      cases h

/-- The services once a connection has given up its publication on one of them. -/
def servicesWithout (registry : Registry) (connection : ConnectionId) (service : String) :
    Table String ServicePublications :=
  let left := (registry.publicationsOn service).erase connection
  if left.isEmpty then registry.services.erase service
  else registry.services.insert service left

/-- Where a service is not known there is nothing to give up. -/
theorem servicesWithout_of_unknown (h : registry.services.get? service = none) :
    registry.servicesWithout connection service = registry.services := by
  unfold servicesWithout publicationsOn
  rw [h]
  show registry.services.erase service = registry.services
  refine Table.ext_get? (fun other => ?_)
  rw [Table.get?_erase]
  by_cases hOther : other = service
  · rw [if_pos hOther, hOther, h]
  · rw [if_neg hOther]

theorem removePublication_of_live {id : SessionId} {session : Session}
    (h : registry.liveSession? connection = some (id, session)) :
    registry.removePublication connection service =
      (.ok ((registry.publication? connection service).map Publication.name).toList,
        { registry with
          services := registry.servicesWithout connection service
          hub := registry.hub.emit (some connection) (.removePublication service []) }) := by
  unfold removePublication
  rw [h]
  dsimp only
  rw [whileOpen_of_live h, publication?_eq_bind]
  cases hService : registry.services.get? service with
  | none =>
    rw [servicesWithout_of_unknown hService]
    rfl
  | some publications =>
    -- once its publication is dropped the connection has no other on the service
    have hKeys : (publications.erase connection).get? connection = none := by
      rw [Table.get?_erase, if_pos rfl]
    unfold servicesWithout publicationsOn
    rw [hService]
    dsimp only
    rw [hKeys]
    rfl

theorem removePublication_ok {names : List String}
    (h : registry.removePublication connection service = (.ok names, after)) :
    (registry.liveSession? connection).isSome ∧
      names = ((registry.publication? connection service).map Publication.name).toList ∧
      after = { registry with
        services := registry.servicesWithout connection service
        hub := registry.hub.emit (some connection) (.removePublication service []) } := by
  cases hLive : registry.liveSession? connection with
  | none =>
    unfold removePublication at h
    rw [hLive] at h
    cases h
  | some found =>
    rw [removePublication_of_live hLive] at h
    cases h
    exact ⟨rfl, rfl, rfl⟩

theorem removePublication_error {error : PublicationError}
    (h : registry.removePublication connection service = (.error error, after)) :
    registry.liveSession? connection = none ∧ error = .staleConnection connection ∧
      after = registry := by
  cases hLive : registry.liveSession? connection with
  | none =>
    unfold removePublication at h
    rw [hLive] at h
    cases h
    exact ⟨rfl, rfl, rfl⟩
  | some found =>
    rw [removePublication_of_live hLive] at h
    cases h

@[simp] theorem config_closeConnection :
    (registry.closeConnection connection).2.config = registry.config := by
  cases hLive : registry.liveSession? connection with
  | none => rw [closeConnection_of_not_live hLive]
  | some found =>
    rw [closeConnection_of_live hLive]
    rfl

/-! ## Publications after an operation -/

theorem publication?_afterClose {id : SessionId} {session : Session} :
    (registry.afterClose connection id session).publication? other service =
      if other = connection then none else registry.publication? other service := by
  rw [publication?_eq_bind, publication?_eq_bind]
  -- the connection goes from all services, and those that it leaves empty go as well
  rw [services_afterClose, Table.get?_filterMap]
  cases hService : registry.services.get? service with
  | none => simp
  | some publications =>
    have hErase := publications.get?_erase connection other
    rw [Option.bind_some, Option.bind_some, leave]
    split
    · -- the service goes: nobody but the connection had a publication on it
      rename_i hEmpty
      rw [(Table.isEmpty_iff _).mp hEmpty] at hErase
      rw [Option.bind_none]
      exact hErase
    · rw [Option.bind_some]
      exact hErase

theorem publication?_of_store (registry : Registry) {publication : Publication} {stored : String}
    (h : after.services = registry.services.insert stored
      ((registry.publicationsOn stored).insert connection publication)) :
    after.publication? other service =
      if other = connection ∧ service = stored then some publication
      else registry.publication? other service := by
  rw [publication?_eq_bind, h, Table.get?_insert]
  by_cases hService : service = stored
  · subst hService
    rw [if_pos rfl, Option.bind_some, Table.get?_insert]
    by_cases hOther : other = connection
    · rw [if_pos hOther, if_pos ⟨hOther, rfl⟩]
    · rw [if_neg hOther, if_neg (fun hBoth => hOther hBoth.1)]
      rfl
  · -- the other services stay as they are
    rw [if_neg hService, if_neg (fun hBoth => hService hBoth.2), publication?_eq_bind]

theorem publication?_of_drop (registry : Registry) {dropped : String}
    (h : after.services = registry.servicesWithout connection dropped) :
    after.publication? other service =
      if other = connection ∧ service = dropped then none
      else registry.publication? other service := by
  have hErase := (registry.publicationsOn dropped).get?_erase connection other
  rw [publication?_eq_bind, h]
  unfold servicesWithout
  by_cases hService : service = dropped
  · subst hService
    have hSame : registry.publication? other service =
        (registry.publicationsOn service).get? other := rfl
    simp only [and_true, hSame]
    rw [← hErase]
    split
    · -- the last publication on the service is gone, and the service with it
      rename_i hEmpty
      rw [Table.get?_erase, if_pos rfl, (Table.isEmpty_iff _).mp hEmpty]
      rfl
    · rw [Table.get?_insert, if_pos rfl]
      rfl
  · -- the other services stay as they are
    simp only [hService, and_false, if_false]
    rw [publication?_eq_bind]
    split
    · rw [Table.get?_erase, if_neg hService]
    · rw [Table.get?_insert, if_neg hService]

/-- A connection that was closed has neither a session nor publications. -/
theorem closeConnection_clears {id : SessionId} {session : Session}
    (h : registry.liveSession? connection = some (id, session)) :
    (registry.closeConnection connection).2.live.get? connection = none ∧
      ∀ service, (registry.closeConnection connection).2.publication? connection service =
        none := by
  rw [closeConnection_of_live h]
  refine ⟨?_, fun service => ?_⟩
  · show (registry.live.erase connection).get? connection = none
    rw [Table.get?_erase, if_pos rfl]
  · show (registry.afterClose connection id session).publication? connection service = none
    rw [publication?_afterClose, if_pos rfl]

theorem liveSession?_closeConnection :
    (registry.closeConnection connection).2.liveSession? connection = none := by
  cases hLive : registry.liveSession? connection with
  | none =>
    rw [closeConnection_of_not_live hLive]
    exact hLive
  | some found =>
    unfold liveSession? session?
    rw [(closeConnection_clears hLive).1]
    rfl

/-! ## Sessions after an operation -/

theorem state?_of_get? {id : SessionId} {session : Session}
    (h : registry.sessions.get? id = some session) : registry.state? id = some session.state := by
  unfold state?
  rw [h]
  rfl

theorem state?_of_insert (registry : Registry) {id : SessionId} {session : Session}
    (h : after.sessions = registry.sessions.insert id session) (known : SessionId) :
    after.state? known = if known = id then some session.state else registry.state? known := by
  unfold state?
  rw [h, Table.get?_insert]
  by_cases hKnown : known = id
  · rw [if_pos hKnown, if_pos hKnown]
    rfl
  · rw [if_neg hKnown, if_neg hKnown]

/-- A session in the place of one that was as open leaves all states as they were. -/
theorem state?_of_replace {id : SessionId} {session replaced : Session}
    (h : after.sessions = registry.sessions.insert id session)
    (hReplaced : registry.sessions.get? id = some replaced)
    (hState : session.state = replaced.state) (known : SessionId) :
    after.state? known = registry.state? known := by
  rw [state?_of_insert registry h]
  by_cases hKnown : known = id
  · rw [if_pos hKnown, hKnown, state?_of_get? hReplaced, hState]
  · rw [if_neg hKnown]

theorem isSome_state? (id : SessionId) :
    (registry.state? id).isSome = (registry.sessions.get? id).isSome := Option.isSome_map

theorem get?_modifySession {id known : SessionId} {f : Session → Session} :
    (registry.modifySession id f).sessions.get? known =
      if known = id then (registry.sessions.get? id).map f else registry.sessions.get? known := by
  unfold modifySession
  split
  · -- there is no such session, and nothing to change
    rename_i hNone
    by_cases hKnown : known = id
    · rw [hKnown, if_pos rfl, hNone]
      rfl
    · rw [if_neg hKnown]
  · rename_i session hSome
    show (registry.sessions.insert id (f session)).get? known = _
    rw [Table.get?_insert, hSome]
    rfl

theorem state?_modifySession {id : SessionId} {f : Session → Session}
    (hState : ∀ session, (f session).state = session.state) (known : SessionId) :
    (registry.modifySession id f).state? known = registry.state? known := by
  unfold state?
  rw [get?_modifySession]
  by_cases hKnown : known = id
  · rw [if_pos hKnown, hKnown, Option.map_map]
    cases registry.sessions.get? id with
    | none => rfl
    | some session => exact congrArg some (hState session)
  · rw [if_neg hKnown]

@[simp] theorem services_modifySession {id : SessionId} {f : Session → Session} :
    (registry.modifySession id f).services = registry.services := by
  unfold modifySession
  split <;> rfl

@[simp] theorem live_modifySession {id : SessionId} {f : Session → Session} :
    (registry.modifySession id f).live = registry.live := by
  unfold modifySession
  split <;> rfl

@[simp] theorem config_modifySession {id : SessionId} {f : Session → Session} :
    (registry.modifySession id f).config = registry.config := by
  unfold modifySession
  split <;> rfl

@[simp] theorem hub_modifySession {id : SessionId} {f : Session → Session} :
    (registry.modifySession id f).hub = registry.hub := by
  unfold modifySession
  split <;> rfl

/-- A change that leaves every session as it is. -/
theorem modifySession_eq_self {id : SessionId} {f : Session → Session}
    (h : ∀ session, registry.sessions.get? id = some session → f session = session) :
    registry.modifySession id f = registry := by
  unfold modifySession
  split
  · rfl
  · rename_i session hSession
    rw [h session hSession, Table.insert_of_get? hSession]

theorem deliver_snd (id : SessionId) (delivery : Delivery) :
    (registry.deliver id delivery).2 =
      registry.modifySession id (fun session => (session.deliver delivery).2) := by
  unfold deliver modifySession
  cases registry.sessions.get? id <;> rfl

@[simp] theorem hub_deliver (id : SessionId) (delivery : Delivery) :
    (registry.deliver id delivery).2.hub = registry.hub := by
  rw [deliver_snd, hub_modifySession]

theorem deliver_fst (id : SessionId) (delivery : Delivery) :
    (registry.deliver id delivery).1 =
      ((registry.sessions.get? id).map (fun session => (session.deliver delivery).1)).getD
        .closed := by
  unfold deliver
  cases registry.sessions.get? id <;> rfl

end Registry

/-! ## Sessions -/

theorem Session.deliver_of_opened {session : Session} (h : session.state = .opened)
    (delivery : Delivery) :
    session.deliver delivery = (.ofOffer (session.sink.deliver delivery).1,
      { session with sink := (session.sink.deliver delivery).2 }) := by
  unfold Session.deliver
  rw [h]

@[simp] theorem Session.state_deliver (session : Session) (delivery : Delivery) :
    (session.deliver delivery).2.state = session.state := by
  cases h : session.state with
  | opened =>
    rw [Session.deliver_of_opened h]
    exact h
  | closed =>
    rw [Session.deliver_of_closed h]
    exact h

end Fanout
