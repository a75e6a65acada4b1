import Fanout.Data.Sorting
import Fanout.Filter.Module
import Fanout.Hub
import Fanout.Registry.Config
import Fanout.Registry.Session

/-!
# Fanout — the registry

The registry knows the open connections and, for each service, the publication of
each connection, at most one. Closing a connection releases all its publications.
A service without publications is not kept.

Every change is reported to the diagnostics hub, under the connection it concerns.

An operation that is refused gives the reason, beside the registry as it then is.

## Main definitions

* `Registry.openConnection`, `Registry.closeConnection` — the life of a connection.
* `Registry.addPublication`, `Registry.removePublication` — its publications.
* `Registry.snapshot` — the publications on a service, by connection.
-/

namespace Fanout

/-- The publications on a service, by connection. -/
abbrev ServicePublications := Table ConnectionId Publication

/-- Connections, publications and the hub that hears of their changes. -/
structure Registry where
  config : Config
  /-- Every session there ever was. -/
  sessions : Table SessionId Session := Table.empty
  /-- The session of each open connection. -/
  live : Table ConnectionId SessionId := Table.empty
  /-- The publications, by service and then by connection. -/
  services : Table String ServicePublications := Table.empty
  hub : Hub

namespace Registry

/-- The registry without connections. -/
def new (config : Config) : Registry :=
  { config, hub := { capacity := config.diagnosticBufferSize } }

/-! ## Observers -/

/-- The session of an open connection. -/
def session? (registry : Registry) (connection : ConnectionId) : Option SessionId :=
  registry.live.get? connection

/-- The state of a session. -/
def state? (registry : Registry) (id : SessionId) : Option SessionState :=
  (registry.sessions.get? id).map Session.state

/-- The session of a connection, if it goes on. -/
def liveSession? (registry : Registry) (connection : ConnectionId) :
    Option (SessionId × Session) := do
  let id ← registry.session? connection
  let session ← registry.sessions.get? id
  if session.state = .opened then some (id, session) else none

/-- Whether a connection is open. -/
def isOpen (registry : Registry) (connection : ConnectionId) : Bool :=
  (registry.liveSession? connection).isSome

/-- The number of open connections. -/
def connectionCount (registry : Registry) : Nat := registry.live.size

/-- The publications on a service, by connection. -/
def publicationsOn (registry : Registry) (service : String) : ServicePublications :=
  (registry.services.get? service).getD Table.empty

/-- The publications on a service as they are now. They are listed as the table has them; no order
is promised to those who go through them. -/
def snapshot (registry : Registry) (service : String) : List (ConnectionId × Publication) :=
  (registry.publicationsOn service).entries

/-- The publication of a connection on a service. -/
def publication? (registry : Registry) (connection : ConnectionId) (service : String) :
    Option Publication :=
  (registry.publicationsOn service).get? connection

/-- The services that a connection has publications on, sorted. -/
def servicesFor (registry : Registry) (connection : ConnectionId) : List String :=
  Ordered.sort
    ((registry.services.entries.filter (fun entry => entry.2.contains connection)).map Prod.fst)

/-- The number of publications. -/
def publicationCount (registry : Registry) : Nat :=
  (registry.services.values.flatMap Table.entries).length

/-- The number of services with publications. -/
def serviceCount (registry : Registry) : Nat := registry.services.size

/-- The number of sessions that a connection has had. -/
def sessionCount (registry : Registry) (connection : ConnectionId) : Nat :=
  (registry.sessions.keys.filter (fun id => id.connection == connection)).length

/-! ## Changes -/

/-- Report a diagnostic. -/
def emit (registry : Registry) (connection : ConnectionId) (diagnostic : Diagnostic) : Registry :=
  { registry with hub := registry.hub.emit (some connection) diagnostic }

/-- Start a session of a connection that is not open. -/
def openConnection (registry : Registry) (connection : ConnectionId) (sink : Sink) :
    Except PublicationError SessionId × Registry :=
  if registry.live.contains connection then (.error (.connectionExists connection), registry)
  else
    let id : SessionId := ⟨connection, registry.sessionCount connection⟩
    (.ok id, { registry with
      sessions := registry.sessions.insert id { sink }
      live := registry.live.insert connection id })

/-- Drop a connection's publication from one service after the other. Beside the services that are
left with some, the names of those that had one of the connection. -/
def dropEach (connection : ConnectionId) :
    List (String × ServicePublications) → List String × List (String × ServicePublications)
  | [] => ([], [])
  | (service, publications) :: rest =>
    let (released, kept) := dropEach connection rest
    let left := publications.erase connection
    (if publications.contains connection then service :: released else released,
      if left.isEmpty then kept else (service, left) :: kept)

/-- The publications on a service without the one of a connection, if there are others. -/
def leave (connection : ConnectionId) (_ : String) (publications : ServicePublications) :
    Option ServicePublications :=
  let left := publications.erase connection
  if left.isEmpty then none else some left

/-- The services whose publications are dropped are those that had one of the connection. -/
theorem dropEach_eq (connection : ConnectionId) (services : List (String × ServicePublications)) :
    dropEach connection services =
      ((services.filter (fun entry => entry.2.contains connection)).map Prod.fst,
        Entries.filterMap (leave connection) services) := by
  induction services with
  | nil => rfl
  | cons entry rest ih =>
    obtain ⟨service, publications⟩ := entry
    rw [dropEach, ih]
    unfold Entries.filterMap
    rw [List.filter_cons, List.filterMap_cons]
    unfold leave
    dsimp only
    refine Prod.ext ?_ ?_
    · cases publications.contains connection <;> rfl
    · cases (publications.erase connection).isEmpty <;> rfl

/-- Drop the publications of a connection, and the services left without any; gives the services
that had one, sorted. -/
def releaseAll (registry : Registry) (connection : ConnectionId) : List String × Registry :=
  (Ordered.sort (dropEach connection registry.services.entries).1,
    { registry with
      services := ⟨(dropEach connection registry.services.entries).2, by
        rw [dropEach_eq]
        exact registry.services.ascending.filterMap _⟩ })

/-- What is released is what the connection held. -/
theorem releaseAll_eq (registry : Registry) (connection : ConnectionId) :
    registry.releaseAll connection = (registry.servicesFor connection,
      { registry with services := registry.services.filterMap (leave connection) }) := by
  unfold releaseAll servicesFor Table.filterMap
  simp only [dropEach_eq]

/-- Close a connection and release its publications; gives the services they were on, or none if the
connection is not open. -/
def closeConnection (registry : Registry) (connection : ConnectionId) :
    Option (List String) × Registry :=
  match registry.liveSession? connection with
  | none => (none, registry)
  | some (id, session) =>
    let (released, registry) := registry.releaseAll connection
    let registry := { registry with
      sessions := registry.sessions.insert id { session with state := .closed }
      live := registry.live.erase connection }
    (some released, registry.emit connection (.connectionClosed connection released))

/-- Do something if a session still goes on. -/
def whileOpen {α : Type} (registry : Registry) (id : SessionId) (act : Registry → α × Registry) :
    Option α × Registry :=
  if registry.state? id = some .opened then
    let (result, registry) := act registry
    (some result, registry)
  else (none, registry)

/-- The result of what was to be done if a session went on, or else that its connection is stale. -/
def orStale {α : Type} (connection : ConnectionId) :
    Option α × Registry → Except PublicationError α × Registry
  | (some result, registry) => (.ok result, registry)
  | (none, registry) => (.error (.staleConnection connection), registry)

/-- Compile a spec and store it as the publication of a connection on a service, in place of an
earlier one. The connection has to be open before the spec is looked at, and when the publication is
stored. -/
def addPublication (registry : Registry) (connection : ConnectionId) (service : String)
    (module : FilterModule) (spec : PublicationSpec) :
    Except PublicationError Publication × Registry :=
  match registry.liveSession? connection with
  | none => (.error (.staleConnection connection), registry)
  | some (id, session) =>
    let params := spec.positionalParams
    match module.compile spec.name params with
    | .error error => (.error error, registry)
    | .ok predicate =>
      let publication : Publication :=
        { connection, service, name := spec.name, params, predicate, ifServer := spec.ifServer
          checkBefore := spec.checkBefore, session := id, stamp := session.adds }
      orStale connection (registry.whileOpen id (fun registry =>
        let publications := (registry.publicationsOn service).insert connection publication
        let registry := { registry with
          sessions := registry.sessions.insert id { session with adds := session.adds + 1 }
          services := registry.services.insert service publications }
        (publication, registry.emit connection
          (.addPublication service spec.name params publication.flags publication.flags))))

/-- Drop the publication of a connection on a service, and the service if it has no other; gives
the name of the filter if there was one. -/
def removePublication (registry : Registry) (connection : ConnectionId) (service : String) :
    Except PublicationError (List String) × Registry :=
  match registry.liveSession? connection with
  | none => (.error (.staleConnection connection), registry)
  | some (id, _) =>
    orStale connection (registry.whileOpen id (fun registry =>
      match registry.services.get? service with
      -- nothing is created for a service that is not known
      | none => ([], registry.emit connection (.removePublication service []))
      | some publications =>
        let removed := ((publications.get? connection).map Publication.name).toList
        let left := publications.erase connection
        -- what is reported is what the connection has on the service now
        let keys := ((left.get? connection).map Publication.name).toList
        let registry := registry.emit connection (.removePublication service keys)
        let services :=
          if left.isEmpty then registry.services.erase service
          else registry.services.insert service left
        (removed, { registry with services })))

/-! ## Sessions and their sinks -/

/-- Change one session. -/
def modifySession (registry : Registry) (id : SessionId) (f : Session → Session) : Registry :=
  match registry.sessions.get? id with
  | none => registry
  | some session => { registry with sessions := registry.sessions.insert id (f session) }

/-- Hand a delivery to a session. -/
def deliver (registry : Registry) (id : SessionId) (delivery : Delivery) :
    DeliveryOutcome × Registry :=
  match registry.sessions.get? id with
  | none => (.closed, registry)
  | some session =>
    let (outcome, session) := session.deliver delivery
    (outcome, { registry with sessions := registry.sessions.insert id session })

/-- The channel of a session that has one. -/
def channel? (registry : Registry) (id : SessionId) : Option (Channel Delivery) :=
  (registry.sessions.get? id).bind (fun session => session.sink.channel?)

/-- Change the channel of a session that has one. -/
def modifyChannel (registry : Registry) (id : SessionId)
    (f : Channel Delivery → Channel Delivery) : Registry :=
  registry.modifySession id (fun session =>
    match session.sink.outlet with
    | .channel queue => { session with sink := { session.sink with outlet := .channel (f queue) } }
    | .callback _ => session)

/-- The deliveries queued for the client of a session. -/
def queued (registry : Registry) (id : SessionId) : List Delivery :=
  match registry.channel? id with
  | some channel => channel.queue
  | none => []

/-- What a client gets that reads its channel. -/
inductive Received (α : Type) where
  | item (item : α)
  /-- Nothing is queued, but something may still come. -/
  | nothing
  /-- Nothing is queued, and nothing can come any more. -/
  | disconnected

/-- Take the next delivery queued for the client of a session. What was queued before the session
ended is still received. -/
def receive (registry : Registry) (id : SessionId) : Received Delivery × Registry :=
  match registry.queued id with
  | delivery :: _ => (.item delivery, registry.modifyChannel id (fun queue => queue.receive.2))
  | [] =>
    match registry.sessions.get? id with
    | some session => (if session.connected then .nothing else .disconnected, registry)
    | none => (.disconnected, registry)

/-- Take everything queued for the client of a session. -/
def drain (registry : Registry) (id : SessionId) : List Delivery × Registry :=
  (registry.queued id, registry.modifyChannel id (fun queue => queue.drain.2))

/-- The client of a session lets go of its channel. -/
def releaseChannel (registry : Registry) (id : SessionId) : Registry :=
  registry.modifyChannel id Channel.release

/-- Somebody keeps a session. -/
def hold (registry : Registry) (id : SessionId) : Registry :=
  registry.modifySession id (fun session => { session with holders := session.holders + 1 })

/-- Somebody no longer keeps a session. -/
def unhold (registry : Registry) (id : SessionId) : Registry :=
  registry.modifySession id (fun session => { session with holders := session.holders - 1 })

/-- The deliveries handed to the sink with a mark; none if no session has it. -/
def handedTo (registry : Registry) (mark : Nat) : List Delivery :=
  match registry.sessions.values.find? (fun session => session.sink.mark == mark) with
  | some session => session.sink.handed
  | none => []

end Registry

end Fanout
