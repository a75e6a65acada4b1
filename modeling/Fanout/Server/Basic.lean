import Fanout.Registry.Basic

/-!
# Fanout — the server

A server is a registry together with the filter module that publications are
compiled from and the counters of its router.

## Main definitions

* `Server.evaluate` — evaluate a predicate that may act on the server.
* `Server.route` — test one event against the publications on its service.
* `Server.publish` — route an event and count it.
* `Server.perform` — any one operation, as a predicate asks for it.

A predicate may publish further events while it is evaluated. How deep publishing
may nest is an explicit argument, and there is no outcome beyond it; where no
predicate acts, one level is enough.
-/

namespace Fanout

/-- A registry, the filters of its publications, and the counters of its router. -/
structure Server where
  filters : FilterModule
  registry : Registry
  stats : Stats := {}

namespace Server

/-- The server without connections. -/
def new (filters : FilterModule) (config : Config) : Server :=
  { filters, registry := Registry.new config }

/-! ## Connections and publications -/

/-- Start a session of a connection. -/
def openConnection (server : Server) (connection : ConnectionId) (sink : Sink) :
    Except PublicationError SessionId × Server :=
  let (result, registry) := server.registry.openConnection connection sink
  (result, { server with registry })

/-- Start a session of a connection over a channel of the configured capacity. -/
def openChannel (server : Server) (connection : ConnectionId) :
    Except PublicationError SessionId × Server :=
  server.openConnection connection (Sink.ofCapacity server.registry.config.bufferSize)

/-- Close a connection and release its publications. -/
def closeConnection (server : Server) (connection : ConnectionId) :
    Option (List String) × Server :=
  let (released, registry) := server.registry.closeConnection connection
  (released, { server with registry })

/-- Compile a spec from the server's filters and store it. -/
def addPublication (server : Server) (connection : ConnectionId) (service : String)
    (spec : PublicationSpec) : Except PublicationError Publication × Server :=
  let (result, registry) := server.registry.addPublication connection service server.filters spec
  (result, { server with registry })

/-- Drop the publication of a connection on a service. -/
def removePublication (server : Server) (connection : ConnectionId) (service : String) :
    Except PublicationError (List String) × Server :=
  let (result, registry) := server.registry.removePublication connection service
  (result, { server with registry })

/-- Report a diagnostic. -/
def emit (server : Server) (connection : ConnectionId) (diagnostic : Diagnostic) : Server :=
  { server with registry := server.registry.emit connection diagnostic }

/-- Listen to the diagnostics of one connection, or to all. -/
def subscribe (server : Server) (scope : Option ConnectionId) : ListenerId × Server :=
  let (id, hub) := server.registry.hub.subscribe scope
  (id, { server with registry := { server.registry with hub } })

/-! ## Acting predicates -/

/-- Publish an event, if the nesting has room for it. -/
abbrev Publisher := Mutation → Server → Option (Summary × Server)

/-- The reply to an operation that may have been refused. -/
def replyOf {α : Type} (reply : α → Reply) : Except PublicationError α → Reply
  | .ok value => reply value
  | .error error => .refused error

/-- Do what a predicate asks for. The server is left as the operation leaves it, refused or not. -/
def respond (publish : Publisher) (server : Server) : Request → Option (Reply × Server)
  | .attend => some (.done, server)
  | .openConnection connection sink =>
    let (result, server) := server.openConnection connection sink
    some (replyOf (fun _ => .done) result, server)
  | .closeConnection connection =>
    let (released, server) := server.closeConnection connection
    some (.released released, server)
  | .addPublication connection service spec =>
    let (result, server) := server.addPublication connection service spec
    some (replyOf (fun _ => .done) result, server)
  | .removePublication connection service =>
    let (result, server) := server.removePublication connection service
    some (replyOf .removed result, server)
  | .publish mutation => do
    let (summary, server) ← publish mutation server
    return (.routed summary, server)

/-- Carry out a behaviour to its answer. -/
def carryOut (publish : Publisher) : Behaviour → Server → Option (Except FilterError Bool × Server)
  | .answer result, server => some (result, server)
  | .act request next, server => do
    let (reply, server) ← server.respond publish request
    carryOut publish (next reply) server

/-! ## Routing -/

/-- What routing an event needs to know of it: the record as the server sees it and as clients see
it, before and after the change. -/
structure Views where
  candidate : Json
  after : Json
  clientCandidate : Json
  clientAfter : Json

/-- The views of an event, `hidden` being the fields that only the server may see. -/
def Views.of (hidden : List String) (mutation : Mutation) : Views where
  candidate := mutation.candidate
  after := mutation.after
  clientCandidate := mutation.candidate.without hidden
  clientAfter := mutation.after.without hidden

/-- The record that a publication is tested on. -/
def Views.tested (views : Views) (publication : Publication) : Json :=
  match publication.checkBefore, publication.ifServer with
  | true, true => views.candidate
  | true, false => views.clientCandidate
  | false, true => views.after
  | false, false => views.clientAfter

/-- A routing under way. -/
structure Progress where
  server : Server
  summary : Summary := {}
  /-- The connections whose sinks turned out to be gone. -/
  gone : List ConnectionId := []

/-- Report that a delivery was lost. -/
def Progress.lose (progress : Progress) (connection : ConnectionId) (service : String)
    (reason : DropReason) : Progress :=
  { progress with
    server := progress.server.emit connection (.deliveryDropped service connection reason)
    summary := { progress.summary with dropped := progress.summary.dropped + 1 } }

/-- Hand a match to its session. -/
def Progress.deliver (progress : Progress) (publication : Publication) (delivery : Delivery) :
    Progress :=
  let summary := { progress.summary with matched := progress.summary.matched + 1 }
  let (outcome, registry) := progress.server.registry.deliver publication.session delivery
  let progress := { progress with server := { progress.server with registry }, summary }
  -- a session that ended meanwhile is no loss worth a report
  match outcome with
  | .delivered => { progress with summary := { summary with delivered := summary.delivered + 1 } }
  | .full => progress.lose delivery.connection delivery.service .bufferFull
  | .disconnected =>
    let progress := progress.lose delivery.connection delivery.service .disconnected
    { progress with gone := progress.gone ++ [delivery.connection] }
  | .closed => { progress with summary := { summary with dropped := summary.dropped + 1 } }

/-- Test one publication and hand on its match. A failure is reported and counts as no match. -/
def Progress.visit (publish : Publisher) (mutation : Mutation) (views : Views)
    (progress : Progress) (entry : ConnectionId × Publication) : Option Progress := do
  let (connection, publication) := entry
  let (result, server) ←
    carryOut publish (publication.predicate.behave (views.tested publication)) progress.server
  let progress := { progress with server }
  match result with
  | .ok true =>
    return progress.deliver publication
      ⟨connection, mutation.service, mutation.operation, views.clientAfter⟩
  | .ok false =>
    return { progress with
      summary := { progress.summary with suppressed := progress.summary.suppressed + 1 } }
  | .error error =>
    let failure : Diagnostic :=
      .predicateError mutation.service connection publication.name error.message
    return { progress with
      server := server.emit connection failure
      summary := { progress.summary with failed := progress.summary.failed + 1 } }

/-- Close the connections whose sinks turned out to be gone, if that is configured. -/
def Progress.finish (progress : Progress) : Summary × Server :=
  let server := progress.server
  if server.registry.config.closeOnDisconnect then
    (progress.summary,
      progress.gone.foldl (fun server connection => (server.closeConnection connection).2) server)
  else (progress.summary, server)

/-- Test an event against a list of publications, one after the other, and hand it to those that it
matches. -/
def routeOver (publish : Publisher) (publications : List (ConnectionId × Publication))
    (mutation : Mutation) (server : Server) : Option (Summary × Server) := do
  let hidden := server.registry.config.serverFieldsFor mutation.service
  let views := Views.of hidden mutation
  let progress ← publications.foldlM (Progress.visit publish mutation views) { server }
  return progress.finish

/-- Test an event against the publications that are on its service when routing starts, in the order
of the table, where any other would do. -/
def routeWith (publish : Publisher) (mutation : Mutation) (server : Server) :
    Option (Summary × Server) :=
  routeOver publish (server.registry.snapshot mutation.service) mutation server

/-- Count an event that comes in. -/
def arrive (server : Server) : Server := { server with stats := server.stats.arrive }

/-- Add what became of an event to the counters. -/
def record (server : Server) (summary : Summary) : Server :=
  { server with stats := server.stats.add summary }

/-- Route an event and count it: the event as it comes in, and what became of it once the routing is
over. Publishing may nest `depth` deep. -/
def publish : Nat → Publisher
  | 0 => fun _ _ => none
  | depth + 1 => fun mutation server =>
    let publications := server.registry.snapshot mutation.service
    let server := server.arrive
    -- where nobody publishes, nothing becomes of the event
    if publications.isEmpty then some ({}, server)
    else do
      let (summary, server) ← routeOver (publish depth) publications mutation server
      return (summary, server.record summary)

/-- Route an event without counting it, as a router with counters of its own does. Events that
predicates publish on the way are counted. -/
def route (depth : Nat) (mutation : Mutation) (server : Server) : Option (Summary × Server) :=
  routeWith (publish depth) mutation server

/-- Evaluate a predicate on a record; what it does to the server is done. -/
def evaluate (depth : Nat) (server : Server) (predicate : Predicate) (record : Json) :
    Option (Except FilterError Bool × Server) :=
  carryOut (publish depth) (predicate.behave record) server

/-- Any one operation. -/
def perform (depth : Nat) (server : Server) (request : Request) : Option (Reply × Server) :=
  respond (publish depth) server request

end Server

end Fanout
