import Fanout.Proofs.Registry
import Fanout.Server.Basic

/-!
# Fanout — what the steps of a routing do

The operations of a server are those of its registry. A routing tests the
publications of a snapshot one by one, and at its end closes the connections whose
sinks turned out to be gone; each part is told here once.

## Results

* `Server.Progress.visit_eq` — to visit a publication is to carry out its predicate and to conclude
  from the answer.
* `Server.Progress.finish_eq` — how a routing ends.
-/

namespace Fanout

variable {server : Server}

/-! ## Operations -/

theorem Server.closeConnection_of_not_live {connection : ConnectionId}
    (h : server.registry.liveSession? connection = none) :
    server.closeConnection connection = (none, server) := by
  unfold Server.closeConnection
  rw [Registry.closeConnection_of_not_live h]

section Respond

variable {publish : Server.Publisher} {registry : Registry} {connection : ConnectionId}

theorem Server.respond_openConnection {sink : Sink} {result : Except PublicationError SessionId}
    (h : server.registry.openConnection connection sink = (result, registry)) :
    server.respond publish (.openConnection connection sink) =
      some (replyOf (fun _ => .done) result, { server with registry }) := by
  show some (replyOf _ (server.registry.openConnection connection sink).1,
    { server with registry := (server.registry.openConnection connection sink).2 }) = _
  rw [h]

theorem Server.respond_addPublication {service : String} {spec : PublicationSpec}
    {result : Except PublicationError Publication}
    (h : server.registry.addPublication connection service server.filters spec =
      (result, registry)) :
    server.respond publish (.addPublication connection service spec) =
      some (replyOf (fun _ => .done) result, { server with registry }) := by
  let answer := server.registry.addPublication connection service server.filters spec
  show some (replyOf _ answer.1, { server with registry := answer.2 }) = _
  rw [show answer = (result, registry) from h]

theorem Server.respond_removePublication {service : String}
    {result : Except PublicationError (List String)}
    (h : server.registry.removePublication connection service = (result, registry)) :
    server.respond publish (.removePublication connection service) =
      some (replyOf .removed result, { server with registry }) := by
  show some (replyOf _ (server.registry.removePublication connection service).1,
    { server with registry := (server.registry.removePublication connection service).2 }) = _
  rw [h]

end Respond

/-- Nothing is closed for a connection that is not open. -/
theorem Server.closeConnection_none {connection : ConnectionId} {after : Server}
    (h : server.closeConnection connection = (none, after)) :
    server.registry.liveSession? connection = none ∧ after = server := by
  cases hLive : server.registry.liveSession? connection with
  | none =>
    rw [Server.closeConnection_of_not_live hLive] at h
    cases h
    exact ⟨rfl, rfl⟩
  | some found =>
    unfold Server.closeConnection at h
    rw [Registry.closeConnection_of_live hLive] at h
    cases h

/-- Close connections one after the other. -/
def Server.closeAll (server : Server) (connections : List ConnectionId) : Server :=
  connections.foldl (fun server connection => (server.closeConnection connection).2) server

/-! ## Routing -/

namespace Server

/-- What follows from the answer of a predicate. -/
def Progress.conclude (mutation : Mutation) (views : Views) (entry : ConnectionId × Publication)
    (result : Except FilterError Bool) (progress : Progress) : Progress :=
  match result with
  | .ok true =>
    progress.deliver entry.2 ⟨entry.1, mutation.service, mutation.operation, views.clientAfter⟩
  | .ok false =>
    { progress with
      summary := { progress.summary with suppressed := progress.summary.suppressed + 1 } }
  | .error error =>
    { progress with
      server := progress.server.emit entry.1
        (.predicateError mutation.service entry.1 entry.2.name error.message)
      summary := { progress.summary with failed := progress.summary.failed + 1 } }

theorem Progress.visit_eq (publish : Publisher) (mutation : Mutation) (views : Views)
    (progress : Progress) (entry : ConnectionId × Publication) :
    progress.visit publish mutation views entry =
      (carryOut publish (entry.2.predicate.behave (views.tested entry.2))
        progress.server).map (fun (result, server) =>
          { progress with server }.conclude mutation views entry result) := by
  obtain ⟨connection, publication⟩ := entry
  show (carryOut publish (publication.predicate.behave (views.tested publication))
    progress.server).bind _ = _
  cases carryOut publish (publication.predicate.behave (views.tested publication))
      progress.server with
  | none => rfl
  | some found =>
    -- the three answers that a predicate may give
    obtain ⟨result, server⟩ := found
    cases result with
    | error error => rfl
    | ok answer => cases answer <;> rfl

theorem Progress.finish_eq (progress : Progress) :
    progress.finish = (progress.summary,
      if progress.server.registry.config.closeOnDisconnect then
        progress.server.closeAll progress.gone
      else progress.server) := by
  unfold Progress.finish
  dsimp only
  split <;> rfl

end Server

end Fanout
