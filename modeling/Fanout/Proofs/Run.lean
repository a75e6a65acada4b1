import Fanout.Proofs.Registry
import Fanout.Server.Inbound

/-!
# Fanout — runs of a server

A run is a list of commands carried out in order. Besides the operations that a
predicate may ask for as well, the commands are what stands around a server:
messages of a transport, additions from a module other than the server's own, a
second router on the same registry, listeners, and the clients that read their
channels.

## Main definitions

* `Command` — one thing that is done to a server.
* `Server.execute` — carry out a command.
* `Server.run` — carry out a list of commands, with a record of every step.
-/

namespace Fanout

/-- What a client does with its session. -/
inductive SessionUse where
  | receive
  | drain
  /-- Let go of the channel. -/
  | release
  | hold
  | unhold

/-- What a listener does with its queue. -/
inductive ListenerUse where
  | receive
  | drain
  | release

/-- One thing that is done to a server. -/
inductive Command where
  | request (request : Request)
  | inbound (message : Inbound)
  /-- Add a publication compiled from the given module. -/
  | addFrom (module : FilterModule) (connection : ConnectionId) (service : String)
      (spec : PublicationSpec)
  /-- Route an event by a router with counters of its own. -/
  | route (mutation : Mutation)
  | subscribe (scope : Option ConnectionId)
  | session (id : SessionId) (use : SessionUse)
  | listener (id : ListenerId) (use : ListenerUse)

/-- What a command gives. -/
inductive Outcome where
  | done
  | reply (reply : Reply)
  | listening (id : ListenerId)
  | received (delivery : Registry.Received Delivery)
  | deliveries (deliveries : List Delivery)
  | diagnostic (diagnostic : Option Diagnostic)
  | diagnostics (diagnostics : List Diagnostic)

namespace Registry

/-- Use a session as its client. -/
def useSession (registry : Registry) (id : SessionId) : SessionUse → Outcome × Registry
  | .receive => ((.received (registry.receive id).1), (registry.receive id).2)
  | .drain => ((.deliveries (registry.drain id).1), (registry.drain id).2)
  | .release => (.done, registry.releaseChannel id)
  | .hold => (.done, registry.hold id)
  | .unhold => (.done, registry.unhold id)

end Registry

/-- A session with its channel, if it has one, changed. -/
def Session.onChannel (f : Channel Delivery → Channel Delivery) (session : Session) : Session :=
  match session.sink.outlet with
  | .channel queue => { session with sink := { session.sink with outlet := .channel (f queue) } }
  | .callback _ => session

/-- What a client's use does to its session. -/
def SessionUse.change : SessionUse → Session → Session
  | .receive => Session.onChannel (fun queue => queue.receive.2)
  | .drain => Session.onChannel (fun queue => queue.drain.2)
  | .release => Session.onChannel Channel.release
  | .hold => fun session => { session with holders := session.holders + 1 }
  | .unhold => fun session => { session with holders := session.holders - 1 }

theorem Session.onChannel_eq_self {f : Channel Delivery → Channel Delivery} {session : Session}
    (h : ∀ queue, session.sink.channel? = some queue → f queue = queue) :
    session.onChannel f = session := by
  unfold Session.onChannel
  unfold Sink.channel? at h
  split
  · rename_i queue hOutlet
    rw [hOutlet] at h
    rw [h queue rfl, ← hOutlet]
  · rfl

/-- A client's use leaves a session as open as it was, and what its sink was handed. -/
theorem SessionUse.change_keeps (use : SessionUse) (session : Session) :
    (use.change session).state = session.state ∧ (use.change session).adds = session.adds ∧
      (use.change session).sink.log = session.sink.log := by
  -- what is done to a channel touches neither the state nor the record of the session
  have hChannel : ∀ f, (session.onChannel f).state = session.state ∧
      (session.onChannel f).adds = session.adds ∧
        (session.onChannel f).sink.log = session.sink.log := by
    intro f
    unfold Session.onChannel
    split <;> exact ⟨rfl, rfl, rfl⟩
  cases use with
  | receive => exact hChannel _
  | drain => exact hChannel _
  | release => exact hChannel _
  | hold => exact ⟨rfl, rfl, rfl⟩
  | unhold => exact ⟨rfl, rfl, rfl⟩

theorem Registry.useSession_snd (registry : Registry) (id : SessionId) (use : SessionUse) :
    (registry.useSession id use).2 = registry.modifySession id use.change := by
  cases use with
  | receive =>
    show (registry.receive id).2 = _
    unfold Registry.receive
    cases hQueued : registry.queued id with
    | cons delivery rest => rfl
    | nil =>
      -- nothing is taken from an empty queue
      have hSame : registry.modifySession id SessionUse.receive.change = registry := by
        refine Registry.modifySession_eq_self (fun session hSession => ?_)
        refine Session.onChannel_eq_self (fun queue hQueue => ?_)
        unfold Registry.queued Registry.channel? at hQueued
        rw [hSession, Option.bind_some, hQueue] at hQueued
        unfold Channel.receive
        rw [show queue.queue = [] from hQueued]
      rw [hSame]
      cases registry.sessions.get? id <;> rfl
  | drain => rfl
  | release => rfl
  | hold => rfl
  | unhold => rfl

theorem Registry.services_useSession (registry : Registry) (id : SessionId) (use : SessionUse) :
    (registry.useSession id use).2.services = registry.services := by
  rw [useSession_snd]
  exact services_modifySession

/-- What a client gets hangs on its session alone. -/
theorem Registry.useSession_fst_congr {first second : Registry} {id : SessionId}
    (h : first.sessions.get? id = second.sessions.get? id) (use : SessionUse) :
    (first.useSession id use).1 = (second.useSession id use).1 := by
  -- the queue is that of the session
  have hQueued : first.queued id = second.queued id := by
    unfold Registry.queued Registry.channel?
    rw [h]
  cases use with
  | receive =>
    show Outcome.received (first.receive id).1 = Outcome.received (second.receive id).1
    unfold Registry.receive
    rw [hQueued, h]
    cases second.queued id with
    | cons delivery rest => rfl
    | nil => cases second.sessions.get? id <;> rfl
  | drain =>
    show Outcome.deliveries (first.queued id) = Outcome.deliveries (second.queued id)
    rw [hQueued]
  | release => rfl
  | hold => rfl
  | unhold => rfl

/-- Use a listener's queue. -/
def Hub.useListener (hub : Hub) (id : ListenerId) : ListenerUse → Outcome × Hub
  | .receive => (.diagnostic (hub.receive id).1, (hub.receive id).2)
  | .drain => (.diagnostics (hub.drain id).1, (hub.drain id).2)
  | .release => (.done, hub.release id)

namespace Server

/-- Compile a spec from any module and store it. -/
def addFrom (server : Server) (module : FilterModule) (connection : ConnectionId)
    (service : String) (spec : PublicationSpec) : Reply × Server :=
  let (result, registry) := server.registry.addPublication connection service module spec
  (replyOf (fun _ => .done) result, { server with registry })

theorem addFrom_eq {server : Server} {module : FilterModule} {connection : ConnectionId}
    {service : String} {spec : PublicationSpec} {registry : Registry}
    {result : Except PublicationError Publication}
    (h : server.registry.addPublication connection service module spec = (result, registry)) :
    server.addFrom module connection service spec =
      (replyOf (fun _ => .done) result, { server with registry }) := by
  unfold addFrom
  rw [h]

/-- Carry out a command; events that predicates publish may nest `depth` deep. -/
def execute (depth : Nat) (server : Server) : Command → Option (Outcome × Server)
  | .request request =>
    (server.perform depth request).map (fun (reply, server) => (.reply reply, server))
  | .inbound message => (server.handle depth message).map (fun server => (.done, server))
  | .addFrom module connection service spec =>
    let (reply, server) := server.addFrom module connection service spec
    some (.reply reply, server)
  | .route mutation =>
    (server.route depth mutation).map (fun (summary, server) => (.reply (.routed summary), server))
  | .subscribe scope =>
    let (id, server) := server.subscribe scope
    some (.listening id, server)
  | .session id use =>
    let (outcome, registry) := server.registry.useSession id use
    some (outcome, { server with registry })
  | .listener id use =>
    let (outcome, hub) := server.registry.hub.useListener id use
    some (outcome, { server with registry := { server.registry with hub } })

/-- One step of a run. -/
structure Step where
  before : Server
  command : Command
  outcome : Outcome
  after : Server

/-- Carry out commands in order. -/
def run (depth : Nat) : Server → List Command → Option (List Step × Server)
  | server, [] => some ([], server)
  | server, command :: rest => do
    let (outcome, after) ← server.execute depth command
    let (steps, last) ← run depth after rest
    return (⟨server, command, outcome, after⟩ :: steps, last)

theorem run_cons_eq_some_iff {depth : Nat} {server last : Server} {command : Command}
    {rest : List Command} {steps : List Step} :
    server.run depth (command :: rest) = some (steps, last) ↔
      ∃ outcome after later, server.execute depth command = some (outcome, after) ∧
        after.run depth rest = some (later, last) ∧
        steps = ⟨server, command, outcome, after⟩ :: later := by
  show (server.execute depth command).bind _ = some (steps, last) ↔ _
  rw [Option.bind_eq_some_iff]
  constructor
  · rintro ⟨⟨outcome, after⟩, hExecute, h⟩
    obtain ⟨⟨later, final⟩, hRun, hEnd⟩ := Option.bind_eq_some_iff.mp h
    cases hEnd
    exact ⟨outcome, after, later, hExecute, hRun, rfl⟩
  · rintro ⟨outcome, after, later, hExecute, hRun, rfl⟩
    refine ⟨(outcome, after), hExecute, ?_⟩
    exact Option.bind_eq_some_iff.mpr ⟨(later, last), hRun, rfl⟩

end Server

/-- The connection that an operation is done for. -/
def Request.owner? : Request → Option ConnectionId
  | .openConnection connection _ => some connection
  | .closeConnection connection => some connection
  | .addPublication connection _ _ => some connection
  | .removePublication connection _ => some connection
  | .attend | .publish _ => none

/-- The event that an operation has routed. -/
def Request.event? : Request → Option Mutation
  | .publish mutation => some mutation
  | _ => none

/-- The connection that a command is made for. -/
def Command.owner? : Command → Option ConnectionId
  | .request asked => asked.owner?
  | .inbound message => message.request.owner?
  | .addFrom _ connection _ _ => some connection
  | .route _ => none
  | .subscribe scope => scope
  | .session id _ => some id.connection
  | .listener id _ => id.scope

/-- The event that a command has routed. -/
def Command.event? : Command → Option Mutation
  | .request asked => asked.event?
  | .inbound message => message.request.event?
  | .route mutation => some mutation
  | _ => none

/-- Whether the event that a command has routed is counted. -/
def Command.counted : Command → Bool
  | .route _ => false
  | _ => true

/-- What a command gives that has an event routed to this summary; a message has no answer. -/
def Command.routed (summary : Summary) : Command → Outcome
  | .inbound _ => .done
  | _ => .reply (.routed summary)

/-- A command adds a publication: from which module, for which connection and to which spec, the
filters being those of the server. -/
inductive Command.Adds (filters : FilterModule) :
    Command → FilterModule → ConnectionId → PublicationSpec → Prop
  | request {connection service spec} :
      Adds filters (.request (.addPublication connection service spec)) filters connection spec
  | addFrom {module connection service spec} :
      Adds filters (.addFrom module connection service spec) module connection spec

/-- What the command compiles is free of acting predicates. -/
def Command.Pure : Command → Prop
  | .addFrom module _ _ _ => module.Pure
  | _ => True

end Fanout
