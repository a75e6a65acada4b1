import Fanout.Proofs.Delivery

/-!
# Fanout — operations that fail

An operation that fails does so for one reason, which can be read off the server,
and leaves everything as it was: sessions with their sinks and queues,
publications, listeners with what they have queued, and counters. It makes no
difference whether a caller asks for the operation or a predicate does in the
middle of a routing.

## Main definitions

* `Registry.AdditionFails` — why an addition is refused.
* `Reply.Failed`, `Outcome.Failed` — an answer that tells of a failure.

## Results

* `Registry.openConnection_eq_error_iff` and its counterparts — when an operation fails.
* `Server.respond_of_failed`, `Server.execute_of_failed` — a failure leaves the server as it was.
* `Machine.Run.failures_change_nothing` — what follows for every state of a run.
-/

namespace Fanout

/-! ## When an operation fails -/

namespace Registry

/-- Why an addition is refused. That the connection is not open counts before that the filter is
unknown, and that before what the filter makes of its params. -/
inductive AdditionFails (registry : Registry) (connection : ConnectionId) (module : FilterModule)
    (spec : PublicationSpec) : PublicationError → Prop
  | stale (hClosed : registry.isOpen connection = false) :
      AdditionFails registry connection module spec (.staleConnection connection)
  | unknownFilter (hOpen : registry.isOpen connection = true)
      (hUnknown : module.contains spec.name = false) :
      AdditionFails registry connection module spec (.unknownFilter spec.name)
  | filter {filter failure} (hOpen : registry.isOpen connection = true)
      (hFilter : module.get? spec.name = some filter)
      (hFailure : filter spec.positionalParams = .error failure) :
      AdditionFails registry connection module spec (.filter failure)

variable {registry after : Registry} {connection : ConnectionId} {service : String}
  {error : PublicationError}

theorem isOpen_eq_false_iff :
    registry.isOpen connection = false ↔ registry.liveSession? connection = none := by
  unfold isOpen
  rw [Option.isSome_eq_false_iff, Option.isNone_iff_eq_none]

theorem openConnection_eq_error_iff (hSound : registry.Sound) {sink : Sink} :
    registry.openConnection connection sink = (.error error, after) ↔
      registry.isOpen connection = true ∧ error = .connectionExists connection ∧
        after = registry := by
  -- a connection that is listed as open is in a session that goes on
  have hOpen : registry.isOpen connection = true ↔ (registry.live.get? connection).isSome :=
    hSound.liveSession?_isSome_iff
  rw [hOpen]
  constructor
  · exact openConnection_error
  · rintro ⟨hListed, rfl, rfl⟩
    unfold openConnection
    rw [Table.contains_eq, if_pos hListed]

theorem addPublication_eq_error_iff {module : FilterModule} {spec : PublicationSpec} :
    registry.addPublication connection service module spec = (.error error, after) ↔
      registry.AdditionFails connection module spec error ∧ after = registry := by
  constructor
  · intro h
    obtain ⟨hFails, hAfter⟩ := addPublication_error h
    refine ⟨?_, hAfter⟩
    rcases hFails with ⟨hLive, rfl⟩ | ⟨hLive, hCompile⟩
    · exact .stale (isOpen_eq_false_iff.mpr hLive)
    · rcases FilterModule.compile_eq_error_iff.mp hCompile with
        ⟨hUnknown, rfl⟩ | ⟨filter, failure, hFilter, hFailure, rfl⟩
      · refine .unknownFilter hLive ?_
        unfold FilterModule.contains
        rw [Table.contains_eq, Option.isSome_eq_false_iff, Option.isNone_iff_eq_none]
        exact hUnknown
      · exact .filter hLive hFilter hFailure
  · rintro ⟨h, rfl⟩
    -- of an open connection the spec is compiled, and its failure is passed on
    have hCompiled : ∀ {failure}, after.isOpen connection = true →
        module.compile spec.name spec.positionalParams = .error failure →
          after.addPublication connection service module spec = (.error failure, after) := by
      intro failure hOpen hCompile
      obtain ⟨⟨id, session⟩, hLive⟩ := Option.isSome_iff_exists.mp hOpen
      unfold addPublication
      rw [hLive]
      dsimp only
      rw [hCompile]
    cases h with
    | stale hClosed =>
      unfold addPublication
      rw [isOpen_eq_false_iff.mp hClosed]
    | unknownFilter hOpen hUnknown =>
      refine hCompiled hOpen (FilterModule.compile_eq_error_iff.mpr (.inl ⟨?_, rfl⟩))
      unfold FilterModule.contains at hUnknown
      rw [Table.contains_eq, Option.isSome_eq_false_iff, Option.isNone_iff_eq_none] at hUnknown
      exact hUnknown
    | filter hOpen hFilter hFailure =>
      exact hCompiled hOpen
        (FilterModule.compile_eq_error_iff.mpr (.inr ⟨_, _, hFilter, hFailure, rfl⟩))

theorem removePublication_eq_error_iff :
    registry.removePublication connection service = (.error error, after) ↔
      registry.isOpen connection = false ∧ error = .staleConnection connection ∧
        after = registry := by
  rw [isOpen_eq_false_iff]
  constructor
  · exact removePublication_error
  · rintro ⟨hClosed, rfl, rfl⟩
    unfold removePublication
    rw [hClosed]

/-- An operation that finds its session ended when it looks again has done nothing, whatever ended
the session. -/
theorem orStale_whileOpen_of_ended {α : Type} {id : SessionId} {act : Registry → α × Registry}
    (h : registry.state? id ≠ some .opened) :
    orStale connection (registry.whileOpen id act) =
      (.error (.staleConnection connection), registry) := by
  rw [whileOpen_of_ended h]
  rfl

theorem closeConnection_eq_none_iff :
    (registry.closeConnection connection).1 = none ↔ registry.isOpen connection = false := by
  rw [isOpen_eq_false_iff]
  cases hLive : registry.liveSession? connection with
  | none =>
    rw [closeConnection_of_not_live hLive]
    simp
  | some found =>
    rw [closeConnection_of_live hLive]
    simp

end Registry

/-! ## A failure leaves the server as it was -/

/-- The reply tells of a failure: the operation was refused, or found nothing to close. -/
def Reply.Failed : Reply → Prop
  | .refused _ | .released none => True
  | .unattended | .done | .released (some _) | .removed _ | .routed _ => False

/-- The outcome tells of a failure. -/
def Outcome.Failed : Outcome → Prop
  | .reply answer => answer.Failed
  | .done | .listening _ | .received _ | .deliveries _ | .diagnostic _ | .diagnostics _ => False

namespace Server

variable {server after : Server}

/-- What is done in an operation that fails is nothing. -/
theorem Does.of_failed {request : Request} {events : List Event} {reply : Reply}
    (hDoes : server.Does request events reply after) (hFailed : reply.Failed) :
    after = server ∧ events = [] := by
  cases hDoes using Server.Does.elim with
  | openRefused | notOpen | addRefused | removeRefused => exact ⟨rfl, rfl⟩
  | attended | opened | added | removed => cases hFailed
  | closed h =>
    -- an open connection is closed with a list of services, be it empty
    unfold closeConnection at hFailed
    rw [Registry.closeConnection_of_live h] at hFailed
    cases hFailed

/-- A predicate or a caller that is told of a failure finds the server as it was. -/
theorem respond_of_failed {publish : Publisher} {request : Request} {reply : Reply}
    (h : server.respond publish request = some (reply, after)) (hFailed : reply.Failed) :
    after = server := by
  cases hEvent : request.event? with
  | none =>
    obtain ⟨events, hDoes⟩ := respond_does h hEvent
    exact (hDoes.of_failed hFailed).1
  | some mutation =>
    -- to publish an event does not fail
    cases request <;> cases hEvent
    obtain ⟨⟨summary, routed⟩, -, hReply⟩ := Option.bind_eq_some_iff.mp h
    cases hReply
    cases hFailed

theorem addFrom_of_failed {module : FilterModule} {connection : ConnectionId} {service : String}
    {spec : PublicationSpec} (hFailed : (server.addFrom module connection service spec).1.Failed) :
    (server.addFrom module connection service spec).2 = server := by
  obtain ⟨⟨result, registry⟩, hAdd⟩ :
      ∃ done, server.registry.addPublication connection service module spec = done := ⟨_, rfl⟩
  rw [addFrom_eq hAdd] at hFailed ⊢
  cases result with
  | error error =>
    obtain ⟨-, rfl⟩ := Registry.addPublication_error hAdd
    rfl
  | ok publication => cases hFailed

theorem execute_of_failed {depth : Nat} {command : Command} {outcome : Outcome}
    (h : server.execute depth command = some (outcome, after)) (hFailed : outcome.Failed) :
    after = server := by
  cases command with
  | request asked =>
    obtain ⟨⟨reply, replied⟩, hPerform, hDone⟩ := Option.map_eq_some_iff.mp h
    cases hDone
    exact respond_of_failed hPerform hFailed
  | addFrom module connection service spec =>
    cases h
    exact addFrom_of_failed hFailed
  | inbound message =>
    obtain ⟨handled, -, hDone⟩ := Option.map_eq_some_iff.mp h
    cases hDone
    cases hFailed
  | route mutation =>
    obtain ⟨⟨summary, routed⟩, -, hDone⟩ := Option.map_eq_some_iff.mp h
    cases hDone
    cases hFailed
  | subscribe scope =>
    cases h
    cases hFailed
  | session id use =>
    cases h
    cases use <;> cases hFailed
  | listener id use =>
    cases h
    cases use <;> cases hFailed

/-- A message has no answer, but one whose operation fails leaves the server as it was. -/
theorem handle_of_failed {depth : Nat} {message : Inbound} {reply : Reply}
    (h : server.perform depth message.request = some (reply, after)) (hFailed : reply.Failed) :
    server.handle depth message = some server := by
  rw [respond_of_failed h hFailed] at h
  unfold handle
  rw [h]
  rfl

/-! ## The failures of a server -/

/-- The caller of an operation is told of a refusal exactly if the registry refuses it, and then the
server is the one of before if the registry is. -/
theorem replyOf_eq_refused_iff {α : Type} {reply : α → Reply} {error : PublicationError}
    (done : Except PublicationError α × Registry) {Fails : Prop}
    (hReply : ∀ value, reply value ≠ .refused error)
    (hDone : ∀ registry, done = (.error error, registry) ↔ Fails ∧ registry = server.registry) :
    (replyOf reply done.1, ({ server with registry := done.2 } : Server)) =
      (.refused error, after) ↔ Fails ∧ after = server := by
  obtain ⟨result, registry⟩ := done
  cases result with
  | ok value =>
    constructor
    · intro hTold
      exact absurd (Prod.mk.inj hTold).1 (hReply value)
    · rintro ⟨hFails, -⟩
      cases (hDone _).mpr ⟨hFails, rfl⟩
  | error failure =>
    constructor
    · intro hTold
      cases hTold
      obtain ⟨hFails, rfl⟩ := (hDone registry).mp rfl
      exact ⟨hFails, rfl⟩
    · rintro ⟨hFails, rfl⟩
      cases (hDone _).mpr ⟨hFails, rfl⟩
      rfl

theorem respond_open_eq_refused_iff (hSound : server.registry.Sound) {publish : Publisher}
    {connection : ConnectionId} {sink : Sink} {error : PublicationError} :
    server.respond publish (.openConnection connection sink) = some (.refused error, after) ↔
      server.registry.isOpen connection = true ∧ error = .connectionExists connection ∧
        after = server := by
  rw [← and_assoc]
  refine Option.some_inj.trans (replyOf_eq_refused_iff
    (server.registry.openConnection connection sink) (fun _ h => by cases h) (fun registry => ?_))
  rw [Registry.openConnection_eq_error_iff hSound, and_assoc]

theorem addFrom_eq_refused_iff {module : FilterModule} {connection : ConnectionId}
    {service : String} {spec : PublicationSpec} {error : PublicationError} :
    server.addFrom module connection service spec = (.refused error, after) ↔
      server.registry.AdditionFails connection module spec error ∧ after = server :=
  replyOf_eq_refused_iff (server.registry.addPublication connection service module spec)
    (fun _ h => by cases h) (fun _ => Registry.addPublication_eq_error_iff)

theorem respond_add_eq (server : Server) (publish : Publisher) (connection : ConnectionId)
    (service : String) (spec : PublicationSpec) :
    server.respond publish (.addPublication connection service spec) =
      some (server.addFrom server.filters connection service spec) := rfl

theorem respond_remove_eq_refused_iff {publish : Publisher} {connection : ConnectionId}
    {service : String} {error : PublicationError} :
    server.respond publish (.removePublication connection service) = some (.refused error, after) ↔
      server.registry.isOpen connection = false ∧ error = .staleConnection connection ∧
        after = server := by
  rw [← and_assoc]
  refine Option.some_inj.trans (replyOf_eq_refused_iff
    (server.registry.removePublication connection service) (fun _ h => by cases h)
    (fun registry => ?_))
  rw [Registry.removePublication_eq_error_iff, and_assoc]

theorem respond_close_eq_released_none_iff {publish : Publisher} {connection : ConnectionId} :
    server.respond publish (.closeConnection connection) = some (.released none, after) ↔
      server.registry.isOpen connection = false ∧ after = server := by
  rw [← Registry.closeConnection_eq_none_iff]
  constructor
  · intro h
    refine ⟨?_, respond_of_failed h trivial⟩
    exact Reply.released.inj (Prod.mk.inj (Option.some.inj h)).1
  · rintro ⟨hNone, rfl⟩
    have hClosed := Registry.isOpen_eq_false_iff.mp (Registry.closeConnection_eq_none_iff.mp hNone)
    unfold respond
    dsimp only
    rw [closeConnection_of_not_live hClosed]

end Server

/-- Failing operations fail for the right reason and change nothing. At every point of a run, also
in the middle of a routing: an opening is refused exactly if the connection is open, a removal
exactly if it is not, and an addition for the first of its reasons; a closing finds nothing to close
exactly if the connection is not open. And whatever command, message or predicate it was that
failed, the server is the same after it, and nothing has happened to any session. Nor is anything
done by an addition or a removal whose session has ended by the time that it would be done. -/
theorem Machine.Run.failures_change_nothing {filters : FilterModule} {config : Config}
    {commands : List Command} {events : List Event} {machine : Machine}
    (hRun : Run ⟨Server.new filters config, []⟩ commands events machine) :
    (∀ publish connection sink error after,
      machine.server.respond publish (.openConnection connection sink) =
          some (.refused error, after) ↔
        machine.server.registry.isOpen connection = true ∧
          error = .connectionExists connection ∧ after = machine.server) ∧
    (∀ module connection service spec error after,
      machine.server.addFrom module connection service spec = (.refused error, after) ↔
        machine.server.registry.AdditionFails connection module spec error ∧
          after = machine.server) ∧
    (∀ publish connection service spec,
      machine.server.respond publish (.addPublication connection service spec) =
        some (machine.server.addFrom machine.server.filters connection service spec)) ∧
    (∀ publish connection service error after,
      machine.server.respond publish (.removePublication connection service) =
          some (.refused error, after) ↔
        machine.server.registry.isOpen connection = false ∧
          error = .staleConnection connection ∧ after = machine.server) ∧
    (∀ publish connection after,
      machine.server.respond publish (.closeConnection connection) =
          some (.released none, after) ↔
        machine.server.registry.isOpen connection = false ∧ after = machine.server) ∧
    (∀ publish request reply after,
      machine.server.respond publish request = some (reply, after) → reply.Failed →
        after = machine.server) ∧
    (∀ depth command outcome after,
      machine.server.execute depth command = some (outcome, after) → outcome.Failed →
        after = machine.server) ∧
    (∀ depth message reply after,
      machine.server.perform depth message.request = some (reply, after) → reply.Failed →
        machine.server.handle depth message = some machine.server) ∧
    (∀ request events reply after,
      machine.server.Does request events reply after → reply.Failed →
        after = machine.server ∧ events = []) ∧
    (∀ (α : Type) connection id (act : Registry → α × Registry),
      machine.server.registry.state? id ≠ some .opened →
        Registry.orStale connection (machine.server.registry.whileOpen id act) =
          (.error (.staleConnection connection), machine.server.registry)) := by
  have hSound : machine.server.registry.Sound := hRun.follows.sound (Registry.Sound.new config)
  refine ⟨?_, ?_, ?_, ?_, ?_, ?_, ?_, ?_, ?_, ?_⟩
  · exact fun _ _ _ _ _ => Server.respond_open_eq_refused_iff hSound
  · exact fun _ _ _ _ _ _ => Server.addFrom_eq_refused_iff
  · exact fun publish connection service spec =>
      machine.server.respond_add_eq publish connection service spec
  · exact fun _ _ _ _ _ => Server.respond_remove_eq_refused_iff
  · exact fun _ _ _ => Server.respond_close_eq_released_none_iff
  · exact fun _ _ _ _ h hFailed => Server.respond_of_failed h hFailed
  · exact fun _ _ _ _ h hFailed => Server.execute_of_failed h hFailed
  · exact fun _ _ _ _ h hFailed => Server.handle_of_failed h hFailed
  · exact fun _ _ _ _ hDoes hFailed => hDoes.of_failed hFailed
  · exact fun _ _ _ _ hEnded => Registry.orStale_whileOpen_of_ended hEnded

/-- Three additions that fail, each for the first of its reasons, and an opening, a removal and a
closing that fail. -/
theorem Machine.Run.failures_change_nothing_sample :
    ∃ steps server events,
      (Server.new Builtin.module {}).run 1 Command.sample = some (steps, server) ∧
      Machine.Run ⟨Server.new Builtin.module {}, []⟩ Command.sample events ⟨server, []⟩ ∧
      server.addFrom Builtin.module ⟨2⟩ "orders" { name := "none" } =
        (.refused (.staleConnection ⟨2⟩), server) ∧
      server.addFrom Builtin.module ⟨1⟩ "orders" { name := "none", params := .bool true } =
        (.refused (.unknownFilter "none"), server) ∧
      server.addFrom Builtin.module ⟨1⟩ "orders" { name := "query", params := .bool true } =
        (.refused (.filter (.invalidParams "query must be an object, got boolean")), server) ∧
      server.respond (Server.publish 1) (.openConnection ⟨1⟩ (Sink.ofCapacity 1)) =
        some (.refused (.connectionExists ⟨1⟩), server) ∧
      server.respond (Server.publish 1) (.removePublication ⟨2⟩ "orders") =
        some (.refused (.staleConnection ⟨2⟩), server) ∧
      server.respond (Server.publish 1) (.closeConnection ⟨2⟩) = some (.released none, server) ∧
      (server.registry.publication? ⟨1⟩ "orders").map Publication.name = some "all" := by
  obtain ⟨steps, server, hRun, -⟩ := Server.run_of_quiet
    (Server.Quiet.new Builtin.module_pure {}) 0 Command.sample_pure
  obtain ⟨events, hMachine⟩ := Server.run_run hRun
  obtain ⟨hOpenings, hAdditions, -, hRemovals, hClosings, -⟩ :=
    Machine.Run.failures_change_nothing hMachine
  refine ⟨steps, server, events, hRun, hMachine, ?_⟩
  cases hRun
  refine ⟨?_, ?_, ?_, ?_, ?_, ?_, rfl⟩
  · exact (hAdditions _ _ _ _ _ _).mpr ⟨.stale rfl, rfl⟩
  · exact (hAdditions _ _ _ _ _ _).mpr ⟨.unknownFilter rfl rfl, rfl⟩
  · exact (hAdditions _ _ _ _ _ _).mpr ⟨.filter rfl rfl rfl, rfl⟩
  · exact (hOpenings _ _ _ _ _).mpr ⟨rfl, rfl, rfl⟩
  · exact (hRemovals _ _ _ _ _).mpr ⟨rfl, rfl, rfl⟩
  · exact (hClosings _ _ _).mpr ⟨rfl, rfl⟩

end Fanout
