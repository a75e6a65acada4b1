import Fanout.Filter.Builtin
import Fanout.Proofs.Isolation

/-!
# Fanout — servers whose predicates do not act

A server is quiet if neither the publications it holds nor those its filters
compile have acting predicates. A quiet server stays quiet, every command on it has
an outcome, and routing an event on it is a fold over the snapshot.

## Results

* `Builtin.module_pure` — the built-in filters compile no acting predicates.
* `Server.routeWith_of_quiet`, `Server.execute_routes` — what routing an event comes to.
* `Server.allHeld_of_execute` — what holds of all publications is kept up by commands.
* `Server.execute_of_quiet`, `Server.run_of_quiet` — commands and runs have outcomes.
-/

namespace Fanout

open Server (Progress Views Publisher)

/-! ## Filters -/

namespace FilterModule

theorem empty_pure : empty.Pure := by
  intro name params predicate h
  cases h

theorem Pure.filter {module : FilterModule} (hModule : module.Pure) {f : Filter}
    (hFilter : ∀ params predicate, f params = .ok predicate → predicate.Pure) (name : String) :
    (module.filter name f).Pure := by
  intro asked params predicate h
  unfold compile get? FilterModule.filter at h
  rw [Table.get?_insert] at h
  by_cases hName : asked = name
  · rw [if_pos hName] at h
    cases hCompile : f params with
    | error error =>
      dsimp only at h
      rw [hCompile] at h
      cases h
    | ok compiled =>
      dsimp only at h
      rw [hCompile] at h
      cases h
      exact hFilter params predicate hCompile
  · rw [if_neg hName] at h
    exact hModule asked params predicate h

end FilterModule

namespace Builtin

/-- The built-in filters compile no acting predicates. -/
theorem module_pure : Builtin.module.Pure := by
  refine .filter (.filter (.filter FilterModule.empty_pure ?_ _) ?_ _) ?_ _
  · intro params predicate h
    unfold query at h
    split at h
    · cases h
      exact Predicate.pure_ofTest _
    · cases h
      exact Predicate.pure_ofTest _
    · split at h
      · cases h
        exact Predicate.pure_ofTest _
      · cases h
    · cases h
  · intro params predicate h
    cases h
    exact Predicate.pure_ofTest _
  · intro params predicate h
    cases h
    exact Predicate.pure_ofTest _

end Builtin

/-! ## Servers -/

/-- Every publication of the registry is as said. -/
def Registry.AllHeld (registry : Registry) (P : Publication → Prop) : Prop :=
  ∀ connection service publication,
    registry.publication? connection service = some publication → P publication

/-- No publication of the registry has an acting predicate. -/
def Registry.Quiet (registry : Registry) : Prop :=
  registry.AllHeld (fun publication => publication.predicate.Pure)

/-- Neither the publications nor the filters have acting predicates. -/
structure Server.Quiet (server : Server) : Prop where
  filters : server.filters.Pure
  registry : server.registry.Quiet

variable {server after : Server} {registry : Registry} {P : Publication → Prop}

namespace Registry

variable {after : Registry} {connection : ConnectionId} {service : String}

theorem AllHeld.of_publications (hHeld : registry.AllHeld P)
    (h : ∀ connection service publication,
      after.publication? connection service = some publication →
        registry.publication? connection service = some publication) : after.AllHeld P :=
  fun connection service publication hStays =>
    hHeld connection service publication (h connection service publication hStays)

theorem AllHeld.of_services (hHeld : registry.AllHeld P)
    (h : after.services = registry.services) : after.AllHeld P :=
  hHeld.of_publications (fun connection service _ hStays =>
    (publication?_congr h connection service).symm.trans hStays)

/-- What is held after a connection is closed was held before. -/
theorem publication?_of_closeConnection {other : ConnectionId} {publication : Publication}
    (h : (registry.closeConnection connection).2.publication? other service = some publication) :
    registry.publication? other service = some publication := by
  cases hLive : registry.liveSession? connection with
  | none =>
    rw [closeConnection_of_not_live hLive] at h
    exact h
  | some found =>
    rw [closeConnection_of_live hLive] at h
    change (registry.afterClose connection found.1 found.2).publication? other service = _ at h
    rw [publication?_afterClose] at h
    split at h
    · cases h
    · exact h

/-- What is held after a publication is dropped was held before. -/
theorem publication?_of_removePublication {names : List String} {other : ConnectionId}
    {stored : String} {publication : Publication}
    (hRemove : registry.removePublication connection service = (.ok names, after))
    (h : after.publication? other stored = some publication) :
    registry.publication? other stored = some publication := by
  obtain ⟨-, -, rfl⟩ := removePublication_ok hRemove
  rw [publication?_of_drop registry rfl] at h
  split at h
  · cases h
  · exact h

/-- What is held after a publication is added is that one, or was held before. -/
theorem publication?_of_addPublication {module : FilterModule} {spec : PublicationSpec}
    {added publication : Publication} {other : ConnectionId} {stored : String}
    (hAdd : registry.addPublication connection service module spec = (.ok added, after))
    (h : after.publication? other stored = some publication) :
    publication = added ∨ registry.publication? other stored = some publication := by
  obtain ⟨id, session, predicate, -, -, -, rfl⟩ := addPublication_ok hAdd
  rw [publication?_of_store registry rfl] at h
  split at h
  · cases h
    exact .inl rfl
  · exact .inr h

theorem AllHeld.addPublication (hHeld : registry.AllHeld P) {module : FilterModule}
    {spec : PublicationSpec} {added : Publication}
    (h : registry.addPublication connection service module spec = (.ok added, after))
    (hAdded : P added) : after.AllHeld P := by
  intro other stored publication hStays
  rcases publication?_of_addPublication h hStays with rfl | hBefore
  · exact hAdded
  · exact hHeld other stored publication hBefore

end Registry

namespace Server

/-! ## Routing leaves publications alone, but for closings -/

/-- A match touches the session it is handed to and the listeners, and nothing else. -/
theorem Progress.registry_deliver (progress : Progress) (publication : Publication)
    (delivery : Delivery) :
    ∃ hub, (progress.deliver publication delivery).server.registry =
      { (progress.server.registry.deliver publication.session delivery).2 with hub } := by
  unfold Progress.deliver
  dsimp only
  split
  · exact ⟨_, rfl⟩
  · exact ⟨_, rfl⟩
  · exact ⟨_, rfl⟩
  · exact ⟨_, rfl⟩

theorem Progress.services_test (mutation : Mutation) (views : Views) (progress : Progress)
    (entry : ConnectionId × Publication) :
    (progress.test mutation views entry).server.registry.services =
      progress.server.registry.services := by
  unfold Progress.test Progress.conclude
  split
  · obtain ⟨hub, hRegistry⟩ := progress.registry_deliver entry.2
      ⟨entry.1, mutation.service, mutation.operation, views.clientAfter⟩
    rw [hRegistry, Registry.deliver_snd]
    exact Registry.services_modifySession
  · rfl
  · rfl

theorem Progress.services_foldl_test (mutation : Mutation) (views : Views)
    (publications : List (ConnectionId × Publication)) (progress : Progress) :
    (publications.foldl (Progress.test mutation views) progress).server.registry.services =
      progress.server.registry.services := by
  induction publications generalizing progress with
  | nil => rfl
  | cons entry rest ih => exact (ih _).trans (progress.services_test mutation views entry)

theorem allHeld_closeAll (hHeld : server.registry.AllHeld P) (connections : List ConnectionId) :
    (server.closeAll connections).registry.AllHeld P := by
  induction connections generalizing server with
  | nil => exact hHeld
  | cons connection rest ih =>
    exact ih (hHeld.of_publications (fun _ _ _ => Registry.publication?_of_closeConnection))

theorem allHeld_quietRoute (hHeld : server.registry.AllHeld P) (mutation : Mutation) :
    (server.quietRoute mutation).2.registry.AllHeld P := by
  have hFold := hHeld.of_services (Progress.services_foldl_test mutation
    (Views.of (server.registry.config.serverFieldsFor mutation.service) mutation)
    (server.registry.snapshot mutation.service) { server })
  unfold quietRoute quietRouteOver
  dsimp only
  rw [Progress.finish_eq]
  dsimp only
  -- to test publications leaves them alone, and closings only drop some
  split
  · exact allHeld_closeAll hFold _
  · exact hFold

/-! ## Commands that route an event -/

theorem Quiet.snapshot_pure (hQuiet : server.Quiet) (service : String) :
    ∀ entry ∈ server.registry.snapshot service, entry.2.predicate.Pure :=
  fun entry hEntry => hQuiet.registry entry.1 service entry.2 (Registry.mem_snapshot_iff.mp hEntry)

/-- On a quiet server a routing has an outcome, and publishing plays no part in it. -/
theorem routeWith_of_quiet (hQuiet : server.Quiet) (publish : Publisher) (mutation : Mutation) :
    routeWith publish mutation server =
      some (server.quietRoute mutation) :=
  routeOver_of_pure publish (hQuiet.snapshot_pure mutation.service) mutation server

/-- On a quiet server one level of publishing is enough. -/
theorem publish_of_quiet (hQuiet : server.Quiet) (depth : Nat) (mutation : Mutation) :
    publish (depth + 1) mutation server =
      some ((server.quietRoute mutation).1,
        (server.quietRoute mutation).2.count (server.quietRoute mutation).1) := by
  rw [publish_succ]
  unfold route
  rw [routeWith_of_quiet hQuiet]
  rfl

/-- A command that routes an event gives the summary of the routing, except to a transport, and
leaves what the routing leaves, with the event counted if it is the server's own router. -/
theorem execute_routes (hQuiet : server.Quiet) (depth : Nat) {command : Command}
    {mutation : Mutation} (hEvent : command.event? = some mutation) :
    server.execute (depth + 1) command =
      some (command.routed (server.quietRoute mutation).1,
        if command.counted then
          (server.quietRoute mutation).2.count (server.quietRoute mutation).1
        else (server.quietRoute mutation).2) := by
  have hPerform : server.perform (depth + 1) (.publish mutation) =
      some (.routed (server.quietRoute mutation).1,
        (server.quietRoute mutation).2.count (server.quietRoute mutation).1) := by
    show (publish (depth + 1) mutation server).bind _ = _
    rw [publish_of_quiet hQuiet]
    rfl
  cases command with
  | request asked =>
    cases asked <;> cases hEvent
    unfold execute
    dsimp only
    rw [hPerform]
    rfl
  | inbound message =>
    cases message <;> cases hEvent
    unfold execute handle Inbound.request
    dsimp only
    rw [hPerform]
    rfl
  | route event =>
    cases hEvent
    unfold execute route
    dsimp only
    rw [routeWith_of_quiet hQuiet]
    rfl
  | addFrom | subscribe | session | listener => cases hEvent

/-- Every command that routes an event leaves what the routing leaves, up to the counters. -/
theorem execute_of_event (hQuiet : server.Quiet) (depth : Nat) {command : Command}
    {mutation : Mutation} (hEvent : command.event? = some mutation) :
    ∃ outcome stats, server.execute (depth + 1) command =
      some (outcome, { (server.quietRoute mutation).2 with stats }) := by
  rw [execute_routes hQuiet depth hEvent]
  split
  · exact ⟨_, _, rfl⟩
  · exact ⟨_, _, rfl⟩

/-! ## Commands that are carried out at once -/

theorem Does.allHeld {request : Request} {events : List Event} {reply : Reply}
    (hDoes : server.Does request events reply after) (hHeld : server.registry.AllHeld P)
    (hAdded : ∀ publication, Event.added publication ∈ events → P publication) :
    after.registry.AllHeld P := by
  cases hDoes using Server.Does.elim with
  | attended | openRefused | notOpen | addRefused | removeRefused => exact hHeld
  | opened h =>
    obtain ⟨-, -, rfl⟩ := Registry.openConnection_ok h
    exact hHeld.of_services rfl
  | closed h => exact hHeld.of_publications (fun _ _ _ => Registry.publication?_of_closeConnection)
  | added h => exact hHeld.addPublication h (hAdded _ List.mem_cons_self)
  | removed h =>
    exact hHeld.of_publications (fun _ _ _ => Registry.publication?_of_removePublication h)

/-- What holds of all publications still does, if it holds of what is added. -/
theorem AtOnce.allHeld {command : Command} {outcome : Outcome} {events : List Event}
    (hDone : server.AtOnce command outcome events after) (hHeld : server.registry.AllHeld P)
    (hAdded : ∀ publication, Event.added publication ∈ events → P publication) :
    after.registry.AllHeld P := by
  cases hDone with
  | request hDoes => exact hDoes.allHeld hHeld hAdded
  | inbound hDoes => exact hDoes.allHeld hHeld hAdded
  | added h => exact hHeld.addPublication h (hAdded _ List.mem_cons_self)
  | addRefused h =>
    obtain ⟨-, rfl⟩ := Registry.addPublication_error h
    exact hHeld
  | subscribe => exact hHeld.of_services rfl
  | session => exact hHeld.of_services (server.registry.services_useSession _ _)
  | listener => exact hHeld.of_services rfl

/-- What a command adds was compiled from the module that it names, or from the server's own. -/
theorem AtOnce.adds {command : Command} {outcome : Outcome} {events : List Event}
    (hDone : server.AtOnce command outcome events after) {publication : Publication}
    (h : Event.added publication ∈ events) :
    ∃ module connection service spec, command.Adds server.filters module connection spec ∧
      ∃ registry, server.registry.addPublication connection service module spec =
        (.ok publication, registry) := by
  cases hDone with
  | request hDoes =>
    -- of all operations only an addition adds
    cases hDoes with
    | added hAdd =>
      cases List.mem_singleton.mp h
      exact ⟨_, _, _, _, .request, _, hAdd⟩
    | opened | closed => simp at h
    | attended | openRefused | notOpen | addRefused | removed | removeRefused => cases h
  | @inbound message events reply after hDoes =>
    -- no message adds a publication
    cases message with
    | mutation event => cases hDoes
    | opened connection sink =>
      cases hDoes with
      | opened => simp at h
      | openRefused => cases h
    | closed connection =>
      cases hDoes with
      | closed => simp at h
      | notOpen => cases h
  | added hAdd =>
    cases List.mem_singleton.mp h
    exact ⟨_, _, _, _, .addFrom, _, hAdd⟩
  | addRefused | subscribe | session | listener => cases h

/-! ## Runs -/

/-- What holds of all publications of a quiet server still does after a command, if it holds of
what the command adds. -/
theorem allHeld_of_execute (hQuiet : server.Quiet) {depth : Nat} {command : Command}
    {outcome : Outcome} (h : server.execute (depth + 1) command = some (outcome, after))
    (hHeld : server.registry.AllHeld P)
    (hAdds : ∀ {module connection service spec publication registry},
      command.Adds server.filters module connection spec →
      server.registry.addPublication connection service module spec = (.ok publication, registry) →
      P publication) : after.registry.AllHeld P := by
  cases hEvent : command.event? with
  | none =>
    obtain ⟨events, hDone⟩ := atOnce_of_execute h hEvent
    refine hDone.allHeld hHeld (fun publication hAdded => ?_)
    obtain ⟨module, connection, service, spec, hCommand, registry, hAdd⟩ := hDone.adds hAdded
    exact hAdds hCommand hAdd
  | some mutation =>
    -- an event adds nothing where predicates do not act
    obtain ⟨answer, stats, hRouted⟩ := execute_of_event hQuiet depth hEvent
    rw [h] at hRouted
    cases hRouted
    exact allHeld_quietRoute hHeld mutation

theorem quiet_of_execute (hQuiet : server.Quiet) {depth : Nat} {command : Command}
    (hPure : command.Pure) {outcome : Outcome}
    (h : server.execute (depth + 1) command = some (outcome, after)) : after.Quiet := by
  refine ⟨(follows_of_execute h).filters ▸ hQuiet.filters,
    allHeld_of_execute hQuiet h hQuiet.registry (fun hCommand hAdd => ?_)⟩
  obtain ⟨id, session, predicate, -, hCompile, rfl, -⟩ := Registry.addPublication_ok hAdd
  -- the predicate was compiled from the server's filters or from the module of the command
  cases hCommand with
  | request => exact hQuiet.filters _ _ _ hCompile
  | addFrom => exact hPure _ _ _ hCompile

/-- On a quiet server every command has an outcome. -/
theorem execute_of_quiet (hQuiet : server.Quiet) (depth : Nat) (command : Command) :
    ∃ outcome after, server.execute (depth + 1) command = some (outcome, after) := by
  cases hEvent : command.event? with
  | none =>
    obtain ⟨outcome, after, events, hExecute, -⟩ := execute_of_no_event (depth + 1) server hEvent
    exact ⟨outcome, after, hExecute⟩
  | some mutation =>
    obtain ⟨outcome, stats, hExecute⟩ := execute_of_event hQuiet depth hEvent
    exact ⟨outcome, _, hExecute⟩

/-- So has every run, from start to end, and the server stays quiet. -/
theorem run_of_quiet (hQuiet : server.Quiet) (depth : Nat) {commands : List Command}
    (hPure : ∀ command ∈ commands, command.Pure) :
    ∃ steps last, server.run (depth + 1) commands = some (steps, last) ∧ last.Quiet := by
  induction commands generalizing server with
  | nil => exact ⟨[], server, rfl, hQuiet⟩
  | cons command rest ih =>
    obtain ⟨outcome, after, hExecute⟩ := execute_of_quiet hQuiet depth command
    have hAfter := quiet_of_execute hQuiet (hPure command List.mem_cons_self) hExecute
    obtain ⟨steps, last, hRun, hLast⟩ :=
      ih hAfter (fun later hLater => hPure later (List.mem_cons_of_mem _ hLater))
    exact ⟨_, last, run_cons_eq_some_iff.mpr ⟨_, _, _, hExecute, hRun, rfl⟩, hLast⟩

theorem Quiet.new {filters : FilterModule} (hFilters : filters.Pure) (config : Config) :
    (Server.new filters config).Quiet :=
  ⟨hFilters, fun connection service publication hHeld => by cases hHeld⟩

end Server

end Fanout
