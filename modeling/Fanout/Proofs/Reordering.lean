import Fanout.Proofs.Logbook
import Fanout.Proofs.Solitude
import Fanout.Proofs.Tally

/-!
# Fanout — the order of a snapshot

The publications on a service are tested in whatever order the snapshot lists them.
Each connection has at most one of them, and to the connection the routing is the
routing of that one alone; so two orders leave what is the same to every connection,
and with that the same altogether. Only the reports of different connections may
come in another order.

## Main definitions

* `Server.publishOver` — publish an event with its snapshot in a given order.
* `Server.Alike` — two servers that are the same to every connection.

## Results

* `Registry.eq_of_agreeOn` — registries that are the same to every connection are the same.
* `Server.quietRouteOver_alike` — two orders of a snapshot leave servers that are alike.
* `Server.publish_any_order` — publishing does not depend on the order of its snapshot.
-/

namespace Fanout

/-! ## What all connections agree on -/

namespace Registry

variable {first second : Registry}

/-- Services with the same publications are the same, as none is kept without publications. -/
theorem services_eq_of_publication? (hFirst : first.Sound) (hSecond : second.Sound)
    (h : ∀ connection service,
      first.publication? connection service = second.publication? connection service) :
    first.services = second.services := by
  have hOn : ∀ service, first.publicationsOn service = second.publicationsOn service := by
    intro service
    exact Table.ext_get? (fun connection => h connection service)
  -- a service is known as long as it has publications
  have hKnown : ∀ {registry : Registry}, registry.Sound → ∀ service,
      registry.services.get? service =
        if (registry.publicationsOn service).isEmpty then none
        else some (registry.publicationsOn service) := by
    intro registry hSound service
    unfold publicationsOn
    cases hService : registry.services.get? service with
    | none => rfl
    | some publications =>
      have hInhabited := hSound.inhabited hService
      simp [hInhabited]
  refine Table.ext_get? (fun service => ?_)
  rw [hKnown hFirst, hKnown hSecond, hOn]

/-- Two registries that are the same to every connection differ at most in their hubs. -/
theorem eq_of_agreeOn (hFirst : first.Sound) (hSecond : second.Sound)
    (h : ∀ connection, first.AgreeOn connection second) :
    second = { first with hub := second.hub } := by
  have hConfig : first.config = second.config := (h ⟨0⟩).config
  have hLive : first.live = second.live :=
    Table.ext_get? (fun connection => (h connection).live)
  have hSessions : first.sessions = second.sessions :=
    Table.ext_get? (fun id => (h id.connection).sessions id rfl)
  have hServices : first.services = second.services := by
    refine services_eq_of_publication? hFirst hSecond ?_
    intro connection service
    exact (h connection).publications service
  rw [hConfig, hLive, hSessions, hServices]

end Registry

/-! ## Orders of a snapshot -/

/-- Two servers that are the same to every connection. -/
structure Server.Alike (first second : Server) : Prop where
  filters : first.filters = second.filters
  stats : first.stats = second.stats
  /-- The open connections, the publications and all sessions are the same, and so is what every
  sink was handed and what it answered. -/
  registry : second.registry = { first.registry with hub := second.registry.hub }
  /-- The reports of each connection are the same, and came in the same order. -/
  reports : ∀ connection,
    first.registry.hub.reports connection = second.registry.hub.reports connection
  /-- The listeners to each connection are the same, with the same queued for them. -/
  listeners : ∀ connection,
    (first.registry.hub.scopedTo connection).listeners =
      (second.registry.hub.scopedTo connection).listeners

namespace Server

/-- Publish an event with the publications on its service tested in a given order. -/
def publishOver (nesting : Nat) (order : List (ConnectionId × Publication)) (mutation : Mutation)
    (server : Server) : Option (Summary × Server) :=
  (routeOver (publish nesting) order mutation server.arrive).map
    (fun (summary, after) => (summary, after.record summary))

variable {server : Server} {mutation : Mutation} {first second : List (ConnectionId × Publication)}

theorem Alike.record {left right : Server} (h : left.Alike right) (summary : Summary) :
    (left.record summary).Alike (right.record summary) := by
  refine ⟨h.filters, ?_, h.registry, h.reports, h.listeners⟩
  show left.stats.add summary = right.stats.add summary
  rw [h.stats]

/-- Where predicates do not act, two orders of a snapshot leave servers that are alike. -/
theorem quietRouteOver_alike (hSound : server.registry.Sound)
    (hFirst : first.Perm (server.registry.snapshot mutation.service))
    (hSecond : second.Perm (server.registry.snapshot mutation.service)) :
    (server.quietRouteOver first mutation).2.Alike (server.quietRouteOver second mutation).2 := by
  have hLeft := server.follows_quietRouteOver first mutation
  have hRight := server.follows_quietRouteOver second mutation
  -- to each connection both come to the routing of its own publication
  have hAgree : ∀ connection, (server.quietRouteOver first mutation).2.AgreeOn connection
      (server.quietRouteOver second mutation).2 := by
    intro connection
    have hFirst := quietRouteOver_agreeOn connection hSound mutation hFirst
    have hSecond := quietRouteOver_agreeOn connection hSound mutation hSecond
    exact hFirst.trans hSecond.symm
  constructor
  case filters => rw [hLeft.filters, hRight.filters]
  case stats => rw [stats_quietRouteOver, stats_quietRouteOver]
  case registry => exact Registry.eq_of_agreeOn (hLeft.sound hSound) (hRight.sound hSound) hAgree
  case reports =>
    intro connection
    unfold Hub.reports
    rw [(hAgree connection).hub]
  case listeners =>
    intro connection
    rw [(hAgree connection).hub]

/-- On a quiet server an event is published in any order. -/
theorem publishOver_of_quiet (hQuiet : server.Quiet) (nesting : Nat)
    (hFirst : first.Perm (server.registry.snapshot mutation.service)) :
    server.publishOver nesting first mutation =
      some ((server.arrive.quietRouteOver first mutation).1,
        (server.arrive.quietRouteOver first mutation).2.record
          (server.arrive.quietRouteOver first mutation).1) := by
  have hPure : ∀ entry ∈ first, entry.2.predicate.Pure := by
    intro entry hEntry
    exact hQuiet.snapshot_pure mutation.service entry (hFirst.mem_iff.mp hEntry)
  unfold publishOver
  rw [routeOver_of_pure _ hPure]
  rfl

end Server

/-- Publishing does not depend on the order in which the registry lists the publications on a
service. Wherever commands without acting predicates lead, any two orders of the snapshot give an
event the same summary and leave servers that are alike: with the same sessions, of which every sink
was handed the same and answered the same, the same open connections and publications, the same
counters, and for each connection the same reports in the same order. -/
theorem Server.publish_any_order {filters : FilterModule} (hFilters : filters.Pure)
    (config : Config) {commands : List Command} (hCommands : ∀ command ∈ commands, command.Pure)
    (depth : Nat) :
    ∃ steps server,
      (Server.new filters config).run (depth + 1) commands = some (steps, server) ∧
      ∀ nesting mutation,
        Server.publish (nesting + 1) mutation server =
          server.publishOver nesting (server.registry.snapshot mutation.service) mutation ∧
        ∀ first second : List (ConnectionId × Publication),
          first.Perm (server.registry.snapshot mutation.service) →
          second.Perm (server.registry.snapshot mutation.service) →
          ∃ summary left right,
            server.publishOver nesting first mutation = some (summary, left) ∧
            server.publishOver nesting second mutation = some (summary, right) ∧
            left.Alike right := by
  obtain ⟨steps, server, hRun, hQuiet⟩ :=
    Server.run_of_quiet (Server.Quiet.new hFilters config) depth hCommands
  have hSound : server.registry.Sound :=
    (Server.follows_of_run hRun).sound (Registry.Sound.new config)
  refine ⟨steps, server, hRun, fun nesting mutation => ⟨Server.publish_eq _ _ _, ?_⟩⟩
  intro first second hFirst hSecond
  -- to count the event as it comes in leaves the registry alone
  have hArrived : server.arrive.registry.Sound := hSound
  have hSummary : (server.arrive.quietRouteOver first mutation).1 =
      (server.arrive.quietRouteOver second mutation).1 := by
    rw [Server.summary_quietRouteOver hArrived mutation hFirst,
      Server.summary_quietRouteOver hArrived mutation hSecond]
    exact Summary.tally_perm ((hFirst.trans hSecond.symm).map _)
  refine ⟨_, _, _, Server.publishOver_of_quiet hQuiet nesting hFirst, ?_,
    (Server.quietRouteOver_alike hArrived hFirst hSecond).record _⟩
  rw [Server.publishOver_of_quiet hQuiet nesting hSecond, hSummary]

/-- Five connections on one service: one takes the order, the sink of one is gone, that of another
full, one has a predicate that fails, and one is not interested. -/
def Command.mixed : List Command :=
  [.request (.openConnection ⟨1⟩ (Sink.ofCapacity 1)),
    .request (.openConnection ⟨2⟩ (Sink.scripted [.disconnected] 0)),
    .request (.openConnection ⟨3⟩ (Sink.ofCapacity 0)),
    .request (.openConnection ⟨4⟩ (Sink.ofCapacity 1)),
    .request (.openConnection ⟨5⟩ (Sink.ofCapacity 1)),
    .request (.addPublication ⟨1⟩ "orders" { name := "all" }),
    .request (.addPublication ⟨2⟩ "orders" { name := "all" }),
    .request (.addPublication ⟨2⟩ "notes" { name := "all" }),
    .request (.addPublication ⟨3⟩ "orders" { name := "all" }),
    .addFrom .failing ⟨4⟩ "orders" { name := "failing" },
    .request (.addPublication ⟨5⟩ "orders" { name := "ids" })]

theorem Command.mixed_pure : ∀ command ∈ Command.mixed, command.Pure := by
  simp [Command.mixed, Command.Pure, FilterModule.failing_pure]

/-- An order. -/
def Mutation.ordered : Mutation := ⟨"orders", .created, none, .null⟩

theorem Server.publish_any_order_backwards :
    ∃ steps server summary left right,
      (Server.new Builtin.module {}).run 1 Command.mixed = some (steps, server) ∧
      server.publishOver 0 (server.registry.snapshot "orders") .ordered = some (summary, left) ∧
      server.publishOver 0 (server.registry.snapshot "orders").reverse .ordered =
        some (summary, right) ∧
      summary = { matched := 3, delivered := 1, suppressed := 1, failed := 1, dropped := 2 } ∧
      left.registry.isOpen ⟨2⟩ = false ∧
      left.Alike right := by
  obtain ⟨steps, server, hRun, hOrders⟩ :=
    Server.publish_any_order Builtin.module_pure {} Command.mixed_pure 0
  obtain ⟨-, hOrders⟩ := hOrders 0 .ordered
  obtain ⟨summary, left, right, hLeft, hRight, hAlike⟩ :=
    hOrders _ _ (.refl _) (List.reverse_perm (server.registry.snapshot "orders"))
  have hEnd : ((Server.new Builtin.module {}).run 1 Command.mixed).bind (fun run =>
      (run.2.publishOver 0 (run.2.registry.snapshot "orders") .ordered).map (fun published =>
        (published.1, published.2.registry.isOpen ⟨2⟩))) =
      some ({ matched := 3, delivered := 1, suppressed := 1, failed := 1, dropped := 2 },
        false) := rfl
  have hLeft : server.publishOver 0 (server.registry.snapshot "orders") .ordered =
      some (summary, left) := hLeft
  rw [hRun, Option.bind_some, hLeft] at hEnd
  obtain ⟨hSummary, hClosed⟩ := Prod.mk.inj (Option.some.inj hEnd)
  exact ⟨steps, server, summary, left, right, hRun, hLeft, hRight, hSummary, hClosed, hAlike⟩

end Fanout
