import Fanout.Filter.Probe
import Fanout.Proofs.Journal
import Fanout.Proofs.Stamps

/-!
# Fanout — one event, one snapshot

The predicates of a routing may change the registry that the routing is about: close
connections, add and remove publications on the same service, publish further events.
The routing goes on with the publications that were there when it started, each tried
once, in any order; what is added meanwhile is left to later events, and what is
removed meanwhile is still handed over.

## Results

* `Summary.tally_parts` — every trial is counted once.
* `Machine.Run.route_keeps_to_snapshot` — a routing whose predicates act keeps to the publications
  that it started with.
-/

namespace Fanout

open Server (Trial)

/-! ## Counts -/

/-- Every publication is counted once, and every match is delivered or dropped. -/
theorem Summary.tally_parts (verdicts : List Verdict) :
    (tally verdicts).matched + (tally verdicts).suppressed + (tally verdicts).failed =
        verdicts.length ∧
      (tally verdicts).matched = (tally verdicts).delivered + (tally verdicts).dropped := by
  induction verdicts with
  | nil => exact ⟨rfl, rfl⟩
  | cons verdict rest ih =>
    -- one verdict more adds to one of the parts, and with a match to delivered or to dropped
    have hOne : (tally [verdict]).matched + (tally [verdict]).suppressed +
          (tally [verdict]).failed = 1 ∧
        (tally [verdict]).matched = (tally [verdict]).delivered + (tally [verdict]).dropped := by
      cases verdict with
      | matched outcome => cases outcome <;> exact ⟨rfl, rfl⟩
      | suppressed => exact ⟨rfl, rfl⟩
      | failed => exact ⟨rfl, rfl⟩
    rw [tally_cons, List.length_cons]
    simp only [plus]
    omega

/-! ## Routing -/

/-- The connections of a snapshot are different ones. -/
theorem Registry.snapshot_nodup (registry : Registry) (service : String) :
    ((registry.snapshot service).map Prod.fst).Nodup :=
  (registry.publicationsOn service).keys_nodup

/-- An event is tested against one snapshot, whatever its predicates do to the server meanwhile and
in whatever order the publications are taken. Every routing under way has started with a snapshot,
and a routing that goes through a snapshot in any order is one of these. At any point of a run, also
in the middle of another routing, a routing that comes to its end tries exactly the publications
that were on the service when it started, each once, and on the record that the event, the flags of
the publication and the configuration settle. What is added during the routing is not among them,
also if it replaces one of them. A publication that accepts its record has the delivery handed to
the session that it was added in, if that still goes on when its predicate has answered, and nobody
else is handed anything; whether it was removed or replaced meanwhile plays no part. The summary
counts each trial once, and each match as delivered or dropped. -/
theorem Machine.Run.route_keeps_to_snapshot (filters : FilterModule) (config : Config) :
    (∀ depth mutation server, Server.publish (depth + 1) mutation server =
      (Server.route depth mutation server).map
        (fun (summary, after) => (summary, after.count summary))) ∧
    (∀ depth mutation server order summary after counted outer,
      order.Perm (server.registry.snapshot mutation.service) →
      Server.routeOver (Server.publish depth) order mutation server = some (summary, after) →
      server.Routes counted mutation outer summary after) ∧
    (∀ commands events machine frame outer,
      Run ⟨Server.new filters config, []⟩ commands events machine →
      frame :: outer <:+ machine.routings →
      ∃ server earlier during, events = earlier ++ during ∧
        Run ⟨Server.new filters config, []⟩ commands earlier
          ⟨server, Frame.start server frame.counted frame.mutation :: outer⟩ ∧
        During outer.length
          ⟨server, Frame.start server frame.counted frame.mutation :: outer⟩ during machine) ∧
    ∀ commands events server routings,
      Run ⟨Server.new filters config, []⟩ commands events ⟨server, routings⟩ →
      ∀ counted mutation outer during after frame,
      During outer.length ⟨server, Frame.start server counted mutation :: outer⟩ during
        ⟨after, frame :: outer⟩ → frame.Done after →
      ∃ trials tested,
        (∀ connection publication,
          server.registry.publication? connection mutation.service = some publication ↔
            ∃ trial ∈ trials, trial.connection = connection ∧ trial.publication = publication) ∧
        (trials.map Trial.connection).Nodup ∧
        Trial.Linked server trials tested ∧
        (∀ trial ∈ trials, trial.Lawful config mutation outer) ∧
        after = (if config.closeOnDisconnect then
          tested.closeAll (trials.flatMap (fun trial => trial.gone config mutation)) else tested) ∧
        (∀ publication, Event.added publication ∈ during →
          ∀ trial ∈ trials, trial.publication ≠ publication) ∧
        frame.summary.matched + frame.summary.suppressed + frame.summary.failed =
          (server.registry.publicationsOn mutation.service).size ∧
        frame.summary.matched = frame.summary.delivered + frame.summary.dropped := by
  refine ⟨Server.publish_succ, ?_, ?_, ?_⟩
  · intro depth mutation server order summary after counted outer hOrder hRoute
    exact Server.routeOver_run (Server.followed_publish depth) hRoute hOrder counted outer
  · intro commands events machine frame outer hRun hUnderway
    exact hRun.since hUnderway
  · intro commands events server routings hRun counted mutation outer during after frame hDuring
      hDone
    have hConfig : server.registry.config = config := hRun.follows.config
    obtain ⟨trials, tested, last, hJournal, hNone, hSummary, -, hAfter⟩ := hDuring.journal hDone
    rw [hConfig] at hJournal hAfter
    -- nothing is left to be tested, so the trials are those of the whole snapshot
    have hEntries : (trials.map Trial.entry).Perm (server.registry.snapshot mutation.service) := by
      have hAll := hJournal.entries
      rw [hNone, List.append_nil] at hAll
      exact hAll
    have hTried : ∀ connection publication,
        server.registry.publication? connection mutation.service = some publication ↔
          ∃ trial ∈ trials, trial.connection = connection ∧ trial.publication = publication := by
      intro connection publication
      rw [← Registry.mem_snapshot_iff, ← hEntries.mem_iff, List.mem_map]
      simp only [Trial.entry, Prod.mk.injEq]
    have hConnections : (trials.map Trial.connection).Nodup := by
      have hSnapshot := server.registry.snapshot_nodup mutation.service
      rw [← (hEntries.map Prod.fst).nodup_iff, List.map_map] at hSnapshot
      exact hSnapshot
    have hLength : trials.length = (server.registry.publicationsOn mutation.service).size := by
      rw [← List.length_map Trial.entry, hEntries.length_eq]
      rfl
    obtain ⟨hCounted, hMatched⟩ :=
      Summary.tally_parts (trials.map (fun trial => trial.verdict config mutation))
    rw [← hJournal.summary, hSummary] at hCounted hMatched
    rw [List.length_map, hLength] at hCounted
    refine ⟨trials, tested, hTried, hConnections, hJournal.linked, hJournal.lawful, ?_, ?_,
      hCounted, hMatched⟩
    · rw [← hJournal.gone]
      exact hAfter
    -- what was tried was held when the routing started, and so it is not added again
    · rintro _ hAdded trial hTrial rfl
      have hStands := (hTried _ _).mpr ⟨trial, hTrial, rfl, rfl⟩
      exact hRun.not_added_again hStands hDuring.run hAdded

/-- A filter that acts on the server beside one that does not. -/
def FilterModule.meddling : FilterModule :=
  (FilterModule.empty.filter "hook" Probe.hook).filter "all" Builtin.all

/-- Three connections on one service: as soon as they are asked, the third removes the publication of
the second, and the second replaces that of the first. -/
def Command.meddling : List Command :=
  [.request (.openConnection ⟨1⟩ (Sink.ofCapacity 1)),
    .request (.openConnection ⟨2⟩ (Sink.ofCapacity 1)),
    .request (.openConnection ⟨3⟩ (Sink.ofCapacity 1)),
    .request (.addPublication ⟨1⟩ "orders" { name := "all", ifServer := true }),
    .request (.addPublication ⟨2⟩ "orders"
      { name := "hook", params := .array [.string "add", .ofWord 1, .string "orders"] }),
    .request (.addPublication ⟨3⟩ "orders"
      { name := "hook", params := .array [.string "remove", .ofWord 2, .string "orders"] })]

/-- The event that they are asked about. -/
def Mutation.meddled : Mutation := ⟨"orders", .created, none, .null⟩

/-- Taken backwards, the second publication is removed and the first one replaced before they are
tried, and each is handed the event all the same. -/
theorem Machine.Run.route_keeps_to_snapshot_meddling :
    ∃ steps server events order summary after during frame trials tested,
      (Server.new .meddling {}).run 1 Command.meddling = some (steps, server) ∧
      Run ⟨Server.new .meddling {}, []⟩ Command.meddling events ⟨server, []⟩ ∧
      order.Perm (server.registry.snapshot "orders") ∧
      order.map Prod.fst = [⟨3⟩, ⟨2⟩, ⟨1⟩] ∧
      Server.routeOver (Server.publish 1) order .meddled server = some (summary, after) ∧
      During 0 ⟨server, [Frame.start server false .meddled]⟩ during ⟨after, [frame]⟩ ∧
      frame.Done after ∧ frame.summary = summary ∧
      Trial.Linked server trials tested ∧
      (∃ trial ∈ trials, trial.connection = ⟨2⟩) ∧
      (∃ trial ∈ trials, trial.connection = ⟨1⟩ ∧ trial.publication.ifServer = true) ∧
      (after.registry.publication? ⟨2⟩ "orders").isSome = false ∧
      (after.registry.publication? ⟨1⟩ "orders").map Publication.ifServer = some false ∧
      (after.registry.handed ⟨⟨1⟩, 0⟩).map Delivery.connection = [⟨1⟩] ∧
      (after.registry.handed ⟨⟨2⟩, 0⟩).map Delivery.connection = [⟨2⟩] ∧
      summary.matched + summary.suppressed + summary.failed = 3 ∧
      summary.matched = summary.delivered + summary.dropped := by
  have hEnd : ((Server.new .meddling {}).run 1 Command.meddling).bind (fun run =>
      (Server.routeOver (Server.publish 1) (run.2.registry.snapshot "orders").reverse .meddled
        run.2).map (fun routed =>
          decide ((run.2.registry.snapshot "orders").reverse.map Prod.fst = [⟨3⟩, ⟨2⟩, ⟨1⟩] ∧
            (run.2.registry.publication? ⟨2⟩ "orders").isSome ∧
            (run.2.registry.publication? ⟨1⟩ "orders").map Publication.ifServer = some true ∧
            (run.2.registry.publicationsOn "orders").size = 3 ∧
            (routed.2.registry.publication? ⟨2⟩ "orders").isSome = false ∧
            (routed.2.registry.publication? ⟨1⟩ "orders").map Publication.ifServer = some false ∧
            (routed.2.registry.handed ⟨⟨1⟩, 0⟩).map Delivery.connection = [⟨1⟩] ∧
            (routed.2.registry.handed ⟨⟨2⟩, 0⟩).map Delivery.connection = [⟨2⟩]))) =
      some true := by decide +kernel
  obtain ⟨⟨steps, server⟩, hRun, hRouted⟩ := Option.bind_eq_some_iff.mp hEnd
  obtain ⟨⟨summary, after⟩, hRoute, hLast⟩ := Option.map_eq_some_iff.mp hRouted
  rw [decide_eq_true_eq] at hLast
  obtain ⟨hConnections, hSecond, hFirst, hSize, hRemoved, hReplaced, hHanded, hAlso⟩ := hLast
  obtain ⟨events, hEvents⟩ := Server.run_run hRun
  have hOrder := List.reverse_perm (server.registry.snapshot "orders")
  obtain ⟨-, hFollowed, -, hKeeps⟩ := Machine.Run.route_keeps_to_snapshot .meddling {}
  obtain ⟨during, frame, hDuring, hDone, rfl, -⟩ :=
    hFollowed 1 .meddled server _ summary after false [] hOrder hRoute
  obtain ⟨trials, tested, hTried, -, hLinked, -, -, -, hCounted, hMatched⟩ :=
    hKeeps _ _ _ _ hEvents _ _ _ _ _ _ hDuring hDone
  -- both were there when the routing started, and so they were tried as they were then
  obtain ⟨removed, hRemovable⟩ := Option.isSome_iff_exists.mp hSecond
  obtain ⟨second, hSecondTried, hSecondOwn, -⟩ := (hTried ⟨2⟩ removed).mp hRemovable
  obtain ⟨replaced, hReplaceable, hServer⟩ := Option.map_eq_some_iff.mp hFirst
  obtain ⟨first, hFirstTried, hFirstOwn, rfl⟩ := (hTried ⟨1⟩ replaced).mp hReplaceable
  exact ⟨steps, server, events, _, _, after, during, frame, trials, tested, hRun, hEvents, hOrder,
    hConnections, hRoute, hDuring, hDone, rfl, hLinked, ⟨second, hSecondTried, hSecondOwn⟩,
    ⟨first, hFirstTried, hFirstOwn, hServer⟩, hRemoved, hReplaced, hHanded, hAlso,
    hCounted.trans hSize, hMatched⟩

end Fanout
