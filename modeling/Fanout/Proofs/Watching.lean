import Fanout.Proofs.Listeners
import Fanout.Proofs.Logbook

/-!
# Fanout — what a listener to one connection can know

A listener that subscribes while a connection has no publications, and whose queue
always has room, gets the reports of the connection from then on, each once and in
order. So what it has read, together with what is waiting for it, tells the
publications of the connection at every point.

## Main definitions

* `Server.Step.reported`, `Server.Step.heard` — what is reported in a step, and what a listener
  reads.
* `Server.Step.Fits` — what is reported in a step finds room.
* `Server.Gets` — what a listener has got once a time is over.

## Results

* `Server.hub_of_execute` — what a command does to the hub, as one connection's listeners see it.
* `Server.gets_of_run` — what a listener gets of a run.
* `Server.listener_knows_publications` — and what that says of the registry.
-/

namespace Fanout

/-! ## Listeners -/

namespace Hub

variable {hub : Hub} {connection : ConnectionId} {id : ListenerId} {queue : Channel Diagnostic}

/-- A listener whose queue has room for reports has them all queued. -/
theorem listener?_tell {reports : List Diagnostic} (h : hub.listener? id = some ⟨id, queue⟩)
    (hScope : id.scope = some connection) (hHeld : queue.held = true)
    (hRoom : ∀ count < reports.length, queue.queue.length + count < queue.capacity) :
    (hub.tell connection reports).listener? id =
      some ⟨id, { queue with queue := queue.queue ++ reports }⟩ := by
  induction reports generalizing hub queue with
  | nil =>
    rw [List.append_nil]
    exact h
  | cons report rest ih =>
    -- the first report finds room, and the others find one place less
    have hFirst : queue.queue.length < queue.capacity := hRoom 0 (Nat.succ_pos _)
    have hEmit := listener?_emit (some connection) report h hHeld
    rw [if_pos (.inr hScope.symm), Channel.offer_of_room hHeld hFirst] at hEmit
    have hRest := ih hEmit hHeld (fun count hCount => by
      have hNext := hRoom (count + 1) (Nat.succ_lt_succ hCount)
      simp only [List.length_append, List.length_singleton]
      omega)
    rw [List.append_assoc] at hRest
    exact hRest

end Hub

/-! ## Steps -/

namespace Server

/-- What is reported of a connection in a step. -/
def Step.reported (connection : ConnectionId) (step : Step) : List Diagnostic :=
  (step.after.registry.hub.reports connection).drop
    (step.before.registry.hub.reports connection).length

/-- What a listener reads in a step. -/
def Step.heard (id : ListenerId) (step : Step) : List Diagnostic :=
  match step.command, step.outcome with
  | .listener known .receive, .diagnostic report => if known = id then report.toList else []
  | .listener known .drain, .diagnostics reports => if known = id then reports else []
  | _, _ => []

/-- No report of the step finds the queue of a listener full: the first finds what was queued, and
each later one finds one item more. -/
def Step.Fits (id : ListenerId) (connection : ConnectionId) (step : Step) : Prop :=
  ∀ listener, step.before.registry.hub.listener? id = some listener →
    ∀ count < (step.reported connection).length,
      listener.queue.queue.length + count < listener.queue.capacity

instance (id : ListenerId) (connection : ConnectionId) (step : Step) :
    Decidable (step.Fits id connection) :=
  decidable_of_iff (∀ listener ∈ (step.before.registry.hub.listener? id).toList,
    ∀ count < (step.reported connection).length,
      listener.queue.queue.length + count < listener.queue.capacity)
    (forall_congr' (fun _ => by rw [Option.mem_toList]))

variable {server after : Server} {connection : ConnectionId} {id : ListenerId} {depth : Nat}
  {command : Command} {outcome : Outcome}

/-- What a command does to the hub: a listener comes, or uses its queue; or reports are made, which
is all that the listeners to a connection notice of other commands. -/
theorem hub_of_execute (h : server.execute depth command = some (outcome, after))
    (connection : ConnectionId) :
    (∃ scope, command = .subscribe scope ∧
      after.registry.hub = (server.registry.hub.subscribe scope).2) ∨
    (∃ id use, command = .listener id use ∧ outcome = (server.registry.hub.useListener id use).1 ∧
      after.registry.hub = (server.registry.hub.useListener id use).2) ∨
    (¬command.Listens ∧ ∃ reports, after.registry.hub.scopedTo connection =
      (server.registry.hub.scopedTo connection).tell connection reports) := by
  by_cases hListens : command.Listens
  · cases command with
    | subscribe scope =>
      cases h
      exact .inl ⟨scope, rfl, rfl⟩
    | listener id use =>
      cases h
      exact .inr (.inl ⟨id, use, rfl, rfl, rfl⟩)
    | request | inbound | addFrom | route | session => exact absurd hListens not_false
  · obtain ⟨events, hRun⟩ := execute_run h
    have hCommands : ∀ known ∈ [command], known.CompilesFrom (fun _ => True) ∧ ¬known.Listens := by
      intro known hKnown
      cases List.mem_singleton.mp hKnown
      exact ⟨by cases command <;> trivial, hListens⟩
    obtain ⟨reports, hTells⟩ : ∃ reports, server.registry.Tells (fun _ => True) connection reports
        after.registry := hRun.tells trivial hCommands
    exact .inr (.inr ⟨hListens, reports, hTells.told⟩)

/-! ## What a listener gets -/

/-- What a listener with this queue has got once a time is over: it is there, and what it has heard
and what is queued are what was queued before and what was reported meanwhile. -/
structure Gets (connection : ConnectionId) (id : ListenerId) (before : Server)
    (queue : Channel Diagnostic) (heard reported : List Diagnostic) (after : Server)
    (left : Channel Diagnostic) : Prop where
  found : after.registry.hub.listener? id = some ⟨id, left⟩
  held : left.held = true
  queued : heard ++ left.queue = queue.queue ++ reported
  reports : after.registry.hub.reports connection =
    before.registry.hub.reports connection ++ reported

theorem Gets.trans {next : Server} {queue left last : Channel Diagnostic}
    {heard reported later new : List Diagnostic}
    (hFirst : Gets connection id server queue heard reported next left)
    (hSecond : Gets connection id next left later new after last) :
    Gets connection id server queue (heard ++ later) (reported ++ new) after last where
  found := hSecond.found
  held := hSecond.held
  queued := calc
    heard ++ later ++ last.queue
      = heard ++ (later ++ last.queue) := List.append_assoc ..
    _ = heard ++ left.queue ++ new := by rw [hSecond.queued, List.append_assoc]
    _ = queue.queue ++ (reported ++ new) := by rw [hFirst.queued, List.append_assoc]
  reports := by rw [hSecond.reports, hFirst.reports, List.append_assoc]

theorem Step.reported_eq {reports : List Diagnostic}
    (h : after.registry.hub.reports connection =
      server.registry.hub.reports connection ++ reports) :
    Step.reported connection ⟨server, command, outcome, after⟩ = reports := by
  unfold Step.reported
  rw [h, List.drop_left]

/-- Nothing is reported when a queue is used, and its listener reads what comes out of it. -/
theorem gets_of_use {queue : Channel Diagnostic} {known : ListenerId} {use : ListenerUse}
    (hFound : server.registry.hub.listener? id = some ⟨id, queue⟩) (hHeld : queue.held = true)
    (hKept : Command.listener known use ≠ .listener id .release)
    (hHub : after.registry.hub = (server.registry.hub.useListener known use).2) :
    let step : Step :=
      ⟨server, .listener known use, (server.registry.hub.useListener known use).1, after⟩
    ∃ left, Gets connection id server queue (step.heard id) (step.reported connection) after
      left := by
  have hReports : after.registry.hub.reports connection =
      server.registry.hub.reports connection ++ [] := by
    have hHistory : (server.registry.hub.useListener known use).2.history =
        server.registry.hub.history := by cases use <;> rfl
    unfold Hub.reports Hub.scopedTo
    rw [hHub, hHistory, List.append_nil]
  have hQueued : server.registry.hub.queued id = queue.queue := by
    unfold Hub.queued
    rw [hFound]
  dsimp only
  rw [Step.reported_eq hReports]
  by_cases hOwn : known = id
  · subst hOwn
    cases use with
    | receive =>
      refine ⟨queue.receive.2, ?_, ?_, ?_, hReports⟩
      · rw [hHub]
        refine (Hub.listener?_modify known _ hFound).trans ?_
        rw [if_pos rfl]
      · rw [Channel.receive_eq]
        exact hHeld
      · -- what is read is the head of the queue
        show (if known = known then (server.registry.hub.queued known).head?.toList else []) ++ _ =
          _
        rw [if_pos rfl, hQueued, Channel.receive_eq, List.append_nil]
        cases queue.queue <;> rfl
    | drain =>
      refine ⟨queue.drain.2, ?_, hHeld, ?_, hReports⟩
      · rw [hHub]
        refine (Hub.listener?_modify known _ hFound).trans ?_
        rw [if_pos rfl]
      · show (if known = known then server.registry.hub.queued known else []) ++ [] = _
        rw [if_pos rfl, hQueued]
    | release => exact absurd rfl hKept
  · -- the queue of another listener
    refine ⟨queue, ?_, hHeld, ?_, hReports⟩
    · rw [hHub]
      cases use <;>
        exact (Hub.listener?_modify known _ hFound).trans (by rw [if_neg (Ne.symm hOwn)])
    · have hHeard : Step.heard id ⟨server, .listener known use,
          (server.registry.hub.useListener known use).1, after⟩ = [] := by
        cases use with
        | receive => exact if_neg hOwn
        | drain => exact if_neg hOwn
        | release => rfl
      rw [hHeard, List.append_nil]
      rfl

/-- Only a listener's own use of its queue is heard. -/
theorem Step.heard_of_other (h : ∀ known use, command ≠ .listener known use) :
    Step.heard id ⟨server, command, outcome, after⟩ = [] := by
  cases command with
  | listener known use => exact absurd rfl (h known use)
  | request | inbound | addFrom | route | subscribe | session => rfl

/-- What a listener that is there, and whose queue has room, gets of one command. -/
theorem gets_of_execute {queue : Channel Diagnostic} (hScope : id.scope = some connection)
    (hFound : server.registry.hub.listener? id = some ⟨id, queue⟩) (hHeld : queue.held = true)
    (h : server.execute depth command = some (outcome, after))
    (hKept : command ≠ .listener id .release)
    (hFits : Step.Fits id connection ⟨server, command, outcome, after⟩) :
    let step : Step := ⟨server, command, outcome, after⟩
    ∃ left, Gets connection id server queue (step.heard id) (step.reported connection) after
      left := by
  rcases hub_of_execute h connection with ⟨scope, rfl, hHub⟩ | ⟨known, use, rfl, rfl, hHub⟩ |
    ⟨hListens, reports, hHub⟩
  · -- somebody else comes to listen
    have hReports : after.registry.hub.reports connection =
        server.registry.hub.reports connection ++ [] := by
      rw [hHub, List.append_nil]
      rfl
    dsimp only
    rw [Step.reported_eq hReports, Step.heard_of_other (fun _ _ hListener => by cases hListener)]
    refine ⟨queue, ?_, hHeld, (List.append_nil _).symm, hReports⟩
    rw [hHub]
    exact Hub.listener?_subscribe scope hFound
  · exact gets_of_use hFound hHeld hKept hHub
  · have hReports := Hub.reports_of_tell hHub
    have hOther : ∀ known use, command ≠ .listener known use := by
      rintro known use rfl
      exact hListens trivial
    have hRoom := hFits _ hFound
    rw [Step.reported_eq hReports] at hRoom
    dsimp only
    rw [Step.reported_eq hReports, Step.heard_of_other hOther]
    rw [← Hub.listener?_scopedTo hScope] at hFound
    refine ⟨{ queue with queue := queue.queue ++ reports }, ?_, hHeld, rfl, hReports⟩
    rw [← Hub.listener?_scopedTo hScope, hHub]
    exact Hub.listener?_tell hFound hScope hHeld hRoom

/-- What it gets of a run. -/
theorem gets_of_run {queue : Channel Diagnostic} {commands : List Command} {steps : List Step}
    (hScope : id.scope = some connection)
    (hFound : server.registry.hub.listener? id = some ⟨id, queue⟩) (hHeld : queue.held = true)
    (h : server.run depth commands = some (steps, after))
    (hKept : Command.listener id .release ∉ commands)
    (hFits : ∀ step ∈ steps, step.Fits id connection) :
    ∃ left, Gets connection id server queue (steps.flatMap (Step.heard id))
      (steps.flatMap (Step.reported connection)) after left := by
  -- by induction on the commands: what is left of the queue goes into the next step
  induction commands generalizing server queue steps with
  | nil =>
    cases h
    exact ⟨queue, hFound, hHeld, (List.append_nil _).symm, (List.append_nil _).symm⟩
  | cons command rest ih =>
    obtain ⟨outcome, next, later, hExecute, hRest, rfl⟩ := run_cons_eq_some_iff.mp h
    obtain ⟨hFirst, hLater⟩ := List.forall_mem_cons.mp hFits
    have hNotThis := List.ne_of_not_mem_cons hKept
    obtain ⟨left, hGets⟩ := gets_of_execute hScope hFound hHeld hExecute hNotThis.symm hFirst
    obtain ⟨last, hLast⟩ :=
      ih hGets.found hGets.held hRest (List.not_mem_of_not_mem_cons hKept) hLater
    exact ⟨last, hGets.trans hLast⟩

/-! ## What it can know -/

/-- The diagnostics of a connection are a log of its publications. A listener subscribes to a
connection without publications, at any point of a run, keeps its queue, and never lets it run full.
Then what it has heard and what is queued for it, replayed in order, are the publications of the
connection, with their names, params and flags, whatever was done meanwhile: so at every point, as
the run may end anywhere. A closing releases the services of the replay before it, in order; a
removal names no keys left; an addition is stored with its own flags, and adding it again, with its
params as a list, stores the same. Where no predicate acts, a run has an end. -/
theorem listener_knows_publications (filters : FilterModule) (config : Config)
    (connection : ConnectionId) :
    (filters.Pure → ∀ commands : List Command, (∀ command ∈ commands, command.Pure) →
      ∀ depth, ∃ steps last,
        (Server.new filters config).run (depth + 1) commands = some (steps, last)) ∧
    ∀ depth earlier past server,
      (Server.new filters config).run depth earlier = some (past, server) →
      (∀ service, server.registry.publication? connection service = none) →
      ∀ id watched, server.subscribe (some connection) = (id, watched) →
      ∀ during steps last, watched.run depth during = some (steps, last) →
      Command.listener id .release ∉ during →
      (∀ step ∈ steps, step.Fits id connection) →
      ∀ stream, stream = steps.flatMap (Step.heard id) ++ last.registry.hub.queued id →
        (∀ service, (Diagnostic.replayAll Table.empty stream).get? service =
          (last.registry.publication? connection service).map Publication.listing) ∧
        (∀ before known released after,
          stream = before ++ .connectionClosed known released :: after →
          known = connection ∧ released = (Diagnostic.replayAll Table.empty before).keys) ∧
        (∀ service keys, Diagnostic.removePublication service keys ∈ stream → keys = []) ∧
        (∀ service name params flags store,
          Diagnostic.addPublication service name params flags store ∈ stream →
          store = flags ∧
          ∃ module, (module = filters ∨ ∃ other place spec,
              Command.addFrom module other place spec ∈ earlier ++ during) ∧
            ∀ (registry : Registry) other place, registry.isOpen other = true →
              ∃ publication after, registry.addPublication other place module
                  ⟨name, .array params, flags.ifServer, flags.checkBefore⟩ =
                    (.ok publication, after) ∧
                publication.listing = ⟨name, params, flags⟩ ∧
                after.publication? other place = some publication) := by
  constructor
  · intro hFilters commands hPure depth
    obtain ⟨steps, last, hRun, -⟩ := run_of_quiet (Quiet.new hFilters config) depth hPure
    exact ⟨steps, last, hRun⟩
  · intro depth earlier past server hEarlier hNone id watched hSubscribe during steps last hDuring
      hKept hFits stream hStream
    obtain ⟨rfl, rfl⟩ : (server.subscribe (some connection)).1 = id ∧
        (server.subscribe (some connection)).2 = watched := Prod.ext_iff.mp hSubscribe
    -- the listener starts with an empty queue, and gets what is reported from then on
    have hFound := server.registry.hub.listener?_new (some connection)
    obtain ⟨left, hGets⟩ := gets_of_run rfl hFound rfl hDuring hKept hFits
    have hReported : stream = steps.flatMap (Step.reported connection) := by
      have hQueued : last.registry.hub.queued (server.subscribe (some connection)).1 =
          left.queue := by
        unfold Hub.queued
        rw [hGets.found]
      rw [hStream, hQueued]
      exact hGets.queued
    have hReports : last.registry.hub.reports connection =
        server.registry.hub.reports connection ++ stream := by
      rw [hReported]
      exact hGets.reports
    -- all reports tell the publications, and those before the subscription told of none
    obtain ⟨events, hBefore⟩ := run_run hEarlier
    obtain ⟨later, hAfter⟩ := run_run hDuring
    have hWatched : Machine.Run ⟨server, []⟩ [.subscribe (some connection)] []
        ⟨(server.subscribe (some connection)).2, []⟩ := .issue .start (.atOnce .subscribe)
    have hWhole := (hBefore.trans hWatched).trans hAfter
    have hCommands : ∀ command ∈ earlier ++ [.subscribe (some connection)] ++ during,
        command.CompilesFrom (fun module => module = filters ∨ ∃ other place spec,
          Command.addFrom module other place spec ∈ earlier ++ during) := by
      intro command hCommand
      cases command with
      | addFrom module other place spec =>
        exact .inr ⟨other, place, spec, by simpa using hCommand⟩
      | request | inbound | route | subscribe | session | listener => trivial
    have hPast : server.registry.Logged (fun _ => True) connection :=
      hBefore.logged trivial (fun command _ => by cases command <;> trivial) connection
    obtain ⟨hReplayed, hLawful⟩ :=
      hPast.since hNone (hWhole.logged (.inl rfl) hCommands connection) hReports
    refine ⟨fun service => ?_, ?_, ?_, ?_⟩
    · rw [hReplayed, Registry.get?_logbook]
    · rintro before known released after rfl
      exact hLawful.lawful
    · intro service keys hRemoved
      obtain ⟨before, after, rfl⟩ := List.append_of_mem hRemoved
      exact hLawful.lawful
    · intro service name params flags store hAdded
      obtain ⟨before, after, rfl⟩ := List.append_of_mem hAdded
      obtain ⟨hStore, module, hModule, predicate, hCompile⟩ := hLawful.lawful
      exact ⟨hStore, module, hModule, fun registry other place hOpen =>
        Registry.addPublication_again hCompile hOpen place flags⟩

end Server

/-- A connection whose sink is gone from the start. -/
def Command.arriving : List Command :=
  [.request (.openConnection ⟨1⟩ (Sink.scripted [.disconnected] 0))]

/-- It publishes, is closed because of its sink, comes back, publishes again and takes one back; its
listener reads once. -/
def Command.comingBack : List Command :=
  [.request (.addPublication ⟨1⟩ "orders" { name := "all" }),
    .request (.addPublication ⟨1⟩ "items" { name := "all", params := .string "ignored" }),
    .inbound (.mutation ⟨"orders", .created, none, .null⟩),
    .listener ⟨some ⟨1⟩, 0⟩ .drain,
    .inbound (.opened ⟨1⟩ (Sink.ofCapacity 1)),
    .request (.addPublication ⟨1⟩ "orders" { name := "all", ifServer := true }),
    .request (.addPublication ⟨1⟩ "items" { name := "all" }),
    .request (.removePublication ⟨1⟩ "items")]

theorem Server.listener_knows_publications_comingBack :
    ∃ past server watched steps last stream,
      (Server.new Builtin.module {}).run 1 Command.arriving = some (past, server) ∧
      server.subscribe (some ⟨1⟩) = (⟨some ⟨1⟩, 0⟩, watched) ∧
      watched.run 1 Command.comingBack = some (steps, last) ∧
      stream = steps.flatMap (Step.heard ⟨some ⟨1⟩, 0⟩) ++
        last.registry.hub.queued ⟨some ⟨1⟩, 0⟩ ∧
      stream.map Diagnostic.source = ["addPublication", "addPublication", "deliveryDropped",
        "connectionClosed", "addPublication", "addPublication", "removePublication"] ∧
      (∀ service keys, Diagnostic.removePublication service keys ∈ stream → keys = []) ∧
      last.registry.servicesFor ⟨1⟩ = ["orders"] ∧
      ∀ service, (Diagnostic.replayAll Table.empty stream).get? service =
        (last.registry.publication? ⟨1⟩ service).map Publication.listing := by
  have hEnd : ((Server.new Builtin.module {}).run 1 Command.arriving).bind (fun before =>
      ((before.2.subscribe (some ⟨1⟩)).2.run 1 Command.comingBack).map (fun run =>
        (before.2.registry.services.isEmpty, (before.2.subscribe (some ⟨1⟩)).1,
          decide (∀ step ∈ run.1, step.Fits ⟨some ⟨1⟩, 0⟩ ⟨1⟩),
          (run.1.flatMap (Step.heard ⟨some ⟨1⟩, 0⟩) ++
            run.2.registry.hub.queued ⟨some ⟨1⟩, 0⟩).map Diagnostic.source,
          run.2.registry.servicesFor ⟨1⟩))) =
      some (true, ⟨some ⟨1⟩, 0⟩, true, ["addPublication", "addPublication", "deliveryDropped",
        "connectionClosed", "addPublication", "addPublication", "removePublication"],
        ["orders"]) := by decide +kernel
  obtain ⟨⟨past, server⟩, hEarlier, hWatch⟩ := Option.bind_eq_some_iff.mp hEnd
  obtain ⟨⟨steps, last⟩, hDuring, hLast⟩ := Option.map_eq_some_iff.mp hWatch
  obtain ⟨hEmpty, hId, hFits, hSources, hServices⟩ : server.registry.services.isEmpty = true ∧
      (server.subscribe (some ⟨1⟩)).1 = ⟨some ⟨1⟩, 0⟩ ∧
      (∀ step ∈ steps, step.Fits ⟨some ⟨1⟩, 0⟩ ⟨1⟩) ∧
      (steps.flatMap (Step.heard ⟨some ⟨1⟩, 0⟩) ++
        last.registry.hub.queued ⟨some ⟨1⟩, 0⟩).map Diagnostic.source =
          ["addPublication", "addPublication", "deliveryDropped", "connectionClosed",
            "addPublication", "addPublication", "removePublication"] ∧
      last.registry.servicesFor ⟨1⟩ = ["orders"] := by
    simpa only [Option.some.injEq, Prod.mk.injEq, decide_eq_true_eq] using hLast
  have hNone : ∀ service, server.registry.publication? ⟨1⟩ service = none := by
    intro service
    rw [Registry.publication?_eq_bind, (Table.isEmpty_iff _).mp hEmpty]
    rfl
  have hSubscribe : server.subscribe (some ⟨1⟩) =
      (⟨some ⟨1⟩, 0⟩, (server.subscribe (some ⟨1⟩)).2) := Prod.ext hId rfl
  have hKept : Command.listener ⟨some ⟨1⟩, 0⟩ .release ∉ Command.comingBack := by
    simp [Command.comingBack]
  obtain ⟨hReplayed, -, hKeys, -⟩ := (Server.listener_knows_publications Builtin.module {} ⟨1⟩).2 1 _ _ _
    hEarlier hNone _ _ hSubscribe _ _ _ hDuring hKept hFits _ rfl
  exact ⟨past, server, _, steps, last, _, hEarlier, hSubscribe, hDuring, rfl, hSources,
    hKeys, hServices, hReplayed⟩

end Fanout
