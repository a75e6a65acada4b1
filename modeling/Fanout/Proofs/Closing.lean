import Fanout.Proofs.Chronicle

/-!
# Fanout — nothing is handed over after a close

Every state of the machine has its chronicle, also in the middle of a routing, where
publications are at work that may be out of date. So a session that was closed stays
closed and its sink is left alone, and what a sink was called with stems from the
session that it was opened for.

## Main definitions

* `Machine.Chronicled` — what the events so far say of a machine.

## Results

* `Machine.Run.chronicled` — every state of the machine has its chronicle.
* `Machine.Run.closed_for_good`, `Machine.Run.handed_in_session` — what follows for one session.
* `Machine.Run.nothing_after_close` — and for runs.
-/

namespace Fanout

open Server (Progress)

/-! ## The machine -/

/-- The publications under test or still to be tested. -/
def Frame.entries (frame : Frame) : List (ConnectionId × Publication) :=
  (frame.focus.map Prod.fst).toList ++ frame.rest

namespace Machine

/-- What the events so far say of the machine: of its registry, and of the publications that the
routings under way have still to do with. -/
structure Chronicled (events : List Event) (machine : Machine) : Prop where
  registry : Chronicle events machine.server.registry
  underway : ∀ frame ∈ machine.routings, ∀ entry ∈ frame.entries,
    entry.2.session.connection = entry.1 ∧ Event.added entry.2 ∈ events

variable {events new : List Event} {machine next : Machine} {server : Server} {frame : Frame}
  {routings : List Frame}

theorem Chronicled.start (hSound : server.registry.Sound)
    (hEvents : Chronicled events ⟨server, routings⟩) (counted : Bool) (mutation : Mutation) :
    Chronicled events
      ⟨Frame.arrive counted server, Frame.start server counted mutation :: routings⟩ := by
  refine ⟨?_, fun other hOther entry hEntry => ?_⟩
  · show Chronicle events (Frame.arrive counted server).registry
    rw [Frame.registry_arrive]
    exact hEvents.registry
  rcases List.mem_cons.mp hOther with rfl | hOther
  · -- the publications of a snapshot are those held when it is taken
    have hSnapshot : entry ∈ server.registry.snapshot mutation.service := hEntry
    have hHeld := Registry.mem_snapshot_iff.mp hSnapshot
    exact ⟨(hSound.live_open (hSound.held hHeld).2.2).1, hEvents.registry.held _ _ _ hHeld⟩
  · exact hEvents.underway other hOther entry hEntry

/-- A step that replaces the innermost routing by one that has no more to do. -/
theorem Chronicled.replace (hEvents : Chronicled events ⟨server, frame :: routings⟩)
    {after : Server} {left : Frame} (hAfter : Chronicle (events ++ new) after.registry)
    (hLeft : ∀ entry ∈ left.entries, entry ∈ frame.entries) :
    Chronicled (events ++ new) ⟨after, left :: routings⟩ := by
  refine ⟨hAfter, fun other hOther entry hEntry => ?_⟩
  rcases List.mem_cons.mp hOther with rfl | hOther
  · obtain ⟨hOwn, hAdded⟩ := hEvents.underway frame List.mem_cons_self entry (hLeft entry hEntry)
    exact ⟨hOwn, List.mem_append_left _ hAdded⟩
  · obtain ⟨hOwn, hAdded⟩ :=
      hEvents.underway other (List.mem_cons_of_mem _ hOther) entry hEntry
    exact ⟨hOwn, List.mem_append_left _ hAdded⟩

theorem Step.chronicled (hStep : Step machine new next) (hSound : machine.server.registry.Sound)
    (hEvents : Chronicled events machine) : Chronicled (events ++ new) next := by
  cases hStep with
  | @visit server frame routings entry rest hFocus hRest =>
    -- a publication moves from those to be tested to the one under test
    refine hEvents.replace (by rw [List.append_nil]; exact hEvents.registry) ?_
    unfold Frame.entries Frame.visit
    rw [hFocus]
    exact fun _ hEntry => hRest.mem_iff.mpr hEntry
  | @act server frame routings entry request behaviour new reply after hFocus hDoes =>
    refine hEvents.replace (hDoes.chronicle hSound hEvents.registry) ?_
    unfold Frame.entries Frame.resume
    rw [hFocus]
    exact fun _ hEntry => hEntry
  | nest hFocus =>
    rw [List.append_nil]
    exact hEvents.start hSound true _
  | @conclude server frame routings entry result hFocus =>
    -- the publication under test was added, in a session of its connection
    have hEntry : entry ∈ frame.entries := by
      unfold Frame.entries
      rw [hFocus]
      exact List.mem_append_left _ (List.mem_singleton.mpr rfl)
    obtain ⟨hOwn, hAdded⟩ := hEvents.underway frame List.mem_cons_self entry hEntry
    refine hEvents.replace (Server.chronicle_concluded frame result hEvents.registry hAdded hOwn) ?_
    exact fun _ hLeft => List.mem_append_right _ hLeft
  | reap hTested hConfig hGone hDoes =>
    -- all have been tested, so that no publication is left in the routing
    exact hEvents.replace (hDoes.chronicle hSound hEvents.registry) (fun entry hEntry => hEntry)
  | @yield server frame outer routings entry mutation behaviour hDone hFocus =>
    have hSettled : Chronicle (events ++ []) (frame.settle server).registry := by
      rw [List.append_nil, Frame.registry_settle]
      exact hEvents.registry
    -- the routing within has no more to do, and the outer one goes on
    have hOuter : Chronicled events ⟨server, outer :: routings⟩ :=
      ⟨hEvents.registry, fun other hOther => hEvents.underway other (List.mem_cons_of_mem _ hOther)⟩
    refine hOuter.replace hSettled ?_
    unfold Frame.entries Frame.resume
    rw [hFocus]
    exact fun _ hEntry => hEntry
  | @finish server frame hDone =>
    refine ⟨?_, fun other hOther => by cases hOther⟩
    rw [List.append_nil, Frame.registry_settle]
    exact hEvents.registry

theorem Issue.chronicled {command : Command} (hIssue : Issue machine command new next)
    (hSound : machine.server.registry.Sound) (hEvents : Chronicled events machine) :
    Chronicled (events ++ new) next := by
  cases hIssue with
  | atOnce hDone =>
    exact ⟨hDone.chronicle hSound hEvents.registry, fun other hOther => by cases hOther⟩
  | @routing server command mutation hEvent =>
    rw [List.append_nil]
    exact hEvents.start hSound command.counted mutation

/-- A chronicle goes on along a run. -/
theorem Run.chronicles {commands : List Command} (hRun : Run machine commands new next)
    (hSound : machine.server.registry.Sound) (hEvents : Chronicled events machine) :
    Chronicled (events ++ new) next := by
  -- by induction on the run, along which the registry is sound
  induction hRun with
  | start =>
    rw [List.append_nil]
    exact hEvents
  | issue hRun hIssue ih =>
    rw [← List.append_assoc]
    exact hIssue.chronicled (hRun.follows.sound hSound) ih
  | step hRun hStep ih =>
    rw [← List.append_assoc]
    exact hStep.chronicled (hRun.follows.sound hSound) ih

/-- Every state of the machine has its chronicle. -/
theorem Run.chronicled {filters : FilterModule} {config : Config} {commands : List Command}
    (hRun : Run ⟨Server.new filters config, []⟩ commands events machine) :
    Chronicled events machine := by
  have hStart : Chronicled [] ⟨Server.new filters config, []⟩ :=
    ⟨.new config, fun other hOther => by cases hOther⟩
  exact hRun.chronicles (Registry.Sound.new config) hStart

/-! ## What follows for sessions -/

/-- A session that was closed stays closed, and its sink is not called again. -/
theorem Run.closed_for_good {filters : FilterModule} {config : Config}
    {commands later : List Command}
    (hRun : Run ⟨Server.new filters config, []⟩ commands events machine) {id : SessionId}
    (hClosed : machine.server.registry.state? id = some .closed)
    (hLater : Run machine later new next) :
    next.server.registry.state? id = some .closed ∧
      next.server.registry.log id = machine.server.registry.log id := by
  -- the chronicle at the end goes on from the one at the time that the session was closed
  have hBefore := hRun.chronicled.registry
  have hAfter := (hRun.trans hLater).chronicled.registry
  have hEvent := (hBefore.closed id).mp hClosed
  obtain ⟨sink, hOpened⟩ := hBefore.lawful.opened_of_closed hEvent
  refine ⟨(hAfter.closed id).mpr (List.mem_append_left _ hEvent), ?_⟩
  rw [hAfter.log id sink (List.mem_append_left _ hOpened), hBefore.log id sink hOpened,
    Event.handedTo_append, hAfter.lawful.handedTo_of_closed hEvent, List.append_nil]

/-- What the sink of a session was called with, the session was opened for. -/
theorem Run.handed_in_session {filters : FilterModule} {config : Config} {commands : List Command}
    (hRun : Run ⟨Server.new filters config, []⟩ commands events machine) {id : SessionId}
    {session : Session} (hSession : machine.server.registry.sessions.get? id = some session) :
    ∃ past sink during, events = past ++ .opened id sink :: during ∧
      session.sink.log = sink.log ++ Event.handedTo id during ∧
      ∀ earlier publication delivery answer later,
        during = earlier ++ .handed publication delivery answer :: later →
        publication.session = id →
        delivery.connection = id.connection ∧ publication.connection = id.connection ∧
          Event.added publication ∈ earlier ∧ Event.closed id ∉ earlier := by
  have hEvents := hRun.chronicled.registry
  have hState := Registry.state?_of_get? hSession
  -- whatever its state, the session was opened at some point
  have hKnown : ∃ sink, Event.opened id sink ∈ events := by
    cases hOpened : session.state with
    | opened => exact ((hEvents.opened id).mp (hOpened ▸ hState)).1
    | closed => exact hEvents.lawful.opened_of_closed ((hEvents.closed id).mp (hOpened ▸ hState))
  obtain ⟨sink, hOpened⟩ := hKnown
  obtain ⟨past, during, rfl⟩ := List.append_of_mem hOpened
  -- and at that one point only
  obtain ⟨hNotBefore, -⟩ := hEvents.lawful past _ during rfl
  refine ⟨past, sink, during, rfl, ?_, ?_⟩
  · -- nothing was handed to it before
    have hLog := hEvents.log id sink hOpened
    rw [Registry.log_of_get? hSession, Event.handedTo_append,
      hEvents.lawful.of_append.handedTo_of_not_opened hNotBefore] at hLog
    exact hLog
  · rintro earlier publication delivery answer later rfl rfl
    obtain ⟨hOwn, hAdded, hGoesOn⟩ := hEvents.lawful
      (past ++ .opened publication.session sink :: earlier)
      (.handed publication delivery answer) later (by simp)
    have hDuring : Event.added publication ∈ earlier := by
      rcases List.mem_append.mp hAdded with hBefore | hAfter
      · -- what was added before the session was opened was added in another one
        obtain ⟨other, hOther⟩ := hEvents.lawful.of_append.opened_of_added hBefore
        exact absurd hOther (hNotBefore other)
      · simpa using hAfter
    obtain ⟨before, -, hPublisher, -⟩ := hEvents.lawful.of_mem
      (List.mem_append_right past (List.mem_cons_of_mem _ (List.mem_append_left _ hDuring)))
    refine ⟨hOwn, hPublisher, hDuring, fun hClosed => hGoesOn ?_⟩
    exact List.mem_append_right _ (List.mem_cons_of_mem _ hClosed)

/-- A match whose session is closed is counted as dropped by the routing under way, which goes on with
the server as it is. -/
theorem Step.match_of_closed {server : Server} {frame : Frame} {routings : List Frame}
    {entry : ConnectionId × Publication}
    (hFocus : frame.focus = some (entry, .answer (.ok true)))
    (hClosed : server.registry.state? entry.2.session = some .closed)
    (hStep : Step ⟨server, frame :: routings⟩ new next) :
    new = [.missed entry.2 (frame.delivery entry.1)] ∧
      next = ⟨server, { frame with
        focus := none
        summary := { frame.summary with
          matched := frame.summary.matched + 1
          dropped := frame.summary.dropped + 1 } } :: routings⟩ := by
  cases hStep with
  | visit hNone | act hNone | nest hNone =>
    rw [hFocus] at hNone
    cases hNone
  | reap hTested =>
    rw [hTested.focus] at hFocus
    cases hFocus
  | yield hDone | finish hDone =>
    rw [hDone.focus] at hFocus
    cases hFocus
  | conclude hAnswer =>
    rw [hFocus] at hAnswer
    cases hAnswer
    constructor
    · show [server.handing entry.2 (frame.delivery entry.1)] = _
      rw [Server.handing_of_closed hClosed]
    · have hDropped : frame.concluded server entry (.ok true) = _ :=
        Progress.deliver_of_closed ⟨server, frame.summary, frame.gone⟩ _ hClosed
      rw [hDropped]
      rfl

/-- Nothing is handed over after a close, and never to another session. Every run of commands is a
run of the machine, and at every point of one, also in the middle of a routing and in whatever order
routings take the publications: a session that is closed stays closed whatever follows, and its sink
is not called again; what a sink was called with since its session was opened is addressed to the
connection of the session and stems from a publication added in that session, which was not closed
before. A match that finds its session closed is counted as dropped, and nothing is reported. -/
theorem Run.nothing_after_close (filters : FilterModule) (config : Config) :
    (∀ server depth commands steps last, Server.run depth server commands = some (steps, last) →
      ∃ events, Run ⟨server, []⟩ commands events ⟨last, []⟩) ∧
    (∀ commands events machine, Run ⟨Server.new filters config, []⟩ commands events machine →
      (∀ id, machine.server.registry.state? id = some .closed →
        ∀ later new next, Run machine later new next →
          next.server.registry.state? id = some .closed ∧
            next.server.registry.log id = machine.server.registry.log id) ∧
      (∀ id session, machine.server.registry.sessions.get? id = some session →
        ∃ past sink during, events = past ++ .opened id sink :: during ∧
          session.sink.log = sink.log ++ Event.handedTo id during ∧
          ∀ earlier publication delivery answer following,
            during = earlier ++ .handed publication delivery answer :: following →
            publication.session = id →
            delivery.connection = id.connection ∧ publication.connection = id.connection ∧
              Event.added publication ∈ earlier ∧ Event.closed id ∉ earlier)) ∧
    (∀ publish mutation views progress entry server,
      Server.carryOut publish (entry.2.predicate.behave (views.tested entry.2)) progress.server =
        some (.ok true, server) →
      server.registry.state? entry.2.session = some .closed →
      Progress.visit publish mutation views progress entry = some { progress with
        server
        summary := { progress.summary with
          matched := progress.summary.matched + 1
          dropped := progress.summary.dropped + 1 } }) ∧
    (∀ server frame routings entry new next,
      frame.focus = some (entry, .answer (.ok true)) →
      server.registry.state? entry.2.session = some .closed →
      Step ⟨server, frame :: routings⟩ new next →
      new = [.missed entry.2 (frame.delivery entry.1)] ∧
        next = ⟨server, { frame with
          focus := none
          summary := { frame.summary with
            matched := frame.summary.matched + 1
            dropped := frame.summary.dropped + 1 } } :: routings⟩) := by
  refine ⟨?_, ?_, ?_, ?_⟩
  · exact fun server depth commands steps last h => Server.run_run h
  · intro commands events machine hRun
    exact ⟨fun id hClosed later new next hLater => hRun.closed_for_good hClosed hLater,
      fun id session hSession => hRun.handed_in_session hSession⟩
  · exact fun publish mutation views progress entry server hCarry hClosed =>
      Progress.visit_of_closed hCarry hClosed
  · exact fun server frame routings entry new next hFocus hClosed hStep =>
      hStep.match_of_closed hFocus hClosed

end Machine

/-- Its connection is closed by the predicate itself before it accepts a record. -/
def Predicate.leaving (connection : ConnectionId) : Predicate :=
  ⟨fun _ => .act (.closeConnection connection) (fun _ => .answer (.ok true))⟩

/-- The module whose only filter has the first connection leave. -/
def FilterModule.leaving : FilterModule :=
  FilterModule.empty.filter "leave" (fun _ => .ok (.leaving ⟨1⟩))

/-- A connection that is closed in the middle of a routing, and opened again. -/
def Command.leaving : List Command :=
  [.request (.openConnection ⟨1⟩ (Sink.ofCapacity 1)),
    .request (.addPublication ⟨1⟩ "orders" { name := "leave" }),
    .inbound (.mutation ⟨"orders", .created, none, .null⟩),
    .inbound (.opened ⟨1⟩ (Sink.ofCapacity 1))]

theorem Machine.Run.nothing_after_close_leaving :
    ∃ steps last events,
      (Server.new .leaving {}).run 1 Command.leaving = some (steps, last) ∧
      Machine.Run ⟨Server.new .leaving {}, []⟩ Command.leaving events ⟨last, []⟩ ∧
      last.registry.state? ⟨⟨1⟩, 0⟩ = some .closed ∧
      last.registry.state? ⟨⟨1⟩, 1⟩ = some .opened ∧
      ∀ later new next, Machine.Run ⟨last, []⟩ later new next →
        next.server.registry.state? ⟨⟨1⟩, 0⟩ = some .closed ∧
          next.server.registry.log ⟨⟨1⟩, 0⟩ = [] := by
  have hEnd : ((Server.new .leaving {}).run 1 Command.leaving).map (fun run =>
      (run.2.registry.state? ⟨⟨1⟩, 0⟩, run.2.registry.state? ⟨⟨1⟩, 1⟩,
        run.2.registry.log ⟨⟨1⟩, 0⟩)) = some (some .closed, some .opened, []) := rfl
  obtain ⟨⟨steps, last⟩, hRun, hLast⟩ := Option.map_eq_some_iff.mp hEnd
  obtain ⟨hClosed, hOpened, hLog⟩ : last.registry.state? ⟨⟨1⟩, 0⟩ = some .closed ∧
      last.registry.state? ⟨⟨1⟩, 1⟩ = some .opened ∧ last.registry.log ⟨⟨1⟩, 0⟩ = [] := by
    simpa using hLast
  obtain ⟨hMachine, hRuns, -⟩ := Machine.Run.nothing_after_close .leaving {}
  obtain ⟨events, hEvents⟩ := hMachine _ _ _ _ _ hRun
  refine ⟨steps, last, events, hRun, hEvents, hClosed, hOpened, fun later new next hLater => ?_⟩
  obtain ⟨hStays, hSame⟩ := (hRuns _ _ _ hEvents).1 _ hClosed _ _ _ hLater
  exact ⟨hStays, hSame.trans hLog⟩

end Fanout
