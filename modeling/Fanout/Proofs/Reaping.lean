import Fanout.Proofs.Closing
import Fanout.Proofs.Journal

/-!
# Fanout — what the end of a routing closes

A routing notes the connections whose sinks turn out to be gone, and closes them when
all publications have been tested. What is noted is the connection, not the session:
if it was closed in the meantime and opened again, it is the new session that ends.

## Results

* `Server.state?_closeAll` — what closing connections does to sessions.
* `Machine.Run.reaped_iff` — which sessions the end of a routing closes.
* `Server.reaped_reopened` — a session that is closed for the sink of an earlier one.
-/

namespace Fanout

open Server (Trial)

/-! ## Closing connections -/

/-- Closing a connection ends the session that goes on in it, and no other. -/
theorem Registry.Sound.state?_closeConnection {registry : Registry} (hSound : registry.Sound)
    (connection : ConnectionId) (id : SessionId) :
    (registry.closeConnection connection).2.state? id =
      if registry.state? id = some .opened ∧ id.connection = connection then some .closed
      else registry.state? id := by
  cases hLive : registry.liveSession? connection with
  | none =>
    -- no session of the connection goes on
    have hNot : ¬(registry.state? id = some .opened ∧ id.connection = connection) := by
      rintro ⟨hOpened, rfl⟩
      have hSome := hSound.liveSession?_isSome_iff.mpr (by rw [hSound.open_live hOpened]; rfl)
      rw [hLive] at hSome
      cases hSome
    rw [Registry.closeConnection_of_not_live hLive, if_neg hNot]
  | some found =>
    obtain ⟨live, session⟩ := found
    obtain ⟨hId, hSession, hOpened⟩ := Registry.liveSession?_eq_some_iff.mp hLive
    have hOwn : id = live ↔ registry.state? id = some .opened ∧ id.connection = connection := by
      constructor
      · rintro rfl
        exact ⟨by rw [Registry.state?_of_get? hSession, hOpened], (hSound.live_open hId).1⟩
      · rintro ⟨hGoesOn, rfl⟩
        have hIn := hSound.open_live hGoesOn
        rw [hId] at hIn
        exact (Option.some.inj hIn).symm
    rw [Registry.closeConnection_of_live hLive, Registry.state?_of_insert registry rfl]
    by_cases hSame : id = live
    · rw [if_pos hSame, if_pos (hOwn.mp hSame)]
    · rw [if_neg hSame, if_neg (fun h => hSame (hOwn.mpr h))]

/-- Closing connections ends the sessions that go on in them, and no others. -/
theorem Server.state?_closeAll {server : Server} (hSound : server.registry.Sound)
    (connections : List ConnectionId) (id : SessionId) :
    (server.closeAll connections).registry.state? id =
      if server.registry.state? id = some .opened ∧ id.connection ∈ connections then some .closed
      else server.registry.state? id := by
  induction connections generalizing server with
  | nil => simp [Server.closeAll]
  | cons connection rest ih =>
    have hFirst : (server.closeConnection connection).2.registry.state? id = _ :=
      hSound.state?_closeConnection connection id
    have hNext : (server.closeConnection connection).2.registry.Sound :=
      hSound.closeConnection connection
    change ((server.closeConnection connection).2.closeAll rest).registry.state? id = _
    rw [ih hNext, hFirst]
    by_cases hOpened : server.registry.state? id = some .opened
    · by_cases hConnection : id.connection = connection
      · simp [hOpened, hConnection]
      · simp [hOpened, hConnection]
    · simp [hOpened]

/-! ## The end of a routing -/

/-- The connections that a routing has noted are those of the trials whose sinks were gone. -/
theorem Frame.Journal.mem_gone_iff {frame : Frame} {first now : Server} {config : Config}
    {mutation : Mutation} {outer : List Frame} {trials : List Trial}
    (h : frame.Journal first config mutation outer trials now) {connection : ConnectionId} :
    connection ∈ frame.gone ↔ ∃ trial ∈ trials,
      trial.verdict config mutation = .matched .disconnected ∧ trial.connection = connection := by
  rw [h.gone, List.mem_flatMap]
  refine exists_congr (fun trial => and_congr_right (fun _ => ?_))
  unfold Trial.gone
  by_cases hVerdict : trial.verdict config mutation = .matched .disconnected
  · rw [if_pos hVerdict, List.mem_singleton]
    exact ⟨fun hSame => ⟨hVerdict, hSame.symm⟩, fun hBoth => hBoth.2.symm⟩
  · rw [if_neg hVerdict]
    exact ⟨fun hNone => absurd hNone List.not_mem_nil, fun hBoth => absurd hBoth.1 hVerdict⟩

/-- A session that goes on at the end of the trials in the connection of a publication is the one
that the publication was added in, or it started during the trials. -/
theorem Machine.Run.session_of_trials {filters : FilterModule} {config : Config}
    {commands : List Command} {events during : List Event} {server : Server} {counted : Bool}
    {outer : List Frame} {last : Machine} {connection : ConnectionId} {mutation : Mutation}
    {publication : Publication} {id : SessionId}
    (hRun : Run ⟨Server.new filters config, []⟩ commands events
      ⟨server, Frame.start server counted mutation :: outer⟩)
    (hHeld : server.registry.publication? connection mutation.service = some publication)
    (hTrials : Run ⟨server, Frame.start server counted mutation :: outer⟩ [] during last)
    (hConnection : id.connection = connection)
    (hOpened : last.server.registry.state? id = some .opened) :
    publication.session = id ∨ server.registry.state? id = none := by
  have hSound : server.registry.Sound := hRun.follows.sound (Registry.Sound.new config)
  cases hState : server.registry.state? id with
  | none => exact .inr rfl
  | some state =>
    cases state with
    | opened =>
      -- the connection is in one session at a time
      have hLive := (hSound.held hHeld).2.2
      rw [← hConnection, hSound.open_live hState] at hLive
      exact .inl (Option.some.inj hLive).symm
    | closed =>
      -- a session that had ended does not go on later
      have hLater := (hTrials.chronicles hSound hRun.chronicled).registry
      have hClosed := (hRun.chronicled.registry.closed id).mp hState
      exact absurd (List.mem_append_left _ hClosed) ((hLater.opened id).mp hOpened).2

/-- Which sessions the end of a routing closes, whatever was done during the routing, and at any
point of a run: those that still go on and whose sink turned out to be gone; and those that were
opened during the routing in a connection whose earlier session had such a sink. All others are
left as they are. -/
theorem Machine.Run.reaped_iff {filters : FilterModule} {config : Config}
    {commands : List Command} {events during : List Event} {server after : Server}
    {mutation : Mutation} {outer : List Frame} {frame : Frame}
    (hRun : Run ⟨Server.new filters config, []⟩ commands events
      ⟨server, Frame.start server frame.counted mutation :: outer⟩)
    (hEager : config.closeOnDisconnect = true)
    (hDuring : During outer.length ⟨server, Frame.start server frame.counted mutation :: outer⟩ during
      ⟨after, frame :: outer⟩)
    (hDone : frame.Done after) :
    ∃ trials tested, ∃ last : Frame, last.Journal server config mutation outer trials tested ∧
      last.rest = [] ∧ after = tested.closeAll last.gone ∧
      ∀ id,
        (tested.registry.state? id = some .opened ∧ after.registry.state? id = some .closed ↔
          tested.registry.state? id = some .opened ∧
            ∃ trial ∈ trials, trial.verdict config mutation = .matched .disconnected ∧
              trial.connection = id.connection ∧
              (trial.publication.session = id ∨ server.registry.state? id = none)) ∧
        (tested.registry.state? id ≠ some .opened →
          after.registry.state? id = tested.registry.state? id) := by
  have hSound : server.registry.Sound := hRun.follows.sound (Registry.Sound.new config)
  have hConfig : server.registry.config = config := hRun.follows.config
  obtain ⟨trials, tested, last, hJournal, hNone, -, hCounted, hAfter⟩ := hDuring.journal hDone
  rw [hConfig] at hJournal hAfter
  rw [if_pos hEager] at hAfter
  obtain ⟨acts, hReached⟩ := hJournal.reached
  rw [hCounted] at hReached
  have hClosed := Server.state?_closeAll (hReached.run.follows.sound hSound) last.gone
  refine ⟨trials, tested, last, hJournal, hNone, hAfter, fun id => ⟨?_, ?_⟩⟩
  · rw [hAfter, hClosed]
    refine and_congr_right (fun hOpened => ?_)
    rw [hOpened]
    constructor
    · intro hEnded
      have hNoted : id.connection ∈ last.gone := by
        by_contra hNot
        rw [if_neg (fun h => hNot h.2)] at hEnded
        cases hEnded
      obtain ⟨trial, hTrial, hVerdict, hConnection⟩ := hJournal.mem_gone_iff.mp hNoted
      have hHeld : server.registry.publication? trial.connection mutation.service =
          some trial.publication := by
        rw [← Registry.mem_snapshot_iff, ← hJournal.entries.mem_iff]
        exact List.mem_append_left _ (List.mem_map.mpr ⟨trial, hTrial, rfl⟩)
      exact ⟨trial, hTrial, hVerdict, hConnection,
        hRun.session_of_trials hHeld hReached.run hConnection.symm hOpened⟩
    · rintro ⟨trial, hTrial, hVerdict, hConnection, -⟩
      rw [if_pos ⟨rfl, hJournal.mem_gone_iff.mpr ⟨trial, hTrial, hVerdict, hConnection⟩⟩]
  · intro hNotOpened
    rw [hAfter, hClosed, if_neg (fun h => hNotOpened h.1)]

/-- It closes a connection, opens it again, and adds a publication for it, before it accepts a
record. -/
def Predicate.reopening (connection : ConnectionId) : Predicate :=
  ⟨fun _ => .act (.closeConnection connection) (fun _ =>
    .act (.openConnection connection (Sink.ofCapacity 1)) (fun _ =>
      .act (.addPublication connection "orders" { name := "all" }) (fun _ => .answer (.ok true))))⟩

/-- A filter that reopens the first connection beside one that accepts everything. -/
def FilterModule.reopening : FilterModule :=
  (FilterModule.empty.filter "reopen" (fun _ => .ok (.reopening ⟨1⟩))).filter "all" Builtin.all

/-- The event that it is asked about. -/
def Mutation.reopening : Mutation := ⟨"orders", .created, none, .null⟩

/-- The sink of the first connection is gone, and the second one reopens the first. -/
def Command.reopening : List Command :=
  [.request (.openConnection ⟨1⟩ (Sink.scripted [.disconnected] 0)),
    .request (.openConnection ⟨2⟩ (Sink.ofCapacity 1)),
    .request (.addPublication ⟨1⟩ "orders" { name := "all" }),
    .request (.addPublication ⟨2⟩ "orders" { name := "reopen" })]

/-- The end of a routing may close a session whose own sink was never asked: here the first
connection is noted, is opened again in a new session with a publication, and that session ends. -/
theorem Server.reaped_reopened :
    ∃ steps server progress summary after,
      (Server.new .reopening {}).run 1 Command.reopening = some (steps, server) ∧
      server.registry.state? ⟨⟨1⟩, 1⟩ = none ∧
      Server.route 1 .reopening server = some (summary, after) ∧
      (server.registry.snapshot "orders").foldlM (Server.Progress.visit (Server.publish 1)
        .reopening (Server.Views.of [] .reopening)) { server } = some progress ∧
      progress.finish = (summary, after) ∧
      progress.server.registry.state? ⟨⟨1⟩, 1⟩ = some .opened ∧
      progress.server.registry.servicesFor ⟨1⟩ = ["orders"] ∧
      after.registry.state? ⟨⟨1⟩, 1⟩ = some .closed ∧
      after.registry.log ⟨⟨1⟩, 1⟩ = [] ∧
      after.registry.servicesFor ⟨1⟩ = [] := by
  have hEnd : ((Server.new .reopening {}).run 1 Command.reopening).bind (fun run =>
      ((run.2.registry.snapshot "orders").foldlM (Server.Progress.visit (Server.publish 1)
        .reopening (Server.Views.of [] .reopening)) { server := run.2 }).map (fun progress =>
          decide (run.2.registry.config.serverFieldsFor "orders" = [] ∧
            run.2.registry.state? ⟨⟨1⟩, 1⟩ = none ∧
            progress.server.registry.state? ⟨⟨1⟩, 1⟩ = some .opened ∧
            progress.server.registry.servicesFor ⟨1⟩ = ["orders"] ∧
            progress.finish.2.registry.state? ⟨⟨1⟩, 1⟩ = some .closed ∧
            (progress.finish.2.registry.log ⟨⟨1⟩, 1⟩).isEmpty ∧
            progress.finish.2.registry.servicesFor ⟨1⟩ = []))) = some true := by decide +kernel
  obtain ⟨⟨steps, server⟩, hRun, hVisited⟩ := Option.bind_eq_some_iff.mp hEnd
  obtain ⟨progress, hVisits, hLast⟩ := Option.map_eq_some_iff.mp hVisited
  simp only [decide_eq_true_eq, List.isEmpty_iff] at hLast
  obtain ⟨hHidden, hNone, hTested⟩ := hLast
  have hRoute : Server.route 1 .reopening server =
      some (progress.finish.1, progress.finish.2) := by
    show ((server.registry.snapshot "orders").foldlM (Server.Progress.visit (Server.publish 1)
      .reopening (Server.Views.of (server.registry.config.serverFieldsFor "orders") .reopening))
        { server }).bind _ = _
    rw [hHidden, hVisits]
    rfl
  exact ⟨steps, server, progress, _, _, hRun, hNone, hRoute, hVisits, rfl, hTested⟩

end Fanout
