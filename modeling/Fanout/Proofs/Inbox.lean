import Fanout.Proofs.Outlet
import Fanout.Proofs.Tally

/-!
# Fanout — what a client finds in its channel

A session that was opened over a channel fills its queue with what its connection is
due, as long as the session goes on, its client holds on to the channel and there is
room. Nothing else gets in, and only the client's own reading takes anything out.

## Main definitions

* `Server.Step.owed`, `Server.Step.admitted` — what a step has for a session, and what of it
  finds room.
* `Server.Step.read`, `Server.Step.discarded` — what a step takes out of a session's queue.
* `Server.Step.Accounts`, `Server.Step.Serves` — how a step counts and reports what it has for a
  session, and what its client gets.

## Results

* `Server.channel_of_execute`, `Server.channel_of_run` — one step, and a run.
* `Server.verdict_of_due` — how a match is counted and reported.
* `Server.channel_receives_matches` — what follows for a session over a channel.
-/

namespace Fanout

/-! ## Steps -/

/-- The client of a session holds on to its channel. -/
def Registry.attached (registry : Registry) (id : SessionId) : Bool :=
  match registry.channel? id with
  | some channel => channel.held
  | none => false

theorem Registry.attached_of_channel? {registry : Registry} {id : SessionId}
    {channel : Channel Delivery} (h : registry.channel? id = some channel) :
    registry.attached id = channel.held := by
  unfold attached
  rw [h]

namespace Server

/-- What the event of a step has for a session: what its connection is due, as long as the session
goes on and its client holds on to the channel. -/
def Step.owed (id : SessionId) (step : Step) : List Delivery :=
  match step.command.event? with
  | some mutation =>
    if step.before.registry.state? id = some .opened ∧ step.before.registry.attached id = true then
      step.before.registry.due mutation id.connection
    else []
  | none => []

/-- What of it finds room, the queue holding less than a capacity. -/
def Step.admitted (id : SessionId) (capacity : Nat) (step : Step) : List Delivery :=
  if (step.before.registry.queued id).length < capacity then step.owed id else []

/-- What the client of a session reads in a step. -/
def Step.read (id : SessionId) (step : Step) : List Delivery :=
  match step.command, step.outcome with
  | .session known .receive, .received (.item delivery) => if known = id then [delivery] else []
  | .session known .drain, .deliveries deliveries => if known = id then deliveries else []
  | _, _ => []

/-- What is lost in a step because the client of a session lets go of its channel. -/
def Step.discarded (id : SessionId) (step : Step) : List Delivery :=
  match step.command with
  | .session known .release => if known = id then step.before.registry.queued id else []
  | _ => []

variable {server after : Server} {id : SessionId} {channel : Channel Delivery} {depth : Nat}
  {command : Command} {outcome : Outcome} {mutation : Mutation}

theorem due_nil_or_single (registry : Registry) (mutation : Mutation)
    (connection : ConnectionId) : registry.due mutation connection = [] ∨
      registry.due mutation connection = [mutation.deliveryTo registry.config connection] := by
  unfold Registry.due
  split
  · split
    · exact .inr rfl
    · exact .inl rfl
    · exact .inl rfl
  · exact .inl rfl

/-- An event is no use of a session. -/
theorem Step.read_of_event (h : command.event? = some mutation) :
    Step.read id ⟨server, command, outcome, after⟩ = [] ∧
      Step.discarded id ⟨server, command, outcome, after⟩ = [] := by
  cases command with
  | session => cases h
  | request | inbound | addFrom | route | subscribe | listener => exact ⟨rfl, rfl⟩

/-- What an event does to a channel. -/
theorem moves_of_event (hQuiet : server.Quiet) (hSound : server.registry.Sound)
    (hChannel : server.registry.channel? id = some channel)
    (hEvent : command.event? = some mutation)
    (h : server.execute (depth + 1) command = some (outcome, after)) :
    ∃ left, after.registry.channel? id = some left ∧
      let step : Step := ⟨server, command, outcome, after⟩
      channel.Moves left (step.read id) (step.discarded id)
        (step.admitted id channel.capacity) := by
  obtain ⟨answer, stats, hExecute⟩ := execute_of_event hQuiet depth hEvent
  rw [h] at hExecute
  cases hExecute
  have hAfter := channel?_quietRoute hSound mutation id
  rw [hChannel, Option.map_some] at hAfter
  refine ⟨_, hAfter, ?_⟩
  dsimp only
  obtain ⟨hRead, hDiscarded⟩ := @Step.read_of_event server
    { (server.quietRoute mutation).2 with stats } id command outcome mutation hEvent
  rw [hRead, hDiscarded]
  unfold Step.admitted Step.owed
  dsimp only
  rw [hEvent, Registry.queued_of_channel? hChannel, Registry.attached_of_channel? hChannel]
  dsimp only
  by_cases hOpened : server.registry.state? id = some .opened
  · -- one delivery is due at most, so that what was offered is one item or none
    rcases due_nil_or_single server.registry mutation id.connection with hDue | hDue
    · simp [hOpened, hDue, Channel.Moves.refl]
    · simpa [hOpened, hDue] using Channel.Moves.offer channel _
  · simp [hOpened, Channel.Moves.refl]

theorem Step.admitted_of_no_event (h : command.event? = none) (capacity : Nat) :
    Step.admitted id capacity ⟨server, command, outcome, after⟩ = [] := by
  unfold Step.admitted Step.owed
  dsimp only
  rw [h]
  exact ite_self _

/-- What the client of a session does to its channel. -/
theorem moves_of_use (hChannel : server.registry.channel? id = some channel) (use : SessionUse) :
    let step : Step := ⟨server, .session id use, (server.registry.useSession id use).1, after⟩
    channel.Moves (use.onChannel channel) (step.read id) (step.discarded id)
      (step.admitted id channel.capacity) := by
  dsimp only
  have hQueued := Registry.queued_of_channel? hChannel
  rw [Step.admitted_of_no_event rfl]
  have hCapacity := use.capacity_onChannel channel
  have hFit : channel.Fit → (use.onChannel channel).Fit := fun h => h.onChannel use
  cases use with
  | receive =>
    have hLeft : SessionUse.receive.onChannel channel =
        { channel with queue := channel.queue.tail } := by
      show channel.receive.2 = _
      rw [Channel.receive_eq]
    have hRead : Step.read id ⟨server, .session id .receive,
        (server.registry.useSession id .receive).1, after⟩ = channel.queue.head?.toList := by
      show Step.read id ⟨server, .session id .receive,
        .received (server.registry.receive id).1, after⟩ = _
      unfold Registry.receive
      rw [hQueued]
      cases channel.queue with
      | cons delivery rest => simp [Step.read]
      | nil =>
        -- there is nothing to read, whether something may still come or not
        cases server.registry.sessions.get? id with
        | none => rfl
        | some session =>
          dsimp only
          split <;> rfl
    refine ⟨hCapacity, hFit, ?_, fun _ => rfl, fun h => ⟨?_, rfl⟩⟩
    · rw [hLeft, hRead]
      cases channel.queue <;> simp [Step.discarded]
    · rw [hLeft]
      exact h
  | drain =>
    refine ⟨hCapacity, hFit, ?_, fun _ => rfl, fun h => ⟨h, rfl⟩⟩
    have hRead : Step.read id ⟨server, .session id .drain,
        (server.registry.useSession id .drain).1, after⟩ = channel.queue := by
      show Step.read id ⟨server, .session id .drain,
        .deliveries (server.registry.queued id), after⟩ = _
      simp [Step.read, hQueued]
    rw [hRead]
    simp [Step.discarded, SessionUse.onChannel, Channel.drain]
  | release =>
    refine ⟨hCapacity, hFit, ?_, fun h => (by cases h), fun _ => ⟨rfl, rfl⟩⟩
    simp [Step.read, Step.discarded, hQueued, SessionUse.onChannel, Channel.release]
  | hold => exact .refl channel
  | unhold => exact .refl channel

/-- A command of anybody else. -/
theorem Step.taken_of_other (hOther : ∀ use, command ≠ .session id use) :
    Step.read id ⟨server, command, outcome, after⟩ = [] ∧
      Step.discarded id ⟨server, command, outcome, after⟩ = [] := by
  cases command with
  | session known use =>
    have hNe : known ≠ id := by
      rintro rfl
      exact hOther use rfl
    unfold Step.read Step.discarded
    constructor
    · split <;> simp_all
    · split <;> simp_all
  | request | inbound | addFrom | route | subscribe | listener => exact ⟨rfl, rfl⟩

/-- What any one command does to the channel of a session. -/
theorem channel_of_execute (hQuiet : server.Quiet) (hSound : server.registry.Sound)
    (hChannel : server.registry.channel? id = some channel)
    (h : server.execute (depth + 1) command = some (outcome, after)) :
    ∃ left, after.registry.channel? id = some left ∧
      let step : Step := ⟨server, command, outcome, after⟩
      channel.Moves left (step.read id) (step.discarded id)
        (step.admitted id channel.capacity) := by
  cases hEvent : command.event? with
  | some mutation => exact moves_of_event hQuiet hSound hChannel hEvent h
  | none =>
    obtain ⟨events, hDone⟩ := atOnce_of_execute h hEvent
    have hKnown : (server.registry.channel? id).isSome := by simp [hChannel]
    -- nobody but the client of the session touches the channel
    rcases hDone.channel? hSound hKnown with ⟨use, rfl, rfl, hLeft⟩ | ⟨hOther, hLeft⟩
    · rw [hChannel, Option.map_some] at hLeft
      exact ⟨_, hLeft, moves_of_use hChannel use⟩
    · obtain ⟨hRead, hDiscarded⟩ := @Step.taken_of_other server after id command outcome hOther
      refine ⟨channel, hLeft.trans hChannel, ?_⟩
      dsimp only
      rw [hRead, hDiscarded, Step.admitted_of_no_event hEvent]
      exact .refl channel

/-! ## Counts and reports -/

/-- How a step counts its event, and how it reports what it has for a session. -/
structure Step.Accounts (id : SessionId) (capacity : Nat) (step : Step) : Prop where
  /-- The event is counted by what becomes of each publication on its service. -/
  counted : ∀ mutation, step.command.event? = some mutation →
    let summary := Summary.tally ((step.before.registry.verdicts mutation).map Prod.snd)
    step.outcome = step.command.routed summary ∧
      step.after.stats =
        if step.command.counted then step.before.stats.record summary else step.before.stats
  /-- What finds room is one of those delivered, and nothing is reported. -/
  kept : ∀ mutation delivery, step.command.event? = some mutation → step.owed id = [delivery] →
    (step.before.registry.queued id).length < capacity →
      (id.connection, .matched .delivered) ∈ step.before.registry.verdicts mutation ∧
      (step.after.registry.hub.scopedTo id.connection).history =
        (step.before.registry.hub.scopedTo id.connection).history
  /-- What finds no room is one of those dropped, and reported as such. -/
  lost : ∀ mutation delivery, step.command.event? = some mutation → step.owed id = [delivery] →
    capacity ≤ (step.before.registry.queued id).length →
      (id.connection, .matched .full) ∈ step.before.registry.verdicts mutation ∧
      (step.after.registry.hub.scopedTo id.connection).history =
        (some id.connection, .deliveryDropped mutation.service id.connection .bufferFull) ::
          (step.before.registry.hub.scopedTo id.connection).history

/-- What is due to a connection is due because its publication accepts the event. -/
theorem match_of_due {registry : Registry} {connection : ConnectionId} {delivery : Delivery}
    (h : registry.due mutation connection = [delivery]) :
    ∃ publication, registry.publication? connection mutation.service = some publication ∧
      publication.predicate.evaluate (publication.testedOn registry.config mutation) =
        .ok true ∧
      delivery = mutation.deliveryTo registry.config connection := by
  unfold Registry.due at h
  split at h
  · rename_i publication hHeld
    split at h
    · rename_i hMatch
      exact ⟨publication, hHeld, hMatch, (List.singleton_inj.mp h).symm⟩
    · cases h
    · cases h
  · cases h

/-- What becomes of a match for a session that goes on and whose channel is held: it is handed to
the channel, and its answer is the verdict and is reported. -/
theorem verdict_of_due (hSound : server.registry.Sound)
    (hChannel : server.registry.channel? id = some channel) (hHeld : channel.held = true)
    (hOpened : server.registry.state? id = some .opened) {delivery : Delivery}
    (hDue : server.registry.due mutation id.connection = [delivery]) :
    (id.connection, .matched (.ofOffer (channel.offer delivery).1)) ∈
        server.registry.verdicts mutation ∧
      (server.quietRoute mutation).2.registry.hub.scopedTo id.connection =
        (server.registry.hub.answered delivery (channel.offer delivery).1).scopedTo
          id.connection := by
  obtain ⟨publication, hPublication, hMatch, rfl⟩ := match_of_due hDue
  obtain ⟨session, hub, hSession, hState, hRegistry, hHub⟩ :=
    routeFor_of_match hSound hPublication hMatch
  -- the session of the publication is the one that goes on
  have hLive := (hSound.held hPublication).2.2
  rw [hSound.open_live hOpened] at hLive
  have hId : id = publication.session := Option.some.inj hLive
  rw [← hId] at hSession hRegistry
  rw [Registry.channel?_of_get? hSession] at hChannel
  have hAnswer := Sink.deliver_fst hChannel
    (mutation.deliveryTo server.registry.config id.connection)
  constructor
  · have hVerdict : server.registry.verdict mutation (id.connection, publication) =
        .matched (.ofOffer (channel.offer
          (mutation.deliveryTo server.registry.config id.connection)).1) := by
      unfold Registry.verdict
      rw [hMatch]
      dsimp only
      rw [Registry.deliver_fst, ← hId, hSession, Option.map_some, Option.getD_some,
        Session.deliver_of_opened hState, hAnswer]
    exact hVerdict ▸ Registry.mem_verdicts hPublication
  · -- the sink is there, so that the connection is not closed after it
    have hThere : (channel.offer
        (mutation.deliveryTo server.registry.config id.connection)).1 ≠ .disconnected := by
      intro hGone
      rw [(Channel.offer_eq_disconnected_iff _ _).mp hGone] at hHeld
      cases hHeld
    rw [hAnswer] at hRegistry hHub
    dsimp only at hRegistry
    rw [if_neg (fun hBoth => hThere hBoth.2)] at hRegistry
    rw [(quietRoute_agreeOn id.connection hSound mutation).hub, hRegistry, ← hHub]
    rfl

/-- Every step counts its event, and reports what it has for a session over a channel. -/
theorem accounts_of_execute (hQuiet : server.Quiet) (hSound : server.registry.Sound)
    (hChannel : server.registry.channel? id = some channel)
    (h : server.execute (depth + 1) command = some (outcome, after)) :
    Step.Accounts id channel.capacity ⟨server, command, outcome, after⟩ := by
  have hQueued := Registry.queued_of_channel? hChannel
  -- what is owed is owed while the session goes on and the channel is held
  have hOwed : ∀ {mutation delivery}, command.event? = some mutation →
      Step.owed id ⟨server, command, outcome, after⟩ = [delivery] →
      server.registry.state? id = some .opened ∧ channel.held = true ∧
        server.registry.due mutation id.connection = [delivery] := by
    intro mutation delivery hEvent hOwed
    unfold Step.owed at hOwed
    dsimp only at hOwed
    rw [hEvent, Registry.attached_of_channel? hChannel] at hOwed
    dsimp only at hOwed
    split at hOwed
    · rename_i hBoth
      exact ⟨hBoth.1, hBoth.2, hOwed⟩
    · cases hOwed
  have hRegistry : ∀ {mutation}, command.event? = some mutation →
      after.registry = (server.quietRoute mutation).2.registry := by
    intro mutation hEvent
    obtain ⟨_, _, hExecute⟩ := execute_of_event hQuiet depth hEvent
    rw [h] at hExecute
    cases hExecute
    rfl
  constructor
  case counted =>
    intro mutation hEvent
    have hExecute := execute_routes hQuiet depth hEvent
    rw [h, summary_quietRoute hSound] at hExecute
    obtain ⟨hOutcome, hAfter⟩ := Prod.mk.inj (Option.some.inj hExecute)
    refine ⟨hOutcome, ?_⟩
    have hStats : (server.quietRoute mutation).2.stats = server.stats :=
      stats_quietRouteOver server _ mutation
    rw [hAfter]
    split
    · simp [count, hStats]
    · exact hStats
  case kept =>
    intro mutation delivery hEvent hStep hRoom
    obtain ⟨hOpened, hHeld, hDue⟩ := hOwed hEvent hStep
    obtain ⟨hVerdict, hHub⟩ := verdict_of_due hSound hChannel hHeld hOpened hDue
    dsimp only at hRoom
    rw [hQueued] at hRoom
    rw [Channel.offer_of_room hHeld hRoom] at hVerdict hHub
    dsimp only
    rw [hRegistry hEvent, hHub]
    exact ⟨hVerdict, rfl⟩
  case lost =>
    intro mutation delivery hEvent hStep hFull
    obtain ⟨hOpened, hHeld, hDue⟩ := hOwed hEvent hStep
    obtain ⟨hVerdict, hHub⟩ := verdict_of_due hSound hChannel hHeld hOpened hDue
    obtain ⟨publication, -, -, rfl⟩ := match_of_due hDue
    dsimp only at hFull
    rw [hQueued] at hFull
    rw [Channel.offer_of_full hHeld hFull] at hVerdict hHub
    dsimp only
    rw [hRegistry hEvent, hHub]
    refine ⟨hVerdict, ?_⟩
    exact congrArg Hub.history (Hub.scopedTo_emit_self _)

/-! ## Reading -/

/-- What the client of a session gets that reads its channel: what is queued, from the front,
whether the session goes on or has ended. -/
structure Step.Serves (id : SessionId) (step : Step) : Prop where
  receive : step.command = .session id .receive → ∀ delivery rest,
    step.before.registry.queued id = delivery :: rest →
      step.outcome = .received (.item delivery)
  drain : step.command = .session id .drain →
    step.outcome = .deliveries (step.before.registry.queued id)

theorem serves_of_execute (h : server.execute depth command = some (outcome, after)) :
    Step.Serves id ⟨server, command, outcome, after⟩ := by
  constructor
  case receive =>
    intro hCommand delivery rest hQueued
    dsimp only at hCommand hQueued ⊢
    subst hCommand
    obtain ⟨rfl, -⟩ := Prod.mk.inj (Option.some.inj h)
    show Outcome.received (server.registry.receive id).1 = _
    unfold Registry.receive
    rw [hQueued]
  case drain =>
    intro hCommand
    dsimp only at hCommand ⊢
    subst hCommand
    obtain ⟨rfl, -⟩ := Prod.mk.inj (Option.some.inj h)
    rfl

/-! ## Runs -/

/-- What a run does to the channel of a session; and all its steps account for what they have for
the session, and serve its client. -/
theorem channel_of_run (hQuiet : server.Quiet) (hSound : server.registry.Sound)
    (hChannel : server.registry.channel? id = some channel) (hFit : channel.Fit)
    {commands : List Command} (hPure : ∀ command ∈ commands, command.Pure) {steps : List Step}
    {last : Server} (hRun : server.run (depth + 1) commands = some (steps, last)) :
    (∃ left, last.registry.channel? id = some left ∧
      channel.Moves left (steps.flatMap (Step.read id)) (steps.flatMap (Step.discarded id))
        (steps.flatMap (Step.admitted id channel.capacity))) ∧
    ∀ step ∈ steps, step.Accounts id channel.capacity ∧ step.Serves id := by
  induction commands generalizing server channel steps with
  | nil =>
    cases hRun
    exact ⟨⟨channel, hChannel, .refl channel⟩, by simp⟩
  | cons command rest ih =>
    obtain ⟨outcome, after, later, hExecute, hRest, rfl⟩ := run_cons_eq_some_iff.mp hRun
    obtain ⟨hCommandPure, hRestPure⟩ := List.forall_mem_cons.mp hPure
    have hAfterQuiet := quiet_of_execute hQuiet hCommandPure hExecute
    have hAfterSound := (follows_of_execute hExecute).sound hSound
    obtain ⟨middle, hMiddle, hStep⟩ := channel_of_execute hQuiet hSound hChannel hExecute
    obtain ⟨⟨left, hLeft, hLater⟩, hAccounts⟩ :=
      ih hAfterQuiet hAfterSound hMiddle (hStep.fit hFit) hRestPure hRest
    -- the capacity is that of the start all along
    rw [hStep.capacity] at hLater hAccounts
    constructor
    · refine ⟨left, hLeft, ?_⟩
      simp only [List.flatMap_cons]
      exact hStep.trans hLater hFit
    · refine List.forall_mem_cons.mpr ⟨⟨?_, serves_of_execute hExecute⟩, hAccounts⟩
      exact accounts_of_execute hQuiet hSound hChannel hExecute

/-- A connection that is opened over a channel starts with an empty queue of the configured size. -/
theorem channel?_openChannel (depth : Nat) {connection : ConnectionId} {opened : Server}
    (h : server.openChannel connection = (.ok id, opened)) :
    opened.registry.channel? id = some { capacity := server.registry.config.bufferSize } ∧
      server.execute depth (.request (.openConnection connection
        (Sink.ofCapacity server.registry.config.bufferSize))) = some (.reply .done, opened) := by
  have hExecute : server.execute depth (.request (.openConnection connection
      (Sink.ofCapacity server.registry.config.bufferSize))) = some (.reply .done, opened) := by
    unfold openChannel at h
    unfold execute perform respond
    dsimp only
    rw [h]
    rfl
  refine ⟨?_, hExecute⟩
  obtain ⟨⟨result, registry⟩, hOpen⟩ : ∃ done, server.registry.openConnection connection
      (Sink.ofCapacity server.registry.config.bufferSize) = done := ⟨_, rfl⟩
  unfold openChannel openConnection at h
  rw [hOpen] at h
  cases h
  obtain ⟨-, -, hAfter⟩ := Registry.openConnection_ok hOpen
  have hSessions : registry.sessions = server.registry.sessions.insert id
      { sink := Sink.ofCapacity server.registry.config.bufferSize } := by rw [hAfter]
  exact (Registry.channel?_of_insert hSessions id).trans (if_pos rfl)

end Server

/-- A connection over a channel receives its matches exactly once and in order, but for those that
found no room. Open one on any server that commands without acting predicates lead to, and give any
such commands after that: what its client has read, followed by what is queued, is what was
admitted, in order; only a client that lets go of the channel loses what is queued. The queue never
exceeds its size. Each event for it counts as delivered if it finds room, and otherwise counts as
dropped and is reported with the reason; and a client gets what is queued also after the connection
was closed. -/
theorem Server.channel_receives_matches {filters : FilterModule} (hFilters : filters.Pure)
    (config : Config) {earlier during : List Command}
    (hEarlier : ∀ command ∈ earlier, command.Pure) (hDuring : ∀ command ∈ during, command.Pure)
    (depth : Nat) {past : List Step} {server opened : Server}
    (hRun : (Server.new filters config).run (depth + 1) earlier = some (past, server))
    {connection : ConnectionId} {id : SessionId}
    (hOpen : server.openChannel connection = (.ok id, opened)) :
    ∃ steps last, opened.run (depth + 1) during = some (steps, last) ∧
      steps.flatMap (Step.read id) ++ steps.flatMap (Step.discarded id) ++
          last.registry.queued id =
        steps.flatMap (Step.admitted id config.bufferSize) ∧
      (last.registry.attached id = true → steps.flatMap (Step.discarded id) = []) ∧
      (last.registry.queued id).length ≤ config.bufferSize ∧
      ∀ step ∈ steps, step.Accounts id config.bufferSize ∧ step.Serves id := by
  have hConfig : server.registry.config = config := (Server.follows_of_run hRun).config
  have hServerSound := (Server.follows_of_run hRun).sound (Registry.Sound.new config)
  obtain ⟨_, _, hQuietRun, hServerQuiet⟩ :=
    Server.run_of_quiet (Server.Quiet.new hFilters config) depth hEarlier
  rw [hRun] at hQuietRun
  cases hQuietRun
  obtain ⟨hChannel, hExecute⟩ := Server.channel?_openChannel (depth + 1) hOpen
  rw [hConfig] at hChannel
  have hOpening : (Command.request (.openConnection connection
      (Sink.ofCapacity server.registry.config.bufferSize))).Pure := trivial
  have hQuiet := Server.quiet_of_execute hServerQuiet hOpening hExecute
  have hSound := (Server.follows_of_execute hExecute).sound hServerSound
  obtain ⟨steps, last, hDuringRun, -⟩ := Server.run_of_quiet hQuiet depth hDuring
  -- the channel starts empty, and what happens to it from then on is the run
  have hFit : Channel.Fit ({ capacity := config.bufferSize } : Channel Delivery) :=
    ⟨Nat.zero_le _, fun _ => rfl⟩
  obtain ⟨⟨left, hLeft, hMoves⟩, hSteps⟩ :=
    Server.channel_of_run hQuiet hSound hChannel hFit hDuring hDuringRun
  have hQueued := Registry.queued_of_channel? hLeft
  refine ⟨steps, last, hDuringRun, ?_, ?_, ?_, hSteps⟩
  · rw [hQueued]
    exact hMoves.queue
  · intro hAttached
    rw [Registry.attached_of_channel? hLeft] at hAttached
    exact hMoves.held hAttached
  · have hCapacity : left.capacity = config.bufferSize := hMoves.capacity
    rw [hQueued, ← hCapacity]
    exact (hMoves.fit hFit).room

/-- Two events for a queue that has room for one, read after the connection is closed. -/
def Command.overflowing : List Command :=
  [.request (.addPublication ⟨1⟩ "orders" { name := "all" }),
    .request (.publish ⟨"orders", .created, none, .null⟩),
    .request (.publish ⟨"orders", .removed, none, .null⟩),
    .request (.closeConnection ⟨1⟩),
    .session ⟨⟨1⟩, 0⟩ .receive]

theorem Server.channel_receives_matches_overflowing :
    ∃ opened steps last,
      (Server.new Builtin.module { bufferSize := 1 }).openChannel ⟨1⟩ = (.ok ⟨⟨1⟩, 0⟩, opened) ∧
      opened.run 1 Command.overflowing = some (steps, last) ∧
      steps.flatMap (Step.owed ⟨⟨1⟩, 0⟩) =
        [⟨⟨1⟩, "orders", .created, .null⟩, ⟨⟨1⟩, "orders", .removed, .null⟩] ∧
      steps.flatMap (Step.admitted ⟨⟨1⟩, 0⟩ 1) = [⟨⟨1⟩, "orders", .created, .null⟩] ∧
      steps.flatMap (Step.read ⟨⟨1⟩, 0⟩) ++ last.registry.queued ⟨⟨1⟩, 0⟩ =
        [⟨⟨1⟩, "orders", .created, .null⟩] ∧
      (∀ step ∈ steps, step.Accounts ⟨⟨1⟩, 0⟩ 1 ∧ step.Serves ⟨⟨1⟩, 0⟩) ∧
      last.stats.delivered = 1 ∧ last.stats.dropped = 1 := by
  have hPure : ∀ command ∈ Command.overflowing, command.Pure := by
    simp [Command.overflowing, Command.Pure]
  have hNone : ∀ command ∈ ([] : List Command), command.Pure := by simp
  obtain ⟨opened, hOpen⟩ : ∃ opened,
      (Server.new Builtin.module { bufferSize := 1 }).openChannel ⟨1⟩ =
        (.ok ⟨⟨1⟩, 0⟩, opened) := ⟨_, rfl⟩
  obtain ⟨steps, last, hRun, hLaw, hKept, -, hSteps⟩ :=
    Server.channel_receives_matches Builtin.module_pure { bufferSize := 1 } hNone hPure 0 rfl hOpen
  refine ⟨opened, steps, last, hOpen, hRun, ?_⟩
  have hComes : (((Server.new Builtin.module { bufferSize := 1 }).openChannel ⟨1⟩).2.run 1
      Command.overflowing).map (fun run =>
        (run.1.flatMap (Step.owed ⟨⟨1⟩, 0⟩), run.1.flatMap (Step.admitted ⟨⟨1⟩, 0⟩ 1),
          run.2.registry.attached ⟨⟨1⟩, 0⟩, run.2.stats.delivered, run.2.stats.dropped)) =
      some ([⟨⟨1⟩, "orders", .created, .null⟩, ⟨⟨1⟩, "orders", .removed, .null⟩],
        [⟨⟨1⟩, "orders", .created, .null⟩], true, 1, 1) := rfl
  rw [hOpen] at hComes
  dsimp only at hComes
  rw [hRun] at hComes
  obtain ⟨hOwed, hRest⟩ := Prod.mk.inj (Option.some.inj hComes)
  obtain ⟨hAdmitted, hRest⟩ := Prod.mk.inj hRest
  obtain ⟨hAttached, hRest⟩ := Prod.mk.inj hRest
  obtain ⟨hDelivered, hDropped⟩ := Prod.mk.inj hRest
  rw [hKept hAttached, List.append_nil] at hLaw
  exact ⟨hOwed, hAdmitted, hLaw.trans hAdmitted, hSteps, hDelivered, hDropped⟩

end Fanout
