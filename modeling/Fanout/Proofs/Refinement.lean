import Fanout.Proofs.Ledger

/-!
# Fanout — registries refine their ledgers

Along every run without acting predicates a registry stays in step with its ledger:
each operation answers as the ledger does, and leaves what the ledger says. Routing
an event closes exactly the connections whose sinks answered that they are gone, if
so configured, and has no other effect on a ledger.

## Results

* `Server.Does.shows` — an operation follows the ledger.
* `Server.shows_quietRoute` — so does the routing of an event.
* `Server.run_refines_ledger` — and so does every run.
-/

namespace Fanout

/-! ## Operations -/

namespace Registry.Shows

variable {registry after : Registry} {ledger : Ledger} {connection : ConnectionId}
  {service : String}

theorem new (config : Config) : (Registry.new config).Shows {} where
  opened connection := by
    show connection ∈ (∅ : Finset ConnectionId) ↔ (none : Option SessionId).isSome
    simp
  held connection service := rfl

theorem congr (hShows : registry.Shows ledger) (hLive : after.live = registry.live)
    (hServices : after.services = registry.services) : after.Shows ledger where
  opened connection := by rw [hLive, hShows.opened]
  held connection service := by rw [hShows.held, publication?_congr hServices]

/-- The connections whose operations are not refused. -/
theorem mem_opened_iff (hShows : registry.Shows ledger) (hSound : registry.Sound) :
    connection ∈ ledger.opened ↔ (registry.liveSession? connection).isSome := by
  rw [hShows.opened, hSound.liveSession?_isSome_iff]

theorem openConnection (hShows : registry.Shows ledger) {sink : Sink} {id : SessionId}
    (h : registry.openConnection connection sink = (.ok id, after)) :
    after.Shows { ledger with opened := insert connection ledger.opened } := by
  obtain ⟨-, -, rfl⟩ := openConnection_ok h
  refine ⟨fun other => ?_, hShows.held⟩
  show other ∈ insert connection ledger.opened ↔
    ((registry.live.insert connection id).get? other).isSome
  rw [Finset.mem_insert, hShows.opened, Table.get?_insert]
  by_cases hOther : other = connection <;> simp [hOther]

theorem afterClose (hShows : registry.Shows ledger) (id : SessionId) (session : Session) :
    (registry.afterClose connection id session).Shows (ledger.close [connection]) := by
  refine ⟨fun other => ?_, fun other service => ?_⟩
  · show other ∈ ledger.opened.filter (· ∉ [connection]) ↔
      ((registry.live.erase connection).get? other).isSome
    rw [Finset.mem_filter, hShows.opened, Table.get?_erase]
    by_cases hOther : other = connection <;> simp [hOther]
  · show (ledger.held.filterMap _).get? _ = _
    rw [Table.get?_filterMap, hShows.held, publication?_afterClose]
    by_cases hOther : other = connection
    · simp [hOther]
    · simp [hOther]

theorem addPublication (hShows : registry.Shows ledger) (hSound : registry.Sound)
    {module : FilterModule} {spec : PublicationSpec} {publication : Publication}
    (h : registry.addPublication connection service module spec = (.ok publication, after)) :
    (ledger.request module (.addPublication connection service spec)).1 = some .done ∧
      after.Shows (ledger.request module (.addPublication connection service spec)).2 := by
  obtain ⟨id, session, predicate, hLive, hCompile, hPublication, rfl⟩ := addPublication_ok h
  have hOpened : connection ∈ ledger.opened := by
    rw [hShows.mem_opened_iff hSound, hLive]
    rfl
  have hCompile : module.compile spec.name (canonicalParams spec.params) = .ok predicate := hCompile
  unfold Ledger.request
  dsimp only
  rw [if_pos hOpened, hCompile]
  refine ⟨rfl, hShows.opened, fun other stored => ?_⟩
  show (ledger.held.insert _ _).get? _ = _
  rw [Table.get?_insert, publication?_of_store registry rfl, hShows.held]
  by_cases hPlace : other = connection ∧ stored = service
  · rw [if_pos (by rw [hPlace.1, hPlace.2]), if_pos hPlace, hPublication]
    rfl
  · rw [if_neg (fun hEq => hPlace (Slot.mk.inj hEq)), if_neg hPlace]

theorem addPublication_error (hShows : registry.Shows ledger) (hSound : registry.Sound)
    {module : FilterModule} {spec : PublicationSpec} {error : PublicationError}
    (h : registry.addPublication connection service module spec = (.error error, after)) :
    ledger.request module (.addPublication connection service spec) =
      (some (.refused error), ledger) := by
  -- the ledger refuses for the same two reasons
  have hOpened : connection ∈ ledger.opened ↔ (registry.liveSession? connection).isSome :=
    hShows.mem_opened_iff hSound
  unfold Ledger.request
  dsimp only
  rcases (Registry.addPublication_error h).1 with ⟨hLive, rfl⟩ | ⟨hLive, hCompile⟩
  · rw [hLive] at hOpened
    rw [if_neg (fun h => by cases hOpened.mp h)]
  · have hCompile : module.compile spec.name (canonicalParams spec.params) = .error error :=
      hCompile
    rw [if_pos (hOpened.mpr hLive), hCompile]

theorem removePublication (hShows : registry.Shows ledger) {names : List String}
    (h : registry.removePublication connection service = (.ok names, after)) :
    names = ((ledger.held.get? ⟨connection, service⟩).map Holding.name).toList ∧
      after.Shows { ledger with held := ledger.held.erase ⟨connection, service⟩ } := by
  obtain ⟨-, rfl, rfl⟩ := removePublication_ok h
  refine ⟨?_, hShows.opened, fun other stored => ?_⟩
  · rw [hShows.held, Option.map_map]
    rfl
  · show (ledger.held.erase _).get? _ = _
    rw [Table.get?_erase, publication?_of_drop registry rfl, hShows.held]
    by_cases hPlace : other = connection ∧ stored = service
    · rw [if_pos (by rw [hPlace.1, hPlace.2]), if_pos hPlace]
      rfl
    · rw [if_neg (fun hEq => hPlace (Slot.mk.inj hEq)), if_neg hPlace]

end Registry.Shows

namespace Server

variable {server after : Server} {ledger : Ledger}

/-- An operation other than publishing answers as the ledger does, and leaves what it says. -/
theorem Does.shows {request : Request} {events : List Event} {reply : Reply}
    (hDoes : server.Does request events reply after) (hSound : server.registry.Sound)
    (hShows : server.registry.Shows ledger) :
    (ledger.request server.filters request).1 = some reply ∧
      after.registry.Shows (ledger.request server.filters request).2 := by
  cases hDoes using Server.Does.elim with
  | attended => exact ⟨rfl, hShows⟩
  | @opened connection sink id registry h =>
    have hClosed : connection ∉ ledger.opened := by
      rw [hShows.opened, (Registry.openConnection_ok h).1]
      simp
    unfold Ledger.request
    dsimp only
    rw [if_neg hClosed]
    exact ⟨rfl, hShows.openConnection h⟩
  | openRefused h =>
    obtain ⟨hOpen, rfl, -⟩ := Registry.openConnection_error h
    unfold Ledger.request
    dsimp only
    rw [if_pos ((hShows.opened _).mpr hOpen)]
    exact ⟨rfl, hShows⟩
  | @closed connection id session h =>
    -- what is released is read off before it goes
    have hOpened := (hShows.mem_opened_iff hSound).mpr (Option.isSome_of_eq_some h)
    unfold Ledger.request closeConnection
    dsimp only
    rw [if_pos hOpened, Registry.closeConnection_of_live h, ← hShows.servicesFor]
    exact ⟨rfl, (hShows.afterClose id session).congr rfl rfl⟩
  | @notOpen connection h =>
    have hClosed : connection ∉ ledger.opened := by
      rw [hShows.mem_opened_iff hSound, h]
      simp
    unfold Ledger.request
    dsimp only
    rw [if_neg hClosed]
    exact ⟨rfl, hShows⟩
  | added h => exact hShows.addPublication hSound h
  | addRefused h =>
    rw [hShows.addPublication_error hSound h]
    exact ⟨rfl, hShows⟩
  | @removed connection service names registry h =>
    obtain ⟨hNames, hAfter⟩ := hShows.removePublication h
    have hOpened := (hShows.mem_opened_iff hSound).mpr (Registry.removePublication_ok h).1
    unfold Ledger.request
    dsimp only
    rw [if_pos hOpened, hNames]
    exact ⟨rfl, hAfter⟩
  | @removeRefused connection service error h =>
    obtain ⟨hLive, rfl, -⟩ := Registry.removePublication_error h
    have hClosed : connection ∉ ledger.opened := by
      rw [hShows.mem_opened_iff hSound, hLive]
      simp
    unfold Ledger.request
    dsimp only
    rw [if_neg hClosed]
    exact ⟨rfl, hShows⟩

/-- A command that routes no event has the outcome that the ledger settles, if it settles one, and
leaves what the ledger says. -/
theorem AtOnce.shows {command : Command} {outcome : Outcome} {events : List Event}
    (hDone : server.AtOnce command outcome events after) (hSound : server.registry.Sound)
    (hShows : server.registry.Shows ledger) :
    after.registry.Shows (ledger.execute server.filters command).2 ∧
    ∀ expected, (ledger.execute server.filters command).1 = some expected → outcome = expected := by
  cases hDone with
  | request hDoes =>
    obtain ⟨hReply, hAfter⟩ := hDoes.shows hSound hShows
    refine ⟨hAfter, fun expected hExpected => ?_⟩
    change (Ledger.request _ _ _).1.map _ = _ at hExpected
    rw [hReply] at hExpected
    exact Option.some.inj hExpected
  | inbound hDoes =>
    exact ⟨(hDoes.shows hSound hShows).2, fun expected hExpected => Option.some.inj hExpected⟩
  | added hAdd =>
    obtain ⟨hReply, hAfter⟩ := hShows.addPublication hSound hAdd
    refine ⟨hAfter, fun expected hExpected => ?_⟩
    unfold Ledger.execute at hExpected
    dsimp only at hExpected
    rw [hReply] at hExpected
    exact Option.some.inj hExpected
  | addRefused hAdd =>
    unfold Ledger.execute
    dsimp only
    rw [hShows.addPublication_error hSound hAdd]
    obtain ⟨-, rfl⟩ := Registry.addPublication_error hAdd
    exact ⟨hShows, fun expected hExpected => Option.some.inj hExpected⟩
  | subscribe => exact ⟨hShows.congr rfl rfl, fun _ hExpected => by cases hExpected⟩
  | @session id use =>
    have hLive : (server.registry.useSession id use).2.live = server.registry.live := by
      rw [Registry.useSession_snd]
      exact Registry.live_modifySession
    exact ⟨hShows.congr hLive (Registry.services_useSession _ _ _),
      fun _ hExpected => by cases hExpected⟩
  | listener => exact ⟨hShows.congr rfl rfl, fun _ hExpected => by cases hExpected⟩

end Server

/-! ## Routing an event -/

namespace Registry

/-- A sink of a connection answered, between two registries, that it is gone. -/
def Lost (before after : Registry) (connection : ConnectionId) : Prop :=
  ∃ id delivery, id.connection = connection ∧
    (delivery, Offer.disconnected) ∈ (after.log id).drop (before.log id).length

/-- Between two registries a connection was closed, exactly if so said, or is as it was. -/
structure ClosedIff (condition : Prop) (before after : Registry) (connection : ConnectionId) :
    Prop where
  closed : condition → after.live.get? connection = none ∧
    ∀ service, after.publication? connection service = none
  kept : ¬condition → after.live.get? connection = before.live.get? connection ∧
    ∀ service, after.publication? connection service = before.publication? connection service

variable {before after other : Registry} {connection : ConnectionId}

theorem AgreeOn.lost_iff (h : after.AgreeOn connection other) :
    before.Lost after connection ↔ before.Lost other connection := by
  -- what is on the records of its own sessions settles what a connection lost
  have hLog : ∀ id : SessionId, id.connection = connection → after.log id = other.log id := by
    intro id hOwn
    unfold log
    rw [h.sessions id hOwn]
  constructor
  · rintro ⟨id, delivery, hOwn, hAnswer⟩
    exact ⟨id, delivery, hOwn, hLog id hOwn ▸ hAnswer⟩
  · rintro ⟨id, delivery, hOwn, hAnswer⟩
    exact ⟨id, delivery, hOwn, (hLog id hOwn).symm ▸ hAnswer⟩

theorem not_lost_of_log (h : ∀ id, after.log id = before.log id) :
    ¬ before.Lost after connection := by
  rintro ⟨id, delivery, -, hAnswer⟩
  rw [h, List.drop_length] at hAnswer
  cases hAnswer

/-- A connection that lost nothing, in a registry that holds what it held. -/
theorem ClosedIff.of_log {condition : Prop} (hLive : after.live = before.live)
    (hServices : after.services = before.services) (hLog : ∀ id, after.log id = before.log id) :
    ClosedIff (condition ∧ before.Lost after connection) before after connection where
  closed h := absurd h.2 (not_lost_of_log hLog)
  kept _ := ⟨by rw [hLive], publication?_congr hServices connection⟩

/-- One delivery more, to a session of the connection. -/
theorem lost_iff_of_log {id : SessionId} {delivery : Delivery} {answer : Offer}
    (hOwn : id.connection = connection)
    (h : ∀ known, after.log known =
      before.log known ++ if known = id then [(delivery, answer)] else []) :
    before.Lost after connection ↔ answer = .disconnected := by
  constructor
  · rintro ⟨known, handed, -, hAnswer⟩
    rw [h, List.drop_left] at hAnswer
    split at hAnswer
    · exact (Prod.mk.inj (List.mem_singleton.mp hAnswer)).2.symm
    · cases hAnswer
  · rintro rfl
    refine ⟨id, delivery, hOwn, ?_⟩
    rw [h, List.drop_left, if_pos rfl]
    exact List.mem_singleton.mpr rfl

end Registry

theorem Server.Step.mem_gone_iff (step : Server.Step) (connection : ConnectionId) :
    connection ∈ step.gone ↔ step.before.registry.Lost step.after.registry connection := by
  unfold gone answers
  rw [List.mem_map]
  constructor
  · -- an answer listed for a session is on the record of that session
    rintro ⟨⟨id, delivery, answer⟩, hAnswer, rfl⟩
    obtain ⟨hMember, hGone⟩ := List.mem_filter.mp hAnswer
    obtain ⟨known, -, hLogged⟩ := List.mem_flatMap.mp hMember
    obtain ⟨entry, hEntry, hEq⟩ := List.mem_map.mp hLogged
    cases hEq
    have hGone : answer = .disconnected := beq_iff_eq.mp hGone
    exact ⟨id, delivery, rfl, hGone ▸ hEntry⟩
  · rintro ⟨id, delivery, rfl, hLogged⟩
    refine ⟨(id, delivery, .disconnected), List.mem_filter.mpr ⟨?_, rfl⟩, rfl⟩
    refine List.mem_flatMap.mpr ⟨id, ?_, List.mem_map.mpr ⟨_, hLogged, rfl⟩⟩
    -- only a session that there is has anything on its record
    rw [Table.mem_keys_iff]
    unfold Registry.log at hLogged
    cases hSession : step.after.registry.sessions.get? id with
    | some session => rfl
    | none =>
      rw [hSession] at hLogged
      simp at hLogged

namespace Server

variable {server : Server} {ledger : Ledger} {connection : ConnectionId}

/-- A session that was handed a delivery is as live as before. -/
theorem liveSession?_withDelivery {registry : Registry} {id : SessionId} {session : Session}
    {delivery : Delivery} {hub : Hub} (hLive : registry.live.get? connection = some id)
    (hOpened : session.state = .opened) :
    (registry.withDelivery id session delivery hub).liveSession? connection =
      some (id, { session with sink := (session.sink.deliver delivery).2 }) := by
  refine Registry.liveSession?_eq_some_iff.mpr ⟨hLive, ?_, hOpened⟩
  unfold Registry.withDelivery
  rw [Table.get?_insert, if_pos rfl]

/-- What the routing of an event to one connection can do to it: nothing, or close it for its sink
being gone. -/
theorem routeFor_closes (connection : ConnectionId) (hSound : server.registry.Sound)
    (mutation : Mutation) :
    Registry.ClosedIff
      (server.registry.config.closeOnDisconnect ∧
        server.registry.Lost (server.routeFor connection mutation).registry connection)
      server.registry (server.routeFor connection mutation).registry connection := by
  cases hHeld : server.registry.publication? connection mutation.service with
  | none =>
    rw [routeFor_of_none hHeld]
    exact .of_log rfl rfl (fun _ => rfl)
  | some publication =>
    by_cases hMatch : publication.predicate.evaluate
        (publication.testedOn server.registry.config mutation) = .ok true
    · obtain ⟨session, hub, hSession, hOpened, hAfter, -⟩ := routeFor_of_match hSound hHeld hMatch
      have hLive := (hSound.held hHeld).2.2
      have hOwn := (hSound.live_open hLive).1
      generalize (server.routeFor connection mutation).registry = after at hAfter ⊢
      dsimp only at hAfter
      -- whether the connection is closed after it or not, the delivery is on the record
      have hLog : ∀ known, after.log known = server.registry.log known ++
          if known = publication.session then
            [(mutation.deliveryTo server.registry.config connection,
              (session.sink.deliver
                (mutation.deliveryTo server.registry.config connection)).1)]
          else [] := by
        intro known
        rw [hAfter]
        split
        · rw [Registry.log_closeConnection, Registry.log_withDelivery hSession]
        · exact Registry.log_withDelivery hSession
      have hLost := Registry.lost_iff_of_log hOwn hLog
      -- so it was lost if the sink answered that it is gone, and then the connection is closed
      constructor
      case closed =>
        rintro ⟨hClose, hGone⟩
        rw [hAfter, if_pos ⟨hClose, hLost.mp hGone⟩]
        exact Registry.closeConnection_clears (liveSession?_withDelivery hLive hOpened)
      case kept =>
        intro hKeep
        rw [hAfter, if_neg (fun hBoth => hKeep ⟨hBoth.1, hLost.mpr hBoth.2⟩)]
        exact ⟨rfl, fun _ => rfl⟩
    · obtain ⟨hub, hAfter⟩ := routeFor_of_reject hHeld hMatch
      rw [hAfter]
      exact .of_log rfl rfl (fun _ => rfl)

/-- A routing closes exactly the connections that lost a delivery, if so configured: a connection
sees of the routing no more than the routing to itself. -/
theorem quietRoute_closes (connection : ConnectionId) (hSound : server.registry.Sound)
    (mutation : Mutation) :
    Registry.ClosedIff
      (server.registry.config.closeOnDisconnect ∧
        server.registry.Lost (server.quietRoute mutation).2.registry connection)
      server.registry (server.quietRoute mutation).2.registry connection := by
  have hAgree := quietRoute_agreeOn connection hSound mutation
  have hCloses := routeFor_closes connection hSound mutation
  have hLost : server.registry.Lost (server.quietRoute mutation).2.registry connection ↔ _ :=
    hAgree.lost_iff
  constructor
  case closed =>
    rintro ⟨hClose, hGone⟩
    obtain ⟨hLive, hNone⟩ := hCloses.closed ⟨hClose, hLost.mp hGone⟩
    exact ⟨hAgree.live.trans hLive,
      fun service => (hAgree.publications service).trans (hNone service)⟩
  case kept =>
    intro hKeep
    obtain ⟨hLive, hSame⟩ := hCloses.kept (fun hBoth => hKeep ⟨hBoth.1, hLost.mpr hBoth.2⟩)
    exact ⟨hAgree.live.trans hLive,
      fun service => (hAgree.publications service).trans (hSame service)⟩

/-- Routing an event closes exactly the connections whose sinks answered that they are gone, if so
configured, and does nothing else to a ledger. -/
theorem shows_quietRoute (hSound : server.registry.Sound) (hShows : server.registry.Shows ledger)
    (mutation : Mutation) {gone : List ConnectionId}
    (hGone : ∀ connection, connection ∈ gone ↔
      server.registry.Lost (server.quietRoute mutation).2.registry connection) :
    (server.quietRoute mutation).2.registry.Shows
      (if server.registry.config.closeOnDisconnect then ledger.close gone else ledger) := by
  have hCloses := fun connection => quietRoute_closes connection hSound mutation
  simp only [← hGone] at hCloses
  by_cases hClose : server.registry.config.closeOnDisconnect = true
  · -- those that are gone lose all they have, and the others keep it
    rw [if_pos hClose]
    constructor
    case opened =>
      intro connection
      show connection ∈ ledger.opened.filter (· ∉ gone) ↔ _
      rw [Finset.mem_filter, hShows.opened]
      by_cases hIn : connection ∈ gone
      · rw [((hCloses connection).closed ⟨hClose, hIn⟩).1]
        simp [hIn]
      · rw [((hCloses connection).kept (fun h => hIn h.2)).1]
        simp [hIn]
    case held =>
      intro connection service
      show (ledger.held.filterMap _).get? _ = _
      rw [Table.get?_filterMap, hShows.held]
      by_cases hIn : connection ∈ gone
      · rw [((hCloses connection).closed ⟨hClose, hIn⟩).2]
        simp [hIn]
      · rw [((hCloses connection).kept (fun h => hIn h.2)).2]
        simp [hIn]
  · -- nobody is closed
    rw [if_neg hClose]
    have hKept := fun connection => (hCloses connection).kept (fun h => hClose h.1)
    exact ⟨fun connection => by rw [(hKept connection).1, hShows.opened],
      fun connection service => by rw [(hKept connection).2, hShows.held]⟩

/-! ## Commands and runs -/

/-- On a quiet server a command has the outcome that the ledger settles, and leaves what the ledger
says. -/
theorem shows_execute (hQuiet : server.Quiet) (hSound : server.registry.Sound)
    (hShows : server.registry.Shows ledger) {depth : Nat} {command : Command} (hPure : command.Pure)
    {outcome : Outcome} {after : Server}
    (hExecute : server.execute (depth + 1) command = some (outcome, after)) :
    after.registry.Shows (ledger.follow server.filters server.registry.config
      ⟨server, command, outcome, after⟩) ∧
    ∀ expected, (ledger.execute server.filters command).1 = some expected → outcome = expected := by
  cases hEvent : command.event? with
  | some mutation =>
    -- an event is routed: whom it closes is read off the answers, and no outcome is settled
    constructor
    · obtain ⟨given, stats, hRouted⟩ := execute_of_event hQuiet depth hEvent
      rw [hRouted] at hExecute
      cases hExecute
      unfold Ledger.follow
      dsimp only
      rw [hEvent]
      exact shows_quietRoute hSound hShows mutation (fun connection => Step.mem_gone_iff _ _)
    · intro expected hExpected
      cases command with
      | request asked =>
        cases asked <;> cases hEvent
        cases hExpected
      | inbound message =>
        -- a message has no answer
        cases hExpected
        obtain ⟨left, -, hDone⟩ := Option.map_eq_some_iff.mp hExecute
        exact (Prod.mk.inj hDone).1.symm
      | route event => cases hExpected
      | addFrom | subscribe | session | listener => cases hEvent
  | none =>
    have hFollow : ledger.follow server.filters server.registry.config
        ⟨server, command, outcome, after⟩ = (ledger.execute server.filters command).2 := by
      unfold Ledger.follow
      dsimp only
      rw [hEvent]
    rw [hFollow]
    obtain ⟨events, hDone⟩ := atOnce_of_execute hExecute hEvent
    exact hDone.shows hSound hShows

theorem shows_run {filters : FilterModule} {config : Config} (hFilters : server.filters = filters)
    (hConfig : server.registry.config = config) (hQuiet : server.Quiet)
    (hSound : server.registry.Sound) (hShows : server.registry.Shows ledger) {depth : Nat}
    {commands : List Command} (hPure : ∀ command ∈ commands, command.Pure) {steps : List Step}
    {last : Server} (hRun : server.run (depth + 1) commands = some (steps, last)) :
    last.registry.ShownBy (ledger.replay filters config steps) ∧
    ∀ earlier step later, steps = earlier ++ step :: later →
      step.before.registry.ShownBy (ledger.replay filters config earlier) ∧
      ∀ outcome, ((ledger.replay filters config earlier).execute filters step.command).1 =
        some outcome → step.outcome = outcome := by
  -- by induction on the commands, the ledger going along with the server
  induction commands generalizing server ledger steps with
  | nil =>
    cases hRun
    exact ⟨hShows.shownBy hSound, fun earlier step later h => by simp at h⟩
  | cons command rest ih =>
    obtain ⟨outcome, after, following, hExecute, hRest, rfl⟩ := run_cons_eq_some_iff.mp hRun
    have hCommand := hPure command List.mem_cons_self
    obtain ⟨hAfter, hOutcome⟩ := shows_execute hQuiet hSound hShows hCommand hExecute
    have hLeft := quiet_of_execute hQuiet hCommand hExecute
    have hFollows := follows_of_execute hExecute
    rw [hFilters, hConfig] at hAfter
    obtain ⟨hLast, hSteps⟩ := ih (hFollows.filters.trans hFilters)
      (hFollows.config.trans hConfig) hLeft (hFollows.sound hSound) hAfter
      (fun later hLater => hPure later (List.mem_cons_of_mem _ hLater)) hRest
    refine ⟨hLast, fun earlier step later hSplit => ?_⟩
    cases earlier with
    | nil =>
      cases hSplit
      exact ⟨hShows.shownBy hSound, hFilters ▸ hOutcome⟩
    | cons first earlier =>
      cases hSplit
      exact hSteps earlier step later rfl

end Server

/-- A registry refines its ledger. On every run of commands without acting predicates every
observer gives, before each command and at the end, what the ledger says that follows the run; and
every operation answers as the ledger does. -/
theorem Server.run_refines_ledger {filters : FilterModule} (hFilters : filters.Pure)
    (config : Config) {commands : List Command} (hCommands : ∀ command ∈ commands, command.Pure)
    (depth : Nat) :
    ∃ steps last, (Server.new filters config).run (depth + 1) commands = some (steps, last) ∧
      last.registry.ShownBy (Ledger.replay filters config {} steps) ∧
      ∀ earlier step later, steps = earlier ++ step :: later →
        step.before.registry.ShownBy (Ledger.replay filters config {} earlier) ∧
        ∀ outcome, ((Ledger.replay filters config {} earlier).execute filters step.command).1 =
          some outcome → step.outcome = outcome := by
  have hQuiet := Server.Quiet.new hFilters config
  obtain ⟨steps, last, hRun, -⟩ := Server.run_of_quiet hQuiet depth hCommands
  exact ⟨steps, last, hRun, Server.shows_run rfl rfl hQuiet (Registry.Sound.new config)
    (Registry.Shows.new config) hCommands hRun⟩

/-- The first connection replaces one publication and removes another; the sink of the second one is
gone when an event is handed to it. -/
def Command.bookkeeping : List Command :=
  [.request (.openConnection ⟨1⟩ (Sink.ofCapacity 1)),
    .request (.openConnection ⟨2⟩ (Sink.scripted [.disconnected] 0)),
    .request (.addPublication ⟨1⟩ "orders" { name := "all" }),
    .request (.addPublication ⟨2⟩ "orders" { name := "all" }),
    .request (.addPublication ⟨1⟩ "items" { name := "all" }),
    .request (.addPublication ⟨1⟩ "orders" { name := "ids" }),
    .request (.removePublication ⟨1⟩ "items"),
    .inbound (.mutation ⟨"orders", .created, none, .null⟩)]

theorem Command.bookkeeping_pure : ∀ command ∈ Command.bookkeeping, command.Pure := by
  simp [Command.bookkeeping, Command.Pure]

/-- The ledger is left with the first connection, which holds what it put in place of the other. -/
theorem Server.run_refines_ledger_sample :
    Builtin.module.Pure ∧ (∀ command ∈ Command.bookkeeping, command.Pure) ∧
    ∃ steps last ledger, (Server.new Builtin.module {}).run 1 Command.bookkeeping =
        some (steps, last) ∧
      ledger = Ledger.replay Builtin.module {} {} steps ∧ last.registry.ShownBy ledger ∧
      ⟨1⟩ ∈ ledger.opened ∧ ledger.opened.card = 1 ∧ ledger.servicesOf ⟨1⟩ = ["orders"] ∧
      (ledger.held.get? ⟨⟨1⟩, "orders"⟩).map Holding.name = some "ids" ∧ ledger.held.size = 1 := by
  refine ⟨Builtin.module_pure, Command.bookkeeping_pure, ?_⟩
  obtain ⟨steps, last, hRun, hLast, -⟩ :=
    Server.run_refines_ledger Builtin.module_pure {} Command.bookkeeping_pure 0
  have hEnd : ((Server.new Builtin.module {}).run 1 Command.bookkeeping).map (fun run =>
      (run.2.registry.isOpen ⟨1⟩, run.2.registry.connectionCount,
        run.2.registry.servicesFor ⟨1⟩,
        ((run.2.registry.publication? ⟨1⟩ "orders").map Publication.holding).map Holding.name,
        run.2.registry.publicationCount)) = some (true, 1, ["orders"], some "ids", 1) := by
    decide +kernel
  rw [hRun, Option.map_some, Option.some_inj] at hEnd
  -- what the observers of the registry give, the ledger says
  rw [hLast.isOpen, hLast.connectionCount, hLast.servicesFor, hLast.publication,
    hLast.publicationCount] at hEnd
  simp only [Prod.mk.injEq, decide_eq_true_eq] at hEnd
  exact ⟨steps, last, _, hRun, rfl, hLast, hEnd⟩

end Fanout
