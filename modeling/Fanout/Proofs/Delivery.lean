import Fanout.Proofs.Exposure
import Fanout.Proofs.Quiet

/-!
# Fanout — what an event hands to whom

On a server whose predicates do not act, an event is handed to the connections
whose publication accepts the record it is tested on, once each, and to nobody else.

## Main definitions

* `Registry.Due` — what an event hands to a connection, by what is seen of it.
* `Registry.due` — the same, computed.

## Results

* `Registry.due_due`, `Registry.Due.unique` — what is due is computed, and settled.
* `Server.routeFor_of_reject`, `Server.routeFor_of_match` — the two outcomes of a test.
* `Server.publish_hands_due` — publishing hands over what is due.
-/

namespace Fanout

open Server (Progress Views)

/-! ## What is due -/

/-- A hub after a sink's answer to a delivery: that it is lost is reported. -/
def Hub.answered (hub : Hub) (delivery : Delivery) : Offer → Hub
  | .delivered => hub
  | .full => hub.emit (some delivery.connection)
    (.deliveryDropped delivery.service delivery.connection .bufferFull)
  | .disconnected => hub.emit (some delivery.connection)
    (.deliveryDropped delivery.service delivery.connection .disconnected)

namespace Registry

/-- The deliveries handed to the sink of a session, with its answers. -/
def log (registry : Registry) (id : SessionId) : List (Delivery × Offer) :=
  ((registry.sessions.get? id).map (fun session => session.sink.log)).getD []

/-- The deliveries handed to the sink of a session. -/
def handed (registry : Registry) (id : SessionId) : List Delivery :=
  (registry.log id).map Prod.fst

/-- What an event hands to a connection: one delivery, of what clients see of the record after the
change, if the connection has a publication on the service that accepts the record that it is tested
on; and otherwise nothing. -/
inductive Due (registry : Registry) (mutation : Mutation) (connection : ConnectionId) :
    List Delivery → Prop
  | none (h : registry.publication? connection mutation.service = none) :
      Due registry mutation connection []
  | rejected {publication record}
      (h : registry.publication? connection mutation.service = some publication)
      (hTests : publication.Tests registry.config mutation record)
      (hReject : publication.predicate.evaluate record ≠ .ok true) :
      Due registry mutation connection []
  | matched {publication record exposed}
      (h : registry.publication? connection mutation.service = some publication)
      (hTests : publication.Tests registry.config mutation record)
      (hMatch : publication.predicate.evaluate record = .ok true)
      (hExposed : registry.config.Exposes mutation.service mutation.after exposed) :
      Due registry mutation connection
        [⟨connection, mutation.service, mutation.operation, exposed⟩]

/-- What an event hands to a connection. -/
def due (registry : Registry) (mutation : Mutation) (connection : ConnectionId) : List Delivery :=
  match registry.publication? connection mutation.service with
  | some publication =>
    match publication.predicate.evaluate (publication.testedOn registry.config mutation) with
    | .ok true => [mutation.deliveryTo registry.config connection]
    | .ok false | .error _ => []
  | none => []

variable {registry after : Registry} {connection : ConnectionId}

section
variable {mutation : Mutation} {publication : Publication}

theorem due_of_none (h : registry.publication? connection mutation.service = none) :
    registry.due mutation connection = [] := by
  unfold due
  rw [h]

theorem due_of_match (h : registry.publication? connection mutation.service = some publication)
    (hMatch : publication.predicate.evaluate (publication.testedOn registry.config mutation) =
      .ok true) :
    registry.due mutation connection = [mutation.deliveryTo registry.config connection] := by
  unfold due
  rw [h]
  dsimp only
  rw [hMatch]

theorem due_of_reject (h : registry.publication? connection mutation.service = some publication)
    (hReject : publication.predicate.evaluate (publication.testedOn registry.config mutation) ≠
      .ok true) :
    registry.due mutation connection = [] := by
  unfold due
  rw [h]
  dsimp only
  split
  · rename_i hMatch
    exact absurd hMatch hReject
  · rfl
  · rfl

end

theorem due_due (registry : Registry) (mutation : Mutation) (connection : ConnectionId) :
    registry.Due mutation connection (registry.due mutation connection) := by
  cases hHeld : registry.publication? connection mutation.service with
  | none =>
    rw [due_of_none hHeld]
    exact .none hHeld
  | some publication =>
    have hTests := publication.tests_testedOn registry.config mutation
    by_cases hMatch : publication.predicate.evaluate
        (publication.testedOn registry.config mutation) = .ok true
    · rw [due_of_match hHeld hMatch]
      exact .matched hHeld hTests hMatch (registry.config.exposes_without _ _)
    · rw [due_of_reject hHeld hMatch]
      exact .rejected hHeld hTests hMatch

/-- What is due is settled, as far as canonical events go. -/
theorem Due.unique {mutation : Mutation} {deliveries others : List Delivery}
    (h : registry.Due mutation connection deliveries)
    (hOther : registry.Due mutation connection others) (hCanonical : mutation.Canonical) :
    deliveries = others := by
  -- both are about one publication, which is tested on one record
  cases h with
  | none hNone =>
    cases hOther with
    | none => rfl
    | rejected hHeld | matched hHeld => cases hNone.symm.trans hHeld
  | rejected hHeld hTests hReject =>
    cases hOther with
    | none hNone => cases hHeld.symm.trans hNone
    | rejected => rfl
    | matched hSame hAlso hMatch =>
      cases hHeld.symm.trans hSame
      cases hTests.unique hAlso hCanonical
      exact absurd hMatch hReject
  | matched hHeld hTests hMatch hExposed =>
    cases hOther with
    | none hNone => cases hHeld.symm.trans hNone
    | rejected hSame hAlso hReject =>
      cases hHeld.symm.trans hSame
      cases hTests.unique hAlso hCanonical
      exact absurd hMatch hReject
    | matched _ _ _ hAlso => rw [hExposed.unique hAlso hCanonical.after]

theorem log_of_get? {id : SessionId} {session : Session}
    (h : registry.sessions.get? id = some session) : registry.log id = session.sink.log := by
  unfold log
  rw [h]
  rfl

theorem log_of_insert (registry : Registry) {id : SessionId} {session : Session}
    (h : after.sessions = registry.sessions.insert id session) (known : SessionId) :
    after.log known = if known = id then session.sink.log else registry.log known := by
  unfold log
  rw [h, Table.get?_insert]
  by_cases hKnown : known = id
  · rw [if_pos hKnown, if_pos hKnown]
    rfl
  · rw [if_neg hKnown, if_neg hKnown]

/-- A session in the place of one with the same record leaves all records as they were. -/
theorem log_of_replace {id : SessionId} {session replaced : Session}
    (h : after.sessions = registry.sessions.insert id session)
    (hReplaced : registry.sessions.get? id = some replaced)
    (hLog : session.sink.log = replaced.sink.log) (known : SessionId) :
    after.log known = registry.log known := by
  rw [log_of_insert registry h]
  by_cases hKnown : known = id
  · rw [if_pos hKnown, hKnown, log_of_get? hReplaced, hLog]
  · rw [if_neg hKnown]

theorem log_modifySession {id : SessionId} {f : Session → Session}
    (hLog : ∀ session, (f session).sink.log = session.sink.log) (known : SessionId) :
    (registry.modifySession id f).log known = registry.log known := by
  unfold log
  rw [get?_modifySession]
  by_cases hKnown : known = id
  · rw [if_pos hKnown, hKnown, Option.map_map]
    cases registry.sessions.get? id with
    | none => rfl
    | some session => exact hLog session
  · rw [if_neg hKnown]

/-- Closing a connection hands nothing over. -/
@[simp] theorem log_closeConnection (registry : Registry) (connection : ConnectionId)
    (id : SessionId) : (registry.closeConnection connection).2.log id = registry.log id := by
  cases hLive : registry.liveSession? connection with
  | none => rw [closeConnection_of_not_live hLive]
  | some found =>
    obtain ⟨live, session⟩ := found
    have hSession := (liveSession?_eq_some_iff.mp hLive).2.1
    have hSessions : (registry.afterClose connection live session).sessions =
        registry.sessions.insert live { session with state := .closed } := rfl
    rw [closeConnection_of_live hLive]
    exact log_of_replace hSessions hSession rfl id

/-- A registry after a session that goes on was handed a delivery. -/
def withDelivery (registry : Registry) (id : SessionId) (session : Session) (delivery : Delivery)
    (hub : Hub) : Registry :=
  { registry with
    sessions := registry.sessions.insert id
      { session with sink := (session.sink.deliver delivery).2 }
    hub }

theorem log_withDelivery {id known : SessionId} {session : Session} {delivery : Delivery}
    {hub : Hub} (hSession : registry.sessions.get? id = some session) :
    (registry.withDelivery id session delivery hub).log known =
      registry.log known ++
        if known = id then [(delivery, (session.sink.deliver delivery).1)] else [] := by
  rw [log_of_insert registry rfl]
  split
  · rename_i hKnown
    rw [hKnown, log_of_get? hSession, Sink.log_deliver]
  · rw [List.append_nil]

end Registry

/-! ## The outcomes of a test -/

namespace Server

variable {server : Server} {connection : ConnectionId} {mutation : Mutation}
  {publication : Publication}

/-- The record a publication is tested on, by the two choices that its flags make. -/
theorem Views.tested_of (config : Config) (mutation : Mutation) (publication : Publication) :
    (Views.of (config.serverFieldsFor mutation.service) mutation).tested publication =
      publication.testedOn config mutation := by
  unfold Views.tested Publication.testedOn
  cases publication.checkBefore <;> cases publication.ifServer <;> rfl

theorem Progress.finish_of_none_gone (progress : Progress) (h : progress.gone = []) :
    progress.finish.2 = progress.server := by
  rw [Progress.finish_eq, h]
  exact ite_self _

theorem routeFor_of_none
    (h : server.registry.publication? connection mutation.service = none) :
    server.routeFor connection mutation = server := by
  unfold routeFor quietRouteOver Registry.snapshot
  unfold Registry.publication? at h
  rw [Table.filter_entries, h]
  exact Progress.finish_of_none_gone { server } rfl

theorem routeFor_of_held
    (h : server.registry.publication? connection mutation.service = some publication) :
    server.routeFor connection mutation =
      (Progress.conclude mutation
        (Views.of (server.registry.config.serverFieldsFor mutation.service) mutation)
        (connection, publication)
        (publication.predicate.evaluate (publication.testedOn server.registry.config mutation))
        { server }).finish.2 := by
  unfold routeFor quietRouteOver Registry.snapshot
  unfold Registry.publication? at h
  rw [Table.filter_entries, h, ← Views.tested_of]
  rfl

/-- A publication that does not accept an event has nothing handed over. -/
theorem routeFor_of_reject
    (h : server.registry.publication? connection mutation.service = some publication)
    (hReject : publication.predicate.evaluate
      (publication.testedOn server.registry.config mutation) ≠ .ok true) :
    ∃ hub, (server.routeFor connection mutation).registry = { server.registry with hub } := by
  rw [routeFor_of_held h]
  unfold Progress.conclude
  split
  · rename_i hMatch
    exact absurd hMatch hReject
  · -- nobody's sink was asked, so that nobody is to be closed
    rw [Progress.finish_of_none_gone _ rfl]
    exact ⟨server.registry.hub, rfl⟩
  · rw [Progress.finish_of_none_gone _ rfl]
    exact ⟨_, rfl⟩

/-- What handing a match over leaves of a routing, if the session goes on. -/
theorem Progress.deliver_of_opened (progress : Progress) (delivery : Delivery) {session : Session}
    (hSession : progress.server.registry.sessions.get? publication.session = some session)
    (hOpened : session.state = .opened) :
    (progress.deliver publication delivery).server.registry =
        progress.server.registry.withDelivery publication.session session delivery
          (progress.server.registry.hub.answered delivery (session.sink.deliver delivery).1) ∧
      (progress.deliver publication delivery).gone = progress.gone ++
        if (session.sink.deliver delivery).1 = .disconnected then [delivery.connection]
        else [] := by
  -- the sink is asked, and its answer is the outcome
  have hDeliver : progress.server.registry.deliver publication.session delivery =
      (.ofOffer (session.sink.deliver delivery).1,
        { progress.server.registry with
          sessions := progress.server.registry.sessions.insert publication.session
            { session with sink := (session.sink.deliver delivery).2 } }) := by
    unfold Registry.deliver
    rw [hSession]
    dsimp only
    rw [Session.deliver_of_opened hOpened]
  unfold Progress.deliver
  rw [hDeliver]
  cases (session.sink.deliver delivery).1 with
  | delivered => exact ⟨rfl, (List.append_nil _).symm⟩
  | full => exact ⟨rfl, (List.append_nil _).symm⟩
  | disconnected => exact ⟨rfl, rfl⟩

/-- A publication that accepts an event has it handed to its session, and the connection is closed
after that if its sink is gone and the configuration says so. -/
theorem routeFor_of_match (hSound : server.registry.Sound)
    (h : server.registry.publication? connection mutation.service = some publication)
    (hMatch : publication.predicate.evaluate
      (publication.testedOn server.registry.config mutation) = .ok true) :
    ∃ session hub, server.registry.sessions.get? publication.session = some session ∧
      session.state = .opened ∧
      (server.routeFor connection mutation).registry =
        (let delivered := server.registry.withDelivery publication.session session
          (mutation.deliveryTo server.registry.config connection) hub
        if server.registry.config.closeOnDisconnect ∧
            (session.sink.deliver (mutation.deliveryTo server.registry.config connection)).1 =
              .disconnected then
          (delivered.closeConnection connection).2
        else delivered) ∧
      hub = server.registry.hub.answered (mutation.deliveryTo server.registry.config connection)
        (session.sink.deliver (mutation.deliveryTo server.registry.config connection)).1 := by
  -- the session of a publication that is held goes on
  have hState := (hSound.live_open (hSound.held h).2.2).2
  obtain ⟨session, hSession, hOpened⟩ := Option.map_eq_some_iff.mp hState
  obtain ⟨hRegistry, hGone⟩ := Progress.deliver_of_opened { server }
    (mutation.deliveryTo server.registry.config connection) hSession hOpened
  refine ⟨session, _, hSession, hOpened, ?_, rfl⟩
  -- the answer has the match handed to that session
  have hConclude : Progress.conclude mutation
      (Views.of (server.registry.config.serverFieldsFor mutation.service) mutation)
      (connection, publication) (.ok true) { server } =
        Progress.deliver { server } publication
          (mutation.deliveryTo server.registry.config connection) := rfl
  rw [routeFor_of_held h, hMatch, hConclude]
  generalize Progress.deliver { server } publication
    (mutation.deliveryTo server.registry.config connection) = progress at hRegistry hGone ⊢
  have hConfig : progress.server.registry.config = server.registry.config := by
    rw [hRegistry]
    rfl
  by_cases hAnswer : (session.sink.deliver (mutation.deliveryTo server.registry.config
      connection)).1 = .disconnected
  · -- the connection is the only one to be closed
    rw [if_pos hAnswer] at hGone
    have hGone : progress.gone = [connection] := hGone
    rw [Progress.finish_eq, hConfig, hGone]
    dsimp only
    by_cases hClose : server.registry.config.closeOnDisconnect = true
    · rw [if_pos hClose, if_pos ⟨hClose, hAnswer⟩, ← hRegistry]
      rfl
    · rw [if_neg hClose, if_neg (fun hBoth => hClose hBoth.1)]
      exact hRegistry
  · rw [if_neg hAnswer] at hGone
    rw [Progress.finish_of_none_gone _ hGone]
    dsimp only
    rw [if_neg (fun hBoth => hAnswer hBoth.2)]
    exact hRegistry

/-! ## Routing hands over what is due -/

/-- A publication that accepts an event has it put on the record of its session, with the answer of
the sink, and on no other record. -/
theorem log_routeFor_of_match (hSound : server.registry.Sound)
    (h : server.registry.publication? connection mutation.service = some publication)
    (hMatch : publication.predicate.evaluate
      (publication.testedOn server.registry.config mutation) = .ok true) :
    ∃ answer,
      (server.registry.deliver publication.session
        (mutation.deliveryTo server.registry.config connection)).1 = .ofOffer answer ∧
      ∀ id, (server.routeFor connection mutation).registry.log id =
        server.registry.log id ++ if id = publication.session then
          [(mutation.deliveryTo server.registry.config connection, answer)] else [] := by
  obtain ⟨session, hub, hSession, hOpened, hRegistry, -⟩ := routeFor_of_match hSound h hMatch
  refine ⟨(session.sink.deliver (mutation.deliveryTo server.registry.config connection)).1, ?_, ?_⟩
  · rw [Registry.deliver_fst, hSession, Option.map_some, Session.deliver_of_opened hOpened]
    rfl
  · intro id
    -- whether the connection is closed after it or not, the delivery is on the record
    have hLog : (server.routeFor connection mutation).registry.log id =
        (server.registry.withDelivery publication.session session
          (mutation.deliveryTo server.registry.config connection) hub).log id := by
      rw [hRegistry]
      dsimp only
      split
      · exact Registry.log_closeConnection _ _ _
      · rfl
    rw [hLog, Registry.log_withDelivery hSession]

theorem handed_routeFor (hSound : server.registry.Sound) (mutation : Mutation) (id : SessionId) :
    (server.routeFor connection mutation).registry.handed id =
      server.registry.handed id ++
        if server.registry.session? connection = some id then
          server.registry.due mutation connection
        else [] := by
  cases hHeld : server.registry.publication? connection mutation.service with
  | none =>
    rw [routeFor_of_none hHeld, Registry.due_of_none hHeld, ite_self, List.append_nil]
  | some publication =>
    -- a match is handed over, and anything else comes to the same as no publication
    by_cases hMatch : publication.predicate.evaluate
        (publication.testedOn server.registry.config mutation) = .ok true
    · obtain ⟨answer, -, hLog⟩ := log_routeFor_of_match hSound hHeld hMatch
      -- the session of the publication is the one the connection is in
      have hLive : server.registry.session? connection = some publication.session :=
        (hSound.held hHeld).2.2
      rw [Registry.due_of_match hHeld hMatch, hLive]
      unfold Registry.handed
      rw [hLog, List.map_append]
      by_cases hId : id = publication.session
      · rw [if_pos hId, if_pos (by rw [hId])]
        rfl
      · rw [if_neg hId, if_neg (fun hEq => hId (Option.some.inj hEq).symm)]
        rfl
    · obtain ⟨hub, hRegistry⟩ := routeFor_of_reject hHeld hMatch
      rw [Registry.due_of_reject hHeld hMatch, hRegistry, ite_self, List.append_nil]
      rfl

theorem handed_quietRoute (hSound : server.registry.Sound) (mutation : Mutation) (id : SessionId) :
    (server.quietRoute mutation).2.registry.handed id =
      server.registry.handed id ++
        if server.registry.session? id.connection = some id then
          server.registry.due mutation id.connection
        else [] := by
  -- what the session is handed hangs on its own connection's publication alone
  have hAgree := quietRoute_agreeOn id.connection hSound mutation
  have hHanded : (server.quietRoute mutation).2.registry.handed id =
      (server.routeFor id.connection mutation).registry.handed id := by
    unfold Registry.handed Registry.log
    rw [hAgree.sessions id rfl]
  rw [hHanded, handed_routeFor hSound mutation]

end Server

/-- Routing is exact. Wherever commands without acting predicates lead, publishing an event hands
the sink of each connection what is due to it, and hands no other sink anything; and a connection
that has a publication is open. What is due is settled by the publication, the event and the fields
that the configuration lists. -/
theorem Server.publish_hands_due {filters : FilterModule} (hFilters : filters.Pure)
    (config : Config) {commands : List Command} (hCommands : ∀ command ∈ commands, command.Pure)
    (depth : Nat) (mutation : Mutation) :
    ∃ steps server summary after,
      (Server.new filters config).run (depth + 1) commands = some (steps, server) ∧
      Server.publish (depth + 1) mutation server = some (summary, after) ∧
      (∀ connection service, (server.registry.publication? connection service).isSome →
        server.registry.isOpen connection = true) ∧
      ∀ connection, ∃ due, server.registry.Due mutation connection due ∧
        (mutation.Canonical → ∀ other, server.registry.Due mutation connection other →
          other = due) ∧
        ∀ id : SessionId, id.connection = connection →
          after.registry.handed id = server.registry.handed id ++
            if server.registry.session? connection = some id then due else [] := by
  obtain ⟨steps, server, hRun, hQuiet⟩ :=
    Server.run_of_quiet (Server.Quiet.new hFilters config) depth hCommands
  have hSound : server.registry.Sound :=
    (Server.follows_of_run hRun).sound (Registry.Sound.new config)
  refine ⟨steps, server, _, _, hRun, Server.publish_of_quiet hQuiet depth mutation, ?_, ?_⟩
  · -- a publication is held only as long as its connection is open
    intro connection service hSome
    obtain ⟨publication, hHeld⟩ := Option.isSome_iff_exists.mp hSome
    have hLive := (hSound.held hHeld).2.2
    exact hSound.liveSession?_isSome_iff.mpr (by rw [hLive]; rfl)
  · intro connection
    have hDue := server.registry.due_due mutation connection
    refine ⟨_, hDue, fun hCanonical other hOther => hOther.unique hDue hCanonical, ?_⟩
    rintro id rfl
    exact Server.handed_quietRoute hSound mutation id

/-- One connection that takes every record of one service. -/
def Command.sample : List Command :=
  [.request (.openConnection ⟨1⟩ (Sink.ofCapacity 1)),
    .request (.addPublication ⟨1⟩ "orders" { name := "all" })]

theorem Command.sample_pure : ∀ command ∈ Command.sample, command.Pure := by
  simp [Command.sample, Command.Pure]

/-- Only the server may see what orders cost, and secrets of any service. -/
def Config.priced : Config :=
  (({} : Config).withServerFields "orders" ["cost"]).withServerFields "*" ["secret"]

/-- Four connections ask for the four kinds of records: three for those of a cost, of which the
first and the second look at the record before the change, the first and the third at all fields;
and one, which looks at neither, for those of an id. -/
def Command.priced : List Command :=
  [1, 2, 3, 4].map (fun connection => .request (.openConnection ⟨connection⟩ (Sink.ofCapacity 1))) ++
  [.request (.addPublication ⟨1⟩ "orders" ⟨"query", .object [("cost", .string "3")], true, true⟩),
    .request (.addPublication ⟨2⟩ "orders" ⟨"query", .object [("cost", .string "3")], false, true⟩),
    .request (.addPublication ⟨3⟩ "orders" ⟨"query", .object [("cost", .string "3")], true, false⟩),
    .request (.addPublication ⟨4⟩ "orders" ⟨"query", .object [("id", .string "7")], false, false⟩)]

/-- An order whose cost changes. -/
def Mutation.priced : Mutation :=
  ⟨"orders", .updated, some (.object [("cost", .string "3"), ("id", .string "7")]),
    .object [("cost", .string "4"), ("id", .string "7"), ("secret", .string "x")]⟩

/-- The first and the last connection are handed the order, without its cost and its secret. -/
theorem Server.publish_hands_due_sample :
    Builtin.module.Pure ∧ (∀ command ∈ Command.priced, command.Pure) ∧
    ∃ steps server summary after,
      (Server.new Builtin.module .priced).run 1 Command.priced = some (steps, server) ∧
      Server.publish 1 .priced server = some (summary, after) ∧
      (∀ connection ∈ [1, 2, 3, 4], server.registry.Due .priced ⟨connection⟩
        (after.registry.handed ⟨⟨connection⟩, 0⟩)) ∧
      ([1, 2, 3, 4] : List UInt64).map (fun connection =>
          (after.registry.handed ⟨⟨connection⟩, 0⟩).map (fun delivery =>
            ["cost", "id", "secret"].map (fun key =>
              (delivery.record.get? key).bind Json.string?))) =
        [[[none, some "7", none]], [], [], [[none, some "7", none]]] := by
  have hPure : ∀ command ∈ Command.priced, command.Pure := by simp [Command.priced, Command.Pure]
  refine ⟨Builtin.module_pure, hPure, ?_⟩
  obtain ⟨steps, server, summary, after, hRun, hPublish, -, hHanded⟩ :=
    Server.publish_hands_due Builtin.module_pure .priced hPure 0 .priced
  have hEnd : ((Server.new Builtin.module .priced).run 1 Command.priced).bind (fun run =>
      (Server.publish 1 .priced run.2).map (fun published =>
        (([1, 2, 3, 4] : List UInt64).all (fun connection =>
            run.2.registry.session? ⟨connection⟩ = some ⟨⟨connection⟩, 0⟩ ∧
              (run.2.registry.handed ⟨⟨connection⟩, 0⟩).isEmpty),
          ([1, 2, 3, 4] : List UInt64).map (fun connection =>
            (published.2.registry.handed ⟨⟨connection⟩, 0⟩).map (fun delivery =>
              ["cost", "id", "secret"].map (fun key =>
                (delivery.record.get? key).bind Json.string?)))))) =
      some (true, [[[none, some "7", none]], [], [], [[none, some "7", none]]]) := by
    decide +kernel
  rw [hRun, Option.bind_some, hPublish, Option.map_some, Option.some_inj, Prod.mk.injEq,
    List.all_eq_true] at hEnd
  refine ⟨steps, server, summary, after, hRun, hPublish, fun connection hIn => ?_, hEnd.2⟩
  -- what the first session of a connection has been handed at the end is what was due
  obtain ⟨hSession, hNone⟩ := of_decide_eq_true (hEnd.1 connection hIn)
  obtain ⟨due, hDue, -, hAll⟩ := hHanded ⟨connection⟩
  have hSame := hAll ⟨⟨connection⟩, 0⟩ rfl
  rw [List.isEmpty_iff.mp hNone, if_pos hSession, List.nil_append] at hSame
  exact hSame ▸ hDue

end Fanout
