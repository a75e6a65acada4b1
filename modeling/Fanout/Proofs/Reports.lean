import Fanout.Proofs.Deeds
import Fanout.Proofs.Journal
import Fanout.Proofs.Reordering

/-!
# Fanout — what a routing reports

A routing reports the predicates that failed and the matches that were lost as it
comes to them, and the connections that it closes at the end. Where predicates do
not act, the reports can be read off the registry before the routing and the answers
that the sinks have on record after it: none is missing, and none is made twice.

## Main definitions

* `Registry.outcome` — what became of a delivery, by the answer on record.
* `Registry.routingReports` — what a routing is to report, in order.
* `Server.Reported` — what a routing reported, and what its summary says of that.

## Results

* `Server.history_closeAll` — closings are reported with all services that were held.
* `Server.history_quietRouteOver` — a routing reports what it is to report.
* `Server.publish_reports` — so does publishing, wherever a run leads.
-/

namespace Fanout

open Server (Progress Views)

/-! ## What is to be reported -/

namespace Registry

/-- What became of the delivery that a session was handed between two registries, by the answer
that its sink has on record; closed if the sink was not asked. -/
def outcome (before after : Registry) (id : SessionId) : DeliveryOutcome :=
  match (after.log id).drop (before.log id).length with
  | [] => .closed
  | (_, answer) :: _ => .ofOffer answer

/-- What is reported of a publication that an event is tested on: that its predicate failed, or that
its match was lost. -/
def testReports (registry : Registry) (mutation : Mutation) (entry : ConnectionId × Publication)
    (outcome : DeliveryOutcome) : List (Option ConnectionId × Diagnostic) :=
  match entry.2.predicate.evaluate (entry.2.testedOn registry.config mutation) with
  | .error error =>
    [(some entry.1, .predicateError mutation.service entry.1 entry.2.name error.message)]
  | .ok false => []
  | .ok true =>
    match outcome with
    | .full => [(some entry.1, .deliveryDropped mutation.service entry.1 .bufferFull)]
    | .disconnected => [(some entry.1, .deliveryDropped mutation.service entry.1 .disconnected)]
    | .delivered | .closed => []

/-- What is reported of a connection that is closed. -/
def closingReport (registry : Registry) (connection : ConnectionId) :
    Option ConnectionId × Diagnostic :=
  (some connection, .connectionClosed connection (registry.servicesFor connection))

/-- What a routing is to report, in order: what is to be said of each publication tested, and then,
if the configuration says so, that the connections are closed whose sinks are gone. -/
def routingReports (registry : Registry) (mutation : Mutation)
    (order : List (ConnectionId × Publication))
    (outcome : ConnectionId × Publication → DeliveryOutcome) :
    List (Option ConnectionId × Diagnostic) :=
  order.flatMap (fun entry => registry.testReports mutation entry (outcome entry)) ++
    if registry.config.closeOnDisconnect then
      (order.filter (fun entry => outcome entry = .disconnected)).map
        (fun entry => registry.closingReport entry.1)
    else []

/-- What would become of the delivery to a publication on this registry; closed if it has none. -/
def foreseen (registry : Registry) (mutation : Mutation) (entry : ConnectionId × Publication) :
    DeliveryOutcome :=
  match registry.verdict mutation entry with
  | .matched outcome => outcome
  | .suppressed | .failed => .closed

variable {before after registry : Registry} {id : SessionId} {delivery : Delivery}
  {answer : Offer} {mutation : Mutation} {entry : ConnectionId × Publication}
  {order : List (ConnectionId × Publication)}

theorem outcome_of_handed (h : after.log id = before.log id ++ [(delivery, answer)]) :
    before.outcome after id = .ofOffer answer := by
  unfold outcome
  rw [h, List.drop_left]

theorem outcome_of_kept (h : after.log id = before.log id) :
    before.outcome after id = .closed := by
  unfold outcome
  rw [h, List.drop_length]

theorem foreseen_of_match
    (h : entry.2.predicate.evaluate (entry.2.testedOn registry.config mutation) = .ok true) :
    registry.foreseen mutation entry =
      (registry.deliver entry.2.session (mutation.deliveryTo registry.config entry.1)).1 := by
  unfold foreseen verdict
  rw [h]

theorem foreseen_of_reject
    (h : entry.2.predicate.evaluate (entry.2.testedOn registry.config mutation) ≠ .ok true) :
    registry.foreseen mutation entry = .closed := by
  unfold foreseen verdict
  split
  · rename_i hVerdict
    split at hVerdict
    · rename_i hMatch
      exact absurd hMatch h
    · cases hVerdict
    · cases hVerdict
  · rfl
  · rfl

theorem foreseen_eq_gone_iff (registry : Registry) (mutation : Mutation)
    (entry : ConnectionId × Publication) :
    registry.foreseen mutation entry = .disconnected ↔
      registry.verdict mutation entry = .matched .disconnected := by
  unfold foreseen
  split
  · rename_i hVerdict
    simp [hVerdict]
  · rename_i hVerdict
    simp [hVerdict]
  · rename_i hVerdict
    simp [hVerdict]

/-- What is to be reported hangs on the outcomes of the publications tested. -/
theorem routingReports_congr (registry : Registry) (mutation : Mutation)
    {first second : ConnectionId × Publication → DeliveryOutcome}
    (h : ∀ entry ∈ order, first entry = second entry) :
    registry.routingReports mutation order first =
      registry.routingReports mutation order second := by
  have hTests : order.map (fun entry => registry.testReports mutation entry (first entry)) =
      order.map (fun entry => registry.testReports mutation entry (second entry)) := by
    refine List.map_congr_left (fun entry hEntry => ?_)
    rw [h entry hEntry]
  have hGone : order.filter (fun entry => first entry = .disconnected) =
      order.filter (fun entry => second entry = .disconnected) := by
    refine List.filter_congr (fun entry hEntry => ?_)
    rw [h entry hEntry]
  unfold routingReports
  rw [List.flatMap_def, List.flatMap_def, hTests, hGone]

/-- A test is reported by its verdict: a failure as a failure, and a match that is lost as a
loss. -/
theorem tally_test
    (h : entry.2.predicate.evaluate (entry.2.testedOn registry.config mutation) = .ok true →
      registry.foreseen mutation entry ≠ .closed) :
    (Summary.tally [registry.verdict mutation entry]).failed =
        (registry.testReports mutation entry (registry.foreseen mutation entry)).countP
          (fun report => report.2.source == "predicateError") ∧
      (Summary.tally [registry.verdict mutation entry]).dropped =
        (registry.testReports mutation entry (registry.foreseen mutation entry)).countP
          (fun report => report.2.source == "deliveryDropped") := by
  unfold foreseen verdict at h ⊢
  unfold testReports
  cases hResult : entry.2.predicate.evaluate (entry.2.testedOn registry.config mutation) with
  | error error => exact ⟨rfl, rfl⟩
  | ok accepted =>
    rw [hResult] at h
    cases accepted with
    | false => exact ⟨rfl, rfl⟩
    | true =>
      dsimp only at h ⊢
      generalize (registry.deliver entry.2.session
        (mutation.deliveryTo registry.config entry.1)).1 = outcome at h ⊢
      cases outcome with
      | delivered | full | disconnected => exact ⟨rfl, rfl⟩
      | closed => exact absurd rfl (h rfl)

/-- So the tests of a routing are reported by the tally of their verdicts. -/
theorem tally_tests
    (h : ∀ entry ∈ order,
      entry.2.predicate.evaluate (entry.2.testedOn registry.config mutation) = .ok true →
        registry.foreseen mutation entry ≠ .closed) :
    (Summary.tally (order.map (registry.verdict mutation))).failed =
        (order.flatMap (fun entry => registry.testReports mutation entry
          (registry.foreseen mutation entry))).countP
          (fun report => report.2.source == "predicateError") ∧
      (Summary.tally (order.map (registry.verdict mutation))).dropped =
        (order.flatMap (fun entry => registry.testReports mutation entry
          (registry.foreseen mutation entry))).countP
          (fun report => report.2.source == "deliveryDropped") := by
  induction order with
  | nil => exact ⟨rfl, rfl⟩
  | cons entry rest ih =>
    obtain ⟨hFirst, hRest⟩ := List.forall_mem_cons.mp h
    obtain ⟨hFailed, hDropped⟩ := tally_test hFirst
    obtain ⟨hFails, hDrops⟩ := ih hRest
    rw [List.map_cons, Summary.tally_cons, List.flatMap_cons, List.countP_append,
      List.countP_append]
    simp only [Summary.plus]
    omega

/-- The failures and the losses among the verdicts are those that are to be reported, if no match
comes to a session that has ended. -/
theorem tally_eq_countP
    (h : ∀ entry ∈ order,
      entry.2.predicate.evaluate (entry.2.testedOn registry.config mutation) = .ok true →
        registry.foreseen mutation entry ≠ .closed) :
    (Summary.tally (order.map (registry.verdict mutation))).failed =
        (registry.routingReports mutation order (registry.foreseen mutation)).countP
          (fun report => report.2.source == "predicateError") ∧
      (Summary.tally (order.map (registry.verdict mutation))).dropped =
        (registry.routingReports mutation order (registry.foreseen mutation)).countP
          (fun report => report.2.source == "deliveryDropped") := by
  -- that a connection is closed is neither a failure nor a loss
  have hClosings : ∀ source, source ≠ "connectionClosed" →
      (if registry.config.closeOnDisconnect then
        (order.filter (fun entry => registry.foreseen mutation entry = .disconnected)).map
          (fun entry => registry.closingReport entry.1)
      else []).countP (fun report => report.2.source == source) = 0 := by
    intro source hSource
    rw [List.countP_eq_zero]
    intro report hReport
    split at hReport
    · obtain ⟨entry, -, rfl⟩ := List.mem_map.mp hReport
      simpa [closingReport, Diagnostic.source] using Ne.symm hSource
    · cases hReport
  unfold routingReports
  rw [List.countP_append, List.countP_append, hClosings _ (by decide), hClosings _ (by decide)]
  exact tally_tests h

theorem Kept.servicesFor (h : before.Kept after) (connection : ConnectionId) :
    after.servicesFor connection = before.servicesFor connection := by
  refine eq_of_ascending_of_mem_iff (after.servicesFor_ascending connection)
    (before.servicesFor_ascending connection) (fun service => ?_)
  rw [mem_servicesFor_iff, mem_servicesFor_iff, h.publications]

end Registry

/-! ## Tests -/

namespace Server

variable {server : Server} {mutation : Mutation} {order : List (ConnectionId × Publication)}

/-- Testing a publication reports what is to be reported of it. -/
theorem Progress.history_test (progress : Progress) (mutation : Mutation)
    (entry : ConnectionId × Publication) :
    (progress.test mutation
      (Views.of (progress.server.registry.config.serverFieldsFor mutation.service) mutation)
      entry).server.registry.hub.history =
        (progress.server.registry.testReports mutation entry
          (progress.server.registry.foreseen mutation entry)).reverse ++
          progress.server.registry.hub.history := by
  unfold Progress.test Registry.testReports Registry.foreseen Registry.verdict
  rw [Views.tested_of]
  cases entry.2.predicate.evaluate
      (entry.2.testedOn progress.server.registry.config mutation) with
  | error error => rfl
  | ok accepted =>
    cases accepted with
    | false => rfl
    | true =>
      have hHub : (progress.server.registry.deliver entry.2.session
          (mutation.deliveryTo progress.server.registry.config entry.1)).2.hub =
            progress.server.registry.hub := Registry.hub_deliver _ _
      show (progress.deliver entry.2 (mutation.deliveryTo progress.server.registry.config
        entry.1)).server.registry.hub.history = _
      unfold Progress.deliver
      -- handing the match over reports nothing itself, and what follows hangs on the outcome
      generalize progress.server.registry.deliver entry.2.session
        (mutation.deliveryTo progress.server.registry.config entry.1) = handed at hHub ⊢
      obtain ⟨outcome, registry⟩ := handed
      change registry.hub = _ at hHub
      rw [← hHub]
      cases outcome <;> rfl

/-- Testing a publication takes note of its connection if the match is lost to a sink that is
gone. -/
theorem Progress.gone_test (progress : Progress) (mutation : Mutation)
    (entry : ConnectionId × Publication) :
    (progress.test mutation
      (Views.of (progress.server.registry.config.serverFieldsFor mutation.service) mutation)
      entry).gone = progress.gone ++
        if progress.server.registry.foreseen mutation entry = .disconnected then [entry.1]
        else [] := by
  have hVerdict : Verdict.of progress.server.registry
      (mutation.deliveryTo progress.server.registry.config entry.1) entry.2
      (entry.2.predicate.evaluate (entry.2.testedOn progress.server.registry.config mutation)) =
        progress.server.registry.verdict mutation entry := by
    unfold Verdict.of Registry.verdict
    cases entry.2.predicate.evaluate
        (entry.2.testedOn progress.server.registry.config mutation) with
    | error error => rfl
    | ok accepted => cases accepted <;> rfl
  unfold Progress.test
  rw [Views.tested_of, Progress.gone_conclude, hVerdict]
  simp only [Registry.foreseen_eq_gone_iff]

/-- Testing publications of different connections reports what is to be reported of each. -/
theorem Progress.history_foldl_test (progress : Progress) (mutation : Mutation)
    (hSessions : ∀ entry ∈ order, entry.2.session.connection = entry.1)
    (hDistinct : order.Pairwise (fun a b => a.1 ≠ b.1)) :
    (order.foldl (Progress.test mutation
      (Views.of (progress.server.registry.config.serverFieldsFor mutation.service) mutation))
      progress).server.registry.hub.history =
        (order.flatMap (fun entry => progress.server.registry.testReports mutation entry
          (progress.server.registry.foreseen mutation entry))).reverse ++
          progress.server.registry.hub.history := by
  -- the latest report is the first in the history
  have hAdds := Progress.foldl_test_adds
    (fun progress => progress.server.registry.hub.history.reverse) (· ++ ·)
    (fun registry entry =>
      registry.testReports mutation entry (registry.foreseen mutation entry))
    (fun hAgree hSession => by
      unfold Registry.testReports Registry.foreseen
      rw [hAgree.config, hAgree.verdict hSession])
    (fun progress entry => by
      rw [progress.history_test, List.reverse_append, List.reverse_reverse])
    hSessions hDistinct progress
  rw [List.foldl_map, List.foldl_append_eq_append, ← List.flatMap_def] at hAdds
  have hHistory := congrArg List.reverse hAdds
  rwa [List.reverse_reverse, List.reverse_append, List.reverse_reverse] at hHistory

/-- And it takes note of those whose sinks are gone. -/
theorem Progress.gone_foldl_test (progress : Progress) (mutation : Mutation)
    (hSessions : ∀ entry ∈ order, entry.2.session.connection = entry.1)
    (hDistinct : order.Pairwise (fun a b => a.1 ≠ b.1)) :
    (order.foldl (Progress.test mutation
      (Views.of (progress.server.registry.config.serverFieldsFor mutation.service) mutation))
      progress).gone =
        progress.gone ++ (order.filter (fun entry =>
          progress.server.registry.foreseen mutation entry = .disconnected)).map Prod.fst := by
  have hAdds := Progress.foldl_test_adds Progress.gone (· ++ ·)
    (fun registry entry =>
      if registry.foreseen mutation entry = .disconnected then [entry.1] else [])
    (fun hAgree hSession => by
      unfold Registry.foreseen
      rw [hAgree.verdict hSession])
    (fun progress entry => progress.gone_test mutation entry)
    hSessions hDistinct progress
  rw [List.foldl_map, List.foldl_append_eq_append] at hAdds
  -- a list of those who are noted one by one is the list of all that are noted
  have hNoted : ∀ entries : List (ConnectionId × Publication),
      (entries.map (fun entry =>
        if progress.server.registry.foreseen mutation entry = .disconnected then [entry.1]
        else [])).flatten =
        (entries.filter (fun entry =>
          progress.server.registry.foreseen mutation entry = .disconnected)).map Prod.fst := by
    intro entries
    induction entries with
    | nil => rfl
    | cons entry rest ih =>
      rw [List.map_cons, List.flatten_cons, ih, List.filter_cons]
      by_cases hGone : progress.server.registry.foreseen mutation entry = .disconnected
      · simp [hGone]
      · simp [hGone]
  rw [hAdds, hNoted]

/-! ## Closings -/

/-- Closing connections that are open reports each with all the services that it held. -/
theorem history_closeAll (hSound : server.registry.Sound) {connections : List ConnectionId}
    (hDistinct : connections.Nodup)
    (hOpen : ∀ connection ∈ connections, server.registry.isOpen connection = true) :
    (server.closeAll connections).registry.hub.history =
      (connections.map server.registry.closingReport).reverse ++ server.registry.hub.history := by
  induction connections generalizing server with
  | nil => rfl
  | cons connection rest ih =>
    obtain ⟨hFirst, hOthers⟩ := List.forall_mem_cons.mp hOpen
    obtain ⟨hFresh, hDistinct⟩ := List.nodup_cons.mp hDistinct
    obtain ⟨⟨id, session⟩, hLive⟩ := Option.isSome_iff_exists.mp hFirst
    have hClosed : (server.closeConnection connection).2.registry.hub.history =
        server.registry.closingReport connection :: server.registry.hub.history := by
      show (server.registry.closeConnection connection).2.hub.history = _
      rw [Registry.closeConnection_of_live hLive]
      rfl
    -- the closing does not show to the connections that are still to come
    have hAgree : ∀ other ∈ rest, (server.registry.closeConnection connection).2.AgreeOn other
        server.registry := by
      intro other hOther
      refine Registry.closeConnection_agreeOn hSound ?_
      rintro rfl
      exact hFresh hOther
    have hStill : ∀ other ∈ rest,
        (server.closeConnection connection).2.registry.isOpen other = true := by
      intro other hOther
      have hSame := (hAgree other hOther).liveSession? (hSound.closeConnection connection)
      show ((server.registry.closeConnection connection).2.liveSession? other).isSome = true
      rw [hSame]
      exact hOthers other hOther
    have hReports : rest.map (server.closeConnection connection).2.registry.closingReport =
        rest.map server.registry.closingReport := by
      refine List.map_congr_left (fun other hOther => ?_)
      have hServices := (hAgree other hOther).servicesFor
      show (_, Diagnostic.connectionClosed other
        ((server.registry.closeConnection connection).2.servicesFor other)) = _
      rw [hServices]
      rfl
    have hRest := ih (hSound.closeConnection connection) hDistinct hStill
    rw [hReports, hClosed] at hRest
    refine hRest.trans ?_
    rw [List.map_cons, List.reverse_cons, List.append_assoc]
    rfl

/-! ## Whole routings -/

theorem Progress.kept_foldl_test (mutation : Mutation) (views : Views)
    (publications : List (ConnectionId × Publication)) (progress : Progress) :
    progress.server.registry.Kept
      (publications.foldl (Progress.test mutation views) progress).server.registry := by
  induction publications generalizing progress with
  | nil => exact .refl _
  | cons entry rest ih => exact (progress.kept_conclude mutation views entry _).trans (ih _)

/-- A routing reports what is to be reported by what is foreseen of its publications. -/
theorem history_quietRouteOver (hSound : server.registry.Sound)
    (hOrder : order.Perm (server.registry.snapshot mutation.service)) :
    (server.quietRouteOver order mutation).2.registry.hub.history =
      (server.registry.routingReports mutation order
        (server.registry.foreseen mutation)).reverse ++ server.registry.hub.history := by
  have hSessions : ∀ entry ∈ order, entry.2.session.connection = entry.1 :=
    fun entry hEntry => snapshot_session hSound (hOrder.mem_iff.mp hEntry)
  have hDistinct := distinct_of_perm hOrder
  have hHistory := Progress.history_foldl_test { server } mutation hSessions hDistinct
  have hGone := Progress.gone_foldl_test { server } mutation hSessions hDistinct
  have hFollows := Progress.follows_foldl_test mutation
    (Views.of (server.registry.config.serverFieldsFor mutation.service) mutation) order { server }
  have hKept := Progress.kept_foldl_test mutation
    (Views.of (server.registry.config.serverFieldsFor mutation.service) mutation) order { server }
  unfold quietRouteOver Registry.routingReports
  dsimp only at hHistory hGone hFollows hKept ⊢
  generalize order.foldl (Progress.test mutation
    (Views.of (server.registry.config.serverFieldsFor mutation.service) mutation)) { server } =
      progress at hHistory hGone hFollows hKept ⊢
  rw [Progress.finish_eq, hFollows.config]
  dsimp only
  cases hEager : server.registry.config.closeOnDisconnect with
  | false => simpa using hHistory
  | true =>
    rw [if_pos rfl, if_pos rfl]
    have hGone : progress.gone = (order.filter (fun entry =>
        server.registry.foreseen mutation entry = .disconnected)).map Prod.fst := hGone
    -- those whose sinks are gone are different connections, and open until now
    have hNodup : progress.gone.Nodup := by
      have hAll : (order.map Prod.fst).Nodup := List.pairwise_map.mpr hDistinct
      rw [hGone]
      exact hAll.sublist (List.filter_sublist.map Prod.fst)
    have hOpen : ∀ connection ∈ progress.gone,
        progress.server.registry.isOpen connection = true := by
      intro connection hConnection
      rw [hGone] at hConnection
      obtain ⟨entry, hEntry, rfl⟩ := List.mem_map.mp hConnection
      have hListed := hOrder.mem_iff.mp (List.mem_filter.mp hEntry).1
      have hLive := (hSound.held (Registry.mem_snapshot_iff.mp hListed)).2.2
      refine (hFollows.sound hSound).liveSession?_isSome_iff.mpr ?_
      rw [hKept.live, hLive]
      rfl
    have hServices : progress.server.registry.closingReport = server.registry.closingReport := by
      funext connection
      unfold Registry.closingReport
      rw [hKept.servicesFor]
    rw [history_closeAll (hFollows.sound hSound) hNodup hOpen, hHistory, hServices, hGone,
      List.map_map, List.reverse_append, List.append_assoc]
    rfl

section
variable {entry : ConnectionId × Publication}

/-- The sink of a match is asked once, and its answer was foreseen. -/
theorem log_quietRouteOver_of_match (hSound : server.registry.Sound)
    (hOrder : order.Perm (server.registry.snapshot mutation.service)) (hEntry : entry ∈ order)
    (hMatch : entry.2.predicate.evaluate
      (entry.2.testedOn server.registry.config mutation) = .ok true) :
    ∃ answer, server.registry.foreseen mutation entry = .ofOffer answer ∧
      (server.quietRouteOver order mutation).2.registry.log entry.2.session =
        server.registry.log entry.2.session ++
          [(mutation.deliveryTo server.registry.config entry.1, answer)] := by
  have hListed := hOrder.mem_iff.mp hEntry
  have hSession := snapshot_session hSound hListed
  -- to its connection the routing is that of its own publication
  have hAgree := quietRouteOver_agreeOn entry.1 hSound mutation hOrder
  obtain ⟨answer, hAnswer, hLog⟩ :=
    log_routeFor_of_match hSound (Registry.mem_snapshot_iff.mp hListed) hMatch
  refine ⟨answer, (Registry.foreseen_of_match hMatch).trans hAnswer, ?_⟩
  have hOwn := hLog entry.2.session
  rw [if_pos rfl] at hOwn
  rw [← hOwn]
  unfold Registry.log
  rw [hAgree.sessions _ hSession]

/-- The sink of any other publication is not asked. -/
theorem log_quietRouteOver_of_reject (hSound : server.registry.Sound)
    (hOrder : order.Perm (server.registry.snapshot mutation.service)) (hEntry : entry ∈ order)
    (hReject : entry.2.predicate.evaluate
      (entry.2.testedOn server.registry.config mutation) ≠ .ok true) :
    (server.quietRouteOver order mutation).2.registry.log entry.2.session =
      server.registry.log entry.2.session := by
  have hListed := hOrder.mem_iff.mp hEntry
  have hSession := snapshot_session hSound hListed
  have hAgree := quietRouteOver_agreeOn entry.1 hSound mutation hOrder
  obtain ⟨hub, hRegistry⟩ :=
    routeFor_of_reject (Registry.mem_snapshot_iff.mp hListed) hReject
  unfold Registry.log
  rw [hAgree.sessions _ hSession, hRegistry]

/-- What became of a publication, by the record of its session, is what was foreseen. -/
theorem outcome_quietRouteOver (hSound : server.registry.Sound)
    (hOrder : order.Perm (server.registry.snapshot mutation.service)) (hEntry : entry ∈ order) :
    server.registry.outcome (server.quietRouteOver order mutation).2.registry entry.2.session =
      server.registry.foreseen mutation entry := by
  by_cases hMatch : entry.2.predicate.evaluate
      (entry.2.testedOn server.registry.config mutation) = .ok true
  · obtain ⟨answer, hForeseen, hLog⟩ :=
      log_quietRouteOver_of_match hSound hOrder hEntry hMatch
    rw [Registry.outcome_of_handed hLog, hForeseen]
  · rw [Registry.outcome_of_kept (log_quietRouteOver_of_reject hSound hOrder hEntry hMatch),
      Registry.foreseen_of_reject hMatch]

end

end Server

/-- What a routing is to report, by the answers that the sinks have on record after it. -/
def Server.reportsDue (before : Server) (mutation : Mutation)
    (order : List (ConnectionId × Publication)) (after : Server) :
    List (Option ConnectionId × Diagnostic) :=
  before.registry.routingReports mutation order
    (fun entry => before.registry.outcome after.registry entry.2.session)

/-- What a routing reported of the publications that it tested in an order, what their sinks have
on record, and what the summary says of the reports. -/
structure Server.Reported (before : Server) (mutation : Mutation)
    (order : List (ConnectionId × Publication)) (summary : Summary) (after : Server) : Prop where
  /-- The sink of a match was asked once, with what is due, and gave one answer. -/
  asked : ∀ entry ∈ order,
    entry.2.predicate.evaluate (entry.2.testedOn before.registry.config mutation) = .ok true →
      ∃ answer, after.registry.log entry.2.session = before.registry.log entry.2.session ++
        [(mutation.deliveryTo before.registry.config entry.1, answer)]
  /-- The sink of any other publication was not asked. -/
  spared : ∀ entry ∈ order,
    entry.2.predicate.evaluate (entry.2.testedOn before.registry.config mutation) ≠ .ok true →
      after.registry.log entry.2.session = before.registry.log entry.2.session
  /-- The reports are those that are due; the history has the latest first. -/
  told : after.registry.hub.history =
    (before.reportsDue mutation order after).reverse ++ before.registry.hub.history
  failed : summary.failed = (before.reportsDue mutation order after).countP
    (fun report => report.2.source == "predicateError")
  dropped : summary.dropped = (before.reportsDue mutation order after).countP
    (fun report => report.2.source == "deliveryDropped")

/-- Where predicates do not act, a routing reports exactly what happened. -/
theorem Server.reported_quietRouteOver {server : Server} {mutation : Mutation}
    {order : List (ConnectionId × Publication)} (hSound : server.registry.Sound)
    (hOrder : order.Perm (server.registry.snapshot mutation.service)) :
    server.Reported mutation order (server.quietRouteOver order mutation).1
      (server.quietRouteOver order mutation).2 := by
  have hDue : server.reportsDue mutation order (server.quietRouteOver order mutation).2 =
      server.registry.routingReports mutation order (server.registry.foreseen mutation) :=
    Registry.routingReports_congr _ _
      (fun entry hEntry => outcome_quietRouteOver hSound hOrder hEntry)
  -- the session of a match goes on, so that its sink is asked
  have hAnswered : ∀ entry ∈ order,
      entry.2.predicate.evaluate (entry.2.testedOn server.registry.config mutation) = .ok true →
        server.registry.foreseen mutation entry ≠ .closed := by
    intro entry hEntry hMatch hClosed
    obtain ⟨answer, hForeseen, -⟩ := log_quietRouteOver_of_match hSound hOrder hEntry hMatch
    rw [hForeseen] at hClosed
    cases answer <;> cases hClosed
  obtain ⟨hFailed, hDropped⟩ := Registry.tally_eq_countP hAnswered
  rw [← hDue, ← summary_quietRouteOver hSound mutation hOrder] at hFailed hDropped
  constructor
  case asked =>
    intro entry hEntry hMatch
    obtain ⟨answer, -, hLog⟩ := log_quietRouteOver_of_match hSound hOrder hEntry hMatch
    exact ⟨answer, hLog⟩
  case spared =>
    intro entry hEntry hReject
    exact log_quietRouteOver_of_reject hSound hOrder hEntry hReject
  case told =>
    rw [hDue]
    exact history_quietRouteOver hSound hOrder
  case failed => exact hFailed
  case dropped => exact hDropped

/-- Publishing reports exactly what happened. Wherever commands without acting predicates lead, and
in whatever order the publications on the service of an event are tested, what is reported is: for
each publication tested, that its predicate failed, with the text of the failure, or that its match
was lost, with the reason that the sink gave, and nothing otherwise; and after all of that, if the
configuration says so, for each connection whose sink answered that it is gone, that it was closed,
with all services that it had publications on, ascending. Each report stands under its own
connection. The summary counts the failures and the losses that were reported. -/
theorem Server.publish_reports {filters : FilterModule} (hFilters : filters.Pure)
    (config : Config) {commands : List Command} (hCommands : ∀ command ∈ commands, command.Pure)
    (depth : Nat) :
    ∃ steps server,
      (Server.new filters config).run (depth + 1) commands = some (steps, server) ∧
      (∀ connection,
        (server.registry.servicesFor connection).Pairwise (fun a b => compare a b = .lt) ∧
        ∀ service, service ∈ server.registry.servicesFor connection ↔
          (server.registry.publication? connection service).isSome) ∧
      ∀ nesting mutation,
        Server.publish (nesting + 1) mutation server =
          server.publishOver nesting (server.registry.snapshot mutation.service) mutation ∧
        ∀ order : List (ConnectionId × Publication),
          order.Perm (server.registry.snapshot mutation.service) →
          ∃ summary after,
            server.publishOver nesting order mutation = some (summary, after) ∧
            server.Reported mutation order summary after := by
  obtain ⟨steps, server, hRun, hQuiet⟩ :=
    Server.run_of_quiet (Server.Quiet.new hFilters config) depth hCommands
  have hSound : server.registry.Sound :=
    (Server.follows_of_run hRun).sound (Registry.Sound.new config)
  refine ⟨steps, server, hRun, ?_, fun nesting mutation => ⟨Server.publish_eq _ _ _, ?_⟩⟩
  · intro connection
    exact ⟨server.registry.servicesFor_ascending connection,
      fun service => Registry.mem_servicesFor_iff⟩
  · intro order hOrder
    -- the counters have no part in what is reported
    have hArrived : server.arrive.registry.Sound := hSound
    obtain ⟨hAsked, hSpared, hTold, hFailed, hDropped⟩ :=
      Server.reported_quietRouteOver hArrived hOrder
    exact ⟨_, _, Server.publishOver_of_quiet hQuiet nesting hOrder,
      ⟨hAsked, hSpared, hTold, hFailed, hDropped⟩⟩

/-- What is reported as the mixed connections are offered an order, the latest first. -/
def Diagnostic.mixed : List (Option ConnectionId × Diagnostic) :=
  [(some ⟨2⟩, .connectionClosed ⟨2⟩ ["notes", "orders"]),
    (some ⟨4⟩, .predicateError "orders" ⟨4⟩ "failing" (FilterError.evaluation "no").message),
    (some ⟨3⟩, .deliveryDropped "orders" ⟨3⟩ .bufferFull),
    (some ⟨2⟩, .deliveryDropped "orders" ⟨2⟩ .disconnected)]

theorem Server.publish_reports_mixed :
    ∃ steps server summary after,
      (Server.new Builtin.module {}).run 1 Command.mixed = some (steps, server) ∧
      server.publishOver 0 (server.registry.snapshot "orders") .ordered = some (summary, after) ∧
      after.registry.hub.history = Diagnostic.mixed ++ server.registry.hub.history ∧
      summary.failed = 1 ∧ summary.dropped = 2 := by
  obtain ⟨steps, server, hRun, -, hReports⟩ :=
    Server.publish_reports Builtin.module_pure {} Command.mixed_pure 0
  obtain ⟨-, hReports⟩ := hReports 0 .ordered
  obtain ⟨summary, after, hPublish, hReported⟩ := hReports _ (.refl _)
  have hPublish : server.publishOver 0 (server.registry.snapshot "orders") .ordered =
      some (summary, after) := hPublish
  have hEnd : ((Server.new Builtin.module {}).run 1 Command.mixed).bind (fun run =>
      (run.2.publishOver 0 (run.2.registry.snapshot "orders") .ordered).map (fun published =>
        run.2.reportsDue .ordered (run.2.registry.snapshot "orders") published.2)) =
      some Diagnostic.mixed.reverse := rfl
  rw [hRun, Option.bind_some, hPublish] at hEnd
  have hDue : server.reportsDue .ordered (server.registry.snapshot "orders") after =
      Diagnostic.mixed.reverse := Option.some.inj hEnd
  have hTold := hReported.told
  have hFailed := hReported.failed
  have hDropped := hReported.dropped
  rw [show Mutation.ordered.service = "orders" from rfl, hDue] at hTold hFailed hDropped
  rw [List.reverse_reverse] at hTold
  exact ⟨steps, server, summary, after, hRun, hPublish, hTold, hFailed, hDropped⟩

end Fanout
