import Fanout.Proofs.Delivery

/-!
# Fanout — what is counted of a routing

Where predicates do not act, what becomes of a publication when an event is routed
hangs on the registry before the routing alone. The summary of the routing counts
exactly that, publication by publication, and the server's counters add it up.

## Main definitions

* `Verdict`, `Registry.verdicts` — what becomes of each publication of a service.
* `Summary.tally` — how many there are of each kind.

## Results

* `Server.summary_quietRouteOver` — the summary of a routing is the tally of the verdicts.
* `Server.stats_quietRouteOver` — a routing itself leaves the counters alone.
-/

namespace Fanout

open Server (Progress Views)

/-! ## Verdicts -/

/-- What becomes of a publication when an event is tested. -/
inductive Verdict where
  /-- The predicate accepted the event, which was handed to the session. -/
  | matched (outcome : DeliveryOutcome)
  | suppressed
  | failed
  deriving DecidableEq

namespace Verdict

/-- The predicate accepted the event. -/
def isMatch : Verdict → Bool
  | matched _ => true
  | suppressed | failed => false

/-- The predicate accepted the event, and it was not delivered. -/
def isDrop : Verdict → Bool
  | matched outcome => outcome != .delivered
  | suppressed | failed => false

end Verdict

namespace Summary

/-- How many verdicts there are of each kind. -/
def tally (verdicts : List Verdict) : Summary where
  matched := verdicts.countP Verdict.isMatch
  delivered := verdicts.count (.matched .delivered)
  suppressed := verdicts.count .suppressed
  failed := verdicts.count .failed
  dropped := verdicts.countP Verdict.isDrop

/-- Two counts taken together. -/
def plus (first second : Summary) : Summary where
  matched := first.matched + second.matched
  delivered := first.delivered + second.delivered
  suppressed := first.suppressed + second.suppressed
  failed := first.failed + second.failed
  dropped := first.dropped + second.dropped

theorem plus_assoc (first second third : Summary) :
    (first.plus second).plus third = first.plus (second.plus third) := by
  simp [plus, Nat.add_assoc]

theorem plus_tally_nil (summary : Summary) : summary.plus (tally []) = summary := by
  simp [plus, tally]

theorem tally_append (first second : List Verdict) :
    tally (first ++ second) = (tally first).plus (tally second) := by
  simp only [tally, plus, List.countP_append, List.count_append]

theorem tally_cons (verdict : Verdict) (rest : List Verdict) :
    tally (verdict :: rest) = (tally [verdict]).plus (tally rest) :=
  tally_append [verdict] rest

theorem foldl_tally (verdicts : List Verdict) (summary : Summary) :
    verdicts.foldl (fun summary verdict => summary.plus (tally [verdict])) summary =
      summary.plus (tally verdicts) := by
  induction verdicts generalizing summary with
  | nil => exact (plus_tally_nil summary).symm
  | cons verdict rest ih => rw [List.foldl_cons, ih, plus_assoc, ← tally_cons]

/-- How many there are of each kind does not hang on their order. -/
theorem tally_perm {first second : List Verdict} (h : first.Perm second) :
    tally first = tally second := by
  unfold tally
  simp only [h.countP_eq, h.count_eq]

end Summary

namespace Registry

/-- What becomes of a publication when an event is routed on a registry. -/
def verdict (registry : Registry) (mutation : Mutation) (entry : ConnectionId × Publication) :
    Verdict :=
  match entry.2.predicate.evaluate (entry.2.testedOn registry.config mutation) with
  | .ok true =>
    .matched (registry.deliver entry.2.session (mutation.deliveryTo registry.config entry.1)).1
  | .ok false => .suppressed
  | .error _ => .failed

/-- What becomes of the publications on the service of an event, each with its connection. -/
def verdicts (registry : Registry) (mutation : Mutation) : List (ConnectionId × Verdict) :=
  (registry.snapshot mutation.service).map (fun entry => (entry.1, registry.verdict mutation entry))

variable {first second registry : Registry} {connection : ConnectionId} {mutation : Mutation}

/-- To a connection, what becomes of its publication is the same if its sessions are. -/
theorem AgreeOn.verdict (h : first.AgreeOn connection second)
    {entry : ConnectionId × Publication} (hSession : entry.2.session.connection = connection)
    (mutation : Mutation) : first.verdict mutation entry = second.verdict mutation entry := by
  unfold Registry.verdict
  rw [h.config, deliver_fst, deliver_fst, h.sessions _ hSession]

theorem mem_verdicts {publication : Publication}
    (h : registry.publication? connection mutation.service = some publication) :
    (connection, registry.verdict mutation (connection, publication)) ∈
      registry.verdicts mutation :=
  List.mem_map.mpr ⟨(connection, publication), mem_snapshot_iff.mpr h, rfl⟩

end Registry

/-! ## The summary of a routing -/

namespace Server

variable {server : Server}

/-- A match counts as one, and as delivered or dropped by its outcome. -/
theorem Progress.summary_deliver (progress : Progress) (publication : Publication)
    (delivery : Delivery) :
    (progress.deliver publication delivery).summary = progress.summary.plus
      (.tally [.matched (progress.server.registry.deliver publication.session delivery).1]) := by
  unfold Progress.deliver
  -- only the outcome of the delivery counts
  generalize progress.server.registry.deliver publication.session delivery = handed
  obtain ⟨outcome, registry⟩ := handed
  cases outcome <;> rfl

/-- Testing a publication counts its verdict. -/
theorem Progress.summary_test (progress : Progress) (mutation : Mutation)
    (entry : ConnectionId × Publication) :
    (progress.test mutation
      (Views.of (progress.server.registry.config.serverFieldsFor mutation.service) mutation)
      entry).summary =
        progress.summary.plus (.tally [progress.server.registry.verdict mutation entry]) := by
  unfold Progress.test Registry.verdict
  rw [Views.tested_of]
  cases entry.2.predicate.evaluate
      (entry.2.testedOn progress.server.registry.config mutation) with
  | error error => rfl
  | ok answer =>
    cases answer with
    | true => exact progress.summary_deliver entry.2 _
    | false => rfl

/-- What testing publications of different connections adds up to, if what each of them adds hangs
on what its own connection can tell: each adds what it would add if it were the first. -/
theorem Progress.foldl_test_adds {α β : Type} (measure : Progress → α) (add : α → β → α)
    (part : Registry → ConnectionId × Publication → β) {mutation : Mutation}
    (hPart : ∀ {first second : Registry} {entry : ConnectionId × Publication},
      first.AgreeOn entry.1 second → entry.2.session.connection = entry.1 →
        part first entry = part second entry)
    (hTest : ∀ (progress : Progress) (entry : ConnectionId × Publication),
      measure (progress.test mutation
        (Views.of (progress.server.registry.config.serverFieldsFor mutation.service) mutation)
        entry) = add (measure progress) (part progress.server.registry entry))
    {publications : List (ConnectionId × Publication)}
    (hSessions : ∀ entry ∈ publications, entry.2.session.connection = entry.1)
    (hDistinct : publications.Pairwise (fun a b => a.1 ≠ b.1)) (progress : Progress) :
    measure (publications.foldl (Progress.test mutation
      (Views.of (progress.server.registry.config.serverFieldsFor mutation.service) mutation))
      progress) =
        (publications.map (part progress.server.registry)).foldl add (measure progress) := by
  induction publications generalizing progress with
  | nil => rfl
  | cons entry rest ih =>
    obtain ⟨hSession, hRest⟩ := List.forall_mem_cons.mp hSessions
    obtain ⟨hOthers, hDistinct⟩ := List.pairwise_cons.mp hDistinct
    have hTest := hTest progress entry
    generalize hViews : Views.of (progress.server.registry.config.serverFieldsFor mutation.service)
      mutation = views at hTest ⊢
    have hConfig : (progress.test mutation views entry).server.registry.config =
        progress.server.registry.config :=
      (progress.follows_conclude mutation views entry _).config
    -- the test does not show to the connections that are still to come
    have hSame : rest.map (part (progress.test mutation views entry).server.registry) =
        rest.map (part progress.server.registry) := by
      refine List.map_congr_left (fun later hLater => ?_)
      have hAgree := (progress.test_agreeOn mutation views hSession (hOthers later hLater)).server
      exact hPart hAgree (hRest later hLater)
    have hLater := ih hRest hDistinct (progress.test mutation views entry)
    rw [hConfig, hViews] at hLater
    rw [List.foldl_cons, hLater, hSame, hTest, List.map_cons, List.foldl_cons]

/-- Testing publications of different connections counts their verdicts as they were before. -/
theorem Progress.summary_foldl_test (progress : Progress) (mutation : Mutation)
    {publications : List (ConnectionId × Publication)}
    (hSessions : ∀ entry ∈ publications, entry.2.session.connection = entry.1)
    (hDistinct : publications.Pairwise (fun a b => a.1 ≠ b.1)) :
    (publications.foldl (Progress.test mutation
      (Views.of (progress.server.registry.config.serverFieldsFor mutation.service) mutation))
      progress).summary =
        progress.summary.plus
          (.tally (publications.map (progress.server.registry.verdict mutation))) := by
  have hAdds := Progress.foldl_test_adds Progress.summary
    (fun summary verdict => summary.plus (.tally [verdict]))
    (fun registry => registry.verdict mutation)
    (fun hAgree hSession => hAgree.verdict hSession mutation)
    (fun progress entry => progress.summary_test mutation entry) hSessions hDistinct progress
  rw [hAdds, Summary.foldl_tally]

/-- The connections of a snapshot are different ones, in whatever order it is taken. -/
theorem distinct_of_perm {service : String} {order : List (ConnectionId × Publication)}
    (hOrder : order.Perm (server.registry.snapshot service)) :
    order.Pairwise (fun a b => a.1 ≠ b.1) := by
  have hDistinct : (server.registry.snapshot service).Pairwise (fun a b => a.1 ≠ b.1) :=
    (server.registry.publicationsOn service).ascending.distinct
  exact (hOrder.pairwise_iff Ne.symm).mpr hDistinct

/-- The summary of a routing counts what becomes of the publications on the service, in whatever
order they are tested. -/
theorem summary_quietRouteOver (hSound : server.registry.Sound) (mutation : Mutation)
    {order : List (ConnectionId × Publication)}
    (hOrder : order.Perm (server.registry.snapshot mutation.service)) :
    (server.quietRouteOver order mutation).1 =
      .tally (order.map (server.registry.verdict mutation)) := by
  have hSessions : ∀ entry ∈ order, entry.2.session.connection = entry.1 :=
    fun entry hEntry => snapshot_session hSound (hOrder.mem_iff.mp hEntry)
  have hFold := Progress.summary_foldl_test { server } mutation hSessions
    (distinct_of_perm hOrder)
  unfold quietRouteOver
  dsimp only
  rw [Progress.finish_eq]
  refine hFold.trans ?_
  simp [Summary.plus]

/-- The summary of a routing counts what becomes of the publications on the service. -/
theorem summary_quietRoute (hSound : server.registry.Sound) (mutation : Mutation) :
    (server.quietRoute mutation).1 =
      .tally ((server.registry.verdicts mutation).map Prod.snd) := by
  have hSummary := summary_quietRouteOver hSound mutation (.refl _)
  unfold Registry.verdicts
  rw [List.map_map]
  exact hSummary

/-! ## The counters -/

theorem Progress.stats_conclude (mutation : Mutation) (views : Views)
    (entry : ConnectionId × Publication) (result : Except FilterError Bool) (progress : Progress) :
    (progress.conclude mutation views entry result).server.stats = progress.server.stats := by
  unfold Progress.conclude
  split
  · unfold Progress.deliver
    dsimp only
    split <;> rfl
  · rfl
  · rfl

theorem Progress.stats_foldl_test (mutation : Mutation) (views : Views)
    (publications : List (ConnectionId × Publication)) (progress : Progress) :
    (publications.foldl (Progress.test mutation views) progress).server.stats =
      progress.server.stats := by
  induction publications generalizing progress with
  | nil => rfl
  | cons entry rest ih => exact (ih _).trans (progress.stats_conclude mutation views entry _)

theorem stats_closeAll (server : Server) (connections : List ConnectionId) :
    (server.closeAll connections).stats = server.stats := by
  induction connections generalizing server with
  | nil => rfl
  | cons connection rest ih => exact ih (server.closeConnection connection).2

/-- A routing leaves the counters alone; it is the router that counts it. -/
theorem stats_quietRouteOver (server : Server) (publications : List (ConnectionId × Publication))
    (mutation : Mutation) :
    (server.quietRouteOver publications mutation).2.stats = server.stats := by
  unfold quietRouteOver
  dsimp only
  rw [Progress.finish_eq]
  dsimp only
  split
  · exact (stats_closeAll _ _).trans (Progress.stats_foldl_test _ _ _ _)
  · exact Progress.stats_foldl_test _ _ _ _

end Server

end Fanout
