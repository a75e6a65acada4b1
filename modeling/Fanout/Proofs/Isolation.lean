import Fanout.Proofs.Agreement
import Fanout.Proofs.Invariant

/-!
# Fanout — routing, one connection at a time

Where predicates do not act, a routing is a fold over the snapshot, and to any one
connection it is the routing of its own publication alone: what the predicates of
others answer, and what their sinks do, does not reach it.

## Main definitions

* `Server.quietRouteOver`, `Server.quietRoute` — route an event where predicates do not act.
* `Server.routeFor` — that routing over the publication of one connection.

## Results

* `Server.routeOver_of_pure` — such a routing has an outcome, whatever publishing would do.
* `Server.quietRouteOver_agreeOn` — to a connection, only its own publication matters, and when it
  is tested does not.
* `Server.AgreeOn.routeFor` — and of the event only what its publication is shown.
-/

namespace Fanout

open Server (Progress Views Publisher)

/-! ## Routing without acting predicates -/

namespace Server

/-- Test a publication whose predicate does not act. -/
def Progress.test (mutation : Mutation) (views : Views) (progress : Progress)
    (entry : ConnectionId × Publication) : Progress :=
  progress.conclude mutation views entry (entry.2.predicate.evaluate (views.tested entry.2))

/-- Route an event over publications whose predicates do not act. -/
def quietRouteOver (server : Server) (publications : List (ConnectionId × Publication))
    (mutation : Mutation) : Summary × Server :=
  let views := Views.of (server.registry.config.serverFieldsFor mutation.service) mutation
  (publications.foldl (Progress.test mutation views) { server }).finish

/-- Route an event over the publications on its service. -/
def quietRoute (server : Server) (mutation : Mutation) : Summary × Server :=
  server.quietRouteOver (server.registry.snapshot mutation.service) mutation

/-- Route an event over the publication of one connection. -/
def routeFor (server : Server) (connection : ConnectionId) (mutation : Mutation) : Server :=
  (server.quietRouteOver ((server.registry.snapshot mutation.service).filter
    (fun entry => entry.1 == connection)) mutation).2

theorem Progress.visit_of_pure (publish : Publisher) (mutation : Mutation) (views : Views)
    (progress : Progress) {entry : ConnectionId × Publication} (hPure : entry.2.predicate.Pure) :
    progress.visit publish mutation views entry = some (progress.test mutation views entry) := by
  rw [Progress.visit_eq, hPure]
  rfl

theorem Progress.foldlM_visit_of_pure (publish : Publisher) (mutation : Mutation) (views : Views)
    {publications : List (ConnectionId × Publication)}
    (hPure : ∀ entry ∈ publications, entry.2.predicate.Pure) (progress : Progress) :
    publications.foldlM (Progress.visit publish mutation views) progress =
      some (publications.foldl (Progress.test mutation views) progress) := by
  -- a visit whose predicate does not act always has an outcome
  induction publications generalizing progress with
  | nil => rfl
  | cons entry rest ih =>
    have hVisit := progress.visit_of_pure publish mutation views (hPure entry List.mem_cons_self)
    rw [List.foldlM_cons, hVisit]
    exact ih (fun later hLater => hPure later (List.mem_cons_of_mem _ hLater)) _

/-- Where predicates do not act, a routing has an outcome, and publishing plays no part in it. -/
theorem routeOver_of_pure (publish : Publisher) {publications : List (ConnectionId × Publication)}
    (hPure : ∀ entry ∈ publications, entry.2.predicate.Pure) (mutation : Mutation)
    (server : Server) :
    routeOver publish publications mutation server =
      some (server.quietRouteOver publications mutation) := by
  unfold routeOver quietRouteOver
  dsimp only
  rw [Progress.foldlM_visit_of_pure publish mutation _ hPure]
  rfl

/-! ## What a routing leaves as it was -/

theorem Progress.follows_foldl_test (mutation : Mutation) (views : Views)
    (publications : List (ConnectionId × Publication)) (progress : Progress) :
    progress.server.Follows
      (publications.foldl (Progress.test mutation views) progress).server := by
  induction publications generalizing progress with
  | nil => exact .refl _
  | cons entry rest ih => exact (progress.follows_conclude mutation views entry _).trans (ih _)

theorem follows_closeAll (server : Server) (connections : List ConnectionId) :
    server.Follows (server.closeAll connections) := by
  induction connections generalizing server with
  | nil => exact .refl _
  | cons connection rest ih => exact (server.follows_closeConnection connection).trans (ih _)

theorem follows_quietRouteOver (server : Server)
    (publications : List (ConnectionId × Publication)) (mutation : Mutation) :
    server.Follows (server.quietRouteOver publications mutation).2 := by
  have hFold := Progress.follows_foldl_test mutation
    (Views.of (server.registry.config.serverFieldsFor mutation.service) mutation) publications
    { server }
  unfold quietRouteOver
  dsimp only
  rw [Progress.finish_eq]
  dsimp only
  split
  · exact hFold.trans (follows_closeAll _ _)
  · exact hFold

end Server

/-! ## Routings that are the same to a connection -/

/-- Two servers that are the same to a connection. -/
abbrev Server.AgreeOn (connection : ConnectionId) (first second : Server) : Prop :=
  first.registry.AgreeOn connection second.registry

/-- Two routings under way that are the same to a connection. -/
structure Server.Progress.AgreeOn (connection : ConnectionId) (first second : Progress) :
    Prop where
  server : first.server.AgreeOn connection second.server
  gone : connection ∈ first.gone ↔ connection ∈ second.gone

namespace Server

variable {connection : ConnectionId} {first second third : Progress} {mutation event : Mutation}
  {views shown : Views} {entry : ConnectionId × Publication}

theorem Progress.AgreeOn.trans (hFirst : first.AgreeOn connection second)
    (hSecond : second.AgreeOn connection third) : first.AgreeOn connection third :=
  ⟨Registry.AgreeOn.trans hFirst.server hSecond.server, hFirst.gone.trans hSecond.gone⟩

/-- A match of another connection's publication. -/
theorem Progress.deliver_agreeOn (progress : Progress) {publication : Publication}
    {delivery : Delivery} (hSession : publication.session.connection ≠ connection)
    (hOther : delivery.connection ≠ connection) :
    (progress.deliver publication delivery).AgreeOn connection progress := by
  have hHanded := progress.server.registry.deliver_agreeOn delivery hSession
  unfold Progress.deliver
  dsimp only
  split
  · exact ⟨hHanded, Iff.rfl⟩
  · exact ⟨(Registry.emit_agreeOn _ _ hOther).trans hHanded, Iff.rfl⟩
  · -- the sink is gone, but it is another connection that is noted
    refine ⟨(Registry.emit_agreeOn _ _ hOther).trans hHanded, ?_⟩
    show connection ∈ progress.gone ++ [delivery.connection] ↔ _
    rw [List.mem_append, List.mem_singleton]
    exact or_iff_left (Ne.symm hOther)
  · exact ⟨hHanded, Iff.rfl⟩

/-- A match of the connection's own publication. -/
theorem Progress.AgreeOn.deliver (h : first.AgreeOn connection second) {publication : Publication}
    {delivery : Delivery} (hSession : publication.session.connection = connection)
    (hOwn : delivery.connection = connection) :
    (first.deliver publication delivery).AgreeOn connection
      (second.deliver publication delivery) := by
  -- the sink of the session is the same, so that it answers the same
  obtain ⟨hOutcome, hHanded⟩ := Registry.AgreeOn.deliver h.server hSession delivery
  subst hOwn
  unfold Progress.deliver
  dsimp only
  rw [hOutcome]
  split
  · exact ⟨hHanded, h.gone⟩
  · exact ⟨hHanded.emit _, h.gone⟩
  · refine ⟨hHanded.emit _, ?_⟩
    show delivery.connection ∈ first.gone ++ _ ↔ delivery.connection ∈ second.gone ++ _
    rw [List.mem_append, List.mem_append, h.gone]
  · exact ⟨hHanded, h.gone⟩

theorem Progress.test_agreeOn (progress : Progress) (mutation : Mutation) (views : Views)
    (hSession : entry.2.session.connection = entry.1) (hOther : entry.1 ≠ connection) :
    (progress.test mutation views entry).AgreeOn connection progress := by
  unfold Progress.test Progress.conclude
  split
  · exact progress.deliver_agreeOn (hSession ▸ hOther) hOther
  · exact ⟨.refl _ _, Iff.rfl⟩
  · exact ⟨Registry.emit_agreeOn _ _ hOther, Iff.rfl⟩

/-- Two events are the same to a publication: they are of one kind, and it is shown the same. -/
structure SameTo (publication : Publication) (mutation event : Mutation) (views shown : Views) :
    Prop where
  service : mutation.service = event.service
  operation : mutation.operation = event.operation
  tested : views.tested publication = shown.tested publication
  clientAfter : views.clientAfter = shown.clientAfter

theorem Progress.AgreeOn.test (h : first.AgreeOn connection second)
    (hSession : entry.2.session.connection = entry.1) (hOwn : entry.1 = connection)
    (hSame : SameTo entry.2 mutation event views shown) :
    (first.test mutation views entry).AgreeOn connection (second.test event shown entry) := by
  unfold Progress.test Progress.conclude
  rw [hSame.tested, hSame.service, hSame.operation, hSame.clientAfter]
  split
  · exact h.deliver (hSession.trans hOwn) hOwn
  · exact ⟨h.server, h.gone⟩
  · subst hOwn
    exact ⟨Registry.AgreeOn.emit h.server _, h.gone⟩

/-- Of all the publications tested, only those of the connection itself matter to it. -/
theorem Progress.AgreeOn.foldl_test (h : first.AgreeOn connection second)
    (mutation event : Mutation) (views shown : Views)
    (publications : List (ConnectionId × Publication))
    (hSessions : ∀ entry ∈ publications, entry.2.session.connection = entry.1)
    (hSame : ∀ entry ∈ publications, entry.1 = connection →
      SameTo entry.2 mutation event views shown) :
    (publications.foldl (Progress.test mutation views) first).AgreeOn connection
      ((publications.filter (fun entry => entry.1 == connection)).foldl
        (Progress.test event shown) second) := by
  -- by induction on the snapshot, passing over the others on one side
  induction publications generalizing first second with
  | nil => exact h
  | cons entry rest ih =>
    have hSession := hSessions entry List.mem_cons_self
    have hSessions := fun later hLater => hSessions later (List.mem_cons_of_mem entry hLater)
    have hSames := fun later hLater => hSame later (List.mem_cons_of_mem entry hLater)
    by_cases hOwn : entry.1 = connection
    · -- its own publication: it is tested on both sides
      rw [List.filter_cons_of_pos (by simpa using hOwn)]
      exact ih (h.test hSession hOwn (hSame entry List.mem_cons_self hOwn)) hSessions hSames
    · -- the publication of another connection: it is passed over on the other side
      rw [List.filter_cons_of_neg (by simpa using hOwn)]
      exact ih ((first.test_agreeOn mutation views hSession hOwn).trans h) hSessions hSames

/-! ## The end of a routing -/

/-- To a connection, a list of closings is its own closing, if it is among them. -/
theorem closeAll_agreeOn {server : Server} (hSound : server.registry.Sound)
    (connections : List ConnectionId) :
    (server.closeAll connections).AgreeOn connection
      (if connection ∈ connections then (server.closeConnection connection).2 else server) := by
  induction connections generalizing server with
  | nil => exact .refl _ _
  | cons closed rest ih =>
    have hRest := @ih (server.closeConnection closed).2 (hSound.closeConnection closed)
    refine Registry.AgreeOn.trans hRest ?_
    by_cases hOwn : connection = closed
    · subst hOwn
      -- a second closing finds the connection closed
      have hAgain : ((server.closeConnection connection).2.closeConnection connection).2 =
          (server.closeConnection connection).2 := by
        rw [closeConnection_of_not_live Registry.liveSession?_closeConnection]
      rw [hAgain, ite_self, if_pos List.mem_cons_self]
      exact .refl _ _
    · have hOther := Registry.closeConnection_agreeOn hSound (Ne.symm hOwn)
      have hMem : connection ∈ closed :: rest ↔ connection ∈ rest := by
        rw [List.mem_cons]
        exact or_iff_right hOwn
      -- the closing of another connection does not show, also if its own is still to come
      by_cases hRest : connection ∈ rest
      · rw [if_pos hRest, if_pos (hMem.mpr hRest)]
        exact (hOther.closeConnection (hSound.closeConnection closed)).2
      · rw [if_neg hRest, if_neg (fun h => hRest (hMem.mp h))]
        exact hOther

theorem Progress.AgreeOn.finish (h : first.AgreeOn connection second)
    (hFirst : first.server.registry.Sound) (hSecond : second.server.registry.Sound) :
    first.finish.2.AgreeOn connection second.finish.2 := by
  rw [Progress.finish_eq, Progress.finish_eq, h.server.config]
  dsimp only
  split
  · -- what counts on either side is whether the connection is among those to be closed
    refine Registry.AgreeOn.trans (closeAll_agreeOn hFirst first.gone)
      (Registry.AgreeOn.trans ?_ (closeAll_agreeOn hSecond second.gone).symm)
    by_cases hGone : connection ∈ first.gone
    · rw [if_pos hGone, if_pos (h.gone.mp hGone)]
      exact (h.server.closeConnection hFirst).2
    · rw [if_neg hGone, if_neg (fun hOther => hGone (h.gone.mpr hOther))]
      exact h.server
  · exact h.server

end Server

/-! ## Whole routings -/

/-- A connection has at most one publication on a service, so that the order of a snapshot does not
show to it. -/
theorem Registry.filter_of_perm {registry : Registry} {service : String}
    {order : List (ConnectionId × Publication)} (h : order.Perm (registry.snapshot service))
    (connection : ConnectionId) :
    order.filter (fun entry => entry.1 == connection) =
      (registry.snapshot service).filter (fun entry => entry.1 == connection) := by
  have hOwn := h.filter (fun entry => entry.1 == connection)
  unfold snapshot at hOwn ⊢
  rw [Table.filter_entries] at hOwn ⊢
  cases hHeld : (registry.publicationsOn service).get? connection with
  | none =>
    rw [hHeld] at hOwn
    exact hOwn.eq_nil
  | some publication =>
    rw [hHeld] at hOwn
    exact List.perm_singleton.mp hOwn

namespace Server

variable {server other : Server} {connection : ConnectionId} {mutation event : Mutation}

theorem snapshot_session (hSound : server.registry.Sound) {service : String}
    {entry : ConnectionId × Publication} (hEntry : entry ∈ server.registry.snapshot service) :
    entry.2.session.connection = entry.1 := by
  have hHeld := Registry.mem_snapshot_iff.mp hEntry
  exact (hSound.live_open (hSound.held hHeld).2.2).1

/-- To a connection, a routing is the routing of its own publication, in whatever order the
publications on the service are tested. -/
theorem quietRouteOver_agreeOn (connection : ConnectionId) (hSound : server.registry.Sound)
    (mutation : Mutation) {order : List (ConnectionId × Publication)}
    (hOrder : order.Perm (server.registry.snapshot mutation.service)) :
    (server.quietRouteOver order mutation).2.AgreeOn connection
      (server.routeFor connection mutation) := by
  -- the two routings start from the same server, with nobody to be closed
  have hStart : Progress.AgreeOn connection { server } { server } := ⟨.refl _ _, Iff.rfl⟩
  have hOwn := Registry.filter_of_perm hOrder connection
  unfold routeFor quietRouteOver
  rw [← hOwn]
  refine (hStart.foldl_test _ _ _ _ _ ?_ ?_).finish ?_ ?_
  · exact fun entry hEntry => snapshot_session hSound (hOrder.mem_iff.mp hEntry)
  · exact fun entry _ _ => ⟨rfl, rfl, rfl, rfl⟩
  · exact (Progress.follows_foldl_test _ _ _ _).sound hSound
  · exact (Progress.follows_foldl_test _ _ _ _).sound hSound

/-- To a connection, a routing is the routing of its own publication. -/
theorem quietRoute_agreeOn (connection : ConnectionId) (hSound : server.registry.Sound)
    (mutation : Mutation) :
    (server.quietRoute mutation).2.AgreeOn connection
      (server.routeFor connection mutation) :=
  quietRouteOver_agreeOn connection hSound mutation (.refl _)

/-- To a connection, its own publication is shown no more of an event than its views. -/
theorem AgreeOn.routeFor (h : server.AgreeOn connection other) (hServer : server.registry.Sound)
    (hOther : other.registry.Sound) (hService : mutation.service = event.service)
    (hSame : ∀ publication,
      server.registry.publication? connection mutation.service = some publication →
        SameTo publication mutation event
          (Views.of (server.registry.config.serverFieldsFor mutation.service) mutation)
          (Views.of (other.registry.config.serverFieldsFor event.service) event)) :
    (server.routeFor connection mutation).AgreeOn connection
      (other.routeFor connection event) := by
  have hStart : Progress.AgreeOn connection { server } { server := other } := ⟨h, Iff.rfl⟩
  -- the same publication is tested on both sides
  have hTested : (other.registry.snapshot event.service).filter
      (fun entry => entry.1 == connection) =
        (server.registry.snapshot mutation.service).filter
          (fun entry => entry.1 == connection) := by
    have hOwn := h.publications mutation.service
    unfold Registry.snapshot
    rw [Table.filter_entries, Table.filter_entries, ← hService]
    exact congrArg (fun found => Option.toList found |>.map _) hOwn.symm
  unfold Server.routeFor quietRouteOver
  rw [hTested]
  have hFold := hStart.foldl_test mutation event
    (Views.of (server.registry.config.serverFieldsFor mutation.service) mutation)
    (Views.of (other.registry.config.serverFieldsFor event.service) event)
    ((server.registry.snapshot mutation.service).filter (fun entry => entry.1 == connection)) ?_ ?_
  · -- to pick out the connection's publication a second time changes nothing
    rw [List.filter_filter] at hFold
    simp only [Bool.and_self] at hFold
    refine hFold.finish ?_ ?_
    · exact (Progress.follows_foldl_test _ _ _ _).sound hServer
    · exact (Progress.follows_foldl_test _ _ _ _).sound hOther
  · exact fun entry hEntry => snapshot_session hServer (List.mem_filter.mp hEntry).1
  · intro entry hEntry hOwn
    refine hSame entry.2 ?_
    rw [← hOwn]
    exact Registry.mem_snapshot_iff.mp (List.mem_filter.mp hEntry).1

/-- Routings of two events that are the same to the publication of a connection. -/
theorem AgreeOn.quietRoute (h : server.AgreeOn connection other)
    (hServer : server.registry.Sound) (hOther : other.registry.Sound)
    (hService : mutation.service = event.service)
    (hSame : ∀ publication,
      server.registry.publication? connection mutation.service = some publication →
        SameTo publication mutation event
          (Views.of (server.registry.config.serverFieldsFor mutation.service) mutation)
          (Views.of (other.registry.config.serverFieldsFor event.service) event)) :
    (server.quietRoute mutation).2.AgreeOn connection
      (other.quietRoute event).2 :=
  (quietRoute_agreeOn connection hServer mutation).trans
    ((h.routeFor hServer hOther hService hSame).trans
      (quietRoute_agreeOn connection hOther event).symm)

end Server

end Fanout
