import Fanout.Proofs.Deeds
import Fanout.Proofs.Adequacy

/-!
# Fanout — every session is released exactly once

A session may be closed by its client, by a predicate in the middle of a routing, or by
a routing that found its sink gone, and two routings under way, one within the other, may
both have found it gone. However that comes about, it is closed once and reported closed
once, and its publications go once. So the counts that a server shows are settled by what
was done so far: every deed keeps the accounts, whoever asked for it.

## Main definitions

* `Registry.SessionsAccounted` — the sessions of a registry are those that began, and open those
  that did not end.
* `Registry.PublicationsAccounted` — the publications of a registry are those that came and did
  not go.
* `Registry.ReleasedOnce` — what that settles of sessions, reports and counts.

## Results

* `Registry.Did.sessions`, `Registry.Did.reports`, `Registry.Did.publications` — every deed keeps
  the accounts.
* `Machine.Recorded.accounted` — the accounts hold at every point of a run.
* `Machine.Run.released_once` — so that all is released once, in every run.
-/

namespace Fanout

open scoped List

/-- The session and the number that a publication was added under. -/
def Publication.addition (publication : Publication) : SessionId × Nat :=
  (publication.session, publication.stamp)

namespace Registry

/-- The sessions of a registry are those that began, and those go on that did not end. -/
structure SessionsAccounted (registry : Registry) (begun ended : List SessionId) : Prop where
  begun_once : begun.Nodup
  ended_once : ended.Nodup
  begun_of_ended : ended ⊆ begun
  opened : ∀ id, registry.state? id = some .opened ↔ id ∈ begun ∧ id ∉ ended
  closed : ∀ id, registry.state? id = some .closed ↔ id ∈ ended
  count : registry.connectionCount + ended.length = begun.length

/-- The publications of a registry are those that came and did not go. -/
structure PublicationsAccounted (registry : Registry) (came went : List Publication) : Prop where
  /-- A session counts on with every publication that is added in it. -/
  numbered : ∀ publication ∈ came, publication.stamp < registry.additions publication.session
  came_once : (came.map Publication.addition).Nodup
  conserved : came.Perm (went ++ registry.publications)

/-- What was done so far accounts for a registry and for what it reported. -/
structure Accounted (registry : Registry) (deeds : List Deed) : Prop where
  sessions : registry.SessionsAccounted (deeds.filterMap Deed.begun?)
    (deeds.filterMap Deed.ended?)
  reports : registry.hub.closures = deeds.filterMap Deed.report?
  publications : registry.PublicationsAccounted (deeds.filterMap Deed.arrived?)
    (deeds.flatMap Deed.departed)
  /-- What goes with a session was added in it. -/
  released_own : ∀ id released, Deed.closed id released ∈ deeds →
    ∀ publication ∈ released, publication.session = id

/-! ## Sessions -/

namespace SessionsAccounted

theorem new (config : Config) : (Registry.new config).SessionsAccounted [] [] where
  begun_once := .nil
  ended_once := .nil
  begun_of_ended := List.nil_subset _
  opened id := by
    show (none : Option SessionState) = _ ↔ _
    simp
  closed id := by
    show (none : Option SessionState) = _ ↔ _
    simp
  count := rfl

variable {before after : Registry} {begun ended : List SessionId} {connection : ConnectionId}

/-- No session begins or ends. -/
theorem of_same (hBefore : before.SessionsAccounted begun ended)
    (hLive : after.live = before.live) (hStates : ∀ id, after.state? id = before.state? id) :
    after.SessionsAccounted begun ended where
  begun_once := hBefore.begun_once
  ended_once := hBefore.ended_once
  begun_of_ended := hBefore.begun_of_ended
  opened id := by rw [hStates, hBefore.opened]
  closed id := by rw [hStates, hBefore.closed]
  count := by
    unfold connectionCount
    rw [hLive]
    exact hBefore.count

theorem openConnection (hBefore : before.SessionsAccounted begun ended) (hSound : before.Sound)
    {sink : Sink} {id : SessionId} (h : before.openConnection connection sink = (.ok id, after)) :
    after.SessionsAccounted (begun ++ [id]) ended := by
  obtain ⟨hClosed, hId, hAfter⟩ := openConnection_ok h
  have hStates : ∀ known, after.state? known =
      if known = id then some .opened else before.state? known := by
    intro known
    rw [hAfter, state?_of_insert before rfl]
  -- nothing was ever heard of the session
  have hFresh : before.state? id = none := by
    unfold state?
    rw [hId, hSound.fresh connection]
    rfl
  have hNotEnded : id ∉ ended := by
    rw [← hBefore.closed, hFresh]
    simp
  -- had it begun, it would go on
  have hNotBegun : id ∉ begun := by
    intro hBegun
    have hOpened := (hBefore.opened id).mpr ⟨hBegun, hNotEnded⟩
    rw [hFresh] at hOpened
    cases hOpened
  constructor
  case begun_once =>
    exact hBefore.begun_once.append (List.nodup_singleton id) (by simpa using hNotBegun)
  case ended_once => exact hBefore.ended_once
  case begun_of_ended => exact List.subset_append_of_subset_left _ hBefore.begun_of_ended
  case opened =>
    intro known
    rw [hStates, List.mem_append, List.mem_singleton]
    by_cases hKnown : known = id
    · simp [hKnown, hNotEnded]
    · simp [hKnown, hBefore.opened]
  case closed =>
    intro known
    rw [hStates]
    by_cases hKnown : known = id
    · simp [hKnown, hNotEnded]
    · simp [hKnown, hBefore.closed]
  case count =>
    have hCount : after.connectionCount = before.connectionCount + 1 := by
      rw [hAfter]
      exact Table.size_insert_of_none id hClosed
    rw [hCount, List.length_append, List.length_singleton, ← hBefore.count]
    omega

theorem closeConnection (hBefore : before.SessionsAccounted begun ended) {id : SessionId}
    {session : Session} (h : before.liveSession? connection = some (id, session)) :
    (before.closeConnection connection).2.SessionsAccounted begun (ended ++ [id]) := by
  obtain ⟨hLive, hSession, hOpened⟩ := liveSession?_eq_some_iff.mp h
  -- the session goes on until now, so that it did not end before
  have hState : before.state? id = some .opened := by rw [state?_of_get? hSession, hOpened]
  obtain ⟨hBegun, hNotEnded⟩ := (hBefore.opened id).mp hState
  have hStates : ∀ known, (before.closeConnection connection).2.state? known =
      if known = id then some .closed else before.state? known := by
    intro known
    rw [closeConnection_of_live h, state?_of_insert before rfl]
  constructor
  case begun_once => exact hBefore.begun_once
  case ended_once =>
    exact hBefore.ended_once.append (List.nodup_singleton id) (by simpa using hNotEnded)
  case begun_of_ended =>
    exact List.append_subset.mpr ⟨hBefore.begun_of_ended, by simpa using hBegun⟩
  case opened =>
    intro known
    rw [hStates, List.mem_append, List.mem_singleton]
    by_cases hKnown : known = id
    · simp [hKnown]
    · simp [hKnown, hBefore.opened]
  case closed =>
    intro known
    rw [hStates, List.mem_append, List.mem_singleton]
    by_cases hKnown : known = id
    · simp [hKnown]
    · simp [hKnown, hBefore.closed]
  case count =>
    have hCount : (before.closeConnection connection).2.connectionCount + 1 =
        before.connectionCount := by
      rw [closeConnection_of_live h]
      exact Table.size_erase_of_some hLive
    rw [List.length_append, List.length_singleton, ← hBefore.count, ← hCount]
    omega

end SessionsAccounted

/-! ## Publications -/

namespace PublicationsAccounted

theorem new (config : Config) : (Registry.new config).PublicationsAccounted [] [] where
  numbered publication h := by cases h
  came_once := .nil
  conserved := .nil

variable {before after : Registry} {came went : List Publication}

/-- Publications go, and none comes. -/
theorem departed (hBefore : before.PublicationsAccounted came went) {gone : List Publication}
    (hGrows : ∀ id, before.additions id ≤ after.additions id)
    (hMoved : before.publications.Perm (gone ++ after.publications)) :
    after.PublicationsAccounted came (went ++ gone) where
  numbered publication h := (hBefore.numbered publication h).trans_le (hGrows _)
  came_once := hBefore.came_once
  conserved := by
    rw [List.append_assoc]
    exact hBefore.conserved.trans (hMoved.append_left went)

/-- A publication is added, and maybe takes the place of an earlier one. -/
theorem arrived (hBefore : before.PublicationsAccounted came went) {publication : Publication}
    {gone : List Publication} (hNumbers : before.Numbers [.added publication] after)
    (hMoved : (publication :: before.publications).Perm (gone ++ after.publications)) :
    after.PublicationsAccounted (came ++ [publication]) (went ++ gone) := by
  obtain ⟨hFrom, hBelow⟩ := hNumbers.numbered publication (List.mem_singleton.mpr rfl)
  constructor
  case numbered =>
    intro other hOther
    rcases List.mem_append.mp hOther with hEarlier | hNow
    · exact (hBefore.numbered other hEarlier).trans_le (hNumbers.grows _)
    · rw [List.mem_singleton.mp hNow]
      exact hBelow
  case came_once =>
    -- the numbers of the session have gone past those given out before
    have hFresh : publication.addition ∉ came.map Publication.addition := by
      intro hMem
      obtain ⟨other, hOther, hSame⟩ := List.mem_map.mp hMem
      obtain ⟨hSession, hStamp⟩ := Prod.mk.inj hSame
      have hEarlier := hBefore.numbered other hOther
      rw [hSession, hStamp] at hEarlier
      exact absurd hFrom (Nat.not_le.mpr hEarlier)
    rw [List.map_append]
    exact hBefore.came_once.append (List.nodup_singleton _) (by simpa using hFresh)
  case conserved =>
    calc came ++ [publication]
      _ ~ publication :: came := List.perm_append_singleton publication came
      _ ~ publication :: (went ++ before.publications) := hBefore.conserved.cons publication
      _ ~ went ++ publication :: before.publications := List.perm_middle.symm
      _ ~ went ++ (gone ++ after.publications) := hMoved.append_left went
      _ = (went ++ gone) ++ after.publications := (List.append_assoc _ _ _).symm

end PublicationsAccounted

/-! ## Deeds -/

namespace Did

variable {before after : Registry} {events : List Event} {deeds : List Deed}

theorem sessions (hDid : before.Did events deeds after) (hSound : before.Sound)
    {begun ended : List SessionId} (hBefore : before.SessionsAccounted begun ended) :
    after.SessionsAccounted (begun ++ deeds.filterMap Deed.begun?)
      (ended ++ deeds.filterMap Deed.ended?) := by
  cases hDid with
  | kept h hEvents =>
    rw [List.filterMap_nil, List.filterMap_nil, List.append_nil, List.append_nil]
    exact hBefore.of_same h.live h.states
  | @opened connection sink id _ h =>
    show after.SessionsAccounted (begun ++ [id]) (ended ++ [])
    rw [List.append_nil]
    exact hBefore.openConnection hSound h
  | @closed connection id session h =>
    show (before.closeConnection connection).2.SessionsAccounted (begun ++ []) (ended ++ [id])
    rw [List.append_nil]
    exact hBefore.closeConnection h
  | stored h =>
    -- the session counts the addition, and goes on
    obtain ⟨id, session, predicate, hLive, -, -, rfl⟩ := addPublication_ok h
    have hSession := (liveSession?_eq_some_iff.mp hLive).2.1
    show SessionsAccounted _ (begun ++ []) (ended ++ [])
    rw [List.append_nil, List.append_nil]
    exact hBefore.of_same rfl (state?_of_replace rfl hSession rfl)
  | removed h =>
    obtain ⟨-, -, rfl⟩ := removePublication_ok h
    show SessionsAccounted _ (begun ++ []) (ended ++ [])
    rw [List.append_nil, List.append_nil]
    exact hBefore.of_same rfl (fun _ => rfl)

/-- A closing is reported as it is done, and at no other time. -/
theorem reports (hDid : before.Did events deeds after) (hSound : before.Sound) :
    after.hub.closures = before.hub.closures ++ deeds.filterMap Deed.report? := by
  cases hDid with
  | kept h hEvents => rw [h.closures, List.filterMap_nil, List.append_nil]
  | opened h =>
    obtain ⟨-, -, rfl⟩ := openConnection_ok h
    exact (List.append_nil _).symm
  | @closed connection id session h =>
    have hOwn := (hSound.live_open (liveSession?_eq_some_iff.mp h).1).1
    rw [closeConnection_of_live h]
    refine (Hub.closures_emit _ _).trans ?_
    -- the services reported are those of the publications that go
    show before.hub.closures ++ [(some connection, .connectionClosed connection
      (before.servicesFor connection))] = _
    rw [← hSound.services_publicationsOf, ← hOwn]
    rfl
  | stored h =>
    obtain ⟨id, session, predicate, -, -, -, rfl⟩ := addPublication_ok h
    exact Hub.closures_emit _ _
  | removed h =>
    obtain ⟨-, -, rfl⟩ := removePublication_ok h
    exact Hub.closures_emit _ _

theorem publications (hDid : before.Did events deeds after) (hBefore : before.Sound)
    (hAfter : after.Sound) {came went : List Publication}
    (hAccounted : before.PublicationsAccounted came went) :
    after.PublicationsAccounted (came ++ deeds.filterMap Deed.arrived?)
      (went ++ deeds.flatMap Deed.departed) := by
  have hMoved := hDid.conserves hBefore hAfter
  -- but for an addition, nothing comes
  have hNone : deeds.filterMap Deed.arrived? = [] →
      (∀ id, before.additions id ≤ after.additions id) →
      after.PublicationsAccounted (came ++ deeds.filterMap Deed.arrived?)
        (went ++ deeds.flatMap Deed.departed) := by
    intro hArrived hGrows
    rw [hArrived] at hMoved ⊢
    rw [List.append_nil]
    exact hAccounted.departed hGrows hMoved
  cases hDid with
  | kept h hEvents => exact hNone rfl (fun id => (h.additions id).ge)
  | opened h => exact hNone rfl (Numbers.openConnection hBefore h).grows
  | closed h => exact hNone rfl (Numbers.closeConnection h).grows
  | stored h => exact hAccounted.arrived (.addPublication h) hMoved
  | removed h =>
    obtain ⟨-, -, rfl⟩ := removePublication_ok h
    exact hNone rfl (fun _ => le_rfl)

theorem released_own (hDid : before.Did events deeds after) (hSound : before.Sound) {id : SessionId}
    {released : List Publication} (h : Deed.closed id released ∈ deeds) :
    ∀ publication ∈ released, publication.session = id := by
  intro publication hPublication
  cases hDid with
  | closed hLive =>
    cases List.mem_singleton.mp h
    obtain ⟨rfl, hHeld⟩ := hSound.mem_publicationsOf_iff.mp hPublication
    -- the connection is in one session, and that is the one its publications belong to
    have hOwn := (hSound.held hHeld).2.2
    rw [(liveSession?_eq_some_iff.mp hLive).1] at hOwn
    exact (Option.some.inj hOwn).symm
  | opened | stored | removed => cases List.mem_singleton.mp h
  | kept => cases h

end Did

namespace Accounted

theorem new (config : Config) : (Registry.new config).Accounted [] where
  sessions := .new config
  reports := rfl
  publications := .new config
  released_own id released h := by cases h

/-- Every deed keeps the accounts. -/
theorem did {before after : Registry} {events : List Event} {deeds new : List Deed}
    (hAccounted : before.Accounted deeds) (hDid : before.Did events new after)
    (hBefore : before.Sound) (hAfter : after.Sound) :
    after.Accounted (deeds ++ new) where
  sessions := by
    rw [List.filterMap_append, List.filterMap_append]
    exact hDid.sessions hBefore hAccounted.sessions
  reports := by
    rw [List.filterMap_append, hDid.reports hBefore, hAccounted.reports]
  publications := by
    rw [List.filterMap_append, List.flatMap_append]
    exact hDid.publications hBefore hAfter hAccounted.publications
  released_own id released h := by
    rcases List.mem_append.mp h with hEarlier | hNow
    · exact hAccounted.released_own id released hEarlier
    · exact hDid.released_own hBefore hNow

end Accounted

end Registry

/-- The accounts hold at every point of a run, also in the middle of a routing. -/
theorem Machine.Recorded.accounted {filters : FilterModule} {config : Config}
    {commands : List Command} {events : List Event} {deeds : List Deed} {machine : Machine}
    (hRecorded : Recorded ⟨Server.new filters config, []⟩ commands events deeds machine) :
    machine.server.registry.Accounted deeds := by
  have hSound : (Server.new filters config).registry.Sound := .new config
  -- by induction on the record; the registry is sound before and after each step
  induction hRecorded with
  | start => exact .new config
  | issue hRecorded hIssue hDid ih =>
    exact ih.did hDid (hRecorded.sound hSound) ((hRecorded.issue hIssue hDid).sound hSound)
  | step hRecorded hStep hDid ih =>
    exact ih.did hDid (hRecorded.sound hSound) ((hRecorded.step hStep hDid).sound hSound)

/-! ## What follows for counts -/

/-- The services that a diagnostic names as released. -/
def Diagnostic.released : Diagnostic → List String
  | .connectionClosed _ services => services
  | .addPublication _ _ _ _ _ | .removePublication _ _ | .predicateError _ _ _ _
  | .deliveryDropped _ _ _ => []

/-- All services that were reported as released, closing by closing. -/
def Hub.released (hub : Hub) : List String :=
  hub.closures.flatMap (fun entry => entry.2.released)

namespace Deed

/-- The reports name the services of the publications that went with their sessions. -/
theorem released_reports (deeds : List Deed) :
    (deeds.filterMap report?).flatMap (fun entry => entry.2.released) =
      (deeds.flatMap released).map Publication.service := by
  induction deeds with
  | nil => rfl
  | cons deed rest ih =>
    -- but for a closing, nothing is reported and nothing goes with a session
    rw [List.flatMap_cons, List.map_append, ← ih]
    cases deed <;> rfl

/-- There is one report for each session that ended. -/
theorem length_reports (deeds : List Deed) :
    (deeds.filterMap report?).length = (deeds.filterMap ended?).length := by
  induction deeds with
  | nil => rfl
  | cons deed rest ih =>
    cases deed with
    | closed => exact congrArg (· + 1) ih
    | opened | stored | removed => exact ih

theorem length_departed (deeds : List Deed) :
    (deeds.flatMap departed).length = (deeds.filterMap replaced?).length +
      (deeds.filterMap removed?).length + (deeds.flatMap released).length := by
  induction deeds with
  | nil => rfl
  | cons deed rest ih =>
    have hFilterMap : ∀ f : Deed → Option Publication,
        ((deed :: rest).filterMap f).length =
          (f deed).toList.length + (rest.filterMap f).length := by
      intro f
      cases h : f deed with
      | none => simp [h]
      | some publication => simp [h, Nat.add_comm]
    rw [hFilterMap, hFilterMap, List.flatMap_cons, List.flatMap_cons, List.length_append,
      List.length_append, ih]
    unfold departed
    rw [List.length_append, List.length_append]
    omega

end Deed

namespace Registry

/-- What was done so far settles sessions, reports and counts, as each session is released once. -/
structure ReleasedOnce (registry : Registry) (deeds : List Deed) : Prop where
  /-- A session is opened at most once, and closed at most once. -/
  begun_once : (deeds.filterMap Deed.begun?).Nodup
  ended_once : (deeds.filterMap Deed.ended?).Nodup
  /-- It goes on from when it was opened until it is closed, and is closed from then on. -/
  opened : ∀ id, registry.state? id = some .opened ↔
    id ∈ deeds.filterMap Deed.begun? ∧ id ∉ deeds.filterMap Deed.ended?
  closed : ∀ id, registry.state? id = some .closed ↔
    id ∈ deeds.filterMap Deed.begun? ∧ id ∈ deeds.filterMap Deed.ended?
  /-- Each closing is reported once, with the services released, and nothing else is reported as
  one. -/
  reported : registry.hub.closures = deeds.filterMap Deed.report?
  connections : registry.connectionCount + registry.hub.closures.length =
    (deeds.filterMap Deed.begun?).length
  /-- What was added is there or went, and not both. -/
  arrived_once : ((deeds.filterMap Deed.arrived?).map Publication.addition).Nodup
  departed_once : ((deeds.flatMap Deed.departed).map Publication.addition).Nodup
  arrived : ∀ publication, publication ∈ deeds.filterMap Deed.arrived? ↔
    publication ∈ deeds.flatMap Deed.departed ∨ registry.Holds publication
  departed : ∀ publication ∈ deeds.flatMap Deed.departed, ¬registry.Holds publication
  /-- What goes with a session was added in it. -/
  released_own : ∀ id released, Deed.closed id released ∈ deeds →
    ∀ publication ∈ released, publication.session = id
  publications : registry.publicationCount + (deeds.filterMap Deed.replaced?).length +
      (deeds.filterMap Deed.removed?).length + registry.hub.released.length =
    (deeds.filterMap Deed.arrived?).length

theorem Accounted.releasedOnce {registry : Registry} {deeds : List Deed}
    (hAccounted : registry.Accounted deeds) (hSound : registry.Sound) :
    registry.ReleasedOnce deeds := by
  obtain ⟨hSessions, hReports, hPublications, hOwn⟩ := hAccounted
  have hPerm := hPublications.conserved
  -- different additions give different publications, so that none both went and is there
  have hApart : (deeds.flatMap Deed.departed ++ registry.publications).Nodup :=
    hPerm.nodup_iff.mp (List.Nodup.of_map _ hPublications.came_once)
  constructor
  case begun_once => exact hSessions.begun_once
  case ended_once => exact hSessions.ended_once
  case opened => exact hSessions.opened
  case closed =>
    intro id
    rw [hSessions.closed]
    exact ⟨fun h => ⟨hSessions.begun_of_ended h, h⟩, fun h => h.2⟩
  case reported => exact hReports
  case connections =>
    rw [hReports, Deed.length_reports]
    exact hSessions.count
  case arrived_once => exact hPublications.came_once
  case departed_once =>
    have hAll := (hPerm.map Publication.addition).nodup_iff.mp hPublications.came_once
    rw [List.map_append] at hAll
    exact hAll.of_append_left
  case arrived =>
    intro publication
    rw [hPerm.mem_iff, List.mem_append, hSound.mem_publications_iff]
  case departed =>
    intro publication hGone hHeld
    exact List.disjoint_of_nodup_append hApart hGone (hSound.mem_publications_iff.mpr hHeld)
  case released_own => exact hOwn
  case publications =>
    -- the lengths of both sides of the conservation law
    have hLength := hPerm.length_eq
    rw [List.length_append, length_publications, Deed.length_departed] at hLength
    unfold Hub.released
    rw [hReports, Deed.released_reports, List.length_map]
    omega

end Registry

namespace Machine

/-- Every session is released exactly once. Every run of commands is a run of the machine, and every
run of the machine, whatever order its routings take the publications in, has a record of the
operations that succeeded, whoever asked for them: a client, a predicate, or a routing that found a
sink gone. It has the openings, closings and additions of the
run, one for one and in order. At every point of a run, also in the middle of a routing: no session
was opened or closed twice; the closings reported are those done, one for one and in order; the open
connections are as many as were opened less those that were closed; and every publication that was
added is there or went, once, by being replaced, removed, or released with its session under the
name of its service. -/
theorem Run.released_once (filters : FilterModule) (config : Config) :
    (∀ depth commands steps last,
      (Server.new filters config).run depth commands = some (steps, last) →
      ∃ events, Run ⟨Server.new filters config, []⟩ commands events ⟨last, []⟩) ∧
    (∀ commands events machine, Run ⟨Server.new filters config, []⟩ commands events machine →
      ∃ deeds, Recorded ⟨Server.new filters config, []⟩ commands events deeds machine) ∧
    (∀ commands events deeds machine,
      Recorded ⟨Server.new filters config, []⟩ commands events deeds machine →
      deeds.filterMap Deed.begun? = events.filterMap Event.begun? ∧
      deeds.filterMap Deed.ended? = events.filterMap Event.ended? ∧
      deeds.filterMap Deed.arrived? = events.filterMap Event.arrived? ∧
      machine.server.registry.ReleasedOnce deeds) := by
  refine ⟨fun depth commands steps last h => Server.run_run h,
    fun commands events machine hRun => hRun.recorded, ?_⟩
  intro commands events deeds machine hRecorded
  obtain ⟨hBegun, hEnded, hArrived⟩ := hRecorded.agrees
  exact ⟨hBegun, hEnded, hArrived,
    hRecorded.accounted.releasedOnce (hRecorded.sound (.new config))⟩

end Machine

/-- It publishes a note before it accepts a record. -/
def Predicate.relaying : Predicate :=
  ⟨fun _ => .act (.publish ⟨"notes", .created, none, .null⟩) (fun _ => .answer (.ok true))⟩

/-- The module with a filter that relays, and one that accepts everything. -/
def FilterModule.relaying : FilterModule :=
  (FilterModule.empty.filter "relay" (fun _ => .ok .relaying)).filter "all" Builtin.all

/-- A connection whose sink is gone is on two services, and an order is relayed as a note. -/
def Command.relaying : List Command :=
  [.request (.openConnection ⟨1⟩ (Sink.scripted [.disconnected] 0)),
    .request (.openConnection ⟨2⟩ (Sink.ofCapacity 1)),
    .request (.addPublication ⟨1⟩ "orders" { name := "all" }),
    .request (.addPublication ⟨1⟩ "notes" { name := "all" }),
    .request (.addPublication ⟨2⟩ "orders" { name := "relay" }),
    .inbound (.mutation ⟨"orders", .created, none, .null⟩)]

/-- The routing of the order and that of the note both find the sink gone, and the connection is
closed once. -/
theorem Machine.Run.released_once_relaying :
    ∃ steps last events deeds,
      (Server.new .relaying {}).run 2 Command.relaying = some (steps, last) ∧
      Recorded ⟨Server.new .relaying {}, []⟩ Command.relaying events deeds ⟨last, []⟩ ∧
      (last.registry.log ⟨⟨1⟩, 0⟩).map Prod.snd = [.disconnected, .disconnected] ∧
      last.registry.hub.closures = [(some ⟨1⟩, .connectionClosed ⟨1⟩ ["notes", "orders"])] ∧
      last.registry.connectionCount = 1 ∧ (events.filterMap Event.begun?).length = 2 ∧
      last.registry.publicationCount = 1 ∧ 3 ≤ (events.filterMap Event.arrived?).length := by
  have hEnd : ((Server.new .relaying {}).run 2 Command.relaying).map (fun run =>
      ((run.2.registry.log ⟨⟨1⟩, 0⟩).map Prod.snd, run.2.registry.hub.closures,
        run.2.registry.connectionCount, run.2.registry.publicationCount)) =
      some ([.disconnected, .disconnected],
        [(some ⟨1⟩, .connectionClosed ⟨1⟩ ["notes", "orders"])], 1, 1) := rfl
  obtain ⟨⟨steps, last⟩, hRun, hLast⟩ := Option.map_eq_some_iff.mp hEnd
  obtain ⟨hLog, hClosures, hConnections, hPublications⟩ :
      (last.registry.log ⟨⟨1⟩, 0⟩).map Prod.snd = [.disconnected, .disconnected] ∧
      last.registry.hub.closures = [(some ⟨1⟩, .connectionClosed ⟨1⟩ ["notes", "orders"])] ∧
      last.registry.connectionCount = 1 ∧ last.registry.publicationCount = 1 := by
    simpa only [Prod.mk.injEq] using hLast
  have hServices : last.registry.hub.released.length = 2 := by
    unfold Hub.released
    rw [hClosures]
    rfl
  obtain ⟨hMachine, hRecords, hReleased⟩ := Machine.Run.released_once .relaying {}
  obtain ⟨events, hEvents⟩ := hMachine _ _ _ _ hRun
  obtain ⟨deeds, hRecorded⟩ := hRecords _ _ _ hEvents
  obtain ⟨hOpenings, -, hAdditions, hOnce⟩ := hReleased _ _ _ _ hRecorded
  -- the counts tell how many were opened and added
  have hBegun := hOnce.connections
  have hArrived := hOnce.publications
  dsimp only at hBegun hArrived
  rw [hClosures, hConnections, hOpenings] at hBegun
  rw [hServices, hPublications, hAdditions] at hArrived
  refine ⟨steps, last, events, deeds, hRun, hRecorded, hLog, hClosures, hConnections, hBegun.symm,
    hPublications, ?_⟩
  omega

end Fanout
