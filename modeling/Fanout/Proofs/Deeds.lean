import Fanout.Proofs.Agreement
import Fanout.Proofs.Ledger
import Fanout.Proofs.Stamps

/-!
# Fanout — what becomes of sessions and publications

A session begins and ends, a publication comes in and goes out. The events of a run do
not tell what a publication gives way to, nor which publications go with a session.
`Deed` names the four things that can be done to them with all that goes, and
`Registry.Did` says which one was done between two registries, in terms of the operation
that succeeded. Closing a connection is one deed, whoever asked for it: a client, a
predicate in the middle of a routing, or a routing that found the sink gone.

## Main definitions

* `Deed` — one thing done to sessions or publications.
* `Registry.Did` — what was done between two registries.
* `Machine.Recorded` — a run, with all that was done on the way.

## Results

* `Registry.Did.conserves` — no deed makes or loses a publication unnoticed.
* `Machine.Run.recorded` — every run has its record.
* `Machine.Recorded.agrees` — and it tells of the same sessions and additions as the events.
-/

namespace Fanout

open Server (Progress Views)
open scoped List

/-! ## Deeds -/

/-- One thing done to sessions or publications. -/
inductive Deed where
  | opened (id : SessionId)
  /-- A session ended, and its publications with it. -/
  | closed (id : SessionId) (released : List Publication)
  /-- A publication was stored, maybe in the place of an earlier one. -/
  | stored (publication : Publication) (replaced : Option Publication)
  | removed (publication : Publication)

namespace Deed

/-- The session that begins. -/
def begun? : Deed → Option SessionId
  | opened id => some id
  | closed _ _ | stored _ _ | removed _ => none

/-- The session that ends. -/
def ended? : Deed → Option SessionId
  | closed id _ => some id
  | opened _ | stored _ _ | removed _ => none

/-- The publication that comes in. -/
def arrived? : Deed → Option Publication
  | stored publication _ => some publication
  | opened _ | closed _ _ | removed _ => none

/-- The publication that goes because another one takes its place. -/
def replaced? : Deed → Option Publication
  | stored _ replaced => replaced
  | opened _ | closed _ _ | removed _ => none

/-- The publication that is removed. -/
def removed? : Deed → Option Publication
  | removed publication => some publication
  | opened _ | closed _ _ | stored _ _ => none

/-- The publications that go with their session. -/
def released : Deed → List Publication
  | closed _ released => released
  | opened _ | stored _ _ | removed _ => []

/-- The publications that go. -/
def departed (deed : Deed) : List Publication :=
  deed.replaced?.toList ++ deed.removed?.toList ++ deed.released

@[simp] theorem departed_stored (publication : Publication) (replaced : Option Publication) :
    (stored publication replaced).departed = replaced.toList :=
  (List.append_nil _).trans (List.append_nil _)

/-- What is reported to have been closed, by the connection of the session. -/
def report? : Deed → Option (Option ConnectionId × Diagnostic)
  | closed id released =>
    some (id.connection, .connectionClosed id.connection (released.map Publication.service))
  | opened _ | stored _ _ | removed _ => none

end Deed

namespace Event

/-- The session that begins. -/
def begun? : Event → Option SessionId
  | opened id _ => some id
  | closed _ | added _ | handed _ _ _ | missed _ _ => none

/-- The session that ends. -/
def ended? : Event → Option SessionId
  | closed id => some id
  | opened _ _ | added _ | handed _ _ _ | missed _ _ => none

/-- The publication that comes in. -/
def arrived? : Event → Option Publication
  | added publication => some publication
  | opened _ _ | closed _ | handed _ _ _ | missed _ _ => none

/-- The event is about a delivery: no session begins or ends, and no publication comes in. -/
def Passing (event : Event) : Prop :=
  event.begun? = none ∧ event.ended? = none ∧ event.arrived? = none

end Event

/-- Whether a diagnostic reports that a connection was closed. -/
def Diagnostic.isClosure : Diagnostic → Bool
  | .connectionClosed _ _ => true
  | .addPublication _ _ _ _ _ | .removePublication _ _ | .predicateError _ _ _ _
  | .deliveryDropped _ _ _ => false

/-- The reports of closed connections among all that was ever reported, in order. -/
def Hub.closures (hub : Hub) : List (Option ConnectionId × Diagnostic) :=
  (hub.history.filter (fun entry => entry.2.isClosure)).reverse

namespace Registry

/-- A publication stands in its place in the registry. -/
def Holds (registry : Registry) (publication : Publication) : Prop :=
  registry.publication? publication.connection publication.service = some publication

/-- All publications. -/
def publications (registry : Registry) : List Publication :=
  registry.services.values.flatMap (fun publications => publications.entries.map Prod.snd)

/-- The publications of a connection, in the order of their services. -/
def publicationsOf (registry : Registry) (connection : ConnectionId) : List Publication :=
  (registry.servicesFor connection).filterMap (registry.publication? connection)

/-- Nothing is done to sessions and publications. -/
structure Kept (before after : Registry) : Prop where
  live : after.live = before.live
  states : ∀ id, after.state? id = before.state? id
  additions : ∀ id, after.additions id = before.additions id
  publications : ∀ connection service,
    after.publication? connection service = before.publication? connection service
  closures : after.hub.closures = before.hub.closures

/-- What is done between two registries, with these events: nothing, or what the operation that
succeeded does. A removal that finds no publication does nothing. -/
inductive Did (before : Registry) : List Event → List Deed → Registry → Prop
  | kept {events after} (h : before.Kept after) (hEvents : ∀ event ∈ events, event.Passing) :
      Did before events [] after
  | opened {connection sink id after}
      (h : before.openConnection connection sink = (.ok id, after)) :
      Did before [.opened id sink] [.opened id] after
  | closed {connection id session}
      (h : before.liveSession? connection = some (id, session)) :
      Did before [.closed id] [.closed id (before.publicationsOf connection)]
        (before.closeConnection connection).2
  | stored {connection service module spec publication after}
      (h : before.addPublication connection service module spec = (.ok publication, after)) :
      Did before [.added publication]
        [.stored publication (before.publication? connection service)] after
  | removed {connection service names publication after}
      (h : before.removePublication connection service = (.ok names, after))
      (hHeld : before.publication? connection service = some publication) :
      Did before [] [.removed publication] after

end Registry

/-! ## Reports of closings -/

theorem Hub.closures_emit (hub : Hub) (connection : Option ConnectionId)
    {diagnostic : Diagnostic} :
    (hub.emit connection diagnostic).closures =
      hub.closures ++ if diagnostic.isClosure then [(connection, diagnostic)] else [] := by
  unfold closures emit
  rw [List.filter_cons]
  dsimp only
  split
  · rw [List.reverse_cons]
  · rw [List.append_nil]

theorem Hub.closures_useListener (hub : Hub) (id : ListenerId) (use : ListenerUse) :
    (hub.useListener id use).2.closures = hub.closures := by
  cases use <;> rfl

/-! ## Publications as a list -/

/-- The place that a publication names. -/
def Publication.slot (publication : Publication) : Slot :=
  ⟨publication.connection, publication.service⟩

namespace Registry

variable {registry before after : Registry} {connection : ConnectionId} {service : String}

theorem length_publications (registry : Registry) :
    registry.publications.length = registry.publicationCount := by
  unfold publications publicationCount
  rw [List.length_flatMap, List.length_flatMap]
  simp

namespace Sound

theorem holds (hSound : registry.Sound) {publication : Publication}
    (h : registry.publication? connection service = some publication) :
    registry.Holds publication := by
  obtain ⟨rfl, rfl, -⟩ := hSound.held h
  exact h

theorem mem_publications_iff (hSound : registry.Sound) {publication : Publication} :
    publication ∈ registry.publications ↔ registry.Holds publication := by
  unfold publications Table.values
  simp only [List.mem_flatMap, List.mem_map]
  constructor
  · rintro ⟨_, ⟨⟨service, publications⟩, hService, rfl⟩, ⟨connection, held⟩, hEntry, rfl⟩
    have hHeld : registry.publication? connection service = some held := by
      rw [publication?_eq_bind, registry.services.mem_entries_iff.mp hService]
      exact publications.mem_entries_iff.mp hEntry
    exact hSound.holds hHeld
  · intro h
    unfold Holds at h
    rw [publication?_eq_bind] at h
    obtain ⟨publications, hService, hEntry⟩ := Option.bind_eq_some_iff.mp h
    exact ⟨publications, ⟨(publication.service, publications),
      registry.services.mem_entries_iff.mpr hService, rfl⟩,
      (publication.connection, publication), publications.mem_entries_iff.mpr hEntry, rfl⟩

/-- Publications are told apart by their places. -/
theorem publications_nodup (hSound : registry.Sound) : registry.publications.Nodup := by
  have hPlaces : registry.publications.map Publication.slot = Shows.slots registry := by
    unfold publications Shows.slots Table.values Table.keys
    rw [List.flatMap_map, List.map_flatMap]
    refine List.flatMap_congr (fun ⟨service, publications⟩ hService => ?_)
    rw [List.map_map, List.map_map]
    refine List.map_congr_left (fun ⟨connection, publication⟩ hEntry => ?_)
    -- a publication names the place where it stands
    have hHeld : registry.publication? connection service = some publication := by
      rw [publication?_eq_bind, registry.services.mem_entries_iff.mp hService]
      exact publications.mem_entries_iff.mp hEntry
    obtain ⟨rfl, rfl, -⟩ := hSound.held hHeld
    rfl
  refine List.Nodup.of_map Publication.slot ?_
  rw [hPlaces]
  exact Shows.slots_nodup registry

/-- The publications of a connection stand on the services that it publishes on. -/
theorem services_publicationsOf (hSound : registry.Sound) (connection : ConnectionId) :
    (registry.publicationsOf connection).map Publication.service =
      registry.servicesFor connection := by
  unfold publicationsOf
  rw [List.map_filterMap]
  refine (List.filterMap_congr (fun service hService => ?_)).trans List.filterMap_some
  -- a service is listed for the publication on it, which names it
  obtain ⟨publication, hHeld⟩ := Option.isSome_iff_exists.mp (mem_servicesFor_iff.mp hService)
  rw [hHeld, Option.map_some, (hSound.held hHeld).2.1]

theorem mem_publicationsOf_iff (hSound : registry.Sound) {publication : Publication} :
    publication ∈ registry.publicationsOf connection ↔
      publication.connection = connection ∧ registry.Holds publication := by
  unfold publicationsOf
  rw [List.mem_filterMap]
  constructor
  · rintro ⟨service, -, hHeld⟩
    exact ⟨(hSound.held hHeld).1, hSound.holds hHeld⟩
  · rintro ⟨rfl, hHeld⟩
    exact ⟨publication.service, mem_servicesFor_iff.mpr (Option.isSome_of_mem hHeld), hHeld⟩

theorem publicationsOf_nodup (hSound : registry.Sound) (connection : ConnectionId) :
    (registry.publicationsOf connection).Nodup := by
  refine List.Nodup.of_map Publication.service ?_
  rw [hSound.services_publicationsOf]
  exact nodup_of_ascending (registry.servicesFor_ascending connection)

/-- Where only some publications are touched, those that were there and those that came in are
those that went out and those that are there. -/
theorem publications_moved (hBefore : before.Sound) (hAfter : after.Sound)
    (touched : Publication → Bool) {came went : List Publication} (hCame : came.Nodup)
    (hWent : went.Nodup)
    (hCameIff : ∀ publication, publication ∈ came ↔ touched publication ∧ after.Holds publication)
    (hWentIff : ∀ publication, publication ∈ went ↔ touched publication ∧ before.Holds publication)
    (hRest : ∀ publication, touched publication = false →
      (after.Holds publication ↔ before.Holds publication)) :
    (came ++ before.publications).Perm (went ++ after.publications) := by
  -- each registry is what is touched of it and the rest
  have hSplit : ∀ {registry : Registry} {part : List Publication}, registry.Sound → part.Nodup →
      (∀ publication, publication ∈ part ↔ touched publication ∧ registry.Holds publication) →
      registry.publications.Perm (part ++ registry.publications.filter (!touched ·)) := by
    intro registry part hSound hPart hIff
    refine (List.filter_append_perm touched registry.publications).symm.trans ?_
    refine List.Perm.append_right _ ?_
    refine (List.perm_ext_iff_of_nodup (hSound.publications_nodup.filter _) hPart).mpr ?_
    intro publication
    rw [List.mem_filter, hIff, hSound.mem_publications_iff, and_comm]
  -- of the rest, both hold the same
  have hSame : (before.publications.filter (!touched ·)).Perm
      (after.publications.filter (!touched ·)) := by
    refine (List.perm_ext_iff_of_nodup (hBefore.publications_nodup.filter _)
      (hAfter.publications_nodup.filter _)).mpr (fun publication => ?_)
    rw [List.mem_filter, List.mem_filter, hBefore.mem_publications_iff,
      hAfter.mem_publications_iff]
    refine and_congr_left (fun hOther => (hRest publication ?_).symm)
    simpa using hOther
  calc came ++ before.publications
    _ ~ came ++ (went ++ before.publications.filter (!touched ·)) :=
      (hSplit hBefore hWent hWentIff).append_left came
    _ ~ went ++ (came ++ before.publications.filter (!touched ·)) := by
      rw [← List.append_assoc, ← List.append_assoc]
      exact List.perm_append_comm.append_right _
    _ ~ went ++ (came ++ after.publications.filter (!touched ·)) :=
      (hSame.append_left came).append_left went
    _ ~ went ++ after.publications := (hSplit hAfter hCame hCameIff).symm.append_left went

end Sound

theorem Sound.publications_perm_of_same (hBefore : before.Sound) (hAfter : after.Sound)
    (h : ∀ connection service,
      after.publication? connection service = before.publication? connection service) :
    before.publications.Perm after.publications := by
  refine hBefore.publications_moved hAfter (fun _ => false) .nil .nil (by simp) (by simp) ?_
  intro publication _
  unfold Holds
  rw [h]

/-- Where only one place is touched, what was found there goes, and what is found there came. -/
theorem Sound.publications_moved_at (hBefore : before.Sound) (hAfter : after.Sound)
    (connection : ConnectionId) (service : String)
    (hOther : ∀ other stored, ¬(other = connection ∧ stored = service) →
      after.publication? other stored = before.publication? other stored) :
    ((after.publication? connection service).toList ++ before.publications).Perm
      ((before.publication? connection service).toList ++ after.publications) := by
  -- at the place there is at most one publication, and it names the place
  have hFound : ∀ {registry : Registry}, registry.Sound → ∀ publication,
      publication ∈ (registry.publication? connection service).toList ↔
        decide (publication.slot = ⟨connection, service⟩) ∧ registry.Holds publication := by
    intro registry hSound publication
    rw [Option.mem_toList, decide_eq_true_iff]
    constructor
    · intro h
      obtain ⟨rfl, rfl, -⟩ := hSound.held h
      exact ⟨rfl, h⟩
    · rintro ⟨hSlot, h⟩
      cases hSlot
      exact h
  refine hBefore.publications_moved hAfter
    (fun publication => publication.slot = ⟨connection, service⟩) (Option.toList_nodup _)
    (Option.toList_nodup _) (hFound hAfter) (hFound hBefore) (fun publication hPlace => ?_)
  unfold Holds
  rw [hOther]
  rintro ⟨rfl, rfl⟩
  exact of_decide_eq_false hPlace rfl

/-- What arrived and what was there is what departed and what is there. -/
theorem Did.conserves {events : List Event} {deeds : List Deed}
    (hDid : before.Did events deeds after) (hBefore : before.Sound) (hAfter : after.Sound) :
    (deeds.filterMap Deed.arrived? ++ before.publications).Perm
      (deeds.flatMap Deed.departed ++ after.publications) := by
  cases hDid with
  | kept h hEvents => exact hBefore.publications_perm_of_same hAfter h.publications
  | opened h =>
    -- a session begins without publications
    obtain ⟨-, -, rfl⟩ := openConnection_ok h
    exact hBefore.publications_perm_of_same hAfter (fun _ _ => rfl)
  | @closed connection id session h =>
    -- the publications of the connection go, and no others
    have hPublications : ∀ other service,
        (before.closeConnection connection).2.publication? other service =
          if other = connection then none else before.publication? other service := by
      intro other service
      rw [closeConnection_of_live h]
      show (before.afterClose connection id session).publication? other service = _
      rw [publication?_afterClose]
    have hMoved := hBefore.publications_moved hAfter
      (fun publication => publication.connection = connection) .nil
      (hBefore.publicationsOf_nodup connection) (fun publication => ?_)
      (fun publication => ?_) (fun publication hOther => ?_)
    · rw [List.flatMap_singleton]
      exact hMoved
    · unfold Holds
      rw [hPublications, decide_eq_true_iff]
      refine iff_of_false List.not_mem_nil (fun ⟨hOwn, hHeld⟩ => ?_)
      rw [if_pos hOwn] at hHeld
      cases hHeld
    · rw [decide_eq_true_iff]
      exact hBefore.mem_publicationsOf_iff
    · unfold Holds
      rw [hPublications, if_neg (of_decide_eq_false hOther)]
  | @stored connection service module spec publication _ h =>
    -- what stood in its place goes, and was maybe nothing
    obtain ⟨id, session, predicate, -, -, -, rfl⟩ := addPublication_ok h
    have hMoved := hBefore.publications_moved_at hAfter connection service (fun _ _ hOther => by
      rw [publication?_of_store before rfl, if_neg hOther])
    rw [publication?_of_store before rfl, if_pos ⟨rfl, rfl⟩] at hMoved
    rw [List.flatMap_singleton, Deed.departed_stored]
    exact hMoved
  | @removed connection service names publication _ h hHeld =>
    -- nothing takes its place
    obtain ⟨-, -, rfl⟩ := removePublication_ok h
    have hMoved := hBefore.publications_moved_at hAfter connection service (fun _ _ hOther => by
      rw [publication?_of_drop before rfl, if_neg hOther])
    rw [publication?_of_drop before rfl, if_pos ⟨rfl, rfl⟩, hHeld] at hMoved
    exact hMoved

theorem Did.kept_nil (h : before.Kept after) : before.Did [] [] after :=
  .kept h (fun _ hEvent => by cases hEvent)

/-- What is done agrees with what happens. -/
theorem Did.agrees {events : List Event} {deeds : List Deed}
    (hDid : before.Did events deeds after) :
    deeds.filterMap Deed.begun? = events.filterMap Event.begun? ∧
      deeds.filterMap Deed.ended? = events.filterMap Event.ended? ∧
      deeds.filterMap Deed.arrived? = events.filterMap Event.arrived? := by
  cases hDid with
  | kept h hEvents =>
    have hBegun : events.filterMap Event.begun? = [] :=
      List.filterMap_eq_nil_iff.mpr (fun event hEvent => (hEvents event hEvent).1)
    have hEnded : events.filterMap Event.ended? = [] :=
      List.filterMap_eq_nil_iff.mpr (fun event hEvent => (hEvents event hEvent).2.1)
    have hArrived : events.filterMap Event.arrived? = [] :=
      List.filterMap_eq_nil_iff.mpr (fun event hEvent => (hEvents event hEvent).2.2)
    rw [hBegun, hEnded, hArrived]
    exact ⟨rfl, rfl, rfl⟩
  | opened | closed | stored | removed => exact ⟨rfl, rfl, rfl⟩

/-! ## Steps that do nothing -/

namespace Kept

theorem refl (registry : Registry) : registry.Kept registry :=
  ⟨rfl, fun _ => rfl, fun _ => rfl, fun _ _ => rfl, rfl⟩

theorem trans (hFirst : before.Kept registry) (hSecond : registry.Kept after) :
    before.Kept after where
  live := hSecond.live.trans hFirst.live
  states id := (hSecond.states id).trans (hFirst.states id)
  additions id := (hSecond.additions id).trans (hFirst.additions id)
  publications connection service :=
    (hSecond.publications connection service).trans (hFirst.publications connection service)
  closures := hSecond.closures.trans hFirst.closures

/-- The hub alone changes, and reports no closing. -/
theorem of_hub {hub : Hub} (h : hub.closures = registry.hub.closures) :
    registry.Kept { registry with hub } :=
  ⟨rfl, fun _ => rfl, fun _ => rfl, fun _ _ => rfl, h⟩

theorem emit (registry : Registry) (connection : ConnectionId) {diagnostic : Diagnostic}
    (h : diagnostic.isClosure = false) : registry.Kept (registry.emit connection diagnostic) := by
  refine of_hub ?_
  rw [Hub.closures_emit, h]
  exact List.append_nil _

/-- A session changes in neither its state nor its count. -/
theorem modifySession (registry : Registry) (id : SessionId) {f : Session → Session}
    (hState : ∀ session, (f session).state = session.state)
    (hAdds : ∀ session, (f session).adds = session.adds) :
    registry.Kept (registry.modifySession id f) where
  live := live_modifySession
  states := state?_modifySession hState
  additions := additions_modifySession hAdds
  publications := publication?_congr services_modifySession
  closures := by
    unfold Registry.modifySession
    split <;> rfl

theorem deliver (registry : Registry) (id : SessionId) (delivery : Delivery) :
    registry.Kept (registry.deliver id delivery).2 := by
  rw [deliver_snd]
  refine modifySession registry id (fun session => session.state_deliver delivery) ?_
  intro session
  unfold Session.deliver
  split <;> rfl

end Kept

end Registry

/-! ## What is done to a server -/

namespace Server

variable {server after : Server} {events : List Event}

theorem Does.did {request : Request} {reply : Reply}
    (hDoes : server.Does request events reply after) :
    ∃ deeds, server.registry.Did events deeds after.registry := by
  cases hDoes using Server.Does.elim with
  | attended | openRefused | notOpen | addRefused | removeRefused => exact ⟨[], .kept_nil (.refl _)⟩
  | opened h => exact ⟨_, .opened h⟩
  | closed h => exact ⟨_, .closed h⟩
  | added h => exact ⟨_, .stored h⟩
  | @removed connection service names _ h =>
    cases hHeld : server.registry.publication? connection service with
    | some publication => exact ⟨_, .removed h hHeld⟩
    | none =>
      -- nothing stood in the place, and nothing else is touched
      obtain ⟨-, -, rfl⟩ := Registry.removePublication_ok h
      refine ⟨[], .kept_nil ⟨rfl, fun _ => rfl, fun _ => rfl, fun other stored => ?_, ?_⟩⟩
      · rw [Registry.publication?_of_drop server.registry rfl]
        split
        · rename_i hPlace
          rw [hPlace.1, hPlace.2, hHeld]
        · rfl
      · exact (Hub.closures_emit _ _).trans (List.append_nil _)

theorem AtOnce.did {command : Command} {outcome : Outcome}
    (hDone : server.AtOnce command outcome events after) :
    ∃ deeds, server.registry.Did events deeds after.registry := by
  cases hDone with
  | request hDoes => exact hDoes.did
  | inbound hDoes => exact hDoes.did
  | added h => exact ⟨_, .stored h⟩
  | addRefused h =>
    obtain ⟨-, rfl⟩ := Registry.addPublication_error h
    exact ⟨[], .kept_nil (.refl _)⟩
  | subscribe => exact ⟨[], .kept_nil (.of_hub rfl)⟩
  | listener => exact ⟨[], .kept_nil (.of_hub (Hub.closures_useListener _ _ _))⟩
  | @session id use =>
    rw [Registry.useSession_snd]
    exact ⟨[], .kept_nil (.modifySession _ _ (fun session => (use.change_keeps session).1)
      (fun session => (use.change_keeps session).2.1))⟩

/-- What follows from the answer of a predicate does nothing to sessions and publications: at most
a delivery is handed over, and a report made that closes nothing. -/
theorem Progress.kept_conclude (progress : Progress) (mutation : Mutation) (views : Views)
    (entry : ConnectionId × Publication) (result : Except FilterError Bool) :
    progress.server.registry.Kept
      (progress.conclude mutation views entry result).server.registry := by
  unfold Progress.conclude
  split
  · unfold Progress.deliver
    dsimp only
    split
    · exact .deliver _ _ _
    · exact (Registry.Kept.deliver _ _ _).trans (.emit _ _ rfl)
    · exact (Registry.Kept.deliver _ _ _).trans (.emit _ _ rfl)
    · exact .deliver _ _ _
  · exact .refl _
  · exact .emit _ _ rfl

end Server

/-! ## Records of runs -/

/-- The answer of a predicate is about a delivery at most. -/
theorem Frame.events_passing (frame : Frame) (server : Server)
    (entry : ConnectionId × Publication) (result : Except FilterError Bool) :
    ∀ event ∈ frame.events server entry result, event.Passing := by
  intro event hEvent
  unfold Frame.events at hEvent
  split at hEvent
  · -- a match is handed over, or misses its session
    rw [List.mem_singleton.mp hEvent]
    unfold Server.handing
    split
    · split <;> exact ⟨rfl, rfl, rfl⟩
    · exact ⟨rfl, rfl, rfl⟩
  · cases hEvent

namespace Machine

variable {first machine next : Machine} {commands : List Command} {events new : List Event}

theorem Step.did (hStep : Step machine new next) :
    ∃ deeds, machine.server.registry.Did new deeds next.server.registry := by
  cases hStep with
  | visit | nest => exact ⟨[], .kept_nil (.refl _)⟩
  | act hFocus hDoes => exact hDoes.did
  | @conclude server frame =>
    exact ⟨[], .kept (Server.Progress.kept_conclude
      { server, summary := frame.summary, gone := frame.gone } _ _ _ _)
      (frame.events_passing server _ _)⟩
  | reap hTested hConfig hGone hDoes => exact hDoes.did
  | yield | finish =>
    rw [Frame.registry_settle]
    exact ⟨[], .kept_nil (.refl _)⟩

theorem Issue.did {command : Command} (hIssue : Issue machine command new next) :
    ∃ deeds, machine.server.registry.Did new deeds next.server.registry := by
  cases hIssue with
  | atOnce hDone => exact hDone.did
  | routing =>
    rw [Frame.registry_arrive]
    exact ⟨[], .kept_nil (.refl _)⟩

end Machine

/-- A run, with what happened and all that was done to sessions and publications so far. -/
inductive Machine.Recorded (first : Machine) :
    List Command → List Event → List Deed → Machine → Prop
  | start : Recorded first [] [] [] first
  | issue {commands events deeds machine command new done next}
      (hRecorded : Recorded first commands events deeds machine)
      (hIssue : Issue machine command new next)
      (hDid : machine.server.registry.Did new done next.server.registry) :
      Recorded first (commands ++ [command]) (events ++ new) (deeds ++ done) next
  | step {commands events deeds machine new done next}
      (hRecorded : Recorded first commands events deeds machine)
      (hStep : Step machine new next)
      (hDid : machine.server.registry.Did new done next.server.registry) :
      Recorded first commands (events ++ new) (deeds ++ done) next

namespace Machine

variable {first machine : Machine} {commands : List Command} {events : List Event}
  {deeds : List Deed}

/-- Every run has its record. -/
theorem Run.recorded (hRun : Run first commands events machine) :
    ∃ deeds, Recorded first commands events deeds machine := by
  induction hRun with
  | start => exact ⟨[], .start⟩
  | issue hRun hIssue ih =>
    obtain ⟨deeds, hRecorded⟩ := ih
    obtain ⟨done, hDid⟩ := hIssue.did
    exact ⟨deeds ++ done, .issue hRecorded hIssue hDid⟩
  | step hRun hStep ih =>
    obtain ⟨deeds, hRecorded⟩ := ih
    obtain ⟨done, hDid⟩ := hStep.did
    exact ⟨deeds ++ done, .step hRecorded hStep hDid⟩

namespace Recorded

/-- A record is one of a run. -/
theorem run (hRecorded : Recorded first commands events deeds machine) :
    Run first commands events machine := by
  induction hRecorded with
  | start => exact .start
  | issue hRecorded hIssue hDid ih => exact .issue ih hIssue
  | step hRecorded hStep hDid ih => exact .step ih hStep

theorem sound (hRecorded : Recorded first commands events deeds machine)
    (hSound : first.server.registry.Sound) : machine.server.registry.Sound :=
  hRecorded.run.follows.sound hSound

/-- All that was done agrees with all that happened. -/
theorem agrees (hRecorded : Recorded first commands events deeds machine) :
    deeds.filterMap Deed.begun? = events.filterMap Event.begun? ∧
      deeds.filterMap Deed.ended? = events.filterMap Event.ended? ∧
      deeds.filterMap Deed.arrived? = events.filterMap Event.arrived? := by
  induction hRecorded with
  | start => exact ⟨rfl, rfl, rfl⟩
  | issue hRecorded hIssue hDid ih | step hRecorded hStep hDid ih =>
    obtain ⟨hBegun, hEnded, hArrived⟩ := ih
    obtain ⟨hNewBegun, hNewEnded, hNewArrived⟩ := hDid.agrees
    simp only [List.filterMap_append]
    rw [hBegun, hEnded, hArrived, hNewBegun, hNewEnded, hNewArrived]
    exact ⟨rfl, rfl, rfl⟩

end Recorded

end Machine

end Fanout
