import Fanout.Proofs.Delivery

/-!
# Fanout — the chronicle of a run

Publications keep the session that they were added in, and a routing works on the
publications that were there when it started; so a session may have ended by the
time that a match finds it. The events of a run tell what became of each session,
and a chronicle ties them to the registry; each thing that is done to a server adds
to it.

## Main definitions

* `Event.Lawful` — what must have happened, and what not, before an event.
* `Event.stateAfter`, `Event.logAfter` — what an event makes of a session and its record.
* `Chronicle` — what the events so far say of a registry.

## Results

* `Chronicle.snoc` — a chronicle with one event more.
* `Server.AtOnce.chronicle`, `Server.chronicle_concluded` — a command, and the answer of a
  predicate, do what their events say.
* `Server.Progress.visit_of_closed` — a match whose session has ended.
-/

namespace Fanout

open Server (Progress Publisher Views)

/-! ## Events -/

namespace Event

/-- What an event hands to a session, with the answer. -/
def answer? (id : SessionId) : Event → Option (Delivery × Offer)
  | .handed publication delivery answer =>
    if publication.session = id then some (delivery, answer) else none
  | .opened _ _ | .closed _ | .added _ | .missed _ _ => none

/-- What events hand to a session, with the answers. -/
def handedTo (id : SessionId) (events : List Event) : List (Delivery × Offer) :=
  events.filterMap (answer? id)

/-- What an event makes of the state of a session. -/
def stateAfter (id : SessionId) (before : Option SessionState) : Event → Option SessionState
  | .opened other _ => if id = other then some .opened else before
  | .closed other => if id = other then some .closed else before
  | .added _ | .handed _ _ _ | .missed _ _ => before

/-- What an event makes of what is on the record of a session. -/
def logAfter (id : SessionId) (before : List (Delivery × Offer)) :
    Event → List (Delivery × Offer)
  | .opened other sink => if id = other then sink.log else before
  | .handed publication delivery answer =>
    before ++ if id = publication.session then [(delivery, answer)] else []
  | .closed _ | .added _ | .missed _ _ => before

/-- What must have happened before an event, and what not. -/
def Lawful (past : List Event) : Event → Prop
  | .opened id _ => (∀ sink, Event.opened id sink ∉ past) ∧ Event.closed id ∉ past
  | .closed id => (∃ sink, Event.opened id sink ∈ past) ∧ Event.closed id ∉ past
  | .added publication =>
    publication.connection = publication.session.connection ∧
      (∃ sink, Event.opened publication.session sink ∈ past) ∧
      Event.closed publication.session ∉ past
  | .handed publication delivery _ =>
    delivery.connection = publication.session.connection ∧ Event.added publication ∈ past ∧
      Event.closed publication.session ∉ past
  | .missed publication delivery =>
    delivery.connection = publication.session.connection ∧ Event.added publication ∈ past ∧
      Event.closed publication.session ∈ past

/-- Each event is lawful after those before it. -/
def AllLawful (events : List Event) : Prop :=
  ∀ past event future, events = past ++ event :: future → event.Lawful past

variable {events : List Event} {event : Event}

theorem handedTo_append (id : SessionId) (events new : List Event) :
    handedTo id (events ++ new) = handedTo id events ++ handedTo id new :=
  List.filterMap_append

/-- What is handed over is put on the record of its session, at the end. -/
theorem logAfter_eq {id : SessionId} (h : ∀ sink, event ≠ .opened id sink)
    (before : List (Delivery × Offer)) :
    event.logAfter id before = before ++ handedTo id [event] := by
  cases event with
  | opened other sink =>
    have hOther : id ≠ other := fun hEq => h sink (by rw [hEq])
    simp [logAfter, handedTo, answer?, hOther]
  | handed publication delivery answer =>
    by_cases hId : id = publication.session
    · simp [logAfter, handedTo, answer?, hId]
    · simp [logAfter, handedTo, answer?, hId, Ne.symm hId]
  | closed | added | missed => exact (List.append_nil before).symm

theorem mem_handedTo_iff {id : SessionId} {delivery : Delivery} {answer : Offer} :
    (delivery, answer) ∈ handedTo id events ↔
      ∃ publication, publication.session = id ∧ .handed publication delivery answer ∈ events := by
  unfold handedTo
  rw [List.mem_filterMap]
  constructor
  · rintro ⟨event, hEvent, hAnswer⟩
    cases event with
    | handed publication handed given =>
      dsimp only [answer?] at hAnswer
      split at hAnswer
      · cases hAnswer
        exact ⟨publication, ‹_›, hEvent⟩
      · cases hAnswer
    | opened | closed | added | missed => cases hAnswer
  · rintro ⟨publication, hSession, hEvent⟩
    exact ⟨_, hEvent, if_pos hSession⟩

namespace AllLawful

theorem nil : AllLawful [] := by
  intro past event future h
  simp at h

theorem concat (hAll : AllLawful events) (hEvent : event.Lawful events) :
    AllLawful (events ++ [event]) := by
  intro past other future h
  rcases List.eq_nil_or_concat future with rfl | ⟨before, last, rfl⟩
  · -- it is the new event
    obtain ⟨rfl, hLast⟩ := List.append_inj' h rfl
    cases hLast
    exact hEvent
  · rw [List.concat_eq_append, ← List.cons_append, ← List.append_assoc] at h
    exact hAll past other before (List.append_inj' h rfl).1

theorem of_mem (hAll : AllLawful events) (h : event ∈ events) :
    ∃ past, past ⊆ events ∧ event.Lawful past := by
  -- the events that stand before it
  obtain ⟨past, future, rfl⟩ := List.append_of_mem h
  exact ⟨past, List.subset_append_left _ _, hAll past event future rfl⟩

theorem of_append {new : List Event} (hAll : AllLawful (events ++ new)) : AllLawful events := by
  intro past event future h
  refine hAll past event (future ++ new) ?_
  rw [h, List.append_assoc, List.cons_append]

theorem opened_of_closed (hAll : AllLawful events) {id : SessionId}
    (h : Event.closed id ∈ events) : ∃ sink, Event.opened id sink ∈ events := by
  obtain ⟨past, hPast, ⟨sink, hOpened⟩, -⟩ := hAll.of_mem h
  exact ⟨sink, hPast hOpened⟩

theorem opened_of_added (hAll : AllLawful events) {publication : Publication}
    (h : Event.added publication ∈ events) :
    ∃ sink, Event.opened publication.session sink ∈ events := by
  obtain ⟨past, hPast, -, ⟨sink, hOpened⟩, -⟩ := hAll.of_mem h
  exact ⟨sink, hPast hOpened⟩

theorem handedTo_of_not_opened (hAll : AllLawful events) {id : SessionId}
    (h : ∀ sink, Event.opened id sink ∉ events) : handedTo id events = [] := by
  refine List.eq_nil_iff_forall_not_mem.mpr (fun ⟨delivery, answer⟩ hHanded => ?_)
  obtain ⟨publication, rfl, hEvent⟩ := mem_handedTo_iff.mp hHanded
  -- the publication was added before, and for that its session had to be opened
  obtain ⟨past, hPast, -, hAdded, -⟩ := hAll.of_mem hEvent
  obtain ⟨sink, hOpened⟩ := hAll.opened_of_added (hPast hAdded)
  exact h sink hOpened

/-- Nothing is handed to a session once it was closed. -/
theorem handedTo_of_closed {new : List Event} (hAll : AllLawful (events ++ new)) {id : SessionId}
    (h : Event.closed id ∈ events) : handedTo id new = [] := by
  refine List.eq_nil_iff_forall_not_mem.mpr (fun ⟨delivery, answer⟩ hHanded => ?_)
  obtain ⟨publication, rfl, hEvent⟩ := mem_handedTo_iff.mp hHanded
  obtain ⟨before, later, rfl⟩ := List.append_of_mem hEvent
  -- to be lawful, it would have to come before the closing
  obtain ⟨-, -, hGoesOn⟩ := hAll (events ++ before) _ later (List.append_assoc ..).symm
  exact hGoesOn (List.mem_append_left _ h)

end AllLawful

end Event

/-! ## Registries -/

/-- What the events so far say of a registry. -/
structure Chronicle (events : List Event) (registry : Registry) : Prop where
  lawful : Event.AllLawful events
  opened : ∀ id, registry.state? id = some .opened ↔
    (∃ sink, Event.opened id sink ∈ events) ∧ Event.closed id ∉ events
  closed : ∀ id, registry.state? id = some .closed ↔ Event.closed id ∈ events
  log : ∀ id sink, Event.opened id sink ∈ events →
    registry.log id = sink.log ++ Event.handedTo id events
  held : ∀ connection service publication,
    registry.publication? connection service = some publication →
      Event.added publication ∈ events

namespace Chronicle

variable {events : List Event} {registry after : Registry} {connection : ConnectionId}
  {service : String}

theorem new (config : Config) : Chronicle [] (Registry.new config) where
  lawful := .nil
  opened id := by
    show (none : Option SessionState) = _ ↔ _
    simp
  closed id := by
    show (none : Option SessionState) = _ ↔ _
    simp
  log id sink h := by cases h
  held connection service publication h := by cases h

/-- A registry of which nothing changes that a chronicle speaks of. -/
theorem congr (hEvents : Chronicle events registry)
    (hStates : ∀ id, after.state? id = registry.state? id)
    (hLogs : ∀ id, after.log id = registry.log id)
    (hHeld : ∀ connection service publication,
      after.publication? connection service = some publication →
        registry.publication? connection service = some publication) :
    Chronicle events after where
  lawful := hEvents.lawful
  opened id := by rw [hStates, hEvents.opened]
  closed id := by rw [hStates, hEvents.closed]
  log id sink h := by rw [hLogs, hEvents.log id sink h]
  held connection service publication h :=
    hEvents.held connection service publication (hHeld connection service publication h)

theorem congr_of_eq (hEvents : Chronicle events registry)
    (hSessions : after.sessions = registry.sessions)
    (hServices : after.services = registry.services) : Chronicle events after := by
  refine hEvents.congr (fun id => ?_) (fun id => ?_) (fun other name publication h => ?_)
  · unfold Registry.state?
    rw [hSessions]
  · unfold Registry.log
    rw [hSessions]
  · exact (Registry.publication?_congr hServices other name).symm.trans h

/-- One event more. -/
theorem snoc (hEvents : Chronicle events registry) {event : Event} (hLawful : event.Lawful events)
    (hStates : ∀ id, after.state? id = event.stateAfter id (registry.state? id))
    (hLogs : ∀ id, after.log id = event.logAfter id (registry.log id))
    (hHeld : ∀ connection service publication,
      after.publication? connection service = some publication →
        event = .added publication ∨
          registry.publication? connection service = some publication) :
    Chronicle (events ++ [event]) after where
  lawful := hEvents.lawful.concat hLawful
  opened id := by
    rw [hStates]
    -- an opening and a closing settle the state of their session, and other events touch none
    cases event with
    | opened other sink =>
      by_cases hId : id = other
      · subst hId
        simp [Event.stateAfter, hLawful.2]
      · simp [Event.stateAfter, hId, hEvents.opened]
    | closed other => by_cases hId : id = other <;> simp [Event.stateAfter, hId, hEvents.opened]
    | added | handed | missed => simp [Event.stateAfter, hEvents.opened]
  closed id := by
    rw [hStates]
    cases event with
    | opened other sink =>
      by_cases hId : id = other
      · subst hId
        simp [Event.stateAfter, hLawful.2]
      · simp [Event.stateAfter, hId, hEvents.closed]
    | closed other => by_cases hId : id = other <;> simp [Event.stateAfter, hId, hEvents.closed]
    | added | handed | missed => simp [Event.stateAfter, hEvents.closed]
  log id sink hOpened := by
    rw [hLogs, Event.handedTo_append]
    rcases List.mem_append.mp hOpened with hBefore | hNow
    · -- a session is not opened twice
      have hOther : ∀ given, event ≠ .opened id given := by
        rintro given rfl
        exact hLawful.1 sink hBefore
      rw [Event.logAfter_eq hOther, hEvents.log id sink hBefore, List.append_assoc]
    · -- nothing was handed to the session before it was opened
      cases List.mem_singleton.mp hNow
      rw [hEvents.lawful.handedTo_of_not_opened hLawful.1]
      exact (if_pos rfl).trans (List.append_nil _).symm
  held connection service publication hStored := by
    rcases hHeld connection service publication hStored with rfl | hBefore
    · exact List.mem_append_right _ (List.mem_singleton.mpr rfl)
    · exact List.mem_append_left _ (hEvents.held connection service publication hBefore)

theorem openConnection (hEvents : Chronicle events registry) (hSound : registry.Sound)
    {sink : Sink} {id : SessionId}
    (h : registry.openConnection connection sink = (.ok id, after)) :
    Chronicle (events ++ [.opened id sink]) after := by
  obtain ⟨-, hId, rfl⟩ := Registry.openConnection_ok h
  -- nothing was ever heard of the session
  have hFresh : registry.state? id = none := by
    unfold Registry.state?
    rw [hId, hSound.fresh connection]
    rfl
  have hNotClosed : Event.closed id ∉ events := by
    rw [← hEvents.closed, hFresh]
    simp
  have hNotOpened : ∀ other, Event.opened id other ∉ events := by
    intro other hOpened
    have hState := (hEvents.opened id).mpr ⟨⟨other, hOpened⟩, hNotClosed⟩
    rw [hFresh] at hState
    cases hState
  refine hEvents.snoc ⟨hNotOpened, hNotClosed⟩ ?_ ?_ (fun _ _ _ hHeld => .inr hHeld)
  · intro known
    rw [Registry.state?_of_insert registry rfl]
    rfl
  · intro known
    rw [Registry.log_of_insert registry rfl]
    rfl

theorem closeConnection (hEvents : Chronicle events registry) {id : SessionId} {session : Session}
    (h : registry.liveSession? connection = some (id, session)) :
    Chronicle (events ++ [.closed id]) (registry.closeConnection connection).2 := by
  obtain ⟨-, hSession, hOpened⟩ := Registry.liveSession?_eq_some_iff.mp h
  have hLive := (hEvents.opened id).mp (by rw [Registry.state?_of_get? hSession, hOpened])
  -- closing hands nothing over, and drops publications at most
  refine hEvents.snoc hLive ?_ ?_ ?_
  · intro known
    rw [Registry.closeConnection_of_live h, Registry.state?_of_insert registry rfl]
    rfl
  · exact registry.log_closeConnection connection
  · exact fun _ _ _ hHeld => .inr (Registry.publication?_of_closeConnection hHeld)

theorem addPublication (hEvents : Chronicle events registry) (hSound : registry.Sound)
    {module : FilterModule} {spec : PublicationSpec} {publication : Publication}
    (h : registry.addPublication connection service module spec = (.ok publication, after)) :
    Chronicle (events ++ [.added publication]) after := by
  have hHeld := fun other stored held (hStored : after.publication? other stored = some held) =>
    Registry.publication?_of_addPublication h hStored
  obtain ⟨id, session, predicate, hLive, -, hPublication, rfl⟩ := Registry.addPublication_ok h
  obtain ⟨hId, hSession, hOpened⟩ := Registry.liveSession?_eq_some_iff.mp hLive
  have hLiveBefore := (hEvents.opened id).mp (by rw [Registry.state?_of_get? hSession, hOpened])
  have hOwn := (hSound.live_open hId).1
  have hLawful : (Event.added publication).Lawful events := by
    rw [hPublication]
    exact ⟨hOwn.symm, hLiveBefore⟩
  -- the session counts its additions, and is the same in all that a chronicle speaks of
  refine hEvents.snoc hLawful ?_ ?_ (fun other stored held hStored => ?_)
  · exact Registry.state?_of_replace rfl hSession rfl
  · exact Registry.log_of_replace rfl hSession rfl
  · rcases hHeld other stored held hStored with rfl | hBefore
    · exact .inl rfl
    · exact .inr hBefore

/-- A match that is handed to a session that goes on. -/
theorem withDelivery (hEvents : Chronicle events registry) {publication : Publication}
    {session : Session} {delivery : Delivery} {hub : Hub}
    (hSession : registry.sessions.get? publication.session = some session)
    (hOpened : session.state = .opened) (hAdded : Event.added publication ∈ events)
    (hOwn : delivery.connection = publication.session.connection) :
    Chronicle (events ++ [.handed publication delivery (session.sink.deliver delivery).1])
      (registry.withDelivery publication.session session delivery hub) := by
  have hLive := (hEvents.opened _).mp (by rw [Registry.state?_of_get? hSession, hOpened])
  refine hEvents.snoc ⟨hOwn, hAdded, hLive.2⟩ ?_ ?_ (fun _ _ _ hHeld => .inr hHeld)
  · exact Registry.state?_of_replace rfl hSession rfl
  · exact fun id => Registry.log_withDelivery hSession

/-- A match that finds its session closed. -/
theorem missed (hEvents : Chronicle events registry) {publication : Publication}
    {delivery : Delivery} (hClosed : registry.state? publication.session = some .closed)
    (hAdded : Event.added publication ∈ events)
    (hOwn : delivery.connection = publication.session.connection) :
    Chronicle (events ++ [.missed publication delivery]) registry :=
  hEvents.snoc ⟨hOwn, hAdded, (hEvents.closed _).mp hClosed⟩ (fun _ => rfl) (fun _ => rfl)
    (fun _ _ _ hHeld => .inr hHeld)

/-- A publication that was added belongs to a session that goes on or has ended. -/
theorem state?_of_added (hEvents : Chronicle events registry) {publication : Publication}
    (h : Event.added publication ∈ events) :
    registry.state? publication.session = some .opened ∨
      registry.state? publication.session = some .closed := by
  by_cases hClosed : Event.closed publication.session ∈ events
  · exact .inr ((hEvents.closed _).mpr hClosed)
  · exact .inl ((hEvents.opened _).mpr ⟨hEvents.lawful.opened_of_added h, hClosed⟩)

end Chronicle

/-! ## Steps of a server -/

namespace Server

variable {events : List Event} {server after : Server}

theorem Does.chronicle {request : Request} {new : List Event} {reply : Reply}
    (hDoes : server.Does request new reply after) (hSound : server.registry.Sound)
    (hEvents : Chronicle events server.registry) : Chronicle (events ++ new) after.registry := by
  cases hDoes using Server.Does.elim with
  | attended | openRefused | notOpen | addRefused | removeRefused =>
    rw [List.append_nil]
    exact hEvents
  | opened h => exact hEvents.openConnection hSound h
  | closed h => exact hEvents.closeConnection h
  | added h => exact hEvents.addPublication hSound h
  | removed h =>
    rw [List.append_nil]
    refine hEvents.congr (fun id => ?_) (fun id => ?_) (fun _ _ _ hStays =>
      Registry.publication?_of_removePublication h hStays)
    · obtain ⟨-, -, rfl⟩ := Registry.removePublication_ok h
      rfl
    · obtain ⟨-, -, rfl⟩ := Registry.removePublication_ok h
      rfl

theorem AtOnce.chronicle {command : Command} {outcome : Outcome} {new : List Event}
    (hDone : server.AtOnce command outcome new after) (hSound : server.registry.Sound)
    (hEvents : Chronicle events server.registry) : Chronicle (events ++ new) after.registry := by
  cases hDone with
  | request hDoes => exact hDoes.chronicle hSound hEvents
  | inbound hDoes => exact hDoes.chronicle hSound hEvents
  | added h => exact hEvents.addPublication hSound h
  | addRefused h =>
    obtain ⟨-, rfl⟩ := Registry.addPublication_error h
    rw [List.append_nil]
    exact hEvents
  | subscribe | listener =>
    rw [List.append_nil]
    exact hEvents.congr_of_eq rfl rfl
  | @session id use =>
    -- a client changes neither the state of its session nor what its sink was handed
    rw [List.append_nil, Registry.useSession_snd]
    refine hEvents.congr ?_ ?_ (fun other name held hHeld => ?_)
    · exact Registry.state?_modifySession (fun session => (use.change_keeps session).1)
    · exact Registry.log_modifySession (fun session => (use.change_keeps session).2.2)
    · rw [Registry.publication?_congr Registry.services_modifySession] at hHeld
      exact hHeld

/-- A match whose session has ended counts as lost, and leaves the server as it is. -/
theorem Progress.deliver_of_closed (progress : Progress) {publication : Publication}
    (delivery : Delivery)
    (h : progress.server.registry.state? publication.session = some .closed) :
    progress.deliver publication delivery = { progress with
      summary := { progress.summary with
        matched := progress.summary.matched + 1
        dropped := progress.summary.dropped + 1 } } := by
  obtain ⟨session, hSession, hClosed⟩ := Option.map_eq_some_iff.mp h
  have hDeliver : progress.server.registry.deliver publication.session delivery =
      (.closed, progress.server.registry) := by
    unfold Registry.deliver
    rw [hSession]
    dsimp only
    rw [Session.deliver_of_closed hClosed, Table.insert_of_get? hSession]
  unfold Progress.deliver
  rw [hDeliver]

/-- A routing that finds the session of a match closed goes on with the server as the predicate
left it. -/
theorem Progress.visit_of_closed {publish : Publisher} {mutation : Mutation} {views : Views}
    {progress : Progress} {entry : ConnectionId × Publication}
    (hCarry : carryOut publish (entry.2.predicate.behave (views.tested entry.2)) progress.server =
      some (.ok true, server))
    (hClosed : server.registry.state? entry.2.session = some .closed) :
    progress.visit publish mutation views entry = some { progress with
      server
      summary := { progress.summary with
        matched := progress.summary.matched + 1
        dropped := progress.summary.dropped + 1 } } := by
  rw [Progress.visit_eq, hCarry]
  exact congrArg some (Progress.deliver_of_closed { progress with server } _ hClosed)

theorem handing_of_opened {publication : Publication} {delivery : Delivery} {session : Session}
    (hSession : server.registry.sessions.get? publication.session = some session)
    (hOpened : session.state = .opened) :
    server.handing publication delivery =
      .handed publication delivery (session.sink.deliver delivery).1 := by
  unfold handing
  rw [hSession]
  dsimp only
  rw [hOpened]

theorem handing_of_closed {publication : Publication} {delivery : Delivery}
    (h : server.registry.state? publication.session = some .closed) :
    server.handing publication delivery = .missed publication delivery := by
  obtain ⟨session, hSession, hClosed⟩ := Option.map_eq_some_iff.mp h
  unfold handing
  rw [hSession]
  dsimp only
  rw [hClosed]

/-- What the answer of a predicate does is what its events say. -/
theorem chronicle_concluded (frame : Frame) {entry : ConnectionId × Publication}
    (result : Except FilterError Bool) (hEvents : Chronicle events server.registry)
    (hAdded : Event.added entry.2 ∈ events) (hOwn : entry.2.session.connection = entry.1) :
    Chronicle (events ++ frame.events server entry result)
      (frame.concluded server entry result).server.registry := by
  -- only an acceptance does anything to a session
  cases result with
  | error error =>
    refine (List.append_nil events).symm ▸ ?_
    exact hEvents.congr_of_eq rfl rfl
  | ok accepted =>
    cases accepted with
    | false =>
      refine (List.append_nil events).symm ▸ ?_
      exact hEvents
    | true =>
      have hDelivery : (frame.delivery entry.1).connection = entry.2.session.connection :=
        hOwn.symm
      show Chronicle (events ++ [server.handing entry.2 (frame.delivery entry.1)])
        (Progress.deliver { server, summary := frame.summary, gone := frame.gone } entry.2
          (frame.delivery entry.1)).server.registry
      -- the session of a publication that was added goes on or has ended, there is no third
      rcases hEvents.state?_of_added hAdded with hOpened | hClosed
      · obtain ⟨session, hSession, hState⟩ := Option.map_eq_some_iff.mp hOpened
        obtain ⟨hRegistry, -⟩ := Progress.deliver_of_opened
          { server, summary := frame.summary, gone := frame.gone } (frame.delivery entry.1)
          hSession hState
        rw [hRegistry, handing_of_opened hSession hState]
        exact hEvents.withDelivery hSession hState hAdded hDelivery
      · rw [Progress.deliver_of_closed _ _ hClosed, handing_of_closed hClosed]
        exact hEvents.missed hClosed hAdded hDelivery

end Server

end Fanout
