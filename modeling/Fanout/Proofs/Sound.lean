import Fanout.Proofs.Registry

/-!
# Fanout — sound registries

Sessions, the open connections and the publications are kept in three tables.
`Registry.Sound` says how they hang together: an open connection is one whose
session goes on, a publication belongs to the session that its connection is open
in, and no service is kept without publications.

## Results

* `Registry.Sound.new`, `Registry.Sound.openConnection` and so on — a new registry is sound, and
  every operation keeps it so.
* `Registry.Sound.fresh` — no session gets the number of an earlier one.
-/

namespace Fanout

namespace Registry

variable {registry after : Registry} {connection other : ConnectionId} {service : String}

/-- How the tables of a registry hang together. -/
structure Sound (registry : Registry) : Prop where
  /-- An open connection is in a session of its own that goes on. -/
  live_open : ∀ {connection id}, registry.live.get? connection = some id →
    id.connection = connection ∧ registry.state? id = some .opened
  /-- A session goes on only as long as its connection is open in it. -/
  open_live : ∀ {id}, registry.state? id = some .opened →
    registry.live.get? id.connection = some id
  /-- A publication stands under its own name and belongs to the session its connection is in. -/
  held : ∀ {connection service publication},
    registry.publication? connection service = some publication →
      publication.connection = connection ∧ publication.service = service ∧
        registry.live.get? connection = some publication.session
  /-- No service is kept without publications. -/
  inhabited : ∀ {service publications}, registry.services.get? service = some publications →
    publications.isEmpty = false
  /-- The sessions of a connection are numbered from 0 on. -/
  numbered : ∀ id, (registry.sessions.get? id).isSome ↔
    id.index < registry.sessionCount id.connection

theorem sessionCount_congr
    (h : ∀ id, (after.sessions.get? id).isSome = (registry.sessions.get? id).isSome)
    (connection : ConnectionId) :
    after.sessionCount connection = registry.sessionCount connection := by
  have hKeys : after.sessions.keys = registry.sessions.keys :=
    Table.keys_eq_of_mem_iff (fun id => by rw [Table.mem_keys_iff, Table.mem_keys_iff, h])
  unfold sessionCount
  rw [hKeys]

/-- A new session counts for its connection. -/
theorem sessionCount_of_insert {id : SessionId} {session : Session}
    (h : after.sessions = registry.sessions.insert id session)
    (hFresh : registry.sessions.get? id = none) (connection : ConnectionId) :
    after.sessionCount connection =
      registry.sessionCount connection + if id.connection = connection then 1 else 0 := by
  have hPerm := (Table.keys_insert_perm session hFresh).filter
    (fun known => known.connection == connection)
  unfold sessionCount
  rw [h, hPerm.length_eq, List.filter_cons]
  by_cases hOwner : id.connection = connection
  · rw [if_pos hOwner, if_pos (by simpa using hOwner), List.length_cons]
  · rw [if_neg hOwner, if_neg (by simpa using hOwner), Nat.add_zero]

namespace Sound

theorem new (config : Config) : (Registry.new config).Sound where
  live_open h := by cases h
  open_live h := by cases h
  held h := by cases h
  inhabited h := by cases h
  numbered id := by
    show (none : Option Session).isSome ↔ id.index < 0
    simp

/-- A sound registry stays so if sessions change at most in what they hold. -/
theorem of_state?_eq (hSound : registry.Sound) (hLive : after.live = registry.live)
    (hServices : after.services = registry.services)
    (hStates : ∀ id, after.state? id = registry.state? id) : after.Sound := by
  have hPublications := publication?_congr hServices
  have hKnown : ∀ id, (after.sessions.get? id).isSome = (registry.sessions.get? id).isSome := by
    intro id
    rw [← isSome_state?, ← isSome_state?, hStates]
  constructor
  case live_open =>
    intro connection id h
    rw [hLive] at h
    rw [hStates]
    exact hSound.live_open h
  case open_live =>
    intro id h
    rw [hStates] at h
    rw [hLive]
    exact hSound.open_live h
  case held =>
    intro connection service publication h
    rw [hPublications] at h
    rw [hLive]
    exact hSound.held h
  case inhabited =>
    intro service publications h
    rw [hServices] at h
    exact hSound.inhabited h
  case numbered =>
    intro id
    rw [sessionCount_congr hKnown, hKnown]
    exact hSound.numbered id

theorem liveSession?_isSome_iff (hSound : registry.Sound) :
    (registry.liveSession? connection).isSome ↔ (registry.live.get? connection).isSome := by
  constructor
  · intro h
    obtain ⟨⟨id, session⟩, hLive⟩ := Option.isSome_iff_exists.mp h
    rw [(liveSession?_eq_some_iff.mp hLive).1]
    rfl
  · intro h
    obtain ⟨id, hLive⟩ := Option.isSome_iff_exists.mp h
    have hState := (hSound.live_open hLive).2
    unfold state? at hState
    obtain ⟨session, hSession, hOpened⟩ := Option.map_eq_some_iff.mp hState
    rw [liveSession?_eq_some_iff.mpr ⟨hLive, hSession, hOpened⟩]
    rfl

/-- A new session of a connection gets a number that none of its sessions had. -/
theorem fresh (hSound : registry.Sound) (connection : ConnectionId) :
    registry.sessions.get? ⟨connection, registry.sessionCount connection⟩ = none := by
  have h := hSound.numbered ⟨connection, registry.sessionCount connection⟩
  simpa using h

theorem emit (hSound : registry.Sound) (connection : ConnectionId) (diagnostic : Diagnostic) :
    (registry.emit connection diagnostic).Sound :=
  hSound.of_state?_eq rfl rfl (fun _ => rfl)

theorem openConnection (hSound : registry.Sound) {sink : Sink} {id : SessionId}
    (h : registry.openConnection connection sink = (.ok id, after)) : after.Sound := by
  obtain ⟨hClosed, hId, rfl⟩ := openConnection_ok h
  have hConnection : id.connection = connection := by rw [hId]
  have hFresh : registry.sessions.get? id = none := by
    rw [hId]
    exact hSound.fresh connection
  constructor
  case live_open =>
    intro other live hLive
    change (registry.live.insert connection id).get? other = some live at hLive
    rw [state?_of_insert registry rfl]
    rw [Table.get?_insert] at hLive
    by_cases hOther : other = connection
    · rw [if_pos hOther] at hLive
      cases hLive
      exact ⟨hConnection.trans hOther.symm, if_pos rfl⟩
    · -- the other connections stay in the sessions that they were in
      rw [if_neg hOther] at hLive
      obtain ⟨hOwn, hOpened⟩ := hSound.live_open hLive
      have hNe : live ≠ id := fun hEq => hOther (by rw [← hOwn, hEq, hConnection])
      exact ⟨hOwn, by rw [if_neg hNe, hOpened]⟩
  case open_live =>
    intro other hOpened
    rw [state?_of_insert registry rfl] at hOpened
    show (registry.live.insert connection id).get? other.connection = some other
    rw [Table.get?_insert]
    by_cases hOther : other = id
    · rw [hOther, if_pos hConnection]
    · rw [if_neg hOther] at hOpened
      have hLive := hSound.open_live hOpened
      have hNe : other.connection ≠ connection := by
        intro hEq
        rw [hEq, hClosed] at hLive
        cases hLive
      rw [if_neg hNe, hLive]
  case held =>
    intro other service publication hHeld
    obtain ⟨hOwn, hService, hLive⟩ := hSound.held hHeld
    refine ⟨hOwn, hService, ?_⟩
    show (registry.live.insert connection id).get? other = _
    -- a connection that was not open had no publications
    have hNe : other ≠ connection := by
      intro hEq
      rw [hEq, hClosed] at hLive
      cases hLive
    rw [Table.get?_insert, if_neg hNe, hLive]
  case inhabited => exact hSound.inhabited
  case numbered =>
    intro other
    rw [sessionCount_of_insert rfl hFresh]
    show ((registry.sessions.insert id { sink }).get? other).isSome ↔ _
    rw [Table.get?_insert]
    have hNumbered := hSound.numbered other
    by_cases hOther : other = id
    · -- the new session is the next of its connection
      subst hOther
      have hIndex : other.index = registry.sessionCount other.connection := by rw [hId]
      rw [if_pos rfl, if_pos rfl, hIndex]
      simp
    · rw [if_neg hOther, hNumbered]
      by_cases hOwner : id.connection = other.connection
      · have hIndex : id.index = registry.sessionCount other.connection := by
          rw [← hOwner, hId]
        -- it has a number that no earlier session has
        have hNe : other.index ≠ id.index := by
          intro hEq
          cases other
          cases id
          simp_all
        rw [if_pos hOwner]
        omega
      · rw [if_neg hOwner, Nat.add_zero]

theorem afterClose (hSound : registry.Sound) {id : SessionId} {session : Session}
    (hLive : registry.liveSession? connection = some (id, session)) :
    (registry.afterClose connection id session).Sound := by
  obtain ⟨hId, hSession, hOpened⟩ := liveSession?_eq_some_iff.mp hLive
  have hConnection : id.connection = connection := (hSound.live_open hId).1
  have hState : ∀ known, (registry.afterClose connection id session).state? known =
      if known = id then some .closed else registry.state? known := by
    intro known
    rw [state?_of_insert registry rfl]
  have hErased : ∀ other, (registry.afterClose connection id session).live.get? other =
      if other = connection then none else registry.live.get? other :=
    fun other => Table.get?_erase _ _ _
  constructor
  case live_open =>
    intro other live h
    rw [hErased] at h
    by_cases hOther : other = connection
    · rw [if_pos hOther] at h
      cases h
    · rw [if_neg hOther] at h
      obtain ⟨hOwn, hGoesOn⟩ := hSound.live_open h
      have hNe : live ≠ id := fun hEq => hOther (by rw [← hOwn, hEq, hConnection])
      rw [hState, if_neg hNe]
      exact ⟨hOwn, hGoesOn⟩
  case open_live =>
    intro known hGoesOn
    rw [hState] at hGoesOn
    by_cases hKnown : known = id
    · rw [if_pos hKnown] at hGoesOn
      cases hGoesOn
    · rw [if_neg hKnown] at hGoesOn
      have h := hSound.open_live hGoesOn
      -- the connection was in one session only
      have hNe : known.connection ≠ connection := by
        intro hEq
        rw [hEq, hId] at h
        exact hKnown (Option.some.inj h).symm
      rw [hErased, if_neg hNe, h]
  case held =>
    intro other service publication h
    rw [publication?_afterClose] at h
    by_cases hOther : other = connection
    · rw [if_pos hOther] at h
      cases h
    · rw [if_neg hOther] at h
      rw [hErased, if_neg hOther]
      exact hSound.held h
  case inhabited =>
    intro service publications h
    rw [services_afterClose, Table.get?_filterMap] at h
    obtain ⟨kept, -, hKept⟩ := Option.bind_eq_some_iff.mp h
    -- a service that was left without publications was dropped
    rw [leave] at hKept
    split at hKept
    · cases hKept
    · rename_i hLeft
      cases hKept
      simpa using hLeft
  case numbered =>
    intro known
    have hKnown : ∀ known,
        ((registry.afterClose connection id session).sessions.get? known).isSome =
          (registry.sessions.get? known).isSome := by
      intro known
      rw [← isSome_state?, ← isSome_state?, hState]
      by_cases hEq : known = id
      · rw [hEq, if_pos rfl, state?_of_get? hSession]
        rfl
      · rw [if_neg hEq]
    rw [sessionCount_congr hKnown, hKnown]
    exact hSound.numbered known

theorem closeConnection (hSound : registry.Sound) (connection : ConnectionId) :
    (registry.closeConnection connection).2.Sound := by
  cases hLive : registry.liveSession? connection with
  | none =>
    rw [closeConnection_of_not_live hLive]
    exact hSound
  | some found =>
    rw [closeConnection_of_live hLive]
    exact (hSound.afterClose hLive).emit _ _

theorem addPublication (hSound : registry.Sound) {module : FilterModule} {spec : PublicationSpec}
    {publication : Publication}
    (h : registry.addPublication connection service module spec = (.ok publication, after)) :
    after.Sound := by
  obtain ⟨id, session, predicate, hLive, -, hPublication, rfl⟩ := addPublication_ok h
  obtain ⟨hId, hSession, hOpened⟩ := liveSession?_eq_some_iff.mp hLive
  -- the session goes on as before, so that only the services are left to look at
  have hCounted : ({ registry with
      sessions := registry.sessions.insert id { session with adds := session.adds + 1 } } :
        Registry).Sound :=
    hSound.of_state?_eq rfl rfl (state?_of_replace rfl hSession rfl)
  constructor
  case live_open => exact hCounted.live_open
  case open_live => exact hCounted.open_live
  case held =>
    intro other stored held hHeld
    rw [publication?_of_store registry rfl] at hHeld
    by_cases hOwn : other = connection ∧ stored = service
    · rw [if_pos hOwn] at hHeld
      cases hHeld
      obtain ⟨rfl, rfl⟩ := hOwn
      rw [hPublication]
      exact ⟨rfl, rfl, hId⟩
    · rw [if_neg hOwn] at hHeld
      exact hSound.held hHeld
  case inhabited =>
    intro stored publications hStored
    change (registry.services.insert service _).get? stored = some publications at hStored
    rw [Table.get?_insert] at hStored
    by_cases hService : stored = service
    · rw [if_pos hService] at hStored
      cases hStored
      rw [Bool.eq_false_iff]
      intro hEmpty
      -- the service has at least the publication that was added
      have hNone := (Table.isEmpty_iff _).mp hEmpty connection
      rw [Table.get?_insert, if_pos rfl] at hNone
      cases hNone
    · rw [if_neg hService] at hStored
      exact hSound.inhabited hStored
  case numbered => exact hCounted.numbered

theorem removePublication (hSound : registry.Sound) {names : List String}
    (h : registry.removePublication connection service = (.ok names, after)) : after.Sound := by
  obtain ⟨-, -, rfl⟩ := removePublication_ok h
  constructor
  case live_open => exact hSound.live_open
  case open_live => exact hSound.open_live
  case held =>
    intro other stored held hHeld
    rw [publication?_of_drop registry rfl] at hHeld
    split at hHeld
    · cases hHeld
    · exact hSound.held hHeld
  case inhabited =>
    intro stored publications hStored
    change (registry.servicesWithout connection service).get? stored = some publications at hStored
    unfold servicesWithout at hStored
    dsimp only at hStored
    split at hStored
    · -- nothing was left on the service, which goes
      rw [Table.get?_erase] at hStored
      split at hStored
      · cases hStored
      · exact hSound.inhabited hStored
    · rename_i hLeft
      rw [Table.get?_insert] at hStored
      split at hStored
      · cases hStored
        simpa using hLeft
      · exact hSound.inhabited hStored
  case numbered => exact hSound.numbered

/-- A change of a session that leaves it as open as it was. -/
theorem modifySession (hSound : registry.Sound) (id : SessionId) {f : Session → Session}
    (hState : ∀ session, (f session).state = session.state) :
    (registry.modifySession id f).Sound :=
  hSound.of_state?_eq live_modifySession services_modifySession (state?_modifySession hState)

theorem deliver (hSound : registry.Sound) (id : SessionId) (delivery : Delivery) :
    (registry.deliver id delivery).2.Sound := by
  rw [deliver_snd]
  exact hSound.modifySession id (fun session => session.state_deliver delivery)

end Sound

end Registry

end Fanout
