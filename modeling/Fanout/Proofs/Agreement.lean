import Fanout.Proofs.Scope
import Fanout.Proofs.Sound

/-!
# Fanout — what a connection can tell of a registry

`Registry.AgreeOn` holds of two registries that are the same to one connection: to
its sessions, its publications and the listeners to it. What is done for another
connection does not show, and what is done for the connection itself comes to the
same in both.

## Results

* `Registry.AgreeOn.openConnection` and so on — an operation for the connection.
* `Registry.openConnection_agreeOn` and so on — an operation for another one.
-/

namespace Fanout

namespace Registry

/-- Two registries that are the same to a connection. -/
structure AgreeOn (connection : ConnectionId) (first second : Registry) : Prop where
  config : first.config = second.config
  live : first.live.get? connection = second.live.get? connection
  sessions : ∀ id : SessionId, id.connection = connection →
    first.sessions.get? id = second.sessions.get? id
  publications : ∀ service, first.publication? connection service =
    second.publication? connection service
  hub : first.hub.scopedTo connection = second.hub.scopedTo connection

variable {connection other : ConnectionId} {registry first second third after : Registry}

namespace AgreeOn

theorem refl (connection : ConnectionId) (registry : Registry) :
    registry.AgreeOn connection registry :=
  ⟨rfl, rfl, fun _ _ => rfl, fun _ => rfl, rfl⟩

theorem symm (h : first.AgreeOn connection second) : second.AgreeOn connection first :=
  ⟨h.config.symm, h.live.symm, fun id hId => (h.sessions id hId).symm,
    fun service => (h.publications service).symm, h.hub.symm⟩

theorem trans (hFirst : first.AgreeOn connection second)
    (hSecond : second.AgreeOn connection third) : first.AgreeOn connection third where
  config := hFirst.config.trans hSecond.config
  live := hFirst.live.trans hSecond.live
  sessions id hId := (hFirst.sessions id hId).trans (hSecond.sessions id hId)
  publications service := (hFirst.publications service).trans (hSecond.publications service)
  hub := hFirst.hub.trans hSecond.hub

/-! ## Look-ups -/

theorem liveSession? (h : first.AgreeOn connection second) (hSound : first.Sound) :
    first.liveSession? connection = second.liveSession? connection := by
  refine Option.ext (fun ⟨id, session⟩ => ?_)
  rw [liveSession?_eq_some_iff, liveSession?_eq_some_iff, h.live]
  constructor
  · -- the session that the connection is in is one of its own, which both have
    rintro ⟨hLive, hSession, hOpened⟩
    have hOwn := (hSound.live_open (h.live.trans hLive)).1
    exact ⟨hLive, h.sessions id hOwn ▸ hSession, hOpened⟩
  · rintro ⟨hLive, hSession, hOpened⟩
    have hOwn := (hSound.live_open (h.live.trans hLive)).1
    exact ⟨hLive, h.sessions id hOwn ▸ hSession, hOpened⟩

theorem sessionCount (h : first.AgreeOn connection second) :
    first.sessionCount connection = second.sessionCount connection := by
  -- the sessions of the connection are the same, and stand in the same order
  have hKeys : first.sessions.keys.filter (fun id => id.connection == connection) =
      second.sessions.keys.filter (fun id => id.connection == connection) := by
    refine eq_of_ascending_of_mem_iff (first.sessions.keys_ascending.filter _)
      (second.sessions.keys_ascending.filter _) (fun id => ?_)
    rw [List.mem_filter, List.mem_filter, Table.mem_keys_iff, Table.mem_keys_iff]
    refine and_congr_left (fun hOwn => ?_)
    rw [h.sessions id (beq_iff_eq.mp hOwn)]
  unfold Registry.sessionCount
  rw [hKeys]

end AgreeOn

theorem mem_servicesFor_iff {service : String} :
    service ∈ registry.servicesFor connection ↔
      (registry.publication? connection service).isSome := by
  rw [publication?_eq_bind]
  rw [servicesFor_eq, List.mem_map]
  constructor
  · rintro ⟨⟨name, publications⟩, hEntry, rfl⟩
    obtain ⟨hEntry, hHas⟩ := List.mem_filter.mp hEntry
    rw [(registry.services.mem_entries_iff).mp hEntry]
    exact hHas
  · intro h
    cases hService : registry.services.get? service with
    | none =>
      rw [hService] at h
      cases h
    | some publications =>
      rw [hService] at h
      refine ⟨(service, publications), List.mem_filter.mpr ⟨?_, h⟩, rfl⟩
      exact registry.services.mem_entries_iff.mpr hService

/-- The services of a connection are listed once each, ascending. -/
theorem servicesFor_ascending (registry : Registry) (connection : ConnectionId) :
    (registry.servicesFor connection).Pairwise (fun a b => compare a b = .lt) := by
  rw [servicesFor_eq]
  exact List.pairwise_map.mpr (registry.services.ascending.filter _)

theorem AgreeOn.servicesFor (h : first.AgreeOn connection second) :
    first.servicesFor connection = second.servicesFor connection := by
  refine eq_of_ascending_of_mem_iff (first.servicesFor_ascending connection)
    (second.servicesFor_ascending connection) (fun service => ?_)
  rw [mem_servicesFor_iff, mem_servicesFor_iff, h.publications]

/-! ## Operations for the connection -/

namespace AgreeOn

theorem emit (h : first.AgreeOn connection second) (diagnostic : Diagnostic) :
    (first.emit connection diagnostic).AgreeOn connection (second.emit connection diagnostic) := by
  refine ⟨h.config, h.live, h.sessions, h.publications, ?_⟩
  show (first.hub.emit _ _).scopedTo connection = (second.hub.emit _ _).scopedTo connection
  rw [Hub.scopedTo_emit_self, Hub.scopedTo_emit_self, h.hub]

theorem modifySession (h : first.AgreeOn connection second) {id : SessionId}
    (hOwn : id.connection = connection) (f : Session → Session) :
    (first.modifySession id f).AgreeOn connection (second.modifySession id f) := by
  have hSessions : ∀ known : SessionId, known.connection = connection →
      (first.modifySession id f).sessions.get? known =
        (second.modifySession id f).sessions.get? known := by
    intro known hKnown
    rw [get?_modifySession, get?_modifySession, h.sessions id hOwn, h.sessions known hKnown]
  -- the rest of a registry is none of a session's business
  have hRest : ∀ registry : Registry, ∃ sessions,
      registry.modifySession id f = { registry with sessions } := by
    intro registry
    unfold Registry.modifySession
    split
    · exact ⟨_, rfl⟩
    · exact ⟨_, rfl⟩
  obtain ⟨firstSessions, hFirst⟩ := hRest first
  obtain ⟨secondSessions, hSecond⟩ := hRest second
  rw [hFirst, hSecond] at hSessions ⊢
  exact ⟨h.config, h.live, hSessions, h.publications, h.hub⟩

theorem deliver (h : first.AgreeOn connection second) {id : SessionId}
    (hOwn : id.connection = connection) (delivery : Delivery) :
    (first.deliver id delivery).1 = (second.deliver id delivery).1 ∧
      (first.deliver id delivery).2.AgreeOn connection (second.deliver id delivery).2 := by
  rw [deliver_fst, deliver_fst, deliver_snd, deliver_snd, h.sessions id hOwn]
  exact ⟨rfl, h.modifySession hOwn _⟩

theorem openConnection (h : first.AgreeOn connection second) (sink : Sink) :
    (first.openConnection connection sink).1 = (second.openConnection connection sink).1 ∧
      (first.openConnection connection sink).2.AgreeOn connection
        (second.openConnection connection sink).2 := by
  unfold Registry.openConnection
  -- both look whether the connection is open, and number the session alike
  rw [Table.contains_eq, Table.contains_eq, h.live, h.sessionCount]
  split
  · exact ⟨rfl, h⟩
  · refine ⟨rfl, h.config, ?_, fun id hId => ?_, h.publications, h.hub⟩
    · show (first.live.insert _ _).get? _ = (second.live.insert _ _).get? _
      rw [Table.get?_insert, Table.get?_insert, if_pos rfl, if_pos rfl]
    · show (first.sessions.insert _ _).get? id = (second.sessions.insert _ _).get? id
      rw [Table.get?_insert, Table.get?_insert, h.sessions id hId]

theorem afterClose (h : first.AgreeOn connection second) (id : SessionId) (session : Session) :
    (first.afterClose connection id session).AgreeOn connection
      (second.afterClose connection id session) := by
  refine ⟨h.config, ?_, fun known hKnown => ?_, fun service => ?_, h.hub⟩
  · show (first.live.erase _).get? _ = (second.live.erase _).get? _
    rw [Table.get?_erase, Table.get?_erase, if_pos rfl, if_pos rfl]
  · show (first.sessions.insert _ _).get? known = (second.sessions.insert _ _).get? known
    rw [Table.get?_insert, Table.get?_insert, h.sessions known hKnown]
  · rw [publication?_afterClose, publication?_afterClose, if_pos rfl, if_pos rfl]

theorem closeConnection (h : first.AgreeOn connection second) (hSound : first.Sound) :
    (first.closeConnection connection).1 = (second.closeConnection connection).1 ∧
      (first.closeConnection connection).2.AgreeOn connection
        (second.closeConnection connection).2 := by
  -- both find the connection in the same session, or both find it closed
  have hSame := h.liveSession? hSound
  cases hLive : first.liveSession? connection with
  | none =>
    rw [closeConnection_of_not_live hLive, closeConnection_of_not_live (hSame ▸ hLive)]
    exact ⟨rfl, h⟩
  | some found =>
    rw [closeConnection_of_live hLive, closeConnection_of_live (hSame ▸ hLive), h.servicesFor]
    exact ⟨rfl, (h.afterClose _ _).emit _⟩

theorem addPublication (h : first.AgreeOn connection second) (hSound : first.Sound)
    (service : String) (module : FilterModule) (spec : PublicationSpec) :
    (first.addPublication connection service module spec).1 =
        (second.addPublication connection service module spec).1 ∧
      (first.addPublication connection service module spec).2.AgreeOn connection
        (second.addPublication connection service module spec).2 := by
  have hSame := h.liveSession? hSound
  unfold Registry.addPublication
  cases hLive : second.liveSession? connection with
  | none =>
    rw [hSame.trans hLive]
    exact ⟨rfl, h⟩
  | some found =>
    rw [hSame.trans hLive]
    dsimp only
    cases module.compile spec.name spec.positionalParams with
    | error error => exact ⟨rfl, h⟩
    | ok predicate =>
      -- the same publication is stored, in the same session, and reported
      dsimp only
      rw [whileOpen_of_live hLive, whileOpen_of_live (hSame.trans hLive)]
      refine ⟨rfl, AgreeOn.emit ?_ _⟩
      refine ⟨h.config, h.live, fun id hId => ?_, fun name => ?_, h.hub⟩
      · show (first.sessions.insert _ _).get? id = (second.sessions.insert _ _).get? id
        rw [Table.get?_insert, Table.get?_insert, h.sessions id hId]
      · refine Eq.trans (publication?_of_store first rfl) (Eq.trans ?_
          (publication?_of_store second rfl).symm)
        rw [h.publications]

theorem removePublication (h : first.AgreeOn connection second) (hSound : first.Sound)
    (service : String) :
    (first.removePublication connection service).1 =
        (second.removePublication connection service).1 ∧
      (first.removePublication connection service).2.AgreeOn connection
        (second.removePublication connection service).2 := by
  have hSame := h.liveSession? hSound
  cases hLive : second.liveSession? connection with
  | none =>
    unfold Registry.removePublication
    rw [hSame.trans hLive, hLive]
    exact ⟨rfl, h⟩
  | some found =>
    rw [removePublication_of_live hLive, removePublication_of_live (hSame.trans hLive),
      h.publications]
    refine ⟨rfl, h.config, h.live, h.sessions, fun name => ?_, ?_⟩
    · refine Eq.trans (publication?_of_drop first rfl) (Eq.trans ?_
        (publication?_of_drop second rfl).symm)
      rw [h.publications]
    · exact (h.emit (.removePublication service [])).hub

theorem useSession (h : first.AgreeOn connection second) {id : SessionId}
    (hOwn : id.connection = connection) (use : SessionUse) :
    (first.useSession id use).1 = (second.useSession id use).1 ∧
      (first.useSession id use).2.AgreeOn connection (second.useSession id use).2 := by
  rw [useSession_snd, useSession_snd]
  exact ⟨useSession_fst_congr (h.sessions id hOwn) use, h.modifySession hOwn _⟩

theorem subscribe (h : first.AgreeOn connection second) :
    (first.hub.subscribe (some connection)).1 = (second.hub.subscribe (some connection)).1 ∧
      ({ first with hub := (first.hub.subscribe (some connection)).2 } : Registry).AgreeOn
        connection { second with hub := (second.hub.subscribe (some connection)).2 } := by
  obtain ⟨hFirstId, hFirst⟩ := @Hub.scopedTo_subscribe_self first.hub connection
  obtain ⟨hSecondId, hSecond⟩ := @Hub.scopedTo_subscribe_self second.hub connection
  rw [hFirstId, hSecondId, h.hub]
  exact ⟨rfl, h.config, h.live, h.sessions, h.publications, by rw [hFirst, hSecond, h.hub]⟩

theorem useListener (h : first.AgreeOn connection second) {id : ListenerId}
    (hOwn : id.scope = some connection) (use : ListenerUse) :
    (first.hub.useListener id use).1 = (second.hub.useListener id use).1 ∧
      ({ first with hub := (first.hub.useListener id use).2 } : Registry).AgreeOn
        connection { second with hub := (second.hub.useListener id use).2 } := by
  obtain ⟨hFirstGiven, hFirst⟩ := @Hub.scopedTo_useListener_self first.hub connection id use hOwn
  obtain ⟨hSecondGiven, hSecond⟩ := @Hub.scopedTo_useListener_self second.hub connection id use hOwn
  rw [hFirstGiven, hSecondGiven, h.hub]
  exact ⟨rfl, h.config, h.live, h.sessions, h.publications, by rw [hFirst, hSecond, h.hub]⟩

end AgreeOn

/-! ## Operations for another connection -/

theorem emit_agreeOn (registry : Registry) (diagnostic : Diagnostic) (h : other ≠ connection) :
    (registry.emit other diagnostic).AgreeOn connection registry :=
  ⟨rfl, rfl, fun _ _ => rfl, fun _ => rfl, Hub.scopedTo_emit_other diagnostic h⟩

theorem modifySession_agreeOn (registry : Registry) {id : SessionId} (f : Session → Session)
    (h : id.connection ≠ connection) :
    (registry.modifySession id f).AgreeOn connection registry := by
  unfold modifySession
  split
  · exact .refl _ _
  · refine ⟨rfl, rfl, fun known hKnown => ?_, fun _ => rfl, rfl⟩
    show (registry.sessions.insert id _).get? known = _
    have hNe : known ≠ id := fun hEq => h (by rw [← hEq, hKnown])
    rw [Table.get?_insert, if_neg hNe]

theorem deliver_agreeOn (registry : Registry) {id : SessionId} (delivery : Delivery)
    (h : id.connection ≠ connection) :
    (registry.deliver id delivery).2.AgreeOn connection registry := by
  rw [deliver_snd]
  exact registry.modifySession_agreeOn _ h

theorem openConnection_agreeOn {sink : Sink} {id : SessionId}
    (hOpen : registry.openConnection other sink = (.ok id, after)) (h : other ≠ connection) :
    after.AgreeOn connection registry := by
  obtain ⟨-, hId, rfl⟩ := openConnection_ok hOpen
  -- the new session is one of the other connection
  refine ⟨rfl, ?_, fun known hKnown => ?_, fun _ => rfl, rfl⟩
  · show (registry.live.insert other id).get? connection = _
    rw [Table.get?_insert, if_neg (Ne.symm h)]
  · show (registry.sessions.insert id _).get? known = _
    have hNe : known ≠ id := fun hEq => h (by rw [← hKnown, hEq, hId])
    rw [Table.get?_insert, if_neg hNe]

theorem closeConnection_agreeOn (hSound : registry.Sound) (h : other ≠ connection) :
    (registry.closeConnection other).2.AgreeOn connection registry := by
  cases hLive : registry.liveSession? other with
  | none =>
    rw [closeConnection_of_not_live hLive]
    exact .refl _ _
  | some found =>
    obtain ⟨id, session⟩ := found
    -- the session that ends is one of the other connection
    have hOwn := (hSound.live_open (liveSession?_eq_some_iff.mp hLive).1).1
    rw [closeConnection_of_live hLive]
    refine (emit_agreeOn _ _ h).trans ⟨rfl, ?_, fun known hKnown => ?_, fun service => ?_, rfl⟩
    · show (registry.live.erase other).get? connection = _
      rw [Table.get?_erase, if_neg (Ne.symm h)]
    · show (registry.sessions.insert id _).get? known = _
      have hNe : known ≠ id := fun hEq => h (by rw [← hOwn, ← hEq, hKnown])
      rw [Table.get?_insert, if_neg hNe]
    · rw [publication?_afterClose, if_neg (Ne.symm h)]

theorem addPublication_agreeOn (hSound : registry.Sound) {service : String}
    {module : FilterModule} {spec : PublicationSpec} {publication : Publication}
    (hAdd : registry.addPublication other service module spec = (.ok publication, after))
    (h : other ≠ connection) : after.AgreeOn connection registry := by
  obtain ⟨id, session, predicate, hLive, -, -, rfl⟩ := addPublication_ok hAdd
  -- the session that counts the addition is one of the other connection
  have hOwn := (hSound.live_open (liveSession?_eq_some_iff.mp hLive).1).1
  refine ⟨rfl, rfl, fun known hKnown => ?_, fun name => ?_, Hub.scopedTo_emit_other _ h⟩
  · show (registry.sessions.insert id _).get? known = _
    have hNe : known ≠ id := fun hEq => h (by rw [← hOwn, ← hEq, hKnown])
    rw [Table.get?_insert, if_neg hNe]
  · rw [publication?_of_store registry rfl, if_neg (fun hBoth => h hBoth.1.symm)]

theorem removePublication_agreeOn {service : String} {names : List String}
    (hRemove : registry.removePublication other service = (.ok names, after))
    (h : other ≠ connection) : after.AgreeOn connection registry := by
  obtain ⟨-, -, rfl⟩ := removePublication_ok hRemove
  refine ⟨rfl, rfl, fun _ _ => rfl, fun name => ?_, Hub.scopedTo_emit_other _ h⟩
  rw [publication?_of_drop registry rfl, if_neg (fun hBoth => h hBoth.1.symm)]

end Registry

end Fanout
