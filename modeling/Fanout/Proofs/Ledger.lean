import Fanout.Proofs.Delivery
import Mathlib.Data.Finset.Card
import Mathlib.Data.Finset.Filter
import Mathlib.Data.List.Nodup

/-!
# Fanout — the ledger of a registry

To its callers a registry is a set of open connections and one flat map from places
to holdings, a place being a connection on a service. `Ledger` is that, with the
operations as a client would describe them; sessions, sinks and the two levels of
tables of a registry do not occur in it.

## Main definitions

* `Ledger.request`, `Ledger.execute` — what an operation answers, and what it leaves.
* `Ledger.follow`, `Ledger.replay` — the ledger along a run.
* `Registry.ShownBy` — every observer of a registry gives what a ledger says.

## Results

* `Registry.Shows.shownBy` — all observers follow from two of them.
-/

namespace Fanout

/-! ## Places and holdings -/

/-- The place of one connection on one service. -/
structure Slot where
  connection : ConnectionId
  service : String
  deriving DecidableEq

namespace Slot

instance : Ord Slot := ⟨compareLex (compareOn connection) (compareOn service)⟩

instance : Std.TransOrd Slot :=
  inferInstanceAs (Std.TransCmp (compareLex (compareOn connection) (compareOn service)))

instance : Std.LawfulEqOrd Slot where
  eq_of_compare {a b} h := by
    obtain ⟨hConnection, hService⟩ := compareLex_eq_eq.mp h
    have hConnection : a.connection = b.connection := Std.LawfulEqOrd.eq_of_compare hConnection
    have hService : a.service = b.service := Std.LawfulEqOrd.eq_of_compare hService
    cases a
    cases b
    simp_all

/-- Among the places of one connection, the services decide. -/
theorem compare_of_connection {a b : Slot} (h : a.connection = b.connection) :
    compare a b = compare a.service b.service := by
  show (compare a.connection b.connection).then (compare a.service b.service) = _
  rw [h, Std.ReflOrd.compare_self]
  rfl

/-- Among the places on one service, the connections decide. -/
theorem compare_of_service {a b : Slot} (h : a.service = b.service) :
    compare a b = compare a.connection b.connection := by
  show (compare a.connection b.connection).then (compare a.service b.service) = _
  rw [h, Std.ReflOrd.compare_self]
  exact Ordering.then_eq

end Slot

/-- What is held in a place. -/
structure Holding where
  name : String
  params : List Json
  predicate : Predicate
  ifServer : Bool
  checkBefore : Bool

/-- A publication without its place and its session. -/
def Publication.holding (publication : Publication) : Holding :=
  ⟨publication.name, publication.params, publication.predicate, publication.ifServer,
    publication.checkBefore⟩

/-! ## Ledgers -/

/-- The open connections, and what is held in which place. -/
structure Ledger where
  opened : Finset ConnectionId := ∅
  held : Table Slot Holding := Table.empty

namespace Ledger

/-- The services that a connection holds something on, ascending. -/
def servicesOf (ledger : Ledger) (connection : ConnectionId) : List String :=
  (ledger.held.keys.filter (fun slot => slot.connection == connection)).map Slot.service

/-- What is held on a service, by connection. -/
def holdingsOn (ledger : Ledger) (service : String) : List (ConnectionId × Holding) :=
  (ledger.held.entries.filter (fun entry => entry.1.service == service)).map
    (fun entry => (entry.1.connection, entry.2))

/-- The services that something is held on. -/
def services (ledger : Ledger) : Finset String := (ledger.held.keys.map Slot.service).toFinset

/-- Close connections, with everything that they hold. -/
def close (ledger : Ledger) (gone : List ConnectionId) : Ledger where
  opened := ledger.opened.filter (· ∉ gone)
  held := ledger.held.filterMap
    (fun slot holding => if slot.connection ∈ gone then none else some holding)

/-- The answer to an operation, and the ledger after it. To publish an event is not the ledger's
business. -/
def request (module : FilterModule) (ledger : Ledger) : Request → Option Reply × Ledger
  | .attend => (some .done, ledger)
  | .openConnection connection _ =>
    if connection ∈ ledger.opened then (some (.refused (.connectionExists connection)), ledger)
    else (some .done, { ledger with opened := insert connection ledger.opened })
  | .closeConnection connection =>
    if connection ∈ ledger.opened then
      (some (.released (some (ledger.servicesOf connection))), ledger.close [connection])
    else (some (.released none), ledger)
  | .addPublication connection service spec =>
    if connection ∈ ledger.opened then
      let params := canonicalParams spec.params
      match module.compile spec.name params with
      | .error error => (some (.refused error), ledger)
      | .ok predicate => (some .done, { ledger with
          held := ledger.held.insert ⟨connection, service⟩
            ⟨spec.name, params, predicate, spec.ifServer, spec.checkBefore⟩ })
    else (some (.refused (.staleConnection connection)), ledger)
  | .removePublication connection service =>
    if connection ∈ ledger.opened then
      (some (.removed ((ledger.held.get? ⟨connection, service⟩).map Holding.name).toList),
        { ledger with held := ledger.held.erase ⟨connection, service⟩ })
    else (some (.refused (.staleConnection connection)), ledger)
  | .publish _ => (none, ledger)

/-- The outcome of a command as far as it is settled by the ledger, and the ledger after it. -/
def execute (filters : FilterModule) (ledger : Ledger) : Command → Option Outcome × Ledger
  | .request asked =>
    let (reply, after) := ledger.request filters asked
    (reply.map .reply, after)
  | .inbound message => (some .done, (ledger.request filters message.request).2)
  | .addFrom module connection service spec =>
    let (reply, after) := ledger.request module (.addPublication connection service spec)
    (reply.map .reply, after)
  | .route _ | .subscribe _ | .session _ _ | .listener _ _ => (none, ledger)

end Ledger

/-! ## Runs -/

namespace Server.Step

/-- What the sinks answered in a step, by session. -/
def answers (step : Step) : List (SessionId × Delivery × Offer) :=
  step.after.registry.sessions.keys.flatMap (fun id =>
    ((step.after.registry.log id).drop (step.before.registry.log id).length).map (fun entry =>
      (id, entry)))

/-- The connections whose sinks answered in a step that they are gone. -/
def gone (step : Step) : List ConnectionId :=
  (step.answers.filter (fun answer => answer.2.2 == .disconnected)).map
    (fun answer => answer.1.connection)

end Server.Step

namespace Ledger

/-- The ledger after a step. An event touches it only by the connections that are closed for their
sinks being gone. -/
def follow (filters : FilterModule) (config : Config) (ledger : Ledger) (step : Server.Step) :
    Ledger :=
  match step.command.event? with
  | some _ => if config.closeOnDisconnect then ledger.close step.gone else ledger
  | none => (ledger.execute filters step.command).2

/-- The ledger after the steps of a run. -/
def replay (filters : FilterModule) (config : Config) (ledger : Ledger)
    (steps : List Server.Step) : Ledger :=
  steps.foldl (follow filters config) ledger

end Ledger

/-! ## Registries and ledgers -/

namespace Registry

/-- Every observer of a registry gives what a ledger says. -/
structure ShownBy (registry : Registry) (ledger : Ledger) : Prop where
  isOpen : ∀ connection, registry.isOpen connection = decide (connection ∈ ledger.opened)
  publication : ∀ connection service,
    (registry.publication? connection service).map Publication.holding =
      ledger.held.get? ⟨connection, service⟩
  servicesFor : ∀ connection, registry.servicesFor connection = ledger.servicesOf connection
  ascending : ∀ connection,
    (registry.servicesFor connection).Pairwise (fun a b => compare a b = .lt)
  snapshot : ∀ service,
    (registry.snapshot service).map (fun entry => (entry.1, entry.2.holding)) =
      ledger.holdingsOn service
  connectionCount : registry.connectionCount = ledger.opened.card
  publicationCount : registry.publicationCount = ledger.held.size
  serviceCount : registry.serviceCount = ledger.services.card

/-- The two observers that settle all others. -/
structure Shows (registry : Registry) (ledger : Ledger) : Prop where
  opened : ∀ connection, connection ∈ ledger.opened ↔ (registry.live.get? connection).isSome
  held : ∀ connection service, ledger.held.get? ⟨connection, service⟩ =
    (registry.publication? connection service).map Publication.holding

variable {registry : Registry} {ledger : Ledger}

namespace Shows

theorem mem_keys_iff (hShows : registry.Shows ledger) (slot : Slot) :
    slot ∈ ledger.held.keys ↔ (registry.publication? slot.connection slot.service).isSome := by
  rw [Table.mem_keys_iff, hShows.held, Option.isSome_map]

theorem servicesFor (hShows : registry.Shows ledger) (connection : ConnectionId) :
    registry.servicesFor connection = ledger.servicesOf connection := by
  -- both are ascending, so that it is enough to compare what they list
  have hAscending : (ledger.servicesOf connection).Pairwise (fun a b => compare a b = .lt) := by
    refine List.pairwise_map.mpr ?_
    refine List.Pairwise.imp_of_mem (fun {a b} ha hb hab => ?_)
      (ledger.held.keys_ascending.filter _)
    have hOwner := (List.mem_filter.mp ha).2
    have hOther := (List.mem_filter.mp hb).2
    rw [← hab, Slot.compare_of_connection (by rw [beq_iff_eq.mp hOwner, beq_iff_eq.mp hOther])]
  refine eq_of_ascending_of_mem_iff (registry.servicesFor_ascending connection) hAscending
    (fun service => ?_)
  rw [mem_servicesFor_iff]
  unfold Ledger.servicesOf
  rw [List.mem_map]
  constructor
  · intro h
    refine ⟨⟨connection, service⟩, List.mem_filter.mpr ⟨?_, beq_self_eq_true _⟩, rfl⟩
    exact (hShows.mem_keys_iff _).mpr h
  · rintro ⟨slot, hSlot, rfl⟩
    obtain ⟨hKey, hOwner⟩ := List.mem_filter.mp hSlot
    rw [← beq_iff_eq.mp hOwner]
    exact (hShows.mem_keys_iff slot).mp hKey

theorem snapshot (hShows : registry.Shows ledger) (service : String) :
    (registry.snapshot service).map (fun entry => (entry.1, entry.2.holding)) =
      ledger.holdingsOn service := by
  -- both list connections in ascending order, the places on one service being in that order
  have hSnapshot : Entries.Ascending
      ((registry.snapshot service).map (fun entry => (entry.1, entry.2.holding))) :=
    List.pairwise_map.mpr (registry.publicationsOn service).ascending
  have hHoldings : Entries.Ascending (ledger.holdingsOn service) := by
    refine List.pairwise_map.mpr ?_
    refine List.Pairwise.imp_of_mem (fun {a b} ha hb hab => ?_)
      (List.Pairwise.filter _ ledger.held.ascending)
    have hOn := (List.mem_filter.mp ha).2
    have hOther := (List.mem_filter.mp hb).2
    rw [← hab, Slot.compare_of_service (by rw [beq_iff_eq.mp hOn, beq_iff_eq.mp hOther])]
  refine Entries.ext_of_ascending hSnapshot hHoldings (fun connection => ?_)
  refine Option.ext (fun holding => ?_)
  -- so it is enough to compare what they have under each connection
  rw [← Entries.mem_iff_find? hSnapshot, ← Entries.mem_iff_find? hHoldings, List.mem_map]
  unfold Ledger.holdingsOn
  rw [List.mem_map]
  have hHeld := hShows.held connection service
  constructor
  · rintro ⟨⟨other, publication⟩, hEntry, hEq⟩
    cases hEq
    rw [mem_snapshot_iff.mp hEntry] at hHeld
    refine ⟨(⟨other, service⟩, publication.holding), List.mem_filter.mpr ⟨?_, ?_⟩, rfl⟩
    · exact (Table.mem_entries_iff _).mpr hHeld
    · exact beq_self_eq_true _
  · rintro ⟨⟨slot, value⟩, hEntry, hEq⟩
    obtain ⟨rfl, rfl⟩ := Prod.mk.inj hEq
    obtain ⟨hMember, hOn⟩ := List.mem_filter.mp hEntry
    have hOn : slot.service = service := beq_iff_eq.mp hOn
    subst hOn
    have hValue : ledger.held.get? slot = some value := (Table.mem_entries_iff _).mp hMember
    rw [hValue] at hHeld
    obtain ⟨publication, hPublication, hHolding⟩ := Option.map_eq_some_iff.mp hHeld.symm
    exact ⟨(slot.connection, publication), mem_snapshot_iff.mpr hPublication, by rw [hHolding]⟩

/-! ## Counts -/

theorem connectionCount (hShows : registry.Shows ledger) :
    registry.connectionCount = ledger.opened.card := by
  have hOpened : ledger.opened = registry.live.keys.toFinset := by
    ext connection
    rw [List.mem_toFinset, Table.mem_keys_iff, hShows.opened]
  rw [hOpened, List.toFinset_card_of_nodup registry.live.keys_nodup]
  exact (Table.length_keys _).symm

/-- The places that the publications of a registry take. -/
def slots (registry : Registry) : List Slot :=
  registry.services.entries.flatMap (fun entry => entry.2.keys.map (fun connection =>
    ⟨connection, entry.1⟩))

theorem mem_slots_iff (registry : Registry) (slot : Slot) :
    slot ∈ slots registry ↔ (registry.publication? slot.connection slot.service).isSome := by
  unfold slots
  rw [List.mem_flatMap, publication?_eq_bind]
  constructor
  · rintro ⟨⟨service, publications⟩, hEntry, hSlot⟩
    obtain ⟨connection, hKey, rfl⟩ := List.mem_map.mp hSlot
    rw [registry.services.mem_entries_iff.mp hEntry]
    exact publications.mem_keys_iff.mp hKey
  · intro h
    cases hService : registry.services.get? slot.service with
    | none =>
      rw [hService] at h
      cases h
    | some publications =>
      rw [hService] at h
      refine ⟨(slot.service, publications), registry.services.mem_entries_iff.mpr hService, ?_⟩
      exact List.mem_map.mpr ⟨slot.connection, publications.mem_keys_iff.mpr h, rfl⟩

theorem slots_nodup (registry : Registry) : (slots registry).Nodup := by
  refine List.nodup_flatMap.mpr ⟨fun entry _ => ?_, ?_⟩
  · -- a connection is on a service once
    refine List.Nodup.map (fun a b hab => ?_) entry.2.keys_nodup
    exact congrArg Slot.connection hab
  · refine registry.services.ascending.distinct.imp (fun {a b} hab slot hSlot hOther => hab ?_)
    -- a place is on one service only
    obtain ⟨connection, -, rfl⟩ := List.mem_map.mp hSlot
    obtain ⟨other, -, hEq⟩ := List.mem_map.mp hOther
    exact (congrArg Slot.service hEq).symm

theorem publicationCount (hShows : registry.Shows ledger) :
    registry.publicationCount = ledger.held.size := by
  -- the places are counted service by service here, and all together there
  have hPerm : (slots registry).Perm ledger.held.keys := by
    refine (List.perm_ext_iff_of_nodup (slots_nodup registry) ledger.held.keys_nodup).mpr ?_
    intro slot
    rw [mem_slots_iff, hShows.mem_keys_iff]
  rw [← Table.length_keys, ← hPerm.length_eq]
  unfold Registry.publicationCount slots Table.values Table.keys
  rw [List.length_flatMap, List.length_flatMap, List.map_map]
  simp [Function.comp_def]

theorem serviceCount (hShows : registry.Shows ledger) (hSound : registry.Sound) :
    registry.serviceCount = ledger.services.card := by
  have hServices : ledger.services = registry.services.keys.toFinset := by
    ext service
    unfold Ledger.services
    rw [List.mem_toFinset, List.mem_toFinset, List.mem_map, Table.mem_keys_iff]
    constructor
    · rintro ⟨slot, hSlot, rfl⟩
      have hHeld := (hShows.mem_keys_iff slot).mp hSlot
      rw [publication?_eq_bind] at hHeld
      exact Option.isSome_of_isSome_bind hHeld
    · intro h
      obtain ⟨publications, hPublications⟩ := Option.isSome_iff_exists.mp h
      -- a service is not kept without publications
      obtain ⟨connection, hHeld⟩ : ∃ connection, (publications.get? connection).isSome := by
        by_contra hNone
        have hEmpty : publications.isEmpty = true := by
          refine (Table.isEmpty_iff _).mpr (fun connection => ?_)
          simpa using not_exists.mp hNone connection
        rw [hSound.inhabited hPublications] at hEmpty
        cases hEmpty
      refine ⟨⟨connection, service⟩, (hShows.mem_keys_iff _).mpr ?_, rfl⟩
      rw [publication?_eq_bind, hPublications]
      exact hHeld
  rw [hServices, List.toFinset_card_of_nodup registry.services.keys_nodup]
  exact (Table.length_keys _).symm

end Shows

theorem Shows.shownBy (hShows : registry.Shows ledger) (hSound : registry.Sound) :
    registry.ShownBy ledger where
  isOpen connection := by
    have hOpen : (registry.liveSession? connection).isSome ↔ _ := hSound.liveSession?_isSome_iff
    rw [← hShows.opened] at hOpen
    unfold isOpen
    by_cases h : connection ∈ ledger.opened
    · rw [hOpen.mpr h, decide_eq_true h]
    · rw [decide_eq_false h, Bool.eq_false_iff]
      exact fun hSome => h (hOpen.mp hSome)
  publication connection service := (hShows.held connection service).symm
  servicesFor := hShows.servicesFor
  ascending := registry.servicesFor_ascending
  snapshot := hShows.snapshot
  connectionCount := hShows.connectionCount
  publicationCount := hShows.publicationCount
  serviceCount := hShows.serviceCount hSound

end Registry

end Fanout
