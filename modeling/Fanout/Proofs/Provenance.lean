import Mathlib.Data.Set.Card
import Fanout.Proofs.Closing

/-!
# Fanout — where publications come from

A publication in the registry names a connection, a service and a session. At every
point of a run, also in the middle of a routing whose predicates change the
registry, it stands where it says, an addition on the way there compiled it for that
place, and its session is the one that its connection is in now.

## Main definitions

* `Registry.Adds` — an addition that compiles and stores a publication.
* `Machine.Added` — there was such an addition on the way from one state to another.

## Results

* `Machine.Run.added_of_mem` — what a run reports as added, it has added.
* `Registry.Sound.serviceCount_eq` — the services that are counted are those with publications.
* `Machine.Run.registry_in_order` — the tables of a registry at every point of a run.
-/

namespace Fanout

variable {publication : Publication} {connection : ConnectionId} {service : String}

/-! ## Additions on the way -/

/-- A spec is compiled, and stored as the publication of a connection on a service, which are
those that the publication names. -/
def Registry.Adds (registry : Registry) (publication : Publication) (after : Registry) : Prop :=
  ∃ module spec, registry.addPublication publication.connection publication.service module spec =
    (.ok publication, after)

theorem Registry.adds_of_ok {registry after : Registry} {module : FilterModule}
    {spec : PublicationSpec}
    (h : registry.addPublication connection service module spec = (.ok publication, after)) :
    registry.Adds publication after := by
  have hNames : publication.connection = connection ∧ publication.service = service := by
    obtain ⟨id, session, predicate, -, -, hPublication, -⟩ := Registry.addPublication_ok h
    rw [hPublication]
    exact ⟨rfl, rfl⟩
  obtain ⟨rfl, rfl⟩ := hNames
  exact ⟨module, spec, h⟩

/-- Only an addition reports a publication as added, and it is the one that it stores. -/
theorem Server.Does.added_of_mem {server after : Server} {request : Request}
    {events : List Event} {reply : Reply} (hDoes : server.Does request events reply after)
    (h : Event.added publication ∈ events) :
    events = [.added publication] ∧ server.registry.Adds publication after.registry := by
  cases hDoes with
  | added hAdd =>
    cases List.mem_singleton.mp h
    exact ⟨rfl, Registry.adds_of_ok hAdd⟩
  | opened | closed => cases List.mem_singleton.mp h
  | attended | openRefused | notOpen | addRefused | removed | removeRefused => cases h

theorem Server.AtOnce.added_of_mem {server after : Server} {command : Command} {outcome : Outcome}
    {events : List Event} (hDone : server.AtOnce command outcome events after)
    (h : Event.added publication ∈ events) :
    events = [.added publication] ∧ server.registry.Adds publication after.registry := by
  cases hDone with
  | request hDoes => exact hDoes.added_of_mem h
  | inbound hDoes => exact hDoes.added_of_mem h
  | added hAdd =>
    cases List.mem_singleton.mp h
    exact ⟨rfl, Registry.adds_of_ok hAdd⟩
  | addRefused | subscribe | session | listener => cases h

/-- The answer of a predicate adds nothing. -/
theorem Frame.added_not_mem_events (frame : Frame) (server : Server)
    (entry : ConnectionId × Publication) (result : Except FilterError Bool) :
    Event.added publication ∉ frame.events server entry result := by
  intro h
  unfold Frame.events at h
  split at h
  · -- a match is handed over, or misses its session
    have hHanding := List.mem_singleton.mp h
    unfold Server.handing at hHanding
    split at hHanding
    · split at hHanding <;> cases hHanding
    · cases hHanding
  · cases h

namespace Machine

variable {first machine next : Machine} {events new : List Event}

theorem Step.added_of_mem (hStep : Step machine new next) (h : Event.added publication ∈ new) :
    new = [.added publication] ∧
      machine.server.registry.Adds publication next.server.registry := by
  cases hStep with
  | act hFocus hDoes => exact hDoes.added_of_mem h
  | reap hTested hConfig hGone hDoes => exact hDoes.added_of_mem h
  | conclude => exact absurd h (Frame.added_not_mem_events _ _ _ _)
  | visit | nest | yield | finish => cases h

theorem Issue.added_of_mem {command : Command} (hIssue : Issue machine command new next)
    (h : Event.added publication ∈ new) :
    new = [.added publication] ∧
      machine.server.registry.Adds publication next.server.registry := by
  cases hIssue with
  | atOnce hDone => exact hDone.added_of_mem h
  | routing => cases h

/-- On the way from one state to another, a publication was compiled and stored. -/
def Added (first last : Machine) (publication : Publication) : Prop :=
  ∃ commands past before given stored later future,
    Run first commands past before ∧
    Run before given [.added publication] stored ∧
    before.server.registry.Adds publication stored.server.registry ∧
    Run stored later future last

theorem Added.trans {commands : List Command} (hAdded : Added first machine publication)
    (hRun : Run machine commands new next) : Added first next publication := by
  obtain ⟨_, _, before, _, stored, _, _, hBefore, hGiven, hAdds, hLater⟩ := hAdded
  exact ⟨_, _, before, _, stored, _, _, hBefore, hGiven, hAdds, hLater.trans hRun⟩

/-- What a run reports as added, it has added. -/
theorem Run.added_of_mem {commands : List Command} (hRun : Run first commands events machine)
    (h : Event.added publication ∈ events) : Added first machine publication := by
  -- by induction on the run: it was added earlier, or by what was done last
  induction hRun with
  | start => cases h
  | issue hRun hIssue ih =>
    have hLast := Run.issue .start hIssue
    rcases List.mem_append.mp h with hEarlier | hNow
    · exact (ih hEarlier).trans hLast
    · obtain ⟨rfl, hAdds⟩ := hIssue.added_of_mem hNow
      exact ⟨_, _, _, _, _, [], [], hRun, hLast, hAdds, .start⟩
  | step hRun hStep ih =>
    have hLast := Run.single hStep
    rcases List.mem_append.mp h with hEarlier | hNow
    · exact (ih hEarlier).trans hLast
    · obtain ⟨rfl, hAdds⟩ := hStep.added_of_mem hNow
      exact ⟨_, _, _, _, _, [], [], hRun, hLast, hAdds, .start⟩

end Machine

/-! ## Services with publications -/

namespace Registry

variable {registry : Registry}

theorem Sound.mem_services_iff (hSound : registry.Sound) :
    service ∈ registry.services.keys ↔
      ∃ connection, (registry.publication? connection service).isSome := by
  rw [Table.mem_keys_iff]
  constructor
  · intro hKept
    obtain ⟨publications, hPublications⟩ := Option.isSome_iff_exists.mp hKept
    -- a service is not kept empty, so that a look-up in it finds something
    have hInhabited := hSound.inhabited hPublications
    by_contra hNone
    have hEmpty : publications.isEmpty = true := by
      refine (Table.isEmpty_iff _).mpr (fun connection => ?_)
      have hAbsent : ¬(registry.publication? connection service).isSome :=
        fun hSome => hNone ⟨connection, hSome⟩
      rw [publication?_eq_bind, hPublications, Option.bind_some] at hAbsent
      exact Option.not_isSome_iff_eq_none.mp hAbsent
    rw [hEmpty] at hInhabited
    cases hInhabited
  · rintro ⟨connection, hHeld⟩
    rw [publication?_eq_bind] at hHeld
    cases hPublications : registry.services.get? service with
    | some publications => rfl
    | none =>
      rw [hPublications] at hHeld
      cases hHeld

/-- The services that are counted are those with publications. -/
theorem Sound.serviceCount_eq (hSound : registry.Sound) :
    registry.serviceCount =
      {service | ∃ connection, (registry.publication? connection service).isSome}.ncard := by
  have hServices : {service | ∃ connection, (registry.publication? connection service).isSome} =
      (registry.services.keys.toFinset : Set String) := by
    ext service
    rw [Set.mem_ofPred_eq, Finset.mem_coe, List.mem_toFinset, hSound.mem_services_iff]
  rw [hServices, Set.ncard_coe_finset, List.toFinset_card_of_nodup registry.services.keys_nodup,
    Table.length_keys]
  rfl

end Registry

/-! ## Every point of a run -/

/-- The tables of a registry are in order at every point of a run, also in the middle of a routing
whose predicates act on the server, in whatever order it takes the publications; and every run of
commands is a run of the machine. An open connection is in a session of its own that goes on. A
publication stands under the connection and the service that it names and that it was compiled for,
and it belongs to the session that its connection is in, which goes on; a connection that is not
open has none. No service is kept without publications, so that those are counted that have some. -/
theorem Machine.Run.registry_in_order (filters : FilterModule) (config : Config) :
    (∀ server depth commands steps last, Server.run depth server commands = some (steps, last) →
      ∃ events, Run ⟨server, []⟩ commands events ⟨last, []⟩) ∧
    ∀ commands events machine, Run ⟨Server.new filters config, []⟩ commands events machine →
      (∀ connection id, machine.server.registry.live.get? connection = some id →
        id.connection = connection ∧ machine.server.registry.state? id = some .opened) ∧
      (∀ service publications, machine.server.registry.services.get? service = some publications →
        publications.isEmpty = false ∧
        ∀ connection publication, publications.get? connection = some publication →
          publication.connection = connection ∧ publication.service = service ∧
            Added ⟨Server.new filters config, []⟩ machine publication ∧
            machine.server.registry.live.get? connection = some publication.session ∧
            machine.server.registry.state? publication.session = some .opened) ∧
      (∀ connection, machine.server.registry.isOpen connection = false →
        ∀ service, machine.server.registry.publication? connection service = none) ∧
      machine.server.registry.serviceCount =
        {service | ∃ connection,
          (machine.server.registry.publication? connection service).isSome}.ncard := by
  refine ⟨fun server depth commands steps last h => Server.run_run h, ?_⟩
  intro commands events machine hRun
  have hSound : machine.server.registry.Sound := hRun.follows.sound (Registry.Sound.new config)
  refine ⟨fun connection id => hSound.live_open, ?_, ?_, hSound.serviceCount_eq⟩
  · intro service publications hService
    refine ⟨hSound.inhabited hService, fun connection publication hStored => ?_⟩
    have hHeld : machine.server.registry.publication? connection service = some publication := by
      rw [Registry.publication?_eq_bind, hService]
      exact hStored
    obtain ⟨hConnection, hName, hLive⟩ := hSound.held hHeld
    -- what is held was reported as added, and so it was added
    have hAdded := hRun.added_of_mem (hRun.chronicled.registry.held _ _ _ hHeld)
    exact ⟨hConnection, hName, hAdded, hLive, (hSound.live_open hLive).2⟩
  · intro connection hClosed service
    refine Option.eq_none_iff_forall_ne_some.mpr (fun publication hHeld => ?_)
    -- a connection that holds a publication is in a session, and so it is open
    have hLive := (hSound.held hHeld).2.2
    have hOpen : machine.server.registry.isOpen connection = true :=
      hSound.liveSession?_isSome_iff.mpr (by rw [hLive]; rfl)
    rw [hOpen] at hClosed
    cases hClosed

/-- A connection that is closed in the middle of a routing, opened again, and publishes again. -/
def Command.returning : List Command :=
  Command.leaving ++ [.request (.addPublication ⟨1⟩ "orders" { name := "leave" })]

theorem Machine.Run.registry_in_order_returning :
    ∃ steps last events publication,
      (Server.new .leaving {}).run 1 Command.returning = some (steps, last) ∧
      Run ⟨Server.new .leaving {}, []⟩ Command.returning events ⟨last, []⟩ ∧
      last.registry.publication? ⟨1⟩ "orders" = some publication ∧
      publication.session = ⟨⟨1⟩, 1⟩ ∧ last.registry.state? ⟨⟨1⟩, 1⟩ = some .opened ∧
      Added ⟨Server.new .leaving {}, []⟩ ⟨last, []⟩ publication := by
  have hEnd : ((Server.new .leaving {}).run 1 Command.returning).bind (fun run =>
      (run.2.registry.publication? ⟨1⟩ "orders").map Publication.session) =
        some ⟨⟨1⟩, 1⟩ := rfl
  obtain ⟨⟨steps, last⟩, hRun, hLast⟩ := Option.bind_eq_some_iff.mp hEnd
  obtain ⟨publication, hHeld, hSession⟩ := Option.map_eq_some_iff.mp hLast
  obtain ⟨publications, hService, hStored⟩ :
      ∃ publications, last.registry.services.get? "orders" = some publications ∧
        publications.get? ⟨1⟩ = some publication := by
    rw [Registry.publication?_eq_bind] at hHeld
    exact Option.bind_eq_some_iff.mp hHeld
  obtain ⟨hMachine, hOrder⟩ := Machine.Run.registry_in_order .leaving {}
  obtain ⟨events, hEvents⟩ := hMachine _ _ _ _ _ hRun
  obtain ⟨-, hServices, -, -⟩ := hOrder _ _ _ hEvents
  obtain ⟨-, -, hAdded, -, hOpened⟩ := (hServices _ _ hService).2 _ _ hStored
  rw [hSession] at hOpened
  exact ⟨steps, last, events, publication, hRun, hEvents, hHeld, hSession, hOpened, hAdded⟩

end Fanout
