import Fanout.Proofs.Provenance

/-!
# Fanout — numbers of publications

A session counts the publications that are added in it, and each bears the count at
its time as its stamp. Counts never go back. So a publication that is held somewhere,
or that a routing has still to test, is told apart from all that are added later on,
also from one that was compiled from the same spec and stands in its place.

## Main definitions

* `Registry.additions` — how many publications were added in a session.
* `Registry.Numbers` — what is added between two registries is numbered by these counts.

## Results

* `Machine.Run.numbers` — a run numbers what it adds.
* `Machine.Run.not_added_again` — a publication that is held is not added again.
-/

namespace Fanout

open Server (Progress)

variable {publication : Publication} {connection : ConnectionId} {service : String}

/-- How many publications were added in a session. -/
def Registry.additions (registry : Registry) (id : SessionId) : Nat :=
  ((registry.sessions.get? id).map Session.adds).getD 0

/-- A session counts what is added in it, and a publication has the count as its number. -/
structure Registry.Numbers (before : Registry) (new : List Event) (after : Registry) : Prop where
  grows : ∀ id, before.additions id ≤ after.additions id
  numbered : ∀ publication, Event.added publication ∈ new →
    before.additions publication.session ≤ publication.stamp ∧
      publication.stamp < after.additions publication.session

namespace Registry

variable {registry before after : Registry} {events new : List Event}

theorem additions_of_get? {id : SessionId} {session : Session}
    (h : registry.sessions.get? id = some session) : registry.additions id = session.adds := by
  unfold additions
  rw [h]
  rfl

theorem additions_of_insert (registry : Registry) {id : SessionId} {session : Session}
    (h : after.sessions = registry.sessions.insert id session) (known : SessionId) :
    after.additions known = if known = id then session.adds else registry.additions known := by
  unfold additions
  rw [h, Table.get?_insert]
  split <;> rfl

theorem additions_modifySession {id : SessionId} {f : Session → Session}
    (hAdds : ∀ session, (f session).adds = session.adds) (known : SessionId) :
    (registry.modifySession id f).additions known = registry.additions known := by
  unfold additions
  rw [get?_modifySession]
  by_cases hKnown : known = id
  · rw [if_pos hKnown, hKnown, Option.map_map]
    cases registry.sessions.get? id with
    | none => rfl
    | some session => exact hAdds session
  · rw [if_neg hKnown]

namespace Numbers

/-- Nothing is added, and the sessions keep their counts. -/
theorem of_same (hAdditions : ∀ id, after.additions id = before.additions id)
    (hNew : ∀ publication, Event.added publication ∉ new) : before.Numbers new after :=
  ⟨fun id => (hAdditions id).ge, fun publication h => absurd h (hNew publication)⟩

theorem refl (registry : Registry) : registry.Numbers [] registry :=
  of_same (fun _ => rfl) (fun _ => List.not_mem_nil)

theorem trans (hFirst : before.Numbers events registry) (hSecond : registry.Numbers new after) :
    before.Numbers (events ++ new) after := by
  refine ⟨fun id => (hFirst.grows id).trans (hSecond.grows id), fun publication h => ?_⟩
  rcases List.mem_append.mp h with hEarlier | hNow
  · obtain ⟨hFrom, hBelow⟩ := hFirst.numbered publication hEarlier
    exact ⟨hFrom, hBelow.trans_le (hSecond.grows _)⟩
  · obtain ⟨hFrom, hBelow⟩ := hSecond.numbered publication hNow
    exact ⟨(hFirst.grows _).trans hFrom, hBelow⟩

theorem openConnection (hSound : before.Sound) {sink : Sink} {id : SessionId}
    (h : before.openConnection connection sink = (.ok id, after)) :
    before.Numbers [.opened id sink] after := by
  obtain ⟨-, hId, rfl⟩ := openConnection_ok h
  refine of_same (fun known => ?_) (fun publication hAdded => by
    cases List.mem_singleton.mp hAdded)
  rw [additions_of_insert before rfl]
  by_cases hKnown : known = id
  · -- there was no such session, and nothing is added in the new one yet
    have hFresh : before.sessions.get? known = none := by
      rw [hKnown, hId]
      exact hSound.fresh connection
    unfold additions
    rw [if_pos hKnown, hFresh]
    rfl
  · rw [if_neg hKnown]

theorem closeConnection {id : SessionId} {session : Session}
    (h : before.liveSession? connection = some (id, session)) :
    before.Numbers [.closed id] (before.closeConnection connection).2 := by
  have hSession := (liveSession?_eq_some_iff.mp h).2.1
  refine of_same (fun known => ?_) (fun publication hAdded => by
    cases List.mem_singleton.mp hAdded)
  rw [closeConnection_of_live h, additions_of_insert before rfl]
  by_cases hKnown : known = id
  · rw [if_pos hKnown, hKnown, additions_of_get? hSession]
  · rw [if_neg hKnown]

theorem addPublication {module : FilterModule} {spec : PublicationSpec}
    (h : before.addPublication connection service module spec = (.ok publication, after)) :
    before.Numbers [.added publication] after := by
  obtain ⟨id, session, predicate, hLive, -, hPublication, hAfter⟩ := addPublication_ok h
  have hBefore := additions_of_get? (liveSession?_eq_some_iff.mp hLive).2.1
  have hSessions : after.sessions =
      before.sessions.insert id { session with adds := session.adds + 1 } := by rw [hAfter]
  have hCount := additions_of_insert before hSessions
  constructor
  case grows =>
    intro known
    rw [hCount]
    by_cases hKnown : known = id
    · rw [if_pos hKnown, hKnown, hBefore]
      exact Nat.le_succ _
    · rw [if_neg hKnown]
  case numbered =>
    intro added hAdded
    cases List.mem_singleton.mp hAdded
    rw [hCount, hPublication, if_pos rfl, hBefore]
    exact ⟨le_rfl, Nat.lt_succ_self _⟩

end Numbers

end Registry

namespace Server

variable {server after : Server} {events : List Event}

theorem Does.numbers {request : Request} {reply : Reply}
    (hDoes : server.Does request events reply after) (hSound : server.registry.Sound) :
    server.registry.Numbers events after.registry := by
  cases hDoes using Server.Does.elim with
  | attended | openRefused | notOpen | addRefused | removeRefused => exact .refl _
  | opened h => exact .openConnection hSound h
  | closed h => exact .closeConnection h
  | added h => exact .addPublication h
  | removed h =>
    obtain ⟨-, -, rfl⟩ := Registry.removePublication_ok h
    exact .of_same (fun _ => rfl) (fun _ => List.not_mem_nil)

theorem AtOnce.numbers {command : Command} {outcome : Outcome}
    (hDone : server.AtOnce command outcome events after) (hSound : server.registry.Sound) :
    server.registry.Numbers events after.registry := by
  cases hDone with
  | request hDoes => exact hDoes.numbers hSound
  | inbound hDoes => exact hDoes.numbers hSound
  | added h => exact .addPublication h
  | addRefused h =>
    obtain ⟨-, rfl⟩ := Registry.addPublication_error h
    exact .refl _
  | subscribe | listener => exact .of_same (fun _ => rfl) (fun _ => List.not_mem_nil)
  | @session id use =>
    rw [Registry.useSession_snd]
    refine .of_same (fun known => ?_) (fun _ => List.not_mem_nil)
    exact Registry.additions_modifySession (fun session => (use.change_keeps session).2.1) known

/-- What follows from the answer of a predicate leaves the counts of all sessions. -/
theorem Progress.additions_conclude (progress : Progress) (mutation : Mutation) (views : Views)
    (entry : ConnectionId × Publication) (result : Except FilterError Bool) (id : SessionId) :
    (progress.conclude mutation views entry result).server.registry.additions id =
      progress.server.registry.additions id := by
  unfold Progress.conclude
  split
  · -- a session that is handed a delivery changes in its sink
    have hHanded : ∀ (registry : Registry) (session : SessionId) (delivery : Delivery),
        (registry.deliver session delivery).2.additions id = registry.additions id := by
      intro registry session delivery
      rw [Registry.deliver_snd]
      refine Registry.additions_modifySession (fun session => ?_) id
      unfold Session.deliver
      split <;> rfl
    unfold Progress.deliver
    dsimp only
    split <;> exact hHanded _ _ _
  · rfl
  · rfl

end Server

namespace Machine

variable {first machine next : Machine} {commands later : List Command} {events new : List Event}

theorem Step.numbers (hStep : Step machine new next) (hSound : machine.server.registry.Sound) :
    machine.server.registry.Numbers new next.server.registry := by
  cases hStep with
  | visit | nest => exact .refl _
  | act hFocus hDoes => exact hDoes.numbers hSound
  | @conclude server frame routings entry result hFocus =>
    exact .of_same (Progress.additions_conclude
      { server, summary := frame.summary, gone := frame.gone } _ _ _ _)
      (fun _ => Frame.added_not_mem_events _ _ _ _)
  | reap hTested hConfig hGone hDoes => exact hDoes.numbers hSound
  | yield | finish =>
    rw [Frame.registry_settle]
    exact .refl _

theorem Issue.numbers {command : Command} (hIssue : Issue machine command new next)
    (hSound : machine.server.registry.Sound) :
    machine.server.registry.Numbers new next.server.registry := by
  cases hIssue with
  | atOnce hDone => exact hDone.numbers hSound
  | routing =>
    rw [Frame.registry_arrive]
    exact .refl _

theorem Run.numbers (hRun : Run first commands events machine)
    (hSound : first.server.registry.Sound) :
    first.server.registry.Numbers events machine.server.registry := by
  induction hRun with
  | start => exact .refl _
  | issue hRun hIssue ih => exact ih.trans (hIssue.numbers (hRun.follows.sound hSound))
  | step hRun hStep ih => exact ih.trans (hStep.numbers (hRun.follows.sound hSound))

/-- A publication that is held is not added again, whatever is under way: what is added after it is
another one. -/
theorem Run.not_added_again {filters : FilterModule} {config : Config} {routings : List Frame}
    (hRun : Run ⟨Server.new filters config, []⟩ commands events machine)
    (hHeld : machine.server.registry.publication? connection service = some publication)
    (hLater : Run ⟨machine.server, routings⟩ later new next) : Event.added publication ∉ new := by
  intro hAgain
  have hSound := Registry.Sound.new config
  -- it was numbered when it was added, and the count of its session has gone past that number
  have hAdded := hRun.chronicled.registry.held _ _ _ hHeld
  have hBelow := ((hRun.numbers hSound).numbered publication hAdded).2
  have hFrom := ((hLater.numbers (hRun.follows.sound hSound)).numbered publication hAgain).1
  exact absurd hBelow (Nat.not_lt.mpr hFrom)

end Machine

end Fanout
