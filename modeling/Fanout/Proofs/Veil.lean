import Fanout.Proofs.Invariant

/-!
# Fanout — what is handed over is stripped

A routing makes what it hands over from the views that it starts with, and keeps
these views while predicates act, also when they publish events of their own. So
nothing that is handed over has a field that only the server may see.

## Main definitions

* `Delivery.Stripped` — a record without the fields that only the server may see.
* `Machine.Veiled` — all routings under way show to clients only what they may see.

## Results

* `Machine.Run.veiled` — everything handed over on a run is stripped.
-/

namespace Fanout

open Server (Views)

/-! ## Records -/

theorem Json.mem_without {value : Json} {hidden : List String} {members : List (String × Json)}
    (h : value.without hidden = .object members) {member : String × Json}
    (hMember : member ∈ members) : member.1 ∉ hidden := by
  cases value with
  | object all =>
    rw [Json.without_object] at h
    cases h
    have hKept := (List.mem_filter.mp hMember).2
    simpa using hKept
  | null | bool | number | string | array => cases h

/-- The record has no field that only the server may see. -/
def Delivery.Stripped (config : Config) (delivery : Delivery) : Prop :=
  ∀ members, delivery.record = .object members → ∀ member ∈ members,
    member.1 ∉ config.listed delivery.service ∧ member.1 ∉ config.listed Config.allServices

/-! ## Steps of a server -/

/-- What the event hands over is stripped. -/
def Event.Veiled (config : Config) : Event → Prop
  | .handed _ delivery _ => delivery.Stripped config
  | .opened _ _ | .closed _ | .added _ | .missed _ _ => True

namespace Server

variable {config : Config} {server after : Server} {events : List Event}

theorem Does.veiled {request : Request} {reply : Reply}
    (hDoes : server.Does request events reply after) : ∀ event ∈ events, event.Veiled config := by
  intro event hEvent
  cases hDoes with
  | attended | openRefused | notOpen | addRefused | removed | removeRefused => cases hEvent
  | opened | closed | added =>
    cases List.mem_singleton.mp hEvent
    trivial

theorem AtOnce.veiled {command : Command} {outcome : Outcome}
    (hDone : server.AtOnce command outcome events after) :
    ∀ event ∈ events, event.Veiled config := by
  intro event hEvent
  cases hDone with
  | request hDoes => exact hDoes.veiled event hEvent
  | inbound hDoes => exact hDoes.veiled event hEvent
  | added =>
    cases List.mem_singleton.mp hEvent
    trivial
  | addRefused | subscribe | session | listener => cases hEvent

end Server

/-! ## The machine -/

/-- The routing shows to clients what they may see of its event. -/
def Frame.Veiled (config : Config) (frame : Frame) : Prop :=
  frame.views = Views.of (config.serverFieldsFor frame.mutation.service) frame.mutation

theorem Frame.Veiled.delivery {config : Config} {frame : Frame} (h : frame.Veiled config)
    (connection : ConnectionId) : (frame.delivery connection).Stripped config := by
  intro members hRecord member hMember
  have hRecord : frame.views.clientAfter = .object members := hRecord
  rw [h] at hRecord
  have hHidden : member.1 ∉ config.serverFieldsFor frame.mutation.service :=
    Json.mem_without hRecord hMember
  rw [Config.mem_serverFieldsFor_iff, not_or] at hHidden
  exact ⟨hHidden.2, hHidden.1⟩

namespace Machine

/-- All routings under way show to clients what they may see. -/
def Veiled (config : Config) (machine : Machine) : Prop :=
  ∀ frame ∈ machine.routings, frame.Veiled config

variable {config : Config} {machine next : Machine} {new : List Event}

/-- At rest no routing shows anything. -/
theorem veiled_at_rest (config : Config) (server : Server) : Veiled config ⟨server, []⟩ := by
  intro frame hFrame
  cases hFrame

theorem Step.veiled (hStep : Step machine new next) (hVeiled : machine.Veiled config)
    (hConfig : machine.server.registry.config = config) :
    next.Veiled config ∧ ∀ event ∈ new, event.Veiled config := by
  have hNothing : ∀ event ∈ ([] : List Event), event.Veiled config := fun _ h => by cases h
  cases hStep with
  | visit =>
    -- the innermost routing goes on with the views that it had
    obtain ⟨hFrame, hOuter⟩ := List.forall_mem_cons.mp hVeiled
    exact ⟨List.forall_mem_cons.mpr ⟨hFrame, hOuter⟩, hNothing⟩
  | act hFocus hDoes =>
    obtain ⟨hFrame, hOuter⟩ := List.forall_mem_cons.mp hVeiled
    exact ⟨List.forall_mem_cons.mpr ⟨hFrame, hOuter⟩, hDoes.veiled⟩
  | nest =>
    -- a routing that starts has the views of its event
    refine ⟨List.forall_mem_cons.mpr ⟨?_, hVeiled⟩, hNothing⟩
    subst hConfig
    rfl
  | @conclude server frame routings entry result =>
    obtain ⟨hFrame, hOuter⟩ := List.forall_mem_cons.mp hVeiled
    refine ⟨List.forall_mem_cons.mpr ⟨hFrame, hOuter⟩, fun event hEvent => ?_⟩
    unfold Frame.events at hEvent
    split at hEvent
    · rw [List.mem_singleton.mp hEvent]
      unfold Server.handing
      split
      · split
        · exact hFrame.delivery entry.1
        · trivial
      · trivial
    · cases hEvent
  | reap hTested hClose hGone hDoes =>
    obtain ⟨hFrame, hOuter⟩ := List.forall_mem_cons.mp hVeiled
    exact ⟨List.forall_mem_cons.mpr ⟨hFrame, hOuter⟩, hDoes.veiled⟩
  | yield =>
    -- the routing that ended drops out
    obtain ⟨-, hOuter⟩ := List.forall_mem_cons.mp hVeiled
    obtain ⟨hFrame, hRest⟩ := List.forall_mem_cons.mp hOuter
    exact ⟨List.forall_mem_cons.mpr ⟨hFrame, hRest⟩, hNothing⟩
  | finish => exact ⟨veiled_at_rest config _, hNothing⟩

theorem Issue.veiled {command : Command} (hIssue : Issue machine command new next)
    (hConfig : machine.server.registry.config = config) :
    next.Veiled config ∧ ∀ event ∈ new, event.Veiled config := by
  cases hIssue with
  | atOnce hDone => exact ⟨veiled_at_rest config _, hDone.veiled⟩
  | routing hEvent =>
    refine ⟨fun frame hFrame => ?_, fun event hNone => by cases hNone⟩
    cases List.mem_singleton.mp hFrame
    subst hConfig
    rfl

/-- Whatever runs, everything handed over is stripped. -/
theorem Run.veiled {filters : FilterModule} {commands : List Command} {events : List Event}
    (hRun : Run ⟨Server.new filters config, []⟩ commands events machine) :
    machine.Veiled config ∧ ∀ event ∈ events, event.Veiled config := by
  induction hRun with
  | start => exact ⟨veiled_at_rest config _, fun event hEvent => by cases hEvent⟩
  | issue hRun hIssue ih =>
    obtain ⟨hNext, hNew⟩ := @Issue.veiled config _ _ _ _ hIssue hRun.follows.config
    exact ⟨hNext, List.forall_mem_append.mpr ⟨ih.2, hNew⟩⟩
  | step hRun hStep ih =>
    obtain ⟨hNext, hNew⟩ := hStep.veiled ih.1 hRun.follows.config
    exact ⟨hNext, List.forall_mem_append.mpr ⟨ih.2, hNew⟩⟩

end Machine

end Fanout
