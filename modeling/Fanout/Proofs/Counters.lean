import Fanout.Proofs.Closing
import Fanout.Proofs.Refusal
import Fanout.Proofs.Release
import Fanout.Proofs.Tally

/-!
# Fanout — what the counters say

An event is counted as its routing starts, and what became of it as its routing ends;
predicates may publish further events in between. `Machine.Routed` follows a run and
takes down each routing as it comes to its end. At any point the counters are those of
the routings that ended, with one event more for each that is under way; so at rest
they are the sums of the summaries.

## Main definitions

* `Machine.Routed` — a run, with the routings that came to their end.
* `Stats.of` — what counters come to for these summaries.
* `Machine.Counted` — what the counters of a machine say of its routings.
* `Command.Routes`, `Server.Step.Routes` — the routings that came to their end for a command.

## Results

* `Machine.Step.counts`, `Machine.Routed.counted` — the counters are right at every point of a run.
* `Machine.Routed.ascribed` — every routing came to its end for one of the commands.
* `Server.run_routed` — every run of commands takes down its routings.
* `Server.runLoop_eq_run` — messages come to the same as the operations they ask for.
* `Server.counters_add_up` — at rest the counters are the sums of what happened.
-/

namespace Fanout

open Server (Progress)

/-! ## Counters -/

namespace Stats

/-- The counters of a router that routed events with these summaries. -/
def of (summaries : List Summary) : Stats where
  events := .ofNat summaries.length
  delivered := .ofNat (summaries.map Summary.delivered).sum
  suppressed := .ofNat (summaries.map Summary.suppressed).sum
  failed := .ofNat (summaries.map Summary.failed).sum
  dropped := .ofNat (summaries.map Summary.dropped).sum

/-- Counters with another number of events. -/
def withEvents (stats : Stats) (events : Nat) : Stats := { stats with events := .ofNat events }

theorem arrive_withEvents (stats : Stats) (events : Nat) :
    (stats.withEvents events).arrive = stats.withEvents (events + 1) := by
  unfold arrive withEvents
  simp only [UInt64.ofNat_add]
  rfl

theorem of_append (summaries : List Summary) (summary : Summary) :
    of (summaries ++ [summary]) = (of summaries).record summary := by
  unfold of record add arrive
  simp only [List.length_append, List.length_singleton, List.map_append, List.map_cons,
    List.map_nil, List.sum_append, List.sum_singleton, UInt64.ofNat_add]
  rfl

end Stats

/-- A sink answered that it took a delivery. -/
def Event.isDelivered : Event → Bool
  | .handed _ _ .delivered => true
  | _ => false

/-! ## Routings that come to their end -/

namespace Machine

/-- The routings that are no longer under way after a step. -/
def ended (machine next : Machine) : List Frame :=
  machine.routings.take (machine.routings.length - next.routings.length)

section
variable {server after : Server} {frame outer left : Frame} {routings : List Frame}

/-- The innermost routing goes on. -/
theorem ended_replace :
    ended ⟨server, frame :: routings⟩ ⟨after, left :: routings⟩ = [] := by
  simp [ended]

/-- A routing starts within the others. -/
theorem ended_enter : ended ⟨server, routings⟩ ⟨after, frame :: routings⟩ = [] := by
  simp [ended]

/-- The innermost routing ends, and the one around it goes on. -/
theorem ended_leave :
    ended ⟨server, frame :: outer :: routings⟩ ⟨after, left :: routings⟩ = [frame] := by
  simp [ended]

/-- The last routing ends. -/
theorem ended_last : ended ⟨server, [frame]⟩ ⟨after, []⟩ = [frame] := rfl

end

/-- A run, with the routings that came to their end so far, in the order of their ends. -/
inductive Routed (first : Machine) : List Command → List Event → List Frame → Machine → Prop
  | start : Routed first [] [] [] first
  | issue {commands events routed machine command new next}
      (hRouted : Routed first commands events routed machine)
      (hIssue : Issue machine command new next) :
      Routed first (commands ++ [command]) (events ++ new) routed next
  | step {commands events routed machine new next}
      (hRouted : Routed first commands events routed machine) (hStep : Step machine new next) :
      Routed first commands (events ++ new) (routed ++ machine.ended next) next

section
variable {first machine second third : Machine} {commands later : List Command}
  {events added : List Event} {frames more : List Frame}

/-- In every run the routings that come to their end can be taken down. -/
theorem Run.routed (hRun : Run first commands events machine) :
    ∃ routed, Routed first commands events routed machine := by
  induction hRun with
  | start => exact ⟨[], .start⟩
  | issue hRun hIssue ih =>
    obtain ⟨routed, hRouted⟩ := ih
    exact ⟨routed, .issue hRouted hIssue⟩
  | step hRun hStep ih =>
    obtain ⟨routed, hRouted⟩ := ih
    exact ⟨_, .step hRouted hStep⟩

theorem Routed.run (hRouted : Routed first commands events frames machine) :
    Run first commands events machine := by
  induction hRouted with
  | start => exact .start
  | issue hRouted hIssue ih => exact .issue ih hIssue
  | step hRouted hStep ih => exact .step ih hStep

theorem Routed.trans (hFirst : Routed first commands events frames second)
    (hSecond : Routed second later added more third) :
    Routed first (commands ++ later) (events ++ added) (frames ++ more) third := by
  induction hSecond with
  | start => simpa using hFirst
  | issue _ hIssue ih =>
    rw [← List.append_assoc, ← List.append_assoc]
    exact .issue ih hIssue
  | step _ hStep ih =>
    rw [← List.append_assoc, ← List.append_assoc]
    exact .step ih hStep

end

/-! ## The counters at every point of a run -/

/-- What the counters of a machine say of the routings that ended and of those under way, and how
often a sink took a delivery. -/
structure Counted (events : List Event) (routed : List Frame) (machine : Machine) : Prop where
  /-- What became of an event counts once its routing has ended, and the event from the start. -/
  stats : machine.server.stats =
    (Stats.of ((routed.filter Frame.counted).map Frame.summary)).withEvents
      ((routed ++ machine.routings).countP Frame.counted)
  delivered : events.countP Event.isDelivered =
    ((routed ++ machine.routings).map (fun frame => frame.summary.delivered)).sum

namespace Counted

theorem new (filters : FilterModule) (config : Config) :
    Counted [] [] ⟨Server.new filters config, []⟩ := ⟨rfl, rfl⟩

variable {events added : List Event} {routed routings : List Frame} {server after : Server}
  {frame left : Frame}

/-- A step that stays within the innermost routing. -/
theorem replace (h : Counted events routed ⟨server, frame :: routings⟩)
    (hStats : after.stats = server.stats) (hCounted : left.counted = frame.counted)
    (hDelivered : left.summary.delivered =
      frame.summary.delivered + added.countP Event.isDelivered) :
    Counted (events ++ added) routed ⟨after, left :: routings⟩ := by
  have hBefore := h.stats
  have hTotal := h.delivered
  constructor
  · simp only [List.countP_append, List.countP_cons] at hBefore ⊢
    rw [hStats, hBefore, hCounted]
  · simp only [List.countP_append, List.map_append, List.map_cons, List.sum_append,
      List.sum_cons] at hTotal ⊢
    omega

/-- A routing that starts may count its event. -/
theorem enter (h : Counted events routed ⟨server, routings⟩) (counted : Bool)
    (mutation : Mutation) :
    Counted events routed
      ⟨Frame.arrive counted server, Frame.start server counted mutation :: routings⟩ := by
  have hBefore := h.stats
  have hTotal := h.delivered
  have hStart : (Frame.start server counted mutation).counted = counted := rfl
  have hNothing : (Frame.start server counted mutation).summary.delivered = 0 := rfl
  constructor
  · unfold Frame.arrive
    simp only [List.countP_append, List.countP_cons, hStart] at hBefore ⊢
    cases counted with
    | false => exact hBefore
    | true =>
      -- one event more has come in, and nothing has become of it yet
      show server.stats.arrive = _
      rw [hBefore, Stats.arrive_withEvents]
      rfl
  · simp only [List.map_append, List.map_cons, List.sum_append, List.sum_cons, hNothing]
      at hTotal ⊢
    omega

/-- A routing that ends may count what became of its event. -/
theorem leave (h : Counted events routed ⟨server, frame :: routings⟩) :
    Counted events (routed ++ [frame]) ⟨frame.settle server, routings⟩ := by
  have hBefore := h.stats
  have hTotal := h.delivered
  have hSame : (routed ++ [frame]) ++ routings = routed ++ frame :: routings := by
    rw [List.append_assoc]
    rfl
  constructor
  · unfold Frame.settle
    rw [hSame, List.filter_append, List.map_append]
    cases hCounted : frame.counted with
    | false =>
      have hNone : [frame].filter Frame.counted = [] := by simp [hCounted]
      rw [hNone, List.map_nil, List.append_nil]
      exact hBefore
    | true =>
      have hOne : [frame].filter Frame.counted = [frame] := by simp [hCounted]
      show server.stats.add frame.summary = _
      rw [hOne, List.map_singleton, Stats.of_append, hBefore]
      rfl
  · rw [hSame]
    exact hTotal

end Counted

end Machine

namespace Server

variable {server after : Server}

theorem Does.stats {request : Request} {events : List Event} {reply : Reply}
    (hDoes : server.Does request events reply after) :
    after.stats = server.stats ∧ events.countP Event.isDelivered = 0 := by
  cases hDoes using Does.elim <;> exact ⟨rfl, rfl⟩

theorem AtOnce.stats {command : Command} {outcome : Outcome} {events : List Event}
    (hDone : server.AtOnce command outcome events after) :
    after.stats = server.stats ∧ events.countP Event.isDelivered = 0 := by
  cases hDone with
  | request hDoes | inbound hDoes => exact hDoes.stats
  | added | addRefused | subscribe | session | listener => exact ⟨rfl, rfl⟩

/-- What is done at once routes no event. -/
theorem Does.event?_eq_none {request : Request} {events : List Event} {reply : Reply}
    (hDoes : server.Does request events reply after) : request.event? = none := by
  cases hDoes <;> rfl

theorem AtOnce.event?_eq_none {command : Command} {outcome : Outcome} {events : List Event}
    (hDone : server.AtOnce command outcome events after) : command.event? = none := by
  cases hDone with
  | request hDoes | inbound hDoes => exact hDoes.event?_eq_none
  | added | addRefused | subscribe | session | listener => rfl

end Server

/-- A match counts as delivered exactly if the sink was asked and took it. -/
theorem Frame.delivered_concluded (frame : Frame) (server : Server)
    (entry : ConnectionId × Publication) (result : Except FilterError Bool) :
    (frame.concluded server entry result).summary.delivered =
      frame.summary.delivered +
        (frame.events server entry result).countP Event.isDelivered := by
  cases result with
  | error error => rfl
  | ok accepted =>
    cases accepted with
    | false => rfl
    | true =>
      show (Progress.deliver { server, summary := frame.summary, gone := frame.gone } entry.2
        (frame.delivery entry.1)).summary.delivered = frame.summary.delivered +
          [server.handing entry.2 (frame.delivery entry.1)].countP Event.isDelivered
      rw [Progress.summary_deliver]
      unfold Server.handing
      show frame.summary.delivered + _ = _
      rw [Registry.deliver_fst]
      cases server.registry.sessions.get? entry.2.session with
      | none => rfl
      | some session =>
        dsimp only [Option.map_some, Option.getD_some]
        cases hState : session.state with
        | closed =>
          rw [Session.deliver_of_closed hState]
          rfl
        | opened =>
          rw [Session.deliver_of_opened hState]
          dsimp only
          cases (session.sink.deliver (frame.delivery entry.1)).1 <;> rfl

namespace Machine

variable {machine next : Machine} {events added : List Event} {routed : List Frame}

theorem Step.counts (hStep : Step machine added next) (h : Counted events routed machine) :
    Counted (events ++ added) (routed ++ machine.ended next) next := by
  cases hStep with
  | visit hFocus hRest =>
    rw [ended_replace, List.append_nil routed]
    exact h.replace rfl rfl rfl
  | act hFocus hDoes =>
    obtain ⟨hStats, hNone⟩ := hDoes.stats
    rw [ended_replace, List.append_nil routed]
    exact h.replace hStats rfl (by rw [hNone]; rfl)
  | @nest server frame routings entry mutation behaviour hFocus =>
    rw [ended_enter, List.append_nil routed, List.append_nil events]
    exact h.enter true mutation
  | @conclude server frame routings entry result hFocus =>
    rw [ended_replace, List.append_nil routed]
    refine h.replace ?_ rfl (frame.delivered_concluded server entry result)
    exact Progress.stats_conclude frame.mutation frame.views entry result
      { server, summary := frame.summary, gone := frame.gone }
  | reap hTested hConfig hGone hDoes =>
    obtain ⟨hStats, hNone⟩ := hDoes.stats
    rw [ended_replace, List.append_nil routed]
    exact h.replace hStats rfl (by rw [hNone]; rfl)
  | yield hDone hFocus =>
    -- what became of the inner event is counted, and the outer routing goes on
    rw [ended_leave]
    exact h.leave.replace rfl rfl rfl
  | finish hDone =>
    rw [ended_last, List.append_nil events]
    exact h.leave

theorem Issue.counts {command : Command} (hIssue : Issue machine command added next)
    (h : Counted events routed machine) : Counted (events ++ added) routed next := by
  cases hIssue with
  | atOnce hDone =>
    obtain ⟨hStats, hNone⟩ := hDone.stats
    refine ⟨hStats.trans h.stats, ?_⟩
    rw [List.countP_append, hNone]
    exact h.delivered
  | routing hEvent =>
    rw [List.append_nil]
    exact h.enter command.counted _

/-- At every point of a run, also in the middle of a routing, the counters are right. -/
theorem Routed.counted {filters : FilterModule} {config : Config} {commands : List Command}
    (hRouted : Routed ⟨Server.new filters config, []⟩ commands events routed machine) :
    Counted events routed machine := by
  induction hRouted with
  | start => exact .new filters config
  | issue hRouted hIssue ih => exact hIssue.counts ih
  | step hRouted hStep ih => exact hStep.counts ih

end Machine

/-! ## Which routings come to their end -/

/-- The routings that come to their end for a command: none if it routes no event; otherwise those
of the events that predicates published meanwhile, all of which are counted, and at the end that of
the event of the command. -/
def Command.Routes (command : Command) (routed : List Frame) : Prop :=
  match command.event? with
  | none => routed = []
  | some mutation => ∃ nested frame, routed = nested ++ [frame] ∧
    (∀ inner ∈ nested, inner.counted = true) ∧ frame.mutation = mutation ∧
      frame.counted = command.counted

theorem Command.Routes.counted {command : Command} {routed : List Frame}
    (h : command.Routes routed) (hCounted : command.counted = true) :
    ∀ frame ∈ routed, frame.counted = true := by
  unfold Command.Routes at h
  split at h
  · subst h
    intro frame hFrame
    cases hFrame
  · obtain ⟨nested, last, rfl, hNested, -, hLast⟩ := h
    refine List.forall_mem_append.mpr ⟨hNested, List.forall_mem_singleton.mpr ?_⟩
    exact hLast.trans hCounted

theorem Command.all_counted {commands : List Command} {parts : List (List Frame)}
    (hParts : List.Forall₂ Command.Routes commands parts)
    (hCounted : ∀ command ∈ commands, command.counted = true) :
    ∀ frame ∈ parts.flatten, frame.counted = true := by
  induction hParts with
  | nil =>
    intro frame hFrame
    cases hFrame
  | cons hRoutes _ ih =>
    obtain ⟨hFirst, hRest⟩ := List.forall_mem_cons.mp hCounted
    rw [List.flatten_cons]
    exact List.forall_mem_append.mpr ⟨hRoutes.counted hFirst, ih hRest⟩

namespace Machine

variable {machine next : Machine} {events added : List Event} {routed : List Frame}

/-- The routing of an event is under way, and all that have started since count their events. -/
structure Within (counted : Bool) (mutation : Mutation) (routed routings : List Frame) : Prop where
  nested : ∀ frame ∈ routed, frame.counted = true
  underway : ∃ inner last, routings = inner ++ [last] ∧
    (∀ frame ∈ inner, frame.counted = true) ∧ last.counted = counted ∧ last.mutation = mutation

namespace Within

variable {counted : Bool} {mutation : Mutation} {frame outer left : Frame}
  {routed routings : List Frame}

theorem start (server : Server) (counted : Bool) (mutation : Mutation) :
    Within counted mutation [] [Frame.start server counted mutation] := by
  have hNobody : ∀ frame ∈ ([] : List Frame), frame.counted = true := by
    intro frame hFrame
    cases hFrame
  exact ⟨hNobody, [], _, rfl, hNobody, rfl, rfl⟩

theorem replace (h : Within counted mutation routed (frame :: routings))
    (hCounted : left.counted = frame.counted) (hMutation : left.mutation = frame.mutation) :
    Within counted mutation routed (left :: routings) := by
  obtain ⟨hNested, inner, last, hRoutings, hInner, hLast, hEvent⟩ := h
  refine ⟨hNested, ?_⟩
  cases inner with
  | nil =>
    -- the first routing itself goes on
    obtain ⟨rfl, rfl⟩ := List.cons.inj hRoutings
    exact ⟨[], left, rfl, hInner, hCounted.trans hLast, hMutation.trans hEvent⟩
  | cons first inner =>
    obtain ⟨rfl, rfl⟩ := List.cons.inj hRoutings
    obtain ⟨hFirst, hInner⟩ := List.forall_mem_cons.mp hInner
    exact ⟨left :: inner, last, rfl,
      List.forall_mem_cons.mpr ⟨hCounted.trans hFirst, hInner⟩, hLast, hEvent⟩

theorem enter (h : Within counted mutation routed routings) (hCounted : frame.counted = true) :
    Within counted mutation routed (frame :: routings) := by
  obtain ⟨hNested, inner, last, hRoutings, hInner, hLast, hEvent⟩ := h
  refine ⟨hNested, frame :: inner, last, ?_, List.forall_mem_cons.mpr ⟨hCounted, hInner⟩, hLast,
    hEvent⟩
  rw [hRoutings]
  rfl

/-- A routing that leaves another under way is not the first one. -/
theorem leave (h : Within counted mutation routed (frame :: outer :: routings)) :
    Within counted mutation (routed ++ [frame]) (outer :: routings) := by
  obtain ⟨hNested, inner, last, hRoutings, hInner, hLast, hEvent⟩ := h
  cases inner with
  | nil => cases hRoutings
  | cons first inner =>
    obtain ⟨rfl, hRest⟩ := List.cons.inj hRoutings
    obtain ⟨hFirst, hInner⟩ := List.forall_mem_cons.mp hInner
    refine ⟨?_, inner, last, hRest, hInner, hLast, hEvent⟩
    exact List.forall_mem_append.mpr ⟨hNested, List.forall_mem_singleton.mpr hFirst⟩

/-- When the first routing alone is left and ends, all have ended that the command started. -/
theorem routes {command : Command} (h : Within command.counted mutation routed [frame])
    (hEvent : command.event? = some mutation) : command.Routes (routed ++ [frame]) := by
  obtain ⟨hNested, inner, last, hRoutings, -, hLast, hMutation⟩ := h
  obtain ⟨rfl, rfl⟩ : inner = [] ∧ frame = last := by
    cases inner with
    | nil => exact ⟨rfl, List.singleton_inj.mp hRoutings⟩
    | cons first inner => simp at hRoutings
  unfold Command.Routes
  rw [hEvent]
  exact ⟨routed, frame, rfl, hNested, hMutation, hLast⟩

end Within

theorem Step.within {counted : Bool} {mutation : Mutation} (hStep : Step machine added next)
    (h : Within counted mutation routed machine.routings) (hUnderway : next.routings ≠ []) :
    Within counted mutation (routed ++ machine.ended next) next.routings := by
  cases hStep with
  | visit | act | conclude | reap =>
    rw [ended_replace, List.append_nil]
    exact h.replace rfl rfl
  | nest =>
    rw [ended_enter, List.append_nil]
    exact h.enter rfl
  | yield =>
    rw [ended_leave]
    exact h.leave.replace rfl rfl
  | finish => exact absurd rfl hUnderway

/-- The routings that ended, by the commands that they ended for. The last command may still have
its routing under way. -/
inductive Ascribed : List Command → List Frame → List Frame → Prop
  | rest {commands parts} (hParts : List.Forall₂ Command.Routes commands parts) :
      Ascribed commands parts.flatten []
  | underway {commands parts mutation part routings} (command : Command)
      (hParts : List.Forall₂ Command.Routes commands parts)
      (hEvent : command.event? = some mutation)
      (hWithin : Within command.counted mutation part routings) :
      Ascribed (commands ++ [command]) (parts.flatten ++ part) routings

/-- One command more has been done. -/
theorem Ascribed.concat {commands : List Command} {command : Command} {parts : List (List Frame)}
    {part : List Frame} (hParts : List.Forall₂ Command.Routes commands parts)
    (hPart : command.Routes part) : Ascribed (commands ++ [command]) (parts.flatten ++ part) [] := by
  have hAll := Ascribed.rest (List.rel_append hParts (.cons hPart .nil))
  rw [List.flatten_append, List.flatten_singleton] at hAll
  exact hAll

theorem Step.ascribed {commands : List Command} (hStep : Step machine added next)
    (h : Ascribed commands routed machine.routings) :
    Ascribed commands (routed ++ machine.ended next) next.routings := by
  generalize hNow : machine.routings = routings at h
  cases h with
  | rest => cases hStep <;> cases hNow
  | underway command hParts hEvent hWithin =>
    rw [List.append_assoc]
    by_cases hRest : next.routings = []
    · cases hStep with
      | finish =>
        cases hNow
        exact .concat hParts (hWithin.routes hEvent)
      | visit | act | nest | conclude | reap | yield => exact absurd hRest (List.cons_ne_nil _ _)
    · subst hNow
      exact .underway command hParts hEvent (hStep.within hWithin hRest)

theorem Issue.ascribed {commands : List Command} {command : Command}
    (hIssue : Issue machine command added next) (h : Ascribed commands routed machine.routings) :
    Ascribed (commands ++ [command]) routed next.routings := by
  generalize hNow : machine.routings = routings at h
  cases h with
  | underway known hParts hEvent hWithin =>
    -- a command is given at rest only
    obtain ⟨-, inner, last, hRoutings, -⟩ := hWithin
    cases hIssue <;> exact absurd (hNow.trans hRoutings) (by simp)
  | rest hParts =>
    cases hIssue with
    | atOnce hDone =>
      have hNone : command.Routes [] := by
        unfold Command.Routes
        rw [hDone.event?_eq_none]
      have hAll := Ascribed.concat hParts hNone
      rw [List.append_nil] at hAll
      exact hAll
    | @routing server _ mutation hEvent =>
      have hAll := Ascribed.underway command hParts hEvent (.start server command.counted mutation)
      rw [List.append_nil] at hAll
      exact hAll

/-- Every routing that ended did so for one of the commands. -/
theorem Routed.ascribed {server : Server} {commands : List Command}
    (hRouted : Routed ⟨server, []⟩ commands events routed machine) :
    Ascribed commands routed machine.routings := by
  induction hRouted with
  | start => exact .rest .nil
  | issue hRouted hIssue ih => exact hIssue.ascribed ih
  | step hRouted hStep ih => exact hStep.ascribed ih

/-- At rest, the routings that ended fall into those of the commands. -/
theorem Routed.parts {server after : Server} {commands : List Command}
    (hRouted : Routed ⟨server, []⟩ commands events routed ⟨after, []⟩) :
    ∃ parts, routed = parts.flatten ∧ List.Forall₂ Command.Routes commands parts := by
  have hAscribed := hRouted.ascribed
  generalize hRest : (⟨after, []⟩ : Machine).routings = routings at hAscribed
  cases hAscribed with
  | rest hParts => exact ⟨_, rfl, hParts⟩
  | underway command hParts hEvent hWithin =>
    obtain ⟨-, inner, last, hRoutings, -⟩ := hWithin
    exact absurd (hRest.trans hRoutings) (by simp)

/-- Commands that are issued alike come to the same, in whatever order their routings take the
publications. -/
theorem Routed.alike {α : Type} {first : Machine} {issued asked : α → Command}
    (hAlike : ∀ {item machine new next}, Issue machine (issued item) new next →
      Issue machine (asked item) new next) {items : List α}
    (hRouted : Routed first (items.map issued) events routed machine) :
    Routed first (items.map asked) events routed machine := by
  generalize hCommands : items.map issued = commands at hRouted
  induction hRouted generalizing items with
  | start =>
    rw [List.map_eq_nil_iff.mp hCommands]
    exact .start
  | issue hRouted hIssue ih =>
    obtain ⟨before, last, rfl, hBefore, hLast⟩ := List.map_eq_append_iff.mp hCommands
    obtain ⟨item, rfl, rfl⟩ := List.map_eq_singleton_iff.mp hLast
    rw [List.map_append]
    exact .issue (ih hBefore) (hAlike hIssue)
  | step hRouted hStep ih => exact .step (ih hCommands) hStep

end Machine

/-! ## Runs of commands -/

namespace Server

/-- The routings that came to their end in a step, the last of them with the summary that its
command was answered. -/
def Step.Routes (step : Step) (routed : List Frame) : Prop :=
  step.command.Routes routed ∧
    ∀ frame ∈ routed.getLast?, step.outcome = step.command.routed frame.summary

theorem execute_routed {depth : Nat} {server after : Server} {command : Command}
    {outcome : Outcome} (h : server.execute depth command = some (outcome, after)) :
    ∃ events routed, Machine.Routed ⟨server, []⟩ [command] events routed ⟨after, []⟩ ∧
      Step.Routes ⟨server, command, outcome, after⟩ routed := by
  -- what ends for the command follows from the run, and it remains to say what it is answered
  suffices hEnds : ∃ events routed,
      Machine.Routed ⟨server, []⟩ [command] events routed ⟨after, []⟩ ∧
      ∀ frame ∈ routed.getLast?, outcome = command.routed frame.summary by
    obtain ⟨events, routed, hRouted, hAnswer⟩ := hEnds
    obtain ⟨parts, rfl, hParts⟩ := hRouted.parts
    obtain ⟨part, rest, hPart, hNone, rfl⟩ := List.forall₂_cons_left_iff.mp hParts
    rw [List.forall₂_nil_left_iff.mp hNone] at hRouted hAnswer
    refine ⟨events, _, hRouted, ?_, hAnswer⟩
    rw [List.flatten_singleton]
    exact hPart
  cases hEvent : command.event? with
  | none =>
    obtain ⟨events, hDone⟩ := atOnce_of_execute h hEvent
    exact ⟨_, [], .issue .start (.atOnce hDone), fun frame hFrame => by cases hFrame⟩
  | some mutation =>
    obtain ⟨nesting, summary, left, hRoute, hOutcome, rfl⟩ := routing_of_execute h hEvent
    obtain ⟨during, frame, hRun, hDone, rfl, hCounted⟩ :=
      routeOver_run (followed_publish nesting) hRoute (.refl _) command.counted []
    rw [Frame.start_arrive] at hRun
    obtain ⟨nested, hNested⟩ := hRun.run.routed
    have hSettle : frame.settle left =
        if command.counted then left.record frame.summary else left := by
      unfold Frame.settle
      rw [hCounted]
    have hEnd : Machine.Routed ⟨left, [frame]⟩ [] [] [frame] ⟨frame.settle left, []⟩ :=
      .step .start (.finish hDone)
    have hAll := (Machine.Routed.issue .start (.routing hEvent)).trans (hNested.trans hEnd)
    rw [hSettle] at hAll
    refine ⟨_, _, hAll, fun last hLast => ?_⟩
    rw [List.nil_append, List.getLast?_concat, Option.mem_some_iff] at hLast
    rw [hOutcome, hLast]

/-- Every run of commands takes down its routings. -/
theorem run_routed {depth : Nat} {server last : Server} {commands : List Command}
    {steps : List Step} (h : server.run depth commands = some (steps, last)) :
    ∃ events parts, Machine.Routed ⟨server, []⟩ commands events parts.flatten ⟨last, []⟩ ∧
      List.Forall₂ Step.Routes steps parts := by
  induction commands generalizing server steps with
  | nil =>
    cases h
    exact ⟨[], [], .start, .nil⟩
  | cons command rest ih =>
    obtain ⟨outcome, after, later, hExecute, hRest, rfl⟩ := run_cons_eq_some_iff.mp h
    obtain ⟨events, routed, hFirst, hRoutes⟩ := execute_routed hExecute
    obtain ⟨new, parts, hLater, hParts⟩ := ih hRest
    exact ⟨events ++ new, routed :: parts, hFirst.trans hLater, .cons hRoutes hParts⟩

/-! ## Messages -/

/-- Messages that are applied in order come to the same as the operations that they ask for. -/
theorem runLoop_eq_run (depth : Nat) (server : Server) (messages : List Inbound) :
    server.runLoop depth messages =
      (server.run depth (messages.map (fun message => .request message.request))).map
        (fun (_, after) => (after.stats, after)) := by
  have hFold : messages.foldlM (handle depth) server =
      (server.run depth (messages.map (fun message => .request message.request))).map
        Prod.snd := by
    induction messages generalizing server with
    | nil => rfl
    | cons message rest ih =>
      show ((server.perform depth message.request).bind _).bind _ =
        (((server.perform depth message.request).map _).bind _).map _
      cases server.perform depth message.request with
      | none => rfl
      | some performed =>
        obtain ⟨reply, after⟩ := performed
        show rest.foldlM (handle depth) after =
          ((after.run depth (rest.map (fun message => .request message.request))).bind _).map _
        rw [ih]
        cases after.run depth (rest.map (fun message => .request message.request)) <;> rfl
  show (messages.foldlM (handle depth) server).bind _ = _
  rw [hFold]
  cases server.run depth (messages.map (fun message => .request message.request)) <;> rfl

/-- A message is issued as the operation that it asks for is. -/
theorem issue_inbound_iff {message : Inbound} {machine next : Machine} {new : List Event} :
    Machine.Issue machine (.inbound message) new next ↔
      Machine.Issue machine (.request message.request) new next := by
  constructor
  · intro hIssue
    cases hIssue with
    | atOnce hDone =>
      cases hDone with
      | inbound hDoes => exact .atOnce (.request hDoes)
    | routing hEvent => exact .routing hEvent
  · intro hIssue
    cases hIssue with
    | atOnce hDone =>
      cases hDone with
      | request hDoes => exact .atOnce (.inbound hDoes)
    | routing hEvent => exact .routing hEvent

/-- A message that opens an open connection is without effect. -/
theorem handle_opened_of_isOpen {server : Server} (hSound : server.registry.Sound)
    {connection : ConnectionId} (hOpen : server.registry.isOpen connection = true) (depth : Nat)
    (sink : Sink) : server.handle depth (.opened connection sink) = some server := by
  have hRefused : server.respond (publish depth) (.openConnection connection sink) =
      some (.refused (.connectionExists connection), server) :=
    (respond_open_eq_refused_iff hSound).mpr ⟨hOpen, rfl, rfl⟩
  unfold handle perform Inbound.request
  dsimp only
  rw [hRefused]
  rfl

end Server

/-- The counters are what happened, in whatever order routings take the publications. Wherever a run
is at rest, the routings that came to their end fall into those of its commands: for a command that
routes an event that of its event, after those of the events that predicates published meanwhile; an
event on a service that nobody publishes is among them. The counters of the server are those of the
routings of its own router: their number, and the sums of what their summaries say, modulo 2^64. The
deliveries that the summaries count are as many as sinks answered that they took one, and with no
router but the server's own the counter says so. A command is answered the summary of the routing of
its event. Messages come to the same as the operations that they ask for, counters included, and to
open an open connection is without effect. -/
theorem Server.counters_add_up (filters : FilterModule) (config : Config) :
    (∀ commands events routed server,
      Machine.Routed ⟨Server.new filters config, []⟩ commands events routed ⟨server, []⟩ →
      (∃ parts, routed = parts.flatten ∧ List.Forall₂ Command.Routes commands parts) ∧
      server.stats = Stats.of ((routed.filter Frame.counted).map Frame.summary) ∧
      events.countP Event.isDelivered =
        (routed.map (fun frame => frame.summary.delivered)).sum ∧
      ((∀ command ∈ commands, command.counted = true) →
        server.stats.delivered = .ofNat (events.countP Event.isDelivered)) ∧
      (∀ id sink, Event.opened id sink ∈ events →
        server.registry.log id = sink.log ++ Event.handedTo id events) ∧
      (∀ depth connection sink, server.registry.isOpen connection = true →
        server.handle depth (.opened connection sink) = some server)) ∧
    (∀ depth commands steps server,
      (Server.new filters config).run depth commands = some (steps, server) →
      ∃ events parts,
        Machine.Routed ⟨Server.new filters config, []⟩ commands events parts.flatten
          ⟨server, []⟩ ∧
        List.Forall₂ Step.Routes steps parts) ∧
    (∀ (messages : List Inbound) events routed machine,
      Machine.Routed ⟨Server.new filters config, []⟩ (messages.map .inbound) events routed
          machine ↔
        Machine.Routed ⟨Server.new filters config, []⟩
          (messages.map (fun message => .request message.request)) events routed machine) ∧
    (∀ depth server messages, Server.runLoop depth server messages =
      (server.run depth (messages.map (fun message => .request message.request))).map
        (fun (_, after) => (after.stats, after))) := by
  refine ⟨?_, ?_, ?_, Server.runLoop_eq_run⟩
  · intro commands events routed server hRouted
    obtain ⟨hStats, hDelivered⟩ := hRouted.counted
    rw [List.append_nil] at hStats hDelivered
    have hOf : server.stats = Stats.of ((routed.filter Frame.counted).map Frame.summary) := by
      refine hStats.trans ?_
      -- no event has come in but those whose routings have ended
      unfold Stats.withEvents Stats.of
      rw [List.countP_eq_length_filter, List.length_map]
    obtain ⟨parts, rfl, hParts⟩ := hRouted.parts
    have hRun := hRouted.run
    refine ⟨⟨parts, rfl, hParts⟩, hOf, hDelivered, ?_, hRun.chronicled.registry.log, ?_⟩
    · intro hCommands
      have hAll : parts.flatten.filter Frame.counted = parts.flatten :=
        List.filter_eq_self.mpr (Command.all_counted hParts hCommands)
      rw [hOf, hDelivered, hAll]
      unfold Stats.of
      dsimp only
      rw [List.map_map]
      rfl
    · intro depth connection sink hOpen
      exact Server.handle_opened_of_isOpen (hRun.follows.sound (.new config)) hOpen depth sink
  · intro depth commands steps server hRun
    exact Server.run_routed hRun
  · intro messages events routed machine
    exact ⟨fun h => h.alike Server.issue_inbound_iff.mp,
      fun h => h.alike Server.issue_inbound_iff.mpr⟩

/-- The order and the note that it is relayed as are counted, and of three matches one was taken. -/
theorem Server.counters_add_up_relaying :
    ∃ steps last events, ∃ parts : List (List Frame),
      (Server.new .relaying {}).run 2 Command.relaying = some (steps, last) ∧
      Machine.Routed ⟨Server.new .relaying {}, []⟩ Command.relaying events parts.flatten
        ⟨last, []⟩ ∧
      List.Forall₂ Step.Routes steps parts ∧
      Stats.of ((parts.flatten.filter Frame.counted).map Frame.summary) =
        { events := 2, delivered := 1, dropped := 2 } ∧
      UInt64.ofNat (events.countP Event.isDelivered) = 1 := by
  have hEnd : ((Server.new .relaying {}).run 2 Command.relaying).map
      (fun run => run.2.stats) = some { events := 2, delivered := 1, dropped := 2 } := by
    decide +kernel
  obtain ⟨⟨steps, last⟩, hRun, hLast⟩ := Option.map_eq_some_iff.mp hEnd
  have hLast : last.stats = { events := 2, delivered := 1, dropped := 2 } := hLast
  obtain ⟨hCounters, hRuns, -⟩ := Server.counters_add_up .relaying {}
  obtain ⟨events, parts, hRouted, hParts⟩ := hRuns _ _ _ _ hRun
  obtain ⟨-, hStats, -, hDelivered, -⟩ := hCounters _ _ _ _ hRouted
  have hTaken := hDelivered (by simp [Command.relaying, Command.counted])
  rw [hLast] at hStats hTaken
  exact ⟨steps, last, events, parts, hRun, hRouted, hParts, hStats.symm, hTaken.symm⟩

end Fanout
