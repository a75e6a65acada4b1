import Fanout.Proofs.Standpoint

/-!
# Fanout — a run without the other connections

Connections share the services, the listeners and the routing of every event. Still,
what is done for one of them does not reach another. Take any commands that
are made for others out of a run, and a connection goes through what is left as it
went through all of it.

## Main definitions

* `Command.Concerns` — the commands of a connection, and those that route events.
* `Server.Step.SameTo` — one step of two runs, the same to a connection.

## Results

* `Server.run_filter` — a run with commands taken out, on servers that are the same to
  a connection.
* `Server.run_without_others` — what follows from the start.
-/

namespace Fanout

/-- The command is made for the connection, or routes an event. -/
def Command.Concerns (connection : ConnectionId) (command : Command) : Prop :=
  command.owner? = some connection ∨ command.event?.isSome

instance (connection : ConnectionId) (command : Command) :
    Decidable (command.Concerns connection) :=
  inferInstanceAs (Decidable (_ ∨ _))

namespace Server

/-- Two steps of one command that come to the same for a connection: if the command is its own it
is told the same, and after it the two servers have the same for it. -/
structure Step.SameTo (connection : ConnectionId) (step counterpart : Step) : Prop where
  command : step.command = counterpart.command
  outcome : step.command.owner? = some connection → step.outcome = counterpart.outcome
  after : step.after.AgreeOn connection counterpart.after

variable {server other : Server} {connection : ConnectionId} {keep : Command → Bool} {depth : Nat}

/-- A command that does not concern a connection does not show to it. -/
theorem agreeOn_of_not_concerns {after : Server} {command : Command} {outcome : Outcome}
    (h : server.execute depth command = some (outcome, after)) (hSound : server.registry.Sound)
    (hOther : ¬ command.Concerns connection) : after.AgreeOn connection server := by
  unfold Command.Concerns at hOther
  have hOwner : command.owner? ≠ some connection := fun hOwner => hOther (.inl hOwner)
  have hEvent : command.event? = none := by simpa using fun hEvent => hOther (.inr hEvent)
  obtain ⟨events, hDone⟩ := atOnce_of_execute h hEvent
  exact hDone.agreeOn hSound hOwner

/-- A run, and the run that is left of it when commands are taken out that do not concern a
connection, on servers that are the same to it. -/
theorem run_filter (hQuiet : server.Quiet) (hOther : other.Quiet)
    (hSound : server.registry.Sound) (hOtherSound : other.registry.Sound)
    (hFilters : server.filters = other.filters) (hAgree : server.AgreeOn connection other)
    {commands : List Command} (hPure : ∀ command ∈ commands, command.Pure)
    (hKeep : ∀ command ∈ commands, command.Concerns connection → keep command = true)
    {steps kept : List Step} {last final : Server}
    (hRun : server.run (depth + 1) commands = some (steps, last))
    (hKept : other.run (depth + 1) (commands.filter keep) = some (kept, final)) :
    List.Forall₂ (Step.SameTo connection) (steps.filter (fun step => keep step.command)) kept ∧
      last.AgreeOn connection final := by
  -- by induction on the full run; the other one moves only on commands that were kept
  induction commands generalizing server other steps kept with
  | nil =>
    cases hRun
    cases hKept
    exact ⟨.nil, hAgree⟩
  | cons command rest ih =>
    obtain ⟨hCommandPure, hRestPure⟩ := List.forall_mem_cons.mp hPure
    obtain ⟨hCommandKeep, hRestKeep⟩ := List.forall_mem_cons.mp hKeep
    obtain ⟨outcome, after, later, hExecute, hRest, rfl⟩ := run_cons_eq_some_iff.mp hRun
    have hFollows := follows_of_execute hExecute
    have hAfterQuiet := quiet_of_execute hQuiet hCommandPure hExecute
    have hAfterSound := hFollows.sound hSound
    have hAfterFilters : after.filters = other.filters := hFollows.filters.trans hFilters
    by_cases hKept' : keep command = true
    · -- both runs carry the command out
      rw [List.filter_cons_of_pos hKept'] at hKept
      obtain ⟨given, left, ensuing, hExecuteOther, hRestOther, rfl⟩ :=
        run_cons_eq_some_iff.mp hKept
      have hFollowsOther := follows_of_execute hExecuteOther
      obtain ⟨hOutcome, hAfter⟩ :=
        hAgree.same hQuiet hOther hSound hOtherSound hFilters hExecute hExecuteOther
      obtain ⟨hSteps, hLast⟩ := ih hAfterQuiet (quiet_of_execute hOther hCommandPure hExecuteOther)
        hAfterSound (hFollowsOther.sound hOtherSound)
        (hAfterFilters.trans hFollowsOther.filters.symm) hAfter hRestPure hRestKeep hRest hRestOther
      rw [List.filter_cons, if_pos hKept']
      exact ⟨.cons ⟨rfl, hOutcome, hAfter⟩ hSteps, hLast⟩
    · -- the command was taken out, so that it was made for another connection
      rw [List.filter_cons_of_neg hKept'] at hKept
      have hForeign : ¬ command.Concerns connection := fun h => hKept' (hCommandKeep h)
      have hAfter := (agreeOn_of_not_concerns hExecute hSound hForeign).trans hAgree
      obtain ⟨hSteps, hLast⟩ := ih hAfterQuiet hOther hAfterSound hOtherSound hAfterFilters hAfter
        hRestPure hRestKeep hRest hKept
      rw [List.filter_cons, if_neg hKept']
      exact ⟨hSteps, hLast⟩

end Server

/-- Connections are isolated from each other. Take out of a run without acting predicates any
commands that neither are made for a connection nor route an event. Step by step, what is left
comes to the same for the connection: it is told the same, and its sessions with the deliveries
their sinks were handed and their queues, whether it is open, its publications, and the listeners
to it with what they have queued and what was ever reported to them are the same. -/
theorem Server.run_without_others {filters : FilterModule} (hFilters : filters.Pure)
    (config : Config) {commands : List Command} (hPure : ∀ command ∈ commands, command.Pure)
    (depth : Nat) (connection : ConnectionId) {keep : Command → Bool}
    (hKeep : ∀ command ∈ commands, command.Concerns connection → keep command = true) :
    ∃ steps last kept final,
      (Server.new filters config).run (depth + 1) commands = some (steps, last) ∧
      (Server.new filters config).run (depth + 1) (commands.filter keep) = some (kept, final) ∧
      List.Forall₂ (Step.SameTo connection) (steps.filter (fun step => keep step.command)) kept ∧
      last.AgreeOn connection final := by
  have hQuiet := Server.Quiet.new hFilters config
  have hSound := Registry.Sound.new config
  have hKeptPure : ∀ command ∈ commands.filter keep, command.Pure :=
    fun command hCommand => hPure command (List.mem_filter.mp hCommand).1
  obtain ⟨steps, last, hRun, -⟩ := Server.run_of_quiet hQuiet depth hPure
  obtain ⟨kept, final, hKept, -⟩ := Server.run_of_quiet hQuiet depth hKeptPure
  exact ⟨steps, last, kept, final, hRun, hKept,
    Server.run_filter hQuiet hQuiet hSound hSound rfl (.refl _ _) hPure hKeep hRun hKept⟩

/-- Filters that cannot be evaluated. -/
def FilterModule.failing : FilterModule :=
  FilterModule.empty.filter "failing"
    (fun _ => .ok (.ofResult (fun _ => .error (.evaluation "no"))))

/-- A connection that takes all orders, among others whose sinks are full or gone, whose predicates
fail, and which share the service with it before and after. -/
def Command.crowd : List Command :=
  [.request (.openConnection ⟨2⟩ (Sink.ofCapacity 0)),
    .request (.addPublication ⟨2⟩ "orders" { name := "all" }),
    .request (.closeConnection ⟨2⟩),
    .request (.openConnection ⟨1⟩ (Sink.ofCapacity 5)),
    .subscribe (some ⟨1⟩),
    .subscribe (some ⟨2⟩),
    .request (.addPublication ⟨1⟩ "orders" { name := "all" }),
    .request (.openConnection ⟨2⟩ (Sink.ofCapacity 0)),
    .request (.addPublication ⟨2⟩ "orders" { name := "all" }),
    .request (.openConnection ⟨3⟩ (Sink.ofCapacity 0)),
    .addFrom .failing ⟨3⟩ "orders" { name := "failing" },
    .request (.publish ⟨"orders", .created, none, .null⟩),
    .session ⟨⟨2⟩, 1⟩ .release,
    .request (.publish ⟨"orders", .removed, none, .null⟩)]

theorem FilterModule.failing_pure : FilterModule.failing.Pure := by
  refine .filter FilterModule.empty_pure ?_ _
  intro params predicate h
  cases h
  exact Predicate.pure_ofResult _

/-- What the crowded run hands to the connection is read off the run without the others. -/
theorem Server.run_without_others_crowd :
    ∃ steps last kept final,
      (Server.new Builtin.module {}).run 1 Command.crowd = some (steps, last) ∧
      (Server.new Builtin.module {}).run 1
        (Command.crowd.filter (fun command => decide (command.Concerns ⟨1⟩))) =
          some (kept, final) ∧
      kept.length = 5 ∧
      last.AgreeOn ⟨1⟩ final ∧
      last.registry.sessions.get? ⟨⟨1⟩, 0⟩ = final.registry.sessions.get? ⟨⟨1⟩, 0⟩ ∧
      final.registry.queued ⟨⟨1⟩, 0⟩ =
        [⟨⟨1⟩, "orders", .created, .null⟩, ⟨⟨1⟩, "orders", .removed, .null⟩] := by
  have hPure : ∀ command ∈ Command.crowd, command.Pure := by
    simp [Command.crowd, Command.Pure, FilterModule.failing_pure]
  obtain ⟨steps, last, kept, final, hRun, hKept, -, hLast⟩ :=
    Server.run_without_others Builtin.module_pure {} hPure 0 ⟨1⟩
      (fun command _ hConcerns => decide_eq_true hConcerns)
  refine ⟨steps, last, kept, final, hRun, hKept, ?_⟩
  have hFinal : ((Server.new Builtin.module {}).run 1
      (Command.crowd.filter (fun command => decide (command.Concerns ⟨1⟩)))).map
        (fun run => (run.1.length, run.2.registry.queued ⟨⟨1⟩, 0⟩)) =
      some (5, [⟨⟨1⟩, "orders", .created, .null⟩, ⟨⟨1⟩, "orders", .removed, .null⟩]) := rfl
  rw [hKept] at hFinal
  obtain ⟨hLength, hQueued⟩ := Prod.mk.inj (Option.some.inj hFinal)
  exact ⟨hLength, hLast, hLast.sessions _ rfl, hQueued⟩

end Fanout
