import Fanout.Proofs.Closing
import Fanout.Proofs.Standpoint
import Fanout.Proofs.Veil

/-!
# Fanout — fields that only the server may see

Two runs that differ only in what the server alone may see of the events are the
same to a connection that has no publication tested on the full record: its
operations come to the same, and so do its sessions and its listeners, whatever
such publications other connections have.

## Main definitions

* `Mutation.Alike`, `Command.Alike` — events, and commands, that look the same to clients.
* `Registry.Modest` — no publication of a connection is tested on the full record.

## Results

* `Server.execute_agreeOn`, `Server.run_agreeOn` — a command, and a run, on two servers that are
  the same to a connection.
* `Server.modest_of_run` — a connection that asks for no such publication has none.
* `Server.server_fields_do_not_flow` — what follows for runs.
-/

namespace Fanout

open Server (Views)

/-! ## What looks the same to clients -/

/-- Two events that differ at most in what only the server may see. -/
structure Mutation.Alike (config : Config) (first second : Mutation) : Prop where
  service : first.service = second.service
  operation : first.operation = second.operation
  candidate : first.candidate.without (config.serverFieldsFor first.service) =
    second.candidate.without (config.serverFieldsFor second.service)
  after : first.after.without (config.serverFieldsFor first.service) =
    second.after.without (config.serverFieldsFor second.service)

/-- Two commands that are the same up to the event that they route. -/
inductive Command.Alike (config : Config) : Command → Command → Prop
  | same (command : Command) : Alike config command command
  | publish {first second : Mutation} (h : first.Alike config second) :
      Alike config (.request (.publish first)) (.request (.publish second))
  | inbound {first second : Mutation} (h : first.Alike config second) :
      Alike config (.inbound (.mutation first)) (.inbound (.mutation second))
  | route {first second : Mutation} (h : first.Alike config second) :
      Alike config (.route first) (.route second)

/-- No publication of a connection is tested on the full record. -/
def Registry.Modest (registry : Registry) (connection : ConnectionId) : Prop :=
  ∀ service publication, registry.publication? connection service = some publication →
    publication.ifServer = false

/-- The command adds no publication of the connection that is tested on the full record. -/
def Command.Modest (connection : ConnectionId) (command : Command) : Prop :=
  ∀ filters module spec, command.Adds filters module connection spec → spec.ifServer = false

namespace Command.Alike

variable {config : Config} {first second : Command}

/-- Commands that are alike have routed events that are, or are the same command. -/
theorem event (h : first.Alike config second) :
    (∃ mutation event, first.event? = some mutation ∧ second.event? = some event ∧
      mutation.Alike config event) ∨ (first = second ∧ first.event? = none) := by
  cases h with
  | same =>
    cases hEvent : first.event? with
    | none => exact .inr ⟨rfl, rfl⟩
    | some mutation => exact .inl ⟨mutation, mutation, rfl, rfl, rfl, rfl, rfl, rfl⟩
  | publish h => exact .inl ⟨_, _, rfl, rfl, h⟩
  | inbound h => exact .inl ⟨_, _, rfl, rfl, h⟩
  | route h => exact .inl ⟨_, _, rfl, rfl, h⟩

theorem pure (h : first.Alike config second) (hPure : first.Pure) : second.Pure := by
  cases h with
  | same => exact hPure
  | publish | inbound | route => trivial

theorem all_pure {commands others : List Command}
    (h : List.Forall₂ (Command.Alike config) commands others)
    (hPure : ∀ command ∈ commands, command.Pure) : ∀ command ∈ others, command.Pure := by
  induction h with
  | nil => exact hPure
  | cons hCommand _ ih =>
    obtain ⟨hFirst, hRest⟩ := List.forall_mem_cons.mp hPure
    exact List.forall_mem_cons.mpr ⟨hCommand.pure hFirst, ih hRest⟩

end Command.Alike

/-- What a publication that is not tested on the full record sees of an event, clients may see. -/
theorem Server.sameTo_of_alike {config : Config} {first second : Mutation}
    (hAlike : first.Alike config second) {publication : Publication}
    (hModest : publication.ifServer = false) :
    SameTo publication first second (Views.of (config.serverFieldsFor first.service) first)
      (Views.of (config.serverFieldsFor second.service) second) := by
  refine ⟨hAlike.service, hAlike.operation, ?_, hAlike.after⟩
  unfold Views.tested
  -- of the four records that could be tested, the two full ones are out
  rw [hModest]
  cases publication.checkBefore with
  | true => exact hAlike.candidate
  | false => exact hAlike.after

/-! ## Two runs -/

namespace Server

variable {config : Config} {server other : Server} {connection : ConnectionId}

/-- Commands that are alike, on servers that are the same to a connection: the connection is told
the same, and the servers stay the same to it. -/
theorem execute_agreeOn (hQuiet : server.Quiet) (hOther : other.Quiet)
    (hSound : server.registry.Sound) (hOtherSound : other.registry.Sound)
    (hFilters : server.filters = other.filters) (hConfig : server.registry.config = config)
    (hAgree : server.AgreeOn connection other) (hModest : server.registry.Modest connection)
    {depth : Nat} {first second : Command} (hAlike : first.Alike config second)
    {outcome given : Outcome} {after left : Server}
    (hFirst : server.execute (depth + 1) first = some (outcome, after))
    (hSecond : other.execute (depth + 1) second = some (given, left)) :
    (first.owner? = some connection → outcome = given) ∧ after.AgreeOn connection left := by
  rcases hAlike.event with ⟨mutation, event, hMutation, hEvent, hSame⟩ | ⟨rfl, hAtOnce⟩
  · -- an event is routed, and the connection is not told anything
    refine ⟨fun hOwner => ?_, ?_⟩
    · rw [owner?_of_event hMutation] at hOwner
      cases hOwner
    refine hAgree.routed hQuiet hOther hSound hOtherSound hMutation hEvent hSame.service ?_ hFirst
      hSecond
    intro publication hHeld
    rw [← hAgree.config, hConfig]
    exact sameTo_of_alike hSame (hModest _ _ hHeld)
  · exact hAgree.atOnce hSound hOtherSound hFilters hAtOnce hFirst hSecond

/-- Two runs that are alike, on servers that are the same to a connection. -/
theorem run_agreeOn (hQuiet : server.Quiet) (hOther : other.Quiet)
    (hSound : server.registry.Sound) (hOtherSound : other.registry.Sound)
    (hFilters : server.filters = other.filters) (hConfig : server.registry.config = config)
    (hAgree : server.AgreeOn connection other) (hModest : server.registry.Modest connection)
    {depth : Nat} {first second : List Command}
    (hAlike : List.Forall₂ (Command.Alike config) first second)
    (hPure : ∀ command ∈ first, command.Pure) {steps others : List Step} {last final : Server}
    (hFirst : server.run (depth + 1) first = some (steps, last))
    (hSecond : other.run (depth + 1) second = some (others, final))
    (hModests : ∀ step ∈ steps, step.after.registry.Modest connection) :
    List.Forall₂ (fun step counterpart =>
      (step.command.owner? = some connection → step.outcome = counterpart.outcome) ∧
        step.after.AgreeOn connection counterpart.after) steps others := by
  -- by induction on the pairs of commands; each step keeps all that the next one needs
  induction hAlike generalizing server other steps others with
  | nil =>
    cases hFirst
    cases hSecond
    exact .nil
  | @cons command counterpart rest later hCommand hRest ih =>
    obtain ⟨outcome, after, following, hExecute, hRun, rfl⟩ := run_cons_eq_some_iff.mp hFirst
    obtain ⟨given, left, ensuing, hExecuteOther, hRunOther, rfl⟩ :=
      run_cons_eq_some_iff.mp hSecond
    have hCommandPure := hPure command List.mem_cons_self
    obtain ⟨hOutcome, hAfter⟩ := execute_agreeOn hQuiet hOther hSound hOtherSound hFilters hConfig
      hAgree hModest hCommand hExecute hExecuteOther
    have hFollows := follows_of_execute hExecute
    have hFollowsOther := follows_of_execute hExecuteOther
    -- both servers stay quiet and sound, and keep filters and configuration
    refine .cons ⟨hOutcome, hAfter⟩ (ih ?_ ?_ ?_ ?_ ?_ ?_ hAfter ?_ ?_ hRun hRunOther ?_)
    · exact quiet_of_execute hQuiet hCommandPure hExecute
    · exact quiet_of_execute hOther (hCommand.pure hCommandPure) hExecuteOther
    · exact hFollows.sound hSound
    · exact hFollowsOther.sound hOtherSound
    · rw [hFollows.filters, hFilters, hFollowsOther.filters]
    · rw [hFollows.config, hConfig]
    · exact hModests _ List.mem_cons_self
    · exact fun following hFollowing => hPure following (List.mem_cons_of_mem _ hFollowing)
    · exact fun step hStep => hModests step (List.mem_cons_of_mem _ hStep)

/-! ## Connections that ask for no full records -/

/-- A connection that asks for no publication tested on the full record has none. -/
theorem modest_of_run (hQuiet : server.Quiet) (hSound : server.registry.Sound)
    (hModest : server.registry.Modest connection) {depth : Nat} {commands : List Command}
    (hPure : ∀ command ∈ commands, command.Pure)
    (hModests : ∀ command ∈ commands, command.Modest connection) {steps : List Step} {last : Server}
    (hRun : server.run (depth + 1) commands = some (steps, last)) :
    ∀ step ∈ steps, step.after.registry.Modest connection := by
  induction commands generalizing server steps with
  | nil =>
    cases hRun
    exact fun step hStep => by cases hStep
  | cons command rest ih =>
    obtain ⟨outcome, after, following, hExecute, hRest, rfl⟩ := run_cons_eq_some_iff.mp hRun
    obtain ⟨hCommandPure, hRestPure⟩ := List.forall_mem_cons.mp hPure
    obtain ⟨hCommand, hRestModest⟩ := List.forall_mem_cons.mp hModests
    have hSoundAfter := (follows_of_execute hExecute).sound hSound
    -- put as what holds of all publications, which a command keeps up if it holds of those it adds
    have hHeld : server.registry.AllHeld (fun publication =>
        publication.connection = connection → publication.ifServer = false) := by
      rintro owner service publication hHeld rfl
      obtain ⟨rfl, -⟩ := hSound.held hHeld
      exact hModest service publication hHeld
    have hHeldAfter := allHeld_of_execute hQuiet hExecute hHeld (fun hAdds hAdd hOwn => by
      obtain ⟨id, session, predicate, -, -, rfl, -⟩ := Registry.addPublication_ok hAdd
      cases hOwn
      exact hCommand _ _ _ hAdds)
    have hAfter : after.registry.Modest connection := fun service publication hStored =>
      hHeldAfter connection service publication hStored (hSoundAfter.held hStored).1
    exact List.forall_mem_cons.mpr ⟨hAfter, ih (quiet_of_execute hQuiet hCommandPure hExecute)
      hSoundAfter hAfter hRestPure hRestModest hRest⟩

end Server

/-! ## What follows for runs -/

/-- What the sink of a session was handed since the session was opened is stripped. -/
theorem Machine.Run.handed_stripped {filters : FilterModule} {config : Config}
    {commands : List Command} {events : List Event} {machine : Machine}
    (hRun : Run ⟨Server.new filters config, []⟩ commands events machine) {id : SessionId}
    {session : Session} (hSession : machine.server.registry.sessions.get? id = some session) :
    ∃ sink new, Event.opened id sink ∈ events ∧ session.sink.log = sink.log ++ new ∧
      ∀ delivery answer, (delivery, answer) ∈ new → delivery.Stripped config := by
  obtain ⟨-, hVeiled⟩ := hRun.veiled
  obtain ⟨past, sink, during, hEvents, hLog, -⟩ := hRun.handed_in_session hSession
  have hOpened : Event.opened id sink ∈ events := by
    rw [hEvents]
    exact List.mem_append_right _ List.mem_cons_self
  refine ⟨sink, _, hOpened, hLog, fun delivery answer hHanded => ?_⟩
  obtain ⟨publication, -, hEvent⟩ := Event.mem_handedTo_iff.mp hHanded
  refine hVeiled (.handed publication delivery answer) ?_
  rw [hEvents]
  exact List.mem_append_right _ (List.mem_cons_of_mem _ hEvent)

/-- Fields that only the server may see do not flow to clients. Two runs of commands without acting
predicates that are alike come to the same for every connection that has no publication tested on
the full record: it is told the same, and its sessions with their sinks and queues, its publications
and the listeners to it are the same after every command. And on every run, also where predicates
act, the records that a sink was handed since its session was opened are stripped. -/
theorem Server.server_fields_do_not_flow (config : Config) :
    (∀ filters : FilterModule, filters.Pure → ∀ first second : List Command,
      List.Forall₂ (Command.Alike config) first second → (∀ command ∈ first, command.Pure) →
      ∀ depth, ∃ steps last counterparts final,
        (Server.new filters config).run (depth + 1) first = some (steps, last) ∧
        (Server.new filters config).run (depth + 1) second = some (counterparts, final) ∧
        ∀ connection, (∀ step ∈ steps, step.after.registry.Modest connection) →
          List.Forall₂ (fun step counterpart =>
            (step.command.owner? = some connection → step.outcome = counterpart.outcome) ∧
              step.after.AgreeOn connection counterpart.after) steps counterparts) ∧
    (∀ filters depth commands steps last,
      (Server.new filters config).run depth commands = some (steps, last) →
      ∃ events, Machine.Run ⟨Server.new filters config, []⟩ commands events ⟨last, []⟩) ∧
    (∀ filters commands events machine,
      Machine.Run ⟨Server.new filters config, []⟩ commands events machine →
      ∀ id session, machine.server.registry.sessions.get? id = some session →
        ∃ sink new, Event.opened id sink ∈ events ∧ session.sink.log = sink.log ++ new ∧
          ∀ delivery answer, (delivery, answer) ∈ new → delivery.Stripped config) := by
  refine ⟨?_, ?_, ?_⟩
  · intro filters hFilters first second hAlike hPure depth
    have hQuiet := Server.Quiet.new hFilters config
    have hSound := Registry.Sound.new config
    have hOtherPure := Command.Alike.all_pure hAlike hPure
    obtain ⟨steps, last, hFirst, -⟩ := Server.run_of_quiet hQuiet depth hPure
    obtain ⟨counterparts, final, hSecond, -⟩ := Server.run_of_quiet hQuiet depth hOtherPure
    refine ⟨steps, last, counterparts, final, hFirst, hSecond, fun connection hModests => ?_⟩
    -- at the start there are no publications at all
    have hModest : (Registry.new config).Modest connection :=
      fun service publication hHeld => by cases hHeld
    exact Server.run_agreeOn hQuiet hQuiet hSound hSound rfl rfl (.refl _ _) hModest hAlike hPure
      hFirst hSecond hModests
  · exact fun filters depth commands steps last hRun => Server.run_run hRun
  · exact fun filters commands events machine hRun id session hSession =>
      hRun.handed_stripped hSession

/-- Orders have a cost that only the server may see. -/
def Config.costly : Config := Config.withServerFields {} "orders" ["cost"]

/-- A new order of the given cost. -/
def Mutation.costing (cost : String) : Mutation :=
  ⟨"orders", .created, none, .object [("cost", .string cost), ("id", .string "7")]⟩

/-- A connection that takes what clients may see of orders, and one that is tested on all of it. -/
def Command.costing (cost : String) : List Command :=
  [.request (.openConnection ⟨1⟩ (Sink.ofCapacity 1)),
    .request (.openConnection ⟨2⟩ (Sink.ofCapacity 1)),
    .request (.addPublication ⟨1⟩ "orders" { name := "all" }),
    .request (.addPublication ⟨2⟩ "orders" { name := "all", ifServer := true }),
    .request (.publish (.costing cost)),
    .session ⟨⟨1⟩, 0⟩ .drain]

theorem Server.server_fields_do_not_flow_costing :
    ∃ steps last counterparts final,
      (Server.new Builtin.module .costly).run 1 (Command.costing "3") = some (steps, last) ∧
      (Server.new Builtin.module .costly).run 1 (Command.costing "5") =
        some (counterparts, final) ∧
      List.Forall₂ (fun step counterpart =>
        (step.command.owner? = some ⟨1⟩ → step.outcome = counterpart.outcome) ∧
          step.after.AgreeOn ⟨1⟩ counterpart.after) steps counterparts ∧
      last.registry.handed ⟨⟨1⟩, 0⟩ =
        [⟨⟨1⟩, "orders", .created, .object [("id", .string "7")]⟩] := by
  have hEvents : Mutation.Alike .costly (.costing "3") (.costing "5") := ⟨rfl, rfl, rfl, rfl⟩
  have hAlike : List.Forall₂ (Command.Alike .costly) (Command.costing "3")
      (Command.costing "5") :=
    .cons (.same _) (.cons (.same _) (.cons (.same _) (.cons (.same _)
      (.cons (.publish hEvents) (.cons (.same _) .nil)))))
  have hPure : ∀ command ∈ Command.costing "3", command.Pure := by
    simp [Command.costing, Command.Pure]
  have hModest : ∀ command ∈ Command.costing "3", command.Modest ⟨1⟩ := by
    intro command hCommand filters module spec hAdds
    cases hAdds <;> simp_all [Command.costing]
  obtain ⟨hRuns, -⟩ := Server.server_fields_do_not_flow .costly
  obtain ⟨steps, last, counterparts, final, hFirst, hSecond, hSame⟩ :=
    hRuns _ Builtin.module_pure _ _ hAlike hPure 0
  have hModests := Server.modest_of_run (Server.Quiet.new Builtin.module_pure .costly)
    (Registry.Sound.new .costly) (fun service publication hHeld => by cases hHeld) hPure hModest
    hFirst
  refine ⟨steps, last, counterparts, final, hFirst, hSecond, hSame ⟨1⟩ hModests, ?_⟩
  have hHanded : ((Server.new Builtin.module .costly).run 1 (Command.costing "3")).map
      (fun run => run.2.registry.handed ⟨⟨1⟩, 0⟩) =
        some [⟨⟨1⟩, "orders", .created, .object [("id", .string "7")]⟩] := rfl
  rw [hFirst] at hHanded
  exact Option.some.inj hHanded

end Fanout
