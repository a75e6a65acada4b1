import Fanout.Proofs.Quiet

/-!
# Fanout — commands from the standpoint of a connection

A command on two servers that are the same to a connection. If it is the
connection's own, it comes to the same on both; if it is another's, it does not
show; and if it routes an event, all that shows is what the connection's own
publication makes of it.

## Results

* `Server.AgreeOn.execute` — a command for the connection itself.
* `Server.AtOnce.agreeOn` — a command for another one.
* `Server.AgreeOn.routed` — commands that route events the connection cannot tell apart.
* `Server.AgreeOn.atOnce`, `Server.AgreeOn.same` — one command, on both servers.
-/

namespace Fanout

open Server (Publisher Views)

/-! ## Commands for the connection itself -/

namespace Server

variable {server other after : Server} {connection : ConnectionId}

theorem AgreeOn.addFrom (hAgree : server.AgreeOn connection other)
    (hSound : server.registry.Sound) (module : FilterModule) (service : String)
    (spec : PublicationSpec) :
    (server.addFrom module connection service spec).1 =
        (other.addFrom module connection service spec).1 ∧
      (server.addFrom module connection service spec).2.AgreeOn connection
        (other.addFrom module connection service spec).2 := by
  obtain ⟨hResult, hAfter⟩ :=
    Registry.AgreeOn.addPublication hAgree hSound service module spec
  exact ⟨congrArg (replyOf fun _ => .done) hResult, hAfter⟩

/-- An operation for the connection itself. -/
theorem AgreeOn.respond (hAgree : server.AgreeOn connection other)
    (hSound : server.registry.Sound) (hFilters : server.filters = other.filters)
    (publish : Publisher) {request : Request} (hOwner : request.owner? = some connection) :
    ∃ first second, server.respond publish request = some first ∧
      other.respond publish request = some second ∧
      first.1 = second.1 ∧ first.2.AgreeOn connection second.2 := by
  -- each is an operation of the registry, which comes to the same on both
  cases request with
  | openConnection opened sink =>
    cases hOwner
    obtain ⟨hResult, hAfter⟩ := Registry.AgreeOn.openConnection hAgree sink
    exact ⟨_, _, rfl, rfl, congrArg (replyOf fun _ => .done) hResult, hAfter⟩
  | closeConnection closed =>
    cases hOwner
    obtain ⟨hReleased, hAfter⟩ := Registry.AgreeOn.closeConnection hAgree hSound
    exact ⟨_, _, rfl, rfl, congrArg Reply.released hReleased, hAfter⟩
  | addPublication adding service spec =>
    cases hOwner
    obtain ⟨hResult, hAfter⟩ :=
      Registry.AgreeOn.addPublication hAgree hSound service server.filters spec
    refine ⟨_, _, Server.respond_addPublication rfl, Server.respond_addPublication rfl, ?_⟩
    rw [← hFilters]
    exact ⟨congrArg (replyOf fun _ => .done) hResult, hAfter⟩
  | removePublication removing service =>
    cases hOwner
    obtain ⟨hResult, hAfter⟩ := Registry.AgreeOn.removePublication hAgree hSound service
    exact ⟨_, _, rfl, rfl, congrArg (replyOf .removed) hResult, hAfter⟩
  | attend | publish => cases hOwner

/-- A command for the connection itself has the same outcome. -/
theorem AgreeOn.execute (hAgree : server.AgreeOn connection other)
    (hSound : server.registry.Sound) (hFilters : server.filters = other.filters) (depth : Nat)
    {command : Command} (hOwner : command.owner? = some connection) :
    ∃ first second, server.execute depth command = some first ∧
      other.execute depth command = some second ∧
      first.1 = second.1 ∧ first.2.AgreeOn connection second.2 := by
  cases command with
  | request asked =>
    obtain ⟨first, second, hFirst, hSecond, hReply, hAfter⟩ :=
      hAgree.respond hSound hFilters (publish depth) hOwner
    unfold Server.execute perform
    dsimp only
    rw [hFirst, hSecond]
    exact ⟨_, _, rfl, rfl, congrArg Outcome.reply hReply, hAfter⟩
  | inbound message =>
    -- a message is an operation whose reply nobody gets
    obtain ⟨first, second, hFirst, hSecond, -, hAfter⟩ :=
      @AgreeOn.respond server other connection hAgree hSound hFilters (publish depth)
        message.request hOwner
    unfold Server.execute handle perform
    dsimp only
    rw [hFirst, hSecond]
    exact ⟨_, _, rfl, rfl, rfl, hAfter⟩
  | addFrom module adding service spec =>
    cases hOwner
    obtain ⟨hReply, hAfter⟩ := hAgree.addFrom hSound module service spec
    exact ⟨_, _, rfl, rfl, congrArg Outcome.reply hReply, hAfter⟩
  | route mutation => cases hOwner
  | subscribe scope =>
    cases hOwner
    obtain ⟨hId, hAfter⟩ := Registry.AgreeOn.subscribe hAgree
    exact ⟨_, _, rfl, rfl, congrArg Outcome.listening hId, hAfter⟩
  | session id use =>
    obtain ⟨hGiven, hAfter⟩ := Registry.AgreeOn.useSession hAgree (Option.some.inj hOwner) use
    exact ⟨_, _, rfl, rfl, hGiven, hAfter⟩
  | listener id use =>
    obtain ⟨hGiven, hAfter⟩ := Registry.AgreeOn.useListener hAgree hOwner use
    exact ⟨_, _, rfl, rfl, hGiven, hAfter⟩

/-! ## Commands for another connection -/

theorem Does.agreeOn {request : Request} {events : List Event} {reply : Reply}
    (hDoes : server.Does request events reply after) (hSound : server.registry.Sound)
    (hOther : request.owner? ≠ some connection) : after.AgreeOn connection server := by
  have hNe : ∀ {owner}, request.owner? = some owner → owner ≠ connection :=
    fun hOwner hEq => hOther (hEq ▸ hOwner)
  cases hDoes using Server.Does.elim with
  | attended | openRefused | notOpen | addRefused | removeRefused => exact .refl _ _
  | opened h => exact Registry.openConnection_agreeOn h (hNe rfl)
  | closed h => exact Registry.closeConnection_agreeOn hSound (hNe rfl)
  | added h => exact Registry.addPublication_agreeOn hSound h (hNe rfl)
  | removed h => exact Registry.removePublication_agreeOn h (hNe rfl)

/-- A command that is neither for a connection nor routes an event does not show to it. -/
theorem AtOnce.agreeOn {command : Command} {outcome : Outcome} {events : List Event}
    (hDone : server.AtOnce command outcome events after) (hSound : server.registry.Sound)
    (hOther : command.owner? ≠ some connection) : after.AgreeOn connection server := by
  cases hDone with
  | request hDoes => exact hDoes.agreeOn hSound hOther
  | inbound hDoes => exact hDoes.agreeOn hSound hOther
  | added h =>
    exact Registry.addPublication_agreeOn hSound h (fun hEq => hOther (congrArg some hEq))
  | addRefused h =>
    obtain ⟨-, rfl⟩ := Registry.addPublication_error h
    exact .refl _ _
  | subscribe =>
    exact ⟨rfl, rfl, fun _ _ => rfl, fun _ => rfl, Hub.scopedTo_subscribe_other hOther⟩
  | @session id use =>
    show (server.registry.useSession id use).2.AgreeOn connection server.registry
    rw [Registry.useSession_snd]
    exact Registry.modifySession_agreeOn _ _ (fun hEq => hOther (congrArg some hEq))
  | listener =>
    exact ⟨rfl, rfl, fun _ _ => rfl, fun _ => rfl, Hub.scopedTo_useListener_other _ hOther⟩

/-! ## Commands on two servers -/

/-- A command that routes an event is made for no connection. -/
theorem owner?_of_event {command : Command} {mutation : Mutation}
    (h : command.event? = some mutation) : command.owner? = none := by
  cases command with
  | request asked =>
    cases asked with
    | publish => rfl
    | attend | openConnection | closeConnection | addPublication | removePublication => cases h
  | inbound message =>
    cases message with
    | mutation => rfl
    | opened | closed => cases h
  | route => rfl
  | addFrom | subscribe | session | listener => cases h

variable {given : Outcome} {left : Server} {depth : Nat}

/-- Commands that route events which look the same to the connection's publication. -/
theorem AgreeOn.routed (hAgree : server.AgreeOn connection other) (hQuiet : server.Quiet)
    (hOther : other.Quiet) (hSound : server.registry.Sound) (hOtherSound : other.registry.Sound)
    {first second : Command} {mutation event : Mutation} (hMutation : first.event? = some mutation)
    (hEvent : second.event? = some event) (hService : mutation.service = event.service)
    (hSame : ∀ publication,
      server.registry.publication? connection mutation.service = some publication →
        SameTo publication mutation event
          (Views.of (server.registry.config.serverFieldsFor mutation.service) mutation)
          (Views.of (other.registry.config.serverFieldsFor event.service) event))
    {outcome : Outcome} (hFirst : server.execute (depth + 1) first = some (outcome, after))
    (hSecond : other.execute (depth + 1) second = some (given, left)) :
    after.AgreeOn connection left := by
  obtain ⟨answer, stats, hRouted⟩ := execute_of_event hQuiet depth hMutation
  obtain ⟨reply, counted, hOtherRouted⟩ := execute_of_event hOther depth hEvent
  rw [hFirst] at hRouted
  rw [hSecond] at hOtherRouted
  cases hRouted
  cases hOtherRouted
  exact AgreeOn.quietRoute hAgree hSound hOtherSound hService hSame

/-- A command that routes no event. -/
theorem AgreeOn.atOnce (hAgree : server.AgreeOn connection other)
    (hSound : server.registry.Sound) (hOtherSound : other.registry.Sound)
    (hFilters : server.filters = other.filters) {command : Command} (hEvent : command.event? = none)
    {outcome : Outcome} (hFirst : server.execute depth command = some (outcome, after))
    (hSecond : other.execute depth command = some (given, left)) :
    (command.owner? = some connection → outcome = given) ∧ after.AgreeOn connection left := by
  by_cases hOwner : command.owner? = some connection
  · -- the connection's own command
    obtain ⟨done, doneOther, hDone, hDoneOther, hOutcome, hAfter⟩ :=
      hAgree.execute hSound hFilters depth hOwner
    rw [hFirst] at hDone
    rw [hSecond] at hDoneOther
    cases hDone
    cases hDoneOther
    exact ⟨fun _ => hOutcome, hAfter⟩
  · -- a command for others, which does not show on either side
    obtain ⟨events, hDone⟩ := atOnce_of_execute hFirst hEvent
    obtain ⟨others, hDoneOther⟩ := atOnce_of_execute hSecond hEvent
    have hAfter := hDone.agreeOn hSound hOwner
    have hLeft := hDoneOther.agreeOn hOtherSound hOwner
    exact ⟨fun hOwned => absurd hOwned hOwner, hAfter.trans (hAgree.trans hLeft.symm)⟩

/-- Any one command. -/
theorem AgreeOn.same (hAgree : server.AgreeOn connection other) (hQuiet : server.Quiet)
    (hOther : other.Quiet) (hSound : server.registry.Sound) (hOtherSound : other.registry.Sound)
    (hFilters : server.filters = other.filters) {command : Command} {outcome : Outcome}
    (hFirst : server.execute (depth + 1) command = some (outcome, after))
    (hSecond : other.execute (depth + 1) command = some (given, left)) :
    (command.owner? = some connection → outcome = given) ∧ after.AgreeOn connection left := by
  cases hEvent : command.event? with
  | none => exact hAgree.atOnce hSound hOtherSound hFilters hEvent hFirst hSecond
  | some mutation =>
    refine ⟨fun hOwner => ?_, ?_⟩
    · rw [owner?_of_event hEvent] at hOwner
      cases hOwner
    -- both servers strip the event of the same fields
    refine hAgree.routed hQuiet hOther hSound hOtherSound hEvent hEvent rfl ?_ hFirst hSecond
    intro publication _
    rw [hAgree.config]
    exact ⟨rfl, rfl, rfl, rfl⟩

end Server

end Fanout
