import Fanout.Proofs.Arrival
import Fanout.Proofs.Machine
import Fanout.Proofs.Sound

/-!
# Fanout — runs and the machine

Whatever a run of commands comes to, the machine comes to as well, one step at a
time. So what holds of every state of the machine holds all along every run, also
in the middle of a routing.

The depth to which publishing may nest does not show: the machine has as many
routings under way as it takes.

## Results

* `Server.carryOut_run` — carrying out a predicate is a run of the machine.
* `Server.routeOver_run` — so is a routing, in whatever order it takes the publications.
* `Server.execute_run`, `Server.run_run` — so is a command, and a list of commands.
-/

namespace Fanout

open Server (Progress Views)

variable {server after : Server}

/-! ## Operations done at once -/

theorem Server.does_closeConnection (server : Server) (connection : ConnectionId) :
    ∃ events, server.Does (.closeConnection connection) events
      (.released (server.closeConnection connection).1) (server.closeConnection connection).2 := by
  cases hLive : server.registry.liveSession? connection with
  | none =>
    have hClose := Server.closeConnection_of_not_live hLive
    rw [hClose]
    exact ⟨[], .notOpen hClose⟩
  | some found => exact ⟨[.closed found.1], .closed hLive⟩

theorem Server.respond_does {publish : Server.Publisher} {request : Request} {reply : Reply}
    (h : server.respond publish request = some (reply, after)) (hAtOnce : request.event? = none) :
    ∃ events, server.Does request events reply after := by
  cases request with
  | attend =>
    cases h
    exact ⟨[], .attended⟩
  | openConnection connection sink =>
    obtain ⟨⟨result, registry⟩, hOpen⟩ :
        ∃ done, server.registry.openConnection connection sink = done := ⟨_, rfl⟩
    rw [Server.respond_openConnection hOpen] at h
    cases h
    cases result with
    | error error => exact ⟨[], .openRefused hOpen⟩
    | ok id => exact ⟨_, .opened hOpen⟩
  | closeConnection connection =>
    cases h
    exact server.does_closeConnection connection
  | addPublication connection service spec =>
    obtain ⟨⟨result, registry⟩, hAdd⟩ :
        ∃ done, server.registry.addPublication connection service server.filters spec = done :=
      ⟨_, rfl⟩
    rw [Server.respond_addPublication hAdd] at h
    cases h
    cases result with
    | error error => exact ⟨[], .addRefused hAdd⟩
    | ok publication => exact ⟨_, .added hAdd⟩
  | removePublication connection service =>
    obtain ⟨⟨result, registry⟩, hRemove⟩ :
        ∃ done, server.registry.removePublication connection service = done := ⟨_, rfl⟩
    rw [Server.respond_removePublication hRemove] at h
    cases h
    cases result with
    | error error => exact ⟨[], .removeRefused hRemove⟩
    | ok names => exact ⟨[], .removed hRemove⟩
  | publish mutation => cases hAtOnce

/-! ## Routings -/

namespace Server

/-- A publisher whose routings the machine follows from within any other routing. -/
def Followed (publish : Publisher) : Prop :=
  ∀ {mutation server summary after frame entry next},
    publish mutation server = some (summary, after) →
    frame.focus = some (entry, .act (.publish mutation) next) →
    ∀ routings, ∃ events, Machine.During routings.length ⟨server, frame :: routings⟩ events
      ⟨after, frame.resume entry (next (.routed summary)) :: routings⟩

theorem resume_of_focus {frame : Frame} {entry : ConnectionId × Publication}
    {behaviour : Behaviour} (h : frame.focus = some (entry, behaviour)) :
    frame.resume entry behaviour = frame := by
  unfold Frame.resume
  rw [← h]

theorem carryOut_run {publish : Publisher} (hFollowed : Followed publish) {behaviour : Behaviour}
    {result : Except FilterError Bool} {entry : ConnectionId × Publication}
    (h : carryOut publish behaviour server = some (result, after)) (frame : Frame)
    (hFocus : frame.focus = some (entry, behaviour)) (routings : List Frame) :
    ∃ events, Machine.During routings.length ⟨server, frame :: routings⟩ events
      ⟨after, frame.resume entry (.answer result) :: routings⟩ := by
  -- by induction on what the predicate has still to do
  induction behaviour generalizing server frame with
  | answer answer =>
    cases h
    rw [resume_of_focus hFocus]
    exact ⟨[], .start⟩
  | act request next ih =>
    change (server.respond publish request).bind _ = _ at h
    obtain ⟨⟨reply, replied⟩, hRespond, hNext⟩ := Option.bind_eq_some_iff.mp h
    have hStep : ∃ events, Machine.During routings.length ⟨server, frame :: routings⟩ events
        ⟨replied, frame.resume entry (next reply) :: routings⟩ := by
      cases hEvent : request.event? with
      | none =>
        obtain ⟨events, hDoes⟩ := respond_does hRespond hEvent
        exact ⟨events, .single (.act hFocus hDoes) (Nat.lt_succ_self _)⟩
      | some mutation =>
        -- a routing within this one, which is what the publisher is followed in
        cases request with
        | publish mutation =>
          change (publish mutation server).bind _ = _ at hRespond
          obtain ⟨⟨summary, routed⟩, hPublish, hReply⟩ := Option.bind_eq_some_iff.mp hRespond
          cases hReply
          exact hFollowed hPublish hFocus routings
        | _ => cases hEvent
    obtain ⟨events, hFirst⟩ := hStep
    obtain ⟨later, hRest⟩ := ih reply hNext (frame.resume entry (next reply)) rfl
    exact ⟨events ++ later, hFirst.trans hRest⟩

theorem visit_run {publish : Publisher} (hFollowed : Followed publish) {progress next : Progress}
    {entry : ConnectionId × Publication} {rest : List (ConnectionId × Publication)} (frame : Frame)
    (h : progress.visit publish frame.mutation frame.views entry = some next)
    (hRest : frame.rest.Perm (entry :: rest)) (routings : List Frame) :
    ∃ events, Machine.During routings.length
      ⟨progress.server, frame.proceed progress :: routings⟩ events
      ⟨next.server, { frame with rest }.proceed next :: routings⟩ := by
  rw [Progress.visit_eq] at h
  obtain ⟨⟨result, server⟩, hCarry, hNext⟩ := Option.map_eq_some_iff.mp h
  subst hNext
  -- the publication comes under test, its predicate is carried out, and the answer concludes
  have hVisit : Machine.During routings.length
      ⟨progress.server, frame.proceed progress :: routings⟩ []
      ⟨progress.server, (frame.proceed progress).visit entry rest :: routings⟩ :=
    .single (.visit rfl hRest) (Nat.lt_succ_self _)
  obtain ⟨events, hTest⟩ := carryOut_run hFollowed hCarry
    ((frame.proceed progress).visit entry rest) rfl routings
  have hConclude := Machine.During.single (@Machine.Step.conclude server
    (((frame.proceed progress).visit entry rest).resume entry (.answer result)) routings entry
    result rfl) (Nat.lt_succ_self routings.length)
  exact ⟨_, (hVisit.trans hTest).trans hConclude⟩

theorem visits_run {publish : Publisher} (hFollowed : Followed publish) {progress next : Progress}
    {order : List (ConnectionId × Publication)} (frame : Frame)
    (h : order.foldlM (Progress.visit publish frame.mutation frame.views) progress = some next)
    (hOrder : frame.rest.Perm order) (routings : List Frame) :
    ∃ events, Machine.During routings.length
      ⟨progress.server, frame.proceed progress :: routings⟩ events
      ⟨next.server, { frame with rest := [] }.proceed next :: routings⟩ := by
  -- by induction on the publications still to be tested, of which each visit takes one
  induction order generalizing progress frame with
  | nil =>
    cases h
    rw [← hOrder.eq_nil]
    exact ⟨[], .start⟩
  | cons entry rest ih =>
    rw [List.foldlM_cons] at h
    obtain ⟨visited, hVisit, hLater⟩ := Option.bind_eq_some_iff.mp h
    obtain ⟨events, hFirst⟩ := visit_run hFollowed frame hVisit hOrder routings
    obtain ⟨later, hRun⟩ := ih { frame with rest } hLater (.refl _)
    exact ⟨events ++ later, hFirst.trans hRun⟩

/-- The connections whose sinks are gone are closed one by one. -/
theorem reaps_run {gone : List ConnectionId} (frame : Frame) (hTested : frame.Tested)
    (hConfig : server.registry.config.closeOnDisconnect = true) (hGone : frame.gone = gone)
    (routings : List Frame) :
    ∃ events, Machine.During routings.length ⟨server, frame :: routings⟩ events
      ⟨server.closeAll gone, { frame with gone := [] } :: routings⟩ := by
  induction gone generalizing server frame with
  | nil =>
    have hSame : { frame with gone := [] } = frame := by rw [← hGone]
    rw [hSame]
    exact ⟨[], .start⟩
  | cons connection gone ih =>
    obtain ⟨events, hDoes⟩ := server.does_closeConnection connection
    have hFirst : Machine.During routings.length ⟨server, frame :: routings⟩ events
        ⟨(server.closeConnection connection).2, { frame with gone } :: routings⟩ :=
      .single (.reap hTested hConfig hGone hDoes) (Nat.lt_succ_self _)
    -- what is configured is the same after a closing, so that the next one follows
    have hKept : (server.closeConnection connection).2.registry.config.closeOnDisconnect =
        true := by
      show (server.registry.closeConnection connection).2.config.closeOnDisconnect = true
      rw [Registry.config_closeConnection, hConfig]
    obtain ⟨later, hRun⟩ := ih { frame with gone } ⟨hTested.focus, hTested.rest⟩ hKept rfl
    exact ⟨events ++ later, hFirst.trans hRun⟩

/-- A routing of the machine that goes from its start to its end, with this summary. -/
def Routes (server : Server) (counted : Bool) (mutation : Mutation) (routings : List Frame)
    (summary : Summary) (after : Server) : Prop :=
  ∃ events frame, Machine.During routings.length
    ⟨server, Frame.start server counted mutation :: routings⟩ events ⟨after, frame :: routings⟩ ∧
    frame.Done after ∧ frame.summary = summary ∧ frame.counted = counted

/-- Whatever order the publications of the snapshot are taken in, the machine can follow. -/
theorem routeOver_run {publish : Publisher} (hFollowed : Followed publish) {mutation : Mutation}
    {order : List (ConnectionId × Publication)} {summary : Summary}
    (h : routeOver publish order mutation server = some (summary, after))
    (hOrder : order.Perm (server.registry.snapshot mutation.service)) (counted : Bool)
    (routings : List Frame) : server.Routes counted mutation routings summary after := by
  obtain ⟨progress, hVisits, hFinish⟩ := Option.bind_eq_some_iff.mp h
  obtain ⟨events, hRun⟩ := visits_run hFollowed (Frame.start server counted mutation) hVisits
    hOrder.symm routings
  change some progress.finish = _ at hFinish
  rw [Progress.finish_eq] at hFinish
  -- the configuration says whether the connections whose sinks are gone are left to close
  cases hConfig : progress.server.registry.config.closeOnDisconnect with
  | false =>
    rw [if_neg (by rw [hConfig]; decide)] at hFinish
    cases hFinish
    refine ⟨events, _, hRun, ⟨⟨rfl, rfl⟩, fun hTrue => ?_⟩, rfl, rfl⟩
    rw [hConfig] at hTrue
    cases hTrue
  | true =>
    rw [if_pos hConfig] at hFinish
    cases hFinish
    obtain ⟨later, hReaps⟩ := reaps_run
      (({ Frame.start server counted mutation with rest := [] } : Frame).proceed progress)
      ⟨rfl, rfl⟩ hConfig rfl routings
    exact ⟨events ++ later, _, hRun.trans hReaps, ⟨⟨rfl, rfl⟩, fun _ => rfl⟩, rfl, rfl⟩

theorem followed_publish (depth : Nat) : Followed (publish depth) := by
  induction depth with
  | zero =>
    -- no room for a routing, and nothing to follow
    intro mutation server summary after frame entry next h
    cases h
  | succ depth ih =>
    intro mutation server summary after frame entry next h hFocus routings
    rw [publish_eq] at h
    obtain ⟨⟨found, routed⟩, hRoute, hRecord⟩ := Option.map_eq_some_iff.mp h
    cases hRecord
    -- the event is counted, the routing starts on top of the one that asked for it, comes to its
    -- end, and yields to it
    obtain ⟨events, inner, hRun, hDone, hSummary, hCounted⟩ :=
      routeOver_run ih hRoute (.refl _) true (frame :: routings)
    have hNest : Machine.During routings.length ⟨server, frame :: routings⟩ []
        ⟨server.arrive, Frame.start server true mutation :: frame :: routings⟩ :=
      .single (.nest hFocus) (Nat.lt_succ_of_lt (Nat.lt_succ_self _))
    have hYield : Machine.During routings.length ⟨routed, inner :: frame :: routings⟩ []
        ⟨inner.settle routed, frame.resume entry (next (.routed inner.summary)) :: routings⟩ :=
      .single (.yield hDone hFocus) (Nat.lt_succ_self _)
    have hSettle : inner.settle routed = routed.record summary := by
      unfold Frame.settle
      rw [hCounted, hSummary]
      rfl
    rw [hSettle, hSummary] at hYield
    exact ⟨_, (hNest.trans (hRun.mono (Nat.le_succ _))).trans hYield⟩

/-! ## Commands -/

/-- An operation other than publishing has an outcome, and publishing plays no part in it. -/
theorem respond_of_no_event (publish : Publisher) (server : Server) (request : Request)
    (hAtOnce : request.event? = none) :
    ∃ reply after events, server.respond publish request = some (reply, after) ∧
      server.Does request events reply after := by
  have hSome : (server.respond publish request).isSome := by
    cases request with
    | publish mutation => cases hAtOnce
    | _ => rfl
  obtain ⟨⟨reply, after⟩, hRespond⟩ := Option.isSome_iff_exists.mp hSome
  obtain ⟨events, hDoes⟩ := respond_does hRespond hAtOnce
  exact ⟨reply, after, events, hRespond, hDoes⟩

/-- So has a command that routes no event. -/
theorem execute_of_no_event (depth : Nat) (server : Server) {command : Command}
    (hAtOnce : command.event? = none) :
    ∃ outcome after events, server.execute depth command = some (outcome, after) ∧
      server.AtOnce command outcome events after := by
  cases command with
  | request asked =>
    obtain ⟨reply, after, events, hRespond, hDoes⟩ :=
      respond_of_no_event (publish depth) server asked hAtOnce
    unfold execute perform
    dsimp only
    rw [hRespond]
    exact ⟨_, _, _, rfl, .request hDoes⟩
  | inbound message =>
    obtain ⟨reply, after, events, hRespond, hDoes⟩ :=
      respond_of_no_event (publish depth) server message.request hAtOnce
    unfold execute handle perform
    dsimp only
    rw [hRespond]
    exact ⟨_, _, _, rfl, .inbound hDoes⟩
  | addFrom module connection service spec =>
    unfold execute
    dsimp only
    obtain ⟨⟨result, registry⟩, hAdd⟩ :
        ∃ done, server.registry.addPublication connection service module spec = done := ⟨_, rfl⟩
    rw [addFrom_eq hAdd]
    cases result with
    | error error => exact ⟨_, _, _, rfl, .addRefused hAdd⟩
    | ok publication => exact ⟨_, _, _, rfl, .added hAdd⟩
  | route mutation => cases hAtOnce
  | subscribe scope => exact ⟨_, _, _, rfl, .subscribe⟩
  | session id use => exact ⟨_, _, _, rfl, .session⟩
  | listener id use => exact ⟨_, _, _, rfl, .listener⟩

/-- What a command that routes no event leaves, it does at once. -/
theorem atOnce_of_execute {depth : Nat} {command : Command} {outcome : Outcome}
    (h : server.execute depth command = some (outcome, after)) (hAtOnce : command.event? = none) :
    ∃ events, server.AtOnce command outcome events after := by
  obtain ⟨given, left, events, hExecute, hDone⟩ := execute_of_no_event depth server hAtOnce
  rw [h] at hExecute
  cases hExecute
  exact ⟨events, hDone⟩

/-- A routing that starts on a server at rest comes to its end. -/
theorem routing_run {depth : Nat} {mutation : Mutation} {summary : Summary} {routed : Server}
    (h : routeWith (publish depth) mutation server = some (summary, routed)) (counted : Bool) :
    ∃ events, Machine.Run ⟨server, [Frame.start server counted mutation]⟩ [] events
      ⟨if counted then routed.record summary else routed, []⟩ := by
  obtain ⟨events, frame, hRun, hDone, rfl, rfl⟩ :=
    routeOver_run (followed_publish depth) h (.refl _) counted []
  exact ⟨_, hRun.run.trans (.single (.finish hDone))⟩

/-- A command that routes an event, as the routing between the two counts. -/
theorem routing_of_execute {depth : Nat} {command : Command} {mutation : Mutation}
    {outcome : Outcome} (h : server.execute depth command = some (outcome, after))
    (hEvent : command.event? = some mutation) :
    ∃ nesting summary routed,
      routeWith (publish nesting) mutation (Frame.arrive command.counted server) =
        some (summary, routed) ∧
      outcome = command.routed summary ∧
      after = if command.counted then routed.record summary else routed := by
  -- publishing counts the event, and there is none without room for it
  have hPublished : ∀ {summary published}, publish depth mutation server =
      some (summary, published) → ∃ nesting routed,
        routeWith (publish nesting) mutation server.arrive = some (summary, routed) ∧
          published = routed.record summary := by
    intro summary published hPublish
    cases depth with
    | zero => cases hPublish
    | succ nesting =>
      rw [publish_eq] at hPublish
      obtain ⟨⟨found, routed⟩, hRoute, hRecord⟩ := Option.map_eq_some_iff.mp hPublish
      cases hRecord
      exact ⟨nesting, routed, hRoute, rfl⟩
  cases command with
  | request asked =>
    cases asked <;> cases hEvent
    obtain ⟨⟨reply, performed⟩, hPerform, hReply⟩ := Option.map_eq_some_iff.mp h
    cases hReply
    obtain ⟨⟨summary, published⟩, hPublish, hRouted⟩ := Option.bind_eq_some_iff.mp hPerform
    cases hRouted
    obtain ⟨nesting, routed, hRoute, hRecord⟩ := hPublished hPublish
    exact ⟨nesting, summary, routed, hRoute, rfl, hRecord⟩
  | inbound message =>
    cases message <;> cases hEvent
    obtain ⟨handled, hHandle, hDone⟩ := Option.map_eq_some_iff.mp h
    cases hDone
    obtain ⟨⟨reply, performed⟩, hPerform, hReply⟩ := Option.bind_eq_some_iff.mp hHandle
    cases hReply
    obtain ⟨⟨summary, published⟩, hPublish, hRouted⟩ := Option.bind_eq_some_iff.mp hPerform
    cases hRouted
    obtain ⟨nesting, routed, hRoute, hRecord⟩ := hPublished hPublish
    exact ⟨nesting, summary, routed, hRoute, rfl, hRecord⟩
  | route event =>
    cases hEvent
    obtain ⟨⟨summary, routed⟩, hRoute, hReply⟩ := Option.map_eq_some_iff.mp h
    cases hReply
    exact ⟨depth, summary, after, hRoute, rfl, rfl⟩
  | addFrom | subscribe | session | listener => cases hEvent

/-- A command is given, and the machine comes to rest with what the command leaves. -/
theorem execute_run {depth : Nat} {command : Command} {outcome : Outcome}
    (h : server.execute depth command = some (outcome, after)) :
    ∃ events, Machine.Run ⟨server, []⟩ [command] events ⟨after, []⟩ := by
  cases hEvent : command.event? with
  | none =>
    obtain ⟨events, hDone⟩ := atOnce_of_execute h hEvent
    exact ⟨_, .issue .start (.atOnce hDone)⟩
  | some mutation =>
    -- whichever way the event came in, the machine starts the routing that the command asks for
    obtain ⟨nesting, summary, routed, hRoute, -, rfl⟩ := routing_of_execute h hEvent
    obtain ⟨later, hLater⟩ := routing_run hRoute command.counted
    rw [Frame.start_arrive] at hLater
    exact ⟨_, (Machine.Run.issue .start (.routing hEvent)).trans hLater⟩

/-- Every run of commands is a run of the machine. -/
theorem run_run {depth : Nat} {commands : List Command} {steps : List Step}
    (h : server.run depth commands = some (steps, after)) :
    ∃ events, Machine.Run ⟨server, []⟩ commands events ⟨after, []⟩ := by
  induction commands generalizing server steps with
  | nil =>
    cases h
    exact ⟨[], .start⟩
  | cons command rest ih =>
    obtain ⟨outcome, next, later, hExecute, hRest, -⟩ := run_cons_eq_some_iff.mp h
    obtain ⟨events, hFirst⟩ := execute_run hExecute
    obtain ⟨new, hLater⟩ := ih hRest
    exact ⟨events ++ new, hFirst.trans hLater⟩

end Server

end Fanout
