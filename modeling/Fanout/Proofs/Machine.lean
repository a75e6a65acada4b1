import Fanout.Proofs.Routing
import Fanout.Proofs.Run

/-!
# Fanout — a server step by step

A predicate may act on the server in the middle of a routing, and what it does
may start a routing within. `Machine` makes every point of such a run a state of
its own: a server together with the routings under way, the innermost first. Each
step does one thing to the server, and tells what it did to sessions and their
sinks.

A routing may take the publications of its snapshot in any order, and a predicate
that acts can tell which one it was.

## Main definitions

* `Event` — what happens to a session or its sink.
* `Machine.Step` — one step of the routings under way.
* `Server.Does`, `Server.AtOnce` — what is done in one step.
* `Machine.Issue` — a command is given to a server at rest.
* `Machine.Run` — the states reached by giving commands, and what happened on the way.
* `Machine.During` — the states reached while one routing goes on.

## Results

* `Machine.Run.since` — every routing under way has started, and has gone on since.
-/

namespace Fanout

open Server (Progress Views)

/-- What happens to a session or its sink. -/
inductive Event where
  | opened (id : SessionId) (sink : Sink)
  | closed (id : SessionId)
  /-- A publication was stored in the session it belongs to. -/
  | added (publication : Publication)
  /-- The sink of the publication's session was called, and gave an answer. -/
  | handed (publication : Publication) (delivery : Delivery) (answer : Offer)
  /-- A match found the publication's session closed. -/
  | missed (publication : Publication) (delivery : Delivery)

/-! ## Operations done at once -/

/-- The operations other than publishing, each with what happens to sessions. The server is as the
operation leaves it, also if it is refused. -/
inductive Server.Does (server : Server) : Request → List Event → Reply → Server → Prop
  | attended : Does server .attend [] .done server
  | opened {connection sink id after}
      (h : server.registry.openConnection connection sink = (.ok id, after)) :
      Does server (.openConnection connection sink) [.opened id sink] .done
        { server with registry := after }
  | openRefused {connection sink error after}
      (h : server.registry.openConnection connection sink = (.error error, after)) :
      Does server (.openConnection connection sink) [] (.refused error)
        { server with registry := after }
  | closed {connection id session}
      (h : server.registry.liveSession? connection = some (id, session)) :
      Does server (.closeConnection connection) [.closed id]
        (.released (server.closeConnection connection).1) (server.closeConnection connection).2
  | notOpen {connection after} (h : server.closeConnection connection = (none, after)) :
      Does server (.closeConnection connection) [] (.released none) after
  | added {connection service spec publication after}
      (h : server.registry.addPublication connection service server.filters spec =
        (.ok publication, after)) :
      Does server (.addPublication connection service spec) [.added publication] .done
        { server with registry := after }
  | addRefused {connection service spec error after}
      (h : server.registry.addPublication connection service server.filters spec =
        (.error error, after)) :
      Does server (.addPublication connection service spec) [] (.refused error)
        { server with registry := after }
  | removed {connection service names after}
      (h : server.registry.removePublication connection service = (.ok names, after)) :
      Does server (.removePublication connection service) [] (.removed names)
        { server with registry := after }
  | removeRefused {connection service error after}
      (h : server.registry.removePublication connection service = (.error error, after)) :
      Does server (.removePublication connection service) [] (.refused error)
        { server with registry := after }

/-- Cases of what was done, in which an operation that is refused has left the server as it was. -/
@[elab_as_elim]
theorem Server.Does.elim {server : Server}
    {motive : ∀ request events reply after, server.Does request events reply after → Prop}
    (attended : motive _ _ _ _ .attended)
    (opened : ∀ {connection sink id after}
      (h : server.registry.openConnection connection sink = (.ok id, after)),
      motive _ _ _ _ (.opened h))
    (openRefused : ∀ {connection sink error}
      (h : server.registry.openConnection connection sink = (.error error, server.registry)),
      motive _ _ _ server (.openRefused h))
    (closed : ∀ {connection id session}
      (h : server.registry.liveSession? connection = some (id, session)),
      motive _ _ _ _ (.closed h))
    (notOpen : ∀ {connection} (h : server.registry.liveSession? connection = none),
      motive _ _ _ server (.notOpen (@closeConnection_of_not_live server connection h)))
    (added : ∀ {connection service spec publication after}
      (h : server.registry.addPublication connection service server.filters spec =
        (.ok publication, after)),
      motive _ _ _ _ (.added h))
    (addRefused : ∀ {connection service spec error}
      (h : server.registry.addPublication connection service server.filters spec =
        (.error error, server.registry)),
      motive _ _ _ server (.addRefused h))
    (removed : ∀ {connection service names after}
      (h : server.registry.removePublication connection service = (.ok names, after)),
      motive _ _ _ _ (.removed h))
    (removeRefused : ∀ {connection service error}
      (h : server.registry.removePublication connection service =
        (.error error, server.registry)),
      motive _ _ _ server (.removeRefused h))
    {request : Request} {events : List Event} {reply : Reply} {after : Server}
    (hDoes : server.Does request events reply after) : motive request events reply after hDoes := by
  cases hDoes with
  | attended => exact attended
  | opened h => exact opened h
  | openRefused h =>
    obtain ⟨-, -, rfl⟩ := Registry.openConnection_error h
    exact openRefused h
  | closed h => exact closed h
  | notOpen h =>
    obtain ⟨hLive, rfl⟩ := closeConnection_none h
    exact notOpen hLive
  | added h => exact added h
  | addRefused h =>
    obtain ⟨-, rfl⟩ := Registry.addPublication_error h
    exact addRefused h
  | removed h => exact removed h
  | removeRefused h =>
    obtain ⟨-, -, rfl⟩ := Registry.removePublication_error h
    exact removeRefused h

/-- The commands that route no event, each with what happens to sessions. -/
inductive Server.AtOnce (server : Server) : Command → Outcome → List Event → Server → Prop
  | request {request events reply after} (hDoes : server.Does request events reply after) :
      AtOnce server (.request request) (.reply reply) events after
  | inbound {message events reply after}
      (hDoes : server.Does message.request events reply after) :
      AtOnce server (.inbound message) .done events after
  | added {module connection service spec publication after}
      (h : server.registry.addPublication connection service module spec =
        (.ok publication, after)) :
      AtOnce server (.addFrom module connection service spec) (.reply .done) [.added publication]
        { server with registry := after }
  | addRefused {module connection service spec error after}
      (h : server.registry.addPublication connection service module spec =
        (.error error, after)) :
      AtOnce server (.addFrom module connection service spec) (.reply (.refused error)) []
        { server with registry := after }
  | subscribe {scope} :
      AtOnce server (.subscribe scope) (.listening (server.subscribe scope).1) []
        (server.subscribe scope).2
  | session {id use} :
      AtOnce server (.session id use) (server.registry.useSession id use).1 []
        { server with registry := (server.registry.useSession id use).2 }
  | listener {id use} :
      AtOnce server (.listener id use) (server.registry.hub.useListener id use).1 []
        { server with
          registry := { server.registry with
            hub := (server.registry.hub.useListener id use).2 } }

/-- What handing a delivery to a publication's session comes to. -/
def Server.handing (server : Server) (publication : Publication) (delivery : Delivery) : Event :=
  match server.registry.sessions.get? publication.session with
  | some session =>
    match session.state with
    | .opened => .handed publication delivery (session.sink.deliver delivery).1
    | .closed => .missed publication delivery
  | none => .missed publication delivery

/-! ## Routings under way -/

/-- A routing under way. -/
structure Frame where
  /-- Whether the server's own router does it, which counts the event. -/
  counted : Bool
  mutation : Mutation
  views : Views
  /-- The publications still to be tested, of which any may be the next. -/
  rest : List (ConnectionId × Publication)
  /-- The publication under test, with what its predicate has still to do. -/
  focus : Option ((ConnectionId × Publication) × Behaviour) := none
  summary : Summary := {}
  /-- The connections whose sinks turned out to be gone and that are still to be closed. -/
  gone : List ConnectionId := []

namespace Frame

/-- A routing that starts on a server, with all that is on the service still to be tested. -/
def start (server : Server) (counted : Bool) (mutation : Mutation) : Frame where
  counted
  mutation
  views := Views.of (server.registry.config.serverFieldsFor mutation.service) mutation
  rest := server.registry.snapshot mutation.service

/-- The routing with a publication under test, and the others still to be tested. -/
def visit (frame : Frame) (entry : ConnectionId × Publication)
    (rest : List (ConnectionId × Publication)) : Frame :=
  { frame with
    rest
    focus := some (entry, entry.2.predicate.behave (frame.views.tested entry.2)) }

/-- The routing with something else left to do for the publication under test. -/
def resume (frame : Frame) (entry : ConnectionId × Publication) (behaviour : Behaviour) : Frame :=
  { frame with focus := some (entry, behaviour) }

/-- The delivery of the event to a connection. -/
def delivery (frame : Frame) (connection : ConnectionId) : Delivery :=
  ⟨connection, frame.mutation.service, frame.mutation.operation, frame.views.clientAfter⟩

/-- The progress of the routing on a server once a publication has been tested. -/
def concluded (frame : Frame) (server : Server) (entry : ConnectionId × Publication)
    (result : Except FilterError Bool) : Progress :=
  Progress.conclude frame.mutation frame.views entry result
    { server, summary := frame.summary, gone := frame.gone }

/-- The routing with that progress. -/
def proceed (frame : Frame) (progress : Progress) : Frame :=
  { frame with focus := none, summary := progress.summary, gone := progress.gone }

/-- What the answer of a predicate does to sessions. -/
def events (frame : Frame) (server : Server) (entry : ConnectionId × Publication) :
    Except FilterError Bool → List Event
  | .ok true => [server.handing entry.2 (frame.delivery entry.1)]
  | _ => []

/-- All publications have been tested. -/
structure Tested (frame : Frame) : Prop where
  focus : frame.focus = none
  rest : frame.rest = []

/-- Nothing is left to do. -/
structure Done (frame : Frame) (server : Server) : Prop extends frame.Tested where
  gone : server.registry.config.closeOnDisconnect = true → frame.gone = []

/-- The server as the routing starts, which may count its event. -/
def arrive (counted : Bool) (server : Server) : Server :=
  if counted then server.arrive else server

/-- The server after the routing, which may count what became of its event. -/
def settle (frame : Frame) (server : Server) : Server :=
  if frame.counted then server.record frame.summary else server

theorem registry_arrive (counted : Bool) (server : Server) :
    (arrive counted server).registry = server.registry := by
  unfold arrive
  split <;> rfl

/-- To count an event does not change what there is to route. -/
theorem start_arrive (server : Server) (counted : Bool) (mutation : Mutation) :
    start (arrive counted server) counted mutation = start server counted mutation := by
  unfold start
  rw [registry_arrive]

theorem registry_settle (frame : Frame) (server : Server) :
    (frame.settle server).registry = server.registry := by
  unfold settle
  split <;> rfl

end Frame

/-- A server with the routings under way on it, the innermost first. -/
structure Machine where
  server : Server
  routings : List Frame := []

namespace Machine

/-- One step of the innermost routing. -/
inductive Step : Machine → List Event → Machine → Prop
  /-- Whichever publication is next. -/
  | visit {server frame routings entry rest} (hFocus : frame.focus = none)
      (hRest : frame.rest.Perm (entry :: rest)) :
      Step ⟨server, frame :: routings⟩ [] ⟨server, frame.visit entry rest :: routings⟩
  | act {server frame routings entry request next events reply after}
      (hFocus : frame.focus = some (entry, .act request next))
      (hDoes : server.Does request events reply after) :
      Step ⟨server, frame :: routings⟩ events ⟨after, frame.resume entry (next reply) :: routings⟩
  /-- The predicate publishes an event: a routing within the routing. -/
  | nest {server frame routings entry mutation next}
      (hFocus : frame.focus = some (entry, .act (.publish mutation) next)) :
      Step ⟨server, frame :: routings⟩ []
        ⟨server.arrive, Frame.start server true mutation :: frame :: routings⟩
  | conclude {server frame routings entry result}
      (hFocus : frame.focus = some (entry, .answer result)) :
      Step ⟨server, frame :: routings⟩ (frame.events server entry result)
        ⟨(frame.concluded server entry result).server,
          frame.proceed (frame.concluded server entry result) :: routings⟩
  /-- A connection is closed whose sink turned out to be gone. -/
  | reap {server frame routings connection gone events reply after} (hTested : frame.Tested)
      (hConfig : server.registry.config.closeOnDisconnect = true)
      (hGone : frame.gone = connection :: gone)
      (hDoes : server.Does (.closeConnection connection) events reply after) :
      Step ⟨server, frame :: routings⟩ events ⟨after, { frame with gone } :: routings⟩
  /-- The routing ends and the predicate that started it goes on. -/
  | yield {server frame outer routings entry mutation next} (hDone : frame.Done server)
      (hFocus : outer.focus = some (entry, .act (.publish mutation) next)) :
      Step ⟨server, frame :: outer :: routings⟩ []
        ⟨frame.settle server, outer.resume entry (next (.routed frame.summary)) :: routings⟩
  | finish {server frame} (hDone : frame.Done server) :
      Step ⟨server, [frame]⟩ [] ⟨frame.settle server, []⟩

/-- A command is given to a server at rest. It is done at once, or starts a routing. -/
inductive Issue : Machine → Command → List Event → Machine → Prop
  | atOnce {server command outcome events after}
      (hDone : server.AtOnce command outcome events after) :
      Issue ⟨server, []⟩ command events ⟨after, []⟩
  | routing {server command mutation} (hEvent : command.event? = some mutation) :
      Issue ⟨server, []⟩ command []
        ⟨Frame.arrive command.counted server, [Frame.start server command.counted mutation]⟩

/-- The states reached from a first one by giving commands, with what happened so far. -/
inductive Run (first : Machine) : List Command → List Event → Machine → Prop
  | start : Run first [] [] first
  | issue {commands events machine command new next} (hRun : Run first commands events machine)
      (hIssue : Issue machine command new next) :
      Run first (commands ++ [command]) (events ++ new) next
  | step {commands events machine new next} (hRun : Run first commands events machine)
      (hStep : Step machine new next) : Run first commands (events ++ new) next

theorem Run.trans {first second third : Machine} {commands later : List Command}
    {events new : List Event} (hFirst : Run first commands events second)
    (hSecond : Run second later new third) :
    Run first (commands ++ later) (events ++ new) third := by
  induction hSecond with
  | start => simpa using hFirst
  | issue _ hIssue ih =>
    rw [← List.append_assoc, ← List.append_assoc]
    exact .issue ih hIssue
  | step _ hStep ih =>
    rw [← List.append_assoc]
    exact .step ih hStep

/-- The states reached from a first one by steps, all of which leave more than `height` routings
under way: what happens while the routing on top of so many others goes on. -/
inductive During (height : Nat) (first : Machine) : List Event → Machine → Prop
  | start : During height first [] first
  | step {events machine new next} (hDuring : During height first events machine)
      (hStep : Step machine new next) (hHigh : height < next.routings.length) :
      During height first (events ++ new) next

namespace During

variable {height lower : Nat} {first second third : Machine} {events new : List Event}

theorem single (hStep : Step first new second) (hHigh : height < second.routings.length) :
    During height first new second :=
  .step .start hStep hHigh

theorem trans (hFirst : During height first events second)
    (hSecond : During height second new third) : During height first (events ++ new) third := by
  induction hSecond with
  | start => simpa using hFirst
  | step _ hStep hHigh ih =>
    rw [← List.append_assoc]
    exact .step ih hStep hHigh

/-- What leaves so many routings alone leaves fewer alone. -/
theorem mono (h : During height first events second) (hLower : lower ≤ height) :
    During lower first events second := by
  induction h with
  | start => exact .start
  | step _ hStep hHigh ih => exact .step ih hStep (Nat.lt_of_le_of_lt hLower hHigh)

theorem run (h : During height first events second) : Run first [] events second := by
  induction h with
  | start => exact .start
  | step _ hStep _ ih => exact .step ih hStep

end During

/-- As long as another routing is under way on top of it, a routing stays as it is, until it gets
the summary that it waits for. -/
theorem Step.above {now : Server} {next : Machine} {new : List Event} {top frame : Frame}
    {inner outer : List Frame} (hStep : Step ⟨now, top :: (inner ++ frame :: outer)⟩ new next) :
    (∃ others, next.routings = others ++ frame :: outer) ∨
    ∃ entry mutation rest reply, frame.focus = some (entry, .act (.publish mutation) rest) ∧
      next.routings = frame.resume entry (rest reply) :: outer := by
  generalize hBelow : inner ++ frame :: outer = below at hStep
  cases hStep with
  | visit | act | conclude | reap => exact .inl ⟨_ :: inner, congrArg (_ :: ·) hBelow.symm⟩
  | nest => exact .inl ⟨_ :: _ :: inner, congrArg (_ :: _ :: ·) hBelow.symm⟩
  | yield hDone hFocus =>
    cases inner with
    | nil =>
      -- it is the routing itself that waits
      obtain ⟨rfl, rfl⟩ := List.cons.inj hBelow
      exact .inr ⟨_, _, _, _, hFocus, rfl⟩
    | cons first inner =>
      obtain ⟨rfl, rfl⟩ := List.cons.inj hBelow
      exact .inl ⟨_ :: inner, rfl⟩
  | finish => exact absurd hBelow (List.append_ne_nil_of_right_ne_nil _ (List.cons_ne_nil _ _))

/-- A routing that is under way after a step has started in it, on top of all others, or was under
way before it. -/
theorem Step.started {machine next : Machine} {new : List Event} (hStep : Step machine new next)
    {frame : Frame} {outer : List Frame} (h : frame :: outer <:+ next.routings) :
    (∃ server mutation, outer = machine.routings ∧ frame = Frame.start server true mutation ∧
      new = [] ∧ next = ⟨server, frame :: outer⟩) ∨
    ∃ known : Frame, known :: outer <:+ machine.routings ∧ known.counted = frame.counted ∧
      known.mutation = frame.mutation := by
  cases hStep with
  | @nest server _ _ _ mutation =>
    rcases List.suffix_cons_iff.mp h with hNew | hOld
    · obtain ⟨rfl, rfl⟩ := List.cons.inj hNew
      exact .inl ⟨server.arrive, mutation, rfl, rfl, rfl, rfl⟩
    · exact .inr ⟨frame, hOld, rfl, rfl⟩
  | visit | act | conclude | reap =>
    -- the innermost routing goes on, and the others are the same
    rcases List.suffix_cons_iff.mp h with hTop | hBelow
    · obtain ⟨rfl, rfl⟩ := List.cons.inj hTop
      exact .inr ⟨_, List.suffix_refl _, rfl, rfl⟩
    · exact .inr ⟨frame, hBelow.trans (List.suffix_cons _ _), rfl, rfl⟩
  | yield =>
    rcases List.suffix_cons_iff.mp h with hTop | hBelow
    · obtain ⟨rfl, rfl⟩ := List.cons.inj hTop
      exact .inr ⟨_, List.suffix_cons _ _, rfl, rfl⟩
    · exact .inr ⟨frame, (hBelow.trans (List.suffix_cons _ _)).trans (List.suffix_cons _ _), rfl,
        rfl⟩
  | finish => exact absurd (List.suffix_nil.mp h) (List.cons_ne_nil _ _)

/-- Every routing under way has started with the snapshot of its service, and has gone on since. -/
theorem Run.since {filters : FilterModule} {config : Config} {commands : List Command}
    {events : List Event} {machine : Machine}
    (hRun : Run ⟨Server.new filters config, []⟩ commands events machine) {frame : Frame}
    {outer : List Frame} (h : frame :: outer <:+ machine.routings) :
    ∃ server earlier during, events = earlier ++ during ∧
      Run ⟨Server.new filters config, []⟩ commands earlier
        ⟨server, Frame.start server frame.counted frame.mutation :: outer⟩ ∧
      During outer.length ⟨server, Frame.start server frame.counted frame.mutation :: outer⟩ during
        machine := by
  induction hRun generalizing frame with
  | start => exact absurd (List.suffix_nil.mp h) (List.cons_ne_nil _ _)
  | @issue commands events machine command new next hRun hIssue =>
    cases hIssue with
    | atOnce => exact absurd (List.suffix_nil.mp h) (List.cons_ne_nil _ _)
    | @routing server command mutation hEvent =>
      rcases List.suffix_cons_iff.mp h with hTop | hBelow
      · obtain ⟨hFrame, rfl⟩ := List.cons.inj hTop
        have hStart : Frame.start (Frame.arrive command.counted server) frame.counted
            frame.mutation = Frame.start server command.counted mutation := by
          rw [hFrame]
          exact Frame.start_arrive ..
        refine ⟨Frame.arrive command.counted server, _, [], (List.append_nil _).symm, ?_, ?_⟩
        · rw [hStart]
          exact .issue hRun (.routing hEvent)
        · rw [hStart]
          exact .start
      · exact absurd (List.suffix_nil.mp hBelow) (List.cons_ne_nil _ _)
  | @step commands events machine new next hRun hStep ih =>
    rcases hStep.started h with ⟨server, mutation, rfl, rfl, rfl, rfl⟩ |
      ⟨known, hKnown, hCounted, hMutation⟩
    · exact ⟨server, _, [], (List.append_nil _).symm, .step hRun hStep, .start⟩
    · obtain ⟨server, earlier, during, rfl, hEarlier, hDuring⟩ := ih hKnown
      rw [hCounted, hMutation] at hEarlier hDuring
      refine ⟨server, earlier, during ++ new, List.append_assoc .., hEarlier,
        .step hDuring hStep ?_⟩
      exact h.length_le

theorem Run.single {first next : Machine} {new : List Event} (hStep : Step first new next) :
    Run first [] new next :=
  .step .start hStep

end Machine

end Fanout
