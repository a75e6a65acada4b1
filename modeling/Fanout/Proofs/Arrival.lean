import Fanout.Proofs.Routing

/-!
# Fanout — when an event is counted

An event is counted as it comes in, before anything else is done for it, and what
becomes of it when its routing is over; of an event that nobody publishes there is
nothing to add at the end. In between other events may come in and be counted.
Nothing that a server does depends on its counters, so that it comes to the same to
count an event as a whole once it is routed.

## Main definitions

* `Server.count` — count an event with its summary.
* `Server.Unaware` — publishing that does not depend on how many events came in.

## Results

* `Server.publish_eq` — to publish is to route between the two counts.
* `Server.publish_succ` — it comes to the same to count the event once it is routed.
-/

namespace Fanout

/-- Of an event that nothing becomes of, nothing is added. -/
theorem Stats.add_empty (stats : Stats) : stats.add {} = stats := by
  have hZero : UInt64.ofNat 0 = 0 := rfl
  simp only [add, hZero, UInt64.add_zero]

namespace Server

/-- Count an event with its summary. -/
def count (server : Server) (summary : Summary) : Server :=
  { server with stats := server.stats.record summary }

/-- To publish an event is to route it between the two counts. -/
theorem publish_eq (depth : Nat) (mutation : Mutation) (server : Server) :
    publish (depth + 1) mutation server =
      (routeWith (publish depth) mutation server.arrive).map
        (fun (summary, after) => (summary, after.record summary)) := by
  show (if (server.registry.snapshot mutation.service).isEmpty then
      some (({} : Summary), server.arrive)
    else (routeOver (publish depth) (server.registry.snapshot mutation.service) mutation
      server.arrive).bind _) = (routeOver (publish depth)
        (server.registry.snapshot mutation.service) mutation server.arrive).map _
  split
  · -- where nobody publishes, nothing is added at the end
    rename_i hEmpty
    have hRecord : server.arrive.record {} = server.arrive := by
      unfold record
      rw [Stats.add_empty]
    have hNobody : routeOver (publish depth) [] mutation server.arrive =
        some (Progress.finish { server := server.arrive }) := rfl
    rw [List.isEmpty_iff.mp hEmpty, hNobody, Progress.finish_eq, Option.map_some]
    dsimp only
    rw [closeAll, List.foldl_nil, ite_self, hRecord]
  · cases routeOver (publish depth) (server.registry.snapshot mutation.service) mutation
      server.arrive <;> rfl

/-! ## Nothing depends on the counters -/

/-- Publishing that does not depend on how many events came in before. -/
def Unaware (publish : Publisher) : Prop :=
  ∀ mutation server,
    publish mutation server.arrive = (publish mutation server).map (Prod.map id arrive)

section
variable {publish : Publisher}

theorem respond_arrive (hUnaware : Unaware publish) (server : Server) (request : Request) :
    server.arrive.respond publish request =
      (server.respond publish request).map (Prod.map id arrive) := by
  cases request with
  -- what is done to the registry has nothing to do with the counters
  | attend | openConnection | closeConnection | addPublication | removePublication => rfl
  | publish mutation =>
    unfold respond
    dsimp only
    rw [hUnaware]
    cases publish mutation server <;> rfl

theorem carryOut_arrive (hUnaware : Unaware publish) (behaviour : Behaviour) (server : Server) :
    carryOut publish behaviour server.arrive =
      (carryOut publish behaviour server).map (Prod.map id arrive) := by
  -- by induction on what the predicate has still to do
  induction behaviour generalizing server with
  | answer result => rfl
  | act request next ih =>
    show (server.arrive.respond publish request).bind _ =
      ((server.respond publish request).bind _).map _
    rw [respond_arrive hUnaware]
    cases server.respond publish request with
    | none => rfl
    | some replied => exact ih replied.1 replied.2

/-- A routing under way with one event more counted. -/
def Progress.arrive (progress : Progress) : Progress :=
  { progress with server := progress.server.arrive }

theorem Progress.deliver_arrive (progress : Progress) (publication : Publication)
    (delivery : Delivery) :
    progress.arrive.deliver publication delivery =
      (progress.deliver publication delivery).arrive := by
  have hHanded : progress.arrive.server.registry.deliver publication.session delivery =
      progress.server.registry.deliver publication.session delivery := rfl
  unfold deliver
  rw [hHanded]
  -- whatever the session answers
  cases progress.server.registry.deliver publication.session delivery with
  | mk outcome registry => cases outcome <;> rfl

theorem Progress.conclude_arrive (progress : Progress) (mutation : Mutation) (views : Views)
    (entry : ConnectionId × Publication) (result : Except FilterError Bool) :
    progress.arrive.conclude mutation views entry result =
      (progress.conclude mutation views entry result).arrive := by
  unfold conclude
  split
  · exact progress.deliver_arrive _ _
  · rfl
  · rfl

theorem Progress.foldlM_visit_arrive (hUnaware : Unaware publish) (mutation : Mutation)
    (views : Views) (publications : List (ConnectionId × Publication)) (progress : Progress) :
    publications.foldlM (Progress.visit publish mutation views) progress.arrive =
      (publications.foldlM (Progress.visit publish mutation views) progress).map arrive := by
  induction publications generalizing progress with
  | nil => rfl
  | cons entry rest ih =>
    have hVisit : progress.arrive.visit publish mutation views entry =
        (progress.visit publish mutation views entry).map arrive := by
      rw [visit_eq, visit_eq]
      show (carryOut publish _ progress.server.arrive).map _ = _
      rw [carryOut_arrive hUnaware, Option.map_map, Option.map_map]
      refine congrArg (Option.map · _) (funext fun carried => ?_)
      exact conclude_arrive { progress with server := carried.2 } mutation views entry carried.1
    rw [List.foldlM_cons, List.foldlM_cons, hVisit]
    cases progress.visit publish mutation views entry with
    | none => rfl
    | some next => exact ih next

theorem closeAll_arrive (server : Server) (connections : List ConnectionId) :
    server.arrive.closeAll connections = (server.closeAll connections).arrive := by
  induction connections generalizing server with
  | nil => rfl
  | cons connection rest ih => exact ih (server.closeConnection connection).2

theorem Progress.finish_arrive (progress : Progress) :
    progress.arrive.finish = Prod.map id Server.arrive progress.finish := by
  have hClosed : progress.server.arrive.closeAll progress.gone =
      (progress.server.closeAll progress.gone).arrive := closeAll_arrive _ _
  rw [finish_eq, finish_eq]
  show (progress.summary, if progress.server.registry.config.closeOnDisconnect then
    progress.server.arrive.closeAll progress.gone else progress.server.arrive) = _
  rw [hClosed]
  split <;> rfl

/-- A routing comes to the same with one event more counted before it. -/
theorem routeWith_arrive (hUnaware : Unaware publish) (mutation : Mutation) (server : Server) :
    routeWith publish mutation server.arrive =
      (routeWith publish mutation server).map (Prod.map id arrive) := by
  show ((server.registry.snapshot mutation.service).foldlM (Progress.visit publish mutation
    (Views.of (server.registry.config.serverFieldsFor mutation.service) mutation))
    (Progress.arrive { server })).bind _ = Option.map _ (Option.bind _ _)
  rw [Progress.foldlM_visit_arrive hUnaware]
  cases (server.registry.snapshot mutation.service).foldlM (Progress.visit publish mutation
      (Views.of (server.registry.config.serverFieldsFor mutation.service) mutation))
      { server } with
  | none => rfl
  | some progress => exact congrArg some progress.finish_arrive

end

theorem unaware_publish (depth : Nat) : Unaware (publish depth) := by
  induction depth with
  | zero => exact fun _ _ => rfl
  | succ depth ih =>
    intro mutation server
    rw [publish_eq, publish_eq, routeWith_arrive ih, Option.map_map, Option.map_map]
    -- the two counts are of different things
    rfl

/-- It comes to the same to count an event as a whole once it is routed. -/
theorem publish_succ (depth : Nat) (mutation : Mutation) (server : Server) :
    publish (depth + 1) mutation server =
      (route depth mutation server).map
        (fun (summary, after) => (summary, after.count summary)) := by
  rw [publish_eq, routeWith_arrive (unaware_publish depth), Option.map_map]
  rfl

end Server

end Fanout
