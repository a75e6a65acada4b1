import Fanout.Data.Channel
import Fanout.Mutation

/-!
# Fanout — sinks

A sink is where the deliveries of a connection leave the server: a bounded
channel that its client reads, or any code that answers each delivery.
-/

namespace Fanout

/-- The far side of a sink. -/
inductive Outlet where
  /-- A queue that the client reads. -/
  | channel (queue : Channel Delivery)
  /-- Code that answers the last of the deliveries handed to it so far. -/
  | callback (respond : List Delivery → Offer)

/-- A sink, with everything that was ever handed to it. -/
structure Sink where
  outlet : Outlet
  /-- The deliveries handed to the sink, each with its answer. -/
  log : List (Delivery × Offer) := []
  /-- A mark by which the opener finds the sink again. -/
  mark : Nat := 0

namespace Sink

/-- A sink over a channel of the given capacity. -/
def ofCapacity (capacity : Nat) : Sink := { outlet := .channel { capacity } }

/-- A sink that answers from a list, its last answer repeating; without any answer, it takes
everything. -/
def scripted (script : List Offer) (mark : Nat) : Sink :=
  { outlet := .callback (fun handed =>
      script.getD (handed.length - 1) (script.getLast?.getD .delivered))
    mark }

/-- The deliveries handed to a sink, whatever it answered. -/
def handed (sink : Sink) : List Delivery := sink.log.map Prod.fst

/-- The answer of a sink to one more delivery, and its far side after that. -/
def answer (sink : Sink) (delivery : Delivery) : Offer × Outlet :=
  match sink.outlet with
  | .channel queue =>
    let (answer, queue) := queue.offer delivery
    (answer, .channel queue)
  | .callback respond => (respond (sink.handed ++ [delivery]), .callback respond)

/-- Hand a delivery to a sink. -/
def deliver (sink : Sink) (delivery : Delivery) : Offer × Sink :=
  let (answer, outlet) := sink.answer delivery
  (answer, { sink with outlet, log := sink.log ++ [(delivery, answer)] })

/-- The channel of a sink that has one. -/
def channel? (sink : Sink) : Option (Channel Delivery) :=
  match sink.outlet with
  | .channel queue => some queue
  | .callback _ => none

/-- Every delivery is logged with the answer that it got. -/
@[simp] theorem log_deliver (sink : Sink) (delivery : Delivery) :
    (sink.deliver delivery).2.log = sink.log ++ [(delivery, (sink.deliver delivery).1)] := rfl

/-- Every delivery handed to a sink is on its record. -/
@[simp] theorem handed_deliver (sink : Sink) (delivery : Delivery) :
    (sink.deliver delivery).2.handed = sink.handed ++ [delivery] := by
  show (sink.deliver delivery).2.log.map Prod.fst = sink.log.map Prod.fst ++ [delivery]
  rw [log_deliver, List.map_append, List.map_singleton]

end Sink

end Fanout
