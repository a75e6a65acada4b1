import Fanout.Error
import Fanout.Registry.Sink
import Fanout.Routing.Summary
import Fanout.Spec

/-!
# Fanout — predicates

A predicate decides whether a record belongs to a publication. Most predicates
only look at the record; but a predicate may also act on the server that
evaluates it, and go on according to the server's reply. `Behaviour` is the tree
of what it does. Away from any server every act is answered by `unattended`.

## Main definitions

* `Request`, `Reply` — the acts open to a predicate.
* `Predicate.evaluate` — the answer away from any server.
* `Predicate.Pure` — the predicate answers every record without acting.
-/

namespace Fanout

/-- An operation that is asked of a server. -/
inductive Request where
  /-- Ask only whether there is a server. -/
  | attend
  | openConnection (connection : ConnectionId) (sink : Sink)
  | closeConnection (connection : ConnectionId)
  /-- Add a publication compiled from the server's own filters. -/
  | addPublication (connection : ConnectionId) (service : String) (spec : PublicationSpec)
  | removePublication (connection : ConnectionId) (service : String)
  | publish (mutation : Mutation)

/-- The outcome of an operation. -/
inductive Reply where
  /-- There is no server. -/
  | unattended
  /-- Done; there is nothing to tell. -/
  | done
  | refused (error : PublicationError)
  /-- The services released by closing a connection; none if it was not open. -/
  | released (services : Option (List String))
  /-- The names of the publications removed. -/
  | removed (names : List String)
  | routed (summary : Summary)

/-- What evaluating a predicate on one record does. -/
inductive Behaviour where
  | answer (result : Except FilterError Bool)
  | act (request : Request) (next : Reply → Behaviour)

/-- The answer when every act is left unattended. -/
def Behaviour.unattended : Behaviour → Except FilterError Bool
  | .answer result => result
  | .act _ next => (next .unattended).unattended

/-- A compiled filter. -/
structure Predicate where
  /-- What the predicate does on a record. -/
  behave : Json → Behaviour

namespace Predicate

/-- The predicate that answers by a function, which may fail. -/
def ofResult (f : Json → Except FilterError Bool) : Predicate := ⟨fun record => .answer (f record)⟩

/-- The predicate that answers by a function. -/
def ofTest (f : Json → Bool) : Predicate := ofResult (fun record => .ok (f record))

/-- The predicate that accepts every record. -/
def always : Predicate := ofTest (fun _ => true)

/-- The answer away from any server. -/
def evaluate (predicate : Predicate) (record : Json) : Except FilterError Bool :=
  (predicate.behave record).unattended

/-- Whether a record is accepted; a failure counts as no. -/
def accepts (predicate : Predicate) (record : Json) : Bool :=
  match predicate.evaluate record with
  | .ok answer => answer
  | .error _ => false

/-- The predicate answers every record without acting. -/
def Pure (predicate : Predicate) : Prop :=
  ∀ record, predicate.behave record = .answer (predicate.evaluate record)

theorem pure_ofResult (f : Json → Except FilterError Bool) : (ofResult f).Pure := fun _ => rfl

theorem pure_ofTest (f : Json → Bool) : (ofTest f).Pure := fun _ => rfl

@[simp] theorem evaluate_ofResult (f : Json → Except FilterError Bool) (record : Json) :
    (ofResult f).evaluate record = f record := rfl

@[simp] theorem evaluate_ofTest (f : Json → Bool) (record : Json) :
    (ofTest f).evaluate record = .ok (f record) := rfl

end Predicate

end Fanout
