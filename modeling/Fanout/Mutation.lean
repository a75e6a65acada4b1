import Fanout.Connection

/-!
# Fanout — mutations and deliveries

A service raises a `Mutation` when it has changed a record. What reaches a
connection that is interested in it is a `Delivery`.
-/

namespace Fanout

/-- What a service did to a record. -/
inductive Operation where
  | created
  | updated
  | patched
  | removed
  deriving DecidableEq

namespace Operation

/-- The name of an operation. -/
def name : Operation → String
  | .created => "created"
  | .updated => "updated"
  | .patched => "patched"
  | .removed => "removed"

/-- All operations under their names, in declaration order. -/
def known : List (String × Operation) :=
  [.created, .updated, .patched, .removed].map (fun operation => (operation.name, operation))

instance : Wire Operation where
  encode operation := .string operation.name
  decode := Wire.decodeChoice known
  shape := .choice (known.map Prod.fst)

end Operation

/-- A change of a record of some service. -/
structure Mutation where
  service : String
  operation : Operation
  /-- The record before the change, if the service supplied it. -/
  before : Option Json
  /-- The record after the change. -/
  after : Json

namespace Mutation

/-- The record that shows whether a subscriber knew of it before the change: the one before, or the
one after if there is none before. -/
def candidate (mutation : Mutation) : Json := mutation.before.getD mutation.after

/-- The record layout of mutations. -/
def layout : Layout := ⟨"struct MutationEvent", ["service", "operation", "before", "after"]⟩

instance : Wire Mutation where
  encode mutation :=
    .object <| ("after", mutation.after) ::
      ((mutation.before.map (fun before => ("before", before))).toList ++
        [("operation", Wire.encode mutation.operation), ("service", .string mutation.service)])
  decode buffered := layout.decode buffered fun fields =>
    Mutation.mk <$> layout.get buffered fields "service"
      <*> layout.get buffered fields "operation"
      <*> layout.getD buffered fields "before" none
      <*> layout.get buffered fields "after"
  shape := .record
    [("service", true, .string), ("operation", true, Wire.shape Operation),
      ("before", false, .any), ("after", true, .any)]

end Mutation

/-- A record handed to one connection. -/
structure Delivery where
  connection : ConnectionId
  service : String
  operation : Operation
  record : Json

namespace Delivery

/-- The record layout of deliveries. -/
def layout : Layout := ⟨"struct Delivery", ["connection", "service", "operation", "record"]⟩

instance : Wire Delivery where
  encode delivery :=
    .object [("connection", Wire.encode delivery.connection),
      ("operation", Wire.encode delivery.operation), ("record", delivery.record),
      ("service", .string delivery.service)]
  decode buffered := layout.decode buffered fun fields =>
    Delivery.mk <$> layout.get buffered fields "connection"
      <*> layout.get buffered fields "service"
      <*> layout.get buffered fields "operation"
      <*> layout.get buffered fields "record"
  shape := .record
    [("connection", true, .word), ("service", true, .string),
      ("operation", true, Wire.shape Operation), ("record", true, .any)]

end Delivery

end Fanout
