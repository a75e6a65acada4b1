import Fanout.Wire.Basic

/-!
# Fanout — publication specs

A client asks for a publication by naming a filter and its params.
-/

namespace Fanout

/-- Params as a list of arguments: an array is the list itself, null is no argument, any other
value is the only one. -/
def canonicalParams : Json → List Json
  | .null => []
  | .array items => items
  | value => [value]

/-- The publication that a client asks for. -/
structure PublicationSpec where
  /-- The name of the filter. -/
  name : String
  /-- The params of the filter, as the client gave them. -/
  params : Json := .null
  /-- Test the full record, with the fields that only the server may see. -/
  ifServer : Bool := false
  /-- Test the record before the change instead of the one after it. -/
  checkBefore : Bool := false

namespace PublicationSpec

/-- The arguments of the filter. -/
def positionalParams (spec : PublicationSpec) : List Json := canonicalParams spec.params

/-- The record layout of specs. -/
def layout : Layout := ⟨"struct PublicationSpec", ["name", "params", "ifServer", "checkBefore"]⟩

instance : Wire PublicationSpec where
  encode spec :=
    .object [("checkBefore", .bool spec.checkBefore), ("ifServer", .bool spec.ifServer),
      ("name", .string spec.name), ("params", spec.params)]
  decode buffered := layout.decode buffered fun fields =>
    PublicationSpec.mk <$> layout.get buffered fields "name"
      <*> layout.getD buffered fields "params" .null
      <*> layout.getD buffered fields "ifServer" false
      <*> layout.getD buffered fields "checkBefore" false
  shape := .record
    [("name", true, .string), ("params", false, .any), ("ifServer", false, .boolean),
      ("checkBefore", false, .boolean)]

end PublicationSpec

end Fanout
