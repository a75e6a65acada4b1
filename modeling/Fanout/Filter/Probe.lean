import Fanout.Filter.Builtin

/-!
# Fanout — filters for trying out a server

Small filters beside the built-in ones: constant answers, strict comparisons,
failures on request, and predicates that act on the server which evaluates them.
-/

namespace Fanout.Probe

/-- Accepts no record. -/
def never : Filter := fun _ => .ok (Predicate.ofTest (fun _ => false))

/-- Takes a number as its param. -/
def needsNumber : Filter := fun params =>
  match params.head? with
  | some (.number _) => .ok Predicate.always
  | _ => .error (.invalidParams "expected a number")

/-- Accepts the records whose number `id` is the exact integer 1, and fails without one. -/
def strictId : Filter := fun _ =>
  .ok (Predicate.ofResult (fun record =>
    match record.get? "id" with
    | some (.number id) => .ok (id.same (Number.ofWord 1))
    | _ => .error (.evaluation "record has no numeric id")))

/-- Accepts the records with a strictly equal value under a key. -/
def fieldEquals : Filter := fun params =>
  match params.head? with
  | some (.string field) =>
    let expected := params.getD 1 .null
    .ok (Predicate.ofTest (fun record =>
      match record.get? field with
      | some value => value.same expected
      | none => false))
  | _ => .error (.invalidParams "field name required")

/-- The first param as a text. -/
def textOf (params : List Json) : String := (params.head?.bind Json.string?).getD ""

/-- Rejects its params, in the words of the first one. -/
def reject : Filter := fun params => .error (.invalidParams (textOf params))

/-- Fails on every record, in the words of the first param. -/
def explode : Filter := fun params =>
  let text := textOf params
  .ok (Predicate.ofResult (fun _ => .error (.evaluation text)))

/-- What a hook does on a record: one act, and then accept. -/
def hookBehaviour (action : String) (connection : ConnectionId) (service : String)
    (record : Json) : Behaviour :=
  let once (request : Request) : Behaviour := .act request (fun _ => .answer (.ok true))
  match action with
  | "close" => once (.closeConnection connection)
  | "remove" => once (.removePublication connection service)
  | "add" => once (.addPublication connection service { name := "all" })
  | "publish" => once (.publish ⟨service, .created, none, record⟩)
  | _ => .act .attend (fun
    | .unattended => .answer (.ok true)
    | _ => .answer (.error (.evaluation "unknown hook")))

/-- Acts on the server: the params are an action, a connection and a service. -/
def hook : Filter := fun params =>
  let connection := ((params[1]?).bind Json.word?).getD 0
  let service := ((params[2]?).bind Json.string?).getD ""
  .ok ⟨hookBehaviour (textOf params) ⟨connection⟩ service⟩

/-- The probing filters under their names. -/
def filters : List (String × Filter) :=
  [("always", Builtin.all), ("never", never), ("needs_number", needsNumber),
    ("strict_id", strictId), ("field_equals", fieldEquals), ("reject", reject),
    ("explode", explode), ("hook", hook)]

/-- The built-in filters and the probing ones. -/
def module : FilterModule :=
  FilterModule.build (.extend Builtin.module :: filters.map (fun filter => .filter filter.1 filter.2))

end Fanout.Probe
