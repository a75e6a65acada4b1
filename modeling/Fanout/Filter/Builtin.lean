import Fanout.Filter.Module
import Fanout.Filter.Query

/-!
# Fanout — the built-in filters

* `query` takes a query object; without one, or with null, it accepts every record.
* `ids` takes a list of ids, or a single one; it looks at a record's `id`, or at its `_id` where
  there is no `id`.
* `all` accepts every record.
-/

namespace Fanout.Builtin

/-- Accepts the records that a query holds of. -/
def query : Filter := fun params =>
  match params.head? with
  | none | some .null => .ok Predicate.always
  | some (.object members) =>
    match Query.ofMembers members with
    | .ok query => .ok (Predicate.ofTest (fun record => query.holds record))
    | .error error => .error (.invalidParams error.message)
  | some other => .error (.invalidParams ("query must be an object, got " ++ other.kind))

/-- Accepts every record. -/
def all : Filter := fun _ => .ok Predicate.always

/-- The ids that the first param lists. -/
def idList : Option Json → List Json
  | none | some .null => []
  | some (.array ids) => ids
  | some id => [id]

/-- The id of a record. -/
def idOf? (record : Json) : Option Json := (record.get? "id").or (record.get? "_id")

/-- Accepts the records whose id is one of those listed. -/
def ids : Filter := fun params =>
  let wanted := idList params.head?
  .ok (Predicate.ofTest (fun record =>
    match idOf? record with
    | some id => wanted.any (·.looselyEquals id)
    | none => false))

/-- The module of the built-in filters. -/
def module : FilterModule :=
  FilterModule.build [.filter "query" query, .filter "all" all, .filter "ids" ids]

end Fanout.Builtin
