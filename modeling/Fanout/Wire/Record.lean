import Fanout.Wire.Error
import Fanout.Wire.Shape

/-!
# Fanout — records on the wire

A record is written as an object, and read from an object or from the array of
its fields in declaration order. Unknown members are ignored. A trailing field
with a default may be missing from either form.

Reading tries every field and reports one problem. In an object the fields are
visited by ascending name, then the missing ones in declaration order; in an
array they are visited in declaration order.

## Main definitions

* `Fields` — where the fields of a record are found.
* `Reading` — the outcome of reading some fields: a value or the first problem.
* `Layout` — the name of a record and of its fields.
-/

namespace Fanout

/-- Where the fields of a record are found. -/
inductive Fields where
  | members (members : List (String × Json))
  | items (items : List Json)

/-! ## Readings -/

/-- When a problem is met: in an object the fields present come by name and the missing ones
after them by position; in an array all come by position. -/
structure Turn where
  late : Bool
  name : String
  position : Nat

/-- Whether the first turn comes strictly before the second. -/
def Turn.before (a b : Turn) : Bool :=
  match a.late, b.late with
  | false, true => true
  | true, false => false
  | _, _ =>
    match compare a.name b.name with
    | .lt => true
    | .gt => false
    | .eq => decide (a.position < b.position)

/-- A problem with one field. -/
structure Problem where
  turn : Turn
  error : DecodeError

/-- Of two problems the one that is met first. -/
def Problem.first (a b : Problem) : Problem := if b.turn.before a.turn then b else a

/-- The outcome of reading some fields. -/
inductive Reading (α : Type) where
  | value (value : α)
  | problem (problem : Problem)

namespace Reading

/-- Join two readings; of two problems the first one stays. -/
def apply {α β : Type} : Reading (α → β) → Reading α → Reading β
  | .value f, .value a => .value (f a)
  | .value _, .problem p => .problem p
  | .problem p, .value _ => .problem p
  | .problem p, .problem q => .problem (p.first q)

instance : Applicative Reading where
  pure := .value
  seq f a := apply f (a ())

/-- The outcome as a result. -/
def result {α : Type} : Reading α → Except DecodeError α
  | .value a => .ok a
  | .problem p => .error p.error

end Reading

/-! ## Layouts -/

/-- The name of a record as messages give it, and its fields in declaration order. -/
structure Layout where
  name : String
  fields : List String

namespace Layout

/-- The place of a field in declaration order. -/
def position (layout : Layout) (field : String) : Nat := layout.fields.idxOf field

/-- The value of a field, if it is there. -/
def find? (layout : Layout) (fields : Fields) (field : String) : Option Json :=
  match fields with
  | .members members => Entries.find? field members
  | .items items => items[layout.position field]?

/-- The turn of a field that is present. -/
def turn (layout : Layout) (fields : Fields) (field : String) : Turn :=
  match fields with
  | .members _ => ⟨false, field, 0⟩
  | .items _ => ⟨false, "", layout.position field⟩

/-- The problem of a required field that is missing. -/
def missing (layout : Layout) (fields : Fields) (field : String) : Problem :=
  match fields with
  | .members _ => ⟨⟨true, "", layout.position field⟩, .missingField field⟩
  | .items _ =>
    ⟨⟨false, "", layout.position field⟩,
      .tooShort (layout.position field) layout.name layout.fields.length⟩

variable {α : Type}

/-- Read a field that is present. -/
def present (layout : Layout) (fields : Fields) (field : String)
    (decode : Json → Except DecodeError α) (value : Json) : Reading α :=
  match decode value with
  | .ok value => .value value
  | .error error => .problem ⟨layout.turn fields field, error⟩

/-- Read a required field. -/
def required (layout : Layout) (fields : Fields) (field : String)
    (decode : Json → Except DecodeError α) : Reading α :=
  match layout.find? fields field with
  | some value => layout.present fields field decode value
  | none => .problem (layout.missing fields field)

/-- Read a field that stands for `default` when it is missing. -/
def defaulted (layout : Layout) (fields : Fields) (field : String)
    (decode : Json → Except DecodeError α) (default : α) : Reading α :=
  match layout.find? fields field with
  | some value => layout.present fields field decode value
  | none => .value default

/-- Nothing stands after the last field of the array form. -/
def exhausted (layout : Layout) (buffered : Bool) (fields : Fields) : Except DecodeError Unit :=
  match fields with
  | .members _ => .ok ()
  | .items items =>
    if items.length ≤ layout.fields.length then .ok ()
    else if buffered then .error (.tooLongInside items.length layout.fields.length)
    else .error (.tooLong items.length)

/-- Read all fields of a record; `buffered` says that it is part of a tagged record. -/
def readFields (layout : Layout) (buffered : Bool) (read : Fields → Reading α)
    (fields : Fields) : Except DecodeError α := do
  let value ← (read fields).result
  layout.exhausted buffered fields
  return value

/-- Read a record from either form. -/
def decode (layout : Layout) (buffered : Bool) (read : Fields → Reading α) :
    Json → Except DecodeError α
  | .object members => layout.readFields buffered read (.members members)
  | .array items => layout.readFields buffered read (.items items)
  | value => .error (.wrongKind value (.record layout.name))

end Layout

end Fanout
