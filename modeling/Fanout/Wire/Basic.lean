import Fanout.Wire.Record

/-!
# Fanout — wire forms

`Wire α` says how a value of `α` is written and read. A value is read from a JSON
value, with the cause of a failure, or from a text, with the kind of its first
fault.
-/

namespace Fanout

/-- How the values of a type are written and read. -/
class Wire (α : Type) where
  /-- The written form. -/
  encode : α → Json
  /-- Read a value; `buffered` says that it is part of a tagged record. -/
  decode : (buffered : Bool) → Json → Except DecodeError α
  /-- The form as a text has to fit it. -/
  shape : Shape

namespace Wire

/-- Read a value that stands alone. -/
def ofJson {α : Type} [Wire α] (value : Json) : Except DecodeError α := decode false value

/-- Read a value from a text: the text has to fit the form, and nothing may follow it. -/
def ofText {α : Type} [Wire α] (text : String) : Except Fault α := do
  let document := Document.ofText text
  Shape.check Draft.maxDepth false (shape α) document.root
  let value ← (ofJson document.root.value).mapError (fun _ => Fault.unfit)
  if document.trailing then .error .malformed else return value

/-! ## Plain forms -/

instance : Wire Json := ⟨id, fun _ value => .ok value, .any⟩

instance : Wire String where
  encode := .string
  decode _
    | .string value => .ok value
    | value => .error (.wrongKind value .string)
  shape := .string

instance : Wire Bool where
  encode := .bool
  decode _
    | .bool value => .ok value
    | value => .error (.wrongKind value .boolean)
  shape := .boolean

instance : Wire UInt64 where
  encode := Json.ofWord
  decode _
    | .number (.integer value _) =>
      if 0 ≤ value then .ok (UInt64.ofNat value.toNat) else .error (.negativeWord value)
    | value => .error (.wrongKind value .word)
  shape := .word

/-- Read items one by one. -/
def decodeItems {α : Type} [Wire α] (buffered : Bool) : List Json → Except DecodeError (List α)
  | [] => .ok []
  | item :: rest => do
    let item ← decode buffered item
    return item :: (← decodeItems buffered rest)

instance {α : Type} [Wire α] : Wire (List α) where
  encode items := .array (items.map encode)
  decode buffered
    | .array items => decodeItems buffered items
    | value => .error (.wrongKind value .sequence)
  shape := .list (shape α)

/-- A value that may be absent is written as null then; null reads as absent. -/
instance : Wire (Option Json) where
  encode value := value.getD .null
  decode _
    | .null => .ok none
    | value => .ok (some value)
  shape := .any

/-! ## Choices -/

/-- What stands beside the name of a choice: null, or an empty object inside a tagged record. -/
def decodeNothing (buffered : Bool) : Json → Except DecodeError Unit
  | .null => .ok ()
  | .object [] => if buffered then .ok () else .error (.wrongKind (.object []) .nothing)
  | value => .error (.wrongKind value .nothing)

/-- The choice that a name stands for. -/
def decodeName {α : Type} (known : List (String × α)) (name : String) : Except DecodeError α :=
  match Entries.find? name known with
  | some choice => .ok choice
  | none => .error (.unknownVariant name (known.map Prod.fst))

/-- Read one of several named choices: its name as a string, or as the only key of an object. -/
def decodeChoice {α : Type} (known : List (String × α)) (buffered : Bool) :
    Json → Except DecodeError α
  | .string name => decodeName known name
  | .object [(name, value)] => do
    let choice ← decodeName known name
    decodeNothing buffered value
    return choice
  | .object _ => .error .notOneKey
  | value => .error (.wrongKind value .choice)

end Wire

namespace Layout

/-- Read a required field in its wire form. -/
def get {α : Type} [Wire α] (layout : Layout) (buffered : Bool) (fields : Fields)
    (field : String) : Reading α :=
  layout.required fields field (Wire.decode buffered)

/-- Read a field in its wire form, or take its default. -/
def getD {α : Type} [Wire α] (layout : Layout) (buffered : Bool) (fields : Fields)
    (field : String) (default : α) : Reading α :=
  layout.defaulted fields field (Wire.decode buffered) default

end Layout

end Fanout
