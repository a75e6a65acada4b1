import Fanout.Json.Reader

/-!
# Fanout — wire forms met in a text

A `Shape` describes a wire form as far as a text has to fit it. `Shape.check`
walks a draft in text order and finds the first fault: the text may turn out not
to fit before the place where it is found to be malformed, and the other way
round.

Members that a record does not know are skipped. A tagged record is read whole
before its fields are looked at, since its tag may stand last; a fault of form
inside it shows only after all faults of the text.
-/

namespace Fanout

/-- A wire form, as far as a text has to fit it. -/
inductive Shape where
  /-- Any value. -/
  | any
  | string
  | boolean
  /-- An integer from 0 to `2 ^ 64 - 1`. -/
  | word
  | list (item : Shape)
  /-- One of several names, alone or as the only key of an object, beside null. -/
  | choice (names : List String)
  /-- Named fields, each required or not, in declaration order. -/
  | record (fields : List (String × Bool × Shape))
  /-- A record whose fields depend on the name under a tag. -/
  | tagged (tag : String) (variants : List (String × List (String × Bool × Shape)))

namespace Shape

/-- A field of a record: its name, whether it is required, and its form. -/
abbrev Field := String × Bool × Shape

/-- The fault of a value that is not of the wanted form. A scalar is read to its end first, and
its own fault goes before. -/
def misfit : Draft → Fault
  | .broken place => place.strict
  | .number none | .string none => .malformed
  | _ => .unfit

/-- Read strictly for the faults only. -/
def strictly (room : Nat) (draft : Draft) : Except Fault Unit := do
  let _ ← draft.strict room

/-- Whether the array form of a record may end before these fields. -/
def mayLack (fields : List Field) : Except Fault Unit :=
  if fields.any (fun field => field.2.1) then .error .unfit else .ok ()

/-- Whether the object form of a record may lack the fields that were not seen. -/
def mayLackUnseen (fields : List Field) (seen : List String) : Except Fault Unit :=
  mayLack (fields.filter (fun field => !seen.contains field.1))

/-- Read the name of a variant. -/
def variantName (names : List String) : Draft → Except Fault String
  | .string (some name) => if names.contains name then .ok name else .error .unfit
  | draft => .error (misfit draft)

/-- Read the members of a tagged record whole; gives the name under the tag. -/
def readTag (room : Nat) (tag : String) (names : List String) :
    Option String → List (Draft.Key × Draft) → Except Fault (Option String)
  | found, [] => .ok found
  | found, (.named key, member) :: rest => do
    if key = tag then
      if found.isSome then .error .unfit
      let name ← variantName names member
      readTag room tag names (some name) rest
    else
      strictly room member
      readTag room tag names found rest
  | _, (.absent, .broken place) :: _ => .error place.strict
  | _, _ :: _ => .error .malformed

/-- Read items whole. -/
def readAll (room : Nat) : List Draft → Except Fault Unit
  | [] => .ok ()
  | item :: rest => do
    strictly room item
    readAll room rest

/-- All faults of form, once the text itself is known to be sound. -/
def onceSound (result : Except Fault Unit) : Except Fault Unit :=
  result.mapError (fun _ => .unfit)

/-- Check the one member that gives a choice its name. Inside a tagged record an empty object may
stand in the place of null. -/
def checkChoice (buffered : Bool) (names : List String) (ending : Option Break) :
    List (Draft.Key × Draft) → Except Fault Unit
  | [] => .error (match ending with | none => .malformed | some place => place.strict)
  | (key, member) :: rest => do
    match key with
    | .named name => if !names.contains name then .error .unfit
    | .unpaired => .error .malformed
    | .absent => .error (misfit member)
    match member with
    | .null => pure ()
    | .object [] none => if !buffered then .error .unfit
    | _ => .error (misfit member)
    if !rest.isEmpty then .error .malformed
    Draft.closing ending

mutual

/-- The first fault of a draft that is wanted in a form. `buffered` says that the draft is part of
a tagged record. -/
def check (room : Nat) (buffered : Bool) (shape : Shape) : Draft → Except Fault Unit
  | .array items ending =>
    match shape, room with
    | .any, _ => strictly room (.array items ending)
    | .list _, 0 | .record _, 0 | .tagged _ _, 0 => .error .malformed
    | .list item, room + 1 => do
      checkItems room buffered item items
      Draft.closing ending
    | .record fields, room + 1 => checkFields room buffered ending fields items
    | .tagged _ variants, room + 1 =>
      match items with
      | [] => do
        Draft.closing ending
        .error .unfit
      | tag :: fields => do
        -- the fields are read whole before any of them is looked at
        let name ← variantName (variants.map Prod.fst) tag
        readAll room fields
        Draft.closing ending
        onceSound (checkFields room true none ((Entries.find? name variants).getD []) fields)
    | .choice _, _ => .error .malformed
    | _, _ => .error .unfit
  | .object members ending =>
    match shape, room with
    | .any, _ => strictly room (.object members ending)
    | .choice _, 0 | .record _, 0 | .tagged _ _, 0 => .error .malformed
    | .choice names, _ + 1 => checkChoice buffered names ending members
    | .record fields, room + 1 => do
      checkMembers room buffered fields ending [] members
    | .tagged tag variants, room + 1 => do
      let name ← readTag room tag (variants.map Prod.fst) none members
      Draft.closing ending
      match name with
      | none => .error .unfit
      | some name =>
        onceSound
          (checkMembers room true ((Entries.find? name variants).getD []) none [] members)
    | _, _ => .error .unfit
  | draft =>
    match shape, draft with
    | .any, _ => strictly room draft
    | .string, .string (some _) | .boolean, .bool _ => .ok ()
    | .word, .number (some (.integer value _)) => if 0 ≤ value then .ok () else .error .unfit
    | .choice names, .string (some name) => if names.contains name then .ok () else .error .unfit
    | .choice _, .broken place => .error place.chosen
    | .choice _, _ => .error .malformed
    | _, _ => .error (misfit draft)

/-- The first fault of items that are all wanted in one form. -/
def checkItems (room : Nat) (buffered : Bool) (shape : Shape) : List Draft → Except Fault Unit
  | [] => .ok ()
  | item :: rest => do
    check room buffered shape item
    checkItems room buffered shape rest

/-- The first fault of the array form of a record. An item after the last field is out of place. -/
def checkFields (room : Nat) (buffered : Bool) (ending : Option Break) :
    List Field → List Draft → Except Fault Unit
  | fields, [] => do
    Draft.closing ending
    mayLack fields
  | [], _ :: _ => .error .malformed
  | field :: fields, item :: rest => do
    check room buffered field.2.2 item
    checkFields room buffered ending fields rest

/-- The first fault of the object form of a record. A field that stands twice does not fit. -/
def checkMembers (room : Nat) (buffered : Bool) (fields : List Field) (ending : Option Break)
    (seen : List String) : List (Draft.Key × Draft) → Except Fault Unit
  | [] => do
    Draft.closing ending
    mayLackUnseen fields seen
  | (.named key, member) :: rest =>
    match Entries.find? key fields with
    -- nobody wants this member
    | none => do
      member.skim
      checkMembers room buffered fields ending seen rest
    | some (_, shape) => do
      if seen.contains key then .error .unfit
      check room buffered shape member
      checkMembers room buffered fields ending (key :: seen) rest
  | (.absent, .broken place) :: _ => .error place.strict
  | _ :: _ => .error .malformed

end

end Shape

end Fanout
