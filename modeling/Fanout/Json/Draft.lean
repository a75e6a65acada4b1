import Fanout.Json.Basic

/-!
# Fanout — texts read as drafts

Reading a text gives a `Draft`: the value as far as the text carries it, with the
faults left in place. What a fault means depends on who reads on from there:

* a value that is wanted is read strictly: numbers have to be in range, escaped
  surrogates have to come in pairs, and containers nest at most 127 deep;
* a value that nobody wants is skipped, and none of that is asked of it;
* a name that is to be chosen from a list is read strictly, but a reader of it turns
  from a word or a number at its first character.

So a draft keeps the readings of each broken place, and `Draft.strict` and
`Draft.skim` find the first fault in text order for either reader.
-/

namespace Fanout

/-- Why a text does not give what is wanted. -/
inductive Fault where
  /-- The text is not well formed, or beyond a limit. -/
  | malformed
  /-- The text ends too early. -/
  | truncated
  /-- The text is well formed up to here, but not of the wanted form. -/
  | unfit
  deriving DecidableEq

/-- A place where the text breaks off, as each kind of reader meets it. -/
structure Break where
  /-- The fault for a reader of a value. -/
  strict : Fault
  /-- The fault for a reader that skips the value. -/
  skipped : Fault
  /-- The fault for a reader of a name to be chosen from a list. -/
  chosen : Fault
  deriving DecidableEq

/-- The same fault for all readers. -/
def Break.all (fault : Fault) : Break := ⟨fault, fault, fault⟩

/-- A break in a word or a number, where no name can stand. -/
def Break.unnamed (strict skipped : Fault) : Break := ⟨strict, skipped, .malformed⟩

/-- What stands in the place of a member's key. -/
inductive Draft.Key where
  /-- A string. -/
  | named (key : String)
  /-- A string with an unpaired surrogate. -/
  | unpaired
  /-- No whole string; the member's draft is the break. -/
  | absent
  deriving DecidableEq

/-- A value as far as its text carries it. -/
inductive Draft where
  | null
  | bool (value : Bool)
  /-- A well formed number; none if it is out of range. -/
  | number (value : Option Number)
  /-- A well formed string; none if it has an unpaired surrogate. -/
  | string (value : Option String)
  /-- The items, and the break that ends them instead of a closing bracket. -/
  | array (items : List Draft) (ending : Option Break)
  /-- The members, and the break that ends them instead of a closing bracket. -/
  | object (members : List (Draft.Key × Draft)) (ending : Option Break)
  | broken (place : Break)

namespace Draft

/-- The number of containers that may stand inside one another. -/
def maxDepth : Nat := 127

/-- The closing of a container. -/
def closing (ending : Option Break) : Except Fault Unit :=
  match ending with
  | none => .ok ()
  | some place => .error place.strict

mutual

/-- The value of a draft read strictly with room for `room` nested containers, or its first
fault in text order. A repeated key keeps its last value. -/
def strict (room : Nat) : Draft → Except Fault Json
  | .null => .ok .null
  | .bool value => .ok (.bool value)
  | .number (some value) => .ok (.number value)
  | .number none => .error .malformed
  | .string (some value) => .ok (.string value)
  | .string none => .error .malformed
  | .array items ending =>
    match room with
    | 0 => .error .malformed
    | room + 1 => do
      let items ← strictItems room items
      closing ending
      return .array items
  | .object members ending =>
    match room with
    | 0 => .error .malformed
    | room + 1 => do
      let members ← strictMembers room members
      closing ending
      return Json.ofMembers members
  | .broken place => .error place.strict

/-- The items of a draft read strictly. -/
def strictItems (room : Nat) : List Draft → Except Fault (List Json)
  | [] => .ok []
  | item :: rest => do
    let item ← strict room item
    return item :: (← strictItems room rest)

/-- The members of a draft read strictly. -/
def strictMembers (room : Nat) : List (Key × Draft) → Except Fault (List (String × Json))
  | [] => .ok []
  | (.named key, member) :: rest => do
    let member ← strict room member
    return (key, member) :: (← strictMembers room rest)
  | (.absent, .broken place) :: _ => .error place.strict
  | _ :: _ => .error .malformed

end

/-- Pass over the closing of a container. -/
def skimEnding (ending : Option Break) : Except Fault Unit :=
  match ending with
  | none => .ok ()
  | some place => .error place.skipped

mutual

/-- Pass over a draft that nobody wants. -/
def skim : Draft → Except Fault Unit
  | .array items ending => do
    skimItems items
    skimEnding ending
  | .object members ending => do
    skimMembers members
    skimEnding ending
  | .broken place => .error place.skipped
  | _ => .ok ()

/-- Pass over items. -/
def skimItems : List Draft → Except Fault Unit
  | [] => .ok ()
  | item :: rest => do
    skim item
    skimItems rest

/-- Pass over members. -/
def skimMembers : List (Key × Draft) → Except Fault Unit
  | [] => .ok ()
  | (.absent, .broken place) :: _ => .error place.skipped
  | (_, member) :: rest => do
    skim member
    skimMembers rest

end

mutual

/-- The value of a draft, whatever it leaves open: what could not be read is null or left out. -/
def value : Draft → Json
  | .null => .null
  | .bool value => .bool value
  | .number (some value) => .number value
  | .string (some value) => .string value
  | .array items _ => .array (values items)
  | .object members _ => Json.ofMembers (memberValues members)
  | _ => .null

/-- The values of items. -/
def values : List Draft → List Json
  | [] => []
  | item :: rest => value item :: values rest

/-- The values of members that have a key. -/
def memberValues : List (Key × Draft) → List (String × Json)
  | [] => []
  | (.named key, member) :: rest => (key, value member) :: memberValues rest
  | _ :: rest => memberValues rest

end

end Draft

/-- A whole text: its value, and whether something other than blanks follows it. -/
structure Document where
  root : Draft
  trailing : Bool

/-- The value of a text read strictly, or its first fault. -/
def Document.strict (document : Document) : Except Fault Json := do
  let value ← document.root.strict Draft.maxDepth
  if document.trailing then .error .malformed else return value

end Fanout
