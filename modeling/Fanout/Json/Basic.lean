import Fanout.Data.Table
import Fanout.Json.Number

/-!
# Fanout — record values

Records, filter params and wire forms are JSON values. The members of an object
are kept by ascending key; `Json.Canonical` says so for every object inside a
value, and `Json.ofMembers` establishes it.

## Main definitions

* `Json.same` — strict equality: same kind, and numbers of the same class and value.
* `Json.get?` — the member of an object under a key.
* `Json.without` — an object without some of its members, and `Json.without_object` what is left.
-/

namespace Fanout

/-- A JSON value. -/
inductive Json where
  | null
  | bool (value : Bool)
  | number (value : Number)
  | string (value : String)
  | array (items : List Json)
  | object (members : List (String × Json))

namespace Json

instance : Inhabited Json := ⟨.null⟩

/-! ## Building -/

/-- The object with the given members, a later one replacing an earlier one under the same key. -/
def ofMembers (members : List (String × Json)) : Json :=
  .object (members.foldl (fun acc member => Entries.insert member.1 member.2 acc) [])

/-- The integer that a word of 64 bits stands for. -/
def ofWord (word : UInt64) : Json := .number (Number.ofWord word)

/-- The array of the given strings. -/
def ofStrings (items : List String) : Json := .array (items.map .string)

/-! ## Equality -/

mutual

/-- Strict equality: same kind, and numbers of the same class and value at every depth. -/
def same : Json → Json → Bool
  | .null, .null => true
  | .bool a, .bool b => a == b
  | .number a, .number b => a.same b
  | .string a, .string b => a == b
  | .array a, .array b => sameItems a b
  | .object a, .object b => sameMembers a b
  | _, _ => false

/-- Strict equality of lists, item by item. -/
def sameItems : List Json → List Json → Bool
  | [], [] => true
  | a :: as, b :: bs => same a b && sameItems as bs
  | _, _ => false

/-- Strict equality of members, key by key. -/
def sameMembers : List (String × Json) → List (String × Json) → Bool
  | [], [] => true
  | (k, a) :: as, (l, b) :: bs => k == l && same a b && sameMembers as bs
  | _, _ => false

end

/-! ## Access -/

/-- The member of an object under `key`. -/
def get? : Json → String → Option Json
  | .object members, key => Entries.find? key members
  | _, _ => none

/-- The items of an array. -/
def items? : Json → Option (List Json)
  | .array items => some items
  | _ => none

/-- The text of a string. -/
def string? : Json → Option String
  | .string value => some value
  | _ => none

/-- A truth value. -/
def bool? : Json → Option Bool
  | .bool value => some value
  | _ => none

/-- A non-negative exact integer, as a word of 64 bits. -/
def word? : Json → Option UInt64
  | .number (.integer value _) => if 0 ≤ value then some (UInt64.ofNat value.toNat) else none
  | _ => none

/-- An object without its members under `keys`, which are taken out one after the other if there is
any; any other value unchanged. -/
def without (keys : List String) : Json → Json
  | .object members =>
    if keys.any (fun key => (Entries.find? key members).isSome) then
      .object (keys.foldl (fun left key => Entries.erase key left) members)
    else .object members
  | value => value

/-- What is left of an object are its members under other keys. -/
theorem without_object (keys : List String) (members : List (String × Json)) :
    (Json.object members).without keys =
      .object (members.filter (fun member => decide (member.1 ∉ keys))) := by
  rw [without]
  split
  · rw [Entries.foldl_erase]
  · -- no member is under one of the keys
    rename_i hNone
    congr 1
    refine (List.filter_eq_self.mpr (fun member hMember => ?_)).symm
    rw [decide_eq_true_eq]
    intro hKey
    refine hNone (List.any_eq_true.mpr ⟨member.1, hKey, ?_⟩)
    exact Entries.find?_isSome_iff.mpr (List.mem_map_of_mem hMember)

/-- The kind of a value, in words. -/
def kind : Json → String
  | .null => "null"
  | .bool _ => "boolean"
  | .number _ => "number"
  | .string _ => "string"
  | .array _ => "array"
  | .object _ => "object"

/-! ## Canonical values -/

/-- Every object inside the value has its members by strictly ascending key. -/
inductive Canonical : Json → Prop where
  | null : Canonical .null
  | bool (value : Bool) : Canonical (.bool value)
  | number (value : Number) : Canonical (.number value)
  | string (value : String) : Canonical (.string value)
  | array {items : List Json} (inner : ∀ item ∈ items, Canonical item) : Canonical (.array items)
  | object {members : List (String × Json)} (ascending : Entries.Ascending members)
      (inner : ∀ member ∈ members, Canonical member.2) : Canonical (.object members)

/-- Removing members keeps a value canonical. -/
theorem Canonical.without {value : Json} (h : Canonical value) (keys : List String) :
    Canonical (value.without keys) := by
  cases h with
  | object ascending inner =>
    rw [without_object]
    exact .object (ascending.sublist List.filter_sublist)
      (fun member hm => inner member (List.mem_filter.mp hm).1)
  | array inner => exact .array inner
  | _ => constructor

private theorem foldl_insert_invariant (members start : List (String × Json))
    (ascending : Entries.Ascending start) (inner : ∀ member ∈ start, Canonical member.2)
    (values : ∀ member ∈ members, Canonical member.2) :
    let built := members.foldl (fun acc member => Entries.insert member.1 member.2 acc) start
    Entries.Ascending built ∧ ∀ member ∈ built, Canonical member.2 := by
  induction members generalizing start with
  | nil => exact ⟨ascending, inner⟩
  | cons first rest ih =>
    refine ih _ (ascending.insert _ _) (fun member hm => ?_)
      (fun member hm => values member (List.mem_cons_of_mem _ hm))
    rcases Entries.mem_insert hm with rfl | hm
    · exact values first List.mem_cons_self
    · exact inner member hm

/-- An object built from canonical members is canonical, whatever their order. -/
theorem canonical_ofMembers {members : List (String × Json)}
    (values : ∀ member ∈ members, Canonical member.2) : Canonical (ofMembers members) :=
  have built := foldl_insert_invariant members [] List.Pairwise.nil (by simp) values
  .object built.1 built.2

end Json

end Fanout
