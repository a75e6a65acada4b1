import Fanout.Json.Basic

/-!
# Fanout — comparing values in queries

Queries compare two numbers by value, whatever their class, and all other values
strictly. Numbers inside arrays and objects are compared strictly too. Only two
numbers or two strings are ordered.
-/

namespace Fanout.Json

/-- Equality that takes two numbers of the same value for equal. -/
def looselyEquals : Json → Json → Bool
  | .number a, .number b => a.sameValue b
  | a, b => a.same b

/-- The order of two numbers, by value, or of two strings, by code points. -/
def order? : Json → Json → Option Ordering
  | .number a, .number b => some (a.order b)
  | .string a, .string b => some (compare a b)
  | _, _ => none

end Fanout.Json
