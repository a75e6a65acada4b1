import Fanout.Number.Decimal
import Fanout.Number.Shortest

/-!
# Fanout — numbers in records

A number of a record is an integer or a double. Which of the two is settled by
its literal and kept: integers from `-2 ^ 63` to `2 ^ 64 - 1` are exact, every
other literal is a double, also one that stands for a whole number, such as `1.0`.

There are two notions of equality. `Number.same` tells `1` from `1.0`;
`Number.sameValue` and `Number.order` compare the nearest doubles of both sides.
-/

namespace Fanout

/-- The integers that are kept exactly: those from `-2 ^ 63` to `2 ^ 64 - 1`. -/
def Number.Admitted (value : Int) : Prop :=
  -9223372036854775808 ≤ value ∧ value < 18446744073709551616

instance (value : Int) : Decidable (Number.Admitted value) :=
  inferInstanceAs (Decidable (_ ∧ _))

/-- A number as it stands in a record. -/
inductive Number where
  | integer (value : Int) (admitted : Number.Admitted value)
  | double (value : Double)
  deriving DecidableEq

namespace Number

/-- The exact integer, if it is admitted. -/
def integer? (value : Int) : Option Number :=
  if h : Admitted value then some (.integer value h) else none

/-- The integer that a word of 64 bits stands for. -/
def ofWord (word : UInt64) : Number :=
  .integer word.toNat ⟨by omega, by have := word.toNat_lt; omega⟩

/-- The number that a literal stands for: its digits before and after the point, and its exponent.
A literal of an admitted integer without point and exponent is that integer, except for a negative
zero; all others are doubles, and there is none for one that is too large. -/
def ofLiteral? (negative : Bool) (whole : List Nat) (fraction : Option (List Nat))
    (exponent : Option Int) : Option Number :=
  let decimal := Decimal.ofDigits negative whole (fraction.getD []) (exponent.getD 0)
  let double := decimal.toDouble?.map Number.double
  -- an exponent without point and exponent in the literal: some digits did not fit
  if fraction.isSome ∨ exponent.isSome ∨ decimal.exponent ≠ 0 then double
  -- only a double has a negative zero
  else if negative ∧ decimal.significand = 0 then double
  else
    match integer? (if negative then -(decimal.significand : Int) else decimal.significand) with
    | some n => some n
    | none => double

/-- The double nearest to a number. -/
def toDouble : Number → Double
  | .integer value _ => (Double.ofInt? value).getD (Double.zero false)
  | .double value => value

/-- The text of a number. -/
def text : Number → String
  | .integer value _ => toString value
  | .double value => value.text

/-- Equality that tells an integer from a double. -/
def same : Number → Number → Bool
  | .integer a _, .integer b _ => a == b
  | .double a, .double b => a.sameValue b
  | _, _ => false

/-- Equality of the nearest doubles. -/
def sameValue (a b : Number) : Bool := a.toDouble.sameValue b.toDouble

/-- The order of the nearest doubles. -/
def order (a b : Number) : Ordering := a.toDouble.order b.toDouble

end Number

end Fanout
