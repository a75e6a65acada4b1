import Fanout.Number.Double

/-!
# Fanout — reading decimal numerals

A decimal numeral stands for `± significand · 10 ^ exponent`. Its significand is
gathered digit by digit while it fits 64 bits; digits that no longer fit are not
read, those before the point still counting towards the exponent.

The number is then reached in floating steps: the rounded significand is
multiplied or divided by a rounded power of ten. One step suffices for exponents
of at most 308; a smaller exponent takes a second division. Each step rounds, so
the result can differ in the last bit from the number nearest to the numeral.
-/

namespace Fanout

/-- A decimal numeral `± significand · 10 ^ exponent`. -/
structure Decimal where
  negative : Bool
  significand : Nat
  exponent : Int
  deriving DecidableEq

namespace Decimal

/-- The largest significand that is gathered, the largest word of 64 bits. -/
def maxSignificand : Nat := 18446744073709551615

/-- Append digits to a significand while it fits; gives back the digits that were not read. -/
def gather (significand : Nat) : List Nat → Nat × List Nat
  | [] => (significand, [])
  | digit :: rest =>
    if significand * 10 + digit ≤ maxSignificand then gather (significand * 10 + digit) rest
    else (significand, digit :: rest)

/-- The numeral with the given digits before and after the point and the given exponent. -/
def ofDigits (negative : Bool) (whole fraction : List Nat) (exponent : Int) : Decimal :=
  -- a digit before the point that was not read is worth a power of ten all the same
  let (gathered, unread) := gather 0 whole
  let (significand, dropped) := gather gathered fraction
  let read := fraction.length - dropped.length
  { negative, significand, exponent := exponent + unread.length - read }

/-- The largest exponent with a step of its own. -/
def maxStep : Nat := 308

/-- The rounded power of ten. -/
def powerOfTen? (exponent : Nat) : Option Double := Double.ofRatio? false (Nat.pow 10 exponent) 1

/-- The double precision number that the numeral reads as; none if it is too large. -/
def toDouble? (d : Decimal) : Option Double := do
  let start ← Double.ofRatio? d.negative d.significand 1
  match d.exponent with
  | .ofNat up =>
    if d.significand = 0 then some start
    else if up ≤ maxStep then start.mul? (← powerOfTen? up)
    else none
  | .negSucc below =>
    let down := below + 1
    if down ≤ maxStep then start.div? (← powerOfTen? down)
    -- two steps; below that nothing is left of any significand
    else if down ≤ 2 * maxStep then
      let half ← start.div? (← powerOfTen? maxStep)
      half.div? (← powerOfTen? (down - maxStep))
    else some (Double.zero d.negative)

end Decimal

end Fanout
