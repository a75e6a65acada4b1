/-!
# Fanout — double precision numbers

The finite numbers of the binary interchange format with 53 significant bits,
held exactly: a sign, a significand and a scale, the value being
`± significand · 2 ^ (scale - 1074)`. Each value has one such form, zero having
one for each sign.

All arithmetic is exact arithmetic on naturals followed by one rounding, to the
nearest number, a tie going to the even significand.

## Main definitions

* `Double.units` — the value as a multiple of the smallest positive number.
* `Double.ofRatio?` — the number nearest to a quotient, if it is finite.
* `Double.order`, `Double.sameValue` — comparison by value, so both zeros are equal.
-/

namespace Fanout

/-- A finite double precision number `± significand · 2 ^ (scale - 1074)`. -/
structure Double where
  /-- Whether the sign bit is set. -/
  negative : Bool
  /-- The significant bits. -/
  significand : Nat
  /-- The power of two, counted from the smallest one. -/
  scale : Nat
  significand_lt : significand < Nat.pow 2 53
  scale_le : scale ≤ 2045
  /-- All 53 bits are used, unless the scale is already the smallest. -/
  normal : scale = 0 ∨ Nat.pow 2 52 ≤ significand
  deriving DecidableEq

namespace Double

/-- The absolute value, in units of `2 ^ -1074`. -/
def magnitude (d : Double) : Nat := d.significand * Nat.pow 2 d.scale

/-- The value, in units of `2 ^ -1074`. -/
def units (d : Double) : Int := if d.negative then -(d.magnitude : Int) else d.magnitude

/-- Zero with the given sign. -/
def zero (negative : Bool) : Double := ⟨negative, 0, 0, by decide, by decide, .inl rfl⟩

/-- Equality of values: the two zeros are the same. -/
def sameValue (a b : Double) : Bool := a.units == b.units

/-- The order of values. -/
def order (a b : Double) : Ordering := compare a.units b.units

/-! ## Rounding -/

/-- The natural number nearest to `num / den`, a tie going to the even one. -/
def halfEven (num den : Nat) : Nat :=
  let quotient := num / den
  let rest := num % den
  if 2 * rest < den ∨ (2 * rest = den ∧ quotient % 2 = 0) then quotient else quotient + 1

/-- The number with these parts, if they are one's normal form. -/
def make? (negative : Bool) (significand scale : Nat) : Option Double :=
  if h : significand < Nat.pow 2 53 ∧ scale ≤ 2045 ∧ (scale = 0 ∨ Nat.pow 2 52 ≤ significand) then
    some ⟨negative, significand, scale, h.1, h.2.1, h.2.2⟩
  else none

/-- The number nearest to `± num / den`; none where that lies beyond the largest finite number. -/
def ofRatio? (negative : Bool) (num den : Nat) : Option Double :=
  let wanted := num * Nat.pow 2 1074
  -- the scale that leaves 53 bits before the point, or the smallest one
  let scale := (wanted / den).log2 - 52
  let significand := halfEven wanted (den * Nat.pow 2 scale)
  -- rounding up may carry into a bit of its own
  if significand = Nat.pow 2 53 then make? negative (Nat.pow 2 52) (scale + 1)
  else make? negative significand scale

/-- The rounded product. -/
def mul? (a b : Double) : Option Double :=
  ofRatio? (a.negative != b.negative) (a.magnitude * b.magnitude) (Nat.pow 2 2148)

/-- The rounded quotient by a number other than zero. -/
def div? (a b : Double) : Option Double :=
  ofRatio? (a.negative != b.negative) a.magnitude b.magnitude

/-- The number nearest to an integer. -/
def ofInt? (value : Int) : Option Double := ofRatio? (decide (value < 0)) value.natAbs 1

/-! ## Laws of comparison -/

theorem sameValue_iff {a b : Double} : a.sameValue b = true ↔ a.units = b.units := by
  simp [sameValue]

end Double

end Fanout
