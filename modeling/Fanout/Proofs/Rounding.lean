import Fanout.Json.Number

/-!
# Fanout — the double nearest to a number

Queries compare numbers through doubles, so what they say of integers depends on how
an integer is rounded. Everything is counted in units of `2 ^ -1074`, where the value
of every double and of every integer is a whole number: to round is then to pick a
point of a grid, and the grid around a value has as its step the power of two that
leaves 53 bits before the point.

The argument has two parts. On the grid around the value, rounding takes the nearest
point. Off that grid there are doubles only closer to zero, where the grid is finer,
and all of those are further away than the grid point that separates the two.

## Main definitions

* `Number.value` — the exact value of a number, in units.
* `Double.Nearest` — a double is the one nearest to a value.

## Results

* `Double.halfEven_closest`, `Double.halfEven_tie` — rounding a quotient.
* `Number.nearest_toDouble` — numbers are compared through the nearest double.
* `Double.Nearest.units_eq`, `Double.Nearest.units_le` — a value that is a double is kept, and
  the order of values is never turned round.
* `Number.units_lt` — below `2 ^ 53` it is kept strictly.
* `Number.units_lt_iff` — and so it is wherever rounding keeps two integers apart.
-/

namespace Fanout

namespace Double

-- ---------------------------------------------------------------------------
-- Rounding a quotient
-- ---------------------------------------------------------------------------

/-- A quotient is rounded down where the rest is at most half, and up where it is at least half. -/
theorem halfEven_cases (num den : Nat) :
    (halfEven num den = num / den ∧ 2 * (num % den) ≤ den) ∨
      (halfEven num den = num / den + 1 ∧ den ≤ 2 * (num % den)) := by
  unfold halfEven
  dsimp only
  split
  · exact .inl ⟨rfl, by omega⟩
  · exact .inr ⟨rfl, by omega⟩

/-- A multiple is one of the two around a quotient, or it is a whole step further out. -/
theorem multiple_cases (k quotient den : Nat) :
    k * den + den ≤ quotient * den ∨ k = quotient ∨ k = quotient + 1 ∨
      (quotient + 1) * den + den ≤ k * den := by
  rcases Nat.lt_trichotomy k quotient with hBelow | hSame | hAbove
  · have hStep := Nat.mul_le_mul_right den (Nat.succ_le_of_lt hBelow)
    rw [Nat.succ_mul] at hStep
    exact .inl hStep
  · exact .inr (.inl hSame)
  · by_cases hNext : k = quotient + 1
    · exact .inr (.inr (.inl hNext))
    · have hStep := Nat.mul_le_mul_right den (show quotient + 1 + 1 ≤ k by omega)
      rw [Nat.succ_mul] at hStep
      exact .inr (.inr (.inr hStep))

/-- No multiple is nearer than the rounded one. -/
theorem halfEven_closest (num : Nat) {den : Nat} (hDen : 0 < den) (k : Nat) :
    (((halfEven num den * den : Nat) : Int) - num).natAbs ≤
      (((k * den : Nat) : Int) - num).natAbs := by
  have hSplit := Nat.div_add_mod' num den
  have hRest := Nat.mod_lt num hDen
  have hUp : (num / den + 1) * den = num / den * den + den := Nat.succ_mul _ _
  -- of the two around the quotient the rest tells the nearer one; all others are a step further
  rcases halfEven_cases num den with ⟨hDown, hHalf⟩ | ⟨hDown, hHalf⟩
  · rw [hDown]
    rcases multiple_cases k (num / den) den with hFar | rfl | rfl | hFar <;> omega
  · rw [hDown]
    rcases multiple_cases k (num / den) den with hFar | rfl | rfl | hFar <;> omega

/-- Where another multiple is as near as the rounded one, the rounded one is even. -/
theorem halfEven_tie {num den : Nat} (hDen : 0 < den) {k : Nat} (hOther : k ≠ halfEven num den)
    (hTie : (((k * den : Nat) : Int) - num).natAbs =
      (((halfEven num den * den : Nat) : Int) - num).natAbs) :
    halfEven num den % 2 = 0 := by
  have hSplit := Nat.div_add_mod' num den
  have hRest := Nat.mod_lt num hDen
  have hUp : (num / den + 1) * den = num / den * den + den := Nat.succ_mul _ _
  have hCases := multiple_cases k (num / den) den
  -- by the definition: the two cases of it do not say which of the two is even
  unfold halfEven at hOther hTie ⊢
  dsimp only at hOther hTie ⊢
  split
  · rename_i hDown
    rw [if_pos hDown] at hOther hTie
    rcases hCases with hFar | rfl | rfl | hFar <;> omega
  · rename_i hDown
    rw [if_neg hDown] at hOther hTie
    rcases hCases with hFar | rfl | rfl | hFar <;> omega

-- ---------------------------------------------------------------------------
-- The grid of doubles around a value
-- ---------------------------------------------------------------------------

/-- One, in units. -/
def one : Nat := Nat.pow 2 1074

/-- One is a power of two. The exponent stands apart, so that nothing writes the number out. -/
theorem one_eq : ∃ scale, scale = 1074 ∧ one = Nat.pow 2 scale := by
  refine ⟨1074, rfl, ?_⟩
  unfold one
  with_reducible rfl

theorem one_pos : 0 < one := by
  obtain ⟨scale, -, hOne⟩ := one_eq
  rw [hOne]
  exact Nat.two_pow_pos scale

/-- The step of the grid of doubles around a value. -/
def step (wanted : Nat) : Nat := Nat.pow 2 (wanted.log2 - 52)

theorem step_pos (wanted : Nat) : 0 < step wanted := Nat.two_pow_pos _

/-- The step leaves 53 bits before the point, or it is the smallest one. -/
theorem step_bounds (wanted : Nat) :
    wanted < Nat.pow 2 53 * step wanted ∧
      (wanted.log2 ≤ 52 ∨ Nat.pow 2 52 * step wanted ≤ wanted) := by
  have hAbove : wanted < 2 ^ (wanted.log2 + 1) := Nat.lt_log2_self
  -- both bounds are powers of two, and so are compared by their exponents
  have hJoin : ∀ k, Nat.pow 2 k * step wanted = 2 ^ (k + (wanted.log2 - 52)) :=
    fun k => (Nat.pow_add 2 k _).symm
  rw [hJoin, hJoin]
  refine ⟨Nat.lt_of_lt_of_le hAbove (Nat.pow_le_pow_right (by decide) (by omega)), ?_⟩
  by_cases hSmall : wanted.log2 ≤ 52
  · exact .inl hSmall
  · have hSome : wanted ≠ 0 := by
      rintro rfl
      exact hSmall (by decide)
    have hExponent : 52 + (wanted.log2 - 52) = wanted.log2 := by omega
    rw [hExponent]
    exact .inr (Nat.log2_self_le hSome)

/-- Every double is on the grid of a scale, or closer to zero than what has 53 bits there. -/
theorem magnitude_cases (d : Double) (scale : Nat) :
    (∃ k, d.magnitude = k * Nat.pow 2 scale) ∨
      (0 < scale ∧ d.magnitude < Nat.pow 2 52 * Nat.pow 2 scale) := by
  by_cases hFine : scale ≤ d.scale
  · refine .inl ⟨d.significand * Nat.pow 2 (d.scale - scale), ?_⟩
    have hJoin : Nat.pow 2 (d.scale - scale) * Nat.pow 2 scale = Nat.pow 2 d.scale := by
      show 2 ^ (d.scale - scale) * 2 ^ scale = 2 ^ d.scale
      rw [← Nat.pow_add]
      congr 1
      omega
    rw [Nat.mul_assoc, hJoin]
    rfl
  · refine .inr ⟨by omega, ?_⟩
    have hBits : d.magnitude < Nat.pow 2 53 * Nat.pow 2 d.scale :=
      Nat.mul_lt_mul_of_pos_right d.significand_lt (Nat.two_pow_pos _)
    have hGrid : Nat.pow 2 53 * Nat.pow 2 d.scale ≤ Nat.pow 2 52 * Nat.pow 2 scale := by
      show 2 ^ 53 * 2 ^ d.scale ≤ 2 ^ 52 * 2 ^ scale
      rw [← Nat.pow_add, ← Nat.pow_add]
      exact Nat.pow_le_pow_right (by decide) (by omega)
    exact Nat.lt_of_lt_of_le hBits hGrid

theorem make?_of {negative : Bool} {significand scale : Nat} (hBits : significand < Nat.pow 2 53)
    (hScale : scale ≤ 2045) (hNormal : scale = 0 ∨ Nat.pow 2 52 ≤ significand) :
    make? negative significand scale =
      some ⟨negative, significand, scale, hBits, hScale, hNormal⟩ :=
  dif_pos ⟨hBits, hScale, hNormal⟩

/-- What is rounded on the grid around it is a double, unless it is too large. -/
theorem make?_rounded (negative : Bool) {wanted : Nat} (hScale : wanted.log2 - 52 ≤ 2044) :
    ∃ d, (if halfEven wanted (step wanted) = Nat.pow 2 53 then
          make? negative (Nat.pow 2 52) (wanted.log2 - 52 + 1)
        else make? negative (halfEven wanted (step wanted)) (wanted.log2 - 52)) = some d ∧
      d.negative = negative ∧ d.magnitude = halfEven wanted (step wanted) * step wanted ∧
      (halfEven wanted (step wanted) % 2 = 0 → d.significand % 2 = 0) := by
  have hBounds := step_bounds wanted
  have hQuotient : wanted / step wanted < Nat.pow 2 53 :=
    (Nat.div_lt_iff_lt_mul (step_pos wanted)).mpr hBounds.1
  have hLow : wanted.log2 ≤ 52 ∨ Nat.pow 2 52 ≤ wanted / step wanted :=
    hBounds.2.imp_right (Nat.le_div_iff_mul_le (step_pos wanted)).mpr
  have hCases := halfEven_cases wanted (step wanted)
  by_cases hCarry : halfEven wanted (step wanted) = Nat.pow 2 53
  · -- rounding up carries into a bit of its own, which doubles the step
    rw [if_pos hCarry, make?_of (by decide) (by omega) (.inr (Nat.le_refl _))]
    refine ⟨_, rfl, rfl, ?_, fun _ => ?_⟩
    · rw [hCarry]
      show 2 ^ 52 * 2 ^ (wanted.log2 - 52 + 1) = 2 ^ 53 * 2 ^ (wanted.log2 - 52)
      rw [← Nat.pow_add, ← Nat.pow_add]
      congr 1
      omega
    · show Nat.pow 2 52 % 2 = 0
      decide
  · have hFits : halfEven wanted (step wanted) < Nat.pow 2 53 := by omega
    have hNormal : wanted.log2 - 52 = 0 ∨ Nat.pow 2 52 ≤ halfEven wanted (step wanted) := by
      omega
    rw [if_neg hCarry, make?_of hFits (by omega) hNormal]
    exact ⟨_, rfl, rfl, rfl, id⟩

theorem log2_scaled_lt {num bits scale unit : Nat} (hNum : num < Nat.pow 2 bits)
    (hBits : 0 < bits) (hUnit : unit = Nat.pow 2 scale) : (num * unit).log2 < bits + scale := by
  have hScaled : num * unit < 2 ^ (bits + scale) := by
    rw [hUnit, Nat.pow_add]
    exact Nat.mul_lt_mul_of_pos_right hNum (Nat.two_pow_pos scale)
  by_cases hZero : num * unit = 0
  · rw [hZero, Nat.log2_zero]
    omega
  · exact (Nat.log2_lt hZero).mpr hScaled

/-- A natural number of 64 bits is rounded on the grid around it. -/
theorem ofRatio?_whole (negative : Bool) {num : Nat} (hNum : num < Nat.pow 2 64) :
    ∃ d, ofRatio? negative num 1 = some d ∧ d.negative = negative ∧
      d.magnitude = halfEven (num * one) (step (num * one)) * step (num * one) ∧
      (halfEven (num * one) (step (num * one)) % 2 = 0 → d.significand % 2 = 0) := by
  have hUnfold : ofRatio? negative num 1 =
      if halfEven (num * one) (step (num * one)) = Nat.pow 2 53 then
        make? negative (Nat.pow 2 52) ((num * one).log2 - 52 + 1)
      else make? negative (halfEven (num * one) (step (num * one))) ((num * one).log2 - 52) := by
    unfold ofRatio? one step
    simp only [Nat.div_one, Nat.one_mul]
  have hScale : (num * one).log2 - 52 ≤ 2044 := by
    obtain ⟨scale, hScale, hOne⟩ := one_eq
    have hLog : (num * one).log2 < 64 + scale := log2_scaled_lt hNum (by decide) hOne
    omega
  rw [hUnfold]
  exact make?_rounded negative hScale

-- ---------------------------------------------------------------------------
-- Nearest doubles
-- ---------------------------------------------------------------------------

/-- The double nearest to a value given in units; of two that are as near it is the even one. -/
structure Nearest (target : Int) (d : Double) : Prop where
  closest : ∀ other : Double, (d.units - target).natAbs ≤ (other.units - target).natAbs
  even : ∀ other : Double, other.units ≠ d.units →
    (other.units - target).natAbs = (d.units - target).natAbs → d.significand % 2 = 0

theorem units_cases (d : Double) :
    (d.negative = false ∧ d.units = d.magnitude) ∨
      (d.negative = true ∧ d.units = -(d.magnitude : Int)) := by
  unfold units
  cases d.negative
  · exact .inl ⟨rfl, rfl⟩
  · exact .inr ⟨rfl, rfl⟩

/-- A point of the grid around a value that is nearest on the grid is nearest among all doubles. -/
theorem nearest_of_magnitude {d : Double} {wanted : Nat} {target : Int}
    (hMagnitude : d.magnitude = halfEven wanted (step wanted) * step wanted)
    (hEven : halfEven wanted (step wanted) % 2 = 0 → d.significand % 2 = 0)
    (hTarget : target = if d.negative then -(wanted : Int) else wanted) : Nearest target d := by
  -- among magnitudes, the sign aside
  have hGrid : ∀ other : Double,
      ((d.magnitude : Int) - wanted).natAbs ≤ ((other.magnitude : Int) - wanted).natAbs ∧
      (other.magnitude ≠ d.magnitude →
        ((other.magnitude : Int) - wanted).natAbs = ((d.magnitude : Int) - wanted).natAbs →
        d.significand % 2 = 0) := by
    intro other
    rcases magnitude_cases other (wanted.log2 - 52) with ⟨k, hOn⟩ | ⟨hCoarse, hOff⟩
    · change other.magnitude = k * step wanted at hOn
      rw [hMagnitude, hOn]
      refine ⟨halfEven_closest wanted (step_pos wanted) k, fun hDistinct hTie => hEven ?_⟩
      refine halfEven_tie (step_pos wanted) (fun hSame => ?_) hTie
      rw [hSame] at hDistinct
      exact hDistinct rfl
    · -- the least point with 53 bits lies between the other double and the value
      change other.magnitude < Nat.pow 2 52 * step wanted at hOff
      have hLeast : Nat.pow 2 52 * step wanted ≤ wanted :=
        (step_bounds wanted).2.resolve_left (by omega)
      have hClosest := halfEven_closest wanted (step_pos wanted) (Nat.pow 2 52)
      rw [hMagnitude]
      generalize halfEven wanted (step wanted) * step wanted = rounded at hClosest ⊢
      generalize Nat.pow 2 52 * step wanted = least at hOff hLeast hClosest
      exact ⟨by omega, fun _ hTie => by omega⟩
  -- what is rounded has its sign, so that a double of the other sign is no nearer
  have hZero := (hGrid (zero false)).1
  have hNone : (zero false).magnitude = 0 := rfl
  rw [hNone] at hZero
  constructor
  · intro other
    have hOther := (hGrid other).1
    rw [hTarget]
    rcases units_cases d with ⟨hSign, hUnits⟩ | ⟨hSign, hUnits⟩ <;>
      rcases units_cases other with ⟨-, hOtherUnits⟩ | ⟨-, hOtherUnits⟩ <;>
      rw [hSign, hUnits, hOtherUnits] <;> simp only [if_true, if_false, Bool.false_eq_true] <;>
      omega
  · intro other hDistinct hTie
    have hOther := (hGrid other).1
    refine (hGrid other).2 ?_ ?_
    all_goals
      rw [hTarget] at hTie
      rcases units_cases d with ⟨hSign, hUnits⟩ | ⟨hSign, hUnits⟩ <;>
        rcases units_cases other with ⟨-, hOtherUnits⟩ | ⟨-, hOtherUnits⟩ <;>
        rw [hUnits, hOtherUnits] at hDistinct <;>
        rw [hSign, hUnits, hOtherUnits] at hTie <;>
        simp only [if_true, if_false, Bool.false_eq_true] at hTie <;> omega

/-- A value that is a double is kept. -/
theorem Nearest.units_eq {target : Int} {d : Double} (h : Nearest target d) (other : Double)
    (hOther : other.units = target) : d.units = target := by
  have hClosest := h.closest other
  omega

/-- Rounding does not turn the order of two values round. -/
theorem Nearest.units_le {first second : Int} {c d : Double} (hFirst : Nearest first c)
    (hSecond : Nearest second d) (hLt : first < second) : c.units ≤ d.units := by
  have hLow := hFirst.closest d
  have hHigh := hSecond.closest c
  -- if the doubles were crossed, each value would be nearer to the other's
  omega

/-- A natural number with at most 53 bits has a significand and a scale. -/
theorem exists_significand {num : Nat} (scale : Nat) (hNum : num ≤ Nat.pow 2 53) (hLow : 52 ≤ scale)
    (hHigh : scale < 2045) :
    ∃ significand exponent, significand * Nat.pow 2 exponent = num * Nat.pow 2 scale ∧
      significand < Nat.pow 2 53 ∧ exponent ≤ 2045 ∧
      (exponent = 0 ∨ Nat.pow 2 52 ≤ significand) := by
  by_cases hZero : num = 0
  · exact ⟨0, 0, by rw [hZero, Nat.zero_mul, Nat.zero_mul], by decide, by decide, .inl rfl⟩
  by_cases hCarry : num = Nat.pow 2 53
  · -- the next power of two takes a larger scale
    refine ⟨Nat.pow 2 52, scale + 1, ?_, by decide, by omega, .inr (Nat.le_refl _)⟩
    rw [hCarry]
    show 2 ^ 52 * 2 ^ (scale + 1) = 2 ^ 53 * 2 ^ scale
    rw [← Nat.pow_add, ← Nat.pow_add]
    congr 1
    omega
  · have hLess : num < 2 ^ 53 := Nat.lt_of_le_of_ne hNum hCarry
    have hBits : num.log2 ≤ 52 := by
      have hLog := (Nat.log2_lt hZero).mpr hLess
      omega
    have hAbove : num < 2 ^ (num.log2 + 1) := Nat.lt_log2_self
    have hBelow : 2 ^ num.log2 ≤ num := Nat.log2_self_le hZero
    -- shifted so far that the first bit is the 53rd
    refine ⟨num * 2 ^ (52 - num.log2), scale - (52 - num.log2), ?_, ?_, by omega, .inr ?_⟩
    · show num * 2 ^ (52 - num.log2) * 2 ^ (scale - (52 - num.log2)) = num * 2 ^ scale
      rw [Nat.mul_assoc, ← Nat.pow_add]
      congr 2
      omega
    · have hShift := Nat.mul_lt_mul_of_pos_right hAbove (Nat.two_pow_pos (52 - num.log2))
      have hSum : num.log2 + 1 + (52 - num.log2) = 53 := by omega
      rw [← Nat.pow_add, hSum] at hShift
      exact hShift
    · have hShift := Nat.mul_le_mul_right (2 ^ (52 - num.log2)) hBelow
      have hSum : num.log2 + (52 - num.log2) = 52 := by omega
      rw [← Nat.pow_add, hSum] at hShift
      exact hShift

/-- An integer is put together from its sign and its absolute value. -/
theorem signed_natAbs_mul (value : Int) (unit : Nat) :
    (if decide (value < 0) then -((value.natAbs * unit : Nat) : Int)
      else (value.natAbs * unit : Nat)) = value * unit := by
  by_cases hNegative : value < 0
  · have hAbs : (value.natAbs : Int) = -value := by omega
    rw [if_pos (decide_eq_true hNegative), Int.natCast_mul, hAbs, Int.neg_mul, Int.neg_neg]
  · have hAbs : (value.natAbs : Int) = value := by omega
    rw [if_neg (by simpa using hNegative), Int.natCast_mul, hAbs]

/-- Every integer up to `2 ^ 53` is a double. -/
theorem exists_units_eq {value : Int} (hSmall : value.natAbs ≤ Nat.pow 2 53) :
    ∃ d : Double, d.units = value * (one : Int) := by
  obtain ⟨scale, hScale, hOne⟩ := one_eq
  obtain ⟨significand, exponent, hSame, hBits, hExponent, hNormal⟩ :=
    exists_significand scale hSmall (by omega) (by omega)
  refine ⟨⟨decide (value < 0), significand, exponent, hBits, hExponent, hNormal⟩, ?_⟩
  have hMagnitude : significand * Nat.pow 2 exponent = value.natAbs * one := by
    rw [hSame, hOne]
  unfold units magnitude
  dsimp only
  rw [hMagnitude]
  exact signed_natAbs_mul value one

end Double

-- ---------------------------------------------------------------------------
-- Numbers
-- ---------------------------------------------------------------------------

namespace Number

variable {m n : Number} {a b : Int}

/-- The exact value of a number, in units. -/
def value : Number → Int
  | .integer value _ => value * Double.one
  | .double value => value.units

/-- Numbers are compared through the nearest double. -/
theorem nearest_toDouble (n : Number) : Double.Nearest n.value n.toDouble := by
  cases n with
  | double d =>
    -- a double is nearest to itself, and no other one is
    refine ⟨fun other => ?_, fun other hDistinct hTie => ?_⟩
    · show (d.units - d.units).natAbs ≤ _
      omega
    · change other.units ≠ d.units at hDistinct
      change (other.units - d.units).natAbs = (d.units - d.units).natAbs at hTie
      omega
  | integer value hAdmitted =>
    have hBits : value.natAbs < Nat.pow 2 64 := by
      obtain ⟨hLow, hHigh⟩ := hAdmitted
      show value.natAbs < 18446744073709551616
      omega
    obtain ⟨d, hRatio, hSign, hMagnitude, hEven⟩ :=
      Double.ofRatio?_whole (decide (value < 0)) hBits
    have hDouble : (Number.integer value hAdmitted).toDouble = d := by
      show (Double.ofInt? value).getD (Double.zero false) = d
      unfold Double.ofInt?
      rw [hRatio]
      rfl
    rw [hDouble]
    refine Double.nearest_of_magnitude hMagnitude hEven ?_
    rw [hSign]
    show value * (Double.one : Int) = _
    exact (Double.signed_natAbs_mul value Double.one).symm

/-- Integers are different where their values are. -/
theorem integer_value_inj {ha : Admitted a} {hb : Admitted b} :
    (integer a ha).value = (integer b hb).value ↔ a = b := by
  have hOne : (Double.one : Int) ≠ 0 := by
    have hPos := Double.one_pos
    omega
  exact Int.mul_eq_mul_right_iff hOne

/-- Numbers of one value are compared through doubles of one value. -/
theorem units_eq_of_value_eq (h : m.value = n.value) : m.toDouble.units = n.toDouble.units := by
  cases m with
  | double d =>
    rw [n.nearest_toDouble.units_eq d h]
    exact h
  | integer a ha =>
    cases n with
    | double d =>
      rw [(integer a ha).nearest_toDouble.units_eq d h.symm]
      exact h
    | integer b hb =>
      have hSame := integer_value_inj.mp h
      subst hSame
      rfl

/-- The doubles through which numbers are compared are in the order of the numbers, or the same. -/
theorem units_le (h : m.value ≤ n.value) : m.toDouble.units ≤ n.toDouble.units := by
  rcases Int.lt_or_eq_of_le h with hLess | hSame
  · exact m.nearest_toDouble.units_le n.nearest_toDouble hLess
  · exact Int.le_of_eq (units_eq_of_value_eq hSame)

/-- An integer up to `2 ^ 53` is compared as it is. -/
theorem units_integer (ha : Admitted a) (hSmall : a.natAbs ≤ Nat.pow 2 53) :
    (integer a ha).toDouble.units = (integer a ha).value := by
  obtain ⟨d, hUnits⟩ := Double.exists_units_eq hSmall
  exact (integer a ha).nearest_toDouble.units_eq d hUnits

theorem value_lt (ha : Admitted a) (hb : Admitted b) (h : a < b) :
    (integer a ha).value < (integer b hb).value := by
  have hOne : 0 < (Double.one : Int) := by
    have hPos := Double.one_pos
    omega
  exact Int.mul_lt_mul_of_pos_right h hOne

theorem value_le (ha : Admitted a) (hb : Admitted b) (h : a ≤ b) :
    (integer a ha).value ≤ (integer b hb).value := by
  rcases Int.lt_or_eq_of_le h with hLess | rfl
  · exact Int.le_of_lt (value_lt ha hb hLess)
  · exact Int.le_refl _

/-- Two integers keep their order where one of them is below `2 ^ 53`. -/
theorem units_lt (ha : Admitted a) (hb : Admitted b) (h : a < b)
    (hSmall : a.natAbs < Nat.pow 2 53 ∨ b.natAbs < Nat.pow 2 53) :
    (integer a ha).toDouble.units < (integer b hb).toDouble.units := by
  have hBound : Nat.pow 2 53 = 9007199254740992 := rfl
  rcases hSmall with hFirst | hSecond
  · -- the integer after the small one is kept as well, and the other one is not before it
    have hNext : Admitted (a + 1) := ⟨by omega, by omega⟩
    have hKept := units_integer ha (by omega)
    have hNextKept := units_integer hNext (by omega)
    have hStep := value_lt ha hNext (by omega)
    have hRest := units_le (value_le hNext hb (by omega))
    omega
  · have hBefore : Admitted (b - 1) := ⟨by omega, by omega⟩
    have hKept := units_integer hb (by omega)
    have hBeforeKept := units_integer hBefore (by omega)
    have hStep := value_lt hBefore hb (by omega)
    have hRest := units_le (value_le ha hBefore (by omega))
    omega

/-- Where rounding keeps two integers apart it keeps their order. -/
theorem units_lt_iff (ha : Admitted a) (hb : Admitted b)
    (hApart : (integer a ha).toDouble.units = (integer b hb).toDouble.units → a = b) :
    (integer a ha).toDouble.units < (integer b hb).toDouble.units ↔ a < b := by
  constructor
  · intro hLess
    refine Classical.byContradiction (fun hNot => ?_)
    -- rounding would have turned the order round
    have hOrder := units_le (value_le hb ha (by omega))
    omega
  · intro hLess
    have hOrder := units_le (value_le ha hb (by omega))
    have hDistinct : (integer a ha).toDouble.units ≠ (integer b hb).toDouble.units := by
      intro hSame
      have hEqual := hApart hSame
      omega
    omega

end Number

end Fanout
