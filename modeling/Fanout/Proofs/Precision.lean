import Fanout.Proofs.Equality
import Fanout.Proofs.Selection

/-!
# Fanout — how exactly numbers are compared

Queries and ids do not look at numbers but at the doubles nearest to them. What they
say of two integers is therefore what is true of two doubles, and it is true of the
integers themselves unless rounding makes one number of both. That does not happen
where one of them is below `2 ^ 53`; it does from there on, and then a subscriber that
asks for one id is sent the records of another one.

## Main definitions

* `Builtin.Decides` — a query answers alike for every record with some number under a field.
* `Builtin.Compared` — queries and ids say of two numbers what is true of two integers.

## Results

* `Builtin.compared_units` — they say what is true of the nearest doubles.
* `Builtin.compared_values_iff` — when that is what is true of the integers.
* `Builtin.integers_compare_as_doubles` — both, with what the doubles are.
-/

namespace Fanout

namespace Condition

/-! ### Conditions on numbers -/

theorem holds_within_number (m n : Number) : (within [.number m]).holds (some (.number n)) =
    decide (n.toDouble.units = m.toDouble.units) := by
  rw [holds_within_singleton]
  exact Bool.eq_iff_iff.mpr (Json.looselyEquals_number.trans decide_eq_true_iff.symm)

theorem holds_less_number (m n : Number) (orEqual : Bool) :
    (compares .lt orEqual (.number m)).holds (some (.number n)) =
      decide (n.toDouble.units < m.toDouble.units ∨
        (orEqual = true ∧ n.toDouble.units = m.toDouble.units)) := by
  rw [Bool.eq_iff_iff, holds_compares (by decide), decide_eq_true_iff]
  simp [Json.order?_number, Std.compare_eq_lt]

theorem holds_greater_number (m n : Number) (orEqual : Bool) :
    (compares .gt orEqual (.number m)).holds (some (.number n)) =
      decide (m.toDouble.units < n.toDouble.units ∨
        (orEqual = true ∧ n.toDouble.units = m.toDouble.units)) := by
  rw [Bool.eq_iff_iff, holds_compares (by decide), decide_eq_true_iff]
  simp [Json.order?_number, Std.compare_eq_gt]

end Condition

namespace Builtin

open Json (only)

variable {field : String} {constraint : Json} {m n operand found : Number} {answer : Bool}
  {a b x y : Int}

/-! ### Queries and ids on numbers -/

/-- A query of one field gives an answer on every record that has a number there. -/
def Decides (field : String) (constraint : Json) (found : Number) (answer : Bool) : Prop :=
  ∀ record : Json, record.get? field = some (.number found) →
    Answers "query" (only field constraint) record answer

/-- Queries for a field, and ids, say of an operand and a number found what is true of two
integers, the first standing for the operand and the second for what is found. -/
structure Compared (field : String) (operand found : Number) (x y : Int) : Prop where
  literal : Decides field (.number operand) found (decide (y = x))
  within : Decides field (only "$in" (.array [.number operand])) found (decide (y = x))
  differs : Decides field (only "$ne" (.number operand)) found (decide (y ≠ x))
  outside : Decides field (only "$nin" (.array [.number operand])) found (decide (y ≠ x))
  below : Decides field (only "$lt" (.number operand)) found (decide (y < x))
  atMost : Decides field (only "$lte" (.number operand)) found (decide (y ≤ x))
  above : Decides field (only "$gt" (.number operand)) found (decide (y > x))
  atLeast : Decides field (only "$gte" (.number operand)) found (decide (y ≥ x))
  ids : ∀ record : Json, idOf? record = some (.number found) →
    Answers "ids" (.array [.number operand]) record (decide (y = x))

theorem decides_of_holds {condition : Condition} (hField : Condition.isOperator field = false)
    (hUndotted : '.' ∉ field.toList)
    (hConstraint : Condition.ofConstraint constraint = .ok [condition])
    (hHolds : condition.holds (some (.number found)) = answer) :
    Decides field constraint found answer := by
  intro record hFound
  have hReach : record.reach? (path field) = some (.number found) := by
    rw [path_of_undotted hUndotted, Json.reach?, hFound]
    rfl
  rw [answers_only_iff hField hConstraint, hReach]
  exact hHolds

/-- Of two numbers they say what is true of the nearest doubles. -/
theorem compared_units (hField : Condition.isOperator field = false)
    (hUndotted : '.' ∉ field.toList) (operand found : Number) :
    Compared field operand found operand.toDouble.units found.toDouble.units := by
  have hWithin := Condition.holds_within_number operand found
  have hLess := Condition.holds_less_number operand found
  have hGreater := Condition.holds_greater_number operand found
  constructor
  case literal =>
    exact decides_of_holds hField hUndotted rfl ((Condition.holds_equals _ _).trans hWithin)
  case within =>
    exact decides_of_holds hField hUndotted (ofConstraint_operator rfl rfl) hWithin
  case differs =>
    refine decides_of_holds hField hUndotted (ofConstraint_operator rfl rfl) ?_
    rw [Condition.holds_differs, hWithin, decide_not]
  case outside =>
    refine decides_of_holds hField hUndotted (ofConstraint_operator rfl rfl) ?_
    rw [Condition.holds_outside, hWithin, decide_not]
  case below =>
    refine decides_of_holds hField hUndotted (ofConstraint_operator rfl rfl) ?_
    simp [hLess]
  case atMost =>
    refine decides_of_holds hField hUndotted (ofConstraint_operator rfl rfl) ?_
    simp [hLess, Int.le_iff_lt_or_eq]
  case above =>
    refine decides_of_holds hField hUndotted (ofConstraint_operator rfl rfl) ?_
    simp [hGreater]
  case atLeast =>
    refine decides_of_holds hField hUndotted (ofConstraint_operator rfl rfl) ?_
    simp [hGreater, Int.le_iff_lt_or_eq, eq_comm]
  case ids =>
    -- an id is compared with the one listed from the other side
    intro record hId
    have hEqual := Condition.holds_within_singleton (.number operand) (.number found)
    rw [hWithin, Json.looselyEquals_comm] at hEqual
    rw [answers_ids_iff, hId, hEqual]
    simp [idList]

/-- What they say depends on the order of the two integers only. -/
theorem Compared.congr (h : Compared field operand found x y) (hSame : y = x ↔ b = a)
    (hLess : y < x ↔ b < a) : Compared field operand found a b := by
  have hDiffer : y ≠ x ↔ b ≠ a := not_congr hSame
  have hMost : y ≤ x ↔ b ≤ a := by omega
  have hMore : y > x ↔ b > a := by omega
  have hLeast : y ≥ x ↔ b ≥ a := by omega
  constructor
  case literal => exact decide_eq_decide.mpr hSame ▸ h.literal
  case within => exact decide_eq_decide.mpr hSame ▸ h.within
  case differs => exact decide_eq_decide.mpr hDiffer ▸ h.differs
  case outside => exact decide_eq_decide.mpr hDiffer ▸ h.outside
  case below => exact decide_eq_decide.mpr hLess ▸ h.below
  case atMost => exact decide_eq_decide.mpr hMost ▸ h.atMost
  case above => exact decide_eq_decide.mpr hMore ▸ h.above
  case atLeast => exact decide_eq_decide.mpr hLeast ▸ h.atLeast
  case ids => exact decide_eq_decide.mpr hSame ▸ h.ids

/-- They find two numbers equal for one reason only. -/
theorem Compared.eq_iff (h : Compared field operand found x y)
    (hOther : Compared field operand found a b) : y = x ↔ b = a := by
  -- the query with the literal answers once, on the record that has just the number
  have hFound : (only field (.number found)).get? field = some (.number found) :=
    Json.get?_only field _
  exact decide_eq_decide.mp ((h.literal _ hFound).unique (hOther.literal _ hFound))

/-- They say what is true of two integers where rounding does not make one number of both. -/
theorem compared_values_iff (hField : Condition.isOperator field = false)
    (hUndotted : '.' ∉ field.toList) (ha : Number.Admitted a) (hb : Number.Admitted b) :
    Compared field (.integer a ha) (.integer b hb) a b ↔
      ((Number.integer a ha).toDouble.units = (Number.integer b hb).toDouble.units → a = b) := by
  have hUnits := compared_units hField hUndotted (.integer a ha) (.integer b hb)
  constructor
  · intro hValues hSame
    exact ((hUnits.eq_iff hValues).mp hSame.symm).symm
  · intro hApart
    have hSwapped : (Number.integer b hb).toDouble.units = (Number.integer a ha).toDouble.units →
        b = a := fun hSame => (hApart hSame.symm).symm
    refine hUnits.congr ⟨hSwapped, ?_⟩ (Number.units_lt_iff hb ha hSwapped)
    rintro rfl
    rfl

/-- Queries of a field and ids say of two integers what is true of the doubles nearest to them. That
is true of the integers themselves just if the doubles are different for different integers, and so
it is in any case where one of the integers is below `2 ^ 53`. -/
theorem integers_compare_as_doubles (hField : Condition.isOperator field = false)
    (hUndotted : '.' ∉ field.toList) (ha : Number.Admitted a) (hb : Number.Admitted b) :
    ∃ x y : Double, x.Nearest (a * (Double.one : Int)) ∧ y.Nearest (b * (Double.one : Int)) ∧
      Compared field (.integer a ha) (.integer b hb) x.units y.units ∧
      (Compared field (.integer a ha) (.integer b hb) a b ↔ (x.units = y.units → a = b)) ∧
      (a.natAbs < Nat.pow 2 53 ∨ b.natAbs < Nat.pow 2 53 →
        Compared field (.integer a ha) (.integer b hb) a b) := by
  have hIff := compared_values_iff hField hUndotted ha hb
  refine ⟨(Number.integer a ha).toDouble, (Number.integer b hb).toDouble,
    (Number.integer a ha).nearest_toDouble, (Number.integer b hb).nearest_toDouble,
    compared_units hField hUndotted _ _, hIff, fun hSmall => hIff.mpr (fun hSame => ?_)⟩
  -- different integers of which one is small have different doubles
  rcases Int.lt_trichotomy a b with hLess | rfl | hMore
  · have hApart := Number.units_lt ha hb hLess hSmall
    omega
  · rfl
  · have hApart := Number.units_lt hb ha hMore hSmall.symm
    omega

/-- The first integer that is no double. -/
def unrounded : Number := .integer 9007199254740993 (by decide)

/-- The double that it is rounded to. -/
def rounded : Number := .integer 9007199254740992 (by decide)

theorem integers_compare_as_doubles_small :
    Condition.isOperator "id" = false ∧ '.' ∉ "id".toList ∧
      Compared "id" (.integer 7 (by decide)) unrounded 7 9007199254740993 := by
  have hField : Condition.isOperator "id" = false := by decide
  have hUndotted : '.' ∉ "id".toList := by decide
  obtain ⟨_, _, -, -, -, -, hSmall⟩ := integers_compare_as_doubles hField hUndotted
    (a := 7) (b := 9007199254740993) (by decide) (by decide)
  exact ⟨hField, hUndotted, hSmall (.inl (by decide))⟩

/-- Who asks for one id is sent the record of another one. -/
theorem unrounded_selects_rounded :
    Selects "query" (only "id" (.number unrounded)) (only "id" (.number rounded)) ∧
      Selects "ids" (.array [.number unrounded]) (only "id" (.number rounded)) ∧
      ¬ Compared "id" unrounded rounded 9007199254740993 9007199254740992 := by
  have hField : Condition.isOperator "id" = false := by decide
  have hUndotted : '.' ∉ "id".toList := by decide
  -- the first is half way between two doubles, and goes to the even one
  have hSame : unrounded.toDouble.units = rounded.toDouble.units := by decide +kernel
  have hUnits := compared_units hField hUndotted unrounded rounded
  refine ⟨?_, ?_, fun hValues => ?_⟩
  · have hLiteral := hUnits.literal (only "id" (.number rounded)) (Json.get?_only _ _)
    rw [hSame] at hLiteral
    simpa using hLiteral
  · have hIds := hUnits.ids (only "id" (.number rounded)) rfl
    rw [hSame] at hIds
    simpa using hIds
  · have hEqual := (hUnits.eq_iff hValues).mp hSame.symm
    omega

end Builtin

end Fanout
