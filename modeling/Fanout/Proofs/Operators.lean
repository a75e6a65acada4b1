import Fanout.Proofs.Equality
import Fanout.Proofs.Selection

/-!
# Fanout — the algebra of operators

The operators on a field are not independent of each other. Each of the negations is
the complement of what it negates, also where the field is missing. Where a field and
an operand can be compared, one of three things is the case, before, equal or after,
and the comparisons are put together from these; where they cannot, no comparison
holds. And several operators on a field say what they say one by one.

Equality and order are two functions, so that the three cases need the fact that of
comparable values those that are loosely equal are just those of which neither comes
first.

## Main definitions

* `Builtin.OperatorLaws` — the laws of the operators on a field.

## Results

* `Condition.exists_order`, `Condition.holds_incomparable` — comparisons, where there is an order
  and where there is none.
* `Condition.forall_ofOperators_iff` — several operators, one by one.
* `Builtin.operator_laws` — the laws hold on every field.
-/

namespace Fanout

open Json (Comparable only nest)

namespace Condition

variable {found : Option Json} {operand value : Json}

-- ---------------------------------------------------------------------------
-- Conditions on one value
-- ---------------------------------------------------------------------------

theorem holds_within_append (first second : List Json) (found : Option Json) :
    (within (first ++ second)).holds found =
      ((within first).holds found || (within second).holds found) := by
  cases found <;> simp [holds]

/-- Where a comparison is of values that can be compared, the order tells what holds. -/
theorem exists_order (h : Comparable value operand) : ∃ ordering,
    (∀ direction orEqual, (compares direction orEqual operand).holds (some value) =
      if ordering = .eq then orEqual else ordering == direction) ∧
    (within [operand]).holds (some value) = (ordering == .eq) := by
  have hEqual := Json.order?_eq_some_eq_iff h
  cases hOrder : value.order? operand with
  | none =>
    -- numbers and strings always have an order
    cases h with
    | numbers | strings => cases hOrder
  | some ordering =>
    refine ⟨ordering, fun direction orEqual => ?_, ?_⟩
    · cases ordering <;> simp [holds, hOrder]
    · have hLoose : value.looselyEquals operand = (ordering == .eq) := by
        rw [Bool.eq_iff_iff, ← hEqual, hOrder]
        simp
      simp [holds, hLoose]

/-- No comparison holds of what cannot be compared. -/
theorem holds_incomparable (h : ∀ value, found = some value → ¬ Comparable value operand)
    (direction : Ordering) (orEqual : Bool) :
    (compares direction orEqual operand).holds found = false := by
  cases found with
  | none => rfl
  | some value => simp [holds, Json.order?_eq_none (h value rfl)]

-- ---------------------------------------------------------------------------
-- Several operators
-- ---------------------------------------------------------------------------

/-- Several operators compile where each of them does, and what is true of all their conditions is
true of the condition of each. -/
theorem forall_ofOperators_iff (P : Condition → Prop) (members : List (String × Json)) :
    (∃ conditions, ofOperators members = .ok conditions ∧ ∀ condition ∈ conditions, P condition) ↔
      ∀ member ∈ members, ∃ condition, ofOperator member.1 member.2 = .ok condition ∧
        P condition := by
  induction members with
  | nil => simp [ofOperators]
  | cons member rest ih =>
    obtain ⟨operator, operand⟩ := member
    rw [List.forall_mem_cons, ← ih, ofOperators]
    cases ofOperator operator operand with
    | error => simp [bind, Except.bind]
    | ok condition =>
      cases ofOperators rest with
      | error => simp [bind, Except.bind]
      | ok conditions => simp [bind, Except.bind, pure, Except.pure]

/-- The same for an object of operators against objects with one operator each. -/
theorem forall_ofConstraint_iff (P : Condition → Prop) {members : List (String × Json)}
    (hSome : members ≠ []) (hOperators : ∀ member ∈ members, isOperator member.1 = true) :
    (∃ conditions, ofConstraint (.object members) = .ok conditions ∧
      ∀ condition ∈ conditions, P condition) ↔
    ∀ member ∈ members, ∃ conditions, ofConstraint (only member.1 member.2) = .ok conditions ∧
      ∀ condition ∈ conditions, P condition := by
  rw [Builtin.ofConstraint_operators hSome hOperators, forall_ofOperators_iff]
  refine forall₂_congr (fun member hMember => ?_)
  -- an object with one operator is a case of the same
  have hOne : ∀ other ∈ [(member.1, member.2)], isOperator other.1 = true := by
    simpa using hOperators member hMember
  unfold only
  rw [Builtin.ofConstraint_operators (by simp) hOne, forall_ofOperators_iff]
  simp

end Condition

namespace Builtin

variable {field operator : String} {operand record : Json}

-- ---------------------------------------------------------------------------
-- Comparisons
-- ---------------------------------------------------------------------------

/-- A comparison selects the records with a value on one side of the operand. -/
theorem selects_compares_iff {direction : Ordering} (hField : Condition.isOperator field = false)
    (hOperator : Condition.isOperator operator = true) (hDirection : direction ≠ .eq)
    (hCondition : Condition.ofOperator operator operand = .ok (.compares direction false operand)) :
    Selects "query" (operation field operator operand) record ↔
      ∃ value, record.reach? (path field) = some value ∧ value.order? operand = some direction := by
  refine (answers_only_iff hField (ofConstraint_operator hOperator hCondition)).trans ?_
  rw [Condition.holds_compares hDirection]
  simp

/-- What is on one side of a value is on that side of all that the value is on that side of. -/
theorem selects_compares_trans {direction : Ordering} {middle : Json}
    (hField : Condition.isOperator field = false) (hOperator : Condition.isOperator operator = true)
    (hDirection : direction ≠ .eq)
    (hCondition : ∀ operand,
      Condition.ofOperator operator operand = .ok (.compares direction false operand))
    (hTrans : ∀ {u v w : Json}, u.order? v = some direction → v.order? w = some direction →
      u.order? w = some direction)
    (hFirst : Selects "query" (operation field operator middle) record)
    (hSecond : Selects "query" (operation field operator operand) (nest (path field) middle)) :
    Selects "query" (operation field operator operand) record := by
  have hSelects : ∀ {operand record : Json}, Selects "query" (operation field operator operand)
      record ↔ ∃ value, record.reach? (path field) = some value ∧
        value.order? operand = some direction :=
    fun {operand _} => selects_compares_iff hField hOperator hDirection (hCondition operand)
  obtain ⟨value, hValue, hNear⟩ := hSelects.mp hFirst
  obtain ⟨_, hMiddle, hFar⟩ := hSelects.mp hSecond
  -- the record that the second comparison is of has the middle value at the path
  rw [Json.reach?_nest] at hMiddle
  cases hMiddle
  exact hSelects.mpr ⟨value, hValue, hTrans hNear hFar⟩

/-- Where there is an order, the comparisons answer by it, and so does `$in`. -/
theorem exists_ordering {found : Json} (hField : Condition.isOperator field = false)
    (hFound : record.reach? (path field) = some found) (hComparable : Comparable found operand) :
    ∃ ordering : Ordering,
      Answers "query" (operation field "$lt" operand) record (ordering == .lt) ∧
      Answers "query" (operation field "$in" (.array [operand])) record (ordering == .eq) ∧
      Answers "query" (operation field "$gt" operand) record (ordering == .gt) ∧
      Answers "query" (operation field "$lte" operand) record
        (ordering == .lt || ordering == .eq) ∧
      Answers "query" (operation field "$gte" operand) record
        (ordering == .gt || ordering == .eq) := by
  obtain ⟨ordering, hCompares, hWithin⟩ := Condition.exists_order hComparable
  refine ⟨ordering, answers_operation hField rfl rfl ?_, answers_operation hField rfl rfl ?_,
    answers_operation hField rfl rfl ?_, answers_operation hField rfl rfl ?_,
    answers_operation hField rfl rfl ?_⟩
  all_goals rw [hFound]
  · rw [hCompares]
    cases ordering <;> rfl
  · exact hWithin
  all_goals
    rw [hCompares]
    cases ordering <;> rfl

-- ---------------------------------------------------------------------------
-- The laws
-- ---------------------------------------------------------------------------

/-- The laws of the operators on a field. -/
structure OperatorLaws (field : String) : Prop where
  /-- The negations are complements, whether there is a value or not. -/
  differs : ∀ operand record, Oppose "query" (operation field "$ne" operand)
    (operation field "$in" (.array [operand])) record
  outside : ∀ items record, Oppose "query" (operation field "$nin" (.array items))
    (operation field "$in" (.array items)) record
  literal : ∀ {operand : Json}, operand.Plain → ∀ record,
    Agree "query" (only field operand) (operation field "$in" (.array [operand])) record
  append : ∀ first second record, ∃ left right,
    Answers "query" (operation field "$in" (.array first)) record left ∧
    Answers "query" (operation field "$in" (.array second)) record right ∧
    Answers "query" (operation field "$in" (.array (first ++ second))) record (left || right)
  /-- What can be compared is before, equal or after. -/
  comparable : ∀ {record found operand : Json}, record.reach? (path field) = some found →
    Comparable found operand → ∃ ordering : Ordering,
      Answers "query" (operation field "$lt" operand) record (ordering == .lt) ∧
      Answers "query" (operation field "$in" (.array [operand])) record (ordering == .eq) ∧
      Answers "query" (operation field "$gt" operand) record (ordering == .gt) ∧
      Answers "query" (operation field "$lte" operand) record
        (ordering == .lt || ordering == .eq) ∧
      Answers "query" (operation field "$gte" operand) record
        (ordering == .gt || ordering == .eq)
  /-- In any other case nothing is. -/
  incomparable : ∀ {record operand : Json},
    (∀ found, record.reach? (path field) = some found → ¬ Comparable found operand) →
    ∀ operator ∈ ["$lt", "$lte", "$gt", "$gte"],
      Rejects "query" (operation field operator operand) record
  before_trans : ∀ {record middle operand : Json},
    Selects "query" (operation field "$lt" middle) record →
    Selects "query" (operation field "$lt" operand) (nest (path field) middle) →
    Selects "query" (operation field "$lt" operand) record
  after_trans : ∀ {record middle operand : Json},
    Selects "query" (operation field "$gt" middle) record →
    Selects "query" (operation field "$gt" operand) (nest (path field) middle) →
    Selects "query" (operation field "$gt" operand) record
  /-- Several operators together are what they are one by one. -/
  compiles_several : ∀ {members : List (String × Json)}, members ≠ [] →
    (∀ member ∈ members, Condition.isOperator member.1 = true) →
    (Compiles "query" (only field (.object members)) ↔
      ∀ member ∈ members, Compiles "query" (operation field member.1 member.2))
  selects_several : ∀ {members : List (String × Json)}, members ≠ [] →
    (∀ member ∈ members, Condition.isOperator member.1 = true) → ∀ record,
    (Selects "query" (only field (.object members)) record ↔
      ∀ member ∈ members, Selects "query" (operation field member.1 member.2) record)

/-- The laws hold on every field. -/
theorem operator_laws (hField : Condition.isOperator field = false) : OperatorLaws field where
  differs operand record := by
    refine (oppose_only_iff hField (ofConstraint_operator rfl rfl)
      (ofConstraint_operator rfl rfl)).mpr ?_
    exact Condition.holds_differs operand _
  outside items record := by
    refine (oppose_only_iff hField (ofConstraint_operator rfl rfl)
      (ofConstraint_operator rfl rfl)).mpr ?_
    exact Condition.holds_outside items _
  literal := by
    intro operand hPlain record
    refine (agree_only_iff hField (ofConstraint_of_plain hPlain)
      (ofConstraint_operator rfl rfl)).mpr ?_
    exact Condition.holds_equals operand _
  append first second record := by
    refine ⟨_, _, answers_operation hField rfl rfl rfl, answers_operation hField rfl rfl rfl,
      answers_operation hField rfl rfl ?_⟩
    exact Condition.holds_within_append first second _
  comparable := exists_ordering hField
  incomparable := by
    intro record operand hNone operator hOperator
    simp only [List.mem_cons, List.not_mem_nil, or_false] at hOperator
    -- one condition for each, which is false of what is not comparable
    rcases hOperator with rfl | rfl | rfl | rfl
    all_goals
      refine answers_operation hField rfl rfl ?_
      exact Condition.holds_incomparable hNone _ _
  before_trans := selects_compares_trans hField rfl (by decide) (fun _ => rfl) Json.order?_lt_trans
  after_trans := selects_compares_trans hField rfl (by decide) (fun _ => rfl) Json.order?_gt_trans
  compiles_several := by
    intro members hSome hOperators
    -- with nothing asked of the conditions it says that there are some
    have hEach := Condition.forall_ofConstraint_iff (fun _ => True) hSome hOperators
    simp only [implies_true, and_true] at hEach
    rw [compiles_field_iff hField, hEach]
    exact forall₂_congr (fun member _ => (compiles_field_iff hField).symm)
  selects_several := by
    intro members hSome hOperators record
    have hEach := Condition.forall_ofConstraint_iff
      (fun condition => condition.holds (record.reach? (path field)) = true) hSome hOperators
    simp only [← List.all_eq_true] at hEach
    refine (answers_field_iff hField).trans (hEach.trans ?_)
    exact forall₂_congr (fun member _ => (answers_field_iff hField).symm)

/-- The laws of a path, and what the last of them comes to between two bounds. -/
theorem operator_laws_at_path :
    Condition.isOperator "owner.grade" = false ∧ OperatorLaws "owner.grade" ∧
      Selects "query"
        (only "owner.grade" (.object [("$gt", .string "a"), ("$lt", .string "c")]))
        (nest ["owner", "grade"] (.string "b")) := by
  have hField : Condition.isOperator "owner.grade" = false := by decide
  have hLaws := operator_laws hField
  have hPath : path "owner.grade" = ["owner", "grade"] := by decide
  refine ⟨hField, hLaws, (hLaws.selects_several (by simp) (by decide) _).mpr ?_⟩
  rw [List.forall_mem_cons, List.forall_mem_singleton]
  refine ⟨answers_operation hField rfl rfl ?_, answers_operation hField rfl rfl ?_⟩
  · rw [hPath, Json.reach?_nest]
    decide
  · rw [hPath, Json.reach?_nest]
    decide

end Builtin

end Fanout
