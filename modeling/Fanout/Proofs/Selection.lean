import Fanout.Proofs.Compilation

/-!
# Fanout — what the built-in filters select

A built-in filter with a param compiles or is refused, and once it is compiled it
selects a record or rejects it. The lemmas here say what that comes to for a query,
for a query of one field, and for ids, so that the laws of queries need not look into
predicates.

## Main definitions

* `Builtin.Compiles`, `Builtin.Answers` — what a filter makes of a param, and then of a record.
* `Builtin.Selects`, `Builtin.Rejects` — the two answers.
* `Builtin.Agree`, `Builtin.Oppose` — two params that answer a record alike, or oppositely.
* `Builtin.operation` — the query with one operator on a field.
* `Json.only`, `Json.nest` — the object with one member, and the record with one value at a path.

## Results

* `Builtin.answers_query_iff` — queries, through what they compile to.
* `Builtin.answers_field_iff`, `Builtin.answers_only_iff` — queries of one field.
* `Builtin.answers_ids_iff` — ids.
-/

namespace Fanout

-- ---------------------------------------------------------------------------
-- Records with one value
-- ---------------------------------------------------------------------------

namespace Json

/-- The object with one member. -/
def only (key : String) (value : Json) : Json := .object [(key, value)]

@[simp] theorem get?_only (key : String) (value : Json) :
    (only key value).get? key = some value := by
  simp [only, get?, Entries.find?]

/-- The record that has a value at a path, and nothing else. -/
def nest : List String → Json → Json
  | [], value => value
  | field :: rest, value => only field (nest rest value)

/-- The path reaches the value. -/
@[simp] theorem reach?_nest (fields : List String) (value : Json) :
    (nest fields value).reach? fields = some value := by
  induction fields with
  | nil => rfl
  | cons field rest ih =>
    rw [nest, reach?, get?_only]
    exact ih

end Json

/-- A name without dots is a path of its own. -/
theorem path_of_undotted {field : String} (h : '.' ∉ field.toList) : path field = [field] := by
  have hNames : Names field [field] := ⟨by simp, by simp, by simpa using h⟩
  exact (names_iff.mp hNames).symm

-- ---------------------------------------------------------------------------
-- Conditions in terms of `$in`
-- ---------------------------------------------------------------------------

namespace Condition

theorem holds_within_singleton (operand value : Json) :
    (within [operand]).holds (some value) = value.looselyEquals operand := by
  simp [holds]

theorem holds_equals (literal : Json) (found : Option Json) :
    (equals literal).holds found = (within [literal]).holds found := by
  cases found <;> simp [holds]

theorem holds_differs (operand : Json) (found : Option Json) :
    (differs operand).holds found = !(within [operand]).holds found := by
  cases found <;> simp [holds]

theorem holds_outside (items : List Json) (found : Option Json) :
    (outside items).holds found = !(within items).holds found := by
  cases found <;> rfl

end Condition

-- ---------------------------------------------------------------------------
-- Filters
-- ---------------------------------------------------------------------------

namespace Builtin

open Json (only nest)

/-- A filter takes a param. -/
def Compiles (name : String) (param : Json) : Prop :=
  ∃ predicate, module.compile name [param] = .ok predicate

/-- A filter with a param gives an answer on a record. -/
def Answers (name : String) (param record : Json) (answer : Bool) : Prop :=
  ∃ predicate, module.compile name [param] = .ok predicate ∧ predicate.evaluate record = .ok answer

/-- A filter with a param accepts a record. -/
abbrev Selects (name : String) (param record : Json) : Prop := Answers name param record true

/-- A filter with a param turns a record down, without failing. -/
abbrev Rejects (name : String) (param record : Json) : Prop := Answers name param record false

/-- Two params give the same answer on a record. -/
def Agree (name : String) (first second record : Json) : Prop :=
  ∃ answer, Answers name first record answer ∧ Answers name second record answer

/-- Two params give opposite answers on a record. -/
def Oppose (name : String) (first second record : Json) : Prop :=
  ∃ answer, Answers name first record answer ∧ Answers name second record (!answer)

variable {name field : String} {param record constraint : Json} {members : List (String × Json)}
  {condition other : Condition} {answer : Bool}

/-- A filter with a param gives one answer on a record. -/
theorem Answers.unique {second : Bool} (h : Answers name param record answer)
    (hSecond : Answers name param record second) : answer = second := by
  obtain ⟨predicate, hCompile, hAnswer⟩ := h
  obtain ⟨_, hOther, hSecond⟩ := hSecond
  rw [hCompile] at hOther
  cases hOther
  rw [hAnswer] at hSecond
  cases hSecond
  rfl

/-! ### Queries -/

theorem compile_object (members : List (String × Json)) :
    module.compile "query" [.object members] =
      match Query.ofMembers members with
      | .ok query => .ok (Predicate.ofTest (fun record => query.holds record))
      | .error error => .error (.filter (.invalidParams error.message)) := by
  rw [compile_query]
  unfold query
  dsimp only [List.head?_cons]
  cases Query.ofMembers members <;> rfl

theorem compiles_query_iff : Compiles "query" (.object members) ↔
    ∃ query, Query.ofMembers members = .ok query := by
  unfold Compiles
  rw [compile_object]
  cases Query.ofMembers members <;> simp

/-- What a query answers is what it compiles to. -/
theorem answers_query_iff : Answers "query" (.object members) record answer ↔
    ∃ query, Query.ofMembers members = .ok query ∧ query.holds record = answer := by
  unfold Answers
  rw [compile_object]
  cases Query.ofMembers members <;> simp

/-- A query that compiles answers every record. -/
theorem answers_iff_selects : Answers "query" (.object members) record answer ↔
    Compiles "query" (.object members) ∧
      (answer = true ↔ Selects "query" (.object members) record) := by
  simp only [compiles_query_iff, answers_query_iff]
  cases Query.ofMembers members with
  | error => simp
  | ok query =>
    simp only [Except.ok.injEq, exists_eq_left', exists_eq', true_and]
    rw [← Bool.eq_iff_iff, eq_comm]

theorem exists_answers (h : Compiles "query" (.object members)) (record : Json) :
    ∃ answer, Answers "query" (.object members) record answer := by
  obtain ⟨query, hQuery⟩ := compiles_query_iff.mp h
  exact ⟨query.holds record, answers_query_iff.mpr ⟨query, hQuery, rfl⟩⟩

/-! ### Queries of one field -/

theorem ofMembers_single (hField : Condition.isOperator field = false) :
    Query.ofMembers [(field, constraint)] =
      (Condition.ofConstraint constraint).map (fun conditions =>
        .mk [⟨path field, conditions⟩] none) := by
  rw [Query.ofMembers_field hField]
  cases Condition.ofConstraint constraint <;> rfl

theorem compiles_field_iff (hField : Condition.isOperator field = false) :
    Compiles "query" (only field constraint) ↔
      ∃ conditions, Condition.ofConstraint constraint = .ok conditions := by
  unfold only
  rw [compiles_query_iff, ofMembers_single hField]
  cases Condition.ofConstraint constraint <;> simp [Except.map]

/-- The conditions of a field are those of its constraint, on the value that the path reaches. -/
theorem answers_field_iff (hField : Condition.isOperator field = false) :
    Answers "query" (only field constraint) record answer ↔
      ∃ conditions, Condition.ofConstraint constraint = .ok conditions ∧
        conditions.all (·.holds (record.reach? (path field))) = answer := by
  unfold only
  rw [answers_query_iff, ofMembers_single hField]
  cases Condition.ofConstraint constraint <;>
    simp [Except.map, Query.holds, Query.fieldHolds]

/-- A constraint with one condition answers as the condition does. -/
theorem answers_only_iff (hField : Condition.isOperator field = false)
    (hConstraint : Condition.ofConstraint constraint = .ok [condition]) :
    Answers "query" (only field constraint) record answer ↔
      condition.holds (record.reach? (path field)) = answer := by
  rw [answers_field_iff hField, hConstraint]
  simp

/-- Operators stand for their conditions. -/
theorem ofConstraint_operators (hSome : members ≠ [])
    (hOperators : ∀ member ∈ members, Condition.isOperator member.1 = true) :
    Condition.ofConstraint (.object members) = Condition.ofOperators members := by
  -- that there is one tells the object from a literal, that all are tells it from a mixture
  obtain ⟨first, hFirst⟩ := List.exists_mem_of_ne_nil members hSome
  have hAny : members.any (fun member => Condition.isOperator member.1) = true :=
    List.any_eq_true.mpr ⟨first, hFirst, hOperators first hFirst⟩
  have hAll : members.all (fun member => Condition.isOperator member.1) = true :=
    List.all_eq_true.mpr hOperators
  simp [Condition.ofConstraint, hAny, hAll]

theorem ofConstraint_operator {operator : String} {operand : Json}
    (hOperator : Condition.isOperator operator = true)
    (hCondition : Condition.ofOperator operator operand = .ok condition) :
    Condition.ofConstraint (only operator operand) = .ok [condition] := by
  unfold only
  rw [ofConstraint_operators (by simp) (by simpa using hOperator), Condition.ofOperators,
    hCondition]
  rfl

/-- The query with one operator on a field. -/
def operation (field operator : String) (operand : Json) : Json :=
  only field (only operator operand)

/-- Such a query answers as the condition of the operator does. -/
theorem answers_operation {operator : String} {operand : Json}
    (hField : Condition.isOperator field = false) (hOperator : Condition.isOperator operator = true)
    (hCondition : Condition.ofOperator operator operand = .ok condition)
    (hHolds : condition.holds (record.reach? (path field)) = answer) :
    Answers "query" (operation field operator operand) record answer :=
  (answers_only_iff hField (ofConstraint_operator hOperator hCondition)).mpr hHolds

theorem agree_only_iff {second : Json} (hField : Condition.isOperator field = false)
    (hFirst : Condition.ofConstraint constraint = .ok [condition])
    (hSecond : Condition.ofConstraint second = .ok [other]) :
    Agree "query" (only field constraint) (only field second) record ↔
      condition.holds (record.reach? (path field)) = other.holds (record.reach? (path field)) := by
  unfold Agree
  simp [answers_only_iff hField hFirst, answers_only_iff hField hSecond, eq_comm]

theorem oppose_only_iff {second : Json} (hField : Condition.isOperator field = false)
    (hFirst : Condition.ofConstraint constraint = .ok [condition])
    (hSecond : Condition.ofConstraint second = .ok [other]) :
    Oppose "query" (only field constraint) (only field second) record ↔
      condition.holds (record.reach? (path field)) =
        !other.holds (record.reach? (path field)) := by
  unfold Oppose
  simp [answers_only_iff hField hFirst, answers_only_iff hField hSecond, eq_comm]

/-- A literal stands for equality with it. -/
theorem ofConstraint_of_plain {literal : Json} (h : literal.Plain) :
    Condition.ofConstraint literal = .ok [.equals literal] := by
  unfold Condition.ofConstraint
  split
  · rename_i members
    have hNone : members.any (fun member => Condition.isOperator member.1) = false := by
      simpa using h members rfl
    rw [hNone]
    rfl
  · rfl

/-! ### Ids -/

/-- Ids look at the id of a record alone. -/
theorem answers_ids_iff : Answers "ids" param record answer ↔
    (idOf? record).any (fun id => (idList (some param)).any (·.looselyEquals id)) = answer := by
  have hCompile : module.compile "ids" [param] = (ids [param]).mapError .filter := rfl
  unfold Answers
  rw [hCompile]
  unfold ids
  cases hId : idOf? record <;> simp [Except.mapError, hId]

theorem agree_ids_iff {second : Json} : Agree "ids" param second record ↔
    (idOf? record).any (fun id => (idList (some param)).any (·.looselyEquals id)) =
      (idOf? record).any (fun id => (idList (some second)).any (·.looselyEquals id)) := by
  unfold Agree
  simp [answers_ids_iff, eq_comm]

end Builtin

end Fanout
