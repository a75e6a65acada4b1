import Fanout.Proofs.Composition
import Fanout.Proofs.Paths
import Fanout.Proofs.Respelling
import Mathlib.Data.List.Forall2

/-!
# Fanout — replacing values by equal ones

Loose equality is an equivalence, and the order of values does not tell loosely equal
values apart. So nothing that a query says can depend on which of them stands in it:
neither a literal, nor an operand, nor an item listed by `$in` or `$nin`; and neither
can it depend on which of them a record has where the constraint looks.

The argument follows compiling. Constraints with such values in the same places compile
to conditions with such values in the same places, or are refused for the same reason;
and conditions like that hold of loosely equal values together. From a single
constraint it carries over to whole queries by the grammar, which asks something of
each member by itself.

## Main definitions

* `Json.Loose` — loosely equal values.
* `Condition.Alike`, `Constraint.Alike` — conditions and constraints with loosely equal values.
* `Query.Replaced` — a query with constraints replaced, in it or in branches at any depth.
* `CompiledAlike` — parts of queries that compile together.
* `Json.EqualityLaws`, `Builtin.SameQuery` — the laws of equality and order, and what queries that
  are not told apart have in common.

## Results

* `Json.Loose.order?_congr` — the order of values does not tell loosely equal ones apart.
* `Condition.Alike.holds_eq` — conditions hold together.
* `Constraint.Alike.compiled`, `Query.Replaced.compiled` — constraints and queries compile together.
* `Builtin.equal_values_replace` — what follows for the filter.
-/

namespace Fanout

-- ---------------------------------------------------------------------------
-- Loose equality and order
-- ---------------------------------------------------------------------------

namespace Json

/-- Loosely equal values. -/
abbrev Loose (v w : Json) : Prop := v.looselyEquals w = true

variable {u v w v' w' : Json}

theorem loose_equivalence : Equivalence Loose :=
  ⟨looselyEquals_self, looselyEquals_symm, looselyEquals_trans⟩

theorem loose_of_order? (h : v.order? w = some .eq) : Loose v w :=
  (order?_eq_some_eq_iff (comparable_of_order? h)).mp h

/-- What is loosely equal to a literal is a literal as well. -/
theorem Loose.plain (h : Loose v w) (hPlain : v.Plain) : w.Plain := by
  rcases looselyEquals_iff.mp h with ⟨m, n, -, rfl, -⟩ | hIdentical
  · simp [Plain]
  · have hRespelled : Respelled v w := hIdentical.imp (fun hNumbers => hNumbers.2)
    exact hRespelled.plain hPlain

/-- What is loosely equal to an array is an array of loosely equal items. -/
theorem Loose.exists_items {items : List Json} (h : Loose (.array items) w) :
    ∃ others, w = .array others ∧ List.Forall₂ Loose items others := by
  rcases looselyEquals_iff.mp h with ⟨_, _, hNumber, -⟩ | hIdentical
  · cases hNumber
  · cases hIdentical with
    | @array _ others hLength hItems =>
      refine ⟨others, rfl, List.forall₂_iff_get.mpr ⟨hLength, fun index hFirst hSecond => ?_⟩⟩
      exact looselyEquals_iff.mpr (.inr (hItems index _ _
        (List.getElem?_eq_getElem hFirst) (List.getElem?_eq_getElem hSecond)))

/-- Of a number the order sees nothing but its nearest double. -/
theorem order?_number_congr {m n : Number} (h : m.toDouble.units = n.toDouble.units) (u : Json) :
    (number m).order? u = (number n).order? u := by
  cases u with
  | number l => rw [order?_number, order?_number, h]
  | null | bool | string | array | object => rfl

/-- Loosely equal values are in the same order to a third one. -/
theorem Loose.order?_eq (h : Loose v w) (u : Json) : v.order? u = w.order? u := by
  rcases looselyEquals_iff.mp h with ⟨m, n, rfl, rfl, hUnits⟩ | hIdentical
  · exact order?_number_congr hUnits u
  · cases hIdentical with
    | number hNumbers => exact order?_number_congr (Number.units_eq_of_value_eq hNumbers.2) u
    | null | bool | string => rfl
    | array | object => cases u <;> rfl

theorem Loose.order?_congr (h : Loose v w) (h' : Loose v' w') : v.order? v' = w.order? w' := by
  calc v.order? v' = w.order? v' := h.order?_eq v'
    _ = (v'.order? w).map Ordering.swap := (order?_swap v' w).symm
    _ = (w'.order? w).map Ordering.swap := by rw [h'.order?_eq w]
    _ = w.order? w' := order?_swap w' w

/-- What comes first, comes after or is equal does so throughout. -/
theorem order?_trans {ordering : Ordering} (hFirst : u.order? v = some ordering)
    (hSecond : v.order? w = some ordering) : u.order? w = some ordering := by
  cases ordering with
  | lt => exact order?_lt_trans hFirst hSecond
  | gt => exact order?_gt_trans hFirst hSecond
  | eq => rw [(loose_of_order? hFirst).order?_eq w, hSecond]

/-- An item of a list is loosely equal to a value where one is of the same list with its items, and
the value, replaced. -/
theorem Loose.any_congr {items others : List Json} (h : Loose v w)
    (hItems : List.Forall₂ Loose items others) :
    items.any (v.looselyEquals ·) = others.any (w.looselyEquals ·) := by
  induction hItems with
  | nil => rfl
  | @cons item other _ _ hItem _ ih =>
    have hSame : v.looselyEquals item = w.looselyEquals other := by
      rw [looselyEquals_congr hItem, looselyEquals_comm, looselyEquals_congr h,
        looselyEquals_comm]
    rw [List.any_cons, List.any_cons, hSame, ih]

end Json

-- ---------------------------------------------------------------------------
-- Conditions
-- ---------------------------------------------------------------------------

namespace Condition

open Json (Loose)

/-- Two conditions of one kind with loosely equal values. -/
inductive Alike : Condition → Condition → Prop
  | equals {literal other} (h : Loose literal other) : Alike (equals literal) (equals other)
  | differs {operand other} (h : Loose operand other) : Alike (differs operand) (differs other)
  | within {operands others} (h : List.Forall₂ Loose operands others) :
      Alike (within operands) (within others)
  | outside {operands others} (h : List.Forall₂ Loose operands others) :
      Alike (outside operands) (outside others)
  | compares (direction : Ordering) (orEqual : Bool) {operand other} (h : Loose operand other) :
      Alike (compares direction orEqual operand) (compares direction orEqual other)

/-- They hold together, of loosely equal values as of one. -/
theorem Alike.holds_eq {condition other : Condition} {found replaced : Option Json}
    (h : Alike condition other) (hFound : Option.Rel Loose found replaced) :
    condition.holds found = other.holds replaced := by
  cases hFound with
  | none => cases h <;> rfl
  | some hValue =>
    cases h with
    | equals hLiteral =>
      have hAny := hValue.any_congr (.cons hLiteral .nil)
      simpa [holds] using hAny
    | differs hOperand =>
      have hAny := hValue.any_congr (.cons hOperand .nil)
      simpa [holds] using hAny
    | within hItems => exact hValue.any_congr hItems
    | outside hItems => exact congrArg (! ·) (hValue.any_congr hItems)
    | compares direction orEqual hOperand =>
      unfold holds
      dsimp only
      rw [hValue.order?_congr hOperand]

theorem Alike.refl (condition : Condition) : Alike condition condition := by
  have hItems : ∀ items : List Json, List.Forall₂ Loose items items :=
    fun items => List.forall₂_same.mpr (fun item _ => Json.looselyEquals_self item)
  cases condition with
  | equals literal => exact .equals (Json.looselyEquals_self literal)
  | differs operand => exact .differs (Json.looselyEquals_self operand)
  | within operands => exact .within (hItems operands)
  | outside operands => exact .outside (hItems operands)
  | compares direction orEqual operand => exact .compares _ _ (Json.looselyEquals_self operand)

theorem alikes_refl (conditions : List Condition) : List.Forall₂ Alike conditions conditions :=
  List.forall₂_same.mpr (fun condition _ => .refl condition)

theorem all_holds_congr {conditions others : List Condition} {found replaced : Option Json}
    (h : List.Forall₂ Alike conditions others) (hFound : Option.Rel Loose found replaced) :
    conditions.all (·.holds found) = others.all (·.holds replaced) := by
  induction h with
  | nil => rfl
  | cons hFirst _ ih => rw [List.all_cons, List.all_cons, hFirst.holds_eq hFound, ih]

end Condition

-- ---------------------------------------------------------------------------
-- Compiling
-- ---------------------------------------------------------------------------

/-- Two parts that compile together: to results that are related, or not at all and for the same
reason. -/
inductive CompiledAlike {α : Type} (related : α → α → Prop) :
    Except QueryError α → Except QueryError α → Prop
  | ok {result other} (h : related result other) : CompiledAlike related (.ok result) (.ok other)
  | error (error : QueryError) : CompiledAlike related (.error error) (.error error)

namespace CompiledAlike

variable {α β γ : Type} {P : α → α → Prop} {Q : β → β → Prop} {R : γ → γ → Prop}
  {x x' x'' : Except QueryError α} {y y' : Except QueryError β}

theorem refl (hRefl : ∀ result, P result result) (x : Except QueryError α) :
    CompiledAlike P x x := by
  cases x with
  | ok result => exact .ok (hRefl result)
  | error error => exact .error error

theorem trans (hTrans : ∀ {a b c}, P a b → P b c → P a c) (hFirst : CompiledAlike P x x')
    (hSecond : CompiledAlike P x' x'') : CompiledAlike P x x'' := by
  cases hFirst with
  | ok h =>
    cases hSecond with
    | ok hOther => exact .ok (hTrans h hOther)
  | error => exact hSecond

/-- One part after the other. -/
theorem seq (hFirst : CompiledAlike P x x') (hLater : CompiledAlike Q y y') {f : α → β → γ}
    (hCombine : ∀ {a a' b b'}, P a a' → Q b b' → R (f a b) (f a' b')) :
    CompiledAlike R (do
      let a ← x
      let b ← y
      return f a b) (do
      let a ← x'
      let b ← y'
      return f a b) := by
  cases hFirst with
  | error error => exact .error error
  | ok h =>
    cases hLater with
    | error error => exact .error error
    | ok hOther => exact .ok (hCombine h hOther)

end CompiledAlike

namespace Constraint

open Json (Loose)
open Condition (isOperator ofConstraint ofOperator ofOperators)

/-- Operands of an operator of which one is the other with values replaced by loosely equal ones:
the whole, or items of the list that `$in` or `$nin` has. -/
inductive OperandAlike (operator : String) : Json → Json → Prop
  | whole {operand other} (h : Loose operand other) : OperandAlike operator operand other
  | items {operands others} (hList : operator = "$in" ∨ operator = "$nin")
      (h : List.Forall₂ Loose operands others) :
      OperandAlike operator (.array operands) (.array others)

/-- The same operators, with operands of which those of the one list are those of the other with
values replaced. -/
abbrev OperandsAlike : List (String × Json) → List (String × Json) → Prop :=
  List.Forall₂ (fun member other => member.1 = other.1 ∧ OperandAlike member.1 member.2 other.2)

/-- Constraints of which one is the other with values replaced by loosely equal ones: a literal, or
operands. -/
inductive Alike : Json → Json → Prop
  | literal {value other} (hPlain : value.Plain) (h : Loose value other) : Alike value other
  | operators {members others} (hSome : members ≠ [])
      (hOperators : ∀ member ∈ members, isOperator member.1 = true)
      (h : OperandsAlike members others) : Alike (.object members) (.object others)

variable {operator : String} {operand other value : Json} {members others : List (String × Json)}

/-- Operands that are no lists are replaced as a whole. -/
theorem OperandAlike.loose (h : OperandAlike operator operand other) (hIn : operator ≠ "$in")
    (hNin : operator ≠ "$nin") : Loose operand other := by
  cases h with
  | whole h => exact h
  | items hList => exact absurd hList (not_or.mpr ⟨hIn, hNin⟩)

/-- A list is replaced by a list of the same length, and what is no list by no list. -/
theorem OperandAlike.lists (h : OperandAlike operator operand other) :
    (∃ operands others, operand = .array operands ∧ other = .array others ∧
      List.Forall₂ Loose operands others) ∨
    (∀ operands, operand ≠ .array operands) ∧ ∀ others, other ≠ .array others := by
  cases h with
  | items _ h => exact .inl ⟨_, _, rfl, rfl, h⟩
  | whole h =>
    by_cases hList : ∃ operands, operand = .array operands
    · obtain ⟨operands, rfl⟩ := hList
      obtain ⟨others, rfl, hItems⟩ := h.exists_items
      exact .inl ⟨operands, others, rfl, rfl, hItems⟩
    · refine .inr ⟨fun operands hOperand => hList ⟨operands, hOperand⟩, ?_⟩
      rintro others rfl
      obtain ⟨operands, hOperand, -⟩ := Json.Loose.exists_items (Json.looselyEquals_symm h)
      exact hList ⟨operands, hOperand⟩

/-- Without a list, `$in` and `$nin` are refused. -/
theorem OperandAlike.refused {operator : Operator}
    (hList : operator = .within ∨ operator = .outside)
    (hOperand : ∀ operands, operand ≠ .array operands)
    (hOther : ∀ others, other ≠ .array others) :
    CompiledAlike Condition.Alike (ofOperator operator.key operand)
      (ofOperator operator.key other) := by
  rw [Condition.ofOperator_of_not_takes (fun hTakes => (hTakes hList).elim hOperand),
    Condition.ofOperator_of_not_takes (fun hTakes => (hTakes hList).elim hOther)]
  exact .error _

/-- An operator compiles together with its operand and with the other one. -/
theorem OperandAlike.compiled (h : OperandAlike operator operand other) :
    CompiledAlike Condition.Alike (ofOperator operator operand) (ofOperator operator other) := by
  by_cases hKnown : ∃ known : Operator, known.key = operator
  · obtain ⟨known, rfl⟩ := hKnown
    cases known with
    | ne => exact .ok (.differs (h.loose (by decide) (by decide)))
    | within =>
      rcases h.lists with ⟨_, _, rfl, rfl, hItems⟩ | ⟨hOperand, hOther⟩
      · exact .ok (.within hItems)
      · exact refused (.inl rfl) hOperand hOther
    | outside =>
      rcases h.lists with ⟨_, _, rfl, rfl, hItems⟩ | ⟨hOperand, hOther⟩
      · exact .ok (.outside hItems)
      · exact refused (.inr rfl) hOperand hOther
    | below | atMost | above | atLeast =>
      exact .ok (.compares _ _ (h.loose (by decide) (by decide)))
  · have hUnknown : ∀ known : Operator, known.key ≠ operator :=
      fun known hKey => hKnown ⟨known, hKey⟩
    rw [Condition.ofOperator_of_unknown hUnknown, Condition.ofOperator_of_unknown hUnknown]
    exact .error _

theorem compiled_ofOperators (h : OperandsAlike members others) :
    CompiledAlike (List.Forall₂ Condition.Alike) (ofOperators members) (ofOperators others) := by
  induction h with
  | nil => exact .ok .nil
  | @cons member other _ _ hFirst _ ih =>
    obtain ⟨operator, operand⟩ := member
    obtain ⟨key, replaced⟩ := other
    obtain ⟨rfl, hOperand⟩ := hFirst
    exact hOperand.compiled.seq ih .cons

/-- The keys of operators stay. -/
theorem operators_of_alike (hOperators : ∀ member ∈ members, isOperator member.1 = true)
    (h : OperandsAlike members others) : ∀ other ∈ others, isOperator other.1 = true := by
  induction h with
  | nil => exact hOperators
  | cons hFirst _ ih =>
    obtain ⟨hKey, hRest⟩ := List.forall_mem_cons.mp hOperators
    exact List.forall_mem_cons.mpr ⟨hFirst.1 ▸ hKey, ih hRest⟩

/-- A constraint compiles together with the one that has values replaced. -/
theorem Alike.compiled (h : Alike value other) :
    CompiledAlike (List.Forall₂ Condition.Alike) (ofConstraint value) (ofConstraint other) := by
  cases h with
  | literal hPlain h =>
    rw [Builtin.ofConstraint_of_plain hPlain, Builtin.ofConstraint_of_plain (h.plain hPlain)]
    exact .ok (.cons (.equals h) .nil)
  | @operators _ others hSome hOperators h =>
    have hOthers : others ≠ [] := by
      rintro rfl
      cases h
      exact hSome rfl
    rw [Builtin.ofConstraint_operators hSome hOperators,
      Builtin.ofConstraint_operators hOthers (operators_of_alike hOperators h)]
    exact compiled_ofOperators h

end Constraint

-- ---------------------------------------------------------------------------
-- Queries
-- ---------------------------------------------------------------------------

namespace Query

/-- A query with constraints replaced, in it or in branches of an `$or` at any depth. -/
inductive Replaced : List (String × Json) → List (String × Json) → Prop
  | refl (members : List (String × Json)) : Replaced members members
  | constraint {field value other} (hField : Condition.isOperator field = false)
      (first rest : List (String × Json)) (h : Constraint.Alike value other) :
      Replaced (first ++ (field, value) :: rest) (first ++ (field, other) :: rest)
  | branch {inner replaced} (before after : List Json) (first rest : List (String × Json))
      (h : Replaced inner replaced) :
      Replaced (first ++ ("$or", .array (before ++ .object inner :: after)) :: rest)
        (first ++ ("$or", .array (before ++ .object replaced :: after)) :: rest)
  | trans {members some more} (hFirst : Replaced members some) (hSecond : Replaced some more) :
      Replaced members more

/-- Branches of which one holds for the same records. -/
def BranchesSame (branches others : List Query) : Prop :=
  ∀ record, anyHolds record branches = anyHolds record others

/-- Queries whose conditions on fields hold for the same records, and whose branches do. -/
inductive Same : Query → Query → Prop
  | mk {fields others branches alternatives}
      (hFields : ∀ record, fields.all (fieldHolds record) = others.all (fieldHolds record))
      (hBranches : Option.Rel BranchesSame branches alternatives) :
      Same (.mk fields branches) (.mk others alternatives)

namespace Same

variable {query other : Query}

theorem refl (query : Query) : Same query query := by
  obtain ⟨fields, anyOf⟩ := query
  refine .mk (fun _ => rfl) ?_
  cases anyOf with
  | none => exact .none
  | some branches => exact .some (fun _ => rfl)

theorem trans {next : Query} (hFirst : Same query other) (hSecond : Same other next) :
    Same query next := by
  obtain ⟨hFields, hBranches⟩ := hFirst
  obtain ⟨hNextFields, hNextBranches⟩ := hSecond
  refine .mk (fun record => (hFields record).trans (hNextFields record)) ?_
  cases hBranches with
  | none => exact hNextBranches
  | some h =>
    cases hNextBranches with
    | some hNext => exact .some (fun record => (h record).trans (hNext record))

theorem holds_eq (h : Same query other) (record : Json) :
    query.holds record = other.holds record := by
  obtain ⟨hFields, hBranches⟩ := h
  cases hBranches with
  | none => exact hFields record
  | some hAny => rw [holds, holds, hFields record, hAny record]

theorem addField {field replaced : FieldCondition} (h : Same query other)
    (hField : ∀ record, fieldHolds record field = fieldHolds record replaced) :
    Same (query.addField field) (other.addField replaced) := by
  obtain ⟨hFields, hBranches⟩ := h
  refine .mk (fun record => ?_) hBranches
  rw [List.all_cons, List.all_cons, hField record, hFields record]

theorem addBranches {branches others : List Query} (h : Same query other)
    (hAny : BranchesSame branches others) :
    Same (query.addBranches branches) (other.addBranches others) := by
  obtain ⟨hFields, hBranches⟩ := h
  refine .mk hFields ?_
  -- branches that are there already stay
  cases hBranches with
  | none => exact .some hAny
  | some hOld => exact .some hOld

end Same

variable {members others rest : List (String × Json)} {branches alternatives : List Json}
  {field : String} {value branch other : Json}

/-! ### One member more, or one branch -/

theorem compiled_field (hField : Condition.isOperator field = false)
    (h : CompiledAlike (List.Forall₂ Condition.Alike) (Condition.ofConstraint value)
      (Condition.ofConstraint other))
    (hRest : CompiledAlike Same (ofMembers rest) (ofMembers others)) :
    CompiledAlike Same (ofMembers ((field, value) :: rest))
      (ofMembers ((field, other) :: others)) := by
  rw [ofMembers_field hField, ofMembers_field hField]
  refine h.seq hRest (fun hConditions hSame => hSame.addField (fun record => ?_))
  refine Condition.all_holds_congr hConditions ?_
  -- both look at one value, if any
  cases record.reach? (path field) with
  | none => exact .none
  | some found => exact .some (Json.looselyEquals_self found)

theorem compiled_or (h : CompiledAlike BranchesSame (ofBranches value) (ofBranches other))
    (hRest : CompiledAlike Same (ofMembers rest) (ofMembers others)) :
    CompiledAlike Same (ofMembers (("$or", value) :: rest))
      (ofMembers (("$or", other) :: others)) := by
  rw [ofMembers_or, ofMembers_or]
  exact h.seq hRest (fun hAny hSame => hSame.addBranches hAny)

theorem compiled_branch (h : CompiledAlike Same (ofBranch branch) (ofBranch other))
    (hRest : CompiledAlike BranchesSame (ofBranchList branches) (ofBranchList alternatives)) :
    CompiledAlike BranchesSame (ofBranchList (branch :: branches))
      (ofBranchList (other :: alternatives)) := by
  rw [ofBranchList, ofBranchList]
  refine h.seq hRest (fun hSame hAny record => ?_)
  rw [anyHolds, anyHolds, hSame.holds_eq record, hAny record]

/-! ### Members and branches in front -/

theorem compiled_append (first : List (String × Json))
    (h : CompiledAlike Same (ofMembers rest) (ofMembers others)) :
    CompiledAlike Same (ofMembers (first ++ rest)) (ofMembers (first ++ others)) := by
  induction first with
  | nil => exact h
  | cons member first ih =>
    obtain ⟨key, value⟩ := member
    by_cases hOr : key = "$or"
    · subst hOr
      exact compiled_or (.refl (fun _ _ => rfl) _) ih
    · by_cases hPaging : key ∈ pagingKeys
      · rwa [List.cons_append, List.cons_append, ofMembers_paging hPaging,
          ofMembers_paging hPaging]
      · cases hKey : Condition.isOperator key with
        | true =>
          rw [List.cons_append, List.cons_append, ofMembers_unsupported hOr hPaging hKey,
            ofMembers_unsupported hOr hPaging hKey]
          exact .error _
        | false => exact compiled_field hKey (.refl Condition.alikes_refl _) ih

theorem compiled_branches (before after : List Json)
    (h : CompiledAlike Same (ofBranch branch) (ofBranch other)) :
    CompiledAlike BranchesSame (ofBranchList (before ++ branch :: after))
      (ofBranchList (before ++ other :: after)) := by
  induction before with
  | nil => exact compiled_branch h (.refl (fun _ _ => rfl) _)
  | cons first before ih => exact compiled_branch (.refl Same.refl _) ih

/-- A query compiles together with the one that has constraints replaced. -/
theorem Replaced.compiled (h : Replaced members others) :
    CompiledAlike Same (ofMembers members) (ofMembers others) := by
  induction h with
  | refl members => exact .refl Same.refl _
  | constraint hField first rest h =>
    exact compiled_append first (compiled_field hField h.compiled (.refl Same.refl _))
  | @branch inner replaced before after first rest _ ih =>
    have hBranch : CompiledAlike Same (ofBranch (.object inner)) (ofBranch (.object replaced)) := by
      rwa [ofBranch, ofBranch]
    refine compiled_append first (compiled_or ?_ (.refl Same.refl _))
    rw [ofBranches, ofBranches]
    exact compiled_branches before after hBranch
  | trans _ _ ihFirst ihSecond => exact ihFirst.trans Same.trans ihSecond

end Query

-- ---------------------------------------------------------------------------
-- The laws
-- ---------------------------------------------------------------------------

/-- The laws of loose equality and order. -/
structure Json.EqualityLaws : Prop where
  equivalence : Equivalence Json.Loose
  /-- What is in order as an equal is loosely equal. -/
  equal : ∀ v w : Json, v.order? w = some .eq → Json.Loose v w
  antisymmetric : ∀ v w : Json, w.order? v = (v.order? w).map Ordering.swap
  transitive : ∀ (u v w : Json) (ordering : Ordering), u.order? v = some ordering →
    v.order? w = some ordering → u.order? w = some ordering
  /-- The order does not tell loosely equal values apart. -/
  congruence : ∀ v w v' w' : Json, Json.Loose v w → Json.Loose v' w' → v.order? v' = w.order? w'

theorem Json.equality_laws : Json.EqualityLaws where
  equivalence := Json.loose_equivalence
  equal _ _ := Json.loose_of_order?
  antisymmetric v w := (Json.order?_swap v w).symm
  transitive _ _ _ _ := Json.order?_trans
  congruence _ _ _ _ := Json.Loose.order?_congr

namespace Builtin

open Json (only Loose)

variable {field : String} {record other : Json} {members others : List (String × Json)}

/-- Loosely equal values that are found give the same answers. -/
theorem answers_of_loose (hField : Condition.isOperator field = false)
    (h : Option.Rel Loose (record.reach? (path field)) (other.reach? (path field)))
    (constraint : Json) (answer : Bool) :
    Answers "query" (only field constraint) record answer ↔
      Answers "query" (only field constraint) other answer := by
  have hSame : ∀ conditions : List Condition,
      conditions.all (·.holds (record.reach? (path field))) =
        conditions.all (·.holds (other.reach? (path field))) :=
    fun conditions => Condition.all_holds_congr (Condition.alikes_refl conditions) h
  rw [answers_field_iff hField, answers_field_iff hField]
  simp only [hSame]

/-- Queries that the language does not tell apart. -/
structure SameQuery (first second : Json) : Prop where
  interchangeable : Interchangeable first second
  refused : ∀ failure, module.compile "query" [first] = .error failure ↔
    module.compile "query" [second] = .error failure

theorem same_query_of_replaced (h : Query.Replaced members others) :
    SameQuery (.object members) (.object others) := by
  have hCompiled := h.compiled
  constructor
  case interchangeable =>
    constructor
    case compiles =>
      rw [compiles_query_iff, compiles_query_iff]
      generalize Query.ofMembers members = first, Query.ofMembers others = second at hCompiled
      cases hCompiled <;> simp
    case answers =>
      intro record answer
      rw [answers_query_iff, answers_query_iff]
      generalize Query.ofMembers members = first, Query.ofMembers others = second at hCompiled
      cases hCompiled with
      | ok hSame => simp [hSame.holds_eq record]
      | error => simp
  case refused =>
    intro failure
    rw [compile_object, compile_object]
    generalize Query.ofMembers members = first, Query.ofMembers others = second at hCompiled
    cases hCompiled <;> simp

/-- Loose equality is an equivalence that the order of values, the conditions of constraints and so
whole queries respect: a literal, an operand, or an item that `$in` or `$nin` lists can be replaced
by a loosely equal one wherever it stands in a query, and so can the value that a record has where
a constraint looks. -/
theorem equal_values_replace :
    Json.EqualityLaws ∧
    (∀ members others, Query.Replaced members others →
      SameQuery (.object members) (.object others)) ∧
    ∀ field names, Condition.isOperator field = false → Names field names →
      ∀ record other value replaced, record.Reaches names value → other.Reaches names replaced →
      Loose value replaced → ∀ constraint answer,
      (Answers "query" (only field constraint) record answer ↔
        Answers "query" (only field constraint) other answer) := by
  refine ⟨Json.equality_laws, fun _ _ => same_query_of_replaced, ?_⟩
  intro field names hField hNames record other value replaced hValue hReplaced hLoose
  refine answers_of_loose hField ?_
  rw [names_iff.mp hNames, Json.reaches_iff] at hValue hReplaced
  rw [hValue, hReplaced]
  exact .some hLoose

/-- A query with one branch that lists a value. -/
def listedInBranch (value : Json) : List (String × Json) :=
  [("$or", .array [operation "f" "$in" (.array [.null, value])])]

/-- An integer and the double of the same value take each other's place. -/
theorem equal_values_replace_one :
    Loose oneAsInteger oneAsDouble ∧ oneAsInteger.order? oneAsDouble = some .eq ∧
      Query.Replaced (listedInBranch oneAsInteger) (listedInBranch oneAsDouble) ∧
      Selects "query" (.object (listedInBranch oneAsDouble)) (only "f" oneAsInteger) ∧
      Condition.isOperator "f" = false ∧ Names "f" ["f"] ∧
      Rejects "query" (operation "f" "$ne" oneAsInteger) (only "f" oneAsDouble) := by
  obtain ⟨hEquality, hQueries, hRecords⟩ := equal_values_replace
  have hLoose : Loose oneAsInteger oneAsDouble :=
    respelled_one.looselyEquals_iff.mpr (.inl ⟨_, rfl⟩)
  have hSelf : Loose oneAsInteger oneAsInteger := hEquality.equivalence.refl _
  have hField : Condition.isOperator "f" = false := by decide
  have hNames : Names "f" ["f"] := names_iff.mpr (by decide)
  have hReplaced : Query.Replaced (listedInBranch oneAsInteger) (listedInBranch oneAsDouble) := by
    refine .branch [] [] [] [] (.constraint hField [] [] (.operators (by simp) ?_ ?_))
    · simp [Condition.isOperator]
    · exact .cons ⟨rfl, .items (.inl rfl) (.cons (hEquality.equivalence.refl _)
        (.cons hLoose .nil))⟩ .nil
  refine ⟨hLoose, (Json.order?_eq_some_eq_iff (.numbers _ _)).mpr hLoose, hReplaced, ?_, hField,
    hNames, ?_⟩
  · refine ((hQueries _ _ hReplaced).interchangeable.answers _ true).mp ?_
    refine answers_query_iff.mpr ⟨_, rfl, ?_⟩
    have hFound : (only "f" oneAsInteger).reach? (path "f") = some oneAsInteger := rfl
    simp [Query.holds, Query.anyHolds, Query.fieldHolds, hFound, Condition.holds]
  · refine (hRecords "f" ["f"] hField hNames (only "f" oneAsInteger) _ _ _ (.member rfl (.here _))
      (.member rfl (.here _)) hLoose _ false).mp ?_
    refine answers_operation hField rfl rfl ?_
    have hFound : (only "f" oneAsInteger).reach? (path "f") = some oneAsInteger := rfl
    simp [hFound, Condition.holds]

end Builtin

end Fanout
