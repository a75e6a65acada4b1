import Fanout.Proofs.Grammar
import Mathlib.Data.List.Lex

/-!
# Fanout — what constraints compile to

Compiling follows a query part by part, and stops at the first thing that is wrong.
Each part settles: where nothing is wrong with it, it comes to something that means
what the part means, and otherwise it is refused for the first of its offences. Here
that is shown of the constraints on a field.

## Main definitions

* `Settles` — what compiling a part of a query has to come to.
* `Condition.Faithful` — conditions that mean what a constraint means.

## Results

* `Settles.seq`, `Settles.member` — one part after the other.
* `Condition.settles_ofConstraint` — constraints settle.
-/

namespace Fanout

/-! ## Parts in order -/

instance : Std.Asymm Place.Step.Before where
  asymm := by
    rintro _ _ (h | h) (hBack | hBack)
    · have hGreater := Std.OrientedCmp.gt_of_lt h
      rw [hBack] at hGreater
      cases hGreater
    · omega

namespace Offences

/-- The offences of either of two parts. -/
def or (first later : Offences) : Offences := fun place error =>
  first place error ∨ later place error

variable {first later offences other : Offences} {place : Place} {error : QueryError}

theorem First.congr (h : offences.First place error)
    (hSame : ∀ place error, offences place error ↔ other place error) :
    other.First place error :=
  ⟨(hSame _ _).mp h.offends, fun _ _ hOther => h.least _ _ ((hSame _ _).mpr hOther)⟩

theorem First.under (h : offences.First place error) (step : Place.Step) :
    (offences.under step).First (step :: place) error := by
  refine ⟨⟨place, rfl, h.offends⟩, ?_⟩
  rintro _ reason ⟨inner, rfl, hInner⟩
  rcases h.least inner reason hInner with ⟨rfl, rfl⟩ | hLater
  · exact .inl ⟨rfl, rfl⟩
  · exact .inr (.cons hLater)

/-- Of two parts the earlier one has the first offence, if it has any. -/
theorem First.or_left (h : first.First place error)
    (hBefore : ∀ {early reason late cause}, first early reason → later late cause →
      List.Lex Place.Step.Before early late) : (first.or later).First place error := by
  refine ⟨.inl h.offends, fun known reason hKnown => ?_⟩
  rcases hKnown with hFirst | hLater
  · exact h.least known reason hFirst
  · exact .inr (hBefore h.offends hLater)

theorem First.or_right (hNone : ∀ place error, ¬ first place error)
    (h : later.First place error) : (first.or later).First place error := by
  refine ⟨.inr h.offends, fun known reason hKnown => ?_⟩
  rcases hKnown with hFirst | hLater
  · exact absurd hFirst (hNone known reason)
  · exact h.least known reason hLater

/-- There is one first offence at most. -/
theorem First.unique {cause : QueryError} {late : Place} (h : offences.First place error)
    (hOther : offences.First late cause) : late = place ∧ cause = error := by
  rcases h.least late cause hOther.offends with hSame | hLater
  · exact hSame
  · rcases hOther.least place error h.offends with ⟨rfl, rfl⟩ | hEarlier
    · exact ⟨rfl, rfl⟩
    · exact absurd hEarlier (Std.Asymm.asymm _ _ hLater)

end Offences

/-- What compiling a part of a query has to come to: a result as said where nothing is wrong, and
otherwise the first thing that is. -/
inductive Settles {α : Type} (offences : Offences) (P : α → Prop) : Except QueryError α → Prop
  | ok {result} (hNone : ∀ place error, ¬ offences place error) (h : P result) :
      Settles offences P (.ok result)
  | error {place error} (h : offences.First place error) : Settles offences P (.error error)

namespace Settles

variable {α β γ : Type} {first later offences other : Offences} {P : α → Prop} {Q : β → Prop}
  {R : γ → Prop} {x : Except QueryError α} {y : Except QueryError β}

theorem congr (h : Settles offences P x)
    (hSame : ∀ place error, offences place error ↔ other place error) : Settles other P x := by
  cases h with
  | ok hNone h => exact .ok (fun place error hOther => hNone _ _ ((hSame place error).mpr hOther)) h
  | error h => exact .error (h.congr hSame)

theorem imp {P' : α → Prop} (h : Settles offences P x) (hImp : ∀ result, P result → P' result) :
    Settles offences P' x := by
  cases h with
  | ok hNone h => exact .ok hNone (hImp _ h)
  | error h => exact .error h

theorem under (h : Settles offences P x) (step : Place.Step) :
    Settles (offences.under step) P x := by
  cases h with
  | ok hNone h =>
    refine .ok ?_ h
    rintro _ error ⟨inner, -, hInner⟩
    exact hNone inner error hInner
  | error h => exact .error (h.under step)

/-- One part after the other, where all of the one comes before all of the other. -/
theorem seq (hFirst : Settles first P x) (hLater : Settles later Q y)
    (hBefore : ∀ {early reason late cause}, first early reason → later late cause →
      List.Lex Place.Step.Before early late)
    {f : α → β → γ} (hCombine : ∀ a b, P a → Q b → R (f a b)) :
    Settles (first.or later) R (do
      let a ← x
      let b ← y
      return f a b) := by
  cases hFirst with
  | error h => exact .error (h.or_left hBefore)
  | ok hNone h =>
    cases hLater with
    | error hLater => exact .error (.or_right hNone hLater)
    | ok hLaterNone hLater =>
      refine .ok (fun place error hEither => ?_) (hCombine _ _ h hLater)
      exact hEither.elim (hNone place error) (hLaterNone place error)

/-- One member after the other, where the keys ascend. -/
theorem member {offends : String → Json → Offences} {key : String} {value : Json}
    {rest : List (String × Json)} (hAscending : Entries.Ascending ((key, value) :: rest))
    (hFirst : Settles (offends key value) P x) (hRest : Settles (.keyed offends rest) Q y)
    {f : α → β → γ} (hCombine : ∀ a b, P a → Q b → R (f a b)) :
    Settles (.keyed offends ((key, value) :: rest)) R (do
      let a ← x
      let b ← y
      return f a b) := by
  have hLater : ∀ other ∈ rest, compare key other.1 = .lt :=
    fun other hOther => List.rel_of_pairwise_cons hAscending hOther
  refine ((hFirst.under (.key key)).seq hRest ?_ hCombine).congr ?_
  · -- the places inside the member start with its key, and those after it with later keys
    rintro _ _ _ _ ⟨inner, rfl, -⟩ ⟨other, hOther, deeper, rfl, -⟩
    exact .rel (.key (hLater other hOther))
  · intro place error
    simp [Offences.or, Offences.keyed]

end Settles

/-! ## Constraints -/

namespace Condition

variable {operator : Operator} {operand : Json}

theorem holds_compares {direction : Ordering} (hStrict : direction ≠ .eq) (orEqual : Bool)
    (operand : Json) (found : Option Json) :
    (compares direction orEqual operand).holds found = true ↔ ∃ value, found = some value ∧
      (value.order? operand = some direction ∨
        (orEqual = true ∧ value.order? operand = some .eq)) := by
  cases found with
  | none => simp [holds]
  | some value =>
    simp only [holds, Option.some.injEq, exists_eq_left']
    cases value.order? operand with
    | none => simp
    | some ordering => cases ordering <;> cases direction <;> simp_all

/-- An operator with an operand that it takes compiles to what it says. -/
theorem ofOperator_of_takes (hTakes : operator.Takes operand) :
    ∃ condition, ofOperator operator.key operand = .ok condition ∧
      ∀ found, condition.holds found = true ↔ operator.Says operand found := by
  cases operator with
  | ne =>
    refine ⟨_, rfl, fun found => ⟨fun hHolds => .ne (fun value hFound => ?_), fun hSays => ?_⟩⟩
    · simpa [hFound, holds] using hHolds
    · cases hSays with
      | ne h =>
        cases found with
        | none => rfl
        | some value => simpa [holds] using h value rfl
  | within =>
    obtain ⟨items, rfl⟩ := hTakes (.inl rfl)
    refine ⟨_, rfl, fun found => ⟨fun hHolds => ?_, fun hSays => ?_⟩⟩
    · cases found with
      | none => cases hHolds
      | some value =>
        obtain ⟨item, hItem, hEqual⟩ := List.any_eq_true.mp hHolds
        exact .within hItem hEqual
    · cases hSays with
      | within hItem hEqual => exact List.any_eq_true.mpr ⟨_, hItem, hEqual⟩
  | outside =>
    obtain ⟨items, rfl⟩ := hTakes (.inr rfl)
    refine ⟨_, rfl, fun found =>
      ⟨fun hHolds => .outside (fun value hFound => ?_), fun hSays => ?_⟩⟩
    · simpa [hFound, holds] using hHolds
    · cases hSays with
      | outside h =>
        cases found with
        | none => rfl
        | some value => simpa [holds] using h value rfl
  | below | atMost | above | atLeast =>
    refine ⟨.compares _ _ operand, rfl, fun found => ?_⟩
    rw [holds_compares (by decide)]
    -- a comparison says one thing only, of the order of a value that is there
    constructor
    · rintro ⟨value, rfl, hOrder⟩
      constructor
      simpa using hOrder
    · intro hSays
      cases hSays
      rename_i hOrder
      exact ⟨_, rfl, by simpa using hOrder⟩

theorem ofOperator_of_not_takes (h : ¬ operator.Takes operand) :
    ofOperator operator.key operand = .error (.operandNotArray operator.key) := by
  unfold Operator.Takes at h
  cases operator with
  | within => cases operand <;> first | rfl | simp at h
  | outside => cases operand <;> first | rfl | simp at h
  | ne | below | atMost | above | atLeast => simp at h

theorem ofOperator_of_unknown {key : String} (h : ∀ operator : Operator, operator.key ≠ key)
    (operand : Json) : ofOperator key operand = .error (.unsupportedOperator key) := by
  unfold ofOperator
  split
  · exact absurd rfl (h .ne)
  · exact absurd rfl (h .within)
  · exact absurd rfl (h .outside)
  · exact absurd rfl (h .below)
  · exact absurd rfl (h .atMost)
  · exact absurd rfl (h .above)
  · exact absurd rfl (h .atLeast)
  · rfl

/-- The operator, if the key is that of one, takes the operand. -/
theorem settles_ofOperator (key : String) (operand : Json) :
    Settles (fun place error => place = [] ∧ Constraint.Faulty key operand error)
      (fun condition => (∃ operator : Operator, operator.key = key ∧ operator.Takes operand) ∧
        ∀ found, condition.holds found = true ↔
          ∃ operator : Operator, operator.key = key ∧ operator.Says operand found)
      (ofOperator key operand) := by
  by_cases hKnown : ∃ operator : Operator, operator.key = key
  · obtain ⟨operator, rfl⟩ := hKnown
    by_cases hTakes : operator.Takes operand
    · obtain ⟨condition, hCompile, hHolds⟩ := ofOperator_of_takes hTakes
      rw [hCompile]
      refine .ok (fun place error hFaulty => hFaulty.2.not_takes rfl hTakes)
        ⟨⟨operator, rfl, hTakes⟩, fun found => (hHolds found).trans ⟨?_, ?_⟩⟩
      · exact fun hSays => ⟨operator, rfl, hSays⟩
      · rintro ⟨other, hKey, hSays⟩
        exact Operator.key_injective hKey ▸ hSays
    · rw [ofOperator_of_not_takes hTakes]
      refine .error ⟨⟨rfl, .operand rfl hTakes⟩, ?_⟩
      rintro place error ⟨rfl, hFaulty⟩
      cases hFaulty with
      | unsupported h => exact absurd rfl (h operator)
      | operand => exact .inl ⟨rfl, rfl⟩
  · have hUnknown : ∀ operator : Operator, operator.key ≠ key :=
      fun operator hKey => hKnown ⟨operator, hKey⟩
    rw [ofOperator_of_unknown hUnknown]
    refine .error ⟨⟨rfl, .unsupported hUnknown⟩, ?_⟩
    rintro place error ⟨rfl, hFaulty⟩
    cases hFaulty with
    | unsupported => exact .inl ⟨rfl, rfl⟩
    | operand hKey => exact absurd hKey (hUnknown _)

theorem settles_ofOperators {members : List (String × Json)}
    (hAscending : Entries.Ascending members) :
    Settles (.keyed (fun key operand place error =>
        place = [] ∧ Constraint.Faulty key operand error) members)
      (fun conditions =>
        (∀ member ∈ members, ∃ operator : Operator,
          operator.key = member.1 ∧ operator.Takes member.2) ∧
        ∀ found, conditions.all (·.holds found) = true ↔ ∀ member ∈ members,
          ∃ operator : Operator, operator.key = member.1 ∧ operator.Says member.2 found)
      (ofOperators members) := by
  induction members with
  | nil => exact .ok (by simp [Offences.keyed]) (by simp)
  | cons member rest ih =>
    obtain ⟨key, operand⟩ := member
    have hRest := ih (List.Pairwise.of_cons hAscending)
    refine (settles_ofOperator key operand).member hAscending hRest (f := List.cons) ?_
    rintro condition conditions ⟨hTakes, hHolds⟩ ⟨hRestTake, hRestHold⟩
    refine ⟨List.forall_mem_cons.mpr ⟨hTakes, hRestTake⟩, fun found => ?_⟩
    rw [List.all_cons, Bool.and_eq_true, List.forall_mem_cons, hHolds, hRestHold]

/-- Conditions that mean what a constraint means, which is one that a field may have. -/
structure Faithful (value : Json) (conditions : List Condition) : Prop where
  valid : Constraint.Valid value
  holds : ∀ found, conditions.all (·.holds found) = true ↔ Constraint.Holds value found

/-- A literal compiles to equality with it. -/
theorem settles_literal {value : Json} (hPlain : value.Plain) :
    Settles (Constraint.Offends value) (Faithful value) (.ok [.equals value]) := by
  have hValid : Constraint.Valid value := .literal hPlain
  refine .ok (fun place error hOffends => hOffends.not_valid hValid) ⟨hValid, fun found => ?_⟩
  rw [List.all_cons, List.all_nil, Bool.and_true]
  constructor
  · intro hHolds
    cases found with
    | none => cases hHolds
    | some found => exact .literal hPlain hHolds
  · intro hHolds
    cases hHolds with
    | literal _ h => exact h
    | @operators members _ hSome h =>
      -- an object of operators is no literal
      obtain ⟨member, hMember⟩ := List.exists_mem_of_ne_nil members hSome
      obtain ⟨operator, hKey, -⟩ := h member hMember
      have hNot := hPlain members rfl member hMember
      rw [← hKey, operator.isOperator_key] at hNot
      cases hNot

/-- An object that has operators only compiles to what they say. -/
theorem settles_operators {members : List (String × Json)}
    (hAscending : Entries.Ascending members) (hSome : members ≠ [])
    (hAll : ∀ member ∈ members, isOperator member.1 = true) :
    Settles (Constraint.Offends (.object members)) (Faithful (.object members))
      (ofOperators members) := by
  obtain ⟨first, hFirst⟩ := List.exists_mem_of_ne_nil members hSome
  refine ((settles_ofOperators hAscending).congr ?_).imp ?_
  · -- where all keys are operators, nothing is wrong but with the operators
    intro place error
    constructor
    · rintro ⟨member, hMember, _, rfl, rfl, hFaulty⟩
      exact .operator hAll hMember hFaulty
    · intro hOffends
      cases hOffends with
      | mixed _ _ hPlain hNot => simp [hAll _ hPlain] at hNot
      | operator _ hMember hFaulty => exact ⟨_, hMember, [], rfl, rfl, hFaulty⟩
  · rintro conditions ⟨hTake, hHolds⟩
    refine ⟨.operators hSome hTake, fun found => (hHolds found).trans ⟨.operators hSome, ?_⟩⟩
    intro hConstraint
    cases hConstraint with
    | literal hPlain =>
      have hNot := hPlain members rfl first hFirst
      simp [hAll first hFirst] at hNot
    | operators _ h => exact h

/-- A constraint settles. -/
theorem settles_ofConstraint {value : Json} (hCanonical : value.Canonical) :
    Settles (Constraint.Offends value) (Faithful value) (ofConstraint value) := by
  cases hCanonical with
  | null | bool | number | string | array => exact settles_literal (by simp [Json.Plain])
  | @object members hAscending =>
    unfold ofConstraint
    by_cases hAny : ∃ operator ∈ members, isOperator operator.1 = true
    · obtain ⟨operator, hOperator, hIs⟩ := hAny
      have hSome : members.any (fun member => isOperator member.1) = true :=
        List.any_eq_true.mpr ⟨operator, hOperator, hIs⟩
      by_cases hAll : ∀ member ∈ members, isOperator member.1 = true
      · have hEvery : members.all (fun member => isOperator member.1) = true :=
          List.all_eq_true.mpr hAll
        simp only [hSome, hEvery, Bool.not_true, Bool.false_eq_true, if_false, if_true]
        exact settles_operators hAscending (List.ne_nil_of_mem hOperator) hAll
      · -- the object itself is where operators and plain keys are mixed
        obtain ⟨plain, hPlain, hNot⟩ : ∃ plain ∈ members, isOperator plain.1 = false := by
          simpa using hAll
        have hEvery : members.all (fun member => isOperator member.1) = false :=
          List.all_eq_false.mpr ⟨plain, hPlain, by simp [hNot]⟩
        simp only [hSome, hEvery, Bool.not_true, Bool.false_eq_true, if_false]
        refine .error ⟨.mixed hOperator hIs hPlain hNot, fun place error hOffends => ?_⟩
        cases hOffends with
        | mixed => exact .inl ⟨rfl, rfl⟩
        | operator hEvery => exact absurd hEvery hAll
    · have hPlain : (Json.object members).Plain := by
        rintro _ ⟨⟩ member hMember
        simpa using fun hIs => hAny ⟨member, hMember, hIs⟩
      have hNone : members.any (fun member => isOperator member.1) = false := by
        simpa using hPlain members rfl
      simp only [hNone, Bool.not_false, if_true]
      exact settles_literal hPlain

end Condition

end Fanout
