import Fanout.Filter.Builtin

/-!
# Fanout — the grammar of queries

What a query is and what it means, read off the object itself: which members it may
have, when a record satisfies a member, and where a member that it may not have
offends. None of this looks at how queries are compiled.

## Main definitions

* `Names` — the names between the dots of a key.
* `Operator`, `Operator.Says` — the operators, and what each says of a value.
* `Query.Valid`, `Query.WellFormed` — the members that a query may have.
* `Query.Satisfies`, `Query.Accepts` — the records that a query accepts.
* `Query.Offends`, `Query.FirstOffence` — what is wrong with a query, and the first of it.

## Results

* `names_iff` — a path is split where its dots are.
* `Query.Offends.not_valid` — a member does not both offend and belong.
-/

namespace Fanout

/-! ## Paths -/

/-- The names between the dots of a key. -/
structure Names (key : String) (names : List String) : Prop where
  joined : ".".intercalate names = key
  nonempty : names ≠ []
  undotted : ∀ name ∈ names, '.' ∉ name.toList

theorem segments_ne_nil (characters : List Char) : segments characters ≠ [] := by
  unfold segments
  split
  · simp
  · split
    · simp
    · split <;> simp

/-- A character other than a dot belongs to the first segment. -/
theorem segments_cons {c : Char} (h : c ≠ '.') (rest : List Char) :
    ∃ first others, segments rest = first :: others ∧
      segments (c :: rest) = (c :: first) :: others := by
  obtain ⟨first, others, hRest⟩ := List.exists_cons_of_ne_nil (segments_ne_nil rest)
  refine ⟨first, others, hRest, ?_⟩
  rw [segments, if_neg h, hRest]

theorem intercalate_segments (characters : List Char) :
    ['.'].intercalate (segments characters) = characters := by
  induction characters with
  | nil => rfl
  | cons c rest ih =>
    by_cases h : c = '.'
    · obtain ⟨first, others, hRest⟩ := List.exists_cons_of_ne_nil (segments_ne_nil rest)
      rw [segments, if_pos h, hRest, h]
      rw [hRest] at ih
      simp [List.intercalate_cons_cons, ih]
    · obtain ⟨first, others, hRest, hCons⟩ := segments_cons h rest
      rw [hRest] at ih
      rw [hCons]
      cases others with
      | nil => simpa using ih
      | cons second others => simpa [List.intercalate_cons_cons] using ih

theorem undotted_segments (characters : List Char) :
    ∀ segment ∈ segments characters, '.' ∉ segment := by
  induction characters with
  | nil => simp [segments]
  | cons c rest ih =>
    by_cases h : c = '.'
    · rw [segments, if_pos h]
      simpa using ih
    · obtain ⟨first, others, hRest, hCons⟩ := segments_cons h rest
      rw [hRest] at ih
      rw [hCons]
      simp_all [Ne.symm h]

/-- A path is split where its dots are. -/
theorem names_iff {key : String} {names : List String} : Names key names ↔ names = path key := by
  have hPath : Names key (path key) := by
    refine ⟨?_, ?_, ?_⟩
    · refine String.toList_inj.mp ?_
      rw [String.toList_intercalate]
      simp [path, Function.comp_def, intercalate_segments]
    · simpa [path] using segments_ne_nil key.toList
    · simpa [path] using undotted_segments key.toList
  constructor
  · -- characters that are split in one way are split in no other
    intro h
    have hSplit : ∀ {others : List String}, Names key others →
        others.map String.toList = key.toList.splitOn '.' := by
      intro others hOthers
      have hJoined : ['.'].intercalate (others.map String.toList) = key.toList := by
        rw [← hOthers.joined, String.toList_intercalate]
        rfl
      rw [← hJoined, List.splitOn_intercalate]
      · simpa using hOthers.undotted
      · simpa using hOthers.nonempty
    refine (List.map_inj_right (fun _ _ => ?_)).mp ((hSplit h).trans (hSplit hPath).symm)
    exact String.toList_inj.mp
  · rintro rfl
    exact hPath

/-! ## Operators -/

/-- The operators. -/
inductive Operator where
  | ne
  | within
  | outside
  | below
  | atMost
  | above
  | atLeast

namespace Operator

/-- The key that stands for an operator. -/
def key : Operator → String
  | ne => "$ne"
  | within => "$in"
  | outside => "$nin"
  | below => "$lt"
  | atMost => "$lte"
  | above => "$gt"
  | atLeast => "$gte"

/-- The operand is one that the operator takes. -/
def Takes (operator : Operator) (operand : Json) : Prop :=
  operator = within ∨ operator = outside → ∃ items, operand = .array items

/-- What an operator with its operand says of the value found, if one is found. -/
inductive Says : Operator → Json → Option Json → Prop
  | ne {operand found} (h : ∀ value, found = some value → value.looselyEquals operand = false) :
      Says ne operand found
  | within {items value item} (hItem : item ∈ items) (h : value.looselyEquals item = true) :
      Says within (.array items) (some value)
  | outside {items found} (h : ∀ value, found = some value →
      ∀ item ∈ items, value.looselyEquals item = false) : Says outside (.array items) found
  | below {operand value} (h : value.order? operand = some .lt) : Says below operand (some value)
  | atMost {operand value}
      (h : value.order? operand = some .lt ∨ value.order? operand = some .eq) :
      Says atMost operand (some value)
  | above {operand value} (h : value.order? operand = some .gt) : Says above operand (some value)
  | atLeast {operand value}
      (h : value.order? operand = some .gt ∨ value.order? operand = some .eq) :
      Says atLeast operand (some value)

end Operator

/-! ## Constraints -/

/-- No key of a value is written like an operator; it may be no object at all. -/
def Json.Plain (value : Json) : Prop :=
  ∀ members, value = .object members → ∀ member ∈ members, Condition.isOperator member.1 = false

/-- One step on the way to a place inside a value. -/
inductive Place.Step where
  | key (key : String)
  | item (index : Nat)

/-- A place inside a value. -/
abbrev Place := List Place.Step

/-- The order in which a walk comes to the parts of a value: members by key, items by position. -/
inductive Place.Step.Before : Place.Step → Place.Step → Prop
  | key {first second : String} (h : compare first second = .lt) : Before (key first) (key second)
  | item {first second : Nat} (h : first < second) : Before (item first) (item second)

/-- What is wrong inside a value, and where. -/
abbrev Offences := Place → QueryError → Prop

namespace Offences

/-- What is wrong with a part, seen from outside it. -/
def under (step : Place.Step) (offences : Offences) : Offences := fun place error =>
  ∃ inner, place = step :: inner ∧ offences inner error

/-- What is wrong with members, each at its key. -/
def keyed (offends : String → Json → Offences) (members : List (String × Json)) : Offences :=
  fun place error =>
    ∃ member ∈ members, (offends member.1 member.2).under (.key member.1) place error

/-- A walk in order comes to an offence first: it is there, and all others are at later places. -/
structure First (offences : Offences) (place : Place) (error : QueryError) : Prop where
  offends : offences place error
  least : ∀ other reason, offences other reason →
    (other = place ∧ reason = error) ∨ List.Lex Place.Step.Before place other

end Offences

namespace Constraint

/-- What a field may be constrained by: a literal, or operators, of which there is one at least. -/
inductive Valid : Json → Prop
  | literal {value} (h : value.Plain) : Valid value
  | operators {members} (hSome : members ≠ []) (h : ∀ member ∈ members,
      ∃ operator : Operator, operator.key = member.1 ∧ operator.Takes member.2) :
      Valid (.object members)

/-- A constraint holds of the value found, if one is found. -/
inductive Holds : Json → Option Json → Prop
  | literal {literal value} (hLiteral : literal.Plain) (h : value.looselyEquals literal = true) :
      Holds literal (some value)
  | operators {members found} (hSome : members ≠ []) (h : ∀ member ∈ members,
      ∃ operator : Operator, operator.key = member.1 ∧ operator.Says member.2 found) :
      Holds (.object members) found

/-- What is wrong with an operator and its operand. -/
inductive Faulty (key : String) (operand : Json) : QueryError → Prop
  | unsupported (h : ∀ operator : Operator, operator.key ≠ key) :
      Faulty key operand (.unsupportedOperator key)
  | operand {operator : Operator} (hKey : operator.key = key) (h : ¬ operator.Takes operand) :
      Faulty key operand (.operandNotArray key)

/-- What is wrong with a constraint: it mixes operators with plain keys, or one of its operators is
faulty. -/
inductive Offends : Json → Offences
  | mixed {members operator plain} (hOperator : operator ∈ members)
      (hIs : Condition.isOperator operator.1 = true) (hPlain : plain ∈ members)
      (hNot : Condition.isOperator plain.1 = false) : Offends (.object members) [] .mixedOperators
  | operator {members member error}
      (hAll : ∀ other ∈ members, Condition.isOperator other.1 = true) (hMember : member ∈ members)
      (h : Faulty member.1 member.2 error) : Offends (.object members) [.key member.1] error

end Constraint

/-! ## Queries -/

namespace Query

/-- A member that a query may have. -/
inductive Valid : String → Json → Prop
  | anyOf {key branches} (hKey : key = "$or")
      (hObjects : ∀ branch ∈ branches, ∃ members, branch = .object members)
      (h : ∀ members, .object members ∈ branches → ∀ member ∈ members, Valid member.1 member.2) :
      Valid key (.array branches)
  | paging {key value} (hKey : key ∈ pagingKeys) : Valid key value
  | field {key value} (hKey : Condition.isOperator key = false) (h : Constraint.Valid value) :
      Valid key value

/-- The members of an object that is a query. -/
def WellFormed (members : List (String × Json)) : Prop :=
  ∀ member ∈ members, Valid member.1 member.2

/-- A record satisfies a member of a query. -/
inductive Satisfies (record : Json) : String → Json → Prop
  | anyOf {key branches members} (hKey : key = "$or") (hBranch : .object members ∈ branches)
      (h : ∀ member ∈ members, Satisfies record member.1 member.2) :
      Satisfies record key (.array branches)
  | paging {key value} (hKey : key ∈ pagingKeys) : Satisfies record key value
  | field {key constraint names} (hKey : Condition.isOperator key = false)
      (hNames : Names key names) (h : Constraint.Holds constraint (record.reach? names)) :
      Satisfies record key constraint

/-- A query accepts a record that satisfies all its members. -/
def Accepts (record : Json) (members : List (String × Json)) : Prop :=
  ∀ member ∈ members, Satisfies record member.1 member.2

/-- What is wrong with a member of a query. -/
inductive Offends : String → Json → Offences
  | orNotArray {key value} (hKey : key = "$or") (h : ∀ branches, value ≠ .array branches) :
      Offends key value [] .orNotArray
  | entry {key branches index branch} (hKey : key = "$or")
      (hBranch : branches[index]? = some branch) (h : ∀ members, branch ≠ .object members) :
      Offends key (.array branches) [.item index] .orEntryNotObject
  | branch {key branches index members member place error} (hKey : key = "$or")
      (hBranch : branches[index]? = some (.object members)) (hMember : member ∈ members)
      (h : Offends member.1 member.2 place error) :
      Offends key (.array branches) (.item index :: .key member.1 :: place) error
  | unsupported {key value} (hKey : Condition.isOperator key = true) (hOr : key ≠ "$or")
      (hPaging : key ∉ pagingKeys) : Offends key value [] (.unsupportedOperator key)
  | field {key value place error} (hKey : Condition.isOperator key = false)
      (h : Constraint.Offends value place error) : Offends key value place error

/-- The first offence that a walk of the members of a query comes to, depth first and in order. -/
abbrev FirstOffence (members : List (String × Json)) : Place → QueryError → Prop :=
  (Offences.keyed Offends members).First

end Query

/-! ## Offences and validity exclude each other -/

theorem Operator.isOperator_key (operator : Operator) :
    Condition.isOperator operator.key = true := by
  cases operator <;> rfl

theorem Operator.key_injective {first second : Operator} (h : first.key = second.key) :
    first = second := by
  cases first <;> cases second <;> first | rfl | simp [key] at h

theorem Constraint.Faulty.not_takes {key : String} {operand : Json} {error : QueryError}
    (h : Faulty key operand error) {operator : Operator} (hKey : operator.key = key) :
    ¬ operator.Takes operand := by
  cases h with
  | unsupported h => exact absurd hKey (h operator)
  | @operand faulty hFaulty h =>
    have hSame : operator = faulty := Operator.key_injective (hKey.trans hFaulty.symm)
    exact hSame ▸ h

theorem Constraint.Offends.not_valid {value : Json} {place : Place} {error : QueryError}
    (h : Offends value place error) : ¬ Valid value := by
  intro hValid
  cases h with
  | mixed hOperator hIs hPlain hNot =>
    cases hValid with
    | literal hLiteral =>
      have hNotOperator := hLiteral _ rfl _ hOperator
      simp [hIs] at hNotOperator
    | operators _ h =>
      -- the plain key would have to be that of an operator
      obtain ⟨operator, hKey, -⟩ := h _ hPlain
      rw [← hKey, operator.isOperator_key] at hNot
      cases hNot
  | operator hAll hMember h =>
    cases hValid with
    | literal hLiteral =>
      have hNotOperator := hLiteral _ rfl _ hMember
      simp [hAll _ hMember] at hNotOperator
    | operators _ hValid =>
      obtain ⟨operator, hKey, hTakes⟩ := hValid _ hMember
      exact h.not_takes hKey hTakes

namespace Query

theorem isOperator_of_paging {key : String} (h : key ∈ pagingKeys) :
    Condition.isOperator key = true := by
  unfold pagingKeys at h
  simp only [List.mem_cons, List.not_mem_nil, or_false] at h
  rcases h with rfl | rfl | rfl | rfl <;> rfl

theorem or_not_paging : "$or" ∉ pagingKeys := by decide

/-- A member does not both offend and belong. -/
theorem Offends.not_valid {key : String} {value : Json} {place : Place} {error : QueryError}
    (h : Offends key value place error) : ¬ Valid key value := by
  intro hValid
  induction h with
  | orNotArray hKey h =>
    subst hKey
    cases hValid with
    | anyOf => exact h _ rfl
    | paging hPaging => exact or_not_paging hPaging
    | field hPlain => cases hPlain
  | entry hKey hBranch h =>
    subst hKey
    cases hValid with
    | anyOf _ hObjects =>
      obtain ⟨members, hMembers⟩ := hObjects _ (List.mem_of_getElem? hBranch)
      exact h members hMembers
    | paging hPaging => exact or_not_paging hPaging
    | field hPlain => cases hPlain
  | branch hKey hBranch hMember _ ih =>
    subst hKey
    cases hValid with
    | anyOf _ _ hBranches => exact ih (hBranches _ (List.mem_of_getElem? hBranch) _ hMember)
    | paging hPaging => exact or_not_paging hPaging
    | field hPlain => cases hPlain
  | unsupported hKey hOr hPaging =>
    cases hValid with
    | anyOf hIsOr => exact hOr hIsOr
    | paging hIsPaging => exact hPaging hIsPaging
    | field hPlain => simp [hKey] at hPlain
  | field hKey h =>
    cases hValid with
    | anyOf hOr =>
      subst hOr
      cases hKey
    | paging hPaging => simp [isOperator_of_paging hPaging] at hKey
    | field _ hValid => exact h.not_valid hValid

theorem FirstOffence.not_wellFormed {members : List (String × Json)} {place : Place}
    {error : QueryError} (h : FirstOffence members place error) : ¬ WellFormed members := by
  intro hWellFormed
  obtain ⟨member, hMember, inner, -, hOffends⟩ := h.offends
  exact hOffends.not_valid (hWellFormed member hMember)

end Query

end Fanout
