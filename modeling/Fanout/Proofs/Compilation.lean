import Fanout.Proofs.Constraint

/-!
# Fanout — what queries compile to

A query settles as its members do, and an `$or` among them as its branches do. The
lemmas follow the compiler: one for each kind of member, one for each shape of an
`$or`, and the recursion that ties them together.

## Main definitions

* `Query.Faithful`, `Query.BranchesFaithful` — compiled queries that mean what the members of an
  object mean, or the branches of an `$or`.

## Results

* `Query.settles_field`, `Query.settles_or` and so on — one member more.
* `Query.settles_ofMembers` — queries settle.
* `Builtin.query_means_its_grammar` — what follows for the filter.
-/

namespace Fanout

/-! ## Queries -/

namespace Query

/-- The query with the conditions of one more field. -/
def addField (field : FieldCondition) : Query → Query
  | .mk fields anyOf => .mk (field :: fields) anyOf

/-- The query with queries one of which has to hold, unless it has such already. -/
def addBranches (branches : List Query) : Query → Query
  | .mk fields anyOf => .mk fields (anyOf.or (some branches))

variable {key : String} {value record : Json} {rest members : List (String × Json)}

/-! ### How a query is compiled, member by member -/

theorem ofMembers_or (value : Json) (rest : List (String × Json)) :
    ofMembers (("$or", value) :: rest) = (do
      let branches ← ofBranches value
      let query ← ofMembers rest
      return query.addBranches branches) := by
  rw [ofMembers, if_pos rfl]
  cases ofBranches value with
  | error => rfl
  | ok branches =>
    cases ofMembers rest with
    | error => rfl
    | ok query =>
      cases query
      rfl

theorem ofMembers_paging (hKey : key ∈ pagingKeys) (value : Json) :
    ofMembers ((key, value) :: rest) = ofMembers rest := by
  have hOr : key ≠ "$or" := fun h => or_not_paging (h ▸ hKey)
  rw [ofMembers, if_neg hOr, if_pos (List.contains_iff_mem.mpr hKey)]

theorem ofMembers_unsupported (hOr : key ≠ "$or") (hPaging : key ∉ pagingKeys)
    (hKey : Condition.isOperator key = true) (value : Json) :
    ofMembers ((key, value) :: rest) = .error (.unsupportedOperator key) := by
  rw [ofMembers, if_neg hOr, if_neg (fun h => hPaging (List.contains_iff_mem.mp h)), if_pos hKey]

theorem ofMembers_field (hKey : Condition.isOperator key = false) (value : Json) :
    ofMembers ((key, value) :: rest) = (do
      let conditions ← Condition.ofConstraint value
      let query ← ofMembers rest
      return query.addField ⟨path key, conditions⟩) := by
  have hOr : key ≠ "$or" := by
    rintro rfl
    cases hKey
  have hPaging : ¬ pagingKeys.contains key = true := by
    intro h
    rw [isOperator_of_paging (List.contains_iff_mem.mp h)] at hKey
    cases hKey
  rw [ofMembers, if_neg hOr, if_neg hPaging, if_neg (by simp [hKey])]
  cases Condition.ofConstraint value with
  | error => rfl
  | ok conditions =>
    cases ofMembers rest with
    | error => rfl
    | ok query =>
      cases query
      rfl

/-! ### When a compiled query holds -/

theorem holds_addField (field : FieldCondition) (query : Query) :
    (query.addField field).holds record = (fieldHolds record field && query.holds record) := by
  obtain ⟨fields, anyOf⟩ := query
  cases anyOf <;> simp [addField, holds, Bool.and_assoc]

theorem holds_addBranches (branches : List Query) (fields : List FieldCondition) :
    ((mk fields none).addBranches branches).holds record =
      ((mk fields none).holds record && anyHolds record branches) := rfl

/-! ### When a record satisfies a member -/

theorem satisfies_field_iff (hKey : Condition.isOperator key = false) :
    Satisfies record key value ↔ Constraint.Holds value (record.reach? (path key)) := by
  constructor
  · intro h
    cases h with
    | anyOf hOr =>
      subst hOr
      cases hKey
    | paging hPaging => simp [isOperator_of_paging hPaging] at hKey
    | field _ hNames h => exact names_iff.mp hNames ▸ h
  · exact fun h => .field hKey (names_iff.mpr rfl) h

theorem satisfies_or_iff {branches : List Json} :
    Satisfies record "$or" (.array branches) ↔
      ∃ members, .object members ∈ branches ∧ Accepts record members := by
  -- as variables, so that the cases are told apart by the equations and not by the indices
  generalize hKey : "$or" = key
  generalize hValue : Json.array branches = value
  constructor
  · intro h
    cases h with
    | anyOf _ hBranch h =>
      cases hValue
      exact ⟨_, hBranch, h⟩
    | paging hPaging => exact absurd (hKey ▸ hPaging) or_not_paging
    | field hPlain =>
      subst hKey
      cases hPlain
  · rintro ⟨members, hBranch, h⟩
    subst hKey hValue
    exact .anyOf rfl hBranch h

/-! ### Queries settle -/

/-- A compiled query that means what the members of an object mean, which is a query. -/
structure Faithful (members : List (String × Json)) (query : Query) : Prop where
  wellFormed : WellFormed members
  holds : ∀ record, query.holds record = true ↔ Accepts record members
  /-- Without an `$or` there is no alternative. -/
  alone : (∀ member ∈ members, member.1 ≠ "$or") → ∃ fields, query = .mk fields none

/-- Compiled queries that mean what the branches of an `$or` mean, which are queries. -/
structure BranchesFaithful (branches : List Json) (queries : List Query) : Prop where
  objects : ∀ branch ∈ branches, ∃ members, branch = .object members
  wellFormed : ∀ members, .object members ∈ branches → WellFormed members
  holds : ∀ record, anyHolds record queries = true ↔
    ∃ members, .object members ∈ branches ∧ Accepts record members

/-- What is wrong with one branch of an `$or`. -/
inductive BranchOffends : Json → Offences
  | entry {branch} (h : ∀ members, branch ≠ .object members) :
      BranchOffends branch [] .orEntryNotObject
  | members {members place error} (h : Offences.keyed Offends members place error) :
      BranchOffends (.object members) place error

/-- What is wrong with the branches of an `$or` from some position on. -/
def BranchesOffend (start : Nat) (branches : List Json) : Offences := fun place error =>
  ∃ index branch, branches[index]? = some branch ∧
    (BranchOffends branch).under (.item (start + index)) place error

theorem offends_or_iff {branches : List Json} {place : Place} {error : QueryError} :
    Offends "$or" (.array branches) place error ↔ BranchesOffend 0 branches place error := by
  constructor
  · generalize hKey : "$or" = key
    generalize hValue : Json.array branches = value
    intro h
    cases h with
    | orNotArray _ h => exact absurd hValue.symm (h branches)
    | entry _ hBranch h =>
      cases hValue
      exact ⟨_, _, hBranch, [], by rw [Nat.zero_add], .entry h⟩
    | branch _ hBranch hMember h =>
      cases hValue
      exact ⟨_, _, hBranch, _, by rw [Nat.zero_add], .members ⟨_, hMember, _, rfl, h⟩⟩
    | unsupported _ hOr => exact absurd hKey.symm hOr
    | field hPlain =>
      subst hKey
      cases hPlain
  · rintro ⟨index, branch, hBranch, inner, rfl, h⟩
    rw [Nat.zero_add]
    cases h with
    | entry h => exact .entry rfl hBranch h
    | members h =>
      obtain ⟨member, hMember, deeper, rfl, h⟩ := h
      exact .branch rfl hBranch hMember h

theorem branchesOffend_cons {start : Nat} {branch : Json} {branches : List Json} {place : Place}
    {error : QueryError} :
    ((BranchOffends branch).under (.item start)).or (BranchesOffend (start + 1) branches) place
        error ↔ BranchesOffend start (branch :: branches) place error := by
  constructor
  · rintro (⟨inner, rfl, h⟩ | ⟨index, known, hKnown, inner, rfl, h⟩)
    · exact ⟨0, branch, rfl, inner, rfl, h⟩
    · exact ⟨index + 1, known, hKnown, inner, by rw [Nat.add_right_comm]; rfl, h⟩
  · rintro ⟨index, known, hKnown, inner, rfl, h⟩
    cases index with
    | zero =>
      cases hKnown
      exact .inl ⟨inner, rfl, h⟩
    | succ index => exact .inr ⟨index, known, hKnown, inner, by rw [Nat.add_right_comm]; rfl, h⟩

/-- A query without members accepts every record. -/
theorem settles_nil : Settles (.keyed Offends []) (Faithful []) (.ok (.mk [] none)) := by
  refine .ok (by simp [Offences.keyed]) ⟨by simp [WellFormed], fun record => ?_, ?_⟩
  · simp [holds, Accepts]
  · exact fun _ => ⟨[], rfl⟩

theorem settles_paging (hKey : key ∈ pagingKeys) {query : Except QueryError Query}
    (h : Settles (.keyed Offends rest) (Faithful rest) query) :
    Settles (.keyed Offends ((key, value) :: rest)) (Faithful ((key, value) :: rest)) query := by
  have hValid : Valid key value := .paging hKey
  refine (h.congr fun place error => ?_).imp fun query hFaithful => ⟨?_, fun record => ?_, ?_⟩
  · -- the member itself is no offence
    constructor
    · rintro ⟨member, hMember, hOffends⟩
      exact ⟨member, List.mem_cons_of_mem _ hMember, hOffends⟩
    · rintro ⟨member, hMember, inner, rfl, hOffends⟩
      rcases List.mem_cons.mp hMember with rfl | hMember
      · exact absurd hValid hOffends.not_valid
      · exact ⟨member, hMember, inner, rfl, hOffends⟩
  · exact List.forall_mem_cons.mpr ⟨hValid, hFaithful.wellFormed⟩
  · rw [hFaithful.holds]
    constructor
    · exact fun h => List.forall_mem_cons.mpr ⟨.paging hKey, h⟩
    · exact fun h => (List.forall_mem_cons.mp h).2
  · exact fun hNone => hFaithful.alone (List.forall_mem_cons.mp hNone).2

theorem settles_unsupported (hOr : key ≠ "$or") (hPaging : key ∉ pagingKeys)
    (hKey : Condition.isOperator key = true)
    (hAscending : Entries.Ascending ((key, value) :: rest)) {P : Query → Prop} :
    Settles (.keyed Offends ((key, value) :: rest)) P (.error (.unsupportedOperator key)) := by
  have hFirst : Offences.First (.keyed Offends ((key, value) :: rest)) [.key key]
      (.unsupportedOperator key) := by
    refine ⟨⟨_, List.mem_cons_self, [], rfl, .unsupported hKey hOr hPaging⟩, ?_⟩
    rintro _ reason ⟨member, hMember, inner, rfl, hOffends⟩
    rcases List.mem_cons.mp hMember with rfl | hMember
    · -- a key that is no operator of queries is all that is wrong with its member
      cases hOffends with
      | orNotArray h => exact absurd h hOr
      | entry h => exact absurd h hOr
      | branch h => exact absurd h hOr
      | unsupported => exact .inl ⟨rfl, rfl⟩
      | field h => simp [hKey] at h
    · exact .inr (.rel (.key (List.rel_of_pairwise_cons hAscending hMember)))
  exact .error hFirst

theorem settles_field (hKey : Condition.isOperator key = false)
    (hAscending : Entries.Ascending ((key, value) :: rest)) (hValue : value.Canonical)
    (hRest : Settles (.keyed Offends rest) (Faithful rest) (ofMembers rest)) :
    Settles (.keyed Offends ((key, value) :: rest)) (Faithful ((key, value) :: rest))
      (ofMembers ((key, value) :: rest)) := by
  rw [ofMembers_field hKey]
  refine Settles.member hAscending
    ((Condition.settles_ofConstraint hValue).congr fun place error => ?_) hRest ?_
  · -- all that can be wrong with the member is its constraint
    constructor
    · exact .field hKey
    · intro hOffends
      cases hOffends with
      | orNotArray h | entry h | branch h =>
        subst h
        cases hKey
      | unsupported h => simp [hKey] at h
      | field _ h => exact h
  · intro conditions query hConditions hQuery
    refine ⟨List.forall_mem_cons.mpr ⟨.field hKey hConditions.valid, hQuery.wellFormed⟩,
      fun record => ?_, fun hNone => ?_⟩
    · unfold Accepts
      rw [List.forall_mem_cons, satisfies_field_iff hKey, holds_addField, Bool.and_eq_true]
      exact and_congr (hConditions.holds _) (hQuery.holds record)
    · obtain ⟨fields, rfl⟩ := hQuery.alone (List.forall_mem_cons.mp hNone).2
      exact ⟨_, rfl⟩

theorem settles_or (hAscending : Entries.Ascending (("$or", value) :: rest))
    (hBranches : Settles (Offends "$or" value)
      (fun queries => ∃ branches, value = .array branches ∧ BranchesFaithful branches queries)
      (ofBranches value))
    (hRest : Settles (.keyed Offends rest) (Faithful rest) (ofMembers rest)) :
    Settles (.keyed Offends (("$or", value) :: rest)) (Faithful (("$or", value) :: rest))
      (ofMembers (("$or", value) :: rest)) := by
  rw [ofMembers_or]
  refine hBranches.member hAscending hRest ?_
  rintro queries query ⟨branches, rfl, hQueries⟩ hQuery
  -- no other member is an `$or`, so that the branches are all the alternatives there are
  have hOthers : ∀ member ∈ rest, member.1 ≠ "$or" := by
    intro member hMember hOr
    have hLater : compare "$or" member.1 = .lt := List.rel_of_pairwise_cons hAscending hMember
    rw [hOr] at hLater
    cases hLater
  obtain ⟨fields, rfl⟩ := hQuery.alone hOthers
  refine ⟨?_, fun record => ?_, ?_⟩
  · exact List.forall_mem_cons.mpr
      ⟨.anyOf rfl hQueries.objects hQueries.wellFormed, hQuery.wellFormed⟩
  · unfold Accepts
    rw [List.forall_mem_cons, satisfies_or_iff, holds_addBranches, Bool.and_eq_true, and_comm]
    exact and_congr (hQueries.holds record) (hQuery.holds record)
  · exact fun hNone => absurd rfl (hNone _ List.mem_cons_self)

theorem settles_not_array (h : ∀ branches, value ≠ .array branches) {P : List Query → Prop} :
    Settles (Offends "$or" value) P (.error .orNotArray) := by
  have hFirst : Offences.First (Offends "$or" value) [] .orNotArray := by
    refine ⟨.orNotArray rfl h, fun place reason hOffends => ?_⟩
    generalize hKey : "$or" = key at hOffends
    cases hOffends with
    | orNotArray => exact .inl ⟨rfl, rfl⟩
    | entry | branch => exact absurd rfl (h _)
    | unsupported _ hOr => exact absurd hKey.symm hOr
    | field hPlain =>
      subst hKey
      cases hPlain
  exact .error hFirst

theorem settles_array {branches : List Json}
    (h : Settles (BranchesOffend 0 branches) (BranchesFaithful branches)
      (ofBranchList branches)) :
    Settles (Offends "$or" (.array branches))
      (fun queries => ∃ items, .array branches = Json.array items ∧ BranchesFaithful items queries)
      (ofBranches (.array branches)) := by
  rw [ofBranches]
  exact (h.congr fun _ _ => offends_or_iff.symm).imp fun queries hQueries => ⟨_, rfl, hQueries⟩

/-- What a branch compiles to where it is a query. -/
def BranchFaithful (branch : Json) (query : Query) : Prop :=
  ∃ members, branch = .object members ∧ Faithful members query

theorem settles_not_object {branch : Json} (h : ∀ members, branch ≠ .object members)
    {P : Query → Prop} : Settles (BranchOffends branch) P (.error .orEntryNotObject) := by
  have hFirst : Offences.First (BranchOffends branch) [] .orEntryNotObject := by
    refine ⟨.entry h, fun place reason hOffends => ?_⟩
    cases hOffends with
    | entry => exact .inl ⟨rfl, rfl⟩
    | members => exact absurd rfl (h _)
  exact .error hFirst

theorem settles_object (h : Settles (.keyed Offends members) (Faithful members)
    (ofMembers members)) :
    Settles (BranchOffends (.object members)) (BranchFaithful (.object members))
      (ofBranch (.object members)) := by
  rw [ofBranch]
  refine (h.congr fun place error => ⟨.members, fun hOffends => ?_⟩).imp
    fun query hQuery => ⟨members, rfl, hQuery⟩
  cases hOffends with
  | entry hEntry => exact absurd rfl (hEntry members)
  | members h => exact h

theorem settles_no_branches (start : Nat) :
    Settles (BranchesOffend start []) (BranchesFaithful []) (.ok []) := by
  refine .ok ?_ ⟨by simp, by simp, by simp [anyHolds]⟩
  rintro place error ⟨index, branch, hBranch, -⟩
  simp at hBranch

theorem settles_branch_cons (start : Nat) {branch : Json} {branches : List Json}
    (hBranch : Settles (BranchOffends branch) (BranchFaithful branch) (ofBranch branch))
    (hRest : Settles (BranchesOffend (start + 1) branches) (BranchesFaithful branches)
      (ofBranchList branches)) :
    Settles (BranchesOffend start (branch :: branches)) (BranchesFaithful (branch :: branches))
      (ofBranchList (branch :: branches)) := by
  rw [ofBranchList]
  refine ((hBranch.under (.item start)).seq hRest ?_ (f := List.cons) ?_).congr
    fun _ _ => branchesOffend_cons
  · -- the branches that follow are at later positions
    rintro _ _ _ _ ⟨_, rfl, -⟩ ⟨index, _, -, _, rfl, -⟩
    exact .rel (.item (by omega))
  · rintro query queries ⟨members, rfl, hQuery⟩ hQueries
    refine ⟨?_, ?_, fun record => ?_⟩
    · exact List.forall_mem_cons.mpr ⟨⟨members, rfl⟩, hQueries.objects⟩
    · intro known hKnown
      rcases List.mem_cons.mp hKnown with hEq | hKnown
      · cases hEq
        exact hQuery.wellFormed
      · exact hQueries.wellFormed known hKnown
    · rw [anyHolds, Bool.or_eq_true, hQuery.holds, hQueries.holds]
      constructor
      · rintro (h | ⟨known, hKnown, h⟩)
        · exact ⟨members, List.mem_cons_self, h⟩
        · exact ⟨known, List.mem_cons_of_mem _ hKnown, h⟩
      · rintro ⟨known, hKnown, h⟩
        rcases List.mem_cons.mp hKnown with hEq | hKnown
        · cases hEq
          exact .inl h
        · exact .inr ⟨known, hKnown, h⟩

-- by the recursion of the compiler: members, the value of an `$or`, its branches, one of them
mutual

/-- The members of an object settle. -/
theorem settles_ofMembers : ∀ {members : List (String × Json)}, (Json.object members).Canonical →
    Settles (.keyed Offends members) (Faithful members) (ofMembers members)
  | [], _ => by
    rw [ofMembers]
    exact settles_nil
  | (key, value) :: rest, .object hAscending hInner => by
    obtain ⟨hValue, hOthers⟩ := List.forall_mem_cons.mp hInner
    have hCanonical : (Json.object rest).Canonical :=
      .object (List.Pairwise.of_cons hAscending) hOthers
    have hRest := settles_ofMembers hCanonical
    by_cases hOr : key = "$or"
    · subst hOr
      exact settles_or hAscending (settles_ofBranches hValue) hRest
    by_cases hPaging : key ∈ pagingKeys
    · rw [ofMembers_paging hPaging]
      exact settles_paging hPaging hRest
    cases hKey : Condition.isOperator key with
    | true =>
      rw [ofMembers_unsupported hOr hPaging hKey]
      exact settles_unsupported hOr hPaging hKey hAscending
    | false => exact settles_field hKey hAscending hValue hRest

/-- The value of an `$or` settles. -/
theorem settles_ofBranches : ∀ {value : Json}, value.Canonical →
    Settles (Offends "$or" value)
      (fun queries => ∃ branches, value = .array branches ∧ BranchesFaithful branches queries)
      (ofBranches value)
  | .array _, .array hInner => settles_array (settles_ofBranchList 0 hInner)
  | .null, _ | .bool _, _ | .number _, _ | .string _, _ | .object _, _ => by
    rw [ofBranches]
    · exact settles_not_array (by simp)
    · simp

/-- The branches of an `$or` settle. -/
theorem settles_ofBranchList : ∀ (start : Nat) {branches : List Json},
    (∀ branch ∈ branches, branch.Canonical) →
    Settles (BranchesOffend start branches) (BranchesFaithful branches) (ofBranchList branches)
  | start, [], _ => by
    rw [ofBranchList]
    exact settles_no_branches start
  | start, _ :: _, hInner => by
    obtain ⟨hBranch, hOthers⟩ := List.forall_mem_cons.mp hInner
    exact settles_branch_cons start (settles_ofBranch hBranch)
      (settles_ofBranchList (start + 1) hOthers)

/-- One branch of an `$or` settles. -/
theorem settles_ofBranch : ∀ {branch : Json}, branch.Canonical →
    Settles (BranchOffends branch) (BranchFaithful branch) (ofBranch branch)
  | .object _, hCanonical => settles_object (settles_ofMembers hCanonical)
  | .null, _ | .bool _, _ | .number _, _ | .string _, _ | .array _, _ => by
    rw [ofBranch]
    · exact settles_not_object (by simp)
    · simp

end

end Query

/-! ## The query filter -/

namespace Builtin

theorem compile_query (params : List Json) :
    module.compile "query" params = (query params).mapError .filter := rfl

/-- The filter accepts what is a query, and refuses anything else for the first offence on a walk
of it, depth first and in the order of keys and items. Without a query, or with null, it accepts
every record; what is no object is no query. The predicate of a query never fails, and it accepts
the records that satisfy all members of the query. -/
theorem query_means_its_grammar (params : List Json)
    (hCanonical : ∀ param, params.head? = some param → param.Canonical) :
    (params.head? = none ∨ params.head? = some .null →
      ∃ predicate, module.compile "query" params = .ok predicate ∧ predicate.Pure ∧
        ∀ record, predicate.evaluate record = .ok true) ∧
    (∀ param, params.head? = some param → param ≠ .null → (∀ members, param ≠ .object members) →
      module.compile "query" params =
        .error (.filter (.invalidParams ("query must be an object, got " ++ param.kind)))) ∧
    ∀ members, params.head? = some (.object members) →
      ((∃ predicate, module.compile "query" params = .ok predicate) ↔ Query.WellFormed members) ∧
      (∀ failure, module.compile "query" params = .error failure ↔
        ∃ place error, Query.FirstOffence members place error ∧
          failure = .filter (.invalidParams error.message)) ∧
      ∀ predicate, module.compile "query" params = .ok predicate →
        predicate.Pure ∧ ∀ record, ∃ answer, predicate.evaluate record = .ok answer ∧
          (answer = true ↔ Query.Accepts record members) := by
  rw [compile_query]
  unfold query
  refine ⟨fun hNone => ?_, fun param hHead hNull hObject => ?_, fun members hHead => ?_⟩
  · refine ⟨.always, ?_, Predicate.pure_ofTest _, fun _ => rfl⟩
    rcases hNone with hHead | hHead <;> (rw [hHead]; rfl)
  · rw [hHead]
    cases param with
    | null => exact absurd rfl hNull
    | object members => exact absurd rfl (hObject members)
    | bool | number | string | array => rfl
  · have hSettles := Query.settles_ofMembers (hCanonical _ hHead)
    rw [hHead]
    dsimp only
    generalize Query.ofMembers members = compiled at hSettles
    cases hSettles with
    | @ok query hNone hFaithful =>
      -- it compiled, so that nothing is wrong with it
      refine ⟨⟨fun _ => hFaithful.wellFormed, fun _ => ⟨_, rfl⟩⟩, fun failure => ⟨?_, ?_⟩, ?_⟩
      · intro h
        cases h
      · rintro ⟨place, error, hFirst, -⟩
        exact absurd hFirst.offends (hNone place error)
      · rintro _ ⟨⟩
        exact ⟨Predicate.pure_ofTest _, fun record => ⟨_, rfl, hFaithful.holds record⟩⟩
    | @error place error hFirst =>
      -- it was refused for what is first wrong with it, which only one thing is
      have hRefused := Query.FirstOffence.not_wellFormed hFirst
      refine ⟨⟨?_, fun h => absurd h hRefused⟩, fun failure => ⟨?_, ?_⟩, ?_⟩
      · rintro ⟨predicate, ⟨⟩⟩
      · rintro ⟨⟩
        exact ⟨place, error, hFirst, rfl⟩
      · rintro ⟨late, cause, hLate, rfl⟩
        obtain ⟨rfl, rfl⟩ := hFirst.unique hLate
        rfl
      · intro predicate h
        cases h

/-- A query for high priority or for a team, from some grade on. -/
def sampleMembers : List (String × Json) :=
  [("$limit", .null),
    ("$or", .array [.object [("priority", .string "high")],
      .object [("owner.team", .object [("$in", .array [.string "core"])])]]),
    ("grade", .object [("$gte", .string "b")])]

/-- What is no query, for more than one reason. -/
def faultyMembers : List (String × Json) :=
  [("$or", .array [.object [("grade", .object [("$gt", .string "b"), ("plain", .null)])], .null]),
    ("$where", .string "1")]

theorem query_means_its_grammar_sample :
    Query.WellFormed sampleMembers ∧
    Query.Accepts
      (.object [("grade", .string "c"), ("owner", .object [("team", .string "core")])])
      sampleMembers ∧
    ¬ Query.WellFormed faultyMembers ∧
    ∃ place error, Query.FirstOffence faultyMembers place error ∧
      error.message = "operators cannot be mixed with plain fields" := by
  have hSingle : ∀ key (value : Json), value.Canonical → (Json.object [(key, value)]).Canonical :=
    fun key value h => .object (List.pairwise_singleton _ _) (by simpa using h)
  have hSample : (Json.object sampleMembers).Canonical := by
    have hTeams : (Json.array [.string "core"]).Canonical :=
      .array (by simp [Json.Canonical.string])
    have hBranches : (Json.array [.object [("priority", .string "high")],
        .object [("owner.team", .object [("$in", .array [.string "core"])])]]).Canonical :=
      .array (by simp [hSingle, hTeams, Json.Canonical.string])
    refine .object (by unfold sampleMembers Entries.Ascending; decide) ?_
    simp [sampleMembers, hSingle, hBranches, Json.Canonical.null, Json.Canonical.string]
  have hFaulty : (Json.object faultyMembers).Canonical := by
    have hMixed : (Json.object [("$gt", .string "b"), ("plain", .null)]).Canonical :=
      .object (by unfold Entries.Ascending; decide)
        (by simp [Json.Canonical.null, Json.Canonical.string])
    have hBranches : (Json.array [.object [("grade",
        .object [("$gt", .string "b"), ("plain", .null)])], .null]).Canonical :=
      .array (by simp [hSingle, hMixed, Json.Canonical.null])
    refine .object (by unfold faultyMembers Entries.Ascending; decide) ?_
    simp [faultyMembers, hBranches, Json.Canonical.string]
  obtain ⟨-, -, hSampleMeans⟩ := query_means_its_grammar [.object sampleMembers]
    (by rintro _ ⟨⟩; exact hSample)
  obtain ⟨-, -, hFaultyMeans⟩ := query_means_its_grammar [.object faultyMembers]
    (by rintro _ ⟨⟩; exact hFaulty)
  obtain ⟨hCompiles, -, hHolds⟩ := hSampleMeans sampleMembers rfl
  obtain ⟨hRefused, hFirst, -⟩ := hFaultyMeans faultyMembers rfl
  refine ⟨hCompiles.mp ⟨_, rfl⟩, ?_, fun hWellFormed => ?_, ?_⟩
  · obtain ⟨-, hRecords⟩ := hHolds _ rfl
    obtain ⟨answer, hAnswer, hAccepts⟩ := hRecords
      (.object [("grade", .string "c"), ("owner", .object [("team", .string "core")])])
    refine hAccepts.mp ?_
    cases hAnswer
    rfl
  · obtain ⟨predicate, hCompile⟩ := hRefused.mpr hWellFormed
    cases hCompile
  · obtain ⟨place, error, hPlace, hError⟩ := (hFirst _).mp rfl
    have hMessage : QueryError.mixedOperators.message = error.message := by simpa using hError
    exact ⟨place, error, hPlace, hMessage.symm⟩

end Builtin

end Fanout
