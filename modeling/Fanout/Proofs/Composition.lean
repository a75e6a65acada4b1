import Fanout.Proofs.Selection

/-!
# Fanout — how queries compose

Queries form a boolean algebra. An object whose members come from two others is the
conjunction of these, and an `$or` is the disjunction of its branches, so that what can
be said of one and of the other carries over: a branch that is an `$or` itself can be
spread out, and neither the order of branches nor how often one of them is listed
matters. Keys that page results play no part, wherever they stand.

A disjunction is followed through the compiler, branch by branch. A conjunction is
not: merging puts the members of both objects in the order of their keys, and it is
the grammar of queries that does not mind the order.

## Main definitions

* `Builtin.Interchangeable` — two queries that compile together and answer alike.
* `Builtin.Conjunction` — a query that stands for two others.
* `Builtin.anyOf` — the query with an `$or` and nothing else.
* `Query.Paged` — an object with paging keys added, in it or in branches at any depth.

## Results

* `Builtin.answers_object_iff`, `Builtin.answers_anyOf_iff` — objects and disjunctions.
* `Entries.foldl_insert_perm` — the members of a merged object.
* `Query.Paged.ofMembers_eq` — what pages a query is not compiled.
* `Builtin.queries_compose` — the laws.
-/

namespace Fanout

-- ---------------------------------------------------------------------------
-- Members of a merged object
-- ---------------------------------------------------------------------------

namespace Entries

variable {κ : Type} {α : Type} [Ord κ] [Std.LawfulEqOrd κ] {key : κ} {value : α}
  {entries added start : List (κ × α)}

/-- A fresh key is added to the others. -/
theorem insert_perm (value : α) (hFresh : key ∉ entries.map Prod.fst) :
    (insert key value entries).Perm ((key, value) :: entries) := by
  induction entries with
  | nil => exact .refl _
  | cons first rest ih =>
    obtain ⟨k, old⟩ := first
    rw [List.map_cons, List.mem_cons, not_or] at hFresh
    rw [insert]
    split
    · exact .refl _
    · rename_i hSame
      exact absurd (Std.LawfulEqCmp.eq_of_compare hSame) hFresh.1
    · exact ((ih hFresh.2).cons _).trans (.swap _ _ _)

/-- Members with keys of their own are all kept when they are put together. -/
theorem foldl_insert_perm (hDistinct : ((added ++ start).map Prod.fst).Nodup) :
    (added.foldl (fun acc member => insert member.1 member.2 acc) start).Perm
      (added ++ start) := by
  induction added generalizing start with
  | nil => exact .refl _
  | cons first rest ih =>
    obtain ⟨key, value⟩ := first
    -- the first one goes in among those that are there, and the others after it
    have hFresh : key ∉ start.map Prod.fst := by
      rw [List.cons_append, List.map_cons, List.nodup_cons, List.map_append] at hDistinct
      exact fun hMem => hDistinct.1 (List.mem_append_right _ hMem)
    have hMoved : (rest ++ insert key value start).Perm ((key, value) :: rest ++ start) :=
      ((insert_perm value hFresh).append_left rest).trans List.perm_middle
    exact (ih ((hMoved.map Prod.fst).nodup_iff.mpr hDistinct)).trans hMoved

end Entries

namespace Json.Canonical

variable {members : List (String × Json)}

theorem keys_nodup (h : (Json.object members).Canonical) : (members.map Prod.fst).Nodup := by
  cases h with
  | object hAscending => exact List.pairwise_map.mpr (Entries.Ascending.distinct hAscending)

theorem inner {member : String × Json} (h : (Json.object members).Canonical)
    (hMember : member ∈ members) : member.2.Canonical := by
  cases h with
  | object _ hInner => exact hInner member hMember

end Json.Canonical

-- ---------------------------------------------------------------------------
-- Paging keys
-- ---------------------------------------------------------------------------

namespace Query

variable {key : String} {value : Json} {members paged inner : List (String × Json)}

/-- Paging keys added to an object, or to branches of an `$or` in it, at any depth. -/
inductive Paged : List (String × Json) → List (String × Json) → Prop
  | refl (members : List (String × Json)) : Paged members members
  | add {key : String} (hKey : key ∈ pagingKeys) (value : Json) (members : List (String × Json)) :
      Paged members (Entries.insert key value members)
  | branch {inner paged : List (String × Json)} (before after : List Json)
      (first rest : List (String × Json)) (h : Paged inner paged) :
      Paged (first ++ ("$or", .array (before ++ .object inner :: after)) :: rest)
        (first ++ ("$or", .array (before ++ .object paged :: after)) :: rest)
  | trans {members some more : List (String × Json)} (hFirst : Paged members some)
      (hSecond : Paged some more) : Paged members more

/-- A member more in front of two objects that compile alike. -/
theorem ofMembers_cons_congr (key : String) (value : Json) {rest others : List (String × Json)}
    (h : ofMembers rest = ofMembers others) :
    ofMembers ((key, value) :: rest) = ofMembers ((key, value) :: others) := by
  rw [ofMembers, ofMembers, h]

theorem ofMembers_append_congr (first : List (String × Json)) {rest others : List (String × Json)}
    (h : ofMembers rest = ofMembers others) :
    ofMembers (first ++ rest) = ofMembers (first ++ others) := by
  induction first with
  | nil => exact h
  | cons member first ih => exact ofMembers_cons_congr member.1 member.2 ih

theorem ofBranchList_congr (before after : List Json) {branch other : Json}
    (h : ofBranch branch = ofBranch other) :
    ofBranchList (before ++ branch :: after) = ofBranchList (before ++ other :: after) := by
  induction before with
  | nil => rw [List.nil_append, List.nil_append, ofBranchList, ofBranchList, h]
  | cons first before ih =>
    rw [List.cons_append, List.cons_append, ofBranchList, ofBranchList, ih]

theorem ofMembers_insert_paging (hKey : key ∈ pagingKeys) (value : Json)
    (members : List (String × Json)) :
    ofMembers (Entries.insert key value members) = ofMembers members := by
  induction members with
  | nil => exact ofMembers_paging hKey value
  | cons member rest ih =>
    obtain ⟨other, old⟩ := member
    rw [Entries.insert]
    split
    · exact ofMembers_paging hKey value
    · -- what is replaced is a paging key as well
      rename_i hSame
      have hOther : other ∈ pagingKeys := Std.LawfulEqCmp.eq_of_compare hSame ▸ hKey
      rw [ofMembers_paging hKey, ofMembers_paging hOther]
    · exact ofMembers_cons_congr other old ih

/-- What pages a query is not compiled. -/
theorem Paged.ofMembers_eq (h : Paged members paged) : ofMembers members = ofMembers paged := by
  induction h with
  | refl => rfl
  | add hKey value members => exact (ofMembers_insert_paging hKey value members).symm
  | @branch inner paged before after first rest _ ih =>
    have hBranch : ofBranch (.object inner) = ofBranch (.object paged) := by
      rw [ofBranch, ofBranch, ih]
    refine ofMembers_append_congr first ?_
    rw [ofMembers_or, ofMembers_or, ofBranches, ofBranches,
      ofBranchList_congr before after hBranch]
  | trans _ _ ihFirst ihSecond => exact ihFirst.trans ihSecond

/-! ### Branches one by one -/

/-- Branches compile where each of them does. -/
theorem ofBranchList_objects_iff {branches : List (List (String × Json))} :
    (∃ queries, ofBranchList (branches.map .object) = .ok queries) ↔
      ∀ members ∈ branches, ∃ query, ofMembers members = .ok query := by
  induction branches with
  | nil => simp [ofBranchList]
  | cons members rest ih =>
    rw [List.forall_mem_cons, ← ih, List.map_cons, ofBranchList, ofBranch]
    cases ofMembers members with
    | error => simp [bind, Except.bind]
    | ok query =>
      cases ofBranchList (rest.map .object) with
      | error => simp [bind, Except.bind]
      | ok queries => simp [bind, Except.bind, pure, Except.pure]

/-- Once they are compiled, one of them holds where one of the branches does. -/
theorem anyHolds_objects_iff {branches : List (List (String × Json))} {queries : List Query}
    (h : ofBranchList (branches.map .object) = .ok queries) (record : Json) :
    anyHolds record queries = true ↔
      ∃ members ∈ branches, ∃ query, ofMembers members = .ok query ∧ query.holds record = true := by
  induction branches generalizing queries with
  | nil =>
    cases h
    simp [anyHolds]
  | cons members rest ih =>
    rw [List.map_cons, ofBranchList, ofBranch] at h
    cases hMembers : ofMembers members with
    | error =>
      rw [hMembers] at h
      cases h
    | ok query =>
      cases hRest : ofBranchList (rest.map .object) with
      | error =>
        rw [hMembers, hRest] at h
        cases h
      | ok others =>
        rw [hMembers, hRest] at h
        cases h
        rw [anyHolds, Bool.or_eq_true, ih hRest]
        simp [hMembers]

end Query

namespace Builtin

open Json (only)

variable {members : List (String × Json)} {branches others : List (List (String × Json))}
  {record : Json} {answer : Bool}

-- ---------------------------------------------------------------------------
-- Disjunctions
-- ---------------------------------------------------------------------------

/-- The query with an `$or` and nothing else. -/
def anyOf (branches : List (List (String × Json))) : Json :=
  only "$or" (.array (branches.map .object))

theorem ofMembers_anyOf (branches : List (List (String × Json))) :
    Query.ofMembers [("$or", .array (branches.map .object))] =
      (Query.ofBranchList (branches.map .object)).map (fun queries => .mk [] (some queries)) := by
  rw [Query.ofMembers_or, Query.ofBranches]
  cases Query.ofBranchList (branches.map .object) <;> rfl

/-- A disjunction compiles where all its branches do. -/
theorem compiles_anyOf_iff : Compiles "query" (anyOf branches) ↔
    ∀ members ∈ branches, Compiles "query" (.object members) := by
  unfold anyOf only
  simp only [compiles_query_iff]
  rw [← Query.ofBranchList_objects_iff, ofMembers_anyOf]
  cases Query.ofBranchList (branches.map .object) <;> simp [Except.map]

/-- Where it compiles it selects what one of its branches selects. -/
theorem answers_anyOf_iff : Answers "query" (anyOf branches) record answer ↔
    (∀ members ∈ branches, Compiles "query" (.object members)) ∧
      (answer = true ↔ ∃ members ∈ branches, Selects "query" (.object members) record) := by
  rw [← compiles_anyOf_iff]
  unfold anyOf only
  simp only [compiles_query_iff, answers_query_iff]
  rw [ofMembers_anyOf]
  cases hCompile : Query.ofBranchList (branches.map .object) with
  | error => simp [Except.map]
  | ok queries =>
    rw [← Query.anyHolds_objects_iff hCompile record, ← Bool.eq_iff_iff]
    simp [Except.map, Query.holds, eq_comm]

/-- Two queries that compile together, and give the same answers. -/
structure Interchangeable (first second : Json) : Prop where
  compiles : Compiles "query" first ↔ Compiles "query" second
  answers : ∀ record answer,
    Answers "query" first record answer ↔ Answers "query" second record answer

theorem selects_anyOf_iff : Selects "query" (anyOf branches) record ↔
    (∀ members ∈ branches, Compiles "query" (.object members)) ∧
      ∃ members ∈ branches, Selects "query" (.object members) record := by
  refine answers_anyOf_iff.trans ?_
  rw [eq_self, true_iff]

/-- Disjunctions are interchangeable if their branches compile together, and where they do select
the same records. -/
theorem interchangeable_anyOf
    (hCompile : (∀ members ∈ branches, Compiles "query" (.object members)) ↔
      ∀ members ∈ others, Compiles "query" (.object members))
    (hSelect : (∀ members ∈ branches, Compiles "query" (.object members)) → ∀ record,
      (∃ members ∈ branches, Selects "query" (.object members) record) ↔
        ∃ members ∈ others, Selects "query" (.object members) record) :
    Interchangeable (anyOf branches) (anyOf others) := by
  constructor
  · rw [compiles_anyOf_iff, compiles_anyOf_iff, hCompile]
  · intro record answer
    -- where the branches do not compile there is no answer on either side
    rw [answers_anyOf_iff, answers_anyOf_iff, ← hCompile]
    exact and_congr_right (fun hAll => by rw [hSelect hAll])

/-- A disjunction among the branches of another one is spread out. -/
theorem interchangeable_spread (before inner after : List (List (String × Json))) :
    Interchangeable
      (anyOf (before ++ [[("$or", .array (inner.map .object))]] ++ after))
      (anyOf (before ++ inner ++ after)) := by
  have hBranch : Json.object [("$or", .array (inner.map .object))] = anyOf inner := rfl
  have hCompile : (∀ members ∈ before ++ [[("$or", .array (inner.map .object))]] ++ after,
        Compiles "query" (.object members)) ↔
      ∀ members ∈ before ++ inner ++ after, Compiles "query" (.object members) := by
    simp only [List.mem_append, List.mem_singleton, or_imp, forall_and, forall_eq, hBranch,
      compiles_anyOf_iff]
  refine interchangeable_anyOf hCompile (fun hAll record => ?_)
  -- the disjunction inside compiles, so that it selects what one of its branches does
  have hInner : ∀ members ∈ inner, Compiles "query" (.object members) := fun members hMem =>
    hCompile.mp hAll members (List.mem_append_left _ (List.mem_append_right _ hMem))
  have hSelects : Selects "query" (anyOf inner) record ↔
      ∃ members ∈ inner, Selects "query" (.object members) record :=
    selects_anyOf_iff.trans (and_iff_right hInner)
  simp only [List.mem_append, List.mem_singleton, or_and_right, exists_or, exists_eq_left, hBranch,
    hSelects]

/-- One branch alone. -/
theorem interchangeable_single (members : List (String × Json)) :
    Interchangeable (anyOf [members]) (.object members) := by
  constructor
  · rw [compiles_anyOf_iff, List.forall_mem_singleton]
  · intro record answer
    rw [answers_anyOf_iff, answers_iff_selects, List.forall_mem_singleton]
    simp only [List.mem_singleton, exists_eq_left]

-- ---------------------------------------------------------------------------
-- Conjunctions
-- ---------------------------------------------------------------------------

/-- A query that is the conjunction of two others. -/
structure Conjunction (whole first second : Json) : Prop where
  compiles : Compiles "query" whole ↔ Compiles "query" first ∧ Compiles "query" second
  answers : ∀ {record left right}, Answers "query" first record left →
    Answers "query" second record right → Answers "query" whole record (left && right)

/-- An object compiles where it is a query. -/
theorem compiles_object_iff (hCanonical : (Json.object members).Canonical) :
    Compiles "query" (.object members) ↔ Query.WellFormed members := by
  rw [compiles_query_iff]
  have hSettles := Query.settles_ofMembers hCanonical
  generalize Query.ofMembers members = compiled at hSettles
  cases hSettles with
  | ok _ hFaithful => simp [hFaithful.wellFormed]
  | error hFirst => simp [Query.FirstOffence.not_wellFormed hFirst]

/-- Where it is a query it selects what satisfies its members. -/
theorem answers_object_iff (hCanonical : (Json.object members).Canonical) :
    Answers "query" (.object members) record answer ↔
      Query.WellFormed members ∧ (answer = true ↔ Query.Accepts record members) := by
  rw [answers_query_iff]
  have hSettles := Query.settles_ofMembers hCanonical
  generalize Query.ofMembers members = compiled at hSettles
  cases hSettles with
  | ok _ hFaithful =>
    rw [← hFaithful.holds record, ← Bool.eq_iff_iff]
    simp [hFaithful.wellFormed, eq_comm]
  | error hFirst => simp [Query.FirstOffence.not_wellFormed hFirst]

/-- An object that has the members of two others is their conjunction. -/
theorem conjunction_of_members {whole left right : List (String × Json)}
    (hWhole : (Json.object whole).Canonical) (hLeft : (Json.object left).Canonical)
    (hRight : (Json.object right).Canonical)
    (hMembers : ∀ member, member ∈ whole ↔ member ∈ left ∨ member ∈ right) :
    Conjunction (.object whole) (.object left) (.object right) := by
  -- the grammar asks something of every member, whatever the order of members
  have hWellFormed : Query.WellFormed whole ↔ Query.WellFormed left ∧ Query.WellFormed right := by
    unfold Query.WellFormed
    simp only [hMembers, or_imp, forall_and]
  have hAccepts : ∀ record, Query.Accepts record whole ↔
      Query.Accepts record left ∧ Query.Accepts record right := by
    intro record
    unfold Query.Accepts
    simp only [hMembers, or_imp, forall_and]
  constructor
  · rw [compiles_object_iff hWhole, compiles_object_iff hLeft, compiles_object_iff hRight]
    exact hWellFormed
  · intro record first second hFirst hSecond
    obtain ⟨hLeftFormed, hLeftAccepts⟩ := (answers_object_iff hLeft).mp hFirst
    obtain ⟨hRightFormed, hRightAccepts⟩ := (answers_object_iff hRight).mp hSecond
    refine (answers_object_iff hWhole).mpr ⟨hWellFormed.mpr ⟨hLeftFormed, hRightFormed⟩, ?_⟩
    rw [Bool.and_eq_true, hLeftAccepts, hRightAccepts, hAccepts]

/-- Two objects without a key in common, merged. -/
theorem conjunction_of_disjoint {left right : List (String × Json)}
    (hLeft : (Json.object left).Canonical) (hRight : (Json.object right).Canonical)
    (hDisjoint : ∀ key ∈ left.map Prod.fst, key ∉ right.map Prod.fst) :
    Conjunction (Json.ofMembers (left ++ right)) (.object left) (.object right) := by
  have hInner : ∀ member ∈ left ++ right, member.2.Canonical := by
    intro member hMember
    rcases List.mem_append.mp hMember with hMember | hMember
    · exact hLeft.inner hMember
    · exact hRight.inner hMember
  have hDistinct : ((left ++ right ++ []).map Prod.fst).Nodup := by
    rw [List.append_nil, List.map_append, List.nodup_append]
    refine ⟨hLeft.keys_nodup, hRight.keys_nodup, ?_⟩
    rintro key hKey _ hOther rfl
    exact hDisjoint key hKey hOther
  refine conjunction_of_members (Json.canonical_ofMembers hInner) hLeft hRight (fun member => ?_)
  rw [(Entries.foldl_insert_perm hDistinct).mem_iff, List.append_nil, List.mem_append]

/-- Where one part of a conjunction is interchangeable with another query, so is the whole. -/
theorem Conjunction.interchangeable {whole other : Json}
    {left right replaced : List (String × Json)}
    (h : Conjunction whole (.object left) (.object right))
    (hOther : Conjunction other (.object left) (.object replaced))
    (hSame : Interchangeable (.object right) (.object replaced)) : Interchangeable whole other := by
  have hCompile : Compiles "query" whole ↔ Compiles "query" other := by
    rw [h.compiles, hOther.compiles, hSame.compiles]
  refine ⟨hCompile, fun record answer => ?_⟩
  by_cases hWhole : Compiles "query" whole
  · -- both answer what the left part and the replaced one answer
    obtain ⟨hLeft, hRight⟩ := h.compiles.mp hWhole
    obtain ⟨first, hFirst⟩ := exists_answers hLeft record
    obtain ⟨second, hSecond⟩ := exists_answers hRight record
    have hAnswer := h.answers hFirst hSecond
    have hOtherAnswer := hOther.answers hFirst ((hSame.answers record second).mp hSecond)
    constructor
    · intro hGiven
      exact hGiven.unique hAnswer ▸ hOtherAnswer
    · intro hGiven
      exact hGiven.unique hOtherAnswer ▸ hAnswer
  · constructor
    · rintro ⟨predicate, hPredicate, -⟩
      exact absurd ⟨predicate, hPredicate⟩ hWhole
    · rintro ⟨predicate, hPredicate, -⟩
      exact absurd (hCompile.mpr ⟨predicate, hPredicate⟩) hWhole

/-- A disjunction beside other members is replaced by one that is interchangeable with it. -/
theorem interchangeable_beside {members : List (String × Json)}
    (hCanonical : (Json.object members).Canonical) (hBranches : (anyOf branches).Canonical)
    (hOthers : (anyOf others).Canonical) (hNone : "$or" ∉ members.map Prod.fst)
    (hSame : Interchangeable (anyOf branches) (anyOf others)) :
    Interchangeable (Json.ofMembers (members ++ [("$or", .array (branches.map .object))]))
      (Json.ofMembers (members ++ [("$or", .array (others.map .object))])) := by
  have hDisjoint : ∀ value : Json, ∀ key ∈ members.map Prod.fst,
      key ∉ [("$or", value)].map Prod.fst := by
    intro value key hKey hOr
    obtain rfl : key = "$or" := by simpa using hOr
    exact hNone hKey
  exact (conjunction_of_disjoint hCanonical hBranches (hDisjoint _)).interchangeable
    (conjunction_of_disjoint hCanonical hOthers (hDisjoint _)) hSame

-- ---------------------------------------------------------------------------
-- The laws
-- ---------------------------------------------------------------------------

/-- The laws of queries: objects without a key in common are merged to their conjunction, a branch
that is an `$or` is spread out, branches count as a set, one branch alone is itself, and paging keys
make no difference. Queries that are interchangeable are so as branches of an `$or`, and an `$or` is
so beside other members. -/
theorem queries_compose :
    (∀ left right, (Json.object left).Canonical → (Json.object right).Canonical →
      (∀ key ∈ left.map Prod.fst, key ∉ right.map Prod.fst) →
      Conjunction (Json.ofMembers (left ++ right)) (.object left) (.object right)) ∧
    (∀ before inner after,
      Interchangeable
        (anyOf (before ++ [[("$or", .array (inner.map .object))]] ++ after))
        (anyOf (before ++ inner ++ after))) ∧
    (∀ branches others : List (List (String × Json)),
      (∀ members, members ∈ branches ↔ members ∈ others) →
      Interchangeable (anyOf branches) (anyOf others)) ∧
    (∀ members, Interchangeable (anyOf [members]) (.object members)) ∧
    (∀ members paged, Query.Paged members paged →
      module.compile "query" [.object members] = module.compile "query" [.object paged]) ∧
    (∀ before first second after, Interchangeable (.object first) (.object second) →
      Interchangeable (anyOf (before ++ first :: after)) (anyOf (before ++ second :: after))) ∧
    ∀ members branches others, (Json.object members).Canonical → (anyOf branches).Canonical →
      (anyOf others).Canonical → "$or" ∉ members.map Prod.fst →
      Interchangeable (anyOf branches) (anyOf others) →
      Interchangeable (Json.ofMembers (members ++ [("$or", .array (branches.map .object))]))
        (Json.ofMembers (members ++ [("$or", .array (others.map .object))])) := by
  refine ⟨fun left right => conjunction_of_disjoint, interchangeable_spread,
    fun branches others hSame => ?_, interchangeable_single, fun members paged h => ?_,
    fun before first second after h => ?_, fun members branches others => interchangeable_beside⟩
  · refine interchangeable_anyOf ?_ (fun _ record => ?_)
    · simp only [hSame]
    · simp only [hSame]
  · rw [compile_object, compile_object, h.ofMembers_eq]
  · refine interchangeable_anyOf ?_ (fun _ record => ?_)
    · simp only [List.mem_append, List.mem_cons, or_imp, forall_and, forall_eq, h.compiles]
    · simp only [List.mem_append, List.mem_cons, or_and_right, exists_or, exists_eq_left,
        h.answers]

/-- A query for records from some grade on. -/
def gradeMembers : List (String × Json) := [("grade", .object [("$gte", .string "b")])]

/-- High priority, or one team. -/
def urgentBranches : List (List (String × Json)) :=
  [[("priority", .string "high")], [("team", .string "core")]]

/-- The query with these branches. -/
def urgentMembers : List (String × Json) := [("$or", .array (urgentBranches.map .object))]

theorem queries_compose_sample :
    Conjunction (Json.ofMembers (gradeMembers ++ urgentMembers)) (.object gradeMembers)
      (.object urgentMembers) ∧
    Interchangeable (anyOf [gradeMembers, urgentMembers, gradeMembers])
      (anyOf [urgentMembers, gradeMembers]) ∧
    module.compile "query" [.object gradeMembers] =
      module.compile "query" [.object (Entries.insert "$limit" .null gradeMembers)] ∧
    Interchangeable (anyOf [[("$or", .array [.object gradeMembers])], urgentMembers])
      (anyOf [gradeMembers, urgentMembers]) ∧
    Interchangeable
      (Json.ofMembers (gradeMembers ++ [("$or", .array (urgentBranches.map .object))]))
      (Json.ofMembers
        (gradeMembers ++ [("$or", .array (urgentBranches.reverse.map .object))])) := by
  have hSingle : ∀ key (value : Json), value.Canonical → (Json.object [(key, value)]).Canonical :=
    fun key value h => .object (List.pairwise_singleton _ _) (by simpa using h)
  have hGrade : (Json.object gradeMembers).Canonical := hSingle _ _ (hSingle _ _ (.string _))
  have hUrgent : (anyOf urgentBranches).Canonical :=
    hSingle _ _ (.array (by simp [urgentBranches, hSingle, Json.Canonical.string]))
  have hReversed : (anyOf urgentBranches.reverse).Canonical :=
    hSingle _ _ (.array (by simp [urgentBranches, hSingle, Json.Canonical.string]))
  obtain ⟨hMerge, -, hSet, hAlone, hPaging, hBranch, hBeside⟩ := queries_compose
  refine ⟨hMerge _ _ hGrade hUrgent (by decide), hSet _ _ (fun members => ?_),
    hPaging _ _ (.add (by decide) _ _), hBranch [] _ _ [urgentMembers] (hAlone gradeMembers),
    hBeside _ _ _ hGrade hUrgent hReversed (by decide) (hSet _ _ fun members => ?_)⟩
  · simp only [List.mem_cons, List.not_mem_nil, or_false]
    tauto
  · exact List.mem_reverse.symm

end Builtin

end Fanout
