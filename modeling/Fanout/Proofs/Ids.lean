import Fanout.Proofs.Equality
import Fanout.Proofs.Paths

/-!
# Fanout — ids and queries

To be among the ids listed can be said by a query as well, with `$in` on the field of
the id. The two are written apart: ids look for the field themselves and compare what
is listed with what is found, and a query walks a path and compares the other way
round. They come to the same since loose equality is symmetric, and since a name
without dots is a path of one step.

Which of two fields has the id is the one thing that a query cannot say. It is `id`
wherever that is a member, with null as well as with any other value.

## Main definitions

* `Json.HasMember`, `Json.LacksMember` — an object with and without a member under a key.
* `Builtin.QueriedById` — a query for the id of a record selects it.

## Results

* `Builtin.selects_within_iff` — `$in` on a field without dots.
* `Builtin.idOf?_of_has`, `Builtin.idOf?_of_lacks` — which field the id is in.
* `Builtin.ids_agree_with_query` — ids answer as the query does.
-/

namespace Fanout

namespace Json

/-- An object with a member under a key. -/
def HasMember (record : Json) (key : String) : Prop :=
  ∃ members, record = .object members ∧ key ∈ members.map Prod.fst

/-- An object without a member under a key. -/
def LacksMember (record : Json) (key : String) : Prop :=
  ∃ members, record = .object members ∧ key ∉ members.map Prod.fst

variable {record : Json} {key : String}

theorem hasMember_iff : record.HasMember key ↔ (record.get? key).isSome := by
  cases record with
  | object members =>
    show _ ↔ (Entries.find? key members).isSome
    rw [Entries.find?_isSome_iff]
    simp [HasMember]
  | null | bool | number | string | array => simp [HasMember, get?]

theorem LacksMember.get?_eq (h : record.LacksMember key) : record.get? key = none := by
  obtain ⟨members, rfl, hKey⟩ := h
  refine get?_eq_none_iff.mpr (fun others hOthers => ?_)
  cases hOthers
  exact hKey

/-- What has some member either has a given one too or lacks it. -/
theorem lacksMember_of_get? {other : String} {value : Json} (hFound : record.get? other = some value)
    (hNone : record.get? key = none) : record.LacksMember key := by
  obtain ⟨members, rfl, -⟩ := get?_eq_some_iff.mp hFound
  exact ⟨members, rfl, get?_eq_none_iff.mp hNone members rfl⟩

end Json

namespace Builtin

open Json (only)

variable {field : String} {record : Json} {items : List Json}

/-- A record is among those listed by a query for its id: for `id` where it has that member, and
otherwise for `_id`. -/
inductive QueriedById (items : List Json) (record : Json) : Prop
  | own (hHas : record.HasMember "id")
      (h : Selects "query" (operation "id" "$in" (.array items)) record)
  | fallback (hLacks : record.LacksMember "id")
      (h : Selects "query" (operation "_id" "$in" (.array items)) record)

/-- On a field without dots, `$in` asks for a member that is listed. -/
theorem selects_within_iff (hField : Condition.isOperator field = false)
    (hUndotted : '.' ∉ field.toList) :
    Selects "query" (operation field "$in" (.array items)) record ↔
      ∃ value, record.get? field = some value ∧ items.any (·.looselyEquals value) = true := by
  have hReach : record.reach? (path field) = record.get? field := by
    rw [path_of_undotted hUndotted, Json.reach?]
    cases record.get? field <;> rfl
  refine (answers_only_iff hField (ofConstraint_operator rfl rfl)).trans ?_
  rw [hReach]
  cases record.get? field with
  | none => simp [Condition.holds]
  | some value =>
    -- the query compares what is found with what is listed
    have hSwap : items.any (value.looselyEquals ·) = items.any (·.looselyEquals value) := by
      simp only [Json.looselyEquals_comm value]
    simp [Condition.holds, hSwap]

theorem idOf?_of_has (h : record.HasMember "id") : idOf? record = record.get? "id" := by
  obtain ⟨id, hId⟩ := Option.isSome_iff_exists.mp (Json.hasMember_iff.mp h)
  unfold idOf?
  rw [hId]
  rfl

theorem idOf?_of_lacks (h : record.LacksMember "id") : idOf? record = record.get? "_id" := by
  unfold idOf?
  rw [h.get?_eq]
  rfl

/-- The id of a record is listed where the query for it selects the record. -/
theorem listed_iff_queried :
    (idOf? record).any (fun id => items.any (·.looselyEquals id)) = true ↔
      QueriedById items record := by
  rw [Option.any_eq_true]
  constructor
  · rintro ⟨id, hId, hListed⟩
    -- where there is an id, it is in one of the two fields
    cases hOwn : record.get? "id" with
    | some own =>
      have hHas : record.HasMember "id" := Json.hasMember_iff.mpr (by simp [hOwn])
      rw [idOf?_of_has hHas] at hId
      exact .own hHas ((selects_within_iff (by decide) (by decide)).mpr ⟨id, hId, hListed⟩)
    | none =>
      have hOther : record.get? "_id" = some id := by
        unfold idOf? at hId
        rwa [hOwn] at hId
      exact .fallback (Json.lacksMember_of_get? hOther hOwn)
        ((selects_within_iff (by decide) (by decide)).mpr ⟨id, hOther, hListed⟩)
  · rintro (⟨hHas, h⟩ | ⟨hLacks, h⟩)
    · rw [idOf?_of_has hHas]
      exact (selects_within_iff (by decide) (by decide)).mp h
    · rw [idOf?_of_lacks hLacks]
      exact (selects_within_iff (by decide) (by decide)).mp h

/-- Ids compile with any params, to a test of the id against those listed. -/
theorem compile_ids (params : List Json) :
    module.compile "ids" params = .ok (Predicate.ofTest (fun record =>
      (idOf? record).any (fun id => (idList params.head?).any (·.looselyEquals id)))) := by
  have hCompile : module.compile "ids" params = (ids params).mapError .filter := rfl
  rw [hCompile]
  unfold ids
  dsimp only [Except.mapError]
  congr 2
  funext record
  cases idOf? record <;> rfl

/-- A filter compiles, with these params, to a predicate that answers every record without acting,
and selects those of which something is true. -/
def Decided (name : String) (params : List Json) (P : Json → Prop) : Prop :=
  ∃ predicate, module.compile name params = .ok predicate ∧ predicate.Pure ∧
    ∀ record, ∃ answer, predicate.evaluate record = .ok answer ∧ (answer = true ↔ P record)

/-- What it answers is what is true. -/
theorem Decided.answers_iff {name : String} {param : Json} {P : Json → Prop} {answer : Bool}
    (h : Decided name [param] P) : Answers name param record answer ↔ (answer = true ↔ P record) := by
  obtain ⟨predicate, hCompile, -, hAnswers⟩ := h
  obtain ⟨given, hGiven, hIff⟩ := hAnswers record
  unfold Answers
  rw [hCompile, ← hIff, ← Bool.eq_iff_iff]
  simp [hGiven, eq_comm]

theorem decided_ids (params : List Json) :
    Decided "ids" params (QueriedById (idList params.head?)) :=
  ⟨_, compile_ids params, Predicate.pure_ofTest _, fun _ => ⟨_, rfl, listed_iff_queried⟩⟩

/-- Ids answer as a query with `$in` does for the field that has the id of a record, and never fail.
A single id is taken for a list of one, and without any, or with null, there is nothing to select. -/
theorem ids_agree_with_query :
    (∀ items rest, Decided "ids" (.array items :: rest) (QueriedById items)) ∧
    (∀ param rest, param ≠ .null → (∀ items, param ≠ .array items) →
      module.compile "ids" (param :: rest) = module.compile "ids" (.array [param] :: rest)) ∧
    ∀ params, params.head? = none ∨ params.head? = some .null →
      Decided "ids" params (fun _ => False) := by
  refine ⟨fun items rest => decided_ids _, fun param rest hNull hArray => ?_,
    fun params hNone => ?_⟩
  · have hList : idList (some param) = [param] := by
      cases param with
      | null => exact absurd rfl hNull
      | array items => exact absurd rfl (hArray items)
      | bool | number | string | object => rfl
    rw [compile_ids, compile_ids, List.head?_cons, List.head?_cons, hList]
    rfl
  · have hList : idList params.head? = [] := by
      rcases hNone with hHead | hHead <;> rw [hHead] <;> rfl
    obtain ⟨predicate, hCompile, hPure, hAnswers⟩ := decided_ids params
    refine ⟨predicate, hCompile, hPure, fun record => ?_⟩
    obtain ⟨answer, hAnswer, hIff⟩ := hAnswers record
    refine ⟨answer, hAnswer, hIff.trans ?_⟩
    -- nothing is among no ids
    rw [hList, ← listed_iff_queried]
    simp

/-- A single id finds a record that has it as `_id`, but not where there is a null `id` as well. -/
theorem ids_agree_with_query_single :
    Json.string "abc" ≠ .null ∧ (∀ items, Json.string "abc" ≠ .array items) ∧
      module.compile "ids" [.string "abc"] = module.compile "ids" [.array [.string "abc"]] ∧
      Selects "ids" (.array [.string "abc"]) (only "_id" (.string "abc")) ∧
      Rejects "ids" (.array [.string "abc"])
        (.object [("_id", .string "abc"), ("id", .null)]) ∧
      Decided "ids" [.null] (fun _ => False) := by
  obtain ⟨hLists, hSingle, hNone⟩ := ids_agree_with_query
  have hNull : Json.string "abc" ≠ .null := by simp
  have hArray : ∀ items, Json.string "abc" ≠ .array items := by simp
  have hList := hLists [.string "abc"] []
  refine ⟨hNull, hArray, hSingle _ [] hNull hArray, hList.answers_iff.mpr ?_,
    hList.answers_iff.mpr ?_, hNone [.null] (.inr rfl)⟩
  · have hLacks : (only "_id" (.string "abc")).LacksMember "id" := ⟨_, rfl, by decide⟩
    exact iff_of_true rfl (.fallback hLacks ((selects_within_iff (by decide) (by decide)).mpr
      ⟨_, rfl, rfl⟩))
  · refine iff_of_false (by decide) ?_
    rintro (⟨-, h⟩ | ⟨⟨members, hMembers, hKey⟩, -⟩)
    · -- the null is found, and is not listed
      obtain ⟨id, hId, hListed⟩ := (selects_within_iff (by decide) (by decide)).mp h
      cases hId
      cases hListed
    · cases hMembers
      exact hKey (by decide)

end Builtin

end Fanout
