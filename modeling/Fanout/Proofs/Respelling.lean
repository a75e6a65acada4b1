import Fanout.Proofs.Equality
import Fanout.Proofs.Selection

/-!
# Fanout — numbers spelled differently

One number can be spelled as an integer and as a double, `1` and `1.0`. A literal that
is such a number matches it however it is spelled. A number inside an array or an
object is compared strictly, and a literal that has it matches just the values in which
it is spelled as in the literal.

## Main definitions

* `Json.Respelled` — a value with some of its numbers spelled differently, at any depth.
* `Json.Unaffected` — a value whose respelling loose equality overlooks.

## Results

* `Json.Respelled.looselyEquals_iff` — which respellings are overlooked.
* `Builtin.agree_literals_iff`, `Builtin.agree_ids_singleton_iff` — literals, and ids, that stand
  for each other.
* `Builtin.respelling_overlooked_iff` — what queries and ids make of a respelled value.
-/

namespace Fanout

namespace Json

variable {v w : Json}

/-- Numbers stand for the same value in both, at every depth, and all else is the same. -/
def Respelled : Json → Json → Prop := UpTo (fun m n => m.value = n.value)

/-- Nothing below the root of a value is spelled differently. -/
def Unaffected (v w : Json) : Prop := (∃ n, v = .number n) ∨ UpTo Number.Identical v w

theorem Respelled.plain (h : Respelled v w) (hPlain : v.Plain) : w.Plain := by
  cases h with
  | object hKeys =>
    rintro _ ⟨⟩ member hMember
    -- both objects have the same keys
    have hKey := List.mem_map_of_mem (f := Prod.fst) hMember
    rw [← hKeys] at hKey
    obtain ⟨other, hOther, hSame⟩ := List.mem_map.mp hKey
    rw [← hSame]
    exact hPlain _ rfl other hOther
  | null | bool | number | string | array => simp [Plain]

/-- Loose equality overlooks how a number is spelled at the root, and nowhere else. -/
theorem Respelled.looselyEquals_iff (h : Respelled v w) :
    v.looselyEquals w = true ↔ Unaffected v w := by
  rw [Json.looselyEquals_iff]
  constructor
  · rintro (⟨m, n, hFirst, -, -⟩ | hIdentical)
    · exact .inl ⟨m, hFirst⟩
    · exact .inr hIdentical
  · rintro (⟨m, rfl⟩ | hIdentical)
    · cases h with
      | number hValue => exact .inl ⟨m, _, rfl, rfl, Number.units_eq_of_value_eq hValue⟩
    · exact .inr hIdentical

/-- An array of one item is unaffected where nothing in the item is spelled differently. -/
theorem looselyEquals_singleton_iff :
    (array [v]).looselyEquals (array [w]) = true ↔ UpTo Number.Identical v w := by
  have hStrict : (array [v]).looselyEquals (array [w]) = (v.same w && true) := rfl
  rw [hStrict, Bool.and_true, same_iff]

end Json

namespace Builtin

open Json (only nest Respelled Unaffected)

variable {field : String} {v w : Json}

/-- Two literals stand for each other where they are loosely equal. -/
theorem agree_literals_iff (hField : Condition.isOperator field = false) (hFirst : v.Plain)
    (hSecond : w.Plain) :
    (∀ record, Agree "query" (only field v) (only field w) record) ↔ v.looselyEquals w = true := by
  have hConditions : ∀ record, Agree "query" (only field v) (only field w) record ↔
      (Condition.equals v).holds (record.reach? (path field)) =
        (Condition.equals w).holds (record.reach? (path field)) :=
    fun _ => agree_only_iff hField (ofConstraint_of_plain hFirst) (ofConstraint_of_plain hSecond)
  constructor
  · intro h
    -- the record with the first value matches that value, and so the second one
    have hSelf := (hConditions (nest (path field) v)).mp (h _)
    rw [Json.reach?_nest] at hSelf
    simpa [Condition.holds] using hSelf
  · intro h record
    rw [hConditions]
    cases record.reach? (path field) with
    | none => rfl
    | some found => exact Json.looselyEquals_congr h found

/-- Two ids stand for each other where they are loosely equal. -/
theorem agree_ids_singleton_iff :
    (∀ record, Agree "ids" (.array [v]) (.array [w]) record) ↔ v.looselyEquals w = true := by
  constructor
  · intro h
    have hSelf := agree_ids_iff.mp (h (only "id" w))
    simpa [idOf?, idList] using hSelf
  · intro h record
    rw [agree_ids_iff]
    cases idOf? record with
    | none => rfl
    | some id =>
      have hSame := Json.looselyEquals_congr h id
      simpa [idList, Json.looselyEquals_comm _ id] using hSame

/-- A literal, `$in`, `$ne` and ids overlook that a value is spelled differently just if nothing
below its root is. Ids that have the value as an item overlook it just if nothing is at all. -/
theorem respelling_overlooked_iff (hField : Condition.isOperator field = false) (hPlain : v.Plain)
    (h : Respelled v w) :
    ∃ overlooked : Bool, (overlooked = true ↔ Unaffected v w) ∧
      Answers "query" (only field v) (nest (path field) w) overlooked ∧
      Answers "query" (operation field "$in" (.array [v])) (nest (path field) w) overlooked ∧
      Answers "query" (operation field "$ne" v) (nest (path field) w) (!overlooked) ∧
      ((∀ record, Agree "query" (only field v) (only field w) record) ↔ overlooked = true) ∧
      ((∀ record, Agree "ids" (.array [v]) (.array [w]) record) ↔ overlooked = true) ∧
      ((∀ record, Agree "ids" (.array [.array [v]]) (.array [.array [w]]) record) ↔
        Json.UpTo Number.Identical v w) := by
  -- what is in the record is compared with what is in the query
  have hWithin : (Condition.within [v]).holds ((nest (path field) w).reach? (path field)) =
      v.looselyEquals w := by
    rw [Json.reach?_nest, Condition.holds_within_singleton, Json.looselyEquals_comm]
  refine ⟨v.looselyEquals w, h.looselyEquals_iff, ?_, answers_operation hField rfl rfl hWithin,
    answers_operation hField rfl rfl ?_, agree_literals_iff hField hPlain (h.plain hPlain),
    agree_ids_singleton_iff, agree_ids_singleton_iff.trans Json.looselyEquals_singleton_iff⟩
  · rw [answers_only_iff hField (ofConstraint_of_plain hPlain), Condition.holds_equals]
    exact hWithin
  · rw [Condition.holds_differs, hWithin]

/-- One, spelled as an integer. -/
def oneAsInteger : Json := .number (.integer 1 (by decide))

/-- One, spelled as a double. -/
def oneAsDouble : Json :=
  .number (.double ⟨false, 4503599627370496, 1022, by decide, by decide, .inr (by decide)⟩)

theorem respelled_one : Respelled oneAsInteger oneAsDouble := by
  refine .number ?_
  decide +kernel

/-- At the root the spelling is overlooked. -/
theorem respelling_overlooked_at_root :
    Condition.isOperator "f" = false ∧ oneAsInteger.Plain ∧ Respelled oneAsInteger oneAsDouble ∧
      Selects "query" (only "f" oneAsInteger) (nest (path "f") oneAsDouble) := by
  have hField : Condition.isOperator "f" = false := by decide
  have hPlain : oneAsInteger.Plain := by simp [oneAsInteger, Json.Plain]
  obtain ⟨overlooked, hIff, hLiteral, -⟩ :=
    respelling_overlooked_iff hField hPlain respelled_one
  obtain rfl : overlooked = true := hIff.mpr (.inl ⟨_, rfl⟩)
  exact ⟨hField, hPlain, respelled_one, hLiteral⟩

/-- Below the root it is not. -/
theorem respelling_noticed_in_array :
    Respelled (.array [oneAsInteger]) (.array [oneAsDouble]) ∧
      Rejects "query" (only "f" (.array [oneAsInteger])) (nest (path "f") (.array [oneAsDouble])) ∧
      ¬ ∀ record, Agree "query" (only "f" (.array [oneAsInteger]))
        (only "f" (.array [oneAsDouble])) record := by
  have hField : Condition.isOperator "f" = false := by decide
  have hPlain : ∀ items, (Json.array items).Plain := by simp [Json.Plain]
  have hApart : (Json.array [oneAsInteger]).looselyEquals (.array [oneAsDouble]) = false := rfl
  refine ⟨?_, ?_, ?_⟩
  · refine .array rfl (fun index item other hItem hOther => ?_)
    cases index with
    | zero =>
      cases hItem
      cases hOther
      exact respelled_one
    | succ index => cases hItem
  · refine (answers_only_iff hField (ofConstraint_of_plain (hPlain _))).mpr ?_
    rw [Json.reach?_nest]
    rfl
  · rw [agree_literals_iff hField (hPlain _) (hPlain _), hApart]
    decide

end Builtin

end Fanout
