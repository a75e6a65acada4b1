import Fanout.Filter.Loose
import Fanout.Proofs.Rounding

/-!
# Fanout — equality and order of values

Strict equality tells an integer from a double wherever a number stands. Loose
equality looks at the doubles nearest to two numbers, but only where the numbers are
all there is: inside arrays and objects it is strict.

`Json.UpTo` separates the shape of a value from its numbers, so that both notions,
and the respelling of numbers as well, are one relation with different demands on
numbers.

## Main definitions

* `Number.Identical` — numbers of the same class and value.
* `Json.UpTo` — values that are the same up to their numbers, which are related at every depth.
* `Json.Comparable` — two numbers, or two strings.

## Results

* `Json.same_iff`, `Json.looselyEquals_iff` — what the two notions of equality mean.
* `Json.looselyEquals_comm`, `Json.looselyEquals_congr` — loose equality is an equivalence.
* `Json.order?_eq_some_eq_iff` — of what can be compared, the equal is what is not ordered.
* `Json.order?_lt_trans`, `Json.order?_gt_trans` — what is ordered is ordered throughout.
-/

namespace Fanout

-- ---------------------------------------------------------------------------
-- Numbers
-- ---------------------------------------------------------------------------

namespace Number

/-- Whether a number is an exact integer. -/
def isInteger : Number → Bool
  | .integer _ _ => true
  | .double _ => false

/-- Numbers of the same class and the same value. -/
def Identical (m n : Number) : Prop := m.isInteger = n.isInteger ∧ m.value = n.value

theorem same_iff {m n : Number} : m.same n = true ↔ Identical m n := by
  unfold Identical
  cases m with
  | integer a ha =>
    cases n with
    | integer b hb =>
      show (a == b) = true ↔ _
      rw [beq_iff_eq, integer_value_inj]
      simp [isInteger]
    | double d => simp [same, isInteger]
  | double c =>
    cases n with
    | integer b hb => simp [same, isInteger]
    | double d =>
      show c.sameValue d = true ↔ _
      rw [Double.sameValue_iff]
      simp [isInteger, value]

theorem sameValue_iff {m n : Number} :
    m.sameValue n = true ↔ m.toDouble.units = n.toDouble.units :=
  Double.sameValue_iff

end Number

-- ---------------------------------------------------------------------------
-- The same up to numbers
-- ---------------------------------------------------------------------------

namespace Json

/-- Induction on values: what holds of an array or an object follows from what holds of all that
is in it. -/
theorem inductOn {motive : Json → Prop} (null : motive .null)
    (bool : ∀ value, motive (.bool value)) (number : ∀ value, motive (.number value))
    (string : ∀ value, motive (.string value))
    (array : ∀ items, (∀ item ∈ items, motive item) → motive (.array items))
    (object : ∀ members, (∀ member ∈ members, motive member.2) → motive (.object members)) :
    ∀ value, motive value
  | .null => null
  | .bool value => bool value
  | .number value => number value
  | .string value => string value
  | .array items => array items (fun item _ => inductOn null bool number string array object item)
  | .object members => object members (fun member hMember => by
    -- the value of a member is smaller than the member, which is smaller than the list
    obtain ⟨key, value⟩ := member
    have hSize := List.sizeOf_lt_of_mem hMember
    exact inductOn null bool number string array object value)
termination_by value => sizeOf value
decreasing_by
  · have hSize := List.sizeOf_lt_of_mem ‹_›
    simp_wf
    omega
  · simp_wf
    simp only [Prod.mk.sizeOf_spec] at hSize
    omega

/-- Values that are the same up to their numbers, which are related wherever they stand. -/
inductive UpTo (related : Number → Number → Prop) : Json → Json → Prop
  | null : UpTo related .null .null
  | bool (value : Bool) : UpTo related (.bool value) (.bool value)
  | number {m n} (h : related m n) : UpTo related (.number m) (.number n)
  | string (value : String) : UpTo related (.string value) (.string value)
  | array {first second} (hLength : first.length = second.length)
      (h : ∀ (index : Nat) item other, first[index]? = some item → second[index]? = some other →
        UpTo related item other) : UpTo related (.array first) (.array second)
  | object {first second} (hKeys : first.map Prod.fst = second.map Prod.fst)
      (h : ∀ (index : Nat) member other, first[index]? = some member →
        second[index]? = some other → UpTo related member.2 other.2) :
      UpTo related (.object first) (.object second)

namespace UpTo

variable {related : Number → Number → Prop} {u v w : Json}

theorem imp {weaker : Number → Number → Prop} (hImp : ∀ {m n}, related m n → weaker m n)
    (h : UpTo related v w) : UpTo weaker v w := by
  induction h with
  | null => exact .null
  | bool value => exact .bool value
  | number hNumbers => exact .number (hImp hNumbers)
  | string value => exact .string value
  | array hLength _ ih => exact .array hLength ih
  | object hKeys _ ih => exact .object hKeys ih

theorem symm (hSymm : ∀ {m n}, related m n → related n m) (h : UpTo related v w) :
    UpTo related w v := by
  induction h with
  | null => exact .null
  | bool value => exact .bool value
  | number hNumbers => exact .number (hSymm hNumbers)
  | string value => exact .string value
  | array hLength _ ih =>
    exact .array hLength.symm
      (fun index item other hItem hOther => ih index other item hOther hItem)
  | object hKeys _ ih =>
    exact .object hKeys.symm
      (fun index member other hMember hOther => ih index other member hOther hMember)

/-- Of three lists of one length, whoever has an item in the first and the third has one between. -/
theorem exists_between {α β : Type} {first : List α} {second : List β} {index : Nat} {item : α}
    (hLength : first.length = second.length) (hItem : first[index]? = some item) :
    ∃ between, second[index]? = some between := by
  obtain ⟨hIndex, -⟩ := List.getElem?_eq_some_iff.mp hItem
  exact ⟨second[index], List.getElem?_eq_getElem (by omega)⟩

theorem trans (hTrans : ∀ {l m n}, related l m → related m n → related l n)
    (hFirst : UpTo related u v) (hSecond : UpTo related v w) : UpTo related u w := by
  -- by induction on how the first two are the same, the third following the second
  induction hFirst generalizing w with
  | null => exact hSecond
  | bool => exact hSecond
  | string => exact hSecond
  | number hNumbers =>
    cases hSecond with
    | number hOthers => exact .number (hTrans hNumbers hOthers)
  | array hLength _ ih =>
    cases hSecond with
    | array hOtherLength hItems =>
      refine .array (hLength.trans hOtherLength) (fun index item other hItem hOther => ?_)
      obtain ⟨between, hBetween⟩ := exists_between hLength hItem
      exact ih index item between hItem hBetween (hItems index between other hBetween hOther)
  | object hKeys _ ih =>
    cases hSecond with
    | object hOtherKeys hMembers =>
      refine .object (hKeys.trans hOtherKeys) (fun index member other hMember hOther => ?_)
      -- as many members as keys
      have hLength := congrArg List.length hKeys
      rw [List.length_map, List.length_map] at hLength
      obtain ⟨between, hBetween⟩ := exists_between hLength hMember
      exact ih index member between hMember hBetween
        (hMembers index between other hBetween hOther)

/-- A value is the same as itself. -/
theorem refl (hRefl : ∀ n, related n n) (v : Json) : UpTo related v v := by
  induction v using inductOn with
  | null => exact .null
  | bool value => exact .bool value
  | number n => exact .number (hRefl n)
  | string value => exact .string value
  | array items ih =>
    refine .array rfl (fun index item other hItem hOther => ?_)
    rw [hItem] at hOther
    cases hOther
    exact ih item (List.mem_of_getElem? hItem)
  | object members ih =>
    refine .object rfl (fun index member other hMember hOther => ?_)
    rw [hMember] at hOther
    cases hOther
    exact ih member (List.mem_of_getElem? hMember)

end UpTo

-- ---------------------------------------------------------------------------
-- Strict equality
-- ---------------------------------------------------------------------------

/-- Lists whose items are compared one by one. -/
theorem sameItems_iff {related : Json → Json → Prop} {first second : List Json}
    (hItems : ∀ item ∈ first, ∀ other, item.same other = true ↔ related item other) :
    sameItems first second = true ↔ first.length = second.length ∧
      ∀ (index : Nat) item other, first[index]? = some item → second[index]? = some other →
        related item other := by
  induction first generalizing second with
  | nil => cases second <;> simp [sameItems]
  | cons a as ih =>
    cases second with
    | nil => simp [sameItems]
    | cons b bs =>
      have hRest : sameItems as bs = true ↔ _ :=
        ih (fun item hItem => hItems item (List.mem_cons_of_mem _ hItem))
      rw [sameItems, Bool.and_eq_true, hRest, hItems a List.mem_cons_self]
      -- the item at the head is at position zero, and the others are one further on
      constructor
      · rintro ⟨hHead, hLength, hTail⟩
        refine ⟨by simp [hLength], fun index item other hItem hOther => ?_⟩
        cases index with
        | zero =>
          cases hItem
          cases hOther
          exact hHead
        | succ index => exact hTail index item other hItem hOther
      · rintro ⟨hLength, hAll⟩
        exact ⟨hAll 0 a b rfl rfl, by simpa using hLength,
          fun index item other hItem hOther => hAll (index + 1) item other hItem hOther⟩

/-- Members are compared one by one, with their keys. -/
theorem sameMembers_iff {related : Json → Json → Prop} {first second : List (String × Json)}
    (hMembers : ∀ member ∈ first, ∀ other, member.2.same other = true ↔ related member.2 other) :
    sameMembers first second = true ↔ first.map Prod.fst = second.map Prod.fst ∧
      ∀ (index : Nat) member other, first[index]? = some member → second[index]? = some other →
        related member.2 other.2 := by
  induction first generalizing second with
  | nil => cases second <;> simp [sameMembers]
  | cons a as ih =>
    cases second with
    | nil => simp [sameMembers]
    | cons b bs =>
      obtain ⟨key, value⟩ := a
      obtain ⟨otherKey, otherValue⟩ := b
      have hRest : sameMembers as bs = true ↔ _ :=
        ih (fun member hMember => hMembers member (List.mem_cons_of_mem _ hMember))
      rw [sameMembers, Bool.and_eq_true, Bool.and_eq_true, hRest, beq_iff_eq,
        hMembers (key, value) List.mem_cons_self]
      constructor
      · rintro ⟨⟨rfl, hHead⟩, hKeys, hTail⟩
        refine ⟨by simp [hKeys], fun index member other hMember hOther => ?_⟩
        cases index with
        | zero =>
          cases hMember
          cases hOther
          exact hHead
        | succ index => exact hTail index member other hMember hOther
      · rintro ⟨hKeys, hAll⟩
        obtain ⟨hKey, hKeys⟩ : key = otherKey ∧ as.map Prod.fst = bs.map Prod.fst := by
          simpa using hKeys
        exact ⟨⟨hKey, hAll 0 _ _ rfl rfl⟩, hKeys,
          fun index member other hMember hOther => hAll (index + 1) member other hMember hOther⟩

/-- Strict equality of values is the identity of their numbers, wherever they stand. -/
theorem same_iff {v w : Json} : v.same w = true ↔ UpTo Number.Identical v w := by
  induction v using inductOn generalizing w with
  | null =>
    constructor
    · intro h
      cases w <;> first | exact .null | cases h
    · rintro ⟨⟩
      rfl
  | bool value =>
    constructor
    · intro h
      cases w with
      | bool other =>
        obtain rfl := beq_iff_eq.mp h
        exact .bool value
      | _ => cases h
    · rintro ⟨⟩
      exact beq_self_eq_true value
  | number m =>
    constructor
    · intro h
      cases w with
      | number n => exact .number (Number.same_iff.mp h)
      | _ => cases h
    · rintro (_ | _ | hNumbers)
      exact Number.same_iff.mpr hNumbers
  | string value =>
    constructor
    · intro h
      cases w with
      | string other =>
        obtain rfl := beq_iff_eq.mp h
        exact .string value
      | _ => cases h
    · rintro ⟨⟩
      exact beq_self_eq_true value
  | array items ih =>
    have hItems : ∀ item ∈ items, ∀ other,
        item.same other = true ↔ UpTo Number.Identical item other :=
      fun item hItem _ => ih item hItem
    constructor
    · intro h
      cases w with
      | array others =>
        obtain ⟨hLength, hAll⟩ := (sameItems_iff hItems).mp h
        exact .array hLength hAll
      | _ => cases h
    · intro h
      cases h with
      | array hLength hAll => exact (sameItems_iff hItems).mpr ⟨hLength, hAll⟩
  | object members ih =>
    have hMembers : ∀ member ∈ members, ∀ other,
        member.2.same other = true ↔ UpTo Number.Identical member.2 other :=
      fun member hMember _ => ih member hMember
    constructor
    · intro h
      cases w with
      | object others =>
        obtain ⟨hKeys, hAll⟩ := (sameMembers_iff hMembers).mp h
        exact .object hKeys hAll
      | _ => cases h
    · intro h
      cases h with
      | object hKeys hAll => exact (sameMembers_iff hMembers).mpr ⟨hKeys, hAll⟩

-- ---------------------------------------------------------------------------
-- Loose equality
-- ---------------------------------------------------------------------------

variable {u v w : Json}

theorem looselyEquals_number {m n : Number} : (number m).looselyEquals (number n) = true ↔
    m.toDouble.units = n.toDouble.units :=
  Number.sameValue_iff

/-- Values are loosely equal if they are numbers with the same nearest double, or identical. -/
theorem looselyEquals_iff : v.looselyEquals w = true ↔
    (∃ m n, v = .number m ∧ w = .number n ∧ m.toDouble.units = n.toDouble.units) ∨
      UpTo Number.Identical v w := by
  by_cases hNumbers : ∃ m n, v = .number m ∧ w = .number n
  · obtain ⟨m, n, rfl, rfl⟩ := hNumbers
    rw [looselyEquals_number]
    constructor
    · exact fun h => .inl ⟨m, n, rfl, rfl, h⟩
    · rintro (⟨_, _, ⟨⟩, ⟨⟩, h⟩ | h)
      · exact h
      · cases h with
        | number hIdentical => exact Number.units_eq_of_value_eq hIdentical.2
  · -- without two numbers, loose equality is strict equality
    have hStrict : v.looselyEquals w = v.same w := by
      unfold looselyEquals
      split
      · exact absurd ⟨_, _, rfl, rfl⟩ hNumbers
      · rfl
    rw [hStrict, same_iff]
    refine ⟨.inr, fun h => h.resolve_left ?_⟩
    rintro ⟨m, n, hFirst, hSecond, -⟩
    exact hNumbers ⟨m, n, hFirst, hSecond⟩

@[simp] theorem looselyEquals_self (v : Json) : v.looselyEquals v = true :=
  looselyEquals_iff.mpr (.inr (.refl (fun _ => ⟨rfl, rfl⟩) v))

theorem looselyEquals_symm (h : v.looselyEquals w = true) : w.looselyEquals v = true := by
  rcases looselyEquals_iff.mp h with ⟨m, n, rfl, rfl, hUnits⟩ | hIdentical
  · exact looselyEquals_number.mpr hUnits.symm
  · exact looselyEquals_iff.mpr (.inr (hIdentical.symm (fun h => ⟨h.1.symm, h.2.symm⟩)))

theorem looselyEquals_trans (hFirst : u.looselyEquals v = true)
    (hSecond : v.looselyEquals w = true) : u.looselyEquals w = true := by
  -- where one of the three is a number, all are
  rcases looselyEquals_iff.mp hFirst with ⟨l, m, rfl, rfl, hUnits⟩ | hIdentical
  · rcases looselyEquals_iff.mp hSecond with ⟨_, n, ⟨⟩, rfl, hOthers⟩ | hOther
    · exact looselyEquals_number.mpr (hUnits.trans hOthers)
    · cases hOther with
      | number h => exact looselyEquals_number.mpr (hUnits.trans (Number.units_eq_of_value_eq h.2))
  · rcases looselyEquals_iff.mp hSecond with ⟨m, n, rfl, rfl, hUnits⟩ | hOther
    · cases hIdentical with
      | number h => exact looselyEquals_number.mpr ((Number.units_eq_of_value_eq h.2).trans hUnits)
    · exact looselyEquals_iff.mpr (.inr (hIdentical.trans
        (fun h hNext => ⟨h.1.trans hNext.1, h.2.trans hNext.2⟩) hOther))

theorem looselyEquals_comm (v w : Json) : v.looselyEquals w = w.looselyEquals v :=
  Bool.eq_iff_iff.mpr ⟨looselyEquals_symm, looselyEquals_symm⟩

/-- What is loosely equal to one of two loosely equal values is so to the other. -/
theorem looselyEquals_congr (h : v.looselyEquals w = true) (u : Json) :
    u.looselyEquals v = u.looselyEquals w :=
  Bool.eq_iff_iff.mpr ⟨fun hFirst => looselyEquals_trans hFirst h,
    fun hSecond => looselyEquals_trans hSecond (looselyEquals_symm h)⟩

-- ---------------------------------------------------------------------------
-- Order
-- ---------------------------------------------------------------------------

/-- Two numbers, or two strings. -/
inductive Comparable : Json → Json → Prop
  | numbers (m n : Number) : Comparable (.number m) (.number n)
  | strings (s t : String) : Comparable (.string s) (.string t)

theorem order?_number (m n : Number) : (number m).order? (number n) =
    some (compare m.toDouble.units n.toDouble.units) := rfl

theorem order?_string (s t : String) : (string s).order? (string t) = some (compare s t) := rfl

/-- Nothing else is ordered. -/
theorem order?_eq_none (h : ¬ Comparable v w) : v.order? w = none := by
  unfold order?
  split
  · exact absurd (.numbers _ _) h
  · exact absurd (.strings _ _) h
  · rfl

theorem comparable_of_order? {ordering : Ordering} (h : v.order? w = some ordering) :
    Comparable v w := by
  refine Classical.byContradiction (fun hNot => ?_)
  rw [order?_eq_none hNot] at h
  cases h

/-- Of what can be compared, neither comes before the other where they are loosely equal. -/
theorem order?_eq_some_eq_iff (h : Comparable v w) :
    v.order? w = some .eq ↔ v.looselyEquals w = true := by
  cases h with
  | numbers m n =>
    rw [order?_number, looselyEquals_number, Option.some.injEq]
    exact Std.LawfulEqCmp.compare_eq_iff_eq
  | strings s t =>
    rw [order?_string, Option.some.injEq]
    exact Std.LawfulEqCmp.compare_eq_iff_eq.trans beq_iff_eq.symm

theorem order?_swap (v w : Json) : (v.order? w).map Ordering.swap = w.order? v := by
  by_cases h : Comparable v w
  · cases h with
    | numbers m n =>
      rw [order?_number, order?_number]
      exact congrArg some Std.OrientedCmp.eq_swap.symm
    | strings s t =>
      rw [order?_string, order?_string]
      exact congrArg some Std.OrientedCmp.eq_swap.symm
  · have hBack : ¬ Comparable w v := by
      rintro (⟨m, n⟩ | ⟨s, t⟩)
      · exact h (.numbers _ _)
      · exact h (.strings _ _)
    rw [order?_eq_none h, order?_eq_none hBack]
    rfl

theorem order?_lt_trans (hFirst : u.order? v = some .lt) (hSecond : v.order? w = some .lt) :
    u.order? w = some .lt := by
  -- the value in the middle is comparable with both others, so that all three are of one kind
  have hLow := comparable_of_order? hFirst
  have hHigh := comparable_of_order? hSecond
  cases hLow with
  | numbers l m =>
    cases hHigh with
    | numbers _ n =>
      rw [order?_number, Option.some.injEq] at hFirst hSecond ⊢
      exact Std.TransCmp.lt_trans hFirst hSecond
  | strings r s =>
    cases hHigh with
    | strings _ t =>
      rw [order?_string, Option.some.injEq] at hFirst hSecond ⊢
      exact Std.TransCmp.lt_trans hFirst hSecond

theorem order?_gt_iff : v.order? w = some .gt ↔ w.order? v = some .lt := by
  rw [← order?_swap v w]
  cases v.order? w with
  | none => simp
  | some ordering => cases ordering <;> simp

theorem order?_gt_trans (hFirst : u.order? v = some .gt) (hSecond : v.order? w = some .gt) :
    u.order? w = some .gt :=
  order?_gt_iff.mpr (order?_lt_trans (order?_gt_iff.mp hSecond) (order?_gt_iff.mp hFirst))

end Json

end Fanout
