/-!
# Fanout — sorting

Lists are sorted by insertion, and of equal items side by side one is kept. Both
recur on the list, so that they can be run in proofs as well.

## Results

* `Ordered.mem_sort`, `Ordered.mem_collapse` — neither loses or adds an item.
* `Ordered.ascending_collapse` — a sorted list that is collapsed is strictly ascending.
* `Ordered.sort_of_ascending` — a list that is strictly ascending is sorted already.
-/

namespace Fanout

namespace Ordered

universe u

variable {κ : Type u} [Ord κ]

/-- Put an item at its place in a sorted list. -/
def place (item : κ) : List κ → List κ
  | [] => [item]
  | first :: rest =>
    if (compare item first).isLE then item :: first :: rest else first :: place item rest

/-- The items in ascending order, each as often as it was there. -/
def sort (items : List κ) : List κ := items.foldr place []

/-- The items with one left of each row of equal ones. -/
def collapse [DecidableEq κ] : List κ → List κ
  | [] => []
  | item :: rest =>
    if rest.head? = some item then collapse rest else item :: collapse rest

/-! ## Membership -/

theorem mem_place {item other : κ} {items : List κ} :
    other ∈ place item items ↔ other = item ∨ other ∈ items := by
  induction items with
  | nil => simp [place]
  | cons first rest ih =>
    rw [place]
    split
    · rw [List.mem_cons]
    · rw [List.mem_cons, ih, List.mem_cons]
      exact or_left_comm

theorem mem_sort {item : κ} {items : List κ} : item ∈ sort items ↔ item ∈ items := by
  induction items with
  | nil => exact Iff.rfl
  | cons first rest ih =>
    show item ∈ place first (sort rest) ↔ _
    rw [mem_place, ih, List.mem_cons]

omit [Ord κ] in
theorem mem_collapse [DecidableEq κ] {item : κ} {items : List κ} :
    item ∈ collapse items ↔ item ∈ items := by
  induction items with
  | nil => exact Iff.rfl
  | cons first rest ih =>
    rw [collapse]
    split
    · -- the item that goes stands again right behind
      rename_i hAgain
      have hFirst : first ∈ rest := List.mem_of_mem_head? hAgain
      rw [ih, List.mem_cons]
      exact ⟨.inr, fun h => h.elim (fun hItem => hItem ▸ hFirst) id⟩
    · rw [List.mem_cons, ih, List.mem_cons]

/-! ## Order -/

variable [Std.TransOrd κ]

theorem sorted_place (item : κ) {items : List κ}
    (h : items.Pairwise (fun a b => (compare a b).isLE)) :
    (place item items).Pairwise (fun a b => (compare a b).isLE) := by
  induction items with
  | nil => exact List.pairwise_singleton _ _
  | cons first rest ih =>
    obtain ⟨hFirst, hRest⟩ := List.pairwise_cons.mp h
    rw [place]
    split
    · rename_i hLe
      refine List.pairwise_cons.mpr ⟨fun other hOther => ?_, h⟩
      rcases List.mem_cons.mp hOther with rfl | hOther
      · exact hLe
      · exact Std.TransCmp.isLE_trans hLe (hFirst other hOther)
    · rename_i hNot
      refine List.pairwise_cons.mpr ⟨fun other hOther => ?_, ih hRest⟩
      rcases mem_place.mp hOther with rfl | hOther
      · -- of two items one is at most the other
        refine Std.OrientedCmp.isLE_of_isGE ?_
        cases hCompare : compare other first with
        | lt | eq => exact absurd (by rw [hCompare]; rfl) hNot
        | gt => rfl
      · exact hFirst other hOther

theorem sorted_sort (items : List κ) :
    (sort items).Pairwise (fun a b => (compare a b).isLE) := by
  induction items with
  | nil => exact .nil
  | cons first rest ih => exact sorted_place first ih

/-- A sorted list that is collapsed is strictly ascending. -/
theorem ascending_collapse [DecidableEq κ] [Std.LawfulEqOrd κ] {items : List κ}
    (h : items.Pairwise (fun a b => (compare a b).isLE)) :
    (collapse items).Pairwise (fun a b => compare a b = .lt) := by
  induction items with
  | nil => exact .nil
  | cons first rest ih =>
    obtain ⟨hFirst, hRest⟩ := List.pairwise_cons.mp h
    rw [collapse]
    split
    · exact ih hRest
    · rename_i hNotAgain
      refine List.pairwise_cons.mpr ⟨fun other hOther => ?_, ih hRest⟩
      have hOther : other ∈ rest := mem_collapse.mp hOther
      cases rest with
      | nil => cases hOther
      | cons next later =>
        -- the next item is another one, and none of the later ones stands before it
        have hLt : compare first next = .lt := by
          have hLe := hFirst next List.mem_cons_self
          cases hCompare : compare first next with
          | lt => rfl
          | eq =>
            have hSame : first = next := Std.LawfulEqOrd.eq_of_compare hCompare
            exact absurd (by rw [hSame]; rfl) hNotAgain
          | gt =>
            rw [hCompare] at hLe
            cases hLe
        rcases List.mem_cons.mp hOther with rfl | hLater
        · exact hLt
        · exact Std.TransCmp.lt_of_lt_of_isLE hLt ((List.pairwise_cons.mp hRest).1 other hLater)

omit [Std.TransOrd κ] in
/-- A list that is strictly ascending is sorted already. -/
theorem sort_of_ascending {items : List κ} (h : items.Pairwise (fun a b => compare a b = .lt)) :
    sort items = items := by
  induction items with
  | nil => rfl
  | cons first rest ih =>
    obtain ⟨hFirst, hRest⟩ := List.pairwise_cons.mp h
    show place first (sort rest) = first :: rest
    rw [ih hRest]
    cases rest with
    | nil => rfl
    | cons next later =>
      rw [place, hFirst next List.mem_cons_self]
      rfl

end Ordered

end Fanout
