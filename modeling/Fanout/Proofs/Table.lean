import Fanout.Data.Table

/-!
# Fanout — what keys and look-ups say of a table

Counting entries goes through keys, and keys are settled by look-ups: two tables
that know the same keys list them in the same order.

## Results

* `Table.isEmpty_iff` — a table is empty if no look-up finds anything.
* `Table.keys_eq_of_mem_iff` — the keys are settled by membership.
* `Table.keys_insert_perm` — an entry under a new key adds that key.
* `Table.get?_union`, `Table.union_eq_foldl_of_perm` — the entries of another table replace those
  under the same keys, in whatever order they are taken over.
-/

namespace Fanout

universe u v w

theorem nodup_of_ascending {κ : Type u} [Ord κ] [Std.TransOrd κ] {keys : List κ}
    (h : keys.Pairwise (fun a b => compare a b = .lt)) : keys.Nodup := by
  refine h.imp ?_
  intro a b hab heq
  subst heq
  exact Entries.compare_self_ne_lt hab

/-- Ascending lists with the same members are the same list. -/
theorem eq_of_ascending_of_mem_iff {κ : Type u} [Ord κ] [Std.TransOrd κ] {first second : List κ}
    (hFirst : first.Pairwise (fun a b => compare a b = .lt))
    (hSecond : second.Pairwise (fun a b => compare a b = .lt))
    (hMem : ∀ key, key ∈ first ↔ key ∈ second) : first = second := by
  have hPerm : first.Perm second :=
    (List.perm_ext_iff_of_nodup (nodup_of_ascending hFirst) (nodup_of_ascending hSecond)).mpr hMem
  refine List.Perm.eq_of_pairwise (fun a b _ _ hab hba => ?_) hFirst hSecond hPerm
  -- two keys cannot stand before each other
  exact absurd (Std.TransCmp.lt_trans hab hba) Entries.compare_self_ne_lt

namespace Table

variable {κ : Type u} {α : Type v} {β : Type w} [Ord κ] [Std.TransOrd κ]

theorem keys_nodup (table : Table κ α) : table.keys.Nodup :=
  nodup_of_ascending table.keys_ascending

omit [Std.TransOrd κ] in
@[simp] theorem length_keys (table : Table κ α) : table.keys.length = table.size :=
  List.length_map ..

/-- The keys of a table are settled by which keys it knows, whatever the values. -/
theorem keys_eq_of_mem_iff {first : Table κ α} {second : Table κ β}
    (h : ∀ key, key ∈ first.keys ↔ key ∈ second.keys) : first.keys = second.keys :=
  eq_of_ascending_of_mem_iff first.keys_ascending second.keys_ascending h

variable [DecidableEq κ]

omit [Std.TransOrd κ] in
@[simp] theorem contains_eq (table : Table κ α) (key : κ) :
    table.contains key = (table.get? key).isSome := rfl

omit [Std.TransOrd κ] in
/-- A table is empty if no look-up finds anything. -/
theorem isEmpty_iff (table : Table κ α) : table.isEmpty = true ↔ ∀ key, table.get? key = none := by
  unfold isEmpty
  rw [List.isEmpty_iff]
  constructor
  · intro h key
    show Entries.find? key table.entries = none
    rw [h]
    rfl
  · intro h
    cases hEntries : table.entries with
    | nil => rfl
    | cons entry rest =>
      have hKey : entry.1 ∈ table.keys := by
        show entry.1 ∈ table.entries.map Prod.fst
        rw [hEntries]
        exact List.mem_cons_self
      rw [mem_keys_iff, h] at hKey
      cases hKey

/-- The entries under one key. -/
theorem filter_entries (table : Table κ α) (key : κ) :
    table.entries.filter (fun entry => entry.1 == key) =
      (table.get? key).toList.map (fun value => (key, value)) := by
  have hAll : ∀ entries : List (κ × α), entries.Pairwise (fun a b => a.1 ≠ b.1) →
      entries.filter (fun entry => entry.1 == key) =
        (Entries.find? key entries).toList.map (fun value => (key, value)) := by
    intro entries
    induction entries with
    | nil => intro _; rfl
    | cons entry rest ih =>
      intro hDistinct
      obtain ⟨hFirst, hRest⟩ := List.pairwise_cons.mp hDistinct
      obtain ⟨k, value⟩ := entry
      by_cases hKey : key = k
      · -- the key does not stand again behind its entry
        subst hKey
        have hNone : rest.filter (fun entry => entry.1 == key) = [] := by
          refine List.filter_eq_nil_iff.mpr (fun entry hEntry hOwn => ?_)
          exact hFirst entry hEntry (beq_iff_eq.mp hOwn).symm
        rw [List.filter_cons_of_pos (by simp), hNone]
        simp [Entries.find?]
      · rw [List.filter_cons_of_neg (by simpa using Ne.symm hKey), ih hRest]
        simp [Entries.find?, hKey]
  exact hAll table.entries table.ascending.distinct

section
variable [Std.LawfulEqOrd κ]

/-- To put in what is there already changes nothing. -/
theorem insert_of_get? {table : Table κ α} {key : κ} {value : α}
    (h : table.get? key = some value) : table.insert key value = table := by
  refine ext_get? (fun other => ?_)
  rw [get?_insert]
  by_cases hOther : other = key
  · rw [if_pos hOther, hOther, h]
  · rw [if_neg hOther]

/-- An entry under a new key adds that key. -/
theorem keys_insert_perm {table : Table κ α} {key : κ} (value : α) (h : table.get? key = none) :
    (table.insert key value).keys.Perm (key :: table.keys) := by
  have hAbsent : key ∉ table.keys := by
    rw [mem_keys_iff, h]
    simp
  have hNodup : (key :: table.keys).Nodup := List.nodup_cons.mpr ⟨hAbsent, table.keys_nodup⟩
  refine (List.perm_ext_iff_of_nodup (keys_nodup _) hNodup).mpr (fun other => ?_)
  rw [List.mem_cons, mem_keys_iff, mem_keys_iff, get?_insert]
  by_cases hOther : other = key <;> simp [hOther]

theorem size_insert_of_none {table : Table κ α} {key : κ} (value : α) (h : table.get? key = none) :
    (table.insert key value).size = table.size + 1 := by
  rw [← length_keys, (keys_insert_perm value h).length_eq, List.length_cons, length_keys]

theorem size_erase_of_some {table : Table κ α} {key : κ} {value : α}
    (h : table.get? key = some value) : (table.erase key).size + 1 = table.size := by
  -- to put the entry back gives the table
  have hBack : (table.erase key).insert key value = table := by
    refine ext_get? (fun other => ?_)
    rw [get?_insert, get?_erase]
    by_cases hOther : other = key
    · rw [if_pos hOther, hOther, h]
    · rw [if_neg hOther, if_neg hOther]
  rw [← size_insert_of_none value (by rw [get?_erase, if_pos rfl]), hBack]

theorem get?_foldl_insert {entries : List (κ × α)}
    (hDistinct : entries.Pairwise (fun a b => a.1 ≠ b.1)) (table : Table κ α) (key : κ) :
    (entries.foldl (fun acc entry => acc.insert entry.1 entry.2) table).get? key =
      (Entries.find? key entries).or (table.get? key) := by
  induction entries generalizing table with
  | nil => rfl
  | cons entry rest ih =>
    obtain ⟨hFirst, hRest⟩ := List.pairwise_cons.mp hDistinct
    obtain ⟨k, value⟩ := entry
    rw [List.foldl_cons, ih hRest, get?_insert, Entries.find?]
    by_cases hKey : key = k
    · -- the key does not stand again behind its entry, which so is not replaced
      subst hKey
      have hNone : Entries.find? key rest = none := Entries.find?_eq_none hFirst
      rw [hNone, if_pos rfl, if_pos rfl]
      rfl
    · rw [if_neg hKey, if_neg hKey]

/-- The entries of the other table replace those under the same keys. -/
theorem get?_union (table other : Table κ α) (key : κ) :
    (table.union other).get? key = (other.get? key).or (table.get? key) :=
  get?_foldl_insert other.ascending.distinct table key

theorem insert_comm (table : Table κ α) {key other : κ} (h : key ≠ other) (value replaced : α) :
    (table.insert key value).insert other replaced =
      (table.insert other replaced).insert key value := by
  refine ext_get? (fun found => ?_)
  simp only [get?_insert]
  by_cases hKey : found = key
  · subst hKey
    rw [if_neg h, if_pos rfl, if_pos rfl]
  · rw [if_neg hKey, if_neg hKey]

/-- Entries can be taken over from another table in any order. -/
theorem union_eq_foldl_of_perm (table other : Table κ α) {entries : List (κ × α)}
    (h : entries.Perm other.entries) :
    table.union other = entries.foldl (fun acc entry => acc.insert entry.1 entry.2) table := by
  unfold union
  refine h.symm.foldl_eq' (fun first hFirst second hSecond between => ?_) table
  obtain ⟨key, value⟩ := first
  obtain ⟨key', value'⟩ := second
  by_cases hKey : key = key'
  · -- there is one entry under a key
    subst hKey
    rw [mem_entries_iff] at hFirst hSecond
    cases hFirst.symm.trans hSecond
    rfl
  · exact insert_comm between hKey value value'

end

end Table

end Fanout
