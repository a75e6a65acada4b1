/-!
# Fanout — sorted tables

Finite maps kept as lists of entries in strictly ascending key order, so that a
table has one representation, is walked in key order, and two tables with the
same look-ups are equal.

`Entries` holds the operations on bare lists of pairs; `Table` bundles such a
list with the proof that it is ascending.

## Results

* `Entries.find?_insert`, `Entries.find?_erase` — what each change does to a look-up.
* `Entries.foldl_erase` — keys that are dropped one after the other.
* `Entries.ext_of_ascending` — ascending lists with equal look-ups are equal.
* `Table.get?_insert`, `Table.get?_erase`, `Table.get?_filterMap`, `Table.ext_get?` —
  the same facts for tables.
-/

namespace Fanout

universe u v

namespace Entries

variable {κ : Type u} {α : Type v} {β : Type v}

/-! ## Operations on lists of entries -/

/-- The value of the first entry under `key`. -/
def find? [DecidableEq κ] (key : κ) : List (κ × α) → Option α
  | [] => none
  | (k, value) :: rest => if key = k then some value else find? key rest

/-- Put `value` under `key` at its place in ascending order, replacing an entry already there. -/
def insert [Ord κ] (key : κ) (value : α) : List (κ × α) → List (κ × α)
  | [] => [(key, value)]
  | (k, old) :: rest =>
    match compare key k with
    | .lt => (key, value) :: (k, old) :: rest
    | .eq => (key, value) :: rest
    | .gt => (k, old) :: insert key value rest

/-- Drop every entry under `key`. -/
def erase [DecidableEq κ] (key : κ) (entries : List (κ × α)) : List (κ × α) :=
  entries.filter (fun entry => decide (entry.1 ≠ key))

/-- Keep the entries that `f` gives a value to, with those values. -/
def filterMap (f : κ → α → Option β) (entries : List (κ × α)) : List (κ × β) :=
  entries.filterMap (fun entry => (f entry.1 entry.2).map (fun value => (entry.1, value)))

/-- Keys in strictly ascending order. -/
def Ascending [Ord κ] (entries : List (κ × α)) : Prop :=
  entries.Pairwise (fun a b => compare a.1 b.1 = .lt)

/-! ## Membership -/

theorem mem_of_find? [DecidableEq κ] {key : κ} {value : α} {entries : List (κ × α)}
    (h : find? key entries = some value) : (key, value) ∈ entries := by
  induction entries with
  | nil => simp [find?] at h
  | cons entry rest ih =>
    obtain ⟨k, old⟩ := entry
    by_cases hk : key = k
    · subst hk
      simp only [find?, if_true, Option.some.injEq] at h
      simp [h]
    · simp only [find?, hk, if_false] at h
      exact List.mem_cons_of_mem _ (ih h)

/-- A key that no entry stands under is not found. -/
theorem find?_eq_none [DecidableEq κ] {key : κ} {entries : List (κ × α)}
    (h : ∀ entry ∈ entries, key ≠ entry.1) : find? key entries = none := by
  refine Option.eq_none_iff_forall_ne_some.mpr (fun value hvalue => ?_)
  exact h _ (mem_of_find? hvalue) rfl

theorem find?_isSome_iff [DecidableEq κ] {key : κ} {entries : List (κ × α)} :
    (find? key entries).isSome ↔ key ∈ entries.map Prod.fst := by
  induction entries with
  | nil => simp [find?]
  | cons entry rest ih =>
    obtain ⟨k, old⟩ := entry
    by_cases hk : key = k <;> simp [find?, hk, ih]

theorem mem_insert [Ord κ] {key : κ} {value : α} {entry : κ × α} {entries : List (κ × α)}
    (h : entry ∈ insert key value entries) : entry = (key, value) ∨ entry ∈ entries := by
  induction entries with
  | nil => simpa [insert] using h
  | cons first rest ih =>
    obtain ⟨k, old⟩ := first
    rw [insert] at h
    split at h
    · simpa using h
    · rcases List.mem_cons.mp h with h | h
      · exact .inl h
      · exact .inr (List.mem_cons_of_mem _ h)
    · rcases List.mem_cons.mp h with h | h
      · exact .inr (h ▸ List.mem_cons_self)
      · exact (ih h).imp id (List.mem_cons_of_mem _)

/-! ## Look-up after a change -/

section
variable [DecidableEq κ] [Ord κ] [Std.LawfulEqOrd κ]

theorem find?_insert (key other : κ) (value : α) (entries : List (κ × α)) :
    find? other (insert key value entries) =
      if other = key then some value else find? other entries := by
  induction entries with
  | nil => simp [insert, find?]
  | cons entry rest ih =>
    obtain ⟨k, old⟩ := entry
    rw [insert]
    split
    · rfl
    · rename_i h
      have hk : key = k := Std.LawfulEqCmp.eq_of_compare h
      subst hk
      by_cases ho : other = key <;> simp [find?, ho]
    · rename_i h
      have hne : key ≠ k := by
        intro hk
        rw [hk, Std.ReflOrd.compare_self] at h
        cases h
      by_cases ho : other = k
      · subst ho
        simp [find?, Ne.symm hne]
      · simp [find?, ho, ih]

end

theorem find?_erase [DecidableEq κ] (key other : κ) (entries : List (κ × α)) :
    find? other (erase key entries) = if other = key then none else find? other entries := by
  induction entries with
  | nil => simp [erase, find?]
  | cons entry rest ih =>
    obtain ⟨k, old⟩ := entry
    unfold erase at ih ⊢
    by_cases hk : k = key
    · subst hk
      simp only [List.filter, ne_eq, not_true_eq_false, decide_false]
      rw [ih]
      by_cases ho : other = k <;> simp [find?, ho]
    · simp only [List.filter, ne_eq, hk, not_false_eq_true, decide_true, find?]
      rw [ih]
      by_cases ho : other = k
      · subst ho
        simp [hk]
      · simp [ho]

/-- To drop one key after the other is to keep the entries under no key of them. -/
theorem foldl_erase [DecidableEq κ] (keys : List κ) (entries : List (κ × α)) :
    keys.foldl (fun left key => erase key left) entries =
      entries.filter (fun entry => decide (entry.1 ∉ keys)) := by
  induction keys generalizing entries with
  | nil => exact (List.filter_eq_self.mpr (fun _ _ => by simp)).symm
  | cons key rest ih =>
    rw [List.foldl_cons, ih, erase, List.filter_filter]
    refine List.filter_congr (fun entry _ => ?_)
    simp [Bool.and_comm]

theorem find?_filterMap [DecidableEq κ] (f : κ → α → Option β) (key : κ)
    {entries : List (κ × α)} (distinct : entries.Pairwise (fun a b => a.1 ≠ b.1)) :
    find? key (filterMap f entries) = (find? key entries).bind (f key) := by
  induction entries with
  | nil => rfl
  | cons entry rest ih =>
    obtain ⟨k, old⟩ := entry
    obtain ⟨hfirst, hrest⟩ := List.pairwise_cons.mp distinct
    have ih := ih hrest
    unfold filterMap at ih ⊢
    by_cases hk : key = k
    · subst hk
      cases hf : f key old with
      | some value => simp [hf, find?]
      | none =>
        -- the entry goes, and the key does not stand again behind it
        have hnone : find? key rest = none := find?_eq_none hfirst
        simp only [List.filterMap_cons, hf, Option.map_none, find?, if_true, Option.bind_some]
        rw [ih, hnone]
        rfl
    · cases hf : f k old <;> simp [hf, find?, hk, ih]

/-! ## Ascending order -/

section
variable [Ord κ] [Std.TransOrd κ]

/-- No key stands before itself. -/
theorem compare_self_ne_lt {key : κ} : compare key key ≠ .lt := by
  rw [Std.ReflOrd.compare_self]
  decide

theorem Ascending.insert {entries : List (κ × α)} (h : Ascending entries) (key : κ) (value : α) :
    Ascending (insert key value entries) := by
  induction entries with
  | nil => exact List.pairwise_singleton _ _
  | cons entry rest ih =>
    obtain ⟨k, old⟩ := entry
    obtain ⟨hfirst, hrest⟩ := List.pairwise_cons.mp h
    rw [Entries.insert]
    split
    · rename_i hlt
      refine List.pairwise_cons.mpr ⟨fun other hother => ?_, h⟩
      rcases List.mem_cons.mp hother with rfl | hother
      · exact hlt
      · exact Std.TransCmp.lt_trans hlt (hfirst other hother)
    · rename_i heq
      refine List.pairwise_cons.mpr ⟨fun other hother => ?_, hrest⟩
      exact Std.TransCmp.lt_of_eq_of_lt heq (hfirst other hother)
    · rename_i hgt
      refine List.pairwise_cons.mpr ⟨fun other hother => ?_, ih hrest⟩
      rcases mem_insert hother with rfl | hother
      · exact Std.OrientedCmp.lt_of_gt hgt
      · exact hfirst other hother

omit [Std.TransOrd κ] in
theorem Ascending.erase [DecidableEq κ] {entries : List (κ × α)} (h : Ascending entries) (key : κ) :
    Ascending (erase key entries) :=
  h.sublist List.filter_sublist

omit [Std.TransOrd κ] in
theorem Ascending.filterMap {entries : List (κ × α)} (h : Ascending entries)
    (f : κ → α → Option β) : Ascending (filterMap f entries) := by
  refine List.Pairwise.filterMap _ (fun a b hab x hx y hy => ?_) h
  obtain ⟨_, _, rfl⟩ := Option.map_eq_some_iff.mp hx
  obtain ⟨_, _, rfl⟩ := Option.map_eq_some_iff.mp hy
  exact hab

theorem Ascending.distinct {entries : List (κ × α)} (h : Ascending entries) :
    entries.Pairwise (fun a b => a.1 ≠ b.1) := by
  refine List.Pairwise.imp (fun {a b} hab heq => ?_) h
  exact compare_self_ne_lt (heq ▸ hab)

theorem find?_of_mem [DecidableEq κ] {entries : List (κ × α)} (h : Ascending entries)
    {key : κ} {value : α} (hmem : (key, value) ∈ entries) : find? key entries = some value := by
  have hd := h.distinct
  induction entries with
  | nil => cases hmem
  | cons entry rest ih =>
    obtain ⟨k, old⟩ := entry
    obtain ⟨hfirst, hrest⟩ := List.pairwise_cons.mp hd
    rcases List.mem_cons.mp hmem with heq | hmem
    · cases heq
      simp [find?]
    · have hne : key ≠ k := fun heq => hfirst _ hmem heq.symm
      simp only [find?, hne, if_false]
      exact ih (List.pairwise_cons.mp h).2 hmem hrest

theorem mem_iff_find? [DecidableEq κ] {entries : List (κ × α)} (h : Ascending entries)
    {key : κ} {value : α} : (key, value) ∈ entries ↔ find? key entries = some value :=
  ⟨find?_of_mem h, mem_of_find?⟩

/-- Ascending lists with the same look-ups are the same list. -/
theorem ext_of_ascending [DecidableEq κ] {first second : List (κ × α)} (h₁ : Ascending first)
    (h₂ : Ascending second) (h : ∀ key, find? key first = find? key second) : first = second := by
  induction first generalizing second with
  | nil =>
    cases second with
    | nil => rfl
    | cons entry rest =>
      have := h entry.1
      simp [find?] at this
  | cons entry rest ih =>
    obtain ⟨k, value⟩ := entry
    cases second with
    | nil =>
      have := h k
      simp [find?] at this
    | cons entry' rest' =>
      obtain ⟨k', value'⟩ := entry'
      obtain ⟨hfirst, hrest⟩ := List.pairwise_cons.mp h₁
      obtain ⟨hfirst', hrest'⟩ := List.pairwise_cons.mp h₂
      -- were the first keys different, each would stand behind the other
      have hk : k = k' := by
        refine Classical.byContradiction fun hne => ?_
        have hin : (k, value) ∈ rest' := by
          have := h k
          simp only [find?, if_true, hne, if_false] at this
          exact mem_of_find? this.symm
        have hin' : (k', value') ∈ rest := by
          have := h k'
          simp only [find?, if_true, Ne.symm hne, if_false] at this
          exact mem_of_find? this
        have hlt := hfirst _ hin'
        have hlt' := hfirst' _ hin
        exact compare_self_ne_lt (Std.TransCmp.lt_trans hlt hlt')
      subst hk
      have hv : value = value' := by
        have := h k
        simpa [find?] using this
      subst hv
      -- a look-up past the first entry is a look-up in the rest
      have hrests : rest = rest' := by
        refine ih hrest hrest' fun key => ?_
        by_cases hkey : key = k
        · subst hkey
          have hnone : ∀ l : List (κ × α), (∀ b ∈ l, compare key b.1 = .lt) →
              find? key l = none :=
            fun l hl => find?_eq_none (fun b hb heq => compare_self_ne_lt (heq ▸ hl b hb))
          rw [hnone rest hfirst, hnone rest' hfirst']
        · have := h key
          simpa [find?, hkey] using this
      rw [hrests]

end

end Entries

/-! ## Tables -/

/-- A finite map whose entries stand in strictly ascending key order. -/
structure Table (κ : Type u) (α : Type v) [Ord κ] where
  /-- The entries, in key order. -/
  entries : List (κ × α)
  /-- No key stands twice, and keys ascend. -/
  ascending : Entries.Ascending entries

namespace Table

variable {κ : Type u} {α : Type v} {β : Type v} [Ord κ]

/-- The table without entries. -/
def empty : Table κ α := ⟨[], List.Pairwise.nil⟩

instance : Inhabited (Table κ α) := ⟨empty⟩

/-- The value under `key`. -/
def get? [DecidableEq κ] (table : Table κ α) (key : κ) : Option α := Entries.find? key table.entries

/-- Whether there is an entry under `key`. -/
def contains [DecidableEq κ] (table : Table κ α) (key : κ) : Bool := (table.get? key).isSome

/-- The keys, ascending. -/
def keys (table : Table κ α) : List κ := table.entries.map Prod.fst

/-- The values, in key order. -/
def values (table : Table κ α) : List α := table.entries.map Prod.snd

/-- The number of entries. -/
def size (table : Table κ α) : Nat := table.entries.length

/-- Whether there is no entry. -/
def isEmpty (table : Table κ α) : Bool := table.entries.isEmpty

variable [Std.TransOrd κ]

/-- Put `value` under `key`, replacing an entry already there. -/
def insert (table : Table κ α) (key : κ) (value : α) : Table κ α :=
  ⟨Entries.insert key value table.entries, table.ascending.insert key value⟩

/-- Drop the entry under `key`. -/
def erase [DecidableEq κ] (table : Table κ α) (key : κ) : Table κ α :=
  ⟨Entries.erase key table.entries, table.ascending.erase key⟩

/-- Keep the entries that `f` gives a value to, with those values. -/
def filterMap (f : κ → α → Option β) (table : Table κ α) : Table κ β :=
  ⟨Entries.filterMap f table.entries, table.ascending.filterMap f⟩

/-- Insert every entry of `other`, each replacing an entry under the same key. -/
def union (table other : Table κ α) : Table κ α :=
  other.entries.foldl (fun acc entry => acc.insert entry.1 entry.2) table

variable [DecidableEq κ]

omit [Std.TransOrd κ] in
@[simp] theorem get?_empty (key : κ) : (empty : Table κ α).get? key = none := rfl

theorem get?_insert [Std.LawfulEqOrd κ] (table : Table κ α) (key other : κ) (value : α) :
    (table.insert key value).get? other = if other = key then some value else table.get? other :=
  Entries.find?_insert key other value table.entries

omit [Std.TransOrd κ] in
theorem get?_erase (table : Table κ α) (key other : κ) :
    (table.erase key).get? other = if other = key then none else table.get? other :=
  Entries.find?_erase key other table.entries

theorem get?_filterMap (f : κ → α → Option β) (table : Table κ α) (key : κ) :
    (table.filterMap f).get? key = (table.get? key).bind (f key) :=
  Entries.find?_filterMap f key table.ascending.distinct

theorem mem_entries_iff (table : Table κ α) {key : κ} {value : α} :
    (key, value) ∈ table.entries ↔ table.get? key = some value :=
  Entries.mem_iff_find? table.ascending

omit [Std.TransOrd κ] in
theorem mem_keys_iff (table : Table κ α) {key : κ} : key ∈ table.keys ↔ (table.get? key).isSome :=
  Entries.find?_isSome_iff.symm

omit [Std.TransOrd κ] [DecidableEq κ] in
/-- The keys of a table stand in strictly ascending order. -/
theorem keys_ascending (table : Table κ α) :
    table.keys.Pairwise (fun a b => compare a b = .lt) :=
  List.pairwise_map.mpr table.ascending

/-- Tables with the same look-ups are equal. -/
theorem ext_get? {first second : Table κ α} (h : ∀ key, first.get? key = second.get? key) :
    first = second := by
  obtain ⟨entries, ascending⟩ := first
  obtain ⟨entries', ascending'⟩ := second
  have : entries = entries' := Entries.ext_of_ascending ascending ascending' h
  subst this
  rfl

end Table

end Fanout
