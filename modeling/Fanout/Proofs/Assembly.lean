import Fanout.Filter.Probe
import Fanout.Proofs.ByteOrder
import Fanout.Proofs.Table

/-!
# Fanout — what modules are put together of

A module is put together of filters and of other modules, which have been put together
before in the same way. Parts that go in later replace those of the same name that are
there, whichever kind they are. So a name is looked up from the last part backwards, and
inside a part that is a module again from its last part backwards.

`Part` is that tree of modules inside modules. Which names a part provides is said without
regard to order, and `Part.Gives` then picks the last part that provides a name, on every
level of the tree.

## Main definitions

* `FilterModule.Part`, `FilterModule.ofParts` — what goes into a module, and the module.
* `FilterModule.Part.Provides`, `FilterModule.Part.Gives` — the names of a part, and its filters.
* `FilterModule.Resolves` — the last part that provides a name gives a filter for it.
* `FilterModule.AssemblyLaws` — what is claimed of a module.

## Results

* `FilterModule.get?_apply`, `FilterModule.get?_build` — look-up after one step, and after all.
* `FilterModule.contains_ofParts_iff` — a module knows what its parts provide.
* `FilterModule.get?_ofParts_eq_some_iff` — a look-up resolves a name.
* `FilterModule.resolves_to_last` — the laws.
-/

namespace Fanout

/-- A search from the end of a list finds what the last item has for which there is something. -/
theorem findSome?_reverse_eq_some_iff {α β : Type} {f : α → Option β} {items : List α} {found : β} :
    items.reverse.findSome? f = some found ↔
      ∃ before item after, items = before ++ item :: after ∧ f item = some found ∧
        ∀ later ∈ after, f later = none := by
  rw [List.findSome?_eq_some_iff]
  constructor
  · rintro ⟨after, item, before, hItems, hFound, hAfter⟩
    refine ⟨before.reverse, item, after.reverse, ?_, hFound, by simpa using hAfter⟩
    rw [← List.reverse_reverse items, hItems]
    simp
  · rintro ⟨before, item, after, rfl, hFound, hAfter⟩
    exact ⟨after.reverse, item, before.reverse, by simp, hFound, by simpa using hAfter⟩

namespace FilterModule

-- ---------------------------------------------------------------------------
-- Steps
-- ---------------------------------------------------------------------------

/-- The filter that a step has for a name. -/
def Step.given? (name : String) : Step → Option Filter
  | .filter own f => if name = own then some f else none
  | .extend other => other.get? name

/-- What a step has for a name replaces what was there. -/
theorem get?_apply (module : FilterModule) (step : Step) (name : String) :
    (module.apply step).get? name = (step.given? name).or (module.get? name) := by
  cases step with
  | filter own f =>
    show (module.filters.insert own f).get? name = _
    rw [Table.get?_insert, Step.given?]
    by_cases hName : name = own
    · rw [if_pos hName, if_pos hName]
      rfl
    · rw [if_neg hName, if_neg hName]
      rfl
  | extend other => exact Table.get?_union module.filters other.filters name

theorem get?_foldl_apply (module : FilterModule) (steps : List Step) (name : String) :
    (steps.foldl apply module).get? name =
      (steps.reverse.findSome? (Step.given? name)).or (module.get? name) := by
  induction steps generalizing module with
  | nil => rfl
  | cons step rest ih =>
    rw [List.foldl_cons, ih, get?_apply, List.reverse_cons, List.findSome?_append,
      List.findSome?_singleton, Option.or_assoc]

/-- A name is looked up from the last step backwards. -/
theorem get?_build (steps : List Step) (name : String) :
    (build steps).get? name = steps.reverse.findSome? (Step.given? name) := by
  unfold build
  rw [get?_foldl_apply]
  exact Option.or_none

/-- To copy a module is to register its filters one by one, in any order. -/
theorem extend_eq_foldl_of_perm (module other : FilterModule) {entries : List (String × Filter)}
    (h : entries.Perm other.filters.entries) :
    module.extend other = entries.foldl (fun acc entry => acc.filter entry.1 entry.2) module := by
  unfold extend
  rw [Table.union_eq_foldl_of_perm _ _ h]
  exact (List.foldl_hom FilterModule.mk (fun _ _ => rfl)).symm

-- ---------------------------------------------------------------------------
-- Parts
-- ---------------------------------------------------------------------------

/-- What goes into a module: a filter under a name, or all that is in another module, which has
been put together in the same way. -/
inductive Part where
  | filter (name : String) (f : Filter)
  | extend (parts : List Part)

namespace Part

/-- Induction on parts: what holds of a module follows from what holds of all its parts. -/
theorem inductOn {motive : Part → Prop} (filter : ∀ name f, motive (.filter name f))
    (extend : ∀ parts, (∀ part ∈ parts, motive part) → motive (.extend parts)) :
    ∀ part, motive part
  | .filter name f => filter name f
  | .extend parts => extend parts (fun part _ => inductOn filter extend part)

/-- A part provides a name: it is the filter of that name, or a module with a part that does. -/
inductive Provides (name : String) : Part → Prop
  | filter (f : Filter) : Provides name (.filter name f)
  | extend {parts : List Part} {part : Part} (hPart : part ∈ parts) (h : part.Provides name) :
      Provides name (.extend parts)

/-- A part gives a filter for a name: it is that filter under that name, or a module of which the
last part that provides the name gives the filter. -/
inductive Gives (name : String) (f : Filter) : Part → Prop
  | filter : Gives name f (.filter name f)
  | extend {before after : List Part} {part : Part} (h : part.Gives name f)
      (hLast : ∀ later ∈ after, ¬ later.Provides name) :
      Gives name f (.extend (before ++ part :: after))

mutual

/-- The step that puts a part in. A module that is copied has been built before. -/
def step : Part → Step
  | .filter name f => .filter name f
  | .extend parts => .extend (build (steps parts))

/-- The steps that put parts in, one after the other. -/
def steps : List Part → List Step
  | [] => []
  | part :: rest => part.step :: steps rest

end

theorem steps_eq_map (parts : List Part) : steps parts = parts.map step := by
  induction parts with
  | nil => rfl
  | cons part rest ih => rw [steps, ih, List.map_cons]

end Part

/-- The module that parts are put together to. -/
def ofParts (parts : List Part) : FilterModule := build (Part.steps parts)

/-- The last of the parts that provides a name gives a filter for it. -/
def Resolves (parts : List Part) (name : String) (f : Filter) : Prop :=
  ∃ before part after, parts = before ++ part :: after ∧ part.Gives name f ∧
    ∀ later ∈ after, ¬ later.Provides name

variable {parts : List Part} {part : Part} {name own : String} {f g : Filter}

namespace Part

@[simp] theorem provides_filter_iff : (Part.filter own f).Provides name ↔ name = own := by
  constructor
  · intro h
    cases h
    rfl
  · rintro rfl
    exact .filter f

theorem provides_extend_iff :
    (Part.extend parts).Provides name ↔ ∃ part ∈ parts, part.Provides name := by
  constructor
  · intro h
    cases h with
    | extend hPart h => exact ⟨_, hPart, h⟩
  · rintro ⟨part, hPart, h⟩
    exact .extend hPart h

theorem gives_filter_iff : (Part.filter own g).Gives name f ↔ name = own ∧ g = f := by
  constructor
  · intro h
    cases h
    exact ⟨rfl, rfl⟩
  · rintro ⟨rfl, rfl⟩
    exact .filter

theorem gives_extend_iff : (Part.extend parts).Gives name f ↔ Resolves parts name f := by
  constructor
  · intro h
    cases h with
    | extend h hLast => exact ⟨_, _, _, rfl, h, hLast⟩
  · rintro ⟨before, part, after, rfl, h, hLast⟩
    exact .extend h hLast

end Part

-- ---------------------------------------------------------------------------
-- Look-up
-- ---------------------------------------------------------------------------

theorem get?_ofParts (parts : List Part) (name : String) :
    (ofParts parts).get? name = parts.reverse.findSome? (fun part => part.step.given? name) := by
  unfold ofParts
  rw [get?_build, Part.steps_eq_map, ← List.map_reverse, List.findSome?_map]
  rfl

theorem isSome_get?_ofParts :
    ((ofParts parts).get? name).isSome ↔ ∃ part ∈ parts, (part.step.given? name).isSome := by
  rw [get?_ofParts, List.findSome?_isSome_iff]
  simp only [List.mem_reverse]

theorem Part.isSome_given?_iff : (part.step.given? name).isSome ↔ part.Provides name := by
  induction part using Part.inductOn with
  | filter own f =>
    show (if name = own then some f else none).isSome ↔ _
    simp
  | extend parts ih =>
    rw [provides_extend_iff]
    exact isSome_get?_ofParts.trans
      (exists_congr fun part => and_congr_right fun hPart => ih part hPart)

theorem Part.given?_eq_none_iff : part.step.given? name = none ↔ ¬ part.Provides name := by
  rw [← Part.isSome_given?_iff, Option.not_isSome_iff_eq_none]

/-- A module knows the names that its parts provide. -/
theorem contains_ofParts_iff :
    (ofParts parts).contains name = true ↔ ∃ part ∈ parts, part.Provides name := by
  refine isSome_get?_ofParts.trans ?_
  simp only [Part.isSome_given?_iff]

theorem get?_ofParts_eq_some_iff_given :
    (ofParts parts).get? name = some f ↔
      ∃ before part after, parts = before ++ part :: after ∧ part.step.given? name = some f ∧
        ∀ later ∈ after, ¬ later.Provides name := by
  rw [get?_ofParts, findSome?_reverse_eq_some_iff]
  simp only [Part.given?_eq_none_iff]

theorem Part.given?_eq_some_iff : part.step.given? name = some f ↔ part.Gives name f := by
  induction part using Part.inductOn with
  | filter own g =>
    show (if name = own then some g else none) = some f ↔ _
    simp [gives_filter_iff]
  | extend parts ih =>
    -- inside a module its own last part decides
    rw [gives_extend_iff]
    refine get?_ofParts_eq_some_iff_given.trans ?_
    refine exists_congr fun before => exists_congr fun part => exists_congr fun after => ?_
    refine and_congr_right fun hParts => and_congr_left fun _ => ih part ?_
    rw [hParts]
    simp

/-- A look-up finds what the last part that provides the name gives for it. -/
theorem get?_ofParts_eq_some_iff :
    (ofParts parts).get? name = some f ↔ Resolves parts name f := by
  rw [get?_ofParts_eq_some_iff_given]
  simp only [Part.given?_eq_some_iff]
  rfl

-- ---------------------------------------------------------------------------
-- What is known, listed and compiled
-- ---------------------------------------------------------------------------

theorem contains_eq_false_iff (module : FilterModule) :
    module.contains name = false ↔ module.get? name = none :=
  Option.isSome_eq_false_iff.trans Option.isNone_iff_eq_none

theorem mem_names_iff (module : FilterModule) :
    name ∈ module.names ↔ module.contains name = true :=
  Table.mem_keys_iff module.filters

/-- Names stand in strictly ascending byte order. -/
theorem names_ascending (module : FilterModule) :
    module.names.Pairwise (fun a b => Text.bytes a < Text.bytes b) :=
  module.filters.keys_ascending.imp Text.bytes_lt_of_compare

theorem isEmpty_iff (module : FilterModule) :
    module.isEmpty = true ↔ ∀ name, module.contains name = false := by
  simp only [contains_eq_false_iff]
  exact Table.isEmpty_iff module.filters

/-- What a filter makes of its params is never taken for a name that is not known. -/
theorem compile_eq_unknown_iff (module : FilterModule) (params : List Json) :
    module.compile name params = .error (.unknownFilter name) ↔ module.contains name = false := by
  rw [compile_eq_error_iff, contains_eq_false_iff]
  simp

-- ---------------------------------------------------------------------------
-- The laws
-- ---------------------------------------------------------------------------

/-- What a module knows, lists and compiles, by the parts it is put together of. -/
structure AssemblyLaws (parts : List Part) : Prop where
  resolved : ∀ name f, (ofParts parts).get? name = some f ↔ Resolves parts name f
  known : ∀ name, (ofParts parts).contains name = true ↔ ∃ part ∈ parts, part.Provides name
  /-- As a part of another module it provides every name that it knows. -/
  provided : ∀ name, (Part.extend parts).Provides name ↔ (ofParts parts).contains name = true
  /-- To copy it is to register its filters one by one, in any order. -/
  copied : ∀ (module : FilterModule) (entries : List (String × Filter)),
    entries.Perm (ofParts parts).filters.entries →
    module.extend (ofParts parts) =
      entries.foldl (fun acc entry => acc.filter entry.1 entry.2) module
  ascending : (ofParts parts).names.Pairwise (fun a b => Text.bytes a < Text.bytes b)
  listed : ∀ name, name ∈ (ofParts parts).names ↔ ∃ part ∈ parts, part.Provides name
  size : (ofParts parts).size = (ofParts parts).names.length
  isEmpty : (ofParts parts).isEmpty = true ↔ ∀ part ∈ parts, ∀ name, ¬ part.Provides name
  unknown : ∀ name params, (ofParts parts).compile name params = .error (.unknownFilter name) ↔
    (ofParts parts).contains name = false
  /-- A known name compiles to what its filter makes of the params, a failure included. -/
  compiled : ∀ name, (ofParts parts).contains name = true →
    ∃ f, Resolves parts name f ∧
      ∀ params, (ofParts parts).compile name params = (f params).mapError .filter

/-- Names resolve to the last registration, however modules are put together of others: a later
filter or module replaces what earlier ones have registered under the same names. -/
theorem resolves_to_last (parts : List Part) : AssemblyLaws parts where
  resolved _ _ := get?_ofParts_eq_some_iff
  known _ := contains_ofParts_iff
  provided _ := Part.provides_extend_iff.trans contains_ofParts_iff.symm
  copied module _ h := extend_eq_foldl_of_perm module (ofParts parts) h
  ascending := names_ascending _
  listed _ := (mem_names_iff _).trans contains_ofParts_iff
  size := (Table.length_keys _).symm
  isEmpty := by
    simp only [isEmpty_iff, Bool.eq_false_iff, ne_eq, contains_ofParts_iff]
    constructor
    · intro h part hPart name hProvides
      exact h name ⟨part, hPart, hProvides⟩
    · rintro h name ⟨part, hPart, hProvides⟩
      exact h part hPart name hProvides
  unknown _ params := compile_eq_unknown_iff _ params
  compiled name hKnown := by
    obtain ⟨f, hGet⟩ := Option.isSome_iff_exists.mp hKnown
    exact ⟨f, get?_ofParts_eq_some_iff.mp hGet, compile_of_get? hGet⟩

/-- Parts whose names collide, on one level and between levels. -/
def Part.colliding : List Part :=
  [.filter "b" Probe.never,
    .extend [.filter "é" Builtin.all, .filter "b" Probe.reject,
      .extend [.filter "a" Probe.never, .filter "b" Probe.explode]],
    .filter "a" Probe.reject]

/-- The filter of the innermost module replaces the two before it, and is replaced in its turn where
a later one has its name. -/
theorem resolves_to_last_colliding :
    (ofParts Part.colliding).names = ["a", "b", "é"] ∧
      (ofParts Part.colliding).get? "b" = some Probe.explode ∧
      (ofParts Part.colliding).compile "a" [.string "no"] =
        .error (.filter (.invalidParams "no")) ∧
      (ofParts Part.colliding).compile "c" [] = .error (.unknownFilter "c") := by
  have hLaws := resolves_to_last Part.colliding
  have hInner : Part.Gives "b" Probe.explode
      (.extend [.filter "a" Probe.never, .filter "b" Probe.explode]) :=
    @Part.Gives.extend _ _ [_] [] _ .filter (by simp)
  have hOuter : Resolves Part.colliding "b" Probe.explode :=
    ⟨[_], _, [_], rfl, @Part.Gives.extend _ _ [_, _] [] _ hInner (by simp), by simp⟩
  have hLater : Resolves Part.colliding "a" Probe.reject := ⟨[_, _], _, [], rfl, .filter, by simp⟩
  refine ⟨by decide, (hLaws.resolved _ _).mpr hOuter, ?_, (hLaws.unknown _ _).mpr (by decide)⟩
  exact compile_of_get? ((hLaws.resolved _ _).mpr hLater) _

end FilterModule

end Fanout
