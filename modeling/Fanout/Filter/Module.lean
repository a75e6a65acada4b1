import Fanout.Filter.Predicate

/-!
# Fanout — filter modules

A filter module gives names to filters. It is put together once, step by step,
and compiles publications from then on.

## Main definitions

* `Filter` — params to a predicate, or a failure.
* `FilterModule.build` — the module of a list of steps; a later step wins on equal names.
* `FilterModule.compile` — resolve a name and run its filter on params.

## Results

* `FilterModule.compile_of_get?`, `FilterModule.compile_eq_error_iff` — what compiling comes to.
-/

namespace Fanout

/-- A filter makes a predicate from params. -/
abbrev Filter := List Json → Except FilterError Predicate

/-- Filters by name. -/
structure FilterModule where
  filters : Table String Filter

namespace FilterModule

/-- The module without filters. -/
def empty : FilterModule := ⟨Table.empty⟩

/-- Register a filter; it replaces one of the same name. -/
def filter (module : FilterModule) (name : String) (f : Filter) : FilterModule :=
  ⟨module.filters.insert name f⟩

/-- Copy every filter of another module; each replaces one of the same name. -/
def extend (module other : FilterModule) : FilterModule := ⟨module.filters.union other.filters⟩

/-- A step of putting a module together. -/
inductive Step where
  | filter (name : String) (f : Filter)
  | extend (other : FilterModule)

/-- One step more. -/
def apply (module : FilterModule) : Step → FilterModule
  | .filter name f => module.filter name f
  | .extend other => module.extend other

/-- The module that a list of steps puts together. -/
def build (steps : List Step) : FilterModule := steps.foldl apply empty

/-- The filter of a name. -/
def get? (module : FilterModule) (name : String) : Option Filter := module.filters.get? name

/-- Whether there is a filter of a name. -/
def contains (module : FilterModule) (name : String) : Bool := module.filters.contains name

/-- The names, ascending. -/
def names (module : FilterModule) : List String := module.filters.keys

/-- The number of filters. -/
def size (module : FilterModule) : Nat := module.filters.size

/-- Whether there is no filter. -/
def isEmpty (module : FilterModule) : Bool := module.filters.isEmpty

/-- Resolve a name and run its filter on params. -/
def compile (module : FilterModule) (name : String) (params : List Json) :
    Except PublicationError Predicate :=
  match module.get? name with
  | none => .error (.unknownFilter name)
  | some f => (f params).mapError .filter

theorem compile_of_get? {module : FilterModule} {name : String} {f : Filter}
    (h : module.get? name = some f) (params : List Json) :
    module.compile name params = (f params).mapError .filter := by
  unfold compile
  rw [h]

/-- Compiling fails for a name that is not known, and where the filter of the name fails. -/
theorem compile_eq_error_iff {module : FilterModule} {name : String} {params : List Json}
    {error : PublicationError} :
    module.compile name params = .error error ↔
      (module.get? name = none ∧ error = .unknownFilter name) ∨
        ∃ filter failure, module.get? name = some filter ∧ filter params = .error failure ∧
          error = .filter failure := by
  cases hGet : module.get? name with
  | none =>
    unfold compile
    simp [hGet, eq_comm]
  | some filter =>
    rw [compile_of_get? hGet]
    cases hFilter : filter params with
    | ok predicate =>
      refine iff_of_false (fun h => ?_) (by simp [hFilter])
      cases h
    | error failure =>
      show Except.error (PublicationError.filter failure) = .error error ↔ _
      simp [hFilter, eq_comm]

/-- Every predicate that the module compiles is pure. -/
def Pure (module : FilterModule) : Prop :=
  ∀ name params predicate, module.compile name params = .ok predicate → predicate.Pure

end FilterModule

end Fanout
