import Fanout.Registry.Basic

/-!
# Fanout — what is seen of an event

Clients see a record without the fields that only the server may see, and so do the
predicates of publications that are not for the server. A publication asks besides
for the record before the change or for the one after it.

Both are said here by what is looked up in records and what the configuration lists,
and not by the functions that take members out; those are shown to come to the same.

## Main definitions

* `Json.Stripped` — a record without its members under hidden keys.
* `Config.Hides`, `Config.Exposes` — which fields are hidden, and what is seen of a record.
* `Publication.Tests` — the record of an event that a publication is tested on.

## Results

* `Json.stripped_without`, `Json.Stripped.unique` — what is left of a record.
* `Publication.tests_testedOn`, `Publication.Tests.unique` — the record tested is settled.
-/

namespace Fanout

/-! ## Records -/

namespace Entries

theorem find?_filter_keys {α : Type} (keep : String → Bool) (key : String)
    (entries : List (String × α)) :
    find? key (entries.filter (fun entry => keep entry.1)) =
      if keep key then find? key entries else none := by
  induction entries with
  | nil => simp [find?]
  | cons entry rest ih =>
    obtain ⟨first, value⟩ := entry
    by_cases hFirst : key = first
    · -- the entry stays or goes with its key
      subst hFirst
      cases hKeep : keep key <;> simp [find?, hKeep, ih]
    · cases hKeep : keep first <;> simp [find?, hKeep, hFirst, ih]

end Entries

namespace Json

variable {hidden : String → Prop} {record exposed other : Json} {fields : List String}

/-- A record without its members under hidden keys: an object has all others as they were, and what
is no object is as it was. -/
inductive Stripped (hidden : String → Prop) : Json → Json → Prop
  | object {members kept} (hGone : ∀ key, hidden key → Entries.find? key kept = none)
      (hKept : ∀ key, ¬ hidden key → Entries.find? key kept = Entries.find? key members) :
      Stripped hidden (.object members) (.object kept)
  | other {value} (h : ∀ members, value ≠ .object members) : Stripped hidden value value

theorem stripped_without (hFields : ∀ key, key ∈ fields ↔ hidden key) (record : Json) :
    Stripped hidden record (record.without fields) := by
  cases record with
  | object members =>
    have hFind : ∀ key, Entries.find? key (members.filter (fun member =>
        decide (member.1 ∉ fields))) = if decide (key ∉ fields) then Entries.find? key members
          else none :=
      fun key => Entries.find?_filter_keys (fun key => decide (key ∉ fields)) key members
    rw [without_object]
    refine .object (fun key hHidden => ?_) (fun key hOpen => ?_)
    · have hIn : key ∈ fields := (hFields key).mpr hHidden
      rw [hFind, if_neg (by simpa using hIn)]
    · have hOut : key ∉ fields := fun hIn => hOpen ((hFields key).mp hIn)
      rw [hFind, if_pos (by simpa using hOut)]
  | null | bool | number | string | array => exact .other (by simp)

/-- What is left of a record is settled, as far as canonical values go. -/
theorem Stripped.unique (h : Stripped hidden record exposed) (hOther : Stripped hidden record other)
    (hCanonical : exposed.Canonical) (hOtherCanonical : other.Canonical) : exposed = other := by
  cases h with
  | object hGone hKept =>
    cases hOther with
    | object hOtherGone hOtherKept =>
      cases hCanonical with
      | object hAscending =>
        cases hOtherCanonical with
        | object hOtherAscending =>
          congr 1
          refine Entries.ext_of_ascending hAscending hOtherAscending (fun key => ?_)
          by_cases hKey : hidden key
          · rw [hGone key hKey, hOtherGone key hKey]
          · rw [hKept key hKey, hOtherKept key hKey]
    | other hNone => exact absurd rfl (hNone _)
  | other hNone =>
    cases hOther with
    | object => exact absurd rfl (hNone _)
    | other => rfl

end Json

/-! ## What clients see -/

/-- A field is listed for all services, or for the one in question. -/
def Config.Hides (config : Config) (service field : String) : Prop :=
  field ∈ config.listed allServices ∨ field ∈ config.listed service

/-- What clients see of a record of a service: all but the hidden fields, as canonical as the record
is. -/
structure Config.Exposes (config : Config) (service : String) (record exposed : Json) : Prop where
  stripped : Json.Stripped (config.Hides service) record exposed
  canonical : record.Canonical → exposed.Canonical

theorem Config.exposes_without (config : Config) (service : String) (record : Json) :
    config.Exposes service record (record.without (config.serverFieldsFor service)) where
  stripped := Json.stripped_without (fun _ => mem_serverFieldsFor_iff) record
  canonical hCanonical := hCanonical.without _

theorem Config.Exposes.unique {config : Config} {service : String} {record exposed other : Json}
    (h : config.Exposes service record exposed) (hOther : config.Exposes service record other)
    (hCanonical : record.Canonical) : exposed = other :=
  h.stripped.unique hOther.stripped (h.canonical hCanonical) (hOther.canonical hCanonical)

/-! ## What publications are tested on -/

namespace Mutation

/-- The records of an event are canonical. -/
structure Canonical (mutation : Mutation) : Prop where
  before : ∀ record, mutation.before = some record → record.Canonical
  after : mutation.after.Canonical

/-- The record that shows whether a subscriber knew of it: the one before the change, or the one
after it if there is none before. -/
inductive Precedes (mutation : Mutation) : Json → Prop
  | before {record} (h : mutation.before = some record) : Precedes mutation record
  | after (h : mutation.before = none) : Precedes mutation mutation.after

variable {mutation : Mutation} {record other : Json}

theorem precedes_candidate (mutation : Mutation) : mutation.Precedes mutation.candidate := by
  unfold candidate
  cases hBefore : mutation.before with
  | none => exact .after hBefore
  | some record => exact .before hBefore

theorem Precedes.unique (h : mutation.Precedes record) (hOther : mutation.Precedes other) :
    record = other := by
  cases h with
  | before hBefore =>
    cases hOther with
    | before hSame => exact Option.some.inj (hBefore.symm.trans hSame)
    | after hNone => cases hBefore.symm.trans hNone
  | after hNone =>
    cases hOther with
    | before hSame => cases hNone.symm.trans hSame
    | after => rfl

theorem Precedes.canonical (h : mutation.Precedes record) (hCanonical : mutation.Canonical) :
    record.Canonical := by
  cases h with
  | before hBefore => exact hCanonical.before _ hBefore
  | after => exact hCanonical.after

/-- What a connection is handed of an event that its publication accepts. -/
def deliveryTo (mutation : Mutation) (config : Config) (connection : ConnectionId) : Delivery :=
  ⟨connection, mutation.service, mutation.operation,
    mutation.after.without (config.serverFieldsFor mutation.service)⟩

end Mutation

namespace Publication

/-- The record of an event that a publication is tested on, by its two flags. -/
inductive Tests (publication : Publication) (config : Config) (mutation : Mutation) : Json → Prop
  | serverCandidate {record} (hBefore : publication.checkBefore = true)
      (hServer : publication.ifServer = true) (hRecord : mutation.Precedes record) :
      Tests publication config mutation record
  | clientCandidate {record exposed} (hBefore : publication.checkBefore = true)
      (hClient : publication.ifServer = false) (hRecord : mutation.Precedes record)
      (hExposed : config.Exposes mutation.service record exposed) :
      Tests publication config mutation exposed
  | serverAfter (hAfter : publication.checkBefore = false)
      (hServer : publication.ifServer = true) : Tests publication config mutation mutation.after
  | clientAfter {exposed} (hAfter : publication.checkBefore = false)
      (hClient : publication.ifServer = false)
      (hExposed : config.Exposes mutation.service mutation.after exposed) :
      Tests publication config mutation exposed

/-- The record of an event that a publication is tested on. -/
def testedOn (publication : Publication) (config : Config) (mutation : Mutation) : Json :=
  let record := if publication.checkBefore then mutation.candidate else mutation.after
  if publication.ifServer then record
  else record.without (config.serverFieldsFor mutation.service)

variable {publication : Publication} {config : Config} {mutation : Mutation} {record other : Json}

theorem tests_testedOn (publication : Publication) (config : Config) (mutation : Mutation) :
    publication.Tests config mutation (publication.testedOn config mutation) := by
  unfold testedOn
  cases hBefore : publication.checkBefore with
  | true =>
    cases hServer : publication.ifServer with
    | true => exact .serverCandidate hBefore hServer mutation.precedes_candidate
    | false =>
      exact .clientCandidate hBefore hServer mutation.precedes_candidate
        (config.exposes_without _ _)
  | false =>
    cases hServer : publication.ifServer with
    | true => exact .serverAfter hBefore hServer
    | false => exact .clientAfter hBefore hServer (config.exposes_without _ _)

/-- The record tested is settled, as far as canonical events go. -/
theorem Tests.unique (h : publication.Tests config mutation record)
    (hOther : publication.Tests config mutation other) (hCanonical : mutation.Canonical) :
    record = other := by
  cases h with
  | serverCandidate hBefore hServer hRecord =>
    cases hOther with
    | serverCandidate _ _ hSame => exact hRecord.unique hSame
    | clientCandidate _ hClient | clientAfter _ hClient => cases hServer.symm.trans hClient
    | serverAfter hAfter => cases hBefore.symm.trans hAfter
  | clientCandidate hBefore hClient hRecord hExposed =>
    cases hOther with
    | clientCandidate _ _ hSame hAlso =>
      cases hRecord.unique hSame
      exact hExposed.unique hAlso (hRecord.canonical hCanonical)
    | serverCandidate _ hServer | serverAfter _ hServer => cases hClient.symm.trans hServer
    | clientAfter hAfter => cases hBefore.symm.trans hAfter
  | serverAfter hAfter hServer =>
    cases hOther with
    | serverAfter => rfl
    | serverCandidate hBefore | clientCandidate hBefore => cases hAfter.symm.trans hBefore
    | clientAfter _ hClient => cases hServer.symm.trans hClient
  | clientAfter hAfter hClient hExposed =>
    cases hOther with
    | clientAfter _ _ hAlso => exact hExposed.unique hAlso hCanonical.after
    | serverCandidate hBefore | clientCandidate hBefore => cases hAfter.symm.trans hBefore
    | serverAfter _ hServer => cases hClient.symm.trans hServer

end Publication

end Fanout
