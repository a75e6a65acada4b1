import Fanout.Filter.Builtin
import Fanout.Proofs.Exposure
import Fanout.Proofs.Veil
import Mathlib.Tactic.Tauto

/-!
# Fanout — which fields are stripped, and what of a record is left

Fields that only the server may see are listed call by call, for one service or for
all. What counts in the end is which fields are listed under which name, and not the
order of the calls, nor that a field is listed twice or a list is spread over calls.

To strip a record is then to take away the members of these names, of an object, at
the top. `Json.Stripped` says so by look-ups, which settle a canonical value, and
every routing shows its event to clients in that form.

## Main definitions

* `Config.listing` — a configuration put together by calls that list fields.
* `Config.Lists`, `Config.InEffect` — what calls list, and what of it concerns a service.
* `Config.FieldLaws`, `Json.StrippingLaws`, `Frame.Shows` — what is claimed of the fields, of a
  record, and of a routing.

## Results

* `Config.listed_foldl` — the lists of all calls, one after the other.
* `Json.Stripped.reach?_eq`, `Json.without_without` — what is left of a record.
* `Config.stripping_is_exact` — the laws.
-/

namespace Fanout

-- ---------------------------------------------------------------------------
-- Fields that are listed
-- ---------------------------------------------------------------------------

namespace Config

/-- The settings with the fields that a sequence of calls lists, and no others. -/
def listing (settings : Config) (calls : List (String × List String)) : Config :=
  calls.foldl (fun config call => config.withServerFields call.1 call.2)
    { settings with serverFields := Table.empty }

/-- One of the calls lists a field under a name. -/
def Lists (calls : List (String × List String)) (name field : String) : Prop :=
  ∃ call ∈ calls, call.1 = name ∧ field ∈ call.2

/-- A field is listed for all services, or for the one in question. -/
def InEffect (calls : List (String × List String)) (service field : String) : Prop :=
  Lists calls allServices field ∨ Lists calls service field

variable {calls : List (String × List String)} {service field : String}

theorem listed_withServerFields (config : Config) (name : String) (fields : List String)
    (service : String) : (config.withServerFields name fields).listed service =
      config.listed service ++ if name = service then fields else [] := by
  unfold withServerFields
  rw [listed]
  dsimp only
  rw [Table.get?_insert]
  by_cases hName : service = name
  · rw [if_pos hName, if_pos hName.symm, hName]
    rfl
  · rw [if_neg hName, if_neg (Ne.symm hName), List.append_nil]
    rfl

/-- What is listed under a name is what was there, and then the lists of all calls for it. -/
theorem listed_foldl (config : Config) (calls : List (String × List String)) (service : String) :
    (calls.foldl (fun config call => config.withServerFields call.1 call.2) config).listed
      service = config.listed service ++
        calls.flatMap (fun call => if call.1 = service then call.2 else []) := by
  induction calls generalizing config with
  | nil => simp
  | cons call rest ih =>
    rw [List.foldl_cons, ih, listed_withServerFields, List.flatMap_cons, List.append_assoc]

theorem mem_listed_listing (settings : Config) :
    field ∈ (settings.listing calls).listed service ↔ Lists calls service field := by
  unfold listing Lists
  have hNone : ({ settings with serverFields := Table.empty } : Config).listed service = [] := rfl
  rw [listed_foldl, hNone, List.nil_append, List.mem_flatMap]
  refine exists_congr (fun call => and_congr_right (fun _ => ?_))
  by_cases hName : call.1 = service <;> simp [hName]

theorem mem_serverFieldsFor_listing (settings : Config) :
    field ∈ (settings.listing calls).serverFieldsFor service ↔ InEffect calls service field := by
  rw [mem_serverFieldsFor_iff, mem_listed_listing, mem_listed_listing]
  rfl

end Config

-- ---------------------------------------------------------------------------
-- Records
-- ---------------------------------------------------------------------------

namespace Json

variable {hidden : String → Prop} {record exposed : Json} {fields : List String}

/-- Below a member that is not hidden nothing is, whatever the keys are. -/
theorem Stripped.reach?_eq (h : Stripped hidden record exposed) {key : String}
    (hOpen : ¬ hidden key) (rest : List String) :
    exposed.reach? (key :: rest) = record.reach? (key :: rest) := by
  cases h with
  | object hGone hKept => rw [reach?, reach?, get?, get?, hKept key hOpen]
  | other => rfl

/-- To strip fields and then others is to strip all of them. -/
theorem without_append (record : Json) (first second : List String) :
    record.without (first ++ second) = (record.without first).without second := by
  cases record with
  | object members =>
    simp only [without_object, List.filter_filter]
    congr 1
    refine List.filter_congr (fun member _ => ?_)
    simp [Bool.and_comm]
  | null | bool | number | string | array => rfl

theorem without_congr {others : List String} (h : ∀ key, key ∈ fields ↔ key ∈ others)
    (record : Json) : record.without fields = record.without others := by
  cases record with
  | object members =>
    simp only [without_object]
    congr 1
    refine List.filter_congr (fun member _ => ?_)
    simp [h]
  | null | bool | number | string | array => rfl

/-- What is stripped of the same fields again stays as it is. -/
theorem without_without (record : Json) (fields : List String) :
    (record.without fields).without fields = record.without fields := by
  rw [← without_append]
  exact without_congr (by simp) record

end Json

-- ---------------------------------------------------------------------------
-- The laws
-- ---------------------------------------------------------------------------

/-- The fields in effect for a service, as calls have listed them. -/
structure Config.FieldLaws (settings : Config) (calls : List (String × List String))
    (service : String) : Prop where
  ascending : ((settings.listing calls).serverFieldsFor service).Pairwise
    (fun a b => compare a b = .lt)
  exact : ∀ field, field ∈ (settings.listing calls).serverFieldsFor service ↔
    Config.InEffect calls service field
  /-- Calls that list the same come to the same, however they are ordered, repeated or split. -/
  settled : ∀ others : List (String × List String),
    (∀ name field, Config.Lists calls name field ↔ Config.Lists others name field) →
    (settings.listing calls).serverFieldsFor service =
      (settings.listing others).serverFieldsFor service

/-- What is left of a record once fields are stripped of it. -/
structure Json.StrippingLaws (hidden : String → Prop) (fields : List String) (record : Json) :
    Prop where
  stripped : Json.Stripped hidden record (record.without fields)
  unique : record.Canonical → ∀ exposed : Json, exposed.Canonical →
    (Json.Stripped hidden record exposed ↔ exposed = record.without fields)
  /-- What is inside the members that are left is not touched. -/
  below : ∀ {key : String}, ¬ hidden key → ∀ rest,
    (record.without fields).reach? (key :: rest) = record.reach? (key :: rest)
  twice : (record.without fields).without fields = record.without fields

/-- A routing shows of its event what is left when hidden fields are stripped of it: in deliveries,
and to the predicates of publications that are not for the server. -/
structure Frame.Shows (hidden : String → Prop) (frame : Frame) : Prop where
  delivered : ∀ connection,
    Json.Stripped hidden frame.mutation.after (frame.delivery connection).record
  tested : ∀ publication : Publication, publication.ifServer = false →
    Json.Stripped hidden
      (if publication.checkBefore then frame.mutation.candidate else frame.mutation.after)
      (frame.views.tested publication)

theorem Config.fieldLaws_listing (settings : Config) (calls : List (String × List String))
    (service : String) : FieldLaws settings calls service where
  ascending := serverFieldsFor_ascending _ service
  exact _ := mem_serverFieldsFor_listing settings
  settled others hSame := by
    refine eq_of_ascending_of_mem_iff (serverFieldsFor_ascending _ service)
      (serverFieldsFor_ascending _ service) (fun field => ?_)
    rw [mem_serverFieldsFor_listing, mem_serverFieldsFor_listing]
    unfold InEffect
    rw [hSame, hSame]

theorem Json.strippingLaws_of_mem_iff {hidden : String → Prop} {fields : List String}
    (hFields : ∀ key, key ∈ fields ↔ hidden key) (record : Json) :
    StrippingLaws hidden fields record where
  stripped := stripped_without hFields record
  unique hCanonical exposed hExposed := by
    constructor
    · intro h
      exact h.unique (stripped_without hFields record) hExposed (hCanonical.without fields)
    · rintro rfl
      exact stripped_without hFields record
  below hOpen rest := (stripped_without hFields record).reach?_eq hOpen rest
  twice := without_without record fields

theorem Frame.Veiled.shows {config : Config} {frame : Frame} {hidden : String → Prop}
    (h : frame.Veiled config)
    (hFields : ∀ key, key ∈ config.serverFieldsFor frame.mutation.service ↔ hidden key) :
    frame.Shows hidden := by
  constructor
  · intro connection
    have hRecord : (frame.delivery connection).record = frame.views.clientAfter := rfl
    rw [hRecord, h]
    exact Json.stripped_without hFields _
  · intro publication hPlain
    unfold Server.Views.tested
    rw [h, hPlain]
    cases publication.checkBefore <;> exact Json.stripped_without hFields _

/-- Stripping is exact, whatever calls have put the configuration together. The fields in effect for
a service are those listed for it or for all services, once each and ascending; a record stripped of
them has all its other members and nothing else; and no routing on a run shows clients more or less
than that. -/
theorem Config.stripping_is_exact (settings : Config) (calls : List (String × List String)) :
    (∀ service, FieldLaws settings calls service ∧
      ∀ record : Json, Json.StrippingLaws (InEffect calls service)
        ((settings.listing calls).serverFieldsFor service) record) ∧
    ∀ filters commands events machine,
      Machine.Run ⟨Server.new filters (settings.listing calls), []⟩ commands events machine →
      ∀ frame ∈ machine.routings, frame.Shows (InEffect calls frame.mutation.service) := by
  refine ⟨fun service => ⟨fieldLaws_listing settings calls service, fun record => ?_⟩, ?_⟩
  · exact Json.strippingLaws_of_mem_iff (fun _ => mem_serverFieldsFor_listing settings) record
  · intro filters commands events machine hRun frame hFrame
    exact (hRun.veiled.1 frame hFrame).shows (fun _ => mem_serverFieldsFor_listing settings)

/-- Fields of orders, and one of all services. -/
def Config.orderCalls : List (String × List String) :=
  [("*", ["secret"]), ("orders", ["cost", "secret"]), ("orders", ["owner.team"])]

/-- The same fields, listed in another way. -/
def Config.otherCalls : List (String × List String) :=
  [("orders", ["owner.team", "secret", "cost"]), ("*", ["secret", "secret"])]

/-- An order with a cost, and with an owner who has a cost and a team. -/
def Mutation.ownedOrder : Mutation :=
  ⟨"orders", .created, none, .object [("cost", .string "3"),
    ("owner", .object [("cost", .string "4"), ("team", .string "core")])]⟩

theorem Config.stripping_is_exact_nested :
    (∀ name field, Lists orderCalls name field ↔ Lists otherCalls name field) ∧
    (listing {} otherCalls).serverFieldsFor "orders" = ["cost", "owner.team", "secret"] ∧
    ¬ InEffect orderCalls "orders" "owner" ∧
    (Mutation.ownedOrder.after.without ((listing {} orderCalls).serverFieldsFor "orders")).reach?
      ["owner", "team"] = some (.string "core") ∧
    ∃ machine frame,
      Machine.Run ⟨Server.new Builtin.module (listing {} orderCalls), []⟩
        [.request (.publish .ownedOrder)] [] machine ∧
      frame ∈ machine.routings ∧ frame.Shows (InEffect orderCalls "orders") := by
  obtain ⟨hServices, hRuns⟩ := stripping_is_exact {} orderCalls
  obtain ⟨hFields, hRecords⟩ := hServices "orders"
  have hSame : ∀ name field, Lists orderCalls name field ↔ Lists otherCalls name field := by
    intro name field
    simp only [Lists, orderCalls, otherCalls, List.mem_cons, List.not_mem_nil, or_false,
      exists_eq_or_imp, exists_eq_left]
    tauto
  have hList : (listing {} orderCalls).serverFieldsFor "orders" =
      ["cost", "owner.team", "secret"] := by decide
  have hOpen : ¬ InEffect orderCalls "orders" "owner" := by
    rw [← hFields.exact, hList]
    decide
  refine ⟨hSame, (hFields.settled _ hSame).symm.trans hList, hOpen,
    (hRecords Mutation.ownedOrder.after).below hOpen ["team"], ?_⟩
  have hRun : Machine.Run ⟨Server.new Builtin.module (listing {} orderCalls), []⟩
      [.request (.publish .ownedOrder)] [] ⟨_, [Frame.start _ true .ownedOrder]⟩ :=
    .issue .start (.routing rfl)
  exact ⟨_, _, hRun, List.mem_singleton_self _,
    hRuns _ _ _ _ hRun _ (List.mem_singleton_self _)⟩

end Fanout
