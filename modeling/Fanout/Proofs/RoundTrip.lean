import Fanout.Diagnostic
import Fanout.Mutation
import Fanout.Spec
import Mathlib.Data.List.Nodup

/-!
# Fanout — reading what was written

A type is faithful to its wire form if reading undoes writing, alone and inside a
tagged record. Faithfulness goes from the fields of a record to the record, and from
items to lists. All wire types have it but one: the record before a mutation may be
null, which is written as it is and read as no record before.

## Main definitions

* `Wire.Faithful` — what is written is read back as it was.
* `Mutation.received` — a mutation as the reader of its written form gets it.

## Results

* `Layout.get_value`, `Layout.decode_object` — how a record is read field by field.
* `Wire.written_is_read` — the wire types that are faithful.
* `Mutation.decode_encode` — what becomes of a mutation.
* `Mutation.survives_wire_iff` — and which mutations are read back as they were.
-/

namespace Fanout

/-- What is written is read back as it was, alone and inside a tagged record. -/
def Wire.Faithful (α : Type) [Wire α] : Prop :=
  ∀ (buffered : Bool) (value : α), Wire.decode buffered (Wire.encode value) = .ok value

namespace Wire.Faithful

variable {α : Type} [Wire α]

theorem ofJson (h : Wire.Faithful α) (value : α) : Wire.ofJson (Wire.encode value) = .ok value :=
  h false value

/-- Values that are written alike are the same. -/
theorem injective (h : Wire.Faithful α) : Function.Injective (Wire.encode : α → Json) := by
  intro first second hSame
  have hRead := h.ofJson first
  rw [hSame, h.ofJson second] at hRead
  exact (Except.ok.inj hRead).symm

/-! ## Plain forms -/

theorem json : Wire.Faithful Json := fun _ _ => rfl

theorem string : Wire.Faithful String := fun _ _ => rfl

theorem bool : Wire.Faithful Bool := fun _ _ => rfl

theorem word : Wire.Faithful UInt64 := by
  intro buffered word
  -- a numeral is read as an integer, and this one is in the range of a word
  show (if (0 : Int) ≤ word.toNat then Except.ok (UInt64.ofNat (word.toNat : Int).toNat) else _) =
    Except.ok word
  rw [if_pos (Int.natCast_nonneg _), Int.toNat_natCast, UInt64.ofNat_toNat]

theorem list (h : Wire.Faithful α) : Wire.Faithful (List α) := by
  intro buffered items
  show Wire.decodeItems buffered (items.map Wire.encode) = .ok items
  -- by induction on the items: the first one that fails would end the reading, and none does
  induction items with
  | nil => rfl
  | cons item rest ih =>
    show (Wire.decode buffered (Wire.encode item)).bind _ = _
    rw [h buffered item]
    show (Wire.decodeItems buffered (rest.map Wire.encode)).bind _ = _
    rw [ih]
    rfl

end Wire.Faithful

/-! ## Records -/

namespace Layout

variable {α : Type} {layout : Layout} {buffered : Bool} {fields : Fields} {field : String}
  {written : Json} {members : List (String × Json)} {read : Fields → Reading α} {value : α}

theorem present_value {decode : Json → Except DecodeError α} (h : decode written = .ok value) :
    layout.present fields field decode written = .value value := by
  unfold present
  rw [h]

theorem get_value [Wire α] (hFind : layout.find? fields field = some written)
    (hRead : Wire.decode buffered written = .ok value) :
    layout.get buffered fields field = .value value := by
  unfold get required
  rw [hFind]
  exact present_value hRead

theorem getD_value [Wire α] (hFind : layout.find? fields field = some written)
    (hRead : Wire.decode buffered written = .ok value) (default : α) :
    layout.getD buffered fields field default = .value value := by
  unfold getD defaulted
  rw [hFind]
  exact present_value hRead

theorem getD_absent [Wire α] (hFind : layout.find? fields field = none) (default : α) :
    layout.getD buffered fields field default = .value default := by
  unfold getD defaulted
  rw [hFind]

theorem readFields_members (h : read (.members members) = .value value) :
    layout.readFields buffered read (.members members) = .ok value := by
  unfold readFields
  rw [h]
  rfl

theorem decode_object (h : read (.members members) = .value value) :
    layout.decode buffered read (.object members) = .ok value :=
  readFields_members h

end Layout

namespace Wire.Faithful

theorem connection : Wire.Faithful ConnectionId := by
  intro buffered connection
  -- a connection is written as its number
  show (Wire.decode buffered (Wire.encode connection.val)).map ConnectionId.mk = .ok connection
  rw [word buffered connection.val]
  rfl

theorem operation : Wire.Faithful Operation := by
  intro buffered operation
  cases operation <;> rfl

theorem dropReason : Wire.Faithful DropReason := by
  intro buffered reason
  cases reason <;> rfl

theorem flags : Wire.Faithful Flags := by
  intro buffered flags
  refine Layout.decode_object ?_
  rw [Layout.get_value rfl (bool buffered flags.ifServer),
    Layout.get_value rfl (bool buffered flags.checkBefore)]
  rfl

theorem spec : Wire.Faithful PublicationSpec := by
  intro buffered spec
  refine Layout.decode_object ?_
  -- every member is written, so that no default comes in
  rw [Layout.get_value rfl (string buffered spec.name),
    Layout.getD_value rfl (json buffered spec.params),
    Layout.getD_value rfl (bool buffered spec.ifServer),
    Layout.getD_value rfl (bool buffered spec.checkBefore)]
  rfl

theorem delivery : Wire.Faithful Delivery := by
  intro buffered delivery
  refine Layout.decode_object ?_
  rw [Layout.get_value rfl (connection buffered delivery.connection),
    Layout.get_value rfl (string buffered delivery.service),
    Layout.get_value rfl (operation buffered delivery.operation),
    Layout.get_value rfl (json buffered delivery.record)]
  rfl

end Wire.Faithful

/-! ## Diagnostics -/

namespace Diagnostic

variable {diagnostic : Diagnostic} {source : String} {members : List (String × Json)}

theorem decodeSource_string {variant : Variant}
    (hVariant : Entries.find? source variants = some variant) :
    decodeSource (.string source) = .ok variant := by
  unfold decodeSource
  dsimp only
  unfold Wire.decodeName
  rw [hVariant]

/-- A diagnostic is read off the variant that its source names. -/
theorem decode_object {variant : Variant}
    (hSource : Entries.find? "source" members = some (.string source))
    (hVariant : Entries.find? source variants = some variant) :
    decode (.object members) =
      variant.layout.readFields true variant.read (.members members) := by
  -- the source is looked at first, and settles which fields are read
  unfold decode
  dsimp only
  rw [hSource]
  show (decodeSource (.string source)).bind _ = _
  rw [decodeSource_string hVariant]
  rfl

theorem decode_members (variant : Variant)
    (hSource : Entries.find? "source" members = some (.string source))
    (hVariant : Entries.find? source variants = some variant)
    (hRead : variant.read (.members members) = .value diagnostic) :
    decode (.object members) = .ok diagnostic := by
  rw [decode_object hSource hVariant]
  exact Layout.readFields_members hRead

theorem faithful : Wire.Faithful Diagnostic := by
  intro buffered diagnostic
  -- whatever reads the diagnostic, its fields are read from a buffer
  cases diagnostic with
  | addPublication service name params flags store =>
    refine decode_members addVariant rfl rfl ?_
    -- the params are values already, and are written as they are
    have hParams : Wire.decode true (.array params) = .ok params := by
      have hRead := Wire.Faithful.json.list true params
      rwa [show Wire.encode params = .array params from congrArg Json.array (List.map_id params)]
        at hRead
    unfold addVariant
    dsimp only
    rw [Layout.get_value rfl (Wire.Faithful.string true service),
      Layout.get_value rfl (Wire.Faithful.string true name),
      Layout.get_value rfl hParams,
      Layout.get_value rfl (Wire.Faithful.bool true flags.ifServer),
      Layout.get_value rfl (Wire.Faithful.bool true flags.checkBefore),
      Layout.get_value rfl (Wire.Faithful.flags true store)]
    rfl
  | removePublication service keys =>
    refine decode_members removeVariant rfl rfl ?_
    unfold removeVariant
    dsimp only
    rw [Layout.get_value rfl (Wire.Faithful.string true service),
      Layout.get_value rfl (Wire.Faithful.string.list true keys)]
    rfl
  | predicateError service connection name error =>
    refine decode_members errorVariant rfl rfl ?_
    unfold errorVariant
    dsimp only
    rw [Layout.get_value rfl (Wire.Faithful.string true service),
      Layout.get_value rfl (Wire.Faithful.connection true connection),
      Layout.get_value rfl (Wire.Faithful.string true name),
      Layout.get_value rfl (Wire.Faithful.string true error)]
    rfl
  | deliveryDropped service connection reason =>
    refine decode_members droppedVariant rfl rfl ?_
    unfold droppedVariant
    dsimp only
    rw [Layout.get_value rfl (Wire.Faithful.string true service),
      Layout.get_value rfl (Wire.Faithful.connection true connection),
      Layout.get_value rfl (Wire.Faithful.dropReason true reason)]
    rfl
  | connectionClosed connection released =>
    refine decode_members closedVariant rfl rfl ?_
    unfold closedVariant
    dsimp only
    rw [Layout.get_value rfl (Wire.Faithful.connection true connection),
      Layout.get_value rfl (Wire.Faithful.string.list true released)]
    rfl

/-- The members of a written form are in order, and are the source beside the fields of a variant,
none of which is called so. -/
theorem written_of_keys (variant : Variant) (keys : List String)
    (hKeys : members.map Prod.fst = keys)
    (hAscending : keys.Pairwise (fun a b => compare a b = .lt))
    (hFields : keys.Perm ("source" :: variant.layout.fields)) :
    Entries.Ascending members ∧ (members.map Prod.fst).Perm ("source" :: variant.layout.fields) ∧
      "source" ∉ variant.layout.fields := by
  -- an ascending list has no key twice
  have hNodup : keys.Nodup := hAscending.imp (fun {a b} hBelow hSame => by
    rw [hSame] at hBelow
    exact Entries.compare_self_ne_lt hBelow)
  have hMembers : Entries.Ascending members := by
    rw [← hKeys] at hAscending
    exact List.pairwise_map.mp hAscending
  refine ⟨hMembers, hKeys ▸ hFields, ?_⟩
  exact (List.nodup_cons.mp (hFields.nodup_iff.mp hNodup)).1

/-- The written form has one member for each field of its variant and one for the source. -/
theorem encode_members (diagnostic : Diagnostic) :
    ∃ variant members, Entries.find? diagnostic.source variants = some variant ∧
      encode diagnostic = .object members ∧
      Entries.find? "source" members = some (.string diagnostic.source) ∧
      Entries.Ascending members ∧ (members.map Prod.fst).Perm ("source" :: variant.layout.fields) ∧
      "source" ∉ variant.layout.fields := by
  cases diagnostic with
  | addPublication =>
    exact ⟨addVariant, _, rfl, rfl, rfl, written_of_keys addVariant
      ["checkBefore", "ifServer", "name", "params", "serviceName", "source", "store"] rfl
      (by decide) (by decide)⟩
  | removePublication =>
    exact ⟨removeVariant, _, rfl, rfl, rfl, written_of_keys removeVariant
      ["keys", "serviceName", "source"] rfl (by decide) (by decide)⟩
  | predicateError =>
    exact ⟨errorVariant, _, rfl, rfl, rfl, written_of_keys errorVariant
      ["connectionId", "error", "name", "serviceName", "source"] rfl (by decide) (by decide)⟩
  | deliveryDropped =>
    exact ⟨droppedVariant, _, rfl, rfl, rfl, written_of_keys droppedVariant
      ["connectionId", "reason", "serviceName", "source"] rfl (by decide) (by decide)⟩
  | connectionClosed =>
    exact ⟨closedVariant, _, rfl, rfl, rfl, written_of_keys closedVariant
      ["connectionId", "released", "source"] rfl (by decide) (by decide)⟩

end Diagnostic

/-- What is written is read back: specs, deliveries, operations, reasons, flags, the numbers of
connections and all diagnostics. A diagnostic is written as an object that names its source beside
the fields of its variant, none of which is called so; and different diagnostics are written
differently. -/
theorem Wire.written_is_read :
    (∀ spec : PublicationSpec, Wire.ofJson (Wire.encode spec) = .ok spec) ∧
    (∀ delivery : Delivery, Wire.ofJson (Wire.encode delivery) = .ok delivery) ∧
    (∀ operation : Operation, Wire.ofJson (Wire.encode operation) = .ok operation) ∧
    (∀ reason : DropReason, Wire.ofJson (Wire.encode reason) = .ok reason) ∧
    (∀ flags : Flags, Wire.ofJson (Wire.encode flags) = .ok flags) ∧
    (∀ connection : ConnectionId, Wire.ofJson (Wire.encode connection) = .ok connection) ∧
    (∀ diagnostic : Diagnostic, Wire.ofJson (Wire.encode diagnostic) = .ok diagnostic) ∧
    (∀ diagnostic : Diagnostic, ∃ variant members,
      Entries.find? diagnostic.source Diagnostic.variants = some variant ∧
      Wire.encode diagnostic = .object members ∧
      Entries.find? "source" members = some (.string diagnostic.source) ∧
      Entries.Ascending members ∧
      (members.map Prod.fst).Perm ("source" :: variant.layout.fields) ∧
      "source" ∉ variant.layout.fields) ∧
    Function.Injective (Wire.encode : Diagnostic → Json) :=
  ⟨Wire.Faithful.spec.ofJson, Wire.Faithful.delivery.ofJson, Wire.Faithful.operation.ofJson,
    Wire.Faithful.dropReason.ofJson, Wire.Faithful.flags.ofJson, Wire.Faithful.connection.ofJson,
    Diagnostic.faithful.ofJson, Diagnostic.encode_members, Diagnostic.faithful.injective⟩

/-! ## Mutations -/

/-- A value, unless it is null. -/
def Json.unlessNull : Json → Option Json
  | .null => none
  | value => some value

theorem Json.unlessNull_eq_some_iff {value : Json} :
    value.unlessNull = some value ↔ value ≠ .null := by
  cases value <;> simp [unlessNull]

namespace Mutation

/-- A mutation as the reader of its written form gets it: null before the change is read as no
record before. -/
def received (mutation : Mutation) : Mutation :=
  { mutation with before := mutation.before.bind Json.unlessNull }

theorem decode_before (buffered : Bool) (record : Json) :
    Wire.decode buffered record = .ok record.unlessNull := by
  cases record <;> rfl

theorem decode_encode (buffered : Bool) (mutation : Mutation) :
    Wire.decode buffered (Wire.encode mutation) = .ok mutation.received := by
  obtain ⟨service, operation, before, after⟩ := mutation
  refine Layout.decode_object ?_
  cases before with
  | none =>
    -- the member is left out, and stands for its default
    rw [Layout.get_value rfl (Wire.Faithful.string buffered service),
      Layout.get_value rfl (Wire.Faithful.operation buffered operation),
      Layout.getD_absent rfl,
      Layout.get_value rfl (Wire.Faithful.json buffered after)]
    rfl
  | some record =>
    rw [Layout.get_value rfl (Wire.Faithful.string buffered service),
      Layout.get_value rfl (Wire.Faithful.operation buffered operation),
      Layout.getD_value rfl (decode_before buffered record),
      Layout.get_value rfl (Wire.Faithful.json buffered after)]
    rfl

theorem received_eq_self_iff {mutation : Mutation} :
    mutation.received = mutation ↔ mutation.before ≠ some .null := by
  obtain ⟨service, operation, before, after⟩ := mutation
  -- without a record before there is nothing to lose, and otherwise it is lost if null
  cases before with
  | none => simp [received]
  | some record => simp [received, Json.unlessNull_eq_some_iff]

/-- A mutation is read back from its written form as it was, with the same candidate, unless the
record before the change is null; then it is read as a mutation without a record before, whose
candidate is the record after the change. -/
theorem survives_wire_iff (mutation : Mutation) :
    (Wire.ofJson (Wire.encode mutation) = .ok mutation ↔ mutation.before ≠ some .null) ∧
    (mutation.before = some .null →
      Wire.ofJson (Wire.encode mutation) = .ok { mutation with before := none } ∧
        mutation.candidate = .null ∧
        ({ mutation with before := none } : Mutation).candidate = mutation.after) := by
  have hRead : Wire.ofJson (Wire.encode mutation) = .ok mutation.received :=
    decode_encode false mutation
  rw [hRead]
  refine ⟨?_, fun hNull => ⟨?_, ?_, rfl⟩⟩
  · rw [Except.ok.injEq]
    exact received_eq_self_iff
  · unfold received
    rw [hNull]
    rfl
  · unfold candidate
    rw [hNull]
    rfl

/-- A mutation that is read back with another candidate. -/
theorem null_does_not_survive :
    ∃ mutation other : Mutation, mutation.before = some .null ∧
      Wire.ofJson (Wire.encode mutation) = .ok other ∧
      mutation.candidate = .null ∧ other.candidate = .bool true := by
  obtain ⟨hRead, hCandidate, hOther⟩ :=
    (survives_wire_iff ⟨"orders", .patched, some .null, .bool true⟩).2 rfl
  exact ⟨_, _, rfl, hRead, hCandidate, hOther⟩

end Mutation

end Fanout
