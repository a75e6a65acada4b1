import Fanout.Proofs.RoundTrip

/-!
# Fanout — spellings of one record

A record may be written in several ways: as an object with its fields in any order
and with members of other names beside them, as the array of its fields, with or
without a field that stands at its default. All of them are read alike. The object
and the array are read by the same steps, one for each field, so it is enough to
look at one field: what it gives depends on the value assigned to it, and not on
the place where the value was found.

The causes of a failure are not compared: an object and an array with several
faults may report different ones. Where only the name of a choice is written
differently even the cause stays the same.

## Main definitions

* `Fields.Spelling` — the ways to write a record with given values in its fields.
* `Fields.Replaced` — a record written with another value in one field.
* `Wire.Synonyms` — two values that are read alike.
* `Wire.Uniform`, `Diagnostic.Uniform` — all spellings of the same values are synonyms.
* `Wire.Stable` — what has been read is read again from its own written form.

## Results

* `Fields.Spelling.get_agree`, `Fields.Spelling.getD_agree` — a field is read alike in all
  spellings.
* `Fields.Replaced.readFields_eq` — a record in which another spelling of a field is put.
* `Wire.spellings_agree` — the spellings of all records and choices.
-/

namespace Fanout

/-! ## Readings -/

namespace Reading

variable {α β : Type}

theorem seq_eq_value_iff {function : Reading (α → β)} {argument : Reading α} {value : β} :
    (function <*> argument) = .value value ↔
      ∃ f a, function = .value f ∧ argument = .value a ∧ f a = value := by
  show function.apply argument = .value value ↔ _
  cases function <;> cases argument <;> simp [apply]

theorem result_eq_ok_iff {reading : Reading α} {value : α} :
    reading.result = .ok value ↔ reading = .value value := by
  cases reading <;> simp [result]

/-- Both readings give the same value, or both meet a problem. -/
def Agree (first second : Reading α) : Prop :=
  ∀ value, first = .value value ↔ second = .value value

namespace Agree

variable {function function' : Reading (α → β)} {argument argument' : Reading α}

theorem seq (hFunction : function.Agree function') (hArgument : argument.Agree argument') :
    (function <*> argument).Agree (function' <*> argument') := by
  intro value
  rw [seq_eq_value_iff, seq_eq_value_iff]
  simp only [hFunction _, hArgument _]

theorem of_eq (h : argument = argument') : argument.Agree argument' := by
  intro value
  rw [h]

theorem map (f : α → β) (hArgument : argument.Agree argument') :
    (f <$> argument).Agree (f <$> argument') :=
  seq (.of_eq rfl) hArgument

end Agree

end Reading

/-! ## Spellings -/

namespace Fields

/-- The fields of a record as they are written. -/
def json : Fields → Json
  | .members entries => .object entries
  | .items values => .array values

/-- The ways to write a record of the `declared` fields with `values` in them. A field may be left
out if it has its value among the `defaults`; in an array this holds of the last fields only. -/
inductive Spelling (declared : List String) (defaults : List (String × Json))
    (values : String → Json) : Fields → Prop where
  /-- Members under the names of the fields, among any others. -/
  | members {members : List (String × Json)}
      (hFields : ∀ field ∈ declared,
        Entries.find? field members = some (values field) ∨
          Entries.find? field members = none ∧ Entries.find? field defaults = some (values field)) :
      Spelling declared defaults values (.members members)
  /-- The values of the first fields, in declaration order. -/
  | items {given left : List String} (hFields : declared = given ++ left)
      (hLeft : ∀ field ∈ left, Entries.find? field defaults = some (values field)) :
      Spelling declared defaults values (.items (given.map values))

/-- The second record is the first one, with `new` for the value `old` of a field. -/
inductive Replaced (declared : List String) (field : String) (old new : Json) :
    Fields → Fields → Prop where
  /-- The member of the field is another one, and all others are the same. -/
  | members {first second : List (String × Json)} (hOld : Entries.find? field first = some old)
      (hNew : Entries.find? field second = some new)
      (hOther : ∀ other, other ≠ field → Entries.find? other second = Entries.find? other first) :
      Replaced declared field old new (.members first) (.members second)
  /-- The item at the place of the field is another one. -/
  | items {items : List Json} (hOld : items[declared.idxOf field]? = some old) :
      Replaced declared field old new (.items items)
        (.items (items.set (declared.idxOf field) new))

end Fields

namespace Layout

variable {α : Type} {layout : Layout} {fields : Fields} {field : String} {buffered : Bool}
  {read : Fields → Reading α}

theorem decode_json : layout.decode buffered read fields.json =
    layout.readFields buffered read fields := by
  cases fields <;> rfl

theorem readFields_eq_ok_iff {value : α} :
    layout.readFields buffered read fields = .ok value ↔
      read fields = .value value ∧ layout.exhausted buffered fields = .ok () := by
  show ((read fields).result.bind fun value =>
    (layout.exhausted buffered fields).bind fun _ => Except.ok value) = .ok value ↔ _
  rw [← Reading.result_eq_ok_iff]
  cases (read fields).result with
  | error error => simp [Except.bind]
  | ok found => cases layout.exhausted buffered fields <;> simp [Except.bind]

theorem present_eq_value_iff {decode : Json → Except DecodeError α} {written : Json} {value : α} :
    layout.present fields field decode written = .value value ↔ decode written = .ok value := by
  unfold present
  cases decode written <;> simp

theorem read_of_decode {json : Json} {value : α}
    (h : layout.decode buffered read json = .ok value) : ∃ fields, read fields = .value value := by
  cases json with
  | object members => exact ⟨.members members, (readFields_eq_ok_iff.mp h).1⟩
  | array items => exact ⟨.items items, (readFields_eq_ok_iff.mp h).1⟩
  | null | bool | number | string => cases h

end Layout

namespace Fields

variable {α : Type} {layout : Layout} {defaults : List (String × Json)} {values : String → Json}
  {first second fields : Fields} {field : String} {buffered : Bool} {read : Fields → Reading α}

namespace Spelling

/-- Wherever it stands, a field has the value assigned to it, or is left out for its default. -/
theorem find?_of_mem (h : Spelling layout.fields defaults values fields)
    (hField : field ∈ layout.fields) :
    layout.find? fields field = some (values field) ∨
      layout.find? fields field = none ∧ Entries.find? field defaults = some (values field) := by
  cases h with
  | members hFields => exact hFields field hField
  | @items given left hFields hLeft =>
    show (given.map values)[layout.fields.idxOf field]? = _ ∨
      (given.map values)[layout.fields.idxOf field]? = none ∧ _
    rw [hFields] at hField ⊢
    by_cases hGiven : field ∈ given
    · -- among the items given it stands at its place in declaration order
      left
      rw [List.idxOf_append_of_mem hGiven, List.getElem?_map,
        List.getElem?_eq_getElem (List.idxOf_lt_length_of_mem hGiven),
        List.getElem_idxOf (List.idxOf_lt_length_of_mem hGiven)]
      rfl
    · -- otherwise its place is past their end
      right
      have hField : field ∈ left := (List.mem_append.mp hField).resolve_left hGiven
      refine ⟨List.getElem?_eq_none ?_, hLeft field hField⟩
      rw [List.length_map, List.idxOf_append_of_notMem hGiven]
      exact Nat.le_add_right _ _

theorem exhausted_eq_ok (h : Spelling layout.fields defaults values fields) :
    layout.exhausted buffered fields = .ok () := by
  cases h with
  | members hFields => rfl
  | @items given left hFields hLeft =>
    unfold Layout.exhausted
    dsimp only
    rw [if_pos]
    rw [hFields, List.length_map, List.length_append]
    exact Nat.le_add_right _ _

/-- Spellings whose fields are read alike give the same record. -/
theorem readFields_iff (hFirst : Spelling layout.fields defaults values first)
    (hSecond : Spelling layout.fields defaults values second)
    (hRead : (read first).Agree (read second)) (value : α) :
    layout.readFields buffered read first = .ok value ↔
      layout.readFields buffered read second = .ok value := by
  rw [Layout.readFields_eq_ok_iff, Layout.readFields_eq_ok_iff, hFirst.exhausted_eq_ok,
    hSecond.exhausted_eq_ok, hRead value]

theorem decode_iff (hFirst : Spelling layout.fields defaults values first)
    (hSecond : Spelling layout.fields defaults values second)
    (hRead : (read first).Agree (read second)) (value : α) :
    layout.decode buffered read first.json = .ok value ↔
      layout.decode buffered read second.json = .ok value := by
  rw [Layout.decode_json, Layout.decode_json]
  exact hFirst.readFields_iff hSecond hRead value

variable [Wire α]

/-- A required field gives what its value is read as. -/
theorem get_eq_value_iff (h : Spelling layout.fields defaults values fields)
    (hField : field ∈ layout.fields) (hRequired : Entries.find? field defaults = none) {value : α} :
    layout.get buffered fields field = .value value ↔
      Wire.decode buffered (values field) = .ok value := by
  obtain hFind | ⟨-, hDefault⟩ := h.find?_of_mem hField
  · unfold Layout.get Layout.required
    rw [hFind]
    exact Layout.present_eq_value_iff
  · rw [hRequired] at hDefault
    cases hDefault

/-- So does a field with a default, if what it is left out for is read as the default. -/
theorem getD_eq_value_iff (h : Spelling layout.fields defaults values fields)
    (hField : field ∈ layout.fields) {written : Json} {default : α}
    (hDefault : Entries.find? field defaults = some written)
    (hRead : Wire.decode buffered written = .ok default) {value : α} :
    layout.getD buffered fields field default = .value value ↔
      Wire.decode buffered (values field) = .ok value := by
  unfold Layout.getD Layout.defaulted
  obtain hFind | ⟨hFind, hLeft⟩ := h.find?_of_mem hField
  · rw [hFind]
    exact Layout.present_eq_value_iff
  · have hWritten : written = values field := Option.some.inj (hDefault.symm.trans hLeft)
    rw [hFind, ← hWritten, hRead]
    simp

theorem get_agree (hFirst : Spelling layout.fields defaults values first)
    (hSecond : Spelling layout.fields defaults values second) (hField : field ∈ layout.fields)
    (hRequired : Entries.find? field defaults = none) :
    (layout.get buffered first field : Reading α).Agree (layout.get buffered second field) := by
  intro value
  rw [hFirst.get_eq_value_iff hField hRequired, hSecond.get_eq_value_iff hField hRequired]

theorem getD_agree (hFirst : Spelling layout.fields defaults values first)
    (hSecond : Spelling layout.fields defaults values second) (hField : field ∈ layout.fields)
    {written : Json} {default : α} (hDefault : Entries.find? field defaults = some written)
    (hRead : Wire.decode buffered written = .ok default) :
    (layout.getD buffered first field default).Agree
      (layout.getD buffered second field default) := by
  intro value
  rw [hFirst.getD_eq_value_iff hField hDefault hRead,
    hSecond.getD_eq_value_iff hField hDefault hRead]

end Spelling

/-! ## One field written differently -/

namespace Replaced

variable {old new : Json} {other : String}

theorem find?_self (h : Replaced layout.fields field old new first second) :
    layout.find? first field = some old ∧ layout.find? second field = some new := by
  cases h with
  | members hOld hNew hOther => exact ⟨hOld, hNew⟩
  | items hOld =>
    refine ⟨hOld, ?_⟩
    obtain ⟨hBound, -⟩ := List.getElem?_eq_some_iff.mp hOld
    exact List.getElem?_set_self hBound

theorem find?_other (h : Replaced layout.fields field old new first second)
    (hField : other ∈ layout.fields) (hOther : other ≠ field) :
    layout.find? second other = layout.find? first other := by
  cases h with
  | members hOld hNew hSame => exact hSame other hOther
  | items hOld =>
    refine List.getElem?_set_ne ?_
    -- different fields stand at different places
    intro hPlace
    exact hOther ((List.idxOf_inj hField).mp hPlace.symm)

theorem turn_eq (h : Replaced layout.fields field old new first second) :
    layout.turn second = layout.turn first := by
  cases h <;> rfl

theorem missing_eq (h : Replaced layout.fields field old new first second) :
    layout.missing second = layout.missing first := by
  cases h <;> rfl

theorem exhausted_eq (h : Replaced layout.fields field old new first second) :
    layout.exhausted buffered second = layout.exhausted buffered first := by
  cases h with
  | members hOld hNew hOther => rfl
  | items hOld =>
    unfold Layout.exhausted
    dsimp only
    rw [List.length_set]

theorem get_self [Wire α] (h : Replaced layout.fields field old new first second)
    (hSame : (Wire.decode buffered new : Except DecodeError α) = Wire.decode buffered old) :
    (layout.get buffered second field : Reading α) = layout.get buffered first field := by
  obtain ⟨hOld, hNew⟩ := h.find?_self
  unfold Layout.get Layout.required Layout.present
  rw [hOld, hNew]
  dsimp only
  rw [hSame, h.turn_eq]

/-- A value that is read alike keeps what the field gives, though not the cause of a failure. -/
theorem get_self_agree [Wire α] (h : Replaced layout.fields field old new first second)
    (hSame : ∀ value : α, Wire.decode buffered old = .ok value ↔
      Wire.decode buffered new = .ok value) :
    (layout.get buffered first field : Reading α).Agree (layout.get buffered second field) := by
  intro value
  obtain ⟨hOld, hNew⟩ := h.find?_self
  unfold Layout.get Layout.required
  rw [hOld, hNew]
  exact Layout.present_eq_value_iff.trans ((hSame value).trans Layout.present_eq_value_iff.symm)

theorem get_other [Wire α] (h : Replaced layout.fields field old new first second)
    (hField : other ∈ layout.fields) (hOther : other ≠ field) :
    (layout.get buffered second other : Reading α) = layout.get buffered first other := by
  unfold Layout.get Layout.required Layout.present
  rw [h.find?_other hField hOther, h.turn_eq, h.missing_eq]

theorem getD_other [Wire α] (h : Replaced layout.fields field old new first second)
    (hField : other ∈ layout.fields) (hOther : other ≠ field) (default : α) :
    layout.getD buffered second other default = layout.getD buffered first other default := by
  unfold Layout.getD Layout.defaulted Layout.present
  rw [h.find?_other hField hOther, h.turn_eq]

/-- If the reading of the fields stays the same, so does the outcome, with the cause of a
failure. -/
theorem readFields_eq (h : Replaced layout.fields field old new first second)
    (hRead : read second = read first) :
    layout.readFields buffered read second = layout.readFields buffered read first := by
  unfold Layout.readFields
  rw [hRead, h.exhausted_eq]

theorem readFields_iff (h : Replaced layout.fields field old new first second)
    (hRead : (read first).Agree (read second)) (value : α) :
    layout.readFields buffered read first = .ok value ↔
      layout.readFields buffered read second = .ok value := by
  rw [Layout.readFields_eq_ok_iff, Layout.readFields_eq_ok_iff, h.exhausted_eq, hRead value]

end Replaced

end Fields

/-! ## Choices -/

/-- The name of a choice as the only key of an object. -/
def Json.keyed (name : String) : Json := .object [(name, .null)]

theorem Wire.decodeChoice_keyed {α : Type} (known : List (String × α)) (buffered : Bool)
    (name : String) :
    Wire.decodeChoice known buffered (.keyed name) =
      Wire.decodeChoice known buffered (.string name) := by
  show (Wire.decodeName known name).bind (fun choice => Except.ok choice) =
    Wire.decodeName known name
  cases Wire.decodeName known name <;> rfl

/-! ## Synonyms -/

namespace Wire

/-- Two values are read alike: none of them is read, or both are, and as the same. -/
def Synonyms (α : Type) [Wire α] (first second : Json) : Prop :=
  ∀ (buffered : Bool) (value : α),
    Wire.decode buffered first = .ok value ↔ Wire.decode buffered second = .ok value

/-- All spellings of the same values are read alike. -/
def Uniform (α : Type) [Wire α] (declared : List String) (defaults : List (String × Json)) : Prop :=
  ∀ values first second, Fields.Spelling declared defaults values first →
    Fields.Spelling declared defaults values second → Synonyms α first.json second.json

/-- What has been read, however it was spelled, is read again from its own written form. -/
def Stable (α : Type) [Wire α] : Prop :=
  ∀ (json : Json) (value : α), Wire.ofJson json = .ok value →
    Wire.ofJson (Wire.encode value) = .ok value

theorem Faithful.stable {α : Type} [Wire α] (h : Wire.Faithful α) : Wire.Stable α :=
  fun _ value _ => h.ofJson value

end Wire

/-! ## Specs, mutations, deliveries and flags -/

/-- The fields of a spec that may be left out, and what they stand for then. -/
def PublicationSpec.defaults : List (String × Json) :=
  [("params", .null), ("ifServer", .bool false), ("checkBefore", .bool false)]

/-- The field of a mutation that may be left out, and what it stands for then. -/
def Mutation.defaults : List (String × Json) := [("before", .null)]

theorem PublicationSpec.uniform :
    Wire.Uniform PublicationSpec PublicationSpec.layout.fields PublicationSpec.defaults := by
  intro values first second hFirst hSecond buffered spec
  refine hFirst.decode_iff hSecond
    (.seq (.seq (.seq (.map _ ?name) ?params) ?ifServer) ?checkBefore) spec
  case name => exact hFirst.get_agree hSecond (by decide) rfl
  case params => exact hFirst.getD_agree hSecond (by decide) rfl rfl
  case ifServer => exact hFirst.getD_agree hSecond (by decide) rfl rfl
  case checkBefore => exact hFirst.getD_agree hSecond (by decide) rfl rfl

theorem Mutation.uniform : Wire.Uniform Mutation Mutation.layout.fields Mutation.defaults := by
  intro values first second hFirst hSecond buffered mutation
  refine hFirst.decode_iff hSecond
    (.seq (.seq (.seq (.map _ ?service) ?operation) ?before) ?after) mutation
  case service => exact hFirst.get_agree hSecond (by decide) rfl
  case operation => exact hFirst.get_agree hSecond (by decide) rfl
  case before => exact hFirst.getD_agree hSecond (by decide) rfl rfl
  case after => exact hFirst.get_agree hSecond (by decide) rfl

theorem Delivery.uniform : Wire.Uniform Delivery Delivery.layout.fields [] := by
  intro values first second hFirst hSecond buffered delivery
  refine hFirst.decode_iff hSecond (.seq (.seq (.seq (.map _ ?_) ?_) ?_) ?_) delivery
  all_goals exact hFirst.get_agree hSecond (by decide) rfl

theorem Flags.uniform : Wire.Uniform Flags Flags.layout.fields [] := by
  intro values first second hFirst hSecond buffered flags
  refine hFirst.decode_iff hSecond (.seq (.map _ ?_) ?_) flags
  all_goals exact hFirst.get_agree hSecond (by decide) rfl

/-! ## Diagnostics -/

namespace Fields

/-- The tag of a record: a member of its own, or the item before those of the fields. -/
def source? : Fields → Option Json
  | .members entries => Entries.find? "source" entries
  | .items values => values.head?

/-- The fields of a tagged record, without the tag that stands before the items. -/
def untagged : Fields → Fields
  | .members entries => .members entries
  | .items values => .items values.tail

variable {declared : List String} {values : String → Json} {fields first second : Fields}

namespace Spelling

/-- An array that may leave nothing out has all items. -/
theorem items_eq {items : List Json} (h : Spelling declared [] values (.items items)) :
    items = declared.map values := by
  generalize hWritten : Fields.items items = written at h
  cases h with
  | members => cases hWritten
  | @items given left hFields hLeft =>
    have hNone : left = [] := by
      refine List.eq_nil_iff_forall_not_mem.mpr (fun field hField => ?_)
      cases hLeft field hField
    rw [hNone, List.append_nil] at hFields
    rw [hFields]
    exact Fields.items.inj hWritten

theorem source?_eq (h : Spelling ("source" :: declared) [] values fields) :
    fields.source? = some (values "source") := by
  cases fields with
  | members entries =>
    cases h with
    | members hFields =>
      obtain hFind | ⟨-, hDefault⟩ := hFields "source" List.mem_cons_self
      · exact hFind
      · cases hDefault
  | items items =>
    rw [h.items_eq]
    rfl

theorem untagged (h : Spelling ("source" :: declared) [] values fields) :
    Spelling declared [] values fields.untagged := by
  cases fields with
  | members entries =>
    cases h with
    | members hFields =>
      exact .members (fun field hField => hFields field (List.mem_cons_of_mem _ hField))
  | items items =>
    rw [h.items_eq]
    exact .items (List.append_nil _).symm (fun field hField => absurd hField List.not_mem_nil)

end Spelling

namespace Replaced

variable {field : String} {old new : Json}

theorem source?_eq (h : Replaced ("source" :: declared) field old new first second)
    (hField : "source" ≠ field) : second.source? = first.source? := by
  cases h with
  | members hOld hNew hOther => exact hOther "source" hField
  | @items items hOld =>
    -- the place of the field is behind the first one
    rw [List.idxOf_cons_ne _ hField]
    cases items <;> rfl

theorem untagged (h : Replaced ("source" :: declared) field old new first second)
    (hField : "source" ≠ field) :
    Replaced declared field old new first.untagged second.untagged := by
  cases h with
  | members hOld hNew hOther => exact .members hOld hNew hOther
  | @items items hOld =>
    -- behind the tag every field is one place further
    rw [List.idxOf_cons_ne _ hField] at hOld ⊢
    cases items with
    | nil => cases hOld
    | cons item rest => exact .items hOld

end Replaced

end Fields

namespace Diagnostic

variable {source : String} {variant : Variant} {values : String → Json} {first second : Fields}

/-- A variant named by the source is read off what stands beside or behind the source. -/
theorem decode_json {fields : Fields} (hVariant : Entries.find? source variants = some variant)
    (hSource : fields.source? = some (.string source)) :
    decode fields.json = variant.layout.readFields true variant.read fields.untagged := by
  cases fields with
  | members entries => exact decode_object hSource hVariant
  | items items =>
    cases items with
    | nil => cases hSource
    | cons item rest =>
      obtain rfl : item = .string source := Option.some.inj hSource
      show (decodeSource (.string source)).bind _ = _
      rw [decodeSource_string hVariant]
      rfl

theorem read_agree (hVariant : Entries.find? source variants = some variant)
    (hFirst : Fields.Spelling variant.layout.fields [] values first)
    (hSecond : Fields.Spelling variant.layout.fields [] values second) :
    (variant.read first).Agree (variant.read second) := by
  have hMem := Entries.mem_of_find? hVariant
  simp only [variants, List.mem_cons, Prod.mk.injEq, List.not_mem_nil, or_false] at hMem
  rcases hMem with ⟨-, rfl⟩ | ⟨-, rfl⟩ | ⟨-, rfl⟩ | ⟨-, rfl⟩ | ⟨-, rfl⟩
  case inl =>
    refine .seq (.seq (.seq (.seq (.seq (.map _ ?_) ?_) ?_) ?_) ?_) ?_
    all_goals exact hFirst.get_agree hSecond (by decide) rfl
  case inr.inl =>
    refine .seq (.map _ ?_) ?_
    all_goals exact hFirst.get_agree hSecond (by decide) rfl
  case inr.inr.inl =>
    refine .seq (.seq (.seq (.map _ ?_) ?_) ?_) ?_
    all_goals exact hFirst.get_agree hSecond (by decide) rfl
  case inr.inr.inr.inl =>
    refine .seq (.seq (.map _ ?_) ?_) ?_
    all_goals exact hFirst.get_agree hSecond (by decide) rfl
  case inr.inr.inr.inr =>
    refine .seq (.map _ ?_) ?_
    all_goals exact hFirst.get_agree hSecond (by decide) rfl

/-- All spellings of the same values of a variant are read alike. -/
def Uniform (source : String) (declared : List String) : Prop :=
  ∀ values first second, values "source" = .string source →
    Fields.Spelling ("source" :: declared) [] values first →
    Fields.Spelling ("source" :: declared) [] values second →
    Wire.Synonyms Diagnostic first.json second.json

theorem uniform (variant : Variant) (hVariant : Entries.find? source variants = some variant) :
    Uniform source variant.layout.fields := by
  intro values first second hSource hFirst hSecond _ diagnostic
  -- the source cannot be left out, and settles the variant
  have hFirstSource := hFirst.source?_eq
  have hSecondSource := hSecond.source?_eq
  rw [hSource] at hFirstSource hSecondSource
  show decode first.json = _ ↔ decode second.json = _
  rw [decode_json hVariant hFirstSource, decode_json hVariant hSecondSource]
  exact hFirst.untagged.readFields_iff hSecond.untagged
    (read_agree hVariant hFirst.untagged hSecond.untagged) diagnostic

end Diagnostic

/-! ## Choices inside records -/

section
variable {old new : Json} {first second : Fields}

theorem Mutation.decode_replaced (buffered : Bool)
    (h : Fields.Replaced Mutation.layout.fields "operation" old new first second)
    (hSame : (Wire.decode buffered new : Except DecodeError Operation) =
      Wire.decode buffered old) :
    (Wire.decode buffered second.json : Except DecodeError Mutation) =
      Wire.decode buffered first.json := by
  show layout.decode buffered _ second.json = layout.decode buffered _ first.json
  rw [Layout.decode_json, Layout.decode_json]
  refine h.readFields_eq ?_
  rw [h.get_self hSame, h.get_other (by decide) (by decide), h.getD_other (by decide) (by decide),
    h.get_other (by decide) (by decide)]

theorem Delivery.decode_replaced (buffered : Bool)
    (h : Fields.Replaced Delivery.layout.fields "operation" old new first second)
    (hSame : (Wire.decode buffered new : Except DecodeError Operation) =
      Wire.decode buffered old) :
    (Wire.decode buffered second.json : Except DecodeError Delivery) =
      Wire.decode buffered first.json := by
  show layout.decode buffered _ second.json = layout.decode buffered _ first.json
  rw [Layout.decode_json, Layout.decode_json]
  refine h.readFields_eq ?_
  rw [h.get_self hSame, h.get_other (by decide) (by decide), h.get_other (by decide) (by decide),
    h.get_other (by decide) (by decide)]

theorem Diagnostic.droppedVariant_read (fields : Fields) :
    droppedVariant.read fields = Diagnostic.deliveryDropped
      <$> droppedVariant.layout.get true fields "serviceName"
      <*> droppedVariant.layout.get true fields "connectionId"
      <*> droppedVariant.layout.get true fields "reason" :=
  rfl

theorem Diagnostic.decode_replaced (hSource : first.source? = some (.string "deliveryDropped"))
    (h : Fields.Replaced ("source" :: droppedVariant.layout.fields) "reason" old new first second)
    (hSame : (Wire.decode true new : Except DecodeError DropReason) = Wire.decode true old) :
    decode second.json = decode first.json := by
  have hKept : second.source? = some (.string "deliveryDropped") := by
    rw [h.source?_eq (by decide), hSource]
  rw [decode_json rfl hKept, decode_json rfl hSource]
  have h := h.untagged (by decide)
  refine h.readFields_eq ?_
  rw [droppedVariant_read, h.get_self hSame, h.get_other (by decide) (by decide),
    h.get_other (by decide) (by decide)]
  rfl

/-- The flags that a diagnostic carries may be spelled anew inside it. -/
theorem Diagnostic.synonyms_of_store (hSource : first.source? = some (.string "addPublication"))
    (h : Fields.Replaced ("source" :: addVariant.layout.fields) "store" old new first second)
    (hSame : Wire.Synonyms Flags old new) : Wire.Synonyms Diagnostic first.json second.json := by
  intro _ diagnostic
  have hKept : second.source? = some (.string "addPublication") := by
    rw [h.source?_eq (by decide), hSource]
  show decode first.json = _ ↔ decode second.json = _
  rw [decode_json rfl hSource, decode_json rfl hKept]
  have h := h.untagged (by decide)
  refine h.readFields_iff ?_ diagnostic
  refine .seq (.seq (.seq (.seq (.seq (.map _ ?_) ?_) ?_) ?_) ?_) (h.get_self_agree (hSame true))
  -- before the store all fields are the same
  all_goals exact .of_eq (h.get_other (by decide) (by decide)).symm

end

/-! ## Reading again -/

theorem Mutation.before_ne_null {buffered : Bool} {json : Json} {mutation : Mutation}
    (h : Wire.decode buffered json = .ok mutation) : mutation.before ≠ some .null := by
  have hDecode : layout.decode buffered _ json = .ok mutation := h
  -- whatever form the record has, its fields are read one by one
  obtain ⟨fields, hFields⟩ := Layout.read_of_decode hDecode
  obtain ⟨_, _, hBefore, -, rfl⟩ := Reading.seq_eq_value_iff.mp hFields
  obtain ⟨_, before, hOperation, hRead, rfl⟩ := Reading.seq_eq_value_iff.mp hBefore
  obtain ⟨_, _, hService, -, rfl⟩ := Reading.seq_eq_value_iff.mp hOperation
  obtain ⟨_, _, hMake, -, rfl⟩ := Reading.seq_eq_value_iff.mp hService
  obtain rfl : Mutation.mk = _ := Reading.value.inj hMake
  show before ≠ some .null
  unfold Layout.getD Layout.defaulted at hRead
  cases hFind : layout.find? fields "before" with
  | none =>
    rw [hFind] at hRead
    cases hRead
    exact nofun
  | some written =>
    rw [hFind] at hRead
    have hWritten := Layout.present_eq_value_iff.mp hRead
    rw [decode_before] at hWritten
    cases hWritten
    cases written <;> simp [Json.unlessNull]

theorem Mutation.stable : Wire.Stable Mutation := by
  intro json mutation hRead
  have hSame := received_eq_self_iff.mpr (before_ne_null hRead)
  have hAgain := decode_encode false mutation
  rwa [hSame] at hAgain

/-- All spellings of a record mean the same. An object with members of other names, an array and
either with a field left out for its default are read alike, for specs, mutations, deliveries,
flags and every variant of the diagnostics, also if the flags in a diagnostic are spelled
otherwise. The name of an operation or of a reason may be the only key of an object, which changes
nothing, be it inside a record or not. And what has been read is read again from its own written
form. -/
theorem Wire.spellings_agree :
    Wire.Uniform PublicationSpec ["name", "params", "ifServer", "checkBefore"]
      [("params", .null), ("ifServer", .bool false), ("checkBefore", .bool false)] ∧
    Wire.Uniform Mutation ["service", "operation", "before", "after"] [("before", .null)] ∧
    Wire.Uniform Delivery ["connection", "service", "operation", "record"] [] ∧
    Wire.Uniform Flags ["ifServer", "checkBefore"] [] ∧
    Diagnostic.Uniform "addPublication"
      ["serviceName", "name", "params", "ifServer", "checkBefore", "store"] ∧
    Diagnostic.Uniform "removePublication" ["serviceName", "keys"] ∧
    Diagnostic.Uniform "predicateError" ["serviceName", "connectionId", "name", "error"] ∧
    Diagnostic.Uniform "deliveryDropped" ["serviceName", "connectionId", "reason"] ∧
    Diagnostic.Uniform "connectionClosed" ["connectionId", "released"] ∧
    (∀ old new first second, Wire.Synonyms Flags old new →
      first.source? = some (.string "addPublication") →
      Fields.Replaced
        ["source", "serviceName", "name", "params", "ifServer", "checkBefore", "store"]
        "store" old new first second →
      Wire.Synonyms Diagnostic first.json second.json) ∧
    (∀ buffered name, (Wire.decode buffered (.keyed name) : Except DecodeError Operation) =
      Wire.decode buffered (.string name)) ∧
    (∀ buffered name, (Wire.decode buffered (.keyed name) : Except DecodeError DropReason) =
      Wire.decode buffered (.string name)) ∧
    (∀ buffered name first second,
      Fields.Replaced ["service", "operation", "before", "after"]
        "operation" (.string name) (.keyed name) first second →
      (Wire.decode buffered second.json : Except DecodeError Mutation) =
        Wire.decode buffered first.json) ∧
    (∀ buffered name first second,
      Fields.Replaced ["connection", "service", "operation", "record"]
        "operation" (.string name) (.keyed name) first second →
      (Wire.decode buffered second.json : Except DecodeError Delivery) =
        Wire.decode buffered first.json) ∧
    (∀ buffered name first second, first.source? = some (.string "deliveryDropped") →
      Fields.Replaced ["source", "serviceName", "connectionId", "reason"]
        "reason" (.string name) (.keyed name) first second →
      (Wire.decode buffered second.json : Except DecodeError Diagnostic) =
        Wire.decode buffered first.json) ∧
    Wire.Stable PublicationSpec ∧ Wire.Stable Mutation ∧ Wire.Stable Delivery ∧
    Wire.Stable Flags ∧ Wire.Stable Diagnostic ∧ Wire.Stable Operation ∧
    Wire.Stable DropReason ∧ Wire.Stable ConnectionId := by
  have hOperation : ∀ buffered name,
      (Wire.decode buffered (.keyed name) : Except DecodeError Operation) =
        Wire.decode buffered (.string name) := Wire.decodeChoice_keyed Operation.known
  have hReason : ∀ buffered name,
      (Wire.decode buffered (.keyed name) : Except DecodeError DropReason) =
        Wire.decode buffered (.string name) := Wire.decodeChoice_keyed DropReason.known
  refine ⟨PublicationSpec.uniform, Mutation.uniform, Delivery.uniform, Flags.uniform,
    Diagnostic.uniform Diagnostic.addVariant rfl, Diagnostic.uniform Diagnostic.removeVariant rfl,
    Diagnostic.uniform Diagnostic.errorVariant rfl,
    Diagnostic.uniform Diagnostic.droppedVariant rfl,
    Diagnostic.uniform Diagnostic.closedVariant rfl,
    ?store, hOperation, hReason, ?mutation, ?delivery, ?dropped,
    Wire.Faithful.spec.stable, Mutation.stable, Wire.Faithful.delivery.stable,
    Wire.Faithful.flags.stable, Diagnostic.faithful.stable, Wire.Faithful.operation.stable,
    Wire.Faithful.dropReason.stable, Wire.Faithful.connection.stable⟩
  case store =>
    intro old new first second hSame hSource hReplaced
    exact Diagnostic.synonyms_of_store hSource hReplaced hSame
  case mutation =>
    intro buffered name first second hReplaced
    exact Mutation.decode_replaced buffered hReplaced (hOperation buffered name)
  case delivery =>
    intro buffered name first second hReplaced
    exact Delivery.decode_replaced buffered hReplaced (hOperation buffered name)
  case dropped =>
    intro buffered name first second hSource hReplaced
    exact Diagnostic.decode_replaced hSource hReplaced (hReason true name)

/-- A spec with its flags partly left out and a member of another name, and the same spec as an
array; and a dropped delivery whose reason is the key of an object. -/
theorem Wire.spellings_agree_short :
    (∃ values, Fields.Spelling ["name", "params", "ifServer", "checkBefore"]
        PublicationSpec.defaults values
        (.members [("ifServer", .bool true), ("name", .string "query"), ("since", .null)]) ∧
      Fields.Spelling ["name", "params", "ifServer", "checkBefore"]
        PublicationSpec.defaults values (.items [.string "query", .null, .bool true]) ∧
      Wire.ofJson (.array [.string "query", .null, .bool true]) =
        .ok ({ name := "query", ifServer := true } : PublicationSpec)) ∧
    Wire.ofJson (.array [.string "deliveryDropped", .string "orders", Json.ofWord 7,
        .keyed "buffer_full"]) =
      .ok (Diagnostic.deliveryDropped "orders" ⟨7⟩ .bufferFull) := by
  obtain ⟨hSpec, -, -, -, -, -, -, -, -, -, -, -, -, -, hDropped, -⟩ := Wire.spellings_agree
  refine ⟨?spec, ?dropped⟩
  case spec =>
    let values : String → Json := fun field =>
      if field = "name" then .string "query" else if field = "ifServer" then .bool true
      else if field = "checkBefore" then .bool false else .null
    have hObject : Fields.Spelling ["name", "params", "ifServer", "checkBefore"]
        PublicationSpec.defaults values
        (.members [("ifServer", .bool true), ("name", .string "query"), ("since", .null)]) :=
      .members (by simp [PublicationSpec.defaults, Entries.find?, values])
    have hArray : Fields.Spelling ["name", "params", "ifServer", "checkBefore"]
        PublicationSpec.defaults values (.items [.string "query", .null, .bool true]) :=
      .items (show _ = ["name", "params", "ifServer"] ++ ["checkBefore"] from rfl)
        (by simp [PublicationSpec.defaults, Entries.find?, values])
    exact ⟨values, hObject, hArray, (hSpec values _ _ hObject hArray false _).mp rfl⟩
  case dropped =>
    exact (hDropped false "buffer_full"
      (.items [.string "deliveryDropped", .string "orders", Json.ofWord 7, .string "buffer_full"])
      _ rfl (.items rfl)).trans rfl

end Fanout
