import Fanout.Connection

/-!
# Fanout — diagnostics

A `Diagnostic` reports one change of a connection's publications, or one delivery
that was lost. On the wire it names its variant in its member `source`.

## Results

* `Diagnostic.source_mem_variants` — every diagnostic's source is one of the known variants.
-/

namespace Fanout

/-- The flags of a publication. -/
structure Flags where
  ifServer : Bool
  checkBefore : Bool
  deriving DecidableEq

namespace Flags

/-- The record layout of flags. -/
def layout : Layout := ⟨"struct StoreFlags", ["ifServer", "checkBefore"]⟩

instance : Wire Flags where
  encode flags :=
    .object [("checkBefore", .bool flags.checkBefore), ("ifServer", .bool flags.ifServer)]
  decode buffered := layout.decode buffered fun fields =>
    Flags.mk <$> layout.get buffered fields "ifServer"
      <*> layout.get buffered fields "checkBefore"
  shape := .record [("ifServer", true, .boolean), ("checkBefore", true, .boolean)]

end Flags

/-- Why a delivery did not reach its connection. -/
inductive DropReason where
  /-- Its queue was full. -/
  | bufferFull
  /-- Its receiving side is gone. -/
  | disconnected
  deriving DecidableEq

namespace DropReason

/-- The name of a reason. -/
def name : DropReason → String
  | .bufferFull => "buffer_full"
  | .disconnected => "disconnected"

/-- All reasons under their names, in declaration order. -/
def known : List (String × DropReason) :=
  [.bufferFull, .disconnected].map (fun reason => (reason.name, reason))

instance : Wire DropReason where
  encode reason := .string reason.name
  decode := Wire.decodeChoice known
  shape := .choice (known.map Prod.fst)

end DropReason

/-- A change worth observing. -/
inductive Diagnostic where
  /-- A publication was stored for a connection and a service. -/
  | addPublication (service name : String) (params : List Json) (flags store : Flags)
  /-- The publication on a service was given up; `keys` are the ones left. -/
  | removePublication (service : String) (keys : List String)
  /-- A predicate failed on a record. -/
  | predicateError (service : String) (connection : ConnectionId) (name error : String)
  /-- A delivery was lost. -/
  | deliveryDropped (service : String) (connection : ConnectionId) (reason : DropReason)
  /-- A connection was closed, and its publications on these services released. -/
  | connectionClosed (connection : ConnectionId) (released : List String)

namespace Diagnostic

/-- The name of the variant. -/
def source : Diagnostic → String
  | .addPublication .. => "addPublication"
  | .removePublication .. => "removePublication"
  | .predicateError .. => "predicateError"
  | .deliveryDropped .. => "deliveryDropped"
  | .connectionClosed .. => "connectionClosed"

/-! ## Wire form -/

/-- The written form: an object with the source among its members. -/
def encode (diagnostic : Diagnostic) : Json :=
  let source := ("source", Json.string diagnostic.source)
  match diagnostic with
  | .addPublication service name params flags store =>
    .object [("checkBefore", .bool flags.checkBefore), ("ifServer", .bool flags.ifServer),
      ("name", .string name), ("params", .array params), ("serviceName", .string service), source,
      ("store", Wire.encode store)]
  | .removePublication service keys =>
    .object [("keys", Json.ofStrings keys), ("serviceName", .string service), source]
  | .predicateError service connection name error =>
    .object [("connectionId", Wire.encode connection), ("error", .string error),
      ("name", .string name), ("serviceName", .string service), source]
  | .deliveryDropped service connection reason =>
    .object [("connectionId", Wire.encode connection), ("reason", Wire.encode reason),
      ("serviceName", .string service), source]
  | .connectionClosed connection released =>
    .object [("connectionId", Wire.encode connection), ("released", Json.ofStrings released),
      source]

/-- A variant: its fields with their forms, and how they are read. -/
structure Variant where
  layout : Layout
  shapes : List Shape
  read : Fields → Reading Diagnostic

/-- The fields of `addPublication`. -/
def addVariant : Variant :=
  let layout : Layout := ⟨"struct variant Diagnostic::AddPublication",
    ["serviceName", "name", "params", "ifServer", "checkBefore", "store"]⟩
  { layout
    shapes := [.string, .string, .list .any, .boolean, .boolean, Wire.shape Flags]
    read := fun fields =>
      (fun service name params ifServer checkBefore store =>
          Diagnostic.addPublication service name params ⟨ifServer, checkBefore⟩ store)
        <$> layout.get true fields "serviceName"
        <*> layout.get true fields "name"
        <*> layout.get true fields "params"
        <*> layout.get true fields "ifServer"
        <*> layout.get true fields "checkBefore"
        <*> layout.get true fields "store" }

/-- The fields of `removePublication`. -/
def removeVariant : Variant :=
  let layout : Layout :=
    ⟨"struct variant Diagnostic::RemovePublication", ["serviceName", "keys"]⟩
  { layout
    shapes := [.string, .list .string]
    read := fun fields =>
      Diagnostic.removePublication <$> layout.get true fields "serviceName"
        <*> layout.get true fields "keys" }

/-- The fields of `predicateError`. -/
def errorVariant : Variant :=
  let layout : Layout := ⟨"struct variant Diagnostic::PredicateError",
    ["serviceName", "connectionId", "name", "error"]⟩
  { layout
    shapes := [.string, .word, .string, .string]
    read := fun fields =>
      Diagnostic.predicateError <$> layout.get true fields "serviceName"
        <*> layout.get true fields "connectionId"
        <*> layout.get true fields "name"
        <*> layout.get true fields "error" }

/-- The fields of `deliveryDropped`. -/
def droppedVariant : Variant :=
  let layout : Layout := ⟨"struct variant Diagnostic::DeliveryDropped",
    ["serviceName", "connectionId", "reason"]⟩
  { layout
    shapes := [.string, .word, Wire.shape DropReason]
    read := fun fields =>
      Diagnostic.deliveryDropped <$> layout.get true fields "serviceName"
        <*> layout.get true fields "connectionId"
        <*> layout.get true fields "reason" }

/-- The fields of `connectionClosed`. -/
def closedVariant : Variant :=
  let layout : Layout :=
    ⟨"struct variant Diagnostic::ConnectionClosed", ["connectionId", "released"]⟩
  { layout
    shapes := [.word, .list .string]
    read := fun fields =>
      Diagnostic.connectionClosed <$> layout.get true fields "connectionId"
        <*> layout.get true fields "released" }

/-- All variants under their sources, in declaration order. -/
def variants : List (String × Variant) :=
  [("addPublication", addVariant), ("removePublication", removeVariant),
    ("predicateError", errorVariant), ("deliveryDropped", droppedVariant),
    ("connectionClosed", closedVariant)]

/-- The variant that a source names. -/
def decodeSource : Json → Except DecodeError Variant
  | .string name => Wire.decodeName variants name
  | value => .error (.wrongKind value .variant)

/-- Read a diagnostic: its source first, then the fields of that variant. In the array form the
source stands before the fields. -/
def decode : Json → Except DecodeError Diagnostic
  | .object members =>
    match Entries.find? "source" members with
    | none => .error (.missingField "source")
    | some source => do
      let variant ← decodeSource source
      variant.layout.readFields true variant.read (.members members)
  | .array [] => .error (.missingField "source")
  | .array (source :: items) => do
    let variant ← decodeSource source
    variant.layout.readFields true variant.read (.items items)
  | value => .error (.wrongKind value (.tagged "Diagnostic"))

/-- The form of a variant, all of whose fields are required. -/
def Variant.shape (variant : Variant) : List Shape.Field :=
  variant.layout.fields.zipWith (fun field shape => (field, true, shape)) variant.shapes

instance : Wire Diagnostic where
  encode := encode
  decode _ := decode
  shape := .tagged "source" (variants.map (fun variant => (variant.1, variant.2.shape)))

/-- Every diagnostic's source is one of the known variants. -/
theorem source_mem_variants (diagnostic : Diagnostic) :
    diagnostic.source ∈ variants.map Prod.fst := by
  cases diagnostic <;> simp [source, variants]

end Diagnostic

end Fanout
