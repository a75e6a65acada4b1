import Fanout.Data.Sorting
import Fanout.Data.Table

/-!
# Fanout — configuration

How large the queues are, which fields of records only the server may see, and
whether a connection is closed as soon as its sink reports it gone.

## Results

* `Config.mem_serverFieldsFor_iff` — which fields only the server may see.
* `Config.serverFieldsFor_ascending` — the fields in effect are listed once each, ascending.
-/

namespace Fanout

/-- The configuration of a server. -/
structure Config where
  /-- The room in the queue of each connection. -/
  bufferSize : Nat := 1000
  /-- The room in the queue of each diagnostics listener. -/
  diagnosticBufferSize : Nat := 1024
  /-- The fields that only the server may see, by service, as they were listed. -/
  serverFields : Table String (List String) := Table.empty
  /-- Close a connection as soon as its sink reports it gone. -/
  closeOnDisconnect : Bool := true

namespace Config

/-- The service name under which fields of all services are listed. -/
def allServices : String := "*"

/-- The fields listed under a service name. -/
def listed (config : Config) (service : String) : List String :=
  (config.serverFields.get? service).getD []

/-- List more fields of a service. -/
def withServerFields (config : Config) (service : String) (fields : List String) : Config :=
  { config with
    serverFields := config.serverFields.insert service (config.listed service ++ fields) }

/-- The fields of a service that only the server may see: those listed for all services and those
listed for it, sorted, with one left of each. -/
def serverFieldsFor (config : Config) (service : String) : List String :=
  Ordered.collapse (Ordered.sort (config.listed allServices ++ config.listed service))

/-- The fields in effect are those listed for all services and those listed for the service. -/
theorem mem_serverFieldsFor_iff {config : Config} {service field : String} :
    field ∈ config.serverFieldsFor service ↔
      field ∈ config.listed allServices ∨ field ∈ config.listed service := by
  rw [serverFieldsFor, Ordered.mem_collapse, Ordered.mem_sort, List.mem_append]

/-- The fields in effect are listed once each, ascending. -/
theorem serverFieldsFor_ascending (config : Config) (service : String) :
    (config.serverFieldsFor service).Pairwise (fun a b => compare a b = .lt) :=
  Ordered.ascending_collapse (Ordered.sorted_sort _)

end Config

end Fanout
