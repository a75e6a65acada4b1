import Fanout.Connection

/-!
# Fanout — errors

A filter fails either when it is compiled, on its params, or when its predicate
is evaluated, on a record. The other errors come from the server itself.
-/

namespace Fanout

/-- Why filter code fails. The text is the filter's own. -/
inductive FilterError where
  /-- The params are not what the filter takes. -/
  | invalidParams (text : String)
  /-- The predicate cannot decide on the record. -/
  | evaluation (text : String)
  deriving DecidableEq

/-- The wording of a filter's failure. -/
def FilterError.message : FilterError → String
  | .invalidParams text => "Invalid filter params: " ++ text
  | .evaluation text => "Predicate failed: " ++ text

/-- Why an operation of the server is refused. -/
inductive PublicationError where
  /-- The system failed to start something. -/
  | io (text : String)
  | unknownFilter (name : String)
  | staleConnection (connection : ConnectionId)
  | connectionExists (connection : ConnectionId)
  /-- A filter's failure, passed on as it is. -/
  | filter (error : FilterError)
  /-- A value is not of its wire form. -/
  | serialization (text : String)
  deriving DecidableEq

/-- The wording of a refusal. -/
def PublicationError.message : PublicationError → String
  | .io text => "IO error: " ++ text
  | .unknownFilter name => "Unknown filter: " ++ name
  | .staleConnection connection => "Connection is closed: " ++ connection.text
  | .connectionExists connection => "Connection already open: " ++ connection.text
  | .filter error => error.message
  | .serialization text => "Serialization error: " ++ text

/-- A value's failure to be of its wire form, as an error of the server. -/
def DecodeError.toError (error : DecodeError) : PublicationError := .serialization error.message

end Fanout
