import Fanout.Server.Inbound

/-!
# Fanout — descriptions for people

Publications, sessions and inbound messages in words, with their parts named, as
they stand in reports.
-/

namespace Fanout

/-- Parts between brackets, with commas. -/
def bracketed (opening closing : String) (parts : List String) : String :=
  opening ++ String.intercalate ", " parts ++ closing

/-- A record with named parts. -/
def describeRecord (name : String) (parts : List (String × String)) : String :=
  bracketed (name ++ " \x7b ") " \x7d" (parts.map (fun part => part.1 ++ ": " ++ part.2))

/-- A truth value. -/
def describeBool (value : Bool) : String := if value then "true" else "false"

namespace Json

mutual

/-- A value, with the kind of each part. -/
def describe : Json → String
  | .null => "Null"
  | .bool value => "Bool(" ++ describeBool value ++ ")"
  | .number value => "Number(" ++ value.text ++ ")"
  | .string value => "String(" ++ Text.shown value ++ ")"
  | .array items => bracketed "Array [" "]" (describeItems items)
  | .object members => bracketed "Object \x7b" "\x7d" (describeMembers members)

/-- Items, each described. -/
def describeItems : List Json → List String
  | [] => []
  | item :: rest => describe item :: describeItems rest

/-- Members, each a key and a described value. -/
def describeMembers : List (String × Json) → List String
  | [] => []
  | (key, value) :: rest => (Text.shown key ++ ": " ++ describe value) :: describeMembers rest

end

end Json

/-- A connection. -/
def ConnectionId.describe (connection : ConnectionId) : String := "Conn(" ++ connection.text ++ ")"

/-- A predicate, of which nothing shows. -/
def Predicate.describe (_ : Predicate) : String := "Predicate(..)"

/-- A filter, of which nothing shows. -/
def Filter.describe (_ : Filter) : String := "FilterFactory(..)"

/-- A session's state. -/
def SessionState.describe : SessionState → String
  | .opened => "Open"
  | .closed => "Closed"

/-- A session. -/
def SessionId.describe (id : SessionId) (state : SessionState) : String :=
  describeRecord "Session" [("id", id.connection.describe), ("state", state.describe)]

/-- An operation. -/
def Operation.describe : Operation → String
  | .created => "Created"
  | .updated => "Updated"
  | .patched => "Patched"
  | .removed => "Removed"

/-- A publication. -/
def Publication.describe (publication : Publication) : String :=
  describeRecord "Publication"
    [("connection", publication.connection.describe),
      ("service_name", Text.shown publication.service), ("name", Text.shown publication.name),
      ("params", bracketed "[" "]" (publication.params.map Json.describe)),
      ("if_server", describeBool publication.ifServer),
      ("check_before", describeBool publication.checkBefore)]

/-- A mutation. -/
def Mutation.describe (mutation : Mutation) : String :=
  let before := match mutation.before with
    | none => "None"
    | some before => "Some(" ++ before.describe ++ ")"
  describeRecord "MutationEvent"
    [("service", Text.shown mutation.service), ("operation", mutation.operation.describe),
      ("before", before), ("after", mutation.after.describe)]

/-- An inbound message. -/
def Inbound.describe : Inbound → String
  | .mutation event => "Mutation(" ++ event.describe ++ ")"
  | .opened connection _ => describeRecord "Open" [("connection", connection.describe)]
  | .closed connection => "Close(" ++ connection.describe ++ ")"

end Fanout
