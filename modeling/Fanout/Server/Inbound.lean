import Fanout.Server.Basic

/-!
# Fanout — inbound messages

A transport feeds a server with messages, which are applied in order of arrival.
A message has no answer: the refusal of an opening goes unnoticed, and leaves the
connection that is open as it is.
-/

namespace Fanout

/-- A message of a transport. -/
inductive Inbound where
  /-- A service raised an event. -/
  | mutation (mutation : Mutation)
  /-- A connection came up. -/
  | opened (connection : ConnectionId) (sink : Sink)
  /-- A connection went away. -/
  | closed (connection : ConnectionId)

/-- The operation that a message asks for. -/
def Inbound.request : Inbound → Request
  | .mutation event => .publish event
  | .opened connection sink => .openConnection connection sink
  | .closed connection => .closeConnection connection

namespace Server

/-- Apply one message. -/
def handle (depth : Nat) (server : Server) (message : Inbound) : Option Server := do
  let (_, server) ← server.perform depth message.request
  return server

/-- Apply messages in order; gives the counters at the end. -/
def runLoop (depth : Nat) (server : Server) (messages : List Inbound) :
    Option (Stats × Server) := do
  let server ← messages.foldlM (handle depth) server
  return (server.stats, server)

end Server

end Fanout
