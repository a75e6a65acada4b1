import Fanout.Diagnostic
import Fanout.Filter.Predicate

/-!
# Fanout — sessions and publications

Each opening of a connection starts a session of its own, which ends for good
when the connection is closed. A publication belongs to the session it was added
in, so that what matches it later can only reach that session's sink.
-/

namespace Fanout

/-- A session: which connection, and how many sessions of that connection came before. -/
structure SessionId where
  connection : ConnectionId
  index : Nat
  deriving DecidableEq

namespace SessionId

instance : Ord SessionId := ⟨compareLex (compareOn connection) (compareOn index)⟩

instance : Std.TransOrd SessionId :=
  inferInstanceAs (Std.TransCmp (compareLex (compareOn connection) (compareOn index)))

instance : Std.LawfulEqOrd SessionId where
  eq_of_compare {a b} h := by
    obtain ⟨hc, hi⟩ := compareLex_eq_eq.mp h
    have hc : a.connection = b.connection := Std.LawfulEqOrd.eq_of_compare hc
    have hi : a.index = b.index := Std.LawfulEqOrd.eq_of_compare hi
    cases a
    cases b
    simp_all

end SessionId

/-- Whether a session goes on. -/
inductive SessionState where
  | opened
  | closed
  deriving DecidableEq

/-- A session of a connection. -/
structure Session where
  state : SessionState := .opened
  sink : Sink
  /-- How many publications were added in the session. -/
  adds : Nat := 0
  /-- How many outsiders keep the session, and with it the sending end of its channel. -/
  holders : Nat := 0

/-- Whether the receiver of the session's channel may still expect something. -/
def Session.connected (session : Session) : Bool :=
  session.state == .opened || decide (0 < session.holders)

/-- What became of a delivery. -/
inductive DeliveryOutcome where
  | delivered
  | full
  | disconnected
  /-- The session had ended; the sink was not asked. -/
  | closed
  deriving DecidableEq

/-- The outcome that a sink's answer stands for. -/
def DeliveryOutcome.ofOffer : Offer → DeliveryOutcome
  | .delivered => .delivered
  | .full => .full
  | .disconnected => .disconnected

/-- Hand a delivery to a session. Nothing reaches the sink once the session has ended. -/
def Session.deliver (session : Session) (delivery : Delivery) : DeliveryOutcome × Session :=
  match session.state with
  | .closed => (.closed, session)
  | .opened =>
    let (answer, sink) := session.sink.deliver delivery
    (.ofOffer answer, { session with sink })

/-- One connection's interest in one service. -/
structure Publication where
  connection : ConnectionId
  service : String
  /-- The name of the filter. -/
  name : String
  /-- The arguments of the filter. -/
  params : List Json
  predicate : Predicate
  /-- Test the full record, with the fields that only the server may see. -/
  ifServer : Bool
  /-- Test the record before the change instead of the one after it. -/
  checkBefore : Bool
  /-- The session that the publication was added in. -/
  session : SessionId
  /-- The number of the publication among those added in its session. -/
  stamp : Nat

/-- The flags of a publication. -/
def Publication.flags (publication : Publication) : Flags :=
  ⟨publication.ifServer, publication.checkBefore⟩

/-- Whether two publications are the outcome of one and the same addition. -/
def Publication.sameAddition (a b : Publication) : Bool :=
  a.session == b.session && a.stamp == b.stamp

/-- A session that has ended leaves its sink alone. -/
theorem Session.deliver_of_closed {session : Session} (h : session.state = .closed)
    (delivery : Delivery) : session.deliver delivery = (.closed, session) := by
  unfold Session.deliver
  rw [h]

end Fanout
