import Fanout.Wire.Basic

/-!
# Fanout — connections

A connection is known by a number of 64 bits. The number may be used again once
the connection has been closed.
-/

namespace Fanout

/-- The number of a connection. -/
structure ConnectionId where
  val : UInt64
  deriving DecidableEq

namespace ConnectionId

instance : Ord ConnectionId := ⟨compareOn val⟩

instance : Std.TransOrd ConnectionId := inferInstanceAs (Std.TransCmp (compareOn val))

instance : Std.LawfulEqOrd ConnectionId where
  eq_of_compare {a b} h := by
    have : a.val = b.val := Std.LawfulEqOrd.eq_of_compare h
    cases a
    cases b
    simp_all

/-- The number in decimal digits. -/
def text (connection : ConnectionId) : String := toString connection.val.toNat

instance : Wire ConnectionId where
  encode connection := Json.ofWord connection.val
  decode buffered value := (Wire.decode buffered value).map ConnectionId.mk
  shape := .word

end ConnectionId

end Fanout
