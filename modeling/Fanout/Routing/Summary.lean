/-!
# Fanout — counts of routing

`Summary` counts what became of one event, `Stats` what became of all events of a
router. The totals are words of 64 bits and wrap around.
-/

namespace Fanout

/-- What became of one event. -/
structure Summary where
  /-- Publications whose predicate accepted the event. -/
  matched : Nat := 0
  /-- Matches handed to their connection. -/
  delivered : Nat := 0
  /-- Publications whose predicate rejected the event. -/
  suppressed : Nat := 0
  /-- Publications whose predicate failed. -/
  failed : Nat := 0
  /-- Matches lost to a full, gone or closed connection. -/
  dropped : Nat := 0
  deriving DecidableEq

/-- What became of all events of a router. -/
structure Stats where
  events : UInt64 := 0
  delivered : UInt64 := 0
  suppressed : UInt64 := 0
  failed : UInt64 := 0
  dropped : UInt64 := 0
  deriving DecidableEq

namespace Stats

/-- Count one event more. -/
def arrive (stats : Stats) : Stats := { stats with events := stats.events + 1 }

/-- Add what became of an event. -/
def add (stats : Stats) (summary : Summary) : Stats :=
  { stats with
    delivered := stats.delivered + UInt64.ofNat summary.delivered
    suppressed := stats.suppressed + UInt64.ofNat summary.suppressed
    failed := stats.failed + UInt64.ofNat summary.failed
    dropped := stats.dropped + UInt64.ofNat summary.dropped }

/-- Count one event more, with its summary. -/
def record (stats : Stats) (summary : Summary) : Stats := stats.arrive.add summary

end Stats

end Fanout
