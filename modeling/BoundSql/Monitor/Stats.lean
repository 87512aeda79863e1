import BoundSql.Error

/-!
# Counters of the monitor

The monitor counts statements, failures, time-outs and slow statements, and adds up the time
they took. The counters are 64-bit words.
-/

namespace BoundSql

/-- What was counted since the start or the last reset. -/
structure Stats where
  total : UInt64 := 0
  failed : UInt64 := 0
  timedOut : UInt64 := 0
  slow : UInt64 := 0
  /-- The time all statements took together, in nanoseconds. -/
  nanoseconds : UInt64 := 0
  deriving DecidableEq, Repr

/-- A word that is one where a condition holds. -/
def oneIf (condition : Bool) : UInt64 := if condition then 1 else 0

namespace Stats

/-- The counters after one more statement: how long it took, whether that was slow, and the
error it ended with, if any. -/
def record (s : Stats) (elapsed : Duration) (slow : Bool) (failure : Option QueryError) :
    Stats where
  total := s.total + 1
  failed := s.failed + oneIf failure.isSome
  timedOut := s.timedOut + oneIf (failure.any QueryError.isTimeout)
  slow := s.slow + oneIf slow
  nanoseconds := s.nanoseconds + UInt64.ofNatClamp elapsed.nanoseconds

end Stats

end BoundSql
