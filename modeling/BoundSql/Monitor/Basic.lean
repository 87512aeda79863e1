import BoundSql.Execution.Bridge
import BoundSql.Monitor.Event
import BoundSql.Monitor.Stats

/-!
# The monitor

A monitor passes every statement on. Where a time limit is set and the reply takes longer, the
answer is a time-out, although the reply is used up; `Monitor.settle` says which. Everything
else that a monitor does is to count and to log.
-/

namespace BoundSql

/-- The watcher of a session: its settings and what it has counted. -/
structure Monitor where
  config : MonitorConfig := {}
  stats : Stats := {}
  deriving DecidableEq, Repr

namespace Monitor

/-- The answer that a reply comes to under a time limit; none where it never comes. -/
def settle : Option Duration → Reply → Option (Except QueryError Outcome)
  | none, reply => reply.result
  | some t, reply => some ((reply.within t).getD (.error (.timeout t)))

/-- The outcome as it is logged. -/
def outcomeName : Except QueryError Outcome → String
  | .ok outcome => outcome.kindName
  | .error (.timeout _) => "timeout"
  | .error _ => "error"

/-- The error of a result, if it is one. -/
def failure? : Except QueryError Outcome → Option QueryError
  | .ok _ => none
  | .error e => some e

/-- The log of one statement: that it ran, then whether it was slow, then whether it failed. -/
def events (c : MonitorConfig) (query : BuiltQuery) (elapsed : Duration)
    (result : Except QueryError Outcome) : List Event :=
  let sql := c.loggedSql query.sql
  let args := if c.logArgs then Value.logTexts query.args else toString query.args.length
  let ran := [Event.ran c.level query.kind sql args (outcomeName result)]
  let slow := if c.isSlow elapsed then [Event.slow query.kind sql] else []
  let failed := (failure? result).toList.map (Event.failed query.kind)
  ran ++ slow ++ failed

/-- The monitor after one more statement. -/
def record (m : Monitor) (elapsed : Duration) (result : Except QueryError Outcome) : Monitor :=
  { m with stats := m.stats.record elapsed (m.config.isSlow elapsed) (failure? result) }

end Monitor

end BoundSql
