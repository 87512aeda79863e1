import BoundSql.Execution.Session
import BoundSql.Query.Log

/-!
# Calls with scripted queries

A call on a session may give its query by a script. The script runs first, and what it builds on
the way is logged before anything else. Where it fails, its error is the answer and the session
stays as it was.
-/

namespace BoundSql

namespace SessionCall

/-- The call with its script run. -/
def resolve : SessionCall Script → Except QueryError (SessionCall Query)
  | .operation op script => script.toQuery.map (.operation op)
  | .raw request => .ok (.raw request)
  | .build script => script.toQuery.map .build
  | .resetStats => .ok .resetStats

/-- The log of the script. -/
def scriptLog : SessionCall Script → List BuildEntry
  | .operation _ script | .build script => script.log
  | .raw _ | .resetStats => []

end SessionCall

namespace Session

/-- Runs the script of a call, and then the call. -/
def performScripted (s : Session) (elapsed : Duration) (c : SessionCall Script) :
    Session × Observation :=
  let before := builtEvents c.scriptLog
  match c.resolve with
  | .error e => (s, { answer := some (.error e), events := before })
  | .ok c' =>
    let (s', o) := s.perform elapsed c'
    (s', { o with events := before ++ o.events })

end Session

end BoundSql
