import BoundSql.BuiltQuery
import BoundSql.Monitor.Config
import BoundSql.Monitor.LogText

/-!
# Log events

An `Event` is one entry of the log. Every event has a level, a target, a message and named
fields in text form.
-/

namespace BoundSql

/-- An entry of the log. -/
inductive Event where
  /-- A statement of the given kind was built, with this many arguments. -/
  | built (statement : String) (args : Nat)
  /-- A statement ran, with this outcome. -/
  | ran (level : LogLevel) (kind : StatementKind) (sql args outcome : String)
  /-- A statement was slow. -/
  | slow (kind : StatementKind) (sql : String)
  /-- A statement failed. -/
  | failed (kind : StatementKind) (e : QueryError)
  deriving DecidableEq, Repr

namespace Event

def level : Event → LogLevel
  | built _ _ => .trace
  | ran level .. => level
  | slow _ _ => .warn
  | failed _ _ => .debug

/-- Who logs the event. -/
def target : Event → String
  | built _ _ => "sqlqb.build"
  | _ => "sqlqb.sql"

def message : Event → String
  | built _ _ => "query built"
  | ran .. => "sql"
  | slow _ _ => "slow query"
  | failed _ _ => "query failed"

def fields : Event → List (String × String)
  | built statement args => [("statement", statement), ("args", toString args)]
  | ran _ kind sql args outcome =>
    [("kind", kind.name), ("sql", sql), ("args", args), ("outcome", outcome)]
  | slow kind sql => [("kind", kind.name), ("sql", sql)]
  | failed kind e => [("kind", kind.name), ("error", e.message)]

end Event

end BoundSql
