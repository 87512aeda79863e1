import BoundSql.Text.Clip
import BoundSql.Time.Duration

/-!
# Settings of the monitor

What to watch for while statements run: a time limit, the time from which a statement counts as
slow, and how to log. By default there is no limit, nothing counts as slow, statements are
logged at the debug level with at most 200 bytes of their text, and arguments are counted but
not shown.
-/

namespace BoundSql

/-- How important a log event is. -/
inductive LogLevel where
  | trace
  | debug
  | info
  | warn
  | error
  deriving DecidableEq, Repr

namespace LogLevel

/-- The level as settings name it. -/
def name : LogLevel → String
  | trace => "trace"
  | debug => "debug"
  | info => "info"
  | warn => "warn"
  | error => "error"

/-- The level of the given name. -/
def ofName? : String → Option LogLevel
  | "trace" => some trace
  | "debug" => some debug
  | "info" => some info
  | "warn" => some warn
  | "error" => some error
  | _ => none

@[simp] theorem ofName?_name (l : LogLevel) : ofName? l.name = some l := by cases l <;> rfl

end LogLevel

/-- The settings of a monitor. -/
structure MonitorConfig where
  /-- A statement that takes longer is given up. -/
  queryTimeout : Option Duration := none
  /-- A statement that takes longer counts as slow. -/
  slowQueryThreshold : Option Duration := none
  /-- The bytes of a statement's text that are logged; all of them without a number. -/
  maxSqlLength : Option Nat := some 200
  /-- Whether arguments are shown or only counted. -/
  logArgs : Bool := false
  /-- The level of the event for every statement. -/
  level : LogLevel := .debug
  deriving DecidableEq, Repr

/-- One setting given its value. -/
inductive Setting where
  | queryTimeout (limit : Duration)
  | slowQueryThreshold (threshold : Duration)
  | maxSqlLength (length : Nat)
  | noTruncation
  | logArgs (on : Bool)
  | level (level : LogLevel)
  deriving DecidableEq, Repr

namespace MonitorConfig

/-- The settings with one of them changed. -/
def set (c : MonitorConfig) : Setting → MonitorConfig
  | .queryTimeout limit => { c with queryTimeout := some limit }
  | .slowQueryThreshold threshold => { c with slowQueryThreshold := some threshold }
  | .maxSqlLength length => { c with maxSqlLength := some length }
  | .noTruncation => { c with maxSqlLength := none }
  | .logArgs on => { c with logArgs := on }
  | .level level => { c with level }

/-- The default settings with some of them changed, the last change of a setting counting. -/
def ofSettings (settings : List Setting) : MonitorConfig := settings.foldl set {}

/-- Whether a statement that took this long is slow. -/
def isSlow (c : MonitorConfig) (elapsed : Duration) : Bool :=
  c.slowQueryThreshold.any fun threshold => threshold < elapsed

/-- A statement's text as it is logged. -/
def loggedSql (c : MonitorConfig) (sql : String) : String := Text.clipped c.maxSqlLength sql

end MonitorConfig

end BoundSql
