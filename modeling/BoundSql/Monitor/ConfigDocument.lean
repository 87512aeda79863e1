import BoundSql.Error
import BoundSql.Monitor.Config
import BoundSql.Toml.Document

/-!
# Monitor settings from a document

A settings document is TOML with up to five keys: `query_timeout_ms` and
`slow_query_threshold_ms` in milliseconds, `max_sql_length` in bytes, `log_args` and `level`.
Keys that are missing leave their setting at its default. Numbers are not negative and fit a
64-bit word. The level is a name, or a table with a name as its only key and something empty
under it.
-/

namespace BoundSql.ConfigDocument

open Toml (Item Fields)

/-- A number that fits a word. -/
def word? : Item → Option Nat
  | .integer i => if 0 ≤ i ∧ i < UInt64.size then some i.toNat else none
  | _ => none

/-- A number of milliseconds. -/
def milliseconds? (item : Item) : Option Duration := (word? item).map Duration.ofMilliseconds

/-- A level by its name. -/
def level? : Item → Option LogLevel
  | .text name => LogLevel.ofName? name
  | .table _ [(name, .table _ [])] => LogLevel.ofName? name
  | .table _ [(name, .array [])] => LogLevel.ofName? name
  | _ => none

/-- The setting that a key and its value stand for. -/
def setting? : String × Item → Option Setting
  | ("query_timeout_ms", item) => (milliseconds? item).map .queryTimeout
  | ("slow_query_threshold_ms", item) => (milliseconds? item).map .slowQueryThreshold
  | ("max_sql_length", item) => (word? item).map .maxSqlLength
  | ("log_args", .boolean on) => some (.logArgs on)
  | ("level", item) => (level? item).map .level
  | _ => none

/-- The settings of a document. -/
def ofFields (fields : Fields) : Except QueryError MonitorConfig :=
  match fields.mapM setting? with
  | some settings => .ok (.ofSettings settings)
  | none => .error (.config "unknown setting, or a setting without a fitting value")

/-- Reads a settings document. -/
def read (text : String) : Except QueryError MonitorConfig :=
  match Toml.parse? text with
  | some fields => ofFields fields
  | none => .error (.config "the settings are not a document")

end BoundSql.ConfigDocument
