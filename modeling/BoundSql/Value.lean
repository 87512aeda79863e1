import BoundSql.Error
import BoundSql.Json
import BoundSql.Number.FixedPoint
import BoundSql.Time.Calendar
import BoundSql.Uuid

/-!
# Bound values

A `Value` is what one placeholder can stand for: a scalar or NULL. Dates, times, identifiers and
exact decimals are bound as their text. JSON data become a value only when they are scalar.
-/

namespace BoundSql

/-- A scalar, or NULL. -/
inductive Value where
  | null
  | bool (value : Bool)
  | int (value : Int64)
  | uint (value : UInt64)
  | float (value : Binary64)
  | text (value : String)
  | bytes (value : List UInt8)
  deriving DecidableEq, Repr

namespace Value

/-- NULL is written out as a keyword and never bound. -/
def isNull : Value → Bool
  | null => true
  | _ => false

@[simp] theorem isNull_eq_true_iff {v : Value} : v.isNull = true ↔ v = null := by
  cases v <;> simp [isNull]

/-- Equality of content: doubles are compared as numbers, everything else as it is. -/
def agrees : Value → Value → Bool
  | float x, float y => x.numericEq y
  | v, w => v == w

/-- A value agrees with itself unless it is a NaN. -/
theorem agrees_self_iff {v : Value} : v.agrees v = true ↔ ∀ x, v = float x → x.isNaN = false := by
  cases v <;> simp [agrees, Binary64.numericEq_self]

/-- The short name of a value's type. -/
def typeName : Value → String
  | null => "null"
  | bool _ => "bool"
  | int _ => "int"
  | uint _ => "uint"
  | float _ => "float"
  | text _ => "text"
  | bytes _ => "bytes"

def ofDate (d : Date) : Value := text d.text

def ofDateTime (t : DateTime) : Value := text t.text

def ofUuid (u : Uuid) : Value := text u.text

def ofFixedPoint (x : FixedPoint) : Value := text x.text

def ofJsonNumber : JsonNumber → Value
  | .int i => int i
  | .uint n _ => uint n
  | .float x => float x

/-- The value of scalar JSON data. Arrays and objects are refused under the name of the column
they were meant for. -/
def ofJson (column : String) : Json → Except QueryError Value
  | .null => .ok null
  | .bool b => .ok (bool b)
  | .number n => .ok (ofJsonNumber n)
  | .string s => .ok (text s)
  | .array _ => .error (.nonScalarValue column "array")
  | .object _ => .error (.nonScalarValue column "object")

/-- The column named in errors when no column is known. -/
def anyColumn : String := "<value>"

end Value

end BoundSql
