import BoundSql.ColumnName
import BoundSql.Query.Basic

/-!
# Which right sides an operand takes

A membership test takes a list or a sub-query, a range test a list of two values, a comparison
with a quantifier a sub-query, and every other comparison a scalar or a literal that is not
blank. `Condition.make` reads the operand and checks the right side; it never looks at a bound
value.
-/

namespace BoundSql

variable {Q : Type}

namespace Condition

/-- What is wrong with a right side for an operand, in words; nothing where it fits. -/
def mismatch? (operand : Operand) (comparand : Comparand Q) : Option String :=
  match operand, comparand with
  | .inList _, .list _ | .inList _, .subQuery _ => none
  | .inList _, other => some ("requires a list or sub-query, got " ++ other.description)
  | .between _, .list [_, _] => none
  | .between _, .list values =>
    some ("requires exactly two values, got " ++ toString values.length)
  | .between _, other => some ("requires a two-value list, got " ++ other.description)
  | .quantified _ _, .subQuery _ => none
  | .quantified _ _, other => some ("requires a sub-query, got " ++ other.description)
  | _, .scalar _ => none
  | _, .literal sql => if Text.isBlankText sql then some "literal cannot be empty" else none
  | _, other => some ("requires a scalar or NULL, got " ++ other.description)

/-- A condition from its parts: the column must not be blank, the operand must be one, and the
right side must fit it. -/
def make (column operand : String) (comparand : Comparand Q) :
    Except QueryError (Condition Q) := do
  ColumnName.validateExpression column
  let parsed ← Operand.parse operand
  match mismatch? parsed comparand with
  | some reason => throw (.invalidConditionValue column parsed.sql reason)
  | none => return ⟨column, parsed, comparand⟩

end Condition

end BoundSql
