import BoundSql.Time.Duration

/-!
# Errors

What can go wrong while a statement is built, run or watched. Each constructor is one cause and
`QueryError.message` is the only place where a cause gets its words.
-/

namespace BoundSql

/-- A reason for which a statement is not built, or not answered. -/
inductive QueryError where
  /-- A statement of the given kind is built without a table. -/
  | missingTable (statement : String)
  /-- A statement is built before its kind was chosen. -/
  | missingStatement
  /-- A second kind is chosen for a statement. -/
  | statementAlreadySet (current requested : String)
  /-- A name or an expression is no column. -/
  | invalidColumn (reason : String)
  /-- A value is neither a scalar nor NULL. -/
  | nonScalarValue (column found : String)
  /-- The right side of a condition does not fit its operand. -/
  | invalidConditionValue (column operand reason : String)
  /-- A text is no operand. -/
  | invalidOperand (operand : String)
  /-- A row has another number of values than there are columns. -/
  | rowArityMismatch (values columns : Nat)
  /-- An INSERT has no columns or no rows. -/
  | emptyInsertData
  /-- An UPDATE sets nothing. -/
  | emptyUpdateColumns
  /-- A clause that statements of this kind cannot have. -/
  | unsupportedClause (clause statement : String)
  /-- The bridge failed. -/
  | execution (reason : String)
  /-- There is no row to return. -/
  | notFound (reason : String)
  /-- The bridge answered with another shape than the call asks for. -/
  | unexpectedOutcome (expected got : String)
  /-- The statement ran longer than allowed. -/
  | timeout (limit : Duration)
  /-- A settings document is not understood. -/
  | config (reason : String)
  deriving DecidableEq, Repr

namespace QueryError

/-- The words of an error. -/
def message : QueryError → String
  | missingTable statement => "Missing table: " ++ statement ++ " query has no table"
  | missingStatement =>
    "Missing statement: choose select/insert/update/delete before building"
  | statementAlreadySet current requested =>
    "Statement already set: query is already " ++ current ++ ", cannot switch to " ++ requested
  | invalidColumn reason => "Invalid column: " ++ reason
  | nonScalarValue column found => "Non-scalar value for '" ++ column ++ "': " ++ found
  | invalidConditionValue column operand reason =>
    "Invalid WHERE value for '" ++ column ++ " " ++ operand ++ "': " ++ reason
  | invalidOperand operand => "Invalid operand: '" ++ operand ++ "'"
  | rowArityMismatch values columns =>
    "Row arity mismatch: " ++ toString values ++ " values for " ++ toString columns ++ " columns"
  | emptyInsertData => "Empty insert data"
  | emptyUpdateColumns => "Empty update columns"
  | unsupportedClause clause statement =>
    clause ++ " is not supported in " ++ statement ++ " queries"
  | execution reason => "Execution error: " ++ reason
  | notFound reason => "Not found: " ++ reason
  | unexpectedOutcome expected got =>
    "Unexpected outcome: expected " ++ expected ++ ", got " ++ got
  | timeout limit => "Query timeout after " ++ limit.text
  | config reason => "Config error: " ++ reason

def isNotFound : QueryError → Bool
  | notFound _ => true
  | _ => false

def isTimeout : QueryError → Bool
  | timeout _ => true
  | _ => false

/-- Whether building a statement can raise the error, and not only running it. -/
def isBuildError : QueryError → Bool
  | execution _ | notFound _ | unexpectedOutcome _ _ | timeout _ | config _ => false
  | _ => true

end QueryError

end BoundSql
