import BoundSql.ColumnName
import BoundSql.Value

/-!
# Rows of named values as a table

The rows of an INSERT come as pairs of a column name and a value. The first row fixes the
columns and their order; every later row has to name the same columns, each once, in any order.
`RowTable.ofRows` checks this and lays the values out by column.

Rows may also come as JSON data: one object, or an array of objects, whose fields are the pairs
of a row.
-/

namespace BoundSql

/-- The values of one row, each with its column. -/
abbrev NamedRow := List (String × Value)

/-- Columns, and rows with one value per column in their order. -/
structure RowTable where
  columns : List String
  rows : List (List Value)
  deriving DecidableEq, Repr

namespace RowTable

/-- Checks the columns of the first row: all are names and no name comes twice. -/
def checkColumns (seen : List String) : List String → Except QueryError Unit
  | [] => .ok ()
  | name :: names => do
    ColumnName.validate name
    if name ∈ seen then
      throw (.invalidColumn ("duplicate insert column '" ++ name ++ "'"))
    checkColumns (name :: seen) names

/-- Checks that a later row names known columns only; `number` counts the first row as 0. -/
def checkKnown (columns : List String) (number : Nat) : List String → Except QueryError Unit
  | [] => .ok ()
  | name :: names => do
    ColumnName.validate name
    if name ∉ columns then
      throw (.invalidColumn
        ("row " ++ toString number ++ " has unknown column '" ++ name ++ "'"))
    checkKnown columns number names

/-- The values of a row in the order of the columns. -/
def pick (number : Nat) (row : NamedRow) : List String → Except QueryError (List Value)
  | [] => .ok []
  | column :: columns => do
    match row.lookup column with
    | some value => return value :: (← pick number row columns)
    | none =>
      throw (.invalidColumn
        ("row " ++ toString number ++ " has no value for column '" ++ column ++ "'"))

/-- The values of a later row, which has to name each column once. -/
def arrange (columns : List String) (number : Nat) (row : NamedRow) :
    Except QueryError (List Value) := do
  checkKnown columns number (row.map (·.1))
  if row.length ≠ columns.length then
    throw (.rowArityMismatch row.length columns.length)
  pick number row columns

/-- The values of all later rows. -/
def arrangeAll (columns : List String) : Nat → List NamedRow → Except QueryError (List (List Value))
  | _, [] => .ok []
  | number, row :: rows => do
    return (← arrange columns number row) :: (← arrangeAll columns (number + 1) rows)

/-- The table of some rows, of which the first must not be missing or empty. -/
def ofRows : List NamedRow → Except QueryError RowTable
  | [] | [] :: _ => .error .emptyInsertData
  | first :: later => do
    let columns := first.map (·.1)
    checkColumns [] columns
    return ⟨columns, first.map (·.2) :: (← arrangeAll columns 1 later)⟩

/-- The pairs of an object's fields; every field has to be scalar. -/
def pairsOfFields : List (String × Json) → Except QueryError NamedRow
  | [] => .ok []
  | (column, data) :: fields => do
    return (column, ← Value.ofJson column data) :: (← pairsOfFields fields)

/-- A row of JSON data has to be an object. -/
def rowOfJson (index : Nat) : Json → Except QueryError NamedRow
  | .object fields => pairsOfFields fields
  | other =>
    .error (.invalidColumn
      ("insert row " ++ toString index ++ " must be an object keyed by column name, got " ++
        other.kindName))

/-- Rows of JSON data, numbered from the given index. -/
def rowsOfItems : Nat → List Json → Except QueryError (List NamedRow)
  | _, [] => .ok []
  | index, item :: items => do
    return (← rowOfJson index item) :: (← rowsOfItems (index + 1) items)

/-- The rows of a document: the items of an array, or the document itself. -/
def rowsOfJson : Json → Except QueryError (List NamedRow)
  | .array items => rowsOfItems 0 items
  | other => do return [← rowOfJson 0 other]

/-- The table of a document; its shape is checked before the columns are. -/
def ofJson (data : Json) : Except QueryError RowTable := do
  ofRows (← rowsOfJson data)

end RowTable

end BoundSql
