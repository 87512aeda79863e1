import BoundSql.Value

/-!
# Result rows

A row is a list of cells, each a value under the name of its column. Names may repeat; the first
cell of a name is the one found.
-/

namespace BoundSql

/-- A row of a result. -/
structure Row where
  cells : List (String × Value) := []
  deriving DecidableEq, Repr

namespace Row

/-- The row of names and values taken pairwise; what the longer list has beyond the other is
dropped. -/
def ofLists (columns : List String) (values : List Value) : Row := ⟨columns.zip values⟩

def columns (r : Row) : List String := r.cells.map (·.1)

def values (r : Row) : List Value := r.cells.map (·.2)

def size (r : Row) : Nat := r.cells.length

def isEmpty (r : Row) : Bool := r.cells.isEmpty

theorem length_columns (r : Row) : r.columns.length = r.size := by simp [columns, size]

theorem length_values (r : Row) : r.values.length = r.size := by simp [values, size]

/-- The value in the first cell of a column. -/
def get? (r : Row) (column : String) : Option Value := r.cells.lookup column

/-- The value at a position. -/
def at? (r : Row) (index : Nat) : Option Value := r.values[index]?

/-- The value in the first cell of a column, or an error that names the column. -/
def get (r : Row) (column : String) : Except QueryError Value :=
  match r.get? column with
  | some v => .ok v
  | none => .error (.execution ("column '" ++ column ++ "' not present in row"))

end Row

end BoundSql
