import BoundSql.Query.Condition
import BoundSql.Query.RowTable

/-!
# Recording the parts of a statement

A `Recording` acts on a query in steps: it looks at what is there, checks what it is given and
stores. A step that fails ends it, and what the steps before have stored stays in the query. So the
order of checks and changes matters; each recording here is written in the order in which it acts.

## Main definitions

* `Recording` — steps on a query, and `Recording.attempt`, what they come to.
* `Recording.choose` — the kind of the statement, which is chosen once.
-/

namespace BoundSql

/-- The query after a call that may fail halfway, and how the call went. -/
structure Attempt where
  query : Query
  outcome : Except QueryError Unit

/-- Steps on a query, up to the first that fails. -/
abbrev Recording := EStateM QueryError Query

namespace Query

/-! ## Checks -/

/-- Checks that an item is not blank. -/
def checkColumn : Column Query → Except QueryError Unit
  | .expression sql => ColumnName.validateExpression sql
  | .subQuery _ => .ok ()

/-- Checks items from left to right. -/
def checkColumns : List (Column Query) → Except QueryError Unit
  | [] => .ok ()
  | c :: cs => do
    checkColumn c
    checkColumns cs

/-- Checks column names from left to right. -/
def checkNames : List String → Except QueryError Unit
  | [] => .ok ()
  | name :: names => do
    ColumnName.validate name
    checkNames names

/-! ## Changes that need no check -/

/-- Sets the table. -/
def withTable (q : Query) (table : String) : Query := { q with table := some table }

/-- Sets the name of the table for the rest of the statement. -/
def withTableAlias (q : Query) (name : String) : Query := { q with tableAlias := some name }

/-- Sets the name that the statement gets as an item of another one. -/
def withName (q : Query) (name : String) : Query := { q with name := some name }

/-- Opens a group of conditions. -/
def openGroup (q : Query) (link : Connective) : Query :=
  { q with conditions := q.conditions.openGroup link }

/-- Closes the group of conditions opened last. -/
def closeGroup (q : Query) : Query := { q with conditions := q.conditions.closeGroup }

def withLimit (q : Query) (n : UInt64) : Query := { q with limit := some n }

def withOffset (q : Query) (n : UInt64) : Query := { q with offset := some n }

/-- Sets the limit, and sets or clears the offset. -/
def withWindow (q : Query) (n : UInt64) (offset : Option UInt64) : Query :=
  { q with limit := some n, offset }

/-- The product, or the greatest word where it is greater than that. -/
def saturatingMul (a b : UInt64) : UInt64 :=
  UInt64.ofNatClamp (a.toNat * b.toNat)

/-- Sets limit and offset to one page of the rows. Pages count from 1; page 0 is the first one,
and a page has at least one row. -/
def paginate (q : Query) (page perPage : UInt64) : Query :=
  let size := max perPage 1
  q.withWindow size (some (saturatingMul (max page 1 - 1) size))

end Query

namespace Recording

/-- What a recording makes of a query. -/
def attempt (r : Recording Unit) (q : Query) : Attempt :=
  match r.run q with
  | .ok _ q' => ⟨q', .ok ()⟩
  | .error e q' => ⟨q', .error e⟩

/-! ## The kind of the statement -/

/-- Stores a statement in place of the one that is there. -/
def store (s : Statement Query) : Recording Unit := modify fun q => { q with statement := some s }

/-- Refuses a clause that the query's statement does not have. -/
def refuse (clause : String) : Recording Unit := do throw ((← get).unsupported clause)

/-- Chooses the kind of the statement, which can be done once. -/
def choose (s : Statement Query) : Recording Unit := do
  match (← get).statement with
  | some current => throw (.statementAlreadySet current.name s.name)
  | none => store s

/-- Makes the statement a SELECT of the given items, or of all columns without items. -/
def select (columns : List (Column Query)) (distinct : Bool) : Recording Unit := do
  ofExcept (Query.checkColumns columns)
  choose (.select columns distinct)

/-- Adds an item to a SELECT. -/
def addSelect (column : Column Query) : Recording Unit := do
  ofExcept (Query.checkColumn column)
  match (← get).statement with
  | some (.select columns distinct) => store (.select (columns ++ [column]) distinct)
  | _ => refuse "SELECT column"

/-- Drops repeated rows from a SELECT. -/
def distinct : Recording Unit := do
  match (← get).statement with
  | some (.select columns _) => store (.select columns true)
  | _ => refuse "DISTINCT"

/-- Makes the statement a DELETE. -/
def delete : Recording Unit := choose .delete

/-- Makes the statement an UPDATE of a table. -/
def update (table : String) : Recording Unit := do
  choose (.update [])
  modify (·.withTable table)

/-! ## Conditions, joins, grouping and ordering -/

/-- Adds a condition to the group that the cursor addresses. -/
def addCondition (link : Connective) (column operand : String) (comparand : Comparand Query) :
    Recording Unit := do
  let condition ← ofExcept (Condition.make column operand comparand)
  modify fun q => { q with conditions := q.conditions.push link condition }

/-- Joins a table on a comparison of two names by a symbol. -/
def join (kind : JoinKind) (table left operand right : String) : Recording Unit := do
  ofExcept (ColumnName.validateExpression table)
  ofExcept (ColumnName.validateExpression left)
  ofExcept (ColumnName.validateExpression right)
  let parsed ← ofExcept (Operand.parse operand)
  if parsed.isSymbol then
    modify fun q => { q with joins := q.joins ++ [⟨kind, table, left, parsed, right⟩] }
  else throw (.invalidOperand operand)

/-- Adds an item to group by. -/
def addGroupBy (column : Column Query) : Recording Unit := do
  ofExcept (Query.checkColumn column)
  modify fun q => { q with groupBy := q.groupBy ++ [column] }

/-- Adds an item to order by. -/
def addOrderBy (column : Column Query) (direction : Direction) : Recording Unit := do
  ofExcept (Query.checkColumn column)
  modify fun q => { q with orderBy := q.orderBy ++ [⟨column, direction⟩] }

/-! ## Rows of an INSERT -/

/-- Makes the statement an INSERT of a table of values. -/
def insertTable (t : RowTable) : Recording Unit := choose (.insert t.columns t.rows false [])

/-- Makes the statement an INSERT of rows of named values. -/
def insertRows (rows : List NamedRow) : Recording Unit := do
  insertTable (← ofExcept (RowTable.ofRows rows))

/-- Makes the statement an INSERT of rows given as JSON data. -/
def insertJson (data : Json) : Recording Unit := do
  insertTable (← ofExcept (RowTable.ofJson data))

/-- Makes the statement an INSERT into some columns, as yet without rows. -/
def insertColumns (columns : List String) : Recording Unit := do
  ofExcept (Query.checkNames columns)
  insertTable ⟨columns, []⟩

/-- Adds a row to an INSERT, one value per column. -/
def addRow (row : List Value) : Recording Unit := do
  match (← get).statement with
  | some (.insert columns rows ignore onDuplicateKey) =>
    if row.length = columns.length then
      store (.insert columns (rows ++ [row]) ignore onDuplicateKey)
    else throw (.rowArityMismatch row.length columns.length)
  | _ => refuse "VALUES"

/-- Makes an INSERT skip rows that cannot be inserted. -/
def ignore : Recording Unit := do
  match (← get).statement with
  | some (.insert columns rows _ onDuplicateKey) => store (.insert columns rows true onDuplicateKey)
  | _ => refuse "IGNORE"

/-- Adds an assignment for rows whose key is already there. -/
def onDuplicateKey (column : String) (value : SetValue) : Recording Unit := do
  ofExcept (ColumnName.validate column)
  match (← get).statement with
  | some (.insert columns rows ignore assignments) =>
    store (.insert columns rows ignore (assignments ++ [⟨column, value⟩]))
  | _ => refuse "ON DUPLICATE KEY UPDATE"

/-! ## Assignments of an UPDATE -/

/-- Adds an assignment to an UPDATE. -/
def set (column : String) (value : SetValue) : Recording Unit := do
  ofExcept (ColumnName.validate column)
  match (← get).statement with
  | some (.update assignments) => store (.update (assignments ++ [⟨column, value⟩]))
  | _ => refuse "SET"

/-- Adds assignments of bound values, one after the other. -/
def setMany : List (String × Value) → Recording Unit
  | [] => pure ()
  | (column, value) :: pairs => do
    set column (.value value)
    setMany pairs

end Recording

end BoundSql
