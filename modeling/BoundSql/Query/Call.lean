import BoundSql.Query.Builder

/-!
# Builder calls as data

A `Call` is one thing to record, with its arguments. Calls are data so that a sequence of them
can be kept, run, compared and reordered. Like the types of items and right sides, a call takes
the type of the statements embedded in its arguments as a parameter; `Recording.call` is what one
records whose embedded statements are queries, and `Query.perform` runs it.

Many calls are short forms of others; those are functions into `Call`.
-/

namespace BoundSql

/-- One thing to record for a statement. -/
inductive Call (Q : Type) where
  | select (columns : List (Column Q)) (distinct : Bool)
  | addSelect (column : Column Q)
  | distinct
  | delete
  | ignore
  | table (name : String)
  | tableAlias (name : String)
  | name (name : String)
  | condition (link : Connective) (column operand : String) (comparand : Comparand Q)
  | join (kind : JoinKind) (table left operand right : String)
  | groupBy (column : Column Q)
  | orderBy (column : Column Q) (direction : Direction)
  | limit (n : UInt64)
  | offset (n : UInt64)
  | window (n : UInt64) (offset : Option UInt64)
  | paginate (page perPage : UInt64)
  | insertRows (rows : List NamedRow)
  | insertJson (data : Json)
  | insertColumns (columns : List String)
  | row (values : List Value)
  | onDuplicateKey (column : String) (value : SetValue)
  | update (table : String)
  | set (column : String) (value : SetValue)
  | setMany (pairs : List (String × Value))

namespace Call

variable {Q : Type}

/-- A condition for a column to equal the right side. -/
def equal (column : String) (comparand : Comparand Q) : Call Q :=
  .condition .and column Symbol.equal.sql comparand

/-- A condition for a column to be in a list or among the rows of a sub-query. -/
def isIn (column : String) (comparand : Comparand Q) : Call Q :=
  .condition .and column (Operand.sql (.inList false)) comparand

/-- A condition for a column to be NULL, or not to be. -/
def isNull (column : String) (negated : Bool) : Call Q :=
  .condition .and column (Operand.sql (.is negated)) (.scalar .null)

/-- An INSERT of one row. -/
def insert (row : NamedRow) : Call Q := .insertRows [row]

/-- An assignment that takes the value the row tried to insert. -/
def onDuplicateKeyInserted (column : String) : Call Q :=
  .onDuplicateKey column (.raw ("VALUES(" ++ column ++ ")"))

/-- An assignment of a value that may be missing; a missing one assigns nothing. -/
def setIfPresent (column : String) : Option Value → Call Q
  | some v => .set column (.value v)
  | none => .setMany []

end Call

/-- What a call whose arguments embed finished queries records. -/
def Recording.call : Call Query → Recording Unit
  | .select columns distinct => select columns distinct
  | .addSelect column => addSelect column
  | .distinct => distinct
  | .delete => delete
  | .ignore => ignore
  | .table name => modify (·.withTable name)
  | .tableAlias name => modify (·.withTableAlias name)
  | .name name => modify (·.withName name)
  | .condition link column operand comparand => addCondition link column operand comparand
  | .join kind table left operand right => join kind table left operand right
  | .groupBy column => addGroupBy column
  | .orderBy column direction => addOrderBy column direction
  | .limit n => modify (·.withLimit n)
  | .offset n => modify (·.withOffset n)
  | .window n offset => modify (·.withWindow n offset)
  | .paginate page perPage => modify (·.paginate page perPage)
  | .insertRows rows => insertRows rows
  | .insertJson data => insertJson data
  | .insertColumns columns => insertColumns columns
  | .row values => addRow values
  | .onDuplicateKey column value => onDuplicateKey column value
  | .update table => update table
  | .set column value => set column value
  | .setMany pairs => setMany pairs

/-- Runs a call. -/
def Query.perform (q : Query) (c : Call Query) : Attempt := (Recording.call c).attempt q

end BoundSql
