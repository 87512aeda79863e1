import BoundSql.BuiltQuery
import BoundSql.ConditionTree
import BoundSql.Operand

/-!
# Statements under construction

A `Query` holds everything recorded for one statement: its kind with what only that kind uses,
the table, joins, conditions, grouping, ordering, limits and the name it gets when another
statement embeds it.

Columns and right sides of conditions may embed another statement. Their types take the type of
embedded statements as a parameter, so the same shapes serve finished statements (`Column
Query`) and scripts that have yet to run.
-/

namespace BoundSql

/-- A projected, grouped or ordered item: SQL as it is, or an embedded statement. -/
inductive Column (Q : Type) where
  | expression (sql : String)
  | subQuery (query : Q)

/-- The right side of a condition. A literal is SQL as it is. -/
inductive Comparand (Q : Type) where
  | scalar (value : Value)
  | list (values : List Value)
  | subQuery (query : Q)
  | literal (sql : String)

/-- The right side in the words of messages. -/
def Comparand.description {Q : Type} : Comparand Q → String
  | scalar _ => "a scalar"
  | list _ => "a list"
  | subQuery _ => "a sub-query"
  | literal _ => "a literal"

/-- A comparison of a column with a right side. -/
structure Condition (Q : Type) where
  column : String
  operand : Operand
  comparand : Comparand Q

/-- Which rows without a partner a join keeps. -/
inductive JoinKind where
  | inner
  | left
  | right
  deriving DecidableEq, Repr

/-- The keywords of a join. -/
def JoinKind.sql : JoinKind → String
  | inner => "INNER JOIN"
  | left => "LEFT JOIN"
  | right => "RIGHT JOIN"

/-- A joined table and the comparison of names that it is joined on. -/
structure Join where
  kind : JoinKind
  table : String
  left : String
  operand : Operand
  right : String
  deriving DecidableEq, Repr

/-- A join in SQL. -/
def Join.sql (j : Join) : String :=
  j.kind.sql ++ " " ++ j.table ++ " ON " ++ j.left ++ " " ++ j.operand.sql ++ " " ++ j.right

/-- The order of rows by one item. -/
inductive Direction where
  | ascending
  | descending
  deriving DecidableEq, Repr

instance : Inhabited Direction := ⟨.ascending⟩

/-- The keyword of a direction. -/
def Direction.sql : Direction → String
  | ascending => "ASC"
  | descending => "DESC"

/-- An item that rows are ordered by. -/
structure OrderItem (Q : Type) where
  column : Column Q
  direction : Direction

/-- The right side of an assignment: a bound value, or SQL as it is. -/
inductive SetValue where
  | value (value : Value)
  | raw (sql : String)
  deriving DecidableEq, Repr

/-- The right side of an assignment in SQL. -/
def SetValue.fragment : SetValue → Fragment
  | value v => .value v
  | raw sql => .text sql

/-- A column and what it is set to. -/
structure Assignment where
  column : String
  value : SetValue
  deriving DecidableEq, Repr

/-- An assignment in SQL. -/
def Assignment.fragment (a : Assignment) : Fragment :=
  .text (a.column ++ " = ") ++ a.value.fragment

/-- The kind of a statement with what only statements of that kind hold. Every row of an INSERT
has one value per column. -/
inductive Statement (Q : Type) where
  | select (columns : List (Column Q)) (distinct : Bool)
  | insert (columns : List String) (rows : List (List Value)) (ignore : Bool)
      (onDuplicateKey : List Assignment)
  | update (assignments : List Assignment)
  | delete

namespace Statement

variable {Q : Type}

/-- The kind of a statement. -/
def kind : Statement Q → StatementKind
  | select _ _ => .select
  | insert _ _ _ _ => .insert
  | update _ => .update
  | delete => .delete

/-- The leading keyword of a statement. -/
def name (s : Statement Q) : String := s.kind.name

end Statement

/-- A statement under construction. Without LIMIT or OFFSET, all rows are meant. -/
structure Query where
  statement : Option (Statement Query) := none
  table : Option String := none
  tableAlias : Option String := none
  joins : List Join := []
  conditions : ConditionTree (Condition Query) := {}
  groupBy : List (Column Query) := []
  orderBy : List (OrderItem Query) := []
  limit : Option UInt64 := none
  offset : Option UInt64 := none
  name : Option String := none

namespace Query

/-- A query for which nothing has been recorded. -/
def new : Query := {}

/-- The name of the query's statement, once one was chosen. -/
def statementName? (q : Query) : Option String := q.statement.map Statement.name

/-- The refusal of a clause: by the kind of the query's statement, or because it has none. -/
def unsupported (q : Query) (clause : String) : QueryError :=
  match q.statement with
  | some s => .unsupportedClause clause s.name
  | none => .missingStatement

end Query

end BoundSql
