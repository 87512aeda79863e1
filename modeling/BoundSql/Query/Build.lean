import BoundSql.Query.Condition

/-!
# From a query to a finished statement

Building writes every clause as a `Fragment` and joins them in the order in which SQL has them,
so each bound value travels with its placeholder. An embedded statement is written in
parentheses where it stands; only a SELECT can be embedded.

The first thing that keeps a query from being a statement is reported. The clauses of a SELECT
are written in turn, the table after the projection; the other kinds look at their table first,
then at what they must have, then at the clauses they cannot have, and then at the statements
embedded in them. An INSERT also checks that its values fill whole rows, although no sequence of
builder calls leaves a row unfinished.
-/

namespace BoundSql

open Fragment (text)

/-- Stops with an error where a condition holds. -/
def refuseIf (condition : Bool) (e : QueryError) : Except QueryError Unit :=
  if condition then .error e else .ok ()

/-- What `LIMIT` has to say for an offset without a limit: the greatest number of rows. -/
def noLimit : UInt64 := 18446744073709551615

namespace Clause

/-- The keyword `AS` and a name, where there is one. -/
def aliasSuffix : Option String → String
  | none => ""
  | some name => " AS " ++ name

/-- The table that a statement of the given kind is about; it has to have a name that is not
blank. -/
def table (kind : StatementKind) : Option String → Except QueryError String
  | none => .error (.missingTable kind.name)
  | some name =>
    if Text.isBlankText name then .error (.missingTable kind.name) else .ok name

/-- The table with the name it is given for the rest of the statement. -/
def target (kind : StatementKind) (name tableAlias : Option String) : Except QueryError String := do
  return (← table kind name) ++ aliasSuffix tableAlias

/-- Joins, each after a blank. -/
def joins (js : List Join) : String := String.join (js.map fun j => " " ++ j.sql)

/-- A keyword and items with commas between them; nothing where there are no items. -/
def items (keyword : String) (fs : List Fragment) : Fragment :=
  if fs.isEmpty then .empty else text keyword ++ .join ", " fs

/-- Conditions after `WHERE`; nothing where there are none at any depth. -/
def conditions (nodes : Forest Fragment) : Fragment :=
  if Forest.isVacant nodes then .empty else text " WHERE " ++ Forest.layout nodes

/-- How many rows a SELECT returns and how many it skips before them. -/
def window : Option UInt64 → Option UInt64 → String
  | none, none => ""
  | some n, none => " LIMIT " ++ toString n.toNat
  | none, some m => " LIMIT " ++ toString noLimit.toNat ++ " OFFSET " ++ toString m.toNat
  | some n, some m => " LIMIT " ++ toString n.toNat ++ " OFFSET " ++ toString m.toNat

/-- Assignments with commas between them. -/
def assignments (as : List Assignment) : Fragment := .join ", " (as.map Assignment.fragment)

/-- A row of values in parentheses. -/
def row (values : List Value) : Fragment := (Fragment.values values).parenthesized

/-- A condition before its right side. -/
def comparison (column : String) (operand : Operand) (right : Fragment) : Fragment :=
  text (column ++ " " ++ operand.sql ++ " ") ++ right

/-- A membership test with an empty list is decided without its column: nothing is in the list.
-/
def emptyListTest (negated : Bool) : String := if negated then "1=1" else "1=0"

/-- A condition whose right side is a list. -/
def listCondition (column : String) : Operand → List Value → Fragment
  | .inList negated, [] => text (emptyListTest negated)
  | .between negated, [low, high] =>
    comparison column (.between negated) (.value low ++ text " AND " ++ .value high)
  | operand, values => comparison column operand (row values)

end Clause

namespace Statement

/-- A SELECT from its clauses; without columns it selects all of them. -/
def selectFragment (distinct : Bool) (projection : List Fragment) (target : String)
    (joins : List Join) (conditions : Forest Fragment) (groupBy orderBy : List Fragment)
    (limit offset : Option UInt64) : Fragment :=
  text (if distinct then "SELECT DISTINCT " else "SELECT ") ++
    (if projection.isEmpty then text "*" else .join ", " projection) ++
    text (" FROM " ++ target ++ Clause.joins joins) ++
    Clause.conditions conditions ++ Clause.items " GROUP BY " groupBy ++
    Clause.items " ORDER BY " orderBy ++ text (Clause.window limit offset)

/-- An INSERT from its clauses. -/
def insertFragment (ignore : Bool) (table : String) (columns : List String)
    (rows : List (List Value)) (onDuplicateKey : List Assignment) : Fragment :=
  text ((if ignore then "INSERT IGNORE INTO " else "INSERT INTO ") ++ table ++ " (" ++
      String.intercalate ", " columns ++ ") VALUES ") ++
    .join ", " (rows.map Clause.row) ++
    (if onDuplicateKey.isEmpty then .empty
      else text " ON DUPLICATE KEY UPDATE " ++ Clause.assignments onDuplicateKey)

/-- The clauses that UPDATE and DELETE end with. -/
def mutationTail (conditions : Forest Fragment) (orderBy : List Fragment)
    (limit : Option UInt64) : Fragment :=
  Clause.conditions conditions ++ Clause.items " ORDER BY " orderBy ++
    text (Clause.window limit none)

/-- An UPDATE from its clauses. -/
def updateFragment (target : String) (assignments : List Assignment)
    (conditions : Forest Fragment) (orderBy : List Fragment) (limit : Option UInt64) : Fragment :=
  text ("UPDATE " ++ target ++ " SET ") ++ Clause.assignments assignments ++
    mutationTail conditions orderBy limit

/-- A DELETE from its clauses. -/
def deleteFragment (target : String) (conditions : Forest Fragment) (orderBy : List Fragment)
    (limit : Option UInt64) : Fragment :=
  text ("DELETE FROM " ++ target) ++ mutationTail conditions orderBy limit

end Statement

/-- What the log keeps of a build: the kind of the statement and the number of its arguments. -/
structure BuildEntry where
  statement : String
  args : Nat
  deriving DecidableEq, Repr

namespace Query

/-- A statement in parentheses for use inside another one, given what it was written as. -/
def embedded (q : Query) (written : Except QueryError Fragment) : Except QueryError Fragment :=
  match q.statement with
  | some (.select _ _) => written.map Fragment.parenthesized
  | _ => .error (q.unsupported "sub-query")

mutual

/-- The text of a query with the values it binds, or the first thing that keeps it from being a
statement. -/
def compile : Query → Except QueryError Fragment
  | ⟨none, _, _, _, _, _, _, _, _, _⟩ => .error .missingStatement
  | ⟨some (.select columns distinct), table, tableAlias, joins, ⟨roots, _⟩, groupBy, orderBy,
      limit, offset, _⟩ => do
    let projection ← columnFragments columns
    let target ← Clause.target .select table tableAlias
    let conditions ← conditionFragments roots
    let groups ← columnFragments groupBy
    let orders ← orderFragments orderBy
    return Statement.selectFragment distinct projection target joins conditions groups orders
      limit offset
  | ⟨some (.insert columns rows ignore onDuplicateKey), table, _, joins, ⟨roots, _⟩, groupBy,
      orderBy, _, _, _⟩ => do
    let name ← Clause.table .insert table
    refuseIf (columns.isEmpty || rows.flatten.isEmpty) .emptyInsertData
    refuseIf (rows.flatten.length % columns.length != 0)
      (.rowArityMismatch rows.flatten.length columns.length)
    refuseIf (!joins.isEmpty) (.unsupportedClause "JOIN" "INSERT")
    refuseIf (!Forest.isVacant roots) (.unsupportedClause "WHERE" "INSERT")
    refuseIf (!groupBy.isEmpty) (.unsupportedClause "GROUP BY" "INSERT")
    refuseIf (!orderBy.isEmpty) (.unsupportedClause "ORDER BY" "INSERT")
    return Statement.insertFragment ignore name columns rows onDuplicateKey
  | ⟨some (.update assignments), table, tableAlias, joins, ⟨roots, _⟩, groupBy, orderBy, limit,
      _, _⟩ => do
    let target ← Clause.target .update table tableAlias
    refuseIf assignments.isEmpty .emptyUpdateColumns
    refuseIf (!joins.isEmpty) (.unsupportedClause "JOIN" "UPDATE")
    refuseIf (!groupBy.isEmpty) (.unsupportedClause "GROUP BY" "UPDATE")
    let conditions ← conditionFragments roots
    let orders ← orderFragments orderBy
    return Statement.updateFragment target assignments conditions orders limit
  | ⟨some .delete, table, tableAlias, joins, ⟨roots, _⟩, groupBy, orderBy, limit, _, _⟩ => do
    let target ← Clause.target .delete table tableAlias
    refuseIf (!joins.isEmpty) (.unsupportedClause "JOIN" "DELETE")
    refuseIf (!groupBy.isEmpty) (.unsupportedClause "GROUP BY" "DELETE")
    let conditions ← conditionFragments roots
    let orders ← orderFragments orderBy
    return Statement.deleteFragment target conditions orders limit

/-- An item: an expression as it is, or an embedded statement with the name it was given. -/
def columnFragment : Column Query → Except QueryError Fragment
  | .expression sql => .ok (text sql)
  | .subQuery q => do
    return (← q.embedded (compile q)) ++ text (Clause.aliasSuffix q.name)

/-- Items from left to right. -/
def columnFragments : List (Column Query) → Except QueryError (List Fragment)
  | [] => .ok []
  | c :: cs => do return (← columnFragment c) :: (← columnFragments cs)

/-- Items to order by, each with its direction. -/
def orderFragments : List (OrderItem Query) → Except QueryError (List Fragment)
  | [] => .ok []
  | ⟨c, direction⟩ :: items => do
    return ((← columnFragment c) ++ text (" " ++ direction.sql)) :: (← orderFragments items)

/-- A condition. -/
def conditionFragment : Condition Query → Except QueryError Fragment
  | ⟨column, operand, .scalar v⟩ => .ok (Clause.comparison column operand (.value v))
  | ⟨column, operand, .list vs⟩ => .ok (Clause.listCondition column operand vs)
  | ⟨column, operand, .literal sql⟩ => .ok (Clause.comparison column operand (text sql))
  | ⟨column, operand, .subQuery q⟩ => do
    return Clause.comparison column operand (← q.embedded (compile q))

/-- A node with every condition in it written. -/
def conditionFragmentNode :
    ConditionNode (Condition Query) → Except QueryError (ConditionNode Fragment)
  | .leaf link condition => do return .leaf link (← conditionFragment condition)
  | .group link children => do return .group link (← conditionFragments children)

/-- Nodes with every condition in them written, depth first. -/
def conditionFragments :
    List (ConditionNode (Condition Query)) → Except QueryError (List (ConditionNode Fragment))
  | [] => .ok []
  | node :: nodes => do
    return (← conditionFragmentNode node) :: (← conditionFragments nodes)

end

/-- The finished statement, or the first thing that keeps the query from being one. -/
def build (q : Query) : Except QueryError BuiltQuery := q.compile.map BuiltQuery.ofFragment

/-- Whether the statement agrees with what a second build gives; only a NaN among the arguments
prevents that. -/
def isStable (q : Query) : Bool :=
  match q.build with
  | .ok b => b.agrees b
  | .error _ => true

/-- The text of the finished statement; empty where there is none. -/
def sql (q : Query) : String :=
  match q.build with
  | .ok b => b.sql
  | .error _ => ""

/-- The log of one build, which is empty where the build fails. A statement that is embedded in
another one has no entry of its own. -/
def buildLog (q : Query) : List BuildEntry :=
  match q.build with
  | .ok b => [⟨q.statementName?.getD "unset", b.args.length⟩]
  | .error _ => []

theorem buildLog_of_error {q : Query} {e : QueryError} (h : q.build = .error e) :
    q.buildLog = [] := by
  simp [buildLog, h]

end Query

end BoundSql
