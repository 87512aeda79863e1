import BoundSql.Query.Build
import BoundSql.Query.Call

/-!
# Scripts of builder calls

A script is a list of steps run on one query: calls, groups of conditions with a script of their
own, runs on a copy, and looks at what the query builds. Statements embedded in the arguments of
a call are given by scripts too; each runs on a new query, and the first step of it that fails
makes the call fail with that error before anything is recorded.

A script goes on after a failing step, save in a group and in an embedded statement: there it
stops, and the failure is that of the whole. A group is closed in any case, and keeps what was
recorded in it.
-/

namespace BoundSql

/-- One step of a script. -/
inductive Step where
  /-- A builder call. -/
  | call (c : Call (List Step))
  /-- A group of conditions in which a script runs. -/
  | group (link : Connective) (body : List Step)
  /-- Groups inside each other, the outermost first, with a script run in the innermost; like a
  single call, it does not tell how the steps of its script went. -/
  | nest (links : List Connective) (body : List Step)
  /-- A script run on a copy of the query. -/
  | fork (body : List Step)
  /-- Calls on a new query, which takes the place of the query unless one of them fails. -/
  | restart (calls : List (Call (List Step)))
  /-- The kind of the statement. -/
  | statement
  /-- The text of the statement. -/
  | sql
  /-- The finished statement. -/
  | build

/-- Steps run one after another. -/
abbrev Script := List Step

/-- How a step went. -/
inductive StepResult where
  | done
  | failed (e : QueryError)
  | group (inner : List StepResult)
  | fork (inner : List StepResult) (copy : Except QueryError BuiltQuery)
  | statement (name : Option String)
  | sql (text : String)
  | build (built : Except QueryError BuiltQuery)

namespace StepResult

/-- The error of a step that failed. -/
def error? : StepResult → Option QueryError
  | failed e => some e
  | _ => none

/-- How a step went, from how its only effect went. -/
def ofOutcome : Except QueryError Unit → StepResult
  | .ok () => done
  | .error e => failed e

end StepResult

/-- The query after a script that stops at its first failure, the results of the steps before
that, and the failure. -/
structure GuardedRun where
  query : Query
  results : List StepResult
  failure : Option QueryError := none

namespace GuardedRun

/-- The query of a run without a failure. -/
def toExcept (r : GuardedRun) : Except QueryError Query :=
  match r.failure with
  | none => .ok r.query
  | some e => .error e

/-- How a step went whose script ran. -/
def outcome (r : GuardedRun) : Except QueryError Unit :=
  match r.failure with
  | none => .ok ()
  | some e => .error e

end GuardedRun

namespace Query

/-- Opens groups, the outermost first. -/
def openGroups (q : Query) : List Connective → Query
  | [] => q
  | link :: links => (q.openGroup link).openGroups links

/-- Closes as many groups as there are connectives. -/
def closeGroups (q : Query) : List Connective → Query
  | [] => q
  | _ :: links => (q.closeGroup).closeGroups links

end Query

mutual

/-- The item that a step's argument stands for. -/
def Script.column : Column (List Step) → Except QueryError (Column Query)
  | .expression sql => .ok (.expression sql)
  | .subQuery body => do return .subQuery (← (Script.runGuarded .new body).toExcept)

/-- Items from left to right. -/
def Script.columns : List (Column (List Step)) → Except QueryError (List (Column Query))
  | [] => .ok []
  | c :: cs => do return (← Script.column c) :: (← Script.columns cs)

/-- The right side that a step's argument stands for. -/
def Script.comparand : Comparand (List Step) → Except QueryError (Comparand Query)
  | .scalar value => .ok (.scalar value)
  | .list values => .ok (.list values)
  | .literal sql => .ok (.literal sql)
  | .subQuery body => do return .subQuery (← (Script.runGuarded .new body).toExcept)

/-- The call that a step stands for, with every embedded statement run. -/
def Script.call : Call (List Step) → Except QueryError (Call Query)
  | .select columns distinct => do return .select (← Script.columns columns) distinct
  | .addSelect column => do return .addSelect (← Script.column column)
  | .distinct => .ok .distinct
  | .delete => .ok .delete
  | .ignore => .ok .ignore
  | .table name => .ok (.table name)
  | .tableAlias name => .ok (.tableAlias name)
  | .name name => .ok (.name name)
  | .condition link column operand comparand => do
    return .condition link column operand (← Script.comparand comparand)
  | .join kind table left operand right => .ok (.join kind table left operand right)
  | .groupBy column => do return .groupBy (← Script.column column)
  | .orderBy column direction => do return .orderBy (← Script.column column) direction
  | .limit n => .ok (.limit n)
  | .offset n => .ok (.offset n)
  | .window n offset => .ok (.window n offset)
  | .paginate page perPage => .ok (.paginate page perPage)
  | .insertRows rows => .ok (.insertRows rows)
  | .insertJson data => .ok (.insertJson data)
  | .insertColumns columns => .ok (.insertColumns columns)
  | .row values => .ok (.row values)
  | .onDuplicateKey column value => .ok (.onDuplicateKey column value)
  | .update table => .ok (.update table)
  | .set column value => .ok (.set column value)
  | .setMany pairs => .ok (.setMany pairs)

/-- Runs calls up to the first that fails. -/
def Script.calls (q : Query) : List (Call (List Step)) → Except QueryError Query
  | [] => .ok q
  | c :: cs =>
    match Script.call c with
    | .error e => .error e
    | .ok c =>
      match q.perform c with
      | ⟨_, .error e⟩ => .error e
      | ⟨q', .ok ()⟩ => Script.calls q' cs

/-- Runs one step. -/
def Script.step (q : Query) : Step → Query × StepResult
  | .call c =>
    match Script.call c with
    | .error e => (q, .failed e)
    | .ok c =>
      let attempt := q.perform c
      (attempt.query, .ofOutcome attempt.outcome)
  | .group link body =>
    let run := Script.runGuarded (q.openGroup link) body
    let result : StepResult :=
      match run.failure with
      | none => .group run.results
      | some e => .failed e
    (run.query.closeGroup, result)
  | .nest links body =>
    let run := Script.runGuarded (q.openGroups links) body
    (run.query.closeGroups links, .ofOutcome run.outcome)
  | .fork body =>
    let (copy, results) := Script.run q body
    (q, .fork results copy.build)
  | .restart calls =>
    match Script.calls .new calls with
    | .error e => (q, .failed e)
    | .ok q' => (q', .done)
  | .statement => (q, .statement q.statementName?)
  | .sql => (q, .sql q.sql)
  | .build => (q, .build q.build)

/-- Runs all steps, whether or not one fails. -/
def Script.run (q : Query) : List Step → Query × List StepResult
  | [] => (q, [])
  | s :: ss =>
    let (q', result) := Script.step q s
    let (q'', results) := Script.run q' ss
    (q'', result :: results)

/-- Runs steps up to the first that fails. -/
def Script.runGuarded (q : Query) : List Step → GuardedRun
  | [] => { query := q, results := [] }
  | s :: ss =>
    let (q', result) := Script.step q s
    match result.error? with
    | some e => { query := q', results := [], failure := some e }
    | none =>
      let rest := Script.runGuarded q' ss
      { rest with results := result :: rest.results }

end

/-- The query that a script makes of a new one, if none of its steps fails. -/
def Script.toQuery (script : Script) : Except QueryError Query :=
  (Script.runGuarded .new script).toExcept

/-- Runs all steps and tells after each one what the query builds. -/
def Script.trace (q : Query) :
    List Step → Query × List (StepResult × Except QueryError BuiltQuery)
  | [] => (q, [])
  | s :: ss =>
    let (q', result) := Script.step q s
    let (q'', results) := Script.trace q' ss
    (q'', (result, q'.build) :: results)

end BoundSql
