import BoundSql.Query.Script

/-!
# The log of a script

Every build that succeeds while a script runs is logged, in the order of the steps: where a step
looks at the text or at the finished statement, and at the end of a run on a copy. The log is a
view of a run beside its result. It keeps what came before a failure, also in an embedded
statement whose failure makes the call fail.
-/

namespace BoundSql.Script

mutual

/-- The log of an item. -/
def columnLog : Column (List Step) → List BuildEntry
  | .expression _ => []
  | .subQuery body => guardedLog .new body

/-- The log of items, up to the first that fails. -/
def columnsLog : List (Column (List Step)) → List BuildEntry
  | [] => []
  | c :: cs =>
    columnLog c ++
      match column c with
      | .ok _ => columnsLog cs
      | .error _ => []

/-- The log of a right side. -/
def comparandLog : Comparand (List Step) → List BuildEntry
  | .subQuery body => guardedLog .new body
  | .scalar _ | .list _ | .literal _ => []

/-- The log of the statements embedded in a call. Recording a call builds nothing. -/
def callLog : Call (List Step) → List BuildEntry
  | .select columns _ => columnsLog columns
  | .addSelect c | .groupBy c | .orderBy c _ => columnLog c
  | .condition _ _ _ right => comparandLog right
  | _ => []

/-- The log of calls, up to the first that fails. -/
def callsLog (q : Query) : List (Call (List Step)) → List BuildEntry
  | [] => []
  | c :: cs =>
    callLog c ++
      match call c with
      | .error _ => []
      | .ok c' =>
        match q.perform c' with
        | ⟨_, .error _⟩ => []
        | ⟨q', .ok ()⟩ => callsLog q' cs

/-- The log of one step. -/
def stepLog (q : Query) : Step → List BuildEntry
  | .call c => callLog c
  | .group link body => guardedLog (q.openGroup link) body
  | .nest links body => guardedLog (q.openGroups links) body
  | .fork body => runLog q body ++ (run q body).1.buildLog
  | .restart calls => callsLog .new calls
  | .statement => []
  | .sql | .build => q.buildLog

/-- The log of all steps. -/
def runLog (q : Query) : List Step → List BuildEntry
  | [] => []
  | s :: ss => stepLog q s ++ runLog (step q s).1 ss

/-- The log of steps up to the first that fails, with what that one logs itself. -/
def guardedLog (q : Query) : List Step → List BuildEntry
  | [] => []
  | s :: ss =>
    stepLog q s ++
      match (step q s).2.error? with
      | some _ => []
      | none => guardedLog (step q s).1 ss

end

/-- The log of a script that makes a query of a new one. -/
def log (script : Script) : List BuildEntry := guardedLog .new script

end BoundSql.Script
