import BoundSql.Proofs.Arguments
import BoundSql.Proofs.ReplacedBuild
import BoundSql.Query.Script

/-!
# Bound values do not interfere

A script is filled like any data with bound values in it: each occurrence at any depth, in
embedded statements, groups and copies alike, has an address of its own. What a script does when
its values are replaced is what it did, with the same replacement in the arguments of what it
builds (`Script.run_fill`), because no step looks at a bound value.

So a script filled with names says once and for all what it does: which steps fail and with which
error, which text it builds, and for each argument from which occurrence it comes. Two scripts that
differ in bound values only get the same answer to all of this.

## Main definitions

* `Script.fill` — a script with other bound values.
* `Script.masked` — a script of which only the bound values are forgotten.
* `StepResult.replace` — how a step went, with replaced arguments.
-/

namespace BoundSql

/-! ## Filling scripts -/

mutual

/-- An item with other values in the statement embedded in it. -/
def Script.fillColumn (w : Filling) : Column (List Step) → Column (List Step)
  | .expression sql => .expression sql
  | .subQuery body => .subQuery (Script.fill w body)

/-- Items, each with values of its own. -/
def Script.fillColumns (w : Filling) : List (Column (List Step)) → List (Column (List Step))
  | [] => []
  | c :: cs => Script.fillColumn w.left c :: Script.fillColumns w.right cs

/-- A right side with other values. -/
def Script.fillComparand (w : Filling) : Comparand (List Step) → Comparand (List Step)
  | .scalar v => .scalar (Occurrences.ofValue.fill w v)
  | .list vs => .list (Occurrences.ofRow.fill w vs)
  | .subQuery body => .subQuery (Script.fill w body)
  | .literal sql => .literal sql

/-- A call with other values in its arguments. -/
def Script.fillCall (w : Filling) : Call (List Step) → Call (List Step)
  | .select columns distinct => .select (Script.fillColumns w columns) distinct
  | .addSelect column => .addSelect (Script.fillColumn w column)
  | .condition link column operand comparand =>
    .condition link column operand (Script.fillComparand w comparand)
  | .groupBy column => .groupBy (Script.fillColumn w column)
  | .orderBy column direction => .orderBy (Script.fillColumn w column) direction
  | .insertRows rows => .insertRows (Occurrences.ofPairs.list.fill w rows)
  | .insertJson data => .insertJson (Occurrences.ofJsonRows.fill w data)
  | .row values => .row (Occurrences.ofRow.fill w values)
  | .onDuplicateKey column value => .onDuplicateKey column (Occurrences.ofSetValue.fill w value)
  | .set column value => .set column (Occurrences.ofSetValue.fill w value)
  | .setMany pairs => .setMany (Occurrences.ofPairs.fill w pairs)
  | .distinct => .distinct
  | .delete => .delete
  | .ignore => .ignore
  | .table name => .table name
  | .tableAlias name => .tableAlias name
  | .name name => .name name
  | .join kind table left operand right => .join kind table left operand right
  | .limit n => .limit n
  | .offset n => .offset n
  | .window n offset => .window n offset
  | .paginate page perPage => .paginate page perPage
  | .insertColumns columns => .insertColumns columns
  | .update table => .update table

/-- Calls, each with values of its own. -/
def Script.fillCalls (w : Filling) : List (Call (List Step)) → List (Call (List Step))
  | [] => []
  | c :: cs => Script.fillCall w.left c :: Script.fillCalls w.right cs

/-- A step with other values. -/
def Script.fillStep (w : Filling) : Step → Step
  | .call c => .call (Script.fillCall w c)
  | .group link body => .group link (Script.fill w body)
  | .nest links body => .nest links (Script.fill w body)
  | .fork body => .fork (Script.fill w body)
  | .restart calls => .restart (Script.fillCalls w calls)
  | .statement => .statement
  | .sql => .sql
  | .build => .build

/-- A script with other values. -/
def Script.fill (w : Filling) : List Step → List Step
  | [] => []
  | s :: ss => Script.fillStep w.left s :: Script.fill w.right ss

end

/-- A script with one and the same value for every bound value: what is left when bound values are
forgotten. -/
def Script.masked (s : Script) : Script := Script.fill .blank s

namespace Script

mutual

theorem fillColumn_fillColumn (w v : Filling) :
    ∀ c, fillColumn w (fillColumn v c) = fillColumn w c
  | .expression sql => by simp only [fillColumn]
  | .subQuery body => by rw [fillColumn, fillColumn, fillColumn, fill_fill]

theorem fillColumns_fillColumns (w v : Filling) :
    ∀ cs, fillColumns w (fillColumns v cs) = fillColumns w cs
  | [] => by rw [fillColumns, fillColumns]
  | c :: cs => by
    rw [fillColumns, fillColumns, fillColumns, fillColumn_fillColumn, fillColumns_fillColumns]

theorem fillComparand_fillComparand (w v : Filling) :
    ∀ c, fillComparand w (fillComparand v c) = fillComparand w c
  | .scalar u => by
    rw [fillComparand, fillComparand, fillComparand, Occurrences.ofValue.fill_fill]
  | .list vs => by
    rw [fillComparand, fillComparand, fillComparand, Occurrences.ofRow.fill_fill]
  | .subQuery body => by rw [fillComparand, fillComparand, fillComparand, fill_fill]
  | .literal sql => by simp only [fillComparand]

theorem fillCall_fillCall (w v : Filling) : ∀ c, fillCall w (fillCall v c) = fillCall w c
  | .select columns _ => by rw [fillCall, fillCall, fillCall, fillColumns_fillColumns]
  | .addSelect column | .groupBy column | .orderBy column _ => by
    rw [fillCall, fillCall, fillCall, fillColumn_fillColumn]
  | .condition _ _ _ comparand => by
    rw [fillCall, fillCall, fillCall, fillComparand_fillComparand]
  | .insertRows rows => by rw [fillCall, fillCall, fillCall, Occurrences.fill_fill]
  | .insertJson data => by rw [fillCall, fillCall, fillCall, Occurrences.fill_fill]
  | .row values => by rw [fillCall, fillCall, fillCall, Occurrences.fill_fill]
  | .onDuplicateKey _ value | .set _ value => by
    rw [fillCall, fillCall, fillCall, Occurrences.fill_fill]
  | .setMany pairs => by rw [fillCall, fillCall, fillCall, Occurrences.fill_fill]
  | .distinct | .delete | .ignore | .table _ | .tableAlias _ | .name _ | .join _ _ _ _ _
  | .limit _ | .offset _ | .window _ _ | .paginate _ _ | .insertColumns _ | .update _ => by
    simp only [fillCall]

theorem fillCalls_fillCalls (w v : Filling) :
    ∀ cs, fillCalls w (fillCalls v cs) = fillCalls w cs
  | [] => by rw [fillCalls, fillCalls]
  | c :: cs => by rw [fillCalls, fillCalls, fillCalls, fillCall_fillCall, fillCalls_fillCalls]

theorem fillStep_fillStep (w v : Filling) : ∀ s, fillStep w (fillStep v s) = fillStep w s
  | .call c => by rw [fillStep, fillStep, fillStep, fillCall_fillCall]
  | .group _ body | .nest _ body | .fork body => by
    rw [fillStep, fillStep, fillStep, fill_fill]
  | .restart calls => by rw [fillStep, fillStep, fillStep, fillCalls_fillCalls]
  | .statement | .sql | .build => by simp only [fillStep]

/-- Filling forgets what was there. -/
theorem fill_fill (w v : Filling) : ∀ s, fill w (fill v s) = fill w s
  | [] => by rw [fill, fill]
  | s :: ss => by rw [fill, fill, fill, fillStep_fillStep, fill_fill]

end

mutual

theorem exists_own_column : ∀ c, ∃ w, fillColumn w c = c
  | .expression sql => ⟨.blank, by rw [fillColumn]⟩
  | .subQuery body => by
    obtain ⟨w, hw⟩ := exists_own body
    exact ⟨w, by rw [fillColumn, hw]⟩

theorem exists_own_columns : ∀ cs, ∃ w, fillColumns w cs = cs
  | [] => ⟨.blank, by rw [fillColumns]⟩
  | c :: cs => by
    obtain ⟨w, hw⟩ := exists_own_column c
    obtain ⟨v, hv⟩ := exists_own_columns cs
    exact ⟨.pair w v, by rw [fillColumns, Filling.left_pair, Filling.right_pair, hw, hv]⟩

theorem exists_own_comparand : ∀ c, ∃ w, fillComparand w c = c
  | .scalar v => by
    obtain ⟨w, hw⟩ := Occurrences.ofValue.exists_own v
    exact ⟨w, by rw [fillComparand, hw]⟩
  | .list vs => by
    obtain ⟨w, hw⟩ := Occurrences.ofRow.exists_own vs
    exact ⟨w, by rw [fillComparand, hw]⟩
  | .subQuery body => by
    obtain ⟨w, hw⟩ := exists_own body
    exact ⟨w, by rw [fillComparand, hw]⟩
  | .literal sql => ⟨.blank, by rw [fillComparand]⟩

theorem exists_own_call : ∀ c, ∃ w, fillCall w c = c
  | .select columns _ => by
    obtain ⟨w, hw⟩ := exists_own_columns columns
    exact ⟨w, by rw [fillCall, hw]⟩
  | .addSelect column | .groupBy column | .orderBy column _ => by
    obtain ⟨w, hw⟩ := exists_own_column column
    exact ⟨w, by rw [fillCall, hw]⟩
  | .condition _ _ _ comparand => by
    obtain ⟨w, hw⟩ := exists_own_comparand comparand
    exact ⟨w, by rw [fillCall, hw]⟩
  | .insertRows rows => by
    obtain ⟨w, hw⟩ := Occurrences.ofPairs.list.exists_own rows
    exact ⟨w, by rw [fillCall, hw]⟩
  | .insertJson data => by
    obtain ⟨w, hw⟩ := Occurrences.ofJsonRows.exists_own data
    exact ⟨w, by rw [fillCall, hw]⟩
  | .row values => by
    obtain ⟨w, hw⟩ := Occurrences.ofRow.exists_own values
    exact ⟨w, by rw [fillCall, hw]⟩
  | .onDuplicateKey _ value | .set _ value => by
    obtain ⟨w, hw⟩ := Occurrences.ofSetValue.exists_own value
    exact ⟨w, by rw [fillCall, hw]⟩
  | .setMany pairs => by
    obtain ⟨w, hw⟩ := Occurrences.ofPairs.exists_own pairs
    exact ⟨w, by rw [fillCall, hw]⟩
  | .distinct | .delete | .ignore | .table _ | .tableAlias _ | .name _ | .join _ _ _ _ _
  | .limit _ | .offset _ | .window _ _ | .paginate _ _ | .insertColumns _ | .update _ =>
    ⟨.blank, by rw [fillCall]⟩

theorem exists_own_calls : ∀ cs, ∃ w, fillCalls w cs = cs
  | [] => ⟨.blank, by rw [fillCalls]⟩
  | c :: cs => by
    obtain ⟨w, hw⟩ := exists_own_call c
    obtain ⟨v, hv⟩ := exists_own_calls cs
    exact ⟨.pair w v, by rw [fillCalls, Filling.left_pair, Filling.right_pair, hw, hv]⟩

theorem exists_own_step : ∀ s, ∃ w, fillStep w s = s
  | .call c => by
    obtain ⟨w, hw⟩ := exists_own_call c
    exact ⟨w, by rw [fillStep, hw]⟩
  | .group _ body | .nest _ body | .fork body => by
    obtain ⟨w, hw⟩ := exists_own body
    exact ⟨w, by rw [fillStep, hw]⟩
  | .restart calls => by
    obtain ⟨w, hw⟩ := exists_own_calls calls
    exact ⟨w, by rw [fillStep, hw]⟩
  | .statement | .sql | .build => ⟨.blank, by rw [fillStep]⟩

/-- A script is filled with values of its own. -/
theorem exists_own : ∀ s, ∃ w, fill w s = s
  | [] => ⟨.blank, by rw [fill]⟩
  | s :: ss => by
    obtain ⟨w, hw⟩ := exists_own_step s
    obtain ⟨v, hv⟩ := exists_own ss
    exact ⟨.pair w v, by rw [fill, Filling.left_pair, Filling.right_pair, hw, hv]⟩

end

/-- The scripts that differ from a script in bound values only are those that it is filled to. -/
theorem masked_eq_iff {s s' : Script} : s'.masked = s.masked ↔ ∃ w, s' = fill w s := by
  constructor
  · intro h
    obtain ⟨w, hw⟩ := exists_own s'
    refine ⟨w, ?_⟩
    -- The script that fills `s'` with its own values does not notice that they were masked.
    calc s' = fill w s' := hw.symm
      _ = fill w s'.masked := (fill_fill w .blank s').symm
      _ = fill w s.masked := by rw [h]
      _ = fill w s := fill_fill w .blank s
  · rintro ⟨w, rfl⟩
    exact fill_fill .blank w s

example : masked [.call (.condition .and "a" "in" (.list [.int 1, .null]))] =
    masked [.call (.condition .and "a" "in" (.list [.text "1) OR (1=1", .null]))] := rfl

end Script

/-! ## Results with replaced arguments -/

mutual

/-- How a step went, with the arguments of what it built replaced. -/
def StepResult.replace (ρ : Replacement) : StepResult → StepResult
  | .done => .done
  | .failed e => .failed e
  | .group inner => .group (StepResult.replaceAll ρ inner)
  | .fork inner copy => .fork (StepResult.replaceAll ρ inner) (copy.map (BuiltQuery.replace ρ))
  | .statement name => .statement name
  | .sql text => .sql text
  | .build built => .build (built.map (BuiltQuery.replace ρ))

/-- How steps went, with the arguments of what they built replaced. -/
def StepResult.replaceAll (ρ : Replacement) : List StepResult → List StepResult
  | [] => []
  | r :: rs => r.replace ρ :: StepResult.replaceAll ρ rs

end

def GuardedRun.replace (ρ : Replacement) (r : GuardedRun) : GuardedRun :=
  ⟨r.query.replace ρ, StepResult.replaceAll ρ r.results, r.failure⟩

theorem GuardedRun.toExcept_replace (ρ : Replacement) (r : GuardedRun) :
    (r.replace ρ).toExcept = r.toExcept.map (Query.replace ρ) := by
  obtain ⟨query, results, failure⟩ := r
  cases failure <;> rfl

@[simp] theorem StepResult.error?_replace (ρ : Replacement) (r : StepResult) :
    (r.replace ρ).error? = r.error? := by
  cases r <;> simp [replace, error?]

theorem StepResult.replace_ofOutcome (ρ : Replacement) (outcome : Except QueryError Unit) :
    (ofOutcome outcome).replace ρ = ofOutcome outcome := by
  cases outcome <;> simp [ofOutcome, replace]

namespace Query

variable (ρ : Replacement)

theorem openGroups_replace (q : Query) (links : List Connective) :
    (q.replace ρ).openGroups links = (q.openGroups links).replace ρ := by
  induction links generalizing q with
  | nil => rfl
  | cons link links ih => rw [openGroups, openGroups, openGroup_replace, ih]

theorem closeGroups_replace (q : Query) (links : List Connective) :
    (q.replace ρ).closeGroups links = (q.closeGroups links).replace ρ := by
  induction links generalizing q with
  | nil => rfl
  | cons link links ih => rw [closeGroups, closeGroups, closeGroup_replace, ih]

theorem sql_replace (q : Query) : (q.replace ρ).sql = q.sql := by
  rw [sql, sql, build_replace]
  cases q.build <;> rfl

theorem statementName?_replace (q : Query) :
    (q.replace ρ).statementName? = q.statementName? := by
  rw [statementName?, statementName?, statement_replace]
  cases q.statement with
  | none => rfl
  | some s => exact congrArg some (name_replaceAll ρ s)

end Query

/-! ## Runs of filled scripts -/

namespace Script

variable (ρ : Replacement)

mutual

theorem column_fill (w : Filling) : ∀ c, column (fillColumn (w.map ρ) c) =
    (column (fillColumn w c)).map (Column.map (Query.replace ρ))
  | .expression sql => by
    rw [fillColumn, fillColumn, column]
    rfl
  | .subQuery body => by
    have hrun := runGuarded_fill w body .new
    rw [Query.replace_new] at hrun
    rw [fillColumn, fillColumn, column, column, hrun]
    exact bind_eq_map (GuardedRun.toExcept_replace ρ _) fun q => rfl

theorem columns_fill (w : Filling) : ∀ cs, columns (fillColumns (w.map ρ) cs) =
    (columns (fillColumns w cs)).map (List.map (Column.map (Query.replace ρ)))
  | [] => by
    rw [fillColumns, fillColumns, columns]
    rfl
  | c :: cs => by
    rw [fillColumns, fillColumns, columns, columns]
    exact bind_eq_map (column_fill w.left c) fun c' =>
      bind_eq_map (columns_fill w.right cs) fun rest => rfl

theorem comparand_fill (w : Filling) : ∀ c, comparand (fillComparand (w.map ρ) c) =
    (comparand (fillComparand w c)).map (Comparand.replaceAll ρ)
  | .scalar v => by
    rw [fillComparand, fillComparand, comparand, comparand, Occurrences.fill_map]
    rfl
  | .list vs => by
    rw [fillComparand, fillComparand, comparand, comparand, Occurrences.fill_map]
    rfl
  | .subQuery body => by
    have hrun := runGuarded_fill w body .new
    rw [Query.replace_new] at hrun
    rw [fillComparand, fillComparand, comparand, comparand, hrun]
    exact bind_eq_map (GuardedRun.toExcept_replace ρ _) fun q => rfl
  | .literal sql => by
    rw [fillComparand, fillComparand, comparand]
    rfl

theorem call_fill (w : Filling) : ∀ c, call (fillCall (w.map ρ) c) =
    (call (fillCall w c)).map (Call.replace ρ)
  | .select cs distinct => by
    rw [fillCall, fillCall, call, call]
    exact bind_eq_map (columns_fill w cs) fun cs' => rfl
  | .addSelect c | .groupBy c | .orderBy c _ => by
    rw [fillCall, fillCall, call, call]
    exact bind_eq_map (column_fill w c) fun c' => rfl
  | .condition _ _ _ right => by
    rw [fillCall, fillCall, call, call]
    exact bind_eq_map (comparand_fill w right) fun right' => rfl
  | .insertRows _ | .insertJson _ | .row _ | .onDuplicateKey _ _ | .set _ _ | .setMany _ => by
    rw [fillCall, fillCall, call, call, Occurrences.fill_map]
    rfl
  | .distinct | .delete | .ignore | .table _ | .tableAlias _ | .name _ | .join _ _ _ _ _
  | .limit _ | .offset _ | .window _ _ | .paginate _ _ | .insertColumns _ | .update _ => by
    rw [fillCall, fillCall, call]
    rfl

theorem calls_fill (w : Filling) : ∀ cs q, calls (q.replace ρ) (fillCalls (w.map ρ) cs) =
    (calls q (fillCalls w cs)).map (Query.replace ρ)
  | [], q => by
    rw [fillCalls, fillCalls, calls, calls]
    rfl
  | c :: cs, q => by
    rw [fillCalls, fillCalls, calls, calls, Filling.left_map, Filling.right_map,
      call_fill w.left c]
    cases call (fillCall w.left c) with
    | error e => rfl
    | ok c' =>
      simp only [Except.map, Query.perform_replace]
      obtain ⟨q', outcome⟩ := q.perform c'
      cases outcome with
      | error e => rfl
      | ok _ => exact calls_fill w.right cs q'

theorem step_fill (w : Filling) : ∀ s q, step (q.replace ρ) (fillStep (w.map ρ) s) =
    ((step q (fillStep w s)).1.replace ρ, (step q (fillStep w s)).2.replace ρ)
  | .call c, q => by
    rw [fillStep, fillStep, step, step, call_fill w c]
    cases call (fillCall w c) with
    | error e => simp only [Except.map, StepResult.replace]
    | ok c' =>
      simp only [Except.map, Query.perform_replace, Attempt.replace, StepResult.replace_ofOutcome]
  | .group link body, q => by
    have hrun := runGuarded_fill w body (q.openGroup link)
    rw [fillStep, fillStep, step, step, Query.openGroup_replace, hrun]
    obtain ⟨query, results, failure⟩ := runGuarded (q.openGroup link) (fill w body)
    cases failure <;>
      simp only [GuardedRun.replace, StepResult.replace, Query.closeGroup_replace]
  | .nest links body, q => by
    have hrun := runGuarded_fill w body (q.openGroups links)
    rw [fillStep, fillStep, step, step, Query.openGroups_replace, hrun]
    simp only [GuardedRun.replace, GuardedRun.outcome, Query.closeGroups_replace,
      StepResult.replace_ofOutcome]
  | .fork body, q => by
    have hrun := run_fill w body q
    rw [fillStep, fillStep, step, step, hrun]
    simp only [StepResult.replace, Query.build_replace]
  | .restart cs, q => by
    have hcalls := calls_fill w cs .new
    rw [Query.replace_new] at hcalls
    rw [fillStep, fillStep, step, step, hcalls]
    cases calls .new (fillCalls w cs) <;> simp only [Except.map, StepResult.replace]
  | .statement, q => by
    simp only [fillStep, step, StepResult.replace, Query.statementName?_replace]
  | .sql, q => by simp only [fillStep, step, StepResult.replace, Query.sql_replace]
  | .build, q => by simp only [fillStep, step, StepResult.replace, Query.build_replace]

theorem run_fill (w : Filling) : ∀ steps q, run (q.replace ρ) (fill (w.map ρ) steps) =
    ((run q (fill w steps)).1.replace ρ, StepResult.replaceAll ρ (run q (fill w steps)).2)
  | [], q => by
    simp only [fill, run, StepResult.replaceAll]
  | s :: ss, q => by
    simp only [fill, run, StepResult.replaceAll, Filling.left_map, Filling.right_map,
      step_fill w.left s, run_fill w.right ss]

theorem runGuarded_fill (w : Filling) : ∀ steps q,
    runGuarded (q.replace ρ) (fill (w.map ρ) steps) = (runGuarded q (fill w steps)).replace ρ
  | [], q => by
    simp only [fill, runGuarded, GuardedRun.replace, StepResult.replaceAll]
  | s :: ss, q => by
    rw [fill, fill, runGuarded, runGuarded, Filling.left_map, Filling.right_map,
      step_fill w.left s]
    -- Both runs stop here, or neither does.
    obtain ⟨q', result⟩ := step q (fillStep w.left s)
    simp only [StepResult.error?_replace]
    cases result.error? with
    | some e => simp only [GuardedRun.replace, StepResult.replaceAll]
    | none =>
      simp only [runGuarded_fill w.right ss, GuardedRun.replace, StepResult.replaceAll]

end

/-- What a filled script does is what the script filled with names does, with the names read. -/
theorem run_fill_eq_names (w : Filling) (s : Script) :
    run .new (fill w s) =
      ((run .new (fill .names s)).1.replace w.reading,
        StepResult.replaceAll w.reading (run .new (fill .names s)).2) := by
  have h := run_fill w.reading .names s .new
  rwa [Query.replace_new, Filling.map_reading_names] at h

/-- Arguments that are names are read as the content of the slots that they name. -/
theorem map_reading_args {q : Query} {b : BuiltQuery} (h : q.build = .ok b) (w : Filling) :
    b.args.map w.reading.value = (b.args.map Slot.ofValue).map w.get := by
  rw [List.map_map]
  refine List.map_congr_left fun v hv => Filling.value_reading ?_
  exact Bool.eq_false_iff.mpr fun hnull =>
    Query.ne_null_of_mem_args h v hv (Value.isNull_eq_true_iff.mp hnull)

/-- Scripts that differ in bound values only are fillings of one script, and all of them do the
same: each step goes as it does for names, up to what the names stand for; building fails with one
error, or it gives one text, and each argument is the content of the slot that it comes from. -/
theorem run_blind_to_bound_values (s : Script) :
    (∀ s' : Script, s'.masked = s.masked ↔ ∃ w, s' = fill w s) ∧
      ∃ (results : List StepResult) (slots : List Slot), ∀ w w' : Filling,
        let r := run .new (fill w s)
        let r' := run .new (fill w' s)
        r.2 = StepResult.replaceAll w.reading results ∧
          r'.2 = StepResult.replaceAll w'.reading results ∧
          ((∃ e, r.1.build = .error e ∧ r'.1.build = .error e) ∨
            ∃ b b', r.1.build = .ok b ∧ r'.1.build = .ok b' ∧
              b'.sql = b.sql ∧ b'.kind = b.kind ∧ b'.placeholderCount = b.placeholderCount ∧
              b.args = slots.map w.get ∧ b'.args = slots.map w'.get) := by
  refine ⟨fun s' => masked_eq_iff, ?_⟩
  -- The run with names settles everything but the content of the slots.
  generalize hnames : run .new (fill .names s) = named
  obtain ⟨q, results⟩ := named
  have hrun (w : Filling) : run .new (fill w s) =
      (q.replace w.reading, StepResult.replaceAll w.reading results) := by
    rw [run_fill_eq_names, hnames]
  have hresults (w : Filling) :
      (run .new (fill w s)).2 = StepResult.replaceAll w.reading results := by
    rw [hrun]
  have hbuild (w : Filling) :
      (run .new (fill w s)).1.build = q.build.map (BuiltQuery.replace w.reading) := by
    rw [hrun, Query.build_replace]
  cases hb : q.build with
  | error e =>
    have hfails (w : Filling) : (run .new (fill w s)).1.build = .error e := by
      rw [hbuild, hb]
      rfl
    exact ⟨results, [], fun w w' =>
      ⟨hresults w, hresults w', .inl ⟨e, hfails w, hfails w'⟩⟩⟩
  | ok b =>
    have hgives (w : Filling) :
        (run .new (fill w s)).1.build = .ok (b.replace w.reading) := by
      rw [hbuild, hb]
      rfl
    exact ⟨results, b.args.map Slot.ofValue, fun w w' =>
      ⟨hresults w, hresults w', .inr ⟨b.replace w.reading, b.replace w'.reading, hgives w,
        hgives w', rfl, rfl, rfl, map_reading_args hb w, map_reading_args hb w'⟩⟩⟩

end Script

end BoundSql
