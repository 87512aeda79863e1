import BoundSql.Proofs.Changes

/-!
# What keeps a query from being a statement

`Query.faults` lists everything that is wrong with a query, in the order in which it is looked at,
and `Query.written` is the text that the query has where nothing is. Building a query amounts to
both: it fails with the first fault and otherwise gives the text. An embedded query has the
faults that it has by itself, provided it is a SELECT.

## Main definitions

* `report` — the first of some faults, or a result where there is none.
* `Query.faults`, `Query.written` — the two parts of building a query.
-/

namespace BoundSql

variable {α β : Type}

/-! ## Reporting the first fault -/

/-- The first of some faults, or a result where there is none. -/
def report (faults : List QueryError) (result : α) : Except QueryError α :=
  match faults with
  | [] => .ok result
  | e :: _ => .error e

/-- The fault that a check finds, if its condition holds. -/
def faultIf (condition : Bool) (e : QueryError) : List QueryError := if condition then [e] else []

@[simp] theorem report_nil (a : α) : report [] a = .ok a := rfl

@[simp] theorem report_singleton (e : QueryError) (a : α) : report [e] a = .error e := rfl

theorem report_eq_error_iff {faults : List QueryError} {a : α} {e : QueryError} :
    report faults a = .error e ↔ faults.head? = some e := by
  cases faults <;> simp [report]

theorem report_eq_ok_iff {faults : List QueryError} {a b : α} :
    report faults a = .ok b ↔ faults = [] ∧ a = b := by
  cases faults <;> simp [report]

theorem pure_eq_report (a : α) : (pure a : Except QueryError α) = report [] a := rfl

/-- Faults of a step come before those of the steps after it. -/
theorem report_bind (fs : List QueryError) (a : α) (gs : α → List QueryError) (r : α → β) :
    (report fs a >>= fun x => report (gs x) (r x)) = report (fs ++ gs a) (r a) := by
  cases fs <;> rfl

theorem report_map (f : α → β) (fs : List QueryError) (a : α) :
    (report fs a).map f = report fs (f a) := by
  cases fs <;> rfl

theorem refuseIf_eq_report (condition : Bool) (e : QueryError) :
    refuseIf condition e = report (faultIf condition e) () := by
  cases condition <;> rfl

/-! ## Faults -/

/-- A statement needs a table with a name that is not blank. -/
def tableFaults (kind : StatementKind) (table : Option String) : List QueryError :=
  faultIf (table.all Text.isBlankText) (.missingTable kind.name)

/-- The faults of an embedded query: it has to be a SELECT without faults of its own. -/
def embeddedFaults : Query × List QueryError → List QueryError
  | (e, own) =>
    match e.statement with
    | none => [.missingStatement]
    | some (.select _ _) => own
    | some s => [.unsupportedClause "sub-query" s.name]

/-- UPDATE and DELETE are about one table and do not group rows. -/
def singleTableFaults {Q : Type} (o : Outline Q) (statement : String) : List QueryError :=
  faultIf (!o.joins.isEmpty) (.unsupportedClause "JOIN" statement) ++
    faultIf (!o.groupBy.isEmpty) (.unsupportedClause "GROUP BY" statement)

/-- The faults of a query from those of the queries embedded in it. -/
def Outline.faults (o : Outline (Query × List QueryError)) : List QueryError :=
  let inConditions :=
    ((Forest.leaves o.conditions.roots).flatMap Condition.subQueries).flatMap embeddedFaults
  let inOrders := (o.orderBy.flatMap OrderItem.subQueries).flatMap embeddedFaults
  match o.statement with
  | none => [.missingStatement]
  | some (.select columns _) =>
    (columns.flatMap Column.subQueries).flatMap embeddedFaults ++
      tableFaults .select o.table ++ inConditions ++
      (o.groupBy.flatMap Column.subQueries).flatMap embeddedFaults ++ inOrders
  | some (.insert columns rows _ _) =>
    tableFaults .insert o.table ++
      faultIf (columns.isEmpty || rows.flatten.isEmpty) .emptyInsertData ++
      faultIf (!o.joins.isEmpty) (.unsupportedClause "JOIN" "INSERT") ++
      faultIf (!(Forest.leaves o.conditions.roots).isEmpty)
        (.unsupportedClause "WHERE" "INSERT") ++
      faultIf (!o.groupBy.isEmpty) (.unsupportedClause "GROUP BY" "INSERT") ++
      faultIf (!o.orderBy.isEmpty) (.unsupportedClause "ORDER BY" "INSERT")
  | some (.update assignments) =>
    tableFaults .update o.table ++ faultIf assignments.isEmpty .emptyUpdateColumns ++
      singleTableFaults o "UPDATE" ++ inConditions ++ inOrders
  | some .delete =>
    tableFaults .delete o.table ++ singleTableFaults o "DELETE" ++ inConditions ++ inOrders

/-- Everything that is wrong with a query, in the order in which it is looked at. -/
def Query.faults : Query → List QueryError := Query.fold Outline.faults

/-! ## Text -/

/-- An item in SQL. -/
def Column.written : Column (Query × Fragment) → Fragment
  | .expression sql => .text sql
  | .subQuery (e, f) => f.parenthesized ++ .text (Clause.aliasSuffix e.name)

/-- An item to order by in SQL. -/
def OrderItem.written (o : OrderItem (Query × Fragment)) : Fragment :=
  o.column.written ++ .text (" " ++ o.direction.sql)

/-- A condition in SQL. -/
def Condition.written : Condition (Query × Fragment) → Fragment
  | ⟨column, operand, .scalar v⟩ => Clause.comparison column operand (.value v)
  | ⟨column, operand, .list vs⟩ => Clause.listCondition column operand vs
  | ⟨column, operand, .subQuery (_, f)⟩ => Clause.comparison column operand f.parenthesized
  | ⟨column, operand, .literal sql⟩ => Clause.comparison column operand (.text sql)

/-- The table of a statement with its alias. -/
def Outline.target {Q : Type} (o : Outline Q) : String :=
  o.table.getD "" ++ Clause.aliasSuffix o.tableAlias

/-- The text of a query from those of the queries embedded in it. -/
def Outline.written (o : Outline (Query × Fragment)) : Fragment :=
  let conditions := Forest.map Condition.written o.conditions.roots
  let orders := o.orderBy.map OrderItem.written
  match o.statement with
  | none => .empty
  | some (.select columns distinct) =>
    Statement.selectFragment distinct (columns.map Column.written) o.target o.joins conditions
      (o.groupBy.map Column.written) orders o.limit o.offset
  | some (.insert columns rows ignore onDuplicateKey) =>
    Statement.insertFragment ignore (o.table.getD "") columns rows onDuplicateKey
  | some (.update assignments) =>
    Statement.updateFragment o.target assignments conditions orders o.limit
  | some .delete => Statement.deleteFragment o.target conditions orders o.limit

/-- The text of a query with the values it binds; it is a statement if the query has no faults. -/
def Query.written : Query → Fragment := Query.fold Outline.written

/-! ## Building -/

namespace Query

/-- An embedded query beside its faults. -/
abbrev withFaults : Query → Query × List QueryError := withFold Outline.faults

/-- An embedded query beside its text. -/
abbrev withText : Query → Query × Fragment := withFold Outline.written

theorem faults_eq (q : Query) : q.faults = (q.outline.map withFaults).faults := fold_eq _ q

theorem written_eq (q : Query) : q.written = (q.outline.map withText).written := fold_eq _ q

/-- Compiling a query reports its faults, or gives its text. -/
def Compiles (q : Query) : Prop := q.compile = report q.faults q.written

theorem embedded_eq_report {e : Query} (h : e.RowsFit → e.Compiles) :
    e.embedded e.compile = report (embeddedFaults (withFaults e)) e.written.parenthesized := by
  cases hs : e.statement with
  | none => simp [embedded, embeddedFaults, unsupported, withFold, hs]
  | some s =>
    cases s with
    | select columns distinct =>
      have hc : e.compile = report e.faults e.written := h (by intro; simp [hs])
      simp only [embedded, embeddedFaults, withFold, hs]
      rw [hc, report_map]
      rfl
    | insert _ _ _ _ | update _ | delete =>
      simp [embedded, embeddedFaults, unsupported, withFold, hs]

theorem columnFragment_eq_report {c : Column Query}
    (h : ∀ e ∈ c.subQueries, e.RowsFit → e.Compiles) :
    columnFragment c =
      report ((c.map withFaults).subQueries.flatMap embeddedFaults) (c.map withText).written := by
  cases c with
  | expression sql => simp [columnFragment, Column.map, Column.subQueries, Column.written]
  | subQuery e =>
    rw [columnFragment, embedded_eq_report (h e (by simp [Column.subQueries]))]
    simp only [pure_eq_report, report_bind, List.append_nil, Column.map, Column.subQueries,
      List.flatMap_singleton]
    rfl

theorem columnFragments_eq_report {cs : List (Column Query)}
    (h : ∀ e ∈ cs.flatMap Column.subQueries, e.RowsFit → e.Compiles) :
    columnFragments cs =
      report (((cs.map (Column.map withFaults)).flatMap Column.subQueries).flatMap embeddedFaults)
        ((cs.map (Column.map withText)).map Column.written) := by
  induction cs with
  | nil => simp [columnFragments]
  | cons c cs ih =>
    rw [List.flatMap_cons, List.forall_mem_append] at h
    rw [columnFragments, columnFragment_eq_report h.1, ih h.2]
    simp only [pure_eq_report, report_bind, List.append_nil, List.map_cons, List.flatMap_cons,
      List.flatMap_append]

theorem orderFragments_eq_report {os : List (OrderItem Query)}
    (h : ∀ e ∈ os.flatMap OrderItem.subQueries, e.RowsFit → e.Compiles) :
    orderFragments os =
      report
        (((os.map (OrderItem.map withFaults)).flatMap OrderItem.subQueries).flatMap
          embeddedFaults)
        ((os.map (OrderItem.map withText)).map OrderItem.written) := by
  induction os with
  | nil => simp [orderFragments]
  | cons o os ih =>
    rw [List.flatMap_cons, List.forall_mem_append] at h
    obtain ⟨c, direction⟩ := o
    rw [orderFragments, columnFragment_eq_report h.1, ih h.2]
    simp only [pure_eq_report, report_bind, List.append_nil, List.map_cons, List.flatMap_cons,
      List.flatMap_append]
    rfl

theorem conditionFragment_eq_report {c : Condition Query}
    (h : ∀ e ∈ c.subQueries, e.RowsFit → e.Compiles) :
    conditionFragment c =
      report ((c.map withFaults).subQueries.flatMap embeddedFaults) (c.map withText).written := by
  obtain ⟨column, operand, comparand⟩ := c
  cases comparand with
  | subQuery e =>
    rw [conditionFragment,
      embedded_eq_report (h e (by simp [Condition.subQueries, Comparand.subQueries]))]
    simp only [pure_eq_report, report_bind, List.append_nil, Condition.map, Comparand.map,
      Condition.subQueries, Comparand.subQueries, List.flatMap_singleton]
    rfl
  | scalar _ | list _ | literal _ =>
    simp [conditionFragment, Condition.map, Comparand.map, Condition.subQueries,
      Comparand.subQueries, Condition.written]

theorem conditionFragments_eq_report {nodes : Forest (Condition Query)}
    (h : ∀ e ∈ (Forest.leaves nodes).flatMap Condition.subQueries, e.RowsFit → e.Compiles) :
    conditionFragments nodes =
      report
        (((Forest.leaves (Forest.map (Condition.map withFaults) nodes)).flatMap
          Condition.subQueries).flatMap embeddedFaults)
        (Forest.map Condition.written (Forest.map (Condition.map withText) nodes)) := by
  induction nodes using Forest.induction with
  | nil => simp [conditionFragments]
  | leaf link condition nodes ih =>
    rw [Forest.leaves_leaf_cons, List.flatMap_cons, List.forall_mem_append] at h
    rw [conditionFragments, conditionFragmentNode, conditionFragment_eq_report h.1, ih h.2]
    simp only [pure_eq_report, report_bind, List.append_nil, Forest.map_leaf_cons,
      Forest.leaves_leaf_cons, List.flatMap_cons, List.flatMap_append]
  | group link children nodes ihc ihn =>
    rw [Forest.leaves_group_cons, List.flatMap_append, List.forall_mem_append] at h
    rw [conditionFragments, conditionFragmentNode, ihc h.1, ihn h.2]
    simp only [pure_eq_report, report_bind, List.append_nil, Forest.map_group_cons,
      Forest.leaves_group_cons, List.flatMap_append]

theorem table_eq_report (kind : StatementKind) (table : Option String) :
    Clause.table kind table = report (tableFaults kind table) (table.getD "") := by
  cases table with
  | none => rfl
  | some name => by_cases h : Text.isBlankText name <;> simp [Clause.table, tableFaults, faultIf, h]

theorem target_eq_report (kind : StatementKind) (table tableAlias : Option String) :
    Clause.target kind table tableAlias =
      report (tableFaults kind table) (table.getD "" ++ Clause.aliasSuffix tableAlias) := by
  rw [Clause.target, table_eq_report]
  simp only [pure_eq_report, report_bind, List.append_nil]

/-- Rows of one length have a number of values that is a multiple of it. -/
theorem length_flatten_of_fit {rows : List (List Value)} {n : Nat}
    (h : ∀ row ∈ rows, row.length = n) : rows.flatten.length = rows.length * n := by
  induction rows with
  | nil => simp
  | cons row rows ih =>
    rw [List.forall_mem_cons] at h
    rw [List.flatten_cons, List.length_append, ih h.2, h.1, List.length_cons, Nat.add_mul,
      Nat.one_mul, Nat.add_comm]

/-- What an INSERT reports: besides its faults, values that do not fill whole rows. -/
theorem compile_insert (columns : List String) (rows : List (List Value)) (ignore : Bool)
    (onDuplicateKey : List Assignment) (table tableAlias : Option String) (joins : List Join)
    (conditions : ConditionTree (Condition Query)) (groupBy : List (Column Query))
    (orderBy : List (OrderItem Query)) (limit offset : Option UInt64) (name : Option String) :
    compile ⟨some (.insert columns rows ignore onDuplicateKey), table, tableAlias, joins,
        conditions, groupBy, orderBy, limit, offset, name⟩ =
      report
        (tableFaults .insert table ++
          faultIf (columns.isEmpty || rows.flatten.isEmpty) .emptyInsertData ++
          faultIf (rows.flatten.length % columns.length != 0)
            (.rowArityMismatch rows.flatten.length columns.length) ++
          faultIf (!joins.isEmpty) (.unsupportedClause "JOIN" "INSERT") ++
          faultIf (!(Forest.leaves conditions.roots).isEmpty)
            (.unsupportedClause "WHERE" "INSERT") ++
          faultIf (!groupBy.isEmpty) (.unsupportedClause "GROUP BY" "INSERT") ++
          faultIf (!orderBy.isEmpty) (.unsupportedClause "ORDER BY" "INSERT"))
        (Statement.insertFragment ignore (table.getD "") columns rows onDuplicateKey) := by
  have hv : Forest.isVacant conditions.roots = (Forest.leaves conditions.roots).isEmpty := by
    rw [Bool.eq_iff_iff, Forest.isVacant_iff, List.isEmpty_iff]
  rw [compile, table_eq_report, hv]
  simp only [refuseIf_eq_report, pure_eq_report, report_bind, List.append_nil, List.append_assoc]

/-- Building a query is looking for its faults and writing its text. -/
theorem compiles (q : Query) (hq : q.RowsFit) : q.Compiles := by
  induction q using Query.induction with
  | step q ih =>
    rw [Compiles, faults_eq, written_eq]
    obtain ⟨statement, table, tableAlias, joins, ⟨roots, cursor⟩, groupBy, orderBy, limit, offset,
      name⟩ := q
    simp only [subQueries, Outline.subQueries, outline, List.forall_mem_append] at ih
    obtain ⟨⟨⟨ihs, ihc⟩, ihg⟩, iho⟩ := ih
    have hc := conditionFragments_eq_report fun e he hr => ihc e he hr
    have ho := orderFragments_eq_report fun e he hr => iho e he hr
    rcases statement with _ | ⟨columns, distinct⟩ | ⟨columns, rows, ignore, onDuplicateKey⟩ | _ | _
    · rw [compile]
      rfl
    · have hp := columnFragments_eq_report fun e he hr => ihs e he hr
      have hg := columnFragments_eq_report fun e he hr => ihg e he hr
      rw [compile, hp, hc, hg, ho, target_eq_report]
      simp only [pure_eq_report, report_bind, List.append_nil, Outline.faults, Outline.written,
        Outline.target, outline_map, Option.map_some, Statement.map, List.append_assoc]
    · -- Whole rows leave nothing for the check of the number of values to find.
      have hfit : (rows.flatten.length % columns.length != 0) = false := by
        rw [length_flatten_of_fit (hq _ _ _ _ rfl), Nat.mul_mod_left]
        rfl
      rw [compile_insert, hfit]
      simp only [Outline.faults, Outline.written, outline_map, Option.map_some, Statement.map,
        Forest.leaves_map, List.isEmpty_map, List.append_assoc]
      rfl
    · rw [compile, hc, ho, target_eq_report]
      simp only [refuseIf_eq_report, pure_eq_report, report_bind, List.append_nil, Outline.faults,
        Outline.written, Outline.target, outline_map, Option.map_some, Statement.map,
        singleTableFaults, List.isEmpty_map, List.append_assoc]
    · rw [compile, hc, ho, target_eq_report]
      simp only [refuseIf_eq_report, pure_eq_report, report_bind, List.append_nil, Outline.faults,
        Outline.written, Outline.target, outline_map, Option.map_some, Statement.map,
        singleTableFaults, List.isEmpty_map, List.append_assoc]

/-- What a query is compiled to is its text. -/
theorem eq_written_of_compile {q : Query} {f : Fragment} (h : q.compile = .ok f) :
    f = q.written := by
  obtain ⟨statement, table, tableAlias, joins, conditions, groupBy, orderBy, limit, offset,
    name⟩ := q
  cases statement with
  | none =>
    rw [compiles _ (by intro; simp)] at h
    exact (report_eq_ok_iff.mp h).2.symm
  | some s =>
    cases s with
    | insert columns rows ignore onDuplicateKey =>
      rw [compile_insert] at h
      rw [written_eq]
      exact (report_eq_ok_iff.mp h).2.symm
    | select _ _ | update _ | delete =>
      rw [compiles _ (by intro; simp)] at h
      exact (report_eq_ok_iff.mp h).2.symm

theorem eq_ofFragment_written_of_build {q : Query} {b : BuiltQuery} (h : q.build = .ok b) :
    b = .ofFragment q.written := by
  rw [build] at h
  cases hc : q.compile with
  | error e => simp [hc, Except.map] at h
  | ok f =>
    rw [hc] at h
    obtain rfl := eq_written_of_compile hc
    exact (Except.ok.inj h).symm

theorem build_eq_report {q : Query} (hq : q.RowsFit) :
    q.build = report q.faults (.ofFragment q.written) := by
  rw [build, compiles q hq, report_map]

/-- Building a reachable query fails exactly if it has faults, and then with the first of them. An
embedded SELECT counts with what building it by itself reports. -/
theorem build_reports_first_fault {q : Query} (hq : q.Reachable) :
    (∀ e, q.build = .error e ↔ q.faults.head? = some e) ∧
      ((∃ b, q.build = .ok b) ↔ q.faults = []) ∧
      ∀ s columns distinct, s.statement = some (.select columns distinct) →
        ∀ e, (embeddedFaults (s, s.faults)).head? = some e ↔ s.build = .error e := by
  refine ⟨fun e => ?_, ?_, fun s columns distinct hs e => ?_⟩
  · rw [build_eq_report hq.rowsFit, report_eq_error_iff]
  · rw [build_eq_report hq.rowsFit]
    simp [report_eq_ok_iff]
  · have hfit : s.RowsFit := rowsFit_of_not_insert (by simp [hs])
    rw [build_eq_report hfit, report_eq_error_iff, embeddedFaults, hs]

/-- Of a blank table and two embedded statements that are no SELECT, the table is reported. -/
theorem build_reports_first_of_three :
    let q := (Script.run .new
      [.call (.select [] false), .call (.table " \t"),
        .group .or [.call (.condition .and "id" "in" (.subQuery [.call .delete])),
          .call (.condition .and "id" "= any" (.subQuery [.call (.table "t")]))]]).1
    q.Reachable ∧
      q.faults = [.missingTable "SELECT", .unsupportedClause "sub-query" "DELETE",
        .missingStatement] ∧
      q.build = .error (.missingTable "SELECT") := by
  intro q
  have hq : q.Reachable := Script.reachable_run .new _
  have hf : q.faults = [.missingTable "SELECT", .unsupportedClause "sub-query" "DELETE",
      .missingStatement] := by decide
  refine ⟨hq, hf, ((build_reports_first_fault hq).1 _).mpr ?_⟩
  rw [hf]
  rfl

end Query

end BoundSql
