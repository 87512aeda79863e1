import BoundSql.Proofs.Faults
import Mathlib.Data.List.Basic

/-!
# The arguments of a statement

`Query.boundValues` reads the values off a query that it was given to bind, clause by clause, and
those of an embedded statement where it stands. The arguments of the finished statement are these
values in this order, save that NULL is written out and never bound.
-/

namespace BoundSql

/-! ## Values of a query -/

/-- The values of an item: those of the statement embedded in it. -/
def Column.boundValues : Column (Query × List Value) → List Value
  | .expression _ => []
  | .subQuery (_, values) => values

/-- The values of a right side. -/
def Comparand.boundValues : Comparand (Query × List Value) → List Value
  | .scalar v => [v]
  | .list vs => vs
  | .subQuery (_, values) => values
  | .literal _ => []

/-- The value of an assignment. -/
def Assignment.boundValues (a : Assignment) : List Value :=
  match a.value with
  | .value v => [v]
  | .raw _ => []

/-- The values of a query from those of the queries embedded in it. -/
def Outline.boundValues (o : Outline (Query × List Value)) : List Value :=
  let inConditions :=
    (Forest.leaves o.conditions.roots).flatMap fun c => c.comparand.boundValues
  let inOrders := o.orderBy.flatMap fun item => item.column.boundValues
  match o.statement with
  | none => []
  | some (.select columns _) =>
    columns.flatMap Column.boundValues ++ inConditions ++
      o.groupBy.flatMap Column.boundValues ++ inOrders
  | some (.insert _ rows _ onDuplicateKey) =>
    rows.flatten ++ onDuplicateKey.flatMap Assignment.boundValues
  | some (.update assignments) =>
    assignments.flatMap Assignment.boundValues ++ inConditions ++ inOrders
  | some .delete => inConditions ++ inOrders

/-- The values that a query was given to bind, in the order of its clauses. -/
def Query.boundValues : Query → List Value := Query.fold Outline.boundValues

/-- Values without NULL. -/
def nonNull (values : List Value) : List Value := values.filter (!·.isNull)

theorem ne_null_of_mem_nonNull {values : List Value} {v : Value} (h : v ∈ nonNull values) :
    v ≠ .null := by
  rintro rfl
  simp [nonNull, Value.isNull] at h

@[simp] theorem nonNull_append (vs ws : List Value) :
    nonNull (vs ++ ws) = nonNull vs ++ nonNull ws :=
  List.filter_append ..

theorem nonNull_flatMap {α : Type} (l : List α) (f : α → List Value) :
    nonNull (l.flatMap f) = l.flatMap fun a => nonNull (f a) :=
  List.filter_flatMap

/-! ## Arguments of clauses -/

@[simp] theorem Fragment.args_value_eq (v : Value) : (Fragment.value v).args = nonNull [v] :=
  Fragment.args_value v

theorem Clause.args_items (keyword : String) (fs : List Fragment) :
    (Clause.items keyword fs).args = fs.flatMap (·.args) := by
  cases fs <;> simp [Clause.items]

theorem Clause.args_conditions (nodes : Forest Fragment) :
    (Clause.conditions nodes).args = (Forest.leaves nodes).flatMap (·.args) := by
  rw [Clause.conditions]
  split
  · next hv => simp [Forest.isVacant_iff.mp hv]
  · simp

theorem Clause.args_assignments (as : List Assignment) :
    (Clause.assignments as).args = nonNull (as.flatMap Assignment.boundValues) := by
  rw [Clause.assignments, Fragment.args_join, List.flatMap_map, nonNull_flatMap]
  refine List.flatMap_congr fun a _ => ?_
  obtain ⟨column, value | sql⟩ := a <;> simp [Assignment.fragment, SetValue.fragment,
    Assignment.boundValues, nonNull]

theorem Clause.args_row (values : List Value) : (Clause.row values).args = nonNull values := by
  simp [Clause.row, nonNull]

theorem Clause.args_listCondition (column : String) (operand : Operand) (vs : List Value) :
    (Clause.listCondition column operand vs).args = nonNull vs := by
  unfold Clause.listCondition
  split
  · rfl
  · simp [Clause.comparison, ← nonNull_append]
  · simp [Clause.comparison, Clause.args_row]

namespace Statement

theorem args_select (distinct : Bool) (projection : List Fragment) (target : String)
    (joins : List Join) (conditions : Forest Fragment) (groupBy orderBy : List Fragment)
    (limit offset : Option UInt64) :
    (selectFragment distinct projection target joins conditions groupBy orderBy limit
        offset).args =
      projection.flatMap (·.args) ++ (Forest.leaves conditions).flatMap (·.args) ++
        groupBy.flatMap (·.args) ++ orderBy.flatMap (·.args) := by
  have hp : (if projection.isEmpty then Fragment.text "*" else .join ", " projection).args =
      projection.flatMap (·.args) := by
    cases projection <;> simp
  simp only [selectFragment, Fragment.args_append, Fragment.args_text, hp, Clause.args_conditions,
    Clause.args_items, List.nil_append, List.append_nil]

theorem args_insert (ignore : Bool) (table : String) (columns : List String)
    (rows : List (List Value)) (onDuplicateKey : List Assignment) :
    (insertFragment ignore table columns rows onDuplicateKey).args =
      nonNull rows.flatten ++ nonNull (onDuplicateKey.flatMap Assignment.boundValues) := by
  have hr : (Fragment.join ", " (rows.map Clause.row)).args = nonNull rows.flatten := by
    rw [Fragment.args_join, List.flatMap_map, nonNull, List.filter_flatten, List.flatMap]
    exact congrArg List.flatten (List.map_congr_left fun row _ => Clause.args_row row)
  have hd : (if onDuplicateKey.isEmpty then Fragment.empty
      else .text " ON DUPLICATE KEY UPDATE " ++ Clause.assignments onDuplicateKey).args =
        nonNull (onDuplicateKey.flatMap Assignment.boundValues) := by
    split
    · next h => simp [List.isEmpty_iff.mp h, nonNull]
    · rw [Fragment.args_append, Fragment.args_text, List.nil_append, Clause.args_assignments]
  simp only [insertFragment, Fragment.args_append, Fragment.args_text, hr, hd, List.nil_append]

theorem args_mutationTail (conditions : Forest Fragment) (orderBy : List Fragment)
    (limit : Option UInt64) :
    (mutationTail conditions orderBy limit).args =
      (Forest.leaves conditions).flatMap (·.args) ++ orderBy.flatMap (·.args) := by
  simp [mutationTail, Clause.args_conditions, Clause.args_items]

theorem args_update (target : String) (assignments : List Assignment)
    (conditions : Forest Fragment) (orderBy : List Fragment) (limit : Option UInt64) :
    (updateFragment target assignments conditions orderBy limit).args =
      nonNull (assignments.flatMap Assignment.boundValues) ++
        (Forest.leaves conditions).flatMap (·.args) ++ orderBy.flatMap (·.args) := by
  simp [updateFragment, Clause.args_assignments, args_mutationTail]

theorem args_delete (target : String) (conditions : Forest Fragment) (orderBy : List Fragment)
    (limit : Option UInt64) :
    (deleteFragment target conditions orderBy limit).args =
      (Forest.leaves conditions).flatMap (·.args) ++ orderBy.flatMap (·.args) := by
  simp [deleteFragment, args_mutationTail]

end Statement

/-! ## Arguments of queries -/

namespace Query

/-- An embedded query beside its values. -/
abbrev withValues : Query → Query × List Value := withFold Outline.boundValues

theorem boundValues_eq (q : Query) : q.boundValues = (q.outline.map withValues).boundValues :=
  fold_eq _ q

/-- The text of a query binds its values, save NULL. -/
def BindsValues (q : Query) : Prop := q.written.args = nonNull q.boundValues

theorem args_column {c : Column Query} (h : ∀ e ∈ c.subQueries, e.BindsValues) :
    (c.map withText).written.args = nonNull (c.map withValues).boundValues := by
  cases c with
  | expression sql => rfl
  | subQuery e =>
    have he : (e.fold Outline.written).args = nonNull (e.fold Outline.boundValues) :=
      h e (by simp [Column.subQueries])
    simp [Column.map, Column.written, Column.boundValues, withFold, he]

theorem args_columns {cs : List (Column Query)}
    (h : ∀ e ∈ cs.flatMap Column.subQueries, e.BindsValues) :
    ((cs.map (Column.map withText)).map Column.written).flatMap (·.args) =
      nonNull ((cs.map (Column.map withValues)).flatMap Column.boundValues) := by
  rw [List.map_map, List.flatMap_map, List.flatMap_map, nonNull_flatMap]
  exact List.flatMap_congr fun c hc =>
    args_column fun e he => h e (List.mem_flatMap.mpr ⟨c, hc, he⟩)

theorem args_orders {os : List (OrderItem Query)}
    (h : ∀ e ∈ os.flatMap OrderItem.subQueries, e.BindsValues) :
    ((os.map (OrderItem.map withText)).map OrderItem.written).flatMap (·.args) =
      nonNull ((os.map (OrderItem.map withValues)).flatMap fun o => o.column.boundValues) := by
  rw [List.map_map, List.flatMap_map, List.flatMap_map, nonNull_flatMap]
  refine List.flatMap_congr fun o ho => ?_
  have hc := args_column (c := o.column) fun e he => h e (List.mem_flatMap.mpr ⟨o, ho, he⟩)
  simpa [OrderItem.written, OrderItem.map] using hc

theorem args_condition {c : Condition Query} (h : ∀ e ∈ c.subQueries, e.BindsValues) :
    (c.map withText).written.args = nonNull (c.map withValues).comparand.boundValues := by
  obtain ⟨column, operand, comparand⟩ := c
  cases comparand with
  | scalar v => simp [Condition.map, Comparand.map, Condition.written, Clause.comparison,
      Comparand.boundValues]
  | list vs => exact Clause.args_listCondition column operand vs
  | subQuery e =>
    have he : (e.fold Outline.written).args = nonNull (e.fold Outline.boundValues) :=
      h e (by simp [Condition.subQueries, Comparand.subQueries])
    simp [Condition.map, Comparand.map, Condition.written, Clause.comparison,
      Comparand.boundValues, withFold, he]
  | literal sql => rfl

theorem args_conditions {nodes : Forest (Condition Query)}
    (h : ∀ e ∈ (Forest.leaves nodes).flatMap Condition.subQueries, e.BindsValues) :
    (Forest.leaves
        (Forest.map Condition.written (Forest.map (Condition.map withText) nodes))).flatMap
        (·.args) =
      nonNull ((Forest.leaves (Forest.map (Condition.map withValues) nodes)).flatMap
        fun c => c.comparand.boundValues) := by
  rw [Forest.leaves_map, Forest.leaves_map, Forest.leaves_map, List.map_map, List.flatMap_map,
    List.flatMap_map, nonNull_flatMap]
  exact List.flatMap_congr fun c hc =>
    args_condition fun e he => h e (List.mem_flatMap.mpr ⟨c, hc, he⟩)

theorem bindsValues (q : Query) : q.BindsValues := by
  induction q using Query.induction with
  | step q ih =>
    rw [BindsValues, written_eq, boundValues_eq]
    obtain ⟨statement, table, tableAlias, joins, ⟨roots, cursor⟩, groupBy, orderBy, limit, offset,
      name⟩ := q
    simp only [subQueries, Outline.subQueries, outline, List.forall_mem_append] at ih
    obtain ⟨⟨⟨ihs, ihc⟩, ihg⟩, iho⟩ := ih
    have hc := args_conditions ihc
    have hg := args_columns ihg
    have ho := args_orders iho
    rcases statement with _ | ⟨columns, distinct⟩ | ⟨columns, rows, ignore, onDuplicateKey⟩ |
      assignments | _
    · rfl
    · have hp := args_columns ihs
      simp only [Outline.written, Outline.boundValues, outline_map, Option.map_some, Statement.map,
        nonNull_append, Statement.args_select, hp, hc, hg, ho]
    · simp only [Outline.written, Outline.boundValues, outline_map, Option.map_some, Statement.map,
        nonNull_append, Statement.args_insert]
    · simp only [Outline.written, Outline.boundValues, outline_map, Option.map_some, Statement.map,
        nonNull_append, Statement.args_update, hc, ho]
    · simp only [Outline.written, Outline.boundValues, outline_map, Option.map_some, Statement.map,
        nonNull_append, Statement.args_delete, hc, ho]

theorem args_eq_of_build {q : Query} {b : BuiltQuery} (h : q.build = .ok b) :
    b.args = nonNull q.boundValues := by
  rw [eq_ofFragment_written_of_build h]
  exact bindsValues q

/-- NULL is never an argument. -/
theorem ne_null_of_mem_args {q : Query} {b : BuiltQuery} (h : q.build = .ok b) :
    ∀ v ∈ b.args, v ≠ .null := by
  intro v hv
  rw [args_eq_of_build h] at hv
  exact ne_null_of_mem_nonNull hv

/-- A finished statement binds the values of the query without NULL, in the order of its clauses,
each as often as it was given. -/
theorem build_binds_values_in_order {q : Query} {b : BuiltQuery} (h : q.build = .ok b) :
    b.args = nonNull q.boundValues ∧ ∀ v ∈ b.args, v ≠ .null :=
  ⟨args_eq_of_build h, ne_null_of_mem_args h⟩

/-- A value in a projected statement comes before those of the conditions, whatever was recorded
first; NULL and an empty list bind nothing. -/
theorem build_binds_five_in_order :
    let e : Script :=
      [.call (.select [.expression "n"] false), .call (.table "u"),
        .call (.condition .and "k" "=" (.scalar (.int 1)))]
    let q := (Script.run .new
      [.call (.condition .and "a" "is" (.scalar .null)),
        .group .or [.call (.condition .and "b" "in" (.list [.int 2, .null, .int 3])),
          .call (.condition .or "c" "not in" (.list []))],
        .call (.orderBy (.subQuery e) .descending),
        .call (.select [.subQuery e] false), .call (.groupBy (.subQuery e)),
        .call (.table "t")]).1
    q.build.map (·.args) = .ok [.int 1, .int 2, .int 3, .int 1, .int 1] ∧
      nonNull q.boundValues = [.int 1, .int 2, .int 3, .int 1, .int 1] := by
  intro e q
  have hb : ∃ b, q.build = .ok b ∧ b.args = [.int 1, .int 2, .int 3, .int 1, .int 1] :=
    ⟨_, rfl, by decide⟩
  obtain ⟨b, hb, hargs⟩ := hb
  refine ⟨by rw [hb, ← hargs]; rfl, ?_⟩
  rw [← (build_binds_values_in_order hb).1, hargs]

end Query

end BoundSql
