import BoundSql.Proofs.Faults
import BoundSql.Proofs.Replacing
import Mathlib.Data.List.Basic

/-!
# Building a query with replaced values

What is wrong with a query does not depend on its bound values, and neither does its text: where
values are replaced, the faults stay, and the text binds the replaced values instead. Hence
building fails with the same error or gives the same text with replaced arguments
(`Query.build_replace`).
-/

namespace BoundSql

/-! ## Faults -/

section Faults

variable (ρ : Replacement)

/-- A replaced embedded query beside the faults of the original. -/
abbrev replacedBesideFaults : Query × List QueryError → Query × List QueryError :=
  Prod.map (Query.replace ρ) id

theorem embeddedFaults_replaced (p : Query × List QueryError) :
    embeddedFaults (replacedBesideFaults ρ p) = embeddedFaults p := by
  obtain ⟨e, own⟩ := p
  change embeddedFaults (e.replace ρ, own) = _
  rw [embeddedFaults, embeddedFaults, Query.statement_replace]
  rcases e.statement with _ | _ | _ | _ | _ <;> rfl

/-- Replacing in data does not change the faults of the statements embedded in them. -/
theorem flatMap_embeddedFaults_replaced {A B : Type} {g : A → B}
    {s : A → List (Query × List QueryError)} {s' : B → List (Query × List QueryError)}
    (h : ∀ a, s' (g a) = (s a).map (replacedBesideFaults ρ)) (l : List A) :
    ((l.map g).flatMap s').flatMap embeddedFaults = (l.flatMap s).flatMap embeddedFaults := by
  rw [List.flatMap_map, List.flatMap_assoc, List.flatMap_assoc]
  refine List.flatMap_congr fun a _ => ?_
  rw [h, List.flatMap_map]
  exact List.flatMap_congr fun p _ => embeddedFaults_replaced ρ p

theorem Condition.subQueries_replace {Q : Type} (c : Condition Q) :
    (c.replace ρ).subQueries = c.subQueries := by
  obtain ⟨column, operand, comparand⟩ := c
  cases comparand <;> rfl

theorem isEmpty_flatten_map_map (f : Value → Value) (rows : List (List Value)) :
    (rows.map (List.map f)).flatten.isEmpty = rows.flatten.isEmpty := by
  rw [← List.map_flatten, List.isEmpty_map]

theorem Outline.faults_replaced (o : Outline (Query × List QueryError)) :
    ((o.map (replacedBesideFaults ρ)).replace ρ).faults = o.faults := by
  have hc : ((Forest.leaves (Forest.map (Condition.replace ρ) (Forest.map
        (Condition.map (replacedBesideFaults ρ)) o.conditions.roots))).flatMap
          Condition.subQueries).flatMap embeddedFaults =
      ((Forest.leaves o.conditions.roots).flatMap Condition.subQueries).flatMap
        embeddedFaults := by
    rw [Forest.map_map, Forest.leaves_map]
    refine flatMap_embeddedFaults_replaced ρ (fun c => ?_) _
    rw [Function.comp_apply, Condition.subQueries_replace, Condition.subQueries_map]
  have hg := flatMap_embeddedFaults_replaced ρ
    (Column.subQueries_map (replacedBesideFaults ρ)) o.groupBy
  have ho := flatMap_embeddedFaults_replaced ρ
    (OrderItem.subQueries_map (replacedBesideFaults ρ)) o.orderBy
  obtain ⟨statement, table, tableAlias, joins, conditions, groupBy, orderBy, limit, offset,
    name⟩ := o
  rcases statement with _ | ⟨columns, distinct⟩ | ⟨columns, rows, ignore, onDuplicateKey⟩ |
    assignments | _
  · rfl
  · have hp := flatMap_embeddedFaults_replaced ρ
      (Column.subQueries_map (replacedBesideFaults ρ)) columns
    simp only [faults, replace, map, ConditionTree.map, Option.map_some, Statement.map,
      Statement.replace, hc, hg, ho, hp]
  · simp only [faults, replace, map, ConditionTree.map, Option.map_some, Statement.map,
      Statement.replace, isEmpty_flatten_map_map, Forest.leaves_map, List.isEmpty_map]
  · simp only [faults, replace, map, ConditionTree.map, Option.map_some, Statement.map,
      Statement.replace, singleTableFaults, List.isEmpty_map, hc, ho]
  · simp only [faults, replace, map, ConditionTree.map, Option.map_some, Statement.map,
      Statement.replace, singleTableFaults, List.isEmpty_map, hc, ho]

theorem Query.faults_replace (q : Query) : (q.replace ρ).faults = q.faults := by
  induction q using Query.induction with
  | step q ih =>
    rw [faults_eq, faults_eq, outline_replace, ← Outline.replace_map, Outline.map_map]
    have hpairs : q.outline.map (withFaults ∘ replace ρ) =
        (q.outline.map withFaults).map (replacedBesideFaults ρ) := by
      rw [Outline.map_map]
      exact Outline.map_congr fun e he => Prod.ext rfl (ih e he)
    rw [hpairs, Outline.faults_replaced]

end Faults

/-! ## Text -/

/-- A piece of SQL that binds the replaced values. -/
def Fragment.replace (ρ : Replacement) (f : Fragment) : Fragment := ⟨f.sql, f.args.map ρ.value⟩

section Text

variable (ρ : Replacement)

namespace Fragment

@[simp] theorem replace_empty : empty.replace ρ = empty := rfl

@[simp] theorem replace_text (s : String) : (text s).replace ρ = text s := rfl

@[simp] theorem replace_append (f g : Fragment) :
    (f ++ g).replace ρ = f.replace ρ ++ g.replace ρ := by
  ext1
  · rfl
  · exact List.map_append

@[simp] theorem replace_parenthesized (f : Fragment) :
    f.parenthesized.replace ρ = (f.replace ρ).parenthesized := by
  simp [parenthesized]

@[simp] theorem replace_value (v : Value) : (value v).replace ρ = value (ρ.value v) := by
  rw [value, value, ρ.isNull_value]
  split <;> rfl

theorem replace_join (separator : String) (fs : List Fragment) :
    (join separator fs).replace ρ = join separator (fs.map (replace ρ)) := by
  induction fs with
  | nil => rfl
  | cons f fs ih =>
    cases fs with
    | nil => rfl
    | cons g rest =>
      rw [join, replace_append, replace_append, replace_text, ih]
      rfl

end Fragment

namespace Clause

theorem replace_row (vs : List Value) : (row vs).replace ρ = row (vs.map ρ.value) := by
  rw [row, row, Fragment.replace_parenthesized, Fragment.values, Fragment.values,
    Fragment.replace_join, List.map_map, List.map_map]
  refine congrArg (fun fs => (Fragment.join ", " fs).parenthesized) ?_
  exact List.map_congr_left fun v _ => Fragment.replace_value ρ v

theorem replace_comparison (column : String) (operand : Operand) (right : Fragment) :
    (comparison column operand right).replace ρ = comparison column operand (right.replace ρ) := by
  rw [comparison, comparison, Fragment.replace_append, Fragment.replace_text]

theorem replace_listCondition (column : String) (operand : Operand) (vs : List Value) :
    (listCondition column operand vs).replace ρ =
      listCondition column operand (vs.map ρ.value) := by
  have hrow : (comparison column operand (row vs)).replace ρ =
      comparison column operand (row (vs.map ρ.value)) := by
    rw [replace_comparison, replace_row]
  cases operand with
  | inList negated =>
    cases vs with
    | nil => rfl
    | cons v vs => exact hrow
  | between negated =>
    rcases vs with _ | ⟨low, _ | ⟨high, _ | ⟨v, vs⟩⟩⟩
    · exact hrow
    · exact hrow
    · simp only [listCondition, List.map_cons, List.map_nil, replace_comparison,
        Fragment.replace_append, Fragment.replace_value, Fragment.replace_text]
    · exact hrow
  | symbol _ | like _ | regexp _ | is _ | quantified _ _ => exact hrow

theorem replace_assignments (as : List Assignment) :
    (assignments as).replace ρ = assignments (as.map (Assignment.replace ρ)) := by
  rw [assignments, assignments, Fragment.replace_join, List.map_map, List.map_map]
  refine congrArg (Fragment.join ", ") (List.map_congr_left fun a _ => ?_)
  obtain ⟨column, v | sql⟩ := a
  · exact congrArg (Fragment.text (column ++ " = ") ++ ·) (Fragment.replace_value ρ v)
  · rfl

theorem replace_items (keyword : String) (fs : List Fragment) :
    (items keyword fs).replace ρ = items keyword (fs.map (Fragment.replace ρ)) := by
  rw [items, items, List.isEmpty_map]
  split
  · rfl
  · rw [Fragment.replace_append, Fragment.replace_text, Fragment.replace_join]

theorem replace_layoutFrom (first : Bool) (nodes : Forest Fragment) :
    (Forest.layoutFrom first nodes).replace ρ =
      Forest.layoutFrom first (Forest.map (Fragment.replace ρ) nodes) := by
  have hconnective (first : Bool) (link : Connective) :
      (Forest.connective first link).replace ρ = Forest.connective first link := by
    cases first <;> rfl
  induction nodes using Forest.induction generalizing first with
  | nil => simp
  | leaf link f nodes ih =>
    simp only [Forest.map_leaf_cons, Forest.layoutFrom_leaf_cons, Fragment.replace_append,
      hconnective, ih]
  | group link children nodes ihc ihn =>
    rw [Forest.map_group_cons, Forest.layoutFrom_group_cons, Forest.layoutFrom_group_cons,
      Forest.isVacant_map]
    split
    · exact ihn first
    · simp only [Fragment.replace_append, Fragment.replace_parenthesized, hconnective,
        Forest.layout, ihc, ihn]

theorem replace_conditions (nodes : Forest Fragment) :
    (conditions nodes).replace ρ = conditions (Forest.map (Fragment.replace ρ) nodes) := by
  rw [conditions, conditions, Forest.isVacant_map]
  split
  · rfl
  · rw [Fragment.replace_append, Fragment.replace_text, Forest.layout, replace_layoutFrom]
    rfl

end Clause

namespace Statement

theorem replace_selectFragment (distinct : Bool) (projection : List Fragment) (target : String)
    (joins : List Join) (conditions : Forest Fragment) (groupBy orderBy : List Fragment)
    (limit offset : Option UInt64) :
    (selectFragment distinct projection target joins conditions groupBy orderBy limit
        offset).replace ρ =
      selectFragment distinct (projection.map (Fragment.replace ρ)) target joins
        (Forest.map (Fragment.replace ρ) conditions) (groupBy.map (Fragment.replace ρ))
        (orderBy.map (Fragment.replace ρ)) limit offset := by
  have hp : (if projection.isEmpty then Fragment.text "*" else .join ", " projection).replace ρ =
      if (projection.map (Fragment.replace ρ)).isEmpty then .text "*"
      else .join ", " (projection.map (Fragment.replace ρ)) := by
    rw [List.isEmpty_map]
    split
    · rfl
    · exact Fragment.replace_join ρ ", " projection
  simp only [selectFragment, Fragment.replace_append, Fragment.replace_text, hp,
    Clause.replace_conditions, Clause.replace_items]

theorem replace_insertFragment (ignore : Bool) (table : String) (columns : List String)
    (rows : List (List Value)) (onDuplicateKey : List Assignment) :
    (insertFragment ignore table columns rows onDuplicateKey).replace ρ =
      insertFragment ignore table columns (rows.map (List.map ρ.value))
        (onDuplicateKey.map (Assignment.replace ρ)) := by
  have hrows : (Fragment.join ", " (rows.map Clause.row)).replace ρ =
      .join ", " ((rows.map (List.map ρ.value)).map Clause.row) := by
    rw [Fragment.replace_join, List.map_map, List.map_map]
    exact congrArg (Fragment.join ", ")
      (List.map_congr_left fun row _ => Clause.replace_row ρ row)
  have hd : (if onDuplicateKey.isEmpty then Fragment.empty
      else .text " ON DUPLICATE KEY UPDATE " ++ Clause.assignments onDuplicateKey).replace ρ =
        if (onDuplicateKey.map (Assignment.replace ρ)).isEmpty then .empty
        else .text " ON DUPLICATE KEY UPDATE " ++
          Clause.assignments (onDuplicateKey.map (Assignment.replace ρ)) := by
    rw [List.isEmpty_map]
    split
    · rfl
    · rw [Fragment.replace_append, Fragment.replace_text, Clause.replace_assignments]
  simp only [insertFragment, Fragment.replace_append, Fragment.replace_text, hrows, hd]

theorem replace_mutationTail (conditions : Forest Fragment) (orderBy : List Fragment)
    (limit : Option UInt64) :
    (mutationTail conditions orderBy limit).replace ρ =
      mutationTail (Forest.map (Fragment.replace ρ) conditions)
        (orderBy.map (Fragment.replace ρ)) limit := by
  simp only [mutationTail, Fragment.replace_append, Fragment.replace_text,
    Clause.replace_conditions, Clause.replace_items]

theorem replace_updateFragment (target : String) (assignments : List Assignment)
    (conditions : Forest Fragment) (orderBy : List Fragment) (limit : Option UInt64) :
    (updateFragment target assignments conditions orderBy limit).replace ρ =
      updateFragment target (assignments.map (Assignment.replace ρ))
        (Forest.map (Fragment.replace ρ) conditions) (orderBy.map (Fragment.replace ρ)) limit := by
  simp only [updateFragment, Fragment.replace_append, Fragment.replace_text,
    Clause.replace_assignments, replace_mutationTail]

theorem replace_deleteFragment (target : String) (conditions : Forest Fragment)
    (orderBy : List Fragment) (limit : Option UInt64) :
    (deleteFragment target conditions orderBy limit).replace ρ =
      deleteFragment target (Forest.map (Fragment.replace ρ) conditions)
        (orderBy.map (Fragment.replace ρ)) limit := by
  simp only [deleteFragment, Fragment.replace_append, Fragment.replace_text, replace_mutationTail]

end Statement

/-- A replaced embedded query beside its text with replaced values. -/
abbrev replacedBesideText : Query × Fragment → Query × Fragment :=
  Prod.map (Query.replace ρ) (Fragment.replace ρ)

theorem Column.written_replaced (c : Column (Query × Fragment)) :
    (c.map (replacedBesideText ρ)).written = c.written.replace ρ := by
  cases c with
  | expression sql => rfl
  | subQuery p =>
    obtain ⟨e, f⟩ := p
    have hname : (e.replace ρ).name = e.name := by rw [Query.replace_eq]
    change (f.replace ρ).parenthesized ++ .text (Clause.aliasSuffix (e.replace ρ).name) = _
    rw [hname, written, Fragment.replace_append, Fragment.replace_parenthesized,
      Fragment.replace_text]

theorem OrderItem.written_replaced (o : OrderItem (Query × Fragment)) :
    (o.map (replacedBesideText ρ)).written = o.written.replace ρ := by
  rw [written, written, Fragment.replace_append, ← Column.written_replaced]
  rfl

theorem Condition.written_replaced (c : Condition (Query × Fragment)) :
    ((c.map (replacedBesideText ρ)).replace ρ).written = c.written.replace ρ := by
  obtain ⟨column, operand, comparand⟩ := c
  cases comparand with
  | scalar v =>
    rw [written, Clause.replace_comparison, Fragment.replace_value]
    rfl
  | list vs => exact (Clause.replace_listCondition ρ column operand vs).symm
  | subQuery p =>
    rw [written, Clause.replace_comparison, Fragment.replace_parenthesized]
    rfl
  | literal sql => rfl

theorem Outline.written_replaced (o : Outline (Query × Fragment)) :
    ((o.map (replacedBesideText ρ)).replace ρ).written = o.written.replace ρ := by
  have hc : Forest.map Condition.written (Forest.map (Condition.replace ρ) (Forest.map
        (Condition.map (replacedBesideText ρ)) o.conditions.roots)) =
      Forest.map (Fragment.replace ρ) (Forest.map Condition.written o.conditions.roots) := by
    rw [Forest.map_map, Forest.map_map, Forest.map_map]
    exact Forest.map_congr fun c _ => Condition.written_replaced ρ c
  have hcolumns (cs : List (Column (Query × Fragment))) :
      (cs.map (Column.map (replacedBesideText ρ))).map Column.written =
        (cs.map Column.written).map (Fragment.replace ρ) := by
    rw [List.map_map, List.map_map]
    exact List.map_congr_left fun c _ => Column.written_replaced ρ c
  have ho : (o.orderBy.map (OrderItem.map (replacedBesideText ρ))).map OrderItem.written =
      (o.orderBy.map OrderItem.written).map (Fragment.replace ρ) := by
    rw [List.map_map, List.map_map]
    exact List.map_congr_left fun item _ => OrderItem.written_replaced ρ item
  obtain ⟨statement, table, tableAlias, joins, conditions, groupBy, orderBy, limit, offset,
    name⟩ := o
  rcases statement with _ | ⟨columns, distinct⟩ | ⟨columns, rows, ignore, onDuplicateKey⟩ |
    assignments | _
  · rfl
  · simp only [written, target, replace, map, ConditionTree.map, Option.map_some, Statement.map,
      Statement.replace, hc, hcolumns, ho, Statement.replace_selectFragment]
  · simp only [written, replace, map, Option.map_some, Statement.map, Statement.replace,
      Statement.replace_insertFragment]
  · simp only [written, target, replace, map, ConditionTree.map, Option.map_some, Statement.map,
      Statement.replace, hc, ho, Statement.replace_updateFragment]
  · simp only [written, target, replace, map, ConditionTree.map, Option.map_some, Statement.map,
      Statement.replace, hc, ho, Statement.replace_deleteFragment]

theorem Query.written_replace (q : Query) : (q.replace ρ).written = q.written.replace ρ := by
  induction q using Query.induction with
  | step q ih =>
    rw [written_eq, written_eq, outline_replace, ← Outline.replace_map, Outline.map_map]
    have hpairs : q.outline.map (withText ∘ replace ρ) =
        (q.outline.map withText).map (replacedBesideText ρ) := by
      rw [Outline.map_map]
      exact Outline.map_congr fun e he => Prod.ext rfl (ih e he)
    rw [hpairs, Outline.written_replaced]

end Text

/-! ## Building -/

/-- A finished statement with replaced arguments. -/
def BuiltQuery.replace (ρ : Replacement) (b : BuiltQuery) : BuiltQuery :=
  ⟨b.sql, b.args.map ρ.value⟩

namespace Query

variable (ρ : Replacement)

/-- Compiling does not look at a bound value. -/
theorem compile_replace (q : Query) :
    (q.replace ρ).compile = q.compile.map (Fragment.replace ρ) := by
  -- An INSERT also checks the number of its values, which its faults do not mention.
  by_cases hi : ∃ columns rows ignore onDuplicateKey,
      q.statement = some (.insert columns rows ignore onDuplicateKey)
  · obtain ⟨columns, rows, ignore, onDuplicateKey, hs⟩ := hi
    obtain ⟨statement, table, tableAlias, joins, conditions, groupBy, orderBy, limit, offset,
      name⟩ := q
    obtain rfl : statement = _ := hs
    have hlength : (rows.map (List.map ρ.value)).flatten.length = rows.flatten.length := by
      rw [← List.map_flatten, List.length_map]
    rw [replace_eq]
    change compile ⟨some (.insert columns (rows.map (List.map ρ.value)) ignore
      (onDuplicateKey.map (Assignment.replace ρ))), _, _, _, _, _, _, _, _, _⟩ = _
    rw [compile_insert, compile_insert, report_map, Statement.replace_insertFragment]
    simp only [isEmpty_flatten_map_map, hlength, ConditionTree.map, Forest.leaves_map,
      List.isEmpty_map]
  · have hq : q.RowsFit := rowsFit_of_not_insert fun columns rows ignore onDuplicateKey hs =>
      hi ⟨columns, rows, ignore, onDuplicateKey, hs⟩
    have hr : (q.replace ρ).RowsFit := by
      refine rowsFit_of_not_insert fun columns rows ignore onDuplicateKey hs => hi ?_
      rw [statement_replace] at hs
      obtain ⟨s, hs, hr⟩ := Option.map_eq_some_iff.mp hs
      cases s with
      | insert columns rows ignore onDuplicateKey => exact ⟨_, _, _, _, hs⟩
      | select _ _ | update _ | delete => cases hr
    rw [compiles _ hq, compiles _ hr, faults_replace, written_replace, report_map]

/-- Building does not look at a bound value. -/
theorem build_replace (q : Query) : (q.replace ρ).build = q.build.map (BuiltQuery.replace ρ) := by
  rw [build, build, compile_replace]
  cases q.compile <;> rfl

end Query

end BoundSql
