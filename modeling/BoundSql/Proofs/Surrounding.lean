import BoundSql.Proofs.Faults

/-!
# Texts around a place

What a query is written as has the text of each of its parts in one place. Take two functions of
whatever stands there, `part` for what the place itself is written as and `whole` for what the
query is: `Surrounds part whole` says that the second is always the first between the same two
pieces. Either piece may fail to be written, and the part may; the leftmost failure is reported.

A clause is between the clauses before it and those behind it, an item between its neighbours, and
so on into the place; `Surrounds.trans` puts these together.

## Main definitions

* `between` — a text between two others, or the first failure.
* `Surrounds` — that one text is another one between two pieces.
* `Clause.concat` — clauses one after another, or the first failure.
-/

namespace BoundSql

open Fragment (text)

variable {S α β : Type}

namespace Fragment

@[simp] theorem empty_append (f : Fragment) : empty ++ f = f := by
  ext1 <;> simp

@[simp] theorem append_empty (f : Fragment) : f ++ empty = f := by
  ext1 <;> simp

/-- Pieces before another one, with a separator after each. -/
def lead (separator : String) : List Fragment → Fragment
  | [] => empty
  | f :: fs => f ++ text separator ++ lead separator fs

/-- Pieces behind another one, with a separator before each. -/
def trail (separator : String) : List Fragment → Fragment
  | [] => empty
  | f :: fs => text separator ++ f ++ trail separator fs

theorem join_cons (separator : String) (f : Fragment) (fs : List Fragment) :
    join separator (f :: fs) = f ++ trail separator fs := by
  induction fs generalizing f with
  | nil => simp [join, trail]
  | cons g fs ih =>
    rw [join, ih, trail]
    simp only [append_assoc]

/-- Joined pieces around one of them. -/
theorem join_append_cons (separator : String) (before : List Fragment) (f : Fragment)
    (after : List Fragment) :
    join separator (before ++ f :: after) =
      lead separator before ++ f ++ trail separator after := by
  induction before with
  | nil => rw [List.nil_append, join_cons, lead, empty_append]
  | cons g before ih =>
    have hne : before ++ f :: after ≠ [] := by simp
    obtain ⟨h, rest, hrest⟩ := List.exists_cons_of_ne_nil hne
    rw [List.cons_append, hrest, join, ← hrest, ih, lead]
    simp only [append_assoc]

end Fragment

/-! ## A text between two others -/

/-- A text between two others, or the first failure among the three. -/
def between (before after part : Except QueryError Fragment) : Except QueryError Fragment := do
  let b ← before
  let f ← part
  let a ← after
  return b ++ f ++ a

theorem between_between (before before' after after' part : Except QueryError Fragment) :
    between before' after' (between before after part) =
      between (do return (← before') ++ (← before)) (do return (← after) ++ (← after')) part := by
  cases before' with
  | error e => rfl
  | ok b' =>
    cases before with
    | error e => rfl
    | ok b =>
      cases part with
      | error e => rfl
      | ok f =>
        cases after with
        | error e => rfl
        | ok a =>
          cases after' with
          | error e => rfl
          | ok a' =>
            refine congrArg Except.ok ?_
            simp only [Fragment.append_assoc]

theorem between_empty (part : Except QueryError Fragment) :
    between (.ok .empty) (.ok .empty) part = part := by
  cases part with
  | error e => rfl
  | ok f => simp [between, Bind.bind, Except.bind, Pure.pure, Except.pure]

/-- The second text is always the first one between two pieces that do not depend on it. -/
def Surrounds (part whole : S → Except QueryError Fragment) : Prop :=
  ∃ before after, ∀ s, whole s = between before after (part s)

namespace Surrounds

variable {part whole other : S → Except QueryError Fragment}

theorem refl (part : S → Except QueryError Fragment) : Surrounds part part :=
  ⟨.ok .empty, .ok .empty, fun s => (between_empty (part s)).symm⟩

theorem trans (h : Surrounds part whole) (h' : Surrounds whole other) : Surrounds part other := by
  obtain ⟨before, after, h⟩ := h
  obtain ⟨before', after', h'⟩ := h'
  refine ⟨do return (← before') ++ (← before), do return (← after) ++ (← after'), fun s => ?_⟩
  rw [h', h, between_between]

theorem comp {T : Type} (h : Surrounds part whole) (g : T → S) :
    Surrounds (fun t => part (g t)) fun t => whole (g t) := by
  obtain ⟨before, after, h⟩ := h
  exact ⟨before, after, fun t => h (g t)⟩

/-- What fails in any case does not depend on the part. -/
theorem error (e : QueryError) : Surrounds part fun _ => .error e :=
  ⟨.error e, .ok .empty, fun _ => rfl⟩

theorem of_faults {faults : List QueryError} (h : faults ≠ []) (f : Fragment) :
    Surrounds part fun _ => report faults f := by
  obtain ⟨e, rest, rfl⟩ := List.exists_cons_of_ne_nil h
  exact error e

/-- Two pieces may be put around. -/
theorem map {r : Fragment → Fragment} {front back : Fragment} (h : Surrounds part whole)
    (hr : ∀ f, r f = front ++ f ++ back) : Surrounds part fun s => (whole s).map r := by
  refine h.trans ⟨.ok front, .ok back, fun s => ?_⟩
  change (whole s).map r = _
  cases whole s with
  | error e => rfl
  | ok f => exact congrArg Except.ok (hr f)

end Surrounds

/-! ## Clauses one after another -/

/-- Clauses one after another, or the first failure among them. -/
def Clause.concat : List (Except QueryError Fragment) → Except QueryError Fragment
  | [] => .ok .empty
  | x :: xs => do return (← x) ++ (← concat xs)

/-- Clauses around one of them. -/
theorem Surrounds.concat {part clause : S → Except QueryError Fragment} (h : Surrounds part clause)
    (before after : List (Except QueryError Fragment)) :
    Surrounds part fun s => Clause.concat (before ++ clause s :: after) := by
  induction before with
  | nil =>
    refine h.trans ⟨.ok .empty, Clause.concat after, fun s => ?_⟩
    simp [Clause.concat, between, Bind.bind, Except.bind]
  | cons x before ih =>
    refine ih.trans ⟨x, .ok .empty, fun s => ?_⟩
    simp [Clause.concat, between, Bind.bind, Except.bind]

/-- A statement that begins with a fault fails whatever the other clauses are. -/
theorem Surrounds.concat_of_faults {part : S → Except QueryError Fragment}
    {faults : List QueryError} (h : faults ≠ []) (f : Fragment)
    (clauses : S → List (Except QueryError Fragment)) :
    Surrounds part fun s => Clause.concat (report faults f :: clauses s) := by
  obtain ⟨e, rest, rfl⟩ := List.exists_cons_of_ne_nil h
  exact .error e

/-! ## Items -/

/-- Parts written from left to right around one of them, of which `inner` shows in the whole. -/
theorem surrounds_mapM {render : List β → Fragment} {front back : List β → Fragment}
    {inner : β → Fragment} {write : α → Except QueryError β} {x : S → α}
    (hrender : ∀ s b, write (x s) = .ok b → ∀ before after,
      render (before ++ b :: after) = front before ++ inner b ++ back after)
    (before after : List α) :
    Surrounds (fun s => (write (x s)).map inner) fun s =>
      ((before ++ x s :: after).mapM write).map render := by
  refine ⟨(before.mapM write).map front, (after.mapM write).map back, fun s => ?_⟩
  dsimp only
  rw [List.mapM_append, List.mapM_cons]
  cases before.mapM write with
  | error e => rfl
  | ok bs =>
    cases hb : write (x s) with
    | error e => rfl
    | ok b =>
      cases after.mapM write with
      | error e => rfl
      | ok as => exact congrArg Except.ok (hrender s b hb bs as)

namespace Query

/-- An item to order by, with its direction. -/
def orderFragment (o : OrderItem Query) : Except QueryError Fragment := do
  return (← columnFragment o.column) ++ text (" " ++ o.direction.sql)

theorem columnFragments_eq_mapM (cs : List (Column Query)) :
    columnFragments cs = cs.mapM columnFragment := by
  induction cs with
  | nil => rw [columnFragments]; rfl
  | cons c cs ih => rw [columnFragments, ih, List.mapM_cons]

theorem orderFragments_eq_mapM (os : List (OrderItem Query)) :
    orderFragments os = os.mapM orderFragment := by
  induction os with
  | nil => rw [orderFragments]; rfl
  | cons o os ih =>
    rw [orderFragments, ih, List.mapM_cons, orderFragment]
    simp only [bind_assoc, pure_bind]

theorem conditionFragments_eq_mapM (nodes : Forest (Condition Query)) :
    conditionFragments nodes = List.mapM conditionFragmentNode nodes := by
  induction nodes with
  | nil => rw [conditionFragments]; rfl
  | cons node nodes ih => rw [conditionFragments, ih, List.mapM_cons]

/-- Items around one that varies. -/
theorem surrounds_columns {render : List Fragment → Fragment}
    {front back : List Fragment → Fragment}
    (hrender : ∀ before f after, render (before ++ f :: after) = front before ++ f ++ back after)
    (before after : List (Column Query)) (c : S → Column Query) :
    Surrounds (fun s => columnFragment (c s)) fun s =>
      (columnFragments (before ++ c s :: after)).map render := by
  have hitems : Surrounds (fun s => (columnFragment (c s)).map id) fun s =>
      ((before ++ c s :: after).mapM columnFragment).map render :=
    surrounds_mapM (fun _ f _ bs as => hrender bs f as) before after
  simpa only [columnFragments_eq_mapM, Except.map_id, id_eq] using hitems

/-- Items to order by around one that varies. -/
theorem surrounds_orders {render : List Fragment → Fragment} {front back : List Fragment → Fragment}
    (hrender : ∀ before f after, render (before ++ f :: after) = front before ++ f ++ back after)
    (before after : List (OrderItem Query)) (direction : Direction) (c : S → Column Query) :
    Surrounds (fun s => columnFragment (c s)) fun s =>
      (orderFragments (before ++ ⟨c s, direction⟩ :: after)).map render := by
  have hdirection (s : S) : orderFragment ⟨c s, direction⟩ =
      (columnFragment (c s)).map (· ++ text (" " ++ direction.sql)) := rfl
  have hitems : Surrounds (fun s => (orderFragment ⟨c s, direction⟩).map id) fun s =>
      ((before ++ ⟨c s, direction⟩ :: after).mapM orderFragment).map render :=
    surrounds_mapM (fun _ f _ bs as => hrender bs f as) before after
  simp only [Except.map_id, id_eq, ← orderFragments_eq_mapM, hdirection] at hitems
  exact ((Surrounds.refl _).map fun f => by rw [Fragment.empty_append]).trans hitems

end Query

/-! ## Statements by clauses -/

namespace Clause

/-- The items of a SELECT; without any, all columns. -/
def projection (fs : List Fragment) : Fragment :=
  if fs.isEmpty then text "*" else .join ", " fs

theorem projection_append_cons (before : List Fragment) (f : Fragment) (after : List Fragment) :
    projection (before ++ f :: after) = .lead ", " before ++ f ++ .trail ", " after := by
  have hne : (before ++ f :: after).isEmpty = false := by simp
  rw [projection, hne, if_neg Bool.false_ne_true, Fragment.join_append_cons]

theorem items_append_cons (keyword : String) (before : List Fragment) (f : Fragment)
    (after : List Fragment) :
    items keyword (before ++ f :: after) =
      text keyword ++ .lead ", " before ++ f ++ .trail ", " after := by
  have hne : (before ++ f :: after).isEmpty = false := by simp
  rw [items, hne, if_neg Bool.false_ne_true, Fragment.join_append_cons]
  simp only [Fragment.append_assoc]

end Clause

namespace Query

section Clauses

variable (table tableAlias : Option String) (joins : List Join)
  (conditions : ConditionTree (Condition Query)) (groupBy : List (Column Query))
  (orderBy : List (OrderItem Query)) (limit offset : Option UInt64) (name : Option String)

theorem compile_select (columns : List (Column Query)) (distinct : Bool) :
    compile ⟨some (.select columns distinct), table, tableAlias, joins, conditions, groupBy,
        orderBy, limit, offset, name⟩ =
      Clause.concat
        [.ok (text (if distinct then "SELECT DISTINCT " else "SELECT ")),
          (columnFragments columns).map Clause.projection,
          (Clause.target .select table tableAlias).map fun target =>
            text (" FROM " ++ target ++ Clause.joins joins),
          (conditionFragments conditions.roots).map Clause.conditions,
          (columnFragments groupBy).map (Clause.items " GROUP BY "),
          (orderFragments orderBy).map (Clause.items " ORDER BY "),
          .ok (text (Clause.window limit offset))] := by
  rw [compile]
  cases columnFragments columns <;> cases Clause.target .select table tableAlias <;>
    cases conditionFragments conditions.roots <;> cases columnFragments groupBy <;>
    cases orderFragments orderBy <;> try rfl
  refine congrArg Except.ok ?_
  simp only [Statement.selectFragment, Fragment.append_assoc, Fragment.append_empty]
  rfl

/-- An UPDATE without its conditions and what comes behind them. -/
def updateHead (assignments : List Assignment) : Except QueryError Fragment :=
  report
    (tableFaults .update table ++ faultIf assignments.isEmpty .emptyUpdateColumns ++
      faultIf (!joins.isEmpty) (.unsupportedClause "JOIN" "UPDATE") ++
      faultIf (!groupBy.isEmpty) (.unsupportedClause "GROUP BY" "UPDATE"))
    (text ("UPDATE " ++ (table.getD "" ++ Clause.aliasSuffix tableAlias) ++ " SET ") ++
      Clause.assignments assignments)

/-- A DELETE without its conditions and what comes behind them. -/
def deleteHead : Except QueryError Fragment :=
  report
    (tableFaults .delete table ++ faultIf (!joins.isEmpty) (.unsupportedClause "JOIN" "DELETE") ++
      faultIf (!groupBy.isEmpty) (.unsupportedClause "GROUP BY" "DELETE"))
    (text ("DELETE FROM " ++ (table.getD "" ++ Clause.aliasSuffix tableAlias)))

theorem compile_update (assignments : List Assignment) :
    compile ⟨some (.update assignments), table, tableAlias, joins, conditions, groupBy, orderBy,
        limit, offset, name⟩ =
      Clause.concat
        [updateHead table tableAlias joins groupBy assignments,
          (conditionFragments conditions.roots).map Clause.conditions,
          (orderFragments orderBy).map (Clause.items " ORDER BY "),
          .ok (text (Clause.window limit none))] := by
  rw [compile, target_eq_report, updateHead]
  simp only [refuseIf_eq_report]
  cases tableFaults .update table <;> cases faultIf assignments.isEmpty .emptyUpdateColumns <;>
    cases faultIf (!joins.isEmpty) (.unsupportedClause "JOIN" "UPDATE") <;>
    cases faultIf (!groupBy.isEmpty) (.unsupportedClause "GROUP BY" "UPDATE") <;>
    cases conditionFragments conditions.roots <;> cases orderFragments orderBy <;> try rfl
  refine congrArg Except.ok ?_
  simp only [Statement.updateFragment, Statement.mutationTail, Fragment.append_assoc,
    Fragment.append_empty]

theorem compile_delete :
    compile ⟨some .delete, table, tableAlias, joins, conditions, groupBy, orderBy, limit, offset,
        name⟩ =
      Clause.concat
        [deleteHead table tableAlias joins groupBy,
          (conditionFragments conditions.roots).map Clause.conditions,
          (orderFragments orderBy).map (Clause.items " ORDER BY "),
          .ok (text (Clause.window limit none))] := by
  rw [compile, target_eq_report, deleteHead]
  simp only [refuseIf_eq_report]
  cases tableFaults .delete table <;>
    cases faultIf (!joins.isEmpty) (.unsupportedClause "JOIN" "DELETE") <;>
    cases faultIf (!groupBy.isEmpty) (.unsupportedClause "GROUP BY" "DELETE") <;>
    cases conditionFragments conditions.roots <;> cases orderFragments orderBy <;> try rfl
  refine congrArg Except.ok ?_
  simp only [Statement.deleteFragment, Statement.mutationTail, Fragment.append_assoc,
    Fragment.append_empty]

end Clauses

end Query

end BoundSql
