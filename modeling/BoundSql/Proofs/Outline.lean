import BoundSql.Proofs.Forest
import BoundSql.Query.Build

/-!
# Recursion over embedded statements

A query holds other queries in its items and in the right sides of its conditions. `Outline Q` is
what a query records, with a `Q` in the place of every embedded query. To compute something from
a query, it is enough to say how an outline gives it in which each embedded query stands beside
what was computed from it: `Query.fold` does the recursion, and `Query.fold_eq` is its one
equation. Likewise `Query.induction` proves something of all queries if it holds of a query as
soon as it holds of those embedded in it.

## Main definitions

* `Column.map`, `Comparand.map`, …, `Outline.map` — something else in the place of each embedded
  query.
* `Outline.subQueries`, `Query.subQueries` — the embedded queries in the order of the clauses.
* `Query.fold` — recursion over embedded queries.
-/

namespace BoundSql

variable {P Q R β : Type}

/-! ## Items and conditions -/

namespace Column

/-- An item with another embedded statement. -/
def map (f : Q → R) : Column Q → Column R
  | expression sql => expression sql
  | subQuery q => subQuery (f q)

/-- The statement embedded in an item. -/
def subQueries : Column Q → List Q
  | expression _ => []
  | subQuery q => [q]

theorem map_map (g : Q → R) (f : P → Q) (c : Column P) : (c.map f).map g = c.map (g ∘ f) := by
  cases c <;> rfl

theorem map_congr {f g : Q → R} {c : Column Q} (h : ∀ e ∈ c.subQueries, f e = g e) :
    c.map f = c.map g := by
  cases c with
  | expression sql => rfl
  | subQuery q => exact congrArg subQuery (h q (by simp [subQueries]))

theorem subQueries_map (f : Q → R) (c : Column Q) :
    (c.map f).subQueries = c.subQueries.map f := by
  cases c <;> rfl

theorem sizeOf_lt_of_mem_subQueries [SizeOf Q] {c : Column Q} {e : Q} (h : e ∈ c.subQueries) :
    sizeOf e < sizeOf c := by
  cases c with
  | expression sql => simp [subQueries] at h
  | subQuery q =>
    obtain rfl : e = q := by simpa [subQueries] using h
    simp

end Column

namespace Comparand

/-- A right side with another embedded statement. -/
def map (f : Q → R) : Comparand Q → Comparand R
  | scalar v => scalar v
  | list vs => list vs
  | subQuery q => subQuery (f q)
  | literal sql => literal sql

/-- The statement embedded in a right side. -/
def subQueries : Comparand Q → List Q
  | subQuery q => [q]
  | scalar _ | list _ | literal _ => []

end Comparand

namespace Condition

/-- A condition with another embedded statement. -/
def map (f : Q → R) (c : Condition Q) : Condition R := ⟨c.column, c.operand, c.comparand.map f⟩

/-- The statement embedded in a condition. -/
def subQueries (c : Condition Q) : List Q := c.comparand.subQueries

theorem map_map (g : Q → R) (f : P → Q) (c : Condition P) :
    (c.map f).map g = c.map (g ∘ f) := by
  obtain ⟨column, operand, comparand⟩ := c
  cases comparand <;> rfl

theorem map_congr {f g : Q → R} {c : Condition Q} (h : ∀ e ∈ c.subQueries, f e = g e) :
    c.map f = c.map g := by
  obtain ⟨column, operand, comparand⟩ := c
  cases comparand with
  | subQuery q => simp [map, Comparand.map, h q (by simp [subQueries, Comparand.subQueries])]
  | scalar _ | list _ | literal _ => rfl

theorem subQueries_map (f : Q → R) (c : Condition Q) :
    (c.map f).subQueries = c.subQueries.map f := by
  obtain ⟨column, operand, comparand⟩ := c
  cases comparand <;> rfl

theorem sizeOf_lt_of_mem_subQueries [SizeOf Q] {c : Condition Q} {e : Q}
    (h : e ∈ c.subQueries) : sizeOf e < sizeOf c := by
  obtain ⟨column, operand, comparand⟩ := c
  cases comparand with
  | subQuery q =>
    obtain rfl : e = q := by simpa [subQueries, Comparand.subQueries] using h
    simp
    omega
  | scalar _ | list _ | literal _ => simp [subQueries, Comparand.subQueries] at h

end Condition

theorem Forest.sizeOf_lt_of_mem_leaves [SizeOf P] {nodes : Forest P} {c : P}
    (h : c ∈ leaves nodes) : sizeOf c < sizeOf nodes := by
  induction nodes using Forest.induction with
  | nil => simp at h
  | leaf link condition nodes ih =>
    rcases List.mem_cons.mp h with rfl | h
    · simp
      omega
    · have := ih h
      simp
      omega
  | group link children nodes ihc ihn =>
    rcases List.mem_append.mp h with h | h
    · have := ihc h
      simp
      omega
    · have := ihn h
      simp
      omega

namespace OrderItem

/-- An item to order by with another embedded statement. -/
def map (f : Q → R) (o : OrderItem Q) : OrderItem R := ⟨o.column.map f, o.direction⟩

/-- The statement embedded in an item to order by. -/
def subQueries (o : OrderItem Q) : List Q := o.column.subQueries

theorem map_map (g : Q → R) (f : P → Q) (o : OrderItem P) :
    (o.map f).map g = o.map (g ∘ f) := by
  simp [map, Column.map_map]

theorem map_congr {f g : Q → R} {o : OrderItem Q} (h : ∀ e ∈ o.subQueries, f e = g e) :
    o.map f = o.map g := by
  simp [map, Column.map_congr h]

theorem subQueries_map (f : Q → R) (o : OrderItem Q) :
    (o.map f).subQueries = o.subQueries.map f :=
  Column.subQueries_map f o.column

theorem sizeOf_lt_of_mem_subQueries [SizeOf Q] {o : OrderItem Q} {e : Q}
    (h : e ∈ o.subQueries) : sizeOf e < sizeOf o := by
  have := Column.sizeOf_lt_of_mem_subQueries h
  cases o
  simp at *
  omega

end OrderItem

namespace Statement

/-- A statement with other embedded ones. -/
def map (f : Q → R) : Statement Q → Statement R
  | select columns distinct => select (columns.map (Column.map f)) distinct
  | insert columns rows ignore onDuplicateKey => insert columns rows ignore onDuplicateKey
  | update assignments => update assignments
  | delete => delete

/-- The statements embedded in the projection. -/
def subQueries : Statement Q → List Q
  | select columns _ => columns.flatMap Column.subQueries
  | insert _ _ _ _ | update _ | delete => []

theorem map_map (g : Q → R) (f : P → Q) (s : Statement P) :
    (s.map f).map g = s.map (g ∘ f) := by
  cases s <;> simp [map, Column.map_map]

theorem map_congr {f g : Q → R} {s : Statement Q} (h : ∀ e ∈ s.subQueries, f e = g e) :
    s.map f = s.map g := by
  cases s with
  | select columns distinct =>
    refine congrArg (select · distinct) (List.map_congr_left fun c hc => ?_)
    exact Column.map_congr fun e he => h e (List.mem_flatMap.mpr ⟨c, hc, he⟩)
  | insert _ _ _ _ | update _ | delete => rfl

theorem sizeOf_lt_of_mem_subQueries [SizeOf Q] {s : Statement Q} {e : Q}
    (h : e ∈ s.subQueries) : sizeOf e < sizeOf s := by
  cases s with
  | select columns distinct =>
    obtain ⟨c, hc, he⟩ := List.mem_flatMap.mp h
    have := List.sizeOf_lt_of_mem hc
    have := Column.sizeOf_lt_of_mem_subQueries he
    simp
    omega
  | insert _ _ _ _ | update _ | delete => simp [subQueries] at h

end Statement

/-! ## Outlines -/

/-- What a query records, with a `Q` for every embedded statement. -/
structure Outline (Q : Type) where
  statement : Option (Statement Q)
  table : Option String
  tableAlias : Option String
  joins : List Join
  conditions : ConditionTree (Condition Q)
  groupBy : List (Column Q)
  orderBy : List (OrderItem Q)
  limit : Option UInt64
  offset : Option UInt64
  name : Option String

namespace Outline

/-- An outline with something else for every embedded statement. -/
def map (f : Q → R) (o : Outline Q) : Outline R where
  statement := o.statement.map (Statement.map f)
  table := o.table
  tableAlias := o.tableAlias
  joins := o.joins
  conditions := o.conditions.map (Condition.map f)
  groupBy := o.groupBy.map (Column.map f)
  orderBy := o.orderBy.map (OrderItem.map f)
  limit := o.limit
  offset := o.offset
  name := o.name

/-- What is embedded in each clause: projection, conditions, grouping and ordering. -/
def subQueries (o : Outline Q) : List Q :=
  (o.statement.map Statement.subQueries).getD [] ++
    (Forest.leaves o.conditions.roots).flatMap Condition.subQueries ++
    o.groupBy.flatMap Column.subQueries ++ o.orderBy.flatMap OrderItem.subQueries

theorem map_map (g : Q → R) (f : P → Q) (o : Outline P) : (o.map f).map g = o.map (g ∘ f) := by
  simp [map, ConditionTree.map, Forest.map_map, Function.comp_def, Statement.map_map,
    Condition.map_map, Column.map_map, OrderItem.map_map]

theorem map_congr {f g : Q → R} {o : Outline Q} (h : ∀ e ∈ o.subQueries, f e = g e) :
    o.map f = o.map g := by
  have hs : o.statement.map (Statement.map f) = o.statement.map (Statement.map g) :=
    Option.map_congr fun s hs =>
      Statement.map_congr fun e he => h e (by simp [subQueries, hs, he])
  have hc : Forest.map (Condition.map f) o.conditions.roots =
      Forest.map (Condition.map g) o.conditions.roots :=
    Forest.map_congr fun c hc => Condition.map_congr fun e he =>
      h e (by simp only [subQueries, List.mem_append, List.mem_flatMap]; grind)
  have hg : o.groupBy.map (Column.map f) = o.groupBy.map (Column.map g) :=
    List.map_congr_left fun c hc => Column.map_congr fun e he =>
      h e (by simp only [subQueries, List.mem_append, List.mem_flatMap]; grind)
  have ho : o.orderBy.map (OrderItem.map f) = o.orderBy.map (OrderItem.map g) :=
    List.map_congr_left fun c hc => OrderItem.map_congr fun e he =>
      h e (by simp only [subQueries, List.mem_append, List.mem_flatMap]; grind)
  simp [map, ConditionTree.map, hs, hc, hg, ho]

end Outline

namespace Query

/-- The outline with the embedded queries themselves. -/
def outline (q : Query) : Outline Query where
  statement := q.statement
  table := q.table
  tableAlias := q.tableAlias
  joins := q.joins
  conditions := q.conditions
  groupBy := q.groupBy
  orderBy := q.orderBy
  limit := q.limit
  offset := q.offset
  name := q.name

/-- The outline of a query from its parts, with something else for every embedded query. -/
theorem outline_map (f : Query → R) (statement : Option (Statement Query))
    (table tableAlias : Option String) (joins : List Join)
    (conditions : ConditionTree (Condition Query)) (groupBy : List (Column Query))
    (orderBy : List (OrderItem Query)) (limit offset : Option UInt64) (name : Option String) :
    (outline ⟨statement, table, tableAlias, joins, conditions, groupBy, orderBy, limit, offset,
        name⟩).map f =
      ⟨statement.map (Statement.map f), table, tableAlias, joins,
        ⟨Forest.map (Condition.map f) conditions.roots, conditions.cursor⟩,
        groupBy.map (Column.map f), orderBy.map (OrderItem.map f), limit, offset, name⟩ :=
  rfl

/-- The embedded queries, in the order of the clauses. -/
def subQueries (q : Query) : List Query := q.outline.subQueries

theorem sizeOf_lt_of_mem_subQueries {q e : Query} (h : e ∈ q.subQueries) :
    sizeOf e < sizeOf q := by
  obtain ⟨statement, table, tableAlias, joins, ⟨roots, cursor⟩, groupBy, orderBy, limit, offset,
    name⟩ := q
  simp only [subQueries, Outline.subQueries, outline, List.mem_append, List.mem_flatMap] at h
  rcases h with ((h | ⟨c, hc, h⟩) | ⟨c, hc, h⟩) | ⟨o, ho, h⟩
  · cases statement with
    | none => simp at h
    | some s =>
      have := Statement.sizeOf_lt_of_mem_subQueries h
      simp
      omega
  · have := Forest.sizeOf_lt_of_mem_leaves hc
    have := Condition.sizeOf_lt_of_mem_subQueries h
    simp
    omega
  · have := List.sizeOf_lt_of_mem hc
    have := Column.sizeOf_lt_of_mem_subQueries h
    simp
    omega
  · have := List.sizeOf_lt_of_mem ho
    have := OrderItem.sizeOf_lt_of_mem_subQueries h
    simp
    omega

/-- Induction over a query by the queries embedded in it. -/
theorem induction {motive : Query → Prop}
    (step : ∀ q, (∀ e ∈ q.subQueries, motive e) → motive q) (q : Query) : motive q :=
  step q fun e _he => induction step e
termination_by sizeOf q
decreasing_by exact sizeOf_lt_of_mem_subQueries _he

/-! ## Recursion -/

mutual

/-- What a rule for outlines gives for a query, when each embedded query stands beside what the
rule gives for it. -/
def fold (rule : Outline (Query × β) → β) : Query → β
  | ⟨statement, table, tableAlias, joins, ⟨roots, cursor⟩, groupBy, orderBy, limit, offset,
      name⟩ =>
    rule
      { statement := foldStatement rule statement, table, tableAlias, joins
        conditions := ⟨foldNodes rule roots, cursor⟩
        groupBy := foldColumns rule groupBy
        orderBy := foldOrders rule orderBy, limit, offset, name }

/-- The part of `fold` for the statement. -/
def foldStatement (rule : Outline (Query × β) → β) :
    Option (Statement Query) → Option (Statement (Query × β))
  | none => none
  | some (.select columns distinct) => some (.select (foldColumns rule columns) distinct)
  | some (.insert columns rows ignore onDuplicateKey) =>
    some (.insert columns rows ignore onDuplicateKey)
  | some (.update assignments) => some (.update assignments)
  | some .delete => some .delete

/-- The part of `fold` for an item. -/
def foldColumn (rule : Outline (Query × β) → β) : Column Query → Column (Query × β)
  | .expression sql => .expression sql
  | .subQuery q => .subQuery (q, fold rule q)

/-- The part of `fold` for items. -/
def foldColumns (rule : Outline (Query × β) → β) :
    List (Column Query) → List (Column (Query × β))
  | [] => []
  | c :: cs => foldColumn rule c :: foldColumns rule cs

/-- The part of `fold` for items to order by. -/
def foldOrders (rule : Outline (Query × β) → β) :
    List (OrderItem Query) → List (OrderItem (Query × β))
  | [] => []
  | ⟨c, direction⟩ :: items => ⟨foldColumn rule c, direction⟩ :: foldOrders rule items

/-- The part of `fold` for a condition. -/
def foldCondition (rule : Outline (Query × β) → β) : Condition Query → Condition (Query × β)
  | ⟨column, operand, .scalar v⟩ => ⟨column, operand, .scalar v⟩
  | ⟨column, operand, .list vs⟩ => ⟨column, operand, .list vs⟩
  | ⟨column, operand, .literal sql⟩ => ⟨column, operand, .literal sql⟩
  | ⟨column, operand, .subQuery q⟩ => ⟨column, operand, .subQuery (q, fold rule q)⟩

/-- The part of `fold` for a node. -/
def foldNode (rule : Outline (Query × β) → β) :
    ConditionNode (Condition Query) → ConditionNode (Condition (Query × β))
  | .leaf link condition => .leaf link (foldCondition rule condition)
  | .group link children => .group link (foldNodes rule children)

/-- The part of `fold` for nodes. -/
def foldNodes (rule : Outline (Query × β) → β) :
    List (ConditionNode (Condition Query)) → List (ConditionNode (Condition (Query × β)))
  | [] => []
  | node :: nodes => foldNode rule node :: foldNodes rule nodes

end

variable (rule : Outline (Query × β) → β)

/-- An embedded query beside what the rule gives for it. -/
def withFold (e : Query) : Query × β := (e, e.fold rule)

theorem foldColumn_eq (c : Column Query) : foldColumn rule c = c.map (withFold rule) := by
  cases c <;> simp [foldColumn, Column.map, withFold]

theorem foldColumns_eq (cs : List (Column Query)) :
    foldColumns rule cs = cs.map (Column.map (withFold rule)) := by
  induction cs with
  | nil => simp [foldColumns]
  | cons c cs ih => simp [foldColumns, foldColumn_eq, ih]

theorem foldOrders_eq (os : List (OrderItem Query)) :
    foldOrders rule os = os.map (OrderItem.map (withFold rule)) := by
  induction os with
  | nil => simp [foldOrders]
  | cons o os ih => simp [foldOrders, foldColumn_eq, OrderItem.map, ih]

theorem foldCondition_eq (c : Condition Query) :
    foldCondition rule c = c.map (withFold rule) := by
  obtain ⟨column, operand, comparand⟩ := c
  cases comparand <;> simp [foldCondition, Condition.map, Comparand.map, withFold]

theorem foldNodes_eq (nodes : Forest (Condition Query)) :
    foldNodes rule nodes = Forest.map (Condition.map (withFold rule)) nodes := by
  induction nodes using Forest.induction with
  | nil => simp [foldNodes]
  | leaf link condition nodes ih => simp [foldNodes, foldNode, foldCondition_eq, ih]
  | group link children nodes ihc ihn => simp [foldNodes, foldNode, ihc, ihn]

theorem foldStatement_eq (s : Option (Statement Query)) :
    foldStatement rule s = s.map (Statement.map (withFold rule)) := by
  rcases s with _ | ⟨columns, distinct⟩ | _ | _ | _ <;>
    simp [foldStatement, Statement.map, foldColumns_eq]

/-- The equation of `fold`. -/
theorem fold_eq (q : Query) : q.fold rule = rule (q.outline.map (withFold rule)) := by
  obtain ⟨statement, table, tableAlias, joins, ⟨roots, cursor⟩, groupBy, orderBy, limit, offset,
    name⟩ := q
  rw [fold, foldStatement_eq, foldNodes_eq, foldColumns_eq, foldOrders_eq]
  rfl

end Query

end BoundSql
