import BoundSql.Proofs.Representation
import BoundSql.Proofs.Surrounding
import Mathlib.Logic.Relation

/-!
# Embedded statements may be exchanged

A statement embedded in another one counts by what it builds. `Context` is a query with a hole, in
any place where a statement can be embedded and at any depth of embedding. What a query with the
hole filled builds depends on what the statement in the hole builds, and, where items show it, on
the name of the statement; and the text of the statement stands in parentheses between two pieces
that depend on the context alone, with its arguments between those of the pieces
(`Query.embedded_by_build`).

## Main definitions

* `Hole`, `Frame` — a place of a query, and a query with this place left open.
* `Context` — frames inside each other.
-/

namespace BoundSql

open Fragment (text)

/-! ## Places -/

/-- A place among nodes of conditions, at any depth: the right side of one of the conditions. -/
inductive ConditionHole where
  | leaf (before : Forest (Condition Query)) (link : Connective) (column : String)
      (operand : Operand) (after : Forest (Condition Query))
  | group (before : Forest (Condition Query)) (link : Connective) (inner : ConditionHole)
      (after : Forest (Condition Query))

/-- The nodes with a statement in the place. -/
def ConditionHole.fill (s : Query) : ConditionHole → Forest (Condition Query)
  | leaf before link column operand after =>
    before ++ .leaf link ⟨column, operand, .subQuery s⟩ :: after
  | group before link inner after => before ++ .group link (inner.fill s) :: after

/-- A place of a query where a statement can be embedded, with what the clause has before and
behind it. -/
inductive Hole where
  | projection (before after : List (Column Query)) (distinct : Bool)
  | condition (place : ConditionHole)
  | groupBy (before after : List (Column Query))
  | orderBy (before : List (OrderItem Query)) (direction : Direction)
      (after : List (OrderItem Query))

/-- A query in which one place is open; what the query itself has in the clause of the place does
not count. -/
structure Frame where
  outer : Query
  hole : Hole

namespace Frame

/-- The query with a statement in the open place. -/
def fill (f : Frame) (s : Query) : Query :=
  match f.hole with
  | .projection before after distinct =>
    { f.outer with statement := some (.select (before ++ .subQuery s :: after) distinct) }
  | .condition place =>
    { f.outer with conditions := ⟨place.fill s, f.outer.conditions.cursor⟩ }
  | .groupBy before after => { f.outer with groupBy := before ++ .subQuery s :: after }
  | .orderBy before direction after =>
    { f.outer with orderBy := before ++ ⟨.subQuery s, direction⟩ :: after }

/-- Whether the name of the statement in the place is shown. -/
def showsName (f : Frame) : Bool :=
  match f.hole with
  | .condition _ => false
  | .projection _ _ _ | .groupBy _ _ | .orderBy _ _ _ => true

/-- What the statement in the place is written as. -/
def part (f : Frame) (s : Query) : Except QueryError Fragment :=
  if f.showsName then Query.columnFragment (.subQuery s) else s.embedded s.compile

end Frame

/-- A query with an open place, which may be in a statement embedded in it. -/
inductive Context where
  | here (f : Frame)
  | inside (f : Frame) (k : Context)

namespace Context

/-- The query with a statement in the open place. -/
def fill (s : Query) : Context → Query
  | here f => f.fill s
  | inside f k => f.fill (k.fill s)

/-- The frame that the open place is a place of. -/
def innermost : Context → Frame
  | here f => f
  | inside _ k => k.innermost

end Context

/-! ## Conditions -/

namespace Forest

variable {α : Type}

theorem isVacant_append (nodes others : Forest α) :
    isVacant (nodes ++ others) = (isVacant nodes && isVacant others) := by
  rw [isVacant_eq_all, isVacant_eq_all, isVacant_eq_all, List.all_append]

/-- A node that is written, between the nodes before it and those behind it. -/
theorem layoutFrom_append_cons (first : Bool) (before : Forest Fragment)
    {node : ConditionNode Fragment} (hnode : node.isVacant = false) (after : Forest Fragment) :
    layoutFrom first (before ++ node :: after) =
      layoutFrom first before ++ connective (first && isVacant before) node.link ++ node.layout ++
        layoutFrom false after := by
  induction before generalizing first with
  | nil =>
    simp only [List.nil_append, layoutFrom, hnode, isVacant_nil, Bool.and_true,
      Fragment.empty_append]
    rfl
  | cons other before ih =>
    rw [List.cons_append, layoutFrom, layoutFrom, isVacant]
    cases hother : other.isVacant with
    | true => simp [ih]
    | false => simp [ih, Fragment.append_assoc]

end Forest

theorem ConditionHole.isVacant_fill (s : Query) (place : ConditionHole) :
    Forest.isVacant (place.fill s) = false := by
  induction place with
  | leaf before link column operand after => simp [fill, Forest.isVacant_append]
  | group before link inner after ih => simp [fill, Forest.isVacant_append, ih]

theorem ConditionHole.leaves_fill (s : Query) (place : ConditionHole) :
    (Forest.leaves (place.fill s)).isEmpty = false := by
  have hvacant := place.isVacant_fill s
  rw [Bool.eq_false_iff, Ne, Forest.isVacant_iff] at hvacant
  simpa using hvacant

/-- The place behind another node. -/
def ConditionHole.behind (node : ConditionNode (Condition Query)) : ConditionHole → ConditionHole
  | leaf before link column operand after => leaf (node :: before) link column operand after
  | group before link inner after => group (node :: before) link inner after

theorem ConditionHole.fill_behind (s : Query) (node : ConditionNode (Condition Query))
    (place : ConditionHole) : (place.behind node).fill s = node :: place.fill s := by
  cases place <;> rfl

/-- Every statement that a condition compares with is in a place. -/
theorem ConditionHole.exists_fill {e : Query} {nodes : Forest (Condition Query)}
    (h : ∃ c ∈ Forest.leaves nodes, e ∈ c.subQueries) : ∃ place, fill e place = nodes := by
  induction nodes using Forest.induction with
  | nil => simp at h
  | leaf link condition nodes ih =>
    obtain ⟨c, hc, he⟩ := h
    rcases List.mem_cons.mp hc with rfl | hc
    · obtain ⟨column, operand, _ | _ | e' | _⟩ := c
      case subQuery =>
        obtain rfl : e = e' := by simpa [Condition.subQueries, Comparand.subQueries] using he
        exact ⟨.leaf [] link column operand nodes, rfl⟩
      all_goals simp [Condition.subQueries, Comparand.subQueries] at he
    · obtain ⟨place, rfl⟩ := ih ⟨c, hc, he⟩
      exact ⟨place.behind _, fill_behind e _ place⟩
  | group link children nodes ihc ihn =>
    obtain ⟨c, hc, he⟩ := h
    rcases List.mem_append.mp hc with hc | hc
    · obtain ⟨place, rfl⟩ := ihc ⟨c, hc, he⟩
      exact ⟨.group [] link place nodes, rfl⟩
    · obtain ⟨place, rfl⟩ := ihn ⟨c, hc, he⟩
      exact ⟨place.behind _, fill_behind e _ place⟩

theorem Column.exists_place {e : Query} {cs : List (Column Query)}
    (h : ∃ c ∈ cs, e ∈ c.subQueries) : ∃ before after, cs = before ++ .subQuery e :: after := by
  obtain ⟨c, hc, he⟩ := h
  cases c with
  | expression _ => simp [subQueries] at he
  | subQuery e' =>
    obtain rfl : e = e' := by simpa [subQueries] using he
    exact List.append_of_mem hc

namespace Query

mutual

/-- Writing a node keeps its connective and whether there is a condition in it. -/
theorem shape_of_conditionFragmentNode : ∀ (node : ConditionNode (Condition Query))
    {f : ConditionNode Fragment}, conditionFragmentNode node = .ok f →
      f.link = node.link ∧ f.isVacant = node.isVacant
  | .leaf link condition, f, h => by
    rw [conditionFragmentNode] at h
    obtain ⟨c, _, h⟩ := bind_eq_ok_iff.mp h
    obtain rfl := Except.ok.inj h
    exact ⟨rfl, by rw [ConditionNode.isVacant, ConditionNode.isVacant]⟩
  | .group link children, f, h => by
    rw [conditionFragmentNode] at h
    obtain ⟨fs, hfs, h⟩ := bind_eq_ok_iff.mp h
    obtain rfl := Except.ok.inj h
    rw [ConditionNode.isVacant, ConditionNode.isVacant]
    exact ⟨rfl, isVacant_of_conditionFragments children hfs⟩

/-- Writing nodes keeps whether there is a condition in them. -/
theorem isVacant_of_conditionFragments : ∀ (nodes : List (ConditionNode (Condition Query)))
    {fs : List (ConditionNode Fragment)}, conditionFragments nodes = .ok fs →
      Forest.isVacant fs = Forest.isVacant nodes
  | [], fs, h => by
    rw [conditionFragments] at h
    obtain rfl := Except.ok.inj h
    rw [Forest.isVacant, Forest.isVacant]
  | node :: nodes, fs, h => by
    rw [conditionFragments] at h
    obtain ⟨f, hf, h⟩ := bind_eq_ok_iff.mp h
    obtain ⟨rest, hrest, h⟩ := bind_eq_ok_iff.mp h
    obtain rfl := Except.ok.inj h
    rw [Forest.isVacant, Forest.isVacant, (shape_of_conditionFragmentNode node hf).2,
      isVacant_of_conditionFragments nodes hrest]

end

variable {S : Type}

/-- A node among its siblings. -/
theorem surrounds_siblings (node : S → ConditionNode (Condition Query)) {link : Connective}
    (hlink : ∀ s, (node s).link = link) (hvacant : ∀ s, (node s).isVacant = false) (first : Bool)
    (before after : Forest (Condition Query)) :
    Surrounds (fun s => (conditionFragmentNode (node s)).map ConditionNode.layout) fun s =>
      (conditionFragments (before ++ node s :: after)).map (Forest.layoutFrom first) := by
  have hrender (s : S) (f : ConditionNode Fragment) (hf : conditionFragmentNode (node s) = .ok f)
      (bs as : Forest Fragment) :
      Forest.layoutFrom first (bs ++ f :: as) =
        (fun bs => Forest.layoutFrom first bs ++
          Forest.connective (first && Forest.isVacant bs) link) bs ++ f.layout ++
            Forest.layoutFrom false as := by
    obtain ⟨hflink, hfvacant⟩ := shape_of_conditionFragmentNode (node s) hf
    rw [Forest.layoutFrom_append_cons first bs (hfvacant.trans (hvacant s)), hflink, hlink]
  simp only [conditionFragments_eq_mapM]
  exact surrounds_mapM hrender before after

/-- A condition that compares with a statement. -/
theorem surrounds_condition (link : Connective) (column : String) (operand : Operand)
    (e : S → Query) :
    Surrounds (fun s => (e s).embedded (e s).compile) fun s =>
      (conditionFragmentNode (.leaf link ⟨column, operand, .subQuery (e s)⟩)).map
        ConditionNode.layout := by
  have hwhole (s : S) :
      (conditionFragmentNode (.leaf link ⟨column, operand, .subQuery (e s)⟩)).map
          ConditionNode.layout =
        ((e s).embedded (e s).compile).map (Clause.comparison column operand) := by
    rw [conditionFragmentNode, conditionFragment]
    cases (e s).embedded (e s).compile with
    | error _ => rfl
    | ok f =>
      simp [Bind.bind, Except.bind, Pure.pure, Except.pure, Except.map, ConditionNode.layout]
  simp only [hwhole]
  exact (Surrounds.refl _).map fun f => (Fragment.append_empty _).symm

/-- The conditions of a group in parentheses. -/
theorem surrounds_group (link : Connective) (nodes : S → Forest (Condition Query)) :
    Surrounds (fun s => (conditionFragments (nodes s)).map (Forest.layoutFrom true)) fun s =>
      (conditionFragmentNode (.group link (nodes s))).map ConditionNode.layout := by
  have hwhole (s : S) :
      (conditionFragmentNode (.group link (nodes s))).map ConditionNode.layout =
        ((conditionFragments (nodes s)).map (Forest.layoutFrom true)).map
          Fragment.parenthesized := by
    rw [conditionFragmentNode]
    cases conditionFragments (nodes s) with
    | error _ => rfl
    | ok fs =>
      simp [Bind.bind, Except.bind, Pure.pure, Except.pure, Except.map, ConditionNode.layout]
  simp only [hwhole]
  exact (Surrounds.refl _).map fun f => rfl

/-- Conditions, at any depth, around the statement in a place. -/
theorem surrounds_nodes (place : ConditionHole) (first : Bool) :
    Surrounds (fun s => s.embedded s.compile) fun s =>
      (conditionFragments (place.fill s)).map (Forest.layoutFrom first) := by
  induction place generalizing first with
  | leaf before link column operand after =>
    let node (s : Query) : ConditionNode (Condition Query) :=
      .leaf link ⟨column, operand, .subQuery s⟩
    exact (surrounds_condition link column operand id).trans (surrounds_siblings node
      (fun _ => rfl) (fun _ => by rw [ConditionNode.isVacant]) first before after)
  | group before link inner after ih =>
    let node (s : Query) : ConditionNode (Condition Query) := .group link (inner.fill s)
    have hvacant (s : Query) : (node s).isVacant = false := by
      rw [ConditionNode.isVacant, inner.isVacant_fill]
    exact ((ih true).trans (surrounds_group link fun s => inner.fill s)).trans
      (surrounds_siblings node (fun _ => rfl) hvacant first before after)

/-- The conditions of a statement around the statement in a place. -/
theorem surrounds_conditions (place : ConditionHole) :
    Surrounds (fun s => s.embedded s.compile) fun s =>
      (conditionFragments (place.fill s)).map Clause.conditions := by
  have hwhole (s : Query) : (conditionFragments (place.fill s)).map Clause.conditions =
      ((conditionFragments (place.fill s)).map (Forest.layoutFrom true)).map
        (text " WHERE " ++ ·) := by
    cases hfs : conditionFragments (place.fill s) with
    | error _ => rfl
    | ok fs =>
      have hvacant : Forest.isVacant fs = false :=
        (isVacant_of_conditionFragments _ hfs).trans (place.isVacant_fill s)
      simp [Except.map, Clause.conditions, Forest.layout, hvacant]
  simp only [hwhole]
  exact (surrounds_nodes place true).map fun f => (Fragment.append_empty _).symm

end Query

/-! ## Frames -/

namespace Frame

open Query (columnFragment compile_select compile_insert compile_update compile_delete updateHead
  deleteHead surrounds_columns surrounds_orders surrounds_conditions)

theorem surrounds_projection (outer : Query) (before after : List (Column Query))
    (distinct : Bool) :
    Surrounds (fun s => columnFragment (.subQuery s)) fun s =>
      (fill ⟨outer, .projection before after distinct⟩ s).compile := by
  have hitems := surrounds_columns Clause.projection_append_cons before after
    fun s : Query => .subQuery s
  obtain ⟨_, table, tableAlias, joins, conditions, groupBy, orderBy, limit, offset, name⟩ := outer
  simp only [fill, compile_select]
  exact hitems.concat [_] [_, _, _, _, _]

theorem surrounds_condition (outer : Query) (place : ConditionHole) :
    Surrounds (fun s => s.embedded s.compile) fun s =>
      (fill ⟨outer, .condition place⟩ s).compile := by
  have hnodes := surrounds_conditions place
  obtain ⟨statement, table, tableAlias, joins, conditions, groupBy, orderBy, limit, offset, name⟩ :=
    outer
  rcases statement with _ | ⟨columns, distinct⟩ | ⟨columns, rows, ignore, onDuplicateKey⟩ |
    assignments | _
  case none => exact .error .missingStatement
  case some.select =>
    simp only [fill, compile_select]
    exact hnodes.concat [_, _, _] [_, _, _]
  case some.insert =>
    -- An INSERT refuses conditions, whatever stands in them.
    simp only [fill, compile_insert, place.leaves_fill]
    exact .of_faults (by simp [faultIf]) _
  case some.update =>
    simp only [fill, compile_update]
    exact hnodes.concat [_] [_, _]
  case some.delete =>
    simp only [fill, compile_delete]
    exact hnodes.concat [_] [_, _]

theorem surrounds_groupBy (outer : Query) (before after : List (Column Query)) :
    Surrounds (fun s => columnFragment (.subQuery s)) fun s =>
      (fill ⟨outer, .groupBy before after⟩ s).compile := by
  have hitems := surrounds_columns (Clause.items_append_cons " GROUP BY ") before after
    fun s : Query => .subQuery s
  have hsome (s : Query) : (before ++ .subQuery s :: after).isEmpty = false := by simp
  obtain ⟨statement, table, tableAlias, joins, conditions, groupBy, orderBy, limit, offset, name⟩ :=
    outer
  rcases statement with _ | ⟨columns, distinct⟩ | ⟨columns, rows, ignore, onDuplicateKey⟩ |
    assignments | _
  case none => exact .error .missingStatement
  case some.select =>
    simp only [fill, compile_select]
    exact hitems.concat [_, _, _, _] [_, _]
  -- The other statements refuse a grouping, whatever its items are.
  case some.insert =>
    simp only [fill, compile_insert, hsome]
    exact .of_faults (by simp [faultIf]) _
  case some.update =>
    simp only [fill, compile_update, updateHead, hsome]
    exact .concat_of_faults (by simp [faultIf]) _ _
  case some.delete =>
    simp only [fill, compile_delete, deleteHead, hsome]
    exact .concat_of_faults (by simp [faultIf]) _ _

theorem surrounds_orderBy (outer : Query) (before : List (OrderItem Query)) (direction : Direction)
    (after : List (OrderItem Query)) :
    Surrounds (fun s => columnFragment (.subQuery s)) fun s =>
      (fill ⟨outer, .orderBy before direction after⟩ s).compile := by
  have hitems := surrounds_orders (Clause.items_append_cons " ORDER BY ") before after direction
    fun s : Query => .subQuery s
  have hsome (s : Query) : (before ++ ⟨.subQuery s, direction⟩ :: after).isEmpty = false := by simp
  obtain ⟨statement, table, tableAlias, joins, conditions, groupBy, orderBy, limit, offset, name⟩ :=
    outer
  rcases statement with _ | ⟨columns, distinct⟩ | ⟨columns, rows, ignore, onDuplicateKey⟩ |
    assignments | _
  case none => exact .error .missingStatement
  case some.select =>
    simp only [fill, compile_select]
    exact hitems.concat [_, _, _, _, _] [_]
  case some.insert =>
    simp only [fill, compile_insert, hsome]
    exact .of_faults (by simp [faultIf]) _
  case some.update =>
    simp only [fill, compile_update]
    exact hitems.concat [_, _] [_]
  case some.delete =>
    simp only [fill, compile_delete]
    exact hitems.concat [_, _] [_]

/-- The text of a query is around that of the statement in its open place. -/
theorem surrounds (f : Frame) : Surrounds f.part fun s => (f.fill s).compile := by
  obtain ⟨outer, hole⟩ := f
  cases hole with
  | projection before after distinct => exact surrounds_projection outer before after distinct
  | condition place => exact surrounds_condition outer place
  | groupBy before after => exact surrounds_groupBy outer before after
  | orderBy before direction after => exact surrounds_orderBy outer before direction after

/-- Every statement that a query embeds is in a place of it. -/
theorem exists_fill_of_mem {q e : Query} (h : e ∈ q.subQueries) : ∃ f : Frame, f.fill e = q := by
  obtain ⟨statement, table, tableAlias, joins, ⟨roots, cursor⟩, groupBy, orderBy, limit, offset,
    name⟩ := q
  let outer : Query :=
    ⟨statement, table, tableAlias, joins, ⟨roots, cursor⟩, groupBy, orderBy, limit, offset, name⟩
  rcases Query.mem_subQueries.mp h with ⟨s, hs, he⟩ | hc | hc | ⟨o, ho, he⟩
  · obtain rfl : statement = some s := hs
    cases s with
    | select columns distinct =>
      obtain ⟨before, after, rfl⟩ := Column.exists_place (List.mem_flatMap.mp he)
      exact ⟨⟨outer, .projection before after distinct⟩, rfl⟩
    | insert _ _ _ _ | update _ | delete => simp [Statement.subQueries] at he
  · obtain ⟨place, hplace⟩ := ConditionHole.exists_fill hc
    obtain rfl : roots = place.fill e := hplace.symm
    exact ⟨⟨outer, .condition place⟩, rfl⟩
  · obtain ⟨before, after, rfl⟩ := Column.exists_place hc
    exact ⟨⟨outer, .groupBy before after⟩, rfl⟩
  · obtain ⟨⟨⟩ | e', direction⟩ := o
    · simp [OrderItem.subQueries, Column.subQueries] at he
    · obtain rfl : e = e' := by simpa [OrderItem.subQueries, Column.subQueries] using he
      obtain ⟨before, after, rfl⟩ := List.append_of_mem ho
      exact ⟨⟨outer, .orderBy before direction after⟩, rfl⟩

end Frame

/-! ## Contexts -/

namespace Query

/-- What an embedded statement is written as depends on its kind and on what it is compiled to. -/
theorem embedded_eq (q : Query) (written : Except QueryError Fragment) :
    q.embedded written =
      match q.statement.map Statement.kind with
      | some .select => written.map Fragment.parenthesized
      | some kind => .error (.unsupportedClause "sub-query" kind.name)
      | none => .error .missingStatement := by
  rcases hs : q.statement with _ | _ | _ | _ | _ <;> simp [embedded, unsupported, hs] <;> rfl

end Query

namespace Frame

variable {S : Type}

/-- What a place is written as is around the text of the statement in it, where the kind and the
name of the statement do not vary. -/
theorem surrounds_part (f : Frame) {q : S → Query} {kind : Option StatementKind}
    {name : Option String} (hkind : ∀ s, (q s).statement.map Statement.kind = kind)
    (hname : ∀ s, (q s).name = name) :
    Surrounds (fun s => (q s).compile) fun s => f.part (q s) := by
  have hembedded : Surrounds (fun s => (q s).compile) fun s => (q s).embedded (q s).compile := by
    simp only [Query.embedded_eq, hkind]
    rcases kind with _ | _ | _ | _ | _
    case some.select => exact (Surrounds.refl _).map fun f => rfl
    all_goals exact .error _
  cases hshows : f.showsName with
  | false =>
    simp only [part, hshows]
    exact hembedded
  | true =>
    simp only [part, hshows, Query.columnFragment, hname]
    exact hembedded.map fun g => by rw [Fragment.empty_append]

/-- A SELECT is written in parentheses, with its name where names are shown. -/
theorem part_of_select (f : Frame) {s : Query}
    (hs : s.statement.map Statement.kind = some .select) :
    f.part s = s.compile.map fun own =>
      own.parenthesized ++ text (if f.showsName then Clause.aliasSuffix s.name else "") := by
  have hembedded : s.embedded s.compile = s.compile.map Fragment.parenthesized := by
    rw [Query.embedded_eq, hs]
  cases hshows : f.showsName with
  | false =>
    simp only [part, hshows, hembedded]
    cases s.compile with
    | error e => rfl
    | ok own => exact congrArg Except.ok (Fragment.append_empty _).symm
  | true =>
    simp only [part, hshows, Query.columnFragment, hembedded]
    cases s.compile <;> rfl

theorem kind_fill (f : Frame) (s s' : Query) :
    (f.fill s).statement.map Statement.kind = (f.fill s').statement.map Statement.kind := by
  obtain ⟨outer, _ | _ | _ | _⟩ := f <;> rfl

theorem name_fill (f : Frame) (s : Query) : (f.fill s).name = f.outer.name := by
  obtain ⟨outer, _ | _ | _ | _⟩ := f <;> rfl

end Frame

namespace Context

theorem exists_kind_name (k : Context) : ∃ kind name, ∀ s,
    (k.fill s).statement.map Statement.kind = kind ∧ (k.fill s).name = name := by
  cases k with
  | here f => exact ⟨_, _, fun s => ⟨f.kind_fill s .new, f.name_fill s⟩⟩
  | inside f k => exact ⟨_, _, fun s => ⟨f.kind_fill (k.fill s) .new, f.name_fill (k.fill s)⟩⟩

/-- The text of a query is around that of the statement in its open place, at any depth. -/
theorem surrounds (k : Context) : Surrounds k.innermost.part fun s => (k.fill s).compile := by
  induction k with
  | here f => exact f.surrounds
  | inside f k ih =>
    obtain ⟨kind, name, hk⟩ := k.exists_kind_name
    have hpart := f.surrounds_part (fun s => (hk s).1) fun s => (hk s).2
    exact (ih.trans hpart).trans (f.surrounds.comp fun s => k.fill s)

/-- A query with a SELECT in its open place builds two pieces around what the SELECT builds. -/
theorem build_fill (k : Context) : ∃ before after : Except QueryError Fragment, ∀ s : Query,
    s.statement.map Statement.kind = some .select →
      (k.fill s).build = (do
        let b ← before
        let own ← s.build
        let a ← after
        return ⟨b.sql ++ "(" ++ own.sql ++ ")" ++
            (if k.innermost.showsName then Clause.aliasSuffix s.name else "") ++ a.sql,
          b.args ++ own.args ++ a.args⟩) := by
  obtain ⟨before, after, h⟩ := k.surrounds
  refine ⟨before, after, fun s hs => ?_⟩
  dsimp only at h
  rw [Query.build, Query.build, h, k.innermost.part_of_select hs]
  cases before with
  | error e => rfl
  | ok b =>
    cases s.compile with
    | error e => rfl
    | ok own =>
      cases after with
      | error e => rfl
      | ok a =>
        refine congrArg Except.ok ?_
        simp [BuiltQuery.ofFragment, Fragment.parenthesized, String.append_assoc]

/-- Every statement embedded in a query, at any depth, is in the open place of a context. -/
theorem exists_fill_of_transGen {q e : Query}
    (h : Relation.TransGen (fun outer e => e ∈ outer.subQueries) q e) :
    ∃ k : Context, k.fill e = q := by
  induction h using Relation.TransGen.head_induction_on with
  | single h =>
    obtain ⟨f, hf⟩ := Frame.exists_fill_of_mem h
    exact ⟨.here f, hf⟩
  | head h _ ih =>
    obtain ⟨f, rfl⟩ := Frame.exists_fill_of_mem h
    obtain ⟨k, rfl⟩ := ih
    exact ⟨.inside f k, rfl⟩

end Context

/-- A statement embedded anywhere in a query counts by what it builds. Whatever is embedded is in
the open place of a context; SELECTs that build the same, and have one name where the place shows
names, may be exchanged there; and if the query with a SELECT in the place builds, then the SELECT
builds, and its text in parentheses and its arguments stand between what stands there with every
SELECT. -/
theorem Query.embedded_by_build :
    (∀ q e : Query, Relation.TransGen (fun outer e => e ∈ outer.subQueries) q e →
      ∃ k : Context, k.fill e = q) ∧
    ∀ k : Context,
      (∀ s s' : Query, s.statement.map Statement.kind = some .select →
        s'.statement.map Statement.kind = some .select → s.build = s'.build →
        (k.innermost.showsName → s.name = s'.name) → (k.fill s).build = (k.fill s').build) ∧
      ∃ before after : Fragment, ∀ s : Query, s.statement.map Statement.kind = some .select →
        ∀ b, (k.fill s).build = .ok b → ∃ own, s.build = .ok own ∧
          b.sql = before.sql ++ "(" ++ own.sql ++ ")" ++
            (if k.innermost.showsName then Clause.aliasSuffix s.name else "") ++ after.sql ∧
          b.args = before.args ++ own.args ++ after.args := by
  refine ⟨fun q e h => Context.exists_fill_of_transGen h, fun k => ?_⟩
  obtain ⟨before, after, h⟩ := k.build_fill
  constructor
  · intro s s' hs hs' hbuild hname
    have hshown : (if k.innermost.showsName then Clause.aliasSuffix s.name else "") =
        if k.innermost.showsName then Clause.aliasSuffix s'.name else "" := by
      by_cases hshows : k.innermost.showsName
      · rw [hname hshows]
      · simp [hshows]
    rw [h s hs, h s' hs', hbuild, hshown]
  · refine ⟨before.toOption.getD .empty, after.toOption.getD .empty, fun s hs b hb => ?_⟩
    rw [h s hs] at hb
    obtain ⟨front, hfront, hb⟩ := bind_eq_ok_iff.mp hb
    obtain ⟨own, hown, hb⟩ := bind_eq_ok_iff.mp hb
    obtain ⟨back, hback, hb⟩ := bind_eq_ok_iff.mp hb
    obtain rfl := Except.ok.inj hb
    rw [hfront, hback]
    exact ⟨own, hown, rfl, rfl⟩

/-- Two SELECTs with one text, of which one has an empty group and a name that does not show, in a
group of conditions of an embedded statement. -/
theorem Query.embedded_by_build_in_group :
    let k : Context :=
      .inside ⟨{ table := "orders" }, .projection [] [] false⟩
        (.here ⟨{ statement := some (.select [.expression "id"] false), table := "users" },
          .condition (.group [] .and (.leaf [] .or "id" (.inList false) []) [])⟩)
    let s : Query := (Script.run .new [.call (.select [.expression "id"] false),
      .call (.table "vip"), .call (.equal "age" (.scalar (.int 7)))]).1
    let s' : Query := (Script.run .new [.call (.table "vip"), .group .or [],
      .call (.equal "age" (.scalar (.int 7))), .call (.name "v"),
      .call (.select [.expression "id"] false)]).1
    (k.fill s).build = (k.fill s').build ∧
      (k.fill s).build = .ok
        ⟨"SELECT (SELECT id FROM users WHERE (id IN (SELECT id FROM vip WHERE age = ?))) FROM orders",
          [.int 7]⟩ :=
  ⟨(Query.embedded_by_build.2 _).1 _ _ rfl rfl rfl (by decide), rfl⟩

end BoundSql
