import BoundSql.Proofs.Representation

/-!
# Nothing gets stuck

Some steps of recording and building take for granted what no check in front of them ensures: that
the cursor leads through groups to a group, that there is a group to close, that a range test has
two values, that an INSERT whose values are counted has columns. Where that fails, there would be
no result and no error to report, but a `Panic`. Here these steps are written with the panics that
they could end in. On a reachable query none of them does: every call, every group and every build
gives what it gives without them (`Query.Reachable.settles`, `Query.buildChecked_eq`).

The values of an INSERT are counted and cut as one list here, and the rows come out that were put
in (`Clause.cutRows_flatten`).

## Main definitions

* `Panic`, `Checked` — ways to get stuck, and computations that may.
* `ConditionTree.pushChecked`, `ConditionTree.openGroupChecked`, `ConditionTree.closeGroupChecked` —
  growing a tree step by step along the cursor.
* `Query.performChecked`, `Script.groupChecked`, `Query.buildChecked` — calls, groups and building.
-/

namespace BoundSql

/-- A way to get stuck. -/
inductive Panic where
  /-- A position is behind the end of its list. -/
  | outOfRange
  /-- The cursor leads into a condition. -/
  | cursorInCondition
  /-- A group is closed where none is open. -/
  | noOpenGroup
  /-- A number is divided by zero. -/
  | divisionByZero
  /-- Values are cut into rows without columns. -/
  | emptyRows
  deriving DecidableEq, Repr

/-- A computation that gives a result or an error, or gets stuck. -/
abbrev Checked := ExceptT QueryError (Except Panic)

/-- A computation that does not get stuck. -/
def settled {α : Type} (x : Except QueryError α) : Checked α := ExceptT.mk (.ok x)

/-- A step that gives a result, or gets stuck. -/
def orStuck {α : Type} (x : Except Panic α) : Checked α := ExceptT.lift x

section Settled

variable {α β : Type}

theorem settled_bind (x : Except QueryError α) (k : α → Except QueryError β) :
    (settled x >>= fun a => settled (k a)) = settled (x >>= k) := by
  cases x <;> rfl

theorem pure_eq_settled (a : α) : (pure a : Checked α) = settled (pure a) := rfl

theorem orStuck_ok (a : α) : orStuck (.ok a) = settled (pure a) := rfl

theorem settled_error_bind (e : QueryError) (k : α → Checked β) :
    (settled (.error e) >>= k) = settled (.error e) := rfl

end Settled

/-! ## Following the cursor -/

section Trees

variable {α : Type}

/-- The siblings that a cursor leads to, one position after the other. -/
def Forest.follow : List Nat → Forest α → Except Panic (Forest α)
  | [], nodes => .ok nodes
  | i :: path, nodes =>
    match nodes[i]? with
    | none => .error .outOfRange
    | some (.leaf _ _) => .error .cursorInCondition
    | some (.group _ children) => follow path children

example : Forest.follow [1, 0] [.leaf .and 5, .group .or [.leaf .and 7]] =
    .error .cursorInCondition := rfl

theorem Forest.follow_eq_ok {path : List Nat} {nodes : Forest α} (h : Forest.IsPath path nodes) :
    Forest.follow path nodes = .ok (Forest.childrenAt path nodes) := by
  induction path generalizing nodes with
  | nil => rfl
  | cons i path ih =>
    obtain ⟨link, children, hi, h⟩ := h
    rw [Forest.follow, Forest.childrenAt_cons_of_group hi, hi]
    exact ih h

namespace ConditionTree

/-- Follows the cursor and adds a condition there. -/
def pushChecked (t : ConditionTree α) (link : Connective) (condition : α) :
    Except Panic (ConditionTree α) := do
  let _ ← Forest.follow t.cursor t.roots
  return t.push link condition

/-- Follows the cursor, adds a group there and moves the cursor to the last sibling. -/
def openGroupChecked (t : ConditionTree α) (link : Connective) :
    Except Panic (ConditionTree α) := do
  let siblings ← Forest.follow t.cursor t.roots
  let grown := siblings ++ [.group link []]
  return { roots := Forest.modifyAt (fun _ => grown) t.cursor t.roots
           cursor := t.cursor ++ [grown.length - 1] }

/-- Moves the cursor out of a group. -/
def closeGroupChecked (t : ConditionTree α) : Except Panic (ConditionTree α) :=
  match t.cursor with
  | [] => .error .noOpenGroup
  | _ :: _ => .ok t.closeGroup

variable {t : ConditionTree α}

theorem pushChecked_eq_ok (h : Forest.IsPath t.cursor t.roots) (link : Connective)
    (condition : α) : t.pushChecked link condition = .ok (t.push link condition) := by
  rw [pushChecked, Forest.follow_eq_ok h]
  rfl

theorem openGroupChecked_eq_ok (h : Forest.IsPath t.cursor t.roots) (link : Connective) :
    t.openGroupChecked link = .ok (t.openGroup link) := by
  have hroots : Forest.modifyAt (fun _ => Forest.childrenAt t.cursor t.roots ++ [.group link []])
      t.cursor t.roots = Forest.appendAt t.cursor (.group link []) t.roots :=
    Forest.modifyAt_congr h rfl
  rw [openGroupChecked, Forest.follow_eq_ok h]
  simp [pure, Except.pure, bind, Except.bind, openGroup, hroots]

theorem closeGroupChecked_eq_ok {front : List Nat} {i : Nat} (h : t.cursor = front ++ [i]) :
    t.closeGroupChecked = .ok t.closeGroup := by
  rw [closeGroupChecked, h]
  cases front <;> rfl

end ConditionTree

end Trees

/-! ## Calls and groups -/

namespace Query

/-- Runs a call; one that adds a condition follows the cursor once the condition is checked. -/
def performChecked (q : Query) : Call Query → Except Panic Attempt
  | .condition link column operand comparand =>
    match Condition.make column operand comparand with
    | .error e => .ok ⟨q, .error e⟩
    | .ok condition => do
      let conditions ← q.conditions.pushChecked link condition
      return ⟨{ q with conditions }, .ok ()⟩
  | c => .ok (q.perform c)

/-- Opens a group of conditions. -/
def openGroupChecked (q : Query) (link : Connective) : Except Panic Query := do
  return { q with conditions := ← q.conditions.openGroupChecked link }

/-- Closes the group of conditions opened last. -/
def closeGroupChecked (q : Query) : Except Panic Query := do
  return { q with conditions := ← q.conditions.closeGroupChecked }

end Query

/-- Runs a script in a group, which is opened before and closed after it. -/
def Script.groupChecked (q : Query) (link : Connective) (body : List Step) :
    Except Panic (Query × StepResult) := do
  let run := Script.runGuarded (← q.openGroupChecked link) body
  let result : StepResult :=
    match run.failure with
    | none => .group run.results
    | some e => .failed e
  return (← run.query.closeGroupChecked, result)

theorem Query.performChecked_eq_ok {q : Query}
    (h : Forest.IsPath q.conditions.cursor q.conditions.roots) (c : Call Query) :
    q.performChecked c = .ok (q.perform c) := by
  cases c with
  | condition link column operand comparand =>
    have hperform : q.perform (.condition link column operand comparand) =
        .ofResult q (q.addCondition link column operand comparand) :=
      q.perform_eq_ofResult (by simp)
    rw [addCondition_eq] at hperform
    cases hmake : Condition.make column operand comparand with
    | error e =>
      simp [performChecked, hperform, hmake, bind, Except.bind]
    | ok condition =>
      simp [performChecked, hperform, hmake, bind, Except.bind, pure, Except.pure,
        ConditionTree.pushChecked_eq_ok h]
  | _ => rfl

/-- A group whose script stays on the query is opened and closed. -/
theorem Script.groupChecked_eq_ok {q : Query}
    (h : Forest.IsPath q.conditions.cursor q.conditions.roots) (link : Connective)
    {body : List Step} (hbody : Script.staysInPlace body) :
    Script.groupChecked q link body = .ok (Script.step q (.group link body)) := by
  have hopen : q.openGroupChecked link = .ok (q.openGroup link) := by
    rw [Query.openGroupChecked, ConditionTree.openGroupChecked_eq_ok h]
    rfl
  have hclose : (Script.runGuarded (q.openGroup link) body).query.closeGroupChecked =
      .ok (Script.runGuarded (q.openGroup link) body).query.closeGroup := by
    have hcursor := Script.cursor_runGuarded (q.openGroup link) body hbody
    rw [Query.closeGroupChecked, ConditionTree.closeGroupChecked_eq_ok hcursor]
    rfl
  rw [Script.groupChecked, hopen, Script.step]
  simp only [bind, Except.bind, hclose]
  rfl

/-! ## Building -/

section Mapping

variable {m : Type → Type} [Monad m] {P Q : Type}

mutual

/-- A node with each condition in it turned into something else, in order. -/
def ConditionNode.mapM (f : P → m Q) : ConditionNode P → m (ConditionNode Q)
  | .leaf link condition => do return .leaf link (← f condition)
  | .group link children => do return .group link (← Forest.mapM f children)

/-- Siblings with each condition in them turned into something else, in order. -/
def Forest.mapM (f : P → m Q) : Forest P → m (Forest Q)
  | [] => pure []
  | node :: nodes => do return (← node.mapM f) :: (← Forest.mapM f nodes)

end

end Mapping

/-- A condition whose right side is a list; a range test reads the first two values. -/
def Clause.listConditionChecked (column : String) : Operand → List Value → Except Panic Fragment
  | .inList negated, [] => .ok (.text (emptyListTest negated))
  | .between negated, vs =>
    match vs[0]?, vs[1]? with
    | some low, some high =>
      .ok (comparison column (.between negated) (.value low ++ .text " AND " ++ .value high))
    | _, _ => .error .outOfRange
  | operand, vs => .ok (comparison column operand (row vs))

/-- How many values are left over when rows of the given width are filled. -/
def Clause.leftOver (values width : Nat) : Except Panic Nat :=
  if width = 0 then .error .divisionByZero else .ok (values % width)

/-- The rows of an INSERT, cut from its values by their width. -/
def Clause.cutRows (width : Nat) (values : List Value) : Except Panic (List (List Value)) :=
  if width = 0 then .error .emptyRows else .ok (values.toChunks width)

section Rows

variable {α : Type} {width : Nat}

/-- A row is filled up with the values that come first. -/
theorem toChunks_go_append {row : List α} {filled : Array α}
    (hrow : filled.size + row.length = width) (rest : List α) (rows : Array (List α)) :
    List.toChunks.go width (row ++ rest) filled rows =
      List.toChunks.go width rest (filled ++ row) rows := by
  induction row generalizing filled with
  | nil => simp
  | cons v row ih =>
    rw [List.length_cons] at hrow
    have hfull : (filled.size == width) = false := by simp; omega
    have hpush : (filled.push v).size + row.length = width := by rw [Array.size_push]; omega
    rw [List.cons_append, List.toChunks.go, hfull, if_neg Bool.false_ne_true, ih hpush]
    simp

/-- A full row is put behind the others when a value comes that does not fit in. -/
theorem toChunks_go_flatten (hwidth : width ≠ 0) {rows : List (List α)}
    (hrows : ∀ row ∈ rows, row.length = width) {filled : Array α} (hfilled : filled.size = width)
    (done : Array (List α)) :
    List.toChunks.go width rows.flatten filled done = done.toList ++ filled.toList :: rows := by
  induction rows generalizing filled done with
  | nil => simp [List.toChunks.go]
  | cons row rows ih =>
    rw [List.forall_mem_cons] at hrows
    obtain ⟨hrow, hrows⟩ := hrows
    cases row with
    | nil => exact absurd hrow.symm hwidth
    | cons v row =>
      have hrest : ((Array.mkEmpty width).push v).size + row.length = width := by
        simpa [Nat.add_comm] using hrow
      have hfull : ((Array.mkEmpty width).push v ++ row).size = width := by
        simpa [Nat.add_comm] using hrow
      rw [List.flatten_cons, List.cons_append, List.toChunks.go, hfilled, beq_self_eq_true,
        if_pos rfl, toChunks_go_append hrest, ih hrows hfull]
      simp

theorem toChunks_cons (hwidth : width ≠ 0) (v : α) (vs : List α) :
    (v :: vs).toChunks width = List.toChunks.go width vs #[v] #[] := by
  cases width with
  | zero => exact absurd rfl hwidth
  | succ n =>
    rw [List.toChunks]
    exact Nat.succ_ne_zero n

/-- Rows of one length come out of their values again. -/
theorem toChunks_flatten (hwidth : width ≠ 0) {rows : List (List α)}
    (hrows : ∀ row ∈ rows, row.length = width) : rows.flatten.toChunks width = rows := by
  cases rows with
  | nil => simp [List.toChunks]
  | cons row rows =>
    rw [List.forall_mem_cons] at hrows
    obtain ⟨hrow, hrows⟩ := hrows
    cases row with
    | nil => exact absurd hrow.symm hwidth
    | cons v row =>
      have hrest : #[v].size + row.length = width := by simpa [Nat.add_comm] using hrow
      have hfull : (#[v] ++ row).size = width := by simpa [Nat.add_comm] using hrow
      rw [List.flatten_cons, List.cons_append, toChunks_cons hwidth, toChunks_go_append hrest,
        toChunks_go_flatten hwidth hrows hfull]
      simp

end Rows

/-- Cutting the values of an INSERT by the number of its columns gives back its rows. -/
theorem Clause.cutRows_flatten {width : Nat} (hwidth : width ≠ 0) {rows : List (List Value)}
    (hrows : ∀ row ∈ rows, row.length = width) : cutRows width rows.flatten = .ok rows := by
  rw [cutRows, if_neg hwidth, toChunks_flatten hwidth hrows]

/-- An embedded statement in parentheses. -/
def Query.embeddedChecked : Query × Checked Fragment → Checked Fragment
  | (e, written) =>
    match e.statement with
    | some (.select _ _) => do return (← written).parenthesized
    | _ => throw (e.unsupported "sub-query")

/-- An item. -/
def Column.compileChecked : Column (Query × Checked Fragment) → Checked Fragment
  | .expression sql => return .text sql
  | .subQuery e => do
    return (← Query.embeddedChecked e) ++ .text (Clause.aliasSuffix e.1.name)

/-- An item to order by. -/
def OrderItem.compileChecked (o : OrderItem (Query × Checked Fragment)) : Checked Fragment := do
  return (← o.column.compileChecked) ++ .text (" " ++ o.direction.sql)

/-- A condition. -/
def Condition.compileChecked : Condition (Query × Checked Fragment) → Checked Fragment
  | ⟨column, operand, .scalar v⟩ => return Clause.comparison column operand (.value v)
  | ⟨column, operand, .list vs⟩ => orStuck (Clause.listConditionChecked column operand vs)
  | ⟨column, operand, .literal sql⟩ => return Clause.comparison column operand (.text sql)
  | ⟨column, operand, .subQuery e⟩ => do
    return Clause.comparison column operand (← Query.embeddedChecked e)

/-- The text of a query from those of the queries embedded in it. -/
def Outline.compileChecked (o : Outline (Query × Checked Fragment)) : Checked Fragment :=
  match o.statement with
  | none => throw .missingStatement
  | some (.select columns distinct) => do
    let projection ← columns.mapM Column.compileChecked
    let target ← settled (Clause.target .select o.table o.tableAlias)
    let conditions ← Forest.mapM Condition.compileChecked o.conditions.roots
    let groups ← o.groupBy.mapM Column.compileChecked
    let orders ← o.orderBy.mapM OrderItem.compileChecked
    return Statement.selectFragment distinct projection target o.joins conditions groups orders
      o.limit o.offset
  | some (.insert columns rows ignore onDuplicateKey) => do
    let name ← settled (Clause.table .insert o.table)
    let values := rows.flatten
    settled (refuseIf (columns.isEmpty || values.isEmpty) .emptyInsertData)
    let rest ← orStuck (Clause.leftOver values.length columns.length)
    settled (refuseIf (rest != 0) (.rowArityMismatch values.length columns.length))
    settled (refuseIf (!o.joins.isEmpty) (.unsupportedClause "JOIN" "INSERT"))
    settled (refuseIf (!Forest.isVacant o.conditions.roots) (.unsupportedClause "WHERE" "INSERT"))
    settled (refuseIf (!o.groupBy.isEmpty) (.unsupportedClause "GROUP BY" "INSERT"))
    settled (refuseIf (!o.orderBy.isEmpty) (.unsupportedClause "ORDER BY" "INSERT"))
    let rows ← orStuck (Clause.cutRows columns.length values)
    return Statement.insertFragment ignore name columns rows onDuplicateKey
  | some (.update assignments) => do
    let target ← settled (Clause.target .update o.table o.tableAlias)
    settled (refuseIf assignments.isEmpty .emptyUpdateColumns)
    settled (refuseIf (!o.joins.isEmpty) (.unsupportedClause "JOIN" "UPDATE"))
    settled (refuseIf (!o.groupBy.isEmpty) (.unsupportedClause "GROUP BY" "UPDATE"))
    let conditions ← Forest.mapM Condition.compileChecked o.conditions.roots
    let orders ← o.orderBy.mapM OrderItem.compileChecked
    return Statement.updateFragment target assignments conditions orders o.limit
  | some .delete => do
    let target ← settled (Clause.target .delete o.table o.tableAlias)
    settled (refuseIf (!o.joins.isEmpty) (.unsupportedClause "JOIN" "DELETE"))
    settled (refuseIf (!o.groupBy.isEmpty) (.unsupportedClause "GROUP BY" "DELETE"))
    let conditions ← Forest.mapM Condition.compileChecked o.conditions.roots
    let orders ← o.orderBy.mapM OrderItem.compileChecked
    return Statement.deleteFragment target conditions orders o.limit

namespace Query

/-- The text of a query with the values it binds. -/
def compileChecked : Query → Checked Fragment := Query.fold Outline.compileChecked

/-- The finished statement. -/
def buildChecked (q : Query) : Checked BuiltQuery := do
  return .ofFragment (← q.compileChecked)

/-- An embedded query beside its text. -/
abbrev withChecked : Query → Query × Checked Fragment := withFold Outline.compileChecked

theorem compileChecked_eq (q : Query) :
    q.compileChecked = (q.outline.map withChecked).compileChecked := fold_eq _ q

/-- Compiling the query does not get stuck and gives what it gives otherwise. -/
def Settles (q : Query) : Prop := q.compileChecked = settled q.compile

theorem embeddedChecked_eq {e : Query} (h : e.Settles) :
    embeddedChecked (withChecked e) = settled (e.embedded e.compile) := by
  have hwritten : withChecked e = (e, settled e.compile) := congrArg (e, ·) h
  rw [hwritten, embeddedChecked, embedded]
  rcases e.statement with _ | ⟨columns, distinct⟩ | _ | _ | _
  · rfl
  · cases e.compile <;> rfl
  · rfl
  · rfl
  · rfl

theorem compileChecked_column {c : Column Query} (h : ∀ e ∈ c.subQueries, e.Settles) :
    (c.map withChecked).compileChecked = settled (columnFragment c) := by
  cases c with
  | expression sql => rw [columnFragment]; rfl
  | subQuery e =>
    rw [columnFragment, Column.map, Column.compileChecked,
      embeddedChecked_eq (h e (by simp [Column.subQueries]))]
    simp only [pure_eq_settled, settled_bind]
    rfl

theorem mapM_columns {cs : List (Column Query)}
    (h : ∀ e ∈ cs.flatMap Column.subQueries, e.Settles) :
    (cs.map (Column.map withChecked)).mapM Column.compileChecked =
      settled (columnFragments cs) := by
  induction cs with
  | nil => rw [columnFragments]; rfl
  | cons c cs ih =>
    rw [List.flatMap_cons, List.forall_mem_append] at h
    rw [List.map_cons, List.mapM_cons, compileChecked_column h.1, ih h.2, columnFragments]
    simp only [pure_eq_settled, settled_bind]

theorem mapM_orders {os : List (OrderItem Query)}
    (h : ∀ e ∈ os.flatMap OrderItem.subQueries, e.Settles) :
    (os.map (OrderItem.map withChecked)).mapM OrderItem.compileChecked =
      settled (orderFragments os) := by
  induction os with
  | nil => rw [orderFragments]; rfl
  | cons o os ih =>
    rw [List.flatMap_cons, List.forall_mem_append] at h
    obtain ⟨c, direction⟩ := o
    rw [List.map_cons, List.mapM_cons, ih h.2, orderFragments, OrderItem.compileChecked,
      OrderItem.map, compileChecked_column h.1]
    simp only [pure_eq_settled, settled_bind, bind_assoc, pure_bind]

theorem listConditionChecked_eq {column : String} {operand : Operand} {vs : List Value}
    (h : operand.Takes (.list vs : Comparand Query)) :
    Clause.listConditionChecked column operand vs =
      .ok (Clause.listCondition column operand vs) := by
  cases operand with
  | inList negated => cases vs <;> rfl
  | between negated =>
    obtain ⟨low, high, h⟩ := h
    obtain rfl := Comparand.list.inj h
    rfl
  | symbol _ | like _ | regexp _ | is _ | quantified _ _ => rfl

theorem compileChecked_condition {c : Condition Query} (hc : c.WellFormed)
    (h : ∀ e ∈ c.subQueries, e.Settles) :
    (c.map withChecked).compileChecked = settled (conditionFragment c) := by
  obtain ⟨column, operand, comparand⟩ := c
  cases comparand with
  | list vs =>
    rw [conditionFragment, Condition.map, Comparand.map, Condition.compileChecked,
      listConditionChecked_eq hc.comparand]
    rfl
  | subQuery e =>
    rw [conditionFragment, Condition.map, Comparand.map, Condition.compileChecked,
      embeddedChecked_eq (h e (by simp [Condition.subQueries, Comparand.subQueries]))]
    simp only [pure_eq_settled, settled_bind]
  | scalar _ | literal _ => rw [conditionFragment]; rfl

theorem mapM_conditions {nodes : Forest (Condition Query)}
    (hwell : ∀ c ∈ Forest.leaves nodes, c.WellFormed)
    (h : ∀ e ∈ (Forest.leaves nodes).flatMap Condition.subQueries, e.Settles) :
    Forest.mapM Condition.compileChecked (Forest.map (Condition.map withChecked) nodes) =
      settled (conditionFragments nodes) := by
  induction nodes using Forest.induction with
  | nil => rw [conditionFragments]; rfl
  | leaf link condition nodes ih =>
    rw [Forest.leaves_leaf_cons, List.forall_mem_cons] at hwell
    rw [Forest.leaves_leaf_cons, List.flatMap_cons, List.forall_mem_append] at h
    rw [Forest.map_leaf_cons, Forest.mapM, ConditionNode.mapM,
      compileChecked_condition hwell.1 h.1, ih hwell.2 h.2, conditionFragments,
      conditionFragmentNode]
    simp only [pure_eq_settled, settled_bind]
  | group link children nodes ihc ihn =>
    rw [Forest.leaves_group_cons, List.forall_mem_append] at hwell
    rw [Forest.leaves_group_cons, List.flatMap_append, List.forall_mem_append] at h
    rw [Forest.map_group_cons, Forest.mapM, ConditionNode.mapM, ihc hwell.1 h.1,
      ihn hwell.2 h.2, conditionFragments, conditionFragmentNode]
    simp only [pure_eq_settled, settled_bind]

/-- The checks of an INSERT stop at missing columns before anything is divided by their number. -/
theorem compileChecked_insert {columns : List String} {rows : List (List Value)}
    (hrows : ∀ row ∈ rows, row.length = columns.length) (ignore : Bool)
    (onDuplicateKey : List Assignment) (table tableAlias : Option String) (joins : List Join)
    (conditions : ConditionTree (Condition Query)) (groupBy : List (Column Query))
    (orderBy : List (OrderItem Query)) (limit offset : Option UInt64) (name : Option String) :
    Settles ⟨some (.insert columns rows ignore onDuplicateKey), table, tableAlias, joins,
      conditions, groupBy, orderBy, limit, offset, name⟩ := by
  rw [Settles, compileChecked_eq, compile]
  simp only [Outline.compileChecked, outline_map, Option.map_some, Statement.map, List.isEmpty_map,
    Forest.isVacant_map]
  cases columns with
  | nil =>
    simp only [List.isEmpty_nil, Bool.true_or, refuseIf, if_pos, settled_error_bind]
    exact settled_bind _ fun _ => .error .emptyInsertData
  | cons column columns =>
    have hwidth : (column :: columns).length ≠ 0 := Nat.succ_ne_zero _
    simp only [Clause.leftOver, Clause.cutRows_flatten hwidth hrows, if_neg hwidth, orStuck_ok,
      pure_eq_settled, settled_bind, pure_bind]

/-- Compiling a reachable query does not get stuck. -/
theorem Reachable.settles {q : Query} (hq : q.Reachable) : q.Settles := by
  induction q using Query.induction with
  | step q ih =>
    have hwell := hq.wellFormed
    have hrows := hq.rowsFit
    replace ih : ∀ e ∈ q.subQueries, e.Settles := fun e he => ih e he (hq.of_mem_subQueries e he)
    clear hq
    obtain ⟨statement, table, tableAlias, joins, ⟨roots, cursor⟩, groupBy, orderBy, limit, offset,
      name⟩ := q
    simp only [subQueries, Outline.subQueries, outline, List.forall_mem_append] at ih
    obtain ⟨⟨⟨ihs, ihc⟩, ihg⟩, iho⟩ := ih
    have hc := mapM_conditions hwell.conditions ihc
    have ho := mapM_orders iho
    rcases statement with _ | ⟨columns, distinct⟩ | ⟨columns, rows, ignore, onDuplicateKey⟩ | _ | _
    · rw [Settles, compileChecked_eq, compile]
      rfl
    · rw [Settles, compileChecked_eq, compile]
      simp only [Outline.compileChecked, outline_map, Option.map_some, Statement.map,
        mapM_columns ihs, hc, mapM_columns ihg, ho, pure_eq_settled, settled_bind]
    · exact compileChecked_insert (hrows columns rows ignore onDuplicateKey rfl) ..
    · rw [Settles, compileChecked_eq, compile]
      simp only [Outline.compileChecked, outline_map, Option.map_some, Statement.map,
        List.isEmpty_map, hc, ho, pure_eq_settled, settled_bind]
    · rw [Settles, compileChecked_eq, compile]
      simp only [Outline.compileChecked, outline_map, Option.map_some, Statement.map,
        List.isEmpty_map, hc, ho, pure_eq_settled, settled_bind]

theorem buildChecked_eq {q : Query} (hq : q.Reachable) : q.buildChecked = settled q.build := by
  have hcompile : q.compileChecked = settled q.compile := hq.settles
  rw [buildChecked, hcompile, build]
  cases q.compile <;> rfl

/-- A reachable query, whatever groups are open in it, is well-formed, and so is everything that is
embedded in it, for that is reachable as well. Hence no call, no group and no build gets stuck. -/
theorem wellFormed_and_never_stuck {q : Query} (hq : q.Reachable) :
    q.WellFormed ∧ (∀ e ∈ q.subQueries, e.Reachable) ∧
      (∀ c : Call Query, q.performChecked c = .ok (q.perform c)) ∧
      (∀ (link : Connective) (body : List Step), Script.staysInPlace body →
        Script.groupChecked q link body = .ok (Script.step q (.group link body))) ∧
      q.buildChecked = settled q.build := by
  have hpath := hq.wellFormed.cursor
  exact ⟨hq.wellFormed, hq.of_mem_subQueries, performChecked_eq_ok hpath,
    fun link body hbody => Script.groupChecked_eq_ok hpath link hbody, buildChecked_eq hq⟩

/-- With a group open, a range test and an embedded statement in it, another group is opened and
closed, a condition is added, and the statement is built. -/
theorem never_stuck_in_open_group :
    let q := (Script.run (Query.new.openGroup .or)
      [.call (.select [] false), .call (.table "t"),
        .call (.condition .and "a" "between" (.list [.int 1, .null])),
        .call (.condition .or "k" "= any"
          (.subQuery [.call (.select [.expression "k"] false), .call (.table "u")]))]).1
    let body : List Step := [.group .or [.call (.equal "b" (.scalar (.int 2)))], .call .distinct]
    let c : Call Query := .equal "c" (.literal "a")
    q.Reachable ∧ q.conditions.cursor = [0] ∧ Script.staysInPlace body ∧
      Script.groupChecked q .and body = .ok (Script.step q (.group .and body)) ∧
      q.performChecked c = .ok (q.perform c) ∧
      q.buildChecked = settled
        (.ok ⟨"SELECT * FROM t WHERE (a BETWEEN ? AND NULL OR k = ANY (SELECT k FROM u))",
          [.int 1]⟩) := by
  intro q body c
  have hq : q.Reachable := Script.reachable_run (.openGroup .or .new) _
  have hbody : Script.staysInPlace body := by rfl
  obtain ⟨_, _, hcall, hgroup, hbuild⟩ := wellFormed_and_never_stuck hq
  exact ⟨hq, rfl, hbody, hgroup .and body hbody, hcall c, hbuild⟩

end Query

end BoundSql
