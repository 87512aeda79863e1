import BoundSql.Proofs.Outline
import BoundSql.Proofs.Occurrences
import BoundSql.Proofs.Recording

/-!
# Replacing the values of a query

`Query.replace` replaces every bound value of a query, at any depth, and changes nothing else.
No builder call looks at a bound value: performed on the replaced query with replaced arguments it
does what it did, up to the replacement (`Query.perform_replace`).
-/

namespace BoundSql

variable {ε α β γ δ Q R : Type}

/-! ## Results of steps -/

/-- A step that goes on with what an earlier one made, when both are related by maps. -/
theorem bind_eq_map {x : Except ε α} {x' : Except ε β} {k : α → Except ε γ} {k' : β → Except ε δ}
    {f : α → β} {g : γ → δ} (hx : x' = x.map f) (hk : ∀ a, k' (f a) = (k a).map g) :
    (x' >>= k') = (x >>= k).map g := by
  rw [hx]
  cases x with
  | error e => rfl
  | ok a => exact hk a

/-- A check comes before steps that are related by a map. -/
theorem check_bind_eq_map {x : Except ε α} {k : α → Except ε γ} {k' : α → Except ε δ}
    {g : γ → δ} (hk : ∀ a, k' a = (k a).map g) : (x >>= k') = (x >>= k).map g := by
  cases x with
  | error e => rfl
  | ok a => exact hk a

/-! ## Replacing in the parts of a query -/

def Assignment.replace (ρ : Replacement) (a : Assignment) : Assignment :=
  ⟨a.column, Occurrences.ofSetValue.replace ρ a.value⟩

/-- A right side with its own values replaced. -/
def Comparand.replace (ρ : Replacement) : Comparand Q → Comparand Q
  | .scalar v => .scalar (ρ.value v)
  | .list vs => .list (vs.map ρ.value)
  | .subQuery q => .subQuery q
  | .literal sql => .literal sql

def Condition.replace (ρ : Replacement) (c : Condition Q) : Condition Q :=
  ⟨c.column, c.operand, c.comparand.replace ρ⟩

def Statement.replace (ρ : Replacement) : Statement Q → Statement Q
  | .select columns distinct => .select columns distinct
  | .insert columns rows ignore onDuplicateKey =>
    .insert columns (rows.map (List.map ρ.value)) ignore
      (onDuplicateKey.map (Assignment.replace ρ))
  | .update assignments => .update (assignments.map (Assignment.replace ρ))
  | .delete => .delete

/-- An outline with its own values replaced, those of embedded statements excepted. -/
def Outline.replace (ρ : Replacement) (o : Outline Q) : Outline Q :=
  { o with
    statement := o.statement.map (Statement.replace ρ)
    conditions := o.conditions.map (Condition.replace ρ) }

theorem Condition.replace_map (ρ : Replacement) (f : Q → R) (c : Condition Q) :
    (c.map f).replace ρ = (c.replace ρ).map f := by
  obtain ⟨column, operand, comparand⟩ := c
  cases comparand <;> rfl

theorem Statement.replace_map (ρ : Replacement) (f : Q → R) (s : Statement Q) :
    (s.map f).replace ρ = (s.replace ρ).map f := by
  cases s <;> rfl

theorem Outline.replace_map (ρ : Replacement) (f : Q → R) (o : Outline Q) :
    (o.map f).replace ρ = (o.replace ρ).map f := by
  simp [replace, map, ConditionTree.map, Forest.map_map, Function.comp_def,
    Statement.replace_map, Condition.replace_map]

/-- The query with the given outline. -/
def Outline.toQuery (o : Outline Query) : Query where
  statement := o.statement
  table := o.table
  tableAlias := o.tableAlias
  joins := o.joins
  conditions := o.conditions
  groupBy := o.groupBy
  orderBy := o.orderBy
  limit := o.limit
  offset := o.offset
  name := o.name

@[simp] theorem Outline.outline_toQuery (o : Outline Query) : o.toQuery.outline = o := rfl

/-- A query with all its bound values replaced. -/
def Query.replace (ρ : Replacement) : Query → Query :=
  Query.fold fun o => ((o.map Prod.snd).replace ρ).toQuery

/-- A condition with all values replaced. -/
def Condition.replaceAll (ρ : Replacement) (c : Condition Query) : Condition Query :=
  (c.map (Query.replace ρ)).replace ρ

/-- A right side with all values replaced. -/
def Comparand.replaceAll (ρ : Replacement) (c : Comparand Query) : Comparand Query :=
  (c.map (Query.replace ρ)).replace ρ

/-- A statement with all values replaced. -/
def Statement.replaceAll (ρ : Replacement) (s : Statement Query) : Statement Query :=
  (s.map (Query.replace ρ)).replace ρ

namespace Query

variable (ρ : Replacement)

theorem replace_eq_toQuery (q : Query) :
    q.replace ρ = ((q.outline.map (replace ρ)).replace ρ).toQuery := by
  rw [replace, fold_eq, Outline.map_map]
  rfl

theorem outline_replace (q : Query) :
    (q.replace ρ).outline = (q.outline.map (replace ρ)).replace ρ := by
  rw [replace_eq_toQuery, Outline.outline_toQuery]

/-- Replacing in the parts of a query. -/
theorem replace_eq (q : Query) :
    q.replace ρ =
      { statement := q.statement.map (Statement.replaceAll ρ)
        table := q.table
        tableAlias := q.tableAlias
        joins := q.joins
        conditions := q.conditions.map (Condition.replaceAll ρ)
        groupBy := q.groupBy.map (Column.map (replace ρ))
        orderBy := q.orderBy.map (OrderItem.map (replace ρ))
        limit := q.limit
        offset := q.offset
        name := q.name } := by
  rw [replace_eq_toQuery]
  simp only [Outline.toQuery, Outline.replace, Outline.map, ConditionTree.map, outline,
    Option.map_map, Forest.map_map]
  rfl

theorem replace_new : replace ρ .new = .new := by
  rw [replace_eq]
  rfl

@[simp] theorem statement_replace (q : Query) :
    (q.replace ρ).statement = q.statement.map (Statement.replaceAll ρ) := by
  rw [replace_eq]

theorem replace_withStatement (q : Query) (s : Statement Query) :
    replace ρ { q with statement := some s } =
      { q.replace ρ with statement := some (s.replaceAll ρ) } := by
  rw [replace_eq ρ q, replace_eq, Option.map_some]

@[simp] theorem name_replaceAll (s : Statement Query) : (s.replaceAll ρ).name = s.name := by
  cases s <;> rfl

theorem unsupported_replace (q : Query) (clause : String) :
    (q.replace ρ).unsupported clause = q.unsupported clause := by
  rw [unsupported, unsupported, statement_replace]
  cases q.statement with
  | none => rfl
  | some s => simp only [Option.map_some, name_replaceAll]

/-! ## Builder calls -/

theorem choose_replace (q : Query) (s : Statement Query) :
    (q.replace ρ).choose (s.replaceAll ρ) = (q.choose s).map (replace ρ) := by
  rw [choose_eq, choose_eq, statement_replace]
  cases q.statement with
  | none => exact congrArg Except.ok (replace_withStatement ρ q s).symm
  | some current => simp only [Option.map_some, Except.map, name_replaceAll]

theorem checkColumn_map (f : Query → Query) (c : Column Query) :
    checkColumn (c.map f) = checkColumn c := by
  cases c <;> rfl

theorem checkColumns_map (f : Query → Query) (cs : List (Column Query)) :
    checkColumns (cs.map (Column.map f)) = checkColumns cs := by
  induction cs with
  | nil => rfl
  | cons c cs ih => rw [List.map_cons, checkColumns, checkColumns, checkColumn_map, ih]

theorem select_replace (q : Query) (columns : List (Column Query)) (distinct : Bool) :
    (q.replace ρ).select (columns.map (Column.map (replace ρ))) distinct =
      (q.select columns distinct).map (replace ρ) := by
  rw [select_eq, select_eq, checkColumns_map]
  exact check_bind_eq_map fun _ => choose_replace ρ q (.select columns distinct)

theorem addSelect_replace (q : Query) (column : Column Query) :
    (q.replace ρ).addSelect (column.map (replace ρ)) = (q.addSelect column).map (replace ρ) := by
  rw [addSelect_eq, addSelect_eq, checkColumn_map]
  refine check_bind_eq_map fun _ => ?_
  rw [unsupported_replace, statement_replace]
  rcases q.statement with _ | ⟨columns, distinct⟩ | _ | _ | _
  case some.select =>
    have h := replace_withStatement ρ q (.select (columns ++ [column]) distinct)
    rw [Statement.replaceAll, Statement.map, List.map_append] at h
    exact congrArg Except.ok h.symm
  all_goals rfl

theorem distinct_replace (q : Query) :
    (q.replace ρ).distinct = q.distinct.map (replace ρ) := by
  rw [distinct_eq, distinct_eq, unsupported_replace, statement_replace]
  rcases q.statement with _ | ⟨columns, distinct⟩ | _ | _ | _
  case some.select =>
    exact congrArg Except.ok (replace_withStatement ρ q (.select columns true)).symm
  all_goals rfl

theorem update_replace (q : Query) (name : String) :
    (q.replace ρ).update name = (q.update name).map (replace ρ) := by
  rw [update_eq, update_eq]
  refine bind_eq_map (choose_replace ρ q (.update [])) fun q' => congrArg Except.ok ?_
  rw [replace_eq ρ q', replace_eq]
  rfl

theorem ignore_replace (q : Query) : (q.replace ρ).ignore = q.ignore.map (replace ρ) := by
  rw [ignore_eq, ignore_eq, unsupported_replace, statement_replace]
  rcases q.statement with _ | _ | ⟨columns, rows, ignore, onDuplicateKey⟩ | _ | _
  case some.insert =>
    exact congrArg Except.ok
      (replace_withStatement ρ q (.insert columns rows true onDuplicateKey)).symm
  all_goals rfl

theorem addRow_replace (q : Query) (row : List Value) :
    (q.replace ρ).addRow (row.map ρ.value) = (q.addRow row).map (replace ρ) := by
  rw [addRow_eq, addRow_eq, unsupported_replace, statement_replace]
  rcases q.statement with _ | _ | ⟨columns, rows, ignore, onDuplicateKey⟩ | _ | _
  case some.insert =>
    have h := replace_withStatement ρ q (.insert columns (rows ++ [row]) ignore onDuplicateKey)
    rw [Statement.replaceAll, Statement.map, Statement.replace, List.map_append] at h
    simp only [Option.map_some, Statement.replaceAll, Statement.map, Statement.replace,
      List.length_map]
    split
    · exact congrArg Except.ok h.symm
    · rfl
  all_goals rfl

theorem onDuplicateKey_replace (q : Query) (column : String) (value : SetValue) :
    (q.replace ρ).onDuplicateKey column (Occurrences.ofSetValue.replace ρ value) =
      (q.onDuplicateKey column value).map (replace ρ) := by
  rw [onDuplicateKey_eq, onDuplicateKey_eq]
  refine check_bind_eq_map fun _ => ?_
  rw [unsupported_replace, statement_replace]
  rcases q.statement with _ | _ | ⟨columns, rows, ignore, assignments⟩ | _ | _
  case some.insert =>
    have h := replace_withStatement ρ q
      (.insert columns rows ignore (assignments ++ [⟨column, value⟩]))
    rw [Statement.replaceAll, Statement.map, Statement.replace, List.map_append] at h
    exact congrArg Except.ok h.symm
  all_goals rfl

theorem set_replace (q : Query) (column : String) (value : SetValue) :
    (q.replace ρ).set column (Occurrences.ofSetValue.replace ρ value) =
      (q.set column value).map (replace ρ) := by
  rw [set_eq, set_eq]
  refine check_bind_eq_map fun _ => ?_
  rw [unsupported_replace, statement_replace]
  rcases q.statement with _ | _ | _ | assignments | _
  case some.update =>
    have h := replace_withStatement ρ q (.update (assignments ++ [⟨column, value⟩]))
    rw [Statement.replaceAll, Statement.map, Statement.replace, List.map_append] at h
    exact congrArg Except.ok h.symm
  all_goals rfl

end Query

/-- An attempt with the values of its query replaced. -/
def Attempt.replace (ρ : Replacement) (a : Attempt) : Attempt := ⟨a.query.replace ρ, a.outcome⟩

namespace Query

variable (ρ : Replacement)

theorem setMany_replace (q : Query) (pairs : List (String × Value)) :
    (q.replace ρ).setMany (Occurrences.ofPairs.replace ρ pairs) =
      (q.setMany pairs).replace ρ := by
  induction pairs generalizing q with
  | nil => rfl
  | cons pair pairs ih =>
    have hset : (q.replace ρ).set pair.1 (.value (ρ.value pair.2)) =
        (q.set pair.1 (.value pair.2)).map (replace ρ) := set_replace ρ q pair.1 (.value pair.2)
    have hpairs : Occurrences.ofPairs.replace ρ (pair :: pairs) =
        (pair.1, ρ.value pair.2) :: Occurrences.ofPairs.replace ρ pairs := rfl
    rw [hpairs, setMany_cons, setMany_cons, hset]
    cases q.set pair.1 (.value pair.2) with
    | ok q' => exact ih q'
    | error e => rfl

/-- Whether a right side fits looks at its shape and at the number of its values. -/
theorem mismatch?_replaceAll (operand : Operand) (c : Comparand Query) :
    Condition.mismatch? operand (c.replaceAll ρ) = Condition.mismatch? operand c := by
  cases c with
  | list vs =>
    have hlength : (vs.map ρ.value).length = vs.length := List.length_map ρ.value
    change Condition.mismatch? operand (.list (vs.map ρ.value)) = _
    cases operand with
    | between negated =>
      rcases vs with _ | ⟨_, _ | ⟨_, _ | ⟨_, vs⟩⟩⟩
      · rfl
      · rfl
      · rfl
      · exact congrArg (fun n => some ("requires exactly two values, got " ++ toString n)) hlength
    | symbol _ | like _ | regexp _ | is _ | inList _ | quantified _ _ => rfl
  | scalar _ | subQuery _ | literal _ => cases operand <;> rfl

theorem make_replaceAll (column operand : String) (c : Comparand Query) :
    Condition.make column operand (c.replaceAll ρ) =
      (Condition.make column operand c).map (Condition.replaceAll ρ) := by
  refine check_bind_eq_map fun _ => check_bind_eq_map fun parsed => ?_
  rw [mismatch?_replaceAll]
  split <;> rfl

theorem addCondition_replace (q : Query) (link : Connective) (column operand : String)
    (c : Comparand Query) :
    (q.replace ρ).addCondition link column operand (c.replaceAll ρ) =
      (q.addCondition link column operand c).map (replace ρ) := by
  rw [addCondition_eq, addCondition_eq]
  refine bind_eq_map (make_replaceAll ρ column operand c) fun condition => congrArg Except.ok ?_
  rw [replace_eq ρ q, replace_eq, ConditionTree.map_push]

theorem openGroup_replace (q : Query) (link : Connective) :
    (q.replace ρ).openGroup link = (q.openGroup link).replace ρ := by
  rw [openGroup, openGroup, replace_eq ρ q, replace_eq, ConditionTree.map_openGroup]

theorem closeGroup_replace (q : Query) : (q.replace ρ).closeGroup = q.closeGroup.replace ρ := by
  rw [closeGroup, closeGroup, replace_eq ρ q, replace_eq, ConditionTree.map_closeGroup]

theorem join_replace (q : Query) (kind : JoinKind) (table left operand right : String) :
    (q.replace ρ).join kind table left operand right =
      (q.join kind table left operand right).map (replace ρ) := by
  rw [join_eq, join_eq]
  refine check_bind_eq_map fun _ => check_bind_eq_map fun _ => check_bind_eq_map fun _ =>
    check_bind_eq_map fun parsed => ?_
  split
  · refine congrArg Except.ok ?_
    rw [replace_eq ρ q, replace_eq]
  · rfl

theorem addGroupBy_replace (q : Query) (column : Column Query) :
    (q.replace ρ).addGroupBy (column.map (replace ρ)) = (q.addGroupBy column).map (replace ρ) := by
  rw [addGroupBy_eq, addGroupBy_eq, checkColumn_map]
  refine check_bind_eq_map fun _ => congrArg Except.ok ?_
  rw [replace_eq ρ q, replace_eq, List.map_append]
  rfl

theorem addOrderBy_replace (q : Query) (column : Column Query) (direction : Direction) :
    (q.replace ρ).addOrderBy (column.map (replace ρ)) direction =
      (q.addOrderBy column direction).map (replace ρ) := by
  rw [addOrderBy_eq, addOrderBy_eq, checkColumn_map]
  refine check_bind_eq_map fun _ => congrArg Except.ok ?_
  rw [replace_eq ρ q, replace_eq, List.map_append]
  rfl

end Query

/-! ### Rows of an INSERT -/

namespace RowTable

variable (ρ : Replacement)

def replace (t : RowTable) : RowTable := ⟨t.columns, t.rows.map (List.map ρ.value)⟩

theorem lookup_replace (row : NamedRow) (column : String) :
    List.lookup column (Occurrences.ofPairs.replace ρ row) =
      (List.lookup column row).map ρ.value := by
  induction row with
  | nil => rfl
  | cons pair row ih =>
    obtain ⟨name, value⟩ := pair
    have hrow : Occurrences.ofPairs.replace ρ ((name, value) :: row) =
        (name, ρ.value value) :: Occurrences.ofPairs.replace ρ row := rfl
    rw [hrow, List.lookup_cons, List.lookup_cons]
    cases column == name with
    | true => rfl
    | false => exact ih

theorem map_fst_replace (row : NamedRow) :
    (Occurrences.ofPairs.replace ρ row).map (·.1) = row.map (·.1) :=
  List.map_map

theorem map_snd_replace (row : NamedRow) :
    (Occurrences.ofPairs.replace ρ row).map (·.2) = (row.map (·.2)).map ρ.value := by
  have h : (row.map (·.2)).map ρ.value = row.map fun pair => ρ.value pair.2 := List.map_map
  rw [h]
  exact List.map_map

theorem pick_replace (number : Nat) (row : NamedRow) (columns : List String) :
    pick number (Occurrences.ofPairs.replace ρ row) columns =
      (pick number row columns).map (List.map ρ.value) := by
  induction columns with
  | nil => rfl
  | cons column columns ih =>
    rw [pick, pick, lookup_replace]
    cases row.lookup column with
    | none => rfl
    | some value => exact bind_eq_map ih fun rest => rfl

theorem arrange_replace (columns : List String) (number : Nat) (row : NamedRow) :
    arrange columns number (Occurrences.ofPairs.replace ρ row) =
      (arrange columns number row).map (List.map ρ.value) := by
  have hlength : (Occurrences.ofPairs.replace ρ row).length = row.length := List.length_map _
  rw [arrange, arrange, map_fst_replace, hlength]
  refine check_bind_eq_map fun _ => ?_
  split
  · rfl
  · exact pick_replace ρ number row columns

theorem arrangeAll_replace (columns : List String) (number : Nat) (rows : List NamedRow) :
    arrangeAll columns number (Occurrences.ofPairs.list.replace ρ rows) =
      (arrangeAll columns number rows).map (List.map (List.map ρ.value)) := by
  induction rows generalizing number with
  | nil => rfl
  | cons row rows ih =>
    exact bind_eq_map (arrange_replace ρ columns number row) fun values =>
      bind_eq_map (ih (number + 1)) fun rest => rfl

theorem ofRows_cons {row : NamedRow} (h : row ≠ []) (later : List NamedRow) :
    ofRows (row :: later) = (do
      checkColumns [] (row.map (·.1))
      return ⟨row.map (·.1), row.map (·.2) :: (← arrangeAll (row.map (·.1)) 1 later)⟩) := by
  cases row with
  | nil => exact absurd rfl h
  | cons pair row => rfl

theorem ofRows_replace (rows : List NamedRow) :
    ofRows (Occurrences.ofPairs.list.replace ρ rows) = (ofRows rows).map (replace ρ) := by
  match rows with
  | [] => rfl
  | [] :: _ => rfl
  | (pair :: row) :: later =>
    have hne : Occurrences.ofPairs.replace ρ (pair :: row) ≠ [] := List.cons_ne_nil _ _
    refine (ofRows_cons hne (Occurrences.ofPairs.list.replace ρ later)).trans ?_
    rw [map_fst_replace, map_snd_replace, ofRows_cons (List.cons_ne_nil pair row)]
    exact check_bind_eq_map fun _ =>
      bind_eq_map (arrangeAll_replace ρ _ 1 later) fun rest => rfl

theorem pairsOfFields_replace (fields : List (String × Json)) :
    pairsOfFields (Occurrences.ofCell.second.list.replace ρ fields) =
      (pairsOfFields fields).map (Occurrences.ofPairs.replace ρ) := by
  induction fields with
  | nil => rfl
  | cons field fields ih =>
    obtain ⟨column, data⟩ := field
    exact bind_eq_map (ρ.ofJson_onScalar column data) fun value =>
      bind_eq_map ih fun rest => rfl

theorem rowOfJson_replace (index : Nat) (data : Json) :
    rowOfJson index (Occurrences.ofJsonRow.replace ρ data) =
      (rowOfJson index data).map (Occurrences.ofPairs.replace ρ) := by
  cases data with
  | object fields => exact pairsOfFields_replace ρ fields
  | _ => rfl

theorem rowsOfItems_replace (index : Nat) (items : List Json) :
    rowsOfItems index (Occurrences.ofJsonRow.list.replace ρ items) =
      (rowsOfItems index items).map (Occurrences.ofPairs.list.replace ρ) := by
  induction items generalizing index with
  | nil => rfl
  | cons item items ih =>
    exact bind_eq_map (rowOfJson_replace ρ index item) fun row =>
      bind_eq_map (ih (index + 1)) fun rest => rfl

theorem rowsOfJson_replace (data : Json) :
    rowsOfJson (Occurrences.ofJsonRows.replace ρ data) =
      (rowsOfJson data).map (Occurrences.ofPairs.list.replace ρ) := by
  cases data with
  | array items => exact rowsOfItems_replace ρ 0 items
  | object fields =>
    exact bind_eq_map (rowOfJson_replace ρ 0 (.object fields)) fun row => rfl
  | _ => rfl

theorem ofJson_replace (data : Json) :
    ofJson (Occurrences.ofJsonRows.replace ρ data) = (ofJson data).map (replace ρ) :=
  bind_eq_map (rowsOfJson_replace ρ data) fun rows => ofRows_replace ρ rows

end RowTable

namespace Query

variable (ρ : Replacement)

theorem insertTable_replace (q : Query) (t : RowTable) :
    (q.replace ρ).insertTable (t.replace ρ) = (q.insertTable t).map (replace ρ) :=
  choose_replace ρ q (.insert t.columns t.rows false [])

theorem insertRows_replace (q : Query) (rows : List NamedRow) :
    (q.replace ρ).insertRows (Occurrences.ofPairs.list.replace ρ rows) =
      (q.insertRows rows).map (replace ρ) := by
  rw [insertRows_eq, insertRows_eq]
  exact bind_eq_map (RowTable.ofRows_replace ρ rows) fun t => insertTable_replace ρ q t

theorem insertJson_replace (q : Query) (data : Json) :
    (q.replace ρ).insertJson (Occurrences.ofJsonRows.replace ρ data) =
      (q.insertJson data).map (replace ρ) := by
  rw [insertJson_eq, insertJson_eq]
  exact bind_eq_map (RowTable.ofJson_replace ρ data) fun t => insertTable_replace ρ q t

theorem insertColumns_replace (q : Query) (columns : List String) :
    (q.replace ρ).insertColumns columns = (q.insertColumns columns).map (replace ρ) := by
  rw [insertColumns_eq, insertColumns_eq]
  exact check_bind_eq_map fun _ => insertTable_replace ρ q ⟨columns, []⟩

end Query

/-! ### Calls -/

/-- A call with the values in its arguments replaced. -/
def Call.replace (ρ : Replacement) : Call Query → Call Query
  | .select columns d => .select (columns.map (Column.map (Query.replace ρ))) d
  | .addSelect column => .addSelect (column.map (Query.replace ρ))
  | .condition link column operand c => .condition link column operand (c.replaceAll ρ)
  | .groupBy column => .groupBy (column.map (Query.replace ρ))
  | .orderBy column direction => .orderBy (column.map (Query.replace ρ)) direction
  | .insertRows rows => .insertRows (Occurrences.ofPairs.list.replace ρ rows)
  | .insertJson data => .insertJson (Occurrences.ofJsonRows.replace ρ data)
  | .row values => .row (values.map ρ.value)
  | .onDuplicateKey column value =>
    .onDuplicateKey column (Occurrences.ofSetValue.replace ρ value)
  | .set column value => .set column (Occurrences.ofSetValue.replace ρ value)
  | .setMany pairs => .setMany (Occurrences.ofPairs.replace ρ pairs)
  | other => other

namespace Query

variable (ρ : Replacement)

theorem attempt_replace {q : Query} {r r' : Recording Unit} (hr : r.Atomic) (hr' : r'.Atomic)
    (h : r'.result (q.replace ρ) = (r.result q).map (replace ρ)) :
    r'.attempt (q.replace ρ) = (r.attempt q).replace ρ := by
  rw [hr.attempt_eq, hr'.attempt_eq, h]
  cases r.result q <;> rfl

/-- No call looks at a bound value. -/
theorem perform_replace (q : Query) (c : Call Query) :
    (q.replace ρ).perform (c.replace ρ) = (q.perform c).replace ρ := by
  by_cases hmany : ∃ pairs, c = .setMany pairs
  · obtain ⟨pairs, rfl⟩ := hmany
    exact setMany_replace ρ q pairs
  have hc (pairs) : c ≠ .setMany pairs := fun h => hmany ⟨pairs, h⟩
  have hc' (pairs) : c.replace ρ ≠ .setMany pairs := by
    cases c with
    | setMany pairs => exact absurd rfl (hc pairs)
    | _ => exact nofun
  refine attempt_replace ρ (Recording.atomic_call hc) (Recording.atomic_call hc') ?_
  cases c with
  | select columns distinct => exact select_replace ρ q columns distinct
  | addSelect column => exact addSelect_replace ρ q column
  | distinct => exact distinct_replace ρ q
  | delete => exact choose_replace ρ q .delete
  | ignore => exact ignore_replace ρ q
  | condition link column operand c => exact addCondition_replace ρ q link column operand c
  | join kind table left operand right => exact join_replace ρ q kind table left operand right
  | groupBy column => exact addGroupBy_replace ρ q column
  | orderBy column direction => exact addOrderBy_replace ρ q column direction
  | insertRows rows => exact insertRows_replace ρ q rows
  | insertJson data => exact insertJson_replace ρ q data
  | insertColumns columns => exact insertColumns_replace ρ q columns
  | row values => exact addRow_replace ρ q values
  | onDuplicateKey column value => exact onDuplicateKey_replace ρ q column value
  | update table => exact update_replace ρ q table
  | set column value => exact set_replace ρ q column value
  | setMany pairs => exact absurd rfl (hc pairs)
  | table _ | tableAlias _ | name _ | limit _ | offset _ | window _ _ | paginate _ _ =>
    refine congrArg Except.ok ?_
    rw [replace_eq ρ q, replace_eq]
    rfl

end Query

end BoundSql
