import BoundSql.Proofs.Cursor
import BoundSql.Proofs.Reachable

/-!
# What a call can do

There are many builder calls, but only few things that they do to a query: they choose its
statement or go on with it, overwrite a setting, or add something behind what is there.
`Query.Change` lists these things, each with what the checks of the calls ensure, and every call
does one of them or nothing (`Query.change_perform`). What calls keep is proved from this list.

## Main definitions

* `Operand.Takes`, `Condition.WellFormed` — which right sides fit an operand.
* `Statement.names` — the column names of a statement that carry values.
* `Statement.Change`, `Query.Change` — what a call can do to a statement and to a query.
* `Query.RowsFit` — every row of an INSERT has one value per column, as in every reachable query.
-/

namespace BoundSql

variable {Q : Type}

/-! ## Checked names -/

namespace ColumnName

/-- The text is a column name. -/
def IsValid (name : String) : Prop := check name = .ok ()

instance : DecidablePred IsValid := fun name =>
  decidable_of_iff ((check name).isOk = true) <| by
    rw [IsValid]
    cases check name <;> simp [Except.isOk, Except.toBool]

theorem validate_eq_ok_iff {name : String} : validate name = .ok () ↔ IsValid name := by
  rw [validate, IsValid]
  cases check name <;> simp

theorem validateExpression_eq_ok_iff {expression : String} :
    validateExpression expression = .ok () ↔ Text.isBlankText expression = false := by
  rw [validateExpression]
  cases Text.isBlankText expression <;> simp

end ColumnName

open ColumnName (IsValid validate_eq_ok_iff validateExpression_eq_ok_iff)

theorem Query.isValid_of_checkNames {names : List String} (h : checkNames names = .ok ()) :
    ∀ name ∈ names, IsValid name := by
  induction names with
  | nil => simp
  | cons name names ih =>
    obtain ⟨_, hname, h⟩ := bind_eq_ok_iff.mp h
    exact List.forall_mem_cons.mpr ⟨validate_eq_ok_iff.mp hname, ih h⟩

namespace RowTable

theorem length_pick {number : Nat} {row : NamedRow} {columns : List String}
    {values : List Value} (h : pick number row columns = .ok values) :
    values.length = columns.length := by
  induction columns generalizing values with
  | nil =>
    obtain rfl := Except.ok.inj h
    rfl
  | cons column columns ih =>
    rw [pick] at h
    split at h
    · obtain ⟨rest, hr, h⟩ := bind_eq_ok_iff.mp h
      obtain rfl := Except.ok.inj h
      simp [ih hr]
    · cases h

theorem length_arrange {columns : List String} {number : Nat} {row : NamedRow}
    {values : List Value} (h : arrange columns number row = .ok values) :
    values.length = columns.length := by
  obtain ⟨_, _, h⟩ := bind_eq_ok_iff.mp h
  split at h
  · cases h
  · exact length_pick h

theorem length_of_mem_arrangeAll {columns : List String} {number : Nat}
    {rows : List NamedRow} {laid : List (List Value)}
    (h : arrangeAll columns number rows = .ok laid) :
    ∀ values ∈ laid, values.length = columns.length := by
  induction rows generalizing number laid with
  | nil =>
    obtain rfl := Except.ok.inj h
    simp
  | cons row rows ih =>
    obtain ⟨values, hv, h⟩ := bind_eq_ok_iff.mp h
    obtain ⟨rest, hr, h⟩ := bind_eq_ok_iff.mp h
    obtain rfl := Except.ok.inj h
    exact List.forall_mem_cons.mpr ⟨length_arrange hv, ih hr⟩

/-- A table has one value per column in every row. -/
theorem length_of_mem_rows {rows : List NamedRow} {t : RowTable} (h : ofRows rows = .ok t) :
    ∀ values ∈ t.rows, values.length = t.columns.length := by
  match rows, h with
  | (pair :: first) :: later, h =>
    obtain ⟨_, _, h⟩ := bind_eq_ok_iff.mp h
    obtain ⟨rest, hr, h⟩ := bind_eq_ok_iff.mp h
    obtain rfl := Except.ok.inj h
    exact List.forall_mem_cons.mpr ⟨by simp, length_of_mem_arrangeAll hr⟩

theorem isValid_of_checkColumns {seen names : List String}
    (h : checkColumns seen names = .ok ()) : ∀ name ∈ names, IsValid name := by
  induction names generalizing seen with
  | nil => simp
  | cons name names ih =>
    obtain ⟨_, hname, h⟩ := bind_eq_ok_iff.mp h
    dsimp only at h
    split at h
    · cases h
    · exact List.forall_mem_cons.mpr ⟨validate_eq_ok_iff.mp hname, ih h⟩

/-- The columns of a table are names. -/
theorem isValid_of_mem_columns {rows : List NamedRow} {t : RowTable} (h : ofRows rows = .ok t) :
    ∀ name ∈ t.columns, IsValid name := by
  match rows, h with
  | (pair :: first) :: later, h =>
    obtain ⟨_, hcolumns, h⟩ := bind_eq_ok_iff.mp h
    obtain ⟨rest, _, h⟩ := bind_eq_ok_iff.mp h
    obtain rfl := Except.ok.inj h
    exact isValid_of_checkColumns hcolumns

end RowTable

/-! ## Conditions that fit -/

/-- A right side fits an operand: a list or a sub-query for a membership test, two values for a
range test, a sub-query for a comparison with a quantifier, and a scalar or a literal that is not
blank for any other comparison. -/
def Operand.Takes (right : Comparand Q) : Operand → Prop
  | .inList _ => (∃ vs, right = .list vs) ∨ ∃ q, right = .subQuery q
  | .between _ => ∃ low high, right = .list [low, high]
  | .quantified _ _ => ∃ q, right = .subQuery q
  | .symbol _ | .like _ | .regexp _ | .is _ =>
    (∃ v, right = .scalar v) ∨ ∃ sql, right = .literal sql ∧ Text.isBlankText sql = false

/-- The column is not blank and the right side fits the operand. -/
structure Condition.WellFormed (c : Condition Q) : Prop where
  column : Text.isBlankText c.column = false
  comparand : c.operand.Takes c.comparand

namespace Condition

/-- No mismatch is found exactly where the right side fits. -/
theorem mismatch?_eq_none_iff {operand : Operand} {right : Comparand Q} :
    mismatch? operand right = none ↔ operand.Takes right := by
  cases operand with
  | inList negated => cases right <;> simp [mismatch?, Operand.Takes]
  | between negated =>
    cases right with
    | list vs =>
      rcases vs with _ | ⟨low, _ | ⟨high, _ | ⟨v, vs⟩⟩⟩ <;> simp [mismatch?, Operand.Takes]
    | scalar _ | subQuery _ | literal _ => simp [mismatch?, Operand.Takes]
  | quantified symbol quantifier => cases right <;> simp [mismatch?, Operand.Takes]
  | symbol _ | like _ | regexp _ | is _ =>
    cases right with
    | literal sql => cases h : Text.isBlankText sql <;> simp [mismatch?, Operand.Takes, h]
    | scalar _ | list _ | subQuery _ => simp [mismatch?, Operand.Takes]

/-- What a condition is made of is checked and kept. -/
theorem wellFormed_of_make {column operand : String} {right : Comparand Q} {c : Condition Q}
    (h : make column operand right = .ok c) : c.WellFormed ∧ c.comparand = right := by
  obtain ⟨_, hcolumn, h⟩ := bind_eq_ok_iff.mp h
  obtain ⟨parsed, _, h⟩ := bind_eq_ok_iff.mp h
  split at h
  · cases h
  · next hnone =>
    obtain rfl := Except.ok.inj h
    exact ⟨⟨validateExpression_eq_ok_iff.mp hcolumn, mismatch?_eq_none_iff.mp hnone⟩, rfl⟩

end Condition

/-! ## Changes of a statement -/

/-- The column names of a statement that carry values. -/
def Statement.names : Statement Q → List String
  | .insert columns _ _ onDuplicateKey => columns ++ onDuplicateKey.map (·.column)
  | .update assignments => assignments.map (·.column)
  | .select _ _ | .delete => []

/-- What a call can make of a query's statement; new statements embedded in it are among the given
ones. -/
inductive Statement.Change (embedded : List Q) : Option (Statement Q) → Statement Q → Prop
  | select {columns : List (Column Q)} (distinct : Bool) :
    columns.flatMap Column.subQueries ⊆ embedded → Change embedded none (.select columns distinct)
  | delete : Change embedded none .delete
  | update : Change embedded none (.update [])
  | insert {t : RowTable} :
    (∀ name ∈ t.columns, IsValid name) → (∀ row ∈ t.rows, row.length = t.columns.length) →
      Change embedded none (.insert t.columns t.rows false [])
  | addSelect {columns : List (Column Q)} {column : Column Q} (distinct : Bool) :
    column.subQueries ⊆ embedded →
      Change embedded (some (.select columns distinct)) (.select (columns ++ [column]) distinct)
  | distinct (columns : List (Column Q)) (distinct : Bool) :
    Change embedded (some (.select columns distinct)) (.select columns true)
  | row {columns : List String} {row : List Value} (rows : List (List Value)) (ignore : Bool)
      (onDuplicateKey : List Assignment) :
    row.length = columns.length →
      Change embedded (some (.insert columns rows ignore onDuplicateKey))
        (.insert columns (rows ++ [row]) ignore onDuplicateKey)
  | ignore (columns : List String) (rows : List (List Value)) (ignore : Bool)
      (onDuplicateKey : List Assignment) :
    Change embedded (some (.insert columns rows ignore onDuplicateKey))
      (.insert columns rows true onDuplicateKey)
  | onDuplicateKey {a : Assignment} (columns : List String) (rows : List (List Value))
      (ignore : Bool) (onDuplicateKey : List Assignment) :
    IsValid a.column →
      Change embedded (some (.insert columns rows ignore onDuplicateKey))
        (.insert columns rows ignore (onDuplicateKey ++ [a]))
  | set {more : List Assignment} (assignments : List Assignment) :
    (∀ a ∈ more, IsValid a.column) →
      Change embedded (some (.update assignments)) (.update (assignments ++ more))

namespace Query

/-! ## Changes of a query -/

/-- What a call can do to a query; new statements embedded in it are among the given ones. -/
inductive Change (embedded : List Query) (q : Query) : Query → Prop
  | unchanged : Change embedded q q
  | settings (table tableAlias : Option String) (limit offset : Option UInt64)
      (name : Option String) :
    Change embedded q { q with table, tableAlias, limit, offset, name }
  | statement {s : Statement Query} (table : Option String) :
    s.Change embedded q.statement → Change embedded q { q with statement := some s, table }
  | condition {c : Condition Query} (link : Connective) :
    c.WellFormed → c.subQueries ⊆ embedded →
      Change embedded q { q with conditions := q.conditions.push link c }
  | join {j : Join} :
    j.operand.isSymbol = true → Change embedded q { q with joins := q.joins ++ [j] }
  | groupBy {column : Column Query} :
    column.subQueries ⊆ embedded → Change embedded q { q with groupBy := q.groupBy ++ [column] }
  | orderBy {column : Column Query} (direction : Direction) :
    column.subQueries ⊆ embedded →
      Change embedded q { q with orderBy := q.orderBy ++ [⟨column, direction⟩] }

variable {embedded : List Query} {q q' : Query}

theorem Change.choose {s : Statement Query} (h : q.choose s = .ok q')
    (hs : s.Change embedded none) : Change embedded q q' := by
  rw [choose_eq] at h
  split at h
  · cases h
  · next hnone =>
    obtain rfl := Except.ok.inj h
    exact .statement q.table (hnone ▸ hs)

theorem Change.select {columns : List (Column Query)} {distinct : Bool}
    (h : q.select columns distinct = .ok q') : Change (columns.flatMap Column.subQueries) q q' := by
  rw [select_eq] at h
  obtain ⟨_, _, h⟩ := bind_eq_ok_iff.mp h
  exact .choose h (.select distinct (List.Subset.refl _))

theorem Change.addSelect {column : Column Query} (h : q.addSelect column = .ok q') :
    Change column.subQueries q q' := by
  rw [addSelect_eq] at h
  obtain ⟨_, _, h⟩ := bind_eq_ok_iff.mp h
  split at h
  · next columns distinct hs =>
    obtain rfl := Except.ok.inj h
    exact .statement q.table (hs ▸ .addSelect distinct (List.Subset.refl _))
  · cases h

theorem Change.distinct (h : q.distinct = .ok q') : Change embedded q q' := by
  rw [distinct_eq] at h
  split at h
  · next columns distinct hs =>
    obtain rfl := Except.ok.inj h
    exact .statement q.table (hs ▸ .distinct columns distinct)
  · cases h

theorem Change.update {table : String} (h : q.update table = .ok q') : Change embedded q q' := by
  rw [update_eq] at h
  obtain ⟨q'', hchoose, h⟩ := bind_eq_ok_iff.mp h
  obtain rfl := Except.ok.inj h
  rw [choose_eq] at hchoose
  split at hchoose
  · cases hchoose
  · next hnone =>
    obtain rfl := Except.ok.inj hchoose
    exact .statement (some table) (hnone ▸ .update)

theorem Change.insertTable {t : RowTable} (h : q.insertTable t = .ok q')
    (hnames : ∀ name ∈ t.columns, IsValid name)
    (hrows : ∀ row ∈ t.rows, row.length = t.columns.length) : Change embedded q q' :=
  .choose h (.insert hnames hrows)

theorem Change.insertRows {rows : List NamedRow} (h : q.insertRows rows = .ok q') :
    Change embedded q q' := by
  rw [insertRows_eq] at h
  obtain ⟨t, ht, h⟩ := bind_eq_ok_iff.mp h
  exact .insertTable h (RowTable.isValid_of_mem_columns ht) (RowTable.length_of_mem_rows ht)

theorem Change.insertJson {data : Json} (h : q.insertJson data = .ok q') :
    Change embedded q q' := by
  rw [insertJson_eq] at h
  obtain ⟨t, ht, h⟩ := bind_eq_ok_iff.mp h
  obtain ⟨rows, _, ht⟩ := bind_eq_ok_iff.mp ht
  exact .insertTable h (RowTable.isValid_of_mem_columns ht) (RowTable.length_of_mem_rows ht)

theorem Change.insertColumns {columns : List String} (h : q.insertColumns columns = .ok q') :
    Change embedded q q' := by
  rw [insertColumns_eq] at h
  obtain ⟨_, hnames, h⟩ := bind_eq_ok_iff.mp h
  exact .insertTable h (isValid_of_checkNames hnames) (by simp)

theorem Change.addCondition {link : Connective} {column operand : String}
    {right : Comparand Query} (h : q.addCondition link column operand right = .ok q') :
    Change right.subQueries q q' := by
  rw [addCondition_eq] at h
  obtain ⟨c, hc, h⟩ := bind_eq_ok_iff.mp h
  obtain rfl := Except.ok.inj h
  obtain ⟨hwell, rfl⟩ := Condition.wellFormed_of_make hc
  exact .condition link hwell (List.Subset.refl _)

theorem Change.addJoin {kind : JoinKind} {table left operand right : String}
    (h : q.join kind table left operand right = .ok q') : Change embedded q q' := by
  rw [join_eq] at h
  obtain ⟨_, _, h⟩ := bind_eq_ok_iff.mp h
  obtain ⟨_, _, h⟩ := bind_eq_ok_iff.mp h
  obtain ⟨_, _, h⟩ := bind_eq_ok_iff.mp h
  obtain ⟨parsed, _, h⟩ := bind_eq_ok_iff.mp h
  split at h
  · next hsymbol =>
    obtain rfl := Except.ok.inj h
    exact .join hsymbol
  · cases h

theorem Change.addGroupBy {column : Column Query} (h : q.addGroupBy column = .ok q') :
    Change column.subQueries q q' := by
  rw [addGroupBy_eq] at h
  obtain ⟨_, _, h⟩ := bind_eq_ok_iff.mp h
  obtain rfl := Except.ok.inj h
  exact .groupBy (List.Subset.refl _)

theorem Change.addOrderBy {column : Column Query} {direction : Direction}
    (h : q.addOrderBy column direction = .ok q') : Change column.subQueries q q' := by
  rw [addOrderBy_eq] at h
  obtain ⟨_, _, h⟩ := bind_eq_ok_iff.mp h
  obtain rfl := Except.ok.inj h
  exact .orderBy direction (List.Subset.refl _)

theorem Change.addRow {row : List Value} (h : q.addRow row = .ok q') : Change embedded q q' := by
  rw [addRow_eq] at h
  split at h
  · next columns rows ignore onDuplicateKey hs =>
    split at h
    · next hrow =>
      obtain rfl := Except.ok.inj h
      exact .statement q.table (hs ▸ .row rows ignore onDuplicateKey hrow)
    · cases h
  · cases h

theorem Change.ignore (h : q.ignore = .ok q') : Change embedded q q' := by
  rw [ignore_eq] at h
  split at h
  · next columns rows ignore onDuplicateKey hs =>
    obtain rfl := Except.ok.inj h
    exact .statement q.table (hs ▸ .ignore columns rows ignore onDuplicateKey)
  · cases h

theorem Change.onDuplicateKey {column : String} {value : SetValue}
    (h : q.onDuplicateKey column value = .ok q') : Change embedded q q' := by
  rw [onDuplicateKey_eq] at h
  obtain ⟨_, hname, h⟩ := bind_eq_ok_iff.mp h
  split at h
  · next columns rows ignore assignments hs =>
    obtain rfl := Except.ok.inj h
    exact .statement q.table
      (hs ▸ .onDuplicateKey columns rows ignore assignments (validate_eq_ok_iff.mp hname))
  · cases h

/-- An accepted assignment goes behind those of an UPDATE. -/
theorem set_eq_ok {column : String} {value : SetValue} (h : q.set column value = .ok q') :
    IsValid column ∧ ∃ assignments, q.statement = some (.update assignments) ∧
      q' = { q with statement := some (.update (assignments ++ [⟨column, value⟩])) } := by
  rw [set_eq] at h
  obtain ⟨_, hname, h⟩ := bind_eq_ok_iff.mp h
  split at h
  · next assignments hs =>
    obtain rfl := Except.ok.inj h
    exact ⟨validate_eq_ok_iff.mp hname, assignments, hs, rfl⟩
  · cases h

theorem Change.set {column : String} {value : SetValue} (h : q.set column value = .ok q') :
    Change embedded q q' := by
  obtain ⟨hname, assignments, hs, rfl⟩ := set_eq_ok h
  exact .statement q.table (hs ▸ .set assignments (by simpa using hname))

/-- The assignments that are accepted go behind those of an UPDATE, in their order. -/
theorem Change.setMany (pairs : List (String × Value)) :
    Change embedded q (q.setMany pairs).query := by
  -- Each accepted pair is one more at the end of what was added already.
  suffices h : ∀ q' : Query, (q' = q ∨ ∃ assignments more : List Assignment,
      q.statement = some (.update assignments) ∧ (∀ a ∈ more, IsValid a.column) ∧
        q' = { q with statement := some (.update (assignments ++ more)) }) →
      Change embedded q (q'.setMany pairs).query from h q (.inl rfl)
  induction pairs with
  | nil =>
    rintro q' (rfl | ⟨assignments, more, hs, hmore, rfl⟩)
    · exact .unchanged
    · exact .statement q.table (hs ▸ .set assignments hmore)
  | cons pair pairs ih =>
    intro q' hq'
    rw [setMany_cons]
    split
    · next q'' hset =>
      obtain ⟨hname, assignments', hs', rfl⟩ := set_eq_ok hset
      refine ih _ (.inr ?_)
      rcases hq' with rfl | ⟨assignments, more, hs, hmore, rfl⟩
      · exact ⟨assignments', [⟨pair.1, .value pair.2⟩], hs', by simpa using hname, rfl⟩
      · obtain rfl : assignments ++ more = assignments' := by simpa using hs'
        refine ⟨assignments, more ++ [⟨pair.1, .value pair.2⟩], hs, ?_, by simp⟩
        simpa [or_imp, forall_and] using ⟨hmore, hname⟩
    · rcases hq' with rfl | ⟨assignments, more, hs, hmore, rfl⟩
      · exact .unchanged
      · exact .statement q.table (hs ▸ .set assignments hmore)

/-- Every call does one of the listed things or nothing. -/
theorem change_perform (q : Query) (c : Call Query) :
    Change c.subQueries q (q.perform c).query := by
  by_cases hmany : ∃ pairs, c = .setMany pairs
  · obtain ⟨pairs, rfl⟩ := hmany
    exact .setMany pairs
  have hc (pairs) : c ≠ .setMany pairs := fun hc => hmany ⟨pairs, hc⟩
  refine (Recording.atomic_call hc).query_attempt .unchanged fun q' h => ?_
  cases c with
  | select columns distinct => exact .select h
  | addSelect column => exact .addSelect h
  | distinct => exact .distinct h
  | delete => exact .choose h .delete
  | update table => exact .update h
  | condition link column operand comparand => exact .addCondition h
  | join kind table left operand right => exact .addJoin h
  | groupBy column => exact .addGroupBy h
  | orderBy column direction => exact .addOrderBy h
  | insertRows rows => exact .insertRows h
  | insertJson data => exact .insertJson h
  | insertColumns columns => exact .insertColumns h
  | row values => exact .addRow h
  | ignore => exact .ignore h
  | onDuplicateKey column value => exact .onDuplicateKey h
  | set column value => exact .set h
  | setMany pairs => exact absurd rfl (hc pairs)
  | table _ | tableAlias _ | name _ | limit _ | offset _ | window _ _ | paginate _ _ =>
    obtain rfl := Except.ok.inj h
    exact .settings ..

/-! ## Rows of an INSERT -/

/-- Every row of an INSERT has one value per column. -/
def RowsFit (q : Query) : Prop :=
  ∀ columns rows ignore onDuplicateKey,
    q.statement = some (.insert columns rows ignore onDuplicateKey) →
      ∀ row ∈ rows, row.length = columns.length

/-- A statement other than an INSERT has no rows. -/
theorem rowsFit_of_not_insert {q : Query}
    (h : ∀ columns rows ignore onDuplicateKey,
      q.statement ≠ some (.insert columns rows ignore onDuplicateKey)) : q.RowsFit :=
  fun columns rows ignore onDuplicateKey hs => absurd hs (h columns rows ignore onDuplicateKey)

/-- A call keeps the rows of an INSERT whole. -/
theorem Change.rowsFit (h : Change embedded q q') (hq : q.RowsFit) : q'.RowsFit := by
  cases h with
  | @statement s table hs =>
    rintro columns rows ignore onDuplicateKey ⟨⟩
    generalize hold : q.statement = old at hs
    cases hs with
    | insert _ hrows => exact hrows
    | row rows' _ _ hrow =>
      have hfit := hq _ _ _ _ hold
      intro other hother
      rcases List.mem_append.mp hother with hother | hother
      · exact hfit other hother
      · rw [List.mem_singleton.mp hother, hrow]
    | ignore _ _ _ _ | onDuplicateKey _ _ _ _ _ => exact hq _ _ _ _ hold
  | unchanged | settings _ _ _ _ _ | condition _ _ _ | join _ | groupBy _ | orderBy _ _ => exact hq

/-- In a reachable INSERT every row has one value per column. -/
theorem Reachable.rowsFit {q : Query} (hq : q.Reachable) : q.RowsFit := by
  induction hq with
  | new => exact rowsFit_of_not_insert (by simp [Query.new])
  | perform _ _ ih _ => exact (change_perform _ _).rowsFit ih
  | openGroup _ _ ih | closeGroup _ ih => exact ih

/-! ## The tree of conditions -/

/-- No call moves the cursor. -/
theorem Change.cursor_eq (h : Change embedded q q') :
    q'.conditions.cursor = q.conditions.cursor := by
  cases h <;> rfl

@[simp] theorem cursor_perform (q : Query) (c : Call Query) :
    (q.perform c).query.conditions.cursor = q.conditions.cursor :=
  (change_perform q c).cursor_eq

theorem Change.reachable_conditions (h : Change embedded q q') (hq : q.conditions.Reachable) :
    q'.conditions.Reachable := by
  cases h with
  | condition link _ _ => exact hq.push link _
  | unchanged | settings _ _ _ _ _ | statement _ _ | join _ | groupBy _ | orderBy _ _ => exact hq

/-- The tree of a reachable query grew out of an empty one. -/
theorem Reachable.conditions {q : Query} (hq : q.Reachable) : q.conditions.Reachable := by
  induction hq with
  | new => exact .empty
  | perform _ _ ih _ => exact (change_perform _ _).reachable_conditions ih
  | openGroup link _ ih => exact ih.openGroup link
  | closeGroup _ ih => exact ih.closeGroup

end Query

end BoundSql
