import BoundSql.Proofs.Faults
import BoundSql.Proofs.Placeholders

/-!
# Statements with their values written out

`Query.print` writes a query as text only, each value where it stands: NULL as a keyword and any
other value as the caller of `print` renders it. The finished statement, with its arguments filled
in for its placeholders, is this text, provided that the texts of the caller's own
(`Query.rawTexts`) are clean. An unbalanced quote or a question mark in one of them would shift
what the placeholders after it stand for.

## Main definitions

* `Query.print` — a query as text, by recursion over embedded queries.
* `Query.rawTexts` — every text recorded for a query that goes into its statement as it is.
-/

namespace BoundSql

/-! ## Printing -/

/-- Texts with commas between them. -/
def commas (texts : List String) : String := String.intercalate ", " texts

/-- A keyword before texts, unless there are none. -/
def unlessNone (keyword : String) (texts : List String) : String :=
  if texts.isEmpty then "" else keyword ++ commas texts

/-- The name that a table or an item is given. -/
def printAlias : Option String → String
  | none => ""
  | some name => " AS " ++ name

/-- Joined tables, one after the other. -/
def printJoins : List Join → String
  | [] => ""
  | j :: js =>
    " " ++ (j.kind.sql ++ " " ++ j.table ++ " ON " ++ j.left ++ " " ++ j.operand.sql ++ " " ++
      j.right) ++ printJoins js

/-- How many rows, and behind how many others. To skip rows without a limit the greatest number
stands for it. -/
def printWindow (limit offset : Option UInt64) : String :=
  (match limit, offset with
    | some n, _ => " LIMIT " ++ toString n.toNat
    | none, some _ => " LIMIT 18446744073709551615"
    | none, none => "") ++
    match offset with
    | some m => " OFFSET " ++ toString m.toNat
    | none => ""

section Print

variable (render : Value → String)

/-- A value where it stands. -/
def Value.print (v : Value) : String := if v.isNull then "NULL" else render v

/-- Values in parentheses. -/
def Value.printRow (vs : List Value) : String := "(" ++ commas (vs.map (Value.print render)) ++ ")"

/-- An item. -/
def Column.print : Column (Query × String) → String
  | .expression sql => sql
  | .subQuery (e, s) => "(" ++ s ++ ")" ++ printAlias e.name

/-- A condition whose right side is a list; a test for an empty list does not mention its column.
-/
def Condition.printList (column : String) : Operand → List Value → String
  | .inList negated, [] => if negated then "1=1" else "1=0"
  | .between negated, [low, high] =>
    column ++ " " ++ (Operand.between negated).sql ++ " " ++
      (low.print render ++ " AND " ++ high.print render)
  | operand, vs => column ++ " " ++ operand.sql ++ " " ++ Value.printRow render vs

/-- A condition. -/
def Condition.print : Condition (Query × String) → String
  | ⟨column, operand, .scalar v⟩ => column ++ " " ++ operand.sql ++ " " ++ v.print render
  | ⟨column, operand, .list vs⟩ => printList render column operand vs
  | ⟨column, operand, .subQuery (_, s)⟩ => column ++ " " ++ operand.sql ++ " " ++ ("(" ++ s ++ ")")
  | ⟨column, operand, .literal sql⟩ => column ++ " " ++ operand.sql ++ " " ++ sql

/-- Conditions and groups that stand side by side, each behind its connective. -/
def printRest (nodes : List (Connective × String)) : String :=
  String.join (nodes.map fun (link, s) => " " ++ link.sql ++ " " ++ s)

/-- Conditions and groups that stand side by side; the connective of the first does not show. -/
def printNodes : List (Connective × String) → String
  | [] => ""
  | (_, s) :: nodes => s ++ printRest nodes

mutual

/-- A condition, or a group in parentheses; nothing of a group without conditions. -/
def ConditionNode.printed : ConditionNode String → List (Connective × String)
  | .leaf link s => [(link, s)]
  | .group link children =>
    match Forest.printed children with
    | [] => []
    | inner => [(link, "(" ++ printNodes inner ++ ")")]

/-- What stands side by side in a forest. -/
def Forest.printed : Forest String → List (Connective × String)
  | [] => []
  | node :: nodes => node.printed ++ Forest.printed nodes

end

/-- An assignment. -/
def Assignment.print (a : Assignment) : String :=
  a.column ++ " = " ++
    match a.value with
    | .value v => v.print render
    | .raw sql => sql

/-- The conditions of a statement. -/
def printWhere (nodes : Forest String) : String :=
  match Forest.printed nodes with
  | [] => ""
  | pieces => " WHERE " ++ printNodes pieces

/-- An item to order by. -/
def OrderItem.print (o : OrderItem (Query × String)) : String :=
  o.column.print ++ (" " ++ o.direction.sql)

/-- A query from the texts of those embedded in it. -/
def Outline.print (o : Outline (Query × String)) : String :=
  let target := o.table.getD "" ++ printAlias o.tableAlias
  let conditions := printWhere (Forest.map (Condition.print render) o.conditions.roots)
  let orders := unlessNone " ORDER BY " (o.orderBy.map OrderItem.print)
  match o.statement with
  | none => ""
  | some (.select columns distinct) =>
    (if distinct then "SELECT DISTINCT " else "SELECT ") ++
      (if columns.isEmpty then "*" else commas (columns.map Column.print)) ++
      (" FROM " ++ target ++ printJoins o.joins) ++ conditions ++
      unlessNone " GROUP BY " (o.groupBy.map Column.print) ++ orders ++
      printWindow o.limit o.offset
  | some (.insert columns rows ignore onDuplicateKey) =>
    ((if ignore then "INSERT IGNORE INTO " else "INSERT INTO ") ++ o.table.getD "" ++ " (" ++
        commas columns ++ ") VALUES ") ++
      commas (rows.map (Value.printRow render)) ++
      unlessNone " ON DUPLICATE KEY UPDATE " (onDuplicateKey.map (Assignment.print render))
  | some (.update assignments) =>
    ("UPDATE " ++ target ++ " SET ") ++ commas (assignments.map (Assignment.print render)) ++
      (conditions ++ orders ++ printWindow o.limit none)
  | some .delete =>
    ("DELETE FROM " ++ target) ++ (conditions ++ orders ++ printWindow o.limit none)

/-- A query as text, with each value where it stands. -/
def Query.print : Query → String := Query.fold (Outline.print render)

end Print

/-! ## Texts of the caller's own -/

/-- The text of an item: SQL as it is, or what the embedded statement has. -/
def Column.rawTexts : Column (Query × List String) → List String
  | .expression sql => [sql]
  | .subQuery (_, texts) => texts

/-- The texts of a right side. -/
def Comparand.rawTexts : Comparand (Query × List String) → List String
  | .literal sql => [sql]
  | .subQuery (_, texts) => texts
  | .scalar _ | .list _ => []

/-- The texts of a condition. -/
def Condition.rawTexts (c : Condition (Query × List String)) : List String :=
  c.column :: c.comparand.rawTexts

/-- The texts of an assignment. -/
def Assignment.rawTexts (a : Assignment) : List String :=
  a.column ::
    match a.value with
    | .value _ => []
    | .raw sql => [sql]

/-- The texts of a join. -/
def Join.rawTexts (j : Join) : List String := [j.table, j.left, j.right]

/-- The texts that only the kind of the statement has. -/
def Statement.rawTexts : Statement (Query × List String) → List String
  | .select columns _ => columns.flatMap Column.rawTexts
  | .insert columns _ _ onDuplicateKey => columns ++ onDuplicateKey.flatMap Assignment.rawTexts
  | .update assignments => assignments.flatMap Assignment.rawTexts
  | .delete => []

/-- The texts of a query from those of the queries embedded in it. -/
def Outline.rawTexts (o : Outline (Query × List String)) : List String :=
  o.table.toList ++ o.tableAlias.toList ++ o.name.toList ++ o.joins.flatMap Join.rawTexts ++
    (o.statement.map Statement.rawTexts).getD [] ++
    (Forest.leaves o.conditions.roots).flatMap Condition.rawTexts ++
    o.groupBy.flatMap Column.rawTexts ++ o.orderBy.flatMap fun item => item.column.rawTexts

/-- The texts recorded for a query that go into its statement as they are. -/
def Query.rawTexts : Query → List String := Query.fold Outline.rawTexts

/-! ## Texts without values

The printer and the compiler have their own words for what carries no value. -/

namespace Clause

theorem aliasSuffix_eq_print (name : Option String) : aliasSuffix name = printAlias name := by
  cases name <;> rfl

theorem joins_eq_print (js : List Join) : joins js = printJoins js := by
  induction js with
  | nil => rfl
  | cons j js ih =>
    rw [printJoins, ← ih]
    exact String.join_cons ..

theorem window_eq_print (limit offset : Option UInt64) :
    window limit offset = printWindow limit offset := by
  rcases limit with _ | n <;> rcases offset with _ | m
  · rfl
  · have hgreatest : " LIMIT " ++ toString noLimit.toNat = " LIMIT 18446744073709551615" := by
      decide
    exact (congrArg (· ++ " OFFSET " ++ toString m.toNat) hgreatest).trans (String.append_assoc ..)
  · exact (String.append_empty ..).symm
  · exact String.append_assoc ..

end Clause

/-! ## Clean parts of a statement -/

namespace IsClean

theorem operand (o : Operand) : IsClean o.sql := by
  cases o with
  | symbol s => cases s <;> decide
  | like negated | regexp negated | is negated | inList negated | between negated =>
    cases negated <;> decide
  | quantified s q => cases s <;> cases q <;> decide

theorem aliasSuffix {name : Option String} (h : ∀ s ∈ name.toList, IsClean s) :
    IsClean (Clause.aliasSuffix name) := by
  cases name with
  | none => exact empty
  | some s =>
    have hs : IsClean s := h s (by simp)
    exact IsClean.append (by decide) hs

theorem joins {js : List Join} (h : ∀ s ∈ js.flatMap Join.rawTexts, IsClean s) :
    IsClean (Clause.joins js) := by
  refine join fun s hs => ?_
  obtain ⟨j, hj, rfl⟩ := List.mem_map.mp hs
  have hraw : ∀ t ∈ j.rawTexts, IsClean t := fun t ht => h t (List.mem_flatMap.mpr ⟨j, hj, ht⟩)
  simp only [Join.rawTexts, List.forall_mem_cons] at hraw
  obtain ⟨htable, hleft, hright, -⟩ := hraw
  have hkind : IsClean j.kind.sql := by cases j.kind <;> decide
  have hblank : IsClean " " := by decide
  have hon : IsClean " ON " := by decide
  exact hblank.append ((((((((hkind.append hblank).append htable).append hon).append
    hleft).append hblank).append (operand _)).append hblank).append hright)

theorem window (limit offset : Option UInt64) : IsClean (Clause.window limit offset) := by
  have hlimit : IsClean " LIMIT " := by decide
  have hoffset : IsClean " OFFSET " := by decide
  rcases limit with _ | n <;> rcases offset with _ | m
  · exact empty
  · exact ((hlimit.append (natDigits _)).append hoffset).append (natDigits _)
  · exact hlimit.append (natDigits _)
  · exact ((hlimit.append (natDigits _)).append hoffset).append (natDigits _)

end IsClean

/-! ## Fragments and their texts -/

namespace Shows

variable {render : Value → String}

theorem value (v : Value) : Shows render (.value v) (v.print render) := by
  rw [Fragment.value, Value.print]
  split
  · exact text (by decide)
  · refine ⟨?_, (by decide : quotedAfter false "?".toList = false)⟩
    simp [fillIn]

theorem row (vs : List Value) : Shows render (Clause.row vs) (Value.printRow render vs) :=
  (join (by decide) fun v _ => value v).parenthesized

theorem comparison {column s : String} {right : Fragment} (operand : Operand)
    (hcolumn : IsClean column) (h : Shows render right s) :
    Shows render (Clause.comparison column operand right)
      (column ++ " " ++ operand.sql ++ " " ++ s) := by
  have hblank : IsClean " " := by decide
  exact (text (((hcolumn.append hblank).append (IsClean.operand operand)).append hblank)).append h

theorem listCondition {column : String} (operand : Operand) (vs : List Value)
    (hcolumn : IsClean column) :
    Shows render (Clause.listCondition column operand vs)
      (Condition.printList render column operand vs) := by
  unfold Clause.listCondition
  split
  · next negated => exact text (by cases negated <;> decide)
  · next negated low high =>
    exact comparison _ hcolumn (((value low).append (text (by decide))).append (value high))
  · next hin hbetween =>
    rw [Condition.printList]
    · exact comparison operand hcolumn (row vs)
    · exact hin
    · exact hbetween

theorem assignment {a : Assignment} (h : ∀ s ∈ a.rawTexts, IsClean s) :
    Shows render a.fragment (a.print render) := by
  obtain ⟨column, v | sql⟩ := a
  · have hcolumn : IsClean column := h column (by simp [Assignment.rawTexts])
    exact (text (hcolumn.append (by decide))).append (value v)
  · have hcolumn : IsClean column := h column (by simp [Assignment.rawTexts])
    have hsql : IsClean sql := h sql (by simp [Assignment.rawTexts])
    exact (text (hcolumn.append (by decide))).append (text hsql)

theorem assignments {as : List Assignment} (h : ∀ s ∈ as.flatMap Assignment.rawTexts, IsClean s) :
    Shows render (Clause.assignments as) (commas (as.map (Assignment.print render))) :=
  join (by decide) fun a ha => assignment fun s hs => h s (List.mem_flatMap.mpr ⟨a, ha, hs⟩)

/-- The assignments of an INSERT for rows whose key is already there. -/
theorem onDuplicateKey {as : List Assignment}
    (h : ∀ s ∈ as.flatMap Assignment.rawTexts, IsClean s) :
    Shows render
      (if as.isEmpty then .empty else .text " ON DUPLICATE KEY UPDATE " ++ Clause.assignments as)
      (unlessNone " ON DUPLICATE KEY UPDATE " (as.map (Assignment.print render))) := by
  rw [unlessNone, List.isEmpty_map]
  split
  · exact empty
  · exact (text (by decide)).append (assignments h)

/-- Items with commas between them behind a keyword. -/
theorem items {α : Type} {keyword : String} (hkeyword : IsClean keyword) {f : α → Fragment}
    {p : α → String} {l : List α} (h : ∀ a ∈ l, Shows render (f a) (p a)) :
    Shows render (Clause.items keyword (l.map f)) (unlessNone keyword (l.map p)) := by
  rw [Clause.items, unlessNone, List.isEmpty_map, List.isEmpty_map]
  split
  · exact empty
  · exact (text hkeyword).append (join (by decide) h)

/-- The items of a SELECT, or all columns. -/
theorem projection {α : Type} {f : α → Fragment} {p : α → String} {l : List α}
    (h : ∀ a ∈ l, Shows render (f a) (p a)) :
    Shows render (if (l.map f).isEmpty then .text "*" else .join ", " (l.map f))
      (if l.isEmpty then "*" else commas (l.map p)) := by
  rw [List.isEmpty_map]
  split
  · exact text (by decide)
  · exact join (by decide) h

/-! ### Forests -/

/-- Nothing is printed of a vacant forest only. -/
theorem printed_eq_nil_iff (nodes : Forest String) :
    Forest.printed nodes = [] ↔ Forest.isVacant nodes = true := by
  induction nodes using Forest.induction with
  | nil => simp [Forest.printed]
  | leaf link s nodes _ => simp [Forest.printed, ConditionNode.printed]
  | group link children nodes ihc ihn =>
    rw [Forest.isVacant_group_cons, Bool.and_eq_true, ← ihc, ← ihn, Forest.printed,
      ConditionNode.printed, List.append_eq_nil_iff]
    split
    · next hc => simp [hc]
    · next hc => exact and_congr_left' (iff_of_false (by simp) hc)

/-- What `Forest.layoutFrom` writes, printed: the first connective shows unless nothing was written
before. -/
def printFrom (first : Bool) (nodes : List (Connective × String)) : String :=
  if first then printNodes nodes else printRest nodes

theorem connective (first : Bool) (link : Connective) {f : Fragment} {s : String}
    {rest : Fragment} {nodes : List (Connective × String)} (h : Shows render f s)
    (hrest : Shows render rest (printRest nodes)) :
    Shows render (Forest.connective first link ++ f ++ rest)
      (printFrom first ((link, s) :: nodes)) := by
  cases first with
  | true =>
    have hf := (empty.append h).append hrest
    rwa [String.empty_append] at hf
  | false =>
    have hlink : IsClean (" " ++ link.sql ++ " ") := by cases link <;> decide
    rw [printFrom, if_neg Bool.false_ne_true, printRest, List.map_cons, String.join_cons]
    exact ((text hlink).append h).append hrest

theorem layoutFrom {P : Type} {f : P → Fragment} {p : P → String} {nodes : Forest P}
    (first : Bool) (h : ∀ c ∈ Forest.leaves nodes, Shows render (f c) (p c)) :
    Shows render (Forest.layoutFrom first (Forest.map f nodes))
      (printFrom first (Forest.printed (Forest.map p nodes))) := by
  induction nodes using Forest.induction generalizing first with
  | nil =>
    rw [Forest.map_nil, Forest.map_nil, Forest.layoutFrom_nil, Forest.printed]
    cases first <;> exact empty
  | leaf link c nodes ih =>
    rw [Forest.leaves_leaf_cons, List.forall_mem_cons] at h
    rw [Forest.map_leaf_cons, Forest.map_leaf_cons, Forest.layoutFrom_leaf_cons, Forest.printed,
      ConditionNode.printed, List.singleton_append]
    exact connective first link h.1 (ih false h.2)
  | group link children nodes ihc ihn =>
    rw [Forest.leaves_group_cons, List.forall_mem_append] at h
    rw [Forest.map_group_cons, Forest.map_group_cons, Forest.layoutFrom_group_cons,
      Forest.printed, ConditionNode.printed]
    have hv := printed_eq_nil_iff (Forest.map p children)
    rw [Forest.isVacant_map] at hv ⊢
    split
    · next hvac =>
      -- A group without conditions leaves the next node where it was.
      rw [hv.mpr hvac]
      exact ihn first h.2
    · next hvac =>
      have hne : Forest.printed (Forest.map p children) ≠ [] := fun hnil => hvac (hv.mp hnil)
      split
      · next hnil => exact absurd hnil hne
      · exact connective first link (ihc true h.1).parenthesized (ihn false h.2)

/-- Conditions behind `WHERE`. -/
theorem conditions {P : Type} {f : P → Fragment} {p : P → String} {nodes : Forest P}
    (h : ∀ c ∈ Forest.leaves nodes, Shows render (f c) (p c)) :
    Shows render (Clause.conditions (Forest.map f nodes)) (printWhere (Forest.map p nodes)) := by
  have hv := printed_eq_nil_iff (Forest.map p nodes)
  rw [Forest.isVacant_map] at hv
  rw [Clause.conditions, Forest.isVacant_map, printWhere]
  split
  · next hvac =>
    rw [hv.mpr hvac]
    exact empty
  · next hvac =>
    split
    · next hnil => exact absurd (hv.mp hnil) hvac
    · exact (text (by decide)).append (layoutFrom true h)

/-! ### Statements from what their clauses show -/

section Statements

variable {projection groupBy orderBy : List Fragment} {nodes : Forest Fragment}
  {target table p c g o : String}

theorem select (distinct : Bool) {joins : List Join} (limit offset : Option UInt64)
    (hprojection : Shows render
      (if projection.isEmpty then .text "*" else .join ", " projection) p)
    (htarget : IsClean target) (hjoins : ∀ s ∈ joins.flatMap Join.rawTexts, IsClean s)
    (hconditions : Shows render (Clause.conditions nodes) c)
    (hgroupBy : Shows render (Clause.items " GROUP BY " groupBy) g)
    (horderBy : Shows render (Clause.items " ORDER BY " orderBy) o) :
    Shows render
      (Statement.selectFragment distinct projection target joins nodes groupBy orderBy limit offset)
      ((if distinct then "SELECT DISTINCT " else "SELECT ") ++ p ++
        (" FROM " ++ target ++ printJoins joins) ++ c ++ g ++ o ++ printWindow limit offset) := by
  rw [← Clause.joins_eq_print, ← Clause.window_eq_print]
  have hkeyword : IsClean (if distinct then "SELECT DISTINCT " else "SELECT ") := by
    cases distinct <;> decide
  have hfrom : IsClean (" FROM " ++ target ++ Clause.joins joins) :=
    (IsClean.append (by decide) htarget).append (.joins hjoins)
  exact ((((((text hkeyword).append hprojection).append (text hfrom)).append hconditions).append
    hgroupBy).append horderBy).append (text (.window limit offset))

theorem insert (ignore : Bool) {columns : List String} (rows : List (List Value))
    {as : List Assignment} (htable : IsClean table) (hcolumns : ∀ s ∈ columns, IsClean s)
    (has : ∀ s ∈ as.flatMap Assignment.rawTexts, IsClean s) :
    Shows render (Statement.insertFragment ignore table columns rows as)
      (((if ignore then "INSERT IGNORE INTO " else "INSERT INTO ") ++ table ++ " (" ++
          commas columns ++ ") VALUES ") ++
        commas (rows.map (Value.printRow render)) ++
        unlessNone " ON DUPLICATE KEY UPDATE " (as.map (Assignment.print render))) := by
  have hkeyword : IsClean (if ignore then "INSERT IGNORE INTO " else "INSERT INTO ") := by
    cases ignore <;> decide
  have hnames : IsClean (commas columns) := .intercalate (by decide) hcolumns
  have hopen : IsClean " (" := by decide
  have hvalues : IsClean ") VALUES " := by decide
  have hinto := (((hkeyword.append htable).append hopen).append hnames).append hvalues
  have hrows : Shows render (.join ", " (rows.map Clause.row))
      (commas (rows.map (Value.printRow render))) :=
    join (by decide) fun vs _ => row vs
  exact ((text hinto).append hrows).append (onDuplicateKey has)

theorem mutationTail (limit : Option UInt64)
    (hconditions : Shows render (Clause.conditions nodes) c)
    (horderBy : Shows render (Clause.items " ORDER BY " orderBy) o) :
    Shows render (Statement.mutationTail nodes orderBy limit)
      (c ++ o ++ printWindow limit none) := by
  rw [← Clause.window_eq_print]
  exact (hconditions.append horderBy).append (text (.window limit none))

theorem update (limit : Option UInt64) {as : List Assignment} (htarget : IsClean target)
    (has : ∀ s ∈ as.flatMap Assignment.rawTexts, IsClean s)
    (hconditions : Shows render (Clause.conditions nodes) c)
    (horderBy : Shows render (Clause.items " ORDER BY " orderBy) o) :
    Shows render (Statement.updateFragment target as nodes orderBy limit)
      (("UPDATE " ++ target ++ " SET ") ++ commas (as.map (Assignment.print render)) ++
        (c ++ o ++ printWindow limit none)) := by
  have hkeyword : IsClean "UPDATE " := by decide
  have hset : IsClean " SET " := by decide
  have hupdate := (hkeyword.append htarget).append hset
  exact ((text hupdate).append (assignments has)).append (mutationTail limit hconditions horderBy)

theorem delete (limit : Option UInt64) (htarget : IsClean target)
    (hconditions : Shows render (Clause.conditions nodes) c)
    (horderBy : Shows render (Clause.items " ORDER BY " orderBy) o) :
    Shows render (Statement.deleteFragment target nodes orderBy limit)
      (("DELETE FROM " ++ target) ++ (c ++ o ++ printWindow limit none)) := by
  have hkeyword : IsClean "DELETE FROM " := by decide
  exact (text (hkeyword.append htarget)).append (mutationTail limit hconditions horderBy)

end Statements

end Shows

/-! ## Queries -/

namespace Query

/-- An embedded query beside its texts. -/
abbrev withRawTexts : Query → Query × List String := withFold Outline.rawTexts

/-- An embedded query as it is printed. -/
abbrev withPrint (render : Value → String) : Query → Query × String :=
  withFold (Outline.print render)

theorem rawTexts_eq (q : Query) : q.rawTexts = (q.outline.map withRawTexts).rawTexts := fold_eq _ q

theorem print_eq (render : Value → String) (q : Query) :
    q.print render = (q.outline.map (withPrint render)).print render :=
  fold_eq _ q

variable {render : Value → String}

/-- A query whose own texts are clean shows what is printed of it. -/
def ShowsPrint (render : Value → String) (q : Query) : Prop :=
  (∀ s ∈ q.rawTexts, IsClean s) → Shows render q.written (q.print render)

/-- The name of a query with clean texts is clean. -/
theorem clean_name {q : Query} (h : ∀ s ∈ q.rawTexts, IsClean s) :
    ∀ s ∈ q.name.toList, IsClean s := by
  intro s hs
  have hname : s ∈ (q.outline.map withRawTexts).name.toList := hs
  refine h s ?_
  rw [rawTexts_eq]
  simp only [Outline.rawTexts, List.mem_append, hname, true_or, or_true]

theorem shows_column {c : Column Query} (ih : ∀ e ∈ c.subQueries, e.ShowsPrint render)
    (h : ∀ s ∈ (c.map withRawTexts).rawTexts, IsClean s) :
    Shows render (c.map withText).written (c.map (withPrint render)).print := by
  cases c with
  | expression sql => exact .text (h sql (by simp [Column.map, Column.rawTexts]))
  | subQuery e =>
    have he : Shows render e.written (e.print render) := ih e (by simp [Column.subQueries]) h
    have halias := IsClean.aliasSuffix (clean_name h)
    rw [Clause.aliasSuffix_eq_print] at halias
    exact he.parenthesized.append (.text halias)

theorem shows_columns {cs : List (Column Query)}
    (ih : ∀ e ∈ cs.flatMap Column.subQueries, e.ShowsPrint render)
    (h : ∀ s ∈ (cs.map (Column.map withRawTexts)).flatMap Column.rawTexts, IsClean s) :
    ∀ c ∈ cs, Shows render (c.map withText).written (c.map (withPrint render)).print := by
  intro c hc
  refine shows_column (fun e he => ih e (List.mem_flatMap.mpr ⟨c, hc, he⟩)) fun s hs => h s ?_
  exact List.mem_flatMap.mpr ⟨_, List.mem_map_of_mem hc, hs⟩

theorem shows_condition {c : Condition Query} (ih : ∀ e ∈ c.subQueries, e.ShowsPrint render)
    (h : ∀ s ∈ (c.map withRawTexts).rawTexts, IsClean s) :
    Shows render (c.map withText).written ((c.map (withPrint render)).print render) := by
  obtain ⟨column, operand, right⟩ := c
  obtain ⟨hcolumn, h⟩ : IsClean column ∧
      ∀ s ∈ (Comparand.map withRawTexts right).rawTexts, IsClean s := by
    simpa only [Condition.rawTexts, Condition.map, List.forall_mem_cons] using h
  cases right with
  | scalar v => exact .comparison operand hcolumn (.value v)
  | list vs => exact .listCondition operand vs hcolumn
  | subQuery e =>
    have he : Shows render e.written (e.print render) :=
      ih e (by simp [Condition.subQueries, Comparand.subQueries]) h
    exact .comparison operand hcolumn he.parenthesized
  | literal sql =>
    have hsql : IsClean sql := h sql (by simp [Comparand.map, Comparand.rawTexts])
    exact .comparison operand hcolumn (.text hsql)

theorem shows_conditions {nodes : Forest (Condition Query)}
    (ih : ∀ e ∈ (Forest.leaves nodes).flatMap Condition.subQueries, e.ShowsPrint render)
    (h : ∀ s ∈ (Forest.leaves (Forest.map (Condition.map withRawTexts) nodes)).flatMap
      Condition.rawTexts, IsClean s) :
    ∀ c ∈ Forest.leaves nodes,
      Shows render (c.map withText).written ((c.map (withPrint render)).print render) := by
  intro c hc
  refine shows_condition (fun e he => ih e (List.mem_flatMap.mpr ⟨c, hc, he⟩)) fun s hs => h s ?_
  rw [Forest.leaves_map]
  exact List.mem_flatMap.mpr ⟨_, List.mem_map_of_mem hc, hs⟩

theorem shows_orders {os : List (OrderItem Query)}
    (ih : ∀ e ∈ os.flatMap OrderItem.subQueries, e.ShowsPrint render)
    (h : ∀ s ∈ (os.map (OrderItem.map withRawTexts)).flatMap fun item => item.column.rawTexts,
      IsClean s) :
    ∀ o ∈ os, Shows render (o.map withText).written (o.map (withPrint render)).print := by
  intro o ho
  have hc : Shows render (o.column.map withText).written
      (o.column.map (withPrint render)).print := by
    refine shows_column (fun e he => ih e (List.mem_flatMap.mpr ⟨o, ho, he⟩)) fun s hs => h s ?_
    exact List.mem_flatMap.mpr ⟨_, List.mem_map_of_mem ho, hs⟩
  have hdirection : IsClean (" " ++ o.direction.sql) := by
    cases o.direction <;> decide
  exact hc.append (.text hdirection)

theorem showsPrint (q : Query) : q.ShowsPrint render := by
  induction q using Query.induction with
  | step q ih =>
    intro hclean
    rw [rawTexts_eq] at hclean
    rw [written_eq, print_eq]
    obtain ⟨statement, table, tableAlias, joins, ⟨roots, cursor⟩, groupBy, orderBy, limit, offset,
      name⟩ := q
    simp only [subQueries, Outline.subQueries, outline, List.forall_mem_append] at ih
    simp only [Outline.rawTexts, outline_map, List.forall_mem_append] at hclean
    obtain ⟨⟨⟨ihs, ihc⟩, ihg⟩, iho⟩ := ih
    obtain ⟨⟨⟨⟨⟨⟨⟨htable, halias⟩, -⟩, hjoins⟩, hs⟩, hc⟩, hg⟩, ho⟩ := hclean
    have hname : IsClean (table.getD "") := by
      cases table with
      | none => exact .empty
      | some name => exact htable name (by simp)
    have htarget : IsClean (table.getD "" ++ Clause.aliasSuffix tableAlias) :=
      hname.append (.aliasSuffix halias)
    have hwhere := Shows.conditions (shows_conditions ihc hc)
    have hgroupBy : IsClean " GROUP BY " := by decide
    have horderBy : IsClean " ORDER BY " := by decide
    have hgroup := Shows.items hgroupBy (shows_columns ihg hg)
    have horder := Shows.items horderBy (shows_orders iho ho)
    rcases statement with _ | ⟨columns, distinct⟩ | ⟨columns, rows, ignore, onDuplicateKey⟩ |
      assignments | _
    · exact .empty
    · simp only [Outline.written, Outline.print, outline_map, Option.map_some, Statement.map,
        Forest.map_map, List.map_map, List.isEmpty_map]
      exact .select distinct limit offset (.projection (shows_columns ihs hs)) htarget hjoins
        hwhere hgroup horder
    · simp only [Option.map_some, Option.getD_some, Statement.map, Statement.rawTexts,
        List.forall_mem_append] at hs
      exact .insert ignore rows hname hs.1 hs.2
    · simp only [Outline.written, Outline.print, outline_map, Option.map_some, Statement.map,
        Forest.map_map, List.map_map]
      exact .update limit htarget hs hwhere horder
    · simp only [Outline.written, Outline.print, outline_map, Option.map_some, Statement.map,
        Forest.map_map, List.map_map]
      exact .delete limit htarget hwhere horder

/-- With clean texts of its own, a finished statement whose arguments are filled in for its
placeholders is the query with its values written out. There is one argument per placeholder. -/
theorem build_interpolates_to_print (render : Value → String) {q : Query} {b : BuiltQuery}
    (hclean : ∀ s ∈ q.rawTexts, IsClean s) (h : q.build = .ok b) :
    b.interpolate render = some (q.print render) ∧ b.placeholderCount = b.args.length := by
  obtain rfl := eq_ofFragment_written_of_build h
  have hshows : Shows render q.written (q.print render) := showsPrint q hclean
  exact ⟨hshows.interpolate, hshows.placeholderCount⟩

/-- The question mark in a literal stays, and NULL takes no argument. A joined table and an offset
without a limit have their places around the values. -/
theorem build_interpolates_two_of_three :
    let q := (Script.run .new
      [.call (.select [.expression "'?'",
          .subQuery [.call (.select [.expression "n"] false), .call (.table "u"),
            .call (.condition .and "k" "=" (.scalar (.int 1))), .call (.name "x")]] false),
        .call (.table "t"), .call (.join .left "v" "v.k" "<=>" "t.k"),
        .call (.condition .and "a" "in" (.list [.int 2, .null])), .call (.offset 5)]).1
    (∀ s ∈ q.rawTexts, IsClean s) ∧
      q.build.map (·.interpolate fun v => if v = .int 1 then "one" else "two") =
        .ok (some ("SELECT '?', (SELECT n FROM u WHERE k = one) AS x FROM t " ++
          "LEFT JOIN v ON v.k <=> t.k WHERE a IN (two, NULL) " ++
          "LIMIT 18446744073709551615 OFFSET 5")) := by
  intro q
  have hclean : ∀ s ∈ q.rawTexts, IsClean s := by decide
  let render (v : Value) : String := if v = .int 1 then "one" else "two"
  have hprint : q.print render =
      "SELECT '?', (SELECT n FROM u WHERE k = one) AS x FROM t " ++
        "LEFT JOIN v ON v.k <=> t.k WHERE a IN (two, NULL) " ++
        "LIMIT 18446744073709551615 OFFSET 5" := by
    decide +kernel
  obtain ⟨b, hb⟩ : ∃ b, q.build = .ok b := ⟨_, rfl⟩
  have hfilled := (build_interpolates_to_print render hclean hb).1
  rw [hb]
  exact ⟨hclean, congrArg Except.ok (hfilled.trans (congrArg some hprint))⟩

end Query

end BoundSql
