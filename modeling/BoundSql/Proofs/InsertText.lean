import BoundSql.Proofs.Unambiguous

/-!
# INSERT statements can be told from their text

The text of an INSERT, with its arguments, determines what it inserts: whether rows that cannot be
inserted are skipped, the columns, every cell of every row, NULL included, and the assignments for
rows whose key is already there, as long as these assign values. Column names stand in the text as
they are, but outside of quotes no name has a comma, a parenthesis or a blank, so the reader sees
where each of them ends; and a cell shows in the text whether it takes an argument.

## Main definitions

* `Source.list` — the reader for items with commas between them.
* `Statement.readInsert` — the reader for a whole INSERT into a given table.
-/

namespace BoundSql

open ColumnName (IsValid)
open Fragment (text)

variable {α Q : Type}

namespace Fragment

theorem text_append (s t : String) : text (s ++ t) = text s ++ text t := rfl

/-- Each item but the first has a separator of two characters before it. -/
theorem length_le_length_join (fs : List Fragment) :
    fs.length ≤ (join ", " fs).sql.length + 1 := by
  induction fs with
  | nil => simp
  | cons f fs ih =>
    cases fs with
    | nil => simp
    | cons g fs =>
      have hcomma : ", ".length = 2 := rfl
      simp only [join, sql_append, sql_text, String.length_append, hcomma, List.length_cons]
        at ih ⊢
      omega

/-- Names with commas between them, written one by one. -/
theorem join_text (names : List String) :
    join ", " (names.map text) = text (String.intercalate ", " names) := by
  induction names with
  | nil => rfl
  | cons name names ih =>
    cases names with
    | nil => rfl
    | cons other names =>
      have hcons : String.intercalate ", " (name :: other :: names) =
          name ++ ", " ++ String.intercalate ", " (other :: names) := by
        simp
      rw [hcons, text_append, text_append, ← ih]
      rfl

end Fragment

namespace Source

/-! ## Lists -/

/-- Reads items with commas between them, of which there is at least one and there are at most as
many as the number says. -/
def separated (item : Source → Option (α × Source)) : Nat → Source → Option (List α × Source)
  | 0, _ => none
  | fuel + 1, s => do
    let (x, s) ← item s
    match s.keyword ", " with
    | some s => do
      let (xs, s) ← separated item fuel s
      return (x :: xs, s)
    | none => return ([x], s)

/-- Reads a list of items with commas between them. A text of so many commas is longer than the
list. -/
def list (item : Source → Option (α × Source)) (s : Source) : Option (List α × Source) :=
  separated item (s.chars.length + 1) s

section List

variable {item : Source → Option (α × Source)} {write : α → Fragment} (Ends : Source → Prop)

/-- Items that are read back before a comma and before what ends the list are read back as a list.
-/
theorem separated_before (hcomma : ∀ s, Ends ((text ", ").before s)) {s : Source} (hs : Ends s)
    (hlast : s.keyword ", " = none) {xs : List α}
    (hitem : ∀ x ∈ xs, ∀ t, Ends t → item ((write x).before t) = some (x, t)) (hne : xs ≠ [])
    {fuel : Nat} (hfuel : xs.length ≤ fuel) :
    separated item fuel ((Fragment.join ", " (xs.map write)).before s) = some (xs, s) := by
  induction xs generalizing fuel with
  | nil => exact absurd rfl hne
  | cons x xs ih =>
    rw [List.forall_mem_cons] at hitem
    rw [List.length_cons] at hfuel
    obtain ⟨fuel, rfl⟩ : ∃ k, fuel = k + 1 := ⟨fuel - 1, by omega⟩
    cases xs with
    | nil =>
      have hread : item ((write x).before s) = some (x, s) := hitem.1 s hs
      simp only [List.map_cons, List.map_nil, Fragment.join, separated, hread, hlast,
        Option.bind_eq_bind, Option.bind_some, Option.pure_def]
    | cons y ys =>
      have hrest := ih hitem.2 (List.cons_ne_nil y ys) (by omega : (y :: ys).length ≤ fuel)
      rw [List.map_cons] at hrest
      simp only [List.map_cons, Fragment.join, Fragment.before_append, separated,
        hitem.1 _ (hcomma _), keyword_text, hrest, Option.bind_eq_bind, Option.bind_some,
        Option.pure_def]

theorem list_before (hcomma : ∀ s, Ends ((text ", ").before s)) {s : Source} (hs : Ends s)
    (hlast : s.keyword ", " = none) {xs : List α}
    (hitem : ∀ x ∈ xs, ∀ t, Ends t → item ((write x).before t) = some (x, t)) (hne : xs ≠ []) :
    ((Fragment.join ", " (xs.map write)).before s).list item = some (xs, s) := by
  refine separated_before Ends hcomma hs hlast hitem hne ?_
  have hlength := Fragment.length_le_length_join (xs.map write)
  rw [List.length_map] at hlength
  simp only [Fragment.before, List.length_append, String.length_toList]
  omega

end List

/-! ## Parts of an INSERT -/

/-- Takes a column name off the front, up to a character that no name has outside of quotes. -/
def column (s : Source) : Option (String × Source) :=
  let (name, rest) := ColumnName.splitAt (fun c => !ColumnName.isUnquoted c) false s.chars
  some (String.ofList name, { s with chars := rest })

/-- The text goes on with a character that no name has outside of quotes. -/
def EndsName (s : Source) : Prop :=
  ∃ mark rest, s.chars = mark :: rest ∧ ColumnName.isUnquoted mark = false

theorem column_before {name : String} (h : IsValid name) {s : Source} (hs : s.EndsName) :
    ((text name).before s).column = some (name, s) := by
  obtain ⟨mark, rest, hchars, hmark⟩ := hs
  have hstop : ∀ c, (!ColumnName.isUnquoted c) = true → ColumnName.isUnquoted c = false := by
    intro c hc
    simpa using hc
  have hstops : (!ColumnName.isUnquoted mark) = true := by simp [hmark]
  have hsplit := ColumnName.splitAt_of_scan hstop (ColumnName.scan_of_isValid h) hstops rest
  rw [← hchars] at hsplit
  rw [column, Fragment.before, Fragment.sql_text]
  simp only [ColumnName.Position.isQuoted] at hsplit
  simp only [hsplit, String.ofList_toList]
  rfl

/-- Reads an assignment of a value. -/
def assignment (s : Source) : Option (Assignment × Source) := do
  let (column, s) ← s.column
  let s ← s.keyword " = "
  let (v, s) ← s.value
  return (⟨column, .value v⟩, s)

theorem assignment_before {a : Assignment} (hcolumn : IsValid a.column)
    (hvalue : ∃ v, a.value = .value v) (s : Source) :
    (a.fragment.before s).assignment = some (a, s) := by
  obtain ⟨column, value⟩ := a
  obtain ⟨v, rfl⟩ : ∃ v, value = .value v := hvalue
  have hends (t : Source) : ((text " = ").before t).EndsName := ⟨' ', _, rfl, rfl⟩
  simp only [Assignment.fragment, SetValue.fragment, Fragment.text_append, Fragment.before_append,
    assignment, column_before hcolumn (hends _), keyword_text, value_before, Option.bind_eq_bind,
    Option.bind_some, Option.pure_def]

/-- Reads how an INSERT starts, which tells whether it skips rows. -/
def insertStart (s : Source) : Option (Bool × Source) :=
  match s.keyword "INSERT IGNORE INTO " with
  | some s => some (true, s)
  | none => (s.keyword "INSERT INTO ").map (false, ·)

@[simp] theorem insertStart_before (ignore : Bool) (s : Source) :
    ((text (if ignore then "INSERT IGNORE INTO " else "INSERT INTO ")).before s).insertStart =
      some (ignore, s) := by
  cases ignore <;> rfl

/-- Reads the assignments for rows whose key is already there, if there are any. -/
def onDuplicateKey (s : Source) : Option (List Assignment × Source) :=
  match s.keyword " ON DUPLICATE KEY UPDATE " with
  | some s => s.list assignment
  | none => some ([], s)

/-- What follows the rows of an INSERT: the assignments, after their keyword. -/
def tail (pairs : List Assignment) : Fragment :=
  if pairs.isEmpty then .empty
  else text " ON DUPLICATE KEY UPDATE " ++ Clause.assignments pairs

theorem onDuplicateKey_tail {pairs : List Assignment} (hnames : ∀ a ∈ pairs, IsValid a.column)
    (hvalues : ∀ a ∈ pairs, ∃ v, a.value = .value v) :
    ((tail pairs).before {}).onDuplicateKey = some (pairs, {}) := by
  cases pairs with
  | nil => rfl
  | cons a pairs =>
    have hread : ∀ b ∈ a :: pairs, ∀ t, True →
        assignment (b.fragment.before t) = some (b, t) := by
      intro b hb t _
      exact assignment_before (hnames b hb) (hvalues b hb) t
    have hlist := list_before (fun _ => True) (fun _ => trivial) (s := {}) trivial rfl
      hread (List.cons_ne_nil a pairs)
    rw [tail, if_neg (by simp), Fragment.before_append, onDuplicateKey, keyword_text]
    exact hlist

/-- The rows end where the text does, or before a keyword. -/
theorem keyword_comma_tail (pairs : List Assignment) :
    ((tail pairs).before {}).keyword ", " = none := by
  cases pairs with
  | nil => rfl
  | cons a pairs =>
    rw [tail, if_neg (by simp), Fragment.before_append]
    rfl

end Source

namespace Statement

/-- Reads an INSERT into a table back from its text and arguments. -/
def readInsert (table : String) (f : Fragment) : Option (Statement Q) := do
  let (ignore, s) ← (f.before {}).insertStart
  let s ← s.keyword (table ++ " (")
  let (columns, s) ← s.list Source.column
  let s ← s.keyword ") VALUES "
  let (rows, s) ← s.list Source.row
  let (onDuplicateKey, s) ← s.onDuplicateKey
  if s.chars.isEmpty && s.args.isEmpty then
    return .insert columns rows ignore onDuplicateKey
  else none

/-- An INSERT is read back, whatever its table is called and its names hold between quotes. -/
theorem readInsert_insertFragment {columns : List String} {rows : List (List Value)}
    {onDuplicateKey : List Assignment} (hcolumns : columns ≠ [])
    (hnames : ∀ name ∈ columns ++ onDuplicateKey.map (·.column), IsValid name)
    (hrows : rows ≠ []) (hcells : ∀ row ∈ rows, row ≠ [])
    (hvalues : ∀ a ∈ onDuplicateKey, ∃ v, a.value = .value v) (ignore : Bool) (table : String) :
    readInsert (Q := Q) table (insertFragment ignore table columns rows onDuplicateKey) =
      some (.insert columns rows ignore onDuplicateKey) := by
  rw [List.forall_mem_append] at hnames
  have hpairs : ∀ a ∈ onDuplicateKey, IsValid a.column := by
    intro a ha
    exact hnames.2 a.column (List.mem_map_of_mem ha)
  have hread : ∀ row ∈ rows, ∀ t, True →
      Source.row ((Clause.row row).before t) = some (row, t) := by
    intro row hrow t _
    obtain ⟨v, vs, rfl⟩ := List.exists_cons_of_ne_nil (hcells row hrow)
    exact Source.row_before v vs t
  -- The rest of the text, from its end to its start.
  have htail := Source.onDuplicateKey_tail hpairs hvalues
  have hlist := Source.list_before (fun _ => True) (fun _ => trivial) trivial
    (Source.keyword_comma_tail onDuplicateKey) hread hrows
  have hcolumn : ∀ s, ((Fragment.join ", " (columns.map text)).before
      ((text ") VALUES ").before s)).list Source.column =
        some (columns, (text ") VALUES ").before s) := by
    intro s
    refine Source.list_before Source.EndsName ?_ ?_ rfl ?_ hcolumns
    · exact fun t => ⟨',', _, rfl, rfl⟩
    · exact ⟨')', _, rfl, rfl⟩
    · exact fun name hname t ht => Source.column_before (hnames.1 name hname) ht
  have hfragment : insertFragment ignore table columns rows onDuplicateKey =
      text (if ignore then "INSERT IGNORE INTO " else "INSERT INTO ") ++
        (text (table ++ " (") ++ (.join ", " (columns.map text) ++ (text ") VALUES " ++
          (.join ", " (rows.map Clause.row) ++ Source.tail onDuplicateKey)))) := by
    rw [insertFragment, Fragment.join_text]
    simp only [Fragment.text_append, Fragment.append_assoc, Source.tail]
  rw [hfragment, readInsert]
  simp only [Fragment.before_append, Source.insertStart_before, Source.keyword_text, hcolumn,
    hlist, htail, Option.bind_eq_bind, Option.bind_some]
  rfl

end Statement

namespace Query

/-- What an INSERT that is built consists of. -/
theorem build_insert {q : Query} (hq : q.Reachable) {columns : List String}
    {rows : List (List Value)} {ignore : Bool} {onDuplicateKey : List Assignment}
    (hs : q.statement = some (.insert columns rows ignore onDuplicateKey)) {b : BuiltQuery}
    (hb : q.build = .ok b) :
    columns ≠ [] ∧ rows ≠ [] ∧ (∀ row ∈ rows, row ≠ []) ∧
      b = .ofFragment
        (Statement.insertFragment ignore (q.table.getD "") columns rows onDuplicateKey) := by
  have hfit := hq.rowsFit columns rows ignore onDuplicateKey hs
  obtain ⟨statement, table, tableAlias, joins, conditions, groupBy, orderBy, limit, offset,
    name⟩ := q
  obtain rfl : statement = some (.insert columns rows ignore onDuplicateKey) := hs
  rw [build, compile_insert, report_map, report_eq_ok_iff] at hb
  obtain ⟨hfaults, hb⟩ := hb
  simp only [List.append_eq_nil_iff] at hfaults
  have hempty : (columns.isEmpty || rows.flatten.isEmpty) = false := by
    have h := hfaults.1.1.1.1.1.2
    cases hc : (columns.isEmpty || rows.flatten.isEmpty) with
    | false => rfl
    | true => simp [faultIf, hc] at h
  rw [Bool.or_eq_false_iff, List.isEmpty_eq_false_iff, List.isEmpty_eq_false_iff] at hempty
  refine ⟨hempty.1, ?_, ?_, hb.symm⟩
  · rintro rfl
    exact hempty.2 rfl
  · intro row hrow hnil
    have hlength := hfit row hrow
    rw [hnil, List.length_nil] at hlength
    exact hempty.1 (List.eq_nil_of_length_eq_zero hlength.symm)

/-- What a reachable INSERT builds gives back what it inserts. -/
theorem readInsert_build {q : Query} (hq : q.Reachable) {columns : List String}
    {rows : List (List Value)} {ignore : Bool} {onDuplicateKey : List Assignment}
    (hs : q.statement = some (.insert columns rows ignore onDuplicateKey))
    (hvalues : ∀ a ∈ onDuplicateKey, ∃ v, a.value = .value v) {b : BuiltQuery}
    (hb : q.build = .ok b) :
    Statement.readInsert (Q := Query) (q.table.getD "") ⟨b.sql, b.args⟩ =
      some (.insert columns rows ignore onDuplicateKey) := by
  obtain ⟨hcolumns, hrows, hcells, rfl⟩ := build_insert hq hs hb
  have hnames := hq.wellFormed.names _ hs
  exact Statement.readInsert_insertFragment hcolumns hnames hrows hcells hvalues ignore _

/-- Two reachable INSERTs into one table that build the same statement insert the same: they agree
in whether they skip rows, in their columns, in every cell and in the assignments, which the text
and the arguments give back. -/
theorem insert_eq_of_build_eq {q q' : Query} (hq : q.Reachable) (hq' : q'.Reachable)
    {columns columns' : List String} {rows rows' : List (List Value)} {ignore ignore' : Bool}
    {onDuplicateKey onDuplicateKey' : List Assignment}
    (hs : q.statement = some (.insert columns rows ignore onDuplicateKey))
    (hs' : q'.statement = some (.insert columns' rows' ignore' onDuplicateKey'))
    (hvalues : ∀ a ∈ onDuplicateKey, ∃ v, a.value = .value v)
    (hvalues' : ∀ a ∈ onDuplicateKey', ∃ v, a.value = .value v) (htable : q.table = q'.table)
    {b : BuiltQuery} (hb : q.build = .ok b) (hb' : q'.build = .ok b) :
    (ignore = ignore' ∧ columns = columns' ∧ rows = rows' ∧ onDuplicateKey = onDuplicateKey') ∧
      Statement.readInsert (Q := Query) (q.table.getD "") ⟨b.sql, b.args⟩ =
        some (.insert columns rows ignore onDuplicateKey) := by
  have hread := readInsert_build hq hs hvalues hb
  have hread' := readInsert_build hq' hs' hvalues' hb'
  rw [← htable, hread] at hread'
  have heq := Option.some.inj hread'
  simp only [Statement.insert.injEq] at heq
  exact ⟨⟨heq.2.2.1, heq.1, heq.2.1, heq.2.2.2⟩, hread⟩

/-- Rows of named values in another order, and the same rows one by one: quoted names that hold a
comma, a parenthesis and a keyword, and NULL in other places of each row. -/
theorem insert_eq_of_two_ways_to_record :
    let pairs : List (Call (List Step)) :=
      [.table "t", .onDuplicateKey "\x60n = NULL\x60" (.value .null),
        .onDuplicateKey "d" (.value (.int 3))]
    let q := (Script.run .new (.call (.insertRows
        [[("\x60a, b) VALUES (?\x60", .null), ("t.c", .int 1)],
          [("t.c", .null), ("\x60a, b) VALUES (?\x60", .text "?")]]) :: pairs.map .call)).1
    let q' := (Script.run .new (.call (.insertColumns ["\x60a, b) VALUES (?\x60", "t.c"]) ::
        .call (.row [.null, .int 1]) :: .call (.row [.text "?", .null]) :: pairs.map .call)).1
    let b : BuiltQuery :=
      ⟨"INSERT INTO t (\x60a, b) VALUES (?\x60, t.c) VALUES (NULL, ?), (?, NULL)" ++
        " ON DUPLICATE KEY UPDATE \x60n = NULL\x60 = NULL, d = ?", [.int 1, .text "?", .int 3]⟩
    q.Reachable ∧ q'.Reachable ∧ q.build = .ok b ∧ q'.build = .ok b ∧
      Statement.readInsert (Q := Query) "t" ⟨b.sql, b.args⟩ =
        some (.insert ["\x60a, b) VALUES (?\x60", "t.c"] [[.null, .int 1], [.text "?", .null]] false
          [⟨"\x60n = NULL\x60", .value .null⟩, ⟨"d", .value (.int 3)⟩]) := by
  intro pairs q q' b
  have hq : q.Reachable := Script.reachable_run .new _
  have hq' : q'.Reachable := Script.reachable_run .new _
  have hb : q.build = .ok b := by rfl
  have hb' : q'.build = .ok b := by rfl
  have hvalues : ∀ a ∈ ([⟨"\x60n = NULL\x60", .value .null⟩, ⟨"d", .value (.int 3)⟩] :
      List Assignment), ∃ v, a.value = .value v := by
    simp
  exact ⟨hq, hq', hb, hb', (insert_eq_of_build_eq hq hq' rfl rfl hvalues hvalues rfl hb hb').2⟩

end Query

end BoundSql
