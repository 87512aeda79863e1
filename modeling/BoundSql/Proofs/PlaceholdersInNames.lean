import BoundSql.Proofs.InsertText
import BoundSql.Proofs.Placeholders

/-!
# Placeholders beside names

The names in an INSERT or an UPDATE stand in its text as they were given. The scan that counts
placeholders knows single quotes only, and a name may have single quotes and question marks between
its backquotes. A question mark in a name is then counted as if it were a placeholder, and a single
quote makes the scan take the names and placeholders up to the next single quote for a literal.

What is counted and what is not makes up the difference between placeholders and arguments
(`Query.placeholderCount_of_build`). So they are as many as there are arguments exactly if as many
question marks of names are counted as placeholders are passed over, and always if no name is
between backquotes.

## Main definitions

* `Part`, `Query.parts` — the texts and values that a statement was given, as it has them.
* `Part.exposed`, `Part.hidden` — what is counted and is no placeholder, and what is not counted
  and is one.
* `Fragment.Tallies` — the fragment has the parts, and nothing else matters for the scan.
-/

namespace BoundSql

open ColumnName (IsValid backquote isContinuing isUnquoted)
open Fragment (text)

/-! ## Parts of a statement -/

/-- What a statement is given: text that stands in it as it is, or a value to bind. -/
inductive Part where
  | raw (sql : String)
  | value (v : Value)

namespace Part

/-- Whether the scan is inside single quotes behind the part. -/
def quotedAfter (quoted : Bool) : Part → Bool
  | raw sql => BoundSql.quotedAfter quoted sql.toList
  | value _ => quoted

/-- The question marks of a given text that the scan counts. -/
def exposed (quoted : Bool) : Part → Nat
  | raw sql => countPlaceholders quoted sql.toList
  | value _ => 0

/-- The placeholders that the scan does not count. -/
def hidden (quoted : Bool) : Part → Nat
  | raw _ => 0
  | value v => if quoted && !v.isNull then 1 else 0

/-- The question marks of a given text, counted or not. -/
def questionMarks (_ : Bool) : Part → Nat
  | raw sql => sql.toList.count '?'
  | value _ => 0

/-- The sum over parts, of which each is reached by the scan behind the ones before it. -/
def total (f : Bool → Part → Nat) : Bool → List Part → Nat
  | _, [] => 0
  | quoted, part :: parts => f quoted part + total f (part.quotedAfter quoted) parts

@[simp] theorem total_nil (f : Bool → Part → Nat) (quoted : Bool) : total f quoted [] = 0 := rfl

@[simp] theorem total_cons (f : Bool → Part → Nat) (quoted : Bool) (part : Part)
    (parts : List Part) :
    total f quoted (part :: parts) = f quoted part + total f (part.quotedAfter quoted) parts := rfl

theorem total_append (f : Bool → Part → Nat) (quoted : Bool) (ps qs : List Part) :
    total f quoted (ps ++ qs) = total f quoted ps + total f (ps.foldl quotedAfter quoted) qs := by
  induction ps generalizing quoted with
  | nil => simp
  | cons p ps ih =>
    rw [List.cons_append, total_cons, total_cons, ih, List.foldl_cons, Nat.add_assoc]

end Part

/-! ## Texts without quotes -/

section Scan

variable {quoted : Bool} {cs : List Char}

theorem quotedAfter_of_not_mem (h : '\'' ∉ cs) : quotedAfter quoted cs = quoted := by
  induction cs with
  | nil => rfl
  | cons c cs ih =>
    rw [List.mem_cons, not_or] at h
    rw [quotedAfter, if_neg (Ne.symm h.1), ih h.2]

theorem countPlaceholders_of_not_mem (h : '\'' ∉ cs) :
    countPlaceholders quoted cs = if quoted then 0 else cs.count '?' := by
  induction cs with
  | nil => simp [countPlaceholders]
  | cons c cs ih =>
    rw [List.mem_cons, not_or] at h
    rw [countPlaceholders, if_neg (Ne.symm h.1), ih h.2, List.count_cons]
    by_cases hc : c = '?' <;> cases quoted <;> simp [hc]

end Scan

namespace Part

/-- Where no text has a single quote, all question marks are counted. -/
theorem total_of_unquoted {parts : List Part}
    (h : ∀ sql, .raw sql ∈ parts → '\'' ∉ sql.toList) :
    total exposed false parts = total questionMarks false parts ∧
      total hidden false parts = 0 := by
  induction parts with
  | nil => simp
  | cons part parts ih =>
    obtain ⟨hexposed, hhidden⟩ := ih fun sql hsql => h sql (List.mem_cons_of_mem part hsql)
    cases part with
    | raw sql =>
      have hsql := h sql List.mem_cons_self
      simp [exposed, hidden, questionMarks, quotedAfter, quotedAfter_of_not_mem hsql,
        countPlaceholders_of_not_mem hsql, hexposed, hhidden]
    | value v => simp [exposed, hidden, questionMarks, quotedAfter, hexposed, hhidden]

end Part

/-! ## Fragments and their parts -/

/-- A text without single quotes and question marks. -/
def IsNeutral (s : String) : Prop := ∀ c ∈ s.toList, c ≠ '\'' ∧ c ≠ '?'

instance : DecidablePred IsNeutral := fun s =>
  decidable_of_iff ((s.toList.all fun c => c != '\'' && c != '?') = true) (by simp [IsNeutral])

theorem isNeutral_digits (n : Nat) : IsNeutral (toString n) := by
  intro c hc
  have hd : c.isDigit = true :=
    Nat.isDigit_of_mem_toDigits (b := 10) (n := n) (by decide) (by decide) (by simpa using hc)
  constructor <;> rintro rfl <;> simp at hd

theorem Part.questionMarks_of_neutral {parts : List Part}
    (h : ∀ sql, .raw sql ∈ parts → IsNeutral sql) (quoted : Bool) :
    total questionMarks quoted parts = 0 := by
  induction parts generalizing quoted with
  | nil => rfl
  | cons part parts ih =>
    have hparts := ih fun sql hsql => h sql (List.mem_cons_of_mem part hsql)
    have hpart : part.questionMarks quoted = 0 := by
      cases part with
      | raw sql => exact List.count_eq_zero.mpr fun hmem => (h sql List.mem_cons_self _ hmem).2 rfl
      | value v => rfl
    rw [total_cons, hpart, hparts]

/-- The scan finds in the fragment what it finds in the parts, and a placeholder for each value. -/
structure Fragment.Tallies (f : Fragment) (parts : List Part) : Prop where
  count : ∀ quoted, countPlaceholders quoted f.sql.toList + Part.total Part.hidden quoted parts =
    f.args.length + Part.total Part.exposed quoted parts
  quotedAfter : ∀ quoted,
    quotedAfter quoted f.sql.toList = parts.foldl Part.quotedAfter quoted

namespace Fragment.Tallies

variable {f g : Fragment} {ps qs : List Part}

theorem empty : Tallies .empty [] := ⟨fun _ => rfl, fun _ => rfl⟩

/-- Text of the statement's own does not count. -/
theorem neutral {s : String} (h : IsNeutral s) : Tallies (text s) [] := by
  have hquote : '\'' ∉ s.toList := fun hmem => (h _ hmem).1 rfl
  have hmark : s.toList.count '?' = 0 := List.count_eq_zero.mpr fun hmem => (h _ hmem).2 rfl
  refine ⟨fun quoted => ?_, fun _ => quotedAfter_of_not_mem hquote⟩
  simp [countPlaceholders_of_not_mem hquote, hmark]

theorem raw (s : String) : Tallies (text s) [.raw s] :=
  ⟨fun _ => by simp [Part.hidden, Part.exposed], fun _ => rfl⟩

theorem value (v : Value) : Tallies (.value v) [.value v] := by
  cases hv : v.isNull <;> refine ⟨fun quoted => ?_, fun quoted => ?_⟩ <;> cases quoted <;>
    simp [Fragment.value, hv, Part.hidden, Part.exposed, Part.quotedAfter, countPlaceholders,
      BoundSql.quotedAfter]

theorem append (hf : Tallies f ps) (hg : Tallies g qs) : Tallies (f ++ g) (ps ++ qs) where
  count quoted := by
    have hfirst := hf.count quoted
    have hsecond := hg.count (ps.foldl Part.quotedAfter quoted)
    rw [sql_append, args_append, String.toList_append, countPlaceholders_append, hf.quotedAfter,
      Part.total_append, Part.total_append, List.length_append]
    omega
  quotedAfter quoted := by
    rw [sql_append, String.toList_append, quotedAfter_append, hf.quotedAfter, hg.quotedAfter,
      List.foldl_append]

theorem parenthesized (h : Tallies f ps) : Tallies f.parenthesized ps := by
  have hopen : Tallies (text "(") [] := neutral (by decide)
  have hclose : Tallies (text ")") [] := neutral (by decide)
  have hwhole := (hopen.append h).append hclose
  rwa [List.nil_append, List.append_nil] at hwhole

theorem join {α : Type} {separator : String} (hsep : IsNeutral separator) {f : α → Fragment}
    {p : α → List Part} {l : List α} (h : ∀ a ∈ l, Tallies (f a) (p a)) :
    Tallies (.join separator (l.map f)) (l.flatMap p) := by
  induction l with
  | nil => exact empty
  | cons a l ih =>
    rw [List.forall_mem_cons] at h
    cases l with
    | nil => simpa [Fragment.join] using h.1
    | cons b l =>
      have hrest := (h.1.append (neutral hsep)).append (ih h.2)
      rwa [List.append_nil] at hrest

end Fragment.Tallies

/-! ## Statements -/

/-- The parts of an assignment. -/
def Assignment.parts (a : Assignment) : List Part :=
  [.raw a.column, match a.value with | .value v => .value v | .raw sql => .raw sql]

/-- The parts of an INSERT or an UPDATE without conditions and order. -/
def Query.parts (q : Query) : List Part :=
  match q.statement with
  | some (.insert columns rows _ onDuplicateKey) =>
    .raw (q.table.getD "") :: columns.map .raw ++ rows.flatten.map .value ++
      onDuplicateKey.flatMap Assignment.parts
  | some (.update assignments) =>
    .raw (q.table.getD "") :: q.tableAlias.toList.map .raw ++ assignments.flatMap Assignment.parts
  | _ => []

namespace Fragment.Tallies

theorem assignment (a : Assignment) : Tallies a.fragment a.parts := by
  obtain ⟨column, value⟩ := a
  have hequals : Tallies (text " = ") [] := neutral (by decide)
  have hcolumn := (raw column).append hequals
  cases value with
  | value v => exact hcolumn.append (value v)
  | raw sql => exact hcolumn.append (raw sql)

theorem assignments (as : List Assignment) :
    Tallies (Clause.assignments as) (as.flatMap Assignment.parts) :=
  join (by decide) fun a _ => assignment a

theorem row (values : List Value) : Tallies (Clause.row values) (values.map .value) := by
  have hvalues : Tallies (Fragment.values values) (values.flatMap fun v => [.value v]) :=
    join (by decide) fun v _ => value v
  rw [← List.map_eq_flatMap] at hvalues
  exact hvalues.parenthesized

theorem names (names : List String) :
    Tallies (text (String.intercalate ", " names)) (names.map .raw) := by
  have hnames : Tallies (.join ", " (names.map text)) (names.flatMap fun name => [.raw name]) :=
    join (by decide) fun name _ => raw name
  rwa [join_text, ← List.map_eq_flatMap] at hnames

theorem rows (rows : List (List Value)) :
    Tallies (.join ", " (rows.map Clause.row)) (rows.flatten.map .value) := by
  have hrows : Tallies (.join ", " (rows.map Clause.row))
      (rows.flatMap fun values => values.map .value) := join (by decide) fun values _ => row values
  rwa [List.flatMap_def, ← List.map_flatten] at hrows

theorem onDuplicateKey (as : List Assignment) :
    Tallies (if as.isEmpty then .empty else text " ON DUPLICATE KEY UPDATE " ++
      Clause.assignments as) (as.flatMap Assignment.parts) := by
  cases as with
  | nil => exact empty
  | cons a as =>
    have hkeyword : Tallies (text " ON DUPLICATE KEY UPDATE ") [] := neutral (by decide)
    exact hkeyword.append (assignments (a :: as))

theorem insert (ignore : Bool) (table : String) (columns : List String) (values : List (List Value))
    (as : List Assignment) :
    Tallies (Statement.insertFragment ignore table columns values as)
      (.raw table :: columns.map .raw ++ values.flatten.map .value ++
        as.flatMap Assignment.parts) := by
  have hkeyword : Tallies (text (if ignore then "INSERT IGNORE INTO " else "INSERT INTO ")) [] := by
    cases ignore <;> exact neutral (by decide)
  have hopen : Tallies (text " (") [] := neutral (by decide)
  have hvalues : Tallies (text ") VALUES ") [] := neutral (by decide)
  have hinto :=
    (((hkeyword.append (raw table)).append hopen).append (names columns)).append hvalues
  have hwhole := (hinto.append (rows values)).append (onDuplicateKey as)
  rw [List.nil_append, List.append_nil, List.append_nil, List.singleton_append] at hwhole
  exact hwhole

theorem window (limit : Option UInt64) : Tallies (text (Clause.window limit none)) [] := by
  cases limit with
  | none => exact neutral (by decide)
  | some n =>
    have hkeyword : Tallies (text " LIMIT ") [] := neutral (by decide)
    exact hkeyword.append (neutral (isNeutral_digits n.toNat))

theorem tableAlias (name : Option String) :
    Tallies (text (Clause.aliasSuffix name)) (name.toList.map .raw) := by
  cases name with
  | none => exact empty
  | some name =>
    have hkeyword : Tallies (text " AS ") [] := neutral (by decide)
    exact hkeyword.append (raw name)

theorem update (table : String) (name : Option String) (as : List Assignment)
    {conditions : Forest Fragment} (h : Forest.isVacant conditions = true)
    (limit : Option UInt64) :
    Tallies (Statement.updateFragment (table ++ Clause.aliasSuffix name) as conditions [] limit)
      (.raw table :: name.toList.map .raw ++ as.flatMap Assignment.parts) := by
  have hkeyword : Tallies (text "UPDATE ") [] := neutral (by decide)
  have hset : Tallies (text " SET ") [] := neutral (by decide)
  have hconditions : Tallies (Clause.conditions conditions) [] := by
    rw [Clause.conditions, if_pos h]
    exact empty
  have htail : Tallies (Statement.mutationTail conditions [] limit) [] :=
    (hconditions.append empty).append (window limit)
  have htarget := ((hkeyword.append (raw table)).append (tableAlias name)).append hset
  have hwhole := (htarget.append (assignments as)).append htail
  rw [List.nil_append, List.append_nil, List.append_nil, List.singleton_append] at hwhole
  exact hwhole

end Fragment.Tallies

/-! ## Names without backquotes -/

namespace ColumnName

/-- Outside of quotes and without a backquote, all characters are those of unquoted parts. -/
theorem isUnquoted_of_scan {position : Position} {cs : List Char}
    (h : scan position cs = .ok ()) (hposition : position.isQuoted = false) (hcs : backquote ∉ cs) :
    ∀ c ∈ cs, isUnquoted c = true := by
  induction cs generalizing position with
  | nil => simp
  | cons c cs ih =>
    rw [List.mem_cons, not_or] at hcs
    rw [scan] at h
    cases hstep : step position c cs with
    | error fault => simp [hstep] at h
    | ok next =>
      obtain ⟨hquoted, hunquoted⟩ := isQuoted_of_step hstep
      rw [if_neg (Ne.symm hcs.1)] at hquoted
      rw [hstep] at h
      exact List.forall_mem_cons.mpr
        ⟨hunquoted hposition, ih h (hquoted.trans hposition) hcs.2⟩

theorem isNeutral_of_isUnquoted {s : String} (h : ∀ c ∈ s.toList, isUnquoted c = true) :
    IsNeutral s := by
  intro c hc
  have hunquoted := h c hc
  constructor <;> rintro rfl <;> cases hunquoted

end ColumnName

/-! ## Queries -/

/-- The right side is a value to bind. -/
def Assignment.IsBound (a : Assignment) : Prop := ∃ v, a.value = .value v

namespace Statement

/-- The statement writes rows: it is an INSERT or an UPDATE. -/
def WritesRows : Statement Query → Prop
  | .insert _ _ _ _ | .update _ => True
  | .select _ _ | .delete => False

/-- All that is assigned is bound. -/
def BindsAll : Statement Query → Prop
  | .insert _ _ _ as | .update as => ∀ a ∈ as, a.IsBound
  | .select _ _ | .delete => True

end Statement

namespace Query

variable {q : Query} {s : Statement Query}

/-- An INSERT, or an UPDATE without conditions and order, has its parts and nothing else that
matters for the scan. -/
theorem tallies_written (hs : q.statement = some s) (hwrites : s.WritesRows)
    (hconditions : Forest.leaves q.conditions.roots = []) (horder : q.orderBy = []) :
    q.written.Tallies q.parts := by
  obtain ⟨statement, table, name, joins, ⟨roots, cursor⟩, groupBy, orderBy, limit, offset, own⟩ := q
  obtain rfl : statement = some s := hs
  obtain rfl : orderBy = [] := horder
  rw [written_eq]
  cases s with
  | insert columns rows ignore as => exact .insert ignore (table.getD "") columns rows as
  | update as =>
    have hvacant : Forest.isVacant (Forest.map Condition.written
        (Forest.map (Condition.map withText) roots)) = true := by
      rw [Forest.isVacant_map, Forest.isVacant_map, Forest.isVacant_iff]
      exact hconditions
    exact .update (table.getD "") name as hvacant limit
  | select _ _ | delete => exact hwrites.elim

/-- The texts of a statement that binds all it assigns are its table, its alias and its names. -/
theorem raw_mem_parts (hs : q.statement = some s) (hbinds : s.BindsAll) {sql : String}
    (h : .raw sql ∈ q.parts) :
    sql = q.table.getD "" ∨ sql ∈ q.tableAlias ∨ sql ∈ s.names := by
  have hassigned : ∀ as : List Assignment, (∀ a ∈ as, a.IsBound) →
      .raw sql ∈ as.flatMap Assignment.parts → sql ∈ as.map (·.column) := by
    intro as has hmem
    obtain ⟨a, ha, hpart⟩ := List.mem_flatMap.mp hmem
    obtain ⟨v, hv⟩ := has a ha
    obtain rfl : sql = a.column := by simpa [Assignment.parts, hv] using hpart
    exact List.mem_map_of_mem ha
  rw [parts, hs] at h
  cases s with
  | insert columns rows ignore as =>
    simp only [List.mem_append, List.mem_cons, Part.raw.injEq, List.mem_map, reduceCtorEq,
      and_false, exists_false, or_false, exists_eq_right] at h
    rcases h with (h | h) | h
    · exact .inl h
    · exact .inr (.inr (List.mem_append_left _ h))
    · exact .inr (.inr (List.mem_append_right _ (hassigned as hbinds h)))
  | update as =>
    simp only [List.mem_append, List.mem_cons, Part.raw.injEq, List.mem_map, Option.mem_toList,
      exists_eq_right] at h
    rcases h with (h | h) | h
    · exact .inl h
    · exact .inr (.inl h)
    · exact .inr (.inr (hassigned as hbinds h))
  | select _ _ | delete => cases h

/-- Names that are accepted hide nothing from the scan unless they have parts between backquotes. -/
theorem isNeutral_of_raw_mem_parts (hq : q.Reachable) (hs : q.statement = some s)
    (hbinds : s.BindsAll)
    (htable : ∀ name ∈ q.table.toList ++ q.tableAlias.toList, name.toList.all isContinuing = true)
    (hnames : ∀ name ∈ s.names, backquote ∉ name.toList) {sql : String} (h : .raw sql ∈ q.parts) :
    IsNeutral sql := by
  have hplain : ∀ name ∈ q.table.toList ++ q.tableAlias.toList, IsNeutral name := by
    intro name hname
    refine ColumnName.isNeutral_of_isUnquoted fun c hc => ?_
    rw [isUnquoted, List.all_eq_true.mp (htable name hname) c hc, Bool.or_true]
  rcases raw_mem_parts hs hbinds h with rfl | hname | hname
  · cases htable : q.table with
    | none => exact fun c hc => by simp at hc
    | some name => exact hplain name (by simp [htable])
  · exact hplain sql (List.mem_append_right _ (Option.mem_toList.mpr hname))
  · have hscan := ColumnName.scan_of_isValid (hq.wellFormed.names s hs sql hname)
    exact ColumnName.isNeutral_of_isUnquoted
      (ColumnName.isUnquoted_of_scan hscan rfl (hnames sql hname))

/-- The placeholders of an INSERT, or of an UPDATE without conditions and order, are as many as its
arguments, less those that the scan passes over and more by the question marks that it counts in the
texts that the statement was given.

Without single quotes in these texts, all placeholders and all question marks are counted. If table
and alias are plain, no name is between backquotes and all that is assigned is bound, there is one
placeholder for each argument. -/
theorem placeholderCount_of_build (hs : q.statement = some s) (hwrites : s.WritesRows)
    (hconditions : Forest.leaves q.conditions.roots = []) (horder : q.orderBy = [])
    {b : BuiltQuery} (hb : q.build = .ok b) :
    b.placeholderCount + Part.total Part.hidden false q.parts =
        b.args.length + Part.total Part.exposed false q.parts ∧
      (b.placeholderCount = b.args.length ↔
        Part.total Part.exposed false q.parts = Part.total Part.hidden false q.parts) ∧
      ((∀ sql, .raw sql ∈ q.parts → '\'' ∉ sql.toList) →
        b.placeholderCount = b.args.length + Part.total Part.questionMarks false q.parts) ∧
      (q.Reachable → s.BindsAll →
        (∀ name ∈ q.table.toList ++ q.tableAlias.toList, name.toList.all isContinuing = true) →
        (∀ name ∈ s.names, backquote ∉ name.toList) → b.placeholderCount = b.args.length) := by
  have hcount : b.placeholderCount + Part.total Part.hidden false q.parts =
      b.args.length + Part.total Part.exposed false q.parts := by
    obtain rfl := eq_ofFragment_written_of_build hb
    exact (tallies_written hs hwrites hconditions horder).count false
  have hunquoted : (∀ sql, .raw sql ∈ q.parts → '\'' ∉ sql.toList) →
      b.placeholderCount = b.args.length + Part.total Part.questionMarks false q.parts := by
    intro hquote
    obtain ⟨hexposed, hhidden⟩ := Part.total_of_unquoted hquote
    omega
  refine ⟨hcount, by omega, hunquoted, ?_⟩
  intro hq hbinds htable hnames
  have hneutral : ∀ sql, .raw sql ∈ q.parts → IsNeutral sql := fun sql hsql =>
    isNeutral_of_raw_mem_parts hq hs hbinds htable hnames hsql
  rw [hunquoted fun sql hsql hquote => (hneutral sql hsql _ hquote).1 rfl,
    Part.questionMarks_of_neutral hneutral, Nat.add_zero]

/-- Names without backquotes are no trouble in an INSERT, and a question mark in one is one too many
in an UPDATE. -/
theorem placeholderCount_of_two_builds :
    let q : Query := (Script.run .new [.call (.insertRows [[("a", .int 1), ("b", .null)]]),
      .call (.onDuplicateKey "t.a" (.value (.text "?"))), .call (.table "t")]).1
    let u : Query := (Script.run .new [.call (.update "t"),
      .call (.set "\x60a?\x60" (.value .null)), .call (.set "b" (.value (.int 1)))]).1
    (∃ b, q.build = .ok b ∧ b.placeholderCount = b.args.length) ∧
      ∃ b, u.build = .ok b ∧ b.placeholderCount = b.args.length + 1 := by
  intro q u
  have hq : q.Reachable := Script.reachable_run .new _
  have hinsert : ∃ b, q.build = .ok b := ⟨_, rfl⟩
  have hupdate : ∃ b, u.build = .ok b := ⟨_, rfl⟩
  obtain ⟨b, hb⟩ := hinsert
  obtain ⟨d, hd⟩ := hupdate
  constructor
  · obtain ⟨-, -, -, hplain⟩ := placeholderCount_of_build (q := q) rfl trivial rfl rfl hb
    exact ⟨b, hb, hplain hq (List.forall_mem_singleton.mpr ⟨_, rfl⟩) (by decide) (by decide)⟩
  · obtain ⟨-, -, hmarks, -⟩ := placeholderCount_of_build (q := u) rfl trivial rfl rfl hd
    have hparts : u.parts = [.raw "t", .raw "\x60a?\x60", .value .null, .raw "b",
        .value (.int 1)] := rfl
    rw [hparts] at hmarks
    refine ⟨d, hd, hmarks ?_⟩
    intro sql hsql
    obtain rfl | rfl | rfl : sql = "t" ∨ sql = "\x60a?\x60" ∨ sql = "b" := by simpa using hsql
    all_goals decide

/-- A name between backquotes is accepted with a question mark, which is counted, and with a single
quote, behind which nothing is. -/
theorem placeholderCount_of_backquoted_names :
    let insert (name : String) : Query :=
      (Script.run .new [.call (.insertRows [[(name, .int 1)]]), .call (.table "t")]).1
    (ColumnName.validate "\x60a?\x60" = .ok () ∧ ∃ b, (insert "\x60a?\x60").build = .ok b ∧
      b.placeholderCount = 2 ∧ b.args.length = 1) ∧
    ColumnName.validate "\x60a'\x60" = .ok () ∧ ∃ b, (insert "\x60a'\x60").build = .ok b ∧
      b.placeholderCount = 0 ∧ b.args.length = 1 :=
  ⟨⟨rfl, _, rfl, by decide, rfl⟩, rfl, _, rfl, by decide, rfl⟩

end Query

end BoundSql
