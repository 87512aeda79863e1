import BoundSql.Proofs.InsertText
import BoundSql.Proofs.Replacing
import Mathlib.Data.List.Duplicate

/-!
# Rows by position and rows by name

Rows of an INSERT can be given by position, after the columns were named, or by name, each value
beside its column. Both ways record the same query and come to the same statement or both fail,
with one exception. A name that comes twice is refused where the rows are given by name, but not
where they are given by position, so there a statement is built that names a column twice. The two
ways agree exactly where that cannot happen (`Query.insert_ways_agree_iff`).

## Main definitions

* `Query.insertByPosition`, `Query.insertByName` — the two ways, up to what is built.
* `Query.inserting` — the query that both of them record.
-/

namespace BoundSql

open ColumnName (IsValid validate_eq_ok_iff)

theorem unit_bind_eq_ok_iff {β : Type} {x : Except QueryError Unit}
    {k : Unit → Except QueryError β} {b : β} :
    (x >>= k) = .ok b ↔ x = .ok () ∧ k () = .ok b := by
  rw [bind_eq_ok_iff]
  exact ⟨fun ⟨_, h⟩ => h, fun h => ⟨(), h⟩⟩

theorem Query.checkNames_eq_ok_iff {names : List String} :
    checkNames names = .ok () ↔ ∀ name ∈ names, IsValid name := by
  refine ⟨isValid_of_checkNames, fun h => ?_⟩
  induction names with
  | nil => rfl
  | cons name names ih =>
    rw [List.forall_mem_cons] at h
    rw [checkNames, unit_bind_eq_ok_iff, validate_eq_ok_iff]
    exact ⟨h.1, ih h.2⟩

/-! ## Rows with a name beside every value -/

namespace RowTable

/-- The columns of a first row are accepted if all are names and none comes twice. -/
theorem checkColumns_eq_ok_iff {seen names : List String} :
    checkColumns seen names = .ok () ↔
      (∀ name ∈ names, IsValid name) ∧ names.Nodup ∧ ∀ name ∈ names, name ∉ seen := by
  induction names generalizing seen with
  | nil => simp [checkColumns]
  | cons name names ih =>
    rw [checkColumns, unit_bind_eq_ok_iff, validate_eq_ok_iff, List.forall_mem_cons,
      List.nodup_cons, List.forall_mem_cons]
    by_cases hseen : name ∈ seen
    · simp [hseen, bind, Except.bind]
    · have hrest : (∀ other ∈ names, other ∉ name :: seen) ↔
          name ∉ names ∧ ∀ other ∈ names, other ∉ seen := by
        simp only [List.mem_cons, not_or, forall_and]
        exact and_congr_left' ⟨fun h hname => h name hname rfl, fun h other ho he => h (he ▸ ho)⟩
      simp only [hseen, if_false, ih, hrest, not_false_eq_true, true_and]
      tauto

/-- Where a name comes twice and all are names, one that comes twice is reported. -/
theorem checkColumns_of_duplicate {seen names : List String}
    (hvalid : ∀ name ∈ names, IsValid name)
    (h : ¬ (names.Nodup ∧ ∀ name ∈ names, name ∉ seen)) :
    ∃ name ∈ names, (name ∈ seen ∨ names.Duplicate name) ∧
      checkColumns seen names =
        .error (.invalidColumn ("duplicate insert column '" ++ name ++ "'")) := by
  induction names generalizing seen with
  | nil => simp at h
  | cons name names ih =>
    rw [List.forall_mem_cons] at hvalid
    rw [checkColumns, validate_eq_ok_iff.mpr hvalid.1]
    simp only [bind, Except.bind]
    by_cases hseen : name ∈ seen
    · refine ⟨name, List.mem_cons_self, .inl hseen, ?_⟩
      simp [hseen, throw, throwThe, MonadExceptOf.throw]
    · have hrest : ¬ (names.Nodup ∧ ∀ other ∈ names, other ∉ name :: seen) := by
        rintro ⟨hnodup, hnew⟩
        refine h ⟨List.nodup_cons.mpr ⟨fun hmem => hnew name hmem List.mem_cons_self, hnodup⟩, ?_⟩
        rw [List.forall_mem_cons]
        exact ⟨hseen, fun other ho hs => hnew other ho (List.mem_cons_of_mem name hs)⟩
      obtain ⟨other, hmem, hwhy, herror⟩ := ih hvalid.2 hrest
      refine ⟨other, List.mem_cons_of_mem name hmem, ?_, by simpa [hseen] using herror⟩
      rcases hwhy with hwhy | hwhy
      · rcases List.mem_cons.mp hwhy with rfl | hwhy
        · exact .inr hmem.duplicate_cons_self
        · exact .inl hwhy
      · exact .inr (hwhy.duplicate_cons name)

theorem checkKnown_of_subset {columns : List String} (number : Nat) {names : List String}
    (hvalid : ∀ name ∈ names, IsValid name) (hknown : names ⊆ columns) :
    checkKnown columns number names = .ok () := by
  induction names with
  | nil => rfl
  | cons name names ih =>
    rw [List.forall_mem_cons] at hvalid
    rw [List.cons_subset] at hknown
    rw [checkKnown, validate_eq_ok_iff.mpr hvalid.1]
    simpa [hknown.1, bind, Except.bind] using ih hvalid.2 hknown.2

/-- A pair of a row is found by its name if all names of the row are different. -/
theorem lookup_of_mem {row : NamedRow} (h : (row.map (·.1)).Nodup) {name : String} {value : Value}
    (hmem : (name, value) ∈ row) : row.lookup name = some value := by
  obtain ⟨before, after, rfl⟩ := List.append_of_mem hmem
  refine List.lookup_eq_some_iff.mpr ⟨before, after, rfl, fun pair hpair => ?_⟩
  rw [List.map_append, List.nodup_append] at h
  exact bne_iff_ne.mpr (h.2.2 pair.1 (List.mem_map_of_mem hpair) name (by simp)).symm

/-- A row is read in the order of its own names. -/
theorem pick_names (number : Nat) {row : NamedRow} (h : (row.map (·.1)).Nodup) :
    pick number row (row.map (·.1)) = .ok (row.map (·.2)) := by
  -- The induction goes through a part of the row, and each name is looked up in the whole row.
  suffices hpart : ∀ part ⊆ row, pick number row (part.map (·.1)) = .ok (part.map (·.2)) from
    hpart row (List.Subset.refl row)
  intro part hpart
  induction part with
  | nil => rfl
  | cons pair part ih =>
    rw [List.cons_subset] at hpart
    rw [List.map_cons, pick, lookup_of_mem h hpart.1]
    simp only [ih hpart.2]
    rfl

section Zip

variable {columns : List String} {values : List Value}

theorem map_fst_zip (h : values.length = columns.length) :
    (columns.zip values).map (·.1) = columns := List.map_fst_zip (Nat.le_of_eq h.symm)

theorem map_snd_zip (h : values.length = columns.length) :
    (columns.zip values).map (·.2) = values := List.map_snd_zip (Nat.le_of_eq h)

variable (hvalid : ∀ name ∈ columns, IsValid name) (hnodup : columns.Nodup)

include hvalid hnodup

/-- A later row with its values beside the columns in their order stays as it is. -/
theorem arrange_zip (number : Nat) (h : values.length = columns.length) :
    arrange columns number (columns.zip values) = .ok values := by
  have hfst := map_fst_zip h
  have hpick : pick number (columns.zip values) ((columns.zip values).map (·.1)) =
      .ok ((columns.zip values).map (·.2)) := pick_names number (by rwa [hfst])
  rw [hfst, map_snd_zip h] at hpick
  rw [arrange, hfst, checkKnown_of_subset number hvalid (List.Subset.refl columns)]
  simpa [h, bind, Except.bind] using hpick

theorem arrangeAll_zip (number : Nat) {rows : List (List Value)}
    (h : ∀ row ∈ rows, row.length = columns.length) :
    arrangeAll columns number (rows.map columns.zip) = .ok rows := by
  induction rows generalizing number with
  | nil => rfl
  | cons row rows ih =>
    rw [List.forall_mem_cons] at h
    rw [List.map_cons, arrangeAll, arrange_zip hvalid hnodup number h.1, ih (number + 1) h.2]
    rfl

end Zip

/-- Rows of values under the same names make a table exactly if there is a row, there is a name,
all names are column names and none comes twice; and the table is the rows as they are. -/
theorem ofRows_zip_eq_ok_iff {columns : List String} {rows : List (List Value)} {t : RowTable}
    (h : ∀ row ∈ rows, row.length = columns.length) :
    ofRows (rows.map columns.zip) = .ok t ↔
      (rows ≠ [] ∧ columns ≠ [] ∧ (∀ name ∈ columns, IsValid name) ∧ columns.Nodup) ∧
        t = ⟨columns, rows⟩ := by
  cases rows with
  | nil => simp [ofRows]
  | cons row rows =>
    have hrow := h row List.mem_cons_self
    by_cases hcolumns : columns = []
    · simp [hcolumns, ofRows]
    have hne : columns.zip row ≠ [] := by
      intro hzip
      exact hcolumns (by simpa [hzip] using (map_fst_zip hrow).symm)
    have hlater := (List.forall_mem_cons.mp h).2
    rw [List.map_cons, ofRows_cons hne, map_fst_zip hrow, map_snd_zip hrow, unit_bind_eq_ok_iff,
      checkColumns_eq_ok_iff]
    constructor
    · rintro ⟨⟨hvalid, hnodup, -⟩, ht⟩
      rw [arrangeAll_zip hvalid hnodup 1 hlater] at ht
      exact ⟨⟨List.cons_ne_nil row rows, hcolumns, hvalid, hnodup⟩, (Except.ok.inj ht).symm⟩
    · rintro ⟨⟨-, -, hvalid, hnodup⟩, rfl⟩
      rw [arrangeAll_zip hvalid hnodup 1 hlater]
      exact ⟨⟨hvalid, hnodup, by simp⟩, rfl⟩

end RowTable

/-! ## The two ways -/

namespace Query

/-- An INSERT of rows into some columns of a table, and nothing else. -/
def inserting (table : String) (columns : List String) (rows : List (List Value)) : Query :=
  { table := some table, statement := some (.insert columns rows false []) }

/-- Names the columns, and then adds the rows. -/
def insertByPosition (table : String) (columns : List String) (rows : List (List Value)) :
    Except QueryError BuiltQuery := do
  let q ← Script.calls .new (.table table :: .insertColumns columns :: rows.map .row)
  q.build

/-- Gives the rows at once, with every value beside its column. -/
def insertByName (table : String) (columns : List String) (rows : List (List Value)) :
    Except QueryError BuiltQuery := do
  let q ← Script.calls .new [.table table, .insertRows (rows.map columns.zip)]
  q.build

/-- A call is followed by the others if its result is a query. -/
theorem calls_cons {q : Query} {c : Call (List Step)} {c' : Call Query}
    (hcall : Script.call c = .ok c') (hc' : ∀ pairs, c' ≠ .setMany pairs)
    (cs : List (Call (List Step))) :
    Script.calls q (c :: cs) = (Recording.call c').result q >>= (Script.calls · cs) := by
  rw [Script.calls, hcall]
  simp only [q.perform_eq_ofResult hc']
  cases (Recording.call c').result q <;> rfl

/-- Rows that fit are added one after another. -/
theorem calls_rows (table : String) {columns : List String} (rows : List (List Value))
    {more : List (List Value)} (h : ∀ row ∈ more, row.length = columns.length) :
    Script.calls (inserting table columns rows) (more.map .row) =
      .ok (inserting table columns (rows ++ more)) := by
  induction more generalizing rows with
  | nil => rw [List.map_nil, Script.calls, List.append_nil]
  | cons row more ih =>
    rw [List.forall_mem_cons] at h
    have hadd : (Recording.call (.row row)).result (inserting table columns rows) =
        .ok (inserting table columns (rows ++ [row])) := by
      refine (addRow_eq _ row).trans ?_
      simp [inserting, h.1]
    have hcall : Script.call (.row row) = .ok (.row row) := by rw [Script.call]
    rw [List.map_cons, calls_cons hcall (by simp), hadd]
    refine (ih (rows ++ [row]) h.2).trans ?_
    rw [List.append_assoc, List.singleton_append]

/-- By position the names are checked, and the rows make the query what it is. -/
theorem insertByPosition_eq_ok_iff {table : String} {columns : List String}
    {rows : List (List Value)} (h : ∀ row ∈ rows, row.length = columns.length) {b : BuiltQuery} :
    insertByPosition table columns rows = .ok b ↔
      (∀ name ∈ columns, IsValid name) ∧ (inserting table columns rows).build = .ok b := by
  have hway : insertByPosition table columns rows = (do
      checkNames columns
      (inserting table columns rows).build) := by
    have htable : Script.call (.table table) = .ok (.table table) := by rw [Script.call]
    have hcolumns : Script.call (.insertColumns columns) = .ok (.insertColumns columns) := by
      rw [Script.call]
    have hinsert : (Recording.call (.insertColumns columns)).result (Query.new.withTable table) =
        checkNames columns >>= fun _ => .ok (inserting table columns []) :=
      insertColumns_eq _ columns
    have hcalls := calls_rows table [] h
    rw [insertByPosition, calls_cons htable (by simp)]
    change (Script.calls (Query.new.withTable table) _ >>= build) = _
    rw [calls_cons hcolumns (by simp), hinsert]
    cases checkNames columns with
    | error e => rfl
    | ok _ => exact congrArg (· >>= build) hcalls
  rw [hway, unit_bind_eq_ok_iff, checkNames_eq_ok_iff]

theorem insertByName_eq (table : String) (columns : List String) (rows : List (List Value)) :
    insertByName table columns rows = (do
      let t ← RowTable.ofRows (rows.map columns.zip)
      (inserting table t.columns t.rows).build) := by
  have htable : Script.call (.table table) = .ok (.table table) := by rw [Script.call]
  have hrows : Script.call (.insertRows (rows.map columns.zip)) =
      .ok (.insertRows (rows.map columns.zip)) := by
    rw [Script.call]
  have hinsert : (Recording.call (.insertRows (rows.map columns.zip))).result
      (Query.new.withTable table) = RowTable.ofRows (rows.map columns.zip) >>= fun t =>
        .ok (inserting table t.columns t.rows) :=
    insertRows_eq _ _
  rw [insertByName, calls_cons htable (by simp)]
  change (Script.calls (Query.new.withTable table) _ >>= build) = _
  rw [calls_cons hrows (by simp), hinsert]
  cases RowTable.ofRows (rows.map columns.zip) with
  | error e => rfl
  | ok t =>
    have hend : Script.calls (inserting table t.columns t.rows) [] =
        .ok (inserting table t.columns t.rows) := by
      rw [Script.calls]
    exact congrArg (· >>= build) hend

/-- Rows that fit are built if the table has a name and there is something to insert. -/
theorem exists_build_inserting_iff {table : String} {columns : List String}
    {rows : List (List Value)} (h : ∀ row ∈ rows, row.length = columns.length) :
    (∃ b, (inserting table columns rows).build = .ok b) ↔
      Text.isBlankText table = false ∧ columns ≠ [] ∧ rows ≠ [] := by
  have hlength := length_flatten_of_fit h
  have hempty : (columns.isEmpty || rows.flatten.isEmpty) = (columns.isEmpty || rows.isEmpty) := by
    cases columns with
    | nil => rfl
    | cons column columns =>
      have hnone : rows.flatten.length = 0 ↔ rows.length = 0 := by
        rw [hlength, List.length_cons, Nat.mul_eq_zero, or_iff_left (Nat.succ_ne_zero _)]
      rw [Bool.eq_iff_iff]
      simp only [Bool.or_eq_true, List.isEmpty_iff, ← List.length_eq_zero_iff, hnone]
  rw [build, inserting, compile_insert, hempty, hlength]
  simp [report_map, report_eq_ok_iff, tableFaults, faultIf]

/-- By name the same is built, but only under names that are all different. -/
theorem insertByName_eq_ok_iff {table : String} {columns : List String}
    {rows : List (List Value)} (h : ∀ row ∈ rows, row.length = columns.length) {b : BuiltQuery} :
    insertByName table columns rows = .ok b ↔
      columns.Nodup ∧ insertByPosition table columns rows = .ok b := by
  rw [insertByName_eq, bind_eq_ok_iff, insertByPosition_eq_ok_iff h]
  constructor
  · rintro ⟨t, ht, hb⟩
    obtain ⟨⟨-, -, hvalid, hnodup⟩, rfl⟩ := (RowTable.ofRows_zip_eq_ok_iff h).mp ht
    exact ⟨hnodup, hvalid, hb⟩
  · rintro ⟨hnodup, hvalid, hb⟩
    obtain ⟨-, hcolumns, hrows⟩ := (exists_build_inserting_iff h).mp ⟨b, hb⟩
    exact ⟨_, (RowTable.ofRows_zip_eq_ok_iff h).mpr ⟨⟨hrows, hcolumns, hvalid, hnodup⟩, rfl⟩, hb⟩

/-- By position a statement is built from names that are column names, for rows that there are. -/
theorem exists_insertByPosition_iff {table : String} {columns : List String}
    {rows : List (List Value)} (h : ∀ row ∈ rows, row.length = columns.length) :
    (∃ b, insertByPosition table columns rows = .ok b) ↔
      (∀ name ∈ columns, IsValid name) ∧ Text.isBlankText table = false ∧ columns ≠ [] ∧
        rows ≠ [] := by
  simp only [insertByPosition_eq_ok_iff h, exists_and_left, exists_build_inserting_iff h]

/-- By name, the complaint is about a name that comes twice, if that is all that is wrong. -/
theorem insertByName_of_duplicate (table : String) {columns : List String}
    {rows : List (List Value)} (h : ∀ row ∈ rows, row.length = columns.length)
    (hvalid : ∀ name ∈ columns, IsValid name) (hrows : rows ≠ []) (hnodup : ¬ columns.Nodup) :
    ∃ name, columns.Duplicate name ∧ insertByName table columns rows =
      .error (.invalidColumn ("duplicate insert column '" ++ name ++ "'")) := by
  obtain ⟨row, rows, rfl⟩ := List.exists_cons_of_ne_nil hrows
  have hrepeated : ¬ (columns.Nodup ∧ ∀ name ∈ columns, name ∉ ([] : List String)) :=
    fun h => hnodup h.1
  obtain ⟨name, -, hwhy, herror⟩ := RowTable.checkColumns_of_duplicate hvalid hrepeated
  refine ⟨name, hwhy.resolve_left (by simp), ?_⟩
  have hrow := h row List.mem_cons_self
  have hne : columns.zip row ≠ [] := by
    intro hzip
    have hcolumns : columns = [] := by simpa [hzip] using (RowTable.map_fst_zip hrow).symm
    exact hnodup (hcolumns ▸ List.nodup_nil)
  rw [insertByName_eq, List.map_cons, RowTable.ofRows_cons hne, RowTable.map_fst_zip hrow, herror]
  rfl

/-- A name comes twice among columns that are otherwise in order, for rows that there are and a
table with a name. -/
def RepeatsName (table : String) (columns : List String) (rows : List (List Value)) : Prop :=
  ¬ columns.Nodup ∧ (∀ name ∈ columns, IsValid name) ∧ rows ≠ [] ∧ Text.isBlankText table = false

/-- The two ways to record rows build the same statement or both fail, unless a name comes twice and
nothing else is wrong. Then the rows by position are built, and those by name are refused for a name
that comes twice. -/
theorem insert_ways_agree_iff {table : String} {columns : List String} {rows : List (List Value)}
    (h : ∀ row ∈ rows, row.length = columns.length) :
    (((∃ b, insertByPosition table columns rows = .ok b ∧
          insertByName table columns rows = .ok b) ∨
        (∃ e, insertByPosition table columns rows = .error e) ∧
          ∃ e, insertByName table columns rows = .error e) ↔
      ¬ RepeatsName table columns rows) ∧
    (RepeatsName table columns rows → ∃ b name, insertByPosition table columns rows = .ok b ∧
      columns.Duplicate name ∧ insertByName table columns rows =
        .error (.invalidColumn ("duplicate insert column '" ++ name ++ "'"))) := by
  have hdiffer : RepeatsName table columns rows → ∃ b name,
      insertByPosition table columns rows = .ok b ∧ columns.Duplicate name ∧
        insertByName table columns rows =
          .error (.invalidColumn ("duplicate insert column '" ++ name ++ "'")) := by
    rintro ⟨hnodup, hvalid, hrows, htable⟩
    have hcolumns : columns ≠ [] := by
      rintro rfl
      exact hnodup List.nodup_nil
    obtain ⟨b, hb⟩ := (exists_insertByPosition_iff h).mpr ⟨hvalid, htable, hcolumns, hrows⟩
    obtain ⟨name, htwice, hname⟩ := insertByName_of_duplicate table h hvalid hrows hnodup
    exact ⟨b, name, hb, htwice, hname⟩
  refine ⟨⟨?_, ?_⟩, hdiffer⟩
  · intro hagree hrepeats
    obtain ⟨b, name, hb, -, hname⟩ := hdiffer hrepeats
    simp [hb, hname] at hagree
  · intro hrepeats
    cases hposition : insertByPosition table columns rows with
    | ok b =>
      obtain ⟨hvalid, htable, -, hrows⟩ := (exists_insertByPosition_iff h).mp ⟨b, hposition⟩
      have hnodup : columns.Nodup := by
        by_contra hnodup
        exact hrepeats ⟨hnodup, hvalid, hrows, htable⟩
      exact .inl ⟨b, rfl, (insertByName_eq_ok_iff h).mpr ⟨hnodup, hposition⟩⟩
    | error e =>
      refine .inr ⟨⟨e, rfl⟩, ?_⟩
      cases hname : insertByName table columns rows with
      | ok b => simp [((insertByName_eq_ok_iff h).mp hname).2] at hposition
      | error e => exact ⟨e, rfl⟩

/-- Rows under two names, one of them quoted and with the other one in it, agree; with the first
name given twice they do not. -/
theorem insert_ways_agree_on_two_names :
    let rows : List (List Value) := [[.int 1, .null], [.null, .text "?"]]
    (∀ row ∈ rows, row.length = ["a", "\x60a\x60"].length) ∧
      ¬ RepeatsName "t" ["a", "\x60a\x60"] rows ∧ RepeatsName "t" ["a", "a"] rows ∧
      (∃ b, insertByPosition "t" ["a", "\x60a\x60"] rows = .ok b ∧
        insertByName "t" ["a", "\x60a\x60"] rows = .ok b) ∧
      ∃ b name, insertByPosition "t" ["a", "a"] rows = .ok b ∧ ["a", "a"].Duplicate name ∧
        insertByName "t" ["a", "a"] rows =
          .error (.invalidColumn ("duplicate insert column '" ++ name ++ "'")) := by
  intro rows
  have hfit : ∀ row ∈ rows, row.length = 2 := by decide
  have hdifferent : ¬ RepeatsName "t" ["a", "\x60a\x60"] rows := fun h => h.1 (by decide)
  have hrepeats : RepeatsName "t" ["a", "a"] rows := ⟨by decide, by decide, by decide, by decide⟩
  refine ⟨hfit, hdifferent, hrepeats, ?_, (insert_ways_agree_iff hfit).2 hrepeats⟩
  rcases (insert_ways_agree_iff hfit).1.mpr hdifferent with hagree | ⟨⟨e, he⟩, -⟩
  · exact hagree
  · cases he

/-- A name that comes twice is refused by name and goes into the statement by position. -/
theorem insert_ways_differ_on_repeated_name :
    insertByPosition "t" ["a", "a"] [[.int 1, .int 2]] =
        .ok ⟨"INSERT INTO t (a, a) VALUES (?, ?)", [.int 1, .int 2]⟩ ∧
      insertByName "t" ["a", "a"] [[.int 1, .int 2]] =
        .error (.invalidColumn "duplicate insert column 'a'") :=
  ⟨rfl, rfl⟩

end Query

end BoundSql
