import BoundSql.Proofs.RowsByName
import Mathlib.Data.List.Perm.Subperm

/-!
# How named rows are laid out

The rows of an INSERT make a table exactly if the first of them has names, all different and all
column names, and every later row has the same names in some order. The table has each value in the
place that its row and its name give, so no value is lost, repeated or moved to another column
(`RowTable.ofRows_lays_out_by_name`).

A later row can also be read by taking the pairs out of it one by one, while the last pair of what
is left moves to the place of the one that was taken. The row is scrambled on the way, but the same
values are taken in the same order (`RowTable.flattenRows_eq`). A name that comes twice in a later
row is found only because some column is then missing, by counting.

## Main definitions

* `RowTable.LaidOut` — the values of a row in the order of the columns.
* `RowTable.flattenRows` — all values in one list, with later rows taken apart.
-/

namespace BoundSql

open ColumnName (IsValid)
open scoped List

namespace RowTable

/-- The row pairs each of the columns with the value in its place. -/
abbrev Pairs (row : NamedRow) (columns : List String) (values : List Value) : Prop :=
  List.Forall₂ (fun column value => (column, value) ∈ row) columns values

/-- The row has the columns as its names, in some order, and the values are those that it pairs with
them. -/
structure LaidOut (columns : List String) (row : NamedRow) (values : List Value) : Prop where
  names : (row.map (·.1)).Perm columns
  values : Pairs row columns values

/-- Elements that are each related to something make a list that is related to a list. -/
theorem exists_forall₂_iff {α β : Type} {R : α → β → Prop} {l : List α} :
    (∃ bs, List.Forall₂ R l bs) ↔ ∀ a ∈ l, ∃ b, R a b := by
  induction l with
  | nil => simp
  | cons a l ih =>
    rw [List.forall_mem_cons, ← ih]
    constructor
    · rintro ⟨_, _ | ⟨hb, hbs⟩⟩
      exact ⟨⟨_, hb⟩, _, hbs⟩
    · rintro ⟨⟨b, hb⟩, bs, hbs⟩
      exact ⟨b :: bs, .cons hb hbs⟩

/-! ## Rows in the order of the columns -/

section Row

variable {columns : List String} {row : NamedRow} {values : List Value} {number : Nat}

/-- A name that comes once has one value. -/
theorem eq_of_mem (h : (row.map (·.1)).Nodup) {name : String} {v w : Value}
    (hv : (name, v) ∈ row) (hw : (name, w) ∈ row) : v = w := by
  have hfound := lookup_of_mem h hv
  rw [lookup_of_mem h hw] at hfound
  exact (Option.some.inj hfound).symm

theorem eq_of_pairs (h : (row.map (·.1)).Nodup) {others : List Value}
    (hvalues : Pairs row columns values) (hothers : Pairs row columns others) :
    values = others := by
  induction hvalues generalizing others with
  | nil =>
    cases hothers
    rfl
  | cons hv _ ih =>
    cases hothers with
    | cons hw hrest => rw [eq_of_mem h hv hw, ih hrest]

/-- What is picked from a row is paired there with the columns. -/
theorem pairs_of_pick (h : pick number row columns = .ok values) : Pairs row columns values := by
  induction columns generalizing values with
  | nil =>
    obtain rfl := Except.ok.inj h
    exact .nil
  | cons column columns ih =>
    rw [pick] at h
    split at h
    · next value hfound =>
      obtain ⟨rest, hrest, h⟩ := bind_eq_ok_iff.mp h
      obtain rfl := Except.ok.inj h
      obtain ⟨before, after, rfl, -⟩ := List.lookup_eq_some_iff.mp hfound
      exact .cons (by simp) (ih hrest)
    · cases h

/-- Values that a row pairs with the columns are picked from it if its names are different. -/
theorem pick_of_pairs (hnodup : (row.map (·.1)).Nodup) (h : Pairs row columns values) :
    pick number row columns = .ok values := by
  induction h with
  | nil => rfl
  | cons hv _ ih =>
    rw [pick, lookup_of_mem hnodup hv]
    simp only [ih]
    rfl

/-- A row has a value for each of its names. -/
theorem exists_pairs (h : columns ⊆ row.map (·.1)) : ∃ values, Pairs row columns values := by
  refine exists_forall₂_iff.mpr fun column hcolumn => ?_
  obtain ⟨⟨name, value⟩, hmem, rfl⟩ := List.mem_map.mp (h hcolumn)
  exact ⟨value, hmem⟩

theorem subset_names_of_pairs (h : Pairs row columns values) : columns ⊆ row.map (·.1) := by
  induction h with
  | nil => exact List.nil_subset _
  | cons hv _ ih => exact List.cons_subset.mpr ⟨List.mem_map_of_mem hv, ih⟩

/-- A row that has all columns among its names, and no more names than that, has them in some
order: by counting, no name comes twice. -/
theorem perm_of_subset_names (hcolumns : columns.Nodup) (h : columns ⊆ row.map (·.1))
    (hlength : row.length = columns.length) : (row.map (·.1)).Perm columns := by
  have hsub : columns.Subperm (row.map (·.1)) := List.subperm_of_subset hcolumns h
  have hcount : (row.map (·.1)).length ≤ columns.length := by
    rw [List.length_map]
    exact Nat.le_of_eq hlength
  exact (hsub.perm_of_length_le hcount).symm

theorem lookup_eq_none_iff {name : String} :
    row.lookup name = none ↔ name ∉ row.map (·.1) := by
  rw [List.lookup_eq_none_iff, List.mem_map]
  constructor
  · rintro h ⟨pair, hpair, hname⟩
    simpa [hname] using h pair hpair
  · intro h pair hpair
    exact bne_iff_ne.mpr fun hname => h ⟨pair, hpair, hname.symm⟩

theorem checkKnown_eq_ok_iff {names : List String} :
    checkKnown columns number names = .ok () ↔
      (∀ name ∈ names, IsValid name) ∧ names ⊆ columns := by
  refine ⟨fun h => ?_, fun h => checkKnown_of_subset number h.1 h.2⟩
  induction names with
  | nil => simp
  | cons name names ih =>
    rw [checkKnown, unit_bind_eq_ok_iff, ColumnName.validate_eq_ok_iff] at h
    obtain ⟨hname, h⟩ := h
    by_cases hknown : name ∈ columns
    · obtain ⟨hvalid, hsub⟩ := ih (by simpa [hknown, bind, Except.bind] using h)
      exact ⟨List.forall_mem_cons.mpr ⟨hname, hvalid⟩, List.cons_subset.mpr ⟨hknown, hsub⟩⟩
    · simp [hknown, bind, Except.bind, throw, throwThe, MonadExceptOf.throw] at h

/-- A later row is accepted exactly if it has the columns as its names in some order. -/
theorem arrange_eq_ok_iff (hvalid : ∀ name ∈ columns, IsValid name) (hnodup : columns.Nodup) :
    arrange columns number row = .ok values ↔ LaidOut columns row values := by
  rw [arrange, unit_bind_eq_ok_iff, checkKnown_eq_ok_iff]
  constructor
  · rintro ⟨⟨-, hknown⟩, h⟩
    by_cases hlength : row.length = columns.length
    · have hpick : pick number row columns = .ok values := by
        simpa [hlength, bind, Except.bind] using h
      have hvalues := pairs_of_pick hpick
      exact ⟨perm_of_subset_names hnodup (subset_names_of_pairs hvalues) hlength, hvalues⟩
    · simp [hlength, bind, Except.bind, throw, throwThe, MonadExceptOf.throw] at h
  · rintro ⟨hnames, hvalues⟩
    have hlength : row.length = columns.length := by
      rw [← hnames.length_eq, List.length_map]
    have hpick : pick number row columns = .ok values :=
      pick_of_pairs (hnames.nodup_iff.mpr hnodup) hvalues
    refine ⟨⟨fun name hname => hvalid name (hnames.subset hname), hnames.subset⟩, ?_⟩
    simpa [hlength, bind, Except.bind] using hpick

namespace LaidOut

theorem length_eq (h : LaidOut columns row values) : values.length = columns.length :=
  h.values.length_eq.symm

/-- Every value of the row comes once. -/
theorem perm (h : LaidOut columns row values) (hnodup : columns.Nodup) :
    values.Perm (row.map (·.2)) := by
  have hfst := map_fst_zip h.length_eq
  have hzip : (columns.zip values).Perm row := by
    have hmem : columns.zip values ⊆ row := by
      intro pair hpair
      exact List.forall₂_iff_zip.mp h.values |>.2 hpair
    have hdifferent : (columns.zip values).Nodup := .of_map (·.1) (by rwa [hfst])
    have hlength : row.length = (columns.zip values).length := by
      rw [List.length_zip, h.length_eq, Nat.min_self, ← h.names.length_eq, List.length_map]
    exact (List.subperm_of_subset hdifferent hmem).perm_of_length_le (Nat.le_of_eq hlength)
  have hsnd := hzip.map (·.2)
  rwa [map_snd_zip h.length_eq] at hsnd

/-- The value in the place of a column is the one that the row pairs with it. -/
theorem getElem?_eq_some_iff (h : LaidOut columns row values) (hnodup : columns.Nodup) {j : Nat}
    {column : String} (hcolumn : columns[j]? = some column) {v : Value} :
    values[j]? = some v ↔ (column, v) ∈ row := by
  obtain ⟨hj, rfl⟩ := List.getElem?_eq_some_iff.mp hcolumn
  have hj' : j < values.length := h.length_eq ▸ hj
  have hmem : (columns[j], values[j]) ∈ row := (List.forall₂_iff_get.mp h.values).2 j hj hj'
  rw [List.getElem?_eq_getElem hj', Option.some_inj]
  constructor
  · rintro rfl
    exact hmem
  · exact eq_of_mem (h.names.nodup_iff.mpr hnodup) hmem

/-- The order of the pairs in a row does not matter. -/
theorem of_perm (h : LaidOut columns row values) {row' : NamedRow} (hrow : row.Perm row') :
    LaidOut columns row' values where
  names := (hrow.symm.map (·.1)).trans h.names
  values := h.values.imp fun _ _ hmem => hrow.subset hmem

end LaidOut

end Row

/-! ## Taking pairs out of a row -/

section Taking

/-- The list without the element at a place, which the last one comes to fill. -/
def swapRemove {α : Type} (l : List α) (i : Nat) : List α :=
  match l.getLast? with
  | none => []
  | some last => (l.set i last).dropLast

/-- The element that is removed and what remains are the list in another order. -/
theorem perm_swapRemove {α : Type} (l : List α) (i : Nat) (h : i < l.length) :
    l ~ l[i] :: swapRemove l i := by
  rcases List.eq_nil_or_concat' l with rfl | ⟨before, last, rfl⟩
  · simp at h
  -- The last element moves, unless it is the one to remove.
  by_cases hi : i < before.length
  · have hrest : swapRemove (before ++ [last]) i = before.set i last := by
      simp [swapRemove, List.set_append_left i last hi]
    have hitem : (before ++ [last])[i] = before[i] := List.getElem_append_left hi
    rw [hrest, hitem]
    calc
      before ++ [last] ~ last :: before := List.perm_append_singleton last before
      _ ~ last :: before[i] :: before.eraseIdx i :=
        (List.getElem_cons_eraseIdx_perm hi).symm.cons last
      _ ~ before[i] :: last :: before.eraseIdx i := .swap _ _ _
      _ ~ before[i] :: before.set i last := (List.set_perm_cons_eraseIdx hi last).symm.cons _
  · obtain rfl : i = before.length := by
      rw [List.length_append, List.length_singleton] at h
      omega
    have hrest : swapRemove (before ++ [last]) before.length = before := by
      simp [swapRemove]
    rw [hrest, List.getElem_concat_length rfl]
    exact List.perm_append_singleton last before

/-- The value that a row gives a name first, and the row without that pair. -/
def takeOut (row : NamedRow) (name : String) : Option (Value × NamedRow) :=
  match row.findIdx? (·.1 == name) with
  | none => none
  | some i => row[i]?.map fun pair => (pair.2, swapRemove row i)

theorem perm_of_takeOut {row rest : NamedRow} {name : String} {value : Value}
    (h : takeOut row name = some (value, rest)) : row.Perm ((name, value) :: rest) := by
  rw [takeOut] at h
  split at h
  · cases h
  · next i hfound =>
    obtain ⟨hi, hname, -⟩ := List.findIdx?_eq_some_iff_getElem.mp hfound
    rw [List.getElem?_eq_getElem hi, Option.map_some, Option.some_inj, Prod.mk.injEq] at h
    obtain ⟨hvalue, hrest⟩ := h
    have hpair : row[i] = (name, value) := Prod.ext (beq_iff_eq.mp hname) hvalue
    rw [← hpair, ← hrest]
    exact perm_swapRemove row i hi

theorem takeOut_eq_none_iff {row : NamedRow} {name : String} :
    takeOut row name = none ↔ name ∉ row.map (·.1) := by
  rw [takeOut]
  split
  · next hfound =>
    rw [List.findIdx?_eq_none_iff] at hfound
    simpa using fun value hmem => by simpa using hfound (name, value) hmem
  · next i hfound =>
    obtain ⟨hi, hname, -⟩ := List.findIdx?_eq_some_iff_getElem.mp hfound
    have hmem : name ∈ row.map (·.1) := by
      rw [← beq_iff_eq.mp hname]
      exact List.mem_map_of_mem (List.getElem_mem hi)
    simp [hi, hmem]

/-- The values of a row, taken out of it in the order of the columns. -/
def takeEach (number : Nat) : NamedRow → List String → Except QueryError (List Value)
  | _, [] => .ok []
  | row, column :: columns => do
    match takeOut row column with
    | some (value, rest) => return value :: (← takeEach number rest columns)
    | none =>
      throw (.invalidColumn
        ("row " ++ toString number ++ " has no value for column '" ++ column ++ "'"))

/-- The values of later rows after the ones that are there, each row taken apart. -/
def appendRows (columns : List String) :
    Nat → List Value → List NamedRow → Except QueryError (List Value)
  | _, values, [] => .ok values
  | number, values, row :: rows => do
    checkKnown columns number (row.map (·.1))
    if row.length ≠ columns.length then
      throw (.rowArityMismatch row.length columns.length)
    appendRows columns (number + 1) (values ++ (← takeEach number row columns)) rows

/-- The columns of some rows, and the values of all of them in one list. -/
def flattenRows : List NamedRow → Except QueryError (List String × List Value)
  | [] | [] :: _ => .error .emptyInsertData
  | first :: later => do
    let columns := first.map (·.1)
    checkColumns [] columns
    return (columns, ← appendRows columns 1 (first.map (·.2)) later)

variable {columns : List String} {row rest : NamedRow} {number : Nat}

theorem cons_bind_eq_error_iff {v : Value} {x : Except QueryError (List Value)} {e : QueryError} :
    (do return v :: (← x)) = Except.error e ↔ x = .error e := by
  cases x <;> simp [bind, Except.bind, pure, Except.pure]

/-- As long as the same columns are left, taking and picking fail for the same one. -/
theorem takeEach_eq_error_iff (hcolumns : columns.Nodup)
    (h : ∀ column ∈ columns, column ∈ rest.map (·.1) ↔ column ∈ row.map (·.1)) {e : QueryError} :
    takeEach number rest columns = .error e ↔ pick number row columns = .error e := by
  induction columns generalizing rest with
  | nil => simp [takeEach, pick]
  | cons column columns ih =>
    rw [List.forall_mem_cons] at h
    rw [List.nodup_cons] at hcolumns
    have hlookup : row.lookup column = none ↔ takeOut rest column = none := by
      rw [lookup_eq_none_iff, takeOut_eq_none_iff, h.1]
    rw [takeEach, pick]
    cases hout : takeOut rest column with
    | none => rw [hlookup.mpr hout]
    | some out =>
      obtain ⟨value, left⟩ := out
      have hperm := perm_of_takeOut hout
      -- The later columns differ from this one, so their pairs are still there, if out of place.
      have hleft : ∀ other ∈ columns, other ∈ left.map (·.1) ↔ other ∈ row.map (·.1) := by
        intro other hother
        have hne : other ≠ column := fun he => hcolumns.1 (he ▸ hother)
        rw [← h.2 other hother, (hperm.map (·.1)).mem_iff]
        simp [hne]
      have hrest := ih hcolumns.2 hleft
      cases hfound : row.lookup column with
      | none => simp [hlookup.mp hfound] at hout
      | some found =>
        exact cons_bind_eq_error_iff.trans (hrest.trans cons_bind_eq_error_iff.symm)

/-- What is taken out of a row was paired there with the columns. -/
theorem pairs_of_takeEach {values : List Value} (h : takeEach number row columns = .ok values) :
    Pairs row columns values := by
  induction columns generalizing row values with
  | nil =>
    rw [takeEach] at h
    obtain rfl := Except.ok.inj h
    exact .nil
  | cons column columns ih =>
    rw [takeEach] at h
    split at h
    · next value rest hout =>
      obtain ⟨others, hothers, h⟩ := bind_eq_ok_iff.mp h
      obtain rfl := Except.ok.inj h
      have hperm := perm_of_takeOut hout
      refine .cons (hperm.symm.subset List.mem_cons_self) ?_
      exact (ih hothers).imp fun _ _ hmem => hperm.symm.subset (List.mem_cons_of_mem _ hmem)
    · cases h

/-- Whether its pairs are looked up or taken out, a row of the right length gives the same values.
If it gives any, its names are different by counting, so no pair can stand for another. -/
theorem takeEach_eq_pick (hcolumns : columns.Nodup) (hlength : row.length = columns.length) :
    takeEach number row columns = pick number row columns := by
  have herror {e : QueryError} :
      takeEach number row columns = .error e ↔ pick number row columns = .error e :=
    takeEach_eq_error_iff hcolumns fun _ _ => Iff.rfl
  cases hpick : pick number row columns with
  | error e => exact herror.mpr hpick
  | ok values =>
    cases htake : takeEach number row columns with
    | error e => simp [herror.mp htake] at hpick
    | ok others =>
      have hvalues := pairs_of_pick hpick
      have hnames := perm_of_subset_names hcolumns (subset_names_of_pairs hvalues) hlength
      have hsame := eq_of_pairs (hnames.nodup_iff.mpr hcolumns)
        (pairs_of_takeEach htake) hvalues
      rw [hsame]

theorem appendRows_eq (hcolumns : columns.Nodup) (number : Nat) (values : List Value)
    (rows : List NamedRow) :
    appendRows columns number values rows =
      (arrangeAll columns number rows).map fun more => values ++ more.flatten := by
  induction rows generalizing number values with
  | nil => simp [appendRows, arrangeAll, Except.map]
  | cons row rows ih =>
    rw [appendRows, arrangeAll, arrange]
    cases checkKnown columns number (row.map (·.1)) with
    | error e => rfl
    | ok _ =>
      by_cases hlength : row.length = columns.length
      · simp only [hlength, ne_eq, not_true_eq_false, if_false, bind, Except.bind,
          takeEach_eq_pick hcolumns hlength]
        cases pick number row columns with
        | error e => rfl
        | ok picked =>
          simp only [ih]
          cases arrangeAll columns (number + 1) rows with
          | error e => rfl
          | ok more => simp [Except.map, pure, Except.pure]
      · simp [hlength, bind, Except.bind, Except.map, throw, throwThe, MonadExceptOf.throw]

/-- The rows laid out one value after another are the table, row after row. -/
theorem flattenRows_eq (rows : List NamedRow) :
    flattenRows rows = (ofRows rows).map fun t => (t.columns, t.rows.flatten) := by
  match rows with
  | [] | [] :: _ => rfl
  | (pair :: first) :: later =>
    simp only [flattenRows, ofRows]
    cases hcheck : checkColumns [] ((pair :: first).map (·.1)) with
    | error e => rfl
    | ok _ =>
      simp only [bind, Except.bind, appendRows_eq (checkColumns_eq_ok_iff.mp hcheck).2.1]
      cases arrangeAll ((pair :: first).map (·.1)) 1 later with
      | error e => rfl
      | ok more => rfl

end Taking

/-! ## Tables of rows -/

section Table

variable {columns : List String} {rows : List NamedRow} {table : List (List Value)}

/-- The first row lies as it is, under its own names. -/
theorem laidOut_names {row : NamedRow} {values : List Value} (hnodup : (row.map (·.1)).Nodup) :
    LaidOut (row.map (·.1)) row values ↔ values = row.map (·.2) := by
  have hown : Pairs row (row.map (·.1)) (row.map (·.2)) := by
    rw [Pairs, List.forall₂_map_left_iff, List.forall₂_map_right_iff, List.forall₂_same]
    exact fun pair hpair => hpair
  constructor
  · intro h
    exact eq_of_pairs hnodup h.values hown
  · rintro rfl
    exact ⟨.refl _, hown⟩

theorem arrangeAll_eq_ok_iff {number : Nat} (hvalid : ∀ name ∈ columns, IsValid name)
    (hnodup : columns.Nodup) :
    arrangeAll columns number rows = .ok table ↔ List.Forall₂ (LaidOut columns) rows table := by
  induction rows generalizing number table with
  | nil => simp [arrangeAll, eq_comm]
  | cons row rows ih =>
    simp only [arrangeAll, bind_eq_ok_iff, arrange_eq_ok_iff hvalid hnodup, ih]
    constructor
    · rintro ⟨values, hvalues, more, hmore, h⟩
      obtain rfl := Except.ok.inj h
      exact .cons hvalues hmore
    · rintro (_ | ⟨hvalues, hmore⟩)
      exact ⟨_, hvalues, _, hmore, rfl⟩

/-- A table is made if the names of the first row are column names, all different, and every row is
laid out under them. -/
theorem ofRows_cons_eq_ok_iff {first : NamedRow} {later : List NamedRow} {t : RowTable} :
    ofRows (first :: later) = .ok t ↔ first ≠ [] ∧ t.columns = first.map (·.1) ∧
      (∀ name ∈ t.columns, IsValid name) ∧ t.columns.Nodup ∧
        List.Forall₂ (LaidOut t.columns) (first :: later) t.rows := by
  constructor
  · intro h
    by_cases hne : first = []
    · subst hne
      cases h
    rw [ofRows_cons hne, unit_bind_eq_ok_iff, checkColumns_eq_ok_iff, bind_eq_ok_iff] at h
    obtain ⟨⟨hvalid, hnodup, -⟩, more, hmore, h⟩ := h
    obtain rfl := Except.ok.inj h
    rw [arrangeAll_eq_ok_iff hvalid hnodup] at hmore
    exact ⟨hne, rfl, hvalid, hnodup, .cons ((laidOut_names hnodup).mpr rfl) hmore⟩
  · rintro ⟨hne, hcolumns, hvalid, hnodup, hrows⟩
    obtain ⟨columns, table⟩ := t
    obtain rfl : columns = first.map (·.1) := hcolumns
    cases hrows with
    | cons hfirst hlater =>
      rw [ofRows_cons hne, unit_bind_eq_ok_iff, checkColumns_eq_ok_iff, bind_eq_ok_iff]
      refine ⟨⟨hvalid, hnodup, by simp⟩, _, (arrangeAll_eq_ok_iff hvalid hnodup).mpr hlater, ?_⟩
      rw [(laidOut_names hnodup).mp hfirst]
      rfl

theorem laidOut_of_ofRows {t : RowTable} (h : ofRows rows = .ok t) :
    t.columns.Nodup ∧ List.Forall₂ (LaidOut t.columns) rows t.rows := by
  cases rows with
  | nil => cases h
  | cons first later =>
    obtain ⟨-, -, -, hnodup, hrows⟩ := ofRows_cons_eq_ok_iff.mp h
    exact ⟨hnodup, hrows⟩

theorem getElem?_flatten_of_fit {α : Type} {rows : List (List α)} {n : Nat}
    (h : ∀ row ∈ rows, row.length = n) (i : Nat) {j : Nat} (hj : j < n) :
    rows.flatten[i * n + j]? = rows[i]?.bind (·[j]?) := by
  induction rows generalizing i with
  | nil => simp
  | cons row rows ih =>
    rw [List.forall_mem_cons] at h
    cases i with
    | zero => simp [List.getElem?_append_left (h.1.symm ▸ hj : j < row.length)]
    | succ i =>
      have hshift : (i + 1) * n + j = row.length + (i * n + j) := by
        rw [h.1, Nat.add_one_mul]
        omega
      rw [List.flatten_cons, hshift, List.getElem?_append_right (Nat.le_add_right _ _),
        Nat.add_sub_cancel_left, ih h.2, List.getElem?_cons_succ]

theorem length_eq_of_laidOut (h : List.Forall₂ (LaidOut columns) rows table) :
    ∀ values ∈ table, values.length = columns.length := by
  induction h with
  | nil => simp
  | cons hrow _ ih => exact List.forall_mem_cons.mpr ⟨hrow.length_eq, ih⟩

theorem length_flatten_of_laidOut (h : List.Forall₂ (LaidOut columns) rows table) :
    table.flatten.length = rows.length * columns.length := by
  rw [Query.length_flatten_of_fit (length_eq_of_laidOut h), h.length_eq]

theorem flatten_perm_of_laidOut (hnodup : columns.Nodup)
    (h : List.Forall₂ (LaidOut columns) rows table) :
    table.flatten.Perm (rows.flatten.map (·.2)) := by
  induction h with
  | nil => exact .refl _
  | cons hrow _ ih =>
    rw [List.flatten_cons, List.flatten_cons, List.map_append]
    exact (hrow.perm hnodup).append ih

/-- The value of a cell is the one that the row pairs with the column. -/
theorem getElem?_flatten_of_laidOut (hnodup : columns.Nodup)
    (h : List.Forall₂ (LaidOut columns) rows table) {i j : Nat} {row : NamedRow} {column : String}
    (hrow : rows[i]? = some row) (hcolumn : columns[j]? = some column) {v : Value} :
    table.flatten[i * columns.length + j]? = some v ↔ (column, v) ∈ row := by
  obtain ⟨hj, -⟩ := List.getElem?_eq_some_iff.mp hcolumn
  obtain ⟨hi, rfl⟩ := List.getElem?_eq_some_iff.mp hrow
  have hi' : i < table.length := h.length_eq ▸ hi
  have hcell : LaidOut columns rows[i] table[i] := (List.forall₂_iff_get.mp h).2 i hi hi'
  rw [getElem?_flatten_of_fit (length_eq_of_laidOut h) i hj, List.getElem?_eq_getElem hi',
    Option.bind_some]
  exact hcell.getElem?_eq_some_iff hnodup hcolumn

/-- The order of the pairs within the rows does not matter. -/
theorem laidOut_of_perm {rows' : List NamedRow} (hrows : List.Forall₂ List.Perm rows rows')
    (h : List.Forall₂ (LaidOut columns) rows table) :
    List.Forall₂ (LaidOut columns) rows' table := by
  induction hrows generalizing table with
  | nil => exact h
  | cons hperm _ ih =>
    cases h with
    | cons hrow hrest => exact .cons (hrow.of_perm hperm) (ih hrest)

/-- Rows with the columns as their names can be laid out. -/
theorem exists_laidOut_iff :
    (∃ table, List.Forall₂ (LaidOut columns) rows table) ↔
      ∀ row ∈ rows, (row.map (·.1)).Perm columns := by
  rw [exists_forall₂_iff]
  refine forall₂_congr fun row _ => ⟨fun ⟨_, h⟩ => h.names, fun hnames => ?_⟩
  obtain ⟨values, hvalues⟩ := exists_pairs hnames.symm.subset
  exact ⟨values, hnames, hvalues⟩

theorem exists_ofRows_cons_iff {first : NamedRow} {later : List NamedRow} :
    (∃ t, ofRows (first :: later) = .ok t) ↔ first ≠ [] ∧
      (∀ name ∈ first.map (·.1), IsValid name) ∧ (first.map (·.1)).Nodup ∧
      ∀ row ∈ later, (row.map (·.1)).Perm (first.map (·.1)) := by
  constructor
  · rintro ⟨t, ht⟩
    obtain ⟨hne, hcolumns, hvalid, hnodup, hrows⟩ := ofRows_cons_eq_ok_iff.mp ht
    rw [hcolumns] at hvalid hnodup hrows
    have hnames := exists_laidOut_iff.mp ⟨_, hrows⟩
    exact ⟨hne, hvalid, hnodup, (List.forall_mem_cons.mp hnames).2⟩
  · rintro ⟨hne, hvalid, hnodup, hnames⟩
    obtain ⟨table, htable⟩ := exists_laidOut_iff.mpr
      (List.forall_mem_cons.mpr ⟨.refl (first.map (·.1)), hnames⟩)
    exact ⟨⟨first.map (·.1), table⟩,
      ofRows_cons_eq_ok_iff.mpr ⟨hne, rfl, hvalid, hnodup, htable⟩⟩

/-- The order of the pairs in the later rows does not matter. -/
theorem ofRows_of_perm {t : RowTable} {first : NamedRow} {later later' : List NamedRow}
    (hperm : List.Forall₂ List.Perm later later') (ht : ofRows (first :: later) = .ok t) :
    ofRows (first :: later') = .ok t := by
  obtain ⟨hne, hcolumns, hvalid, hnodup, hrows⟩ := ofRows_cons_eq_ok_iff.mp ht
  exact ofRows_cons_eq_ok_iff.mpr ⟨hne, hcolumns, hvalid, hnodup,
    laidOut_of_perm (.cons (.refl first) hperm) hrows⟩

/-- A query without a statement gets a table as an INSERT of its rows. -/
theorem insertTable_eq {q : Query} (hq : q.statement = none) (t : RowTable) :
    q.insertTable t = .ok { q with statement := some (.insert t.columns t.rows false []) } := by
  have hchoose := q.choose_eq (.insert t.columns t.rows false [])
  rwa [hq] at hchoose

/-- Rows make a table exactly if the first of them has names, all different and all column names,
and the later ones have the same names in some order.

The columns are then the names of the first row, and the value in the place of a row and a column is
the one that the row pairs with it. So every value is there once, and the order of the pairs in the
later rows does not matter. Taking the pairs out of the rows gives the same, and the query gets the
table as its statement. -/
theorem ofRows_lays_out_by_name (rows : List NamedRow) :
    ((∃ t, ofRows rows = .ok t) ↔ ∃ first later, rows = first :: later ∧ first ≠ [] ∧
      (∀ name ∈ first.map (·.1), ColumnName.validate name = .ok ()) ∧ (first.map (·.1)).Nodup ∧
      ∀ row ∈ later, (row.map (·.1)).Perm (first.map (·.1))) ∧
    (∀ t first later, ofRows rows = .ok t → rows = first :: later →
      t.columns = first.map (·.1) ∧
      t.rows.flatten.length = rows.length * t.columns.length ∧
      (∀ (i j : Nat) (row : NamedRow) (column : String) (v : Value),
        rows[i]? = some row → t.columns[j]? = some column →
          (t.rows.flatten[i * t.columns.length + j]? = some v ↔ (column, v) ∈ row)) ∧
      t.rows.flatten.Perm (rows.flatten.map (·.2)) ∧
      ∀ later', List.Forall₂ List.Perm later later' → ofRows (first :: later') = .ok t) ∧
    flattenRows rows = (ofRows rows).map (fun t => (t.columns, t.rows.flatten)) ∧
    ∀ q : Query, q.statement = none → q.insertRows rows = (ofRows rows).map fun t =>
      { q with statement := some (.insert t.columns t.rows false []) } := by
  refine ⟨?_, ?_, flattenRows_eq rows, ?_⟩
  · simp only [ColumnName.validate_eq_ok_iff]
    constructor
    · rintro ⟨t, ht⟩
      cases rows with
      | nil => cases ht
      | cons first later => exact ⟨first, later, rfl, exists_ofRows_cons_iff.mp ⟨t, ht⟩⟩
    · rintro ⟨first, later, rfl, h⟩
      exact exists_ofRows_cons_iff.mpr h
  · rintro t first later ht rfl
    obtain ⟨-, hcolumns, -, hnodup, hrows⟩ := ofRows_cons_eq_ok_iff.mp ht
    refine ⟨hcolumns, length_flatten_of_laidOut hrows, ?_, flatten_perm_of_laidOut hnodup hrows,
      fun later' hperm => ofRows_of_perm hperm ht⟩
    intro i j row column v hrow hcolumn
    exact getElem?_flatten_of_laidOut hnodup hrows hrow hcolumn
  · intro q hq
    rw [Query.insertRows_eq]
    cases ofRows rows with
    | error e => rfl
    | ok t => exact insertTable_eq hq t

/-- A second row in another order goes under the names of the first, and turning it around changes
nothing. -/
theorem ofRows_lays_out_turned_row :
    let first : NamedRow := [("b", .int 1), ("a", .int 2)]
    let second : NamedRow := [("a", .int 3), ("b", .null)]
    let t : RowTable := ⟨["b", "a"], [[.int 1, .int 2], [.null, .int 3]]⟩
    (∃ t, ofRows [first, second] = .ok t) ∧ ofRows [first, second] = .ok t ∧
      t.rows.flatten[1 * t.columns.length + 0]? = some .null ∧
      ofRows [first, second.reverse] = .ok t ∧
      Query.new.insertRows [first, second] =
        .ok { Query.new with statement := some (.insert t.columns t.rows false []) } := by
  intro first second t
  have ht : ofRows [first, second] = .ok t := rfl
  obtain ⟨hok, hlaid, -, hquery⟩ := ofRows_lays_out_by_name [first, second]
  obtain ⟨-, -, hcell, -, hperm⟩ := hlaid t first [second] ht rfl
  refine ⟨hok.mpr ⟨first, [second], rfl, by decide, by decide, by decide, ?_⟩, ht,
    (hcell 1 0 second "b" .null rfl rfl).mpr (by decide),
    hperm [second.reverse] (.cons (List.reverse_perm second).symm .nil), ?_⟩
  · exact List.forall_mem_singleton.mpr (.swap _ _ [])
  · rw [hquery .new rfl, ht]
    rfl

end Table

end RowTable

end BoundSql
