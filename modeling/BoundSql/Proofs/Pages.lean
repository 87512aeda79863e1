import BoundSql.Proofs.Faults
import BoundSql.Proofs.Reordering
import Mathlib.Data.Nat.Basic

/-!
# Pages of a SELECT

A page number and a size select a window of rows: as many as the size says, behind the rows of all
pages before. For a given size the pages tile the rows. Each row is on one page, whose number is the
quotient of the row's index by the size, counted from 1, and each page starts where the one before
it ends.

The number of rows before a page is a word, and where it would be greater than that it is the
greatest word. No row that has a smaller index than this word is on a page cut off in this way, and
so the pages tile these rows for every size (`Query.pages_tile_rows`).

## Main definitions

* `Query.rowsBefore`, `Query.OnPage` — where a page starts, and the rows on it.
-/

namespace BoundSql

/-- A statement with more text at its end that binds nothing. -/
def BuiltQuery.followedBy (b : BuiltQuery) (sql : String) : BuiltQuery :=
  { b with sql := b.sql ++ sql }

namespace Query

/-! ## The window of a SELECT -/

/-- The query as if nothing had been said on how many rows to return. -/
def withoutWindow (q : Query) : Query := { q with limit := none, offset := none }

theorem selectFragment_eq_append (distinct : Bool) (projection : List Fragment) (target : String)
    (joins : List Join) (conditions : Forest Fragment) (groupBy orderBy : List Fragment)
    (limit offset : Option UInt64) :
    Statement.selectFragment distinct projection target joins conditions groupBy orderBy limit
        offset =
      Statement.selectFragment distinct projection target joins conditions groupBy orderBy none
        none ++ .text (Clause.window limit offset) := by
  ext1 <;> simp [Statement.selectFragment, Clause.window]

/-- A SELECT has its window at the end, and nothing else depends on it. -/
theorem build_of_select {q : Query} {columns : List (Column Query)} {distinct : Bool}
    (hq : q.statement = some (.select columns distinct)) :
    q.build = q.withoutWindow.build.map (·.followedBy (Clause.window q.limit q.offset)) := by
  have hfit : q.RowsFit := rowsFit_of_not_insert (by simp [hq])
  have hfit' : q.withoutWindow.RowsFit := rowsFit_of_not_insert (by simp [hq, withoutWindow])
  have hfaults : q.withoutWindow.faults = q.faults := by
    rw [faults_eq, faults_eq]
    rfl
  have hwritten : q.written =
      q.withoutWindow.written ++ .text (Clause.window q.limit q.offset) := by
    rw [written_eq, written_eq]
    simp only [Outline.written, Outline.map, outline, withoutWindow, hq, Option.map_some,
      Statement.map]
    exact selectFragment_eq_append ..
  have hbuilt : BuiltQuery.ofFragment q.written =
      (BuiltQuery.ofFragment q.withoutWindow.written).followedBy
        (Clause.window q.limit q.offset) := by
    rw [hwritten]
    simp [BuiltQuery.ofFragment, BuiltQuery.followedBy]
  rw [build_eq_report hfit, build_eq_report hfit', report_map, hfaults, hbuilt]

end Query

/-- Steps that do not touch the window leave it as it is. -/
theorem Script.run_window {steps : List Step} (h : .window ∉ Script.footprint steps) (q : Query) :
    (Script.run q steps).1.limit = q.limit ∧ (Script.run q steps).1.offset = q.offset := by
  induction steps generalizing q with
  | nil =>
    rw [Script.run_nil]
    exact ⟨rfl, rfl⟩
  | cons s ss ih =>
    rw [Script.footprint, Finset.notMem_union] at h
    obtain ⟨hs, hss⟩ := h
    obtain ⟨hlimit, hoffset⟩ := ih hss (Script.step q s).1
    rw [Script.run_cons_fst, hlimit, hoffset, ← Script.patch_step q s]
    exact ⟨if_neg hs, if_neg hs⟩

namespace Query

/-! ## Rows of a page -/

/-- The number of rows before a page. -/
def rowsBefore (page perPage : UInt64) : UInt64 := saturatingMul (max page 1 - 1) (max perPage 1)

/-- The row with the given index is on a page. -/
def OnPage (page perPage : UInt64) (row : Nat) : Prop :=
  (rowsBefore page perPage).toNat ≤ row ∧
    row < (rowsBefore page perPage).toNat + max perPage.toNat 1

theorem toNat_saturatingMul (a b : UInt64) :
    (saturatingMul a b).toNat = min (a.toNat * b.toNat) (UInt64.size - 1) := by
  rw [saturatingMul]
  by_cases h : a.toNat * b.toNat < UInt64.size
  · rw [UInt64.toNat_ofNatClamp_of_lt h]
    omega
  · rw [UInt64.toNat_ofNatClamp_of_le (by omega)]
    omega

/-- Neither the subtraction nor the product wraps around. -/
theorem toNat_rowsBefore (page perPage : UInt64) :
    (rowsBefore page perPage).toNat =
      min ((max page.toNat 1 - 1) * max perPage.toNat 1) (UInt64.size - 1) := by
  have hpage : (max page 1 - 1).toNat = max page.toNat 1 - 1 := by
    have hle : 1 ≤ max page 1 := by
      rw [UInt64.le_iff_toNat_le, UInt64.toNat_max]
      exact le_max_right _ _
    rw [UInt64.toNat_sub_of_le _ _ hle, UInt64.toNat_max, UInt64.toNat_one]
  rw [rowsBefore, toNat_saturatingMul, hpage, UInt64.toNat_max, UInt64.toNat_one]

/-- A row is on the page that the quotient of its index by the size tells. -/
theorem onPage_iff (page perPage : UInt64) {row : Nat} (hrow : row < UInt64.size - 1) :
    OnPage page perPage row ↔ max page.toNat 1 = row / max perPage.toNat 1 + 1 := by
  have hsize : 0 < max perPage.toNat 1 := by omega
  rw [OnPage, toNat_rowsBefore]
  generalize max perPage.toNat 1 = size at hsize ⊢
  obtain ⟨before, hbefore⟩ : ∃ before, max page.toNat 1 = before + 1 :=
    ⟨max page.toNat 1 - 1, by omega⟩
  rw [hbefore, Nat.add_sub_cancel, Nat.add_right_cancel_iff, eq_comm, Nat.div_eq_iff hsize]
  -- A page whose start is cut off starts behind every such row.
  omega

/-- A page starts where the one before it ends. -/
theorem toNat_rowsBefore_add_one {page : UInt64} (perPage : UInt64) (hpage : 1 ≤ page.toNat)
    (hlast : page.toNat < UInt64.size - 1) :
    (rowsBefore (page + 1) perPage).toNat =
      min ((rowsBefore page perPage).toNat + max perPage.toNat 1) (UInt64.size - 1) := by
  have hnext : (page + 1).toNat = page.toNat + 1 := by
    rw [UInt64.toNat_add, UInt64.toNat_one]
    exact Nat.mod_eq_of_lt (Nat.add_lt_of_lt_sub hlast)
  obtain ⟨before, hbefore⟩ : ∃ before, page.toNat = before + 1 := ⟨page.toNat - 1, by omega⟩
  rw [toNat_rowsBefore, toNat_rowsBefore, hnext, hbefore]
  generalize max perPage.toNat 1 = size
  have hmul : (before + 1) * size = before * size + size := Nat.succ_mul before size
  have hleft : max (before + 1 + 1) 1 - 1 = before + 1 := by omega
  have hright : max (before + 1) 1 - 1 = before := by omega
  rw [hleft, hright, hmul]
  omega

/-- Every row is on exactly one page. -/
theorem existsUnique_onPage (perPage : UInt64) {row : Nat} (hrow : row < UInt64.size - 1) :
    ∃! page : UInt64, 1 ≤ page ∧ OnPage page perPage row := by
  have hle : row / max perPage.toNat 1 ≤ row := Nat.div_le_self _ _
  have honPage (page : UInt64) :
      1 ≤ page ∧ OnPage page perPage row ↔ page.toNat = row / max perPage.toNat 1 + 1 := by
    rw [onPage_iff _ _ hrow, UInt64.le_iff_toNat_le, UInt64.toNat_one]
    generalize row / max perPage.toNat 1 = quotient
    omega
  have hfits : row / max perPage.toNat 1 + 1 < UInt64.size := by
    generalize row / max perPage.toNat 1 = quotient at hle
    omega
  refine ⟨.ofNatLT _ hfits, (honPage _).mpr UInt64.toNat_ofNatLT, fun page hpage => ?_⟩
  rw [← UInt64.toNat_inj, UInt64.toNat_ofNatLT, (honPage page).mp hpage]

/-- A SELECT on which `paginate` has the last word on the window ends in the page's window. -/
theorem build_of_paginate (q : Query) (page perPage : UInt64) {after : Script}
    {columns : List (Column Query)} {distinct : Bool} (hafter : .window ∉ Script.footprint after)
    (hselect : (Script.run q (.call (.paginate page perPage) :: after)).1.statement =
      some (.select columns distinct)) :
    (Script.run q (.call (.paginate page perPage) :: after)).1.build =
      (Script.run q (.call (.paginate page perPage) :: after)).1.withoutWindow.build.map
        (·.followedBy (" LIMIT " ++ toString (max perPage.toNat 1) ++ " OFFSET " ++
          toString (rowsBefore page perPage).toNat)) := by
  have hpage : (Script.step q (.call (.paginate page perPage))).1 = q.paginate page perPage := by
    rw [Script.step, Script.call]
    rfl
  obtain ⟨hlimit, hoffset⟩ := Script.run_window hafter (q.paginate page perPage)
  rw [Script.run_cons_fst, hpage] at hselect ⊢
  rw [build_of_select hselect, hlimit, hoffset]
  simp only [paginate, withWindow, Clause.window, UInt64.toNat_max, UInt64.toNat_one]
  rfl

/-- For a size, of which 0 counts as 1:

* The start of a page is what the numbers say, up to the greatest word.
* Whatever else a SELECT records, if `paginate` is its last call on the window, it is built as
  without a window, with the size and the start of the page at its end.
* A row is on the page that the quotient of its index by the size tells, and on no other.
* A page starts where the one before it ends. -/
theorem pages_tile_rows (perPage : UInt64) :
    let size := max perPage.toNat 1
    (∀ page, (rowsBefore page perPage).toNat =
        min ((max page.toNat 1 - 1) * size) (UInt64.size - 1)) ∧
      (∀ (q q' : Query) (page : UInt64) (after : Script) (columns : List (Column Query))
          (distinct : Bool), .window ∉ Script.footprint after →
        (Script.run q (.call (.paginate page perPage) :: after)).1 = q' →
        q'.statement = some (.select columns distinct) →
        q'.build = q'.withoutWindow.build.map (·.followedBy (" LIMIT " ++ toString size ++
          " OFFSET " ++ toString (rowsBefore page perPage).toNat))) ∧
      (∀ page, ∀ row < UInt64.size - 1,
        OnPage page perPage row ↔ max page.toNat 1 = row / size + 1) ∧
      (∀ row < UInt64.size - 1, ∃! page, 1 ≤ page ∧ OnPage page perPage row) ∧
      ∀ page : UInt64, 1 ≤ page.toNat → page.toNat < UInt64.size - 1 →
        (rowsBefore (page + 1) perPage).toNat =
          min ((rowsBefore page perPage).toNat + size) (UInt64.size - 1) := by
  refine ⟨fun page => toNat_rowsBefore page perPage, ?_,
    fun page row hrow => onPage_iff page perPage hrow,
    fun row hrow => existsUnique_onPage perPage hrow,
    fun page hpage hlast => toNat_rowsBefore_add_one perPage hpage hlast⟩
  rintro q q' page after columns distinct hafter rfl hselect
  exact build_of_paginate q page perPage hafter hselect

/-- The start of the third page is cut off, and the last row that counts is on the second. -/
theorem pages_tile_rows_of_two :
    let perPage : UInt64 := 9223372036854775808
    let after : Script := [.call (.select [] false), .call (.table "t")]
    let q := (Script.run .new (.call (.paginate 3 perPage) :: after)).1
    .window ∉ Script.footprint after ∧ q.statement = some (.select [] false) ∧
      q.build =
        .ok ⟨"SELECT * FROM t LIMIT 9223372036854775808 OFFSET 18446744073709551615", []⟩ ∧
      18446744073709551614 < UInt64.size - 1 ∧ OnPage 2 perPage 18446744073709551614 ∧
      ¬ OnPage 3 perPage 18446744073709551614 := by
  intro perPage after q
  have hafter : .window ∉ Script.footprint after := by
    simp [after, Script.footprint, Step.footprint, Call.footprint]
  have hselect : q.statement = some (.select [] false) := rfl
  have hrow : 18446744073709551614 < UInt64.size - 1 := by decide
  obtain ⟨-, hbuild, honPage, -, -⟩ := pages_tile_rows perPage
  refine ⟨hafter, hselect, ?_, hrow, (honPage 2 _ hrow).mpr (by decide), fun h => ?_⟩
  · have hbare : q.withoutWindow.build = .ok ⟨"SELECT * FROM t", []⟩ := rfl
    have hsize : max perPage.toNat 1 = 9223372036854775808 := by decide
    have hrows : (rowsBefore 3 perPage).toNat = 18446744073709551615 := by decide
    rw [hbuild .new q 3 after [] false hafter rfl hselect, hbare, hsize, hrows]
    rfl
  · exact absurd ((honPage 3 _ hrow).mp h) (by decide)

end Query

end BoundSql
