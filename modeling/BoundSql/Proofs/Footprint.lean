import BoundSql.Proofs.Representation
import BoundSql.Proofs.Replacing
import Mathlib.Data.Finset.BooleanAlgebra

/-!
# Which components a builder call touches

A query has nine components, and every builder call reads and writes only a few of them, its
footprint. What a group of conditions touches is the tree of conditions and what the steps inside
it touch; a look at the finished statement touches everything.

`Query.patch F p r` is the query with the components in `F` of `p` and the others of `r`. That a
step stays inside its footprint is one equation (`Script.step_patch`): run on a patched query, it
does to the components in `F` what it does on `p`, leaves the others as they are in `r`, and tells
what it tells on `p`.

## Main definitions

* `Component` — the parts of a query that calls are independent in.
* `Call.footprint`, `Step.footprint`, `Script.footprint` — the components that are touched.
* `Query.patch` — a query put together of two others.
-/

namespace BoundSql

variable {Q : Type}

/-- A part of a query that is read and written as a whole. -/
inductive Component where
  /-- The kind of the statement with its columns, rows, assignments and flags. -/
  | statement
  | table
  | tableAlias
  | joins
  /-- The tree of conditions with its cursor. -/
  | conditions
  | groupBy
  | orderBy
  /-- The limit and the offset. -/
  | window
  /-- The name that the statement gets as an item of another one. -/
  | name
  deriving DecidableEq, Repr

instance : Fintype Component where
  elems :=
    {.statement, .table, .tableAlias, .joins, .conditions, .groupBy, .orderBy, .window, .name}
  complete := fun x => by cases x <;> decide

/-! ## Footprints -/

/-- The components that a call reads or writes. -/
def Call.footprint : Call Q → Finset Component
  | .select _ _ | .addSelect _ | .distinct | .delete | .ignore | .insertRows _ | .insertJson _
  | .insertColumns _ | .row _ | .onDuplicateKey _ _ | .set _ _ | .setMany _ => {.statement}
  | .update _ => {.statement, .table}
  | .table _ => {.table}
  | .tableAlias _ => {.tableAlias}
  | .name _ => {.name}
  | .condition _ _ _ _ => {.conditions}
  | .join _ _ _ _ _ => {.joins}
  | .groupBy _ => {.groupBy}
  | .orderBy _ _ => {.orderBy}
  | .limit _ | .offset _ | .window _ _ | .paginate _ _ => {.window}

mutual

/-- The components that a step reads or writes. A step that builds the statement, or replaces the
query, touches all of them. -/
def Step.footprint : Step → Finset Component
  | .call c => c.footprint
  | .group _ body | .nest _ body => insert .conditions (Script.footprint body)
  | .statement => {.statement}
  | .fork _ | .restart _ | .sql | .build => Finset.univ

/-- The components that some step of a script reads or writes. -/
def Script.footprint : List Step → Finset Component
  | [] => ∅
  | s :: ss => s.footprint ∪ Script.footprint ss

end

/-- The call that a step stands for has the step's footprint. -/
theorem Script.footprint_call {c : Call (List Step)} {c' : Call Query}
    (h : Script.call c = .ok c') : c'.footprint = c.footprint := by
  cases c with
  | select _ _ | addSelect _ | groupBy _ | orderBy _ _ | condition _ _ _ _ =>
    rw [call] at h
    obtain ⟨_, _, h⟩ := bind_eq_ok_iff.mp h
    obtain rfl := Except.ok.inj h
    rfl
  | distinct | delete | ignore | table _ | tableAlias _ | name _ | join _ _ _ _ _ | limit _
  | offset _ | window _ _ | paginate _ _ | insertRows _ | insertJson _ | insertColumns _ | row _
  | onDuplicateKey _ _ | update _ | set _ _ | setMany _ =>
    rw [call] at h
    obtain rfl := Except.ok.inj h
    rfl

/-! ## Queries put together of two -/

namespace Query

/-- The components in `F` of one query with the other components of another. -/
def patch (F : Finset Component) (p r : Query) : Query where
  statement := if .statement ∈ F then p.statement else r.statement
  table := if .table ∈ F then p.table else r.table
  tableAlias := if .tableAlias ∈ F then p.tableAlias else r.tableAlias
  joins := if .joins ∈ F then p.joins else r.joins
  conditions := if .conditions ∈ F then p.conditions else r.conditions
  groupBy := if .groupBy ∈ F then p.groupBy else r.groupBy
  orderBy := if .orderBy ∈ F then p.orderBy else r.orderBy
  limit := if .window ∈ F then p.limit else r.limit
  offset := if .window ∈ F then p.offset else r.offset
  name := if .name ∈ F then p.name else r.name

variable {F G : Finset Component} {p q r : Query}

@[simp] theorem patch_univ (p r : Query) : patch Finset.univ p r = p := by
  cases p
  simp [patch]

@[simp] theorem patch_self (F : Finset Component) (q : Query) : patch F q q = q := by
  cases q
  simp [patch]

/-- Swapping the two queries is taking the other components. -/
theorem patch_compl (F : Finset Component) (p r : Query) : patch Fᶜ p r = patch F r p := by
  simp [patch, Finset.mem_compl, ite_not]

/-- Patches of disjoint components may be made in any order. -/
theorem patch_comm (h : Disjoint F G) (p q r : Query) :
    patch F p (patch G q r) = patch G q (patch F p r) := by
  have hcomm {α : Type} (c : Component) (a b d : α) :
      (if c ∈ F then a else if c ∈ G then b else d) =
        if c ∈ G then b else if c ∈ F then a else d := by
    by_cases hF : c ∈ F
    · have hG : c ∉ G := Finset.disjoint_left.mp h hF
      simp [hF, hG]
    · simp [hF]
  simp only [patch, hcomm]

/-! ## Builder calls -/

theorem statement_patch (h : .statement ∈ F) : (patch F p r).statement = p.statement :=
  if_pos h

theorem unsupported_patch (h : .statement ∈ F) (clause : String) :
    (patch F p r).unsupported clause = p.unsupported clause := by
  rw [unsupported, unsupported, statement_patch h]

theorem patch_withStatement (h : .statement ∈ F) (s : Statement Query) :
    { patch F p r with statement := some s } = patch F { p with statement := some s } r := by
  simp [patch, h]

theorem choose_patch (h : .statement ∈ F) (s : Statement Query) :
    (patch F p r).choose s = (p.choose s).map (patch F · r) := by
  rw [choose_eq, choose_eq, statement_patch h]
  cases p.statement with
  | none => exact congrArg Except.ok (patch_withStatement h s)
  | some current => rfl

theorem select_patch (h : .statement ∈ F) (columns : List (Column Query)) (distinct : Bool) :
    (patch F p r).select columns distinct = (p.select columns distinct).map (patch F · r) := by
  rw [select_eq, select_eq]
  exact check_bind_eq_map fun _ => choose_patch h _

theorem insertRows_patch (h : .statement ∈ F) (rows : List NamedRow) :
    (patch F p r).insertRows rows = (p.insertRows rows).map (patch F · r) := by
  rw [insertRows_eq, insertRows_eq]
  exact check_bind_eq_map fun _ => choose_patch h _

theorem insertJson_patch (h : .statement ∈ F) (data : Json) :
    (patch F p r).insertJson data = (p.insertJson data).map (patch F · r) := by
  rw [insertJson_eq, insertJson_eq]
  exact check_bind_eq_map fun _ => choose_patch h _

theorem insertColumns_patch (h : .statement ∈ F) (columns : List String) :
    (patch F p r).insertColumns columns = (p.insertColumns columns).map (patch F · r) := by
  rw [insertColumns_eq, insertColumns_eq]
  exact check_bind_eq_map fun _ => choose_patch h _

theorem addSelect_patch (h : .statement ∈ F) (column : Column Query) :
    (patch F p r).addSelect column = (p.addSelect column).map (patch F · r) := by
  rw [addSelect_eq, addSelect_eq, unsupported_patch h, statement_patch h]
  refine check_bind_eq_map fun _ => ?_
  split
  · exact congrArg Except.ok (patch_withStatement h _)
  · rfl

theorem distinct_patch (h : .statement ∈ F) :
    (patch F p r).distinct = p.distinct.map (patch F · r) := by
  rw [distinct_eq, distinct_eq, unsupported_patch h, statement_patch h]
  split
  · exact congrArg Except.ok (patch_withStatement h _)
  · rfl

theorem ignore_patch (h : .statement ∈ F) :
    (patch F p r).ignore = p.ignore.map (patch F · r) := by
  rw [ignore_eq, ignore_eq, unsupported_patch h, statement_patch h]
  split
  · exact congrArg Except.ok (patch_withStatement h _)
  · rfl

theorem addRow_patch (h : .statement ∈ F) (row : List Value) :
    (patch F p r).addRow row = (p.addRow row).map (patch F · r) := by
  rw [addRow_eq, addRow_eq, unsupported_patch h, statement_patch h]
  split
  · split
    · exact congrArg Except.ok (patch_withStatement h _)
    · rfl
  · rfl

theorem onDuplicateKey_patch (h : .statement ∈ F) (column : String) (value : SetValue) :
    (patch F p r).onDuplicateKey column value =
      (p.onDuplicateKey column value).map (patch F · r) := by
  rw [onDuplicateKey_eq, onDuplicateKey_eq]
  refine check_bind_eq_map fun _ => ?_
  rw [unsupported_patch h, statement_patch h]
  split
  · exact congrArg Except.ok (patch_withStatement h _)
  · rfl

theorem set_patch (h : .statement ∈ F) (column : String) (value : SetValue) :
    (patch F p r).set column value = (p.set column value).map (patch F · r) := by
  rw [set_eq, set_eq]
  refine check_bind_eq_map fun _ => ?_
  rw [unsupported_patch h, statement_patch h]
  split
  · exact congrArg Except.ok (patch_withStatement h _)
  · rfl

theorem update_patch (hs : .statement ∈ F) (ht : .table ∈ F) (table : String) :
    (patch F p r).update table = (p.update table).map (patch F · r) := by
  rw [update_eq, update_eq]
  refine bind_eq_map (choose_patch hs _) fun q => congrArg Except.ok ?_
  simp [withTable, patch, ht]

theorem addCondition_patch (h : .conditions ∈ F) (link : Connective) (column operand : String)
    (comparand : Comparand Query) :
    (patch F p r).addCondition link column operand comparand =
      (p.addCondition link column operand comparand).map (patch F · r) := by
  rw [addCondition_eq, addCondition_eq]
  refine check_bind_eq_map fun condition => congrArg Except.ok ?_
  simp [patch, h]

theorem join_patch (h : .joins ∈ F) (kind : JoinKind) (table left operand right : String) :
    (patch F p r).join kind table left operand right =
      (p.join kind table left operand right).map (patch F · r) := by
  rw [join_eq, join_eq]
  refine check_bind_eq_map fun _ => check_bind_eq_map fun _ => check_bind_eq_map fun _ =>
    check_bind_eq_map fun parsed => ?_
  split
  · refine congrArg Except.ok ?_
    simp [patch, h]
  · rfl

theorem addGroupBy_patch (h : .groupBy ∈ F) (column : Column Query) :
    (patch F p r).addGroupBy column = (p.addGroupBy column).map (patch F · r) := by
  rw [addGroupBy_eq, addGroupBy_eq]
  refine check_bind_eq_map fun _ => congrArg Except.ok ?_
  simp [patch, h]

theorem addOrderBy_patch (h : .orderBy ∈ F) (column : Column Query) (direction : Direction) :
    (patch F p r).addOrderBy column direction =
      (p.addOrderBy column direction).map (patch F · r) := by
  rw [addOrderBy_eq, addOrderBy_eq]
  refine check_bind_eq_map fun _ => congrArg Except.ok ?_
  simp [patch, h]

theorem openGroup_patch (h : .conditions ∈ F) (link : Connective) :
    (patch F p r).openGroup link = patch F (p.openGroup link) r := by
  simp [openGroup, patch, h]

theorem closeGroup_patch (h : .conditions ∈ F) :
    (patch F p r).closeGroup = patch F p.closeGroup r := by
  simp [closeGroup, patch, h]

theorem openGroups_patch (h : .conditions ∈ F) (links : List Connective) :
    (patch F p r).openGroups links = patch F (p.openGroups links) r := by
  induction links generalizing p with
  | nil => rfl
  | cons link links ih => rw [openGroups, openGroups, openGroup_patch h, ih]

theorem closeGroups_patch (h : .conditions ∈ F) (links : List Connective) :
    (patch F p r).closeGroups links = patch F (p.closeGroups links) r := by
  induction links generalizing p with
  | nil => rfl
  | cons link links ih => rw [closeGroups, closeGroups, closeGroup_patch h, ih]

end Query

/-- An attempt on one query with the other components of another. -/
def Attempt.patch (F : Finset Component) (a : Attempt) (r : Query) : Attempt :=
  ⟨.patch F a.query r, a.outcome⟩

namespace Query

variable {F : Finset Component} {p r : Query}

theorem attempt_patch {x : Recording Unit} (hx : x.Atomic)
    (h : x.result (patch F p r) = (x.result p).map (patch F · r)) :
    x.attempt (patch F p r) = (x.attempt p).patch F r := by
  rw [hx.attempt_eq, hx.attempt_eq, h]
  cases x.result p <;> rfl

theorem setMany_patch (h : .statement ∈ F) (pairs : List (String × Value)) :
    (patch F p r).setMany pairs = (p.setMany pairs).patch F r := by
  induction pairs generalizing p with
  | nil => rfl
  | cons pair pairs ih =>
    rw [setMany_cons, setMany_cons, set_patch h]
    cases p.set pair.1 (.value pair.2) with
    | ok q => exact ih
    | error e => rfl

/-- A call reads and writes the components of its footprint only. -/
theorem perform_patch {c : Call Query} (h : c.footprint ⊆ F) (p r : Query) :
    (patch F p r).perform c = (p.perform c).patch F r := by
  -- Most footprints are one component.
  have mem {x : Component} (hx : c.footprint = {x}) : x ∈ F :=
    h (hx ▸ Finset.mem_singleton_self x)
  by_cases hmany : ∃ pairs, c = .setMany pairs
  · obtain ⟨pairs, rfl⟩ := hmany
    exact setMany_patch (mem rfl) pairs
  have hc (pairs) : c ≠ .setMany pairs := fun hc => hmany ⟨pairs, hc⟩
  refine attempt_patch (Recording.atomic_call hc) ?_
  cases c with
  | select columns distinct => exact select_patch (mem rfl) columns distinct
  | addSelect column => exact addSelect_patch (mem rfl) column
  | distinct => exact distinct_patch (mem rfl)
  | delete => exact choose_patch (mem rfl) .delete
  | ignore => exact ignore_patch (mem rfl)
  | condition link column operand comparand =>
    exact addCondition_patch (mem rfl) link column operand comparand
  | join kind table left operand right => exact join_patch (mem rfl) kind table left operand right
  | groupBy column => exact addGroupBy_patch (mem rfl) column
  | orderBy column direction => exact addOrderBy_patch (mem rfl) column direction
  | insertRows rows => exact insertRows_patch (mem rfl) rows
  | insertJson data => exact insertJson_patch (mem rfl) data
  | insertColumns columns => exact insertColumns_patch (mem rfl) columns
  | row values => exact addRow_patch (mem rfl) values
  | onDuplicateKey column value => exact onDuplicateKey_patch (mem rfl) column value
  | update table =>
    have hboth : Component.statement ∈ F ∧ Component.table ∈ F := by
      simpa [Call.footprint, Finset.insert_subset_iff] using h
    exact update_patch hboth.1 hboth.2 table
  | set column value => exact set_patch (mem rfl) column value
  | setMany pairs => exact absurd rfl (hc pairs)
  | table _ | tableAlias _ | name _ | limit _ | offset _ | window _ _ | paginate _ _ =>
    refine congrArg Except.ok ?_
    have hx := mem rfl
    simp [patch, withTable, withTableAlias, withName, withLimit, withOffset, paginate, withWindow,
      hx]

theorem statementName?_patch (h : .statement ∈ F) (p r : Query) :
    (patch F p r).statementName? = p.statementName? := by
  rw [statementName?, statementName?, statement_patch h]

end Query

/-- A run on one query with the other components of another. -/
def GuardedRun.patch (F : Finset Component) (run : GuardedRun) (r : Query) : GuardedRun :=
  { run with query := .patch F run.query r }

/-! ## Steps of a script -/

namespace Script

open Query (patch)

variable {F : Finset Component}

/-- Whatever touches all components does not see the other query of a patch. -/
theorem step_patch_of_univ {s : Step} (h : Finset.univ ⊆ F) (p r : Query) :
    step (patch F p r) s = (patch F (step p s).1 r, (step p s).2) := by
  rw [Finset.univ_subset_iff.mp h, Query.patch_univ, Query.patch_univ]

mutual

/-- A step reads and writes the components of its footprint only. -/
theorem step_patch (r : Query) : ∀ (s : Step), s.footprint ⊆ F → ∀ p,
    step (patch F p r) s = (patch F (step p s).1 r, (step p s).2)
  | .call c, h, p => by
    rw [step, step]
    cases hc : call c with
    | error e => rfl
    | ok c' =>
      have hF : c'.footprint ⊆ F := by simpa [footprint_call hc, Step.footprint] using h
      simp only [Query.perform_patch hF, Attempt.patch]
  | .group link body, h, p => by
    rw [Step.footprint, Finset.insert_subset_iff] at h
    have hrun := runGuarded_patch r body h.2 (p.openGroup link)
    rw [step, step, Query.openGroup_patch h.1, hrun]
    simp only [GuardedRun.patch, Query.closeGroup_patch h.1]
  | .nest links body, h, p => by
    rw [Step.footprint, Finset.insert_subset_iff] at h
    have hrun := runGuarded_patch r body h.2 (p.openGroups links)
    rw [step, step, Query.openGroups_patch h.1, hrun]
    simp only [GuardedRun.patch, GuardedRun.outcome, Query.closeGroups_patch h.1]
  | .statement, h, p => by
    have hs : Component.statement ∈ F := by simpa [Step.footprint] using h
    rw [step, step, Query.statementName?_patch hs]
  | .fork _, h, p | .restart _, h, p | .sql, h, p | .build, h, p => step_patch_of_univ h p r

/-- A script that stops at a failure reads and writes the components of its footprint only. -/
theorem runGuarded_patch (r : Query) : ∀ (steps : List Step), footprint steps ⊆ F → ∀ p,
    runGuarded (patch F p r) steps = (runGuarded p steps).patch F r
  | [], h, p => by
    rw [runGuarded, runGuarded]
    rfl
  | s :: ss, h, p => by
    rw [footprint, Finset.union_subset_iff] at h
    have hstep := step_patch r s h.1 p
    cases herror : (step p s).2.error? with
    | some e =>
      rw [runGuarded_cons_of_failed herror,
        runGuarded_cons_of_failed (e := e) (by rw [hstep, herror]), hstep]
      rfl
    | none =>
      rw [runGuarded_cons_of_done herror, runGuarded_cons_of_done (by rw [hstep, herror]), hstep,
        runGuarded_patch r ss h.2]
      rfl

end

end Script

end BoundSql
