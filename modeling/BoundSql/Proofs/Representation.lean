import BoundSql.Proofs.Changes
import BoundSql.Proofs.Faults

/-!
# What every recorded query keeps

A reachable query is well-formed (`Query.Reachable.wellFormed`): its cursor leads to a group, each
stored condition fits its operand, joins compare by a symbol, names that carry values are column
names, and the values of an INSERT fill whole rows. Whatever is embedded in a reachable query is
reachable too, so this holds at every depth of embedding.

A script that works on one query throughout leaves the cursor where it was
(`Script.cursor_runGuarded`), so a group that was opened for it can be closed after it.

## Main definitions

* `Query.WellFormed` — the invariant.
* `Step.staysInPlace`, `Script.staysInPlace` — scripts that never start over with a new query.
-/

namespace BoundSql

open ColumnName (IsValid)

/-! ## Statements -/

namespace Statement.Change

variable {embedded : List Query} {old : Option (Statement Query)} {s : Statement Query}

theorem isValid (h : s.Change embedded old)
    (hold : ∀ s ∈ old, ∀ name ∈ s.names, IsValid name) : ∀ name ∈ s.names, IsValid name := by
  cases h with
  | select _ _ | delete | update | addSelect _ _ | distinct _ _ => simp [Statement.names]
  | insert hnames _ => simpa [Statement.names] using hnames
  | @row columns row rows ignore onDuplicateKey _ =>
    exact hold (.insert columns rows ignore onDuplicateKey) rfl
  | ignore columns rows ignore onDuplicateKey =>
    exact hold (.insert columns rows ignore onDuplicateKey) rfl
  | onDuplicateKey columns rows ignore assignments hname =>
    have hnames := hold _ rfl
    simp only [Statement.names, List.map_append, List.forall_mem_append] at hnames ⊢
    exact ⟨hnames.1, hnames.2, by simpa using hname⟩
  | set assignments hmore =>
    have hnames := hold _ rfl
    simp only [Statement.names, List.map_append, List.forall_mem_append] at hnames ⊢
    exact ⟨hnames, by simpa using hmore⟩

theorem mem_subQueries (h : s.Change embedded old) {e : Query} (he : e ∈ s.subQueries) :
    (∃ s ∈ old, e ∈ s.subQueries) ∨ e ∈ embedded := by
  cases h with
  | select distinct hsub => exact .inr (hsub he)
  | addSelect distinct hsub =>
    rw [Statement.subQueries, List.flatMap_append, List.mem_append] at he
    rcases he with he | he
    · exact .inl ⟨_, rfl, he⟩
    · exact .inr (hsub (by simpa using he))
  | distinct columns distinct => exact .inl ⟨_, rfl, he⟩
  | delete | update | insert _ _ | row _ _ _ _ | ignore _ _ _ _ | onDuplicateKey _ _ _ _ _
  | set _ _ => simp [Statement.subQueries] at he

end Statement.Change

namespace Query

variable {embedded : List Query} {q q' : Query}

/-- What holds of every recorded query. -/
structure WellFormed (q : Query) : Prop where
  /-- The cursor is a path of positions in range, each of a group. -/
  cursor : Forest.IsPath q.conditions.cursor q.conditions.roots
  /-- A condition has a column and a right side that its operand takes. -/
  conditions : ∀ c ∈ Forest.leaves q.conditions.roots, c.WellFormed
  /-- A join compares by a plain symbol. -/
  joins : ∀ j ∈ q.joins, j.operand.isSymbol = true
  /-- Columns that carry values have names that went through the check. -/
  names : ∀ s ∈ q.statement, ∀ name ∈ s.names, IsValid name
  /-- The values of an INSERT fill whole rows; without columns there are none. -/
  values : ∀ columns rows ignore onDuplicateKey,
    q.statement = some (.insert columns rows ignore onDuplicateKey) →
      columns.length ∣ rows.flatten.length

/-! ## Conditions, joins and names -/

theorem Change.mem_leaves (h : Change embedded q q') {c : Condition Query}
    (hc : c ∈ Forest.leaves q'.conditions.roots) :
    c ∈ Forest.leaves q.conditions.roots ∨ c.WellFormed ∧ c.subQueries ⊆ embedded := by
  cases h with
  | condition link hwell hsub =>
    rcases Forest.mem_leaves_modifyAt hc with hc | hc
    · exact .inl hc
    · obtain rfl : c = _ := by simpa using hc
      exact .inr ⟨hwell, hsub⟩
  | unchanged | settings _ _ _ _ _ | statement _ _ | join _ | groupBy _ | orderBy _ _ =>
    exact .inl hc

theorem Change.mem_joins (h : Change embedded q q') {j : Join} (hj : j ∈ q'.joins) :
    j ∈ q.joins ∨ j.operand.isSymbol = true := by
  cases h with
  | join hsymbol =>
    rcases List.mem_append.mp hj with hj | hj
    · exact .inl hj
    · exact .inr (List.mem_singleton.mp hj ▸ hsymbol)
  | unchanged | settings _ _ _ _ _ | statement _ _ | condition _ _ _ | groupBy _ | orderBy _ _ =>
    exact .inl hj

theorem Change.isValid (h : Change embedded q q')
    (hq : ∀ s ∈ q.statement, ∀ name ∈ s.names, IsValid name) :
    ∀ s ∈ q'.statement, ∀ name ∈ s.names, IsValid name := by
  cases h with
  | @statement s table hs =>
    intro s' hs'
    obtain rfl : s = s' := Option.some.inj hs'
    exact hs.isValid hq
  | unchanged | settings _ _ _ _ _ | condition _ _ _ | join _ | groupBy _ | orderBy _ _ => exact hq

/-- A reachable query is well-formed. -/
theorem Reachable.wellFormed (hq : q.Reachable) : q.WellFormed where
  cursor := hq.conditions.isPath
  conditions := by
    induction hq with
    | new => simp [Query.new]
    | perform _ _ ih _ =>
      intro c hc
      exact ((change_perform _ _).mem_leaves hc).elim (ih c) (·.1)
    | openGroup link _ ih =>
      intro c hc
      exact (Forest.mem_leaves_modifyAt hc).elim (ih c) (by simp)
    | closeGroup _ ih => exact ih
  joins := by
    induction hq with
    | new => simp [Query.new]
    | perform _ _ ih _ =>
      intro j hj
      exact ((change_perform _ _).mem_joins hj).elim (ih j) id
    | openGroup _ _ ih | closeGroup _ ih => exact ih
  names := by
    induction hq with
    | new => simp [Query.new]
    | perform _ _ ih _ => exact (change_perform _ _).isValid ih
    | openGroup _ _ ih | closeGroup _ ih => exact ih
  values := by
    intro columns rows ignore onDuplicateKey hs
    rw [length_flatten_of_fit (hq.rowsFit columns rows ignore onDuplicateKey hs)]
    exact Nat.dvd_mul_left _ _

/-! ## Embedded queries -/

/-- A query is embedded in another one if it is in its statement, in one of its conditions or among
what it groups or orders by. -/
theorem mem_subQueries {e : Query} : e ∈ q.subQueries ↔
    (∃ s ∈ q.statement, e ∈ s.subQueries) ∨
      (∃ c ∈ Forest.leaves q.conditions.roots, e ∈ c.subQueries) ∨
      (∃ c ∈ q.groupBy, e ∈ c.subQueries) ∨ ∃ o ∈ q.orderBy, e ∈ o.subQueries := by
  have hs : e ∈ (q.statement.map Statement.subQueries).getD [] ↔
      ∃ s ∈ q.statement, e ∈ s.subQueries := by
    cases q.statement <;> simp
  simp only [subQueries, Outline.subQueries, outline, List.mem_append, List.mem_flatMap, hs,
    or_assoc]

theorem Change.mem_subQueries (h : Change embedded q q') {e : Query} (he : e ∈ q'.subQueries) :
    e ∈ q.subQueries ∨ e ∈ embedded := by
  rw [Query.mem_subQueries] at he ⊢
  rcases he with ⟨s, hs, he⟩ | ⟨c, hc, he⟩ | ⟨c, hc, he⟩ | ⟨o, ho, he⟩
  · cases h with
    | statement table hchange =>
      obtain rfl : _ = s := Option.some.inj hs
      exact (hchange.mem_subQueries he).imp_left .inl
    | unchanged | settings _ _ _ _ _ | condition _ _ _ | join _ | groupBy _ | orderBy _ _ =>
      exact .inl (.inl ⟨s, hs, he⟩)
  · rcases h.mem_leaves hc with hc | ⟨-, hsub⟩
    · exact .inl (.inr (.inl ⟨c, hc, he⟩))
    · exact .inr (hsub he)
  · cases h with
    | groupBy hsub =>
      rcases List.mem_append.mp hc with hc | hc
      · exact .inl (.inr (.inr (.inl ⟨c, hc, he⟩)))
      · exact .inr (hsub (List.mem_singleton.mp hc ▸ he))
    | unchanged | settings _ _ _ _ _ | statement _ _ | condition _ _ _ | join _ | orderBy _ _ =>
      exact .inl (.inr (.inr (.inl ⟨c, hc, he⟩)))
  · cases h with
    | orderBy direction hsub =>
      rcases List.mem_append.mp ho with ho | ho
      · exact .inl (.inr (.inr (.inr ⟨o, ho, he⟩)))
      · rw [List.mem_singleton.mp ho] at he
        exact .inr (hsub he)
    | unchanged | settings _ _ _ _ _ | statement _ _ | condition _ _ _ | join _ | groupBy _ =>
      exact .inl (.inr (.inr (.inr ⟨o, ho, he⟩)))

/-- What is embedded in a reachable query is reachable. -/
theorem Reachable.of_mem_subQueries (hq : q.Reachable) : ∀ e ∈ q.subQueries, e.Reachable := by
  induction hq with
  | new => simp [Query.new, subQueries, Outline.subQueries, outline]
  | @perform q c _ hsub ih _ =>
    intro e he
    exact ((change_perform q c).mem_subQueries he).elim (ih e) (hsub e)
  | @openGroup q link _ ih =>
    intro e he
    refine ih e (mem_subQueries.mpr ((mem_subQueries.mp he).imp_right (Or.imp_left ?_)))
    rintro ⟨c, hc, he⟩
    exact ⟨c, (Forest.mem_leaves_modifyAt hc).resolve_right (by simp), he⟩
  | closeGroup _ ih => exact ih

end Query

/-! ## Scripts that stay on one query -/

mutual

/-- Whether the query that a step works on is that of the whole script, in its groups too. Copies
and embedded statements are queries of their own. -/
def Step.staysInPlace : Step → Bool
  | .group _ body | .nest _ body => Script.staysInPlace body
  | .restart _ => false
  | .call _ | .fork _ | .statement | .sql | .build => true

/-- Whether a script works on one query throughout. -/
def Script.staysInPlace : List Step → Bool
  | [] => true
  | s :: ss => s.staysInPlace && Script.staysInPlace ss

end

namespace Query

theorem exists_cursor_openGroups (links : List Connective) (q : Query) :
    ∃ path : List Nat, path.length = links.length ∧
      (q.openGroups links).conditions.cursor = q.conditions.cursor ++ path := by
  induction links generalizing q with
  | nil => exact ⟨[], rfl, (List.append_nil _).symm⟩
  | cons link links ih =>
    obtain ⟨path, hlength, hcursor⟩ := ih (q.openGroup link)
    refine ⟨(Forest.childrenAt q.conditions.cursor q.conditions.roots).length :: path, ?_, ?_⟩
    · rw [List.length_cons, List.length_cons, hlength]
    · rw [openGroups, hcursor]
      simp [openGroup, ConditionTree.openGroup]

theorem cursor_closeGroups {links : List Connective} {path front : List Nat} {q : Query}
    (hlength : path.length = links.length) (h : q.conditions.cursor = front ++ path) :
    (q.closeGroups links).conditions.cursor = front := by
  induction links generalizing q path with
  | nil =>
    obtain rfl := List.eq_nil_of_length_eq_zero hlength
    rw [closeGroups, h, List.append_nil]
  | cons link links ih =>
    have hne : path ≠ [] := by
      rintro rfl
      simp at hlength
    have hdrop : path.dropLast.length = links.length := by simp [hlength]
    refine ih hdrop ?_
    rw [closeGroup, ConditionTree.closeGroup, h, List.dropLast_append_of_ne_nil hne]

end Query

namespace Script

mutual

/-- A step leaves the cursor where it was. -/
theorem cursor_step (q : Query) : ∀ s : Step, s.staysInPlace →
    (step q s).1.conditions.cursor = q.conditions.cursor
  | .call c, _ => by
    rw [step]
    split
    · rfl
    · exact Query.cursor_perform _ _
  | .group link body, h => by
    have hbody := cursor_runGuarded (q.openGroup link) body (by rwa [Step.staysInPlace] at h)
    rw [step]
    exact (congrArg List.dropLast hbody).trans
      (ConditionTree.cursor_closeGroup_openGroup q.conditions link)
  | .nest links body, h => by
    have hbody := cursor_runGuarded (q.openGroups links) body (by rwa [Step.staysInPlace] at h)
    obtain ⟨path, hlength, hcursor⟩ := Query.exists_cursor_openGroups links q
    rw [step]
    exact Query.cursor_closeGroups hlength (hbody.trans hcursor)
  | .restart _, h => by simp [Step.staysInPlace] at h
  | .fork _, _ | .statement, _ | .sql, _ | .build, _ => by rw [step]

/-- A script that stays on one query leaves the cursor where it was, also where it fails. -/
theorem cursor_runGuarded (q : Query) : ∀ ss : List Step, Script.staysInPlace ss →
    (runGuarded q ss).query.conditions.cursor = q.conditions.cursor
  | [], _ => by rw [runGuarded]
  | s :: ss, h => by
    rw [Script.staysInPlace, Bool.and_eq_true] at h
    have hs := cursor_step q s h.1
    cases herror : (step q s).2.error? with
    | some e =>
      rw [runGuarded_cons_of_failed herror]
      exact hs
    | none =>
      rw [runGuarded_cons_of_done herror]
      exact (cursor_runGuarded (step q s).1 ss h.2).trans hs

end

end Script

end BoundSql
