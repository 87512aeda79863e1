import BoundSql.Proofs.Pruning
import BoundSql.Proofs.Unambiguous

/-!
# The conditions of a statement

The text of a tree of conditions is the text of the tree without the groups that hold none. It is
empty only where the tree holds no condition at any depth (`ConditionTree.isVacant_iff_compile`), so
an UPDATE or a DELETE never loses its `WHERE`: its text is what it would be without conditions, with
the keyword and the conditions between what it changes and what follows
(`Query.build_mutation`).

## Main definitions

* `ConditionTree.compile` — the text of a tree of conditions.
* `Query.mutationHead?`, `Query.mutationEnd` — an UPDATE or a DELETE around its conditions.
-/

namespace BoundSql

open Fragment (text)

/-! ## Conditions of a query -/

/-- Every condition has a text: its operand, or the outcome of a test for an empty list. -/
theorem Condition.isEmpty_fragment (c : Condition Query) : c.fragment.isEmpty = false := by
  have hcomparison (column : String) (operand : Operand) (right : Fragment) :
      (Clause.comparison column operand right).isEmpty = false := by
    rw [Clause.comparison, Fragment.isEmpty_append, Bool.and_eq_false_iff]
    left
    rw [Fragment.isEmpty, Fragment.sql_text, String.isEmpty_eq_false_iff]
    simp [String.append_eq_empty_iff]
  obtain ⟨column, operand, _ | vs | _ | _⟩ := c
  · exact hcomparison ..
  · change (Clause.listCondition column operand vs).isEmpty = false
    unfold Clause.listCondition
    split
    · next negated => cases negated <;> rfl
    · exact hcomparison ..
    · exact hcomparison ..
  · exact hcomparison ..
  · exact hcomparison ..

namespace ConditionTree

/-- The text of a tree of conditions with the values it binds, or the first thing that keeps a
statement embedded in them from being one. -/
def compile (t : ConditionTree (Condition Query)) : Except QueryError Fragment :=
  (Query.conditionFragments t.roots).map Forest.layout

end ConditionTree

namespace Query

/-- What is wrong with the statements embedded in conditions. -/
def conditionFaults (nodes : Forest (Condition Query)) : List QueryError :=
  ((Forest.leaves nodes).flatMap Condition.subQueries).flatMap fun e =>
    embeddedFaults (withFaults e)

theorem conditionFaults_eq (nodes : Forest (Condition Query)) :
    ((Forest.leaves (Forest.map (Condition.map withFaults) nodes)).flatMap
        Condition.subQueries).flatMap embeddedFaults = conditionFaults nodes := by
  rw [Forest.leaves_map, conditionFaults]
  simp only [List.flatMap_map, Condition.subQueries_map, List.flatMap_assoc]

/-- Writing conditions is looking for faults and writing each where it stands. -/
theorem conditionFragments_eq (nodes : Forest (Condition Query)) :
    conditionFragments nodes =
      report (conditionFaults nodes) (Forest.map Condition.fragment nodes) := by
  rw [conditionFragments_eq_report fun e _ hr => compiles e hr, conditionFaults_eq, Forest.map_map]
  rfl

end Query

namespace ConditionTree

open Query (conditionFragments conditionFaults conditionFragments_eq)

variable (t : ConditionTree (Condition Query))

/-- The conditions of a tree, written. -/
abbrev fragments : Forest Fragment := Forest.map Condition.fragment t.roots

theorem isEmpty_of_mem_fragments : ∀ f ∈ Forest.leaves t.fragments, f.isEmpty = false := by
  intro f hf
  rw [Forest.leaves_map, List.mem_map] at hf
  obtain ⟨c, -, rfl⟩ := hf
  exact c.isEmpty_fragment

theorem compile_eq : t.compile = report (conditionFaults t.roots) (Forest.layout t.fragments) := by
  rw [compile, conditionFragments_eq, report_map]

theorem isVacant_iff_leaves : t.isVacant = true ↔ Forest.leaves t.roots = [] := Forest.isVacant_iff

/-- Only a tree without conditions has an empty text, and such a tree always has a text. -/
theorem isVacant_iff_compile : t.isVacant = true ↔ ∃ f, t.compile = .ok f ∧ f.sql = "" := by
  have htext : (Forest.layout t.fragments).isEmpty = t.isVacant := by
    rw [Forest.isEmpty_layout t.isEmpty_of_mem_fragments, Forest.isVacant_map, isVacant]
  rw [compile_eq]
  constructor
  · intro h
    have hnone : conditionFaults t.roots = [] := by
      rw [conditionFaults, t.isVacant_iff_leaves.mp h]
      rfl
    refine ⟨Forest.layout t.fragments, by rw [hnone, report_nil], ?_⟩
    rw [← Fragment.isEmpty_eq_true_iff, htext, h]
  · rintro ⟨f, hf, hempty⟩
    obtain rfl := (report_eq_ok_iff.mp hf).2
    rw [← htext, Fragment.isEmpty_eq_true_iff, hempty]

theorem compile_eq_inOnePass : t.compile = (conditionFragments t.roots).map Forest.inOnePass := by
  rw [compile_eq, conditionFragments_eq, report_map,
    Forest.inOnePass_eq_layout t.isEmpty_of_mem_fragments]

/-- Vacant groups do not show, nor do the first connectives. -/
theorem compile_of_sameButFirst {t t' : ConditionTree (Condition Query)}
    (h : Forest.SameButFirst true (Forest.withoutVacant t.roots) t'.roots) :
    t'.compile = t.compile := by
  have hleaves : Forest.leaves t.roots = Forest.leaves t'.roots := by
    rw [← h.leaves_eq, Forest.leaves_withoutVacant]
  have htext : Forest.layout t.fragments = Forest.layout t'.fragments := by
    calc Forest.layout t.fragments
      _ = Forest.layout (Forest.withoutVacant t.fragments) := by
        rw [← Forest.layout_normalForm, ← Forest.normalForm_withoutVacant,
          Forest.layout_normalForm]
      _ = Forest.layout (Forest.map Condition.fragment (Forest.withoutVacant t.roots)) := by
        rw [Forest.map_withoutVacant]
      _ = Forest.layout t'.fragments := (h.map Condition.fragment).layout_eq
  rw [compile_eq, compile_eq, htext, conditionFaults, conditionFaults, hleaves]

/-- A tree is written as its tokens without vacant groups. -/
theorem compile_eq_spell :
    t.compile = (conditionFragments (Forest.withoutVacant t.roots)).map fun fs =>
      Token.spell (Forest.tokens fs) := by
  rw [compile_eq, conditionFragments_eq, report_map, Forest.layout_eq_spell,
    Forest.map_withoutVacant, conditionFaults, conditionFaults, Forest.leaves_withoutVacant]

theorem isChain_tokens {t : ConditionTree (Condition Query)} (ht : t.isVacant = false)
    {fs : Forest Fragment} (h : conditionFragments (Forest.withoutVacant t.roots) = .ok fs) :
    List.IsChain Token.MayPrecede (.opening :: (Forest.tokens fs ++ [.closing])) := by
  rw [conditionFragments_eq, report_eq_ok_iff] at h
  rw [← h.2, Forest.map_withoutVacant]
  exact Forest.isChain_tokens (by rwa [Forest.isVacant_map])

end ConditionTree

/-! ## Mutations -/

namespace Query

/-- The query as if no condition had been recorded for it. -/
def withoutConditions (q : Query) : Query := { q with conditions := {} }

/-- What an UPDATE or a DELETE has before its conditions. -/
def mutationHead? (q : Query) : Option Fragment :=
  match q.statement with
  | some (.update assignments) =>
    some (text ("UPDATE " ++ q.outline.target ++ " SET ") ++ Clause.assignments assignments)
  | some .delete => some (text ("DELETE FROM " ++ q.outline.target))
  | _ => none

/-- What is wrong with the parts that an UPDATE or a DELETE has before its conditions. -/
def mutationFaults (q : Query) : List QueryError :=
  match q.statement with
  | some (.update assignments) =>
    tableFaults .update q.table ++ faultIf assignments.isEmpty .emptyUpdateColumns ++
      singleTableFaults q.outline "UPDATE"
  | some .delete => tableFaults .delete q.table ++ singleTableFaults q.outline "DELETE"
  | _ => []

/-- What is wrong with the statements embedded in the items to order by. -/
def orderFaults (q : Query) : List QueryError :=
  ((q.orderBy.map (OrderItem.map withFaults)).flatMap OrderItem.subQueries).flatMap embeddedFaults

/-- What an UPDATE or a DELETE has behind its conditions. -/
def mutationEnd (q : Query) : Fragment :=
  Clause.items " ORDER BY " ((q.orderBy.map (OrderItem.map withText)).map OrderItem.written) ++
    text (Clause.window q.limit none)

/-- The conditions of a mutation stand between what it changes and what follows, and so do their
faults among those of the mutation. -/
theorem build_of_mutationHead? {q : Query} {head : Fragment} (h : q.mutationHead? = some head) :
    q.build = report (q.mutationFaults ++ (conditionFaults q.conditions.roots ++ q.orderFaults))
      (.ofFragment (head ++ (Clause.conditions q.conditions.fragments ++ q.mutationEnd))) := by
  obtain ⟨statement, table, tableAlias, joins, ⟨roots, cursor⟩, groupBy, orderBy, limit, offset,
    name⟩ := q
  rcases statement with _ | ⟨columns, distinct⟩ | ⟨columns, rows, ignore, onDuplicateKey⟩ |
    assignments | _
  · cases h
  · cases h
  · cases h
  · obtain rfl := Option.some.inj h
    rw [build_eq_report (rowsFit_of_not_insert (by simp)), faults_eq, written_eq]
    simp only [outline_map, Outline.faults, Outline.written, Option.map_some, Statement.map,
      conditionFaults_eq, Forest.map_map, singleTableFaults, List.isEmpty_map, List.append_assoc,
      Statement.updateFragment, Statement.mutationTail, Fragment.append_assoc]
    simp only [mutationFaults, singleTableFaults, List.append_assoc]
    rfl
  · obtain rfl := Option.some.inj h
    rw [build_eq_report (rowsFit_of_not_insert (by simp)), faults_eq, written_eq]
    simp only [outline_map, Outline.faults, Outline.written, Option.map_some, Statement.map,
      conditionFaults_eq, Forest.map_map, singleTableFaults, List.isEmpty_map, List.append_assoc,
      Statement.deleteFragment, Statement.mutationTail, Fragment.append_assoc]
    simp only [mutationFaults, singleTableFaults, List.append_assoc]
    rfl

/-- An UPDATE or a DELETE with a condition at any depth is built exactly if it would be built
without conditions and these can be written; and then they stand in it behind `WHERE`. -/
theorem build_mutation {q : Query} {head : Fragment} (h : q.mutationHead? = some head)
    (hconditions : q.conditions.isVacant = false) :
    ((∃ b, q.build = .ok b) ↔
        (∃ b, q.withoutConditions.build = .ok b) ∧ ∃ f, q.conditions.compile = .ok f) ∧
      ∀ b, q.build = .ok b → ∃ f, q.conditions.compile = .ok f ∧ f.sql ≠ "" ∧
        b = .ofFragment (head ++ (text " WHERE " ++ f ++ q.mutationEnd)) ∧
        q.withoutConditions.build = .ok (.ofFragment (head ++ q.mutationEnd)) := by
  have hbare : q.withoutConditions.build =
      report (q.mutationFaults ++ q.orderFaults) (.ofFragment (head ++ q.mutationEnd)) := by
    have h' : q.withoutConditions.mutationHead? = some head := h
    have hnone : Clause.conditions q.withoutConditions.conditions.fragments = .empty := rfl
    rw [build_of_mutationHead? h', hnone, Fragment.empty_append]
    rfl
  have hwhere : Clause.conditions q.conditions.fragments =
      text " WHERE " ++ Forest.layout q.conditions.fragments := by
    have hvacant : Forest.isVacant q.conditions.roots = false := hconditions
    rw [Clause.conditions, Forest.isVacant_map, hvacant, if_neg Bool.false_ne_true]
  have hcompile := q.conditions.compile_eq
  rw [build_of_mutationHead? h, hbare, hcompile, hwhere]
  constructor
  · simp only [report_eq_ok_iff, List.append_eq_nil_iff, exists_and_left, exists_eq', and_true]
    tauto
  · intro b hb
    obtain ⟨hfaults, rfl⟩ := report_eq_ok_iff.mp hb
    simp only [List.append_eq_nil_iff] at hfaults
    obtain ⟨hhead, hinside, hend⟩ := hfaults
    rw [hinside, report_nil] at hcompile
    refine ⟨Forest.layout q.conditions.fragments, by rw [hinside, report_nil], ?_, rfl, ?_⟩
    · intro hempty
      have hvacant := q.conditions.isVacant_iff_compile.mpr ⟨_, hcompile, hempty⟩
      rw [hconditions] at hvacant
      cases hvacant
    · rw [hhead, hend, List.append_nil, report_nil]

/-- A tree of conditions is vacant if it has no condition at any depth, and exactly then its text is
there and empty. The text is that of the tree without vacant groups, however it is made, and does
not depend on the connective before the first node that remains on each level.

Of the tree without vacant groups it has every node in its place, each group between parentheses and
a connective, that of the later node, between neighbours; so no pair of parentheses is empty and no
connective stands anywhere else. An UPDATE or a DELETE with a condition has it behind `WHERE`
whenever it is built. -/
theorem conditions_written_without_vacant_groups (t : ConditionTree (Condition Query)) :
    (t.isVacant = true ↔ Forest.leaves t.roots = []) ∧
      (t.isVacant = true ↔ ∃ f, t.compile = .ok f ∧ f.sql = "") ∧
      t.compile = (conditionFragments t.roots).map Forest.inOnePass ∧
      (∀ t' : ConditionTree (Condition Query),
        Forest.SameButFirst true (Forest.withoutVacant t.roots) t'.roots →
          t'.compile = t.compile) ∧
      t.compile = (conditionFragments (Forest.withoutVacant t.roots)).map (fun fs =>
        Token.spell (Forest.tokens fs)) ∧
      (t.isVacant = false → ∀ fs, conditionFragments (Forest.withoutVacant t.roots) = .ok fs →
        List.IsChain Token.MayPrecede (.opening :: (Forest.tokens fs ++ [.closing]))) ∧
      ∀ (q : Query) (head : Fragment), q.conditions = t → t.isVacant = false →
        q.mutationHead? = some head → ((∃ b, q.build = .ok b) ↔
            (∃ b, q.withoutConditions.build = .ok b) ∧ ∃ f, t.compile = .ok f) ∧
          ∀ b, q.build = .ok b → ∃ f, t.compile = .ok f ∧ f.sql ≠ "" ∧
            b = .ofFragment (head ++ (text " WHERE " ++ f ++ q.mutationEnd)) ∧
            q.withoutConditions.build = .ok (.ofFragment (head ++ q.mutationEnd)) := by
  refine ⟨t.isVacant_iff_leaves, t.isVacant_iff_compile, t.compile_eq_inOnePass, ?_,
    t.compile_eq_spell, ?_, ?_⟩
  · intro t' h
    exact ConditionTree.compile_of_sameButFirst h
  · intro ht fs hfs
    exact ConditionTree.isChain_tokens ht hfs
  · rintro q head rfl ht hhead
    exact build_mutation hhead ht

/-- A group of groups without conditions and one that fails after its first condition, in a
DELETE. -/
theorem conditions_written_without_failed_group :
    let a : Condition Query := ⟨"a", .symbol .equal, .scalar (.int 1)⟩
    let b : Condition Query := ⟨"b", .is false, .scalar .null⟩
    let q := (Script.run .new
      [.call .delete, .group .and [.group .or [], .group .and []],
        .group .or [.group .or [.call (.condition .or "a" "=" (.scalar (.int 1))),
          .call (.condition .and "b" "in" (.scalar .null))]],
        .call (.condition .or "b" "is" (.scalar .null)), .call (.table "t")]).1
    let t' : ConditionTree (Condition Query) :=
      ⟨[.group .and [.group .and [.leaf .and a]], .leaf .or b], [7]⟩
    q.conditions.isVacant = false ∧
      Forest.SameButFirst true (Forest.withoutVacant q.conditions.roots) t'.roots ∧
      t'.compile = q.conditions.compile ∧
      List.IsChain Token.MayPrecede
        [.opening, .opening, .opening, .condition a.fragment, .closing, .closing, .link .or,
          .condition b.fragment, .closing] ∧
      ∃ built, q.build = .ok built ∧ built.sql = "DELETE FROM t WHERE ((a = ?)) OR b IS NULL" ∧
        q.withoutConditions.build = .ok ⟨"DELETE FROM t", []⟩ := by
  intro a b q t'
  have ht : q.conditions.isVacant = false := rfl
  have hsame : Forest.SameButFirst true (Forest.withoutVacant q.conditions.roots) t'.roots :=
    .group (by simp) (.group (by simp) (.leaf a (by simp) (.nil false)) (.nil false))
      (.leaf b (fun _ => rfl) (.nil false))
  obtain ⟨-, -, -, hfirst, -, hchain, hwhere⟩ :=
    conditions_written_without_vacant_groups q.conditions
  have hbuild : q.build = .ok ⟨"DELETE FROM t WHERE ((a = ?)) OR b IS NULL", [.int 1]⟩ := rfl
  obtain ⟨f, hf, -, -, hbare⟩ := (hwhere q (text "DELETE FROM t") rfl ht rfl).2 _ hbuild
  exact ⟨ht, hsame, hfirst t' hsame, hchain ht _ rfl, _, hbuild, rfl, hbare⟩

end Query

end BoundSql
