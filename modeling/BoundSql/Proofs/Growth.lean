import BoundSql.Proofs.Changes

/-!
# Nested construction

A tree of conditions is grown step by step, with a cursor that opening and closing groups moves.
What the steps of a nested script denote can be said without a cursor: `Growth.forest` is the
forest of a script by recursion over its structure. Running the script puts this forest behind the
nodes of the group that the cursor addresses and leaves the rest of the tree and the cursor as they
are (`ConditionTree.grow_eq_graft`). Steps may fail: a group whose script fails is closed with the
nodes made until then, and what follows it lands in the enclosing group.

## Main definitions

* `Growth` — the steps of a nested script.
* `ConditionTree.grow` — running a script with the cursor.
* `Growth.forest` — the forest that a script denotes.
* `Script.growths` — a script of conditions and groups as steps of this kind.
-/

namespace BoundSql

variable {α : Type}

/-- A step that grows a tree. -/
inductive Growth (α : Type) where
  /-- A condition behind a connective. -/
  | condition (link : Connective) (condition : α)
  /-- A group; its script runs up to the first failure, which is the failure of the group. -/
  | group (link : Connective) (body : List (Growth α))
  /-- A step that fails and adds nothing. -/
  | failure
  /-- A step whose failure does not count. -/
  | attempt (step : Growth α)

/-! ## Running with a cursor -/

mutual

/-- The tree after a step, and whether the step went well. -/
def ConditionTree.growStep (t : ConditionTree α) : Growth α → ConditionTree α × Bool
  | .condition link c => (t.push link c, true)
  | .group link body =>
    let (grown, well) := ConditionTree.grow (t.openGroup link) body
    (grown.closeGroup, well)
  | .failure => (t, false)
  | .attempt step => ((t.growStep step).1, true)

/-- The tree after the steps up to the first that fails, and whether all went well. -/
def ConditionTree.grow (t : ConditionTree α) : List (Growth α) → ConditionTree α × Bool
  | [] => (t, true)
  | s :: ss =>
    let (grown, well) := t.growStep s
    if well then ConditionTree.grow grown ss else (grown, false)

end

/-! ## What a script denotes -/

mutual

/-- Whether a step goes well. -/
def Growth.succeeds : Growth α → Bool
  | .condition _ _ | .attempt _ => true
  | .group _ body => Growth.allSucceed body
  | .failure => false

/-- Whether all steps go well. -/
def Growth.allSucceed : List (Growth α) → Bool
  | [] => true
  | s :: ss => s.succeeds && Growth.allSucceed ss

end

mutual

/-- The nodes of a step. -/
def Growth.nodes : Growth α → Forest α
  | .condition link c => [.leaf link c]
  | .group link body => [.group link (Growth.forest body)]
  | .failure => []
  | .attempt step => step.nodes

/-- The nodes of steps, up to the first that fails. -/
def Growth.forest : List (Growth α) → Forest α
  | [] => []
  | s :: ss => s.nodes ++ if s.succeeds then Growth.forest ss else []

end

namespace ConditionTree

open Forest (IsPath childrenAt modifyAt)

mutual

theorem growStep_eq_graft {t : ConditionTree α} (h : IsPath t.cursor t.roots) :
    ∀ s : Growth α, t.growStep s = (t.graft s.nodes, s.succeeds)
  | .condition link c => by rw [growStep, Growth.nodes, Growth.succeeds, push_eq_graft]
  | .group link body => by
    rw [growStep, grow_eq_graft (isPath_openGroup h link) body, Growth.nodes, Growth.succeeds]
    exact congrArg (·, _) (closeGroup_graft_openGroup h link _)
  | .failure => by rw [growStep, Growth.nodes, Growth.succeeds, graft_nil h]
  | .attempt step => by rw [growStep, growStep_eq_graft h step, Growth.nodes, Growth.succeeds]

/-- Running a script puts its forest where the cursor is. -/
theorem grow_eq_graft {t : ConditionTree α} (h : IsPath t.cursor t.roots) :
    ∀ ss : List (Growth α), t.grow ss = (t.graft (Growth.forest ss), Growth.allSucceed ss)
  | [] => by rw [grow, Growth.forest, Growth.allSucceed, graft_nil h]
  | s :: ss => by
    rw [grow, growStep_eq_graft h s, Growth.forest, Growth.allSucceed]
    cases hs : s.succeeds with
    | true =>
      simp only [if_pos, Bool.true_and]
      rw [grow_eq_graft (isPath_graft h _) ss, graft_graft h]
    | false => simp

end

end ConditionTree

/-! ## Scripts of conditions and groups -/

mutual

/-- Whether a step adds a condition, or a group in which every step is such a step. -/
def Step.growsTree : Step → Bool
  | .call (.condition _ _ _ _) => true
  | .group _ body => Script.growsTree body
  | .call _ | .nest _ _ | .fork _ | .restart _ | .statement | .sql | .build => false

/-- Whether a script consists of conditions and groups. -/
def Script.growsTree : List Step → Bool
  | [] => true
  | s :: ss => s.growsTree && Script.growsTree ss

end

mutual

/-- What a step does to the tree of conditions; a condition that is refused is a failure. -/
def Step.growth : Step → Growth (Condition Query)
  | .call (.condition link column operand right) =>
    match Script.comparand right >>= Condition.make column operand with
    | .ok c => .condition link c
    | .error _ => .failure
  | .group link body => .group link (Script.growths body)
  | .call _ | .nest _ _ | .fork _ | .restart _ | .statement | .sql | .build => .attempt .failure

/-- What the steps of a script do to the tree of conditions. -/
def Script.growths : List Step → List (Growth (Condition Query))
  | [] => []
  | s :: ss => s.growth :: Script.growths ss

end

/-- The query with another tree of conditions. -/
def Query.withConditions (q : Query) (t : ConditionTree (Condition Query)) : Query :=
  { q with conditions := t }

@[simp] theorem Query.withConditions_conditions (q : Query) :
    q.withConditions q.conditions = q := by
  cases q
  rfl

namespace Script

mutual

theorem step_eq_growStep (q : Query) : ∀ s : Step, s.growsTree →
    (step q s).1 = q.withConditions (q.conditions.growStep s.growth).1 ∧
      (step q s).2.error?.isNone = (q.conditions.growStep s.growth).2
  | .call (.condition link column operand right), _ => by
    rw [step, Step.growth, call]
    cases comparand right with
    | error e => simp [bind, Except.bind, ConditionTree.growStep, StepResult.error?]
    | ok right' =>
      have hperform : q.perform (.condition link column operand right') =
          .ofResult q (q.addCondition link column operand right') :=
        q.perform_eq_ofResult (by simp)
      rw [Query.addCondition_eq] at hperform
      cases hmake : Condition.make column operand right' with
      | error e =>
        simp [bind, Except.bind, pure, Except.pure, hperform, hmake, StepResult.ofOutcome,
          StepResult.error?, ConditionTree.growStep]
      | ok c =>
        simp [bind, Except.bind, pure, Except.pure, hperform, hmake, StepResult.ofOutcome,
          StepResult.error?, ConditionTree.growStep, Query.withConditions]
  | .group link body, h => by
    obtain ⟨hquery, hfailure⟩ :=
      runGuarded_eq_grow (q.openGroup link) body (by rwa [Step.growsTree] at h)
    rw [step, Step.growth, ConditionTree.growStep]
    refine ⟨?_, ?_⟩
    · rw [hquery]
      rfl
    · refine Eq.trans ?_ hfailure
      cases (runGuarded (q.openGroup link) body).failure <;> rfl

/-- A script of conditions and groups grows the tree of conditions and touches nothing else. -/
theorem runGuarded_eq_grow (q : Query) : ∀ ss : List Step, Script.growsTree ss →
    (runGuarded q ss).query = q.withConditions (q.conditions.grow (growths ss)).1 ∧
      (runGuarded q ss).failure.isNone = (q.conditions.grow (growths ss)).2
  | [], _ => by simp [runGuarded, growths, ConditionTree.grow]
  | s :: ss, h => by
    rw [Script.growsTree, Bool.and_eq_true] at h
    obtain ⟨hquery, hfailure⟩ := step_eq_growStep q s h.1
    rw [growths, ConditionTree.grow]
    cases herror : (step q s).2.error? with
    | some e =>
      rw [herror] at hfailure
      simp only [runGuarded_cons_of_failed herror, ← hfailure]
      exact ⟨hquery, rfl⟩
    | none =>
      rw [herror] at hfailure
      simp only [runGuarded_cons_of_done herror, ← hfailure]
      rw [hquery]
      exact runGuarded_eq_grow _ ss h.2

end

/-- A script that goes on after failures grows the tree as one whose failures do not count. -/
theorem run_eq_grow (q : Query) (ss : List Step) (h : Script.growsTree ss) :
    (run q ss).1 = q.withConditions (q.conditions.grow ((growths ss).map .attempt)).1 := by
  induction ss generalizing q with
  | nil => simp [run, growths, ConditionTree.grow]
  | cons s ss ih =>
    rw [Script.growsTree, Bool.and_eq_true] at h
    rw [run, growths, List.map_cons, ConditionTree.grow, ConditionTree.growStep]
    simp only [if_pos]
    rw [ih _ h.2, (step_eq_growStep q s h.1).1]
    rfl

end Script

/-! ## Growing where the cursor is -/

/-- Running a nested script on a reachable tree adds the forest that the script denotes behind the
nodes of the group that the cursor addresses. The cursor ends where it was, and every node that
was there is still in its place, changed only inside the groups around the cursor. So does a script
of conditions and groups on a reachable query, whether it stops at its first failure or goes on. -/
theorem ConditionTree.grow_appends_forest_at_cursor :
    (∀ (α : Type) (t : ConditionTree α), t.Reachable → ∀ steps : List (Growth α),
      let grown := (t.grow steps).1
      let more := Growth.forest steps
      grown.cursor = t.cursor ∧
        grown.roots = Forest.modifyAt (· ++ more) t.cursor t.roots ∧
        Forest.childrenAt t.cursor grown.roots = Forest.childrenAt t.cursor t.roots ++ more ∧
        ∀ place i node, Forest.IsPath place t.roots →
          (Forest.childrenAt place t.roots)[i]? = some node → ¬ place ++ [i] <+: t.cursor →
            (Forest.childrenAt place grown.roots)[i]? = some node) ∧
      ∀ q : Query, q.Reachable → ∀ script : List Step, Script.growsTree script →
        (Script.runGuarded q script).query =
            q.withConditions (q.conditions.graft (Growth.forest (Script.growths script))) ∧
          (Script.run q script).1 = q.withConditions
            (q.conditions.graft (Growth.forest ((Script.growths script).map .attempt))) := by
  refine ⟨fun α t ht steps => ?_, fun q hq script hscript => ?_⟩
  · have hpath := ht.isPath
    rw [grow_eq_graft hpath]
    exact ⟨rfl, rfl, Forest.childrenAt_modifyAt hpath,
      fun place i node hplace hnode haway => Forest.getElem?_modifyAt hplace hnode haway⟩
  · have hpath := hq.conditions.isPath
    rw [(Script.runGuarded_eq_grow q script hscript).1, Script.run_eq_grow q script hscript,
      grow_eq_graft hpath, grow_eq_graft hpath]
    exact ⟨rfl, rfl⟩

/-- A group whose script fails keeps the node made before, and the next condition lands beside it,
in the open group. -/
theorem ConditionTree.grow_past_failed_group :
    let t := (({} : ConditionTree Nat).push .and 0).openGroup .or
    let steps : List (Growth Nat) :=
      [.attempt (.group .and [.condition .and 1, .failure, .condition .and 2]), .condition .or 3]
    let q := Query.new.openGroup .or
    let script : List Step :=
      [.group .and [.call (.equal "a" (.scalar (.int 1))), .call (.equal " " (.scalar (.int 2)))],
        .call (.condition .or "c" "<" (.scalar (.int 3)))]
    t.Reachable ∧ (t.grow steps).1.cursor = [1] ∧
      (t.grow steps).1.roots =
        [.leaf .and 0, .group .or [.group .and [.leaf .and 1], .leaf .or 3]] ∧
      ¬ ([] : List Nat) ++ [0] <+: t.cursor ∧ (t.grow steps).1.roots[0]? = some (.leaf .and 0) ∧
      q.Reachable ∧ Script.growsTree script ∧
      (Script.run q script).1.conditions.roots =
        [.group .or
          [.group .and [.leaf .and ⟨"a", .symbol .equal, .scalar (.int 1)⟩],
            .leaf .or ⟨"c", .symbol .less, .scalar (.int 3)⟩]] := by
  intro t steps q script
  have ht : t.Reachable := (Reachable.empty.push .and 0).openGroup .or
  have hq : q.Reachable := .openGroup .or .new
  have hscript : Script.growsTree script := by rfl
  have haway : ¬ ([] : List Nat) ++ [0] <+: t.cursor := by decide
  obtain ⟨hcursor, hroots, _, hkept⟩ := grow_appends_forest_at_cursor.1 Nat t ht steps
  have hquery := (grow_appends_forest_at_cursor.2 q hq script hscript).2
  refine ⟨ht, hcursor, hroots, haway, hkept [] 0 _ trivial rfl haway, hq, hscript, ?_⟩
  rw [hquery]
  rfl

end BoundSql
