import BoundSql.Proofs.Outline
import BoundSql.Proofs.Recording
import BoundSql.Query.Script

/-!
# Reachable queries

A query is reachable if builder calls make it of a new one, where the queries embedded in the
arguments of a call are reachable themselves and groups of conditions may be opened and closed at
any point. Whatever a script does to a reachable query, it leaves a reachable one: at its end, in
the middle of a group, on a copy and in the arguments of a call (`Script.reachable_run`).
-/

namespace BoundSql

variable {Q : Type}

/-- The statements embedded in the arguments of a call. -/
def Call.subQueries : Call Q → List Q
  | .select columns _ => columns.flatMap Column.subQueries
  | .addSelect column | .groupBy column | .orderBy column _ => column.subQueries
  | .condition _ _ _ comparand => comparand.subQueries
  | _ => []

theorem bind_eq_ok_iff {ε α β : Type} {x : Except ε α} {k : α → Except ε β} {b : β} :
    (x >>= k) = .ok b ↔ ∃ a, x = .ok a ∧ k a = .ok b := by
  cases x <;> simp [bind, Except.bind]

namespace Query

/-- The queries that builder calls make of a new one. -/
inductive Reachable : Query → Prop
  | new : Reachable .new
  | perform {q : Query} {c : Call Query} :
    Reachable q → (∀ e ∈ c.subQueries, Reachable e) → Reachable (q.perform c).query
  | openGroup {q : Query} (link : Connective) : Reachable q → Reachable (q.openGroup link)
  | closeGroup {q : Query} : Reachable q → Reachable q.closeGroup

end Query

/-! ## Scripts -/

namespace Query

theorem Reachable.openGroups {q : Query} (hq : q.Reachable) (links : List Connective) :
    (q.openGroups links).Reachable := by
  induction links generalizing q with
  | nil => exact hq
  | cons link links ih => exact ih (hq.openGroup link)

theorem Reachable.closeGroups {q : Query} (hq : q.Reachable) (links : List Connective) :
    (q.closeGroups links).Reachable := by
  induction links generalizing q with
  | nil => exact hq
  | cons link links ih => exact ih hq.closeGroup

end Query

namespace Script

theorem run_cons_fst (q : Query) (s : Step) (ss : List Step) :
    (run q (s :: ss)).1 = (run (step q s).1 ss).1 := by
  rw [run]

theorem run_cons_snd (q : Query) (s : Step) (ss : List Step) :
    (run q (s :: ss)).2 = (step q s).2 :: (run (step q s).1 ss).2 := by
  rw [run]

theorem run_nil (q : Query) : run q [] = (q, []) := by rw [run]

theorem run_append_fst (q : Query) (ss others : List Step) :
    (run q (ss ++ others)).1 = (run (run q ss).1 others).1 := by
  induction ss generalizing q with
  | nil => rw [List.nil_append, run_nil]
  | cons s ss ih => rw [List.cons_append, run_cons_fst, run_cons_fst, ih]

theorem run_append_snd (q : Query) (ss others : List Step) :
    (run q (ss ++ others)).2 = (run q ss).2 ++ (run (run q ss).1 others).2 := by
  induction ss generalizing q with
  | nil => rw [List.nil_append, run_nil, List.nil_append]
  | cons s ss ih =>
    rw [List.cons_append, run_cons_snd, run_cons_snd, run_cons_fst, ih, List.cons_append]

/-- Every step has a result. -/
@[simp] theorem length_run_snd (q : Query) (ss : List Step) : (run q ss).2.length = ss.length := by
  induction ss generalizing q with
  | nil =>
    rw [run_nil]
    rfl
  | cons s ss ih => rw [run_cons_snd, List.length_cons, List.length_cons, ih]

/-- A script stops at a step that fails. -/
theorem runGuarded_cons_of_failed {q : Query} {s : Step} {ss : List Step} {e : QueryError}
    (h : (step q s).2.error? = some e) :
    runGuarded q (s :: ss) = { query := (step q s).1, results := [], failure := some e } := by
  rw [runGuarded]
  simp only [h]

/-- A script goes on after a step that does not fail. -/
theorem runGuarded_cons_of_done {q : Query} {s : Step} {ss : List Step}
    (h : (step q s).2.error? = none) :
    runGuarded q (s :: ss) =
      { runGuarded (step q s).1 ss with
        results := (step q s).2 :: (runGuarded (step q s).1 ss).results } := by
  rw [runGuarded]
  simp only [h]

theorem reachable_of_toExcept {run : GuardedRun} {q : Query} (hr : run.query.Reachable)
    (h : run.toExcept = .ok q) : q.Reachable := by
  rw [GuardedRun.toExcept] at h
  split at h
  · exact Except.ok.inj h ▸ hr
  · cases h

mutual

/-- The statement embedded in an item is reachable. -/
theorem reachable_column : ∀ (c : Column (List Step)) {c' : Column Query},
    column c = .ok c' → ∀ e ∈ c'.subQueries, e.Reachable
  | .expression sql, c', h => by
    rw [column] at h
    obtain rfl := Except.ok.inj h
    simp [Column.subQueries]
  | .subQuery body, c', h => by
    rw [column] at h
    obtain ⟨q, hq, h⟩ := bind_eq_ok_iff.mp h
    obtain rfl := Except.ok.inj h
    have := reachable_of_toExcept (reachable_runGuarded .new body) hq
    simpa [Column.subQueries] using this

/-- The statements embedded in items are reachable. -/
theorem reachable_columns : ∀ (cs : List (Column (List Step))) {cs' : List (Column Query)},
    columns cs = .ok cs' → ∀ e ∈ cs'.flatMap Column.subQueries, e.Reachable
  | [], cs', h => by
    rw [columns] at h
    obtain rfl := Except.ok.inj h
    simp
  | c :: cs, cs', h => by
    rw [columns] at h
    obtain ⟨c', hc, h⟩ := bind_eq_ok_iff.mp h
    obtain ⟨rest, hr, h⟩ := bind_eq_ok_iff.mp h
    obtain rfl := Except.ok.inj h
    rw [List.flatMap_cons, List.forall_mem_append]
    exact ⟨reachable_column c hc, reachable_columns cs hr⟩

/-- The statement embedded in a right side is reachable. -/
theorem reachable_comparand : ∀ (c : Comparand (List Step)) {c' : Comparand Query},
    comparand c = .ok c' → ∀ e ∈ c'.subQueries, e.Reachable
  | .subQuery body, c', h => by
    rw [comparand] at h
    obtain ⟨q, hq, h⟩ := bind_eq_ok_iff.mp h
    obtain rfl := Except.ok.inj h
    have := reachable_of_toExcept (reachable_runGuarded .new body) hq
    simpa [Comparand.subQueries] using this
  | .scalar _, c', h | .list _, c', h | .literal _, c', h => by
    rw [comparand] at h
    obtain rfl := Except.ok.inj h
    simp [Comparand.subQueries]

/-- The statements embedded in a call are reachable. -/
theorem reachable_call : ∀ (c : Call (List Step)) {c' : Call Query},
    call c = .ok c' → ∀ e ∈ c'.subQueries, e.Reachable
  | .select cs distinct, c', h => by
    rw [call] at h
    obtain ⟨cs', hc, h⟩ := bind_eq_ok_iff.mp h
    obtain rfl := Except.ok.inj h
    exact reachable_columns cs hc
  | .addSelect c, c', h | .groupBy c, c', h | .orderBy c _, c', h => by
    rw [call] at h
    obtain ⟨column, hc, h⟩ := bind_eq_ok_iff.mp h
    obtain rfl := Except.ok.inj h
    exact reachable_column c hc
  | .condition link column operand right, c', h => by
    rw [call] at h
    obtain ⟨right', hc, h⟩ := bind_eq_ok_iff.mp h
    obtain rfl := Except.ok.inj h
    exact reachable_comparand right hc
  | .distinct, c', h | .delete, c', h | .ignore, c', h | .table _, c', h
  | .tableAlias _, c', h | .name _, c', h | .join _ _ _ _ _, c', h | .limit _, c', h
  | .offset _, c', h | .window _ _, c', h | .paginate _ _, c', h | .insertRows _, c', h
  | .insertJson _, c', h | .insertColumns _, c', h | .row _, c', h
  | .onDuplicateKey _ _, c', h | .update _, c', h | .set _ _, c', h | .setMany _, c', h => by
    rw [call] at h
    obtain rfl := Except.ok.inj h
    simp [Call.subQueries]

/-- Calls on a reachable query make a reachable one. -/
theorem reachable_calls : ∀ (cs : List (Call (List Step))) {q q' : Query}, q.Reachable →
    calls q cs = .ok q' → q'.Reachable
  | [], q, q', hq, h => by
    rw [calls] at h
    exact Except.ok.inj h ▸ hq
  | c :: cs, q, q', hq, h => by
    rw [calls] at h
    split at h
    · cases h
    · next c' hc =>
      have hp := hq.perform (reachable_call c hc)
      split at h
      · cases h
      · next q'' hs =>
        rw [hs] at hp
        exact reachable_calls cs hp h

/-- A step on a reachable query leaves a reachable one. -/
theorem reachable_step : ∀ (s : Step) {q : Query}, q.Reachable → (step q s).1.Reachable
  | .call c, q, hq => by
    rw [step]
    split
    · exact hq
    · next c' hc => exact hq.perform (reachable_call c hc)
  | .group link body, q, hq => by
    rw [step]
    exact (reachable_runGuarded (hq.openGroup link) body).closeGroup
  | .nest links body, q, hq => by
    rw [step]
    exact (reachable_runGuarded (hq.openGroups links) body).closeGroups links
  | .restart cs, q, hq => by
    rw [step]
    split
    · exact hq
    · next q' hc => exact reachable_calls cs .new hc
  | .fork _, q, hq | .statement, q, hq | .sql, q, hq | .build, q, hq => by
    rw [step]
    exact hq

/-- A script leaves a reachable query. -/
theorem reachable_run {q : Query} (hq : q.Reachable) :
    ∀ steps : List Step, (run q steps).1.Reachable
  | [] => by
    rw [run]
    exact hq
  | s :: ss => by
    rw [run]
    exact reachable_run (reachable_step s hq) ss

/-- A script that stops at a failure leaves a reachable query. -/
theorem reachable_runGuarded {q : Query} (hq : q.Reachable) :
    ∀ steps : List Step, (runGuarded q steps).query.Reachable
  | [] => by
    rw [runGuarded]
    exact hq
  | s :: ss => by
    rw [runGuarded]
    have hs := reachable_step s hq
    generalize step q s = r at hs ⊢
    obtain ⟨q', result⟩ := r
    dsimp only
    split
    · exact hs
    · exact reachable_runGuarded hs ss

end

end Script

end BoundSql
