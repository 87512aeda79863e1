import BoundSql.Proofs.Representation

/-!
# Failures leave no trace

A call that fails records nothing, save that assigning several values keeps those before the first
refused one, and a group whose script fails keeps what the script recorded before. So the query
that a script makes can be made without any failure: `Script.repair` leaves out every call that
fails, cuts down the ones that record a part of what they were given, and cuts the script of a
failing group before its first failure, and so on inside.

## Main definitions

* `Query.accepted`, `Query.assign` — the pairs that an UPDATE takes, and what it makes of them.
* `Script.ErrorFree` — nothing fails in a run, nor in the scripts of its groups and copies.
* `Script.repair`, `Script.cut` — a script without its failures, if it goes on after them and if it
  stops at the first.
-/

namespace BoundSql

/-! ## Single calls -/

namespace Query

/-- A call other than `setMany` that fails leaves the query as it was. -/
theorem query_perform_of_error {q : Query} {c : Call Query} {e : QueryError}
    (h : (q.perform c).outcome = .error e) (hc : ∀ pairs, c ≠ .setMany pairs) :
    (q.perform c).query = q :=
  (Recording.atomic_call hc).query_attempt_of_error h

/-! ## Several assignments -/

/-- The pairs before the first that the query refuses to assign. -/
def accepted (q : Query) (pairs : List (String × Value)) : List (String × Value) :=
  pairs.takeWhile fun pair => (q.set pair.1 (.value pair.2)).isOk

/-- An UPDATE with bound values assigned behind what it assigns. -/
def assign (q : Query) (pairs : List (String × Value)) : Query :=
  match q.statement with
  | some (.update assignments) =>
    { q with statement := some (.update (assignments ++ pairs.map fun pair =>
        ⟨pair.1, .value pair.2⟩)) }
  | _ => q

theorem assign_nil (q : Query) : q.assign [] = q := by
  rw [assign]
  split
  · next assignments hs =>
    cases q
    simp_all
  · rfl

/-- Assigning one value and then others is assigning all of them. -/
theorem assign_of_set {q q' : Query} {pair : String × Value}
    (h : q.set pair.1 (.value pair.2) = .ok q') (pairs : List (String × Value)) :
    q'.assign pairs = q.assign (pair :: pairs) := by
  obtain ⟨-, assignments, hs, rfl⟩ := set_eq_ok h
  simp [assign, hs]

/-- What a query takes to assign does not depend on what was assigned before. -/
theorem isOk_set_of_set {q q' : Query} {column other : String} {value value' : SetValue}
    (h : q.set column value = .ok q') : (q'.set other value').isOk = (q.set other value').isOk := by
  obtain ⟨-, assignments, hs, rfl⟩ := set_eq_ok h
  rw [set_eq, set_eq, hs]
  cases ColumnName.validate other <;> rfl

/-- Assigning several values stops at the first pair that is refused; those before it are
assigned. -/
theorem setMany_of_error {q : Query} {pairs : List (String × Value)} {e : QueryError}
    (h : (q.setMany pairs).outcome = .error e) :
    ∃ before pair after, pairs = before ++ pair :: after ∧ (q.setMany before).outcome = .ok () ∧
      (q.assign before).set pair.1 (.value pair.2) = .error e ∧
      (q.setMany pairs).query = q.assign before := by
  induction pairs generalizing q with
  | nil => cases h
  | cons pair pairs ih =>
    cases hset : q.set pair.1 (.value pair.2) with
    | error e' =>
      simp only [setMany_cons, hset] at h ⊢
      obtain rfl := Except.error.inj h
      refine ⟨[], pair, pairs, rfl, rfl, ?_, (assign_nil q).symm⟩
      rw [assign_nil, hset]
    | ok q' =>
      simp only [setMany_cons, hset] at h ⊢
      obtain ⟨before, other, after, rfl, hbefore, hother, hquery⟩ := ih h
      rw [assign_of_set hset] at hother hquery
      refine ⟨pair :: before, other, after, rfl, ?_, hother, hquery⟩
      simp only [setMany_cons, hset, hbefore]

/-- The accepted pairs record what all of them do, without an error. -/
theorem setMany_accepted (q : Query) (pairs : List (String × Value)) :
    q.setMany (q.accepted pairs) = ⟨(q.setMany pairs).query, .ok ()⟩ := by
  induction pairs generalizing q with
  | nil => rfl
  | cons pair pairs ih =>
    cases hset : q.set pair.1 (.value pair.2) with
    | error e =>
      rw [accepted, List.takeWhile_cons_of_neg (by simp [hset, Except.isOk, Except.toBool]),
        setMany_nil, setMany_cons, hset]
    | ok q' =>
      have hrest : q.accepted pairs = q'.accepted pairs := by
        simp only [accepted, isOk_set_of_set hset]
      rw [accepted, List.takeWhile_cons_of_pos (by simp [hset, Except.isOk, Except.toBool]),
        ← accepted, hrest]
      simp only [setMany_cons, hset, ih]

end Query

namespace Script

/-! ## Runs -/

/-- A script that stops at a failure went well before it, and what it leaves is what the failing
step left. -/
theorem runGuarded_of_failure {q : Query} {ss : List Step} {e : QueryError}
    (h : (runGuarded q ss).failure = some e) :
    ∃ before s after, ss = before ++ s :: after ∧
      (∀ r ∈ (run q before).2, r.error? = none) ∧
      (step (run q before).1 s).2.error? = some e ∧
      (runGuarded q ss).query = (step (run q before).1 s).1 := by
  induction ss generalizing q with
  | nil =>
    rw [runGuarded] at h
    cases h
  | cons s ss ih =>
    cases herror : (step q s).2.error? with
    | some e' =>
      rw [runGuarded_cons_of_failed herror] at h ⊢
      obtain rfl := Option.some.inj h
      refine ⟨[], s, ss, rfl, ?_, ?_, ?_⟩
      · simp [run_nil]
      · rw [run_nil, herror]
      · rw [run_nil]
    | none =>
      rw [runGuarded_cons_of_done herror] at h ⊢
      obtain ⟨before, s', after, rfl, hbefore, hs', hquery⟩ := ih h
      refine ⟨s :: before, s', after, rfl, ?_, ?_, ?_⟩
      · rw [run_cons_snd]
        exact List.forall_mem_cons.mpr ⟨herror, hbefore⟩
      · rwa [run_cons_fst]
      · rwa [run_cons_fst]

/-! ## Runs without failures -/

mutual

/-- Nothing fails in a step, nor in a script that it runs in a group or on a copy. -/
def StepErrorFree (q : Query) : Step → Prop
  | .call c => ∃ c', call c = .ok c' ∧ (q.perform c').outcome = .ok ()
  | .group link body => ErrorFree (q.openGroup link) body
  | .nest links body => ErrorFree (q.openGroups links) body
  | .fork body => ErrorFree q body
  | .restart cs => ∃ q', calls .new cs = .ok q'
  | .statement | .sql | .build => True

/-- Nothing fails in a run. -/
def ErrorFree (q : Query) : List Step → Prop
  | [] => True
  | s :: ss => StepErrorFree q s ∧ ErrorFree (step q s).1 ss

end

theorem errorFree_nil (q : Query) : ErrorFree q [] := by
  rw [ErrorFree]
  trivial

theorem errorFree_cons {q : Query} {s : Step} {ss : List Step} :
    ErrorFree q (s :: ss) ↔ StepErrorFree q s ∧ ErrorFree (step q s).1 ss := by
  rw [ErrorFree]

theorem errorFree_append {q : Query} {ss others : List Step} :
    ErrorFree q (ss ++ others) ↔ ErrorFree q ss ∧ ErrorFree (run q ss).1 others := by
  induction ss generalizing q with
  | nil => simp [errorFree_nil, run_nil]
  | cons s ss ih =>
    rw [List.cons_append, errorFree_cons, errorFree_cons, ih, run_cons_fst, and_assoc]

mutual

/-- A step in which nothing fails does not fail. -/
theorem error?_of_errorFree {q : Query} : ∀ {s : Step}, StepErrorFree q s →
    (step q s).2.error? = none
  | .call c, h => by
    rw [StepErrorFree] at h
    obtain ⟨c', hc, houtcome⟩ := h
    rw [step, hc]
    simp only [houtcome]
    rfl
  | .group link body, h => by
    rw [StepErrorFree] at h
    rw [step, (runGuarded_of_errorFree h).1]
    rfl
  | .nest links body, h => by
    rw [StepErrorFree] at h
    rw [step, GuardedRun.outcome, (runGuarded_of_errorFree h).1]
    rfl
  | .restart cs, h => by
    rw [StepErrorFree] at h
    obtain ⟨q', hq'⟩ := h
    rw [step, hq']
    rfl
  | .fork _, _ | .statement, _ | .sql, _ | .build, _ => by
    rw [step]
    rfl

/-- A run in which nothing fails does not stop before its end. -/
theorem runGuarded_of_errorFree {q : Query} : ∀ {ss : List Step}, ErrorFree q ss →
    (runGuarded q ss).failure = none ∧ (runGuarded q ss).query = (run q ss).1
  | [], _ => by
    rw [runGuarded, run_nil]
    exact ⟨rfl, rfl⟩
  | s :: ss, h => by
    obtain ⟨hs, hss⟩ := errorFree_cons.mp h
    rw [runGuarded_cons_of_done (error?_of_errorFree hs), run_cons_fst]
    exact runGuarded_of_errorFree hss

end

/-! ## Leaving failures out -/

/-- What is kept of a call that fails: the pairs that are accepted, where it assigns several. -/
def keptOfCall (q : Query) : Call (List Step) → List Step
  | .setMany pairs => [.call (.setMany (q.accepted pairs))]
  | _ => []

mutual

/-- What is kept of a step. -/
def repairStep (q : Query) : Step → List Step
  | .call c =>
    match call c with
    | .error _ => []
    | .ok c' =>
      match (q.perform c').outcome with
      | .ok () => [.call c]
      | .error _ => keptOfCall q c
  | .group link body => [.group link (cut (q.openGroup link) body)]
  | .nest links body => [.nest links (cut (q.openGroups links) body)]
  | .fork body => [.fork (repair q body)]
  | .restart cs =>
    match calls .new cs with
    | .error _ => []
    | .ok _ => [.restart cs]
  | .statement => [.statement]
  | .sql => [.sql]
  | .build => [.build]

/-- The script without its failures, if it goes on after them. -/
def repair (q : Query) : List Step → List Step
  | [] => []
  | s :: ss => repairStep q s ++ repair (step q s).1 ss

/-- The script up to its first failure, with what is kept of the step that fails. -/
def cut (q : Query) : List Step → List Step
  | [] => []
  | s :: ss =>
    repairStep q s ++
      match (step q s).2.error? with
      | some _ => []
      | none => cut (step q s).1 ss

end

/-- Only an assignment of several values runs as one. -/
theorem eq_setMany_of_call {c : Call (List Step)} {pairs : List (String × Value)}
    (h : call c = .ok (.setMany pairs)) : c = .setMany pairs := by
  cases c with
  | setMany _ =>
    rw [call] at h
    cases h
    rfl
  | select _ _ | addSelect _ | condition _ _ _ _ | groupBy _ | orderBy _ _ =>
    rw [call] at h
    obtain ⟨_, _, h⟩ := bind_eq_ok_iff.mp h
    cases Except.ok.inj h
  | distinct | delete | ignore | table _ | tableAlias _ | name _ | join _ _ _ _ _ | limit _
  | offset _ | window _ _ | paginate _ _ | insertRows _ | insertJson _ | insertColumns _ | row _
  | onDuplicateKey _ _ | update _ | set _ _ =>
    rw [call] at h
    cases h

/-- What is kept of a failing call records what the call did, without an error. -/
theorem keptOfCall_spec {q : Query} {c : Call (List Step)} {c' : Call Query} {e : QueryError}
    (hc : call c = .ok c') (houtcome : (q.perform c').outcome = .error e) :
    ErrorFree q (keptOfCall q c) ∧ (run q (keptOfCall q c)).1 = (q.perform c').query := by
  by_cases hmany : ∃ pairs, c = .setMany pairs
  · obtain ⟨pairs, rfl⟩ := hmany
    rw [call] at hc
    obtain rfl := Except.ok.inj hc
    have hperform : q.perform (.setMany (q.accepted pairs)) =
        ⟨(q.perform (.setMany pairs)).query, .ok ()⟩ := q.setMany_accepted pairs
    constructor
    · refine errorFree_cons.mpr ⟨?_, errorFree_nil _⟩
      rw [StepErrorFree]
      exact ⟨.setMany (q.accepted pairs), by rw [call], by rw [hperform]⟩
    · rw [keptOfCall, run_cons_fst, run_nil, step, call]
      simp only [hperform]
  · have hkept : keptOfCall q c = [] := by
      cases c <;> first | rfl | exact absurd ⟨_, rfl⟩ hmany
    have hc' : ∀ pairs, c' ≠ .setMany pairs := by
      rintro pairs rfl
      exact hmany ⟨pairs, eq_setMany_of_call hc⟩
    rw [hkept, run_nil, Query.query_perform_of_error houtcome hc']
    exact ⟨errorFree_nil q, rfl⟩

theorem errorFree_singleton {q : Query} {s : Step} : ErrorFree q [s] ↔ StepErrorFree q s := by
  rw [errorFree_cons, and_iff_left (errorFree_nil _)]

theorem run_singleton_fst (q : Query) (s : Step) : (run q [s]).1 = (step q s).1 := by
  rw [run_cons_fst, run_nil]

mutual

/-- What is kept of a step does what the step did, without an error. -/
theorem repairStep_spec (q : Query) : ∀ s : Step,
    ErrorFree q (repairStep q s) ∧ (run q (repairStep q s)).1 = (step q s).1
  | .call c => by
    rw [repairStep, step]
    cases hc : call c with
    | error e =>
      simp only [run_nil]
      exact ⟨errorFree_nil q, trivial⟩
    | ok c' =>
      cases houtcome : (q.perform c').outcome with
      | error e =>
        simp only [houtcome]
        exact keptOfCall_spec hc houtcome
      | ok _ =>
        simp only [houtcome]
        rw [errorFree_singleton, StepErrorFree, run_singleton_fst, step, hc]
        exact ⟨⟨c', rfl, houtcome⟩, rfl⟩
  | .group link body => by
    obtain ⟨hfree, hquery⟩ := cut_spec (q.openGroup link) body
    rw [repairStep, errorFree_singleton, StepErrorFree, run_singleton_fst, step, step]
    refine ⟨hfree, ?_⟩
    rw [(runGuarded_of_errorFree hfree).2, hquery]
  | .nest links body => by
    obtain ⟨hfree, hquery⟩ := cut_spec (q.openGroups links) body
    rw [repairStep, errorFree_singleton, StepErrorFree, run_singleton_fst, step, step]
    refine ⟨hfree, ?_⟩
    rw [(runGuarded_of_errorFree hfree).2, hquery]
  | .fork body => by
    rw [repairStep, errorFree_singleton, StepErrorFree, run_singleton_fst, step, step]
    exact ⟨(repair_spec q body).1, rfl⟩
  | .restart cs => by
    rw [repairStep, step]
    cases hc : calls .new cs with
    | error e =>
      simp only [run_nil]
      exact ⟨errorFree_nil q, trivial⟩
    | ok q' =>
      simp only [run_singleton_fst]
      rw [errorFree_singleton, StepErrorFree, step, hc]
      exact ⟨⟨q', rfl⟩, rfl⟩
  | .statement | .sql | .build => by
    rw [repairStep, errorFree_singleton, StepErrorFree, run_singleton_fst]
    exact ⟨trivial, rfl⟩

/-- A script that goes on after its failures makes what it makes without them. -/
theorem repair_spec (q : Query) : ∀ ss : List Step,
    ErrorFree q (repair q ss) ∧ (run q (repair q ss)).1 = (run q ss).1
  | [] => by
    rw [repair]
    exact ⟨errorFree_nil q, rfl⟩
  | s :: ss => by
    obtain ⟨hs, hquery⟩ := repairStep_spec q s
    rw [repair, errorFree_append, run_append_fst, run_cons_fst, hquery]
    exact ⟨⟨hs, (repair_spec (step q s).1 ss).1⟩, (repair_spec (step q s).1 ss).2⟩

/-- A script that stops at its first failure makes what it makes when it is cut there. -/
theorem cut_spec (q : Query) : ∀ ss : List Step,
    ErrorFree q (cut q ss) ∧ (run q (cut q ss)).1 = (runGuarded q ss).query
  | [] => by
    rw [cut, run_nil, runGuarded]
    exact ⟨errorFree_nil q, rfl⟩
  | s :: ss => by
    obtain ⟨hs, hquery⟩ := repairStep_spec q s
    rw [cut, errorFree_append, run_append_fst, hquery]
    cases herror : (step q s).2.error? with
    | some e =>
      rw [runGuarded_cons_of_failed herror]
      simp only [run_nil]
      exact ⟨⟨hs, errorFree_nil _⟩, trivial⟩
    | none =>
      rw [runGuarded_cons_of_done herror]
      exact ⟨⟨hs, (cut_spec (step q s).1 ss).1⟩, (cut_spec (step q s).1 ss).2⟩

end

mutual

theorem repairStep_of_errorFree {q : Query} : ∀ {s : Step}, StepErrorFree q s →
    repairStep q s = [s]
  | .call c, h => by
    rw [StepErrorFree] at h
    obtain ⟨c', hc, houtcome⟩ := h
    rw [repairStep, hc]
    simp only [houtcome]
  | .group link body, h => by
    rw [StepErrorFree] at h
    rw [repairStep, cut_of_errorFree h]
  | .nest links body, h => by
    rw [StepErrorFree] at h
    rw [repairStep, cut_of_errorFree h]
  | .fork body, h => by
    rw [StepErrorFree] at h
    rw [repairStep, repair_of_errorFree h]
  | .restart cs, h => by
    rw [StepErrorFree] at h
    obtain ⟨q', hq'⟩ := h
    rw [repairStep, hq']
  | .statement, _ | .sql, _ | .build, _ => by rw [repairStep]

/-- Nothing is left out of a script in which nothing fails. -/
theorem repair_of_errorFree {q : Query} : ∀ {ss : List Step}, ErrorFree q ss → repair q ss = ss
  | [], _ => by rw [repair]
  | s :: ss, h => by
    obtain ⟨hs, hss⟩ := errorFree_cons.mp h
    rw [repair, repairStep_of_errorFree hs, repair_of_errorFree hss]
    rfl

theorem cut_of_errorFree {q : Query} : ∀ {ss : List Step}, ErrorFree q ss → cut q ss = ss
  | [], _ => by rw [cut]
  | s :: ss, h => by
    obtain ⟨hs, hss⟩ := errorFree_cons.mp h
    rw [cut, repairStep_of_errorFree hs, error?_of_errorFree hs]
    exact congrArg (s :: ·) (cut_of_errorFree hss)

end

/-! ## No trace -/

/-- A failing call leaves the query as it was. If it assigns several values, it leaves those before
the first that is refused. A failing group leaves what its script recorded up to the failure and the
cursor where it was. So a script with failures makes the query that its repaired form makes, in
which nothing fails; a script in which nothing fails is its own repaired form. -/
theorem failures_leave_no_trace (q : Query) :
    (∀ c e, (q.perform c).outcome = .error e → (∀ pairs, c ≠ .setMany pairs) →
      (q.perform c).query = q) ∧
    (∀ pairs e, (q.perform (.setMany pairs)).outcome = .error e →
      ∃ before pair after, pairs = before ++ pair :: after ∧
        (q.perform (.setMany before)).outcome = .ok () ∧
        (q.assign before).set pair.1 (.value pair.2) = .error e ∧
        (q.perform (.setMany pairs)).query = q.assign before) ∧
    (∀ link body e, (step q (.group link body)).2 = .failed e →
      (staysInPlace body →
        (step q (.group link body)).1.conditions.cursor = q.conditions.cursor) ∧
      ∃ before s after, body = before ++ s :: after ∧
        let reached := run (q.openGroup link) before
        (∀ r ∈ reached.2, r.error? = none) ∧ (step reached.1 s).2.error? = some e ∧
        (step q (.group link body)).1 = (step reached.1 s).1.closeGroup) ∧
    ∀ steps, ErrorFree q (repair q steps) ∧ (run q (repair q steps)).1 = (run q steps).1 ∧
      (ErrorFree q steps → repair q steps = steps) := by
  refine ⟨fun c e h hc => Query.query_perform_of_error h hc,
    fun pairs e h => Query.setMany_of_error h, fun link body e h => ⟨fun hbody => ?_, ?_⟩,
    fun steps => ⟨(repair_spec q steps).1, (repair_spec q steps).2, repair_of_errorFree⟩⟩
  · exact cursor_step q (.group link body) (by rwa [Step.staysInPlace])
  · have hfailure : (runGuarded (q.openGroup link) body).failure = some e := by
      rw [step] at h
      cases hrun : (runGuarded (q.openGroup link) body).failure with
      | none => simp [hrun] at h
      | some e' => simpa [hrun] using h
    obtain ⟨before, s, after, hbody, hbefore, hs, hquery⟩ := runGuarded_of_failure hfailure
    refine ⟨before, s, after, hbody, hbefore, hs, ?_⟩
    rw [step, hquery]

/-- In an UPDATE, a clause that it cannot have, the second of three pairs and a condition two groups
deep fail. -/
theorem no_trace_of_failures_in_update :
    let q := (run .new [.call (.update "t")]).1
    let pairs : List (String × Value) := [("a", .int 1), ("1", .int 2), ("b", .int 3)]
    let equal (column : String) : Step := .call (.equal column (.scalar (.int 0)))
    let body : List Step := [equal "x", .group .or [equal "y", equal " ", equal "z"], equal "w"]
    let steps : List Step := [.call .distinct, .call (.setMany pairs), .group .and body, equal "v"]
    let repaired : List Step := [.call (.setMany [("a", .int 1)]),
      .group .and [equal "x", .group .or [equal "y"]], equal "v"]
    (q.perform .distinct).outcome = .error (.unsupportedClause "DISTINCT" "UPDATE") ∧
      (q.perform .distinct).query = q ∧
      (q.perform (.setMany pairs)).outcome =
        .error (.invalidColumn "invalid character '1' in column name: 1") ∧
      (q.perform (.setMany pairs)).query = q.assign [("a", .int 1)] ∧
      (step q (.group .and body)).2 = .failed (.invalidColumn "expression cannot be empty") ∧
      staysInPlace body ∧ (step q (.group .and body)).1.conditions.cursor = [] ∧
      ErrorFree q repaired ∧ (run q repaired).1 = (run q steps).1 := by
  intro q pairs equal body steps repaired
  obtain ⟨hcall, hmany, hgroup, hsteps⟩ := failures_leave_no_trace q
  have hdistinct :
      (q.perform .distinct).outcome = .error (.unsupportedClause "DISTINCT" "UPDATE") := by rfl
  have hpairs : (q.perform (.setMany pairs)).outcome =
      .error (.invalidColumn "invalid character '1' in column name: 1") := by rfl
  have hbody : (step q (.group .and body)).2 =
      .failed (.invalidColumn "expression cannot be empty") := by rfl
  have hstays : staysInPlace body := by rfl
  obtain ⟨before, pair, after, hsplit, hbefore, hpair, hquery⟩ := hmany pairs _ hpairs
  have hprefix : before = [("a", .int 1)] := by
    rcases before with _ | ⟨first, _ | ⟨second, before⟩⟩ <;>
      simp only [pairs, List.nil_append, List.cons_append, List.cons.injEq] at hsplit
    · obtain ⟨rfl, -⟩ := hsplit
      cases hpair
    · obtain ⟨rfl, -⟩ := hsplit
      rfl
    · obtain ⟨rfl, rfl, -⟩ := hsplit
      cases hbefore
  exact ⟨hdistinct, hcall .distinct _ hdistinct (by simp), hpairs, hprefix ▸ hquery, hbody, hstays,
    (hgroup .and body _ hbody).1 hstays, (hsteps steps).1, (hsteps steps).2.1⟩

end Script

end BoundSql
