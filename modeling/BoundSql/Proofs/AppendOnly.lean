import BoundSql.Proofs.Representation
import Mathlib.Data.List.Infix

/-!
# Recording only adds

Nothing that was recorded for a statement is taken back, moved or changed by what is recorded
later: its kind is chosen once, items, rows, assignments, joins and nodes of the tree of
conditions go behind those that are there, and flags are only set. So every query that a script
goes through, also inside its groups and past its failures, extends all queries before it
(`Script.recording_only_adds`). The paths by which a cursor addresses groups stay valid for this
reason.

What a statement has only one of is outside of this: a table, a name or a limit that is set again
takes the place of the one before.

## Main definitions

* `Forest.Extends`, `Statement.Extends`, `Query.Extends` — that something was only added to.
* `Script.states` — the queries that a script goes through.
-/

namespace BoundSql

variable {α Q : Type}

/-! ## Forests -/

/-- A node without what is inside of a group: its connective, and the condition of a leaf. -/
def ConditionNode.label : ConditionNode α → Connective × Option α
  | .leaf link condition => (link, some condition)
  | .group link _ => (link, none)

namespace Forest

/-- Siblings as they stand, without what is inside of groups. -/
def labels (nodes : Forest α) : List (Connective × Option α) :=
  List.map ConditionNode.label nodes

/-- At every path to a group, the nodes that were there come first and are what they were: a
condition is the same one, a group has its connective. What is inside the group stands at a longer
path. -/
def Extends (nodes others : Forest α) : Prop :=
  ∀ place, IsPath place nodes →
    IsPath place others ∧ (childrenAt place nodes).labels <+: (childrenAt place others).labels

theorem Extends.refl (nodes : Forest α) : Extends nodes nodes :=
  fun _ hplace => ⟨hplace, List.prefix_rfl⟩

theorem Extends.trans {first second third : Forest α} (h : Extends first second)
    (h' : Extends second third) : Extends first third := by
  intro place hplace
  obtain ⟨hsecond, hprefix⟩ := h place hplace
  obtain ⟨hthird, hprefix'⟩ := h' place hsecond
  exact ⟨hthird, hprefix.trans hprefix'⟩

/-- A node stays where it was, and only what is inside of a group may be another. -/
theorem Extends.label {nodes others : Forest α} (h : Extends nodes others) {place : List Nat}
    {i : Nat} {node : ConditionNode α} (hplace : IsPath place nodes)
    (hi : (childrenAt place nodes)[i]? = some node) :
    ∃ node', (childrenAt place others)[i]? = some node' ∧ node'.label = node.label := by
  obtain ⟨-, rest, hrest⟩ := h place hplace
  have hlabel : (childrenAt place nodes).labels[i]? = some node.label := by
    rw [labels, List.getElem?_map, hi, Option.map_some]
  have hlt := (List.getElem?_eq_some_iff.mp hlabel).1
  rw [← List.getElem?_append_left hlt, hrest, labels, List.getElem?_map] at hlabel
  exact Option.map_eq_some_iff.mp hlabel

/-- A condition stays where it was. -/
theorem Extends.leaf {nodes others : Forest α} (h : Extends nodes others) {place : List Nat}
    {i : Nat} {link : Connective} {condition : α} (hplace : IsPath place nodes)
    (hi : (childrenAt place nodes)[i]? = some (.leaf link condition)) :
    (childrenAt place others)[i]? = some (.leaf link condition) := by
  obtain ⟨node, hnode, hlabel⟩ := h.label hplace hi
  cases node with
  | leaf link' condition' =>
    obtain ⟨rfl, hcondition⟩ := Prod.mk.inj hlabel
    rw [hnode, Option.some.inj hcondition]
  | group _ _ => cases hlabel

/-- A group keeps its place and its connective. -/
theorem Extends.group {nodes others : Forest α} (h : Extends nodes others) {place : List Nat}
    {i : Nat} {link : Connective} {children : Forest α} (hplace : IsPath place nodes)
    (hi : (childrenAt place nodes)[i]? = some (.group link children)) :
    ∃ children', (childrenAt place others)[i]? = some (.group link children') := by
  obtain ⟨node, hnode, hlabel⟩ := h.label hplace hi
  cases node with
  | leaf _ _ => cases hlabel
  | group link' children' =>
    obtain ⟨rfl, -⟩ := Prod.mk.inj hlabel
    exact ⟨children', hnode⟩

/-- Siblings extend others if they do so as they stand, and each group extends that in its place.
-/
theorem extends_of_labels {nodes others : Forest α}
    (hlabels : nodes.labels <+: others.labels)
    (hgroups : ∀ (i : Nat) link children, nodes[i]? = some (ConditionNode.group link children) →
      ∃ children', others[i]? = some (ConditionNode.group link children') ∧
        Extends children children') :
    Extends nodes others := by
  intro place hplace
  cases place with
  | nil => exact ⟨trivial, hlabels⟩
  | cons i place =>
    obtain ⟨link, children, hi, hplace⟩ := hplace
    obtain ⟨children', hi', hchildren⟩ := hgroups i link children hi
    rw [childrenAt_cons_of_group hi, childrenAt_cons_of_group hi']
    obtain ⟨hpath, hprefix⟩ := hchildren place hplace
    exact ⟨⟨link, children', hi', hpath⟩, hprefix⟩

/-- Nodes added at the end of any path leave the others what and where they were. -/
theorem extends_modifyAt (more : Forest α) (path : List Nat) (nodes : Forest α) :
    Extends nodes (modifyAt (· ++ more) path nodes) := by
  induction path generalizing nodes with
  | nil =>
    refine extends_of_labels ?_ fun i link children hi => ⟨children, ?_, .refl children⟩
    · rw [modifyAt_nil, labels, labels, List.map_append]
      exact List.prefix_append _ _
    · rw [modifyAt_nil, List.getElem?_append_left (List.getElem?_eq_some_iff.mp hi).1, hi]
  | cons k path ih =>
    -- The nodes go into a group, which keeps its connective.
    have hlabels : (modifyAt (· ++ more) (k :: path) nodes).labels = nodes.labels := by
      refine List.ext_getElem? fun i => ?_
      rw [labels, labels, modifyAt, List.getElem?_map, List.getElem?_map, List.getElem?_modify,
        Option.map_eq_map, Option.map_map]
      congr 1
      funext node
      by_cases hik : k = i
      · rw [Function.comp_apply, if_pos hik]
        cases node <;> rfl
      · rw [Function.comp_apply, if_neg hik]
    refine extends_of_labels (hlabels ▸ List.prefix_rfl) fun i link children hi => ?_
    by_cases hik : k = i
    · subst hik
      exact ⟨_, getElem?_modifyAt_cons_self hi, ih children⟩
    · refine ⟨children, ?_, .refl children⟩
      rw [modifyAt, List.getElem?_modify_ne _ _ hik, hi]

end Forest

/-! ## Statements -/

namespace Statement

/-- A statement of the same kind with more items, rows or assignments behind those that it had and
no flag taken back. An INSERT keeps its columns, and every new row has a value for each. -/
inductive Extends : Statement Q → Statement Q → Prop
  | select {columns columns' : List (Column Q)} {distinct distinct' : Bool} :
    columns <+: columns' → (distinct → distinct') →
      Extends (.select columns distinct) (.select columns' distinct')
  | insert {columns : List String} {rows rows' : List (List Value)} {ignore ignore' : Bool}
      {onDuplicateKey onDuplicateKey' : List Assignment} (more : List (List Value)) :
    rows' = rows ++ more → (∀ row ∈ more, row.length = columns.length) → (ignore → ignore') →
      onDuplicateKey <+: onDuplicateKey' →
      Extends (.insert columns rows ignore onDuplicateKey)
        (.insert columns rows' ignore' onDuplicateKey')
  | update {assignments assignments' : List Assignment} :
    assignments <+: assignments' → Extends (.update assignments) (.update assignments')
  | delete : Extends .delete .delete

theorem Extends.refl (s : Statement Q) : s.Extends s := by
  cases s with
  | select _ _ => exact .select List.prefix_rfl id
  | insert _ rows _ _ => exact .insert [] (List.append_nil rows).symm (by simp) id List.prefix_rfl
  | update _ => exact .update List.prefix_rfl
  | delete => exact .delete

theorem Extends.trans {first second third : Statement Q} (h : first.Extends second)
    (h' : second.Extends third) : first.Extends third := by
  cases h with
  | select hcolumns hdistinct =>
    cases h' with
    | select hcolumns' hdistinct' =>
      exact .select (hcolumns.trans hcolumns') fun hset => hdistinct' (hdistinct hset)
  | insert more hrows hfit hignore hassignments =>
    cases h' with
    | insert more' hrows' hfit' hignore' hassignments' =>
      refine .insert (more ++ more') ?_ (List.forall_mem_append.mpr ⟨hfit, hfit'⟩)
        (fun hset => hignore' (hignore hset)) (hassignments.trans hassignments')
      rw [hrows', hrows, List.append_assoc]
  | update hassignments =>
    cases h' with
    | update hassignments' => exact .update (hassignments.trans hassignments')
  | delete => exact h'

/-- A call on a query that has a statement extends the statement. -/
theorem Change.extends {embedded : List Q} {old : Option (Statement Q)} {s : Statement Q}
    (h : s.Change embedded old) : ∀ s' ∈ old, s'.Extends s := by
  cases h with
  | select _ _ | delete | update | insert _ _ => simp
  | addSelect _ _ =>
    rintro _ ⟨⟩
    exact .select (List.prefix_append _ _) id
  | distinct _ _ =>
    rintro _ ⟨⟩
    exact .select List.prefix_rfl fun _ => rfl
  | row rows _ _ hrow =>
    rintro _ ⟨⟩
    exact .insert _ rfl (by simpa using hrow) id List.prefix_rfl
  | ignore _ rows _ _ =>
    rintro _ ⟨⟩
    exact .insert [] (List.append_nil rows).symm (by simp) (fun _ => rfl) List.prefix_rfl
  | onDuplicateKey _ rows _ _ _ =>
    rintro _ ⟨⟩
    exact .insert [] (List.append_nil rows).symm (by simp) id (List.prefix_append _ _)
  | set _ _ =>
    rintro _ ⟨⟩
    exact .update (List.prefix_append _ _)

end Statement

/-! ## Queries -/

namespace Query

/-- A query in which what was recorded is still there and where it was. -/
structure Extends (q q' : Query) : Prop where
  /-- A statement that was chosen stays and is only added to. -/
  statement : ∀ s ∈ q.statement, ∃ s' ∈ q'.statement, s.Extends s'
  joins : q.joins <+: q'.joins
  conditions : Forest.Extends q.conditions.roots q'.conditions.roots
  groupBy : q.groupBy <+: q'.groupBy
  orderBy : q.orderBy <+: q'.orderBy

theorem Extends.refl (q : Query) : q.Extends q where
  statement s hs := ⟨s, hs, .refl s⟩
  joins := List.prefix_rfl
  conditions := .refl _
  groupBy := List.prefix_rfl
  orderBy := List.prefix_rfl

theorem Extends.trans {first second third : Query} (h : first.Extends second)
    (h' : second.Extends third) : first.Extends third where
  statement s hs := by
    obtain ⟨s', hs', hss'⟩ := h.statement s hs
    obtain ⟨s'', hs'', hss''⟩ := h'.statement s' hs'
    exact ⟨s'', hs'', hss'.trans hss''⟩
  joins := h.joins.trans h'.joins
  conditions := h.conditions.trans h'.conditions
  groupBy := h.groupBy.trans h'.groupBy
  orderBy := h.orderBy.trans h'.orderBy

/-- A call only adds. -/
theorem Change.extends {embedded : List Query} {q q' : Query} (h : Change embedded q q') :
    q.Extends q' := by
  cases h with
  | unchanged => exact .refl q
  | settings _ _ _ _ _ => exact { Extends.refl q with }
  | statement table hs =>
    exact { Extends.refl q with statement := fun s hq => ⟨_, rfl, hs.extends s hq⟩ }
  | condition _ _ _ => exact { Extends.refl q with conditions := Forest.extends_modifyAt _ _ _ }
  | join _ => exact { Extends.refl q with joins := List.prefix_append _ _ }
  | groupBy _ => exact { Extends.refl q with groupBy := List.prefix_append _ _ }
  | orderBy _ _ => exact { Extends.refl q with orderBy := List.prefix_append _ _ }

theorem extends_openGroup (q : Query) (link : Connective) : q.Extends (q.openGroup link) :=
  { Extends.refl q with conditions := Forest.extends_modifyAt _ _ _ }

theorem extends_closeGroup (q : Query) : q.Extends q.closeGroup := { Extends.refl q with }

/-- A list of queries, each of which extends the one before; the first extends the query that the
list starts from, and the last is the one that it leads to. -/
inductive Ascent : Query → List Query → Query → Prop
  | nil (q : Query) : Ascent q [] q
  | cons {q q' q'' : Query} {states : List Query} :
    q.Extends q' → Ascent q' states q'' → Ascent q (q' :: states) q''

namespace Ascent

variable {q q' q'' : Query} {states states' : List Query}

theorem single (h : q.Extends q') : Ascent q [q'] q' := .cons h (.nil q')

theorem append (h : Ascent q states q') (h' : Ascent q' states' q'') :
    Ascent q (states ++ states') q'' := by
  induction h with
  | nil _ => exact h'
  | cons hextends _ ih => exact .cons hextends (ih h')

theorem getLast? (h : Ascent q states q') : (q :: states).getLast? = some q' := by
  induction h with
  | nil _ => rfl
  | cons _ _ ih => rw [List.getLast?_cons_cons, ih]

/-- Each query extends all before it. -/
theorem pairwise (h : Ascent q states q') : (q :: states).Pairwise Extends := by
  induction h with
  | nil _ => exact List.pairwise_singleton _ _
  | cons hextends _ ih =>
    refine List.pairwise_cons.mpr ⟨?_, ih⟩
    exact List.forall_mem_cons.mpr
      ⟨hextends, fun s hs => hextends.trans ((List.pairwise_cons.mp ih).1 s hs)⟩

end Ascent

/-- The queries after each of the groups that `openGroups` opens. -/
def openings (q : Query) : List Connective → List Query
  | [] => []
  | link :: links => q.openGroup link :: (q.openGroup link).openings links

/-- The queries after each of the groups that `closeGroups` closes. -/
def closings (q : Query) : List Connective → List Query
  | [] => []
  | _ :: links => q.closeGroup :: q.closeGroup.closings links

theorem ascent_openings (q : Query) (links : List Connective) :
    Ascent q (q.openings links) (q.openGroups links) := by
  induction links generalizing q with
  | nil => exact .nil q
  | cons link links ih => exact .cons (extends_openGroup q link) (ih _)

theorem ascent_closings (q : Query) (links : List Connective) :
    Ascent q (q.closings links) (q.closeGroups links) := by
  induction links generalizing q with
  | nil => exact .nil q
  | cons link links ih => exact .cons (extends_closeGroup q) (ih _)

end Query

/-! ## Calls that choose a statement -/

/-- Whether a call chooses the kind of the statement. -/
def Call.choosesStatement : Call Q → Bool
  | .select _ _ | .delete | .update _ | .insertRows _ | .insertJson _ | .insertColumns _ => true
  | .addSelect _ | .distinct | .ignore | .table _ | .tableAlias _ | .name _ | .condition _ _ _ _
  | .join _ _ _ _ _ | .groupBy _ | .orderBy _ _ | .limit _ | .offset _ | .window _ _
  | .paginate _ _ | .row _ | .onDuplicateKey _ _ | .set _ _ | .setMany _ => false

namespace Query

variable {q : Query}

/-- Whatever is checked before, a second choice is refused. -/
theorem bind_choose_eq_error {β : Type} (hq : q.statement.isSome) (x : Except QueryError β)
    (f : β → Statement Query) : ∃ e, (do q.choose (f (← x))) = .error e := by
  obtain ⟨s, hs⟩ := Option.isSome_iff_exists.mp hq
  cases x with
  | error e => exact ⟨e, rfl⟩
  | ok b =>
    refine ⟨.statementAlreadySet s.name (f b).name, ?_⟩
    simp [bind, Except.bind, choose_eq, hs]

/-- With a statement, the result of every call that chooses one is an error. -/
theorem result_of_choosesStatement (hq : q.statement.isSome) {c : Call Query}
    (hc : c.choosesStatement) : ∃ e, (Recording.call c).result q = .error e := by
  cases c with
  | select columns distinct =>
    obtain ⟨e, he⟩ := bind_choose_eq_error hq (checkColumns columns) fun _ =>
      .select columns distinct
    exact ⟨e, (select_eq q columns distinct).trans he⟩
  | delete => exact bind_choose_eq_error hq (.ok ()) fun _ => .delete
  | update table =>
    obtain ⟨e, he⟩ := bind_choose_eq_error hq (.ok ()) fun _ => .update []
    have hchoose : q.choose (.update []) = .error e := he
    refine ⟨e, (update_eq q table).trans ?_⟩
    rw [hchoose]
    rfl
  | insertRows rows =>
    obtain ⟨e, he⟩ := bind_choose_eq_error hq (RowTable.ofRows rows) fun t =>
      .insert t.columns t.rows false []
    exact ⟨e, (insertRows_eq q rows).trans he⟩
  | insertJson data =>
    obtain ⟨e, he⟩ := bind_choose_eq_error hq (RowTable.ofJson data) fun t =>
      .insert t.columns t.rows false []
    exact ⟨e, (insertJson_eq q data).trans he⟩
  | insertColumns columns =>
    obtain ⟨e, he⟩ := bind_choose_eq_error hq (checkNames columns) fun _ =>
      .insert columns [] false []
    exact ⟨e, (insertColumns_eq q columns).trans he⟩
  | addSelect _ | distinct | ignore | table _ | tableAlias _ | name _ | condition _ _ _ _
  | join _ _ _ _ _ | groupBy _ | orderBy _ _ | limit _ | offset _ | window _ _ | paginate _ _
  | row _ | onDuplicateKey _ _ | set _ _ | setMany _ => cases hc

/-- With a statement, every call that chooses one fails and leaves the query as it is. -/
theorem perform_of_choosesStatement (hq : q.statement.isSome) {c : Call Query}
    (hc : c.choosesStatement) : ∃ e, q.perform c = ⟨q, .error e⟩ := by
  have hmany : ∀ pairs, c ≠ .setMany pairs := by
    rintro pairs rfl
    cases hc
  obtain ⟨e, he⟩ := result_of_choosesStatement hq hc
  exact ⟨e, by rw [q.perform_eq_ofResult hmany, he, Attempt.ofResult_error]⟩

end Query

/-! ## Scripts -/

namespace Script

/-- The call that a step stands for chooses a statement if the step's does. -/
theorem choosesStatement_call {c : Call (List Step)} {c' : Call Query} (h : call c = .ok c') :
    c'.choosesStatement = c.choosesStatement := by
  cases c with
  | select _ _ | addSelect _ | groupBy _ | orderBy _ _ | condition _ _ _ _ =>
    rw [call] at h
    obtain ⟨_, _, h⟩ := bind_eq_ok_iff.mp h
    obtain rfl := Except.ok.inj h
    rfl
  | distinct | delete | ignore | table _ | tableAlias _ | name _ | join _ _ _ _ _ | limit _
  | offset _ | window _ _ | paginate _ _ | insertRows _ | insertJson _ | insertColumns _ | row _
  | onDuplicateKey _ _ | update _ | set _ _ | setMany _ =>
    rw [call] at h
    obtain rfl := Except.ok.inj h
    rfl

/-- With a statement, every step that would choose one fails and leaves the query as it is. -/
theorem step_of_choosesStatement {q : Query} (hq : q.statement.isSome) {c : Call (List Step)}
    (hc : c.choosesStatement) : ∃ e, step q (.call c) = (q, .failed e) := by
  rw [step]
  cases h : call c with
  | error e => exact ⟨e, rfl⟩
  | ok c' =>
    obtain ⟨e, he⟩ := Query.perform_of_choosesStatement hq ((choosesStatement_call h).trans hc)
    exact ⟨e, by simp only [he, StepResult.ofOutcome]⟩

mutual

/-- The queries after the one that a step starts from: those that a script sees which runs in the
step, and the one after it. What happens on a copy or in an embedded statement happens to another
query. -/
def stepStates (q : Query) : Step → List Query
  | .group link body =>
    q.openGroup link :: guardedStates (q.openGroup link) body ++
      [(runGuarded (q.openGroup link) body).query.closeGroup]
  | .nest links body =>
    q.openings links ++ guardedStates (q.openGroups links) body ++
      (runGuarded (q.openGroups links) body).query.closings links
  | .call c => [(step q (.call c)).1]
  | .restart calls => [(step q (.restart calls)).1]
  | .fork _ | .statement | .sql | .build => [q]

/-- The queries after the first one that a script goes through which stops at its first failure. -/
def guardedStates (q : Query) : List Step → List Query
  | [] => []
  | s :: ss =>
    stepStates q s ++
      match (step q s).2.error? with
      | some _ => []
      | none => guardedStates (step q s).1 ss

end

/-- The queries after the first one that a script goes through. -/
def states (q : Query) : List Step → List Query
  | [] => []
  | s :: ss => stepStates q s ++ states (step q s).1 ss

open Query (Ascent)

mutual

/-- A step on one query only adds. -/
theorem ascent_step (q : Query) :
    ∀ s : Step, s.staysInPlace → Ascent q (stepStates q s) (step q s).1
  | .call c, _ => by
    rw [stepStates]
    refine .single ?_
    rw [step]
    split
    · exact .refl q
    · exact (Query.change_perform q _).extends
  | .group link body, h => by
    have hbody := ascent_runGuarded (q.openGroup link) body (by rwa [Step.staysInPlace] at h)
    rw [stepStates, step]
    exact .cons (Query.extends_openGroup q link)
      (hbody.append (.single (Query.extends_closeGroup _)))
  | .nest links body, h => by
    have hbody := ascent_runGuarded (q.openGroups links) body (by rwa [Step.staysInPlace] at h)
    rw [stepStates, step]
    exact ((Query.ascent_openings q links).append hbody).append (Query.ascent_closings _ links)
  | .restart _, h => by simp [Step.staysInPlace] at h
  | .fork _, _ | .statement, _ | .sql, _ | .build, _ => by
    rw [stepStates, step]
    exact .single (.refl q)

theorem ascent_runGuarded (q : Query) : ∀ ss : List Step, Script.staysInPlace ss →
    Ascent q (guardedStates q ss) (runGuarded q ss).query
  | [], _ => by
    rw [guardedStates, runGuarded]
    exact .nil q
  | s :: ss, h => by
    rw [Script.staysInPlace, Bool.and_eq_true] at h
    have hs := ascent_step q s h.1
    rw [guardedStates]
    cases herror : (step q s).2.error? with
    | some e =>
      rw [runGuarded_cons_of_failed herror]
      exact hs.append (.nil _)
    | none =>
      rw [runGuarded_cons_of_done herror]
      exact hs.append (ascent_runGuarded (step q s).1 ss h.2)

end

/-- A script on one query only adds. -/
theorem ascent_run (q : Query) (ss : List Step) (h : Script.staysInPlace ss) :
    Ascent q (states q ss) (run q ss).1 := by
  induction ss generalizing q with
  | nil =>
    rw [states, run_nil]
    exact .nil q
  | cons s ss ih =>
    rw [Script.staysInPlace, Bool.and_eq_true] at h
    rw [states, run_cons_fst]
    exact (ascent_step q s h.1).append (ih _ h.2)

/-- Every query that a script goes through extends all queries before it, and from the one on that
has a statement no call chooses another. -/
theorem recording_only_adds {script : Script} (h : staysInPlace script) (q : Query) :
    (q :: states q script).getLast? = some (run q script).1 ∧
      (q :: states q script).Pairwise fun s s' => s.Extends s' ∧
        (s.statement.isSome → ∀ c : Call (List Step), c.choosesStatement →
          ∀ r ∈ [s, s'], ∃ e, step r (.call c) = (r, .failed e)) := by
  have hascent := ascent_run q script h
  refine ⟨hascent.getLast?, hascent.pairwise.imp fun {s s'} hextends => ⟨hextends, ?_⟩⟩
  intro hs c hc
  have hs' : s'.statement.isSome := by
    obtain ⟨old, hold⟩ := Option.isSome_iff_exists.mp hs
    obtain ⟨new, hnew, -⟩ := hextends.statement old hold
    exact Option.isSome_iff_exists.mpr ⟨new, hnew⟩
  simpa using ⟨step_of_choosesStatement hs hc, step_of_choosesStatement hs' hc⟩

/-- A group of conditions fails after its first step, and its query stays. -/
theorem recording_only_adds_in_failed_group :
    (Query.new :: states .new
      [.call (.select [.expression "id"] false),
        .group .or [.call (.equal "id" (.scalar (.int 7))), .call .delete, .call .distinct],
        .call (.equal "name" (.scalar .null))]).Pairwise Query.Extends :=
  (recording_only_adds (by decide) .new).2.imp fun h => h.1

end Script

end BoundSql
