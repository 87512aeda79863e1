import BoundSql.Query.Call

/-!
# Recordings that fail as a whole

What the steps of a recording store stays in the query if a later step fails. Most recordings check
all that they check before they store anything, so a failure leaves the query as it was: they are
atomic. This is a matter of the order of their steps. Steps that store nothing may come before an
atomic recording, and steps that cannot fail may come behind one. Of all calls only
`Recording.setMany` is not made in this way (`Recording.atomic_call`).

An atomic recording is known by its result, which is the query after it or the error. So the
results stand here as functions of their own, and with each of them an equation that has no state.

## Main definitions

* `Recording.StoresNothing`, `Recording.CannotFail`, `Recording.Atomic` — what holds of a recording
  whatever the query is.
* `Recording.result` — the query after a recording, or the error.
* `Query.choose`, `Query.select` and so on — the results of the recordings of these names.
-/

namespace BoundSql

namespace Recording

variable {α : Type}

/-- The query is afterwards what it was before, whether or not a step fails. -/
def StoresNothing (r : Recording α) : Prop :=
  ∀ q, match r.run q with
    | .ok _ q' => q' = q
    | .error _ q' => q' = q

/-- No step fails. -/
def CannotFail (r : Recording α) : Prop := ∀ q e q', r.run q ≠ .error e q'

/-- A failure leaves the query as it was. -/
def Atomic (r : Recording α) : Prop := ∀ q e q', r.run q = .error e q' → q' = q

/-! ## The order of steps -/

theorem StoresNothing.atomic {r : Recording α} (h : r.StoresNothing) : r.Atomic := by
  intro q e q' he
  have hq := h q
  rwa [he] at hq

theorem CannotFail.atomic {r : Recording α} (h : r.CannotFail) : r.Atomic :=
  fun q e q' he => absurd he (h q e q')

theorem StoresNothing.atomic_bind {β : Type} {r : Recording α} {f : α → Recording β}
    (hr : r.StoresNothing) (hf : ∀ a, (f a).Atomic) : Atomic (r >>= f) := by
  intro q e q' h
  have hq := hr q
  rw [EStateM.run_bind] at h
  cases hrun : r.run q with
  | ok a q'' =>
    rw [hrun] at h hq
    obtain rfl : q'' = q := hq
    exact hf a q'' e q' h
  | error e' q'' =>
    rw [hrun] at h hq
    obtain ⟨-, rfl⟩ := EStateM.Result.error.inj h
    exact hq

theorem Atomic.bind_cannotFail {β : Type} {r : Recording α} {f : α → Recording β} (hr : r.Atomic)
    (hf : ∀ a, (f a).CannotFail) : Atomic (r >>= f) := by
  intro q e q' h
  rw [EStateM.run_bind] at h
  cases hrun : r.run q with
  | ok a q'' =>
    rw [hrun] at h
    exact absurd h (hf a q'' e q')
  | error e' q'' =>
    rw [hrun] at h
    obtain ⟨-, rfl⟩ := EStateM.Result.error.inj h
    exact hr q e' q'' hrun

theorem storesNothing_get : StoresNothing get := fun _ => rfl

theorem storesNothing_throw (e : QueryError) : StoresNothing (throw e : Recording α) := fun _ => rfl

theorem storesNothing_ofExcept (x : Except QueryError α) :
    StoresNothing (ofExcept x : Recording α) := by
  cases x <;> exact fun _ => rfl

theorem storesNothing_refuse (clause : String) : StoresNothing (refuse clause) := fun _ => rfl

theorem cannotFail_modify (f : Query → Query) : CannotFail (modify f) := fun _ _ _ h => nomatch h

/-- A check may come first. -/
theorem atomic_ofExcept_bind {β : Type} (x : Except QueryError α) {f : α → Recording β}
    (hf : ∀ a, (f a).Atomic) : Atomic (ofExcept x >>= f) :=
  (storesNothing_ofExcept x).atomic_bind hf

/-- A look at the query may come first. -/
theorem atomic_get_bind {β : Type} {f : Query → Recording β} (hf : ∀ q, (f q).Atomic) :
    Atomic (get >>= f) :=
  storesNothing_get.atomic_bind hf

/-! ## The recordings of calls -/

theorem atomic_refuse (clause : String) : Atomic (refuse clause) :=
  (storesNothing_refuse clause).atomic

theorem atomic_modify (f : Query → Query) : Atomic (modify f) := (cannotFail_modify f).atomic

theorem atomic_store (s : Statement Query) : Atomic (store s) := atomic_modify _

theorem atomic_choose (s : Statement Query) : Atomic (choose s) := by
  refine atomic_get_bind fun q => ?_
  split
  · exact (storesNothing_throw _).atomic
  · exact atomic_store s

theorem atomic_select (columns : List (Column Query)) (distinct : Bool) :
    Atomic (select columns distinct) :=
  atomic_ofExcept_bind _ fun _ => atomic_choose _

theorem atomic_addSelect (column : Column Query) : Atomic (addSelect column) := by
  refine atomic_ofExcept_bind _ fun _ => atomic_get_bind fun q => ?_
  split
  · exact atomic_store _
  · exact atomic_refuse _

theorem atomic_distinct : Atomic distinct := by
  refine atomic_get_bind fun q => ?_
  split
  · exact atomic_store _
  · exact atomic_refuse _

theorem atomic_delete : Atomic delete := atomic_choose .delete

/-- The table is set behind the choice of the statement, which fails or leaves nothing to fail. -/
theorem atomic_update (table : String) : Atomic (update table) :=
  (atomic_choose _).bind_cannotFail fun _ => cannotFail_modify _

theorem atomic_addCondition (link : Connective) (column operand : String)
    (comparand : Comparand Query) : Atomic (addCondition link column operand comparand) :=
  atomic_ofExcept_bind _ fun _ => atomic_modify _

theorem atomic_join (kind : JoinKind) (table left operand right : String) :
    Atomic (join kind table left operand right) := by
  refine atomic_ofExcept_bind _ fun _ => atomic_ofExcept_bind _ fun _ =>
    atomic_ofExcept_bind _ fun _ => atomic_ofExcept_bind _ fun parsed => ?_
  split
  · exact atomic_modify _
  · exact (storesNothing_throw _).atomic

theorem atomic_addGroupBy (column : Column Query) : Atomic (addGroupBy column) :=
  atomic_ofExcept_bind _ fun _ => atomic_modify _

theorem atomic_addOrderBy (column : Column Query) (direction : Direction) :
    Atomic (addOrderBy column direction) :=
  atomic_ofExcept_bind _ fun _ => atomic_modify _

theorem atomic_insertTable (t : RowTable) : Atomic (insertTable t) := atomic_choose _

theorem atomic_insertRows (rows : List NamedRow) : Atomic (insertRows rows) :=
  atomic_ofExcept_bind _ fun t => atomic_insertTable t

theorem atomic_insertJson (data : Json) : Atomic (insertJson data) :=
  atomic_ofExcept_bind _ fun t => atomic_insertTable t

theorem atomic_insertColumns (columns : List String) : Atomic (insertColumns columns) :=
  atomic_ofExcept_bind _ fun _ => atomic_insertTable _

theorem atomic_addRow (row : List Value) : Atomic (addRow row) := by
  refine atomic_get_bind fun q => ?_
  split
  · split
    · exact atomic_store _
    · exact (storesNothing_throw _).atomic
  · exact atomic_refuse _

theorem atomic_ignore : Atomic ignore := by
  refine atomic_get_bind fun q => ?_
  split
  · exact atomic_store _
  · exact atomic_refuse _

theorem atomic_onDuplicateKey (column : String) (value : SetValue) :
    Atomic (onDuplicateKey column value) := by
  refine atomic_ofExcept_bind _ fun _ => atomic_get_bind fun q => ?_
  split
  · exact atomic_store _
  · exact atomic_refuse _

theorem atomic_set (column : String) (value : SetValue) : Atomic (set column value) := by
  refine atomic_ofExcept_bind _ fun _ => atomic_get_bind fun q => ?_
  split
  · exact atomic_store _
  · exact atomic_refuse _

/-- A failing call leaves the query as it was, unless it assigns several values. -/
theorem atomic_call {c : Call Query} (hc : ∀ pairs, c ≠ .setMany pairs) : Atomic (call c) := by
  cases c with
  | select columns distinct => exact atomic_select columns distinct
  | addSelect column => exact atomic_addSelect column
  | distinct => exact atomic_distinct
  | delete => exact atomic_delete
  | ignore => exact atomic_ignore
  | condition link column operand comparand =>
    exact atomic_addCondition link column operand comparand
  | join kind table left operand right => exact atomic_join kind table left operand right
  | groupBy column => exact atomic_addGroupBy column
  | orderBy column direction => exact atomic_addOrderBy column direction
  | insertRows rows => exact atomic_insertRows rows
  | insertJson data => exact atomic_insertJson data
  | insertColumns columns => exact atomic_insertColumns columns
  | row values => exact atomic_addRow values
  | onDuplicateKey column value => exact atomic_onDuplicateKey column value
  | update table => exact atomic_update table
  | set column value => exact atomic_set column value
  | table _ | tableAlias _ | name _ | limit _ | offset _ | window _ _ | paginate _ _ =>
    exact atomic_modify _
  | setMany pairs => exact absurd rfl (hc pairs)

/-- The first of two pairs stays where the second is refused. -/
example : ¬ Atomic (setMany [("a", .null), ("", .null)]) := by
  intro h
  have hquery := h { statement := some (.update []) } _ _ rfl
  have hstatement := congrArg Query.statement hquery
  simp at hstatement

/-! ## Results -/

/-- The query after a recording, or the error of the step that fails. -/
def result (r : Recording Unit) (q : Query) : Except QueryError Query :=
  match r.run q with
  | .ok _ q' => .ok q'
  | .error e _ => .error e

theorem result_bind (r r' : Recording Unit) (q : Query) :
    Recording.result (r >>= fun _ => r') q = r.result q >>= r'.result := by
  rw [result, result, EStateM.run_bind]
  cases r.run q <;> rfl

theorem result_ofExcept_bind (x : Except QueryError α) (f : α → Recording Unit) (q : Query) :
    Recording.result (ofExcept x >>= f) q = x >>= fun a => (f a).result q := by
  cases x <;> rfl

theorem result_get_bind (f : Query → Recording Unit) (q : Query) :
    Recording.result (get >>= f) q = (f q).result q := rfl

end Recording

namespace Attempt

/-- A call that records nothing unless it succeeds. -/
def ofResult (q : Query) : Except QueryError Query → Attempt
  | .ok q' => ⟨q', .ok ()⟩
  | .error e => ⟨q, .error e⟩

@[simp] theorem ofResult_ok (q q' : Query) : ofResult q (.ok q') = ⟨q', .ok ()⟩ := rfl

@[simp] theorem ofResult_error (q : Query) (e : QueryError) :
    ofResult q (.error e) = ⟨q, .error e⟩ := rfl

end Attempt

namespace Recording.Atomic

variable {r : Recording Unit}

theorem attempt_eq (h : r.Atomic) (q : Query) : r.attempt q = .ofResult q (r.result q) := by
  rw [attempt, result]
  cases hrun : r.run q with
  | ok a q' => rfl
  | error e q' =>
    obtain rfl := h q e q' hrun
    rfl

/-- After a failure the query is what it was. -/
theorem query_attempt_of_error (h : r.Atomic) {q : Query} {e : QueryError}
    (he : (r.attempt q).outcome = .error e) : (r.attempt q).query = q := by
  rw [attempt] at he ⊢
  cases hrun : r.run q with
  | ok a q' =>
    rw [hrun] at he
    cases he
  | error e' q' => exact h q e' q' hrun

/-- What holds of a query and of its success holds after an attempt. -/
theorem query_attempt {motive : Query → Prop} {q : Query} (h : r.Atomic) (hq : motive q)
    (hr : ∀ q', r.result q = .ok q' → motive q') : motive (r.attempt q).query := by
  rw [h.attempt_eq]
  cases hresult : r.result q with
  | error e => exact hq
  | ok q' => exact hr q' hresult

end Recording.Atomic

namespace Query

open Recording (result_bind result_ofExcept_bind)

/-- What a call comes to is its result, or else the query as it was. -/
theorem perform_eq_ofResult (q : Query) {c : Call Query} (hc : ∀ pairs, c ≠ .setMany pairs) :
    q.perform c = .ofResult q ((Recording.call c).result q) :=
  (Recording.atomic_call hc).attempt_eq q

variable (q : Query)

/-! ### Results by name -/

def choose (s : Statement Query) : Except QueryError Query := (Recording.choose s).result q

def select (columns : List (Column Query)) (distinct : Bool) : Except QueryError Query :=
  (Recording.select columns distinct).result q

def addSelect (column : Column Query) : Except QueryError Query :=
  (Recording.addSelect column).result q

def distinct : Except QueryError Query := Recording.distinct.result q

def update (table : String) : Except QueryError Query := (Recording.update table).result q

def addCondition (link : Connective) (column operand : String) (comparand : Comparand Query) :
    Except QueryError Query :=
  (Recording.addCondition link column operand comparand).result q

def join (kind : JoinKind) (table left operand right : String) : Except QueryError Query :=
  (Recording.join kind table left operand right).result q

def addGroupBy (column : Column Query) : Except QueryError Query :=
  (Recording.addGroupBy column).result q

def addOrderBy (column : Column Query) (direction : Direction) : Except QueryError Query :=
  (Recording.addOrderBy column direction).result q

def insertTable (t : RowTable) : Except QueryError Query := (Recording.insertTable t).result q

def insertRows (rows : List NamedRow) : Except QueryError Query :=
  (Recording.insertRows rows).result q

def insertJson (data : Json) : Except QueryError Query := (Recording.insertJson data).result q

def insertColumns (columns : List String) : Except QueryError Query :=
  (Recording.insertColumns columns).result q

def addRow (row : List Value) : Except QueryError Query := (Recording.addRow row).result q

def ignore : Except QueryError Query := Recording.ignore.result q

def onDuplicateKey (column : String) (value : SetValue) : Except QueryError Query :=
  (Recording.onDuplicateKey column value).result q

def set (column : String) (value : SetValue) : Except QueryError Query :=
  (Recording.set column value).result q

/-- Assigning several values keeps the first of them if a later one is refused, so the error alone
does not tell what it comes to. -/
def setMany (pairs : List (String × Value)) : Attempt := (Recording.setMany pairs).attempt q

/-! ### Results without states -/

theorem choose_eq (s : Statement Query) : q.choose s =
    match q.statement with
    | some current => .error (.statementAlreadySet current.name s.name)
    | none => .ok { q with statement := some s } := by
  rw [choose, Recording.choose, Recording.result_get_bind]
  cases q.statement <;> rfl

theorem select_eq (columns : List (Column Query)) (distinct : Bool) :
    q.select columns distinct = (do
      checkColumns columns
      q.choose (.select columns distinct)) :=
  result_ofExcept_bind ..

theorem addSelect_eq (column : Column Query) : q.addSelect column = (do
    checkColumn column
    match q.statement with
    | some (.select columns distinct) =>
      return { q with statement := some (.select (columns ++ [column]) distinct) }
    | _ => throw (q.unsupported "SELECT column")) := by
  rw [addSelect, Recording.addSelect, result_ofExcept_bind]
  refine congrArg _ (funext fun _ => ?_)
  rw [Recording.result_get_bind]
  rcases q.statement with _ | _ | _ | _ | _ <;> rfl

theorem distinct_eq : q.distinct =
    match q.statement with
    | some (.select columns _) => .ok { q with statement := some (.select columns true) }
    | _ => .error (q.unsupported "DISTINCT") := by
  rw [distinct, Recording.distinct, Recording.result_get_bind]
  rcases q.statement with _ | _ | _ | _ | _ <;> rfl

theorem update_eq (table : String) :
    q.update table = (do return (← q.choose (.update [])).withTable table) :=
  result_bind ..

theorem addCondition_eq (link : Connective) (column operand : String)
    (comparand : Comparand Query) : q.addCondition link column operand comparand = (do
      let condition ← Condition.make column operand comparand
      return { q with conditions := q.conditions.push link condition }) :=
  result_ofExcept_bind ..

theorem join_eq (kind : JoinKind) (table left operand right : String) :
    q.join kind table left operand right = (do
      ColumnName.validateExpression table
      ColumnName.validateExpression left
      ColumnName.validateExpression right
      let parsed ← Operand.parse operand
      if parsed.isSymbol then
        return { q with joins := q.joins ++ [⟨kind, table, left, parsed, right⟩] }
      else throw (.invalidOperand operand)) := by
  rw [join, Recording.join]
  simp only [result_ofExcept_bind]
  refine congrArg _ (funext fun _ => congrArg _ (funext fun _ => congrArg _ (funext fun _ =>
    congrArg _ (funext fun parsed => ?_))))
  split <;> rfl

theorem addGroupBy_eq (column : Column Query) : q.addGroupBy column = (do
    checkColumn column
    return { q with groupBy := q.groupBy ++ [column] }) :=
  result_ofExcept_bind ..

theorem addOrderBy_eq (column : Column Query) (direction : Direction) :
    q.addOrderBy column direction = (do
      checkColumn column
      return { q with orderBy := q.orderBy ++ [⟨column, direction⟩] }) :=
  result_ofExcept_bind ..

theorem insertRows_eq (rows : List NamedRow) :
    q.insertRows rows = (do q.insertTable (← RowTable.ofRows rows)) :=
  result_ofExcept_bind ..

theorem insertJson_eq (data : Json) :
    q.insertJson data = (do q.insertTable (← RowTable.ofJson data)) :=
  result_ofExcept_bind ..

theorem insertColumns_eq (columns : List String) : q.insertColumns columns = (do
    checkNames columns
    q.insertTable ⟨columns, []⟩) :=
  result_ofExcept_bind ..

theorem addRow_eq (row : List Value) : q.addRow row =
    match q.statement with
    | some (.insert columns rows ignore onDuplicateKey) =>
      if row.length = columns.length then
        .ok { q with statement := some (.insert columns (rows ++ [row]) ignore onDuplicateKey) }
      else .error (.rowArityMismatch row.length columns.length)
    | _ => .error (q.unsupported "VALUES") := by
  rw [addRow, Recording.addRow, Recording.result_get_bind]
  rcases q.statement with _ | _ | ⟨columns, rows, ignore, onDuplicateKey⟩ | _ | _
  case some.insert => dsimp only; split <;> rfl
  all_goals rfl

theorem ignore_eq : q.ignore =
    match q.statement with
    | some (.insert columns rows _ onDuplicateKey) =>
      .ok { q with statement := some (.insert columns rows true onDuplicateKey) }
    | _ => .error (q.unsupported "IGNORE") := by
  rw [ignore, Recording.ignore, Recording.result_get_bind]
  rcases q.statement with _ | _ | _ | _ | _ <;> rfl

theorem onDuplicateKey_eq (column : String) (value : SetValue) :
    q.onDuplicateKey column value = (do
      ColumnName.validate column
      match q.statement with
      | some (.insert columns rows ignore assignments) =>
        return { q with
          statement := some (.insert columns rows ignore (assignments ++ [⟨column, value⟩])) }
      | _ => throw (q.unsupported "ON DUPLICATE KEY UPDATE")) := by
  rw [onDuplicateKey, Recording.onDuplicateKey, result_ofExcept_bind]
  refine congrArg _ (funext fun _ => ?_)
  rw [Recording.result_get_bind]
  rcases q.statement with _ | _ | _ | _ | _ <;> rfl

theorem set_eq (column : String) (value : SetValue) : q.set column value = (do
    ColumnName.validate column
    match q.statement with
    | some (.update assignments) =>
      return { q with statement := some (.update (assignments ++ [⟨column, value⟩])) }
    | _ => throw (q.unsupported "SET")) := by
  rw [set, Recording.set, result_ofExcept_bind]
  refine congrArg _ (funext fun _ => ?_)
  rw [Recording.result_get_bind]
  rcases q.statement with _ | _ | _ | _ | _ <;> rfl

theorem setMany_nil : q.setMany [] = ⟨q, .ok ()⟩ := rfl

theorem setMany_cons (pair : String × Value) (pairs : List (String × Value)) :
    q.setMany (pair :: pairs) =
      match q.set pair.1 (.value pair.2) with
      | .ok q' => q'.setMany pairs
      | .error e => ⟨q, .error e⟩ := by
  have hset := Recording.atomic_set pair.1 (.value pair.2)
  rw [setMany, Recording.setMany, Recording.attempt, EStateM.run_bind, set, Recording.result]
  cases hrun : (Recording.set pair.1 (.value pair.2)).run q with
  | ok _ q' => rfl
  | error e q' =>
    obtain rfl := hset q e q' hrun
    rfl

end Query

end BoundSql
