import BoundSql.Execution.Session
import Mathlib.Data.List.Basic

/-!
# Which reply answers which call

A bridge gives its replies in order, one to each statement that it receives. So the reply to a call
is found by counting the statements that the calls before it send, and neither what became of these
nor a monitor moves it. What a call returns depends on its own reply only, and on the time limit
(`Session.answers_run`).

## Main definitions

* `Reply.isLate`, `Session.resultOf` — which replies a time limit cuts off, and what a reply comes
  to in a session.
* `SessionCall.request?`, `SessionCall.answer` — the statement that a call sends, and what the call
  makes of the result.
* `Bridge.replyTo` — the reply to the statement of one of several calls.
* `Session.timed` — calls with the times that a clock measures for them.
* `Operation.Returns` — which outcome makes which answer.
-/

namespace BoundSql

/-! ## Replies -/

/-- Whether a reply comes later than a limit, or never. -/
def Reply.isLate (reply : Reply) (limit : Duration) : Bool :=
  reply.delay.all fun delay => limit < delay

/-- Under a time limit one waits for the answer, or is told that it is late. -/
theorem Monitor.settle_some (limit : Duration) (reply : Reply) :
    settle (some limit) reply =
      if reply.isLate limit then some (.error (.timeout limit)) else reply.result := by
  rw [settle, Reply.within, Reply.isLate, Reply.result]
  cases reply.delay with
  | none => rfl
  | some delay =>
    by_cases hlate : limit < delay <;> simp [hlate]

/-! ## Single calls -/

namespace SessionCall

/-- The statement that a call sends, if it sends one. -/
def request? : SessionCall Query → Option Request
  | .operation op q => q.build.toOption.map fun b => ⟨b, op.fetchSingle⟩
  | .raw request => some request
  | .build _ | .resetStats => none

/-- What a call returns, given the result of the statement that it sends. Where it sends none, the
result does not matter. -/
def answer (result : Option (Except QueryError Outcome)) :
    SessionCall Query → Option (Except QueryError Answer)
  | .operation op q =>
    match q.build with
    | .ok _ => result.map fun r => r.bind op.interpret
    | .error e => some (.error e)
  | .raw _ => result.map fun r => r.map Answer.outcome
  | .build q => some (q.build.map Answer.built)
  | .resetStats => some (.ok .done)

/-- What a call logs of the query that it builds. -/
def buildEvents : SessionCall Query → List Event
  | .operation _ q | .build q => Session.builtEvents q.buildLog
  | .raw _ | .resetStats => []

/-- Whether a call sets the counters of the monitor back. -/
def isReset : SessionCall Query → Bool
  | .resetStats => true
  | .operation _ _ | .raw _ | .build _ => false

/-- The statements that calls send. -/
def requests (calls : List (SessionCall Query)) : List Request := calls.filterMap request?

/-- A statement is sent by an operation whose query builds, or as it is given. -/
theorem cases_of_request {c : SessionCall Query} {request : Request}
    (h : c.request? = some request) :
    (∃ op q b, c = .operation op q ∧ q.build = .ok b ∧ request = ⟨b, op.fetchSingle⟩) ∨
      c = .raw request := by
  cases c with
  | operation op q =>
    rw [request?] at h
    cases hb : q.build with
    | ok b =>
      rw [hb] at h
      exact .inl ⟨op, q, b, rfl, hb, (Option.some.inj h).symm⟩
    | error e =>
      rw [hb] at h
      cases h
  | raw sent => exact .inr (congrArg raw (Option.some.inj h))
  | build q => cases h
  | resetStats => cases h

/-- No statement is sent by an operation whose query does not build, nor by a call of another
kind. -/
theorem cases_of_silent {c : SessionCall Query} (h : c.request? = none) :
    (∃ op q e, c = .operation op q ∧ q.build = .error e) ∨ (∃ q, c = .build q) ∨
      c = .resetStats := by
  cases c with
  | operation op q =>
    rw [request?] at h
    cases hb : q.build with
    | ok b =>
      rw [hb] at h
      cases h
    | error e => exact .inl ⟨op, q, e, rfl, hb⟩
  | raw request => cases h
  | build q => exact .inr (.inl ⟨q, rfl⟩)
  | resetStats => exact .inr (.inr rfl)

theorem answer_of_silent {c : SessionCall Query} (h : c.request? = none)
    (result result' : Option (Except QueryError Outcome)) : c.answer result = c.answer result' := by
  obtain ⟨op, q, e, rfl, he⟩ | ⟨q, rfl⟩ | rfl := cases_of_silent h
  · rw [answer, answer, he]
  · rfl
  · rfl

end SessionCall

namespace Session

/-- The session with the counters of its monitor set back. -/
def reset (s : Session) : Session :=
  { s with monitor := s.monitor.map fun m => { m with stats := {} } }

/-- The settings of the monitor, if there is one. -/
def config? (s : Session) : Option MonitorConfig := s.monitor.map (·.config)

theorem timeLimit_eq (s : Session) : s.timeLimit = s.config?.bind (·.queryTimeout) := by
  rw [timeLimit, config?, Option.bind_map]
  rfl

/-- A call that sends a statement makes what it can of the result. -/
theorem perform_of_request {c : SessionCall Query} {request : Request}
    (h : c.request? = some request) (s : Session) (elapsed : Duration) :
    s.perform elapsed c =
      ((s.submit request elapsed).session,
        { answer := c.answer (s.submit request elapsed).result
          seen := (s.submit request elapsed).seen
          events := c.buildEvents ++ (s.submit request elapsed).events }) := by
  obtain ⟨op, q, b, rfl, hb, rfl⟩ | rfl := SessionCall.cases_of_request h
  · rw [perform, SessionCall.answer, hb]
    rfl
  · rfl

/-- A call that sends nothing leaves the session, but for the counters that it may set back. -/
theorem perform_of_silent {c : SessionCall Query} (h : c.request? = none) (s : Session)
    (elapsed : Duration) :
    s.perform elapsed c =
      (if c.isReset then s.reset else s,
        { answer := c.answer none
          events := c.buildEvents }) := by
  obtain ⟨op, q, e, rfl, he⟩ | ⟨q, rfl⟩ | rfl := SessionCall.cases_of_silent h
  · simp [perform, SessionCall.answer, SessionCall.buildEvents, SessionCall.isReset, he,
      Query.buildLog_of_error he, builtEvents]
  · cases hb : q.build with
    | ok b =>
      simp [perform, SessionCall.answer, SessionCall.buildEvents, SessionCall.isReset, hb,
        Except.map]
    | error e =>
      simp [perform, SessionCall.answer, SessionCall.buildEvents, SessionCall.isReset, hb,
        Query.buildLog_of_error hb, builtEvents, Except.map]
  · rfl

/-- The result that a reply comes to: one waits for it, and a monitor may stop that. -/
def resultOf (s : Session) (reply : Reply) : Option (Except QueryError Outcome) :=
  match s.monitor with
  | none => reply.result
  | some m => Monitor.settle m.config.queryTimeout reply

theorem resultOf_eq_settle (s : Session) (reply : Reply) :
    s.resultOf reply = Monitor.settle s.timeLimit reply := by
  rw [resultOf, timeLimit]
  cases s.monitor <;> rfl

theorem resultOf_of_late {s : Session} {t : Duration} (ht : s.timeLimit = some t) {reply : Reply}
    (h : reply.isLate t) : s.resultOf reply = some (.error (.timeout t)) := by
  rw [resultOf_eq_settle, ht, Monitor.settle_some, if_pos h]

theorem resultOf_of_inTime {s : Session} {reply : Reply}
    (h : ∀ t, s.timeLimit = some t → reply.isLate t = false) :
    s.resultOf reply = reply.result := by
  rw [resultOf_eq_settle]
  cases ht : s.timeLimit with
  | none => rfl
  | some t => rw [Monitor.settle_some, h t ht, if_neg Bool.false_ne_true]

section Submit

variable (s : Session) (request : Request) (elapsed : Duration)

theorem result_submit : (s.submit request elapsed).result = s.resultOf s.bridge.reply := by
  rw [submit, resultOf]
  cases s.monitor <;> rfl

/-- The bridge receives the statement as it is, from a monitor too. -/
theorem seen_submit : (s.submit request elapsed).seen = [request] := by
  rw [submit]
  cases s.monitor <;> rfl

theorem bridge_submit : (s.submit request elapsed).session.bridge = s.bridge.advance := by
  rw [submit]
  cases s.monitor <;> rfl

theorem config?_submit : (s.submit request elapsed).session.config? = s.config? := by
  rw [submit, config?, config?]
  cases s.monitor with
  | none => rfl
  | some m =>
    simp only [Monitor.submit, Option.map_some]
    cases Monitor.settle m.config.queryTimeout (s.bridge.execute request).reply <;> rfl

end Submit

theorem config?_reset (s : Session) : s.reset.config? = s.config? := by
  rw [reset, config?, config?]
  cases s.monitor <;> rfl

/-- A call never changes the settings. -/
theorem config?_perform (s : Session) (elapsed : Duration) (c : SessionCall Query) :
    (s.perform elapsed c).1.config? = s.config? := by
  cases h : c.request? with
  | some request =>
    rw [perform_of_request h]
    exact config?_submit s request elapsed
  | none =>
    rw [perform_of_silent h]
    dsimp only
    split
    · exact config?_reset s
    · rfl

theorem timeLimit_perform (s : Session) (elapsed : Duration) (c : SessionCall Query) :
    (s.perform elapsed c).1.timeLimit = s.timeLimit := by
  rw [timeLimit_eq, timeLimit_eq, config?_perform]

theorem resultOf_perform (s : Session) (elapsed : Duration) (c : SessionCall Query)
    (reply : Reply) : (s.perform elapsed c).1.resultOf reply = s.resultOf reply := by
  rw [resultOf_eq_settle, resultOf_eq_settle, timeLimit_perform]

theorem seen_perform (s : Session) (elapsed : Duration) (c : SessionCall Query) :
    (s.perform elapsed c).2.seen = c.request?.toList := by
  cases h : c.request? with
  | some request => rw [perform_of_request h, seen_submit, Option.toList_some]
  | none => rw [perform_of_silent h, Option.toList_none]

theorem answer_perform (s : Session) (elapsed : Duration) (c : SessionCall Query) :
    (s.perform elapsed c).2.answer = c.answer (s.resultOf s.bridge.reply) := by
  cases h : c.request? with
  | some request => rw [perform_of_request h, result_submit]
  | none => rw [perform_of_silent h, SessionCall.answer_of_silent h]

theorem bridge_perform_of_request {c : SessionCall Query} {request : Request}
    (h : c.request? = some request) (s : Session) (elapsed : Duration) :
    (s.perform elapsed c).1.bridge = s.bridge.advance := by
  rw [perform_of_request h]
  exact bridge_submit s request elapsed

theorem bridge_perform_of_silent {c : SessionCall Query} (h : c.request? = none) (s : Session)
    (elapsed : Duration) : (s.perform elapsed c).1.bridge = s.bridge := by
  rw [perform_of_silent h]
  dsimp only
  split <;> rfl

end Session

/-! ## Several calls -/

namespace Bridge

/-- The bridge after some more statements. -/
def after (b : Bridge) (statements : Nat) : Bridge := ⟨b.replies.drop statements⟩

/-- The reply to a statement that comes after some others. -/
def replyAt (b : Bridge) (statements : Nat) : Reply := b.replies[statements]?.getD .exhausted

/-- The reply to the statement of the call at a position: as many came before it as the calls before
send. -/
def replyTo (b : Bridge) (calls : List (SessionCall Query)) (i : Nat) : Reply :=
  b.replyAt (SessionCall.requests (calls.take i)).length

theorem after_succ (b : Bridge) (n : Nat) : b.after (n + 1) = b.advance.after n := by
  rw [after, after, advance, List.drop_tail]

theorem reply_eq_replyAt (b : Bridge) : b.reply = b.replyAt 0 := by
  rw [reply, replyAt, List.head?_eq_getElem?]

theorem replyAt_succ (b : Bridge) (n : Nat) : b.replyAt (n + 1) = b.advance.replyAt n := by
  rw [replyAt, replyAt, advance, List.getElem?_tail]

theorem replyTo_zero (b : Bridge) (calls : List (SessionCall Query)) :
    b.replyTo calls 0 = b.reply := (reply_eq_replyAt b).symm

theorem replyTo_succ_of_request {c : SessionCall Query} {request : Request}
    (h : c.request? = some request) (b : Bridge) (calls : List (SessionCall Query)) (i : Nat) :
    b.replyTo (c :: calls) (i + 1) = b.advance.replyTo calls i := by
  simp [replyTo, SessionCall.requests, h, replyAt_succ]

theorem replyTo_succ_of_silent {c : SessionCall Query} (h : c.request? = none) (b : Bridge)
    (calls : List (SessionCall Query)) (i : Nat) :
    b.replyTo (c :: calls) (i + 1) = b.replyTo calls i := by
  simp [replyTo, SessionCall.requests, h]

end Bridge

namespace Session

/-- Calls with the times that a clock measures for them. -/
def timed (clock : Nat → Duration) (calls : List (SessionCall Query)) :
    List (SessionCall Query × Duration) :=
  calls.mapIdx fun i c => (c, clock i)

@[simp] theorem map_fst_timed (clock : Nat → Duration) (calls : List (SessionCall Query)) :
    (timed clock calls).map (·.1) = calls := by
  apply List.ext_getElem?
  intro i
  simp [timed, Function.comp_def]

section Run

variable (s : Session) (calls : List (SessionCall Query × Duration))

theorem run_append (others : List (SessionCall Query × Duration)) :
    s.run (calls ++ others) =
      (((s.run calls).1.run others).1, (s.run calls).2 ++ ((s.run calls).1.run others).2) := by
  induction calls generalizing s with
  | nil => rfl
  | cons call calls ih => simp [run, ih]

theorem config?_run : (s.run calls).1.config? = s.config? := by
  induction calls generalizing s with
  | nil => rfl
  | cons call calls ih => exact (ih _).trans (config?_perform s call.2 call.1)

/-- The bridge gives one reply for each statement that it receives. -/
theorem bridge_run : (s.run calls).1.bridge =
    s.bridge.after (SessionCall.requests (calls.map (·.1))).length := by
  induction calls generalizing s with
  | nil => rfl
  | cons call calls ih =>
    have hstep := ih (s.perform call.2 call.1).1
    cases h : call.1.request? with
    | some request =>
      rw [bridge_perform_of_request h] at hstep
      simpa [run, SessionCall.requests, h, Bridge.after_succ] using hstep
    | none =>
      rw [bridge_perform_of_silent h] at hstep
      simpa [run, SessionCall.requests, h] using hstep

/-- The bridge receives the statements of the calls, and nothing else. -/
theorem seen_run : (s.run calls).2.map (·.seen) =
    (calls.map (·.1)).map fun c => c.request?.toList := by
  induction calls generalizing s with
  | nil => rfl
  | cons call calls ih => simp [run, ih, seen_perform]

theorem flatMap_seen_run :
    (s.run calls).2.flatMap (·.seen) = SessionCall.requests (calls.map (·.1)) := by
  rw [List.flatMap_def, seen_run, ← List.flatMap_def, SessionCall.requests,
    List.filterMap_eq_flatMap_toList]

/-- Each call makes what it returns of the reply to its own statement. -/
theorem answers_run : (s.run calls).2.map (·.answer) = (calls.map (·.1)).mapIdx fun i c =>
    c.answer (s.resultOf (s.bridge.replyTo (calls.map (·.1)) i)) := by
  induction calls generalizing s with
  | nil => rfl
  | cons call calls ih =>
    rw [run, List.map_cons, List.map_cons, List.mapIdx_cons, answer_perform, Bridge.replyTo_zero]
    refine congrArg _ ((ih _).trans ?_)
    simp only [resultOf_perform]
    cases h : call.1.request? with
    | some request =>
      simp only [bridge_perform_of_request h, Bridge.replyTo_succ_of_request h]
    | none => simp only [bridge_perform_of_silent h, Bridge.replyTo_succ_of_silent h]

/-- What the call at a position shows. -/
theorem getElem?_run {i : Nat} {c : SessionCall Query} (h : (calls.map (·.1))[i]? = some c) :
    ∃ o, (s.run calls).2[i]? = some o ∧ o.seen = c.request?.toList ∧
      o.answer = c.answer (s.resultOf (s.bridge.replyTo (calls.map (·.1)) i)) := by
  have hseen := congrArg (·[i]?) (seen_run s calls)
  have hanswer := congrArg (·[i]?) (answers_run s calls)
  simp only [List.getElem?_map (f := Observation.seen), List.getElem?_map (f := Observation.answer),
    List.getElem?_map (l := calls.map (·.1)), List.getElem?_mapIdx, h, Option.map_some,
    Option.map_eq_some_iff] at hseen hanswer
  obtain ⟨o, ho, hseen⟩ := hseen
  obtain ⟨o', ho', hanswer⟩ := hanswer
  obtain rfl : o = o' := Option.some.inj (ho.symm.trans ho')
  exact ⟨o, ho, hseen, hanswer⟩

end Run

end Session

/-! ## Operations -/

/-- The answer with the first of its rows in place of all of them. -/
def Answer.first : Answer → Answer
  | .rows all => .optionalRow all.head?
  | other => other

namespace Operation

/-- What an operation returns for an outcome: from rows all of them, or the first; a count or an id
as it is; and from an outcome of another shape than it asks for an error that names both. -/
inductive Returns : Operation → Outcome → Except QueryError Answer → Prop
  | allRows (rows : List Row) : Returns fetchAll (.rows rows) (.ok (.rows rows))
  | firstRow (row : Row) (rows : List Row) :
    Returns fetchOne (.rows (row :: rows)) (.ok (.row row))
  | noRow : Returns fetchOne (.rows []) (.error (.notFound "query returned no rows"))
  | firstRowIfAny (rows : List Row) :
    Returns fetchOptional (.rows rows) (.ok (.optionalRow rows.head?))
  | count (n : UInt64) : Returns execute (.affected n) (.ok (.affected n))
  | id (id : UInt64) : Returns insertId (.lastInsertId id) (.ok (.lastInsertId id))
  | otherShape {op : Operation} {outcome : Outcome} (h : outcome.kindName ≠ op.expects) :
    Returns op outcome (.error (.unexpectedOutcome op.expects outcome.kindName))

/-- Every outcome makes exactly one answer. -/
theorem returns_iff {op : Operation} {outcome : Outcome} {r : Except QueryError Answer} :
    op.Returns outcome r ↔ r = op.interpret outcome := by
  constructor
  · intro h
    cases h with
    | otherShape h =>
      cases op <;> cases outcome <;> first | rfl | exact absurd rfl h
    | allRows | firstRow | noRow | firstRowIfAny | count | id => rfl
  · rintro rfl
    match op, outcome with
    | fetchAll, .rows rows => exact .allRows rows
    | fetchOne, .rows (row :: rows) => exact .firstRow row rows
    | fetchOne, .rows [] => exact .noRow
    | fetchOptional, .rows rows => exact .firstRowIfAny rows
    | execute, .affected n => exact .count n
    | insertId, .lastInsertId id => exact .id id
    | fetchAll, .affected _ | fetchOne, .affected _ | fetchOptional, .affected _
    | insertId, .affected _ | fetchAll, .lastInsertId _ | fetchOne, .lastInsertId _
    | fetchOptional, .lastInsertId _ | execute, .lastInsertId _ | execute, .rows _
    | insertId, .rows _ => exact .otherShape (by simp [Outcome.kindName, expects])

theorem fetchSingle_iff {op : Operation} :
    op.fetchSingle = true ↔ op = fetchOne ∨ op = fetchOptional := by
  cases op <;> decide

/-- For one outcome, what may be a row is the first of all rows. -/
theorem interpret_fetchOptional (outcome : Outcome) :
    fetchOptional.interpret outcome = (fetchAll.interpret outcome).map Answer.first := by
  cases outcome <;> rfl

/-- For one outcome, there is no row exactly if all rows are none. -/
theorem interpret_fetchOne_eq_notFound_iff (outcome : Outcome) :
    (∃ reason, fetchOne.interpret outcome = .error (.notFound reason)) ↔
      fetchAll.interpret outcome = .ok (.rows []) := by
  match outcome with
  | .rows [] => simp [interpret]
  | .rows (row :: rows) => simp [interpret]
  | .affected n => simp [interpret]
  | .lastInsertId id => simp [interpret]

end Operation

namespace SessionCall

/-- Operations on queries as calls. -/
def ofOperations (operations : List (Operation × Query)) : List (SessionCall Query) :=
  operations.map fun (op, q) => .operation op q

theorem requests_ofOperations (operations : List (Operation × Query)) :
    requests (ofOperations operations) = operations.filterMap fun (op, q) =>
      q.build.toOption.map fun b => ⟨b, op.fetchSingle⟩ :=
  List.filterMap_map

theorem length_requests_ofOperations (operations : List (Operation × Query)) :
    (requests (ofOperations operations)).length =
      operations.countP fun operation => operation.2.build.isOk := by
  rw [requests_ofOperations, List.length_filterMap_eq_countP]
  refine List.countP_congr fun (op, q) _ => ?_
  dsimp only
  cases q.build <;> simp [Except.toOption, Except.isOk, Except.toBool]

end SessionCall

namespace Session

open SessionCall (ofOperations)

end Session

end BoundSql
