import BoundSql.Proofs.Exchange
import Mathlib.Data.List.DropRight
import Mathlib.Data.List.ReduceOption

/-!
# What a monitor does

A monitor changes no answer but those to calls whose reply is too late, and nothing that the bridge
sees (`Session.monitor_changes_only_late_answers`). It counts the statements that come back and logs
each of them, and its counters and its log agree (`Session.counters_agree_with_log`). A statement
whose answer never comes, where no time limit is set, is still on its way: it is neither counted nor
logged.

## Main definitions

* `SessionCall.missedLimit` — the time limit that a call misses.
* `Completion`, `Session.completions` — the statements that come back, in the order of their calls.
* `Session.untilReset`, `Session.sinceReset` — the calls up to the last one that sets the counters
  back, and those after it.
-/

namespace BoundSql

/-! ## Answers -/

namespace SessionCall

/-- The time limit that a call misses: it sends a statement, and the reply to that is too late. -/
def missedLimit (c : SessionCall Query) (limit : Option Duration) (reply : Reply) :
    Option Duration :=
  limit.filter fun t => c.request?.isSome && reply.isLate t

/-- An error that comes back is what the call returns. -/
theorem answer_error {c : SessionCall Query} {request : Request} (h : c.request? = some request)
    (e : QueryError) : c.answer (some (.error e)) = some (.error e) := by
  obtain ⟨op, q, b, rfl, hb, -⟩ | rfl := cases_of_request h
  · rw [answer, hb]
    rfl
  · rfl

/-- Under a time limit a call returns what it returns without, unless it misses the limit. -/
theorem answer_settle (c : SessionCall Query) (limit : Option Duration) (reply : Reply) :
    c.answer (Monitor.settle limit reply) =
      match c.missedLimit limit reply with
      | some t => some (.error (.timeout t))
      | none => c.answer reply.result := by
  cases limit with
  | none => rfl
  | some t =>
    cases h : c.request? with
    | none =>
      simp only [missedLimit, h, Option.filter_some, Option.isSome_none, Bool.false_and]
      exact answer_of_silent h _ _
    | some request =>
      cases hlate : reply.isLate t with
      | false => simp [missedLimit, Option.filter_some, h, hlate, Monitor.settle_some]
      | true =>
        simp [missedLimit, Option.filter_some, h, hlate, Monitor.settle_some, answer_error h]

end SessionCall

namespace Session

/-- Whether calls run with a monitor or without, and whatever the clock measures: the bridge
receives the same statements and uses up the same replies, and each call returns the same, which is
what it makes of its reply. Only a call that misses the time limit of the monitor returns that it
timed out. Apart from the time limit no setting matters. -/
theorem monitor_changes_only_late_answers (b : Bridge) (m : Monitor)
    (calls : List (SessionCall Query)) (clock clock' : Nat → Duration) :
    let direct := run { bridge := b } (timed clock calls)
    let watched := run { bridge := b, monitor := some m } (timed clock' calls)
    watched.2.map (·.seen) = direct.2.map (·.seen) ∧
      watched.1.bridge = direct.1.bridge ∧
      (∀ (i : Nat) (c : SessionCall Query), calls[i]? = some c →
        ∃ o o' : Observation, direct.2[i]? = some o ∧ watched.2[i]? = some o' ∧
          o.answer = c.answer (b.replyTo calls i).result ∧
          o'.answer =
            match c.missedLimit m.config.queryTimeout (b.replyTo calls i) with
            | some t => some (.error (.timeout t))
            | none => o.answer) ∧
      ∀ (m' : Monitor) (clock'' : Nat → Duration),
        m'.config.queryTimeout = m.config.queryTimeout →
          let other := run { bridge := b, monitor := some m' } (timed clock'' calls)
          other.2.map (·.seen) = watched.2.map (·.seen) ∧
            other.1.bridge = watched.1.bridge ∧
            other.2.map (·.answer) = watched.2.map (·.answer) := by
  intro direct watched
  refine ⟨?_, ?_, fun i c hc => ?_, fun m' clock'' hlimit => ⟨?_, ?_, ?_⟩⟩
  · simp only [watched, direct, seen_run, map_fst_timed]
  · simp only [watched, direct, bridge_run, map_fst_timed]
  · have hdirect : ((timed clock calls).map (·.1))[i]? = some c := by rwa [map_fst_timed]
    have hwatched : ((timed clock' calls).map (·.1))[i]? = some c := by rwa [map_fst_timed]
    obtain ⟨o, ho, -, hanswer⟩ := getElem?_run { bridge := b } _ hdirect
    obtain ⟨o', ho', -, hanswer'⟩ := getElem?_run { bridge := b, monitor := some m } _ hwatched
    rw [map_fst_timed] at hanswer hanswer'
    refine ⟨o, o', ho, ho', hanswer, ?_⟩
    rw [hanswer', hanswer, resultOf_eq_settle, SessionCall.answer_settle]
    rfl
  · simp only [watched, seen_run, map_fst_timed]
  · simp only [watched, bridge_run, map_fst_timed]
  · simp only [watched, answers_run, map_fst_timed, resultOf, hlimit]

/-- A reply that is too late is used up, and the next call gets the next one, be it a time-out of
the bridge itself; other settings with the same time limit change nothing. -/
theorem monitor_changes_first_of_two_answers :
    let b : Bridge := ⟨[{ answer := .ok (.affected 1), delay := some ⟨9⟩ },
      { answer := .error (.timeout ⟨3⟩), delay := some ⟨8⟩ }]⟩
    let calls : List (SessionCall Query) :=
      [.raw ⟨⟨"BEGIN", []⟩, false⟩, .raw ⟨⟨"COMMIT", []⟩, false⟩]
    let m : Monitor := { config := { queryTimeout := some ⟨8⟩ } }
    let m' : Monitor :=
      { config := { m.config with slowQueryThreshold := some ⟨0⟩, logArgs := true } }
    let direct := run { bridge := b } (timed (fun _ => ⟨0⟩) calls)
    let watched := run { bridge := b, monitor := some m } (timed (fun _ => ⟨1⟩) calls)
    let other := run { bridge := b, monitor := some m' } (timed (fun _ => ⟨2⟩) calls)
    calls[0]? = some (.raw ⟨⟨"BEGIN", []⟩, false⟩) ∧
      calls[1]? = some (.raw ⟨⟨"COMMIT", []⟩, false⟩) ∧
      m'.config.queryTimeout = m.config.queryTimeout ∧
      (∃ o, watched.2[0]? = some o ∧ o.answer = some (.error (.timeout ⟨8⟩))) ∧
      (∃ o o', direct.2[1]? = some o ∧ watched.2[1]? = some o' ∧ o'.answer = o.answer) ∧
      other.2.map (·.answer) = watched.2.map (·.answer) := by
  intro b calls m m' direct watched other
  obtain ⟨-, -, hanswer, hother⟩ :=
    monitor_changes_only_late_answers b m calls (fun _ => ⟨0⟩) (fun _ => ⟨1⟩)
  obtain ⟨_, o, -, hfirst, -, htimeout⟩ := hanswer 0 _ rfl
  obtain ⟨o', o'', hdirect, hsecond, -, hsame⟩ := hanswer 1 _ rfl
  exact ⟨rfl, rfl, rfl, ⟨o, hfirst, htimeout⟩, ⟨o', o'', hdirect, hsecond, hsame⟩,
    (hother m' (fun _ => ⟨2⟩) rfl).2.2⟩

end Session

/-! ## Statements that come back -/

/-- A statement that came back: the time that was measured for it, and its result. -/
structure Completion where
  elapsed : Duration
  result : Except QueryError Outcome

namespace Completion

/-- How the statement of a call comes back under a time limit, if the call sends one and the answer
ever comes. -/
def of? (limit : Option Duration) (reply : Reply) (call : SessionCall Query × Duration) :
    Option Completion :=
  if call.1.request?.isSome then (Monitor.settle limit reply).map (⟨call.2, ·⟩) else none

/-- Whether the result is an error. -/
def failed (c : Completion) : Bool := !c.result.isOk

/-- Whether the result is the error of a time-out. -/
def timedOut (c : Completion) : Bool :=
  match c.result with
  | .error (.timeout _) => true
  | _ => false

/-- What is logged of the statement: that it ran, whether it was slow, and whether it failed. -/
def messages (config : MonitorConfig) (c : Completion) : List String :=
  "sql" :: ((if config.isSlow c.elapsed then ["slow query"] else []) ++
    if c.failed then ["query failed"] else [])

theorem failed_eq (c : Completion) : c.failed = (Monitor.failure? c.result).isSome := by
  rcases c with ⟨elapsed, _ | _⟩ <;> rfl

theorem timedOut_eq (c : Completion) :
    c.timedOut = (Monitor.failure? c.result).any QueryError.isTimeout := by
  rcases c with ⟨elapsed, e | outcome⟩
  · cases e <;> rfl
  · rfl

theorem failed_of_timedOut {c : Completion} (h : c.timedOut = true) : c.failed = true := by
  rw [timedOut_eq] at h
  rw [failed_eq]
  exact Option.isSome_of_any h

theorem messages_sublist (config : MonitorConfig) (c : Completion) :
    (c.messages config).Sublist ["sql", "slow query", "query failed"] := by
  rw [messages]
  cases config.isSlow c.elapsed <;> cases c.failed <;> decide

/-- A message that is logged once for some statements is logged as often as there are such. -/
theorem count_flatMap_messages {config : MonitorConfig} (message : String)
    (counted : Completion → Bool)
    (h : ∀ c, (messages config c).count message = if counted c then 1 else 0)
    (back : List Completion) :
    (back.flatMap (messages config)).count message = back.countP counted := by
  induction back with
  | nil => rfl
  | cons c back ih =>
    rw [List.flatMap_cons, List.count_append, h, ih, List.countP_cons, Nat.add_comm]

theorem counts_messages (config : MonitorConfig) (back : List Completion) :
    let logged := back.flatMap (messages config)
    logged.count "sql" = back.length ∧
      logged.count "slow query" = back.countP (fun c => config.isSlow c.elapsed) ∧
      logged.count "query failed" = back.countP (·.failed) := by
  have hone (c : Completion) :
      (messages config c).count "sql" = 1 ∧
        (messages config c).count "slow query" = (if config.isSlow c.elapsed then 1 else 0) ∧
        (messages config c).count "query failed" = if c.failed then 1 else 0 := by
    rw [messages]
    cases config.isSlow c.elapsed <;> cases c.failed <;> decide
  refine ⟨?_, ?_, ?_⟩
  · rw [← List.countP_true]
    exact count_flatMap_messages "sql" (fun _ => true) (fun c => (hone c).1) back
  · exact count_flatMap_messages "slow query" _ (fun c => (hone c).2.1) back
  · exact count_flatMap_messages "query failed" _ (fun c => (hone c).2.2) back

end Completion

/-- What one call logs of statements that ran. -/
def Observation.sqlMessages (o : Observation) : List String :=
  (o.events.filter fun event => event.target == "sqlqb.sql").map (·.message)

namespace Monitor

/-- The monitor after some more statements. -/
def recordAll (m : Monitor) (back : List Completion) : Monitor :=
  back.foldl (fun m c => m.record c.elapsed c.result) m

theorem recordAll_eq (m : Monitor) (back : List Completion) :
    m.recordAll back = { m with stats := (m.recordAll back).stats } := by
  induction back generalizing m with
  | nil => rfl
  | cons c back ih => exact ih (m.record c.elapsed c.result)

theorem recordAll_append (m : Monitor) (back more : List Completion) :
    m.recordAll (back ++ more) = (m.recordAll back).recordAll more :=
  List.foldl_append

/-- A counter that some statements move by one moves by the number of these. -/
theorem counter_recordAll (m : Monitor) (counter : Stats → UInt64) (counted : Completion → Bool)
    (h : ∀ (stats : Stats) (c : Completion),
      counter (stats.record c.elapsed (m.config.isSlow c.elapsed) (failure? c.result)) =
        counter stats + oneIf (counted c))
    (back : List Completion) :
    counter (m.recordAll back).stats = counter m.stats + UInt64.ofNat (back.countP counted) := by
  induction back generalizing m with
  | nil => simp [recordAll]
  | cons c back ih =>
    have hrest : counter (m.recordAll (c :: back)).stats =
        counter (m.record c.elapsed c.result).stats + UInt64.ofNat (back.countP counted) :=
      ih (m.record c.elapsed c.result) h
    have hstep : counter (m.record c.elapsed c.result).stats =
        counter m.stats + oneIf (counted c) := h m.stats c
    rw [hrest, hstep, List.countP_cons, Nat.add_comm, UInt64.ofNat_add, UInt64.add_assoc]
    cases counted c <;> rfl

/-- The counters of a new monitor after fewer than 2 ^ 64 statements: none has started again. -/
theorem counters_recordAll (config : MonitorConfig) {back : List Completion}
    (h : back.length < UInt64.size) :
    let stats := (recordAll { config } back).stats
    stats.total.toNat = back.length ∧
      stats.failed.toNat = back.countP (·.failed) ∧
      stats.timedOut.toNat = back.countP (·.timedOut) ∧
      stats.slow.toNat = back.countP fun c => config.isSlow c.elapsed := by
  have hcounter (counter : Stats → UInt64) (counted : Completion → Bool) (hzero : counter {} = 0)
      (hstep : ∀ (stats : Stats) (c : Completion),
        counter (stats.record c.elapsed (config.isSlow c.elapsed) (failure? c.result)) =
          counter stats + oneIf (counted c)) :
      (counter (recordAll { config } back).stats).toNat = back.countP counted := by
    rw [counter_recordAll { config } counter counted hstep back, hzero, UInt64.zero_add]
    exact UInt64.toNat_ofNat_of_lt' (List.countP_le_length.trans_lt h)
  refine ⟨?_, ?_, ?_, ?_⟩
  · rw [← List.countP_true]
    exact hcounter Stats.total (fun _ => true) rfl fun _ _ => rfl
  · refine hcounter Stats.failed Completion.failed rfl fun stats c => ?_
    rw [Completion.failed_eq]
    rfl
  · refine hcounter Stats.timedOut Completion.timedOut rfl fun stats c => ?_
    rw [Completion.timedOut_eq]
    rfl
  · exact hcounter Stats.slow (fun c => config.isSlow c.elapsed) rfl fun _ _ => rfl

end Monitor

namespace SessionCall

/-- An answer is missing only where a statement was sent and does not come back. -/
theorem isNone_answer (c : SessionCall Query) (result : Option (Except QueryError Outcome)) :
    (c.answer result).isNone = (c.request?.isSome && result.isNone) := by
  cases c with
  | operation op q =>
    rw [answer, request?]
    cases q.build <;> simp [Except.toOption]
  | raw request => simp [answer, request?]
  | build q => rfl
  | resetStats => rfl

theorem sqlMessages_buildEvents (c : SessionCall Query) :
    c.buildEvents.filter (fun event => event.target == "sqlqb.sql") = [] := by
  have hbuilt (log : List BuildEntry) :
      (Session.builtEvents log).filter (fun event => event.target == "sqlqb.sql") = [] := by
    simp [Session.builtEvents, Event.target]
  cases c with
  | operation op q => exact hbuilt q.buildLog
  | raw request => rfl
  | build q => exact hbuilt q.buildLog
  | resetStats => rfl

end SessionCall

namespace Session

/-- The statements that come back, in the order of their calls. -/
def completions (s : Session) (calls : List (SessionCall Query × Duration)) : List Completion :=
  (calls.mapIdx fun i call =>
    Completion.of? s.timeLimit (s.bridge.replyTo (calls.map (·.1)) i) call).reduceOption

theorem completions_cons (s : Session) (call : SessionCall Query × Duration)
    (calls : List (SessionCall Query × Duration)) :
    s.completions (call :: calls) = (Completion.of? s.timeLimit s.bridge.reply call).toList ++
      (s.perform call.2 call.1).1.completions calls := by
  have hcons (c : Option Completion) (cs : List (Option Completion)) :
      (c :: cs).reduceOption = c.toList ++ cs.reduceOption := by
    cases c <;> rfl
  rw [completions, completions, List.mapIdx_cons, hcons, List.map_cons, Bridge.replyTo_zero,
    timeLimit_perform]
  cases h : call.1.request? with
  | some request => simp only [bridge_perform_of_request h, Bridge.replyTo_succ_of_request h]
  | none => simp only [bridge_perform_of_silent h, Bridge.replyTo_succ_of_silent h]

theorem length_completions_le (s : Session) (calls : List (SessionCall Query × Duration)) :
    (s.completions calls).length ≤ calls.length := by
  rw [completions]
  exact (List.reduceOption_length_le _).trans_eq List.length_mapIdx

/-! ### One call -/

theorem monitor_submit {s : Session} {m : Monitor} (hm : s.monitor = some m) (request : Request)
    (elapsed : Duration) : (s.submit request elapsed).session.monitor =
      some ((Monitor.settle s.timeLimit s.bridge.reply).elim m (m.record elapsed)) := by
  rw [submit, timeLimit, hm]
  rfl

theorem events_submit {s : Session} {m : Monitor} (hm : s.monitor = some m) (request : Request)
    (elapsed : Duration) : (s.submit request elapsed).events =
      (Monitor.settle s.timeLimit s.bridge.reply).elim []
        (Monitor.events m.config request.query elapsed) := by
  rw [submit, timeLimit, hm]
  rfl

section Perform

variable {s : Session} (call : SessionCall Query × Duration)

theorem monitor_perform {m : Monitor} (hm : s.monitor = some m) (hc : call.1.isReset = false) :
    (s.perform call.2 call.1).1.monitor =
      some (m.recordAll (Completion.of? s.timeLimit s.bridge.reply call).toList) := by
  cases h : call.1.request? with
  | some request =>
    rw [perform_of_request h, monitor_submit hm]
    cases hr : Monitor.settle s.timeLimit s.bridge.reply with
    | none => simp [hr, Completion.of?, h, Monitor.recordAll]
    | some r => simp [hr, Completion.of?, h, Monitor.recordAll]
  | none =>
    rw [perform_of_silent h]
    simp [hc, hm, Completion.of?, h, Monitor.recordAll]

theorem sqlMessages_perform {config : MonitorConfig} (hconfig : s.config? = some config) :
    (s.perform call.2 call.1).2.sqlMessages =
      (Completion.of? s.timeLimit s.bridge.reply call).toList.flatMap
        (Completion.messages config) := by
  obtain ⟨m, hm, rfl⟩ := Option.map_eq_some_iff.mp hconfig
  cases h : call.1.request? with
  | some request =>
    rw [perform_of_request h, Observation.sqlMessages, List.filter_append,
      SessionCall.sqlMessages_buildEvents, List.nil_append, events_submit hm]
    cases hr : Monitor.settle s.timeLimit s.bridge.reply with
    | none => simp [hr, Completion.of?, h]
    | some r =>
      cases hslow : m.config.isSlow call.2 <;> cases r <;>
        simp [hr, Completion.of?, h, Monitor.events, Monitor.failure?, hslow, Event.target,
          Event.message, Completion.messages, Completion.failed, Except.isOk, Except.toBool]
  | none =>
    rw [perform_of_silent h, Observation.sqlMessages, SessionCall.sqlMessages_buildEvents]
    simp [Completion.of?, h]

/-- A statement that is sent comes back, or its call has no answer. -/
theorem length_seen_perform :
    (s.perform call.2 call.1).2.seen.length =
      (Completion.of? s.timeLimit s.bridge.reply call).toList.length +
        if (s.perform call.2 call.1).2.answer.isNone then 1 else 0 := by
  rw [seen_perform, answer_perform, SessionCall.isNone_answer, resultOf_eq_settle]
  cases h : call.1.request? with
  | some request =>
    cases hr : Monitor.settle s.timeLimit s.bridge.reply <;> simp [Completion.of?, h, hr]
  | none => simp [Completion.of?, h]

end Perform

/-! ### Several calls -/

theorem monitor_run {s : Session} {m : Monitor} (hm : s.monitor = some m)
    {calls : List (SessionCall Query × Duration)}
    (hcalls : ∀ call ∈ calls, call.1.isReset = false) :
    (s.run calls).1.monitor = some (m.recordAll (s.completions calls)) := by
  induction calls generalizing s m with
  | nil => exact hm
  | cons call calls ih =>
    rw [List.forall_mem_cons] at hcalls
    have hstep := monitor_perform call hm hcalls.1
    rw [completions_cons, Monitor.recordAll_append]
    exact ih hstep hcalls.2

theorem sqlMessages_run {s : Session} {config : MonitorConfig} (hconfig : s.config? = some config)
    (calls : List (SessionCall Query × Duration)) :
    (s.run calls).2.flatMap (·.sqlMessages) =
      (s.completions calls).flatMap (Completion.messages config) := by
  induction calls generalizing s with
  | nil => rfl
  | cons call calls ih =>
    have hrest := ih ((config?_perform s call.2 call.1).trans hconfig)
    rw [run, completions_cons, List.flatMap_cons, List.flatMap_append, hrest,
      sqlMessages_perform call hconfig]

theorem sqlMessages_sublist {s : Session} {config : MonitorConfig}
    (hconfig : s.config? = some config) (calls : List (SessionCall Query × Duration)) :
    ∀ o ∈ (s.run calls).2, o.sqlMessages.Sublist ["sql", "slow query", "query failed"] := by
  induction calls generalizing s with
  | nil => exact List.forall_mem_nil _
  | cons call calls ih =>
    rw [run, List.forall_mem_cons]
    refine ⟨?_, ih ((config?_perform s call.2 call.1).trans hconfig)⟩
    rw [sqlMessages_perform call hconfig]
    cases Completion.of? s.timeLimit s.bridge.reply call with
    | none => exact List.nil_sublist _
    | some c => simpa using c.messages_sublist config

theorem length_seen_run (s : Session) (calls : List (SessionCall Query × Duration)) :
    ((s.run calls).2.flatMap (·.seen)).length =
      (s.completions calls).length + (s.run calls).2.countP (·.answer.isNone) := by
  induction calls generalizing s with
  | nil => rfl
  | cons call calls ih =>
    have hstep := length_seen_perform (s := s) call
    rw [run, completions_cons, List.flatMap_cons, List.length_append, List.length_append, ih,
      List.countP_cons, hstep]
    omega

/-! ### Counters that are set back -/

/-- The calls up to the last one that sets the counters back. -/
def untilReset (calls : List (SessionCall Query × Duration)) :
    List (SessionCall Query × Duration) :=
  calls.rdropWhile fun call => !call.1.isReset

/-- The calls after the last one that sets the counters back. -/
def sinceReset (calls : List (SessionCall Query × Duration)) :
    List (SessionCall Query × Duration) :=
  calls.rtakeWhile fun call => !call.1.isReset

theorem untilReset_append_sinceReset (calls : List (SessionCall Query × Duration)) :
    untilReset calls ++ sinceReset calls = calls :=
  List.rdropWhile_append_rtakeWhile

theorem isReset_of_mem_sinceReset {calls : List (SessionCall Query × Duration)} :
    ∀ call ∈ sinceReset calls, call.1.isReset = false := fun _ h => by
  simpa using List.mem_rtakeWhile_imp h

/-- After the last reset the monitor is as it was at the start. -/
theorem monitor_run_untilReset {s : Session} {config : MonitorConfig}
    (hm : s.monitor = some { config }) (calls : List (SessionCall Query × Duration)) :
    (s.run (untilReset calls)).1.monitor = some { config } := by
  have hconfig : s.config? = some config := by rw [config?, hm, Option.map_some]
  have hlast := List.rdropWhile_last_not (fun call => !call.1.isReset) calls
  rcases List.eq_nil_or_concat (untilReset calls) with hnil | ⟨before, call, huntil⟩
  · rw [hnil]
    exact hm
  · have hreset : call.1.isReset = true := by
      rw [untilReset] at huntil
      simpa [huntil] using hlast (by simp [huntil])
    obtain ⟨m, hm', hmconfig⟩ : ∃ m, (s.run before).1.monitor = some m ∧ m.config = config :=
      Option.map_eq_some_iff.mp ((config?_run s before).trans hconfig)
    obtain ⟨c, elapsed⟩ := call
    cases c with
    | resetStats =>
      rw [huntil, List.concat_eq_append, run_append]
      simp [run, perform, hm', hmconfig]
    | operation op q => cases hreset
    | raw request => cases hreset
    | build q => cases hreset

/-- The counters of a monitor, and what it logs, for the calls since the counters were last set
back. All statements that were sent are counted, as soon as they come back, and of these the ones
with an error, those with the error of a time-out, and those that took longer than the threshold;
what an operation makes of an outcome does not matter. The log has one entry for each of them, one
for each failure and one for each slow statement, and the entries of a call stand in a fixed
order. -/
theorem counters_agree_with_log (bridge : Bridge) (config : MonitorConfig)
    (calls : List (SessionCall Query × Duration)) (h : calls.length < UInt64.size) :
    let s : Session := { bridge, monitor := some { config } }
    let before := s.run (untilReset calls)
    let recent := before.1.run (sinceReset calls)
    let sent := recent.2.flatMap (·.seen)
    let back := before.1.completions (sinceReset calls)
    let logged := recent.2.flatMap (·.sqlMessages)
    s.run calls = (recent.1, before.2 ++ recent.2) ∧
      ∃ stats : Stats, recent.1.monitor = some { config, stats } ∧
        stats.total.toNat = back.length ∧
        stats.total.toNat + recent.2.countP (·.answer.isNone) = sent.length ∧
        stats.failed.toNat = back.countP (·.failed) ∧
        stats.timedOut.toNat = back.countP (·.timedOut) ∧
        stats.slow.toNat = back.countP (fun c => config.isSlow c.elapsed) ∧
        stats.timedOut ≤ stats.failed ∧ stats.failed ≤ stats.total ∧ stats.slow ≤ stats.total ∧
        logged.count "sql" = stats.total.toNat ∧
        logged.count "slow query" = stats.slow.toNat ∧
        logged.count "query failed" = stats.failed.toNat ∧
        ∀ o ∈ recent.2, o.sqlMessages.Sublist ["sql", "slow query", "query failed"] := by
  intro s before recent sent back logged
  have hmonitor : before.1.monitor = some { config } := monitor_run_untilReset rfl calls
  have hconfig : before.1.config? = some config := by rw [config?, hmonitor, Option.map_some]
  have hfew : back.length < UInt64.size := by
    refine (length_completions_le _ _).trans_lt (Nat.lt_of_le_of_lt ?_ h)
    rw [← congrArg List.length (untilReset_append_sinceReset calls), List.length_append]
    exact Nat.le_add_left _ _
  obtain ⟨htotal, hfailed, htimedOut, hslow⟩ := Monitor.counters_recordAll config hfew
  have hlogged : logged = back.flatMap (Completion.messages config) :=
    sqlMessages_run hconfig (sinceReset calls)
  obtain ⟨hsql, hslowMessages, hfailedMessages⟩ := Completion.counts_messages config back
  refine ⟨?_, (Monitor.recordAll { config } back).stats, ?_, htotal, ?_, hfailed, htimedOut, hslow,
    ?_, ?_, ?_, ?_, ?_, ?_, sqlMessages_sublist hconfig (sinceReset calls)⟩
  · rw [← run_append, untilReset_append_sinceReset]
  · have hrun : recent.1.monitor = some (Monitor.recordAll { config } back) :=
      monitor_run hmonitor isReset_of_mem_sinceReset
    rw [hrun]
    exact congrArg some (Monitor.recordAll_eq { config } back)
  · rw [htotal]
    exact (length_seen_run before.1 (sinceReset calls)).symm
  · rw [UInt64.le_iff_toNat_le, htimedOut, hfailed]
    exact List.countP_mono_left fun c _ => Completion.failed_of_timedOut
  · rw [UInt64.le_iff_toNat_le, hfailed, htotal]
    exact List.countP_le_length
  · rw [UInt64.le_iff_toNat_le, hslow, htotal]
    exact List.countP_le_length
  · rw [hlogged, hsql, htotal]
  · rw [hlogged, hslowMessages, hslow]
  · rw [hlogged, hfailedMessages, hfailed]

/-- Of five statements after a reset, three fail, two of these by a time-out, the bridge's own and a
late reply, and two are slow; a query that does not build, one without a row and one that asks for
another outcome make no difference. -/
theorem counters_agree_with_log_of_five :
    let q : Query := { statement := some (.select [] false), table := some "t" }
    let broken : Query := { statement := some (.update []), table := some "t" }
    let raw : SessionCall Query := .raw ⟨⟨"BEGIN", []⟩, false⟩
    let bridge : Bridge := ⟨[{ answer := .error (.execution "busy") }, { answer := .ok (.rows []) },
      { answer := .error (.timeout ⟨3⟩) }, { answer := .ok (.affected 2), delay := some ⟨11⟩ },
      { answer := .error (.execution "lost") }, { answer := .ok (.affected 1) }]⟩
    let config : MonitorConfig := { queryTimeout := some ⟨10⟩, slowQueryThreshold := some ⟨5⟩ }
    let calls : List (SessionCall Query × Duration) :=
      [(raw, ⟨7⟩), (.resetStats, ⟨0⟩), (.operation .fetchOne q, ⟨5⟩),
        (.operation .execute broken, ⟨9⟩), (.operation .fetchAll q, ⟨0⟩), (raw, ⟨12⟩),
        (.operation .execute q, ⟨6⟩), (.operation .insertId q, ⟨0⟩)]
    let s : Session := { bridge, monitor := some { config } }
    calls.length < UInt64.size ∧
      ∃ stats : Stats, (s.run calls).1.monitor = some { config, stats } ∧ stats.total.toNat = 5 ∧
        stats.failed.toNat = 3 ∧ stats.timedOut.toNat = 2 ∧ stats.slow.toNat = 2 := by
  intro q broken raw bridge config calls s
  have hlength : calls.length < UInt64.size := by decide
  obtain ⟨hrun, stats, hstats, htotal, -, hfailed, htimedOut, hslow, -⟩ :=
    counters_agree_with_log bridge config calls hlength
  have hmonitor : (s.run calls).1.monitor = some { config, stats } := by
    have hrun : s.run calls = _ := hrun
    simpa only [hrun] using hstats
  refine ⟨hlength, stats, hmonitor, htotal.trans ?_, hfailed.trans ?_, htimedOut.trans ?_,
    hslow.trans ?_⟩ <;> decide +kernel +zetaReduce

end Session

end BoundSql
