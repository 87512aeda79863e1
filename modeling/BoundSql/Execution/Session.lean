import BoundSql.Monitor.Basic
import BoundSql.Query.Build

/-!
# Running statements

A session runs statements over a bridge, directly or watched by a monitor. An operation builds a
query, sends it and checks that the outcome has the shape it asks for; a query that does not
build is never sent.

## Main definitions

* `Session.submit` — one statement on its way through monitor and bridge.
* `SessionCall`, `Answer`, `Observation` — the calls, what they return, and all that they show.
* `Session.perform`, `Session.run` — one call, and a sequence of them.
-/

namespace BoundSql

/-- A bridge, with or without a monitor before it. -/
structure Session where
  bridge : Bridge
  monitor : Option Monitor := none

/-- What one statement brought about: the session after it, the result if it ever comes, what the
bridge received, and the log. -/
structure Submission where
  session : Session
  result : Option (Except QueryError Outcome)
  seen : List Request
  events : List Event

/-- Hands a statement on to the bridge, waits for the answer as long as the settings allow, and
counts and logs what comes back; `elapsed` is the time that the clock measured for it. While the
answer does not come, there is nothing to count. -/
def Monitor.submit (m : Monitor) (bridge : Bridge) (request : Request) (elapsed : Duration) :
    Submission :=
  let exchange := bridge.execute request
  let result := settle m.config.queryTimeout exchange.reply
  { session :=
      { bridge := exchange.bridge
        monitor := some (result.elim m fun r => m.record elapsed r) }
    result
    seen := [exchange.received]
    events := result.elim [] fun r => events m.config request.query elapsed r }

namespace Session

/-- The time limit of a session. -/
def timeLimit (s : Session) : Option Duration := s.monitor.bind fun m => m.config.queryTimeout

/-- Sends a statement, through the monitor if there is one. -/
def submit (s : Session) (request : Request) (elapsed : Duration) : Submission :=
  match s.monitor with
  | some m => m.submit s.bridge request elapsed
  | none =>
    let exchange := s.bridge.execute request
    { session := { bridge := exchange.bridge }
      result := exchange.reply.result
      seen := [exchange.received]
      events := [] }

end Session

/-- What is done with a finished statement: which shape of outcome is asked for. -/
inductive Operation where
  | fetchAll
  | fetchOne
  | fetchOptional
  | execute
  | insertId
  deriving DecidableEq, Repr

/-- What a call on a session returns. -/
inductive Answer where
  | rows (rows : List Row)
  | row (row : Row)
  | optionalRow (row : Option Row)
  | affected (count : UInt64)
  | lastInsertId (id : UInt64)
  | outcome (outcome : Outcome)
  | built (query : BuiltQuery)
  | done
  deriving DecidableEq, Repr

namespace Operation

/-- Whether an operation wants one row at most. -/
def fetchSingle : Operation → Bool
  | fetchOne | fetchOptional => true
  | _ => false

/-- The kind of outcome that an operation expects, as messages name it. -/
def expects : Operation → String
  | fetchAll | fetchOne | fetchOptional => "rows"
  | execute => "affected count"
  | insertId => "last insert id"

/-- What an operation makes of an outcome. -/
def interpret (op : Operation) (outcome : Outcome) : Except QueryError Answer :=
  match op, outcome with
  | fetchAll, .rows rows => .ok (.rows rows)
  | fetchOne, .rows (row :: _) => .ok (.row row)
  | fetchOne, .rows [] => .error (.notFound "query returned no rows")
  | fetchOptional, .rows rows => .ok (.optionalRow rows.head?)
  | execute, .affected n => .ok (.affected n)
  | insertId, .lastInsertId id => .ok (.lastInsertId id)
  | op, outcome => .error (.unexpectedOutcome op.expects outcome.kindName)

end Operation

/-- One call on a session; the parameter is the type of what queries are given by. -/
inductive SessionCall (Q : Type) where
  /-- Build a query, send it, interpret what comes back. -/
  | operation (op : Operation) (q : Q)
  /-- Send a finished statement as it is. -/
  | raw (request : Request)
  /-- Build a query and send nothing. -/
  | build (q : Q)
  /-- Set the counters of the monitor back. -/
  | resetStats

/-- What a call on a session shows: the answer if it ever comes, what the bridge received, and
the log. -/
structure Observation where
  answer : Option (Except QueryError Answer)
  seen : List Request := []
  events : List Event := []

namespace Session

/-- Builds as events. -/
def builtEvents (log : List BuildEntry) : List Event :=
  log.map fun entry => .built entry.statement entry.args

/-- Runs one call, for which the clock measures the given time. -/
def perform (s : Session) (elapsed : Duration) : SessionCall Query → Session × Observation
  | .operation op q =>
    match q.build with
    | .error e => (s, { answer := some (.error e) })
    | .ok b =>
      let sent := s.submit ⟨b, op.fetchSingle⟩ elapsed
      (sent.session,
        { answer := sent.result.map fun r => r.bind op.interpret
          seen := sent.seen
          events := builtEvents q.buildLog ++ sent.events })
  | .raw request =>
    let sent := s.submit request elapsed
    (sent.session,
      { answer := sent.result.map fun r => r.map Answer.outcome
        seen := sent.seen
        events := sent.events })
  | .build q =>
    match q.build with
    | .error e => (s, { answer := some (.error e) })
    | .ok b => (s, { answer := some (.ok (.built b)), events := builtEvents q.buildLog })
  | .resetStats =>
    ({ s with monitor := s.monitor.map fun m => { m with stats := {} } },
      { answer := some (.ok .done) })

/-- Runs calls one after another, each with the time the clock measures for it. -/
def run (s : Session) : List (SessionCall Query × Duration) → Session × List Observation
  | [] => (s, [])
  | (c, elapsed) :: cs =>
    let (s', o) := s.perform elapsed c
    let (s'', os) := s'.run cs
    (s'', o :: os)

end Session

end BoundSql
