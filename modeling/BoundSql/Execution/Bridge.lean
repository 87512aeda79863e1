import BoundSql.BuiltQuery
import BoundSql.Execution.Row

/-!
# The bridge to a database

A bridge takes finished statements and answers each with an outcome or an error. Here it is a
list of replies to come, each with the time it takes; the next one is used up when a statement
arrives. When none is left, the bridge answers at once that it has run out. With each reply it is
on record which statement the bridge received.
-/

namespace BoundSql

/-- What a statement brought about. -/
inductive Outcome where
  | rows (rows : List Row)
  | affected (count : UInt64)
  | lastInsertId (id : UInt64)
  deriving DecidableEq, Repr

/-- The kind of an outcome, as messages name it. -/
def Outcome.kindName : Outcome → String
  | rows _ => "rows"
  | affected _ => "affected count"
  | lastInsertId _ => "last insert id"

/-- A statement on its way to the bridge. `fetchSingle` says that one row at most is wanted. -/
structure Request where
  query : BuiltQuery
  fetchSingle : Bool
  deriving DecidableEq, Repr

/-- How a bridge answers: with what, and after what time. Without a delay the answer never
comes. -/
structure Reply where
  answer : Except QueryError Outcome
  delay : Option Duration := some ⟨0⟩

namespace Reply

/-- The reply of a bridge that has none left. -/
def exhausted : Reply := { answer := .error (.execution "script exhausted") }

/-- What one gets who waits for the answer. -/
def result (r : Reply) : Option (Except QueryError Outcome) := r.delay.map fun _ => r.answer

/-- What one gets who waits no longer than a time. An answer that takes just this time is not too
late. -/
def within (r : Reply) (limit : Duration) : Option (Except QueryError Outcome) :=
  r.delay.bind fun delay => if limit < delay then none else some r.answer

end Reply

/-- A bridge that answers from a list of replies. -/
structure Bridge where
  replies : List Reply := []

/-- One statement at a bridge: what the bridge received, its reply, and the bridge after it. -/
structure Exchange where
  received : Request
  reply : Reply
  bridge : Bridge

namespace Bridge

/-- The reply to the next statement. -/
def reply (b : Bridge) : Reply := b.replies.head?.getD .exhausted

/-- The bridge after one more statement. -/
def advance (b : Bridge) : Bridge := ⟨b.replies.tail⟩

@[simp] theorem reply_cons (r : Reply) (rs : List Reply) : reply ⟨r :: rs⟩ = r := rfl

@[simp] theorem advance_cons (r : Reply) (rs : List Reply) : advance ⟨r :: rs⟩ = ⟨rs⟩ := rfl

/-- Hands a statement to the bridge. -/
def execute (b : Bridge) (request : Request) : Exchange :=
  { received := request, reply := b.reply, bridge := b.advance }

end Bridge

end BoundSql
