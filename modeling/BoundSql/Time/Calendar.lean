import BoundSql.Number.Digits

/-!
# Dates and times of day as text

A date is written year, month, day with hyphens. The year has at least four digits; a year
beyond 9999 gets a plus sign and one before year 0 a minus sign. A time of day follows after a
space, with a fraction of three, six or nine digits, the fewest that are exact, and none where
the second is whole.

A nanosecond count of 10^9 or more stands for a leap second: it shows as second 60 of its
minute.
-/

namespace BoundSql

/-- A calendar day. -/
structure Date where
  year : Int
  month : Nat
  day : Nat
  deriving DecidableEq, Repr

/-- A calendar day and a time of day. -/
structure DateTime where
  date : Date
  hour : Nat
  minute : Nat
  second : Nat
  nanosecond : Nat
  deriving DecidableEq, Repr

namespace Date

/-- At least four digits, signed outside 0 to 9999. -/
def yearText (year : Int) : List Char :=
  let sign := if year < 0 then ['-'] else if 9999 < year then ['+'] else []
  sign ++ Digits.padded 10 4 year.natAbs

def chars (d : Date) : List Char :=
  yearText d.year ++ '-' :: Digits.padded 10 2 d.month ++ '-' :: Digits.padded 10 2 d.day

/-- Year, month and day with hyphens between them. -/
def text (d : Date) : String := String.ofList d.chars

end Date

namespace DateTime

/-- The part of a second after the point, with the point; nothing for a whole second. -/
def fraction (nanos : Nat) : List Char :=
  if nanos = 0 then []
  else if nanos % 1000000 = 0 then '.' :: Digits.padded 10 3 (nanos / 1000000)
  else if nanos % 1000 = 0 then '.' :: Digits.padded 10 6 (nanos / 1000)
  else '.' :: Digits.padded 10 9 nanos

/-- The date, a space, hours, minutes and seconds with colons, and the fraction. -/
def text (t : DateTime) : String :=
  let leap := 1000000000 ≤ t.nanosecond
  let second := if leap then t.second + 1 else t.second
  let nanos := if leap then t.nanosecond - 1000000000 else t.nanosecond
  let two (n : Nat) : List Char := Digits.padded 10 2 n
  String.ofList (t.date.chars ++ ' ' :: two t.hour ++ ':' :: two t.minute ++
    ':' :: two second ++ fraction nanos)

example : text ⟨⟨2024, 2, 29⟩, 13, 5, 9, 0⟩ = "2024-02-29 13:05:09" := by decide +kernel
example : text ⟨⟨-1, 1, 1⟩, 23, 59, 59, 1500000000⟩ = "-0001-01-01 23:59:60.500" := by
  decide +kernel
example : text ⟨⟨10000, 1, 1⟩, 0, 0, 0, 1000⟩ = "+10000-01-01 00:00:00.000001" := by
  decide +kernel

end DateTime

end BoundSql
