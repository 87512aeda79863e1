import BoundSql.Number.Binary64

/-!
# The shortest decimal of a double

Every finite double owns the reals that round to it: the interval up to the midpoints with its
two neighbours, ends included exactly when its significand is even. `Binary64.shortest` is a
decimal in that interval with as few digits as possible and, of those, the closest to the
double; where two are equally close it takes the greater.

The interval is kept in units of `2 ^ -1076`, a quarter of the smallest gap, so that midpoints
are integers and everything is exact arithmetic on natural numbers.
-/

namespace BoundSql

/-- The number `digits * 10 ^ exponent`. -/
structure Decimal where
  digits : Nat
  exponent : Int
  deriving DecidableEq, Repr

namespace Binary64

/-- The magnitude of a finite double in units of `2 ^ -1076`. -/
def quarterUnits (x : Binary64) : Nat := 4 * x.significand * Nat.pow 2 x.scale

/-- Half the distance to the next greater double. -/
def halfGapAbove (x : Binary64) : Nat := 2 * Nat.pow 2 x.scale

/-- Half the distance to the next smaller double, which is only half as far below a power of
two. -/
def halfGapBelow (x : Binary64) : Nat :=
  if x.fractionField = 0 ∧ 1 < x.exponentField then Nat.pow 2 x.scale
  else 2 * Nat.pow 2 x.scale

/-- Whether `num / den` quarter units round to the double. -/
def owns (x : Binary64) (num den : Nat) : Bool :=
  let low := (x.quarterUnits - x.halfGapBelow) * den
  let high := (x.quarterUnits + x.halfGapAbove) * den
  if x.significand % 2 = 0 then low ≤ num && num ≤ high else low < num && num < high

/-- Quarter units per one. -/
def unitsPerOne : Nat := Nat.pow 2 1076

/-- The position of the leading digit: `10 ^ e ≤ num / den < 10 ^ (e + 1)`. -/
def leadingExponent (num den : Nat) : Int :=
  if den ≤ num then (Nat.toDigits 10 (num / den)).length - 1
  else -(Nat.toDigits 10 ((den - 1) / num)).length

/-- The point of the decimal grid of step `10 ^ exponent` that the double owns, if there is one:
of the two grid points around the double the closer, of two equally close ones the greater. -/
def onGrid? (x : Binary64) (exponent : Int) : Option Decimal :=
  -- the double is `num / den` steps, and a point of `d` steps is `d * up / down` quarter units
  let up := if 0 ≤ exponent then unitsPerOne * Nat.pow 10 exponent.toNat else unitsPerOne
  let down := if 0 ≤ exponent then 1 else Nat.pow 10 (-exponent).toNat
  let num := x.quarterUnits * down
  let below := num / up
  let above := below + 1
  let owned (d : Nat) : Bool := x.owns (d * up) down
  let aboveIsCloser : Bool := up ≤ 2 * (num % up)
  if owned below && owned above then some ⟨if aboveIsCloser then above else below, exponent⟩
  else if owned below then some ⟨below, exponent⟩
  else if owned above then some ⟨above, exponent⟩
  else none

/-- The first grid with an owned point among those of `count`, `count + 1`, … digits. -/
def firstOnGrid (x : Binary64) (leading : Int) : Nat → Int → Decimal
  | 0, count => (x.onGrid? (leading - count + 1)).getD ⟨0, 0⟩
  | fuel + 1, count =>
    match x.onGrid? (leading - count + 1) with
    | some d => d
    | none => firstOnGrid x leading fuel (count + 1)

/-- The shortest decimal that reads back as the magnitude of a finite double. Seventeen digits
always suffice. -/
def shortest (x : Binary64) : Decimal :=
  if x.quarterUnits = 0 then ⟨0, 0⟩
  else x.firstOnGrid (leadingExponent x.quarterUnits unitsPerOne) 16 1

example : shortest ⟨0x3ff8000000000000⟩ = ⟨15, -1⟩ := by decide +kernel
example : shortest ⟨0x0000000000000001⟩ = ⟨5, -324⟩ := by decide +kernel
example : shortest ⟨0x3fb999999999999a⟩ = ⟨1, -1⟩ := by decide +kernel
example : shortest ⟨0x3e60000000000000⟩ = ⟨29802322387695313, -24⟩ := by decide +kernel

end Binary64

end BoundSql
