import BoundSql.Number.Digits

/-!
# Decimals with a fixed number of places

A `FixedPoint` is an integer coefficient over a power of ten. Its text shows exactly that many
places, with a zero before the point where no digit stands there.
-/

namespace BoundSql

/-- The number `coefficient / 10 ^ places`, together with the number of places it is shown with.
-/
structure FixedPoint where
  coefficient : Int
  places : Nat
  deriving DecidableEq, Repr

namespace FixedPoint

/-- A sign only below zero, at least one digit before the point, and a point only where places
follow it. -/
def text (x : FixedPoint) : String :=
  let sign := if x.coefficient < 0 then ['-'] else []
  let digits := Digits.padded 10 (x.places + 1) x.coefficient.natAbs
  let whole := digits.length - x.places
  let fraction := if x.places = 0 then [] else '.' :: digits.drop whole
  String.ofList (sign ++ digits.take whole ++ fraction)

example : text ⟨-5, 10⟩ = "-0.0000000005" := by decide +kernel
example : text ⟨0, 5⟩ = "0.00000" := by decide +kernel
example : text ⟨12345, 2⟩ = "123.45" := by decide +kernel

end FixedPoint

end BoundSql
