/-!
# Double-precision numbers by their bits

A `Binary64` is the 64-bit word of an IEEE 754 double: a sign bit, eleven exponent bits and 52
fraction bits. Words are told apart bit by bit, so `-0.0` differs from `0.0` and a NaN is itself;
`numericEq` compares the numbers that words stand for.

The magnitude of a finite word is `significand * 2 ^ scale` in units of `2 ^ -1074`, the spacing
of the smallest doubles. `nearest?` goes the other way: it rounds a non-negative quotient to the
closest double, a tie to the even significand, in exact arithmetic on natural numbers.
-/

namespace BoundSql

/-- A double-precision number, given by its bits. -/
structure Binary64 where
  bits : UInt64
  deriving DecidableEq, Repr

namespace Binary64

/-- The sign bit. -/
def negative (x : Binary64) : Bool := Nat.pow 2 63 ≤ x.bits.toNat

/-- The eleven exponent bits. -/
def exponentField (x : Binary64) : Nat := x.bits.toNat / Nat.pow 2 52 % Nat.pow 2 11

/-- The 52 fraction bits. -/
def fractionField (x : Binary64) : Nat := x.bits.toNat % Nat.pow 2 52

/-- Neither infinite nor a NaN. -/
def isFinite (x : Binary64) : Bool := x.exponentField != 2047

def isNaN (x : Binary64) : Bool := x.exponentField == 2047 && x.fractionField != 0

/-- Zero, of either sign. -/
def isZero (x : Binary64) : Bool := x.exponentField == 0 && x.fractionField == 0

/-- Equality as numbers: a NaN equals nothing and both zeros are equal. -/
def numericEq (x y : Binary64) : Bool :=
  !x.isNaN && !y.isNaN && (x == y || (x.isZero && y.isZero))

/-- A number equals itself unless it is a NaN. -/
theorem numericEq_self (x : Binary64) : x.numericEq x = !x.isNaN := by
  simp [numericEq]

/-- The integer that `2 ^ scale` multiplies; subnormal numbers lack the leading bit. -/
def significand (x : Binary64) : Nat :=
  if x.exponentField = 0 then x.fractionField else Nat.pow 2 52 + x.fractionField

/-- The power of two on the significand, in units of `2 ^ -1074`. -/
def scale (x : Binary64) : Nat := x.exponentField - 1

/-- The quotient rounded to an integer, a tie to the even neighbour. -/
def roundHalfEven (num den : Nat) : Nat :=
  let q := num / den
  let twice := 2 * (num % den)
  if den < twice ∨ (twice = den ∧ q % 2 = 1) then q + 1 else q

/-- The word whose magnitude is closest to `num / den`, or nothing where that is infinite.
Because a significand of 53 bits carries its leading bit into the exponent field, the word is
the plain sum of scale and significand, also when rounding reaches the next power of two. -/
def nearest? (negative : Bool) (num den : Nat) : Option Binary64 :=
  let units := num * Nat.pow 2 1074
  let scale := Nat.log2 (units / den) - 52
  let word := scale * Nat.pow 2 52 + roundHalfEven units (den * Nat.pow 2 scale)
  if 2047 * Nat.pow 2 52 ≤ word then none
  else some ⟨UInt64.ofNat (if negative then Nat.pow 2 63 + word else word)⟩

/-- Zero with a sign. -/
def zero (negative : Bool) : Binary64 := ⟨if negative then 0x8000000000000000 else 0⟩

/-- The double closest to `digits * 10 ^ exponent`. An exponent beyond the reach of every double
is settled by the count of digits alone, without computing the power. -/
def ofDecimal? (negative : Bool) (digits : Nat) (exponent : Int) : Option Binary64 :=
  let length : Int := (Nat.toDigits 10 digits).length
  if digits = 0 ∨ length + exponent < -400 then some (zero negative)
  else if 400 < length + exponent then none
  else if 0 ≤ exponent then nearest? negative (digits * Nat.pow 10 exponent.toNat) 1
  else nearest? negative digits (Nat.pow 10 (-exponent).toNat)

/-- The double with the value of a single-precision number, given by its 32 bits. Every finite
one is a double; a NaN keeps its sign and fraction and becomes quiet. -/
def ofBinary32 (word : UInt32) : Binary64 :=
  let n := word.toNat
  let negative := Nat.pow 2 31 ≤ n
  let signBit := if negative then Nat.pow 2 63 else 0
  let exponent := n / Nat.pow 2 23 % Nat.pow 2 8
  let fraction := n % Nat.pow 2 23
  if exponent = 255 then
    let quiet := if fraction = 0 then 0 else Nat.pow 2 51
    ⟨UInt64.ofNat (signBit + 2047 * Nat.pow 2 52 + (fraction * Nat.pow 2 29 ||| quiet))⟩
  else
    let significand := if exponent = 0 then fraction else Nat.pow 2 23 + fraction
    (nearest? negative (significand * Nat.pow 2 (exponent - 1)) (Nat.pow 2 149)).getD
      (zero negative)

end Binary64

end BoundSql
