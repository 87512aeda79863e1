import BoundSql.Number.Digits

/-!
# Durations

A duration is a whole number of nanoseconds. Its text names the largest of the units `s`, `ms`,
`µs` and `ns` that does not exceed it and gives an exact decimal number of them, without
trailing zeros.
-/

namespace BoundSql

/-- A span of time in whole nanoseconds. -/
structure Duration where
  nanoseconds : Nat
  deriving DecidableEq, Repr

namespace Duration

instance : LT Duration := ⟨fun a b => a.nanoseconds < b.nanoseconds⟩

instance (a b : Duration) : Decidable (a < b) :=
  inferInstanceAs (Decidable (a.nanoseconds < b.nanoseconds))

/-- A number of milliseconds. -/
def ofMilliseconds (n : Nat) : Duration := ⟨n * 1000000⟩

/-- The exact number `n / 10 ^ places` without trailing zeros, and without a point where nothing
follows it. -/
def trimmedDecimal (n places : Nat) : String :=
  let whole := Nat.toDigits 10 (n / Nat.pow 10 places)
  let rest := n % Nat.pow 10 places
  if rest = 0 then String.ofList whole
  else
    let fraction := Digits.withoutTrailingZeros (Digits.padded 10 places rest)
    String.ofList (whole ++ '.' :: fraction)

/-- The number of the largest fitting unit, then the unit. -/
def text (d : Duration) : String :=
  let n := d.nanoseconds
  if 1000000000 ≤ n then trimmedDecimal n 9 ++ "s"
  else if 1000000 ≤ n then trimmedDecimal n 6 ++ "ms"
  else if 1000 ≤ n then trimmedDecimal n 3 ++ "µs"
  else trimmedDecimal n 0 ++ "ns"

example : text ⟨1500000000⟩ = "1.5s" := by decide +kernel
example : text ⟨999999⟩ = "999.999µs" := by decide +kernel
example : text ⟨0⟩ = "0ns" := by decide +kernel

end Duration

end BoundSql
