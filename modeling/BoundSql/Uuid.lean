import BoundSql.Number.Digits

/-!
# Universally unique identifiers

A `Uuid` is a word of 128 bits. Its text is 32 lower-case hexadecimal digits in groups of 8, 4,
4, 4 and 12 with hyphens between them.
-/

namespace BoundSql

/-- A 128-bit identifier. -/
structure Uuid where
  word : BitVec 128
  deriving DecidableEq, Repr

namespace Uuid

/-- The 32 hexadecimal digits, leading zeros included. -/
def digits (u : Uuid) : List Char := Digits.padded 16 32 u.word.toNat

/-- The digits in their five groups. -/
def text (u : Uuid) : String :=
  let ds := u.digits
  let group (start size : Nat) : List Char := (ds.drop start).take size
  String.ofList (group 0 8 ++ '-' :: group 8 4 ++ '-' :: group 12 4 ++ '-' :: group 16 4 ++
    '-' :: group 20 12)

example : text ⟨0x550e8400e29b41d4a716446655440000⟩ = "550e8400-e29b-41d4-a716-446655440000" := by
  decide +kernel

end Uuid

end BoundSql
