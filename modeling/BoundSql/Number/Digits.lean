/-!
# Digits

Numbers as lists of digit characters: with zeros in front up to a width, and without zeros at
the end.
-/

namespace BoundSql.Digits

/-- The digits of a number in a base up to sixteen, with zeros in front up to the given width.
-/
def padded (base width n : Nat) : List Char :=
  let digits := Nat.toDigits base n
  List.replicate (width - digits.length) '0' ++ digits

/-- The digits up to the last one that is not zero. -/
def withoutTrailingZeros (digits : List Char) : List Char :=
  (digits.reverse.dropWhile (· == '0')).reverse

@[simp] theorem withoutTrailingZeros_nil : withoutTrailingZeros [] = [] := rfl

end BoundSql.Digits
