/-!
# Ranges of code points

A class of characters is given by closed ranges of code points, in ascending order and apart
from each other, so that a table can be checked by looking at its neighbours.
-/

namespace BoundSql.Text

/-- A first and a last code point. -/
abbrev CodePointRange := Nat × Nat

/-- Whether a code point lies in one of the ranges of a table. -/
def inRanges (ranges : List CodePointRange) (n : Nat) : Bool :=
  ranges.any fun (first, last) => first ≤ n && n ≤ last

/-- Every range starts at or before its end, and ends before the next one starts. -/
def ascending : List CodePointRange → Bool
  | [] => true
  | [(first, last)] => first ≤ last
  | (first, last) :: (first', last') :: rest =>
    first ≤ last && last < first' && ascending ((first', last') :: rest)

end BoundSql.Text
