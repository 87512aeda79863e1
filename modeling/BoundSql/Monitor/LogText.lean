import BoundSql.Number.Digits
import BoundSql.Number.Shortest
import BoundSql.Text.Quoted
import BoundSql.Value

/-!
# Values in the log

A logged value shows its type and its content: `Null`, `Bool(true)`, `Int(-5)`, `UInt(1)`,
`Float(1.5)`, `Text("a")`, `Bytes([0, 255])`; arguments stand in brackets.

A double is shown with its shortest digits. From 10^-4 up to 10^16 it is written positionally,
always with a digit after the point; below and beyond with one digit before the point and an
exponent.
-/

namespace BoundSql

namespace Binary64

/-- Digits that stand for `digits * 10 ^ exponent`, without zeros at the end, and the exponent
of the first one of them. -/
def trimmedDigits (d : Decimal) : List Char × Int :=
  let digits := Nat.toDigits 10 d.digits
  (Digits.withoutTrailingZeros digits, digits.length + d.exponent - 1)

/-- Positional notation with a digit on each side of the point. -/
def positional (digits : List Char) (leading : Int) : List Char :=
  if leading < 0 then
    '0' :: '.' :: List.replicate (-leading - 1).toNat '0' ++ digits
  else
    let width := leading.toNat + 1
    let whole := digits.take width ++ List.replicate (width - digits.length) '0'
    let fraction := digits.drop width
    whole ++ '.' :: (if fraction.isEmpty then ['0'] else fraction)

/-- One digit before the point, the others after it, and the exponent. -/
def scientific (digits : List Char) (leading : Int) : List Char :=
  let fraction := digits.tail
  digits.take 1 ++ (if fraction.isEmpty then [] else '.' :: fraction) ++
    'e' :: (toString leading).toList

/-- A double in the log. -/
def logText (x : Binary64) : String :=
  if x.isNaN then "NaN"
  else
    let magnitude :=
      if !x.isFinite then ['i', 'n', 'f']
      else
        let (digits, leading) := trimmedDigits x.shortest
        if digits.isEmpty then ['0', '.', '0']
        else if -4 ≤ leading ∧ leading < 16 then positional digits leading
        else scientific digits leading
    String.ofList (if x.negative then '-' :: magnitude else magnitude)

example : logText ⟨0x3ff8000000000000⟩ = "1.5" := by decide +kernel
example : logText ⟨0x4341c37937e08000⟩ = "1e16" := by decide +kernel
example : logText ⟨0x8000000000000000⟩ = "-0.0" := by decide +kernel
example : logText ⟨0x3ee4f8b588e368f1⟩ = "1e-5" := by decide +kernel

end Binary64

namespace Value

/-- A value in the log. -/
def logText : Value → String
  | null => "Null"
  | bool b => "Bool(" ++ (if b then "true" else "false") ++ ")"
  | int i => "Int(" ++ toString i.toInt ++ ")"
  | uint n => "UInt(" ++ toString n.toNat ++ ")"
  | float x => "Float(" ++ x.logText ++ ")"
  | text s => "Text(" ++ Text.quoted s ++ ")"
  | bytes bs =>
    "Bytes([" ++ String.intercalate ", " (bs.map fun b => toString b.toNat) ++ "])"

/-- Values in the log. -/
def logTexts (vs : List Value) : String :=
  "[" ++ String.intercalate ", " (vs.map logText) ++ "]"

end Value

end BoundSql
