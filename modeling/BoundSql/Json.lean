import BoundSql.Number.Binary64

/-!
# JSON data

A document as a tree. Numbers keep the integers that a 64-bit word holds and are doubles
otherwise; objects keep the order in which their keys first came, each key once, with the last
value given for it.
-/

namespace BoundSql

/-- A JSON number: an integer that fits a signed word, else one that fits an unsigned word, else
a double. -/
inductive JsonNumber where
  | int (value : Int64)
  | uint (value : UInt64) (large : Nat.pow 2 63 ≤ value.toNat)
  | float (value : Binary64)
  deriving DecidableEq, Repr

/-- A JSON document. -/
inductive Json where
  | null
  | bool (value : Bool)
  | number (value : JsonNumber)
  | string (value : String)
  | array (items : List Json)
  | object (fields : List (String × Json))

namespace JsonNumber

/-- The number a run of decimal digits stands for. -/
def ofDigits (digits : List Char) : Nat := Nat.ofDigitChars 10 digits 0

/-- An integer in the smallest representation that holds it. Negative zero is a double, since no
integer has that sign. -/
def ofInteger? (negative : Bool) (n : Nat) : Option JsonNumber :=
  if negative then
    if n = 0 then some (.float (Binary64.zero true))
    else if n ≤ Nat.pow 2 63 then some (.int (Int64.ofInt (-n)))
    else (Binary64.ofDecimal? true n 0).map .float
  else if hsmall : n < Nat.pow 2 63 then some (.int (Int64.ofNat n))
  else if hword : n < UInt64.size then
    have hlarge : Nat.pow 2 63 ≤ (UInt64.ofNat n).toNat := by
      rw [UInt64.toNat_ofNat_of_lt' hword]
      exact Nat.le_of_not_lt hsmall
    some (.uint (UInt64.ofNat n) hlarge)
  else (Binary64.ofDecimal? false n 0).map .float

/-- Reads an exponent: nothing, or `e` or `E`, an optional sign and digits. -/
def readExponent? : List Char → Option Int
  | [] => some 0
  | e :: rest =>
    if e ≠ 'e' ∧ e ≠ 'E' then none
    else
      let (negative, digits) : Bool × List Char :=
        match rest with
        | '-' :: ds => (true, ds)
        | '+' :: ds => (false, ds)
        | ds => (false, ds)
      if digits.isEmpty || !digits.all Char.isDigit then none
      else some (if negative then -(ofDigits digits : Int) else ofDigits digits)

/-- Reads a number: an optional minus, digits without a needless zero in front, an optional
fraction and an optional exponent. A number without the last two is an integer. Texts of another
form have no reading, nor have numbers too great for a double. -/
def ofText? (text : String) : Option JsonNumber :=
  let (negative, s) : Bool × List Char :=
    match text.toList with
    | '-' :: r => (true, r)
    | r => (false, r)
  let whole := s.takeWhile Char.isDigit
  if whole.isEmpty || (whole.head? == some '0' && 1 < whole.length) then none
  else
    match s.dropWhile Char.isDigit with
    | [] => ofInteger? negative (ofDigits whole)
    | '.' :: rest =>
      let fraction := rest.takeWhile Char.isDigit
      if fraction.isEmpty then none
      else do
        let exponent ← readExponent? (rest.dropWhile Char.isDigit)
        let value ← Binary64.ofDecimal? negative (ofDigits (whole ++ fraction))
          (exponent - fraction.length)
        return .float value
    | rest => do
      let exponent ← readExponent? rest
      let value ← Binary64.ofDecimal? negative (ofDigits whole) exponent
      return .float value

end JsonNumber

namespace Json

/-- Gives a key its value: a known key keeps its place, a new one goes to the end. -/
def setField (fields : List (String × Json)) (key : String) (value : Json) :
    List (String × Json) :=
  if fields.any (·.1 == key) then
    fields.map fun field => if field.1 = key then (key, value) else field
  else fields ++ [(key, value)]

theorem map_fst_setField (fields : List (String × Json)) (key : String) (value : Json) :
    (setField fields key value).map (·.1) =
      if key ∈ fields.map (·.1) then fields.map (·.1) else fields.map (·.1) ++ [key] := by
  have hmem : fields.any (·.1 == key) = true ↔ key ∈ fields.map (·.1) := by
    simp [List.any_eq_true]
  unfold setField
  split
  · next h =>
    rw [if_pos (hmem.1 h), List.map_map]
    apply List.map_congr_left
    intro field _
    by_cases hk : field.1 = key <;> simp [hk]
  · next h =>
    rw [if_neg (fun hm => h (hmem.2 hm))]
    simp

/-- The object with the given fields, of which a later one replaces the value of an earlier one
with its key. -/
def ofFields (fields : List (String × Json)) : Json :=
  .object (fields.foldl (fun acc field => setField acc field.1 field.2) [])

/-- What a document is, as messages name it. -/
def kindName : Json → String
  | .null => "null"
  | .bool _ => "bool"
  | .number _ => "number"
  | .string _ => "string"
  | .array _ => "array"
  | .object _ => "object"

end Json

end BoundSql
