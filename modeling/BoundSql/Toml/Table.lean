/-!
# Tables of a TOML document

A document is a table of items under keys, and items may be tables in turn. TOML lets a table
come about in several ways and restricts what may be added to it later, so a table remembers how
it was made: written in braces, named by a header, passed over on the way to a deeper header, or
passed over by a dotted key.

* What is written in braces is closed.
* A header may name a table that so far was only passed over by headers, and no other.
* A dotted key may pass over tables that no header has named, and gives its value only to a
  table that came about by dotted keys; a plain key gives its value only to a table that did
  not.
* No key is given a value twice.
-/

namespace BoundSql.Toml

/-- How a table came about. -/
inductive Origin where
  /-- Written in braces. -/
  | braces
  /-- Named by a header. -/
  | header
  /-- Passed over by a longer header. -/
  | passed
  /-- Passed over by a dotted key. -/
  | dotted
  deriving DecidableEq, Repr

/-- What stands under a key. -/
inductive Item where
  | text (value : String)
  | integer (value : Int)
  | boolean (value : Bool)
  | array (items : List Item)
  | table (origin : Origin) (fields : List (String × Item))

/-- Items under their keys, in the order in which the keys came. -/
abbrev Fields := List (String × Item)

namespace Fields

/-- Puts an item under a key, in the place of the one that is there or at the end. -/
def put (key : String) (item : Item) : Fields → Fields
  | [] => [(key, item)]
  | (k, old) :: rest => if k = key then (key, item) :: rest else (k, old) :: put key item rest

/-- Whether keys may pass over a table of the given origin. -/
def passable (byDottedKey : Bool) : Origin → Bool
  | .braces => false
  | .header => !byDottedKey
  | .passed | .dotted => true

/-- Changes the table that a path leads to; tables that are missing on the way come about. Fails
where the path may not pass, or where the change fails. -/
def change? (byDottedKey : Bool) (f : Origin → Fields → Option (Origin × Fields)) :
    List String → Origin → Fields → Option (Origin × Fields)
  | [], origin, fields => f origin fields
  | key :: path, origin, fields =>
    match fields.lookup key with
    | none => do
      let (o, inner) ← change? byDottedKey f path (if byDottedKey then .dotted else .passed) []
      return (origin, put key (.table o inner) fields)
    | some (.table o inner) =>
      if passable byDottedKey o then do
        let (o', inner') ← change? byDottedKey f path o inner
        return (origin, put key (.table o' inner') fields)
      else none
    | some _ => none

/-- Gives a key of a table its value. -/
def assign? (passed : List String) (key : String) (item : Item) (origin : Origin)
    (fields : Fields) : Option (Origin × Fields) :=
  change? true
    (fun o inner =>
      if (o == .dotted) == passed.isEmpty || (inner.lookup key).isSome then none
      else some (o, inner ++ [(key, item)]))
    passed origin fields

/-- Names a table by a header. -/
def open? (passed : List String) (key : String) (fields : Fields) : Option Fields := do
  let (_, fields') ← change? false
    (fun o inner =>
      match inner.lookup key with
      | none => some (o, inner ++ [(key, .table .header [])])
      | some (.table .passed old) => some (o, put key (.table .header old) inner)
      | some _ => none)
    passed .header fields
  return fields'

/-- Gives a key its value in the table that the last header named. -/
def assignUnder? (header passed : List String) (key : String) (item : Item) (fields : Fields) :
    Option Fields := do
  let (_, fields') ← change? false (assign? passed key item) header .header fields
  return fields'

end Fields

end BoundSql.Toml
