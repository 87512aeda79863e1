import BoundSql.Toml.Scalar
import BoundSql.Toml.Table

/-!
# Reading a TOML document

A document is read line by line: a header names the table that the following lines are about,
any other line that is not blank or a comment gives a key its value. Values are strings,
integers, truth values, arrays and tables in braces; in the last two, line breaks and comments
may stand between all parts, around an equals sign too, and a comma may follow the last one.

Fractions, points in time and arrays of tables are no values here; a document with one of them
is not read.
-/

namespace BoundSql.Toml

/-- Skips blanks, line breaks and comments; the fuel bounds the number of lines. -/
def skipLines : Nat → Reader Unit
  | 0 => skipBlanks
  | fuel + 1 => do
    skipBlanks
    skipComment
    if ← acceptLineBreak then skipLines fuel

/-- Skips blanks, line breaks and comments. -/
def skipGap : Reader Unit := do skipLines (← get).length

/-- A character of a value without quotes and brackets. -/
def isWordChar (c : Char) : Bool :=
  c.isAlphanum || c == '_' || c == '+' || c == '-' || c == '.' || c == ':'

/-- A value that is one word. -/
def word? (word : Chars) : Option Item :=
  if word = ['t', 'r', 'u', 'e'] then some (.boolean true)
  else if word = ['f', 'a', 'l', 's', 'e'] then some (.boolean false)
  else (integer? word).map .integer

mutual

/-- Reads a value; the fuel bounds its depth and its length. -/
def readValue : Nat → Reader Item
  | 0 => failure
  | fuel + 1 => do
    match ← readString? with
    | some s => return .text s
    | none =>
      if ← accept ['['] then return .array (← readItems fuel)
      else if ← accept ['\x7b'] then return .table .braces (← readFields fuel [])
      else
        match word? (← takeRun isWordChar) with
        | some item => return item
        | none => failure

/-- Reads the values of an array after its opening bracket. -/
def readItems : Nat → Reader (List Item)
  | 0 => failure
  | fuel + 1 => do
    skipGap
    if ← accept [']'] then return []
    let item ← readValue fuel
    skipGap
    if ← accept [','] then return item :: (← readItems fuel)
    expect [']']
    return [item]

/-- Reads the fields of a table after its opening brace. -/
def readFields : Nat → Fields → Reader Fields
  | 0, _ => failure
  | fuel + 1, fields => do
    skipGap
    if ← accept ['\x7d'] then return fields
    let (passed, key) ← readKey
    skipGap
    expect ['=']
    skipGap
    let item ← readValue fuel
    match Fields.assign? passed key item .braces fields with
    | none => failure
    | some (_, fields') =>
      skipGap
      if ← accept [','] then readFields fuel fields'
      else
        expect ['\x7d']
        return fields'

end

/-- Ends a line: nothing but a comment may follow, then a line break or the end of the text. -/
def endLine : Reader Unit := do
  skipBlanks
  skipComment
  if (← get).isEmpty then return
  unless ← acceptLineBreak do failure

/-- Reads the lines of a document into its fields, under the header that was read last. The fuel
bounds the number of lines. -/
def readDocument : Nat → List String → Fields → Reader Fields
  | 0, _, fields => return fields
  | fuel + 1, header, fields => do
    skipGap
    if (← get).isEmpty then return fields
    if ← accept ['['] then
      skipBlanks
      let (passed, key) ← readKey
      expect [']']
      endLine
      match Fields.open? passed key fields with
      | some fields' => readDocument fuel (passed ++ [key]) fields'
      | none => failure
    else
      let (passed, key) ← readKey
      expect ['=']
      skipBlanks
      let item ← readValue (← get).length
      endLine
      match Fields.assignUnder? header passed key item fields with
      | some fields' => readDocument fuel header fields'
      | none => failure

/-- The fields of a document. A byte order mark before it is skipped. -/
def parse? (text : String) : Option Fields :=
  let s : Chars :=
    match text.toList with
    | '\ufeff' :: rest => rest
    | s => s
  (readDocument (s.length + 1) [] [] s).map (·.1)

end BoundSql.Toml
