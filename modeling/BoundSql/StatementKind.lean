import BoundSql.Text.Blank

/-!
# The kind of a finished statement

A statement's kind is told from its leading keyword, in any case, after blanks, comments and
opening parentheses. `StatementKind.body` skips those. A line comment runs from `--` or `#` to
the end of the line; a block comment runs from `/*` to the first `*/` that ends after its
opening slash, so that the three characters `/*/` are a whole comment. A comment without an end
leaves nothing.
-/

namespace BoundSql

/-- What a statement does, as far as its leading keyword shows. -/
inductive StatementKind where
  | select
  | insert
  | update
  | delete
  | other
  deriving DecidableEq, Repr

namespace StatementKind

/-- The upper-case name of a kind. -/
def name : StatementKind → String
  | select => "SELECT"
  | insert => "INSERT"
  | update => "UPDATE"
  | delete => "DELETE"
  | other => "OTHER"

/-- Where a reader stands before a statement's body. -/
inductive Position where
  /-- Between skippable items. -/
  | between
  /-- In a line comment. -/
  | line
  /-- In a block comment. -/
  | block
  /-- Before the slash that ends a block comment. -/
  | closing

/-- What is left after the skippable items. -/
def skip : Position → List Char → List Char
  | _, [] => []
  | .line, c :: cs => if c = '\n' then skip .between cs else skip .line cs
  | .block, c :: cs =>
    if c = '*' ∧ cs.head? = some '/' then skip .closing cs else skip .block cs
  | .closing, _ :: cs => skip .between cs
  | .between, c :: cs =>
    if Text.isBlank c ∨ c = '(' then skip .between cs
    else if c = '#' ∨ (c = '-' ∧ cs.head? = some '-') then skip .line cs
    else if c = '/' ∧ cs.head? = some '*' then skip .block cs
    else c :: cs

/-- The statement without the blanks, comments and opening parentheses before it. -/
def body (sql : List Char) : List Char := skip .between sql

/-- What follows a keyword that the text starts with, in any case of its letters. The keyword is
given in upper case. -/
def afterKeyword? : List Char → List Char → Option (List Char)
  | [], s => some s
  | _ :: _, [] => none
  | k :: ks, c :: cs => if c.toUpper = k then afterKeyword? ks cs else none

/-- A character that continues a word: an ASCII letter, a digit or an underscore. -/
def isWordChar (c : Char) : Bool := c.isAlphanum || c == '_'

/-- Whether a text starts with a keyword that no further letter continues. -/
def startsWith (keyword : String) (s : List Char) : Bool :=
  (afterKeyword? keyword.toList s).any fun rest => !rest.head?.any isWordChar

/-- The kind of a statement. `REPLACE` inserts. -/
def ofSql (sql : String) : StatementKind :=
  let s := body sql.toList
  if startsWith "SELECT" s then select
  else if startsWith "INSERT" s || startsWith "REPLACE" s then insert
  else if startsWith "UPDATE" s then update
  else if startsWith "DELETE" s then delete
  else other

end StatementKind

end BoundSql
