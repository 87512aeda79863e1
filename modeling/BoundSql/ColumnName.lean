import BoundSql.Error
import BoundSql.Text.Blank
import BoundSql.Text.Quoted

/-!
# Column names

Names of columns go into the text of a statement as they are, so those that carry bound values
are checked first. A name is one or more parts with dots between them. A part is either an ASCII
letter or underscore followed by letters, digits, underscores and dollar signs, or one or more
characters other than a backquote between two backquotes. No name holds NUL.

`ColumnName.check` reads a name from left to right and stops at the first character that no name
can have there.
-/

namespace BoundSql

/-- What keeps a text from being a column name. -/
inductive NameFault where
  | empty
  | nul
  | trailingDot
  | unexpected (c : Char)
  | unclosedQuote
  | emptyQuote
  | badCharacter (c : Char)
  | emptyPart
  deriving DecidableEq, Repr

namespace NameFault

/-- What is wrong with the given name. -/
def message (name : String) : NameFault → String
  | empty => "column name cannot be empty"
  | nul => "column name cannot contain NUL: " ++ Text.quoted name
  | trailingDot => "trailing '.' in column name: " ++ name
  | unexpected c => "unexpected '" ++ c.toString ++ "' in column name: " ++ name
  | unclosedQuote => "unclosed quoted identifier: " ++ name
  | emptyQuote => "empty quoted identifier: " ++ name
  | badCharacter c => "invalid character '" ++ c.toString ++ "' in column name: " ++ name
  | emptyPart => "empty segment in column name: " ++ name

end NameFault

namespace ColumnName

/-- The character that opens and closes a quoted part. -/
def backquote : Char := '\x60'

/-- The first character of an unquoted part: an ASCII letter or an underscore. -/
def isInitial (c : Char) : Bool := c == '_' || c.isAlpha

/-- A later character of an unquoted part. -/
def isContinuing (c : Char) : Bool := c == '_' || c == '$' || c.isAlphanum

/-- Where the reader stands within a name. -/
inductive Position where
  /-- Before a part. -/
  | start
  /-- In an unquoted part that has begun. -/
  | bare
  /-- In a quoted part; `filled` says whether a character came since the quote. -/
  | quoted (filled : Bool)
  /-- After the closing quote of a part. -/
  | closed
  deriving DecidableEq, Repr

/-- Whether the text can end where the reader stands. -/
def finish : Position → Except NameFault Unit
  | .start => .error .emptyPart
  | .bare | .closed => .ok ()
  | .quoted _ => .error .unclosedQuote

/-- The reader after a dot that ends a part: another character must follow. -/
def afterDot (rest : List Char) : Except NameFault Position :=
  if rest.isEmpty then .error .trailingDot else .ok .start

/-- The reader after one character, given what follows it. -/
def step (position : Position) (c : Char) (rest : List Char) : Except NameFault Position :=
  match position with
  | .start =>
    if c = backquote then .ok (.quoted false)
    else if c = '.' then .error .emptyPart
    else if isInitial c then .ok .bare
    else .error (.badCharacter c)
  | .bare =>
    if c = '.' then afterDot rest
    else if isContinuing c then .ok .bare
    else .error (.badCharacter c)
  | .quoted filled =>
    if c = backquote then (if filled then .ok .closed else .error .emptyQuote)
    else .ok (.quoted true)
  | .closed => if c = '.' then afterDot rest else .error (.unexpected c)

/-- Reads the rest of a name. -/
def scan : Position → List Char → Except NameFault Unit
  | position, [] => finish position
  | position, c :: cs =>
    match step position c cs with
    | .ok next => scan next cs
    | .error fault => .error fault

/-- Finds out whether a text is a column name, or the first thing wrong with it. -/
def check (name : String) : Except NameFault Unit :=
  if name = "" then .error .empty
  else if '\x00' ∈ name.toList then .error .nul
  else scan .start name.toList

/-- Refuses a text that is no column name. -/
def validate (name : String) : Except QueryError Unit :=
  match check name with
  | .ok () => .ok ()
  | .error fault => .error (.invalidColumn (fault.message name))

/-- Refuses an expression of blanks. Expressions are SQL of the caller's own, so nothing else is
checked. -/
def validateExpression (expression : String) : Except QueryError Unit :=
  if Text.isBlankText expression then .error (.invalidColumn "expression cannot be empty")
  else .ok ()

end ColumnName

end BoundSql
