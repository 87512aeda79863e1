/-!
# Texts of SQL expressions

Helpers for projections: function calls over parts given as SQL, and string literals. They only
build text and bind nothing. A literal stands between single quotes, with a single quote and a
backslash inside it written twice.
-/

namespace BoundSql.Expression

/-- A character inside a literal. -/
def quotedChar (c : Char) : List Char :=
  if c = '\'' then ['\'', '\''] else if c = '\\' then ['\\', '\\'] else [c]

/-- The characters of a literal, quotes included. -/
def literalChars (s : List Char) : List Char := '\'' :: s.flatMap quotedChar ++ ['\'']

/-- A text as a string literal. -/
def literal (text : String) : String := String.ofList (literalChars text.toList)

/-- A function applied to arguments, separated by commas. -/
def call (function : String) (arguments : List String) : String :=
  function ++ "(" ++ String.intercalate ", " arguments ++ ")"

/-- The expression without the blanks around it. -/
def trim (expression : String) : String := call "TRIM" [expression]

/-- The number of rows, or of those where the expression is not NULL. -/
def count (expression : String) : String := call "COUNT" [expression]

/-- A date in a format. -/
def dateFormat (expression format : String) : String :=
  call "DATE_FORMAT" [expression, literal format]

/-- Texts one after another. -/
def concat (parts : List String) : String := call "CONCAT" parts

/-- Texts one after another with a separator between neighbours. -/
def concatWithSeparator (separator : String) (parts : List String) : String :=
  call "CONCAT_WS" (literal separator :: parts)

/-- The first of the parts that is not NULL. -/
def coalesce (parts : List String) : String := call "COALESCE" parts

/-- An expression under another name. -/
def aliased (expression name : String) : String := expression ++ " AS " ++ name

end BoundSql.Expression
