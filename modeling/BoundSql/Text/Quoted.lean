import BoundSql.Text.Joining
import BoundSql.Text.NonPrinting

/-!
# Quoted text for messages and logs

A text is shown between double quotes. Inside, a double quote and a backslash get a backslash,
NUL, tab, line feed and carriage return are `\0`, `\t`, `\n` and `\r`, and any other character
that does not print by itself, because it is invisible or joins the character before it, is `\u`
with its code point in lower-case hexadecimal digits between braces. All other characters stand
for themselves.
-/

namespace BoundSql.Text

/-- Whether a character needs its code point written out. -/
def needsCodePoint (c : Char) : Bool := isJoining c || isNonPrinting c

/-- The code point of a character between braces, in lower-case hexadecimal digits. -/
def codePointEscape (c : Char) : List Char :=
  ['\\', 'u', '\x7b'] ++ Nat.toDigits 16 c.toNat ++ ['\x7d']

/-- One character inside quotes. -/
def quotedChar (c : Char) : List Char :=
  if c = '"' then ['\\', '"']
  else if c = '\\' then ['\\', '\\']
  else if c = '\x00' then ['\\', '0']
  else if c = '\t' then ['\\', 't']
  else if c = '\n' then ['\\', 'n']
  else if c = '\r' then ['\\', 'r']
  else if needsCodePoint c then codePointEscape c
  else [c]

/-- The text between double quotes, with everything escaped that would not show. -/
def quoted (s : String) : String :=
  String.ofList ('"' :: s.toList.flatMap quotedChar ++ ['"'])

@[simp] theorem quoted_empty : quoted "" = "\"\"" := rfl

end BoundSql.Text
