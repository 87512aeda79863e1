/-!
# Keys, strings and integers of TOML

Readers over lists of characters: each takes what it recognises from the front and returns the
rest, or nothing where the text is malformed. Strings are basic, with escapes, or literal,
without; both may span several lines between three quotes, where a line feed right after the
opening quotes is dropped and a backslash at the end of a line joins it to the next text. No
string and no comment holds a control character other than the tab.

Integers are decimal without needless zeros in front, or hexadecimal, octal or binary without a
sign; single underscores may stand between digits.
-/

namespace BoundSql.Toml

/-- Text to read. -/
abbrev Chars := List Char

/-- A reader takes its part from the front of a text. -/
abbrev Reader := StateT Chars Option

/-- Blanks within a line. -/
def isBlank (c : Char) : Bool := c == ' ' || c == '\t'

/-- A control character that no string and no comment may hold. -/
def isForbidden (c : Char) : Bool := (c.toNat < 0x20 && c != '\t') || c.toNat == 0x7F

/-- Skips blanks within a line. -/
def skipBlanks : Reader Unit := modify (·.dropWhile isBlank)

/-- Takes the given characters, if the text starts with them. -/
def accept (expected : Chars) : Reader Bool := do
  let s ← get
  if expected.isPrefixOf s then
    set (s.drop expected.length)
    return true
  else return false

/-- Takes the given characters, with which the text has to start. -/
def expect (expected : Chars) : Reader Unit := do
  unless ← accept expected do failure

/-- Takes a line break, if there is one. -/
def acceptLineBreak : Reader Bool := do
  if ← accept ['\n'] then return true
  accept ['\r', '\n']

/-- Takes the longest run of characters of a class. -/
def takeRun (p : Char → Bool) : Reader Chars := do
  let s ← get
  set (s.dropWhile p)
  return s.takeWhile p

/-- Skips a comment up to the end of its line. -/
def skipComment : Reader Unit := do
  if ← accept ['#'] then
    let comment ← takeRun fun c => c != '\n' && c != '\r'
    if comment.any isForbidden then failure

/-- The value of a digit in a base up to sixteen. -/
def digit? (base : Nat) (c : Char) : Option Nat :=
  let n := c.toNat
  let value :=
    if c.isDigit then n - '0'.toNat
    else if 'a'.toNat ≤ n && n ≤ 'f'.toNat then n - 'a'.toNat + 10
    else if 'A'.toNat ≤ n && n ≤ 'F'.toNat then n - 'A'.toNat + 10
    else 16
  if value < base then some value else none

/-- The number of a list of digits. -/
def ofDigits? (base : Nat) (digits : Chars) : Option Nat :=
  digits.foldlM (fun n c => (digit? base c).map (base * n + ·)) 0

/-! ## Strings -/

/-- The character whose code point stands in the next hexadecimal digits. -/
def codePoint? (digits : Chars) (count : Nat) : Option Char := do
  if digits.length < count then none
  let n ← ofDigits? 16 digits
  if n.isValidChar then some (Char.ofNat n) else none

/-- The text after its leading blanks and line breaks. -/
def dropGap : Chars → Chars
  | '\n' :: rest => dropGap rest
  | '\r' :: '\n' :: rest => dropGap rest
  | c :: rest => if isBlank c then dropGap rest else c :: rest
  | [] => []

/-- The characters after a backslash that joins lines: blanks, a line break, and all blanks and
line breaks after it. -/
def joinLines? (s : Chars) : Option Chars :=
  match s.dropWhile isBlank with
  | '\n' :: rest => some (dropGap rest)
  | '\r' :: '\n' :: rest => some (dropGap rest)
  | _ => none

/-- Reads an escape after its backslash. -/
def escape? : Chars → Option (Char × Chars)
  | 'b' :: rest => some ('\x08', rest)
  | 't' :: rest => some ('\t', rest)
  | 'n' :: rest => some ('\n', rest)
  | 'f' :: rest => some ('\x0c', rest)
  | 'r' :: rest => some ('\r', rest)
  | 'e' :: rest => some ('\x1b', rest)
  | '"' :: rest => some ('"', rest)
  | '\\' :: rest => some ('\\', rest)
  | 'x' :: rest => (codePoint? (rest.take 2) 2).map (·, rest.drop 2)
  | 'u' :: rest => (codePoint? (rest.take 4) 4).map (·, rest.drop 4)
  | 'U' :: rest => (codePoint? (rest.take 8) 8).map (·, rest.drop 8)
  | _ => none

/-- Reads a string after its opening quotes, up to the closing ones. The fuel bounds the number
of characters. -/
def stringBody? (escapes lines : Bool) (closing : Chars) :
    Nat → Chars → Option (Chars × Chars)
  | 0, _ => none
  | fuel + 1, s =>
    if closing.isPrefixOf s then some ([], s.drop closing.length)
    else
      match s with
      | [] => none
      | '\\' :: rest =>
        if escapes then
          match (if lines then joinLines? rest else none) with
          | some rest' => stringBody? escapes lines closing fuel rest'
          | none => do
            let (c, rest') ← escape? rest
            let (cs, after) ← stringBody? escapes lines closing fuel rest'
            return (c :: cs, after)
        else do
          let (cs, after) ← stringBody? escapes lines closing fuel rest
          return ('\\' :: cs, after)
      | '\r' :: '\n' :: rest =>
        if lines then do
          let (cs, after) ← stringBody? escapes lines closing fuel rest
          return ('\n' :: cs, after)
        else none
      | c :: rest =>
        if isForbidden c && !(lines && c == '\n') then none
        else do
          let (cs, after) ← stringBody? escapes lines closing fuel rest
          return (c :: cs, after)

/-- Reads a string after its opening quotes. -/
def readStringBody (escapes lines : Bool) (closing : Chars) : Reader String := do
  if lines then discard acceptLineBreak
  let s ← get
  match stringBody? escapes lines closing (s.length + 1) s with
  | some (cs, rest) =>
    set rest
    return String.ofList cs
  | none => failure

/-- Reads a string on one line, if there is one. -/
def readLineString? : Reader (Option String) := do
  if ← accept ['"'] then return some (← readStringBody true false ['"'])
  if ← accept ['\''] then return some (← readStringBody false false ['\''])
  return none

/-- Reads a string after its three opening quotes. Of up to five quotes in a row at its end, the
last three close it. -/
def readBlockString (escapes : Bool) (quote : Char) : Reader String := do
  let body ← readStringBody escapes true [quote, quote, quote]
  let first ← accept [quote]
  let second ← accept [quote]
  return body.pushn quote (first.toNat + second.toNat)

/-- Reads a string of either kind, if there is one. -/
def readString? : Reader (Option String) := do
  if ← accept ['"', '"', '"'] then return some (← readBlockString true '"')
  if ← accept ['\'', '\'', '\''] then return some (← readBlockString false '\'')
  readLineString?

/-! ## Keys -/

/-- A character of a key without quotes. -/
def isKeyChar (c : Char) : Bool := c.isAlphanum || c == '_' || c == '-'

/-- Reads one part of a key. -/
def readKeyPart : Reader String := do
  match ← readLineString? with
  | some key => return key
  | none =>
    let key ← takeRun isKeyChar
    if key.isEmpty then failure
    return String.ofList key

/-- Reads the parts of a key after the first; the fuel bounds their number. -/
def readKeyRest : Nat → Reader (List String)
  | 0 => failure
  | fuel + 1 => do
    skipBlanks
    if ← accept ['.'] then
      skipBlanks
      let part ← readKeyPart
      return part :: (← readKeyRest fuel)
    else return []

/-- Reads a key: the parts before its last dot, and the last one. Blanks may stand around dots.
-/
def readKey : Reader (List String × String) := do
  let first ← readKeyPart
  let rest ← readKeyRest ((← get).length + 1)
  let parts := first :: rest
  return (parts.dropLast, parts.getLastD first)

/-! ## Integers and truth values -/

/-- The digits without their underscores, each of which has to stand between two digits. -/
def plainDigits? (base : Nat) : Chars → Option Chars
  | [] => none
  | [c] => if (digit? base c).isSome then some [c] else none
  | c :: '_' :: rest =>
    if (digit? base c).isSome then (plainDigits? base rest).map (c :: ·) else none
  | c :: rest =>
    if (digit? base c).isSome then (plainDigits? base rest).map (c :: ·) else none

/-- The number of digits with underscores between them. -/
def natural? (base : Nat) (s : Chars) : Option Nat := plainDigits? base s >>= ofDigits? base

/-- A decimal number without needless zeros in front. -/
def decimal? : Chars → Option Nat
  | ['0'] => some 0
  | '0' :: _ => none
  | s => natural? 10 s

/-- An integer, written in full. -/
def integer? : Chars → Option Int
  | '0' :: 'x' :: digits => (natural? 16 digits).map Int.ofNat
  | '0' :: 'o' :: digits => (natural? 8 digits).map Int.ofNat
  | '0' :: 'b' :: digits => (natural? 2 digits).map Int.ofNat
  | '+' :: s => (decimal? s).map Int.ofNat
  | '-' :: s => (decimal? s).map fun n => -Int.ofNat n
  | s => (decimal? s).map Int.ofNat

end BoundSql.Toml
