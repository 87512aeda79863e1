import BoundSql.Error
import BoundSql.Text.Blank

/-!
# Operands of conditions

An operand is what stands between the two sides of a condition: one of eight comparison symbols,
a word comparison such as `NOT LIKE`, a membership or range test, or a symbol with a quantifier
that compares with every or some row of a sub-query.

`Operand.parse` reads a text by its words. Case does not matter, nor how much of which blanks
stands around and between the words; a quantifier may also follow its symbol without a blank.
-/

namespace BoundSql

/-- A comparison written as a symbol. `bangEqual` and `unequal` are two spellings of one test.
-/
inductive Symbol where
  | equal
  | bangEqual
  | unequal
  | less
  | lessEqual
  | greater
  | greaterEqual
  | nullSafeEqual
  deriving DecidableEq, Repr

namespace Symbol

/-- The symbol in SQL. -/
def sql : Symbol → String
  | equal => "="
  | bangEqual => "!="
  | unequal => "<>"
  | less => "<"
  | lessEqual => "<="
  | greater => ">"
  | greaterEqual => ">="
  | nullSafeEqual => "<=>"

/-- The symbol with the given spelling. -/
def parse? : String → Option Symbol
  | "=" => some equal
  | "!=" => some bangEqual
  | "<>" => some unequal
  | "<" => some less
  | "<=" => some lessEqual
  | ">" => some greater
  | ">=" => some greaterEqual
  | "<=>" => some nullSafeEqual
  | _ => none

@[simp] theorem parse?_sql (s : Symbol) : parse? s.sql = some s := by cases s <;> rfl

/-- The characters that symbols are made of. -/
def isSign (c : Char) : Bool := c == '=' || c == '!' || c == '<' || c == '>'

end Symbol

/-- How many rows of a sub-query a comparison has to hold for. `some` and `any` are two
spellings of one test. -/
inductive Quantifier where
  | all
  | any
  | some
  deriving DecidableEq, Repr

namespace Quantifier

/-- The quantifier in SQL. -/
def sql : Quantifier → String
  | all => "ALL"
  | any => "ANY"
  | some => "SOME"

/-- The quantifier with the given upper-case spelling. -/
def parse? : String → Option Quantifier
  | "ALL" => Option.some all
  | "ANY" => Option.some any
  | "SOME" => Option.some some
  | _ => none

@[simp] theorem parse?_sql (q : Quantifier) : parse? q.sql = Option.some q := by cases q <;> rfl

end Quantifier

/-- What stands between the sides of a condition. -/
inductive Operand where
  | symbol (symbol : Symbol)
  | like (negated : Bool)
  | regexp (negated : Bool)
  | is (negated : Bool)
  | inList (negated : Bool)
  | between (negated : Bool)
  | quantified (symbol : Symbol) (quantifier : Quantifier)
  deriving DecidableEq, Repr

namespace Operand

/-- The operand in SQL. -/
def sql : Operand → String
  | symbol s => s.sql
  | like false => "LIKE"
  | like true => "NOT LIKE"
  | regexp false => "REGEXP"
  | regexp true => "NOT REGEXP"
  | is false => "IS"
  | is true => "IS NOT"
  | inList false => "IN"
  | inList true => "NOT IN"
  | between false => "BETWEEN"
  | between true => "NOT BETWEEN"
  | quantified s q => s.sql ++ " " ++ q.sql

/-- A word that is a symbol, or a symbol and a quantifier without a blank between them. -/
def ofGluedWord? (word : String) : Option Operand :=
  let signs := String.ofList (word.toList.takeWhile Symbol.isSign)
  match word.toList.dropWhile Symbol.isSign with
  | [] => (Symbol.parse? signs).map symbol
  | rest => do return quantified (← Symbol.parse? signs) (← Quantifier.parse? (String.ofList rest))

/-- The operand that upper-case words spell. -/
def ofWords? : List String → Option Operand
  | ["LIKE"] => some (like false)
  | ["NOT", "LIKE"] => some (like true)
  | ["REGEXP"] => some (regexp false)
  | ["NOT", "REGEXP"] => some (regexp true)
  | ["IS"] => some (is false)
  | ["IS", "NOT"] => some (is true)
  | ["IN"] => some (inList false)
  | ["NOT", "IN"] => some (inList true)
  | ["BETWEEN"] => some (between false)
  | ["NOT", "BETWEEN"] => some (between true)
  | [word] => ofGluedWord? word
  | [word, quantifier] => do
    return quantified (← Symbol.parse? word) (← Quantifier.parse? quantifier)
  | _ => none

/-- The words of a text with their ASCII letters in upper case. -/
def upperWords (text : String) : List String :=
  (Text.words text.toList).map fun word => String.ofList (word.map Char.toUpper)

/-- Reads an operand; any other text is refused as it was given. -/
def parse (text : String) : Except QueryError Operand :=
  match ofWords? (upperWords text) with
  | some operand => .ok operand
  | none => .error (.invalidOperand text)

/-- A plain symbol, as a join compares by. -/
def isSymbol : Operand → Bool
  | symbol _ => true
  | _ => false

example : parse " not   like " = .ok (like true) := by rfl
example : parse ">any" = .ok (quantified .greater .any) := by rfl
example : parse "= =" = .error (.invalidOperand "= =") := by rfl

end Operand

end BoundSql
