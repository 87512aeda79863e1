import BoundSql.Expression
import BoundSql.Proofs.Placeholders

/-!
# Literals in expressions

A string literal is read from its opening quote to the first quote that is not doubled and has no
backslash before it. Since a literal doubles the quotes and backslashes of its text, it is read as
just this text, and what follows it is left as it is, unless this starts with a quote.

The scan for placeholders knows no backslashes, but it leaves a literal as it entered it, since
quotes are doubled, and counts nothing in between. So expressions that are put together from clean
parts and any literals are clean, and a statement has as many placeholders with as without them.

## Main definitions

* `readLiteral` — the reader for string literals.
* `BuiltFrom` — expressions that the helpers make of given parts.
-/

namespace BoundSql.Expression

/-! ## Reading a literal -/

/-- What a backslash and the character behind it stand for. Before the wildcards of patterns the
backslash stays. -/
def escaped : Char → List Char
  | '0' => ['\x00']
  | 'b' => ['\x08']
  | 'n' => ['\n']
  | 'r' => ['\r']
  | 't' => ['\t']
  | 'Z' => ['\x1a']
  | '%' => ['\\', '%']
  | '_' => ['\\', '_']
  | c => [c]

/-- Reads what stands behind the opening quote: the text of the literal, and what follows the quote
that closes it. -/
def readText : List Char → Option (List Char × List Char)
  | [] => none
  | '\'' :: '\'' :: cs => (readText cs).map fun (text, rest) => ('\'' :: text, rest)
  | '\'' :: cs => some ([], cs)
  | '\\' :: c :: cs => (readText cs).map fun (text, rest) => (escaped c ++ text, rest)
  | c :: cs => (readText cs).map fun (text, rest) => (c :: text, rest)

/-- Reads a literal off the front. -/
def readLiteral : List Char → Option (List Char × List Char)
  | '\'' :: cs => readText cs
  | _ => none

/-- What a character is written as in a literal is read as this character. -/
theorem readText_quotedChar_append (c : Char) (cs : List Char) :
    readText (quotedChar c ++ cs) = (readText cs).map fun (text, rest) => (c :: text, rest) := by
  by_cases hquote : c = '\''
  · subst hquote
    simp [quotedChar, readText]
  · by_cases hslash : c = '\\'
    · subst hslash
      simp [quotedChar, readText, escaped]
    · simp [quotedChar, readText, hquote, hslash]

/-- The characters of a literal are read up to its closing quote, as long as this is not doubled by
what follows. -/
theorem readText_flatMap_quotedChar (text : List Char) {rest : List Char}
    (hrest : rest.head? ≠ some '\'') :
    readText (text.flatMap quotedChar ++ '\'' :: rest) = some (text, rest) := by
  induction text with
  | nil =>
    cases rest with
    | nil => rfl
    | cons d ds =>
      have hd : d ≠ '\'' := by simpa using hrest
      simp [readText, hd]
  | cons c cs ih =>
    rw [List.flatMap_cons, List.append_assoc, readText_quotedChar_append, ih, Option.map_some]

/-! ## The scan over a literal -/

/-- Inside a literal, the scan for placeholders stays inside over each character and counts nothing.
-/
theorem scan_quotedChar (c : Char) :
    quotedAfter true (quotedChar c) = true ∧ countPlaceholders true (quotedChar c) = 0 := by
  by_cases hquote : c = '\''
  · subst hquote
    exact ⟨rfl, rfl⟩
  · by_cases hslash : c = '\\' <;>
      simp [quotedChar, quotedAfter, countPlaceholders, hquote, hslash]

theorem scan_flatMap_quotedChar (text : List Char) :
    quotedAfter true (text.flatMap quotedChar) = true ∧
      countPlaceholders true (text.flatMap quotedChar) = 0 := by
  induction text with
  | nil => exact ⟨rfl, rfl⟩
  | cons c cs ih =>
    obtain ⟨hinside, hnone⟩ := scan_quotedChar c
    rw [List.flatMap_cons, quotedAfter_append, countPlaceholders_append, hinside, hnone]
    simpa using ih

theorem isClean_literal (text : String) : IsClean (literal text) := by
  obtain ⟨hinside, hnone⟩ := scan_flatMap_quotedChar text.toList
  rw [IsClean, literal, String.toList_ofList, literalChars, countPlaceholders_append,
    quotedAfter_append]
  simp [countPlaceholders, quotedAfter, hinside, hnone]

/-! ## Expressions -/

/-- What the helpers make of given parts and any literals, nested in any way. -/
inductive BuiltFrom (part : String → Prop) : String → Prop where
  | part {e : String} (h : part e) : BuiltFrom part e
  | literal (text : String) : BuiltFrom part (literal text)
  | trim {e : String} (h : BuiltFrom part e) : BuiltFrom part (trim e)
  | count {e : String} (h : BuiltFrom part e) : BuiltFrom part (count e)
  | dateFormat {e : String} (h : BuiltFrom part e) (format : String) :
      BuiltFrom part (dateFormat e format)
  | concat {es : List String} (h : ∀ e ∈ es, BuiltFrom part e) : BuiltFrom part (concat es)
  | concatWithSeparator (separator : String) {es : List String} (h : ∀ e ∈ es, BuiltFrom part e) :
      BuiltFrom part (concatWithSeparator separator es)
  | coalesce {es : List String} (h : ∀ e ∈ es, BuiltFrom part e) : BuiltFrom part (coalesce es)
  | aliased {e name : String} (h : BuiltFrom part e) (hname : BuiltFrom part name) :
      BuiltFrom part (aliased e name)

theorem isClean_call {function : String} (hfunction : IsClean function) {arguments : List String}
    (h : ∀ a ∈ arguments, IsClean a) : IsClean (call function arguments) := by
  have hopen : IsClean (function ++ "(") := hfunction.append (by decide)
  have hlist : IsClean (String.intercalate ", " arguments) := .intercalate (by decide) h
  exact (hopen.append hlist).append (by decide)

/-- The helpers keep texts clean. -/
theorem BuiltFrom.isClean {e : String} (h : BuiltFrom IsClean e) : IsClean e := by
  induction h with
  | part h => exact h
  | literal text => exact isClean_literal text
  | trim _ ih | count _ ih => exact isClean_call (by decide) (by simpa using ih)
  | dateFormat _ format ih =>
    exact isClean_call (by decide) (by simpa using ⟨ih, isClean_literal format⟩)
  | concat _ ih | coalesce _ ih => exact isClean_call (by decide) ih
  | concatWithSeparator separator _ ih =>
    exact isClean_call (by decide) (List.forall_mem_cons.mpr ⟨isClean_literal separator, ih⟩)
  | aliased _ _ ih ihname =>
    have has : IsClean " AS " := by decide
    exact (ih.append has).append ihname

/-- A clean text adds no placeholder to a statement in which it stands outside of quotes. -/
theorem placeholderCount_between {e before : String} (he : IsClean e)
    (hbefore : quotedAfter false before.toList = false) (after : String) (args : List Value) :
    BuiltQuery.placeholderCount ⟨before ++ e ++ after, args⟩ =
      BuiltQuery.placeholderCount ⟨before ++ after, args⟩ := by
  simp only [BuiltQuery.placeholderCount, String.toList_append, countPlaceholders_append,
    quotedAfter_append, hbefore, he.1, he.2, Nat.add_zero]

/-- A literal is read as its text, whatever follows it other than a quote, and is followed by just
that. An expression built from clean parts closes its quotes and adds no placeholder to a statement,
whatever its literals hold. -/
theorem literals_read_back_and_hide :
    (∀ text rest : String, rest.toList.head? ≠ some '\'' →
      readLiteral (literal text ++ rest).toList = some (text.toList, rest.toList)) ∧
    ∀ e, BuiltFrom IsClean e → quotedAfter false e.toList = false ∧
      ∀ before after args, quotedAfter false before.toList = false →
        BuiltQuery.placeholderCount ⟨before ++ e ++ after, args⟩ =
          BuiltQuery.placeholderCount ⟨before ++ after, args⟩ := by
  constructor
  · intro text rest hrest
    rw [String.toList_append, literal, String.toList_ofList, literalChars, List.cons_append,
      List.cons_append, List.append_assoc]
    exact readText_flatMap_quotedChar text.toList hrest
  · intro e he
    have hclean := he.isClean
    refine ⟨hclean.2, ?_⟩
    intro before after args hbefore
    exact placeholderCount_between hclean hbefore after args

/-- Quotes, backslashes and question marks at the end of a text end nothing and bind nothing. -/
theorem literals_read_back_and_hide_question_marks :
    let text := "it's \\'?\\"
    let e := aliased (concatWithSeparator "?'" [trim (literal text), coalesce ["a", "'?'"]]) "n"
    readLiteral (literal text ++ ", ?").toList = some (text.toList, ", ?".toList) ∧
      BuiltFrom IsClean e ∧
      BuiltQuery.placeholderCount ⟨"SELECT '', ?, " ++ e ++ " FROM t WHERE a = ?", []⟩ = 2 := by
  intro text e
  have he : BuiltFrom IsClean e := by
    have hparts : ∀ p ∈ ["a", "'?'"], BuiltFrom IsClean p := by
      intro p hp
      obtain rfl | rfl : p = "a" ∨ p = "'?'" := by simpa using hp
      all_goals exact .part (by decide)
    have harguments : ∀ p ∈ [trim (literal text), coalesce ["a", "'?'"]], BuiltFrom IsClean p := by
      intro p hp
      obtain rfl | rfl : p = trim (literal text) ∨ p = coalesce ["a", "'?'"] := by simpa using hp
      · exact .trim (.literal text)
      · exact .coalesce hparts
    exact .aliased (.concatWithSeparator _ harguments) (.part (by decide))
  obtain ⟨hreads, hhides⟩ := literals_read_back_and_hide
  refine ⟨hreads _ _ (by decide), he, ?_⟩
  rw [(hhides e he).2 _ _ _ (by decide)]
  decide

end BoundSql.Expression
