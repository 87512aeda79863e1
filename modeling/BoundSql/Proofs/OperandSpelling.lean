import BoundSql.Operand
import Mathlib.Data.List.Forall2

/-!
# The spellings of operands

A text is read as an operand exactly if its words, in upper case, are a spelling of this operand.
Each operand is spelled by the words of its SQL, and a symbol with a quantifier also by one word. So
nothing but the words matters, and of these neither the blanks between them nor the case of their
letters; and the SQL of an operand is read as this operand.

## Main definitions

* `Text.SpacedOut` — the words of a text with the blanks between and around them.
* `Operand.spellings` — what an operand can be written as.
-/

namespace BoundSql

/-! ## Words -/

namespace Text

/-- Characters that are not blank, of which there is at least one. -/
def IsWord (w : List Char) : Prop := w ≠ [] ∧ ∀ c ∈ w, isBlank c = false

/-- The text holds the words, in this order, and blanks. A blank or the end follows each word, so no
word is a part of a longer one. -/
inductive SpacedOut : List (List Char) → List Char → Prop where
  | nil : SpacedOut [] []
  | blank {c : Char} {ws : List (List Char)} {s : List Char} (hc : isBlank c = true)
      (hs : SpacedOut ws s) : SpacedOut ws (c :: s)
  | word {w : List Char} {ws : List (List Char)} {s : List Char} (hw : IsWord w)
      (hend : s.head?.all isBlank = true) (hs : SpacedOut ws s) : SpacedOut (w :: ws) (w ++ s)

theorem isWord_cons_iff {c : Char} {w : List Char} :
    IsWord (c :: w) ↔ isBlank c = false ∧ ∀ d ∈ w, isBlank d = false := by
  simp [IsWord]

theorem words_append {w s : List Char} (hw : IsWord w) (hend : s.head?.all isBlank = true) :
    words (w ++ s) = w :: words s := by
  induction w with
  | nil => exact absurd rfl hw.1
  | cons c cs ih =>
    obtain ⟨hc, hcs⟩ := isWord_cons_iff.mp hw
    cases cs with
    | nil => simp [words, hc, hend]
    | cons d ds =>
      have hd : isBlank d = false := hcs d List.mem_cons_self
      have htail := ih ⟨by simp, hcs⟩
      rw [List.cons_append] at htail
      simp [words.eq_2 c, hc, hd, htail]

theorem spacedOut_words (s : List Char) : SpacedOut (words s) s := by
  induction s with
  | nil => exact .nil
  | cons c cs ih =>
    rw [words]
    by_cases hc : isBlank c = true
    · rw [if_pos hc]
      exact .blank hc ih
    · rw [if_neg hc]
      rw [Bool.not_eq_true] at hc
      by_cases hend : cs.head?.all isBlank = true
      · rw [if_pos hend]
        exact .word (isWord_cons_iff.mpr ⟨hc, by simp⟩) hend ih
      · rw [if_neg hend]
        -- The word that starts with the next character is longer by this one.
        generalize words cs = vs at ih ⊢
        cases ih with
        | nil => simp at hend
        | blank hd _ => simp [hd] at hend
        | @word w ws s hw hs hrest =>
          exact .word (isWord_cons_iff.mpr ⟨hc, hw.2⟩) hs hrest

/-- The words of a text are the only ones that it can be spaced out of. -/
theorem spacedOut_iff {ws : List (List Char)} {s : List Char} :
    SpacedOut ws s ↔ ws = words s := by
  constructor
  · intro h
    induction h with
    | nil => rfl
    | blank hc hs ih => rw [words_cons_blank hc, ih]
    | word hw hend hs ih => rw [words_append hw hend, ih]
  · rintro rfl
    exact spacedOut_words s

/-- The same character, or the same ASCII letter in the other case. -/
def SameLetter (c d : Char) : Prop := c.toUpper = d.toUpper

instance : DecidableRel SameLetter := fun c d => inferInstanceAs (Decidable (c.toUpper = d.toUpper))

/-- The same words but for the case of their letters. -/
def SameWords : List (List Char) → List (List Char) → Prop :=
  List.Forall₂ (List.Forall₂ SameLetter)

theorem map_eq_map_of_forall₂ {α β : Type} {f : α → β} {as bs : List α}
    (h : List.Forall₂ (fun a b => f a = f b) as bs) : as.map f = bs.map f := by
  rwa [← List.forall₂_eq_eq_eq, List.forall₂_map_left_iff, List.forall₂_map_right_iff]

end Text

/-! ## Spellings -/

theorem Symbol.parse?_eq_some_iff {word : String} {s : Symbol} :
    parse? word = some s ↔ word = s.sql := by
  constructor
  · intro h
    unfold parse? at h
    split at h <;> cases h <;> rfl
  · rintro rfl
    exact parse?_sql s

theorem Quantifier.parse?_eq_some_iff {word : String} {q : Quantifier} :
    parse? word = Option.some q ↔ word = q.sql := by
  constructor
  · intro h
    unfold parse? at h
    split at h <;> cases h <;> rfl
  · rintro rfl
    exact parse?_sql q

namespace Operand

/-- What an operand can be written as, word by word in upper case. -/
def spellings : Operand → List (List String)
  | symbol s => [[s.sql]]
  | like false => [["LIKE"]]
  | like true => [["NOT", "LIKE"]]
  | regexp false => [["REGEXP"]]
  | regexp true => [["NOT", "REGEXP"]]
  | is false => [["IS"]]
  | is true => [["IS", "NOT"]]
  | inList false => [["IN"]]
  | inList true => [["NOT", "IN"]]
  | between false => [["BETWEEN"]]
  | between true => [["NOT", "BETWEEN"]]
  | quantified s q => [[s.sql, q.sql], [s.sql ++ q.sql]]

/-- A word in upper case. -/
def upper (word : List Char) : String := String.ofList (word.map Char.toUpper)

/-- A symbol and a quantifier are read one from each text. -/
theorem quantified_eq_some_iff {word quantifier : String} {o : Operand} :
    (do return quantified (← Symbol.parse? word) (← Quantifier.parse? quantifier)) = some o ↔
      ∃ s q, word = s.sql ∧ quantifier = q.sql ∧ o = quantified s q := by
  simp only [Option.bind_eq_bind, Option.bind_eq_some_iff, Option.pure_def, Option.some.injEq,
    Symbol.parse?_eq_some_iff, Quantifier.parse?_eq_some_iff]
  constructor
  · rintro ⟨s, hs, q, hq, rfl⟩
    exact ⟨s, q, hs, hq, rfl⟩
  · rintro ⟨s, q, hs, hq, rfl⟩
    exact ⟨s, hs, q, hq, rfl⟩

theorem mem_spellings_of_ofGluedWord? {word : String} {o : Operand}
    (h : ofGluedWord? word = some o) : [word] ∈ o.spellings := by
  have hword : word = String.ofList (word.toList.takeWhile Symbol.isSign) ++
      String.ofList (word.toList.dropWhile Symbol.isSign) := by
    rw [← String.ofList_append, List.takeWhile_append_dropWhile, String.ofList_toList]
  rw [ofGluedWord?] at h
  cases hrest : word.toList.dropWhile Symbol.isSign with
  | nil =>
    simp only [hrest, Option.map_eq_some_iff, Symbol.parse?_eq_some_iff] at h
    obtain ⟨s, hs, rfl⟩ := h
    rw [hrest, hs] at hword
    simp [spellings, hword]
  | cons c cs =>
    simp only [hrest] at h
    obtain ⟨s, q, hs, hq, rfl⟩ := quantified_eq_some_iff.mp h
    rw [hrest, hs, hq] at hword
    simp [spellings, hword]

theorem mem_spellings_of_ofWords? {ws : List String} {o : Operand} (h : ofWords? ws = some o) :
    ws ∈ o.spellings := by
  unfold ofWords? at h
  split at h
  -- Behind the rows of the word operands come one word, two words and anything else.
  case h_11 word => exact mem_spellings_of_ofGluedWord? h
  case h_12 word quantifier =>
    obtain ⟨s, q, rfl, rfl, rfl⟩ := quantified_eq_some_iff.mp h
    simp [spellings]
  case h_13 => cases h
  all_goals
    cases h
    simp [spellings]

theorem ofWords?_of_mem_spellings {ws : List String} {o : Operand} (h : ws ∈ o.spellings) :
    ofWords? ws = some o := by
  rcases o with s | negated | negated | negated | negated | negated | ⟨s, q⟩
  case symbol =>
    obtain rfl : ws = [s.sql] := by simpa [spellings] using h
    cases s <;> rfl
  case quantified =>
    obtain rfl | rfl : ws = [s.sql, q.sql] ∨ ws = [s.sql ++ q.sql] := by simpa [spellings] using h
    all_goals cases s <;> cases q <;> rfl
  all_goals
    cases negated
    all_goals
      obtain rfl := List.mem_singleton.mp h
      rfl

/-- Words make an operand exactly if they are a spelling of it. -/
theorem ofWords?_eq_some_iff {ws : List String} {o : Operand} :
    ofWords? ws = some o ↔ ws ∈ o.spellings :=
  ⟨mem_spellings_of_ofWords?, ofWords?_of_mem_spellings⟩

/-! ## Reading -/

theorem upperWords_eq {text : String} {ws : List (List Char)}
    (h : Text.SpacedOut ws text.toList) : upperWords text = ws.map upper := by
  rw [upperWords, ← Text.spacedOut_iff.mp h]
  rfl

theorem map_upper_eq {ws vs : List (List Char)} (h : Text.SameWords ws vs) :
    ws.map upper = vs.map upper := by
  apply Text.map_eq_map_of_forall₂
  refine h.imp fun w v hwv => ?_
  rw [upper, upper, Text.map_eq_map_of_forall₂ hwv]

theorem parse_eq_ok_iff {text : String} {o : Operand} :
    parse text = .ok o ↔ upperWords text ∈ o.spellings := by
  rw [parse, ← ofWords?_eq_some_iff]
  cases ofWords? (upperWords text) <;> simp

theorem parse_eq_error {text : String} (h : ∀ o : Operand, upperWords text ∉ o.spellings) :
    parse text = .error (.invalidOperand text) := by
  rw [parse]
  cases hwords : ofWords? (upperWords text) with
  | none => rfl
  | some o => exact absurd (ofWords?_eq_some_iff.mp hwords) (h o)

/-- Whether a text is an operand, and which, depends on its words in upper case. -/
theorem toOption_parse (text : String) : (parse text).toOption = ofWords? (upperWords text) := by
  rw [parse]
  cases ofWords? (upperWords text) <;> rfl

/-- The SQL of an operand is one of its spellings. -/
theorem parse_sql (o : Operand) : parse o.sql = .ok o := by
  rcases o with s | negated | negated | negated | negated | negated | ⟨s, q⟩
  case symbol => cases s <;> rfl
  case quantified => cases s <;> cases q <;> rfl
  all_goals cases negated <;> rfl

/-- A text has its words, and it is read as the operand of which they are a spelling in upper case.
If they are no spelling, the text is refused as it was given. Other blanks and other cases of letters
make no difference, and the SQL of what was read is read as the same. -/
theorem parse_reads_spellings (text : String) :
    ∃ words, (∀ ws, Text.SpacedOut ws text.toList ↔ ws = words) ∧
      (∀ o, parse text = .ok o ↔ words.map upper ∈ o.spellings) ∧
      ((∀ o : Operand, words.map upper ∉ o.spellings) →
        parse text = .error (.invalidOperand text)) ∧
      (∀ other ws, Text.SpacedOut ws other.toList → Text.SameWords words ws →
        (parse other).toOption = (parse text).toOption) ∧
      ∀ o, parse text = .ok o → parse o.sql = .ok o := by
  have hupper := upperWords_eq (Text.spacedOut_words text.toList)
  refine ⟨Text.words text.toList, fun ws => Text.spacedOut_iff, ?_, ?_, ?_, ?_⟩
  · intro o
    rw [parse_eq_ok_iff, hupper]
  · intro hnone
    apply parse_eq_error
    rwa [hupper]
  · intro other ws hws hsame
    rw [toOption_parse, toOption_parse, upperWords_eq hws, hupper, map_upper_eq hsame]
  · intro o _
    exact parse_sql o

/-- A quantifier is read behind its symbol in any case, also without a blank, and not a second time.
-/
theorem parse_reads_one_quantifier :
    let text := "\t>=aNy "
    let other := ">=\u3000any"
    (parse text = .ok (quantified .greaterEqual .any) ∧
      parse (quantified .greaterEqual .any).sql = .ok (quantified .greaterEqual .any)) ∧
    (Text.SameWords (Text.words ">=ANY".toList) (Text.words text.toList) ∧
      (parse text).toOption = (parse ">=ANY").toOption) ∧
    parse other = .ok (quantified .greaterEqual .any) ∧
    parse "= ALL all" = .error (.invalidOperand "= ALL all") := by
  intro text other
  obtain ⟨glued, hglued, hreads, -, -, hagain⟩ := parse_reads_spellings text
  obtain ⟨apart, hapart, hreadsApart, -⟩ := parse_reads_spellings other
  obtain ⟨plain, hplain, -, -, hsame, -⟩ := parse_reads_spellings ">=ANY"
  obtain ⟨three, hthree, -, hrefuses, -⟩ := parse_reads_spellings "= ALL all"
  obtain rfl := (hglued _).mp (Text.spacedOut_words _)
  obtain rfl := (hapart _).mp (Text.spacedOut_words _)
  obtain rfl := (hplain _).mp (Text.spacedOut_words _)
  obtain rfl := (hthree _).mp (Text.spacedOut_words _)
  have hparse : parse text = .ok (quantified .greaterEqual .any) := (hreads _).mpr (by decide)
  have hcase : Text.SameWords (Text.words ">=ANY".toList) (Text.words text.toList) := by
    rw [Text.SameWords]
    decide
  refine ⟨⟨hparse, hagain _ hparse⟩, ⟨hcase, ?_⟩, (hreadsApart _).mpr (by decide), ?_⟩
  · exact hsame _ _ (Text.spacedOut_words _) hcase
  · apply hrefuses
    have hwords : (Text.words "= ALL all".toList).map upper = ["=", "ALL", "ALL"] := by decide
    rw [hwords]
    intro o
    cases o with
    | symbol s => simp [spellings]
    | quantified s q => simp [spellings]
    | like negated | regexp negated | is negated | inList negated | between negated =>
      cases negated <;> simp [spellings]

end Operand

end BoundSql
