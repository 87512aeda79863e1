import BoundSql.StatementKind
import Mathlib.Data.List.Infix

/-!
# Comments before a statement

What is skipped of a block comment is everything up to the first `*/` behind its opening slash. If
the text of the comment does not hold `*/`, this is its own end, and the kind of the statement
behind it is what it would be without the comment, whatever stars, slashes and keywords the text
has. The one exception is a text that starts with a slash. Together with the star that opened the
comment it makes an end, and the rest of the text is read as if it belonged to the statement.

Both cases are in `StatementKind.ofSql_blockComment`.
-/

namespace BoundSql.StatementKind

/-- A block comment with the given text. -/
def blockComment (text : String) : String := "/*" ++ text ++ "*/"

/-- The end of a block comment stands somewhere in the text. -/
def HoldsEnd (text : List Char) : Prop := ['*', '/'] <:+: text

instance : DecidablePred HoldsEnd := fun text => inferInstanceAs (Decidable (['*', '/'] <:+: text))

/-! ## Skipping a comment -/

theorem holdsEnd_cons (c : Char) (cs : List Char) :
    HoldsEnd (c :: cs) ↔ (c = '*' ∧ cs.head? = some '/') ∨ HoldsEnd cs := by
  rw [HoldsEnd, List.infix_cons_iff, List.cons_prefix_cons]
  cases cs with
  | nil => simp [HoldsEnd]
  | cons d ds => simp [HoldsEnd, List.cons_prefix_cons, eq_comm]

/-- The reader inside a comment stops behind the first end that it meets. -/
theorem skip_block_append {text : List Char} (h : ¬ HoldsEnd text) (rest : List Char) :
    skip .block (text ++ '*' :: '/' :: rest) = skip .between rest := by
  induction text with
  | nil => simp [skip]
  | cons c cs ih =>
    rw [holdsEnd_cons, not_or] at h
    obtain ⟨hhead, hcs⟩ := h
    -- The star of the end itself may stand behind the last character, but no slash can.
    have hgoes : ¬ (c = '*' ∧ (cs ++ '*' :: '/' :: rest).head? = some '/') := by
      intro hc
      apply hhead
      cases cs with
      | nil => simp at hc
      | cons d ds => simpa using hc
    rw [List.cons_append, skip, if_neg hgoes]
    exact ih hcs

/-- The search for the end starts at the star that opens the comment. -/
theorem body_slash_star (cs : List Char) : body ('/' :: '*' :: cs) = skip .block ('*' :: cs) := by
  have hblank : Text.isBlank '/' = false := by decide
  simp [body, skip, hblank]

theorem body_comment {text : List Char} (h : ¬ HoldsEnd ('*' :: text)) (rest : List Char) :
    body ('/' :: '*' :: (text ++ '*' :: '/' :: rest)) = body rest := by
  rw [body_slash_star, ← List.cons_append, skip_block_append h]
  rfl

/-- A slash behind the opening star is taken for the end. -/
theorem body_comment_of_slash (cs : List Char) : body ('/' :: '*' :: '/' :: cs) = body cs := by
  rw [body_slash_star]
  simp [body, skip]

/-! ## The kind of what follows -/

/-- The kind is that of what is left after skipping. -/
theorem ofSql_congr {sql other : String} (h : body sql.toList = body other.toList) :
    ofSql sql = ofSql other := by
  rw [ofSql, ofSql, h]

/-- A block comment whose text does not hold `*/` is skipped as a whole, unless its text starts
with a slash: then what follows the slash is read as the statement. -/
theorem ofSql_blockComment {text : String} (h : ¬ HoldsEnd text.toList) (rest : String) :
    (text.toList.head? ≠ some '/' → ofSql (blockComment text ++ rest) = ofSql rest) ∧
      ∀ tail, text = "/" ++ tail →
        ofSql (blockComment text ++ rest) = ofSql (tail ++ "*/" ++ rest) := by
  have hopen : "/*".toList = ['/', '*'] := rfl
  have hclose : "*/".toList = ['*', '/'] := rfl
  have hslash : "/".toList = ['/'] := rfl
  constructor
  · intro hhead
    have htext : ¬ HoldsEnd ('*' :: text.toList) := by
      rw [holdsEnd_cons]
      tauto
    apply ofSql_congr
    simpa [blockComment, hopen, hclose] using body_comment htext rest.toList
  · rintro tail rfl
    apply ofSql_congr
    simpa [blockComment, hopen, hclose, hslash] using
      body_comment_of_slash (tail ++ "*/" ++ rest).toList

/-- Neither stars at both ends of a comment nor the keyword and the comment start in it show, while
a comment that starts with a slash hides the statement behind it. -/
theorem ofSql_blockComment_between_stars :
    (¬ HoldsEnd "* DELETE /* -- **".toList ∧
      ofSql (blockComment "* DELETE /* -- **" ++ "(select 1)") = select) ∧
    ¬ HoldsEnd "/ hint ".toList ∧ ofSql (blockComment "/ hint " ++ "SELECT 1") = other := by
  have hstars : ¬ HoldsEnd "* DELETE /* -- **".toList := by decide
  have hslash : ¬ HoldsEnd "/ hint ".toList := by decide
  refine ⟨⟨hstars, ?_⟩, hslash, ?_⟩
  · rw [(ofSql_blockComment hstars _).1 (by decide)]
    rfl
  · rw [(ofSql_blockComment hslash _).2 " hint " rfl]
    rfl

/-- The whole of the comment `/*/*/` is not skipped: its last two characters are taken for the
statement. -/
theorem ofSql_comment_of_one_slash :
    ¬ HoldsEnd "/".toList ∧ ofSql (blockComment "/" ++ "SELECT 1") = other ∧
      ofSql "SELECT 1" = select :=
  ⟨by decide, rfl, rfl⟩

end BoundSql.StatementKind
