import BoundSql.Proofs.Faults
import BoundSql.Proofs.Skipping

/-!
# The kind that a finished statement shows

A query knows the kind of its statement, and the text of the finished statement shows it: the text
starts with the name of the kind and a blank, and the reader of leading keywords finds the name
there, in any case of its letters, however many blanks, parentheses and line comments are put in
front (`Query.build_shows_kind`).

## Main definitions

* `StatementKind.Leader` — an item that may be put in front of a statement.
-/

namespace BoundSql

namespace StatementKind

/-! ## What is put in front of a statement -/

/-- An item in front of a statement. The text of a comment does not end its line. -/
inductive Leader where
  | blank (c : Char) (h : Text.isBlank c = true)
  | opening
  /-- A comment behind `--`. -/
  | dashes (text : String) (h : '\n' ∉ text.toList)
  /-- A comment behind `#`. -/
  | hash (text : String) (h : '\n' ∉ text.toList)

namespace Leader

def sql : Leader → String
  | blank c _ => String.singleton c
  | opening => "("
  | dashes text _ => "--" ++ text ++ "\n"
  | hash text _ => "#" ++ text ++ "\n"

/-- A text behind some items. -/
def inFrontOf (sql : String) : List Leader → String
  | [] => sql
  | l :: ls => l.sql ++ inFrontOf sql ls

end Leader

/-- The reader inside a line comment stops behind the first line break. -/
theorem skip_line_append {text : List Char} (h : '\n' ∉ text) (rest : List Char) :
    skip .line (text ++ '\n' :: rest) = body rest := by
  induction text with
  | nil => simp [skip, body]
  | cons c cs ih =>
    have hc : c ≠ '\n' := fun hc => h (hc ▸ List.mem_cons_self)
    have hcs : '\n' ∉ cs := fun hcs => h (List.mem_cons_of_mem c hcs)
    rw [List.cons_append, skip, if_neg hc]
    exact ih hcs

theorem body_leader_append (l : Leader) (s : List Char) : body (l.sql.toList ++ s) = body s := by
  cases l with
  | blank c h => simp [Leader.sql, body, skip, h]
  | opening => simp [Leader.sql, body, skip]
  | dashes text h =>
    have htext :
        (Leader.dashes text h).sql.toList ++ s = '-' :: '-' :: (text.toList ++ '\n' :: s) := by
      simp [Leader.sql]
    have hblank : Text.isBlank '-' = false := by decide
    rw [htext, ← skip_line_append h s]
    simp [body, skip, hblank]
  | hash text h =>
    have htext : (Leader.hash text h).sql.toList ++ s = '#' :: (text.toList ++ '\n' :: s) := by
      simp [Leader.sql]
    have hblank : Text.isBlank '#' = false := by decide
    rw [htext, ← skip_line_append h s]
    simp [body, skip, hblank]

theorem body_inFrontOf (sql : String) (leaders : List Leader) :
    body (Leader.inFrontOf sql leaders).toList = body sql.toList := by
  induction leaders with
  | nil => rfl
  | cons l ls ih => rw [Leader.inFrontOf, String.toList_append, body_leader_append, ih]

/-! ## Reading a keyword -/

theorem afterKeyword?_append (word rest : List Char) :
    afterKeyword? (word.map Char.toUpper) (word ++ rest) = some rest := by
  induction word with
  | nil => rfl
  | cons c cs ih => rw [List.map_cons, List.cons_append, afterKeyword?, if_pos rfl, ih]

theorem toUpper_eq_iff {word keyword : String} :
    word.toUpper = keyword ↔ word.toList.map Char.toUpper = keyword.toList := by
  rw [← String.toList_inj, String.toUpper, String.toList_map]

theorem toUpper_name (kind : StatementKind) : kind.name.toUpper = kind.name :=
  toUpper_eq_iff.mpr (by cases kind <;> decide)

/-- A keyword in any case is found if what follows it does not continue the word. -/
theorem startsWith_toUpper {word : String} {rest : List Char}
    (h : rest.head?.any isWordChar = false) :
    startsWith word.toUpper (word.toList ++ rest) = true := by
  rw [startsWith, ← toUpper_eq_iff.mp rfl, afterKeyword?_append, Option.any_some, h]
  rfl

/-- A keyword is not found where the first letter is another. -/
theorem startsWith_eq_false {keyword : String} {c : Char} (hempty : keyword.toList ≠ [])
    (h : keyword.toList.head? ≠ some c.toUpper) (cs : List Char) :
    startsWith keyword (c :: cs) = false := by
  obtain ⟨k, ks, hkeyword⟩ := List.exists_cons_of_ne_nil hempty
  rw [hkeyword, List.head?_cons] at h
  have hk : c.toUpper ≠ k := fun hk => h (congrArg some hk.symm)
  rw [startsWith, hkeyword, afterKeyword?, if_neg hk]
  rfl

/-- Only letters have letters in upper case. -/
theorem letter_of_toUpper {c : Char} (h : 'A' ≤ c.toUpper ∧ c.toUpper ≤ 'Z') :
    ('A' ≤ c ∧ c ≤ 'Z') ∨ ('a' ≤ c ∧ c ≤ 'z') := by
  by_cases hlower : 'a' ≤ c ∧ c ≤ 'z'
  · exact .inr hlower
  · have hsame : c.toUpper = c := dif_neg hlower
    rw [hsame] at h
    exact .inl h

theorem not_startsSkippable_of_letter {c : Char} (h : ('A' ≤ c ∧ c ≤ 'Z') ∨ ('a' ≤ c ∧ c ≤ 'z'))
    (cs : List Char) : ¬ StartsSkippable (c :: cs) := by
  have hcode : (65 ≤ c.toNat ∧ c.toNat ≤ 90) ∨ (97 ≤ c.toNat ∧ c.toNat ≤ 122) := h
  have hblank : Text.isBlank c = false := by
    simp only [Text.isBlank, Bool.or_eq_false_iff, Bool.and_eq_false_iff, decide_eq_false_iff_not,
      beq_eq_false_iff_ne]
    omega
  rw [startsSkippable_cons, hblank]
  rintro (h | rfl | rfl | ⟨rfl, -⟩ | ⟨rfl, -⟩)
  · cases h
  all_goals revert hcode; decide

/-- The name of a kind, in any case of its letters, shows the kind. -/
theorem ofSql_name_append {kind : StatementKind} (hkind : kind ≠ .other) {word : String}
    (hword : word.toUpper = kind.name) {tail : String}
    (htail : tail.toList.head?.any isWordChar = false) : ofSql (word ++ tail) = kind := by
  have hfound : startsWith kind.name (word ++ tail).toList = true := by
    rw [← hword, String.toList_append]
    exact startsWith_toUpper htail
  have hname := toUpper_eq_iff.mp hword
  obtain ⟨c, cs, hcs, hc⟩ : ∃ c cs, (word ++ tail).toList = c :: cs ∧
      some c.toUpper = kind.name.toList.head? := by
    rw [← hname, String.toList_append]
    cases hw : word.toList with
    | nil =>
      rw [hw] at hname
      cases kind <;> cases hname
    | cons c cs => exact ⟨c, cs ++ tail.toList, rfl, rfl⟩
  have hletter : ('A' ≤ c ∧ c ≤ 'Z') ∨ ('a' ≤ c ∧ c ≤ 'z') := by
    apply letter_of_toUpper
    cases kind <;> obtain hc := Option.some.inj hc <;> rw [hc] <;> decide
  have hbody : body (c :: cs) = c :: cs := body_eq_self (not_startsSkippable_of_letter hletter cs)
  -- The names differ in their first letters, so no earlier keyword is found.
  have hother {keyword : String} (hempty : keyword.toList ≠ [])
      (h : keyword.toList.head? ≠ kind.name.toList.head?) :
      startsWith keyword (c :: cs) = false := startsWith_eq_false hempty (hc ▸ h) cs
  have hselect (h : kind ≠ .select) : startsWith "SELECT" (c :: cs) = false :=
    hother (by decide) (by cases kind <;> first | decide | exact absurd rfl h)
  have hinsert (h : kind ≠ .insert) : startsWith "INSERT" (c :: cs) = false :=
    hother (by decide) (by cases kind <;> first | decide | exact absurd rfl h)
  have hreplace : startsWith "REPLACE" (c :: cs) = false :=
    hother (by decide) (by cases kind <;> decide)
  have hupdate (h : kind ≠ .update) : startsWith "UPDATE" (c :: cs) = false :=
    hother (by decide) (by cases kind <;> first | decide | exact absurd rfl h)
  rw [hcs] at hfound
  rw [ofSql, hcs, hbody, hreplace]
  cases kind with
  | select =>
    have hfound : startsWith "SELECT" (c :: cs) = true := hfound
    simp [hfound]
  | insert =>
    have hfound : startsWith "INSERT" (c :: cs) = true := hfound
    simp [hfound, hselect]
  | update =>
    have hfound : startsWith "UPDATE" (c :: cs) = true := hfound
    simp [hfound, hselect, hinsert]
  | delete =>
    have hfound : startsWith "DELETE" (c :: cs) = true := hfound
    simp [hfound, hselect, hinsert, hupdate]
  | other => exact absurd rfl hkind

end StatementKind

/-! ## The keyword of a finished statement -/

theorem Statement.kind_ne_other {Q : Type} (s : Statement Q) : s.kind ≠ .other := by
  cases s <;> simp [kind]

/-- The text of a statement starts with the name of its kind and a blank. -/
theorem Outline.sql_written {o : Outline (Query × Fragment)} {s : Statement (Query × Fragment)}
    (h : o.statement = some s) : ∃ rest, o.written.sql = s.name ++ (" " ++ rest) := by
  have hselect : "SELECT " = "SELECT" ++ " " := rfl
  have hdistinct : "SELECT DISTINCT " = "SELECT" ++ (" " ++ "DISTINCT ") := rfl
  have hinsert : "INSERT INTO " = "INSERT" ++ (" " ++ "INTO ") := rfl
  have hignore : "INSERT IGNORE INTO " = "INSERT" ++ (" " ++ "IGNORE INTO ") := rfl
  have hupdate : "UPDATE " = "UPDATE" ++ " " := rfl
  have hdelete : "DELETE FROM " = "DELETE" ++ (" " ++ "FROM ") := rfl
  rw [written, h]
  cases s with
  | select columns distinct =>
    cases distinct <;>
      simp only [Statement.selectFragment, Fragment.sql_append, Fragment.sql_text,
        String.append_assoc, Bool.false_eq_true, if_true, if_false, hselect, hdistinct]
    · exact ⟨_, rfl⟩
    · exact ⟨_, rfl⟩
  | insert columns rows ignore onDuplicateKey =>
    cases ignore <;>
      simp only [Statement.insertFragment, Fragment.sql_append, Fragment.sql_text,
        String.append_assoc, Bool.false_eq_true, if_true, if_false, hinsert, hignore]
    · exact ⟨_, rfl⟩
    · exact ⟨_, rfl⟩
  | update assignments =>
    simp only [Statement.updateFragment, Fragment.sql_append, Fragment.sql_text,
      String.append_assoc, hupdate]
    exact ⟨_, rfl⟩
  | delete =>
    simp only [Statement.deleteFragment, Fragment.sql_append, Fragment.sql_text,
      String.append_assoc, hdelete]
    exact ⟨_, rfl⟩

namespace Query

theorem statement_ne_none_of_build {q : Query} {b : BuiltQuery} (h : q.build = .ok b) :
    q.statement ≠ none := by
  obtain ⟨statement, table, tableAlias, joins, ⟨roots, cursor⟩, groupBy, orderBy, limit, offset,
    name⟩ := q
  rintro rfl
  rw [build, compile] at h
  cases h

/-- A finished statement starts with the name of its kind and a blank. -/
theorem sql_of_build {q : Query} {b : BuiltQuery} (h : q.build = .ok b) :
    ∃ s rest, q.statement = some s ∧ b.sql = s.name ++ (" " ++ rest) := by
  obtain ⟨s, hs⟩ := Option.ne_none_iff_exists'.mp (statement_ne_none_of_build h)
  have hmap : (q.outline.map withText).statement = some (s.map withText) :=
    congrArg (Option.map (Statement.map withText)) hs
  obtain ⟨rest, hrest⟩ := Outline.sql_written hmap
  obtain rfl := eq_ofFragment_written_of_build h
  have hname : (s.map withText).name = s.name := by cases s <;> rfl
  exact ⟨s, rest, hs, by rw [BuiltQuery.sql_ofFragment, written_eq, hrest, hname]⟩

open StatementKind (ofSql Leader)

/-- The text of a finished statement shows the kind of the query's statement, whatever blanks,
opening parentheses and line comments stand in front of it. It does so too if the name at its start,
which is that of the kind, is written in another case. -/
theorem build_shows_kind {q : Query} {b : BuiltQuery} (h : q.build = .ok b) :
    ∃ s tail, q.statement = some s ∧ b.sql = s.name ++ tail ∧
      (∀ leaders : List Leader, ofSql (Leader.inFrontOf b.sql leaders) = s.kind) ∧
      ∀ word : String, word.toUpper = s.name →
        ∀ leaders : List Leader, ofSql (Leader.inFrontOf (word ++ tail) leaders) = s.kind := by
  obtain ⟨s, rest, hs, hsql⟩ := sql_of_build h
  have hends : (" " ++ rest).toList.head?.any StatementKind.isWordChar = false := by
    rw [String.toList_append]
    rfl
  have hword (word : String) (hword : word.toUpper = s.name) (leaders : List Leader) :
      ofSql (Leader.inFrontOf (word ++ (" " ++ rest)) leaders) = s.kind := by
    rw [StatementKind.ofSql_congr (StatementKind.body_inFrontOf _ leaders)]
    exact StatementKind.ofSql_name_append s.kind_ne_other hword hends
  exact ⟨s, " " ++ rest, hs, hsql, hsql ▸ hword s.name s.kind.toUpper_name, hword⟩

/-- Comments hold other keywords, parentheses and the starts of comments, and the keyword is
written in mixed case. -/
theorem build_shows_kind_behind_comments :
    let q := (Script.run .new [.call .delete, .call (.table "t"),
      .call (.condition .and "id" "=" (.scalar (.int 1)))]).1
    let leaders : List Leader := [.opening, .dashes " (SELECT /* #" (by decide),
      .blank '\u2003' (by decide), .hash "-- update\r" (by decide), .opening]
    q.build = .ok ⟨"DELETE FROM t WHERE id = ?", [.int 1]⟩ ∧ "dElEtE".toUpper = "DELETE" ∧
      ofSql (Leader.inFrontOf "dElEtE FROM t WHERE id = ?" leaders) = .delete := by
  intro q leaders
  have hq : q.build = .ok ⟨"DELETE FROM t WHERE id = ?", [.int 1]⟩ := rfl
  have hupper : "dElEtE".toUpper = "DELETE" := StatementKind.toUpper_eq_iff.mpr (by decide)
  obtain ⟨s, tail, hs, hsql, -, hword⟩ := build_shows_kind hq
  obtain rfl : .delete = s := Option.some.inj hs
  have htail : tail = " FROM t WHERE id = ?" := by
    have hsql := congrArg String.toList hsql.symm
    rw [← String.toList_inj]
    simpa [Statement.name, Statement.kind, StatementKind.name] using hsql
  subst htail
  exact ⟨hq, hupper, hword "dElEtE" hupper leaders⟩

end Query

end BoundSql
