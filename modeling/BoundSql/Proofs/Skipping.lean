import BoundSql.Proofs.LeadingComments

/-!
# Skipping comes to an end

What stands before the keyword of a statement can be skipped in passes. A pass drops the blanks at
the front, and then a comment or an opening parenthesis if one stands there. Passes go on until one
of them changes nothing, or meets a comment without an end.

Every pass but the last leaves a shorter text, so there is a last one, whatever the text is
(`passes_eq_some_body`). Each keeps what `StatementKind.body` leaves, so the last one arrives there:
at a part of the text's end that starts with nothing that would be skipped. Hence skipping once more
changes nothing, and the kind of a statement is that of the part.

## Main definitions

* `pass`, `passes` — one round of skipping, and the rounds up to the last.
* `StartsSkippable` — something stands at the front that is skipped.
-/

namespace BoundSql.StatementKind

/-! ## Skipping in passes -/

/-- What stands behind the first place where a mark, which is not empty, is found. -/
def behind? (mark : List Char) : List Char → Option (List Char)
  | [] => none
  | c :: cs => if mark <+: c :: cs then some ((c :: cs).drop mark.length) else behind? mark cs

/-- How a pass ended. -/
inductive Pass where
  /-- Another pass has to look at the rest. -/
  | again (rest : List Char)
  /-- There is nothing more to skip. -/
  | done (rest : List Char)

/-- The end of a pass over a comment: behind the comment's end, or nowhere if it has none. -/
def Pass.ofEnd : Option (List Char) → Pass
  | some rest => .again rest
  | none => .done []

/-- One pass over the front of a text. -/
def pass (s : List Char) : Pass :=
  let t := Text.trimStart s
  if ['-', '-'] <+: t ∨ ['#'] <+: t then .ofEnd (behind? ['\n'] t)
  else if ['/', '*'] <+: t then .ofEnd (behind? ['*', '/'] t)
  else if ['('] <+: t then .again t.tail
  else if t = s then .done s
  else .again t

/-- What the last pass leaves, if it is among the first `limit` ones. -/
def passes : Nat → List Char → Option (List Char)
  | 0, _ => none
  | limit + 1, s =>
    match pass s with
    | .again rest => passes limit rest
    | .done rest => some rest

/-- A blank, an opening parenthesis or the start of a comment stands at the front. -/
def StartsSkippable (s : List Char) : Prop :=
  s.head?.any Text.isBlank = true ∨ ['('] <+: s ∨ ['#'] <+: s ∨ ['-', '-'] <+: s ∨
    ['/', '*'] <+: s

/-! ## What is left after skipping -/

theorem startsSkippable_cons (c : Char) (cs : List Char) :
    StartsSkippable (c :: cs) ↔ Text.isBlank c = true ∨ c = '(' ∨ c = '#' ∨
      (c = '-' ∧ cs.head? = some '-') ∨ (c = '/' ∧ cs.head? = some '*') := by
  cases cs <;> simp [StartsSkippable, List.cons_prefix_cons, @eq_comm Char _ c, @eq_comm Char '-',
    @eq_comm Char '*']

theorem not_startsSkippable_nil : ¬ StartsSkippable [] := by
  simp [StartsSkippable]

/-- The reader stops between items, and only before something that it does not skip. -/
theorem not_startsSkippable_skip (p : Position) (s : List Char) : ¬ StartsSkippable (skip p s) := by
  fun_induction skip p s with
  | case1 => exact not_startsSkippable_nil
  | case10 c cs hblank hline hblock =>
    rw [startsSkippable_cons]
    tauto
  | _ => assumption

theorem skip_suffix (p : Position) (s : List Char) : skip p s <:+ s := by
  fun_induction skip p s with
  | case1 => exact List.suffix_refl _
  | case10 => exact List.suffix_refl _
  | _ => exact List.IsSuffix.trans ‹_› (List.suffix_cons _ _)

theorem body_eq_self {s : List Char} (h : ¬ StartsSkippable s) : body s = s := by
  cases s with
  | nil => rfl
  | cons c cs =>
    rw [startsSkippable_cons] at h
    simp only [not_or] at h
    obtain ⟨hblank, hopen, hhash, hdash, hslash⟩ := h
    simp [body, skip, hblank, hopen, hhash, hdash, hslash]

/-! ## One pass -/

theorem length_lt_of_behind? {mark s rest : List Char} (hmark : mark ≠ [])
    (h : behind? mark s = some rest) : rest.length < s.length := by
  induction s with
  | nil => cases h
  | cons c cs ih =>
    rw [behind?] at h
    split at h
    · obtain rfl := Option.some.inj h
      have hlength : 0 < mark.length := List.length_pos_iff.mpr hmark
      rw [List.length_drop, List.length_cons]
      omega
    · exact (ih h).trans (Nat.lt_succ_self cs.length)

theorem skip_line_eq (s : List Char) : skip .line s = (behind? ['\n'] s).elim [] body := by
  induction s with
  | nil => rfl
  | cons c cs ih =>
    by_cases hc : c = '\n'
    · subst hc
      simp [skip, behind?, body]
    · simp [skip, behind?, hc, Ne.symm hc, ih]

theorem skip_block_eq (s : List Char) : skip .block s = (behind? ['*', '/'] s).elim [] body := by
  induction s with
  | nil => rfl
  | cons c cs ih =>
    rw [skip, behind?]
    cases cs with
    | nil => simp [behind?, skip]
    | cons d ds =>
      by_cases hd : c = '*' ∧ d = '/'
      · obtain ⟨rfl, rfl⟩ := hd
        simp [skip, body]
      · have hmark : ¬ ['*', '/'] <+: c :: d :: ds := by
          simpa [List.cons_prefix_cons, eq_comm] using hd
        simp [hd, hmark, ih]

theorem body_trimStart (s : List Char) : body (Text.trimStart s) = body s := by
  induction s with
  | nil => rfl
  | cons c cs ih =>
    by_cases hc : Text.isBlank c = true
    · rw [Text.trimStart, List.dropWhile_cons_of_pos hc, ← Text.trimStart, ih]
      simp [body, skip, hc]
    · rw [Text.trimStart, List.dropWhile_cons_of_neg hc]

theorem length_trimStart_lt {s : List Char} (h : Text.trimStart s ≠ s) :
    (Text.trimStart s).length < s.length :=
  lt_of_le_of_ne (Text.length_trimStart_le s) fun hlength =>
    h ((List.dropWhile_suffix _).eq_of_length hlength)

/-- What a comment at the front leaves, from the search for its end. -/
theorem body_of_lineComment {t : List Char} (h : ['-', '-'] <+: t ∨ ['#'] <+: t) :
    body t = (behind? ['\n'] t).elim [] body := by
  rcases h with ⟨cs, rfl⟩ | ⟨cs, rfl⟩
  · have hblank : Text.isBlank '-' = false := by decide
    simp [← skip_line_eq, body, skip, hblank]
  · have hblank : Text.isBlank '#' = false := by decide
    simp [← skip_line_eq, body, skip, hblank]

theorem body_of_blockComment {t : List Char} (h : ['/', '*'] <+: t) :
    body t = (behind? ['*', '/'] t).elim [] body := by
  obtain ⟨cs, rfl⟩ := h
  simp [← skip_block_eq, body_slash_star, skip]

theorem body_of_opening {t : List Char} (h : ['('] <+: t) : body t = body t.tail := by
  obtain ⟨cs, rfl⟩ := h
  simp [body, skip]

/-- A text in which a pass finds nothing to drop starts with nothing to skip. -/
theorem not_startsSkippable_of_trimStart_eq {s : List Char} (htrim : Text.trimStart s = s)
    (hline : ¬ (['-', '-'] <+: s ∨ ['#'] <+: s)) (hblock : ¬ ['/', '*'] <+: s)
    (hopen : ¬ ['('] <+: s) : ¬ StartsSkippable s := by
  have hblank : s.head?.any Text.isBlank = false := by
    rw [← htrim, Text.trimStart]
    have hhead := List.head?_dropWhile_not Text.isBlank s
    cases hd : (s.dropWhile Text.isBlank).head? with
    | none => rfl
    | some c => simpa [hd] using hhead
  rw [StartsSkippable, hblank]
  tauto

/-- How a pass over a comment ends. -/
theorem pass_end {s t : List Char} {mark : List Char} (hmark : mark ≠ [])
    (ht : t.length ≤ s.length) (h : body s = (behind? mark t).elim [] body) :
    (∃ rest, Pass.ofEnd (behind? mark t) = .again rest ∧ rest.length < s.length ∧
        body rest = body s) ∨ Pass.ofEnd (behind? mark t) = .done (body s) := by
  cases hend : behind? mark t with
  | none =>
    right
    rw [h, hend]
    rfl
  | some rest =>
    left
    refine ⟨rest, rfl, (length_lt_of_behind? hmark hend).trans_le ht, ?_⟩
    rw [h, hend]
    rfl

/-- A pass leaves a shorter text for which the same is left at the end, or what is left at the end.
-/
theorem pass_cases (s : List Char) :
    (∃ rest, pass s = .again rest ∧ rest.length < s.length ∧ body rest = body s) ∨
      pass s = .done (body s) := by
  have hlength := Text.length_trimStart_le s
  rw [← body_trimStart s, pass]
  split_ifs with hline hblock hopen htrim
  · rw [body_trimStart]
    exact pass_end (by simp) hlength (by rw [← body_trimStart, body_of_lineComment hline])
  · rw [body_trimStart]
    exact pass_end (by simp) hlength (by rw [← body_trimStart, body_of_blockComment hblock])
  · left
    refine ⟨_, rfl, ?_, (body_of_opening hopen).symm⟩
    have hnonempty : 1 ≤ (Text.trimStart s).length := hopen.length_le
    rw [List.length_tail]
    omega
  · right
    rw [htrim] at hline hblock hopen ⊢
    rw [body_eq_self (not_startsSkippable_of_trimStart_eq htrim hline hblock hopen)]
  · left
    exact ⟨_, rfl, length_trimStart_lt htrim, rfl⟩

/-- A pass over a text that starts with nothing to skip is the last one. -/
theorem pass_eq_done {s : List Char} (h : ¬ StartsSkippable s) : pass s = .done s := by
  rw [StartsSkippable] at h
  simp only [not_or] at h
  obtain ⟨hblank, hopen, hhash, hdash, hslash⟩ := h
  have htrim : Text.trimStart s = s := by
    cases s with
    | nil => rfl
    | cons c cs => exact List.dropWhile_cons_of_neg (by simpa using hblank)
  simp [pass, htrim, hopen, hhash, hdash, hslash]

/-! ## All passes -/

/-- There are at most as many passes as characters, and the last one. -/
theorem passes_eq_some_body {s : List Char} {limit : Nat} (h : s.length < limit) :
    passes limit s = some (body s) := by
  induction limit generalizing s with
  | zero => omega
  | succ limit ih =>
    rw [passes]
    rcases pass_cases s with ⟨rest, hpass, hlength, hbody⟩ | hpass
    · rw [hpass, ← hbody]
      exact ih (by omega)
    · rw [hpass]

/-- On every text the passes come to an end, after at most one more than it has characters, and
leave what the kind of a statement is told from: a part of the text's end at whose front there is
nothing to skip. A pass over this part is the last one and leaves it as it is, and its kind is that
of the text. -/
theorem passes_end_where_nothing_is_skipped (sql : String) :
    ∃ rest : String,
      (∀ limit, sql.length < limit → passes limit sql.toList = some rest.toList) ∧
      body sql.toList = rest.toList ∧
      rest.toList <:+ sql.toList ∧ ¬ StartsSkippable rest.toList ∧
      pass rest.toList = .done rest.toList ∧ body rest.toList = rest.toList ∧
      ofSql rest = ofSql sql := by
  have hplain := not_startsSkippable_skip .between sql.toList
  refine ⟨String.ofList (body sql.toList), ?_⟩
  rw [String.toList_ofList]
  refine ⟨fun limit hlimit => passes_eq_some_body hlimit, rfl, skip_suffix _ _, hplain,
    pass_eq_done hplain, body_eq_self hplain, ?_⟩
  apply ofSql_congr
  rw [String.toList_ofList]
  exact body_eq_self hplain

/-- The first comment ends in its own opening, a line comment holds the start of another comment,
and one without an end stands in what is left. -/
theorem passes_end_before_select :
    let sql := "(/*/\t-- /* *\n (#(\n\u2003(select /* 1"
    sql.length < 40 ∧ passes 40 sql.toList = some "select /* 1".toList ∧ ofSql sql = select := by
  intro sql
  have hlength : sql.length < 40 := by decide
  have hleft : body sql.toList = "select /* 1".toList := by decide
  obtain ⟨rest, hpasses, hbody, -, -, -, -, hkind⟩ := passes_end_where_nothing_is_skipped sql
  obtain rfl := String.toList_injective (hleft.symm.trans hbody)
  exact ⟨hlength, hpasses 40 hlength, hkind ▸ rfl⟩

end BoundSql.StatementKind
