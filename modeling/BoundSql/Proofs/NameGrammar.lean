import BoundSql.Proofs.Changes
import Mathlib.Algebra.Group.Nat.Even

/-!
# The grammar of column names

The reader of column names accepts a text exactly if it has no NUL and is one part or several with
dots between them, and refuses any other as an invalid column. Outside of backquotes such a text
holds letters, digits, underscores, dollar signs and the dots between its parts, and nothing else.

What is left of a name where the reader stands is described by `Position.Completes`. One step of the
reader takes one character off what completes a name (`completes_cons_iff`), so that by induction
the reader goes through exactly the texts that do (`scan_eq_ok_iff`).

## Main definitions

* `IsPart`, `IsDotted`, `IsName` — the grammar.
* `Position.Completes` — the rests of names, by where the reader stands.
-/

namespace BoundSql.ColumnName

/-! ## Grammar -/

/-- An ASCII letter. -/
def IsLetter (c : Char) : Prop := ('A' ≤ c ∧ c ≤ 'Z') ∨ ('a' ≤ c ∧ c ≤ 'z')

/-- An ASCII digit. -/
def IsDigit (c : Char) : Prop := '0' ≤ c ∧ c ≤ '9'

/-- A part of a name. -/
inductive IsPart : List Char → Prop where
  /-- A letter or an underscore, then letters, digits, underscores and dollar signs. -/
  | bare {c : Char} {cs : List Char} (first : IsLetter c ∨ c = '_')
      (later : ∀ d ∈ cs, IsLetter d ∨ IsDigit d ∨ d = '_' ∨ d = '$') : IsPart (c :: cs)
  /-- One or more characters between backquotes, of which none is a backquote. -/
  | quoted {cs : List Char} (filled : cs ≠ []) (inside : backquote ∉ cs) :
      IsPart (backquote :: cs ++ [backquote])

/-- Parts with dots between them. -/
inductive IsDotted : List Char → Prop where
  | part {p : List Char} (hp : IsPart p) : IsDotted p
  | dot {p rest : List Char} (hp : IsPart p) (more : IsDotted rest) : IsDotted (p ++ '.' :: rest)

/-- Parts with dots between them, and no NUL in any. -/
def IsName (name : String) : Prop := '\x00' ∉ name.toList ∧ IsDotted name.toList

/-! ## Characters -/

theorem isAlpha_iff {c : Char} : c.isAlpha = true ↔ IsLetter c := by
  have hupper : c.isUpper = true ↔ 'A' ≤ c ∧ c ≤ 'Z' := decide_eq_true_iff
  have hlower : c.isLower = true ↔ 'a' ≤ c ∧ c ≤ 'z' :=
    Bool.and_eq_true_iff.trans (and_congr decide_eq_true_iff decide_eq_true_iff)
  rw [IsLetter, ← hupper, ← hlower]
  exact Bool.or_eq_true_iff

theorem isDigit_iff {c : Char} : c.isDigit = true ↔ IsDigit c :=
  Bool.and_eq_true_iff.trans (and_congr decide_eq_true_iff decide_eq_true_iff)

theorem isInitial_iff {c : Char} : isInitial c = true ↔ IsLetter c ∨ c = '_' := by
  rw [isInitial, Bool.or_eq_true, isAlpha_iff, beq_iff_eq, or_comm]

theorem isContinuing_iff {c : Char} :
    isContinuing c = true ↔ IsLetter c ∨ IsDigit c ∨ c = '_' ∨ c = '$' := by
  simp only [isContinuing, Char.isAlphanum, Bool.or_eq_true, isAlpha_iff, isDigit_iff, beq_iff_eq]
  tauto

/-! ## What completes a name -/

/-- The end, or a dot and further parts. -/
def AfterPart (cs : List Char) : Prop := cs = [] ∨ ∃ rest, cs = '.' :: rest ∧ IsDotted rest

/-- What may follow for a name to come out, by where the reader stands. -/
def Position.Completes : Position → List Char → Prop
  | .start, cs => IsDotted cs
  | .bare, cs => ∃ later rest, (∀ c ∈ later, isContinuing c = true) ∧ AfterPart rest ∧
      cs = later ++ rest
  | .quoted filled, cs => ∃ inside rest, (filled = true ∨ inside ≠ []) ∧ backquote ∉ inside ∧
      AfterPart rest ∧ cs = inside ++ backquote :: rest
  | .closed, cs => AfterPart cs

theorem isDotted_iff {cs : List Char} :
    IsDotted cs ↔ ∃ p rest, IsPart p ∧ AfterPart rest ∧ cs = p ++ rest := by
  constructor
  · intro h
    cases h with
    | part hp => exact ⟨cs, [], hp, .inl rfl, (List.append_nil cs).symm⟩
    | @dot p rest hp more => exact ⟨p, '.' :: rest, hp, .inr ⟨rest, rfl, more⟩, rfl⟩
  · rintro ⟨p, rest, hp, hrest, rfl⟩
    rcases hrest with rfl | ⟨rest, rfl, more⟩
    · rw [List.append_nil]
      exact .part hp
    · exact .dot hp more

theorem afterPart_cons_iff {c : Char} {cs : List Char} :
    AfterPart (c :: cs) ↔ c = '.' ∧ IsDotted cs := by
  simp [AfterPart]

theorem not_isDotted_nil : ¬ IsDotted [] := by
  intro h
  obtain ⟨p, rest, hp, -, happend⟩ := isDotted_iff.mp h
  cases hp <;> simp at happend

/-- A name starts with a part, and a part with a backquote or with the first character of an
unquoted part. -/
theorem isDotted_cons_iff {c : Char} {cs : List Char} :
    IsDotted (c :: cs) ↔ (c = backquote ∧ Position.Completes (.quoted false) cs) ∨
      (isInitial c = true ∧ Position.Completes .bare cs) := by
  rw [isDotted_iff]
  constructor
  · rintro ⟨p, rest, hp, hrest, happend⟩
    cases hp with
    | @bare d ds first later =>
      obtain ⟨rfl, rfl⟩ : c = d ∧ cs = ds ++ rest := by simpa using happend
      exact .inr ⟨isInitial_iff.mpr first, ds, rest,
        fun d hd => isContinuing_iff.mpr (later d hd), hrest, rfl⟩
    | @quoted ds filled inside =>
      obtain ⟨rfl, rfl⟩ : c = backquote ∧ cs = ds ++ backquote :: rest := by simpa using happend
      exact .inl ⟨rfl, ds, rest, .inr filled, inside, hrest, rfl⟩
  · rintro (⟨rfl, ds, rest, hfilled, inside, hrest, rfl⟩ | ⟨first, later, rest, hlater, hrest, rfl⟩)
    · have filled : ds ≠ [] := by simpa using hfilled
      exact ⟨_, rest, .quoted filled inside, hrest, by simp⟩
    · exact ⟨c :: later, rest, .bare (isInitial_iff.mp first)
        (fun d hd => isContinuing_iff.mp (hlater d hd)), hrest, rfl⟩

/-- An unquoted part goes on, or a dot ends it. -/
theorem completes_bare_cons_iff {c : Char} {cs : List Char} :
    Position.Completes .bare (c :: cs) ↔ (c = '.' ∧ IsDotted cs) ∨
      (isContinuing c = true ∧ Position.Completes .bare cs) := by
  constructor
  · rintro ⟨later, rest, hlater, hrest, happend⟩
    cases later with
    | nil =>
      obtain rfl : c :: cs = rest := happend
      exact .inl (afterPart_cons_iff.mp hrest)
    | cons d ds =>
      obtain ⟨rfl, rfl⟩ : c = d ∧ cs = ds ++ rest := by simpa using happend
      rw [List.forall_mem_cons] at hlater
      exact .inr ⟨hlater.1, ds, rest, hlater.2, hrest, rfl⟩
  · rintro (hdot | ⟨hc, later, rest, hlater, hrest, rfl⟩)
    · exact ⟨[], c :: cs, by simp, afterPart_cons_iff.mpr hdot, rfl⟩
    · exact ⟨c :: later, rest, List.forall_mem_cons.mpr ⟨hc, hlater⟩, hrest, rfl⟩

/-- A quoted part ends at a backquote, if there is something in it, and else goes on. -/
theorem completes_quoted_cons_iff {filled : Bool} {c : Char} {cs : List Char} :
    Position.Completes (.quoted filled) (c :: cs) ↔
      (c = backquote ∧ filled = true ∧ AfterPart cs) ∨
        (c ≠ backquote ∧ Position.Completes (.quoted true) cs) := by
  constructor
  · rintro ⟨inside, rest, hfilled, hinside, hrest, happend⟩
    cases inside with
    | nil =>
      obtain ⟨rfl, rfl⟩ : c = backquote ∧ cs = rest := by simpa using happend
      exact .inl ⟨rfl, by simpa using hfilled, hrest⟩
    | cons d ds =>
      obtain ⟨rfl, rfl⟩ : c = d ∧ cs = ds ++ backquote :: rest := by simpa using happend
      rw [List.mem_cons, not_or] at hinside
      exact .inr ⟨Ne.symm hinside.1, ds, rest, .inl rfl, hinside.2, hrest, rfl⟩
  · rintro (⟨rfl, hfilled, hrest⟩ | ⟨hc, inside, rest, -, hinside, hrest, rfl⟩)
    · exact ⟨[], cs, .inl hfilled, by simp, hrest, rfl⟩
    · exact ⟨c :: inside, rest, .inr (by simp), by simp [Ne.symm hc, hinside], hrest, rfl⟩

/-! ## The reader -/

/-- Where there is nothing left, the reader ends a name if nothing is what it needs. -/
theorem finish_eq_ok_iff (position : Position) :
    finish position = .ok () ↔ position.Completes [] := by
  cases position with
  | start => simp [finish, Position.Completes, not_isDotted_nil]
  | bare => simp [finish, Position.Completes, AfterPart]
  | quoted filled => simp [finish, Position.Completes]
  | closed => simp [finish, Position.Completes, AfterPart]

/-- A dot is accepted behind a part unless it is the last character. -/
theorem exists_afterDot_iff {cs : List Char} :
    (∃ next, afterDot cs = .ok next ∧ next.Completes cs) ↔ IsDotted cs := by
  cases cs with
  | nil => simp [afterDot, not_isDotted_nil]
  | cons c cs => simp [afterDot, Position.Completes]

/-- One step of the reader takes one character off what completes a name. -/
theorem completes_cons_iff (position : Position) (c : Char) (cs : List Char) :
    position.Completes (c :: cs) ↔ ∃ next, step position c cs = .ok next ∧ next.Completes cs := by
  cases position with
  | start =>
    have hinitial : isInitial backquote = false ∧ isInitial '.' = false := by decide
    rw [Position.Completes, isDotted_cons_iff, step]
    by_cases hquote : c = backquote
    · simp [hquote, hinitial.1]
    · by_cases hdot : c = '.'
      · subst hdot
        simp [hquote, hinitial.2]
      · by_cases hc : isInitial c = true <;> simp [hquote, hdot, hc]
  | bare =>
    have hcontinuing : isContinuing '.' = false := by decide
    rw [completes_bare_cons_iff, step]
    by_cases hdot : c = '.'
    · simp [hdot, hcontinuing, exists_afterDot_iff]
    · by_cases hc : isContinuing c = true <;> simp [hdot, hc]
  | quoted filled =>
    rw [completes_quoted_cons_iff, step]
    by_cases hquote : c = backquote
    · cases filled <;> simp [hquote, Position.Completes]
    · simp [hquote]
  | closed =>
    rw [Position.Completes, afterPart_cons_iff, step]
    by_cases hdot : c = '.' <;> simp [hdot, exists_afterDot_iff]

/-- The reader goes through exactly what completes a name. -/
theorem scan_eq_ok_iff (position : Position) (cs : List Char) :
    scan position cs = .ok () ↔ position.Completes cs := by
  induction cs generalizing position with
  | nil => exact finish_eq_ok_iff position
  | cons c cs ih =>
    rw [completes_cons_iff, scan]
    cases hstep : step position c cs with
    | ok next => simp [ih]
    | error fault => simp

theorem isValid_iff_isName {name : String} : IsValid name ↔ IsName name := by
  rw [IsValid, check, IsName]
  by_cases hempty : name = ""
  · simp [hempty, not_isDotted_nil]
  · by_cases hnul : '\x00' ∈ name.toList
    · simp [hempty, hnul]
    · simp [hempty, hnul, scan_eq_ok_iff, Position.Completes]

/-! ## Outside of backquotes -/

/-- A character that stands outside of backquotes, between the given texts: one of an unquoted part,
or a dot with parts on both sides. -/
def IsPlainAt (before : List Char) (c : Char) (after : List Char) : Prop :=
  IsLetter c ∨ IsDigit c ∨ c = '_' ∨ c = '$' ∨ (c = '.' ∧ IsDotted before ∧ IsDotted after)

theorem isPlainAt_of_isContinuing {c : Char} (h : isContinuing c = true)
    (before after : List Char) : IsPlainAt before c after := by
  rw [isContinuing_iff] at h
  rw [IsPlainAt]
  tauto

namespace IsPart

variable {p : List Char}

theorem isContinuing_of_bare {c : Char} {cs : List Char} (first : IsLetter c ∨ c = '_')
    (later : ∀ d ∈ cs, IsLetter d ∨ IsDigit d ∨ d = '_' ∨ d = '$') :
    ∀ d ∈ c :: cs, isContinuing d = true := by
  intro d hd
  rw [isContinuing_iff]
  rcases List.mem_cons.mp hd with rfl | hd
  · tauto
  · exact later d hd

/-- Every backquote in a part is closed in it. -/
theorem even_count_backquote (hp : IsPart p) : Even (p.count backquote) := by
  cases hp with
  | bare first later =>
    have hcount := List.count_eq_zero.mpr fun hmem =>
      absurd (isContinuing_of_bare first later backquote hmem) (by decide)
    simp [hcount]
  | @quoted cs filled inside =>
    have hcount : (backquote :: cs ++ [backquote]).count backquote = 2 := by
      simp [List.count_eq_zero.mpr inside]
    rw [hcount]
    exact ⟨1, rfl⟩

/-- Outside of backquotes there is no dot in a part. -/
theorem isContinuing_of_even (hp : IsPart p) {before after : List Char} {c : Char}
    (happend : p = before ++ c :: after) (hc : c ≠ backquote)
    (heven : Even (before.count backquote)) : isContinuing c = true := by
  cases hp with
  | bare first later =>
    apply isContinuing_of_bare first later
    simp [happend]
  | @quoted cs filled inside =>
    cases before with
    | nil => simp [Ne.symm hc] at happend
    | cons d ds =>
      obtain ⟨rfl, htail⟩ : backquote = d ∧ cs ++ [backquote] = ds ++ c :: after := by
        simpa using happend
      -- What stands before is the opening quote and a part of what it quotes: one backquote.
      have hds : backquote ∉ ds := by
        rcases List.append_eq_append_iff.mp htail with ⟨as, rfl, has⟩ | ⟨bs, rfl, -⟩
        · cases as <;> simp [Ne.symm hc] at has
        · exact fun hmem => inside (List.mem_append_left _ hmem)
      rw [List.count_cons_self, List.count_eq_zero.mpr hds] at heven
      cases heven with
      | intro k hk => omega

end IsPart

/-- Behind as many opening as closing backquotes, a name has characters of unquoted parts and dots
between parts. -/
theorem IsDotted.isPlainAt {cs : List Char} (h : IsDotted cs) {before after : List Char} {c : Char}
    (happend : cs = before ++ c :: after) (hc : c ≠ backquote)
    (heven : Even (before.count backquote)) : IsPlainAt before c after := by
  induction h generalizing before with
  | part hp => exact isPlainAt_of_isContinuing (hp.isContinuing_of_even happend hc heven) _ _
  | @dot p rest hp more ih =>
    have hseparates : IsPlainAt p '.' rest :=
      .inr (.inr (.inr (.inr ⟨rfl, .part hp, more⟩)))
    rcases List.append_eq_append_iff.mp happend with ⟨as, rfl, has⟩ | ⟨bs, rfl, hbs⟩
    · cases as with
      | nil =>
        obtain ⟨rfl, rfl⟩ : '.' = c ∧ rest = after := by simpa using has
        simpa using hseparates
      | cons d ds =>
        obtain ⟨rfl, hrest⟩ : '.' = d ∧ rest = ds ++ c :: after := by simpa using has
        have hcount :
            (p ++ '.' :: ds).count backquote = p.count backquote + ds.count backquote := by
          rw [List.count_append, List.count_cons_of_ne (by decide)]
        rw [hcount, Nat.even_add] at heven
        have hplain := ih hrest (heven.mp hp.even_count_backquote)
        rw [IsPlainAt] at hplain ⊢
        have hdotted : IsDotted ds → IsDotted (p ++ '.' :: ds) := IsDotted.dot hp
        tauto
    · cases bs with
      | nil =>
        obtain ⟨rfl, rfl⟩ : c = '.' ∧ after = rest := by simpa using hbs
        simpa using hseparates
      | cons d ds =>
        obtain ⟨rfl, -⟩ : c = d ∧ after = ds ++ '.' :: rest := by simpa using hbs
        exact isPlainAt_of_isContinuing (hp.isContinuing_of_even rfl hc heven) _ _

/-! ## Validation -/

/-- Accepted are the texts without NUL that are one or more parts with dots between them, and any
other is refused as an invalid column for a fault of its own. In an accepted name, what stands
behind an even number of backquotes and is none itself is a letter, a digit, an underscore, a dollar
sign or the dot between two parts. -/
theorem validate_accepts_grammar (name : String) :
    (validate name = .ok () ↔ IsName name) ∧
      (¬ IsName name → ∃ fault, check name = .error fault ∧
        validate name = .error (.invalidColumn (fault.message name))) ∧
      (validate name = .ok () → ∀ before c after, name.toList = before ++ c :: after →
        c ≠ backquote → Even (before.count backquote) → IsPlainAt before c after) := by
  have haccepts : validate name = .ok () ↔ IsName name := by
    rw [validate_eq_ok_iff, isValid_iff_isName]
  refine ⟨haccepts, ?_, ?_⟩
  · intro hname
    rw [← isValid_iff_isName, IsValid] at hname
    cases hcheck : check name with
    | ok _ => exact absurd hcheck hname
    | error fault => exact ⟨fault, rfl, by rw [validate, hcheck]⟩
  · intro hvalid before c after happend hc heven
    obtain ⟨-, hdotted⟩ := haccepts.mp hvalid
    exact hdotted.isPlainAt happend hc heven

/-- A dot between two parts separates them, a dot between backquotes need not, and a name that does
not close its backquotes is refused. -/
theorem validate_accepts_dot_in_quotes :
    let name := "db.\x60a.b\x60.c$1"
    (validate name = .ok () ∧ IsName name ∧
      IsPlainAt "db.\x60a.b\x60".toList '.' "c$1".toList) ∧
    ∃ fault, check "db.\x60a.b" = .error fault ∧
      validate "db.\x60a.b" = .error (.invalidColumn (fault.message "db.\x60a.b")) := by
  intro name
  have hvalid : validate name = .ok () := by decide
  obtain ⟨haccepts, -, hplain⟩ := validate_accepts_grammar name
  obtain ⟨hopen, hrefuses, -⟩ := validate_accepts_grammar "db.\x60a.b"
  refine ⟨⟨hvalid, haccepts.mp hvalid, ?_⟩, ?_⟩
  · exact hplain hvalid _ _ _ (by decide) (by decide) (by decide)
  · apply hrefuses
    rw [← hopen]
    decide

end BoundSql.ColumnName
