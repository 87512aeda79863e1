import BoundSql.Proofs.Reader
import BoundSql.Proofs.Representation

/-!
# Conditions can be told from their text

The text of the conditions of a statement, with its arguments, determines the conditions: their
columns, operands and values, how they are grouped and what connects them, save for what the text
leaves out. This holds where columns are column names and right sides are values. A quoted name
may hold keywords, placeholders and parentheses, but it ends where its quotes close, so no name is
misread as something else; and a range test has two values, so its `AND` is no connective.

## Main definitions

* `Condition.IsPlain` — a column name compared with values.
* `Condition.shown` — what the text of a condition shows of it.
* `Condition.read` — the reader for conditions.
-/

namespace BoundSql

open ColumnName (IsValid Position scan)
open Fragment (text)

variable {Q : Type}

/-! ## Column names -/

namespace ColumnName

/-- Whether the reader stands between quotes. -/
def Position.isQuoted : Position → Bool
  | .quoted _ => true
  | .start | .bare | .closed => false

/-- A text up to the first of some characters outside of quotes, and what follows. -/
def splitAt (stop : Char → Bool) : Bool → List Char → List Char × List Char
  | _, [] => ([], [])
  | quoted, c :: cs =>
    if stop c = true ∧ quoted = false then ([], c :: cs)
    else
      let (name, rest) := splitAt stop (if c = backquote then !quoted else quoted) cs
      (c :: name, rest)

/-- A text up to the first blank outside of quotes, and what follows. -/
def splitName : Bool → List Char → List Char × List Char := splitAt (· == ' ')

/-- A character that a name may have outside of quotes; the quote itself is one. -/
def isUnquoted (c : Char) : Bool := c == backquote || c == '.' || isContinuing c

theorem isUnquoted_of_isInitial {c : Char} (h : isInitial c = true) : isUnquoted c = true := by
  simp only [isInitial, Bool.or_eq_true] at h
  simp only [isUnquoted, isContinuing, Char.isAlphanum, Bool.or_eq_true]
  tauto

/-- Where a part goes on outside of quotes, there is no backquote. -/
theorem ne_of_isContinuing {c : Char} (h : isContinuing c = true) : c ≠ backquote := by
  rintro rfl
  cases h

theorem ne_of_isInitial {c : Char} (h : isInitial c = true) :
    c ≠ backquote ∧ c ≠ '(' ∧ c ≠ '1' := by
  refine ⟨?_, ?_, ?_⟩ <;> rintro rfl <;> cases h

theorem eq_start_of_afterDot {position : Position} {cs : List Char}
    (h : afterDot cs = .ok position) : position = .start := by
  rw [afterDot] at h
  split at h
  · cases h
  · exact (Except.ok.inj h).symm

/-- Backquotes turn quoting on and off, and outside of quotes only the characters of names are
accepted. -/
theorem isQuoted_of_step {position next : Position} {c : Char} {cs : List Char}
    (h : step position c cs = .ok next) :
    next.isQuoted = (if c = backquote then !position.isQuoted else position.isQuoted) ∧
      (position.isQuoted = false → isUnquoted c = true) := by
  cases position with
  | start =>
    rw [step] at h
    split_ifs at h with hquote hother hinitial
    · obtain rfl := Except.ok.inj h
      subst hquote
      exact ⟨rfl, fun _ => rfl⟩
    · obtain rfl := Except.ok.inj h
      exact ⟨by rw [if_neg hquote]; rfl, fun _ => isUnquoted_of_isInitial hinitial⟩
  | bare =>
    rw [step] at h
    split_ifs at h with hother hcontinuing
    · obtain rfl := eq_start_of_afterDot h
      subst hother
      exact ⟨rfl, fun _ => rfl⟩
    · obtain rfl := Except.ok.inj h
      exact ⟨by rw [if_neg (ne_of_isContinuing hcontinuing)],
        fun _ => by rw [isUnquoted, hcontinuing, Bool.or_true]⟩
  | quoted filled =>
    rw [step] at h
    split_ifs at h with hquote hfilled
    · obtain rfl := Except.ok.inj h
      exact ⟨by rw [if_pos hquote]; rfl, by simp [Position.isQuoted]⟩
    · obtain rfl := Except.ok.inj h
      exact ⟨by rw [if_neg hquote]; rfl, by simp [Position.isQuoted]⟩
  | closed =>
    rw [step] at h
    split_ifs at h with hother
    obtain rfl := eq_start_of_afterDot h
    subst hother
    exact ⟨rfl, fun _ => rfl⟩

/-- A name ends before a character that no name has outside of quotes. -/
theorem splitAt_of_scan {stop : Char → Bool} (hstop : ∀ c, stop c = true → isUnquoted c = false)
    {position : Position} {cs : List Char} (h : scan position cs = .ok ()) {mark : Char}
    (hmark : stop mark = true) (rest : List Char) :
    splitAt stop position.isQuoted (cs ++ mark :: rest) = (cs, mark :: rest) := by
  induction cs generalizing position with
  | nil =>
    cases position with
    | quoted _ => cases h
    | start | bare | closed => exact if_pos ⟨hmark, rfl⟩
  | cons c cs ih =>
    rw [scan] at h
    cases hstep : step position c cs with
    | error fault => simp [hstep] at h
    | ok next =>
      obtain ⟨hquoted, hunquoted⟩ := isQuoted_of_step hstep
      have hgoes : ¬ (stop c = true ∧ position.isQuoted = false) := by
        intro hc
        have hname := hunquoted hc.2
        rw [hstop c hc.1] at hname
        cases hname
      rw [List.cons_append, splitAt, if_neg hgoes, ← hquoted, ih (by simpa [hstep] using h)]

/-- A name ends before the blank that follows it. -/
theorem splitName_of_scan {position : Position} {cs : List Char} (h : scan position cs = .ok ())
    (rest : List Char) : splitName position.isQuoted (cs ++ ' ' :: rest) = (cs, ' ' :: rest) := by
  have hblank : ∀ c, (c == ' ') = true → isUnquoted c = false := by
    intro c hc
    rw [beq_iff_eq.mp hc]
    rfl
  exact splitAt_of_scan hblank h rfl rest

theorem scan_of_isValid {name : String} (h : IsValid name) : scan .start name.toList = .ok () := by
  rw [IsValid, check] at h
  split at h
  · cases h
  · split at h
    · cases h
    · exact h

/-- A name starts with a letter, an underscore or a backquote. -/
theorem exists_cons_of_isValid {name : String} (h : IsValid name) :
    ∃ c cs, name.toList = c :: cs ∧ (c = backquote ∨ isInitial c = true) := by
  have hscan := scan_of_isValid h
  cases hname : name.toList with
  | nil =>
    rw [hname] at hscan
    cases hscan
  | cons c cs =>
    refine ⟨c, cs, rfl, ?_⟩
    cases hstep : step .start c cs with
    | error fault =>
      rw [hname, scan, hstep] at hscan
      cases hscan
    | ok next =>
      rw [step] at hstep
      split_ifs at hstep with hquote _ hinitial
      · exact .inl hquote
      · exact .inr hinitial

end ColumnName

/-! ## Parts of a condition -/

/-- The operands that compare with values. `IS NOT` stands before `IS`, with which it starts. -/
def Operand.withValues : List Operand :=
  [.is true, .is false, .like false, .like true, .regexp false, .regexp true, .inList false,
    .inList true, .between false, .between true, .symbol .equal, .symbol .bangEqual,
    .symbol .unequal, .symbol .less, .symbol .lessEqual, .symbol .greater, .symbol .greaterEqual,
    .symbol .nullSafeEqual]

/-- An operand that takes a value or a list of values is one of them. -/
theorem Operand.mem_withValues {o : Operand} {right : Comparand Q} (h : o.Takes right)
    (hright : (∃ v, right = .scalar v) ∨ ∃ vs, right = .list vs) : o ∈ withValues := by
  rcases o with symbol | negated | negated | negated | negated | negated | ⟨symbol, quantifier⟩
  case quantified =>
    obtain ⟨q, rfl⟩ := h
    simp at hright
  case symbol => cases symbol <;> simp [withValues]
  all_goals cases negated <;> simp [withValues]

namespace Source

/-- Takes a column name off the front. -/
def name (s : Source) : String × Source :=
  let (name, rest) := ColumnName.splitName false s.chars
  (String.ofList name, { s with chars := rest })

theorem name_before {column : String} (h : IsValid column) {s : Source} {rest : List Char}
    (hs : s.chars = ' ' :: rest) : ((text column).before s).name = (column, s) := by
  have hsplit := ColumnName.splitName_of_scan (ColumnName.scan_of_isValid h) rest
  rw [← hs] at hsplit
  rw [name, Fragment.before, Fragment.sql_text]
  simp only [Position.isQuoted] at hsplit
  simp only [hsplit, String.ofList_toList]
  rfl

/-- Reads an operand with the blanks around it. -/
def operand (s : Source) : Option (Operand × Source) :=
  Operand.withValues.findSome? fun o => (s.keyword (" " ++ o.sql ++ " ")).map (o, ·)

theorem operand_before {o : Operand} (ho : o ∈ Operand.withValues) {s : Source}
    (hs : s.keyword "NOT " = none) :
    ((text (" " ++ o.sql ++ " ")).before s).operand = some (o, s) := by
  -- Apart from `IS` and `IS NOT`, no operand with a blank behind it starts like another one.
  rcases o with symbol | negated | negated | negated | negated | negated | ⟨symbol, quantifier⟩
  case quantified => simp [Operand.withValues] at ho
  case is =>
    cases negated with
    | true => rfl
    | false =>
      have hnot : ((text (" " ++ (Operand.is false).sql ++ " ")).before s).keyword
          (" " ++ (Operand.is true).sql ++ " ") = none := hs
      rw [operand, Operand.withValues, List.findSome?_cons, hnot]
      rfl
  case symbol => cases symbol <;> rfl
  all_goals cases negated <;> rfl

/-- Reads the right side that an operand takes. -/
def right (s : Source) : Operand → Option (Comparand Q × Source)
  | .inList _ => do
    let (vs, s) ← s.row
    return (.list vs, s)
  | .between _ => do
    let (low, s) ← s.value
    let s ← s.keyword " AND "
    let (high, s) ← s.value
    return (.list [low, high], s)
  | _ => do
    let (v, s) ← s.value
    return (.scalar v, s)

end Source

/-! ## Conditions -/

namespace Condition

/-- A column name compared with a value or with values. That the right side fits the operand holds
of every condition that is made. -/
structure IsPlain (c : Condition Q) : Prop where
  column : IsValid c.column
  comparand : c.operand.Takes c.comparand
  values : (∃ v, c.comparand = .scalar v) ∨ ∃ vs, c.comparand = .list vs

/-- What the text shows of a condition: a test for an empty list does not mention its column. -/
def shown : Condition Q → Condition Q
  | ⟨_, .inList negated, .list []⟩ => ⟨"", .inList negated, .list []⟩
  | c => c

/-- Reads a test for an empty list. -/
def readEmptyListTest (s : Source) : Option (Condition Q × Source) :=
  [false, true].findSome? fun negated =>
    (s.keyword (Clause.emptyListTest negated)).map (⟨"", .inList negated, .list []⟩, ·)

/-- Reads a comparison of a column with values. -/
def readComparison (s : Source) : Option (Condition Q × Source) := do
  let (column, s) := s.name
  let (operand, s) ← s.operand
  let (right, s) ← s.right operand
  return (⟨column, operand, right⟩, s)

/-- Reads a condition. -/
def read (s : Source) : Option (Condition Q × Source) :=
  match readEmptyListTest s with
  | some read => some read
  | none => readComparison s

/-- A condition in SQL, with what the statements embedded in it are written as. -/
def fragment (c : Condition Query) : Fragment := (c.map Query.withText).written

/-- What the text does not show does not matter for the text. -/
theorem fragment_shown (c : Condition Query) : c.shown.fragment = c.fragment := by
  unfold shown
  split <;> rfl

/-- A comparison with a column name is read back if its right side is. -/
theorem readsBack_comparison {c : Condition Query} {column : String} {operand : Operand}
    {right : Fragment} {comparand : Comparand Query} (hcolumn : IsValid column)
    (hoperand : operand ∈ Operand.withValues) (hnot : ∀ s, (right.before s).keyword "NOT " = none)
    (hright : ∀ s, (right.before s).right operand = some (comparand, s))
    (hfragment : c.fragment = Clause.comparison column operand right)
    (hshown : c.shown = ⟨column, operand, comparand⟩) : ReadsBack read fragment shown c := by
  obtain ⟨first, name, hname, hfirst⟩ := ColumnName.exists_cons_of_isValid hcolumn
  have hne : first ≠ '(' ∧ first ≠ '1' := by
    rcases hfirst with rfl | hinitial
    · decide
    · exact (ColumnName.ne_of_isInitial hinitial).2
  have hbefore (s : Source) : c.fragment.before s = (text column).before
      ((text (" " ++ operand.sql ++ " ")).before (right.before s)) := by
    simp [hfragment, Clause.comparison, Fragment.before, String.append_assoc]
  have hchars (s : Source) : (c.fragment.before s).chars = first ::
      (name ++ ((text (" " ++ operand.sql ++ " ")).before (right.before s)).chars) := by
    rw [hbefore, Fragment.before, Fragment.sql_text, hname]
    rfl
  refine ⟨fun s => ?_, fun s => Source.keyword_eq_none (hchars s) rfl hne.1, ?_⟩
  · have hkeyword (negated : Bool) :
        (c.fragment.before s).keyword (Clause.emptyListTest negated) = none := by
      cases negated <;> exact Source.keyword_eq_none (hchars s) rfl hne.2
    have hempty : readEmptyListTest (Q := Query) (c.fragment.before s) = none := by
      simp [readEmptyListTest, hkeyword]
    obtain ⟨rest, hblank⟩ : ∃ rest,
        ((text (" " ++ operand.sql ++ " ")).before (right.before s)).chars = ' ' :: rest :=
      ⟨_, by simp [Fragment.before]; rfl⟩
    rw [read, hempty, readComparison, hbefore]
    simp only [Source.name_before hcolumn hblank, Source.operand_before hoperand (hnot s), hright,
      hshown, Option.bind_eq_bind, Option.bind_some, Option.pure_def]
  · have hlength := congrArg List.length (hchars {})
    simp only [Fragment.before, List.length_append, String.length_toList,
      List.length_cons] at hlength
    omega

theorem readsBack_emptyList (column : String) (negated : Bool) :
    ReadsBack read fragment shown (⟨column, .inList negated, .list []⟩ : Condition Query) := by
  have hfragment : fragment (⟨column, .inList negated, .list []⟩ : Condition Query) =
      text (Clause.emptyListTest negated) := rfl
  have hread (s : Source) :
      readEmptyListTest (Q := Query) ((text (Clause.emptyListTest negated)).before s) =
        some (⟨"", .inList negated, .list []⟩, s) := by
    cases negated <;> rfl
  refine ⟨fun s => ?_, fun s => ?_, ?_⟩
  · rw [hfragment, read, hread]
    rfl
  · rw [hfragment]
    cases negated <;> rfl
  · rw [hfragment]
    cases negated <;> decide

/-- A value is not taken for the rest of `IS NOT`. -/
theorem keyword_not_value (v : Value) (s : Source) :
    ((Fragment.value v).before s).keyword "NOT " = none := by
  by_cases hv : v = .null
  · rw [hv]
    rfl
  · rw [Fragment.before_value hv]
    rfl

/-- A list is not taken for the rest of `IS NOT`. -/
theorem keyword_not_row (vs : List Value) (s : Source) :
    ((Clause.row vs).before s).keyword "NOT " = none := by
  rw [Clause.row, Fragment.parenthesized, Fragment.before_append, Fragment.before_append]
  rfl

/-- The text of a plain condition is read back. -/
theorem readsBack {c : Condition Query} (hc : c.IsPlain) : ReadsBack read fragment shown c := by
  obtain ⟨column, operand, comparand⟩ := c
  obtain ⟨hcolumn, htakes, hvalues⟩ := hc
  have hoperand := Operand.mem_withValues htakes hvalues
  rcases hvalues with ⟨v, rfl⟩ | ⟨vs, rfl⟩
  · cases operand with
    | inList _ | between _ | quantified _ _ => simp [Operand.Takes] at htakes
    | symbol _ | like _ | regexp _ | is _ =>
      refine readsBack_comparison hcolumn hoperand (keyword_not_value v) ?_ rfl rfl
      simp [Source.right]
  · cases operand with
    | symbol _ | like _ | regexp _ | is _ | quantified _ _ => simp [Operand.Takes] at htakes
    | inList negated =>
      cases vs with
      | nil => exact readsBack_emptyList column negated
      | cons v vs =>
        refine readsBack_comparison hcolumn hoperand (keyword_not_row (v :: vs)) ?_ rfl rfl
        simp [Source.right, Clause.row, Source.row_before]
    | between negated =>
      obtain ⟨low, high, hvs⟩ := htakes
      obtain rfl : vs = [low, high] := by simpa using hvs
      refine readsBack_comparison hcolumn hoperand (fun s => ?_) ?_ rfl rfl
      · simp only [Fragment.before_append, keyword_not_value]
      · simp [Source.right]

end Condition

namespace Query

/-- A recorded condition is plain if its column is a column name and it has values on its right. -/
theorem Reachable.isPlain {q : Query} (hq : q.Reachable) {c : Condition Query}
    (hc : c ∈ Forest.leaves q.conditions.roots) (hcolumn : IsValid c.column)
    (hvalues : (∃ v, c.comparand = .scalar v) ∨ ∃ vs, c.comparand = .list vs) : c.IsPlain :=
  ⟨hcolumn, (hq.wellFormed.conditions c hc).comparand, hvalues⟩

/-- The text of plain conditions. -/
theorem conditionFragments_of_isPlain {nodes : Forest (Condition Query)}
    (h : ∀ c ∈ Forest.leaves nodes, c.IsPlain) :
    conditionFragments nodes = .ok (Forest.map Condition.fragment nodes) := by
  have hsub (c : Condition Query) (hc : c ∈ Forest.leaves nodes) : c.subQueries = [] := by
    rcases (h c hc).values with ⟨v, hv⟩ | ⟨vs, hvs⟩
    · rw [Condition.subQueries, hv, Comparand.subQueries]
    · rw [Condition.subQueries, hvs, Comparand.subQueries]
  have hleaves : (Forest.leaves nodes).flatMap Condition.subQueries = [] :=
    List.flatMap_eq_nil_iff.mpr hsub
  have hfaults : ((Forest.leaves (Forest.map (Condition.map withFaults) nodes)).flatMap
      Condition.subQueries) = [] := by
    simp only [Forest.leaves_map, List.flatMap_map, Condition.subQueries_map]
    exact List.flatMap_eq_nil_iff.mpr fun c hc => by rw [hsub c hc, List.map_nil]
  rw [conditionFragments_eq_report (by simp [hleaves]), hfaults, Forest.map_map]
  rfl

/-- The text of a forest is that of what it shows. -/
theorem layout_shown (nodes : Forest (Condition Query)) :
    Forest.layout (Forest.map Condition.fragment
        (Forest.normalForm (Forest.map Condition.shown nodes))) =
      Forest.layout (Forest.map Condition.fragment nodes) := by
  have hshown : Condition.fragment ∘ Condition.shown = Condition.fragment :=
    funext Condition.fragment_shown
  rw [Forest.map_normalForm, Forest.layout_normalForm, Forest.map_map, hshown]

/-- Plain conditions compile to one text with the same arguments exactly if they agree but for
groups without conditions, the connective before the first node on each level and the columns of
tests for an empty list. -/
theorem conditions_eq_iff_text_eq {nodes others : Forest (Condition Query)}
    (hnodes : ∀ c ∈ Forest.leaves nodes, c.IsPlain)
    (hothers : ∀ c ∈ Forest.leaves others, c.IsPlain) :
    ∃ fs gs, conditionFragments nodes = .ok fs ∧ conditionFragments others = .ok gs ∧
      ((Forest.layout fs).sql = (Forest.layout gs).sql ∧
          (Forest.layout fs).args = (Forest.layout gs).args ↔
        Forest.normalForm (Forest.map Condition.shown nodes) =
          Forest.normalForm (Forest.map Condition.shown others)) := by
  refine ⟨_, _, conditionFragments_of_isPlain hnodes, conditionFragments_of_isPlain hothers, ?_⟩
  rw [← Fragment.ext_iff]
  constructor
  · intro htext
    have hread := congrArg (Forest.read (Condition.read (Q := Query))) htext
    rw [Forest.read_layout fun c hc => Condition.readsBack (hnodes c hc),
      Forest.read_layout fun c hc => Condition.readsBack (hothers c hc)] at hread
    exact Option.some.inj hread
  · intro hnormal
    rw [← layout_shown nodes, hnormal, layout_shown]

/-- A quoted name that looks like a closed and an open group, a range test, a NULL and two tests for
an empty list, in two forests of one text. -/
theorem conditions_of_one_text :
    let range : Condition Query := ⟨"\x60a) AND (b\x60", .between false, .list [.int 1, .null]⟩
    let nowhere (column : String) : Condition Query := ⟨column, .inList true, .list []⟩
    let present : Condition Query := ⟨"t.c", .is true, .scalar .null⟩
    let nodes : Forest (Condition Query) :=
      [.group .and [], .leaf .or range, .group .or [.leaf .or (nowhere "x"), .leaf .or present]]
    let others : Forest (Condition Query) :=
      [.leaf .and range,
        .group .or [.group .or [.group .and []], .leaf .and (nowhere "y"), .leaf .or present]]
    (∀ c ∈ Forest.leaves nodes, c.IsPlain) ∧ (∀ c ∈ Forest.leaves others, c.IsPlain) ∧
      (conditionFragments nodes).map Forest.layout =
        .ok ⟨"\x60a) AND (b\x60 BETWEEN ? AND NULL OR (1=1 OR t.c IS NOT NULL)", [.int 1]⟩ ∧
      Forest.normalForm (Forest.map Condition.shown nodes) =
        Forest.normalForm (Forest.map Condition.shown others) := by
  intro range nowhere present nodes others
  have hrange : range.IsPlain := ⟨by decide, ⟨_, _, rfl⟩, .inr ⟨_, rfl⟩⟩
  have hnowhere (column : String) (h : IsValid column) : (nowhere column).IsPlain :=
    ⟨h, .inl ⟨_, rfl⟩, .inr ⟨_, rfl⟩⟩
  have hpresent : present.IsPlain := ⟨by decide, .inl ⟨_, rfl⟩, .inl ⟨_, rfl⟩⟩
  have hnodes : ∀ c ∈ Forest.leaves nodes, c.IsPlain := by
    simpa [nodes] using ⟨hrange, hnowhere "x" (by decide), hpresent⟩
  have hothers : ∀ c ∈ Forest.leaves others, c.IsPlain := by
    simpa [others] using ⟨hrange, hnowhere "y" (by decide), hpresent⟩
  obtain ⟨fs, gs, hfs, hgs, htext⟩ := conditions_eq_iff_text_eq hnodes hothers
  refine ⟨hnodes, hothers, rfl, htext.mp ?_⟩
  obtain rfl := Except.ok.inj hfs
  obtain rfl := Except.ok.inj hgs
  exact ⟨rfl, rfl⟩

end Query

end BoundSql
