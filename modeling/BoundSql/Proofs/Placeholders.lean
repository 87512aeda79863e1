import BoundSql.BuiltQuery
import BoundSql.ConditionTree

/-!
# Filling in placeholders

A statement with its arguments stands for the text that has an argument in the place of each
placeholder. `fillIn` makes that text from left to right and fails where the arguments are too
few or too many, so where it succeeds there is one argument per placeholder.

A fragment *shows* a text if filling it in gives this text and leaves the scan outside single
quotes. What follows such a fragment is read as if it stood alone, hence fragments put together
show their texts put together (`Shows.append`, `Shows.join`). Text of the caller's own shows
itself if it is clean: its quotes are closed and no placeholder stands outside them.

## Main definitions

* `fillIn`, `BuiltQuery.interpolate` — the text with arguments for placeholders.
* `IsClean` — texts that a scan passes as if they were not there.
* `Shows` — a fragment as the text that it stands for.
-/

namespace BoundSql

/-! ## The scan -/

/-- Whether the text leaves the scan inside single quotes. -/
def quotedAfter : Bool → List Char → Bool
  | quoted, [] => quoted
  | quoted, c :: cs => quotedAfter (if c = '\'' then !quoted else quoted) cs

/-- Each question mark outside single quotes gives way to the next argument. -/
def fillIn (render : Value → String) : Bool → List Char → List Value → Option (List Char)
  | _, [], args => if args.isEmpty then some [] else none
  | quoted, c :: cs, args =>
    if c = '\'' then (fillIn render (!quoted) cs args).map (c :: ·)
    else if c = '?' ∧ quoted = false then
      match args with
      | [] => none
      | v :: rest => (fillIn render quoted cs rest).map ((render v).toList ++ ·)
    else (fillIn render quoted cs args).map (c :: ·)

/-- The statement with its arguments in the place of its placeholders, if there is one for each.
-/
def BuiltQuery.interpolate (render : Value → String) (b : BuiltQuery) : Option String :=
  (fillIn render false b.sql.toList b.args).map String.ofList

theorem quotedAfter_append (quoted : Bool) (cs ds : List Char) :
    quotedAfter quoted (cs ++ ds) = quotedAfter (quotedAfter quoted cs) ds := by
  induction cs generalizing quoted with
  | nil => rfl
  | cons c cs ih => rw [List.cons_append, quotedAfter, quotedAfter, ih]

theorem countPlaceholders_append (quoted : Bool) (cs ds : List Char) :
    countPlaceholders quoted (cs ++ ds) =
      countPlaceholders quoted cs + countPlaceholders (quotedAfter quoted cs) ds := by
  induction cs generalizing quoted with
  | nil => simp [countPlaceholders, quotedAfter]
  | cons c cs ih =>
    rw [List.cons_append, countPlaceholders, countPlaceholders, quotedAfter]
    split
    · exact ih _
    · split
      · rw [ih]
        omega
      · exact ih _

section FillIn

variable {render : Value → String}

theorem fillIn_cons (quoted : Bool) (c : Char) (cs : List Char) (args : List Value) :
    fillIn render quoted (c :: cs) args =
      if c = '\'' then (fillIn render (!quoted) cs args).map (c :: ·)
      else if c = '?' ∧ quoted = false then
        match args with
        | [] => none
        | v :: rest => (fillIn render quoted cs rest).map ((render v).toList ++ ·)
      else (fillIn render quoted cs args).map (c :: ·) := by
  cases args <;> rfl

/-- A text with its arguments is filled in before what follows it. -/
theorem fillIn_append {quoted : Bool} {cs out : List Char} {args : List Value}
    (h : fillIn render quoted cs args = some out) (ds : List Char) (more : List Value) :
    fillIn render quoted (cs ++ ds) (args ++ more) =
      (fillIn render (quotedAfter quoted cs) ds more).map (out ++ ·) := by
  -- A quote in the text turns the scan around, so the state has to vary.
  induction cs generalizing quoted args out with
  | nil =>
    cases args with
    | nil =>
      obtain rfl := Option.some.inj h
      simp [quotedAfter]
    | cons v args => cases h
  | cons c cs ih =>
    rw [fillIn_cons] at h
    rw [List.cons_append, fillIn_cons, quotedAfter]
    split at h
    · next hc =>
      obtain ⟨rest, hr, rfl⟩ := Option.map_eq_some_iff.mp h
      rw [if_pos hc, if_pos hc, ih hr, Option.map_map]
      rfl
    · next hc =>
      rw [if_neg hc, if_neg hc]
      split at h
      · next hm =>
        rw [if_pos hm]
        cases args with
        | nil => cases h
        | cons v args =>
          obtain ⟨rest, hr, rfl⟩ := Option.map_eq_some_iff.mp h
          dsimp only [List.cons_append]
          rw [ih hr, Option.map_map]
          simp [Function.comp_def]
      · next hm =>
        obtain ⟨rest, hr, rfl⟩ := Option.map_eq_some_iff.mp h
        rw [if_neg hm, ih hr, Option.map_map]
        rfl

/-- Where placeholders can be filled in, there is one argument for each. -/
theorem countPlaceholders_of_fillIn {quoted : Bool} {cs out : List Char} {args : List Value}
    (h : fillIn render quoted cs args = some out) :
    countPlaceholders quoted cs = args.length := by
  induction cs generalizing quoted args out with
  | nil =>
    cases args with
    | nil => rfl
    | cons v args => cases h
  | cons c cs ih =>
    rw [fillIn_cons] at h
    rw [countPlaceholders]
    split at h
    · next hc =>
      obtain ⟨rest, hr, -⟩ := Option.map_eq_some_iff.mp h
      rw [if_pos hc, ih hr]
    · next hc =>
      rw [if_neg hc]
      split at h
      · next hm =>
        cases args with
        | nil => cases h
        | cons v args =>
          obtain ⟨rest, hr, -⟩ := Option.map_eq_some_iff.mp h
          rw [if_pos hm, ih hr, List.length_cons]
      · next hm =>
        obtain ⟨rest, hr, -⟩ := Option.map_eq_some_iff.mp h
        rw [if_neg hm, ih hr]

/-- A text without placeholders stays as it is. -/
theorem fillIn_of_countPlaceholders_eq_zero {quoted : Bool} {cs : List Char}
    (h : countPlaceholders quoted cs = 0) : fillIn render quoted cs [] = some cs := by
  induction cs generalizing quoted with
  | nil => rfl
  | cons c cs ih =>
    rw [countPlaceholders] at h
    rw [fillIn_cons]
    split at h
    · next hc => rw [if_pos hc, ih h, Option.map_some]
    · next hc =>
      split at h
      · omega
      · next hm => rw [if_neg hc, if_neg hm, ih h, Option.map_some]

end FillIn

/-! ## Clean texts -/

/-- Every single quote is closed and no question mark stands outside of them. -/
def IsClean (s : String) : Prop :=
  countPlaceholders false s.toList = 0 ∧ quotedAfter false s.toList = false

instance : DecidablePred IsClean := fun _ => inferInstanceAs (Decidable (_ ∧ _))

namespace IsClean

theorem empty : IsClean "" := by decide

theorem append {s t : String} (hs : IsClean s) (ht : IsClean t) : IsClean (s ++ t) := by
  constructor
  · rw [String.toList_append, countPlaceholders_append, hs.1, hs.2, ht.1]
  · rw [String.toList_append, quotedAfter_append, hs.2, ht.2]

theorem join {ss : List String} (h : ∀ s ∈ ss, IsClean s) : IsClean (String.join ss) := by
  induction ss with
  | nil => exact empty
  | cons s ss ih =>
    rw [List.forall_mem_cons] at h
    rw [String.join_cons]
    exact h.1.append (ih h.2)

theorem intercalate {separator : String} (hsep : IsClean separator) {ss : List String}
    (h : ∀ s ∈ ss, IsClean s) : IsClean (String.intercalate separator ss) := by
  induction ss with
  | nil => exact empty
  | cons s ss ih =>
    rw [List.forall_mem_cons] at h
    cases ss with
    | nil => exact h.1
    | cons t rest =>
      rw [String.intercalate_cons_cons]
      exact (h.1.append hsep).append (ih h.2)

/-- A text without single quotes and question marks is clean. -/
theorem of_forall {s : String} (h : ∀ c ∈ s.toList, c ≠ '\'' ∧ c ≠ '?') : IsClean s := by
  rw [IsClean]
  generalize s.toList = cs at h
  induction cs with
  | nil => exact ⟨rfl, rfl⟩
  | cons c cs ih =>
    rw [List.forall_mem_cons] at h
    obtain ⟨⟨hq, hm⟩, h⟩ := h
    simpa [countPlaceholders, quotedAfter, hq, hm] using ih h

/-- A number in decimal digits is clean. -/
theorem natDigits (n : Nat) : IsClean (toString n) := by
  refine of_forall fun c hc => ?_
  have hd : c.isDigit = true :=
    Nat.isDigit_of_mem_toDigits (b := 10) (n := n) (by decide) (by decide) (by simpa using hc)
  constructor <;> rintro rfl <;> simp at hd

end IsClean

/-! ## What a fragment shows -/

/-- Filling in the fragment gives the text, and ends outside single quotes. -/
def Shows (render : Value → String) (f : Fragment) (s : String) : Prop :=
  fillIn render false f.sql.toList f.args = some s.toList ∧
    quotedAfter false f.sql.toList = false

namespace Shows

variable {render : Value → String} {f g : Fragment} {s t : String}

theorem interpolate (h : Shows render f s) :
    (BuiltQuery.ofFragment f).interpolate render = some s := by
  rw [BuiltQuery.interpolate, BuiltQuery.sql_ofFragment, BuiltQuery.args_ofFragment, h.1,
    Option.map_some, String.ofList_toList]

theorem placeholderCount (h : Shows render f s) :
    (BuiltQuery.ofFragment f).placeholderCount = f.args.length :=
  countPlaceholders_of_fillIn h.1

theorem empty : Shows render .empty "" := ⟨rfl, rfl⟩

theorem text (h : IsClean s) : Shows render (.text s) s :=
  ⟨fillIn_of_countPlaceholders_eq_zero h.1, h.2⟩

theorem append (hf : Shows render f s) (hg : Shows render g t) :
    Shows render (f ++ g) (s ++ t) := by
  constructor
  · rw [Fragment.sql_append, Fragment.args_append, String.toList_append, fillIn_append hf.1, hf.2,
      hg.1, Option.map_some, String.toList_append]
  · rw [Fragment.sql_append, String.toList_append, quotedAfter_append, hf.2, hg.2]

theorem parenthesized (h : Shows render f s) : Shows render f.parenthesized ("(" ++ s ++ ")") :=
  ((text (by decide)).append h).append (text (by decide))

/-- Fragments with a clean separator show their texts with that separator. -/
theorem join {α : Type} {separator : String} (hsep : IsClean separator) {f : α → Fragment}
    {p : α → String} {l : List α} (h : ∀ a ∈ l, Shows render (f a) (p a)) :
    Shows render (.join separator (l.map f)) (String.intercalate separator (l.map p)) := by
  induction l with
  | nil => exact empty
  | cons a l ih =>
    rw [List.forall_mem_cons] at h
    cases l with
    | nil => exact h.1
    | cons b rest =>
      rw [List.map_cons, List.map_cons, List.map_cons, List.map_cons, Fragment.join,
        String.intercalate_cons_cons]
      exact (h.1.append (text hsep)).append (ih h.2)

end Shows

end BoundSql
