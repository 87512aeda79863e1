import BoundSql.Proofs.NormalForm

/-!
# Reading a forest back from its text

A `Source` is text that is yet to be read, with the arguments for its placeholders. Each reader
takes what it reads off the front, and its lemma says that before any rest it reads exactly what
was written there. Nothing needs to be known of the rest, save behind the last of some siblings,
where no connective may follow.

`Forest.read` reads siblings with a reader for conditions. If this one reads every condition back,
the whole forest is read back, as far as its text shows it (`Forest.read_layout`).

## Main definitions

* `Source`, `Fragment.before` — text with arguments that is yet to be read.
* `Source.keyword`, `Source.value`, `Source.row`, `Source.connective` — readers for the parts that
  conditions and forests are written with.
* `ReadsBack` — a reader reads a condition back.
* `Forest.read` — the reader for siblings.
-/

namespace BoundSql

variable {P R : Type}

/-- Text that is yet to be read, and the arguments for the placeholders in it. -/
structure Source where
  chars : List Char := []
  args : List Value := []

namespace Fragment

/-- A fragment with a rest behind it. -/
def before (f : Fragment) (s : Source) : Source := ⟨f.sql.toList ++ s.chars, f.args ++ s.args⟩

@[simp] theorem before_empty (s : Source) : empty.before s = s := rfl

@[simp] theorem before_append (f g : Fragment) (s : Source) :
    (f ++ g).before s = f.before (g.before s) := by
  simp [before, List.append_assoc]

theorem before_value {v : Value} (hv : v ≠ .null) (s : Source) :
    (value v).before s = (text "?").before ⟨s.chars, v :: s.args⟩ := by
  rw [value, if_neg (mt Value.isNull_eq_true_iff.mp hv)]
  rfl

theorem length_parenthesized (f : Fragment) :
    f.parenthesized.sql.length = f.sql.length + 2 := by
  have hopen : "(".length = 1 := rfl
  have hclose : ")".length = 1 := rfl
  simp only [parenthesized, sql_append, sql_text, String.length_append, hopen, hclose]
  omega

/-- Values that follow another one in a list. -/
def moreValues : List Value → Fragment
  | [] => .empty
  | v :: vs => text ", " ++ (.value v ++ moreValues vs)

theorem values_cons (v : Value) (vs : List Value) :
    values (v :: vs) = .value v ++ moreValues vs := by
  induction vs generalizing v with
  | nil => ext1 <;> simp [values, join, moreValues]
  | cons w ws ih =>
    have hjoin : values (v :: w :: ws) =
        .value v ++ text ", " ++ values (w :: ws) := rfl
    rw [hjoin, ih, moreValues, append_assoc]

theorem length_le_length_moreValues (vs : List Value) :
    vs.length ≤ (moreValues vs).sql.length := by
  induction vs with
  | nil => simp
  | cons v vs ih =>
    have hcomma : ", ".length = 2 := rfl
    simp only [moreValues, sql_append, sql_text, String.length_append, hcomma,
      List.length_cons]
    omega

end Fragment

open Fragment (text)

namespace Source

/-! ## Parts of clauses -/

/-- Takes a given text off the front. -/
def keyword (k : String) (s : Source) : Option Source :=
  if k.toList.isPrefixOf s.chars then some { s with chars := s.chars.drop k.toList.length }
  else none

@[simp] theorem keyword_text (k : String) (s : Source) :
    ((text k).before s).keyword k = some s := by
  have hprefix : k.toList.isPrefixOf (k.toList ++ s.chars) = true :=
    List.isPrefixOf_iff_prefix.mpr (List.prefix_append _ _)
  have hdrop : (k.toList ++ s.chars).drop k.toList.length = s.chars := List.drop_left
  rw [keyword, Fragment.before, Fragment.sql_text, if_pos hprefix, hdrop]
  rfl

/-- A text is not taken off where its first character does not stand. -/
theorem keyword_eq_none {k : String} {s : Source} {c d : Char} {cs ds : List Char}
    (hs : s.chars = c :: cs) (hk : k.toList = d :: ds) (h : c ≠ d) : s.keyword k = none := by
  rw [keyword, hs, hk, List.isPrefixOf, beq_eq_false_iff_ne.mpr h.symm, Bool.false_and]
  rfl

/-- Takes the next argument. -/
def argument (s : Source) : Option (Value × Source) :=
  match s.args with
  | [] => none
  | v :: args => some (v, { s with args })

/-- Reads a value: the keyword for NULL, or a placeholder. -/
def value (s : Source) : Option (Value × Source) :=
  match s.keyword "NULL" with
  | some s => some (.null, s)
  | none => s.keyword "?" >>= argument

@[simp] theorem value_before (v : Value) (s : Source) :
    ((Fragment.value v).before s).value = some (v, s) := by
  by_cases hv : v = .null
  · subst hv
    rfl
  · have hkeyword : ((text "?").before ⟨s.chars, v :: s.args⟩).keyword "NULL" = none := rfl
    rw [Fragment.before_value hv, value, hkeyword]
    simp only [keyword_text]
    rfl

/-- Reads the values that follow another one in a list, and the parenthesis behind them. -/
def moreValues : Nat → Source → Option (List Value × Source)
  | 0, _ => none
  | fuel + 1, s =>
    match s.keyword ")" with
    | some s => some ([], s)
    | none => do
      let s ← s.keyword ", "
      let (v, s) ← s.value
      let (vs, s) ← moreValues fuel s
      return (v :: vs, s)

theorem moreValues_before {vs : List Value} {fuel : Nat} (h : vs.length < fuel) (s : Source) :
    moreValues fuel ((Fragment.moreValues vs).before ((text ")").before s)) = some (vs, s) := by
  induction vs generalizing fuel with
  | nil =>
    obtain ⟨fuel, rfl⟩ : ∃ k, fuel = k + 1 := ⟨fuel - 1, by omega⟩
    rw [moreValues, Fragment.moreValues, Fragment.before_empty, keyword_text]
  | cons v vs ih =>
    obtain ⟨fuel, rfl⟩ : ∃ k, fuel = k + 1 := ⟨fuel - 1, by omega⟩
    have hcomma (s : Source) : ((text ", ").before s).keyword ")" = none := rfl
    rw [moreValues, Fragment.moreValues, Fragment.before_append, hcomma]
    simp only [keyword_text, Fragment.before_append, value_before,
      ih (Nat.lt_of_succ_lt_succ h), Option.bind_eq_bind, Option.bind_some, Option.pure_def]

/-- Reads a list of values in parentheses, of which there is at least one. -/
def row (s : Source) : Option (List Value × Source) := do
  let s ← s.keyword "("
  let (v, s) ← s.value
  let (vs, s) ← moreValues s.chars.length s
  return (v :: vs, s)

theorem row_before (v : Value) (vs : List Value) (s : Source) :
    ((Fragment.values (v :: vs)).parenthesized.before s).row = some (v :: vs, s) := by
  have hfuel :
      vs.length < ((Fragment.moreValues vs).before ((text ")").before s)).chars.length := by
    have hlength := Fragment.length_le_length_moreValues vs
    have hclose : ")".toList.length = 1 := rfl
    simp only [Fragment.before, Fragment.sql_text, List.length_append, String.length_toList,
      hclose]
    omega
  rw [Fragment.parenthesized, Fragment.values_cons, row]
  simp only [Fragment.before_append, keyword_text, value_before, moreValues_before hfuel,
    Option.bind_eq_bind, Option.bind_some, Option.pure_def]

/-- Reads a connective between two siblings. -/
def connective (s : Source) : Option (Connective × Source) :=
  match s.keyword " AND " with
  | some s => some (.and, s)
  | none => (s.keyword " OR ").map (.or, ·)

@[simp] theorem connective_before (link : Connective) (s : Source) :
    ((Forest.connective false link).before s).connective = some (link, s) := by
  cases link <;> rfl

end Source

/-! ## Forests -/

section Read

variable (leaf : Source → Option (R × Source))

mutual

/-- Reads a node behind a connective. -/
def ConditionNode.read : Nat → Connective → Source → Option (ConditionNode R × Source)
  | 0, _, _ => none
  | fuel + 1, link, s =>
    match s.keyword "(" with
    | some s => do
      let (children, s) ← Forest.readAll fuel s
      let s ← s.keyword ")"
      return (.group link children, s)
    | none => do
      let (condition, s) ← leaf s
      return (.leaf link condition, s)

/-- Reads siblings, of which there is at least one. -/
def Forest.readAll : Nat → Source → Option (Forest R × Source)
  | 0, _ => none
  | fuel + 1, s => do
    let (node, s) ← ConditionNode.read fuel .and s
    let (nodes, s) ← Forest.readRest fuel s
    return (node :: nodes, s)

/-- Reads the siblings that follow, each behind its connective. -/
def Forest.readRest : Nat → Source → Option (Forest R × Source)
  | 0, _ => none
  | fuel + 1, s =>
    match s.connective with
    | some (link, s) => do
      let (node, s) ← ConditionNode.read fuel link s
      let (nodes, s) ← Forest.readRest fuel s
      return (node :: nodes, s)
    | none => some ([], s)

end

/-- Reads siblings from a text that holds nothing else. No group goes deeper than its text is long.
-/
def Forest.read (f : Fragment) : Option (Forest R) :=
  if f.sql = "" then some []
  else
    match Forest.readAll leaf (f.sql.length + 1) (f.before {}) with
    | some (nodes, ⟨[], []⟩) => some nodes
    | _ => none

/-- The condition, written as the given text, is read as what stands for it. -/
structure ReadsBack (write : P → Fragment) (shown : P → R) (condition : P) : Prop where
  /-- The text is read before any rest. -/
  read : ∀ s, leaf ((write condition).before s) = some (shown condition, s)
  /-- The text does not start like a group. -/
  not_group : ∀ s, ((write condition).before s).keyword "(" = none
  /-- There is text. -/
  length_pos : 0 < (write condition).sql.length

end Read

namespace Forest

variable {leaf : Source → Option (R × Source)} {write : P → Fragment} {shown : P → R}

theorem read_leaf {condition : P} (h : ReadsBack leaf write shown condition) {fuel : Nat}
    (hfuel : (write condition).sql.length ≤ fuel) (link : Connective) (s : Source) :
    ConditionNode.read leaf fuel link ((write condition).before s) =
      some (.leaf link (shown condition), s) := by
  have hpos := h.length_pos
  obtain ⟨fuel, rfl⟩ : ∃ k, fuel = k + 1 := ⟨fuel - 1, by omega⟩
  rw [ConditionNode.read, h.not_group s]
  simp only [h.read s, Option.bind_eq_bind, Option.bind_some, Option.pure_def]

theorem read_group {f : Fragment} {children : Forest R}
    (h : ∀ fuel (s : Source), s.connective = none → f.sql.length < fuel →
      readAll leaf fuel (f.before s) = some (children, s))
    {fuel : Nat} (hfuel : f.parenthesized.sql.length ≤ fuel) (link : Connective) (s : Source) :
    ConditionNode.read leaf fuel link (f.parenthesized.before s) =
      some (.group link children, s) := by
  rw [Fragment.length_parenthesized] at hfuel
  obtain ⟨fuel, rfl⟩ : ∃ k, fuel = k + 1 := ⟨fuel - 1, by omega⟩
  have hclose : ((text ")").before s).connective = none := rfl
  rw [Fragment.parenthesized, Fragment.before_append, Fragment.before_append, ConditionNode.read,
    Source.keyword_text]
  simp only [h fuel _ hclose (by omega), Source.keyword_text, Option.bind_eq_bind,
    Option.bind_some, Option.pure_def]

/-- A node and what follows it are read one after the other, whether or not it is the first. -/
theorem read_cons {f rest : Fragment} (node : ConditionNode R) {nodes : Forest R} {s : Source}
    (hpos : 0 < f.sql.length)
    (hnode : ∀ fuel, f.sql.length ≤ fuel → ∀ link t,
      ConditionNode.read leaf fuel link (f.before t) = some (node.withLink link, t))
    (hrest : ∀ fuel, rest.sql.length < fuel →
      readRest leaf fuel (rest.before s) = some (nodes, s))
    (link : Connective) (fuel : Nat) :
    ((connective false link ++ f ++ rest).sql.length < fuel →
      readRest leaf fuel ((connective false link ++ f ++ rest).before s) =
        some (node.withLink link :: nodes, s)) ∧
    ((connective true link ++ f ++ rest).sql.length < fuel →
      readAll leaf fuel ((connective true link ++ f ++ rest).before s) =
        some (node.withLink .and :: nodes, s)) := by
  have hfirst (t : Source) : (connective true link).before t = t := rfl
  simp only [Fragment.sql_append, String.length_append, Fragment.before_append, hfirst]
  constructor
  all_goals
    intro hfuel
    obtain ⟨fuel, rfl⟩ : ∃ k, fuel = k + 1 := ⟨fuel - 1, by omega⟩
    simp only [readRest, readAll, Source.connective_before, hnode fuel (by omega),
      hrest fuel (by omega), Option.bind_eq_bind, Option.bind_some, Option.pure_def]

/-- The siblings that follow others are read back as far as their text shows them, and so are the
first ones if there are any. -/
theorem read_layoutFrom {nodes : Forest P}
    (h : ∀ c ∈ leaves nodes, ReadsBack leaf write shown c) (fuel : Nat) (s : Source)
    (hs : s.connective = none) :
    ((layoutFrom false (map write nodes)).sql.length < fuel →
      readRest leaf fuel ((layoutFrom false (map write nodes)).before s) =
        some (pruned (map shown nodes), s)) ∧
    (Forest.isVacant nodes = false → (layout (map write nodes)).sql.length < fuel →
      readAll leaf fuel ((layout (map write nodes)).before s) =
        some (normalForm (map shown nodes), s)) := by
  induction nodes using Forest.induction generalizing fuel s with
  | nil =>
    refine ⟨fun hfuel => ?_, fun hvacant => by simp at hvacant⟩
    obtain ⟨fuel, rfl⟩ : ∃ k, fuel = k + 1 := ⟨fuel - 1, by omega⟩
    rw [map_nil, layoutFrom_nil, Fragment.before_empty, readRest, hs, map_nil, pruned_nil]
  | leaf link condition nodes ih =>
    rw [leaves_leaf_cons, List.forall_mem_cons] at h
    obtain ⟨hrest, hall⟩ := read_cons (.leaf link (shown condition)) h.1.length_pos
      (fun _ hfuel link t => read_leaf h.1 hfuel link t)
      (fun fuel hfuel => (ih h.2 fuel s hs).1 hfuel) link fuel
    rw [map_leaf_cons, map_leaf_cons, layout, layoutFrom_leaf_cons, layoutFrom_leaf_cons,
      normalForm, pruned_leaf_cons]
    exact ⟨hrest, fun _ => hall⟩
  | group link children nodes ihc ihn =>
    rw [leaves_group_cons, List.forall_mem_append] at h
    cases hvacant : Forest.isVacant children with
    | true =>
      rw [map_group_cons, map_group_cons, layout, layoutFrom_group_cons, layoutFrom_group_cons,
        isVacant_map, if_pos hvacant, if_pos hvacant, isVacant_group_cons, hvacant, Bool.true_and,
        normalForm, pruned_group_cons_of_vacant (by rwa [isVacant_map])]
      exact ihn h.2 fuel s hs
    | false =>
      have hpos : 0 < (layout (map write children)).parenthesized.sql.length := by
        rw [Fragment.length_parenthesized]
        omega
      obtain ⟨hrest, hall⟩ := read_cons (.group link (normalForm (map shown children))) hpos
        (fun _ hfuel link t => read_group
          (fun fuel s hs hfuel => (ihc h.1 fuel s hs).2 hvacant hfuel) hfuel link t)
        (fun fuel hfuel => (ihn h.2 fuel s hs).1 hfuel) link fuel
      rw [map_group_cons, map_group_cons, layout, layoutFrom_group_cons, layoutFrom_group_cons,
        isVacant_map, if_neg (by simp [hvacant]), if_neg (by simp [hvacant]), normalForm,
        pruned_group_cons (by rwa [isVacant_map])]
      exact ⟨hrest, fun _ => hall⟩

/-- If every condition is read back, a forest is read back as far as its text shows it. -/
theorem read_layout {nodes : Forest P} (h : ∀ c ∈ leaves nodes, ReadsBack leaf write shown c) :
    read leaf (layout (map write nodes)) = some (normalForm (map shown nodes)) := by
  cases hvacant : Forest.isVacant nodes with
  | true =>
    rw [layout_of_isVacant (by rwa [isVacant_map]), normalForm_of_isVacant (by rwa [isVacant_map]),
      read, Fragment.sql_empty, if_pos rfl]
  | false =>
    have hread := (read_layoutFrom h ((layout (map write nodes)).sql.length + 1) {} rfl).2 hvacant
      (Nat.lt_succ_self _)
    by_cases hempty : (layout (map write nodes)).sql = ""
    · rw [hempty] at hread
      cases hread
    · rw [read, if_neg hempty, hread]

end Forest

end BoundSql
