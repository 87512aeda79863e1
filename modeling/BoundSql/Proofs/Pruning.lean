import BoundSql.Proofs.NormalForm
import BoundSql.Proofs.Surrounding
import Mathlib.Data.List.Chain

/-!
# Conditions without the groups that hold none

A group without conditions leaves no trace in the text of a tree. What is written is the tree
without such groups, at whatever depth they stood: each condition, each group between one pair of
parentheses, and between two neighbours the connective of the later one
(`Forest.layout_eq_spell`). Which connective stood before the first of them does not show. Read as
a row of tokens, the text therefore never has a pair of parentheses around nothing, nor a connective
that does not stand between two nodes (`Forest.isChain_tokens`).

The text can also be made in one pass that leaves out vacant nodes first and sees from the text of
a group whether it is to be written. Both ways to look for conditions come to the same
(`Forest.inOnePass_eq_layout`), and so a mutation with a condition anywhere has its `WHERE`.

## Main definitions

* `ConditionTree.compile` — the text of a tree of conditions.
* `Forest.withoutVacant` — a forest without the groups that have no conditions.
* `Forest.SameButFirst` — forests that differ in the connectives that do not show.
* `Token`, `Forest.tokens` — what is written of a forest in which nothing is left out.
* `Forest.inOnePass` — the text made part by part.
-/

namespace BoundSql

open Fragment (text)

variable {P Q : Type}

/-! ## Forests without vacant groups -/

mutual

/-- A node without the groups in it that have no conditions; nothing if it is such a group. -/
def ConditionNode.withoutVacant : ConditionNode P → Forest P
  | .leaf link condition => [.leaf link condition]
  | .group link children =>
    if Forest.isVacant children then [] else [.group link (Forest.withoutVacant children)]

/-- Siblings without the groups that have no conditions, at any depth. -/
def Forest.withoutVacant : Forest P → Forest P
  | [] => []
  | node :: nodes => node.withoutVacant ++ Forest.withoutVacant nodes

end

namespace Forest

/-- Siblings that agree but for the connective before the first node on each level; `first` says
that no node stands before them. -/
inductive SameButFirst : Bool → Forest P → Forest P → Prop
  | nil (first : Bool) : SameButFirst first [] []
  | leaf {first : Bool} {link link' : Connective} (condition : P) {nodes nodes' : Forest P} :
    (first = false → link = link') → SameButFirst false nodes nodes' →
      SameButFirst first (.leaf link condition :: nodes) (.leaf link' condition :: nodes')
  | group {first : Bool} {link link' : Connective} {children children' nodes nodes' : Forest P} :
    (first = false → link = link') → SameButFirst true children children' →
      SameButFirst false nodes nodes' →
        SameButFirst first (.group link children :: nodes) (.group link' children' :: nodes')

@[simp] theorem withoutVacant_nil : withoutVacant ([] : Forest P) = [] := by rw [withoutVacant]

@[simp] theorem withoutVacant_leaf_cons (link : Connective) (condition : P) (nodes : Forest P) :
    withoutVacant (.leaf link condition :: nodes) =
      .leaf link condition :: withoutVacant nodes := by
  rw [withoutVacant, ConditionNode.withoutVacant, List.singleton_append]

theorem withoutVacant_group_cons_of_vacant {children : Forest P}
    (h : Forest.isVacant children = true) (link : Connective) (nodes : Forest P) :
    withoutVacant (.group link children :: nodes) = withoutVacant nodes := by
  rw [withoutVacant, ConditionNode.withoutVacant, if_pos h, List.nil_append]

theorem withoutVacant_group_cons {children : Forest P} (h : Forest.isVacant children = false)
    (link : Connective) (nodes : Forest P) :
    withoutVacant (.group link children :: nodes) =
      .group link (withoutVacant children) :: withoutVacant nodes := by
  rw [withoutVacant, ConditionNode.withoutVacant, if_neg (by simp [h]), List.singleton_append]

/-- The conditions stay. -/
@[simp] theorem leaves_withoutVacant (nodes : Forest P) :
    leaves (withoutVacant nodes) = leaves nodes := by
  induction nodes using Forest.induction with
  | nil => simp
  | leaf link condition nodes ih => simp [ih]
  | group link children nodes ihc ihn =>
    cases h : Forest.isVacant children with
    | true =>
      rw [withoutVacant_group_cons_of_vacant h, ihn, leaves_group_cons, isVacant_iff.mp h,
        List.nil_append]
    | false =>
      rw [withoutVacant_group_cons h, leaves_group_cons, leaves_group_cons, ihc, ihn]

@[simp] theorem isVacant_withoutVacant (nodes : Forest P) :
    Forest.isVacant (withoutVacant nodes) = Forest.isVacant nodes := by
  rw [Bool.eq_iff_iff, isVacant_iff, isVacant_iff, leaves_withoutVacant]

theorem map_withoutVacant (f : P → Q) (nodes : Forest P) :
    map f (withoutVacant nodes) = withoutVacant (map f nodes) := by
  induction nodes using Forest.induction with
  | nil => simp
  | leaf link condition nodes ih => simp [ih]
  | group link children nodes ihc ihn =>
    cases h : Forest.isVacant children with
    | true =>
      rw [withoutVacant_group_cons_of_vacant h, map_group_cons,
        withoutVacant_group_cons_of_vacant (by rwa [isVacant_map]), ihn]
    | false =>
      rw [withoutVacant_group_cons h, map_group_cons, map_group_cons,
        withoutVacant_group_cons (by rwa [isVacant_map]), ihc, ihn]

/-- Leaving out vacant groups does not change what the text shows. -/
theorem normalForm_withoutVacant (nodes : Forest P) :
    normalForm (withoutVacant nodes) = normalForm nodes := by
  suffices h : pruned (withoutVacant nodes) = pruned nodes by
    rw [normalForm, normalForm, h]
  induction nodes using Forest.induction with
  | nil => simp
  | leaf link condition nodes ih => simp [ih]
  | group link children nodes ihc ihn =>
    cases h : Forest.isVacant children with
    | true => rw [withoutVacant_group_cons_of_vacant h, pruned_group_cons_of_vacant h, ihn]
    | false =>
      rw [withoutVacant_group_cons h, pruned_group_cons (by rwa [isVacant_withoutVacant]),
        pruned_group_cons h, normalForm, normalForm, ihc, ihn]

/-! ## Connectives that do not show -/

namespace SameButFirst

variable {first : Bool} {nodes nodes' : Forest P}

theorem leaves_eq (h : SameButFirst first nodes nodes') : leaves nodes = leaves nodes' := by
  induction h with
  | nil _ => rfl
  | leaf condition _ _ ih => simp [ih]
  | group _ _ _ ihc ihn => simp [ihc, ihn]

theorem isVacant_eq (h : SameButFirst first nodes nodes') :
    Forest.isVacant nodes = Forest.isVacant nodes' := by
  rw [Bool.eq_iff_iff, isVacant_iff, isVacant_iff, h.leaves_eq]

/-- Behind other nodes the same is written; where no node stands before them, the same but for the
first connective. -/
theorem pruned_eq (h : SameButFirst first nodes nodes') :
    (first = false → pruned nodes = pruned nodes') ∧ normalForm nodes = normalForm nodes' := by
  induction h with
  | nil _ => exact ⟨fun _ => rfl, rfl⟩
  | leaf condition hlink _ ih =>
    have hrest := ih.1 rfl
    constructor
    · intro hfirst
      rw [pruned_leaf_cons, pruned_leaf_cons, hlink hfirst, hrest]
    · rw [normalForm, normalForm, pruned_leaf_cons, pruned_leaf_cons, hrest]
      rfl
  | @group first link link' children children' nodes nodes' hlink hchildren _ ihc ihn =>
    have hrest := ihn.1 rfl
    have hvacant := hchildren.isVacant_eq
    cases h : Forest.isVacant children with
    | true =>
      have h' : Forest.isVacant children' = true := by rw [← hvacant, h]
      constructor
      · intro _
        rw [pruned_group_cons_of_vacant h, pruned_group_cons_of_vacant h', hrest]
      · rw [normalForm, normalForm, pruned_group_cons_of_vacant h, pruned_group_cons_of_vacant h',
          hrest]
    | false =>
      have h' : Forest.isVacant children' = false := by rw [← hvacant, h]
      constructor
      · intro hfirst
        rw [pruned_group_cons h, pruned_group_cons h', hlink hfirst, ihc.2, hrest]
      · rw [normalForm, normalForm, pruned_group_cons h, pruned_group_cons h', ihc.2, hrest]
        rfl

/-- Connectives that do not show leave the text as it is. -/
theorem layout_eq {nodes nodes' : Forest Fragment} (h : SameButFirst true nodes nodes') :
    layout nodes = layout nodes' := by
  rw [← layout_normalForm, h.pruned_eq.2, layout_normalForm]

theorem map (h : SameButFirst first nodes nodes') (f : P → Q) :
    SameButFirst first (Forest.map f nodes) (Forest.map f nodes') := by
  induction h with
  | nil first => exact .nil first
  | leaf condition hlink _ ih => exact .leaf (f condition) hlink ih
  | group hlink _ _ ihc ihn => exact .group hlink ihc ihn

end SameButFirst

end Forest

/-! ## The text as a row of tokens -/

/-- A parenthesis, a connective or a condition in the text of a forest. -/
inductive Token (P : Type) where
  | opening
  | closing
  | link (link : Connective)
  | condition (condition : P)

namespace Token

/-- Whether a condition or a group begins with the token. -/
def begins : Token P → Bool
  | opening | condition _ => true
  | closing | link _ => false

/-- Whether a condition or a group ends with the token. -/
def ends : Token P → Bool
  | closing | condition _ => true
  | opening | link _ => false

/-- One token may stand before another: behind the end of a node comes no beginning, so a connective
or the end of the group around it; and behind an opening parenthesis or a connective comes the
beginning of a node, so neither a closing parenthesis nor a connective. -/
def MayPrecede (a b : Token P) : Prop := b.begins = !a.ends

/-- A token in SQL. -/
def fragment : Token Fragment → Fragment
  | opening => text "("
  | closing => text ")"
  | link connective => text (" " ++ connective.sql ++ " ")
  | condition f => f

/-- Tokens one after another. -/
def spell : List (Token Fragment) → Fragment
  | [] => .empty
  | token :: tokens => token.fragment ++ spell tokens

@[simp] theorem spell_nil : spell [] = .empty := rfl

@[simp] theorem spell_cons (token : Token Fragment) (tokens : List (Token Fragment)) :
    spell (token :: tokens) = token.fragment ++ spell tokens := rfl

theorem spell_append (tokens others : List (Token Fragment)) :
    spell (tokens ++ others) = spell tokens ++ spell others := by
  induction tokens with
  | nil => rw [List.nil_append, spell_nil, Fragment.empty_append]
  | cons token tokens ih => rw [List.cons_append, spell_cons, spell_cons, ih, Fragment.append_assoc]

end Token

mutual

/-- A condition, or a group between one pair of parentheses. -/
def ConditionNode.tokens : ConditionNode P → List (Token P)
  | .leaf _ condition => [.condition condition]
  | .group _ children => .opening :: (Forest.tokensFrom true children ++ [.closing])

/-- Siblings in order, with the connective of each before it; `first` says that no node stands
before them, where there is nothing to connect. -/
def Forest.tokensFrom : Bool → Forest P → List (Token P)
  | _, [] => []
  | first, node :: nodes =>
    (if first then [] else [.link node.link]) ++ (node.tokens ++ Forest.tokensFrom false nodes)

end

namespace Forest

/-- What is written of a forest in which nothing is left out. -/
def tokens (nodes : Forest P) : List (Token P) := tokensFrom true nodes

@[simp] theorem tokensFrom_nil (first : Bool) : tokensFrom first ([] : Forest P) = [] := by
  cases first <;> rw [tokensFrom]

theorem tokensFrom_leaf_cons (first : Bool) (link : Connective) (condition : P)
    (nodes : Forest P) :
    tokensFrom first (.leaf link condition :: nodes) =
      (if first then [] else [.link link]) ++ .condition condition :: tokensFrom false nodes := by
  rw [tokensFrom, ConditionNode.tokens, ConditionNode.link, List.singleton_append]

theorem tokensFrom_group_cons (first : Bool) (link : Connective) (children nodes : Forest P) :
    tokensFrom first (.group link children :: nodes) =
      (if first then [] else [.link link]) ++
        .opening :: (tokens children ++ .closing :: tokensFrom false nodes) := by
  rw [tokensFrom, ConditionNode.tokens, ConditionNode.link, List.cons_append, List.append_assoc,
    List.singleton_append, tokens]

theorem spell_connective (first : Bool) (link : Connective) :
    Token.spell (if first then [] else [.link link]) = connective first link := by
  cases first with
  | true => rfl
  | false => exact Fragment.append_empty _

theorem layoutFrom_eq_spell (first : Bool) (nodes : Forest Fragment) :
    layoutFrom first nodes = Token.spell (tokensFrom first (withoutVacant nodes)) := by
  induction nodes using Forest.induction generalizing first with
  | nil => rw [layoutFrom_nil, withoutVacant_nil, tokensFrom_nil, Token.spell_nil]
  | leaf link f nodes ih =>
    rw [layoutFrom_leaf_cons, withoutVacant_leaf_cons, tokensFrom_leaf_cons, Token.spell_append,
      spell_connective, Token.spell_cons, ← ih, Fragment.append_assoc]
    rfl
  | group link children nodes ihc ihn =>
    rw [layoutFrom_group_cons]
    cases h : Forest.isVacant children with
    | true => rw [if_pos rfl, withoutVacant_group_cons_of_vacant h, ihn]
    | false =>
      rw [if_neg Bool.false_ne_true, withoutVacant_group_cons h, tokensFrom_group_cons,
        Token.spell_append, spell_connective, Token.spell_cons, Token.spell_append,
        Token.spell_cons, ← ihn, tokens, ← ihc]
      simp only [Fragment.parenthesized, Fragment.append_assoc]
      rfl

/-- The text of a forest is that of the forest without vacant groups, where no node is left out. -/
theorem layout_eq_spell (nodes : Forest Fragment) :
    layout nodes = Token.spell (tokens (withoutVacant nodes)) :=
  layoutFrom_eq_spell true nodes

/-- A node comes behind a connective, or behind a token that no node ends with. -/
theorem isChain_connective {first : Bool} {before token : Token P} {rest : List (Token P)}
    (hbefore : before.ends = !first) (htoken : token.begins = true)
    (hrest : List.IsChain Token.MayPrecede (token :: rest)) (link : Connective) :
    List.IsChain Token.MayPrecede
      (before :: ((if first then [] else [.link link]) ++ token :: rest)) := by
  cases first with
  | true =>
    have hfirst : before.MayPrecede token := by
      rw [Token.MayPrecede, htoken, hbefore]
      rfl
    exact .cons_cons hfirst hrest
  | false =>
    have hlink : before.MayPrecede (.link link) := by
      rw [Token.MayPrecede, hbefore]
      rfl
    exact .cons_cons hlink (.cons_cons htoken hrest)

/-- The tokens of siblings stand where they may, between what comes before the siblings and the end
of the group around them. Where no node comes before them, there has to be one among them. -/
theorem isChain_tokensFrom {first : Bool} {nodes : Forest P}
    (hnodes : first = true → Forest.isVacant nodes = false) {before : Token P}
    (hbefore : before.ends = !first) :
    List.IsChain Token.MayPrecede
      (before :: (tokensFrom first (withoutVacant nodes) ++ [.closing])) := by
  induction nodes using Forest.induction generalizing first before with
  | nil =>
    cases first with
    | true => simp at hnodes
    | false =>
      have hclosing : before.MayPrecede .closing := by
        rw [Token.MayPrecede, hbefore]
        rfl
      rw [withoutVacant_nil, tokensFrom_nil, List.nil_append]
      exact .cons_cons hclosing (.singleton _)
  | leaf link condition nodes ih =>
    have hrest : List.IsChain Token.MayPrecede (.condition condition ::
        (tokensFrom false (withoutVacant nodes) ++ [.closing])) := ih (by simp) rfl
    rw [withoutVacant_leaf_cons, tokensFrom_leaf_cons, List.append_assoc, List.cons_append]
    exact isChain_connective hbefore rfl hrest link
  | group link children nodes ihc ihn =>
    cases h : Forest.isVacant children with
    | true =>
      rw [withoutVacant_group_cons_of_vacant h]
      rw [isVacant_group_cons, h, Bool.true_and] at hnodes
      exact ihn hnodes hbefore
    | false =>
      -- The group and what follows it have the closing parenthesis in common.
      have hinner : List.IsChain Token.MayPrecede (.opening ::
          (tokensFrom true (withoutVacant children) ++ [.closing])) := ihc (fun _ => h) rfl
      have hrest : List.IsChain Token.MayPrecede (.closing ::
          (tokensFrom false (withoutVacant nodes) ++ [.closing])) := ihn (by simp) rfl
      have hgroup := List.isChain_cons_split.mpr ⟨hinner, hrest⟩
      rw [withoutVacant_group_cons h, tokensFrom_group_cons, List.append_assoc, List.cons_append,
        List.append_assoc, List.cons_append]
      exact isChain_connective hbefore rfl hgroup link

/-- In parentheses or not, the tokens of a forest with conditions stand where they may: no pair of
parentheses is empty, and a connective stands between two nodes. -/
theorem isChain_tokens {nodes : Forest P} (h : Forest.isVacant nodes = false) :
    List.IsChain Token.MayPrecede (.opening :: (tokens (withoutVacant nodes) ++ [.closing])) :=
  isChain_tokensFrom (fun _ => h) rfl

end Forest

/-! ## The text in one pass -/

/-- The connective at the start of a part of the text, unless the part is the first. -/
def Connective.unlessFirst (link : Connective) (first : Bool) : Fragment :=
  if first then .empty else text (link.sql ++ " ")

mutual

/-- A node as a part of the text; `first` says that it is the first part. A group whose siblings
make no text makes none, and has no connective. -/
def ConditionNode.part (first : Bool) : ConditionNode Fragment → Fragment
  | .leaf link f => link.unlessFirst first ++ f
  | .group link children =>
    let inner := Fragment.join " " (Forest.partsAfter [] children)
    if inner.isEmpty then .empty else link.unlessFirst first ++ inner.parenthesized

/-- The parts of the text behind those that were made, with nodes left out that are vacant. -/
def Forest.partsAfter (parts : List Fragment) : Forest Fragment → List Fragment
  | [] => parts
  | node :: nodes =>
    if node.isVacant then Forest.partsAfter parts nodes
    else Forest.partsAfter (parts ++ [node.part parts.isEmpty]) nodes

end

namespace Fragment

theorem isEmpty_eq_true_iff {f : Fragment} : f.isEmpty = true ↔ f.sql = "" := by
  rw [isEmpty, String.isEmpty_iff]

theorem isEmpty_append (f g : Fragment) : (f ++ g).isEmpty = (f.isEmpty && g.isEmpty) := by
  rw [Bool.eq_iff_iff, Bool.and_eq_true]
  simp only [isEmpty, String.isEmpty_iff, sql_append, String.append_eq_empty_iff]

theorem isEmpty_parenthesized (f : Fragment) : f.parenthesized.isEmpty = false := by
  rw [parenthesized, isEmpty_append, isEmpty_append]
  rfl

/-- A separator behind each of some pieces is one between neighbours and one behind the last. -/
theorem lead_eq (separator : String) (fs : List Fragment) :
    lead separator fs = join separator fs ++ if fs.isEmpty then .empty else text separator := by
  induction fs with
  | nil => rfl
  | cons f fs ih =>
    rw [lead, ih]
    cases fs with
    | nil => simp [join]
    | cons g fs => simp [join, append_assoc]

/-- One more piece behind others comes behind a separator. -/
theorem join_append_singleton (separator : String) (fs : List Fragment) (f : Fragment) :
    join separator (fs ++ [f]) =
      join separator fs ++ ((if fs.isEmpty then .empty else text separator) ++ f) := by
  rw [join_append_cons, lead_eq, trail, append_empty, append_assoc]

end Fragment

namespace Forest

/-- A forest written part by part. -/
def inOnePass (nodes : Forest Fragment) : Fragment := .join " " (partsAfter [] nodes)

theorem partsAfter_leaf_cons (parts : List Fragment) (link : Connective) (f : Fragment)
    (nodes : Forest Fragment) :
    partsAfter parts (.leaf link f :: nodes) =
      partsAfter (parts ++ [link.unlessFirst parts.isEmpty ++ f]) nodes := by
  rw [partsAfter, ConditionNode.isVacant, if_neg Bool.false_ne_true, ConditionNode.part]

theorem partsAfter_group_cons (parts : List Fragment) (link : Connective)
    (children nodes : Forest Fragment) :
    partsAfter parts (.group link children :: nodes) =
      if Forest.isVacant children then partsAfter parts nodes
      else partsAfter (parts ++ [if (inOnePass children).isEmpty then .empty
        else link.unlessFirst parts.isEmpty ++ (inOnePass children).parenthesized]) nodes := by
  rw [partsAfter, ConditionNode.isVacant, ConditionNode.part]
  rfl

/-- Where every condition has a text, a forest has one exactly if it has a condition. -/
theorem isEmpty_layoutFrom (first : Bool) {nodes : Forest Fragment}
    (h : ∀ f ∈ leaves nodes, f.isEmpty = false) :
    (layoutFrom first nodes).isEmpty = Forest.isVacant nodes := by
  induction nodes using Forest.induction generalizing first with
  | nil =>
    rw [layoutFrom_nil, isVacant_nil]
    rfl
  | leaf link f nodes _ =>
    have hf : f.isEmpty = false := h f (by simp)
    rw [layoutFrom_leaf_cons, Fragment.isEmpty_append, Fragment.isEmpty_append, hf,
      isVacant_leaf_cons, Bool.and_false, Bool.false_and]
  | group link children nodes _ ihn =>
    rw [leaves_group_cons, List.forall_mem_append] at h
    rw [layoutFrom_group_cons, isVacant_group_cons]
    cases hv : Forest.isVacant children with
    | true => rw [if_pos rfl, ihn first h.2, Bool.true_and]
    | false =>
      rw [if_neg Bool.false_ne_true, Fragment.isEmpty_append, Fragment.isEmpty_append,
        Fragment.isEmpty_parenthesized, Bool.and_false, Bool.false_and, Bool.false_and]

theorem isEmpty_layout {nodes : Forest Fragment} (h : ∀ f ∈ leaves nodes, f.isEmpty = false) :
    (layout nodes).isEmpty = Forest.isVacant nodes :=
  isEmpty_layoutFrom true h

/-- The blank between two parts and the connective at the start of the second. -/
theorem separator_append_unlessFirst (first : Bool) (link : Connective) :
    (if first then .empty else text " ") ++ link.unlessFirst first = connective first link := by
  cases first <;> cases link <;> rfl

/-- Behind the parts that were made, the rest of the forest is written. -/
theorem join_partsAfter (parts : List Fragment) {nodes : Forest Fragment}
    (h : ∀ f ∈ leaves nodes, f.isEmpty = false) :
    Fragment.join " " (partsAfter parts nodes) =
      .join " " parts ++ layoutFrom parts.isEmpty nodes := by
  have hmore (ps : List Fragment) (f : Fragment) : (ps ++ [f]).isEmpty = false := by simp
  induction nodes using Forest.induction generalizing parts with
  | nil => rw [partsAfter, layoutFrom_nil, Fragment.append_empty]
  | leaf link f nodes ih =>
    rw [leaves_leaf_cons, List.forall_mem_cons] at h
    rw [partsAfter_leaf_cons, ih _ h.2, hmore, Fragment.join_append_singleton,
      layoutFrom_leaf_cons, ← separator_append_unlessFirst]
    simp only [Fragment.append_assoc]
  | group link children nodes ihc ihn =>
    rw [leaves_group_cons, List.forall_mem_append] at h
    have hinner : inOnePass children = layout children := by
      rw [inOnePass, ihc [] h.1, Fragment.join_nil, Fragment.empty_append]
      rfl
    rw [partsAfter_group_cons, layoutFrom_group_cons, hinner, isEmpty_layout h.1]
    cases hv : Forest.isVacant children with
    | true => rw [if_pos rfl, if_pos rfl, ihn _ h.2]
    | false =>
      rw [if_neg Bool.false_ne_true, if_neg Bool.false_ne_true, if_neg Bool.false_ne_true,
        ihn _ h.2, hmore, Fragment.join_append_singleton,
        ← separator_append_unlessFirst]
      simp only [Fragment.append_assoc]

/-- Both ways to write a forest come to the same, since a group has a text exactly if it has a
condition. -/
theorem inOnePass_eq_layout {nodes : Forest Fragment}
    (h : ∀ f ∈ leaves nodes, f.isEmpty = false) : inOnePass nodes = layout nodes := by
  rw [inOnePass, join_partsAfter [] h, Fragment.join_nil, Fragment.empty_append]
  rfl

end Forest

end BoundSql
