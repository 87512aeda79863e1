import BoundSql.Proofs.Forest

/-!
# Normal forms of forests

The text of a forest leaves out groups without conditions and the connective before the first node
that it writes on each level. `Forest.normalForm` leaves out the same of the forest itself, so a
forest and its normal form have one text (`Forest.layout_normalForm`) and the same conditions.

## Main definitions

* `Forest.pruned` — siblings without the groups that have no conditions.
* `Forest.forgetFirst` — siblings without the connective before the first.
* `Forest.normalForm` — a forest reduced to what its text shows.
-/

namespace BoundSql

variable {P Q : Type}

namespace ConditionNode

/-- A node behind another connective. -/
def withLink (link : Connective) : ConditionNode P → ConditionNode P
  | .leaf _ condition => .leaf link condition
  | .group _ children => .group link children

@[simp] theorem withLink_leaf (link other : Connective) (condition : P) :
    withLink link (.leaf other condition) = .leaf link condition := rfl

@[simp] theorem withLink_group (link other : Connective) (children : Forest P) :
    withLink link (.group other children) = .group link children := rfl

end ConditionNode

/-- Siblings without the connective before the first; `AND` stands in its place. -/
def Forest.forgetFirst : Forest P → Forest P
  | [] => []
  | node :: nodes => node.withLink .and :: nodes

mutual

/-- A node with its children in normal form; nothing of a group without conditions. -/
def ConditionNode.pruned : ConditionNode P → Forest P
  | .leaf link condition => [.leaf link condition]
  | .group link children =>
    if Forest.isVacant children then []
    else [.group link (Forest.forgetFirst (Forest.pruned children))]

/-- Siblings without the groups that have no conditions, in the other groups as well. -/
def Forest.pruned : Forest P → Forest P
  | [] => []
  | node :: nodes => node.pruned ++ Forest.pruned nodes

end

namespace Forest

/-- Siblings without the groups that have no conditions; on each level the connective before the
first node that remains is forgotten. -/
def normalForm (nodes : Forest P) : Forest P := forgetFirst (pruned nodes)

@[simp] theorem forgetFirst_nil : forgetFirst ([] : Forest P) = [] := rfl

@[simp] theorem forgetFirst_cons (node : ConditionNode P) (nodes : Forest P) :
    forgetFirst (node :: nodes) = node.withLink .and :: nodes := rfl

@[simp] theorem pruned_nil : pruned ([] : Forest P) = [] := by rw [pruned]

@[simp] theorem pruned_leaf_cons (link : Connective) (condition : P) (nodes : Forest P) :
    pruned (.leaf link condition :: nodes) = .leaf link condition :: pruned nodes := by
  rw [pruned, ConditionNode.pruned, List.singleton_append]

theorem pruned_group_cons_of_vacant {children : Forest P} (h : Forest.isVacant children = true)
    (link : Connective) (nodes : Forest P) :
    pruned (.group link children :: nodes) = pruned nodes := by
  rw [pruned, ConditionNode.pruned, if_pos h, List.nil_append]

theorem pruned_group_cons {children : Forest P} (h : Forest.isVacant children = false)
    (link : Connective) (nodes : Forest P) :
    pruned (.group link children :: nodes) = .group link (normalForm children) :: pruned nodes := by
  rw [pruned, ConditionNode.pruned, if_neg (by simp [h]), List.singleton_append, normalForm]

/-! ## Conditions -/

@[simp] theorem leaves_forgetFirst (nodes : Forest P) :
    leaves (forgetFirst nodes) = leaves nodes := by
  rcases nodes with _ | ⟨_ | _, nodes⟩ <;> simp

/-- The conditions stay. -/
@[simp] theorem leaves_pruned (nodes : Forest P) : leaves (pruned nodes) = leaves nodes := by
  induction nodes using Forest.induction with
  | nil => simp
  | leaf link condition nodes ih => simp [ih]
  | group link children nodes ihc ihn =>
    cases h : Forest.isVacant children with
    | true =>
      rw [pruned_group_cons_of_vacant h, ihn, leaves_group_cons, isVacant_iff.mp h, List.nil_append]
    | false =>
      rw [pruned_group_cons h, leaves_group_cons, normalForm, leaves_forgetFirst, ihc, ihn,
        leaves_group_cons]

@[simp] theorem leaves_normalForm (nodes : Forest P) :
    leaves (normalForm nodes) = leaves nodes := by
  rw [normalForm, leaves_forgetFirst, leaves_pruned]

@[simp] theorem isVacant_normalForm (nodes : Forest P) :
    Forest.isVacant (normalForm nodes) = Forest.isVacant nodes := by
  rw [Bool.eq_iff_iff, isVacant_iff, isVacant_iff, leaves_normalForm]

theorem pruned_of_isVacant {nodes : Forest P} (h : Forest.isVacant nodes = true) :
    pruned nodes = [] := by
  induction nodes using Forest.induction with
  | nil => simp
  | leaf link condition nodes _ => simp at h
  | group link children nodes _ ihn =>
    rw [isVacant_group_cons, Bool.and_eq_true] at h
    rw [pruned_group_cons_of_vacant h.1, ihn h.2]

theorem normalForm_of_isVacant {nodes : Forest P} (h : Forest.isVacant nodes = true) :
    normalForm nodes = [] := by
  rw [normalForm, pruned_of_isVacant h, forgetFirst_nil]

theorem map_forgetFirst (f : P → Q) (nodes : Forest P) :
    map f (forgetFirst nodes) = forgetFirst (map f nodes) := by
  rcases nodes with _ | ⟨_ | _, nodes⟩ <;> simp

theorem map_pruned (f : P → Q) (nodes : Forest P) :
    map f (pruned nodes) = pruned (map f nodes) := by
  induction nodes using Forest.induction with
  | nil => simp
  | leaf link condition nodes ih => simp [ih]
  | group link children nodes ihc ihn =>
    cases h : Forest.isVacant children with
    | true =>
      rw [pruned_group_cons_of_vacant h, ihn, map_group_cons,
        pruned_group_cons_of_vacant (by rwa [isVacant_map])]
    | false =>
      rw [pruned_group_cons h, map_group_cons, map_group_cons, normalForm, map_forgetFirst, ihc,
        ihn, pruned_group_cons (by rwa [isVacant_map]), normalForm]

/-- Normal forms depend on the conditions only through where they are. -/
theorem map_normalForm (f : P → Q) (nodes : Forest P) :
    map f (normalForm nodes) = normalForm (map f nodes) := by
  rw [normalForm, normalForm, map_forgetFirst, map_pruned]

/-! ## Text -/

theorem layout_forgetFirst (nodes : Forest Fragment) :
    layout (forgetFirst nodes) = layout nodes := by
  rcases nodes with _ | ⟨_ | _, nodes⟩
  · rfl
  · rw [forgetFirst_cons, ConditionNode.withLink_leaf, layout, layout, layoutFrom_leaf_cons,
      layoutFrom_leaf_cons]
    rfl
  · rw [forgetFirst_cons, ConditionNode.withLink_group, layout, layout, layoutFrom_group_cons,
      layoutFrom_group_cons]
    rfl

theorem layoutFrom_pruned (first : Bool) (nodes : Forest Fragment) :
    layoutFrom first (pruned nodes) = layoutFrom first nodes := by
  induction nodes using Forest.induction generalizing first with
  | nil => rw [pruned_nil]
  | leaf link f nodes ih =>
    rw [pruned_leaf_cons, layoutFrom_leaf_cons, layoutFrom_leaf_cons, ih]
  | group link children nodes ihc ihn =>
    cases h : Forest.isVacant children with
    | true => rw [pruned_group_cons_of_vacant h, layoutFrom_group_cons, if_pos h, ihn]
    | false =>
      have hchildren : layout (normalForm children) = layout children := by
        rw [normalForm, layout_forgetFirst, layout, layout, ihc]
      rw [pruned_group_cons h, layoutFrom_group_cons, layoutFrom_group_cons, isVacant_normalForm,
        hchildren, ihn, ihn]

/-- A forest has the text of its normal form. -/
theorem layout_normalForm (nodes : Forest Fragment) : layout (normalForm nodes) = layout nodes := by
  rw [normalForm, layout_forgetFirst, layout, layout, layoutFrom_pruned]

theorem layout_of_isVacant {nodes : Forest Fragment} (h : Forest.isVacant nodes = true) :
    layout nodes = .empty := by
  rw [← layout_normalForm, normalForm_of_isVacant h, layout, layoutFrom_nil]

end Forest

end BoundSql
