import BoundSql.ConditionTree

/-!
# Conditions of a forest

A forest is read as its first node and the rest: `Forest.induction` has one case for a leading
condition and one for a leading group, so a property of all forests is one induction. The
conditions of a forest, depth first, are its `leaves`; a forest is vacant exactly if it has none,
and its text binds what its conditions bind, in this order.

## Main definitions

* `Forest.map` — another condition in the place of each one.
* `ConditionTree.map` — likewise for a tree, with the cursor where it was.
* `Forest.leaves` — the conditions from left to right, those of a group where the group stands.
-/

namespace BoundSql

variable {P Q R : Type}

mutual

/-- A node with another condition in the place of each one in it. -/
def ConditionNode.map (f : P → Q) : ConditionNode P → ConditionNode Q
  | .leaf link condition => .leaf link (f condition)
  | .group link children => .group link (Forest.map f children)

/-- Siblings with another condition in the place of each one in them. -/
def Forest.map (f : P → Q) : Forest P → Forest Q
  | [] => []
  | node :: nodes => node.map f :: Forest.map f nodes

end

mutual

/-- The conditions in a node. -/
def ConditionNode.leaves : ConditionNode P → List P
  | .leaf _ condition => [condition]
  | .group _ children => Forest.leaves children

/-- The conditions in siblings. -/
def Forest.leaves : Forest P → List P
  | [] => []
  | node :: nodes => node.leaves ++ Forest.leaves nodes

end

namespace Forest

/-- Induction over a forest by its first node. -/
theorem induction {motive : Forest P → Prop} (nil : motive [])
    (leaf : ∀ link condition nodes, motive nodes → motive (.leaf link condition :: nodes))
    (group : ∀ link children nodes, motive children → motive nodes →
      motive (.group link children :: nodes)) :
    ∀ nodes, motive nodes
  | [] => nil
  | .leaf link condition :: nodes => leaf link condition nodes (induction nil leaf group nodes)
  | .group link children :: nodes =>
    group link children nodes (induction nil leaf group children) (induction nil leaf group nodes)

@[simp] theorem map_nil (f : P → Q) : map f [] = [] := rfl

@[simp] theorem map_leaf_cons (f : P → Q) (link : Connective) (condition : P)
    (nodes : Forest P) :
    map f (.leaf link condition :: nodes) = .leaf link (f condition) :: map f nodes := rfl

@[simp] theorem map_group_cons (f : P → Q) (link : Connective) (children nodes : Forest P) :
    map f (.group link children :: nodes) = .group link (map f children) :: map f nodes := rfl

@[simp] theorem leaves_nil : leaves ([] : Forest P) = [] := rfl

@[simp] theorem leaves_leaf_cons (link : Connective) (condition : P) (nodes : Forest P) :
    leaves (.leaf link condition :: nodes) = condition :: leaves nodes := rfl

@[simp] theorem leaves_group_cons (link : Connective) (children nodes : Forest P) :
    leaves (.group link children :: nodes) = leaves children ++ leaves nodes := rfl

@[simp] theorem isVacant_leaf_cons (link : Connective) (condition : P) (nodes : Forest P) :
    Forest.isVacant (.leaf link condition :: nodes) = false := by
  rw [Forest.isVacant, ConditionNode.isVacant, Bool.false_and]

@[simp] theorem isVacant_group_cons (link : Connective) (children nodes : Forest P) :
    Forest.isVacant (.group link children :: nodes) =
      (Forest.isVacant children && Forest.isVacant nodes) := by
  rw [Forest.isVacant, ConditionNode.isVacant]

/-- Only a forest without conditions is vacant. -/
theorem isVacant_iff {nodes : Forest P} : Forest.isVacant nodes = true ↔ leaves nodes = [] := by
  induction nodes using Forest.induction with
  | nil => simp
  | leaf link condition nodes _ => simp
  | group link children nodes ihc ihn => simp [ihc, ihn]

@[simp] theorem leaves_map (f : P → Q) (nodes : Forest P) :
    leaves (map f nodes) = (leaves nodes).map f := by
  induction nodes using Forest.induction with
  | nil => rfl
  | leaf link condition nodes ih => simp [ih]
  | group link children nodes ihc ihn => simp [ihc, ihn]

@[simp] theorem isVacant_map (f : P → Q) (nodes : Forest P) :
    Forest.isVacant (map f nodes) = Forest.isVacant nodes := by
  rw [Bool.eq_iff_iff, isVacant_iff, isVacant_iff, leaves_map, List.map_eq_nil_iff]

theorem map_map (g : Q → R) (f : P → Q) (nodes : Forest P) :
    map g (map f nodes) = map (g ∘ f) nodes := by
  induction nodes using Forest.induction with
  | nil => rfl
  | leaf link condition nodes ih => simp [ih]
  | group link children nodes ihc ihn => simp [ihc, ihn]

/-- A forest depends on its conditions only. -/
theorem map_congr {f g : P → Q} {nodes : Forest P} (h : ∀ c ∈ leaves nodes, f c = g c) :
    map f nodes = map g nodes := by
  induction nodes using Forest.induction with
  | nil => rfl
  | leaf link condition nodes ih =>
    rw [leaves_leaf_cons, List.forall_mem_cons] at h
    simp [h.1, ih h.2]
  | group link children nodes ihc ihn =>
    rw [leaves_group_cons, List.forall_mem_append] at h
    simp [ihc h.1, ihn h.2]

/-! ## Growing a forest -/

theorem map_cons (f : P → Q) (node : ConditionNode P) (nodes : Forest P) :
    map f (node :: nodes) = node.map f :: map f nodes := rfl

theorem map_append (f : P → Q) (nodes others : Forest P) :
    map f (nodes ++ others) = map f nodes ++ map f others := by
  induction nodes with
  | nil => rfl
  | cons node nodes ih => rw [List.cons_append, map_cons, map_cons, List.cons_append, ih]

theorem map_modifyAt (f : P → Q) {g : Forest P → Forest P} {h : Forest Q → Forest Q}
    (hg : ∀ nodes, map f (g nodes) = h (map f nodes)) (path : List Nat) (nodes : Forest P) :
    map f (modifyAt g path nodes) = modifyAt h path (map f nodes) := by
  induction path generalizing nodes with
  | nil => exact hg nodes
  | cons i path ih =>
    rw [modifyAt, modifyAt]
    induction nodes generalizing i with
    | nil => simp
    | cons node nodes ihn =>
      cases i with
      | zero =>
        cases node with
        | leaf link condition => simp
        | group link children => simp [ih]
      | succ i => simp only [List.modify_succ_cons, map_cons, ihn]

theorem map_appendAt (f : P → Q) (path : List Nat) (node : ConditionNode P) (nodes : Forest P) :
    map f (appendAt path node nodes) = appendAt path (node.map f) (map f nodes) :=
  map_modifyAt f (fun others => map_append f others [node]) path nodes

theorem map_childrenAt (f : P → Q) (path : List Nat) (nodes : Forest P) :
    map f (childrenAt path nodes) = childrenAt path (map f nodes) := by
  induction path generalizing nodes with
  | nil => rfl
  | cons i path ih =>
    rw [childrenAt, childrenAt]
    induction nodes generalizing i with
    | nil => simp
    | cons node nodes ihn =>
      cases i with
      | zero =>
        cases node with
        | leaf link condition => simp
        | group link children => simp [ih]
      | succ i => simpa only [List.getElem?_cons_succ, map_cons] using ihn i

@[simp] theorem length_map (f : P → Q) (nodes : Forest P) :
    (map f nodes).length = nodes.length := by
  induction nodes with
  | nil => rfl
  | cons node nodes ih => rw [map_cons, List.length_cons, List.length_cons, ih]

/-! ## The text of a forest -/

@[simp] theorem layoutFrom_nil (first : Bool) : layoutFrom first [] = .empty := by
  cases first <;> rw [layoutFrom]

/-- The connective between a node and what was written before it. -/
def connective (first : Bool) (link : Connective) : Fragment :=
  if first then .empty else .text (" " ++ link.sql ++ " ")

@[simp] theorem args_connective (first : Bool) (link : Connective) :
    (connective first link).args = [] := by
  cases first <;> rfl

theorem layoutFrom_leaf_cons (first : Bool) (link : Connective) (f : Fragment)
    (nodes : Forest Fragment) :
    layoutFrom first (.leaf link f :: nodes) =
      connective first link ++ f ++ layoutFrom false nodes := by
  rw [layoutFrom, ConditionNode.isVacant, ConditionNode.layout, ConditionNode.link]
  rfl

theorem layoutFrom_group_cons (first : Bool) (link : Connective)
    (children nodes : Forest Fragment) :
    layoutFrom first (.group link children :: nodes) =
      if Forest.isVacant children then layoutFrom first nodes
      else connective first link ++ (layout children).parenthesized ++ layoutFrom false nodes := by
  rw [layoutFrom, ConditionNode.isVacant, ConditionNode.layout, ConditionNode.link]
  rfl

/-- The text of a forest binds what its conditions bind, from left to right. -/
theorem args_layoutFrom (first : Bool) (nodes : Forest Fragment) :
    (layoutFrom first nodes).args = (leaves nodes).flatMap (·.args) := by
  induction nodes using Forest.induction generalizing first with
  | nil => simp
  | leaf link f nodes ih => simp [layoutFrom_leaf_cons, ih]
  | group link children nodes ihc ihn =>
    rw [layoutFrom_group_cons]
    split
    · next hv =>
      simp [ihn, isVacant_iff.mp hv]
    · simp [layout, ihc, ihn]

@[simp] theorem args_layout (nodes : Forest Fragment) :
    (layout nodes).args = (leaves nodes).flatMap (·.args) :=
  args_layoutFrom true nodes

end Forest

namespace ConditionTree

/-- A tree with another condition in the place of each one; the cursor stays. -/
def map (f : P → Q) (t : ConditionTree P) : ConditionTree Q := ⟨Forest.map f t.roots, t.cursor⟩

theorem map_push (f : P → Q) (t : ConditionTree P) (link : Connective) (condition : P) :
    (t.push link condition).map f = (t.map f).push link (f condition) := by
  rw [push, push, map, Forest.map_appendAt]
  rfl

theorem map_openGroup (f : P → Q) (t : ConditionTree P) (link : Connective) :
    (t.openGroup link).map f = (t.map f).openGroup link := by
  rw [openGroup, openGroup, map, Forest.map_appendAt, map, ← Forest.map_childrenAt,
    Forest.length_map]
  rfl

theorem map_closeGroup (f : P → Q) (t : ConditionTree P) :
    t.closeGroup.map f = (t.map f).closeGroup := rfl

end ConditionTree
end BoundSql
