import BoundSql.Fragment

/-!
# Trees of conditions

Conditions stand in nested groups. Before every condition and every group stands the connective
that ties it to what precedes it among its siblings. New nodes go to the end of the group that
the cursor addresses, a path of child positions from the root; nothing is ever removed or moved,
so a path stays valid.

`Forest.layout` writes a list of siblings: groups in parentheses, groups without any condition
left out, and between two neighbours the connective of the later one. The connective of the
first node that is written does not show.

## Main definitions

* `ConditionNode`, `Forest`, `ConditionTree` — the trees, over any type of conditions.
* `ConditionTree.push`, `ConditionTree.openGroup`, `ConditionTree.closeGroup` — growing a tree.
* `ConditionNode.isVacant`, `Forest.isVacant` — whether there is no condition at any depth.
* `ConditionNode.layout`, `Forest.layout` — the text of a tree of finished conditions.
-/

namespace BoundSql

/-- What ties a condition to the one before it. -/
inductive Connective where
  | and
  | or
  deriving DecidableEq, Repr

/-- The connective in SQL. -/
def Connective.sql : Connective → String
  | .and => "AND"
  | .or => "OR"

/-- A condition or a group of nodes, each with the connective before it. -/
inductive ConditionNode (α : Type) where
  | leaf (link : Connective) (condition : α)
  | group (link : Connective) (children : List (ConditionNode α))

/-- Sibling nodes. -/
abbrev Forest (α : Type) := List (ConditionNode α)

/-- The nodes at the root and the path to the group that takes new nodes. -/
structure ConditionTree (α : Type) where
  roots : List (ConditionNode α) := []
  cursor : List Nat := []

variable {α : Type}

/-- The connective before a node. -/
def ConditionNode.link : ConditionNode α → Connective
  | leaf link _ => link
  | group link _ => link

mutual

/-- Whether a node holds no condition at any depth. -/
def ConditionNode.isVacant : ConditionNode α → Bool
  | .leaf _ _ => false
  | .group _ children => Forest.isVacant children

/-- Whether siblings hold no condition at any depth. -/
def Forest.isVacant : Forest α → Bool
  | [] => true
  | node :: nodes => node.isVacant && Forest.isVacant nodes

end

@[simp] theorem Forest.isVacant_nil : Forest.isVacant ([] : Forest α) = true := by
  rw [Forest.isVacant]

theorem Forest.isVacant_eq_all (nodes : Forest α) :
    Forest.isVacant nodes = nodes.all ConditionNode.isVacant := by
  induction nodes with
  | nil => simp
  | cons node nodes ih => rw [Forest.isVacant, ih, List.all_cons]

namespace Forest

/-- Changes the siblings that a path leads to; a path that leads nowhere changes nothing. -/
def modifyAt (f : Forest α → Forest α) : List Nat → Forest α → Forest α
  | [], nodes => f nodes
  | i :: path, nodes =>
    nodes.modify i fun
      | .leaf link condition => .leaf link condition
      | .group link children => .group link (modifyAt f path children)

@[simp] theorem modifyAt_nil (f : Forest α → Forest α) (nodes : Forest α) :
    modifyAt f [] nodes = f nodes := rfl

/-- The siblings that a path leads to. -/
def childrenAt : List Nat → Forest α → Forest α
  | [], nodes => nodes
  | i :: path, nodes =>
    match nodes[i]? with
    | some (.group _ children) => childrenAt path children
    | _ => []

@[simp] theorem childrenAt_nil (nodes : Forest α) : childrenAt [] nodes = nodes := rfl

/-- Adds a node behind the last one of the siblings that a path leads to. -/
def appendAt (path : List Nat) (node : ConditionNode α) (nodes : Forest α) : Forest α :=
  modifyAt (· ++ [node]) path nodes

end Forest

namespace ConditionTree

/-- Whether there is no condition at any depth. -/
def isVacant (t : ConditionTree α) : Bool := Forest.isVacant t.roots

/-- Adds a condition to the group that the cursor addresses. -/
def push (t : ConditionTree α) (link : Connective) (condition : α) : ConditionTree α :=
  { t with roots := Forest.appendAt t.cursor (.leaf link condition) t.roots }

/-- Adds a group where the cursor is and moves the cursor into it. -/
def openGroup (t : ConditionTree α) (link : Connective) : ConditionTree α where
  roots := Forest.appendAt t.cursor (.group link []) t.roots
  cursor := t.cursor ++ [(Forest.childrenAt t.cursor t.roots).length]

/-- Moves the cursor back to the enclosing group. -/
def closeGroup (t : ConditionTree α) : ConditionTree α := { t with cursor := t.cursor.dropLast }

@[simp] theorem cursor_push (t : ConditionTree α) (link : Connective) (condition : α) :
    (t.push link condition).cursor = t.cursor := rfl

@[simp] theorem roots_closeGroup (t : ConditionTree α) : t.closeGroup.roots = t.roots := rfl

@[simp] theorem cursor_closeGroup_openGroup (t : ConditionTree α) (link : Connective) :
    (t.openGroup link).closeGroup.cursor = t.cursor := by
  simp [openGroup, closeGroup]

end ConditionTree

mutual

/-- The text of a node, without the connective before it. -/
def ConditionNode.layout : ConditionNode Fragment → Fragment
  | .leaf _ condition => condition
  | .group _ children => (Forest.layoutFrom true children).parenthesized

/-- The text of siblings; `first` says that none was written before them. -/
def Forest.layoutFrom : Bool → Forest Fragment → Fragment
  | _, [] => .empty
  | first, node :: nodes =>
    if node.isVacant then Forest.layoutFrom first nodes
    else
      let connective : Fragment :=
        if first then .empty else .text (" " ++ node.link.sql ++ " ")
      connective ++ node.layout ++ Forest.layoutFrom false nodes

end

/-- The text of a tree of finished conditions. -/
def Forest.layout (nodes : Forest Fragment) : Fragment := Forest.layoutFrom true nodes

end BoundSql
