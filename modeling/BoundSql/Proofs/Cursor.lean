import BoundSql.Proofs.Forest
import Mathlib.Data.List.Basic

/-!
# Cursors

A path of child positions leads through a forest if each position is in range and holds a group.
What is changed at the end of such a path is seen there and nowhere else
(`Forest.childrenAt_modifyAt`, `Forest.getElem?_modifyAt`). The cursor of a tree that pushing,
opening and closing made of an empty one is such a path (`ConditionTree.Reachable.isPath`), for
nodes are only added behind others and a group stays where it is.

## Main definitions

* `Forest.IsPath` — paths that lead to a group, or stay at the root.
* `ConditionTree.graft` — a tree with more nodes in the group that the cursor addresses.
* `ConditionTree.Reachable` — the trees that growing makes of an empty one.
-/

namespace BoundSql

variable {α β : Type}

namespace Forest

/-- Every position on the path is in range and holds a group. -/
def IsPath : List Nat → Forest α → Prop
  | [], _ => True
  | i :: path, nodes =>
    ∃ link children, nodes[i]? = some (.group link children) ∧ IsPath path children

@[simp] theorem isPath_nil (nodes : Forest α) : IsPath [] nodes := trivial

theorem isPath_cons {i : Nat} {path : List Nat} {nodes : Forest α} :
    IsPath (i :: path) nodes ↔
      ∃ link children, nodes[i]? = some (.group link children) ∧ IsPath path children :=
  Iff.rfl

theorem childrenAt_cons_of_group {i : Nat} {nodes children : Forest α} {link : Connective}
    (h : nodes[i]? = some (.group link children)) (path : List Nat) :
    childrenAt (i :: path) nodes = childrenAt path children := by
  rw [childrenAt, h]

/-- A path goes on to a position that holds a group. -/
theorem isPath_append_singleton {path : List Nat} {i : Nat} {nodes : Forest α} :
    IsPath (path ++ [i]) nodes ↔
      IsPath path nodes ∧
        ∃ link children, (childrenAt path nodes)[i]? = some (.group link children) := by
  induction path generalizing nodes with
  | nil => simp [isPath_cons]
  | cons j path ih =>
    rw [List.cons_append, isPath_cons, isPath_cons]
    constructor
    · rintro ⟨link, children, hj, h⟩
      rw [childrenAt_cons_of_group hj]
      exact ⟨⟨link, children, hj, (ih.mp h).1⟩, (ih.mp h).2⟩
    · rintro ⟨⟨link, children, hj, h⟩, hi⟩
      rw [childrenAt_cons_of_group hj] at hi
      exact ⟨link, children, hj, ih.mpr ⟨h, hi⟩⟩

/-- What stands before the end of a path is a path. -/
theorem IsPath.dropLast {path : List Nat} {nodes : Forest α} (h : IsPath path nodes) :
    IsPath path.dropLast nodes := by
  rcases List.eq_nil_or_concat path with rfl | ⟨front, i, rfl⟩
  · exact h
  · rw [List.concat_eq_append] at h ⊢
    rw [List.dropLast_concat]
    exact (isPath_append_singleton.mp h).1

/-! ## Changes at the end of a path -/

section ModifyAt

variable {f g : Forest α → Forest α} {path : List Nat} {nodes : Forest α}

theorem modifyAt_cons_of_group {i : Nat} {link : Connective} {children : Forest α}
    (h : nodes[i]? = some (.group link children)) :
    modifyAt f (i :: path) nodes = nodes.set i (.group link (modifyAt f path children)) := by
  rw [modifyAt, List.modify_eq_set_getElem?, h]
  rfl

theorem getElem?_modifyAt_cons_self {i : Nat} {link : Connective} {children : Forest α}
    (h : nodes[i]? = some (.group link children)) :
    (modifyAt f (i :: path) nodes)[i]? = some (.group link (modifyAt f path children)) := by
  rw [modifyAt_cons_of_group h, List.getElem?_set_self (List.getElem?_eq_some_iff.mp h).1]

/-- A path stays one. -/
theorem IsPath.modifyAt (h : IsPath path nodes) : IsPath path (modifyAt f path nodes) := by
  induction path generalizing nodes with
  | nil => trivial
  | cons i path ih =>
    obtain ⟨link, children, hi, h⟩ := h
    exact ⟨link, _, getElem?_modifyAt_cons_self hi, ih h⟩

/-- A change is seen where it was made. -/
theorem childrenAt_modifyAt (h : IsPath path nodes) :
    childrenAt path (Forest.modifyAt f path nodes) = f (childrenAt path nodes) := by
  induction path generalizing nodes with
  | nil => rfl
  | cons i path ih =>
    obtain ⟨link, children, hi, h⟩ := h
    rw [childrenAt_cons_of_group (getElem?_modifyAt_cons_self hi), childrenAt_cons_of_group hi,
      ih h]

/-- Only what is made of the siblings at the end of the path matters. -/
theorem modifyAt_congr (h : IsPath path nodes)
    (hfg : f (childrenAt path nodes) = g (childrenAt path nodes)) :
    Forest.modifyAt f path nodes = Forest.modifyAt g path nodes := by
  induction path generalizing nodes with
  | nil => exact hfg
  | cons i path ih =>
    obtain ⟨link, children, hi, h⟩ := h
    rw [childrenAt_cons_of_group hi] at hfg
    rw [modifyAt_cons_of_group hi, modifyAt_cons_of_group hi, ih h hfg]

theorem modifyAt_modifyAt (h : IsPath path nodes) :
    Forest.modifyAt g path (Forest.modifyAt f path nodes) =
      Forest.modifyAt (fun others => g (f others)) path nodes := by
  induction path generalizing nodes with
  | nil => rfl
  | cons i path ih =>
    obtain ⟨link, children, hi, h⟩ := h
    rw [modifyAt_cons_of_group (getElem?_modifyAt_cons_self hi), modifyAt_cons_of_group hi,
      modifyAt_cons_of_group hi, List.set_set, ih h]

/-- A change further down is a change of the siblings on the way. -/
theorem modifyAt_append (h : IsPath path nodes) (rest : List Nat) :
    Forest.modifyAt f (path ++ rest) nodes =
      Forest.modifyAt (Forest.modifyAt f rest) path nodes := by
  induction path generalizing nodes with
  | nil => rfl
  | cons i path ih =>
    obtain ⟨link, children, hi, h⟩ := h
    rw [List.cons_append, modifyAt_cons_of_group hi, modifyAt_cons_of_group hi, ih h]

theorem modifyAt_eq_self (h : IsPath path nodes)
    (hf : f (childrenAt path nodes) = childrenAt path nodes) :
    Forest.modifyAt f path nodes = nodes := by
  induction path generalizing nodes with
  | nil => exact hf
  | cons i path ih =>
    obtain ⟨link, children, hi, h⟩ := h
    rw [childrenAt_cons_of_group hi] at hf
    obtain ⟨hlt, hnode⟩ := List.getElem?_eq_some_iff.mp hi
    rw [modifyAt_cons_of_group hi, ih h hf, ← hnode, List.set_getElem_self]

/-- Adding nodes at the end of a path leaves every node where it was, and only the groups on the
path change inside. -/
theorem getElem?_modifyAt {more : Forest α} {place : List Nat} {i : Nat}
    {node : ConditionNode α} (hplace : IsPath place nodes)
    (hnode : (childrenAt place nodes)[i]? = some node) (haway : ¬ place ++ [i] <+: path) :
    (childrenAt place (Forest.modifyAt (· ++ more) path nodes))[i]? = some node := by
  induction path generalizing nodes place with
  | nil =>
    cases place with
    | nil => exact (List.getElem?_append_left (List.getElem?_eq_some_iff.mp hnode).1).trans hnode
    | cons j place =>
      -- The nodes are added at the root, behind the first group of the place.
      obtain ⟨link, children, hj, hplace⟩ := hplace
      have hj' : (nodes ++ more)[j]? = some (.group link children) :=
        (List.getElem?_append_left (List.getElem?_eq_some_iff.mp hj).1).trans hj
      rw [modifyAt_nil, childrenAt_cons_of_group hj']
      rwa [childrenAt_cons_of_group hj] at hnode
  | cons k path ih =>
    cases place with
    | nil =>
      have hik : i ≠ k := by
        rintro rfl
        exact haway (by simp)
      rw [childrenAt_nil, Forest.modifyAt, List.getElem?_modify_ne _ _ hik.symm]
      exact hnode
    | cons j place =>
      obtain ⟨link, children, hj, hplace⟩ := hplace
      rw [childrenAt_cons_of_group hj] at hnode
      by_cases hjk : j = k
      · subst hjk
        rw [childrenAt_cons_of_group (getElem?_modifyAt_cons_self hj)]
        exact ih hplace hnode fun hpre => haway (List.cons_prefix_cons.mpr ⟨rfl, hpre⟩)
      · have hj' : (Forest.modifyAt (· ++ more) (k :: path) nodes)[j]? =
            some (.group link children) := by
          rw [Forest.modifyAt, List.getElem?_modify_ne _ _ (Ne.symm hjk), hj]
        rw [childrenAt_cons_of_group hj']
        exact hnode

end ModifyAt

/-! ## Conditions of a grown forest -/

theorem mem_leaves {nodes : Forest α} {c : α} :
    c ∈ leaves nodes ↔ ∃ node ∈ nodes, c ∈ node.leaves := by
  induction nodes with
  | nil => simp
  | cons node nodes ih => simp [leaves, ih]

theorem leaves_append (nodes others : Forest α) :
    leaves (nodes ++ others) = leaves nodes ++ leaves others := by
  induction nodes with
  | nil => rfl
  | cons node nodes ih => rw [List.cons_append, leaves, leaves, ih, List.append_assoc]

/-- The conditions of a grown forest are the ones that it had and the new ones. -/
theorem mem_leaves_modifyAt {more : Forest α} {c : α} {path : List Nat} {nodes : Forest α}
    (h : c ∈ leaves (modifyAt (· ++ more) path nodes)) : c ∈ leaves nodes ∨ c ∈ leaves more := by
  induction path generalizing nodes with
  | nil =>
    rw [modifyAt_nil, leaves_append] at h
    exact List.mem_append.mp h
  | cons i path ih =>
    obtain ⟨node, hnode, hc⟩ := mem_leaves.mp h
    rw [modifyAt, List.mem_iff_getElem?] at hnode
    obtain ⟨j, hj⟩ := hnode
    rw [List.getElem?_modify, Option.map_eq_map, Option.map_eq_some_iff] at hj
    obtain ⟨old, hold, hj⟩ := hj
    have hmem : old ∈ nodes := List.mem_of_getElem? hold
    split at hj
    · cases old with
      | leaf link condition =>
        subst hj
        exact .inl (mem_leaves.mpr ⟨_, hmem, hc⟩)
      | group link children =>
        subst hj
        exact (ih hc).imp_left fun hc => mem_leaves.mpr ⟨_, hmem, hc⟩
    · subst hj
      exact .inl (mem_leaves.mpr ⟨_, hmem, hc⟩)

end Forest

/-! ## Trees -/

namespace ConditionTree

open Forest (IsPath modifyAt childrenAt)

/-- The tree with more nodes behind those of the group that the cursor addresses. -/
def graft (t : ConditionTree α) (more : Forest α) : ConditionTree α :=
  { t with roots := modifyAt (· ++ more) t.cursor t.roots }

theorem push_eq_graft (t : ConditionTree α) (link : Connective) (condition : α) :
    t.push link condition = t.graft [.leaf link condition] := rfl

theorem graft_nil {t : ConditionTree α} (h : IsPath t.cursor t.roots) : t.graft [] = t := by
  rw [graft, Forest.modifyAt_eq_self h (List.append_nil _)]

theorem graft_graft {t : ConditionTree α} (h : IsPath t.cursor t.roots) (more others : Forest α) :
    (t.graft more).graft others = t.graft (more ++ others) := by
  simp only [graft, Forest.modifyAt_modifyAt h, List.append_assoc]

theorem isPath_graft {t : ConditionTree α} (h : IsPath t.cursor t.roots) (more : Forest α) :
    IsPath (t.graft more).cursor (t.graft more).roots :=
  h.modifyAt

/-- The new group is where the cursor leads. -/
theorem isPath_openGroup {t : ConditionTree α} (h : IsPath t.cursor t.roots)
    (link : Connective) : IsPath (t.openGroup link).cursor (t.openGroup link).roots := by
  refine Forest.isPath_append_singleton.mpr ⟨h.modifyAt, link, [], ?_⟩
  rw [openGroup, Forest.appendAt, Forest.childrenAt_modifyAt h]
  simp

/-- What is added to a group before it is closed is in the group. -/
theorem closeGroup_graft_openGroup {t : ConditionTree α} (h : IsPath t.cursor t.roots)
    (link : Connective) (more : Forest α) :
    ((t.openGroup link).graft more).closeGroup = t.graft [.group link more] := by
  have hroots : modifyAt (· ++ more) (t.openGroup link).cursor (t.openGroup link).roots =
      modifyAt (· ++ [.group link more]) t.cursor t.roots := by
    rw [openGroup, Forest.appendAt, Forest.modifyAt_append h.modifyAt,
      Forest.modifyAt_modifyAt h]
    refine Forest.modifyAt_congr h ?_
    have hlast : (childrenAt t.cursor t.roots ++ [.group link []])[(childrenAt t.cursor
        t.roots).length]? = some (.group link []) := List.getElem?_concat_length
    rw [Forest.modifyAt_cons_of_group hlast, List.set_append_right _ _ (Nat.le_refl _)]
    simp
  rw [closeGroup, graft, graft, hroots]
  simp [openGroup]

/-- The trees that pushing conditions and opening and closing groups makes of an empty one. -/
inductive Reachable : ConditionTree α → Prop
  | empty : Reachable {}
  | push {t : ConditionTree α} (link : Connective) (condition : α) :
    Reachable t → Reachable (t.push link condition)
  | openGroup {t : ConditionTree α} (link : Connective) : Reachable t → Reachable (t.openGroup link)
  | closeGroup {t : ConditionTree α} : Reachable t → Reachable t.closeGroup

/-- The cursor leads to a group, or is at the root. -/
theorem Reachable.isPath {t : ConditionTree α} (h : t.Reachable) : IsPath t.cursor t.roots := by
  induction h with
  | empty => trivial
  | push link condition _ ih => exact isPath_graft ih _
  | openGroup link _ ih => exact isPath_openGroup ih link
  | closeGroup _ ih => exact ih.dropLast

end ConditionTree

end BoundSql
