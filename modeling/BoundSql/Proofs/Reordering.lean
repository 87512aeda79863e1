import BoundSql.Proofs.Footprint
import Mathlib.Data.List.FinRange

/-!
# Reordering independent calls

Two scripts of the same steps make the same query, and every step goes the same way in both, if
steps whose footprints overlap stand in the same order in both
(`Script.run_eq_of_reordering`). So the calls of a statement may be written in any order that
keeps the calls on each of its components in theirs.

## Main definitions

* `Script.Reordering` — two scripts of the same steps, with what overlaps in one order.
-/

namespace BoundSql

namespace Script

open Query (patch)

/-! ## Two steps -/

/-- A step leaves what is outside its footprint. -/
theorem patch_step (q : Query) (s : Step) : patch s.footprint (step q s).1 q = (step q s).1 := by
  have h := step_patch q s Finset.Subset.rfl q
  rw [Query.patch_self] at h
  exact (congrArg Prod.fst h).symm

/-- A step does the same before and after one that touches other components. -/
theorem step_after {s t : Step} (h : Disjoint s.footprint t.footprint) (q : Query) :
    step (step q s).1 t = (patch s.footprint (step q s).1 (step q t).1, (step q t).2) := by
  have hsub : t.footprint ⊆ s.footprintᶜ := Finset.subset_compl_iff_disjoint_left.mpr h
  have hstep := step_patch (step q s).1 t hsub q
  rwa [Query.patch_compl, Query.patch_compl, patch_step] at hstep

/-- Steps that touch different components may be swapped. -/
theorem step_comm {s t : Step} (h : Disjoint s.footprint t.footprint) (q : Query) :
    step (step q s).1 t = ((step (step q t).1 s).1, (step q t).2) := by
  have hpatch : patch s.footprint (step q s).1 (step q t).1 =
      patch t.footprint (step q t).1 (step q s).1 :=
    calc patch s.footprint (step q s).1 (step q t).1
        = patch s.footprint (step q s).1 (patch t.footprint (step q t).1 q) := by
          rw [patch_step q t]
      _ = patch t.footprint (step q t).1 (patch s.footprint (step q s).1 q) :=
          Query.patch_comm h _ _ _
      _ = patch t.footprint (step q t).1 (step q s).1 := by rw [patch_step q s]
  rw [step_after h, step_after h.symm, hpatch]

/-! ## A step and a script -/

/-- A step may be moved before a script that touches other components. -/
theorem run_comm {s : Step} {steps : List Step}
    (h : ∀ t ∈ steps, Disjoint t.footprint s.footprint) (q : Query) :
    step (run q steps).1 s = ((run (step q s).1 steps).1, (step q s).2) ∧
      (run (step q s).1 steps).2 = (run q steps).2 := by
  induction steps generalizing q with
  | nil => simp only [run_nil, and_self]
  | cons t steps ih =>
    obtain ⟨ht, hsteps⟩ := List.forall_mem_cons.mp h
    obtain ⟨hfst, hsnd⟩ := ih hsteps (step q t).1
    rw [step_comm ht q] at hfst hsnd
    have hsame : (step (step q s).1 t).2 = (step q t).2 := by rw [step_comm ht.symm q]
    simp only [run_cons_fst, run_cons_snd, hsame]
    constructor
    · exact hfst
    · rw [hsnd]

/-! ## Scripts of numbered steps -/

/-- Steps with their results, by number. -/
def labelled {ι : Type} (f : ι → Step) (q : Query) (l : List ι) : List (ι × StepResult) :=
  l.zip (run q (l.map f)).2

theorem labelled_cons {ι : Type} (f : ι → Step) (q : Query) (i : ι) (l : List ι) :
    labelled f q (i :: l) = (i, (step q (f i)).2) :: labelled f (step q (f i)).1 l := by
  rw [labelled, List.map_cons, run_cons_snd, List.zip_cons_cons]
  rfl

theorem labelled_append {ι : Type} (f : ι → Step) (q : Query) (l l' : List ι) :
    labelled f q (l ++ l') = labelled f q l ++ labelled f (run q (l.map f)).1 l' := by
  rw [labelled, List.map_append, run_append_snd, List.zip_append (by simp)]
  rfl

/-- Numbered steps taken in another order, in which no step comes before one that has a smaller
number and touches a component that it touches. -/
theorem run_map_eq_of_perm {ι : Type} [LinearOrder ι] (f : ι → Step) {l l' : List ι}
    (hl : l.Pairwise (· < ·)) (hperm : l'.Perm l)
    (horder : l'.Pairwise fun i j => ¬Disjoint (f i).footprint (f j).footprint → i < j)
    (q : Query) :
    (run q (l'.map f)).1 = (run q (l.map f)).1 ∧ (labelled f q l').Perm (labelled f q l) := by
  induction l generalizing l' q with
  | nil =>
    obtain rfl := hperm.eq_nil
    exact ⟨rfl, List.Perm.refl _⟩
  | cons i l ih =>
    -- The step with the least number moves to the front.
    obtain ⟨before, after, rfl⟩ := List.append_of_mem (hperm.mem_iff.mpr List.mem_cons_self)
    obtain ⟨hi, hl⟩ := List.pairwise_cons.mp hl
    have hrest : (before ++ after).Perm l := (List.perm_middle.symm.trans hperm).cons_inv
    have hfree : ∀ s ∈ before.map f, Disjoint s.footprint (f i).footprint := by
      intro s hs
      obtain ⟨j, hj, rfl⟩ := List.mem_map.mp hs
      by_contra hoverlap
      have hlt : j < i := (List.pairwise_append.mp horder).2.2 j hj i List.mem_cons_self hoverlap
      have hgt : i < j := hi j (hrest.mem_iff.mp (List.mem_append_left _ hj))
      exact lt_asymm hlt hgt
    obtain ⟨hmove, hsame⟩ := run_comm hfree q
    obtain ⟨hquery, hresults⟩ := ih hl hrest
      (horder.sublist ((List.sublist_cons_self i after).append_left before)) (step q (f i)).1
    constructor
    · calc (run q ((before ++ i :: after).map f)).1
          = (run (step (run q (before.map f)).1 (f i)).1 (after.map f)).1 := by
            rw [List.map_append, List.map_cons, run_append_fst, run_cons_fst]
        _ = (run (step q (f i)).1 ((before ++ after).map f)).1 := by
            rw [hmove, List.map_append, run_append_fst]
        _ = (run q ((i :: l).map f)).1 := by rw [hquery, List.map_cons, run_cons_fst]
    · have hbefore : labelled f q before = labelled f (step q (f i)).1 before := by
        rw [labelled, labelled, hsame]
      rw [labelled_append, labelled_cons, hmove, hbefore, labelled_cons]
      refine List.perm_middle.trans (List.Perm.cons _ ?_)
      rwa [← labelled_append]

/-! ## Reorderings -/

/-- Two scripts of the same steps in which steps whose footprints overlap stand in one order. -/
structure Reordering (script other : List Step) where
  /-- Where a step of the first script stands in the second. -/
  place : Fin script.length ≃ Fin other.length
  same : ∀ i, other.get (place i) = script.get i
  inOrder : ∀ i j, i < j → ¬Disjoint (script.get i).footprint (script.get j).footprint →
    place i < place j

namespace Reordering

variable {script other : List Step} (r : Reordering script other)

/-- The places in the first script of the steps of the second. -/
def order : List (Fin script.length) := List.ofFn r.place.symm

theorem map_order : r.order.map script.get = other := by
  have hsame : script.get ∘ r.place.symm = other.get := by
    funext k
    rw [Function.comp_apply, ← r.same, Equiv.apply_symm_apply]
  rw [order, List.map_ofFn, hsame, List.ofFn_get]

theorem order_perm : r.order.Perm (List.finRange script.length) := by
  have hnodup : r.order.Nodup := List.nodup_ofFn.mpr r.place.symm.injective
  refine (List.perm_ext_iff_of_nodup hnodup (List.nodup_finRange _)).mpr fun i => ?_
  simpa [order] using r.place.symm.surjective i

theorem pairwise_order : r.order.Pairwise fun i j =>
    ¬Disjoint (script.get i).footprint (script.get j).footprint → i < j := by
  refine List.pairwise_ofFn.mpr fun k m hkm hoverlap => ?_
  by_contra hnot
  have hne : r.place.symm m ≠ r.place.symm k := fun h => hkm.ne' (r.place.symm.injective h)
  have hlt := r.inOrder _ _ (lt_of_le_of_ne (not_lt.mp hnot) hne) fun h => hoverlap h.symm
  rw [Equiv.apply_symm_apply, Equiv.apply_symm_apply] at hlt
  exact lt_asymm hkm hlt

/-- What is known of a step of the first script by its number holds at its place in the second. -/
theorem getElem?_place {α : Type} {results : List α} {i : Fin script.length} {a : α}
    (h : (i, a) ∈ r.order.zip results) : results[(r.place i).val]? = some a := by
  obtain ⟨k, hk⟩ := List.mem_iff_getElem?.mp h
  obtain ⟨hplace, hresult⟩ := List.getElem?_zip_eq_some.mp hk
  obtain ⟨hlt, hplace⟩ : ∃ h : k < other.length, r.place.symm ⟨k, h⟩ = i := by
    simpa [order, List.getElem?_eq_some_iff] using hplace
  rw [← (Equiv.symm_apply_eq _).mp hplace]
  exact hresult

end Reordering

/-- Reordered calls make the same query, and each of them goes as it did. -/
theorem run_eq_of_reordering {script other : List Step} (r : Reordering script other) (q : Query) :
    (run q other).1 = (run q script).1 ∧
      ∀ i : Fin script.length, ∃ result, (run q script).2[i.val]? = some result ∧
        (run q other).2[(r.place i).val]? = some result := by
  have hscript : (List.finRange script.length).map script.get = script := by
    rw [List.finRange, List.map_ofFn]
    exact List.ofFn_get script
  obtain ⟨hquery, hresults⟩ :=
    run_map_eq_of_perm script.get (List.pairwise_lt_finRange _) r.order_perm r.pairwise_order q
  rw [hscript, r.map_order] at hquery
  rw [labelled, labelled, hscript, r.map_order] at hresults
  refine ⟨hquery, fun i => ?_⟩
  have hi : i.val < (run q script).2.length := by simp
  have hmem : (i, (run q script).2[i.val]) ∈ (List.finRange script.length).zip (run q script).2 :=
    List.mem_of_getElem? (List.getElem?_zip_eq_some.mpr
      ⟨by simp, List.getElem?_eq_getElem hi⟩)
  exact ⟨_, List.getElem?_eq_getElem hi, r.getElem?_place (hresults.mem_iff.mpr hmem)⟩

/-- A group of conditions that also sets a limit, and an ordering, are recorded before or after the
statement is chosen, a row that a SELECT cannot have is refused and the table is set. -/
theorem run_eq_of_moved_group :
    let group : Step := .group .or [.call (.equal "id" (.scalar (.int 7))), .call (.limit 5)]
    let order : Step := .call (.orderBy (.expression "id") .descending)
    let script : Script :=
      [.call (.select [.expression "id"] false), .call (.row [.null]), .call (.table "users"), group,
        order]
    let other : Script :=
      [group, order, .call (.select [.expression "id"] false), .call (.row [.null]),
        .call (.table "users")]
    (run .new other).1 = (run .new script).1 ∧
      ∀ i : Fin 5, ∃ result, (run .new script).2[i.val]? = some result ∧
        (run .new other).2[(i + 2).val]? = some result := by
  intro group order script other
  let r : Reordering script other :=
    { place := (⟨(· + 2), (· + 3), by unfold Function.LeftInverse; decide,
        by unfold Function.RightInverse Function.LeftInverse; decide⟩ : Fin 5 ≃ Fin 5)
      same := fun (i : Fin 5) => match i with
        | 0 | 1 | 2 | 3 | 4 => rfl
      inOrder := by decide }
  exact run_eq_of_reordering r .new

end Script

end BoundSql
