import Mathlib.Data.List.Nodup
import Mathlib.Order.Lattice

/-!
# Stable orders

A list in the order of a key, with elements of one key left in the order they had. There is one such
list, so the order can be taken before or after elements are left out, and where no two keys are equal
it does not depend on where the elements stood.
-/

namespace ProxyConsole

variable {α κ : Type} [LinearOrder κ] {key : α → κ} {l a b : List α}

theorem le_of_head {x y : α} (h : (x :: a).Pairwise fun x y => key x ≤ key y) (hy : y ∈ x :: a) :
    key x ≤ key y := by
  rcases List.mem_cons.mp hy with hy | hy
  · rw [hy]
  · exact List.rel_of_pairwise_cons h hy

variable [DecidableEq κ]

/-- The elements of a list in the order of their keys, and where keys are equal in the order of the
list. -/
structure InOrder (key : α → κ) (l a : List α) : Prop where
  perm : a.Perm l
  ordered : a.Pairwise fun x y => key x ≤ key y
  stable : ∀ k, a.filter (key · = k) = l.filter (key · = k)

theorem inOrder_mergeSort {le : α → α → Bool} (hle : ∀ x y, le x y = true ↔ key x ≤ key y)
    (l : List α) : InOrder key l (l.mergeSort le) := by
  have htrans : ∀ x y z, le x y = true → le y z = true → le x z = true := by
    intro x y z hxy hyz
    rw [hle] at hxy hyz ⊢
    exact le_trans hxy hyz
  have htotal : ∀ x y, (le x y || le y x) = true := by
    intro x y
    rw [Bool.or_eq_true, hle, hle]
    exact le_total _ _
  constructor
  case perm => exact List.mergeSort_perm l le
  case ordered =>
    refine (List.pairwise_mergeSort htrans htotal l).imp ?_
    intro x y hxy
    exact (hle x y).mp hxy
  case stable =>
    intro k
    -- the elements of one key stand in order already, so sorting keeps them as a sublist
    have hsame : (l.filter (key · = k)).Pairwise fun x y => le x y = true := by
      refine List.pairwise_iff_forall_sublist.mpr fun {x y} hxy => ?_
      have hx := List.of_mem_filter (hxy.subset (List.mem_cons_self ..))
      have hy := List.of_mem_filter (hxy.subset (List.mem_cons_of_mem x (List.mem_singleton_self y)))
      rw [decide_eq_true_eq] at hx hy
      rw [hle, hx, hy]
    have hsub := List.sublist_mergeSort htrans htotal hsame List.filter_sublist
    have hfilter := hsub.filter (key · = k)
    rw [List.filter_filter] at hfilter
    simp only [Bool.and_self] at hfilter
    exact (hfilter.eq_of_length ((List.mergeSort_perm l le).filter _).length_eq.symm).symm

/-- Lists in order that have the same elements of every key, in the same order, are equal. -/
theorem eq_of_filter_eq (ha : a.Pairwise fun x y => key x ≤ key y)
    (hb : b.Pairwise fun x y => key x ≤ key y)
    (h : ∀ k, a.filter (key · = k) = b.filter (key · = k)) : a = b := by
  induction a generalizing b with
  | nil =>
    cases b with
    | nil => rfl
    | cons y b =>
      have hy := h (key y)
      simp at hy
  | cons x a ih =>
    cases b with
    | nil =>
      have hx := h (key x)
      simp at hx
    | cons y b =>
      -- each head is the least, so they have one key, and are the first elements of that key
      have hkey : key x = key y := by
        have hx : x ∈ (y :: b) := by
          have hmem : x ∈ (x :: a).filter (key · = key x) := by simp
          rw [h] at hmem
          exact List.mem_of_mem_filter hmem
        have hy : y ∈ (x :: a) := by
          have hmem : y ∈ (y :: b).filter (key · = key y) := by simp
          rw [← h] at hmem
          exact List.mem_of_mem_filter hmem
        apply le_antisymm
        · exact le_of_head ha hy
        · exact le_of_head hb hx
      have hhead := h (key x)
      rw [List.filter_cons_of_pos (by simp), List.filter_cons_of_pos (by simp [hkey])] at hhead
      obtain ⟨hxy, -⟩ := List.cons.inj hhead
      subst hxy
      rw [ih ha.of_cons hb.of_cons]
      intro k
      have hk := h k
      by_cases hxk : key x = k
      · rw [List.filter_cons_of_pos (by simp [hxk]), List.filter_cons_of_pos (by simp [hxk])] at hk
        exact (List.cons.inj hk).2
      · rw [List.filter_cons_of_neg (by simp [hxk]), List.filter_cons_of_neg (by simp [hxk])] at hk
        exact hk

theorem InOrder.unique (ha : InOrder key l a) (hb : InOrder key l b) : a = b := by
  apply eq_of_filter_eq ha.ordered hb.ordered
  intro k
  rw [ha.stable, hb.stable]

theorem InOrder.filter (h : InOrder key l a) (p : α → Bool) :
    InOrder key (l.filter p) (a.filter p) := by
  constructor
  case perm => exact h.perm.filter p
  case ordered => exact h.ordered.filter p
  case stable =>
    intro k
    rw [List.filter_comm, h.stable, List.filter_comm]

theorem filter_mergeSort {le : α → α → Bool} (hle : ∀ x y, le x y = true ↔ key x ≤ key y)
    (p : α → Bool) (l : List α) : (l.mergeSort le).filter p = (l.filter p).mergeSort le :=
  ((inOrder_mergeSort hle l).filter p).unique (inOrder_mergeSort hle (l.filter p))

/-- Where no two keys are equal, there is nothing that the place of an element decides. -/
theorem InOrder.of_perm {l' : List α} (h : InOrder key l a) (hn : (l.map key).Nodup)
    (hp : l'.Perm l) : InOrder key l' a := by
  constructor
  case perm => exact h.perm.trans hp.symm
  case ordered => exact h.ordered
  case stable =>
    intro k
    rw [h.stable]
    have htrivial : ∀ m : List α, m.Pairwise fun _ _ => True :=
      fun m => List.pairwise_of_forall fun _ _ => trivial
    refine List.Perm.eq_of_pairwise ?_ (htrivial _) (htrivial _) (hp.filter (key · = k)).symm
    intro x y hx hy _ _
    rw [List.mem_filter, decide_eq_true_eq] at hx hy
    exact List.inj_on_of_nodup_map hn hx.1 (hp.subset hy.1) (hx.2.trans hy.2.symm)

end ProxyConsole
