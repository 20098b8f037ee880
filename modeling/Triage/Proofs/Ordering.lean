import Mathlib.Data.List.Sort
import Mathlib.Order.Lattice

/-!
# Sorting

Items that all differ stand in strictly increasing order once they are sorted
(`pairwise_lt_mergeSort`).

Reports are sorted from high to low on a scale on which many items stand equal.  Two facts say
what such a list is: it falls along the scale (`pairwise_mergeSort_falling`), and items that
stand equal keep the order that they had (`filter_mergeSort_falling`), because items that are in
order already are not moved among each other (`filter_mergeSort`).  Together they say that a list
which is sorted by a second scale first goes along both (`pairwise_mergeSort_kept`).
-/

namespace Triage

set_option autoImplicit false

variable {Item Scale : Type}

/-- **Sorting is stable**: items that are in order among each other keep their order. -/
theorem filter_mergeSort {le : Item → Item → Bool}
    (trans : ∀ first second third, le first second → le second third → le first third)
    (total : ∀ first second, le first second || le second first)
    {test : Item → Bool} {items : List Item}
    (ordered : (items.filter test).Pairwise fun first second => le first second) :
    (items.mergeSort le).filter test = items.filter test := by
  have sorted : (items.filter test).Sublist (items.mergeSort le) :=
    List.sublist_mergeSort trans total ordered List.filter_sublist
  have kept : (items.filter test).Sublist ((items.mergeSort le).filter test) := by
    simpa using sorted.filter test
  exact (kept.eq_of_length ((List.mergeSort_perm items le).filter test).length_eq.symm).symm

/-- **Sorting moves only what is told apart**: what related the items from left to right still
relates, after sorting, two items that stand equal. -/
theorem pairwise_mergeSort_kept {le : Item → Item → Bool}
    (trans : ∀ first second third, le first second → le second third → le first third)
    (total : ∀ first second, le first second || le second first)
    {related : Item → Item → Prop} {items : List Item} (before : items.Pairwise related) :
    (items.mergeSort le).Pairwise fun first second =>
      le first second ∧ (le second first → related first second) := by
  rw [List.pairwise_iff_forall_sublist]
  intro first second pair
  have sorted : le first second :=
    List.pairwise_iff_forall_sublist.1 (List.pairwise_mergeSort trans total items) pair
  refine ⟨sorted, fun back => ?_⟩
  -- Both are among the items that stand equal to the first, which are not moved.
  have self : le first first := by simpa using total first first
  have ordered : (items.filter fun item => le first item && le item first).Pairwise
      fun left right => le left right := by
    refine List.pairwise_filter.2 (List.pairwise_of_forall fun left right here there => ?_)
    simp only [Bool.and_eq_true] at here there
    exact trans left first right here.2 there.1
  have both := pair.filter fun item => le first item && le item first
  rw [filter_mergeSort trans total ordered] at both
  have among : [first, second].Sublist items := by
    simpa [self, sorted, back] using both.trans List.filter_sublist
  exact List.pairwise_iff_forall_sublist.1 before among

/-- **Items that differ stand in strictly increasing order** once they are sorted. -/
theorem pairwise_lt_mergeSort [LinearOrder Item] {le : Item → Item → Bool}
    (order : ∀ first second, le first second = true ↔ first ≤ second) {items : List Item}
    (once : items.Nodup) : (items.mergeSort le).Pairwise fun first second => first < second := by
  have same : le = fun first second => decide (first ≤ second) := by
    funext first second
    rw [Bool.eq_iff_iff, order, decide_eq_true_iff]
  have sorted : (items.mergeSort le).Pairwise fun first second => first ≤ second := by
    rw [same]
    exact List.pairwise_mergeSort' (· ≤ ·) items
  have distinct : (items.mergeSort le).Nodup := (List.mergeSort_perm items le).nodup_iff.2 once
  exact sorted.imp₂ (fun _ _ along differ => lt_of_le_of_ne along differ) distinct

section Falling

variable [LinearOrder Scale] (scale : Item → Scale) (items : List Item)

theorem falling_trans (first second third : Item)
    (left : decide (scale second ≤ scale first)) (right : decide (scale third ≤ scale second)) :
    decide (scale third ≤ scale first) :=
  decide_eq_true (le_trans (of_decide_eq_true right) (of_decide_eq_true left))

theorem falling_total (first second : Item) :
    decide (scale second ≤ scale first) || decide (scale first ≤ scale second) := by
  simpa using le_total (scale second) (scale first)

/-- What is sorted from high to low goes from high to low. -/
theorem pairwise_mergeSort_falling :
    (items.mergeSort fun first second => scale second ≤ scale first).Pairwise fun first second =>
      scale second ≤ scale first :=
  (List.pairwise_mergeSort (falling_trans scale) (falling_total scale) items).imp
    of_decide_eq_true

/-- Items that stand equal are left as they were. -/
theorem filter_mergeSort_falling {test : Item → Bool}
    (equal : ∀ first second, test first → test second → scale first = scale second) :
    (items.mergeSort fun first second => scale second ≤ scale first).filter test =
      items.filter test := by
  refine filter_mergeSort (falling_trans scale) (falling_total scale) ?_
  refine List.pairwise_filter.2 (List.pairwise_of_forall fun first second left right => ?_)
  exact decide_eq_true (equal second first right left).le

end Falling

end Triage
