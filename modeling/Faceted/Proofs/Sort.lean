import Mathlib.Data.List.Nodup

/-!
# Sorting by rank

Groups are merged by sorting what they hold by rank. The sort is stable: items of one rank keep
their order. If all ranks differ, there is only one order that fits.

## Main results

* `pairwise_mergeSort_rank` — ranks do not decrease along the sorted list
* `filter_mergeSort_rank` — items of one rank keep their order
* `mergeSort_rank_eq_of_perm` — a list whose ranks increase is the sorted form of its permutations
-/

namespace Faceted

variable {α : Type} (rank : α → Nat)

theorem rank_le_trans (first second third : α) (h : decide (rank first ≤ rank second) = true)
    (hnext : decide (rank second ≤ rank third) = true) :
    decide (rank first ≤ rank third) = true := by
  rw [decide_eq_true_eq] at h hnext ⊢
  exact Nat.le_trans h hnext

theorem rank_le_total (first second : α) :
    (decide (rank first ≤ rank second) || decide (rank second ≤ rank first)) = true := by
  rw [Bool.or_eq_true, decide_eq_true_eq, decide_eq_true_eq]
  exact Nat.le_total _ _

theorem pairwise_mergeSort_rank (items : List α) :
    (items.mergeSort fun first second => decide (rank first ≤ rank second)).Pairwise
      fun first second => rank first ≤ rank second :=
  (List.pairwise_mergeSort (rank_le_trans rank) (rank_le_total rank) items).imp of_decide_eq_true

/-- Items of one rank keep their order. -/
theorem filter_mergeSort_rank (items : List α) (r : Nat) :
    (items.mergeSort fun first second => decide (rank first ≤ rank second)).filter
        (fun item => rank item = r) =
      items.filter fun item => rank item = r := by
  have level : (items.filter fun item => rank item = r).Pairwise
      fun first second => decide (rank first ≤ rank second) = true := by
    refine List.pairwise_iff_forall_sublist.2 fun {first second} h => ?_
    have hfirst := List.mem_filter.1 (h.subset List.mem_cons_self)
    have hsecond := List.mem_filter.1 (h.subset (List.mem_cons_of_mem _ List.mem_cons_self))
    rw [decide_eq_true_eq] at hfirst hsecond ⊢
    exact Nat.le_of_eq (hfirst.2.trans hsecond.2.symm)
  -- The items of the rank are sorted among themselves, so that sorting keeps them as a sublist; and
  -- there are as many of them before as after.
  have kept := List.sublist_mergeSort (rank_le_trans rank) (rank_le_total rank) level
    List.filter_sublist
  have within := kept.filter fun item => decide (rank item = r)
  simp only [List.filter_filter, Bool.and_self] at within
  exact (within.eq_of_length ((List.mergeSort_perm items _).filter _).length_eq.symm).symm

/-- A list whose ranks increase is the sorted form of its permutations. -/
theorem mergeSort_rank_eq_of_perm {items sorted : List α} (hperm : items.Perm sorted)
    (hsorted : sorted.Pairwise fun first second => rank first < rank second) :
    items.mergeSort (fun first second => decide (rank first ≤ rank second)) = sorted := by
  have distinct : (sorted.map rank).Nodup := List.pairwise_map.2 (hsorted.imp Nat.ne_of_lt)
  refine List.Perm.eq_of_pairwise (fun a b ha hb hab hba => ?_) (pairwise_mergeSort_rank rank items)
    (hsorted.imp Nat.le_of_lt) ((List.mergeSort_perm items _).trans hperm)
  have ha : a ∈ sorted := hperm.mem_iff.1 (List.mem_mergeSort.1 ha)
  exact List.inj_on_of_nodup_map distinct ha hb (Nat.le_antisymm hab hba)

end Faceted
