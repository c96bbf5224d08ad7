import Mathlib.Data.List.Nodup

/-!
# Sorted lists of names

Names are listed in text order wherever a disk could tell them in any order. The sorted list depends
on the names alone, and when none of them comes twice each is less than the next.
-/

namespace Polybuild

namespace Text

theorem pairwise_le_mergeSort (names : List String) :
    (names.mergeSort fun a b => decide (a ≤ b)).Pairwise (· ≤ ·) := by
  have hsorted : (names.mergeSort fun a b => decide (a ≤ b)).Pairwise
      fun a b => decide (a ≤ b) = true :=
    List.pairwise_mergeSort (fun a b c => by simpa using String.le_trans)
      (fun a b => by simpa using String.le_total a b) names
  exact hsorted.imp of_decide_eq_true

theorem pairwise_lt_mergeSort {names : List String} (h : names.Nodup) :
    (names.mergeSort fun a b => decide (a ≤ b)).Pairwise (· < ·) := by
  have hnodup := (List.mergeSort_perm names fun a b => decide (a ≤ b)).nodup_iff.2 h
  exact ((pairwise_le_mergeSort names).and hnodup).imp fun h => Std.lt_of_le_of_ne h.1 h.2

/-- The order in which names are told does not matter. -/
theorem mergeSort_congr {names names' : List String} (h : names.Perm names') :
    names.mergeSort (fun a b => decide (a ≤ b)) = names'.mergeSort fun a b => decide (a ≤ b) := by
  refine List.Perm.eq_of_pairwise (fun a b _ _ => String.le_antisymm) (pairwise_le_mergeSort names)
    (pairwise_le_mergeSort names') ?_
  exact (List.mergeSort_perm _ _).trans (h.trans (List.mergeSort_perm _ _).symm)

end Text

end Polybuild
