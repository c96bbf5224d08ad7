import Mathlib.Data.List.Basic
import Mathlib.Data.List.Induction
import Polybuild.Requirements.Basic

/-!
# Names, each once

Where a list of names is to have none of them twice, the first of several stays, and the names that
stay keep their order. `List.eraseDups` says so of a list at hand, and `pushNew` comes to the same
one name after the other.
-/

namespace Polybuild

/-- A name behind others is kept when it is not among them. -/
theorem eraseDups_concat (names : List String) (name : String) :
    (names ++ [name]).eraseDups =
      if name ∈ names then names.eraseDups else names.eraseDups ++ [name] := by
  rw [List.eraseDups_append]
  by_cases hmem : name ∈ names
  · have hnone : [name].removeAll names = [] := by simp [List.removeAll, hmem]
    simp [hnone, hmem]
  · have hsame : [name].removeAll names = [name] := by simp [List.removeAll, hmem]
    simp [hsame, hmem, List.eraseDups_cons]

theorem eraseDups_of_nodup {names : List String} (h : names.Nodup) : names.eraseDups = names := by
  induction names using List.reverseRecOn with
  | nil => rfl
  | append_singleton names name ih =>
      obtain ⟨hnames, -, hnew⟩ := List.nodup_append.1 h
      have hlast : name ∉ names := fun hmem => hnew name hmem name (by simp) rfl
      rw [eraseDups_concat, if_neg hlast, ih hnames]

/-- Names that stand first in a list keep their order. -/
theorem pairwise_idxOf_eraseDups (names : List String) :
    names.eraseDups.Pairwise fun a b => names.idxOf a < names.idxOf b := by
  induction names using List.reverseRecOn with
  | nil => simp
  | append_singleton names name ih =>
      have hbefore : ∀ a ∈ names.eraseDups, (names ++ [name]).idxOf a = names.idxOf a :=
        fun a ha => List.idxOf_append_of_mem (List.mem_eraseDups.1 ha)
      have hkept : names.eraseDups.Pairwise fun a b =>
          (names ++ [name]).idxOf a < (names ++ [name]).idxOf b := by
        refine ih.imp_of_mem fun {a b} ha hb hlt => ?_
        rwa [hbefore a ha, hbefore b hb]
      rw [eraseDups_concat]
      split
      · exact hkept
      · rename_i hnew
        refine List.pairwise_append.2 ⟨hkept, List.pairwise_singleton _ _, fun a ha b hb => ?_⟩
        obtain rfl := List.mem_singleton.1 hb
        rw [hbefore a ha, List.idxOf_append_of_notMem hnew]
        have hlt := List.idxOf_lt_length_of_mem (List.mem_eraseDups.1 ha)
        omega

theorem nodup_eraseDups (names : List String) : names.eraseDups.Nodup := by
  rw [List.nodup_iff_pairwise_ne]
  refine (pairwise_idxOf_eraseDups names).imp fun {a b} hlt => ?_
  rintro rfl
  exact Nat.lt_irrefl _ hlt

/-- It does not matter whether names are picked out before or after repetitions are dropped. -/
theorem filter_eraseDups (keep : String → Bool) (names : List String) :
    names.eraseDups.filter keep = (names.filter keep).eraseDups := by
  induction names using List.reverseRecOn with
  | nil => rfl
  | append_singleton names name ih =>
      rw [eraseDups_concat, List.filter_append]
      by_cases hkeep : keep name = true
      · have hlast : [name].filter keep = [name] := by simp [hkeep]
        rw [hlast, eraseDups_concat, ← ih]
        by_cases hmem : name ∈ names <;> simp [hmem, hkeep]
      · have hlast : [name].filter keep = [] := by simp [hkeep]
        rw [hlast, List.append_nil, ← ih]
        split <;> simp [List.filter_append, hkeep]

namespace Requirements

theorem foldl_pushNew_eq_eraseDups (names : List String) :
    names.foldl pushNew [] = names.eraseDups := by
  induction names using List.reverseRecOn with
  | nil => rfl
  | append_singleton names name ih =>
      rw [List.foldl_append, ih, eraseDups_concat]
      simp [pushNew, List.mem_eraseDups]

end Requirements

end Polybuild
