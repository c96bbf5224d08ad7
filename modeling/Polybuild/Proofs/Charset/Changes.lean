import Mathlib.Data.List.Nodup
import Polybuild.Regex.Footprint

/-!
# Sets with the same characters

Membership in a set changes at its marks only (`mem_eq_memBefore`), so the changes of a set are told
from its characters, and so is the room that it takes in an expression (`footprint_set_congr`).
However a class is spelled, it takes the same.
-/

namespace Polybuild

namespace Charset

variable {s t : Charset} {n m : Nat} {ns : List Nat}

/-! ## Numbers in order -/

theorem mem_putInOrder_iff : m ∈ putInOrder n ns ↔ m = n ∨ m ∈ ns := by
  induction ns with
  | nil => simp [putInOrder]
  | cons k rest ih =>
      rw [putInOrder]
      split
      · simp
      · split
        · rename_i heq
          simp [heq]
        · simp only [List.mem_cons, ih]
          tauto

theorem pairwise_putInOrder (h : ns.Pairwise (· < ·)) : (putInOrder n ns).Pairwise (· < ·) := by
  induction ns with
  | nil => exact List.pairwise_singleton _ _
  | cons k rest ih =>
      have hrest := List.pairwise_cons.1 h
      rw [putInOrder]
      split
      · rename_i hlt
        refine List.pairwise_cons.2 ⟨fun m hm => ?_, h⟩
        rcases List.mem_cons.1 hm with rfl | hm
        · exact hlt
        · exact Nat.lt_trans hlt (hrest.1 m hm)
      · split
        · exact h
        · refine List.pairwise_cons.2 ⟨fun m hm => ?_, ih hrest.2⟩
          rcases mem_putInOrder_iff.1 hm with rfl | hm
          · omega
          · exact hrest.1 m hm

theorem mem_foldr_putInOrder_iff : m ∈ ns.foldr putInOrder [] ↔ m ∈ ns := by
  induction ns with
  | nil => simp
  | cons n rest ih => rw [List.foldr_cons, mem_putInOrder_iff, ih, List.mem_cons]

theorem pairwise_foldr_putInOrder (ns : List Nat) :
    (ns.foldr putInOrder []).Pairwise (· < ·) := by
  induction ns with
  | nil => exact .nil
  | cons n rest ih => exact pairwise_putInOrder ih

/-! ## Where membership changes -/

theorem Run.mem_numbers_of_holds {r : Run} (h : r.holds n = true) : n ∈ r.numbers := by
  simp only [Run.holds, Bool.and_eq_true, decide_eq_true_eq, beq_iff_eq] at h
  obtain ⟨⟨hfirst, hlast⟩, hstride⟩ := h
  have hmul := Nat.div_add_mod' (n - r.first) r.stride
  have hle : (n - r.first) / r.stride ≤ (r.last - r.first) / r.stride :=
    Nat.div_le_div_right (by omega)
  exact List.mem_map.2 ⟨(n - r.first) / r.stride, List.mem_range.2 (by omega), by omega⟩

theorem Run.mem_marks_of_ne {r : Run} (h : r.holds n ≠ (n != 0 && r.holds (n - 1))) :
    n ∈ r.marks := by
  unfold Run.marks
  split
  · rename_i hstride
    by_contra hmarks
    refine h ?_
    simp only [List.mem_cons, List.not_mem_nil, or_false, not_or] at hmarks
    rw [Bool.eq_iff_iff]
    simp only [Run.holds, hstride, Nat.mod_one, beq_self_eq_true, Bool.and_true, Bool.and_eq_true,
      decide_eq_true_eq, bne_iff_ne]
    omega
  · rw [List.mem_flatMap]
    by_cases hn : r.holds n = true
    · exact ⟨n, mem_numbers_of_holds hn, by simp⟩
    · have hbefore : n ≠ 0 ∧ r.holds (n - 1) = true := by simpa [hn] using h
      exact ⟨n - 1, mem_numbers_of_holds hbefore.2, by simp; omega⟩

/-- A character that no run speaks of folds as no other does. -/
theorem variantsBy_of_notMem {runs : List FoldRun} (h : n ∉ foldableBy runs) :
    variantsBy runs n = [] := by
  have hruns : ∀ r ∈ runs, ∀ source, r.run.holds source = true →
      n ≠ source ∧ n ≠ r.target + (source - r.run.first) := by
    intro r hr source hsource
    rw [foldableBy, List.mem_flatMap] at h
    have hnone := fun hmem => h ⟨r, hr, List.mem_flatMap.2 ⟨source, Run.mem_numbers_of_holds hsource,
      hmem⟩⟩
    simpa using hnone
  have hfold : foldBy runs n = n := by
    have hfind : (runs.find? fun r => r.run.holds n) = none := by
      rw [List.find?_eq_none]
      exact fun r hr hholds => (hruns r hr n hholds).1 rfl
    rw [foldBy, hfind]
  have hsources : (runs.filterMap fun r =>
      let source := r.run.first + (n - r.target)
      if r.target ≤ n && r.run.holds source then some source else none) = [] := by
    rw [List.filterMap_eq_nil_iff]
    intro r hr
    dsimp only
    rw [ite_eq_right_iff]
    intro hsource
    rw [Bool.and_eq_true, decide_eq_true_eq] at hsource
    exact absurd (by omega) (hruns r hr _ hsource.2).2
  rw [variantsBy, hfold]
  dsimp only
  rw [hsources, List.filter_cons_of_neg (by simp), List.filter_nil]

theorem otherCase?_of_notMem_letterMarks (h : n ∉ letterMarks) :
    otherCase? n = none ∧ (n ≠ 0 → otherCase? (n - 1) = none) := by
  have hletters : ¬(0x41 ≤ n ∧ n ≤ 0x5B) ∧ ¬(0x61 ≤ n ∧ n ≤ 0x7B) := by
    simp only [letterMarks, List.mem_append, List.mem_range'_1] at h
    omega
  unfold otherCase?
  constructor
  · rw [if_neg (by omega), if_neg (by omega)]
  · intro hn
    rw [if_neg (by omega), if_neg (by omega)]

/-- Membership changes at the marks of a set only. -/
theorem mem_eq_memBefore (h : n ∉ s.marks) : s.mem n = s.memBefore n := by
  induction s with
  | ofRuns rs =>
      have hsame : ∀ r ∈ rs, r.holds n = (n != 0 && r.holds (n - 1)) := by
        intro r hr
        by_contra hne
        exact h (List.mem_flatMap.2 ⟨r, hr, Run.mem_marks_of_ne hne⟩)
      have hany : rs.any (fun r => r.holds n) = rs.any fun r => n != 0 && r.holds (n - 1) := by
        rw [Bool.eq_iff_iff, List.any_eq_true, List.any_eq_true]
        exact exists_congr fun r => and_congr_right fun hr => by rw [hsame r hr]
      rw [mem, hany, memBefore, mem]
      cases n <;> simp
  | union a b iha ihb =>
      simp only [marks, List.mem_append, not_or] at h
      rw [mem, iha h.1, ihb h.2]
      cases n <;> rfl
  | intersection a b iha ihb =>
      simp only [marks, List.mem_append, not_or] at h
      rw [mem, iha h.1, ihb h.2]
      cases n <;> rfl
  | difference a b iha ihb =>
      simp only [marks, List.mem_append, not_or] at h
      rw [mem, iha h.1, ihb h.2]
      cases n <;> rfl
  | symmetricDifference a b iha ihb =>
      simp only [marks, List.mem_append, not_or] at h
      rw [mem, iha h.1, ihb h.2]
      cases n <;> rfl
  | complement a ih =>
      simp only [marks, List.mem_cons, not_or] at h
      rw [mem, ih h.2]
      cases n with
      | zero => exact absurd rfl h.1
      | succ n => rfl
  | folded a ih =>
      simp only [marks, List.mem_append, not_or] at h
      have hfixed : variants n = [] := variantsBy_of_notMem fun hn =>
        h.2 (List.mem_flatMap.2 ⟨n, hn, by simp⟩)
      rw [mem, hfixed, List.any_nil, Bool.or_false, ih h.1]
      cases n with
      | zero => rfl
      | succ n =>
          have hbefore : variants n = [] := variantsBy_of_notMem fun hn =>
            h.2 (List.mem_flatMap.2 ⟨n, hn, by simp⟩)
          simp [memBefore, mem, hbefore]
  | foldedAscii a ih =>
      simp only [marks, List.mem_append, not_or] at h
      obtain ⟨hnone, hbefore⟩ := otherCase?_of_notMem_letterMarks h.2
      rw [mem, hnone, Option.any_none, Bool.or_false, ih h.1]
      cases n with
      | zero => rfl
      | succ n =>
          have hprevious : otherCase? n = none := hbefore (Nat.succ_ne_zero n)
          simp [memBefore, mem, hprevious]

theorem mem_changes_iff : n ∈ s.changes ↔ n ≤ lastNumber ∧ s.mem n ≠ s.memBefore n := by
  simp only [changes, List.mem_filter, mem_foldr_putInOrder_iff, Bool.and_eq_true,
    decide_eq_true_eq, bne_iff_ne]
  constructor
  · exact fun h => h.2
  · intro h
    refine ⟨?_, h⟩
    by_contra hmarks
    exact h.2 (mem_eq_memBefore hmarks)

theorem pairwise_changes (s : Charset) : s.changes.Pairwise (· < ·) :=
  (pairwise_foldr_putInOrder s.marks).filter _

/-- Sets with the same characters consist of the same stretches. -/
theorem spans_congr (h : ∀ n ≤ lastNumber, s.mem n = t.mem n) : s.spans = t.spans := by
  have hbefore : ∀ n ≤ lastNumber, s.memBefore n = t.memBefore n := by
    intro n hn
    rw [memBefore, memBefore, h (n - 1) (by omega)]
  have hnodup : ∀ s : Charset, s.changes.Nodup := fun s =>
    (pairwise_changes s).imp fun hlt => Nat.ne_of_lt hlt
  have hchanges : s.changes = t.changes := by
    refine List.Perm.eq_of_pairwise (fun a b _ _ hab hba => absurd hba (Nat.lt_asymm hab))
      (pairwise_changes s) (pairwise_changes t) ?_
    refine (List.perm_ext_iff_of_nodup (hnodup s) (hnodup t)).2 fun n => ?_
    rw [mem_changes_iff, mem_changes_iff]
    exact and_congr_right fun hn => by rw [h n hn, hbefore n hn]
  rw [spans, spans, hchanges]

end Charset

namespace Regex

/-- A set takes the room of its characters, however it is written. -/
theorem footprint_set_congr {s t : Charset}
    (h : ∀ n ≤ Charset.lastNumber, s.mem n = t.mem n) :
    (Expr.set s).footprint = (Expr.set t).footprint := by
  rw [Expr.footprint, Expr.footprint, Charset.spans_congr h]

/-- What is not outside a set, and what is in it twice over, takes the room of the set. -/
theorem footprint_respelled (s : Charset) :
    (Expr.set (.complement (.complement s))).footprint = (Expr.set s).footprint ∧
      (Expr.set (.intersection s s)).footprint = (Expr.set s).footprint :=
  ⟨footprint_set_congr fun n _ => by simp [Charset.mem],
    footprint_set_congr fun n _ => by simp [Charset.mem]⟩

end Regex

end Polybuild
