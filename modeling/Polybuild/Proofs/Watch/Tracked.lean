import Mathlib.Data.Set.Card
import Polybuild.Proofs.Path.Order
import Polybuild.Watch.Tracker

/-!
# What a tracker knows

A tracker is told of files and whether they failed. After that it tracks a file just when the last
report for it said that it failed, and a file without a report as before. It keeps every file once,
so its count is the number of the files that it tracks. Reports for different files do not concern
each other, so what a batch of them fixes is read off the reports one by one.
-/

namespace Polybuild

namespace FailureTracker

variable {t : FailureTracker} {file other : Path} {told : List (Path × Bool)}

/-! ## Which files are tracked -/

theorem tracks_iff : t.tracks file = true ↔ ∃ f ∈ t.files, f.same file = true := by
  simp [tracks]

theorem tracks_empty (file : Path) : empty.tracks file = false := rfl

theorem tracks_congr (h : file.same other = true) : t.tracks file = t.tracks other := by
  have hcomponents := Path.same_iff.1 h
  simp only [tracks, Path.same, hcomponents]

theorem tracks_add (t : FailureTracker) (file other : Path) :
    (t.add file).tracks other = (file.same other || t.tracks other) := by
  unfold add
  by_cases hfile : t.tracks file = true
  · rw [if_pos hfile]
    cases hsame : file.same other with
    | false => rw [Bool.false_or]
    | true => rw [Bool.true_or, ← tracks_congr hsame, hfile]
  · rw [if_neg hfile]
    simp [tracks, Bool.or_comm]

theorem tracks_drop (t : FailureTracker) (file other : Path) :
    (t.drop file).tracks other = (!file.same other && t.tracks other) := by
  rw [Bool.eq_iff_iff, Bool.and_eq_true, tracks_iff, tracks_iff]
  constructor
  · rintro ⟨f, hf, hsame⟩
    obtain ⟨hmem, hne⟩ := List.mem_filter.1 hf
    have hcomponents := Path.same_iff.1 hsame
    refine ⟨?_, f, hmem, hsame⟩
    rw [Path.same_comm file other, Path.same, ← hcomponents]
    exact hne
  · rintro ⟨hne, f, hmem, hsame⟩
    have hcomponents := Path.same_iff.1 hsame
    refine ⟨f, List.mem_filter.2 ⟨hmem, ?_⟩, hsame⟩
    rw [Path.same_comm file other, Path.same, ← hcomponents] at hne
    exact hne

/-- What the last report for a file said, if there is one. -/
def lastFailed? (told : List (Path × Bool)) (file : Path) : Option Bool :=
  (told.reverse.find? fun report => report.1.same file).map (·.2)

theorem lastFailed?_cons (report : Path × Bool) (told : List (Path × Bool)) (file : Path) :
    lastFailed? (report :: told) file =
      (lastFailed? told file).or (if report.1.same file then some report.2 else none) := by
  simp only [lastFailed?, List.reverse_cons, List.find?_append]
  cases told.reverse.find? fun report => report.1.same file with
  | some later => rfl
  | none => by_cases hsame : report.1.same file = true <;> simp [hsame]

/-- The tracker after one report. -/
def tell (t : FailureTracker) (report : Path × Bool) : FailureTracker :=
  if report.2 then t.add report.1 else t.drop report.1

theorem drop_of_not_tracks (h : t.tracks file = false) : t.drop file = t := by
  have hkept : t.files.filter (fun other => !other.same file) = t.files := by
    rw [List.filter_eq_self]
    intro f hf
    rw [Bool.not_eq_eq_eq_not, Bool.not_true, ← Bool.not_eq_true]
    intro hsame
    rw [tracks_iff.2 ⟨f, hf, hsame⟩] at h
    exact absurd h (by simp)
  rw [drop, hkept]

theorem update_cons (t : FailureTracker) (report : Path × Bool) (told : List (Path × Bool)) :
    t.update (report :: told) =
      ((if !report.2 && t.tracks report.1 then [report.1] else []) ++
        ((t.tell report).update told).1, ((t.tell report).update told).2) := by
  obtain ⟨file, failed⟩ := report
  cases failed with
  | true => simp [update, tell]
  | false =>
      cases htracks : t.tracks file with
      | true => simp [update, tell, htracks]
      | false => simp [update, tell, htracks, drop_of_not_tracks htracks]

theorem tracks_tell (t : FailureTracker) (report : Path × Bool) (file : Path) :
    (t.tell report).tracks file = if report.1.same file then report.2 else t.tracks file := by
  unfold tell
  cases report.2 with
  | true => cases hsame : report.1.same file <;> simp [tracks_add, hsame]
  | false => cases hsame : report.1.same file <;> simp [tracks_drop, hsame]

/-- The last report for a file decides whether it is tracked. -/
theorem tracks_update (t : FailureTracker) (told : List (Path × Bool)) (file : Path) :
    (t.update told).2.tracks file = (lastFailed? told file).getD (t.tracks file) := by
  induction told generalizing t with
  | nil => rfl
  | cons report told ih =>
      rw [update_cons, ih, tracks_tell, lastFailed?_cons]
      cases lastFailed? told file with
      | some failed => rfl
      | none => by_cases hsame : report.1.same file = true <;> simp [hsame]

theorem update_append (t : FailureTracker) (before after : List (Path × Bool)) :
    (t.update (before ++ after)).2 = ((t.update before).2.update after).2 := by
  induction before generalizing t with
  | nil => rfl
  | cons report before ih => rw [List.cons_append, update_cons, update_cons, ih]

/-- Reports of failures only add to what is tracked. -/
theorem tracks_update_failures (t : FailureTracker) (files : List Path) (file : Path) :
    (t.update (files.map fun f => (f, true))).2.tracks file = true ↔
      t.tracks file = true ∨ ∃ f ∈ files, f.same file = true := by
  induction files generalizing t with
  | nil => simp
  | cons f files ih =>
      rw [List.map_cons, update_cons, ih, tracks_tell, List.exists_mem_cons_iff]
      by_cases hsame : f.same file = true <;> simp [hsame]

/-! ## How many files are tracked -/

/-- No file is kept twice. -/
def Distinct (t : FailureTracker) : Prop :=
  t.files.Pairwise fun f g => f.same g = false

theorem distinct_empty : empty.Distinct := List.Pairwise.nil

theorem Distinct.tell (h : t.Distinct) (report : Path × Bool) : (t.tell report).Distinct := by
  obtain ⟨file, failed⟩ := report
  cases failed with
  | false => exact h.filter _
  | true =>
      simp only [FailureTracker.tell, ↓reduceIte, add]
      by_cases hfile : t.tracks file = true
      · rwa [if_pos hfile]
      · rw [if_neg hfile, Distinct, List.pairwise_append]
        refine ⟨h, List.pairwise_singleton _ _, fun f hf g hg => ?_⟩
        obtain rfl := List.mem_singleton.1 hg
        rw [← Bool.not_eq_true]
        exact fun hsame => hfile (tracks_iff.2 ⟨f, hf, hsame⟩)

theorem Distinct.update (h : t.Distinct) (told : List (Path × Bool)) :
    (t.update told).2.Distinct := by
  induction told generalizing t with
  | nil => exact h
  | cons report told ih =>
      rw [update_cons]
      exact ih (h.tell report)

/-- The files that are tracked, by what their paths mean. -/
def tracked (t : FailureTracker) : Set (List Component) :=
  {cs | ∃ file, t.tracks file = true ∧ file.components = cs}

/-- The count is the number of the files that are tracked. -/
theorem Distinct.encard_tracked (h : t.Distinct) : t.tracked.encard = t.count := by
  have hset : t.tracked = ((t.files.map Path.components).toFinset : Set (List Component)) := by
    ext cs
    simp only [tracked, Set.mem_ofPred_eq, List.coe_toFinset, List.mem_map, tracks_iff]
    constructor
    · rintro ⟨file, ⟨f, hf, hsame⟩, rfl⟩
      exact ⟨f, hf, Path.same_iff.1 hsame⟩
    · rintro ⟨f, hf, rfl⟩
      exact ⟨f, ⟨f, hf, Path.same_refl f⟩, rfl⟩
  have hnodup : (t.files.map Path.components).Nodup := by
    rw [List.nodup_iff_pairwise_ne, List.pairwise_map]
    refine List.Pairwise.imp (fun {f g} hne heq => ?_) h
    rw [Path.same_iff.2 heq] at hne
    exact absurd hne (by simp)
  rw [hset, Set.encard_coe_eq_coe_finsetCard, List.toFinset_card_of_nodup hnodup, List.length_map,
    count]

/-! ## Which files are fixed -/

/-- Of reports for different files, those fix a file that say that it did not fail and find it
tracked. -/
theorem fixed_of_update (h : told.Pairwise fun a b => a.1.same b.1 = false) (t : FailureTracker) :
    (t.update told).1 = (told.filter fun report => !report.2 && t.tracks report.1).map (·.1) := by
  induction told generalizing t with
  | nil => rfl
  | cons report told ih =>
      rw [List.pairwise_cons] at h
      have hothers : ∀ other ∈ told, (!other.2 && (t.tell report).tracks other.1) =
          (!other.2 && t.tracks other.1) := by
        intro other hother
        rw [tracks_tell, h.1 other hother]
        simp
      rw [update_cons, ih h.2, List.filter_congr hothers, List.filter_cons]
      split <;> simp

end FailureTracker

end Polybuild
