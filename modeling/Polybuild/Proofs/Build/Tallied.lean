import Mathlib.Algebra.GroupWithZero.Nat
import Mathlib.Algebra.Order.BigOperators.Group.List
import Mathlib.Algebra.Order.Group.Nat
import Polybuild.Build.Report
import Polybuild.Proofs.Requirements.Distinct

/-!
# The tallies of a report

`modules` puts one entry after the other into the tally of its module, or starts a new tally at the
end. `Tally.ofFiles` is what such a tally should say of some files, counted without any steps, and
`modules_eq_map` is the one fact on which the rest stands: the tallies are these counts, one for
each name, in the order in which the names come first.

The tallies add up to the counts of the report (`sum_modules`), because each entry adds to one tally
only what it adds to the report.
-/

namespace Polybuild

namespace Tally

/-- What is to be told of the files of a module. -/
def ofFiles (name : String) (files : List FileEntry) : Tally where
  name := name
  compiled := files.countP FileEntry.isCompiled
  skipped := files.countP FileEntry.isSkipped
  failures := files.filterMap fun e => e.error?.map fun message => (e.path, message)

theorem ofFiles_nil (name : String) : ofFiles name [] = start name := rfl

theorem ofFiles_concat (name : String) (files : List FileEntry) (e : FileEntry) :
    ofFiles name (files ++ [e]) = (ofFiles name files).record e := by
  unfold record
  cases hstatus : e.status <;>
    simp [ofFiles, hstatus, FileEntry.isCompiled, FileEntry.isSkipped, FileEntry.error?]

end Tally

namespace BuildReport

variable {r : BuildReport} {e : FileEntry} {names : List String} {tally : String → Tally}

/-- The entries of the files of a module. -/
def filesOf (r : BuildReport) (name : String) : List FileEntry :=
  r.files.filter fun e => e.moduleName == name

/-! ## One more entry -/

theorem modules_add (r : BuildReport) (e : FileEntry) :
    (r.add e).modules = tallyIn e r.modules := by
  simp [modules, add]

/-- An entry changes the tally of its module and no other one. -/
theorem ofFiles_filesOf_add (r : BuildReport) (e : FileEntry) (name : String) :
    Tally.ofFiles name ((r.add e).filesOf name) =
      if name = e.moduleName then (Tally.ofFiles name (r.filesOf name)).record e
      else Tally.ofFiles name (r.filesOf name) := by
  rw [filesOf, add, List.filter_append]
  by_cases hname : name = e.moduleName
  · have hlast : [e].filter (fun e => e.moduleName == name) = [e] := by simp [hname]
    rw [hlast, if_pos hname, Tally.ofFiles_concat, filesOf]
  · have hlast : [e].filter (fun e => e.moduleName == name) = [] := by simp [Ne.symm hname]
    rw [hlast, if_neg hname, List.append_nil, filesOf]

/-- Among tallies with distinct names, the one of the module is changed; a new name comes last. -/
theorem tallyIn_map (hnames : ∀ name, (tally name).name = name) (hnodup : names.Nodup) :
    tallyIn e (names.map tally) =
      if e.moduleName ∈ names then
        names.map fun name => if name = e.moduleName then (tally name).record e else tally name
      else names.map tally ++ [(Tally.start e.moduleName).record e] := by
  induction names with
  | nil => rfl
  | cons name rest ih =>
      obtain ⟨hnew, hrest⟩ := List.nodup_cons.1 hnodup
      rw [List.map_cons, tallyIn, hnames]
      by_cases hname : name = e.moduleName
      · -- the name does not come again, so the tallies behind it stay
        have hothers : rest.map (fun name =>
            if name = e.moduleName then (tally name).record e else tally name) =
              rest.map tally := by
          refine List.map_congr_left fun other hother => if_neg ?_
          rintro rfl
          exact hnew (hname ▸ hother)
        rw [if_pos hname, if_pos (by simp [hname]), List.map_cons, if_pos hname, hothers]
      · have hmem : e.moduleName ∈ name :: rest ↔ e.moduleName ∈ rest := by
          simp [Ne.symm hname]
        rw [if_neg hname, ih hrest]
        simp only [hmem, List.map_cons, if_neg hname]
        split <;> rfl

/-! ## All entries -/

/-- There is one tally for each name, in the order in which the names come first, and it tells what
came of the files of its module. -/
theorem modules_eq_map (r : BuildReport) :
    r.modules = (r.files.map (·.moduleName)).eraseDups.map fun name =>
      Tally.ofFiles name (r.filesOf name) := by
  obtain ⟨files, duration⟩ := r
  induction files using List.reverseRecOn with
  | nil => rfl
  | append_singleton files e ih =>
      have hadd : (⟨files ++ [e], duration⟩ : BuildReport) = add ⟨files, duration⟩ e := rfl
      have hfiles : (add ⟨files, duration⟩ e).files.map (·.moduleName) =
          files.map (·.moduleName) ++ [e.moduleName] := by
        simp [add]
      rw [hadd, modules_add, ih, tallyIn_map (fun _ => rfl) (nodup_eraseDups _), hfiles,
        eraseDups_concat]
      simp only [ofFiles_filesOf_add, List.mem_eraseDups]
      split
      · rfl
      · rename_i hnew
        -- no file of the module came before, so its tally starts with this one
        have hnone : filesOf ⟨files, duration⟩ e.moduleName = [] := by
          refine List.filter_eq_nil_iff.2 fun other hother hname => hnew ?_
          exact List.mem_map.2 ⟨other, hother, by simpa using hname⟩
        have hothers : ∀ name ∈ (files.map (·.moduleName)).eraseDups, name ≠ e.moduleName := by
          rintro name hmem rfl
          exact hnew (List.mem_eraseDups.1 hmem)
        rw [List.map_append, List.map_singleton, if_pos rfl, hnone, Tally.ofFiles_nil]
        congr 1
        exact List.map_congr_left fun name hmem => (if_neg (hothers name hmem)).symm

theorem names_modules (r : BuildReport) :
    r.modules.map (·.name) = (r.files.map (·.moduleName)).eraseDups := by
  rw [modules_eq_map, List.map_map]
  exact List.map_id _

/-- What each entry adds to the tally of its module is added to the sum over all tallies. -/
theorem sum_tallyIn {weight : Tally → Nat} {counts : FileEntry → Bool}
    (hstart : ∀ name, weight (.start name) = 0)
    (hrecord : ∀ t e, weight (t.record e) = weight t + if counts e then 1 else 0)
    (tallies : List Tally) (e : FileEntry) :
    ((tallyIn e tallies).map weight).sum =
      (tallies.map weight).sum + if counts e then 1 else 0 := by
  induction tallies with
  | nil => simp [tallyIn, hstart, hrecord]
  | cons t rest ih =>
      rw [tallyIn]
      split
      · simp only [List.map_cons, List.sum_cons, hrecord]
        omega
      · simp only [List.map_cons, List.sum_cons, ih]
        omega

/-- The tallies add up to the counts of all files. -/
theorem sum_modules {weight : Tally → Nat} {counts : FileEntry → Bool}
    (hstart : ∀ name, weight (.start name) = 0)
    (hrecord : ∀ t e, weight (t.record e) = weight t + if counts e then 1 else 0)
    (r : BuildReport) : (r.modules.map weight).sum = r.files.countP counts := by
  obtain ⟨files, duration⟩ := r
  induction files using List.reverseRecOn with
  | nil => rfl
  | append_singleton files e ih =>
      have hadd : (⟨files ++ [e], duration⟩ : BuildReport) = add ⟨files, duration⟩ e := rfl
      rw [hadd, modules_add, sum_tallyIn hstart hrecord, ih, add, List.countP_append,
        List.countP_singleton]

theorem sum_compiled (r : BuildReport) : (r.modules.map (·.compiled)).sum = r.compiledCount := by
  rw [compiledCount, ← List.countP_eq_length_filter]
  refine sum_modules (fun _ => rfl) (fun t e => ?_) r
  cases hstatus : e.status <;> simp [Tally.record, FileEntry.isCompiled, hstatus]

theorem sum_skipped (r : BuildReport) : (r.modules.map (·.skipped)).sum = r.skippedCount := by
  rw [skippedCount, ← List.countP_eq_length_filter]
  refine sum_modules (fun _ => rfl) (fun t e => ?_) r
  cases hstatus : e.status <;> simp [Tally.record, FileEntry.isSkipped, hstatus]

theorem sum_failures (r : BuildReport) :
    (r.modules.map (·.failures.length)).sum = r.failedCount := by
  rw [failedCount, failures, ← List.countP_eq_length_filter]
  refine sum_modules (fun _ => rfl) (fun t e => ?_) r
  cases hstatus : e.status <;>
    simp [Tally.record, FileEntry.isFailure, FileEntry.error?, hstatus]

/-- Every file was compiled, was skipped or failed. -/
theorem counts_add_up (r : BuildReport) :
    r.compiledCount + r.skippedCount + r.failedCount = r.files.length := by
  simp only [compiledCount, skippedCount, failedCount, failures, ← List.countP_eq_length_filter]
  induction r.files with
  | nil => rfl
  | cons e rest ih =>
      cases hstatus : e.status <;>
        simp [FileEntry.isCompiled, FileEntry.isSkipped, FileEntry.isFailure,
          FileEntry.error?, hstatus] <;> omega

theorem isSuccess_iff (r : BuildReport) :
    r.isSuccess = true ↔ ∀ t ∈ r.modules, t.failures = [] := by
  rw [isSuccess, ← sum_failures, beq_iff_eq, List.sum_eq_zero_iff, List.forall_mem_map]
  simp only [List.length_eq_zero_iff]

/-! ## Reports that are made in steps -/

/-- What the tallies of a report say of its entries. -/
structure Tallied (r : BuildReport) : Prop where
  distinct : (r.modules.map (·.name)).Nodup
  complete : ∀ name, name ∈ r.modules.map (·.name) ↔ ∃ e ∈ r.files, e.moduleName = name
  ordered : (r.modules.map (·.name)).Pairwise fun a b =>
    (r.files.map (·.moduleName)).idxOf a < (r.files.map (·.moduleName)).idxOf b
  told : ∀ t ∈ r.modules, t = .ofFiles t.name (r.filesOf t.name)
  compiled : (r.modules.map (·.compiled)).sum = r.compiledCount
  skipped : (r.modules.map (·.skipped)).sum = r.skippedCount
  failed : (r.modules.map (·.failures.length)).sum = r.failedCount
  total : r.compiledCount + r.skippedCount + r.failedCount = r.files.length
  success : r.isSuccess = true ↔ ∀ t ∈ r.modules, t.failures = []

theorem tallied (r : BuildReport) : r.Tallied where
  distinct := names_modules r ▸ nodup_eraseDups _
  complete := by
    intro name
    rw [names_modules, List.mem_eraseDups, List.mem_map]
  ordered := names_modules r ▸ pairwise_idxOf_eraseDups _
  told := by
    intro t ht
    rw [modules_eq_map] at ht
    obtain ⟨name, -, rfl⟩ := List.mem_map.1 ht
    rfl
  compiled := sum_compiled r
  skipped := sum_skipped r
  failed := sum_failures r
  total := counts_add_up r
  success := isSuccess_iff r

/-- A step in the making of a report: one more entry, or another report behind it. -/
inductive Addition where
  | entry (e : FileEntry)
  | report (other : BuildReport)

/-- The entries that a step adds. -/
def Addition.files : Addition → List FileEntry
  | entry e => [e]
  | report other => other.files

/-- The report behind a step. -/
def extend (r : BuildReport) : Addition → BuildReport
  | .entry e => r.add e
  | .report other => r.merge other

/-- The report that is made by some steps from nothing. -/
def ofAdditions (additions : List Addition) : BuildReport :=
  additions.foldl extend empty

theorem files_extend (r : BuildReport) (addition : Addition) :
    (r.extend addition).files = r.files ++ addition.files := by
  cases addition <;> rfl

theorem files_foldl_extend (r : BuildReport) (additions : List Addition) :
    (additions.foldl extend r).files = r.files ++ additions.flatMap Addition.files := by
  induction additions generalizing r with
  | nil => simp
  | cons addition rest ih => rw [List.foldl_cons, ih, files_extend]; simp

theorem files_foldl_add (r : BuildReport) (files : List FileEntry) :
    (files.foldl add r).files = r.files ++ files := by
  induction files generalizing r with
  | nil => simp
  | cons e rest ih => rw [List.foldl_cons, ih]; simp [add]

/-- However a report is made of entries and of other reports, it has their entries in order, and its
tallies tell of each module what came of its files. To merge another report gives the same tallies
as to add its entries one by one. -/
theorem modules_tally_files (additions : List Addition) (other : BuildReport) :
    (ofAdditions additions).files = additions.flatMap Addition.files ∧
      (ofAdditions additions).Tallied ∧
      ((ofAdditions additions).merge other).modules =
        (other.files.foldl add (ofAdditions additions)).modules := by
  refine ⟨?_, tallied _, ?_⟩
  · rw [ofAdditions, files_foldl_extend]
    rfl
  · rw [modules, modules, files_foldl_add]
    rfl

/-- Entries of two modules in turn, and a report with one of them again. -/
example :
    (ofAdditions [.entry ⟨"Web", "/a.bay", .compiled []⟩, .entry ⟨"Log", "/b.bay", .failed "eof"⟩,
      .report ⟨[⟨"Web", "/c.bay", .failed "boom"⟩,
        ⟨"Log", "/d.bay", .skipped .excluded⟩], 0⟩]).modules =
      [⟨"Web", 1, 0, [("/c.bay", "boom")]⟩, ⟨"Log", 0, 1, [("/b.bay", "eof")]⟩] := by
  decide

end BuildReport

end Polybuild
