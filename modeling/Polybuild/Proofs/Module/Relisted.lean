import Polybuild.Proofs.Disk.Chain
import Polybuild.Proofs.Disk.Spelling
import Polybuild.Proofs.Module.Listed
import Polybuild.Proofs.Text.Sorted

/-!
# What a module sees of a disk

A module sees the files below its source root, and no more: as long as these are the same, it lists
the same sources, and each of them is read as before. That there are more directories, or other
files elsewhere, makes no difference. The order of the listing is that of the paths, so it does not
matter in which order the disk tells its files.
-/

namespace Polybuild

open Polybuild.Path (IsName Normal)

/-- Names lead down from a base. -/
theorem Location.namesBelow?_eq_some_iff {base l : Location} {names : List String} :
    base.namesBelow? l = some names ↔ l = names.reverse ++ base := by
  unfold namesBelow?
  constructor
  · intro h
    split at h
    · rename_i hsuffix
      obtain ⟨front, rfl⟩ := List.isSuffixOf_iff_suffix.1 hsuffix
      obtain rfl : front.reverse = names := by simpa using h
      rw [List.reverse_reverse]
    · simp at h
  · rintro rfl
    have hsuffix : base.isSuffixOf (names.reverse ++ base) = true :=
      List.isSuffixOf_iff_suffix.2 (List.suffix_append _ _)
    simp [hsuffix]

namespace Disk

variable {d d' : Disk} {l : Location} {names : List String} {p : Path}

/-- A file below a location is listed by the names that lead to it. -/
theorem mem_filesBelow_iff :
    names ∈ d.filesBelow l ↔ names ≠ [] ∧ (d.fileAt? (names.reverse ++ l)).isSome = true := by
  unfold filesBelow
  rw [List.mem_filterMap]
  constructor
  · rintro ⟨⟨place, entry⟩, hentry, hbelow⟩
    cases entry with
    | directory => simp at hbelow
    | file content =>
        obtain ⟨found, hfound, hne⟩ := Option.bind_eq_some_iff.1 hbelow
        obtain ⟨hsome, rfl⟩ : found ≠ [] ∧ found = names := by simpa using hne
        obtain rfl := Location.namesBelow?_eq_some_iff.1 hfound
        refine ⟨hsome, Option.isSome_iff_exists.2 ⟨content, fileAt?_eq_some_iff.2 ?_⟩⟩
        have hplace : found.reverse ++ l ≠ [] := by simp [hsome]
        rw [entryAt?, if_neg hplace]
        exact lookup_of_mem d.distinct hentry
  · rintro ⟨hne, hfile⟩
    obtain ⟨content, hcontent⟩ := Option.isSome_iff_exists.1 hfile
    have hentry := mem_entries_of_entryAt? (by simp [hne]) (fileAt?_eq_some_iff.1 hcontent)
    refine ⟨_, hentry, ?_⟩
    simp [Location.namesBelow?_eq_some_iff.2 rfl, hne]

/-- A file is listed once. -/
theorem nodup_filesBelow (d : Disk) (l : Location) : (d.filesBelow l).Nodup := by
  have hdistinct := List.pairwise_map.1 d.distinct
  refine hdistinct.filterMap _ ?_
  rintro ⟨place, entry⟩ ⟨place', entry'⟩ hne names hnames names' hnames' rfl
  cases entry with
  | directory => simp at hnames
  | file content =>
      cases entry' with
      | directory => simp at hnames'
      | file content' =>
          obtain ⟨found, hfound, hsome⟩ := Option.bind_eq_some_iff.1 hnames
          obtain ⟨found', hfound', hsome'⟩ := Option.bind_eq_some_iff.1 hnames'
          obtain ⟨-, rfl⟩ : found ≠ [] ∧ found = names := by simpa using hsome
          obtain ⟨-, rfl⟩ : found' ≠ [] ∧ found' = found := by simpa using hsome'
          exact hne ((Location.namesBelow?_eq_some_iff.1 hfound).trans
            (Location.namesBelow?_eq_some_iff.1 hfound').symm)

/-- Where a plain path leads to a file, the way there is the same on two disks. -/
theorem Extends.isFile_eq (h : Extends d d') (hplain : Path.Plain p)
    (hwork : d.isDirectoryAt d.workDir = true)
    (hfile : d'.fileAt? (d.target p) = d.fileAt? (d.target p)) : d'.isFile p = d.isFile p := by
  rw [Bool.eq_iff_iff]
  refine ⟨fun hlater => ?_, h.isFile⟩
  obtain ⟨l, hlocate, hl⟩ := isFile_iff.1 hlater
  have htarget := eq_target_of_locate hlocate
  rw [target_congr h.workDir] at htarget
  rw [htarget, hfile, ← htarget] at hl
  have hthere : (d.entryAt? l).isSome = true := isSome_entryAt?_iff.2 (Or.inr hl)
  exact isFile_iff.2 ⟨l, h.locate_of_plain hplain hwork hlocate hthere, hl⟩

theorem Extends.readText_eq (h : Extends d d') (hthere : d.isFile p = true)
    (hfile : d'.fileAt? (d.target p) = d.fileAt? (d.target p)) : d'.readText p = d.readText p := by
  obtain ⟨l, hlocate, hl⟩ := isFile_iff.1 hthere
  obtain ⟨content, hcontent⟩ := Option.isSome_iff_exists.1 hl
  have hcontent' : d'.fileAt? l = some content := by
    rw [eq_target_of_locate hlocate, hfile, ← eq_target_of_locate hlocate, hcontent]
  rw [fileAt?_eq_some_iff] at hcontent hcontent'
  simp only [readText, read, hlocate, h.locate hlocate, Except.bind, hcontent, hcontent']

end Disk

namespace Module

variable {m : Module} {d d' : Disk} {root file : Path} {relative plain : String}

/-- Two disks have the same files below the source root of a module. -/
def SameSources (m : Module) (d d' : Disk) : Prop :=
  ∀ root, m.sourceRoot? = some root → ∀ p, root.StrictlyInside p →
    d'.fileAt? (d.target p) = d.fileAt? (d.target p)

/-- What lies inside a directory stands below it. -/
theorem suffix_target_of_strictlyInside {p : Path} (h : root.StrictlyInside p)
    (hroot : root.components ≠ []) (d : Disk) : d.target root <:+ d.target p := by
  obtain ⟨cs, -, hup, hcs⟩ := h
  obtain ⟨start, rest, hstart⟩ := List.exists_cons_of_ne_nil hroot
  obtain ⟨first, others, hcomponents, hothers, -⟩ := Path.components_eq p
  have hdown : ∀ c ∈ cs, c ≠ .root := by
    intro c hc
    apply hothers
    rw [hcs, hstart, List.cons_append] at hcomponents
    cases first with
    | none =>
        have hall : start :: (rest ++ cs) = others := hcomponents
        simp [← hall, hc]
    | some head =>
        have hall : rest ++ cs = others := (List.cons.inj hcomponents).2
        simp [← hall, hc]
  have hthrough : ∀ (cs : List Component) (l : Location), .up ∉ cs → (∀ c ∈ cs, c ≠ .root) →
      l <:+ cs.foldl Location.through l := by
    intro cs
    induction cs with
    | nil => exact fun l _ _ => List.suffix_refl l
    | cons c cs ih =>
        intro l hup hdown
        rw [List.mem_cons, not_or] at hup
        rw [List.forall_mem_cons] at hdown
        have hrest := ih (l.through c) hup.2 hdown.2
        cases c with
        | root => exact absurd rfl hdown.1
        | up => exact absurd rfl hup.1
        | here => exact hrest
        | name s => exact (List.suffix_cons s l).trans hrest
  rw [Disk.target_eq_foldl, Disk.target_eq_foldl, hcs, List.foldl_append]
  exact hthrough cs _ hup hdown

theorem isNormal_listed (hroot : root.IsNormal) : (Disk.listed root).1.IsNormal := by
  unfold Disk.listed
  split
  · exact ⟨⟨"/"⟩, by decide⟩
  · exact hroot

/-- What is listed for a source root lies inside it. -/
theorem strictlyInside_listed (hroot : root.IsNormal) {names : List String} (hne : names ≠ [])
    (hnames : ∀ s ∈ names, IsName s ∧ '/' ∉ s.toList) :
    root.StrictlyInside
      (Path.ofComponents ((Disk.listed root).1.components ++ names.map .name)) := by
  have hcomponents := Path.components_ofComponents
    ((isNormal_listed hroot).normal.append_names hnames)
  rw [Path.StrictlyInside, hcomponents]
  unfold Disk.listed
  split
  · rename_i hempty
    -- an empty source root holds the whole disk
    have hpath : root = ⟨""⟩ := congrArg Path.mk hempty
    have hslash : (⟨"/"⟩ : Path).components = [.root] := by decide
    have hnone : (⟨""⟩ : Path).components = [] := by decide
    rw [hpath, hslash, hnone]
    exact ⟨.root :: names.map .name, by simp, by simp, rfl⟩
  · exact ⟨names.map .name, by simpa using hne, by simp, rfl⟩

/-- Files at and below the place where sources are listed are the same. -/
theorem SameSources.fileAt?_eq (h : m.SameSources d d') (hroot : m.sourceRoot? = some root)
    {names : List String} (hne : names ≠ [])
    (hnames : ∀ s ∈ names, IsName s ∧ '/' ∉ s.toList) :
    d'.fileAt? (names.reverse ++ d.target (Disk.listed root).1) =
      d.fileAt? (names.reverse ++ d.target (Disk.listed root).1) := by
  have hnormal := isNormal_of_sourceRoot? hroot
  have hsame := h root hroot _ (strictlyInside_listed hnormal hne hnames)
  rwa [Disk.target_of_names (Path.components_ofComponents
    ((isNormal_listed hnormal).normal.append_names hnames))] at hsame

/-- The files that are listed for a source root, if there is a directory. -/
def filesAt (d : Disk) (base : Path) : List (List String) :=
  (d.directory? base).elim [] d.filesBelow

theorem mem_filesAt_iff {base : Path} {names : List String} :
    names ∈ filesAt d base ↔ ∃ l, d.directory? base = some l ∧ names ∈ d.filesBelow l := by
  unfold filesAt
  cases d.directory? base <;> simp

theorem nodup_filesAt (d : Disk) (base : Path) : (filesAt d base).Nodup := by
  unfold filesAt
  cases d.directory? base with
  | none => exact List.nodup_nil
  | some l => exact Disk.nodup_filesBelow d l

theorem sources_eq_mergeSort (hroot : m.sourceRoot? = some root) (d : Disk) :
    d.sources m = (((filesAt d (Disk.listed root).1).map fun names =>
      relativeText ((Disk.listed root).2 ++ names.map .name)).filter isSourceFile).mergeSort
        fun a b => decide (a ≤ b) := by
  simp only [Disk.sources, hroot, filesAt]
  cases d.directory? (Disk.listed root).1 <;> simp

/-- The same files are listed on a disk that extends another one, if the files there are the same:
a directory that is new holds none of them. -/
theorem SameSources.filesAt_perm (h : m.SameSources d d') (hroot : m.sourceRoot? = some root)
    (hext : Disk.Extends d d') (hnamed : d.Named) (hnamed' : d'.Named)
    (hwork : d.isDirectoryAt d.workDir = true) :
    (filesAt d' (Disk.listed root).1).Perm (filesAt d (Disk.listed root).1) := by
  rw [List.perm_ext_iff_of_nodup (nodup_filesAt d' _) (nodup_filesAt d _)]
  intro names
  rw [mem_filesAt_iff, mem_filesAt_iff]
  constructor
  · rintro ⟨l, hl, hbelow⟩
    obtain ⟨hne, hnames⟩ := hnamed'.filesBelow hbelow
    obtain ⟨hlocate, -⟩ := Disk.directory?_eq_some_iff.1 hl
    have htarget := Disk.eq_target_of_locate hlocate
    rw [Disk.target_congr hext.workDir] at htarget
    have hfile := (Disk.mem_filesBelow_iff.1 hbelow).2
    rw [htarget, h.fileAt?_eq hroot hne hnames, ← htarget] at hfile
    have hdir : d.isDirectoryAt l = true := Disk.isDirectoryAt_of_isSome_append (by simpa using hne)
      (Disk.isSome_entryAt?_iff.2 (Or.inr hfile))
    have hfound := hext.locate_of_plain (isNormal_listed (isNormal_of_sourceRoot? hroot)).plain
      hwork hlocate (Disk.isSome_entryAt?_iff.2 (Or.inl hdir))
    exact ⟨l, Disk.directory?_eq_some_iff.2 ⟨hfound, hdir⟩, Disk.mem_filesBelow_iff.2 ⟨hne, hfile⟩⟩
  · rintro ⟨l, hl, hbelow⟩
    obtain ⟨hne, hnames⟩ := hnamed.filesBelow hbelow
    obtain ⟨hlocate, hdir⟩ := Disk.directory?_eq_some_iff.1 hl
    have hfile := (Disk.mem_filesBelow_iff.1 hbelow).2
    rw [Disk.eq_target_of_locate hlocate, ← h.fileAt?_eq hroot hne hnames,
      ← Disk.eq_target_of_locate hlocate] at hfile
    exact ⟨l, Disk.directory?_eq_some_iff.2 ⟨hext.locate hlocate, hext.directories l hdir⟩,
      Disk.mem_filesBelow_iff.2 ⟨hne, hfile⟩⟩

/-- On a disk that extends another one and has the same files below the source root, a module lists
the same sources. -/
theorem SameSources.sources_eq (h : m.SameSources d d') (hext : Disk.Extends d d')
    (hnamed : d.Named) (hnamed' : d'.Named) (hwork : d.isDirectoryAt d.workDir = true) :
    d'.sources m = d.sources m := by
  cases hroot : m.sourceRoot? with
  | none => simp only [Disk.sources, hroot]
  | some root =>
      have hfiles := h.filesAt_perm hroot hext hnamed hnamed' hwork
      rw [sources_eq_mergeSort hroot, sources_eq_mergeSort hroot]
      exact Text.mergeSort_congr ((hfiles.map _).filter _)

/-- The file of a canonical path lies inside the source root. -/
theorem strictlyInside_of_canonical (hplain : Canonical plain)
    (hsource : m.sourceFile? plain = some file) (hroot : m.sourceRoot? = some root) :
    root.StrictlyInside file := by
  obtain ⟨names, hne, hnames, rfl⟩ := hplain
  obtain rfl := Option.some.inj ((sourceFile?_of_names hroot hne hnames).symm.trans hsource)
  have hcomponents := Path.components_ofComponents
    ((isNormal_of_sourceRoot? hroot).normal.append_names hnames)
  exact ⟨names.map .name, by simpa using hne, by simp, hcomponents⟩

end Module

end Polybuild
