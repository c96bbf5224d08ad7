import Polybuild.Module.Find
import Polybuild.Proofs.Disk.Named
import Polybuild.Proofs.Module.Sources

/-!
# The files that a module lists

Every relative path that is listed for a build leads to a file below the source root, and the plain
spelling of it is canonical, whatever the source root is.
-/

namespace Polybuild

open Polybuild.Path (IsName Normal)

variable {root file : Path} {names : List String} {relative : String} {m : Module} {d : Disk}

namespace Module

/-- Slashes in front of a relative path do not count. -/
theorem segments_slash_append (s : String) : Path.segments ("/" ++ s) = Path.segments s := by
  rw [Path.segments, Path.segments, Text.split_slash_append, List.filter_cons_of_neg (by simp)]

theorem segments_listed (hnames : ∀ s ∈ names, IsName s ∧ '/' ∉ s.toList) :
    Path.segments (relativeText ((Disk.listed root).2 ++ names.map .name)) = names := by
  unfold Disk.listed
  split
  · rw [List.singleton_append, relativeText_cons, String.append_assoc, segments_slash_append]
    exact (segments_slash_append _).trans (segments_names hnames)
  · exact segments_names hnames

/-- A listed path leads to a file, which has a canonical path. -/
theorem exists_sourceFile?_of_mem_sources (hnamed : d.Named) (h : relative ∈ d.sources m) :
    ∃ file plain, m.sourceFile? relative = some file ∧ m.relativePath? file = some plain ∧
      Canonical plain := by
  unfold Disk.sources at h
  split at h
  · simp at h
  · rename_i root hroot
    dsimp only at h
    split at h
    · simp at h
    · rename_i l hl
      rw [List.mem_mergeSort, List.mem_filter, List.mem_map] at h
      obtain ⟨⟨names, hbelow, rfl⟩, -⟩ := h
      obtain ⟨hne, hnames⟩ := hnamed.filesBelow hbelow
      have hnormal := isNormal_of_sourceRoot? hroot
      have hfile := hnormal.normal.append_names hnames
      have hsource : m.sourceFile? (relativeText ((Disk.listed root).2 ++ names.map .name)) =
          some (Path.ofComponents (root.components ++ names.map .name)) :=
        sourceFile?_eq_some_iff.2
          ⟨root, hroot, Path.beneath?_of_segments hnormal hne hnames (segments_listed hnames)⟩
      refine ⟨_, _, hsource, relativePath?_eq_some_iff.2
        ⟨root, names.map .name, hroot, by simpa using hne, ?_, rfl⟩, names, hne, hnames, rfl⟩
      rw [(Path.isNormal_ofComponents hfile).normalize_eq, Path.components_ofComponents hfile]

end Module

end Polybuild
