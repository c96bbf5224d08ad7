import Polybuild.Module.Find
import Polybuild.Proofs.Except

/-!
# What a module is found from

A module is known by its directory and its manifest: `ofManifest?_eq_some_iff` says which modules
these two give, and `module?_eq_some_iff` what has to stand on a disk for a module to be found in
a directory.
-/

namespace Polybuild

variable {d : Disk} {dir : Path} {manifest : ModuleManifest} {m n : Module}

namespace Module

/-- The name of a module is the one that its manifest has. -/
theorem name_eq_of_manifest (h : m.manifest = n.manifest) : m.name = n.name :=
  Option.some.inj (m.named.symm.trans (h ▸ n.named))

theorem map_name_congr {ms ns : List Module}
    (h : ms.map (·.manifest) = ns.map (·.manifest)) : ms.map (·.name) = ns.map (·.name) := by
  have hname : ∀ l : List Module,
      l.map (·.name) = (l.map (·.manifest)).map fun manifest => manifest.name.getD "" := by
    intro l
    rw [List.map_map]
    refine List.map_congr_left fun m _ => ?_
    simp [m.named]
  rw [hname, hname, h]

/-- The name of a module is there and is not blank, but it may start like a group. -/
theorem problems_eq (m : Module) :
    m.manifest.problems = if startsLikeGroup m.name then [.nameOfGroup] else [] := by
  cases hgroup : startsLikeGroup m.name <;>
    simp [ModuleManifest.problems, nameProblem?, m.named, m.nonblank, hgroup]

/-- All the rest of a module is made from its directory and its manifest. -/
theorem eq_of_path_of_manifest (hpath : m.path = n.path) (hmanifest : m.manifest = n.manifest) :
    m = n := by
  have hname := name_eq_of_manifest hmanifest
  obtain ⟨name, path, manifest, filter, named, nonblank, normal, filtered⟩ := m
  obtain ⟨name', path', manifest', filter', named', nonblank', normal', filtered'⟩ := n
  obtain rfl : path = path' := hpath
  obtain rfl : manifest = manifest' := hmanifest
  obtain rfl : name = name' := hname
  obtain rfl : filter = filter' := filtered.trans filtered'.symm
  rfl

theorem ofManifest?_eq_some_iff :
    ofManifest? dir manifest = some m ↔ m.path = dir.normalize ∧ m.manifest = manifest := by
  constructor
  · intro h
    unfold ofManifest? at h
    split at h
    · simp at h
    · split at h
      · obtain rfl := Option.some.inj h
        exact ⟨rfl, rfl⟩
      · simp at h
  · rintro ⟨hpath, rfl⟩
    have hnonblank := m.nonblank
    unfold ofManifest?
    split
    · rename_i hnone
      simp [m.named] at hnone
    · rename_i name hname
      obtain rfl : m.name = name := Option.some.inj (m.named.symm.trans hname)
      rw [dif_pos hnonblank]
      exact congrArg some (eq_of_path_of_manifest hpath.symm rfl)

/-- A manifest with a name that is not blank gives a module of this name. -/
theorem exists_ofManifest? (dir : Path) {name : String} (hname : manifest.name = some name)
    (hnonblank : Text.blank name = false) :
    ∃ m, ofManifest? dir manifest = some m ∧ m.name = name :=
  ⟨{ name := name
     path := dir.normalize
     manifest := manifest
     filter := SourceFilter.ofPatterns manifest.allow manifest.exclude
     named := hname
     nonblank := hnonblank
     normal := dir.exists_normalize_eq
     filtered := rfl }, ofManifest?_eq_some_iff.2 ⟨rfl, rfl⟩, rfl⟩

end Module

namespace Disk

theorem loadRelaxed_eq_ok_iff {α : Type} {path : Path} {read : Json.Value → Option α} {a : α} :
    d.loadRelaxed path read = .ok a ↔
      ∃ text, d.readText path = .ok text ∧ (Json.Value.ofText? text).bind read = some a := by
  unfold loadRelaxed
  cases d.readText path with
  | error fault => simp
  | ok text =>
      cases hread : (Json.Value.ofText? text).bind read with
      | none => simp [hread]
      | some b => simp [hread]

/-- A manifest is loaded from what its file says, if it has no problems. -/
theorem loadModule_eq_ok_iff :
    d.loadModule dir = .ok manifest ↔
      ∃ text, d.readText (dir.join ModuleManifest.fileName) = .ok text ∧
        (Json.Value.ofText? text).bind (ModuleManifest.ofValue? .relaxed) = some manifest ∧
        manifest.problems.isEmpty = true := by
  have hchecked : ∀ found : ModuleManifest,
      (if found.problems.isEmpty = true then Except.ok found
        else .error (.invalid (dir.join ModuleManifest.fileName) found.problems)) =
          Except.ok (ε := LoadError) manifest ↔
        found = manifest ∧ found.problems.isEmpty = true := by
    intro found
    split <;> simp_all
  unfold loadModule
  rw [bind_eq_ok_iff]
  simp only [loadRelaxed_eq_ok_iff, hchecked]
  constructor
  · rintro ⟨found, ⟨text, htext, hfound⟩, rfl, hproblems⟩
    exact ⟨text, htext, hfound, hproblems⟩
  · rintro ⟨text, htext, hfound, hproblems⟩
    exact ⟨manifest, ⟨text, htext, hfound⟩, rfl, hproblems⟩

theorem module?_eq_some_iff :
    d.module? dir = some m ↔
      d.isDirectory dir = true ∧ d.loadModule dir = .ok m.manifest ∧ m.path = dir.normalize := by
  unfold module?
  by_cases hdir : d.isDirectory dir = true
  · rw [if_pos hdir]
    cases d.loadModule dir with
    | error error => simp
    | ok manifest =>
        rw [Module.ofManifest?_eq_some_iff]
        simp [hdir, eq_comm, and_comm]
  · simp [hdir]

end Disk

end Polybuild
