import Polybuild.Proofs.Catalog.Offered
import Polybuild.Proofs.Catalog.Respelled
import Polybuild.Proofs.Project.Bundled
import Polybuild.Watch.Session

/-!
# The root of a project

A project is read from some path of its root directory. `readProject_from_any_path` compares it
with the project that is read from an absolute path of that directory: the manifest is the same,
and so are the modules and their order, unless a declaration vanishes on the way. The root that the
project keeps is the normal form of the path. It leads to the directory again, and the project can
be watched, unless the normal form is empty. That is so for `.` and for `a/..`.
-/

namespace Polybuild

namespace Session

variable {α : Type} {c : Compiler α} {o : WatchOptions} {d : Disk}

/-- A session starts just when there is a directory to watch. -/
theorem start_of_isDirectory (h : d.isDirectory o.root = true) : ∃ s, start c o d = .ok s := by
  simp only [start, h, ↓reduceIte]
  exact ⟨_, rfl⟩

theorem start_of_directory?_eq_none (h : d.directory? o.root = none) :
    start c o d = .error (.rootNotFound o.root) := by
  have hno : d.isDirectory o.root = false := by
    rw [← Bool.not_eq_true, Disk.isDirectory_iff]
    rintro ⟨l, hlocate, hl⟩
    simp [Disk.directory?_eq_some_iff.2 ⟨hlocate, hl⟩] at h
  simp [start, hno]

end Session

namespace Disk

variable {d : Disk} {root q : Path} {p : Project} {manifest : ProjectManifest}

/-- The manifest of a project stands in a directory. -/
theorem root_of_loadProject (hwork : d.Moored)
    (h : d.loadProject (root.join ProjectManifest.fileName) = .ok manifest) :
    d.isDirectoryAt (d.target root) = true ∧
      (root.text = "" ∨ d.directory? root = some (d.target root)) := by
  by_cases hempty : root.text = ""
  · exact ⟨target_of_empty hempty ▸ hwork.isDirectoryAt, .inl hempty⟩
  · obtain ⟨text, htext, -⟩ := loadRelaxed_eq_ok_iff.1 h
    obtain ⟨l, hl⟩ : ∃ l, d.locate (root.join ProjectManifest.fileName) = .ok l := by
      cases hlocate : d.locate (root.join ProjectManifest.fileName) with
      | ok l => exact ⟨l, rfl⟩
      | error fault => simp [readText, read, hlocate, Except.bind] at htext
    have hdirectory := directory?_of_locate_join hempty (by decide) hl
    exact ⟨(directory?_eq_some_iff.1 hdirectory).2, .inr hdirectory⟩

/-- The manifest is found from every path of the directory. -/
theorem loadProject_congr (hroot : root.text = "" ∨ d.directory? root = some (d.target root))
    (hq : d.directory? q = some (d.target root))
    (h : d.loadProject (root.join ProjectManifest.fileName) = .ok manifest) :
    d.loadProject (q.join ProjectManifest.fileName) = .ok manifest := by
  have hsame : d.locate (q.join ProjectManifest.fileName) =
      d.locate (root.join ProjectManifest.fileName) := by
    rw [locate_join hq (by decide), locate_join_eq_follow hroot (by decide) (by decide)]
  unfold loadProject at h ⊢
  rw [loadRelaxed_eq_ok_iff] at h ⊢
  rwa [readText_congr hsame]

/-- The normal form of the root leads to the directory again, if it is not empty. -/
theorem directory?_root (hwork : d.Moored)
    (hroot : root.text = "" ∨ d.directory? root = some (d.target root))
    (hne : root.normalize.text ≠ "") : d.directory? root.normalize = some (d.target root) := by
  rcases hroot with hempty | hroot
  · obtain ⟨text⟩ := root
    obtain rfl : text = "" := hempty
    exact absurd (by decide) hne
  · exact directory?_normalize hwork hroot hne

/-- A project read from any path of a directory is compared with the one read from an absolute path
of it. The manifests are the same; the modules are, if no declaration vanishes on the way; and the
root leads to the directory again, so that it can be watched, if it is not empty. -/
theorem readProject_from_any_path (hwork : d.Moored) (h : d.readProject root = .ok p) :
    d.directory? (d.target root).path = some (d.target root) ∧
      (root.text = "" ∨ d.directory? root = some (d.target root)) ∧
      p.root = root.normalize ∧
      (∀ (α : Type) (c : Compiler α),
        (p.root.text ≠ "" → d.directory? p.root = some (d.target root) ∧
          ∃ s, Session.start c (.ofProject p) d = .ok s) ∧
        (p.root.text = "" → root.isAbsolute = false ∧ d.target root = d.workDir ∧
          d.directory? p.root = none ∧
          Session.start c (.ofProject p) d = .error (.rootNotFound p.root))) ∧
      (∀ dir declaration, declaration.Vanishes dir → dir.isAbsolute = false ∧
        d.target (dir.join declaration.src) = d.workDir ∧
        d.places (d.declared dir declaration) = []) ∧
      ∀ q, q.isAbsolute = true → d.directory? q = some (d.target root) →
        ∃ again, d.readProject q = .ok again ∧ again.manifest = p.manifest ∧
          (root.isAbsolute = true ∨ (∀ dir declaration,
              d.Meets root p.manifest.modules dir declaration → ¬declaration.Vanishes dir) →
            again.catalog.names = p.catalog.names ∧
              again.catalog.modules.map (·.manifest) = p.catalog.modules.map (·.manifest)) := by
  obtain ⟨manifest, hload, rfl⟩ := readProject_eq_ok_iff.1 h
  obtain ⟨hdir, hroot⟩ := root_of_loadProject hwork hload
  have hfollow : Followable (d.target root) := by
    rcases hroot with hempty | hroot
    · exact target_of_empty hempty ▸ hwork.followable hwork
    · exact hwork.followable hroot
  refine ⟨directory?_path_of_followable hfollow hdir, hroot, rfl, fun α c => ⟨fun hne => ?_,
    fun hempty => ?_⟩, fun dir declaration hvanishes => ?_, fun q habs hq => ?_⟩
  · have hkept := directory?_root hwork hroot hne
    exact ⟨hkept, Session.start_of_isDirectory (isDirectory_of_directory? hkept)⟩
  · have hnone : d.directory? root.normalize = none := directory?_of_empty hempty
    refine ⟨?_, target_of_normalize_empty hempty, hnone,
      Session.start_of_directory?_eq_none hnone⟩
    rw [← Bool.not_eq_true]
    exact fun habs => Path.ne_empty_of_isAbsolute (Path.isAbsolute_normalize habs) hempty
  · rw [← Bool.not_eq_true]
    exact ⟨fun habs => Declaration.not_vanishes_of_isAbsolute habs hvanishes,
      places_declared_of_vanishes hvanishes⟩
  · refine ⟨_, readProject_eq_ok_iff.2 ⟨manifest, loadProject_congr hroot hq hload, rfl⟩, rfl,
      fun hkept => ?_⟩
    have htarget : d.target root = d.target q :=
      eq_target_of_locate (directory?_eq_some_iff.1 hq).1
    have hmanifests := map_manifest_discover hwork habs htarget fun dir declaration hmet =>
      hkept.elim hmet.not_vanishes fun hkept => hkept dir declaration hmet
    exact ⟨(Module.map_name_congr hmanifests).symm, hmanifests.symm⟩

/-- From an absolute path of the directory, modules of the same names are found in the same
order. -/
def KeepsNames (d : Disk) (root : Path) : Prop :=
  ∀ p, d.readProject root = .ok p → ∀ q again, q.isAbsolute = true →
    d.directory? q = some (d.target root) → d.readProject q = .ok again →
    again.catalog.names = p.catalog.names

/-- The root of the project leads to the directory that it was read from, so it can be watched. -/
def KeepsRoot (d : Disk) (root : Path) : Prop :=
  ∀ p, d.readProject root = .ok p → d.directory? p.root = some (d.target root) ∧
    ∀ (α : Type) (c : Compiler α) (error : WatchError),
      Session.start c (.ofProject p) d ≠ .error error

end Disk

/-! ## A project in its working directory

The module of the project stands in its root. From the working directory above it, the project can
be read by its name, but in the working directory itself nothing is left of `.`. -/

namespace Adrift

/-- A disk with the project and its module in one directory. -/
def disk (workDir : Location) : Disk where
  entries := [(["w"], .directory),
    (["project.json", "w"], .file "\x7b\"modules\":[\x7b\"src\":\".\"\x7d]\x7d".toUTF8),
    (["module.json", "w"], .file "\x7b\"name\":\"M\"\x7d".toUTF8)]
  workDir := workDir
  distinct := by decide
  housed := by
    intro l e h
    simp only [List.mem_cons, Prod.mk.injEq, List.not_mem_nil, or_false] at h
    rcases h with h | h | h <;> simp [h]

/-- The project is read from a path where its manifest is found, and has the module that is found
where its declaration points to. -/
theorem exists_readProject (workDir : Location) (root dir : Path)
    (hload : ((disk workDir).loadProject (root.join ProjectManifest.fileName)).toOption.map
      (·.modules) = some [.module "."])
    (hdeclared : (disk workDir).declaredBy root [.module "."] = [dir]) :
    ∃ p, (disk workDir).readProject root = .ok p ∧ p.root = root.normalize ∧
      p.manifest.modules = [.module "."] ∧
      p.catalog.names = ((((disk workDir).tour [dir] []).filterMap
        (disk workDir).module?).map (·.name)).eraseDups := by
  obtain ⟨manifest, hmanifest, hmodules⟩ := Option.map_eq_some_iff.1 hload
  refine ⟨_, Disk.readProject_eq_ok_iff.2 ⟨manifest, toOption_eq_some_iff.1 hmanifest, rfl⟩, rfl,
    hmodules, ?_⟩
  show ((disk workDir).discover root manifest.modules).names = _
  rw [hmodules, Disk.discover_eq_ofModules, hdeclared, Catalog.names_ofModules]

/-- The tour of one directory whose module declares nothing. -/
theorem tour_singleton {workDir : Location} {dir : Path}
    (hdir : (disk workDir).directory? dir = some ["w"]) (hnone : (disk workDir).targets dir = []) :
    (disk workDir).tour [dir] [] = [dir] := by
  rw [Disk.tour_cons_of_new hdir rfl, hnone, List.nil_append, Disk.tour_nil]

/-- In the working directory no module is found, and nothing is left of the root. -/
theorem read_dot :
    ∃ p, (disk ["w"]).readProject ⟨"."⟩ = .ok p ∧ p.root = ⟨""⟩ ∧ p.catalog.names = [] := by
  obtain ⟨p, hread, hroot, -, hnames⟩ := exists_readProject ["w"] ⟨"."⟩ ⟨""⟩ (by decide +kernel)
    (by decide)
  have hnowhere : (disk ["w"]).directory? ⟨""⟩ = none := by decide
  rw [Disk.tour_cons_of_none hnowhere, Disk.tour_nil] at hnames
  exact ⟨p, hread, hroot, hnames⟩

/-- From its absolute path, the module is found. -/
theorem read_absolute :
    ∃ p, (disk ["w"]).readProject ⟨"/w"⟩ = .ok p ∧ p.catalog.names = ["M"] := by
  obtain ⟨p, hread, -, -, hnames⟩ := exists_readProject ["w"] ⟨"/w"⟩ ⟨"/w"⟩ (by decide +kernel)
    (by decide)
  rw [tour_singleton (by decide) (by decide +kernel)] at hnames
  refine ⟨p, hread, hnames.trans ?_⟩
  decide +kernel

/-- In the working directory, modules are lost and the root leads nowhere. -/
theorem not_keeps_dot :
    (disk ["w"]).Moored ∧ ¬(disk ["w"]).KeepsNames ⟨"."⟩ ∧ ¬(disk ["w"]).KeepsRoot ⟨"."⟩ := by
  obtain ⟨p, hread, hroot, hnames⟩ := read_dot
  obtain ⟨again, hagain, hfound⟩ := read_absolute
  refine ⟨by decide, fun h => ?_, fun h => ?_⟩
  · have hsame := h p hread ⟨"/w"⟩ again (by decide) (by decide) hagain
    simp [hnames, hfound] at hsame
  · have hkept := (h p hread).1
    rw [hroot] at hkept
    revert hkept
    decide

/-- From the directory above, only the declaration of the project comes up. -/
theorem eq_of_meets {dir : Path} {declaration : Declaration}
    (h : (disk []).Meets ⟨"w"⟩ [.module "."] dir declaration) :
    dir = ⟨"w"⟩ ∧ declaration = .module "." := by
  have hnone : ((disk []).module? ⟨"w"⟩).map (·.manifest.modules) = some [] := by decide +kernel
  induction h with
  | first hmem => exact ⟨rfl, List.mem_singleton.1 hmem⟩
  | nested hmet hp hm hnext ih =>
      obtain ⟨rfl, rfl⟩ := ih
      have hdeclared : (disk []).declared ⟨"w"⟩ (.module ".") = [⟨"w"⟩] := by decide
      rw [hdeclared, List.mem_singleton] at hp
      subst hp
      rw [hm] at hnone
      simp [Option.some.inj hnone] at hnext

/-- From the directory above, no declaration vanishes, so the module is found and the project can
be watched. -/
theorem read_name :
    ∃ p again, (disk []).readProject ⟨"w"⟩ = .ok p ∧ (disk []).readProject ⟨"/w"⟩ = .ok again ∧
      again.catalog.names = p.catalog.names ∧
      ∀ (α : Type) (c : Compiler α), ∃ s, Session.start c (.ofProject p) (disk []) = .ok s := by
  obtain ⟨p, hread, hroot, hmodules, -⟩ := exists_readProject [] ⟨"w"⟩ ⟨"w"⟩ (by decide +kernel)
    (by decide)
  have hkept : ∀ dir declaration, (disk []).Meets ⟨"w"⟩ p.manifest.modules dir declaration →
      ¬declaration.Vanishes dir := by
    intro dir declaration hmet hvanishes
    obtain ⟨rfl, rfl⟩ := eq_of_meets (hmodules ▸ hmet)
    exact absurd hvanishes.2 (by decide)
  obtain ⟨-, -, -, hwatched, -, hagain⟩ :=
    Disk.readProject_from_any_path (by decide : (disk []).Moored) hread
  obtain ⟨again, hread', -, hnames⟩ := hagain ⟨"/w"⟩ (by decide) (by decide)
  exact ⟨p, again, hread, hread', (hnames (.inr hkept)).1, fun α c =>
    ((hwatched α c).1 (by rw [hroot]; decide)).2⟩

end Adrift

end Polybuild
