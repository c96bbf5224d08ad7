import Polybuild.Proofs.Catalog.Offered
import Polybuild.Proofs.Project.Bundled
import Polybuild.Proofs.Snapshot.Restored

/-!
# Which names the modules of a loaded project have

A project is loaded by reading it from a disk or by restoring a snapshot. The name of a module that
is read is checked: it is there, it is not blank, and it does not start like a reference to a
group. A record of a snapshot is only asked for a name that is not blank, so a module that is
restored can have one problem, a name that starts like a reference to a group
(`Module.problems_eq`).

`names_of_loaded` says that both is exact. A module of such a name is restored whenever the
snapshot has a record of it, and `Reference.ofText` takes its name for that of a group.
-/

namespace Polybuild

/-- A project that was read from a disk, or restored from a snapshot that a disk has. -/
inductive Project.Loaded : Project → Prop
  | read {d : Disk} {root : Path} {p : Project} (h : d.readProject root = .ok p) : Loaded p
  | restored {d : Disk} {path : Path} {s : Snapshot} (h : d.loadSnapshot path = .ok (some s)) :
      Loaded s.restore

/-- No module of the project has a problem. -/
def Project.Sound (p : Project) : Prop :=
  ∀ m ∈ p.catalog.modules, m.manifest.problems = []

/-- The only problem that a module can have is a name that starts like a group. -/
theorem Project.sound_iff {p : Project} :
    p.Sound ↔ ∀ name ∈ p.catalog.names, startsLikeGroup name = false := by
  have hproblems : ∀ m : Module, m.manifest.problems = [] ↔ startsLikeGroup m.name = false := by
    intro m
    rw [m.problems_eq]
    cases startsLikeGroup m.name <;> simp
  simp only [Sound, hproblems, Catalog.names, List.forall_mem_map]

namespace Snapshot

/-- The names of a restored project are those that are not blank in the records of modules that
were there. -/
theorem mem_names_restore_iff {s : Snapshot} {name : String} :
    name ∈ s.restore.catalog.names ↔
      ∃ r ∈ s.modules, r.existed = true ∧ r.manifest.name = some name ∧
        Text.blank name = false := by
  have hrestored : name ∈ s.restore.catalog.names ↔
      ∃ m ∈ s.modules.filterMap ModuleRecord.module?, m.name = name := by
    rw [← Catalog.contains_iff_mem_names]
    have hcontains := Catalog.contains_foldl_insert (s.modules.filterMap ModuleRecord.module?)
      Catalog.empty name
    simpa [restore, Project.ofParts, Catalog.ofModules, Catalog.contains_iff_mem_names]
      using hcontains
  rw [hrestored]
  constructor
  · rintro ⟨m, hm, rfl⟩
    obtain ⟨r, hr, hmodule⟩ := List.mem_filterMap.1 hm
    unfold ModuleRecord.module? at hmodule
    split at hmodule
    · rename_i hexisted
      obtain ⟨-, hmanifest⟩ := Module.ofManifest?_eq_some_iff.1 hmodule
      exact ⟨r, hr, hexisted, hmanifest ▸ m.named, m.nonblank⟩
    · simp at hmodule
  · rintro ⟨r, hr, hexisted, hname, hnonblank⟩
    obtain ⟨m, hm, hmname⟩ := Module.exists_ofManifest? r.path hname hnonblank
    refine ⟨m, List.mem_filterMap.2 ⟨r, hr, ?_⟩, hmname⟩
    rw [ModuleRecord.module?, if_pos hexisted, hm]

end Snapshot

/-- In a project that was read from a disk no module has a problem, and every name refers to its
module. In a restored one the modules are those that the snapshot has a name for, and the only
problem is a name that starts like a reference to a group. So a restored project has no problem just
when no such name was recorded. -/
theorem names_of_loaded (d : Disk) (root : Path) (s : Snapshot) :
    (∀ p, d.readProject root = .ok p →
      p.Sound ∧ ∀ m ∈ p.catalog.modules, Reference.ofText m.name = .module m.name) ∧
    (s.restore.Sound ↔ ∀ r ∈ s.modules, r.existed = true → ∀ name, r.manifest.name = some name →
      Text.blank name = false → startsLikeGroup name = false) ∧
    (∀ name, name ∈ s.restore.catalog.names ↔
      ∃ r ∈ s.modules, r.existed = true ∧ r.manifest.name = some name ∧
        Text.blank name = false) ∧
    ∀ m ∈ s.restore.catalog.modules,
      (m.manifest.problems = if startsLikeGroup m.name then [.nameOfGroup] else []) ∧
      (Reference.ofText m.name = .module m.name ↔ startsLikeGroup m.name = false) := by
  refine ⟨fun p h => ?_, ?_, fun name => Snapshot.mem_names_restore_iff,
    fun m _ => ⟨m.problems_eq, Reference.ofText_eq_module_iff⟩⟩
  · have hnames := Disk.not_startsLikeGroup_of_readProject h
    exact ⟨Project.sound_iff.2 fun name hname => by
        obtain ⟨m, hm, rfl⟩ := List.mem_map.1 hname
        exact hnames m hm,
      fun m hm => Reference.ofText_of_not_startsLikeGroup (hnames m hm)⟩
  · rw [Project.sound_iff]
    constructor
    · intro h r hr hexisted name hname hnonblank
      exact h name (Snapshot.mem_names_restore_iff.2 ⟨r, hr, hexisted, hname, hnonblank⟩)
    · intro h name hmem
      obtain ⟨r, hr, hexisted, hname, hnonblank⟩ := Snapshot.mem_names_restore_iff.1 hmem
      exact h r hr hexisted name hname hnonblank

namespace Tagged

/-- A snapshot with a module that is named like the group of another one. -/
def snapshot : Snapshot where
  version := Snapshot.currentVersion
  root := ⟨"/p"⟩
  manifest := { ProjectManifest.empty with
    name := "P", languages := ["es6"], assets := [⟨"a.js", ["@ui"], none⟩] }
  modules :=
    [⟨true, ⟨"/p/a"⟩, { ModuleManifest.empty with name := some "@ui" }⟩,
      ⟨true, ⟨"/p/b"⟩, { ModuleManifest.empty with name := some "B", groups := ["ui"] }⟩]

/-- It is loaded, and both modules are restored. -/
theorem not_sound_of_loaded : ¬∀ p : Project, p.Loaded → p.Sound := by
  intro h
  have hsaved : (Disk.empty.saveSnapshot ⟨"/s.json"⟩ snapshot).1 = none := by
    decide
  have hsound : snapshot.restore.Sound :=
    h _ (.restored (Disk.loadSnapshot_of_saveSnapshot rfl (Prod.ext hsaved rfl)))
  have hname : startsLikeGroup "@ui" = false := Project.sound_iff.1 hsound "@ui" (by decide)
  revert hname
  decide

/-- A project with a module, and beside it a directory whose manifest names a group. -/
def disk : Disk where
  entries := [(["a"], .directory), (["b"], .directory),
    (["project.json"], .file
      "\x7b\"modules\":[\x7b\"src\":\"a\"\x7d,\x7b\"src\":\"b\"\x7d]\x7d".toUTF8),
    (["module.json", "a"], .file "\x7b\"name\":\"@ui\"\x7d".toUTF8),
    (["module.json", "b"], .file "\x7b\"name\":\"B\",\"groups\":[\"ui\"]\x7d".toUTF8)]
  workDir := []
  distinct := by decide
  housed := by
    intro l e h
    simp only [List.mem_cons, Prod.mk.injEq, List.not_mem_nil, or_false] at h
    rcases h with h | h | h | h | h <;> simp [h]

theorem tour_disk : disk.tour [⟨"/a"⟩, ⟨"/b"⟩] [] = [⟨"/a"⟩, ⟨"/b"⟩] := by
  have hfirst : disk.directory? ⟨"/a"⟩ = some ["a"] := by decide
  have hsecond : disk.directory? ⟨"/b"⟩ = some ["b"] := by decide
  have hnone : disk.targets ⟨"/a"⟩ = [] ∧ disk.targets ⟨"/b"⟩ = [] := by decide +kernel
  rw [Disk.tour_cons_of_new hfirst (by decide), hnone.1, List.nil_append,
    Disk.tour_cons_of_new hsecond (by decide), hnone.2, List.nil_append, Disk.tour_nil]

/-- When the project is read, only the module that is not named like a group is there. -/
theorem sound_of_read :
    ∃ p, disk.readProject ⟨"/"⟩ = .ok p ∧ p.catalog.names = ["B"] ∧ p.Sound := by
  have hload : (disk.loadProject ((⟨"/"⟩ : Path).join ProjectManifest.fileName)).toOption.map
      (·.modules) = some [.module "a", .module "b"] := by
    decide +kernel
  obtain ⟨manifest, hmanifest, hmodules⟩ := Option.map_eq_some_iff.1 hload
  have hread := Disk.readProject_eq_ok_iff.2 ⟨manifest, toOption_eq_some_iff.1 hmanifest, rfl⟩
  refine ⟨_, hread, ?_, ((names_of_loaded disk ⟨"/"⟩ snapshot).1 _ hread).1⟩
  have hdeclared : disk.declaredBy ⟨"/"⟩ [.module "a", .module "b"] = [⟨"/a"⟩, ⟨"/b"⟩] := by
    decide
  have hnames : ([⟨"/a"⟩, ⟨"/b"⟩].filterMap disk.module?).map (·.name) = ["B"] := by
    decide +kernel
  show (disk.discover ⟨"/"⟩ manifest.modules).names = ["B"]
  rw [hmodules, Disk.discover_eq_ofModules, hdeclared, tour_disk, Catalog.names_ofModules, hnames]
  rfl

end Tagged

end Polybuild
