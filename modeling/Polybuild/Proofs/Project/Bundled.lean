import Polybuild.Project.Read
import Polybuild.Proofs.Build.Bundles
import Polybuild.Proofs.Catalog.Tour
import Polybuild.Proofs.Module.Found
import Polybuild.Proofs.Project.References
import Polybuild.Proofs.Requirements.Sorted

/-!
# The modules of a bundle

A bundle tells its modules in two ways. `Module.isListed` asks one module whether a list of names
and groups has it, and `Project.expand` turns the list into names, which are then ordered.
`name_mem_expand_iff` says that both find the same modules, as long as no module has a name that is
written like a group.
-/

namespace Polybuild

variable {p : Project} {b : Bundle} {m : Module} {c : Catalog} {name entry : String}
  {names entries : List String} {d d' : Disk} {bs : List Bundle} {paths : List Path}

/-- No module that is found on a disk has a name that is written like a group. -/
theorem Disk.not_startsLikeGroup_of_module? {dir : Path} (h : d.module? dir = some m) :
    startsLikeGroup m.name = false := by
  obtain ⟨-, hload, -⟩ := module?_eq_some_iff.1 h
  obtain ⟨-, -, -, hproblems⟩ := loadModule_eq_ok_iff.1 hload
  rw [m.problems_eq] at hproblems
  by_contra hgroup
  simp [hgroup] at hproblems

theorem Disk.readProject_eq_ok_iff {root : Path} :
    d.readProject root = .ok p ↔
      ∃ manifest, d.loadProject (root.join ProjectManifest.fileName) = .ok manifest ∧
        Project.ofParts root manifest (d.discover root manifest.modules) = p := by
  unfold readProject
  cases d.loadProject (root.join ProjectManifest.fileName) <;> simp

theorem Disk.not_startsLikeGroup_of_readProject {root : Path} (h : d.readProject root = .ok p) :
    ∀ m ∈ p.catalog.modules, startsLikeGroup m.name = false := by
  intro m hm
  obtain ⟨manifest, -, rfl⟩ := readProject_eq_ok_iff.1 h
  obtain ⟨dir, hdir⟩ := exists_module?_of_mem_discover hm
  exact not_startsLikeGroup_of_module? hdir

namespace Catalog

/-- The modules of some names. -/
theorem mem_filterMap_get?_iff :
    m ∈ names.filterMap c.get? ↔ m ∈ c.modules ∧ m.name ∈ names := by
  rw [List.mem_filterMap]
  constructor
  · rintro ⟨name, hmem, hget⟩
    obtain ⟨hm, rfl⟩ := get?_eq_some_iff.1 hget
    exact ⟨hm, hmem⟩
  · rintro ⟨hm, hmem⟩
    exact ⟨m.name, hmem, get?_name hm⟩

/-- Names of modules are the names of the modules that they name. -/
theorem map_name_filterMap_get? (h : ∀ name ∈ names, ∃ m ∈ c.modules, m.name = name) :
    (names.filterMap c.get?).map (·.name) = names := by
  induction names with
  | nil => rfl
  | cons first rest ih =>
      rw [List.forall_mem_cons] at h
      obtain ⟨⟨m, hm, rfl⟩, hrest⟩ := h
      rw [List.filterMap_cons_some (get?_name hm), List.map_cons, ih hrest]

end Catalog

namespace Project

/-! ## What a list of modules stands for -/

theorem mem_expand_iff : name ∈ p.expand entries ↔ ∃ entry ∈ entries, name ∈ p.referents entry := by
  rw [expand, Requirements.mem_foldl_pushNew, List.mem_flatMap]
  simp

/-- An entry stands for a module when it is its name or refers to one of its groups. -/
theorem name_mem_referents_iff (hm : m ∈ p.catalog.modules)
    (hplain : startsLikeGroup m.name = false) :
    m.name ∈ p.referents entry ↔ entry = m.name ∨ m.hasGroup entry = true := by
  unfold referents
  split
  · rename_i tag hgroup
    have hother : entry ≠ m.name := by
      rintro rfl
      simp [Reference.ofText_of_not_startsLikeGroup hplain] at hgroup
    rw [List.mem_map]
    constructor
    · rintro ⟨n, hn, hname⟩
      obtain ⟨hn, hkeep⟩ := List.mem_filter.1 hn
      obtain rfl := List.inj_on_of_nodup_map p.catalog.distinct hn hm hname
      exact Or.inr hkeep
    · rintro (heq | hkeep)
      · exact absurd heq hother
      · exact ⟨m, List.mem_filter.2 ⟨hm, hkeep⟩, rfl⟩
  · rename_i name hmodule
    have hnogroup : m.hasGroup entry = false := by
      simp [Module.hasGroup, Reference.groupOf?, hmodule]
    obtain rfl := Reference.eq_of_ofText_eq_module hmodule
    simp [hnogroup, eq_comm]

/-- A list is expanded to the names of the modules that it lists, and to names of no module. -/
theorem name_mem_expand_iff (hm : m ∈ p.catalog.modules)
    (hplain : startsLikeGroup m.name = false) :
    m.name ∈ p.expand entries ↔ m.isListed entries = true := by
  rw [mem_expand_iff, Module.isListed, List.any_eq_true]
  simp only [name_mem_referents_iff hm hplain, Bool.or_eq_true, beq_iff_eq]

/-! ## The modules of a bundle in order -/

theorem knows_requirements_iff :
    p.requirements.knows name = true ↔ ∃ m ∈ p.catalog.modules, m.name = name := by
  rw [Requirements.knows, get?_requirements, Option.isSome_map, Option.isSome_iff_exists]
  simp only [Catalog.get?_eq_some_iff]

/-- The modules of a bundle are those that its list stands for, each once. -/
theorem mem_bundleModules_iff (h : p.bundleModules b = .ok names) :
    names.Nodup ∧ ∀ name, name ∈ names ↔
      name ∈ p.expand b.modules ∧ ∃ m ∈ p.catalog.modules, m.name = name := by
  refine ⟨Requirements.nodup_of_order h, fun name => ?_⟩
  rw [← knows_requirements_iff]
  exact Requirements.mem_order_iff h

theorem mem_bundlesOf_iff :
    b ∈ p.bundlesOf m ↔ b ∈ p.manifest.assets ∧ m.isListed b.modules = true :=
  List.mem_filter

end Project

namespace Disk

/-- A bundle that was built is written where it is to be written. -/
theorem path_of_buildBundle {path? : Option Path} (h : d.buildBundle p b = (.ok path?, d')) :
    path? = p.bundlePath? b := by
  unfold buildBundle at h
  split at h
  · rename_i hnowhere
    rw [hnowhere]
    exact (Except.ok.inj (Prod.mk.inj h).1).symm
  · rename_i path hpath
    split at h
    · simp at h
    · split at h
      · simp at h
      · rw [hpath]
        exact (Except.ok.inj (Prod.mk.inj h).1).symm

theorem paths_of_buildBundles (h : d.buildBundles p bs = (.ok paths, d')) :
    paths = bs.filterMap p.bundlePath? := by
  induction bs generalizing d paths with
  | nil => exact (Except.ok.inj (Prod.mk.inj h).1).symm
  | cons b rest ih =>
      obtain ⟨path?, below, built, hbuilt, hrest, rfl⟩ := buildBundles_cons_eq_ok_iff.1 h
      obtain rfl := path_of_buildBundle hbuilt
      rw [ih hrest]
      cases hpath : p.bundlePath? b <;> simp [hpath]

end Disk

/-- A bundle is built from the modules that list it, each once and no others. So a change of one
module builds the bundles that have it among their modules. -/
theorem Project.bundle_of_its_modules (p : Project)
    (hplain : ∀ m ∈ p.catalog.modules, startsLikeGroup m.name = false) :
    (∀ b ∈ p.manifest.assets, ∀ names, p.bundleModules b = .ok names →
      names.Nodup ∧ (∀ m ∈ p.catalog.modules, b ∈ p.bundlesOf m ↔ m.name ∈ names) ∧
      ∃ ms : List Module, names = ms.map (·.name) ∧
        (∀ m, m ∈ ms ↔ m ∈ p.catalog.modules ∧ b ∈ p.bundlesOf m) ∧
        ∀ d : Disk, d.bundleText p names b.language =
          Text.join "" (ms.map fun m => d.moduleAssets m b.language)) ∧
    ∀ m ∈ p.catalog.modules, ∀ (d d' : Disk) (paths : List Path),
      d.refreshBundles p m = (.ok paths, d') →
      ∀ path, path ∈ paths ↔ ∃ b ∈ p.manifest.assets, p.bundlePath? b = some path ∧
        ∃ names, p.bundleModules b = .ok names ∧ m.name ∈ names := by
  have hlisted : ∀ {b names}, b ∈ p.manifest.assets → p.bundleModules b = .ok names →
      ∀ m ∈ p.catalog.modules, (b ∈ p.bundlesOf m ↔ m.name ∈ names) := by
    intro b names hb hnames m hm
    rw [mem_bundlesOf_iff, (mem_bundleModules_iff hnames).2,
      name_mem_expand_iff hm (hplain m hm)]
    exact ⟨fun h => ⟨h.2, m, hm, rfl⟩, fun h => ⟨hb, h.1⟩⟩
  refine ⟨fun b hb names hnames => ?_, fun m hm d d' paths hbuilt path => ?_⟩
  · obtain ⟨hnodup, hmem⟩ := mem_bundleModules_iff hnames
    refine ⟨hnodup, hlisted hb hnames, names.filterMap p.catalog.get?, ?_, fun m => ?_,
      fun d => rfl⟩
    · exact (Catalog.map_name_filterMap_get? fun name hname => ((hmem name).1 hname).2).symm
    · rw [Catalog.mem_filterMap_get?_iff, and_congr_right_iff]
      exact fun hm => (hlisted hb hnames m hm).symm
  · have hready := (Disk.ready_of_buildBundles hbuilt).2
    rw [Disk.paths_of_buildBundles hbuilt, List.mem_filterMap]
    constructor
    · rintro ⟨b, hb, hpath⟩
      obtain ⟨-, names, hnames⟩ := hready b hb path hpath
      have hassets := (mem_bundlesOf_iff.1 hb).1
      exact ⟨b, hassets, hpath, names, hnames, (hlisted hassets hnames m hm).1 hb⟩
    · rintro ⟨b, hassets, hpath, names, hnames, hmem⟩
      exact ⟨b, (hlisted hassets hnames m hm).2 hmem, hpath⟩

/-! ## A bundle of a name, a group and a name of nothing -/

namespace Grouped

/-- A module of a group. -/
def button : Module :=
  (Module.ofManifest? ⟨"/button"⟩ { ModuleManifest.empty with
    name := some "Button", groups := ["ui"] }).get (by decide)

/-- A module that requires the other one. -/
def page : Module :=
  (Module.ofManifest? ⟨"/page"⟩ { ModuleManifest.empty with
    name := some "Page", require := ["@ui"] }).get (by decide)

/-- A module that is not in the bundle. -/
def test : Module :=
  (Module.ofManifest? ⟨"/test"⟩ { ModuleManifest.empty with
    name := some "Test" }).get (by decide)

/-- A bundle of a module, of a group and of a module that is not known. -/
def bundle : Bundle := ⟨"page.js", ["Page", "@ui", "Ghost"], none⟩

/-- A project of the three modules. -/
def project : Project :=
  Project.ofParts ⟨"/"⟩ { ProjectManifest.empty with assets := [bundle] }
    (Catalog.ofModules [test, page, button])

theorem bundleModules_bundle : project.bundleModules bundle = .ok ["Button", "Page"] := by
  have hlisted : project.expand bundle.modules = ["Page", "Button", "Ghost"] := by decide
  have hgraph : project.requirements =
      ((Requirements.empty.insert "Test" []).insert "Page" ["Button"]).insert "Button" [] := rfl
  rw [Project.bundleModules, Project.order, hlisted, hgraph]
  cbv

/-- The bundle is that of the module of the group, though it is listed without its name, and not
that of the third module. -/
theorem bundle_of_button :
    (∀ m ∈ project.catalog.modules, startsLikeGroup m.name = false) ∧
      bundle ∈ project.bundlesOf button ∧ bundle ∉ project.bundlesOf test := by
  have hplain : ∀ m ∈ project.catalog.modules, startsLikeGroup m.name = false := by
    decide
  have hmodules : project.catalog.modules = [test, page, button] := rfl
  have hbundle : bundle ∈ project.manifest.assets := List.mem_singleton.2 rfl
  obtain ⟨-, hlisted, -⟩ :=
    (project.bundle_of_its_modules hplain).1 bundle hbundle _ bundleModules_bundle
  refine ⟨hplain, (hlisted button (by simp [hmodules])).2 (by decide), fun htest => ?_⟩
  exact absurd ((hlisted test (by simp [hmodules])).1 htest) (by decide)

end Grouped

end Polybuild
