import Polybuild.Proofs.Disk.Chain
import Polybuild.Proofs.Project.Bundled
import Polybuild.Proofs.Text.Ends

/-!
# What a bundle collects

`Gives` says which text an asset of a module gives to a bundle, from what can be read on a disk:
its translation, and only where that cannot be read, a native source of the same language.
`buildBundle_collects` says what building one bundle comes to: the texts of the assets of its
modules, in order, in the file of the bundle, and no other file changed.
-/

namespace Polybuild

open Relation (TransGen)

variable {d d' : Disk} {p : Project} {b : Bundle} {m n : Module} {names : List String}
  {file path : Path} {asset lang text : String}

namespace Project

theorem bundlePath?_eq_none_iff : p.bundlePath? b = none ↔ Text.blank b.dest = true := by
  rw [← Text.trim_eq_empty_iff, bundlePath?]
  split <;> simp_all

/-- A module of a bundle stands behind those of its modules that it requires, at once or through
others. -/
theorem idxOf_lt_of_bundleModules (h : p.bundleModules b = .ok names)
    (hm : m ∈ p.catalog.modules) (hmname : m.name ∈ names)
    (hn : n ∈ p.catalog.modules) (hnname : n.name ∈ names) (hway : TransGen p.catalog.Asks m n) :
    names.idxOf n.name < names.idxOf m.name := by
  obtain ⟨q, hwalked, rfl⟩ := Requirements.exists_walked_of_order h
  exact hwalked.sound.grounded.idxOf_lt hwalked.sound.distinct hmname hnname
    ((transGen_requires_name_iff hm hn).2 hway)

end Project

namespace Disk

/-! ## What an asset gives -/

/-- The text that an asset of a module gives to a bundle in a language. -/
inductive Gives (d : Disk) (m : Module) (asset lang : String) : String → Prop
  | translated {file : Path} {text : String} (hfile : m.destFile? asset lang = some file)
      (hread : d.readText file = .ok text) : Gives d m asset lang text
  | handedOn {extension : String} {file : Path} {text : String}
      (hno : ∀ file text, m.destFile? asset lang = some file → d.readText file ≠ .ok text)
      (hkind : sourceKind? asset = some (.native extension))
      (hlang : Language.extension? lang = some extension)
      (hfile : m.sourceFile? asset = some file) (hread : d.readText file = .ok text) :
      Gives d m asset lang text

theorem textOf?_eq_some_iff : d.textOf? file = some text ↔ d.readText file = .ok text := by
  unfold textOf?
  split
  · cases d.readText file <;> simp [Except.toOption]
  · rename_i hno
    constructor
    · simp
    · -- a path that can be read leads to a file
      intro hread
      obtain ⟨content, hcontent, -⟩ := bind_eq_ok_iff.1 hread
      obtain ⟨l, hlocate, hentry⟩ := bind_eq_ok_iff.1 hcontent
      exfalso
      apply hno
      rw [isFile, find?, hlocate]
      split at hentry <;> simp_all

theorem isHandedOn_iff :
    isHandedOn asset lang = true ↔ ∃ extension, sourceKind? asset = some (.native extension) ∧
      Language.extension? lang = some extension := by
  unfold isHandedOn
  cases sourceKind? asset with
  | none => simp
  | some kind => cases kind <;> simp [SourceKind.passesThroughTo]

theorem assetText?_eq_some_iff :
    d.assetText? m asset lang = some text ↔ d.Gives m asset lang text := by
  unfold assetText?
  cases hdest : (m.destFile? asset lang).bind d.textOf? with
  | some first =>
      obtain ⟨file, hfile, hread⟩ := Option.bind_eq_some_iff.1 hdest
      rw [textOf?_eq_some_iff] at hread
      constructor
      · rintro ⟨⟩
        exact .translated hfile hread
      · rintro (⟨hfile', hread'⟩ | ⟨hno, -, -, -, -⟩)
        · obtain rfl := Option.some.inj (hfile.symm.trans hfile')
          exact congrArg some (Except.ok.inj (hread.symm.trans hread'))
        · exact absurd hread (hno file first hfile)
  | none =>
      have hno : ∀ file text, m.destFile? asset lang = some file → d.readText file ≠ .ok text := by
        intro file text hfile hread
        rw [hfile, Option.bind_some, textOf?_eq_some_iff.2 hread] at hdest
        simp at hdest
      constructor
      · intro h
        dsimp only at h
        split at h
        · rename_i hhanded
          obtain ⟨extension, hkind, hlang⟩ := isHandedOn_iff.1 hhanded
          obtain ⟨file, hfile, hread⟩ := Option.bind_eq_some_iff.1 h
          exact .handedOn hno hkind hlang hfile (textOf?_eq_some_iff.1 hread)
        · simp at h
      · rintro (⟨hfile, hread⟩ | ⟨-, hkind, hlang, hfile, hread⟩)
        · exact absurd hread (hno _ _ hfile)
        · dsimp only
          rw [if_pos (isHandedOn_iff.2 ⟨_, hkind, hlang⟩), hfile, Option.bind_some]
          exact textOf?_eq_some_iff.2 hread

/-! ## Building one bundle -/

theorem buildBundle_of_blank (h : Text.blank b.dest = true) :
    d.buildBundle p b = (.ok none, d) := by
  rw [buildBundle, Project.bundlePath?_eq_none_iff.2 h]

theorem buildBundle_of_cycle {cycle : Cycle} (h : Text.blank b.dest = false)
    (hcycle : p.bundleModules b = .error cycle) :
    d.buildBundle p b = (.error (.cycle cycle), d) := by
  have hdest : p.bundlePath? b ≠ none := by
    rw [Ne, Project.bundlePath?_eq_none_iff, h]
    simp
  obtain ⟨path, hpath⟩ := Option.ne_none_iff_exists'.1 hdest
  rw [buildBundle, hpath]
  simp only [hcycle]

/-- A bundle that was built was placed with the text of its modules. -/
theorem place_of_buildBundle (h : d.buildBundle p b = (.ok (some path), d')) :
    p.bundlePath? b = some path ∧ ∃ names, p.bundleModules b = .ok names ∧
      d.place path (d.bundleText p names b.language) = (none, d') := by
  have hpath := (path_of_buildBundle h).symm
  refine ⟨hpath, ?_⟩
  rw [buildBundle, hpath] at h
  dsimp only at h
  split at h
  · simp at h
  · rename_i names hnames
    split at h
    · simp at h
    · rename_i placed hplace
      obtain ⟨-, rfl⟩ := Prod.mk.inj h
      exact ⟨names, hnames, hplace⟩

/-- Building a bundle changes no file but its own, whatever comes of it. -/
theorem fileAt?_of_buildBundle {result : Except BundleError (Option Path)}
    (h : d.buildBundle p b = (result, d')) {l : Location}
    (hl : ∀ path, p.bundlePath? b = some path → l ≠ d.target path) :
    d'.fileAt? l = d.fileAt? l := by
  unfold buildBundle at h
  split at h
  · obtain ⟨-, rfl⟩ := Prod.mk.inj h
    rfl
  · rename_i path hpath
    split at h
    · obtain ⟨-, rfl⟩ := Prod.mk.inj h
      rfl
    · split at h <;>
      · rename_i hplace
        obtain ⟨-, rfl⟩ := Prod.mk.inj h
        exact fileAt?_of_place hplace (hl path hpath)

/-- A bundle collects the texts that the assets of its modules give, each with a line end behind
it, module by module in the order of requirements, and in each module as they are listed. -/
theorem buildBundle_collects (d : Disk) (p : Project) (b : Bundle) :
    (Text.blank b.dest = true → d.buildBundle p b = (.ok none, d)) ∧
    (Text.blank b.dest = false → ∀ cycle, p.bundleModules b = .error cycle →
      d.buildBundle p b = (.error (.cycle cycle), d)) ∧
    (∀ path d', d.buildBundle p b = (.ok (some path), d') →
      p.bundlePath? b = some path ∧
      ∃ ms : List Module, p.bundleModules b = .ok (ms.map (·.name)) ∧
        (∀ m ∈ ms, m ∈ p.catalog.modules) ∧
        (∀ m ∈ ms, ∀ n ∈ ms, TransGen p.catalog.Asks m n →
          (ms.map (·.name)).idxOf n.name < (ms.map (·.name)).idxOf m.name) ∧
        d'.readText path = .ok (Text.join "" (ms.map fun m =>
          Text.join "" ((m.manifest.assets.filterMap fun asset =>
            d.assetText? m asset b.language).map (· ++ "\n"))))) ∧
    (∀ m asset text, d.assetText? m asset b.language = some text ↔
      d.Gives m asset b.language text) ∧
    ∀ result d', d.buildBundle p b = (result, d') →
      ∀ l, d'.fileAt? l ≠ d.fileAt? l →
        ∃ path, p.bundlePath? b = some path ∧ l = d.target path := by
  refine ⟨buildBundle_of_blank, fun hdest cycle => buildBundle_of_cycle hdest, ?_,
    fun m asset text => assetText?_eq_some_iff, ?_⟩
  · intro path d' hbuilt
    obtain ⟨hpath, names, hnames, hplace⟩ := place_of_buildBundle hbuilt
    have hknown : ∀ name ∈ names, ∃ m ∈ p.catalog.modules, m.name = name := fun name hname =>
      (((Project.mem_bundleModules_iff hnames).2 name).1 hname).2
    refine ⟨hpath, names.filterMap p.catalog.get?, ?_, ?_, ?_, readText_of_place hplace⟩
    · rw [Catalog.map_name_filterMap_get? hknown, hnames]
    · exact fun m hm => (Catalog.mem_filterMap_get?_iff.1 hm).1
    · intro m hm n hn hway
      rw [Catalog.map_name_filterMap_get? hknown]
      rw [Catalog.mem_filterMap_get?_iff] at hm hn
      exact Project.idxOf_lt_of_bundleModules hnames hm.1 hm.2 hn.1 hn.2 hway
  · intro result d' hbuilt l hchanged
    by_contra hno
    exact hchanged (fileAt?_of_buildBundle hbuilt fun path hpath hl => hno ⟨path, hpath, hl⟩)

end Disk

/-! ## A translation behind a native source -/

namespace Stacked

/-- A module with a translation, and with an asset that is not there. -/
def base : Module :=
  (Module.ofManifest? ⟨"/base"⟩ { ModuleManifest.empty with
    name := some "Base", src := some ".", dest := Keyed.empty.insert "es6" "out",
    assets := ["/lost.js", "/base.bay"] }).get (by decide)

/-- A module that requires the other one and has a native source. -/
def app : Module :=
  (Module.ofManifest? ⟨"/app"⟩ { ModuleManifest.empty with
    name := some "App", src := some ".", assets := ["/app.js"],
    require := ["Base"] }).get (by decide)

/-- A bundle of both modules. -/
def bundle : Bundle := ⟨"all.js", ["App", "Base"], none⟩

/-- A project of both modules and the bundle. -/
def project : Project :=
  Project.ofParts ⟨"/"⟩ { ProjectManifest.empty with assets := [bundle] }
    (Catalog.ofModules [app, base])

/-- A disk with the translation and the native source. -/
def disk : Disk where
  entries := [(["base"], .directory), (["out", "base"], .directory), (["app"], .directory),
    (["base.js", "out", "base"], .file "base".toUTF8), (["app.js", "app"], .file "app".toUTF8)]
  workDir := []
  distinct := by simp
  housed := by
    intro l e h
    simp only [List.mem_cons, Prod.mk.injEq, List.not_mem_nil, or_false] at h
    rcases h with h | h | h | h | h <;> simp [h]

theorem bundleModules_bundle : project.bundleModules bundle = .ok ["Base", "App"] := by
  have hlisted : project.expand bundle.modules = ["App", "Base"] := by decide
  have hgraph : project.requirements =
      (Requirements.empty.insert "App" ["Base"]).insert "Base" [] := rfl
  rw [Project.bundleModules, Project.order, hlisted, hgraph]
  cbv

theorem buildBundle_bundle : (disk.buildBundle project bundle).1 = .ok (some ⟨"/all.js"⟩) := by
  have hpath : project.bundlePath? bundle = some ⟨"/all.js"⟩ := by decide
  rw [Disk.buildBundle, hpath]
  dsimp only
  rw [bundleModules_bundle]
  decide

/-- The module that is required comes first, and the asset that is not there is left out. -/
theorem readText_bundle :
    (disk.buildBundle project bundle).2.readText ⟨"/all.js"⟩ = .ok "base\napp\n" := by
  obtain ⟨-, ms, hnames, hms, -, hread⟩ := (disk.buildBundle_collects project bundle).2.2.1 _ _
    (Prod.ext buildBundle_bundle rfl)
  have hmodules : project.catalog.modules = [app, base] := rfl
  have hmap : ms.map (·.name) = ["Base", "App"] :=
    Except.ok.inj (hnames.symm.trans bundleModules_bundle)
  obtain ⟨m, n, rfl⟩ := List.length_eq_two.1 (by simpa using congrArg List.length hmap)
  obtain ⟨hm, hn⟩ : m.name = "Base" ∧ n.name = "App" := by simpa using hmap
  have happ : app.name = "App" := rfl
  have hbase : base.name = "Base" := rfl
  obtain rfl : m = base := by
    rcases (by simpa [hmodules] using hms m (by simp)) with rfl | rfl
    · simp [happ] at hm
    · rfl
  obtain rfl : n = app := by
    rcases (by simpa [hmodules] using hms n (by simp)) with rfl | rfl
    · rfl
    · simp [hbase] at hn
  rw [hread]
  decide

end Stacked

end Polybuild
