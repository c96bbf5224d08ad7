import Polybuild.Proofs.Disk.Placing
import Polybuild.Proofs.Disk.Reading
import Polybuild.Proofs.Path.Beneath

/-!
# Building bundles again

A bundle that was built once can always be built again: its modules are in order, and its file
stands where it is to be written. `Ready` says so, and `exists_buildBundles_of_ready` says what
building such bundles changes, which is their files and nothing else.

A bundle is `UpToDate` when its file holds the text that would be written into it. After a build
this is so for the bundles that are `Apart`. Bundles in one file take turns there, and a bundle
that is made of the files of other bundles may be built before these are.
-/

namespace Polybuild

/-- The paths that the text of an asset may be read from: its translation, and its source if that
may be handed on. -/
def Module.assetPaths (m : Module) (lang asset : String) : List Path :=
  (m.destFile? asset lang).toList ++
    if Disk.isHandedOn asset lang then (m.sourceFile? asset).toList else []

theorem Module.plain_of_mem_assetPaths {m : Module} {lang asset : String} {q : Path}
    (h : q ∈ m.assetPaths lang asset) : q.Plain := by
  have hsource : ∀ file ∈ m.sourceFile? asset, file.Plain := by
    intro file hfile
    obtain ⟨root, -, hroot⟩ := Option.bind_eq_some_iff.1 hfile
    exact Path.plain_of_beneath? hroot
  rcases List.mem_append.1 h with hdest | hhanded
  · obtain ⟨root, -, hroot⟩ := Option.bind_eq_some_iff.1 (Option.mem_toList.1 hdest)
    exact Path.plain_of_beneath? hroot
  · split at hhanded
    · exact hsource q (Option.mem_toList.1 hhanded)
    · simp at hhanded

/-- The paths that the text of a bundle may be read from. -/
def Project.bundleSources (p : Project) (b : Bundle) : List Path :=
  match p.bundleModules b with
  | .error _ => []
  | .ok names => (names.filterMap p.catalog.get?).flatMap fun m =>
      m.manifest.assets.flatMap (m.assetPaths b.language)

theorem Project.plain_of_mem_bundleSources {p : Project} {b : Bundle} {q : Path}
    (h : q ∈ p.bundleSources b) : q.Plain := by
  unfold bundleSources at h
  split at h
  · simp at h
  · obtain ⟨m, -, hm⟩ := List.mem_flatMap.1 h
    obtain ⟨asset, -, hasset⟩ := List.mem_flatMap.1 hm
    exact Module.plain_of_mem_assetPaths hasset

namespace Disk

variable {d d' : Disk} {p : Project} {b : Bundle} {bs : List Bundle}

/-! ## The text of a bundle -/

theorem assetText?_congr {m : Module} {asset lang : String}
    (h : ∀ q ∈ m.assetPaths lang asset, d'.textOf? q = d.textOf? q) :
    d'.assetText? m asset lang = d.assetText? m asset lang := by
  have hdest : (m.destFile? asset lang).bind d'.textOf? = (m.destFile? asset lang).bind d.textOf? :=
    Option.bind_congr fun q hq => h q (by simp [Module.assetPaths, hq])
  unfold assetText?
  rw [hdest]
  by_cases hhanded : isHandedOn asset lang = true
  · have hsource : (m.sourceFile? asset).bind d'.textOf? = (m.sourceFile? asset).bind d.textOf? :=
      Option.bind_congr fun q hq => h q (by simp [Module.assetPaths, hhanded, hq])
    rw [hsource]
  · simp [hhanded]

/-- The text of a bundle depends on the texts at the paths of its assets only. -/
theorem bundleText_congr {names : List String} (hnames : p.bundleModules b = .ok names)
    (h : ∀ q ∈ p.bundleSources b, d'.textOf? q = d.textOf? q) :
    d'.bundleText p names b.language = d.bundleText p names b.language := by
  have hmodule : ∀ m ∈ names.filterMap p.catalog.get?,
      d'.moduleAssets m b.language = d.moduleAssets m b.language := by
    intro m hm
    unfold moduleAssets
    congr 2
    refine List.filterMap_congr fun asset hasset => assetText?_congr fun q hq => h q ?_
    simp only [Project.bundleSources, hnames]
    exact List.mem_flatMap.2 ⟨m, hm, List.mem_flatMap.2 ⟨asset, hasset, hq⟩⟩
  unfold bundleText
  congr 1
  exact List.map_congr_left hmodule

/-- The file of a bundle holds the text of the bundle. -/
def UpToDate (d : Disk) (p : Project) (b : Bundle) : Prop :=
  ∀ path ∈ p.bundlePath? b, ∃ names, p.bundleModules b = .ok names ∧
    d.fileAt? (d.target path) = some (d.bundleText p names b.language).toUTF8

theorem Extends.bundleText_eq {names : List String} (h : Extends d d')
    (hwork : d.isDirectoryAt d.workDir = true) (hnames : p.bundleModules b = .ok names)
    (hsources : ∀ q ∈ p.bundleSources b, d'.fileAt? (d.target q) = d.fileAt? (d.target q)) :
    d'.bundleText p names b.language = d.bundleText p names b.language :=
  bundleText_congr hnames fun q hq =>
    h.textOf?_eq (Project.plain_of_mem_bundleSources hq) hwork (hsources q hq)

/-- A bundle stays up to date while its file and those it is made of stay. -/
theorem UpToDate.of_extends (h : d.UpToDate p b) (hext : Extends d d')
    (hwork : d.isDirectoryAt d.workDir = true)
    (hfile : ∀ path ∈ p.bundlePath? b, d'.fileAt? (d.target path) = d.fileAt? (d.target path))
    (hsources : ∀ q ∈ p.bundleSources b, d'.fileAt? (d.target q) = d.fileAt? (d.target q)) :
    d'.UpToDate p b := by
  intro path hpath
  obtain ⟨names, hnames, hcontent⟩ := h path hpath
  refine ⟨names, hnames, ?_⟩
  rw [target_congr hext.workDir, hfile path hpath, hcontent,
    hext.bundleText_eq hwork hnames hsources]

/-- The file of a bundle is that of no other bundle, and the bundle is not made of such files. -/
structure Apart (d : Disk) (p : Project) (b : Bundle) : Prop where
  alone : ∀ path ∈ p.bundlePath? b, ∀ other ∈ p.manifest.assets,
    ∀ path' ∈ p.bundlePath? other, d.target path' = d.target path → other = b
  sources : ∀ q ∈ p.bundleSources b, ∀ other ∈ p.manifest.assets,
    ∀ path' ∈ p.bundlePath? other, d.target path' ≠ d.target q

theorem Apart.congr (h : Apart d p b) (hwork : d'.workDir = d.workDir) : Apart d' p b where
  alone := by
    simp only [target_congr hwork]
    exact h.alone
  sources := by
    simp only [target_congr hwork]
    exact h.sources

/-! ## Bundles that were built -/

/-- The bundle has no file, or its modules are in order and its file can be written again. -/
def Ready (d : Disk) (p : Project) (b : Bundle) : Prop :=
  ∀ path ∈ p.bundlePath? b, Placed d path ∧ ∃ names, p.bundleModules b = .ok names

theorem Extends.ready (h : Extends d d') (hb : d.Ready p b) : d'.Ready p b :=
  fun path hpath => (hb path hpath).imp_left h.placed

theorem ready_of_buildBundle {path? : Option Path} (h : d.buildBundle p b = (.ok path?, d')) :
    Extends d d' ∧ d'.Ready p b := by
  unfold buildBundle at h
  split at h
  · rename_i hnowhere
    obtain ⟨-, rfl⟩ := Prod.mk.inj h
    exact ⟨.refl d, by simp [Ready, hnowhere]⟩
  · rename_i path hpath
    split at h
    · simp at h
    · rename_i names hnames
      split at h
      · simp at h
      · rename_i placed hplace
        obtain ⟨-, rfl⟩ := Prod.mk.inj h
        obtain ⟨hplaced, below, hopened, hwrote⟩ := place_eq_none hplace
        refine ⟨hopened.extension.trans hwrote.extension, fun other hother => ?_⟩
        obtain rfl : path = other := by simpa [hpath] using hother
        exact ⟨hplaced, names, hnames⟩

/-- Bundles are built when the first one is, and then the others. -/
theorem buildBundles_cons_eq_ok_iff {paths : List Path} :
    d.buildBundles p (b :: bs) = (.ok paths, d') ↔
      ∃ path? below rest, d.buildBundle p b = (.ok path?, below) ∧
        below.buildBundles p bs = (.ok rest, d') ∧ path?.toList ++ rest = paths := by
  cases hfirst : d.buildBundle p b with
  | mk first below =>
      cases first with
      | error error => simp [buildBundles, hfirst]
      | ok path? =>
          cases hrest : below.buildBundles p bs with
          | mk result last =>
              cases result <;> simp [buildBundles, hfirst, hrest, Except.map, and_comm]

/-- Bundles that were built are ready to be built again. -/
theorem ready_of_buildBundles {paths : List Path} (h : d.buildBundles p bs = (.ok paths, d')) :
    Extends d d' ∧ ∀ b ∈ bs, d'.Ready p b := by
  induction bs generalizing d paths with
  | nil =>
      obtain ⟨-, rfl⟩ := Prod.mk.inj h
      exact ⟨.refl d, by simp⟩
  | cons b rest ih =>
      obtain ⟨path?, below, built, hbuilt, hrest, -⟩ := buildBundles_cons_eq_ok_iff.1 h
      obtain ⟨hbelow, hready⟩ := ready_of_buildBundle hbuilt
      obtain ⟨hext, hreadies⟩ := ih hrest
      exact ⟨hbelow.trans hext, List.forall_mem_cons.2 ⟨hext.ready hready, hreadies⟩⟩

/-! ## Building again -/

/-- Bundles were built on a disk that had their files. -/
structure Rebuilt (p : Project) (bs : List Bundle) (d d' : Disk) : Prop where
  extension : Extends d d'
  others : ∀ l, (∀ b ∈ bs, ∀ path ∈ p.bundlePath? b, d.target path ≠ l) →
    d'.fileAt? l = d.fileAt? l
  upToDate : ∀ b ∈ bs, Apart d p b → d'.UpToDate p b

theorem Rebuilt.nil (p : Project) (d : Disk) : Rebuilt p [] d d :=
  ⟨.refl d, fun _ _ => rfl, by simp⟩

/-- The files that a bundle is made of stay while bundles are built, if it is apart from them. -/
theorem Rebuilt.sources (h : Rebuilt p bs d d') (hbs : ∀ b ∈ bs, b ∈ p.manifest.assets)
    (hapart : Apart d p b) :
    ∀ q ∈ p.bundleSources b, d'.fileAt? (d.target q) = d.fileAt? (d.target q) :=
  fun q hq => h.others _ fun other hother path hpath =>
    hapart.sources q hq other (hbs other hother) path hpath

/-- A bundle that is apart stays up to date while other bundles are built. -/
theorem Rebuilt.keeps (h : Rebuilt p bs d d') (hwork : d.isDirectoryAt d.workDir = true)
    (hbs : ∀ b ∈ bs, b ∈ p.manifest.assets) (hapart : Apart d p b) (hb : d.UpToDate p b) :
    d'.UpToDate p b := by
  by_cases hmem : b ∈ bs
  · exact h.upToDate b hmem hapart
  · refine hb.of_extends h.extension hwork (fun path hpath => h.others _ ?_)
      (h.sources hbs hapart)
    intro other hother path' hpath' htarget
    exact hmem (hapart.alone path hpath other (hbs other hother) path' hpath' htarget ▸ hother)

/-- Bundles that are built after another one leave it as it was built. -/
theorem Rebuilt.cons {below : Disk} (h : Rebuilt p [b] d below) (h' : Rebuilt p bs below d')
    (hwork : d.isDirectoryAt d.workDir = true) (hbs : ∀ b ∈ bs, b ∈ p.manifest.assets) :
    Rebuilt p (b :: bs) d d' where
  extension := h.extension.trans h'.extension
  others := by
    intro l hl
    rw [List.forall_mem_cons] at hl
    have hrest : ∀ b ∈ bs, ∀ path ∈ p.bundlePath? b, below.target path ≠ l := by
      simpa only [target_congr h.extension.workDir] using hl.2
    rw [h'.others l hrest, h.others l (by simpa using hl.1)]
  upToDate := by
    intro other hother hapart
    have hapart' := hapart.congr h.extension.workDir
    rcases List.mem_cons.1 hother with rfl | hother
    · have hwork' := h.extension.isDirectoryAt_workDir hwork
      exact h'.keeps hwork' hbs hapart' (h.upToDate other (by simp) hapart)
    · exact h'.upToDate other hother hapart'

theorem buildBundle_eq_ok {path : Path} {names : List String} (hpath : p.bundlePath? b = some path)
    (hnames : p.bundleModules b = .ok names)
    (hplace : d.place path (d.bundleText p names b.language) = (none, d')) :
    d.buildBundle p b = (.ok (some path), d') := by
  simp only [buildBundle, hpath, hnames, hplace]

theorem exists_buildBundle_of_ready (h : d.Ready p b) (hb : b ∈ p.manifest.assets)
    (hwork : d.isDirectoryAt d.workDir = true) :
    ∃ d', d.buildBundle p b = (.ok (p.bundlePath? b), d') ∧ Rebuilt p [b] d d' := by
  cases hpath : p.bundlePath? b with
  | none => exact ⟨d, by simp [buildBundle, hpath], .refl d, by simp, by simp [UpToDate, hpath]⟩
  | some path =>
      obtain ⟨hplaced, names, hnames⟩ := h path hpath
      obtain ⟨d', hplace, hwrote⟩ :=
        exists_place_of_placed hplaced (d.bundleText p names b.language)
      have hothers : ∀ l, (∀ other ∈ [b], ∀ path' ∈ p.bundlePath? other, d.target path' ≠ l) →
          d'.fileAt? l = d.fileAt? l := by
        intro l hl
        have hne : l ≠ d.target path := Ne.symm (hl b (by simp) path hpath)
        rw [hwrote.fileAt?, if_neg hne]
      refine ⟨d', buildBundle_eq_ok hpath hnames hplace, hwrote.extension, hothers, ?_⟩
      intro other hother hapart
      obtain rfl := List.mem_singleton.1 hother
      intro path' hpath'
      obtain rfl : path = path' := by simpa [hpath] using hpath'
      refine ⟨names, hnames, ?_⟩
      have htext : d'.bundleText p names other.language = d.bundleText p names other.language := by
        refine hwrote.extension.bundleText_eq hwork hnames fun q hq => hothers _ ?_
        intro same hsame file hfile
        obtain rfl := List.mem_singleton.1 hsame
        exact hapart.sources q hq same hb file hfile
      rw [target_congr hwrote.workDir, hwrote.fileAt?, if_pos rfl, htext]

/-- Bundles that are ready are built, and nothing else is changed. -/
theorem exists_buildBundles_of_ready (h : ∀ b ∈ bs, d.Ready p b)
    (hbs : ∀ b ∈ bs, b ∈ p.manifest.assets) (hwork : d.isDirectoryAt d.workDir = true) :
    ∃ d', d.buildBundles p bs = (.ok (bs.filterMap p.bundlePath?), d') ∧ Rebuilt p bs d d' := by
  induction bs generalizing d with
  | nil => exact ⟨d, rfl, .nil p d⟩
  | cons b rest ih =>
      rw [List.forall_mem_cons] at h hbs
      obtain ⟨below, hbuilt, hbelow⟩ := exists_buildBundle_of_ready h.1 hbs.1 hwork
      have hwork' := hbelow.extension.isDirectoryAt_workDir hwork
      obtain ⟨d', hrest, hrebuilt⟩ :=
        ih (fun other hother => hbelow.extension.ready (h.2 other hother)) hbs.2 hwork'
      refine ⟨d', ?_, hbelow.cons hrebuilt hwork hbs.2⟩
      simp only [buildBundles, hbuilt, hrest]
      cases hpath : p.bundlePath? b <;> simp [hpath, Except.map]

/-- Building all bundles writes the text that a bundle had before into its file. -/
theorem Rebuilt.fileAt? (h : Rebuilt p p.manifest.assets d d')
    (hwork : d.isDirectoryAt d.workDir = true) (hb : b ∈ p.manifest.assets)
    (hapart : Apart d p b) {path : Path} (hpath : path ∈ p.bundlePath? b) {names : List String}
    (hnames : p.bundleModules b = .ok names) :
    d'.fileAt? (d.target path) = some (d.bundleText p names b.language).toUTF8 := by
  obtain ⟨names', hnames', hfile⟩ := h.upToDate b hb hapart path hpath
  obtain rfl := Except.ok.inj (hnames.symm.trans hnames')
  rw [target_congr h.extension.workDir] at hfile
  have hsources := h.sources (fun _ hother => hother) hapart
  rw [hfile, h.extension.bundleText_eq hwork hnames hsources]

/-- Where building all bundles changes nothing, they are ready, and those that are apart are up to
date. -/
theorem upToDate_of_settled {paths : List Path} (h : d.buildAllBundles p = (.ok paths, d))
    (hwork : d.isDirectoryAt d.workDir = true) :
    paths = p.manifest.assets.filterMap p.bundlePath? ∧
      (∀ b ∈ p.manifest.assets, d.Ready p b) ∧
      ∀ b ∈ p.manifest.assets, Apart d p b → d.UpToDate p b := by
  have hready := (ready_of_buildBundles h).2
  obtain ⟨built, hbuilt, hrebuilt⟩ := exists_buildBundles_of_ready hready (fun _ hb => hb) hwork
  obtain ⟨hpaths, rfl⟩ := Prod.mk.inj (h.symm.trans hbuilt)
  exact ⟨Except.ok.inj hpaths, hready, hrebuilt.upToDate⟩

end Disk

end Polybuild
