import Polybuild.Proofs.Build.Atomic
import Polybuild.Proofs.Build.Bundles
import Polybuild.Proofs.Build.Destinations
import Polybuild.Proofs.Requirements.Walk
import Polybuild.Watch.Change

/-!
# Building everything after a change

Where all bundles are up to date and a source file changes, the bundles of its module are built
again and the others are left alone. The main statement says for which bundles that is enough, so
that building everything afterwards does not change them: those that were built again, and those
that are made of nothing that was written. Only bundles that are apart are concerned. `Handled`
is what the statement rests on: all that a change can do to a disk.
-/

namespace Polybuild

namespace Change

/-- The files that were compiled from the changed one. -/
def outputs (change : Change) : List Path :=
  match change.outcome with
  | .ok (.compiled outputs) => outputs
  | _ => []

/-- The changed file and all that was compiled from it. -/
def written (change : Change) : List Path :=
  change.file :: change.outputs

end Change

/-- Some files that are written are neither the file of a bundle nor one that it is made of. -/
def Disk.Untouched (d : Disk) (p : Project) (b : Bundle) (written : List Path) : Prop :=
  ∀ path ∈ p.bundlePath? b, ∀ q ∈ path :: p.bundleSources b, ∀ w ∈ written,
    d.target w ≠ d.target q

/-- What a change that is no failure leaves. The file and its outputs are written and some bundles
are built, and nothing else changes. -/
structure Handled (p : Project) (d : Disk) (change : Change) (changed : Disk) : Prop where
  extension : Disk.Extends d changed
  others : ∀ l, (∀ w ∈ change.written, d.target w ≠ l) →
    (∀ path ∈ change.bundles, d.target path ≠ l) → changed.fileAt? l = d.fileAt? l
  bundles : ∀ path ∈ change.bundles, ∃ b ∈ p.manifest.assets, path ∈ p.bundlePath? b
  upToDate : ∀ b ∈ p.manifest.assets, d.Apart p b → ∀ path ∈ p.bundlePath? b,
    path ∈ change.bundles → changed.UpToDate p b

namespace Handled

variable {p : Project} {d changed : Disk} {change : Change} {b : Bundle} {path : Path}

/-- The file of a bundle that was not built is as before, unless the change has written it. -/
theorem file (h : Handled p d change changed) (hapart : d.Apart p b)
    (hpath : path ∈ p.bundlePath? b) (hnot : path ∉ change.bundles)
    (hwritten : ∀ w ∈ change.written, d.target w ≠ d.target path) :
    changed.fileAt? (d.target path) = d.fileAt? (d.target path) := by
  refine h.others _ hwritten fun path' hmem htarget => ?_
  obtain ⟨other, hother, hpath'⟩ := h.bundles path' hmem
  obtain rfl := hapart.alone path hpath other hother path' hpath' htarget
  obtain rfl : path = path' := Option.some.inj (hpath.symm.trans hpath')
  exact hnot hmem

/-- The files that a bundle is made of are as before, unless the change has written them. -/
theorem sources (h : Handled p d change changed) (hapart : d.Apart p b)
    (hwritten : ∀ q ∈ p.bundleSources b, ∀ w ∈ change.written, d.target w ≠ d.target q) :
    ∀ q ∈ p.bundleSources b, changed.fileAt? (d.target q) = d.fileAt? (d.target q) := by
  intro q hq
  refine h.others _ (hwritten q hq) fun path' hmem => ?_
  obtain ⟨other, hother, hpath'⟩ := h.bundles path' hmem
  exact hapart.sources q hq other hother path' hpath'

/-- A bundle is up to date when the change has built it, or when it was so before and the change
has not touched it. -/
theorem upToDate_of_untouched (h : Handled p d change changed)
    (hwork : d.isDirectoryAt d.workDir = true) (hmem : b ∈ p.manifest.assets)
    (hapart : d.Apart p b) (hb : d.UpToDate p b) (hpath : path ∈ p.bundlePath? b)
    (hcause : path ∈ change.bundles ∨ d.Untouched p b change.written) :
    changed.UpToDate p b := by
  by_cases hbuilt : path ∈ change.bundles
  · exact h.upToDate b hmem hapart path hpath hbuilt
  · have huntouched := List.forall_mem_cons.1 (hcause.resolve_left hbuilt path hpath)
    refine hb.of_extends h.extension hwork (fun path' hpath' => ?_)
      (h.sources hapart huntouched.2)
    obtain rfl : path = path' := Option.some.inj (hpath.symm.trans hpath')
    exact h.file hapart hpath hbuilt huntouched.1

end Handled

namespace Compiler

variable {α : Type} {c : Compiler α} {d d' : Disk} {file : Path} {change : Change}

/-- What a change that is no failure leaves: the outputs of the file, then the bundles that were
built. If there are outputs, these are the bundles of the module of the file. -/
theorem handleChange_spec (hready : ∀ b ∈ c.project.manifest.assets, d.Ready c.project b)
    (hwork : d.isDirectoryAt d.workDir = true) (h : c.handleChange d file = (some change, d'))
    (hok : change.isFailure = false) :
    change.file = file ∧ ∃ m writes below bs, c.project.catalog.owner? file = some m ∧
      change.outputs = writes.map (·.1) ∧ d.Filled change.outputs writes below ∧
      (∀ b ∈ bs, b ∈ c.project.manifest.assets) ∧ Disk.Rebuilt c.project bs below d' ∧
      change.bundles = bs.filterMap c.project.bundlePath? ∧
      (change.outputs ≠ [] → bs = c.project.bundlesOf m ∧ change.bundleError = none) := by
  obtain ⟨m, relative, outcome, below, howner, -, hcompile, hfile, -, houtcome, hcase⟩ :=
    handleChange_eq_some h
  rcases hcase with ⟨outputs, result, rfl, hrun, hreport, -⟩ | ⟨hno, rfl, hbundles, -⟩
  · obtain ⟨writes, -, hne, rfl, hfilled, -⟩ := compile_eq_compiled hcompile
    have houtputs : change.outputs = writes.map (·.1) := by
      simp [Change.outputs, houtcome, wording, Except.mapError]
    have hbs : ∀ b ∈ c.project.bundlesOf m, b ∈ c.project.manifest.assets :=
      fun b hb => (List.mem_filter.1 hb).1
    obtain ⟨last, hbuilt, hrebuilt⟩ := Disk.exists_buildBundles_of_ready
      (fun b hb => hfilled.extension.ready (hready b (hbs b hb))) hbs
      (hfilled.extension.isDirectoryAt_workDir hwork)
    obtain ⟨rfl, rfl⟩ := Prod.mk.inj (hbuilt.symm.trans hrun)
    obtain ⟨hbundles, hnone⟩ := hreport _ rfl
    exact ⟨hfile, m, writes, below, _, howner, houtputs, houtputs ▸ hfilled, hbs, hrebuilt,
      hbundles, fun _ => ⟨rfl, hnone⟩⟩
  · cases outcome with
    | error error =>
        simp [Change.isFailure, houtcome, wording, Except.mapError] at hok
    | ok outcome =>
        cases outcome with
        | compiled outputs => exact absurd rfl (hno outputs)
        | skipped reason =>
            obtain rfl := compile_eq_skipped hcompile
            have houtputs : change.outputs = [] := by
              simp [Change.outputs, houtcome, wording, Except.mapError]
            exact ⟨hfile, m, [], d', [], howner, houtputs, houtputs ▸ .refl d' _, by simp,
              .nil _ d', hbundles, fun hne => absurd houtputs hne⟩

theorem handled_of_handleChange {edited changed : Disk} {content : ByteArray}
    (hready : ∀ b ∈ c.project.manifest.assets, d.Ready c.project b)
    (hwork : d.isDirectoryAt d.workDir = true) (hwrote : d.Wrote edited file content)
    (hchange : c.handleChange edited file = (some change, changed))
    (hok : change.isFailure = false) : Handled c.project d change changed := by
  obtain ⟨rfl, m, writes, below, bs, -, houtputs, hfilled, hbs, hrebuilt, hbundles, -⟩ :=
    handleChange_spec (fun b hb => hwrote.extension.ready (hready b hb))
      (hwrote.extension.isDirectoryAt_workDir hwork) hchange hok
  have hworks : below.workDir = d.workDir := hfilled.workDir.trans hwrote.workDir
  have hmem : ∀ {path : Path}, path ∈ change.bundles ↔
      ∃ b ∈ bs, path ∈ c.project.bundlePath? b := by
    simp [hbundles]
  refine ⟨?_, fun l hwritten hbuilt => ?_, fun path hpath => ?_, fun b hb hapart path hpath hin => ?_⟩
  · exact hwrote.extension.trans (hfilled.extension.trans hrebuilt.extension)
  · obtain ⟨hfile, houtput⟩ := List.forall_mem_cons.1 hwritten
    rw [hrebuilt.others, hfilled.files, Disk.filesAfter_of_forall_ne, hwrote.fileAt?,
      if_neg (Ne.symm hfile)]
    · intro write hwrite
      rw [Disk.target_congr hwrote.workDir]
      exact houtput write.1 (houtputs ▸ List.mem_map_of_mem hwrite)
    · intro b hb path hpath
      rw [Disk.target_congr hworks]
      exact hbuilt path (hmem.2 ⟨b, hb, hpath⟩)
  · obtain ⟨b, hb, hpath⟩ := hmem.1 hpath
    exact ⟨b, hbs b hb, hpath⟩
  · obtain ⟨other, hother, hsame⟩ := hmem.1 hin
    obtain rfl := hapart.alone path hpath other (hbs other hother) path hsame rfl
    exact hrebuilt.upToDate other hother (hapart.congr hworks)

/-- Building everything after a change does not change the bundles that the change has built again,
nor those that it has not touched. A bundle that it has touched and not built changes just when
its text is now another one. -/
theorem rebuild_changes_no_bundle {edited changed : Disk} {content : ByteArray} {paths : List Path}
    (hwork : d.isDirectoryAt d.workDir = true)
    (hsettled : d.buildAllBundles c.project = (.ok paths, d))
    (hwrite : d.write file content = .ok edited)
    (hchange : c.handleChange edited file = (some change, changed))
    (hok : change.isFailure = false) :
    (change.outputs ≠ [] → ∃ m, c.project.catalog.owner? file = some m ∧
        change.bundles = (c.project.bundlesOf m).filterMap c.project.bundlePath? ∧
        change.bundleError = none) ∧
      ∃ last, changed.buildAllBundles c.project = (.ok paths, last) ∧
        ∀ b ∈ c.project.manifest.assets, d.Apart c.project b → ∀ path ∈ c.project.bundlePath? b,
          (path ∈ change.bundles ∨ d.Untouched c.project b change.written →
            last.fileAt? (changed.target path) = changed.fileAt? (changed.target path)) ∧
          (path ∉ change.bundles →
            (∀ w ∈ change.written, d.target w ≠ d.target path) →
            ∀ names, c.project.bundleModules b = .ok names →
              (last.fileAt? (changed.target path) = changed.fileAt? (changed.target path) ↔
                changed.bundleText c.project names b.language =
                  d.bundleText c.project names b.language)) := by
  obtain ⟨rfl, hready, hfresh⟩ := Disk.upToDate_of_settled hsettled hwork
  have hwrote := Disk.write_eq_ok hwrite
  have hhandled := handled_of_handleChange hready hwork hwrote hchange hok
  refine ⟨fun hne => ?_, ?_⟩
  · obtain ⟨-, m, writes, below, bs, howner, -, -, -, -, hbundles, hnamed⟩ :=
      handleChange_spec (fun b hb => hwrote.extension.ready (hready b hb))
        (hwrote.extension.isDirectoryAt_workDir hwork) hchange hok
    obtain ⟨rfl, hnone⟩ := hnamed hne
    exact ⟨m, howner, hbundles, hnone⟩
  · have hwork' := hhandled.extension.isDirectoryAt_workDir hwork
    obtain ⟨last, hrun, hagain⟩ := Disk.exists_buildBundles_of_ready
      (fun b hb => hhandled.extension.ready (hready b hb)) (fun _ hb => hb) hwork'
    refine ⟨last, hrun, fun b hb hapart path hpath => ?_⟩
    have hapart' := hapart.congr hhandled.extension.workDir
    have hbefore := hfresh b hb hapart
    refine ⟨fun hcause => ?_, fun hnot hwritten names hnames => ?_⟩
    · obtain ⟨names, hnames, hfile⟩ :=
        hhandled.upToDate_of_untouched hwork hb hapart hbefore hpath hcause path hpath
      rw [hfile, hagain.fileAt? hwork' hb hapart' hpath hnames]
    · obtain ⟨names', hnames', hfile⟩ := hbefore path hpath
      obtain rfl := Except.ok.inj (hnames.symm.trans hnames')
      rw [hagain.fileAt? hwork' hb hapart' hpath hnames,
        Disk.target_congr hhandled.extension.workDir,
        hhandled.file hapart hpath hnot hwritten, hfile]
      simp [String.toByteArray_inj]

/-- Building everything after a change that is no failure leaves all bundles as they are, if they
were up to date before. -/
def RebuildQuiet (c : Compiler α) (d : Disk) (file : Path) (content : ByteArray) : Prop :=
  ∀ paths edited change changed, d.buildAllBundles c.project = (.ok paths, d) →
    d.write file content = .ok edited →
    c.handleChange edited file = (some change, changed) → change.isFailure = false →
    ∀ b ∈ c.project.manifest.assets, ∀ path ∈ c.project.bundlePath? b,
      (changed.buildAllBundles c.project).2.fileAt? (changed.target path) =
        changed.fileAt? (changed.target path)

end Compiler

/-! ## A module within the sources of another one

The directory of `inner` is in the source root of `outer`, so a source there belongs to `inner`
alone, though it is also an asset of `outer`. When it changes, the bundle of `inner` is built again
and the bundle of `outer` is not. -/

namespace Nested

/-- The module around, with an asset from the directory of the other one. -/
def outer : Module :=
  (Module.ofManifest? ⟨"/a"⟩ { ModuleManifest.empty with
    name := some "A", src := some ".", assets := ["/b/l.js"] }).get (by decide)

/-- The module within, which hands its sources on. -/
def inner : Module :=
  (Module.ofManifest? ⟨"/a/b"⟩ { ModuleManifest.empty with
    name := some "B", src := some ".", dest := Keyed.empty.insert "es6" "o",
    assets := ["/l.js"] }).get (by decide)

/-- The bundle of the module around. -/
def outerBundle : Bundle := ⟨"a.js", ["A"], none⟩

/-- The bundle of the module within. -/
def innerBundle : Bundle := ⟨"b.js", ["B"], none⟩

/-- A compiler for a project of both modules and both bundles. -/
def compiler : Compiler Unit where
  project := Project.ofParts ⟨"/"⟩
    { ProjectManifest.empty with languages := ["es6"], assets := [outerBundle, innerBundle] }
    (Catalog.ofModules [outer, inner])
  parse := fun _ _ => .ok ()
  translators := .empty

/-- A disk with the source, its output and the two bundles. -/
def disk (source output a b : String) : Disk where
  entries := [(["a"], .directory), (["b", "a"], .directory), (["o", "b", "a"], .directory),
    (["l.js", "b", "a"], .file source.toUTF8), (["l.js", "o", "b", "a"], .file output.toUTF8),
    (["a.js"], .file a.toUTF8), (["b.js"], .file b.toUTF8)]
  workDir := []
  distinct := by simp
  housed := by
    intro l e h
    simp only [List.mem_cons, Prod.mk.injEq, List.not_mem_nil, or_false] at h
    rcases h with h | h | h | h | h | h | h <;> simp [h]

/-- Both bundles are up to date. -/
def start : Disk := disk "one" "one" "one\n" "one\n"

/-- The source has changed. -/
def edited : Disk := disk "two" "one" "one\n" "one\n"

/-- The source was compiled. -/
def compiled : Disk := disk "two" "two" "one\n" "one\n"

/-- The bundle of the module within was built again. -/
def changed : Disk := disk "two" "two" "one\n" "two\n"

/-- The other bundle was, too. -/
def rebuilt : Disk := disk "two" "two" "two\n" "two\n"

theorem bundlePath?_outer : compiler.project.bundlePath? outerBundle = some ⟨"/a.js"⟩ := by
  decide

theorem bundlePath?_inner : compiler.project.bundlePath? innerBundle = some ⟨"/b.js"⟩ := by
  decide

/-- The modules require nothing, so a bundle of one module has that module alone. -/
theorem bundleModules_eq {b : Bundle} {name : String}
    (hexpand : compiler.project.expand b.modules = [name])
    (hrequired : compiler.project.requirements.edges.get? name = some []) :
    compiler.project.bundleModules b = .ok [name] := by
  rw [Project.bundleModules, hexpand]
  exact Requirements.order_singleton hrequired

theorem bundleModules_outer : compiler.project.bundleModules outerBundle = .ok ["A"] :=
  bundleModules_eq (by decide) (by decide)

theorem bundleModules_inner : compiler.project.bundleModules innerBundle = .ok ["B"] :=
  bundleModules_eq (by decide) (by decide)

theorem buildAllBundles_eq {d : Disk} (d' : Disk) {d'' : Disk}
    (houter : d.place ⟨"/a.js"⟩ (d.bundleText compiler.project ["A"] "es6") = (none, d'))
    (hinner : d'.place ⟨"/b.js"⟩ (d'.bundleText compiler.project ["B"] "es6") = (none, d'')) :
    d.buildAllBundles compiler.project = (.ok [⟨"/a.js"⟩, ⟨"/b.js"⟩], d'') := by
  have hassets : compiler.project.manifest.assets = [outerBundle, innerBundle] := rfl
  have hfirst := Disk.buildBundle_eq_ok bundlePath?_outer bundleModules_outer houter
  have hsecond := Disk.buildBundle_eq_ok bundlePath?_inner bundleModules_inner hinner
  simp [Disk.buildAllBundles, hassets, Disk.buildBundles, hfirst, hsecond, Except.map]

theorem buildAllBundles_start :
    start.buildAllBundles compiler.project = (.ok [⟨"/a.js"⟩, ⟨"/b.js"⟩], start) := by
  apply buildAllBundles_eq start
  · decide
  · decide

theorem buildAllBundles_changed :
    changed.buildAllBundles compiler.project = (.ok [⟨"/a.js"⟩, ⟨"/b.js"⟩], rebuilt) := by
  apply buildAllBundles_eq rebuilt
  · decide
  · decide

theorem write_start : start.write ⟨"/a/b/l.js"⟩ "two".toUTF8 = .ok edited := by
  decide

/-- The change belongs to the module within, whose output and bundle follow. -/
theorem handleChange_edited :
    compiler.handleChange edited ⟨"/a/b/l.js"⟩ =
      (some ⟨⟨"/a/b/l.js"⟩, "B", .ok (.compiled [⟨"/a/b/o/l.js"⟩]), [⟨"/b.js"⟩], none⟩,
        changed) := by
  have howner : compiler.project.catalog.owner? ⟨"/a/b/l.js"⟩ = some inner := by rfl
  have hrelative : inner.relativePath? ⟨"/a/b/l.js"⟩ = some "/l.js" := by decide
  have hcompile : compiler.compile edited inner "/l.js" none =
      (.ok (.compiled [⟨"/a/b/o/l.js"⟩]), compiled) := by
    decide
  have hbundles : compiler.project.bundlesOf inner = [innerBundle] := by decide
  have hplace : compiled.place ⟨"/b.js"⟩ (compiled.bundleText compiler.project ["B"] "es6") =
      (none, changed) := by
    decide
  have hbuild := Disk.buildBundle_eq_ok bundlePath?_inner bundleModules_inner hplace
  simp only [Compiler.handleChange, howner, hrelative, hcompile, Disk.refreshBundles, hbundles,
    Disk.buildBundles, hbuild, Except.map]
  rfl

/-- Building everything after the change builds the bundle of the module around. -/
theorem not_rebuildQuiet_nested :
    ¬compiler.RebuildQuiet start ⟨"/a/b/l.js"⟩ "two".toUTF8 := by
  intro h
  have hsame := h _ _ _ _ buildAllBundles_start write_start handleChange_edited rfl outerBundle
    (by decide) _ bundlePath?_outer
  rw [buildAllBundles_changed] at hsame
  revert hsame
  decide

theorem bundleSources_inner :
    compiler.project.bundleSources innerBundle = [⟨"/a/b/o/l.js"⟩, ⟨"/a/b/l.js"⟩] := by
  simp only [Project.bundleSources, bundleModules_inner]
  decide

/-- Every bundle of the project has its file beside the directory of the modules. -/
theorem target_of_mem_assets {b : Bundle} {path : Path}
    (hb : b ∈ compiler.project.manifest.assets) (hpath : path ∈ compiler.project.bundlePath? b) :
    (b = outerBundle ∧ start.target path = ["a.js"]) ∨
      (b = innerBundle ∧ start.target path = ["b.js"]) := by
  have hassets : compiler.project.manifest.assets = [outerBundle, innerBundle] := rfl
  rw [hassets] at hb
  simp only [List.mem_cons, List.not_mem_nil, or_false] at hb
  rcases hb with rfl | rfl
  · obtain rfl := Option.some.inj (bundlePath?_outer.symm.trans hpath)
    exact Or.inl ⟨rfl, by decide⟩
  · obtain rfl := Option.some.inj (bundlePath?_inner.symm.trans hpath)
    exact Or.inr ⟨rfl, by decide⟩

theorem apart_inner : start.Apart compiler.project innerBundle where
  alone := by
    intro path hpath other hother path' hpath' htarget
    obtain rfl := Option.some.inj (bundlePath?_inner.symm.trans hpath)
    have hown : start.target ⟨"/b.js"⟩ = ["b.js"] := by decide
    rcases target_of_mem_assets hother hpath' with ⟨-, hfile⟩ | ⟨rfl, -⟩
    · simp [hfile, hown] at htarget
    · rfl
  sources := by
    have hsources : ∀ q ∈ compiler.project.bundleSources innerBundle,
        start.target q ≠ ["a.js"] ∧ start.target q ≠ ["b.js"] := by
      rw [bundleSources_inner]
      decide
    intro q hq other hother path' hpath' htarget
    rcases target_of_mem_assets hother hpath' with ⟨-, hfile⟩ | ⟨-, hfile⟩
    · exact (hsources q hq).1 (htarget.symm.trans hfile)
    · exact (hsources q hq).2 (htarget.symm.trans hfile)

/-- Building everything after the change leaves the bundle of the module within. -/
theorem rebuild_leaves_inner :
    start.isDirectoryAt start.workDir = true ∧
      start.buildAllBundles compiler.project = (.ok [⟨"/a.js"⟩, ⟨"/b.js"⟩], start) ∧
      start.write ⟨"/a/b/l.js"⟩ "two".toUTF8 = .ok edited ∧
      compiler.handleChange edited ⟨"/a/b/l.js"⟩ =
        (some ⟨⟨"/a/b/l.js"⟩, "B", .ok (.compiled [⟨"/a/b/o/l.js"⟩]), [⟨"/b.js"⟩], none⟩,
          changed) ∧
      ∃ last, changed.buildAllBundles compiler.project = (.ok [⟨"/a.js"⟩, ⟨"/b.js"⟩], last) ∧
        last.fileAt? ["b.js"] = changed.fileAt? ["b.js"] := by
  refine ⟨rfl, buildAllBundles_start, write_start, handleChange_edited, ?_⟩
  obtain ⟨-, last, hlast, hbundles⟩ := Compiler.rebuild_changes_no_bundle rfl
    buildAllBundles_start write_start handleChange_edited rfl
  have hinner := hbundles innerBundle (by decide) apart_inner _ bundlePath?_inner
  have htarget : changed.target ⟨"/b.js"⟩ = ["b.js"] := by decide
  rw [htarget] at hinner
  exact ⟨last, hlast, hinner.1 (Or.inl (by simp))⟩

end Nested

end Polybuild
