import Polybuild.Proofs.Build.Bundles
import Polybuild.Proofs.Build.Destinations
import Polybuild.Proofs.Project.Bundled

/-!
# What a change reports of the bundles

After a changed file was compiled, the bundles of its module are built one after the other, in the
order in which they are declared, up to the first one that fails. `Disk.bundlesWritten` keeps the
files that are written on the way, and `Disk.BundlesRun` says how such a run can end.

`Compiler.bundles_of_handleChange` compares this with the report. When no bundle fails, the report
has just these files. When one fails, it has none, though the bundles before it were written.
-/

namespace Polybuild

namespace Disk

variable {d d' : Disk} {p : Project} {b : Bundle} {bs : List Bundle} {written : List Path}
  {error : BundleError} {result : Except BundleError (List Path)}

/-- The files that are written when bundles are built one after the other, up to the first one that
fails. -/
def bundlesWritten (d : Disk) (p : Project) : List Bundle → List Path
  | [] => []
  | b :: rest =>
      match d.buildBundle p b with
      | (.error _, _) => []
      | (.ok path?, d) => path?.toList ++ d.bundlesWritten p rest

/-- How building bundles one after the other ends: all are built, or those before one that
fails. -/
inductive BundlesRun (p : Project) (bs : List Bundle) (d : Disk) (written : List Path) :
    Except BundleError (List Path) → Disk → Prop
  | done {d' : Disk} (run : d.buildBundles p bs = (.ok written, d')) :
      BundlesRun p bs d written (.ok written) d'
  | failed {built later : List Bundle} {b : Bundle} {error : BundleError} {mid d' : Disk}
      (split : bs = built ++ b :: later) (run : d.buildBundles p built = (.ok written, mid))
      (failure : mid.buildBundle p b = (.error error, d')) :
      BundlesRun p bs d written (.error error) d'

/-- One more bundle that is built in front adds its file. -/
theorem BundlesRun.cons {path? : Option Path} {below : Disk}
    (hbuilt : d.buildBundle p b = (.ok path?, below))
    (h : BundlesRun p bs below written result d') :
    BundlesRun p (b :: bs) d (path?.toList ++ written) (result.map (path?.toList ++ ·)) d' := by
  have hcons : ∀ {rest : List Bundle} {last : Disk},
      below.buildBundles p rest = (.ok written, last) →
      d.buildBundles p (b :: rest) = (.ok (path?.toList ++ written), last) := fun hrest =>
    buildBundles_cons_eq_ok_iff.2 ⟨path?, below, written, hbuilt, hrest, rfl⟩
  cases h with
  | done run => exact .done (hcons run)
  | failed split run failure => exact .failed (congrArg (b :: ·) split) (hcons run) failure

theorem bundlesRun_of_buildBundles (h : d.buildBundles p bs = (result, d')) :
    BundlesRun p bs d (d.bundlesWritten p bs) result d' := by
  induction bs generalizing d result with
  | nil =>
      obtain ⟨rfl, rfl⟩ := Prod.mk.inj h
      exact .done rfl
  | cons b bs ih =>
      rw [buildBundles] at h
      split at h
      · rename_i error below hfailed
        obtain ⟨rfl, rfl⟩ := Prod.mk.inj h
        simp only [bundlesWritten, hfailed]
        exact .failed (List.nil_append _).symm rfl hfailed
      · rename_i path? below hbuilt
        obtain ⟨rfl, rfl⟩ := Prod.mk.inj h
        simp only [bundlesWritten, hbuilt]
        exact (ih rfl).cons hbuilt

/-- A bundle that fails leaves all files as they are. -/
theorem fileAt?_of_failed (h : d.buildBundle p b = (.error error, d')) (l : Location) :
    d'.fileAt? l = d.fileAt? l := by
  unfold buildBundle at h
  split at h
  · simp at h
  · split at h
    · obtain ⟨-, rfl⟩ := Prod.mk.inj h
      rfl
    · split at h
      · rename_i fault below hplace
        obtain ⟨-, rfl⟩ := Prod.mk.inj h
        exact (place_eq_some hplace).files l
      · simp at h

/-- Bundles that are built have their files in the end, and no other files are changed. -/
theorem files_of_buildBundles (h : d.buildBundles p bs = (.ok written, d')) :
    (∀ path ∈ written, (d'.fileAt? (d.target path)).isSome = true) ∧
      ∀ l, (∀ path ∈ written, d.target path ≠ l) → d'.fileAt? l = d.fileAt? l := by
  obtain ⟨hext, hready⟩ := ready_of_buildBundles h
  obtain rfl := paths_of_buildBundles h
  refine ⟨fun path hpath => ?_, fun l hl => ?_⟩
  · obtain ⟨b, hb, hfile⟩ := List.mem_filterMap.1 hpath
    rw [← target_congr hext.workDir]
    exact (hready b hb path hfile).1.file
  · refine (placings_of_buildBundles (fun _ hb => hb) h).fileAt?_eq fun e path _ hbundle => ?_
    obtain ⟨b, hb, hfile⟩ := hbundle
    exact hl path (List.mem_filterMap.2 ⟨b, hb, hfile⟩)

/-- The files that a run has written are there in the end, and no other files are changed. -/
theorem BundlesRun.files (h : BundlesRun p bs d written result d') :
    (∀ path ∈ written, (d'.fileAt? (d.target path)).isSome = true) ∧
      ∀ l, (∀ path ∈ written, d.target path ≠ l) → d'.fileAt? l = d.fileAt? l := by
  cases h with
  | done run => exact files_of_buildBundles run
  | failed split run failure =>
      simp only [fileAt?_of_failed failure]
      exact files_of_buildBundles run

/-- What a run has written is in the order of the bundles. -/
theorem BundlesRun.prefix_of_bundles (h : BundlesRun p bs d written result d') :
    written <+: bs.filterMap p.bundlePath? := by
  cases h with
  | done run => exact (paths_of_buildBundles run).symm ▸ List.prefix_refl _
  | failed split run failure =>
      rw [paths_of_buildBundles run, split, List.filterMap_append]
      exact List.prefix_append ..

end Disk

namespace Compiler

variable {α : Type} {c : Compiler α} {d d' : Disk} {file : Path} {change : Change}

/-- The bundle files that are written when a changed file is handled. -/
def bundlesWritten (c : Compiler α) (d : Disk) (file : Path) : List Path :=
  match c.project.catalog.owner? file with
  | none => []
  | some m =>
      match m.relativePath? file with
      | none => []
      | some relative =>
          match c.compile d m relative none with
          | (.ok (.compiled _), d) => d.bundlesWritten c.project (c.project.bundlesOf m)
          | _ => []

/-- The report of a change has the bundle files that were written, in their order. -/
def ReportsBundles (c : Compiler α) (d : Disk) (file : Path) : Prop :=
  ∀ change d', c.handleChange d file = (some change, d') →
    change.bundles = c.bundlesWritten d file

/-- The bundles of the module are built up to the first one that fails, and the report has the
files that were written just when none fails or nothing was written before. If one fails, the
report is without a file and says why. -/
theorem bundles_of_handleChange (h : c.handleChange d file = (some change, d')) :
    (change.bundles = c.bundlesWritten d file ↔
      change.bundleError = none ∨ c.bundlesWritten d file = []) ∧
    ∃ m relative outcome below, c.project.catalog.owner? file = some m ∧
      m.relativePath? file = some relative ∧
      c.compile d m relative none = (outcome, below) ∧ change.outcome = wording outcome ∧
      c.bundlesWritten d file <+: (c.project.bundlesOf m).filterMap c.project.bundlePath? ∧
      (∀ path ∈ c.bundlesWritten d file, (d'.fileAt? (below.target path)).isSome = true) ∧
      (∀ l, (∀ path ∈ c.bundlesWritten d file, below.target path ≠ l) →
        d'.fileAt? l = below.fileAt? l) ∧
      ((∀ outputs, outcome ≠ .ok (.compiled outputs)) →
        d' = below ∧ c.bundlesWritten d file = [] ∧
          change.bundles = [] ∧ change.bundleError = none) ∧
      ∀ outputs, outcome = .ok (.compiled outputs) →
        ∃ result, Disk.BundlesRun c.project (c.project.bundlesOf m) below
            (c.bundlesWritten d file) result d' ∧
          (∀ bundles, result = .ok bundles →
            change.bundles = c.bundlesWritten d file ∧ change.bundleError = none) ∧
          ∀ error, result = .error error →
            change.bundles = [] ∧ change.bundleError = some error := by
  obtain ⟨m, relative, outcome, below, howner, hrelative, hcompile, -, -, houtcome, hcase⟩ :=
    handleChange_eq_some h
  rcases hcase with ⟨outputs, result, rfl, hrun, hok, herror⟩ | ⟨hno, rfl, hbundles, hnone⟩
  · have hwritten : c.bundlesWritten d file =
        below.bundlesWritten c.project (c.project.bundlesOf m) := by
      simp only [bundlesWritten, howner, hrelative, hcompile]
    have hruns := Disk.bundlesRun_of_buildBundles hrun
    rw [← hwritten] at hruns
    have hreport : ∀ bundles, result = .ok bundles →
        change.bundles = c.bundlesWritten d file ∧ change.bundleError = none := by
      rintro bundles rfl
      cases hruns with
      | done => exact hok _ rfl
    refine ⟨?_, m, relative, _, below, howner, hrelative, hcompile, houtcome,
      hruns.prefix_of_bundles, hruns.files.1, hruns.files.2, fun hno => absurd rfl (hno outputs),
      fun _ _ => ⟨result, hruns, hreport, herror⟩⟩
    cases result with
    | ok bundles => simp [hreport bundles rfl]
    | error error => simp [herror error rfl]
  · have hwritten : c.bundlesWritten d file = [] := by
      simp only [bundlesWritten, howner, hrelative, hcompile]
      split
      · rename_i outputs last heq
        exact absurd (Prod.mk.inj heq).1 (hno outputs)
      · rfl
    refine ⟨by simp [hbundles, hnone, hwritten], m, relative, outcome, _, howner, hrelative,
      hcompile, houtcome, ?_, ?_, ?_, fun _ => ⟨rfl, hwritten, hbundles, hnone⟩,
      fun outputs hcompiled => absurd hcompiled (hno outputs)⟩
    · simp [hwritten]
    · simp [hwritten]
    · simp

end Compiler

/-! ## A bundle that cannot be written

The second bundle of the module is to be written where its directory is. When the source changes,
the first bundle is written before that fails. -/

namespace Misplaced

/-- A module that hands its source on. -/
def app : Module :=
  (Module.ofManifest? ⟨"/app"⟩ { ModuleManifest.empty with
    name := some "App", src := some ".", dest := Keyed.empty.insert "es6" "out",
    assets := ["/l.js"] }).get (by decide)

/-- A bundle of the module. -/
def bundle : Bundle := ⟨"a.js", ["App"], none⟩

/-- A bundle in the place of the directory of the module. -/
def astray : Bundle := ⟨"app", ["App"], none⟩

/-- A compiler for a project of the module and both bundles. -/
def compiler : Compiler Unit where
  project := Project.ofParts ⟨"/"⟩
    { ProjectManifest.empty with languages := ["es6"], assets := [bundle, astray] }
    (Catalog.ofModules [app])
  parse := fun _ _ => .ok ()
  translators := .empty

/-- A disk with the source, its output and the first bundle. -/
def disk (source output text : String) : Disk where
  entries := [(["app"], .directory), (["out", "app"], .directory),
    (["l.js", "app"], .file source.toUTF8), (["l.js", "out", "app"], .file output.toUTF8),
    (["a.js"], .file text.toUTF8)]
  workDir := []
  distinct := by simp
  housed := by
    intro l e h
    simp only [List.mem_cons, Prod.mk.injEq, List.not_mem_nil, or_false] at h
    rcases h with h | h | h | h | h <;> simp [h]

/-- The source has changed. -/
def edited : Disk := disk "two" "one" "one\n"

/-- The source was compiled. -/
def compiled : Disk := disk "two" "two" "one\n"

/-- The first bundle was built again. -/
def built : Disk := disk "two" "two" "two\n"

theorem bundleModules_eq {b : Bundle} (hexpand : compiler.project.expand b.modules = ["App"]) :
    compiler.project.bundleModules b = .ok ["App"] := by
  rw [Project.bundleModules, hexpand]
  exact Requirements.order_singleton (by decide)

theorem buildBundle_bundle :
    compiled.buildBundle compiler.project bundle = (.ok (some ⟨"/a.js"⟩), built) :=
  Disk.buildBundle_eq_ok (by decide) (bundleModules_eq (by decide)) (by decide)

theorem buildBundle_astray :
    built.buildBundle compiler.project astray =
      (.error (.write ⟨"/app"⟩ .isADirectory), built) := by
  have hpath : compiler.project.bundlePath? astray = some ⟨"/app"⟩ := by decide
  have hnames : compiler.project.bundleModules astray = .ok ["App"] :=
    bundleModules_eq (by decide)
  have hplace : built.place ⟨"/app"⟩ (built.bundleText compiler.project ["App"] astray.language) =
      (some .isADirectory, built) := by
    decide
  simp only [Disk.buildBundle, hpath, hnames, hplace]

theorem compile_edited :
    compiler.project.catalog.owner? ⟨"/app/l.js"⟩ = some app ∧
      app.relativePath? ⟨"/app/l.js"⟩ = some "/l.js" ∧
      compiler.compile edited app "/l.js" none =
        (.ok (.compiled [⟨"/app/out/l.js"⟩]), compiled) :=
  ⟨rfl, by decide, by decide⟩

theorem bundlesOf_app : compiler.project.bundlesOf app = [bundle, astray] := by
  decide

/-- The first bundle is written. -/
theorem bundlesWritten_edited : compiler.bundlesWritten edited ⟨"/app/l.js"⟩ = [⟨"/a.js"⟩] := by
  obtain ⟨howner, hrelative, hcompile⟩ := compile_edited
  simp [Compiler.bundlesWritten, howner, hrelative, hcompile, bundlesOf_app, Disk.bundlesWritten,
    buildBundle_bundle, buildBundle_astray]

/-- The report has no bundle. -/
theorem handleChange_edited :
    compiler.handleChange edited ⟨"/app/l.js"⟩ =
      (some ⟨⟨"/app/l.js"⟩, "App", .ok (.compiled [⟨"/app/out/l.js"⟩]), [],
        some (.write ⟨"/app"⟩ .isADirectory)⟩, built) := by
  obtain ⟨howner, hrelative, hcompile⟩ := compile_edited
  simp only [Compiler.handleChange, howner, hrelative, hcompile, Disk.refreshBundles,
    bundlesOf_app, Disk.buildBundles, buildBundle_bundle, buildBundle_astray, Except.map]
  rfl

/-- The report leaves the bundle out that was written. -/
theorem not_reportsBundles_edited : ¬compiler.ReportsBundles edited ⟨"/app/l.js"⟩ := by
  intro h
  have hbundles := h _ _ handleChange_edited
  rw [bundlesWritten_edited] at hbundles
  simp at hbundles

/-- The second bundle fails after the first one was written, so the file of that one is there and
the report does not have it. -/
theorem bundles_of_edited :
    ∃ change last, compiler.handleChange edited ⟨"/app/l.js"⟩ = (some change, last) ∧
      change.bundleError = some (.write ⟨"/app"⟩ .isADirectory) ∧ change.bundles = [] ∧
      compiler.bundlesWritten edited ⟨"/app/l.js"⟩ = [⟨"/a.js"⟩] ∧
      (last.fileAt? (compiled.target ⟨"/a.js"⟩)).isSome = true := by
  obtain ⟨-, m, relative, outcome, below, howner, hrelative, hcompile, -, -, hthere, -⟩ :=
    Compiler.bundles_of_handleChange handleChange_edited
  obtain rfl := Option.some.inj (compile_edited.1.symm.trans howner)
  obtain rfl := Option.some.inj (compile_edited.2.1.symm.trans hrelative)
  obtain ⟨-, rfl⟩ := Prod.mk.inj (compile_edited.2.2.symm.trans hcompile)
  rw [bundlesWritten_edited] at hthere
  exact ⟨_, _, handleChange_edited, rfl, rfl, bundlesWritten_edited,
    hthere _ List.mem_cons_self⟩

end Misplaced

end Polybuild
