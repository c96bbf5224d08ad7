import Polybuild.Proofs.Build.Again
import Polybuild.Proofs.Build.Entries
import Polybuild.Proofs.Disk.Blocked
import Polybuild.Proofs.Module.Relisted
import Polybuild.Proofs.Module.Renamed
import Polybuild.Proofs.Requirements.Walk

/-!
# Building twice

A build that leaves the sources as they are changes nothing when it is repeated. The second run is
carried along the first one, request by request: every module lists the same sources, every source
is read as before, and every file is placed again, or fails again for the same reason. `Retraced`
relates the disks of the two runs at the same request. A file of the second run is what it was at
that time of the first run, or it was not written by then, and is still what the first run left. So
also where several sources have one output, the last one of them has it in the end.
-/

namespace Polybuild

namespace Disk

variable {first last now now' again d d' : Disk} {p : Path} {text : String}
  {writes : List (Path × String)}

/-- A run from `first` to `last` has come to `now`; the same run, started from `last`, has come to
`again`. -/
structure Retraced (first last now again : Disk) : Prop where
  before : Extends first now
  after : Extends now last
  extension : Extends last again
  directories : ∀ l, again.isDirectoryAt l = true → last.isDirectoryAt l = true
  files : ∀ l, again.fileAt? l = now.fileAt? l ∨
    (now.fileAt? l = first.fileAt? l ∧ again.fileAt? l = last.fileAt? l)

theorem Retraced.start (h : Extends first last) : Retraced first last first last where
  before := .refl first
  after := h
  extension := .refl last
  directories := fun _ hl => hl
  files := fun _ => Or.inr ⟨rfl, rfl⟩

/-- At the end, the second run has left all as it was. -/
theorem Retraced.entryAt?_eq (h : Retraced first last last again) (l : Location) :
    again.entryAt? l = last.entryAt? l := by
  apply Disk.entryAt?_eq
  · rw [Bool.eq_iff_iff]
    exact ⟨h.directories l, h.extension.directories l⟩
  · exact (h.files l).elim id And.right

theorem Retraced.across (h : Retraced first last now again) : Extends now again :=
  h.after.trans h.extension

/-- A file is placed in the second run as in the first one. -/
theorem Retraced.place {fault : Option Fault} (h : Retraced first last now again)
    (hp : p.IsNormal) (hname : p.fileName?.isSome = true)
    (hwork : first.isDirectoryAt first.workDir = true)
    (hplace : now.place p text = (fault, now')) (hafter : Extends now' last) :
    ∃ again', again.place p text = (fault, again') ∧ Retraced first last now' again' := by
  have hbefore := h.before.trans (extends_of_place hplace)
  cases fault with
  | some fault =>
      have hworkNow := h.before.isDirectoryAt_workDir hwork
      refine ⟨again, (hafter.trans h.extension).place_again hp hname hworkNow hplace,
        hbefore, hafter, h.extension, h.directories, fun l => ?_⟩
      rw [(place_eq_some hplace).files l]
      exact h.files l
  | none =>
      obtain ⟨hplaced, below, hopened, hwrote⟩ := place_eq_none hplace
      obtain ⟨again', hagain, hwroteAgain⟩ :=
        exists_place_of_placed ((hafter.trans h.extension).placed hplaced) text
      refine ⟨again', hagain, hbefore, hafter, h.extension.trans hwroteAgain.extension,
        fun l hl => h.directories l ((hwroteAgain.directories l).symm.trans hl), fun l => ?_⟩
      have htarget : below.target p = again.target p := by
        rw [target_congr hopened.extension.workDir, target_congr h.across.workDir]
      rw [hwroteAgain.fileAt? l, hwrote.fileAt? l, htarget, hopened.files l]
      by_cases hl : l = again.target p
      · simp [hl]
      · simpa [hl] using h.files l

/-- Files are written in the second run as in the first one. -/
theorem Retraced.writeAll {error : Option CompileError} (h : Retraced first last now again)
    (hpaths : ∀ write ∈ writes, write.1.IsNormal ∧ write.1.fileName?.isSome = true)
    (hwork : first.isDirectoryAt first.workDir = true)
    (hwritten : now.writeAll writes = (error, now')) (hafter : Extends now' last) :
    ∃ again', again.writeAll writes = (error, again') ∧ Retraced first last now' again' := by
  induction writes generalizing now again with
  | nil =>
      obtain ⟨rfl, rfl⟩ := Prod.mk.inj hwritten
      exact ⟨again, rfl, h⟩
  | cons write rest ih =>
      obtain ⟨file, text⟩ := write
      rw [List.forall_mem_cons] at hpaths
      obtain ⟨⟨hnormal, hname⟩, hrest⟩ := hpaths
      rw [Disk.writeAll] at hwritten
      split at hwritten
      · rename_i fault below hplace
        obtain ⟨rfl, rfl⟩ := Prod.mk.inj hwritten
        obtain ⟨again', hagain, hnext⟩ := h.place hnormal hname hwork hplace hafter
        exact ⟨again', by simp only [Disk.writeAll, hagain], hnext⟩
      · rename_i below hplace
        have hrun : Placings (fun _ _ => True) below now' :=
          Compiler.placings_of_writeAll hwritten fun _ _ _ _ => trivial
        have hbelow := hrun.extension
        obtain ⟨again', hagain, hnext⟩ := h.place hnormal hname hwork hplace (hbelow.trans hafter)
        obtain ⟨again'', hlater, hend⟩ := ih hnext hrest hwritten
        exact ⟨again'', by simp only [Disk.writeAll, hagain, hlater], hend⟩

/-- While the sources of a module stay, they are the same in both runs. -/
theorem Retraced.sameSources {m : Module} (h : Retraced first last now again)
    (hsame : m.SameSources first last) : m.SameSources now again := by
  intro root hroot p hp
  have hfile := hsame root hroot p hp
  rw [target_congr h.before.workDir]
  rcases h.files (first.target p) with heq | ⟨hnow, hagain⟩
  · exact heq
  · rw [hagain, hfile, hnow]

end Disk

namespace Compiler

open Disk (Extends Retraced)

variable {α : Type} {c : Compiler α} {d d' first last now now' again : Disk} {m : Module}
  {relative : String} {relatives : List String} {report : BuildReport}

/-- What is to be done about a source depends on the files below the source root only. -/
theorem plan_eq_of_sameSources {file : Path} {plain : String} {lang : Option String}
    (hsame : m.SameSources d d') (hext : Extends d d') (hwork : d.isDirectoryAt d.workDir = true)
    (hsource : m.sourceFile? relative = some file) (hplain : m.relativePath? file = some plain)
    (hcanonical : Module.Canonical plain) :
    c.plan d' m relative lang = c.plan d m relative lang := by
  obtain ⟨plain', hplain', hfile⟩ := Module.exists_relativePath?_of_sourceFile? hsource
  obtain rfl := Option.some.inj (hplain.symm.trans hplain')
  obtain ⟨root, hroot, hbeneath⟩ := Module.sourceFile?_eq_some_iff.1 hsource
  have hinside := Module.strictlyInside_of_canonical hcanonical hfile hroot
  have hbytes := hsame root hroot file hinside
  have hthere := hext.isFile_eq (Path.plain_of_beneath? hbeneath) hwork hbytes
  rw [plan_eq_planFile hsource hplain, plan_eq_planFile hsource hplain, planFile, planFile, hthere]
  cases hisFile : d.isFile file with
  | false => rfl
  | true => rw [hext.readText_eq hisFile hbytes]

/-- What is written for a listed source goes to normal paths that end in names. -/
theorem isNormal_of_plan {file : Path} {plain : String} {lang : Option String}
    {writes : List (Path × String)} (hsource : m.sourceFile? relative = some file)
    (hplain : m.relativePath? file = some plain) (hcanonical : Module.Canonical plain)
    (h : c.plan d m relative lang = .write writes) :
    ∀ write ∈ writes, write.1.IsNormal ∧ write.1.fileName?.isSome = true := by
  intro write hwrite
  have hmem : write.1 ∈ c.destinations m relative (c.languages lang) := by
    rw [← (destinations_of_plan h).1]
    exact List.mem_map_of_mem hwrite
  obtain ⟨file', plain', hsource', hplain', -, hdest⟩ := mem_destinations.1 hmem
  obtain rfl := Option.some.inj (hsource.symm.trans hsource')
  obtain rfl := Option.some.inj (hplain.symm.trans hplain')
  obtain ⟨kind, lang', -, -, -, hfile⟩ := mem_plainDestinations.1 hdest
  exact Module.isNormal_of_destFile? hcanonical hfile

/-- A request for a listed source is met in the second run as in the first one. -/
theorem retraced_of_compile {file : Path} {plain : String} {lang : Option String}
    {result : Except CompileError Outcome} (h : Retraced first last now again)
    (hwork : first.isDirectoryAt first.workDir = true) (hsame : m.SameSources first last)
    (hsource : m.sourceFile? relative = some file) (hplain : m.relativePath? file = some plain)
    (hcanonical : Module.Canonical plain)
    (hcompile : c.compile now m relative lang = (result, now')) (hafter : Extends now' last) :
    ∃ again', c.compile again m relative lang = (result, again') ∧
      Retraced first last now' again' := by
  have hworkNow := h.before.isDirectoryAt_workDir hwork
  have hplan : c.plan again m relative lang = c.plan now m relative lang :=
    plan_eq_of_sameSources (h.sameSources hsame) h.across hworkNow hsource hplain hcanonical
  unfold compile at hcompile ⊢
  rw [hplan]
  split at hcompile
  · obtain ⟨rfl, rfl⟩ := Prod.mk.inj hcompile
    exact ⟨again, rfl, h⟩
  · obtain ⟨rfl, rfl⟩ := Prod.mk.inj hcompile
    exact ⟨again, rfl, h⟩
  · rename_i writes hwrite
    have hpaths := isNormal_of_plan hsource hplain hcanonical hwrite
    split at hcompile
    all_goals
      rename_i hwritten
      obtain ⟨rfl, rfl⟩ := Prod.mk.inj hcompile
      obtain ⟨again', hagain, hnext⟩ := h.writeAll hpaths hwork hwritten hafter
      exact ⟨again', by simp only [hagain], hnext⟩

/-- The listed sources of a module are compiled in the second run as in the first one. -/
theorem retraced_of_compileEach {entries : List FileEntry} (h : Retraced first last now again)
    (hwork : first.isDirectoryAt first.workDir = true) (hsame : m.SameSources first last)
    (hlisted : ∀ relative ∈ relatives, ∃ file plain, m.sourceFile? relative = some file ∧
      m.relativePath? file = some plain ∧ Module.Canonical plain)
    (hrun : c.compileEach now m relatives = (entries, now')) (hafter : Extends now' last) :
    ∃ again', c.compileEach again m relatives = (entries, again') ∧
      Retraced first last now' again' := by
  induction relatives generalizing now again entries with
  | nil =>
      obtain ⟨rfl, rfl⟩ := Prod.mk.inj hrun
      exact ⟨again, rfl, h⟩
  | cons relative rest ih =>
      rw [List.forall_mem_cons] at hlisted
      obtain ⟨⟨file, plain, hsource, hplain, hcanonical⟩, hothers⟩ := hlisted
      cases hcompile : c.compile now m relative none with
      | mk result below =>
          cases hrest : c.compileEach below m rest with
          | mk others end' =>
              simp only [compileEach, hcompile, hrest, Prod.mk.injEq] at hrun
              obtain ⟨rfl, rfl⟩ := hrun
              have hbelow := (placings_of_compileEach hrest).extension
              obtain ⟨between, hagain, hnext⟩ := retraced_of_compile h hwork hsame hsource hplain
                hcanonical hcompile (hbelow.trans hafter)
              obtain ⟨again', hlater, hend⟩ := ih hnext hothers hrest
              exact ⟨again', by simp only [compileEach, hagain, hlater], hend⟩

/-- A module is compiled in the second run as in the first one. -/
theorem retraced_of_compileModule {name : String} {result : Except CompileError BuildReport}
    (h : Retraced first last now again) (hwork : first.isDirectoryAt first.workDir = true)
    (hnow : now.Named) (hagain : again.Named)
    (hsame : ∀ m ∈ c.project.catalog.modules, m.SameSources first last)
    (hrun : c.compileModule now name = (result, now')) (hafter : Extends now' last) :
    ∃ again', c.compileModule again name = (result, again') ∧
      Retraced first last now' again' := by
  unfold compileModule compileSources at hrun ⊢
  cases hm : c.project.catalog.get? name with
  | none =>
      simp only [hm] at hrun ⊢
      obtain ⟨rfl, rfl⟩ := Prod.mk.inj hrun
      exact ⟨again, rfl, h⟩
  | some m =>
      simp only [hm] at hrun ⊢
      have hsources := hsame m (Catalog.mem_of_get? hm)
      rw [(h.sameSources hsources).sources_eq h.across hnow hagain
        (h.before.isDirectoryAt_workDir hwork)]
      cases heach : c.compileEach now m (now.sources m) with
      | mk entries below =>
          rw [heach] at hrun
          obtain ⟨rfl, rfl⟩ := Prod.mk.inj hrun
          obtain ⟨again', hlater, hnext⟩ := retraced_of_compileEach h hwork hsources
            (fun relative hmem => Module.exists_sourceFile?_of_mem_sources hnow hmem) heach hafter
          exact ⟨again', by simp only [hlater], hnext⟩

theorem retraced_of_compileModules {names : List String} {before : BuildReport}
    {result : Except CompileError BuildReport} (h : Retraced first last now again)
    (hwork : first.isDirectoryAt first.workDir = true) (hnow : now.Named) (hagain : again.Named)
    (hsame : ∀ m ∈ c.project.catalog.modules, m.SameSources first last)
    (hrun : c.compileModules now before names = (result, now')) (hafter : Extends now' last) :
    ∃ again', c.compileModules again before names = (result, again') ∧
      Retraced first last now' again' := by
  induction names generalizing now again before with
  | nil =>
      obtain ⟨rfl, rfl⟩ := Prod.mk.inj hrun
      exact ⟨again, rfl, h⟩
  | cons name rest ih =>
      rw [compileModules] at hrun
      split at hrun
      · rename_i error below hmodule
        obtain ⟨rfl, rfl⟩ := Prod.mk.inj hrun
        obtain ⟨again', hlater, hnext⟩ :=
          retraced_of_compileModule h hwork hnow hagain hsame hmodule hafter
        exact ⟨again', by simp only [compileModules, hlater], hnext⟩
      · rename_i more below hmodule
        have hbelow := (placings_of_compileModules hrun).extension
        obtain ⟨between, hlater, hnext⟩ :=
          retraced_of_compileModule h hwork hnow hagain hsame hmodule (hbelow.trans hafter)
        obtain ⟨again', hend, hlast⟩ := ih hnext ((placings_of_compileModule hmodule).named hnow)
          ((placings_of_compileModule hlater).named hagain) hrun
        exact ⟨again', by simp only [compileModules, hlater, hend], hlast⟩

/-- A build that changes no source changes nothing when it is repeated, whatever has failed in it:
the report is the same, and all directories and files are as the first build left them. -/
theorem compileAll_repeated (hnamed : d.Named) (hwork : d.isDirectoryAt d.workDir = true)
    (h : c.compileAll d = (.ok report, d'))
    (hsame : ∀ m ∈ c.project.catalog.modules, m.SameSources d d') :
    ∃ d'', c.compileAll d' = (.ok report, d'') ∧ d''.workDir = d'.workDir ∧
      ∀ l, d''.entryAt? l = d'.entryAt? l := by
  have hrun := placings_of_compileAll h
  have hlater := hrun.named hnamed
  have hretraced : Retraced d d' d d' := .start hrun.extension
  unfold compileAll at h ⊢
  cases horder : c.project.order c.project.catalog.names with
  | error cycle => simp [horder] at h
  | ok names =>
      simp only [horder] at h ⊢
      obtain ⟨d'', hagain, hend⟩ :=
        retraced_of_compileModules hretraced hwork hnamed hlater hsame h (.refl d')
      exact ⟨d'', hagain, hend.extension.workDir, hend.entryAt?_eq⟩

end Compiler

/-! ## Twice halfway

The translation of a source into the first language is written, but into the second one it cannot
be, since a file stands where the directory should be made. Then the output of a native source takes
the place of the one that was written. -/

namespace Halfway

def m : Module :=
  (Module.ofManifest? ⟨"/m"⟩ { ModuleManifest.empty with
    name := some "M", src := some ".",
    dest := (Keyed.empty.insert "es6" "../o").insert "php" "../p" }).get (by decide)

def compiler : Compiler String where
  project := Project.ofParts ⟨"/"⟩ { ProjectManifest.empty with languages := ["es6", "php"] }
    (Catalog.ofModules [m])
  parse := fun text _ => .ok text
  translators := (Translators.empty.insert "es6" (· ++ ";")).insert "php" (· ++ "?")

/-- A source in the dialect, a native one, and a file in the place of a destination. -/
def start : Disk where
  entries := [(["m"], .directory), (["a.bay", "m"], .file "x".toUTF8),
    (["a.js", "m"], .file "y".toUTF8), (["p"], .file "z".toUTF8)]
  workDir := []
  distinct := by simp
  housed := by
    intro l e h
    simp only [List.mem_cons, Prod.mk.injEq, List.not_mem_nil, or_false] at h
    rcases h with h | h | h | h <;> simp [h]

/-- The disk that a build leaves. -/
def built : Disk where
  entries := start.entries ++ [(["o"], .directory), (["a.js", "o"], .file "y".toUTF8)]
  workDir := []
  distinct := by simp [start]
  housed := by
    intro l e h
    simp only [start, List.cons_append, List.nil_append, List.mem_cons, Prod.mk.injEq,
      List.not_mem_nil, or_false] at h
    rcases h with h | h | h | h | h | h <;> simp [h, start]

def report : BuildReport :=
  ⟨[⟨"M", "/a.bay", .failed "Failed to write '/p/a.php': File exists (os error 17)"⟩,
    ⟨"M", "/a.js", .compiled [⟨"/o/a.js"⟩]⟩], 0⟩

theorem sources_start : start.sources m = ["/a.bay", "/a.js"] := by
  have hroot : m.sourceRoot? = some ⟨"/m"⟩ := by decide
  have hlisted : Disk.listed ⟨"/m"⟩ = (⟨"/m"⟩, []) := by decide
  have hdir : start.directory? ⟨"/m"⟩ = some ["m"] := by decide
  have hfiles : start.filesBelow ["m"] = [["a.bay"], ["a.js"]] := by decide
  simp only [Disk.sources, hroot, hlisted, hdir, hfiles]
  -- The names stand in order already.
  rw [List.mergeSort_of_pairwise] <;> decide +kernel

theorem compileAll_start : compiler.compileAll start = (.ok report, built) := by
  have horder : compiler.project.order compiler.project.catalog.names = .ok ["M"] :=
    Requirements.order_singleton (by decide)
  have hm : compiler.project.catalog.get? "M" = some m := rfl
  simp only [Compiler.compileAll, horder, Compiler.compileModules, Compiler.compileModule, hm,
    Compiler.compileSources, sources_start]
  decide +kernel

theorem named_start : start.Named :=
  Disk.named_of_forall_mem (by simp [start, Location.Proper, Path.IsName])
    (by simp [start, Location.Proper])

/-- All that is new stands in another directory. -/
theorem sameSources_m : m.SameSources start built := by
  have hm : m.sourceRoot? = some ⟨"/m"⟩ := by decide
  have htarget : start.target ⟨"/m"⟩ = ["m"] := by decide
  intro root hroot p hp
  obtain rfl := Option.some.inj (hm.symm.trans hroot)
  have hbelow := Module.suffix_target_of_strictlyInside hp (by decide) start
  rw [htarget] at hbelow
  generalize start.target p = l at hbelow
  obtain ⟨front, rfl⟩ := hbelow
  have hdir : (front ++ ["m"] == ["o"]) = false :=
    beq_false_of_ne fun h => by simpa using congrArg List.getLast? h
  have hfile : (front ++ ["m"] == ["a.js", "o"]) = false :=
    beq_false_of_ne fun h => by simpa using congrArg List.getLast? h
  apply Disk.fileAt?_congr
  simp [Disk.entryAt?, built, List.lookup_append, List.lookup_cons, hdir, hfile]

/-- The second build writes the first translation again, fails again, and ends as the first one. -/
theorem halfway_repeated :
    start.Named ∧ start.isDirectoryAt start.workDir = true ∧
      compiler.compileAll start = (.ok report, built) ∧
      (∀ n ∈ compiler.project.catalog.modules, n.SameSources start built) ∧
      ∃ d, compiler.compileAll built = (.ok report, d) ∧ d.workDir = built.workDir ∧
        ∀ l, d.entryAt? l = built.entryAt? l := by
  have hmodules : ∀ n ∈ compiler.project.catalog.modules, n.SameSources start built := by
    intro n hn
    have honly : compiler.project.catalog.modules = [m] := rfl
    rw [honly, List.mem_singleton] at hn
    rw [hn]
    exact sameSources_m
  exact ⟨named_start, rfl, compileAll_start, hmodules,
    Compiler.compileAll_repeated named_start rfl compileAll_start hmodules⟩

end Halfway

end Polybuild
