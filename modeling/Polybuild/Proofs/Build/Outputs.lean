import Polybuild.Proofs.Build.Again
import Polybuild.Proofs.Build.Entries
import Polybuild.Proofs.Module.Listed
import Polybuild.Proofs.Module.Renamed

/-!
# What a build leaves in its outputs

The sources of a module are compiled one after the other, and sources whose names differ in their
extensions only may be rendered into one file, where the last one stays. An output keeps the text of
its own source as long as no later source of the build is rendered into the same file.
-/

namespace Polybuild

/-- The destination roots of different languages stand in different places. -/
def Module.RootsApart (m : Module) (d : Disk) (langs : List String) : Prop :=
  ∀ lang ∈ langs, ∀ lang' ∈ langs, lang ≠ lang' → ∀ root ∈ m.destRoot? lang,
    ∀ root' ∈ m.destRoot? lang', d.target root ≠ d.target root'

theorem Module.RootsApart.congr {m : Module} {d d' : Disk} {langs : List String}
    (h : m.RootsApart d langs) (hwork : d'.workDir = d.workDir) : m.RootsApart d' langs := by
  intro lang hlang lang' hlang' hne root hroot root' hroot'
  rw [Disk.target_congr hwork, Disk.target_congr hwork]
  exact h lang hlang lang' hlang' hne root hroot root' hroot'

namespace Disk

variable {d d' : Disk} {p : Path} {writes : List (Path × String)}

/-- A file that was placed is read as before while its bytes stay. -/
theorem Extends.read_eq (h : Extends d d') (hp : d.Placed p)
    (hfile : d'.fileAt? (d.target p) = d.fileAt? (d.target p)) : d'.read p = d.read p := by
  obtain ⟨content, hcontent⟩ := Option.isSome_iff_exists.1 hp.file
  have hcontent' := hfile.trans hcontent
  rw [fileAt?_eq_some_iff] at hcontent hcontent'
  simp only [read, h.locate hp.locate, hp.locate, Except.bind, hcontent, hcontent']

/-- Where the texts for one file are one text, that is the last one. -/
theorem lastText?_of_forall {write : Path × String} (hmem : write ∈ writes)
    (h : ∀ other ∈ writes, d.target other.1 = d.target write.1 → other.2 = write.2) :
    d.lastText? writes (d.target write.1) = some write.2 := by
  cases hfind : writes.reverse.find? fun other => decide (d.target other.1 = d.target write.1) with
  | none =>
      have hno := List.find?_eq_none.1 hfind write (List.mem_reverse.2 hmem)
      simp at hno
  | some other =>
      have hother := List.mem_reverse.1 (List.mem_of_find?_eq_some hfind)
      have htarget : d.target other.1 = d.target write.1 := by simpa using List.find?_some hfind
      simp [lastText?, hfind, h other hother htarget]

end Disk

namespace Compiler

variable {α : Type} {c : Compiler α} {d d' : Disk} {m : Module} {e : FileEntry}
  {before after entries : List FileEntry} {relatives : List String} {l : Location}
  {relative name : String} {lang : Option String} {report : BuildReport} {outputs : List Path}

/-- The texts for one place are one text, if the destination roots are apart. -/
theorem text_eq_of_outputs {plain : String} {content : Content α} {langs : List String}
    (hplain : Module.Canonical plain) (hroots : m.RootsApart d langs)
    {write other : Path × String} (hwrite : write ∈ c.outputs m plain content langs)
    (hother : other ∈ c.outputs m plain content langs)
    (htarget : d.target other.1 = d.target write.1) : other.2 = write.2 := by
  have hmem : ∀ w ∈ c.outputs m plain content langs, ∃ lang ∈ langs,
      m.destFile? plain lang = some w.1 ∧ c.rendered? content lang = some w.2 := by
    intro w hw
    obtain ⟨lang, hlang, hsome⟩ := List.mem_filterMap.1 hw
    obtain ⟨file, hfile, hsome⟩ := Option.bind_eq_some_iff.1 hsome
    obtain ⟨text, htext, rfl⟩ := Option.map_eq_some_iff.1 hsome
    exact ⟨lang, hlang, hfile, htext⟩
  obtain ⟨lang, hlang, hfile, htext⟩ := hmem write hwrite
  obtain ⟨lang', hlang', hfile', htext'⟩ := hmem other hother
  by_cases hsame : lang' = lang
  · subst hsame
    exact Option.some.inj (htext'.symm.trans htext)
  · obtain ⟨root', root, hroot', hroot, heq⟩ :=
      Module.target_destRoot_eq hplain hfile' hfile htarget
    exact absurd heq (hroots lang' hlang' lang hlang hsame root' hroot' root hroot)

/-- Right after a request was met, each output holds the text that was rendered for it. -/
theorem read_of_compile {file : Path} {plain : String}
    (h : c.compile d m relative lang = (.ok (.compiled outputs), d'))
    (hsource : m.sourceFile? relative = some file) (hplain : m.relativePath? file = some plain)
    (hcanonical : Module.Canonical plain) (hroots : m.RootsApart d (c.languages lang)) :
    ∃ writes, c.Renders d m relative (c.languages lang) writes ∧ outputs = writes.map (·.1) ∧
      ∀ write ∈ writes, d'.Placed write.1 ∧ d'.read write.1 = .ok write.2.toUTF8 := by
  obtain ⟨writes, hplan, hwritten, rfl⟩ := exists_writeAll_of_compile h
  obtain ⟨hfilled, hplaced⟩ := Disk.writeAll_eq_none hwritten
  refine ⟨writes, (plan_eq_write hplan).2, rfl, fun write hwrite => ⟨hplaced write hwrite, ?_⟩⟩
  obtain ⟨text, hlast, hread⟩ := hfilled.read hplaced hwrite
  rw [plan_eq_planFile hsource hplain] at hplan
  obtain ⟨-, -, -, kind, raw, content, -, -, -, rfl⟩ := planFile_eq_write hplan
  rw [Disk.lastText?_of_forall hwrite fun other hother htarget =>
    text_eq_of_outputs hcanonical hroots hwrite hother htarget] at hlast
  rw [hread, Option.some.inj hlast]

/-- A build keeps the files that no source of it is rendered into, but for skipped ones. -/
theorem fileAt?_of_compileEach (h : c.compileEach d m relatives = (entries, d'))
    (hl : ∀ e ∈ entries, e.isSkipped = false →
      ∀ q ∈ c.destinations m e.path (c.languages none), d.target q ≠ l) :
    d'.fileAt? l = d.fileAt? l := by
  induction entries generalizing d relatives with
  | nil =>
      obtain rfl := paths_of_compileEach h
      obtain ⟨-, rfl⟩ := Prod.mk.inj h
      rfl
  | cons e entries ih =>
      obtain ⟨rest, result, below, -, hcompile, he, hrest⟩ := compileEach_eq_cons h
      rw [List.forall_mem_cons] at hl
      have hwork := (placings_of_compile hcompile).extension.workDir
      have hlater : d'.fileAt? l = below.fileAt? l := by
        apply ih hrest
        intro other hother hskipped q hq
        rw [Disk.target_congr hwork]
        exact hl.2 other hother hskipped q hq
      rw [hlater]
      by_cases hskipped : e.isSkipped = true
      · rw [eq_of_isSkipped hcompile (he ▸ hskipped)]
      · apply (placings_of_compile hcompile).fileAt?_eq
        intro disk q _ hq
        exact hl.1 (by simpa using hskipped) q hq.mem

/-- The outputs of an entry that no later source is rendered into, unless it is skipped, hold at the
end what the source of the entry was rendered to. -/
theorem outputs_kept (hnamed : d.Named) (hm : c.project.catalog.get? name = some m)
    (hroots : m.RootsApart d (c.languages none)) (h : c.compileModule d name = (.ok report, d'))
    (hfiles : report.files = before ++ e :: after) (hstatus : e.status = .compiled outputs) :
    ∃ writes, c.Renders (c.compileEach d m (before.map (·.path))).2 m e.path (c.languages none)
        writes ∧ outputs = writes.map (·.1) ∧
      ∀ write ∈ writes,
        (∀ later ∈ after, later.isSkipped = false →
          ∀ q ∈ c.destinations m later.path (c.languages none), d.target q ≠ d.target write.1) →
        d'.read write.1 = .ok write.2.toUTF8 := by
  obtain ⟨m', hm', hrun⟩ := compileEach_of_compileModule h
  obtain rfl := Option.some.inj (hm'.symm.trans hm)
  rw [hfiles] at hrun
  obtain ⟨now, result, below, hbefore, hcompile, hentry, hafter⟩ := compileEach_split hrun
  have hresult : status result = .compiled outputs := by
    rw [← hstatus, hentry]
  obtain rfl := status_eq_compiled hresult
  have hlisted : e.path ∈ d.sources m' := by
    rw [paths_of_compileEach hrun]
    simp
  obtain ⟨file, plain, hsource, hplain, hcanonical⟩ :=
    Module.exists_sourceFile?_of_mem_sources hnamed hlisted
  have hworkNow := (placings_of_compileEach hbefore).extension.workDir
  have hworkBelow := (placings_of_compile hcompile).extension.workDir.trans hworkNow
  obtain ⟨writes, hrenders, houtputs, hread⟩ :=
    read_of_compile hcompile hsource hplain hcanonical (hroots.congr hworkNow)
  rw [hbefore]
  refine ⟨writes, hrenders, houtputs, fun write hwrite hlater => ?_⟩
  obtain ⟨hplaced, hnow⟩ := hread write hwrite
  -- the requests behind the entry leave the bytes of the output
  have hext := (placings_of_compileEach hafter).extension
  rw [hext.read_eq hplaced, hnow]
  apply fileAt?_of_compileEach hafter
  intro later hmem hskipped q hq
  rw [Disk.target_congr hworkBelow, Disk.target_congr hworkBelow]
  exact hlater later hmem hskipped q hq

/-- Every output of a build of a module holds what the source of its entry was rendered to. -/
def KeepsOutputs (c : Compiler α) (d : Disk) (name : String) : Prop :=
  ∀ m report d', c.project.catalog.get? name = some m → m.RootsApart d (c.languages none) →
    c.compileModule d name = (.ok report, d') →
    ∀ before e after outputs, report.files = before ++ e :: after → e.status = .compiled outputs →
      ∃ writes, c.Renders (c.compileEach d m (before.map (·.path))).2 m e.path (c.languages none)
          writes ∧ outputs = writes.map (·.1) ∧
        ∀ write ∈ writes, d'.read write.1 = .ok write.2.toUTF8

/-- What a source is rendered into are the outputs for its content. -/
theorem Renders.exists_content {langs : List String} {writes : List (Path × String)}
    (h : c.Renders d m relative langs writes) :
    ∃ file plain kind text content, m.sourceFile? relative = some file ∧
      m.relativePath? file = some plain ∧ sourceKind? plain = some kind ∧
      d.readText file = .ok text ∧ c.content m file kind text = .ok content ∧
      writes = c.outputs m plain content langs := by
  cases h with
  | dialect source plainly kind read parsed =>
      refine ⟨_, _, _, _, _, source, plainly, kind, read, ?_, (outputs_tree ..).symm⟩
      simp [Compiler.content, parsed]
  | native source plainly kind read =>
      exact ⟨_, _, _, _, _, source, plainly, kind, read, rfl, (outputs_raw ..).symm⟩

theorem Renders.unique {langs : List String} {writes others : List (Path × String)}
    (h : c.Renders d m relative langs writes) (h' : c.Renders d m relative langs others) :
    writes = others := by
  obtain ⟨file, plain, kind, text, content, hsource, hplain, hkind, hread, hcontent, rfl⟩ :=
    h.exists_content
  obtain ⟨file', plain', kind', text', content', hsource', hplain', hkind', hread', hcontent',
    rfl⟩ := h'.exists_content
  obtain rfl := Option.some.inj (hsource.symm.trans hsource')
  obtain rfl := Option.some.inj (hplain.symm.trans hplain')
  obtain rfl := Option.some.inj (hkind.symm.trans hkind')
  obtain rfl := Except.ok.inj (hread.symm.trans hread')
  obtain rfl := Except.ok.inj (hcontent.symm.trans hcontent')
  rfl

end Compiler

/-! ## Two sources with one output -/

namespace Colliding

def m : Module :=
  (Module.ofManifest? ⟨"/m"⟩ { ModuleManifest.empty with
    name := some "M", src := some ".", dest := Keyed.empty.insert "es6" "../o" }).get (by decide)

/-- A compiler that ends each translation with a mark. -/
def compiler : Compiler String where
  project := Project.ofParts ⟨"/"⟩ { ProjectManifest.empty with languages := ["es6"] }
    (Catalog.ofModules [m])
  parse := fun text _ => .ok text
  translators := Translators.empty.insert "es6" (· ++ ";")

/-- A source in the dialect, a native one beside it, and one with another name. -/
def start : Disk where
  entries := [(["m"], .directory), (["a.bay", "m"], .file "x".toUTF8),
    (["a.js", "m"], .file "y".toUTF8), (["b.js", "m"], .file "z".toUTF8)]
  workDir := []
  distinct := by simp
  housed := by
    intro l e h
    simp only [List.mem_cons, Prod.mk.injEq, List.not_mem_nil, or_false] at h
    rcases h with h | h | h | h <;> simp [h]

theorem sources_start : start.sources m = ["/a.bay", "/a.js", "/b.js"] := by
  have hroot : m.sourceRoot? = some ⟨"/m"⟩ := by decide
  have hlisted : Disk.listed ⟨"/m"⟩ = (⟨"/m"⟩, []) := by decide
  have hdir : start.directory? ⟨"/m"⟩ = some ["m"] := by decide
  have hfiles : start.filesBelow ["m"] = [["a.bay"], ["a.js"], ["b.js"]] := by decide
  simp only [Disk.sources, hroot, hlisted, hdir, hfiles]
  -- The names stand in order already.
  rw [List.mergeSort_of_pairwise] <;> decide +kernel

theorem named_start : start.Named :=
  Disk.named_of_forall_mem (by simp [start, Location.Proper, Path.IsName])
    (by simp [start, Location.Proper])

theorem rootsApart_m : m.RootsApart start (compiler.languages none) := by
  have hlangs : compiler.languages none = ["es6"] := rfl
  rw [hlangs]
  intro lang hlang lang' hlang' hne
  rw [List.mem_singleton] at hlang hlang'
  exact absurd (hlang.trans hlang'.symm) hne

/-- All three are compiled, the first two into one file. -/
theorem compileModule_start :
    compiler.compileModule start "M" =
      (.ok ⟨[⟨"M", "/a.bay", .compiled [⟨"/o/a.js"⟩]⟩, ⟨"M", "/a.js", .compiled [⟨"/o/a.js"⟩]⟩,
        ⟨"M", "/b.js", .compiled [⟨"/o/b.js"⟩]⟩], 0⟩,
      (compiler.compileEach start m ["/a.bay", "/a.js", "/b.js"]).2) := by
  have hm : compiler.project.catalog.get? "M" = some m := rfl
  simp only [Compiler.compileModule, hm, Compiler.compileSources, sources_start]
  decide +kernel

/-- The text of the first source is gone at the end. -/
theorem not_keepsOutputs_start : ¬compiler.KeepsOutputs start "M" := by
  intro h
  obtain ⟨writes, hrenders, -, hread⟩ :=
    h m _ _ rfl rootsApart_m compileModule_start [] _ _ _ rfl rfl
  have hplan : compiler.plan start m "/a.bay" none = .write [(⟨"/o/a.js"⟩, "x;")] := by
    decide +kernel
  obtain rfl := hrenders.unique (Compiler.plan_eq_write hplan).2
  have hend : (compiler.compileEach start m ["/a.bay", "/a.js", "/b.js"]).2.read ⟨"/o/a.js"⟩ =
      .ok "y".toUTF8 := by
    decide +kernel
  have htext := hread _ List.mem_cons_self
  rw [hend] at htext
  exact absurd (Except.ok.inj htext) (by decide)

/-- The text of the second source stays, since the third is rendered into another file. -/
theorem second_output_kept :
    ∃ report d', compiler.compileModule start "M" = (.ok report, d') ∧
      ⟨"M", "/a.js", .compiled [⟨"/o/a.js"⟩]⟩ ∈ report.files ∧
      ∃ writes : List (Path × String), [⟨"/o/a.js"⟩] = writes.map (·.1) ∧
        ∀ write ∈ writes, d'.read write.1 = .ok write.2.toUTF8 := by
  have hm : compiler.project.catalog.get? "M" = some m := rfl
  have hfiles : ∀ first second third : FileEntry,
      [first, second, third] = [first] ++ second :: [third] := fun _ _ _ => rfl
  have hdestinations :
      compiler.destinations m "/b.js" (compiler.languages none) = [⟨"/o/b.js"⟩] := by
    decide +kernel
  obtain ⟨writes, -, houtputs, hkept⟩ := Compiler.outputs_kept named_start hm rootsApart_m
    compileModule_start (hfiles _ _ _) rfl
  refine ⟨_, _, compileModule_start, by simp, writes, houtputs, fun write hwrite => ?_⟩
  apply hkept write hwrite
  intro later hlater _ q hq
  rw [List.mem_singleton] at hlater
  rw [hlater, hdestinations, List.mem_singleton] at hq
  have hdest : write.1 = ⟨"/o/a.js"⟩ := by
    rw [← List.mem_singleton, houtputs]
    exact List.mem_map_of_mem hwrite
  rw [hq, hdest]
  decide

end Colliding

end Polybuild
