import Polybuild.Proofs.Build.Again
import Polybuild.Proofs.Build.Entries
import Polybuild.Proofs.Module.Listed

/-!
# Who owns a compiled file

A build of all modules compiles a file under every module that has it below its source root. A later
request for the file alone goes to its owner, the deepest module around it. These are one module
where the owner is the module of the entry, which is always so when the modules are `Separate`; then
the later request writes the outputs of the build again. Elsewhere they may differ: a module within
the source root of another one owns its files, which the build compiles under both.
-/

namespace Polybuild

/-- The source root of each module lies in its directory. It holds the directory of no other module,
and other modules around it lie further out. -/
def Catalog.Separate (c : Catalog) : Prop :=
  ∀ m ∈ c.modules, ∀ root ∈ m.sourceRoot?, m.path.contains root = true ∧
    ∀ n ∈ c.modules, n ≠ m → root.contains n.path = false ∧
      (n.path.contains root = true → Catalog.depth n < Catalog.depth m)

namespace Catalog

variable {c : Catalog} {m : Module} {relative : String} {file : Path}

/-- Of separate modules, the one that has a file below its source root owns it. -/
theorem Separate.owner? (h : c.Separate) (hm : m ∈ c.modules)
    (hsource : m.sourceFile? relative = some file) : c.owner? file = some m := by
  obtain ⟨root, hroot, hbeneath⟩ := Module.sourceFile?_eq_some_iff.1 hsource
  obtain ⟨hinside, hothers⟩ := h m hm root hroot
  obtain ⟨cs, -, hfile, -⟩ :=
    Path.exists_components_of_beneath? (Module.isNormal_of_sourceRoot? hroot) hbeneath
  have hnormal := (Path.isNormal_of_beneath? hbeneath).normalize_eq
  apply owner?_of_forall_lt hm
  · obtain ⟨above, habove⟩ := Path.contains_iff.1 hinside
    rw [Module.containsFile, hnormal, Path.contains_iff]
    exact ⟨above ++ cs, by rw [hfile, habove, List.append_assoc]⟩
  · intro n hn hne hfileIn
    obtain ⟨houtside, hdeeper⟩ := hothers n hn hne
    apply hdeeper
    rw [Module.containsFile, hnormal, Path.contains_iff] at hfileIn
    obtain ⟨below, hbelow⟩ := hfileIn
    -- both the source root and the directory of `n` lie above the file
    rcases List.append_eq_append_iff.1 (hfile.symm.trans hbelow) with
      ⟨rest, hrest, -⟩ | ⟨rest, hrest, -⟩
    · have hwithin : root.contains n.path = true := Path.contains_iff.2 ⟨rest, hrest⟩
      simp [hwithin] at houtside
    · exact Path.contains_iff.2 ⟨rest, hrest⟩

end Catalog

namespace Compiler

open Disk (Placings Extends WritesBundle)

variable {α : Type} {c : Compiler α} {d d' : Disk} {m : Module} {e : FileEntry} {file : Path}
  {relative : String} {report : BuildReport}

theorem compileFile_eq_compile (howner : c.project.catalog.owner? file = some m)
    (hsource : m.sourceFile? relative = some file) (later : Disk) :
    c.compileFile later file = c.compile later m relative none := by
  obtain ⟨plain, hplain, hnamed⟩ := Module.exists_relativePath?_of_sourceFile? hsource
  simp only [compileFile, howner, hplain]
  exact compile_congr (hnamed.trans hsource.symm) later none

/-- An entry of a report and the file of a module that it is about. -/
structure Recorded (c : Compiler α) (report : BuildReport) (e : FileEntry) (m : Module)
    (file : Path) : Prop where
  entry : e ∈ report.files
  known : m ∈ c.project.catalog.modules
  name : e.moduleName = m.name
  source : m.sourceFile? e.path = some file

/-- What a later request for the file of an entry does. It is the request of the build, so it
writes the outputs of the entry and no other file. As nothing keeps a disk from overwriting a file,
it fails only if the file cannot be read or parsed. A change writes bundles besides. -/
structure FollowedUp (c : Compiler α) (d' : Disk) (e : FileEntry) (m : Module) (file : Path) :
    Prop where
  request : ∀ later, c.compileFile later file = c.compile later m e.path none
  change : ∀ later, ∃ change changed, c.handleChange later file = (some change, changed) ∧
    change.moduleName = m.name ∧
    change.outcome = wording (c.compile later m e.path none).1 ∧
    Placings (WritesBundle c.project c.project.manifest.assets)
      (c.compile later m e.path none).2 changed
  outputs : ∀ outputs, e.status = .compiled outputs →
    ∀ later, Extends d' later →
      (∃ below, c.compile later m e.path none = (.ok (.compiled outputs), below) ∧
        ∀ l, (∀ q ∈ outputs, later.target q ≠ l) → below.fileAt? l = later.fileAt? l) ∨
      ∃ error, c.compile later m e.path none = (.error error, later) ∧
        ∃ file, (∃ fault, error = .read file fault) ∨ ∃ refusal, error = .parse m.name file refusal

theorem Built.followedUp (h : c.Built d d' m e)
    (howner : c.project.catalog.owner? file = some m) (hsource : m.sourceFile? e.path = some file) :
    c.FollowedUp d' e m file where
  request := compileFile_eq_compile howner hsource
  change := by
    intro later
    obtain ⟨plain, hplain, hnamed⟩ := Module.exists_relativePath?_of_sourceFile? hsource
    rw [← compile_congr (hnamed.trans hsource.symm) later none]
    exact exists_handleChange howner hplain later
  outputs := by
    intro outputs hstatus later hlater
    obtain ⟨now, result, below, hcompile, hresult, hext⟩ := h.compiled
    obtain rfl := status_eq_compiled (hresult.symm.trans hstatus)
    rcases compile_again hcompile (hext.trans hlater) with ⟨last, hagain⟩ | hfailed
    · refine Or.inl ⟨last, hagain, fun l hl => ?_⟩
      apply (placings_of_compile hagain).fileAt?_eq
      intro disk q _ hq
      apply hl q
      rw [outputs_eq_destinations hagain]
      exact hq.mem
    · exact Or.inr hfailed

/-- The file of an entry is owned by the module of the entry just when no module is deeper around
it, and then later requests for it follow the build up. Separate modules own all that is compiled
under them, and no file is compiled under two of them. -/
theorem owner_of_recorded (h : c.compileAll d = (.ok report, d')) :
    (d.Named → ∀ e ∈ report.files, ∃ m file, c.Recorded report e m file) ∧
      ∀ e m file, c.Recorded report e m file →
        (c.project.catalog.owner? file = some m ↔ c.project.catalog.Deepest m file) ∧
          (c.project.catalog.owner? file = some m → c.FollowedUp d' e m file) ∧
          (c.project.catalog.Separate → c.project.catalog.owner? file = some m ∧
            ∀ e' m', c.Recorded report e' m' file → m' = m) := by
  constructor
  · intro hnamed e he
    obtain ⟨m, hm, hbuilt⟩ := built_of_compileAll h he
    obtain ⟨listing, hlisting, hpath⟩ := hbuilt.listed
    obtain ⟨file, -, hsource, -⟩ := Module.exists_sourceFile?_of_mem_sources (hlisting hnamed) hpath
    exact ⟨m, file, he, hm, hbuilt.name, hsource⟩
  · intro e m file hrecorded
    obtain ⟨m', hm', hbuilt⟩ := built_of_compileAll h hrecorded.entry
    obtain rfl := List.inj_on_of_nodup_map c.project.catalog.distinct hm' hrecorded.known
      (hbuilt.name.symm.trans hrecorded.name)
    refine ⟨Catalog.owner?_eq_some_iff, fun howner => hbuilt.followedUp howner hrecorded.source, ?_⟩
    intro hseparate
    have howner := hseparate.owner? hm' hrecorded.source
    refine ⟨howner, fun e' m hother => ?_⟩
    have howner' := hseparate.owner? hother.known hother.source
    exact Option.some.inj (howner'.symm.trans howner)

/-- Every file of a build is owned by the module that it was compiled under. -/
def OwnersAgree (c : Compiler α) (d : Disk) : Prop :=
  ∀ report d', c.compileAll d = (.ok report, d') → ∀ e m file, c.Recorded report e m file →
    c.project.catalog.owner? file = some m

end Compiler

/-! ## Nested modules

A file in the directory of `inner` is compiled under `outer` as well where the source root of
`outer` is its whole directory. Where it is a directory beside that of `inner`, it is not. -/

namespace Within

def inner : Module :=
  (Module.ofManifest? ⟨"/a/b"⟩ { ModuleManifest.empty with
    name := some "B", src := some ".", dest := Keyed.empty.insert "es6" "../../y" }).get (by decide)

def outer : Module :=
  (Module.ofManifest? ⟨"/a"⟩ { ModuleManifest.empty with
    name := some "A", src := some ".", dest := Keyed.empty.insert "es6" "../x" }).get (by decide)

def compiler : Compiler Unit where
  project := Project.ofParts ⟨"/"⟩ { ProjectManifest.empty with languages := ["es6"] }
    (Catalog.ofModules [outer, inner])
  parse := fun _ _ => .ok ()
  translators := .empty

/-- A source of the inner module. -/
def start : Disk where
  entries := [(["a"], .directory), (["b", "a"], .directory),
    (["t.js", "b", "a"], .file "t".toUTF8)]
  workDir := []
  distinct := by simp
  housed := by
    intro l e h
    simp only [List.mem_cons, Prod.mk.injEq, List.not_mem_nil, or_false] at h
    rcases h with h | h | h <;> simp [h]

/-- Neither of the modules requires the other. -/
theorem order_apart :
    ((Requirements.empty.insert "A" []).insert "B" []).order ["A", "B"] = .ok ["A", "B"] := by
  cbv

/-- It has an entry under both modules. -/
theorem compileAll_start :
    ∃ d', compiler.compileAll start =
      (.ok ⟨[⟨"A", "/b/t.js", .compiled [⟨"/x/b/t.js"⟩]⟩,
        ⟨"B", "/t.js", .compiled [⟨"/y/t.js"⟩]⟩], 0⟩, d') := by
  have horder : compiler.project.order compiler.project.catalog.names = .ok ["A", "B"] :=
    order_apart
  refine ⟨(compiler.compileModules start .empty ["A", "B"]).2, ?_⟩
  rw [Compiler.compileAll, horder]
  decide +kernel

theorem not_ownersAgree_within : ¬compiler.OwnersAgree start := by
  intro h
  obtain ⟨d', hcompile⟩ := compileAll_start
  have hsource : outer.sourceFile? "/b/t.js" = some ⟨"/a/b/t.js"⟩ := by decide
  have howner := h _ _ hcompile _ outer _ ⟨List.mem_cons_self, List.mem_cons_self, rfl, hsource⟩
  have hinner : compiler.project.catalog.owner? ⟨"/a/b/t.js"⟩ = some inner := rfl
  have hname : "B" = "A" := congrArg Module.name (Option.some.inj (hinner.symm.trans howner))
  exact absurd hname (by decide)

/-- The outer module with a source root of its own. -/
def beside : Module :=
  (Module.ofManifest? ⟨"/a"⟩ { ModuleManifest.empty with
    name := some "A", src := some "src", dest := Keyed.empty.insert "es6" "../x" }).get (by decide)

def separated : Compiler Unit where
  project := Project.ofParts ⟨"/"⟩ { ProjectManifest.empty with languages := ["es6"] }
    (Catalog.ofModules [beside, inner])
  parse := fun _ _ => .ok ()
  translators := .empty

/-- A source of each module. -/
def stocked : Disk where
  entries := [(["a"], .directory), (["src", "a"], .directory), (["b", "a"], .directory),
    (["s.js", "src", "a"], .file "s".toUTF8), (["t.js", "b", "a"], .file "t".toUTF8)]
  workDir := []
  distinct := by simp
  housed := by
    intro l e h
    simp only [List.mem_cons, Prod.mk.injEq, List.not_mem_nil, or_false] at h
    rcases h with h | h | h | h | h <;> simp [h]

theorem separate_beside : separated.project.catalog.Separate := by
  have hmodules : separated.project.catalog.modules = [beside, inner] := rfl
  have hbeside : beside.sourceRoot? = some ⟨"/a/src"⟩ := by decide
  have hinner : inner.sourceRoot? = some ⟨"/a/b"⟩ := by decide
  intro m hm root hroot
  rw [hmodules] at hm ⊢
  simp only [List.mem_cons, List.not_mem_nil, or_false] at hm
  rcases hm with rfl | rfl
  · obtain rfl := Option.some.inj (hbeside.symm.trans hroot)
    refine ⟨by decide, fun n hn hne => ?_⟩
    simp only [List.mem_cons, List.not_mem_nil, or_false, hne, false_or] at hn
    rw [hn]
    decide
  · obtain rfl := Option.some.inj (hinner.symm.trans hroot)
    refine ⟨by decide, fun n hn hne => ?_⟩
    simp only [List.mem_cons, List.not_mem_nil, or_false, hne] at hn
    rw [hn]
    decide

/-- Each source is compiled under its owner, and a later request for it follows the build up. -/
theorem owner_of_separated :
    separated.project.catalog.Separate ∧
      ∃ report d', separated.compileAll stocked = (.ok report, d') ∧
        report.files = [⟨"A", "/s.js", .compiled [⟨"/x/s.js"⟩]⟩,
          ⟨"B", "/t.js", .compiled [⟨"/y/t.js"⟩]⟩] ∧
        separated.project.catalog.owner? ⟨"/a/b/t.js"⟩ = some inner ∧
        separated.FollowedUp d' ⟨"B", "/t.js", .compiled [⟨"/y/t.js"⟩]⟩ inner ⟨"/a/b/t.js"⟩ := by
  have horder : separated.project.order separated.project.catalog.names = .ok ["A", "B"] :=
    order_apart
  have hcompile : separated.compileAll stocked =
      (.ok ⟨[⟨"A", "/s.js", .compiled [⟨"/x/s.js"⟩]⟩, ⟨"B", "/t.js", .compiled [⟨"/y/t.js"⟩]⟩], 0⟩,
        (separated.compileModules stocked .empty ["A", "B"]).2) := by
    rw [Compiler.compileAll, horder]
    decide +kernel
  obtain ⟨-, hrecords⟩ := Compiler.owner_of_recorded hcompile
  have hsource : inner.sourceFile? "/t.js" = some ⟨"/a/b/t.js"⟩ := by decide
  obtain ⟨-, hfollowed, howner⟩ := hrecords _ inner _ ⟨List.mem_cons_of_mem _ List.mem_cons_self,
    List.mem_cons_of_mem _ List.mem_cons_self, rfl, hsource⟩
  have hown := (howner separate_beside).1
  exact ⟨separate_beside, _, _, hcompile, rfl, hown, hfollowed hown⟩

end Within

end Polybuild
