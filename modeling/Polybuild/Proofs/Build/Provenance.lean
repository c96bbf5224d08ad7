import Polybuild.Proofs.Build.Destinations
import Polybuild.Proofs.Module.Sources

/-!
# Where the files of a session come from

A session is a list of requests of all kinds, with edits of the disk in between. `Origin` says what
a file that is written may be: the file of a bundle, or the translation of a source that was there
and that its module accepts under its canonical relative path. What one request does is a chain of
placings on such paths, so this holds of all requests of every session. A file that is excluded is
never compiled, because a request filters the plain spelling of its path and no other.
-/

namespace Polybuild

/-- A call that may write files. -/
inductive Request where
  | compile (m : Module) (relative : String) (lang : Option String)
  | compileFile (file : Path)
  | compileModule (name : String)
  | compileAll
  | refreshBundles (m : Module)
  | buildAllBundles
  | handleChange (file : Path)

/-- The modules that are handed over with a request. -/
def Request.modules : Request → List Module
  | compile m _ _ => [m]
  | _ => []

/-- What happens in a session: the disk is edited, or a request is made. -/
inductive Event where
  | edit (d : Disk)
  | request (r : Request)

def Event.modules : Event → List Module
  | edit _ => []
  | request r => r.modules

/-- A request with the disk before and the disk after it. -/
structure Answered where
  request : Request
  before : Disk
  after : Disk

/-- The plain relative path of a file is excluded. -/
def Module.Excludes (m : Module) (file : Path) : Prop :=
  ∃ plain, m.relativePath? file = some plain ∧ m.filter.excludes plain = true

namespace Compiler

open Disk (Placings)

variable {α : Type} {c : Compiler α} {d d' : Disk} {m : Module} {relative : String}
  {lang : Option String} {langs : List String} {file p : Path} {ms : List Module}

/-- The disk after a request. -/
def perform (c : Compiler α) (d : Disk) : Request → Disk
  | .compile m relative lang => (c.compile d m relative lang).2
  | .compileFile file => (c.compileFile d file).2
  | .compileModule name => (c.compileModule d name).2
  | .compileAll => (c.compileAll d).2
  | .refreshBundles m => (d.refreshBundles c.project m).2
  | .buildAllBundles => (d.buildAllBundles c.project).2
  | .handleChange file => (c.handleChange d file).2

/-- The requests of a session. -/
def history (c : Compiler α) (d : Disk) : List Event → List Answered
  | [] => []
  | .edit d' :: rest => c.history d' rest
  | .request r :: rest => ⟨r, d, c.perform d r⟩ :: c.history (c.perform d r) rest

/-- The modules of the project, and those that are handed over in a session. -/
def concerned (c : Compiler α) (events : List Event) : List Module :=
  c.project.catalog.modules ++ events.flatMap Event.modules

/-- What a file may be that is written on a disk. -/
inductive Origin (c : Compiler α) (ms : List Module) (d : Disk) : Path → Prop where
  | bundle {b : Bundle} {p : Path} (declared : b ∈ c.project.manifest.assets)
      (path : c.project.bundlePath? b = some p) : c.Origin ms d p
  | translation {m : Module} {relative lang : String} {root file dest p : Path} (known : m ∈ ms)
      (canonical : Module.Canonical relative) (accepted : m.accepts relative = true)
      (recognized : (sourceKind? relative).isSome = true)
      (sourceRoot : m.sourceRoot? = some root) (source : m.sourceFile? relative = some file)
      (inside : root.Inside file) (there : d.isFile file = true)
      (destRoot : m.destRoot? lang = some dest) (path : m.destFile? relative lang = some p)
      (below : dest.Inside p) : c.Origin ms d p

theorem origin_of_writes (hm : m ∈ ms) (hrooted : m.Rooted) (h : c.Writes m relative langs d p) :
    c.Origin ms d p := by
  obtain ⟨file, hsource, hthere⟩ := h.source
  obtain ⟨file', plain, hsource', hplain, haccepts, hp⟩ := mem_destinations.1 h.mem
  obtain rfl : file = file' := Option.some.inj (hsource.symm.trans hsource')
  obtain ⟨kind, lang, hkind, -, -, hdest⟩ := mem_plainDestinations.1 hp
  obtain ⟨root, hroot, hbeneath⟩ := Module.sourceFile?_eq_some_iff.1 hsource
  obtain ⟨dest, hdestRoot, hbelow⟩ := Module.destFile?_eq_some_iff.1 hdest
  obtain ⟨hcanonical, hnamed⟩ := Module.sourceFile?_of_relativePath? hrooted.source hplain
  rw [(Path.isNormal_of_beneath? hbeneath).normalize_eq] at hnamed
  have hinside : root.Inside file := Path.inside_of_beneath?
    (Module.isNormal_of_sourceRoot? hroot) (hrooted.source root hroot) hbeneath
  have hdestInside : dest.Inside p := Path.inside_of_beneath?
    (Module.isNormal_of_destRoot? hdestRoot) (hrooted.dest lang dest hdestRoot) hbelow
  have hrecognized : (sourceKind? plain).isSome = true := by simp [hkind]
  exact .translation hm hcanonical haccepts hrecognized hroot hnamed hinside hthere hdestRoot hdest
    hdestInside

theorem origin_of_writesSome (hrooted : ∀ m ∈ ms, m.Rooted) (h : c.WritesSome ms d p) :
    c.Origin ms d p := by
  obtain ⟨m, hm, relative, langs, hwrites⟩ := h
  exact origin_of_writes hm (hrooted m hm) hwrites

theorem origin_of_writesBundle (h : Disk.WritesBundle c.project c.project.manifest.assets d p) :
    c.Origin ms d p := by
  obtain ⟨b, hb, hpath⟩ := h
  exact .bundle hb hpath

/-! ## Requests -/

theorem placings_of_compileFile {result : Except CompileError Outcome}
    (h : c.compileFile d file = (result, d')) :
    Placings (c.WritesSome c.project.catalog.modules) d d' := by
  unfold compileFile at h
  split at h
  · obtain ⟨-, rfl⟩ := Prod.mk.inj h
    exact .refl
  · rename_i m howner
    split at h
    · obtain ⟨-, rfl⟩ := Prod.mk.inj h
      exact .refl
    · rename_i relative hrelative
      exact (placings_of_compile h).mono fun e p _ hp =>
        ⟨m, Catalog.mem_of_owner? howner, relative, _, hp⟩

/-- What a change writes has an origin: the outputs of the file, and then bundles. -/
theorem placings_of_handleChange (hrooted : ∀ m ∈ c.project.catalog.modules, m.Rooted) :
    Placings (c.Origin c.project.catalog.modules) d (c.handleChange d file).2 := by
  cases howner : c.project.catalog.owner? file with
  | none =>
      simp only [handleChange, howner]
      exact .refl
  | some m =>
      cases hrelative : m.relativePath? file with
      | none =>
          simp only [handleChange, howner, hrelative]
          exact .refl
      | some relative =>
          have hm := Catalog.mem_of_owner? howner
          obtain ⟨change, changed, hchange, -, -, hbundles⟩ :=
            exists_handleChange howner hrelative d
          have hcompiled : Placings (c.Origin c.project.catalog.modules) d
              (c.compile d m relative none).2 :=
            (placings_of_compile rfl).mono fun e p _ hp => origin_of_writes hm (hrooted m hm) hp
          rw [hchange]
          exact hcompiled.trans (hbundles.mono fun e p _ hp => origin_of_writesBundle hp)

theorem Origin.mono {ms' : List Module} (h : c.Origin ms d p) (hsub : ∀ m ∈ ms, m ∈ ms') :
    c.Origin ms' d p := by
  cases h with
  | bundle declared path => exact .bundle declared path
  | translation known canonical accepted recognized sourceRoot source inside there destRoot path
      below =>
      exact .translation (hsub _ known) canonical accepted recognized sourceRoot source inside there
        destRoot path below

/-- What a request writes has an origin. -/
theorem placings_of_perform (r : Request) (hproject : ∀ m ∈ c.project.catalog.modules, m ∈ ms)
    (hhanded : ∀ m ∈ r.modules, m ∈ ms) (hrooted : ∀ m ∈ ms, m.Rooted) :
    Placings (c.Origin ms) d (c.perform d r) := by
  have hsome : ∀ {d'}, Placings (c.WritesSome c.project.catalog.modules) d d' →
      Placings (c.Origin ms) d d' := fun hrun =>
    hrun.mono fun e p _ hp =>
      (origin_of_writesSome (fun m hm => hrooted m (hproject m hm)) hp).mono hproject
  have hbundles : ∀ {d'}, Placings (Disk.WritesBundle c.project c.project.manifest.assets) d d' →
      Placings (c.Origin ms) d d' := fun hrun =>
    hrun.mono fun e p _ hp => origin_of_writesBundle hp
  cases r with
  | compile m relative lang =>
      have hm : m ∈ ms := hhanded m List.mem_cons_self
      exact (placings_of_compile rfl).mono fun e p _ hp => origin_of_writes hm (hrooted m hm) hp
  | compileFile file => exact hsome (placings_of_compileFile rfl)
  | compileModule name => exact hsome (placings_of_compileModule rfl)
  | compileAll => exact hsome (placings_of_compileAll rfl)
  | refreshBundles m => exact hbundles (Disk.placings_of_refreshBundles rfl)
  | buildAllBundles => exact hbundles (Disk.placings_of_buildBundles (fun _ hb => hb) rfl)
  | handleChange file =>
      have hrun : Placings (c.Origin c.project.catalog.modules) d (c.handleChange d file).2 :=
        placings_of_handleChange fun m hm => hrooted m (hproject m hm)
      exact hrun.mono fun e p _ hp => hp.mono hproject

theorem mem_history {events : List Event} {step : Answered} (h : step ∈ c.history d events) :
    Event.request step.request ∈ events ∧ step.after = c.perform step.before step.request := by
  induction events generalizing d with
  | nil => simp [history] at h
  | cons event rest ih =>
      cases event with
      | edit d' =>
          obtain ⟨hmem, hafter⟩ := ih h
          exact ⟨List.mem_cons_of_mem _ hmem, hafter⟩
      | request r =>
          rcases List.mem_cons.1 h with rfl | h
          · exact ⟨List.mem_cons_self, rfl⟩
          · obtain ⟨hmem, hafter⟩ := ih h
            exact ⟨List.mem_cons_of_mem _ hmem, hafter⟩

/-! ## Excluded files -/

/-- A request filters the plain spelling of the path, however it was spelled. -/
theorem compile_of_excludes (hsource : m.sourceFile? relative = some file)
    (hexcludes : m.Excludes file) (d : Disk) (lang : Option String) :
    c.compile d m relative lang = (.ok (.skipped .excluded), d) := by
  obtain ⟨plain, hplain, hexcluded⟩ := hexcludes
  obtain ⟨root, hroot, -⟩ := Module.sourceFile?_eq_some_iff.1 hsource
  have haccepts : m.accepts plain = false := SourceFilter.accepts_of_excludes hexcluded
  have hplan : c.plan d m relative lang = .skip .excluded := by
    simp [plan, hroot, hsource, hplain, planFile, haccepts]
  simp [compile, hplan]

theorem compileFile_of_excludes (hrooted : m.Rooted)
    (howner : c.project.catalog.owner? file = some m) (hexcludes : m.Excludes file) (d : Disk) :
    c.compileFile d file = (.ok (.skipped .excluded), d) ∧
      c.handleChange d file =
        (some ⟨file, m.name, .ok (.skipped .excluded), [], none⟩, d) := by
  obtain ⟨plain, hplain, hexcluded⟩ := hexcludes
  obtain ⟨-, hsource⟩ := Module.sourceFile?_of_relativePath? hrooted.source hplain
  have hnormal : m.relativePath? file.normalize = some plain := by
    rw [← hplain, Module.relativePath?, Module.relativePath?, Path.normalize_normalize]
  have hcompile : c.compile d m plain none = (.ok (.skipped .excluded), d) :=
    compile_of_excludes hsource ⟨plain, hnormal, hexcluded⟩ d none
  constructor
  · simp only [compileFile, howner, hplain, hcompile]
  · simp only [handleChange, howner, hplain, hcompile]
    rfl

/-- In every session, what a request writes are bundles and translations of accepted sources; a
file that differs after a request is one of them. An excluded file is never compiled. -/
theorem written_files_have_origin (c : Compiler α) (d : Disk) (events : List Event)
    (hrooted : ∀ m ∈ c.concerned events, m.Rooted) :
    (∀ step ∈ c.history d events,
      Placings (c.Origin (c.concerned events)) step.before step.after ∧
        ∀ l, step.after.fileAt? l ≠ step.before.fileAt? l →
          ∃ e p, Disk.Extends step.before e ∧ Disk.Extends e step.after ∧
            c.Origin (c.concerned events) e p ∧ step.before.target p = l) ∧
      ∀ m ∈ c.concerned events, ∀ file, m.Excludes file → ∀ d,
        (∀ relative lang, m.sourceFile? relative = some file →
          c.compile d m relative lang = (.ok (.skipped .excluded), d)) ∧
        (c.project.catalog.owner? file = some m →
          c.compileFile d file = (.ok (.skipped .excluded), d) ∧
            c.handleChange d file =
              (some ⟨file, m.name, .ok (.skipped .excluded), [], none⟩, d)) := by
  constructor
  · intro step hstep
    obtain ⟨hmem, hafter⟩ := mem_history hstep
    have hhanded : ∀ m ∈ step.request.modules, m ∈ c.concerned events := fun m hm =>
      List.mem_append_right _ (List.mem_flatMap.2 ⟨_, hmem, hm⟩)
    have hrun : Placings (c.Origin (c.concerned events)) step.before step.after := by
      rw [hafter]
      exact placings_of_perform _ (fun m hm => List.mem_append_left _ hm) hhanded hrooted
    exact ⟨hrun, fun l hl => hrun.exists_allowed hl⟩
  · intro m hm file hexcludes d
    refine ⟨fun relative lang hsource => compile_of_excludes hsource hexcludes d lang, ?_⟩
    exact fun howner => compileFile_of_excludes (hrooted m hm) howner hexcludes d

end Compiler

/-! ## A session with paths that take detours -/

namespace Session

/-- A module that keeps a directory of its sources out. -/
def guarded : Module :=
  (Module.ofManifest? ⟨"/m"⟩ { ModuleManifest.empty with
    name := some "M", src := some ".", dest := Keyed.empty.insert "es6" "o",
    exclude := ["gen/"] }).get (by decide)

/-- A compiler that ends each translation with a mark. -/
def compiler : Compiler String where
  project := Project.ofParts ⟨"/"⟩ { ProjectManifest.empty with languages := ["es6"] }
    (Catalog.ofModules [guarded])
  parse := fun text _ => .ok text
  translators := Translators.empty.insert "es6" (· ++ ";")

/-- A source, and one in the directory that is kept out. -/
def sources : Disk where
  entries := [(["m"], .directory), (["gen", "m"], .directory), (["s.bay", "m"], .file "x".toUTF8),
    (["t.bay", "gen", "m"], .file "y".toUTF8)]
  workDir := []
  distinct := by decide
  housed := by
    intro l e h
    simp only [List.mem_cons, Prod.mk.injEq, List.not_mem_nil, or_false] at h
    rcases h with h | h | h | h <;> simp [h]

/-- The user brings the sources, and both of them are asked for on a detour. -/
def events : List Event :=
  [.edit sources, .request (.compile guarded "/gen/../s.bay" none),
    .request (.compile guarded "/./gen/x/../t.bay" none)]

theorem rooted_guarded : guarded.Rooted where
  source := by decide
  dest := by
    intro lang root hroot
    obtain ⟨dest, hdest, rfl⟩ := Option.map_eq_some_iff.1 hroot
    have hlang : (Keyed.empty.insert "es6" "o").get? lang = some dest := hdest
    rw [Keyed.get?_insert] at hlang
    split at hlang
    · obtain rfl := Option.some.inj hlang
      decide
    · simp at hlang

theorem excludes_gen : guarded.Excludes ⟨"/m/gen/t.bay"⟩ :=
  ⟨"/gen/t.bay", by decide, by decide +kernel⟩

/-- The one source is translated inside the destination root, the other one is left alone. -/
theorem origin_of_session :
    (∀ m ∈ compiler.concerned events, m.Rooted) ∧
      ∃ first second, compiler.history .empty events = [first, second] ∧
        first.before.fileAt? ["s.js", "o", "m"] = none ∧
        first.after.fileAt? ["s.js", "o", "m"] = some "x;".toUTF8 ∧
        (∃ e p, compiler.Origin (compiler.concerned events) e p ∧
          first.before.target p = ["s.js", "o", "m"]) ∧
        compiler.compile second.before guarded "/./gen/x/../t.bay" none =
          (.ok (.skipped .excluded), second.before) := by
  have hrooted : ∀ m ∈ compiler.concerned events, m.Rooted := by
    have hconcerned : compiler.concerned events = [guarded, guarded, guarded] := rfl
    rw [hconcerned]
    simpa using rooted_guarded
  obtain ⟨hsteps, hexcluded⟩ := Compiler.written_files_have_origin compiler .empty events hrooted
  have hbefore : sources.fileAt? ["s.js", "o", "m"] = none := by decide
  have hafter : (compiler.perform sources (.compile guarded "/gen/../s.bay" none)).fileAt?
      ["s.js", "o", "m"] = some "x;".toUTF8 := by
    decide +kernel
  refine ⟨hrooted, _, _, rfl, hbefore, hafter, ?_, ?_⟩
  · obtain ⟨-, hchanged⟩ := hsteps _ List.mem_cons_self
    obtain ⟨e, p, -, -, horigin, htarget⟩ := hchanged ["s.js", "o", "m"] (by
      rw [hbefore, hafter]
      simp)
    exact ⟨e, p, horigin, htarget⟩
  · have hmem : guarded ∈ compiler.concerned events := List.mem_cons_self
    exact (hexcluded guarded hmem ⟨"/m/gen/t.bay"⟩ excludes_gen _).1 _ _ (by decide)

end Session

end Polybuild
