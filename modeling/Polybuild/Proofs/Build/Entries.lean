import Polybuild.Proofs.Build.Destinations
import Polybuild.Proofs.Disk.Named

/-!
# What the entries of a report tell

Every entry of a report stands for one request of the build. `compileEach_split` cuts the build of
a module at an entry, and `Built` says of an entry of any build that its file was listed and
compiled at some time of it.
-/

namespace Polybuild

namespace Compiler

open Disk (Placings Extends)

variable {α : Type} {c : Compiler α} {d d' : Disk} {m : Module} {e : FileEntry}
  {entries before after : List FileEntry} {relatives : List String} {relative name : String}
  {lang : Option String} {report : BuildReport}

/-- The first entry stands for a request on the disk that the build starts from. -/
theorem compileEach_eq_cons (h : c.compileEach d m relatives = (e :: entries, d')) :
    ∃ rest result below, relatives = e.path :: rest ∧ c.compile d m e.path none = (result, below) ∧
      e = ⟨m.name, e.path, status result⟩ ∧ c.compileEach below m rest = (entries, d') := by
  cases relatives with
  | nil => simp [compileEach] at h
  | cons relative rest =>
      cases hcompile : c.compile d m relative none with
      | mk result below =>
          cases hrest : c.compileEach below m rest with
          | mk others last =>
              simp only [compileEach, hcompile, hrest, Prod.mk.injEq, List.cons.injEq] at h
              obtain ⟨⟨rfl, rfl⟩, rfl⟩ := h
              exact ⟨rest, result, below, rfl, hcompile, rfl, hrest⟩

theorem paths_of_compileEach (h : c.compileEach d m relatives = (entries, d')) :
    relatives = entries.map (·.path) := by
  induction entries generalizing d relatives with
  | nil =>
      cases relatives with
      | nil => rfl
      | cons relative rest => simp [compileEach] at h
  | cons e entries ih =>
      obtain ⟨rest, result, below, rfl, -, -, hrest⟩ := compileEach_eq_cons h
      rw [ih hrest, List.map_cons]

/-- The build of a module up to an entry, the request that the entry stands for, and the rest. -/
theorem compileEach_split (h : c.compileEach d m relatives = (before ++ e :: after, d')) :
    ∃ now result below, c.compileEach d m (before.map (·.path)) = (before, now) ∧
      c.compile now m e.path none = (result, below) ∧ e = ⟨m.name, e.path, status result⟩ ∧
      c.compileEach below m (after.map (·.path)) = (after, d') := by
  induction before generalizing d relatives with
  | nil =>
      obtain ⟨rest, result, below, -, hcompile, he, hrest⟩ := compileEach_eq_cons h
      obtain rfl := paths_of_compileEach hrest
      exact ⟨d, result, below, rfl, hcompile, he, hrest⟩
  | cons first before ih =>
      obtain ⟨rest, result, below, -, hcompile, hfirst, hrest⟩ := compileEach_eq_cons h
      obtain ⟨now, result', below', hbefore, hcompile', he, hafter⟩ := ih hrest
      refine ⟨now, result', below', ?_, hcompile', he, hafter⟩
      simp only [List.map_cons, compileEach, hcompile, hbefore, ← hfirst]

theorem status_eq_compiled {result : Except CompileError Outcome} {outputs : List Path}
    (h : status result = .compiled outputs) : result = .ok (.compiled outputs) := by
  cases result with
  | error error => simp [status] at h
  | ok outcome =>
      cases outcome with
      | skipped reason => simp [status] at h
      | compiled outputs' =>
          obtain rfl : outputs' = outputs := by simpa [status] using h
          rfl

/-- What is skipped changes nothing. -/
theorem eq_of_isSkipped {result : Except CompileError Outcome}
    (h : c.compile d m relative lang = (result, d'))
    (hskipped : (⟨m.name, relative, status result⟩ : FileEntry).isSkipped = true) : d' = d := by
  cases result with
  | error error => simp [FileEntry.isSkipped, status] at hskipped
  | ok outcome =>
      cases outcome with
      | skipped reason => exact compile_eq_skipped h
      | compiled outputs => simp [FileEntry.isSkipped, status] at hskipped

/-- An entry of a build: its file was listed among the sources of its module, and compiled on a
disk that the build has extended since. -/
structure Built (c : Compiler α) (d d' : Disk) (m : Module) (e : FileEntry) : Prop where
  name : e.moduleName = m.name
  listed : ∃ listing : Disk, (d.Named → listing.Named) ∧ e.path ∈ listing.sources m
  compiled : ∃ now result below, c.compile now m e.path none = (result, below) ∧
    e.status = status result ∧ Extends below d'

theorem Built.of_named (h : c.Built d d' m e) {first : Disk} (hnamed : first.Named → d.Named) :
    c.Built first d' m e where
  name := h.name
  listed := by
    obtain ⟨listing, hlisting, hpath⟩ := h.listed
    exact ⟨listing, fun hfirst => hlisting (hnamed hfirst), hpath⟩
  compiled := h.compiled

theorem Built.extend (h : c.Built d d' m e) {last : Disk} (hext : Extends d' last) :
    c.Built d last m e where
  name := h.name
  listed := h.listed
  compiled := by
    obtain ⟨now, result, below, hcompile, hstatus, hbelow⟩ := h.compiled
    exact ⟨now, result, below, hcompile, hstatus, hbelow.trans hext⟩

/-- The build of a module compiles the sources that it lists at the start. -/
theorem compileEach_of_compileModule (h : c.compileModule d name = (.ok report, d')) :
    ∃ m, c.project.catalog.get? name = some m ∧
      c.compileEach d m (d.sources m) = (report.files, d') := by
  unfold compileModule compileSources at h
  split at h
  · simp at h
  · rename_i m hm
    simp only [Prod.mk.injEq, Except.ok.injEq] at h
    obtain ⟨rfl, rfl⟩ := h
    exact ⟨m, hm, rfl⟩

theorem built_of_compileModule (h : c.compileModule d name = (.ok report, d'))
    (he : e ∈ report.files) : ∃ m ∈ c.project.catalog.modules, c.Built d d' m e := by
  obtain ⟨m, hm, hrun⟩ := compileEach_of_compileModule h
  obtain ⟨before, after, hfiles⟩ := List.append_of_mem he
  rw [hfiles] at hrun
  obtain ⟨now, result, below, -, hcompile, hentry, hafter⟩ := compileEach_split hrun
  refine ⟨m, Catalog.mem_of_get? hm, by rw [hentry], ⟨d, id, ?_⟩, now, result, below, hcompile,
    by rw [hentry], (placings_of_compileEach hafter).extension⟩
  rw [paths_of_compileEach hrun]
  simp

/-- Every entry of a build of modules stands for a request of it, unless it was there before. -/
theorem built_of_compileModules {names : List String} {last : BuildReport}
    (h : c.compileModules d report names = (.ok last, d')) (he : e ∈ last.files) :
    e ∈ report.files ∨ ∃ m ∈ c.project.catalog.modules, c.Built d d' m e := by
  induction names generalizing d report with
  | nil =>
      simp only [compileModules, Prod.mk.injEq, Except.ok.injEq] at h
      obtain ⟨rfl, rfl⟩ := h
      exact Or.inl he
  | cons name rest ih =>
      rw [compileModules] at h
      split at h
      · simp at h
      · rename_i more below hmodule
        have hext := (placings_of_compileModules h).extension
        have hnamed := (placings_of_compileModule hmodule).named
        rcases ih h with hmem | ⟨m, hm, hbuilt⟩
        · rw [BuildReport.merge, List.mem_append] at hmem
          rcases hmem with hmem | hmem
          · exact Or.inl hmem
          · obtain ⟨m, hm, hbuilt⟩ := built_of_compileModule hmodule hmem
            exact Or.inr ⟨m, hm, hbuilt.extend hext⟩
        · exact Or.inr ⟨m, hm, hbuilt.of_named hnamed⟩

theorem built_of_compileAll (h : c.compileAll d = (.ok report, d'))
    (he : e ∈ report.files) : ∃ m ∈ c.project.catalog.modules, c.Built d d' m e := by
  unfold compileAll at h
  split at h
  · simp at h
  · exact (built_of_compileModules h he).resolve_left List.not_mem_nil

end Compiler

end Polybuild
